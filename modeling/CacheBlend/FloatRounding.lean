import Mathlib.Algebra.Order.Floor.Ring
import Mathlib.Data.Int.Log
import Mathlib.Data.Rat.Floor

/-!
# Rounding to binary floats

A float of some precision is a whole multiple of its unit, the power of two of
the last bit of its mantissa. Rounding takes the nearest multiple, and the even
one of two that are equally near. It keeps the order, since a power of two lies
between numbers of different units and is a multiple of both.
-/

set_option autoImplicit false

namespace CacheBlend.FloatRounding

/-! ## The nearest integer -/

/-- The nearest integer, and the even one of two. -/
def nearestEven (q : ℚ) : ℤ :=
  if 1 < 2*Int.fract q ∨ 2*Int.fract q = 1 ∧ ⌊q⌋%2 = 1 then ⌊q⌋+1 else ⌊q⌋

theorem nearestEven_intCast (n : ℤ) : nearestEven n = n := by
  unfold nearestEven
  rw [Int.fract_intCast, Int.floor_intCast]
  norm_num

theorem nearestEven_mono {q r : ℚ} (h : q ≤ r) : nearestEven q ≤ nearestEven r := by
  have hfloor : ⌊q⌋ ≤ ⌊r⌋ := Int.floor_le_floor h
  by_cases he : ⌊q⌋ = ⌊r⌋
  · have hfract : Int.fract q ≤ Int.fract r := by
      unfold Int.fract
      rw [he]
      linarith
    unfold nearestEven
    split_ifs with hq hr hr
    · omega
    · refine absurd ?_ hr
      obtain hq | ⟨hq, hodd⟩ := hq
      · exact Or.inl (by linarith)
      · obtain hlt | heq := hfract.lt_or_eq
        · exact Or.inl (by linarith)
        · exact Or.inr ⟨by linarith, he ▸ hodd⟩
    · omega
    · omega
  · unfold nearestEven
    split_ifs <;> omega

/-! ## The nearest float -/

section
variable (precision : ℕ) (least : ℤ)

/-- The exponent of the unit of a number. -/
def unitExponent (q : ℚ) : ℤ := max (Int.log 2 q+1-precision) least

/-- The nearest float that has a precision and a least exponent. -/
def rounded (q : ℚ) : ℚ :=
  nearestEven (q/2^unitExponent precision least q)*2^unitExponent precision least q

theorem unit_pos (e : ℤ) : (0 : ℚ) < 2^e := zpow_pos (by norm_num) e

/-- A power of two in terms of a smaller one. -/
theorem zpow_div {e k : ℤ} (h : e ≤ k) : (2 : ℚ)^k/2^e = ((2^(k-e).toNat : ℤ) : ℚ) := by
  rw [← zpow_sub₀ (by norm_num : (2 : ℚ) ≠ 0)]
  push_cast
  rw [← zpow_natCast, Int.toNat_of_nonneg (by omega)]

theorem rounded_le {q : ℚ} {k : ℤ} (hk : unitExponent precision least q ≤ k) (h : q ≤ 2^k) :
    rounded precision least q ≤ 2^k := by
  have hu := unit_pos (unitExponent precision least q)
  unfold rounded
  rw [← le_div_iff₀ hu, zpow_div hk, Int.cast_le, ← nearestEven_intCast (2^_), ← zpow_div hk]
  exact nearestEven_mono (div_le_div_of_nonneg_right h hu.le)

theorem le_rounded {q : ℚ} {k : ℤ} (hk : unitExponent precision least q ≤ k) (h : 2^k ≤ q) :
    2^k ≤ rounded precision least q := by
  have hu := unit_pos (unitExponent precision least q)
  unfold rounded
  rw [← div_le_iff₀ hu, zpow_div hk, Int.cast_le, ← nearestEven_intCast (2^_), ← zpow_div hk]
  exact nearestEven_mono (div_le_div_of_nonneg_right h hu.le)

theorem rounded_zero : rounded precision least 0 = 0 := by
  unfold rounded
  rw [zero_div, ← Int.cast_zero, nearestEven_intCast, Int.cast_zero, zero_mul]

theorem rounded_nonneg {q : ℚ} (h : 0 ≤ q) : 0 ≤ rounded precision least q := by
  have hu := unit_pos (unitExponent precision least q)
  have hn : 0 ≤ nearestEven (q/2^unitExponent precision least q) := by
    rw [← nearestEven_intCast 0]
    exact nearestEven_mono (by rw [Int.cast_zero]; positivity)
  exact mul_nonneg (Int.cast_nonneg hn) hu.le

theorem rounded_mono (hp : 0 < precision) {q r : ℚ} (h0 : 0 ≤ q) (h : q ≤ r) :
    rounded precision least q ≤ rounded precision least r := by
  obtain rfl | hq := h0.eq_or_lt
  · rw [rounded_zero]
    exact rounded_nonneg precision least h
  have hlog : Int.log 2 q ≤ Int.log 2 r := Int.log_mono_right hq h
  have hqlog : q < 2^(Int.log 2 q+1) := by
    exact_mod_cast Int.lt_zpow_succ_log_self (by norm_num : 1 < 2) q
  have hrlog : 2^Int.log 2 r ≤ r := by
    exact_mod_cast Int.zpow_log_le_self (by norm_num : 1 < 2) (hq.trans_le h)
  by_cases he : unitExponent precision least q = unitExponent precision least r
  · have hu := unit_pos (unitExponent precision least r)
    unfold rounded
    rw [he]
    refine mul_le_mul_of_nonneg_right (Int.cast_le.mpr (nearestEven_mono ?_)) hu.le
    exact div_le_div_of_nonneg_right h hu.le
  · -- the first power of two of the larger number lies between the two
    unfold unitExponent at he
    calc rounded precision least q
        ≤ 2^Int.log 2 r := by
          refine rounded_le precision least (by unfold unitExponent; omega) ?_
          exact hqlog.le.trans (zpow_le_zpow_right₀ (by norm_num) (by omega))
      _ ≤ rounded precision least r :=
          le_rounded precision least (by unfold unitExponent; omega) hrlog

/-- An integer that the mantissa has room for is a float. -/
theorem rounded_natCast (hl : least ≤ 0) {n : ℕ} (h : n < 2^precision) :
    rounded precision least n = n := by
  obtain rfl | hn := Nat.eq_zero_or_pos n
  · exact rounded_zero precision least
  have hlog : Nat.log 2 n < precision := Nat.log_lt_of_lt_pow hn.ne' h
  have he : unitExponent precision least (n : ℚ) ≤ 0 := by
    unfold unitExponent
    rw [Int.log_natCast]
    omega
  have hu := unit_pos (unitExponent precision least (n : ℚ))
  have hdiv : (n : ℚ)/2^unitExponent precision least (n : ℚ) =
      (((n : ℤ)*2^(0-unitExponent precision least (n : ℚ)).toNat : ℤ) : ℚ) := by
    rw [Int.cast_mul, ← zpow_div he, zpow_zero, Int.cast_natCast, mul_one_div]
  unfold rounded
  rw [hdiv, nearestEven_intCast, ← hdiv, div_mul_cancel₀ _ hu.ne']

end

end CacheBlend.FloatRounding
