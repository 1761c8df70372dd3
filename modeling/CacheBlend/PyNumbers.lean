import CacheBlend.FloatRounding
import Mathlib.Data.Nat.Size

/-!
# Integers and floats

A number is an integer or a float, and a float that is finite is its value.
An integer is read as the nearest float, with ties to the even mantissa. One
that is too large has no float. The product of a count and a ratio is rounded
in the same way; what it is used for needs no more than its order and its bound.
-/

set_option autoImplicit false

namespace CacheBlend

inductive PyNumber where
  | integer (n : ℤ)
  | float (q : ℚ)
  | nonFinite
  deriving DecidableEq

/-- What `float(value)` gives: a finite value, an infinity or NaN, or an `OverflowError`. -/
inductive FloatReading where
  | finite (q : ℚ)
  | nonFinite
  | overflow
  deriving DecidableEq

def nearestFloat (n : ℕ) : ℕ :=
  let unit := 2^(n.size-53)
  let mantissa := n/unit
  let rest := n%unit
  if unit < 2*rest ∨ unit = 2*rest ∧ mantissa%2 = 1 then (mantissa+1)*unit else mantissa*unit

def floatOf : PyNumber → FloatReading
  | .integer n =>
    if nearestFloat n.natAbs < 2^1024 then .finite (n.sign*nearestFloat n.natAbs) else .overflow
  | .float q => .finite q
  | .nonFinite => .nonFinite

/-- A product of a count and a ratio, exact or rounded. -/
structure RatioProduct where
  value : ℕ → ℚ → ℚ
  mono : ∀ count {r r' : ℚ}, 0 ≤ r → r ≤ r' → value count r ≤ value count r'
  le_count : ∀ count r, count < 2^53 → 0 ≤ r → r ≤ 1 → value count r ≤ count

theorem exact_mono (count : ℕ) {r r' : ℚ} (_ : 0 ≤ r) (h : r ≤ r') :
    (count : ℚ)*r ≤ count*r' := mul_le_mul_of_nonneg_left h (Nat.cast_nonneg count)

theorem exact_le_count (count : ℕ) (r : ℚ) (_ : count < 2^53) (_ : 0 ≤ r) (h : r ≤ 1) :
    (count : ℚ)*r ≤ count := mul_le_of_le_one_right (Nat.cast_nonneg count) h

def exactProduct : RatioProduct := ⟨fun count r => count*r, exact_mono, exact_le_count⟩

/-- `count * ratio` of an integer and a float. -/
def floatProduct (count : ℕ) (r : ℚ) : ℚ := FloatRounding.rounded 53 (-1074) (count*r)

theorem float_mono (count : ℕ) {r r' : ℚ} (h0 : 0 ≤ r) (h : r ≤ r') :
    floatProduct count r ≤ floatProduct count r' :=
  FloatRounding.rounded_mono 53 (-1074) (by decide)
    (mul_nonneg (Nat.cast_nonneg count) h0) (exact_mono count h0 h)

theorem float_le_count (count : ℕ) (r : ℚ) (hc : count < 2^53) (h0 : 0 ≤ r) (h : r ≤ 1) :
    floatProduct count r ≤ count := by
  rw [← FloatRounding.rounded_natCast 53 (-1074) (by decide) hc]
  exact FloatRounding.rounded_mono 53 (-1074) (by decide)
    (mul_nonneg (Nat.cast_nonneg count) h0) (exact_le_count count r hc h0 h)

def roundedProduct : RatioProduct := ⟨floatProduct, float_mono, float_le_count⟩

/-- Seven tenths as a float are a little less, and its product with ten is seven. -/
example : ⌊exactProduct.value 10 (3152519739159347/2^52)⌋₊ = 6 ∧
    ⌊roundedProduct.value 10 (3152519739159347/2^52)⌋₊ = 7 := by decide +kernel

end CacheBlend
