import Mathlib.Algebra.BigOperators.Field
import Mathlib.Algebra.BigOperators.Fin
import Mathlib.Analysis.Convex.StdSimplex
import Mathlib.Analysis.SpecialFunctions.Log.Basic

/-!
# Distances of distributions

Distributions over a finite type are the points of the standard simplex. The
total variation of two of them lies in `[0, 1]`, the Jensen-Shannon divergence
in `[0, log 2]`, and each is zero only for equal distributions. A list in order
of decreasing mass holds, at its front, the heaviest set of every cardinality.
-/

set_option autoImplicit false

namespace CacheBlend.Divergences
noncomputable section
open Finset

instance twoAtLeastTwo : Nat.AtLeastTwo 2 := ⟨le_refl 2⟩

variable {ι : Type*} [Fintype ι]

/-! ## The softmax -/

def softmax (v : ι → ℝ) (i : ι) : ℝ := Real.exp (v i)/∑ j, Real.exp (v j)

theorem total_pos [Nonempty ι] (v : ι → ℝ) : 0 < ∑ j, Real.exp (v j) :=
  sum_pos (fun j _ => Real.exp_pos (v j)) univ_nonempty

theorem softmax_pos [Nonempty ι] (v : ι → ℝ) (i : ι) : 0 < softmax v i :=
  div_pos (Real.exp_pos _) (total_pos v)

theorem softmax_mem [Nonempty ι] (v : ι → ℝ) : softmax v ∈ stdSimplex ℝ ι := by
  refine ⟨fun i => (softmax_pos v i).le, ?_⟩
  show ∑ i, Real.exp (v i)/∑ j, Real.exp (v j) = 1
  rw [← sum_div, div_self (total_pos v).ne']

theorem softmax_shift (v : ι → ℝ) (c : ℝ) : softmax (fun i => v i-c) = softmax v := by
  ext i
  have hexp : ∀ j, Real.exp (v j-c) = Real.exp (v j)/Real.exp c := fun j => Real.exp_sub _ _
  simp only [softmax, hexp]
  rw [← sum_div, div_div_div_cancel_right₀ (Real.exp_ne_zero c)]

/-! ## Total variation -/

def totalVariation (p q : ι → ℝ) : ℝ := (∑ i, |p i-q i|)/2

theorem totalVariation_nonneg (p q : ι → ℝ) : 0 ≤ totalVariation p q :=
  div_nonneg (sum_nonneg fun _ _ => abs_nonneg _) two_pos.le

theorem totalVariation_le_one {p q : ι → ℝ} (hp : p ∈ stdSimplex ℝ ι)
    (hq : q ∈ stdSimplex ℝ ι) : totalVariation p q ≤ 1 := by
  have hterm : ∀ i ∈ univ, |p i-q i| ≤ p i+q i := by
    intro i _
    rw [abs_le]
    constructor <;> linarith [hp.1 i, hq.1 i]
  have hsum : ∑ i, |p i-q i| ≤ 2 := calc
    ∑ i, |p i-q i| ≤ ∑ i, (p i+q i) := sum_le_sum hterm
    _ = 2 := by rw [sum_add_distrib, hp.2, hq.2]; norm_num
  unfold totalVariation
  linarith

theorem totalVariation_eq_zero_iff (p q : ι → ℝ) : totalVariation p q = 0 ↔ p = q := by
  have hz : totalVariation p q = 0 ↔ ∑ i, |p i-q i| = 0 := by
    rw [totalVariation, div_eq_zero_iff]
    simp
  rw [hz, sum_eq_zero_iff_of_nonneg fun _ _ => abs_nonneg _, funext_iff]
  simp only [mem_univ, true_implies, abs_eq_zero, sub_eq_zero]

/-! ## The Jensen-Shannon divergence -/

def mid (a b : ℝ) : ℝ := (a+b)/2

/-- What the mass `a` adds to the divergence of its distribution from the mean. -/
def gain (a b : ℝ) : ℝ := a*Real.log (a/mid a b)

theorem mid_comm (a b : ℝ) : mid a b = mid b a := by
  rw [mid, mid, add_comm]

theorem mid_pos {a b : ℝ} (ha : 0 < a) (hb : 0 ≤ b) : 0 < mid a b := by
  unfold mid
  linarith

theorem gain_ge {a b : ℝ} (ha : 0 ≤ a) (hb : 0 ≤ b) : a-mid a b ≤ gain a b := by
  rcases ha.eq_or_lt with rfl | ha
  · simp only [gain, zero_mul, mid]
    linarith
  have hm : 0 < mid a b := mid_pos ha hb
  have hlog := Real.one_sub_inv_le_log_of_pos (div_pos ha hm)
  have hscaled := mul_le_mul_of_nonneg_left hlog ha.le
  rwa [inv_div, mul_sub, mul_one, mul_div_cancel₀ _ ha.ne'] at hscaled

theorem gain_eq_iff {a b : ℝ} (ha : 0 ≤ a) (hb : 0 ≤ b) : gain a b = a-mid a b ↔ a = b := by
  constructor
  · intro h
    by_contra hne
    rcases ha.eq_or_lt with rfl | ha
    · simp only [gain, zero_mul, mid] at h
      exact hne (by linarith)
    have hm : 0 < mid a b := mid_pos ha hb
    have hratio : mid a b/a ≠ 1 := by
      rw [Ne, div_eq_one_iff_eq ha.ne', mid]
      intro he
      exact hne (by linarith)
    have hlog := Real.log_lt_sub_one_of_pos (div_pos hm ha) hratio
    rw [← inv_div, Real.log_inv] at hlog
    have hscaled := mul_lt_mul_of_pos_left hlog ha
    rw [mul_sub, mul_neg, mul_one, inv_div, mul_div_cancel₀ _ ha.ne'] at hscaled
    unfold gain at h
    linarith
  · rintro rfl
    have hself : mid a a = a := by rw [mid]; ring
    rw [gain, hself, sub_self]
    by_cases hz : a = 0
    · rw [hz, zero_mul]
    · rw [div_self hz, Real.log_one, mul_zero]

theorem gain_le {a b : ℝ} (ha : 0 ≤ a) (hb : 0 ≤ b) : gain a b ≤ a*Real.log 2 := by
  rcases ha.eq_or_lt with rfl | ha
  · simp [gain]
  have hm : 0 < mid a b := mid_pos ha hb
  apply mul_le_mul_of_nonneg_left _ ha.le
  apply Real.log_le_log (div_pos ha hm)
  rw [div_le_iff₀ hm, mid]
  linarith

def jensenShannon (p q : ι → ℝ) : ℝ := ∑ i, (gain (p i) (q i)+gain (q i) (p i))/2

theorem gains_nonneg {a b : ℝ} (ha : 0 ≤ a) (hb : 0 ≤ b) : 0 ≤ (gain a b+gain b a)/2 := by
  have hab := gain_ge ha hb
  have hba := gain_ge hb ha
  rw [mid_comm b a] at hba
  have hmid : mid a b+mid a b = a+b := by rw [mid]; ring
  linarith

theorem gains_eq_zero_iff {a b : ℝ} (ha : 0 ≤ a) (hb : 0 ≤ b) :
    (gain a b+gain b a)/2 = 0 ↔ a = b := by
  have hab := gain_ge ha hb
  have hba := gain_ge hb ha
  rw [mid_comm b a] at hba
  have hmid : mid a b+mid a b = a+b := by rw [mid]; ring
  rw [← gain_eq_iff ha hb]
  constructor
  · intro h
    linarith
  · intro h
    obtain rfl := (gain_eq_iff ha hb).mp h
    linarith

theorem jensenShannon_nonneg {p q : ι → ℝ} (hp : ∀ i, 0 ≤ p i) (hq : ∀ i, 0 ≤ q i) :
    0 ≤ jensenShannon p q :=
  sum_nonneg fun i _ => gains_nonneg (hp i) (hq i)

theorem jensenShannon_le {p q : ι → ℝ} (hp : p ∈ stdSimplex ℝ ι) (hq : q ∈ stdSimplex ℝ ι) :
    jensenShannon p q ≤ Real.log 2 := by
  have hterm : ∀ i ∈ univ, (gain (p i) (q i)+gain (q i) (p i))/2 ≤ (p i+q i)*(Real.log 2/2) := by
    intro i _
    have hpq := gain_le (hp.1 i) (hq.1 i)
    have hqp := gain_le (hq.1 i) (hp.1 i)
    linarith
  calc jensenShannon p q ≤ ∑ i, (p i+q i)*(Real.log 2/2) := sum_le_sum hterm
    _ = Real.log 2 := by
      rw [← sum_mul, sum_add_distrib, hp.2, hq.2]
      ring

theorem jensenShannon_eq_zero_iff {p q : ι → ℝ} (hp : ∀ i, 0 ≤ p i) (hq : ∀ i, 0 ≤ q i) :
    jensenShannon p q = 0 ↔ p = q := by
  unfold jensenShannon
  rw [sum_eq_zero_iff_of_nonneg fun i _ => gains_nonneg (hp i) (hq i), funext_iff]
  constructor
  · intro h i
    exact (gains_eq_zero_iff (hp i) (hq i)).mp (h i (mem_univ i))
  · intro h i _
    exact (gains_eq_zero_iff (hp i) (hq i)).mpr (h i)

/-! ## The heaviest sets -/

section Heaviest

variable {α : Type*} (w : α → ℝ)

/-- In order of decreasing mass, no set of `k` elements is heavier than the first `k`. -/
theorem sum_le_sum_take [DecidableEq α] {order : List α}
    (hs : order.Pairwise fun a b => w b ≤ w a) (hn : order.Nodup) (t : Finset α)
    (ht : t ⊆ order.toFinset) : ∑ a ∈ t, w a ≤ ((order.take t.card).map w).sum := by
  induction order generalizing t with
  | nil =>
    have he : t = ∅ := by simpa using ht
    simp [he]
  | cons a order ih =>
    obtain ⟨ha, hs⟩ := List.pairwise_cons.mp hs
    obtain ⟨hna, hn⟩ := List.nodup_cons.mp hn
    -- the set without one element lies in the rest of the list
    have hstep : ∀ b ∈ t, t.erase b ⊆ order.toFinset → w b ≤ w a →
        ∑ c ∈ t, w c ≤ (((a::order).take t.card).map w).sum := by
      intro b hb hsub hle
      have hcard : (t.erase b).card+1 = t.card := card_erase_add_one hb
      rw [← hcard, List.take_succ_cons, List.map_cons, List.sum_cons, ← sum_erase_add t w hb,
        add_comm]
      exact add_le_add hle (ih hs hn _ hsub)
    by_cases hat : a ∈ t
    · apply hstep a hat _ le_rfl
      intro b hb
      obtain ⟨hne, hbt⟩ := mem_erase.mp hb
      have hmem := ht hbt
      simp only [List.toFinset_cons, mem_insert, hne, false_or] at hmem
      exact hmem
    · have hsub : t ⊆ order.toFinset := by
        intro b hb
        have hmem := ht hb
        rw [List.toFinset_cons, mem_insert] at hmem
        rcases hmem with rfl | hmem
        · exact absurd hb hat
        · exact hmem
      rcases t.eq_empty_or_nonempty with rfl | ⟨b, hb⟩
      · simp
      · exact hstep b hb ((erase_subset b t).trans hsub) (ha b (List.mem_toFinset.mp (hsub hb)))

end Heaviest

end
end CacheBlend.Divergences
