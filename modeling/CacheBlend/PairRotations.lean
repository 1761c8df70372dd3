import Mathlib.Analysis.SpecialFunctions.Trigonometric.Basic
import Mathlib.Data.List.GetD

/-!
# Rotations of pairs

A vector of `2*half` entries is read as pairs of entries that stand `half`
apart. Every pair is rotated by an angle of its own and scaled. Rotations
compose by the addition of their angles, and keep the norm of every pair up to
the scale.
-/

set_option autoImplicit false

namespace CacheBlend.PairRotations
noncomputable section

/-- An entry of a vector, zero outside of it. -/
def entry (v : List ℝ) (i : ℕ) : ℝ := v.getD i 0

def rotateFirst (angle scale first second : ℝ) : ℝ :=
  first*(Real.cos angle*scale)-second*(Real.sin angle*scale)

def rotateSecond (angle scale first second : ℝ) : ℝ :=
  second*(Real.cos angle*scale)+first*(Real.sin angle*scale)

/-- The vector with its pairs rotated by their angles. -/
def rotated (half : ℕ) (angle : ℕ → ℝ) (scale : ℝ) (v : List ℝ) : List ℝ :=
  (List.range (2*half)).map fun i =>
    if i < half then rotateFirst (angle i) scale (entry v i) (entry v (i+half))
    else rotateSecond (angle (i-half)) scale (entry v (i-half)) (entry v i)

section
variable {half i : ℕ} {angle : ℕ → ℝ} {scale : ℝ} {v : List ℝ}

@[simp] theorem rotated_length : (rotated half angle scale v).length = 2*half := by
  rw [rotated, List.length_map, List.length_range]

theorem entry_rotated (hi : i < 2*half) : entry (rotated half angle scale v) i =
    if i < half then rotateFirst (angle i) scale (entry v i) (entry v (i+half))
    else rotateSecond (angle (i-half)) scale (entry v (i-half)) (entry v i) := by
  unfold entry rotated
  rw [List.getD_eq_getElem?_getD, List.getElem?_map, List.getElem?_range hi]
  rfl

theorem entry_first (hi : i < half) : entry (rotated half angle scale v) i =
    rotateFirst (angle i) scale (entry v i) (entry v (i+half)) := by
  rw [entry_rotated (by omega), if_pos hi]

theorem entry_second (hi : i < half) : entry (rotated half angle scale v) (i+half) =
    rotateSecond (angle i) scale (entry v i) (entry v (i+half)) := by
  rw [entry_rotated (by omega), if_neg (by omega), Nat.add_sub_cancel]

/-- A vector is the rotation if its entries are. -/
theorem rotated_of_entries {w : List ℝ} (hl : w.length = 2*half)
    (hf : ∀ i < half, entry w i = rotateFirst (angle i) scale (entry v i) (entry v (i+half)))
    (hs : ∀ i < half,
      entry w (i+half) = rotateSecond (angle i) scale (entry v i) (entry v (i+half))) :
    w = rotated half angle scale v := by
  apply List.ext_getElem (hl.trans rotated_length.symm)
  intro i hi hi'
  have hw : ∀ {u : List ℝ} (h : i < u.length), u[i] = entry u i :=
    fun h => (List.getD_eq_getElem _ _ h).symm
  rw [hw hi, hw hi']
  by_cases hlow : i < half
  · rw [hf i hlow, entry_first hlow]
  · obtain ⟨j, rfl⟩ := Nat.exists_eq_add_of_le' (Nat.le_of_not_lt hlow)
    rw [hs j (by omega), entry_second (by omega)]

theorem rotated_congr {angle' : ℕ → ℝ} (h : ∀ i < half, angle i = angle' i) :
    rotated half angle scale v = rotated half angle' scale v := by
  apply rotated_of_entries rotated_length
  · intro i hi
    rw [entry_first hi, h i hi]
  · intro i hi
    rw [entry_second hi, h i hi]

theorem rotateFirst_compose (a b m n x y : ℝ) :
    rotateFirst b n (rotateFirst a m x y) (rotateSecond a m x y) =
      rotateFirst (a+b) (m*n) x y := by
  unfold rotateFirst rotateSecond
  rw [Real.cos_add, Real.sin_add]
  ring

theorem rotateSecond_compose (a b m n x y : ℝ) :
    rotateSecond b n (rotateFirst a m x y) (rotateSecond a m x y) =
      rotateSecond (a+b) (m*n) x y := by
  unfold rotateFirst rotateSecond
  rw [Real.cos_add, Real.sin_add]
  ring

/-- Rotating twice rotates by the sums of the angles. -/
theorem rotated_rotated (half : ℕ) (angle angle' : ℕ → ℝ) (scale scale' : ℝ) (v : List ℝ) :
    rotated half angle' scale' (rotated half angle scale v) =
      rotated half (fun i => angle i+angle' i) (scale*scale') v := by
  apply rotated_of_entries rotated_length
  · intro i hi
    rw [entry_first hi, entry_first hi, entry_second hi, rotateFirst_compose]
  · intro i hi
    rw [entry_second hi, entry_first hi, entry_second hi, rotateSecond_compose]

theorem rotated_zero (hl : v.length = 2*half) (h : ∀ i < half, angle i = 0) :
    rotated half angle 1 v = v := by
  symm
  apply rotated_of_entries hl
  · intro i hi
    rw [h i hi]
    simp [rotateFirst]
  · intro i hi
    rw [h i hi]
    simp [rotateSecond]

/-- The squared norm of a pair. -/
def pairNorm (half : ℕ) (v : List ℝ) (i : ℕ) : ℝ := entry v i^2+entry v (i+half)^2

theorem pairNorm_rotated (hi : i < half) :
    pairNorm half (rotated half angle scale v) i = scale^2*pairNorm half v i := by
  unfold pairNorm
  rw [entry_first hi, entry_second hi]
  unfold rotateFirst rotateSecond
  calc
    _ = scale^2*(entry v i^2+entry v (i+half)^2)*
        (Real.cos (angle i)^2+Real.sin (angle i)^2) := by ring
    _ = scale^2*(entry v i^2+entry v (i+half)^2) := by
        rw [Real.cos_sq_add_sin_sq, mul_one]

end

end

end CacheBlend.PairRotations
