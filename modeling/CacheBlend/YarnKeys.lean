import CacheBlend.Checks
import CacheBlend.Divergences
import CacheBlend.PairRotations
import Mathlib.Analysis.SpecialFunctions.Pow.Real

/-!
# YaRN key correction

The reference rotation of keys, over exact real numbers. A key is rotated and
scaled once, at its own position. A cached key is moved to another position by
the unit rotation between the two, forward or backward. The real numeral two
takes its instance from `Divergences`.
-/

set_option autoImplicit false

namespace CacheBlend.YarnKeys
open CacheBlend.PairRotations
noncomputable section

inductive YarnError where
  | value (text : String)
  | zeroDivision

/-- The fields of `YarnRopeConfig`, as its constructor accepts them. -/
structure YarnRopeConfig where
  headDim : ℕ
  ropeTheta : ℝ
  factor : ℝ
  originalMaxPositionEmbeddings : ℕ
  betaFast : ℝ
  betaSlow : ℝ
  truncate : Bool
  extrapolationFactor : ℝ
  attentionFactor : ℝ
  headDim_positive : 0 < headDim
  headDim_even : headDim % 2 = 0
  ropeTheta_positive : 0 < ropeTheta
  factor_positive : 0 < factor
  positions_positive : 0 < originalMaxPositionEmbeddings
  betaFast_positive : 0 < betaFast
  betaSlow_positive : 0 < betaSlow
  extrapolation_nonneg : 0 ≤ extrapolationFactor
  attention_positive : 0 < attentionFactor

/-! ## Frequencies -/

def divide (x y : ℝ) : Except YarnError ℝ := if y = 0 then .error .zeroDivision else .ok (x/y)

/-- `math.log`. -/
def logarithm (x : ℝ) : Except YarnError ℝ :=
  if x ≤ 0 then .error (.value "math domain error") else .ok (Real.log x)

def yarnMagnitudeScale (factor attentionFactor : ℝ) : Except YarnError ℝ := do
  require (0 < factor) (.value "factor must be positive")
  require (0 < attentionFactor) (.value "attention_factor must be positive")
  let interpolationScale ←
    if factor ≤ 1 then .ok 1
    else do
      let l ← logarithm factor
      .ok (0.1*l+1)
  .ok (interpolationScale*attentionFactor)

/-- `_correction_dimension`. -/
def correctionDimension (rotations : ℝ) (headDim : ℕ) (ropeTheta : ℝ)
    (originalMaxPositionEmbeddings : ℕ) : Except YarnError ℝ := do
  let ratio ← divide originalMaxPositionEmbeddings (rotations*2*Real.pi)
  let numerator ← logarithm ratio
  let base ← logarithm ropeTheta
  divide (headDim*numerator) (2*base)

/-- `_correction_range`. -/
def correctionRange (config : YarnRopeConfig) : Except YarnError (ℝ × ℝ) := do
  let low ← correctionDimension config.betaFast config.headDim config.ropeTheta
    config.originalMaxPositionEmbeddings
  let high ← correctionDimension config.betaSlow config.headDim config.ropeTheta
    config.originalMaxPositionEmbeddings
  let bounds : ℝ × ℝ := if config.truncate = true then (⌊low⌋, ⌈high⌉) else (low, high)
  .ok (max bounds.1 0, min bounds.2 (config.headDim-1))

/-- `_linear_ramp`. -/
def linearRamp (index : ℕ) (low high : ℝ) : Except YarnError ℝ := do
  let high' := if low = high then high+0.001 else high
  let value ← divide (index-low) (high'-low)
  .ok (min (max value 0) 1)

def inverseFrequency (config : YarnRopeConfig) (low high : ℝ) (pairIndex : ℕ) :
    Except YarnError ℝ := do
  let exponent ← divide (2*pairIndex) config.headDim
  let positionalFrequency := config.ropeTheta^exponent
  let extrapolated ← divide 1 positionalFrequency
  let interpolated ← divide 1 (config.factor*positionalFrequency)
  let ramp ← linearRamp pairIndex low high
  let extrapolationMask := (1-ramp)*config.extrapolationFactor
  .ok (interpolated*(1-extrapolationMask)+extrapolated*extrapolationMask)

def yarnInverseFrequencies (config : YarnRopeConfig) : Except YarnError (List ℝ) := do
  let bounds ← correctionRange config
  (List.range (config.headDim/2)).mapM (inverseFrequency config bounds.1 bounds.2)

/-! ## Rotation of a key -/

/-- One step of the loop of `_rotate_neox`. -/
def rotateStep (vector : List ℝ) (position : ℤ) (halfDim : ℕ) (magnitudeScale : ℝ)
    (output : List ℝ) (e : ℝ × ℕ) : List ℝ :=
  let angle := position*e.1
  let cosine := Real.cos angle*magnitudeScale
  let sine := Real.sin angle*magnitudeScale
  let first := entry vector e.2
  let second := entry vector (e.2+halfDim)
  (output.set e.2 (first*cosine-second*sine)).set (e.2+halfDim) (second*cosine+first*sine)

/-- `_rotate_neox`. -/
def rotateNeox (vector : List ℝ) (position : ℤ) (inverseFrequencies : List ℝ)
    (magnitudeScale : ℝ) : Except YarnError (List ℝ) := do
  require (0 ≤ position) (.value "position must be non-negative")
  require (0 < magnitudeScale) (.value "magnitude_scale must be positive")
  require (vector.length = 2*inverseFrequencies.length)
    (.value "vector length must be twice the inverse-frequency count")
  .ok (inverseFrequencies.zipIdx.foldl
    (rotateStep vector position inverseFrequencies.length magnitudeScale)
    (List.replicate vector.length 0))

def applyYarnToKey (rawKey : List ℝ) (position : ℤ) (config : YarnRopeConfig) :
    Except YarnError (List ℝ) := do
  require (rawKey.length = config.headDim) (.value "raw key length does not match head_dim")
  let inverseFrequencies ← yarnInverseFrequencies config
  let magnitudeScale ← yarnMagnitudeScale config.factor config.attentionFactor
  rotateNeox rawKey position inverseFrequencies magnitudeScale

def correctShiftedKey (postRopeKey : List ℝ) (sourcePosition targetPosition : ℤ)
    (config : YarnRopeConfig) : Except YarnError (List ℝ) := do
  require (postRopeKey.length = config.headDim)
    (.value "post-RoPE key length does not match head_dim")
  require (¬(sourcePosition < 0 ∨ targetPosition < 0))
    (.value "source and target positions must be non-negative")
  let delta := targetPosition-sourcePosition
  if 0 ≤ delta then do
    let inverseFrequencies ← yarnInverseFrequencies config
    rotateNeox postRopeKey delta inverseFrequencies 1
  else do
    -- A backward shift negates every frequency and turns by the magnitude of the shift.
    let inverseFrequencies ← yarnInverseFrequencies config
    rotateNeox postRopeKey (-delta) (inverseFrequencies.map fun x => -x) 1

/-! ## The loop -/

section
variable {vector : List ℝ} {position : ℤ} {halfDim : ℕ} {scale : ℝ} {angle : ℕ → ℝ}

theorem entry_set {v : List ℝ} {j : ℕ} (x : ℝ) (hj : j < v.length) (i : ℕ) :
    entry (v.set j x) i = if i = j then x else entry v i := by
  unfold entry
  rw [List.getD_eq_getElem?_getD, List.getD_eq_getElem?_getD, List.getElem?_set]
  by_cases h : i = j
  · rw [if_pos h.symm, if_pos hj, if_pos h]
    rfl
  · rw [if_neg (Ne.symm h), if_neg h]

/-- The first `n` pairs of the output are rotated. -/
structure Filled (vector : List ℝ) (halfDim : ℕ) (angle : ℕ → ℝ) (scale : ℝ) (n : ℕ)
    (output : List ℝ) : Prop where
  length : output.length = 2*halfDim
  first : ∀ i < n,
    entry output i = rotateFirst (angle i) scale (entry vector i) (entry vector (i+halfDim))
  second : ∀ i < n, entry output (i+halfDim) =
    rotateSecond (angle i) scale (entry vector i) (entry vector (i+halfDim))

theorem filled_step {output : List ℝ} {f : ℝ} {n : ℕ} (hn : n < halfDim)
    (ha : position*f = angle n) (h : Filled vector halfDim angle scale n output) :
    Filled vector halfDim angle scale (n+1)
      (rotateStep vector position halfDim scale output (f, n)) := by
  have hl := h.length
  have hstep : ∀ i, entry (rotateStep vector position halfDim scale output (f, n)) i =
      if i = n+halfDim then
        rotateSecond (angle n) scale (entry vector n) (entry vector (n+halfDim))
      else if i = n then rotateFirst (angle n) scale (entry vector n) (entry vector (n+halfDim))
      else entry output i := by
    intro i
    unfold rotateStep
    dsimp only
    rw [entry_set _ (by rw [List.length_set]; omega), entry_set _ (by omega), ha]
    rfl
  constructor
  · simp [rotateStep, hl]
  · intro i hi
    rw [hstep, if_neg (by omega)]
    by_cases he : i = n
    · rw [if_pos he, he]
    · rw [if_neg he, h.first i (by omega)]
  · intro i hi
    rw [hstep]
    by_cases he : i = n
    · rw [if_pos (by omega), he]
    · rw [if_neg (by omega), if_neg (by omega), h.second i (by omega)]

theorem filled_run (fs : List ℝ) (n : ℕ) (output : List ℝ) (hn : n+fs.length ≤ halfDim)
    (ha : ∀ j < fs.length, position*entry fs j = angle (n+j))
    (h : Filled vector halfDim angle scale n output) :
    Filled vector halfDim angle scale (n+fs.length)
      ((fs.zipIdx n).foldl (rotateStep vector position halfDim scale) output) := by
  induction fs generalizing n output with
  | nil => exact h
  | cons f fs ih =>
    rw [List.length_cons] at hn ha
    have hstep := filled_step (f := f) (by omega) (ha 0 (by omega)) h
    have hrest := ih (n+1) _ (by omega) (fun j hj => ?_) hstep
    · rw [List.length_cons, Nat.add_comm fs.length, ← Nat.add_assoc]
      exact hrest
    · rw [Nat.add_assoc, Nat.add_comm 1]
      exact ha (j+1) (by omega)

theorem rotateNeox_returns {fs : List ℝ} (hp : 0 ≤ position) (hs : 0 < scale)
    (hl : vector.length = 2*fs.length) : rotateNeox vector position fs scale =
      .ok (rotated fs.length (fun i => position*entry fs i) scale vector) := by
  have hempty : Filled vector fs.length (fun i => position*entry fs i) scale 0
      (List.replicate vector.length 0) :=
    ⟨by rw [List.length_replicate, hl], fun i hi => absurd hi (Nat.not_lt_zero i),
      fun i hi => absurd hi (Nat.not_lt_zero i)⟩
  have hfull := filled_run fs 0 _ (Nat.zero_add _).le (fun j _ => by rw [Nat.zero_add]) hempty
  rw [Nat.zero_add] at hfull
  unfold rotateNeox
  rw [require_of _ hp, require_of _ hs, require_of _ hl]
  exact congrArg _ (rotated_of_entries hfull.length hfull.first hfull.second)

end

/-! ## The parts of a rotation -/

section
variable {config : YarnRopeConfig} {fs : List ℝ}

theorem frequencies_length (h : yarnInverseFrequencies config = .ok fs) :
    config.headDim = 2*fs.length := by
  obtain ⟨bounds, _, h⟩ := (checked_ok_iff _ _ _).mp h
  have hlength := ((mapM_returns_iff _ _ _).mp h).length_eq
  rw [List.length_range] at hlength
  have heven := config.headDim_even
  omega

theorem scale_returns (config : YarnRopeConfig) :
    ∃ m, yarnMagnitudeScale config.factor config.attentionFactor = .ok m ∧ 0 < m := by
  have hf := config.factor_positive
  have ha := config.attention_positive
  unfold yarnMagnitudeScale
  rw [require_of _ hf, require_of _ ha]
  by_cases hle : config.factor ≤ 1
  · refine ⟨1*config.attentionFactor, ?_, by linarith⟩
    simp only [if_pos hle]
    rfl
  · have hlog := Real.log_pos (not_le.mp hle)
    refine ⟨(0.1*Real.log config.factor+1)*config.attentionFactor, ?_, by positivity⟩
    simp only [if_neg hle, logarithm, if_neg (not_le.mpr hf)]
    rfl

theorem correct_returns {key : List ℝ} {s t : ℤ} (hf : yarnInverseFrequencies config = .ok fs)
    (hl : key.length = config.headDim) (hs : 0 ≤ s) (ht : 0 ≤ t) :
    correctShiftedKey key s t config =
      .ok (rotated fs.length (fun i => ((t-s : ℤ) : ℝ)*entry fs i) 1 key) := by
  have hdim := frequencies_length hf
  unfold correctShiftedKey
  rw [require_of _ hl, require_of _ (show ¬(s < 0 ∨ t < 0) by omega), hf]
  by_cases hd : 0 ≤ t-s
  · show (if 0 ≤ t-s then _ else _) = _
    rw [if_pos hd]
    exact rotateNeox_returns hd one_pos (hl.trans hdim)
  · show (if 0 ≤ t-s then _ else _) = _
    rw [if_neg hd]
    have hneg : (fs.map fun x => -x).length = fs.length := List.length_map _
    have hlength : key.length = 2*(fs.map fun x => -x).length := by rw [hneg, hl, hdim]
    apply (rotateNeox_returns (by omega) one_pos hlength).trans
    apply congrArg
    rw [hneg]
    apply rotated_congr
    intro i hi
    have hentry : entry (fs.map fun x => -x) i = -entry fs i := by
      unfold entry
      simp [List.getD_eq_getElem?_getD, hi]
    rw [hentry, Int.cast_neg]
    ring

theorem apply_returns {key : List ℝ} {s : ℤ} (hf : yarnInverseFrequencies config = .ok fs)
    (hl : key.length = config.headDim) (hs : 0 ≤ s) {m : ℝ}
    (hm : yarnMagnitudeScale config.factor config.attentionFactor = .ok m) (hpos : 0 < m) :
    applyYarnToKey key s config =
      .ok (rotated fs.length (fun i => (s : ℝ)*entry fs i) m key) := by
  unfold applyYarnToKey
  rw [require_of _ hl, hf, hm]
  exact rotateNeox_returns hs hpos (hl.trans (frequencies_length hf))

theorem correct_refuses {key : List ℝ} (hl : key.length ≠ config.headDim) (s t : ℤ) :
    correctShiftedKey key s t config =
      .error (.value "post-RoPE key length does not match head_dim") := by
  unfold correctShiftedKey
  rw [require_not _ hl]
  rfl

theorem apply_refuses {key : List ℝ} (hl : key.length ≠ config.headDim) (s : ℤ) :
    applyYarnToKey key s config = .error (.value "raw key length does not match head_dim") := by
  unfold applyYarnToKey
  rw [require_not _ hl]
  rfl

end

/-! ## The frequencies of a configuration -/

theorem divide_returns {x y : ℝ} (h : y ≠ 0) : divide x y = .ok (x/y) := if_neg h

theorem logarithm_returns {x : ℝ} (h : 0 < x) : logarithm x = .ok (Real.log x) :=
  if_neg (not_le.mpr h)

theorem linearRamp_returns (index : ℕ) (low high : ℝ) : ∃ r, linearRamp index low high = .ok r := by
  have hne : (if low = high then high+0.001 else high)-low ≠ 0 := by
    by_cases h : low = high
    · rw [if_pos h, h]
      norm_num
    · rw [if_neg h]
      exact sub_ne_zero.mpr (Ne.symm h)
  unfold linearRamp
  dsimp only
  rw [divide_returns hne]
  exact ⟨_, rfl⟩

theorem correctionDimension_eq (config : YarnRopeConfig) {rotations : ℝ} (hr : 0 < rotations) :
    correctionDimension rotations config.headDim config.ropeTheta
        config.originalMaxPositionEmbeddings =
      divide (config.headDim*
        Real.log (config.originalMaxPositionEmbeddings/(rotations*2*Real.pi)))
        (2*Real.log config.ropeTheta) := by
  have hpi := Real.pi_pos
  have hden : 0 < rotations*2*Real.pi := by positivity
  have hnum : (0 : ℝ) < config.originalMaxPositionEmbeddings := by
    exact_mod_cast config.positions_positive
  unfold correctionDimension
  rw [divide_returns hden.ne']
  show (logarithm _ >>= _) = _
  rw [logarithm_returns (div_pos hnum hden)]
  show (logarithm config.ropeTheta >>= _) = _
  rw [logarithm_returns config.ropeTheta_positive]
  rfl

theorem inverseFrequency_returns (config : YarnRopeConfig) (low high : ℝ) (pairIndex : ℕ) :
    ∃ f, inverseFrequency config low high pairIndex = .ok f := by
  have hdim : (config.headDim : ℝ) ≠ 0 := by exact_mod_cast config.headDim_positive.ne'
  obtain ⟨ramp, hramp⟩ := linearRamp_returns pairIndex low high
  have hpos := Real.rpow_pos_of_pos config.ropeTheta_positive (2*pairIndex/config.headDim)
  have hfactor := mul_pos config.factor_positive hpos
  unfold inverseFrequency
  rw [divide_returns hdim]
  show ∃ f, (divide 1 _ >>= _) = _
  rw [divide_returns hpos.ne']
  show ∃ f, (divide 1 _ >>= _) = _
  rw [divide_returns hfactor.ne']
  show ∃ f, (linearRamp _ _ _ >>= _) = _
  rw [hramp]
  exact ⟨_, rfl⟩

theorem frequencies_defined_iff (config : YarnRopeConfig) :
    (∃ fs, yarnInverseFrequencies config = .ok fs) ↔ config.ropeTheta ≠ 1 := by
  constructor
  · rintro ⟨fs, hfs⟩ htheta
    obtain ⟨_, hrange, _⟩ := (checked_ok_iff _ _ _).mp hfs
    obtain ⟨_, hlow, _⟩ := (checked_ok_iff _ _ _).mp hrange
    rw [correctionDimension_eq config config.betaFast_positive, htheta, Real.log_one, mul_zero]
      at hlow
    exact absurd hlow (by simp [divide])
  · intro htheta
    have hlog : 2*Real.log config.ropeTheta ≠ 0 :=
      mul_ne_zero two_ne_zero (Real.log_ne_zero_of_pos_of_ne_one config.ropeTheta_positive htheta)
    have hrange : ∃ bounds, correctionRange config = .ok bounds := by
      unfold correctionRange
      rw [correctionDimension_eq config config.betaFast_positive, divide_returns hlog,
        correctionDimension_eq config config.betaSlow_positive, divide_returns hlog]
      exact ⟨_, rfl⟩
    obtain ⟨bounds, hbounds⟩ := hrange
    obtain ⟨fs, hfs⟩ := mapM_returns_of (inverseFrequency config bounds.1 bounds.2)
      (List.range (config.headDim/2)) fun i _ => inverseFrequency_returns config _ _ i
    refine ⟨fs, ?_⟩
    unfold yarnInverseFrequencies
    rw [hbounds]
    exact hfs

/-! ## Corrections -/

section
variable {config : YarnRopeConfig} {fs : List ℝ}

theorem applied_corrected (hf : yarnInverseFrequencies config = .ok fs) (k : List ℝ) {s t : ℤ}
    (hs : 0 ≤ s) (ht : 0 ≤ t) :
    (applyYarnToKey k s config >>= fun key => correctShiftedKey key s t config) =
      applyYarnToKey k t config := by
  by_cases hl : k.length = config.headDim
  · obtain ⟨m, hm, hpos⟩ := scale_returns config
    rw [apply_returns hf hl hs hm hpos, apply_returns hf hl ht hm hpos]
    show correctShiftedKey _ s t config = _
    rw [correct_returns hf (rotated_length.trans (frequencies_length hf).symm) hs ht,
      rotated_rotated, mul_one]
    apply congrArg
    apply rotated_congr
    intro i _
    push_cast
    ring
  · rw [apply_refuses hl, apply_refuses hl]
    rfl

theorem corrected_corrected (hf : yarnInverseFrequencies config = .ok fs) (key : List ℝ)
    {s t u : ℤ} (hs : 0 ≤ s) (ht : 0 ≤ t) (hu : 0 ≤ u) :
    (correctShiftedKey key s t config >>= fun key' => correctShiftedKey key' t u config) =
      correctShiftedKey key s u config := by
  by_cases hl : key.length = config.headDim
  · rw [correct_returns hf hl hs ht, correct_returns hf hl hs hu]
    show correctShiftedKey _ t u config = _
    rw [correct_returns hf (rotated_length.trans (frequencies_length hf).symm) ht hu,
      rotated_rotated, mul_one]
    apply congrArg
    apply rotated_congr
    intro i _
    push_cast
    ring
  · rw [correct_refuses hl, correct_refuses hl]
    rfl

theorem corrected_nowhere (hf : yarnInverseFrequencies config = .ok fs) {key : List ℝ} {s : ℤ}
    (hl : key.length = config.headDim) (hs : 0 ≤ s) :
    correctShiftedKey key s s config = .ok key := by
  rw [correct_returns hf hl hs hs, rotated_zero (hl.trans (frequencies_length hf))]
  intro i _
  rw [sub_self, Int.cast_zero, zero_mul]

/-- The keys of a defined configuration, moved between positions. The scale is in
the norm of the pairs of a key once, and no correction changes that norm. -/
theorem corrections_compose (config : YarnRopeConfig) (fs : List ℝ)
    (hf : yarnInverseFrequencies config = .ok fs) (s t u : ℤ) (hs : 0 ≤ s) (ht : 0 ≤ t)
    (hu : 0 ≤ u) :
    (∀ k, (applyYarnToKey k s config >>= fun key => correctShiftedKey key s t config) =
      applyYarnToKey k t config) ∧
    (∀ key, (correctShiftedKey key s t config >>= fun key' => correctShiftedKey key' t u config) =
      correctShiftedKey key s u config) ∧
    (∀ key : List ℝ, key.length = config.headDim →
      (correctShiftedKey key s t config >>= fun key' => correctShiftedKey key' t s config) =
        .ok key) ∧
    ∀ k : List ℝ, k.length = config.headDim →
      ∃ m key key', yarnMagnitudeScale config.factor config.attentionFactor = .ok m ∧
        applyYarnToKey k s config = .ok key ∧ correctShiftedKey key s t config = .ok key' ∧
        ∀ i < config.headDim/2, pairNorm (config.headDim/2) key i =
            m^2*pairNorm (config.headDim/2) k i ∧
          pairNorm (config.headDim/2) key' i = pairNorm (config.headDim/2) key i := by
  refine ⟨fun k => applied_corrected hf k hs ht, fun key => corrected_corrected hf key hs ht hu,
    fun key hl => ?_, fun k hl => ?_⟩
  · rw [corrected_corrected hf key hs ht hs, corrected_nowhere hf hl hs]
  · obtain ⟨m, hm, hpos⟩ := scale_returns config
    have hdim := frequencies_length hf
    have hhalf : config.headDim/2 = fs.length := by omega
    refine ⟨m, _, _, hm, apply_returns hf hl hs hm hpos,
      correct_returns hf (rotated_length.trans hdim.symm) hs ht, fun i hi => ?_⟩
    rw [hhalf] at hi ⊢
    refine ⟨pairNorm_rotated hi, ?_⟩
    rw [pairNorm_rotated hi, one_pow, one_mul]

end

def twoEntries : YarnRopeConfig where
  headDim := 2
  ropeTheta := 2
  factor := 1
  originalMaxPositionEmbeddings := 1
  betaFast := 1
  betaSlow := 1
  truncate := true
  extrapolationFactor := 1
  attentionFactor := 1
  headDim_positive := by norm_num
  headDim_even := by norm_num
  ropeTheta_positive := by norm_num
  factor_positive := by norm_num
  positions_positive := by norm_num
  betaFast_positive := by norm_num
  betaSlow_positive := by norm_num
  extrapolation_nonneg := by norm_num
  attention_positive := by norm_num

theorem twoEntries_moved_back :
    (applyYarnToKey [1, 0] 5 twoEntries >>= fun key => correctShiftedKey key 5 3 twoEntries) =
      applyYarnToKey [1, 0] 3 twoEntries := by
  have htheta : twoEntries.ropeTheta ≠ 1 := OfNat.ofNat_ne_one 2
  obtain ⟨fs, hfs⟩ := (frequencies_defined_iff twoEntries).mpr htheta
  exact (corrections_compose twoEntries fs hfs 5 3 0 (by norm_num) (by norm_num) le_rfl).1 [1, 0]

end

end CacheBlend.YarnKeys
