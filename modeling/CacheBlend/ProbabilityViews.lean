import CacheBlend.CorrectnessModels
import CacheBlend.Divergences
import Mathlib.Data.List.OfFn

/-!
# Metrics of two distributions

The metrics compare the full-vocabulary log probabilities of two runs and their
softmax distributions, over exact reals. Every comparison of two finite
vectors of one length passes the checks of the record that holds it, and it is
the same from both sides. The high-mass support of a distribution is a smallest
set of tokens that leaves out at most the tail.
-/

set_option autoImplicit false

namespace CacheBlend.ProbabilityViews
noncomputable section
open CacheBlend.JsonValues CacheBlend.CorrectnessModels CacheBlend.Divergences

def probabilityTailEpsilon : ℝ := 1/10000

/-! ## The record -/

structure MetricFields where
  fullMeanAbsLogprob : ℝ
  totalVariation : ℝ
  jensenShannonDivergence : ℝ
  highMassMaxAbsLogprob : ℝ
  strictFullMaxAbsLogprob : ℝ
  highMassSupportTokens : ℕ
  sampledTokenAgreement : Bool
  topTokenAgreement : Bool

/-- `_finite_nonnegative`; a real is finite. -/
def finiteNonnegative (name : String) (x : ℝ) : Except String Unit :=
  require (0 ≤ x) ("invalid probability ensemble " ++ name)

def checkMetrics (f : MetricFields) : Except String Unit := do
  finiteNonnegative "full_mean_abs_logprob" f.fullMeanAbsLogprob
  finiteNonnegative "total_variation" f.totalVariation
  finiteNonnegative "jensen_shannon_divergence" f.jensenShannonDivergence
  finiteNonnegative "high_mass_max_abs_logprob" f.highMassMaxAbsLogprob
  finiteNonnegative "strict_full_max_abs_logprob" f.strictFullMaxAbsLogprob
  require (f.totalVariation ≤ 1+1/10^12) "probability ensemble total variation exceeds one"
  require (f.jensenShannonDivergence ≤ Real.log 2+1/10^12)
    "probability ensemble Jensen-Shannon exceeds log(2)"
  require (f.highMassSupportTokens ≠ 0) "probability ensemble high-mass support is empty"

abbrev ProbabilityMetrics : Type := Checked checkMetrics

/-! ## Distributions -/

structure DistributionView where
  logprobs : List ℝ
  probabilities : List ℝ
  highMassSupport : Finset ℕ

def isFinite : PyFloat → Bool
  | .finite _ => true
  | _ => false

def realValue : PyFloat → ℝ
  | .finite q => q
  | _ => 0

/-- `max` of a sequence. -/
def maximum : List ℝ → Except String ℝ
  | [] => .error "max() arg is an empty sequence"
  | x::xs => .ok (xs.foldl max x)

/-- `_probabilities`. -/
def probabilities (values : List PyFloat) : Except String (List ℝ) := do
  require (values ≠ [] ∧ ∀ v ∈ values, isFinite v = true)
    "probability gate requires finite full logprobs"
  let highest ← maximum (values.map realValue)
  let weights := values.map fun v => Real.exp (realValue v-highest)
  let total := weights.sum
  require (0 < total) "probability gate cannot normalize logprobs"
  return weights.map fun weight => weight/total

def mass (p : List ℝ) (i : ℕ) : ℝ := p.getD i 0

/-- The loop of `_high_mass_support`. -/
def selectMass (p : List ℝ) (target : ℝ) : ℝ → List ℕ → List ℕ
  | _, [] => []
  | cumulative, i::order =>
    if target ≤ cumulative+mass p i then [i]
    else i::selectMass p target (cumulative+mass p i) order

/-- `sorted` by `(-probabilities[index], index)`. -/
def byMass (p : List ℝ) : List ℕ :=
  sortedBy (fun i => toLex (-mass p i, i)) (List.range p.length)

/-- `_high_mass_support`. -/
def highMassSupport (p : List ℝ) : Except String (Finset ℕ) := do
  let selected := selectMass p (1-probabilityTailEpsilon) 0 (byMass p)
  require (selected ≠ []) "probability gate selected an empty support"
  return selected.toFinset

/-- `_view`. -/
def view (distribution : LogprobFields) : Except String DistributionView := do
  let p ← probabilities distribution.values
  let support ← highMassSupport p
  return ⟨distribution.values.map realValue, p, support⟩

/-! ## Comparison -/

/-- The order of log probabilities; the constructor leaves out NaN and infinity. -/
def rank : PyFloat → WithBot ℚ
  | .finite q => q
  | _ => ⊥

/-- `top_token_id`: the first index of a greatest value. -/
def topTokenId (distribution : LogprobFields) : Option ℕ :=
  (List.range distribution.values.length).argmax fun i => rank (distribution.values.getD i .nan)

/-- What the loop of `_compare_views` accumulates. -/
structure Sums where
  absoluteSum : ℝ
  strictMax : ℝ
  totalVariationSum : ℝ
  jsSum : ℝ

abbrev Coordinate : Type := (ℝ × ℝ) × ℝ × ℝ

def addCoordinate (s : Sums) (c : Coordinate) : Sums :=
  let ((leftLogprob, rightLogprob), leftProbability, rightProbability) := c
  let difference := |leftLogprob-rightLogprob|
  let midpoint := 1/2*(leftProbability+rightProbability)
  let jsLeft := if 0 < leftProbability
    then s.jsSum+1/2*leftProbability*Real.log (leftProbability/midpoint) else s.jsSum
  let jsRight := if 0 < rightProbability
    then jsLeft+1/2*rightProbability*Real.log (rightProbability/midpoint) else jsLeft
  ⟨s.absoluteSum+difference, max s.strictMax difference,
    s.totalVariationSum+|leftProbability-rightProbability|, jsRight⟩

def coordinates (left right : DistributionView) : List Coordinate :=
  (left.logprobs.zip right.logprobs).zip (left.probabilities.zip right.probabilities)

/-- `_compare_views`. -/
def compareViews (left right : LogprobFields) (leftView rightView : DistributionView) :
    Except String ProbabilityMetrics := do
  require (leftView.logprobs.length = rightView.logprobs.length)
    "probability distributions have different sizes"
  let count := leftView.logprobs.length
  let sums := (coordinates leftView rightView).foldl addCoordinate ⟨0, 0, 0, 0⟩
  let support := leftView.highMassSupport ∪ rightView.highMassSupport
  let highMassMax ← maximum (support.toList.map fun i =>
    |leftView.logprobs.getD i 0-rightView.logprobs.getD i 0|)
  construct checkMetrics
    { fullMeanAbsLogprob := sums.absoluteSum/count
      totalVariation := 1/2*sums.totalVariationSum
      jensenShannonDivergence := max sums.jsSum 0
      highMassMaxAbsLogprob := highMassMax
      strictFullMaxAbsLogprob := sums.strictMax
      highMassSupportTokens := support.card
      sampledTokenAgreement :=
        left.sampledTokenId.intValue = right.sampledTokenId.intValue
      topTokenAgreement := topTokenId left = topTokenId right }

/-! ## The greatest of a sequence -/

theorem foldl_max (xs : List ℝ) (x m : ℝ) :
    xs.foldl max x = m ↔ m ∈ x::xs ∧ ∀ y ∈ x::xs, y ≤ m := by
  induction xs generalizing x with
  | nil =>
    simp only [List.foldl_nil, List.mem_singleton, forall_eq]
    constructor
    · rintro rfl
      exact ⟨rfl, le_rfl⟩
    · rintro ⟨rfl, _⟩
      rfl
  | cons y xs ih =>
    rw [List.foldl_cons, ih]
    simp only [List.mem_cons, forall_eq_or_imp, max_le_iff]
    constructor
    · rintro ⟨hm, ⟨hx, hy⟩, hall⟩
      refine ⟨?_, hx, hy, hall⟩
      rcases hm with rfl | hm
      · rcases max_choice x y with h | h
        · exact Or.inl h
        · exact Or.inr (Or.inl h)
      · exact Or.inr (Or.inr hm)
    · rintro ⟨hm, hx, hy, hall⟩
      refine ⟨?_, ⟨hx, hy⟩, hall⟩
      rcases hm with rfl | rfl | hm
      · exact Or.inl (max_eq_left hy).symm
      · exact Or.inl (max_eq_right hx).symm
      · exact Or.inr hm

theorem maximum_ok_iff (xs : List ℝ) (m : ℝ) :
    maximum xs = .ok m ↔ m ∈ xs ∧ ∀ x ∈ xs, x ≤ m := by
  cases xs with
  | nil => simp [maximum]
  | cons x xs =>
    show Except.ok (xs.foldl max x) = Except.ok m ↔ _
    rw [Except.ok.injEq, foldl_max]

theorem maximum_returns {xs : List ℝ} (h : xs ≠ []) : ∃ m, maximum xs = .ok m := by
  cases xs with
  | nil => exact absurd rfl h
  | cons x xs => exact ⟨_, rfl⟩

theorem maximum_perm {xs ys : List ℝ} (h : xs.Perm ys) : maximum xs = maximum ys := by
  by_cases hxs : xs = []
  · subst hxs
    rw [List.nil_perm.mp h]
  obtain ⟨m, hm⟩ := maximum_returns hxs
  obtain ⟨hmem, hall⟩ := (maximum_ok_iff xs m).mp hm
  rw [hm]
  symm
  exact (maximum_ok_iff ys m).mpr ⟨h.mem_iff.mp hmem, fun y hy => hall y (h.mem_iff.mpr hy)⟩

/-! ## The softmax of a vector -/

theorem probabilities_ok {n : ℕ} [NeZero n] {values : List PyFloat} {v : Fin n → ℝ}
    (hf : ∀ x ∈ values, isFinite x = true) (hv : values.map realValue = List.ofFn v) :
    probabilities values = .ok (List.ofFn (softmax v)) := by
  have hne : values.map realValue ≠ [] := by
    rw [hv, Ne, List.ofFn_eq_nil_iff]
    exact NeZero.ne n
  obtain ⟨c, hc⟩ := maximum_returns hne
  have hweights : (values.map fun x => Real.exp (realValue x-c)) =
      List.ofFn fun i => Real.exp (v i-c) := by
    rw [← Function.comp_def (fun x => Real.exp (x-c)) realValue, ← List.map_map, hv, List.map_ofFn]
    rfl
  have htotal : (List.ofFn fun i => Real.exp (v i-c)).sum = ∑ i, Real.exp (v i-c) :=
    List.sum_ofFn
  have hne' : values ≠ [] := fun h => hne (by rw [h, List.map_nil])
  unfold probabilities
  refine (require_then_iff _ _ _ _).mpr ⟨⟨hne', hf⟩, ?_⟩
  refine (checked_ok_iff _ _ _).mpr ⟨c, hc, ?_⟩
  rw [hweights]
  dsimp only
  rw [htotal]
  refine (require_then_iff _ _ _ _).mpr ⟨total_pos fun i => v i-c, ?_⟩
  rw [List.map_ofFn, ← softmax_shift v c]
  rfl

/-! ## The high-mass support -/

theorem selectMass_take (p : List ℝ) (target c : ℝ) (order : List ℕ) :
    selectMass p target c order = order.take (selectMass p target c order).length := by
  induction order generalizing c with
  | nil => rfl
  | cons i order ih =>
    rw [selectMass]
    split_ifs
    · simp
    · rw [List.length_cons, List.take_succ_cons, ← ih]

theorem selectMass_short (p : List ℝ) (target c : ℝ) (order : List ℕ) (hc : c < target) (j : ℕ)
    (hj : j < (selectMass p target c order).length) :
    c+((order.take j).map (mass p)).sum < target := by
  induction order generalizing c j with
  | nil => exact absurd hj (Nat.not_lt_zero j)
  | cons i order ih =>
    rw [selectMass] at hj
    cases j with
    | zero => simpa using hc
    | succ j =>
      split_ifs at hj with h
      · simp at hj
      · have hrest := ih _ (not_le.mp h) j (Nat.lt_of_succ_lt_succ hj)
        rw [List.take_succ_cons, List.map_cons, List.sum_cons, ← add_assoc]
        exact hrest

theorem selectMass_reaches (p : List ℝ) (target c : ℝ) (order : List ℕ)
    (h : target ≤ c+(order.map (mass p)).sum) :
    target ≤ c+((selectMass p target c order).map (mass p)).sum := by
  induction order generalizing c with
  | nil => exact h
  | cons i order ih =>
    rw [selectMass]
    split_ifs with hi
    · simpa using hi
    · rw [List.map_cons, List.sum_cons, ← add_assoc] at h ⊢
      exact ih _ h

theorem byMass_perm (p : List ℝ) : (byMass p).Perm (List.range p.length) := sortedBy_perm _ _

theorem byMass_nodup (p : List ℝ) : (byMass p).Nodup :=
  (byMass_perm p).nodup_iff.mpr List.nodup_range

theorem byMass_decreasing (p : List ℝ) :
    (byMass p).Pairwise fun i j => mass p j ≤ mass p i := by
  apply (sortedBy_pairwise _ _).imp
  intro i j h
  rcases Prod.Lex.le_iff.mp h with hlt | ⟨heq, _⟩
  · exact (neg_lt_neg_iff.mp hlt).le
  · exact (neg_inj.mp heq).ge

theorem masses_range (p : List ℝ) : (List.range p.length).map (mass p) = p := by
  apply List.ext_getElem (by simp)
  intro i hi hp
  simp [mass, hp]

theorem byMass_sum (p : List ℝ) : ((byMass p).map (mass p)).sum = p.sum := by
  rw [((byMass_perm p).map (mass p)).sum_eq, masses_range]

/-- A support is a set of tokens that leaves out at most the tail. -/
def IsSupport (p : List ℝ) (s : Finset ℕ) : Prop :=
  s ⊆ Finset.range p.length ∧ 1-probabilityTailEpsilon ≤ ∑ i ∈ s, mass p i

structure LeastSupport (p : List ℝ) (s : Finset ℕ) : Prop where
  support : IsSupport p s
  least : ∀ t, IsSupport p t → s.card ≤ t.card

theorem highMassSupport_least {p : List ℝ} (hp : p.sum = 1) :
    ∃ s, highMassSupport p = .ok s ∧ s.Nonempty ∧ LeastSupport p s := by
  have hpos : 0 < 1-probabilityTailEpsilon := by
    unfold probabilityTailEpsilon
    norm_num
  have htail : 1-probabilityTailEpsilon ≤ 1 := by
    unfold probabilityTailEpsilon
    norm_num
  let target := 1-probabilityTailEpsilon
  let selected := selectMass p target 0 (byMass p)
  have htake : selected = (byMass p).take selected.length := selectMass_take _ _ _ _
  have hreach : target ≤ (selected.map (mass p)).sum := by
    have h := selectMass_reaches p target 0 (byMass p)
      (by rw [zero_add, byMass_sum, hp]; exact htail)
    rwa [zero_add] at h
  have hne : selected ≠ [] := by
    intro h
    rw [h, List.map_nil, List.sum_nil] at hreach
    exact absurd hpos (not_lt.mpr hreach)
  have hnodup : selected.Nodup := by
    rw [htake]
    exact (byMass_nodup p).sublist (List.take_sublist _ _)
  have hsum : ∑ i ∈ selected.toFinset, mass p i = (selected.map (mass p)).sum :=
    List.sum_toFinset _ hnodup
  have hall : (byMass p).toFinset = Finset.range p.length := by
    ext i
    rw [List.mem_toFinset, (byMass_perm p).mem_iff, List.mem_range, Finset.mem_range]
  have hsub : selected.toFinset ⊆ Finset.range p.length := by
    rw [← hall, htake]
    intro i hi
    exact List.mem_toFinset.mpr (List.mem_of_mem_take (List.mem_toFinset.mp hi))
  refine ⟨selected.toFinset, ?_, ?_, ⟨hsub, ?_⟩, ?_⟩
  · exact (require_then_iff _ _ _ _).mpr ⟨hne, rfl⟩
  · exact List.toFinset_nonempty_iff _ |>.mpr hne
  · rw [hsum]
    exact hreach
  · rintro t ⟨ht, hmass⟩
    rw [List.toFinset_card_of_nodup hnodup]
    by_contra hlt
    have hshort := selectMass_short p target 0 (byMass p) hpos t.card (not_le.mp hlt)
    have hheavy := sum_le_sum_take (mass p) (byMass_decreasing p) (byMass_nodup p) t
      (by rw [hall]; exact ht)
    rw [zero_add] at hshort
    exact absurd (hmass.trans hheavy) (not_le.mpr hshort)

/-! ## Views -/

/-- The view of a vector of log probabilities. -/
structure ViewOf {n : ℕ} (v : Fin n → ℝ) (w : DistributionView) : Prop where
  logprobs : w.logprobs = List.ofFn v
  probabilities : w.probabilities = List.ofFn (softmax v)
  support : LeastSupport w.probabilities w.highMassSupport
  nonempty : w.highMassSupport.Nonempty

theorem view_ok {n : ℕ} [NeZero n] {distribution : LogprobFields} {v : Fin n → ℝ}
    (hf : ∀ x ∈ distribution.values, isFinite x = true)
    (hv : distribution.values.map realValue = List.ofFn v) :
    ∃ w, view distribution = .ok w ∧ ViewOf v w := by
  have hsum : (List.ofFn (softmax v)).sum = 1 := by
    rw [List.sum_ofFn]
    exact (softmax_mem v).2
  obtain ⟨s, hs, hne, hleast⟩ := highMassSupport_least hsum
  refine ⟨⟨distribution.values.map realValue, List.ofFn (softmax v), s⟩, ?_, hv, rfl, hleast, hne⟩
  refine (checked_ok_iff _ _ _).mpr ⟨_, probabilities_ok hf hv, ?_⟩
  exact (checked_ok_iff _ _ _).mpr ⟨s, hs, rfl⟩

/-! ## Both sides of a comparison -/

def swapSides (c : Coordinate) : Coordinate := (c.1.swap, c.2.swap)

theorem addCoordinate_swap (s : Sums) (c : Coordinate) :
    addCoordinate s (swapSides c) = addCoordinate s c := by
  obtain ⟨⟨l, r⟩, p, q⟩ := c
  have hmid : 1/2*(q+p) = 1/2*(p+q) := by ring
  simp only [addCoordinate, swapSides, Prod.swap, hmid, abs_sub_comm r l, abs_sub_comm q p]
  congr 1
  split_ifs <;> ring

theorem coordinates_swap (left right : DistributionView) :
    coordinates right left = (coordinates left right).map swapSides := by
  show _ = (coordinates left right).map (Prod.map Prod.swap Prod.swap)
  rw [coordinates, coordinates, ← List.zip_map, List.zip_swap, List.zip_swap]

theorem sums_swap (left right : DistributionView) (s : Sums) :
    (coordinates right left).foldl addCoordinate s =
      (coordinates left right).foldl addCoordinate s := by
  rw [coordinates_swap, List.foldl_map]
  simp only [addCoordinate_swap]

theorem compareViews_comm (left right : LogprobFields) (leftView rightView : DistributionView) :
    compareViews left right leftView rightView = compareViews right left rightView leftView := by
  unfold compareViews
  by_cases h : leftView.logprobs.length = rightView.logprobs.length
  · have hdiff : ∀ i, |leftView.logprobs.getD i 0-rightView.logprobs.getD i 0| =
        |rightView.logprobs.getD i 0-leftView.logprobs.getD i 0| := fun i => abs_sub_comm _ _
    rw [require_of _ h, require_of _ h.symm, h, sums_swap,
      Finset.union_comm leftView.highMassSupport]
    simp only [hdiff, eq_comm (a := left.sampledTokenId.intValue),
      eq_comm (a := topTokenId left)]
  · rw [require_not _ h, require_not _ (Ne.symm h)]
    rfl

/-! ## What a comparison measures -/

theorem addCoordinate_gain (s : Sums) (l r p q : ℝ) (hp : 0 ≤ p) (hq : 0 ≤ q) :
    addCoordinate s ((l, r), p, q) =
      ⟨s.absoluteSum+|l-r|, max s.strictMax |l-r|, s.totalVariationSum+|p-q|,
        s.jsSum+(gain p q+gain q p)/2⟩ := by
  have hmid : 1/2*(p+q) = mid p q := by rw [mid]; ring
  have hmid' : mid q p = mid p q := mid_comm q p
  have hzero : ∀ {a : ℝ}, ¬0 < a → 0 ≤ a → a = 0 := fun h ha => le_antisymm (not_lt.mp h) ha
  simp only [addCoordinate, hmid, gain, hmid']
  congr 1
  split_ifs with h h' h'
  · ring
  · rw [hzero h' hp]
    ring
  · rw [hzero h hq]
    ring
  · rw [hzero h hq, hzero h' hp]
    ring

def paired {n : ℕ} (v w p q : Fin n → ℝ) : List Coordinate :=
  List.ofFn fun i => ((v i, w i), p i, q i)

theorem zip_ofFn {α β : Type} {n : ℕ} (f : Fin n → α) (g : Fin n → β) :
    (List.ofFn f).zip (List.ofFn g) = List.ofFn fun i => (f i, g i) := by
  apply List.ext_getElem (by simp)
  intro i h h'
  simp

theorem coordinates_of {n : ℕ} {v w : Fin n → ℝ} {left right : DistributionView}
    (hl : ViewOf v left) (hr : ViewOf w right) :
    coordinates left right = paired v w (softmax v) (softmax w) := by
  rw [coordinates, hl.logprobs, hr.logprobs, hl.probabilities, hr.probabilities, zip_ofFn,
    zip_ofFn, zip_ofFn]
  rfl

theorem foldl_addCoordinate (cs : List Coordinate) (hcs : ∀ c ∈ cs, 0 ≤ c.2.1 ∧ 0 ≤ c.2.2)
    (s : Sums) : cs.foldl addCoordinate s =
      ⟨s.absoluteSum+(cs.map fun c => |c.1.1-c.1.2|).sum,
        (cs.map fun c => |c.1.1-c.1.2|).foldl max s.strictMax,
        s.totalVariationSum+(cs.map fun c => |c.2.1-c.2.2|).sum,
        s.jsSum+(cs.map fun c => (gain c.2.1 c.2.2+gain c.2.2 c.2.1)/2).sum⟩ := by
  induction cs generalizing s with
  | nil => simp
  | cons c cs ih =>
    obtain ⟨⟨l, r⟩, p, q⟩ := c
    obtain ⟨⟨hp, hq⟩, hrest⟩ := List.forall_mem_cons.mp hcs
    rw [List.foldl_cons, addCoordinate_gain s l r p q hp hq, ih hrest]
    simp only [List.map_cons, List.sum_cons, List.foldl_cons, add_assoc]

theorem sums_of {n : ℕ} [NeZero n] {v w : Fin n → ℝ} {left right : DistributionView}
    (hl : ViewOf v left) (hr : ViewOf w right) :
    (coordinates left right).foldl addCoordinate ⟨0, 0, 0, 0⟩ =
      ⟨∑ i, |v i-w i|, (List.ofFn fun i => |v i-w i|).foldl max 0,
        ∑ i, |softmax v i-softmax w i|, jensenShannon (softmax v) (softmax w)⟩ := by
  rw [coordinates_of hl hr, foldl_addCoordinate]
  · simp only [paired, List.map_ofFn, Function.comp_def, List.sum_ofFn, zero_add]
    rfl
  · intro c hc
    obtain ⟨i, rfl⟩ := List.mem_ofFn.mp hc
    exact ⟨(softmax_pos v i).le, (softmax_pos w i).le⟩

structure Measures {n : ℕ} (v w : Fin n → ℝ) (support : Finset ℕ) (m : ProbabilityMetrics) :
    Prop where
  fullMean : m.val.fullMeanAbsLogprob = (∑ i, |v i-w i|)/n
  totalVariation : m.val.totalVariation = totalVariation (softmax v) (softmax w)
  jensenShannon : m.val.jensenShannonDivergence = jensenShannon (softmax v) (softmax w)
  highMass : IsGreatest {x | ∃ i ∈ support, x = |(List.ofFn v).getD i 0-(List.ofFn w).getD i 0|}
    m.val.highMassMaxAbsLogprob
  strict : IsGreatest {x | ∃ i, x = |v i-w i|} m.val.strictFullMaxAbsLogprob
  supportTokens : m.val.highMassSupportTokens = support.card

theorem strictMax_greatest {n : ℕ} [NeZero n] (v w : Fin n → ℝ) :
    IsGreatest {x | ∃ i, x = |v i-w i|} ((List.ofFn fun i => |v i-w i|).foldl max 0) := by
  obtain ⟨hmem, hall⟩ := (foldl_max (List.ofFn fun i => |v i-w i|) 0 _).mp rfl
  constructor
  · rcases List.mem_cons.mp hmem with hz | hmem
    · -- a maximum of zero is reached by every token
      refine ⟨0, ?_⟩
      rw [hz]
      have h := hall _ (List.mem_cons_of_mem _ (List.mem_ofFn.mpr ⟨0, rfl⟩))
      rw [hz] at h
      exact le_antisymm (abs_nonneg _) h
    · obtain ⟨i, hi⟩ := List.mem_ofFn.mp hmem
      exact ⟨i, hi.symm⟩
  · rintro x ⟨i, rfl⟩
    exact hall _ (List.mem_cons_of_mem _ (List.mem_ofFn.mpr ⟨i, rfl⟩))

theorem checkMetrics_ok_iff (f : MetricFields) :
    checkMetrics f = .ok ⟨⟩ ↔ 0 ≤ f.fullMeanAbsLogprob ∧ 0 ≤ f.totalVariation ∧
      0 ≤ f.jensenShannonDivergence ∧ 0 ≤ f.highMassMaxAbsLogprob ∧
      0 ≤ f.strictFullMaxAbsLogprob ∧ f.totalVariation ≤ 1+1/10^12 ∧
      f.jensenShannonDivergence ≤ Real.log 2+1/10^12 ∧ f.highMassSupportTokens ≠ 0 := by
  unfold checkMetrics finiteNonnegative
  rw [require_then_iff, require_then_iff, require_then_iff, require_then_iff, require_then_iff,
    require_then_iff, require_then_iff, require_ok_iff]

theorem compareViews_ok {n : ℕ} [NeZero n] {v w : Fin n → ℝ} {leftView rightView : DistributionView}
    (left right : LogprobFields) (hl : ViewOf v leftView) (hr : ViewOf w rightView) :
    ∃ m, compareViews left right leftView rightView = .ok m ∧
      Measures v w (leftView.highMassSupport ∪ rightView.highMassSupport) m := by
  have hleft : leftView.logprobs.length = n := by rw [hl.logprobs, List.length_ofFn]
  have hright : rightView.logprobs.length = n := by rw [hr.logprobs, List.length_ofFn]
  have hlen : leftView.logprobs.length = rightView.logprobs.length := hleft.trans hright.symm
  let support := leftView.highMassSupport ∪ rightView.highMassSupport
  let differences := support.toList.map fun i =>
    |leftView.logprobs.getD i 0-rightView.logprobs.getD i 0|
  have hne : differences ≠ [] := by
    intro h
    have hs : support = ∅ := Finset.toList_eq_nil.mp (List.map_eq_nil_iff.mp h)
    exact hl.nonempty.ne_empty (Finset.union_eq_empty.mp hs).1
  obtain ⟨highMassMax, hmax⟩ := maximum_returns hne
  have hgreatest := (maximum_ok_iff _ _).mp hmax
  have hnonneg : 0 ≤ highMassMax := by
    obtain ⟨i, _, hi⟩ := List.mem_map.mp hgreatest.1
    rw [← hi]
    exact abs_nonneg _
  have hjs : 0 ≤ jensenShannon (softmax v) (softmax w) :=
    jensenShannon_nonneg (softmax_mem v).1 (softmax_mem w).1
  have hvariation :
      1/2*∑ i, |softmax v i-softmax w i| = totalVariation (softmax v) (softmax w) := by
    unfold totalVariation
    ring
  have hstrict := strictMax_greatest v w
  let fields : MetricFields :=
    { fullMeanAbsLogprob := (∑ i, |v i-w i|)/n
      totalVariation := totalVariation (softmax v) (softmax w)
      jensenShannonDivergence := jensenShannon (softmax v) (softmax w)
      highMassMaxAbsLogprob := highMassMax
      strictFullMaxAbsLogprob := (List.ofFn fun i => |v i-w i|).foldl max 0
      highMassSupportTokens := support.card
      sampledTokenAgreement := left.sampledTokenId.intValue = right.sampledTokenId.intValue
      topTokenAgreement := topTokenId left = topTokenId right }
  have hcheck : checkMetrics fields = .ok ⟨⟩ := by
    refine (checkMetrics_ok_iff _).mpr ⟨?_, totalVariation_nonneg _ _, hjs, hnonneg, ?_, ?_, ?_, ?_⟩
    · exact div_nonneg (Finset.sum_nonneg fun _ _ => abs_nonneg _) (Nat.cast_nonneg n)
    · obtain ⟨i, hi⟩ := hstrict.1
      exact (abs_nonneg _).trans hi.ge
    · have h := totalVariation_le_one (softmax_mem v) (softmax_mem w)
      linarith
    · have h := jensenShannon_le (softmax_mem v) (softmax_mem w)
      linarith
    · exact Finset.card_ne_zero_of_mem (Finset.mem_union_left _ hl.nonempty.choose_spec)
  refine ⟨⟨fields, hcheck⟩, ?_, rfl, rfl, rfl, ?_, hstrict, rfl⟩
  · unfold compareViews
    refine (require_then_iff _ _ _ _).mpr ⟨hlen, ?_⟩
    refine (checked_ok_iff _ _ _).mpr ⟨highMassMax, hmax, ?_⟩
    refine (construct_ok_iff _ _ _).mpr ?_
    rw [sums_of hl hr, hleft]
    simp only [hvariation, max_eq_left hjs]
    rfl
  · rw [← hl.logprobs, ← hr.logprobs]
    constructor
    · obtain ⟨i, hi, he⟩ := List.mem_map.mp hgreatest.1
      exact ⟨i, Finset.mem_toList.mp hi, he.symm⟩
    · rintro x ⟨i, hi, rfl⟩
      exact hgreatest.2 _ (List.mem_map_of_mem (Finset.mem_toList.mpr hi))

end
end CacheBlend.ProbabilityViews
