import CacheBlend.PyNumbers
import CacheBlend.Ranking
import CacheBlend.SelectiveCoverage

/-!
# The selection policy

A ratio of the cached rows is recomputed: those with the greatest scores, and
the lower of two rows with one score. The rows that are not cached and a suffix
of the prompt are always recomputed. One list of ranges serves every layer.
-/

set_option autoImplicit false

namespace CacheBlend.SelectionPolicy
open CacheBlend.PlannerModels CacheBlend.HybridLayout CacheBlend.ScatterSpans
open CacheBlend.SelectiveRows CacheBlend.SelectiveCoverage CacheBlend.Ranking

inductive SelectionPolicyErrorCode where
  | invalidPromptLength
  | invalidCheckLayer
  | invalidRecomputeRatio
  | invalidSuffixLength
  | invalidImportanceScores
  | invalidCacheRanges
  | nonCanonicalCacheRanges
  | overlappingCacheRanges
  | cacheRangeOutOfBounds
  | invalidRatioSweep
  | inconsistentSweep
  | invalidMeasurement
  | measurementMismatch
  deriving DecidableEq

/-- The exceptions of the policy: its own, those of the row plan, and the
`OverflowError` of an integer that no float is near. -/
inductive SelectionFault where
  | policy (code : SelectionPolicyErrorCode)
  | plan (code : SelectivePlanErrorCode)
  | overflow
  deriving DecidableEq

/-! ## Inputs -/

def validatePromptTokens (promptTokens : ℤ) : Except SelectionFault ℕ := do
  require (0 ≤ promptTokens ∧ promptTokens ≤ 131072) (.policy .invalidPromptLength)
  .ok promptTokens.toNat

/-- A number that is finite as a float and passes a check of its value. -/
def checkedFloat (p : ℚ → Prop) [DecidablePred p] (code : SelectionPolicyErrorCode)
    (value : PyNumber) : Except SelectionFault ℚ :=
  match floatOf value with
  | .finite q => if p q then .ok q else .error (.policy code)
  | .nonFinite => .error (.policy code)
  | .overflow => .error .overflow

def validateCacheRanges (promptTokens : ℕ) (cacheRanges : List TokenRange) :
    Except SelectionFault (List TokenRange) := do
  require (∀ r ∈ cacheRanges, r.size ≠ 0) (.policy .invalidCacheRanges)
  require (∀ r ∈ cacheRanges, r.stop ≤ promptTokens) (.policy .cacheRangeOutOfBounds)
  require (sortedBy TokenRange.sortKey cacheRanges = cacheRanges)
    (.policy .nonCanonicalCacheRanges)
  require (cacheRanges.IsChain (fun r r' => ¬r.Overlaps r')) (.policy .overlappingCacheRanges)
  .ok cacheRanges

/-! ## Rows -/

/-- The loop of `_merge_ranges`; `last` is the last merged range. -/
def mergeLoop (last : TokenRange) : List TokenRange → List TokenRange
  | [] => [last]
  | item::rest =>
    if last.stop < item.start then last :: mergeLoop item rest
    else if h : last.stop < item.stop then
      mergeLoop ⟨last.start, item.stop, last.ordered.trans h.le⟩ rest
    else mergeLoop last rest

def mergeRanges (ranges : List TokenRange) : List TokenRange :=
  match sortedBy TokenRange.sortKey ranges with
  | [] => []
  | r::rest => mergeLoop r rest

def forcedSuffix (prompt suffix : ℕ) : List TokenRange :=
  if suffix = 0 then [] else [⟨prompt-suffix, prompt, Nat.sub_le prompt suffix⟩]

def eligible (prompt : ℕ) (cached : List TokenRange) (suffix : ℕ) : List ℕ :=
  (positions cached).filter (fun position => ¬∃ r ∈ forcedSuffix prompt suffix, Holds r position)

/-- `int(count * ratio)`. -/
def budget (product : RatioProduct) (count : ℕ) (ratio : ℚ) : ℕ := ⌊product.value count ratio⌋₊

def rank (scores : List ℚ) (position : ℕ) : ℚ ×ₗ ℕ := toLex (-scores.getD position 0, position)

def selectedRows (product : RatioProduct) (prompt : ℕ) (cached : List TokenRange)
    (scores : List ℚ) (ratio : ℚ) (suffix : ℕ) : List ℕ :=
  let rows := eligible prompt cached suffix
  sortedBy id (foremost (rank scores) (budget product rows.length ratio) rows)

def rowRange (position : ℕ) : TokenRange := ⟨position, position+1, Nat.le_succ position⟩

/-- The merge of the rows that are not cached, the suffix and the selected rows. -/
def recomputeOf (prompt : ℕ) (cached : List TokenRange) (suffix : ℕ) (selected : List ℕ) :
    List TokenRange :=
  mergeRanges (complement prompt cached ++ forcedSuffix prompt suffix ++ selected.map rowRange)

@[ext] structure SelectionPolicyResult where
  checkLayer : ℕ
  recomputeRatio : ℚ
  suffixTokens : ℕ
  candidateCachedRanges : List TokenRange
  recomputeRanges : List TokenRange
  selectedCachedRows : List ℕ
  rowPlan : ForwardRowPlan

def SelectionPolicyResult.promptTokens (r : SelectionPolicyResult) : ℕ := r.rowPlan.promptTokens

/-- `CacheBlendSelectionPolicy.select`. -/
def select (product : RatioProduct) (promptTokens : ℤ) (cacheRanges : List TokenRange)
    (importanceScores : List PyNumber) (checkLayer : ℤ) (recomputeRatio : PyNumber)
    (suffixTokens : ℤ) : Except SelectionFault SelectionPolicyResult := do
  let prompt ← validatePromptTokens promptTokens
  require (0 ≤ checkLayer ∧ checkLayer < gptOssNumLayers) (.policy .invalidCheckLayer)
  let ratio ← checkedFloat (fun q => 0 ≤ q ∧ q ≤ 1) .invalidRecomputeRatio recomputeRatio
  require (0 ≤ suffixTokens ∧ suffixTokens ≤ prompt) (.policy .invalidSuffixLength)
  let suffix := suffixTokens.toNat
  require (importanceScores.length = prompt) (.policy .invalidImportanceScores)
  let normalizedScores ← importanceScores.mapM
    (checkedFloat (fun q => 0 ≤ q) .invalidImportanceScores)
  let cached ← validateCacheRanges prompt cacheRanges
  let selected := selectedRows product prompt cached normalizedScores ratio suffix
  let recompute := recomputeOf prompt cached suffix selected
  let plan ← (ForwardRowPlan.fromRecomputeRanges prompt
    (List.replicate gptOssNumLayers recompute)).mapError SelectionFault.plan
  .ok {
    checkLayer := checkLayer.toNat
    recomputeRatio := ratio
    suffixTokens := suffix
    candidateCachedRanges := cached
    recomputeRanges := recompute
    selectedCachedRows := selected
    rowPlan := plan }

/-! ## Merged ranges -/

/-- Ascending ranges with a gap between any two. -/
def Separated (ranges : List TokenRange) : Prop :=
  ranges.Pairwise (fun r r' => r.stop < r'.start)

/-- What the loop keeps: the merged ranges begin where `last` does, have gaps
between them and hold what `last` and the remaining ranges hold. -/
structure Merged (last : TokenRange) (rest out : List TokenRange) : Prop where
  start : ∀ r ∈ out, last.start ≤ r.start
  separated : Separated out
  nonempty : ∀ r ∈ out, r.size ≠ 0
  holds : ∀ position, (∃ r ∈ out, Holds r position) ↔
    Holds last position ∨ ∃ r ∈ rest, Holds r position

theorem mergeLoop_merged {last : TokenRange} {rest : List TokenRange}
    (hs : rest.Pairwise (fun r r' => r.start ≤ r'.start)) (hr : ∀ r ∈ rest, last.start ≤ r.start)
    (hn : ∀ r ∈ rest, r.size ≠ 0) (hl : last.size ≠ 0) :
    Merged last rest (mergeLoop last rest) := by
  induction rest generalizing last with
  | nil =>
    constructor
    · intro r h
      obtain rfl := List.mem_singleton.mp h
      exact le_refl _
    · exact List.pairwise_singleton _ _
    · intro r h
      obtain rfl := List.mem_singleton.mp h
      exact hl
    · intro position
      simp [mergeLoop]
  | cons item rest ih =>
    obtain ⟨hnext, hs⟩ := List.pairwise_cons.mp hs
    have hstart := hr item List.mem_cons_self
    have hitem := hn item List.mem_cons_self
    have hrest := fun r h => hr r (List.mem_cons_of_mem _ h)
    have hn' := fun r h => hn r (List.mem_cons_of_mem _ h)
    have hordered := item.ordered
    unfold mergeLoop
    split_ifs with hgap hgrow
    · have hlater := ih hs hnext hn' hitem
      constructor
      · intro r h
        obtain rfl | h := List.mem_cons.mp h
        · exact le_refl _
        · exact hstart.trans (hlater.start r h)
      · exact List.pairwise_cons.mpr
          ⟨fun r h => hgap.trans_le (hlater.start r h), hlater.separated⟩
      · exact List.forall_mem_cons.mpr ⟨hl, hlater.nonempty⟩
      · intro position
        rw [List.exists_mem_cons_iff, hlater.holds, List.exists_mem_cons_iff]
    · -- the range grows to the end of the item
      have hgrown :
          (⟨last.start, item.stop, last.ordered.trans hgrow.le⟩ : TokenRange).size ≠ 0 := by
        unfold TokenRange.size at hl ⊢
        dsimp only
        omega
      have hlater : Merged ⟨last.start, item.stop, last.ordered.trans hgrow.le⟩ rest _ :=
        ih hs hrest hn' hgrown
      refine ⟨hlater.start, hlater.separated, hlater.nonempty, fun position => ?_⟩
      rw [hlater.holds, List.exists_mem_cons_iff, ← or_assoc]
      apply or_congr_left
      unfold Holds
      dsimp only
      omega
    · have hlater := ih hs hrest hn' hl
      refine ⟨hlater.start, hlater.separated, hlater.nonempty, fun position => ?_⟩
      rw [hlater.holds, List.exists_mem_cons_iff, ← or_assoc]
      apply or_congr_left
      unfold Holds
      omega

theorem mergeRanges_spec {ranges : List TokenRange} (hn : ∀ r ∈ ranges, r.size ≠ 0) :
    Separated (mergeRanges ranges) ∧ (∀ r ∈ mergeRanges ranges, r.size ≠ 0) ∧
      ∀ position, (∃ r ∈ mergeRanges ranges, Holds r position) ↔
        ∃ r ∈ ranges, Holds r position := by
  have hsorted : (sortedBy TokenRange.sortKey ranges).Pairwise (fun r r' => r.start ≤ r'.start) :=
    (sortedBy_pairwise TokenRange.sortKey ranges).imp fun {r r'} h => by
      unfold TokenRange.sortKey at h
      rw [Prod.Lex.toLex_le_toLex] at h
      omega
  have hmem := mem_sortedBy TokenRange.sortKey ranges
  have hholds : ∀ position, (∃ r ∈ sortedBy TokenRange.sortKey ranges, Holds r position) ↔
      ∃ r ∈ ranges, Holds r position :=
    fun position => exists_congr fun r => and_congr_left fun _ => hmem r
  unfold mergeRanges
  have hn' : ∀ r ∈ sortedBy TokenRange.sortKey ranges, r.size ≠ 0 := fun r h => hn r ((hmem r).mp h)
  generalize sortedBy TokenRange.sortKey ranges = sorted at hsorted hholds hn'
  cases sorted with
  | nil => exact ⟨List.Pairwise.nil, fun r h => (nomatch h), hholds⟩
  | cons r rest =>
    obtain ⟨hnext, hsorted⟩ := List.pairwise_cons.mp hsorted
    have h := mergeLoop_merged hsorted hnext (fun r h => hn' r (List.mem_cons_of_mem _ h))
      (hn' r List.mem_cons_self)
    refine ⟨h.separated, h.nonempty, fun position => ?_⟩
    rw [← hholds, List.exists_mem_cons_iff]
    exact h.holds position

end CacheBlend.SelectionPolicy
