import CacheBlend.PlannerModels
import Mathlib.Order.Interval.Finset.Nat
import Mathlib.Data.Finset.Card
import Mathlib.Data.Set.Card
import Mathlib.Order.BourbakiWitt
import Mathlib.Order.CompletePartialOrder

/-!
# Positions covered by ranges

The merge loop over ranges in order counts the positions of their union. So
the count does not depend on order or repetition, grows with the ranges, is
bounded by their common bound, and is the sum of the sizes when no two ranges
overlap. The lookup counts ranges, the matcher and the control plane count the
ranges of segments, each with a copy of the loop.
-/

set_option autoImplicit false

namespace CacheBlend.CoveredRanges
open CacheBlend.PlannerModels

def positionSet : List TokenRange → Finset ℕ
  | [] => ∅
  | r::rest => Finset.Ico r.start r.stop ∪ positionSet rest

theorem mem_positionSet (ranges : List TokenRange) (position : ℕ) :
    position ∈ positionSet ranges ↔ ∃ r ∈ ranges, r.start ≤ position ∧ position < r.stop := by
  induction ranges with
  | nil => simp [positionSet]
  | cons r rest ih =>
    rw [positionSet, Finset.mem_union, Finset.mem_Ico, ih, List.exists_mem_cons_iff]

theorem positionSet_congr {ranges ranges' : List TokenRange}
    (h : ∀ r, r ∈ ranges ↔ r ∈ ranges') : positionSet ranges = positionSet ranges' := by
  ext position
  simp only [mem_positionSet, h]

theorem coverLoop_card (rest : List TokenRange) (covered start stop : ℕ) (h : start ≤ stop)
    (hs : rest.Pairwise (fun r r' => r.start ≤ r'.start)) (hr : ∀ r ∈ rest, start ≤ r.start) :
    coverLoop covered start stop rest =
      covered+(Finset.Ico start stop ∪ positionSet rest).card := by
  induction rest generalizing covered start stop with
  | nil => rw [coverLoop, positionSet, Finset.union_empty, Nat.card_Ico]
  | cons r rest ih =>
    obtain ⟨hnext, hs⟩ := List.pairwise_cons.mp hs
    have hstart := hr r List.mem_cons_self
    have hordered := r.ordered
    rw [coverLoop, positionSet]
    split_ifs with hle
    · rw [ih covered start (max stop r.stop) (by omega) hs
        fun x hx => hr x (List.mem_cons_of_mem _ hx), ← Finset.union_assoc]
      have hblock : Finset.Ico start (max stop r.stop) =
          Finset.Ico start stop ∪ Finset.Ico r.start r.stop := by
        ext position
        simp only [Finset.mem_union, Finset.mem_Ico]
        omega
      rw [hblock]
    · have hapart : Disjoint (Finset.Ico start stop)
          (Finset.Ico r.start r.stop ∪ positionSet rest) := by
        rw [Finset.disjoint_left]
        intro position hp hq
        obtain hq | hq := Finset.mem_union.mp hq
        · rw [Finset.mem_Ico] at hp hq
          omega
        · obtain ⟨x, hx, hq, _⟩ := (mem_positionSet rest position).mp hq
          have hx := hnext x hx
          rw [Finset.mem_Ico] at hp
          omega
      rw [ih (covered+(stop-start)) r.start r.stop hordered hs hnext,
        Finset.card_union_of_disjoint hapart, Nat.card_Ico, Nat.add_assoc]

theorem coveredTokenCount_eq (ranges : List TokenRange) :
    coveredTokenCount ranges = (positionSet ranges).card := by
  have hsame : positionSet ranges = positionSet (sortedBy TokenRange.sortKey ranges) :=
    positionSet_congr fun r => (mem_sortedBy TokenRange.sortKey ranges r).symm
  have hsorted : (sortedBy TokenRange.sortKey ranges).Pairwise (fun r r' => r.start ≤ r'.start) :=
    (sortedBy_pairwise TokenRange.sortKey ranges).imp fun {r r'} h => by
      unfold TokenRange.sortKey at h
      rw [Prod.Lex.toLex_le_toLex] at h
      omega
  unfold coveredTokenCount
  rw [hsame]
  generalize sortedBy TokenRange.sortKey ranges = sorted at hsorted
  cases sorted with
  | nil => rfl
  | cons r rest =>
    obtain ⟨hnext, hsorted⟩ := List.pairwise_cons.mp hsorted
    show coverLoop 0 r.start r.stop rest = _
    rw [coverLoop_card rest 0 r.start r.stop r.ordered hsorted hnext, Nat.zero_add]
    rfl

theorem coveredTokenCount_congr {ranges ranges' : List TokenRange}
    (h : ∀ r, r ∈ ranges ↔ r ∈ ranges') : coveredTokenCount ranges = coveredTokenCount ranges' := by
  rw [coveredTokenCount_eq, coveredTokenCount_eq, positionSet_congr h]

theorem coveredTokenCount_mono {ranges ranges' : List TokenRange} (h : ranges ⊆ ranges') :
    coveredTokenCount ranges ≤ coveredTokenCount ranges' := by
  rw [coveredTokenCount_eq, coveredTokenCount_eq]
  apply Finset.card_le_card
  intro position hp
  obtain ⟨r, hr, hh⟩ := (mem_positionSet ranges position).mp hp
  exact (mem_positionSet ranges' position).mpr ⟨r, h hr, hh⟩

theorem coveredTokenCount_bounded {ranges : List TokenRange} {bound : ℕ}
    (h : ∀ r ∈ ranges, r.stop ≤ bound) : coveredTokenCount ranges ≤ bound := by
  rw [coveredTokenCount_eq]
  have hsub : positionSet ranges ⊆ Finset.range bound := by
    intro position hp
    obtain ⟨r, hr, _, hlt⟩ := (mem_positionSet ranges position).mp hp
    exact Finset.mem_range.mpr (hlt.trans_le (h r hr))
  exact (Finset.card_le_card hsub).trans_eq (Finset.card_range bound)

theorem coveredTokenCount_apart {ranges : List TokenRange}
    (h : ranges.Pairwise (fun r r' => ¬r.Overlaps r')) :
    coveredTokenCount ranges = (ranges.map TokenRange.size).sum := by
  rw [coveredTokenCount_eq]
  induction ranges with
  | nil => rfl
  | cons r rest ih =>
    obtain ⟨hr, hrest⟩ := List.pairwise_cons.mp h
    have hapart : Disjoint (Finset.Ico r.start r.stop) (positionSet rest) := by
      rw [Finset.disjoint_left]
      intro position hp hq
      obtain ⟨x, hx, hl, hlt⟩ := (mem_positionSet rest position).mp hq
      rw [Finset.mem_Ico] at hp
      exact hr x hx ⟨by omega, by omega⟩
    rw [positionSet, Finset.card_union_of_disjoint hapart, ih hrest, Nat.card_Ico, List.map_cons,
      List.sum_cons]
    rfl

/-! ## The copies of the loop -/

/-- `_covered_token_count` of the lookup. -/
def lookupCoveredTokenCount (ranges : List TokenRange) : ℕ := coveredTokenCount ranges

/-- `_covered_token_count` of the matcher. -/
def matchingCoveredTokenCount (segments : List TokenSegment) : ℕ :=
  coveredTokenCount (segments.map TokenSegment.tokenRange)

/-- `_covered_token_count` of the control plane. -/
def controlPlaneCoveredTokenCount (segments : List TokenSegment) : ℕ :=
  coveredTokenCount (segments.map TokenSegment.tokenRange)

def positionsOf (r : TokenRange) : Set ℕ := {position | r.start ≤ position ∧ position < r.stop}

theorem encard_positions (ranges : List TokenRange) :
    {position | ∃ r ∈ ranges, position ∈ positionsOf r}.encard = coveredTokenCount ranges := by
  have hset : {position | ∃ r ∈ ranges, position ∈ positionsOf r} =
      (positionSet ranges : Set ℕ) := by
    ext position
    exact (mem_positionSet ranges position).symm
  rw [hset, Set.encard_coe_eq_coe_finsetCard, coveredTokenCount_eq]

theorem overlaps_apart {r r' : TokenRange} (hr : r.size ≠ 0) (hr' : r'.size ≠ 0)
    (h : Disjoint (positionsOf r) (positionsOf r')) : ¬r.Overlaps r' := by
  rintro ⟨hl, hl'⟩
  unfold TokenRange.size at hr hr'
  have hmem : max r.start r'.start ∈ positionsOf r := ⟨le_max_left _ _, by omega⟩
  have hmem' : max r.start r'.start ∈ positionsOf r' := ⟨le_max_right _ _, by omega⟩
  exact Set.disjoint_left.mp h hmem hmem'

theorem coveredTokenCount_disjoint {ranges : List TokenRange}
    (h : ranges.Pairwise (fun r r' => Disjoint (positionsOf r) (positionsOf r'))) :
    (ranges.map TokenRange.size).sum ≤ coveredTokenCount ranges := by
  have hsum : (ranges.map TokenRange.size).sum =
      ((ranges.filter (fun r => r.size ≠ 0)).map TokenRange.size).sum := by
    clear h
    induction ranges with
    | nil => rfl
    | cons r rest ih =>
      rw [List.map_cons, List.sum_cons, ih, List.filter_cons]
      by_cases hr : r.size = 0
      · simp [hr]
      · simp [hr]
  have hapart : (ranges.filter (fun r => r.size ≠ 0)).Pairwise (fun r r' => ¬r.Overlaps r') := by
    refine (h.filter _).imp_of_mem fun {r r'} hr hr' hd => ?_
    exact overlaps_apart (by simpa using (List.mem_filter.mp hr).2)
      (by simpa using (List.mem_filter.mp hr').2) hd
  rw [hsum, ← coveredTokenCount_apart hapart]
  exact coveredTokenCount_mono (List.filter_subset_self _)

/-- The loop counts distinct positions, in every copy. -/
theorem covered_counts_positions :
    (∀ ranges : List TokenRange,
      (lookupCoveredTokenCount ranges : ℕ∞) =
        {position | ∃ r ∈ ranges, position ∈ positionsOf r}.encard) ∧
    (∀ ranges ranges' : List TokenRange, ranges.Perm ranges' →
      lookupCoveredTokenCount ranges = lookupCoveredTokenCount ranges') ∧
    (∀ ranges ranges' : List TokenRange, ranges ⊆ ranges' →
      lookupCoveredTokenCount ranges ≤ lookupCoveredTokenCount ranges') ∧
    (∀ ranges apart : List TokenRange, apart.Sublist ranges →
      apart.Pairwise (fun r r' => Disjoint (positionsOf r) (positionsOf r')) →
        (apart.map TokenRange.size).sum ≤ lookupCoveredTokenCount ranges) ∧
    (∀ segments : List TokenSegment,
      matchingCoveredTokenCount segments =
        lookupCoveredTokenCount (segments.map TokenSegment.tokenRange) ∧
      controlPlaneCoveredTokenCount segments =
        lookupCoveredTokenCount (segments.map TokenSegment.tokenRange)) := by
  refine ⟨fun ranges => (encard_positions ranges).symm, fun ranges ranges' h => ?_,
    fun ranges ranges' h => coveredTokenCount_mono h, fun ranges apart hs h => ?_,
    fun segments => ⟨rfl, rfl⟩⟩
  · exact coveredTokenCount_congr fun r => h.mem_iff
  · exact (coveredTokenCount_disjoint h).trans (coveredTokenCount_mono hs.subset)

example : lookupCoveredTokenCount [⟨4, 6, by decide⟩, ⟨0, 4, by decide⟩, ⟨1, 3, by decide⟩,
    ⟨9, 9, by decide⟩, ⟨4, 6, by decide⟩] = 6 := by
  decide

end CacheBlend.CoveredRanges
