import Mathlib.Data.List.Infix
import Mathlib.Order.Defs.LinearOrder

/-!
# Scans for delimiters

A scan reads a list from left to right and takes the longest delimiter that
begins at its place. It leaves regions, in which no delimiter begins, with one
delimiter between two of them. Regions and delimiters together are the list,
in their order.
-/

set_option autoImplicit false

namespace CacheBlend.DelimiterScans

variable {α : Type*}

/-- A delimiter that begins the text, and no longer one does. -/
structure Taken (delimiters : List (List α)) (text delimiter : List α) : Prop where
  mem : delimiter ∈ delimiters
  begins : delimiter <+: text
  longest : ∀ d ∈ delimiters, d <+: text → d.length ≤ delimiter.length

/-- No delimiter begins in the first `n` places of the text. -/
def Free (delimiters : List (List α)) (text : List α) (n : ℕ) : Prop :=
  ∀ i < n, ∀ d ∈ delimiters, ¬d <+: text.drop i

/-- The regions of a text that a delimiter ends, each with it, and the last region. -/
inductive Scan (delimiters : List (List α)) : List α → List (List α × List α) → List α → Prop
  | last {region : List α} (free : Free delimiters region region.length) :
      Scan delimiters region [] region
  | block {region delimiter rest last : List α} {blocks : List (List α × List α)}
      (free : Free delimiters (region ++ (delimiter ++ rest)) region.length)
      (taken : Taken delimiters (delimiter ++ rest) delimiter)
      (scan : Scan delimiters rest blocks last) :
      Scan delimiters (region ++ (delimiter ++ rest)) ((region, delimiter)::blocks) last

/-- A piece of a list at its place, when it is not empty. -/
def placedPiece (start : ℕ) (piece : List α) : List (ℕ × List α) :=
  match piece with
  | [] => []
  | a::piece => [(start, a::piece)]

theorem mem_placedPiece (start : ℕ) (piece : List α) (q : ℕ × List α) :
    q ∈ placedPiece start piece ↔ q = (start, piece) ∧ piece ≠ [] := by
  cases piece with
  | nil => simp [placedPiece]
  | cons a piece => simp [placedPiece]

/-- The regions that are not empty, at their places. -/
def regionsAt (start : ℕ) : List (List α × List α) → List α → List (ℕ × List α)
  | [], last => placedPiece start last
  | (region, delimiter)::blocks, last =>
      placedPiece start region ++ regionsAt (start+region.length+delimiter.length) blocks last

def delimitersAt (start : ℕ) : List (List α × List α) → List (ℕ × List α)
  | [] => []
  | (region, delimiter)::blocks =>
      (start+region.length, delimiter)::
        delimitersAt (start+region.length+delimiter.length) blocks

def Covers (q : ℕ × List α) (i : ℕ) : Prop := q.1 ≤ i ∧ i < q.1+q.2.length

section
variable {delimiters : List (List α)}

theorem regionsAt_start {start : ℕ} {blocks : List (List α × List α)} {last : List α} :
    ∀ q ∈ regionsAt start blocks last, start ≤ q.1 := by
  induction blocks generalizing start with
  | nil =>
    intro q hq
    obtain ⟨rfl, _⟩ := (mem_placedPiece _ _ _).mp hq
    exact le_refl start
  | cons b blocks ih =>
    intro q hq
    obtain hq | hq := List.mem_append.mp hq
    · obtain ⟨rfl, _⟩ := (mem_placedPiece _ _ _).mp hq
      exact le_refl start
    · have h := ih q hq
      omega

theorem delimitersAt_start {start : ℕ} {blocks : List (List α × List α)} :
    ∀ q ∈ delimitersAt start blocks, start ≤ q.1 := by
  induction blocks generalizing start with
  | nil => exact fun q hq => (nomatch hq)
  | cons b blocks ih =>
    intro q hq
    obtain rfl | hq := List.mem_cons.mp hq
    · exact Nat.le_add_right start _
    · have h := ih q hq
      omega

theorem regionsAt_apart (hd : ∀ d ∈ delimiters, d ≠ []) {text last : List α}
    {blocks : List (List α × List α)} (h : Scan delimiters text blocks last) (start : ℕ) :
    (regionsAt start blocks last).Pairwise (fun q q' => q.1+q.2.length < q'.1) := by
  induction h generalizing start with
  | last free =>
    rename_i region
    cases region with
    | nil => exact List.Pairwise.nil
    | cons a region => exact List.pairwise_singleton _ _
  | @block region delimiter rest last blocks free taken scan ih =>
    have hpos := List.length_pos_of_ne_nil (hd _ taken.mem)
    apply List.pairwise_append.mpr
    refine ⟨?_, ih _, ?_⟩
    · cases region with
      | nil => exact List.Pairwise.nil
      | cons a region => exact List.pairwise_singleton _ _
    · intro q hq q' hq'
      obtain ⟨rfl, _⟩ := (mem_placedPiece _ _ _).mp hq
      have hstart := regionsAt_start q' hq'
      show start+region.length < q'.1
      omega

theorem regionsAt_spec {text last : List α} {blocks : List (List α × List α)}
    (h : Scan delimiters text blocks last) (start : ℕ) :
    ∀ q ∈ regionsAt start blocks last, q.2 ≠ [] ∧ (text.drop (q.1-start)).take q.2.length = q.2 ∧
      ∀ i, Covers q i → ∀ d ∈ delimiters, ¬d <+: text.drop (i-start) := by
  induction h generalizing start with
  | @last region free =>
    intro q hq
    obtain ⟨rfl, hne⟩ := (mem_placedPiece _ _ _).mp hq
    refine ⟨hne, by simp, fun i hi => free _ ?_⟩
    obtain ⟨hlow, hhigh⟩ := hi
    dsimp only at hlow hhigh
    omega
  | @block region delimiter rest last blocks free taken scan ih =>
    intro q hq
    obtain hq | hq := List.mem_append.mp hq
    · obtain ⟨rfl, hne⟩ := (mem_placedPiece _ _ _).mp hq
      refine ⟨hne, by simp, fun i hi => free _ ?_⟩
      obtain ⟨hlow, hhigh⟩ := hi
      dsimp only at hlow hhigh
      omega
    · have hstart := regionsAt_start q hq
      -- a place behind the block is one of the rest
      have hdrop : ∀ i, start+region.length+delimiter.length ≤ i →
          (region ++ (delimiter ++ rest)).drop (i-start) =
            rest.drop (i-(start+region.length+delimiter.length)) := by
        intro i hi
        obtain ⟨k, rfl⟩ := Nat.exists_eq_add_of_le hi
        have hleft : start+region.length+delimiter.length+k-start =
            region.length+(delimiter.length+k) := by omega
        rw [hleft, List.drop_length_add_append, List.drop_length_add_append,
          Nat.add_sub_cancel_left]
      obtain ⟨hne, hat, hfree⟩ := ih _ q hq
      refine ⟨hne, by rw [hdrop _ hstart, hat], fun i hi => ?_⟩
      rw [hdrop i (hstart.trans hi.1)]
      exact hfree i hi

theorem covered_iff {text last : List α} {blocks : List (List α × List α)}
    (h : Scan delimiters text blocks last) (start : ℕ) {i : ℕ} (hlow : start ≤ i)
    (hhigh : i < start+text.length) :
    (∃ q ∈ regionsAt start blocks last, Covers q i) ↔
      ¬∃ q ∈ delimitersAt start blocks, Covers q i := by
  induction h generalizing start with
  | @last region free =>
    constructor
    · rintro _ ⟨q, hq, _⟩
      cases hq
    · intro _
      refine ⟨(start, region), (mem_placedPiece _ _ _).mpr ⟨rfl, ?_⟩, hlow, hhigh⟩
      apply List.ne_nil_of_length_pos
      omega
  | @block region delimiter rest last blocks free taken scan ih =>
    rw [List.length_append, List.length_append] at hhigh
    have hregions : (∃ q ∈ regionsAt start ((region, delimiter)::blocks) last, Covers q i) ↔
        i < start+region.length ∨ ∃ q ∈ regionsAt (start+region.length+delimiter.length)
          blocks last, Covers q i := by
      constructor
      · rintro ⟨q, hq, hc⟩
        obtain hq | hq := List.mem_append.mp hq
        · obtain ⟨rfl, _⟩ := (mem_placedPiece _ _ _).mp hq
          exact .inl hc.2
        · exact .inr ⟨q, hq, hc⟩
      · rintro (hi | ⟨q, hq, hc⟩)
        · refine ⟨(start, region), List.mem_append_left _ ((mem_placedPiece _ _ _).mpr
            ⟨rfl, ?_⟩), hlow, hi⟩
          apply List.ne_nil_of_length_pos
          omega
        · exact ⟨q, List.mem_append_right _ hq, hc⟩
    have hdelimiters : (∃ q ∈ delimitersAt start ((region, delimiter)::blocks), Covers q i) ↔
        (start+region.length ≤ i ∧ i < start+region.length+delimiter.length) ∨
          ∃ q ∈ delimitersAt (start+region.length+delimiter.length) blocks, Covers q i := by
      show (∃ q ∈ (start+region.length, delimiter)::
        delimitersAt (start+region.length+delimiter.length) blocks, Covers q i) ↔ _
      rw [List.exists_mem_cons_iff]
      rfl
    rw [hregions, hdelimiters]
    by_cases hbefore : i < start+region.length+delimiter.length
    · -- nothing of the rest stands before the end of the block
      have hno : ∀ {qs : List (ℕ × List α)},
          (∀ q ∈ qs, start+region.length+delimiter.length ≤ q.1) → ¬∃ q ∈ qs, Covers q i := by
        rintro qs hqs ⟨q, hq, hc⟩
        have h := hqs q hq
        have h' := hc.1
        omega
      have hr : ¬∃ q ∈ regionsAt (start+region.length+delimiter.length) blocks last, Covers q i :=
        hno regionsAt_start
      have hd : ¬∃ q ∈ delimitersAt (start+region.length+delimiter.length) blocks, Covers q i :=
        hno delimitersAt_start
      constructor
      · rintro (hi | hi)
        · rintro (⟨hi', _⟩ | hi')
          · omega
          · exact hd hi'
        · exact absurd hi hr
      · intro hn
        by_contra hi
        exact hn (.inl ⟨by omega, hbefore⟩)
    · rw [or_iff_right (fun hi => by omega), or_iff_right (fun hi => by omega)]
      exact ih _ (by omega) (by omega)

end

end CacheBlend.DelimiterScans
