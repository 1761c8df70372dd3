import CacheBlend.SelectedRows

/-!
# The complement of row ranges

The rows outside accepted ranges come back as the fewest ranges that hold them:
sorted, not empty, with a gap between any two. Such ranges are determined by
their rows, so the complement of the complement joins the adjacent ranges of
the input and changes nothing else. Both sets together hold every row once, and
no plan fails because its layers do not cover the prompt.
-/

set_option autoImplicit false

namespace CacheBlend.RowComplements
open CacheBlend.PlannerModels CacheBlend.HybridLayout CacheBlend.ScatterSpans
open CacheBlend.SelectiveRows CacheBlend.SelectiveCoverage CacheBlend.SelectionPolicy
open CacheBlend.SelectedRows

/-! ## Ranges with gaps -/

theorem separated_unique {ranges ranges' : List TokenRange} (hs : Separated ranges)
    (hs' : Separated ranges') (hn : ∀ r ∈ ranges, r.size ≠ 0) (hn' : ∀ r ∈ ranges', r.size ≠ 0)
    (hh : ∀ row, (∃ r ∈ ranges, Holds r row) ↔ ∃ r ∈ ranges', Holds r row) :
    ranges = ranges' := by
  -- the first row of a nonempty range is held by it
  have hfirst : ∀ r : TokenRange, r.size ≠ 0 → Holds r r.start := by
    intro r hr
    unfold TokenRange.size at hr
    exact ⟨le_refl _, by omega⟩
  induction ranges generalizing ranges' with
  | nil =>
    cases ranges' with
    | nil => rfl
    | cons r' rest' =>
      obtain ⟨r, hr, _⟩ := (hh r'.start).mpr ⟨r', List.mem_cons_self,
        hfirst r' (hn' r' List.mem_cons_self)⟩
      cases hr
  | cons r rest ih =>
    cases ranges' with
    | nil =>
      obtain ⟨r', hr', _⟩ := (hh r.start).mp ⟨r, List.mem_cons_self,
        hfirst r (hn r List.mem_cons_self)⟩
      cases hr'
    | cons r' rest' =>
      obtain ⟨hr, hrest⟩ := List.pairwise_cons.mp hs
      obtain ⟨hr', hrest'⟩ := List.pairwise_cons.mp hs'
      have ho := r.ordered
      have ho' := r'.ordered
      have hstart : r'.start ≤ r.start := by
        obtain ⟨x, hx, hle, _⟩ := (hh r.start).mp ⟨r, List.mem_cons_self,
          hfirst r (hn r List.mem_cons_self)⟩
        obtain rfl | hx := List.mem_cons.mp hx
        · exact hle
        · have hx := hr' x hx
          omega
      have hstart' : r.start ≤ r'.start := by
        obtain ⟨x, hx, hle, _⟩ := (hh r'.start).mpr ⟨r', List.mem_cons_self,
          hfirst r' (hn' r' List.mem_cons_self)⟩
        obtain rfl | hx := List.mem_cons.mp hx
        · exact hle
        · have hx := hr x hx
          omega
      have hstop : r'.stop ≤ r.stop := by
        by_contra hlt
        obtain ⟨x, hx, hle, hx'⟩ := (hh r.stop).mpr ⟨r', List.mem_cons_self,
          ⟨by omega, by omega⟩⟩
        obtain rfl | hx := List.mem_cons.mp hx
        · omega
        · have hx := hr x hx
          omega
      have hstop' : r.stop ≤ r'.stop := by
        by_contra hlt
        obtain ⟨x, hx, hle, hx'⟩ := (hh r'.stop).mp ⟨r, List.mem_cons_self,
          ⟨by omega, by omega⟩⟩
        obtain rfl | hx := List.mem_cons.mp hx
        · omega
        · have hx := hr' x hx
          omega
      obtain rfl : r = r' := (TokenRange.ext_iff' r r').mpr ⟨by omega, by omega⟩
      -- the rows of the rest are the rows after the first range
      have htail : ∀ row, (∃ x ∈ rest, Holds x row) ↔ ∃ x ∈ rest', Holds x row := by
        intro row
        constructor
        · rintro ⟨x, hx, hh'⟩
          obtain ⟨y, hy, hy'⟩ := (hh row).mp ⟨x, List.mem_cons_of_mem _ hx, hh'⟩
          obtain rfl | hy := List.mem_cons.mp hy
          · have hx := hr x hx
            unfold Holds at hh' hy'
            omega
          · exact ⟨y, hy, hy'⟩
        · rintro ⟨x, hx, hh'⟩
          obtain ⟨y, hy, hy'⟩ := (hh row).mpr ⟨x, List.mem_cons_of_mem _ hx, hh'⟩
          obtain rfl | hy := List.mem_cons.mp hy
          · have hx := hr' x hx
            unfold Holds at hh' hy'
            omega
          · exact ⟨y, hy, hy'⟩
      rw [ih hrest hrest' (fun x hx => hn x (List.mem_cons_of_mem _ hx))
        (fun x hx => hn' x (List.mem_cons_of_mem _ hx)) htail]

theorem complementFrom_separated {promptTokens : ℕ} (ranges : List TokenRange) (cursor : ℕ)
    (ha : Ascending ranges) (hn : ∀ r ∈ ranges, r.size ≠ 0) (hc : ∀ r ∈ ranges, cursor ≤ r.start) :
    Separated (complementFrom promptTokens cursor ranges) ∧
      ∀ x ∈ complementFrom promptTokens cursor ranges, cursor ≤ x.start := by
  induction ranges generalizing cursor with
  | nil =>
    unfold complementFrom
    split_ifs with h
    · exact ⟨List.pairwise_singleton _ _, by simp⟩
    · exact ⟨List.Pairwise.nil, by simp⟩
  | cons r rest ih =>
    obtain ⟨hr, hrest⟩ := List.pairwise_cons.mp ha
    have hsize := hn r List.mem_cons_self
    have hstart := hc r List.mem_cons_self
    unfold TokenRange.size at hsize
    obtain ⟨hsep, hafter⟩ := ih r.stop hrest (fun x hx => hn x (List.mem_cons_of_mem _ hx)) hr
    unfold complementFrom
    split_ifs with h
    · constructor
      · apply List.pairwise_cons.mpr
        refine ⟨fun x hx => ?_, hsep⟩
        have hx := hafter x hx
        dsimp only
        omega
      · intro x hx
        obtain rfl | hx := List.mem_cons.mp hx
        · exact le_refl _
        · have hx := hafter x hx
          omega
    · refine ⟨hsep, fun x hx => ?_⟩
      have hx := hafter x hx
      omega

/-! ## Joining adjacent ranges -/

/-- `last` joined with the ranges after it as long as they touch. -/
def joinFrom (last : TokenRange) : List TokenRange → List TokenRange
  | [] => [last]
  | r::rest =>
    if h : last.stop = r.start then
      joinFrom ⟨last.start, r.stop, last.ordered.trans (h.trans_le r.ordered)⟩ rest
    else last :: joinFrom r rest

def joinAdjacent : List TokenRange → List TokenRange
  | [] => []
  | r::rest => joinFrom r rest

theorem joinFrom_spec (last : TokenRange) (rest : List TokenRange) (ha : Ascending (last::rest))
    (hn : ∀ r ∈ last::rest, r.size ≠ 0) :
    Separated (joinFrom last rest) ∧ (∀ r ∈ joinFrom last rest, r.size ≠ 0) ∧
      (∀ r ∈ joinFrom last rest, last.start ≤ r.start) ∧
      ∀ row, (∃ r ∈ joinFrom last rest, Holds r row) ↔ ∃ r ∈ last::rest, Holds r row := by
  induction rest generalizing last with
  | nil =>
    refine ⟨List.pairwise_singleton _ _, hn, ?_, fun row => Iff.rfl⟩
    intro r hr
    obtain rfl := List.mem_singleton.mp hr
    exact le_refl _
  | cons r rest ih =>
    obtain ⟨hlast, hrest⟩ := List.pairwise_cons.mp ha
    obtain ⟨hr, hlater⟩ := List.pairwise_cons.mp hrest
    have hsize := hn last List.mem_cons_self
    have hsize' := hn r (by simp)
    have hstart := hlast r List.mem_cons_self
    unfold TokenRange.size at hsize hsize'
    unfold joinFrom
    split_ifs with h
    · obtain ⟨hsep, hnonempty, hfrom, hholds⟩ := ih
        ⟨last.start, r.stop, last.ordered.trans (h.trans_le r.ordered)⟩
        (List.pairwise_cons.mpr ⟨hr, hlater⟩) (by
          intro x hx
          obtain rfl | hx := List.mem_cons.mp hx
          · unfold TokenRange.size
            dsimp only
            omega
          · exact hn x (by simp [hx]))
      refine ⟨hsep, hnonempty, hfrom, fun row => ?_⟩
      rw [hholds row, List.exists_mem_cons_iff, List.exists_mem_cons_iff,
        List.exists_mem_cons_iff, ← or_assoc]
      refine or_congr_left ?_
      unfold Holds
      dsimp only
      omega
    · obtain ⟨hsep, hnonempty, hfrom, hholds⟩ := ih r hrest
        (fun x hx => hn x (List.mem_cons_of_mem _ hx))
      refine ⟨List.pairwise_cons.mpr ⟨fun x hx => ?_, hsep⟩, ?_, ?_, fun row => ?_⟩
      · have hx := hfrom x hx
        omega
      · intro x hx
        obtain rfl | hx := List.mem_cons.mp hx
        · exact hn x List.mem_cons_self
        · exact hnonempty x hx
      · intro x hx
        obtain rfl | hx := List.mem_cons.mp hx
        · exact le_refl _
        · have hx := hfrom x hx
          omega
      · rw [List.exists_mem_cons_iff, hholds row]
        exact (List.exists_mem_cons_iff (fun x => Holds x row) last (r::rest)).symm

/-! ## The complement -/

/-- `rest` is the complement of `ranges` among the first `promptTokens` rows. -/
structure Complementary (promptTokens : ℕ) (ranges rest : List TokenRange) : Prop where
  nonempty : ∀ r ∈ rest, r.size ≠ 0
  separated : Separated rest
  bounded : ∀ r ∈ rest, r.stop ≤ promptTokens
  once : ∀ row < promptTokens, (ranges ++ rest).countP (fun r => Holds r row) = 1
  maximal : ∀ r ∈ rest, ∀ wider : TokenRange, (∀ row, Holds r row → Holds wider row) →
    (∀ row, Holds wider row → row < promptTokens ∧ ∀ x ∈ ranges, ¬Holds x row) → wider = r

section
variable {promptTokens : ℕ} {ranges : List TokenRange}

theorem mem_complement (h : Normalized promptTokens ranges) (row : ℕ) :
    (∃ r ∈ complement promptTokens ranges, Holds r row) ↔
      row < promptTokens ∧ ∀ r ∈ ranges, ¬Holds r row := by
  unfold complement
  rw [mem_complementFrom ranges 0 h.ascending h.bounded fun _ _ => Nat.zero_le _]
  exact and_iff_right (Nat.zero_le row)

theorem complement_separated (h : Normalized promptTokens ranges) :
    Separated (complement promptTokens ranges) :=
  (complementFrom_separated ranges 0 h.ascending h.nonempty fun _ _ => Nat.zero_le _).1

theorem complement_bounded (h : Normalized promptTokens ranges) :
    ∀ r ∈ complement promptTokens ranges, r.stop ≤ promptTokens := by
  intro r hr
  have hsize := complement_nonempty promptTokens ranges r hr
  unfold TokenRange.size at hsize
  have hlast := ((mem_complement h (r.stop-1)).mp ⟨r, hr, by omega, by omega⟩).1
  omega

theorem complement_normalized (h : Normalized promptTokens ranges) :
    Normalized promptTokens (complement promptTokens ranges) :=
  normalized_of_separated (complement_separated h) (complement_nonempty promptTokens ranges)
    (complement_bounded h)

theorem complement_once (h : Normalized promptTokens ranges) {row : ℕ} (hrow : row < promptTokens) :
    (ranges ++ complement promptTokens ranges).countP (fun r => Holds r row) = 1 := by
  rw [List.countP_append, ascending_countP ranges h.ascending,
    ascending_countP _ (complement_normalized h).ascending]
  have hmem := mem_complement h row
  by_cases hheld : ∃ r ∈ ranges, Holds r row
  · have hno : ¬∃ r ∈ complement promptTokens ranges, Holds r row := by
      intro hc
      obtain ⟨r, hr, hh⟩ := hheld
      exact (hmem.mp hc).2 r hr hh
    rw [if_pos hheld, if_neg hno]
  · have hyes : ∃ r ∈ complement promptTokens ranges, Holds r row :=
      hmem.mpr ⟨hrow, fun r hr hh => hheld ⟨r, hr, hh⟩⟩
    rw [if_neg hheld, if_pos hyes]

theorem separated_apart {rest : List TokenRange} (hs : Separated rest) {r x : TokenRange}
    (hr : r ∈ rest) (hx : x ∈ rest) : x = r ∨ x.stop < r.start ∨ r.stop < x.start := by
  induction rest with
  | nil => cases hr
  | cons y rest ih =>
    obtain ⟨hy, hs⟩ := List.pairwise_cons.mp hs
    rcases List.mem_cons.mp hr with rfl | hr'
    · rcases List.mem_cons.mp hx with rfl | hx'
      · exact Or.inl rfl
      · exact Or.inr (Or.inr (hy x hx'))
    · rcases List.mem_cons.mp hx with rfl | hx'
      · exact Or.inr (Or.inl (hy r hr'))
      · exact ih hs hr' hx'

/-- Of ranges with gaps, only `r` holds a row next to `r`. -/
theorem separated_near {rest : List TokenRange} (hs : Separated rest) {r x : TokenRange}
    (hr : r ∈ rest) (hx : x ∈ rest) {row : ℕ} (hh : Holds x row) (hl : r.start ≤ row+1)
    (hu : row ≤ r.stop) : x = r := by
  unfold Holds at hh
  rcases separated_apart hs hr hx with hsame | hbefore | hafter
  · exact hsame
  · omega
  · omega

theorem complement_maximal (h : Normalized promptTokens ranges) {r wider : TokenRange}
    (hr : r ∈ complement promptTokens ranges) (hsub : ∀ row, Holds r row → Holds wider row)
    (hfree : ∀ row, Holds wider row → row < promptTokens ∧ ∀ x ∈ ranges, ¬Holds x row) :
    wider = r := by
  have hsize := complement_nonempty promptTokens ranges r hr
  unfold TokenRange.size at hsize
  have hfirst := hsub r.start ⟨le_refl _, by omega⟩
  have hlast := hsub (r.stop-1) ⟨by omega, by omega⟩
  unfold Holds at hfirst hlast
  -- a row of the wider range next to `r` would lie in another range
  have hnear : ∀ row, Holds wider row → r.start ≤ row+1 → row ≤ r.stop → Holds r row := by
    intro row hw hl hu
    obtain ⟨x, hx, hh⟩ := (mem_complement h row).mpr (hfree row hw)
    rwa [separated_near (complement_separated h) hr hx hh hl hu] at hh
  have hstart : wider.start = r.start := by
    by_contra hne
    have hbefore := hnear (r.start-1) ⟨by omega, by omega⟩ (by omega) (by omega)
    unfold Holds at hbefore
    omega
  have hstop : wider.stop = r.stop := by
    by_contra hne
    have hafter := hnear r.stop ⟨by omega, by omega⟩ (by omega) (le_refl _)
    unfold Holds at hafter
    omega
  exact (TokenRange.ext_iff' wider r).mpr ⟨hstart, hstop⟩

theorem complement_complementary (h : Normalized promptTokens ranges) :
    Complementary promptTokens ranges (complement promptTokens ranges) where
  nonempty := complement_nonempty promptTokens ranges
  separated := complement_separated h
  bounded := complement_bounded h
  once := fun _ hrow => complement_once h hrow
  maximal := fun _ hr _ hsub hfree => complement_maximal h hr hsub hfree

theorem complement_twice (h : Normalized promptTokens ranges) :
    complement promptTokens (complement promptTokens ranges) = joinAdjacent ranges := by
  have hc := complement_normalized h
  have hrows : ∀ row, (∃ r ∈ complement promptTokens (complement promptTokens ranges),
      Holds r row) ↔ ∃ r ∈ ranges, Holds r row := by
    intro row
    rw [mem_complement hc]
    constructor
    · rintro ⟨hrow, hno⟩
      by_contra hn
      obtain ⟨r, hr, hh⟩ := (mem_complement h row).mpr
        ⟨hrow, fun x hx hh => hn ⟨x, hx, hh⟩⟩
      exact hno r hr hh
    · rintro ⟨r, hr, hh⟩
      refine ⟨hh.2.trans_le (h.bounded r hr), fun x hx hx' => ?_⟩
      exact ((mem_complement h row).mp ⟨x, hx, hx'⟩).2 r hr hh
  cases ranges with
  | nil =>
    apply separated_unique (complement_separated hc) List.Pairwise.nil
      (complement_nonempty _ _) (by simp)
    exact hrows
  | cons r rest =>
    obtain ⟨hsep, hnonempty, _, hholds⟩ := joinFrom_spec r rest h.ascending h.nonempty
    apply separated_unique (complement_separated hc) hsep (complement_nonempty _ _) hnonempty
    intro row
    rw [hrows row]
    exact (hholds row).symm

end

/-! ## Plans -/

theorem plan_returns_iff (promptTokens : ℕ) (layers : List LayerRowSelection) :
    (∃ plan, ForwardRowPlan.new promptTokens layers = .ok plan) ↔
      promptTokens ≤ gptOssMaxContextTokens ∧
        layers.map LayerRowSelection.layerIndex = List.range gptOssNumLayers ∧
        ∀ layer ∈ layers, layer.promptTokens = promptTokens := by
  have hvalid : (∃ plan, ForwardRowPlan.new promptTokens layers = .ok plan) ↔
      checkForwardRowPlan promptTokens layers = .ok () := by
    unfold ForwardRowPlan.new
    split
    · rename_i e he
      simp [he]
    · rename_i he
      simp [he]
  rw [hvalid]
  unfold checkForwardRowPlan SelectiveRows.validatePromptTokens
  rw [require_then_iff, require_then_iff, checkLayers_ok_iff, List.range_eq_range']
  constructor
  · rintro ⟨⟨_, hp⟩, hl, hi, hlayers⟩
    exact ⟨by exact_mod_cast hp, hl ▸ hi, hlayers⟩
  · rintro ⟨hp, hi, hlayers⟩
    have hl : layers.length = gptOssNumLayers := by
      have hlength := congrArg List.length hi
      rwa [List.length_map, List.length_range'] at hlength
    exact ⟨⟨Int.natCast_nonneg _, by exact_mod_cast hp⟩, hl, hl.symm ▸ hi, hlayers⟩

/-- Accepted ranges and their complement split the rows, each set the complement
of the other, and every layer of a plan covers the prompt. -/
theorem complement_splits (promptTokens : ℤ) (ranges ranges' : List TokenRange)
    (h : normalizeRanges promptTokens ranges = .ok ranges') :
    Complementary promptTokens.toNat ranges' (complement promptTokens.toNat ranges') ∧
    complement promptTokens.toNat (complement promptTokens.toNat ranges') =
      joinAdjacent ranges' ∧
    (∀ selection : LayerRowSelection, selection.CoversPrompt) ∧
    (∀ (prompt : ℕ) (layers : List LayerRowSelection),
      (∃ plan, ForwardRowPlan.new prompt layers = .ok plan) ↔
        prompt ≤ gptOssMaxContextTokens ∧
          layers.map LayerRowSelection.layerIndex = List.range gptOssNumLayers ∧
          ∀ layer ∈ layers, layer.promptTokens = prompt) := by
  have hp : 0 ≤ promptTokens := by
    unfold normalizeRanges SelectiveRows.validatePromptTokens at h
    exact ((require_then_iff _ _ _ _).mp h).1.1
  obtain ⟨prompt, rfl⟩ := Int.eq_ofNat_of_zero_le hp
  obtain ⟨_, hn, rfl⟩ := (normalizeRanges_ok_iff prompt ranges ranges').mp h
  exact ⟨complement_complementary hn, complement_twice hn, fun s => s.coversPrompt,
    plan_returns_iff⟩

def edgeRanges : List TokenRange := [⟨0, 2, by decide⟩, ⟨2, 3, by decide⟩, ⟨5, 6, by decide⟩]

theorem complement_splits_edges :
    normalizeRanges 6 edgeRanges = .ok edgeRanges ∧
    complement 6 edgeRanges = [⟨3, 5, by decide⟩] ∧
    Complementary 6 edgeRanges (complement 6 edgeRanges) ∧
    complement 6 (complement 6 edgeRanges) = [⟨0, 3, by decide⟩, ⟨5, 6, by decide⟩] := by
  have haccepted : normalizeRanges 6 edgeRanges = .ok edgeRanges := by decide
  have h := complement_splits 6 edgeRanges edgeRanges haccepted
  exact ⟨haccepted, by decide, h.1, h.2.1⟩

end CacheBlend.RowComplements
