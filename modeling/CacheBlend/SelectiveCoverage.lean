import CacheBlend.SelectiveWrites

/-!
# Coverage of the selective writes

The planner intersects two partitions of the prompt, the blocks of the spans
and the recomputed ranges. A piece keeps the source position and the slot of
each of its positions, stays in the block of its span, and the pieces of a
layer hold its recomputed rows once each. So the pieces count the recomputed
rows of all layers.
-/

set_option autoImplicit false

namespace CacheBlend.SelectiveCoverage
open CacheBlend.PlannerModels CacheBlend.HybridLayout CacheBlend.ScatterSpans
open CacheBlend.SelectiveRows CacheBlend.SelectiveWrites

def sourceOf (s : LayerTokenScatterSpan) (position : ℕ) : ℤ :=
  s.sourceRange.start+((position : ℤ)-s.targetRange.start)

def slotOf (s : LayerTokenScatterSpan) (position : ℕ) : ℤ :=
  s.physicalSlotStart+((position : ℤ)-s.targetRange.start)

/-- The slots of a span are slots of its one block. -/
structure InBlock (s : LayerTokenScatterSpan) : Prop where
  offset : 0 ≤ s.groupSpan.blockOffset
  fits : s.groupSpan.blockOffset+s.tokenCount ≤ s.groupSpan.blockSize
  slot : s.physicalSlotStart =
    s.groupSpan.blockId*s.groupSpan.blockSize+s.groupSpan.blockOffset

/-- A piece is a part of a span: of its layer, its block and its targets, with
the same source position and slot for each target position. -/
structure PieceOf (span piece : LayerTokenScatterSpan) : Prop where
  layer : piece.layerName = span.layerName ∧ piece.layerIndex = span.layerIndex
  group : piece.groupSpan.groupId = span.groupSpan.groupId ∧
    piece.attentionKind = span.attentionKind
  block : piece.groupSpan.logicalBlockIndex = span.groupSpan.logicalBlockIndex ∧
    piece.groupSpan.blockId = span.groupSpan.blockId ∧
    piece.groupSpan.blockSize = span.groupSpan.blockSize
  paired : piece.sourceRange.size = piece.tokenCount
  within : ∀ position, Holds piece.targetRange position → Holds span.targetRange position
  source : ∀ position, Holds piece.targetRange position →
    sourceOf piece position = sourceOf span position
  slot : ∀ position, Holds piece.targetRange position → slotOf piece position = slotOf span position

theorem clipSpan_pieceOf {span piece : LayerTokenScatterSpan} {r : TokenRange}
    (h : clipSpan span r = some piece) : PieceOf span piece := by
  unfold clipSpan at h
  split_ifs at h with hc
  cases h
  have hl : span.targetRange.start ≤ clipStart span r := Nat.le_max_left _ _
  have hr : clipStop span r ≤ span.targetRange.stop := Nat.min_le_left _ _
  refine ⟨⟨rfl, rfl⟩, ⟨rfl, rfl⟩, ⟨rfl, rfl, rfl⟩, ?_, fun position hp => ?_,
    fun position _ => ?_, fun position _ => ?_⟩
  · exact Nat.add_sub_cancel_left _ _
  · exact ⟨hl.trans hp.1, lt_of_lt_of_le hp.2 hr⟩
  · show ((span.sourceRange.start+(clipStart span r-span.targetRange.start) : ℕ) : ℤ)+
      (position-(clipStart span r : ℕ)) = span.sourceRange.start+(position-span.targetRange.start)
    omega
  · show span.physicalSlotStart+((clipStart span r-span.targetRange.start : ℕ) : ℤ)+
      (position-(clipStart span r : ℕ)) = span.physicalSlotStart+(position-span.targetRange.start)
    omega

theorem clipSpan_inBlock {span piece : LayerTokenScatterSpan} {r : TokenRange}
    (h : clipSpan span r = some piece) (hb : InBlock span) : InBlock piece := by
  have hoffset := hb.offset
  have hfits := hb.fits
  have hslot := hb.slot
  unfold LayerTokenScatterSpan.tokenCount TokenRange.size at hfits
  unfold clipSpan at h
  split_ifs at h with hc
  cases h
  have hl : span.targetRange.start ≤ clipStart span r := Nat.le_max_left _ _
  have hr : clipStop span r ≤ span.targetRange.stop := Nat.min_le_left _ _
  refine ⟨?_, ?_, ?_⟩
  · show 0 ≤ span.groupSpan.blockOffset+((clipStart span r-span.targetRange.start : ℕ) : ℤ)
    omega
  · show span.groupSpan.blockOffset+((clipStart span r-span.targetRange.start : ℕ) : ℤ)+
      ((clipStop span r-clipStart span r : ℕ) : ℤ) ≤ span.groupSpan.blockSize
    omega
  · show span.physicalSlotStart+((clipStart span r-span.targetRange.start : ℕ) : ℤ) =
      span.groupSpan.blockId*span.groupSpan.blockSize+
        (span.groupSpan.blockOffset+((clipStart span r-span.targetRange.start : ℕ) : ℤ))
    omega

theorem validateGroupSpan_inBlock {promptTokens : ℕ} {span : LayerTokenScatterSpan}
    (h : validateGroupSpan promptTokens span = .ok ()) : InBlock span := by
  obtain ⟨_, h⟩ := (require_then_iff _ _ _ _).mp h
  obtain ⟨_, h⟩ := (require_then_iff _ _ _ _).mp h
  obtain ⟨_, h⟩ := (require_then_iff _ _ _ _).mp h
  obtain ⟨_, _, hoffset, _, hfits, hslot⟩ := (require_ok_iff _ _ _).mp h
  exact ⟨hoffset, hfits, hslot⟩

theorem plan_inBlock {spans : List LayerTokenScatterSpan} {rowPlan : ForwardRowPlan}
    {p : SelectiveWritePlan} (h : planSelectiveKvWrites spans rowPlan = .ok p) :
    ∀ span ∈ spans, InBlock span := by
  obtain ⟨_, h⟩ := (require_then_iff _ _ _ _).mp h
  obtain ⟨_, hvalid, _⟩ := (checked_ok_iff _ _ _).mp h
  exact fun span hs => validateGroupSpan_inBlock ((forM_returns_iff _ _).mp hvalid span hs)

/-! ## Counting ascending ranges -/

theorem ascending_countP (ranges : List TokenRange) (h : Ascending ranges) (position : ℕ) :
    ranges.countP (fun r => Holds r position) =
      if ∃ r ∈ ranges, Holds r position then 1 else 0 := by
  induction ranges with
  | nil => simp
  | cons r rest ih =>
    obtain ⟨hr, hrest⟩ := List.pairwise_cons.mp h
    rw [List.countP_cons, ih hrest]
    by_cases hh : Holds r position
    · have hlater : ¬∃ x ∈ rest, Holds x position := by
        rintro ⟨x, hx, hhx⟩
        exact absurd (lt_of_lt_of_le hh.2 ((hr x hx).trans hhx.1)) (lt_irrefl _)
      rw [if_neg hlater, if_pos (decide_eq_true hh),
        if_pos ⟨r, List.mem_cons_self, hh⟩]
    · simp only [List.exists_mem_cons_iff, hh, false_or, decide_false, Bool.false_eq_true,
        if_false, add_zero]

def positions (ranges : List TokenRange) : List ℕ :=
  ranges.flatMap (fun r => List.range' r.start r.size)

theorem positions_length (ranges : List TokenRange) :
    (positions ranges).length = rangeTokenCount ranges := by
  simp [positions, rangeTokenCount, List.length_flatMap]

theorem mem_positions (ranges : List TokenRange) (position : ℕ) :
    position ∈ positions ranges ↔ ∃ r ∈ ranges, Holds r position := by
  unfold positions Holds TokenRange.size
  rw [List.mem_flatMap]
  refine exists_congr fun r => and_congr_right fun _ => ?_
  have hordered := r.ordered
  rw [List.mem_range'_1]
  omega

theorem positions_nodup {ranges : List TokenRange} (h : Ascending ranges) :
    (positions ranges).Nodup := by
  unfold positions
  rw [List.nodup_flatMap]
  refine ⟨fun r _ => List.nodup_range', h.imp fun {r r'} hr => ?_⟩
  intro position hp hp'
  have hordered := r.ordered
  rw [List.mem_range'_1] at hp hp'
  unfold TokenRange.size at hp
  omega

theorem rangeTokenCount_congr {ranges ranges' : List TokenRange} (h : Ascending ranges)
    (h' : Ascending ranges')
    (hh : ∀ position, (∃ r ∈ ranges, Holds r position) ↔ ∃ r ∈ ranges', Holds r position) :
    rangeTokenCount ranges = rangeTokenCount ranges' := by
  have hperm := (List.perm_ext_iff_of_nodup (positions_nodup h) (positions_nodup h')).mpr
    (fun position => by rw [mem_positions, mem_positions, hh])
  rw [← positions_length, ← positions_length, hperm.length_eq]

/-! ## The pieces of a layer -/

section
variable {spans : List LayerTokenScatterSpan} {selection : LayerRowSelection}

def pieces (spans : List LayerTokenScatterSpan) (selection : LayerRowSelection) :
    List LayerTokenScatterSpan :=
  (orderedSpans spans selection).flatMap (splitSpan · selection)

theorem pieces_ascending (h : Tiles selection.promptTokens 0 (orderedSpans spans selection)) :
    Ascending ((pieces spans selection).map LayerTokenScatterSpan.targetRange) :=
  splitSpan_ascending _ _ h.ascending

theorem pieces_hold (h : Tiles selection.promptTokens 0 (orderedSpans spans selection))
    (position : ℕ) :
    (∃ r ∈ (pieces spans selection).map LayerTokenScatterSpan.targetRange, Holds r position) ↔
      selection.Recomputed position := by
  have hrow : ∀ list : List LayerTokenScatterSpan,
      (∃ r ∈ list.map LayerTokenScatterSpan.targetRange, Holds r position) ↔
        ∃ slot, (position, slot) ∈ list.flatMap rows := by
    intro list
    constructor
    · rintro ⟨r, hr, hh⟩
      obtain ⟨span, hs, rfl⟩ := List.mem_map.mp hr
      exact ⟨_, List.mem_flatMap.mpr ⟨span, hs, (mem_rows span position _).mpr ⟨hh, rfl⟩⟩⟩
    · rintro ⟨slot, hm⟩
      obtain ⟨span, hs, hm⟩ := List.mem_flatMap.mp hm
      exact ⟨_, List.mem_map_of_mem hs, ((mem_rows span position slot).mp hm).1⟩
  rw [hrow, pieces, List.flatMap_assoc]
  constructor
  · rintro ⟨slot, hm⟩
    obtain ⟨span, _, hm⟩ := List.mem_flatMap.mp hm
    exact ((mem_splitSpan_rows span selection _).mp hm).2
  · intro hrec
    obtain ⟨r, hr, hh⟩ := id hrec
    have hlt := lt_of_lt_of_le hh.2 (selection.normalized.bounded r hr)
    obtain ⟨span, hs, hh⟩ := (h.covers position).mpr ⟨Nat.zero_le _, hlt⟩
    refine ⟨_, List.mem_flatMap.mpr ⟨span, hs, (mem_splitSpan_rows span selection _).mpr
      ⟨(mem_rows span position _).mpr ⟨hh, rfl⟩, hrec⟩⟩⟩

theorem pieces_count (h : Tiles selection.promptTokens 0 (orderedSpans spans selection)) :
    ((pieces spans selection).map LayerTokenScatterSpan.tokenCount).sum =
      selection.recomputeTokens := by
  have hcount := rangeTokenCount_congr (pieces_ascending h) selection.normalized.ascending
    (pieces_hold h)
  rw [rangeTokenCount, List.map_map] at hcount
  exact hcount

end

/-! ## The whole plan -/

/-- In a plan that the planner accepts, the output spans of a layer hold each
of its recomputed positions once and no other position. Every output span is
a piece of an input span and stays in one block. The output spans of all
layers count the recomputed tokens of the row plan. -/
theorem writes_cover_recomputed (spans : List LayerTokenScatterSpan) (rowPlan : ForwardRowPlan)
    (p : SelectiveWritePlan) (h : planSelectiveKvWrites spans rowPlan = .ok p) :
    (∀ selection ∈ rowPlan.layers, ∀ position,
      (p.spansForLayer selection.layerIndex).countP (fun s => Holds s.targetRange position) =
        if selection.Recomputed position then 1 else 0) ∧
    (∀ piece ∈ p.recomputeLayerSpans, ∃ span ∈ spans, PieceOf span piece ∧ InBlock piece ∧
      ∃ selection ∈ rowPlan.layers, piece.layerIndex = selection.layerIndex) ∧
    (p.recomputeLayerSpans.map LayerTokenScatterSpan.tokenCount).sum = rowPlan.recomputeTokens := by
  have ha := plan_accepted h
  refine ⟨fun selection hs position => ?_, fun piece hp => ?_, ?_⟩
  · have hcount := ascending_countP _ (pieces_ascending (ha.tiles selection hs)) position
    rw [List.countP_map] at hcount
    rw [spansForLayer_eq ha hs]
    simp only [pieces_hold (ha.tiles selection hs)] at hcount
    exact hcount
  · rw [ha.recompute] at hp
    obtain ⟨selection, hs, hp⟩ := List.mem_flatMap.mp hp
    obtain ⟨span, hspan, hp⟩ := List.mem_flatMap.mp hp
    obtain ⟨r, _, hc⟩ := List.mem_filterMap.mp hp
    obtain ⟨hm, hi⟩ := (mem_orderedSpans _ _ _).mp hspan
    have hpiece := clipSpan_pieceOf hc
    exact ⟨span, hm, hpiece, clipSpan_inBlock hc (plan_inBlock h span hm), selection, hs,
      hpiece.layer.2.trans hi⟩
  · rw [ha.recompute, List.map_flatMap, List.flatMap_def, List.sum_flatten, List.map_map,
      ForwardRowPlan.recomputeTokens]
    refine congrArg List.sum (List.map_congr_left fun selection hs => ?_)
    exact pieces_count (ha.tiles selection hs)

def innerRows (layerIndex : Fin gptOssNumLayers) : LayerRowSelection where
  layerIndex := layerIndex
  promptTokens := 6
  recomputeRanges := [⟨1, 3, by decide⟩, ⟨3, 5, by decide⟩]
  index_bounded := layerIndex.isLt
  prompt_bounded := by decide
  normalized := ⟨by decide, by decide, by decide, by simp [TokenRange.Overlaps]⟩

def innerPlan : ForwardRowPlan where
  promptTokens := 6
  layers := (List.finRange gptOssNumLayers).map innerRows
  valid := by decide +kernel

/-- Rows of one block of four slots, read two positions further on. -/
def blockSpan (layerIndex : ℕ) (blockId : ℤ) (r : TokenRange) : LayerTokenScatterSpan where
  layerName := layerName layerIndex
  layerIndex := layerIndex
  groupSpan := {
    groupId := layerIndex%2
    attentionKind := expectedKind layerIndex
    sourceRange := ⟨r.start+2, r.stop+2, Nat.add_le_add_right r.ordered 2⟩
    targetRange := r
    logicalBlockIndex := r.start/4
    blockId := blockId
    blockSize := 4
    blockOffset := 0
    physicalSlotStart := blockId*4 }

def twoBlockSpans : List LayerTokenScatterSpan :=
  (List.range gptOssNumLayers).flatMap (fun i =>
    [blockSpan i 9 ⟨0, 4, by decide⟩, blockSpan i 2 ⟨4, 6, by decide⟩])

/-- The ranges and the blocks cut the rows of a layer in three. -/
theorem twoBlock_planned : ∃ p, planSelectiveKvWrites twoBlockSpans innerPlan = .ok p ∧
    (∀ selection ∈ innerPlan.layers, ∀ position,
      (p.spansForLayer selection.layerIndex).countP (fun s => Holds s.targetRange position) =
        if selection.Recomputed position then 1 else 0) ∧
    (p.recomputeLayerSpans.map LayerTokenScatterSpan.tokenCount).sum = 96 := by
  have hrun : (planSelectiveKvWrites twoBlockSpans innerPlan).toOption.isSome = true := by
    decide +kernel
  obtain ⟨p, hp⟩ := Option.isSome_iff_exists.mp hrun
  have hplan := toOption_some hp
  obtain ⟨hone, _, hsum⟩ := writes_cover_recomputed twoBlockSpans innerPlan p hplan
  exact ⟨p, hplan, hone, hsum.trans (by decide)⟩

end CacheBlend.SelectiveCoverage
