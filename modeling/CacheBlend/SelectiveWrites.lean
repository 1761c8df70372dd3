import CacheBlend.Dict
import CacheBlend.FirstOccurrences
import CacheBlend.SelectiveRows
import Mathlib.Data.List.Nodup
import Mathlib.Data.List.Perm.Subperm

/-!
# Selective writes

The planner splits the complete spans of every layer into the runs that
recomputed rows write. It checks each span on its own and that the targets of
a layer tile the prompt, but not that the spans of a layer use different
slots. The writes keep off the cached rows exactly when spans of a layer
share slots only for rows that stay cached.
-/

set_option autoImplicit false

namespace CacheBlend.SelectiveWrites
open CacheBlend.PlannerModels CacheBlend.HybridLayout CacheBlend.ScatterSpans
open CacheBlend.SelectiveRows

inductive SelectiveWriteErrorCode where
  | invalidPlan
  | emptySpans
  | layerSetMismatch
  | invalidLayer
  | invalidSpan
  | rangeOutOfBounds
  | rangeCoverageMismatch
  | overlappingSpans
  | invalidPhysicalSlot
  | attentionPatternMismatch
  | invalidSlotMapping
  | slotMappingLengthMismatch
  | slotMappingValueMismatch
  deriving DecidableEq

/-- `_validate_group_span`. -/
def validateGroupSpan (promptTokens : ℕ) (span : LayerTokenScatterSpan) :
    Except SelectiveWriteErrorCode Unit := do
  require (0 ≤ span.layerIndex ∧ span.layerIndex < gptOssNumLayers ∧
    span.layerName = layerName span.layerIndex) .invalidLayer
  require (span.attentionKind = expectedKind span.layerIndex) .attentionPatternMismatch
  require (span.sourceRange.size ≠ 0 ∧ span.targetRange.size ≠ 0 ∧
    span.sourceRange.size = span.targetRange.size ∧
    span.sourceRange.stop ≤ gptOssMaxContextTokens ∧ span.targetRange.stop ≤ promptTokens)
    .rangeOutOfBounds
  require (0 ≤ span.groupSpan.blockId ∧ 0 < span.groupSpan.blockSize ∧
    0 ≤ span.groupSpan.blockOffset ∧ span.groupSpan.blockOffset < span.groupSpan.blockSize ∧
    span.groupSpan.blockOffset+span.tokenCount ≤ span.groupSpan.blockSize ∧
    span.groupSpan.physicalSlotStart =
      span.groupSpan.blockId*span.groupSpan.blockSize+span.groupSpan.blockOffset)
    .invalidPhysicalSlot

def clipStart (span : LayerTokenScatterSpan) (r : TokenRange) : ℕ :=
  max span.targetRange.start r.start

def clipStop (span : LayerTokenScatterSpan) (r : TokenRange) : ℕ :=
  min span.targetRange.stop r.stop

def clipSpan (span : LayerTokenScatterSpan) (r : TokenRange) : Option LayerTokenScatterSpan :=
  if h : clipStart span r < clipStop span r then
    let offset := clipStart span r-span.targetRange.start
    let count := clipStop span r-clipStart span r
    some { span with groupSpan := { span.groupSpan with
      sourceRange := ⟨span.sourceRange.start+offset, span.sourceRange.start+offset+count,
        Nat.le_add_right _ _⟩
      targetRange := ⟨clipStart span r, clipStop span r, h.le⟩
      blockOffset := span.groupSpan.blockOffset+offset
      physicalSlotStart := span.groupSpan.physicalSlotStart+offset } }
  else none

/-- `_split_span`. -/
def splitSpan (span : LayerTokenScatterSpan) (selection : LayerRowSelection) :
    List LayerTokenScatterSpan :=
  selection.recomputeRanges.filterMap (clipSpan span)

/-- The loop of `_validate_layer_coverage` over the ordered spans. -/
def checkCoverage (promptTokens : ℕ) : ℕ → List LayerTokenScatterSpan →
    Except SelectiveWriteErrorCode Unit
  | cursor, [] => require (cursor = promptTokens) .rangeCoverageMismatch
  | cursor, span::rest => do
    require (span.targetRange.start = cursor) .rangeCoverageMismatch
    require (span.targetRange.start < span.targetRange.stop) .invalidSpan
    checkCoverage promptTokens span.targetRange.stop rest

def orderedSpans (spans : List LayerTokenScatterSpan) (selection : LayerRowSelection) :
    List LayerTokenScatterSpan :=
  sortedBy (fun span => span.targetRange.start)
    (spans.filter (fun span => span.layerIndex = selection.layerIndex))

/-- `_validate_layer_coverage` of the spans of one layer. -/
def validateLayerCoverage (spans : List LayerTokenScatterSpan) (selection : LayerRowSelection) :
    Except SelectiveWriteErrorCode (List LayerTokenScatterSpan) := do
  checkCoverage selection.promptTokens 0 (orderedSpans spans selection)
  .ok (orderedSpans spans selection)

structure SelectiveWritePlan where
  rowPlan : ForwardRowPlan
  fullLayerSpans : List LayerTokenScatterSpan
  recomputeLayerSpans : List LayerTokenScatterSpan

def SelectiveWritePlan.cachedTokens (p : SelectiveWritePlan) : ℕ := p.rowPlan.cachedTokens

def SelectiveWritePlan.recomputeTokens (p : SelectiveWritePlan) : ℕ := p.rowPlan.recomputeTokens

def SelectiveWritePlan.spansForLayer (p : SelectiveWritePlan) (layerIndex : ℕ) :
    List LayerTokenScatterSpan :=
  p.recomputeLayerSpans.filter (fun span => span.layerIndex = layerIndex)

/-- The loop of `plan_selective_kv_writes` over the layers. -/
def planLayers (spans : List LayerTokenScatterSpan) : List LayerRowSelection →
    Except SelectiveWriteErrorCode (List LayerTokenScatterSpan × List LayerTokenScatterSpan)
  | [] => .ok ([], [])
  | selection::rest => do
    let layerSpans ← validateLayerCoverage spans selection
    let (full, recompute) ← planLayers spans rest
    .ok (layerSpans ++ full, layerSpans.flatMap (splitSpan · selection) ++ recompute)

/-- `plan_selective_kv_writes`. -/
def planSelectiveKvWrites (spans : List LayerTokenScatterSpan) (rowPlan : ForwardRowPlan) :
    Except SelectiveWriteErrorCode SelectiveWritePlan := do
  require (spans ≠ []) .emptySpans
  spans.forM (validateGroupSpan rowPlan.promptTokens)
  require (∀ i ∈ List.range gptOssNumLayers, ∃ span ∈ spans, span.layerIndex = i)
    .layerSetMismatch
  let (full, recompute) ← planLayers spans rowPlan.layers
  .ok ⟨rowPlan, full, recompute⟩

/-! ## Rows and slots of a layer -/

def layerRows (p : SelectiveWritePlan) (layerIndex : ℕ) : List (ℕ × ℤ) :=
  (p.fullLayerSpans.filter (fun span => span.layerIndex = (layerIndex : ℤ))).flatMap rows

def writtenSlots (p : SelectiveWritePlan) (layerIndex : ℕ) : List ℤ :=
  ((p.spansForLayer layerIndex).flatMap rows).map Prod.snd

def cachedSlots (p : SelectiveWritePlan) (selection : LayerRowSelection) : List ℤ :=
  ((layerRows p selection.layerIndex).filter (fun row => selection.Cached row.1)).map Prod.snd

def expectedByPosition (p : SelectiveWritePlan) (layerIndex : ℕ) : Dict ℕ ℤ :=
  (layerRows p layerIndex).foldl (fun d row => d.set row.1 row.2) Dict.empty

/-- What `validate_slot_mapping` raises: an error of its own, or the error of
a position that no span maps. -/
inductive SlotMappingError where
  | code (c : SelectiveWriteErrorCode)
  | keyError
  deriving DecidableEq

def checkSlots (expected : Dict ℕ ℤ) : List (ℤ × ℕ) → Except SlotMappingError Unit
  | [] => .ok ()
  | (actual, position)::rest =>
    match expected.get? position with
    | none => .error .keyError
    | some slot => do
      require (actual = slot) (.code .slotMappingValueMismatch)
      checkSlots expected rest

/-- `validate_slot_mapping`. -/
def validateSlotMapping (p : SelectiveWritePlan) (layerIndex : ℕ) (slotMapping : List ℤ) :
    Except SlotMappingError (List ℤ) := do
  require (layerIndex < gptOssNumLayers) (.code .invalidLayer)
  require (slotMapping.length = p.rowPlan.promptTokens) (.code .slotMappingLengthMismatch)
  require (∀ slot ∈ slotMapping, 0 ≤ slot) (.code .slotMappingValueMismatch)
  require ((expectedByPosition p layerIndex).size = p.rowPlan.promptTokens)
    (.code .rangeCoverageMismatch)
  checkSlots (expectedByPosition p layerIndex) slotMapping.zipIdx
  .ok slotMapping

/-! ## What the planner accepts -/

structure SpanValid (promptTokens : ℕ) (span : LayerTokenScatterSpan) : Prop where
  layer : 0 ≤ span.layerIndex ∧ span.layerIndex < gptOssNumLayers
  nonempty : span.targetRange.size ≠ 0
  bounded : span.targetRange.stop ≤ promptTokens

theorem validateGroupSpan_ok {promptTokens : ℕ} {span : LayerTokenScatterSpan}
    (h : validateGroupSpan promptTokens span = .ok ()) : SpanValid promptTokens span := by
  obtain ⟨hlayer, h⟩ := (require_then_iff _ _ _ _).mp h
  obtain ⟨_, h⟩ := (require_then_iff _ _ _ _).mp h
  obtain ⟨hrange, _⟩ := (require_then_iff _ _ _ _).mp h
  exact ⟨⟨hlayer.1, hlayer.2.1⟩, hrange.2.1, hrange.2.2.2.2⟩

/-- Spans that tile the positions from a cursor to the end of the prompt. -/
structure Tiles (promptTokens cursor : ℕ) (spans : List LayerTokenScatterSpan) : Prop where
  ascending : Ascending (spans.map LayerTokenScatterSpan.targetRange)
  nonempty : ∀ span ∈ spans, span.targetRange.start < span.targetRange.stop
  covers : ∀ position, (∃ span ∈ spans, Holds span.targetRange position) ↔
    cursor ≤ position ∧ position < promptTokens
  reached : cursor ≤ promptTokens

theorem checkCoverage_tiles {promptTokens cursor : ℕ} {spans : List LayerTokenScatterSpan}
    (h : checkCoverage promptTokens cursor spans = .ok ()) : Tiles promptTokens cursor spans := by
  induction spans generalizing cursor with
  | nil =>
    have hc := (require_ok_iff _ _ _).mp h
    subst hc
    refine ⟨.nil, fun _ hs => absurd hs List.not_mem_nil, fun position => ?_, le_refl _⟩
    constructor
    · rintro ⟨_, hs, _⟩
      exact absurd hs List.not_mem_nil
    · omega
  | cons span rest ih =>
    obtain ⟨hstart, h⟩ := (require_then_iff _ _ _ _).mp h
    obtain ⟨hne, h⟩ := (require_then_iff _ _ _ _).mp h
    have hrest := ih h
    have hreached := hrest.reached
    refine ⟨List.pairwise_cons.mpr ⟨fun r hr => ?_, hrest.ascending⟩,
      List.forall_mem_cons.mpr ⟨hne, hrest.nonempty⟩, fun position => ?_, by omega⟩
    · obtain ⟨next, hn, rfl⟩ := List.mem_map.mp hr
      exact ((hrest.covers _).mp ⟨next, hn, le_refl _, hrest.nonempty next hn⟩).1
    · rw [List.exists_mem_cons_iff, hrest.covers]
      unfold Holds
      omega

theorem planLayers_ok {spans : List LayerTokenScatterSpan} (selections : List LayerRowSelection)
    {full recompute : List LayerTokenScatterSpan}
    (h : planLayers spans selections = .ok (full, recompute)) :
    (∀ selection ∈ selections,
      Tiles selection.promptTokens 0 (orderedSpans spans selection)) ∧
    full = selections.flatMap (orderedSpans spans) ∧
    recompute = selections.flatMap
      (fun selection => (orderedSpans spans selection).flatMap (splitSpan · selection)) := by
  induction selections generalizing full recompute with
  | nil =>
    cases h
    exact ⟨fun _ hs => absurd hs List.not_mem_nil, rfl, rfl⟩
  | cons selection rest ih =>
    obtain ⟨layerSpans, hl, h⟩ := (checked_ok_iff _ _ _).mp h
    obtain ⟨⟨restFull, restRecompute⟩, hr, h⟩ := (checked_ok_iff _ _ _).mp h
    obtain ⟨_, hcover, hl⟩ := (checked_ok_iff _ _ _).mp hl
    cases hl
    cases h
    obtain ⟨htiles, rfl, rfl⟩ := ih hr
    exact ⟨List.forall_mem_cons.mpr ⟨checkCoverage_tiles hcover, htiles⟩, rfl, rfl⟩

/-- An accepted plan: every span is valid, and the spans of every layer tile
the prompt. -/
structure Accepted (spans : List LayerTokenScatterSpan) (rowPlan : ForwardRowPlan)
    (p : SelectiveWritePlan) : Prop where
  kept : p.rowPlan = rowPlan
  valid : ∀ span ∈ spans, SpanValid rowPlan.promptTokens span
  tiles : ∀ selection ∈ rowPlan.layers,
    Tiles selection.promptTokens 0 (orderedSpans spans selection)
  full : p.fullLayerSpans = rowPlan.layers.flatMap (orderedSpans spans)
  recompute : p.recomputeLayerSpans = rowPlan.layers.flatMap
    (fun selection => (orderedSpans spans selection).flatMap (splitSpan · selection))

theorem plan_accepted {spans : List LayerTokenScatterSpan} {rowPlan : ForwardRowPlan}
    {p : SelectiveWritePlan} (h : planSelectiveKvWrites spans rowPlan = .ok p) :
    Accepted spans rowPlan p := by
  obtain ⟨_, h⟩ := (require_then_iff _ _ _ _).mp h
  obtain ⟨_, hvalid, h⟩ := (checked_ok_iff _ _ _).mp h
  obtain ⟨_, h⟩ := (require_then_iff _ _ _ _).mp h
  obtain ⟨⟨full, recompute⟩, hl, h⟩ := (checked_ok_iff _ _ _).mp h
  cases h
  obtain ⟨htiles, hfull, hrecompute⟩ := planLayers_ok _ hl
  exact ⟨rfl, fun span hs => validateGroupSpan_ok ((forM_returns_iff _ _).mp hvalid span hs),
    htiles, hfull, hrecompute⟩

/-! ## The spans of one layer -/

theorem mem_orderedSpans (spans : List LayerTokenScatterSpan) (selection : LayerRowSelection)
    (span : LayerTokenScatterSpan) :
    span ∈ orderedSpans spans selection ↔
      span ∈ spans ∧ span.layerIndex = selection.layerIndex := by
  rw [orderedSpans, mem_sortedBy, List.mem_filter, decide_eq_true_eq]

theorem layer_filter {selections : List LayerRowSelection} {selection : LayerRowSelection}
    (f : LayerRowSelection → List LayerTokenScatterSpan)
    (hf : ∀ s, ∀ span ∈ f s, span.layerIndex = s.layerIndex)
    (hn : (selections.map LayerRowSelection.layerIndex).Nodup) (hs : selection ∈ selections) :
    (selections.flatMap f).filter (fun span => span.layerIndex = (selection.layerIndex : ℤ)) =
      f selection := by
  have hlist : ∀ l : List LayerRowSelection,
      (l.flatMap f).filter (fun span => span.layerIndex = (selection.layerIndex : ℤ)) =
        (l.filter (fun s => s.layerIndex = selection.layerIndex)).flatMap f := by
    intro l
    induction l with
    | nil => rfl
    | cons s l ih =>
      rw [List.flatMap_cons, List.filter_append, ih, List.filter_cons]
      by_cases hi : s.layerIndex = selection.layerIndex
      · rw [if_pos (decide_eq_true hi), List.flatMap_cons, List.filter_eq_self.mpr]
        intro span hspan
        rw [decide_eq_true_eq, hf s span hspan, hi]
      · rw [if_neg (by simpa using hi), List.filter_eq_nil_iff.mpr, List.nil_append]
        intro span hspan
        rw [decide_eq_true_eq, hf s span hspan]
        omega
  rw [hlist, filter_unique LayerRowSelection.layerIndex selections selection hn hs,
    List.flatMap_singleton]

theorem clipSpan_some {span clipped : LayerTokenScatterSpan} {r : TokenRange}
    (h : clipSpan span r = some clipped) : clipped.layerIndex = span.layerIndex ∧
      clipped.targetRange.start = clipStart span r ∧ clipped.targetRange.stop = clipStop span r ∧
      clipped.physicalSlotStart =
        span.physicalSlotStart+(clipStart span r-span.targetRange.start : ℕ) := by
  unfold clipSpan at h
  split_ifs at h with hc
  cases h
  exact ⟨rfl, rfl, rfl, rfl⟩

theorem mem_splitSpan_rows (span : LayerTokenScatterSpan) (selection : LayerRowSelection)
    (row : ℕ × ℤ) :
    row ∈ (splitSpan span selection).flatMap rows ↔
      row ∈ rows span ∧ selection.Recomputed row.1 := by
  obtain ⟨position, slot⟩ := row
  simp only [splitSpan, List.mem_flatMap, List.mem_filterMap, mem_rows,
    LayerRowSelection.Recomputed]
  constructor
  · rintro ⟨clipped, ⟨r, hr, hc⟩, hh, hslot⟩
    obtain ⟨_, hstart, hstop, hphys⟩ := clipSpan_some hc
    unfold Holds clipStart clipStop at *
    refine ⟨⟨by omega, by omega⟩, r, hr, by omega⟩
  · rintro ⟨⟨hh, hslot⟩, r, hr, hhr⟩
    have hlt : clipStart span r < clipStop span r := by
      unfold Holds clipStart clipStop at *
      omega
    obtain ⟨clipped, hc⟩ : ∃ clipped, clipSpan span r = some clipped := by
      unfold clipSpan
      rw [dif_pos hlt]
      exact ⟨_, rfl⟩
    obtain ⟨_, hstart, hstop, hphys⟩ := clipSpan_some hc
    refine ⟨clipped, ⟨r, hr, hc⟩, ?_⟩
    unfold Holds clipStart clipStop at *
    omega

theorem splitSpan_ascending (spans : List LayerTokenScatterSpan) (selection : LayerRowSelection)
    (h : Ascending (spans.map LayerTokenScatterSpan.targetRange)) :
    Ascending ((spans.flatMap (splitSpan · selection)).map LayerTokenScatterSpan.targetRange) := by
  have hpiece : ∀ span, ∀ piece ∈ splitSpan span selection,
      span.targetRange.start ≤ piece.targetRange.start ∧
        piece.targetRange.stop ≤ span.targetRange.stop := by
    intro span piece hp
    obtain ⟨r, _, hc⟩ := List.mem_filterMap.mp hp
    obtain ⟨_, hstart, hstop, _⟩ := clipSpan_some hc
    rw [hstart, hstop]
    unfold clipStart clipStop
    omega
  refine List.pairwise_map.mpr (List.pairwise_flatMap.mpr ⟨fun span _ => ?_, ?_⟩)
  · refine List.pairwise_filterMap.mpr (selection.normalized.ascending.imp ?_)
    intro r r' hr piece hp piece' hp'
    obtain ⟨_, _, hstop, _⟩ := clipSpan_some hp
    obtain ⟨_, hstart, _, _⟩ := clipSpan_some hp'
    rw [hstart, hstop]
    unfold clipStart clipStop
    omega
  · refine (List.pairwise_map.mp h).imp fun {span span'} hs piece hp piece' hp' => ?_
    have hl := (hpiece span piece hp).2
    have hr := (hpiece span' piece' hp').1
    omega

section
variable {spans : List LayerTokenScatterSpan} {rowPlan : ForwardRowPlan} {p : SelectiveWritePlan}

theorem layerRows_eq (h : Accepted spans rowPlan p) {selection : LayerRowSelection}
    (hs : selection ∈ rowPlan.layers) :
    layerRows p selection.layerIndex = (orderedSpans spans selection).flatMap rows := by
  unfold layerRows
  rw [h.full, layer_filter (orderedSpans spans)
    (fun s span hspan => ((mem_orderedSpans _ _ _).mp hspan).2) rowPlan.indexes_nodup hs]

theorem spansForLayer_eq (h : Accepted spans rowPlan p) {selection : LayerRowSelection}
    (hs : selection ∈ rowPlan.layers) :
    p.spansForLayer selection.layerIndex =
      (orderedSpans spans selection).flatMap (splitSpan · selection) := by
  unfold SelectiveWritePlan.spansForLayer
  rw [h.recompute]
  refine layer_filter (fun s => (orderedSpans spans s).flatMap (splitSpan · s)) ?_
    rowPlan.indexes_nodup hs
  intro s piece hpiece
  obtain ⟨span, hspan, hp⟩ := List.mem_flatMap.mp hpiece
  obtain ⟨r, _, hc⟩ := List.mem_filterMap.mp hp
  rw [(clipSpan_some hc).1]
  exact ((mem_orderedSpans _ _ _).mp hspan).2

theorem mem_written (h : Accepted spans rowPlan p) {selection : LayerRowSelection}
    (hs : selection ∈ rowPlan.layers) (row : ℕ × ℤ) :
    row ∈ (p.spansForLayer selection.layerIndex).flatMap rows ↔
      row ∈ layerRows p selection.layerIndex ∧ selection.Recomputed row.1 := by
  rw [spansForLayer_eq h hs, layerRows_eq h hs, List.flatMap_assoc]
  simp only [List.mem_flatMap]
  constructor
  · rintro ⟨span, hspan, hrow⟩
    obtain ⟨hr, hc⟩ := (mem_splitSpan_rows span selection row).mp (List.mem_flatMap.mpr hrow)
    exact ⟨⟨span, hspan, hr⟩, hc⟩
  · rintro ⟨⟨span, hspan, hr⟩, hc⟩
    exact ⟨span, hspan, List.mem_flatMap.mp ((mem_splitSpan_rows span selection row).mpr ⟨hr, hc⟩)⟩

theorem targets_apart (h : Accepted spans rowPlan p) {selection : LayerRowSelection}
    (hs : selection ∈ rowPlan.layers) {span span' : LayerTokenScatterSpan}
    (hspan : span ∈ orderedSpans spans selection) (hspan' : span' ∈ orderedSpans spans selection)
    (hne : span ≠ span') (position : ℕ) :
    ¬(Holds span.targetRange position ∧ Holds span'.targetRange position) := by
  have hpairs : (orderedSpans spans selection).Pairwise (fun s s' =>
      ¬(Holds s.targetRange position ∧ Holds s'.targetRange position)) := by
    refine (List.pairwise_map.mp (h.tiles selection hs).ascending).imp fun {s s'} ha hh => ?_
    unfold Holds at hh
    omega
  have hsymm : Std.Symm (fun s s' : LayerTokenScatterSpan =>
      ¬(Holds s.targetRange position ∧ Holds s'.targetRange position)) :=
    ⟨fun _ _ hh hh' => hh ⟨hh'.2, hh'.1⟩⟩
  exact hpairs.forall hspan hspan' hne

/-- The slots of a layer that two of its rows share belong to cached rows only. -/
def SharedByCached (p : SelectiveWritePlan) (selection : LayerRowSelection) : Prop :=
  ∀ a ∈ layerRows p selection.layerIndex, ∀ b ∈ layerRows p selection.layerIndex,
    a ≠ b → a.2 = b.2 → selection.Cached a.1 ∧ selection.Cached b.1

theorem writes_apart_rows (h : Accepted spans rowPlan p) {selection : LayerRowSelection}
    (hs : selection ∈ rowPlan.layers) :
    ((writtenSlots p selection.layerIndex).Nodup ∧
      (writtenSlots p selection.layerIndex).Disjoint (cachedSlots p selection)) ↔
        SharedByCached p selection := by
  have hmem := mem_written h hs
  have htiles := h.tiles selection hs
  have hnodup : ((p.spansForLayer selection.layerIndex).flatMap rows).Nodup := by
    rw [spansForLayer_eq h hs]
    exact rows_flatMap_nodup _ (splitSpan_ascending _ _ htiles.ascending)
  have hcached : ∀ row ∈ layerRows p selection.layerIndex,
      selection.Cached row.1 ↔ ¬selection.Recomputed row.1 := by
    intro row hrow
    rw [layerRows_eq h hs] at hrow
    obtain ⟨span, hspan, hr⟩ := List.mem_flatMap.mp hrow
    have hlt := ((htiles.covers row.1).mp ⟨span, hspan, ((mem_rows span row.1 row.2).mp hr).1⟩).2
    rw [selection.cached_iff, and_iff_right hlt]
  unfold writtenSlots cachedSlots
  rw [List.nodup_map_iff_inj_on hnodup]
  constructor
  · rintro ⟨hinj, hdisjoint⟩ a ha b hb hne hslot
    have hboth : ∀ x ∈ layerRows p selection.layerIndex, ∀ y ∈ layerRows p selection.layerIndex,
        x ≠ y → x.2 = y.2 → selection.Cached x.1 := by
      intro x hx y hy hxy hsame
      rw [hcached x hx]
      intro hrec
      have hw := (hmem x).mpr ⟨hx, hrec⟩
      by_cases hry : selection.Recomputed y.1
      · exact hxy (hinj x hw y ((hmem y).mpr ⟨hy, hry⟩) hsame)
      · refine hdisjoint (List.mem_map_of_mem hw) ?_
        rw [hsame]
        exact List.mem_map_of_mem (List.mem_filter.mpr
          ⟨hy, decide_eq_true ((hcached y hy).mpr hry)⟩)
    exact ⟨hboth a ha b hb hne hslot, hboth b hb a ha hne.symm hslot.symm⟩
  · intro hshared
    refine ⟨fun a ha b hb hslot => ?_, fun slot hw hc => ?_⟩
    · obtain ⟨ha, hrec⟩ := (hmem a).mp ha
      obtain ⟨hb, _⟩ := (hmem b).mp hb
      by_contra hne
      exact (hcached a ha).mp (hshared a ha b hb hne hslot).1 hrec
    · obtain ⟨a, ha, rfl⟩ := List.mem_map.mp hw
      obtain ⟨b, hb, hslot⟩ := List.mem_map.mp hc
      obtain ⟨ha, hrec⟩ := (hmem a).mp ha
      obtain ⟨hb, hcb⟩ := List.mem_filter.mp hb
      have hne : a ≠ b := by
        rintro rfl
        exact (hcached a ha).mp (of_decide_eq_true hcb) hrec
      exact (hcached a ha).mp (hshared a ha b hb hne hslot.symm).1 hrec

/-- Two spans of a layer share a slot only where both of their rows stay cached. -/
def SlotsApart (spans : List LayerTokenScatterSpan) (selection : LayerRowSelection) : Prop :=
  ∀ s ∈ spans, ∀ s' ∈ spans, s.layerIndex = selection.layerIndex →
    s'.layerIndex = selection.layerIndex → s ≠ s' →
      ∀ offset < s.tokenCount, ∀ offset' < s'.tokenCount,
        s.physicalSlotStart+offset = s'.physicalSlotStart+offset' →
          selection.Cached (s.targetRange.start+offset) ∧
            selection.Cached (s'.targetRange.start+offset')

theorem mem_rows_offset {s : LayerTokenScatterSpan} {offset : ℕ} (h : offset < s.tokenCount) :
    (s.targetRange.start+offset, s.physicalSlotStart+offset) ∈ rows s :=
  List.mem_map.mpr ⟨offset, List.mem_range.mpr h, rfl⟩

theorem sharedByCached_iff (h : Accepted spans rowPlan p) {selection : LayerRowSelection}
    (hs : selection ∈ rowPlan.layers) :
    SharedByCached p selection ↔ SlotsApart spans selection := by
  unfold SharedByCached SlotsApart
  rw [layerRows_eq h hs]
  constructor
  · intro hshared s hm s' hm' hi hi' hne offset ho offset' ho' hslot
    have hmem := (mem_orderedSpans spans selection s).mpr ⟨hm, hi⟩
    have hmem' := (mem_orderedSpans spans selection s').mpr ⟨hm', hi'⟩
    refine hshared _ (List.mem_flatMap.mpr ⟨s, hmem, mem_rows_offset ho⟩) _
      (List.mem_flatMap.mpr ⟨s', hmem', mem_rows_offset ho'⟩) (fun he => ?_) hslot
    have hposition := congrArg Prod.fst he
    dsimp only at hposition
    have hheld := ((mem_rows s _ _).mp (mem_rows_offset ho)).1
    have hheld' := ((mem_rows s' _ _).mp (mem_rows_offset ho')).1
    rw [← hposition] at hheld'
    exact targets_apart h hs hmem hmem' hne _ ⟨hheld, hheld'⟩
  · intro hapart a ha b hb hne hslot
    obtain ⟨s, hmem, ha⟩ := List.mem_flatMap.mp ha
    obtain ⟨s', hmem', hb⟩ := List.mem_flatMap.mp hb
    obtain ⟨hm, hi⟩ := (mem_orderedSpans _ _ _).mp hmem
    obtain ⟨hm', hi'⟩ := (mem_orderedSpans _ _ _).mp hmem'
    obtain ⟨offset, ho, rfl⟩ := List.mem_map.mp ha
    obtain ⟨offset', ho', rfl⟩ := List.mem_map.mp hb
    refine hapart s hm s' hm' hi hi' (fun he => hne ?_) offset (List.mem_range.mp ho) offset'
      (List.mem_range.mp ho') hslot
    subst he
    dsimp only at hslot
    have ho : offset = offset' := by omega
    rw [ho]

/-! ## Slot mappings -/

theorem get?_foldl_set {κ ν : Type*} [DecidableEq κ] (entries : List (κ × ν)) (d : Dict κ ν)
    (k : κ) (v : ν) (hn : (entries.map Prod.fst).Nodup) (hd : ∀ e ∈ entries, e.1 ∉ d.keys) :
    (entries.foldl (fun d e => d.set e.1 e.2) d).get? k = some v ↔
      (k, v) ∈ entries ∨ d.get? k = some v := by
  induction entries generalizing d with
  | nil => simp
  | cons e entries ih =>
    obtain ⟨he, hn⟩ := List.nodup_cons.mp hn
    obtain ⟨hfresh, hd⟩ := List.forall_mem_cons.mp hd
    have hrest : ∀ x ∈ entries, x.1 ∉ (d.set e.1 e.2).keys := by
      intro x hx hk
      obtain hk | hk := (Dict.mem_keys_set _ _ _ _).mp hk
      · exact he (hk ▸ List.mem_map_of_mem hx)
      · exact hd x hx hk
    rw [List.foldl_cons, ih (d.set e.1 e.2) hn hrest, Dict.get?_set, List.mem_cons, Prod.ext_iff]
    by_cases hk : k = e.1
    · subst hk
      have hnone : d.get? e.1 = none := (Dict.get?_none _ _).mpr hfresh
      rw [if_pos rfl, hnone]
      simp only [true_and, reduceCtorEq, or_false, Option.some.injEq]
      rw [eq_comm (a := e.2), or_comm]
    · rw [if_neg hk]
      simp only [hk, false_and, false_or]

theorem layerRows_positions (h : Accepted spans rowPlan p) {selection : LayerRowSelection}
    (hs : selection ∈ rowPlan.layers) :
    ((layerRows p selection.layerIndex).map Prod.fst).Nodup := by
  have hn := rows_flatMap_nodup _ (h.tiles selection hs).ascending
  rw [layerRows_eq h hs, List.nodup_map_iff_inj_on hn]
  intro a ha b hb he
  obtain ⟨s, hmem, ha⟩ := List.mem_flatMap.mp ha
  obtain ⟨s', hmem', hb⟩ := List.mem_flatMap.mp hb
  obtain ⟨hheld, hslot⟩ := (mem_rows s a.1 a.2).mp ha
  obtain ⟨hheld', hslot'⟩ := (mem_rows s' b.1 b.2).mp hb
  by_cases hsame : s = s'
  · subst hsame
    rw [← he] at hslot'
    exact Prod.ext he (hslot.trans hslot'.symm)
  · rw [← he] at hheld'
    exact absurd ⟨hheld, hheld'⟩ (targets_apart h hs hmem hmem' hsame a.1)

theorem checkSlots_ok {expected : Dict ℕ ℤ} {slots : List (ℤ × ℕ)}
    (h : checkSlots expected slots = .ok ()) : ∀ e ∈ slots, expected.get? e.2 = some e.1 := by
  induction slots with
  | nil => exact fun e he => absurd he List.not_mem_nil
  | cons e rest ih =>
    unfold checkSlots at h
    split at h
    · cases h
    · next slot hslot =>
      obtain ⟨he, h⟩ := (require_then_iff _ _ _ _).mp h
      exact List.forall_mem_cons.mpr ⟨by rw [hslot, he], ih h⟩

theorem slotMapping_rows (h : Accepted spans rowPlan p) {selection : LayerRowSelection}
    (hs : selection ∈ rowPlan.layers) {slotMapping slots : List ℤ}
    (hm : validateSlotMapping p selection.layerIndex slotMapping = .ok slots) (row : ℕ × ℤ) :
    row ∈ layerRows p selection.layerIndex ↔ slots[row.1]? = some row.2 := by
  obtain ⟨_, hm⟩ := (require_then_iff _ _ _ _).mp hm
  obtain ⟨hlength, hm⟩ := (require_then_iff _ _ _ _).mp hm
  obtain ⟨_, hm⟩ := (require_then_iff _ _ _ _).mp hm
  obtain ⟨_, hm⟩ := (require_then_iff _ _ _ _).mp hm
  obtain ⟨_, hcheck, hm⟩ := (checked_ok_iff _ _ _).mp hm
  obtain rfl := Except.ok.inj hm
  have hpositions := layerRows_positions h hs
  have hexpected : ∀ position slot, (expectedByPosition p selection.layerIndex).get? position =
      some slot ↔ (position, slot) ∈ layerRows p selection.layerIndex := by
    intro position slot
    unfold expectedByPosition
    rw [get?_foldl_set _ _ _ _ hpositions (fun _ _ => List.not_mem_nil)]
    simp
  have hget : ∀ position slot, slotMapping[position]? = some slot →
      (position, slot) ∈ layerRows p selection.layerIndex := by
    intro position slot hslot
    refine (hexpected _ _).mp (checkSlots_ok hcheck (slot, position) ?_)
    exact List.mem_zipIdx_iff_getElem?.mpr hslot
  constructor
  · intro hrow
    have hlt : row.1 < slotMapping.length := by
      rw [layerRows_eq h hs] at hrow
      obtain ⟨span, hspan, hr⟩ := List.mem_flatMap.mp hrow
      have hcover := ((h.tiles selection hs).covers row.1).mp
        ⟨span, hspan, ((mem_rows span row.1 row.2).mp hr).1⟩
      rw [hlength, h.kept, ← rowPlan.prompts selection hs]
      exact hcover.2
    have hslot := List.getElem?_eq_getElem hlt
    have hsame := hget row.1 _ hslot
    have he := List.inj_on_of_nodup_map hpositions hsame hrow rfl
    rw [hslot, ← congrArg Prod.snd he]
  · exact hget row.1 row.2

/-- In a plan that the planner accepts, the slots written for recomputed rows
are distinct and off the slots of the cached rows, in every layer, exactly
when spans of a layer share slots only for cached rows. An accepted slot
mapping names these slots. -/
theorem writes_apart_iff (spans : List LayerTokenScatterSpan) (rowPlan : ForwardRowPlan)
    (p : SelectiveWritePlan) (h : planSelectiveKvWrites spans rowPlan = .ok p) :
    ((∀ selection ∈ rowPlan.layers, (writtenSlots p selection.layerIndex).Nodup ∧
      (writtenSlots p selection.layerIndex).Disjoint (cachedSlots p selection)) ↔
        ∀ selection ∈ rowPlan.layers, SlotsApart spans selection) ∧
    ∀ selection ∈ rowPlan.layers, ∀ slotMapping slots,
      validateSlotMapping p selection.layerIndex slotMapping = .ok slots →
        ∀ row, row ∈ layerRows p selection.layerIndex ↔ slots[row.1]? = some row.2 := by
  have ha := plan_accepted h
  refine ⟨?_, fun selection hs slotMapping slots hm row => slotMapping_rows ha hs hm row⟩
  constructor
  · intro hw selection hs
    exact (sharedByCached_iff ha hs).mp ((writes_apart_rows ha hs).mp (hw selection hs))
  · intro hw selection hs
    exact (writes_apart_rows ha hs).mpr ((sharedByCached_iff ha hs).mpr (hw selection hs))

end

/-! ## One block for two rows -/

def firstRow (layerIndex : Fin gptOssNumLayers) : LayerRowSelection where
  layerIndex := layerIndex
  promptTokens := 2
  recomputeRanges := [⟨0, 1, first_ordered⟩]
  index_bounded := layerIndex.isLt
  prompt_bounded := by decide
  normalized := ⟨by decide, by decide, by decide, List.isChain_singleton _⟩

def layerZero : Fin gptOssNumLayers := ⟨0, by decide⟩

def firstRows : ForwardRowPlan where
  promptTokens := 2
  layers := (List.finRange gptOssNumLayers).map firstRow
  valid := by decide +kernel

def rowSpan (layerIndex position : ℕ) (blockId : ℤ) : LayerTokenScatterSpan where
  layerName := layerName layerIndex
  layerIndex := layerIndex
  groupSpan := {
    groupId := layerIndex%2
    attentionKind := expectedKind layerIndex
    sourceRange := ⟨position, position+1, Nat.le_succ position⟩
    targetRange := ⟨position, position+1, Nat.le_succ position⟩
    logicalBlockIndex := position
    blockId := blockId
    blockSize := 1
    blockOffset := 0
    physicalSlotStart := blockId }

def rowSpans (first second : ℤ) : List LayerTokenScatterSpan :=
  (List.range gptOssNumLayers).flatMap (fun i => [rowSpan i 0 first, rowSpan i 1 second])

theorem rowSpans_apart {first second : ℤ} (h : first ≠ second) (selection : LayerRowSelection) :
    SlotsApart (rowSpans first second) selection := by
  have hrow : ∀ s ∈ rowSpans first second, ∃ i : ℕ, s.layerIndex = i ∧ s.tokenCount = 1 ∧
      ((s = rowSpan i 0 first ∧ s.physicalSlotStart = first) ∨
        (s = rowSpan i 1 second ∧ s.physicalSlotStart = second)) := by
    intro s hs
    obtain ⟨i, _, hs⟩ := List.mem_flatMap.mp hs
    obtain rfl | rfl := List.mem_pair.mp hs
    · exact ⟨i, rfl, rfl, Or.inl ⟨rfl, rfl⟩⟩
    · exact ⟨i, rfl, rfl, Or.inr ⟨rfl, rfl⟩⟩
  intro s hs s' hs' hi hi' hne offset ho offset' ho' hslot
  obtain ⟨i, hlayer, hcount, hspan⟩ := hrow s hs
  obtain ⟨i', hlayer', hcount', hspan'⟩ := hrow s' hs'
  have hsame : i = i' := by omega
  subst hsame
  rw [hcount] at ho
  rw [hcount'] at ho'
  obtain ⟨rfl, hstart⟩ | ⟨rfl, hstart⟩ := hspan <;>
    obtain ⟨rfl, hstart'⟩ | ⟨rfl, hstart'⟩ := hspan'
  · exact absurd rfl hne
  · omega
  · omega
  · exact absurd rfl hne

/-- With a block for each row the writes are apart. -/
theorem twoBlocks_apart : ∃ p, planSelectiveKvWrites (rowSpans 5 6) firstRows = .ok p ∧
    5 ∈ writtenSlots p 0 ∧ 6 ∈ cachedSlots p (firstRow layerZero) ∧
    ∀ selection ∈ firstRows.layers, (writtenSlots p selection.layerIndex).Nodup ∧
      (writtenSlots p selection.layerIndex).Disjoint (cachedSlots p selection) := by
  have hplanned : (planSelectiveKvWrites (rowSpans 5 6) firstRows).toOption.map
      (fun p => decide (5 ∈ writtenSlots p 0 ∧ 6 ∈ cachedSlots p (firstRow layerZero))) =
        some true := by
    decide +kernel
  obtain ⟨p, hp, hslots⟩ := Option.map_eq_some_iff.mp hplanned
  obtain ⟨hw, hc⟩ := of_decide_eq_true hslots
  exact ⟨p, toOption_some hp, hw, hc, (writes_apart_iff (rowSpans 5 6) firstRows p
    (toOption_some hp)).1.mpr fun selection _ => rowSpans_apart (by decide) selection⟩

/-- With one block for both rows the planner accepts the spans, and the recomputed row of the
first layer is written over the cached one. -/
theorem cached_row_overwritten : ∃ p, planSelectiveKvWrites (rowSpans 5 5) firstRows = .ok p ∧
    firstRow layerZero ∈ firstRows.layers ∧
    ¬(writtenSlots p (firstRow layerZero).layerIndex).Disjoint
      (cachedSlots p (firstRow layerZero)) := by
  have hplanned : (planSelectiveKvWrites (rowSpans 5 5) firstRows).toOption.map
      (fun p => decide (5 ∈ writtenSlots p 0 ∧ 5 ∈ cachedSlots p (firstRow layerZero))) =
        some true := by
    decide +kernel
  obtain ⟨p, hp, hslots⟩ := Option.map_eq_some_iff.mp hplanned
  obtain ⟨hw, hc⟩ := of_decide_eq_true hslots
  exact ⟨p, toOption_some hp, List.mem_map_of_mem (List.mem_finRange _),
    fun hdisjoint => hdisjoint hw hc⟩

end CacheBlend.SelectiveWrites
