import CacheBlend.PagedScatter

/-!
# Scatters of disjoint transfers

With distinct blocks in every table, the planned scatters of disjoint
transfers write each target row of each layer exactly once. A failure before
the copies changes nothing, and rows that are gathered and scattered again
keep their values.
-/

set_option autoImplicit false

namespace CacheBlend.ExactScatters
open CacheBlend.PlannerModels CacheBlend.HybridLayout CacheBlend.ScatterSpans
open CacheBlend.TokenScatter CacheBlend.DataPlane CacheBlend.KeyedMemory CacheBlend.PagedScatter

/-- The physical slot of a target position in a layer: its block and its offset there. -/
def layerSlot (tables : List GroupBlockTable) (layer : AttentionLayerLayout) (position : ℕ) :
    Option (ℕ × ℕ) :=
  (tableOf tables layer).bind (slotOf · position)

def slotCell (layer : AttentionLayerLayout) (component : KvComponent) (slot : ℕ × ℕ) :
    PagedCell :=
  ⟨layer.layerName, component, slot.1, slot.2⟩

def DisjointTargets (calls : List ScatterCall) : Prop :=
  calls.Pairwise (fun c c' =>
    ¬c.plan.transfer.targetRange.Overlaps c'.plan.transfer.targetRange)

instance (calls : List ScatterCall) : Decidable (DisjointTargets calls) :=
  inferInstanceAs (Decidable (List.Pairwise _ _))

section
variable {δ : Type} {layout : LayeredCacheLayout} {tables : List GroupBlockTable}

theorem planned_cell {plan : TokenScatterPlan}
    (h : planTokenScatter layout tables plan.transfer = .ok plan) {span : LayerTokenScatterSpan}
    (hm : span ∈ plan.layerSpans) {position : ℕ} (hp : Holds span.targetRange position) :
    Holds plan.transfer.targetRange position ∧ ∃ layer ∈ layout.layers,
      span.layerName = layer.layerName ∧ span.layerIndex = layer.layerIndex ∧
        ∃ slot, layerSlot tables layer position = some slot ∧
          ∀ component, cellAt span component position = slotCell layer component slot := by
  obtain ⟨layer, hl, hname, hindex, table, _, htable, hplaces⟩ := planned_places h hm hp
  obtain ⟨blockId, offset, hslot, hblock, hoffset⟩ := hplaces.slot
  refine ⟨hplaces.target, layer, hl, hname, hindex, (blockId, offset), ?_, fun component => ?_⟩
  · unfold layerSlot
    rw [htable, Option.bind_some, hslot]
  · unfold cellAt slotCell
    rw [PagedCell.mk.injEq]
    exact ⟨hname, rfl, hblock, hoffset⟩

theorem layerSlot_injective (hd : ∀ table ∈ tables, DistinctBlocks table)
    {layer : AttentionLayerLayout} {position position' : ℕ} {slot : ℕ × ℕ}
    (h : layerSlot tables layer position = some slot)
    (h' : layerSlot tables layer position' = some slot) : position = position' := by
  obtain ⟨table, ht, hs⟩ := Option.bind_eq_some_iff.mp h
  obtain ⟨table', ht', hs'⟩ := Option.bind_eq_some_iff.mp h'
  rw [ht] at ht'
  cases ht'
  exact slotOf_injective (hd table (List.mem_of_find?_eq_some ht)) hs hs'

theorem slotCell_injective {layer layer' : AttentionLayerLayout} (hl : layer ∈ layout.layers)
    (hl' : layer' ∈ layout.layers) {component component' : KvComponent} {slot slot' : ℕ × ℕ}
    (h : slotCell layer component slot = slotCell layer' component' slot') :
    layer = layer' ∧ component = component' ∧ slot = slot' := by
  unfold slotCell at h
  rw [PagedCell.mk.injEq] at h
  obtain ⟨hname, hcomponent, hblock, hoffset⟩ := h
  exact ⟨layer_unique hl hl' hname, hcomponent,
    Prod.ext (Int.ofNat_inj.mp hblock) (Int.ofNat_inj.mp hoffset)⟩

/-- What a run of scatters leaves behind. Every target row of every layer
holds the staged value and the corrected key, every other cell its old row. -/
structure ScatterExact (layout : LayeredCacheLayout) (tables : List GroupBlockTable)
    (correct : KeyPositionCorrector δ) (calls : List ScatterCall) (m m' : DataPlaneMemory δ) :
    Prop where
  staging : m'.staging = m.staging
  value : ∀ layer ∈ layout.layers, ∀ c ∈ calls, ∀ position,
    Holds c.plan.transfer.targetRange position → ∃ slot,
      layerSlot tables layer position = some slot ∧
      m'.paged (slotCell layer .value slot) =
        heads (m.staging ⟨.value, layer.layerIndex, c.retrievalBufferOffset+position⟩)
  key : ∀ layer ∈ layout.layers, ∀ c ∈ calls, ∀ position,
    Holds c.plan.transfer.targetRange position → ∃ slot,
      layerSlot tables layer position = some slot ∧ ∃ span ∈ c.plan.layerSpans,
        span.layerName = layer.layerName ∧ span.layerIndex = layer.layerIndex ∧
        Holds span.targetRange position ∧
        CorrectedRow correct m.staging c.retrievalBufferOffset span position
          (m'.paged (slotCell layer .key slot))
  frame : ∀ cell, (∀ layer ∈ layout.layers, ∀ c ∈ calls, ∀ position,
    Holds c.plan.transfer.targetRange position → ∀ slot,
      layerSlot tables layer position = some slot → cell ≠ slotCell layer cell.component slot) →
    m'.paged cell = m.paged cell

theorem call_unique {calls : List ScatterCall} (hd : DisjointTargets calls) {c c' : ScatterCall}
    (hc : c ∈ calls) (hc' : c' ∈ calls) {position : ℕ}
    (hp : Holds c.plan.transfer.targetRange position)
    (hp' : Holds c'.plan.transfer.targetRange position) : c = c' := by
  by_contra hne
  have hs : Std.Symm (fun c c' : ScatterCall =>
      ¬c.plan.transfer.targetRange.Overlaps c'.plan.transfer.targetRange) :=
    ⟨fun _ _ h ho => h ⟨ho.2, ho.1⟩⟩
  exact hd.forall hc hc' hne ⟨lt_of_le_of_lt hp.1 hp'.2, lt_of_le_of_lt hp'.1 hp.2⟩

section
variable {correct : KeyPositionCorrector δ} {calls : List ScatterCall} {m m' : DataPlaneMemory δ}
  {ws : List (PagedCell × HeadRow δ)}
  (hblocks : ∀ table ∈ tables, DistinctBlocks table) (hdisjoint : DisjointTargets calls)
  (hplans : ∀ c ∈ calls, planTokenScatter layout tables c.plan.transfer = .ok c.plan)
  (hws : RunWrites correct m.staging calls ws)
include hblocks hdisjoint hplans hws

theorem write_origin {layer : AttentionLayerLayout} (hl : layer ∈ layout.layers)
    {c : ScatterCall} (hc : c ∈ calls) {span : LayerTokenScatterSpan}
    (hspan : span ∈ c.plan.layerSpans) (hname : span.layerName = layer.layerName) {position : ℕ}
    (hp : Holds span.targetRange position) {slot : ℕ × ℕ}
    (hslot : layerSlot tables layer position = some slot) {component : KvComponent}
    {w : PagedCell × HeadRow δ} (hw : w ∈ ws) (hcell : w.1 = slotCell layer component slot) :
    Scattered correct m.staging c.retrievalBufferOffset span position w ∧
      w.1 = cellAt span component position := by
  obtain ⟨c', hc', span', hspan', position', hp', hs⟩ := hws.sound w hw
  obtain ⟨ht', layer', hl', hname', _, slot', hslot', hcells⟩ :=
    planned_cell (hplans c' hc') hspan' hp'
  have hat : ∃ component', w.1 = cellAt span' component' position' := by
    cases hs with
    | key => exact ⟨_, rfl⟩
    | value => exact ⟨_, rfl⟩
  obtain ⟨component', hat⟩ := hat
  obtain ⟨rfl, rfl, rfl⟩ := slotCell_injective hl' hl
    ((hcells component').symm.trans (hat.symm.trans hcell))
  obtain rfl := layerSlot_injective hblocks hslot' hslot
  obtain ⟨ht, _⟩ := planned_cell (hplans c hc) hspan hp
  obtain rfl := call_unique hdisjoint hc' hc ht' ht
  obtain rfl := planned_unique (hplans c' hc') hspan' hspan (hname'.trans hname.symm) hp' hp
  exact ⟨hs, hat⟩

theorem writes_exact (hs : m'.staging = m.staging) (hpaged : m'.paged = writeAll m.paged ws) :
    ScatterExact layout tables correct calls m m' := by
  have hspans : ∀ layer ∈ layout.layers, ∀ c ∈ calls, ∀ position,
      Holds c.plan.transfer.targetRange position → ∃ span ∈ c.plan.layerSpans,
        span.layerName = layer.layerName ∧ span.layerIndex = layer.layerIndex ∧
        Holds span.targetRange position ∧ ∃ slot, layerSlot tables layer position = some slot ∧
          ∀ component, cellAt span component position = slotCell layer component slot := by
    intro layer hl c hc position hp
    obtain ⟨span, hspan, hname, hh⟩ := planned_covers (hplans c hc) hl hp
    obtain ⟨_, layer', hl', hname', hindex, hslot⟩ := planned_cell (hplans c hc) hspan hh
    obtain rfl := layer_unique hl' hl (hname'.symm.trans hname)
    exact ⟨span, hspan, hname, hindex, hh, hslot⟩
  refine ⟨hs, ?_, ?_, ?_⟩
  · intro layer hl c hc position hp
    obtain ⟨span, hspan, hname, hindex, hh, slot, hslot, hcells⟩ := hspans layer hl c hc position hp
    refine ⟨slot, hslot, ?_⟩
    obtain ⟨w, hw, hk⟩ := hws.complete c hc span hspan position hh .value
    rw [hpaged]
    refine writeAll_agree _ _ _ _ ⟨w, hw, hk.trans (hcells .value)⟩ fun w' hw' hk' => ?_
    obtain ⟨hscattered, hat⟩ := write_origin hblocks hdisjoint hplans hws hl hc hspan hname hh
      hslot hw' hk'
    cases hscattered with
    | key => cases hat
    | value => rw [hindex]
  · intro layer hl c hc position hp
    obtain ⟨span, hspan, hname, hindex, hh, slot, hslot, hcells⟩ := hspans layer hl c hc position hp
    refine ⟨slot, hslot, span, hspan, hname, hindex, hh, ?_⟩
    obtain ⟨w, hw, hk⟩ := hws.complete c hc span hspan position hh .key
    have hwrite : ∀ w' ∈ ws, w'.1 = slotCell layer .key slot →
        CorrectedRow correct m.staging c.retrievalBufferOffset span position w'.2 := by
      intro w' hw' hk'
      obtain ⟨hscattered, hat⟩ := write_origin hblocks hdisjoint hplans hws hl hc hspan hname hh
        hslot hw' hk'
      cases hscattered with
      | key row hrow => exact hrow
      | value => cases hat
    -- the correction is a function, so every write of the key has the same row
    have hrow := hwrite w hw (hk.trans (hcells .key))
    have hcontent : m'.paged (slotCell layer .key slot) = w.2 := by
      rw [hpaged]
      refine writeAll_agree _ _ _ _ ⟨w, hw, hk.trans (hcells .key)⟩ fun w' hw' hk' => ?_
      obtain ⟨tensor, ht, hr⟩ := hrow
      obtain ⟨tensor', ht', hr'⟩ := hwrite w' hw' hk'
      rw [ht] at ht'
      cases ht'
      exact Option.some.inj (hr'.symm.trans hr)
    rw [hcontent]
    exact hrow
  · intro cell hcell
    rw [hpaged]
    refine writeAll_frame _ _ _ fun w hw hk => ?_
    obtain ⟨c, hc, span, hspan, position, hp, hscattered⟩ := hws.sound w hw
    obtain ⟨ht, layer, hl, _, _, slot, hslot, hcells⟩ := planned_cell (hplans c hc) hspan hp
    have hne := hcell layer hl c hc position ht slot hslot
    subst hk
    cases hscattered with
    | key => exact hne (hcells .key)
    | value => exact hne (hcells .value)

end

/-- A correction that treats every row on its own. -/
def RowWise (correct : KeyPositionCorrector δ)
    (rotate : ℤ → ℕ → ℕ → HeadRow δ → HeadRow δ) : Prop :=
  ∀ (rows : List (HeadRow δ)) (source target : List ℕ) (layerIndex : ℤ) (tensor : KeyTensor δ),
    correct rows source target layerIndex = some tensor →
      ∀ (i : ℕ) (row : HeadRow δ) (sourcePosition targetPosition : ℕ), rows[i]? = some row →
        source[i]? = some sourcePosition → target[i]? = some targetPosition →
          tensor.rows[i]? = some (rotate layerIndex sourcePosition targetPosition row)

theorem positions_get {r : TokenRange} {i : ℕ} (h : i < r.size) :
    (positions r)[i]? = some (r.start+i) := by
  unfold positions
  rw [List.getElem?_range' h, Nat.one_mul]

/-- With a correction of single rows, the corrected key of a position is the
staged key moved from its source to its target position. -/
theorem correctedRow_rotated {correct : KeyPositionCorrector δ}
    {rotate : ℤ → ℕ → ℕ → HeadRow δ → HeadRow δ} (hr : RowWise correct rotate)
    {plan : TokenScatterPlan} (h : planTokenScatter layout tables plan.transfer = .ok plan)
    {staging : StagingCell → FlatRow δ} {offset : ℤ} {span : LayerTokenScatterSpan}
    (hm : span ∈ plan.layerSpans) {position : ℕ} (hp : Holds span.targetRange position)
    {row : HeadRow δ} (hrow : CorrectedRow correct staging offset span position row) :
    row = rotate span.layerIndex (plan.transfer.sourcePosition position) position
      (heads (staging ⟨.key, span.layerIndex, offset+position⟩)) := by
  obtain ⟨tensor, ht, hget⟩ := hrow
  obtain ⟨_, _, _, _, _, _, _, hplaces⟩ := planned_places h hm hp
  have hl := hp.1
  have hi : position-span.targetRange.start < span.targetRange.size := by
    unfold TokenRange.size
    have hstop := hp.2
    omega
  have hsource : (positions span.sourceRange)[position-span.targetRange.start]? =
      some (plan.transfer.sourcePosition position) := by
    rw [positions_get (by rw [planned_sizes h hm]; exact hi)]
    exact congrArg some hplaces.source
  have htarget : (positions span.targetRange)[position-span.targetRange.start]? =
      some position := by
    rw [positions_get hi, Nat.add_sub_cancel' hl]
  have hstaged : ∃ staged,
      (stagedKeys staging offset span)[position-span.targetRange.start]? = some staged := by
    refine ⟨_, List.getElem?_eq_getElem ?_⟩
    unfold stagedKeys stagingCells
    rw [List.length_map, List.length_map, List.length_range]
    exact hi
  obtain ⟨staged, hstaged⟩ := hstaged
  have hrotated := hr _ _ _ _ _ ht _ _ _ _ hstaged hsource htarget
  rw [hget, stagedValue_row hp hstaged] at hrotated
  exact Option.some.inj hrotated

/-! ## Gathers of a plan -/

theorem layer_of_index {layer layer' : AttentionLayerLayout} (hl : layer ∈ layout.layers)
    (hl' : layer' ∈ layout.layers) (h : layer.layerIndex = layer'.layerIndex) : layer = layer' :=
  List.inj_on_of_nodup_map (by rw [layout.indexes]; exact List.nodup_range) hl hl' h

theorem gather_exact {plan : TokenScatterPlan}
    (h : planTokenScatter layout tables plan.transfer = .ok plan) {document : TokenRange}
    {offset : ℤ} {m m' : DataPlaneMemory δ} {ws : List (StagingCell × FlatRow δ)}
    (hws : GatherWrites m document offset plan.layerSpans ws)
    (hstaging : m'.staging = writeAll m.staging ws) {layer : AttentionLayerLayout}
    (hl : layer ∈ layout.layers) {position : ℕ}
    (hp : Holds plan.transfer.targetRange position) (component : KvComponent) :
    ∃ slot, layerSlot tables layer position = some slot ∧
      m'.staging ⟨component, layer.layerIndex, offset+((position : ℤ)-document.start)⟩ =
        flatten (m.paged (slotCell layer component slot)) := by
  obtain ⟨span, hspan, hname, hh⟩ := planned_covers h hl hp
  obtain ⟨_, layer', hl', hname', hindex, slot, hslot, hcells⟩ := planned_cell h hspan hh
  obtain rfl := layer_unique hl' hl (hname'.symm.trans hname)
  refine ⟨slot, hslot, ?_⟩
  obtain ⟨w, hw, hk⟩ := hws.complete span hspan position hh component
  have hat : stagedAt span component document offset position =
      ⟨component, layer'.layerIndex, offset+((position : ℤ)-document.start)⟩ := by
    unfold stagedAt
    rw [hindex]
  rw [hstaging, ← hat]
  refine writeAll_agree _ _ _ _ ⟨w, hw, hk⟩ fun w' hw' hk' => ?_
  obtain ⟨span', hspan', position', hh', component', rfl⟩ := hws.sound w' hw'
  unfold stagedAt at hk'
  rw [StagingCell.mk.injEq] at hk'
  obtain ⟨rfl, hlayer, htoken⟩ := hk'
  have hposition : position' = position := by omega
  subst hposition
  obtain ⟨_, layer₂, hl₂, hname₂, hindex₂, _⟩ := planned_cell h hspan' hh'
  have hsame : layer₂.layerIndex = layer'.layerIndex := by omega
  obtain rfl := layer_of_index hl₂ hl' hsame
  obtain rfl := planned_unique h hspan' hspan (hname₂.trans hname'.symm) hh' hh
  rw [hcells]

end

/-! ## Whole runs -/

/-- Scatters of disjoint transfers over distinct blocks are exact, their
failures before the copies leave no trace, and a gather followed by scatters
moves the values of its rows unchanged. -/
theorem scatters_exact {δ : Type} (layout : LayeredCacheLayout) (tables : List GroupBlockTable)
    (tensors : Tensors) (correct : KeyPositionCorrector δ) (calls : List ScatterCall)
    (hblocks : ∀ table ∈ tables, DistinctBlocks table) (hdisjoint : DisjointTargets calls)
    (hplans : ∀ c ∈ calls, planTokenScatter layout tables c.plan.transfer = .ok c.plan) :
    (∀ (m m' : DataPlaneMemory δ) (receipts : List DataPlaneReceipt),
      scatterAll tensors correct calls m = (.ok receipts, m') →
        ScatterExact layout tables correct calls m m' ∧
        ∀ rotate, RowWise correct rotate → ∀ layer ∈ layout.layers, ∀ c ∈ calls, ∀ position,
          Holds c.plan.transfer.targetRange position → ∃ slot,
            layerSlot tables layer position = some slot ∧
            m'.paged (slotCell layer .key slot) =
              rotate layer.layerIndex (c.plan.transfer.sourcePosition position) position
                (heads (m.staging ⟨.key, layer.layerIndex, c.retrievalBufferOffset+position⟩))) ∧
    (∀ (runtime : TensorRuntime) (layerSpans : List LayerTokenScatterSpan)
      (retrievalBufferOffset queryTokenCount : ℤ) (m m' : DataPlaneMemory δ) (e : DataPlaneError),
      scatterRetrievedKv tensors runtime correct layerSpans retrievalBufferOffset queryTokenCount
        m = (.error e, m') → e.code ≠ .mutationFailed → m' = m) ∧
    (∀ (runtime : TensorRuntime) (layerSpans : List LayerTokenScatterSpan)
      (document : TokenRange) (storeBufferOffset : ℤ) (m : DataPlaneMemory δ),
      (gatherPrecomputedKv tensors runtime layerSpans document storeBufferOffset m).2.paged =
        m.paged) ∧
    ∀ (sourceTables : List GroupBlockTable) (runtime : TensorRuntime) (plan : TokenScatterPlan)
      (document : TokenRange) (storeBufferOffset : ℤ) (m m₁ m₂ : DataPlaneMemory δ)
      (receipt : DataPlaneReceipt) (receipts : List DataPlaneReceipt),
      planTokenScatter layout sourceTables plan.transfer = .ok plan →
      gatherPrecomputedKv tensors runtime plan.layerSpans document storeBufferOffset m =
        (.ok receipt, m₁) →
      scatterAll tensors correct calls m₁ = (.ok receipts, m₂) →
      ∀ layer ∈ layout.layers, ∀ c ∈ calls, ∀ source target,
        Holds plan.transfer.targetRange source → Holds c.plan.transfer.targetRange target →
        storeBufferOffset+((source : ℤ)-document.start) = c.retrievalBufferOffset+target →
        ∃ old new, layerSlot sourceTables layer source = some old ∧
          layerSlot tables layer target = some new ∧
          m₂.paged (slotCell layer .value new) = m.paged (slotCell layer .value old) := by
  have hrun : ∀ (m m' : DataPlaneMemory δ) (receipts : List DataPlaneReceipt),
      scatterAll tensors correct calls m = (.ok receipts, m') →
        ScatterExact layout tables correct calls m m' := by
    intro m m' receipts h
    obtain ⟨hs, ws, hws, hpaged⟩ := scatterAll_returns calls h
    exact writes_exact hblocks hdisjoint hplans hws hs hpaged
  refine ⟨fun m m' receipts h => ⟨hrun m m' receipts h, ?_⟩, ?_, ?_, ?_⟩
  · intro rotate hr layer hl c hc position hp
    obtain ⟨slot, hslot, span, hspan, _, hindex, hh, hrow⟩ :=
      (hrun m m' receipts h).key layer hl c hc position hp
    have hrotated := correctedRow_rotated hr (hplans c hc) hspan hh hrow
    rw [hindex] at hrotated
    exact ⟨slot, hslot, hrotated⟩
  · intro runtime layerSpans offset query m m' e h hne
    exact scatter_failure h hne
  · intro runtime layerSpans document offset m
    exact gather_keeps_paged tensors runtime layerSpans document offset m
  · intro sourceTables runtime plan document offset m m₁ m₂ receipt receipts hplan hg hs layer hl c
      hc source target hp hp' hsame
    obtain ⟨_, ws, hws, hstaging⟩ := gather_returns hg
    obtain ⟨old, hold, hstaged⟩ := gather_exact hplan hws hstaging hl hp .value
    obtain ⟨new, hnew, hvalue⟩ := (hrun m₁ m₂ receipts hs).value layer hl c hc target hp'
    refine ⟨old, new, hold, hnew, ?_⟩
    rw [hvalue, ← hsame, hstaged, heads_flatten]

def slidingGroup : HybridLayout.CacheGroupLayout where
  groupId := 0
  attentionKind := .sliding
  layerNames := (List.range 12).map (fun i => layerName (2*i : ℕ))
  blockSize := 16
  slidingWindow := some gptOssSlidingWindow
  block_positive := by decide
  window_eq := rfl

def fullGroup : HybridLayout.CacheGroupLayout where
  groupId := 1
  attentionKind := .full
  layerNames := (List.range 12).map (fun i => layerName (2*i+1 : ℕ))
  blockSize := 16
  slidingWindow := none
  block_positive := by decide
  window_eq := rfl

def layerOf (layerIndex : ℕ) : AttentionLayerLayout :=
  attentionLayer (if layerIndex%2 = 0 then slidingGroup else fullGroup) (layerName layerIndex)
    layerIndex

def alternatingLayout : LayeredCacheLayout where
  groups := [slidingGroup, fullGroup]
  ids := by decide
  kinds := by decide
  names_nodup := by decide +kernel
  layers := (List.range gptOssNumLayers).map layerOf
  indexes := by decide
  layer_names_nodup := by decide +kernel
  of_groups := by decide +kernel
  kinds_eq := by decide +kernel

def twoTables : List GroupBlockTable :=
  [⟨0, 16, [some 7, none, some 3, some 5], by decide, by decide⟩,
    ⟨1, 16, [some 2, some 8, some 6, some 0], by decide, by decide⟩]

/-- Sixteen tokens moved back by seventy positions, over a block edge. -/
def firstTransfer : TokenTransfer where
  sourceRange := ⟨110, 126, by decide⟩
  targetRange := ⟨40, 56, by decide⟩
  target_nonempty := by decide
  size_eq := by decide
  source_bounded := by decide
  target_bounded := by decide

def secondTransfer : TokenTransfer where
  sourceRange := ⟨0, 4, Nat.le_add_right 0 4⟩
  targetRange := ⟨4, 8, by decide⟩
  target_nonempty := by decide
  size_eq := by decide
  source_bounded := by decide
  target_bounded := by decide

def planOf (transfer : TokenTransfer) : TokenScatterPlan :=
  (planTokenScatter alternatingLayout twoTables transfer).toOption.getD ⟨transfer, [], []⟩

def steadyRuntime : TensorRuntime where
  viewRaises _ := false
  copyRaises _ := false
  synchronizeRaises := false
  correctionLatency _ := 0
  latency_nonneg _ := le_refl _

def twoScatters : List ScatterCall :=
  [⟨planOf firstTransfer, 4, 60, steadyRuntime⟩, ⟨planOf secondTransfer, 4, 60, steadyRuntime⟩]

def smallTensors : Tensors where
  staging := ⟨[2, 24, 64, 512], "torch.bfloat16", "cuda:0"⟩
  paged := ⟨(List.range gptOssNumLayers).map (fun i : ℕ =>
    (layerName i, ⟨[9, 2, 16, 8, 64], "torch.bfloat16", "cuda:0"⟩)), by decide +kernel⟩

def shiftKeys : KeyPositionCorrector ℤ := fun rows source target _ => some
  { info := ⟨[rows.length, gptOssNumKvHeads, gptOssHeadDim], "torch.bfloat16", "cuda:0"⟩
    rows := rows.zipIdx.map (fun row head i =>
      row.1 head i+((target.getD row.2 0 : ℤ)-source.getD row.2 0))
    exact := by
      intro n h
      rw [List.length_map, List.length_zipIdx]
      exact (List.cons.inj h).1 }

def stagedTokens : DataPlaneMemory ℤ where
  paged _ _ _ := 0
  staging cell _ := 100*cell.layerIndex+cell.token

theorem two_scatters_land : ∃ receipts m',
    scatterAll smallTensors shiftKeys twoScatters stagedTokens = (.ok receipts, m') ∧
      m'.paged ⟨layerName 5, .value, 0, 2⟩ = fun _ _ => 554 := by
  have hplans : ∀ c ∈ twoScatters,
      planTokenScatter alternatingLayout twoTables c.plan.transfer = .ok c.plan := by
    decide +kernel
  have hreturned : (scatterAll smallTensors shiftKeys twoScatters stagedTokens).1.toOption.isSome =
      true := by
    decide +kernel
  have hexact := (scatters_exact alternatingLayout twoTables smallTensors shiftKeys twoScatters
    (by decide) (by decide +kernel) hplans).1 stagedTokens
  rcases hrun : scatterAll smallTensors shiftKeys twoScatters stagedTokens with ⟨e | receipts, m'⟩
  · rw [hrun] at hreturned
    cases hreturned
  · have hlayer : layerOf 5 ∈ alternatingLayout.layers := List.mem_map.mpr ⟨5, by decide, rfl⟩
    obtain ⟨slot, hslot, hvalue⟩ := (hexact m' receipts hrun).1.value (layerOf 5) hlayer _
      List.mem_cons_self 50 (by decide +kernel)
    have hblock : layerSlot twoTables (layerOf 5) 50 = some (0, 2) := by decide +kernel
    rw [hblock] at hslot
    cases hslot
    exact ⟨receipts, m', rfl, hvalue⟩

end CacheBlend.ExactScatters
