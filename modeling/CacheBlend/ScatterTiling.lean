import CacheBlend.ExactScatters
import CacheBlend.LayoutConstruction

/-!
# Scatter plans tile their transfer

The spans of each layer follow one another from the start of the target to its
end. The data plane checks the same geometry again on its own and accepts every
plan of distinct blocks, provided the layers have their canonical names.
-/

set_option autoImplicit false

namespace CacheBlend.ScatterTiling
open CacheBlend.PlannerModels CacheBlend.HybridLayout CacheBlend.ScatterSpans
open CacheBlend.TokenScatter CacheBlend.DataPlane CacheBlend.LayoutConstruction

/-- The spans hold consecutive runs of target positions, none of them empty. -/
def Tiles : ℕ → ℕ → List GroupTokenScatterSpan → Prop
  | start, stop, [] => start = stop
  | start, stop, span::rest => span.targetRange.start = start ∧
      start < span.targetRange.stop ∧ Tiles span.targetRange.stop stop rest

/-- `position_delta`. -/
def positionDelta (transfer : TokenTransfer) : ℤ :=
  (transfer.targetRange.start : ℤ)-transfer.sourceRange.start

def spanSlot (span : GroupTokenScatterSpan) (position : ℕ) : ℤ :=
  span.physicalSlotStart+((position : ℤ)-span.targetRange.start)

/-- The span lies in one block of the table, shifts every position by the
transfer's delta and gives it the table's slot. -/
structure Placed (table : GroupBlockTable) (transfer : TokenTransfer)
    (span : GroupTokenScatterSpan) : Prop where
  one_block : ∀ position, Holds span.targetRange position →
    position/table.blockSize = span.targetRange.start/table.blockSize
  shifted_start : (span.targetRange.start : ℤ)-span.sourceRange.start = positionDelta transfer
  shifted_stop : (span.targetRange.stop : ℤ)-span.sourceRange.stop = positionDelta transfer
  slots : ∀ position, Holds span.targetRange position →
    ∃ blockId : ℕ, table.blockIds[position/table.blockSize]? = some (some blockId) ∧
      spanSlot span position = blockId*table.blockSize+(position%table.blockSize : ℕ)

/-! ## The spans of a group -/

section
variable {group : CacheGroupLayout} {table : GroupBlockTable} {transfer : TokenTransfer}
  {spans : List GroupTokenScatterSpan}

theorem scatterFrom_tiles (fuel cursor : ℕ) (hle : cursor ≤ transfer.targetRange.stop)
    (h : scatterFrom group table transfer fuel cursor = some spans) :
    Tiles cursor transfer.targetRange.stop spans := by
  induction fuel generalizing cursor spans with
  | zero =>
    unfold scatterFrom at h
    split_ifs at h with hlt
    cases h
    show cursor = _
    omega
  | succ fuel ih =>
    unfold scatterFrom at h
    split_ifs at h with hlt
    · split at h
      next blockId hb =>
        obtain ⟨rest, hrest, he⟩ := Option.bind_eq_some_iff.mp h
        cases he
        have hpos : 0 < runLength group transfer cursor := runLength_pos hlt
        have hrun : runLength group transfer cursor ≤ transfer.targetRange.stop-cursor :=
          Nat.min_le_left _ _
        have hnext : cursor < cursor+runLength group transfer cursor := by omega
        have hstop : cursor+runLength group transfer cursor ≤ transfer.targetRange.stop := by
          omega
        exact ⟨rfl, hnext, ih _ hstop hrest⟩
      next => cases h
    · cases h
      show cursor = _
      omega

theorem scatterGroup_tiles (h : scatterGroup group table transfer = some spans) :
    Tiles transfer.targetRange.start transfer.targetRange.stop spans :=
  scatterFrom_tiles _ _ transfer.targetRange.ordered h

theorem tiles_bounds {start stop : ℕ} (h : Tiles start stop spans) :
    start ≤ stop ∧ ∀ span ∈ spans, start ≤ span.targetRange.start ∧
      span.targetRange.stop ≤ stop := by
  induction spans generalizing start with
  | nil => exact ⟨le_of_eq h, fun _ hm => absurd hm List.not_mem_nil⟩
  | cons span rest ih =>
    obtain ⟨hs, hlt, hrest⟩ := h
    obtain ⟨hle, hall⟩ := ih hrest
    refine ⟨by omega, fun span' hm => ?_⟩
    obtain rfl | hm := List.mem_cons.mp hm
    · exact ⟨hs.ge, hle⟩
    · have hin := hall span' hm
      omega

theorem tiles_nonempty {start stop : ℕ} (h : Tiles start stop spans) :
    ∀ span ∈ spans, span.targetRange.start < span.targetRange.stop := by
  induction spans generalizing start with
  | nil => exact fun _ hm => absurd hm List.not_mem_nil
  | cons span rest ih =>
    obtain ⟨hs, hlt, hrest⟩ := h
    intro span' hm
    obtain rfl | hm := List.mem_cons.mp hm
    · omega
    · exact ih hrest span' hm

theorem tiles_pairwise {start stop : ℕ} (h : Tiles start stop spans) :
    spans.Pairwise (fun span span' => span.targetRange.stop ≤ span'.targetRange.start) := by
  induction spans generalizing start with
  | nil => exact .nil
  | cons span rest ih =>
    obtain ⟨_, _, hrest⟩ := h
    exact List.pairwise_cons.mpr ⟨fun span' hm => ((tiles_bounds hrest).2 span' hm).1, ih hrest⟩

theorem scatterGroup_placed (hs : table.blockSize = group.blockSize)
    (h : scatterGroup group table transfer = some spans) {span : GroupTokenScatterSpan}
    (hm : span ∈ spans) : Placed table transfer span := by
  obtain ⟨start, blockId, hl, hr, hb, rfl, _⟩ := mem_scatterFrom _ _ h span hm
  have hsource : transfer.sourcePosition start =
      transfer.sourceRange.start+(start-transfer.targetRange.start) := by
    unfold TokenTransfer.sourcePosition
    omega
  refine ⟨fun position hp => ?_, ?_, ?_, fun position hp => ?_⟩
  · rw [hs]
    exact (run_block hp.1 hp.2).1
  · show (start : ℤ)-(transfer.sourcePosition start : ℕ) = _
    rw [hsource]
    unfold positionDelta
    omega
  · show ((start+runLength group transfer start : ℕ) : ℤ)-
      ((transfer.sourcePosition start+runLength group transfer start : ℕ) : ℤ) = _
    rw [hsource]
    unfold positionDelta
    omega
  · obtain ⟨hle, hlt⟩ := hp
    change start ≤ position at hle
    change position < start+runLength group transfer start at hlt
    obtain ⟨hq, ho⟩ := run_block hle hlt
    refine ⟨blockId, by rw [hs, hq, hb], ?_⟩
    rw [hs, ho]
    show ((blockId*group.blockSize+start%group.blockSize : ℕ) : ℤ)+((position : ℤ)-start) = _
    push_cast [hle]
    ring

theorem slots_distinct (hd : DistinctBlocks table) {transfer' : TokenTransfer}
    {span span' : GroupTokenScatterSpan} (h : Placed table transfer span)
    (h' : Placed table transfer' span') (position position' : ℕ)
    (hp : Holds span.targetRange position) (hp' : Holds span'.targetRange position')
    (he : spanSlot span position = spanSlot span' position') : position = position' := by
  obtain ⟨blockId, hb, hslot⟩ := h.slots position hp
  obtain ⟨blockId', hb', hslot'⟩ := h'.slots position' hp'
  rw [hslot, hslot'] at he
  have hnat : blockId*table.blockSize+position%table.blockSize =
      blockId'*table.blockSize+position'%table.blockSize := by exact_mod_cast he
  have hlt := Nat.mod_lt position table.block_positive
  have hlt' := Nat.mod_lt position' table.block_positive
  have hblock : blockId = blockId' := by
    have hdiv := congrArg (·/table.blockSize) hnat
    simp only [Nat.mul_comm _ table.blockSize, Nat.mul_add_div table.block_positive,
      Nat.div_eq_of_lt hlt, Nat.div_eq_of_lt hlt', Nat.add_zero] at hdiv
    exact hdiv
  have hoffset : position%table.blockSize = position'%table.blockSize := by
    rw [hblock] at hnat
    exact Nat.add_left_cancel hnat
  exact slotOf_injective hd (slotOf_some.mpr ⟨hb, rfl⟩)
    (slotOf_some.mpr ⟨hblock ▸ hb', hoffset⟩)

end

/-! ## The spans of a layer -/

theorem filter_part {α β : Type} (xs : List α) (f : α → List β) (p : α → Prop)
    [DecidablePred p] (q : β → Prop) [DecidablePred q] (x : α) (hx : x ∈ xs)
    (hq : ∀ a ∈ xs, ∀ b ∈ f a, q b ↔ p a) (hp : ∀ a ∈ xs, p a ↔ a = x) (hn : xs.Nodup) :
    (xs.flatMap f).filter (fun b => q b) = f x := by
  induction xs with
  | nil => exact absurd hx List.not_mem_nil
  | cons a xs ih =>
    obtain ⟨ha, hn⟩ := List.nodup_cons.mp hn
    have hhead : ∀ b ∈ f a, q b ↔ a = x := fun b hb =>
      (hq a List.mem_cons_self b hb).trans (hp a List.mem_cons_self)
    rw [List.flatMap_cons, List.filter_append]
    obtain rfl | hx := List.mem_cons.mp hx
    · have hrest : (xs.flatMap f).filter (fun b => q b) = [] := by
        rw [List.filter_eq_nil_iff]
        intro b hb hqb
        obtain ⟨a, hm, hb⟩ := List.mem_flatMap.mp hb
        have hpa := (hq a (List.mem_cons_of_mem _ hm) b hb).mp (of_decide_eq_true hqb)
        exact ha ((hp a (List.mem_cons_of_mem _ hm)).mp hpa ▸ hm)
      rw [hrest, List.append_nil, List.filter_eq_self.mpr]
      exact fun b hb => decide_eq_true ((hhead b hb).mpr rfl)
    · have hnone : (f a).filter (fun b => q b) = [] := by
        rw [List.filter_eq_nil_iff]
        intro b hb hqb
        exact ha ((hhead b hb).mp (of_decide_eq_true hqb) ▸ hx)
      rw [hnone, List.nil_append]
      exact ih hx (fun a hm => hq a (List.mem_cons_of_mem _ hm))
        (fun a hm => hp a (List.mem_cons_of_mem _ hm)) hn

section
variable {layout : LayeredCacheLayout} {tables : List GroupBlockTable}
  {transfer : TokenTransfer} {plan : TokenScatterPlan}

theorem layers_nodup : layout.layers.Nodup := by
  have hn : (layout.layers.map AttentionLayerLayout.layerIndex).Nodup :=
    layout.indexes ▸ List.nodup_range
  exact hn.of_map

def spansAt (plan : TokenScatterPlan) (layer : AttentionLayerLayout) :
    List LayerTokenScatterSpan :=
  plan.layerSpans.filter (fun span => span.layerIndex = layer.layerIndex)

theorem planned_at (h : planTokenScatter layout tables transfer = .ok plan)
    {layer : AttentionLayerLayout} (hl : layer ∈ layout.layers) :
    ∃ group ∈ layout.groups, ∃ table ∈ tables, ∃ spans,
      layer = attentionLayer group layer.layerName layer.layerIndex ∧
      tableOf tables layer = some table ∧ table.blockSize = group.blockSize ∧
      scatterGroup group table transfer = some spans ∧
      spansAt plan layer = spans.map (layerSpan layer) := by
  obtain ⟨spansOf, hspans, hgroups⟩ := planned_groups h
  obtain ⟨group, hg, table, ht, hlayer, htable, hsize, hscatter⟩ := hgroups layer hl
  refine ⟨group, hg, table, ht, spansOf layer, hlayer, htable, hsize, hscatter, ?_⟩
  unfold spansAt
  rw [hspans]
  refine filter_part layout.layers (fun layer => (spansOf layer).map (layerSpan layer))
    (fun layer' => layer'.layerIndex = layer.layerIndex) _ layer hl (fun layer' _ span hm => ?_)
    (fun layer' hl' => ⟨fun he => ExactScatters.layer_of_index hl' hl he, fun he => he ▸ rfl⟩) layers_nodup
  obtain ⟨_, _, rfl⟩ := List.mem_map.mp hm
  exact Int.ofNat_inj

/-- The spans of a layer tile the target, each placed by the layer's table. -/
structure LayerTiled (table : GroupBlockTable) (transfer : TokenTransfer)
    (spans : List LayerTokenScatterSpan) : Prop where
  tiles : Tiles transfer.targetRange.start transfer.targetRange.stop
    (spans.map LayerTokenScatterSpan.groupSpan)
  placed : ∀ span ∈ spans, Placed table transfer span.groupSpan

theorem map_groupSpan (layer : AttentionLayerLayout) (spans : List GroupTokenScatterSpan) :
    (spans.map (layerSpan layer)).map LayerTokenScatterSpan.groupSpan = spans := by
  rw [List.map_map]
  exact List.map_id spans

theorem planned_tiled (h : planTokenScatter layout tables transfer = .ok plan)
    {layer : AttentionLayerLayout} (hl : layer ∈ layout.layers) :
    ∃ table ∈ tables, tableOf tables layer = some table ∧
      LayerTiled table transfer (spansAt plan layer) := by
  obtain ⟨group, _, table, ht, spans, _, htable, hsize, hscatter, hat⟩ := planned_at h hl
  refine ⟨table, ht, htable, ?_, fun span hm => ?_⟩
  · rw [hat, map_groupSpan]
    exact scatterGroup_tiles hscatter
  · rw [hat] at hm
    obtain ⟨groupSpan, hgs, rfl⟩ := List.mem_map.mp hm
    exact scatterGroup_placed hsize hscatter hgs

theorem refused_by_layout {e : ScatterPlanError}
    (h : planTokenScatter layout tables transfer = .error e) : ∃ code, e = .layout code := by
  cases hv : validatedTables layout tables transfer with
  | ok validated =>
    obtain ⟨plan, hp⟩ := planTokenScatter_total hv
    rw [h] at hp
    cases hp
  | error code =>
    unfold planTokenScatter at h
    rw [hv] at h
    cases h
    exact ⟨code, rfl⟩

end

/-! ## The checks of the data plane on one span -/

theorem setDefault_get? {ν : Type} {d : Dict ℤ ν} {k k' : ℤ} {v w : ν}
    (h : (setDefault d k v).get? k' = some w) : d.get? k' = some w ∨ k' = k ∧ w = v := by
  unfold setDefault at h
  split_ifs at h with hk
  · exact Or.inl h
  · rw [Dict.get?_set] at h
    split_ifs at h with he
    · exact Or.inr ⟨he, (Option.some.inj h).symm⟩
    · exact Or.inl h

theorem setDefault_keys {ν : Type} (d : Dict ℤ ν) (k k' : ℤ) (v : ν) :
    k' ∈ (setDefault d k v).keys ↔ k' = k ∨ k' ∈ d.keys := by
  unfold setDefault
  split_ifs with hk
  · constructor
    · exact Or.inr
    · rintro (rfl | h)
      · obtain ⟨w, hw⟩ := Option.isSome_iff_exists.mp hk
        exact (Dict.mem_keys _ _).mpr ⟨w, hw⟩
      · exact h
  · rw [Dict.mem_keys_set]

/-- What was seen of the groups agrees with the layout. -/
structure SeenOf (layout : LayeredCacheLayout) (seen : GroupsSeen) : Prop where
  kinds : ∀ k kind, seen.groupKind.get? k = some kind →
    ∃ group ∈ layout.groups, (group.groupId : ℤ) = k ∧ kind = group.attentionKind
  sizes : ∀ k size, seen.groupBlockSize.get? k = some size →
    ∃ group ∈ layout.groups, (group.groupId : ℤ) = k ∧ size = group.blockSize

/-- A run of the transfer in a layer of a group. -/
structure RunSpan (layout : LayeredCacheLayout) (transfer : TokenTransfer)
    (layer : AttentionLayerLayout) (group : CacheGroupLayout) (start : ℕ) : Prop where
  layer_mem : layer ∈ layout.layers
  group_mem : group ∈ layout.groups
  layer_eq : layer = attentionLayer group layer.layerName layer.layerIndex
  in_target : transfer.targetRange.start ≤ start ∧ start < transfer.targetRange.stop

section
variable {layout : LayeredCacheLayout} {tables : List GroupBlockTable}
  {transfer : TokenTransfer} {plan : TokenScatterPlan}

theorem planned_run (h : planTokenScatter layout tables transfer = .ok plan)
    {span : LayerTokenScatterSpan} (hm : span ∈ plan.layerSpans) :
    ∃ layer group start blockId, RunSpan layout transfer layer group start ∧
      span = layerSpan layer (blockSpan group transfer start blockId) := by
  obtain ⟨spansOf, hspans, hgroups⟩ := planned_groups h
  rw [hspans] at hm
  obtain ⟨layer, hl, hm⟩ := List.mem_flatMap.mp hm
  obtain ⟨groupSpan, hgs, rfl⟩ := List.mem_map.mp hm
  obtain ⟨group, hg, table, _, hlayer, _, _, hscatter⟩ := hgroups layer hl
  obtain ⟨start, blockId, hs, ht, _, rfl, _⟩ := mem_scatterFrom _ _ hscatter groupSpan hgs
  exact ⟨layer, group, start, blockId, ⟨hl, hg, hlayer, hs, ht⟩, rfl⟩

theorem group_id_bounded {group : CacheGroupLayout} (h : group ∈ layout.groups) :
    group.groupId = 0 ∨ group.groupId = 1 := by
  have hm : group.groupId ∈ List.range gptOssNumCacheGroups :=
    layout.ids.mem_iff.mp (List.mem_map_of_mem h)
  have hlt : group.groupId < 2 := List.mem_range.mp hm
  omega

theorem layer_index_lt {layer : AttentionLayerLayout} (h : layer ∈ layout.layers) :
    layer.layerIndex < gptOssNumLayers := by
  have hm : layer.layerIndex ∈ List.range gptOssNumLayers :=
    layout.indexes ▸ List.mem_map_of_mem h
  exact List.mem_range.mp hm

theorem checkSpan_run {layer : AttentionLayerLayout} {group : CacheGroupLayout}
    {start : ℕ} (blockId : ℕ) (hr : RunSpan layout transfer layer group start)
    (hname : layer.layerName = layerName layer.layerIndex) {seen : GroupsSeen}
    (hs : SeenOf layout seen) :
    ∃ seen', checkSpan seen (layerSpan layer (blockSpan group transfer start blockId)) =
        .ok seen' ∧ SeenOf layout seen' ∧
      ∀ k, k ∈ seen'.groupKind.keys ↔ k = (group.groupId : ℤ) ∨ k ∈ seen.groupKind.keys := by
  obtain ⟨hstart, hstop⟩ := hr.in_target
  have hpos : 0 < runLength group transfer start := runLength_pos hstop
  have hrun : start+runLength group transfer start ≤ transfer.targetRange.stop := by
    unfold runLength
    omega
  have hblock : start%group.blockSize+runLength group transfer start ≤ group.blockSize := by
    have hm := Nat.mod_lt start group.block_positive
    unfold runLength
    omega
  have hsource : transfer.sourcePosition start+runLength group transfer start ≤
      transfer.sourceRange.stop := by
    have hsize := transfer.size_eq
    have ho := transfer.sourceRange.ordered
    unfold TokenRange.size at hsize
    unfold TokenTransfer.sourcePosition
    omega
  have hkind : group.attentionKind = layer.attentionKind := by
    rw [hr.layer_eq]
    rfl
  have hsame : ∀ group' ∈ layout.groups, (group'.groupId : ℤ) = group.groupId →
      group' = group := fun group' hg' he =>
    group_unique layout.toGptOssHybridCacheLayout hg' hr.group_mem (Int.ofNat_inj.mp he)
  refine ⟨⟨setDefault seen.groupKind group.groupId group.attentionKind,
    setDefault seen.groupBlockSize group.groupId group.blockSize⟩, ?_, ⟨?_, ?_⟩, ?_⟩
  · unfold checkSpan
    refine (require_then_iff _ _ _ _).mpr ⟨?_, ?_⟩
    · have hid := group_id_bounded hr.group_mem
      have hbs := group.block_positive
      have hsb := transfer.source_bounded
      have htb := transfer.target_bounded
      simp only [layerSpan, blockSpan, TokenRange.size]
      exact ⟨by omega, Int.natCast_nonneg _, Int.natCast_nonneg _, by exact_mod_cast hbs,
        Int.natCast_nonneg _, Int.natCast_nonneg _, by omega, by omega, by omega, by omega⟩
    refine (require_then_iff _ _ _ _).mpr ⟨⟨hname, Int.natCast_nonneg _,
      Int.ofNat_lt.mpr (layer_index_lt hr.layer_mem)⟩, ?_⟩
    refine (require_then_iff _ _ _ _).mpr ⟨?_, ?_⟩
    · exact hkind.trans (layout.kinds_eq layer hr.layer_mem)
    refine (require_then_iff _ _ _ _).mpr ⟨fun kind hk => ?_, ?_⟩
    · obtain ⟨group', hg', hid, rfl⟩ := hs.kinds _ _ hk
      rw [hsame group' hg' hid]
      rfl
    refine (require_then_iff _ _ _ _).mpr ⟨fun size hk => ?_, ?_⟩
    · obtain ⟨group', hg', hid, rfl⟩ := hs.sizes _ _ hk
      rw [hsame group' hg' hid]
      rfl
    refine (require_then_iff _ _ _ _).mpr ⟨?_, rfl⟩
    simp only [LayerTokenScatterSpan.tokenCount, LayerTokenScatterSpan.targetRange,
      LayerTokenScatterSpan.sourceRange, LayerTokenScatterSpan.physicalSlotStart, layerSpan,
      blockSpan, TokenRange.size]
    refine ⟨by omega, by omega, ?_, by push_cast; ring⟩
    rw [Nat.add_sub_cancel_left]
    exact_mod_cast hblock
  · intro k kind hk
    obtain hk | ⟨rfl, rfl⟩ := setDefault_get? hk
    · exact hs.kinds k kind hk
    · exact ⟨group, hr.group_mem, rfl, rfl⟩
  · intro k size hk
    obtain hk | ⟨rfl, rfl⟩ := setDefault_get? hk
    · exact hs.sizes k size hk
    · exact ⟨group, hr.group_mem, rfl, rfl⟩
  · exact fun k => setDefault_keys _ _ _ _

theorem checkSpans_run (spans : List LayerTokenScatterSpan)
    (hspans : ∀ span ∈ spans, ∃ layer group start blockId,
      RunSpan layout transfer layer group start ∧
        layer.layerName = layerName layer.layerIndex ∧
        span = layerSpan layer (blockSpan group transfer start blockId))
    (seen : GroupsSeen) (hs : SeenOf layout seen) :
    ∃ seen', spans.foldlM checkSpan seen = .ok seen' ∧ SeenOf layout seen' ∧
      ∀ k, k ∈ seen.groupKind.keys ∨ (∃ span ∈ spans, span.groupSpan.groupId = k) →
        k ∈ seen'.groupKind.keys := by
  induction spans generalizing seen with
  | nil =>
    refine ⟨seen, rfl, hs, fun k hk => hk.resolve_right ?_⟩
    rintro ⟨_, hm, _⟩
    exact List.not_mem_nil hm
  | cons span spans ih =>
    obtain ⟨layer, group, start, blockId, hr, hname, rfl⟩ := hspans span List.mem_cons_self
    obtain ⟨seen₁, h₁, hs₁, hkeys₁⟩ := checkSpan_run blockId hr hname hs
    obtain ⟨seen₂, h₂, hs₂, hkeys₂⟩ := ih (fun span hm => hspans span
      (List.mem_cons_of_mem _ hm)) seen₁ hs₁
    refine ⟨seen₂, ?_, hs₂, fun k hk => hkeys₂ k ?_⟩
    · rw [List.foldlM_cons]
      exact (checked_ok_iff _ _ _).mpr ⟨seen₁, h₁, h₂⟩
    · obtain hk | ⟨span, hm, rfl⟩ := hk
      · exact Or.inl ((hkeys₁ k).mpr (Or.inr hk))
      · obtain rfl | hm := List.mem_cons.mp hm
        · exact Or.inl ((hkeys₁ _).mpr (Or.inl rfl))
        · exact Or.inr ⟨span, hm, rfl⟩

/-! ## The coverage of a layer -/

theorem placed_slot {table : GroupBlockTable} {span : GroupTokenScatterSpan}
    (h : Placed table transfer span) (hne : span.targetRange.start < span.targetRange.stop) :
    0 ≤ span.physicalSlotStart := by
  obtain ⟨blockId, _, hslot⟩ := h.slots span.targetRange.start ⟨le_refl _, hne⟩
  unfold spanSlot at hslot
  have hnonneg : (0 : ℤ) ≤ blockId*table.blockSize+
      (span.targetRange.start%table.blockSize : ℕ) := by
    have hn := Int.natCast_nonneg (blockId*table.blockSize+
      span.targetRange.start%table.blockSize)
    push_cast at hn ⊢
    exact hn
  omega

theorem physical_apart {table : GroupBlockTable} (hd : DistinctBlocks table)
    {span span' : GroupTokenScatterSpan} (h : Placed table transfer span)
    (h' : Placed table transfer span') (layer : AttentionLayerLayout)
    (hne : span.targetRange.start < span.targetRange.stop)
    (hle : span.targetRange.stop ≤ span'.targetRange.start)
    (hne' : span'.targetRange.start < span'.targetRange.stop) :
    ¬(physicalRange (layerSpan layer span')).Overlaps (physicalRange (layerSpan layer span)) := by
  rintro ⟨hl, hr⟩
  have hslot := placed_slot h hne
  have hslot' := placed_slot h' hne'
  change span'.physicalSlotStart.toNat <
    span.physicalSlotStart.toNat+(span.targetRange.stop-span.targetRange.start) at hl
  change span.physicalSlotStart.toNat <
    span'.physicalSlotStart.toNat+(span'.targetRange.stop-span'.targetRange.start) at hr
  -- a common slot belongs to one position of each span
  have hcommon : ∃ slot : ℕ, span.physicalSlotStart.toNat ≤ slot ∧
      span'.physicalSlotStart.toNat ≤ slot ∧
      slot < span.physicalSlotStart.toNat+(span.targetRange.stop-span.targetRange.start) ∧
      slot < span'.physicalSlotStart.toNat+(span'.targetRange.stop-span'.targetRange.start) :=
    ⟨max span.physicalSlotStart.toNat span'.physicalSlotStart.toNat, by omega, by omega,
      by omega, by omega⟩
  obtain ⟨slot, h1, h2, h3, h4⟩ := hcommon
  have hsame := slots_distinct hd h h'
    (span.targetRange.start+(slot-span.physicalSlotStart.toNat))
    (span'.targetRange.start+(slot-span'.physicalSlotStart.toNat))
    ⟨by omega, by omega⟩ ⟨by omega, by omega⟩ (by
      unfold spanSlot
      omega)
  omega

theorem coverSpans_run {table : GroupBlockTable} (hd : DistinctBlocks table)
    (layer : AttentionLayerLayout) (spans : List GroupTokenScatterSpan) (c : LayerCoverage)
    (ht : Tiles c.target.stop transfer.targetRange.stop spans)
    (hplaced : ∀ span ∈ spans, Placed table transfer span)
    (hphysical : ∀ span ∈ spans, ∀ existing ∈ c.physical,
      ¬(physicalRange (layerSpan layer span)).Overlaps existing)
    (hstart : (c.target.start : ℤ)-c.source.start = positionDelta transfer)
    (hstop : (c.target.stop : ℤ)-c.source.stop = positionDelta transfer) :
    ∃ c', (spans.map (layerSpan layer)).foldlM coverSpan c = .ok c' ∧
      c'.source.start = c.source.start ∧ c'.target.start = c.target.start ∧
      c'.target.stop = transfer.targetRange.stop ∧
      (c'.target.stop : ℤ)-c'.source.stop = positionDelta transfer := by
  induction spans generalizing c with
  | nil => exact ⟨c, rfl, rfl, rfl, ht, hstop⟩
  | cons span spans ih =>
    obtain ⟨hs, hlt, hrest⟩ := ht
    have hp := hplaced span List.mem_cons_self
    have hshift := hp.shifted_start
    have hsource : span.sourceRange.start = c.source.stop := by omega
    have hnext : ∃ c₁, coverSpan c (layerSpan layer span) = .ok c₁ ∧
        c₁.source.start = c.source.start ∧ c₁.target.start = c.target.start ∧
        c₁.source.stop = span.sourceRange.stop ∧ c₁.target.stop = span.targetRange.stop ∧
        c₁.physical = c.physical ++ [physicalRange (layerSpan layer span)] := by
      unfold coverSpan
      rw [dif_pos ⟨hsource, hs⟩]
      refine ⟨_, (require_then_iff _ _ _ _).mpr ⟨?_, (require_then_iff _ _ _ _).mpr
        ⟨hphysical span List.mem_cons_self, rfl⟩⟩, rfl, rfl, rfl, rfl, rfl⟩
      exact hshift.trans hstart.symm
    obtain ⟨c₁, h₁, hss, hts, hse, hte, hph⟩ := hnext
    have hbounds := tiles_bounds hrest
    obtain ⟨c', h', hsource', htarget', hend, hdelta⟩ := ih c₁ (by rwa [hte])
      (fun span hm => hplaced span (List.mem_cons_of_mem _ hm))
      (fun span' hm existing he => by
        rw [hph] at he
        obtain he | he := List.mem_append.mp he
        · exact hphysical span' (List.mem_cons_of_mem _ hm) existing he
        · rw [List.mem_singleton.mp he]
          have hin := hbounds.2 span' hm
          have hne := tiles_nonempty hrest span' hm
          exact physical_apart hd hp (hplaced span' (List.mem_cons_of_mem _ hm)) layer
            (by omega) hin.1 hne)
      (by rw [hss, hts]; exact hstart)
      (by rw [hse, hte]; exact hp.shifted_stop)
    refine ⟨c', ?_, hsource'.trans hss, htarget'.trans hts, hend, hdelta⟩
    rw [List.map_cons, List.foldlM_cons]
    exact (checked_ok_iff _ _ _).mpr ⟨c₁, h₁, h'⟩

theorem spansOfLayer_at (h : planTokenScatter layout tables transfer = .ok plan)
    {layer : AttentionLayerLayout} (hl : layer ∈ layout.layers) :
    spansOfLayer plan.layerSpans layer.layerIndex = spansAt plan layer := by
  obtain ⟨_, _, htable, htiled⟩ := planned_tiled h hl
  refine sortedBy_eq_self _ _ ?_
  show (spansAt plan layer).Pairwise _
  have hp := tiles_pairwise htiled.tiles
  rw [List.pairwise_map] at hp
  exact hp.imp fun {span _} hle => span.targetRange.ordered.trans hle

theorem coverLayer_run (hd : ∀ table ∈ tables, DistinctBlocks table)
    (h : planTokenScatter layout tables transfer = .ok plan)
    {layer : AttentionLayerLayout} (hl : layer ∈ layout.layers) :
    ∃ c, coverLayer (spansOfLayer plan.layerSpans layer.layerIndex) = .ok c ∧
      c.source = transfer.sourceRange ∧ c.target = transfer.targetRange := by
  rw [spansOfLayer_at h hl]
  obtain ⟨group, _, table, ht, spans, _, _, hsize, hscatter, hat⟩ := planned_at h hl
  have htiles := scatterGroup_tiles hscatter
  have hplaced := fun span (hm : span ∈ spans) => scatterGroup_placed hsize hscatter hm
  rw [hat]
  cases spans with
  | nil =>
    have hne := transfer.target_nonempty
    unfold TokenRange.size at hne
    have he : transfer.targetRange.start = transfer.targetRange.stop := htiles
    omega
  | cons first rest =>
    have hfirst : first.targetRange.start = transfer.targetRange.start := htiles.1
    have hshift := (hplaced first List.mem_cons_self).shifted_start
    obtain ⟨c, hc, hs, hts, hte, hdelta⟩ := coverSpans_run (hd table ht) layer (first::rest)
      ⟨⟨first.sourceRange.start, first.sourceRange.start, le_refl _⟩,
        ⟨first.targetRange.start, first.targetRange.start, le_refl _⟩, []⟩
      (hfirst.symm ▸ htiles) hplaced (fun _ _ _ he => absurd he List.not_mem_nil) hshift hshift
    refine ⟨c, hc, ?_, ?_⟩
    · have hsize := transfer.size_eq
      have ho := transfer.sourceRange.ordered
      have ho' := transfer.targetRange.ordered
      unfold TokenRange.size at hsize
      unfold positionDelta at hshift hdelta
      rw [TokenRange.ext_iff', hs]
      dsimp only
      omega
    · rw [TokenRange.ext_iff', hts]
      exact ⟨hfirst, hte⟩

theorem orderLayers_run {spans : List LayerTokenScatterSpan} {ranges : TokenRange × TokenRange}
    (layers : List ℕ) (hlayers : ∀ i ∈ layers, ∃ c, coverLayer (spansOfLayer spans i) = .ok c ∧
      (c.source, c.target) = ranges) (canonical : Option (TokenRange × TokenRange))
    (hc : ∀ r ∈ canonical, ranges = r) (hne : layers ≠ [] ∨ canonical = some ranges) :
    ∃ ordered, orderLayers spans canonical layers = .ok (some ranges, ordered) := by
  induction layers generalizing canonical with
  | nil => exact ⟨[], by rw [orderLayers, hne.resolve_left (fun h => h rfl)]⟩
  | cons i layers ih =>
    obtain ⟨c, hcover, he⟩ := hlayers i List.mem_cons_self
    obtain ⟨ordered, ho⟩ := ih (fun j hj => hlayers j (List.mem_cons_of_mem _ hj))
      (some ranges) (fun r hr => by cases hr; rfl) (Or.inr rfl)
    refine ⟨spansOfLayer spans i ++ ordered, (checked_ok_iff _ _ _).mpr ⟨c, hcover, ?_⟩⟩
    refine (require_then_iff _ _ _ _).mpr ⟨fun r hr => he.trans (hc r hr), ?_⟩
    rw [he]
    exact (checked_ok_iff _ _ _).mpr ⟨_, ho, rfl⟩

theorem layer_span (h : planTokenScatter layout tables transfer = .ok plan)
    {layer : AttentionLayerLayout} (hl : layer ∈ layout.layers) :
    ∃ span ∈ plan.layerSpans, span.layerName = layer.layerName ∧
      span.layerIndex = layer.layerIndex ∧ span.groupSpan.groupId = layer.groupId := by
  obtain ⟨group, _, table, _, spans, hlayer, _, _, hscatter, hat⟩ := planned_at h hl
  have hlt : transfer.targetRange.start < transfer.targetRange.stop := by
    have hne := transfer.target_nonempty
    unfold TokenRange.size at hne
    omega
  have hfirst : Holds transfer.targetRange transfer.targetRange.start := ⟨le_refl _, hlt⟩
  obtain ⟨groupSpan, hgs, _⟩ := scatterGroup_covers hscatter hfirst
  have hm : layerSpan layer groupSpan ∈ spansAt plan layer := hat ▸ List.mem_map_of_mem hgs
  obtain ⟨start, blockId, _, _, _, rfl, _⟩ := mem_scatterFrom _ _ hscatter groupSpan hgs
  refine ⟨_, (List.mem_filter.mp hm).1, rfl, rfl, ?_⟩
  rw [hlayer]
  rfl

theorem layer_at (layout : LayeredCacheLayout) (i : ℕ) (hi : i < gptOssNumLayers) :
    ∃ layer ∈ layout.layers, layer.layerIndex = i := by
  have hm : i ∈ layout.layers.map AttentionLayerLayout.layerIndex :=
    layout.indexes ▸ List.mem_range.mpr hi
  exact List.mem_map.mp hm

theorem validateSpans_run (hnames : ∀ layer ∈ layout.layers,
      layer.layerName = layerName layer.layerIndex)
    (hd : ∀ table ∈ tables, DistinctBlocks table)
    (h : planTokenScatter layout tables transfer = .ok plan) :
    ∃ v, validateSpans plan.layerSpans = .ok v ∧ v.sourceRange = transfer.sourceRange ∧
      v.targetRange = transfer.targetRange := by
  obtain ⟨even, heven, hie⟩ := layer_at layout 0 (by decide)
  obtain ⟨odd, hodd, hio⟩ := layer_at layout 1 (by decide)
  obtain ⟨span, hm, _, _, hes⟩ := layer_span h heven
  obtain ⟨span', hm', _, _, hos⟩ := layer_span h hodd
  obtain ⟨ge, hge, _, heq⟩ := layout.of_groups even heven
  obtain ⟨go, hgo, _, hoq⟩ := layout.of_groups odd hodd
  have hke : ge.attentionKind = .sliding := by
    have hk := layout.kinds_eq even heven
    rw [heq] at hk
    rw [hie] at hk
    exact hk
  have hko : go.attentionKind = .full := by
    have hk := layout.kinds_eq odd hodd
    rw [hoq] at hk
    rw [hio] at hk
    exact hk
  have hide : even.groupId = ge.groupId := by rw [heq]; rfl
  have hido : odd.groupId = go.groupId := by rw [hoq]; rfl
  obtain ⟨seen, hseen, hagrees, hkeys⟩ := checkSpans_run plan.layerSpans (fun span hm => by
      obtain ⟨layer, group, start, blockId, hr, he⟩ := planned_run h hm
      exact ⟨layer, group, start, blockId, hr, hnames layer hr.layer_mem, he⟩)
    ⟨Dict.empty, Dict.empty⟩
    ⟨fun _ _ hk => (nomatch hk), fun _ _ hk => (nomatch hk)⟩
  have hekey : (ge.groupId : ℤ) ∈ seen.groupKind.keys := by
    refine hkeys _ (Or.inr ⟨span, hm, ?_⟩)
    rw [hes, hide]
  have hokey : (go.groupId : ℤ) ∈ seen.groupKind.keys := by
    refine hkeys _ (Or.inr ⟨span', hm', ?_⟩)
    rw [hos, hido]
  -- the entry of a group that was seen is its kind
  have hentry : ∀ group ∈ layout.groups, (group.groupId : ℤ) ∈ seen.groupKind.keys →
      group.attentionKind ∈ seen.groupKind.entries.map Prod.snd := by
    intro group hg hk
    obtain ⟨kind, hkind⟩ := (Dict.mem_keys _ _).mp hk
    obtain ⟨group', hg', hid, rfl⟩ := hagrees.kinds _ _ hkind
    obtain rfl := group_unique layout.toGptOssHybridCacheLayout hg' hg (Int.ofNat_inj.mp hid)
    exact List.mem_map.mpr ⟨_, (Dict.get?_iff _ _ _).mp hkind, rfl⟩
  have hne : ge.groupId ≠ go.groupId := by
    intro he
    rw [group_unique layout.toGptOssHybridCacheLayout hge hgo he, hko] at hke
    cases hke
  have hlayers : ∀ i ∈ List.range gptOssNumLayers, ∃ c,
      coverLayer (spansOfLayer plan.layerSpans i) = .ok c ∧
        (c.source, c.target) = (transfer.sourceRange, transfer.targetRange) := by
    intro i hi
    obtain ⟨layer, hl, rfl⟩ := layer_at layout i (List.mem_range.mp hi)
    obtain ⟨c, hc, hs, ht⟩ := coverLayer_run hd h hl
    exact ⟨c, hc, by rw [hs, ht]⟩
  obtain ⟨ordered, ho⟩ := orderLayers_run (List.range gptOssNumLayers) hlayers
    none (fun _ hr => nomatch hr) (Or.inl (by decide))
  refine ⟨⟨ordered, transfer.sourceRange, transfer.targetRange,
    (List.range gptOssNumLayers).map (fun layerIndex => layerName layerIndex)⟩, ?_, rfl, rfl⟩
  · unfold validateSpans
    refine (require_then_iff _ _ _ _).mpr ⟨List.ne_nil_of_mem hm, ?_⟩
    refine (checked_ok_iff _ _ _).mpr ⟨seen, hseen, ?_⟩
    refine (require_then_iff _ _ _ _).mpr ⟨fun i hi => ?_, ?_⟩
    · obtain ⟨layer, hl, rfl⟩ := layer_at layout i (List.mem_range.mp hi)
      obtain ⟨s, hs, _, hindex, _⟩ := layer_span h hl
      exact ⟨s, hs, hindex⟩
    refine (require_then_iff _ _ _ _).mpr ⟨⟨fun k hk => ?_, ?_, ?_, ?_, ?_⟩, ?_⟩
    · obtain ⟨kind, hkind⟩ := (Dict.mem_keys _ _).mp hk
      obtain ⟨group, hg, rfl, _⟩ := hagrees.kinds _ _ hkind
      have hid := group_id_bounded hg
      omega
    · obtain h0 | h0 := group_id_bounded hge
      · rwa [h0] at hekey
      · obtain h1 | h1 := group_id_bounded hgo
        · rwa [h1] at hokey
        · exact absurd (h0.trans h1.symm) hne
    · obtain h0 | h0 := group_id_bounded hge
      · obtain h1 | h1 := group_id_bounded hgo
        · exact absurd (h0.trans h1.symm) hne
        · rwa [h1] at hokey
      · rwa [h0] at hekey
    · exact hke ▸ hentry ge hge hekey
    · exact hko ▸ hentry go hgo hokey
    refine (checked_ok_iff _ _ _).mpr ⟨_, ho, rfl⟩

theorem validated_names {spans : List LayerTokenScatterSpan} {v : ValidatedSpans}
    (h : validateSpans spans = .ok v) {span : LayerTokenScatterSpan} (hm : span ∈ spans) :
    span.layerName = layerName span.layerIndex := by
  unfold validateSpans at h
  obtain ⟨_, h⟩ := (require_then_iff _ _ _ _).mp h
  obtain ⟨seen, hseen, _⟩ := (checked_ok_iff _ _ _).mp h
  obtain ⟨_, _, hspan⟩ := foldlM_each _ _ _ _ hseen hm
  unfold checkSpan at hspan
  obtain ⟨_, hspan⟩ := (require_then_iff _ _ _ _).mp hspan
  exact ((require_then_iff _ _ _ _).mp hspan).1.1

end

/-! ## When every plan is accepted -/

/-- What holds of every plan of a layout: a plan is refused as a whole, or the
spans of each layer tile the transfer, distinct blocks give the positions of
any transfers distinct slots, and the data plane accepts plans of distinct
blocks with the ranges of their transfer. -/
structure TilesExactly (layout : LayeredCacheLayout) : Prop where
  refused : ∀ tables transfer e, planTokenScatter layout tables transfer = .error e →
    ∃ code, e = .layout code
  tiled : ∀ tables transfer plan, planTokenScatter layout tables transfer = .ok plan →
    ∀ layer ∈ layout.layers, ∃ table ∈ tables, tableOf tables layer = some table ∧
      LayerTiled table transfer (spansAt plan layer)
  distinct : ∀ tables transfer transfer' plan plan',
    planTokenScatter layout tables transfer = .ok plan →
    planTokenScatter layout tables transfer' = .ok plan' →
    ∀ layer ∈ layout.layers, ∀ table, tableOf tables layer = some table →
      DistinctBlocks table → ∀ span ∈ spansAt plan layer, ∀ span' ∈ spansAt plan' layer,
      ∀ position position', Holds span.targetRange position →
        Holds span'.targetRange position' → position ≠ position' →
        spanSlot span.groupSpan position ≠ spanSlot span'.groupSpan position'
  accepted : ∀ tables transfer plan, planTokenScatter layout tables transfer = .ok plan →
    (∀ table ∈ tables, DistinctBlocks table) →
    ∃ v, validateSpans plan.layerSpans = .ok v ∧ v.sourceRange = transfer.sourceRange ∧
      v.targetRange = transfer.targetRange

def firstToken : TokenTransfer where
  sourceRange := ⟨0, 1, first_ordered⟩
  targetRange := ⟨0, 1, first_ordered⟩
  target_nonempty := by decide
  size_eq := by decide
  source_bounded := by decide
  target_bounded := by decide

def firstBlocks (layout : LayeredCacheLayout) : List GroupBlockTable :=
  layout.groups.map (fun group => ⟨group.groupId, group.blockSize, [some 0],
    group.block_positive, by decide⟩)

theorem first_token_planned (layout : LayeredCacheLayout) :
    (∀ table ∈ firstBlocks layout, DistinctBlocks table) ∧
      ∃ plan, planTokenScatter layout (firstBlocks layout) firstToken = .ok plan := by
  have hids : (firstBlocks layout).map GroupBlockTable.groupId =
      layout.groups.map CacheGroupLayout.groupId := by
    unfold firstBlocks
    rw [List.map_map]
    rfl
  have hn : ((firstBlocks layout).map GroupBlockTable.groupId).Nodup := by
    rw [hids]
    exact layout.ids.nodup_iff.mpr List.nodup_range
  constructor
  · intro table hm
    obtain ⟨group, _, rfl⟩ := List.mem_map.mp hm
    exact List.pairwise_singleton _ _
  have hexpected : ∀ table ∈ firstBlocks layout, ∃ group ∈ layout.groups,
      group.groupId = table.groupId := by
    intro table hm
    obtain ⟨group, hg, rfl⟩ := List.mem_map.mp hm
    exact ⟨group, hg, rfl⟩
  have hcomplete : ∀ group ∈ layout.groups, ∃ table ∈ firstBlocks layout,
      table.groupId = group.groupId :=
    fun group hg => ⟨_, List.mem_map.mpr ⟨group, hg, rfl⟩, rfl⟩
  have hvalid : ∃ validated, validatedTables layout (firstBlocks layout) firstToken =
      .ok validated := by
    unfold validatedTables
    rw [require_of _ hn, require_of _ hexpected, require_of _ hcomplete]
    show ∃ validated, List.mapM _ _ = Except.ok validated
    apply mapM_returns_of
    intro group hg
    have hgroup := (mem_sortedBy CacheGroupLayout.groupId _ _).mp hg
    have hm : (⟨group.groupId, group.blockSize, [some 0], group.block_positive, by decide⟩ :
        GroupBlockTable) ∈ firstBlocks layout := List.mem_map.mpr ⟨group, hgroup, rfl⟩
    split
    next table hf =>
      have hid : table.groupId = group.groupId := by simpa using List.find?_some hf
      obtain rfl := List.inj_on_of_nodup_map hn (List.mem_of_find?_eq_some hf) hm hid
      have hlast : lastBlock group firstToken = 0 := Nat.zero_div _
      have hfirst : firstBlock group firstToken = 0 := Nat.zero_div _
      refine ⟨_, (require_then_iff _ _ _ _).mpr ⟨rfl, (require_then_iff _ _ _ _).mpr ⟨?_,
        (require_then_iff _ _ _ _).mpr ⟨?_, rfl⟩⟩⟩⟩
      · rw [hlast]
        exact Nat.one_pos
      · unfold touchedBlocks
        rw [hlast, hfirst]
        simp
    next hf => exact absurd (by simp) (List.find?_eq_none.mp hf _ hm)
  obtain ⟨validated, hv⟩ := hvalid
  exact planTokenScatter_total hv

theorem accepted_names {layout : LayeredCacheLayout} (h : TilesExactly layout)
    {layer : AttentionLayerLayout} (hl : layer ∈ layout.layers) :
    layer.layerName = layerName layer.layerIndex := by
  obtain ⟨hd, plan, hp⟩ := first_token_planned layout
  obtain ⟨v, hv, _⟩ := h.accepted _ _ _ hp hd
  obtain ⟨span, hm, hname, hindex, _⟩ := layer_span hp hl
  have hcanonical := validated_names hv hm
  rwa [hname, hindex] at hcanonical

/-- Plans of a constructed layout tile their transfers, and the data plane
accepts all those of distinct blocks exactly when the layer names are ASCII. -/
theorem plans_tile_iff (layout : LayeredCacheLayout)
    (hv : postInit layout.groups = .ok layout.layers) :
    TilesExactly layout ↔ ∀ layer ∈ layout.layers, asciiName layer.layerName := by
  constructor
  · intro h layer hl
    exact (extract_ascii (postInit_extracts hv hl)).mpr (accepted_names h hl)
  · intro hascii
    have hnames : ∀ layer ∈ layout.layers, layer.layerName = layerName layer.layerIndex :=
      fun layer hl => (extract_ascii (postInit_extracts hv hl)).mp (hascii layer hl)
    refine ⟨fun _ _ _ h => refused_by_layout h, fun _ _ _ h layer hl => planned_tiled h hl,
      ?_, fun _ _ _ h hd => validateSpans_run hnames hd h⟩
    intro tables transfer transfer' plan plan' h h' layer hl table htable hd span hm span' hm'
      position position' hp hp' hne he
    obtain ⟨found, _, hfound, htiled⟩ := planned_tiled h hl
    obtain ⟨found', _, hfound', htiled'⟩ := planned_tiled h' hl
    cases htable.symm.trans hfound
    cases htable.symm.trans hfound'
    exact hne (slots_distinct hd (htiled.placed span hm) (htiled'.placed span' hm') _ _ hp hp' he)

theorem constructed_of_returns (groups : List HybridLayout.CacheGroupLayout)
    (h : (postInit groups).toOption.isSome = true) :
    ∃ layout : LayeredCacheLayout, layout.groups = groups ∧
      postInit layout.groups = .ok layout.layers := by
  obtain ⟨layers, hlayers⟩ := Option.isSome_iff_exists.mp h
  have hp := toOption_some hlayers
  obtain ⟨layout, rfl, rfl⟩ := constructed hp
  exact ⟨layout, rfl, hp⟩

theorem alternating_groups_tile : ∃ layout : LayeredCacheLayout,
    layout.groups = [ExactScatters.slidingGroup, ExactScatters.fullGroup] ∧
      TilesExactly layout := by
  obtain ⟨layout, hg, hv⟩ := constructed_of_returns
    [ExactScatters.slidingGroup, ExactScatters.fullGroup] (by decide +kernel)
  refine ⟨layout, hg, (plans_tile_iff layout hv).mpr fun layer hl => ?_⟩
  obtain ⟨group, hm, hn, _⟩ := layout.of_groups layer hl
  have hnames : ∀ group ∈ [ExactScatters.slidingGroup, ExactScatters.fullGroup],
      ∀ name ∈ group.layerNames, asciiName name := by decide +kernel
  exact hnames group (hg ▸ hm) layer.layerName hn

/-- The full group with the index of layer three in Arabic-Indic digits. -/
def renamedGroup : HybridLayout.CacheGroupLayout :=
  { ExactScatters.fullGroup with
    layerNames := layerName 1 :: "model.layers.\u0663.attn.attn" ::
      (List.range 10).map (fun i => layerName (2*i+5 : ℕ)) }

/-- A constructed layout whose plans the data plane refuses. -/
theorem renamed_layer_refused : ∃ layout : LayeredCacheLayout,
    layout.groups = [ExactScatters.slidingGroup, renamedGroup] ∧
      postInit layout.groups = .ok layout.layers ∧ ¬TilesExactly layout := by
  obtain ⟨layout, hg, hv⟩ := constructed_of_returns
    [ExactScatters.slidingGroup, renamedGroup] (by decide +kernel)
  refine ⟨layout, hg, hv, fun h => ?_⟩
  obtain ⟨_, _, _, scan, hscan, hlayers, _⟩ := postInit_ok hv
  have hread : (renamedGroup, "model.layers.\u0663.attn.attn") ∈ layout.groups.flatMap
      (fun group => group.layerNames.map (fun name => (group, name))) := by
    rw [hg]
    simp [renamedGroup]
  obtain ⟨layer, hm, hlayer, _⟩ := forall₂_left hscan.layers hread
  have hl : layer ∈ layout.layers := hlayers ▸ (mem_sortedBy _ _ _).mpr hm
  have hname : layer.layerName = "model.layers.\u0663.attn.attn" := by
    rw [hlayer]
    rfl
  have hascii : ¬asciiName "model.layers.\u0663.attn.attn" := by decide
  rw [← hname] at hascii
  exact hascii ((extract_ascii (postInit_extracts hv hl)).mpr (accepted_names h hl))

end CacheBlend.ScatterTiling
