import CacheBlend.ScatterSpans

/-!
# Scatter plans

A transfer moves a run of tokens to a run of target positions. Its plan cuts
the target of every cache group at the block edges and gives each layer the
spans of its group. Every target position lies in exactly one span of each
layer, and its slot is the entry of the block table at that position.
-/

set_option autoImplicit false

namespace CacheBlend.TokenScatter
open CacheBlend.PlannerModels CacheBlend.HybridLayout CacheBlend.ScatterSpans

structure AttentionLayerLayout where
  layerName : String
  layerIndex : ℕ
  groupId : ℕ
  attentionKind : AttentionKind
  slidingWindow : Option ℕ
  blockSize : ℕ
  deriving DecidableEq

def attentionLayer (group : CacheGroupLayout) (layerName : String) (layerIndex : ℕ) :
    AttentionLayerLayout where
  layerName := layerName
  layerIndex := layerIndex
  groupId := group.groupId
  attentionKind := group.attentionKind
  slidingWindow := group.slidingWindow
  blockSize := group.blockSize

/-- A hybrid layout with the layers that its constructor derives from the
groups, in the order of the transformer. -/
structure LayeredCacheLayout extends GptOssHybridCacheLayout where
  layers : List AttentionLayerLayout
  indexes : layers.map AttentionLayerLayout.layerIndex = List.range gptOssNumLayers
  layer_names_nodup : (layers.map AttentionLayerLayout.layerName).Nodup
  of_groups : ∀ layer ∈ layers, ∃ group ∈ groups, layer.layerName ∈ group.layerNames ∧
    layer = attentionLayer group layer.layerName layer.layerIndex
  kinds_eq : ∀ layer ∈ layers, layer.attentionKind = expectedKind layer.layerIndex

def LayeredCacheLayout.group (l : LayeredCacheLayout) (groupId : ℕ) :
    Except HybridLayoutErrorCode CacheGroupLayout :=
  match l.groups.find? (fun group => group.groupId = groupId) with
  | some group => .ok group
  | none => .error .unknownGroup

structure TokenTransfer where
  sourceRange : TokenRange
  targetRange : TokenRange
  target_nonempty : targetRange.size ≠ 0
  size_eq : sourceRange.size = targetRange.size
  source_bounded : sourceRange.stop ≤ gptOssMaxContextTokens
  target_bounded : targetRange.stop ≤ gptOssMaxContextTokens

instance : DecidableEq TokenTransfer := fun t t' =>
  decidable_of_iff (t.sourceRange = t'.sourceRange ∧ t.targetRange = t'.targetRange) (by
    cases t
    cases t'
    simp only [TokenTransfer.mk.injEq])

def TokenTransfer.new (sourceRange targetRange : TokenRange) :
    Except HybridLayoutErrorCode TokenTransfer :=
  if hn : sourceRange.size = 0 ∨ targetRange.size = 0 then .error .emptyTransfer
  else if hl : sourceRange.size = targetRange.size then
    if hb : sourceRange.stop ≤ gptOssMaxContextTokens ∧
        targetRange.stop ≤ gptOssMaxContextTokens then
      .ok ⟨sourceRange, targetRange, fun h => hn (.inr h), hl, hb.1, hb.2⟩
    else .error .positionOutOfRange
  else .error .rangeLengthMismatch

def TokenTransfer.sourcePosition (t : TokenTransfer) (position : ℕ) : ℕ :=
  t.sourceRange.start+position-t.targetRange.start

structure TokenScatterPlan where
  transfer : TokenTransfer
  groupSpans : List GroupTokenScatterSpan
  layerSpans : List LayerTokenScatterSpan
  deriving DecidableEq

/-- A plan fails with a code of the layout, or an assertion of the source fails. -/
inductive ScatterPlanError where
  | layout (code : HybridLayoutErrorCode)
  | assertion
  deriving DecidableEq

def firstBlock (group : CacheGroupLayout) (transfer : TokenTransfer) : ℕ :=
  transfer.targetRange.start/group.blockSize

def lastBlock (group : CacheGroupLayout) (transfer : TokenTransfer) : ℕ :=
  (transfer.targetRange.stop-1)/group.blockSize

def touchedBlocks (group : CacheGroupLayout) (transfer : TokenTransfer) : List ℕ :=
  List.range' (firstBlock group transfer)
    (lastBlock group transfer+1-firstBlock group transfer)

/-- The checks of `_validated_tables` on the table of one group. -/
def validateTable (group : CacheGroupLayout) (transfer : TokenTransfer) (table : GroupBlockTable) :
    Except HybridLayoutErrorCode GroupBlockTable := do
  require (table.blockSize = group.blockSize) .blockSizeMismatch
  require (lastBlock group transfer < table.blockIds.length) .blockTableTooShort
  require (∀ blockIndex ∈ touchedBlocks group transfer, table.blockIds[blockIndex]? ≠ some none)
    .blockUnavailable
  .ok table

/-- `_validated_tables`. -/
def validatedTables (layout : LayeredCacheLayout) (tables : List GroupBlockTable)
    (transfer : TokenTransfer) : Except HybridLayoutErrorCode (List GroupBlockTable) := do
  require (tables.map GroupBlockTable.groupId).Nodup .duplicateBlockTable
  require (∀ table ∈ tables, ∃ group ∈ layout.groups, group.groupId = table.groupId)
    .unexpectedBlockTable
  require (∀ group ∈ layout.groups, ∃ table ∈ tables, table.groupId = group.groupId)
    .missingBlockTable
  (sortedBy CacheGroupLayout.groupId layout.groups).mapM (fun group =>
    match tables.find? (fun table => table.groupId = group.groupId) with
    | some table => validateTable group transfer table
    | none => .error .missingBlockTable)

/-- The length of the run from a target position to the end of its block or of the transfer. -/
def runLength (group : CacheGroupLayout) (transfer : TokenTransfer) (cursor : ℕ) : ℕ :=
  min (transfer.targetRange.stop-cursor) (group.blockSize-cursor%group.blockSize)

def blockSpan (group : CacheGroupLayout) (transfer : TokenTransfer) (cursor blockId : ℕ) :
    GroupTokenScatterSpan where
  groupId := group.groupId
  attentionKind := group.attentionKind
  sourceRange := ⟨transfer.sourcePosition cursor,
    transfer.sourcePosition cursor+runLength group transfer cursor, Nat.le_add_right _ _⟩
  targetRange := ⟨cursor, cursor+runLength group transfer cursor, Nat.le_add_right _ _⟩
  logicalBlockIndex := (cursor/group.blockSize : ℕ)
  blockId := blockId
  blockSize := group.blockSize
  blockOffset := (cursor%group.blockSize : ℕ)
  physicalSlotStart := (blockId*group.blockSize+cursor%group.blockSize : ℕ)

/-- The loop of `_scatter_group` from a cursor. It has no result when the
assertion about an unavailable block fails. -/
def scatterFrom (group : CacheGroupLayout) (table : GroupBlockTable) (transfer : TokenTransfer) :
    ℕ → ℕ → Option (List GroupTokenScatterSpan)
  | 0, cursor => if cursor < transfer.targetRange.stop then none else some []
  | fuel+1, cursor =>
    if cursor < transfer.targetRange.stop then
      match table.blockIds[cursor/group.blockSize]? with
      | some (some blockId) => do
        let rest ← scatterFrom group table transfer fuel (cursor+runLength group transfer cursor)
        some (blockSpan group transfer cursor blockId::rest)
      | _ => none
    else some []

/-- `_scatter_group`. Every turn of the loop places a token at least. -/
def scatterGroup (group : CacheGroupLayout) (table : GroupBlockTable) (transfer : TokenTransfer) :
    Option (List GroupTokenScatterSpan) :=
  scatterFrom group table transfer transfer.targetRange.size transfer.targetRange.start

def scatterTable (layout : LayeredCacheLayout) (transfer : TokenTransfer)
    (table : GroupBlockTable) : Except ScatterPlanError (ℕ × List GroupTokenScatterSpan) := do
  let group ← (layout.group table.groupId).mapError .layout
  match scatterGroup group table transfer with
  | some spans => .ok (group.groupId, spans)
  | none => .error .assertion

def spansOfGroup (spansByGroup : List (ℕ × List GroupTokenScatterSpan)) (groupId : ℕ) :
    List GroupTokenScatterSpan :=
  match spansByGroup.find? (fun entry => entry.1 = groupId) with
  | some entry => entry.2
  | none => []

def layerSpan (layer : AttentionLayerLayout) (groupSpan : GroupTokenScatterSpan) :
    LayerTokenScatterSpan :=
  ⟨layer.layerName, layer.layerIndex, groupSpan⟩

/-- `plan_token_scatter`. -/
def planTokenScatter (layout : LayeredCacheLayout) (tables : List GroupBlockTable)
    (transfer : TokenTransfer) : Except ScatterPlanError TokenScatterPlan := do
  let validated ← (validatedTables layout tables transfer).mapError .layout
  let spansByGroup ← validated.mapM (scatterTable layout transfer)
  .ok ⟨transfer, spansByGroup.flatMap Prod.snd, layout.layers.flatMap (fun layer =>
    (spansOfGroup spansByGroup layer.groupId).map (layerSpan layer))⟩

/-! ## The runs of a group -/

section
variable {group : CacheGroupLayout} {table : GroupBlockTable} {transfer : TokenTransfer}

theorem runLength_pos {cursor : ℕ} (h : cursor < transfer.targetRange.stop) :
    0 < runLength group transfer cursor := by
  have hm := Nat.mod_lt cursor group.block_positive
  unfold runLength
  omega

theorem run_block {cursor position : ℕ} (hl : cursor ≤ position)
    (hr : position < cursor+runLength group transfer cursor) :
    position/group.blockSize = cursor/group.blockSize ∧
      position%group.blockSize = cursor%group.blockSize+(position-cursor) := by
  have hd := Nat.div_add_mod cursor group.blockSize
  have hlt : cursor%group.blockSize+(position-cursor) < group.blockSize := by
    unfold runLength at hr
    omega
  have heq : position = group.blockSize*(cursor/group.blockSize)+
      (cursor%group.blockSize+(position-cursor)) := by omega
  constructor
  · rw [heq, Nat.mul_add_div group.block_positive, Nat.div_eq_of_lt hlt, Nat.add_zero]
  · rw [heq, Nat.mul_add_mod, Nat.mod_eq_of_lt hlt, ← heq]

/-- What the loop puts into its result: runs of available blocks, each from
the first cursor or from the start of a block. -/
theorem mem_scatterFrom (fuel cursor : ℕ) {spans : List GroupTokenScatterSpan}
    (h : scatterFrom group table transfer fuel cursor = some spans) :
    ∀ span ∈ spans, ∃ start blockId, cursor ≤ start ∧ start < transfer.targetRange.stop ∧
      table.blockIds[start/group.blockSize]? = some (some blockId) ∧
      span = blockSpan group transfer start blockId ∧
      (start = cursor ∨ start%group.blockSize = 0) := by
  induction fuel generalizing cursor spans with
  | zero =>
    unfold scatterFrom at h
    split_ifs at h
    cases h
    exact fun _ hm => absurd hm List.not_mem_nil
  | succ fuel ih =>
    unfold scatterFrom at h
    split_ifs at h with hlt
    · split at h
      next blockId hb =>
        obtain ⟨rest, hrest, he⟩ := Option.bind_eq_some_iff.mp h
        cases he
        intro span hm
        obtain rfl | hm := List.mem_cons.mp hm
        · exact ⟨cursor, blockId, le_refl _, hlt, hb, rfl, .inl rfl⟩
        · obtain ⟨start, b, hs, hstop, ht, he, hedge⟩ := ih _ hrest span hm
          refine ⟨start, b, by omega, hstop, ht, he, .inr ?_⟩
          -- the cursor after a run is at a block edge unless the transfer ends there
          obtain rfl | hz := hedge
          · have hd := Nat.div_add_mod cursor group.blockSize
            have hm := Nat.mod_lt cursor group.block_positive
            have hedge : cursor+runLength group transfer cursor =
                group.blockSize*(cursor/group.blockSize+1) := by
              unfold runLength at hstop ⊢
              rw [Nat.mul_succ]
              omega
            rw [hedge, Nat.mul_mod_right]
          · exact hz
      next => cases h
    · cases h
      exact fun _ hm => absurd hm List.not_mem_nil

theorem scatterFrom_covers (fuel cursor : ℕ) {spans : List GroupTokenScatterSpan}
    (h : scatterFrom group table transfer fuel cursor = some spans) (position : ℕ)
    (hl : cursor ≤ position) (hr : position < transfer.targetRange.stop) :
    ∃ span ∈ spans, Holds span.targetRange position := by
  induction fuel generalizing cursor spans with
  | zero =>
    unfold scatterFrom at h
    rw [if_pos (by omega)] at h
    cases h
  | succ fuel ih =>
    unfold scatterFrom at h
    rw [if_pos (by omega)] at h
    split at h
    next blockId hb =>
      obtain ⟨rest, hrest, he⟩ := Option.bind_eq_some_iff.mp h
      cases he
      by_cases hin : position < cursor+runLength group transfer cursor
      · exact ⟨_, List.mem_cons_self, hl, hin⟩
      · obtain ⟨span, hm, hh⟩ := ih _ hrest (by omega)
        exact ⟨span, List.mem_cons_of_mem _ hm, hh⟩
    next => cases h

theorem scatterFrom_returns (fuel cursor : ℕ) (hf : transfer.targetRange.stop-cursor ≤ fuel)
    (hb : ∀ position, cursor ≤ position → position < transfer.targetRange.stop →
      ∃ blockId, table.blockIds[position/group.blockSize]? = some (some blockId)) :
    ∃ spans, scatterFrom group table transfer fuel cursor = some spans := by
  induction fuel generalizing cursor with
  | zero => exact ⟨[], if_neg (by omega)⟩
  | succ fuel ih =>
    unfold scatterFrom
    by_cases hlt : cursor < transfer.targetRange.stop
    · obtain ⟨blockId, hid⟩ := hb cursor (le_refl _) hlt
      have hpos : 0 < runLength group transfer cursor := runLength_pos hlt
      obtain ⟨rest, hrest⟩ := ih (cursor+runLength group transfer cursor) (by omega)
        fun position hl hr => hb position (by omega) hr
      rw [if_pos hlt, hid]
      exact ⟨_, Option.bind_eq_some_iff.mpr ⟨rest, hrest, rfl⟩⟩
    · exact ⟨[], if_neg hlt⟩

end

/-! ## Slots of a table -/

def slotOf (table : GroupBlockTable) (position : ℕ) : Option (ℕ × ℕ) :=
  match table.blockIds[position/table.blockSize]? with
  | some (some blockId) => some (blockId, position%table.blockSize)
  | _ => none

/-- No block stands at two places of a table. -/
def DistinctBlocks (table : GroupBlockTable) : Prop :=
  table.blockIds.Pairwise (fun entry entry' => entry = entry' → entry = none)

instance (table : GroupBlockTable) : Decidable (DistinctBlocks table) :=
  inferInstanceAs (Decidable (List.Pairwise _ _))

theorem slotOf_some {table : GroupBlockTable} {position blockId offset : ℕ} :
    slotOf table position = some (blockId, offset) ↔
      table.blockIds[position/table.blockSize]? = some (some blockId) ∧
        offset = position%table.blockSize := by
  unfold slotOf
  split
  next b hb =>
    rw [hb]
    simp [eq_comm]
  next hn =>
    constructor
    · intro h
      cases h
    · rintro ⟨h, _⟩
      exact absurd h (hn blockId)

theorem block_index_unique {entries : List (Option ℕ)} {i j blockId : ℕ}
    (h : entries.Pairwise (fun entry entry' => entry = entry' → entry = none))
    (hi : entries[i]? = some (some blockId)) (hj : entries[j]? = some (some blockId)) : i = j := by
  obtain ⟨hil, hie⟩ := List.getElem?_eq_some_iff.mp hi
  obtain ⟨hjl, hje⟩ := List.getElem?_eq_some_iff.mp hj
  have hp := List.pairwise_iff_getElem.mp h
  rcases Nat.lt_trichotomy i j with hlt | heq | hlt
  · have hn := hp i j hil hjl hlt (hie.trans hje.symm)
    rw [hie] at hn
    cases hn
  · exact heq
  · have hn := hp j i hjl hil hlt (hje.trans hie.symm)
    rw [hje] at hn
    cases hn

theorem slotOf_injective {table : GroupBlockTable} (hd : DistinctBlocks table)
    {position position' : ℕ} {slot : ℕ × ℕ} (h : slotOf table position = some slot)
    (h' : slotOf table position' = some slot) : position = position' := by
  obtain ⟨blockId, offset⟩ := slot
  obtain ⟨hb, ho⟩ := slotOf_some.mp h
  obtain ⟨hb', ho'⟩ := slotOf_some.mp h'
  have hq := block_index_unique hd hb hb'
  calc position = table.blockSize*(position/table.blockSize)+position%table.blockSize :=
        (Nat.div_add_mod _ _).symm
    _ = table.blockSize*(position'/table.blockSize)+position'%table.blockSize := by
        rw [hq, ← ho, ho']
    _ = position' := Nat.div_add_mod _ _

/-- A span places a target position: it gives it the slot of the table and its
source position, both counted from the start of the span. -/
structure Places (table : GroupBlockTable) (transfer : TokenTransfer)
    (span : GroupTokenScatterSpan) (position : ℕ) : Prop where
  target : Holds transfer.targetRange position
  source : span.sourceRange.start+(position-span.targetRange.start) =
    transfer.sourcePosition position
  slot : ∃ blockId offset, slotOf table position = some (blockId, offset) ∧
    span.blockId = blockId ∧
    span.blockOffset+((position-span.targetRange.start : ℕ) : ℤ) = offset

section
variable {group : CacheGroupLayout} {table : GroupBlockTable} {transfer : TokenTransfer}
  {spans : List GroupTokenScatterSpan}

theorem scatterGroup_places (hs : table.blockSize = group.blockSize)
    (h : scatterGroup group table transfer = some spans) {span : GroupTokenScatterSpan}
    (hm : span ∈ spans) {position : ℕ} (hp : Holds span.targetRange position) :
    Places table transfer span position := by
  obtain ⟨start, blockId, hl, hr, hb, rfl, _⟩ := mem_scatterFrom _ _ h span hm
  obtain ⟨hpl, hpr⟩ := hp
  change start ≤ position at hpl
  change position < start+runLength group transfer start at hpr
  obtain ⟨hq, ho⟩ := run_block hpl hpr
  have hstop : position < transfer.targetRange.stop := by
    unfold runLength at hpr
    omega
  refine ⟨⟨hl.trans hpl, hstop⟩, ?_, blockId, position%table.blockSize, ?_, rfl, ?_⟩
  · show transfer.sourcePosition start+(position-start) = transfer.sourcePosition position
    unfold TokenTransfer.sourcePosition
    omega
  · exact slotOf_some.mpr ⟨by rw [hs, hq, hb], rfl⟩
  · show ((start%group.blockSize : ℕ) : ℤ)+((position-start : ℕ) : ℤ) = _
    rw [hs, ho]
    push_cast
    rfl

theorem scatterGroup_covers (h : scatterGroup group table transfer = some spans) {position : ℕ}
    (hp : Holds transfer.targetRange position) : ∃ span ∈ spans, Holds span.targetRange position :=
  scatterFrom_covers _ _ h position hp.1 hp.2

theorem scatterGroup_unique (h : scatterGroup group table transfer = some spans)
    {span span' : GroupTokenScatterSpan} (hm : span ∈ spans) (hm' : span' ∈ spans)
    {position : ℕ} (hp : Holds span.targetRange position)
    (hp' : Holds span'.targetRange position) : span = span' := by
  obtain ⟨start, b, hl, _, hb, rfl, he⟩ := mem_scatterFrom _ _ h span hm
  obtain ⟨start', b', hl', _, hb', rfl, he'⟩ := mem_scatterFrom _ _ h span' hm'
  have hq : position/group.blockSize = start/group.blockSize := (run_block hp.1 hp.2).1
  have hq' : position/group.blockSize = start'/group.blockSize := (run_block hp'.1 hp'.2).1
  -- both runs start in the block of the position, at its edge or at the first cursor
  have hd := Nat.div_add_mod start group.blockSize
  have hd' := Nat.div_add_mod start' group.blockSize
  rw [← hq] at hd
  rw [← hq'] at hd'
  have hstart : start = start' := by
    obtain rfl | hz := he <;> obtain rfl | hz' := he' <;> omega
  subst hstart
  rw [hb] at hb'
  cases hb'
  rfl

end

/-! ## The spans of a plan -/

theorem layout_group_ok {layout : LayeredCacheLayout} {groupId : ℕ} {group : CacheGroupLayout}
    (h : layout.group groupId = .ok group) : group ∈ layout.groups ∧ group.groupId = groupId := by
  unfold LayeredCacheLayout.group at h
  split at h
  next group' hf =>
    cases h
    exact ⟨List.mem_of_find?_eq_some hf, by simpa using List.find?_some hf⟩
  next => cases h

theorem group_unique (layout : GptOssHybridCacheLayout) {group group' : CacheGroupLayout}
    (hm : group ∈ layout.groups) (hm' : group' ∈ layout.groups)
    (h : group.groupId = group'.groupId) : group = group' := by
  have hn : (layout.groups.map CacheGroupLayout.groupId).Nodup :=
    layout.ids.nodup_iff.mpr List.nodup_range
  exact List.inj_on_of_nodup_map hn hm hm' h

theorem validateTable_ok {group : CacheGroupLayout} {transfer : TokenTransfer}
    {table table' : GroupBlockTable} (h : validateTable group transfer table = .ok table') :
    table' = table ∧ table.blockSize = group.blockSize ∧
      lastBlock group transfer < table.blockIds.length ∧
      ∀ blockIndex ∈ touchedBlocks group transfer, table.blockIds[blockIndex]? ≠ some none := by
  unfold validateTable at h
  obtain ⟨hs, h⟩ := (require_then_iff _ _ _ _).mp h
  obtain ⟨hl, h⟩ := (require_then_iff _ _ _ _).mp h
  obtain ⟨hb, h⟩ := (require_then_iff _ _ _ _).mp h
  cases h
  exact ⟨rfl, hs, hl, hb⟩

theorem validatedTables_ok {layout : LayeredCacheLayout} {tables validated : List GroupBlockTable}
    {transfer : TokenTransfer} (h : validatedTables layout tables transfer = .ok validated) :
    (tables.map GroupBlockTable.groupId).Nodup ∧
      List.Forall₂ (fun group table => table ∈ tables ∧ table.groupId = group.groupId ∧
        validateTable group transfer table = .ok table)
        (sortedBy CacheGroupLayout.groupId layout.groups) validated := by
  unfold validatedTables at h
  obtain ⟨hn, h⟩ := (require_then_iff _ _ _ _).mp h
  obtain ⟨_, h⟩ := (require_then_iff _ _ _ _).mp h
  obtain ⟨_, h⟩ := (require_then_iff _ _ _ _).mp h
  refine ⟨hn, forall₂_imp ((mapM_returns_iff _ _ _).mp h) fun group _ table ht => ?_⟩
  split at ht
  next table' hf =>
    obtain ⟨rfl, _⟩ := validateTable_ok ht
    exact ⟨List.mem_of_find?_eq_some hf, by simpa using List.find?_some hf, ht⟩
  next => cases ht

theorem scatterTable_ok {layout : LayeredCacheLayout} {transfer : TokenTransfer}
    {table : GroupBlockTable} {entry : ℕ × List GroupTokenScatterSpan}
    (h : scatterTable layout transfer table = .ok entry) :
    ∃ group ∈ layout.groups, group.groupId = table.groupId ∧ entry.1 = table.groupId ∧
      scatterGroup group table transfer = some entry.2 := by
  unfold scatterTable at h
  obtain ⟨group, hg, h⟩ := (checked_ok_iff _ _ _).mp h
  obtain ⟨hm, hid⟩ := layout_group_ok ((mapError_ok_iff _ _ _).mp hg)
  split at h
  next spans hs =>
    cases h
    exact ⟨group, hm, hid, hid, hs⟩
  next => cases h

def tableOf (tables : List GroupBlockTable) (layer : AttentionLayerLayout) :
    Option GroupBlockTable :=
  tables.find? (fun table => table.groupId = layer.groupId)

theorem tableOf_some {tables : List GroupBlockTable}
    (hn : (tables.map GroupBlockTable.groupId).Nodup) {layer : AttentionLayerLayout}
    {table : GroupBlockTable} (hm : table ∈ tables) (h : table.groupId = layer.groupId) :
    tableOf tables layer = some table := by
  cases hf : tableOf tables layer with
  | none => exact absurd (by simpa using h) (List.find?_eq_none.mp hf table hm)
  | some found =>
    have hid : found.groupId = layer.groupId := by simpa using List.find?_some hf
    rw [List.inj_on_of_nodup_map hn (List.mem_of_find?_eq_some hf) hm (hid.trans h.symm)]

section
variable {layout : LayeredCacheLayout} {tables : List GroupBlockTable}
  {transfer : TokenTransfer} {plan : TokenScatterPlan}

theorem layer_unique {layer layer' : AttentionLayerLayout} (hm : layer ∈ layout.layers)
    (hm' : layer' ∈ layout.layers) (h : layer.layerName = layer'.layerName) : layer = layer' :=
  List.inj_on_of_nodup_map layout.layer_names_nodup hm hm' h

theorem planned_groups (h : planTokenScatter layout tables transfer = .ok plan) :
    ∃ spansOf : AttentionLayerLayout → List GroupTokenScatterSpan,
      plan.layerSpans = layout.layers.flatMap (fun layer =>
        (spansOf layer).map (layerSpan layer)) ∧
      ∀ layer ∈ layout.layers, ∃ group ∈ layout.groups, ∃ table ∈ tables,
        layer = attentionLayer group layer.layerName layer.layerIndex ∧
        tableOf tables layer = some table ∧ table.blockSize = group.blockSize ∧
        scatterGroup group table transfer = some (spansOf layer) := by
  unfold planTokenScatter at h
  obtain ⟨validated, hv, h⟩ := (checked_ok_iff _ _ _).mp h
  obtain ⟨byGroup, hb, h⟩ := (checked_ok_iff _ _ _).mp h
  cases h
  obtain ⟨hn, hvalid⟩ := validatedTables_ok ((mapError_ok_iff _ _ _).mp hv)
  have hentries := (mapM_returns_iff _ _ _).mp hb
  refine ⟨fun layer => spansOfGroup byGroup layer.groupId, rfl, fun layer hl => ?_⟩
  obtain ⟨group, hg, _, hlayer⟩ := layout.of_groups layer hl
  have hid : layer.groupId = group.groupId := by rw [hlayer]; rfl
  obtain ⟨table, htv, ht, htid, hcheck⟩ :=
    forall₂_left hvalid ((mem_sortedBy CacheGroupLayout.groupId _ _).mpr hg)
  obtain ⟨entry, hem, hentry⟩ := forall₂_left hentries htv
  obtain ⟨group', hg', hgid, heid, hspans⟩ := scatterTable_ok hentry
  obtain rfl := group_unique layout.toGptOssHybridCacheLayout hg' hg (hgid.trans htid)
  have hfound : spansOfGroup byGroup layer.groupId = entry.2 := by
    unfold spansOfGroup
    split
    next found hf =>
      have hfid : found.1 = layer.groupId := by simpa using List.find?_some hf
      obtain ⟨table', htv', hfok⟩ := forall₂_right hentries (List.mem_of_find?_eq_some hf)
      obtain ⟨_, _, ht', _, _⟩ := forall₂_right hvalid htv'
      obtain ⟨_, _, _, hfid', _⟩ := scatterTable_ok hfok
      obtain rfl := List.inj_on_of_nodup_map hn ht ht'
        (htid.trans (hid.symm.trans (hfid.symm.trans hfid')))
      rw [hentry] at hfok
      cases hfok
      rfl
    next hf =>
      have hne := List.find?_eq_none.mp hf entry hem
      exact absurd (by simpa using heid.trans (htid.trans hid.symm)) hne
  exact ⟨group', hg, table, ht, hlayer, tableOf_some hn ht (htid.trans hid.symm),
    (validateTable_ok hcheck).2.1, hspans.trans (congrArg some hfound.symm)⟩

theorem planned_layer (h : planTokenScatter layout tables transfer = .ok plan)
    {layer : AttentionLayerLayout} (hl : layer ∈ layout.layers) :
    ∃ group table spans, tableOf tables layer = some table ∧ table ∈ tables ∧
      table.blockSize = group.blockSize ∧ scatterGroup group table transfer = some spans ∧
      ∀ span, span ∈ plan.layerSpans ∧ span.layerName = layer.layerName ↔
        ∃ groupSpan ∈ spans, span = layerSpan layer groupSpan := by
  obtain ⟨spansOf, hspans, hgroups⟩ := planned_groups h
  obtain ⟨group, _, table, ht, _, htable, hsize, hscatter⟩ := hgroups layer hl
  refine ⟨group, table, spansOf layer, htable, ht, hsize, hscatter, fun span => ?_⟩
  rw [hspans, List.mem_flatMap]
  constructor
  · rintro ⟨⟨layer', hl', hm⟩, hname⟩
    obtain ⟨groupSpan, hgs, rfl⟩ := List.mem_map.mp hm
    obtain rfl := layer_unique hl' hl hname
    exact ⟨groupSpan, hgs, rfl⟩
  · rintro ⟨groupSpan, hgs, rfl⟩
    exact ⟨⟨layer, hl, List.mem_map.mpr ⟨groupSpan, hgs, rfl⟩⟩, rfl⟩

theorem planned_transfer (h : planTokenScatter layout tables transfer = .ok plan) :
    plan.transfer = transfer := by
  unfold planTokenScatter at h
  obtain ⟨_, _, h⟩ := (checked_ok_iff _ _ _).mp h
  obtain ⟨_, _, h⟩ := (checked_ok_iff _ _ _).mp h
  cases h
  rfl

theorem planned_span_layer (h : planTokenScatter layout tables transfer = .ok plan)
    {span : LayerTokenScatterSpan} (hm : span ∈ plan.layerSpans) :
    ∃ layer ∈ layout.layers, span.layerName = layer.layerName ∧
      span.layerIndex = layer.layerIndex := by
  unfold planTokenScatter at h
  obtain ⟨_, _, h⟩ := (checked_ok_iff _ _ _).mp h
  obtain ⟨_, _, h⟩ := (checked_ok_iff _ _ _).mp h
  cases h
  obtain ⟨layer, hl, hs⟩ := List.mem_flatMap.mp hm
  obtain ⟨_, _, rfl⟩ := List.mem_map.mp hs
  exact ⟨layer, hl, rfl, rfl⟩

theorem planned_places (h : planTokenScatter layout tables transfer = .ok plan)
    {span : LayerTokenScatterSpan} (hm : span ∈ plan.layerSpans) {position : ℕ}
    (hp : Holds span.targetRange position) :
    ∃ layer ∈ layout.layers, span.layerName = layer.layerName ∧
      span.layerIndex = layer.layerIndex ∧ ∃ table ∈ tables, tableOf tables layer = some table ∧
        Places table transfer span.groupSpan position := by
  obtain ⟨layer, hl, hname, hindex⟩ := planned_span_layer h hm
  obtain ⟨group, table, spans, htable, ht, hsize, hspans, hiff⟩ := planned_layer h hl
  obtain ⟨groupSpan, hgs, rfl⟩ := (hiff span).mp ⟨hm, hname⟩
  exact ⟨layer, hl, hname, hindex, table, ht, htable, scatterGroup_places hsize hspans hgs hp⟩

theorem planned_sizes (h : planTokenScatter layout tables transfer = .ok plan)
    {span : LayerTokenScatterSpan} (hm : span ∈ plan.layerSpans) :
    span.sourceRange.size = span.targetRange.size := by
  obtain ⟨layer, hl, hname, _⟩ := planned_span_layer h hm
  obtain ⟨group, table, spans, _, _, _, hspans, hiff⟩ := planned_layer h hl
  obtain ⟨groupSpan, hgs, rfl⟩ := (hiff span).mp ⟨hm, hname⟩
  obtain ⟨start, blockId, _, _, _, rfl, _⟩ := mem_scatterFrom _ _ hspans groupSpan hgs
  show transfer.sourcePosition start+runLength group transfer start-
    transfer.sourcePosition start = start+runLength group transfer start-start
  omega

theorem planned_covers (h : planTokenScatter layout tables transfer = .ok plan)
    {layer : AttentionLayerLayout} (hl : layer ∈ layout.layers) {position : ℕ}
    (hp : Holds transfer.targetRange position) :
    ∃ span ∈ plan.layerSpans, span.layerName = layer.layerName ∧
      Holds span.targetRange position := by
  obtain ⟨group, table, spans, _, _, _, hspans, hiff⟩ := planned_layer h hl
  obtain ⟨groupSpan, hgs, hh⟩ := scatterGroup_covers hspans hp
  have hm := (hiff (layerSpan layer groupSpan)).mpr ⟨groupSpan, hgs, rfl⟩
  exact ⟨_, hm.1, hm.2, hh⟩

theorem planned_unique (h : planTokenScatter layout tables transfer = .ok plan)
    {span span' : LayerTokenScatterSpan} (hm : span ∈ plan.layerSpans)
    (hm' : span' ∈ plan.layerSpans) (hname : span.layerName = span'.layerName) {position : ℕ}
    (hp : Holds span.targetRange position) (hp' : Holds span'.targetRange position) :
    span = span' := by
  obtain ⟨layer, hl, hn, _⟩ := planned_span_layer h hm
  obtain ⟨group, table, spans, _, _, _, hspans, hiff⟩ := planned_layer h hl
  obtain ⟨g, hg, rfl⟩ := (hiff span).mp ⟨hm, hn⟩
  obtain ⟨g', hg', rfl⟩ := (hiff span').mp ⟨hm', hname.symm.trans hn⟩
  rw [scatterGroup_unique hspans hg hg' hp hp']

end

theorem validated_available {group : CacheGroupLayout} {transfer : TokenTransfer}
    {table : GroupBlockTable} (h : validateTable group transfer table = .ok table)
    {position : ℕ} (hp : Holds transfer.targetRange position) :
    ∃ blockId, table.blockIds[position/group.blockSize]? = some (some blockId) := by
  obtain ⟨_, _, hlen, havail⟩ := validateTable_ok h
  have hlast : position/group.blockSize ≤ lastBlock group transfer :=
    Nat.div_le_div_right (by have := hp.2; omega)
  have hfirst : firstBlock group transfer ≤ position/group.blockSize := Nat.div_le_div_right hp.1
  have hin : position/group.blockSize ∈ touchedBlocks group transfer :=
    List.mem_range'_1.mpr ⟨hfirst, by omega⟩
  have hlt : position/group.blockSize < table.blockIds.length := by omega
  have hget := List.getElem?_eq_getElem hlt
  cases hb : table.blockIds[position/group.blockSize] with
  | none => exact absurd (hget.trans (congrArg some hb)) (havail _ hin)
  | some blockId => exact ⟨blockId, hget.trans (congrArg some hb)⟩

theorem planTokenScatter_total {layout : LayeredCacheLayout}
    {tables validated : List GroupBlockTable} {transfer : TokenTransfer}
    (h : validatedTables layout tables transfer = .ok validated) :
    ∃ plan, planTokenScatter layout tables transfer = .ok plan := by
  obtain ⟨_, hvalid⟩ := validatedTables_ok h
  have hentries : ∃ byGroup, validated.mapM (scatterTable layout transfer) = .ok byGroup := by
    refine mapM_returns_of _ _ fun table hm => ?_
    obtain ⟨group, hg, _, hid, hcheck⟩ := forall₂_right hvalid hm
    have hmem : group ∈ layout.groups := (mem_sortedBy CacheGroupLayout.groupId _ _).mp hg
    have hgroup : layout.group table.groupId = .ok group := by
      unfold LayeredCacheLayout.group
      split
      next found hf =>
        have hfid : found.groupId = table.groupId := by simpa using List.find?_some hf
        rw [group_unique layout.toGptOssHybridCacheLayout (List.mem_of_find?_eq_some hf) hmem
          (hfid.trans hid)]
      next hf => exact absurd (by simpa using hid.symm) (List.find?_eq_none.mp hf group hmem)
    obtain ⟨spans, hspans⟩ := scatterFrom_returns transfer.targetRange.size
      transfer.targetRange.start (le_refl _) fun position hl hr =>
        validated_available hcheck ⟨hl, hr⟩
    refine ⟨(group.groupId, spans), ?_⟩
    unfold scatterTable scatterGroup
    refine (checked_ok_iff _ _ _).mpr ⟨group, (mapError_ok_iff _ _ _).mpr hgroup, ?_⟩
    rw [hspans]
  obtain ⟨byGroup, hb⟩ := hentries
  exact ⟨_, (checked_ok_iff _ _ _).mpr ⟨validated, (mapError_ok_iff _ _ _).mpr h,
    (checked_ok_iff _ _ _).mpr ⟨byGroup, hb, rfl⟩⟩⟩

end CacheBlend.TokenScatter
