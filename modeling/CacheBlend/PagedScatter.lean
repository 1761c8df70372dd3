import CacheBlend.DataPlane
import Mathlib.Algebra.Order.BigOperators.Group.List
import Mathlib.Tactic.Ring

/-!
# Exact scatters

A scatter that returns has made its prepared copies and no others. Each copy
puts the rows of one span into the cells that the span's block and offset
name, so the cells of distinct target positions are apart whenever no block
occurs twice in a table.
-/

set_option autoImplicit false

namespace CacheBlend.PagedScatter
open CacheBlend.PlannerModels CacheBlend.HybridLayout CacheBlend.ScatterSpans
open CacheBlend.TokenScatter CacheBlend.DataPlane CacheBlend.KeyedMemory

/-! ## What the steps of a call give -/

theorem validateView_shape {view owner : TensorInfo} {shape : List ℕ} {u : Unit}
    (h : validateView view shape owner = .ok u) : view.shape = shape := by
  unfold validateView at h
  exact ((require_then_iff _ _ _ _).mp h).1

theorem raiseNone_ok {α : Type} {e : DataPlaneError} {x : Option α} {a : α}
    (h : raiseNone e x = .ok a) : x = some a := by
  cases x with
  | none => cases h
  | some b =>
    cases h
    rfl

theorem pagedRows_cells {cache : TensorInfo} {name : String} {component : KvComponent}
    {block offset : ℤ} {count : ℕ} {view : RowView PagedCell}
    (h : pagedRows cache name component block offset count = some view)
    (hs : view.info.shape = headShape count) :
    view.cells = pagedCells name component block offset count := by
  unfold pagedRows at h
  split at h
  next =>
    split_ifs at h
    cases h
    have hc := (List.cons.inj hs).1
    dsimp only
    rw [hc]
  next => cases h

theorem stagingRows_cells {staging : TensorInfo} {component : KvComponent} {layer token : ℤ}
    {count : ℕ} {view : RowView StagingCell}
    (h : stagingRows staging component layer token count = some view)
    (hs : view.info.shape = flatShape count) :
    view.cells = stagingCells component layer token count := by
  unfold stagingRows at h
  split at h
  next =>
    split_ifs at h
    cases h
    have hc := (List.cons.inj hs).1
    dsimp only
    rw [hc]
  next => cases h

theorem stagingRows_reshaped {staging info : TensorInfo} {component : KvComponent}
    {layer token : ℤ} {count tokens : ℕ} {view : RowView StagingCell}
    (hshape : staging.shape = [kvComponents, gptOssNumLayers, tokens, gptOssKvWidth])
    (h : stagingRows staging component layer token count = some view)
    (hr : reshape view.info (headShape count) = some info) :
    view.cells = stagingCells component layer token count := by
  refine stagingRows_cells h ?_
  unfold stagingRows at h
  rw [hshape] at h
  dsimp only at h
  split_ifs at h
  cases h
  unfold reshape at hr
  split_ifs at hr with hp
  have hcount : sliceCount tokens token count = count := by
    simp only [headShape, gptOssKvWidth, gptOssNumKvHeads, gptOssHeadDim, List.prod_cons,
      List.prod_nil] at hp
    omega
  show [sliceCount tokens token count, gptOssKvWidth] = flatShape count
  rw [hcount]
  rfl

theorem applyFrom_returns {κ ν : Type} [DecidableEq κ] (runtime : TensorRuntime)
    (prepared : List (PreparedCopy κ ν)) (index : ℕ) (m m' : κ → ν) (u : PUnit)
    (h : applyFrom runtime index prepared m = (.ok u, m')) :
    m' = writeAll m (prepared.flatMap PreparedCopy.writes) := by
  induction prepared generalizing index m with
  | nil => exact ((Call.lift_ok_iff _ _ _ _).mp h).2
  | cons operation rest ih =>
    unfold applyFrom at h
    obtain ⟨_, h⟩ := (check_then_iff _ _ _ _ _ _).mp h
    rw [List.flatMap_cons, writeAll_append]
    exact ih _ _ h

theorem applyFrom_raises {κ ν : Type} [DecidableEq κ] (runtime : TensorRuntime)
    (prepared : List (PreparedCopy κ ν)) (index : ℕ) (m m' : κ → ν) (e : DataPlaneError)
    (h : applyFrom runtime index prepared m = (.error e, m')) : e = mutationFailure := by
  induction prepared generalizing index m with
  | nil =>
    unfold applyFrom require at h
    split_ifs at h <;> cases h
    rfl
  | cons operation rest ih =>
    unfold applyFrom require at h
    split_ifs at h
    · exact ih _ _ h
    · cases h
      rfl

/-! ## The spans that a call accepts -/

theorem checkSpan_index {seen seen' : GroupsSeen} {span : LayerTokenScatterSpan}
    (h : checkSpan seen span = .ok seen') : 0 ≤ span.layerIndex ∧
      span.layerIndex < gptOssNumLayers := by
  unfold checkSpan at h
  obtain ⟨_, h⟩ := (require_then_iff _ _ _ _).mp h
  exact ((require_then_iff _ _ _ _).mp h).1.2

theorem orderLayers_spans {spans ordered : List LayerTokenScatterSpan} (layers : List ℕ)
    {canonical ranges : Option (TokenRange × TokenRange)}
    (h : orderLayers spans canonical layers = .ok (ranges, ordered)) :
    ordered = layers.flatMap (spansOfLayer spans) := by
  induction layers generalizing canonical ranges ordered with
  | nil =>
    cases h
    rfl
  | cons layer layers ih =>
    unfold orderLayers at h
    obtain ⟨coverage, _, h⟩ := (checked_ok_iff _ _ _).mp h
    obtain ⟨_, h⟩ := (require_then_iff _ _ _ _).mp h
    obtain ⟨⟨_, rest⟩, hr, h⟩ := (checked_ok_iff _ _ _).mp h
    cases h
    rw [List.flatMap_cons, ih hr]

theorem validateSpans_mem {spans : List LayerTokenScatterSpan} {v : ValidatedSpans}
    (h : validateSpans spans = .ok v) (span : LayerTokenScatterSpan) :
    span ∈ v.spans ↔ span ∈ spans := by
  unfold validateSpans at h
  obtain ⟨_, h⟩ := (require_then_iff _ _ _ _).mp h
  obtain ⟨seen, hseen, h⟩ := (checked_ok_iff _ _ _).mp h
  obtain ⟨_, h⟩ := (require_then_iff _ _ _ _).mp h
  obtain ⟨_, h⟩ := (require_then_iff _ _ _ _).mp h
  obtain ⟨⟨canonical, ordered⟩, ho, h⟩ := (checked_ok_iff _ _ _).mp h
  have hordered : v.spans = ordered := by
    dsimp only at h
    split at h <;> cases h
    rfl
  rw [hordered, orderLayers_spans _ ho, List.mem_flatMap]
  unfold spansOfLayer
  constructor
  · rintro ⟨layer, _, hm⟩
    exact (List.mem_filter.mp ((mem_sortedBy _ _ _).mp hm)).1
  · intro hm
    obtain ⟨_, _, hspan⟩ := foldlM_each _ _ _ _ hseen hm
    obtain ⟨hl, hr⟩ := checkSpan_index hspan
    refine ⟨span.layerIndex.toNat, List.mem_range.mpr (by omega), (mem_sortedBy _ _ _).mpr ?_⟩
    exact List.mem_filter.mpr ⟨hm, by simp; omega⟩

theorem preflightCommon_ok {tensors : Tensors} {spans : List LayerTokenScatterSpan}
    {v : ValidatedSpans} (h : preflightCommon tensors spans = .ok v) :
    validateSpans spans = .ok v ∧ tensors.staging.shape =
      [kvComponents, gptOssNumLayers, stagingTokens tensors, gptOssKvWidth] := by
  unfold preflightCommon at h
  obtain ⟨v', hv, h⟩ := (checked_ok_iff _ _ _).mp h
  obtain ⟨_, h⟩ := (require_then_iff _ _ _ _).mp h
  obtain ⟨hs, h⟩ := (require_then_iff _ _ _ _).mp h
  obtain ⟨_, _, h⟩ := (checked_ok_iff _ _ _).mp h
  obtain ⟨_, _, h⟩ := (checked_ok_iff _ _ _).mp h
  obtain ⟨_, h⟩ := (require_then_iff _ _ _ _).mp h
  obtain ⟨_, _, h⟩ := (checked_ok_iff _ _ _).mp h
  cases h
  exact ⟨hv, hs.2⟩

/-! ## The cells of a span -/

/-- The cell of a position of a span, counted from the start of its block. -/
def cellAt (span : LayerTokenScatterSpan) (component : KvComponent) (position : ℕ) : PagedCell :=
  ⟨span.layerName, component, span.groupSpan.blockId,
    span.groupSpan.blockOffset+((position-span.targetRange.start : ℕ) : ℤ)⟩

section
variable {δ : Type}

/-- The staged key rows of a span. Target position `p` is staged at `offset+p`. -/
def stagedKeys (staging : StagingCell → FlatRow δ) (offset : ℤ) (span : LayerTokenScatterSpan) :
    List (HeadRow δ) :=
  (stagingCells .key span.layerIndex (offset+span.targetRange.start) span.tokenCount).map
    (fun cell => heads (staging cell))

/-- A row is the corrected key of a position: the correction took the staged
keys of the span from its source to its target positions. -/
def CorrectedRow (correct : KeyPositionCorrector δ) (staging : StagingCell → FlatRow δ)
    (offset : ℤ) (span : LayerTokenScatterSpan) (position : ℕ) (row : HeadRow δ) : Prop :=
  ∃ tensor, correct (stagedKeys staging offset span) (positions span.sourceRange)
      (positions span.targetRange) span.layerIndex = some tensor ∧
    tensor.rows[position-span.targetRange.start]? = some row

/-- The writes that a scatter makes for a position of a span. -/
inductive Scattered (correct : KeyPositionCorrector δ) (staging : StagingCell → FlatRow δ)
    (offset : ℤ) (span : LayerTokenScatterSpan) (position : ℕ) : PagedCell × HeadRow δ → Prop where
  | key (row : HeadRow δ) (h : CorrectedRow correct staging offset span position row) :
      Scattered correct staging offset span position (cellAt span .key position, row)
  | value : Scattered correct staging offset span position
      (cellAt span .value position, heads (staging ⟨.value, span.layerIndex, offset+position⟩))

theorem mem_zip_range {κ ν : Type} {f : ℕ → κ} {n : ℕ} {rows : List ν} {w : κ × ν}
    (h : w ∈ ((List.range n).map f).zip rows) : ∃ i < n, w.1 = f i ∧ rows[i]? = some w.2 := by
  obtain ⟨i, hi, rfl⟩ := List.mem_iff_getElem.mp h
  rw [List.length_zip, List.length_map, List.length_range] at hi
  refine ⟨i, by omega, ?_, ?_⟩
  · simp
  · rw [List.getElem_zip]
    exact List.getElem?_eq_getElem _

theorem zip_range_covers {κ ν : Type} (f : ℕ → κ) {n i : ℕ} {rows : List ν}
    (hn : rows.length = n) (hi : i < n) : ∃ w ∈ ((List.range n).map f).zip rows, w.1 = f i := by
  have hl : i < (((List.range n).map f).zip rows).length := by
    rw [List.length_zip, List.length_map, List.length_range]
    omega
  exact ⟨_, List.getElem_mem hl, by simp⟩

theorem prepareScatterSpan_ok {tensors : Tensors} {runtime : TensorRuntime}
    {correct : KeyPositionCorrector δ} {m : DataPlaneMemory δ} {cache : TensorInfo}
    {span : LayerTokenScatterSpan} {offset : ℤ} {tokens : ℕ}
    {copies : List (PreparedCopy PagedCell (HeadRow δ))}
    (hshape : tensors.staging.shape = [kvComponents, gptOssNumLayers, tokens, gptOssKvWidth])
    (h : prepareScatterSpan tensors runtime correct m cache span
      (offset+span.targetRange.start) = .ok copies) :
    ∃ tensor, correct (stagedKeys m.staging offset span) (positions span.sourceRange)
        (positions span.targetRange) span.layerIndex = some tensor ∧
      tensor.rows.length = span.tokenCount ∧
      copies = [⟨pagedCells span.layerName .key span.groupSpan.blockId span.groupSpan.blockOffset
          span.tokenCount, tensor.rows⟩,
        ⟨pagedCells span.layerName .value span.groupSpan.blockId span.groupSpan.blockOffset
          span.tokenCount, (stagingCells .value span.layerIndex (offset+span.targetRange.start)
            span.tokenCount).map (fun cell => heads (m.staging cell))⟩] := by
  unfold prepareScatterSpan at h
  obtain ⟨_, h⟩ := (require_then_iff _ _ _ _).mp h
  obtain ⟨stagedKey, hk, h⟩ := (checked_ok_iff _ _ _).mp h
  obtain ⟨stagedValue, hv, h⟩ := (checked_ok_iff _ _ _).mp h
  obtain ⟨keyRows, hkr, h⟩ := (checked_ok_iff _ _ _).mp h
  obtain ⟨valueRows, hvr, h⟩ := (checked_ok_iff _ _ _).mp h
  obtain ⟨keyDestination, hkd, h⟩ := (checked_ok_iff _ _ _).mp h
  obtain ⟨valueDestination, hvd, h⟩ := (checked_ok_iff _ _ _).mp h
  obtain ⟨_, _, h⟩ := (checked_ok_iff _ _ _).mp h
  obtain ⟨_, _, h⟩ := (checked_ok_iff _ _ _).mp h
  obtain ⟨_, hkview, h⟩ := (checked_ok_iff _ _ _).mp h
  obtain ⟨_, hvview, h⟩ := (checked_ok_iff _ _ _).mp h
  obtain ⟨corrected, hc, h⟩ := (checked_ok_iff _ _ _).mp h
  have hkey := stagingRows_reshaped hshape (raiseNone_ok hk) (raiseNone_ok hkr)
  have hvalue := stagingRows_reshaped hshape (raiseNone_ok hv) (raiseNone_ok hvr)
  have hkcells := pagedRows_cells (raiseNone_ok hkd) (validateView_shape hkview)
  have hvcells := pagedRows_cells (raiseNone_ok hvd) (validateView_shape hvview)
  unfold correctKeys at hc
  obtain ⟨tensor, ht, hc⟩ := (checked_ok_iff _ _ _).mp hc
  obtain ⟨_, hview, hc⟩ := (checked_ok_iff _ _ _).mp hc
  cases hc
  cases h
  refine ⟨tensor, ?_, tensor.exact _ (validateView_shape ((mapError_ok_iff _ _ _).mp hview)), ?_⟩
  · rw [← raiseNone_ok ht, stagedRows, hkey]
    rfl
  · rw [hkcells, hvcells, stagedRows, hvalue]

def pagedCopy (span : LayerTokenScatterSpan) (component : KvComponent) (rows : List (HeadRow δ)) :
    PreparedCopy PagedCell (HeadRow δ) :=
  ⟨pagedCells span.layerName component span.groupSpan.blockId span.groupSpan.blockOffset
    span.tokenCount, rows⟩

theorem pagedCopy_sound {span : LayerTokenScatterSpan} {component : KvComponent}
    {rows : List (HeadRow δ)} {w : PagedCell × HeadRow δ}
    (h : w ∈ (pagedCopy span component rows).writes) :
    ∃ position, Holds span.targetRange position ∧ w.1 = cellAt span component position ∧
      rows[position-span.targetRange.start]? = some w.2 := by
  change w ∈ ((List.range span.tokenCount).map _).zip rows at h
  obtain ⟨i, hi, hcell, hrow⟩ := mem_zip_range h
  have hsize : span.tokenCount = span.targetRange.stop-span.targetRange.start := rfl
  refine ⟨span.targetRange.start+i, ⟨by omega, by omega⟩, hcell.trans ?_, ?_⟩
  · unfold cellAt
    rw [Nat.add_sub_cancel_left]
  · rwa [Nat.add_sub_cancel_left]

theorem pagedCopy_complete {span : LayerTokenScatterSpan} (component : KvComponent)
    {rows : List (HeadRow δ)} (hn : rows.length = span.tokenCount) {position : ℕ}
    (hp : Holds span.targetRange position) :
    ∃ w ∈ (pagedCopy span component rows).writes, w.1 = cellAt span component position := by
  have hi : position-span.targetRange.start < span.tokenCount := by
    show _ < span.targetRange.stop-span.targetRange.start
    have hl := hp.1
    have hr := hp.2
    omega
  exact zip_range_covers _ hn hi

/-- The copies of a span write every position of it in both components. -/
structure SpanWrites (correct : KeyPositionCorrector δ) (staging : StagingCell → FlatRow δ)
    (offset : ℤ) (span : LayerTokenScatterSpan) (ws : List (PagedCell × HeadRow δ)) : Prop where
  sound : ∀ w ∈ ws, ∃ position, Holds span.targetRange position ∧
    Scattered correct staging offset span position w
  complete : ∀ position, Holds span.targetRange position → ∀ component, ∃ w ∈ ws,
    w.1 = cellAt span component position

theorem stagedValue_row {staging : StagingCell → FlatRow δ} {offset : ℤ}
    {span : LayerTokenScatterSpan} {component : KvComponent} {position : ℕ} {row : HeadRow δ}
    (hp : Holds span.targetRange position)
    (h : ((stagingCells component span.layerIndex (offset+span.targetRange.start)
      span.tokenCount).map (fun cell => heads (staging cell)))[position-span.targetRange.start]? =
        some row) :
    row = heads (staging ⟨component, span.layerIndex, offset+position⟩) := by
  have hl := hp.1
  have hi : position-span.targetRange.start < span.tokenCount := by
    show _ < span.targetRange.stop-span.targetRange.start
    have hr := hp.2
    omega
  have htoken : offset+span.targetRange.start+((position-span.targetRange.start : ℕ) : ℤ) =
      offset+position := by omega
  unfold stagingCells at h
  rw [List.map_map, List.getElem?_map, List.getElem?_range hi, Option.map_some,
    Option.some.injEq, Function.comp_apply, htoken] at h
  exact h.symm

theorem prepareScatterSpan_writes {tensors : Tensors} {runtime : TensorRuntime}
    {correct : KeyPositionCorrector δ} {m : DataPlaneMemory δ} {cache : TensorInfo}
    {span : LayerTokenScatterSpan} {offset : ℤ} {tokens : ℕ}
    {copies : List (PreparedCopy PagedCell (HeadRow δ))}
    (hshape : tensors.staging.shape = [kvComponents, gptOssNumLayers, tokens, gptOssKvWidth])
    (h : prepareScatterSpan tensors runtime correct m cache span
      (offset+span.targetRange.start) = .ok copies) :
    SpanWrites correct m.staging offset span (copies.flatMap PreparedCopy.writes) := by
  obtain ⟨tensor, ht, hlen, hcopies⟩ := prepareScatterSpan_ok hshape h
  have hwrites : copies.flatMap PreparedCopy.writes =
      (pagedCopy span .key tensor.rows).writes ++ (pagedCopy span .value ((stagingCells .value
        span.layerIndex (offset+span.targetRange.start) span.tokenCount).map
          (fun cell => heads (m.staging cell)))).writes := by
    rw [hcopies, List.flatMap_cons, List.flatMap_cons, List.flatMap_nil, List.append_nil]
    rfl
  rw [hwrites]
  constructor
  · intro w hw
    obtain hw | hw := List.mem_append.mp hw
    · obtain ⟨position, hp, hcell, hrow⟩ := pagedCopy_sound hw
      have hkey : w = (cellAt span .key position, w.2) := Prod.ext hcell rfl
      rw [hkey]
      exact ⟨position, hp, .key _ ⟨tensor, ht, hrow⟩⟩
    · obtain ⟨position, hp, hcell, hrow⟩ := pagedCopy_sound hw
      have hvalue : w = (cellAt span .value position, heads (m.staging
          ⟨.value, span.layerIndex, offset+position⟩)) :=
        Prod.ext hcell (stagedValue_row hp hrow)
      rw [hvalue]
      exact ⟨position, hp, .value⟩
  · intro position hp component
    cases component with
    | key =>
      obtain ⟨w, hw, hk⟩ := pagedCopy_complete .key hlen hp
      exact ⟨w, List.mem_append_left _ hw, hk⟩
    | value =>
      have hstaged : ((stagingCells .value span.layerIndex (offset+span.targetRange.start)
          span.tokenCount).map (fun cell => heads (m.staging cell))).length =
            span.tokenCount := by
        simp [stagingCells]
      obtain ⟨w, hw, hk⟩ := pagedCopy_complete .value hstaged hp
      exact ⟨w, List.mem_append_right _ hw, hk⟩

/-! ## Runs of scatters -/

/-- One scatter of a plan, with what the tensor library does in it. -/
structure ScatterCall where
  plan : TokenScatterPlan
  retrievalBufferOffset : ℤ
  queryTokenCount : ℤ
  runtime : TensorRuntime

def scatter (tensors : Tensors) (correct : KeyPositionCorrector δ) (c : ScatterCall) :
    Call (DataPlaneMemory δ) DataPlaneError DataPlaneReceipt :=
  scatterRetrievedKv tensors c.runtime correct c.plan.layerSpans c.retrievalBufferOffset
    c.queryTokenCount

def scatterAll (tensors : Tensors) (correct : KeyPositionCorrector δ) :
    List ScatterCall → Call (DataPlaneMemory δ) DataPlaneError (List DataPlaneReceipt)
  | [] => pure []
  | c::cs => do
    let receipt ← scatter tensors correct c
    let receipts ← scatterAll tensors correct cs
    pure (receipt::receipts)

/-- The writes of a run: those of every position of every planned span. -/
structure RunWrites (correct : KeyPositionCorrector δ) (staging : StagingCell → FlatRow δ)
    (calls : List ScatterCall) (ws : List (PagedCell × HeadRow δ)) : Prop where
  sound : ∀ w ∈ ws, ∃ c ∈ calls, ∃ span ∈ c.plan.layerSpans, ∃ position,
    Holds span.targetRange position ∧
      Scattered correct staging c.retrievalBufferOffset span position w
  complete : ∀ c ∈ calls, ∀ span ∈ c.plan.layerSpans, ∀ position,
    Holds span.targetRange position → ∀ component, ∃ w ∈ ws, w.1 = cellAt span component position

theorem scatter_returns {tensors : Tensors} {correct : KeyPositionCorrector δ} {c : ScatterCall}
    {m m' : DataPlaneMemory δ} {receipt : DataPlaneReceipt}
    (h : scatter tensors correct c m = (.ok receipt, m')) :
    m'.staging = m.staging ∧ ∃ ws, RunWrites correct m.staging [c] ws ∧
      m'.paged = writeAll m.paged ws := by
  unfold scatter scatterRetrievedKv at h
  obtain ⟨validated, hv, h⟩ := (Call.lift_bind_iff _ _ _ _ _).mp h
  rw [Call.read_bind] at h
  obtain ⟨prepared, hp, h⟩ := (Call.lift_bind_iff _ _ _ _ _).mp h
  obtain ⟨u, paged, hpaged, h⟩ := (Call.within_bind_iff _ _ _ _ _ _ _ _).mp h
  obtain ⟨_, hm⟩ := (Call.lift_ok_iff _ _ _ _).mp h
  unfold preflightScatter at hv
  obtain ⟨v, hcommon, hv⟩ := (checked_ok_iff _ _ _).mp hv
  obtain ⟨_, hv⟩ := (require_then_iff _ _ _ _).mp hv
  obtain ⟨_, hv⟩ := (require_then_iff _ _ _ _).mp hv
  obtain ⟨_, hv⟩ := (require_then_iff _ _ _ _).mp hv
  obtain ⟨_, hv⟩ := (require_then_iff _ _ _ _).mp hv
  obtain ⟨_, hv⟩ := (require_then_iff _ _ _ _).mp hv
  injection hv with hv
  subst hv
  obtain ⟨hspans, hshape⟩ := preflightCommon_ok hcommon
  have hmem := validateSpans_mem hspans
  have hprepared : List.Forall₂ (fun span copies => SpanWrites correct m.staging
      c.retrievalBufferOffset span (copies.flatMap PreparedCopy.writes)) v.spans prepared := by
    refine forall₂_imp ((mapM_returns_iff _ _ _).mp hp) fun span _ copies hc => ?_
    unfold prepareScatter at hc
    obtain ⟨cache, _, hc⟩ := (checked_ok_iff _ _ _).mp hc
    exact prepareScatterSpan_writes hshape hc
  subst hm
  refine ⟨rfl, prepared.flatten.flatMap PreparedCopy.writes, ⟨?_, ?_⟩,
    applyFrom_returns _ _ _ _ _ _ hpaged⟩
  · intro w hw
    obtain ⟨copy, hcopy, hw⟩ := List.mem_flatMap.mp hw
    obtain ⟨copies, hcopies, hcopy⟩ := List.mem_flatten.mp hcopy
    obtain ⟨span, hspan, hwrites⟩ := forall₂_right hprepared hcopies
    obtain ⟨position, hpos, hs⟩ := hwrites.sound w (List.mem_flatMap.mpr ⟨copy, hcopy, hw⟩)
    exact ⟨c, List.mem_cons_self, span, (hmem span).mp hspan, position, hpos, hs⟩
  · intro c' hc' span hspan position hpos component
    obtain rfl := List.mem_singleton.mp hc'
    obtain ⟨copies, hcopies, hwrites⟩ := forall₂_left hprepared ((hmem span).mpr hspan)
    obtain ⟨w, hw, hk⟩ := hwrites.complete position hpos component
    obtain ⟨copy, hcopy, hw⟩ := List.mem_flatMap.mp hw
    exact ⟨w, List.mem_flatMap.mpr ⟨copy, List.mem_flatten.mpr ⟨copies, hcopies, hcopy⟩, hw⟩, hk⟩

theorem RunWrites.append {correct : KeyPositionCorrector δ} {staging : StagingCell → FlatRow δ}
    {calls calls' : List ScatterCall} {ws ws' : List (PagedCell × HeadRow δ)}
    (h : RunWrites correct staging calls ws) (h' : RunWrites correct staging calls' ws') :
    RunWrites correct staging (calls++calls') (ws++ws') := by
  constructor
  · intro w hw
    obtain hw | hw := List.mem_append.mp hw
    · obtain ⟨c, hc, hs⟩ := h.sound w hw
      exact ⟨c, List.mem_append_left _ hc, hs⟩
    · obtain ⟨c, hc, hs⟩ := h'.sound w hw
      exact ⟨c, List.mem_append_right _ hc, hs⟩
  · intro c hc span hspan position hp component
    obtain hc | hc := List.mem_append.mp hc
    · obtain ⟨w, hw, hk⟩ := h.complete c hc span hspan position hp component
      exact ⟨w, List.mem_append_left _ hw, hk⟩
    · obtain ⟨w, hw, hk⟩ := h'.complete c hc span hspan position hp component
      exact ⟨w, List.mem_append_right _ hw, hk⟩

theorem scatterAll_returns {tensors : Tensors} {correct : KeyPositionCorrector δ}
    (calls : List ScatterCall) {m m' : DataPlaneMemory δ} {receipts : List DataPlaneReceipt}
    (h : scatterAll tensors correct calls m = (.ok receipts, m')) :
    m'.staging = m.staging ∧ ∃ ws, RunWrites correct m.staging calls ws ∧
      m'.paged = writeAll m.paged ws := by
  induction calls generalizing m receipts with
  | nil =>
    obtain ⟨_, rfl⟩ := (Call.pure_ok_iff _ _ _ _).mp h
    exact ⟨rfl, [], ⟨fun w hw => absurd hw List.not_mem_nil,
      fun c hc => absurd hc List.not_mem_nil⟩, rfl⟩
  | cons c cs ih =>
    unfold scatterAll at h
    obtain ⟨receipt, m₁, hc, h⟩ := (Call.bind_ok_iff _ _ _ _ _).mp h
    obtain ⟨rest, m₂, hcs, h⟩ := (Call.bind_ok_iff _ _ _ _ _).mp h
    obtain ⟨_, rfl⟩ := (Call.pure_ok_iff _ _ _ _).mp h
    obtain ⟨hs, ws, hws, hpaged⟩ := scatter_returns hc
    obtain ⟨hs', ws', hws', hpaged'⟩ := ih hcs
    rw [hs] at hws'
    exact ⟨hs'.trans hs, ws++ws', hws.append hws', by rw [hpaged', hpaged, writeAll_append]⟩

/-! ## Failures -/

theorem scatterReceipt_passes (runtime : TensorRuntime) (v : ValidatedSpans) :
    (scatterReceipt runtime v).check = .ok (scatterReceipt runtime v) := by
  have hsum : 0 ≤ (v.spans.map runtime.correctionLatency).sum := by
    refine List.sum_nonneg fun latency hm => ?_
    obtain ⟨span, _, rfl⟩ := List.mem_map.mp hm
    exact runtime.latency_nonneg span
  exact (require_then_iff _ _ _ _).mpr ⟨rfl, (require_then_iff _ _ _ _).mpr ⟨hsum, rfl⟩⟩

theorem scatter_failure {tensors : Tensors} {runtime : TensorRuntime}
    {correct : KeyPositionCorrector δ} {spans : List LayerTokenScatterSpan} {offset query : ℤ}
    {m m' : DataPlaneMemory δ} {e : DataPlaneError}
    (h : scatterRetrievedKv tensors runtime correct spans offset query m = (.error e, m'))
    (hne : e.code ≠ .mutationFailed) : m' = m := by
  unfold scatterRetrievedKv at h
  rw [Call.bind_run, Call.lift_run] at h
  cases hv : preflightScatter tensors spans offset query with
  | error e' =>
    rw [hv] at h
    cases h
    rfl
  | ok v =>
    rw [hv] at h
    dsimp only at h
    rw [Call.read_bind, Call.bind_run, Call.lift_run] at h
    cases hp : v.spans.mapM (prepareScatter tensors runtime correct m offset) with
    | error e' =>
      rw [hp] at h
      cases h
      rfl
    | ok prepared =>
      rw [hp] at h
      dsimp only at h
      rw [Call.bind_run] at h
      unfold applyPaged Call.within at h
      rcases ha : applyFrom runtime 0 prepared.flatten m.paged with ⟨e' | u, paged⟩ <;>
        rw [ha] at h <;> dsimp only at h
      · cases h
        obtain rfl := applyFrom_raises _ _ _ _ _ _ ha
        exact absurd rfl hne
      · rw [Call.lift_run, scatterReceipt_passes] at h
        cases h

theorem gather_failure {tensors : Tensors} {runtime : TensorRuntime}
    {spans : List LayerTokenScatterSpan} {document : TokenRange} {offset : ℤ}
    {m m' : DataPlaneMemory δ} {e : DataPlaneError}
    (h : gatherPrecomputedKv tensors runtime spans document offset m = (.error e, m'))
    (hne : e.code ≠ .mutationFailed) : m' = m := by
  unfold gatherPrecomputedKv at h
  rw [Call.bind_run, Call.lift_run] at h
  cases hv : preflightGather tensors spans document offset with
  | error e' =>
    rw [hv] at h
    cases h
    rfl
  | ok v =>
    rw [hv] at h
    dsimp only at h
    rw [Call.read_bind, Call.bind_run, Call.lift_run] at h
    cases hp : v.spans.mapM (prepareGather tensors runtime m document offset) with
    | error e' =>
      rw [hp] at h
      cases h
      rfl
    | ok prepared =>
      rw [hp] at h
      dsimp only at h
      rw [Call.bind_run] at h
      unfold applyStaging Call.within at h
      rcases ha : applyFrom runtime 0 prepared.flatten m.staging with ⟨e' | u, staging⟩ <;>
        rw [ha] at h <;> dsimp only at h
      · cases h
        obtain rfl := applyFrom_raises _ _ _ _ _ _ ha
        exact absurd rfl hne
      · cases h

theorem gather_keeps_paged (tensors : Tensors) (runtime : TensorRuntime)
    (spans : List LayerTokenScatterSpan) (document : TokenRange) (offset : ℤ)
    (m : DataPlaneMemory δ) :
    (gatherPrecomputedKv tensors runtime spans document offset m).2.paged = m.paged := by
  have hkeeps : Call.Keeps (fun m' : DataPlaneMemory δ => m'.paged = m.paged)
      (gatherPrecomputedKv tensors runtime spans document offset) := by
    refine Call.keeps_bind (Call.keeps_lift _ _) fun v => Call.keeps_bind (fun _ h => h) fun m₁ =>
      Call.keeps_bind (Call.keeps_lift _ _) fun prepared => Call.keeps_bind ?_ fun _ =>
        Call.keeps_lift _ _
    intro s hs
    unfold applyStaging Call.within
    split <;> exact hs
  exact hkeeps m rfl

/-! ## Gathers -/

def stagedAt (span : LayerTokenScatterSpan) (component : KvComponent) (document : TokenRange)
    (offset : ℤ) (position : ℕ) : StagingCell :=
  ⟨component, span.layerIndex, offset+((position : ℤ)-document.start)⟩

/-- The writes of a gather: the row of every position and component of the spans. -/
structure GatherWrites (m : DataPlaneMemory δ) (document : TokenRange) (offset : ℤ)
    (spans : List LayerTokenScatterSpan) (ws : List (StagingCell × FlatRow δ)) : Prop where
  sound : ∀ w ∈ ws, ∃ span ∈ spans, ∃ position, Holds span.targetRange position ∧ ∃ component,
    w = (stagedAt span component document offset position,
      flatten (m.paged (cellAt span component position)))
  complete : ∀ span ∈ spans, ∀ position, Holds span.targetRange position → ∀ component,
    ∃ w ∈ ws, w.1 = stagedAt span component document offset position

def stagingCopy (m : DataPlaneMemory δ) (span : LayerTokenScatterSpan) (document : TokenRange)
    (offset : ℤ) (component : KvComponent) : PreparedCopy StagingCell (FlatRow δ) :=
  ⟨stagingCells component span.layerIndex (offset+(span.targetRange.start-document.start))
      span.tokenCount,
    (pagedCells span.layerName component span.groupSpan.blockId span.groupSpan.blockOffset
      span.tokenCount).map (fun cell => flatten (m.paged cell))⟩

theorem prepareGatherSpan_ok {tensors : Tensors} {runtime : TensorRuntime}
    {m : DataPlaneMemory δ} {cache : TensorInfo} {span : LayerTokenScatterSpan}
    {document : TokenRange} {offset : ℤ} {copies : List (PreparedCopy StagingCell (FlatRow δ))}
    (h : prepareGatherSpan tensors runtime m cache span
      (offset+(span.targetRange.start-document.start)) = .ok copies) :
    copies = [stagingCopy m span document offset .key,
      stagingCopy m span document offset .value] := by
  unfold prepareGatherSpan at h
  obtain ⟨_, h⟩ := (require_then_iff _ _ _ _).mp h
  obtain ⟨pagedKey, hpk, h⟩ := (checked_ok_iff _ _ _).mp h
  obtain ⟨pagedValue, hpv, h⟩ := (checked_ok_iff _ _ _).mp h
  obtain ⟨stagingKey, hsk, h⟩ := (checked_ok_iff _ _ _).mp h
  obtain ⟨stagingValue, hsv, h⟩ := (checked_ok_iff _ _ _).mp h
  obtain ⟨_, _, h⟩ := (checked_ok_iff _ _ _).mp h
  obtain ⟨_, _, h⟩ := (checked_ok_iff _ _ _).mp h
  obtain ⟨_, hkp, h⟩ := (checked_ok_iff _ _ _).mp h
  obtain ⟨_, hvp, h⟩ := (checked_ok_iff _ _ _).mp h
  obtain ⟨_, _, h⟩ := (checked_ok_iff _ _ _).mp h
  obtain ⟨_, _, h⟩ := (checked_ok_iff _ _ _).mp h
  obtain ⟨_, hks, h⟩ := (checked_ok_iff _ _ _).mp h
  obtain ⟨_, hvs, h⟩ := (checked_ok_iff _ _ _).mp h
  cases h
  rw [pagedRows_cells (raiseNone_ok hpk) (validateView_shape hkp),
    pagedRows_cells (raiseNone_ok hpv) (validateView_shape hvp),
    stagingRows_cells (raiseNone_ok hsk) (validateView_shape hks),
    stagingRows_cells (raiseNone_ok hsv) (validateView_shape hvs)]
  rfl

theorem stagingCopy_sound {m : DataPlaneMemory δ} {span : LayerTokenScatterSpan}
    {document : TokenRange} {offset : ℤ} {component : KvComponent} {w : StagingCell × FlatRow δ}
    (h : w ∈ (stagingCopy m span document offset component).writes) :
    ∃ position, Holds span.targetRange position ∧
      w = (stagedAt span component document offset position,
        flatten (m.paged (cellAt span component position))) := by
  obtain ⟨i, hi, hcell, hrow⟩ := mem_zip_range h
  have hsize : span.tokenCount = span.targetRange.stop-span.targetRange.start := rfl
  refine ⟨span.targetRange.start+i, ⟨by omega, by omega⟩, Prod.ext (hcell.trans ?_) ?_⟩
  · unfold stagedAt
    rw [StagingCell.mk.injEq]
    exact ⟨rfl, rfl, by push_cast; ring⟩
  · change (((List.range span.tokenCount).map _).map _)[i]? = _ at hrow
    rw [List.map_map, List.getElem?_map, List.getElem?_range hi, Option.map_some,
      Option.some.injEq, Function.comp_apply] at hrow
    show w.2 = flatten (m.paged (cellAt span component (span.targetRange.start+i)))
    unfold cellAt
    rw [← hrow, Nat.add_sub_cancel_left]

theorem stagingCopy_complete (m : DataPlaneMemory δ) (span : LayerTokenScatterSpan)
    (document : TokenRange) (offset : ℤ) (component : KvComponent) {position : ℕ}
    (hp : Holds span.targetRange position) :
    ∃ w ∈ (stagingCopy m span document offset component).writes,
      w.1 = stagedAt span component document offset position := by
  have hl := hp.1
  have hi : position-span.targetRange.start < span.tokenCount := by
    show _ < span.targetRange.stop-span.targetRange.start
    have hr := hp.2
    omega
  have hn : (stagingCopy m span document offset component).source.length = span.tokenCount := by
    unfold stagingCopy pagedCells
    rw [List.length_map, List.length_map, List.length_range]
  obtain ⟨w, hw, hk⟩ := zip_range_covers (fun i : ℕ => (⟨component, span.layerIndex,
    offset+(span.targetRange.start-document.start)+i⟩ : StagingCell)) hn hi
  refine ⟨w, hw, hk.trans ?_⟩
  unfold stagedAt
  rw [StagingCell.mk.injEq]
  exact ⟨rfl, rfl, by omega⟩

theorem gather_returns {tensors : Tensors} {runtime : TensorRuntime}
    {spans : List LayerTokenScatterSpan} {document : TokenRange} {offset : ℤ}
    {m m' : DataPlaneMemory δ} {receipt : DataPlaneReceipt}
    (h : gatherPrecomputedKv tensors runtime spans document offset m = (.ok receipt, m')) :
    m'.paged = m.paged ∧ ∃ ws, GatherWrites m document offset spans ws ∧
      m'.staging = writeAll m.staging ws := by
  unfold gatherPrecomputedKv at h
  obtain ⟨validated, hv, h⟩ := (Call.lift_bind_iff _ _ _ _ _).mp h
  rw [Call.read_bind] at h
  obtain ⟨prepared, hp, h⟩ := (Call.lift_bind_iff _ _ _ _ _).mp h
  obtain ⟨u, staging, hstaging, h⟩ := (Call.within_bind_iff _ _ _ _ _ _ _ _).mp h
  obtain ⟨_, hm⟩ := (Call.lift_ok_iff _ _ _ _).mp h
  unfold preflightGather at hv
  obtain ⟨v, hcommon, hv⟩ := (checked_ok_iff _ _ _).mp hv
  obtain ⟨_, hv⟩ := (require_then_iff _ _ _ _).mp hv
  obtain ⟨_, hv⟩ := (require_then_iff _ _ _ _).mp hv
  obtain ⟨_, hv⟩ := (require_then_iff _ _ _ _).mp hv
  injection hv with hv
  subst hv
  have hmem := validateSpans_mem (preflightCommon_ok hcommon).1
  have hprepared : List.Forall₂ (fun span copies => copies =
      [stagingCopy m span document offset .key, stagingCopy m span document offset .value])
      v.spans prepared := by
    refine forall₂_imp ((mapM_returns_iff _ _ _).mp hp) fun span _ copies hc => ?_
    unfold prepareGather at hc
    obtain ⟨cache, _, hc⟩ := (checked_ok_iff _ _ _).mp hc
    exact prepareGatherSpan_ok hc
  subst hm
  refine ⟨rfl, prepared.flatten.flatMap PreparedCopy.writes, ⟨?_, ?_⟩,
    applyFrom_returns _ _ _ _ _ _ hstaging⟩
  · intro w hw
    obtain ⟨copy, hcopy, hw⟩ := List.mem_flatMap.mp hw
    obtain ⟨copies, hcopies, hcopy⟩ := List.mem_flatten.mp hcopy
    obtain ⟨span, hspan, rfl⟩ := forall₂_right hprepared hcopies
    have hcomponent : ∃ component, copy = stagingCopy m span document offset component := by
      obtain rfl | hcopy := List.mem_cons.mp hcopy
      · exact ⟨_, rfl⟩
      · exact ⟨_, List.mem_singleton.mp hcopy⟩
    obtain ⟨component, rfl⟩ := hcomponent
    obtain ⟨position, hpos, he⟩ := stagingCopy_sound hw
    exact ⟨span, (hmem span).mp hspan, position, hpos, component, he⟩
  · intro span hspan position hpos component
    obtain ⟨copies, hcopies, rfl⟩ := forall₂_left hprepared ((hmem span).mpr hspan)
    obtain ⟨w, hw, hk⟩ := stagingCopy_complete m span document offset component hpos
    refine ⟨w, List.mem_flatMap.mpr ⟨_, List.mem_flatten.mpr ⟨_, hcopies, ?_⟩, hw⟩, hk⟩
    cases component with
    | key => exact List.mem_cons_self
    | value => exact List.mem_cons_of_mem _ List.mem_cons_self

end

end CacheBlend.PagedScatter
