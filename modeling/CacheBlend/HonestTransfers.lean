import CacheBlend.EvidencedTransfers

/-!
# Honest transfers

Scatters that return leave rows with the very preimages of their corrected
sources. So a probe that samples them finds equal digests, and the evidence of
a layer is refused only when its rows change between its save hook and the end.
-/

set_option autoImplicit false

namespace CacheBlend.HonestTransfers
open CacheBlend.PlannerModels CacheBlend.HybridLayout CacheBlend.ScatterSpans
open CacheBlend.TokenScatter CacheBlend.DataPlane CacheBlend.PagedScatter
open CacheBlend.ExactScatters CacheBlend.JsonValues CacheBlend.TransferProbe
open CacheBlend.ProbeFrames CacheBlend.EvidencedTransfers
open CacheBlend.LayerEvidence (LayerTransferEvidence LayerFields checkLayer)

/-! ## Spans that a scatter has prepared -/

section
variable {δ : Type}

/-- What a returned scatter has found at a span: its views, their dtypes and its corrected keys. -/
structure PreparedSpan (tensors : Tensors) (correct : KeyPositionCorrector δ)
    (staging : StagingCell → FlatRow δ) (offset : ℤ) (span : LayerTokenScatterSpan) : Prop where
  bounds : 0 < span.tokenCount ∧ span.targetRange.stop ≤ gptOssMaxContextTokens
  named : tensors.staging.dtypeName ≠ ""
  layer : span.layerName = layerName span.layerIndex
  cache : ∃ cache, tensors.paged.get? span.layerName = some cache ∧
    cache.dtypeName = tensors.staging.dtypeName ∧ ∀ component, ∃ view,
      pagedRows cache span.layerName component span.groupSpan.blockId span.groupSpan.blockOffset
        span.tokenCount = some view ∧ view.info.shape = headShape span.tokenCount
  staged : ∀ component, ∃ view info, stagingRows tensors.staging component span.layerIndex
    (offset+span.targetRange.start) span.tokenCount = some view ∧
      reshape view.info (headShape span.tokenCount) = some info
  corrected : ∃ tensor, correct (stagedKeys staging offset span) (positions span.sourceRange)
    (positions span.targetRange) span.layerIndex = some tensor ∧
      tensor.info.shape = headShape span.tokenCount ∧
      tensor.info.dtypeName = tensors.staging.dtypeName

theorem checkSpan_facts {seen seen' : GroupsSeen} {span : LayerTokenScatterSpan}
    (h : checkSpan seen span = .ok seen') : 0 < span.tokenCount ∧
      span.targetRange.stop ≤ gptOssMaxContextTokens ∧
      span.layerName = layerName span.layerIndex ∧ 0 ≤ span.layerIndex ∧
      span.layerIndex < gptOssNumLayers := by
  unfold checkSpan at h
  rcases (require_then_iff _ _ _ _).mp h with ⟨hgroup, h⟩
  rcases (require_then_iff _ _ _ _).mp h with ⟨hlayer, h⟩
  rcases (require_then_iff _ _ _ _).mp h with ⟨_, h⟩
  rcases (require_then_iff _ _ _ _).mp h with ⟨_, h⟩
  rcases (require_then_iff _ _ _ _).mp h with ⟨_, h⟩
  rcases (require_then_iff _ _ _ _).mp h with ⟨hcount, _⟩
  exact ⟨hcount.1, hgroup.2.2.2.2.2.2.2.2.2, hlayer.1, hlayer.2⟩

theorem validateSpans_facts {spans : List LayerTokenScatterSpan} {v : ValidatedSpans}
    (h : validateSpans spans = .ok v) :
    (∀ span ∈ spans, ∃ seen seen', checkSpan seen span = .ok seen') ∧
      v.layerNames = (List.range gptOssNumLayers).map (fun i : ℕ => layerName i) := by
  unfold validateSpans at h
  rcases (require_then_iff _ _ _ _).mp h with ⟨_, h⟩
  rcases (checked_ok_iff _ _ _).mp h with ⟨seen, hseen, h⟩
  rcases (require_then_iff _ _ _ _).mp h with ⟨_, h⟩
  rcases (require_then_iff _ _ _ _).mp h with ⟨_, h⟩
  rcases (checked_ok_iff _ _ _).mp h with ⟨ordered, _, h⟩
  refine ⟨fun span hspan => foldlM_each _ _ _ _ hseen hspan, ?_⟩
  dsimp only at h
  split at h <;> cases h
  rfl

theorem preflightCache_dtype {dtype device : String} {spans : List LayerTokenScatterSpan}
    {cache : TensorInfo} {name : String} {u : Unit}
    (h : preflightCache dtype device spans cache name = .ok u) : cache.dtypeName = dtype := by
  unfold preflightCache at h
  rcases (require_then_iff _ _ _ _).mp h with ⟨_, h⟩
  split at h
  next =>
    rcases (require_then_iff _ _ _ _).mp h with ⟨_, h⟩
    rcases (require_then_iff _ _ _ _).mp h with ⟨_, h⟩
    rcases (checked_ok_iff _ _ _).mp h with ⟨name', hname, h⟩
    rcases (require_then_iff _ _ _ _).mp h with ⟨hsame, _⟩
    unfold safeDtype at hname
    rcases (require_then_iff _ _ _ _).mp hname with ⟨_, hname⟩
    cases hname
    exact hsame
  next => cases h

theorem preflightCommon_dtypes {tensors : Tensors} {spans : List LayerTokenScatterSpan}
    {v : ValidatedSpans} (h : preflightCommon tensors spans = .ok v) :
    tensors.staging.dtypeName ≠ "" ∧ ∀ layerIndex < gptOssNumLayers, ∃ cache,
      tensors.paged.get? (layerName layerIndex) = some cache ∧
        cache.dtypeName = tensors.staging.dtypeName := by
  have hspans := (preflightCommon_ok h).1
  unfold preflightCommon at h
  rcases (checked_ok_iff _ _ _).mp h with ⟨v', hv', h⟩
  rcases (require_then_iff _ _ _ _).mp h with ⟨_, h⟩
  rcases (require_then_iff _ _ _ _).mp h with ⟨_, h⟩
  rcases (checked_ok_iff _ _ _).mp h with ⟨dtype, hdtype, h⟩
  rcases (checked_ok_iff _ _ _).mp h with ⟨device, _, h⟩
  rcases (require_then_iff _ _ _ _).mp h with ⟨_, h⟩
  rcases (checked_ok_iff _ _ _).mp h with ⟨_, hcaches, h⟩
  cases h
  unfold safeDtype at hdtype
  rcases (require_then_iff _ _ _ _).mp hdtype with ⟨hne, hdtype⟩
  cases hdtype
  refine ⟨hne, fun layerIndex hl => ?_⟩
  have hname : layerName layerIndex ∈ v.layerNames := by
    rw [(validateSpans_facts hspans).2]
    exact List.mem_map.mpr ⟨layerIndex, List.mem_range.mpr hl, rfl⟩
  have hcache := (forM_returns_iff _ _).mp hcaches _ hname
  rcases (checked_ok_iff _ _ _).mp hcache with ⟨cache, hget, hcache⟩
  unfold cacheOf at hget
  split at hget
  next cache' hget' =>
    cases hget
    exact ⟨cache, hget', preflightCache_dtype hcache⟩
  next => cases hget

theorem validateView_dtype {view owner : TensorInfo} {shape : List ℕ} {u : Unit}
    (h : validateView view shape owner = .ok u) : view.dtypeName = owner.dtypeName := by
  unfold validateView safeDtype at h
  rcases (require_then_iff _ _ _ _).mp h with ⟨_, h⟩
  rcases (checked_ok_iff _ _ _).mp h with ⟨d, hd, h⟩
  rcases (checked_ok_iff _ _ _).mp h with ⟨d', hd', h⟩
  rcases (require_then_iff _ _ _ _).mp h with ⟨hsame, _⟩
  rcases (require_then_iff _ _ _ _).mp hd with ⟨_, hd⟩
  rcases (require_then_iff _ _ _ _).mp hd' with ⟨_, hd'⟩
  cases hd
  cases hd'
  exact hsame

theorem correctKeys_ok {tensors : Tensors} {correct : KeyPositionCorrector δ}
    {span : LayerTokenScatterSpan} {rows rows' : List (HeadRow δ)}
    (h : correctKeys tensors correct span rows = .ok rows') : ∃ tensor,
      correct rows (positions span.sourceRange) (positions span.targetRange) span.layerIndex =
        some tensor ∧
      tensor.info.shape = headShape span.tokenCount ∧
      tensor.info.dtypeName = tensors.staging.dtypeName := by
  unfold correctKeys at h
  rcases (checked_ok_iff _ _ _).mp h with ⟨tensor, ht, h⟩
  rcases (checked_ok_iff _ _ _).mp h with ⟨_, hview, _⟩
  have hview := (mapError_ok_iff _ _ _).mp hview
  exact ⟨tensor, raiseNone_ok ht, validateView_shape hview, validateView_dtype hview⟩

theorem prepareScatter_ok {tensors : Tensors} {runtime : TensorRuntime}
    {correct : KeyPositionCorrector δ} {m : DataPlaneMemory δ} {offset : ℤ}
    {spans : List LayerTokenScatterSpan} {v : ValidatedSpans}
    (hcommon : preflightCommon tensors spans = .ok v) {span : LayerTokenScatterSpan}
    (hspan : span ∈ spans) {copies : List (PreparedCopy PagedCell (HeadRow δ))}
    (h : prepareScatter tensors runtime correct m offset span = .ok copies) :
    PreparedSpan tensors correct m.staging offset span := by
  rcases preflightCommon_ok hcommon with ⟨hspans, hshape⟩
  rcases preflightCommon_dtypes hcommon with ⟨hnamed, hdtypes⟩
  rcases (validateSpans_facts hspans).1 span hspan with ⟨_, _, hcheck⟩
  rcases checkSpan_facts hcheck with ⟨hcount, hstop, hname, hzero, hlt⟩
  unfold prepareScatter at h
  rcases (checked_ok_iff _ _ _).mp h with ⟨cache, hcache, h⟩
  unfold prepareScatterSpan at h
  rcases (require_then_iff _ _ _ _).mp h with ⟨_, h⟩
  rcases (checked_ok_iff _ _ _).mp h with ⟨stagedKey, hk, h⟩
  rcases (checked_ok_iff _ _ _).mp h with ⟨stagedValue, hv, h⟩
  rcases (checked_ok_iff _ _ _).mp h with ⟨keyRows, hkr, h⟩
  rcases (checked_ok_iff _ _ _).mp h with ⟨valueRows, hvr, h⟩
  rcases (checked_ok_iff _ _ _).mp h with ⟨keyDestination, hkd, h⟩
  rcases (checked_ok_iff _ _ _).mp h with ⟨valueDestination, hvd, h⟩
  rcases (checked_ok_iff _ _ _).mp h with ⟨_, _, h⟩
  rcases (checked_ok_iff _ _ _).mp h with ⟨_, _, h⟩
  rcases (checked_ok_iff _ _ _).mp h with ⟨_, hkview, h⟩
  rcases (checked_ok_iff _ _ _).mp h with ⟨_, hvview, h⟩
  rcases (checked_ok_iff _ _ _).mp h with ⟨rows, hcorrect, _⟩
  constructor
  · exact ⟨hcount, hstop⟩
  · exact hnamed
  · exact hname
  · rcases hdtypes span.layerIndex.toNat (by omega) with ⟨cache', hget, hdtype⟩
    rw [Int.toNat_of_nonneg hzero, ← hname] at hget
    unfold cacheOf at hcache
    rw [hget] at hcache
    cases hcache
    refine ⟨cache, hget, hdtype, fun component => ?_⟩
    cases component with
    | key => exact ⟨keyDestination, raiseNone_ok hkd, validateView_shape hkview⟩
    | value => exact ⟨valueDestination, raiseNone_ok hvd, validateView_shape hvview⟩
  · intro component
    cases component with
    | key => exact ⟨stagedKey, keyRows, raiseNone_ok hk, raiseNone_ok hkr⟩
    | value => exact ⟨stagedValue, valueRows, raiseNone_ok hv, raiseNone_ok hvr⟩
  · rcases correctKeys_ok hcorrect with ⟨tensor, ht, htensor⟩
    refine ⟨tensor, ?_, htensor⟩
    rw [← ht, stagedRows, stagingRows_reshaped hshape (raiseNone_ok hk) (raiseNone_ok hkr)]
    rfl

theorem scatter_prepared {tensors : Tensors} {correct : KeyPositionCorrector δ} {c : ScatterCall}
    {m m' : DataPlaneMemory δ} {receipt : DataPlaneReceipt}
    (h : scatter tensors correct c m = (.ok receipt, m')) : ∀ span ∈ c.plan.layerSpans,
      PreparedSpan tensors correct m.staging c.retrievalBufferOffset span := by
  unfold scatter scatterRetrievedKv at h
  rcases (Call.lift_bind_iff _ _ _ _ _).mp h with ⟨v, hv, h⟩
  rw [Call.read_bind] at h
  rcases (Call.lift_bind_iff _ _ _ _ _).mp h with ⟨prepared, hp, _⟩
  unfold preflightScatter at hv
  rcases (checked_ok_iff _ _ _).mp hv with ⟨v', hcommon, hv⟩
  rcases (require_then_iff _ _ _ _).mp hv with ⟨_, hv⟩
  rcases (require_then_iff _ _ _ _).mp hv with ⟨_, hv⟩
  rcases (require_then_iff _ _ _ _).mp hv with ⟨_, hv⟩
  rcases (require_then_iff _ _ _ _).mp hv with ⟨_, hv⟩
  rcases (require_then_iff _ _ _ _).mp hv with ⟨_, hv⟩
  cases hv
  intro span hspan
  have hvalid := (validateSpans_mem (preflightCommon_ok hcommon).1 span).mpr hspan
  rcases forall₂_left ((mapM_returns_iff _ _ _).mp hp) hvalid with ⟨copies, _, hcopies⟩
  exact prepareScatter_ok hcommon hspan hcopies

theorem scatterAll_prepared {tensors : Tensors} {correct : KeyPositionCorrector δ}
    (calls : List ScatterCall) {m m' : DataPlaneMemory δ} {receipts : List DataPlaneReceipt}
    (h : scatterAll tensors correct calls m = (.ok receipts, m')) : ∀ c ∈ calls,
      ∀ span ∈ c.plan.layerSpans,
        PreparedSpan tensors correct m.staging c.retrievalBufferOffset span := by
  induction calls generalizing m receipts with
  | nil => simp
  | cons c calls ih =>
    unfold scatterAll at h
    rcases (Call.bind_ok_iff _ _ _ _ _).mp h with ⟨receipt, m₁, hfirst, h⟩
    rcases (Call.bind_ok_iff _ _ _ _ _).mp h with ⟨rest, m₂, hrest, h⟩
    rcases (Call.pure_ok_iff _ _ _ _).mp h with ⟨_, rfl⟩
    have hkept := (scatter_returns hfirst).1
    refine List.forall_mem_cons.mpr ⟨scatter_prepared hfirst, ?_⟩
    have hlater := ih hrest
    rwa [hkept] at hlater

end

/-! ## Preimages that do not fail -/

section
variable {δ : Type} {env : ProbeEnvironment δ}

/-- No view and no read raises, and the name of the dtype fits its frame. -/
structure Legible (env : ProbeEnvironment δ) : Prop where
  views : ∀ span, env.viewRaises span = false
  reads : ∀ info, env.readRaises info = false
  dtypeName : (utf8 env.tensors.staging.dtypeName).length < 2^16

/-- A view of all rows of a span, with the dtype of the tensors. -/
structure WholeSpan (env : ProbeEnvironment δ) (span : LayerTokenScatterSpan) (t : ShownRows δ)
    (shown : List (HeadRow δ)) : Prop where
  bounds : 0 < span.tokenCount ∧ span.targetRange.stop ≤ gptOssMaxContextTokens
  named : env.tensors.staging.dtypeName ≠ ""
  shape : t.info.shape = headShape span.tokenCount
  dtypeName : t.info.dtypeName = env.tensors.staging.dtypeName
  rows : t.rows = shown
  length : shown.length = span.tokenCount

def shownView (env : ProbeEnvironment δ) (span : LayerTokenScatterSpan)
    (shown : List (HeadRow δ)) : TensorView :=
  ⟨headShape span.tokenCount, env.tensors.staging.dtypeName, payloadOf env.element shown⟩

def shownFrame (env : ProbeEnvironment δ) (spans : List LayerTokenScatterSpan)
    (rows : LayerTokenScatterSpan → List (HeadRow δ)) : Bytes :=
  framedViews (spans.map fun span => shownView env span (rows span))

theorem payload_bounds {shown : List (HeadRow δ)} (hn : 0 < shown.length)
    (hb : shown.length ≤ gptOssMaxContextTokens) :
    0 < (payloadOf env.element shown).length ∧ (payloadOf env.element shown).length < 2^64 := by
  have hpositive := env.element.positive
  have hnarrow := env.element.narrow
  have hbound : gptOssMaxContextTokens = 131072 := rfl
  have hwidth : gptOssKvWidth = 512 := rfl
  rw [payloadOf_length, hwidth]
  constructor
  · exact Nat.mul_pos (Nat.mul_pos hn (by decide)) hpositive
  · calc shown.length*512*env.element.width ≤ 131072*512*16 :=
          Nat.mul_le_mul (Nat.mul_le_mul_right 512 (hbound ▸ hb)) hnarrow
      _ < 2^64 := by norm_num

theorem readView_of (he : Legible env) {span : LayerTokenScatterSpan} {t : ShownRows δ}
    {shown : List (HeadRow δ)} (h : WholeSpan env span t shown) :
    readView env t = .ok (shownView env span shown) := by
  have hcount : span.tokenCount = span.targetRange.stop-span.targetRange.start := rfl
  have hbounds := h.bounds
  have hlength := h.length
  have hpayload : 0 < (payloadOf env.element shown).length ∧
      (payloadOf env.element shown).length < 2^64 := payload_bounds (by omega) (by omega)
  have hview : (⟨t.info.shape, t.info.dtypeName, payloadOf env.element t.rows⟩ : TensorView) =
      shownView env span shown := by
    rw [h.shape, h.dtypeName, h.rows]
    rfl
  have hfits : Fits (shownView env span shown) := by
    refine ⟨⟨?_, ?_⟩, he.dtypeName, hpayload.2⟩
    · show 3 < 2^16
      decide
    · intro dimension hd
      simp only [shownView, headShape, List.mem_cons, List.not_mem_nil, or_false,
        gptOssNumKvHeads, gptOssHeadDim] at hd
      have hmax : gptOssMaxContextTokens = 131072 := rfl
      omega
  unfold readView
  rw [hview]
  exact (require_then_iff _ _ _ _).mpr ⟨he.reads _, (require_then_iff _ _ _ _).mpr
    ⟨⟨List.cons_ne_nil _ _, h.named, List.ne_nil_of_length_pos hpayload.1⟩,
      (require_then_iff _ _ _ _).mpr ⟨hfits, rfl⟩⟩⟩

theorem frameViews_of (he : Legible env) {spans : List LayerTokenScatterSpan}
    {ts : List (ShownRows δ)} {rows : LayerTokenScatterSpan → List (HeadRow δ)}
    (hl : spans.length < 2^32)
    (h : List.Forall₂ (fun span t => WholeSpan env span t (rows span)) spans ts) :
    frameViews env ts = .ok (shownFrame env spans rows) := by
  unfold frameViews
  refine (require_then_iff _ _ _ _).mpr ⟨h.length_eq ▸ hl, (checked_ok_iff _ _ _).mpr
    ⟨spans.map fun span => shownView env span (rows span), ?_, rfl⟩⟩
  apply (mapM_returns_iff _ _ _).mpr
  rw [List.forall₂_map_right_iff]
  exact h.flip.imp fun _ _ hw => readView_of he hw

/-! ## Views of prepared spans -/

variable {staging : StagingCell → FlatRow δ} {offset : ℤ} {span : LayerTokenScatterSpan}

theorem pagedRows_dtype {cache : TensorInfo} {name : String} {component : KvComponent}
    {block start : ℤ} {count : ℕ} {view : RowView PagedCell}
    (h : pagedRows cache name component block start count = some view) :
    view.info.dtypeName = cache.dtypeName := by
  unfold pagedRows at h
  split at h
  next =>
    split_ifs at h
    cases h
    rfl
  next => cases h

theorem stagingRows_dtype {tensor info : TensorInfo} {component : KvComponent} {layer start : ℤ}
    {count : ℕ} {shape : List ℕ} {view : RowView StagingCell}
    (h : stagingRows tensor component layer start count = some view)
    (hr : reshape view.info shape = some info) :
    info.shape = shape ∧ info.dtypeName = tensor.dtypeName := by
  unfold stagingRows at h
  unfold reshape at hr
  split at h
  next =>
    split_ifs at h
    cases h
    split_ifs at hr
    cases hr
    exact ⟨rfl, rfl⟩
  next => cases h

def rowsAt (m : DataPlaneMemory δ) (span : LayerTokenScatterSpan) (component : KvComponent) :
    List (HeadRow δ) :=
  (pagedCells span.layerName component span.groupSpan.blockId span.groupSpan.blockOffset
    span.tokenCount).map m.paged

theorem rowsAt_length (m : DataPlaneMemory δ) (component : KvComponent) :
    (rowsAt m span component).length = span.tokenCount := by
  simp [rowsAt, pagedCells]

theorem orRaised_some {α : Type} {x : Option α} {a : α} (h : x = some a) : orRaised x = .ok a := by
  rw [h]
  rfl

theorem pagedView_of (hp : PreparedSpan env.tensors env.correct staging offset span)
    (he : Legible env) {layerIndex : ℕ}
    (hi : span.layerIndex = layerIndex) {cache : TensorInfo}
    (hcache : env.tensors.paged.get? (layerName layerIndex) = some cache)
    (m : DataPlaneMemory δ) : ∃ views, pagedView env m cache layerIndex span = .ok views ∧
      WholeSpan env span views.1 (rowsAt m span .key) ∧
      WholeSpan env span views.2 (rowsAt m span .value) := by
  have hname : span.layerName = layerName layerIndex := hi ▸ hp.layer
  rcases hp.cache with ⟨cache', hget, hdtype, hshown⟩
  rw [hname, hcache] at hget
  cases hget
  rcases hshown .key with ⟨key, hkey, hkshape⟩
  rcases hshown .value with ⟨value, hvalue, hvshape⟩
  have hkcells := pagedRows_cells hkey hkshape
  have hvcells := pagedRows_cells hvalue hvshape
  refine ⟨(⟨key.info, key.cells.map m.paged⟩, ⟨value.info, value.cells.map m.paged⟩), ?_,
    ⟨hp.bounds, hp.named, hkshape, (pagedRows_dtype hkey).trans hdtype,
      congrArg (List.map m.paged) hkcells, rowsAt_length m .key⟩,
    ⟨hp.bounds, hp.named, hvshape, (pagedRows_dtype hvalue).trans hdtype,
      congrArg (List.map m.paged) hvcells, rowsAt_length m .value⟩⟩
  rw [hname] at hkey hvalue
  unfold pagedView
  exact (require_then_iff _ _ _ _).mpr ⟨he.views span,
    (checked_ok_iff _ _ _).mpr ⟨key, orRaised_some hkey,
      (checked_ok_iff _ _ _).mpr ⟨value, orRaised_some hvalue, rfl⟩⟩⟩

def sourceRows (staging : StagingCell → FlatRow δ) (offset : ℤ) (span : LayerTokenScatterSpan)
    (component : KvComponent) : List (HeadRow δ) :=
  (stagingCells component span.layerIndex (offset+span.targetRange.start) span.tokenCount).map
    fun cell => heads (staging cell)

theorem sourceRows_length (component : KvComponent) :
    (sourceRows staging offset span component).length = span.tokenCount := by
  simp [sourceRows, stagingCells]

def correctedRows (correct : KeyPositionCorrector δ) (staging : StagingCell → FlatRow δ)
    (offset : ℤ) (span : LayerTokenScatterSpan) : List (HeadRow δ) :=
  match correct (stagedKeys staging offset span) (positions span.sourceRange)
      (positions span.targetRange) span.layerIndex with
  | some tensor => tensor.rows
  | none => []

theorem correctedRows_of {correct : KeyPositionCorrector δ} {tensor : KeyTensor δ}
    (h : correct (stagedKeys staging offset span) (positions span.sourceRange)
      (positions span.targetRange) span.layerIndex = some tensor) :
    correctedRows correct staging offset span = tensor.rows := by
  unfold correctedRows
  rw [h]

theorem sourceView_of {m : DataPlaneMemory δ}
    (hp : PreparedSpan env.tensors env.correct m.staging offset span) (he : Legible env)
    {layerIndex : ℕ} (hi : span.layerIndex = layerIndex) : ∃ s,
      sourceView env m offset layerIndex span = .ok s ∧
      WholeSpan env span s.rawKey (sourceRows m.staging offset span .key) ∧
      WholeSpan env span s.correctedKey (correctedRows env.correct m.staging offset span) ∧
      WholeSpan env span s.value (sourceRows m.staging offset span .value) := by
  rcases hp.staged .key with ⟨key, keyRows, hkey, hkrows⟩
  rcases hp.staged .value with ⟨value, valueRows, hvalue, hvrows⟩
  rcases hp.corrected with ⟨tensor, htensor, hshape, hdtype⟩
  have hkcells := stagingRows_reshaped env.allocated hkey hkrows
  have hvcells := stagingRows_reshaped env.allocated hvalue hvrows
  have hkshown : stagedRows m key = sourceRows m.staging offset span .key := by
    rw [stagedRows, hkcells, sourceRows]
  have hvshown : stagedRows m value = sourceRows m.staging offset span .value := by
    rw [stagedRows, hvcells, sourceRows]
  have hcorrect : env.correct (stagedRows m key) (positions span.sourceRange)
      (positions span.targetRange) layerIndex = some tensor := by
    rw [hkshown, ← hi]
    exact htensor
  refine ⟨⟨⟨keyRows, stagedRows m key⟩, ⟨tensor.info, tensor.rows⟩,
      ⟨valueRows, stagedRows m value⟩⟩, ?_,
    ⟨hp.bounds, hp.named, (stagingRows_dtype hkey hkrows).1, (stagingRows_dtype hkey hkrows).2,
      hkshown, sourceRows_length .key⟩,
    ⟨hp.bounds, hp.named, hshape, hdtype, (correctedRows_of htensor).symm, ?_⟩,
    ⟨hp.bounds, hp.named, (stagingRows_dtype hvalue hvrows).1,
      (stagingRows_dtype hvalue hvrows).2, hvshown, sourceRows_length .value⟩⟩
  · rw [hi] at hkey hvalue
    unfold sourceView
    exact (require_then_iff _ _ _ _).mpr ⟨he.views span,
      (checked_ok_iff _ _ _).mpr ⟨key, orRaised_some hkey,
        (checked_ok_iff _ _ _).mpr ⟨keyRows, orRaised_some hkrows,
          (checked_ok_iff _ _ _).mpr ⟨value, orRaised_some hvalue,
            (checked_ok_iff _ _ _).mpr ⟨valueRows, orRaised_some hvrows,
              (checked_ok_iff _ _ _).mpr ⟨tensor, orRaised_some hcorrect, rfl⟩⟩⟩⟩⟩⟩
  · rw [correctedRows_of htensor]
    exact tensor.exact _ hshape

end

/-! ## Rows after a run of scatters -/

section
variable {δ : Type} {layout : LayeredCacheLayout} {tables : List GroupBlockTable}
  {correct : KeyPositionCorrector δ} {calls : List ScatterCall} {m m' : DataPlaneMemory δ}
  {span : LayerTokenScatterSpan}

theorem rows_ext {xs ys : List (HeadRow δ)} (hx : xs.length = span.tokenCount)
    (hy : ys.length = span.tokenCount) (h : ∀ position, Holds span.targetRange position →
      xs[position-span.targetRange.start]? = ys[position-span.targetRange.start]?) : xs = ys := by
  apply List.ext_getElem?
  intro i
  by_cases hi : i < span.tokenCount
  · have hcount : span.tokenCount = span.targetRange.stop-span.targetRange.start := rfl
    have hget := h (span.targetRange.start+i) ⟨by omega, by omega⟩
    rwa [Nat.add_sub_cancel_left] at hget
  · rw [List.getElem?_eq_none (by omega), List.getElem?_eq_none (by omega)]

theorem rowsAt_get {position : ℕ} (h : Holds span.targetRange position)
    (component : KvComponent) : (rowsAt m span component)[position-span.targetRange.start]? =
      some (m.paged (cellAt span component position)) :=
  pagedCells_get (holds_index h) m

theorem sourceRows_get {staging : StagingCell → FlatRow δ} {offset : ℤ} {position : ℕ}
    (h : Holds span.targetRange position) (component : KvComponent) :
    (sourceRows staging offset span component)[position-span.targetRange.start]? =
      some (heads (staging ⟨component, span.layerIndex, offset+position⟩)) := by
  have hi : position-span.targetRange.start < (sourceRows staging offset span component).length :=
    (sourceRows_length component).symm ▸ holds_index h
  rw [List.getElem?_eq_getElem hi]
  exact congrArg some (stagedValue_row h (List.getElem?_eq_getElem hi))

theorem span_rows (h : ScatterExact layout tables correct calls m m') {c : ScatterCall}
    (hc : c ∈ calls) (hplan : planTokenScatter layout tables c.plan.transfer = .ok c.plan)
    (hspan : span ∈ c.plan.layerSpans) {tensor : KeyTensor δ}
    (ht : correct (stagedKeys m.staging c.retrievalBufferOffset span) (positions span.sourceRange)
      (positions span.targetRange) span.layerIndex = some tensor)
    (hl : tensor.rows.length = span.tokenCount) : rowsAt m' span .key = tensor.rows ∧
      rowsAt m' span .value = sourceRows m.staging c.retrievalBufferOffset span .value := by
  have hcells : ∀ position, Holds span.targetRange position → ∃ layer ∈ layout.layers,
      span.layerIndex = layer.layerIndex ∧ ∃ slot, layerSlot tables layer position = some slot ∧
        span.layerName = layer.layerName ∧ Holds c.plan.transfer.targetRange position ∧
          ∀ component, cellAt span component position = slotCell layer component slot := by
    intro position hp
    rcases planned_cell hplan hspan hp with ⟨ht, layer, hl, hname, hindex, slot, hslot, hcell⟩
    exact ⟨layer, hl, hindex, slot, hslot, hname, ht, hcell⟩
  constructor
  · apply rows_ext (rowsAt_length m' .key) hl
    intro position hp
    rcases hcells position hp with ⟨layer, hlayer, hindex, slot, hslot, hname, htarget, hcell⟩
    rcases h.key layer hlayer c hc position htarget with ⟨slot', hslot', span', hspan', hname', _,
      hp', tensor', ht', hrow⟩
    -- the row is the one of the span, since a layer has one span for a position
    cases planned_unique hplan hspan' hspan (hname'.trans hname.symm) hp' hp
    rw [ht] at ht'
    cases ht'
    rw [hslot] at hslot'
    cases hslot'
    rw [rowsAt_get hp, hrow, hcell]
  · apply rows_ext (rowsAt_length m' .value) (sourceRows_length .value)
    intro position hp
    rcases hcells position hp with ⟨layer, hlayer, hindex, slot, hslot, _, htarget, hcell⟩
    rcases h.value layer hlayer c hc position htarget with ⟨slot', hslot', hrow⟩
    rw [hslot] at hslot'
    cases hslot'
    rw [rowsAt_get hp, sourceRows_get hp, hcell, hrow, hindex]

end

/-! ## Layers -/

section
variable {δ : Type} {env : ProbeEnvironment δ} {staging : StagingCell → FlatRow δ} {offset : ℤ}
  {layerIndex : ℕ} {spans : List LayerTokenScatterSpan}

theorem mapM_gives {α β : Type} {f : α → Except ProbeFault β} {P : α → β → Prop} (xs : List α)
    (h : ∀ x ∈ xs, ∃ y, f x = .ok y ∧ P x y) : ∃ ys, xs.mapM f = .ok ys ∧ List.Forall₂ P xs ys := by
  have hboth : ∃ ys, List.Forall₂ (f · = .ok ·) xs ys ∧ List.Forall₂ P xs ys := by
    induction xs with
    | nil => exact ⟨[], .nil, .nil⟩
    | cons x xs ih =>
      rcases List.forall_mem_cons.mp h with ⟨⟨y, hy, hp⟩, hrest⟩
      rcases ih hrest with ⟨ys, hys, hps⟩
      exact ⟨y::ys, .cons hy hys, .cons hp hps⟩
  rcases hboth with ⟨ys, hys, hps⟩
  exact ⟨ys, (mapM_returns_iff _ _ _).mpr hys, hps⟩

/-- The spans of a layer, all of which a scatter has prepared. -/
structure PreparedLayer (env : ProbeEnvironment δ) (staging : StagingCell → FlatRow δ)
    (offset : ℤ) (layerIndex : ℕ) (spans : List LayerTokenScatterSpan) : Prop where
  nonempty : spans ≠ []
  length : spans.length < 2^32
  prepared : ∀ span ∈ spans, PreparedSpan env.tensors env.correct staging offset span ∧
    span.layerIndex = layerIndex

theorem PreparedLayer.cache (h : PreparedLayer env staging offset layerIndex spans) :
    ∃ cache, env.tensors.paged.get? (layerName layerIndex) = some cache := by
  rcases List.exists_mem_of_ne_nil _ h.nonempty with ⟨span, hspan⟩
  rcases h.prepared span hspan with ⟨hp, hi⟩
  rcases hp.cache with ⟨cache, hget, _⟩
  rw [hp.layer, hi] at hget
  exact ⟨cache, hget⟩

theorem pagedFrames_of (h : PreparedLayer env staging offset layerIndex spans) (he : Legible env)
    (m : DataPlaneMemory δ) : pagedFrames env m layerIndex spans =
      .ok (shownFrame env spans (rowsAt m · .key), shownFrame env spans (rowsAt m · .value)) := by
  rcases h.cache with ⟨cache, hcache⟩
  rcases mapM_gives spans fun span hspan => pagedView_of (h.prepared span hspan).1 he
    (h.prepared span hspan).2 hcache m with ⟨views, hviews, hshown⟩
  have hkeys : List.Forall₂ (fun span t => WholeSpan env span t (rowsAt m span .key)) spans
      (views.map Prod.fst) :=
    List.forall₂_map_right_iff.mpr (hshown.imp fun _ _ hw => hw.1)
  have hvalues : List.Forall₂ (fun span t => WholeSpan env span t (rowsAt m span .value)) spans
      (views.map Prod.snd) :=
    List.forall₂_map_right_iff.mpr (hshown.imp fun _ _ hw => hw.2)
  unfold pagedFrames
  exact (checked_ok_iff _ _ _).mpr ⟨cache, orRaised_some hcache,
    (checked_ok_iff _ _ _).mpr ⟨views, hviews,
      (checked_ok_iff _ _ _).mpr ⟨_, frameViews_of he h.length hkeys,
        (checked_ok_iff _ _ _).mpr ⟨_, frameViews_of he h.length hvalues, rfl⟩⟩⟩⟩

theorem sourceFrames_of {m : DataPlaneMemory δ}
    (h : PreparedLayer env m.staging offset layerIndex spans) (he : Legible env) :
    sourceFrames env m offset layerIndex spans =
      .ok ⟨shownFrame env spans (sourceRows m.staging offset · .key),
        shownFrame env spans (correctedRows env.correct m.staging offset),
        shownFrame env spans (sourceRows m.staging offset · .value)⟩ := by
  rcases mapM_gives spans fun span hspan => sourceView_of (h.prepared span hspan).1 he
    (h.prepared span hspan).2 with ⟨views, hviews, hshown⟩
  have hraw : List.Forall₂ (fun span t => WholeSpan env span t
      (sourceRows m.staging offset span .key)) spans (views.map SourceView.rawKey) :=
    List.forall₂_map_right_iff.mpr (hshown.imp fun _ _ hw => hw.1)
  have hkeys : List.Forall₂ (fun span t => WholeSpan env span t
      (correctedRows env.correct m.staging offset span)) spans
        (views.map SourceView.correctedKey) :=
    List.forall₂_map_right_iff.mpr (hshown.imp fun _ _ hw => hw.2.1)
  have hvalues : List.Forall₂ (fun span t => WholeSpan env span t
      (sourceRows m.staging offset span .value)) spans (views.map SourceView.value) :=
    List.forall₂_map_right_iff.mpr (hshown.imp fun _ _ hw => hw.2.2)
  unfold sourceFrames
  exact (checked_ok_iff _ _ _).mpr ⟨views, hviews,
    (checked_ok_iff _ _ _).mpr ⟨_, frameViews_of he h.length hraw,
      (checked_ok_iff _ _ _).mpr ⟨_, frameViews_of he h.length hkeys,
        (checked_ok_iff _ _ _).mpr ⟨_, frameViews_of he h.length hvalues, rfl⟩⟩⟩⟩

theorem shownFrame_congr {rows rows' : LayerTokenScatterSpan → List (HeadRow δ)}
    (h : ∀ span ∈ spans, rows span = rows' span) :
    shownFrame env spans rows = shownFrame env spans rows' := by
  unfold shownFrame
  rw [List.map_congr_left fun span hspan => congrArg (shownView env span) (h span hspan)]

theorem pagedFrames_kept (h : PreparedLayer env staging offset layerIndex spans)
    (he : Legible env) {m m' : DataPlaneMemory δ} (hk : ∀ span ∈ spans, RowsKept m m' span) :
    pagedFrames env m' layerIndex spans = pagedFrames env m layerIndex spans := by
  have hrows : ∀ component, ∀ span ∈ spans, rowsAt m' span component = rowsAt m span component := by
    intro component span hspan
    apply rows_ext (rowsAt_length m' component) (rowsAt_length m component)
    intro position hp
    have hcell : cellAt span component position = probedCell span component position := by
      unfold cellAt probedCell
      rw [(h.prepared span hspan).1.layer]
    rw [rowsAt_get hp, rowsAt_get hp, hcell, hk span hspan position hp component]
  rw [pagedFrames_of h he, pagedFrames_of h he, shownFrame_congr (hrows .key),
    shownFrame_congr (hrows .value)]

theorem frames_match {layout : LayeredCacheLayout} {tables : List GroupBlockTable}
    {calls : List ScatterCall} {m m' : DataPlaneMemory δ}
    (h : PreparedLayer env m.staging offset layerIndex spans)
    (hx : ScatterExact layout tables env.correct calls m m')
    (hc : ∀ span ∈ spans, ∃ c ∈ calls, c.retrievalBufferOffset = offset ∧
      planTokenScatter layout tables c.plan.transfer = .ok c.plan ∧ span ∈ c.plan.layerSpans) :
    shownFrame env spans (rowsAt m' · .key) =
        shownFrame env spans (correctedRows env.correct m.staging offset) ∧
      shownFrame env spans (rowsAt m' · .value) =
        shownFrame env spans (sourceRows m.staging offset · .value) := by
  have hrows : ∀ span ∈ spans,
      rowsAt m' span .key = correctedRows env.correct m.staging offset span ∧
        rowsAt m' span .value = sourceRows m.staging offset span .value := by
    intro span hspan
    rcases hc span hspan with ⟨c, hcall, rfl, hplan, hin⟩
    rcases (h.prepared span hspan).1.corrected with ⟨tensor, ht, hshape, _⟩
    rw [correctedRows_of ht]
    exact span_rows hx hcall hplan hin ht (tensor.exact _ hshape)
  exact ⟨shownFrame_congr fun span hspan => (hrows span hspan).1,
    shownFrame_congr fun span hspan => (hrows span hspan).2⟩

end

end CacheBlend.HonestTransfers
