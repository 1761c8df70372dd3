import CacheBlend.CorrectnessCodec

/-!
# Evidence of a transfer

The sidecar of a correctness artifact holds, for each of the 24 layers, the
digests of the rows before the load, after it and after the prefill. A layer's
constructor checks that the load left the corrected source and that the prefill
replaced it; the evidence binds the layers to the segments of one request.
-/

set_option autoImplicit false

namespace CacheBlend.LayerEvidence
open CacheBlend.JsonValues CacheBlend.CorrectnessModels CacheBlend.CorrectnessCodec
open CacheBlend.HybridLayout (AttentionKind)
open CacheBlend.ScatterSpans (gptOssNumLayers)

def transferEvidenceSchemaVersion : ℤ := 2

inductive TransferEvidenceErrorCode where
  | invalidSchema
  | invalidDigest
  | invalidLayer
  | invalidTokenCount
  | incompleteLayers
  | layerKindMismatch
  | loadNotObserved
  | overwriteNotObserved
  | sourceMismatch
  | prefillMismatch
  | invalidJson
  deriving DecidableEq

def requireDigest (v : JsonValue) : Except TransferEvidenceErrorCode Unit :=
  require (v.isHex 64 = true) .invalidDigest

def requireCount (v : JsonValue) (least : ℤ) : Except TransferEvidenceErrorCode Unit :=
  require (v.isCount least = true) .invalidTokenCount

/-- `_expected_kind`. -/
def expectedKind (layerIndex : ℤ) : AttentionKind := if layerIndex%2 = 0 then .sliding else .full

/-! ## A layer -/

structure LayerFields where
  layerIndex : JsonValue
  attentionKind : AttentionKind
  tokenCount : JsonValue
  loadWriteObserved : JsonValue
  prefillWriteObserved : JsonValue
  keyBeforeDigest : JsonValue
  keyRawSourceDigest : JsonValue
  keyCorrectedSourceDigest : JsonValue
  keyAfterLoadDigest : JsonValue
  keyTargetPrefillDigest : JsonValue
  keyAfterPrefillDigest : JsonValue
  valueBeforeDigest : JsonValue
  valueSourceDigest : JsonValue
  valueAfterLoadDigest : JsonValue
  valueTargetPrefillDigest : JsonValue
  valueAfterPrefillDigest : JsonValue

def LayerFields.digests (f : LayerFields) : List JsonValue :=
  [f.keyBeforeDigest, f.keyRawSourceDigest, f.keyCorrectedSourceDigest, f.keyAfterLoadDigest,
    f.keyTargetPrefillDigest, f.keyAfterPrefillDigest, f.valueBeforeDigest, f.valueSourceDigest,
    f.valueAfterLoadDigest, f.valueTargetPrefillDigest, f.valueAfterPrefillDigest]

def checkLayer (f : LayerFields) : Except TransferEvidenceErrorCode Unit := do
  require (isIndex gptOssNumLayers f.layerIndex = true) .invalidLayer
  require (f.attentionKind = expectedKind f.layerIndex.intValue) .layerKindMismatch
  requireCount f.tokenCount 1
  require (f.loadWriteObserved.isTrue = true) .loadNotObserved
  require (f.prefillWriteObserved.isTrue = true) .overwriteNotObserved
  f.digests.forM requireDigest
  require (f.keyAfterLoadDigest.textValue = f.keyCorrectedSourceDigest.textValue ∧
    f.valueAfterLoadDigest.textValue = f.valueSourceDigest.textValue) .sourceMismatch
  require (f.keyAfterPrefillDigest.textValue = f.keyTargetPrefillDigest.textValue ∧
    f.valueAfterPrefillDigest.textValue = f.valueTargetPrefillDigest.textValue) .prefillMismatch

abbrev LayerTransferEvidence : Type := Checked checkLayer

/-! ## All layers -/

structure TransferFields where
  schemaVersion : JsonValue
  namespaceDigest : JsonValue
  sourcePromptDigest : JsonValue
  sourcePromptTokens : JsonValue
  targetPromptDigest : JsonValue
  loadedTokens : JsonValue
  targetPromptTokens : JsonValue
  recomputedTokens : JsonValue
  prefillTokensAvoided : JsonValue
  reusableSegments : List ReusableSegmentIdentity
  layers : List LayerTransferEvidence

/-- The segments are the loaded tokens and lie in the source prompt. -/
def SegmentsMatch (f : TransferFields) : Prop :=
  f.reusableSegments.length ≠ 0 ∧
  (f.reusableSegments.map ReusableSegmentIdentity.tokens).sum = f.loadedTokens.intValue ∧
  ∀ s ∈ f.reusableSegments, s.sourceStart+s.tokens ≤ f.sourcePromptTokens.intValue

instance (f : TransferFields) : Decidable (SegmentsMatch f) :=
  inferInstanceAs (Decidable (_ ∧ _ ∧ _))

def checkTransfer (f : TransferFields) : Except TransferEvidenceErrorCode Unit := do
  require (f.schemaVersion.isInteger transferEvidenceSchemaVersion = true) .invalidSchema
  requireDigest f.namespaceDigest
  requireDigest f.sourcePromptDigest
  requireDigest f.targetPromptDigest
  requireCount f.sourcePromptTokens 1
  requireCount f.loadedTokens 1
  requireCount f.targetPromptTokens 1
  requireCount f.recomputedTokens 1
  requireCount f.prefillTokensAvoided 0
  require (f.loadedTokens.intValue ≤ f.targetPromptTokens.intValue ∧
    f.recomputedTokens.intValue = f.targetPromptTokens.intValue ∧
    f.prefillTokensAvoided.intValue = 0) .invalidTokenCount
  require (SegmentsMatch f) .invalidTokenCount
  require (f.layers.length = gptOssNumLayers) .incompleteLayers
  require (f.layers.map (fun layer => layer.val.layerIndex.intValue) =
    (List.range gptOssNumLayers).map fun (i : ℕ) => (i : ℤ)) .incompleteLayers
  require (∀ layer ∈ f.layers, layer.val.tokenCount.intValue = f.loadedTokens.intValue)
    .invalidTokenCount

abbrev TransferEvidence : Type := Checked checkTransfer

/-! ## The codec -/

def AttentionKind.all : List AttentionKind := [.sliding, .full]

def AttentionKind.value : AttentionKind → String
  | .sliding => "sliding"
  | .full => "full"

def layerRecord (f : LayerFields) : List (String × JsonValue) :=
  [("layer_index", f.layerIndex),
    ("attention_kind", .text (pyText (AttentionKind.value f.attentionKind))),
    ("token_count", f.tokenCount), ("load_write_observed", f.loadWriteObserved),
    ("prefill_write_observed", f.prefillWriteObserved), ("key_before_digest", f.keyBeforeDigest),
    ("key_raw_source_digest", f.keyRawSourceDigest),
    ("key_corrected_source_digest", f.keyCorrectedSourceDigest),
    ("key_after_load_digest", f.keyAfterLoadDigest),
    ("key_target_prefill_digest", f.keyTargetPrefillDigest),
    ("key_after_prefill_digest", f.keyAfterPrefillDigest),
    ("value_before_digest", f.valueBeforeDigest), ("value_source_digest", f.valueSourceDigest),
    ("value_after_load_digest", f.valueAfterLoadDigest),
    ("value_target_prefill_digest", f.valueTargetPrefillDigest),
    ("value_after_prefill_digest", f.valueAfterPrefillDigest)]

def layerToDict (layer : LayerTransferEvidence) : JsonValue :=
  .mapping (named (layerRecord layer.val))

def transferRecord (f : TransferFields) : List (String × JsonValue) :=
  [("schema_version", f.schemaVersion), ("namespace_digest", f.namespaceDigest),
    ("source_prompt_digest", f.sourcePromptDigest),
    ("source_prompt_tokens", f.sourcePromptTokens),
    ("target_prompt_digest", f.targetPromptDigest), ("loaded_tokens", f.loadedTokens),
    ("target_prompt_tokens", f.targetPromptTokens), ("recomputed_tokens", f.recomputedTokens),
    ("prefill_tokens_avoided", f.prefillTokensAvoided),
    ("reusable_segments", .list (f.reusableSegments.map segmentToDict)),
    ("layers", .list (f.layers.map layerToDict))]

def transferEvidenceToDict (e : TransferEvidence) : JsonValue :=
  .mapping (named (transferRecord e.val))

def layerKeys : List String :=
  ["layer_index", "attention_kind", "token_count", "load_write_observed",
    "prefill_write_observed", "key_before_digest", "key_raw_source_digest",
    "key_corrected_source_digest", "key_after_load_digest", "key_target_prefill_digest",
    "key_after_prefill_digest", "value_before_digest", "value_source_digest",
    "value_after_load_digest", "value_target_prefill_digest", "value_after_prefill_digest"]

def layerFields (es : List (PyText × JsonValue)) (attentionKind : AttentionKind) :
    LayerFields where
  layerIndex := field es "layer_index"
  attentionKind := attentionKind
  tokenCount := field es "token_count"
  loadWriteObserved := field es "load_write_observed"
  prefillWriteObserved := field es "prefill_write_observed"
  keyBeforeDigest := field es "key_before_digest"
  keyRawSourceDigest := field es "key_raw_source_digest"
  keyCorrectedSourceDigest := field es "key_corrected_source_digest"
  keyAfterLoadDigest := field es "key_after_load_digest"
  keyTargetPrefillDigest := field es "key_target_prefill_digest"
  keyAfterPrefillDigest := field es "key_after_prefill_digest"
  valueBeforeDigest := field es "value_before_digest"
  valueSourceDigest := field es "value_source_digest"
  valueAfterLoadDigest := field es "value_after_load_digest"
  valueTargetPrefillDigest := field es "value_target_prefill_digest"
  valueAfterPrefillDigest := field es "value_after_prefill_digest"

/-- Another `ValueError` than the evidence's own is reported as invalid JSON. -/
def attentionKindFromValue : JsonValue → Except TransferEvidenceErrorCode AttentionKind :=
  enumFromValue AttentionKind.all AttentionKind.value .invalidJson

def layerFromDict (v : JsonValue) : Except TransferEvidenceErrorCode LayerTransferEvidence := do
  let layer ← exactMapping v layerKeys .invalidJson
  let attentionKind ← attentionKindFromValue (field layer "attention_kind")
  construct checkLayer (layerFields layer attentionKind)

def transferSegmentFromDict (v : JsonValue) :
    Except TransferEvidenceErrorCode ReusableSegmentIdentity := do
  let segment ← exactMapping v segmentKeys .invalidJson
  (construct checkSegment (segmentFields segment)).mapError fun _ => .invalidJson

def transferKeys : List String :=
  ["schema_version", "namespace_digest", "source_prompt_digest", "source_prompt_tokens",
    "target_prompt_digest", "loaded_tokens", "target_prompt_tokens", "recomputed_tokens",
    "prefill_tokens_avoided", "reusable_segments", "layers"]

def transferEvidenceFromDict (data : JsonValue) :
    Except TransferEvidenceErrorCode TransferEvidence := do
  let root ← exactMapping data transferKeys .invalidJson
  let rawLayers ← items (field root "layers") .invalidJson
  let layers ← rawLayers.mapM layerFromDict
  let rawSegments ← items (field root "reusable_segments") .invalidJson
  let segments ← rawSegments.mapM transferSegmentFromDict
  construct checkTransfer
    { schemaVersion := field root "schema_version"
      namespaceDigest := field root "namespace_digest"
      sourcePromptDigest := field root "source_prompt_digest"
      sourcePromptTokens := field root "source_prompt_tokens"
      targetPromptDigest := field root "target_prompt_digest"
      loadedTokens := field root "loaded_tokens"
      targetPromptTokens := field root "target_prompt_tokens"
      recomputedTokens := field root "recomputed_tokens"
      prefillTokensAvoided := field root "prefill_tokens_avoided"
      reusableSegments := segments
      layers }

/-! ## Reading what was written -/

theorem AttentionKind.value_injective : Function.Injective AttentionKind.value := by
  intro a b h
  cases a <;> cases b <;> first | rfl | exact absurd h (by decide)

theorem AttentionKind.mem_all (kind : AttentionKind) : kind ∈ AttentionKind.all := by
  cases kind <;> decide

theorem attentionKindFromValue_ok_iff (v : JsonValue) (kind : AttentionKind) :
    attentionKindFromValue v = .ok kind ↔ v = .text (pyText (AttentionKind.value kind)) :=
  enumFromValue_ok_iff AttentionKind.value_injective AttentionKind.mem_all v kind

theorem layerFields_record (f : LayerFields) :
    field (named (layerRecord f)) "attention_kind" =
        .text (pyText (AttentionKind.value f.attentionKind)) ∧
      layerFields (named (layerRecord f)) f.attentionKind = f := by
  simp [layerFields, field_named, layerRecord, Dict.find]

theorem layerRecord_agrees {es : List (PyText × JsonValue)} {kind : AttentionKind}
    (h : HasKeys es layerKeys)
    (hk : field es "attention_kind" = .text (pyText (AttentionKind.value kind))) :
    Agree (.mapping es) (.mapping (named (layerRecord (layerFields es kind)))) := by
  refine agree_record h ?_
  simp only [layerRecord, List.forall_mem_cons]
  exact ⟨.same _, agree_of_eq hk, .same _, .same _, .same _, .same _, .same _, .same _, .same _,
    .same _, .same _, .same _, .same _, .same _, .same _, .same _, List.forall_mem_nil _⟩

theorem layerFromDict_written (layer : LayerTransferEvidence) :
    layerFromDict (layerToDict layer) = .ok layer := by
  obtain ⟨hkind, hfields⟩ := layerFields_record layer.val
  refine (checked_ok_iff _ _ _).mpr ⟨_, (exactMapping_ok_iff ..).mpr ⟨rfl, hasKeys_named _⟩, ?_⟩
  refine (checked_ok_iff _ _ _).mpr ⟨_, (attentionKindFromValue_ok_iff _ _).mpr hkind, ?_⟩
  rw [hfields]
  exact (construct_ok_iff _ _ _).mpr rfl

theorem layerToDict_agrees {v : JsonValue} {layer : LayerTransferEvidence}
    (hread : layerFromDict v = .ok layer) : Agree v (layerToDict layer) := by
  obtain ⟨es, hes, h⟩ := (checked_ok_iff _ _ _).mp hread
  obtain ⟨kind, hkind, h⟩ := (checked_ok_iff _ _ _).mp h
  obtain ⟨rfl, hk⟩ := (exactMapping_ok_iff ..).mp hes
  unfold layerToDict
  rw [(construct_ok_iff _ _ _).mp h]
  exact layerRecord_agrees hk ((attentionKindFromValue_ok_iff _ _).mp hkind)

theorem transferSegmentFromDict_written (s : ReusableSegmentIdentity) :
    transferSegmentFromDict (segmentToDict s) = .ok s := by
  refine (checked_ok_iff _ _ _).mpr ⟨_, (exactMapping_ok_iff ..).mpr ⟨rfl, hasKeys_named _⟩, ?_⟩
  rw [segmentFields_record]
  exact (mapError_ok_iff _ _ _).mpr ((construct_ok_iff _ _ _).mpr rfl)

theorem transferSegment_agrees {v : JsonValue} {s : ReusableSegmentIdentity}
    (hread : transferSegmentFromDict v = .ok s) : Agree v (segmentToDict s) := by
  obtain ⟨es, hes, h⟩ := (checked_ok_iff _ _ _).mp hread
  obtain ⟨rfl, hk⟩ := (exactMapping_ok_iff ..).mp hes
  unfold segmentToDict
  rw [(construct_ok_iff _ _ _).mp ((mapError_ok_iff _ _ _).mp h)]
  exact segmentRecord_agrees hk

theorem transferRecord_fields (f : TransferFields) :
    field (named (transferRecord f)) "schema_version" = f.schemaVersion ∧
    field (named (transferRecord f)) "namespace_digest" = f.namespaceDigest ∧
    field (named (transferRecord f)) "source_prompt_digest" = f.sourcePromptDigest ∧
    field (named (transferRecord f)) "source_prompt_tokens" = f.sourcePromptTokens ∧
    field (named (transferRecord f)) "target_prompt_digest" = f.targetPromptDigest ∧
    field (named (transferRecord f)) "loaded_tokens" = f.loadedTokens ∧
    field (named (transferRecord f)) "target_prompt_tokens" = f.targetPromptTokens ∧
    field (named (transferRecord f)) "recomputed_tokens" = f.recomputedTokens ∧
    field (named (transferRecord f)) "prefill_tokens_avoided" = f.prefillTokensAvoided ∧
    field (named (transferRecord f)) "reusable_segments" =
      .list (f.reusableSegments.map segmentToDict) ∧
    field (named (transferRecord f)) "layers" = .list (f.layers.map layerToDict) := by
  simp [field_named, transferRecord, Dict.find]

theorem transferEvidenceFromDict_written (e : TransferEvidence) :
    transferEvidenceFromDict (transferEvidenceToDict e) = .ok e := by
  obtain ⟨hversion, hnamespace, hsource, hsourceTokens, htarget, hloaded, htargetTokens,
    hrecomputed, havoided, hsegments, hlayers⟩ := transferRecord_fields e.val
  refine (checked_ok_iff _ _ _).mpr ⟨_, (exactMapping_ok_iff ..).mpr ⟨rfl, hasKeys_named _⟩, ?_⟩
  rw [hversion, hnamespace, hsource, hsourceTokens, htarget, hloaded, htargetTokens, hrecomputed,
    havoided, hsegments, hlayers]
  refine (checked_ok_iff _ _ _).mpr ⟨_, (items_ok_iff ..).mpr rfl, ?_⟩
  refine (checked_ok_iff _ _ _).mpr ⟨_, mapM_written layerFromDict_written _, ?_⟩
  refine (checked_ok_iff _ _ _).mpr ⟨_, (items_ok_iff ..).mpr rfl, ?_⟩
  refine (checked_ok_iff _ _ _).mpr ⟨_, mapM_written transferSegmentFromDict_written _, ?_⟩
  exact (construct_ok_iff _ _ _).mpr rfl

/-- What is read agrees with what is written for it. -/
theorem transferEvidenceToDict_agrees {data : JsonValue} {e : TransferEvidence}
    (hread : transferEvidenceFromDict data = .ok e) : Agree data (transferEvidenceToDict e) := by
  obtain ⟨root, hroot, h⟩ := (checked_ok_iff _ _ _).mp hread
  obtain ⟨rawLayers, hrawLayers, h⟩ := (checked_ok_iff _ _ _).mp h
  obtain ⟨layers, hlayers, h⟩ := (checked_ok_iff _ _ _).mp h
  obtain ⟨rawSegments, hrawSegments, h⟩ := (checked_ok_iff _ _ _).mp h
  obtain ⟨segments, hsegments, h⟩ := (checked_ok_iff _ _ _).mp h
  obtain ⟨rfl, hkeys⟩ := (exactMapping_ok_iff ..).mp hroot
  unfold transferEvidenceToDict
  rw [(construct_ok_iff _ _ _).mp h]
  refine agree_record hkeys ?_
  simp only [transferRecord, List.forall_mem_cons, (items_ok_iff ..).mp hrawLayers,
    (items_ok_iff ..).mp hrawSegments]
  exact ⟨.same _, .same _, .same _, .same _, .same _, .same _, .same _, .same _, .same _,
    agree_list hsegments fun _ _ _ => transferSegment_agrees,
    agree_list hlayers fun _ _ _ => layerToDict_agrees, List.forall_mem_nil _⟩

end CacheBlend.LayerEvidence
