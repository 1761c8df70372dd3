import CacheBlend.CorrectnessModels

/-!
# The codec of correctness artifacts

The encoder and the decoder list the keys of every record on their own. The
decoder hands the fields it reads to the constructors, which keep them, and
only log probabilities are converted.
-/

set_option autoImplicit false

namespace CacheBlend.CorrectnessCodec
open CacheBlend.JsonValues CacheBlend.CorrectnessModels

/-! ## Log probabilities -/

/-- `_encode_logprob`. -/
def encodeLogprob (x : PyFloat) : JsonValue :=
  if x = .negativeInfinity then .text (pyText "-inf") else .float x

/-- `_decode_logprob`. -/
def decodeLogprob (convert : ℤ → Option ℚ) (v : JsonValue) : Except CorrectnessFault PyFloat :=
  if v.isText "-inf" = true then .ok .negativeInfinity
  else
    match v.toFloat convert with
    | none => .error (.value "invalid correctness artifact log probability")
    | some none => .error .overflow
    | some (some x) => .ok x

theorem decode_encodeLogprob (convert : ℤ → Option ℚ) (x : PyFloat) :
    decodeLogprob convert (encodeLogprob x) = .ok x := by
  unfold encodeLogprob
  split_ifs with h
  · rw [h]
    exact if_pos ((isText_iff _ _).mpr rfl)
  · rfl

theorem encodeLogprob_agrees {v : JsonValue} {x : PyFloat} (hf : FiniteNumbers v)
    (h : decodeLogprob exactly v = .ok x) : Agree v (encodeLogprob x) := by
  unfold decodeLogprob at h
  split_ifs at h with ht
  · cases h
    exact agree_of_eq ((isText_iff _ _).mp ht)
  · cases hf with
    | integer n =>
      cases h
      exact .number (q := n) rfl rfl
    | float q =>
      cases h
      exact .same _
    | _ => cases h

/-! ## Records -/

def runtimeRecord (f : RuntimeFields) : List (String × JsonValue) :=
  [("model_id", f.modelId), ("model_revision", f.modelRevision),
    ("tokenizer_revision", f.tokenizerRevision), ("plugin_commit", f.pluginCommit),
    ("model_config_digest", f.modelConfigDigest),
    ("kv_cache_config_digest", f.kvCacheConfigDigest), ("vllm_version", f.vllmVersion),
    ("lmcache_version", f.lmcacheVersion), ("torch_version", f.torchVersion),
    ("cuda_runtime", f.cudaRuntime), ("gpu_name", f.gpuName), ("dtype", f.dtype)]

def runtimeKeys : List String :=
  ["model_id", "model_revision", "tokenizer_revision", "plugin_commit", "model_config_digest",
    "kv_cache_config_digest", "vllm_version", "lmcache_version", "torch_version", "cuda_runtime",
    "gpu_name", "dtype"]

def runtimeFields (es : List (PyText × JsonValue)) : RuntimeFields where
  modelId := field es "model_id"
  modelRevision := field es "model_revision"
  tokenizerRevision := field es "tokenizer_revision"
  pluginCommit := field es "plugin_commit"
  modelConfigDigest := field es "model_config_digest"
  kvCacheConfigDigest := field es "kv_cache_config_digest"
  vllmVersion := field es "vllm_version"
  lmcacheVersion := field es "lmcache_version"
  torchVersion := field es "torch_version"
  cudaRuntime := field es "cuda_runtime"
  gpuName := field es "gpu_name"
  dtype := field es "dtype"

theorem runtimeFields_record (f : RuntimeFields) :
    runtimeFields (named (runtimeRecord f)) = f := by
  simp [runtimeFields, field_named, runtimeRecord, Dict.find]

theorem runtimeRecord_agrees {es : List (PyText × JsonValue)} (h : HasKeys es runtimeKeys) :
    Agree (.mapping es) (.mapping (named (runtimeRecord (runtimeFields es)))) := by
  refine agree_record h ?_
  simp only [runtimeRecord, List.forall_mem_cons]
  exact ⟨.same _, .same _, .same _, .same _, .same _, .same _, .same _, .same _, .same _, .same _,
    .same _, .same _, List.forall_mem_nil _⟩

def segmentRecord (f : SegmentFields) : List (String × JsonValue) :=
  [("token_digest", f.tokenDigest), ("tokens", f.tokens), ("source_start", f.sourceStart),
    ("target_start", f.targetStart)]

def segmentKeys : List String := ["token_digest", "tokens", "source_start", "target_start"]

def segmentFields (es : List (PyText × JsonValue)) : SegmentFields where
  tokenDigest := field es "token_digest"
  tokens := field es "tokens"
  sourceStart := field es "source_start"
  targetStart := field es "target_start"

theorem segmentFields_record (f : SegmentFields) :
    segmentFields (named (segmentRecord f)) = f := by
  simp [segmentFields, field_named, segmentRecord, Dict.find]

theorem segmentRecord_agrees {es : List (PyText × JsonValue)} (h : HasKeys es segmentKeys) :
    Agree (.mapping es) (.mapping (named (segmentRecord (segmentFields es)))) := by
  refine agree_record h ?_
  simp only [segmentRecord, List.forall_mem_cons]
  exact ⟨.same _, .same _, .same _, .same _, List.forall_mem_nil _⟩

def connectorRecord (f : EvidenceFields) : List (String × JsonValue) :=
  [("reusable_document_tokens_requested", f.reusableDocumentTokensRequested),
    ("kv_tokens_found", f.kvTokensFound), ("kv_tokens_loaded", f.kvTokensLoaded),
    ("kv_tokens_rejected", f.kvTokensRejected), ("tokens_recomputed", f.tokensRecomputed),
    ("prefill_tokens_avoided", f.prefillTokensAvoided)]

def connectorKeys : List String :=
  ["reusable_document_tokens_requested", "kv_tokens_found", "kv_tokens_loaded",
    "kv_tokens_rejected", "tokens_recomputed", "prefill_tokens_avoided"]

def connectorFields (es : List (PyText × JsonValue)) : EvidenceFields where
  reusableDocumentTokensRequested := field es "reusable_document_tokens_requested"
  kvTokensFound := field es "kv_tokens_found"
  kvTokensLoaded := field es "kv_tokens_loaded"
  kvTokensRejected := field es "kv_tokens_rejected"
  tokensRecomputed := field es "tokens_recomputed"
  prefillTokensAvoided := field es "prefill_tokens_avoided"

theorem connectorFields_record (f : EvidenceFields) :
    connectorFields (named (connectorRecord f)) = f := by
  simp [connectorFields, field_named, connectorRecord, Dict.find]

theorem connectorRecord_agrees {es : List (PyText × JsonValue)} (h : HasKeys es connectorKeys) :
    Agree (.mapping es) (.mapping (named (connectorRecord (connectorFields es)))) := by
  refine agree_record h ?_
  simp only [connectorRecord, List.forall_mem_cons]
  exact ⟨.same _, .same _, .same _, .same _, .same _, .same _, List.forall_mem_nil _⟩

/-! ## The artifact -/

def segmentToDict (s : ReusableSegmentIdentity) : JsonValue :=
  .mapping (named (segmentRecord s.val))

def promptRecord (f : PromptFields) : List (String × JsonValue) :=
  [("case", .text (pyText f.case.value)), ("source_prompt_digest", f.sourcePromptDigest),
    ("source_prompt_tokens", f.sourcePromptTokens),
    ("target_prompt_digest", f.targetPromptDigest),
    ("target_prompt_tokens", f.targetPromptTokens),
    ("reusable_segments", .list (f.reusableSegments.map segmentToDict))]

def distributionRecord (f : LogprobFields) : List (String × JsonValue) :=
  [("kind", .text (pyText "full_vocabulary_logprobs")), ("sampled_token_id", f.sampledTokenId),
    ("values", .list (f.values.map encodeLogprob))]

def connectorToDict : Option ConnectorCorrectnessEvidence → JsonValue
  | none => .null
  | some connector => .mapping (named (connectorRecord connector.val))

def artifactRecord (f : ArtifactFields) : List (String × JsonValue) :=
  [("schema_version", f.schemaVersion), ("run_mode", .text (pyText f.runMode.value)),
    ("runtime", .mapping (named (runtimeRecord f.runtime.val))),
    ("prompt", .mapping (named (promptRecord f.prompt.val))),
    ("distribution", .mapping (named (distributionRecord f.distribution.val))),
    ("connector", connectorToDict f.connector)]

def artifactToDict (a : CorrectnessArtifact) : JsonValue := .mapping (named (artifactRecord a.val))

/-- The fault of `_exact_mapping`. -/
def schemaFault (name : String) : CorrectnessFault :=
  .value ("invalid correctness artifact " ++ name ++ " schema")

def segmentFromDict (v : JsonValue) : Except CorrectnessFault ReusableSegmentIdentity := do
  let segment ← exactMapping v segmentKeys (schemaFault "reusable segment")
  construct checkSegment (segmentFields segment)

def connectorFromDict : JsonValue → Except CorrectnessFault (Option ConnectorCorrectnessEvidence)
  | .null => .ok none
  | v => do
    let connector ← exactMapping v connectorKeys (schemaFault "connector")
    let evidence ← construct checkEvidence (connectorFields connector)
    .ok (some evidence)

def caseFromValue : JsonValue → Except CorrectnessFault CorrectnessCase :=
  enumFromValue CorrectnessCase.all CorrectnessCase.value (.notMember "CorrectnessCase")

def runModeFromValue : JsonValue → Except CorrectnessFault CorrectnessRunMode :=
  enumFromValue CorrectnessRunMode.all CorrectnessRunMode.value (.notMember "CorrectnessRunMode")

def artifactKeys : List String :=
  ["schema_version", "run_mode", "runtime", "prompt", "distribution", "connector"]

def promptKeys : List String :=
  ["case", "source_prompt_digest", "source_prompt_tokens", "target_prompt_digest",
    "target_prompt_tokens", "reusable_segments"]

def distributionKeys : List String := ["kind", "sampled_token_id", "values"]

/-- What the decoder has read when it comes to the log probabilities. -/
structure ArtifactParts where
  schemaVersion : JsonValue
  runMode : CorrectnessRunMode
  runtime : CorrectnessRuntimeIdentity
  prompt : PromptCaseIdentity
  rawValues : List JsonValue
  sampledTokenId : JsonValue
  connector : Option ConnectorCorrectnessEvidence

def artifactParts (data : JsonValue) : Except CorrectnessFault ArtifactParts := do
  let root ← exactMapping data artifactKeys (schemaFault "root")
  let runtime ← exactMapping (field root "runtime") runtimeKeys (schemaFault "runtime")
  let prompt ← exactMapping (field root "prompt") promptKeys (schemaFault "prompt")
  let distribution ←
    exactMapping (field root "distribution") distributionKeys (schemaFault "distribution")
  require ((field distribution "kind").isText "full_vocabulary_logprobs" = true)
    (.value "invalid correctness artifact distribution")
  let rawValues ←
    items (field distribution "values") (.value "invalid correctness artifact distribution")
  let rawSegments ← items (field prompt "reusable_segments")
    (.value "invalid correctness artifact reusable segments")
  let parsedSegments ← rawSegments.mapM segmentFromDict
  let connector ← connectorFromDict (field root "connector")
  let runMode ← runModeFromValue (field root "run_mode")
  let runtime ← construct checkRuntime (runtimeFields runtime)
  let case ← caseFromValue (field prompt "case")
  let prompt ← construct checkPrompt
    { case
      sourcePromptDigest := field prompt "source_prompt_digest"
      sourcePromptTokens := field prompt "source_prompt_tokens"
      targetPromptDigest := field prompt "target_prompt_digest"
      targetPromptTokens := field prompt "target_prompt_tokens"
      reusableSegments := parsedSegments }
  .ok {
    schemaVersion := field root "schema_version"
    runMode, runtime, prompt, rawValues
    sampledTokenId := field distribution "sampled_token_id"
    connector }

def artifactFromDict (convert : ℤ → Option ℚ) (data : JsonValue) :
    Except CorrectnessFault CorrectnessArtifact := do
  let parts ← artifactParts data
  let values ← parts.rawValues.mapM (decodeLogprob convert)
  let distribution ← construct checkLogprobs
    { values, sampledTokenId := parts.sampledTokenId }
  construct checkArtifact
    { schemaVersion := parts.schemaVersion
      runMode := parts.runMode
      runtime := parts.runtime
      prompt := parts.prompt
      distribution
      connector := parts.connector }

/-! ## Reading what was written -/

theorem CorrectnessCase.value_injective : Function.Injective CorrectnessCase.value := by
  intro a b h
  cases a <;> cases b <;> first | rfl | exact absurd h (by decide)

theorem CorrectnessCase.mem_all (c : CorrectnessCase) : c ∈ CorrectnessCase.all := by
  cases c <;> decide

theorem caseFromValue_ok_iff (v : JsonValue) (c : CorrectnessCase) :
    caseFromValue v = .ok c ↔ v = .text (pyText c.value) :=
  enumFromValue_ok_iff CorrectnessCase.value_injective CorrectnessCase.mem_all v c

theorem CorrectnessRunMode.value_injective : Function.Injective CorrectnessRunMode.value := by
  intro a b h
  cases a <;> cases b <;> first | rfl | exact absurd h (by decide)

theorem CorrectnessRunMode.mem_all (m : CorrectnessRunMode) : m ∈ CorrectnessRunMode.all := by
  cases m <;> decide

theorem runModeFromValue_ok_iff (v : JsonValue) (m : CorrectnessRunMode) :
    runModeFromValue v = .ok m ↔ v = .text (pyText m.value) :=
  enumFromValue_ok_iff CorrectnessRunMode.value_injective CorrectnessRunMode.mem_all v m

theorem segmentFromDict_written (s : ReusableSegmentIdentity) :
    segmentFromDict (segmentToDict s) = .ok s := by
  refine (checked_ok_iff _ _ _).mpr ⟨_, (exactMapping_ok_iff ..).mpr ⟨rfl, hasKeys_named _⟩, ?_⟩
  rw [segmentFields_record]
  exact (construct_ok_iff _ _ _).mpr rfl

theorem segmentToDict_agrees {v : JsonValue} {s : ReusableSegmentIdentity}
    (h : segmentFromDict v = .ok s) : Agree v (segmentToDict s) := by
  obtain ⟨es, hes, hs⟩ := (checked_ok_iff _ _ _).mp h
  obtain ⟨rfl, hk⟩ := (exactMapping_ok_iff ..).mp hes
  unfold segmentToDict
  rw [(construct_ok_iff _ _ _).mp hs]
  exact segmentRecord_agrees hk

theorem connectorFromDict_written (c : Option ConnectorCorrectnessEvidence) :
    connectorFromDict (connectorToDict c) = .ok c := by
  cases c with
  | none => rfl
  | some connector =>
    refine (checked_ok_iff _ _ _).mpr ⟨_, (exactMapping_ok_iff ..).mpr ⟨rfl, hasKeys_named _⟩, ?_⟩
    rw [connectorFields_record]
    exact (checked_ok_iff _ _ _).mpr ⟨connector, (construct_ok_iff _ _ _).mpr rfl, rfl⟩

theorem connectorToDict_agrees {v : JsonValue} {c : Option ConnectorCorrectnessEvidence}
    (h : connectorFromDict v = .ok c) : Agree v (connectorToDict c) := by
  unfold connectorFromDict at h
  split at h
  · cases h
    exact .same _
  · obtain ⟨es, hes, hc⟩ := (checked_ok_iff _ _ _).mp h
    obtain ⟨rfl, hk⟩ := (exactMapping_ok_iff ..).mp hes
    obtain ⟨connector, hconnector, hr⟩ := (checked_ok_iff _ _ _).mp hc
    rw [← Except.ok.inj hr]
    show Agree _ (.mapping (named (connectorRecord connector.val)))
    rw [(construct_ok_iff _ _ _).mp hconnector]
    exact connectorRecord_agrees hk

theorem artifactRecord_fields (f : ArtifactFields) :
    field (named (artifactRecord f)) "schema_version" = f.schemaVersion ∧
    field (named (artifactRecord f)) "run_mode" = .text (pyText f.runMode.value) ∧
    field (named (artifactRecord f)) "runtime" =
      .mapping (named (runtimeRecord f.runtime.val)) ∧
    field (named (artifactRecord f)) "prompt" = .mapping (named (promptRecord f.prompt.val)) ∧
    field (named (artifactRecord f)) "distribution" =
      .mapping (named (distributionRecord f.distribution.val)) ∧
    field (named (artifactRecord f)) "connector" = connectorToDict f.connector := by
  simp [field_named, artifactRecord, Dict.find]

theorem promptRecord_fields (f : PromptFields) :
    field (named (promptRecord f)) "case" = .text (pyText f.case.value) ∧
    field (named (promptRecord f)) "source_prompt_digest" = f.sourcePromptDigest ∧
    field (named (promptRecord f)) "source_prompt_tokens" = f.sourcePromptTokens ∧
    field (named (promptRecord f)) "target_prompt_digest" = f.targetPromptDigest ∧
    field (named (promptRecord f)) "target_prompt_tokens" = f.targetPromptTokens ∧
    field (named (promptRecord f)) "reusable_segments" =
      .list (f.reusableSegments.map segmentToDict) := by
  simp [field_named, promptRecord, Dict.find]

theorem distributionRecord_fields (f : LogprobFields) :
    field (named (distributionRecord f)) "kind" = .text (pyText "full_vocabulary_logprobs") ∧
    field (named (distributionRecord f)) "sampled_token_id" = f.sampledTokenId ∧
    field (named (distributionRecord f)) "values" = .list (f.values.map encodeLogprob) := by
  simp [field_named, distributionRecord, Dict.find]

theorem artifactParts_written (a : CorrectnessArtifact) :
    artifactParts (artifactToDict a) = .ok {
      schemaVersion := a.val.schemaVersion
      runMode := a.val.runMode
      runtime := a.val.runtime
      prompt := a.val.prompt
      rawValues := a.val.distribution.val.values.map encodeLogprob
      sampledTokenId := a.val.distribution.val.sampledTokenId
      connector := a.val.connector } := by
  have hkeys : ∀ (fs : List (String × JsonValue)) (name : String),
      exactMapping (.mapping (named fs)) (fs.map Prod.fst) (schemaFault name) = .ok (named fs) :=
    fun fs name => (exactMapping_ok_iff ..).mpr ⟨rfl, hasKeys_named fs⟩
  obtain ⟨hversion, hmode, hruntime, hprompt, hdistribution, hconnector⟩ :=
    artifactRecord_fields a.val
  obtain ⟨hcase, hsource, hsourceTokens, htarget, htargetTokens, hsegments⟩ :=
    promptRecord_fields a.val.prompt.val
  obtain ⟨hkind, hsampled, hvalues⟩ := distributionRecord_fields a.val.distribution.val
  refine (checked_ok_iff _ _ _).mpr ⟨_, hkeys (artifactRecord a.val) "root", ?_⟩
  rw [hversion, hmode, hruntime, hprompt, hdistribution, hconnector]
  refine (checked_ok_iff _ _ _).mpr ⟨_, hkeys (runtimeRecord a.val.runtime.val) "runtime", ?_⟩
  refine (checked_ok_iff _ _ _).mpr ⟨_, hkeys (promptRecord a.val.prompt.val) "prompt", ?_⟩
  refine (checked_ok_iff _ _ _).mpr
    ⟨_, hkeys (distributionRecord a.val.distribution.val) "distribution", ?_⟩
  rw [runtimeFields_record, hcase, hsource, hsourceTokens, htarget, htargetTokens, hsegments,
    hkind, hsampled, hvalues]
  refine (require_then_iff ..).mpr ⟨(isText_iff _ _).mpr rfl, ?_⟩
  refine (checked_ok_iff _ _ _).mpr ⟨_, (items_ok_iff ..).mpr rfl, ?_⟩
  refine (checked_ok_iff _ _ _).mpr ⟨_, (items_ok_iff ..).mpr rfl, ?_⟩
  refine (checked_ok_iff _ _ _).mpr ⟨_, mapM_written segmentFromDict_written _, ?_⟩
  refine (checked_ok_iff _ _ _).mpr ⟨_, connectorFromDict_written _, ?_⟩
  refine (checked_ok_iff _ _ _).mpr ⟨_, (runModeFromValue_ok_iff _ _).mpr rfl, ?_⟩
  refine (checked_ok_iff _ _ _).mpr ⟨a.val.runtime, (construct_ok_iff _ _ _).mpr rfl, ?_⟩
  refine (checked_ok_iff _ _ _).mpr ⟨_, (caseFromValue_ok_iff _ _).mpr rfl, ?_⟩
  exact (checked_ok_iff _ _ _).mpr ⟨a.val.prompt, (construct_ok_iff _ _ _).mpr rfl, rfl⟩

theorem artifactFromDict_written (convert : ℤ → Option ℚ) (a : CorrectnessArtifact) :
    artifactFromDict convert (artifactToDict a) = .ok a := by
  refine (checked_ok_iff _ _ _).mpr ⟨_, artifactParts_written a, ?_⟩
  refine (checked_ok_iff _ _ _).mpr ⟨_, mapM_written (decode_encodeLogprob convert) _, ?_⟩
  refine (checked_ok_iff _ _ _).mpr ⟨a.val.distribution, (construct_ok_iff _ _ _).mpr rfl, ?_⟩
  exact (construct_ok_iff _ _ _).mpr rfl

/-- What is read agrees with what is written for it. -/
theorem artifactToDict_agrees {data : JsonValue} {a : CorrectnessArtifact}
    (hf : FiniteNumbers data) (hread : artifactFromDict exactly data = .ok a) :
    Agree data (artifactToDict a) := by
  obtain ⟨parts, hparts, ha⟩ := (checked_ok_iff _ _ _).mp hread
  obtain ⟨values, hvalues, ha⟩ := (checked_ok_iff _ _ _).mp ha
  obtain ⟨logprobs, hlogprobs, ha⟩ := (checked_ok_iff _ _ _).mp ha
  obtain ⟨root, hroot, h⟩ := (checked_ok_iff _ _ _).mp hparts
  obtain ⟨runtime, hruntime, h⟩ := (checked_ok_iff _ _ _).mp h
  obtain ⟨prompt, hprompt, h⟩ := (checked_ok_iff _ _ _).mp h
  obtain ⟨distribution, hdistribution, h⟩ := (checked_ok_iff _ _ _).mp h
  obtain ⟨hkind, h⟩ := (require_then_iff ..).mp h
  obtain ⟨rawValues, hrawValues, h⟩ := (checked_ok_iff _ _ _).mp h
  obtain ⟨rawSegments, hrawSegments, h⟩ := (checked_ok_iff _ _ _).mp h
  obtain ⟨parsedSegments, hparsed, h⟩ := (checked_ok_iff _ _ _).mp h
  obtain ⟨connector, hconnector, h⟩ := (checked_ok_iff _ _ _).mp h
  obtain ⟨runMode, hrunMode, h⟩ := (checked_ok_iff _ _ _).mp h
  obtain ⟨runtimeIdentity, hruntimeIdentity, h⟩ := (checked_ok_iff _ _ _).mp h
  obtain ⟨case, hcase, h⟩ := (checked_ok_iff _ _ _).mp h
  obtain ⟨promptIdentity, hpromptIdentity, h⟩ := (checked_ok_iff _ _ _).mp h
  obtain rfl := Except.ok.inj h
  obtain ⟨rfl, hrootKeys⟩ := (exactMapping_ok_iff ..).mp hroot
  obtain ⟨hruntimeField, hruntimeKeys⟩ := (exactMapping_ok_iff ..).mp hruntime
  obtain ⟨hpromptField, hpromptKeys⟩ := (exactMapping_ok_iff ..).mp hprompt
  obtain ⟨hdistributionField, hdistributionKeys⟩ := (exactMapping_ok_iff ..).mp hdistribution
  have hvaluesFinite : FiniteNumbers (.list rawValues) := by
    rw [← (items_ok_iff ..).mp hrawValues]
    apply finiteNumbers_field
    rw [← hdistributionField]
    exact finiteNumbers_field hf _
  unfold artifactToDict
  rw [(construct_ok_iff _ _ _).mp ha]
  refine agree_record hrootKeys ?_
  simp only [artifactRecord, List.forall_mem_cons, hruntimeField, hpromptField,
    hdistributionField, (construct_ok_iff _ _ _).mp hruntimeIdentity,
    (construct_ok_iff _ _ _).mp hpromptIdentity, (construct_ok_iff _ _ _).mp hlogprobs]
  refine ⟨.same _, agree_of_eq ((runModeFromValue_ok_iff _ _).mp hrunMode),
    runtimeRecord_agrees hruntimeKeys, agree_record hpromptKeys ?_,
    agree_record hdistributionKeys ?_, connectorToDict_agrees hconnector, List.forall_mem_nil _⟩
  · simp only [promptRecord, List.forall_mem_cons, (items_ok_iff ..).mp hrawSegments]
    exact ⟨agree_of_eq ((caseFromValue_ok_iff _ _).mp hcase), .same _, .same _, .same _, .same _,
      agree_list hparsed fun _ _ _ => segmentToDict_agrees, List.forall_mem_nil _⟩
  · simp only [distributionRecord, List.forall_mem_cons, (items_ok_iff ..).mp hrawValues]
    exact ⟨agree_of_eq ((isText_iff _ _).mp hkind), .same _, agree_list hvalues fun v hv _ =>
      encodeLogprob_agrees (finiteNumbers_items hvaluesFinite v hv), List.forall_mem_nil _⟩

end CacheBlend.CorrectnessCodec
