import CacheBlend.BenchmarkModels
import CacheBlend.CorrectnessCodec

/-!
# The codec of benchmark artifacts

The encoder writes the fields as they are held and validates its own output
with the decoder. The decoder lists the keys of every record again and hands
the values to the constructors.
-/

set_option autoImplicit false

namespace CacheBlend.BenchmarkCodec
open CacheBlend.JsonValues CacheBlend.CorrectnessModels CacheBlend.BenchmarkModels
open CacheBlend.CorrectnessCodec (runtimeFields)

/-! ## The runtime -/

/-- `_runtime_to_dict`, whose keys are in alphabetical order. -/
def runtimeRecord (f : RuntimeFields) : List (String × JsonValue) :=
  [("cuda_runtime", f.cudaRuntime), ("dtype", f.dtype), ("gpu_name", f.gpuName),
    ("kv_cache_config_digest", f.kvCacheConfigDigest), ("lmcache_version", f.lmcacheVersion),
    ("model_config_digest", f.modelConfigDigest), ("model_id", f.modelId),
    ("model_revision", f.modelRevision), ("plugin_commit", f.pluginCommit),
    ("tokenizer_revision", f.tokenizerRevision), ("torch_version", f.torchVersion),
    ("vllm_version", f.vllmVersion)]

def runtimeKeys : List String :=
  ["cuda_runtime", "dtype", "gpu_name", "kv_cache_config_digest", "lmcache_version",
    "model_config_digest", "model_id", "model_revision", "plugin_commit", "tokenizer_revision",
    "torch_version", "vllm_version"]

/-- A `ValueError` of the runtime becomes the benchmark's own. -/
def runtimeFromDict (v : JsonValue) : Except BenchmarkFault CorrectnessRuntimeIdentity := do
  let mapping ← exactMapping v runtimeKeys (.benchmark .invalidRuntime)
  (construct checkRuntime (runtimeFields mapping)).mapError fun _ => .benchmark .invalidRuntime

theorem runtimeFields_record (f : RuntimeFields) :
    runtimeFields (named (runtimeRecord f)) = f := by
  simp [runtimeFields, field_named, runtimeRecord, Dict.find]

theorem runtimeFromDict_written (r : CorrectnessRuntimeIdentity) :
    runtimeFromDict (.mapping (named (runtimeRecord r.val))) = .ok r := by
  refine (checked_ok_iff _ _ _).mpr ⟨_, (exactMapping_ok_iff ..).mpr ⟨rfl, hasKeys_named _⟩, ?_⟩
  rw [runtimeFields_record]
  exact (mapError_ok_iff _ _ _).mpr ((construct_ok_iff _ _ _).mpr rfl)

theorem runtimeRecord_agrees {v : JsonValue} {r : CorrectnessRuntimeIdentity}
    (hread : runtimeFromDict v = .ok r) : Agree v (.mapping (named (runtimeRecord r.val))) := by
  obtain ⟨es, hes, h⟩ := (checked_ok_iff _ _ _).mp hread
  obtain ⟨rfl, hk⟩ := (exactMapping_ok_iff ..).mp hes
  rw [(construct_ok_iff _ _ _).mp ((mapError_ok_iff _ _ _).mp h)]
  refine agree_record hk ?_
  simp only [runtimeRecord, List.forall_mem_cons]
  exact ⟨.same _, .same _, .same _, .same _, .same _, .same _, .same _, .same _, .same _, .same _,
    .same _, .same _, List.forall_mem_nil _⟩

/-! ## The metrics -/

def counterRecord (c : CounterValues) : List (String × JsonValue) :=
  [("kv_tokens_found", c.kvTokensFound), ("kv_tokens_loaded", c.kvTokensLoaded),
    ("kv_tokens_rejected", c.kvTokensRejected),
    ("prefill_tokens_avoided", c.prefillTokensAvoided), ("prompt_tokens", c.promptTokens),
    ("reusable_document_tokens_requested", c.reusableDocumentTokensRequested),
    ("reusable_documents_hit", c.reusableDocumentsHit),
    ("reusable_documents_requested", c.reusableDocumentsRequested),
    ("tokens_recomputed", c.tokensRecomputed)]

def timerRecord (t : TimerValues) : List (String × JsonValue) :=
  [("decode_latency_seconds", t.decodeLatencySeconds),
    ("end_to_end_latency_seconds", t.endToEndLatencySeconds),
    ("lookup_latency_seconds", t.lookupLatencySeconds),
    ("position_correction_latency_seconds", t.positionCorrectionLatencySeconds),
    ("prefill_latency_seconds", t.prefillLatencySeconds),
    ("queue_latency_seconds", t.queueLatencySeconds),
    ("selective_recomputation_latency_seconds", t.selectiveRecomputationLatencySeconds),
    ("store_latency_seconds", t.storeLatencySeconds),
    ("transfer_latency_seconds", t.transferLatencySeconds), ("ttft_seconds", t.ttftSeconds)]

def errorRecord (e : ErrorValues) : List (String × JsonValue) :=
  [("max_abs_logit_error", e.maxAbsLogitError), ("mean_abs_logit_error", e.meanAbsLogitError)]

def metricsRecord (m : TrialMetrics) : List (String × JsonValue) :=
  [("counters", .mapping (named (counterRecord m.counters))),
    ("timers", .mapping (named (timerRecord m.timers))),
    ("correctness", .mapping (named (errorRecord m.correctness)))]

/-- `_metrics_to_dict`. -/
def metricsToDict (m : TrialMetrics) : JsonValue := .mapping (named (metricsRecord m))

def counterKeys : List String :=
  ["kv_tokens_found", "kv_tokens_loaded", "kv_tokens_rejected", "prefill_tokens_avoided",
    "prompt_tokens", "reusable_document_tokens_requested", "reusable_documents_hit",
    "reusable_documents_requested", "tokens_recomputed"]

def timerKeys : List String :=
  ["decode_latency_seconds", "end_to_end_latency_seconds", "lookup_latency_seconds",
    "position_correction_latency_seconds", "prefill_latency_seconds", "queue_latency_seconds",
    "selective_recomputation_latency_seconds", "store_latency_seconds",
    "transfer_latency_seconds", "ttft_seconds"]

def counterValues (es : List (PyText × JsonValue)) : CounterValues where
  promptTokens := field es "prompt_tokens"
  reusableDocumentsRequested := field es "reusable_documents_requested"
  reusableDocumentsHit := field es "reusable_documents_hit"
  reusableDocumentTokensRequested := field es "reusable_document_tokens_requested"
  kvTokensFound := field es "kv_tokens_found"
  kvTokensLoaded := field es "kv_tokens_loaded"
  kvTokensRejected := field es "kv_tokens_rejected"
  tokensRecomputed := field es "tokens_recomputed"
  prefillTokensAvoided := field es "prefill_tokens_avoided"

def timerValues (es : List (PyText × JsonValue)) : TimerValues where
  lookupLatencySeconds := field es "lookup_latency_seconds"
  transferLatencySeconds := field es "transfer_latency_seconds"
  positionCorrectionLatencySeconds := field es "position_correction_latency_seconds"
  selectiveRecomputationLatencySeconds := field es "selective_recomputation_latency_seconds"
  ttftSeconds := field es "ttft_seconds"
  prefillLatencySeconds := field es "prefill_latency_seconds"
  storeLatencySeconds := field es "store_latency_seconds"
  queueLatencySeconds := field es "queue_latency_seconds"
  decodeLatencySeconds := field es "decode_latency_seconds"
  endToEndLatencySeconds := field es "end_to_end_latency_seconds"

def errorValues (es : List (PyText × JsonValue)) : ErrorValues where
  maxAbsLogitError := field es "max_abs_logit_error"
  meanAbsLogitError := field es "mean_abs_logit_error"

/-- `_metrics_from_dict`. -/
def metricsFromDict (v : JsonValue) : Except BenchmarkFault TrialMetrics := do
  let root ← exactMapping v ["counters", "timers", "correctness"] (.benchmark .invalidMetrics)
  let counters ← exactMapping (field root "counters") counterKeys (.benchmark .invalidMetrics)
  let timers ← exactMapping (field root "timers") timerKeys (.benchmark .invalidMetrics)
  let correctness ← exactMapping (field root "correctness")
    ["max_abs_logit_error", "mean_abs_logit_error"] (.benchmark .invalidMetrics)
  .ok ⟨counterValues counters, timerValues timers, errorValues correctness⟩

theorem counterValues_record (c : CounterValues) :
    counterValues (named (counterRecord c)) = c := by
  simp [counterValues, field_named, counterRecord, Dict.find]

theorem timerValues_record (t : TimerValues) : timerValues (named (timerRecord t)) = t := by
  simp [timerValues, field_named, timerRecord, Dict.find]

theorem errorValues_record (e : ErrorValues) : errorValues (named (errorRecord e)) = e := by
  simp [errorValues, field_named, errorRecord, Dict.find]

theorem metricsRecord_fields (m : TrialMetrics) :
    field (named (metricsRecord m)) "counters" = .mapping (named (counterRecord m.counters)) ∧
    field (named (metricsRecord m)) "timers" = .mapping (named (timerRecord m.timers)) ∧
    field (named (metricsRecord m)) "correctness" =
      .mapping (named (errorRecord m.correctness)) := by
  simp [field_named, metricsRecord, Dict.find]

theorem metricsFromDict_written (m : TrialMetrics) : metricsFromDict (metricsToDict m) = .ok m := by
  have hkeys : ∀ fs : List (String × JsonValue),
      exactMapping (.mapping (named fs)) (fs.map Prod.fst)
        (BenchmarkFault.benchmark .invalidMetrics) = .ok (named fs) :=
    fun fs => (exactMapping_ok_iff ..).mpr ⟨rfl, hasKeys_named fs⟩
  obtain ⟨hcounters, htimers, hcorrectness⟩ := metricsRecord_fields m
  refine (checked_ok_iff _ _ _).mpr ⟨_, hkeys (metricsRecord m), ?_⟩
  rw [hcounters, htimers, hcorrectness]
  refine (checked_ok_iff _ _ _).mpr ⟨_, hkeys (counterRecord m.counters), ?_⟩
  refine (checked_ok_iff _ _ _).mpr ⟨_, hkeys (timerRecord m.timers), ?_⟩
  refine (checked_ok_iff _ _ _).mpr ⟨_, hkeys (errorRecord m.correctness), ?_⟩
  rw [counterValues_record, timerValues_record, errorValues_record]

theorem metricsToDict_agrees {v : JsonValue} {m : TrialMetrics}
    (hread : metricsFromDict v = .ok m) : Agree v (metricsToDict m) := by
  obtain ⟨root, hroot, h⟩ := (checked_ok_iff _ _ _).mp hread
  obtain ⟨counters, hcounters, h⟩ := (checked_ok_iff _ _ _).mp h
  obtain ⟨timers, htimers, h⟩ := (checked_ok_iff _ _ _).mp h
  obtain ⟨correctness, hcorrectness, h⟩ := (checked_ok_iff _ _ _).mp h
  obtain ⟨rfl, hrootKeys⟩ := (exactMapping_ok_iff ..).mp hroot
  obtain ⟨hcountersField, hcounterKeys⟩ := (exactMapping_ok_iff ..).mp hcounters
  obtain ⟨htimersField, htimerKeys⟩ := (exactMapping_ok_iff ..).mp htimers
  obtain ⟨herrorsField, herrorKeys⟩ := (exactMapping_ok_iff ..).mp hcorrectness
  rw [← Except.ok.inj h]
  refine agree_record hrootKeys ?_
  simp only [metricsRecord, List.forall_mem_cons, hcountersField, htimersField, herrorsField]
  refine ⟨agree_record hcounterKeys ?_, agree_record htimerKeys ?_, agree_record herrorKeys ?_,
    List.forall_mem_nil _⟩
  · simp only [counterRecord, List.forall_mem_cons]
    exact ⟨.same _, .same _, .same _, .same _, .same _, .same _, .same _, .same _, .same _,
      List.forall_mem_nil _⟩
  · simp only [timerRecord, List.forall_mem_cons]
    exact ⟨.same _, .same _, .same _, .same _, .same _, .same _, .same _, .same _, .same _,
      .same _, List.forall_mem_nil _⟩
  · simp only [errorRecord, List.forall_mem_cons]
    exact ⟨.same _, .same _, List.forall_mem_nil _⟩

/-! ## A trial -/

def failureToDict : Option BenchmarkFailureCode → JsonValue
  | none => .null
  | some failure => .text (pyText failure.value)

def trialRecord (f : TrialFields) : List (String × JsonValue) :=
  [("arm", .text (pyText f.arm.value)), ("cache_state", .text (pyText f.cacheState.value)),
    ("case", .text (pyText f.case.value)),
    ("correctness_artifact_digest", f.correctnessArtifactDigest),
    ("correctness_passed", f.correctnessPassed), ("failure", failureToDict f.failure),
    ("metrics", metricsToDict f.metrics), ("peak_memory_bytes", f.peakMemoryBytes),
    ("recompute_ratio", f.recomputeRatio), ("staging_overhead_bytes", f.stagingOverheadBytes),
    ("transfer_evidence_digest", f.transferEvidenceDigest), ("trial_index", f.trialIndex)]

def trialKeys : List String :=
  ["arm", "cache_state", "case", "correctness_artifact_digest", "correctness_passed", "failure",
    "metrics", "peak_memory_bytes", "recompute_ratio", "staging_overhead_bytes",
    "transfer_evidence_digest", "trial_index"]

/-- The `ValueError` of an enumeration is reported as an invalid schema. -/
def armFromValue : JsonValue → Except BenchmarkFault BenchmarkArm :=
  enumFromValue BenchmarkArm.all BenchmarkArm.value (.benchmark .invalidSchema)

def cacheStateFromValue : JsonValue → Except BenchmarkFault BenchmarkCacheState :=
  enumFromValue BenchmarkCacheState.all BenchmarkCacheState.value (.benchmark .invalidSchema)

def caseFromValue : JsonValue → Except BenchmarkFault CorrectnessCase :=
  enumFromValue CorrectnessCase.all CorrectnessCase.value (.benchmark .invalidSchema)

def failureFromDict : JsonValue → Except BenchmarkFault (Option BenchmarkFailureCode)
  | .null => .ok none
  | v => do
    let failure ← enumFromValue BenchmarkFailureCode.all BenchmarkFailureCode.value
      (.benchmark .invalidSchema) v
    .ok (some failure)

def trialFields (v : JsonValue) : Except BenchmarkFault TrialFields := do
  let mapping ← exactMapping v trialKeys (.benchmark .invalidSchema)
  let arm ← armFromValue (field mapping "arm")
  let cacheState ← cacheStateFromValue (field mapping "cache_state")
  let case ← caseFromValue (field mapping "case")
  let failure ← failureFromDict (field mapping "failure")
  let metrics ← metricsFromDict (field mapping "metrics")
  .ok {
    arm, case, cacheState, metrics, failure
    trialIndex := field mapping "trial_index"
    recomputeRatio := field mapping "recompute_ratio"
    peakMemoryBytes := field mapping "peak_memory_bytes"
    correctnessPassed := field mapping "correctness_passed"
    correctnessArtifactDigest := field mapping "correctness_artifact_digest"
    stagingOverheadBytes := field mapping "staging_overhead_bytes"
    transferEvidenceDigest := field mapping "transfer_evidence_digest" }

section
variable (convert : ℤ → Option ℚ)

/-- `_trial_from_dict`. -/
def trialFromDict (v : JsonValue) : Except BenchmarkFault (BenchmarkTrial convert) := do
  let fields ← trialFields v
  construct (checkTrial convert) fields

variable {convert}

/-- `_trial_to_dict`. -/
def trialToDict (t : BenchmarkTrial convert) : JsonValue := .mapping (named (trialRecord t.val))

theorem armFromValue_ok_iff (v : JsonValue) (arm : BenchmarkArm) :
    armFromValue v = .ok arm ↔ v = .text (pyText arm.value) := by
  apply enumFromValue_ok_iff
  · intro a b h
    cases a <;> cases b <;> first | rfl | exact absurd h (by decide)
  · intro a
    cases a <;> decide

theorem cacheStateFromValue_ok_iff (v : JsonValue) (s : BenchmarkCacheState) :
    cacheStateFromValue v = .ok s ↔ v = .text (pyText s.value) := by
  apply enumFromValue_ok_iff
  · intro a b h
    cases a <;> cases b <;> first | rfl | exact absurd h (by decide)
  · intro a
    cases a <;> decide

theorem caseFromValue_ok_iff (v : JsonValue) (c : CorrectnessCase) :
    caseFromValue v = .ok c ↔ v = .text (pyText c.value) :=
  enumFromValue_ok_iff CorrectnessCodec.CorrectnessCase.value_injective
    CorrectnessCodec.CorrectnessCase.mem_all v c

theorem failureFromDict_ok_iff (v : JsonValue) (f : Option BenchmarkFailureCode) :
    failureFromDict v = .ok f ↔ v = failureToDict f := by
  have henum : ∀ (w : JsonValue) (code : BenchmarkFailureCode),
      enumFromValue BenchmarkFailureCode.all BenchmarkFailureCode.value
        (BenchmarkFault.benchmark .invalidSchema) w = .ok code ↔
        w = .text (pyText code.value) := by
    apply enumFromValue_ok_iff
    · intro a b h
      cases a <;> cases b <;> first | rfl | exact absurd h (by decide)
    · intro a
      cases a <;> decide
  unfold failureFromDict
  split
  · cases f <;> simp [failureToDict]
  · rename_i hnull
    rw [checked_ok_iff]
    constructor
    · rintro ⟨code, hcode, h⟩
      rw [← Except.ok.inj h]
      exact (henum v code).mp hcode
    · intro hv
      cases f with
      | none => exact absurd hv hnull
      | some code => exact ⟨code, (henum v code).mpr hv, rfl⟩

theorem trialRecord_fields (f : TrialFields) :
    field (named (trialRecord f)) "arm" = .text (pyText f.arm.value) ∧
    field (named (trialRecord f)) "cache_state" = .text (pyText f.cacheState.value) ∧
    field (named (trialRecord f)) "case" = .text (pyText f.case.value) ∧
    field (named (trialRecord f)) "correctness_artifact_digest" = f.correctnessArtifactDigest ∧
    field (named (trialRecord f)) "correctness_passed" = f.correctnessPassed ∧
    field (named (trialRecord f)) "failure" = failureToDict f.failure ∧
    field (named (trialRecord f)) "metrics" = metricsToDict f.metrics ∧
    field (named (trialRecord f)) "peak_memory_bytes" = f.peakMemoryBytes ∧
    field (named (trialRecord f)) "recompute_ratio" = f.recomputeRatio ∧
    field (named (trialRecord f)) "staging_overhead_bytes" = f.stagingOverheadBytes ∧
    field (named (trialRecord f)) "transfer_evidence_digest" = f.transferEvidenceDigest ∧
    field (named (trialRecord f)) "trial_index" = f.trialIndex := by
  simp [field_named, trialRecord, Dict.find]

theorem trialFromDict_written (t : BenchmarkTrial convert) :
    trialFromDict convert (trialToDict t) = .ok t := by
  obtain ⟨harm, hstate, hcase, hdigest, hpassed, hfailure, hmetrics, hpeak, hratio, hstaging,
    htransfer, hindex⟩ := trialRecord_fields t.val
  refine (checked_ok_iff _ _ _).mpr ⟨t.val, ?_, (construct_ok_iff _ _ _).mpr rfl⟩
  refine (checked_ok_iff _ _ _).mpr ⟨_, (exactMapping_ok_iff ..).mpr ⟨rfl, hasKeys_named _⟩, ?_⟩
  rw [harm, hstate, hcase, hdigest, hpassed, hfailure, hmetrics, hpeak, hratio, hstaging,
    htransfer, hindex]
  refine (checked_ok_iff _ _ _).mpr ⟨_, (armFromValue_ok_iff _ _).mpr rfl, ?_⟩
  refine (checked_ok_iff _ _ _).mpr ⟨_, (cacheStateFromValue_ok_iff _ _).mpr rfl, ?_⟩
  refine (checked_ok_iff _ _ _).mpr ⟨_, (caseFromValue_ok_iff _ _).mpr rfl, ?_⟩
  refine (checked_ok_iff _ _ _).mpr ⟨_, (failureFromDict_ok_iff _ _).mpr rfl, ?_⟩
  exact (checked_ok_iff _ _ _).mpr ⟨_, metricsFromDict_written _, rfl⟩

theorem trialToDict_agrees {v : JsonValue} {t : BenchmarkTrial convert}
    (hread : trialFromDict convert v = .ok t) : Agree v (trialToDict t) := by
  obtain ⟨fields, hfields, ht⟩ := (checked_ok_iff _ _ _).mp hread
  obtain ⟨mapping, hmapping, h⟩ := (checked_ok_iff _ _ _).mp hfields
  obtain ⟨arm, harm, h⟩ := (checked_ok_iff _ _ _).mp h
  obtain ⟨cacheState, hstate, h⟩ := (checked_ok_iff _ _ _).mp h
  obtain ⟨case, hcase, h⟩ := (checked_ok_iff _ _ _).mp h
  obtain ⟨failure, hfailure, h⟩ := (checked_ok_iff _ _ _).mp h
  obtain ⟨metrics, hmetrics, h⟩ := (checked_ok_iff _ _ _).mp h
  obtain ⟨rfl, hkeys⟩ := (exactMapping_ok_iff ..).mp hmapping
  unfold trialToDict
  rw [(construct_ok_iff _ _ _).mp ht, ← Except.ok.inj h]
  refine agree_record hkeys ?_
  simp only [trialRecord, List.forall_mem_cons]
  exact ⟨agree_of_eq ((armFromValue_ok_iff _ _).mp harm),
    agree_of_eq ((cacheStateFromValue_ok_iff _ _).mp hstate),
    agree_of_eq ((caseFromValue_ok_iff _ _).mp hcase), .same _, .same _,
    agree_of_eq ((failureFromDict_ok_iff _ _).mp hfailure), metricsToDict_agrees hmetrics,
    .same _, .same _, .same _, .same _, .same _, List.forall_mem_nil _⟩

/-! ## The artifact -/

def artifactRecord (f : BenchmarkFields convert) : List (String × JsonValue) :=
  [("attention_backend", f.attentionBackend), ("block_size", f.blockSize),
    ("case", .text (pyText f.case.value)), ("host_id", f.hostId),
    ("hybrid_kv_cache_enabled", f.hybridKvCacheEnabled), ("max_model_len", f.maxModelLen),
    ("pipeline_parallel_size", f.pipelineParallelSize), ("prompt_tokens", f.promptTokens),
    ("prompt_fixture_digest", f.promptFixtureDigest),
    ("runtime", .mapping (named (runtimeRecord f.runtime.val))),
    ("sampling_seed", f.samplingSeed), ("schema_version", f.schemaVersion),
    ("temperature", f.temperature), ("tensor_parallel_size", f.tensorParallelSize),
    ("top_p", f.topP), ("trials", .list (f.trials.map trialToDict))]

def artifactKeys : List String :=
  ["attention_backend", "block_size", "case", "host_id", "hybrid_kv_cache_enabled",
    "max_model_len", "pipeline_parallel_size", "prompt_tokens", "prompt_fixture_digest",
    "runtime", "sampling_seed", "schema_version", "temperature", "tensor_parallel_size", "top_p",
    "trials"]

/-- What the decoder has read when it comes to the trials. -/
structure BenchmarkParts where
  root : List (PyText × JsonValue)
  rawTrials : List JsonValue
  case : CorrectnessCase
  runtime : CorrectnessRuntimeIdentity

def benchmarkParts (data : JsonValue) : Except BenchmarkFault BenchmarkParts := do
  let root ← exactMapping data artifactKeys (.benchmark .invalidSchema)
  require ((field root "schema_version").equalsInt benchmarkSchemaVersion = true)
    (.benchmark .invalidSchema)
  let rawTrials ← items (field root "trials") (.benchmark .emptyTrials)
  let case ← caseFromValue (field root "case")
  let runtime ← runtimeFromDict (field root "runtime")
  .ok { root, rawTrials, case, runtime }

def benchmarkFields (parts : BenchmarkParts) (trials : List (BenchmarkTrial convert)) :
    BenchmarkFields convert where
  schemaVersion := field parts.root "schema_version"
  runtime := parts.runtime
  case := parts.case
  promptTokens := field parts.root "prompt_tokens"
  promptFixtureDigest := field parts.root "prompt_fixture_digest"
  hostId := field parts.root "host_id"
  attentionBackend := field parts.root "attention_backend"
  hybridKvCacheEnabled := field parts.root "hybrid_kv_cache_enabled"
  blockSize := field parts.root "block_size"
  maxModelLen := field parts.root "max_model_len"
  tensorParallelSize := field parts.root "tensor_parallel_size"
  pipelineParallelSize := field parts.root "pipeline_parallel_size"
  samplingSeed := field parts.root "sampling_seed"
  temperature := field parts.root "temperature"
  topP := field parts.root "top_p"
  trials := trials

variable (convert)

def benchmarkArtifactFromDict (data : JsonValue) :
    Except BenchmarkFault (BenchmarkArtifact convert) := do
  let parts ← benchmarkParts data
  let trials ← parts.rawTrials.mapM (trialFromDict convert)
  construct (checkBenchmark convert) (benchmarkFields parts trials)

variable {convert}

def benchmarkArtifactToDict (a : BenchmarkArtifact convert) : Except BenchmarkFault JsonValue := do
  let payload := JsonValue.mapping (named (artifactRecord a.val))
  let _ ← benchmarkArtifactFromDict convert payload
  .ok payload

theorem artifactRecord_fields (f : BenchmarkFields convert) :
    field (named (artifactRecord f)) "attention_backend" = f.attentionBackend ∧
    field (named (artifactRecord f)) "block_size" = f.blockSize ∧
    field (named (artifactRecord f)) "case" = .text (pyText f.case.value) ∧
    field (named (artifactRecord f)) "host_id" = f.hostId ∧
    field (named (artifactRecord f)) "hybrid_kv_cache_enabled" = f.hybridKvCacheEnabled ∧
    field (named (artifactRecord f)) "max_model_len" = f.maxModelLen ∧
    field (named (artifactRecord f)) "pipeline_parallel_size" = f.pipelineParallelSize ∧
    field (named (artifactRecord f)) "prompt_tokens" = f.promptTokens ∧
    field (named (artifactRecord f)) "prompt_fixture_digest" = f.promptFixtureDigest ∧
    field (named (artifactRecord f)) "runtime" =
      .mapping (named (runtimeRecord f.runtime.val)) ∧
    field (named (artifactRecord f)) "sampling_seed" = f.samplingSeed ∧
    field (named (artifactRecord f)) "schema_version" = f.schemaVersion ∧
    field (named (artifactRecord f)) "temperature" = f.temperature ∧
    field (named (artifactRecord f)) "tensor_parallel_size" = f.tensorParallelSize ∧
    field (named (artifactRecord f)) "top_p" = f.topP ∧
    field (named (artifactRecord f)) "trials" = .list (f.trials.map trialToDict) := by
  simp [field_named, artifactRecord, Dict.find]

theorem isInteger_equalsInt {v : JsonValue} {n : ℤ} (h : v.isInteger n = true) :
    v.equalsInt n = true := by
  cases v <;> simp_all [JsonValue.isInteger, JsonValue.equalsInt]

theorem benchmarkArtifactFromDict_written (a : BenchmarkArtifact convert) :
    benchmarkArtifactFromDict convert (.mapping (named (artifactRecord a.val))) = .ok a := by
  obtain ⟨hbackend, hblock, hcase, hhost, hhybrid, hmax, hpipeline, hprompt, hfixture, hruntime,
    hseed, hversion, htemperature, htensor, htop, htrials⟩ := artifactRecord_fields a.val
  have hschema : a.val.schemaVersion.equalsInt benchmarkSchemaVersion = true := by
    obtain ⟨_, hcontrols, _⟩ := (checked_ok_iff _ _ _).mp a.property
    obtain ⟨_, hidentity, _⟩ := (checked_ok_iff _ _ _).mp hcontrols
    exact isInteger_equalsInt ((require_then_iff ..).mp hidentity).1
  have hparts : benchmarkParts (.mapping (named (artifactRecord a.val))) =
      .ok ⟨named (artifactRecord a.val), a.val.trials.map trialToDict, a.val.case,
        a.val.runtime⟩ := by
    refine (checked_ok_iff _ _ _).mpr
      ⟨_, (exactMapping_ok_iff ..).mpr ⟨rfl, hasKeys_named _⟩, ?_⟩
    rw [hversion, htrials, hcase, hruntime]
    refine (require_then_iff ..).mpr ⟨hschema, ?_⟩
    refine (checked_ok_iff _ _ _).mpr ⟨_, (items_ok_iff ..).mpr rfl, ?_⟩
    refine (checked_ok_iff _ _ _).mpr ⟨_, (caseFromValue_ok_iff _ _).mpr rfl, ?_⟩
    exact (checked_ok_iff _ _ _).mpr ⟨_, runtimeFromDict_written _, rfl⟩
  refine (checked_ok_iff _ _ _).mpr ⟨_, hparts, ?_⟩
  refine (checked_ok_iff _ _ _).mpr ⟨_, mapM_written trialFromDict_written _, ?_⟩
  refine (construct_ok_iff _ _ _).mpr ?_
  rw [benchmarkFields, hbackend, hblock, hhost, hhybrid, hmax, hpipeline, hprompt, hfixture,
    hseed, hversion, htemperature, htensor, htop]

theorem benchmarkArtifactToDict_ok (a : BenchmarkArtifact convert) :
    benchmarkArtifactToDict a = .ok (.mapping (named (artifactRecord a.val))) :=
  (checked_ok_iff _ _ _).mpr ⟨a, benchmarkArtifactFromDict_written a, rfl⟩

/-- What is read agrees with what is written for it. -/
theorem benchmarkArtifactToDict_agrees {data : JsonValue} {a : BenchmarkArtifact convert}
    (hread : benchmarkArtifactFromDict convert data = .ok a) :
    Agree data (.mapping (named (artifactRecord a.val))) := by
  obtain ⟨parts, hparts, ha⟩ := (checked_ok_iff _ _ _).mp hread
  obtain ⟨trials, htrials, ha⟩ := (checked_ok_iff _ _ _).mp ha
  obtain ⟨root, hroot, h⟩ := (checked_ok_iff _ _ _).mp hparts
  obtain ⟨_, h⟩ := (require_then_iff ..).mp h
  obtain ⟨rawTrials, hrawTrials, h⟩ := (checked_ok_iff _ _ _).mp h
  obtain ⟨case, hcase, h⟩ := (checked_ok_iff _ _ _).mp h
  obtain ⟨runtime, hruntime, h⟩ := (checked_ok_iff _ _ _).mp h
  obtain rfl := Except.ok.inj h
  obtain ⟨rfl, hkeys⟩ := (exactMapping_ok_iff ..).mp hroot
  rw [(construct_ok_iff _ _ _).mp ha]
  refine agree_record hkeys ?_
  simp only [artifactRecord, benchmarkFields, List.forall_mem_cons,
    (items_ok_iff ..).mp hrawTrials]
  exact ⟨.same _, .same _, agree_of_eq ((caseFromValue_ok_iff _ _).mp hcase), .same _, .same _,
    .same _, .same _, .same _, .same _, runtimeRecord_agrees hruntime, .same _, .same _, .same _,
    .same _, .same _, agree_list htrials fun _ _ _ => trialToDict_agrees, List.forall_mem_nil _⟩

end

end CacheBlend.BenchmarkCodec
