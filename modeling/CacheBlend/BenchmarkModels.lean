import CacheBlend.CorrectnessModels
import CacheBlend.MetricCounters

/-!
# Benchmark evidence

A benchmark artifact is one controlled case with the trials of its arms. A
trial holds the counters and timings of one request, and its arm says which
work they may report. Trials and artifacts hold what they were given and check
it when they are constructed. The conversion of integers to floats, which has a
largest argument, is a parameter.
-/

set_option autoImplicit false

namespace CacheBlend.BenchmarkModels
open CacheBlend.JsonValues CacheBlend.CorrectnessModels CacheBlend.MetricCounters

def benchmarkSchemaVersion : ℤ := 1
def benchmarkAttentionBackend : String := "TRITON_ATTN"
def benchmarkBlockSize : ℤ := 16
def benchmarkMaxModelLen : ℤ := 131072
def benchmarkTensorParallelSize : ℤ := 1
def benchmarkPipelineParallelSize : ℤ := 1

inductive BenchmarkArm where
  | fullPrefill
  | vllmPrefixExact
  | vllmPrefixMoved
  | cacheblend100pct
  | cacheblendSelective
  | prefixPlusCacheblend
  deriving DecidableEq

def BenchmarkArm.all : List BenchmarkArm :=
  [.fullPrefill, .vllmPrefixExact, .vllmPrefixMoved, .cacheblend100pct, .cacheblendSelective,
    .prefixPlusCacheblend]

def BenchmarkArm.value : BenchmarkArm → String
  | .fullPrefill => "full_prefill"
  | .vllmPrefixExact => "vllm_prefix_exact"
  | .vllmPrefixMoved => "vllm_prefix_moved"
  | .cacheblend100pct => "cacheblend_100pct"
  | .cacheblendSelective => "cacheblend_selective"
  | .prefixPlusCacheblend => "prefix_plus_cacheblend"

inductive BenchmarkCacheState where
  | cold
  | warm
  deriving DecidableEq

def BenchmarkCacheState.all : List BenchmarkCacheState := [.cold, .warm]

def BenchmarkCacheState.value : BenchmarkCacheState → String
  | .cold => "cold"
  | .warm => "warm"

inductive BenchmarkFailureCode where
  | connectorFallback
  | correctnessFailed
  | runtimeError
  | timeout
  | unsupportedConfiguration
  deriving DecidableEq

def BenchmarkFailureCode.all : List BenchmarkFailureCode :=
  [.connectorFallback, .correctnessFailed, .runtimeError, .timeout, .unsupportedConfiguration]

def BenchmarkFailureCode.value : BenchmarkFailureCode → String
  | .connectorFallback => "connector_fallback"
  | .correctnessFailed => "correctness_failed"
  | .runtimeError => "runtime_error"
  | .timeout => "timeout"
  | .unsupportedConfiguration => "unsupported_configuration"

inductive BenchmarkErrorCode where
  | invalidSchema
  | invalidRuntime
  | invalidTrialIndex
  | invalidPromptTokens
  | invalidRatio
  | invalidIdentity
  | invalidMetrics
  | invalidDigest
  | armCaseMismatch
  | armMetricMismatch
  | correctnessMissing
  | transferEvidenceMissing
  | duplicateTrial
  | inconsistentTrial
  | incompatibleArtifacts
  | mixedCacheState
  | emptyTrials
  deriving DecidableEq

/-- A `BenchmarkError`, the `OverflowError` of an integer that has no float, or
the `TypeError` of a timing that is missing. -/
inductive BenchmarkFault where
  | benchmark (code : BenchmarkErrorCode)
  | overflow
  | missing
  deriving DecidableEq

/-! ## The metrics of a trial -/

structure CounterValues where
  promptTokens : JsonValue
  reusableDocumentsRequested : JsonValue
  reusableDocumentsHit : JsonValue
  reusableDocumentTokensRequested : JsonValue
  kvTokensFound : JsonValue
  kvTokensLoaded : JsonValue
  kvTokensRejected : JsonValue
  tokensRecomputed : JsonValue
  prefillTokensAvoided : JsonValue

structure TimerValues where
  lookupLatencySeconds : JsonValue
  transferLatencySeconds : JsonValue
  positionCorrectionLatencySeconds : JsonValue
  selectiveRecomputationLatencySeconds : JsonValue
  ttftSeconds : JsonValue
  prefillLatencySeconds : JsonValue
  storeLatencySeconds : JsonValue
  queueLatencySeconds : JsonValue
  decodeLatencySeconds : JsonValue
  endToEndLatencySeconds : JsonValue

structure ErrorValues where
  maxAbsLogitError : JsonValue
  meanAbsLogitError : JsonValue

/-- `RequestMetrics` with the values it was given. -/
structure TrialMetrics where
  counters : CounterValues
  timers : TimerValues
  correctness : ErrorValues

def CounterValues.values (c : CounterValues) : List JsonValue :=
  [c.promptTokens, c.reusableDocumentsRequested, c.reusableDocumentsHit,
    c.reusableDocumentTokensRequested, c.kvTokensFound, c.kvTokensLoaded, c.kvTokensRejected,
    c.tokensRecomputed, c.prefillTokensAvoided]

def CounterValues.integers (c : CounterValues) : RequestMetricCounters where
  promptTokens := c.promptTokens.intValue
  reusableDocumentsRequested := c.reusableDocumentsRequested.intValue
  reusableDocumentsHit := c.reusableDocumentsHit.intValue
  reusableDocumentTokensRequested := c.reusableDocumentTokensRequested.intValue
  kvTokensFound := c.kvTokensFound.intValue
  kvTokensLoaded := c.kvTokensLoaded.intValue
  kvTokensRejected := c.kvTokensRejected.intValue
  tokensRecomputed := c.tokensRecomputed.intValue
  prefillTokensAvoided := c.prefillTokensAvoided.intValue

def TimerValues.values (t : TimerValues) : List JsonValue :=
  [t.lookupLatencySeconds, t.transferLatencySeconds, t.positionCorrectionLatencySeconds,
    t.selectiveRecomputationLatencySeconds, t.ttftSeconds, t.prefillLatencySeconds,
    t.storeLatencySeconds, t.queueLatencySeconds, t.decodeLatencySeconds,
    t.endToEndLatencySeconds]

def ErrorValues.values (e : ErrorValues) : List JsonValue :=
  [e.maxAbsLogitError, e.meanAbsLogitError]

section
variable (convert : ℤ → Option ℚ)

/-- Whether `float(value)` of a number is finite and passes the test. -/
def floatTest (test : ℚ → Bool) (v : JsonValue) : Except BenchmarkFault Bool :=
  match v.toFloat convert with
  | none => .ok false
  | some none => .error .overflow
  | some (some (.finite q)) => .ok (test q)
  | some (some _) => .ok false

/-- Whether a timer or an error raises no issue; an absent one does not. -/
def acceptable (v : JsonValue) : Except BenchmarkFault Bool :=
  if v.isNull = true then .ok true else floatTest convert (fun q => 0 ≤ q) v

/-- Whether `validate_request_metrics` finds no issue. -/
def metricsAccepted (m : TrialMetrics) : Except BenchmarkFault Bool := do
  let timers ← m.timers.values.mapM (acceptable convert)
  let errors ← m.correctness.values.mapM (acceptable convert)
  .ok (m.counters.values.all (JsonValue.isCount 0) && timers.all id && errors.all id &&
    reconciliationIssues m.counters.integers = [])

/-! ## Trials -/

structure TrialFields where
  arm : BenchmarkArm
  case : CorrectnessCase
  cacheState : BenchmarkCacheState
  trialIndex : JsonValue
  metrics : TrialMetrics
  recomputeRatio : JsonValue
  peakMemoryBytes : JsonValue
  correctnessPassed : JsonValue
  correctnessArtifactDigest : JsonValue
  failure : Option BenchmarkFailureCode
  stagingOverheadBytes : JsonValue
  transferEvidenceDigest : JsonValue

/-- `_validate_arm_case`. -/
def ArmCase : BenchmarkArm → CorrectnessCase → Prop
  | .vllmPrefixExact, c => c = .exactPrefix
  | .vllmPrefixMoved, c => c = .movedDocument
  | .cacheblendSelective, c => c = .movedDocument ∨ c = .reorderedDocuments
  | .prefixPlusCacheblend, c =>
    c = .exactPrefix ∨ c = .movedDocument ∨ c = .reorderedDocuments
  | .fullPrefill, _ => True
  | .cacheblend100pct, _ => True

instance (arm : BenchmarkArm) (c : CorrectnessCase) : Decidable (ArmCase arm c) := by
  cases arm <;> unfold ArmCase <;> infer_instance

/-- The ratio is a finite float in `[0, 1]`. -/
def ratioAccepted : JsonValue → Except BenchmarkFault Bool :=
  floatTest convert fun q => 0 ≤ q && q ≤ 1

def checkRatio : JsonValue → Except BenchmarkFault Unit
  | .null => .ok ⟨⟩
  | v => do
    let accepted ← ratioAccepted convert v
    require (accepted = true) (.benchmark .invalidRatio)

def NoReuse (c : RequestMetricCounters) : Prop :=
  c.reusableDocumentsRequested = 0 ∧ c.reusableDocumentsHit = 0 ∧
  c.reusableDocumentTokensRequested = 0 ∧ c.kvTokensFound = 0 ∧ c.kvTokensLoaded = 0 ∧
  c.kvTokensRejected = 0

instance (c : RequestMetricCounters) : Decidable (NoReuse c) := inferInstanceAs (Decidable (_ ∧ _))

def ArmMetrics (f : TrialFields) : Prop :=
  match f.arm with
  | .cacheblend100pct =>
    f.recomputeRatio.numeric = some 1 ∧ f.metrics.counters.integers.isFullRecomputation = true
  | .fullPrefill =>
    f.metrics.counters.integers.isFullRecomputation = true ∧ NoReuse f.metrics.counters.integers
  | .vllmPrefixExact => NoReuse f.metrics.counters.integers
  | .vllmPrefixMoved =>
    NoReuse f.metrics.counters.integers ∧
      f.metrics.counters.integers.isFullRecomputation = true ∧
      f.metrics.counters.integers.prefillTokensAvoided = 0
  | .cacheblendSelective => ∃ q ∈ f.recomputeRatio.numeric, q < 1
  | .prefixPlusCacheblend => f.recomputeRatio.isNull = true

instance (f : TrialFields) : Decidable (ArmMetrics f) := by
  unfold ArmMetrics
  cases f.arm <;> dsimp only <;> infer_instance

def BenchmarkArm.blends : BenchmarkArm → Bool
  | .cacheblend100pct | .cacheblendSelective | .prefixPlusCacheblend => true
  | .fullPrefill | .vllmPrefixExact | .vllmPrefixMoved => false

def TrialFields.passed (f : TrialFields) : Bool := f.correctnessPassed.isTrue

def checkTrial (f : TrialFields) : Except BenchmarkFault Unit := do
  require (ArmCase f.arm f.case) (.benchmark .armCaseMismatch)
  require (f.trialIndex.isCount 1 = true) (.benchmark .invalidTrialIndex)
  let accepted ← metricsAccepted convert f.metrics
  require (accepted = true) (.benchmark .invalidMetrics)
  require (0 < f.metrics.counters.integers.promptTokens) (.benchmark .invalidPromptTokens)
  checkRatio convert f.recomputeRatio
  require (ArmMetrics f) (.benchmark .armMetricMismatch)
  require (f.peakMemoryBytes.isCount 0 = true) (.benchmark .invalidMetrics)
  require (f.correctnessPassed.isBoolean = true) (.benchmark .correctnessMissing)
  require (f.correctnessArtifactDigest.isNull = true ∨
    f.correctnessArtifactDigest.isHex 64 = true) (.benchmark .invalidDigest)
  require (f.passed = true → f.correctnessArtifactDigest.isNull = false)
    (.benchmark .correctnessMissing)
  require (f.passed = true → f.metrics.correctness.maxAbsLogitError.isNull = false ∧
    f.metrics.correctness.meanAbsLogitError.isNull = false) (.benchmark .correctnessMissing)
  require (f.transferEvidenceDigest.isNull = true ∨
    f.transferEvidenceDigest.isHex 64 = true) (.benchmark .invalidDigest)
  require (¬(f.arm.blends = true ∧ f.passed = true ∧
    0 < f.metrics.counters.integers.kvTokensLoaded ∧ f.transferEvidenceDigest.isNull = true))
    (.benchmark .transferEvidenceMissing)
  require (f.passed = true → f.failure = none) (.benchmark .correctnessMissing)
  require (f.stagingOverheadBytes.isCount 0 = true) (.benchmark .invalidMetrics)

abbrev BenchmarkTrial : Type := Checked (checkTrial convert)

variable {convert}

def BenchmarkTrial.trialIndex (t : BenchmarkTrial convert) : ℤ := t.val.trialIndex.intValue

def BenchmarkTrial.counters (t : BenchmarkTrial convert) : RequestMetricCounters :=
  t.val.metrics.counters.integers

def trialKey (t : BenchmarkTrial convert) : BenchmarkArm × BenchmarkCacheState × ℤ :=
  (t.val.arm, t.val.cacheState, BenchmarkTrial.trialIndex t)

variable (convert)

/-! ## Artifacts -/

structure BenchmarkFields where
  schemaVersion : JsonValue
  runtime : CorrectnessRuntimeIdentity
  case : CorrectnessCase
  promptTokens : JsonValue
  promptFixtureDigest : JsonValue
  hostId : JsonValue
  attentionBackend : JsonValue
  hybridKvCacheEnabled : JsonValue
  blockSize : JsonValue
  maxModelLen : JsonValue
  tensorParallelSize : JsonValue
  pipelineParallelSize : JsonValue
  samplingSeed : JsonValue
  temperature : JsonValue
  topP : JsonValue
  trials : List (BenchmarkTrial convert)

/-- A character of `[A-Za-z0-9._-]`. -/
def isIdCharacter (c : CodePoint) : Bool :=
  decide (48 ≤ c.val ∧ c.val ≤ 57 ∨ 65 ≤ c.val ∧ c.val ≤ 90 ∨ 97 ≤ c.val ∧ c.val ≤ 122 ∨
    c.val = 46 ∨ c.val = 95 ∨ c.val = 45)

def isSafeId : JsonValue → Bool
  | .text t => t ≠ [] && t.length ≤ 256 && t.all isIdCharacter
  | _ => false

/-- Whether a number is finite as a float. -/
def finiteFloat : JsonValue → Except BenchmarkFault Bool := floatTest convert fun _ => true

/-- The conditions on the temperature and then on `top_p`, until one fails. -/
def checkSampling (temperature topP : JsonValue) : Except BenchmarkFault Unit := do
  let first ← finiteFloat convert temperature
  require (first = true) (.benchmark .invalidIdentity)
  let second ← finiteFloat convert topP
  require (second = true) (.benchmark .invalidIdentity)
  require (temperature.equalsInt 0 = true ∧ topP.equalsInt 1 = true)
    (.benchmark .invalidIdentity)

def checkIdentity (f : BenchmarkFields convert) : Except BenchmarkFault Unit := do
  require (f.schemaVersion.isInteger benchmarkSchemaVersion = true) (.benchmark .invalidSchema)
  require (f.promptTokens.isCount 1 = true ∧ f.promptTokens.intValue ≤ benchmarkMaxModelLen)
    (.benchmark .invalidPromptTokens)
  require (f.promptFixtureDigest.isHex 64 = true) (.benchmark .invalidDigest)
  require (isSafeId f.hostId = true) (.benchmark .invalidIdentity)
  require (f.attentionBackend.isText benchmarkAttentionBackend = true)
    (.benchmark .invalidIdentity)
  require (f.hybridKvCacheEnabled.isTrue = true) (.benchmark .invalidIdentity)
  require (f.blockSize.equalsInt benchmarkBlockSize = true) (.benchmark .invalidIdentity)
  require (f.maxModelLen.equalsInt benchmarkMaxModelLen = true) (.benchmark .invalidIdentity)
  require (f.tensorParallelSize.equalsInt benchmarkTensorParallelSize = true)
    (.benchmark .invalidIdentity)
  require (f.pipelineParallelSize.equalsInt benchmarkPipelineParallelSize = true)
    (.benchmark .invalidIdentity)
  require (f.samplingSeed.isInteger 0 = true) (.benchmark .invalidIdentity)

def checkControls (f : BenchmarkFields convert) : Except BenchmarkFault Unit := do
  checkIdentity convert f
  checkSampling convert f.temperature f.topP

variable {convert}

def checkTrials (case : CorrectnessCase) (promptTokens : ℤ) :
    List (BenchmarkArm × BenchmarkCacheState × ℤ) → List (BenchmarkTrial convert) →
      Except BenchmarkFault Unit
  | _, [] => .ok ⟨⟩
  | seen, t::rest => do
    require (t.val.case = case) (.benchmark .inconsistentTrial)
    require (t.counters.promptTokens = promptTokens) (.benchmark .inconsistentTrial)
    require (trialKey t ∉ seen) (.benchmark .duplicateTrial)
    checkTrials case promptTokens (trialKey t::seen) rest

variable (convert)

def checkBenchmark (f : BenchmarkFields convert) : Except BenchmarkFault Unit := do
  checkControls convert f
  require (f.trials.length ≠ 0) (.benchmark .emptyTrials)
  require ((f.trials.map fun t => t.val.cacheState).dedup.length = 1)
    (.benchmark .mixedCacheState)
  checkTrials f.case f.promptTokens.intValue [] f.trials

abbrev BenchmarkArtifact : Type := Checked (checkBenchmark convert)

end

end CacheBlend.BenchmarkModels
