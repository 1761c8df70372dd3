import CacheBlend.JsonValues
import CacheBlend.Sorting
import CacheBlend.StoreReceipts

/-!
# Correctness evidence

A correctness artifact is one final distribution with the runtime, the prompts
and the connector's work that it came from. Its parts hold what they were given
and check it when they are constructed.
-/

set_option autoImplicit false

namespace CacheBlend.CorrectnessModels
open CacheBlend.JsonValues CacheBlend.StoreReceipts

def artifactSchemaVersion : ℤ := 2
def gptOssVocabSize : ℕ := 201088

inductive CorrectnessCase where
  | exactPrefix
  | movedDocument
  | reorderedDocuments
  | cacheMiss
  deriving DecidableEq

def CorrectnessCase.all : List CorrectnessCase :=
  [.exactPrefix, .movedDocument, .reorderedDocuments, .cacheMiss]

def CorrectnessCase.value : CorrectnessCase → String
  | .exactPrefix => "exact_prefix"
  | .movedDocument => "moved_document"
  | .reorderedDocuments => "reordered_documents"
  | .cacheMiss => "cache_miss"

inductive CorrectnessRunMode where
  | fullPrefill
  | cacheblend100pct
  deriving DecidableEq

def CorrectnessRunMode.all : List CorrectnessRunMode := [.fullPrefill, .cacheblend100pct]

def CorrectnessRunMode.value : CorrectnessRunMode → String
  | .fullPrefill => "full_prefill"
  | .cacheblend100pct => "cacheblend_100pct"

/-- A `ValueError` with its text or of an enumeration that lacks the value, or
the `OverflowError` of a conversion. -/
inductive CorrectnessFault where
  | value (text : String)
  | notMember (enumeration : String)
  | overflow
  deriving DecidableEq

def invalidField (name : String) : CorrectnessFault :=
  .value ("invalid correctness artifact " ++ name)

def isPlainText : JsonValue → Bool
  | .text t => t ≠ [] && t.length ≤ 256 && t.all fun c => !isSpace c
  | _ => false

/-- `_require_text`. -/
def requireText (name : String) (v : JsonValue) : Except CorrectnessFault Unit :=
  require (isPlainText v = true) (invalidField name)

/-- `_require_count`. -/
def requireCount (name : String) (v : JsonValue) : Except CorrectnessFault Unit :=
  require (v.isCount 0 = true) (invalidField name)

/-- `_require_digest`, for a pattern of hexadecimal digits. -/
def requireDigest (name : String) (v : JsonValue) (length : ℕ) : Except CorrectnessFault Unit :=
  require (v.isHex length = true) (invalidField name)

/-! ## The runtime -/

structure RuntimeFields where
  modelId : JsonValue
  modelRevision : JsonValue
  tokenizerRevision : JsonValue
  pluginCommit : JsonValue
  modelConfigDigest : JsonValue
  kvCacheConfigDigest : JsonValue
  vllmVersion : JsonValue
  lmcacheVersion : JsonValue
  torchVersion : JsonValue
  cudaRuntime : JsonValue
  gpuName : JsonValue
  dtype : JsonValue

def pinnedGpuName : String := "NVIDIA A100-SXM4-80GB"

def checkRuntime (f : RuntimeFields) : Except CorrectnessFault Unit := do
  require (f.modelId.isText pinnedTarget.modelId = true ∧
    f.vllmVersion.isText pinnedTarget.vllmVersion = true ∧
    f.lmcacheVersion.isText pinnedTarget.lmcacheVersion = true ∧
    f.torchVersion.isText pinnedTarget.torchVersion = true ∧
    f.cudaRuntime.isText pinnedTarget.cudaRuntime = true ∧
    f.gpuName.isText pinnedGpuName = true ∧ f.dtype.isText "torch.bfloat16" = true)
    (.value "correctness artifact is outside the pinned runtime")
  requireText "model_revision" f.modelRevision
  requireText "tokenizer_revision" f.tokenizerRevision
  requireDigest "plugin_commit" f.pluginCommit 40
  requireDigest "model_config_digest" f.modelConfigDigest 64
  requireDigest "kv_cache_config_digest" f.kvCacheConfigDigest 64

abbrev CorrectnessRuntimeIdentity : Type := Checked checkRuntime

/-! ## The prompts -/

structure SegmentFields where
  tokenDigest : JsonValue
  tokens : JsonValue
  sourceStart : JsonValue
  targetStart : JsonValue

def checkSegment (f : SegmentFields) : Except CorrectnessFault Unit := do
  requireDigest "reusable token digest" f.tokenDigest 64
  requireCount "tokens" f.tokens
  requireCount "source_start" f.sourceStart
  requireCount "target_start" f.targetStart
  require (f.tokens.intValue ≠ 0) (.value "reusable segment must not be empty")

abbrev ReusableSegmentIdentity : Type := Checked checkSegment

def ReusableSegmentIdentity.tokens (s : ReusableSegmentIdentity) : ℤ := s.val.tokens.intValue

def ReusableSegmentIdentity.sourceStart (s : ReusableSegmentIdentity) : ℤ :=
  s.val.sourceStart.intValue

def ReusableSegmentIdentity.targetStart (s : ReusableSegmentIdentity) : ℤ :=
  s.val.targetStart.intValue

structure PromptFields where
  case : CorrectnessCase
  sourcePromptDigest : JsonValue
  sourcePromptTokens : JsonValue
  targetPromptDigest : JsonValue
  targetPromptTokens : JsonValue
  reusableSegments : List ReusableSegmentIdentity

open ReusableSegmentIdentity (sourceStart targetStart)

def checkSources (sourceTokens targetTokens : ℤ) : ℤ → List ReusableSegmentIdentity →
    Except CorrectnessFault Unit
  | _, [] => .ok ⟨⟩
  | sourceEnd, s::rest => do
    require (¬(s.sourceStart < sourceEnd ∨ s.sourceStart+s.tokens > sourceTokens ∨
      s.targetStart+s.tokens > targetTokens))
      (.value "reusable segment is outside a prompt or overlaps")
    checkSources sourceTokens targetTokens (s.sourceStart+s.tokens) rest

def checkTargets : ℤ → List ReusableSegmentIdentity → Except CorrectnessFault Unit
  | _, [] => .ok ⟨⟩
  | targetEnd, s::rest => do
    require (¬s.targetStart < targetEnd) (.value "reusable target segments overlap")
    checkTargets (s.targetStart+s.tokens) rest

/-- `_validate_segments`. A stable sort leaves segments in place exactly when
their keys are in order. -/
def validateSegments (f : PromptFields) : Except CorrectnessFault Unit := do
  require (f.sourcePromptTokens.intValue ≠ 0 ∧ f.targetPromptTokens.intValue ≠ 0)
    (.value "correctness prompts must not be empty")
  if f.case = .cacheMiss then
    require (f.reusableSegments.length = 0)
      (.value "cache-miss identity cannot claim reusable segments")
  else do
    require (f.reusableSegments.length = if f.case = .reorderedDocuments then 2 else 1)
      (.value "correctness case has the wrong reusable segments")
    require (sortedBy id (f.reusableSegments.map sourceStart) =
      f.reusableSegments.map sourceStart)
      (.value "reusable segments must be ordered by source position")
    checkSources f.sourcePromptTokens.intValue f.targetPromptTokens.intValue 0 f.reusableSegments
    let byTarget := sortedBy targetStart f.reusableSegments
    checkTargets 0 byTarget
    require (f.case = .exactPrefix → ∀ s ∈ f.reusableSegments, s.sourceStart = s.targetStart)
      (.value "exact-prefix positions must agree")
    require (f.case = .movedDocument → ∀ s ∈ f.reusableSegments, s.sourceStart ≠ s.targetStart)
      (.value "moved-document positions must differ")
    require (f.case = .reorderedDocuments →
      byTarget.map sourceStart ≠ f.reusableSegments.map sourceStart)
      (.value "reordered documents must change relative order")

def checkPrompt (f : PromptFields) : Except CorrectnessFault Unit := do
  requireDigest "source_prompt_digest" f.sourcePromptDigest 64
  requireDigest "target_prompt_digest" f.targetPromptDigest 64
  requireCount "source_prompt_tokens" f.sourcePromptTokens
  requireCount "target_prompt_tokens" f.targetPromptTokens
  validateSegments f

abbrev PromptCaseIdentity : Type := Checked checkPrompt

def PromptCaseIdentity.reusableTokens (p : PromptCaseIdentity) : ℤ :=
  (p.val.reusableSegments.map ReusableSegmentIdentity.tokens).sum

/-! ## The work of the connector -/

structure EvidenceFields where
  reusableDocumentTokensRequested : JsonValue
  kvTokensFound : JsonValue
  kvTokensLoaded : JsonValue
  kvTokensRejected : JsonValue
  tokensRecomputed : JsonValue
  prefillTokensAvoided : JsonValue

def checkEvidence (f : EvidenceFields) : Except CorrectnessFault Unit := do
  requireCount "reusable_document_tokens_requested" f.reusableDocumentTokensRequested
  requireCount "kv_tokens_found" f.kvTokensFound
  requireCount "kv_tokens_loaded" f.kvTokensLoaded
  requireCount "kv_tokens_rejected" f.kvTokensRejected
  requireCount "tokens_recomputed" f.tokensRecomputed
  requireCount "prefill_tokens_avoided" f.prefillTokensAvoided
  require (f.kvTokensFound.intValue = f.kvTokensLoaded.intValue+f.kvTokensRejected.intValue)
    (.value "found KV tokens must be loaded or rejected")
  require (f.kvTokensLoaded.intValue ≤ f.reusableDocumentTokensRequested.intValue)
    (.value "loaded KV tokens exceed reusable requested tokens")

abbrev ConnectorCorrectnessEvidence : Type := Checked checkEvidence

/-! ## The distribution -/

structure LogprobFields where
  values : List PyFloat
  sampledTokenId : JsonValue

/-- An integer in `[0, bound)`. -/
def isIndex (bound : ℕ) : JsonValue → Bool
  | .integer n => 0 ≤ n && n < bound
  | _ => false

def checkLogprobs (f : LogprobFields) : Except CorrectnessFault Unit := do
  require (f.values.length = gptOssVocabSize)
    (.value "full-vocabulary distribution has the wrong size")
  require (isIndex f.values.length f.sampledTokenId = true) (.value "invalid sampled token ID")
  require (∀ x ∈ f.values, x ≠ .nan ∧ x ≠ .infinity)
    (.value "invalid full-vocabulary log probability")

abbrev FullVocabularyLogprobs : Type := Checked checkLogprobs

/-! ## The artifact -/

structure ArtifactFields where
  schemaVersion : JsonValue
  runMode : CorrectnessRunMode
  runtime : CorrectnessRuntimeIdentity
  prompt : PromptCaseIdentity
  distribution : FullVocabularyLogprobs
  connector : Option ConnectorCorrectnessEvidence

/-- The connector's work of a full recomputation with transfer. -/
def WorkAgrees (prompt : PromptCaseIdentity) (connector : ConnectorCorrectnessEvidence) : Prop :=
  connector.val.kvTokensLoaded.intValue = prompt.reusableTokens ∧
  connector.val.reusableDocumentTokensRequested.intValue =
    prompt.val.targetPromptTokens.intValue ∧
  connector.val.tokensRecomputed.intValue = prompt.val.targetPromptTokens.intValue ∧
  connector.val.prefillTokensAvoided.intValue = 0

instance (prompt : PromptCaseIdentity) (connector : ConnectorCorrectnessEvidence) :
    Decidable (WorkAgrees prompt connector) := inferInstanceAs (Decidable (_ ∧ _))

def checkArtifact (f : ArtifactFields) : Except CorrectnessFault Unit := do
  require (f.schemaVersion.isInteger artifactSchemaVersion = true)
    (.value "unsupported correctness artifact schema")
  match f.runMode, f.connector with
  | .fullPrefill, none => .ok ⟨⟩
  | .fullPrefill, some _ =>
    .error (.value "full-prefill artifact cannot claim connector work")
  | .cacheblend100pct, none =>
    .error (.value "CacheBlend artifact requires connector evidence")
  | .cacheblend100pct, some connector =>
    require (WorkAgrees f.prompt connector)
      (.value "CacheBlend 100% artifact has invalid work evidence")

abbrev CorrectnessArtifact : Type := Checked checkArtifact

end CacheBlend.CorrectnessModels
