import CacheBlend.ExactScatters
import CacheBlend.HashPreimages
import CacheBlend.LayoutConstruction
import CacheBlend.TransferCapture
import CacheBlend.WorkerBridge

/-!
# The probe of transfers

The probe digests the rows that a load plan addresses: the staged source
before the scatter, the paged rows after it, after the save hook of each layer
and at the end. It gives evidence of one request, which is written to a file
that must not exist before.
-/

set_option autoImplicit false

namespace CacheBlend.TransferProbe
open CacheBlend.PlannerModels CacheBlend.SegmentFingerprints CacheBlend.HybridLayout
open CacheBlend.ScatterSpans CacheBlend.TokenScatter CacheBlend.DataPlane
open CacheBlend.PagedScatter CacheBlend.LayoutConstruction CacheBlend.WorkerBridge
open CacheBlend.JsonValues CacheBlend.CorrectnessModels CacheBlend.TransferCapture
open CacheBlend.LayerEvidence (LayerTransferEvidence TransferEvidence LayerFields checkLayer)

inductive TransferProbeErrorCode where
  | invalidConfig
  | invalidState
  | invalidPlan
  | invalidTensor
  | incompleteLayers
  deriving DecidableEq

/-- A failure of the probe, of the evidence it builds or of its file, or an
exception of anything else it calls. -/
inductive ProbeFault where
  | probe (code : TransferProbeErrorCode)
  | capture (fault : CaptureFault)
  | segment (fault : CorrectnessFault)
  | fileExists
  | raised

/-! ## Digests of tensors -/

/-- The bytes of an element. Elements of one dtype have one width. -/
structure ElementBytes (δ : Type) where
  bytes : δ → Bytes
  width : ℕ
  positive : 0 < width
  narrow : width ≤ 16
  length : ∀ x, (bytes x).length = width
  injective : Function.Injective bytes

/-- What the probe works with: the tensors and the correction of the bridge,
and the views and reads that raise. -/
structure ProbeEnvironment (δ : Type) where
  tensors : Tensors
  capacity : ℕ
  allocated : tensors.staging.shape = [kvComponents, gptOssNumLayers, capacity, gptOssKvWidth]
  correct : KeyPositionCorrector δ
  element : ElementBytes δ
  viewRaises : LayerTokenScatterSpan → Bool
  readRaises : TensorInfo → Bool

structure ShownRows (δ : Type) where
  info : TensorInfo
  rows : List (HeadRow δ)

structure TensorView where
  shape : List ℕ
  dtypeName : String
  payload : Bytes

def packU16 (n : ℕ) : Bytes := bigEndian 2 n

def frameView (v : TensorView) : Bytes :=
  (packU16 v.shape.length ++ v.shape.flatMap packU64) ++
    ((packU16 (utf8 v.dtypeName).length ++ utf8 v.dtypeName) ++
      (packU64 v.payload.length ++ v.payload))

def tensorDigestDomain : Bytes := utf8 "cacheblend-gpt-oss-transfer-tensor-v1\x00"

section
variable {δ : Type}

def elements (row : HeadRow δ) : List δ :=
  (List.finRange gptOssNumKvHeads).flatMap fun head =>
    (List.finRange gptOssHeadDim).map (row head)

def payloadOf (element : ElementBytes δ) (rows : List (HeadRow δ)) : Bytes :=
  (rows.flatMap elements).flatMap element.bytes

/-- A view fits when none of its `to_bytes` calls overflows. -/
def Fits (v : TensorView) : Prop :=
  (v.shape.length < 2^16 ∧ ∀ dimension ∈ v.shape, dimension < 2^64) ∧
    (utf8 v.dtypeName).length < 2^16 ∧ v.payload.length < 2^64

instance (v : TensorView) : Decidable (Fits v) := inferInstanceAs (Decidable ((_ ∧ _) ∧ _))

/-- The body of the loop of `_digest_views`. -/
def readView (env : ProbeEnvironment δ) (t : ShownRows δ) : Except ProbeFault TensorView := do
  require (env.readRaises t.info = false) (.probe .invalidTensor)
  let view : TensorView := ⟨t.info.shape, t.info.dtypeName, payloadOf env.element t.rows⟩
  require (view.shape ≠ [] ∧ view.dtypeName ≠ "" ∧ view.payload ≠ []) (.probe .invalidTensor)
  require (Fits view) .raised
  .ok view

/-- The bytes that `_digest_views` feeds to its digest. -/
def framedViews (views : List TensorView) : Bytes :=
  tensorDigestDomain ++ (packU32 views.length ++ views.flatMap frameView)

def frameViews (env : ProbeEnvironment δ) (ts : List (ShownRows δ)) : Except ProbeFault Bytes := do
  require (ts.length < 2^32) .raised
  let views ← ts.mapM (readView env)
  .ok (framedViews views)

def orRaised {α : Type} : Option α → Except ProbeFault α
  | some a => .ok a
  | none => .error .raised

/-! ## Views of a layer -/

def pagedView (env : ProbeEnvironment δ) (m : DataPlaneMemory δ) (cache : TensorInfo)
    (layerIndex : ℕ) (span : LayerTokenScatterSpan) :
    Except ProbeFault (ShownRows δ × ShownRows δ) := do
  require (env.viewRaises span = false) .raised
  let key ← orRaised (pagedRows cache (layerName layerIndex) .key span.groupSpan.blockId
    span.groupSpan.blockOffset span.tokenCount)
  let value ← orRaised (pagedRows cache (layerName layerIndex) .value span.groupSpan.blockId
    span.groupSpan.blockOffset span.tokenCount)
  .ok (⟨key.info, key.cells.map m.paged⟩, ⟨value.info, value.cells.map m.paged⟩)

/-- The preimages of `_paged_digests`. -/
def pagedFrames (env : ProbeEnvironment δ) (m : DataPlaneMemory δ) (layerIndex : ℕ)
    (spans : List LayerTokenScatterSpan) : Except ProbeFault (Bytes × Bytes) := do
  let cache ← orRaised (env.tensors.paged.get? (layerName layerIndex))
  let views ← spans.mapM (pagedView env m cache layerIndex)
  let key ← frameViews env (views.map Prod.fst)
  let value ← frameViews env (views.map Prod.snd)
  .ok (key, value)

/-- The staged rows of a span and its corrected keys. -/
structure SourceView (δ : Type) where
  rawKey : ShownRows δ
  correctedKey : ShownRows δ
  value : ShownRows δ

def sourceView (env : ProbeEnvironment δ) (m : DataPlaneMemory δ) (offset : ℤ) (layerIndex : ℕ)
    (span : LayerTokenScatterSpan) : Except ProbeFault (SourceView δ) := do
  let start := offset+span.targetRange.start
  require (env.viewRaises span = false) .raised
  let key ← orRaised (stagingRows env.tensors.staging .key layerIndex start span.tokenCount)
  let keyRows ← orRaised (reshape key.info (headShape span.tokenCount))
  let value ← orRaised (stagingRows env.tensors.staging .value layerIndex start span.tokenCount)
  let valueRows ← orRaised (reshape value.info (headShape span.tokenCount))
  let corrected ← orRaised (env.correct (stagedRows m key) (positions span.sourceRange)
    (positions span.targetRange) layerIndex)
  .ok ⟨⟨keyRows, stagedRows m key⟩, ⟨corrected.info, corrected.rows⟩,
    ⟨valueRows, stagedRows m value⟩⟩

structure SourceFrames where
  rawKey : Bytes
  correctedKey : Bytes
  value : Bytes

/-- The preimages of `_staging_source_digests`. -/
def sourceFrames (env : ProbeEnvironment δ) (m : DataPlaneMemory δ) (offset : ℤ)
    (layerIndex : ℕ) (spans : List LayerTokenScatterSpan) : Except ProbeFault SourceFrames := do
  let views ← spans.mapM (sourceView env m offset layerIndex)
  let rawKey ← frameViews env (views.map SourceView.rawKey)
  let correctedKey ← frameViews env (views.map SourceView.correctedKey)
  let value ← frameViews env (views.map SourceView.value)
  .ok ⟨rawKey, correctedKey, value⟩

end

/-! ## What the probe reads of a plan -/

section
variable {sha256 : Bytes → Digest}

def planSpans (p : WorkerLoadPlan sha256) : List LayerTokenScatterSpan :=
  p.candidates.flatMap fun work => work.scatterPlan.layerSpans

/-- The spans of one layer, checked against the tokens of the plan. -/
def layerSpans (p : WorkerLoadPlan sha256) (layerIndex : ℕ) :
    Except ProbeFault (List LayerTokenScatterSpan) := do
  let ordered := spansOfLayer (planSpans p) layerIndex
  require (ordered ≠ [] ∧
    (ordered.map LayerTokenScatterSpan.tokenCount).sum = p.expectedTokens ∧
    ∀ span ∈ ordered, span.layerIndex = layerIndex) (.probe .invalidPlan)
  .ok ordered

/-- `_canonical_spans`. -/
def canonicalSpans (p : WorkerLoadPlan sha256) :
    Except ProbeFault (List (List LayerTokenScatterSpan)) := do
  require (p.candidates.length ≠ 0) (.probe .invalidPlan)
  require (∀ span ∈ planSpans p, 0 ≤ span.layerIndex ∧ span.layerIndex < gptOssNumLayers)
    (.probe .invalidPlan)
  (List.range gptOssNumLayers).mapM (layerSpans p)

def joinSources : ℕ → List CacheRecord → Except ProbeFault (List TokenId × ℕ)
  | cursor, [] => .ok ([], cursor)
  | cursor, r::rest => do
    require (r.sourceRange.start = cursor) (.probe .invalidPlan)
    let (tokens, last) ← joinSources r.sourceRange.stop rest
    .ok (r.tokenIds ++ tokens, last)

def loadedRecords (p : WorkerLoadPlan sha256) : List CacheRecord :=
  p.candidates.map fun work => work.verifiedCandidate.verified.record

/-- `_source_prompt_tokens`. -/
def sourcePromptTokens (p : WorkerLoadPlan sha256) : Except ProbeFault (List TokenId) := do
  let (tokens, last) ← joinSources 0
    (sortedBy (fun r => r.sourceRange.start) (loadedRecords p))
  require (last = p.expectedTokens) (.probe .invalidPlan)
  .ok tokens

def tokensDigestDomain : Bytes := utf8 "cacheblend-gpt-oss-correctness-tokens-v1\x00"

/-- `digest_token_ids`. A token of more than four bytes overflows. -/
def digestTokenIds (sha256 : Bytes → Digest) (tokenIds : List TokenId) :
    Except ProbeFault Digest := do
  require (tokenIds.length < 2^64 ∧ ∀ t ∈ tokenIds, t.val < 2^32) .raised
  .ok (sha256 (tokensDigestDomain ++
    (packU64 tokenIds.length ++ tokenIds.flatMap fun t => packU32 t.val)))

def namespaceDigestDomain : Bytes := utf8 "cacheblend-gpt-oss-transfer-namespace-v1\x00"

def namespaceField (field : String × String) : Bytes :=
  (packU16 (utf8 field.1).length ++ utf8 field.1) ++ (packU32 (utf8 field.2).length ++ utf8 field.2)

/-- `cache_namespace_digest`. -/
def cacheNamespaceDigest (sha256 : Bytes → Digest) (n : CacheNamespace) :
    Except ProbeFault Digest := do
  require (∀ field ∈ n.canonicalFields, (utf8 field.1).length < 2^16 ∧
    (utf8 field.2).length < 2^32) .raised
  .ok (sha256 (namespaceDigestDomain ++ n.canonicalFields.flatMap namespaceField))

/-- `hexdigest`. -/
def hexDigest (d : Digest) : JsonValue := .text (pyText (hex d.val))

def segmentOf (sha256 : Bytes → Digest) (work : CandidateScatterWork) :
    Except ProbeFault ReusableSegmentIdentity := do
  let record := work.verifiedCandidate.verified.record
  let digest ← digestTokenIds sha256 record.tokenIds
  (construct checkSegment ⟨hexDigest digest, .integer record.tokenIds.length,
    .integer record.sourceRange.start,
    .integer work.verifiedCandidate.candidate.targetRange.start⟩).mapError .segment

/-- `_reusable_segments`. -/
def reusableSegments (p : WorkerLoadPlan sha256) :
    Except ProbeFault (List ReusableSegmentIdentity) := do
  let segments ← p.candidates.mapM (segmentOf sha256)
  let ordered := sortedBy ReusableSegmentIdentity.sourceStart segments
  require ((ordered.map ReusableSegmentIdentity.tokens).sum = p.expectedTokens)
    (.probe .invalidPlan)
  .ok ordered

/-! ## State -/

/-- `_LayerSamples`. -/
structure LayerSamples where
  beforeKey : Digest
  beforeValue : Digest
  rawSourceKey : Digest
  correctedSourceKey : Digest
  sourceValue : Digest
  afterLoadKey : Option Digest
  afterLoadValue : Option Digest
  targetPrefillKey : Option Digest
  targetPrefillValue : Option Digest

structure ActiveProbe (sha256 : Bytes → Digest) where
  plan : WorkerLoadPlan sha256
  spans : List (List LayerTokenScatterSpan)
  samples : List LayerSamples
  sourcePromptDigest : Option Digest
  targetPromptDigest : Option Digest
  loadWriteObserved : Bool

/-- The file of the output path. A write that raises after the file has been created leaves it
unfinished, whatever bytes it holds by then. -/
inductive EvidenceFile where
  | absent
  | unfinished
  | written (e : TransferEvidence)

def EvidenceFile.isAbsent : EvidenceFile → Bool
  | absent => true
  | _ => false

/-- The probe, when it has a plan, and the file of its output path. -/
structure ProbeWorld (sha256 : Bytes → Digest) where
  probe : Option (ActiveProbe sha256)
  file : EvidenceFile

def ProbeWorld.idle : ProbeWorld sha256 := ⟨none, .absent⟩

abbrev ProbeCall (sha256 : Bytes → Digest) (α : Type) : Type :=
  Call (ProbeWorld sha256) ProbeFault α

def ProbeWorld.withProbe (w : ProbeWorld sha256) (probe : Option (ActiveProbe sha256)) :
    ProbeWorld sha256 := { w with probe := probe }

def updateProbe (f : ActiveProbe sha256 → ActiveProbe sha256) : ProbeCall sha256 PUnit :=
  Call.modify fun w => w.withProbe (w.probe.map f)

/-- `abort`, which clears the probe. -/
def abort : ProbeCall sha256 PUnit := Call.modify fun w => w.withProbe none

variable {δ : Type} (env : ProbeEnvironment δ)

def ActiveProbe.spansOf (p : ActiveProbe sha256) (layerIndex : ℕ) : List LayerTokenScatterSpan :=
  p.spans.getD layerIndex []

variable (sha256) in
/-- The body of the loop of `begin_load`. -/
def sampleLayer (m : DataPlaneMemory δ) (offset : ℤ) (spans : List (List LayerTokenScatterSpan))
    (layerIndex : ℕ) : Except ProbeFault LayerSamples := do
  let before ← pagedFrames env m layerIndex (spans.getD layerIndex [])
  let source ← sourceFrames env m offset layerIndex (spans.getD layerIndex [])
  .ok ⟨sha256 before.1, sha256 before.2, sha256 source.rawKey, sha256 source.correctedKey,
    sha256 source.value, none, none, none, none⟩

def beginLoad (m : DataPlaneMemory δ) (plan : WorkerLoadPlan sha256) (offset : ℤ) :
    ProbeCall sha256 PUnit := do
  let w ← Call.read
  let _ ← Call.lift (require.{0,0} (w.probe.isNone = true) (.probe .invalidState))
  let spans ← Call.lift (canonicalSpans plan)
  let tokens ← Call.lift (sourcePromptTokens plan)
  let samples ← Call.lift ((List.range gptOssNumLayers).mapM
    (sampleLayer sha256 env m offset spans))
  let _ ← Call.modify fun w => w.withProbe (some ⟨plan, spans, samples, none, none, false⟩)
  let source ← Call.lift (digestTokenIds sha256 tokens)
  let _ ← updateProbe fun p => { p with sourcePromptDigest := some source }
  let target ← Call.lift (digestTokenIds sha256 plan.metadata.promptTokenIds)
  updateProbe fun p => { p with targetPromptDigest := some target }

def LayerSamples.loaded (s : LayerSamples) (key value : Digest) : LayerSamples :=
  { s with afterLoadKey := some key, afterLoadValue := some value }

def LayerSamples.prefilled (s : LayerSamples) (key value : Digest) : LayerSamples :=
  { s with targetPrefillKey := some key, targetPrefillValue := some value }

variable (sha256) in
/-- The body of the loop of `mark_load_complete`. -/
def markLayer (m : DataPlaneMemory δ) (spans : List (List LayerTokenScatterSpan))
    (layerIndex : ℕ) : Call (List LayerSamples) ProbeFault PUnit := do
  let frames ← Call.lift (pagedFrames env m layerIndex (spans.getD layerIndex []))
  Call.modify fun samples => samples.modify layerIndex fun s =>
    s.loaded (sha256 frames.1) (sha256 frames.2)

def markLoadComplete (m : DataPlaneMemory δ) : ProbeCall sha256 PUnit := do
  let w ← Call.read
  match w.probe with
  | none => Call.raise (.probe .invalidState)
  | some p => do
    let _ ← Call.within (fun _ => p.samples)
      (fun w samples => w.withProbe (some { p with samples := samples })) id
      ((List.range gptOssNumLayers).forM (markLayer sha256 env m p.spans))
    updateProbe fun p => { p with loadWriteObserved := true }

def ActiveProbe.withPrefill (p : ActiveProbe sha256) (layerIndex : ℕ) (key value : Digest) :
    ActiveProbe sha256 :=
  { p with samples := p.samples.modify layerIndex fun s => s.prefilled key value }

def recordPrefillLayer (m : DataPlaneMemory δ) (name : String) : ProbeCall sha256 PUnit := do
  let w ← Call.read
  match w.probe with
  | none => Call.raise (.probe .invalidState)
  | some p => do
    let _ ← Call.lift (require.{0,0} (p.loadWriteObserved = true) (.probe .invalidState))
    let layerIndex ← Call.lift ((extractGptOssLayerIndex name).mapError fun _ =>
      .probe .invalidPlan)
    let _ ← Call.lift (require.{0,0} (∀ s ∈ p.samples[layerIndex]?,
      s.targetPrefillKey.isNone = true) (.probe .invalidState))
    let frames ← Call.lift (pagedFrames env m layerIndex (p.spansOf layerIndex))
    updateProbe (·.withPrefill layerIndex (sha256 frames.1) (sha256 frames.2))

/-- The keyword arguments of a layer's evidence. The assertions raise. -/
def layerFields (layerIndex : ℕ) (tokenCount : ℕ) (s : LayerSamples) (key value : Digest) :
    Except ProbeFault LayerFields :=
  match s.afterLoadKey, s.afterLoadValue, s.targetPrefillKey, s.targetPrefillValue with
  | some afterLoadKey, some afterLoadValue, some targetPrefillKey, some targetPrefillValue => .ok
    { layerIndex := .integer layerIndex
      attentionKind := if layerIndex%2 = 0 then .sliding else .full
      tokenCount := .integer tokenCount
      loadWriteObserved := .boolean true
      prefillWriteObserved := .boolean true
      keyBeforeDigest := hexDigest s.beforeKey
      keyRawSourceDigest := hexDigest s.rawSourceKey
      keyCorrectedSourceDigest := hexDigest s.correctedSourceKey
      keyAfterLoadDigest := hexDigest afterLoadKey
      keyTargetPrefillDigest := hexDigest targetPrefillKey
      keyAfterPrefillDigest := hexDigest key
      valueBeforeDigest := hexDigest s.beforeValue
      valueSourceDigest := hexDigest s.sourceValue
      valueAfterLoadDigest := hexDigest afterLoadValue
      valueTargetPrefillDigest := hexDigest targetPrefillValue
      valueAfterPrefillDigest := hexDigest value }
  | _, _, _, _ => .error .raised

def built {α : Type} (c : Call TransferEvidenceBuilder CaptureFault α)
    (b : TransferEvidenceBuilder) : Except ProbeFault TransferEvidenceBuilder :=
  match c b with
  | (.ok _, b') => .ok b'
  | (.error fault, _) => .error (.capture fault)

/-- The body of the loop of `finish`. -/
def buildLayer (m : DataPlaneMemory δ) (p : ActiveProbe sha256) (b : TransferEvidenceBuilder)
    (layerIndex : ℕ) : Except ProbeFault TransferEvidenceBuilder := do
  let sample ← orRaised p.samples[layerIndex]?
  let final ← pagedFrames env m layerIndex (p.spansOf layerIndex)
  let fields ← layerFields layerIndex p.plan.expectedTokens sample (sha256 final.1)
    (sha256 final.2)
  let layer ← (construct checkLayer fields).mapError fun code => .capture (.evidence code)
  built (addLayer layer) b

def captureMetadata (p : ActiveProbe sha256) (source target : Digest)
    (recomputedTokens prefillTokensAvoided : ℤ) :
    Except ProbeFault TransferEvidenceCaptureMetadata := do
  let namespaceDigest ← cacheNamespaceDigest sha256 p.plan.metadata.cacheNamespace
  let tokens ← sourcePromptTokens p.plan
  let segments ← reusableSegments p.plan
  (construct checkMetadata
    { namespaceDigest := hexDigest namespaceDigest
      sourcePromptDigest := hexDigest source
      sourcePromptTokens := .integer tokens.length
      targetPromptDigest := hexDigest target
      loadedTokens := .integer p.plan.expectedTokens
      targetPromptTokens := .integer p.plan.metadata.promptTokenCount
      recomputedTokens := .integer recomputedTokens
      reusableSegments := segments
      prefillTokensAvoided := .integer prefillTokensAvoided }).mapError
    fun code => .capture (.capture code)

def assembleEvidence (m : DataPlaneMemory δ) (p : ActiveProbe sha256) (source target : Digest)
    (recomputedTokens prefillTokensAvoided : ℤ) : Except ProbeFault TransferEvidence := do
  let metadata ← captureMetadata p source target recomputedTokens prefillTokensAvoided
  let b ← (List.range gptOssNumLayers).foldlM (buildLayer env m p) (.new metadata)
  (TransferCapture.finish b).1.mapError .capture

inductive FileWrite where
  | complete
  | refused
  | interrupted
  deriving DecidableEq

def ProbeWorld.withFile (w : ProbeWorld sha256) (file : EvidenceFile) : ProbeWorld sha256 :=
  { w with file := file }

/-- `write_transfer_evidence`. The file is created before its bytes are written. -/
def writeTransferEvidence (write : FileWrite) (e : TransferEvidence) :
    ProbeCall sha256 PUnit := do
  let w ← Call.read
  let _ ← Call.lift (require.{0,0} (w.file.isAbsent = true) .fileExists)
  let _ ← Call.lift (require.{0,0} (write ≠ .refused) .raised)
  let _ ← Call.modify fun w => w.withFile .unfinished
  let _ ← Call.lift (require.{0,0} (write ≠ .interrupted) .raised)
  Call.modify fun w => w.withFile (.written e)

/-- Every layer has been sampled after its prefill. -/
def AllPrefilled (samples : List LayerSamples) : Prop :=
  ∀ s ∈ samples, s.targetPrefillKey.isSome = true ∧ s.targetPrefillValue.isSome = true

instance (samples : List LayerSamples) : Decidable (AllPrefilled samples) :=
  inferInstanceAs (Decidable (∀ s ∈ samples, _))

def finish (m : DataPlaneMemory δ) (recomputedTokens prefillTokensAvoided : ℤ)
    (write : FileWrite) : ProbeCall sha256 PUnit := do
  let w ← Call.read
  match w.probe with
  | none => Call.raise (.probe .incompleteLayers)
  | some p =>
    match p.sourcePromptDigest, p.targetPromptDigest with
    | some source, some target => do
      let _ ← Call.lift (require.{0,0} (p.loadWriteObserved = true ∧ AllPrefilled p.samples)
        (.probe .incompleteLayers))
      let e ← Call.lift (assembleEvidence env m p source target recomputedTokens
        prefillTokensAvoided)
      let _ ← writeTransferEvidence write e
      abort
    | _, _ => Call.raise (.probe .incompleteLayers)

/-! ## The hooks of the bridge -/

/-- A step of the bridge that reaches the probe, with the memory at that time.
The scatters of `scatter_retrieved` lie between two memories, and may raise. -/
inductive ProbeEvent (sha256 : Bytes → Digest) (δ : Type) where
  | scattered (plan : WorkerLoadPlan sha256) (offset : ℤ) (before after : DataPlaneMemory δ)
      (returned : Bool)
  | layerSaved (layerName : String) (m : DataPlaneMemory δ)
  | finished (recomputedTokens prefillTokensAvoided : ℤ) (m : DataPlaneMemory δ)
      (write : FileWrite)
  | aborted

/-- The probe in `scatter_retrieved`: an exception aborts it. -/
def scatterRetrieved (plan : WorkerLoadPlan sha256) (offset : ℤ)
    (before after : DataPlaneMemory δ) (returned : Bool) : ProbeCall sha256 PUnit := fun w =>
  match (do
      let _ ← beginLoad env before plan offset
      let _ ← Call.lift (require.{0,0} (returned = true) .raised)
      markLoadComplete env after : ProbeCall sha256 PUnit) w with
  | (.ok u, w') => (.ok u, w')
  | (.error fault, w') => (.error fault, (abort w').2)

def whenActive (c : ProbeCall sha256 PUnit) : ProbeCall sha256 PUnit := fun w =>
  if w.probe.isSome = true then c w else (.ok ⟨⟩, w)

def called : ProbeEvent sha256 δ → ProbeCall sha256 PUnit
  | .scattered plan offset before after returned =>
    scatterRetrieved env plan offset before after returned
  | .layerSaved name m => whenActive (recordPrefillLayer env m name)
  | .finished recomputed avoided m write => whenActive (finish env m recomputed avoided write)
  | .aborted => abort

/-- What a step leaves behind, whether it returns or raises. -/
def performed (w : ProbeWorld sha256) (event : ProbeEvent sha256 δ) : ProbeWorld sha256 :=
  (called env event w).2

def after (es : List (ProbeEvent sha256 δ)) : ProbeWorld sha256 :=
  es.foldl (performed env) .idle

end

end CacheBlend.TransferProbe
