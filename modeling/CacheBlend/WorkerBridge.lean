import CacheBlend.DataPlane
import CacheBlend.TransferRuntime
import CacheBlend.TransportRequests
import CacheBlend.WorkerClose

/-!
# The worker bridge

The bridge checks a plan, dry-runs its copies, and only then lets the
transport and the data plane change a memory. It keeps the identity of the
plan that has passed each stage, and a later stage takes no other plan.
Collaborators may raise at every step, and an environment says where they do.
-/

set_option autoImplicit false

namespace CacheBlend.WorkerBridge
open CacheBlend.PlannerModels CacheBlend.SegmentFingerprints CacheBlend.LmcacheTypes
open CacheBlend.HybridLayout CacheBlend.ScatterSpans CacheBlend.TokenScatter
open CacheBlend.VllmAdapters CacheBlend.TransferRuntime CacheBlend.DataPlane
open CacheBlend.TransportRequests (LmcacheBlendTransportConfig maxLmcacheBlake3TokenId
  validateRequestId validateEventHandle)
open CacheBlend.WorkerClose (StagingState WorkerBridgeState)

/-! ## Plans -/

inductive PlanError where
  | transfer (code : TransferRuntimeErrorCode)
  | scatter (error : ScatterPlanError)
  deriving DecidableEq

structure CandidateScatterWork where
  candidateIndex : ℕ
  verifiedCandidate : VerifiedLmcacheCandidate
  scatterPlan : TokenScatterPlan

structure WorkerLoadPlan (sha256 : Bytes → Digest) where
  metadata : SchedulerTransferMetadata sha256
  adaptedBlocks : AdaptedKvCacheBlocks
  candidates : List CandidateScatterWork

section
variable {sha256 : Bytes → Digest}

def WorkerLoadPlan.expectedTokens (p : WorkerLoadPlan sha256) : ℕ :=
  (p.candidates.map (fun work => work.verifiedCandidate.candidate.targetRange.size)).sum

def WorkerLoadPlan.expectedChunks (p : WorkerLoadPlan sha256) : ℕ := p.candidates.length

def planTransfer (layout : LayeredCacheLayout) (adaptedBlocks : AdaptedKvCacheBlocks)
    (sourceRange targetRange : TokenRange) : Except PlanError TokenScatterPlan := do
  let transfer ← (TokenTransfer.new sourceRange targetRange).mapError (.scatter ∘ .layout)
  (planTokenScatter layout adaptedBlocks.groupBlockTables transfer).mapError .scatter

def candidateWork (layout : LayeredCacheLayout) (adaptedBlocks : AdaptedKvCacheBlocks)
    (index : ℕ) (verified : VerifiedLmcacheCandidate) : Except PlanError CandidateScatterWork := do
  let plan ← planTransfer layout adaptedBlocks verified.verified.record.sourceRange
    verified.candidate.targetRange
  .ok ⟨index, verified, plan⟩

/-- `_build_load_plan`. -/
def buildLoadPlan (layout : LayeredCacheLayout) (m : SchedulerTransferMetadata sha256)
    (adaptedBlocks : AdaptedKvCacheBlocks) : Except PlanError (WorkerLoadPlan sha256) := do
  require (adaptedBlocks.groupedAllocation = m.handoff.allocation.groupedBlocks)
    (.transfer .invalidMetadata)
  let candidates ← m.verifiedCandidates.zipIdx.mapM
    (fun entry : VerifiedLmcacheCandidate × ℕ =>
      candidateWork layout adaptedBlocks entry.2 entry.1)
  .ok ⟨m, adaptedBlocks, candidates⟩

def gatherPlans (layout : LayeredCacheLayout) (m : SchedulerTransferMetadata sha256)
    (adaptedBlocks : AdaptedKvCacheBlocks) : Except PlanError (List TokenScatterPlan) :=
  (List.range (m.promptTokenCount/lmcacheChunkSize)).mapM fun chunkIndex : ℕ =>
    let chunk := chunkWork m.promptTokenIds chunkIndex
    planTransfer layout adaptedBlocks chunk.tokenRange chunk.tokenRange

end

/-! ## State -/

inductive WorkerBridgeErrorCode where
  | invalidState
  | invalidPlan
  | planOrderMismatch
  | stagingRangeOutOfBounds
  | transportConfigMismatch
  | receiptMismatch
  deriving DecidableEq

inductive BridgeError where
  | bridge (code : WorkerBridgeErrorCode)
  | request
  | staging
  | dataPlane (error : DataPlaneError)
  | transport
  | evidence
  | sidecar
  deriving DecidableEq

/-- The stage a plan has passed is recorded by the identity of the plan. -/
structure GptOssWorkerBridge where
  state : WorkerBridgeState
  staging : StagingState
  loadStoragePreflight : Option ℕ
  loadDataPreflight : Option ℕ
  retrievedPlan : Option ℕ
  gatherPreflight : Option ℕ
  storePreflight : Option ℕ
  gatheredPlan : Option ℕ
  positionCorrectionLatencySeconds : ℚ

/-- A call of the transport for the plan with an identity. -/
inductive TransportUse where
  | retrieve (plan : ℕ)
  | store (plan : ℕ)
  deriving DecidableEq

/-- The bridge with the tensors it copies between, the calls that its
transport has received and the batches that were handed to its sidecar. -/
structure World (δ : Type) where
  bridge : GptOssWorkerBridge
  memory : DataPlaneMemory δ
  used : List TransportUse
  published : List (List CacheRecord)

def GptOssWorkerBridge.opened : GptOssWorkerBridge :=
  ⟨.ready, .registered, none, none, none, none, none, none, 0⟩

structure BridgeConfig where
  retrievalBufferOffset : ℕ
  storeBufferOffset : ℕ
  tokenCapacity : ℕ
  deriving DecidableEq

/-- One synchronous lease: whether the event is recorded and exported before
it, and whether the device is synchronized after it. -/
structure LeaseAnswers where
  eventExported : Bool
  synchronized : Bool
  deriving DecidableEq

/-- What the collaborators answer to one load attempt. A transport writes
what it likes into staging, whether its call returns or raises. -/
structure LoadEnvironment (δ : Type) where
  config : Option LmcacheBlendTransportConfig
  tensors : Tensors
  correct : KeyPositionCorrector δ
  preflight : ℕ → TensorRuntime
  lease : LeaseAnswers
  retrieved : Option LmcacheRetrieveReceipt
  written : StagingCell → FlatRow δ
  evidenceBegins : Bool
  evidenceCompletes : Bool
  scatter : ℕ → TensorRuntime

/-- What the collaborators answer to one store attempt. -/
structure StoreEnvironment where
  config : Option LmcacheBlendTransportConfig
  tensors : Tensors
  preflight : ℕ → TensorRuntime
  lease : LeaseAnswers
  gather : ℕ → TensorRuntime
  stored : Option LmcacheStoreReceipt
  inserted : Option ℤ

section
variable {δ : Type}

abbrev BridgeCall (δ α : Type) : Type := Call (World δ) BridgeError α

def World.withBridge (w : World δ) (bridge : GptOssWorkerBridge) : World δ :=
  { w with bridge := bridge }

def World.withStaging (w : World δ) (staging : StagingState) : World δ :=
  w.withBridge { w.bridge with staging := staging }

def failBridge {α : Type} (code : WorkerBridgeErrorCode) : BridgeCall δ α :=
  Call.raise (.bridge code)

def check (p : Prop) [Decidable p] (e : BridgeError) : BridgeCall δ PUnit :=
  Call.lift (require p e)

def updateBridge (f : GptOssWorkerBridge → GptOssWorkerBridge) : BridgeCall δ PUnit :=
  Call.modify fun w => w.withBridge (f w.bridge)

/-- `_require_ready`. -/
def requireReady : BridgeCall δ PUnit := fun w =>
  if w.bridge.state = .ready ∧ w.bridge.staging = .registered then (.ok ⟨⟩, w)
  else if w.bridge.state = .ready then
    (.error (.bridge .invalidState), w.withBridge { w.bridge with state := .failed })
  else (.error (.bridge .invalidState), w)

/-- `_require_plan`: the recorded plan is the object that was passed. -/
def requirePlan (pending : GptOssWorkerBridge → Option ℕ) (plan : ℕ) : BridgeCall δ PUnit := do
  let w ← Call.read
  check (pending w.bridge = some plan) (.bridge .planOrderMismatch)

/-- `StagingRuntime.tensor`. -/
def stagingTensor : BridgeCall δ PUnit := do
  let w ← Call.read
  check (w.bridge.staging = .registered) .staging

def leased {α : Type} (lease : LeaseAnswers) (body : BridgeCall δ α) : BridgeCall δ α := fun w =>
  if lease.eventExported = false then (.error .staging, w.withStaging .failed)
  else match body (w.withStaging .transferActive) with
  | (.error _, w') => (.error .staging, w'.withStaging .failed)
  | (.ok a, w') =>
    if lease.synchronized = false then (.error .staging, w'.withStaging .failed)
    else (.ok a, w'.withStaging .registered)

/-- `StagingRuntime.synchronous_transfer` around a call of the transport. -/
def synchronousTransfer {α : Type} (config : BridgeConfig) (store : Bool) (bufferOffset : ℕ)
    (tokenExtent : ℕ) (lease : LeaseAnswers) (body : BridgeCall δ α) : BridgeCall δ α := do
  stagingTensor
  check (1 ≤ tokenExtent) .staging
  check (bufferOffset+tokenExtent ≤ config.tokenCapacity) .staging
  check (store = true → tokenExtent%lmcacheChunkSize = 0) .staging
  leased lease body

/-- A `try` with its `finally`, and what its handler does before it raises again. -/
def attempt {α : Type} (onError last : GptOssWorkerBridge → GptOssWorkerBridge)
    (body : BridgeCall δ α) : BridgeCall δ α := fun w =>
  match body w with
  | (.ok a, w') => (.ok a, w'.withBridge (last w'.bridge))
  | (.error e, w') => (.error e, w'.withBridge (last (onError w'.bridge)))

def onMemory {α : Type} (c : Call (DataPlaneMemory δ) DataPlaneError α) : BridgeCall δ α :=
  Call.within World.memory (fun w memory => { w with memory := memory }) .dataPlane c

/-- A call over the read-only tensor operations: a copy does nothing and never raises. -/
def readOnly {α : Type} (c : TensorRuntime → Call (DataPlaneMemory δ) DataPlaneError α)
    (runtime : TensorRuntime) : Call (DataPlaneMemory δ) DataPlaneError α := fun m =>
  ((c { runtime with copyRaises := fun _ => false } m).1, m)

/-- `_validate_data_receipt` of one chunk. -/
def validateDataReceipt (receipt : DataPlaneReceipt) (direction : TransferDirection)
    (spanCount : ℕ) : BridgeCall δ PUnit :=
  let rows := lmcacheChunkSize*gptOssNumLayers
  check (receipt.direction = direction ∧ receipt.logicalTokens = lmcacheChunkSize ∧
    receipt.layerTokenRows = rows ∧ receipt.spanCount = spanCount ∧
    receipt.copiedKeyRows = rows ∧ receipt.copiedValueRows = rows ∧
    receipt.sinksTouched = false ∧
    (direction = .loadFromStaging → receipt.correctedKeyRows = rows) ∧
    (direction = .storeToStaging → receipt.correctedKeyRows = 0)) (.bridge .receiptMismatch)

def validateRequestTokens (tokens : List TokenId) : BridgeCall δ PUnit :=
  check (tokens ≠ [] ∧ ∀ t ∈ tokens, t.val ≤ maxLmcacheBlake3TokenId) (.bridge .invalidPlan)

def validateRequest (requestId : String) : BridgeCall δ PUnit :=
  Call.lift ((validateRequestId requestId).mapError fun _ => .request)

/-- `_validate_transport`. The model names belong to the candidates of a load. -/
def validateTransport (config : Option LmcacheBlendTransportConfig)
    (cacheNamespace : CacheNamespace) (modelNames : List NamespaceText) : BridgeCall δ PUnit :=
  match config with
  | none => failBridge .transportConfigMismatch
  | some config => check (config.cacheNamespace = cacheNamespace ∧
      ∀ name ∈ modelNames, name = config.storageModelName) (.bridge .transportConfigMismatch)

def validateStagingRange (config : BridgeConfig) (start length : ℕ) : BridgeCall δ PUnit := do
  requireReady
  check (start+length ≤ config.tokenCapacity) (.bridge .stagingRangeOutOfBounds)
  stagingTensor

/-! ## Loads -/

section
variable {sha256 : Bytes → Digest}

/-- `_validate_load_plan`. -/
def validateLoadPlan (p : WorkerLoadPlan sha256) : BridgeCall δ PUnit := do
  check (p.metadata.transferEligible = true ∧ p.candidates ≠ [] ∧
    p.candidates.length = p.metadata.verifiedCandidates.length ∧
    p.expectedTokens = p.candidates.length*lmcacheChunkSize) (.bridge .invalidPlan)
  check (∀ entry ∈ p.candidates.zipIdx.zip p.metadata.verifiedCandidates,
    entry.1.1.candidateIndex = entry.1.2 ∧ entry.1.1.verifiedCandidate = entry.2 ∧
    entry.1.1.scatterPlan.transfer.sourceRange = entry.2.verified.record.sourceRange ∧
    entry.1.1.scatterPlan.transfer.targetRange = entry.2.candidate.targetRange)
    (.bridge .invalidPlan)
  validateRequestTokens p.metadata.promptTokenIds
  validateRequest p.metadata.requestId

variable (config : BridgeConfig) (env : LoadEnvironment δ) (id : ℕ) (p : WorkerLoadPlan sha256)

def preflightRetrieve : BridgeCall δ PUnit := do
  requireReady
  let w ← Call.read
  check (w.bridge.retrievedPlan = none) (.bridge .invalidState)
  updateBridge fun b => { b with loadStoragePreflight := none, loadDataPreflight := none }
  validateLoadPlan p
  validateTransport env.config p.metadata.cacheNamespace
    (p.candidates.map fun work => work.verifiedCandidate.candidate.storageModelName)
  validateStagingRange config config.retrievalBufferOffset p.metadata.promptTokenCount
  updateBridge fun b => { b with loadStoragePreflight := some id }

/-- The scatter of one candidate, over the tensor operations it is given. -/
def scatterCandidate (work : CandidateScatterWork) (runtime : TensorRuntime) :
    Call (DataPlaneMemory δ) DataPlaneError DataPlaneReceipt :=
  scatterRetrievedKv env.tensors runtime env.correct work.scatterPlan.layerSpans
    config.retrievalBufferOffset p.metadata.promptTokenCount

def preflightCandidate (work : CandidateScatterWork) : BridgeCall δ PUnit := do
  let receipt ← onMemory (readOnly (scatterCandidate config env p work)
    (env.preflight work.candidateIndex))
  validateDataReceipt receipt .loadFromStaging work.scatterPlan.layerSpans.length

def preflightScatterPlan : BridgeCall δ PUnit := do
  requirePlan GptOssWorkerBridge.loadStoragePreflight id
  stagingTensor
  p.candidates.forM (preflightCandidate config env p)
  updateBridge fun b => { b with loadDataPreflight := some id }

def retrieveBody : BridgeCall δ LmcacheRetrieveReceipt := fun w =>
  let w' := { w with
    used := w.used ++ [.retrieve id], memory := { w.memory with staging := env.written } }
  match env.retrieved with
  | some receipt => (.ok receipt, w')
  | none => (.error .transport, w')

def retrieveVerified : BridgeCall δ LmcacheRetrieveReceipt := do
  requirePlan GptOssWorkerBridge.loadStoragePreflight id
  requirePlan GptOssWorkerBridge.loadDataPreflight id
  let receipt ← attempt (fun b => { b with retrievedPlan := none })
    (fun b => { b with loadStoragePreflight := none, loadDataPreflight := none }) (do
      let receipt ← synchronousTransfer config false config.retrievalBufferOffset
        p.metadata.promptTokenCount env.lease (retrieveBody env id)
      check (receipt.retrievedTokens = p.expectedTokens ∧
        receipt.retrievedChunks = p.expectedChunks) (.bridge .receiptMismatch)
      pure receipt)
  updateBridge fun b => { b with retrievedPlan := some id }
  pure receipt

def loadCandidate (work : CandidateScatterWork) : BridgeCall δ ℚ := do
  let receipt ← onMemory (scatterCandidate config env p work (env.scatter work.candidateIndex))
  validateDataReceipt receipt .loadFromStaging work.scatterPlan.layerSpans.length
  pure receipt.positionCorrectionLatencySeconds

def scatterRetrieved : BridgeCall δ PUnit := do
  requirePlan GptOssWorkerBridge.retrievedPlan id
  stagingTensor
  updateBridge fun b => { b with positionCorrectionLatencySeconds := 0 }
  let latencies ← attempt (fun b => b) (fun b => { b with retrievedPlan := none }) (do
    check (env.evidenceBegins = true) .evidence
    let latencies ← p.candidates.mapM (loadCandidate config env p)
    check (env.evidenceCompletes = true) .evidence
    pure latencies)
  updateBridge fun b => { b with positionCorrectionLatencySeconds := latencies.sum }

end

/-! ## Stores -/

section
variable {sha256 : Bytes → Digest}

/-- `_validate_store_plan`, with the gather plans of the chunks. -/
def validateStorePlan (p : WorkerStorePlan sha256) (gathers : List TokenScatterPlan) :
    BridgeCall δ PUnit := do
  check (p.metadata.storeEligible = true ∧ p.chunks ≠ [] ∧
    p.expectedTokens = p.metadata.completeStoreTokenCount) (.bridge .invalidPlan)
  check (gathers.length = p.chunks.length ∧ ∀ entry ∈ p.chunks.zipIdx.zip gathers,
    entry.1.1 = chunkWork p.metadata.promptTokenIds entry.1.2 ∧
    entry.2.transfer.sourceRange = entry.1.1.tokenRange ∧
    entry.2.transfer.targetRange = entry.1.1.tokenRange) (.bridge .invalidPlan)
  validateRequestTokens p.tokenIds
  validateRequest p.metadata.requestId

variable (config : BridgeConfig) (env : StoreEnvironment) (id : ℕ) (p : WorkerStorePlan sha256)
  (gathers : List TokenScatterPlan)

/-- The gather of one chunk, over the tensor operations it is given. -/
def gatherChunk (work : StoreChunkWork × TokenScatterPlan) (runtime : TensorRuntime) :
    Call (DataPlaneMemory δ) DataPlaneError DataPlaneReceipt :=
  gatherPrecomputedKv env.tensors runtime work.2.layerSpans work.1.tokenRange
    (config.storeBufferOffset+work.1.chunkIndex*lmcacheChunkSize : ℕ)

def preflightChunk (work : StoreChunkWork × TokenScatterPlan) : BridgeCall δ PUnit := do
  let receipt ← onMemory (readOnly (gatherChunk config env work)
    (env.preflight work.1.chunkIndex))
  validateDataReceipt receipt .storeToStaging work.2.layerSpans.length

def preflightGatherPlan : BridgeCall δ PUnit := do
  requireReady
  let w ← Call.read
  check (w.bridge.gatheredPlan = none) (.bridge .invalidState)
  updateBridge fun b => { b with gatherPreflight := none, storePreflight := none }
  validateStorePlan p gathers
  stagingTensor
  (p.chunks.zip gathers).forM (preflightChunk config env)
  updateBridge fun b => { b with gatherPreflight := some id }

def preflightStore : BridgeCall δ PUnit := do
  requirePlan GptOssWorkerBridge.gatherPreflight id
  validateTransport env.config p.metadata.cacheNamespace []
  validateStagingRange config config.storeBufferOffset p.expectedTokens
  updateBridge fun b => { b with storePreflight := some id }

def storeChunk (work : StoreChunkWork × TokenScatterPlan) : BridgeCall δ PUnit := do
  let receipt ← onMemory (gatherChunk config env work (env.gather work.1.chunkIndex))
  validateDataReceipt receipt .storeToStaging work.2.layerSpans.length

def gatherRecomputed : BridgeCall δ PUnit := do
  requirePlan GptOssWorkerBridge.gatherPreflight id
  requirePlan GptOssWorkerBridge.storePreflight id
  stagingTensor
  attempt (fun b => { b with gatheredPlan := none }) (fun b => { b with gatherPreflight := none })
    ((p.chunks.zip gathers).forM (storeChunk config env))
  updateBridge fun b => { b with gatheredPlan := some id }

def storeBody : BridgeCall δ LmcacheStoreReceipt := fun w =>
  let w' := { w with used := w.used ++ [.store id] }
  match env.stored with
  | some receipt => (.ok receipt, w')
  | none => (.error .transport, w')

def storePrecomputed : BridgeCall δ LmcacheStoreReceipt := do
  requirePlan GptOssWorkerBridge.storePreflight id
  requirePlan GptOssWorkerBridge.gatheredPlan id
  attempt (fun b => b) (fun b => { b with storePreflight := none, gatheredPlan := none }) (do
    let receipt ← synchronousTransfer config true config.storeBufferOffset p.expectedTokens
      env.lease (storeBody env id)
    check (ReceiptValid receipt p) (.bridge .receiptMismatch)
    pure receipt)

/-- `_valid_record_batch`. -/
def ValidRecordBatch (sha256 : Bytes → Digest) (records : List CacheRecord) : Prop :=
  ∃ first ∈ records.head?, first.sourceRange.start = 0 ∧
    List.IsChain (fun r r' : CacheRecord => r'.sourceRange.start = r.sourceRange.stop) records ∧
    ∀ r ∈ records, r.cacheNamespace = first.cacheNamespace ∧
      r.tokenIds.length = lmcacheChunkSize ∧
      RecordValid sha256 r.cacheNamespace ⟨0, r.sourceRange, r.tokenIds⟩ r

instance (records : List CacheRecord) : Decidable (ValidRecordBatch sha256 records) := by
  unfold ValidRecordBatch
  infer_instance

def publishSidecarRecordsAtomically (sha256 : Bytes → Digest) (records : List CacheRecord) :
    BridgeCall δ ℤ := do
  requireReady
  check (ValidRecordBatch sha256 records) (.bridge .invalidPlan)
  Call.modify fun w => { w with published := w.published ++ [records] }
  match env.inserted with
  | some inserted => pure inserted
  | none => Call.raise .sidecar

end

end

end CacheBlend.WorkerBridge
