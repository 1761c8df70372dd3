import CacheBlend.ConnectorMetrics

/-!
# The worker hooks of the connector

A worker connector accepts the handoffs of each step, validates every request
once, and collects the receipts until the step reports them. A transfer that
started stays active over the layers of the forward pass until its write-back.
-/

set_option autoImplicit false

namespace CacheBlend.WorkerHooks
open CacheBlend.PlannerModels CacheBlend.LmcacheTypes CacheBlend.RequestLifecycle
open CacheBlend.ControlPlane CacheBlend.HybridLayout CacheBlend.VllmAdapters
open CacheBlend.TransferRuntime CacheBlend.SchedulerHooks CacheBlend.ConnectorMetrics

section
variable (sha256 : Bytes → Digest)

/-- `_ActiveWorkerTransfer`. -/
structure ActiveWorkerTransfer where
  metadata : SchedulerTransferMetadata sha256
  adaptedBlocks : AdaptedKvCacheBlocks
  preForward : PreForwardOutcome sha256
  savedLayerNames : Finset String

/-- Cache tensors are told apart by their identity. -/
structure WorkerConnector where
  controlPlane : RequestControlPlane
  knownRequestIds : Finset String
  pendingWorkerReceipts : List WorkerValidationReceipt
  registeredKvCaches : Dict String ℕ
  resources : Bool
  activeWorkerTransfer : Option (ActiveWorkerTransfer sha256)
  stats : GptOssCacheBlendStats

abbrev WorkerCall (α : Type) : Type := Call (WorkerConnector sha256) ConnectorError α

def WorkerConnector.new (config : ConnectorConfig) : WorkerConnector sha256 where
  controlPlane := RequestControlPlane.new config.adapted.controlPlaneLayout
  knownRequestIds := ∅
  pendingWorkerReceipts := []
  registeredKvCaches := Dict.empty
  resources := false
  activeWorkerTransfer := none
  stats := .empty

end

variable {sha256 : Bytes → Digest}

def checkWorker (p : Prop) [Decidable p] (text : String) : WorkerCall sha256 PUnit :=
  Call.lift (require p (.runtime text))

def onWorkerPlane {α : Type} (c : PlaneCall α) : WorkerCall sha256 α :=
  Call.within WorkerConnector.controlPlane (fun w p => { w with controlPlane := p })
    .controlPlane c

def onStats {α : Type} (c : StatsCall α) : WorkerCall sha256 α :=
  Call.within WorkerConnector.stats (fun w s => { w with stats := s }) .observation c

def quotedNames (names : List String) : String :=
  "[" ++ String.intercalate ", " (names.map fun name => "'" ++ name ++ "'") ++ "]"

/-- `register_kv_caches`, with what the devices of the tensors and the creation
of the worker resources answer in transfer mode. -/
def registerKvCaches (config : ConnectorConfig) (created : Except ConnectorError Unit)
    (kvCaches : Dict String ℕ) : WorkerCall sha256 Unit := do
  let w ← Call.read
  let _ ← checkWorker (w.registeredKvCaches.entries = [])
    "KV caches were already registered on this worker."
  let expectedNames := config.groupLayerNames.flatten
  let missing := sortedBy id (expectedNames.filter (· ∉ kvCaches.keys))
  let unexpected := sortedBy id (kvCaches.keys.filter (· ∉ expectedNames))
  let _ ← checkWorker (missing = [] ∧ unexpected = [])
    ("Registered KV-cache layers do not match KVCacheConfig; missing=" ++
      quotedNames missing ++ ", unexpected=" ++ quotedNames unexpected ++ ".")
  Call.modify fun w => { w with registeredKvCaches := kvCaches }
  if config.transferEnabled = true then do
    let _ ← Call.lift created
    Call.modify fun w => { w with resources := true }
    pure ()
  else pure ()

def groupMismatch (expected received : ℕ) : String :=
  "KV-cache group mismatch: connector was initialized for " ++ toString expected ++
    " groups but received " ++ toString received ++ "."

def validateGroupCount (config : ConnectorConfig) (blockIds : List (List ℕ)) :
    WorkerCall sha256 PUnit :=
  checkWorker (blockIds.length = config.groupLayerNames.length)
    (groupMismatch config.groupLayerNames.length blockIds.length)

/-- `_adapt_handoff_blocks`. -/
def adaptHandoffBlocks (config : ConnectorConfig) (handoff : RequestHandoffMetadata) :
    WorkerCall sha256 AdaptedKvCacheBlocks := do
  let grouped := handoff.allocation.groupedBlocks
  let _ ← validateGroupCount config grouped.blockIdsByGroup
  let _ ← checkWorker (∀ group ∈ grouped.blockIdsByGroup, ∀ b ∈ group,
    b < config.adapted.numBlocks) "Worker handoff contains an out-of-range block ID."
  let tables ← Call.lift ((config.adapted.gptOssLayout.groups.mapM
    (blockTable grouped.blockIdsByGroup)).mapError .layout)
  pure ⟨grouped, tables⟩

def pushReceipt (receipt : WorkerValidationReceipt) : WorkerCall sha256 PUnit :=
  Call.modify fun w => { w with
    pendingWorkerReceipts := w.pendingWorkerReceipts ++ [receipt] }

def plannedTokens (plan : RequestPlan) : ℕ :=
  (plan.matchPlan.verifiedMatches.map fun m => m.targetSegment.tokenRange.size).sum

def skipTransfer (config : ConnectorConfig) (handoff : RequestHandoffMetadata) :
    WorkerCall sha256 PUnit := do
  onStats (GptOssCacheBlendStats.recordLoad (plannedTokens handoff.plan) 0
    (plannedTokens handoff.plan) handoff.plan.promptTokens config.transferEnabled)
  let receipt ← onWorkerPlane (RequestControlPlane.validateWorker handoff.plan.requestId []
    ((List.range handoff.plan.matchPlan.verifiedMatches.length).map Int.ofNat))
  pushReceipt receipt

def startTransfer (config : ConnectorConfig) (answers : LoadAnswers)
    (handoff : RequestHandoffMetadata) (transfer : SchedulerTransferMetadata sha256) :
    WorkerCall sha256 PUnit := do
  let _ ← checkWorker (transfer.handoff = handoff)
    "Transfer metadata does not match its request handoff."
  let w ← Call.read
  let _ ← checkWorker (w.resources = true)
    "Worker transfer resources were not initialized by register_kv_caches."
  let adaptedBlocks ← adaptHandoffBlocks config handoff
  let outcome ← Call.lift ((beforeForward answers transfer adaptedBlocks).mapError .transfer)
  onStats (GptOssCacheBlendStats.recordLoad
    (transfer.verifiedCandidates.map fun v => v.candidate.targetRange.size).sum
    outcome.loadedKvTokens (candidateTokens transfer outcome.rejectedCandidateIndexes)
    outcome.tokensToRecompute (decide (outcome.state = .fullPrefillFallback)))
  let receipt ← onWorkerPlane (RequestControlPlane.validateWorker handoff.plan.requestId
    (outcome.loadedCandidateIndexes.map Int.ofNat)
    (outcome.rejectedCandidateIndexes.map Int.ofNat))
  let expected ← Call.lift ((raised outcome.toWorkerValidationReceipt).mapError .controlPlane)
  let _ ← checkWorker (receipt = expected) "Worker transfer receipt reconciliation failed."
  pushReceipt receipt
  Call.modify fun w => { w with
    activeWorkerTransfer := some ⟨transfer, adaptedBlocks, outcome, ∅⟩ }

def loadHandoff (config : ConnectorConfig) (answers : LoadAnswers)
    (handoff : RequestHandoffMetadata) :
    Option (SchedulerTransferMetadata sha256) → WorkerCall sha256 PUnit
  | none => skipTransfer config handoff
  | some transfer => startTransfer config answers handoff transfer

/-- The loop over the handoffs of a step, with the transfers not yet matched. -/
def acceptHandoffs (config : ConnectorConfig) (answers : LoadAnswers) :
    List RequestHandoffMetadata → Dict String (SchedulerTransferMetadata sha256) →
      WorkerCall sha256 (Dict String (SchedulerTransferMetadata sha256))
  | [], transfersByRequest => pure transfersByRequest
  | handoff::rest, transfersByRequest => do
    let _ ← validateGroupCount config handoff.allocation.groupedBlocks.blockIdsByGroup
    let _ ← checkWorker (handoff.allocation.externalSchedulerTokens = 0)
      "The 100%-recompute milestone cannot credit external tokens."
    let _ ← onWorkerPlane (RequestControlPlane.acceptHandoff handoff)
    loadHandoff config answers handoff (transfersByRequest.get? handoff.plan.requestId)
    acceptHandoffs config answers rest (transfersByRequest.erase handoff.plan.requestId)

def recordLookups : List CacheBlendLookupObservation → WorkerCall sha256 Unit
  | [] => pure ()
  | observation::rest => do
    onStats (GptOssCacheBlendStats.recordLookup observation)
    recordLookups rest

def transfersByRequest (transfers : List (SchedulerTransferMetadata sha256)) :
    Dict String (SchedulerTransferMetadata sha256) :=
  transfers.foldl (fun d transfer => d.set transfer.requestId transfer) Dict.empty

def checkObservations (metadata : GptOssCacheBlendMetadata sha256) :
    WorkerCall sha256 PUnit :=
  if metadata.transferEnabled = true then
    checkWorker (metadata.lookupObservations.length = metadata.handoffs.length)
      "Transfer metadata must carry one lookup observation per request handoff."
  else
    checkWorker (metadata.lookupObservations = [])
      "Control-flow metadata cannot claim transfer lookup observations."

def startLoadKv (config : ConnectorConfig) (answers : LoadAnswers)
    (metadata : GptOssCacheBlendMetadata sha256) : WorkerCall sha256 Unit := do
  let _ ← checkWorker (metadata.schemaVersion = metadataSchemaVersion)
    ("Unsupported connector metadata schema " ++ toString metadata.schemaVersion ++ ".")
  let _ ← checkWorker (metadata.groupLayerNames = config.groupLayerNames)
    "Scheduler and worker KV-cache groups do not match."
  let _ ← checkWorker (metadata.transferEnabled = config.transferEnabled)
    "Scheduler and worker transfer modes do not match."
  let w ← Call.read
  let _ ← checkWorker (w.activeWorkerTransfer.isNone = true)
    "A previous CacheBlend transfer is still active."
  let _ ← checkWorker (metadata.transfers.length ≤ 1)
    "The 100%-recompute transfer envelope allows one request per step."
  let _ ← checkObservations metadata
  recordLookups metadata.lookupObservations
  let _ ← checkWorker ((transfersByRequest metadata.transfers).size = metadata.transfers.length)
    "Connector metadata contains duplicate transfers."
  let unmatched ← acceptHandoffs config answers metadata.handoffs
    (transfersByRequest metadata.transfers)
  let _ ← checkWorker (unmatched.entries = [])
    "Transfer metadata has no matching request handoff."
  pure ()

def notRegistered (layerName : String) : String :=
  "KV cache for layer '" ++ layerName ++ "' was not registered."

def waitForLayerLoad (layerName : String) : WorkerCall sha256 Unit := do
  let w ← Call.read
  let _ ← checkWorker (layerName ∈ w.registeredKvCaches.keys) (notRegistered layerName)
  pure ()

/-- `save_kv_layer` of a worker that captures no transfer evidence. -/
def saveKvLayer (layerName : String) (kvLayer : ℕ) : WorkerCall sha256 Unit := do
  let w ← Call.read
  let _ ← checkWorker (layerName ∈ w.registeredKvCaches.keys) (notRegistered layerName)
  let _ ← checkWorker (w.registeredKvCaches.get? layerName = some kvLayer)
    "save_kv_layer received an unregistered tensor."
  match w.activeWorkerTransfer with
  | none => pure ()
  | some active => do
    let _ ← checkWorker (layerName ∉ active.savedLayerNames)
      "A KV-cache layer was saved more than once."
    let saved := { active with savedLayerNames := insert layerName active.savedLayerNames }
    Call.modify fun w => { w with activeWorkerTransfer := some saved }
    pure ()

/-- `wait_for_save` of a worker that captures no transfer evidence, with the
world that `after_forward` works in. -/
def waitForSave {σ : Type} (world : StoreWorld sha256 σ) (state : σ) :
    WorkerCall sha256 Unit := do
  let w ← Call.read
  match w.activeWorkerTransfer with
  | none => pure ()
  | some active => do
    let _ ← checkWorker (active.savedLayerNames = w.registeredKvCaches.keys.toFinset)
      "Full-prefill KV writeback did not visit every GPT-OSS layer."
    let _ ← checkWorker (w.resources = true) "Worker transfer resources are unavailable."
    let postForward ← Call.lift ((afterForward world active.preForward.metadata
      active.adaptedBlocks state).1.mapError .transfer)
    onStats (GptOssCacheBlendStats.recordStore postForward.eligibleStoreTokens
      postForward.storedTokens (decide (postForward.state = .fullPrefillFallback)))
    Call.modify fun w => { w with activeWorkerTransfer := none }
    pure ()

def discardAll : List String → WorkerCall sha256 Unit
  | [] => pure ()
  | requestId::rest => do
    let _ ← onWorkerPlane (RequestControlPlane.discard requestId)
    Call.modify fun w => { w with knownRequestIds := w.knownRequestIds.erase requestId }
    discardAll rest

/-- `get_finished`; it never names a finished load or save. -/
def getFinished (finishedReqIds : List String) :
    WorkerCall sha256 (Option (Finset String) × Option (Finset String)) := do
  let w ← Call.read
  let _ ← checkWorker (∀ active ∈ w.activeWorkerTransfer,
      active.metadata.requestId ∉ finishedReqIds)
    "A request finished before CacheBlend completed KV writeback."
  discardAll finishedReqIds
  pure (none, none)

def buildConnectorWorkerMeta : WorkerCall sha256 (Option (List WorkerValidationReceipt)) := do
  let w ← Call.read
  if w.pendingWorkerReceipts = [] then pure none
  else do
    Call.modify fun w => { w with pendingWorkerReceipts := [] }
    pure (some w.pendingWorkerReceipts)

def getKvConnectorStats : WorkerCall sha256 (Option GptOssCacheBlendStats) := do
  let w ← Call.read
  if w.stats.isEmpty = true then pure none
  else do
    let snapshot ← onStats GptOssCacheBlendStats.cloneAndReset
    pure (some snapshot)

end CacheBlend.WorkerHooks
