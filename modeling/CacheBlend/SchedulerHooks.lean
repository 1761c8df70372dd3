import CacheBlend.CompletionTables
import CacheBlend.ControlPlane
import CacheBlend.SchedulerRuntime
import CacheBlend.TransferRuntime
import Mathlib.Data.Finset.Basic

/-!
# The scheduler hooks of the connector

The scheduler connector keeps a control plane, the preemption counts it has
seen, and in transfer mode the lookup of every request. vLLM calls its hooks
to look a request up, to report an allocation, to build the metadata of a
step, to apply the output of the workers, and to finish a request.
-/

set_option autoImplicit false

namespace CacheBlend.SchedulerHooks
open CacheBlend.PlannerModels CacheBlend.LmcacheTypes CacheBlend.CandidateLookup
open CacheBlend.RequestLifecycle CacheBlend.ControlPlane CacheBlend.VllmAdapters
open CacheBlend.CompletionTables CacheBlend.SchedulerRuntime CacheBlend.TransferRuntime

/-- What a hook raises: an error with a text of its own, or the error of a
component. -/
inductive ConnectorError where
  | runtime (text : String)
  | controlPlane (e : ControlPlaneError)
  | adapter (code : VllmAdapterErrorCode)
  | scheduler (e : SchedulerRuntimeError)
  | transfer (code : TransferRuntimeErrorCode)
  | layout (code : HybridLayout.HybridLayoutErrorCode)
  | observation (text : String)
  | missingKey
  deriving DecidableEq

/-- The configuration of a connector; the transfer part is there exactly in
transfer mode. -/
structure ConnectorConfig where
  adapted : AdaptedKvCacheConfig
  transfer : Option RuntimeConfig
  deriving DecidableEq

def ConnectorConfig.transferEnabled (c : ConnectorConfig) : Bool := c.transfer.isSome

def ConnectorConfig.groupLayerNames (c : ConnectorConfig) : List (List String) :=
  c.adapted.controlPlaneLayout.layerNamesByGroup

structure CacheBlendLookupObservation where
  promptTokens : ℤ
  reusableSegmentsRequested : ℤ
  reusableSegmentsHit : ℤ
  reusableDocumentTokensRequested : ℤ
  kvTokensFound : ℤ
  kvTokensVerified : ℤ
  kvTokensRejected : ℤ
  deriving DecidableEq

/-- `CacheBlendLookupObservation.__post_init__`. -/
def CacheBlendLookupObservation.Valid (o : CacheBlendLookupObservation) : Prop :=
  (0 ≤ o.promptTokens ∧ 0 ≤ o.reusableSegmentsRequested ∧ 0 ≤ o.reusableSegmentsHit ∧
    0 ≤ o.reusableDocumentTokensRequested ∧ 0 ≤ o.kvTokensFound ∧ 0 ≤ o.kvTokensVerified ∧
    0 ≤ o.kvTokensRejected) ∧
  o.reusableSegmentsHit ≤ o.reusableSegmentsRequested ∧
  o.kvTokensVerified ≤ o.kvTokensFound ∧
  o.kvTokensVerified ≤ o.reusableDocumentTokensRequested ∧
  o.kvTokensFound ≤ o.reusableDocumentTokensRequested ∧
  o.kvTokensFound = o.kvTokensVerified+o.kvTokensRejected ∧
  o.reusableDocumentTokensRequested ≤ o.promptTokens

instance (o : CacheBlendLookupObservation) : Decidable o.Valid :=
  inferInstanceAs (Decidable (_ ∧ _))

def observationOf (promptTokens : ℕ) (lookup : SchedulerLookupMetadata) :
    CacheBlendLookupObservation where
  promptTokens := promptTokens
  reusableSegmentsRequested := lookup.queryWindows.length
  reusableSegmentsHit := lookup.lookupPlan.counters.verifiedCandidates
  reusableDocumentTokensRequested := if lookup.queryWindows ≠ [] then promptTokens else 0
  kvTokensFound := lookup.lookupPlan.foundTargetTokenCount
  kvTokensVerified := lookup.lookupPlan.counters.verifiedCandidateTokens
  kvTokensRejected := (lookup.lookupPlan.foundTargetTokenCount : ℤ)-
    lookup.lookupPlan.counters.verifiedCandidateTokens

section
variable (sha256 : Bytes → Digest)

structure GptOssCacheBlendMetadata where
  schemaVersion : ℤ
  groupLayerNames : List (List String)
  handoffs : List RequestHandoffMetadata
  transfers : List (SchedulerTransferMetadata sha256)
  lookupObservations : List CacheBlendLookupObservation
  transferEnabled : Bool
  deriving DecidableEq

structure SchedulerConnector where
  controlPlane : RequestControlPlane
  knownRequestIds : Finset String
  requestPreemptions : Dict String ℕ
  pendingHandoffIds : List String
  finishedRequestIds : Finset String
  schedulerLookupMetadata : Dict String SchedulerLookupMetadata
  schedulerLookupObservations : Dict String CacheBlendLookupObservation
  runtime : Option SchedulerLookupRuntime
  deriving DecidableEq

abbrev HookCall (α : Type) : Type := Call SchedulerConnector ConnectorError α

/-- A scheduler connector has lookup resources exactly in transfer mode. -/
def SchedulerConnector.new (config : ConnectorConfig) : SchedulerConnector where
  controlPlane := RequestControlPlane.new config.adapted.controlPlaneLayout
  knownRequestIds := ∅
  requestPreemptions := Dict.empty
  pendingHandoffIds := []
  finishedRequestIds := ∅
  schedulerLookupMetadata := Dict.empty
  schedulerLookupObservations := Dict.empty
  runtime := config.transfer.map fun _ => SchedulerLookupRuntime.initial

def onPlane {α : Type} (c : PlaneCall α) : HookCall α :=
  Call.within SchedulerConnector.controlPlane (fun s p => { s with controlPlane := p })
    .controlPlane c

def check (p : Prop) [Decidable p] (text : String) : HookCall PUnit :=
  Call.lift (require p (.runtime text))

/-- The preemption of a request is reported to the control plane at its next lookup. -/
def notePreemptions (requestId : String) (preemptions : ℕ) : HookCall Unit := do
  let s ← Call.read
  match s.requestPreemptions.get? requestId with
  | none => pure ()
  | some previous => do
    let _ ← check (¬preemptions < previous) "Request preemption count moved backwards."
    if preemptions > previous then do
      let _ ← onPlane (RequestControlPlane.preempt requestId)
      pure ()
    else pure ()

/-- `_request_external_tokens`. -/
def requestExternalTokens (request : VllmRequest) : Except ConnectorError ℕ :=
  if request.numExternalComputedTokens < 0 then
    .error (.runtime
      "Pinned vLLM Request.num_external_computed_tokens is missing or invalid.")
  else .ok request.numExternalComputedTokens.toNat

/-- A lookup of the scheduler runtime that failed closed raises. -/
def runtimeLookup (config : RuntimeConfig) (env : Environment)
    (request : SchedulerLookupRequest) : HookCall SchedulerLookupMetadata := fun s =>
  match s.runtime with
  | none => (.error (.runtime "Scheduler transfer resources are unavailable."), s)
  | some rt =>
    match SchedulerLookupRuntime.lookup sha256 config env request rt with
    | (.error e, rt') => (.error (.scheduler e), { s with runtime := some rt' })
    | (.ok lookup, rt') =>
      if lookup.status.isFatal = true then
        (.error (.runtime ("CacheBlend scheduler lookup failed closed: " ++
          lookup.status.value ++ ".")), { s with runtime := some rt' })
      else (.ok lookup, { s with runtime := some rt' })

def recordObservation (requestId : String) (promptTokens : ℕ) (lookup : SchedulerLookupMetadata) :
    HookCall Unit := do
  let _ ← Call.lift (require (observationOf promptTokens lookup).Valid
    (.observation "invalid CacheBlend lookup observation"))
  Call.modify fun s => { s with
    schedulerLookupObservations :=
      s.schedulerLookupObservations.set requestId (observationOf promptTokens lookup) }
  pure ()

def transferLookup (config : RuntimeConfig) (env : Environment) (request : VllmRequest)
    (prompt : List TokenId) (preemptions numComputedTokens : ℕ) : HookCall Unit := do
  let s ← Call.read
  let _ ← check (s.runtime ≠ none) "Scheduler transfer resources are unavailable."
  let external ← Call.lift (requestExternalTokens request)
  let lookupRequest ← Call.lift ((SchedulerLookupRequest.new request.requestId prompt 1 0
    numComputedTokens external preemptions).mapError .scheduler)
  let lookup ← runtimeLookup sha256 config env lookupRequest
  let _ ← onPlane (RequestControlPlane.lookup lookup.requestPlan.requestId
    lookup.requestPlan.promptTokens lookup.requestPlan.querySegments lookup.requestPlan.matchPlan)
  Call.modify fun s => { s with
    schedulerLookupMetadata := s.schedulerLookupMetadata.set request.requestId lookup }
  recordObservation request.requestId prompt.length lookup

def controlFlowLookup (requestId : String) (promptTokens : ℕ) : HookCall Unit := do
  let _ ← onPlane (RequestControlPlane.lookup requestId promptTokens [] ⟨[], [], 0⟩)
  pure ()

def lookupRequest (config : ConnectorConfig) (env : Environment) (request : VllmRequest)
    (prompt : List TokenId) (preemptions numComputedTokens : ℕ) : HookCall Unit :=
  match config.transfer with
  | some transfer => transferLookup sha256 transfer env request prompt preemptions numComputedTokens
  | none => controlFlowLookup request.requestId prompt.length

def getNumNewMatchedTokens (config : ConnectorConfig) (env : Environment)
    (request : VllmRequest) (numComputedTokens : ℕ) : HookCall (ℤ × Bool) := do
  let prompt ← Call.lift ((copyRequestPromptTokenIds request).mapError .adapter)
  let _ ← check (0 ≤ request.numPreemptions)
    "Pinned vLLM Request.num_preemptions is missing or invalid."
  notePreemptions request.requestId request.numPreemptions.toNat
  Call.modify fun s => { s with
    requestPreemptions :=
      s.requestPreemptions.set request.requestId request.numPreemptions.toNat }
  lookupRequest sha256 config env request prompt request.numPreemptions.toNat numComputedTokens
  Call.modify fun s => { s with
    knownRequestIds := insert request.requestId s.knownRequestIds }
  pure (0, false)

def updateStateAfterAlloc (config : ConnectorConfig) (requestId : String)
    (blocks : KVCacheBlocks) (numExternalTokens : ℤ) : HookCall Unit := do
  let _ ← check (numExternalTokens = 0)
    "The 100%-recompute milestone must report zero external tokens."
  let adapted ← Call.lift ((adaptKvCacheBlocks blocks config.adapted).mapError .adapter)
  let s ← Call.read
  let _ ← check (requestId ∈ s.knownRequestIds)
    "Allocation arrived before CacheBlend lookup."
  let _ ← onPlane (RequestControlPlane.allocate requestId (integers adapted.blockIdsByGroup) 0)
  Call.modify fun s => { s with
    pendingHandoffIds := if requestId ∈ s.pendingHandoffIds then s.pendingHandoffIds
      else s.pendingHandoffIds ++ [requestId] }
  pure ()

def handoffAll : List String → HookCall (List RequestHandoffMetadata)
  | [] => pure []
  | requestId::rest => do
    let handoff ← onPlane (RequestControlPlane.handoff requestId)
    let handoffs ← handoffAll rest
    pure (handoff::handoffs)

def transferFor (config : RuntimeConfig) (s : SchedulerConnector)
    (numScheduledTokens : Dict String ℤ) (handoff : RequestHandoffMetadata) :
    Except ConnectorError (Option (SchedulerTransferMetadata sha256)) :=
  match s.schedulerLookupMetadata.get? handoff.plan.requestId with
  | none => .error (.runtime "Transfer handoff has no scheduler lookup.")
  | some lookup =>
    match numScheduledTokens.get? handoff.plan.requestId with
    | none =>
      .error (.runtime "SchedulerOutput contains an invalid scheduled token count.")
    | some scheduled =>
      if scheduled < 0 ∨ scheduled > lookup.promptTokenIds.length then
        .error (.runtime "SchedulerOutput contains an invalid scheduled token count.")
      else if handoff.allocation.allocationGeneration ≠ lookup.allocationGeneration then
        .error (.runtime "Scheduler lookup and block allocation generations differ.")
      else if scheduled ≠ lookup.promptTokenIds.length ∨
          lookup.promptTokenIds.length > config.stagingTokenCapacity then .ok none
      else do
        let transfer ← (SchedulerTransferMetadata.new sha256 {
          cacheNamespace := config.cacheNamespace
          promptTokenIds := lookup.promptTokenIds
          verifiedCandidates := lookup.verifiedCandidates
          handoff := handoff
          numComputedTokensBeforeStep := 0
          scheduledTokenCount := scheduled
          transferEligible := lookup.shouldTransfer
          storeEligible := decide (lmcacheChunkSize ≤ lookup.promptTokenIds.length)
          }).mapError .transfer
        .ok (some transfer)

def observationFor (s : SchedulerConnector) (handoff : RequestHandoffMetadata) :
    Except ConnectorError CacheBlendLookupObservation :=
  match s.schedulerLookupObservations.get? handoff.plan.requestId with
  | none => .error .missingKey
  | some observation => .ok observation

def stepContents (config : ConnectorConfig) (s : SchedulerConnector)
    (numScheduledTokens : Dict String ℤ) (handoffs : List RequestHandoffMetadata) :
    Except ConnectorError
      (List (SchedulerTransferMetadata sha256) × List CacheBlendLookupObservation) :=
  match config.transfer with
  | none => .ok ([], [])
  | some transfer => do
    let transfers ← handoffs.mapM (transferFor sha256 transfer s numScheduledTokens)
    let observations ← handoffs.mapM (observationFor s)
    .ok (transfers.filterMap id, observations)

def buildConnectorMeta (config : ConnectorConfig) (numScheduledTokens : Dict String ℤ) :
    HookCall (GptOssCacheBlendMetadata sha256) := do
  let s ← Call.read
  let handoffs ← handoffAll s.pendingHandoffIds
  let s ← Call.read
  let contents ← Call.lift (stepContents sha256 config s numScheduledTokens handoffs)
  Call.modify fun s => { s with pendingHandoffIds := [] }
  pure {
    schemaVersion := metadataSchemaVersion
    groupLayerNames := config.groupLayerNames
    handoffs := handoffs
    transfers := contents.1
    lookupObservations := contents.2
    transferEnabled := config.transferEnabled }

def applyReceipt (receipt : WorkerValidationReceipt) : HookCall Unit := do
  let _ ← onPlane (RequestControlPlane.applyWorkerValidation receipt)
  let s ← Call.read
  if receipt.requestId ∈ s.finishedRequestIds then do
    let _ ← onPlane (RequestControlPlane.discard receipt.requestId)
    Call.modify fun s => { s with
      finishedRequestIds := s.finishedRequestIds.erase receipt.requestId }
    pure ()
  else pure ()

def applyReceipts : List WorkerValidationReceipt → HookCall Unit
  | [] => pure ()
  | receipt::rest => do
    applyReceipt receipt
    applyReceipts rest

/-- The worker metadata of a step carries no receipts when no worker sent any. -/
def updateConnectorOutput (workerMetadata : Option (List WorkerValidationReceipt)) :
    HookCall Unit :=
  match workerMetadata with
  | none => pure ()
  | some receipts => applyReceipts receipts

/-- `runtime.discard` of the scheduler resources, where there are any. -/
def discardLookup (requestId : String) (s : SchedulerConnector) : SchedulerConnector :=
  { s with
    runtime := s.runtime.map fun rt => (SchedulerLookupRuntime.discard requestId rt).2
    schedulerLookupMetadata := s.schedulerLookupMetadata.erase requestId
    schedulerLookupObservations := s.schedulerLookupObservations.erase requestId }

/-- The completion table agrees with the allocation, if there is one. -/
def CompletionAccepted (config : ConnectorConfig) (blockIds : List (List ℤ))
    (state : RequestLifecycleState) : Prop :=
  ∀ a ∈ state.allocation, isOrderedSubsequence blockIds
    (integers a.groupedBlocks.blockIdsByGroup) config.adapted.groupKinds
    config.adapted.numBlocks = true

instance (config : ConnectorConfig) (blockIds : List (List ℤ)) (state : RequestLifecycleState) :
    Decidable (CompletionAccepted config blockIds state) := by
  unfold CompletionAccepted
  infer_instance

/-- State is kept after completion while a receipt may still arrive. -/
def settle (config : ConnectorConfig) (requestId : String) (state : RequestLifecycleState)
    (s : SchedulerConnector) : SchedulerConnector :=
  if config.transferEnabled = true ∧ state.workerValidation = none then
    { s with finishedRequestIds := insert requestId s.finishedRequestIds }
  else { s with controlPlane := (RequestControlPlane.discard requestId s.controlPlane).2 }

def forget (requestId : String) (s : SchedulerConnector) : SchedulerConnector :=
  { s with
    knownRequestIds := s.knownRequestIds.erase requestId
    requestPreemptions := s.requestPreemptions.erase requestId }

def requestFinishedAllGroups (config : ConnectorConfig) (requestId : String)
    (blockIds : List (List ℤ)) : HookCall (Bool × Option (Dict String String)) := do
  let _ ← check (blockIds.length = config.groupLayerNames.length)
    ("KV-cache group mismatch: connector was initialized for " ++
      toString config.groupLayerNames.length ++ " groups but received " ++
      toString blockIds.length ++ ".")
  let state ← onPlane (RequestControlPlane.state requestId)
  let _ ← check (CompletionAccepted config blockIds state)
    "Completion block tables are not compatible with the request allocation."
  Call.modify fun s => forget requestId (settle config requestId state (discardLookup requestId s))
  pure (false, none)

end

end CacheBlend.SchedulerHooks
