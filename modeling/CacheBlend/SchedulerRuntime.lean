import CacheBlend.Calls
import CacheBlend.CandidateLookup
import CacheBlend.HybridLayout
import CacheBlend.RequestLifecycle

/-!
# The scheduler lookup runtime

The runtime owns the candidate transport and one lookup result per request.
A repeated lookup returns the retained result, and a lookup after preemption
returns it with the next allocation generation. A failed availability check
degrades to ordinary prefill. Drift of a protocol or corruption is fatal and
drops every retained result.
-/

set_option autoImplicit false

namespace CacheBlend.SchedulerRuntime
open CacheBlend.PlannerModels CacheBlend.LmcacheTypes CacheBlend.CandidateLookup
open CacheBlend.RequestLifecycle
open CacheBlend.HybridLayout (gptOssMaxContextTokens)

def maxRequestIdBytes : ℕ := 256

inductive SchedulerRuntimeErrorCode where
  | invalidInput
  | invalidMetadata
  | closeFailed
  deriving DecidableEq

/-- What a call of the runtime raises: an error of its own, or the error of
the request plan it builds. -/
inductive SchedulerRuntimeError where
  | runtime (code : SchedulerRuntimeErrorCode)
  | plan (code : ControlPlaneErrorCode)
  deriving DecidableEq

inductive SchedulerRuntimeState where
  | created
  | ready
  | degraded
  | fatal
  | closed
  deriving DecidableEq

inductive SchedulerLookupStatus where
  | transferReady
  | fullPrefillMiss
  | fullPrefillTransportError
  | fullPrefillSidecarError
  | fullPrefillSequenceIneligible
  | fullPrefillStepIneligible
  | fullPrefillPromptTooLarge
  | fatalNonzeroExternalTokens
  | fatalProtocolDrift
  | fatalTransportCleanup
  | fatalSidecarCorruption
  | fatalDuplicateConflict
  | fatalRuntimeClosed
  deriving DecidableEq

def SchedulerLookupStatus.value : SchedulerLookupStatus → String
  | .transferReady => "transfer_ready"
  | .fullPrefillMiss => "full_prefill_miss"
  | .fullPrefillTransportError => "full_prefill_transport_error"
  | .fullPrefillSidecarError => "full_prefill_sidecar_error"
  | .fullPrefillSequenceIneligible => "full_prefill_sequence_ineligible"
  | .fullPrefillStepIneligible => "full_prefill_step_ineligible"
  | .fullPrefillPromptTooLarge => "full_prefill_prompt_too_large"
  | .fatalNonzeroExternalTokens => "fatal_nonzero_external_tokens"
  | .fatalProtocolDrift => "fatal_protocol_drift"
  | .fatalTransportCleanup => "fatal_transport_cleanup"
  | .fatalSidecarCorruption => "fatal_sidecar_corruption"
  | .fatalDuplicateConflict => "fatal_duplicate_conflict"
  | .fatalRuntimeClosed => "fatal_runtime_closed"

/-- `value.startswith("fatal_")`. -/
def SchedulerLookupStatus.isFatal : SchedulerLookupStatus → Bool
  | .fatalNonzeroExternalTokens | .fatalProtocolDrift | .fatalTransportCleanup
  | .fatalSidecarCorruption | .fatalDuplicateConflict | .fatalRuntimeClosed => true
  | _ => false

example (s : SchedulerLookupStatus) :
    s.isFatal = ("fatal_".toList.isPrefixOf s.value.toList) := by
  cases s <;> decide

/-- The statuses of a lookup that searched every window of the prompt. -/
def SchedulerLookupStatus.windowsRequired : SchedulerLookupStatus → Bool
  | .transferReady | .fullPrefillMiss | .fullPrefillTransportError
  | .fullPrefillSidecarError => true
  | _ => false

structure SchedulerLookupRequest where
  requestId : String
  promptTokenIds : List TokenId
  sequenceCount : ℕ
  schedulerStepIndex : ℕ
  numComputedTokens : ℕ
  numExternalTokens : ℕ
  preemptionCount : ℕ
  id_nonempty : requestId ≠ ""
  id_bounded : (utf8 requestId).length ≤ maxRequestIdBytes
  prompt_nonempty : promptTokenIds ≠ []
  prompt_bounded : promptTokenIds.length ≤ gptOssMaxContextTokens
  sequence_positive : 1 ≤ sequenceCount
  computed_bounded : numComputedTokens ≤ promptTokenIds.length

instance : DecidableEq SchedulerLookupRequest := fun r r' =>
  decidable_of_iff (r.requestId = r'.requestId ∧ r.promptTokenIds = r'.promptTokenIds ∧
    r.sequenceCount = r'.sequenceCount ∧ r.schedulerStepIndex = r'.schedulerStepIndex ∧
    r.numComputedTokens = r'.numComputedTokens ∧ r.numExternalTokens = r'.numExternalTokens ∧
    r.preemptionCount = r'.preemptionCount) (by
      cases r
      cases r'
      simp only [SchedulerLookupRequest.mk.injEq])

def SchedulerLookupRequest.new (requestId : String) (promptTokenIds : List TokenId)
    (sequenceCount schedulerStepIndex numComputedTokens numExternalTokens
      preemptionCount : ℕ) : Except SchedulerRuntimeError SchedulerLookupRequest :=
  if hi : requestId ≠ "" ∧ (utf8 requestId).length ≤ maxRequestIdBytes then
    if hp : promptTokenIds ≠ [] ∧ promptTokenIds.length ≤ gptOssMaxContextTokens then
      if hs : 1 ≤ sequenceCount ∧ numComputedTokens ≤ promptTokenIds.length then
        .ok ⟨requestId, promptTokenIds, sequenceCount, schedulerStepIndex, numComputedTokens,
          numExternalTokens, preemptionCount, hi.1, hi.2, hp.1, hp.2, hs.1, hs.2⟩
      else .error (.runtime .invalidInput)
    else .error (.runtime .invalidInput)
  else .error (.runtime .invalidInput)

structure MetadataFields where
  schemaVersion : ℤ
  requestPlan : RequestPlan
  promptTokenIds : List TokenId
  queryWindows : List TokenRange
  lookupPlan : LmcacheLookupPlan
  status : SchedulerLookupStatus
  preemptionCount : ℕ
  allocationGeneration : ℕ
  externalSchedulerTokens : ℤ
  loadKvAsync : Bool
  deriving DecidableEq

def expectedMatches (p : LmcacheLookupPlan) : List VerifiedMatch :=
  p.verifiedCandidates.map VerifiedLmcacheCandidate.verified

/-- `SchedulerLookupMetadata.__post_init__`. -/
def checkMetadata (f : MetadataFields) : Except SchedulerRuntimeError Unit := do
  require (f.schemaVersion = metadataSchemaVersion) (.runtime .invalidMetadata)
  require (f.promptTokenIds ≠ [] ∧ f.requestPlan.promptTokens = f.promptTokenIds.length)
    (.runtime .invalidMetadata)
  require (∀ w ∈ f.queryWindows, w.size = lmcacheChunkSize ∧ w.stop ≤ f.promptTokenIds.length)
    (.runtime .invalidMetadata)
  require (f.status.windowsRequired = true →
    f.queryWindows.length = f.promptTokenIds.length+1-lmcacheChunkSize)
    (.runtime .invalidMetadata)
  require (∀ w ∈ f.queryWindows.zipIdx, w.1.start = w.2 ∧ w.1.stop = w.2+lmcacheChunkSize)
    (.runtime .invalidMetadata)
  require (f.externalSchedulerTokens = fullRecomputeExternalTokens ∧ f.loadKvAsync = false)
    (.runtime .invalidMetadata)
  require (f.requestPlan.matchPlan.verifiedMatches = expectedMatches f.lookupPlan)
    (.runtime .invalidMetadata)
  if f.status = .transferReady then
    require (f.lookupPlan.verifiedCandidates ≠ [] ∧ f.queryWindows ≠ [])
      (.runtime .invalidMetadata)
  else require (expectedMatches f.lookupPlan = []) (.runtime .invalidMetadata)

structure SchedulerLookupMetadata extends MetadataFields where
  valid : checkMetadata toMetadataFields = .ok ()
  deriving DecidableEq

def SchedulerLookupMetadata.new (fields : MetadataFields) :
    Except SchedulerRuntimeError SchedulerLookupMetadata :=
  match h : checkMetadata fields with
  | .error e => .error e
  | .ok () => .ok ⟨fields, h⟩

def SchedulerLookupMetadata.verifiedCandidates (m : SchedulerLookupMetadata) :
    List VerifiedLmcacheCandidate := m.lookupPlan.verifiedCandidates

def SchedulerLookupMetadata.shouldTransfer (m : SchedulerLookupMetadata) : Bool :=
  m.status = .transferReady

structure StoredRequest where
  request : SchedulerLookupRequest
  metadata : SchedulerLookupMetadata
  deriving DecidableEq

def emptyCounters : LmcacheLookupCounters := ⟨0, 0, 0, 0, 0, 0, 0, 0⟩

def emptyLookupPlan : LmcacheLookupPlan := ⟨[], [], emptyCounters, by decide⟩

/-- `_request_plan`. -/
def requestPlanOf (request : SchedulerLookupRequest) (lookupPlan : LmcacheLookupPlan) :
    Except SchedulerRuntimeError RequestPlan :=
  let found := expectedMatches lookupPlan
  let segments := found.map VerifiedMatch.targetSegment
  (RequestPlan.new request.requestId request.promptTokenIds.length segments
    ⟨found, [], ((segments.map TokenSegment.size).sum : ℕ)⟩).mapError .plan

def queryWindow (start : ℕ) : TokenRange :=
  ⟨start, start+lmcacheChunkSize, Nat.le_add_right _ _⟩

/-- `_query_windows`. -/
def queryWindowsOf (promptTokens : ℕ) : List TokenRange :=
  if promptTokens < lmcacheChunkSize then []
  else (List.range (promptTokens-lmcacheChunkSize+1)).map queryWindow

/-- `_sidecar_corruption`. -/
def sidecarCorruption (e : LmcacheLookupError) : Bool :=
  e.cause = some .sidecarCorruption ∨ e.cause = some .sidecarSchema

/-- The part of the transfer configuration that the runtime reads. -/
structure RuntimeConfig where
  cacheNamespace : CacheNamespace
  stagingTokenCapacity : ℕ
  deriving DecidableEq

structure SchedulerLookupRuntime where
  state : SchedulerRuntimeState
  fatalStatus : Option SchedulerLookupStatus
  requests : Dict String StoredRequest
  transportNeedsClose : Bool
  deriving DecidableEq

def SchedulerLookupRuntime.initial : SchedulerLookupRuntime :=
  ⟨.created, none, Dict.empty, true⟩

/-- How a call of the transport can fail: by an operation error, or by any
other exception. -/
inductive TransportFailure where
  | operation
  | other
  deriving DecidableEq

/-- The transport that the replacement factory returns. -/
inductive Replacement where
  | same
  | invalidConfig (closes : Bool)
  | fresh
  deriving DecidableEq

/-- The answers of the transport, its factory and the sidecar in one call. -/
structure Environment where
  opened : Except TransportFailure Unit
  closes : Bool
  replaced : Except TransportFailure Replacement
  candidates : Except TransportFailure (List LmcacheCandidate)
  records : RecordLookup

abbrev RuntimeCall (α : Type) : Type := Call SchedulerLookupRuntime SchedulerRuntimeError α

namespace SchedulerLookupRuntime

/-- `_mark_fatal`; every caller passes a fatal status. -/
def markFatal (rt : SchedulerLookupRuntime) (status : SchedulerLookupStatus) :
    SchedulerLookupRuntime :=
  { rt with state := .fatal, fatalStatus := some status, requests := Dict.empty }

def openTransport (env : Environment) : RuntimeCall SchedulerRuntimeState := fun rt =>
  match rt.state with
  | .ready | .degraded | .fatal => (.ok rt.state, rt)
  | .closed => (.error (.runtime .invalidInput), rt)
  | .created =>
    match env.opened with
    | .ok () => (.ok .ready, { rt with state := .ready })
    | .error .operation => (.ok .degraded, { rt with state := .degraded })
    | .error .other => (.ok .fatal, rt.markFatal .fatalProtocolDrift)

/-- The part of `_retry_degraded_transport_once` after the old transport is closed. -/
def replaceTransport (env : Environment) : RuntimeCall SchedulerRuntimeState := fun rt =>
  match env.replaced with
  | .error .operation => (.ok .degraded, { rt with state := .degraded })
  | .error .other | .ok .same => (.ok .fatal, rt.markFatal .fatalProtocolDrift)
  | .ok (.invalidConfig closes) =>
    (.ok .fatal, rt.markFatal (if closes then .fatalProtocolDrift else .fatalTransportCleanup))
  | .ok .fresh =>
    openTransport env { rt with transportNeedsClose := true, state := .created }

def retryDegradedTransportOnce (env : Environment) : RuntimeCall SchedulerRuntimeState :=
  fun rt =>
    if rt.transportNeedsClose = true ∧ env.closes = false then
      (.ok .fatal, rt.markFatal .fatalTransportCleanup)
    else replaceTransport env { rt with transportNeedsClose := false }

/-- `_eligibility_status`: the status of a request that is not looked up. -/
def eligibilityStatus (config : RuntimeConfig) (request : SchedulerLookupRequest) :
    Option SchedulerLookupStatus :=
  if request.numExternalTokens ≠ fullRecomputeExternalTokens then
    some .fatalNonzeroExternalTokens
  else if request.sequenceCount ≠ 1 then some .fullPrefillSequenceIneligible
  else if request.schedulerStepIndex ≠ 0 ∨ request.numComputedTokens ≠ 0 then
    some .fullPrefillStepIneligible
  else if request.promptTokenIds.length > config.stagingTokenCapacity then
    some .fullPrefillPromptTooLarge
  else none

def buildMetadata (request : SchedulerLookupRequest) (status : SchedulerLookupStatus)
    (lookupPlan : LmcacheLookupPlan) (windows : List TokenRange) (allocationGeneration : ℕ) :
    Except SchedulerRuntimeError SchedulerLookupMetadata := do
  let requestPlan ← requestPlanOf request lookupPlan
  SchedulerLookupMetadata.new {
    schemaVersion := metadataSchemaVersion
    requestPlan := requestPlan
    promptTokenIds := request.promptTokenIds
    queryWindows := windows
    lookupPlan := lookupPlan
    status := status
    preemptionCount := request.preemptionCount
    allocationGeneration := allocationGeneration
    externalSchedulerTokens := fullRecomputeExternalTokens
    loadKvAsync := false }

/-- The checks of `_verify_candidates` before the coordinator is asked. -/
def structuralChecks (candidates : List LmcacheCandidate) (queryWindowCount : ℕ) :
    Except SchedulerLookupStatus Unit := do
  require (∀ c ∈ candidates, c.sourceRelativeRange.size = lmcacheChunkSize ∧
    c.targetRange.size = lmcacheChunkSize) .fatalProtocolDrift
  require (candidates.length ≤ queryWindowCount) .fatalProtocolDrift

/-- The status and plan of `_verify_candidates` from the answer of the coordinator. -/
def coordinatorStatus : Except LmcacheLookupError LmcacheLookupPlan →
    SchedulerLookupStatus × LmcacheLookupPlan
  | .error e =>
    if sidecarCorruption e = true then (.fatalSidecarCorruption, emptyLookupPlan)
    else if e.code = .sidecarLookupFailed then (.fullPrefillSidecarError, emptyLookupPlan)
    else (.fatalProtocolDrift, emptyLookupPlan)
  | .ok lookupPlan =>
    if lookupPlan.verifiedCandidates ≠ [] then (.transferReady, lookupPlan)
    else (.fullPrefillMiss, lookupPlan)

section
variable (sha256 : Bytes → Digest) (config : RuntimeConfig)

/-- `_verify_candidates`; the caller marks the runtime when the status is fatal. -/
def verifyCandidates (records : RecordLookup) (request : SchedulerLookupRequest)
    (candidates : List LmcacheCandidate) (queryWindowCount : ℕ) :
    SchedulerLookupStatus × LmcacheLookupPlan :=
  match structuralChecks candidates queryWindowCount with
  | .error status => (status, emptyLookupPlan)
  | .ok () => coordinatorStatus (plan sha256 records
      (request.promptTokenIds.map (fun t => (t.val : ℤ))) config.cacheNamespace candidates)

def mark (rt : SchedulerLookupRuntime) (status : SchedulerLookupStatus) :
    SchedulerLookupRuntime :=
  if status.isFatal = true then rt.markFatal status else rt

/-- The status, the plan and the runtime after the candidates were asked for. -/
def askCandidates (env : Environment) (request : SchedulerLookupRequest)
    (queryWindowCount : ℕ) (rt : SchedulerLookupRuntime) :
    (SchedulerLookupStatus × LmcacheLookupPlan) × SchedulerLookupRuntime :=
  match env.candidates with
  | .error .operation =>
    ((.fullPrefillTransportError, emptyLookupPlan), { rt with state := .degraded })
  | .error .other => ((.fatalProtocolDrift, emptyLookupPlan), rt.markFatal .fatalProtocolDrift)
  | .ok candidates =>
    let answer := verifyCandidates sha256 config env.records request candidates queryWindowCount
    (answer, rt.mark answer.1)

def retain (request : SchedulerLookupRequest) (metadata : SchedulerLookupMetadata) :
    RuntimeCall SchedulerLookupMetadata := fun rt =>
  (.ok metadata, { rt with requests := rt.requests.set request.requestId ⟨request, metadata⟩ })

def finishLookup (request : SchedulerLookupRequest) (status : SchedulerLookupStatus)
    (lookupPlan : LmcacheLookupPlan) (windows : List TokenRange) :
    RuntimeCall SchedulerLookupMetadata := do
  let metadata ← Call.lift (buildMetadata request status lookupPlan windows 0)
  if status.isFatal = true then pure metadata else retain request metadata

def readyTransport (env : Environment) : RuntimeCall SchedulerRuntimeState := do
  let rt ← Call.read
  match rt.state with
  | .created => openTransport env
  | .degraded => retryDegradedTransportOnce env
  | state => pure state

/-- The lookup of a request that is not retained. -/
def firstLookup (env : Environment) (request : SchedulerLookupRequest) :
    RuntimeCall SchedulerLookupMetadata :=
  match eligibilityStatus config request with
  | some status => do
    Call.modify (mark · status)
    finishLookup request status emptyLookupPlan []
  | none => do
    let windows := queryWindowsOf request.promptTokenIds.length
    let runtimeState ← readyTransport env
    if runtimeState = .degraded then
      finishLookup request .fullPrefillTransportError emptyLookupPlan windows
    else if runtimeState = .fatal then do
      let rt ← Call.read
      Call.lift (buildMetadata request (rt.fatalStatus.getD .fatalProtocolDrift)
        emptyLookupPlan windows 0)
    else do
      let rt ← Call.read
      let answer := askCandidates sha256 config env request windows.length rt
      Call.modify (fun _ => answer.2)
      finishLookup request answer.1.1 answer.1.2 windows

/-- `_repeat_or_preempt`. -/
def repeatOrPreempt (existing : StoredRequest) (request : SchedulerLookupRequest) :
    RuntimeCall SchedulerLookupMetadata :=
  if request = existing.request then pure existing.metadata
  else if request.preemptionCount ≠ existing.request.preemptionCount+1 ∨
      { request with preemptionCount := existing.request.preemptionCount } ≠
        existing.request then do
    Call.modify (markFatal · .fatalDuplicateConflict)
    Call.lift (buildMetadata request .fatalDuplicateConflict emptyLookupPlan []
      existing.metadata.allocationGeneration)
  else do
    let metadata ← Call.lift (SchedulerLookupMetadata.new { existing.metadata.toMetadataFields with
      preemptionCount := request.preemptionCount
      allocationGeneration := existing.metadata.allocationGeneration+1 })
    retain request metadata

def lookup (env : Environment) (request : SchedulerLookupRequest) :
    RuntimeCall SchedulerLookupMetadata := do
  let rt ← Call.read
  if rt.state = .closed then
    Call.lift (buildMetadata request .fatalRuntimeClosed emptyLookupPlan []
      request.preemptionCount)
  else if rt.state = .fatal then
    Call.lift (buildMetadata request (rt.fatalStatus.getD .fatalProtocolDrift) emptyLookupPlan []
      request.preemptionCount)
  else
    match rt.requests.get? request.requestId with
    | some existing => repeatOrPreempt existing request
    | none => firstLookup sha256 config env request

end

def discard (requestId : String) : RuntimeCall (Option SchedulerLookupMetadata) := fun rt =>
  (.ok ((rt.requests.get? requestId).map StoredRequest.metadata),
    { rt with requests := rt.requests.erase requestId })

/-- `close`, with the outcome of closing the transport. -/
def close (closes : Bool) : RuntimeCall Unit := fun rt =>
  if rt.state = .closed then (.ok (), rt)
  else if rt.transportNeedsClose = false then
    (.ok (), { rt with requests := Dict.empty, state := .closed })
  else if closes = true then
    (.ok (), { rt with requests := Dict.empty, transportNeedsClose := false, state := .closed })
  else (.error (.runtime .closeFailed), { rt with
    requests := Dict.empty
    state := .fatal
    fatalStatus := some .fatalTransportCleanup })

end SchedulerLookupRuntime

end CacheBlend.SchedulerRuntime
