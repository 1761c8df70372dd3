import CacheBlend.LmcacheTransport
import CacheBlend.SidecarRows
import CacheBlend.TransferRuntime
import CacheBlend.TransportLifecycle

/-!
# The requests of the LMCache transport

An operation checks its arguments, hands one request to the message queue and
checks the response. Every request is recorded with what became of it and with
the staging buffer that was registered when it was sent.
-/

set_option autoImplicit false

namespace CacheBlend.TransportRequests
open CacheBlend.PlannerModels CacheBlend.SegmentFingerprints CacheBlend.LmcacheTypes
open CacheBlend.LmcacheTransport CacheBlend.TransferRuntime
open CacheBlend.ExactMatcher (CBMatchResult)
open CacheBlend.TransportLifecycle (LmcacheTransportState)

def maxRequestIdBytes : ℕ := 256
def maxEventHandleBytes : ℕ := 16*1024
def maxLmcacheBlake3TokenId : ℕ := 2^32-1

/-! ## Configuration and registration -/

/-- A configuration of the audited transport: one worker, chunks of 256 tokens. -/
structure LmcacheBlendTransportConfig where
  cacheNamespace : CacheNamespace
  storageModelName : NamespaceText
  deriving DecidableEq

def LmcacheBlendTransportConfig.worldSize (_ : LmcacheBlendTransportConfig) : ℕ := 1

def LmcacheBlendTransportConfig.workerId (_ : LmcacheBlendTransportConfig) : ℕ := 0

structure LmcacheStagingLayout where
  layerCount : ℕ
  tokenCapacity : ℕ
  kvWidth : ℕ
  dtypeName : NamespaceText
  layers_positive : 1 ≤ layerCount
  width_positive : 1 ≤ kvWidth
  holds_chunk : lmcacheChunkSize ≤ tokenCapacity
  dtype_bounded : (utf8 dtypeName.val).length ≤ 128

instance : DecidableEq LmcacheStagingLayout := fun l l' =>
  decidable_of_iff (l.layerCount = l'.layerCount ∧ l.tokenCapacity = l'.tokenCapacity ∧
    l.kvWidth = l'.kvWidth ∧ l.dtypeName = l'.dtypeName) (by
      cases l
      cases l'
      simp only [LmcacheStagingLayout.mk.injEq])

def LmcacheStagingLayout.shape (l : LmcacheStagingLayout) : List ℕ :=
  [2, l.layerCount, l.tokenCapacity, l.kvWidth]

structure CudaIPCWrapper where
  shape : List ℕ
  dtype : String
  deriving DecidableEq

/-- A registration holds one payload, `none` where it is not a CUDA-IPC wrapper. -/
structure LmcacheStagingRegistration where
  instanceId : ℕ
  kvCachePayload : Option CudaIPCWrapper
  layout : LmcacheStagingLayout
  deriving DecidableEq

/-! ## Requests and responses -/

structure IPCCacheEngineKey where
  modelName : NamespaceText
  worldSize : ℕ
  workerId : Option ℕ
  tokenIds : List TokenId
  start : ℕ
  stop : ℕ
  requestId : String
  deriving DecidableEq

inductive LmcacheRequest where
  | ping
  | getChunkSize
  | register (instanceId : ℕ) (payload : Option CudaIPCWrapper) (modelName : NamespaceText)
      (worldSize : ℕ)
  | unregister (instanceId : ℕ)
  | lookup (key : IPCCacheEngineKey)
  | storePrecomputed (key : IPCCacheEngineKey) (bufferOffset instanceId : ℕ)
      (eventIpcHandle : Bytes)
  | retrieve (key : IPCCacheEngineKey) (rawMatches : List CBMatchResult)
      (bufferOffset instanceId : ℕ) (eventIpcHandle : Bytes)
  | storeFinal (key : IPCCacheEngineKey) (bufferOffset instanceId : ℕ) (eventIpcHandle : Bytes)
  deriving DecidableEq

def LmcacheRequest.value : LmcacheRequest → String
  | .ping => "PING"
  | .getChunkSize => "GET_CHUNK_SIZE"
  | .register .. => "CB_REGISTER_KV_CACHE"
  | .unregister _ => "CB_UNREGISTER_KV_CACHE"
  | .lookup _ => "CB_LOOKUP_PRE_COMPUTED_V2"
  | .storePrecomputed .. => "CB_STORE_PRE_COMPUTED"
  | .retrieve .. => "CB_RETRIEVE_PRE_COMPUTED_V2"
  | .storeFinal .. => "CB_STORE_FINAL"

inductive Response where
  | none
  | bool (value : Bool)
  | int (value : ℤ)
  | list (values : List RawMatch)
  | other
  deriving DecidableEq

/-- What becomes of a request: a response, or an exception of the queue or of
the wait, a timeout among them. An operation error keeps its text. -/
inductive Exchange where
  | answered (response : Response)
  | operationError (text : String)
  | raised
  deriving DecidableEq

inductive LmcacheTransportError where
  | configuration (text : String)
  | protocol (text : String)
  | lifecycle (text : String)
  | operation (text : String)
  | close (text : String)
  | value (text : String)
  | overflow
  deriving DecidableEq

def ofDecodeError : DecodeError → LmcacheTransportError
  | .protocol error => .protocol error.text
  | .overflow => .overflow

structure LmcacheBlendTransport where
  state : LmcacheTransportState
  registration : Option LmcacheStagingRegistration
  deriving DecidableEq

structure Sent where
  request : LmcacheRequest
  exchange : Exchange
  byClose : Bool
  registration : Option LmcacheStagingRegistration
  deriving DecidableEq

/-- The transport and the requests it has put on the wire so far. -/
structure Wire where
  transport : LmcacheBlendTransport
  sent : List Sent
  deriving DecidableEq

abbrev TransportCall (α : Type) : Type := Call Wire LmcacheTransportError α

namespace Wire

def setState (w : Wire) (state : LmcacheTransportState) : Wire :=
  { w with transport := { w.transport with state := state } }

def send (w : Wire) (request : LmcacheRequest) (exchange : Exchange) (byClose : Bool) : Wire :=
  { w with sent := w.sent ++ [⟨request, exchange, byClose, w.transport.registration⟩] }

end Wire

def wireInitial : Wire := ⟨⟨.created, none⟩, []⟩

/-! ## Checks -/

/-- `_require_state`. -/
def requireState (allowed : List LmcacheTransportState) : TransportCall PUnit := fun w =>
  if w.transport.state ∈ allowed then (.ok ⟨⟩, w)
  else (.error (.lifecycle ("operation requires state " ++
    ", ".intercalate (allowed.map LmcacheTransportState.value) ++ "; current state is " ++
    w.transport.state.value)), w)

/-- `_fail`, and the other places that set the terminal state before they raise. -/
def failWith {α : Type} (error : LmcacheTransportError) : TransportCall α := fun w =>
  (.error error, w.setState .failed)

def fail {α : Type} (message : String) : TransportCall α := failWith (.operation message)

/-- `_request`. -/
def request (r : LmcacheRequest) (exchange : Exchange) : TransportCall Response := fun w =>
  let sent := w.send r exchange false
  match exchange with
  | .answered response => (.ok response, sent)
  | .operationError text => fail text sent
  | .raised => fail ("LMCache " ++ r.value ++ " request failed") sent

def requestExpecting (r : LmcacheRequest) (expected : Response) (error : LmcacheTransportError)
    (exchange : Exchange) : TransportCall PUnit := do
  let response ← request r exchange
  if response = expected then pure ⟨⟩ else failWith error

/-- A transfer and `_require_transfer_success`. -/
def requestTransfer (r : LmcacheRequest) (exchange : Exchange) : TransportCall PUnit :=
  requestExpecting r (.bool true) (.operation ("LMCache " ++ r.value ++ " reported failure"))
    exchange

def validateRequestId (requestId : String) : Except LmcacheTransportError PUnit := do
  require (requestId ≠ "") (.configuration "request_id must be a non-empty string")
  require ((utf8 requestId).length ≤ maxRequestIdBytes)
    (.configuration "request_id exceeds the bounded wire limit")

def validateEventHandle (eventIpcHandle : Bytes) : Except LmcacheTransportError PUnit := do
  require (eventIpcHandle ≠ []) (.configuration "event_ipc_handle must be non-empty bytes")
  require (eventIpcHandle.length ≤ maxEventHandleBytes)
    (.configuration "event_ipc_handle exceeds the wire limit")

/-- `validate_buffer_range`: the offset as a natural number, if the range fits. -/
def validateBufferRange (start : ℤ) (length capacity : ℕ) (fieldName : String) :
    Except LmcacheTransportError ℕ := do
  require (0 ≤ start) (.configuration (fieldName ++ " must be at least 0"))
  require (start+length ≤ capacity)
    (.configuration (fieldName ++ " range exceeds the registered staging capacity"))
  .ok start.toNat

def normalized (tokenIds : List ℤ) : Except LmcacheTransportError (List TokenId) :=
  (normalizeTokenIds tokenIds).mapError fun error => .value error.text

/-- `_active_registration`. -/
def activeRegistration : TransportCall LmcacheStagingRegistration := do
  requireState [.registered]
  let w ← Call.read
  match w.transport.registration with
  | some registration => pure registration
  | none => fail "registered state has no staging registration"

section
variable {w : Wire}

theorem requireState_pass {allowed : List LmcacheTransportState} (h : w.transport.state ∈ allowed) :
    requireState allowed w = (.ok ⟨⟩, w) := if_pos h

theorem requireState_refuses {allowed : List LmcacheTransportState}
    (h : w.transport.state ∉ allowed) : ∃ e, requireState allowed w = (.error e, w) :=
  ⟨_, if_neg h⟩

theorem activeRegistration_cases (w : Wire) :
    (∃ registration, activeRegistration w = (.ok registration, w) ∧
      w.transport = ⟨.registered, some registration⟩) ∨
    ∃ e, activeRegistration w = (.error e, w) ∧ w.transport.state ≠ .registered ∨
      activeRegistration w = (.error e, w.setState .failed) ∧
        w.transport = ⟨.registered, none⟩ := by
  by_cases hs : w.transport.state ∈ [LmcacheTransportState.registered]
  · unfold activeRegistration
    rw [Call.bind_run_ok _ (requireState_pass hs), Call.read_bind]
    cases hr : w.transport.registration with
    | none =>
      refine Or.inr ⟨_, Or.inr ⟨rfl, ?_⟩⟩
      rw [← hr, ← List.mem_singleton.mp hs]
    | some registration =>
      refine Or.inl ⟨registration, rfl, ?_⟩
      rw [← hr, ← List.mem_singleton.mp hs]
  · obtain ⟨e, he⟩ := requireState_refuses hs
    refine Or.inr ⟨e, Or.inl ⟨Call.bind_run_error _ he, ?_⟩⟩
    exact fun h => hs (List.mem_singleton.mpr h)

theorem requestExpecting_cases (r : LmcacheRequest) (expected : Response)
    (error : LmcacheTransportError) (x : Exchange) (w : Wire) :
    (x = .answered expected ∧
      requestExpecting r expected error x w = (.ok ⟨⟩, w.send r x false)) ∨
    (x ≠ .answered expected ∧ ∃ e,
      requestExpecting r expected error x w = (.error e, (w.send r x false).setState .failed)) := by
  cases x with
  | operationError text => exact Or.inr ⟨fun h => (nomatch h), _, rfl⟩
  | raised => exact Or.inr ⟨fun h => (nomatch h), _, rfl⟩
  | answered response =>
    have hsent : request r (.answered response) w =
      (.ok response, w.send r (.answered response) false) := rfl
    by_cases hr : response = expected
    · exact Or.inl ⟨congrArg _ hr, (Call.bind_run_ok _ hsent).trans (by rw [if_pos hr]; rfl)⟩
    · refine Or.inr ⟨fun h => hr (Exchange.answered.inj h), error, ?_⟩
      exact (Call.bind_run_ok _ hsent).trans (by rw [if_neg hr]; rfl)

end

/-! ## Opening and registration -/

/-- `open`. -/
def openServer (ping chunkSize : Exchange) : TransportCall PUnit := do
  requireState [.created]
  requestExpecting .ping (.bool true) (.operation "PING returned an invalid response") ping
  let size ← request .getChunkSize chunkSize
  match size with
  | .int n =>
    if n = lmcacheChunkSize then Call.modify (·.setState .ready)
    else fail "server chunk size does not match the pinned client"
  | _ => fail "GET_CHUNK_SIZE returned a non-integer response"

/-- `validate_kv_cache_payload` of the runtime bindings. -/
def validateKvCachePayload (payload : Option CudaIPCWrapper) (expectedShape : List ℕ)
    (expectedDtypeName : String) : Except LmcacheTransportError PUnit :=
  match payload with
  | none => .error (.configuration "registration requires one LMCache CudaIPCWrapper")
  | some wrapper => do
    require (wrapper.shape = expectedShape)
      (.configuration "CUDA-IPC wrapper shape does not match the staging layout")
    require (wrapper.dtype = expectedDtypeName)
      (.configuration "CUDA-IPC wrapper dtype does not match the staging layout")

def registerStagingBuffer (config : LmcacheBlendTransportConfig)
    (registration : LmcacheStagingRegistration) (exchange : Exchange) : TransportCall PUnit := do
  requireState [.ready]
  Call.lift (validateKvCachePayload registration.kvCachePayload registration.layout.shape
    registration.layout.dtypeName.val)
  requestExpecting (.register registration.instanceId registration.kvCachePayload
      config.storageModelName config.worldSize) .none
    (.operation "CB_REGISTER_KV_CACHE returned an invalid response") exchange
  Call.modify fun w => { w with transport := ⟨.registered, some registration⟩ }

def unregisterStagingBuffer (exchange : Exchange) : TransportCall PUnit := do
  let registration ← activeRegistration
  requestExpecting (.unregister registration.instanceId) .none
    (.operation "CB_UNREGISTER_KV_CACHE returned an invalid response") exchange
  Call.modify fun w => { w with transport := ⟨.ready, none⟩ }

/-! ## Lookup -/

def makeKey (config : LmcacheBlendTransportConfig) (tokens : List TokenId) (requestId : String)
    (workerId : Option ℕ) : IPCCacheEngineKey where
  modelName := config.storageModelName
  worldSize := config.worldSize
  workerId := workerId
  tokenIds := tokens
  start := 0
  stop := tokens.length
  requestId := requestId

section
variable (sha256 : Bytes → Digest) (config : LmcacheBlendTransportConfig)

/-- The response of a lookup. A value that is not accepted is terminal, an overflow is not. -/
def acceptResponse (tokens : List TokenId) : Response → TransportCall (List LmcacheCandidate)
  | .list values =>
    match decodeResponse sha256 config.storageModelName tokens values with
    | .ok candidates => pure candidates
    | .error (.protocol error) => failWith (.protocol error.text)
    | .error .overflow => Call.raise .overflow
  | _ => fail "CB_LOOKUP_PRE_COMPUTED_V2 returned a non-list response"

def lookupCandidates (tokenIds : List ℤ) (requestId : String) (exchange : Exchange) :
    TransportCall (List LmcacheCandidate) := do
  requireState [.ready, .registered]
  Call.lift (validateRequestId requestId)
  let tokens ← Call.lift (normalized tokenIds)
  if tokens.length < lmcacheChunkSize then pure []
  else do
    let response ← request (.lookup (makeKey config tokens requestId none)) exchange
    acceptResponse sha256 config tokens response

/-! ## Stores -/

/-- What `compute_chunk_hashes` gives: it raises or is no sequence, or a
sequence of values, `none` for one that is not a byte string. -/
inductive HashOutput where
  | raised
  | sequence (hashes : List (Option Bytes))

structure StoreRequest where
  tokenIds : List ℤ
  bufferOffset : ℤ
  eventIpcHandle : Bytes
  requestId : String

/-- The checks of a store on its own arguments: the tokens and the offset. -/
def checkStore (r : StoreRequest) (registration : LmcacheStagingRegistration) :
    Except LmcacheTransportError (List TokenId × ℕ) := do
  validateRequestId r.requestId
  validateEventHandle r.eventIpcHandle
  let tokens ← normalized r.tokenIds
  require (tokens ≠ []) (.configuration "store token_ids must not be empty")
  require (∀ t ∈ tokens, t.val ≤ maxLmcacheBlake3TokenId)
    (.configuration "LMCache BLAKE3 token IDs must fit in unsigned 32 bits")
  require (tokens.length % lmcacheChunkSize = 0)
    (.configuration "Blend V2 stores only complete chunks; partial stores are rejected")
  let offset ← validateBufferRange r.bufferOffset tokens.length
    registration.layout.tokenCapacity "store buffer_offset"
  .ok (tokens, offset)

/-- `_validate_store_inputs`, with the registration it reads. -/
def validateStoreInputs (r : StoreRequest) :
    TransportCall (LmcacheStagingRegistration × List TokenId × ℕ) := do
  let registration ← activeRegistration
  let checked ← Call.lift (checkStore r registration)
  pure (registration, checked)

/-- `_validate_record_identity`. -/
def validateRecordIdentity (tokens : List TokenId) (cacheNamespace : CacheNamespace)
    (documentSourceRange : TokenRange) : Except LmcacheTransportError PUnit := do
  require (cacheNamespace = config.cacheNamespace)
    (.configuration "store cache_namespace does not match transport configuration")
  let length ← (rangeLen documentSourceRange).mapError ofDecodeError
  require (length = tokens.length)
    (.configuration "document_source_range length must equal the stored token count")
  require (documentSourceRange.stop ≤ SidecarRows.maxTokenPosition)
    (.configuration "document_source_range exceeds the GPT-OSS context limit")

def chunkRecord (tokens : List TokenId) (cacheNamespace : CacheNamespace) (sourceStart : ℕ)
    (chunkIndex : ℕ) (chunkHash : Bytes) : Except LmcacheTransportError CacheRecord :=
  let relativeStart := chunkIndex*lmcacheChunkSize
  let chunkTokens := (tokens.take (relativeStart+lmcacheChunkSize)).drop relativeStart
  (CacheRecord.new cacheNamespace (fingerprint sha256 cacheNamespace chunkTokens) chunkTokens
    ⟨sourceStart+relativeStart, sourceStart+relativeStart+lmcacheChunkSize, Nat.le_add_right _ _⟩
    (cacheKeyOf chunkHash)).mapError fun error => .value error.text

/-- The chunk hashes, if they are byte strings of the right length. -/
def completeHashes (hashes : List (Option Bytes)) : Option (List Bytes) :=
  hashes.mapM fun hash => hash.filter fun b => b.length = 32

/-- `_derive_sidecar_records`. -/
def deriveSidecarRecords (tokens : List TokenId) (cacheNamespace : CacheNamespace)
    (documentSourceRange : TokenRange) (output : HashOutput) :
    TransportCall (List CacheRecord) :=
  match output with
  | .raised => drifted
  | .sequence hashes =>
    if hashes.length = tokens.length/lmcacheChunkSize then
      match completeHashes hashes with
      | none => failWith (.protocol
          "LMCache TokenHasher returned malformed complete-chunk hashes")
      | some hashes => Call.lift (hashes.zipIdx.mapM fun hash : Bytes × ℕ =>
          chunkRecord sha256 tokens cacheNamespace documentSourceRange.start hash.2 hash.1)
    else drifted
where
  drifted : TransportCall (List CacheRecord) :=
    failWith (.protocol "LMCache TokenHasher output drifted after precomputed storage")

/-- The loop of the receipt's constructor over the records of a precomputed store. -/
def checkReceiptRecords : Option CacheRecord → List CacheRecord →
    Except LmcacheTransportError PUnit
  | _, [] => .ok ⟨⟩
  | previous, record::rest => do
    require (record.tokenIds.length = lmcacheChunkSize)
      (.protocol "precomputed sidecar record is not one complete chunk")
    require (∀ p ∈ previous, record.sourceRange.start = p.sourceRange.stop)
      (.protocol "precomputed sidecar record ranges are not contiguous")
    require (∀ p ∈ previous, record.cacheNamespace = p.cacheNamespace)
      (.protocol "precomputed sidecar record namespaces differ")
    require (record.fingerprint = fingerprint sha256 record.cacheNamespace record.tokenIds)
      (.protocol "precomputed sidecar record fingerprint is invalid")
    checkReceiptRecords (some record) rest

/-- `LmcacheStoreReceipt.__post_init__`. -/
def newStoreReceipt (storedTokens storedChunks : ℕ) (candidateLookupRequired : Bool)
    (sidecarRecords : List CacheRecord) : Except LmcacheTransportError LmcacheStoreReceipt := do
  require (storedTokens = storedChunks*lmcacheChunkSize)
    (.protocol "store receipt chunk accounting is invalid")
  if candidateLookupRequired = false then
    require (sidecarRecords = [])
      (.protocol "a final store cannot publish non-prefix sidecar records")
  else do
    require (sidecarRecords.length = storedChunks)
      (.protocol "precomputed store receipt is missing sidecar records")
    checkReceiptRecords sha256 none sidecarRecords
  .ok ⟨storedTokens, storedChunks, candidateLookupRequired, sidecarRecords⟩

def storePrecomputed (r : StoreRequest) (cacheNamespace : CacheNamespace)
    (documentSourceRange : TokenRange) (exchange : Exchange) (output : HashOutput) :
    TransportCall LmcacheStoreReceipt := do
  let (registration, tokens, offset) ← validateStoreInputs r
  Call.lift (validateRecordIdentity config tokens cacheNamespace documentSourceRange)
  requestTransfer (.storePrecomputed (makeKey config tokens r.requestId (some config.workerId))
    offset registration.instanceId r.eventIpcHandle) exchange
  let records ← deriveSidecarRecords sha256 tokens cacheNamespace documentSourceRange output
  Call.lift (newStoreReceipt sha256 tokens.length (tokens.length/lmcacheChunkSize) true records)

def storeFinal (r : StoreRequest) (exchange : Exchange) : TransportCall LmcacheStoreReceipt := do
  let (registration, tokens, offset) ← validateStoreInputs r
  requestTransfer (.storeFinal (makeKey config tokens r.requestId (some config.workerId))
    offset registration.instanceId r.eventIpcHandle) exchange
  Call.lift (newStoreReceipt sha256 tokens.length (tokens.length/lmcacheChunkSize) false [])

/-! ## Retrieval -/

def matchOf (v : VerifiedLmcacheCandidate) : CBMatchResult where
  oldSt := v.candidate.sourceRelativeRange.start
  oldEd := v.candidate.sourceRelativeRange.stop
  curSt := v.candidate.targetRange.start
  curEd := v.candidate.targetRange.stop
  hash := v.candidate.storageHash.val

/-- The checks of the retrieval loop on one candidate, with the ranges before it. -/
def checkVerified (tokens : List TokenId) (ranges : List TokenRange)
    (v : VerifiedLmcacheCandidate) : Except LmcacheTransportError (List TokenRange) := do
  require (v.candidate.storageModelName = config.storageModelName)
    (.protocol "candidate storage namespace does not match")
  require (v.candidate.queryDigest = queryDigest sha256 tokens)
    (.protocol "candidate was produced for a different lookup query")
  require (v.candidate.targetRange.stop ≤ tokens.length)
    (.protocol "verified candidate exceeds query tokens")
  require ((tokens.take v.candidate.targetRange.stop).drop v.candidate.targetRange.start =
      v.verified.record.tokenIds)
    (.protocol "query tokens changed after exact candidate verification")
  require (v.candidate.targetRange.size = lmcacheChunkSize)
    (.protocol "verified candidate is not one complete LMCache chunk")
  require (∀ existing ∈ ranges, ¬v.candidate.targetRange.Overlaps existing)
    (.protocol "verified candidate target ranges overlap")
  .ok (ranges ++ [v.candidate.targetRange])

structure RetrieveRequest where
  tokenIds : List ℤ
  verifiedCandidates : List VerifiedLmcacheCandidate
  bufferOffset : ℤ
  eventIpcHandle : Bytes
  requestId : String

def retrievePrecomputed (r : RetrieveRequest) (exchange : Exchange) :
    TransportCall LmcacheRetrieveReceipt := do
  let registration ← activeRegistration
  Call.lift (validateRequestId r.requestId)
  Call.lift (validateEventHandle r.eventIpcHandle)
  let tokens ← Call.lift (normalized r.tokenIds)
  Call.lift (require (tokens ≠ []) (.configuration "retrieve query tokens must not be empty"))
  if r.verifiedCandidates = [] then pure ⟨0, 0⟩
  else do
    let ranges ← Call.lift (r.verifiedCandidates.foldlM (checkVerified sha256 config tokens) [])
    let offset ← Call.lift (validateBufferRange r.bufferOffset
      ((ranges.map TokenRange.stop).foldl max 0) registration.layout.tokenCapacity
      "retrieve buffer_offset")
    requestTransfer (.retrieve (makeKey config tokens r.requestId (some config.workerId))
      (r.verifiedCandidates.map matchOf) offset registration.instanceId r.eventIpcHandle) exchange
    pure ⟨(ranges.map TokenRange.size).sum, ranges.length⟩

end

/-! ## Close -/

/-- The unregister attempt of `close`, with the failures it adds. -/
def closeRegistration (exchange : Exchange) (w : Wire) : List String × Wire :=
  match w.transport.registration with
  | none => ([], w)
  | some registration =>
    (match exchange with
      | .answered .none => []
      | .answered _ => ["unregister returned an invalid response"]
      | .operationError _ | .raised => ["unregister failed"],
    w.send (.unregister registration.instanceId) exchange true)

/-- `close`; `queueCloses` says whether the close of the message queue returns. -/
def close (exchange : Exchange) (queueCloses : Bool) : TransportCall PUnit := fun w =>
  if w.transport.state = .closed then (.ok ⟨⟩, w)
  else
    let unregistered := closeRegistration exchange w
    let failures := unregistered.1 ++
      if queueCloses = true then [] else ["message queue close failed"]
    let closed := { unregistered.2 with transport := ⟨.closed, none⟩ }
    if failures = [] then (.ok ⟨⟩, closed)
    else (.error (.close ("; ".intercalate failures)), closed)

/-! ## Operations -/

inductive Operation where
  | openServer (ping chunkSize : Exchange)
  | register (registration : LmcacheStagingRegistration) (exchange : Exchange)
  | unregister (exchange : Exchange)
  | lookup (tokenIds : List ℤ) (requestId : String) (exchange : Exchange)
  | storePrecomputed (r : StoreRequest) (cacheNamespace : CacheNamespace)
      (documentSourceRange : TokenRange) (exchange : Exchange) (output : HashOutput)
  | storeFinal (r : StoreRequest) (exchange : Exchange)
  | retrieve (r : RetrieveRequest) (exchange : Exchange)
  | close (exchange : Exchange) (queueCloses : Bool)

def Operation.isClose : Operation → Bool
  | .close .. => true
  | _ => false

section
variable (sha256 : Bytes → Digest) (config : LmcacheBlendTransportConfig)

/-- The wire after an operation, whether it returns or raises. -/
def perform (w : Wire) : Operation → Wire
  | .openServer ping chunkSize => (openServer ping chunkSize w).2
  | .register registration exchange => (registerStagingBuffer config registration exchange w).2
  | .unregister exchange => (unregisterStagingBuffer exchange w).2
  | .lookup tokenIds requestId exchange =>
    (lookupCandidates sha256 config tokenIds requestId exchange w).2
  | .storePrecomputed r cacheNamespace documentSourceRange exchange output =>
    (storePrecomputed sha256 config r cacheNamespace documentSourceRange exchange output w).2
  | .storeFinal r exchange => (storeFinal sha256 config r exchange w).2
  | .retrieve r exchange => (retrievePrecomputed sha256 config r exchange w).2
  | .close exchange queueCloses => (close exchange queueCloses w).2

def after (operations : List Operation) : Wire :=
  operations.foldl (perform sha256 config) wireInitial

end

/-! ## The lifecycle

The state and the registered instance change as in the model of the lifecycle,
which knows of an unregister request only whether it is answered.
-/

def SameLifecycle (t : LmcacheBlendTransport)
    (t' : TransportLifecycle.LmcacheBlendTransport) : Prop :=
  t'.state = t.state ∧ t'.registration = t.registration.map LmcacheStagingRegistration.instanceId

def outcomeOf (carriedOut : Bool) : Exchange → TransportLifecycle.QueueOutcome
  | .answered .none => .answered
  | .answered _ => .invalid carriedOut
  | .operationError _ | .raised => .raised carriedOut

theorem outcomeOf_ne (carriedOut : Bool) {exchange : Exchange} (h : exchange ≠ .answered .none) :
    outcomeOf carriedOut exchange ≠ .answered := by
  cases exchange with
  | answered response =>
    cases response with
    | none => exact absurd rfl h
    | bool _ => simp [outcomeOf]
    | int _ => simp [outcomeOf]
    | list _ => simp [outcomeOf]
    | other => simp [outcomeOf]
  | operationError _ => simp [outcomeOf]
  | raised => simp [outcomeOf]

theorem unregister_lifecycle {w : Wire} {l : TransportLifecycle.Link} {exchange : Exchange}
    (carriedOut : Bool) (h : SameLifecycle w.transport l.transport)
    (ho : l.nextOutcome = outcomeOf carriedOut exchange) :
    SameLifecycle (unregisterStagingBuffer exchange w).2.transport
      (TransportLifecycle.unregisterStagingBuffer l).2.transport := by
  obtain ⟨hs, hr⟩ := h
  unfold unregisterStagingBuffer
  obtain ⟨registration, ha, ht⟩ | ⟨e, ⟨ha, hn⟩ | ⟨ha, ht⟩⟩ := activeRegistration_cases w
  · rw [Call.bind_run_ok _ ha]
    rw [ht] at hs hr
    rw [TransportLifecycle.unregister_registered hs hr]
    obtain ⟨hx, hsent⟩ | ⟨hx, e, hsent⟩ := requestExpecting_cases
      (.unregister registration.instanceId) .none
      (.operation "CB_UNREGISTER_KV_CACHE returned an invalid response") exchange w
    · rw [Call.bind_run_ok _ hsent]
      unfold TransportLifecycle.requestUnregister
      rw [ho, hx]
      exact ⟨rfl, rfl⟩
    · rw [Call.bind_run_error _ hsent]
      obtain ⟨e', he⟩ := TransportLifecycle.requestUnregister_fails registration.instanceId
        (l := l) (by rw [ho]; exact outcomeOf_ne carriedOut hx)
      rw [he]
      refine ⟨rfl, ?_⟩
      show l.transport.registration = w.transport.registration.map _
      rw [ht]
      exact hr
  · rw [Call.bind_run_error _ ha]
    obtain ⟨e', he⟩ := TransportLifecycle.unregister_refused (hs ▸ hn)
    rw [he]
    exact ⟨hs, hr⟩
  · rw [Call.bind_run_error _ ha]
    rw [ht] at hs hr
    have hrequired : TransportLifecycle.requireState .registered l = (.ok ⟨⟩, l) := if_pos hs
    unfold TransportLifecycle.unregisterStagingBuffer
    rw [Call.bind_run_ok _ hrequired, Call.read_bind, hr]
    refine ⟨rfl, ?_⟩
    show l.transport.registration = w.transport.registration.map _
    rw [ht, hr]

theorem close_lifecycle {w : Wire} {l : TransportLifecycle.Link} (exchange : Exchange)
    (queueCloses : Bool) (h : SameLifecycle w.transport l.transport) :
    SameLifecycle (close exchange queueCloses w).2.transport
      (TransportLifecycle.close l).2.transport := by
  obtain ⟨hs, hr⟩ := h
  by_cases hc : w.transport.state = .closed
  · rw [TransportLifecycle.closed_close (hs.trans hc)]
    unfold close
    rw [if_pos hc]
    exact ⟨hs, hr⟩
  · have hc' : l.transport.state ≠ .closed := fun h => hc (hs.symm.trans h)
    unfold close TransportLifecycle.close
    rw [if_neg hc, if_neg hc']
    dsimp only
    split_ifs <;> exact ⟨rfl, rfl⟩

end CacheBlend.TransportRequests
