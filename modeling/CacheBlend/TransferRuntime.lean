import CacheBlend.Calls
import CacheBlend.CandidateLookup
import CacheBlend.VllmAdapters

/-!
# The transfer runtime of a worker

Transfer metadata is checked against the handoff and the prompt when it is
built. The runtime tries to load the verified candidates before the forward
pass and to store the complete chunks of the prompt after it. A failure of
either attempt falls back to ordinary full prefill.
-/

set_option autoImplicit false

namespace CacheBlend.TransferRuntime
open CacheBlend.PlannerModels CacheBlend.SegmentFingerprints CacheBlend.LmcacheTypes
open CacheBlend.RequestLifecycle CacheBlend.VllmAdapters

inductive TransferRuntimeErrorCode where
  | invalidMetadata
  | nonzeroExternalTokens
  | notInitialPrefill
  | incompleteFullPromptStep
  | namespaceMismatch
  | candidateMismatch
  | candidateChunkMismatch
  | candidateOverlap
  | invalidOutcome
  | invalidForwardCompletion
  deriving DecidableEq

structure TransferFields where
  cacheNamespace : CacheNamespace
  promptTokenIds : List TokenId
  verifiedCandidates : List VerifiedLmcacheCandidate
  handoff : RequestHandoffMetadata
  numComputedTokensBeforeStep : ℤ
  scheduledTokenCount : ℤ
  transferEligible : Bool
  storeEligible : Bool
  deriving DecidableEq

section
variable (sha256 : Bytes → Digest)

/-- The conditions on one candidate that all raise the same mismatch. -/
def CandidateAgrees (cacheNamespace : CacheNamespace) (prompt : List TokenId)
    (v : VerifiedLmcacheCandidate) : Prop :=
  v.candidate.targetRange = v.verified.targetSegment.tokenRange ∧
  v.candidate.cacheKey = v.verified.record.cacheKey ∧
  v.verified.targetSegment.tokenIds =
    (prompt.take v.candidate.targetRange.stop).drop v.candidate.targetRange.start ∧
  v.verified.record.tokenIds = v.verified.targetSegment.tokenIds ∧
  v.verified.record.fingerprint =
    fingerprint sha256 cacheNamespace v.verified.record.tokenIds

instance (cacheNamespace : CacheNamespace) (prompt : List TokenId)
    (v : VerifiedLmcacheCandidate) :
    Decidable (CandidateAgrees sha256 cacheNamespace prompt v) :=
  inferInstanceAs (Decidable (_ ∧ _))

def checkCandidates (cacheNamespace : CacheNamespace) (prompt : List TokenId) :
    ℕ → List VerifiedLmcacheCandidate → Except TransferRuntimeErrorCode Unit
  | _, [] => .ok ()
  | previousEnd, v::rest => do
    require (v.candidate.targetRange.size = lmcacheChunkSize) .candidateChunkMismatch
    require (v.candidate.targetRange.stop ≤ prompt.length) .candidateMismatch
    require (previousEnd ≤ v.candidate.targetRange.start) .candidateOverlap
    require (v.candidate.queryDigest = queryDigest sha256 prompt) .candidateMismatch
    require (v.verified.record.cacheNamespace = cacheNamespace) .namespaceMismatch
    require (CandidateAgrees sha256 cacheNamespace prompt v) .candidateMismatch
    checkCandidates cacheNamespace prompt v.candidate.targetRange.stop rest

/-- `SchedulerTransferMetadata.__post_init__`. -/
def checkTransfer (f : TransferFields) : Except TransferRuntimeErrorCode Unit := do
  require (f.promptTokenIds ≠ [] ∧
    f.promptTokenIds.length ≤ HybridLayout.gptOssMaxContextTokens) .invalidMetadata
  require (f.handoff.plan.externalSchedulerTokens = fullRecomputeExternalTokens ∧
    f.handoff.allocation.externalSchedulerTokens = fullRecomputeExternalTokens)
    .nonzeroExternalTokens
  require (f.numComputedTokensBeforeStep = 0) .notInitialPrefill
  require (f.scheduledTokenCount = f.promptTokenIds.length ∧
    f.handoff.plan.promptTokens = f.promptTokenIds.length) .incompleteFullPromptStep
  require (f.transferEligible = true → f.verifiedCandidates ≠ []) .invalidMetadata
  require (f.storeEligible = true → lmcacheChunkSize ≤ f.promptTokenIds.length) .invalidMetadata
  require (f.verifiedCandidates.map VerifiedLmcacheCandidate.verified =
    f.handoff.plan.matchPlan.verifiedMatches) .candidateMismatch
  checkCandidates sha256 f.cacheNamespace f.promptTokenIds 0 f.verifiedCandidates

structure SchedulerTransferMetadata extends TransferFields where
  valid : checkTransfer sha256 toTransferFields = .ok ()
  deriving DecidableEq

def SchedulerTransferMetadata.new (fields : TransferFields) :
    Except TransferRuntimeErrorCode (SchedulerTransferMetadata sha256) :=
  match h : checkTransfer sha256 fields with
  | .error code => .error code
  | .ok () => .ok ⟨fields, h⟩

theorem SchedulerTransferMetadata.new_of_valid {fields : TransferFields}
    (h : checkTransfer sha256 fields = .ok ()) :
    SchedulerTransferMetadata.new sha256 fields = .ok ⟨fields, h⟩ := by
  unfold SchedulerTransferMetadata.new
  split
  · next code he =>
    rw [h] at he
    cases he
  · rfl

end

variable {sha256 : Bytes → Digest}

def SchedulerTransferMetadata.requestId (m : SchedulerTransferMetadata sha256) : String :=
  m.handoff.plan.requestId

def SchedulerTransferMetadata.promptTokenCount (m : SchedulerTransferMetadata sha256) : ℕ :=
  m.promptTokenIds.length

def SchedulerTransferMetadata.completeStoreTokenCount (m : SchedulerTransferMetadata sha256) :
    ℕ :=
  m.promptTokenCount/lmcacheChunkSize*lmcacheChunkSize

inductive TransferAttemptState where
  | notEligible
  | succeeded
  | fullPrefillFallback
  deriving DecidableEq

inductive TransferFallbackCode where
  | loadPlanRejected
  | loadPreflightFailed
  | retrieveFailed
  | retrieveReceiptInvalid
  | scatterFailed
  | storePlanRejected
  | storePreflightFailed
  | gatherFailed
  | storeFailed
  | storeReceiptInvalid
  | sidecarPublishFailed
  deriving DecidableEq

structure LmcacheRetrieveReceipt where
  retrievedTokens : ℕ
  retrievedChunks : ℕ
  deriving DecidableEq

structure PreForwardOutcome (sha256 : Bytes → Digest) where
  metadata : SchedulerTransferMetadata sha256
  state : TransferAttemptState
  failureCode : Option TransferFallbackCode
  loadedCandidateIndexes : List ℕ
  rejectedCandidateIndexes : List ℕ
  loadedKvTokens : ℕ
  tokensToRecompute : ℕ
  deriving DecidableEq

def candidateTokens (m : SchedulerTransferMetadata sha256) (indexes : List ℕ) : ℕ :=
  ((indexes.filterMap (m.verifiedCandidates[·]?)).map
    (fun v => v.candidate.targetRange.size)).sum

/-- The conditions of `PreForwardOutcome.__post_init__`. -/
def PreForwardOutcome.Consistent (o : PreForwardOutcome sha256) : Prop :=
  o.loadedCandidateIndexes.Nodup ∧ o.rejectedCandidateIndexes.Nodup ∧
  (∀ i ∈ o.loadedCandidateIndexes, i ∉ o.rejectedCandidateIndexes) ∧
  sortedBy id (o.loadedCandidateIndexes ++ o.rejectedCandidateIndexes) =
    List.range o.metadata.verifiedCandidates.length ∧
  o.tokensToRecompute = o.metadata.promptTokenCount ∧
  match o.state with
  | .succeeded => o.metadata.transferEligible = true ∧ o.failureCode = none ∧
    o.loadedCandidateIndexes = List.range o.metadata.verifiedCandidates.length ∧
    o.rejectedCandidateIndexes = [] ∧
    o.loadedKvTokens = candidateTokens o.metadata o.loadedCandidateIndexes
  | .notEligible => o.loadedCandidateIndexes = [] ∧
    o.rejectedCandidateIndexes = List.range o.metadata.verifiedCandidates.length ∧
    o.loadedKvTokens = 0 ∧ o.metadata.transferEligible = false ∧ o.failureCode = none
  | .fullPrefillFallback => o.loadedCandidateIndexes = [] ∧
    o.rejectedCandidateIndexes = List.range o.metadata.verifiedCandidates.length ∧
    o.loadedKvTokens = 0 ∧ o.failureCode ≠ none

instance (o : PreForwardOutcome sha256) : Decidable o.Consistent := by
  unfold PreForwardOutcome.Consistent
  cases o.state <;> infer_instance

def PreForwardOutcome.checked (o : PreForwardOutcome sha256) :
    Except TransferRuntimeErrorCode (PreForwardOutcome sha256) :=
  if o.Consistent then .ok o else .error .invalidOutcome

def PreForwardOutcome.toWorkerValidationReceipt (o : PreForwardOutcome sha256) :
    Except ControlPlaneErrorCode WorkerValidationReceipt :=
  WorkerValidationReceipt.new o.metadata.requestId o.metadata.handoff.allocation
    (o.loadedCandidateIndexes.map Int.ofNat) (o.rejectedCandidateIndexes.map Int.ofNat)

def nothingLoaded (m : SchedulerTransferMetadata sha256) (state : TransferAttemptState)
    (failureCode : Option TransferFallbackCode) :
    Except TransferRuntimeErrorCode (PreForwardOutcome sha256) :=
  PreForwardOutcome.checked ⟨m, state, failureCode, [],
    List.range m.verifiedCandidates.length, 0, m.promptTokenCount⟩

/-- What the scatter planner, the storage and the data plane answer to one
load attempt: whether every candidate can be scattered to the tables, whether
the preflight passes, the retrieval receipt, and whether the scatter returns. -/
structure LoadAnswers where
  scatterPlanned : Bool
  preflight : Bool
  retrieved : Option LmcacheRetrieveReceipt
  scattered : Bool
  deriving DecidableEq

/-- `before_forward`. -/
def beforeForward (answers : LoadAnswers) (m : SchedulerTransferMetadata sha256)
    (adaptedBlocks : AdaptedKvCacheBlocks) :
    Except TransferRuntimeErrorCode (PreForwardOutcome sha256) :=
  if adaptedBlocks.groupedAllocation ≠ m.handoff.allocation.groupedBlocks ∨
      answers.scatterPlanned = false then
    nothingLoaded m .fullPrefillFallback (some .loadPlanRejected)
  else if m.transferEligible = false then nothingLoaded m .notEligible none
  else if answers.preflight = false then
    nothingLoaded m .fullPrefillFallback (some .loadPreflightFailed)
  else match answers.retrieved with
  | none => nothingLoaded m .fullPrefillFallback (some .retrieveFailed)
  | some receipt =>
    if receipt.retrievedTokens ≠ tokenTotalOf m ∨
        receipt.retrievedChunks ≠ m.verifiedCandidates.length then
      nothingLoaded m .fullPrefillFallback (some .retrieveReceiptInvalid)
    else if answers.scattered = false then
      nothingLoaded m .fullPrefillFallback (some .scatterFailed)
    else PreForwardOutcome.checked ⟨m, .succeeded, none,
      List.range m.verifiedCandidates.length, [], tokenTotalOf m, m.promptTokenCount⟩
where
  /-- `WorkerLoadPlan.expected_tokens`. -/
  tokenTotalOf (m : SchedulerTransferMetadata sha256) : ℕ :=
    (m.verifiedCandidates.map (fun v => v.candidate.targetRange.size)).sum

structure LmcacheStoreReceipt where
  storedTokens : ℕ
  storedChunks : ℕ
  candidateLookupRequired : Bool
  sidecarRecords : List CacheRecord
  deriving DecidableEq

structure StoreChunkWork where
  chunkIndex : ℕ
  tokenRange : TokenRange
  tokenIds : List TokenId
  deriving DecidableEq

structure WorkerStorePlan (sha256 : Bytes → Digest) where
  metadata : SchedulerTransferMetadata sha256
  adaptedBlocks : AdaptedKvCacheBlocks
  chunks : List StoreChunkWork
  deriving DecidableEq

def WorkerStorePlan.expectedChunks (p : WorkerStorePlan sha256) : ℕ := p.chunks.length

def WorkerStorePlan.expectedTokens (p : WorkerStorePlan sha256) : ℕ :=
  p.chunks.length*lmcacheChunkSize

def WorkerStorePlan.tokenIds (p : WorkerStorePlan sha256) : List TokenId :=
  p.metadata.promptTokenIds.take p.expectedTokens

def WorkerStorePlan.sourceRange (p : WorkerStorePlan sha256) : TokenRange :=
  ⟨0, p.expectedTokens, Nat.zero_le _⟩

def chunkWork (prompt : List TokenId) (chunkIndex : ℕ) : StoreChunkWork where
  chunkIndex := chunkIndex
  tokenRange := ⟨chunkIndex*lmcacheChunkSize, chunkIndex*lmcacheChunkSize+lmcacheChunkSize,
    Nat.le_add_right _ _⟩
  tokenIds := (prompt.take (chunkIndex*lmcacheChunkSize+lmcacheChunkSize)).drop
    (chunkIndex*lmcacheChunkSize)

/-- `_build_store_plan`; `gatherPlanned` says whether the planner finds a
gather plan for every chunk. -/
def buildStorePlan (gatherPlanned : Bool) (m : SchedulerTransferMetadata sha256)
    (adaptedBlocks : AdaptedKvCacheBlocks) : Option (WorkerStorePlan sha256) :=
  if adaptedBlocks.groupedAllocation ≠ m.handoff.allocation.groupedBlocks ∨
      gatherPlanned = false ∨ m.completeStoreTokenCount = 0 then none
  else some ⟨m, adaptedBlocks,
    (List.range (m.promptTokenCount/lmcacheChunkSize)).map (chunkWork m.promptTokenIds)⟩

def lowerHex (c : Char) : Bool := c ∈ "0123456789abcdef".toList

/-- The conditions of `_valid_store_receipt` on one chunk and its record. -/
def RecordValid (sha256 : Bytes → Digest) (cacheNamespace : CacheNamespace)
    (chunk : StoreChunkWork) (r : CacheRecord) : Prop :=
  r.cacheNamespace = cacheNamespace ∧ r.tokenIds = chunk.tokenIds ∧
  r.sourceRange = chunk.tokenRange ∧
  r.fingerprint = fingerprint sha256 cacheNamespace chunk.tokenIds ∧
  lmcacheCacheKeyPrefix.toList <+: r.cacheKey.toList ∧
  (r.cacheKey.toList.drop lmcacheCacheKeyPrefix.length).length = 64 ∧
  ∀ c ∈ r.cacheKey.toList.drop lmcacheCacheKeyPrefix.length, lowerHex c = true

instance (cacheNamespace : CacheNamespace) (chunk : StoreChunkWork) (r : CacheRecord) :
    Decidable (RecordValid sha256 cacheNamespace chunk r) :=
  inferInstanceAs (Decidable (_ ∧ _))

/-- `_valid_store_receipt`. -/
def ReceiptValid (receipt : LmcacheStoreReceipt) (p : WorkerStorePlan sha256) : Prop :=
  receipt.storedTokens = p.expectedTokens ∧ receipt.storedChunks = p.expectedChunks ∧
  receipt.candidateLookupRequired = true ∧
  receipt.sidecarRecords.length = p.expectedChunks ∧
  ∀ e ∈ p.chunks.zip receipt.sidecarRecords,
    RecordValid sha256 p.metadata.cacheNamespace e.1 e.2

instance (receipt : LmcacheStoreReceipt) (p : WorkerStorePlan sha256) :
    Decidable (ReceiptValid receipt p) := inferInstanceAs (Decidable (_ ∧ _))

structure PostForwardOutcome where
  state : TransferAttemptState
  failureCode : Option TransferFallbackCode
  eligibleStoreTokens : ℕ
  storedTokens : ℕ
  storedChunks : ℕ
  sidecarRecordsAvailable : ℕ
  sidecarRecordsInserted : ℕ
  deriving DecidableEq

/-- `PostForwardOutcome.__post_init__`; the completion is the metadata of a
prompt whose every token was recomputed. -/
def PostForwardOutcome.Consistent (m : SchedulerTransferMetadata sha256)
    (o : PostForwardOutcome) : Prop :=
  o.eligibleStoreTokens = (if m.storeEligible = true then m.completeStoreTokenCount else 0) ∧
  match o.state with
  | .succeeded => m.storeEligible = true ∧ o.failureCode = none ∧
    o.storedTokens = o.eligibleStoreTokens ∧
    o.storedChunks = o.eligibleStoreTokens/lmcacheChunkSize ∧
    o.sidecarRecordsAvailable = o.eligibleStoreTokens/lmcacheChunkSize ∧
    o.sidecarRecordsInserted ≤ o.eligibleStoreTokens/lmcacheChunkSize
  | .notEligible => o.storedTokens = 0 ∧ o.storedChunks = 0 ∧
    o.sidecarRecordsAvailable = 0 ∧ o.sidecarRecordsInserted = 0 ∧
    m.storeEligible = false ∧ o.failureCode = none
  | .fullPrefillFallback => o.storedTokens = 0 ∧ o.storedChunks = 0 ∧
    o.sidecarRecordsAvailable = 0 ∧ o.sidecarRecordsInserted = 0 ∧ o.failureCode ≠ none

instance (m : SchedulerTransferMetadata sha256) (o : PostForwardOutcome) :
    Decidable (PostForwardOutcome.Consistent m o) := by
  unfold PostForwardOutcome.Consistent
  cases o.state <;> infer_instance

def PostForwardOutcome.checked (m : SchedulerTransferMetadata sha256) (o : PostForwardOutcome) :
    Except TransferRuntimeErrorCode PostForwardOutcome :=
  if PostForwardOutcome.Consistent m o then .ok o else .error .invalidOutcome

/-- The storage and data plane that `after_forward` works with. A step either
returns or raises, and can change the world of type `σ`. -/
structure StoreWorld (sha256 : Bytes → Digest) (σ : Type) where
  gatherPlanned : Bool
  preflight : WorkerStorePlan sha256 → Call σ Unit Unit
  gather : WorkerStorePlan sha256 → Call σ Unit Unit
  store : WorkerStorePlan sha256 → Call σ Unit LmcacheStoreReceipt
  publish : List CacheRecord → Call σ Unit ℤ

section
variable {σ : Type}

def storeOutcome (m : SchedulerTransferMetadata sha256) (state : TransferAttemptState)
    (failureCode : Option TransferFallbackCode) :
    Call σ TransferRuntimeErrorCode PostForwardOutcome :=
  Call.lift (PostForwardOutcome.checked m ⟨state, failureCode,
    if m.storeEligible = true then m.completeStoreTokenCount else 0, 0, 0, 0, 0⟩)

/-- A step of the store attempt: if it raises, the attempt falls back. -/
def orFallback {α : Type} (m : SchedulerTransferMetadata sha256) (code : TransferFallbackCode)
    (step : Call σ Unit α) (next : α → Call σ TransferRuntimeErrorCode PostForwardOutcome) :
    Call σ TransferRuntimeErrorCode PostForwardOutcome := fun s =>
  match step s with
  | (.ok a, s') => next a s'
  | (.error _, s') => storeOutcome m .fullPrefillFallback (some code) s'

/-- `after_forward`. -/
def afterForward (world : StoreWorld sha256 σ) (m : SchedulerTransferMetadata sha256)
    (adaptedBlocks : AdaptedKvCacheBlocks) :
    Call σ TransferRuntimeErrorCode PostForwardOutcome :=
  if m.storeEligible = false then storeOutcome m .notEligible none
  else match buildStorePlan world.gatherPlanned m adaptedBlocks with
  | none => storeOutcome m .fullPrefillFallback (some .storePlanRejected)
  | some p =>
    orFallback m .storePreflightFailed (world.preflight p) fun _ =>
    orFallback m .gatherFailed (world.gather p) fun _ =>
    orFallback m .storeFailed (world.store p) fun receipt =>
    if ReceiptValid receipt p then
      orFallback m .sidecarPublishFailed (world.publish receipt.sidecarRecords) fun inserted =>
      if inserted < 0 ∨ inserted > receipt.sidecarRecords.length then
        storeOutcome m .fullPrefillFallback (some .sidecarPublishFailed)
      else Call.lift (PostForwardOutcome.checked m ⟨.succeeded, none,
        m.completeStoreTokenCount, receipt.storedTokens, receipt.storedChunks,
        receipt.sidecarRecords.length, inserted.toNat⟩)
    else storeOutcome m .fullPrefillFallback (some .storeReceiptInvalid)

end

end CacheBlend.TransferRuntime
