import CacheBlend.PlannerModels

/-!
# The lifecycle of one request

A request plan is bound to one generation of block tables, handed to the
worker, and completed by a worker receipt. Every value checks its own
construction. The lifecycle state also checks itself after each transition,
and an error raised by that check is told apart from an error raised by the
transition, so that the first kind can be shown never to occur.
-/

set_option autoImplicit false

namespace CacheBlend.RequestLifecycle
open CacheBlend.PlannerModels

def metadataSchemaVersion : ℤ := 1
def fullRecomputeExternalTokens : ℤ := 0

inductive RequestPhase where
  | lookedUp
  | allocated
  | handedOff
  | workerValidated
  | finished
  deriving DecidableEq

inductive ControlPlaneErrorCode where
  | unknownRequest
  | duplicateRequestConflict
  | lifecycleMisuse
  | invalidRequestPlan
  | invalidGroupLayout
  | groupCountMismatch
  | groupLayoutMismatch
  | invalidBlockId
  | nonzeroExternalTokens
  | metadataSchemaMismatch
  | staleAllocation
  | invalidWorkerResult
  deriving DecidableEq

/-- Whether an error was raised by an operation or by the constructor check
of `RequestLifecycleState`. -/
inductive Raiser where
  | operation
  | lifecycleState
  deriving DecidableEq

structure ControlPlaneError where
  code : ControlPlaneErrorCode
  raiser : Raiser
  deriving DecidableEq

def raised {α : Type} (x : Except ControlPlaneErrorCode α) : Except ControlPlaneError α :=
  x.mapError (fun code => ⟨code, .operation⟩)

def fail {α : Type} (code : ControlPlaneErrorCode) : Except ControlPlaneError α :=
  .error ⟨code, .operation⟩

abbrev SegmentSortKey := ℕ ×ₗ ℕ ×ₗ List TokenId

def segmentSortKey (s : TokenSegment) : SegmentSortKey :=
  toLex (s.tokenRange.start, toLex (s.tokenRange.stop, s.tokenIds))

structure CacheGroupLayout where
  layerNamesByGroup : List (List String)
  nonempty : layerNamesByGroup ≠ []
  groups_nonempty : ∀ group ∈ layerNamesByGroup, group ≠ []
  names_nonempty : ∀ name ∈ layerNamesByGroup.flatten, name ≠ ""
  names_nodup : layerNamesByGroup.flatten.Nodup
  deriving DecidableEq

def CacheGroupLayout.groupCount (l : CacheGroupLayout) : ℕ := l.layerNamesByGroup.length

structure GroupBlockSnapshot where
  groupIndex : ℕ
  layerNames : List String
  blockIds : List ℕ
  layers_nonempty : layerNames ≠ []
  names_nonempty : ∀ name ∈ layerNames, name ≠ ""
  blocks_nodup : blockIds.Nodup
  deriving DecidableEq

def GroupBlockSnapshot.new (groupIndex : ℕ) (layerNames : List String) (blockIds : List ℤ) :
    Except ControlPlaneErrorCode GroupBlockSnapshot :=
  if hl : layerNames ≠ [] ∧ ∀ name ∈ layerNames, name ≠ "" then
    if ∃ blockId ∈ blockIds, blockId < 0 then .error .invalidBlockId
    else if hb : (blockIds.map Int.toNat).Nodup then
      .ok ⟨groupIndex, layerNames, blockIds.map Int.toNat, hl.1, hl.2, hb⟩
    else .error .invalidBlockId
  else .error .invalidGroupLayout

structure GroupedBlockAllocation where
  groupLayout : CacheGroupLayout
  groups : List GroupBlockSnapshot
  indexes : groups.map GroupBlockSnapshot.groupIndex = List.range groupLayout.groupCount
  layers : groups.map GroupBlockSnapshot.layerNames = groupLayout.layerNamesByGroup
  deriving DecidableEq

def GroupedBlockAllocation.new (groupLayout : CacheGroupLayout)
    (groups : List GroupBlockSnapshot) :
    Except ControlPlaneErrorCode GroupedBlockAllocation :=
  if groups.length ≠ groupLayout.groupCount then .error .groupCountMismatch
  else if hi : groups.map GroupBlockSnapshot.groupIndex =
      List.range groupLayout.groupCount then
    if hn : groups.map GroupBlockSnapshot.layerNames = groupLayout.layerNamesByGroup then
      .ok ⟨groupLayout, groups, hi, hn⟩
    else .error .groupLayoutMismatch
  else .error .invalidGroupLayout

def captureGroups : ℕ → List (List String) → List (List ℤ) →
    Except ControlPlaneErrorCode (List GroupBlockSnapshot)
  | groupIndex, layerNames::layers, blockIds::tables => do
    let group ← GroupBlockSnapshot.new groupIndex layerNames blockIds
    let groups ← captureGroups (groupIndex+1) layers tables
    .ok (group::groups)
  | _, _, _ => .ok []

def GroupedBlockAllocation.capture (groupLayout : CacheGroupLayout)
    (blockIdsByGroup : List (List ℤ)) :
    Except ControlPlaneErrorCode GroupedBlockAllocation :=
  if blockIdsByGroup.length ≠ groupLayout.groupCount then .error .groupCountMismatch
  else do
    let groups ← captureGroups 0 groupLayout.layerNamesByGroup blockIdsByGroup
    GroupedBlockAllocation.new groupLayout groups

def GroupedBlockAllocation.blockIdsByGroup (a : GroupedBlockAllocation) : List (List ℕ) :=
  a.groups.map GroupBlockSnapshot.blockIds

/-- The loop over the matches of a plan, with the ranges and the sort key of
the matches already passed. -/
def checkMatches (queries : List TokenSegment) :
    List TokenRange → Option SegmentSortKey → List VerifiedMatch →
      Except ControlPlaneErrorCode Unit
  | _, _, [] => .ok ()
  | matchedRanges, previous, m::rest => do
    require (m.targetSegment ∈ queries) .invalidRequestPlan
    require (m.targetSegment.tokenIds = m.record.tokenIds) .invalidRequestPlan
    require (m.candidate.queryFingerprint = m.record.fingerprint) .invalidRequestPlan
    require (∀ r ∈ matchedRanges, ¬m.targetSegment.tokenRange.Overlaps r) .invalidRequestPlan
    require (∀ key ∈ previous, ¬segmentSortKey m.targetSegment < key) .invalidRequestPlan
    checkMatches queries (matchedRanges ++ [m.targetSegment.tokenRange])
      (some (segmentSortKey m.targetSegment)) rest

def checkRequestPlan (requestId : String) (promptTokens : ℤ)
    (queries : List TokenSegment) (matchPlan : MatchPlan) :
    Except ControlPlaneErrorCode Unit := do
  require (requestId ≠ "") .invalidRequestPlan
  require (0 ≤ promptTokens) .invalidRequestPlan
  require queries.Nodup .invalidRequestPlan
  require (∀ s ∈ queries, (s.tokenRange.stop : ℤ) ≤ promptTokens) .invalidRequestPlan
  require (matchPlan.requestedTokens =
    coveredTokenCount (queries.map TokenSegment.tokenRange)) .invalidRequestPlan
  require (0 ≤ matchPlan.matchedTokens ∧
    (matchPlan.matchedTokens : ℤ) ≤ matchPlan.requestedTokens) .invalidRequestPlan
  checkMatches queries [] none matchPlan.verifiedMatches
  require (∀ r ∈ matchPlan.rejectedCandidates, r.candidate.targetSegment ∈ queries)
    .invalidRequestPlan

structure RequestPlan where
  requestId : String
  promptTokens : ℤ
  querySegments : List TokenSegment
  matchPlan : MatchPlan
  sorted : sortedBy segmentSortKey querySegments = querySegments
  valid : checkRequestPlan requestId promptTokens querySegments matchPlan = .ok ()
  deriving DecidableEq

def RequestPlan.new (requestId : String) (promptTokens : ℤ)
    (querySegments : List TokenSegment) (matchPlan : MatchPlan) :
    Except ControlPlaneErrorCode RequestPlan :=
  match h : checkRequestPlan requestId promptTokens
      (sortedBy segmentSortKey querySegments) matchPlan with
  | .error code => .error code
  | .ok () => .ok ⟨requestId, promptTokens, sortedBy segmentSortKey querySegments, matchPlan,
      sortedBy_idem segmentSortKey querySegments, h⟩

def RequestPlan.externalSchedulerTokens (_ : RequestPlan) : ℤ := fullRecomputeExternalTokens

structure RequestAllocation where
  requestId : String
  allocationGeneration : ℕ
  groupedBlocks : GroupedBlockAllocation
  externalSchedulerTokens : ℤ
  id_nonempty : requestId ≠ ""
  external_zero : externalSchedulerTokens = fullRecomputeExternalTokens

instance : DecidableEq RequestAllocation := fun a b =>
  decidable_of_iff (a.requestId = b.requestId ∧ a.allocationGeneration = b.allocationGeneration ∧
    a.groupedBlocks = b.groupedBlocks ∧ a.externalSchedulerTokens = b.externalSchedulerTokens) (by
      cases a
      cases b
      simp only [RequestAllocation.mk.injEq])

def RequestAllocation.new (requestId : String) (allocationGeneration : ℕ)
    (groupedBlocks : GroupedBlockAllocation) (externalSchedulerTokens : ℤ) :
    Except ControlPlaneErrorCode RequestAllocation :=
  if hi : requestId = "" then .error .invalidRequestPlan
  else if he : externalSchedulerTokens = fullRecomputeExternalTokens then
    .ok ⟨requestId, allocationGeneration, groupedBlocks, externalSchedulerTokens, hi, he⟩
  else .error .nonzeroExternalTokens

structure RequestHandoffMetadata where
  schemaVersion : ℤ
  plan : RequestPlan
  allocation : RequestAllocation
  schema_eq : schemaVersion = metadataSchemaVersion
  id_eq : plan.requestId = allocation.requestId
  deriving DecidableEq

def RequestHandoffMetadata.new (schemaVersion : ℤ) (plan : RequestPlan)
    (allocation : RequestAllocation) :
    Except ControlPlaneErrorCode RequestHandoffMetadata :=
  if hs : schemaVersion = metadataSchemaVersion then
    if hi : plan.requestId = allocation.requestId then
      if plan.externalSchedulerTokens = allocation.externalSchedulerTokens then
        .ok ⟨schemaVersion, plan, allocation, hs, hi⟩
      else .error .nonzeroExternalTokens
    else .error .invalidRequestPlan
  else .error .metadataSchemaMismatch

abbrev MatchIndexes := {indexes : List ℕ // indexes.Pairwise (· < ·)}

theorem sorted_increasing (indexes : List ℕ) (h : indexes.Nodup) :
    (sortedBy id indexes).Pairwise (· < ·) := by
  have hn : (sortedBy id indexes).Nodup := (sortedBy_perm id indexes).nodup_iff.mpr h
  exact (sortedBy_pairwise id indexes).imp₂ (fun _ _ hle hne => lt_of_le_of_ne hle hne) hn

def normalizeMatchIndexes (indexes : List ℤ) : Except ControlPlaneErrorCode MatchIndexes :=
  if ∃ index ∈ indexes, index < 0 then .error .invalidWorkerResult
  else if h : (indexes.map Int.toNat).Nodup then
    .ok ⟨sortedBy id (indexes.map Int.toNat), sorted_increasing _ h⟩
  else .error .invalidWorkerResult

structure WorkerValidationReceipt where
  requestId : String
  allocation : RequestAllocation
  loadedMatchIndexes : MatchIndexes
  rejectedMatchIndexes : MatchIndexes
  id_eq : requestId = allocation.requestId
  disjoint : loadedMatchIndexes.val.Disjoint rejectedMatchIndexes.val
  deriving DecidableEq

def WorkerValidationReceipt.indexes (r : WorkerValidationReceipt) : List ℕ :=
  r.loadedMatchIndexes.val ++ r.rejectedMatchIndexes.val

def WorkerValidationReceipt.new (requestId : String) (allocation : RequestAllocation)
    (loadedMatchIndexes rejectedMatchIndexes : List ℤ) :
    Except ControlPlaneErrorCode WorkerValidationReceipt :=
  if hi : requestId = allocation.requestId then do
    let loaded ← normalizeMatchIndexes loadedMatchIndexes
    let rejected ← normalizeMatchIndexes rejectedMatchIndexes
    if hd : ∀ index ∈ loaded.val, index ∉ rejected.val then
      .ok ⟨requestId, allocation, loaded, rejected, hi, fun _ h => hd _ h⟩
    else .error .invalidWorkerResult
  else .error .invalidWorkerResult

structure LifecycleFields where
  plan : RequestPlan
  phase : RequestPhase
  allocationGeneration : ℕ
  allocation : Option RequestAllocation
  handoffMetadata : Option RequestHandoffMetadata
  workerValidation : Option WorkerValidationReceipt
  preemptionCount : ℕ
  deriving DecidableEq

/-- `RequestLifecycleState.__post_init__`. -/
def postInit (f : LifecycleFields) : Except ControlPlaneErrorCode Unit :=
  if f.phase = .lookedUp then
    require (f.allocation = none ∧ f.handoffMetadata = none ∧ f.workerValidation = none)
      .lifecycleMisuse
  else match f.allocation with
  | none => .error .lifecycleMisuse
  | some allocation => do
    require (allocation.requestId = f.plan.requestId) .invalidRequestPlan
    require (allocation.allocationGeneration = f.allocationGeneration) .staleAllocation
    if f.phase = .allocated then
      require (f.handoffMetadata = none ∧ f.workerValidation = none) .lifecycleMisuse
    else match f.handoffMetadata with
    | none => .error .lifecycleMisuse
    | some handoff => do
      require (handoff.plan = f.plan ∧ handoff.allocation = allocation) .staleAllocation
      if f.phase = .handedOff then require (f.workerValidation = none) .lifecycleMisuse
      else match f.workerValidation with
      | none => .error .lifecycleMisuse
      | some receipt => require (receipt.allocation = allocation) .staleAllocation

structure RequestLifecycleState extends LifecycleFields where
  valid : postInit toLifecycleFields = .ok ()
  deriving DecidableEq

def RequestLifecycleState.new (fields : LifecycleFields) :
    Except ControlPlaneError RequestLifecycleState :=
  match h : postInit fields with
  | .error code => .error ⟨code, .lifecycleState⟩
  | .ok () => .ok ⟨fields, h⟩

namespace RequestLifecycleState

/-- A state with only its plan given, every other field at its default. -/
def ofPlan (plan : RequestPlan) : Except ControlPlaneError RequestLifecycleState :=
  new ⟨plan, .lookedUp, 0, none, none, none, 0⟩

def fromHandoff (metadata : RequestHandoffMetadata) (expectedGroupLayout : CacheGroupLayout) :
    Except ControlPlaneError RequestLifecycleState :=
  if metadata.schemaVersion ≠ metadataSchemaVersion then fail .metadataSchemaMismatch
  else if metadata.allocation.groupedBlocks.groupLayout ≠ expectedGroupLayout then
    fail .groupLayoutMismatch
  else new ⟨metadata.plan, .handedOff, metadata.allocation.allocationGeneration,
    some metadata.allocation, some metadata, none, 0⟩

def allocate (s : RequestLifecycleState) (groupLayout : CacheGroupLayout)
    (blockIdsByGroup : List (List ℤ)) (externalSchedulerTokens : ℤ) :
    Except ControlPlaneError RequestLifecycleState :=
  if externalSchedulerTokens ≠ fullRecomputeExternalTokens then fail .nonzeroExternalTokens
  else do
    let groupedBlocks ← raised (GroupedBlockAllocation.capture groupLayout blockIdsByGroup)
    let candidate ← raised (RequestAllocation.new s.plan.requestId s.allocationGeneration
      groupedBlocks externalSchedulerTokens)
    if s.phase = .lookedUp then
      new { s.toLifecycleFields with phase := .allocated, allocation := some candidate }
    else if s.allocation = some candidate then .ok s
    else if s.phase = .finished then fail .lifecycleMisuse
    else fail .duplicateRequestConflict

def handoff (s : RequestLifecycleState) : Except ControlPlaneError RequestLifecycleState :=
  if s.phase = .handedOff ∨ s.phase = .workerValidated ∨ s.phase = .finished then
    if s.handoffMetadata = none then fail .lifecycleMisuse else .ok s
  else match s.phase, s.allocation with
  | .allocated, some allocation => do
    let metadata ← raised (RequestHandoffMetadata.new metadataSchemaVersion s.plan allocation)
    new { s.toLifecycleFields with phase := .handedOff, handoffMetadata := some metadata }
  | _, _ => fail .lifecycleMisuse

def expectedIndexes (plan : RequestPlan) : List ℕ :=
  List.range plan.matchPlan.verifiedMatches.length

/-- The receipt disposes of every match of the plan and of nothing else. -/
def Complete (plan : RequestPlan) (receipt : WorkerValidationReceipt) : Prop :=
  (∀ index ∈ receipt.indexes, index ∈ expectedIndexes plan) ∧
  ∀ index ∈ expectedIndexes plan, index ∈ receipt.indexes

instance (plan : RequestPlan) (receipt : WorkerValidationReceipt) :
    Decidable (Complete plan receipt) := inferInstanceAs (Decidable (_ ∧ _))

def applyWorkerValidation (s : RequestLifecycleState) (receipt : WorkerValidationReceipt) :
    Except ControlPlaneError RequestLifecycleState :=
  if receipt.requestId ≠ s.plan.requestId then fail .duplicateRequestConflict
  else if receipt.allocation.allocationGeneration ≠ s.allocationGeneration then
    fail .staleAllocation
  else if some receipt.allocation ≠ s.allocation then fail .staleAllocation
  else if ¬Complete s.plan receipt then fail .invalidWorkerResult
  else match s.phase with
  | .handedOff =>
    new { s.toLifecycleFields with
      phase := .workerValidated, workerValidation := some receipt }
  | .workerValidated | .finished =>
    if s.workerValidation = some receipt then .ok s else fail .duplicateRequestConflict
  | _ => fail .lifecycleMisuse

def preempt (s : RequestLifecycleState) : Except ControlPlaneError RequestLifecycleState :=
  match s.phase with
  | .finished => fail .lifecycleMisuse
  | .lookedUp => .ok s
  | _ => new { s.toLifecycleFields with
      phase := .lookedUp
      allocationGeneration := s.allocationGeneration+1
      allocation := none
      handoffMetadata := none
      workerValidation := none
      preemptionCount := s.preemptionCount+1 }

def finish (s : RequestLifecycleState) : Except ControlPlaneError RequestLifecycleState :=
  match s.phase with
  | .finished => .ok s
  | .workerValidated => new { s.toLifecycleFields with phase := .finished }
  | _ => fail .lifecycleMisuse

end RequestLifecycleState

end CacheBlend.RequestLifecycle
