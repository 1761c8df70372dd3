import CacheBlend.Calls
import CacheBlend.Dict
import CacheBlend.RequestTransitions

/-!
# The control plane of a scheduler or worker process

A control plane owns one lifecycle state per request. Every operation reads
one state, applies one transition and stores the result under the same
request, so a raised error leaves the plane as it was. Scheduler and worker
planes have the same operations.
-/

set_option autoImplicit false

namespace CacheBlend.ControlPlane
open CacheBlend.PlannerModels CacheBlend.RequestLifecycle CacheBlend.RequestTransitions

structure RequestControlPlane where
  groupLayout : CacheGroupLayout
  states : Dict String RequestLifecycleState
  deriving DecidableEq

abbrev PlaneCall (α : Type) : Type := Call RequestControlPlane ControlPlaneError α

namespace RequestControlPlane

def new (groupLayout : CacheGroupLayout) : RequestControlPlane := ⟨groupLayout, Dict.empty⟩

def put (p : RequestControlPlane) (requestId : String) (s : RequestLifecycleState) :
    RequestControlPlane :=
  { p with states := p.states.set requestId s }

def requireState (requestId : String) : PlaneCall RequestLifecycleState := fun p =>
  match p.states.get? requestId with
  | some s => (.ok s, p)
  | none => (fail .unknownRequest, p)

/-- The pattern of every operation on a known request: its state is read, one
transition is applied, and the result is stored. -/
def updateState (requestId : String)
    (transition : RequestLifecycleState → Except ControlPlaneError RequestLifecycleState) :
    PlaneCall RequestLifecycleState := do
  let s ← requireState requestId
  let s' ← Call.lift (transition s)
  Call.modify (fun p => p.put requestId s')
  pure s'

def state (requestId : String) : PlaneCall RequestLifecycleState := requireState requestId

def lookup (requestId : String) (promptTokens : ℤ) (querySegments : List TokenSegment)
    (matchPlan : MatchPlan) : PlaneCall RequestLifecycleState := do
  let plan ← Call.lift (raised (RequestPlan.new requestId promptTokens querySegments matchPlan))
  let p ← Call.read
  match p.states.get? requestId with
  | some existing =>
    if existing.plan = plan then pure existing
    else Call.lift (fail .duplicateRequestConflict)
  | none => do
    let s ← Call.lift (RequestLifecycleState.ofPlan plan)
    Call.modify (fun p => p.put requestId s)
    pure s

def externalSchedulerTokens (requestId : String) : PlaneCall ℤ := do
  let s ← requireState requestId
  pure s.plan.externalSchedulerTokens

def allocate (requestId : String) (blockIdsByGroup : List (List ℤ))
    (externalSchedulerTokens : ℤ) : PlaneCall RequestLifecycleState := do
  let p ← Call.read
  updateState requestId
    (fun s => s.allocate p.groupLayout blockIdsByGroup externalSchedulerTokens)

def handoff (requestId : String) : PlaneCall RequestHandoffMetadata := do
  let s ← updateState requestId RequestLifecycleState.handoff
  match s.handoffMetadata with
  | none => Call.lift (fail .lifecycleMisuse)
  | some metadata => pure metadata

def acceptHandoff (metadata : RequestHandoffMetadata) : PlaneCall RequestLifecycleState := do
  let p ← Call.read
  match p.states.get? metadata.plan.requestId with
  | some existing =>
    if existing.handoffMetadata = some metadata then pure existing
    else Call.lift (fail .duplicateRequestConflict)
  | none => do
    let s ← Call.lift (RequestLifecycleState.fromHandoff metadata p.groupLayout)
    Call.modify (fun p => p.put metadata.plan.requestId s)
    pure s

def validateWorker (requestId : String) (loadedMatchIndexes rejectedMatchIndexes : List ℤ) :
    PlaneCall WorkerValidationReceipt := do
  let s ← requireState requestId
  match s.allocation with
  | none => Call.lift (fail .lifecycleMisuse)
  | some allocation => do
    let receipt ← Call.lift (raised (WorkerValidationReceipt.new requestId allocation
      loadedMatchIndexes rejectedMatchIndexes))
    let s' ← Call.lift (s.applyWorkerValidation receipt)
    Call.modify (fun p => p.put requestId s')
    pure receipt

def applyWorkerValidation (receipt : WorkerValidationReceipt) :
    PlaneCall RequestLifecycleState :=
  updateState receipt.requestId (fun s => s.applyWorkerValidation receipt)

def preempt (requestId : String) : PlaneCall RequestLifecycleState :=
  updateState requestId RequestLifecycleState.preempt

def finish (requestId : String) : PlaneCall RequestLifecycleState :=
  updateState requestId RequestLifecycleState.finish

def discard (requestId : String) : PlaneCall (Option RequestLifecycleState) := fun p =>
  (.ok (p.states.get? requestId), { p with states := p.states.erase requestId })

end RequestControlPlane

open RequestControlPlane

theorem put_get? (p : RequestControlPlane) (id id' : String) (s : RequestLifecycleState) :
    (p.put id s).states.get? id' = if id' = id then some s else p.states.get? id' :=
  Dict.get?_set p.states id id' s

@[simp] theorem put_get?_self (p : RequestControlPlane) (id : String)
    (s : RequestLifecycleState) : (p.put id s).states.get? id = some s :=
  Dict.get?_set_self p.states id s

theorem put_get?_ne (p : RequestControlPlane) {id id' : String} (s : RequestLifecycleState)
    (h : id' ≠ id) : (p.put id s).states.get? id' = p.states.get? id' :=
  Dict.get?_set_ne p.states s h

/-- The call refuses with its own error and keeps the plane, or returns with
the property of result and plane. -/
def PlaneOutcome {α : Type} (p : RequestControlPlane) (c : PlaneCall α)
    (P : α → RequestControlPlane → Prop) : Prop :=
  (∃ e, c p = (.error e, p) ∧ e.raiser = .operation) ∨ ∃ a p', c p = (.ok a, p') ∧ P a p'

theorem planeOutcome_elim {α : Type} {p p' : RequestControlPlane} {c : PlaneCall α} {a : α}
    {P : α → RequestControlPlane → Prop} (h : PlaneOutcome p c P) (hc : c p = (.ok a, p')) :
    P a p' := by
  obtain ⟨e, he, _⟩ | ⟨a', p'', ha, hP⟩ := h
  · rw [hc] at he
    cases he
  · rw [hc] at ha
    cases ha
    exact hP

theorem planeOutcome_error {α : Type} {p p' : RequestControlPlane} {c : PlaneCall α}
    {e : ControlPlaneError} {P : α → RequestControlPlane → Prop} (h : PlaneOutcome p c P)
    (hc : c p = (.error e, p')) : p' = p ∧ e.raiser = .operation := by
  obtain ⟨e', he, hr⟩ | ⟨a', p'', ha, hP⟩ := h
  · rw [hc] at he
    cases he
    exact ⟨rfl, hr⟩
  · rw [hc] at ha
    cases ha

theorem planeOutcome_lift {α β : Type} {p : RequestControlPlane}
    {x : Except ControlPlaneError α} {Q : α → Prop} (f : α → PlaneCall β)
    {P : β → RequestControlPlane → Prop} (hx : Outcome x Q)
    (h : ∀ a, x = .ok a → Q a → PlaneOutcome p (f a) P) :
    PlaneOutcome p (Call.lift x >>= f) P := by
  cases x with
  | error e => exact Or.inl ⟨e, rfl, hx⟩
  | ok a => exact h a rfl hx

theorem planeOutcome_raised {α β : Type} {p : RequestControlPlane}
    (x : Except ControlPlaneErrorCode α) (f : α → PlaneCall β)
    {P : β → RequestControlPlane → Prop}
    (h : ∀ a, x = .ok a → PlaneOutcome p (f a) P) :
    PlaneOutcome p (Call.lift (raised x) >>= f) P := by
  cases x with
  | error code => exact Or.inl ⟨_, rfl, rfl⟩
  | ok a => exact h a rfl

theorem planeOutcome_fail {α : Type} (p : RequestControlPlane) (code : ControlPlaneErrorCode)
    (P : α → RequestControlPlane → Prop) : PlaneOutcome p (Call.lift (fail code)) P :=
  Or.inl ⟨_, rfl, rfl⟩

theorem updateState_run {p : RequestControlPlane} {id : String} {s s' : RequestLifecycleState}
    {f : RequestLifecycleState → Except ControlPlaneError RequestLifecycleState}
    (hs : p.states.get? id = some s) (hf : f s = .ok s') :
    updateState id f p = (.ok s', p.put id s') := by
  have hr : requireState id p = (.ok s, p) := by
    unfold requireState
    rw [hs]
  unfold updateState
  rw [Call.bind_run_ok _ hr, hf]
  rfl

theorem updateState_outcome (p : RequestControlPlane) (id : String)
    (f : RequestLifecycleState → Except ControlPlaneError RequestLifecycleState)
    (P : RequestLifecycleState → RequestLifecycleState → Prop)
    (h : ∀ s, Outcome (f s) (P s)) :
    PlaneOutcome p (updateState id f) (fun s' p' =>
      ∃ s, p.states.get? id = some s ∧ P s s' ∧ p' = p.put id s') := by
  cases hs : p.states.get? id with
  | none =>
    have hr : requireState id p = (fail .unknownRequest, p) := by
      unfold requireState
      rw [hs]
    exact Or.inl ⟨_, Call.bind_run_error _ hr, rfl⟩
  | some s =>
    have hr : requireState id p = (.ok s, p) := by
      unfold requireState
      rw [hs]
    cases hf : f s with
    | error e =>
      refine Or.inl ⟨e, ?_, outcome_raiser (h s) hf⟩
      unfold updateState
      rw [Call.bind_run_ok _ hr, hf]
      rfl
    | ok s' =>
      exact Or.inr ⟨s', _, updateState_run hs hf, s, rfl, outcome_elim (h s) hf, rfl⟩

theorem lookup_outcome (p : RequestControlPlane) (id : String) (promptTokens : ℤ)
    (segments : List TokenSegment) (matchPlan : MatchPlan) :
    PlaneOutcome p (lookup id promptTokens segments matchPlan) (fun s p' =>
      RequestPlan.new id promptTokens segments matchPlan = .ok s.plan ∧
        ((p.states.get? id = some s ∧ p' = p) ∨
          (p.states.get? id = none ∧ p' = p.put id s ∧
            s.toLifecycleFields = ⟨s.plan, .lookedUp, 0, none, none, none, 0⟩))) := by
  refine planeOutcome_raised _ _ fun plan hplan => ?_
  unfold PlaneOutcome
  rw [Call.bind_run_ok _ (Call.read_run p)]
  cases hs : p.states.get? id with
  | some s =>
    by_cases he : s.plan = plan
    · refine Or.inr ⟨s, p, ?_, he ▸ hplan, Or.inl ⟨rfl, rfl⟩⟩
      simp [he]
    · refine Or.inl ⟨⟨.duplicateRequestConflict, .operation⟩, ?_, rfl⟩
      simp [he, fail]
  | none =>
    obtain ⟨s, hnew, hf⟩ := RequestLifecycleState.ofPlan_returns plan
    refine Or.inr ⟨s, p.put id s, ?_, ?_, Or.inr ⟨rfl, rfl, ?_⟩⟩
    · simp only [hnew]
      rfl
    · rw [hf]
      exact hplan
    · rw [hf]

theorem lookup_returns {p : RequestControlPlane} {id : String} {promptTokens : ℤ}
    {segments : List TokenSegment} {matchPlan : MatchPlan} {plan : RequestPlan}
    (hplan : RequestPlan.new id promptTokens segments matchPlan = .ok plan)
    (hs : ∀ s, p.states.get? id = some s → s.plan = plan) :
    ∃ s p', lookup id promptTokens segments matchPlan p = (.ok s, p') := by
  have hraised : (Call.lift (raised (RequestPlan.new id promptTokens segments matchPlan)) :
      PlaneCall RequestPlan) p = (.ok plan, p) := by
    rw [hplan]
    rfl
  unfold lookup
  rw [Call.bind_run_ok _ hraised, Call.bind_run_ok _ (Call.read_run p)]
  cases hp : p.states.get? id with
  | some s =>
    rw [hp] at hs
    simp only [if_pos (hs s rfl)]
    exact ⟨s, p, rfl⟩
  | none =>
    obtain ⟨s, hnew, _⟩ := RequestLifecycleState.ofPlan_returns plan
    simp only [hnew]
    exact ⟨s, p.put id s, rfl⟩

theorem requestPlan_new_id {id : String} {promptTokens : ℤ} {segments : List TokenSegment}
    {matchPlan : MatchPlan} {plan : RequestPlan}
    (h : RequestPlan.new id promptTokens segments matchPlan = .ok plan) :
    plan.requestId = id := by
  unfold RequestPlan.new at h
  split at h
  · cases h
  · cases h
    rfl

theorem allocate_outcome (p : RequestControlPlane) (id : String) (tables : List (List ℤ))
    (external : ℤ) :
    PlaneOutcome p (allocate id tables external) (fun s' p' =>
      ∃ s, p.states.get? id = some s ∧ (∃ a : RequestAllocation,
        Bound s.toLifecycleFields a ∧
        GroupedBlockAllocation.capture p.groupLayout tables = .ok a.groupedBlocks ∧
        ((s.phase = .lookedUp ∧ s'.toLifecycleFields =
            { s.toLifecycleFields with phase := .allocated, allocation := some a }) ∨
          (s.phase ≠ .lookedUp ∧ s.allocation = some a ∧ s' = s))) ∧ p' = p.put id s') :=
  updateState_outcome p id _ _ fun s =>
    RequestTransitions.RequestLifecycleState.allocate_outcome s p.groupLayout tables external

theorem handoff_outcome (p : RequestControlPlane) (id : String) :
    PlaneOutcome p (handoff id) (fun h p' =>
      ∃ s s', p.states.get? id = some s ∧ s'.handoffMetadata = some h ∧ p' = p.put id s' ∧
        ((s.phase = .allocated ∧ h.plan = s.plan ∧ s.allocation = some h.allocation ∧
          s'.toLifecycleFields =
            { s.toLifecycleFields with phase := .handedOff, handoffMetadata := some h }) ∨
        s' = s)) := by
  have ho := updateState_outcome p id RequestLifecycleState.handoff _
    RequestTransitions.RequestLifecycleState.handoff_outcome
  obtain ⟨e, he, hr⟩ | ⟨s', p', hc, s, hs, ⟨h, hh, hcase⟩, hp⟩ := ho
  · exact Or.inl ⟨e, Call.bind_run_error _ he, hr⟩
  · refine Or.inr ⟨h, p', ?_, s, s', hs, hh, hp, hcase⟩
    unfold handoff
    rw [Call.bind_run_ok _ hc, hh]
    rfl

theorem applyWorkerValidation_outcome (p : RequestControlPlane) (r : WorkerValidationReceipt) :
    PlaneOutcome p (applyWorkerValidation r) (fun s' p' =>
      ∃ s, p.states.get? r.requestId = some s ∧ (r.requestId = s.plan.requestId ∧
        s.allocation = some r.allocation ∧
        RequestLifecycleState.Complete s.plan r ∧ s'.workerValidation = some r ∧
        ((s.phase = .handedOff ∧ s'.toLifecycleFields =
            { s.toLifecycleFields with
              phase := .workerValidated, workerValidation := some r }) ∨
          s' = s)) ∧ p' = p.put r.requestId s') :=
  updateState_outcome p r.requestId _ _ fun s =>
    RequestTransitions.RequestLifecycleState.applyWorkerValidation_outcome s r

theorem acceptHandoff_outcome (p : RequestControlPlane) (m : RequestHandoffMetadata) :
    PlaneOutcome p (acceptHandoff m) (fun w p' => w.handoffMetadata = some m ∧
      ((p.states.get? m.plan.requestId = some w ∧ p' = p) ∨
        (p.states.get? m.plan.requestId = none ∧ p' = p.put m.plan.requestId w ∧
          w.toLifecycleFields = ⟨m.plan, .handedOff, m.allocation.allocationGeneration,
            some m.allocation, some m, none, 0⟩))) := by
  unfold PlaneOutcome acceptHandoff
  rw [Call.bind_run_ok _ (Call.read_run p)]
  cases hw : p.states.get? m.plan.requestId with
  | some w =>
    by_cases he : w.handoffMetadata = some m
    · refine Or.inr ⟨w, p, ?_, he, Or.inl ⟨rfl, rfl⟩⟩
      simp only [if_pos he]
      rfl
    · refine Or.inl ⟨⟨.duplicateRequestConflict, .operation⟩, ?_, rfl⟩
      simp only [if_neg he]
      rfl
  | none =>
    have ho := RequestTransitions.RequestLifecycleState.fromHandoff_outcome m p.groupLayout
    cases hn : RequestLifecycleState.fromHandoff m p.groupLayout with
    | error e => exact Or.inl ⟨e, rfl, outcome_raiser ho hn⟩
    | ok w =>
      have hf := outcome_elim ho hn
      exact Or.inr ⟨w, _, rfl, by rw [hf], Or.inr ⟨rfl, rfl, hf⟩⟩

/-- A handoff is accepted by a plane of its layout that has no state for the
request, or the state of the same handoff. -/
theorem acceptHandoff_returns (p : RequestControlPlane) (m : RequestHandoffMetadata)
    (hl : m.allocation.groupedBlocks.groupLayout = p.groupLayout)
    (hw : ∀ w, p.states.get? m.plan.requestId = some w → w.handoffMetadata = some m) :
    ∃ w p', acceptHandoff m p = (.ok w, p') := by
  unfold acceptHandoff
  rw [Call.bind_run_ok _ (Call.read_run p)]
  cases hs : p.states.get? m.plan.requestId with
  | some w =>
    simp only [if_pos (hw w hs)]
    exact ⟨w, p, rfl⟩
  | none =>
    obtain ⟨w, hn⟩ :=
      RequestTransitions.RequestLifecycleState.fromHandoff_returns m p.groupLayout hl
    simp only [hn]
    exact ⟨w, _, rfl⟩

theorem receipt_new_fields {id : String} {a : RequestAllocation} {loaded rejected : List ℤ}
    {r : WorkerValidationReceipt}
    (h : WorkerValidationReceipt.new id a loaded rejected = .ok r) :
    r.requestId = id ∧ r.allocation = a := by
  unfold WorkerValidationReceipt.new at h
  split_ifs at h
  obtain ⟨l, _, h⟩ := (checked_ok_iff _ _ _).mp h
  obtain ⟨j, _, h⟩ := (checked_ok_iff _ _ _).mp h
  split_ifs at h
  cases h
  exact ⟨rfl, rfl⟩

theorem validateWorker_outcome (p : RequestControlPlane) (id : String)
    (loaded rejected : List ℤ) :
    PlaneOutcome p (validateWorker id loaded rejected) (fun r p' =>
      ∃ s s', p.states.get? id = some s ∧ r.requestId = id ∧
        s.applyWorkerValidation r = .ok s' ∧ p' = p.put id s') := by
  cases hs : p.states.get? id with
  | none =>
    have hr : requireState id p = (fail .unknownRequest, p) := by
      unfold requireState
      rw [hs]
    exact Or.inl ⟨_, Call.bind_run_error _ hr, rfl⟩
  | some s =>
    have hr : requireState id p = (.ok s, p) := by
      unfold requireState
      rw [hs]
    unfold PlaneOutcome validateWorker
    rw [Call.bind_run_ok _ hr]
    cases s.allocation with
    | none => exact planeOutcome_fail p _ _
    | some a =>
      refine planeOutcome_raised _ _ fun r hrec => ?_
      refine planeOutcome_lift _
        (RequestTransitions.RequestLifecycleState.applyWorkerValidation_outcome s r)
        fun s' hs' _ => ?_
      exact Or.inr ⟨r, _, rfl, s, s', rfl, (receipt_new_fields hrec).1, hs', rfl⟩

theorem validateWorker_run {p : RequestControlPlane} {id : String}
    {s s' : RequestLifecycleState} {a : RequestAllocation} {loaded rejected : List ℤ}
    {r : WorkerValidationReceipt} (hs : p.states.get? id = some s) (ha : s.allocation = some a)
    (hr : WorkerValidationReceipt.new id a loaded rejected = .ok r)
    (hs' : s.applyWorkerValidation r = .ok s') :
    validateWorker id loaded rejected p = (.ok r, p.put id s') := by
  have hreq : requireState id p = (.ok s, p) := by
    unfold requireState
    rw [hs]
  unfold validateWorker
  rw [Call.bind_run_ok _ hreq, ha]
  simp only [hr, raised, Except.mapError]
  rw [Call.bind_run_ok _ (Call.lift_run _ _), hs']
  rfl

theorem preempt_outcome (p : RequestControlPlane) (id : String) :
    PlaneOutcome p (preempt id) (fun s' p' =>
      ∃ s, p.states.get? id = some s ∧ (s.phase ≠ .finished ∧
        ((s.phase = .lookedUp ∧ s' = s) ∨
          (s.phase ≠ .lookedUp ∧ s'.toLifecycleFields =
            { s.toLifecycleFields with
              phase := .lookedUp
              allocationGeneration := s.allocationGeneration+1
              allocation := none
              handoffMetadata := none
              workerValidation := none
              preemptionCount := s.preemptionCount+1 }))) ∧ p' = p.put id s') :=
  updateState_outcome p id _ _ RequestTransitions.RequestLifecycleState.preempt_outcome

theorem finish_outcome (p : RequestControlPlane) (id : String) :
    PlaneOutcome p (finish id) (fun s' p' =>
      ∃ s, p.states.get? id = some s ∧ ((s.phase = .finished ∧ s' = s) ∨
        (s.phase = .workerValidated ∧ s'.toLifecycleFields =
          { s.toLifecycleFields with phase := .finished })) ∧ p' = p.put id s') :=
  updateState_outcome p id _ _ RequestTransitions.RequestLifecycleState.finish_outcome

end CacheBlend.ControlPlane
