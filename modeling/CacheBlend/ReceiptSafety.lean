import CacheBlend.ControlPlane

/-!
# Worker receipts under reordering

The scheduler plane performs operations in any order, and `receive` may
deliver any receipt at any time: late, twice, for a dropped allocation, or
never. One inversion of the operations says how a single request can change.
From it every recorded receipt belongs to the current allocation, and the
allocation generation counts the preemptions that dropped an allocation.
-/

set_option autoImplicit false

namespace CacheBlend.ReceiptSafety
open CacheBlend.PlannerModels CacheBlend.RequestLifecycle CacheBlend.RequestTransitions
open CacheBlend.ControlPlane

inductive SchedulerOperation where
  | lookup (requestId : String) (promptTokens : ℤ) (querySegments : List TokenSegment)
      (matchPlan : MatchPlan)
  | allocate (requestId : String) (blockIdsByGroup : List (List ℤ))
      (externalSchedulerTokens : ℤ)
  | handoff (requestId : String)
  | receive (receipt : WorkerValidationReceipt)
  | preempt (requestId : String)
  | finish (requestId : String)

def perform : SchedulerOperation → PlaneCall Unit
  | .lookup id promptTokens segments matchPlan => do
    let _ ← RequestControlPlane.lookup id promptTokens segments matchPlan
    pure ()
  | .allocate id tables external => do
    let _ ← RequestControlPlane.allocate id tables external
    pure ()
  | .handoff id => do
    let _ ← RequestControlPlane.handoff id
    pure ()
  | .receive receipt => do
    let _ ← RequestControlPlane.applyWorkerValidation receipt
    pure ()
  | .preempt id => do
    let _ ← RequestControlPlane.preempt id
    pure ()
  | .finish id => do
    let _ ← RequestControlPlane.finish id
    pure ()

/-- The plane after a sequence of operations, each returned or raised. -/
def performAll (operations : List SchedulerOperation) (p : RequestControlPlane) :
    RequestControlPlane :=
  operations.foldl (fun p operation => (perform operation p).2) p

theorem performAll_append (first rest : List SchedulerOperation) (p : RequestControlPlane) :
    performAll (first ++ rest) p = performAll rest (performAll first p) :=
  List.foldl_append

/-- How one operation can change the state of one request. -/
inductive Changed (layout : CacheGroupLayout) (operation : SchedulerOperation)
    (s : RequestLifecycleState) : RequestLifecycleState → Prop
  | stay : Changed layout operation s s
  | allocate {s' : RequestLifecycleState} (a : RequestAllocation) :
      s.phase = .lookedUp → a.groupedBlocks.groupLayout = layout →
      s'.toLifecycleFields =
        { s.toLifecycleFields with phase := .allocated, allocation := some a } →
      Changed layout operation s s'
  | handoff {s' : RequestLifecycleState} (h : RequestHandoffMetadata) :
      s.phase = .allocated →
      s'.toLifecycleFields =
        { s.toLifecycleFields with phase := .handedOff, handoffMetadata := some h } →
      Changed layout operation s s'
  | validate {s' : RequestLifecycleState} (r : WorkerValidationReceipt) :
      operation = .receive r → s.phase = .handedOff →
      RequestLifecycleState.Complete s.plan r →
      s'.toLifecycleFields =
        { s.toLifecycleFields with
          phase := .workerValidated, workerValidation := some r } →
      Changed layout operation s s'
  | preempt {s' : RequestLifecycleState} : s.phase ≠ .lookedUp →
      s'.toLifecycleFields =
        { s.toLifecycleFields with
          phase := .lookedUp
          allocationGeneration := s.allocationGeneration+1
          allocation := none
          handoffMetadata := none
          workerValidation := none
          preemptionCount := s.preemptionCount+1 } →
      Changed layout operation s s'
  | finish {s' : RequestLifecycleState} : s.phase = .workerValidated →
      s'.toLifecycleFields = { s.toLifecycleFields with phase := .finished } →
      Changed layout operation s s'

/-- A returned operation stores one state: a fresh one for an unknown request,
or a changed one for a known request. -/
def Stored (operation : SchedulerOperation) (p p' : RequestControlPlane) : Prop :=
  p' = p ∨ ∃ id s', p' = p.put id s' ∧
    ((p.states.get? id = none ∧ s'.plan.requestId = id ∧
        s'.toLifecycleFields = ⟨s'.plan, .lookedUp, 0, none, none, none, 0⟩) ∨
      ∃ s, p.states.get? id = some s ∧ Changed p.groupLayout operation s s')

theorem ignore_outcome {α : Type} {p : RequestControlPlane} {c : PlaneCall α}
    {P : α → RequestControlPlane → Prop} (h : PlaneOutcome p c P) :
    PlaneOutcome p (c >>= fun _ => pure ()) (fun _ p' => ∃ a, P a p') := by
  obtain ⟨e, he, hr⟩ | ⟨a, p', ha, hP⟩ := h
  · exact Or.inl ⟨e, Call.bind_run_error _ he, hr⟩
  · exact Or.inr ⟨(), p', Call.bind_run_ok _ ha, a, hP⟩

theorem planeOutcome_mono {α : Type} {p : RequestControlPlane} {c : PlaneCall α}
    {P Q : α → RequestControlPlane → Prop} (h : PlaneOutcome p c P)
    (hPQ : ∀ a p', P a p' → Q a p') : PlaneOutcome p c Q :=
  h.imp_right fun ⟨a, p', ha, hP⟩ => ⟨a, p', ha, hPQ a p' hP⟩

theorem perform_outcome (operation : SchedulerOperation) (p : RequestControlPlane) :
    PlaneOutcome p (perform operation) (fun _ p' => Stored operation p p') := by
  cases operation with
  | lookup id promptTokens segments matchPlan =>
    refine planeOutcome_mono (ignore_outcome (lookup_outcome p id _ _ _)) ?_
    rintro _ p' ⟨s, hplan, ⟨_, rfl⟩ | ⟨hn, rfl, hf⟩⟩
    · exact Or.inl rfl
    · exact Or.inr ⟨id, s, rfl, Or.inl ⟨hn, requestPlan_new_id hplan, hf⟩⟩
  | allocate id tables external =>
    refine planeOutcome_mono (ignore_outcome (allocate_outcome p id _ _)) ?_
    rintro _ p' ⟨s', s, hs, ⟨a, _, hc, ⟨hp, hf⟩ | ⟨_, _, rfl⟩⟩, rfl⟩
    · exact Or.inr ⟨id, s', rfl, Or.inr ⟨s, hs, .allocate a hp (capture_layout hc) hf⟩⟩
    · exact Or.inr ⟨id, s', rfl, Or.inr ⟨s', hs, .stay⟩⟩
  | handoff id =>
    refine planeOutcome_mono (ignore_outcome (handoff_outcome p id)) ?_
    rintro _ p' ⟨h, s, s', hs, _, rfl, ⟨hp, _, _, hf⟩ | rfl⟩
    · exact Or.inr ⟨id, s', rfl, Or.inr ⟨s, hs, .handoff h hp hf⟩⟩
    · exact Or.inr ⟨id, s', rfl, Or.inr ⟨s', hs, .stay⟩⟩
  | receive r =>
    refine planeOutcome_mono (ignore_outcome (applyWorkerValidation_outcome p r)) ?_
    rintro _ p' ⟨s', s, hs, ⟨_, _, hc, _, ⟨hp, hf⟩ | rfl⟩, rfl⟩
    · exact Or.inr ⟨r.requestId, s', rfl, Or.inr ⟨s, hs, .validate r rfl hp hc hf⟩⟩
    · exact Or.inr ⟨r.requestId, s', rfl, Or.inr ⟨s', hs, .stay⟩⟩
  | preempt id =>
    refine planeOutcome_mono (ignore_outcome (preempt_outcome p id)) ?_
    rintro _ p' ⟨s', s, hs, ⟨_, ⟨_, rfl⟩ | ⟨hp, hf⟩⟩, rfl⟩
    · exact Or.inr ⟨id, s', rfl, Or.inr ⟨s', hs, .stay⟩⟩
    · exact Or.inr ⟨id, s', rfl, Or.inr ⟨s, hs, .preempt hp hf⟩⟩
  | finish id =>
    refine planeOutcome_mono (ignore_outcome (finish_outcome p id)) ?_
    rintro _ p' ⟨s', s, hs, ⟨_, rfl⟩ | ⟨hp, hf⟩, rfl⟩
    · exact Or.inr ⟨id, s', rfl, Or.inr ⟨s', hs, .stay⟩⟩
    · exact Or.inr ⟨id, s', rfl, Or.inr ⟨s, hs, .finish hp hf⟩⟩

theorem perform_stored (operation : SchedulerOperation) (p : RequestControlPlane) :
    Stored operation p (perform operation p).2 := by
  obtain ⟨e, he, _⟩ | ⟨_, p', h, hs⟩ := perform_outcome operation p
  · exact Or.inl (by rw [he])
  · rw [h]
    exact hs

theorem perform_changed (operation : SchedulerOperation) (p : RequestControlPlane)
    (id : String) (s : RequestLifecycleState) (hs : p.states.get? id = some s) :
    ∃ s', (perform operation p).2.states.get? id = some s' ∧
      Changed p.groupLayout operation s s' := by
  obtain hp | ⟨id', t, hp, hc⟩ := perform_stored operation p
  · exact ⟨s, by rw [hp]; exact hs, .stay⟩
  · by_cases hid : id = id'
    · subst hid
      obtain ⟨hn, _, _⟩ | ⟨s₀, hs₀, hchange⟩ := hc
      · rw [hn] at hs
        cases hs
      · obtain rfl : s₀ = s := Option.some_inj.mp (hs₀.symm.trans hs)
        exact ⟨t, by rw [hp, put_get?_self], hchange⟩
    · exact ⟨s, by rw [hp, put_get?_ne p t hid]; exact hs, .stay⟩

def Sound (s : RequestLifecycleState) : Prop :=
  (∀ r, s.workerValidation = some r → RequestLifecycleState.Complete s.plan r) ∧
    s.allocationGeneration = s.preemptionCount

theorem changed_sound {layout : CacheGroupLayout} {operation : SchedulerOperation}
    (s s' : RequestLifecycleState) (h : Changed layout operation s s') (hs : Sound s) :
    Sound s' := by
  obtain ⟨hw, hg⟩ := hs
  cases h with
  | stay => exact ⟨hw, hg⟩
  | allocate a _ _ hf =>
    unfold Sound
    rw [hf]
    exact ⟨hw, hg⟩
  | handoff h _ hf =>
    unfold Sound
    rw [hf]
    exact ⟨hw, hg⟩
  | validate r _ _ hc hf =>
    unfold Sound
    rw [hf]
    refine ⟨fun r' hr => ?_, hg⟩
    cases hr
    exact hc
  | preempt _ hf =>
    unfold Sound
    rw [hf]
    refine ⟨fun r hr => ?_, congrArg (·+1) hg⟩
    cases hr
  | finish _ hf =>
    unfold Sound
    rw [hf]
    exact ⟨hw, hg⟩

def PlaneSound (p : RequestControlPlane) : Prop :=
  ∀ id s, p.states.get? id = some s → Sound s

theorem fresh_sound (s : RequestLifecycleState) (plan : RequestPlan)
    (hf : s.toLifecycleFields = ⟨plan, .lookedUp, 0, none, none, none, 0⟩) : Sound s := by
  unfold Sound
  rw [hf]
  refine ⟨fun r hr => ?_, rfl⟩
  cases hr

theorem perform_sound (operation : SchedulerOperation) (p : RequestControlPlane)
    (hp : PlaneSound p) : PlaneSound (perform operation p).2 := by
  intro id s hs
  obtain he | ⟨id', t, he, hc⟩ := perform_stored operation p
  · rw [he] at hs
    exact hp id s hs
  · rw [he, put_get?] at hs
    split_ifs at hs with hid
    · cases hs
      obtain ⟨_, _, hf⟩ | ⟨s₀, hs₀, hchange⟩ := hc
      · exact fresh_sound s s.plan hf
      · exact changed_sound s₀ s hchange (hp id' s₀ hs₀)
    · exact hp id s hs

theorem performAll_sound (operations : List SchedulerOperation) (p : RequestControlPlane)
    (hp : PlaneSound p) : PlaneSound (performAll operations p) := by
  induction operations generalizing p with
  | nil => exact hp
  | cons operation operations ih => exact ih _ (perform_sound operation p hp)

theorem new_sound (layout : CacheGroupLayout) : PlaneSound (RequestControlPlane.new layout) := by
  intro id s hs
  cases hs

/-- A validated or finished request holds a receipt for its current allocation
that disposes of every match exactly once. -/
def ReceiptCurrent (s : RequestLifecycleState) : Prop :=
  s.phase = .workerValidated ∨ s.phase = .finished →
    ∃ r a, s.workerValidation = some r ∧ s.allocation = some a ∧ r.allocation = a ∧
      r.allocation.allocationGeneration = s.allocationGeneration ∧
      r.loadedMatchIndexes.val.Disjoint r.rejectedMatchIndexes.val ∧
      ∀ index, (index ∈ r.loadedMatchIndexes.val ∨ index ∈ r.rejectedMatchIndexes.val) ↔
        index < s.plan.matchPlan.verifiedMatches.length

theorem complete_iff (plan : RequestPlan) (r : WorkerValidationReceipt) :
    RequestLifecycleState.Complete plan r ↔
      ∀ index, (index ∈ r.loadedMatchIndexes.val ∨ index ∈ r.rejectedMatchIndexes.val) ↔
        index < plan.matchPlan.verifiedMatches.length := by
  simp only [RequestLifecycleState.Complete, RequestLifecycleState.expectedIndexes,
    WorkerValidationReceipt.indexes, List.mem_append, List.mem_range]
  exact ⟨fun h index => ⟨h.1 index, h.2 index⟩,
    fun h => ⟨fun index => (h index).mp, fun index => (h index).mpr⟩⟩

theorem sound_receiptCurrent (s : RequestLifecycleState) (hs : Sound s) : ReceiptCurrent s := by
  intro hp
  have hc := coherent s
  unfold Coherent at hc
  obtain ⟨h, r, _, _, ha, hb, hr, hra⟩ : ∃ h r, s.handoffMetadata = some h ∧
      h.plan = s.plan ∧ s.allocation = some h.allocation ∧
      Bound s.toLifecycleFields h.allocation ∧ s.workerValidation = some r ∧
      r.allocation = h.allocation := by
    obtain hp | hp := hp <;> rwa [hp] at hc
  exact ⟨r, h.allocation, hr, ha, hra, by rw [hra, hb.2], r.disjoint,
    (complete_iff s.plan r).mp (hs.1 r hr)⟩

/-- The receipt is of an older generation, incomplete, or in conflict with the
allocation or the receipt that the request holds. -/
def Unacceptable (s : RequestLifecycleState) (r : WorkerValidationReceipt) : Prop :=
  r.allocation.allocationGeneration < s.allocationGeneration ∨
    ¬RequestLifecycleState.Complete s.plan r ∨
    s.allocation ≠ some r.allocation ∨
    ∃ r', s.workerValidation = some r' ∧ r' ≠ r

theorem unacceptable_rejected (p : RequestControlPlane) (r : WorkerValidationReceipt)
    (s : RequestLifecycleState) (hs : p.states.get? r.requestId = some s)
    (h : Unacceptable s r) :
    ∃ e, RequestControlPlane.applyWorkerValidation r p = (.error e, p) := by
  obtain ⟨e, he, _⟩ | ⟨s', p', _, s₀, hs₀, ⟨_, ha, hc, hw, hcase⟩, _⟩ :=
    applyWorkerValidation_outcome p r
  · exact ⟨e, he⟩
  · obtain rfl : s₀ = s := Option.some_inj.mp (hs₀.symm.trans hs)
    obtain hg | hn | hn | ⟨r', hr', hne⟩ := h
    · have hb := (allocation_bound s₀ r.allocation ha).2
      omega
    · exact absurd hc hn
    · exact absurd ha hn
    · obtain ⟨hp, _⟩ | rfl := hcase
      · have hcoh := coherent s₀
        unfold Coherent at hcoh
        rw [hp] at hcoh
        obtain ⟨_, _, _, _, _, hnone⟩ := hcoh
        rw [hnone] at hr'
        cases hr'
      · rw [hr'] at hw
        exact absurd (Option.some_inj.mp hw) hne

/-- Data bound to an allocation is held before and missing after. -/
def Drops (s s' : RequestLifecycleState) : Prop :=
  (s.allocation ≠ none ∧ s'.allocation = none) ∨
    (s.handoffMetadata ≠ none ∧ s'.handoffMetadata = none) ∨
    (s.workerValidation ≠ none ∧ s'.workerValidation = none)

theorem changed_generation {layout : CacheGroupLayout} {operation : SchedulerOperation}
    (s s' : RequestLifecycleState) (h : Changed layout operation s s') :
    s.allocationGeneration ≤ s'.allocationGeneration ∧
      s'.allocationGeneration ≤ s.allocationGeneration+1 ∧
      (s'.allocationGeneration = s.allocationGeneration+1 ↔ Drops s s') := by
  unfold Drops
  cases h with
  | stay => simp
  | allocate a hp hl hf =>
    rw [hf]
    simp
  | handoff h hp hf =>
    rw [hf]
    simp
  | validate r ho hp hc hf =>
    rw [hf]
    simp
  | preempt hp hf =>
    have ha : s.allocation ≠ none := by
      have hc := coherent s
      unfold Coherent at hc
      split at hc
      · next hl => exact absurd hl hp
      · obtain ⟨a, ha, _⟩ := hc
        rw [ha]
        exact Option.some_ne_none a
      · obtain ⟨h, _, _, ha, _⟩ := hc
        rw [ha]
        exact Option.some_ne_none h.allocation
      · obtain ⟨h, _, _, _, ha, _⟩ := hc
        rw [ha]
        exact Option.some_ne_none h.allocation
      · obtain ⟨h, _, _, _, ha, _⟩ := hc
        rw [ha]
        exact Option.some_ne_none h.allocation
    rw [hf]
    simp [ha]
  | finish hp hf =>
    rw [hf]
    simp

theorem performAll_monotone (operations : List SchedulerOperation) (p : RequestControlPlane)
    (id : String) (s : RequestLifecycleState) (hs : p.states.get? id = some s) :
    ∃ s', (performAll operations p).states.get? id = some s' ∧
      s.allocationGeneration ≤ s'.allocationGeneration := by
  induction operations generalizing p s with
  | nil => exact ⟨s, hs, le_refl _⟩
  | cons operation operations ih =>
    obtain ⟨t, ht, hc⟩ := perform_changed operation p id s hs
    obtain ⟨s', hs', hle⟩ := ih _ t ht
    exact ⟨s', hs', le_trans (changed_generation s t hc).1 hle⟩

/-- After any operations from the empty plane: recorded receipts are current
and complete, stale, incomplete and conflicting receipts change nothing, the
generation counts the drops, and no constructor check fails. -/
theorem receipts_safe_under_reordering (layout : CacheGroupLayout)
    (operations : List SchedulerOperation) :
    (∀ id s, (performAll operations (.new layout)).states.get? id = some s →
      ReceiptCurrent s ∧ s.allocationGeneration = s.preemptionCount) ∧
    (∀ r s, (performAll operations (.new layout)).states.get? r.requestId = some s →
      Unacceptable s r →
        ∃ e, RequestControlPlane.applyWorkerValidation r (performAll operations (.new layout)) =
          (.error e, performAll operations (.new layout))) ∧
    (∀ operation id s, (performAll operations (.new layout)).states.get? id = some s →
      ∃ s', (performAll (operations ++ [operation]) (.new layout)).states.get? id = some s' ∧
        s.allocationGeneration ≤ s'.allocationGeneration ∧
        s'.allocationGeneration ≤ s.allocationGeneration+1 ∧
        (s'.allocationGeneration = s.allocationGeneration+1 ↔ Drops s s')) ∧
    (∀ later id s, (performAll operations (.new layout)).states.get? id = some s →
      ∃ s', (performAll (operations ++ later) (.new layout)).states.get? id = some s' ∧
        s.allocationGeneration ≤ s'.allocationGeneration) ∧
    (∀ operation e, (perform operation (performAll operations (.new layout))).1 = .error e →
      e.raiser = .operation ∧
        (perform operation (performAll operations (.new layout))).2 =
          performAll operations (.new layout)) := by
  have hsound := performAll_sound operations _ (new_sound layout)
  refine ⟨fun id s hs => ⟨sound_receiptCurrent s (hsound id s hs), (hsound id s hs).2⟩,
    fun r s hs hu => unacceptable_rejected _ r s hs hu, fun operation id s hs => ?_,
    fun later id s hs => ?_, fun operation e he => ?_⟩
  · obtain ⟨s', hs', hc⟩ := perform_changed operation _ id s hs
    refine ⟨s', ?_, changed_generation s s' hc⟩
    rw [performAll_append]
    exact hs'
  · rw [performAll_append]
    exact performAll_monotone later _ id s hs
  · obtain ⟨hp, hr⟩ := planeOutcome_error (perform_outcome operation _) (Prod.ext he rfl)
    exact ⟨hr, hp⟩

end CacheBlend.ReceiptSafety
