import CacheBlend.ReceiptSafety
import CacheBlend.Runs

/-!
# Handoffs between the scheduler and worker planes

The scheduler plane hands requests off through a first-in first-out channel,
and the worker plane answers each delivered handoff with a receipt. The
worker keeps its state of a request for as long as the request is not
finished, while preemption moves the scheduler to a new generation. The
invariant relates both planes to the history of handoffs, and decides which
deliveries the worker accepts.
-/

set_option autoImplicit false

namespace CacheBlend.WorkerHandoffs
open CacheBlend.PlannerModels CacheBlend.RequestLifecycle CacheBlend.RequestTransitions
open CacheBlend.ControlPlane CacheBlend.ReceiptSafety

/-- Both planes, the handoffs in flight (oldest first), the receipts sent, and
the handoffs delivered so far. -/
structure System where
  scheduler : RequestControlPlane
  worker : RequestControlPlane
  handoffs : List RequestHandoffMetadata
  receipts : List WorkerValidationReceipt
  delivered : List RequestHandoffMetadata

def start (layout : CacheGroupLayout) : System :=
  ⟨.new layout, .new layout, [], [], []⟩

inductive Event where
  | lookup (requestId : String) (promptTokens : ℤ) (querySegments : List TokenSegment)
      (matchPlan : MatchPlan)
  | allocate (requestId : String) (blockIdsByGroup : List (List ℤ))
  | handoff (requestId : String)
  | deliver (loadedMatchIndexes rejectedMatchIndexes : List ℤ)
  | receive (receipt : WorkerValidationReceipt)
  | preempt (requestId : String)

def delivery (m : RequestHandoffMetadata) (loaded rejected : List ℤ) :
    PlaneCall WorkerValidationReceipt := do
  let _ ← RequestControlPlane.acceptHandoff m
  RequestControlPlane.validateWorker m.plan.requestId loaded rejected

def System.schedule (s : System) (operation : SchedulerOperation) : System :=
  { s with scheduler := (perform operation s.scheduler).2 }

def emitted : Except ControlPlaneError RequestHandoffMetadata → List RequestHandoffMetadata
  | .ok m => [m]
  | .error _ => []

def sent : Except ControlPlaneError WorkerValidationReceipt → List WorkerValidationReceipt
  | .ok r => [r]
  | .error _ => []

def advance (s : System) : Event → Option System
  | .lookup id promptTokens segments matchPlan =>
    some (s.schedule (.lookup id promptTokens segments matchPlan))
  | .allocate id tables => some (s.schedule (.allocate id tables 0))
  | .preempt id => some (s.schedule (.preempt id))
  | .receive r => if r ∈ s.receipts then some (s.schedule (.receive r)) else none
  | .handoff id =>
    some { s with
      scheduler := (RequestControlPlane.handoff id s.scheduler).2
      handoffs := s.handoffs ++ emitted (RequestControlPlane.handoff id s.scheduler).1 }
  | .deliver loaded rejected =>
    match s.handoffs with
    | [] => none
    | m::rest => some { s with
        worker := (delivery m loaded rejected s.worker).2
        handoffs := rest
        receipts := s.receipts ++ sent (delivery m loaded rejected s.worker).1
        delivered := s.delivered ++ [m] }

def Step (s : System) (e : Event) (s' : System) : Prop := advance s e = some s'

def System.history (s : System) : List RequestHandoffMetadata := s.delivered ++ s.handoffs

def generation (m : RequestHandoffMetadata) : ℕ := m.allocation.allocationGeneration

def SameRequest (m m' : RequestHandoffMetadata) : Prop := m.plan.requestId = m'.plan.requestId

/-- The scheduler state that an emitted handoff came from, possibly preempted
since. -/
def Emitted (p : RequestControlPlane) (m : RequestHandoffMetadata) : Prop :=
  m.allocation.groupedBlocks.groupLayout = p.groupLayout ∧
    ∃ st, p.states.get? m.plan.requestId = some st ∧ st.plan = m.plan ∧
      generation m ≤ st.allocationGeneration ∧
      (generation m = st.allocationGeneration → st.handoffMetadata = some m)

structure Inv (s : System) : Prop where
  layouts : s.worker.groupLayout = s.scheduler.groupLayout
  keyed : ∀ id st, s.scheduler.states.get? id = some st → st.plan.requestId = id
  allocated : ∀ id st a, s.scheduler.states.get? id = some st → st.allocation = some a →
    a.groupedBlocks.groupLayout = s.scheduler.groupLayout
  history : ∀ m ∈ s.history, Emitted s.scheduler m
  ordered : s.history.Pairwise (fun m m' => SameRequest m m' → generation m ≤ generation m')
  unique : ∀ m ∈ s.history, ∀ m' ∈ s.history, SameRequest m m' →
    generation m = generation m' → m = m'
  worker_from : ∀ id w, s.worker.states.get? id = some w →
    ∃ m ∈ s.delivered, m.plan.requestId = id ∧ w.handoffMetadata = some m ∧
      ∀ m' ∈ s.delivered, SameRequest m m' → generation m ≤ generation m'
  worker_has : ∀ m ∈ s.delivered, ∃ w, s.worker.states.get? m.plan.requestId = some w
  receipts : ∀ r ∈ s.receipts, ∃ w, s.worker.states.get? r.requestId = some w ∧
    w.workerValidation = some r ∧ RequestLifecycleState.Complete w.plan r
  validated : ∀ id st r, s.scheduler.states.get? id = some st → st.workerValidation = some r →
    r ∈ s.receipts

theorem start_inv (layout : CacheGroupLayout) : Inv (start layout) where
  layouts := rfl
  keyed _ _ h := nomatch h
  allocated _ _ _ h := nomatch h
  history _ h := nomatch h
  ordered := .nil
  unique _ h := nomatch h
  worker_from _ _ h := nomatch h
  worker_has _ h := nomatch h
  receipts _ h := nomatch h
  validated _ _ _ h := nomatch h

theorem stored_layout {operation : SchedulerOperation} {p p' : RequestControlPlane}
    (h : Stored operation p p') : p'.groupLayout = p.groupLayout := by
  obtain rfl | ⟨_, _, rfl, _⟩ := h <;> rfl

theorem changed_handoff {layout : CacheGroupLayout} {operation : SchedulerOperation}
    {s s' : RequestLifecycleState} (h : Changed layout operation s s') :
    s'.plan = s.plan ∧ (s'.allocationGeneration = s.allocationGeneration →
      ∀ m, s.handoffMetadata = some m → s'.handoffMetadata = some m) := by
  cases h with
  | stay => exact ⟨rfl, fun _ _ hm => hm⟩
  | allocate a hp hl hf =>
    rw [hf]
    exact ⟨rfl, fun _ _ hm => hm⟩
  | handoff m hp hf =>
    rw [hf]
    refine ⟨rfl, fun _ m' hm => ?_⟩
    have hc := coherent s
    unfold Coherent at hc
    rw [hp] at hc
    obtain ⟨_, _, _, hn, _⟩ := hc
    rw [hn] at hm
    cases hm
  | validate r ho hp hc hf =>
    rw [hf]
    exact ⟨rfl, fun _ _ hm => hm⟩
  | preempt hp hf =>
    rw [hf]
    exact ⟨rfl, fun hg => absurd hg (Nat.succ_ne_self _)⟩
  | finish hp hf =>
    rw [hf]
    exact ⟨rfl, fun _ _ hm => hm⟩

theorem emitted_perform (operation : SchedulerOperation) (p : RequestControlPlane)
    (m : RequestHandoffMetadata) (h : Emitted p m) :
    Emitted (perform operation p).2 m := by
  obtain ⟨hl, st, hs, hplan, hle, hcur⟩ := h
  obtain ⟨st', hs', hc⟩ := perform_changed operation p _ st hs
  obtain ⟨hplan', hkeep⟩ := changed_handoff hc
  have hg := (changed_generation st st' hc).1
  refine ⟨by rw [stored_layout (perform_stored operation p)]; exact hl, st', hs',
    hplan'.trans hplan, le_trans hle hg, fun he => ?_⟩
  have h1 : generation m = st.allocationGeneration := by omega
  exact hkeep (by omega) m (hcur h1)

theorem stored_cases {operation : SchedulerOperation} {p p' : RequestControlPlane}
    (h : Stored operation p p') (id : String) (st' : RequestLifecycleState)
    (hs : p'.states.get? id = some st') :
    (st'.plan.requestId = id ∧ st'.allocation = none ∧ st'.workerValidation = none) ∨
      ∃ st, p.states.get? id = some st ∧ Changed p.groupLayout operation st st' := by
  obtain rfl | ⟨id', t, rfl, hcase⟩ := h
  · exact Or.inr ⟨st', hs, .stay⟩
  · rw [put_get?] at hs
    split_ifs at hs with hid
    · subst hid
      cases hs
      obtain ⟨_, hi, hf⟩ | hc := hcase
      · exact Or.inl ⟨hi, by rw [hf], by rw [hf]⟩
      · exact Or.inr hc
    · exact Or.inr ⟨st', hs, .stay⟩

theorem changed_allocation {layout : CacheGroupLayout} {operation : SchedulerOperation}
    {s s' : RequestLifecycleState} (h : Changed layout operation s s') (a : RequestAllocation)
    (ha : s'.allocation = some a) :
    s.allocation = some a ∨ a.groupedBlocks.groupLayout = layout := by
  cases h with
  | stay => exact Or.inl ha
  | allocate a' hp hl hf =>
    rw [hf] at ha
    cases ha
    exact Or.inr hl
  | handoff m hp hf =>
    rw [hf] at ha
    exact Or.inl ha
  | validate r ho hp hc hf =>
    rw [hf] at ha
    exact Or.inl ha
  | preempt hp hf =>
    rw [hf] at ha
    cases ha
  | finish hp hf =>
    rw [hf] at ha
    exact Or.inl ha

theorem changed_validation {layout : CacheGroupLayout} {operation : SchedulerOperation}
    {s s' : RequestLifecycleState} (h : Changed layout operation s s')
    (r : WorkerValidationReceipt) (hr : s'.workerValidation = some r) :
    s.workerValidation = some r ∨ operation = .receive r := by
  cases h with
  | stay => exact Or.inl hr
  | allocate a hp hl hf =>
    rw [hf] at hr
    exact Or.inl hr
  | handoff m hp hf =>
    rw [hf] at hr
    exact Or.inl hr
  | validate r' ho hp hc hf =>
    rw [hf] at hr
    cases hr
    exact Or.inr ho
  | preempt hp hf =>
    rw [hf] at hr
    cases hr
  | finish hp hf =>
    rw [hf] at hr
    exact Or.inl hr

theorem schedule_inv (s : System) (operation : SchedulerOperation) (h : Inv s)
    (hr : ∀ r, operation = .receive r → r ∈ s.receipts) : Inv (s.schedule operation) := by
  have hstored := perform_stored operation s.scheduler
  have hl := stored_layout hstored
  refine ⟨h.layouts.trans hl.symm, fun id st hs => ?_, fun id st a hs ha => ?_,
    fun m hm => emitted_perform operation _ m (h.history m hm), h.ordered, h.unique,
    h.worker_from, h.worker_has, h.receipts, fun id st r hs hv => ?_⟩
  · obtain ⟨hid, _⟩ | ⟨st₀, hs₀, hc⟩ := stored_cases hstored id st hs
    · exact hid
    · rw [(changed_handoff hc).1]
      exact h.keyed id st₀ hs₀
  · rw [show (s.schedule operation).scheduler.groupLayout = s.scheduler.groupLayout from hl]
    obtain ⟨_, hn, _⟩ | ⟨st₀, hs₀, hc⟩ := stored_cases hstored id st hs
    · rw [hn] at ha
      cases ha
    · obtain ha₀ | hlay := changed_allocation hc a ha
      · exact h.allocated id st₀ a hs₀ ha₀
      · exact hlay
  · obtain ⟨_, _, hn⟩ | ⟨st₀, hs₀, hc⟩ := stored_cases hstored id st hs
    · rw [hn] at hv
      cases hv
    · obtain hv₀ | ho := changed_validation hc r hv
      · exact h.validated id st₀ r hs₀ hv₀
      · exact hr r ho

theorem handoff_emits (s : System) (h : Inv s) (id : String) (m : RequestHandoffMetadata)
    (p' : RequestControlPlane)
    (hc : RequestControlPlane.handoff id s.scheduler = (.ok m, p')) :
    Emitted p' m ∧ ∃ st, p'.states.get? m.plan.requestId = some st ∧
      st.handoffMetadata = some m ∧ st.allocationGeneration = generation m := by
  obtain ⟨st, st', hs, hm, rfl, hcase⟩ :=
    planeOutcome_elim (handoff_outcome s.scheduler id) hc
  obtain ⟨hplan, ha, hb⟩ := handoff_links st' m hm
  have hst : st'.plan = st.plan ∧ st.allocation = some m.allocation := by
    obtain ⟨_, hp, ha', hf⟩ | rfl := hcase
    · exact ⟨by rw [hf], ha'⟩
    · exact ⟨rfl, ha⟩
  have hid : m.plan.requestId = id := by
    rw [hplan, hst.1]
    exact h.keyed id st hs
  have hget : (s.scheduler.put id st').states.get? m.plan.requestId = some st' := by
    rw [hid]
    exact put_get?_self s.scheduler id st'
  exact ⟨⟨h.allocated id st m.allocation hs hst.2, st', hget, hplan.symm, le_of_eq hb.2,
    fun _ => hm⟩, st', hget, hm, hb.2.symm⟩

theorem handoff_schedules (s : System) (id : String) :
    (RequestControlPlane.handoff id s.scheduler).2 = (perform (.handoff id) s.scheduler).2 := by
  change _ = ((RequestControlPlane.handoff id >>= fun _ => pure ()) s.scheduler).2
  rw [Call.bind_run]
  rcases RequestControlPlane.handoff id s.scheduler with ⟨e | m, p⟩ <;> rfl

theorem handoff_inv (s : System) (id : String) (h : Inv s) : Inv { s with
    scheduler := (RequestControlPlane.handoff id s.scheduler).2
    handoffs := s.handoffs ++ emitted (RequestControlPlane.handoff id s.scheduler).1 } := by
  have hs := schedule_inv s (.handoff id) h (fun r hr => nomatch hr)
  unfold System.schedule at hs
  rw [← handoff_schedules] at hs
  rcases hc : RequestControlPlane.handoff id s.scheduler with ⟨e | m, p'⟩
  · rw [hc] at hs
    simpa [emitted] using hs
  rw [hc] at hs
  obtain ⟨hem, st, hst, hhm, hgen⟩ := handoff_emits s h id m p' hc
  have hh : System.history { s with scheduler := p', handoffs := s.handoffs ++ [m] } =
      s.history ++ [m] := (List.append_assoc _ _ _).symm
  have hold : ∀ m' ∈ s.history, SameRequest m' m → generation m' ≤ generation m ∧
      (generation m' = generation m → m' = m) := by
    intro m' hm' hsame
    obtain ⟨_, st', hst', _, hle, hcur⟩ := hs.history m' hm'
    rw [hsame] at hst'
    obtain rfl : st = st' := Option.some_inj.mp (hst.symm.trans hst')
    refine ⟨by omega, fun he => ?_⟩
    exact Option.some_inj.mp ((hcur (by omega)).symm.trans hhm)
  refine ⟨hs.layouts, hs.keyed, hs.allocated, fun m' hm' => ?_, ?_, ?_, hs.worker_from,
    hs.worker_has, hs.receipts, hs.validated⟩
  · change m' ∈ System.history { s with scheduler := p', handoffs := s.handoffs ++ [m] } at hm'
    rw [hh, List.mem_append, List.mem_singleton] at hm'
    obtain hm' | rfl := hm'
    · exact hs.history m' hm'
    · exact hem
  · change List.Pairwise _
      (System.history { s with scheduler := p', handoffs := s.handoffs ++ [m] })
    rw [hh, List.pairwise_append]
    refine ⟨h.ordered, List.pairwise_singleton _ _, fun m' hm' m'' hm'' hsame => ?_⟩
    rw [List.mem_singleton.mp hm''] at hsame ⊢
    exact (hold m' hm' hsame).1
  · intro m₁ h₁ m₂ h₂ hsame he
    change m₁ ∈ System.history { s with scheduler := p', handoffs := s.handoffs ++ [m] } at h₁
    change m₂ ∈ System.history { s with scheduler := p', handoffs := s.handoffs ++ [m] } at h₂
    rw [hh, List.mem_append, List.mem_singleton] at h₁ h₂
    obtain h₁ | rfl := h₁
    · obtain h₂ | rfl := h₂
      · exact h.unique m₁ h₁ m₂ h₂ hsame he
      · exact (hold m₁ h₁ hsame).2 he
    · obtain h₂ | rfl := h₂
      · exact ((hold m₂ h₂ hsame.symm).2 he.symm).symm
      · rfl

/-- The worker state left by an accepted delivery, and the receipt sent. -/
structure Answered (p p' : RequestControlPlane) (m : RequestHandoffMetadata)
    (result : Except ControlPlaneError WorkerValidationReceipt)
    (w w' : RequestLifecycleState) : Prop where
  layout : p'.groupLayout = p.groupLayout
  before : p.states.get? m.plan.requestId = some w ∨
    (p.states.get? m.plan.requestId = none ∧ w.workerValidation = none)
  after : p'.states.get? m.plan.requestId = some w'
  others : ∀ id, id ≠ m.plan.requestId → p'.states.get? id = p.states.get? id
  handoff : w.handoffMetadata = some m ∧ w'.handoffMetadata = some m
  plan : w'.plan = w.plan
  receipt : (sent result = [] ∧ w' = w) ∨ ∃ r, sent result = [r] ∧
    r.requestId = m.plan.requestId ∧ w'.workerValidation = some r ∧
    RequestLifecycleState.Complete w.plan r ∧
    (w.workerValidation = none ∨ w.workerValidation = some r)

theorem validate_answered (p : RequestControlPlane) (id : String) (w : RequestLifecycleState)
    (hw : p.states.get? id = some w) (loaded rejected : List ℤ) :
    ∃ w', (RequestControlPlane.validateWorker id loaded rejected p).2.states.get? id = some w' ∧
      (RequestControlPlane.validateWorker id loaded rejected p).2.groupLayout = p.groupLayout ∧
      (∀ id', id' ≠ id →
        (RequestControlPlane.validateWorker id loaded rejected p).2.states.get? id' =
          p.states.get? id') ∧
      w'.handoffMetadata = w.handoffMetadata ∧ w'.plan = w.plan ∧
      ((sent (RequestControlPlane.validateWorker id loaded rejected p).1 = [] ∧ w' = w) ∨
        ∃ r, sent (RequestControlPlane.validateWorker id loaded rejected p).1 = [r] ∧
          r.requestId = id ∧ w'.workerValidation = some r ∧
          RequestLifecycleState.Complete w.plan r ∧
          (w.workerValidation = none ∨ w.workerValidation = some r)) := by
  obtain ⟨e, he, _⟩ | ⟨r, p', hc, w₀, w', hw₀, hid, hap, rfl⟩ :=
    validateWorker_outcome p id loaded rejected
  · rw [he]
    exact ⟨w, hw, rfl, fun _ _ => rfl, rfl, rfl, Or.inl ⟨rfl, rfl⟩⟩
  · obtain rfl : w₀ = w := Option.some_inj.mp (hw₀.symm.trans hw)
    rw [hc]
    obtain ⟨_, _, hcomplete, hv, hcase⟩ := outcome_elim
      (RequestTransitions.RequestLifecycleState.applyWorkerValidation_outcome w₀ r) hap
    refine ⟨w', put_get?_self p id w', rfl, fun id' h => put_get?_ne p w' h, ?_, ?_,
      Or.inr ⟨r, rfl, hid, hv, hcomplete, ?_⟩⟩
    · obtain ⟨_, hf⟩ | rfl := hcase
      · rw [hf]
      · rfl
    · obtain ⟨_, hf⟩ | rfl := hcase
      · rw [hf]
      · rfl
    · obtain ⟨hp, _⟩ | rfl := hcase
      · have hc := coherent w₀
        unfold Coherent at hc
        rw [hp] at hc
        obtain ⟨_, _, _, _, _, hn⟩ := hc
        exact Or.inl hn
      · exact Or.inr hv

/-- The worker refuses a handoff when it holds another handoff of the request,
and answers it otherwise. -/
theorem delivery_cases (p : RequestControlPlane) (m : RequestHandoffMetadata)
    (loaded rejected : List ℤ)
    (hl : m.allocation.groupedBlocks.groupLayout = p.groupLayout) :
    (∃ w e, p.states.get? m.plan.requestId = some w ∧ w.handoffMetadata ≠ some m ∧
      delivery m loaded rejected p = (.error e, p)) ∨
    ∃ w w', Answered p (delivery m loaded rejected p).2 m
      (delivery m loaded rejected p).1 w w' := by
  by_cases hw : ∀ w, p.states.get? m.plan.requestId = some w → w.handoffMetadata = some m
  · obtain ⟨w, p₁, hacc⟩ := acceptHandoff_returns p m hl hw
    obtain ⟨hm, hcase⟩ := planeOutcome_elim (acceptHandoff_outcome p m) hacc
    have hrun : delivery m loaded rejected p =
        RequestControlPlane.validateWorker m.plan.requestId loaded rejected p₁ :=
      Call.bind_run_ok _ hacc
    have hfacts : p₁.states.get? m.plan.requestId = some w ∧
        p₁.groupLayout = p.groupLayout ∧
        (∀ id, id ≠ m.plan.requestId → p₁.states.get? id = p.states.get? id) ∧
        (p.states.get? m.plan.requestId = some w ∨
          (p.states.get? m.plan.requestId = none ∧ w.workerValidation = none)) := by
      obtain ⟨hs, rfl⟩ | ⟨hn, rfl, hf⟩ := hcase
      · exact ⟨hs, rfl, fun _ _ => rfl, Or.inl hs⟩
      · exact ⟨put_get?_self p _ w, rfl, fun id h => put_get?_ne p w h,
          Or.inr ⟨hn, by rw [hf]⟩⟩
    obtain ⟨hs₁, hl₁, ho₁, hb⟩ := hfacts
    obtain ⟨w', ha, hlay, ho, hh, hplan, hrec⟩ :=
      validate_answered p₁ m.plan.requestId w hs₁ loaded rejected
    rw [← hrun] at ha hlay ho hrec
    exact Or.inr ⟨w, w', hlay.trans hl₁, hb, ha, fun id h => (ho id h).trans (ho₁ id h),
      ⟨hm, hh.trans hm⟩, hplan, hrec⟩
  · obtain ⟨w, hw⟩ := not_forall.mp hw
    obtain ⟨hs, hne⟩ := Classical.not_imp.mp hw
    obtain ⟨e, he, _⟩ | ⟨w', p', hc, hm, hcase⟩ := acceptHandoff_outcome p m
    · exact Or.inl ⟨w, e, hs, hne, Call.bind_run_error _ he⟩
    · obtain ⟨hs', _⟩ | ⟨hn, _⟩ := hcase
      · rw [hs] at hs'
        cases hs'
        exact absurd hm hne
      · rw [hs] at hn
        cases hn

theorem deliver_inv (s : System) (m : RequestHandoffMetadata)
    (rest : List RequestHandoffMetadata) (loaded rejected : List ℤ) (h : Inv s)
    (hm : s.handoffs = m::rest) : Inv { s with
      worker := (delivery m loaded rejected s.worker).2
      handoffs := rest
      receipts := s.receipts ++ sent (delivery m loaded rejected s.worker).1
      delivered := s.delivered ++ [m] } := by
  have hmem : m ∈ s.history := by
    unfold System.history
    rw [hm]
    simp
  have hh : (s.delivered ++ [m]) ++ rest = s.history := by
    unfold System.history
    rw [hm, List.append_assoc]
    rfl
  have hlast : ∀ m' ∈ s.delivered, SameRequest m' m → generation m' ≤ generation m := by
    intro m' hm'
    have ho := h.ordered
    unfold System.history at ho
    rw [hm] at ho
    exact (List.pairwise_append.mp ho).2.2 m' hm' m (by simp)
  have hem := h.history m hmem
  have hl : m.allocation.groupedBlocks.groupLayout = s.worker.groupLayout :=
    hem.1.trans h.layouts.symm
  have hordered := h.ordered
  have hhistory := h.history
  have hunique := h.unique
  rw [← hh] at hordered hhistory hunique
  obtain ⟨w, e, hw, hne, hrun⟩ | ⟨w, w', ha⟩ := delivery_cases s.worker m loaded rejected hl
  · rw [hrun]
    refine ⟨h.layouts, h.keyed, h.allocated, hhistory, hordered, hunique,
      fun id w₀ hw₀ => ?_, fun m' hm' => ?_, fun r hr => ?_, fun id st r hs hv => ?_⟩
    · obtain ⟨m₀, hm₀, hid, hh₀, hmin⟩ := h.worker_from id w₀ hw₀
      refine ⟨m₀, List.mem_append_left _ hm₀, hid, hh₀, fun m' hm' hsame => ?_⟩
      rw [List.mem_append, List.mem_singleton] at hm'
      obtain hm' | rfl := hm'
      · exact hmin m' hm' hsame
      · exact hlast m₀ hm₀ hsame
    · rw [List.mem_append, List.mem_singleton] at hm'
      obtain hm' | rfl := hm'
      · exact h.worker_has m' hm'
      · exact ⟨w, hw⟩
    · exact h.receipts r (by simpa [sent] using hr)
    · simpa [sent] using h.validated id st r hs hv
  · refine ⟨ha.layout.trans h.layouts, h.keyed, h.allocated, hhistory, hordered, hunique,
      fun id w₀ hw₀ => ?_, fun m' hm' => ?_, fun r hr => ?_, fun id st r hs hv => ?_⟩
    · by_cases hid : id = m.plan.requestId
      · subst hid
        rw [ha.after] at hw₀
        cases hw₀
        refine ⟨m, by simp, rfl, ha.handoff.2, fun m' hm' hsame => ?_⟩
        rw [List.mem_append, List.mem_singleton] at hm'
        obtain hm' | rfl := hm'
        · obtain hb | ⟨hn, _⟩ := ha.before
          · obtain ⟨m₀, _, _, hh₀, hmin⟩ := h.worker_from _ w hb
            rw [ha.handoff.1] at hh₀
            cases hh₀
            exact hmin m' hm' hsame
          · obtain ⟨w₁, hw₁⟩ := h.worker_has m' hm'
            rw [← hsame, hn] at hw₁
            cases hw₁
        · exact le_refl _
      · rw [ha.others id hid] at hw₀
        obtain ⟨m₀, hm₀, hid₀, hh₀, hmin⟩ := h.worker_from id w₀ hw₀
        refine ⟨m₀, List.mem_append_left _ hm₀, hid₀, hh₀, fun m' hm' hsame => ?_⟩
        rw [List.mem_append, List.mem_singleton] at hm'
        obtain hm' | rfl := hm'
        · exact hmin m' hm' hsame
        · exact absurd (hid₀.symm.trans hsame) hid
    · rw [List.mem_append, List.mem_singleton] at hm'
      by_cases hid : m'.plan.requestId = m.plan.requestId
      · exact ⟨w', by rw [hid]; exact ha.after⟩
      · obtain hm' | rfl := hm'
        · obtain ⟨w₁, hw₁⟩ := h.worker_has m' hm'
          exact ⟨w₁, (ha.others _ hid).trans hw₁⟩
        · exact absurd rfl hid
    · rw [List.mem_append] at hr
      obtain hr | hr := hr
      · obtain ⟨w₁, hw₁, hv₁, hc₁⟩ := h.receipts r hr
        by_cases hid : r.requestId = m.plan.requestId
        · rw [hid] at hw₁ ⊢
          obtain hb | ⟨hn, _⟩ := ha.before
          · obtain rfl : w₁ = w := Option.some_inj.mp (hw₁.symm.trans hb)
            refine ⟨w', ha.after, ?_, by rw [ha.plan]; exact hc₁⟩
            obtain ⟨_, rfl⟩ | ⟨r', _, _, hv', _, hn | hs⟩ := ha.receipt
            · exact hv₁
            · rw [hn] at hv₁
              cases hv₁
            · rw [hv', ← hs]
              exact hv₁
          · rw [hn] at hw₁
            cases hw₁
        · exact ⟨w₁, (ha.others _ hid).trans hw₁, hv₁, hc₁⟩
      · obtain ⟨hn, _⟩ | ⟨r', hs, hid, hv, hc, _⟩ := ha.receipt
        · rw [hn] at hr
          cases hr
        · rw [hs, List.mem_singleton] at hr
          subst hr
          exact ⟨w', by rw [hid]; exact ha.after, hv, by rw [ha.plan]; exact hc⟩
    · exact List.mem_append_left _ (h.validated id st r hs hv)

theorem step_inv (s : System) (e : Event) (s' : System) (h : Inv s) (hs : Step s e s') :
    Inv s' := by
  unfold Step at hs
  cases e with
  | lookup id promptTokens segments matchPlan =>
    cases hs
    exact schedule_inv s _ h (fun r hr => nomatch hr)
  | allocate id tables =>
    cases hs
    exact schedule_inv s _ h (fun r hr => nomatch hr)
  | preempt id =>
    cases hs
    exact schedule_inv s _ h (fun r hr => nomatch hr)
  | receive r =>
    change (if r ∈ s.receipts then _ else _) = _ at hs
    split_ifs at hs with hr
    cases hs
    refine schedule_inv s _ h (fun r' hr' => ?_)
    cases hr'
    exact hr
  | handoff id =>
    cases hs
    exact handoff_inv s id h
  | deliver loaded rejected =>
    cases hm : s.handoffs with
    | nil =>
      rw [advance, hm] at hs
      cases hs
    | cons m rest =>
      rw [advance, hm] at hs
      cases hs
      exact deliver_inv s m rest loaded rejected h hm

theorem reached_inv (layout : CacheGroupLayout) (s : System)
    (h : Reached Step (start layout) s) : Inv s :=
  reached_invariant Inv step_inv (start_inv layout) h

/-- The handoff belongs to the scheduler's current allocation generation. -/
def Current (s : System) (m : RequestHandoffMetadata) : Prop :=
  ∃ st, s.scheduler.states.get? m.plan.requestId = some st ∧
    st.allocationGeneration = generation m

def Accepted (s : System) (m : RequestHandoffMetadata) : Prop :=
  ∃ w p, RequestControlPlane.acceptHandoff m s.worker = (.ok w, p)

/-- No handoff of the request from another generation was delivered before. -/
def FirstGeneration (s : System) (m : RequestHandoffMetadata) : Prop :=
  ∀ m' ∈ s.delivered, SameRequest m' m → generation m' = generation m

theorem accepted_iff (s : System) (h : Inv s) (m : RequestHandoffMetadata)
    (hm : m ∈ s.history) : Accepted s m ↔
      ∀ w, s.worker.states.get? m.plan.requestId = some w → w.handoffMetadata = some m := by
  constructor
  · rintro ⟨w, p, hacc⟩ w₀ hw₀
    obtain ⟨hh, ⟨hs, _⟩ | ⟨hn, _⟩⟩ := planeOutcome_elim (acceptHandoff_outcome s.worker m) hacc
    · rw [hw₀] at hs
      cases hs
      exact hh
    · rw [hw₀] at hn
      cases hn
  · exact acceptHandoff_returns s.worker m ((h.history m hm).1.trans h.layouts.symm)

theorem accepted_iff_firstGeneration (s : System) (h : Inv s) (m : RequestHandoffMetadata)
    (hm : m ∈ s.history) (hlast : ∀ m' ∈ s.delivered, SameRequest m' m →
      generation m' ≤ generation m) : Accepted s m ↔ FirstGeneration s m := by
  rw [accepted_iff s h m hm]
  constructor
  · intro hw m' hm' hsame
    obtain ⟨w, hget⟩ := h.worker_has m' hm'
    obtain ⟨m₀, _, _, hh, hmin⟩ := h.worker_from _ w hget
    have hm₀ := hw w (hsame ▸ hget)
    rw [hh] at hm₀
    cases hm₀
    exact le_antisymm (hlast m' hm' hsame) (hmin m' hm' hsame.symm)
  · intro hfirst w hget
    obtain ⟨m₀, hm₀, hid, hh, _⟩ := h.worker_from _ w hget
    rw [hh, h.unique m₀ (List.mem_append_left _ hm₀) m hm hid (hfirst m₀ hm₀ hid)]

theorem head_last (s : System) (h : Inv s) (m : RequestHandoffMetadata)
    (rest : List RequestHandoffMetadata) (hm : s.handoffs = m::rest) :
    m ∈ s.history ∧ ∀ m' ∈ s.delivered, SameRequest m' m → generation m' ≤ generation m := by
  have ho := h.ordered
  unfold System.history at ho ⊢
  rw [hm] at ho ⊢
  exact ⟨by simp, fun m' hm' => (List.pairwise_append.mp ho).2.2 m' hm' m (by simp)⟩

theorem receipt_accepted (s : System) (h : Inv s) (r : WorkerValidationReceipt)
    (hr : r ∈ s.receipts) (st : RequestLifecycleState)
    (hst : s.scheduler.states.get? r.requestId = some st)
    (hg : r.allocation.allocationGeneration = st.allocationGeneration) :
    ∃ st' p, RequestControlPlane.applyWorkerValidation r s.scheduler = (.ok st', p) := by
  obtain ⟨w, hw, hv, hc⟩ := h.receipts r hr
  obtain ⟨m, hm, hid, hh, _⟩ := h.worker_from _ w hw
  have hplan := (handoff_links w m hh).1
  have hra : r.allocation = m.allocation := validation_link w m r hh hv
  obtain ⟨_, st₀, hst₀, hp₀, _, hcur⟩ := h.history m (List.mem_append_left _ hm)
  rw [hid, hst] at hst₀
  cases hst₀
  have hsm : st.handoffMetadata = some m := hcur (by unfold generation; rw [← hra]; exact hg)
  have honly : ∀ r', st.workerValidation = some r' → r' = r := by
    intro r' hr'
    have hra' := validation_link st m r' hsm hr'
    have hid' : r'.requestId = r.requestId := by rw [r'.id_eq, r.id_eq, hra, hra']
    obtain ⟨w', hw', hv', _⟩ := h.receipts r' (h.validated _ st r' hst hr')
    rw [hid', hw] at hw'
    cases hw'
    exact Option.some_inj.mp (hv'.symm.trans hv)
  obtain ⟨st', hap⟩ := RequestTransitions.RequestLifecycleState.applyWorkerValidation_returns
    st r m hsm hra (by rw [hp₀, hplan]; exact hc) honly
  exact ⟨st', _, updateState_run hst hap⟩

/-- The two lists dispose of every match of the plan exactly once. -/
def CompletePartition (plan : RequestPlan) (loaded rejected : List ℤ) : Prop :=
  (loaded ++ rejected).Perm ((RequestLifecycleState.expectedIndexes plan).map Int.ofNat)

theorem normalize_returns (indexes : List ℤ) (hn : ∀ index ∈ indexes, 0 ≤ index)
    (hd : indexes.Nodup) : ∃ l, normalizeMatchIndexes indexes = .ok l ∧
      ∀ n : ℕ, n ∈ l.val ↔ (n : ℤ) ∈ indexes := by
  have hd' : (indexes.map Int.toNat).Nodup := by
    refine List.Nodup.map_on (fun x hx y hy he => ?_) hd
    have := hn x hx
    have := hn y hy
    omega
  refine ⟨⟨_, sorted_increasing _ hd'⟩, ?_, fun n => ?_⟩
  · unfold normalizeMatchIndexes
    rw [if_neg (by simpa using hn), dif_pos hd']
  · simp only [mem_sortedBy, List.mem_map]
    constructor
    · rintro ⟨i, hi, rfl⟩
      rw [Int.toNat_of_nonneg (hn i hi)]
      exact hi
    · intro h
      exact ⟨n, h, rfl⟩

theorem partition_receipt (plan : RequestPlan) (a : RequestAllocation) (id : String)
    (hid : id = a.requestId) (loaded rejected : List ℤ)
    (h : CompletePartition plan loaded rejected) :
    ∃ r, WorkerValidationReceipt.new id a loaded rejected = .ok r ∧
      RequestLifecycleState.Complete plan r := by
  have hmem : ∀ index, index ∈ loaded ++ rejected ↔
      ∃ n ∈ RequestLifecycleState.expectedIndexes plan, Int.ofNat n = index := by
    intro index
    rw [h.mem_iff, List.mem_map]
  have hnodup : (loaded ++ rejected).Nodup := by
    rw [h.nodup_iff]
    exact List.nodup_range.map (fun _ _ he => Int.ofNat.inj he)
  obtain ⟨hl, hj, hdis⟩ := List.nodup_append'.mp hnodup
  have hpos : ∀ index ∈ loaded ++ rejected, 0 ≤ index := by
    intro index hi
    obtain ⟨n, _, rfl⟩ := (hmem index).mp hi
    exact Int.natCast_nonneg n
  obtain ⟨l, hlo, hlm⟩ := normalize_returns loaded
    (fun i hi => hpos i (List.mem_append_left _ hi)) hl
  obtain ⟨j, hjo, hjm⟩ := normalize_returns rejected
    (fun i hi => hpos i (List.mem_append_right _ hi)) hj
  have hd : ∀ index ∈ l.val, index ∉ j.val :=
    fun n hn hn' => hdis ((hlm n).mp hn) ((hjm n).mp hn')
  refine ⟨⟨id, a, l, j, hid, fun _ hn => hd _ hn⟩, ?_, ?_⟩
  · unfold WorkerValidationReceipt.new
    rw [dif_pos hid, hlo, hjo]
    exact dif_pos hd
  · rw [complete_iff]
    intro n
    change n ∈ l.val ∨ n ∈ j.val ↔ _
    rw [hlm, hjm, ← List.mem_append, hmem]
    simp only [RequestLifecycleState.expectedIndexes, List.mem_range]
    constructor
    · rintro ⟨k, hk, he⟩
      rwa [← Int.ofNat.inj he]
    · exact fun hn => ⟨n, hn, rfl⟩

theorem delivery_returns (s : System) (h : Inv s) (m : RequestHandoffMetadata)
    (hm : m ∈ s.history) (hnew : ∀ m' ∈ s.delivered, ¬SameRequest m' m)
    (loaded rejected : List ℤ) (hpart : CompletePartition m.plan loaded rejected) :
    ∃ r, (delivery m loaded rejected s.worker).1 = .ok r ∧ r.allocation = m.allocation := by
  have hnone : s.worker.states.get? m.plan.requestId = none := by
    cases hw : s.worker.states.get? m.plan.requestId with
    | none => rfl
    | some w =>
      obtain ⟨m', hm', hid, _⟩ := h.worker_from _ w hw
      exact absurd hid (hnew m' hm')
  obtain ⟨w, p, hacc⟩ := (accepted_iff s h m hm).mpr (by rw [hnone]; exact fun _ h => nomatch h)
  obtain ⟨hh, ⟨hs, _⟩ | ⟨_, rfl, hf⟩⟩ := planeOutcome_elim (acceptHandoff_outcome s.worker m) hacc
  · rw [hnone] at hs
    cases hs
  have hplan : w.plan = m.plan := by rw [hf]
  have ha : w.allocation = some m.allocation := by rw [hf]
  have hv : w.workerValidation = none := by rw [hf]
  obtain ⟨r, hr, hc⟩ := partition_receipt m.plan m.allocation m.plan.requestId m.id_eq
    loaded rejected hpart
  have hra := (receipt_new_fields hr).2
  obtain ⟨w', hap⟩ := RequestTransitions.RequestLifecycleState.applyWorkerValidation_returns
    w r m hh hra (by rw [hplan]; exact hc) (by rw [hv]; exact fun _ h => nomatch h)
  have hrun := validateWorker_run (put_get?_self s.worker m.plan.requestId w) ha hr hap
  refine ⟨r, ?_, hra⟩
  unfold delivery
  rw [Call.bind_run_ok _ hacc, hrun]

/-- In every run, the next handoff of a current generation is accepted exactly
when no handoff of another generation of its request was delivered before,
its first delivery is then answered by a receipt, and every receipt in flight
is accepted by the scheduler while its generation is current. -/
theorem current_handoff_accepted_iff (layout : CacheGroupLayout) (s : System)
    (h : Reached Step (start layout) s) :
    (∀ m rest, s.handoffs = m::rest → Current s m →
      (Accepted s m ↔ FirstGeneration s m) ∧
      (FirstGeneration s m → m ∉ s.delivered →
        ∀ loaded rejected, CompletePartition m.plan loaded rejected →
          ∃ r, (delivery m loaded rejected s.worker).1 = .ok r ∧
            r.allocation = m.allocation)) ∧
    (∀ r ∈ s.receipts, ∀ st, s.scheduler.states.get? r.requestId = some st →
      r.allocation.allocationGeneration = st.allocationGeneration →
        ∃ st' p, RequestControlPlane.applyWorkerValidation r s.scheduler = (.ok st', p)) := by
  have hi := reached_inv layout s h
  refine ⟨fun m rest hm _ => ?_, fun r hr st hst hg => receipt_accepted s hi r hr st hst hg⟩
  obtain ⟨hmem, hlast⟩ := head_last s hi m rest hm
  refine ⟨accepted_iff_firstGeneration s hi m hmem hlast, fun hfirst hnew loaded rejected =>
    delivery_returns s hi m hmem (fun m' hm' hsame => hnew ?_) loaded rejected⟩
  rwa [← hi.unique m' (List.mem_append_left _ hm') m hmem hsame (hfirst m' hm' hsame)]

def singleLayout : CacheGroupLayout where
  layerNamesByGroup := [["layer"]]
  nonempty := by decide
  groups_nonempty := by decide
  names_nonempty := by decide
  names_nodup := by decide

def emptyPlan : MatchPlan := ⟨[], [], 0⟩

def firstRun : List Event :=
  [.lookup "request" 0 [] emptyPlan, .allocate "request" [[0]], .handoff "request"]

def headFirst (s : System) : Bool :=
  s.delivered.isEmpty && match s.handoffs with
    | [] => false
    | m::_ => (s.scheduler.states.get? m.plan.requestId).any
        (fun st => st.allocationGeneration == generation m)

/-- The handoff of a first allocation is accepted. -/
theorem first_handoff_accepted :
    ∃ s m rest, Reached Step (start singleLayout) s ∧ s.handoffs = m::rest ∧ Accepted s m := by
  have hrun : (execute advance (start singleLayout) firstRun).any headFirst = true := by decide
  obtain ⟨s, hs, hr⟩ := (Option.any_eq_true _ _).mp hrun
  have hreach := execute_reached firstRun (reached_start _ _) hs
  unfold headFirst at hr
  obtain ⟨hd, hm⟩ := Bool.and_eq_true_iff.mp hr
  split at hm
  · cases hm
  · next m rest hh =>
    obtain ⟨st, hst, hg⟩ := (Option.any_eq_true _ _).mp hm
    have hfirst : FirstGeneration s m := by
      intro m' hm'
      rw [List.isEmpty_iff.mp hd] at hm'
      cases hm'
    exact ⟨s, m, rest, hreach, hh, (((current_handoff_accepted_iff singleLayout s hreach).1 m
      rest hh ⟨st, hst, by simpa using hg⟩).1).mpr hfirst⟩

/-- One request is handed off and delivered, preempted, allocated again and
handed off again. -/
def preemptedRun : List Event :=
  [.lookup "request" 0 [] emptyPlan, .allocate "request" [[0]], .handoff "request",
    .deliver [] [], .preempt "request", .allocate "request" [[1]], .handoff "request"]

def headRefused (s : System) : Bool :=
  match s.handoffs with
  | [] => false
  | m::_ => (s.scheduler.states.get? m.plan.requestId).any
      (fun st => st.allocationGeneration == generation m) &&
    match (RequestControlPlane.acceptHandoff m s.worker).1 with
    | .ok _ => false
    | .error _ => true

theorem headRefused_sound (s : System) (h : headRefused s = true) :
    ∃ m rest, s.handoffs = m::rest ∧ Current s m ∧ ¬Accepted s m := by
  unfold headRefused at h
  split at h
  · cases h
  · next m rest hm =>
    obtain ⟨hc, ha⟩ := Bool.and_eq_true_iff.mp h
    obtain ⟨st, hst, hg⟩ := (Option.any_eq_true _ _).mp hc
    refine ⟨m, rest, hm, ⟨st, hst, by simpa using hg⟩, ?_⟩
    rintro ⟨w, p, hw⟩
    rw [hw] at ha
    cases ha

theorem preemptedRun_refused :
    (execute advance (start singleLayout) preemptedRun).any headRefused = true := by
  decide

/-- After a preemption the worker refuses the current handoff. -/
theorem current_handoff_not_accepted :
    ¬∀ (layout : CacheGroupLayout) (s : System), Reached Step (start layout) s →
      ∀ m rest, s.handoffs = m::rest → Current s m → Accepted s m := by
  intro hall
  obtain ⟨s, hs, hr⟩ := (Option.any_eq_true _ _).mp preemptedRun_refused
  obtain ⟨m, rest, hm, hc, hn⟩ := headRefused_sound s hr
  exact hn (hall singleLayout s
    (execute_reached preemptedRun (reached_start _ _) hs) m rest hm hc)

end CacheBlend.WorkerHandoffs
