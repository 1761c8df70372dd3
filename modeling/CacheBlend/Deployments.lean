import CacheBlend.EngineRuns
import CacheBlend.WorkerEffects

/-!
# A scheduler and a worker connector

A deployment is an engine and a worker, with the steps that were built and
not yet delivered and the reports that were sent and not yet received. Steps
and reports are delivered once each, in any order. Every request in flight
has one handoff outstanding, or one receipt for it.
-/

set_option autoImplicit false

namespace CacheBlend.Deployments
open CacheBlend.PlannerModels CacheBlend.RequestLifecycle CacheBlend.RequestTransitions
open CacheBlend.VllmAdapters CacheBlend.CompletionTables CacheBlend.SchedulerRuntime
open CacheBlend.TransferRuntime CacheBlend.SchedulerHooks CacheBlend.ConnectorRecords
open CacheBlend.EngineRuns CacheBlend.WorkerHooks CacheBlend.WorkerEffects

section
variable (sha256 : Bytes → Digest)

structure Deployment where
  engine : Engine
  worker : WorkerConnector sha256
  steps : List (GptOssCacheBlendMetadata sha256)
  outputs : List (List WorkerValidationReceipt)

/-- The events of a deployment without preemption. A step and a report are
given by their places in the queues. -/
inductive DeploymentEvent : Type 1 where
  | scheduler (event : EngineEvent)
  | build (numScheduledTokens : Dict String ℤ)
  | deliver (place : ℕ) (answers : LoadAnswers)
  | layerLoad (layerName : String)
  | saveLayer (layerName : String) (kvLayer : ℕ)
  | waitForSave (σ : Type) (world : StoreWorld sha256 σ) (state : σ)
  | getFinished (ids : List String)
  | stats
  | report
  | receive (place : ℕ)
  | finish (id : String)

/-- The worker after `register_kv_caches`. -/
def registered (config : ConnectorConfig) (kvCaches : Dict String ℕ) : WorkerConnector sha256 :=
  { WorkerConnector.new sha256 config with
    registeredKvCaches := kvCaches
    resources := config.transferEnabled }

def Deployment.initial (config : ConnectorConfig) (kvCaches : Dict String ℕ) :
    Deployment sha256 where
  engine := Engine.initial config
  worker := registered sha256 config kvCaches
  steps := []
  outputs := []

end

def completed {σ ε α : Type} : Except ε α × σ → Option (α × σ)
  | (.ok a, s) => some (a, s)
  | (.error _, _) => none

theorem completed_iff {σ ε α : Type} (x : Except ε α × σ) (a : α) (s : σ) :
    completed x = some (a, s) ↔ x = (.ok a, s) := by
  obtain ⟨e | b, t⟩ := x <;> simp [completed]

/-- The events of the engine that build, receive and complete nothing. -/
def plain : EngineEvent → Bool
  | .lookup _ _ _ | .allocate _ _ | .grow _ _ _ | .slide _ _ => true
  | .build _ | .receive _ | .preempt _ | .finish _ => false

section
variable (sha256 : Bytes → Digest) (config : ConnectorConfig) (prompt : String → List TokenId)

/-- One event. A request may be finished at any time after its handoff, and
the worker learns of requests that are finished. -/
def deploy (d : Deployment sha256) : DeploymentEvent sha256 → Option (Deployment sha256)
  | .scheduler event =>
    if plain event = true then
      (advance sha256 config prompt d.engine event).map fun e => { d with engine := e }
    else none
  | .build scheduled =>
    (completed (buildConnectorMeta sha256 config scheduled d.engine.connector)).bind fun r =>
      (advance sha256 config prompt d.engine (.build scheduled)).map fun e =>
        { d with engine := e, steps := d.steps ++ [r.1] }
  | .deliver place answers =>
    d.steps[place]?.bind fun m =>
      (completed (startLoadKv config answers m d.worker)).map fun r =>
        { d with worker := r.2, steps := d.steps.eraseIdx place }
  | .layerLoad layerName =>
    (completed (waitForLayerLoad layerName d.worker)).map fun r => { d with worker := r.2 }
  | .saveLayer layerName kvLayer =>
    (completed (saveKvLayer layerName kvLayer d.worker)).map fun r => { d with worker := r.2 }
  | .waitForSave _ world state =>
    (completed (waitForSave world state d.worker)).map fun r => { d with worker := r.2 }
  | .getFinished ids =>
    if ∀ id ∈ ids, (d.engine.views id).stage = .finished then
      (completed (getFinished ids d.worker)).map fun r => { d with worker := r.2 }
    else none
  | .stats => (completed (getKvConnectorStats d.worker)).map fun r => { d with worker := r.2 }
  | .report =>
    (completed (buildConnectorWorkerMeta d.worker)).map fun r =>
      { d with worker := r.2, outputs := d.outputs ++ r.1.toList }
  | .receive place =>
    d.outputs[place]?.bind fun batch =>
      (advance sha256 config prompt d.engine (.receive batch)).map fun e =>
        { d with engine := e, outputs := d.outputs.eraseIdx place }
  | .finish id =>
    if (d.engine.views id).handedOff = true then
      (advance sha256 config prompt d.engine (.finish id)).map fun e => { d with engine := e }
    else none

/-- The deployments that a run of events can reach. -/
def Deployed (kvCaches : Dict String ℕ) (d : Deployment sha256) : Prop :=
  Reached (fun d event d' => deploy sha256 config prompt d event = some d')
    (Deployment.initial sha256 config kvCaches) d

end

variable {sha256 : Bytes → Digest} {config : ConnectorConfig} {prompt : String → List TokenId}

/-! ## What is in flight -/

def Deployment.handoffs (d : Deployment sha256) : List RequestHandoffMetadata :=
  d.steps.flatMap GptOssCacheBlendMetadata.handoffs

def Deployment.receipts (d : Deployment sha256) : List WorkerValidationReceipt :=
  d.worker.pendingWorkerReceipts ++ d.outputs.flatten

def Deployment.inFlight (d : Deployment sha256) : List String :=
  d.handoffs.map (·.plan.requestId) ++ d.receipts.map WorkerValidationReceipt.requestId

variable (config) in
/-- The scheduler waits for the receipt of a handoff. It keeps the state that
was handed off, or the request is finished in control-flow mode. -/
structure Awaiting (v : RequestView) (r : RequestRecord) (h : RequestHandoffMetadata) :
    Prop where
  outstanding : v.outstanding = true
  handedOff : v.handedOff = true
  state : (∃ st, r.state = some st ∧ st.handoffMetadata = some h ∧
      st.workerValidation = none) ∨
    (v.stage = .finished ∧ config.transferEnabled = false ∧ r.state = none)

variable (config) in
/-- The deployment waits for a handoff of the request. -/
def Due (d : Deployment sha256) (h : RequestHandoffMetadata) : Prop :=
  Awaiting config (d.engine.views h.plan.requestId)
    (record d.engine.connector h.plan.requestId) h

variable (config prompt) in
structure Flight (d : Deployment sha256) : Prop where
  engine : EngineInvariant sha256 config prompt d.engine
  nodup : d.inFlight.Nodup
  handoffs : ∀ h ∈ d.handoffs, Due config d h
  receipts : ∀ r ∈ d.receipts, ∃ h, Due config d h ∧ Disposes h r
  completed : ∀ id, (d.engine.views id).stage = .finished →
    (d.engine.views id).handedOff = true
  unpreempted : ∀ id, (d.engine.views id).stage ≠ .preempted

theorem flight_initial (kvCaches : Dict String ℕ) :
    Flight config prompt (Deployment.initial sha256 config kvCaches) where
  engine := invariant_initial sha256 config prompt
  nodup := List.nodup_nil
  handoffs _ h := nomatch h
  receipts _ h := nomatch h
  completed _ h := nomatch h
  unpreempted _ h := nomatch h

/-! ## The events of the scheduler -/

/-- What an event leaves of the requests that were handed off, and the stages
it can bring about. -/
structure Undisturbed (s s' : Engine) : Prop where
  kept : ∀ id, (s.views id).handedOff = true → record s'.connector id = record s.connector id ∧
    ∃ tables, s'.views id = { s.views id with tables := tables }
  stages : ∀ id, (s'.views id).stage = (s.views id).stage ∨ (s'.views id).stage = .lookedUp ∨
    (s'.views id).stage = .allocated

theorem undisturbed_update {s : Engine} {c : SchedulerConnector} {id : String} {v : RequestView}
    (hr : ∀ id', id' ≠ id → record c id' = record s.connector id')
    (hoff : (s.views id).handedOff = false) (hv : v.stage = .lookedUp ∨ v.stage = .allocated) :
    Undisturbed s ⟨c, Function.update s.views id v⟩ := by
  refine ⟨fun id' hon => ?_, fun id' => ?_⟩
  · have hne : id' ≠ id := by
      rintro rfl
      rw [hoff] at hon
      cases hon
    dsimp only
    rw [Function.update_of_ne hne]
    exact ⟨hr id' hne, _, rfl⟩
  · dsimp only
    by_cases he : id' = id
    · subst he
      rw [Function.update_self]
      exact Or.inr hv
    · rw [Function.update_of_ne he]
      exact Or.inl rfl

theorem undisturbed_tables (s : Engine) (id : String) (tables : List (List ℕ)) :
    Undisturbed s
      ⟨s.connector, Function.update s.views id { s.views id with tables := tables }⟩ := by
  have hv : ∀ id', ∃ t, Function.update s.views id { s.views id with tables := tables } id' =
      { s.views id' with tables := t } := by
    intro id'
    by_cases he : id' = id
    · subst he
      rw [Function.update_self]
      exact ⟨tables, rfl⟩
    · rw [Function.update_of_ne he]
      exact ⟨_, rfl⟩
  refine ⟨fun id' _ => ⟨rfl, hv id'⟩, fun id' => Or.inl ?_⟩
  obtain ⟨_, he⟩ := hv id'
  dsimp only
  rw [he]

theorem plain_undisturbed {s s' : Engine} {event : EngineEvent}
    (hi : EngineInvariant sha256 config prompt s) (hp : plain event = true)
    (h : advance sha256 config prompt s event = some s') : Undisturbed s s' := by
  unfold advance at h
  cases event with
  | lookup id env computed =>
    dsimp only at h
    split_ifs at h with hg
    obtain ⟨_, c, hc, rfl⟩ := returned_map h
    obtain ⟨_, _, hothers, _⟩ := lookup_record sha256 hi.usable hc
    exact undisturbed_update hothers (tracked_waiting (hi.tracked id) hg.1).1 (Or.inl rfl)
  | allocate id tables =>
    dsimp only at h
    split_ifs at h with hg
    obtain ⟨hstage, hlegal⟩ := hg
    obtain ⟨_, c, hc, rfl⟩ := returned_map h
    obtain ⟨_, _, _, hothers, _⟩ :=
      allocate_record sha256 hi.usable ((legalTables_iff _ _ _).mp hlegal) hc
    have hw : (s.views id).stage.waiting = true := by
      rw [hstage]
      rfl
    exact undisturbed_update hothers (tracked_waiting (hi.tracked id) hw).1 (Or.inr rfl)
  | grow id group block =>
    dsimp only at h
    split_ifs at h
    cases h
    exact undisturbed_tables s id _
  | slide id group =>
    dsimp only at h
    split_ifs at h
    cases h
    exact undisturbed_tables s id _
  | build scheduled => cases hp
  | receive receipts => cases hp
  | preempt id => cases hp
  | finish id => cases hp

theorem awaiting_undisturbed {s s' : Engine} {h : RequestHandoffMetadata} {id : String}
    (hu : Undisturbed s s') (ha : Awaiting config (s.views id) (record s.connector id) h) :
    Awaiting config (s'.views id) (record s'.connector id) h := by
  obtain ⟨hr, tables, hv⟩ := hu.kept id ha.handedOff
  rw [hr, hv]
  exact ⟨ha.outstanding, ha.handedOff, ha.state⟩

theorem flight_scheduler {d : Deployment sha256} {event : EngineEvent} {e : Engine}
    (hf : Flight config prompt d) (hp : plain event = true)
    (h : advance sha256 config prompt d.engine event = some e) :
    Flight config prompt { d with engine := e } := by
  have hu := plain_undisturbed hf.engine hp h
  refine ⟨step_invariant _ _ _ hf.engine h, hf.nodup,
    fun m hm => awaiting_undisturbed hu (hf.handoffs m hm), fun r hr => ?_, fun id hs => ?_,
    fun id hs => ?_⟩
  · obtain ⟨m, hm, hd⟩ := hf.receipts r hr
    exact ⟨m, awaiting_undisturbed hu hm, hd⟩
  · dsimp only at hs ⊢
    obtain he | he | he := hu.stages id <;> rw [hs] at he
    · have hon := hf.completed id he.symm
      obtain ⟨_, _, hv⟩ := hu.kept id hon
      rw [hv]
      exact hon
    · cases he
    · cases he
  · dsimp only at hs
    obtain he | he | he := hu.stages id <;> rw [hs] at he
    · exact hf.unpreempted id he.symm
    · cases he
    · cases he

theorem flight_finish {d : Deployment sha256} {id : String} {e : Engine}
    (hf : Flight config prompt d) (hon : (d.engine.views id).handedOff = true)
    (h : advance sha256 config prompt d.engine (.finish id) = some e) :
    Flight config prompt { d with engine := e } := by
  have hi := step_invariant _ _ _ hf.engine h
  unfold advance at h
  dsimp only at h
  split_ifs at h
  obtain ⟨_, c, hc, rfl⟩ := returned_map h
  obtain ⟨_, _, hothers, st, hst, _, hr⟩ := finish_record sha256 hf.engine.usable hc
  have hdue : ∀ m, Due config d m → Due config { d with engine := ⟨c, Function.update
      d.engine.views id { d.engine.views id with stage := .finished }⟩ } m := by
    intro m hm
    unfold Due at hm ⊢
    dsimp only
    by_cases he : m.plan.requestId = id
    · rw [he] at hm ⊢
      rw [Function.update_self, hr]
      refine ⟨hm.outstanding, hm.handedOff, ?_⟩
      obtain ⟨st', hst', hh, hw⟩ | ⟨_, _, hnone⟩ := hm.state
      · rw [hst, Option.some.injEq] at hst'
        subst hst'
        unfold finishedRecord
        by_cases hk : config.transferEnabled = true
        · rw [if_pos ⟨hk, hw⟩]
          exact Or.inl ⟨st, rfl, hh, hw⟩
        · rw [if_neg (fun hc => hk hc.1)]
          exact Or.inr ⟨rfl, Bool.eq_false_iff.mpr hk, rfl⟩
      · rw [hst] at hnone
        cases hnone
    · rw [Function.update_of_ne he, hothers _ he]
      exact hm
  refine ⟨hi, hf.nodup, fun m hm => hdue m (hf.handoffs m hm), fun r hr => ?_, fun id' hs => ?_,
    fun id' hs => ?_⟩
  · obtain ⟨m, hm, hd⟩ := hf.receipts r hr
    exact ⟨m, hdue m hm, hd⟩
  · dsimp only at hs ⊢
    by_cases he : id' = id
    · subst he
      rw [Function.update_self]
      exact hon
    · rw [Function.update_of_ne he] at hs ⊢
      exact hf.completed id' hs
  · dsimp only at hs
    by_cases he : id' = id
    · subst he
      rw [Function.update_self] at hs
      cases hs
    · rw [Function.update_of_ne he] at hs
      exact hf.unpreempted id' hs

theorem inFlight_handedOff {d : Deployment sha256} (hf : Flight config prompt d) {id : String}
    (hm : id ∈ d.inFlight) : (d.engine.views id).handedOff = true := by
  obtain hm | hm := List.mem_append.mp hm
  · obtain ⟨h, hh, rfl⟩ := List.mem_map.mp hm
    exact (hf.handoffs h hh).handedOff
  · obtain ⟨r, hr, rfl⟩ := List.mem_map.mp hm
    obtain ⟨h, hh, hd⟩ := hf.receipts r hr
    rw [hd.request]
    exact hh.handedOff

theorem built_due {s : Engine} {scheduled : Dict String ℤ}
    {m : GptOssCacheBlendMetadata sha256} {c : SchedulerConnector}
    (hi : EngineInvariant sha256 config prompt s)
    (hc : buildConnectorMeta sha256 config scheduled s.connector = (.ok m, c)) :
    m.handoffs.map (·.plan.requestId) = s.connector.pendingHandoffIds ∧
      ∀ h ∈ m.handoffs, Awaiting config
        { s.views h.plan.requestId with handedOff := true, outstanding := true }
        (record c h.plan.requestId) h := by
  obtain ⟨_, _, _, hstates, _⟩ := build_record sha256 hi.usable hi.pending_nodup hc
  have hall : List.Forall₂ (fun id h => h.plan.requestId = id ∧ Awaiting config
      { s.views id with handedOff := true, outstanding := true } (record c id) h)
      s.connector.pendingHandoffIds m.handoffs := by
    refine forall₂_imp hstates fun id hm h => ?_
    rintro ⟨st, st', hst, hh, hr⟩
    have ht := hi.tracked id
    unfold Tracked at ht
    rw [build_unfinished hi hc id hm] at ht
    obtain ⟨st₀, a, held, _, hrun⟩ := ht
    rw [held.state] at hst
    cases hst
    have hp := hrun.awaiting (hi.pending id hm).1
    obtain ⟨hplan, _, hfields⟩ := handedOff_allocated hh hp
    refine ⟨by rw [hplan, held.plan_id], rfl, rfl, Or.inl ⟨st', by rw [hr], hh.1, ?_⟩⟩
    rw [hfields]
    exact (allocated_bare hp).2
  refine ⟨forall₂_map_eq _ hall fun _ _ h => h.1, fun h hm => ?_⟩
  obtain ⟨id, _, rfl, ha⟩ := forall₂_right hall hm
  exact ha

theorem flight_build {d : Deployment sha256} {scheduled : Dict String ℤ}
    {m : GptOssCacheBlendMetadata sha256} {c : SchedulerConnector} {e : Engine}
    (hf : Flight config prompt d)
    (hc : buildConnectorMeta sha256 config scheduled d.engine.connector = (.ok m, c))
    (h : advance sha256 config prompt d.engine (.build scheduled) = some e) :
    Flight config prompt { d with engine := e, steps := d.steps ++ [m] } := by
  have hi := step_invariant _ _ _ hf.engine h
  obtain ⟨m', c', hc', rfl⟩ := returned_map h
  rw [hc] at hc'
  cases hc'
  obtain ⟨_, _, hothers, _⟩ :=
    build_record sha256 hf.engine.usable hf.engine.pending_nodup hc
  obtain ⟨hids, hnew⟩ := built_due hf.engine hc
  have hfresh : ∀ id ∈ d.engine.connector.pendingHandoffIds, id ∉ d.inFlight := by
    intro id hm hin
    have hon := inFlight_handedOff hf hin
    rw [(hf.engine.pending id hm).1] at hon
    cases hon
  have hkeep : ∀ h, Due config d h → Awaiting config
      (if h.plan.requestId ∈ d.engine.connector.pendingHandoffIds then
        { d.engine.views h.plan.requestId with handedOff := true, outstanding := true }
        else d.engine.views h.plan.requestId) (record c h.plan.requestId) h := by
    intro h hd
    have hnot : h.plan.requestId ∉ d.engine.connector.pendingHandoffIds := by
      intro hm
      have hon := hd.handedOff
      rw [(hf.engine.pending _ hm).1] at hon
      cases hon
    rw [if_neg hnot, hothers _ hnot]
    exact hd
  refine ⟨hi, ?_, fun h hm => ?_, fun r hr => ?_, fun id hs => ?_, fun id hs => ?_⟩
  · have hperm : Deployment.inFlight
        { d with
          engine := ⟨c, fun id => if id ∈ d.engine.connector.pendingHandoffIds then
            { d.engine.views id with handedOff := true, outstanding := true }
            else d.engine.views id⟩
          steps := d.steps ++ [m] } =
        (d.handoffs.map (·.plan.requestId) ++ d.engine.connector.pendingHandoffIds) ++
          d.receipts.map WorkerValidationReceipt.requestId := by
      unfold Deployment.inFlight Deployment.handoffs Deployment.receipts
      rw [List.flatMap_append, List.flatMap_singleton, List.map_append, hids]
    rw [hperm]
    have hn : (d.engine.connector.pendingHandoffIds ++ d.inFlight).Nodup :=
      hf.engine.pending_nodup.append hf.nodup fun id h₁ h₂ => hfresh id h₁ h₂
    refine (List.Perm.nodup_iff ?_).mp hn
    unfold Deployment.inFlight
    rw [← List.append_assoc]
    exact List.perm_append_comm.append_right _
  · unfold Deployment.handoffs at hm
    rw [List.flatMap_append, List.flatMap_singleton] at hm
    obtain hm | hm := List.mem_append.mp hm
    · exact hkeep h (hf.handoffs h hm)
    · have hpend : h.plan.requestId ∈ d.engine.connector.pendingHandoffIds :=
        hids ▸ List.mem_map_of_mem hm
      unfold Due
      dsimp only
      rw [if_pos hpend]
      exact hnew h hm
  · obtain ⟨h, hd, hr⟩ := hf.receipts r hr
    exact ⟨h, hkeep h hd, hr⟩
  · dsimp only at hs ⊢
    split_ifs at hs ⊢
    · rfl
    · exact hf.completed id hs
  · dsimp only at hs
    split_ifs at hs <;> exact hf.unpreempted id hs

/-! ## The events of the worker and the reports -/

theorem perm_eraseIdx {α : Type} {xs : List α} {place : ℕ} {x : α} (h : xs[place]? = some x) :
    (x :: xs.eraseIdx place).Perm xs := by
  obtain ⟨hlt, rfl⟩ := List.getElem?_eq_some_iff.mp h
  exact List.getElem_cons_eraseIdx_perm hlt

theorem flight_quiet {d : Deployment sha256} {w : WorkerConnector sha256}
    (hf : Flight config prompt d) (hq : Quiet d.worker w) :
    Flight config prompt { d with worker := w } := by
  have hreceipts : Deployment.receipts { d with worker := w } = d.receipts := by
    unfold Deployment.receipts
    rw [hq.pending]
  refine ⟨hf.engine, ?_, hf.handoffs, ?_, hf.completed, hf.unpreempted⟩
  · unfold Deployment.inFlight
    rw [hreceipts]
    exact hf.nodup
  · rw [hreceipts]
    exact hf.receipts

theorem flight_deliver {d : Deployment sha256} {place : ℕ}
    {m : GptOssCacheBlendMetadata sha256} {w : WorkerConnector sha256}
    {receipts : List WorkerValidationReceipt} (hf : Flight config prompt d)
    (hm : d.steps[place]? = some m) (ha : Accepting m.handoffs d.worker w receipts) :
    Flight config prompt { d with worker := w, steps := d.steps.eraseIdx place } := by
  have hids : receipts.map WorkerValidationReceipt.requestId =
      m.handoffs.map (·.plan.requestId) := by
    refine forall₂_map_eq _ (List.forall₂_map_left_iff.mpr ?_) fun _ _ h => h
    exact ha.disposed.imp fun _ _ h => h.request
  have hsteps : (m.handoffs ++ (d.steps.eraseIdx place).flatMap
      GptOssCacheBlendMetadata.handoffs).Perm d.handoffs := by
    have hp := (perm_eraseIdx hm).flatMap_right GptOssCacheBlendMetadata.handoffs
    rwa [List.flatMap_cons] at hp
  have hold : ∀ h ∈ m.handoffs, h ∈ d.handoffs := fun h hh =>
    hsteps.mem_iff.mp (List.mem_append_left _ hh)
  refine ⟨hf.engine, (List.Perm.nodup_iff ?_).mp hf.nodup, fun h hh => ?_, fun r hr => ?_,
    hf.completed, hf.unpreempted⟩
  · unfold Deployment.inFlight Deployment.receipts
    refine ((hsteps.symm.map _).append_right _).trans ?_
    dsimp only [Deployment.handoffs]
    rw [ha.pending]
    simp only [List.map_append, hids]
    rw [List.perm_iff_count]
    intro id
    simp only [List.count_append]
    omega
  · exact hf.handoffs h (hsteps.mem_iff.mp (List.mem_append_right _ hh))
  · unfold Deployment.receipts at hr
    dsimp only at hr
    rw [ha.pending] at hr
    obtain hr | hr := List.mem_append.mp hr
    · obtain hr | hr := List.mem_append.mp hr
      · exact hf.receipts r (List.mem_append_left _ hr)
      · obtain ⟨h, hh, hd⟩ := forall₂_right ha.disposed hr
        exact ⟨h, hf.handoffs h (hold h hh), hd⟩
    · exact hf.receipts r (List.mem_append_right _ hr)

theorem flight_report {d : Deployment sha256} {o : Option (List WorkerValidationReceipt)}
    {w : WorkerConnector sha256} (hf : Flight config prompt d)
    (hc : buildConnectorWorkerMeta d.worker = (.ok o, w)) :
    Flight config prompt { d with worker := w, outputs := d.outputs ++ o.toList } := by
  rw [buildConnectorWorkerMeta_run] at hc
  split_ifs at hc
  · cases hc
    simp only [Option.toList_none, List.append_nil]
    exact hf
  · cases hc
    have hperm : (Deployment.receipts { d with
        worker := { d.worker with pendingWorkerReceipts := [] }
        outputs := d.outputs ++ (some d.worker.pendingWorkerReceipts).toList }).Perm
          d.receipts := by
      unfold Deployment.receipts
      simp only [Option.toList_some, List.flatten_append, List.flatten_singleton, List.nil_append]
      exact List.perm_append_comm
    refine ⟨hf.engine, (List.Perm.nodup_iff ?_).mp hf.nodup, hf.handoffs, fun r hr => ?_,
      hf.completed, hf.unpreempted⟩
    · exact (hperm.symm.map _).append_left _
    · exact hf.receipts r (hperm.mem_iff.mp hr)

theorem flight_receive {d : Deployment sha256} {place : ℕ}
    {batch : List WorkerValidationReceipt} {e : Engine} (hf : Flight config prompt d)
    (hb : d.outputs[place]? = some batch)
    (h : advance sha256 config prompt d.engine (.receive batch) = some e) :
    Flight config prompt { d with engine := e, outputs := d.outputs.eraseIdx place } := by
  have hi := step_invariant _ _ _ hf.engine h
  unfold advance at h
  dsimp only at h
  split_ifs at h with hg
  obtain ⟨_, c, hc, rfl⟩ := returned_map h
  obtain ⟨_, _, hothers, _⟩ := receipts_record sha256 hf.engine.usable hg.1 hc
  have hreceipts : (batch ++ (d.worker.pendingWorkerReceipts ++
      (d.outputs.eraseIdx place).flatten)).Perm d.receipts := by
    have hp := (perm_eraseIdx hb).flatten
    rw [List.flatten_cons] at hp
    refine List.Perm.trans ?_ (hp.append_left d.worker.pendingWorkerReceipts)
    rw [← List.append_assoc, ← List.append_assoc]
    exact List.perm_append_comm.append_right _
  have hn : (batch.map WorkerValidationReceipt.requestId ++
      (d.handoffs.map (·.plan.requestId) ++ (d.worker.pendingWorkerReceipts ++
        (d.outputs.eraseIdx place).flatten).map WorkerValidationReceipt.requestId)).Nodup := by
    refine (List.Perm.nodup_iff ?_).mp hf.nodup
    unfold Deployment.inFlight
    refine ((hreceipts.symm.map WorkerValidationReceipt.requestId).append_left _).trans ?_
    rw [List.map_append, ← List.append_assoc, ← List.append_assoc]
    exact List.perm_append_comm.append_right _
  obtain ⟨_, hn', hdisjoint⟩ := List.nodup_append'.mp hn
  have hkeep : ∀ h, h.plan.requestId ∈ d.handoffs.map (·.plan.requestId) ++
      (d.worker.pendingWorkerReceipts ++ (d.outputs.eraseIdx place).flatten).map
        WorkerValidationReceipt.requestId → Due config d h → Awaiting config
      (if h.plan.requestId ∈ batch.map WorkerValidationReceipt.requestId then
        { d.engine.views h.plan.requestId with outstanding := false }
        else d.engine.views h.plan.requestId) (record c h.plan.requestId) h := by
    intro h hm hd
    have hnot : h.plan.requestId ∉ batch.map WorkerValidationReceipt.requestId :=
      fun hb => hdisjoint hb hm
    rw [if_neg hnot, hothers _ hnot]
    exact hd
  refine ⟨hi, hn', fun m hm => ?_, fun r hr => ?_, fun id hs => ?_, fun id hs => ?_⟩
  · exact hkeep m (List.mem_append_left _ (List.mem_map_of_mem hm)) (hf.handoffs m hm)
  · obtain ⟨m, hm, hd⟩ := hf.receipts r (hreceipts.mem_iff.mp (List.mem_append_right _ hr))
    refine ⟨m, hkeep m (List.mem_append_right _ ?_) hm, hd⟩
    rw [← hd.request]
    exact List.mem_map_of_mem hr
  · dsimp only at hs ⊢
    split_ifs at hs ⊢ <;> exact hf.completed id hs
  · dsimp only at hs
    split_ifs at hs <;> exact hf.unpreempted id hs

theorem completed_map {σ ε α β : Type} {x : Except ε α × σ} {f : α × σ → β} {b : β}
    (h : (completed x).map f = some b) : ∃ a s, x = (.ok a, s) ∧ b = f (a, s) := by
  obtain ⟨⟨a, s⟩, hc, rfl⟩ := Option.map_eq_some_iff.mp h
  exact ⟨a, s, (completed_iff x a s).mp hc, rfl⟩

theorem deploy_flight (d : Deployment sha256) (event : DeploymentEvent sha256)
    (d' : Deployment sha256) (hf : Flight config prompt d)
    (h : deploy sha256 config prompt d event = some d') : Flight config prompt d' := by
  unfold deploy at h
  cases event with
  | scheduler event =>
    dsimp only at h
    split_ifs at h with hp
    obtain ⟨e, he, rfl⟩ := Option.map_eq_some_iff.mp h
    exact flight_scheduler hf hp he
  | build scheduled =>
    obtain ⟨⟨m, c⟩, hc, h⟩ := Option.bind_eq_some_iff.mp h
    obtain ⟨e, he, rfl⟩ := Option.map_eq_some_iff.mp h
    exact flight_build hf ((completed_iff _ _ _).mp hc) he
  | deliver place answers =>
    obtain ⟨m, hm, h⟩ := Option.bind_eq_some_iff.mp h
    obtain ⟨_, w, hc, rfl⟩ := completed_map h
    obtain ⟨receipts, ha⟩ := startLoadKv_accepting hc
    exact flight_deliver hf hm ha
  | layerLoad layerName =>
    obtain ⟨_, w, hc, rfl⟩ := completed_map h
    exact flight_quiet hf (waitForLayerLoad_quiet hc)
  | saveLayer layerName kvLayer =>
    obtain ⟨_, w, hc, rfl⟩ := completed_map h
    exact flight_quiet hf (saveKvLayer_quiet hc)
  | waitForSave σ world state =>
    obtain ⟨_, w, hc, rfl⟩ := completed_map h
    exact flight_quiet hf (waitForSave_quiet hc)
  | getFinished ids =>
    dsimp only at h
    split_ifs at h
    obtain ⟨_, w, hc, rfl⟩ := completed_map h
    exact flight_quiet hf (getFinished_quiet hc)
  | stats =>
    obtain ⟨_, w, hc, rfl⟩ := completed_map h
    exact flight_quiet hf (getKvConnectorStats_quiet hc)
  | report =>
    obtain ⟨o, w, hc, rfl⟩ := completed_map h
    exact flight_report hf hc
  | receive place =>
    obtain ⟨batch, hb, h⟩ := Option.bind_eq_some_iff.mp h
    obtain ⟨e, he, rfl⟩ := Option.map_eq_some_iff.mp h
    exact flight_receive hf hb he
  | finish id =>
    dsimp only at h
    split_ifs at h with hon
    obtain ⟨e, he, rfl⟩ := Option.map_eq_some_iff.mp h
    exact flight_finish hf hon he

theorem deployed_flight {kvCaches : Dict String ℕ} {d : Deployment sha256}
    (h : Deployed sha256 config prompt kvCaches d) : Flight config prompt d :=
  reached_invariant (Flight config prompt) deploy_flight (flight_initial kvCaches) h

end CacheBlend.Deployments
