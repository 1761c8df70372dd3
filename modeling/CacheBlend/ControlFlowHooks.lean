import CacheBlend.EnginePreemption
import CacheBlend.LateReceipts
import CacheBlend.WorkerHandoffs

/-!
# Control-flow mode without preemption

In control-flow mode the worker never has an active transfer and has no state
for a request whose handoff is still to be delivered. When every request is
finished after its receipt was applied, every hook returns, except that an
allocation is refused exactly when one of its tables holds the null block.
-/

set_option autoImplicit false

namespace CacheBlend.ControlFlowHooks
open CacheBlend.PlannerModels CacheBlend.RequestLifecycle CacheBlend.RequestTransitions
open CacheBlend.ControlPlane CacheBlend.VllmAdapters CacheBlend.CompletionTables
open CacheBlend.SchedulerRuntime CacheBlend.TransferRuntime CacheBlend.SchedulerHooks
open CacheBlend.HookEffects CacheBlend.ConnectorRecords CacheBlend.EngineRuns
open CacheBlend.EngineCompletion CacheBlend.WorkerHooks CacheBlend.WorkerEffects
open CacheBlend.Deployments CacheBlend.LateReceipts CacheBlend.ConnectorMetrics
open CacheBlend.Call (pure_ok_iff read_bind)

section
variable {sha256 : Bytes → Digest} {config : ConnectorConfig} {prompt : String → List TokenId}
  {kvCaches : Dict String ℕ}

def orderly (d : Deployment sha256) : DeploymentEvent sha256 → Bool
  | .finish id => !(d.engine.views id).outstanding
  | _ => true

variable (sha256 config prompt) in
def deployOrderly (d : Deployment sha256) (event : DeploymentEvent sha256) :
    Option (Deployment sha256) :=
  if orderly d event = true then deploy sha256 config prompt d event else none

variable (sha256 config prompt kvCaches) in
/-- The deployments that a run of orderly events can reach. -/
def OrderlyDeployed (d : Deployment sha256) : Prop :=
  Reached (fun d event d' => deployOrderly sha256 config prompt d event = some d')
    (Deployment.initial sha256 config kvCaches) d

/-- The metadata that the scheduler builds in this mode. -/
structure PlainStep (config : ConnectorConfig) (m : GptOssCacheBlendMetadata sha256) : Prop where
  schema : m.schemaVersion = metadataSchemaVersion
  layers : m.groupLayerNames = config.groupLayerNames
  mode : m.transferEnabled = config.transferEnabled
  transfers : m.transfers = []
  observations : m.lookupObservations = []
  layouts : ∀ h ∈ m.handoffs,
    h.allocation.groupedBlocks.groupLayout = config.adapted.controlPlaneLayout

variable (config prompt kvCaches) in
structure Calm (d : Deployment sha256) : Prop where
  flight : Flight config prompt d
  layout : d.worker.controlPlane.groupLayout = config.adapted.controlPlaneLayout
  inactive : d.worker.activeWorkerTransfer = none
  registered : d.worker.registeredKvCaches = kvCaches
  steps : ∀ m ∈ d.steps, PlainStep config m
  delivered : ∀ id st, d.worker.controlPlane.states.get? id = some st →
    (d.engine.views id).handedOff = true ∧ id ∉ d.handoffs.map (·.plan.requestId)
  settled : ∀ id, (d.engine.views id).stage = .finished →
    (d.engine.views id).outstanding = false

theorem calm_initial : Calm config prompt kvCaches (Deployment.initial sha256 config kvCaches) where
  flight := flight_initial kvCaches
  layout := rfl
  inactive := rfl
  registered := rfl
  steps _ h := nomatch h
  delivered _ _ h := nomatch h
  settled _ h := nomatch h

theorem calm_engine {d d' : Deployment sha256} (hc : Calm config prompt kvCaches d)
    (hf : Flight config prompt d') (hw : d'.worker = d.worker) (hs : d'.steps = d.steps)
    (hon : ∀ id, (d.engine.views id).handedOff = true →
      (d'.engine.views id).handedOff = true)
    (hset : ∀ id, (d'.engine.views id).stage = .finished →
      (d'.engine.views id).outstanding = false) : Calm config prompt kvCaches d' where
  flight := hf
  layout := by rw [hw, hc.layout]
  inactive := by rw [hw, hc.inactive]
  registered := by rw [hw, hc.registered]
  steps := by rw [hs]; exact hc.steps
  delivered id st h := by
    rw [hw] at h
    obtain ⟨hoff, hnot⟩ := hc.delivered id st h
    refine ⟨hon id hoff, ?_⟩
    unfold Deployment.handoffs
    rw [hs]
    exact hnot
  settled := hset

theorem calm_worker {d : Deployment sha256} {w : WorkerConnector sha256}
    (hc : Calm config prompt kvCaches d) (hq : Quiet d.worker w) :
    Calm config prompt kvCaches { d with worker := w } where
  flight := flight_quiet hc.flight hq
  layout := hq.layout.trans hc.layout
  inactive := hq.inactive hc.inactive
  registered := hq.registered.trans hc.registered
  steps := hc.steps
  delivered id st h := hc.delivered id st (hq.states id st h)
  settled := hc.settled

theorem calm_report {d : Deployment sha256} {o : Option (List WorkerValidationReceipt)}
    {w : WorkerConnector sha256} (hc : Calm config prompt kvCaches d)
    (h : buildConnectorWorkerMeta d.worker = (.ok o, w)) :
    Calm config prompt kvCaches { d with worker := w, outputs := d.outputs ++ o.toList } := by
  have hf := flight_report hc.flight h
  rw [buildConnectorWorkerMeta_run] at h
  split_ifs at h <;> cases h <;>
    exact ⟨hf, hc.layout, hc.inactive, hc.registered, hc.steps, hc.delivered, hc.settled⟩

theorem calm_scheduler {d : Deployment sha256} {event : EngineEvent} {e : Engine}
    (hc : Calm config prompt kvCaches d) (hp : plain event = true)
    (h : advance sha256 config prompt d.engine event = some e) :
    Calm config prompt kvCaches { d with engine := e } := by
  have hu := plain_undisturbed hc.flight.engine hp h
  refine calm_engine hc (flight_scheduler hc.flight hp h) rfl rfl (fun id hon => ?_)
    fun id hs => ?_
  · obtain ⟨_, _, hv⟩ := hu.kept id hon
    dsimp only
    rw [hv]
    exact hon
  · dsimp only at hs ⊢
    obtain he | he | he := hu.stages id <;> rw [hs] at he
    · obtain ⟨_, _, hv⟩ := hu.kept id (hc.flight.completed id he.symm)
      rw [hv]
      exact hc.settled id he.symm
    · cases he
    · cases he

theorem built_plain {s : Engine} {scheduled : Dict String ℤ}
    {m : GptOssCacheBlendMetadata sha256} {c : SchedulerConnector}
    (hi : EngineInvariant sha256 config prompt s) (hmode : config.transfer = none)
    (hc : buildConnectorMeta sha256 config scheduled s.connector = (.ok m, c)) :
    PlainStep config m := by
  have hlayouts : ∀ h ∈ m.handoffs,
      h.allocation.groupedBlocks.groupLayout = config.adapted.controlPlaneLayout := by
    intro h hm
    obtain ⟨_, _, _, hstates, _⟩ := build_record sha256 hi.usable hi.pending_nodup hc
    obtain ⟨id, hid, st, st', hst, hh, _⟩ := forall₂_right hstates hm
    have ht := hi.tracked id
    unfold Tracked at ht
    rw [build_unfinished hi hc id hid] at ht
    obtain ⟨st₀, a, held, howns, hrun⟩ := ht
    rw [held.state] at hst
    cases hst
    obtain ⟨_, hal, _⟩ := handedOff_allocated hh (hrun.awaiting (hi.pending id hid).1)
    rw [howns.allocation, Option.some.injEq] at hal
    rw [← hal]
    exact howns.layout
  obtain ⟨_, _, contents, _, hcontents, rfl, _⟩ :=
    (buildConnectorMeta_ok_iff sha256 _ _ _ _ _).mp hc
  unfold stepContents at hcontents
  rw [hmode] at hcontents
  cases hcontents
  exact ⟨rfl, rfl, rfl, rfl, rfl, hlayouts⟩

theorem calm_build {d : Deployment sha256} {scheduled : Dict String ℤ}
    {m : GptOssCacheBlendMetadata sha256} {c : SchedulerConnector} {e : Engine}
    (hmode : config.transfer = none) (hc : Calm config prompt kvCaches d)
    (hb : buildConnectorMeta sha256 config scheduled d.engine.connector = (.ok m, c))
    (h : advance sha256 config prompt d.engine (.build scheduled) = some e) :
    Calm config prompt kvCaches { d with engine := e, steps := d.steps ++ [m] } := by
  have hf := flight_build hc.flight hb h
  obtain ⟨m', c', hc', rfl⟩ := returned_map h
  rw [hb] at hc'
  cases hc'
  have hi := hc.flight.engine
  obtain ⟨hids, _⟩ := built_due hi hb
  refine ⟨hf, hc.layout, hc.inactive, hc.registered, fun m' hm => ?_, fun id st hst => ?_,
    fun id hs => ?_⟩
  · obtain hm | hm := List.mem_append.mp hm
    · exact hc.steps m' hm
    · rw [List.mem_singleton.mp hm]
      exact built_plain hi hmode hb
  · obtain ⟨hon, hnot⟩ := hc.delivered id st hst
    have hpend : id ∉ d.engine.connector.pendingHandoffIds := by
      intro hm
      rw [(hi.pending id hm).1] at hon
      cases hon
    dsimp only
    rw [if_neg hpend]
    refine ⟨hon, ?_⟩
    unfold Deployment.handoffs
    rw [List.flatMap_append, List.flatMap_singleton, List.map_append, hids, List.mem_append]
    exact not_or.mpr ⟨hnot, hpend⟩
  · dsimp only at hs ⊢
    split_ifs at hs ⊢ with hm
    · rw [build_unfinished hi hb id hm] at hs
      cases hs
    · exact hc.settled id hs

theorem calm_deliver {d : Deployment sha256} {place : ℕ} {answers : LoadAnswers}
    {m : GptOssCacheBlendMetadata sha256} {w : WorkerConnector sha256}
    (hc : Calm config prompt kvCaches d) (hm : d.steps[place]? = some m)
    (hw : startLoadKv config answers m d.worker = (.ok (), w)) :
    Calm config prompt kvCaches
      { d with worker := w, steps := d.steps.eraseIdx place } := by
  obtain ⟨receipts, ha⟩ := startLoadKv_accepting hw
  have hf := flight_deliver hc.flight hm ha
  have hmem := List.mem_of_getElem? hm
  have hsteps : (m.handoffs ++ (d.steps.eraseIdx place).flatMap
      GptOssCacheBlendMetadata.handoffs).Perm d.handoffs := by
    have hp := (perm_eraseIdx hm).flatMap_right GptOssCacheBlendMetadata.handoffs
    rwa [List.flatMap_cons] at hp
  have hids := (hsteps.map (·.plan.requestId)).nodup_iff.mpr
    (List.nodup_append'.mp hc.flight.nodup).1
  rw [List.map_append] at hids
  have hdisjoint := (List.nodup_append'.mp hids).2.2
  refine ⟨hf, ha.plane.1.trans hc.layout, startLoadKv_idle (hc.steps m hmem).transfers hw,
    ha.registered.trans hc.registered, fun m' hm' => hc.steps m' (List.mem_of_mem_eraseIdx hm'),
    fun id st hst => ?_, hc.settled⟩
  by_cases hin : id ∈ m.handoffs.map (·.plan.requestId)
  · refine ⟨?_, hdisjoint hin⟩
    obtain ⟨h, hh, rfl⟩ := List.mem_map.mp hin
    exact (hc.flight.handoffs h (hsteps.mem_iff.mp (List.mem_append_left _ hh))).handedOff
  · dsimp only at hst
    rw [ha.plane.2 id hin] at hst
    obtain ⟨hon, hnot⟩ := hc.delivered id st hst
    refine ⟨hon, fun hold => hnot ?_⟩
    exact (hsteps.map (·.plan.requestId)).mem_iff.mp (by
      rw [List.map_append]
      exact List.mem_append_right _ hold)

theorem calm_receive {d : Deployment sha256} {place : ℕ} {batch : List WorkerValidationReceipt}
    {e : Engine} (hc : Calm config prompt kvCaches d) (hb : d.outputs[place]? = some batch)
    (h : advance sha256 config prompt d.engine (.receive batch) = some e) :
    Calm config prompt kvCaches
      { d with engine := e, outputs := d.outputs.eraseIdx place } := by
  have hf := flight_receive hc.flight hb h
  unfold advance at h
  dsimp only at h
  split_ifs at h
  obtain ⟨_, c, _, rfl⟩ := returned_map h
  refine calm_engine hc hf rfl rfl (fun id hon => ?_) fun id hs => ?_
  · dsimp only
    split_ifs <;> exact hon
  · dsimp only at hs ⊢
    split_ifs at hs ⊢
    · rfl
    · exact hc.settled id hs

theorem calm_finish {d : Deployment sha256} {id : String} {e : Engine}
    (hc : Calm config prompt kvCaches d) (hon : (d.engine.views id).handedOff = true)
    (hout : (d.engine.views id).outstanding = false)
    (h : advance sha256 config prompt d.engine (.finish id) = some e) :
    Calm config prompt kvCaches { d with engine := e } := by
  have hf := flight_finish hc.flight hon h
  unfold advance at h
  dsimp only at h
  split_ifs at h
  obtain ⟨_, c, _, rfl⟩ := returned_map h
  refine calm_engine hc hf rfl rfl (fun id' hon' => ?_) fun id' hs => ?_
  · dsimp only
    by_cases he : id' = id
    · subst he
      rw [Function.update_self]
      exact hon
    · rw [Function.update_of_ne he]
      exact hon'
  · dsimp only at hs ⊢
    by_cases he : id' = id
    · subst he
      rw [Function.update_self]
      exact hout
    · rw [Function.update_of_ne he] at hs ⊢
      exact hc.settled id' hs

theorem deploy_calm (hmode : config.transfer = none) (d : Deployment sha256)
    (event : DeploymentEvent sha256) (d' : Deployment sha256)
    (hc : Calm config prompt kvCaches d)
    (h : deployOrderly sha256 config prompt d event = some d') :
    Calm config prompt kvCaches d' := by
  unfold deployOrderly at h
  split_ifs at h with horderly
  unfold deploy at h
  cases event with
  | scheduler event =>
    dsimp only at h
    split_ifs at h with hp
    obtain ⟨e, he, rfl⟩ := Option.map_eq_some_iff.mp h
    exact calm_scheduler hc hp he
  | build scheduled =>
    obtain ⟨⟨m, c⟩, hb, h⟩ := Option.bind_eq_some_iff.mp h
    obtain ⟨e, he, rfl⟩ := Option.map_eq_some_iff.mp h
    exact calm_build hmode hc ((completed_iff _ _ _).mp hb) he
  | deliver place answers =>
    obtain ⟨m, hm, h⟩ := Option.bind_eq_some_iff.mp h
    obtain ⟨_, w, hw, rfl⟩ := completed_map h
    exact calm_deliver hc hm hw
  | layerLoad layerName =>
    obtain ⟨_, w, hw, rfl⟩ := completed_map h
    exact calm_worker hc (waitForLayerLoad_quiet hw)
  | saveLayer layerName kvLayer =>
    obtain ⟨_, w, hw, rfl⟩ := completed_map h
    exact calm_worker hc (saveKvLayer_quiet hw)
  | waitForSave σ world state =>
    obtain ⟨_, w, hw, rfl⟩ := completed_map h
    exact calm_worker hc (waitForSave_quiet hw)
  | getFinished ids =>
    dsimp only at h
    split_ifs at h
    obtain ⟨_, w, hw, rfl⟩ := completed_map h
    exact calm_worker hc (getFinished_quiet hw)
  | stats =>
    obtain ⟨_, w, hw, rfl⟩ := completed_map h
    exact calm_worker hc (getKvConnectorStats_quiet hw)
  | report =>
    obtain ⟨o, w, hw, rfl⟩ := completed_map h
    exact calm_report hc hw
  | receive place =>
    obtain ⟨batch, hb, h⟩ := Option.bind_eq_some_iff.mp h
    obtain ⟨e, he, rfl⟩ := Option.map_eq_some_iff.mp h
    exact calm_receive hc hb he
  | finish id =>
    dsimp only at h
    split_ifs at h with hon
    obtain ⟨e, he, rfl⟩ := Option.map_eq_some_iff.mp h
    exact calm_finish hc hon ((Bool.not_eq_true' _).mp horderly) he

theorem orderly_calm (hmode : config.transfer = none) {d : Deployment sha256}
    (h : OrderlyDeployed sha256 config prompt kvCaches d) : Calm config prompt kvCaches d :=
  reached_invariant (Calm config prompt kvCaches) (deploy_calm hmode) calm_initial h

/-! ## The worker hooks return -/

theorem rejection_returns {p : RequestControlPlane} {h : RequestHandoffMetadata}
    (hl : h.allocation.groupedBlocks.groupLayout = p.groupLayout)
    (hn : p.states.get? h.plan.requestId = none) :
    ∃ st p₁ r p₂, RequestControlPlane.acceptHandoff h p = (.ok st, p₁) ∧
      RequestControlPlane.validateWorker h.plan.requestId []
        ((List.range h.plan.matchPlan.verifiedMatches.length).map Int.ofNat) p₁ = (.ok r, p₂) := by
  obtain ⟨st, p₁, hacc⟩ := acceptHandoff_returns p h hl (by rw [hn]; exact fun _ h => nomatch h)
  obtain ⟨hm, ⟨hs, _⟩ | ⟨_, rfl, hf⟩⟩ := planeOutcome_elim (acceptHandoff_outcome p h) hacc
  · rw [hn] at hs
    cases hs
  have hal : st.allocation = some h.allocation := by rw [hf]
  have hplan : st.plan = h.plan := by rw [hf]
  have hw : st.workerValidation = none := by rw [hf]
  obtain ⟨r, hr, hcomplete⟩ := WorkerHandoffs.partition_receipt h.plan h.allocation
    h.plan.requestId h.id_eq []
    ((List.range h.plan.matchPlan.verifiedMatches.length).map Int.ofNat) (List.Perm.refl _)
  obtain ⟨st', hs'⟩ := RequestTransitions.RequestLifecycleState.applyWorkerValidation_returns
    st r h hm (receipt_new_fields hr).2 (by rw [hplan]; exact hcomplete)
    (by rw [hw]; exact fun _ h => nomatch h)
  exact ⟨st, _, r, _, hacc, validateWorker_run (put_get?_self p _ st) hal hr hs'⟩

theorem skipTransfer_returns (config : ConnectorConfig) {h : RequestHandoffMetadata}
    {w : WorkerConnector sha256} {r : WorkerValidationReceipt} {p : RequestControlPlane}
    (hv : RequestControlPlane.validateWorker h.plan.requestId []
      ((List.range h.plan.matchPlan.verifiedMatches.length).map Int.ofNat) w.controlPlane =
        (.ok r, p)) : ∃ w', skipTransfer config h w = (.ok ⟨⟩, w') := by
  obtain ⟨s, hs⟩ := recordLoad_returns w.stats 0 (plannedTokens h.plan) h.plan.promptTokens
    config.transferEnabled le_rfl (Int.natCast_nonneg _)
    (RequestTransitions.RequestLifecycleState.plan_prompt_nonneg h.plan)
  rw [zero_add] at hs
  exact ⟨_, (skipTransfer_ok_iff config h w _).mpr ⟨s, r, p, hs, hv, rfl⟩⟩

theorem handoff_groups {config : ConnectorConfig} {h : RequestHandoffMetadata}
    (hl : h.allocation.groupedBlocks.groupLayout = config.adapted.controlPlaneLayout) :
    h.allocation.groupedBlocks.blockIdsByGroup.length = config.groupLayerNames.length := by
  have hlayers := congrArg List.length h.allocation.groupedBlocks.layers
  rw [List.length_map, hl] at hlayers
  unfold GroupedBlockAllocation.blockIdsByGroup
  rw [List.length_map, hlayers]
  rfl

theorem acceptHandoffs_returns {config : ConnectorConfig} (answers : LoadAnswers)
    {handoffs : List RequestHandoffMetadata} {w : WorkerConnector sha256}
    (hw : w.controlPlane.groupLayout = config.adapted.controlPlaneLayout)
    (hl : ∀ h ∈ handoffs,
      h.allocation.groupedBlocks.groupLayout = config.adapted.controlPlaneLayout)
    (hn : (handoffs.map (·.plan.requestId)).Nodup)
    (hnew : ∀ h ∈ handoffs, w.controlPlane.states.get? h.plan.requestId = none) :
    ∃ w', acceptHandoffs config answers handoffs Dict.empty w = (.ok Dict.empty, w') := by
  induction handoffs generalizing w with
  | nil => exact ⟨w, rfl⟩
  | cons h handoffs ih =>
    rw [List.map_cons, List.nodup_cons] at hn
    have hlh := hl h List.mem_cons_self
    obtain ⟨st, p₁, r, p₂, hacc, hval⟩ :=
      rejection_returns (hlh.trans hw.symm) (hnew h List.mem_cons_self)
    obtain ⟨w₁, h₁⟩ := skipTransfer_returns config (w := { w with controlPlane := p₁ }) hval
    have hload : loadHandoff config answers h none { w with controlPlane := p₁ } =
        (.ok ⟨⟩, w₁) := h₁
    obtain ⟨_, hstep⟩ := handoff_accepting hacc hload
    have hrest : ∀ h' ∈ handoffs, w₁.controlPlane.states.get? h'.plan.requestId = none := by
      intro h' hm
      have hne : h'.plan.requestId ∉ [h.plan.requestId] := fun he =>
        hn.1 (List.mem_singleton.mp he ▸ List.mem_map_of_mem hm)
      rw [hstep.plane.2 _ hne]
      exact hnew h' (List.mem_cons_of_mem _ hm)
    obtain ⟨w', hw'⟩ := ih (hstep.plane.1.trans hw)
      (fun h' hm => hl h' (List.mem_cons_of_mem _ hm)) hn.2 hrest
    refine ⟨w', ?_⟩
    unfold acceptHandoffs validateGroupCount
    simp only [checkWorker_bind_iff, onWorkerPlane_bind_iff]
    exact ⟨handoff_groups hlh, h.allocation.external_zero, st, p₁, hacc,
      (Call.bind_ok_iff _ _ _ _ _).mpr ⟨⟨⟩, w₁, h₁, hw'⟩⟩

theorem step_accepted {d : Deployment sha256} {m : GptOssCacheBlendMetadata sha256}
    (answers : LoadAnswers) (hmode : config.transfer = none)
    (hc : Calm config prompt kvCaches d) (hm : m ∈ d.steps) :
    ∃ w, startLoadKv config answers m d.worker = (.ok (), w) := by
  have hp := hc.steps m hm
  have hoff : config.transferEnabled = false := by
    unfold ConnectorConfig.transferEnabled
    rw [hmode]
    rfl
  have hsub : ∀ h ∈ m.handoffs, h ∈ d.handoffs :=
    fun h hh => List.mem_flatMap.mpr ⟨m, hm, hh⟩
  have hn : (m.handoffs.map (·.plan.requestId)).Nodup := by
    have hall := (List.nodup_append'.mp hc.flight.nodup).1
    have hs : m.handoffs.Sublist d.handoffs := List.sublist_flatten_of_mem
      (List.mem_map_of_mem (f := GptOssCacheBlendMetadata.handoffs) hm)
    exact hall.sublist (hs.map _)
  obtain ⟨w, hw⟩ := acceptHandoffs_returns answers hc.layout hp.layouts hn fun h hh => by
    cases hst : d.worker.controlPlane.states.get? h.plan.requestId with
    | none => rfl
    | some st =>
      exact absurd (List.mem_map_of_mem (hsub h hh)) (hc.delivered _ st hst).2
  refine ⟨w, ?_⟩
  unfold startLoadKv checkObservations
  rw [hp.transfers, hp.observations, hp.mode, hoff]
  simp only [checkWorker_bind_iff, read_bind, Bool.false_eq_true, if_false]
  refine ⟨hp.schema, hp.layers, trivial, Option.isNone_iff_eq_none.mpr hc.inactive,
    Nat.zero_le 1, trivial, (Call.bind_ok_iff _ _ _ _ _).mpr ⟨(), d.worker, rfl, ?_⟩⟩
  rw [checkWorker_bind_iff]
  refine ⟨rfl, (Call.bind_ok_iff _ _ _ _ _).mpr ⟨Dict.empty, w, hw, ?_⟩⟩
  rw [checkWorker_bind_iff]
  exact ⟨rfl, rfl⟩

/-! ## The scheduler hooks return -/

theorem emptyPlan_returns (id : String) (n : ℕ) (hid : id ≠ "") :
    ∃ plan, RequestPlan.new id n [] ⟨[], [], 0⟩ = .ok plan := by
  have hc : checkRequestPlan id n (sortedBy segmentSortKey []) ⟨[], [], 0⟩ = .ok () := by
    simp only [checkRequestPlan, checkMatches, sortedBy, coveredTokenCount, require]
    simp [hid, MatchPlan.matchedTokens]
    rfl
  unfold RequestPlan.new
  split
  · next code he =>
    rw [hc] at he
    cases he
  · exact ⟨_, rfl⟩

theorem waiting_planned {s : Engine} {id : String} {plan : RequestPlan}
    (hi : EngineInvariant sha256 config prompt s) (hmode : config.transfer = none)
    (hw : (s.views id).stage.waiting = true) (hp : (s.views id).stage ≠ .preempted)
    (hplan : RequestPlan.new id (prompt id).length [] ⟨[], [], 0⟩ = .ok plan) :
    Noted id (s.views id).preemptions s.connector.controlPlane s.connector.controlPlane
        (s.connector.requestPreemptions.get? id) ∧
      ∀ st, s.connector.controlPlane.states.get? id = some st → st.plan = plan := by
  have ht := hi.tracked id
  unfold Tracked at ht
  cases hstage : (s.views id).stage <;> rw [hstage] at ht hw hp
  · have hcount : s.connector.requestPreemptions.get? id = none :=
      congrArg RequestRecord.preemptions ht.1
    have hstate : s.connector.controlPlane.states.get? id = none :=
      congrArg RequestRecord.state ht.1
    rw [hcount, hstate]
    exact ⟨rfl, fun _ h => nomatch h⟩
  · obtain ⟨_, _, st, held, _⟩ := ht
    have hcount : s.connector.requestPreemptions.get? id = some (s.views id).preemptions :=
      held.counted
    have hstate : s.connector.controlPlane.states.get? id = some st := held.state
    rw [hcount, hstate]
    refine ⟨⟨le_rfl, by rw [if_neg (lt_irrefl _)]⟩, fun st' he => ?_⟩
    have hplain := held.plain hmode
    rw [hplan, Except.ok.injEq] at hplain
    rw [← Option.some_inj.mp he, hplain]
  · cases hw
  · exact absurd rfl hp
  · cases hw

theorem lookup_returns_iff {s : Engine} {id : String} (env : Environment) (computed : ℕ)
    (hi : EngineInvariant sha256 config prompt s) (hmode : config.transfer = none)
    (hw : (s.views id).stage.waiting = true) (hp : (s.views id).stage ≠ .preempted) :
    (∃ c, getNumNewMatchedTokens sha256 config env
      (vllmRequest prompt id (s.views id).preemptions) computed s.connector =
        (.ok (0, false), c)) ↔ id ≠ "" := by
  constructor
  · rintro ⟨c, hc⟩
    obtain ⟨_, _, _, tokens, _, he⟩ := lookup_record sha256 hi.usable hc
    cases he with
    | @controlFlow o st _ _ _ hplan _ =>
      have hne := RequestTransitions.RequestLifecycleState.plan_id_nonempty st.plan
      rw [requestPlan_new_id hplan] at hne
      exact hne
    | transfer ht =>
      rw [hmode] at ht
      cases ht
  · intro hid
    obtain ⟨plan, hplan⟩ := emptyPlan_returns id (prompt id).length hid
    obtain ⟨hnoted, hstate⟩ := waiting_planned hi hmode hw hp hplan
    obtain ⟨st, p, hlookup⟩ := lookup_returns hplan hstate
    exact ⟨_, (getNumNewMatchedTokens_ok_iff sha256 _ _ _ _ _ _ _).mpr ⟨rfl,
      Int.natCast_nonneg _, prompt id, copied_prompt id _,
      .controlFlow hmode hnoted hlookup rfl⟩⟩

theorem build_returns {s : Engine} (scheduled : Dict String ℤ)
    (hi : EngineInvariant sha256 config prompt s) (hmode : config.transfer = none)
    (hs : ∀ id ∈ s.connector.pendingHandoffIds, (s.views id).stage = .allocated) :
    ∃ m c, buildConnectorMeta sha256 config scheduled s.connector = (.ok m, c) := by
  obtain ⟨handoffs, p, hrun⟩ := EnginePreemption.planeHandoffs_return hi.pending_nodup
    fun id hm => by
      have ht := hi.tracked id
      unfold Tracked at ht
      rw [hs id hm] at ht
      obtain ⟨st, a, held, _, hrun⟩ := ht
      exact ⟨st, held.state, hrun.awaiting (hi.pending id hm).1⟩
  refine ⟨_, _, (buildConnectorMeta_ok_iff sha256 _ _ _ _ _).mpr
    ⟨handoffs, p, ([], []), hrun, ?_, rfl, rfl⟩⟩
  unfold stepContents
  rw [hmode]

variable (config prompt kvCaches) in
/-- What every hook does next in a deployment of control-flow mode. -/
structure HooksReturn (d : Deployment sha256) : Prop where
  registers : ∀ created, registerKvCaches config created kvCaches
    (WorkerConnector.new sha256 config) = (.ok (), registered sha256 config kvCaches)
  lookups : ∀ id env computed, (d.engine.views id).stage.waiting = true →
    ((∃ c, getNumNewMatchedTokens sha256 config env
      (vllmRequest prompt id (d.engine.views id).preemptions) computed d.engine.connector =
        (.ok (0, false), c)) ↔ id ≠ "")
  allocations : ∀ id tables, (d.engine.views id).stage = .lookedUp →
    legalTables config.adapted.numBlocks config.adapted.groupKinds tables = true →
    ((∃ c, updateStateAfterAlloc config id (observe tables) 0 d.engine.connector =
      (.ok (), c)) ↔ NullFree tables)
  builds : ∀ scheduled, ∃ m c,
    buildConnectorMeta sha256 config scheduled d.engine.connector = (.ok m, c) ∧
      m.transfers = []
  deliveries : ∀ m ∈ d.steps, ∀ answers, ∃ w,
    startLoadKv config answers m d.worker = (.ok (), w)
  layerLoads : ∀ layerName ∈ config.groupLayerNames.flatten,
    waitForLayerLoad layerName d.worker = (.ok (), d.worker)
  layerSaves : ∀ layerName kvLayer, kvCaches.get? layerName = some kvLayer →
    saveKvLayer layerName kvLayer d.worker = (.ok (), d.worker)
  saves : ∀ (σ : Type) (world : StoreWorld sha256 σ) (state : σ),
    waitForSave world state d.worker = (.ok (), d.worker)
  notices : ∀ ids, ∃ w, getFinished ids d.worker = (.ok (none, none), w)
  stats : ∃ r w, getKvConnectorStats d.worker = (.ok r, w)
  reports : ∃ r w, buildConnectorWorkerMeta d.worker = (.ok r, w)
  receives : ∀ batch ∈ d.outputs, ∃ c,
    updateConnectorOutput (some batch) d.engine.connector = (.ok (), c)
  completions : ∀ id, (d.engine.views id).stage = .allocated →
    (d.engine.views id).handedOff = true → (d.engine.views id).outstanding = false → ∃ c,
      requestFinishedAllGroups config id (integers (d.engine.views id).tables)
        d.engine.connector = (.ok (false, none), c)

theorem allocation_returns_iff {s : Engine} {id : String} {tables : List (List ℕ)}
    (hi : EngineInvariant sha256 config prompt s) (hs : (s.views id).stage = .lookedUp)
    (hl : legalTables config.adapted.numBlocks config.adapted.groupKinds tables = true) :
    (∃ c, updateStateAfterAlloc config id (observe tables) 0 s.connector = (.ok (), c)) ↔
      NullFree tables := by
  constructor
  · rintro ⟨c, hc⟩
    exact (allocate_record sha256 hi.usable ((legalTables_iff _ _ _).mp hl) hc).2.1
  · exact EnginePreemption.allocate_again hi hs hl

theorem pending_allocated {d : Deployment sha256} (hf : Flight config prompt d) (id : String)
    (hm : id ∈ d.engine.connector.pendingHandoffIds) :
    (d.engine.views id).stage = .allocated := by
  obtain ⟨hoff, hs | hs⟩ := hf.engine.pending id hm
  · exact hs
  · rw [hf.completed id hs] at hoff
    cases hoff

theorem register_returns (created : Except ConnectorError Unit)
    (hmode : config.transfer = none)
    (hnames : ∀ name, name ∈ kvCaches.keys ↔ name ∈ config.groupLayerNames.flatten) :
    registerKvCaches config created kvCaches (WorkerConnector.new sha256 config) =
      (.ok (), registered sha256 config kvCaches) := by
  have hoff : config.transferEnabled = false := by
    unfold ConnectorConfig.transferEnabled
    rw [hmode]
    rfl
  have hnone (names names' : List String) (h : ∀ name ∈ names, name ∈ names') :
      sortedBy id (names.filter (· ∉ names')) = [] := by
    rw [List.filter_eq_nil_iff.mpr fun name hm => by simpa using h name hm]
    rfl
  unfold registerKvCaches registered
  rw [read_bind, checkWorker_bind_iff, checkWorker_bind_iff, Call.modify_bind, hoff]
  exact ⟨rfl, ⟨hnone _ _ fun name => (hnames name).mpr, hnone _ _ fun name => (hnames name).mp⟩,
    rfl⟩

theorem getFinished_returns (ids : List String) {w : WorkerConnector sha256}
    (hw : w.activeWorkerTransfer = none) :
    ∃ w', getFinished ids w = (.ok (none, none), w') := by
  obtain ⟨w', hd, _⟩ := discardAll_quiet ids w
  refine ⟨w', ?_⟩
  have hnone : ∀ active ∈ w.activeWorkerTransfer, active.metadata.requestId ∉ ids := by
    rw [hw]
    exact fun _ h => nomatch h
  unfold getFinished
  rw [read_bind, checkWorker_bind_iff]
  exact ⟨hnone, (Call.bind_ok_iff _ _ _ _ _).mpr ⟨(), w', hd, rfl⟩⟩

theorem stats_return (w : WorkerConnector sha256) :
    ∃ r w', getKvConnectorStats w = (.ok r, w') := by
  unfold getKvConnectorStats
  rw [read_bind]
  split_ifs
  · exact ⟨none, w, rfl⟩
  · refine ⟨_, _, (onStats_bind_iff _ _ _ _ _).mpr ⟨w.stats, .empty, ?_, rfl⟩⟩
    unfold GptOssCacheBlendStats.cloneAndReset
    rw [read_bind, check_then_iff]
    exact ⟨fun key _ => w.stats.nonnegative key, rfl⟩

/-- In every run of control-flow mode in which requests finish after their
receipts, every hook returns, reports no token and emits no transfer. An
allocation of tables that vLLM can give returns exactly when no table holds
the null block, and a lookup exactly when the request has a name. -/
theorem control_flow_hooks_return (hmode : config.transfer = none)
    (hnames : ∀ name, name ∈ kvCaches.keys ↔ name ∈ config.groupLayerNames.flatten)
    {d : Deployment sha256} (h : OrderlyDeployed sha256 config prompt kvCaches d) :
    HooksReturn config prompt kvCaches d := by
  have hc := orderly_calm hmode h
  have hi := hc.flight.engine
  refine ⟨fun created => register_returns created hmode hnames, fun id env computed hw =>
    lookup_returns_iff env computed hi hmode hw (hc.flight.unpreempted id),
    fun id tables hs hl => allocation_returns_iff hi hs hl, fun scheduled => ?_,
    fun m hm answers => step_accepted answers hmode hc hm, fun name hn => ?_,
    fun name kvLayer hl => ?_, fun σ world state => ?_,
    fun ids => getFinished_returns ids hc.inactive, stats_return d.worker, ?_,
    fun batch hb => ?_, fun id hs _ _ => ?_⟩
  · obtain ⟨m, c, hb⟩ := build_returns scheduled hi hmode (pending_allocated hc.flight)
    exact ⟨m, c, hb, (built_plain hi hmode hb).transfers⟩
  · unfold waitForLayerLoad
    rw [read_bind, checkWorker_bind_iff, hc.registered]
    exact ⟨(hnames name).mpr hn, rfl⟩
  · unfold saveKvLayer
    rw [read_bind, checkWorker_bind_iff, checkWorker_bind_iff, hc.registered, hc.inactive]
    exact ⟨(Dict.mem_keys _ _).mpr ⟨kvLayer, hl⟩, hl, rfl⟩
  · unfold waitForSave
    rw [read_bind, hc.inactive]
    rfl
  · rw [buildConnectorWorkerMeta_run]
    split_ifs <;> exact ⟨_, _, rfl⟩
  · refine (batch_returns_iff hc.flight hb).mpr (Or.inr fun r hr hs => ?_)
    obtain ⟨_, _, ha⟩ := batch_due hc.flight hb hr
    have hout := ha.outstanding
    rw [hc.settled _ hs] at hout
    cases hout
  · have ht := hi.tracked id
    unfold Tracked at ht
    rw [hs] at ht
    obtain ⟨st, a, held, howns, hrun⟩ := ht
    exact finish_returns (tablesGrown_lengths hrun.grown).2 held.state
      (running_accepted howns hrun)

end

/-! ## A prefix hit outside the window -/

def orderlyAfter (prompt : String → List TokenId) (events : List (DeploymentEvent zeroHash)) :
    Deployment zeroHash :=
  ran (deployOrderly zeroHash controlFlowConfig prompt)
    (Deployment.initial zeroHash controlFlowConfig exampleCaches) events

/-- One request from its lookups to its completion with a grown table. -/
def orderlyRun : List (DeploymentEvent zeroHash) :=
  [.scheduler (.lookup "r" emptyEnvironment 0), .scheduler (.lookup "r" emptyEnvironment 0),
    .scheduler (.allocate "r" exampleTables), .build oneScheduled,
    .deliver 0 ⟨true, true, none, true⟩, .saveLayer "model.layers.0.attn" 0, .report,
    .receive 0, .scheduler (.grow "r" 0 3), .scheduler (.slide "r" 0), .finish "r",
    .getFinished ["r"], .stats]

theorem exampleCaches_keys :
    exampleCaches.keys = controlFlowConfig.groupLayerNames.flatten := by
  decide +kernel

theorem orderly_hooks_return :
    HooksReturn controlFlowConfig onePrompt exampleCaches (orderlyAfter onePrompt orderlyRun) :=
  control_flow_hooks_return rfl (fun _ => by rw [exampleCaches_keys])
    (ran_reached orderlyRun (by decide +kernel))

def repeatedPrompt : String → List TokenId := fun _ => List.replicate 160 0

/-- The window of the next token begins in the second block, so the first block
of the sliding group is the null block. -/
def prefixTables : List (List ℕ) :=
  [[0, 1, 2, 3, 4, 5, 6, 7, 8, 9], [10, 11, 12, 13, 14, 15, 16, 17, 18, 19]]

def prefixRun : List (DeploymentEvent zeroHash) :=
  [.scheduler (.lookup "r" emptyEnvironment 144)]

/-- The tables of the prefix hit are legal, and the adapter refuses them. -/
theorem prefix_allocation_raises :
    OrderlyDeployed zeroHash controlFlowConfig repeatedPrompt exampleCaches
        (orderlyAfter repeatedPrompt prefixRun) ∧
      ((orderlyAfter repeatedPrompt prefixRun).engine.views "r").stage = .lookedUp ∧
      legalTables controlFlowConfig.adapted.numBlocks controlFlowConfig.adapted.groupKinds
        prefixTables = true ∧
      (updateStateAfterAlloc controlFlowConfig "r" (observe prefixTables) 0
        (orderlyAfter repeatedPrompt prefixRun).engine.connector).1 =
          .error (.adapter .nullBlockUnsupported) :=
  ⟨ran_reached prefixRun (by decide +kernel), by decide +kernel, by decide +kernel,
    by decide +kernel⟩

end CacheBlend.ControlFlowHooks
