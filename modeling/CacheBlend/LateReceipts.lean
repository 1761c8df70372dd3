import CacheBlend.Deployments
import CacheBlend.EngineCompletion

/-!
# Receipts of finished requests

The scheduler may finish the requests of a step before it applies the output
of that step. In transfer mode the connector keeps a finished request until
its receipt arrives. In control-flow mode it forgets the request at once,
although the worker answers the handoff in this mode too.
-/

set_option autoImplicit false

namespace CacheBlend.LateReceipts
open CacheBlend.PlannerModels CacheBlend.RequestLifecycle CacheBlend.RequestTransitions
open CacheBlend.ControlPlane CacheBlend.SchedulerRuntime CacheBlend.TransferRuntime
open CacheBlend.SchedulerHooks CacheBlend.HookEffects CacheBlend.ConnectorRecords
open CacheBlend.EngineRuns CacheBlend.WorkerHooks CacheBlend.WorkerEffects
open CacheBlend.Deployments

/-- The record still has the handed-off state that the receipt is for. -/
def Applicable (r : RequestRecord) (receipt : WorkerValidationReceipt) : Prop :=
  ∃ st h, r.state = some st ∧ st.handoffMetadata = some h ∧ Disposes h receipt ∧
    st.workerValidation = none

theorem receipt_applies {s : SchedulerConnector} {receipt : WorkerValidationReceipt}
    (h : Applicable (record s receipt.requestId) receipt) :
    ∃ c, applyReceipt receipt s = (.ok (), c) := by
  obtain ⟨st, m, hst, hm, hd, hw⟩ := h
  have hplan := (handoff_links st m hm).1
  obtain ⟨st', hs⟩ := RequestTransitions.RequestLifecycleState.applyWorkerValidation_returns st
    receipt m hm hd.allocation (hplan ▸ hd.complete) (by rw [hw]; exact fun _ h => nomatch h)
  exact ⟨_, (applyReceipt_ok_iff _ _ _).mpr ⟨st', _, updateState_run hst hs, rfl⟩⟩

section
variable {sha256 : Bytes → Digest} {config : ConnectorConfig} {prompt : String → List TokenId}

theorem receipts_apply {receipts : List WorkerValidationReceipt} {s : SchedulerConnector}
    (hu : Usable sha256 config s)
    (hn : (receipts.map WorkerValidationReceipt.requestId).Nodup)
    (h : ∀ receipt ∈ receipts, Applicable (record s receipt.requestId) receipt) :
    ∃ c, applyReceipts receipts s = (.ok (), c) := by
  induction receipts generalizing s with
  | nil => exact ⟨s, rfl⟩
  | cons receipt receipts ih =>
    rw [List.map_cons, List.nodup_cons] at hn
    obtain ⟨c, hc⟩ := receipt_applies (h receipt List.mem_cons_self)
    obtain ⟨hu', _, hothers, _⟩ := receipt_record sha256 hu hc
    have hrest : ∀ r ∈ receipts, Applicable (record c r.requestId) r := by
      intro r hr
      have hne : r.requestId ≠ receipt.requestId :=
        fun he => hn.1 (he ▸ List.mem_map_of_mem hr)
      rw [hothers _ hne]
      exact h r (List.mem_cons_of_mem _ hr)
    obtain ⟨c', hc'⟩ := ih hu' hn.2 hrest
    exact ⟨c', (Call.bind_ok_iff _ _ _ _ _).mpr ⟨(), c, hc, hc'⟩⟩

theorem batch_nodup {d : Deployment sha256} {batch : List WorkerValidationReceipt}
    (hf : Flight config prompt d) (hb : batch ∈ d.outputs) :
    (batch.map WorkerValidationReceipt.requestId).Nodup := by
  have hr := (List.nodup_append'.mp hf.nodup).2.1
  have hsub : batch.Sublist d.receipts :=
    (List.sublist_flatten_of_mem hb).trans (List.sublist_append_right _ _)
  exact hr.sublist (hsub.map _)

theorem batch_due {d : Deployment sha256} {batch : List WorkerValidationReceipt}
    (hf : Flight config prompt d) (hb : batch ∈ d.outputs) {r : WorkerValidationReceipt}
    (hr : r ∈ batch) : ∃ h, Disposes h r ∧
      Awaiting config (d.engine.views r.requestId) (record d.engine.connector r.requestId) h := by
  obtain ⟨h, hd, hdis⟩ := hf.receipts r
    (List.mem_append_right _ (List.mem_flatten.mpr ⟨batch, hb, hr⟩))
  refine ⟨h, hdis, ?_⟩
  rw [hdis.request]
  exact hd

theorem finished_forgotten {d : Deployment sha256} {id : String}
    (hf : Flight config prompt d) (hs : (d.engine.views id).stage = .finished)
    (hmode : config.transferEnabled = false) :
    (record d.engine.connector id).state = none := by
  have ht := hf.engine.tracked id
  unfold Tracked at ht
  rw [hs] at ht
  obtain ⟨he, _⟩ | ⟨_, _, hon, _⟩ := ht
  · rw [he]
    rfl
  · rw [hmode] at hon
    cases hon

variable (config) in
/-- How the scheduler connector takes the reports that are on their way. -/
structure Absorbed (d : Deployment sha256) : Prop where
  returns : ∀ batch ∈ d.outputs,
    (∃ c, updateConnectorOutput (some batch) d.engine.connector = (.ok (), c)) ↔
      (config.transferEnabled = true ∨
        ∀ r ∈ batch, (d.engine.views r.requestId).stage ≠ .finished)
  others : ∀ batch ∈ d.outputs, ∀ c,
    updateConnectorOutput (some batch) d.engine.connector = (.ok (), c) →
      ∀ id, id ∉ batch.map WorkerValidationReceipt.requestId →
        record c id = record d.engine.connector id
  settled : ∀ id, (d.engine.views id).stage = .finished →
    (d.engine.views id).outstanding = false →
      d.engine.connector.controlPlane.states.get? id = none

theorem batch_returns_iff {d : Deployment sha256} {batch : List WorkerValidationReceipt}
    (hf : Flight config prompt d) (hb : batch ∈ d.outputs) :
    (∃ c, updateConnectorOutput (some batch) d.engine.connector = (.ok (), c)) ↔
      (config.transferEnabled = true ∨
        ∀ r ∈ batch, (d.engine.views r.requestId).stage ≠ .finished) := by
  have hn := batch_nodup hf hb
  constructor
  · rintro ⟨c, hc⟩
    by_contra hno
    obtain ⟨hmode, hfin⟩ := not_or.mp hno
    obtain ⟨r, hr⟩ := not_forall.mp hfin
    obtain ⟨hr, hs⟩ := Classical.not_imp.mp hr
    obtain ⟨_, _, _, heffects⟩ := receipts_record sha256 hf.engine.usable hn hc
    obtain ⟨st, _, hst, _⟩ := heffects r hr
    rw [finished_forgotten hf (not_not.mp hs) (Bool.eq_false_iff.mpr hmode)] at hst
    cases hst
  · intro hok
    refine receipts_apply hf.engine.usable hn fun r hr => ?_
    obtain ⟨h, hdis, ha⟩ := batch_due hf hb hr
    obtain ⟨st, hst, hh, hw⟩ | ⟨hs, hmode, _⟩ := ha.state
    · exact ⟨st, h, hst, hh, hdis, hw⟩
    · obtain hon | hfin := hok
      · rw [hmode] at hon
        cases hon
      · exact absurd hs (hfin r hr)

theorem finished_settled {d : Deployment sha256} {id : String} (hf : Flight config prompt d)
    (hs : (d.engine.views id).stage = .finished)
    (ho : (d.engine.views id).outstanding = false) :
    (record d.engine.connector id).state = none := by
  have ht := hf.engine.tracked id
  unfold Tracked at ht
  rw [hs] at ht
  obtain ⟨he, _⟩ | ⟨_, _, _, _, hout, _⟩ := ht
  · rw [he]
    rfl
  · rw [hout (hf.completed id hs)] at ho
    cases ho

/-- In every run a report is applied without an error exactly when the
connector is in transfer mode or none of its requests is finished. A report
changes no other request, and a finished request whose receipt was applied has
no state. -/
theorem late_receipts_absorbed {kvCaches : Dict String ℕ} {d : Deployment sha256}
    (h : Deployed sha256 config prompt kvCaches d) : Absorbed config d := by
  have hf := deployed_flight h
  refine ⟨fun batch hb => batch_returns_iff hf hb, fun batch hb c hc => ?_,
    fun id hs ho => finished_settled hf hs ho⟩
  obtain ⟨_, _, hothers, _⟩ :=
    receipts_record sha256 hf.engine.usable (batch_nodup hf hb) hc
  exact hothers

end

/-! ## A request that finishes before its receipt arrives -/

open CacheBlend.EngineCompletion

def exampleCaches : Dict String ℕ :=
  (Dict.empty.set "model.layers.0.attn" 0).set "model.layers.1.attn" 1

/-- The step of one request is delivered and reported, and the request finishes. -/
def lateRun : List (DeploymentEvent zeroHash) :=
  [.scheduler (.lookup "r" emptyEnvironment 0), .scheduler (.allocate "r" exampleTables),
    .build oneScheduled, .deliver 0 ⟨true, true, none, true⟩, .report, .finish "r"]

def deployedAfter (config : ConnectorConfig) (events : List (DeploymentEvent zeroHash)) :
    Deployment zeroHash :=
  ran (deploy zeroHash config onePrompt) (Deployment.initial zeroHash config exampleCaches) events

theorem deployedAfter_deployed {config : ConnectorConfig}
    {events : List (DeploymentEvent zeroHash)}
    (h : (execute (deploy zeroHash config onePrompt)
      (Deployment.initial zeroHash config exampleCaches) events).isSome = true) :
    Deployed zeroHash config onePrompt exampleCaches (deployedAfter config events) :=
  ran_reached events h

/-- In transfer mode the late receipt of this run is applied. -/
theorem late_receipt_absorbed : Absorbed transferConfig (deployedAfter transferConfig lateRun) :=
  late_receipts_absorbed (deployedAfter_deployed (by decide +kernel))

/-- In control-flow mode the request is unknown when its receipt arrives. -/
theorem late_receipt_raises :
    Deployed zeroHash controlFlowConfig onePrompt exampleCaches
        (deployedAfter controlFlowConfig lateRun) ∧
      ((deployedAfter controlFlowConfig lateRun).outputs.map fun batch =>
        (updateConnectorOutput (some batch)
          (deployedAfter controlFlowConfig lateRun).engine.connector).1) =
        [.error (.controlPlane ⟨.unknownRequest, .operation⟩)] :=
  ⟨deployedAfter_deployed (by decide +kernel), by decide +kernel⟩

end CacheBlend.LateReceipts
