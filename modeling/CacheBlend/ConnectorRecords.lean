import CacheBlend.HookEffects
import CacheBlend.RuntimeLookups

/-!
# What the connector keeps for a request

The record of a request gathers every entry of the connector under its
identifier. A hook that returns changes the records of the requests it is
called for and no other record, so statements about one request do not
depend on the others.
-/

set_option autoImplicit false

namespace CacheBlend.ConnectorRecords
open CacheBlend.PlannerModels CacheBlend.RequestLifecycle CacheBlend.RequestTransitions
open CacheBlend.ControlPlane CacheBlend.VllmAdapters CacheBlend.SchedulerRuntime
open CacheBlend.TransferRuntime CacheBlend.RuntimeLookups CacheBlend.SchedulerHooks
open CacheBlend.HookEffects CacheBlend.CompletionTables

structure RequestRecord where
  state : Option RequestLifecycleState
  preemptions : Option ℕ
  known : Bool
  finished : Bool
  metadata : Option SchedulerLookupMetadata
  observation : Option CacheBlendLookupObservation
  retained : Option StoredRequest
  deriving DecidableEq

def RequestRecord.empty : RequestRecord := ⟨none, none, false, false, none, none, none⟩

def record (s : SchedulerConnector) (id : String) : RequestRecord where
  state := s.controlPlane.states.get? id
  preemptions := s.requestPreemptions.get? id
  known := decide (id ∈ s.knownRequestIds)
  finished := decide (id ∈ s.finishedRequestIds)
  metadata := s.schedulerLookupMetadata.get? id
  observation := s.schedulerLookupObservations.get? id
  retained := s.runtime.bind fun rt => rt.requests.get? id

theorem record_new (config : ConnectorConfig) (id : String) :
    record (SchedulerConnector.new config) id = .empty := by
  unfold record SchedulerConnector.new RequestControlPlane.new
  cases config.transfer <;> rfl

/-- The planes agree on every request but one. -/
def OnlyAt (id : String) (p p' : RequestControlPlane) : Prop :=
  p'.groupLayout = p.groupLayout ∧
    ∀ id', id' ≠ id → p'.states.get? id' = p.states.get? id'

theorem onlyAt_refl (id : String) (p : RequestControlPlane) : OnlyAt id p p :=
  ⟨rfl, fun _ _ => rfl⟩

theorem onlyAt_trans {id : String} {p p' p'' : RequestControlPlane} (h : OnlyAt id p p')
    (h' : OnlyAt id p' p'') : OnlyAt id p p'' :=
  ⟨h'.1.trans h.1, fun id' hne => (h'.2 id' hne).trans (h.2 id' hne)⟩

theorem onlyAt_put (id : String) (p : RequestControlPlane) (st : RequestLifecycleState) :
    OnlyAt id p (p.put id st) :=
  ⟨rfl, fun _ hne => put_get?_ne p st hne⟩

/-- What a preemption does to a state that is not finished. -/
def Preempted (st st' : RequestLifecycleState) : Prop :=
  st.phase ≠ .finished ∧ ((st.phase = .lookedUp ∧ st' = st) ∨
    (st.phase ≠ .lookedUp ∧ st'.toLifecycleFields =
      { st.toLifecycleFields with
        phase := .lookedUp
        allocationGeneration := st.allocationGeneration+1
        allocation := none
        handoffMetadata := none
        workerValidation := none
        preemptionCount := st.preemptionCount+1 }))

/-- The state of a request after its preemption count was reported. -/
def NotedState (preemptions : ℕ) :
    Option ℕ → Option RequestLifecycleState → Option RequestLifecycleState → Prop
  | none, before, after => after = before
  | some previous, before, after => previous ≤ preemptions ∧
    if preemptions > previous then
      ∃ st st', before = some st ∧ Preempted st st' ∧ after = some st'
    else after = before

theorem noted_state {id : String} {preemptions : ℕ} {p p' : RequestControlPlane}
    {previous : Option ℕ} (h : Noted id preemptions p p' previous) :
    OnlyAt id p p' ∧
      NotedState preemptions previous (p.states.get? id) (p'.states.get? id) := by
  cases previous with
  | none =>
    cases h
    exact ⟨onlyAt_refl id p, rfl⟩
  | some previous =>
    obtain ⟨hle, h⟩ := h
    by_cases hp : preemptions > previous
    · rw [if_pos hp] at h
      obtain ⟨st', hc⟩ := h
      obtain ⟨st, hst, hpre, rfl⟩ := planeOutcome_elim (preempt_outcome p id) hc
      refine ⟨onlyAt_put id p st', hle, ?_⟩
      rw [if_pos hp]
      exact ⟨st, st', hst, hpre, put_get?_self p id st'⟩
    · rw [if_neg hp] at h
      subst h
      exact ⟨onlyAt_refl id p', hle, by rw [if_neg hp]⟩

/-- The state of a request after its lookup: a new one, or the one it had. -/
def LookedUpState (plan : RequestPlan) (before : Option RequestLifecycleState)
    (st : RequestLifecycleState) : Prop :=
  (before = some st ∧ st.plan = plan) ∨
    (before = none ∧ st.toLifecycleFields = ⟨plan, .lookedUp, 0, none, none, none, 0⟩)

theorem lookup_state {id : String} {promptTokens : ℤ} {segments : List TokenSegment}
    {matchPlan : MatchPlan} {p p' : RequestControlPlane} {st : RequestLifecycleState}
    (h : RequestControlPlane.lookup id promptTokens segments matchPlan p = (.ok st, p')) :
    OnlyAt id p p' ∧ RequestPlan.new id promptTokens segments matchPlan = .ok st.plan ∧
      p'.states.get? id = some st ∧ LookedUpState st.plan (p.states.get? id) st := by
  obtain ⟨hplan, ⟨hst, rfl⟩ | ⟨hst, rfl, hf⟩⟩ :=
    planeOutcome_elim (lookup_outcome p id promptTokens segments matchPlan) h
  · exact ⟨onlyAt_refl id p', hplan, hst, Or.inl ⟨hst, rfl⟩⟩
  · exact ⟨onlyAt_put id p st, hplan, put_get?_self p id st, Or.inr ⟨hst, hf⟩⟩

section
variable (sha256 : Bytes → Digest)

/-- The connector is of the configured mode and its lookup runtime is usable. -/
structure Usable (config : ConnectorConfig) (s : SchedulerConnector) : Prop where
  layout : s.controlPlane.groupLayout = config.adapted.controlPlaneLayout
  runtime : ∀ t, config.transfer = some t → ∃ rt, s.runtime = some rt ∧ Sound sha256 t rt

theorem usable_new (config : ConnectorConfig) :
    Usable sha256 config (SchedulerConnector.new config) where
  layout := rfl
  runtime t ht := by
    refine ⟨SchedulerLookupRuntime.initial, ?_, sound_initial sha256 t⟩
    unfold SchedulerConnector.new
    rw [ht]
    rfl

/-- What a returned lookup does to the record of its request. -/
inductive LookupEffect (config : ConnectorConfig) (request : VllmRequest)
    (prompt : List TokenId) (numComputedTokens : ℕ) (r r' : RequestRecord) : Prop
  | controlFlow {o : Option RequestLifecycleState} {st : RequestLifecycleState} :
      config.transfer = none → NotedState request.numPreemptions.toNat r.preemptions r.state o →
      LookedUpState st.plan o st →
      RequestPlan.new request.requestId prompt.length [] ⟨[], [], 0⟩ = .ok st.plan →
      r' = { r with
        state := some st, preemptions := some request.numPreemptions.toNat, known := true } →
      LookupEffect config request prompt numComputedTokens r r'
  | transfer {o : Option RequestLifecycleState} {st : RequestLifecycleState}
      {t : RuntimeConfig} {answered : SchedulerLookupRequest} {md : SchedulerLookupMetadata} :
      config.transfer = some t → NotedState request.numPreemptions.toNat r.preemptions r.state o →
      LookedUpState st.plan o st → st.plan.requestId = request.requestId →
      st.plan = md.requestPlan →
      SchedulerLookupRequest.new request.requestId prompt 1 0 numComputedTokens
        request.numExternalComputedTokens.toNat request.numPreemptions.toNat = .ok answered →
      Follows answered md r.retained → (observationOf prompt.length md).Valid →
      r' = { r with
        state := some st
        preemptions := some request.numPreemptions.toNat
        known := true
        metadata := some md
        observation := some (observationOf prompt.length md)
        retained := some ⟨answered, md⟩ } →
      LookupEffect config request prompt numComputedTokens r r'

theorem request_new_fields {id : String} {prompt : List TokenId}
    {sequenceCount stepIndex computed external preemptions : ℕ} {r : SchedulerLookupRequest}
    (h : SchedulerLookupRequest.new id prompt sequenceCount stepIndex computed external
      preemptions = .ok r) :
    r.requestId = id ∧ r.promptTokenIds = prompt ∧ r.preemptionCount = preemptions := by
  unfold SchedulerLookupRequest.new at h
  split_ifs at h
  cases h
  exact ⟨rfl, rfl, rfl⟩

theorem lookup_record {config : ConnectorConfig} {env : Environment} {request : VllmRequest}
    {numComputedTokens : ℕ} {s s' : SchedulerConnector} {r : ℤ × Bool}
    (hu : Usable sha256 config s)
    (h : getNumNewMatchedTokens sha256 config env request numComputedTokens s = (.ok r, s')) :
    Usable sha256 config s' ∧ s'.pendingHandoffIds = s.pendingHandoffIds ∧
      (∀ id, id ≠ request.requestId → record s' id = record s id) ∧
      ∃ prompt, copyRequestPromptTokenIds request = .ok prompt ∧
        LookupEffect config request prompt numComputedTokens (record s request.requestId)
          (record s' request.requestId) := by
  obtain ⟨_, _, prompt, hprompt, hl⟩ := (getNumNewMatchedTokens_ok_iff sha256 _ _ _ _ _ _ _).mp h
  cases hl with
  | @controlFlow p p' st ht hnote hlookup hs =>
    obtain ⟨hp, hnoted⟩ := noted_state hnote
    obtain ⟨hp', hplan, hst, hlooked⟩ := lookup_state hlookup
    have hall := onlyAt_trans hp hp'
    subst hs
    refine ⟨⟨hall.1.trans hu.layout, hu.runtime⟩, rfl, fun id hne => ?_,
      prompt, hprompt, .controlFlow ht hnoted hlooked hplan ?_⟩
    · simp [record, hall.2 id hne, Dict.get?_set_ne _ _ hne, hne]
    · simp [record, hst]
  | @transfer p p' st t rt rt' md ht hnote hrt ha hlookup hs =>
    obtain ⟨rt₀, hrt₀, hsound⟩ := hu.runtime t ht
    rw [hrt] at hrt₀
    cases hrt₀
    obtain ⟨answered, hnew, hl⟩ := ha.answered
    have hkeep := lookup_retains sha256 t hsound ha.nonfatal hl
    obtain ⟨hid, _, _⟩ := request_new_fields hnew
    have hown := hkeep.own
    have hplanId : md.requestPlan.requestId = request.requestId :=
      (hkeep.sound.retained _ _ hown).2.plan_id.trans hid
    rw [hid] at hown
    obtain ⟨hp, hnoted⟩ := noted_state hnote
    obtain ⟨hp', hplan, hst, hlooked⟩ := lookup_state hlookup
    rw [plan_new_self, Except.ok.injEq] at hplan
    rw [hplanId] at hp' hst hlooked
    have hall := onlyAt_trans hp hp'
    have hothers := hkeep.others
    have hfollows := hkeep.follows
    rw [hid] at hothers hfollows
    subst hs
    refine ⟨⟨hall.1.trans hu.layout, fun t' ht' => ?_⟩, rfl, fun id hne => ?_, prompt, hprompt,
      .transfer ht hnoted hlooked (hplan ▸ hplanId) hplan.symm hnew ?_ ha.observed ?_⟩
    · rw [ht] at ht'
      cases ht'
      exact ⟨rt', rfl, hkeep.sound⟩
    · simp [record, hall.2 id hne, Dict.get?_set_ne _ _ hne, hne, hrt, hothers id hne]
    · simpa [record, hrt] using hfollows
    · simp [record, hst, hown]

/-- What a returned allocation does to the record of its request. -/
structure AllocationEffect (layout : CacheGroupLayout) (tables : List (List ℕ))
    (r r' : RequestRecord) (st st' : RequestLifecycleState) (a : RequestAllocation) : Prop where
  known : r.known = true
  before : r.state = some st
  after : r' = { r with state := some st' }
  layout_eq : a.groupedBlocks.groupLayout = layout
  tables_eq : a.groupedBlocks.blockIdsByGroup = tables
  bound : Bound st.toLifecycleFields a
  cases : (st.phase = .lookedUp ∧ st'.toLifecycleFields =
      { st.toLifecycleFields with phase := .allocated, allocation := some a }) ∨
    (st.phase ≠ .lookedUp ∧ st.allocation = some a ∧ st' = st)

theorem capture_tables {config : ConnectorConfig} {tables : List (List ℕ)}
    (hl : List.Forall₂ (LegalTable config.adapted.numBlocks) config.adapted.groupKinds tables)
    (hn : NullFree tables) {g : GroupedBlockAllocation}
    (hg : GroupedBlockAllocation.capture config.adapted.controlPlaneLayout (integers tables) =
      .ok g) : g.blockIdsByGroup = tables := by
  have hd : ∀ table ∈ tables, table.Nodup := by
    intro table ht
    obtain ⟨_, _, hlegal⟩ := forall₂_right hl ht
    exact legal_nodup hlegal (hn table ht)
  obtain ⟨g', hg', _, hids⟩ := capture_returns config.adapted.controlPlaneLayout tables
    (hl.length_eq.symm.trans (groupCount_eq config.adapted).symm) hd
  unfold integers at hg
  rw [hg'] at hg
  cases hg
  exact hids

theorem allocate_record {config : ConnectorConfig} {id : String} {tables : List (List ℕ)}
    {external : ℤ} {s s' : SchedulerConnector} (hu : Usable sha256 config s)
    (hl : List.Forall₂ (LegalTable config.adapted.numBlocks) config.adapted.groupKinds tables)
    (h : updateStateAfterAlloc config id (observe tables) external s = (.ok (), s')) :
    Usable sha256 config s' ∧ NullFree tables ∧
      s'.pendingHandoffIds = (if id ∈ s.pendingHandoffIds then s.pendingHandoffIds
        else s.pendingHandoffIds ++ [id]) ∧
      (∀ id', id' ≠ id → record s' id' = record s id') ∧
      ∃ st st' a, AllocationEffect config.adapted.controlPlaneLayout tables (record s id)
        (record s' id) st st' a := by
  obtain ⟨_, hk, adapted, st', p, ha, hc, rfl⟩ := (updateStateAfterAlloc_ok_iff _ _ _ _ _ _).mp h
  have hn := adapt_nullFree hl ha
  obtain ⟨_, ha', hids⟩ := adapt_returns hl hn
  rw [ha] at ha'
  cases ha'
  rw [hids] at hc
  obtain ⟨st, hst, ⟨a, hb, hcapture, hcases⟩, rfl⟩ :=
    planeOutcome_elim (allocate_outcome s.controlPlane id (integers tables) 0) hc
  rw [hu.layout] at hcapture
  refine ⟨⟨hu.layout, hu.runtime⟩, hn, rfl, fun id' hne => ?_, st, st', a, ?_⟩
  · simp [record, put_get?_ne _ _ hne]
  · refine ⟨decide_eq_true hk, hst, ?_, capture_layout hcapture, capture_tables hl hn hcapture,
      hb, hcases⟩
    simp [record]

def HandedOff (h : RequestHandoffMetadata) (st st' : RequestLifecycleState) : Prop :=
  st'.handoffMetadata = some h ∧
    ((st.phase = .allocated ∧ h.plan = st.plan ∧ st.allocation = some h.allocation ∧
      st'.toLifecycleFields =
        { st.toLifecycleFields with phase := .handedOff, handoffMetadata := some h }) ∨
    st' = st)

theorem planeHandoffs_states {ids : List String} {p p' : RequestControlPlane}
    {handoffs : List RequestHandoffMetadata} (hn : ids.Nodup)
    (h : planeHandoffs ids p = (.ok handoffs, p')) :
    p'.groupLayout = p.groupLayout ∧
      (∀ id, id ∉ ids → p'.states.get? id = p.states.get? id) ∧
      List.Forall₂ (fun id handoff => ∃ st st', p.states.get? id = some st ∧
        HandedOff handoff st st' ∧ p'.states.get? id = some st') ids handoffs := by
  induction ids generalizing p handoffs with
  | nil =>
    obtain ⟨rfl, rfl⟩ := (Call.pure_ok_iff _ _ _ _).mp h
    exact ⟨rfl, fun _ _ => rfl, .nil⟩
  | cons id ids ih =>
    obtain ⟨hid, hids⟩ := List.nodup_cons.mp hn
    obtain ⟨handoff, p₁, h₁, h⟩ := (Call.bind_ok_iff _ _ _ _ _).mp h
    obtain ⟨rest, p₂, h₂, h⟩ := (Call.bind_ok_iff _ _ _ _ _).mp h
    obtain ⟨rfl, rfl⟩ := (Call.pure_ok_iff _ _ _ _).mp h
    obtain ⟨st, st', hst, hmeta, rfl, hcase⟩ := planeOutcome_elim (handoff_outcome p id) h₁
    obtain ⟨hlayout, hothers, hrest⟩ := ih hids h₂
    refine ⟨hlayout, fun id' hne => ?_, .cons ⟨st, st', hst, ⟨hmeta, hcase⟩, ?_⟩ ?_⟩
    · obtain ⟨hne, hnot⟩ := not_or.mp (fun hm => hne (List.mem_cons.mpr hm))
      rw [hothers id' hnot, put_get?_ne _ _ hne]
    · rw [hothers id hid, put_get?_self]
    · refine forall₂_imp hrest fun id' hm handoff' h => ?_
      have hne : id' ≠ id := fun he => hid (he ▸ hm)
      rwa [put_get?_ne _ _ hne] at h

theorem build_record {config : ConnectorConfig} {scheduled : Dict String ℤ}
    {s s' : SchedulerConnector} {m : GptOssCacheBlendMetadata sha256}
    (hu : Usable sha256 config s) (hn : s.pendingHandoffIds.Nodup)
    (h : buildConnectorMeta sha256 config scheduled s = (.ok m, s')) :
    Usable sha256 config s' ∧ s'.pendingHandoffIds = [] ∧
      (∀ id, id ∉ s.pendingHandoffIds → record s' id = record s id) ∧
      List.Forall₂ (fun id handoff => ∃ st st', (record s id).state = some st ∧
        HandedOff handoff st st' ∧ record s' id = { record s id with state := some st' })
        s.pendingHandoffIds m.handoffs ∧
      stepContents sha256 config s scheduled m.handoffs =
        .ok (m.transfers, m.lookupObservations) := by
  obtain ⟨handoffs, p, contents, hp, hc, rfl, rfl⟩ :=
    (buildConnectorMeta_ok_iff sha256 _ _ _ _ _).mp h
  obtain ⟨hlayout, hothers, hstates⟩ := planeHandoffs_states hn hp
  refine ⟨⟨hlayout.trans hu.layout, hu.runtime⟩, rfl, fun id hid => ?_, ?_, hc⟩
  · simp [record, hothers id hid]
  · refine forall₂_imp hstates fun id _ handoff => ?_
    rintro ⟨st, st', hst, hh, hst'⟩
    exact ⟨st, st', hst, hh, by simp [record, hst']⟩

def Validated (receipt : WorkerValidationReceipt) (st st' : RequestLifecycleState) : Prop :=
  st.allocation = some receipt.allocation ∧
    RequestLifecycleState.Complete st.plan receipt ∧ st'.workerValidation = some receipt ∧
    ((st.phase = .handedOff ∧ st'.toLifecycleFields =
        { st.toLifecycleFields with
          phase := .workerValidated, workerValidation := some receipt }) ∨
      st' = st)

/-- What an applied receipt does to the record of its request. -/
def ReceiptEffect (receipt : WorkerValidationReceipt) (r r' : RequestRecord) : Prop :=
  ∃ st st', r.state = some st ∧ Validated receipt st st' ∧
    r' = if r.finished = true then { r with state := none, finished := false }
      else { r with state := some st' }

theorem receipt_record {config : ConnectorConfig} {receipt : WorkerValidationReceipt}
    {s s' : SchedulerConnector} (hu : Usable sha256 config s)
    (h : applyReceipt receipt s = (.ok (), s')) :
    Usable sha256 config s' ∧ s'.pendingHandoffIds = s.pendingHandoffIds ∧
      (∀ id, id ≠ receipt.requestId → record s' id = record s id) ∧
      ReceiptEffect receipt (record s receipt.requestId) (record s' receipt.requestId) := by
  obtain ⟨st', p, hc, rfl⟩ := (applyReceipt_ok_iff _ _ _).mp h
  obtain ⟨st, hst, ⟨_, hal, hcomplete, hval, hcase⟩, rfl⟩ :=
    planeOutcome_elim (applyWorkerValidation_outcome s.controlPlane receipt) hc
  unfold received
  by_cases hf : receipt.requestId ∈ s.finishedRequestIds
  · rw [if_pos hf]
    refine ⟨⟨hu.layout, hu.runtime⟩, rfl, fun id hne => ?_, st, st', hst,
      ⟨hal, hcomplete, hval, hcase⟩, ?_⟩
    · simp [record, RequestControlPlane.discard, Dict.get?_erase_ne _ hne,
        put_get?_ne _ _ hne, hne]
    · simp [record, RequestControlPlane.discard, hf]
  · rw [if_neg hf]
    refine ⟨⟨hu.layout, hu.runtime⟩, rfl, fun id hne => ?_, st, st', hst,
      ⟨hal, hcomplete, hval, hcase⟩, ?_⟩
    · simp [record, put_get?_ne _ _ hne]
    · simp [record, hf]

theorem receipts_record {config : ConnectorConfig} {receipts : List WorkerValidationReceipt}
    {s s' : SchedulerConnector} (hu : Usable sha256 config s)
    (hn : (receipts.map WorkerValidationReceipt.requestId).Nodup)
    (h : applyReceipts receipts s = (.ok (), s')) :
    Usable sha256 config s' ∧ s'.pendingHandoffIds = s.pendingHandoffIds ∧
      (∀ id, id ∉ receipts.map WorkerValidationReceipt.requestId →
        record s' id = record s id) ∧
      ∀ receipt ∈ receipts, ReceiptEffect receipt (record s receipt.requestId)
        (record s' receipt.requestId) := by
  induction receipts generalizing s with
  | nil =>
    obtain ⟨_, rfl⟩ := (Call.pure_ok_iff _ _ _ _).mp h
    exact ⟨hu, rfl, fun _ _ => rfl, fun _ hm => nomatch hm⟩
  | cons receipt receipts ih =>
    rw [List.map_cons, List.nodup_cons] at hn
    obtain ⟨_, s₁, h₁, h₂⟩ := (Call.bind_ok_iff _ _ _ _ _).mp h
    obtain ⟨hu₁, hp₁, ho₁, he₁⟩ := receipt_record sha256 hu h₁
    obtain ⟨hu₂, hp₂, ho₂, he₂⟩ := ih hu₁ hn.2 h₂
    refine ⟨hu₂, hp₂.trans hp₁, fun id hid => ?_, fun r hm => ?_⟩
    · rw [List.map_cons, List.mem_cons, not_or] at hid
      rw [ho₂ id hid.2, ho₁ id hid.1]
    · obtain rfl | hm := List.mem_cons.mp hm
      · rw [ho₂ _ hn.1]
        exact he₁
      · have hne : r.requestId ≠ receipt.requestId :=
          fun he => hn.1 (he ▸ List.mem_map_of_mem hm)
        rw [← ho₁ _ hne]
        exact he₂ r hm

def finishedRecord (config : ConnectorConfig) (st : RequestLifecycleState) (r : RequestRecord) :
    RequestRecord :=
  if config.transferEnabled = true ∧ st.workerValidation = none then
    { RequestRecord.empty with state := some st, finished := true }
  else { RequestRecord.empty with finished := r.finished }

theorem record_discardLookup (id id' : String) (s : SchedulerConnector) :
    record (discardLookup id s) id' = if id' = id then
      { record s id with metadata := none, observation := none, retained := none }
      else record s id' := by
  have hretained : ((discardLookup id s).runtime.bind fun rt => rt.requests.get? id') =
      if id' = id then none else (record s id').retained := by
    unfold discardLookup record
    cases s.runtime with
    | none => simp
    | some rt => exact Dict.get?_erase rt.requests id id'
  unfold record
  rw [hretained]
  by_cases he : id' = id
  · subst he
    simp [discardLookup]
    exact ⟨rfl, rfl⟩
  · simp [discardLookup, Dict.get?_erase_ne _ he, he, record]
    exact ⟨rfl, rfl⟩

theorem record_settle {config : ConnectorConfig} (id id' : String)
    (st : RequestLifecycleState) (s : SchedulerConnector)
    (hst : (record s id).state = some st) :
    record (settle config id st s) id' = if id' = id then
      (if config.transferEnabled = true ∧ st.workerValidation = none then
        { record s id with state := some st, finished := true }
        else { record s id with state := none })
      else record s id' := by
  unfold settle
  by_cases hk : config.transferEnabled = true ∧ st.workerValidation = none
  · by_cases he : id' = id
    · subst he
      simp only [if_pos hk, ← hst]
      simp [record]
    · simp [hk, he, record]
  · by_cases he : id' = id
    · subst he
      simp [hk, record, RequestControlPlane.discard]
    · simp [hk, he, record, RequestControlPlane.discard, Dict.get?_erase_ne _ he]

theorem record_forget (id id' : String) (s : SchedulerConnector) :
    record (forget id s) id' = if id' = id then
      { record s id with preemptions := none, known := false } else record s id' := by
  by_cases he : id' = id
  · subst he
    simp [record, forget]
    rfl
  · simp [record, forget, he, Dict.get?_erase_ne _ he]
    rfl

theorem finish_record {config : ConnectorConfig} {id : String} {blockIds : List (List ℤ)}
    {s s' : SchedulerConnector} {r : Bool × Option (Dict String String)}
    (hu : Usable sha256 config s)
    (h : requestFinishedAllGroups config id blockIds s = (.ok r, s')) :
    Usable sha256 config s' ∧ s'.pendingHandoffIds = s.pendingHandoffIds ∧
      (∀ id', id' ≠ id → record s' id' = record s id') ∧
      ∃ st, (record s id).state = some st ∧ CompletionAccepted config blockIds st ∧
        record s' id = finishedRecord config st (record s id) := by
  obtain ⟨_, _, st, hst, hc, rfl⟩ := (requestFinished_ok_iff _ _ _ _ _ _).mp h
  have hruntime : ∀ t, config.transfer = some t → ∃ rt,
      (discardLookup id s).runtime = some rt ∧ Sound sha256 t rt := by
    intro t ht
    obtain ⟨rt, hrt, hs⟩ := hu.runtime t ht
    refine ⟨(SchedulerLookupRuntime.discard id rt).2, ?_, discard_sound sha256 t hs⟩
    unfold discardLookup
    rw [hrt]
    rfl
  have hdiscarded : (record (discardLookup id s) id).state = some st := by
    rw [record_discardLookup, if_pos rfl]
    exact hst
  refine ⟨?_, ?_, fun id' hne => ?_, st, hst, hc, ?_⟩
  · unfold forget settle
    split_ifs <;> exact ⟨hu.layout, hruntime⟩
  · unfold forget settle
    split_ifs <;> rfl
  · rw [record_forget, if_neg hne, record_settle id id' st _ hdiscarded, if_neg hne,
      record_discardLookup, if_neg hne]
  · rw [record_forget, if_pos rfl, record_settle id id st _ hdiscarded, if_pos rfl,
      record_discardLookup, if_pos rfl]
    unfold finishedRecord
    split_ifs <;> simp [RequestRecord.empty]

end

end CacheBlend.ConnectorRecords
