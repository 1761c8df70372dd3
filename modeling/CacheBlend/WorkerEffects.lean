import CacheBlend.WorkerHooks

/-!
# What the worker hooks do

A step that a worker accepts adds one receipt for each of its handoffs, in
their order, and each receipt disposes of the handoff it answers. The other
hooks leave the receipts alone and never add a request to the control plane.
-/

set_option autoImplicit false

namespace CacheBlend.WorkerEffects
open CacheBlend.PlannerModels CacheBlend.LmcacheTypes CacheBlend.RequestLifecycle
open CacheBlend.RequestTransitions CacheBlend.ControlPlane CacheBlend.TransferRuntime
open CacheBlend.SchedulerHooks CacheBlend.ConnectorMetrics CacheBlend.WorkerHooks
open CacheBlend.Call (lift_ok_iff pure_ok_iff lift_bind_iff read_bind modify_bind)

/-- A receipt of the allocation that disposes of every match of the handoff. -/
structure Disposes (h : RequestHandoffMetadata) (r : WorkerValidationReceipt) : Prop where
  request : r.requestId = h.plan.requestId
  allocation : r.allocation = h.allocation
  complete : RequestLifecycleState.Complete h.plan r

/-- The planes agree on every request that is not listed. -/
def Apart (ids : List String) (p p' : RequestControlPlane) : Prop :=
  p'.groupLayout = p.groupLayout ∧ ∀ id, id ∉ ids → p'.states.get? id = p.states.get? id

theorem disposes_of {h : RequestHandoffMetadata} {p p₁ p₂ : RequestControlPlane}
    {st : RequestLifecycleState} {loaded rejected : List ℤ} {r : WorkerValidationReceipt}
    (ha : RequestControlPlane.acceptHandoff h p = (.ok st, p₁))
    (hv : RequestControlPlane.validateWorker h.plan.requestId loaded rejected p₁ = (.ok r, p₂)) :
    Disposes h r ∧ Apart [h.plan.requestId] p p₂ := by
  obtain ⟨hm, hcase⟩ := planeOutcome_elim (acceptHandoff_outcome p h) ha
  obtain ⟨s, s', hs, hid, hap, rfl⟩ := planeOutcome_elim (validateWorker_outcome p₁ _ _ _) hv
  have hfacts : p₁.states.get? h.plan.requestId = some st ∧ Apart [h.plan.requestId] p p₁ := by
    obtain ⟨hst, rfl⟩ | ⟨_, rfl, _⟩ := hcase
    · exact ⟨hst, rfl, fun _ _ => rfl⟩
    · refine ⟨put_get?_self p _ st, rfl, fun id hid => ?_⟩
      exact put_get?_ne p st (fun he => hid (List.mem_singleton.mpr he))
  obtain ⟨hst, hlayout, hothers⟩ := hfacts
  rw [hst] at hs
  cases hs
  obtain ⟨_, hal, hcomplete, _⟩ := outcome_elim
    (RequestTransitions.RequestLifecycleState.applyWorkerValidation_outcome st r) hap
  obtain ⟨hplan, hal', _⟩ := handoff_links st h hm
  refine ⟨⟨hid, ?_, by rw [hplan]; exact hcomplete⟩, hlayout, fun id hne => ?_⟩
  · rw [hal] at hal'
    exact Option.some_inj.mp hal'
  · rw [put_get?_ne _ _ (fun he => hne (List.mem_singleton.mpr he)), hothers id hne]

variable {sha256 : Bytes → Digest}

theorem checkWorker_bind_iff {β : Type} (p : Prop) [Decidable p] (text : String)
    (f : PUnit → WorkerCall sha256 β) (w w' : WorkerConnector sha256) (b : β) :
    (checkWorker p text >>= f) w = (.ok b, w') ↔ p ∧ f ⟨⟩ w = (.ok b, w') :=
  check_then_iff p _ f w w' b

theorem onWorkerPlane_bind_iff {α β : Type} (c : PlaneCall α) (f : α → WorkerCall sha256 β)
    (w w' : WorkerConnector sha256) (b : β) :
    (onWorkerPlane c >>= f) w = (.ok b, w') ↔ ∃ a p, c w.controlPlane = (.ok a, p) ∧
      f a { w with controlPlane := p } = (.ok b, w') :=
  Call.within_bind_iff _ _ _ c f w w' b

theorem onStats_bind_iff {α β : Type} (c : StatsCall α) (f : α → WorkerCall sha256 β)
    (w w' : WorkerConnector sha256) (b : β) :
    (onStats c >>= f) w = (.ok b, w') ↔ ∃ a s, c w.stats = (.ok a, s) ∧
      f a { w with stats := s } = (.ok b, w') :=
  Call.within_bind_iff _ _ _ c f w w' b

/-! ## Accepting a step -/

/-- What the accepted handoffs and the receipts for them change. -/
structure Accepting (handoffs : List RequestHandoffMetadata) (w w' : WorkerConnector sha256)
    (receipts : List WorkerValidationReceipt) : Prop where
  pending : w'.pendingWorkerReceipts = w.pendingWorkerReceipts ++ receipts
  disposed : List.Forall₂ Disposes handoffs receipts
  plane : Apart (handoffs.map (·.plan.requestId)) w.controlPlane w'.controlPlane
  registered : w'.registeredKvCaches = w.registeredKvCaches

theorem accepting_nil (w : WorkerConnector sha256) : Accepting [] w w [] where
  pending := (List.append_nil _).symm
  disposed := .nil
  plane := ⟨rfl, fun _ _ => rfl⟩
  registered := rfl

theorem accepting_cons {h : RequestHandoffMetadata} {handoffs : List RequestHandoffMetadata}
    {w w₁ w₂ : WorkerConnector sha256} {r : WorkerValidationReceipt}
    {receipts : List WorkerValidationReceipt} (h₁ : Accepting [h] w w₁ [r])
    (h₂ : Accepting handoffs w₁ w₂ receipts) :
    Accepting (h::handoffs) w w₂ (r::receipts) where
  pending := by rw [h₂.pending, h₁.pending, List.append_assoc, List.singleton_append]
  disposed := by
    cases h₁.disposed with
    | cons hr _ => exact .cons hr h₂.disposed
  plane := by
    refine ⟨h₂.plane.1.trans h₁.plane.1, fun id hid => ?_⟩
    rw [List.map_cons, List.mem_cons, not_or] at hid
    rw [h₂.plane.2 id hid.2, h₁.plane.2 id (fun hm => hid.1 (List.mem_singleton.mp hm))]
  registered := h₂.registered.trans h₁.registered

/-- The receipt of an accepted handoff comes from one validation of its request. -/
def Validates (h : RequestHandoffMetadata) (w w' : WorkerConnector sha256) : Prop :=
  ∃ loaded rejected r p,
    RequestControlPlane.validateWorker h.plan.requestId loaded rejected w.controlPlane =
      (.ok r, p) ∧
    w'.pendingWorkerReceipts = w.pendingWorkerReceipts ++ [r] ∧ w'.controlPlane = p ∧
    w'.registeredKvCaches = w.registeredKvCaches

theorem skipTransfer_ok_iff (config : ConnectorConfig) (h : RequestHandoffMetadata)
    (w w' : WorkerConnector sha256) :
    skipTransfer config h w = (.ok ⟨⟩, w') ↔ ∃ s r p,
      GptOssCacheBlendStats.recordLoad (plannedTokens h.plan) 0 (plannedTokens h.plan)
        h.plan.promptTokens config.transferEnabled w.stats = (.ok (), s) ∧
      RequestControlPlane.validateWorker h.plan.requestId []
        ((List.range h.plan.matchPlan.verifiedMatches.length).map Int.ofNat) w.controlPlane =
          (.ok r, p) ∧
      w' = { w with
        controlPlane := p
        stats := s
        pendingWorkerReceipts := w.pendingWorkerReceipts ++ [r] } := by
  unfold skipTransfer pushReceipt
  simp only [onStats_bind_iff, onWorkerPlane_bind_iff, Call.modify_run, Prod.mk.injEq,
    true_and]
  constructor
  · rintro ⟨_, s, hs, r, p, hv, rfl⟩
    exact ⟨s, r, p, hs, hv, rfl⟩
  · rintro ⟨s, r, p, hs, hv, rfl⟩
    exact ⟨(), s, hs, r, p, hv, rfl⟩

theorem skipTransfer_validates {config : ConnectorConfig} {h : RequestHandoffMetadata}
    {w w' : WorkerConnector sha256} (hc : skipTransfer config h w = (.ok ⟨⟩, w')) :
    Validates h w w' := by
  obtain ⟨s, r, p, _, hv, rfl⟩ := (skipTransfer_ok_iff _ _ _ _).mp hc
  exact ⟨_, _, r, p, hv, rfl, rfl, rfl⟩

theorem adaptHandoffBlocks_keeps {config : ConnectorConfig} {h : RequestHandoffMetadata}
    {w w' : WorkerConnector sha256} {blocks : VllmAdapters.AdaptedKvCacheBlocks}
    (hb : adaptHandoffBlocks config h w = (.ok blocks, w')) : w = w' := by
  unfold adaptHandoffBlocks validateGroupCount at hb
  simp only [checkWorker_bind_iff, lift_bind_iff, pure_ok_iff] at hb
  obtain ⟨_, _, _, _, _, rfl⟩ := hb
  rfl

theorem startTransfer_validates {config : ConnectorConfig} {answers : LoadAnswers}
    {h : RequestHandoffMetadata} {transfer : SchedulerTransferMetadata sha256}
    {w w' : WorkerConnector sha256}
    (hc : startTransfer config answers h transfer w = (.ok ⟨⟩, w')) : Validates h w w' := by
  unfold startTransfer at hc
  rw [checkWorker_bind_iff, read_bind, checkWorker_bind_iff] at hc
  obtain ⟨blocks, w₁, hb, hrest⟩ := (Call.bind_ok_iff _ _ _ _ _).mp hc.2.2
  obtain rfl := adaptHandoffBlocks_keeps hb
  simp only [lift_bind_iff, onStats_bind_iff, onWorkerPlane_bind_iff, checkWorker_bind_iff]
    at hrest
  obtain ⟨outcome, _, _, s, _, r, p, hv, _, _, _, hrest⟩ := hrest
  obtain ⟨_, w₂, hp, hrest⟩ := (Call.bind_ok_iff _ _ _ _ _).mp hrest
  cases hp
  cases hrest
  exact ⟨_, _, r, p, hv, rfl, rfl, rfl⟩

theorem handoff_accepting {config : ConnectorConfig} {answers : LoadAnswers}
    {h : RequestHandoffMetadata} {o : Option (SchedulerTransferMetadata sha256)}
    {st : RequestLifecycleState} {p : RequestControlPlane} {w w' : WorkerConnector sha256}
    (ha : RequestControlPlane.acceptHandoff h w.controlPlane = (.ok st, p))
    (hc : loadHandoff config answers h o { w with controlPlane := p } = (.ok ⟨⟩, w')) :
    ∃ r, Accepting [h] w w' [r] := by
  have hv : Validates h { w with controlPlane := p } w' := by
    cases o with
    | none => exact skipTransfer_validates hc
    | some transfer => exact startTransfer_validates hc
  obtain ⟨_, _, r, p', hv, hpending, hplane, hreg⟩ := hv
  obtain ⟨hd, hapart⟩ := disposes_of ha hv
  exact ⟨r, hpending, .cons hd .nil, hplane ▸ hapart, hreg⟩

theorem acceptHandoffs_accepting {config : ConnectorConfig} {answers : LoadAnswers}
    {handoffs : List RequestHandoffMetadata}
    {transfers unmatched : Dict String (SchedulerTransferMetadata sha256)}
    {w w' : WorkerConnector sha256}
    (hc : acceptHandoffs config answers handoffs transfers w = (.ok unmatched, w')) :
    ∃ receipts, Accepting handoffs w w' receipts := by
  induction handoffs generalizing transfers w with
  | nil =>
    obtain ⟨_, rfl⟩ := (pure_ok_iff _ _ _ _).mp hc
    exact ⟨[], accepting_nil w'⟩
  | cons h handoffs ih =>
    unfold acceptHandoffs validateGroupCount at hc
    simp only [checkWorker_bind_iff, onWorkerPlane_bind_iff] at hc
    obtain ⟨_, _, st, p, ha, hc⟩ := hc
    obtain ⟨_, w₁, h₁, hc⟩ := (Call.bind_ok_iff _ _ _ _ _).mp hc
    obtain ⟨r, hr⟩ := handoff_accepting ha h₁
    obtain ⟨receipts, hrest⟩ := ih hc
    exact ⟨r::receipts, accepting_cons hr hrest⟩

theorem recordLookups_keeps {observations : List CacheBlendLookupObservation}
    {w w' : WorkerConnector sha256} (hc : recordLookups observations w = (.ok (), w')) :
    ∃ s, w' = { w with stats := s } := by
  induction observations generalizing w with
  | nil =>
    obtain ⟨_, rfl⟩ := (pure_ok_iff _ _ _ _).mp hc
    exact ⟨w'.stats, rfl⟩
  | cons observation observations ih =>
    unfold recordLookups at hc
    obtain ⟨_, s, _, hc⟩ := (onStats_bind_iff _ _ _ _ _).mp hc
    obtain ⟨s', rfl⟩ := ih hc
    exact ⟨s', rfl⟩

/-- The parts of a returned `start_load_kv`. -/
theorem startLoadKv_parts {config : ConnectorConfig} {answers : LoadAnswers}
    {m : GptOssCacheBlendMetadata sha256} {w w' : WorkerConnector sha256}
    (hc : startLoadKv config answers m w = (.ok (), w')) :
    w.activeWorkerTransfer = none ∧ ∃ s unmatched,
      acceptHandoffs config answers m.handoffs (transfersByRequest m.transfers)
        { w with stats := s } = (.ok unmatched, w') := by
  unfold startLoadKv checkObservations at hc
  simp only [checkWorker_bind_iff, read_bind] at hc
  obtain ⟨_, _, _, hactive, _, hc⟩ := hc
  obtain ⟨_, w₁, hobserved, hc⟩ := (Call.bind_ok_iff _ _ _ _ _).mp hc
  obtain rfl : w = w₁ := by
    split_ifs at hobserved
    all_goals
      obtain ⟨_, rfl⟩ := (lift_ok_iff _ _ _ _).mp hobserved
      rfl
  obtain ⟨_, w₂, hl, hrest⟩ := (Call.bind_ok_iff _ _ _ _ _).mp hc
  obtain ⟨s, rfl⟩ := recordLookups_keeps hl
  rw [checkWorker_bind_iff] at hrest
  obtain ⟨unmatched, w₃, ha, hrest⟩ := (Call.bind_ok_iff _ _ _ _ _).mp hrest.2
  rw [checkWorker_bind_iff, pure_ok_iff] at hrest
  obtain ⟨_, _, rfl⟩ := hrest
  exact ⟨Option.isNone_iff_eq_none.mp hactive, s, unmatched, ha⟩

theorem startLoadKv_accepting {config : ConnectorConfig} {answers : LoadAnswers}
    {m : GptOssCacheBlendMetadata sha256} {w w' : WorkerConnector sha256}
    (hc : startLoadKv config answers m w = (.ok (), w')) :
    ∃ receipts, Accepting m.handoffs w w' receipts := by
  obtain ⟨_, s, unmatched, ha⟩ := startLoadKv_parts hc
  obtain ⟨receipts, h⟩ := acceptHandoffs_accepting ha
  exact ⟨receipts, h.pending, h.disposed, h.plane, h.registered⟩

theorem acceptHandoffs_idle {config : ConnectorConfig} {answers : LoadAnswers}
    {handoffs : List RequestHandoffMetadata}
    {unmatched : Dict String (SchedulerTransferMetadata sha256)} {w w' : WorkerConnector sha256}
    (hc : acceptHandoffs config answers handoffs Dict.empty w = (.ok unmatched, w')) :
    w'.activeWorkerTransfer = w.activeWorkerTransfer := by
  induction handoffs generalizing w with
  | nil =>
    obtain ⟨_, rfl⟩ := (pure_ok_iff _ _ _ _).mp hc
    rfl
  | cons h handoffs ih =>
    unfold acceptHandoffs validateGroupCount at hc
    simp only [checkWorker_bind_iff, onWorkerPlane_bind_iff] at hc
    obtain ⟨_, _, st, p, _, hc⟩ := hc
    obtain ⟨_, w₁, h₁, hc⟩ := (Call.bind_ok_iff _ _ _ _ _).mp hc
    obtain ⟨_, _, _, _, _, rfl⟩ := (skipTransfer_ok_iff _ _ _ _).mp h₁
    have hrest := ih hc
    exact hrest

theorem startLoadKv_idle {config : ConnectorConfig} {answers : LoadAnswers}
    {m : GptOssCacheBlendMetadata sha256} {w w' : WorkerConnector sha256}
    (hm : m.transfers = []) (hc : startLoadKv config answers m w = (.ok (), w')) :
    w'.activeWorkerTransfer = none := by
  obtain ⟨hactive, s, unmatched, ha⟩ := startLoadKv_parts hc
  rw [hm] at ha
  rw [acceptHandoffs_idle ha]
  exact hactive

/-! ## The hooks that accept nothing -/

/-- The receipts stay, and the plane only loses requests. -/
structure Quiet (w w' : WorkerConnector sha256) : Prop where
  pending : w'.pendingWorkerReceipts = w.pendingWorkerReceipts
  layout : w'.controlPlane.groupLayout = w.controlPlane.groupLayout
  states : ∀ id st, w'.controlPlane.states.get? id = some st →
    w.controlPlane.states.get? id = some st
  registered : w'.registeredKvCaches = w.registeredKvCaches
  inactive : w.activeWorkerTransfer = none → w'.activeWorkerTransfer = none

theorem quiet_refl (w : WorkerConnector sha256) : Quiet w w :=
  ⟨rfl, rfl, fun _ _ h => h, rfl, id⟩

theorem quiet_trans {w w₁ w₂ : WorkerConnector sha256} (h₁ : Quiet w w₁) (h₂ : Quiet w₁ w₂) :
    Quiet w w₂ where
  pending := h₂.pending.trans h₁.pending
  layout := h₂.layout.trans h₁.layout
  states id st h := h₁.states id st (h₂.states id st h)
  registered := h₂.registered.trans h₁.registered
  inactive h := h₂.inactive (h₁.inactive h)

theorem waitForLayerLoad_quiet {layerName : String} {w w' : WorkerConnector sha256}
    (hc : waitForLayerLoad layerName w = (.ok (), w')) : Quiet w w' := by
  unfold waitForLayerLoad at hc
  rw [read_bind, checkWorker_bind_iff, pure_ok_iff] at hc
  obtain ⟨_, _, rfl⟩ := hc
  exact quiet_refl w'

theorem saveKvLayer_quiet {layerName : String} {kvLayer : ℕ} {w w' : WorkerConnector sha256}
    (hc : saveKvLayer layerName kvLayer w = (.ok (), w')) : Quiet w w' := by
  unfold saveKvLayer at hc
  rw [read_bind, checkWorker_bind_iff, checkWorker_bind_iff] at hc
  obtain ⟨_, _, hc⟩ := hc
  cases ha : w.activeWorkerTransfer with
  | none =>
    rw [ha] at hc
    obtain ⟨_, rfl⟩ := (pure_ok_iff _ _ _ _).mp hc
    exact quiet_refl w'
  | some active =>
    rw [ha] at hc
    dsimp only at hc
    rw [checkWorker_bind_iff, modify_bind, pure_ok_iff] at hc
    obtain ⟨_, _, rfl⟩ := hc
    exact ⟨rfl, rfl, fun _ _ h => h, rfl, fun h => nomatch ha.symm.trans h⟩

theorem waitForSave_quiet {σ : Type} {world : StoreWorld sha256 σ} {state : σ}
    {w w' : WorkerConnector sha256} (hc : waitForSave world state w = (.ok (), w')) :
    Quiet w w' := by
  unfold waitForSave at hc
  rw [read_bind] at hc
  cases ha : w.activeWorkerTransfer with
  | none =>
    rw [ha] at hc
    obtain ⟨_, rfl⟩ := (pure_ok_iff _ _ _ _).mp hc
    exact quiet_refl w'
  | some active =>
    rw [ha] at hc
    dsimp only at hc
    simp only [checkWorker_bind_iff, lift_bind_iff, onStats_bind_iff, modify_bind,
      pure_ok_iff] at hc
    obtain ⟨_, _, _, _, _, _, _, _, rfl⟩ := hc
    exact ⟨rfl, rfl, fun _ _ h => h, rfl, fun _ => rfl⟩

theorem discardAll_quiet (ids : List String) (w : WorkerConnector sha256) :
    ∃ w', discardAll ids w = (.ok (), w') ∧ Quiet w w' := by
  induction ids generalizing w with
  | nil => exact ⟨w, rfl, quiet_refl w⟩
  | cons id ids ih =>
    have hdiscard : Quiet w { w with
        controlPlane := (RequestControlPlane.discard id w.controlPlane).2
        knownRequestIds := w.knownRequestIds.erase id } := by
      refine ⟨rfl, rfl, fun id' st h => ?_, rfl, fun h => h⟩
      change (w.controlPlane.states.erase id).get? id' = some st at h
      rw [Dict.get?_erase] at h
      split_ifs at h
      exact h
    obtain ⟨w', hc, hq⟩ := ih { w with
      controlPlane := (RequestControlPlane.discard id w.controlPlane).2
      knownRequestIds := w.knownRequestIds.erase id }
    exact ⟨w', (onWorkerPlane_bind_iff _ _ _ _ _).mpr ⟨_, _, rfl, hc⟩, quiet_trans hdiscard hq⟩

theorem getFinished_quiet {ids : List String} {w w' : WorkerConnector sha256}
    {r : Option (Finset String) × Option (Finset String)}
    (hc : getFinished ids w = (.ok r, w')) : Quiet w w' := by
  unfold getFinished at hc
  rw [read_bind, checkWorker_bind_iff] at hc
  obtain ⟨_, w₁, hd, hc⟩ := (Call.bind_ok_iff _ _ _ _ _).mp hc.2
  obtain ⟨_, rfl⟩ := (pure_ok_iff _ _ _ _).mp hc
  obtain ⟨w₂, hd', hq⟩ := discardAll_quiet ids w
  rw [hd] at hd'
  cases hd'
  exact hq

theorem getKvConnectorStats_quiet {w w' : WorkerConnector sha256}
    {r : Option GptOssCacheBlendStats} (hc : getKvConnectorStats w = (.ok r, w')) :
    Quiet w w' := by
  unfold getKvConnectorStats at hc
  rw [read_bind] at hc
  split_ifs at hc
  · obtain ⟨_, rfl⟩ := (pure_ok_iff _ _ _ _).mp hc
    exact quiet_refl w'
  · obtain ⟨_, s, _, hc⟩ := (onStats_bind_iff _ _ _ _ _).mp hc
    obtain ⟨_, rfl⟩ := (pure_ok_iff _ _ _ _).mp hc
    exact ⟨rfl, rfl, fun _ _ h => h, rfl, fun h => h⟩

theorem buildConnectorWorkerMeta_run (w : WorkerConnector sha256) :
    buildConnectorWorkerMeta w = if w.pendingWorkerReceipts = [] then (.ok none, w)
      else (.ok (some w.pendingWorkerReceipts), { w with pendingWorkerReceipts := [] }) := by
  unfold buildConnectorWorkerMeta
  rw [read_bind]
  split_ifs <;> rfl

end CacheBlend.WorkerEffects
