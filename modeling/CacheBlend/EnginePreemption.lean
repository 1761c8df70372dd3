import CacheBlend.EngineCompletion

/-!
# Preemption in transfer mode

The preemption count of the connector, the generation of the lookup runtime
and the generation of the control plane move together, so a preempted request
is looked up and allocated again. The step that resumes it is built exactly
when no more tokens are scheduled than its prompt has, although the engine may
schedule the tokens it generated as well.
-/

set_option autoImplicit false

namespace CacheBlend.EnginePreemption
open CacheBlend.PlannerModels CacheBlend.LmcacheTypes CacheBlend.RequestLifecycle
open CacheBlend.RequestTransitions CacheBlend.ControlPlane CacheBlend.VllmAdapters
open CacheBlend.CompletionTables CacheBlend.SchedulerRuntime CacheBlend.TransferRuntime
open CacheBlend.RuntimeLookups CacheBlend.SchedulerHooks CacheBlend.HookEffects
open CacheBlend.ConnectorRecords CacheBlend.EngineRuns CacheBlend.EngineCompletion
open CacheBlend.HybridLayout (gptOssMaxContextTokens)

/-! ## The next lookup -/

theorem preempt_run {p : RequestControlPlane} {id : String} {st : RequestLifecycleState}
    (hst : p.states.get? id = some st) (hp : st.phase ≠ .finished) :
    ∃ st', RequestControlPlane.preempt id p = (.ok st', p.put id st') ∧ st'.plan = st.plan := by
  obtain ⟨st', hs⟩ := RequestTransitions.RequestLifecycleState.preempt_returns st hp
  refine ⟨st', updateState_run hst hs, ?_⟩
  obtain ⟨_, ⟨_, rfl⟩ | ⟨_, hf⟩⟩ :=
    outcome_elim (RequestTransitions.RequestLifecycleState.preempt_outcome st) hs
  · rfl
  · rw [hf]

theorem lookup_known {p : RequestControlPlane} {id : String} {st : RequestLifecycleState}
    (hst : p.states.get? id = some st) (hid : st.plan.requestId = id) :
    RequestControlPlane.lookup st.plan.requestId st.plan.promptTokens st.plan.querySegments
      st.plan.matchPlan p = (.ok st, p) := by
  unfold RequestControlPlane.lookup
  rw [plan_new_self]
  apply (Call.lift_bind_iff _ _ _ _ _).mpr
  refine ⟨st.plan, rfl, ?_⟩
  rw [Call.read_bind, hid, hst]
  dsimp only
  rw [if_pos rfl]
  rfl

section
variable {sha256 : Bytes → Digest} {config : ConnectorConfig} {prompt : String → List TokenId}

/-- A request that was looked up before is known with the preemption count of
that lookup, the current one or the one before. -/
theorem tracked_known {id : String} {v : RequestView} {r : RequestRecord}
    (ht : Tracked config prompt id v r) (hs : v.stage = .lookedUp ∨ v.stage = .preempted) :
    ∃ st n, Held config prompt id n r st ∧ st.phase ≠ .finished ∧
      (v.preemptions = n ∨ v.preemptions = n+1) := by
  unfold Tracked at ht
  obtain hs | hs := hs
  · rw [hs] at ht
    obtain ⟨_, _, st, held, hp⟩ := ht
    exact ⟨st, v.preemptions, held, by rw [hp]; decide, Or.inl rfl⟩
  · rw [hs] at ht
    obtain ⟨_, _, st, a, n, held, howns, hcount⟩ := ht
    exact ⟨st, n, held, howns.unfinished, Or.inr hcount⟩

theorem noted_again {p : RequestControlPlane} {id : String} {st : RequestLifecycleState}
    {n preemptions : ℕ} (hst : p.states.get? id = some st) (hp : st.phase ≠ .finished)
    (hc : preemptions = n ∨ preemptions = n+1) :
    ∃ p' st', Noted id preemptions p p' (some n) ∧ p'.states.get? id = some st' ∧
      st'.plan = st.plan := by
  obtain rfl | rfl := hc
  · exact ⟨p, st, ⟨le_rfl, by rw [if_neg (lt_irrefl _)]⟩, hst, rfl⟩
  · obtain ⟨st', hpre, hplan⟩ := preempt_run hst hp
    refine ⟨p.put id st', st', ⟨Nat.le_succ n, ?_⟩, put_get?_self p id st', hplan⟩
    rw [if_pos (Nat.lt_succ_self n)]
    exact ⟨st', hpre⟩

/-- In transfer mode a request that was looked up is looked up again, before
and after a preemption, whatever the transport and the sidecar answer. -/
theorem lookup_returns {s : Engine} {t : RuntimeConfig} {id : String} (env : Environment)
    (hi : EngineInvariant sha256 config prompt s) (hmode : config.transfer = some t)
    (hs : (s.views id).stage = .lookedUp ∨ (s.views id).stage = .preempted) :
    ∃ c, getNumNewMatchedTokens sha256 config env
      (vllmRequest prompt id (s.views id).preemptions) 0 s.connector = (.ok (0, false), c) := by
  obtain ⟨st, n, held, hp, hcount⟩ := tracked_known (hi.tracked id) hs
  obtain ⟨md₀, old, hsync⟩ := held.synced (transferEnabled_iff.mpr ⟨t, hmode⟩)
  obtain ⟨p, st', hnoted, hst', hplan⟩ := noted_again held.state hp hcount
  obtain ⟨rt, hrt, hsound⟩ := hi.usable.runtime t hmode
  have hstored : rt.requests.get? id = some ⟨old, md₀⟩ := by
    have hr := hsync.retained
    unfold record at hr
    rwa [hrt] at hr
  have hnew := request_new_congr (m := (s.views id).preemptions) hsync.request
  obtain ⟨hid, _, hold⟩ := request_new_fields hsync.request
  obtain ⟨md, rt', hlookup, hstatus, hmdplan, hwindows, hlookupPlan⟩ := lookup_again sha256 t env
    { old with preemptionCount := (s.views id).preemptions } ⟨old, md₀⟩ hsound
    (by rw [← hstored, ← hid]) (by
      obtain hc | hc := hcount
      · refine Or.inl ?_
        rw [hc, ← hold]
      · refine Or.inr ?_
        rw [hc, ← hold])
  have hanswered : Answered sha256 t env (vllmRequest prompt id (s.views id).preemptions)
      (prompt id) 0 rt rt' md := by
    refine ⟨le_rfl, ⟨_, hnew, hlookup⟩, ?_, ?_⟩
    · rw [hstatus]
      exact (hsound.retained id _ hstored).2.nonfatal
    · have hobs : observationOf (prompt id).length md = observationOf (prompt id).length md₀ := by
        unfold observationOf
        rw [hwindows, hlookupPlan]
      rw [hobs]
      exact hsync.observed
  have hknown : RequestControlPlane.lookup md.requestPlan.requestId md.requestPlan.promptTokens
      md.requestPlan.querySegments md.requestPlan.matchPlan p = (.ok st', p) := by
    have hl := lookup_known hst' (by rw [hplan, held.plan_id])
    rw [hplan, hsync.plan] at hl
    rw [hmdplan]
    exact hl
  refine ⟨_, (getNumNewMatchedTokens_ok_iff sha256 _ _ _ _ _ _ _).mpr ⟨rfl,
    Int.natCast_nonneg _, prompt id, copied_prompt id _,
    .transfer hmode ?_ hrt hanswered hknown rfl⟩⟩
  have hcounted : s.connector.requestPreemptions.get? id = some n := held.counted
  change Noted id (s.views id).preemptions s.connector.controlPlane p
    (s.connector.requestPreemptions.get? id)
  rw [hcounted]
  exact hnoted

theorem allocate_again {s : Engine} {id : String} {tables : List (List ℕ)}
    (hi : EngineInvariant sha256 config prompt s) (hs : (s.views id).stage = .lookedUp)
    (hl : legalTables config.adapted.numBlocks config.adapted.groupKinds tables = true)
    (hn : NullFree tables) :
    ∃ c, updateStateAfterAlloc config id (observe tables) 0 s.connector = (.ok (), c) := by
  have hl := (legalTables_iff _ _ _).mp hl
  have ht := hi.tracked id
  unfold Tracked at ht
  rw [hs] at ht
  obtain ⟨_, _, st, held, hp⟩ := ht
  obtain ⟨adapted, ha, hids⟩ := adapt_returns hl hn
  have hd : ∀ table ∈ tables, table.Nodup := by
    intro table hm
    obtain ⟨_, _, hlegal⟩ := forall₂_right hl hm
    exact legal_nodup hlegal (hn table hm)
  obtain ⟨st', a, hallocate, _⟩ := RequestTransitions.RequestLifecycleState.allocate_returns st
    s.connector.controlPlane.groupLayout tables hp
    (by rw [hi.usable.layout, groupCount_eq]; exact hl.length_eq.symm) hd
  have hrun : RequestControlPlane.allocate id (integers adapted.blockIdsByGroup) 0
      s.connector.controlPlane = (.ok st', s.connector.controlPlane.put id st') := by
    rw [hids]
    exact updateState_run held.state hallocate
  exact ⟨_, (updateStateAfterAlloc_ok_iff _ _ _ _ _ _).mpr ⟨rfl, of_decide_eq_true held.known,
    adapted, st', _, ha, hrun, rfl⟩⟩

/-! ## The next step -/

variable (sha256) in
/-- The handoff of a request and the answer it was looked up with. -/
structure Deliverable (t : RuntimeConfig) (tokens : List TokenId) (h : RequestHandoffMetadata)
    (md : SchedulerLookupMetadata) : Prop where
  plan : h.plan = md.requestPlan
  generation : h.allocation.allocationGeneration = md.allocationGeneration
  prompt : md.promptTokenIds = tokens
  bounded : tokens.length ≤ gptOssMaxContextTokens
  candidates : checkCandidates sha256 t.cacheNamespace tokens 0 md.verifiedCandidates = .ok ()

theorem deliverable_transfer {t : RuntimeConfig} {tokens : List TokenId}
    {h : RequestHandoffMetadata} {md : SchedulerLookupMetadata}
    (hd : Deliverable sha256 t tokens h md) :
    checkTransfer sha256 {
      cacheNamespace := t.cacheNamespace
      promptTokenIds := md.promptTokenIds
      verifiedCandidates := md.verifiedCandidates
      handoff := h
      numComputedTokensBeforeStep := 0
      scheduledTokenCount := md.promptTokenIds.length
      transferEligible := md.shouldTransfer
      storeEligible := decide (lmcacheChunkSize ≤ md.promptTokenIds.length) } = .ok () := by
  obtain ⟨hne, htokens, hmatches, hready⟩ := metadata_plan md
  unfold checkTransfer
  refine (require_then_iff _ _ _ _).mpr ⟨⟨hne, by rw [hd.prompt]; exact hd.bounded⟩,
    (require_then_iff _ _ _ _).mpr ⟨⟨rfl, h.allocation.external_zero⟩,
      (require_then_iff _ _ _ _).mpr ⟨rfl, (require_then_iff _ _ _ _).mpr ⟨⟨rfl, ?_⟩,
        (require_then_iff _ _ _ _).mpr ⟨hready, (require_then_iff _ _ _ _).mpr
          ⟨of_decide_eq_true, (require_then_iff _ _ _ _).mpr ⟨?_, ?_⟩⟩⟩⟩⟩⟩⟩
  · rw [hd.plan]
    exact htokens
  · rw [hd.plan]
    exact hmatches.symm
  · rw [hd.prompt]
    exact hd.candidates

theorem transferFor_returns_iff {t : RuntimeConfig} {c : SchedulerConnector}
    {scheduled : Dict String ℤ} {tokens : List TokenId} {h : RequestHandoffMetadata}
    {md : SchedulerLookupMetadata} {n : ℤ} (hd : Deliverable sha256 t tokens h md)
    (hmd : c.schedulerLookupMetadata.get? h.plan.requestId = some md)
    (hn : scheduled.get? h.plan.requestId = some n) (hpos : 1 ≤ n) :
    (∃ x, transferFor sha256 t c scheduled h = .ok x) ↔ n ≤ tokens.length := by
  unfold transferFor
  rw [hmd, hn]
  dsimp only
  by_cases hle : n ≤ tokens.length
  · have hin : ¬(n < 0 ∨ n > md.promptTokenIds.length) := by
      rw [hd.prompt]
      omega
    rw [if_neg hin, if_neg (not_not.mpr hd.generation)]
    refine iff_of_true ?_ hle
    by_cases hwhole : n ≠ md.promptTokenIds.length ∨
        md.promptTokenIds.length > t.stagingTokenCapacity
    · rw [if_pos hwhole]
      exact ⟨none, rfl⟩
    · rw [if_neg hwhole]
      have hn : n = md.promptTokenIds.length := not_not.mp (not_or.mp hwhole).1
      subst hn
      exact ⟨_, (checked_ok_iff _ _ _).mpr ⟨_, (mapError_ok_iff _ _ _).mpr
        (SchedulerTransferMetadata.new_of_valid sha256 (deliverable_transfer hd)), rfl⟩⟩
  · have hout : n < 0 ∨ n > md.promptTokenIds.length := by
      rw [hd.prompt]
      omega
    rw [if_pos hout]
    refine iff_of_false ?_ hle
    rintro ⟨x, hx⟩
    cases hx

theorem transfer_new_fields {fields : TransferFields} {x : SchedulerTransferMetadata sha256}
    (h : SchedulerTransferMetadata.new sha256 fields = .ok x) : x.toTransferFields = fields := by
  unfold SchedulerTransferMetadata.new at h
  split at h
  · cases h
  · cases h
    rfl

theorem transferFor_whole {t : RuntimeConfig} {c : SchedulerConnector}
    {scheduled : Dict String ℤ} {h : RequestHandoffMetadata} {md : SchedulerLookupMetadata}
    {x : SchedulerTransferMetadata sha256}
    (hmd : c.schedulerLookupMetadata.get? h.plan.requestId = some md)
    (hx : transferFor sha256 t c scheduled h = .ok (some x)) :
    x.handoff = h ∧ scheduled.get? h.plan.requestId = some (md.promptTokenIds.length : ℤ) := by
  unfold transferFor at hx
  rw [hmd] at hx
  dsimp only at hx
  cases hn : scheduled.get? h.plan.requestId with
  | none =>
    rw [hn] at hx
    cases hx
  | some n =>
    rw [hn] at hx
    dsimp only at hx
    split_ifs at hx with hout hgen hwhole
    · cases hx
    · obtain ⟨y, hy, he⟩ := (checked_ok_iff _ _ _).mp hx
      cases he
      rw [transfer_new_fields ((mapError_ok_iff _ _ _).mp hy)]
      exact ⟨rfl, congrArg some (not_not.mp (not_or.mp hwhole).1)⟩

theorem handoff_run {p : RequestControlPlane} {id : String} {st : RequestLifecycleState}
    (hst : p.states.get? id = some st) (hp : st.phase = .allocated) :
    ∃ h st', RequestControlPlane.handoff id p = (.ok h, p.put id st') := by
  obtain ⟨st', hs⟩ := RequestTransitions.RequestLifecycleState.handoff_returns st hp
  obtain ⟨h, hh, _⟩ :=
    outcome_elim (RequestTransitions.RequestLifecycleState.handoff_outcome st) hs
  refine ⟨h, st', ?_⟩
  unfold RequestControlPlane.handoff
  rw [Call.bind_run_ok _ (updateState_run hst hs), hh]
  rfl

theorem planeHandoffs_return {ids : List String} {p : RequestControlPlane} (hn : ids.Nodup)
    (h : ∀ id ∈ ids, ∃ st, p.states.get? id = some st ∧ st.phase = .allocated) :
    ∃ handoffs p', planeHandoffs ids p = (.ok handoffs, p') := by
  induction ids generalizing p with
  | nil => exact ⟨[], p, rfl⟩
  | cons id ids ih =>
    obtain ⟨hid, hids⟩ := List.nodup_cons.mp hn
    obtain ⟨st, hst, hp⟩ := h id List.mem_cons_self
    obtain ⟨handoff, st', hrun⟩ := handoff_run hst hp
    have hrest : ∀ id' ∈ ids, ∃ st, (p.put id st').states.get? id' = some st ∧
        st.phase = .allocated := by
      intro id' hm
      have hne : id' ≠ id := fun he => hid (he ▸ hm)
      rw [put_get?_ne _ _ hne]
      exact h id' (List.mem_cons_of_mem _ hm)
    obtain ⟨rest, p', hrest⟩ := ih hids hrest
    exact ⟨handoff::rest, p', (Call.bind_ok_iff _ _ _ _ _).mpr ⟨handoff, _, hrun,
      (Call.bind_ok_iff _ _ _ _ _).mpr ⟨rest, p', hrest, rfl⟩⟩⟩

theorem due_synced {s : Engine} {t : RuntimeConfig} {id : String}
    (hi : EngineInvariant sha256 config prompt s) (hmode : config.transfer = some t)
    (hs : (s.views id).stage = .allocated) (hoff : (s.views id).handedOff = false) :
    ∃ st md answered n, Held config prompt id n (record s.connector id) st ∧
      st.phase = .allocated ∧ Synced prompt id n (record s.connector id) st md answered ∧
      Answers sha256 t answered md := by
  have ht := hi.tracked id
  unfold Tracked at ht
  rw [hs] at ht
  obtain ⟨st, a, held, howns, hrun⟩ := ht
  obtain ⟨md, answered, hsync⟩ := held.synced (transferEnabled_iff.mpr ⟨t, hmode⟩)
  obtain ⟨rt, hrt, hsound⟩ := hi.usable.runtime t hmode
  have hstored : rt.requests.get? id = some ⟨answered, md⟩ := by
    have hr := hsync.retained
    unfold record at hr
    rwa [hrt] at hr
  exact ⟨st, md, answered, _, held, hrun.awaiting hoff, hsync,
    (hsound.retained id _ hstored).2⟩

theorem due_deliverable {t : RuntimeConfig} {id : String} {n : ℕ} {r : RequestRecord}
    {st st' : RequestLifecycleState} {md : SchedulerLookupMetadata}
    {answered : SchedulerLookupRequest} {h : RequestHandoffMetadata}
    (hp : st.phase = .allocated) (hsync : Synced prompt id n r st md answered)
    (ha : Answers sha256 t answered md) (hh : HandedOff h st st') :
    Deliverable sha256 t (prompt id) h md := by
  obtain ⟨hplan, hal, _⟩ := handedOff_allocated hh hp
  obtain ⟨_, htokens, _⟩ := request_new_fields hsync.request
  refine ⟨hplan.trans hsync.plan, ?_, ha.prompt.trans htokens, ?_, ?_⟩
  · rw [(allocation_bound st _ hal).2, hsync.generation]
  · rw [← htokens]
    exact answered.prompt_bounded
  · rw [← htokens]
    exact ha.candidates

theorem step_deliverable {s : Engine} {t : RuntimeConfig} {p : RequestControlPlane}
    {handoffs : List RequestHandoffMetadata}
    (hi : EngineInvariant sha256 config prompt s) (hmode : config.transfer = some t)
    (hs : ∀ id ∈ s.connector.pendingHandoffIds, (s.views id).stage = .allocated)
    (hrun : planeHandoffs s.connector.pendingHandoffIds s.connector.controlPlane =
      (.ok handoffs, p)) :
    List.Forall₂ (fun id h => h.plan.requestId = id ∧ ∃ st md,
      s.connector.controlPlane.states.get? id = some st ∧
      s.connector.schedulerLookupMetadata.get? id = some md ∧
      s.connector.schedulerLookupObservations.get? id =
        some (observationOf (prompt id).length md) ∧
      st.allocationGeneration = md.allocationGeneration ∧
      Deliverable sha256 t (prompt id) h md) s.connector.pendingHandoffIds handoffs := by
  obtain ⟨_, _, hstates⟩ := planeHandoffs_states hi.pending_nodup hrun
  refine forall₂_imp hstates fun id hm h => ?_
  rintro ⟨st, st', hst, hh, _⟩
  obtain ⟨st₀, md, answered, n, held, hp, hsync, ha⟩ :=
    due_synced hi hmode (hs id hm) (hi.pending id hm).1
  have hst₀ : s.connector.controlPlane.states.get? id = some st₀ := held.state
  rw [hst, Option.some.injEq] at hst₀
  subst hst₀
  refine ⟨?_, st, md, hst, hsync.metadata, hsync.observation, hsync.generation,
    due_deliverable hp hsync ha hh⟩
  rw [handedOff_plan hh, held.plan_id]

theorem stepContents_return (c : SchedulerConnector) (scheduled : Dict String ℤ)
    {handoffs : List RequestHandoffMetadata} {t : RuntimeConfig}
    (hmode : config.transfer = some t)
    (hx : ∀ h ∈ handoffs, ∃ x, transferFor sha256 t c scheduled h = .ok x)
    (ho : ∀ h ∈ handoffs, ∃ o, c.schedulerLookupObservations.get? h.plan.requestId = some o) :
    ∃ contents, stepContents sha256 config c scheduled handoffs = .ok contents := by
  obtain ⟨xs, hxs⟩ := mapM_returns_of _ handoffs hx
  obtain ⟨os, hos⟩ := mapM_returns_of (observationFor c) handoffs fun h hm => by
    obtain ⟨o, ho⟩ := ho h hm
    unfold observationFor
    rw [ho]
    exact ⟨o, rfl⟩
  unfold stepContents
  rw [hmode]
  exact ⟨_, (checked_ok_iff _ _ _).mpr ⟨xs, hxs, (checked_ok_iff _ _ _).mpr ⟨os, hos, rfl⟩⟩⟩

theorem build_returns_iff {s : Engine} {t : RuntimeConfig} {scheduled : Dict String ℤ}
    (hi : EngineInvariant sha256 config prompt s) (hmode : config.transfer = some t)
    (hs : ∀ id ∈ s.connector.pendingHandoffIds, (s.views id).stage = .allocated)
    (hn : ∀ id ∈ s.connector.pendingHandoffIds, ∃ n, scheduled.get? id = some n ∧ 1 ≤ n) :
    (∃ m c, buildConnectorMeta sha256 config scheduled s.connector = (.ok m, c)) ↔
      ∀ id ∈ s.connector.pendingHandoffIds, ∀ n, scheduled.get? id = some n →
        n ≤ (prompt id).length := by
  constructor
  · rintro ⟨m, c, hc⟩ id hm n hid
    obtain ⟨handoffs, p, contents, hrun, hcontents, _, _⟩ :=
      (buildConnectorMeta_ok_iff sha256 _ _ _ _ _).mp hc
    obtain ⟨h, hh, hplan, st, md, _, hmd, _, _, hd⟩ :=
      forall₂_left (step_deliverable hi hmode hs hrun) hm
    obtain ⟨xs, hxs, _⟩ := stepContents_transfers hmode hcontents
    obtain ⟨x, _, hx⟩ := forall₂_left hxs hh
    obtain ⟨n', hn', hpos⟩ := hn id hm
    rw [hid, Option.some.injEq] at hn'
    subst hn'
    rw [← hplan] at hmd hid
    exact (transferFor_returns_iff hd hmd hid hpos).mp ⟨x, hx⟩
  · intro hle
    obtain ⟨handoffs, p, hrun⟩ := planeHandoffs_return hi.pending_nodup fun id hm => by
      obtain ⟨st, _, _, _, held, hp, _⟩ := due_synced hi hmode (hs id hm) (hi.pending id hm).1
      exact ⟨st, held.state, hp⟩
    have hstep := step_deliverable hi hmode hs hrun
    obtain ⟨contents, hcontents⟩ := stepContents_return
      { s.connector with controlPlane := p } scheduled hmode
      (fun h hm => by
        obtain ⟨id, hid, hplan, st, md, _, hmd, _, _, hd⟩ := forall₂_right hstep hm
        obtain ⟨n, hn, hpos⟩ := hn id hid
        rw [← hplan] at hmd
        exact (transferFor_returns_iff hd hmd (by rw [hplan]; exact hn) hpos).mpr
          (hle id hid n hn))
      (fun h hm => by
        obtain ⟨id, _, hplan, st, md, _, _, ho, _⟩ := forall₂_right hstep hm
        rw [hplan]
        exact ⟨_, ho⟩)
    exact ⟨_, _, (buildConnectorMeta_ok_iff sha256 _ _ _ _ _).mpr
      ⟨handoffs, p, contents, hrun, hcontents, rfl, rfl⟩⟩

variable (prompt) in
/-- A step of transfer mode hands every due request off once, with one
generation in all three places, and transfers only whole prompts. -/
structure StepSound (s : Engine) (scheduled : Dict String ℤ)
    (m : GptOssCacheBlendMetadata sha256) (c : SchedulerConnector) : Prop where
  once : m.handoffs.map (fun h => h.plan.requestId) = s.connector.pendingHandoffIds
  distinct : s.connector.pendingHandoffIds.Nodup
  due : ∀ id, id ∈ s.connector.pendingHandoffIds ↔
    (s.views id).stage = .allocated ∧ (s.views id).handedOff = false
  cleared : c.pendingHandoffIds = []
  generations : ∀ h ∈ m.handoffs, ∃ st md,
    s.connector.controlPlane.states.get? h.plan.requestId = some st ∧
    s.connector.schedulerLookupMetadata.get? h.plan.requestId = some md ∧
    st.allocationGeneration = md.allocationGeneration ∧
    h.allocation.allocationGeneration = md.allocationGeneration
  whole : ∀ x ∈ m.transfers, x.handoff ∈ m.handoffs ∧
    scheduled.get? x.requestId = some ((prompt x.requestId).length : ℤ)

theorem built_sound {s : Engine} {t : RuntimeConfig} {scheduled : Dict String ℤ}
    {m : GptOssCacheBlendMetadata sha256} {c : SchedulerConnector}
    (hi : EngineInvariant sha256 config prompt s) (hmode : config.transfer = some t)
    (hc : buildConnectorMeta sha256 config scheduled s.connector = (.ok m, c)) :
    StepSound prompt s scheduled m c := by
  have hs := build_unfinished hi hc
  obtain ⟨handoffs, p, contents, hrun, hcontents, hm, rfl⟩ :=
    (buildConnectorMeta_ok_iff sha256 _ _ _ _ _).mp hc
  have hhandoffs : m.handoffs = handoffs := by rw [hm]
  have htransfers : m.transfers = contents.1 := by rw [hm]
  have hstep := step_deliverable hi hmode hs hrun
  refine ⟨?_, hi.pending_nodup, fun id => ⟨fun hm => ⟨hs id hm, (hi.pending id hm).1⟩,
    fun h => hi.awaiting id h.1 h.2⟩, rfl, fun h hm => ?_, fun x hx => ?_⟩
  · rw [hhandoffs]
    exact forall₂_map_eq _ hstep fun _ _ h => h.1
  · rw [hhandoffs] at hm
    obtain ⟨id, _, rfl, st, md, hst, hmd, _, hgen, hd⟩ := forall₂_right hstep hm
    exact ⟨st, md, hst, hmd, hgen, hd.generation⟩
  · rw [htransfers] at hx
    obtain ⟨xs, hxs, hfilter⟩ := stepContents_transfers hmode hcontents
    rw [hfilter] at hx
    obtain ⟨y, hy, rfl⟩ := List.mem_filterMap.mp hx
    obtain ⟨h, hh, hfor⟩ := forall₂_right hxs hy
    obtain ⟨id, _, rfl, st, md, _, hmd, _, _, hd⟩ := forall₂_right hstep hh
    obtain ⟨rfl, hwhole⟩ := transferFor_whole hmd hfor
    rw [hhandoffs]
    refine ⟨hh, ?_⟩
    rw [hd.prompt] at hwhole
    exact hwhole

variable (sha256 config prompt) in
/-- What holds of the scheduler hooks in an engine of transfer mode with
preempted requests. The requests whose handoff is due are those allocated since
the last step, none of them finished. -/
structure Survives (s : Engine) : Prop where
  lookups : ∀ id env, (s.views id).stage = .lookedUp ∨ (s.views id).stage = .preempted →
    ∃ c, getNumNewMatchedTokens sha256 config env
      (vllmRequest prompt id (s.views id).preemptions) 0 s.connector = (.ok (0, false), c)
  allocations : ∀ id tables, (s.views id).stage = .lookedUp →
    legalTables config.adapted.numBlocks config.adapted.groupKinds tables = true →
    NullFree tables →
    ∃ c, updateStateAfterAlloc config id (observe tables) 0 s.connector = (.ok (), c)
  steps : ∀ scheduled : Dict String ℤ,
    (∀ id ∈ s.connector.pendingHandoffIds, (s.views id).stage = .allocated ∧
      ∃ n, scheduled.get? id = some n ∧ 1 ≤ n) →
    ((∃ m c, buildConnectorMeta sha256 config scheduled s.connector = (.ok m, c)) ↔
      ∀ id ∈ s.connector.pendingHandoffIds, ∀ n, scheduled.get? id = some n →
        n ≤ (prompt id).length)
  sound : ∀ scheduled m c, buildConnectorMeta sha256 config scheduled s.connector = (.ok m, c) →
    StepSound prompt s scheduled m c

/-- In every reachable engine of transfer mode the hooks survive preemption,
the step included exactly when it schedules no request beyond its prompt. -/
theorem preemption_survived {s : Engine} (h : Reachable sha256 config prompt s)
    {t : RuntimeConfig} (hmode : config.transfer = some t) :
    Survives sha256 config prompt s where
  lookups _ env hs := lookup_returns env (reachable_invariant h) hmode hs
  allocations _ _ hs hl hn := allocate_again (reachable_invariant h) hs hl hn
  steps _ hs := build_returns_iff (reachable_invariant h) hmode (fun id hm => (hs id hm).1)
    fun id hm => (hs id hm).2
  sound _ _ _ hc := built_sound (reachable_invariant h) hmode hc

end

def resumedRun : List EngineEvent :=
  preemptedRun ++ [.lookup "r" emptyEnvironment 0, .allocate "r" exampleTables]

theorem resumed_request_survives : Survives zeroHash transferConfig onePrompt
    (engineAfter transferConfig resumedRun) :=
  preemption_survived (engineAfter_reachable (by decide +kernel)) rfl

/-- A request with a prompt of one token generated one more and was preempted.
The step that resumes it computes both tokens, and cannot be built. -/
theorem resumed_step_raises :
    Reachable zeroHash transferConfig onePrompt (engineAfter transferConfig resumedRun) ∧
      (engineAfter transferConfig resumedRun).connector.pendingHandoffIds = ["r"] ∧
      ((engineAfter transferConfig resumedRun).views "r").stage = .allocated ∧
      ((engineAfter transferConfig resumedRun).views "r").preemptions = 1 ∧
      (buildConnectorMeta zeroHash transferConfig (Dict.empty.set "r" 2)
        (engineAfter transferConfig resumedRun).connector).1 =
          .error (.runtime "SchedulerOutput contains an invalid scheduled token count.") :=
  ⟨engineAfter_reachable (by decide +kernel), by decide +kernel, by decide +kernel,
    by decide +kernel, by decide +kernel⟩

end CacheBlend.EnginePreemption
