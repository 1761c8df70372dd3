import CacheBlend.ConnectorRecords
import CacheBlend.LookupRuns

/-!
# The observations of lookups

The candidates of a plan are candidates of the transport, and all of them lie in
the prompt. So the found tokens of a lookup cover its verified tokens and fit in
the prompt, and its observation passes every check. The scheduler connector
keeps the plan of a request, its lookup and its observation in agreement through
every hook, whether the hook returns or raises.
-/

set_option autoImplicit false

namespace CacheBlend.LookupObservations
open CacheBlend.PlannerModels CacheBlend.LmcacheTypes CacheBlend.CandidateLookup
open CacheBlend.CandidateVerdicts CacheBlend.LookupPlans CacheBlend.CoveredRanges
open CacheBlend.RequestLifecycle CacheBlend.ControlPlane CacheBlend.SchedulerRuntime
open CacheBlend.RuntimeLookups CacheBlend.LookupRuns CacheBlend.SchedulerHooks

/-! ## The candidates of a plan -/

section
variable {sha256 : Bytes → Digest} {prompt : List TokenId} {cacheNamespace : CacheNamespace}

theorem considerCandidate_from {lookup : RecordLookup} {rawIndex : ℕ} {c : LmcacheCandidate}
    {st st' : LookupState}
    (h : considerCandidate sha256 lookup prompt cacheNamespace rawIndex c st = .ok st') :
    c.targetRange.stop ≤ prompt.length ∧
      ∀ r ∈ st'.rejected, r ∈ st.rejected ∨ r.2.candidate = c := by
  have hadd : ∀ (cache : BucketCache) (verdict : Verdict), ∀ r ∈
      (st.add rawIndex c cache verdict).rejected, r ∈ st.rejected ∨ r.2.candidate = c := by
    intro cache verdict r hr
    cases verdict with
    | verified v => exact Or.inl hr
    | rejected reason found =>
      obtain hr | hr := List.mem_append.mp hr
      · exact Or.inl hr
      · rw [List.mem_singleton.mp hr]
        exact Or.inr rfl
  unfold considerCandidate at h
  split_ifs at h with hin hq
  · cases h
    exact ⟨hin, hadd _ _⟩
  · obtain ⟨⟨bucket, cache⟩, _, h⟩ := (checked_ok_iff _ _ _).mp h
    obtain ⟨verdict, _, h⟩ := (checked_ok_iff _ _ _).mp h
    cases h
    exact ⟨hin, hadd _ _⟩

theorem considerAll_from {lookup : RecordLookup} (cs : List LmcacheCandidate) {rawIndex : ℕ}
    {st st' : LookupState}
    (h : considerAll sha256 lookup prompt cacheNamespace rawIndex cs st = .ok st') :
    (∀ c ∈ cs, c.targetRange.stop ≤ prompt.length) ∧
      ∀ r ∈ st'.rejected, r ∈ st.rejected ∨ r.2.candidate ∈ cs := by
  induction cs generalizing rawIndex st with
  | nil =>
    cases h
    exact ⟨fun _ hc => (nomatch hc), fun r hr => Or.inl hr⟩
  | cons c cs ih =>
    obtain ⟨st₁, h₁, h₂⟩ := (checked_ok_iff _ _ _).mp h
    obtain ⟨hin, hfirst⟩ := considerCandidate_from h₁
    obtain ⟨hins, hrest⟩ := ih h₂
    refine ⟨List.forall_mem_cons.mpr ⟨hin, hins⟩, fun r hr => ?_⟩
    obtain hr | hr := hrest r hr
    · exact (hfirst r hr).imp id fun he => by rw [he]; exact List.mem_cons_self
    · exact Or.inr (List.mem_cons_of_mem _ hr)

theorem concludePlan_counts {candidates : List LmcacheCandidate} {st : LookupState}
    {p : LmcacheLookupPlan} (h : concludePlan candidates st = .ok p) :
    p.counters.verifiedCandidates ≤ candidates.length ∧
      p.counters.verifiedCandidateTokens =
        tokenTotal (p.verifiedCandidates.map VerifiedLmcacheCandidate.candidate) ∧
      ∀ r ∈ p.rejectedCandidates, (∃ r' ∈ st.rejected, r'.2 = r) ∨
        ∃ q ∈ st.potentials, q.candidate = r.candidate := by
  unfold concludePlan at h
  dsimp only at h
  split_ifs at h with hc
  cases h
  refine ⟨(Nat.le_add_right _ _).trans_eq hc.1.symm, rfl, fun r hr => ?_⟩
  obtain ⟨r', hr', rfl⟩ := List.mem_map.mp ((sortRejected_perm _).mem_iff.mp hr)
  obtain hr' | hr' := List.mem_append.mp hr'
  · exact Or.inl ⟨r', hr', rfl⟩
  · obtain ⟨q, hq, rfl⟩ := List.mem_map.mp hr'
    have hmem := (selection st.potentials).partition.mem_iff.mp (List.mem_append_right _ hq)
    exact Or.inr ⟨q, hmem, rfl⟩

theorem plan_from {lookup : RecordLookup} {candidates : List LmcacheCandidate}
    {p : LmcacheLookupPlan}
    (h : plan sha256 lookup (prompt.map (fun t => (t.val : ℤ))) cacheNamespace candidates =
      .ok p) :
    (∀ c ∈ candidates, c.targetRange.stop ≤ prompt.length) ∧
      (∀ v ∈ p.verifiedCandidates, v.candidate ∈ candidates) ∧
      (∀ r ∈ p.rejectedCandidates, r.candidate ∈ candidates) ∧
      p.counters.verifiedCandidates ≤ candidates.length ∧
      p.counters.verifiedCandidateTokens =
        tokenTotal (p.verifiedCandidates.map VerifiedLmcacheCandidate.candidate) := by
  unfold plan at h
  rw [normalizeTokenIds_val] at h
  obtain ⟨st, hst, h⟩ := (checked_ok_iff _ _ _).mp h
  obtain ⟨hin, hrejected⟩ := considerAll_from candidates hst
  obtain ⟨hcount, htokens, hconcluded⟩ := concludePlan_counts h
  have hkept : ∀ q ∈ st.potentials, q.candidate ∈ candidates := fun q hq =>
    (considerAll_kept sha256 prompt cacheNamespace candidates hst q hq).elim
      (fun hn => (nomatch hn)) And.left
  refine ⟨hin, fun v hv => ?_, fun r hr => ?_, hcount, htokens⟩
  · rw [concludePlan_verified h] at hv
    obtain ⟨q, hq, rfl⟩ := List.mem_map.mp ((sortVerified_perm _).mem_iff.mp hv)
    exact hkept q ((selection st.potentials).sublist.subset hq)
  · obtain ⟨r', hr', rfl⟩ | ⟨q, hq, he⟩ := hconcluded r hr
    · exact (hrejected r' hr').elim (fun hn => (nomatch hn)) id
    · rw [← he]
      exact hkept q hq

end

/-! ## The observation of a plan -/

/-- What the observation of a lookup rests on. -/
structure Observable (p : LmcacheLookupPlan) (windows : List TokenRange) (promptTokens : ℕ) :
    Prop where
  hits : p.counters.verifiedCandidates ≤ windows.length
  tokens : p.counters.verifiedCandidateTokens =
    tokenTotal (p.verifiedCandidates.map VerifiedLmcacheCandidate.candidate)
  covered : p.counters.verifiedCandidateTokens ≤ p.foundTargetTokenCount
  bounded : p.foundTargetTokenCount ≤ if windows ≠ [] then promptTokens else 0

theorem observable_empty (windows : List TokenRange) (promptTokens : ℕ) :
    Observable emptyLookupPlan windows promptTokens :=
  ⟨Nat.zero_le _, rfl, Nat.zero_le _, Nat.zero_le _⟩

theorem plan_observable {sha256 : Bytes → Digest} {prompt : List TokenId}
    {cacheNamespace : CacheNamespace} {lookup : RecordLookup}
    {candidates : List LmcacheCandidate} {p : LmcacheLookupPlan} {windows : List TokenRange}
    (hsize : ∀ c ∈ candidates, c.targetRange.size = lmcacheChunkSize)
    (hcount : candidates.length ≤ windows.length)
    (h : plan sha256 lookup (prompt.map (fun t => (t.val : ℤ))) cacheNamespace candidates =
      .ok p) : Observable p windows prompt.length := by
  obtain ⟨hin, hverified, hrejected, hhits, htokens⟩ := plan_from h
  obtain ⟨_, hafter⟩ := checkCandidates_placed
    (plan_candidates_agree sha256 prompt cacheNamespace hsize h)
  have hapart : (p.verifiedCandidates.map fun v => v.candidate.targetRange).Pairwise
      fun r r' => ¬r.Overlaps r' := by
    apply List.pairwise_map.mpr
    exact hafter.imp fun {v w} hle ho => absurd ho.2 (not_lt.mpr hle)
  have hranges : ∀ r ∈ p.verifiedCandidates.map (fun v => v.candidate.targetRange) ++
      (p.rejectedCandidates.filter (fun r => r.reason.found)).map
        (fun r => r.candidate.targetRange), ∃ c ∈ candidates, c.targetRange = r := by
    intro r hr
    obtain hr | hr := List.mem_append.mp hr
    · obtain ⟨v, hv, rfl⟩ := List.mem_map.mp hr
      exact ⟨v.candidate, hverified v hv, rfl⟩
    · obtain ⟨q, hq, rfl⟩ := List.mem_map.mp hr
      exact ⟨q.candidate, hrejected q (List.mem_filter.mp hq).1, rfl⟩
  refine ⟨hhits.trans hcount, htokens, ?_, ?_⟩
  · rw [htokens]
    unfold tokenTotal LmcacheLookupPlan.foundTargetTokenCount
    rw [List.map_map]
    refine le_trans (le_of_eq ?_) (coveredTokenCount_mono (List.subset_append_left _ _))
    rw [coveredTokenCount_apart hapart, List.map_map]
    rfl
  · by_cases hw : windows = []
    · rw [if_neg (not_not.mpr hw)]
      have hnone : candidates = [] := by
        rw [hw, List.length_nil] at hcount
        exact List.length_eq_zero_iff.mp (Nat.le_zero.mp hcount)
      refine coveredTokenCount_bounded fun r hr => ?_
      obtain ⟨c, hc, _⟩ := hranges r hr
      rw [hnone] at hc
      cases hc
    · rw [if_pos hw]
      refine coveredTokenCount_bounded fun r hr => ?_
      obtain ⟨c, hc, rfl⟩ := hranges r hr
      exact hin c hc

theorem observation_valid {md : SchedulerLookupMetadata} {promptTokens : ℕ}
    (h : Observable md.lookupPlan md.queryWindows promptTokens) :
    (observationOf promptTokens md).Valid := by
  obtain ⟨hhits, _, hcovered, hbounded⟩ := h
  unfold CacheBlendLookupObservation.Valid observationOf
  dsimp only
  by_cases hw : md.queryWindows = []
  · rw [if_neg (not_not.mpr hw)] at hbounded ⊢
    omega
  · rw [if_pos hw] at hbounded ⊢
    omega

/-! ## The lookups of the runtime -/

/-- The observation of the metadata rests on its plan and windows. -/
def Observed (md : SchedulerLookupMetadata) : Prop :=
  Observable md.lookupPlan md.queryWindows md.promptTokenIds.length

theorem buildMetadata_observed {request : SchedulerLookupRequest} {status : SchedulerLookupStatus}
    {p : LmcacheLookupPlan} {windows : List TokenRange} {generation : ℕ}
    {md : SchedulerLookupMetadata} (ho : Observable p windows request.promptTokenIds.length)
    (h : SchedulerLookupRuntime.buildMetadata request status p windows generation = .ok md) :
    Observed md := by
  unfold SchedulerLookupRuntime.buildMetadata at h
  obtain ⟨plan, hp, h⟩ := (checked_ok_iff _ _ _).mp h
  have hf := metadata_new_fields h
  unfold Observed
  rw [hf]
  exact ho

theorem finishLookup_observed {request : SchedulerLookupRequest} {status : SchedulerLookupStatus}
    {p : LmcacheLookupPlan} {windows : List TokenRange} {rt rt' : SchedulerLookupRuntime}
    {md : SchedulerLookupMetadata} (ho : Observable p windows request.promptTokenIds.length)
    (h : SchedulerLookupRuntime.finishLookup request status p windows rt = (.ok md, rt')) :
    Observed md := by
  unfold SchedulerLookupRuntime.finishLookup at h
  obtain ⟨md', hb, h⟩ := (Call.lift_bind_iff _ _ _ _ _).mp h
  have hmd : md = md' := by
    split_ifs at h
    · exact ((Call.pure_ok_iff _ _ _ _).mp h).1
    · cases h
      rfl
  rw [hmd]
  exact buildMetadata_observed ho hb

section
variable {sha256 : Bytes → Digest} {config : RuntimeConfig}

theorem verifyCandidates_observable (records : RecordLookup) (request : SchedulerLookupRequest)
    (candidates : List LmcacheCandidate) (windows : List TokenRange) :
    Observable (SchedulerLookupRuntime.verifyCandidates sha256 config records request candidates
      windows.length).2 windows request.promptTokenIds.length := by
  unfold SchedulerLookupRuntime.verifyCandidates
  cases hc : SchedulerLookupRuntime.structuralChecks candidates windows.length with
  | error status => exact observable_empty _ _
  | ok u =>
    obtain ⟨hsizes, hcount⟩ := (require_then_iff _ _ _ _).mp hc
    dsimp only
    cases hp : plan sha256 records (request.promptTokenIds.map (fun t => (t.val : ℤ)))
        config.cacheNamespace candidates with
    | error e =>
      unfold SchedulerLookupRuntime.coordinatorStatus
      dsimp only
      split_ifs <;> exact observable_empty _ _
    | ok p =>
      have ho := plan_observable (fun c hm => (hsizes c hm).2) ((require_ok_iff _ _ _).mp hcount) hp
      unfold SchedulerLookupRuntime.coordinatorStatus
      dsimp only
      split_ifs <;> exact ho

theorem askCandidates_observable (env : Environment) (request : SchedulerLookupRequest)
    (windows : List TokenRange) (rt : SchedulerLookupRuntime) :
    Observable (rt.askCandidates sha256 config env request windows.length).1.2 windows
      request.promptTokenIds.length := by
  unfold SchedulerLookupRuntime.askCandidates
  split
  · exact observable_empty _ _
  · exact observable_empty _ _
  · exact verifyCandidates_observable _ _ _ _

theorem firstLookup_observed {env : Environment} {request : SchedulerLookupRequest}
    {rt rt' : SchedulerLookupRuntime} {md : SchedulerLookupMetadata}
    (h : SchedulerLookupRuntime.firstLookup sha256 config env request rt = (.ok md, rt')) :
    Observed md := by
  unfold SchedulerLookupRuntime.firstLookup at h
  cases he : SchedulerLookupRuntime.eligibilityStatus config request with
  | some status =>
    rw [he] at h
    exact finishLookup_observed (observable_empty _ _) h
  | none =>
    rw [he] at h
    obtain ⟨state, rt₁, _, h⟩ := (Call.bind_ok_iff _ _ _ _ _).mp h
    split_ifs at h
    · exact finishLookup_observed (observable_empty _ _) h
    · rw [Call.read_bind] at h
      exact buildMetadata_observed (observable_empty _ _) ((Call.lift_ok_iff _ _ _ _).mp h).1
    · rw [Call.read_bind, Call.modify_bind] at h
      exact finishLookup_observed (askCandidates_observable env request _ rt₁) h

def Held (rt : SchedulerLookupRuntime) : Prop :=
  ∀ id stored, rt.requests.get? id = some stored → Observed stored.metadata

theorem held_empty {rt : SchedulerLookupRuntime} (h : rt.requests = Dict.empty) : Held rt := by
  intro id stored hg
  rw [h] at hg
  cases hg

theorem retained_observed {env : Environment} {request : SchedulerLookupRequest}
    {rt rt' : SchedulerLookupRuntime} {md : SchedulerLookupMetadata} (hs : Sound sha256 config rt)
    (hh : Held rt) (hn : md.status.isFatal = false)
    (h : SchedulerLookupRuntime.lookup sha256 config env request rt = (.ok md, rt')) :
    Observed md := by
  have hfollows := (lookup_retains sha256 config hs hn h).follows
  cases hg : rt.requests.get? request.requestId with
  | none =>
    unfold SchedulerLookupRuntime.lookup at h
    rw [Call.read_bind, if_neg hs.alive.2, if_neg hs.alive.1, hg] at h
    exact firstLookup_observed h
  | some old =>
    have ho := hh _ _ hg
    rw [hg] at hfollows
    cases hfollows with
    | repeated => exact ho
    | preempted old _ hrenewed =>
      unfold Observed
      rw [hrenewed]
      exact ho

variable (sha256 config)

/-- A runtime of a run, all of whose answers can be observed. -/
structure Kept (rt : SchedulerLookupRuntime) : Prop where
  standing : Standing sha256 config rt
  held : Held rt

theorem kept_initial : Kept sha256 config .initial :=
  ⟨.usable (sound_initial sha256 config), held_empty rfl⟩

theorem ended_plain (env : Environment) (request : SchedulerLookupRequest)
    {rt : SchedulerLookupRuntime} (h : Failed rt ∨ rt.state = .closed) :
    ∃ md, SchedulerLookupRuntime.lookup sha256 config env request rt = (.ok md, rt) ∧
      md.status.isFatal = true := by
  obtain ⟨md, hl, hf⟩ := ended_lookup sha256 config env request (s := ⟨rt, []⟩) h
  obtain ⟨hanswer, hafter⟩ := lookup_runtime sha256 config env request ⟨rt, []⟩
  rw [hl] at hanswer hafter
  exact ⟨md, Prod.ext hanswer.symm hafter.symm, hf⟩

structure Answer (request : SchedulerLookupRequest) (md : SchedulerLookupMetadata) : Prop where
  observed : Observed md
  prompt : md.promptTokenIds = request.promptTokenIds
  plan_id : md.requestPlan.requestId = request.requestId

theorem lookup_kept (env : Environment) (request : SchedulerLookupRequest)
    {rt : SchedulerLookupRuntime} (hk : Kept sha256 config rt) :
    ∃ md rt', SchedulerLookupRuntime.lookup sha256 config env request rt = (.ok md, rt') ∧
      Kept sha256 config rt' ∧ (md.status.isFatal = false → Answer request md) := by
  have hended : ∀ h : Failed rt ∨ rt.state = .closed,
      ∃ md rt', SchedulerLookupRuntime.lookup sha256 config env request rt = (.ok md, rt') ∧
        Kept sha256 config rt' ∧ (md.status.isFatal = false → Answer request md) := by
    intro h
    obtain ⟨md, hl, hf⟩ := ended_plain sha256 config env request h
    refine ⟨md, rt, hl, hk, fun hn => ?_⟩
    rw [hf] at hn
    cases hn
  cases hk.standing with
  | failed hf => exact hended (Or.inl hf)
  | closed hc _ => exact hended (Or.inr hc)
  | usable hs =>
    obtain ⟨md, hok, hfatal⟩ := lookup_returned env request hs
    have hl : SchedulerLookupRuntime.lookup sha256 config env request rt =
        (.ok md, (SchedulerLookupRuntime.lookup sha256 config env request rt).2) :=
      Prod.ext hok rfl
    refine ⟨md, _, hl, ?_, fun hn => ?_⟩
    · by_cases hf : md.status.isFatal = true
      · exact ⟨.failed (hfatal hf), held_empty (hfatal hf).released⟩
      · have hn := Bool.eq_false_iff.mpr hf
        have hr := lookup_retains sha256 config hs hn hl
        refine ⟨.usable hr.sound, fun id stored hg => ?_⟩
        by_cases hid : id = request.requestId
        · rw [hid, hr.own] at hg
          cases hg
          exact retained_observed hs hk.held hn hl
        · rw [hr.others id hid] at hg
          exact hk.held id stored hg
    · have hr := lookup_retains sha256 config hs hn hl
      obtain ⟨_, ha⟩ := hr.sound.retained _ _ hr.own
      exact ⟨retained_observed hs hk.held hn hl, ha.prompt, ha.plan_id⟩

theorem discard_kept (requestId : String) {rt : SchedulerLookupRuntime}
    (hk : Kept sha256 config rt) :
    Kept sha256 config (SchedulerLookupRuntime.discard requestId rt).2 := by
  refine ⟨discard_standing requestId (s := ⟨rt, []⟩) hk.standing, fun id stored hg => ?_⟩
  change (rt.requests.erase requestId).get? id = some stored at hg
  rw [Dict.get?_erase] at hg
  split_ifs at hg
  exact hk.held id stored hg

end

/-! ## The plans of a plane -/

/-- Every state of the plane has a plan of the kind. -/
def PlansAre (E : String → RequestPlan → Prop) (p : RequestControlPlane) : Prop :=
  ∀ id st, p.states.get? id = some st → E id st.plan

section
variable {E : String → RequestPlan → Prop}

theorem plansAre_put {p : RequestControlPlane} {id : String} {st : RequestLifecycleState}
    (h : PlansAre E p) (hs : E id st.plan) : PlansAre E (p.put id st) := by
  intro id' st' hg
  rw [put_get?] at hg
  split_ifs at hg with he
  · cases hg
    rw [he]
    exact hs
  · exact h id' st' hg

theorem keeps_updateState (id : String)
    {f : RequestLifecycleState → Except ControlPlaneError RequestLifecycleState}
    (hf : ∀ s, RequestTransitions.Outcome (f s) (fun s' => s'.plan = s.plan)) :
    Call.Keeps (PlansAre E) (RequestControlPlane.updateState id f) := by
  intro p hp
  obtain ⟨e, he, _⟩ | ⟨s', p', hc, s, hs, hplan, rfl⟩ :=
    updateState_outcome p id f (fun s s' => s'.plan = s.plan) hf
  · rw [he]
    exact hp
  · rw [hc]
    refine plansAre_put hp ?_
    rw [hplan]
    exact hp id s hs

theorem keeps_allocate (id : String) (tables : List (List ℤ)) (external : ℤ) :
    Call.Keeps (PlansAre E) (RequestControlPlane.allocate id tables external) := by
  intro p hp
  refine keeps_updateState id (fun s => ?_) p hp
  refine RequestTransitions.outcome_mono (fun s' => ?_)
    (RequestTransitions.RequestLifecycleState.allocate_outcome s p.groupLayout tables external)
  rintro ⟨a, _, _, ⟨_, hf⟩ | ⟨_, _, rfl⟩⟩
  · rw [hf]
  · rfl

theorem keeps_preempt (id : String) :
    Call.Keeps (PlansAre E) (RequestControlPlane.preempt id) := by
  refine keeps_updateState id fun s => RequestTransitions.outcome_mono (fun s' => ?_)
    (RequestTransitions.RequestLifecycleState.preempt_outcome s)
  rintro ⟨_, ⟨_, rfl⟩ | ⟨_, hf⟩⟩
  · rfl
  · rw [hf]

theorem keeps_applyWorkerValidation (receipt : WorkerValidationReceipt) :
    Call.Keeps (PlansAre E) (RequestControlPlane.applyWorkerValidation receipt) := by
  refine keeps_updateState receipt.requestId fun s => RequestTransitions.outcome_mono
    (fun s' => ?_)
    (RequestTransitions.RequestLifecycleState.applyWorkerValidation_outcome s receipt)
  rintro ⟨_, _, _, _, ⟨_, hf⟩ | rfl⟩
  · rw [hf]
  · rfl

theorem handoff_plans {p : RequestControlPlane} (id : String) (hp : PlansAre E p) :
    PlansAre E (RequestControlPlane.handoff id p).2 ∧
      ∀ h, (RequestControlPlane.handoff id p).1 = .ok h → E id h.plan := by
  obtain ⟨e, he, _⟩ | ⟨h, p', hc, s, s', hs, hh, rfl, hcase⟩ := handoff_outcome p id
  · rw [he]
    exact ⟨hp, fun _ h => (nomatch h)⟩
  · have hplan : h.plan = s'.plan := (RequestTransitions.handoff_links s' h hh).1
    have hsame : s'.plan = s.plan := by
      obtain ⟨_, _, _, hf⟩ | rfl := hcase
      · rw [hf]
      · rfl
    have he : E id s'.plan := by
      rw [hsame]
      exact hp id s hs
    rw [hc]
    refine ⟨plansAre_put hp he, fun h' hok => ?_⟩
    cases hok
    rw [hplan]
    exact he

theorem keeps_discard (id : String) :
    Call.Keeps (PlansAre E) (RequestControlPlane.discard id) := by
  intro p hp id' st hg
  change (p.states.erase id).get? id' = some st at hg
  rw [Dict.get?_erase] at hg
  split_ifs at hg
  exact hp id' st hg

theorem requestPlan_new_matches {id : String} {promptTokens : ℤ} {segments : List TokenSegment}
    {matchPlan : MatchPlan} {plan : RequestPlan}
    (h : RequestPlan.new id promptTokens segments matchPlan = .ok plan) :
    plan.matchPlan = matchPlan := by
  unfold RequestPlan.new at h
  split at h
  · cases h
  · cases h
    rfl

theorem keeps_lookup {id : String} {promptTokens : ℤ} {segments : List TokenSegment}
    {matchPlan : MatchPlan}
    (he : ∀ plan, RequestPlan.new id promptTokens segments matchPlan = .ok plan → E id plan) :
    Call.Keeps (PlansAre E) (RequestControlPlane.lookup id promptTokens segments matchPlan) := by
  intro p hp
  obtain ⟨e, hc, _⟩ | ⟨s, p', hc, hplan, ⟨_, rfl⟩ | ⟨_, rfl, _⟩⟩ :=
    lookup_outcome p id promptTokens segments matchPlan
  · rw [hc]
    exact hp
  · rw [hc]
    exact hp
  · rw [hc]
    exact plansAre_put hp (he _ hplan)

/-- A lookup leaves the request with the plan it asked for and other requests
alone, or it raises and leaves all of them alone. -/
theorem lookup_plans {E' : String → RequestPlan → Prop} {p : RequestControlPlane}
    (plan : RequestPlan) (hp : PlansAre E p) (hown : E' plan.requestId plan)
    (hothers : ∀ id other, id ≠ plan.requestId → E id other → E' id other) :
    let answer := RequestControlPlane.lookup plan.requestId plan.promptTokens plan.querySegments
      plan.matchPlan p
    (∃ e, answer = (.error e, p)) ∨ ∃ st p', answer = (.ok st, p') ∧ PlansAre E' p' := by
  intro answer
  obtain ⟨e, hc, _⟩ | ⟨s, p', hc, hplan, hcase⟩ :=
    lookup_outcome p plan.requestId plan.promptTokens plan.querySegments plan.matchPlan
  · exact Or.inl ⟨e, hc⟩
  · rw [plan_new_self] at hplan
    refine Or.inr ⟨s, p', hc, fun id st hg => ?_⟩
    by_cases hid : id = plan.requestId
    · have hst : st = s := by
        obtain ⟨hs, rfl⟩ | ⟨_, rfl, _⟩ := hcase
        · rw [hid, hs] at hg
          exact (Option.some_inj.mp hg).symm
        · rw [hid, put_get?_self] at hg
          exact (Option.some_inj.mp hg).symm
      rw [hst, hid, ← Except.ok.inj hplan]
      exact hown
    · have hold : p.states.get? id = some st := by
        obtain ⟨_, rfl⟩ | ⟨_, rfl, _⟩ := hcase
        · exact hg
        · rwa [put_get?_ne _ _ hid] at hg
      exact hothers id _ hid (hp id st hold)

end

/-! ## The hooks of the scheduler -/

section
variable (sha256 : Bytes → Digest) (config : ConnectorConfig)

/-- What the plan of a request may be, by the lookup retained for it. -/
def Expected (lookups : Dict String SchedulerLookupMetadata) (requestId : String)
    (plan : RequestPlan) : Prop :=
  plan.requestId = requestId ∧
  (∀ md, lookups.get? requestId = some md → plan = md.requestPlan) ∧
  (config.transfer = none → plan.matchPlan.verifiedMatches = [])

/-- Plans, lookups and observations of the requests agree. -/
structure Agreeing (s : SchedulerConnector) : Prop where
  plans : PlansAre (Expected config s.schedulerLookupMetadata) s.controlPlane
  observations : ∀ id o, s.schedulerLookupObservations.get? id = some o →
    ∃ md, s.schedulerLookupMetadata.get? id = some md ∧ Observed md ∧
      o = observationOf md.promptTokenIds.length md
  runtime : ∀ transfer rt, config.transfer = some transfer → s.runtime = some rt →
    Kept sha256 transfer rt
  idle : config.transfer = none → s.schedulerLookupMetadata = Dict.empty

theorem agreeing_new : Agreeing sha256 config (SchedulerConnector.new config) := by
  refine ⟨fun _ _ h => (nomatch h), fun _ _ h => (nomatch h), fun transfer rt ht hrt => ?_,
    fun _ => rfl⟩
  unfold SchedulerConnector.new at hrt
  dsimp only at hrt
  rw [ht] at hrt
  cases hrt
  exact kept_initial sha256 transfer

/-- The call keeps the agreement, and raises no error of an observation. -/
def Steady {α : Type} (c : HookCall α) : Prop :=
  ∀ s, Agreeing sha256 config s → Agreeing sha256 config (c s).2 ∧
    ∀ text, (c s).1 ≠ .error (.observation text)

variable {sha256 config}

theorem steady_lift {α : Type} {x : Except ConnectorError α}
    (hx : ∀ text, x ≠ .error (.observation text)) :
    Steady sha256 config (Call.lift x : HookCall α) :=
  fun _ h => ⟨h, hx⟩

theorem steady_bind {α β : Type} {c : HookCall α} {f : α → HookCall β}
    (hc : Steady sha256 config c) (hf : ∀ a, Steady sha256 config (f a)) :
    Steady sha256 config (c >>= f) := by
  intro s hs
  obtain ⟨hk, he⟩ := hc s hs
  rw [Call.bind_run]
  rcases h : c s with ⟨e | a, s'⟩
  · rw [h] at hk he
    exact ⟨hk, fun text ht => he text (congrArg Except.error (Except.error.inj ht))⟩
  · rw [h] at hk
    exact hf a s' hk

theorem steady_read {α : Type} {f : SchedulerConnector → HookCall α}
    (hf : ∀ s, Steady sha256 config (f s)) : Steady sha256 config (Call.read >>= f) :=
  fun s hs => hf s s hs

theorem steady_check (p : Prop) [Decidable p] (text : String) :
    Steady sha256 config (check p text) := by
  apply steady_lift
  intro text' h
  unfold require at h
  split_ifs at h
  cases h

theorem steady_modify {f : SchedulerConnector → SchedulerConnector}
    (hf : ∀ s, Agreeing sha256 config s → Agreeing sha256 config (f s)) :
    Steady sha256 config (Call.modify f : HookCall PUnit) :=
  fun s hs => ⟨hf s hs, fun _ h => (nomatch h)⟩

theorem steady_onPlane {α : Type} {c : PlaneCall α}
    (hc : ∀ s, Agreeing sha256 config s →
      Call.Keeps (PlansAre (Expected config s.schedulerLookupMetadata)) c) :
    Steady sha256 config (onPlane c) := by
  intro s hs
  have hk := hc s hs s.controlPlane hs.plans
  unfold onPlane Call.within
  rcases h : c s.controlPlane with ⟨e | a, p⟩
  · rw [h] at hk
    exact ⟨⟨hk, hs.observations, hs.runtime, hs.idle⟩, fun _ h => (nomatch h)⟩
  · rw [h] at hk
    exact ⟨⟨hk, hs.observations, hs.runtime, hs.idle⟩, fun _ h => (nomatch h)⟩

theorem steady_pure {α : Type} (a : α) : Steady sha256 config (pure a : HookCall α) :=
  fun _ hs => ⟨hs, fun _ h => (nomatch h)⟩

theorem steady_mapError {α ε : Type} {x : Except ε α} {f : ε → ConnectorError}
    (hf : ∀ e text, f e ≠ .observation text) :
    Steady sha256 config (Call.lift (x.mapError f) : HookCall α) := by
  apply steady_lift
  intro text h
  cases x with
  | ok a => cases h
  | error e => exact hf e text (Except.error.inj h)

theorem steady_notePreemptions (requestId : String) (preemptions : ℕ) :
    Steady sha256 config (notePreemptions requestId preemptions) := by
  apply steady_read
  intro s
  cases s.requestPreemptions.get? requestId with
  | none => exact steady_pure ()
  | some previous =>
    refine steady_bind (steady_check _ _) fun _ => ?_
    split_ifs
    · exact steady_bind (steady_onPlane fun _ _ => keeps_preempt requestId) fun _ =>
        steady_pure ()
    · exact steady_pure ()

theorem steady_lift_bind {α β : Type} {x : Except ConnectorError α} {f : α → HookCall β}
    (hx : ∀ text, x ≠ .error (.observation text))
    (hf : ∀ a, x = .ok a → Steady sha256 config (f a)) :
    Steady sha256 config (Call.lift x >>= f) := by
  cases x with
  | error e =>
    exact fun s hs => ⟨hs, fun text h => hx text (congrArg Except.error (Except.error.inj h))⟩
  | ok a => exact hf a rfl

theorem retain_agreeing {s : SchedulerConnector} {requestId : String} {p : RequestControlPlane}
    {md : SchedulerLookupMetadata} {transfer : RuntimeConfig}
    (ht : config.transfer = some transfer) (hs : Agreeing sha256 config s) (ho : Observed md)
    (hp : PlansAre (Expected config (s.schedulerLookupMetadata.set requestId md)) p) :
    Agreeing sha256 config { s with
      controlPlane := p
      schedulerLookupMetadata := s.schedulerLookupMetadata.set requestId md
      schedulerLookupObservations := s.schedulerLookupObservations.set requestId
        (observationOf md.promptTokenIds.length md) } := by
  refine ⟨hp, fun id o hg => ?_, hs.runtime, fun hn => nomatch ht.symm.trans hn⟩
  dsimp only at hg ⊢
  rw [Dict.get?_set] at hg ⊢
  split_ifs at hg ⊢
  · cases hg
    exact ⟨md, rfl, ho, rfl⟩
  · exact hs.observations id o hg

theorem runtimeLookup_cases {transfer : RuntimeConfig} (env : Environment)
    (request : SchedulerLookupRequest) {s : SchedulerConnector}
    (ht : config.transfer = some transfer) (hs : Agreeing sha256 config s) :
    (∃ e s', runtimeLookup sha256 transfer env request s = (.error e, s') ∧
      Agreeing sha256 config s' ∧ ∀ text, e ≠ .observation text) ∨
    ∃ md s', runtimeLookup sha256 transfer env request s = (.ok md, s') ∧
      Agreeing sha256 config s' ∧ Answer request md := by
  unfold runtimeLookup
  cases hrt : s.runtime with
  | none => exact Or.inl ⟨_, s, rfl, hs, fun _ => ConnectorError.noConfusion⟩
  | some rt =>
    obtain ⟨md, rt', hl, hk, hanswer⟩ :=
      lookup_kept sha256 transfer env request (hs.runtime transfer rt ht hrt)
    have hs' : Agreeing sha256 config { s with runtime := some rt' } := by
      refine ⟨hs.plans, hs.observations, fun transfer' rt'' ht' he => ?_, hs.idle⟩
      rw [ht] at ht'
      cases ht'
      cases he
      exact hk
    dsimp only
    rw [hl]
    by_cases hf : md.status.isFatal = true
    · exact Or.inl ⟨_, _, if_pos hf, hs', fun _ => ConnectorError.noConfusion⟩
    · exact Or.inr ⟨md, _, if_neg hf, hs', hanswer (Bool.eq_false_iff.mpr hf)⟩

theorem answer_retained {request : SchedulerLookupRequest} {md : SchedulerLookupMetadata}
    {transfer : RuntimeConfig} (ht : config.transfer = some transfer)
    (ha : Answer request md) : Steady sha256 config (do
      let _ ← onPlane (RequestControlPlane.lookup md.requestPlan.requestId
        md.requestPlan.promptTokens md.requestPlan.querySegments md.requestPlan.matchPlan)
      Call.modify fun s => { s with
        schedulerLookupMetadata := s.schedulerLookupMetadata.set request.requestId md }
      recordObservation request.requestId request.promptTokenIds.length md) := by
  intro s hs
  have hown : Expected config (s.schedulerLookupMetadata.set request.requestId md)
      md.requestPlan.requestId md.requestPlan := by
    refine ⟨rfl, fun md' hg => ?_, fun hn => ?_⟩
    · rw [ha.plan_id, Dict.get?_set_self] at hg
      cases hg
      rfl
    · rw [ht] at hn
      cases hn
  have hothers : ∀ id other, id ≠ md.requestPlan.requestId →
      Expected config s.schedulerLookupMetadata id other →
      Expected config (s.schedulerLookupMetadata.set request.requestId md) id other := by
    intro id other hne he
    refine ⟨he.1, fun md' hg => he.2.1 md' ?_, he.2.2⟩
    rwa [Dict.get?_set_ne _ _ (by rwa [ha.plan_id] at hne)] at hg
  obtain ⟨e, hc⟩ | ⟨st, p, hc, hp⟩ := lookup_plans md.requestPlan hs.plans hown hothers
  · have hplane : onPlane (RequestControlPlane.lookup md.requestPlan.requestId
        md.requestPlan.promptTokens md.requestPlan.querySegments md.requestPlan.matchPlan) s =
        (.error (.controlPlane e), s) := by
      unfold onPlane Call.within
      rw [hc]
    rw [Call.bind_run_error _ hplane]
    exact ⟨hs, fun _ h => (nomatch h)⟩
  · have hplane : onPlane (RequestControlPlane.lookup md.requestPlan.requestId
        md.requestPlan.promptTokens md.requestPlan.querySegments md.requestPlan.matchPlan) s =
        (.ok st, { s with controlPlane := p }) := Call.within_run_ok hc
    rw [Call.bind_run_ok _ hplane, Call.modify_bind]
    have hrecord : require (observationOf request.promptTokenIds.length md).Valid
        (ConnectorError.observation "invalid CacheBlend lookup observation") = .ok ⟨⟩ := by
      rw [← ha.prompt]
      exact require_of _ (observation_valid ha.observed)
    unfold recordObservation
    rw [hrecord]
    have hfinal := retain_agreeing ht hs ha.observed hp
    rw [ha.prompt] at hfinal
    exact ⟨hfinal, fun _ h => (nomatch h)⟩

theorem steady_transferLookup {transfer : RuntimeConfig} (env : Environment)
    (request : VllmAdapters.VllmRequest) (prompt : List TokenId)
    (preemptions numComputedTokens : ℕ) (ht : config.transfer = some transfer) :
    Steady sha256 config (transferLookup sha256 transfer env request prompt preemptions
      numComputedTokens) := by
  apply steady_read
  intro s
  refine steady_bind (steady_check _ _) fun _ => ?_
  refine steady_lift_bind (fun text h => ?_) fun external _ => ?_
  · unfold requestExternalTokens at h
    split_ifs at h
    cases h
  refine steady_lift_bind (fun text h => ?_) fun r hr => ?_
  · cases hn : SchedulerLookupRequest.new request.requestId prompt 1 0 numComputedTokens external
      preemptions with
    | error e =>
      rw [hn] at h
      cases h
    | ok r =>
      rw [hn] at h
      cases h
  · obtain ⟨hid, hprompt, _⟩ :=
      ConnectorRecords.request_new_fields ((mapError_ok_iff _ _ _).mp hr)
    intro s hs
    obtain ⟨e, s', hc, hs', he⟩ | ⟨md, s', hc, hs', ha⟩ := runtimeLookup_cases env r ht hs
    · rw [Call.bind_run_error _ hc]
      exact ⟨hs', fun text h => he text (Except.error.inj h)⟩
    · rw [Call.bind_run_ok _ hc, ← hid, ← hprompt]
      exact answer_retained ht ha s' hs'

theorem steady_lookup (env : Environment) (request : VllmAdapters.VllmRequest)
    (numComputedTokens : ℕ) :
    Steady sha256 config (getNumNewMatchedTokens sha256 config env request numComputedTokens) := by
  unfold getNumNewMatchedTokens
  refine steady_bind (steady_mapError fun _ _ => ConnectorError.noConfusion) fun prompt => ?_
  refine steady_bind (steady_check _ _) fun _ => ?_
  refine steady_bind (steady_notePreemptions _ _) fun _ => ?_
  refine steady_bind (steady_modify fun s hs => ⟨hs.plans, hs.observations, hs.runtime, hs.idle⟩)
    fun _ => ?_
  refine steady_bind ?_ fun _ => ?_
  · unfold lookupRequest
    split
    · next transfer ht => exact steady_transferLookup env request prompt _ _ ht
    · next ht =>
      refine steady_bind (steady_onPlane fun s hs => keeps_lookup fun plan hplan => ?_)
        fun _ => steady_pure ()
      refine ⟨requestPlan_new_id hplan, fun md hg => ?_, fun _ => ?_⟩
      · rw [hs.idle ht] at hg
        cases hg
      · rw [requestPlan_new_matches hplan]
  · exact steady_bind (steady_modify fun s hs => ⟨hs.plans, hs.observations, hs.runtime, hs.idle⟩)
      fun _ => steady_pure _

theorem steady_allocate (requestId : String) (blocks : VllmAdapters.KVCacheBlocks)
    (numExternalTokens : ℤ) :
    Steady sha256 config (updateStateAfterAlloc config requestId blocks numExternalTokens) := by
  unfold updateStateAfterAlloc
  refine steady_bind (steady_check _ _) fun _ => ?_
  refine steady_bind (steady_mapError fun _ _ => ConnectorError.noConfusion) fun adapted => ?_
  apply steady_read
  intro s
  refine steady_bind (steady_check _ _) fun _ => ?_
  refine steady_bind (steady_onPlane fun _ _ => keeps_allocate _ _ _) fun _ => ?_
  exact steady_bind (steady_modify fun s hs => ⟨hs.plans, hs.observations, hs.runtime, hs.idle⟩)
    fun _ => steady_pure _

theorem steady_handoffAll (ids : List String) : Steady sha256 config (handoffAll ids) := by
  induction ids with
  | nil => exact steady_pure []
  | cons id ids ih =>
    refine steady_bind (steady_onPlane fun s _ p hp => (handoff_plans id hp).1) fun _ => ?_
    exact steady_bind ih fun _ => steady_pure _

theorem keeps_build (scheduled : Dict String ℤ) :
    Call.Keeps (Agreeing sha256 config) (buildConnectorMeta sha256 config scheduled) := by
  intro s hs
  show Agreeing sha256 config ((handoffAll s.pendingHandoffIds >>= _) s).2
  refine Call.keeps_bind (fun s hs => (steady_handoffAll _ s hs).1) (fun handoffs s hs => ?_) s hs
  show Agreeing sha256 config ((Call.lift _ >>= _) s).2
  refine Call.keeps_bind (Call.keeps_lift _ _) (fun contents s hs => ?_) s hs
  exact ⟨hs.plans, hs.observations, hs.runtime, hs.idle⟩

theorem steady_applyReceipts (receipts : List WorkerValidationReceipt) :
    Steady sha256 config (applyReceipts receipts) := by
  induction receipts with
  | nil => exact steady_pure ()
  | cons receipt receipts ih =>
    refine steady_bind ?_ fun _ => ih
    refine steady_bind (steady_onPlane fun _ _ => keeps_applyWorkerValidation receipt)
      fun _ => ?_
    apply steady_read
    intro s
    split_ifs
    · refine steady_bind (steady_onPlane fun _ _ => keeps_discard _) fun _ => ?_
      exact steady_bind (steady_modify fun s hs =>
        ⟨hs.plans, hs.observations, hs.runtime, hs.idle⟩) fun _ => steady_pure _
    · exact steady_pure ()

theorem discardLookup_agreeing (requestId : String) {s : SchedulerConnector}
    (hs : Agreeing sha256 config s) : Agreeing sha256 config (discardLookup requestId s) := by
  refine ⟨fun id st hg => ?_, fun id o hg => ?_, fun transfer rt ht hrt => ?_, fun hn => ?_⟩
  · obtain ⟨hid, hplan, hempty⟩ := hs.plans id st hg
    refine ⟨hid, fun md hmd => hplan md ?_, hempty⟩
    change (s.schedulerLookupMetadata.erase requestId).get? id = some md at hmd
    rw [Dict.get?_erase] at hmd
    split_ifs at hmd
    exact hmd
  · change (s.schedulerLookupObservations.erase requestId).get? id = some o at hg
    rw [Dict.get?_erase] at hg
    split_ifs at hg with hne
    obtain ⟨md, hmd, ho⟩ := hs.observations id o hg
    refine ⟨md, ?_, ho⟩
    show (s.schedulerLookupMetadata.erase requestId).get? id = some md
    rw [Dict.get?_erase, if_neg hne]
    exact hmd
  · obtain ⟨rt₀, hrt₀, rfl⟩ := Option.map_eq_some_iff.mp hrt
    exact discard_kept sha256 transfer requestId (hs.runtime transfer rt₀ ht hrt₀)
  · show s.schedulerLookupMetadata.erase requestId = Dict.empty
    rw [hs.idle hn]
    rfl

theorem settle_agreeing (requestId : String) (state : RequestLifecycleState)
    {s : SchedulerConnector} (hs : Agreeing sha256 config s) :
    Agreeing sha256 config (settle config requestId state s) := by
  unfold settle
  split_ifs
  · exact ⟨hs.plans, hs.observations, hs.runtime, hs.idle⟩
  · exact ⟨keeps_discard requestId _ hs.plans, hs.observations, hs.runtime, hs.idle⟩

theorem steady_finish (requestId : String) (blockIds : List (List ℤ)) :
    Steady sha256 config (requestFinishedAllGroups config requestId blockIds) := by
  unfold requestFinishedAllGroups
  refine steady_bind (steady_check _ _) fun _ => ?_
  refine steady_bind (steady_onPlane fun s _ p hp => ?_) fun state => ?_
  · show PlansAre _ (RequestControlPlane.requireState requestId p).2
    unfold RequestControlPlane.requireState
    split <;> exact hp
  refine steady_bind (steady_check _ _) fun _ => ?_
  refine steady_bind (steady_modify fun s hs => ?_) fun _ => steady_pure _
  obtain ⟨hplans, hobservations, hruntime, hidle⟩ :=
    settle_agreeing requestId state (discardLookup_agreeing requestId hs)
  exact ⟨hplans, hobservations, hruntime, hidle⟩

end

end CacheBlend.LookupObservations
