import CacheBlend.ControlPlane
import CacheBlend.LookupPlans
import CacheBlend.SchedulerRuntime
import CacheBlend.TransferRuntime

/-!
# What a runtime lookup retains

A lookup that is not fatal retains its answer under the request, and leaves
every other request alone. The verified candidates of the answer pass the
checks of the transfer metadata, whatever the sidecar answered. A repeated
lookup and a lookup after preemption return the retained answer.
-/

set_option autoImplicit false

namespace CacheBlend.RuntimeLookups
open CacheBlend.PlannerModels CacheBlend.SegmentFingerprints CacheBlend.LmcacheTypes
open CacheBlend.CandidateLookup CacheBlend.CandidateVerdicts CacheBlend.LookupPlans
open CacheBlend.RequestLifecycle CacheBlend.SchedulerRuntime CacheBlend.TransferRuntime

/-! ## The candidates of a plan, for any record lookup -/

section
variable (sha256 : Bytes → Digest) (prompt : List TokenId) (cacheNamespace : CacheNamespace)

/-- The kept candidate agrees with the prompt and with the record it is bound to. -/
structure Kept (v : VerifiedLmcacheCandidate) : Prop where
  in_bounds : v.candidate.targetRange.stop ≤ prompt.length
  digest : v.candidate.queryDigest = queryDigest sha256 prompt
  segment : v.verified.targetSegment = targetSegment prompt v.candidate in_bounds
  agrees : Agrees sha256 cacheNamespace v.candidate v.verified.targetSegment v.verified.record

theorem considerCandidate_kept {lookup : RecordLookup} {rawIndex : ℕ} {c : LmcacheCandidate}
    {st st' : LookupState}
    (h : considerCandidate sha256 lookup prompt cacheNamespace rawIndex c st = .ok st') :
    ∀ p ∈ st'.potentials, p ∈ st.potentials ∨
      p.candidate = c ∧ Kept sha256 prompt cacheNamespace p.verified := by
  unfold considerCandidate at h
  by_cases hin : c.targetRange.stop ≤ prompt.length
  swap
  · rw [dif_neg hin] at h
    cases h
  rw [dif_pos hin] at h
  by_cases hq : c.queryDigest = queryDigest sha256 prompt
  swap
  · rw [if_pos hq] at h
    cases h
    exact fun p hp => Or.inl hp
  rw [if_neg (not_not.mpr hq)] at h
  obtain ⟨⟨bucket, cache⟩, _, h⟩ := (checked_ok_iff _ _ _).mp h
  obtain ⟨verdict, hj, h⟩ := (checked_ok_iff _ _ _).mp h
  cases h
  obtain ⟨v, hjv, _, hc, hseg, _, _, hag⟩ | ⟨reason, found, hjr, _⟩ :=
    judge_cases sha256 cacheNamespace c (targetSegment prompt c hin) rfl bucket
  · rw [hjv] at hj
    cases hj
    intro p hp
    obtain hp | hp := List.mem_append.mp hp
    · exact Or.inl hp
    · rw [List.mem_singleton.mp hp]
      subst hc
      exact Or.inr ⟨rfl, hin, hq, hseg, by rw [hseg]; exact hag⟩
  · rw [hjr] at hj
    cases hj
    exact fun p hp => Or.inl hp

theorem considerAll_kept {lookup : RecordLookup} (cs : List LmcacheCandidate) {rawIndex : ℕ}
    {st st' : LookupState}
    (h : considerAll sha256 lookup prompt cacheNamespace rawIndex cs st = .ok st') :
    ∀ p ∈ st'.potentials, p ∈ st.potentials ∨
      p.candidate ∈ cs ∧ Kept sha256 prompt cacheNamespace p.verified := by
  induction cs generalizing rawIndex st with
  | nil =>
    cases h
    exact fun p hp => Or.inl hp
  | cons c cs ih =>
    obtain ⟨st₁, h₁, h₂⟩ := (checked_ok_iff _ _ _).mp h
    intro p hp
    obtain hp | ⟨hm, hk⟩ := ih h₂ p hp
    · obtain hp | ⟨rfl, hk⟩ := considerCandidate_kept sha256 prompt cacheNamespace h₁ p hp
      · exact Or.inl hp
      · exact Or.inr ⟨List.mem_cons_self, hk⟩
    · exact Or.inr ⟨List.mem_cons_of_mem _ hm, hk⟩

theorem concludePlan_verified {candidates : List LmcacheCandidate} {st : LookupState}
    {p : LmcacheLookupPlan} (h : concludePlan candidates st = .ok p) :
    p.verifiedCandidates =
      sortVerified ((selectedPotentials st.potentials).map PotentialCandidate.verified) := by
  unfold concludePlan at h
  dsimp only at h
  split_ifs at h
  cases h
  rfl

theorem checkCandidates_of_kept (previousEnd : ℕ) (vs : List VerifiedLmcacheCandidate)
    (hk : ∀ v ∈ vs, v.candidate.targetRange.size = lmcacheChunkSize ∧
      Kept sha256 prompt cacheNamespace v)
    (hs : ∀ v ∈ vs, previousEnd ≤ v.candidate.targetRange.start)
    (ho : vs.Pairwise fun v w => v.candidate.targetRange.stop ≤ w.candidate.targetRange.start) :
    checkCandidates sha256 cacheNamespace prompt previousEnd vs = .ok () := by
  induction vs generalizing previousEnd with
  | nil => rfl
  | cons v vs ih =>
    obtain ⟨hsize, hv⟩ := hk v List.mem_cons_self
    obtain ⟨hnext, ho⟩ := List.pairwise_cons.mp ho
    have hrange : v.verified.targetSegment.tokenRange = v.candidate.targetRange := by
      rw [hv.segment]
      rfl
    have htokens : v.verified.targetSegment.tokenIds =
        (prompt.take v.candidate.targetRange.stop).drop v.candidate.targetRange.start := by
      rw [hv.segment]
      rfl
    obtain ⟨hkey, hname, hfp, hids⟩ := hv.agrees
    unfold checkCandidates
    refine (require_then_iff _ _ _ _).mpr ⟨hsize, (require_then_iff _ _ _ _).mpr
      ⟨hv.in_bounds, (require_then_iff _ _ _ _).mpr ⟨hs v List.mem_cons_self,
        (require_then_iff _ _ _ _).mpr ⟨hv.digest, (require_then_iff _ _ _ _).mpr
          ⟨hname, (require_then_iff _ _ _ _).mpr ⟨⟨hrange.symm, hkey.symm, htokens, hids, ?_⟩,
            ?_⟩⟩⟩⟩⟩⟩
    · rw [hfp, hids]
    · exact ih _ (fun w hw => hk w (List.mem_cons_of_mem _ hw)) hnext ho

theorem plan_candidates_agree {lookup : RecordLookup} {candidates : List LmcacheCandidate}
    {p : LmcacheLookupPlan}
    (hc : ∀ c ∈ candidates, c.targetRange.size = lmcacheChunkSize)
    (h : plan sha256 lookup (prompt.map (fun t => (t.val : ℤ))) cacheNamespace candidates =
      .ok p) :
    checkCandidates sha256 cacheNamespace prompt 0 p.verifiedCandidates = .ok () := by
  unfold plan at h
  rw [normalizeTokenIds_val] at h
  obtain ⟨st, hst, h⟩ := (checked_ok_iff _ _ _).mp h
  have hs := selection st.potentials
  have hkept := considerAll_kept sha256 prompt cacheNamespace candidates hst
  have hp := concludePlan_verified h
  have hperm : p.verifiedCandidates.Perm
      ((selectedPotentials st.potentials).map PotentialCandidate.verified) := by
    rw [hp]
    exact sortVerified_perm _
  have hall : ∀ v ∈ p.verifiedCandidates,
      v.candidate.targetRange.size = lmcacheChunkSize ∧ Kept sha256 prompt cacheNamespace v := by
    intro v hv
    obtain ⟨q, hq, rfl⟩ := List.mem_map.mp (hperm.mem_iff.mp hv)
    obtain hq | ⟨hm, hk⟩ := hkept q (hs.sublist.subset hq)
    · cases hq
    · exact ⟨hc _ hm, hk⟩
  have hapart : p.verifiedCandidates.Pairwise
      fun v w => ¬v.candidate.targetRange.Overlaps w.candidate.targetRange := by
    refine (hperm.pairwise_iff fun h ho => h ⟨ho.2, ho.1⟩).mpr (List.pairwise_map.mpr ?_)
    exact List.pairwise_map.mp hs.apart
  have hsorted : p.verifiedCandidates.Pairwise
      fun v w => v.candidate.targetRange.start ≤ w.candidate.targetRange.start := by
    rw [hp]
    unfold sortVerified
    refine (sortedBy_pairwise _ _).imp fun {v w} hle => ?_
    obtain hlt | ⟨he, _⟩ := Prod.Lex.toLex_le_toLex.mp hle
    · obtain hlt | ⟨he, _⟩ := Prod.Lex.toLex_lt_toLex.mp hlt
      · exact le_of_lt hlt
      · exact le_of_eq he
    · exact le_of_eq (congrArg (fun k => (ofLex k).1) he)
  refine checkCandidates_of_kept sha256 prompt cacheNamespace 0 _ hall
    (fun _ _ => Nat.zero_le _) ?_
  refine (hsorted.and hapart).imp fun {v w} hvw => ?_
  obtain ⟨hle, hd⟩ := hvw
  have hw := w.candidate.target_nonempty
  unfold TokenRange.size at hw
  by_contra hlt
  exact hd ⟨by omega, by omega⟩

end

/-! ## The answer retained for a request -/

theorem metadata_new_fields {fields : MetadataFields} {md : SchedulerLookupMetadata}
    (h : SchedulerLookupMetadata.new fields = .ok md) : md.toMetadataFields = fields := by
  unfold SchedulerLookupMetadata.new at h
  split at h
  · cases h
  · cases h
    rfl

theorem metadata_new_of_valid {fields : MetadataFields} (h : checkMetadata fields = .ok ()) :
    SchedulerLookupMetadata.new fields = .ok ⟨fields, h⟩ := by
  unfold SchedulerLookupMetadata.new
  split
  · next code he =>
    rw [h] at he
    cases he
  · rfl

theorem metadata_plan (md : SchedulerLookupMetadata) :
    md.promptTokenIds ≠ [] ∧ md.requestPlan.promptTokens = md.promptTokenIds.length ∧
      md.requestPlan.matchPlan.verifiedMatches =
        md.verifiedCandidates.map VerifiedLmcacheCandidate.verified ∧
      (md.shouldTransfer = true → md.verifiedCandidates ≠ []) := by
  have h := md.valid
  unfold checkMetadata at h
  obtain ⟨_, h⟩ := (require_then_iff _ _ _ _).mp h
  obtain ⟨⟨hne, hplan⟩, h⟩ := (require_then_iff _ _ _ _).mp h
  obtain ⟨_, h⟩ := (require_then_iff _ _ _ _).mp h
  obtain ⟨_, h⟩ := (require_then_iff _ _ _ _).mp h
  obtain ⟨_, h⟩ := (require_then_iff _ _ _ _).mp h
  obtain ⟨_, h⟩ := (require_then_iff _ _ _ _).mp h
  obtain ⟨hmatches, h⟩ := (require_then_iff _ _ _ _).mp h
  refine ⟨hne, hplan, hmatches, fun ht => ?_⟩
  have hready : md.status = .transferReady := of_decide_eq_true ht
  rw [if_pos hready] at h
  exact ((require_ok_iff _ _ _).mp h).1

theorem metadata_recounted (md : SchedulerLookupMetadata) (preemptions generation : ℕ) :
    checkMetadata { md.toMetadataFields with
      preemptionCount := preemptions, allocationGeneration := generation } = .ok () :=
  md.valid

theorem plan_new_self (p : RequestPlan) :
    RequestPlan.new p.requestId p.promptTokens p.querySegments p.matchPlan = .ok p := by
  have hv : checkRequestPlan p.requestId p.promptTokens (sortedBy segmentSortKey p.querySegments)
      p.matchPlan = .ok () := by
    rw [p.sorted]
    exact p.valid
  unfold RequestPlan.new
  split
  · next code he =>
    rw [hv] at he
    cases he
  · obtain ⟨id, tokens, segments, matchPlan, hs, _⟩ := p
    simp only [Except.ok.injEq, RequestPlan.mk.injEq, true_and, and_true]
    exact hs

section
variable (sha256 : Bytes → Digest) (config : RuntimeConfig)

/-- The metadata answers the request with candidates fit for a transfer. -/
structure Answers (request : SchedulerLookupRequest) (md : SchedulerLookupMetadata) : Prop where
  plan_id : md.requestPlan.requestId = request.requestId
  prompt : md.promptTokenIds = request.promptTokenIds
  nonfatal : md.status.isFatal = false
  candidates : checkCandidates sha256 config.cacheNamespace request.promptTokenIds 0
    md.verifiedCandidates = .ok ()

/-- The runtime is usable and every retained answer belongs to its request. -/
structure Sound (rt : SchedulerLookupRuntime) : Prop where
  alive : rt.state ≠ .fatal ∧ rt.state ≠ .closed
  retained : ∀ id stored, rt.requests.get? id = some stored →
    stored.request.requestId = id ∧ Answers sha256 config stored.request stored.metadata

theorem sound_initial : Sound sha256 config SchedulerLookupRuntime.initial where
  alive := ⟨by decide, by decide⟩
  retained _ _ h := nomatch h

theorem requestPlanOf_id {request : SchedulerLookupRequest} {p : LmcacheLookupPlan}
    {plan : RequestPlan} (h : requestPlanOf request p = .ok plan) :
    plan.requestId = request.requestId := by
  unfold requestPlanOf at h
  dsimp only at h
  rw [mapError_ok_iff] at h
  exact ControlPlane.requestPlan_new_id h

theorem buildMetadata_answers {request : SchedulerLookupRequest} {status : SchedulerLookupStatus}
    {p : LmcacheLookupPlan} {windows : List TokenRange} {generation : ℕ}
    {md : SchedulerLookupMetadata}
    (h : SchedulerLookupRuntime.buildMetadata request status p windows generation = .ok md) :
    md.requestPlan.requestId = request.requestId ∧
      md.promptTokenIds = request.promptTokenIds ∧ md.status = status ∧
      md.verifiedCandidates = p.verifiedCandidates ∧ md.allocationGeneration = generation := by
  unfold SchedulerLookupRuntime.buildMetadata at h
  obtain ⟨plan, hp, h⟩ := (checked_ok_iff _ _ _).mp h
  have hf := metadata_new_fields h
  unfold SchedulerLookupMetadata.verifiedCandidates
  rw [hf]
  exact ⟨requestPlanOf_id hp, rfl, rfl, rfl, rfl⟩

theorem readyTransport_cases {env : Environment} {rt rt' : SchedulerLookupRuntime}
    {state : SchedulerRuntimeState} (ha : rt.state ≠ .fatal ∧ rt.state ≠ .closed)
    (h : SchedulerLookupRuntime.readyTransport env rt = (.ok state, rt')) :
    (state ≠ .fatal ∧ (rt'.state ≠ .fatal ∧ rt'.state ≠ .closed) ∧
      rt'.requests = rt.requests) ∨
    (state = .fatal ∧ (rt'.fatalStatus.getD .fatalProtocolDrift).isFatal = true) := by
  unfold SchedulerLookupRuntime.readyTransport at h
  rw [Call.read_bind] at h
  obtain ⟨st, fatalStatus, requests, needsClose⟩ := rt
  cases st with
  | created =>
    dsimp only [SchedulerLookupRuntime.openTransport] at h
    split at h <;> cases h
    · exact Or.inl ⟨by simp, ⟨by simp, by simp⟩, rfl⟩
    · exact Or.inl ⟨by simp, ⟨by simp, by simp⟩, rfl⟩
    · exact Or.inr ⟨rfl, rfl⟩
  | ready =>
    cases h
    exact Or.inl ⟨by simp, ⟨by simp, by simp⟩, rfl⟩
  | degraded =>
    dsimp only [SchedulerLookupRuntime.retryDegradedTransportOnce] at h
    split_ifs at h
    · cases h
      exact Or.inr ⟨rfl, rfl⟩
    · unfold SchedulerLookupRuntime.replaceTransport at h
      split at h
      · cases h
        exact Or.inl ⟨by simp, ⟨by simp, by simp⟩, rfl⟩
      · cases h
        exact Or.inr ⟨rfl, rfl⟩
      · cases h
        exact Or.inr ⟨rfl, rfl⟩
      · next closes _ =>
        cases h
        exact Or.inr ⟨rfl, by cases closes <;> rfl⟩
      · dsimp only [SchedulerLookupRuntime.openTransport] at h
        split at h <;> cases h
        · exact Or.inl ⟨by simp, ⟨by simp, by simp⟩, rfl⟩
        · exact Or.inl ⟨by simp, ⟨by simp, by simp⟩, rfl⟩
        · exact Or.inr ⟨rfl, rfl⟩
  | fatal => exact absurd rfl ha.1
  | closed => exact absurd rfl ha.2

theorem mark_nonfatal {rt : SchedulerLookupRuntime} {status : SchedulerLookupStatus}
    (h : status.isFatal = false) : rt.mark status = rt := by
  unfold SchedulerLookupRuntime.mark
  rw [h]
  rfl

theorem askCandidates_answer {env : Environment} {request : SchedulerLookupRequest}
    {windows : ℕ} {rt : SchedulerLookupRuntime}
    (ha : rt.state ≠ .fatal ∧ rt.state ≠ .closed)
    (hn : (rt.askCandidates sha256 config env request windows).1.1.isFatal = false) :
    ((rt.askCandidates sha256 config env request windows).2.state ≠ .fatal ∧
      (rt.askCandidates sha256 config env request windows).2.state ≠ .closed) ∧
    (rt.askCandidates sha256 config env request windows).2.requests = rt.requests ∧
    checkCandidates sha256 config.cacheNamespace request.promptTokenIds 0
      (rt.askCandidates sha256 config env request windows).1.2.verifiedCandidates = .ok () := by
  unfold SchedulerLookupRuntime.askCandidates at hn ⊢
  cases hc : env.candidates with
  | error failure =>
    rw [hc] at hn
    cases failure with
    | operation => exact ⟨⟨by simp, by simp⟩, rfl, rfl⟩
    | other => cases hn
  | ok candidates =>
    rw [hc] at hn
    dsimp only at hn ⊢
    rw [mark_nonfatal hn]
    refine ⟨ha, rfl, ?_⟩
    unfold SchedulerLookupRuntime.verifyCandidates
    cases hs : SchedulerLookupRuntime.structuralChecks candidates windows with
    | error status => rfl
    | ok u =>
      dsimp only
      have hsize : ∀ c ∈ candidates, c.targetRange.size = lmcacheChunkSize := by
        unfold SchedulerLookupRuntime.structuralChecks at hs
        exact fun c hm => ((require_then_iff _ _ _ _).mp hs).1 c hm |>.2
      cases hp : plan sha256 env.records (request.promptTokenIds.map (fun t => (t.val : ℤ)))
          config.cacheNamespace candidates with
      | error e =>
        unfold SchedulerLookupRuntime.coordinatorStatus
        dsimp only
        split_ifs <;> rfl
      | ok p =>
        have hagree := plan_candidates_agree sha256 request.promptTokenIds
          config.cacheNamespace hsize hp
        unfold SchedulerLookupRuntime.coordinatorStatus
        dsimp only
        split_ifs <;> exact hagree

theorem finishLookup_status {request : SchedulerLookupRequest} {status : SchedulerLookupStatus}
    {p : LmcacheLookupPlan} {windows : List TokenRange} {rt rt' : SchedulerLookupRuntime}
    {md : SchedulerLookupMetadata}
    (h : SchedulerLookupRuntime.finishLookup request status p windows rt = (.ok md, rt')) :
    md.status = status := by
  unfold SchedulerLookupRuntime.finishLookup at h
  obtain ⟨md', hb, h⟩ := (Call.lift_bind_iff _ _ _ _ _).mp h
  have hmd : md = md' := by
    split_ifs at h
    · exact ((Call.pure_ok_iff _ _ _ _).mp h).1
    · cases h
      rfl
  rw [hmd]
  exact (buildMetadata_answers hb).2.2.1

theorem finishLookup_retains {request : SchedulerLookupRequest} {status : SchedulerLookupStatus}
    {p : LmcacheLookupPlan} {windows : List TokenRange} {rt rt' : SchedulerLookupRuntime}
    {md : SchedulerLookupMetadata} (hn : md.status.isFatal = false)
    (hp : checkCandidates sha256 config.cacheNamespace request.promptTokenIds 0
      p.verifiedCandidates = .ok ())
    (h : SchedulerLookupRuntime.finishLookup request status p windows rt = (.ok md, rt')) :
    rt' = { rt with requests := rt.requests.set request.requestId ⟨request, md⟩ } ∧
      md.allocationGeneration = 0 ∧ Answers sha256 config request md := by
  unfold SchedulerLookupRuntime.finishLookup at h
  obtain ⟨md', hb, h⟩ := (Call.lift_bind_iff _ _ _ _ _).mp h
  obtain ⟨hid, hprompt, hstatus, hcand, hgen⟩ := buildMetadata_answers hb
  split_ifs at h with hf
  · obtain ⟨rfl, rfl⟩ := (Call.pure_ok_iff _ _ _ _).mp h
    rw [hstatus, hf] at hn
    cases hn
  · cases h
    exact ⟨rfl, hgen, hid, hprompt, hn, by rw [hcand]; exact hp⟩

theorem firstLookup_retains {env : Environment} {request : SchedulerLookupRequest}
    {rt rt' : SchedulerLookupRuntime} {md : SchedulerLookupMetadata}
    (ha : rt.state ≠ .fatal ∧ rt.state ≠ .closed) (hn : md.status.isFatal = false)
    (h : SchedulerLookupRuntime.firstLookup sha256 config env request rt = (.ok md, rt')) :
    ∃ rt₁ : SchedulerLookupRuntime, (rt₁.state ≠ .fatal ∧ rt₁.state ≠ .closed) ∧
      rt₁.requests = rt.requests ∧
      rt' = { rt₁ with requests := rt₁.requests.set request.requestId ⟨request, md⟩ } ∧
      md.allocationGeneration = 0 ∧ Answers sha256 config request md := by
  unfold SchedulerLookupRuntime.firstLookup at h
  cases he : SchedulerLookupRuntime.eligibilityStatus config request with
  | some status =>
    rw [he] at h
    dsimp only at h
    rw [Call.modify_bind] at h
    have hstatus := finishLookup_status h
    rw [mark_nonfatal (by rw [← hstatus]; exact hn)] at h
    exact ⟨rt, ha, rfl, finishLookup_retains sha256 config hn rfl h⟩
  | none =>
    rw [he] at h
    dsimp only at h
    obtain ⟨state, rt₁, hr, h⟩ := (Call.bind_ok_iff _ _ _ _ _).mp h
    obtain ⟨hst, ha₁, hreq⟩ | ⟨rfl, hfatal⟩ := readyTransport_cases ha hr
    · split_ifs at h with hd
      · exact ⟨rt₁, ha₁, hreq, finishLookup_retains sha256 config hn rfl h⟩
      · rw [Call.read_bind, Call.modify_bind] at h
        have hstatus := finishLookup_status h
        obtain ⟨ha₂, hreq₂, hcand⟩ := askCandidates_answer sha256 config ha₁
          (by rw [← hstatus]; exact hn)
        exact ⟨_, ha₂, hreq₂.trans hreq, finishLookup_retains sha256 config hn hcand h⟩
    · rw [if_neg (by decide), if_pos rfl, Call.read_bind] at h
      obtain ⟨hb, _⟩ := (Call.lift_ok_iff _ _ _ _).mp h
      rw [(buildMetadata_answers hb).2.2.1, hfatal] at hn
      cases hn

/-- The metadata that a preempted request gets for its next allocation. -/
def Renewed (old md : SchedulerLookupMetadata) (preemptions : ℕ) : Prop :=
  md.toMetadataFields = { old.toMetadataFields with
    preemptionCount := preemptions, allocationGeneration := old.allocationGeneration+1 }

inductive Follows (request : SchedulerLookupRequest) (md : SchedulerLookupMetadata) :
    Option StoredRequest → Prop
  | first : md.allocationGeneration = 0 → Follows request md none
  | repeated : Follows request md (some ⟨request, md⟩)
  | preempted (old : StoredRequest) :
      request = { old.request with preemptionCount := old.request.preemptionCount+1 } →
      Renewed old.metadata md request.preemptionCount → Follows request md (some old)

structure Retains (request : SchedulerLookupRequest) (md : SchedulerLookupMetadata)
    (rt rt' : SchedulerLookupRuntime) : Prop where
  sound : Sound sha256 config rt'
  others : ∀ id, id ≠ request.requestId → rt'.requests.get? id = rt.requests.get? id
  own : rt'.requests.get? request.requestId = some ⟨request, md⟩
  follows : Follows request md (rt.requests.get? request.requestId)

theorem retains_set {request : SchedulerLookupRequest} {md : SchedulerLookupMetadata}
    {rt rt₁ : SchedulerLookupRuntime} (hs : Sound sha256 config rt)
    (ha : rt₁.state ≠ .fatal ∧ rt₁.state ≠ .closed) (hr : rt₁.requests = rt.requests)
    (hm : Answers sha256 config request md)
    (hf : Follows request md (rt.requests.get? request.requestId)) :
    Retains sha256 config request md rt
      { rt₁ with requests := rt₁.requests.set request.requestId ⟨request, md⟩ } where
  sound := by
    refine ⟨ha, fun id stored h => ?_⟩
    dsimp only at h
    rw [hr, Dict.get?_set] at h
    split_ifs at h with hid
    · cases h
      exact ⟨hid.symm, hm⟩
    · exact hs.retained id stored h
  others id hid := by
    dsimp only
    rw [hr, Dict.get?_set_ne _ _ hid]
  own := Dict.get?_set_self _ _ _
  follows := hf

theorem renewed_answers {old : StoredRequest} {request : SchedulerLookupRequest}
    {md : SchedulerLookupMetadata} (ho : Answers sha256 config old.request old.metadata)
    (hr : request = { old.request with preemptionCount := old.request.preemptionCount+1 })
    (hm : Renewed old.metadata md request.preemptionCount) :
    Answers sha256 config request md := by
  obtain ⟨fields, hv⟩ := md
  cases hm
  rw [hr]
  exact ⟨ho.plan_id, ho.prompt, ho.nonfatal, ho.candidates⟩

theorem lookup_retains {env : Environment} {request : SchedulerLookupRequest}
    {rt rt' : SchedulerLookupRuntime} {md : SchedulerLookupMetadata}
    (hs : Sound sha256 config rt) (hn : md.status.isFatal = false)
    (h : SchedulerLookupRuntime.lookup sha256 config env request rt = (.ok md, rt')) :
    Retains sha256 config request md rt rt' := by
  unfold SchedulerLookupRuntime.lookup at h
  rw [Call.read_bind, if_neg hs.alive.2, if_neg hs.alive.1] at h
  cases hg : rt.requests.get? request.requestId with
  | none =>
    rw [hg] at h
    obtain ⟨rt₁, ha, hreq, rfl, hgen, hm⟩ := firstLookup_retains sha256 config hs.alive hn h
    exact retains_set sha256 config hs ha hreq hm (hg ▸ .first hgen)
  | some old =>
    rw [hg] at h
    dsimp only [SchedulerLookupRuntime.repeatOrPreempt] at h
    obtain ⟨hid, ho⟩ := hs.retained _ _ hg
    by_cases he : request = old.request
    · rw [if_pos he] at h
      obtain ⟨rfl, rfl⟩ := (Call.pure_ok_iff _ _ _ _).mp h
      subst he
      exact ⟨hs, fun _ _ => rfl, hg, hg ▸ .repeated⟩
    rw [if_neg he] at h
    by_cases hc : request.preemptionCount ≠ old.request.preemptionCount+1 ∨
        { request with preemptionCount := old.request.preemptionCount } ≠ old.request
    · rw [if_pos hc, Call.modify_bind] at h
      obtain ⟨hb, _⟩ := (Call.lift_ok_iff _ _ _ _).mp h
      rw [(buildMetadata_answers hb).2.2.1] at hn
      cases hn
    · rw [if_neg hc] at h
      obtain ⟨md', hnew, h⟩ := (Call.lift_bind_iff _ _ _ _ _).mp h
      cases h
      obtain ⟨hcount, hrest⟩ := not_or.mp hc
      have hreq : request =
          { old.request with preemptionCount := old.request.preemptionCount+1 } := by
        rw [← not_not.mp hcount, ← not_not.mp hrest]
      have hm : Renewed old.metadata md request.preemptionCount := metadata_new_fields hnew
      exact retains_set sha256 config hs hs.alive rfl
        (renewed_answers sha256 config ho hreq hm) (hg ▸ .preempted old hreq hm)

/-- A repeated lookup, and the lookup after one preemption, are answered from
what is retained, whatever the transport and the sidecar do. -/
theorem lookup_again (env : Environment) (request : SchedulerLookupRequest)
    (old : StoredRequest) {rt : SchedulerLookupRuntime} (hs : Sound sha256 config rt)
    (hg : rt.requests.get? request.requestId = some old)
    (hr : request = old.request ∨
      request = { old.request with preemptionCount := old.request.preemptionCount+1 }) :
    ∃ md rt', SchedulerLookupRuntime.lookup sha256 config env request rt = (.ok md, rt') ∧
      md.status = old.metadata.status ∧ md.requestPlan = old.metadata.requestPlan ∧
      md.queryWindows = old.metadata.queryWindows ∧ md.lookupPlan = old.metadata.lookupPlan := by
  unfold SchedulerLookupRuntime.lookup
  rw [Call.read_bind, if_neg hs.alive.2, if_neg hs.alive.1, hg]
  dsimp only [SchedulerLookupRuntime.repeatOrPreempt]
  obtain rfl | hr := hr
  · rw [if_pos rfl]
    exact ⟨_, _, rfl, rfl, rfl, rfl, rfl⟩
  · have hcount : request.preemptionCount = old.request.preemptionCount+1 := by rw [hr]
    have hne : request ≠ old.request := by
      intro he
      rw [he] at hcount
      omega
    have hrest : { request with preemptionCount := old.request.preemptionCount } =
        old.request := by rw [hr]
    rw [if_neg hne, if_neg (not_or.mpr ⟨not_not.mpr hcount, not_not.mpr hrest⟩),
      metadata_new_of_valid (metadata_recounted old.metadata request.preemptionCount
        (old.metadata.allocationGeneration+1))]
    exact ⟨_, _, rfl, rfl, rfl, rfl, rfl⟩

theorem discard_sound {id : String} {rt : SchedulerLookupRuntime}
    (hs : Sound sha256 config rt) :
    Sound sha256 config (SchedulerLookupRuntime.discard id rt).2 where
  alive := hs.alive
  retained id' stored h := by
    change (rt.requests.erase id).get? id' = some stored at h
    rw [Dict.get?_erase] at h
    split_ifs at h
    exact hs.retained id' stored h

end

/-- A transport with three candidates, of which the sidecar has a record for two. -/
def candidateEnvironment : Environment where
  opened := .ok ()
  closes := true
  replaced := .ok .fresh
  candidates := .ok LookupPlans.zeroCandidates
  records _ _ _ := .ok [LookupPlans.zeroRecord]

end CacheBlend.RuntimeLookups
