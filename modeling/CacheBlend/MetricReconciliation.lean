import CacheBlend.LookupPlans
import CacheBlend.MatchPlanning
import CacheBlend.MetricCounters
import CacheBlend.Runs

/-!
# Reconciliation of planner and metrics

A plan of the match planner is accepted as a request plan. In every run of the
lifecycle the recorded worker receipt disposes of every match of that plan, so
the counters of a validated state can be derived. The loaded tokens are tokens
of disjoint matches and every match is a candidate, so they are at most the
found tokens; the found tokens lie in the queries and the queries in the prompt.
-/

set_option autoImplicit false

namespace CacheBlend.MetricReconciliation
open CacheBlend.PlannerModels CacheBlend.CoveredRanges CacheBlend.RequestLifecycle
open CacheBlend.RequestTransitions CacheBlend.MatchPlanning CacheBlend.MetricCounters

/-! ## Acceptance of a plan -/

theorem checkMatches_ok (queries : List TokenSegment) (found : List VerifiedMatch)
    (ranges : List TokenRange) (previous : Option SegmentSortKey)
    (hv : ∀ m ∈ found, Verified queries m.candidate)
    (hr : ∀ m ∈ found, ∀ r ∈ ranges, ¬m.targetSegment.tokenRange.Overlaps r)
    (hp : ∀ m ∈ found, ∀ key ∈ previous, key < segmentSortKey m.targetSegment)
    (ha : found.Pairwise (fun m m' =>
      ¬m'.targetSegment.tokenRange.Overlaps m.targetSegment.tokenRange))
    (hs : found.Pairwise (fun m m' =>
      segmentSortKey m.targetSegment < segmentSortKey m'.targetSegment)) :
    checkMatches queries ranges previous found = .ok () := by
  induction found generalizing ranges previous with
  | nil => rfl
  | cons m rest ih =>
    obtain ⟨hm, hv⟩ := List.forall_mem_cons.mp hv
    obtain ⟨hmr, hr⟩ := List.forall_mem_cons.mp hr
    obtain ⟨hmp, _⟩ := List.forall_mem_cons.mp hp
    obtain ⟨hma, ha⟩ := List.pairwise_cons.mp ha
    obtain ⟨hms, hs⟩ := List.pairwise_cons.mp hs
    unfold checkMatches
    refine (require_then_iff _ _ _ _).mpr ⟨hm.target, ?_⟩
    refine (require_then_iff _ _ _ _).mpr ⟨hm.tokens, ?_⟩
    refine (require_then_iff _ _ _ _).mpr ⟨hm.fingerprint, ?_⟩
    refine (require_then_iff _ _ _ _).mpr ⟨hmr, ?_⟩
    refine (require_then_iff _ _ _ _).mpr ⟨fun key hk => (hmp key hk).asymm, ?_⟩
    refine ih _ _ hv (fun x hx r hmem => ?_) (fun x hx key hk => ?_) ha hs
    · obtain hmem | hmem := List.mem_append.mp hmem
      · exact hr x hx r hmem
      · exact List.mem_singleton.mp hmem ▸ hma x hx
    · exact Option.mem_some_iff.mp hk ▸ hms x hx

theorem segmentSortKey_lt {s s' : TokenSegment} (hle : s.tokenRange.start ≤ s'.tokenRange.start)
    (ha : ¬s.tokenRange.Overlaps s'.tokenRange) : segmentSortKey s < segmentSortKey s' := by
  have hp := s.size_pos
  have hp' := s'.size_pos
  rw [TokenSegment.size_eq_range] at hp hp'
  unfold TokenRange.size at hp hp'
  unfold TokenRange.Overlaps at ha
  exact Prod.Lex.toLex_lt_toLex.mpr (Or.inl (by omega))

section
variable {queries : List TokenSegment} {p : MatchPlan}

theorem matchedTokens_eq (h : PlanFacts queries p) : p.matchedTokens =
    coveredTokenCount (p.verifiedMatches.map (fun m => m.targetSegment.tokenRange)) := by
  rw [coveredTokenCount_apart h.apart, List.map_map]
  refine congrArg List.sum (List.map_congr_left fun m _ => ?_)
  exact m.targetSegment.size_eq_range

theorem requestPlan_accepted (h : PlanFacts queries p) (requestId : String) (promptTokens : ℕ)
    (hid : requestId ≠ "") (hd : queries.Nodup)
    (hb : ∀ s ∈ queries, s.tokenRange.stop ≤ promptTokens) :
    ∃ plan, RequestPlan.new requestId promptTokens queries p = .ok plan ∧
      plan.promptTokens = promptTokens ∧ plan.matchPlan = p ∧
      plan.querySegments.Perm queries := by
  have hperm := sortedBy_perm segmentSortKey queries
  have hcovered : coveredTokenCount (queries.map TokenSegment.tokenRange) =
      coveredTokenCount ((sortedBy segmentSortKey queries).map TokenSegment.tokenRange) :=
    coveredTokenCount_congr fun r => (hperm.map _).mem_iff.symm
  have hmatched : p.matchedTokens ≤
      coveredTokenCount (queries.map TokenSegment.tokenRange) := by
    rw [matchedTokens_eq h]
    refine coveredTokenCount_mono fun r hr => ?_
    obtain ⟨m, hm, rfl⟩ := List.mem_map.mp hr
    exact List.mem_map_of_mem (h.verified m hm).target
  have hfacts : ∀ m ∈ p.verifiedMatches, Verified (sortedBy segmentSortKey queries) m.candidate :=
    fun m hm => ⟨hperm.mem_iff.mpr (h.verified m hm).target, (h.verified m hm).fingerprint,
      (h.verified m hm).tokens⟩
  have hapart := List.pairwise_map.mp h.apart
  have hcheck : checkRequestPlan requestId promptTokens (sortedBy segmentSortKey queries) p =
      .ok () := by
    refine (require_then_iff _ _ _ _).mpr ⟨hid, ?_⟩
    refine (require_then_iff _ _ _ _).mpr ⟨Int.natCast_nonneg _, ?_⟩
    refine (require_then_iff _ _ _ _).mpr ⟨hperm.nodup_iff.mpr hd, ?_⟩
    refine (require_then_iff _ _ _ _).mpr
      ⟨fun s hs => Int.ofNat_le.mpr (hb s (hperm.mem_iff.mp hs)), ?_⟩
    refine (require_then_iff _ _ _ _).mpr ⟨by rw [h.requested, hcovered], ?_⟩
    refine (require_then_iff _ _ _ _).mpr
      ⟨⟨Nat.zero_le _, by rw [h.requested]; exact Int.ofNat_le.mpr hmatched⟩, ?_⟩
    refine (checked_ok_iff _ _ _).mpr ⟨(), checkMatches_ok _ _ _ _ hfacts
      (fun _ _ r hr => absurd hr List.not_mem_nil) (fun _ _ key hk => nomatch hk)
      (hapart.imp fun ha ho => ha ⟨ho.2, ho.1⟩)
      ((h.sorted.and hapart).imp fun hm => segmentSortKey_lt hm.1 hm.2), ?_⟩
    exact (require_ok_iff _ _ _).mpr fun r hr => hperm.mem_iff.mpr (h.rejected r hr)
  unfold RequestPlan.new
  split
  · next code he =>
    rw [hcheck] at he
    cases he
  · exact ⟨_, rfl, rfl, rfl, hperm⟩

end

/-! ## Runs of the lifecycle -/

inductive LifecycleOperation where
  | allocate (groupLayout : CacheGroupLayout) (blockIdsByGroup : List (List ℤ))
      (externalSchedulerTokens : ℤ)
  | handoff
  | applyWorkerValidation (receipt : WorkerValidationReceipt)
  | preempt
  | finish

def perform (s : RequestLifecycleState) :
    LifecycleOperation → Except ControlPlaneError RequestLifecycleState
  | .allocate groupLayout tables external => s.allocate groupLayout tables external
  | .handoff => s.handoff
  | .applyWorkerValidation receipt => s.applyWorkerValidation receipt
  | .preempt => s.preempt
  | .finish => s.finish

def LifecycleStep (s : RequestLifecycleState) (operation : LifecycleOperation)
    (s' : RequestLifecycleState) : Prop :=
  perform s operation = .ok s'

/-- The first state of a request, in the scheduler or in the worker. -/
def Starts (plan : RequestPlan) (s : RequestLifecycleState) : Prop :=
  RequestLifecycleState.ofPlan plan = .ok s ∨
    ∃ metadata layout, metadata.plan = plan ∧
      RequestLifecycleState.fromHandoff metadata layout = .ok s

/-- The plan of a state and its receipt, if any, for every match of the plan. -/
structure Disposed (plan : RequestPlan) (s : RequestLifecycleState) : Prop where
  kept : s.plan = plan
  complete : ∀ r, s.workerValidation = some r → RequestLifecycleState.Complete plan r

section
variable {plan : RequestPlan} {s s' : RequestLifecycleState}

theorem starts_disposed (h : Starts plan s) : Disposed plan s := by
  obtain h | ⟨metadata, layout, rfl, h⟩ := h
  · have hf := outcome_elim (RequestLifecycleState.ofPlan_outcome plan) h
    exact ⟨congrArg LifecycleFields.plan hf, fun r hr => by rw [hf] at hr; cases hr⟩
  · have hf := outcome_elim (RequestLifecycleState.fromHandoff_outcome metadata layout) h
    exact ⟨congrArg LifecycleFields.plan hf, fun r hr => by rw [hf] at hr; cases hr⟩

theorem disposed_fields (h : Disposed plan s) (hp : s'.plan = s.plan)
    (hw : s'.workerValidation = s.workerValidation ∨ s'.workerValidation = none) :
    Disposed plan s' := by
  refine ⟨hp.trans h.kept, fun r hr => ?_⟩
  obtain hw | hw := hw
  · exact h.complete r (hw.symm.trans hr)
  · rw [hw] at hr
    cases hr

theorem step_disposed {operation : LifecycleOperation} (h : Disposed plan s)
    (hs : LifecycleStep s operation s') : Disposed plan s' := by
  cases operation with
  | allocate layout tables external =>
    obtain ⟨a, _, _, ⟨_, hf⟩ | ⟨_, _, rfl⟩⟩ :=
      outcome_elim (RequestLifecycleState.allocate_outcome s layout tables external) hs
    · exact disposed_fields h (by rw [hf]) (Or.inl (by rw [hf]))
    · exact h
  | handoff =>
    obtain ⟨metadata, _, ⟨_, _, _, hf⟩ | rfl⟩ :=
      outcome_elim (RequestLifecycleState.handoff_outcome s) hs
    · exact disposed_fields h (by rw [hf]) (Or.inl (by rw [hf]))
    · exact h
  | applyWorkerValidation receipt =>
    obtain ⟨_, _, hcomplete, hw, ⟨_, hf⟩ | rfl⟩ :=
      outcome_elim (RequestLifecycleState.applyWorkerValidation_outcome s receipt) hs
    · refine ⟨(congrArg LifecycleFields.plan hf).trans h.kept, fun r hr => ?_⟩
      rw [hw] at hr
      cases hr
      exact h.kept ▸ hcomplete
    · exact h
  | preempt =>
    obtain ⟨_, ⟨_, rfl⟩ | ⟨_, hf⟩⟩ :=
      outcome_elim (RequestLifecycleState.preempt_outcome s) hs
    · exact h
    · exact disposed_fields h (by rw [hf]) (Or.inr (by rw [hf]))
  | finish =>
    obtain ⟨_, rfl⟩ | ⟨_, hf⟩ := outcome_elim (RequestLifecycleState.finish_outcome s) hs
    · exact h
    · exact disposed_fields h (by rw [hf]) (Or.inl (by rw [hf]))

theorem run_disposed {start : RequestLifecycleState} (hstart : Starts plan start)
    (h : Reached LifecycleStep start s) : Disposed plan s :=
  reached_invariant (Disposed plan) (fun _ _ _ hd hs => step_disposed hd hs)
    (starts_disposed hstart) h

end

/-! ## Counters of a validated state -/

theorem receipt_indexes_nodup (r : WorkerValidationReceipt) : r.indexes.Nodup := by
  have hl : r.loadedMatchIndexes.val.Nodup := r.loadedMatchIndexes.property.imp ne_of_lt
  have hr : r.rejectedMatchIndexes.val.Nodup := r.rejectedMatchIndexes.property.imp ne_of_lt
  exact hl.append hr r.disjoint

theorem complete_length {plan : RequestPlan} {r : WorkerValidationReceipt}
    (h : RequestLifecycleState.Complete plan r) :
    r.loadedMatchIndexes.val.length+r.rejectedMatchIndexes.val.length =
      plan.matchPlan.verifiedMatches.length := by
  have hperm : r.indexes.Perm (RequestLifecycleState.expectedIndexes plan) :=
    (List.perm_ext_iff_of_nodup (receipt_indexes_nodup r) List.nodup_range).mpr
      fun index => ⟨h.1 index, h.2 index⟩
  rw [← List.length_append]
  exact hperm.length_eq.trans List.length_range

def picked (found : List VerifiedMatch) (indexes : List ℕ) : List VerifiedMatch :=
  indexes.filterMap (found[·]?)

def pickedTokens (found : List VerifiedMatch) (indexes : List ℕ) : ℕ :=
  ((picked found indexes).map (fun m => m.targetSegment.size)).sum

theorem matchSizes_ok (found : List VerifiedMatch) (indexes : List ℕ)
    (h : ∀ index ∈ indexes, index < found.length) :
    indexes.mapM (matchSize found) =
      .ok ((picked found indexes).map (fun m => m.targetSegment.size)) := by
  induction indexes with
  | nil => rfl
  | cons index indexes ih =>
    obtain ⟨hi, h⟩ := List.forall_mem_cons.mp h
    have hm : found[index]? = some found[index] := List.getElem?_eq_getElem hi
    have hsize : matchSize found index = .ok found[index].targetSegment.size := by
      unfold matchSize
      rw [hm]
    have hpicked : picked found (index::indexes) = found[index]::picked found indexes :=
      List.filterMap_cons_some hm
    rw [List.mapM_cons, hsize, ih h, hpicked]
    rfl

theorem picked_apart {found : List VerifiedMatch} {indexes : List ℕ}
    (hi : indexes.Pairwise (· < ·))
    (ha : (found.map (fun m => m.targetSegment.tokenRange)).Pairwise (fun r r' => ¬r.Overlaps r')) :
    ((picked found indexes).map (fun m => m.targetSegment.tokenRange)).Pairwise
      (fun r r' => ¬r.Overlaps r') := by
  rw [List.pairwise_map] at ha ⊢
  refine List.pairwise_filterMap.mpr (hi.imp fun {i j} hij m hm m' hm' => ?_)
  obtain ⟨hil, rfl⟩ := List.getElem?_eq_some_iff.mp hm
  obtain ⟨hjl, rfl⟩ := List.getElem?_eq_some_iff.mp hm'
  exact List.pairwise_iff_getElem.mp ha i j hil hjl hij

theorem picked_subset (found : List VerifiedMatch) (indexes : List ℕ) :
    picked found indexes ⊆ found := by
  intro m hm
  obtain ⟨index, _, hm⟩ := List.mem_filterMap.mp hm
  exact List.mem_of_getElem? hm

section
variable {queries : List TokenSegment} {plan : RequestPlan}

theorem loaded_le_found (h : PlanFacts queries plan.matchPlan) {indexes : List ℕ}
    (hi : indexes.Pairwise (· < ·)) :
    pickedTokens plan.matchPlan.verifiedMatches indexes ≤
      coveredTokenCount ((candidateTargets plan.matchPlan).map TokenSegment.tokenRange) := by
  have hsum : (picked plan.matchPlan.verifiedMatches indexes).map (fun m => m.targetSegment.size) =
      ((picked plan.matchPlan.verifiedMatches indexes).map
        (fun m => m.targetSegment.tokenRange)).map TokenRange.size := by
    rw [List.map_map]
    exact List.map_congr_left fun m _ => m.targetSegment.size_eq_range
  rw [pickedTokens, hsum, ← coveredTokenCount_apart (picked_apart hi h.apart)]
  refine coveredTokenCount_mono fun r hr => ?_
  obtain ⟨m, hm, rfl⟩ := List.mem_map.mp hr
  exact List.mem_map_of_mem (List.mem_append_left _
    (List.mem_map_of_mem (picked_subset _ _ hm)))

theorem found_le_requested (h : PlanFacts queries plan.matchPlan) :
    coveredTokenCount ((candidateTargets plan.matchPlan).map TokenSegment.tokenRange) ≤
      coveredTokenCount (queries.map TokenSegment.tokenRange) := by
  refine coveredTokenCount_mono fun r hr => ?_
  obtain ⟨s, hs, rfl⟩ := List.mem_map.mp hr
  refine List.mem_map_of_mem ?_
  obtain hs | hs := List.mem_append.mp hs
  · obtain ⟨m, hm, rfl⟩ := List.mem_map.mp hs
    exact (h.verified m hm).target
  · obtain ⟨x, hx, rfl⟩ := List.mem_map.mp hs
    exact h.rejected x hx

/-- The counters count the queries of the prompt, the candidates of the plan and
the matches that the worker loaded. -/
structure Counted (queries : List TokenSegment) (promptTokens : ℕ) (p : MatchPlan)
    (receipt : WorkerValidationReceipt) (c : RequestMetricCounters) : Prop where
  prompt : c.promptTokens = promptTokens
  documents : c.reusableDocumentsRequested = queries.length
  hits : c.reusableDocumentsHit = p.verifiedMatches.length
  requested : c.reusableDocumentTokensRequested =
    coveredTokenCount (queries.map TokenSegment.tokenRange)
  found : c.kvTokensFound =
    coveredTokenCount ((candidateTargets p).map TokenSegment.tokenRange)
  loaded : c.kvTokensLoaded = pickedTokens p.verifiedMatches receipt.loadedMatchIndexes.val

theorem documentHits_eq (h : PlanFacts queries plan.matchPlan) (hd : queries.Nodup)
    (hq : plan.querySegments.Perm queries) :
    documentHits plan = plan.matchPlan.verifiedMatches.length := by
  have htargets : (plan.matchPlan.verifiedMatches.map VerifiedMatch.targetSegment).Nodup := by
    refine List.pairwise_map.mpr ((List.pairwise_map.mp h.apart).imp fun {m m'} ha he => ?_)
    have hp := m.targetSegment.size_pos
    rw [TokenSegment.size_eq_range] at hp
    unfold TokenRange.size at hp
    unfold TokenRange.Overlaps at ha
    rw [← he] at ha
    omega
  have hperm : (plan.querySegments.filter
      (fun query => query ∈ plan.matchPlan.verifiedMatches.map VerifiedMatch.targetSegment)).Perm
      (plan.matchPlan.verifiedMatches.map VerifiedMatch.targetSegment) := by
    refine (List.perm_ext_iff_of_nodup ((hq.nodup_iff.mpr hd).filter _) htargets).mpr
      fun query => ?_
    rw [List.mem_filter, decide_eq_true_eq]
    refine and_iff_right_of_imp fun ht => ?_
    obtain ⟨m, hm, rfl⟩ := List.mem_map.mp ht
    exact hq.mem_iff.mpr (h.verified m hm).target
  rw [documentHits, List.countP_eq_length_filter, hperm.length_eq, List.length_map]

theorem derive_reconciled {s : RequestLifecycleState} (hd : Disposed plan s)
    (h : PlanFacts queries plan.matchPlan) (hnodup : queries.Nodup)
    (hq : plan.querySegments.Perm queries) {promptTokens : ℕ}
    (hprompt : plan.promptTokens = promptTokens)
    (hb : ∀ q ∈ queries, q.tokenRange.stop ≤ promptTokens)
    (hphase : s.phase = .workerValidated ∨ s.phase = .finished) :
    ∃ receipt counters, s.workerValidation = some receipt ∧
      deriveMetricCounters s = .ok counters ∧
      Counted queries promptTokens plan.matchPlan receipt counters ∧ Reconciled counters := by
  obtain ⟨r, hr⟩ : ∃ r, s.workerValidation = some r := by
    have hc := coherent s
    unfold Coherent at hc
    obtain hp | hp := hphase <;> rw [hp] at hc <;>
      exact hc.elim fun _ hc => hc.elim fun r hc => ⟨r, hc.2.2.2.2.1⟩
  have hcomplete := hd.complete r hr
  have hloaded := loaded_le_found h r.loadedMatchIndexes.property
  have hfound := found_le_requested h
  have hrequested : coveredTokenCount (queries.map TokenSegment.tokenRange) ≤ promptTokens :=
    coveredTokenCount_bounded fun x hx => by
      obtain ⟨q, hq, rfl⟩ := List.mem_map.mp hx
      exact hb q hq
  have hhits : documentHits plan ≤ plan.querySegments.length := List.countP_le_length
  have hsizes := matchSizes_ok plan.matchPlan.verifiedMatches r.loadedMatchIndexes.val
    fun index hi => List.mem_range.mp (hcomplete.1 index (List.mem_append_left _ hi))
  refine ⟨r, countersOf plan
    (coveredTokenCount ((candidateTargets plan.matchPlan).map TokenSegment.tokenRange))
    (pickedTokens plan.matchPlan.verifiedMatches r.loadedMatchIndexes.val), hr, ?_, ?_, ?_⟩
  · unfold deriveMetricCounters
    rw [hr, hd.kept]
    refine (require_then_iff _ _ _ _).mpr ⟨hphase, (checked_ok_iff _ _ _).mpr ⟨_, hsizes, ?_⟩⟩
    refine (require_then_iff _ _ _ _).mpr ⟨?_, ?_⟩
    · unfold pickedTokens at hloaded
      omega
    · exact (require_then_iff _ _ _ _).mpr ⟨complete_length hcomplete, rfl⟩
  · exact ⟨hprompt, congrArg Nat.cast hq.length_eq,
      congrArg Nat.cast (documentHits_eq h hnodup hq), h.requested, rfl, rfl⟩
  · unfold countersOf
    rw [hprompt, h.requested]
    refine ⟨?_, ?_, ?_, ?_, ?_, rfl, rfl⟩
    · simp only [counterFields, List.forall_mem_cons, List.not_mem_nil, false_implies,
        implies_true, and_true]
      omega
    · show (documentHits plan : ℤ) ≤ plan.querySegments.length
      omega
    · show (coveredTokenCount _ : ℤ) ≤ promptTokens
      omega
    · show (coveredTokenCount _ : ℤ) ≤ coveredTokenCount _
      omega
    · exact (add_sub_cancel _ _).symm

theorem derive_unvalidated {s : RequestLifecycleState}
    (hphase : ¬(s.phase = .workerValidated ∨ s.phase = .finished)) :
    deriveMetricCounters s = .error (.code .lifecycleMisuse) := by
  unfold deriveMetricCounters
  split
  · rfl
  · unfold require
    rw [if_neg hphase]
    rfl

end

/-- Every plan of the match planner, for distinct segments of a prompt and any
lookup, is accepted as a request plan. In every state that a lifecycle reaches
with it, the worker result is never found invalid. In a validated or finished
state the counters are derived, count what the plan and the receipt hold, and
keep all rules of the metrics, so that what the metrics report are issues of
timers and errors alone. -/
theorem plan_metrics_reconcile {ε : Type} (fingerprinter : SegmentFingerprinter)
    (lookup : RecordLookup ε) (cacheNamespace : CacheNamespace) (queries : List TokenSegment)
    (requestId : String) (promptTokens : ℕ) (p : MatchPlan) (hid : requestId ≠ "")
    (hd : queries.Nodup) (hb : ∀ s ∈ queries, s.tokenRange.stop ≤ promptTokens)
    (hp : plan fingerprinter lookup cacheNamespace queries = .ok p) :
    ∃ requestPlan, RequestPlan.new requestId promptTokens queries p = .ok requestPlan ∧
      ∀ start s, Starts requestPlan start → Reached LifecycleStep start s →
        deriveMetricCounters s ≠ .error (.code .invalidWorkerResult) ∧
        (s.phase = .workerValidated ∨ s.phase = .finished →
          ∃ receipt counters, s.workerValidation = some receipt ∧
            deriveMetricCounters s = .ok counters ∧
            Counted queries promptTokens p receipt counters ∧ Reconciled counters ∧
            ∀ timers correctness, validateRequestMetrics ⟨counters, timers, correctness⟩ =
              measurementIssues .nonfiniteOrNegativeTimer (timerFields timers) ++
              measurementIssues .nonfiniteOrNegativeError (errorFields correctness)) := by
  have hfacts := plan_facts hp
  obtain ⟨requestPlan, hnew, hprompt, rfl, hperm⟩ :=
    requestPlan_accepted hfacts requestId promptTokens hid hd hb
  refine ⟨requestPlan, hnew, fun start s hstart hs => ?_⟩
  have hdisposed := run_disposed hstart hs
  by_cases hphase : s.phase = .workerValidated ∨ s.phase = .finished
  · obtain ⟨receipt, counters, hv, hc, hcounted, hr⟩ :=
      derive_reconciled hdisposed hfacts hd hperm hprompt hb hphase
    refine ⟨fun he => ?_, fun _ => ⟨receipt, counters, hv, hc, hcounted, hr, reconciled_issues hr⟩⟩
    rw [hc] at he
    cases he
  · refine ⟨fun he => ?_, fun h => absurd h hphase⟩
    rw [derive_unvalidated hphase] at he
    cases he

def window (start : ℕ) : TokenSegment :=
  ⟨⟨start, start+2, Nat.le_add_right start 2⟩, [7, 7], by simp, Nat.add_sub_cancel_left start 2⟩

def windowRecord : CacheRecord :=
  ⟨LookupPlans.exampleNamespace, ⟨LookupPlans.zeroDigest⟩, [7, 7], ⟨5, 7, by decide⟩, "document",
    by simp, rfl, by decide⟩

def constantFingerprinter : SegmentFingerprinter := fun _ _ => ⟨LookupPlans.zeroDigest⟩

def windowLookup : RecordLookup Unit := fun _ _ _ => .ok [windowRecord]

def windowLayout : CacheGroupLayout :=
  ⟨[["model.layers.0.attn"]], by decide, by decide, by decide, by decide⟩

/-- The receipt of a worker that loads the one match of the windows. -/
def windowReceipt : Except ControlPlaneErrorCode WorkerValidationReceipt := do
  let groupedBlocks ← GroupedBlockAllocation.capture windowLayout [[1]]
  let allocation ← RequestAllocation.new "request" 0 groupedBlocks 0
  WorkerValidationReceipt.new "request" allocation [0] []

def performed (s : RequestLifecycleState) (operation : LifecycleOperation) :
    Option RequestLifecycleState :=
  (perform s operation).toOption

/-- The first and the last state of a request for the windows of a plan. -/
def windowRun (requestPlan : RequestPlan) :
    Option (RequestLifecycleState × RequestLifecycleState) := do
  let receipt ← windowReceipt.toOption
  let start ← (RequestLifecycleState.ofPlan requestPlan).toOption
  let s ← execute performed start
    [.allocate windowLayout [[1]] 0, .handoff, .applyWorkerValidation receipt, .finish]
  some (start, s)

theorem windowRun_reached {requestPlan : RequestPlan} {start s : RequestLifecycleState}
    (h : windowRun requestPlan = some (start, s)) :
    Starts requestPlan start ∧ Reached LifecycleStep start s := by
  unfold windowRun at h
  obtain ⟨receipt, _, h⟩ := Option.bind_eq_some_iff.mp h
  obtain ⟨start', hstart, h⟩ := Option.bind_eq_some_iff.mp h
  obtain ⟨s', hs, h⟩ := Option.bind_eq_some_iff.mp h
  cases h
  exact ⟨Or.inl (toOption_some hstart), reached_mono (fun _ _ _ ht => toOption_some ht)
    (execute_reached _ (reached_start _ _) hs)⟩

/-- Both windows have the record, and one of them is selected and loaded. -/
theorem overlapping_windows_reconciled : ∃ p requestPlan start s counters,
    plan constantFingerprinter windowLookup LookupPlans.exampleNamespace [window 0, window 1] =
      .ok p ∧
    RequestPlan.new "request" 3 [window 0, window 1] p = .ok requestPlan ∧
    Starts requestPlan start ∧ Reached LifecycleStep start s ∧ s.phase = .finished ∧
    deriveMetricCounters s = .ok counters ∧ counters = ⟨3, 2, 1, 3, 3, 2, 1, 3, 0⟩ ∧
    Reconciled counters ∧ ∀ timers correctness,
      validateRequestMetrics ⟨counters, timers, correctness⟩ =
        measurementIssues .nonfiniteOrNegativeTimer (timerFields timers) ++
        measurementIssues .nonfiniteOrNegativeError (errorFields correctness) := by
  have hrun : (do
      let p ← (plan constantFingerprinter windowLookup LookupPlans.exampleNamespace
        [window 0, window 1]).toOption
      let requestPlan ← (RequestPlan.new "request" 3 [window 0, window 1] p).toOption
      let states ← windowRun requestPlan
      some (states.2.phase, (deriveMetricCounters states.2).toOption)) =
        some (.finished, some ⟨3, 2, 1, 3, 3, 2, 1, 3, 0⟩) := by
    decide +kernel
  obtain ⟨p, hp, hrun⟩ := Option.bind_eq_some_iff.mp hrun
  obtain ⟨requestPlan, hnew, hrun⟩ := Option.bind_eq_some_iff.mp hrun
  obtain ⟨states, hstates, hrun⟩ := Option.bind_eq_some_iff.mp hrun
  obtain ⟨hphase, hcounters⟩ := Prod.mk.inj (Option.some.inj hrun)
  obtain ⟨hstarts, hreached⟩ := windowRun_reached hstates
  obtain ⟨requestPlan', hnew', hreach⟩ := plan_metrics_reconcile constantFingerprinter windowLookup
    LookupPlans.exampleNamespace [window 0, window 1] "request" 3 p (by decide) (by decide)
    (by decide) (toOption_some hp)
  cases (toOption_some hnew).symm.trans hnew'
  obtain ⟨_, counters, _, hc, _, hreconciled, hissues⟩ :=
    (hreach states.1 states.2 hstarts hreached).2 (Or.inr hphase)
  refine ⟨p, requestPlan, states.1, states.2, counters, toOption_some hp, toOption_some hnew,
    hstarts, hreached, hphase, hc, ?_, hreconciled, hissues⟩
  rw [hc] at hcounters
  exact Option.some.inj hcounters

end CacheBlend.MetricReconciliation
