import CacheBlend.CoveredRanges
import CacheBlend.Scheduling

/-!
# The match planner

The planner resolves every query segment through an untrusted lookup, checks
each record against the segment and keeps disjoint matches. What it returns is
made of its queries: every match passed the checks, no two matches overlap, and
they are sorted.
-/

set_option autoImplicit false

namespace CacheBlend.MatchPlanning
open CacheBlend.PlannerModels CacheBlend.CoveredRanges

abbrev SegmentFingerprinter := CacheNamespace → List TokenId → SegmentFingerprint

/-- The records of a namespace and fingerprint, or an exception. The first
argument counts the queries, so a lookup may answer differently each time. -/
abbrev RecordLookup (ε : Type) := ℕ → CacheNamespace → SegmentFingerprint →
  Except ε (List CacheRecord)

abbrev CandidateSortKey := ℕ ×ₗ ℕ ×ₗ String ×ₗ ℕ ×ₗ ℕ

def candidateSortKey (c : CandidateMatch) : CandidateSortKey :=
  toLex (c.targetSegment.tokenRange.start, toLex (c.targetSegment.tokenRange.stop,
    toLex (c.record.cacheKey, toLex (c.record.sourceRange.start, c.record.sourceRange.stop))))

structure Solution where
  tokenCount : ℕ
  candidateIndexes : List ℕ
  tieBreakKey : List CandidateSortKey

def betterSolution (left right : Solution) : Solution :=
  if left.tokenCount ≠ right.tokenCount then
    if left.tokenCount > right.tokenCount then left else right
  else if left.tieBreakKey ≤ right.tieBreakKey then left else right

/-- The scan of `_select_non_overlapping` over candidates with their indexes. -/
def schedulingProblem : Scheduling.Problem (CandidateMatch × ℕ) Solution where
  start p := p.1.targetSegment.tokenRange.start
  stop p := p.1.targetSegment.tokenRange.stop
  empty := ⟨0, [], []⟩
  extend s p := ⟨s.tokenCount+p.1.targetSegment.size, s.candidateIndexes ++ [p.2],
    s.tieBreakKey ++ [candidateSortKey p.1]⟩
  better := betterSolution

def orderedCandidates (candidates : List CandidateMatch) : List (CandidateMatch × ℕ) :=
  sortedBy (fun p => toLex (p.1.targetSegment.tokenRange.stop, candidateSortKey p.1))
    candidates.zipIdx

/-- `_select_non_overlapping`. -/
def selectNonOverlapping (candidates : List CandidateMatch) : List ℕ :=
  (Scheduling.schedule schedulingProblem (orderedCandidates candidates)).candidateIndexes

/-- `_verify_candidate`. -/
def verifyCandidate (fingerprinter : SegmentFingerprinter) (cacheNamespace : CacheNamespace)
    (c : CandidateMatch) : Option CandidateRejectionReason :=
  if c.record.cacheNamespace ≠ cacheNamespace then some .namespaceMismatch
  else if c.record.fingerprint ≠ c.queryFingerprint then some .fingerprintMismatch
  else if c.record.tokenIds ≠ c.targetSegment.tokenIds then some .tokenMismatch
  else if fingerprinter c.record.cacheNamespace c.record.tokenIds ≠ c.record.fingerprint then
    some .fingerprintMismatch
  else none

structure PlannerState where
  verified : List CandidateMatch
  rejected : List RejectedCandidate

def PlannerState.add (fingerprinter : SegmentFingerprinter) (cacheNamespace : CacheNamespace)
    (st : PlannerState) (c : CandidateMatch) : PlannerState :=
  match verifyCandidate fingerprinter cacheNamespace c with
  | none => { st with verified := st.verified ++ [c] }
  | some reason => { st with rejected := st.rejected ++ [⟨c, reason⟩] }

/-- The loop of `MatchPlanner.plan` over the queries. -/
def resolveQueries {ε : Type} (fingerprinter : SegmentFingerprinter) (lookup : RecordLookup ε)
    (cacheNamespace : CacheNamespace) :
    ℕ → PlannerState → List TokenSegment → Except ε PlannerState
  | _, st, [] => .ok st
  | i, st, query::rest => do
    let queryFingerprint := fingerprinter cacheNamespace query.tokenIds
    let records ← lookup i cacheNamespace queryFingerprint
    let st := (records.map (CandidateMatch.mk query queryFingerprint)).foldl
      (PlannerState.add fingerprinter cacheNamespace) st
    resolveQueries fingerprinter lookup cacheNamespace (i+1) st rest

def selectedCandidates (verified : List CandidateMatch) : List CandidateMatch :=
  (verified.zipIdx.filter (fun p => p.2 ∈ selectNonOverlapping verified)).map Prod.fst

def unselectedCandidates (verified : List CandidateMatch) : List CandidateMatch :=
  (verified.zipIdx.filter (fun p => p.2 ∉ selectNonOverlapping verified)).map Prod.fst

/-- `MatchPlanner.plan`. -/
def plan {ε : Type} (fingerprinter : SegmentFingerprinter) (lookup : RecordLookup ε)
    (cacheNamespace : CacheNamespace) (queries : List TokenSegment) : Except ε MatchPlan := do
  let st ← resolveQueries fingerprinter lookup cacheNamespace 0 ⟨[], []⟩ queries
  .ok {
    verifiedMatches := sortedBy (fun m => candidateSortKey m.candidate)
      ((selectedCandidates st.verified).map VerifiedMatch.mk)
    rejectedCandidates := st.rejected ++ (unselectedCandidates st.verified).map
      (fun c => ⟨c, .overlapsSelectedMatch⟩)
    requestedTokens := coveredTokenCount (queries.map TokenSegment.tokenRange) }

/-! ## What the planner keeps -/

/-- A candidate that passed the checks, for one of the queries. -/
structure Verified (queries : List TokenSegment) (c : CandidateMatch) : Prop where
  target : c.targetSegment ∈ queries
  fingerprint : c.queryFingerprint = c.record.fingerprint
  tokens : c.targetSegment.tokenIds = c.record.tokenIds

structure Resolved (queries : List TokenSegment) (st : PlannerState) : Prop where
  verified : ∀ c ∈ st.verified, Verified queries c
  rejected : ∀ r ∈ st.rejected, r.candidate.targetSegment ∈ queries

section
variable {queries : List TokenSegment} {fingerprinter : SegmentFingerprinter}
  {cacheNamespace : CacheNamespace}

theorem verifyCandidate_none {c : CandidateMatch}
    (h : verifyCandidate fingerprinter cacheNamespace c = none) (ht : c.targetSegment ∈ queries) :
    Verified queries c := by
  unfold verifyCandidate at h
  split_ifs at h with _ hf hk
  exact ⟨ht, (not_not.mp hf).symm, (not_not.mp hk).symm⟩

theorem add_resolved {st : PlannerState} {c : CandidateMatch} (h : Resolved queries st)
    (ht : c.targetSegment ∈ queries) :
    Resolved queries (st.add fingerprinter cacheNamespace c) := by
  unfold PlannerState.add
  split
  · next hv =>
    refine ⟨fun c' hc => ?_, h.rejected⟩
    obtain hc | hc := List.mem_append.mp hc
    · exact h.verified c' hc
    · exact List.mem_singleton.mp hc ▸ verifyCandidate_none hv ht
  · refine ⟨h.verified, fun r hr => ?_⟩
    obtain hr | hr := List.mem_append.mp hr
    · exact h.rejected r hr
    · exact List.mem_singleton.mp hr ▸ ht

theorem resolveQueries_resolved {ε : Type} {lookup : RecordLookup ε} (rest : List TokenSegment)
    (i : ℕ) (st : PlannerState) {st' : PlannerState} (hq : rest ⊆ queries)
    (h : Resolved queries st)
    (hr : resolveQueries fingerprinter lookup cacheNamespace i st rest = .ok st') :
    Resolved queries st' := by
  induction rest generalizing i st with
  | nil =>
    cases hr
    exact h
  | cons query rest ih =>
    obtain ⟨records, _, hr⟩ := (checked_ok_iff _ _ _).mp hr
    refine ih (i+1) _ (fun q hm => hq (List.mem_cons_of_mem _ hm)) ?_ hr
    refine List.foldlRecOn _ _ h fun st hst c hc => add_resolved hst ?_
    obtain ⟨_, _, rfl⟩ := List.mem_map.mp hc
    exact hq List.mem_cons_self

end

/-! ## The selection -/

theorem betterSolution_eq (s t : Solution) :
    betterSolution s t = s ∨ betterSolution s t = t := by
  unfold betterSolution
  split_ifs <;> simp

theorem solution_indexes (ps : List (CandidateMatch × ℕ)) :
    (Scheduling.solution schedulingProblem ps).candidateIndexes = ps.map Prod.snd := by
  induction ps using List.reverseRecOn with
  | nil => rfl
  | append_singleton ps p ih =>
    rw [Scheduling.solution_concat, List.map_append, ← ih]
    rfl

theorem ordered_sorted (candidates : List CandidateMatch) :
    Scheduling.Ordered schedulingProblem (orderedCandidates candidates) := by
  refine (sortedBy_pairwise _ candidates.zipIdx).imp fun {p q} h => ?_
  obtain h | h := Prod.Lex.toLex_le_toLex.mp h
  · exact le_of_lt h
  · exact le_of_eq h.1

def Apart (c c' : CandidateMatch) : Prop :=
  ¬c.targetSegment.tokenRange.Overlaps c'.targetSegment.tokenRange

theorem apart_symm {c c' : CandidateMatch} (h : Apart c c') : Apart c' c :=
  fun ho => h ⟨ho.2, ho.1⟩

theorem not_apart_self (c : CandidateMatch) : ¬Apart c c := by
  have hp := c.targetSegment.size_pos
  rw [c.targetSegment.size_eq_range] at hp
  unfold TokenRange.size at hp
  exact fun h => h ⟨by omega, by omega⟩

theorem selected_apart (verified : List CandidateMatch) :
    (selectedCandidates verified).Pairwise Apart := by
  obtain ⟨chosen, hsub, hc, he⟩ := Scheduling.schedule_compatible schedulingProblem
    betterSolution_eq (orderedCandidates verified) (ordered_sorted verified)
  have hapart : chosen.Pairwise (fun p q => Apart p.1 q.1) :=
    hc.imp fun {p q} hpq ho => absurd ho.2 (not_lt.mpr hpq)
  have hn : chosen.Nodup := hapart.imp fun {p q} hpq he => by
    subst he
    exact not_apart_self _ hpq
  have hindexes : (verified.zipIdx.map Prod.snd).Nodup := by
    rw [List.zipIdx_map_snd]
    exact List.nodup_range'
  have hperm := Scheduling.filter_indexes_perm verified.zipIdx chosen hindexes
    (fun p hp => (sortedBy_perm _ _).mem_iff.mp (hsub.subset hp)) hn
  unfold selectedCandidates selectNonOverlapping
  rw [he, solution_indexes, List.pairwise_map]
  exact (hperm.pairwise_iff fun h => apart_symm h).mpr hapart

theorem selected_subset (verified : List CandidateMatch) :
    selectedCandidates verified ⊆ verified := by
  intro c hc
  obtain ⟨p, hp, rfl⟩ := List.mem_map.mp hc
  exact (List.mem_zipIdx (List.mem_filter.mp hp).1).2.2 ▸ List.getElem_mem _

theorem unselected_subset (verified : List CandidateMatch) :
    unselectedCandidates verified ⊆ verified := by
  intro c hc
  obtain ⟨p, hp, rfl⟩ := List.mem_map.mp hc
  exact (List.mem_zipIdx (List.mem_filter.mp hp).1).2.2 ▸ List.getElem_mem _

/-! ## The returned plan -/

/-- What holds of every plan for the queries. -/
structure PlanFacts (queries : List TokenSegment) (p : MatchPlan) : Prop where
  verified : ∀ m ∈ p.verifiedMatches, Verified queries m.candidate
  sorted : p.verifiedMatches.Pairwise
    (fun m m' => m.targetSegment.tokenRange.start ≤ m'.targetSegment.tokenRange.start)
  apart : (p.verifiedMatches.map (fun m => m.targetSegment.tokenRange)).Pairwise
    (fun r r' => ¬r.Overlaps r')
  rejected : ∀ r ∈ p.rejectedCandidates, r.candidate.targetSegment ∈ queries
  requested : p.requestedTokens = coveredTokenCount (queries.map TokenSegment.tokenRange)

theorem plan_facts {ε : Type} {fingerprinter : SegmentFingerprinter} {lookup : RecordLookup ε}
    {cacheNamespace : CacheNamespace} {queries : List TokenSegment} {p : MatchPlan}
    (h : plan fingerprinter lookup cacheNamespace queries = .ok p) : PlanFacts queries p := by
  obtain ⟨st, hr, h⟩ := (checked_ok_iff _ _ _).mp h
  cases h
  have hst := resolveQueries_resolved queries 0 ⟨[], []⟩ (List.Subset.refl _)
    ⟨fun _ hc => absurd hc List.not_mem_nil, fun _ hc => absurd hc List.not_mem_nil⟩ hr
  refine ⟨fun m hm => ?_, ?_, ?_, fun r hr => ?_, rfl⟩
  · obtain ⟨c, hc, rfl⟩ := List.mem_map.mp ((mem_sortedBy _ _ m).mp hm)
    exact hst.verified c (selected_subset _ hc)
  · refine (sortedBy_pairwise _ _).imp fun {m m'} hle => ?_
    obtain hlt | he := Prod.Lex.toLex_le_toLex.mp hle
    · exact le_of_lt hlt
    · exact le_of_eq he.1
  · have hperm := sortedBy_perm (fun m : VerifiedMatch => candidateSortKey m.candidate)
      ((selectedCandidates st.verified).map VerifiedMatch.mk)
    rw [List.pairwise_map, hperm.pairwise_iff fun h ho => h ⟨ho.2, ho.1⟩, List.pairwise_map]
    exact selected_apart st.verified
  · obtain hr | hr := List.mem_append.mp hr
    · exact hst.rejected r hr
    · obtain ⟨c, hc, rfl⟩ := List.mem_map.mp hr
      exact (hst.verified c (unselected_subset _ hc)).target

end CacheBlend.MatchPlanning
