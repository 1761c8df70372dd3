import CacheBlend.MatchPlanning

/-!
# Optimality of the match planner

The scan keeps one solution for every prefix of the candidates. Disjoint
candidates have a coverage that their sort keys determine, so no sequence of
keys of one coverage is a proper prefix of another, and the best solution of
a prefix extends to a best one. The plan has the greatest coverage, and among
those of this coverage the least sequence of sort keys.
-/

set_option autoImplicit false

namespace CacheBlend.MatchOptimality
open CacheBlend.PlannerModels CacheBlend.CoveredRanges CacheBlend.MatchPlanning

/-! ## Sequences of keys -/

theorem cons_le_cons {κ : Type*} [LinearOrder κ] (x y : κ) (xs ys : List κ) :
    x::xs ≤ y::ys ↔ x < y ∨ x = y ∧ xs ≤ ys := by
  rw [← not_lt, List.cons_lt_cons_iff, ← not_lt (a := ys)]
  constructor
  · intro h
    obtain hlt | rfl | hlt := lt_trichotomy x y
    · exact .inl hlt
    · exact .inr ⟨rfl, fun hn => h (.inr ⟨rfl, hn⟩)⟩
    · exact absurd (.inl hlt) h
  · rintro (hlt | ⟨rfl, hn⟩) (hlt' | ⟨he, hn'⟩)
    · exact absurd hlt (lt_asymm hlt')
    · exact absurd he hlt.ne'
    · exact absurd hlt' (lt_irrefl x)
    · exact hn hn'

theorem append_le_append_right {κ : Type*} [LinearOrder κ] (weight : κ → ℕ) {xs ys : List κ}
    (zs : List κ) (hx : ∀ k ∈ xs, 0 < weight k) (hy : ∀ k ∈ ys, 0 < weight k)
    (hsum : (xs.map weight).sum = (ys.map weight).sum) (h : xs ≤ ys) : xs ++ zs ≤ ys ++ zs := by
  induction xs generalizing ys with
  | nil =>
    cases ys with
    | nil => exact le_refl _
    | cons y ys =>
      have hpos := hy y List.mem_cons_self
      rw [List.map_nil, List.map_cons, List.sum_nil, List.sum_cons] at hsum
      omega
  | cons x xs ih =>
    cases ys with
    | nil =>
      have hpos := hx x List.mem_cons_self
      rw [List.map_nil, List.map_cons, List.sum_nil, List.sum_cons] at hsum
      omega
    | cons y ys =>
      rw [List.cons_append, List.cons_append, cons_le_cons]
      obtain hlt | ⟨rfl, hle⟩ := (cons_le_cons x y xs ys).mp h
      · exact .inl hlt
      · rw [List.map_cons, List.map_cons, List.sum_cons, List.sum_cons] at hsum
        exact .inr ⟨rfl, ih (fun k hk => hx k (List.mem_cons_of_mem _ hk))
          (fun k hk => hy k (List.mem_cons_of_mem _ hk)) (by omega) hle⟩

def keyTokens (k : CandidateSortKey) : ℕ := (ofLex (ofLex k).2).1-(ofLex k).1

theorem keyTokens_eq (c : CandidateMatch) : keyTokens (candidateSortKey c) = c.targetSegment.size :=
  c.targetSegment.size_eq_range.symm

theorem keyTokens_pos (c : CandidateMatch) : 0 < keyTokens (candidateSortKey c) := by
  rw [keyTokens_eq]
  exact c.targetSegment.size_pos

def coverage (cs : List CandidateMatch) : ℕ := (cs.map (fun c => c.targetSegment.size)).sum

def keys (cs : List CandidateMatch) : List CandidateSortKey := cs.map candidateSortKey

def sortedKeys (cs : List CandidateMatch) : List CandidateSortKey := sortedBy id (keys cs)

theorem keys_weight (cs : List CandidateMatch) : ((keys cs).map keyTokens).sum = coverage cs := by
  unfold keys coverage
  rw [List.map_map]
  congr 1
  exact List.map_congr_left fun c _ => keyTokens_eq c

theorem append_keys_le {cs cs' : List CandidateMatch} (zs : List CandidateSortKey)
    (hcover : coverage cs = coverage cs') (h : keys cs ≤ keys cs') :
    keys cs ++ zs ≤ keys cs' ++ zs := by
  have hpos : ∀ cs : List CandidateMatch, ∀ k ∈ keys cs, 0 < keyTokens k := by
    intro cs k hk
    obtain ⟨c, _, rfl⟩ := List.mem_map.mp hk
    exact keyTokens_pos c
  apply append_le_append_right keyTokens zs (hpos cs) (hpos cs') _ h
  rw [keys_weight, keys_weight, hcover]

/-! ## The scan -/

def candidatesOf (ps : List (CandidateMatch × ℕ)) : List CandidateMatch := ps.map Prod.fst

theorem solution_fields (ps : List (CandidateMatch × ℕ)) :
    (Scheduling.solution schedulingProblem ps).tokenCount = coverage (candidatesOf ps) ∧
      (Scheduling.solution schedulingProblem ps).tieBreakKey = keys (candidatesOf ps) := by
  induction ps using List.reverseRecOn with
  | nil => exact ⟨rfl, rfl⟩
  | append_singleton ps p ih =>
    rw [Scheduling.solution_concat]
    constructor
    · show (Scheduling.solution schedulingProblem ps).tokenCount + _ = _
      rw [ih.1]
      unfold coverage candidatesOf
      rw [List.map_append, List.map_append, List.sum_append]
      rfl
    · show (Scheduling.solution schedulingProblem ps).tieBreakKey ++ [_] = _
      rw [ih.2]
      unfold keys candidatesOf
      rw [List.map_append, List.map_append]
      rfl

/-- The second solution covers more, or as much with a sequence of keys that is not greater. -/
def Preferred (s t : Solution) : Prop :=
  s.tokenCount < t.tokenCount ∨ s.tokenCount = t.tokenCount ∧ t.tieBreakKey ≤ s.tieBreakKey

theorem preferred_refl (s : Solution) : Preferred s s := .inr ⟨rfl, le_refl _⟩

theorem preferred_trans (s t u : Solution) (h : Preferred s t) (h' : Preferred t u) :
    Preferred s u := by
  obtain hlt | ⟨he, hle⟩ := h
  · obtain hlt' | ⟨he', _⟩ := h'
    · exact .inl (hlt.trans hlt')
    · exact .inl (he' ▸ hlt)
  · obtain hlt' | ⟨he', hle'⟩ := h'
    · exact .inl (he ▸ hlt')
    · exact .inr ⟨he.trans he', hle'.trans hle⟩

theorem preferred_better (s t : Solution) :
    Preferred s (betterSolution s t) ∧ Preferred t (betterSolution s t) := by
  unfold betterSolution
  split_ifs with hne hgt hle
  · exact ⟨preferred_refl s, .inl hgt⟩
  · exact ⟨.inl (by omega), preferred_refl t⟩
  · exact ⟨preferred_refl s, .inr ⟨(not_not.mp hne).symm, hle⟩⟩
  · exact ⟨.inr ⟨not_not.mp hne, le_of_lt (not_le.mp hle)⟩, preferred_refl t⟩

theorem preferred_extend (S T : List (CandidateMatch × ℕ)) (a : CandidateMatch × ℕ)
    (h : Preferred (Scheduling.solution schedulingProblem S)
      (Scheduling.solution schedulingProblem T)) :
    Preferred (schedulingProblem.extend (Scheduling.solution schedulingProblem S) a)
      (schedulingProblem.extend (Scheduling.solution schedulingProblem T) a) := by
  obtain hlt | ⟨he, hle⟩ := h
  · exact .inl (Nat.add_lt_add_right hlt _)
  · refine .inr ⟨congrArg (·+a.1.targetSegment.size) he, ?_⟩
    rw [(solution_fields S).2, (solution_fields T).2] at hle
    rw [(solution_fields S).1, (solution_fields T).1] at he
    show (Scheduling.solution schedulingProblem T).tieBreakKey ++ _ ≤
      (Scheduling.solution schedulingProblem S).tieBreakKey ++ _
    rw [(solution_fields S).2, (solution_fields T).2]
    exact append_keys_le _ he.symm hle

theorem select_best (verified : List CandidateMatch) :
    ∃ chosen : List (CandidateMatch × ℕ), chosen.Sublist (orderedCandidates verified) ∧
      Scheduling.Compatible schedulingProblem chosen ∧
      selectNonOverlapping verified = chosen.map Prod.snd ∧
      ∀ ps, ps.Sublist (orderedCandidates verified) →
        Scheduling.Compatible schedulingProblem ps →
        Preferred (Scheduling.solution schedulingProblem ps)
          (Scheduling.solution schedulingProblem chosen) := by
  obtain ⟨⟨chosen, hsub, hc, he⟩, hmax⟩ := Scheduling.schedule_best schedulingProblem Preferred
    preferred_refl betterSolution_eq (fun s t => (preferred_better s t).1)
    (fun s t => (preferred_better s t).2) preferred_trans preferred_extend
    (orderedCandidates verified) (ordered_sorted verified)
  refine ⟨chosen, hsub, hc, ?_, fun ps hps hpc => he ▸ hmax ps hps hpc⟩
  unfold selectNonOverlapping
  rw [he, solution_indexes]

/-! ## The selected candidates -/

theorem ordered_perm (verified : List CandidateMatch) :
    (orderedCandidates verified).Perm verified.zipIdx := sortedBy_perm _ _

theorem indexes_nodup (verified : List CandidateMatch) :
    (verified.zipIdx.map Prod.snd).Nodup := by
  rw [List.zipIdx_map_snd]
  exact List.nodup_range'

theorem compatible_apart {ps : List (CandidateMatch × ℕ)}
    (h : Scheduling.Compatible schedulingProblem ps) : (candidatesOf ps).Pairwise Apart := by
  unfold candidatesOf
  rw [List.pairwise_map]
  exact h.imp fun {p q} hpq ho => absurd ho.2 (not_lt.mpr hpq)

theorem apart_compatible {ps : List (CandidateMatch × ℕ)}
    (ho : Scheduling.Ordered schedulingProblem ps) (h : (candidatesOf ps).Pairwise Apart) :
    Scheduling.Compatible schedulingProblem ps := by
  unfold candidatesOf at h
  rw [List.pairwise_map] at h
  refine (ho.and h).imp fun {p q} hpq => ?_
  obtain ⟨hstop, hapart⟩ := hpq
  show p.1.targetSegment.tokenRange.stop ≤ q.1.targetSegment.tokenRange.start
  have hstop' : p.1.targetSegment.tokenRange.stop ≤ q.1.targetSegment.tokenRange.stop := hstop
  have hp := p.1.targetSegment.size_pos
  have hq := q.1.targetSegment.size_pos
  rw [p.1.targetSegment.size_eq_range] at hp
  rw [q.1.targetSegment.size_eq_range] at hq
  unfold TokenRange.size at hp hq
  by_contra hlt
  exact hapart ⟨by omega, by omega⟩

theorem compatible_sorted {ps : List (CandidateMatch × ℕ)}
    (h : Scheduling.Compatible schedulingProblem ps) :
    sortedKeys (candidatesOf ps) = keys (candidatesOf ps) := by
  apply sortedBy_eq_self
  unfold keys candidatesOf
  rw [List.pairwise_map, List.pairwise_map]
  refine h.imp fun {p q} hpq => ?_
  have hp := p.1.targetSegment.size_pos
  rw [p.1.targetSegment.size_eq_range] at hp
  unfold TokenRange.size at hp
  have hpq' : p.1.targetSegment.tokenRange.stop ≤ q.1.targetSegment.tokenRange.start := hpq
  exact Prod.Lex.toLex_le_toLex.mpr (.inl (by omega))

theorem apart_nodup {cs : List CandidateMatch} (h : cs.Pairwise Apart) : cs.Nodup := by
  refine h.imp fun {c c'} hc he => ?_
  subst he
  exact not_apart_self c hc

theorem sortedKeys_perm {cs cs' : List CandidateMatch} (h : cs.Perm cs') :
    sortedKeys cs = sortedKeys cs' :=
  sortedBy_congr_perm id (fun _ _ _ _ he => he) (h.map _)

theorem coverage_perm {cs cs' : List CandidateMatch} (h : cs.Perm cs') :
    coverage cs = coverage cs' := (h.map _).sum_eq

theorem exists_indexed (verified cs : List CandidateMatch) (h : cs ⊆ verified) :
    ∃ ps, candidatesOf ps = cs ∧ ∀ p ∈ ps, p ∈ verified.zipIdx := by
  induction cs with
  | nil => exact ⟨[], rfl, fun p hp => absurd hp List.not_mem_nil⟩
  | cons c cs ih =>
    obtain ⟨ps, rfl, hmem⟩ := ih fun c' hc' => h (List.mem_cons_of_mem _ hc')
    have hc := h List.mem_cons_self
    rw [← List.zipIdx_map_fst 0 verified] at hc
    obtain ⟨q, hq, rfl⟩ := List.mem_map.mp hc
    refine ⟨q::ps, rfl, fun q' hq' => ?_⟩
    obtain rfl | hq' := List.mem_cons.mp hq'
    · exact hq
    · exact hmem q' hq'

/-- A choice of candidates is no better than another one. -/
def NoBetter (cs best : List CandidateMatch) : Prop :=
  coverage cs < coverage best ∨ coverage cs = coverage best ∧ sortedKeys best ≤ sortedKeys cs

/-- Disjoint candidates that no choice of disjoint candidates is better than. -/
structure Optimal (verified best : List CandidateMatch) : Prop where
  subset : best ⊆ verified
  apart : best.Pairwise Apart
  least : ∀ cs, cs ⊆ verified → cs.Pairwise Apart → NoBetter cs best

theorem selected_perm (verified : List CandidateMatch) {chosen : List (CandidateMatch × ℕ)}
    (hsub : chosen.Sublist (orderedCandidates verified))
    (hc : Scheduling.Compatible schedulingProblem chosen)
    (he : selectNonOverlapping verified = chosen.map Prod.snd) :
    (selectedCandidates verified).Perm (candidatesOf chosen) := by
  have hn : chosen.Nodup := (apart_nodup (compatible_apart hc)).of_map
  unfold selectedCandidates
  rw [he]
  exact (Scheduling.filter_indexes_perm verified.zipIdx chosen (indexes_nodup verified)
    (fun p hp => (ordered_perm verified).mem_iff.mp (hsub.subset hp)) hn).map _

theorem selected_optimal (verified : List CandidateMatch) :
    Optimal verified (selectedCandidates verified) := by
  obtain ⟨chosen, hsub, hc, he, hbest⟩ := select_best verified
  have hperm := selected_perm verified hsub hc he
  refine ⟨selected_subset verified, selected_apart verified, fun cs hcs hapart => ?_⟩
  obtain ⟨ps, rfl, hmem⟩ := exists_indexed verified cs hcs
  have hfilter : ((orderedCandidates verified).filter (fun p => p ∈ ps)).Perm ps := by
    have hi : (orderedCandidates verified).Nodup :=
      (ordered_perm verified).nodup_iff.mpr (indexes_nodup verified).of_map
    rw [List.perm_ext_iff_of_nodup (hi.filter _) (apart_nodup hapart).of_map]
    intro p
    rw [List.mem_filter, decide_eq_true_eq]
    exact ⟨fun h => h.2, fun h => ⟨(ordered_perm verified).mem_iff.mpr (hmem p h), h⟩⟩
  have hcompatible : Scheduling.Compatible schedulingProblem
      ((orderedCandidates verified).filter (fun p => p ∈ ps)) :=
    apart_compatible ((ordered_sorted verified).sublist List.filter_sublist)
      (((hfilter.map Prod.fst).pairwise_iff fun h => apart_symm h).mpr hapart)
  have hpreferred := hbest _ List.filter_sublist hcompatible
  unfold Preferred at hpreferred
  rw [(solution_fields _).1, (solution_fields _).1, (solution_fields _).2, (solution_fields _).2,
    ← compatible_sorted hcompatible, ← compatible_sorted hc] at hpreferred
  have hchoice : (candidatesOf ((orderedCandidates verified).filter (fun p => p ∈ ps))).Perm
      (candidatesOf ps) := hfilter.map Prod.fst
  unfold NoBetter
  rw [coverage_perm hperm, sortedKeys_perm hperm, ← coverage_perm hchoice,
    ← sortedKeys_perm hchoice]
  exact hpreferred

theorem Optimal.unique {verified verified' best best' : List CandidateMatch}
    (h : Optimal verified best) (h' : Optimal verified' best') (hs : verified ⊆ verified')
    (hs' : verified' ⊆ verified) : sortedKeys best = sortedKeys best' := by
  obtain hlt | ⟨he, hle⟩ := h.least best' (List.Subset.trans h'.subset hs') h'.apart
  · obtain hlt' | ⟨he', _⟩ := h'.least best (List.Subset.trans h.subset hs) h.apart
    · omega
    · omega
  · obtain hlt' | ⟨_, hle'⟩ := h'.least best (List.Subset.trans h.subset hs) h.apart
    · omega
    · exact le_antisymm hle hle'

/-! ## The candidates of a plan -/

section
variable {ε : Type} (fingerprinter : SegmentFingerprinter) (lookup : RecordLookup ε)
  (cacheNamespace : CacheNamespace)

/-- The candidates that the lookup offers for the queries, in their order. -/
def seenCandidates : ℕ → List TokenSegment → Except ε (List CandidateMatch)
  | _, [] => .ok []
  | i, query::rest => do
    let queryFingerprint := fingerprinter cacheNamespace query.tokenIds
    let records ← lookup i cacheNamespace queryFingerprint
    let later ← seenCandidates (i+1) rest
    .ok (records.map (CandidateMatch.mk query queryFingerprint) ++ later)

def verifiedOf (seen : List CandidateMatch) : List CandidateMatch :=
  seen.filter (fun c => verifyCandidate fingerprinter cacheNamespace c = none)

def refusedOf (seen : List CandidateMatch) : List RejectedCandidate :=
  seen.filterMap (fun c => (verifyCandidate fingerprinter cacheNamespace c).map
    (RejectedCandidate.mk c))

theorem add_all (st : PlannerState) (seen : List CandidateMatch) :
    seen.foldl (PlannerState.add fingerprinter cacheNamespace) st =
      ⟨st.verified ++ verifiedOf fingerprinter cacheNamespace seen,
        st.rejected ++ refusedOf fingerprinter cacheNamespace seen⟩ := by
  induction seen generalizing st with
  | nil =>
    unfold verifiedOf refusedOf
    rw [List.filter_nil, List.filterMap_nil, List.append_nil, List.append_nil]
    rfl
  | cons c seen ih =>
    rw [List.foldl_cons, ih]
    unfold PlannerState.add verifiedOf refusedOf
    cases hv : verifyCandidate fingerprinter cacheNamespace c with
    | none =>
      rw [List.filter_cons_of_pos (by simp [hv]), List.filterMap_cons_none (by rw [hv]; rfl)]
      simp
    | some reason =>
      rw [List.filter_cons_of_neg (by simp [hv]),
        List.filterMap_cons_some (by rw [hv]; rfl)]
      simp

theorem resolveQueries_seen (queries : List TokenSegment) (i : ℕ) (st st' : PlannerState) :
    resolveQueries fingerprinter lookup cacheNamespace i st queries = .ok st' ↔
      ∃ seen, seenCandidates fingerprinter lookup cacheNamespace i queries = .ok seen ∧
        st' = seen.foldl (PlannerState.add fingerprinter cacheNamespace) st := by
  induction queries generalizing i st with
  | nil =>
    constructor
    · intro h
      cases h
      exact ⟨[], rfl, rfl⟩
    · rintro ⟨seen, h, rfl⟩
      cases h
      rfl
  | cons query rest ih =>
    constructor
    · intro h
      obtain ⟨records, hl, h⟩ := (checked_ok_iff _ _ _).mp h
      obtain ⟨later, hs, rfl⟩ := (ih (i+1) _).mp h
      refine ⟨records.map (CandidateMatch.mk query (fingerprinter cacheNamespace query.tokenIds)) ++
        later, ?_, ?_⟩
      · exact (checked_ok_iff _ _ _).mpr ⟨records, hl, (checked_ok_iff _ _ _).mpr ⟨later, hs, rfl⟩⟩
      · rw [List.foldl_append]
    · rintro ⟨seen, h, rfl⟩
      obtain ⟨records, hl, h⟩ := (checked_ok_iff _ _ _).mp h
      obtain ⟨later, hs, h⟩ := (checked_ok_iff _ _ _).mp h
      cases h
      refine (checked_ok_iff _ _ _).mpr ⟨records, hl, (ih (i+1) _).mpr ⟨later, hs, ?_⟩⟩
      rw [List.foldl_append]

def planOf (queries : List TokenSegment) (seen : List CandidateMatch) : MatchPlan where
  verifiedMatches := sortedBy (fun m => candidateSortKey m.candidate)
    ((selectedCandidates (verifiedOf fingerprinter cacheNamespace seen)).map VerifiedMatch.mk)
  rejectedCandidates := refusedOf fingerprinter cacheNamespace seen ++
    (unselectedCandidates (verifiedOf fingerprinter cacheNamespace seen)).map
      (fun c => ⟨c, .overlapsSelectedMatch⟩)
  requestedTokens := coveredTokenCount (queries.map TokenSegment.tokenRange)

theorem plan_ok_iff (queries : List TokenSegment) (p : MatchPlan) :
    plan fingerprinter lookup cacheNamespace queries = .ok p ↔
      ∃ seen, seenCandidates fingerprinter lookup cacheNamespace 0 queries = .ok seen ∧
        p = planOf fingerprinter cacheNamespace queries seen := by
  constructor
  · intro h
    obtain ⟨st, hr, h⟩ := (checked_ok_iff _ _ _).mp h
    obtain ⟨seen, hs, rfl⟩ := (resolveQueries_seen _ _ _ _ _ _ _).mp hr
    rw [add_all] at h
    cases h
    exact ⟨seen, hs, rfl⟩
  · rintro ⟨seen, hs, rfl⟩
    refine (checked_ok_iff _ _ _).mpr ⟨_, (resolveQueries_seen _ _ _ _ _ _ _).mpr
      ⟨seen, hs, rfl⟩, ?_⟩
    rw [add_all]
    rfl

end

/-! ## What a plan returns -/

def matchesOf (p : MatchPlan) : List CandidateMatch :=
  p.verifiedMatches.map VerifiedMatch.candidate

def rejectedOf (p : MatchPlan) : List CandidateMatch :=
  p.rejectedCandidates.map RejectedCandidate.candidate

/-- The checks of a candidate: the namespace, the recomputed fingerprint and the exact tokens. -/
structure Checked (fingerprinter : SegmentFingerprinter) (cacheNamespace : CacheNamespace)
    (c : CandidateMatch) : Prop where
  sameNamespace : c.record.cacheNamespace = cacheNamespace
  fingerprint : c.record.fingerprint = c.queryFingerprint
  recomputed : fingerprinter cacheNamespace c.record.tokenIds = c.record.fingerprint
  tokens : c.record.tokenIds = c.targetSegment.tokenIds

section
variable (fingerprinter : SegmentFingerprinter) (cacheNamespace : CacheNamespace)
  (queries : List TokenSegment) (seen : List CandidateMatch)

theorem verifyCandidate_none_iff (c : CandidateMatch) :
    verifyCandidate fingerprinter cacheNamespace c = none ↔
      Checked fingerprinter cacheNamespace c := by
  unfold verifyCandidate
  split_ifs with hn hf ht hr
  · simp only [false_iff]
    exact fun h => hn h.sameNamespace
  · simp only [false_iff]
    exact fun h => hf h.fingerprint
  · simp only [false_iff]
    exact fun h => ht h.tokens
  · simp only [false_iff]
    intro h
    rw [h.sameNamespace] at hr
    exact hr h.recomputed
  · simp only [true_iff]
    have hn' := not_not.mp hn
    refine ⟨hn', not_not.mp hf, ?_, not_not.mp ht⟩
    rw [← hn']
    exact not_not.mp hr

theorem mem_verifiedOf (c : CandidateMatch) :
    c ∈ verifiedOf fingerprinter cacheNamespace seen ↔
      c ∈ seen ∧ Checked fingerprinter cacheNamespace c := by
  unfold verifiedOf
  rw [List.mem_filter, decide_eq_true_eq, verifyCandidate_none_iff]

theorem matches_perm :
    (matchesOf (planOf fingerprinter cacheNamespace queries seen)).Perm
      (selectedCandidates (verifiedOf fingerprinter cacheNamespace seen)) := by
  have h := (sortedBy_perm (fun m : VerifiedMatch => candidateSortKey m.candidate)
    ((selectedCandidates (verifiedOf fingerprinter cacheNamespace seen)).map
      VerifiedMatch.mk)).map VerifiedMatch.candidate
  rw [List.map_map] at h
  exact h.trans (List.Perm.of_eq (List.map_id _))

theorem Optimal.perm {verified best best' : List CandidateMatch} (h : Optimal verified best)
    (hp : best'.Perm best) : Optimal verified best' where
  subset := fun _ hc => h.subset (hp.mem_iff.mp hc)
  apart := (hp.pairwise_iff fun h => apart_symm h).mpr h.apart
  least := fun cs hcs ha => by
    have hn := h.least cs hcs ha
    unfold NoBetter at hn ⊢
    rw [coverage_perm hp, sortedKeys_perm hp]
    exact hn

theorem matches_optimal : Optimal (verifiedOf fingerprinter cacheNamespace seen)
    (matchesOf (planOf fingerprinter cacheNamespace queries seen)) :=
  (selected_optimal _).perm (matches_perm fingerprinter cacheNamespace queries seen)

theorem matches_sorted : keys (matchesOf (planOf fingerprinter cacheNamespace queries seen)) =
    sortedKeys (matchesOf (planOf fingerprinter cacheNamespace queries seen)) := by
  symm
  apply sortedBy_eq_self
  have h := sortedBy_pairwise (fun m : VerifiedMatch => candidateSortKey m.candidate)
    ((selectedCandidates (verifiedOf fingerprinter cacheNamespace seen)).map VerifiedMatch.mk)
  unfold keys matchesOf
  rw [List.pairwise_map, List.pairwise_map]
  exact h

theorem split_selected (verified : List CandidateMatch) :
    (selectedCandidates verified ++ unselectedCandidates verified).Perm verified := by
  unfold selectedCandidates unselectedCandidates
  rw [← List.map_append]
  conv_rhs => rw [← List.zipIdx_map_fst 0 verified]
  apply List.Perm.map
  have hsplit := List.filter_append_perm (fun p : CandidateMatch × ℕ =>
    decide (p.2 ∈ selectNonOverlapping verified)) verified.zipIdx
  simpa using hsplit

theorem split_verified : (verifiedOf fingerprinter cacheNamespace seen ++
    (refusedOf fingerprinter cacheNamespace seen).map RejectedCandidate.candidate).Perm seen := by
  induction seen with
  | nil => exact List.Perm.refl _
  | cons c seen ih =>
    unfold verifiedOf refusedOf at ih ⊢
    cases hv : verifyCandidate fingerprinter cacheNamespace c with
    | none =>
      rw [List.filter_cons_of_pos (by simp [hv]), List.filterMap_cons_none (by rw [hv]; rfl)]
      exact ih.cons c
    | some reason =>
      rw [List.filter_cons_of_neg (by simp [hv]), List.filterMap_cons_some (by rw [hv]; rfl),
        List.map_cons]
      exact List.perm_middle.trans (ih.cons c)

theorem seen_accounted :
    (matchesOf (planOf fingerprinter cacheNamespace queries seen) ++
      rejectedOf (planOf fingerprinter cacheNamespace queries seen)).Perm seen := by
  have hunselected : ((unselectedCandidates (verifiedOf fingerprinter cacheNamespace seen)).map
      (fun c => RejectedCandidate.mk c .overlapsSelectedMatch)).map RejectedCandidate.candidate =
      unselectedCandidates (verifiedOf fingerprinter cacheNamespace seen) := by
    rw [List.map_map]
    exact List.map_id _
  unfold rejectedOf planOf
  rw [List.map_append, hunselected]
  apply ((matches_perm fingerprinter cacheNamespace queries seen).append_right _).trans
  apply (List.Perm.append_left _ List.perm_append_comm).trans
  rw [← List.append_assoc]
  exact ((split_selected _).append_right _).trans
    (split_verified fingerprinter cacheNamespace seen)

theorem rejected_reason {r : RejectedCandidate}
    (h : r ∈ (planOf fingerprinter cacheNamespace queries seen).rejectedCandidates) :
    verifyCandidate fingerprinter cacheNamespace r.candidate = some r.reason ∨
      r.reason = .overlapsSelectedMatch ∧
        Checked fingerprinter cacheNamespace r.candidate := by
  obtain h | h := List.mem_append.mp h
  · obtain ⟨c, _, hc⟩ := List.mem_filterMap.mp h
    obtain ⟨reason, hv, rfl⟩ := Option.map_eq_some_iff.mp hc
    exact .inl hv
  · obtain ⟨c, hc, rfl⟩ := List.mem_map.mp h
    exact .inr ⟨rfl, ((mem_verifiedOf _ _ _ _).mp (unselected_subset _ hc)).2⟩

end

/-! ## The order of the queries -/

section
variable (fingerprinter : SegmentFingerprinter) (cacheNamespace : CacheNamespace)

abbrev Records := CacheNamespace → SegmentFingerprint → List CacheRecord

/-- A lookup that answers a fingerprint in the same way at every query. -/
def steadyLookup (records : Records) : RecordLookup Empty := fun _ n fp => .ok (records n fp)

def offered (records : Records) (query : TokenSegment) : List CandidateMatch :=
  (records cacheNamespace (fingerprinter cacheNamespace query.tokenIds)).map
    (CandidateMatch.mk query (fingerprinter cacheNamespace query.tokenIds))

theorem seen_steady (records : Records) (i : ℕ) (queries : List TokenSegment) :
    seenCandidates fingerprinter (steadyLookup records) cacheNamespace i queries =
      .ok (queries.flatMap (offered fingerprinter cacheNamespace records)) := by
  induction queries generalizing i with
  | nil => rfl
  | cons query rest ih =>
    rw [List.flatMap_cons, seenCandidates, ih]
    rfl

theorem plan_steady (records : Records) (queries : List TokenSegment) :
    plan fingerprinter (steadyLookup records) cacheNamespace queries =
      .ok (planOf fingerprinter cacheNamespace queries
        (queries.flatMap (offered fingerprinter cacheNamespace records))) :=
  (plan_ok_iff _ _ _ _ _).mpr ⟨_, seen_steady fingerprinter cacheNamespace records 0 queries, rfl⟩

/-- No two verified candidates have one sort key. -/
def KeysApart (seen : List CandidateMatch) : Prop :=
  ∀ c ∈ seen, ∀ c' ∈ seen, Checked fingerprinter cacheNamespace c →
    Checked fingerprinter cacheNamespace c' → candidateSortKey c = candidateSortKey c' → c = c'

theorem record_ext {r r' : CacheRecord} (hn : r.cacheNamespace = r'.cacheNamespace)
    (hf : r.fingerprint = r'.fingerprint) (ht : r.tokenIds = r'.tokenIds)
    (hs : r.sourceRange = r'.sourceRange) (hk : r.cacheKey = r'.cacheKey) : r = r' := by
  obtain ⟨n, f, t, s, k, _, _, _⟩ := r
  obtain ⟨n', f', t', s', k', _, _, _⟩ := r'
  obtain rfl : n = n' := hn
  obtain rfl : f = f' := hf
  obtain rfl : t = t' := ht
  obtain rfl : s = s' := hs
  obtain rfl : k = k' := hk
  rfl

theorem KeysApart.perm {seen seen' : List CandidateMatch} (hp : seen.Perm seen')
    (h : KeysApart fingerprinter cacheNamespace seen) :
    KeysApart fingerprinter cacheNamespace seen' :=
  fun c hc c' hc' => h c (hp.mem_iff.mpr hc) c' (hp.mem_iff.mpr hc')

theorem keysApart_of_queries {records : Records} {queries : List TokenSegment}
    (h : ∀ q ∈ queries, ∀ q' ∈ queries, q.tokenRange = q'.tokenRange → q = q') :
    KeysApart fingerprinter cacheNamespace
      (queries.flatMap (offered fingerprinter cacheNamespace records)) := by
  have hoffered : ∀ c ∈ queries.flatMap (offered fingerprinter cacheNamespace records),
      c.targetSegment ∈ queries ∧
        c.queryFingerprint = fingerprinter cacheNamespace c.targetSegment.tokenIds := by
    intro c hc
    obtain ⟨q, hq, hc⟩ := List.mem_flatMap.mp hc
    obtain ⟨r, _, rfl⟩ := List.mem_map.mp hc
    exact ⟨hq, rfl⟩
  intro c hc c' hc' hv hv' he
  obtain ⟨hq, hf⟩ := hoffered c hc
  obtain ⟨hq', hf'⟩ := hoffered c' hc'
  obtain ⟨hstart, he⟩ := Prod.mk.inj (toLex_inj.mp he)
  obtain ⟨hstop, he⟩ := Prod.mk.inj (toLex_inj.mp he)
  obtain ⟨hkey, he⟩ := Prod.mk.inj (toLex_inj.mp he)
  obtain ⟨hs, hs'⟩ := Prod.mk.inj (toLex_inj.mp he)
  have htarget : c.targetSegment = c'.targetSegment :=
    h _ hq _ hq' ((TokenRange.ext_iff' _ _).mpr ⟨hstart, hstop⟩)
  have hsource : c.record.sourceRange = c'.record.sourceRange :=
    (TokenRange.ext_iff' _ _).mpr ⟨hs, hs'⟩
  have hquery : c.queryFingerprint = c'.queryFingerprint := by rw [hf, hf', htarget]
  have hrecord : c.record = c'.record := by
    apply record_ext (hv.sameNamespace.trans hv'.sameNamespace.symm) _ _ hsource hkey
    · rw [hv.fingerprint, hv'.fingerprint, hquery]
    · rw [hv.tokens, hv'.tokens, htarget]
  obtain ⟨target, query, record⟩ := c
  obtain ⟨target', query', record'⟩ := c'
  obtain rfl : target = target' := htarget
  obtain rfl : query = query' := hquery
  obtain rfl : record = record' := hrecord
  rfl

/-- What two plans for one collection of queries share. -/
structure Alike (p p' : MatchPlan) : Prop where
  requested : p.requestedTokens = p'.requestedTokens
  keys : keys (matchesOf p) = keys (matchesOf p')

section
variable {queries queries' : List TokenSegment} {seen seen' : List CandidateMatch}

theorem plans_alike (hq : queries.Perm queries') (hs : seen.Perm seen') :
    Alike (planOf fingerprinter cacheNamespace queries seen)
      (planOf fingerprinter cacheNamespace queries' seen') := by
  constructor
  · exact congrArg Nat.cast (coveredTokenCount_congr fun r => (hq.map _).mem_iff)
  · have hverified : ∀ c, c ∈ verifiedOf fingerprinter cacheNamespace seen ↔
        c ∈ verifiedOf fingerprinter cacheNamespace seen' := fun c => (hs.filter _).mem_iff
    rw [matches_sorted, matches_sorted]
    exact (matches_optimal fingerprinter cacheNamespace queries seen).unique
      (matches_optimal fingerprinter cacheNamespace queries' seen')
      (fun c hc => (hverified c).mp hc) fun c hc => (hverified c).mpr hc

theorem eq_of_keys {cs cs' : List CandidateMatch}
    (h : ∀ c ∈ cs, ∀ c' ∈ cs', candidateSortKey c = candidateSortKey c' → c = c')
    (hk : keys cs = keys cs') : cs = cs' := by
  induction cs generalizing cs' with
  | nil => exact (List.map_eq_nil_iff.mp hk.symm).symm
  | cons c cs ih =>
    cases cs' with
    | nil => cases hk
    | cons c' cs' =>
      obtain ⟨he, hrest⟩ := List.cons.inj hk
      rw [h c List.mem_cons_self c' List.mem_cons_self he,
        ih (fun a ha b hb => h a (List.mem_cons_of_mem _ ha) b (List.mem_cons_of_mem _ hb)) hrest]

theorem plans_equal (hq : queries.Perm queries') (hs : seen.Perm seen')
    (hk : KeysApart fingerprinter cacheNamespace seen) :
    (planOf fingerprinter cacheNamespace queries seen).verifiedMatches =
        (planOf fingerprinter cacheNamespace queries' seen').verifiedMatches ∧
      (planOf fingerprinter cacheNamespace queries seen).rejectedCandidates.Perm
        (planOf fingerprinter cacheNamespace queries' seen').rejectedCandidates := by
  have hverified := hs.filter (fun c => verifyCandidate fingerprinter cacheNamespace c = none)
  have hmatches : matchesOf (planOf fingerprinter cacheNamespace queries seen) =
      matchesOf (planOf fingerprinter cacheNamespace queries' seen') := by
    apply eq_of_keys _ (plans_alike fingerprinter cacheNamespace hq hs).keys
    intro c hc c' hc' he
    obtain ⟨hseen, hv⟩ := (mem_verifiedOf _ _ _ _).mp
      ((matches_optimal fingerprinter cacheNamespace queries seen).subset hc)
    obtain ⟨hseen', hv'⟩ := (mem_verifiedOf _ _ _ _).mp
      ((matches_optimal fingerprinter cacheNamespace queries' seen').subset hc')
    exact hk c hseen c' (hs.mem_iff.mpr hseen') hv hv' he
  constructor
  · have hinjective : Function.Injective VerifiedMatch.candidate := by
      rintro ⟨c⟩ ⟨c'⟩ rfl
      rfl
    exact List.map_injective_iff.mpr hinjective hmatches
  · have hselected : (selectedCandidates (verifiedOf fingerprinter cacheNamespace seen)).Perm
        (selectedCandidates (verifiedOf fingerprinter cacheNamespace seen')) :=
      (matches_perm fingerprinter cacheNamespace queries seen).symm.trans
        (hmatches ▸ matches_perm fingerprinter cacheNamespace queries' seen')
    have hunselected : (unselectedCandidates (verifiedOf fingerprinter cacheNamespace seen)).Perm
        (unselectedCandidates (verifiedOf fingerprinter cacheNamespace seen')) := by
      have h := (split_selected (verifiedOf fingerprinter cacheNamespace seen)).trans
        (hverified.trans (split_selected (verifiedOf fingerprinter cacheNamespace seen')).symm)
      exact (List.perm_append_left_iff _).mp
        (h.trans (hselected.symm.append_right _))
    exact (hs.filterMap _).append (hunselected.map _)

end

end

/-- The plan is optimal, accounts for every candidate once and counts the
positions of its queries. With a pure record lookup, the order of the queries
changes neither the keys of the matches nor the requested tokens, and where no
two verified candidates share a key, as with one query at most for a range,
neither the matches nor the rejected candidates. -/
theorem plan_optimal (fingerprinter : SegmentFingerprinter) (cacheNamespace : CacheNamespace)
    (queries : List TokenSegment) :
    (∀ (ε : Type) (lookup : RecordLookup ε) (p : MatchPlan),
      plan fingerprinter lookup cacheNamespace queries = .ok p →
      ∃ seen, seenCandidates fingerprinter lookup cacheNamespace 0 queries = .ok seen ∧
        Optimal (seen.filter fun c => verifyCandidate fingerprinter cacheNamespace c = none)
          (matchesOf p) ∧
        (∀ c ∈ matchesOf p, Checked fingerprinter cacheNamespace c) ∧
        keys (matchesOf p) = sortedKeys (matchesOf p) ∧
        (matchesOf p ++ rejectedOf p).Perm seen ∧
        (∀ r ∈ p.rejectedCandidates,
          verifyCandidate fingerprinter cacheNamespace r.candidate = some r.reason ∨
          r.reason = .overlapsSelectedMatch ∧
            Checked fingerprinter cacheNamespace r.candidate) ∧
        p.requestedTokens = (positionSet (queries.map TokenSegment.tokenRange)).card) ∧
    ∀ (records : Records) (queries' : List TokenSegment), queries.Perm queries' →
      ∃ p p', plan fingerprinter (steadyLookup records) cacheNamespace queries = .ok p ∧
        plan fingerprinter (steadyLookup records) cacheNamespace queries' = .ok p' ∧
        Alike p p' ∧
        ((∀ q ∈ queries, ∀ q' ∈ queries, q.tokenRange = q'.tokenRange → q = q') →
          KeysApart fingerprinter cacheNamespace (matchesOf p ++ rejectedOf p)) ∧
        (KeysApart fingerprinter cacheNamespace (matchesOf p ++ rejectedOf p) →
          p.verifiedMatches = p'.verifiedMatches ∧
          p.rejectedCandidates.Perm p'.rejectedCandidates) := by
  constructor
  · intro ε lookup p hp
    obtain ⟨seen, hs, rfl⟩ := (plan_ok_iff _ _ _ _ _).mp hp
    have hbest := matches_optimal fingerprinter cacheNamespace queries seen
    exact ⟨seen, hs, hbest, fun c hc => ((mem_verifiedOf _ _ _ _).mp (hbest.subset hc)).2,
      matches_sorted fingerprinter cacheNamespace queries seen,
      seen_accounted fingerprinter cacheNamespace queries seen,
      fun r hr => rejected_reason fingerprinter cacheNamespace queries seen hr,
      congrArg Nat.cast (coveredTokenCount_eq _)⟩
  · intro records queries' hq
    have hs := hq.flatMap_right (offered fingerprinter cacheNamespace records)
    have hseen := seen_accounted fingerprinter cacheNamespace queries
      (queries.flatMap (offered fingerprinter cacheNamespace records))
    exact ⟨_, _, plan_steady fingerprinter cacheNamespace records queries,
      plan_steady fingerprinter cacheNamespace records queries',
      plans_alike fingerprinter cacheNamespace hq hs,
      fun hone => (keysApart_of_queries fingerprinter cacheNamespace hone).perm _ _ hseen.symm,
      fun hk => plans_equal fingerprinter cacheNamespace hq hs (hk.perm _ _ hseen)⟩

/-! ## Two queries of one range -/

def sampleText : NamespaceText := ⟨"sample", by decide⟩

def sampleNamespace : CacheNamespace :=
  ⟨1, sampleText, sampleText, sampleText, sampleText, sampleText, sampleText, sampleText,
    sampleText, sampleText, sampleText, sampleText, first_positive⟩

def samplePrint (tokens : List TokenId) : SegmentFingerprint :=
  ⟨⟨UInt8.ofNat ((tokens.head?.map Fin.val).getD 0) :: List.replicate 31 0, by simp⟩⟩

def sampleRange : TokenRange := ⟨0, 1, first_ordered⟩

def sampleQuery (token : TokenId) : TokenSegment := ⟨sampleRange, [token], by simp, rfl⟩

def sampleRecord (token : TokenId) : CacheRecord :=
  ⟨sampleNamespace, samplePrint [token], [token], sampleRange, "sample", by simp, rfl, by decide⟩

def sampleRecords : Records := fun _ fingerprint =>
  ([sampleRecord 0, sampleRecord 1]).filter (fun r => r.fingerprint = fingerprint)

/-- Queries of one range with different tokens: the later of the two is matched. -/
theorem matches_ordered : ∃ (fingerprinter : SegmentFingerprinter) (records : Records)
    (cacheNamespace : CacheNamespace) (queries queries' : List TokenSegment),
    queries.Perm queries' ∧
      ∃ p p', plan fingerprinter (steadyLookup records) cacheNamespace queries = .ok p ∧
        plan fingerprinter (steadyLookup records) cacheNamespace queries' = .ok p' ∧
        p.verifiedMatches ≠ p'.verifiedMatches := by
  refine ⟨fun _ => samplePrint, sampleRecords, sampleNamespace, [sampleQuery 0, sampleQuery 1],
    [sampleQuery 1, sampleQuery 0], List.Perm.swap _ _ _, _, _, plan_steady _ _ _ _,
    plan_steady _ _ _ _, ?_⟩
  decide +kernel

end CacheBlend.MatchOptimality
