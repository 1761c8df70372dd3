import CacheBlend.CandidateVerdicts
import Mathlib.Algebra.Order.BigOperators.Group.List

/-!
# Plans of verified candidates

The loop over the candidates keeps a tally of what it has kept, rejected and
found. Interval scheduling then selects kept candidates that are pairwise
disjoint and of maximum coverage, so a plan always exists and accounts for
every raw candidate.
-/

set_option autoImplicit false

namespace CacheBlend.LookupPlans
open CacheBlend.PlannerModels CacheBlend.SegmentFingerprints CacheBlend.LmcacheTypes
open CacheBlend.CandidateLookup CacheBlend.CandidateVerdicts

/-! ## The loop over the candidates -/

section
variable (sha256 : Bytes → Digest) (records : Records) (prompt : List TokenId)
  (cacheNamespace : CacheNamespace)

structure Tally (seen : List LmcacheCandidate) (st : LookupState) : Prop where
  cache : ∀ fp bucket, st.bucketCache.get? fp = some bucket →
    bucket = sortedBy recordSortKey (records cacheNamespace fp)
  accounted : (st.potentials.map PotentialCandidate.candidate ++
    st.rejected.map (fun r => r.2.candidate)).Perm seen
  bound : ∀ p ∈ st.potentials, BoundTo sha256 records prompt cacheNamespace p.verified ∧
    Verifies sha256 records prompt cacheNamespace p.candidate
  refused : ∀ r ∈ st.rejected, LoopReason r.2.reason ∧
    ¬Verifies sha256 records prompt cacheNamespace r.2.candidate
  placed : ∀ p ∈ st.potentials, seen[p.rawIndex]? = some p.candidate
  found : st.foundRawIndexes.Sublist (List.range seen.length)
  kept_found : (st.potentials.map PotentialCandidate.rawIndex).Sublist st.foundRawIndexes

theorem tally_initial : Tally sha256 records prompt cacheNamespace [] .initial where
  cache _ _ h := nomatch h
  accounted := List.Perm.refl _
  bound _ h := nomatch h
  refused _ h := nomatch h
  placed _ h := nomatch h
  found := List.Sublist.refl _
  kept_found := List.Sublist.refl _

theorem placed_concat {seen : List LmcacheCandidate} {c c' : LmcacheCandidate} {i : ℕ}
    (h : seen[i]? = some c) : (seen ++ [c'])[i]? = some c := by
  have hi : i < seen.length := (List.getElem?_eq_some_iff.mp h).1
  rw [List.getElem?_append_left hi]
  exact h

theorem range_concat {found : List ℕ} {seen : List LmcacheCandidate} (c : LmcacheCandidate)
    (h : found.Sublist (List.range seen.length)) :
    found.Sublist (List.range (seen ++ [c]).length) ∧
      (found ++ [seen.length]).Sublist (List.range (seen ++ [c]).length) := by
  rw [List.length_append, List.length_singleton, List.range_succ]
  exact ⟨h.trans (List.sublist_append_left _ _), h.append (List.Sublist.refl _)⟩

theorem tally_reject {seen : List LmcacheCandidate} {st : LookupState} (c : LmcacheCandidate)
    (cache : BucketCache) (reason : RejectionReason) (found : Bool)
    (h : Tally sha256 records prompt cacheNamespace seen st)
    (hcache : ∀ fp bucket, cache.get? fp = some bucket →
      bucket = sortedBy recordSortKey (records cacheNamespace fp))
    (hr : LoopReason reason) (hv : ¬Verifies sha256 records prompt cacheNamespace c) :
    Tally sha256 records prompt cacheNamespace (seen ++ [c])
      (st.add seen.length c cache (.rejected reason found)) where
  cache := hcache
  accounted := by
    change (st.potentials.map _ ++ (st.rejected ++ [_]).map _).Perm _
    rw [List.map_append, ← List.append_assoc]
    exact h.accounted.append_right _
  bound := h.bound
  refused r hm := by
    obtain hm | hm := List.mem_append.mp hm
    · exact h.refused r hm
    · rw [List.mem_singleton.mp hm]
      exact ⟨hr, hv⟩
  placed p hp := placed_concat (h.placed p hp)
  found := by
    obtain ⟨hf, hf'⟩ := range_concat c h.found
    cases found
    · exact hf
    · exact hf'
  kept_found := by
    cases found
    · exact h.kept_found
    · exact h.kept_found.trans (List.sublist_append_left _ _)

theorem tally_keep {seen : List LmcacheCandidate} {st : LookupState} (c : LmcacheCandidate)
    (cache : BucketCache) (v : VerifiedLmcacheCandidate)
    (h : Tally sha256 records prompt cacheNamespace seen st)
    (hcache : ∀ fp bucket, cache.get? fp = some bucket →
      bucket = sortedBy recordSortKey (records cacheNamespace fp))
    (hc : v.candidate = c) (hb : BoundTo sha256 records prompt cacheNamespace v)
    (hv : Verifies sha256 records prompt cacheNamespace c) :
    Tally sha256 records prompt cacheNamespace (seen ++ [c])
      (st.add seen.length c cache (.verified v)) where
  cache := hcache
  accounted := by
    change ((st.potentials ++ [_]).map _ ++ st.rejected.map _).Perm _
    rw [List.map_append, List.append_assoc]
    refine (List.Perm.append_left _ List.perm_append_comm).trans ?_
    rw [← List.append_assoc]
    refine h.accounted.append ?_
    rw [← hc]
    exact List.Perm.refl _
  bound p hp := by
    obtain hp | hp := List.mem_append.mp hp
    · exact h.bound p hp
    · rw [List.mem_singleton.mp hp]
      exact ⟨hb, by rw [PotentialCandidate.candidate, hc]; exact hv⟩
  refused := h.refused
  placed p hp := by
    obtain hp | hp := List.mem_append.mp hp
    · exact placed_concat (h.placed p hp)
    · rw [List.mem_singleton.mp hp, PotentialCandidate.candidate, hc]
      simp
  found := (range_concat c h.found).2
  kept_found := by
    change ((st.potentials ++ [_]).map _).Sublist (st.foundRawIndexes ++ [_])
    rw [List.map_append]
    exact h.kept_found.append (List.Sublist.refl _)

theorem resolves_sorted (c : LmcacheCandidate) (segment : TokenSegment)
    (bucket : List CacheRecord) :
    Resolves sha256 cacheNamespace c segment (sortedBy recordSortKey bucket) ↔
      Resolves sha256 cacheNamespace c segment bucket := by
  simp only [Resolves, mem_sortedBy]

theorem cachedBucket_pure (rawIndex : ℕ) (fp : SegmentFingerprint) (cache : BucketCache)
    (h : ∀ fp bucket, cache.get? fp = some bucket →
      bucket = sortedBy recordSortKey (records cacheNamespace fp)) :
    ∃ cache', cachedBucket (pureLookup records) rawIndex cacheNamespace fp cache =
        .ok (sortedBy recordSortKey (records cacheNamespace fp), cache') ∧
      ∀ fp bucket, cache'.get? fp = some bucket →
        bucket = sortedBy recordSortKey (records cacheNamespace fp) := by
  unfold cachedBucket
  cases hg : cache.get? fp with
  | some bucket =>
    refine ⟨cache, ?_, h⟩
    rw [← h fp bucket hg]
  | none =>
    refine ⟨cache.set fp (sortedBy recordSortKey (records cacheNamespace fp)), rfl,
      fun fp' bucket hb => ?_⟩
    rw [Dict.get?_set] at hb
    split_ifs at hb with he
    · cases hb
      rw [he]
    · exact h fp' bucket hb

theorem considerCandidate_tally {seen : List LmcacheCandidate} {st : LookupState}
    (c : LmcacheCandidate) (hin : c.targetRange.stop ≤ prompt.length)
    (h : Tally sha256 records prompt cacheNamespace seen st) :
    ∃ st', considerCandidate sha256 (pureLookup records) prompt cacheNamespace seen.length c st =
        .ok st' ∧ Tally sha256 records prompt cacheNamespace (seen ++ [c]) st' := by
  unfold considerCandidate
  rw [dif_pos hin]
  by_cases hq : c.queryDigest = queryDigest sha256 prompt
  · rw [if_neg (not_not.mpr hq)]
    obtain ⟨cache, hbucket, hcache⟩ := cachedBucket_pure records cacheNamespace seen.length
      (fingerprint sha256 cacheNamespace (targetSegment prompt c hin).tokenIds)
      st.bucketCache h.cache
    have hverify : Verifies sha256 records prompt cacheNamespace c ↔
        Resolves sha256 cacheNamespace c (targetSegment prompt c hin)
          (sortedBy recordSortKey (records cacheNamespace
            (fingerprint sha256 cacheNamespace (targetSegment prompt c hin).tokenIds))) := by
      rw [resolves_sorted]
      exact ⟨fun ⟨_, _, hr⟩ => hr, fun hr => ⟨hin, hq, hr⟩⟩
    simp only [hbucket]
    obtain ⟨v, hj, hres, hc, hseg, hfp, hmem, hag⟩ | ⟨reason, found, hj, hr, hnot⟩ :=
      judge_cases sha256 cacheNamespace c (targetSegment prompt c hin) rfl
        (sortedBy recordSortKey (records cacheNamespace
          (fingerprint sha256 cacheNamespace (targetSegment prompt c hin).tokenIds)))
    · refine ⟨st.add seen.length c cache (.verified v), ?_,
        tally_keep sha256 records prompt cacheNamespace c cache v h hcache hc ?_
          (hverify.mpr hres)⟩
      · change (judge _ _ _ _ _ _ >>= _) = _
        rw [hj]
        rfl
      · subst hc
        exact ⟨hin, hseg, hfp, (mem_sortedBy _ _ _).mp hmem, hag⟩
    · refine ⟨st.add seen.length c cache (.rejected reason found), ?_,
        tally_reject sha256 records prompt cacheNamespace c cache reason found h hcache hr
          (fun hv => hnot (hverify.mp hv))⟩
      change (judge _ _ _ _ _ _ >>= _) = _
      rw [hj]
      rfl
  · rw [if_pos hq]
    exact ⟨_, rfl, tally_reject sha256 records prompt cacheNamespace c st.bucketCache
      .staleQuery false h h.cache (by unfold LoopReason; decide)
      (fun ⟨_, hq', _⟩ => hq hq')⟩

theorem considerAll_tally (rest seen : List LmcacheCandidate) (st : LookupState)
    (hin : ∀ c ∈ rest, c.targetRange.stop ≤ prompt.length)
    (h : Tally sha256 records prompt cacheNamespace seen st) :
    ∃ st', considerAll sha256 (pureLookup records) prompt cacheNamespace seen.length rest st =
        .ok st' ∧ Tally sha256 records prompt cacheNamespace (seen ++ rest) st' := by
  induction rest generalizing seen st with
  | nil => exact ⟨st, rfl, by rwa [List.append_nil]⟩
  | cons c rest ih =>
    obtain ⟨st₁, h₁, ht₁⟩ := considerCandidate_tally sha256 records prompt cacheNamespace c
      (hin c (by simp)) h
    obtain ⟨st₂, h₂, ht₂⟩ := ih (seen ++ [c]) st₁ (fun c' hc' => hin c' (by simp [hc'])) ht₁
    rw [List.length_append, List.length_singleton] at h₂
    refine ⟨st₂, ?_, by rwa [List.append_assoc] at ht₂⟩
    rw [considerAll, h₁]
    exact h₂

end

/-! ## The selection of disjoint candidates -/

def Disjoint (c c' : LmcacheCandidate) : Prop := ¬c.targetRange.Overlaps c'.targetRange

theorem disjoint_symm {c c' : LmcacheCandidate} (h : Disjoint c c') : Disjoint c' c :=
  fun ho => h ⟨ho.2, ho.1⟩

theorem not_disjoint_self (c : LmcacheCandidate) : ¬Disjoint c c := by
  have hp := c.target_nonempty
  unfold TokenRange.size at hp
  exact fun h => h ⟨by omega, by omega⟩

abbrev Indexed := PotentialCandidate × ℕ

def Indexed.candidate (p : Indexed) : LmcacheCandidate := p.1.candidate

def Apart (p q : Indexed) : Prop := Disjoint (Indexed.candidate p) (Indexed.candidate q)

def coverage (ps : List Indexed) : ℕ := tokenTotal (ps.map Indexed.candidate)

theorem solution_fields (ps : List Indexed) :
    (Scheduling.solution schedulingProblem ps).tokenCount = coverage ps ∧
      (Scheduling.solution schedulingProblem ps).potentialIndexes = ps.map Prod.snd := by
  induction ps using List.reverseRecOn with
  | nil => exact ⟨rfl, rfl⟩
  | append_singleton ps p ih =>
    rw [Scheduling.solution_concat]
    constructor
    · change (Scheduling.solution schedulingProblem ps).tokenCount + _ = _
      rw [ih.1]
      simp [coverage, tokenTotal, Indexed.candidate]
    · change (Scheduling.solution schedulingProblem ps).potentialIndexes ++ [_] = _
      rw [ih.2, List.map_append]
      rfl

theorem betterSolution_eq (s t : Solution) :
    betterSolution s t = s ∨ betterSolution s t = t := by
  unfold betterSolution
  split_ifs <;> simp

theorem betterSolution_count (s t : Solution) :
    s.tokenCount ≤ (betterSolution s t).tokenCount ∧
      t.tokenCount ≤ (betterSolution s t).tokenCount := by
  unfold betterSolution
  split_ifs with hne hgt hle
  · omega
  · omega
  · omega
  · omega

theorem ordered_sorted (potentials : List PotentialCandidate) :
    Scheduling.Ordered schedulingProblem (orderedPotentials potentials) := by
  refine (sortedBy_pairwise _ potentials.zipIdx).imp fun {p q} h => ?_
  obtain h | h := Prod.Lex.toLex_le_toLex.mp h
  · exact le_of_lt h
  · exact le_of_eq h.1

theorem ordered_perm (potentials : List PotentialCandidate) :
    (orderedPotentials potentials).Perm potentials.zipIdx :=
  sortedBy_perm _ _

theorem indexes_nodup (potentials : List PotentialCandidate) :
    (potentials.zipIdx.map Prod.snd).Nodup := by
  rw [List.zipIdx_map_snd]
  exact List.nodup_range'

theorem select_best (potentials : List PotentialCandidate) :
    ∃ chosen : List Indexed, chosen.Sublist (orderedPotentials potentials) ∧
      Scheduling.Compatible schedulingProblem chosen ∧
      selectNonOverlapping potentials = chosen.map Prod.snd ∧
      ∀ ps : List Indexed, ps.Sublist (orderedPotentials potentials) →
        Scheduling.Compatible schedulingProblem ps → coverage ps ≤ coverage chosen := by
  have hb := Scheduling.schedule_best schedulingProblem
    (fun s t => s.tokenCount ≤ t.tokenCount) (fun _ => le_refl _) betterSolution_eq
    (fun s t => (betterSolution_count s t).1) (fun s t => (betterSolution_count s t).2)
    (fun _ _ _ => le_trans) (fun _ _ _ h => Nat.add_le_add_right h _)
    (orderedPotentials potentials) (ordered_sorted potentials)
  obtain ⟨⟨chosen, hsub, hc, he⟩, hmax⟩ := hb
  refine ⟨chosen, hsub, hc, ?_, fun ps hps hpc => ?_⟩
  · unfold selectNonOverlapping
    rw [he, (solution_fields chosen).2]
  · have h := hmax ps hps hpc
    rw [he, (solution_fields ps).1, (solution_fields chosen).1] at h
    exact h

theorem tokenTotal_perm {cs cs' : List LmcacheCandidate} (h : cs.Perm cs') :
    tokenTotal cs = tokenTotal cs' :=
  (h.map _).sum_eq

theorem tokenTotal_append (cs cs' : List LmcacheCandidate) :
    tokenTotal (cs ++ cs') = tokenTotal cs+tokenTotal cs' := by
  simp [tokenTotal]

theorem tokenTotal_sublist {cs cs' : List LmcacheCandidate} (h : cs.Sublist cs') :
    tokenTotal cs ≤ tokenTotal cs' :=
  (h.map _).sum_le_sum (fun _ _ => Nat.zero_le _)

theorem compatible_apart (ps : List Indexed)
    (h : Scheduling.Compatible schedulingProblem ps) : ps.Pairwise Apart := by
  refine h.imp fun {p q} hpq ho => ?_
  have hlt := ho.2
  exact absurd hlt (not_lt.mpr hpq)

theorem apart_compatible (ps : List Indexed) (ho : Scheduling.Ordered schedulingProblem ps)
    (h : ps.Pairwise Apart) : Scheduling.Compatible schedulingProblem ps := by
  refine (ho.and h).imp fun {p q} hpq => ?_
  obtain ⟨hstop, hapart⟩ := hpq
  change (Indexed.candidate p).targetRange.stop ≤ (Indexed.candidate q).targetRange.stop at hstop
  change (Indexed.candidate p).targetRange.stop ≤ (Indexed.candidate q).targetRange.start
  have hp := (Indexed.candidate p).target_nonempty
  have hq := (Indexed.candidate q).target_nonempty
  unfold TokenRange.size at hp hq
  by_contra hlt
  exact hapart ⟨by omega, by omega⟩

theorem apart_nodup (ps : List Indexed) (h : ps.Pairwise Apart) : ps.Nodup := by
  change ps.Pairwise (· ≠ ·)
  refine h.imp fun {p q} hpq he => ?_
  subst he
  exact not_disjoint_self _ hpq

structure Selection (potentials : List PotentialCandidate)
    (selected unselected : List PotentialCandidate) : Prop where
  partition : (selected ++ unselected).Perm potentials
  sublist : selected.Sublist potentials
  apart : (selected.map PotentialCandidate.candidate).Pairwise Disjoint
  maximal : ∀ ps : List Indexed, (∀ p ∈ ps, p ∈ potentials.zipIdx) → ps.Pairwise Apart →
    coverage ps ≤ tokenTotal (selected.map PotentialCandidate.candidate)

theorem selection (potentials : List PotentialCandidate) :
    Selection potentials (selectedPotentials potentials) (unselectedPotentials potentials) := by
  obtain ⟨chosen, hsub, hc, hsel, hmax⟩ := select_best potentials
  have hmem : ∀ p ∈ chosen, p ∈ potentials.zipIdx :=
    fun p hp => (ordered_perm potentials).mem_iff.mp (hsub.subset hp)
  have hap := compatible_apart chosen hc
  have hfilter := Scheduling.filter_indexes_perm potentials.zipIdx chosen (indexes_nodup potentials)
    hmem (apart_nodup chosen hap)
  have hselected : ((selectedPotentials potentials).map PotentialCandidate.candidate).Perm
      (chosen.map Indexed.candidate) := by
    unfold selectedPotentials
    rw [hsel, List.map_map]
    exact hfilter.map Indexed.candidate
  have hfst : potentials.zipIdx.map Prod.fst = potentials := List.zipIdx_map_fst 0 potentials
  refine ⟨?_, ?_, ?_, ?_⟩
  · unfold selectedPotentials unselectedPotentials
    rw [← List.map_append]
    conv_rhs => rw [← hfst]
    refine List.Perm.map _ ?_
    have hsplit := List.filter_append_perm (fun p : PotentialCandidate × ℕ =>
      decide (p.2 ∈ selectNonOverlapping potentials)) potentials.zipIdx
    simpa using hsplit
  · unfold selectedPotentials
    conv_rhs => rw [← hfst]
    exact List.filter_sublist.map _
  · rw [hselected.pairwise_iff disjoint_symm, List.pairwise_map]
    exact hap
  · intro ps hps hpa
    have hn := apart_nodup ps hpa
    have hperm : ((orderedPotentials potentials).filter (fun p => p ∈ ps)).Perm ps := by
      have hi : (orderedPotentials potentials).Nodup :=
        (ordered_perm potentials).nodup_iff.mpr (indexes_nodup potentials).of_map
      rw [List.perm_ext_iff_of_nodup (hi.filter _) hn]
      intro p
      rw [List.mem_filter, decide_eq_true_eq]
      exact ⟨fun h => h.2, fun h => ⟨(ordered_perm potentials).mem_iff.mpr (hps p h), h⟩⟩
    have hapart : ((orderedPotentials potentials).filter (fun p => p ∈ ps)).Pairwise Apart :=
      (hperm.pairwise_iff (fun h => disjoint_symm h)).mpr hpa
    have hcover := hmax _ List.filter_sublist
      (apart_compatible _ ((ordered_sorted potentials).sublist List.filter_sublist) hapart)
    unfold coverage at hcover ⊢
    rw [tokenTotal_perm hselected, ← tokenTotal_perm (hperm.map Indexed.candidate)]
    exact hcover

/-! ## The accounting of a plan -/

section
variable (sha256 : Bytes → Digest) (records : Records) (prompt : List TokenId)
  (cacheNamespace : CacheNamespace)

theorem kept_tokens {seen : List LmcacheCandidate} (potentials : List PotentialCandidate)
    (h : ∀ p ∈ potentials, seen[p.rawIndex]? = some p.candidate) :
    (potentials.map PotentialCandidate.rawIndex).filterMap (seen[·]?) =
      potentials.map PotentialCandidate.candidate := by
  induction potentials with
  | nil => rfl
  | cons p potentials ih =>
    rw [List.map_cons, List.map_cons, List.filterMap_cons_some (h p (by simp)),
      ih (fun q hq => h q (by simp [hq]))]

theorem range_tokens (seen : List LmcacheCandidate) :
    (List.range seen.length).filterMap (seen[·]?) = seen := by
  apply List.ext_getElem?
  intro i
  induction seen using List.reverseRecOn generalizing i with
  | nil => rfl
  | append_singleton seen c ih =>
    rw [List.length_append, List.length_singleton, List.range_succ, List.filterMap_append]
    have hseen : (List.range seen.length).filterMap ((seen ++ [c])[·]?) =
        (List.range seen.length).filterMap (seen[·]?) := by
      apply List.filterMap_congr
      intro j hj
      exact List.getElem?_append_left (List.mem_range.mp hj)
    rw [hseen, List.ext_getElem? ih]
    simp

theorem sortVerified_perm (vs : List VerifiedLmcacheCandidate) : (sortVerified vs).Perm vs :=
  sortedBy_perm _ _

theorem sortRejected_perm (rejected : List (ℕ × RejectedLmcacheCandidate)) :
    (sortRejected rejected).Perm (rejected.map Prod.snd) :=
  (sortedBy_perm _ _).map _

/-- The candidates that a plan verifies, rejects and accounts for. -/
structure Concluded (candidates : List LmcacheCandidate) (st : LookupState)
    (p : LmcacheLookupPlan) : Prop where
  verified : p.verifiedCandidates =
    sortVerified ((selectedPotentials st.potentials).map PotentialCandidate.verified)
  rejected : p.rejectedCandidates = sortRejected (st.rejected ++
    (unselectedPotentials st.potentials).map
      (rejectUnselected (p.verifiedCandidates.map VerifiedLmcacheCandidate.candidate)))
  accounted : (p.verifiedCandidates.map VerifiedLmcacheCandidate.candidate ++
    p.rejectedCandidates.map RejectedLmcacheCandidate.candidate).Perm candidates

theorem concludePlan_returns (candidates : List LmcacheCandidate) (st : LookupState)
    (h : Tally sha256 records prompt cacheNamespace candidates st) :
    ∃ p, concludePlan candidates st = .ok p ∧ Concluded candidates st p := by
  have hs := selection st.potentials
  have hverified : ((sortVerified ((selectedPotentials st.potentials).map
      PotentialCandidate.verified)).map VerifiedLmcacheCandidate.candidate).Perm
        ((selectedPotentials st.potentials).map PotentialCandidate.candidate) := by
    have hp := (sortVerified_perm ((selectedPotentials st.potentials).map
      PotentialCandidate.verified)).map VerifiedLmcacheCandidate.candidate
    rwa [List.map_map] at hp
  have hrejected : ∀ selected : List LmcacheCandidate,
      ((sortRejected (st.rejected ++ (unselectedPotentials st.potentials).map
        (rejectUnselected selected))).map RejectedLmcacheCandidate.candidate).Perm
        (st.rejected.map (fun r => r.2.candidate) ++
          (unselectedPotentials st.potentials).map PotentialCandidate.candidate) := by
    intro selected
    have hp := (sortRejected_perm (st.rejected ++ (unselectedPotentials st.potentials).map
      (rejectUnselected selected))).map RejectedLmcacheCandidate.candidate
    rwa [List.map_map, List.map_append, List.map_map] at hp
  have haccounted : ∀ selected : List LmcacheCandidate,
      ((sortVerified ((selectedPotentials st.potentials).map
        PotentialCandidate.verified)).map VerifiedLmcacheCandidate.candidate ++
        (sortRejected (st.rejected ++ (unselectedPotentials st.potentials).map
          (rejectUnselected selected))).map RejectedLmcacheCandidate.candidate).Perm
            candidates := by
    intro selected
    refine (hverified.append (hrejected selected)).trans ?_
    refine (List.Perm.append_left _ List.perm_append_comm).trans ?_
    rw [← List.append_assoc, ← List.map_append]
    exact ((hs.partition.map _).append_right _).trans h.accounted
  unfold concludePlan
  dsimp only
  generalize hsel : (sortVerified ((selectedPotentials st.potentials).map
    PotentialCandidate.verified)).map VerifiedLmcacheCandidate.candidate = selected
  have hacc := haccounted selected
  have hlen := hacc.length_eq
  have htok := tokenTotal_perm hacc
  rw [tokenTotal_append] at htok
  rw [List.length_append, List.length_map, List.length_map] at hlen
  have hfoundLength : st.foundRawIndexes.length ≤ candidates.length := by
    have hle := h.found.length_le
    rwa [List.length_range] at hle
  have hfoundTokens : tokenTotal (st.foundRawIndexes.filterMap (candidates[·]?)) ≤
      tokenTotal candidates := by
    have hsub := h.found.filterMap (candidates[·]?)
    rw [range_tokens] at hsub
    exact tokenTotal_sublist hsub
  have hkeptLength : (sortVerified ((selectedPotentials st.potentials).map
      PotentialCandidate.verified)).length ≤ st.foundRawIndexes.length := by
    have h1 := (sortVerified_perm ((selectedPotentials st.potentials).map
      PotentialCandidate.verified)).length_eq
    have h2 := hs.sublist.length_le
    have h3 := h.kept_found.length_le
    rw [List.length_map] at h1 h3
    omega
  have hkeptTokens : tokenTotal selected ≤
      tokenTotal (st.foundRawIndexes.filterMap (candidates[·]?)) := by
    have hsub := h.kept_found.filterMap (candidates[·]?)
    rw [kept_tokens st.potentials h.placed] at hsub
    rw [← hsel, tokenTotal_perm hverified]
    exact le_trans (tokenTotal_sublist (hs.sublist.map _)) (tokenTotal_sublist hsub)
  rw [hsel] at htok
  rw [dif_pos ⟨hlen.symm, htok.symm, hfoundLength, hfoundTokens, hkeptLength, hkeptTokens⟩]
  exact ⟨_, rfl, rfl, by rw [hsel], by rw [hsel]; exact hsel ▸ hacc⟩

/-- What holds of the plan of a pure record lookup. -/
structure PlanFacts (candidates : List LmcacheCandidate) (p : LmcacheLookupPlan) : Prop where
  bound : ∀ v ∈ p.verifiedCandidates, v.candidate ∈ candidates ∧
    BoundTo sha256 records prompt cacheNamespace v ∧
    Verifies sha256 records prompt cacheNamespace v.candidate
  disjoint : (p.verifiedCandidates.map VerifiedLmcacheCandidate.candidate).Pairwise Disjoint
  maximal : ∀ cs : List LmcacheCandidate,
    (∀ c ∈ cs, c ∈ candidates ∧ Verifies sha256 records prompt cacheNamespace c) →
    cs.Pairwise Disjoint → tokenTotal cs ≤
      tokenTotal (p.verifiedCandidates.map VerifiedLmcacheCandidate.candidate)
  accounted : (p.verifiedCandidates.map VerifiedLmcacheCandidate.candidate ++
    p.rejectedCandidates.map RejectedLmcacheCandidate.candidate).Perm candidates
  reasons : ∀ r ∈ p.rejectedCandidates,
    (LoopReason r.reason ∧ ¬Verifies sha256 records prompt cacheNamespace r.candidate) ∨
      (Verifies sha256 records prompt cacheNamespace r.candidate ∧
        r.reason = if r.candidate ∈
          p.verifiedCandidates.map VerifiedLmcacheCandidate.candidate
          then .duplicateCandidate else .overlapsSelectedCandidate)

theorem exists_indexed (potentials : List PotentialCandidate) (cs : List LmcacheCandidate)
    (h : ∀ c ∈ cs, ∃ p ∈ potentials, p.candidate = c) :
    ∃ ps : List Indexed, ps.map Indexed.candidate = cs ∧ ∀ p ∈ ps, p ∈ potentials.zipIdx := by
  induction cs with
  | nil => exact ⟨[], rfl, fun p hp => nomatch hp⟩
  | cons c cs ih =>
    obtain ⟨ps, hps, hmem⟩ := ih (fun c' hc' => h c' (by simp [hc']))
    obtain ⟨p, hp, hc⟩ := h c (by simp)
    rw [← List.zipIdx_map_fst 0 potentials] at hp
    obtain ⟨q, hq, rfl⟩ := List.mem_map.mp hp
    refine ⟨q::ps, ?_, fun q' hq' => ?_⟩
    · rw [List.map_cons, hps]
      exact congrArg (· :: cs) hc
    · obtain rfl | hq' := List.mem_cons.mp hq'
      · exact hq
      · exact hmem q' hq'

theorem tally_complete {candidates : List LmcacheCandidate} {st : LookupState}
    (h : Tally sha256 records prompt cacheNamespace candidates st) (c : LmcacheCandidate)
    (hc : c ∈ candidates) (hv : Verifies sha256 records prompt cacheNamespace c) :
    ∃ p ∈ st.potentials, p.candidate = c := by
  have hm := h.accounted.mem_iff.mpr hc
  obtain hm | hm := List.mem_append.mp hm
  · exact List.mem_map.mp hm
  · obtain ⟨r, hr, rfl⟩ := List.mem_map.mp hm
    exact absurd hv (h.refused r hr).2

theorem concluded_facts {candidates : List LmcacheCandidate} {st : LookupState}
    {p : LmcacheLookupPlan} (h : Tally sha256 records prompt cacheNamespace candidates st)
    (hp : Concluded candidates st p) :
    PlanFacts sha256 records prompt cacheNamespace candidates p := by
  have hs := selection st.potentials
  have hperm : p.verifiedCandidates.Perm
      ((selectedPotentials st.potentials).map PotentialCandidate.verified) := by
    rw [hp.verified]
    exact sortVerified_perm _
  have hcandidates : (p.verifiedCandidates.map VerifiedLmcacheCandidate.candidate).Perm
      ((selectedPotentials st.potentials).map PotentialCandidate.candidate) := by
    have hm := hperm.map VerifiedLmcacheCandidate.candidate
    rwa [List.map_map] at hm
  have hseen : ∀ q ∈ st.potentials, q.candidate ∈ candidates :=
    fun q hq => h.accounted.mem_iff.mp
      (List.mem_append_left _ (List.mem_map.mpr ⟨q, hq, rfl⟩))
  refine ⟨fun v hv => ?_, ?_, fun cs hcs hd => ?_, hp.accounted, fun r hr => ?_⟩
  · obtain ⟨q, hq, rfl⟩ := List.mem_map.mp (hperm.mem_iff.mp hv)
    have hq := hs.sublist.subset hq
    exact ⟨hseen q hq, h.bound q hq⟩
  · exact (hcandidates.pairwise_iff disjoint_symm).mpr hs.apart
  · obtain ⟨ps, rfl, hmem⟩ := exists_indexed st.potentials cs fun c hc =>
      tally_complete sha256 records prompt cacheNamespace h c (hcs c hc).1 (hcs c hc).2
    rw [tokenTotal_perm hcandidates]
    rw [List.pairwise_map] at hd
    exact hs.maximal ps hmem hd
  · rw [hp.rejected] at hr
    obtain ⟨x, hx, rfl⟩ := List.mem_map.mp ((sortRejected_perm _).mem_iff.mp hr)
    obtain hx | hx := List.mem_append.mp hx
    · exact Or.inl (h.refused x hx)
    · obtain ⟨q, hq, rfl⟩ := List.mem_map.mp hx
      have hqm : q ∈ st.potentials :=
        hs.partition.mem_iff.mp (List.mem_append_right _ hq)
      exact Or.inr ⟨(h.bound q hqm).2, rfl⟩

theorem plan_concluded (candidates : List LmcacheCandidate)
    (hin : ∀ c ∈ candidates, c.targetRange.stop ≤ prompt.length) :
    ∃ st p, plan sha256 (pureLookup records) (prompt.map (fun t => (t.val : ℤ))) cacheNamespace
        candidates = .ok p ∧
      Tally sha256 records prompt cacheNamespace candidates st ∧ Concluded candidates st p := by
  obtain ⟨st, hst, ht⟩ := considerAll_tally sha256 records prompt cacheNamespace candidates []
    .initial hin (tally_initial sha256 records prompt cacheNamespace)
  obtain ⟨p, hp, hc⟩ := concludePlan_returns sha256 records prompt cacheNamespace candidates
    st ht
  refine ⟨st, p, ?_, ht, hc⟩
  unfold plan
  rw [normalizeTokenIds_val]
  change (considerAll _ _ _ _ 0 _ _ >>= _) = _
  rw [List.length_nil] at hst
  rw [hst]
  exact hp

/-- With a pure record lookup and candidates within the prompt, a plan is
returned. Its verified candidates are bound to agreeing records, are pairwise
disjoint and of maximum coverage, and every raw candidate is accounted for. -/
theorem plan_verifies_maximum_coverage (candidates : List LmcacheCandidate)
    (hin : ∀ c ∈ candidates, c.targetRange.stop ≤ prompt.length) :
    ∃ p, plan sha256 (pureLookup records) (prompt.map (fun t => (t.val : ℤ))) cacheNamespace
        candidates = .ok p ∧
      PlanFacts sha256 records prompt cacheNamespace candidates p := by
  obtain ⟨st, p, hp, ht, hc⟩ := plan_concluded sha256 records prompt cacheNamespace candidates hin
  exact ⟨p, hp, concluded_facts sha256 records prompt cacheNamespace ht hc⟩

end

def exampleText : NamespaceText := ⟨"x", by decide⟩

def exampleNamespace : CacheNamespace :=
  ⟨1, exampleText, exampleText, exampleText, exampleText, exampleText, exampleText,
    exampleText, exampleText, exampleText, exampleText, exampleText, first_positive⟩

def zeroDigest : Digest := ⟨List.replicate 32 0, List.length_replicate⟩

def oneDigest : Digest := ⟨List.replicate 32 1, List.length_replicate⟩

def oneToken : TokenRange := ⟨0, 1, first_ordered⟩

def exampleCandidate : LmcacheCandidate :=
  ⟨oneToken, oneToken, zeroDigest, exampleText, zeroDigest, Nat.one_pos, rfl⟩

def exampleRecord : CacheRecord :=
  ⟨exampleNamespace, ⟨zeroDigest⟩, [0], oneToken, exampleCandidate.cacheKey, by simp, rfl,
    by decide⟩

theorem firstChunk_ordered : 0 ≤ 256 := Nat.zero_le 256

theorem laterChunk_ordered : 16 ≤ 272 := by decide

theorem chunk_positive : 0 < 256 := by decide

def firstChunk : TokenRange := ⟨0, 256, firstChunk_ordered⟩

def laterChunk : TokenRange := ⟨16, 272, laterChunk_ordered⟩

def zeroCandidate : LmcacheCandidate :=
  ⟨firstChunk, firstChunk, zeroDigest, exampleText, zeroDigest, chunk_positive, rfl⟩

theorem zeroes_nonempty : List.replicate 256 (0 : TokenId) ≠ [] := nofun

def zeroRecord : CacheRecord :=
  ⟨exampleNamespace, ⟨zeroDigest⟩, List.replicate 256 0, firstChunk, zeroCandidate.cacheKey,
    zeroes_nonempty, List.length_replicate.symm, by decide⟩

def overlappingCandidate : LmcacheCandidate :=
  ⟨firstChunk, laterChunk, zeroDigest, exampleText, zeroDigest, chunk_positive, rfl⟩

def strangeCandidate : LmcacheCandidate :=
  ⟨firstChunk, firstChunk, oneDigest, exampleText, zeroDigest, chunk_positive, rfl⟩

def zeroCandidates : List LmcacheCandidate :=
  [overlappingCandidate, zeroCandidate, strangeCandidate]

/-- Of three candidates for a prompt of zeros one is verified and two are rejected. -/
theorem overlapping_candidates_planned : ∃ p, plan (fun _ => zeroDigest)
    (pureLookup fun _ _ => [zeroRecord])
      ((List.replicate 272 (0 : TokenId)).map (fun t => (t.val : ℤ))) exampleNamespace
      zeroCandidates = .ok p ∧
    p.verifiedCandidates.map VerifiedLmcacheCandidate.candidate = [zeroCandidate] ∧
    p.rejectedCandidates = [⟨strangeCandidate, .cacheKeyMismatch⟩,
      ⟨overlappingCandidate, .overlapsSelectedCandidate⟩] ∧
    PlanFacts (fun _ => zeroDigest) (fun _ _ => [zeroRecord]) (List.replicate 272 0)
      exampleNamespace zeroCandidates p := by
  obtain ⟨p, hp, hfacts⟩ := plan_verifies_maximum_coverage (fun _ => zeroDigest)
    (fun _ _ => [zeroRecord]) (List.replicate 272 0) exampleNamespace zeroCandidates
    (by rw [List.length_replicate]; decide)
  have hrun : (plan (fun _ => zeroDigest) (pureLookup fun _ _ => [zeroRecord])
      ((List.replicate 272 (0 : TokenId)).map (fun t => (t.val : ℤ))) exampleNamespace
      zeroCandidates).toOption.map (fun p =>
        (p.verifiedCandidates.map VerifiedLmcacheCandidate.candidate, p.rejectedCandidates)) =
      some ([zeroCandidate], [⟨strangeCandidate, .cacheKeyMismatch⟩,
        ⟨overlappingCandidate, .overlapsSelectedCandidate⟩]) := by
    decide +kernel
  rw [hp] at hrun
  obtain ⟨hverified, hrejected⟩ := Prod.mk.inj (Option.some.inj hrun)
  exact ⟨p, hp, hverified, hrejected, hfacts⟩

end CacheBlend.LookupPlans
