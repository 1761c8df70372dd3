import CacheBlend.LookupPlans
import Mathlib.Data.List.Pairwise

/-!
# Lookup planning does not depend on the order of the candidates

A lookup that answers by namespace and fingerprint alone decides every
candidate by itself, whatever was looked up before. The raw index is the last
part of a tie-break key, so it orders equal candidates only, and these are
interchangeable: the schedules of two permutations correspond position by
position, and the plans of the permutations are equal.
-/

set_option autoImplicit false

namespace CacheBlend.OrderIndependence
open CacheBlend.PlannerModels CacheBlend.SegmentFingerprints CacheBlend.LmcacheTypes
open CacheBlend.CandidateLookup CacheBlend.CandidateVerdicts CacheBlend.LookupPlans

/-- What a record lookup answers or raises for a namespace and a fingerprint. -/
abbrev Answers := CacheNamespace → SegmentFingerprint →
  Except LookupException (List CacheRecord)

def answering (answers : Answers) : RecordLookup := fun _ n fp => answers n fp

/-! ## The verdict on one candidate -/

section
variable (sha256 : Bytes → Digest) (answers : Answers) (prompt : List TokenId)
  (cacheNamespace : CacheNamespace)

/-- The outcome for a candidate whose bucket was not read before. -/
def judgeAlone (c : LmcacheCandidate) : Except LmcacheLookupError Verdict :=
  if h : c.targetRange.stop ≤ prompt.length then
    if c.queryDigest ≠ queryDigest sha256 prompt then .ok (.rejected .staleQuery false)
    else do
      let fp := fingerprint sha256 cacheNamespace (targetSegment prompt c h).tokenIds
      let bucket ← lookupBucket (answering answers) 0 cacheNamespace fp
      judge sha256 cacheNamespace c (targetSegment prompt c h) fp bucket
  else .error ⟨.targetRangeOutOfBounds, none⟩

def verdictOf (c : LmcacheCandidate) : Verdict :=
  match judgeAlone sha256 answers prompt cacheNamespace c with
  | .ok verdict => verdict
  | .error _ => .rejected .staleQuery false

/-- Cached buckets are what the lookup answers. -/
def Faithful (cache : BucketCache) : Prop := ∀ fp bucket, cache.get? fp = some bucket →
  lookupBucket (answering answers) 0 cacheNamespace fp = .ok bucket

theorem cachedBucket_faithful (rawIndex : ℕ) (fp : SegmentFingerprint) (cache : BucketCache)
    (h : Faithful answers cacheNamespace cache) :
    (∃ bucket cache', lookupBucket (answering answers) 0 cacheNamespace fp = .ok bucket ∧
      cachedBucket (answering answers) rawIndex cacheNamespace fp cache = .ok (bucket, cache') ∧
      Faithful answers cacheNamespace cache') ∨
    ∃ e, lookupBucket (answering answers) 0 cacheNamespace fp = .error e ∧
      cachedBucket (answering answers) rawIndex cacheNamespace fp cache = .error e := by
  unfold cachedBucket
  cases hg : cache.get? fp with
  | some bucket => exact Or.inl ⟨bucket, cache, h fp bucket hg, rfl, h⟩
  | none =>
    change (∃ bucket cache', _ ∧ (lookupBucket (answering answers) 0 cacheNamespace fp >>= _) =
      _ ∧ _) ∨ ∃ e, _ ∧ (lookupBucket (answering answers) 0 cacheNamespace fp >>= _) = _
    cases hl : lookupBucket (answering answers) 0 cacheNamespace fp with
    | error e => exact Or.inr ⟨e, rfl, rfl⟩
    | ok bucket =>
      refine Or.inl ⟨bucket, cache.set fp bucket, rfl, rfl, fun fp' bucket' hb => ?_⟩
      rw [Dict.get?_set] at hb
      split_ifs at hb with he
      · cases hb
        rw [he, hl]
      · exact h fp' bucket' hb

theorem considerCandidate_alone (rawIndex : ℕ) (c : LmcacheCandidate) (st : LookupState)
    (h : Faithful answers cacheNamespace st.bucketCache) :
    (∃ verdict cache, judgeAlone sha256 answers prompt cacheNamespace c = .ok verdict ∧
      considerCandidate sha256 (answering answers) prompt cacheNamespace rawIndex c st =
        .ok (st.add rawIndex c cache verdict) ∧ Faithful answers cacheNamespace cache) ∨
    ∃ e, judgeAlone sha256 answers prompt cacheNamespace c = .error e ∧
      considerCandidate sha256 (answering answers) prompt cacheNamespace rawIndex c st =
        .error e := by
  unfold judgeAlone considerCandidate
  by_cases hin : c.targetRange.stop ≤ prompt.length
  · rw [dif_pos hin, dif_pos hin]
    by_cases hq : c.queryDigest ≠ queryDigest sha256 prompt
    · rw [if_pos hq, if_pos hq]
      exact Or.inl ⟨_, _, rfl, rfl, h⟩
    · rw [if_neg hq, if_neg hq]
      dsimp only
      obtain ⟨bucket, cache, hl, hc, hf⟩ | ⟨e, hl, hc⟩ := cachedBucket_faithful answers
        cacheNamespace rawIndex
        (fingerprint sha256 cacheNamespace (targetSegment prompt c hin).tokenIds)
        st.bucketCache h
      · rw [hl, hc]
        change (∃ verdict cache, judge _ _ _ _ _ bucket = _ ∧
          (judge _ _ _ _ _ bucket >>= _) = _ ∧ _) ∨
          ∃ e, judge _ _ _ _ _ bucket = _ ∧ (judge _ _ _ _ _ bucket >>= _) = _
        cases hj : judge sha256 cacheNamespace c (targetSegment prompt c hin)
          (fingerprint sha256 cacheNamespace (targetSegment prompt c hin).tokenIds) bucket with
        | error e => exact Or.inr ⟨e, rfl, rfl⟩
        | ok verdict => exact Or.inl ⟨verdict, cache, rfl, rfl, hf⟩
      · rw [hl, hc]
        exact Or.inr ⟨e, rfl, rfl⟩
  · rw [dif_neg hin, dif_neg hin]
    exact Or.inr ⟨_, rfl, rfl⟩

end

/-! ## The loop in closed form -/

section
variable (verdict : LmcacheCandidate → Verdict)

def keptOf (p : LmcacheCandidate × ℕ) : Option PotentialCandidate :=
  match verdict p.1 with
  | .verified v => some ⟨p.2, v⟩
  | .rejected _ _ => none

def refusedOf (c : LmcacheCandidate) : Option RejectedLmcacheCandidate :=
  match verdict c with
  | .verified _ => none
  | .rejected reason _ => some ⟨c, reason⟩

def isFound (c : LmcacheCandidate) : Bool :=
  match verdict c with
  | .verified _ => true
  | .rejected _ found => found

/-- The state after the candidates, numbered from `i`, without the cache. -/
def settled (i : ℕ) (cs : List LmcacheCandidate) (st : LookupState) : LookupState where
  bucketCache := st.bucketCache
  potentials := st.potentials ++ (cs.zipIdx i).filterMap (keptOf verdict)
  rejected := st.rejected ++ (cs.zipIdx i).filterMap (fun p =>
    (refusedOf verdict p.1).map (fun r => (p.2, r)))
  foundRawIndexes := st.foundRawIndexes ++
    ((cs.zipIdx i).filter (fun p => isFound verdict p.1)).map Prod.snd

theorem settled_cons (i : ℕ) (c : LmcacheCandidate) (cs : List LmcacheCandidate)
    (st : LookupState) (cache : BucketCache) :
    settled verdict (i+1) cs (st.add i c cache (verdict c)) =
      { settled verdict i (c::cs) st with bucketCache := cache } := by
  unfold settled
  cases hv : verdict c with
  | verified v =>
    simp [LookupState.add, List.zipIdx_cons, keptOf, refusedOf, isFound, hv]
  | rejected reason found =>
    cases found with
    | true => simp [LookupState.add, List.zipIdx_cons, keptOf, refusedOf, isFound, hv]
    | false => simp [LookupState.add, List.zipIdx_cons, keptOf, refusedOf, isFound, hv]

end

section
variable (sha256 : Bytes → Digest) (answers : Answers) (prompt : List TokenId)
  (cacheNamespace : CacheNamespace)

theorem considerAll_alone (i : ℕ) (cs : List LmcacheCandidate) (st : LookupState)
    (h : Faithful answers cacheNamespace st.bucketCache) :
    (∃ cache, (∀ c ∈ cs, ∃ verdict,
        judgeAlone sha256 answers prompt cacheNamespace c = .ok verdict) ∧
      considerAll sha256 (answering answers) prompt cacheNamespace i cs st =
        .ok { settled (verdictOf sha256 answers prompt cacheNamespace) i cs st with
          bucketCache := cache }) ∨
    ∃ e, (∃ c ∈ cs, judgeAlone sha256 answers prompt cacheNamespace c = .error e) ∧
      considerAll sha256 (answering answers) prompt cacheNamespace i cs st = .error e := by
  induction cs generalizing i st with
  | nil =>
    refine Or.inl ⟨st.bucketCache, ⟨fun c hc => absurd hc List.not_mem_nil, ?_⟩⟩
    simp [considerAll, settled]
  | cons c cs ih =>
    obtain ⟨verdict, cache, hj, hc, hf⟩ | ⟨e, hj, hc⟩ :=
      considerCandidate_alone sha256 answers prompt cacheNamespace i c st h
    · have hverdict : verdictOf sha256 answers prompt cacheNamespace c = verdict := by
        rw [verdictOf, hj]
      have hstep := settled_cons (verdictOf sha256 answers prompt cacheNamespace) i c cs st cache
      rw [hverdict] at hstep
      rw [considerAll, hc]
      obtain ⟨cache', hall, hrest⟩ | ⟨e, ⟨c', hm, he⟩, hrest⟩ :=
        ih (i+1) (st.add i c cache verdict) (by cases verdict <;> exact hf)
      · refine Or.inl ⟨cache', ?_, ?_⟩
        · intro c' hm
          obtain rfl | hm := List.mem_cons.mp hm
          · exact ⟨verdict, hj⟩
          · exact hall c' hm
        · rw [hstep] at hrest
          exact hrest
      · exact Or.inr ⟨e, ⟨c', List.mem_cons_of_mem c hm, he⟩, hrest⟩
    · rw [considerAll, hc]
      exact Or.inr ⟨e, ⟨c, List.mem_cons_self, hj⟩, rfl⟩

theorem plan_alone_iff (promptTokenIds : List ℤ)
    (hn : normalizeTokenIds promptTokenIds = .ok prompt) (cs : List LmcacheCandidate)
    (p : LmcacheLookupPlan) :
    plan sha256 (answering answers) promptTokenIds cacheNamespace cs = .ok p ↔
      (∀ c ∈ cs, ∃ verdict, judgeAlone sha256 answers prompt cacheNamespace c = .ok verdict) ∧
      concludePlan cs (settled (verdictOf sha256 answers prompt cacheNamespace) 0 cs .initial) =
        .ok p := by
  have hempty : Faithful answers cacheNamespace LookupState.initial.bucketCache :=
    fun _ _ h => nomatch h
  unfold plan
  rw [hn]
  change (considerAll _ _ _ _ 0 cs .initial >>= _) = _ ↔ _
  obtain ⟨cache, hall, hc⟩ | ⟨e, ⟨c, hm, he⟩, hc⟩ :=
    considerAll_alone sha256 answers prompt cacheNamespace 0 cs .initial hempty
  · rw [hc]
    exact ⟨fun h => ⟨hall, h⟩, fun h => h.2⟩
  · rw [hc]
    constructor
    · intro h
      cases h
    · intro h
      obtain ⟨verdict, hv⟩ := h.1 c hm
      rw [he] at hv
      cases hv

end

/-! ## What a permutation keeps -/

section
variable (verdict : LmcacheCandidate → Verdict)

/-- A verdict that keeps a candidate is about this candidate. -/
def Own : Prop := ∀ c v, verdict c = .verified v → v.candidate = c

theorem kept_verdict {cs : List LmcacheCandidate} {p : PotentialCandidate}
    (ho : Own verdict) (h : p ∈ cs.zipIdx.filterMap (keptOf verdict)) :
    verdict p.candidate = .verified p.verified := by
  obtain ⟨q, _, hq⟩ := List.mem_filterMap.mp h
  unfold keptOf at hq
  cases hv : verdict q.1 with
  | verified v =>
    rw [hv] at hq
    cases hq
    change verdict v.candidate = _
    rw [ho q.1 v hv, hv]
  | rejected reason found =>
    rw [hv] at hq
    cases hq

theorem kept_candidates (ho : Own verdict) (i : ℕ) (cs : List LmcacheCandidate) :
    ((cs.zipIdx i).filterMap (keptOf verdict)).map PotentialCandidate.candidate =
      cs.filter (fun c => (refusedOf verdict c).isNone) := by
  induction cs generalizing i with
  | nil => rfl
  | cons c cs ih =>
    rw [List.zipIdx_cons]
    cases hv : verdict c with
    | verified v =>
      have hc := ho c v hv
      rw [List.filterMap_cons_some (b := ⟨i, v⟩) (by simp [keptOf, hv]), List.map_cons, ih,
        List.filter_cons_of_pos (by simp [refusedOf, hv])]
      exact congrArg (· :: _) hc
    | rejected reason found =>
      rw [List.filterMap_cons_none (by simp [keptOf, hv]), ih,
        List.filter_cons_of_neg (by simp [refusedOf, hv])]

theorem kept_indexes (i : ℕ) (cs : List LmcacheCandidate) :
    (((cs.zipIdx i).filterMap (keptOf verdict)).map PotentialCandidate.rawIndex).Nodup := by
  have hsub : (((cs.zipIdx i).filterMap (keptOf verdict)).map
      PotentialCandidate.rawIndex).Sublist ((cs.zipIdx i).map Prod.snd) := by
    generalize cs.zipIdx i = ps
    induction ps with
    | nil => exact List.Sublist.slnil
    | cons p ps ih =>
      cases hv : verdict p.1 with
      | verified v =>
        rw [List.filterMap_cons_some (b := ⟨p.2, v⟩) (by simp [keptOf, hv])]
        exact ih.cons_cons p.2
      | rejected reason found =>
        rw [List.filterMap_cons_none (by simp [keptOf, hv])]
        exact ih.cons p.2
  rw [List.zipIdx_map_snd] at hsub
  exact hsub.nodup List.nodup_range'

theorem refused_candidates (i : ℕ) (cs : List LmcacheCandidate) :
    ((cs.zipIdx i).filterMap (fun p => (refusedOf verdict p.1).map (fun r => (p.2, r)))).map
      Prod.snd = cs.filterMap (refusedOf verdict) := by
  rw [List.map_filterMap]
  conv_rhs => rw [← List.zipIdx_map_fst i cs, List.filterMap_map]
  apply List.filterMap_congr
  intro p _
  simp [Function.comp_def]

theorem found_candidates (cs : List LmcacheCandidate) :
    ((cs.zipIdx.filter (fun p => isFound verdict p.1)).map Prod.snd).filterMap (cs[·]?) =
      cs.filter (isFound verdict) := by
  rw [List.filterMap_map]
  have hget : (cs.zipIdx.filter (fun p => isFound verdict p.1)).filterMap
      ((cs[·]?) ∘ Prod.snd) =
      (cs.zipIdx.filter (fun p => isFound verdict p.1)).filterMap (some ∘ Prod.fst) := by
    apply List.filterMap_congr
    intro p hp
    exact List.mem_zipIdx_iff_getElem?.mp (List.mem_filter.mp hp).1
  rw [hget, List.filterMap_eq_map]
  conv_rhs => rw [← List.zipIdx_map_fst 0 cs, List.filter_map]
  rfl

end

/-! ## Corresponding schedules -/

theorem candidateSortKey_injective : Function.Injective candidateSortKey := by
  intro a b h
  obtain ⟨sr, tr, sh, name, qd, ht, hs⟩ := a
  obtain ⟨sr', tr', sh', name', qd', ht', hs'⟩ := b
  simp only [candidateSortKey, toLex_inj, Prod.mk.injEq] at h
  obtain ⟨hstart, hstop, hkey, hsource, hsourceStop, hname, hquery⟩ := h
  have htarget : tr = tr' := (TokenRange.ext_iff' _ _).mpr ⟨hstart, hstop⟩
  have hrange : sr = sr' := (TokenRange.ext_iff' _ _).mpr ⟨hsource, hsourceStop⟩
  have hhash : sh = sh' := Subtype.ext (cacheKeyOf_injective _ _ hkey)
  have hmodel : name = name' := Subtype.ext hname
  have hdigest : qd = qd' := Subtype.ext hquery
  subst htarget hrange hhash hmodel hdigest
  rfl

/-- The order of potential candidates without what their indexes add. -/
def stopKey (c : LmcacheCandidate) : ℕ ×ₗ CandidateSortKey :=
  toLex (c.targetRange.stop, candidateSortKey c)

theorem stopKey_injective : Function.Injective stopKey := by
  intro a b h
  simp only [stopKey, toLex_inj, Prod.mk.injEq] at h
  exact candidateSortKey_injective h.2

theorem ordered_candidates (potentials : List PotentialCandidate) :
    (orderedPotentials potentials).map Indexed.candidate =
      sortedBy stopKey (potentials.map PotentialCandidate.candidate) := by
  unfold orderedPotentials
  rw [map_sortedBy _ stopKey Indexed.candidate stopKey_injective]
  · conv_rhs => rw [← List.zipIdx_map_fst 0 potentials, List.map_map]
    rfl
  · intro p q h
    obtain h | ⟨hstop, h⟩ := Prod.Lex.toLex_le_toLex.mp h
    · exact Prod.Lex.toLex_le_toLex.mpr (Or.inl h)
    · refine Prod.Lex.toLex_le_toLex.mpr (Or.inr ⟨hstop, ?_⟩)
      obtain h | ⟨hkey, _⟩ := Prod.Lex.toLex_le_toLex.mp h
      · exact le_of_lt h
      · exact le_of_eq hkey

theorem potentialSortKey_lt_of_apart {p q : PotentialCandidate}
    (h : p.candidate ≠ q.candidate) : potentialSortKey p < potentialSortKey q ↔
      candidateSortKey p.candidate < candidateSortKey q.candidate := by
  unfold potentialSortKey
  rw [Prod.Lex.toLex_lt_toLex]
  constructor
  · rintro (hlt | ⟨heq, _⟩)
    · exact hlt
    · exact absurd (candidateSortKey_injective heq) h
  · exact Or.inl

theorem potentialSortKey_lt_of_same {p q : PotentialCandidate} (h : p.verified = q.verified) :
    potentialSortKey p < potentialSortKey q ↔ p.rawIndex < q.rawIndex := by
  unfold potentialSortKey PotentialCandidate.candidate
  rw [h]
  simp [Prod.Lex.toLex_lt_toLex]

/-- Potential candidates of one verdict function, at distinct raw indexes. -/
structure Kept (verdict : LmcacheCandidate → Verdict) (potentials : List PotentialCandidate) :
    Prop where
  verdicts : ∀ p ∈ potentials, verdict p.candidate = .verified p.verified
  indexes : (potentials.map PotentialCandidate.rawIndex).Nodup

section
variable {verdict : LmcacheCandidate → Verdict} {potentials potentials' : List PotentialCandidate}

theorem Kept.same (h : Kept verdict potentials) (h' : Kept verdict potentials')
    {p q : PotentialCandidate} (hp : p ∈ potentials) (hq : q ∈ potentials')
    (he : p.candidate = q.candidate) : p.verified = q.verified := by
  have hv := h.verdicts p hp
  rw [he, h'.verdicts q hq] at hv
  exact (Verdict.verified.inj hv).symm

theorem mem_ordered {p : Indexed} (h : p ∈ orderedPotentials potentials) :
    p.1 ∈ potentials := by
  have hm := (ordered_perm potentials).mem_iff.mp h
  exact List.zipIdx_map_fst 0 potentials ▸ List.mem_map_of_mem hm

theorem ordered_indexes (h : Kept verdict potentials) :
    (orderedPotentials potentials).Pairwise (fun p q =>
      p.1.candidate = q.1.candidate → p.1.rawIndex < q.1.rawIndex) := by
  have hraw : ((orderedPotentials potentials).map (fun p => p.1.rawIndex)).Nodup := by
    have hp := (ordered_perm potentials).map (fun p => p.1.rawIndex)
    rw [hp.nodup_iff]
    have he : potentials.zipIdx.map (fun p => p.1.rawIndex) =
        potentials.map PotentialCandidate.rawIndex := by
      conv_rhs => rw [← List.zipIdx_map_fst 0 potentials, List.map_map]
      rfl
    rw [he]
    exact h.indexes
  have hsorted : (orderedPotentials potentials).Pairwise (fun p q =>
      toLex (p.1.candidate.targetRange.stop, potentialSortKey p.1) ≤
        toLex (q.1.candidate.targetRange.stop, potentialSortKey q.1)) :=
    sortedBy_pairwise _ _
  have hboth := (List.pairwise_map.mp hraw).and hsorted
  refine hboth.imp_of_mem fun {p q} hp hq ⟨hne, hle⟩ he => ?_
  have hver := h.same h (mem_ordered hp) (mem_ordered hq) he
  obtain hlt | ⟨_, hkey⟩ := Prod.Lex.toLex_le_toLex.mp hle
  · rw [he] at hlt
    exact absurd hlt (lt_irrefl _)
  · by_contra hnot
    have hback := (potentialSortKey_lt_of_same hver.symm).mpr (lt_of_le_of_ne
      (not_lt.mp hnot) (Ne.symm hne))
    exact absurd hkey (not_le.mpr hback)

def pairs (potentials potentials' : List PotentialCandidate) : List (Indexed × Indexed) :=
  (orderedPotentials potentials).zip (orderedPotentials potentials')

variable (h : Kept verdict potentials) (h' : Kept verdict potentials')
  (hp : (potentials.map PotentialCandidate.candidate).Perm
    (potentials'.map PotentialCandidate.candidate))

include hp in
theorem ordered_alike : (orderedPotentials potentials).map Indexed.candidate =
    (orderedPotentials potentials').map Indexed.candidate := by
  rw [ordered_candidates, ordered_candidates]
  exact sortedBy_congr_perm stopKey (fun a _ b _ he => stopKey_injective he) hp

include hp in
theorem ordered_length : (orderedPotentials potentials).length =
    (orderedPotentials potentials').length := by
  have hl := congrArg List.length (ordered_alike hp)
  rwa [List.length_map, List.length_map] at hl

theorem pairs_mem {z : Indexed × Indexed} (hz : z ∈ pairs potentials potentials') :
    z.1 ∈ orderedPotentials potentials ∧ z.2 ∈ orderedPotentials potentials' :=
  List.of_mem_zip hz

include hp in
theorem pairs_candidate {z : Indexed × Indexed} (hz : z ∈ pairs potentials potentials') :
    z.1.1.candidate = z.2.1.candidate := by
  obtain ⟨i, hi, rfl⟩ := List.mem_iff_getElem.mp hz
  rw [pairs, List.length_zip] at hi
  have hget := congrArg (·[i]?) (ordered_alike hp)
  simp only [List.getElem?_map, List.getElem?_eq_getElem (by omega : i <
    (orderedPotentials potentials).length), List.getElem?_eq_getElem (by omega : i <
    (orderedPotentials potentials').length), Option.map_some, Option.some.injEq] at hget
  simp only [pairs, List.getElem_zip]
  exact hget

include h h' hp in
theorem pairs_verified {z : Indexed × Indexed} (hz : z ∈ pairs potentials potentials') :
    z.1.1.verified = z.2.1.verified :=
  h.same h' (mem_ordered (pairs_mem hz).1) (mem_ordered (pairs_mem hz).2)
    (pairs_candidate hp hz)

def Alike (z w : Indexed × Indexed) : Prop :=
  (potentialSortKey z.1.1 < potentialSortKey w.1.1 ↔
    potentialSortKey z.2.1 < potentialSortKey w.2.1) ∧
  (potentialSortKey w.1.1 < potentialSortKey z.1.1 ↔
    potentialSortKey w.2.1 < potentialSortKey z.2.1)

include h h' hp in
theorem pairs_alike {z w : Indexed × Indexed} (hz : z ∈ pairs potentials potentials')
    (hw : w ∈ pairs potentials potentials') : Alike z w := by
  have hl := ordered_length hp
  have hleft : (pairs potentials potentials').Pairwise (fun z w =>
      z.1.1.candidate = w.1.1.candidate → z.1.1.rawIndex < w.1.1.rawIndex) := by
    have ho := ordered_indexes h
    rwa [← List.map_fst_zip (le_of_eq hl), List.pairwise_map] at ho
  have hright : (pairs potentials potentials').Pairwise (fun z w =>
      z.2.1.candidate = w.2.1.candidate → z.2.1.rawIndex < w.2.1.rawIndex) := by
    have ho := ordered_indexes h'
    rwa [← List.map_snd_zip (le_of_eq hl.symm), List.pairwise_map] at ho
  have hpairwise : (pairs potentials potentials').Pairwise Alike := by
    refine (hleft.and hright).imp_of_mem fun {z w} hz hw ⟨hl, hr⟩ => ?_
    have hcz := pairs_candidate hp hz
    have hcw := pairs_candidate hp hw
    unfold Alike
    by_cases he : z.1.1.candidate = w.1.1.candidate
    · have he' : z.2.1.candidate = w.2.1.candidate := by rw [← hcz, ← hcw, he]
      have hs := h.same h (mem_ordered (pairs_mem hz).1) (mem_ordered (pairs_mem hw).1) he
      have hs' := h'.same h' (mem_ordered (pairs_mem hz).2) (mem_ordered (pairs_mem hw).2) he'
      have hlt := hl he
      have hlt' := hr he'
      rw [potentialSortKey_lt_of_same hs, potentialSortKey_lt_of_same hs',
        potentialSortKey_lt_of_same hs.symm, potentialSortKey_lt_of_same hs'.symm]
      omega
    · have he' : z.2.1.candidate ≠ w.2.1.candidate := by rwa [← hcz, ← hcw]
      rw [potentialSortKey_lt_of_apart he, potentialSortKey_lt_of_apart he',
        potentialSortKey_lt_of_apart (Ne.symm he), potentialSortKey_lt_of_apart (Ne.symm he'),
        hcz, hcw]
      exact ⟨Iff.rfl, Iff.rfl⟩
  have hsymm : Std.Symm Alike := ⟨fun z w ha => ⟨ha.2, ha.1⟩⟩
  exact List.Pairwise.forall_of_forall (fun z _ => ⟨by simp, by simp⟩) hpairwise hz hw

/-- Solutions that take the same places of two orders. -/
def Parallel (potentials potentials' : List PotentialCandidate) (s t : Solution) : Prop :=
  ∃ zs : List (Indexed × Indexed), (∀ z ∈ zs, z ∈ pairs potentials potentials') ∧
    s = Scheduling.solution schedulingProblem (zs.map Prod.fst) ∧
    t = Scheduling.solution schedulingProblem (zs.map Prod.snd)

theorem solution_keys (ps : List Indexed) :
    (Scheduling.solution schedulingProblem ps).tieBreakKey =
      ps.map (fun p => potentialSortKey p.1) := by
  induction ps using List.reverseRecOn with
  | nil => rfl
  | append_singleton ps p ih =>
    rw [Scheduling.solution_concat, List.map_append, ← ih]
    rfl

include hp in
theorem parallel_coverage {zs : List (Indexed × Indexed)}
    (hz : ∀ z ∈ zs, z ∈ pairs potentials potentials') :
    coverage (zs.map Prod.fst) = coverage (zs.map Prod.snd) := by
  unfold coverage
  rw [List.map_map, List.map_map]
  exact congrArg tokenTotal (List.map_congr_left fun z hm => pairs_candidate hp (hz z hm))

include h h' hp in
theorem parallel_better {s t s' t' : Solution} (hs : Parallel potentials potentials' s t)
    (ht : Parallel potentials potentials' s' t') :
    Parallel potentials potentials' (betterSolution s s') (betterSolution t t') := by
  obtain ⟨zs, hzs, rfl, rfl⟩ := hs
  obtain ⟨ws, hws, rfl, rfl⟩ := ht
  have hkeys : (Scheduling.solution schedulingProblem (zs.map Prod.fst)).tieBreakKey ≤
      (Scheduling.solution schedulingProblem (ws.map Prod.fst)).tieBreakKey ↔
      (Scheduling.solution schedulingProblem (zs.map Prod.snd)).tieBreakKey ≤
        (Scheduling.solution schedulingProblem (ws.map Prod.snd)).tieBreakKey := by
    simp only [solution_keys, List.map_map]
    exact map_le_map_iff (fun z : Indexed × Indexed => potentialSortKey z.1.1)
      (fun z => potentialSortKey z.2.1) zs ws
      (fun z hz w hw => pairs_alike h h' hp (hzs z hz) (hws w hw))
  unfold betterSolution
  simp only [(solution_fields _).1, hkeys, ← parallel_coverage hp hzs,
    ← parallel_coverage hp hws]
  split_ifs
  · exact ⟨zs, hzs, rfl, rfl⟩
  · exact ⟨ws, hws, rfl, rfl⟩
  · exact ⟨zs, hzs, rfl, rfl⟩
  · exact ⟨ws, hws, rfl, rfl⟩

include h h' hp in
theorem schedules_correspond : Scheduling.Corresponds schedulingProblem schedulingProblem
    (fun p q => (p, q) ∈ pairs potentials potentials') (Parallel potentials potentials') where
  times p q hz := by
    have hc := pairs_candidate hp hz
    exact ⟨congrArg (fun c => c.targetRange.start) hc, congrArg (fun c => c.targetRange.stop) hc⟩
  empty := ⟨[], fun z hz => absurd hz List.not_mem_nil, rfl, rfl⟩
  extend := by
    rintro s t p q ⟨zs, hzs, rfl, rfl⟩ hz
    refine ⟨zs ++ [(p, q)], fun z hm => ?_, ?_, ?_⟩
    · obtain hm | hm := List.mem_append.mp hm
      · exact hzs z hm
      · rwa [List.mem_singleton.mp hm]
    · rw [List.map_append]
      exact (Scheduling.solution_concat _ _ _).symm
    · rw [List.map_append]
      exact (Scheduling.solution_concat _ _ _).symm
  better _ _ _ _ hs ht := parallel_better h h' hp hs ht

theorem selections_parallel (h : Kept verdict potentials) (h' : Kept verdict potentials')
    (hp : (potentials.map PotentialCandidate.candidate).Perm
      (potentials'.map PotentialCandidate.candidate)) :
    ∃ zs : List (Indexed × Indexed), (∀ z ∈ zs, z ∈ pairs potentials potentials') ∧
      selectNonOverlapping potentials = (zs.map Prod.fst).map Prod.snd ∧
      selectNonOverlapping potentials' = (zs.map Prod.snd).map Prod.snd := by
  have hitems : List.Forall₂ (fun p q => (p, q) ∈ pairs potentials potentials')
      (orderedPotentials potentials) (orderedPotentials potentials') :=
    List.forall₂_iff_zip.mpr ⟨ordered_length hp, fun hz => hz⟩
  obtain ⟨zs, hzs, hs, ht⟩ :=
    Scheduling.schedule_corresponds (schedules_correspond h h' hp) hitems
  refine ⟨zs, hzs, ?_, ?_⟩
  · rw [selectNonOverlapping, hs, (solution_fields _).2]
  · rw [selectNonOverlapping, ht, (solution_fields _).2]

theorem selected_taken (ps : List Indexed) (hm : ∀ p ∈ ps, p ∈ orderedPotentials potentials)
    (hs : selectNonOverlapping potentials = ps.map Prod.snd) :
    (selectedPotentials potentials).Perm (ps.map Prod.fst) := by
  have hn : (ps.map Prod.snd).Nodup := by
    obtain ⟨chosen, hsub, _, hchosen, _⟩ := select_best potentials
    rw [← hs, hchosen]
    apply (hsub.map Prod.snd).nodup
    exact ((ordered_perm potentials).map Prod.snd).nodup_iff.mpr (indexes_nodup potentials)
  unfold selectedPotentials
  rw [hs]
  exact (Scheduling.filter_indexes_perm potentials.zipIdx ps (indexes_nodup potentials)
    (fun p hp => (ordered_perm potentials).mem_iff.mp (hm p hp)) hn.of_map).map Prod.fst

include h h' hp in
theorem selected_alike : ((selectedPotentials potentials).map PotentialCandidate.verified).Perm
    ((selectedPotentials potentials').map PotentialCandidate.verified) := by
  obtain ⟨zs, hzs, hs, hs'⟩ := selections_parallel h h' hp
  have hl := (selected_taken (zs.map Prod.fst)
    (List.forall_mem_map.mpr fun z hz => (pairs_mem (hzs z hz)).1) hs).map
      PotentialCandidate.verified
  have hr := (selected_taken (zs.map Prod.snd)
    (List.forall_mem_map.mpr fun z hz => (pairs_mem (hzs z hz)).2) hs').map
      PotentialCandidate.verified
  have he : ((zs.map Prod.fst).map Prod.fst).map PotentialCandidate.verified =
      ((zs.map Prod.snd).map Prod.fst).map PotentialCandidate.verified := by
    simp only [List.map_map]
    exact List.map_congr_left fun z hz => pairs_verified h h' hp (hzs z hz)
  rw [he] at hl
  exact hl.trans hr.symm

include h h' hp in
theorem unselected_alike :
    ((unselectedPotentials potentials).map PotentialCandidate.candidate).Perm
      ((unselectedPotentials potentials').map PotentialCandidate.candidate) := by
  have hselected : ((selectedPotentials potentials).map PotentialCandidate.candidate).Perm
      ((selectedPotentials potentials').map PotentialCandidate.candidate) := by
    have hm := (selected_alike h h' hp).map VerifiedLmcacheCandidate.candidate
    rwa [List.map_map, List.map_map] at hm
  have hl := (selection potentials).partition.map PotentialCandidate.candidate
  have hr := (selection potentials').partition.map PotentialCandidate.candidate
  rw [List.map_append] at hl hr
  have hall := (hl.trans hp).trans hr.symm
  exact (List.perm_append_left_iff _).mp (hall.trans (hselected.symm.append_right _))

include h h' hp in
theorem sortVerified_alike :
    sortVerified ((selectedPotentials potentials).map PotentialCandidate.verified) =
      sortVerified ((selectedPotentials potentials').map PotentialCandidate.verified) := by
  have hv : ∀ v ∈ (selectedPotentials potentials').map PotentialCandidate.verified,
      verdict v.candidate = .verified v := by
    intro v hm
    obtain ⟨p, hp, rfl⟩ := List.mem_map.mp hm
    exact h'.verdicts p ((selection potentials').sublist.subset hp)
  apply sortedBy_congr_perm _ _ (selected_alike h h' hp)
  intro v hm w hn he
  simp only [toLex_inj, Prod.mk.injEq] at he
  have hvw := hv v hm
  rw [candidateSortKey_injective he.1, hv w hn] at hvw
  exact (Verdict.verified.inj hvw).symm

end

/-! ## Equal plans -/

theorem value_injective : Function.Injective RejectionReason.value := by
  intro a b h
  cases a <;> cases b <;> first | rfl | exact absurd h (by decide)

/-- Rejections are listed in the order of their candidates and reasons. -/
def rejectionKey (r : RejectedLmcacheCandidate) : CandidateSortKey ×ₗ String :=
  toLex (candidateSortKey r.candidate, r.reason.value)

theorem rejectionKey_injective : Function.Injective rejectionKey := by
  intro a b h
  simp only [rejectionKey, toLex_inj, Prod.mk.injEq] at h
  cases a
  cases b
  exact congrArg₂ _ (candidateSortKey_injective h.1) (value_injective h.2)

theorem sortRejected_eq (rejected : List (ℕ × RejectedLmcacheCandidate)) :
    sortRejected rejected = sortedBy rejectionKey (rejected.map Prod.snd) := by
  unfold sortRejected
  apply map_sortedBy _ rejectionKey Prod.snd rejectionKey_injective
  intro a b h
  obtain h | ⟨hkey, h⟩ := Prod.Lex.toLex_le_toLex.mp h
  · exact Prod.Lex.toLex_le_toLex.mpr (Or.inl h)
  · refine Prod.Lex.toLex_le_toLex.mpr (Or.inr ⟨hkey, ?_⟩)
    obtain h | ⟨hvalue, _⟩ := Prod.Lex.toLex_le_toLex.mp h
    · exact le_of_lt h
    · exact le_of_eq hvalue

section
variable {verdict : LmcacheCandidate → Verdict}

theorem settled_kept (ho : Own verdict) (cs : List LmcacheCandidate) :
    Kept verdict (settled verdict 0 cs .initial).potentials where
  verdicts _ hp := kept_verdict verdict ho hp
  indexes := kept_indexes verdict 0 cs

theorem settled_perm (ho : Own verdict) {cs cs' : List LmcacheCandidate} (hp : cs.Perm cs') :
    ((settled verdict 0 cs .initial).potentials.map PotentialCandidate.candidate).Perm
      ((settled verdict 0 cs' .initial).potentials.map PotentialCandidate.candidate) := by
  change (((cs.zipIdx 0).filterMap _).map _).Perm (((cs'.zipIdx 0).filterMap _).map _)
  rw [kept_candidates verdict ho, kept_candidates verdict ho]
  exact hp.filter _

theorem rejections_alike (ho : Own verdict) {cs cs' : List LmcacheCandidate} (hp : cs.Perm cs')
    (selected : List LmcacheCandidate) :
    sortRejected ((settled verdict 0 cs .initial).rejected ++
      (unselectedPotentials (settled verdict 0 cs .initial).potentials).map
        (rejectUnselected selected)) =
    sortRejected ((settled verdict 0 cs' .initial).rejected ++
      (unselectedPotentials (settled verdict 0 cs' .initial).potentials).map
        (rejectUnselected selected)) := by
  have hunselected : ∀ ps : List PotentialCandidate, (ps.map (rejectUnselected selected)).map
      Prod.snd = (ps.map PotentialCandidate.candidate).map (fun c => ⟨c, if c ∈ selected then
        .duplicateCandidate else .overlapsSelectedCandidate⟩) := by
    intro ps
    rw [List.map_map, List.map_map]
    rfl
  have hrefused : ∀ cs : List LmcacheCandidate,
      (settled verdict 0 cs .initial).rejected.map Prod.snd = cs.filterMap (refusedOf verdict) :=
    fun cs => refused_candidates verdict 0 cs
  rw [sortRejected_eq, sortRejected_eq, List.map_append, List.map_append, hunselected,
    hunselected, hrefused, hrefused]
  apply sortedBy_congr_perm rejectionKey fun a _ b _ h => rejectionKey_injective h
  exact (hp.filterMap _).append ((unselected_alike (settled_kept ho cs) (settled_kept ho cs')
    (settled_perm ho hp)).map _)

theorem found_alike (verdict : LmcacheCandidate → Verdict) {cs cs' : List LmcacheCandidate}
    (hp : cs.Perm cs') :
    (settled verdict 0 cs .initial).foundRawIndexes.length =
        (settled verdict 0 cs' .initial).foundRawIndexes.length ∧
      tokenTotal ((settled verdict 0 cs .initial).foundRawIndexes.filterMap (cs[·]?)) =
        tokenTotal ((settled verdict 0 cs' .initial).foundRawIndexes.filterMap (cs'[·]?)) := by
  have htokens : ∀ cs : List LmcacheCandidate,
      (settled verdict 0 cs .initial).foundRawIndexes.filterMap (cs[·]?) =
        cs.filter (isFound verdict) := fun cs => found_candidates verdict cs
  have hlength : ∀ cs : List LmcacheCandidate,
      (settled verdict 0 cs .initial).foundRawIndexes.length =
        (cs.filter (isFound verdict)).length := by
    intro cs
    have hmap := congrArg List.length (List.filter_map (f := Prod.fst)
      (p := isFound verdict) (l := cs.zipIdx))
    rw [List.zipIdx_map_fst, List.length_map] at hmap
    rw [hmap]
    exact List.length_map _
  rw [hlength, hlength, htokens, htokens]
  exact ⟨(hp.filter _).length_eq, tokenTotal_perm (hp.filter _)⟩

theorem concludePlan_alike (ho : Own verdict) {cs cs' : List LmcacheCandidate}
    (hp : cs.Perm cs') : concludePlan cs (settled verdict 0 cs .initial) =
      concludePlan cs' (settled verdict 0 cs' .initial) := by
  have hfound := found_alike verdict hp
  unfold concludePlan
  dsimp only
  rw [sortVerified_alike (settled_kept ho cs) (settled_kept ho cs') (settled_perm ho hp),
    rejections_alike ho hp, hp.length_eq, tokenTotal_perm hp, hfound.1, hfound.2]

end

section
variable (sha256 : Bytes → Digest) (answers : Answers) (prompt : List TokenId)
  (cacheNamespace : CacheNamespace)

theorem judgeAlone_own {c : LmcacheCandidate} {v : VerifiedLmcacheCandidate}
    (h : judgeAlone sha256 answers prompt cacheNamespace c = .ok (.verified v)) :
    v.candidate = c := by
  unfold judgeAlone at h
  split_ifs at h with hin hq
  · cases h
  · change (lookupBucket _ 0 cacheNamespace _ >>= _) = _ at h
    cases hl : lookupBucket (answering answers) 0 cacheNamespace
      (fingerprint sha256 cacheNamespace (targetSegment prompt c hin).tokenIds) with
    | error e =>
      rw [hl] at h
      cases h
    | ok bucket =>
      rw [hl] at h
      obtain ⟨w, hj, _, hc, _⟩ | ⟨reason, found, hj, _⟩ :=
        judge_cases sha256 cacheNamespace c (targetSegment prompt c hin) rfl bucket
      · cases hj.symm.trans h
        exact hc
      · cases hj.symm.trans h

theorem verdictOf_own : Own (verdictOf sha256 answers prompt cacheNamespace) := by
  intro c v h
  unfold verdictOf at h
  cases hj : judgeAlone sha256 answers prompt cacheNamespace c with
  | error e =>
    rw [hj] at h
    cases h
  | ok verdict =>
    rw [hj] at h
    subst h
    exact judgeAlone_own sha256 answers prompt cacheNamespace hj

/-- Permuted candidate lists are planned alike: with a lookup that answers or
raises by its arguments alone, both plans are returned or neither is, and they
are the same plan. -/
theorem plan_order_independent (promptTokenIds : List ℤ) (cs cs' : List LmcacheCandidate)
    (hp : cs.Perm cs') (p : LmcacheLookupPlan) :
    plan sha256 (answering answers) promptTokenIds cacheNamespace cs = .ok p ↔
      plan sha256 (answering answers) promptTokenIds cacheNamespace cs' = .ok p := by
  cases hn : normalizeTokenIds promptTokenIds with
  | error e =>
    unfold plan
    rw [hn]
  | ok prompt =>
    rw [plan_alone_iff sha256 answers prompt cacheNamespace promptTokenIds hn,
      plan_alone_iff sha256 answers prompt cacheNamespace promptTokenIds hn,
      concludePlan_alike (verdictOf_own sha256 answers prompt cacheNamespace) hp]
    simp only [hp.mem_iff]

end

def otherCandidate : LmcacheCandidate :=
  { exampleCandidate with storageHash := oneDigest }

def otherRecord : CacheRecord :=
  { exampleRecord with cacheKey := otherCandidate.cacheKey, key_nonempty := by decide }

/-- A duplicate and an equal alternative, in two orders. -/
theorem permuted_candidates_planned : ∃ p,
    plan (fun _ => zeroDigest) (answering fun _ _ => .ok [exampleRecord, otherRecord]) [0]
      exampleNamespace [exampleCandidate, otherCandidate, exampleCandidate] = .ok p ∧
    plan (fun _ => zeroDigest) (answering fun _ _ => .ok [exampleRecord, otherRecord]) [0]
      exampleNamespace [otherCandidate, exampleCandidate, exampleCandidate] = .ok p := by
  obtain ⟨_, p, hp, _⟩ := plan_concluded (fun _ => zeroDigest)
    (fun _ _ => [exampleRecord, otherRecord]) [0] exampleNamespace
    [exampleCandidate, otherCandidate, exampleCandidate] (by decide)
  exact ⟨p, hp, (plan_order_independent (fun _ => zeroDigest)
    (fun _ _ => .ok [exampleRecord, otherRecord]) exampleNamespace [0] _ _ (.swap _ _ _) p).mp hp⟩

end CacheBlend.OrderIndependence
