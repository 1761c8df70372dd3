import CacheBlend.CandidateLookup
import Mathlib.Data.List.Dedup

/-!
# What a verdict means

A record agrees with a candidate when its key, namespace, fingerprint and
tokens do. With a pure record lookup, a candidate is kept exactly when some
record of its bucket agrees and all agreeing records have one source range.
The loop over the candidates keeps or rejects each of them once, and never
reaches one of its defensive errors.
-/

set_option autoImplicit false

namespace CacheBlend.CandidateVerdicts
open CacheBlend.PlannerModels CacheBlend.SegmentFingerprints CacheBlend.LmcacheTypes
open CacheBlend.CandidateLookup

/-- A record lookup that depends on the namespace and fingerprint only. -/
abbrev Records := CacheNamespace → SegmentFingerprint → List CacheRecord

def pureLookup (records : Records) : RecordLookup := fun _ n fp => .ok (records n fp)

section
variable (sha256 : Bytes → Digest)

/-- The record is of the candidate's key and verifies for the segment. -/
def Agrees (cacheNamespace : CacheNamespace) (c : LmcacheCandidate) (segment : TokenSegment)
    (r : CacheRecord) : Prop :=
  r.cacheKey = c.cacheKey ∧ r.cacheNamespace = cacheNamespace ∧
    r.fingerprint = fingerprint sha256 cacheNamespace segment.tokenIds ∧
    r.tokenIds = segment.tokenIds

/-- Some record of the bucket agrees, and all that agree have one source range. -/
def Resolves (cacheNamespace : CacheNamespace) (c : LmcacheCandidate) (segment : TokenSegment)
    (bucket : List CacheRecord) : Prop :=
  (∃ r ∈ bucket, Agrees sha256 cacheNamespace c segment r) ∧
    ∀ r ∈ bucket, ∀ r' ∈ bucket, Agrees sha256 cacheNamespace c segment r →
      Agrees sha256 cacheNamespace c segment r' → r.sourceRange = r'.sourceRange

/-- The candidate verifies on its own against the prompt and the records. -/
def Verifies (records : Records) (prompt : List TokenId) (cacheNamespace : CacheNamespace)
    (c : LmcacheCandidate) : Prop :=
  ∃ h : c.targetRange.stop ≤ prompt.length, c.queryDigest = queryDigest sha256 prompt ∧
    Resolves sha256 cacheNamespace c (targetSegment prompt c h) (records cacheNamespace
      (fingerprint sha256 cacheNamespace (targetSegment prompt c h).tokenIds))

structure BoundTo (records : Records) (prompt : List TokenId)
    (cacheNamespace : CacheNamespace) (v : VerifiedLmcacheCandidate) : Prop where
  in_bounds : v.candidate.targetRange.stop ≤ prompt.length
  segment : v.verified.targetSegment = targetSegment prompt v.candidate in_bounds
  query : v.verified.candidate.queryFingerprint =
    fingerprint sha256 cacheNamespace (targetSegment prompt v.candidate in_bounds).tokenIds
  record : v.verified.record ∈ records cacheNamespace
    (fingerprint sha256 cacheNamespace (targetSegment prompt v.candidate in_bounds).tokenIds)
  agrees : Agrees sha256 cacheNamespace v.candidate
    (targetSegment prompt v.candidate in_bounds) v.verified.record

theorem verifyRecord_none_iff (cacheNamespace : CacheNamespace) (segment : TokenSegment)
    (r : CacheRecord) :
    verifyRecord sha256 cacheNamespace segment
        (fingerprint sha256 cacheNamespace segment.tokenIds) r = none ↔
      r.cacheNamespace = cacheNamespace ∧
        r.fingerprint = fingerprint sha256 cacheNamespace segment.tokenIds ∧
        r.tokenIds = segment.tokenIds := by
  unfold verifyRecord
  split_ifs with hn hf ht hs
  · simp [hn]
  · simp [hf]
  · simp [ht]
  · have hn := not_not.mp hn
    have hf := not_not.mp hf
    have ht := not_not.mp ht
    rw [hn, ht, hf] at hs
    exact absurd rfl hs
  · simp [not_not.mp hn, not_not.mp hf, not_not.mp ht]

theorem mem_valid_iff (cacheNamespace : CacheNamespace) (c : LmcacheCandidate)
    (segment : TokenSegment) (bucket : List CacheRecord) (r : CacheRecord) :
    r ∈ (bucket.filter (fun r => r.cacheKey = c.cacheKey)).filter
        (fun r => verifyRecord sha256 cacheNamespace segment
          (fingerprint sha256 cacheNamespace segment.tokenIds) r = none) ↔
      r ∈ bucket ∧ Agrees sha256 cacheNamespace c segment r := by
  simp only [List.mem_filter, decide_eq_true_eq, verifyRecord_none_iff, Agrees]
  exact and_assoc

theorem dedup_single {α : Type*} [DecidableEq α] (xs : List α) (hx : xs ≠ []) :
    xs.dedup.length = 1 ↔ ∀ a ∈ xs, ∀ b ∈ xs, a = b := by
  constructor
  · intro h a ha b hb
    obtain ⟨c, hc⟩ := List.length_eq_one_iff.mp h
    have ha' := List.mem_dedup.mpr ha
    have hb' := List.mem_dedup.mpr hb
    rw [hc, List.mem_singleton] at ha' hb'
    rw [ha', hb']
  · intro h
    obtain ⟨a, ha⟩ := List.exists_mem_of_ne_nil xs hx
    have hall : ∀ b ∈ xs.dedup, b = a := fun b hb => h b (List.mem_dedup.mp hb) a ha
    have hn := xs.nodup_dedup
    have hm := List.mem_dedup.mpr ha
    cases hd : xs.dedup with
    | nil =>
      rw [hd] at hm
      cases hm
    | cons b rest =>
      rw [hd] at hall hn
      cases rest with
      | nil => rfl
      | cons c rest =>
        have hb := hall b (by simp)
        have hc := hall c (by simp)
        rw [hb, hc] at hn
        simp at hn

/-- The reasons that the loop over the candidates gives. -/
def LoopReason (reason : RejectionReason) : Prop :=
  reason ≠ .duplicateCandidate ∧ reason ≠ .overlapsSelectedCandidate

theorem verifyRecord_reason {cacheNamespace : CacheNamespace} {segment : TokenSegment}
    {fp : SegmentFingerprint} {r : CacheRecord} {reason : RejectionReason}
    (h : verifyRecord sha256 cacheNamespace segment fp r = some reason) :
    LoopReason reason := by
  unfold verifyRecord at h
  unfold LoopReason
  split_ifs at h <;> cases h <;> decide

theorem judge_cases (cacheNamespace : CacheNamespace) (c : LmcacheCandidate)
    (segment : TokenSegment) (hr : segment.tokenRange = c.targetRange)
    (bucket : List CacheRecord) :
    (∃ v, judge sha256 cacheNamespace c segment
        (fingerprint sha256 cacheNamespace segment.tokenIds) bucket = .ok (.verified v) ∧
      Resolves sha256 cacheNamespace c segment bucket ∧ v.candidate = c ∧
      v.verified.targetSegment = segment ∧ v.verified.candidate.queryFingerprint =
        fingerprint sha256 cacheNamespace segment.tokenIds ∧
      v.verified.record ∈ bucket ∧
      Agrees sha256 cacheNamespace c segment v.verified.record) ∨
    ∃ reason found, judge sha256 cacheNamespace c segment
        (fingerprint sha256 cacheNamespace segment.tokenIds) bucket =
          .ok (.rejected reason found) ∧
      LoopReason reason ∧ ¬Resolves sha256 cacheNamespace c segment bucket := by
  have hmem := mem_valid_iff sha256 cacheNamespace c segment bucket
  unfold judge
  by_cases he : bucket = []
  · rw [if_pos he]
    refine Or.inr ⟨_, _, rfl, by unfold LoopReason; decide, fun hres => ?_⟩
    obtain ⟨r, hr, _⟩ := hres.1
    rw [he] at hr
    cases hr
  rw [if_neg he]
  by_cases hb : bucket.filter (fun r => r.cacheKey = c.cacheKey) = []
  · rw [dif_pos hb]
    refine Or.inr ⟨_, _, rfl, by unfold LoopReason; decide, fun hres => ?_⟩
    obtain ⟨r, hr, hag⟩ := hres.1
    have hm : r ∈ bucket.filter (fun r => r.cacheKey = c.cacheKey) :=
      List.mem_filter.mpr ⟨hr, decide_eq_true hag.1⟩
    rw [hb] at hm
    cases hm
  rw [dif_neg hb]
  unfold judgeBound
  by_cases hv : (bucket.filter (fun r => r.cacheKey = c.cacheKey)).filter
      (fun r => verifyRecord sha256 cacheNamespace segment
        (fingerprint sha256 cacheNamespace segment.tokenIds) r = none) = []
  · rw [dif_pos hv]
    refine Or.inr ⟨_, _, rfl, ?_, fun hres => ?_⟩
    · have hfm := firstMin_mem RejectionReason.priority _ (invalidReasons_ne_nil hb hv)
      obtain ⟨r, _, hreason⟩ := List.mem_filterMap.mp hfm
      exact verifyRecord_reason sha256 hreason
    · obtain ⟨r, hr, hag⟩ := hres.1
      have hm := (hmem r).mpr ⟨hr, hag⟩
      rw [hv] at hm
      cases hm
  rw [dif_neg hv]
  dsimp only
  have hsource := dedup_single (((bucket.filter (fun r => r.cacheKey = c.cacheKey)).filter
    (fun r => verifyRecord sha256 cacheNamespace segment
      (fingerprint sha256 cacheNamespace segment.tokenIds) r = none)).map
        CacheRecord.sourceRange) (by simpa using hv)
  simp only [List.forall_mem_map, hmem] at hsource
  by_cases hs : (((bucket.filter (fun r => r.cacheKey = c.cacheKey)).filter
    (fun r => verifyRecord sha256 cacheNamespace segment
      (fingerprint sha256 cacheNamespace segment.tokenIds) r = none)).map
        CacheRecord.sourceRange).dedup.length = 1
  · obtain ⟨hrm, hag⟩ := (hmem _).mp (firstMin_mem recordSortKey _ hv)
    generalize firstMin recordSortKey _ hv = record at hrm hag ⊢
    obtain ⟨v, hbind, hc, hver⟩ := bind_returns sha256 c
      ⟨⟨segment, fingerprint sha256 cacheNamespace segment.tokenIds, record⟩⟩ cacheNamespace
      hag.2.1 hr.symm hag.1.symm hag.2.2.2 rfl hag.2.2.1
    refine Or.inl ⟨v, ?_, ⟨⟨_, hrm, hag⟩, ?_⟩, hc, ?_, ?_, ?_, ?_⟩
    · rw [if_neg (not_not.mpr hs), hbind]
    · intro r hr r' hr' ha ha'
      exact hsource.mp hs r ⟨hr, ha⟩ r' ⟨hr', ha'⟩
    · rw [hver]
      rfl
    · rw [hver]
    · rw [hver]
      exact hrm
    · rw [hver]
      exact hag
  · refine Or.inr ⟨.sourcePositionAmbiguous, true, ?_, by unfold LoopReason; decide,
      fun hres => ?_⟩
    · rw [if_pos hs]
    · exact hs (hsource.mpr fun r hr r' hr' =>
        hres.2 r hr.1 r' hr'.1 hr.2 hr'.2)

/-! ## What an error tells -/

/-- A cause is an exception of the record lookup. -/
def FromLookup (lookup : RecordLookup) (cacheNamespace : CacheNamespace)
    (e : LmcacheLookupError) : Prop :=
  ∀ x, e.cause = some x → ∃ rawIndex fp, lookup rawIndex cacheNamespace fp = .error x

theorem fromLookup_none (lookup : RecordLookup) (cacheNamespace : CacheNamespace)
    (code : LmcacheLookupErrorCode) : FromLookup lookup cacheNamespace ⟨code, none⟩ :=
  fun _ hx => nomatch hx

theorem judge_cause {cacheNamespace : CacheNamespace} {c : LmcacheCandidate}
    {segment : TokenSegment} {fp : SegmentFingerprint} {bucket : List CacheRecord}
    {e : LmcacheLookupError} (h : judge sha256 cacheNamespace c segment fp bucket = .error e) :
    e.cause = none := by
  unfold judge judgeBound at h
  dsimp only at h
  split_ifs at h
  split at h
  · cases h
    rfl
  · cases h

theorem cachedBucket_cause {lookup : RecordLookup} {rawIndex : ℕ}
    {cacheNamespace : CacheNamespace} {fp : SegmentFingerprint} {cache : BucketCache}
    {e : LmcacheLookupError}
    (h : cachedBucket lookup rawIndex cacheNamespace fp cache = .error e) :
    FromLookup lookup cacheNamespace e := by
  unfold cachedBucket at h
  split at h
  · cases h
  · obtain h | ⟨_, _, h⟩ := (checked_error_iff _ _ _).mp h
    · unfold lookupBucket at h
      split at h
      · next x hx =>
        cases h
        exact fun y hy => by cases hy; exact ⟨rawIndex, fp, hx⟩
      · cases h
    · cases h

theorem considerCandidate_cause {lookup : RecordLookup} {prompt : List TokenId}
    {cacheNamespace : CacheNamespace} {rawIndex : ℕ} {c : LmcacheCandidate} {st : LookupState}
    {e : LmcacheLookupError}
    (h : considerCandidate sha256 lookup prompt cacheNamespace rawIndex c st = .error e) :
    FromLookup lookup cacheNamespace e := by
  unfold considerCandidate at h
  split_ifs at h
  · obtain h | ⟨⟨bucket, cache⟩, _, h⟩ := (checked_error_iff _ _ _).mp h
    · exact cachedBucket_cause h
    · obtain h | ⟨_, _, h⟩ := (checked_error_iff _ _ _).mp h
      · exact fun x hx => nomatch (judge_cause sha256 h).symm.trans hx
      · cases h
  · cases h
    exact fromLookup_none lookup cacheNamespace _

theorem considerAll_cause {lookup : RecordLookup} {prompt : List TokenId}
    {cacheNamespace : CacheNamespace} {e : LmcacheLookupError} (cs : List LmcacheCandidate)
    {rawIndex : ℕ} {st : LookupState}
    (h : considerAll sha256 lookup prompt cacheNamespace rawIndex cs st = .error e) :
    FromLookup lookup cacheNamespace e := by
  induction cs generalizing rawIndex st with
  | nil => cases h
  | cons c cs ih =>
    obtain h | ⟨_, _, h⟩ := (checked_error_iff _ _ _).mp h
    · exact considerCandidate_cause sha256 h
    · exact ih h

theorem plan_cause {lookup : RecordLookup} {promptTokenIds : List ℤ}
    {cacheNamespace : CacheNamespace} {candidates : List LmcacheCandidate}
    {e : LmcacheLookupError}
    (h : plan sha256 lookup promptTokenIds cacheNamespace candidates = .error e) :
    FromLookup lookup cacheNamespace e := by
  unfold plan at h
  split at h
  · cases h
    exact fromLookup_none lookup cacheNamespace _
  · obtain h | ⟨_, _, h⟩ := (checked_error_iff _ _ _).mp h
    · exact considerAll_cause sha256 candidates h
    · unfold concludePlan at h
      dsimp only at h
      split_ifs at h
      cases h
      exact fromLookup_none lookup cacheNamespace _

end

end CacheBlend.CandidateVerdicts
