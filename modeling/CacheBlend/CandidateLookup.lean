import CacheBlend.Dict
import CacheBlend.LmcacheTypes
import CacheBlend.Scheduling
import Mathlib.Data.List.MinMax
import Mathlib.Data.String.Basic

/-!
# Verification of untrusted candidates

The coordinator slices the exact prompt, asks for the records of each
fingerprint once, and keeps a candidate only when a record of its key agrees
in namespace, fingerprint and every token, at one source position. Among the
kept candidates it selects a schedule of maximum token coverage, and accounts
for every raw candidate.
-/

set_option autoImplicit false

namespace CacheBlend.CandidateLookup
open CacheBlend.PlannerModels CacheBlend.SegmentFingerprints CacheBlend.LmcacheTypes

inductive LmcacheLookupErrorCode where
  | invalidPromptTokens
  | invalidCandidate
  | targetRangeOutOfBounds
  | sidecarLookupFailed
  | invalidSidecarResponse
  | bindingInvariantFailed
  | accountingInvariantFailed
  deriving DecidableEq

/-- The exceptions of a record lookup that its callers tell apart. -/
inductive LookupException where
  | sidecarCorruption
  | sidecarSchema
  | other
  deriving DecidableEq

structure LmcacheLookupError where
  code : LmcacheLookupErrorCode
  cause : Option LookupException
  deriving DecidableEq

inductive RejectionReason where
  | staleQuery
  | noSidecarRecord
  | cacheKeyMismatch
  | namespaceMismatch
  | fingerprintMismatch
  | tokenMismatch
  | sourcePositionAmbiguous
  | duplicateCandidate
  | overlapsSelectedCandidate
  deriving DecidableEq

def RejectionReason.value : RejectionReason → String
  | .staleQuery => "stale_query"
  | .noSidecarRecord => "no_sidecar_record"
  | .cacheKeyMismatch => "cache_key_mismatch"
  | .namespaceMismatch => "namespace_mismatch"
  | .fingerprintMismatch => "fingerprint_mismatch"
  | .tokenMismatch => "token_mismatch"
  | .sourcePositionAmbiguous => "source_position_ambiguous"
  | .duplicateCandidate => "duplicate_candidate"
  | .overlapsSelectedCandidate => "overlaps_selected_candidate"

/-- `_VERIFICATION_REASON_PRIORITY`; only the first three reasons have one. -/
def RejectionReason.priority : RejectionReason → ℕ
  | .namespaceMismatch => 0
  | .fingerprintMismatch => 1
  | .tokenMismatch => 2
  | _ => 3

def RejectionReason.found : RejectionReason → Bool
  | .namespaceMismatch | .fingerprintMismatch | .tokenMismatch
  | .sourcePositionAmbiguous | .duplicateCandidate | .overlapsSelectedCandidate => true
  | .staleQuery | .noSidecarRecord | .cacheKeyMismatch => false

structure RejectedLmcacheCandidate where
  candidate : LmcacheCandidate
  reason : RejectionReason
  deriving DecidableEq

structure LmcacheLookupCounters where
  rawCandidates : ℕ
  rawCandidateTokens : ℕ
  foundCandidates : ℕ
  foundCandidateTokens : ℕ
  verifiedCandidates : ℕ
  verifiedCandidateTokens : ℕ
  rejectedCandidates : ℕ
  rejectedCandidateTokens : ℕ
  deriving DecidableEq

/-- `LmcacheLookupCounters.__post_init__`. -/
def LmcacheLookupCounters.Reconciled (c : LmcacheLookupCounters) : Prop :=
  c.rawCandidates = c.verifiedCandidates+c.rejectedCandidates ∧
  c.rawCandidateTokens = c.verifiedCandidateTokens+c.rejectedCandidateTokens ∧
  c.foundCandidates ≤ c.rawCandidates ∧
  c.foundCandidateTokens ≤ c.rawCandidateTokens ∧
  c.verifiedCandidates ≤ c.foundCandidates ∧
  c.verifiedCandidateTokens ≤ c.foundCandidateTokens

instance (c : LmcacheLookupCounters) : Decidable c.Reconciled :=
  inferInstanceAs (Decidable (_ ∧ _))

structure LmcacheLookupPlan where
  verifiedCandidates : List VerifiedLmcacheCandidate
  rejectedCandidates : List RejectedLmcacheCandidate
  counters : LmcacheLookupCounters
  reconciled : counters.Reconciled
  deriving DecidableEq

def LmcacheLookupPlan.foundTargetTokenCount (p : LmcacheLookupPlan) : ℕ :=
  coveredTokenCount (p.verifiedCandidates.map (fun v => v.candidate.targetRange) ++
    (p.rejectedCandidates.filter (fun r => r.reason.found)).map
      (fun r => r.candidate.targetRange))

structure PotentialCandidate where
  rawIndex : ℕ
  verified : VerifiedLmcacheCandidate
  deriving DecidableEq

def PotentialCandidate.candidate (p : PotentialCandidate) : LmcacheCandidate :=
  p.verified.candidate

abbrev CandidateSortKey := ℕ ×ₗ ℕ ×ₗ String ×ₗ ℕ ×ₗ ℕ ×ₗ String ×ₗ Bytes

def candidateSortKey (c : LmcacheCandidate) : CandidateSortKey :=
  toLex (c.targetRange.start, toLex (c.targetRange.stop, toLex (c.cacheKey,
    toLex (c.sourceRelativeRange.start, toLex (c.sourceRelativeRange.stop,
      toLex (c.storageModelName.val, c.queryDigest.val))))))

abbrev PotentialSortKey := CandidateSortKey ×ₗ ℕ ×ₗ ℕ ×ₗ ℕ

def potentialSortKey (p : PotentialCandidate) : PotentialSortKey :=
  toLex (candidateSortKey p.candidate, toLex (p.verified.verified.record.sourceRange.start,
    toLex (p.verified.verified.record.sourceRange.stop, p.rawIndex)))

abbrev RecordSortKey := String ×ₗ ℕ ×ₗ ℕ ×ₗ Bytes ×ₗ List TokenId ×ₗ List (String ×ₗ String)

def recordSortKey (r : CacheRecord) : RecordSortKey :=
  toLex (r.cacheKey, toLex (r.sourceRange.start, toLex (r.sourceRange.stop,
    toLex (r.fingerprint.digest.val, toLex (r.tokenIds,
      r.cacheNamespace.canonicalFields.map toLex)))))

structure Solution where
  tokenCount : ℕ
  potentialIndexes : List ℕ
  tieBreakKey : List PotentialSortKey

def betterSolution (left right : Solution) : Solution :=
  if left.tokenCount ≠ right.tokenCount then
    if left.tokenCount > right.tokenCount then left else right
  else if left.tieBreakKey ≤ right.tieBreakKey then left else right

/-- Interval scheduling of potential candidates paired with their indexes. -/
def schedulingProblem : Scheduling.Problem (PotentialCandidate × ℕ) Solution where
  start p := p.1.candidate.targetRange.start
  stop p := p.1.candidate.targetRange.stop
  empty := ⟨0, [], []⟩
  extend s p := ⟨s.tokenCount+p.1.candidate.targetRange.size, s.potentialIndexes ++ [p.2],
    s.tieBreakKey ++ [potentialSortKey p.1]⟩
  better := betterSolution

def orderedPotentials (potentials : List PotentialCandidate) : List (PotentialCandidate × ℕ) :=
  sortedBy (fun p => toLex (p.1.candidate.targetRange.stop, potentialSortKey p.1))
    potentials.zipIdx

def selectNonOverlapping (potentials : List PotentialCandidate) : List ℕ :=
  (Scheduling.schedule schedulingProblem (orderedPotentials potentials)).potentialIndexes

/-- `min(xs, key=key)` of a list that is not empty: its first minimum. -/
def firstMin {α κ : Type*} [LinearOrder κ] (key : α → κ) (xs : List α) (h : xs ≠ []) : α :=
  (xs.argmin key).get (Option.isSome_iff_ne_none.mpr fun he => h (List.argmin_eq_none.mp he))

theorem firstMin_mem {α κ : Type*} [LinearOrder κ] (key : α → κ) (xs : List α) (h : xs ≠ []) :
    firstMin key xs h ∈ xs :=
  List.argmin_mem (Option.some_get _).symm

inductive Verdict where
  | rejected (reason : RejectionReason) (found : Bool)
  | verified (v : VerifiedLmcacheCandidate)
  deriving DecidableEq

/-- The records of a namespace and fingerprint, or the exception of the
lookup. The first argument is the raw index of the candidate that asks, so a
lookup may answer differently each time; a pure lookup ignores it. -/
abbrev RecordLookup := ℕ → CacheNamespace → SegmentFingerprint →
  Except LookupException (List CacheRecord)

abbrev BucketCache := Dict SegmentFingerprint (List CacheRecord)

structure LookupState where
  bucketCache : BucketCache
  potentials : List PotentialCandidate
  rejected : List (ℕ × RejectedLmcacheCandidate)
  foundRawIndexes : List ℕ

def LookupState.initial : LookupState := ⟨Dict.empty, [], [], []⟩

def LookupState.add (st : LookupState) (rawIndex : ℕ) (c : LmcacheCandidate)
    (cache : BucketCache) : Verdict → LookupState
  | .rejected reason found => { st with
      bucketCache := cache
      rejected := st.rejected ++ [(rawIndex, ⟨c, reason⟩)]
      foundRawIndexes := if found then st.foundRawIndexes ++ [rawIndex]
        else st.foundRawIndexes }
  | .verified v => { st with
      bucketCache := cache
      potentials := st.potentials ++ [⟨rawIndex, v⟩]
      foundRawIndexes := st.foundRawIndexes ++ [rawIndex] }

def targetSegment (prompt : List TokenId) (c : LmcacheCandidate)
    (h : c.targetRange.stop ≤ prompt.length) : TokenSegment where
  tokenRange := c.targetRange
  tokenIds := (prompt.take c.targetRange.stop).drop c.targetRange.start
  nonempty := by
    have hp := c.target_nonempty
    unfold TokenRange.size at hp
    apply List.ne_nil_of_length_pos
    rw [List.length_drop, List.length_take]
    omega
  size_eq := by
    rw [List.length_drop, List.length_take]
    unfold TokenRange.size
    omega

def lookupBucket (lookup : RecordLookup) (rawIndex : ℕ) (cacheNamespace : CacheNamespace)
    (fp : SegmentFingerprint) : Except LmcacheLookupError (List CacheRecord) :=
  match lookup rawIndex cacheNamespace fp with
  | .error e => .error ⟨.sidecarLookupFailed, some e⟩
  | .ok bucket => .ok (sortedBy recordSortKey bucket)

def cachedBucket (lookup : RecordLookup) (rawIndex : ℕ) (cacheNamespace : CacheNamespace)
    (fp : SegmentFingerprint) (cache : BucketCache) :
    Except LmcacheLookupError (List CacheRecord × BucketCache) :=
  match cache.get? fp with
  | some bucket => .ok (bucket, cache)
  | none => do
    let bucket ← lookupBucket lookup rawIndex cacheNamespace fp
    .ok (bucket, cache.set fp bucket)

section
variable (sha256 : Bytes → Digest)

def verifyRecord (cacheNamespace : CacheNamespace) (segment : TokenSegment)
    (queryFingerprint : SegmentFingerprint) (r : CacheRecord) : Option RejectionReason :=
  if r.cacheNamespace ≠ cacheNamespace then some .namespaceMismatch
  else if r.fingerprint ≠ queryFingerprint then some .fingerprintMismatch
  else if r.tokenIds ≠ segment.tokenIds then some .tokenMismatch
  else if fingerprint sha256 r.cacheNamespace r.tokenIds ≠ r.fingerprint then
    some .fingerprintMismatch
  else none

theorem invalidReasons_ne_nil {records : List CacheRecord}
    {verify : CacheRecord → Option RejectionReason} (hb : records ≠ [])
    (hv : records.filter (fun r => verify r = none) = []) : records.filterMap verify ≠ [] := by
  obtain ⟨r, hr⟩ := List.exists_mem_of_ne_nil records hb
  have hn : verify r ≠ none := by
    intro he
    exact List.not_mem_nil (hv ▸ List.mem_filter.mpr ⟨hr, decide_eq_true he⟩)
  obtain ⟨reason, hreason⟩ := Option.ne_none_iff_exists'.mp hn
  exact List.ne_nil_of_mem (List.mem_filterMap.mpr ⟨r, hr, hreason⟩)

def judgeBound (cacheNamespace : CacheNamespace) (c : LmcacheCandidate)
    (segment : TokenSegment) (fp : SegmentFingerprint) (boundRecords : List CacheRecord)
    (hb : boundRecords ≠ []) : Except LmcacheLookupError Verdict :=
  if hv : boundRecords.filter
      (fun r => verifyRecord sha256 cacheNamespace segment fp r = none) = [] then
    .ok (.rejected (firstMin RejectionReason.priority
      (boundRecords.filterMap (verifyRecord sha256 cacheNamespace segment fp))
      (invalidReasons_ne_nil hb hv)) true)
  else
    let validRecords := boundRecords.filter
      (fun r => verifyRecord sha256 cacheNamespace segment fp r = none)
    if (validRecords.map CacheRecord.sourceRange).dedup.length ≠ 1 then
      .ok (.rejected .sourcePositionAmbiguous true)
    else
      match VerifiedLmcacheCandidate.bind sha256 c
        ⟨⟨segment, fp, firstMin recordSortKey validRecords hv⟩⟩ cacheNamespace with
      | .error _ => .error ⟨.bindingInvariantFailed, none⟩
      | .ok v => .ok (.verified v)

/-- The verdict on a candidate from the bucket of its target segment. -/
def judge (cacheNamespace : CacheNamespace) (c : LmcacheCandidate) (segment : TokenSegment)
    (fp : SegmentFingerprint) (bucket : List CacheRecord) :
    Except LmcacheLookupError Verdict :=
  if bucket = [] then .ok (.rejected .noSidecarRecord false)
  else if hb : bucket.filter (fun r => r.cacheKey = c.cacheKey) = [] then
    .ok (.rejected .cacheKeyMismatch false)
  else judgeBound sha256 cacheNamespace c segment fp
    (bucket.filter (fun r => r.cacheKey = c.cacheKey)) hb

def considerCandidate (lookup : RecordLookup) (prompt : List TokenId)
    (cacheNamespace : CacheNamespace) (rawIndex : ℕ) (c : LmcacheCandidate)
    (st : LookupState) : Except LmcacheLookupError LookupState :=
  if h : c.targetRange.stop ≤ prompt.length then
    if c.queryDigest ≠ queryDigest sha256 prompt then
      .ok (st.add rawIndex c st.bucketCache (.rejected .staleQuery false))
    else do
      let segment := targetSegment prompt c h
      let fp := fingerprint sha256 cacheNamespace segment.tokenIds
      let (bucket, cache) ← cachedBucket lookup rawIndex cacheNamespace fp st.bucketCache
      let verdict ← judge sha256 cacheNamespace c segment fp bucket
      .ok (st.add rawIndex c cache verdict)
  else .error ⟨.targetRangeOutOfBounds, none⟩

def considerAll (lookup : RecordLookup) (prompt : List TokenId)
    (cacheNamespace : CacheNamespace) : ℕ → List LmcacheCandidate → LookupState →
      Except LmcacheLookupError LookupState
  | _, [], st => .ok st
  | rawIndex, c::rest, st => do
    let st' ← considerCandidate sha256 lookup prompt cacheNamespace rawIndex c st
    considerAll lookup prompt cacheNamespace (rawIndex+1) rest st'

def tokenTotal (cs : List LmcacheCandidate) : ℕ := (cs.map (fun c => c.targetRange.size)).sum

def selectedPotentials (potentials : List PotentialCandidate) : List PotentialCandidate :=
  (potentials.zipIdx.filter (fun p => p.2 ∈ selectNonOverlapping potentials)).map Prod.fst

def unselectedPotentials (potentials : List PotentialCandidate) : List PotentialCandidate :=
  (potentials.zipIdx.filter (fun p => p.2 ∉ selectNonOverlapping potentials)).map Prod.fst

def sortVerified (vs : List VerifiedLmcacheCandidate) : List VerifiedLmcacheCandidate :=
  sortedBy (fun v => toLex (candidateSortKey v.candidate,
    toLex (v.verified.record.sourceRange.start, v.verified.record.sourceRange.stop))) vs

def sortRejected (rejected : List (ℕ × RejectedLmcacheCandidate)) :
    List RejectedLmcacheCandidate :=
  (sortedBy (fun r => toLex (candidateSortKey r.2.candidate, toLex (r.2.reason.value, r.1)))
    rejected).map Prod.snd

def rejectUnselected (selected : List LmcacheCandidate) (p : PotentialCandidate) :
    ℕ × RejectedLmcacheCandidate :=
  (p.rawIndex, ⟨p.candidate, if p.candidate ∈ selected then .duplicateCandidate
    else .overlapsSelectedCandidate⟩)

/-- The part of `plan` after the loop over the candidates. -/
def concludePlan (candidates : List LmcacheCandidate) (st : LookupState) :
    Except LmcacheLookupError LmcacheLookupPlan :=
  let selected :=
    sortVerified ((selectedPotentials st.potentials).map PotentialCandidate.verified)
  let selectedCandidates := selected.map VerifiedLmcacheCandidate.candidate
  let rejected := sortRejected (st.rejected ++
    (unselectedPotentials st.potentials).map (rejectUnselected selectedCandidates))
  let counters : LmcacheLookupCounters := {
    rawCandidates := candidates.length
    rawCandidateTokens := tokenTotal candidates
    foundCandidates := st.foundRawIndexes.length
    foundCandidateTokens := tokenTotal (st.foundRawIndexes.filterMap (candidates[·]?))
    verifiedCandidates := selected.length
    verifiedCandidateTokens := tokenTotal selectedCandidates
    rejectedCandidates := rejected.length
    rejectedCandidateTokens := tokenTotal (rejected.map RejectedLmcacheCandidate.candidate) }
  if h : counters.Reconciled then .ok ⟨selected, rejected, counters, h⟩
  else .error ⟨.accountingInvariantFailed, none⟩

/-- `LmcacheCandidateLookupCoordinator.plan`. -/
def plan (lookup : RecordLookup) (promptTokenIds : List ℤ) (cacheNamespace : CacheNamespace)
    (candidates : List LmcacheCandidate) : Except LmcacheLookupError LmcacheLookupPlan :=
  match normalizeTokenIds promptTokenIds with
  | .error _ => .error ⟨.invalidPromptTokens, none⟩
  | .ok prompt => do
    let st ← considerAll sha256 lookup prompt cacheNamespace 0 candidates .initial
    concludePlan candidates st

end

end CacheBlend.CandidateLookup
