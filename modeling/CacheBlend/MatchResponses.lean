import CacheBlend.LmcacheTransport
import CacheBlend.LookupPlans
import CacheBlend.SchedulerRuntime
import Mathlib.Data.List.Dedup

/-!
# Responses of the exact matcher at the scheduler

The matcher reports every indexed hash whose chunk occurs in the query, each
once. The scheduler bounds the candidates by the number of query windows, so
a response passes its checks exactly when no more hashes than windows occur.
Distinct hashes of equal chunks can exceed that bound.
-/

set_option autoImplicit false

namespace CacheBlend.MatchResponses
open CacheBlend.PlannerModels CacheBlend.SegmentFingerprints CacheBlend.LmcacheTypes
open CacheBlend.CandidateLookup CacheBlend.LookupPlans
open CacheBlend.ExactMatcher CacheBlend.LmcacheTransport CacheBlend.SchedulerRuntime

section
variable {chunkSize : ℕ}

/-- Record a match unless its hash was seen. -/
def take (s : Search) (r : CBMatchResult) : Search :=
  if r.hash ∈ s.seenHashes then s else ⟨s.results ++ [r], r.hash :: s.seenHashes⟩

def hitsIn (tokenIds : List ℤ) (queryStart : ℕ) (es : List (Bytes × StoredChunk chunkSize)) :
    List CBMatchResult :=
  (es.filter (fun e => window tokenIds queryStart chunkSize = e.2.tokens)).map
    (fun e => matchResult queryStart e.1 e.2)

def allHits (m : TokenRangeMatcher chunkSize) (tokenIds : List ℤ) : List CBMatchResult :=
  (List.range (tokenIds.length-chunkSize+1)).flatMap
    (fun queryStart => hitsIn tokenIds queryStart (bucketAt m tokenIds queryStart))

theorem take_foldl (rs : List CBMatchResult) (s : Search) :
    (rs.foldl take s).results =
      s.results ++ firstBy CBMatchResult.hash s.seenHashes rs := by
  induction rs generalizing s with
  | nil => simp [firstBy]
  | cons r rs ih =>
    rw [List.foldl_cons, ih, firstBy]
    by_cases h : r.hash ∈ s.seenHashes
    · rw [take, if_pos h, if_pos h]
    · rw [take, if_neg h, if_neg h, List.append_assoc, List.singleton_append]

theorem offer_foldl (tokenIds : List ℤ) (queryStart : ℕ)
    (es : List (Bytes × StoredChunk chunkSize)) (s : Search) :
    es.foldl (Search.offer tokenIds queryStart) s =
      (hitsIn tokenIds queryStart es).foldl take s := by
  induction es generalizing s with
  | nil => rfl
  | cons e es ih =>
    rw [List.foldl_cons, ih]
    unfold hitsIn Search.offer
    by_cases hw : window tokenIds queryStart chunkSize = e.2.tokens
    · have hh : (matchResult queryStart e.1 e.2).hash = e.1 := rfl
      rw [List.filter_cons, if_pos (decide_eq_true hw), List.map_cons, List.foldl_cons, take, hh,
        if_neg (not_not.mpr hw)]
    · rw [List.filter_cons, if_pos hw, ite_self,
        if_neg (fun h => hw (of_decide_eq_true h))]

theorem matchSubSequence_eq (m : TokenRangeMatcher chunkSize) (tokenIds : List ℤ)
    (hc : 0 < chunkSize) (hl : chunkSize ≤ tokenIds.length) :
    m.matchSubSequence tokenIds =
      .ok (firstBy CBMatchResult.hash [] (allHits m tokenIds)) := by
  have hfold : ∀ (starts : List ℕ) (s : Search),
      starts.foldl (Search.window m tokenIds) s =
        (starts.flatMap (fun q => hitsIn tokenIds q (bucketAt m tokenIds q))).foldl take s := by
    intro starts
    induction starts with
    | nil => exact fun _ => rfl
    | cons q qs ih =>
      intro s
      rw [List.foldl_cons, ih, List.flatMap_cons, List.foldl_append, ← offer_foldl]
      rfl
  unfold TokenRangeMatcher.matchSubSequence
  rw [if_neg (by omega), if_neg (by omega), hfold, take_foldl]
  rfl

def stored (m : TokenRangeMatcher chunkSize) : List (Bytes × StoredChunk chunkSize) :=
  m.byFirstToken.entries.flatMap (fun e => e.2.entries)

theorem mem_stored (m : TokenRangeMatcher chunkSize) (e : Bytes × StoredChunk chunkSize) :
    e ∈ stored m ↔
      ∃ first bucket, m.byFirstToken.get? first = some bucket ∧ e ∈ bucket.entries := by
  simp only [stored, List.mem_flatMap, Dict.get?_iff]
  constructor
  · rintro ⟨b, hb, he⟩
    exact ⟨b.1, b.2, hb, he⟩
  · rintro ⟨first, bucket, hb, he⟩
    exact ⟨(first, bucket), hb, he⟩

theorem mem_bucketAt {m : TokenRangeMatcher chunkSize} (hm : Bucketed m) (tokenIds : List ℤ)
    (q : ℕ) (e : Bytes × StoredChunk chunkSize)
    (hw : window tokenIds q chunkSize = e.2.tokens) :
    e ∈ bucketAt m tokenIds q ↔ e ∈ stored m := by
  have hq : tokenIds[q]? = some e.2.first := by
    rw [← window_head tokenIds q chunkSize e.2.chunkSize_pos, hw, StoredChunk.first_eq]
  unfold bucketAt
  rw [hq, mem_stored]
  dsimp only
  constructor
  · intro he
    unfold TokenRangeMatcher.bucket at he
    cases hb : m.byFirstToken.get? e.2.first with
    | none =>
      rw [hb] at he
      exact absurd he List.not_mem_nil
    | some bucket =>
      rw [hb] at he
      exact ⟨_, bucket, hb, he⟩
  · rintro ⟨first, bucket, hb, he⟩
    have hf : e.2.first = first := hm first bucket e.1 e.2 hb ((Dict.get?_iff _ _ _).mpr he)
    unfold TokenRangeMatcher.bucket
    rw [hf, hb]
    exact he

theorem mem_allHits {m : TokenRangeMatcher chunkSize} (hm : Bucketed m) (tokenIds : List ℤ)
    (hl : chunkSize ≤ tokenIds.length) (r : CBMatchResult) :
    r ∈ allHits m tokenIds ↔ ∃ q, q+chunkSize ≤ tokenIds.length ∧
      ∃ e ∈ stored m, window tokenIds q chunkSize = e.2.tokens ∧ r = matchResult q e.1 e.2 := by
  simp only [allHits, hitsIn, List.mem_flatMap, List.mem_range, List.mem_map, List.mem_filter,
    decide_eq_true_eq]
  constructor
  · rintro ⟨q, hq, e, ⟨he, hw⟩, rfl⟩
    exact ⟨q, by omega, e, (mem_bucketAt hm tokenIds q e hw).mp he, hw, rfl⟩
  · rintro ⟨q, hq, e, he, hw, rfl⟩
    exact ⟨q, by omega, e, ⟨(mem_bucketAt hm tokenIds q e hw).mpr he, hw⟩, rfl⟩

def occurringHashes (m : TokenRangeMatcher chunkSize) (tokenIds : List ℤ) : List Bytes :=
  (((stored m).filter (fun e => e.2.tokens <:+: tokenIds)).map Prod.fst).dedup

theorem matched_hashes_perm {m : TokenRangeMatcher chunkSize} (hm : Bucketed m)
    (tokenIds : List ℤ) (hl : chunkSize ≤ tokenIds.length) :
    ((firstBy CBMatchResult.hash [] (allHits m tokenIds)).map CBMatchResult.hash).Perm
      (occurringHashes m tokenIds) := by
  refine (List.perm_ext_iff_of_nodup (firstBy_keys_nodup _ _ _) (List.nodup_dedup _)).mpr ?_
  intro h
  rw [mem_firstBy_keys, List.mem_dedup]
  simp only [List.mem_map, List.mem_filter, decide_eq_true_eq]
  constructor
  · rintro ⟨r, hr, rfl⟩
    obtain ⟨q, _, e, he, hw, rfl⟩ := (mem_allHits hm tokenIds hl r).mp hr
    exact ⟨e, ⟨he, hw ▸ window_infix tokenIds q chunkSize⟩, rfl⟩
  · rintro ⟨e, ⟨he, hi⟩, rfl⟩
    obtain ⟨q, hq, hw⟩ := window_of_infix tokenIds e.2.tokens hi
    rw [e.2.size_eq] at hq hw
    exact ⟨_, (mem_allHits hm tokenIds hl _).mpr ⟨q, hq, e, he, hw, rfl⟩, rfl⟩

end

def values (tokens : List TokenId) : List ℤ := tokens.map (fun t => (t.val : ℤ))

@[simp] theorem values_length (tokens : List TokenId) : (values tokens).length = tokens.length :=
  List.length_map _

theorem hits_complete {m : TokenRangeMatcher lmcacheChunkSize} (hm : Bucketed m)
    (prompt : List TokenId) (hp : lmcacheChunkSize ≤ prompt.length) (r : CBMatchResult)
    (hr : r ∈ allHits m (values prompt)) : Complete prompt r := by
  obtain ⟨q, hq, e, _, _, rfl⟩ :=
    (mem_allHits hm (values prompt) (by rw [values_length]; exact hp) r).mp hr
  rw [values_length] at hq
  exact {
    source_start := Int.natCast_nonneg _
    source_stop := rfl
    target_start := Int.natCast_nonneg _
    target_stop := rfl
    in_query := by
      simp only [matchResult]
      omega }

theorem parsed_exists (model : NamespaceText) (digest : Digest) (tokens : List TokenId)
    (raw : CBMatchResult) (h : Complete tokens raw) (hh : raw.hash.length = 32) :
    ∃ c, Parsed model digest raw c := by
  obtain ⟨s, hs⟩ := Int.eq_ofNat_of_zero_le h.source_start
  obtain ⟨t, ht⟩ := Int.eq_ofNat_of_zero_le h.target_start
  have hsize : ∀ start, (queryWindow start).size = lmcacheChunkSize := fun start =>
    Nat.add_sub_cancel_left start lmcacheChunkSize
  exact ⟨⟨queryWindow s, queryWindow t, ⟨raw.hash, hh⟩, model, digest,
    (hsize t).symm ▸ (by decide), (hsize s).trans (hsize t).symm⟩,
    hs.symm, ht.symm, hsize s, hsize t, rfl, rfl, rfl⟩

theorem parsed_all (model : NamespaceText) (digest : Digest) (tokens : List TokenId)
    (rs : List CBMatchResult) (h : ∀ r ∈ rs, Complete tokens r)
    (hh : ∀ r ∈ rs, r.hash.length = 32) :
    ∃ parsed, List.Forall₂ (Parsed model digest) rs parsed := by
  induction rs with
  | nil => exact ⟨[], .nil⟩
  | cons r rs ih =>
    obtain ⟨c, hc⟩ := parsed_exists model digest tokens r (h r (by simp)) (hh r (by simp))
    obtain ⟨cs, hcs⟩ := ih (fun r' hr => h r' (by simp [hr])) (fun r' hr => hh r' (by simp [hr]))
    exact ⟨c::cs, .cons hc hcs⟩

theorem parsed_hashes {model : NamespaceText} {digest : Digest} {rs : List CBMatchResult}
    {parsed : List LmcacheCandidate} (h : List.Forall₂ (Parsed model digest) rs parsed) :
    rs.map CBMatchResult.hash = parsed.map (fun c => c.storageHash.val) ∧
      ∀ c ∈ parsed, c.sourceRelativeRange.size = lmcacheChunkSize ∧
        c.targetRange.size = lmcacheChunkSize := by
  induction h with
  | nil => exact ⟨rfl, fun c hc => absurd hc List.not_mem_nil⟩
  | cons hr _ ih =>
    obtain ⟨_, _, hs, ht, hh, _, _⟩ := hr
    refine ⟨by rw [List.map_cons, List.map_cons, ih.1, hh], fun c hc => ?_⟩
    obtain rfl | hc := List.mem_cons.mp hc
    · exact ⟨hs, ht⟩
    · exact ih.2 c hc

theorem structuralChecks_ok_iff (candidates : List LmcacheCandidate) (windowCount : ℕ) :
    SchedulerLookupRuntime.structuralChecks candidates windowCount = .ok () ↔
      (∀ c ∈ candidates, c.sourceRelativeRange.size = lmcacheChunkSize ∧
        c.targetRange.size = lmcacheChunkSize) ∧ candidates.length ≤ windowCount := by
  unfold SchedulerLookupRuntime.structuralChecks
  rw [require_then_iff, require_ok_iff]

theorem queryWindows_length (n : ℕ) (h : lmcacheChunkSize ≤ n) :
    (queryWindowsOf n).length = n-lmcacheChunkSize+1 := by
  unfold queryWindowsOf
  rw [if_neg (by omega), List.length_map, List.length_range]

section
variable (sha256 : Bytes → Digest) (model : NamespaceText)

/-- The response decodes, and its candidates pass the structural checks. -/
def Accepted (prompt : List TokenId) (response : List CBMatchResult) : Prop :=
  ∃ candidates, decodeCandidates sha256 model prompt response = .ok candidates ∧
    SchedulerLookupRuntime.structuralChecks candidates
      (queryWindowsOf prompt.length).length = .ok ()

/-- The response of any reachable index to any query is accepted exactly when
every hash that occurs has thirty-two bytes and no more of them occur than the
query has windows. -/
theorem response_accepted_iff (m : TokenRangeMatcher lmcacheChunkSize) (hm : Indexed m)
    (prompt : List TokenId) (hp : lmcacheChunkSize ≤ prompt.length) :
    ∃ response, m.matchSubSequence (values prompt) = .ok response ∧
      (Accepted sha256 model prompt response ↔
        (∀ h ∈ occurringHashes m (values prompt), h.length = 32) ∧
          (occurringHashes m (values prompt)).length ≤ prompt.length-lmcacheChunkSize+1) := by
  have hl : lmcacheChunkSize ≤ (values prompt).length := by rwa [values_length]
  have hb := indexed_bucketed hm
  have hperm := matched_hashes_perm hb (values prompt) hl
  refine ⟨_, matchSubSequence_eq m (values prompt) (by decide) hl, ?_⟩
  generalize hrs : firstBy CBMatchResult.hash [] (allHits m (values prompt)) = rs at hperm ⊢
  have hcomplete : ∀ r ∈ rs, Complete prompt r := fun r hr =>
    hits_complete hb prompt hp r ((firstBy_sublist _ _ _).subset (hrs ▸ hr))
  unfold Accepted
  simp only [decodeCandidates_iff sha256 model prompt rs hcomplete, structuralChecks_ok_iff,
    queryWindows_length prompt.length hp, ← hperm.length_eq, List.length_map, ← hperm.mem_iff]
  constructor
  · rintro ⟨_, ⟨parsed, hparsed, rfl⟩, _, hcount⟩
    obtain ⟨hhash, _⟩ := parsed_hashes hparsed
    rw [length_sortedBy, ← hparsed.length_eq] at hcount
    refine ⟨fun h hh => ?_, hcount⟩
    rw [hhash] at hh
    obtain ⟨c, _, rfl⟩ := List.mem_map.mp hh
    exact c.storageHash.property
  · rintro ⟨hhash, hcount⟩
    obtain ⟨parsed, hparsed⟩ := parsed_all model (queryDigest sha256 prompt) prompt rs hcomplete
      (fun r hr => hhash _ (List.mem_map_of_mem hr))
    refine ⟨_, ⟨parsed, hparsed, rfl⟩, fun c hc => ?_, ?_⟩
    · exact (parsed_hashes hparsed).2 c ((mem_sortedBy _ _ _).mp hc)
    · rw [length_sortedBy, ← hparsed.length_eq]
      exact hcount

end

/-- A document of one token repeated, whose two equal chunks have chained hashes. -/
def repeatedDocument : MatcherCall :=
  .onNewTokenHashes (List.replicate 512 0) [List.replicate 32 1, List.replicate 32 2]

/-- What decides the verdict on a prompt that the index has matches for. -/
def withinWindows (prompt : List TokenId) (m : TokenRangeMatcher lmcacheChunkSize) : Bool :=
  (∀ h ∈ occurringHashes m (values prompt), h.length = 32) ∧
    (occurringHashes m (values prompt)).length ≤ prompt.length-lmcacheChunkSize+1

theorem repeatedDocument_within :
    ((TokenRangeMatcher.initial lmcacheChunkSize).perform repeatedDocument).toOption.map (fun m =>
      (withinWindows (List.replicate 257 0) m,
        (m.matchSubSequence (values (List.replicate 257 0))).toOption.map List.length)) =
      some (true, some 2) := by
  decide +kernel

/-- After the repeated document the response to a prompt of 257 tokens has two
matches, and is accepted. -/
theorem repeated_document_accepted :
    ∃ (m : TokenRangeMatcher lmcacheChunkSize) (response : List CBMatchResult), Indexed m ∧
      (TokenRangeMatcher.initial lmcacheChunkSize).perform repeatedDocument = .ok m ∧
      m.matchSubSequence (values (List.replicate 257 0)) = .ok response ∧ response.length = 2 ∧
      Accepted (fun _ => zeroDigest) exampleText (List.replicate 257 0) response := by
  obtain ⟨m, hm, hw⟩ := Option.map_eq_some_iff.mp repeatedDocument_within
  obtain ⟨hwithin, hcount⟩ := Prod.mk.inj hw
  have hindexed : Indexed m := ⟨[repeatedDocument], .snoc .nil (toOption_some hm)⟩
  obtain ⟨response, hr, hiff⟩ := response_accepted_iff (fun _ => zeroDigest) exampleText m hindexed
    (List.replicate 257 0) (by rw [List.length_replicate]; decide)
  rw [hr] at hcount
  exact ⟨m, response, hindexed, toOption_some hm, hr, Option.some.inj hcount,
    hiff.mpr (of_decide_eq_true hwithin)⟩

/-- The candidates of the query of one chunk, if their count fails the checks. -/
def overflowing (m : TokenRangeMatcher lmcacheChunkSize) : Option (List LmcacheCandidate) := do
  let response ← (m.matchSubSequence (values (List.replicate 256 0))).toOption
  let candidates ← (decodeCandidates (fun _ => zeroDigest) exampleText
    (List.replicate 256 0) response).toOption
  if SchedulerLookupRuntime.structuralChecks candidates (queryWindowsOf 256).length =
    .error .fatalProtocolDrift then some candidates else none

theorem repeatedDocument_overflows :
    (((TokenRangeMatcher.initial lmcacheChunkSize).perform repeatedDocument).toOption.bind
      overflowing).isSome = true := by
  decide +kernel

/-- After the repeated document the response to its first chunk fails the
checks, and the runtime becomes fatal whatever the sidecar holds. -/
theorem repeated_document_rejected :
    ∃ (m : TokenRangeMatcher lmcacheChunkSize) (response : List CBMatchResult)
      (candidates : List LmcacheCandidate), Indexed m ∧
      m.matchSubSequence (values (List.replicate 256 0)) = .ok response ∧
      decodeCandidates (fun _ => zeroDigest) exampleText (List.replicate 256 0) response =
        .ok candidates ∧
      ¬Accepted (fun _ => zeroDigest) exampleText (List.replicate 256 0) response ∧
      ∀ (config : RuntimeConfig) (records : RecordLookup) (request : SchedulerLookupRequest)
        (rt : SchedulerLookupRuntime),
        (rt.mark (SchedulerLookupRuntime.verifyCandidates (fun _ => zeroDigest) config records
          request candidates (queryWindowsOf 256).length).1).state = .fatal := by
  obtain ⟨candidates, hs⟩ := Option.isSome_iff_exists.mp repeatedDocument_overflows
  obtain ⟨m, hm, ho⟩ := Option.bind_eq_some_iff.mp hs
  unfold overflowing at ho
  simp only [Option.bind_eq_bind, Option.bind_eq_some_iff] at ho
  obtain ⟨response, hr, cs, hc, ho⟩ := ho
  split_ifs at ho with hcheck
  cases ho
  have hd := toOption_some hc
  have hindexed : Indexed m := ⟨[repeatedDocument], .snoc .nil (toOption_some hm)⟩
  refine ⟨m, response, candidates, hindexed, toOption_some hr, hd, ?_, ?_⟩
  · rintro ⟨cs, hcs, hok⟩
    rw [hd] at hcs
    cases hcs
    rw [List.length_replicate, hcheck] at hok
    cases hok
  · intro config records request rt
    unfold SchedulerLookupRuntime.verifyCandidates
    rw [hcheck]
    rfl

end CacheBlend.MatchResponses
