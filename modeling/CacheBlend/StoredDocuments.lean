import CacheBlend.DocumentStores

/-!
# Stored documents are found

A lookup after any run of stores. The server offers every chunk it holds at
its first place in the prompt, and nothing else. An offer is verified exactly
when a document with the chunk is published in the namespace, and a published
chunk is then lost to an overlapping one only, so what is loaded covers the
prompt at least as well as any disjoint choice of stored chunks.
-/

set_option autoImplicit false

namespace CacheBlend.StoredDocuments
open CacheBlend.PlannerModels CacheBlend.SegmentFingerprints CacheBlend.LmcacheTypes
open CacheBlend.CandidateLookup CacheBlend.CandidateVerdicts CacheBlend.LookupPlans
open CacheBlend.ExactMatcher CacheBlend.MatchResponses CacheBlend.ExactMatches
open CacheBlend.LmcacheTransport (decodeCandidates Parsed Complete decodeCandidates_iff)
open CacheBlend.SidecarRows (NamespaceValid)
open CacheBlend.SidecarIndex CacheBlend.SidecarHistories CacheBlend.TransferRuntime
open CacheBlend.StoreReceipts CacheBlend.DocumentStores

/-! ## What the server offers -/

/-- The candidate of a chunk of a document at a position of the prompt. -/
structure Offers (chunkHash : List TokenId → Digest) (model : NamespaceText) (digest : Digest)
    (document : List TokenId) (i position : ℕ) (c : LmcacheCandidate) : Prop where
  source_start : c.sourceRelativeRange.start = i*lmcacheChunkSize
  source_size : c.sourceRelativeRange.size = lmcacheChunkSize
  target_start : c.targetRange.start = position
  target_size : c.targetRange.size = lmcacheChunkSize
  hash : c.storageHash = chunkHash (prefixOf document i)
  model : c.storageModelName = model
  digest : c.queryDigest = digest

/-- A chunk that the server holds, at its first place in the prompt. -/
structure Occurs (chunkHash : List TokenId → Digest) (es : List StoreEvent)
    (prompt document : List TokenId) (i position : ℕ) : Prop where
  complete : i < chunkCount document
  live : Live es document (chunkHash (prefixOf document i)).val
  first : FirstAt (values prompt) (values (chunkWork document i).tokenIds) position

theorem range_of_size {r r' : TokenRange} (hs : r.start = r'.start) (hl : r.size = r'.size) :
    r = r' := by
  apply (TokenRange.ext_iff' r r').mpr
  have h := r.ordered
  have h' := r'.ordered
  rw [TokenRange.size, TokenRange.size] at hl
  exact ⟨hs, by omega⟩

theorem candidate_ext {c c' : LmcacheCandidate}
    (hs : c.sourceRelativeRange = c'.sourceRelativeRange) (ht : c.targetRange = c'.targetRange)
    (hh : c.storageHash = c'.storageHash) (hm : c.storageModelName = c'.storageModelName)
    (hd : c.queryDigest = c'.queryDigest) : c = c' := by
  cases c
  cases c'
  simp_all

theorem parsed_unique {model : NamespaceText} {digest : Digest} {raw : CBMatchResult}
    {c c' : LmcacheCandidate} (h : Parsed model digest raw c) (h' : Parsed model digest raw c') :
    c = c' := by
  have ⟨hs, ht, hss, hts, hh, hm, hd⟩ := h
  have ⟨hs', ht', hss', hts', hh', hm', hd'⟩ := h'
  apply candidate_ext
  · exact range_of_size (by omega) (hss.trans hss'.symm)
  · exact range_of_size (by omega) (hts.trans hts'.symm)
  · exact Subtype.ext (hh.trans hh'.symm)
  · exact hm.trans hm'.symm
  · exact hd.trans hd'.symm

theorem mem_parsed {model : NamespaceText} {digest : Digest} {rs : List CBMatchResult}
    {parsed : List LmcacheCandidate} (h : List.Forall₂ (Parsed model digest) rs parsed)
    (c : LmcacheCandidate) : c ∈ parsed ↔ ∃ r ∈ rs, Parsed model digest r c := by
  constructor
  · exact forall₂_right h
  · intro ⟨r, hr, hc⟩
    rcases forall₂_left h hr with ⟨c', hc', hparsed⟩
    rwa [parsed_unique hc hparsed]

section
variable {chunkHash : List TokenId → Digest} {es : List StoreEvent}
  {m : TokenRangeMatcher lmcacheChunkSize}

theorem parsed_offers {model : NamespaceText} {digest : Digest} {d : List TokenId} {i position : ℕ}
    {h : Bytes} {chunk : StoredChunk lmcacheChunkSize} (hc : ChunkOf chunkHash d i h chunk)
    (c : LmcacheCandidate) : Parsed model digest (matchResult position h chunk) c ↔
      Offers chunkHash model digest d i position c := by
  have hhash : (matchResult position h chunk).hash = h := rfl
  have hold : (matchResult position h chunk).oldSt = (i*lmcacheChunkSize : ℕ) :=
    congrArg Nat.cast hc.start
  have hcur : (matchResult position h chunk).curSt = position := rfl
  rw [Parsed, hhash, hold, hcur, hc.hash]
  constructor
  · intro ⟨hs, ht, hss, hts, hh, hm, hd⟩
    exact ⟨Int.ofNat_inj.mp hs, hss, Int.ofNat_inj.mp ht, hts, Subtype.ext hh, hm, hd⟩
  · intro ho
    exact ⟨congrArg Nat.cast ho.source_start, congrArg Nat.cast ho.target_start, ho.source_size,
      ho.target_size, congrArg Subtype.val ho.hash, ho.model, ho.digest⟩

theorem candidates_offered (sha256 : Bytes → Digest) (model : NamespaceText)
    (hm : Indexes chunkHash es m) {prompt : List TokenId}
    (hl : lmcacheChunkSize ≤ prompt.length) :
    ∃ response candidates, m.matchSubSequence (values prompt) = .ok response ∧
      decodeCandidates sha256 model prompt response = .ok candidates ∧
      (candidates.map LmcacheCandidate.storageHash).Nodup ∧
      ∀ c, c ∈ candidates ↔ ∃ d i position, Occurs chunkHash es prompt d i position ∧
        Offers chunkHash model (queryDigest sha256 prompt) d i position c := by
  have hlv : lmcacheChunkSize ≤ (values prompt).length := by rwa [values_length]
  have hmem := mem_results_iff hm.coherent.linked (values prompt) hlv
  have hbucketed := IndexCoherence.bucketed_of_linked hm.coherent.linked
  generalize hrs : firstBy CBMatchResult.hash [] (allHits m (values prompt)) = rs at hmem
  have hcomplete : ∀ r ∈ rs, Complete prompt r := fun r hr =>
    hits_complete hbucketed prompt hl r ((firstBy_sublist _ _ _).subset (hrs ▸ hr))
  have hhash : ∀ r ∈ rs, r.hash.length = 32 := by
    intro r hr
    rcases (hmem r).mp hr with ⟨h, chunk, position, hg, _, rfl⟩
    rcases (hm.stored h chunk).mp hg with ⟨d, i, _, hc⟩
    show h.length = 32
    rw [hc.hash]
    exact (chunkHash (prefixOf d i)).property
  rcases parsed_all model (queryDigest sha256 prompt) prompt rs hcomplete hhash with
    ⟨parsed, hparsed⟩
  refine ⟨rs, _, (matchSubSequence_eq m _ (by decide) hlv).trans (congrArg _ hrs),
    (decodeCandidates_iff sha256 model prompt rs hcomplete _).mpr ⟨parsed, hparsed, rfl⟩, ?_,
    fun c => ?_⟩
  · have hnodup : (parsed.map fun c => c.storageHash.val).Nodup := by
      rw [← (parsed_hashes hparsed).1, ← hrs]
      exact firstBy_keys_nodup _ _ _
    have hkeys : (parsed.map LmcacheCandidate.storageHash).Nodup := by
      apply List.Nodup.of_map Subtype.val
      rwa [List.map_map]
    exact ((sortedBy_perm _ _).map _).nodup_iff.mpr hkeys
  · rw [mem_sortedBy, mem_parsed hparsed]
    constructor
    · intro ⟨r, hr, hc⟩
      rcases (hmem r).mp hr with ⟨h, chunk, position, hg, hf, rfl⟩
      rcases (hm.stored h chunk).mp hg with ⟨d, i, hlive, hchunk⟩
      refine ⟨d, i, position, ⟨hchunk.complete, hchunk.hash ▸ hlive, hchunk.tokens ▸ hf⟩, ?_⟩
      exact (parsed_offers hchunk c).mp hc
    · intro ⟨d, i, position, ho, hc⟩
      have hlength : (values (chunkWork d i).tokenIds).length = lmcacheChunkSize := by
        rw [values_length]
        exact chunk_length ho.complete
      have hne : values (chunkWork d i).tokenIds ≠ [] :=
        List.ne_nil_of_length_pos (hlength.symm ▸ by decide)
      have hchunk : ChunkOf chunkHash d i (chunkHash (prefixOf d i)).val
          ⟨values (chunkWork d i).tokenIds, i*lmcacheChunkSize, hne, hlength⟩ :=
        ⟨ho.complete, rfl, rfl, rfl⟩
      have hg := (hm.stored _ _).mpr ⟨d, i, ho.live, hchunk⟩
      exact ⟨_, (hmem _).mpr ⟨_, _, position, hg, ho.first, rfl⟩, (parsed_offers hchunk c).mpr hc⟩

end

/-! ## A lookup that reads the sidecar -/

theorem plan_congr (sha256 : Bytes → Digest) {lookup lookup' : RecordLookup} {n : CacheNamespace}
    (h : ∀ rawIndex fp, lookup rawIndex n fp = lookup' rawIndex n fp) (tokens : List ℤ)
    (candidates : List LmcacheCandidate) :
    plan sha256 lookup tokens n candidates = plan sha256 lookup' tokens n candidates := by
  have hbucket : ∀ rawIndex fp cache,
      cachedBucket lookup rawIndex n fp cache = cachedBucket lookup' rawIndex n fp cache := by
    intro rawIndex fp cache
    rw [cachedBucket, cachedBucket, lookupBucket, lookupBucket, h]
  have hall : ∀ prompt rawIndex (cs : List LmcacheCandidate) st,
      considerAll sha256 lookup prompt n rawIndex cs st =
        considerAll sha256 lookup' prompt n rawIndex cs st := by
    intro prompt rawIndex cs
    induction cs generalizing rawIndex with
    | nil => exact fun _ => rfl
    | cons c cs ih =>
      intro st
      have hone : considerCandidate sha256 lookup prompt n rawIndex c st =
          considerCandidate sha256 lookup' prompt n rawIndex c st := by
        rw [considerCandidate, considerCandidate]
        simp only [hbucket]
      rw [considerAll, considerAll, hone]
      simp only [ih]
  rw [plan, plan]
  simp only [hall]

def recordsAfter (es : List StoreEvent) : Records := fun n fp =>
  sortedBy recordOrder (bucketOf (distinctRecords (addCalls es)) n fp)

/-- A document with this prefix is published in the namespace. -/
def Backed (chunkHash : List TokenId → Digest) (es : List StoreEvent) (n : CacheNamespace)
    (h : Digest) : Prop :=
  ∃ store i, Published es store ∧ store.config.cacheNamespace = n ∧
    i < chunkCount store.tokens ∧ chunkHash (prefixOf store.tokens i) = h

/-- What a lookup in the namespace relies on after a run of stores. -/
structure Readable (chunkHash : List TokenId → Digest) (sha256 : Bytes → Digest)
    (writer reader : SqliteSidecarIndex) (n : CacheNamespace) (es : List StoreEvent)
    (s : Deployment) : Prop where
  run : Run (Stored chunkHash sha256 writer) .empty es s
  hashes : PrefixInjective chunkHash (documents es)
  digests : CollisionFree sha256 (usedInputs n ((addCalls es).flatMap AddCall.records))
  isOpen : reader.closed = false
  namespaceValid : NamespaceValid n
  buckets : ∀ fp, (bucketOf (distinctRecords (addCalls es)) n fp).length ≤
    maxCollisionBucketRecords

theorem published_document {es : List StoreEvent} {store : DocumentStore}
    (h : Published es store) : store.tokens ∈ documents es := by
  rcases h with ⟨records, faults, count, hm⟩
  exact List.mem_flatMap.mpr ⟨_, hm, List.mem_singleton_self _⟩

section
variable {chunkHash : List TokenId → Digest} {sha256 : Bytes → Digest}
  {writer reader : SqliteSidecarIndex} {n : CacheNamespace} {es : List StoreEvent}
  {s : Deployment} (hr : Readable chunkHash sha256 writer reader n es s)
include hr

theorem lookup_pure (rawIndex : ℕ) (fp : SegmentFingerprint) :
    reader.recordLookup sha256 s.table rawIndex n fp =
      pureLookup (recordsAfter es) rawIndex n fp := by
  have h := (lookup_ok_iff (history_content (table_run hr.run)) (distinct_used _) reader n fp
    hr.digests _).mpr ⟨hr.isOpen, hr.namespaceValid, hr.buckets fp, rfl⟩
  rw [SqliteSidecarIndex.recordLookup, h]
  rfl

theorem mem_recordsAfter (fp : SegmentFingerprint) (r : CacheRecord) :
    r ∈ recordsAfter es n fp ↔ r.cacheNamespace = n ∧ r.fingerprint = fp ∧
      ∃ store i, Published es store ∧ RecordOf chunkHash sha256 store i r := by
  rw [recordsAfter, mem_sortedBy, bucketOf, List.mem_filter, decide_eq_true_eq,
    mem_published hr.run]
  tauto

theorem published_record {store : DocumentStore} (hp : Published es store) {i : ℕ}
    (hi : i < chunkCount store.tokens) : ∃ r, RecordOf chunkHash sha256 store i r := by
  rcases hp with ⟨records, faults, count, hm⟩
  have hrecords := received_records (published_received hr.run _ _ _ _ hm)
  have hh : i < (chunkHashes chunkHash store.tokens).length := by
    rw [chunkHashes_length]
    exact hi
  have hget := hrecords.each i (hh.trans_eq hrecords.count.symm) hh
  rw [chunkHashes_get] at hget
  exact ⟨_, hi, hget⟩

variable {model : NamespaceText} {prompt d : List TokenId} {i position : ℕ}
  {c : LmcacheCandidate} (ho : Occurs chunkHash es prompt d i position)
  (hc : Offers chunkHash model (queryDigest sha256 prompt) d i position c)
include ho hc

omit hr in
theorem offer_in_prompt : c.targetRange.stop ≤ prompt.length := by
  have hin := ho.first.occurs.1
  have hsize := hc.target_size
  have hordered := c.targetRange.ordered
  rw [values_length, values_length, chunk_length ho.complete, ← hc.target_start] at hin
  rw [TokenRange.size] at hsize
  omega

omit hr in
theorem offer_tokens : (targetSegment prompt c (offer_in_prompt ho hc)).tokenIds =
    (chunkWork d i).tokenIds := by
  have hsize := hc.target_size
  have hordered := c.targetRange.ordered
  have hlength : (values (chunkWork d i).tokenIds).length = lmcacheChunkSize := by
    rw [values_length]
    exact chunk_length ho.complete
  have hw := ho.first.occurs.2
  rw [hlength, window_values] at hw
  apply Eq.trans _ (values_injective hw)
  show (prompt.take c.targetRange.stop).drop c.targetRange.start = _
  rw [hc.target_start] at hordered ⊢
  rw [TokenRange.size, hc.target_start] at hsize
  rw [show c.targetRange.stop = position+lmcacheChunkSize by omega]

/-- A record of a published chunk agrees with an offer exactly when it is of its hash. -/
theorem agrees_iff {store : DocumentStore} {j : ℕ} {r : CacheRecord} (hp : Published es store)
    (hrecord : RecordOf chunkHash sha256 store j r) :
    Agrees sha256 n c (targetSegment prompt c (offer_in_prompt ho hc)) r ↔
      store.config.cacheNamespace = n ∧ chunkHash (prefixOf store.tokens j) = c.storageHash := by
  have ⟨hj, hchunk⟩ := hrecord
  constructor
  · intro hag
    refine ⟨hchunk.cacheNamespace.symm.trans hag.2.1, ?_⟩
    have hkey : cacheKeyOf (chunkHash (prefixOf store.tokens j)).val =
        cacheKeyOf c.storageHash.val := hchunk.key.symm.trans hag.1
    exact Subtype.ext (cacheKeyOf_injective _ _ hkey)
  · intro ⟨hn, hh⟩
    have hprefix := hr.hashes _ (published_document hp) _ ho.live.document j hj i ho.complete
      (hh.trans hc.hash)
    have ⟨_, htokens⟩ := prefix_chunk hj ho.complete hprefix
    have hsegment := offer_tokens ho hc
    refine ⟨?_, hchunk.cacheNamespace.trans hn, ?_, ?_⟩
    · rw [hchunk.key, hh]
      rfl
    · rw [hchunk.fingerprint, hn, hsegment, htokens]
    · rw [hchunk.tokenIds, hsegment, htokens]

theorem offer_verifies_iff : Verifies sha256 (recordsAfter es) prompt n c ↔
    Backed chunkHash es n c.storageHash := by
  constructor
  · intro ⟨_, _, ⟨r, hm, hag⟩, _⟩
    rcases (mem_recordsAfter hr _ r).mp hm with ⟨_, _, store, j, hp, hrecord⟩
    have ⟨hn, hh⟩ := (agrees_iff hr ho hc hp hrecord).mp hag
    exact ⟨store, j, hp, hn, hrecord.1, hh⟩
  · intro ⟨store, j, hp, hn, hj, hh⟩
    rcases published_record hr hp hj with ⟨r, hrecord⟩
    have hag := (agrees_iff hr ho hc hp hrecord).mpr ⟨hn, hh⟩
    refine ⟨offer_in_prompt ho hc, hc.digest, ⟨r, ?_, hag⟩, fun a ha b hb haa hbb => ?_⟩
    · exact (mem_recordsAfter hr _ r).mpr ⟨hag.2.1, hag.2.2.1, store, j, hp, hrecord⟩
    · rcases (mem_recordsAfter hr _ a).mp ha with ⟨_, _, sa, ja, hpa, hra⟩
      rcases (mem_recordsAfter hr _ b).mp hb with ⟨_, _, sb, jb, hpb, hrb⟩
      have ⟨_, hha⟩ := (agrees_iff hr ho hc hpa hra).mp haa
      have ⟨_, hhb⟩ := (agrees_iff hr ho hc hpb hrb).mp hbb
      have hprefix := hr.hashes _ (published_document hpa) _ (published_document hpb) ja hra.1
        jb hrb.1 (hha.trans hhb.symm)
      have ⟨hindex, _⟩ := prefix_chunk hra.1 hrb.1 hprefix
      apply range_of_size
      · rw [hra.2.start, hrb.2.start, hindex]
      · rw [a.size_eq, b.size_eq, haa.2.2.2, hbb.2.2.2]

end

/-! ## Plans -/

structure Placement where
  document : List TokenId
  chunk : ℕ
  position : ℕ

def PlacementsApart (x y : Placement) : Prop :=
  x.position+lmcacheChunkSize ≤ y.position ∨ y.position+lmcacheChunkSize ≤ x.position

/-- A placement that a lookup can load: the server offers it and the sidecar backs it. -/
def Loadable (chunkHash : List TokenId → Digest) (es : List StoreEvent) (n : CacheNamespace)
    (prompt : List TokenId) (x : Placement) : Prop :=
  Occurs chunkHash es prompt x.document x.chunk x.position ∧
    Backed chunkHash es n (chunkHash (prefixOf x.document x.chunk))

def verifiedTokens (p : LmcacheLookupPlan) : ℕ :=
  tokenTotal (p.verifiedCandidates.map VerifiedLmcacheCandidate.candidate)

/-- The answer to a prompt: the response, its candidates, and the plan over the sidecar. -/
structure Answered (sha256 : Bytes → Digest) (reader : SqliteSidecarIndex) (model : NamespaceText)
    (n : CacheNamespace) (s : Deployment) (prompt : List TokenId)
    (candidates : List LmcacheCandidate) (p : LmcacheLookupPlan) : Prop where
  response : ∃ response, s.index.matchSubSequence (values prompt) = .ok response ∧
    decodeCandidates sha256 model prompt response = .ok candidates
  planned : plan sha256 (reader.recordLookup sha256 s.table) (values prompt) n candidates = .ok p

section
variable {chunkHash : List TokenId → Digest} {sha256 : Bytes → Digest}
  {writer reader : SqliteSidecarIndex} {n : CacheNamespace} {es : List StoreEvent}
  {s : Deployment} {model : NamespaceText} {prompt : List TokenId}

/-- What a lookup after a run of stores gives. -/
structure LookupFacts (chunkHash : List TokenId → Digest) (sha256 : Bytes → Digest)
    (model : NamespaceText) (n : CacheNamespace) (es : List StoreEvent) (prompt : List TokenId)
    (candidates : List LmcacheCandidate) (p : LmcacheLookupPlan) : Prop where
  hashes : (candidates.map LmcacheCandidate.storageHash).Nodup
  offered : ∀ c, c ∈ candidates ↔ ∃ d i position, Occurs chunkHash es prompt d i position ∧
    Offers chunkHash model (queryDigest sha256 prompt) d i position c
  verified : ∀ c ∈ candidates, Verifies sha256 (recordsAfter es) prompt n c ↔
    Backed chunkHash es n c.storageHash
  plan : PlanFacts sha256 (recordsAfter es) prompt n candidates p

variable (model) in
theorem lookup_facts (hr : Readable chunkHash sha256 writer reader n es s)
    (hl : lmcacheChunkSize ≤ prompt.length) : ∃ candidates p,
      Answered sha256 reader model n s prompt candidates p ∧
        LookupFacts chunkHash sha256 model n es prompt candidates p := by
  rcases candidates_offered sha256 model (indexes_run hr.run hr.hashes).1 hl with
    ⟨response, candidates, hmatch, hdecode, hnodup, hmem⟩
  have hin : ∀ c ∈ candidates, c.targetRange.stop ≤ prompt.length := by
    intro c hc
    rcases (hmem c).mp hc with ⟨d, i, position, ho, hoffer⟩
    exact offer_in_prompt ho hoffer
  rcases plan_concluded sha256 (recordsAfter es) prompt n candidates hin with
    ⟨st, p, hplan, htally, hconcluded⟩
  refine ⟨candidates, p, ⟨⟨response, hmatch, hdecode⟩, ?_⟩, hnodup, hmem, fun c hc => ?_,
    concluded_facts sha256 (recordsAfter es) prompt n htally hconcluded⟩
  · rw [plan_congr sha256 (lookup_pure hr)]
    exact hplan
  · rcases (hmem c).mp hc with ⟨d, i, position, ho, hoffer⟩
    exact offer_verifies_iff hr ho hoffer

theorem answered_unique {candidates candidates' : List LmcacheCandidate} {p p' : LmcacheLookupPlan}
    (h : Answered sha256 reader model n s prompt candidates p)
    (h' : Answered sha256 reader model n s prompt candidates' p') :
    candidates = candidates' ∧ p = p' := by
  rcases h.response with ⟨response, hm, hd⟩
  rcases h'.response with ⟨response', hm', hd'⟩
  cases hm.symm.trans hm'
  cases hd.symm.trans hd'
  exact ⟨rfl, Except.ok.inj (h.planned.symm.trans h'.planned)⟩

theorem loadable_candidate {candidates : List LmcacheCandidate} {p : LmcacheLookupPlan}
    (h : LookupFacts chunkHash sha256 model n es prompt candidates p) {x : Placement}
    (hx : Loadable chunkHash es n prompt x) : ∃ c, c ∈ candidates ∧
      Verifies sha256 (recordsAfter es) prompt n c ∧ c.targetRange.start = x.position ∧
      c.targetRange.size = lmcacheChunkSize := by
  have ⟨ho, hb⟩ := hx
  have hsize : ∀ start, (TokenRange.mk start (start+lmcacheChunkSize)
      (Nat.le_add_right _ _)).size = lmcacheChunkSize :=
    fun start => Nat.add_sub_cancel_left start lmcacheChunkSize
  let c : LmcacheCandidate :=
    ⟨⟨x.chunk*lmcacheChunkSize, x.chunk*lmcacheChunkSize+lmcacheChunkSize, Nat.le_add_right _ _⟩,
      ⟨x.position, x.position+lmcacheChunkSize, Nat.le_add_right _ _⟩,
      chunkHash (prefixOf x.document x.chunk), model, queryDigest sha256 prompt,
      (hsize x.position).symm ▸ (by decide), (hsize _).trans (hsize _).symm⟩
  have hoffer : Offers chunkHash model (queryDigest sha256 prompt) x.document x.chunk x.position
      c :=
    ⟨rfl, hsize _, rfl, hsize _, rfl, rfl, rfl⟩
  have hmem := (h.offered c).mpr ⟨_, _, _, ho, hoffer⟩
  exact ⟨c, hmem, (h.verified c hmem).mpr hb, rfl, hsize _⟩

theorem loadable_covered {candidates : List LmcacheCandidate} {p : LmcacheLookupPlan}
    (h : LookupFacts chunkHash sha256 model n es prompt candidates p) (xs : List Placement)
    (hx : ∀ x ∈ xs, Loadable chunkHash es n prompt x) (hapart : xs.Pairwise PlacementsApart) :
    xs.length*lmcacheChunkSize ≤ verifiedTokens p := by
  have hcandidates : ∃ cs : List LmcacheCandidate, List.Forall₂ (fun x c => c ∈ candidates ∧
      Verifies sha256 (recordsAfter es) prompt n c ∧ c.targetRange.start = x.position ∧
      c.targetRange.size = lmcacheChunkSize) xs cs := by
    induction xs with
    | nil => exact ⟨[], .nil⟩
    | cons x xs ih =>
      rcases loadable_candidate h (hx x (by simp)) with ⟨c, hc⟩
      rcases ih (fun y hy => hx y (by simp [hy])) (List.pairwise_cons.mp hapart).2 with ⟨cs, hcs⟩
      exact ⟨c::cs, .cons hc hcs⟩
  rcases hcandidates with ⟨cs, hcs⟩
  have htotal : tokenTotal cs = xs.length*lmcacheChunkSize := by
    clear hx hapart
    induction hcs with
    | nil => rfl
    | @cons x c xs cs hc _ ih =>
      rw [tokenTotal, List.map_cons, List.sum_cons, ← tokenTotal, ih, hc.2.2.2, List.length_cons,
        Nat.add_mul, Nat.one_mul, Nat.add_comm]
  have hdisjoint : cs.Pairwise Disjoint := by
    clear hx htotal
    induction hcs with
    | nil => exact .nil
    | @cons x c xs cs hc hrest ih =>
      rcases List.pairwise_cons.mp hapart with ⟨hfirst, hothers⟩
      refine List.pairwise_cons.mpr ⟨fun c' hc' => ?_, ih hothers⟩
      rcases forall₂_right hrest hc' with ⟨y, hy, _, _, hstart, hsize⟩
      have hxy := hfirst y hy
      rcases hc with ⟨_, _, hstart', hsize'⟩
      rw [PlacementsApart] at hxy
      rw [TokenRange.size] at hsize hsize'
      have ho := c.targetRange.ordered
      have ho' := c'.targetRange.ordered
      intro hoverlap
      rcases hoverlap with ⟨h₁, h₂⟩
      omega
  rw [← htotal]
  exact h.plan.maximal cs (fun c hc => by
    rcases forall₂_right hcs hc with ⟨_, _, hm, hv, _⟩
    exact ⟨hm, hv⟩) hdisjoint

theorem rejected_iff {candidates : List LmcacheCandidate} {p : LmcacheLookupPlan}
    (h : LookupFacts chunkHash sha256 model n es prompt candidates p)
    {r : RejectedLmcacheCandidate} (hr : r ∈ p.rejectedCandidates) :
    r.reason = .overlapsSelectedCandidate ↔ Backed chunkHash es n r.candidate.storageHash := by
  have hnodup := (h.plan.accounted.nodup_iff).mpr h.hashes.of_map
  have hrc := List.mem_map_of_mem (f := RejectedLmcacheCandidate.candidate) hr
  have hm : r.candidate ∈ candidates :=
    h.plan.accounted.mem_iff.mp (List.mem_append_right _ hrc)
  have hother : r.candidate ∉ p.verifiedCandidates.map VerifiedLmcacheCandidate.candidate :=
    fun hv => List.disjoint_of_nodup_append hnodup hv hrc
  rw [← h.verified _ hm]
  rcases h.plan.reasons r hr with ⟨⟨_, hreason⟩, hv⟩ | ⟨hv, hreason⟩
  · exact iff_of_false hreason hv
  · rw [if_neg hother] at hreason
    exact iff_of_true hreason hv

end

/-! ## Lookups after stores -/

section
variable (chunkHash : List TokenId → Digest) (sha256 : Bytes → Digest)
  (writer reader : SqliteSidecarIndex) (model : NamespaceText) (n : CacheNamespace)

/-- After any run of stores a lookup returns a plan. Each verified candidate is
bound to the record of a published document with the very tokens of the prompt,
a candidate of a published chunk is rejected for an overlap and for nothing
else, and the verified tokens are at least those of any chunks that are held,
published and apart at their first places in the prompt. -/
theorem stored_documents_found (es : List StoreEvent) (s : Deployment) (prompt : List TokenId)
    (hr : Readable chunkHash sha256 writer reader n es s)
    (hl : lmcacheChunkSize ≤ prompt.length) :
    ∃ candidates p, Answered sha256 reader model n s prompt candidates p ∧
      (∀ v ∈ p.verifiedCandidates, ∃ store i, Published es store ∧
        RecordOf chunkHash sha256 store i v.verified.record ∧
        v.verified.record.tokenIds =
          (prompt.take v.candidate.targetRange.stop).drop v.candidate.targetRange.start) ∧
      (∀ r ∈ p.rejectedCandidates,
        r.reason = .overlapsSelectedCandidate ↔ Backed chunkHash es n r.candidate.storageHash) ∧
      ∀ xs : List Placement, (∀ x ∈ xs, Loadable chunkHash es n prompt x) →
        xs.Pairwise PlacementsApart → xs.length*lmcacheChunkSize ≤ verifiedTokens p := by
  rcases lookup_facts model hr hl with ⟨candidates, p, hanswer, h⟩
  refine ⟨candidates, p, hanswer, fun v hv => ?_, fun r hm => rejected_iff h hm,
    loadable_covered h⟩
  have ⟨_, hbound, _⟩ := h.plan.bound v hv
  rcases (mem_recordsAfter hr _ _).mp hbound.record with ⟨_, _, store, i, hp, hrecord⟩
  exact ⟨store, i, hp, hrecord, hbound.agrees.2.2.2⟩

theorem distinct_extends (es later : List StoreEvent) :
    (distinctRecords (addCalls es)).Sublist (distinctRecords (addCalls (es ++ later))) := by
  induction later using List.reverseRecOn with
  | nil => rw [List.append_nil]
  | append_singleton later e ih =>
    rw [← List.append_assoc, addCalls_concat]
    cases e.addCall with
    | none => rwa [Option.toList_none, List.append_nil]
    | some call =>
      rw [Option.toList_some, distinctRecords_append]
      exact ih.trans (List.sublist_append_left _ _)

variable {chunkHash sha256 writer reader n}

theorem Readable.before {es later : List StoreEvent} {s s' : Deployment}
    (hr : Readable chunkHash sha256 writer reader n (es ++ later) s')
    (hrun : Run (Stored chunkHash sha256 writer) .empty es s) :
    Readable chunkHash sha256 writer reader n es s where
  run := hrun
  hashes := hr.hashes.mono (by simp [documents])
  digests := by
    apply hr.digests.mono (usedInputs_subset n _)
    have hmore : addCalls (es ++ later) = addCalls es ++ addCalls later := List.filterMap_append ..
    rw [hmore, List.flatMap_append]
    exact List.subset_append_left _ _
  isOpen := hr.isOpen
  namespaceValid := hr.namespaceValid
  buckets fp := ((distinct_extends es later).filter _).length_le.trans (hr.buckets fp)

theorem live_later {es later : List StoreEvent} {d : List TokenId} {h : Bytes}
    (hl : Live es d h) (hkept : ∀ e ∈ later, e.evictedHashes = []) : Live (es ++ later) d h := by
  rcases hl with ⟨earlier, rest, rfl, hrest⟩
  refine ⟨earlier, rest ++ later, by simp, fun e he => ?_⟩
  rcases List.mem_append.mp he with he | he
  · exact hrest e he
  · rw [hkept e he]
    exact List.not_mem_nil

/-- More stores without an eviction never uncover a token of a prompt. -/
theorem stores_never_uncover (es later : List StoreEvent) (s s' : Deployment)
    (prompt : List TokenId) (hrun : Run (Stored chunkHash sha256 writer) .empty es s)
    (hr : Readable chunkHash sha256 writer reader n (es ++ later) s')
    (hkept : ∀ e ∈ later, e.evictedHashes = []) (hl : lmcacheChunkSize ≤ prompt.length) :
    ∃ candidates p candidates' p', Answered sha256 reader model n s prompt candidates p ∧
      Answered sha256 reader model n s' prompt candidates' p' ∧
      (∀ c ∈ candidates, c ∈ candidates') ∧ verifiedTokens p ≤ verifiedTokens p' := by
  rcases lookup_facts model (hr.before hrun) hl with ⟨candidates, p, hanswer, h⟩
  rcases lookup_facts model hr hl with ⟨candidates', p', hanswer', h'⟩
  have hoffered : ∀ c ∈ candidates, c ∈ candidates' := by
    intro c hc
    rcases (h.offered c).mp hc with ⟨d, i, position, ho, hoffer⟩
    exact (h'.offered c).mpr
      ⟨d, i, position, ⟨ho.complete, live_later ho.live hkept, ho.first⟩, hoffer⟩
  refine ⟨candidates, p, candidates', p', hanswer, hanswer', hoffered, ?_⟩
  apply h'.plan.maximal
  · intro c hc
    rcases List.mem_map.mp hc with ⟨v, hv, rfl⟩
    have ⟨hm, _, hverifies⟩ := h.plan.bound v hv
    rcases (h.verified _ hm).mp hverifies with ⟨store, i, ⟨records, faults, count, hp⟩, hback⟩
    refine ⟨hoffered _ hm, (h'.verified _ (hoffered _ hm)).mpr ⟨store, i, ?_, hback⟩⟩
    exact ⟨records, faults, count, List.mem_append_left _ hp⟩
  · exact h.plan.disjoint

end

/-! ## Two documents -/

def onesZeros : List TokenId := ones ++ zeros

theorem onesZeros_length : onesZeros.length = 512 := by
  rw [onesZeros, List.length_append, zeros_length, ones_length]

theorem known_collisionFree {records : List CacheRecord}
    (hk : ∀ r ∈ records, ∃ i, KnownRecord i r) :
    CollisionFree tailDigest (usedInputs pinnedNamespace records) := by
  have hkey : ∀ i < 2, tailDigest (HashPreimages.preimage (.namespaceKey pinnedNamespace)) ≠
      tailDigest [UInt8.ofNat (if i = 0 then 0 else 1 : TokenId).val] := by
    decide +kernel
  have hrecord : ∀ {i r}, KnownRecord i r → tailDigest (HashPreimages.preimage (recordInput r)) ≠
      tailDigest (HashPreimages.preimage (.namespaceKey pinnedNamespace)) := by
    intro i r h
    rw [tailDigest_record (h.2.tokenIds.trans (zerosOnes_chunk i h.1))]
    exact (hkey i h.1).symm
  have hused : ∀ input ∈ usedInputs pinnedNamespace records,
      input = .namespaceKey pinnedNamespace ∨ ∃ i r, KnownRecord i r ∧ input = recordInput r := by
    intro input hi
    rcases List.mem_cons.mp hi with rfl | hi
    · exact Or.inl rfl
    · rcases List.mem_flatMap.mp hi with ⟨r, hr, hi⟩
      rcases hk r hr with ⟨i, h⟩
      rcases List.mem_pair.mp hi with rfl | rfl
      · exact Or.inl (congrArg _ h.2.cacheNamespace)
      · exact Or.inr ⟨i, r, h, rfl⟩
  intro a ha b hb he
  rcases hused a ha with rfl | ⟨i, r, h, rfl⟩ <;> rcases hused b hb with rfl | ⟨j, r', h', rfl⟩
  · rfl
  · exact absurd he.symm (hrecord h')
  · exact absurd he (hrecord h)
  · rw [known_apart h h' he]

theorem known_bucket {records records' : List CacheRecord} (hk : AllKnown records)
    (hk' : AllKnown records') (n : CacheNamespace) (fp : SegmentFingerprint) :
    (bucketOf (firstBy id [] (records ++ records')) n fp).length ≤ maxCollisionBucketRecords := by
  have hfew : (firstBy id [] (records ++ records')).length ≤ 4 :=
    (firstBy_sublist id [] _).length_le.trans
      (List.length_append.trans_le (Nat.add_le_add hk.1 hk'.1))
  exact (List.length_filter_le _ _).trans (hfew.trans (by decide))

theorem twoStores_readable {records records' : List CacheRecord} {count count' : ℕ} {s : Deployment}
    (hk : AllKnown records) (hk' : AllKnown records')
    (hrun : Run (Stored prefixHash tailDigest openWriter) .empty
      (twoStores records records' count count') s) :
    Readable prefixHash tailDigest openWriter openWriter pinnedNamespace
      (twoStores records records' count count') s where
  run := hrun
  hashes := (prefixHash_injective (stores_documents records records' count count')).mono
    (by simp [documents])
  digests := by
    apply known_collisionFree
    have hrecords : (addCalls (twoStores records records' count count')).flatMap AddCall.records =
        records ++ records' := congrArg (records ++ ·) (List.append_nil records')
    rw [hrecords]
    exact fun r hr => (List.mem_append.mp hr).elim (hk.2 r) (hk'.2 r)
  isOpen := rfl
  namespaceValid := sidecar_takes pinnedConfig.audited
  buckets fp := by
    have haccepted : (addCalls (twoStores records records' count count')).flatMap
        AddCall.accepted = records ++ records' := congrArg (records ++ ·) (List.append_nil records')
    rw [distinctRecords, haccepted]
    exact known_bucket hk hk' _ _

theorem twoStores_kept (records records' : List CacheRecord) (count count' : ℕ) :
    ∀ e ∈ twoStores records records' count count', e.evictedHashes = [] := by
  intro e he
  simp only [twoStores, List.mem_cons, List.not_mem_nil, or_false] at he
  rcases he with rfl | rfl | rfl | rfl <;> rfl

theorem twoStores_loadable (records records' : List CacheRecord) (count count' : ℕ) :
    ∀ x ∈ [(⟨zerosOnes, 1, 0⟩ : Placement), ⟨zeros, 0, 256⟩], Loadable prefixHash
      (twoStores records records' count count') pinnedNamespace onesZeros x := by
  have hkept := twoStores_kept records records' count count'
  have hlive : ∀ {d h} earlier later, twoStores records records' count count' =
      earlier ++ .registered d (.ok ⟨⟩)::later →
      Live (twoStores records records' count count') d h := by
    intro d h earlier later he
    refine ⟨earlier, later, he, fun e hm => ?_⟩
    rw [hkept e (by simp [he, hm])]
    exact List.not_mem_nil
  have hones : 1 < chunkCount zerosOnes := by decide +kernel
  have hzeros : 0 < chunkCount zeros := by decide +kernel
  intro x hx
  rcases List.mem_pair.mp hx with rfl | rfl
  · refine ⟨⟨hones, hlive ((twoStores records records' count count').take 2) _ rfl,
      by decide +kernel, fun earlier h => absurd h (Nat.not_lt_zero _)⟩, ?_⟩
    exact ⟨documentStore zerosOnes zerosOnes_storable, 1,
      ⟨records', .none, count', by simp [twoStores]⟩, rfl, hones, rfl⟩
  · refine ⟨⟨hzeros, hlive [] _ rfl, by decide +kernel, by decide +kernel⟩, ?_⟩
    exact ⟨documentStore zeros zeros_storable, 0, ⟨records, .none, count, by simp [twoStores]⟩,
      rfl, hzeros, rfl⟩

theorem placements_apart : [(⟨zerosOnes, 1, 0⟩ : Placement), ⟨zeros, 0, 256⟩].Pairwise
    PlacementsApart :=
  List.pairwise_pair.mpr (Or.inl (le_refl 256))

/-- A prompt of the two chunks in the other order is found whole. -/
theorem two_documents_found : ∃ (s : Deployment) (candidates : List LmcacheCandidate)
    (p : LmcacheLookupPlan), Answered tailDigest openWriter exampleText pinnedNamespace s onesZeros
      candidates p ∧ 512 ≤ verifiedTokens p := by
  rcases stores_run with ⟨records, records', count, count', _, s, _, hk, hk', _, hrun, _⟩
  rcases stored_documents_found prefixHash tailDigest openWriter openWriter exampleText
    pinnedNamespace _ s onesZeros (twoStores_readable hk hk' hrun)
    (onesZeros_length ▸ by decide) with ⟨candidates, p, hanswer, _, _, hcovered⟩
  exact ⟨s, candidates, p, hanswer, hcovered _ (twoStores_loadable records records' count count')
    placements_apart⟩

/-- The longer document adds a chunk to what the shorter one covers. -/
theorem later_document_covers : ∃ s s' candidates p candidates' p',
    Answered tailDigest openWriter exampleText pinnedNamespace s onesZeros candidates p ∧
      Answered tailDigest openWriter exampleText pinnedNamespace s' onesZeros candidates' p' ∧
      (∀ c ∈ candidates, c ∈ candidates') ∧ verifiedTokens p ≤ verifiedTokens p' ∧
      512 ≤ verifiedTokens p' := by
  rcases stores_run with ⟨records, records', count, count', s, s', _, hk, hk', hearlier, hrun, _⟩
  have hl : lmcacheChunkSize ≤ onesZeros.length := onesZeros_length ▸ by decide
  have hr := twoStores_readable hk hk' hrun
  rcases stores_never_uncover exampleText _ ((twoStores records records' count count').drop 2) s s'
    onesZeros hearlier hr (fun e he => twoStores_kept _ _ _ _ e (List.mem_of_mem_drop he)) hl with
    ⟨candidates, p, candidates', p', hanswer, hanswer', hoffered, hcovers⟩
  rcases lookup_facts exampleText hr hl with ⟨_, p'', hanswer'', hfacts⟩
  cases (answered_unique hanswer' hanswer'').2
  exact ⟨s, s', candidates, p, candidates', p', hanswer, hanswer', hoffered, hcovers,
    loadable_covered hfacts _ (twoStores_loadable records records' count count') placements_apart⟩

end CacheBlend.StoredDocuments
