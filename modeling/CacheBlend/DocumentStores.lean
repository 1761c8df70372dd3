import CacheBlend.SidecarHistories
import CacheBlend.StoreReceipts
import CacheBlend.ExactMatches

/-!
# Stores of documents

A store leaves a document at two places. The server registers the hashes of
its chunks, and the worker publishes the records of the receipt to the
sidecar. Both happen at their own time, in any order and with failures, and the
server evicts chunks. With a chunk hash that tells the prefixes of the
documents apart, the index is always what is registered and not evicted, the
sidecar is what is published, and a registration fails for want of room only.
-/

set_option autoImplicit false

namespace CacheBlend.DocumentStores
open CacheBlend.PlannerModels CacheBlend.SegmentFingerprints CacheBlend.LmcacheTypes
open CacheBlend.ExactMatcher CacheBlend.MatchResponses CacheBlend.IndexCoherence
open CacheBlend.SidecarRows (SidecarError)
open CacheBlend.SidecarIndex CacheBlend.SidecarHistories CacheBlend.TransferRuntime
open CacheBlend.TransportRequests CacheBlend.StoreReceipts

/-! ## Documents and their hashes -/

def prefixOf (tokens : List TokenId) (chunkIndex : ℕ) : List TokenId :=
  tokens.take (chunkIndex*lmcacheChunkSize+lmcacheChunkSize)

def chunkCount (tokens : List TokenId) : ℕ := tokens.length/lmcacheChunkSize

/-- The hashes of the complete chunks. Each is a function of the prefix of its chunk. -/
def chunkHashes (chunkHash : List TokenId → Digest) (tokens : List TokenId) : List Digest :=
  (List.range (chunkCount tokens)).map fun i => chunkHash (prefixOf tokens i)

/-- The chunk hash tells the prefixes of the documents apart. -/
def PrefixInjective (chunkHash : List TokenId → Digest) (documents : List (List TokenId)) : Prop :=
  ∀ d ∈ documents, ∀ d' ∈ documents, ∀ i < chunkCount d, ∀ j < chunkCount d',
    chunkHash (prefixOf d i) = chunkHash (prefixOf d' j) → prefixOf d i = prefixOf d' j

theorem chunkHashes_length (chunkHash : List TokenId → Digest) (tokens : List TokenId) :
    (chunkHashes chunkHash tokens).length = tokens.length/lmcacheChunkSize := by
  rw [chunkHashes, List.length_map, List.length_range, chunkCount]

theorem chunkHashes_get (chunkHash : List TokenId → Digest) (tokens : List TokenId) {i : ℕ}
    (h : i < (chunkHashes chunkHash tokens).length) :
    (chunkHashes chunkHash tokens)[i] = chunkHash (prefixOf tokens i) := by
  simp [chunkHashes]

theorem prefix_length {tokens : List TokenId} {i : ℕ} (h : i < chunkCount tokens) :
    (prefixOf tokens i).length = i*lmcacheChunkSize+lmcacheChunkSize := by
  rw [prefixOf, List.length_take]
  exact Nat.min_eq_left (chunk_fits h)

theorem prefix_chunk {d d' : List TokenId} {i j : ℕ} (hi : i < chunkCount d)
    (hj : j < chunkCount d') (h : prefixOf d i = prefixOf d' j) :
    i = j ∧ (chunkWork d i).tokenIds = (chunkWork d' j).tokenIds := by
  have hlength := congrArg List.length h
  rw [prefix_length hi, prefix_length hj] at hlength
  have hindex : i = j := Nat.eq_of_mul_eq_mul_right (by decide) (Nat.add_right_cancel hlength)
  subst hindex
  exact ⟨rfl, congrArg (List.drop _) h⟩

theorem values_injective {xs ys : List TokenId} (h : values xs = values ys) : xs = ys := by
  apply List.map_injective_iff.mpr _ h
  intro a b hab
  exact Fin.ext (Int.ofNat_inj.mp hab)

theorem window_values (tokens : List TokenId) (start width : ℕ) :
    window (values tokens) start width = values ((tokens.take (start+width)).drop start) := by
  simp only [window, values, ← List.map_drop, ← List.map_take]
  rw [List.drop_take, Nat.add_sub_cancel_left]

/-- A stored chunk is one chunk of a document under its hash. -/
structure ChunkOf (chunkHash : List TokenId → Digest) (document : List TokenId) (i : ℕ)
    (h : Bytes) (c : StoredChunk lmcacheChunkSize) : Prop where
  complete : i < chunkCount document
  hash : h = (chunkHash (prefixOf document i)).val
  tokens : c.tokens = values (chunkWork document i).tokenIds
  start : c.start = i*lmcacheChunkSize

theorem chunkOf_exists (chunkHash : List TokenId → Digest) {document : List TokenId} {i : ℕ}
    (hi : i < chunkCount document) :
    ∃ c, ChunkOf chunkHash document i (chunkHash (prefixOf document i)).val c := by
  have hlength : (values (chunkWork document i).tokenIds).length = lmcacheChunkSize := by
    rw [values_length]
    exact chunk_length hi
  have hne : values (chunkWork document i).tokenIds ≠ [] :=
    List.ne_nil_of_length_pos (hlength ▸ Nat.succ_pos 255)
  exact ⟨⟨_, i*lmcacheChunkSize, hne, hlength⟩, hi, rfl, rfl, rfl⟩

theorem chunk_ext {chunkSize : ℕ} {c c' : StoredChunk chunkSize} (ht : c.tokens = c'.tokens)
    (hs : c.start = c'.start) : c = c' := by
  cases c
  cases c'
  simp_all

theorem ChunkOf.unique {chunkHash : List TokenId → Digest} {documents : List (List TokenId)}
    (hp : PrefixInjective chunkHash documents) {d d' : List TokenId} (hd : d ∈ documents)
    (hd' : d' ∈ documents) {i j : ℕ} {h : Bytes} {c c' : StoredChunk lmcacheChunkSize}
    (hc : ChunkOf chunkHash d i h c) (hc' : ChunkOf chunkHash d' j h c') : c = c' := by
  have hprefix := hp d hd d' hd' i hc.complete j hc'.complete
    (Subtype.ext (hc.hash.symm.trans hc'.hash))
  have ⟨hindex, htokens⟩ := prefix_chunk hc.complete hc'.complete hprefix
  apply chunk_ext
  · rw [hc.tokens, hc'.tokens, htokens]
  · rw [hc.start, hc'.start, hindex]

/-! ## Events -/

/-- A store that the worker's transport accepts, of a document from its first token. -/
structure DocumentStore where
  config : AuditedConfig
  request : StoreRequest
  documentSourceRange : TokenRange
  wire : Wire
  tokens : List TokenId
  from_start : documentSourceRange.start = 0
  accepted : StoreAccepted config.toLmcacheBlendTransportConfig request config.cacheNamespace
    documentSourceRange wire tokens

inductive StoreEvent where
  | registered (tokens : List TokenId) (result : Except RuntimeError PUnit)
  | evicted (tokenHashes : List Bytes) (result : Except RuntimeError PUnit)
  | published (store : DocumentStore) (records : List CacheRecord) (faults : SqliteFaults)
      (result : Except SidecarError ℕ)

/-- The index of the server and the table of the sidecar. -/
structure Deployment where
  index : TokenRangeMatcher lmcacheChunkSize
  table : SidecarTable

def Deployment.empty : Deployment := ⟨.initial lmcacheChunkSize, .empty⟩

def registration (chunkHash : List TokenId → Digest) (tokens : List TokenId) : MatcherCall :=
  .onNewTokenHashes (values tokens) ((chunkHashes chunkHash tokens).map Subtype.val)

/-- The receipt of the store has the records. Server and client compute the hashes alike. -/
def Receives (chunkHash : List TokenId → Digest) (sha256 : Bytes → Digest) (d : DocumentStore)
    (records : List CacheRecord) : Prop :=
  ∃ receipt wire, storePrecomputed sha256 d.config.toLmcacheBlendTransportConfig d.request
      d.config.cacheNamespace d.documentSourceRange (.answered (.bool true))
      (.sequence ((chunkHashes chunkHash d.tokens).map fun h => some h.val)) d.wire =
    (.ok receipt, wire) ∧ receipt.sidecarRecords = records

def Stored (chunkHash : List TokenId → Digest) (sha256 : Bytes → Digest)
    (writer : SqliteSidecarIndex) (s : Deployment) : StoreEvent → Deployment → Prop
  | .registered tokens result, s' =>
    Performed s.index ⟨registration chunkHash tokens, result⟩ s'.index ∧ s'.table = s.table
  | .evicted tokenHashes result, s' =>
    Performed s.index ⟨.removeChunks tokenHashes, result⟩ s'.index ∧ s'.table = s.table
  | .published store records faults result, s' =>
    s'.index = s.index ∧ Receives chunkHash sha256 store records ∧
      Added sha256 writer s.table ⟨faults, records, result⟩ s'.table

def StoreEvent.documents : StoreEvent → List (List TokenId)
  | .registered tokens _ => [tokens]
  | .evicted _ _ => []
  | .published store _ _ _ => [store.tokens]

def documents (es : List StoreEvent) : List (List TokenId) := es.flatMap StoreEvent.documents

def StoreEvent.evictedHashes : StoreEvent → List Bytes
  | .evicted tokenHashes (.ok _) => tokenHashes
  | _ => []

def StoreEvent.addCall : StoreEvent → Option AddCall
  | .published _ records faults result => some ⟨faults, records, result⟩
  | _ => none

def addCalls (es : List StoreEvent) : List AddCall := es.filterMap StoreEvent.addCall

/-- The document is registered, and the hash is not evicted after it. -/
def Live (es : List StoreEvent) (document : List TokenId) (h : Bytes) : Prop :=
  ∃ earlier later, es = earlier ++ .registered document (.ok ⟨⟩)::later ∧
    ∀ e ∈ later, h ∉ e.evictedHashes

theorem Live.document {es : List StoreEvent} {d : List TokenId} {h : Bytes} (hl : Live es d h) :
    d ∈ documents es := by
  rcases hl with ⟨earlier, later, rfl, _⟩
  simp [documents, StoreEvent.documents]

theorem live_concat (es : List StoreEvent) (e : StoreEvent) (d : List TokenId) (h : Bytes) :
    Live (es ++ [e]) d h ↔
      (Live es d h ∧ h ∉ e.evictedHashes) ∨ e = .registered d (.ok ⟨⟩) := by
  constructor
  · intro ⟨earlier, later, he, hlater⟩
    induction later using List.reverseRecOn with
    | nil =>
      have ⟨_, hlast⟩ := List.append_inj' he rfl
      exact Or.inr (List.singleton_inj.mp hlast)
    | append_singleton later last _ =>
      rw [← List.cons_append, ← List.append_assoc] at he
      have ⟨hinit, hlast⟩ := List.append_inj' he rfl
      cases hlast
      exact Or.inl ⟨⟨earlier, later, hinit, fun e' he' => hlater e' (List.mem_append_left _ he')⟩,
        hlater e (by simp)⟩
  · intro hcases
    rcases hcases with ⟨⟨earlier, later, rfl, hlater⟩, he⟩ | rfl
    · refine ⟨earlier, later ++ [e], by simp, fun e' he' => ?_⟩
      rcases List.mem_append.mp he' with he' | he'
      · exact hlater e' he'
      · rwa [List.mem_singleton.mp he']
    · exact ⟨es, [], rfl, fun _ he' => absurd he' List.not_mem_nil⟩

theorem documents_concat (es : List StoreEvent) (e : StoreEvent) :
    documents (es ++ [e]) = documents es ++ e.documents := by
  simp [documents]

theorem PrefixInjective.mono {chunkHash : List TokenId → Digest} {ds ds' : List (List TokenId)}
    (h : PrefixInjective chunkHash ds') (hsub : ds ⊆ ds') : PrefixInjective chunkHash ds :=
  fun d hd d' hd' => h d (hsub hd) d' (hsub hd')

/-! ## The index -/

section
variable {chunkSize : ℕ}

theorem foldl_add_get? (additions : List (Addition chunkSize)) (m : TokenRangeMatcher chunkSize)
    (hu : ∀ a ∈ additions, ∀ b ∈ additions, a.tokenHash = b.tokenHash → a.chunk = b.chunk)
    (hm : ∀ a ∈ additions, ∀ existing ∈ m.byHash.get? a.tokenHash, existing = a.chunk)
    (h : Bytes) (c : StoredChunk chunkSize) :
    (additions.foldl TokenRangeMatcher.add m).byHash.get? h = some c ↔
      (∃ a ∈ additions, a.tokenHash = h ∧ a.chunk = c) ∨ m.byHash.get? h = some c := by
  induction additions generalizing m with
  | nil => simp
  | cons a rest ih =>
    have hadd : ∀ k, (m.add a).byHash.get? k =
        if k = a.tokenHash then some a.chunk else m.byHash.get? k :=
      fun k => Dict.get?_set m.byHash a.tokenHash k a.chunk
    rw [List.foldl_cons, ih (m.add a) (fun b hb b' hb' => hu b (by simp [hb]) b' (by simp [hb']))]
    · rw [hadd]
      simp only [List.mem_cons, exists_eq_or_imp]
      by_cases hk : h = a.tokenHash
      · rw [if_pos hk, Option.some.injEq]
        have hsame : m.byHash.get? h = some c → a.chunk = c := by
          intro hg
          rw [hk] at hg
          exact (hm a (by simp) c hg).symm
        have hrest : (∃ b ∈ rest, b.tokenHash = h ∧ b.chunk = c) → a.chunk = c := by
          intro hb
          rcases hb with ⟨b, hb, hbh, hbc⟩
          rw [← hbc]
          exact hu a (by simp) b (by simp [hb]) (hk.symm.trans hbh.symm)
        constructor
        · intro hc
          exact Or.inl (Or.inl ⟨hk.symm, hc.elim hrest id⟩)
        · intro hc
          rcases hc with (⟨_, hc⟩ | hc) | hc
          · exact Or.inr hc
          · exact Or.inr (hrest hc)
          · exact Or.inr (hsame hc)
      · rw [if_neg hk]
        have hne : ¬(a.tokenHash = h ∧ a.chunk = c) := fun hc => hk hc.1.symm
        rw [or_iff_right hne]
    · intro b hb existing he
      rw [hadd] at he
      by_cases hk : b.tokenHash = a.tokenHash
      · rw [if_pos hk] at he
        rw [← Option.some.inj he]
        exact hu a (by simp) b (by simp [hb]) hk.symm
      · rw [if_neg hk] at he
        exact hm b (by simp [hb]) existing he

theorem foldl_remove_get? (tokenHashes : List Bytes) (m : TokenRangeMatcher chunkSize) (h : Bytes)
    (c : StoredChunk chunkSize) :
    (tokenHashes.foldl TokenRangeMatcher.remove m).byHash.get? h = some c ↔
      m.byHash.get? h = some c ∧ h ∉ tokenHashes := by
  induction tokenHashes generalizing m with
  | nil => simp
  | cons tokenHash rest ih =>
    rw [List.foldl_cons, ih, remove_byHash, List.mem_cons, not_or]
    by_cases hk : h = tokenHash
    · simp [hk]
    · simp [hk]

end

theorem additionsFrom_returns {chunkSize : ℕ} (hc : 0 < chunkSize) (tokenIds : List ℤ)
    (tokenHashes : List Bytes) (k : ℕ)
    (h : (k+tokenHashes.length)*chunkSize ≤ tokenIds.length) :
    ∃ additions, additionsFrom hc tokenIds k tokenHashes = .ok additions := by
  induction tokenHashes generalizing k with
  | nil => exact ⟨[], rfl⟩
  | cons tokenHash rest ih =>
    rw [List.length_cons] at h
    have hnext : k+1+rest.length = k+(rest.length+1) := by omega
    rcases ih (k+1) (by rwa [hnext]) with ⟨additions, hadditions⟩
    have hfits : k*chunkSize+chunkSize ≤ tokenIds.length := by
      have hle : (k+1)*chunkSize ≤ (k+(rest.length+1))*chunkSize :=
        Nat.mul_le_mul_right _ (by omega)
      rw [Nat.add_mul, Nat.one_mul] at hle
      omega
    have hlength := window_length tokenIds (k*chunkSize) chunkSize hfits
    rw [additionsFrom, dif_pos hlength, hadditions]
    exact ⟨_, rfl⟩

structure Indexes (chunkHash : List TokenId → Digest) (es : List StoreEvent)
    (m : TokenRangeMatcher lmcacheChunkSize) : Prop where
  coherent : Coherent m
  stored : ∀ h c, m.byHash.get? h = some c ↔ ∃ d i, Live es d h ∧ ChunkOf chunkHash d i h c

section
variable {chunkHash : List TokenId → Digest} {es : List StoreEvent}
  {m m' : TokenRangeMatcher lmcacheChunkSize} {tokens : List TokenId}

theorem hashes_nonempty (tokens : List TokenId) :
    [] ∉ (chunkHashes chunkHash tokens).map Subtype.val := by
  intro h
  rcases List.mem_map.mp h with ⟨digest, _, he⟩
  have hlength := digest.property
  rw [he] at hlength
  cases hlength

theorem mem_additions {hc : 0 < lmcacheChunkSize} {additions : List (Addition lmcacheChunkSize)}
    (ha : additionsFrom hc (values tokens) 0 ((chunkHashes chunkHash tokens).map Subtype.val) =
      .ok additions) (h : Bytes) (c : StoredChunk lmcacheChunkSize) :
    (∃ a ∈ additions, a.tokenHash = h ∧ a.chunk = c) ↔ ∃ i, ChunkOf chunkHash tokens i h c := by
  have hhashes := additionsFrom_hashes _ ha
  have hlength : additions.length = chunkCount tokens := by
    have hl := congrArg List.length hhashes
    rwa [List.length_map, List.length_map, chunkHashes_length] at hl
  have hchunk : ∀ i (hi : i < additions.length),
      ChunkOf chunkHash tokens i additions[i].tokenHash additions[i].chunk := by
    intro i hi
    have ⟨ht, hs⟩ := additionsFrom_chunk _ ha (List.getElem?_eq_getElem hi)
    rw [Nat.zero_add] at ht hs
    refine ⟨hi.trans_eq hlength, ?_, ?_, hs⟩
    · have hget : (additions.map Addition.tokenHash)[i]? = some additions[i].tokenHash := by
        rw [List.getElem?_map, List.getElem?_eq_getElem hi, Option.map_some]
      have hh : i < (chunkHashes chunkHash tokens).length := by
        rw [chunkHashes_length]
        exact hi.trans_eq hlength
      rw [hhashes, List.getElem?_map, List.getElem?_eq_getElem hh, chunkHashes_get] at hget
      exact (Option.some.inj hget).symm
    · rw [ht, window_values]
      rfl
  constructor
  · intro ⟨a, hm, hh, hc⟩
    rcases List.mem_iff_getElem.mp hm with ⟨i, hi, rfl⟩
    exact ⟨i, hh ▸ hc ▸ hchunk i hi⟩
  · intro ⟨i, hi⟩
    have hlt : i < additions.length := hi.complete.trans_eq hlength.symm
    have hsame := hchunk i hlt
    refine ⟨additions[i], List.getElem_mem hlt, hsame.hash.trans hi.hash.symm, ?_⟩
    exact chunk_ext (hsame.tokens.trans hi.tokens.symm) (hsame.start.trans hi.start.symm)

theorem registration_checks (hm : Indexes chunkHash es m)
    (hp : PrefixInjective chunkHash (documents es ++ [tokens])) :
    ∃ (hc : 0 < lmcacheChunkSize) (additions : List (Addition lmcacheChunkSize)),
      additionsFrom hc (values tokens) 0 ((chunkHashes chunkHash tokens).map Subtype.val) =
        .ok additions ∧
      (∀ a ∈ additions, ∀ b ∈ additions, a.tokenHash = b.tokenHash → a.chunk = b.chunk) ∧
      ∀ a ∈ additions, ∀ existing ∈ m.byHash.get? a.tokenHash, existing = a.chunk := by
  have hc : 0 < lmcacheChunkSize := by decide
  have hfits : (0+((chunkHashes chunkHash tokens).map Subtype.val).length)*lmcacheChunkSize ≤
      (values tokens).length := by
    rw [Nat.zero_add, List.length_map, chunkHashes_length, values_length]
    exact Nat.div_mul_le_self _ _
  rcases additionsFrom_returns hc (values tokens) _ 0 hfits with ⟨additions, ha⟩
  have hlast : tokens ∈ documents es ++ [tokens] := by simp
  have hof : ∀ a ∈ additions, ∃ i, ChunkOf chunkHash tokens i a.tokenHash a.chunk :=
    fun a h => (mem_additions ha _ _).mp ⟨a, h, rfl, rfl⟩
  refine ⟨hc, additions, ha, fun a hma b hmb he => ?_, fun a hma existing he => ?_⟩
  · rcases hof a hma with ⟨i, hi⟩
    rcases hof b hmb with ⟨j, hj⟩
    rw [← he] at hj
    exact hi.unique hp hlast hlast hj
  · rcases hof a hma with ⟨i, hi⟩
    rcases (hm.stored _ _).mp he with ⟨d, j, hl, hj⟩
    exact hj.unique hp (List.mem_append_left _ hl.document) hlast hi

theorem registration_room (hm : Indexes chunkHash es m)
    (hp : PrefixInjective chunkHash (documents es ++ [tokens])) {e : RuntimeError}
    (h : m.perform (registration chunkHash tokens) = .error e) :
    e = ⟨"LMCache exact matcher capacity exceeded"⟩ := by
  rcases registration_checks hm hp with ⟨hc, additions, ha, _, hx⟩
  rw [registration, TokenRangeMatcher.perform, TokenRangeMatcher.onNewTokenHashes,
    dif_pos ⟨hc, hashes_nonempty tokens⟩] at h
  have hcount : ((chunkHashes chunkHash tokens).map Subtype.val).length =
      (values tokens).length/lmcacheChunkSize := by
    rw [List.length_map, chunkHashes_length, values_length]
  rw [require_of _ hcount, ha] at h
  change (require (m.byHash.size+(newHashes m additions).length ≤ exactIndexLimit) _ >>=
    fun _ => require _ _ >>= fun _ => _) = _ at h
  rcases (checked_error_iff ..).mp h with h | ⟨_, _, h⟩
  · by_cases hroom : m.byHash.size+(newHashes m additions).length ≤ exactIndexLimit
    · rw [require_of _ hroom] at h
      cases h
    · rw [require_not _ hroom] at h
      exact (Except.error.inj h).symm
  · rw [require_of _ hx] at h
    cases h

theorem indexes_registered (hm : Indexes chunkHash es m)
    (hp : PrefixInjective chunkHash (documents es ++ [tokens]))
    (h : m.perform (registration chunkHash tokens) = .ok m') :
    Indexes chunkHash (es ++ [.registered tokens (.ok ⟨⟩)]) m' := by
  rcases registration_checks hm hp with ⟨hc, additions, ha, hu, hx⟩
  have hreturn := (onNewTokenHashes_ok_iff _ _ _ _).mp h
  rcases hreturn with ⟨_, additions', _, _, ha', _, _, rfl⟩
  cases Except.ok.inj (ha.symm.trans ha')
  constructor
  · apply (coherent_perform_iff hm.coherent h).mpr
    apply (uniform_iff ha).mpr
    intro a hma b hmb he
    rw [hu a hma b hmb he]
  · intro k c
    rw [foldl_add_get? additions m hu hx, mem_additions ha, hm.stored]
    simp only [live_concat, StoreEvent.evictedHashes, StoreEvent.registered.injEq, and_true,
      List.not_mem_nil, not_false_eq_true]
    constructor
    · intro hcases
      rcases hcases with ⟨i, hi⟩ | ⟨d, i, hl, hi⟩
      · exact ⟨tokens, i, Or.inr rfl, hi⟩
      · exact ⟨d, i, Or.inl hl, hi⟩
    · intro hlive
      rcases hlive with ⟨d, i, hl | rfl, hi⟩
      · exact Or.inr ⟨d, i, hl, hi⟩
      · exact Or.inl ⟨i, hi⟩

theorem indexes_evicted (hm : Indexes chunkHash es m) {tokenHashes : List Bytes}
    (h : m.perform (.removeChunks tokenHashes) = .ok m') :
    Indexes chunkHash (es ++ [.evicted tokenHashes (.ok ⟨⟩)]) m' := by
  refine ⟨(coherent_perform_iff hm.coherent h).mpr trivial, fun k c => ?_⟩
  have hfold : m' = tokenHashes.foldl TokenRangeMatcher.remove m := by
    rw [TokenRangeMatcher.perform, TokenRangeMatcher.removeChunks] at h
    by_cases hn : [] ∈ tokenHashes
    · rw [if_pos hn] at h
      cases h
    · rw [if_neg hn] at h
      exact (Except.ok.inj h).symm
  rw [hfold, foldl_remove_get?, hm.stored]
  simp only [live_concat, StoreEvent.evictedHashes, reduceCtorEq, or_false]
  constructor
  · intro ⟨⟨d, i, hl, hi⟩, hn⟩
    exact ⟨d, i, ⟨hl, hn⟩, hi⟩
  · intro ⟨d, i, ⟨hl, hn⟩, hi⟩
    exact ⟨⟨d, i, hl, hi⟩, hn⟩

theorem indexes_kept (hm : Indexes chunkHash es m) {e : StoreEvent} (he : e.evictedHashes = [])
    (hn : ∀ d, e ≠ .registered d (.ok ⟨⟩)) : Indexes chunkHash (es ++ [e]) m := by
  refine ⟨hm.coherent, fun k c => ?_⟩
  rw [hm.stored]
  simp [live_concat, he, hn]

end

/-! ## The records -/

section
variable {chunkHash : List TokenId → Digest} {sha256 : Bytes → Digest}

/-- A record is that of one chunk of a published document. -/
def RecordOf (chunkHash : List TokenId → Digest) (sha256 : Bytes → Digest) (store : DocumentStore)
    (i : ℕ) (r : CacheRecord) : Prop :=
  i < chunkCount store.tokens ∧ ChunkRecord sha256 store.tokens store.config.cacheNamespace 0 i
    (chunkHash (prefixOf store.tokens i)) r

theorem chunkRecord_unique {tokens : List TokenId} {n : CacheNamespace} {sourceStart i : ℕ}
    {h : Digest} {r r' : CacheRecord} (hr : ChunkRecord sha256 tokens n sourceStart i h r)
    (hr' : ChunkRecord sha256 tokens n sourceStart i h r') : r = r' := by
  have hrange : r.sourceRange = r'.sourceRange := by
    rw [TokenRange.ext_iff', hr.start, hr'.start, hr.stop, hr'.stop]
    exact ⟨rfl, rfl⟩
  have hn := hr.cacheNamespace.trans hr'.cacheNamespace.symm
  have hf := hr.fingerprint.trans hr'.fingerprint.symm
  have ht := hr.tokenIds.trans hr'.tokenIds.symm
  have hk := hr.key.trans hr'.key.symm
  cases r
  cases r'
  simp_all

theorem store_received (chunkHash : List TokenId → Digest) (sha256 : Bytes → Digest)
    (store : DocumentStore) : ∃ records, Receives chunkHash sha256 store records ∧
      ChunkRecords sha256 store.tokens store.config.cacheNamespace 0
        (chunkHashes chunkHash store.tokens) records ∧
      RecordsPass sha256 store.config.cacheNamespace records := by
  rcases store.accepted.inputs with ⟨_, _, hi⟩
  have ⟨hne, hd⟩ := storeInputs_facts hi
  have ⟨_, hsize, hstop⟩ := recordIdentity_facts store.accepted.identity
  have hc := chunkHashes_length chunkHash store.tokens
  rcases storePrecomputed_returns sha256 store.accepted _ hc with ⟨records, wire, hrecords, hrun⟩
  rw [store.from_start] at hrecords
  have hposition : store.tokens.length ≤ SidecarRows.maxTokenPosition := by
    rw [← hsize]
    exact (Nat.sub_le _ _).trans hstop
  have hchunk : lmcacheChunkSize ≤ store.tokens.length :=
    Nat.le_of_dvd (List.length_pos_of_ne_nil hne) (Nat.dvd_of_mod_eq_zero hd)
  have hpass := hrecords.pass hc store.config.audited hchunk hposition
  exact ⟨records, ⟨_, wire, hrun hpass.receipt, rfl⟩, hrecords, hpass⟩

theorem receives_unique {store : DocumentStore} {records records' : List CacheRecord}
    (h : Receives chunkHash sha256 store records) (h' : Receives chunkHash sha256 store records') :
    records = records' := by
  rcases h with ⟨receipt, wire, hreturn, rfl⟩
  rcases h' with ⟨receipt', wire', hreturn', rfl⟩
  cases hreturn.symm.trans hreturn'
  rfl

theorem received_records {store : DocumentStore} {records : List CacheRecord}
    (h : Receives chunkHash sha256 store records) : ChunkRecords sha256 store.tokens
      store.config.cacheNamespace 0 (chunkHashes chunkHash store.tokens) records := by
  rcases store_received chunkHash sha256 store with ⟨records', h', hrecords, _⟩
  rwa [receives_unique h h']

theorem mem_received {store : DocumentStore} {records : List CacheRecord}
    (h : Receives chunkHash sha256 store records) (r : CacheRecord) :
    r ∈ records ↔ ∃ i, RecordOf chunkHash sha256 store i r := by
  have hrecords := received_records h
  have hlength : (chunkHashes chunkHash store.tokens).length = chunkCount store.tokens :=
    chunkHashes_length chunkHash store.tokens
  constructor
  · intro hr
    rcases List.mem_iff_getElem.mp hr with ⟨i, hi, rfl⟩
    have hh : i < (chunkHashes chunkHash store.tokens).length := hi.trans_eq hrecords.count
    have hchunk := hrecords.each i hi hh
    rw [chunkHashes_get] at hchunk
    exact ⟨i, hh.trans_eq hlength, hchunk⟩
  · intro ⟨i, hi, hchunk⟩
    have hh : i < (chunkHashes chunkHash store.tokens).length := hi.trans_eq hlength.symm
    have hi' : i < records.length := hh.trans_eq hrecords.count.symm
    have hget := hrecords.each i hi' hh
    rw [chunkHashes_get] at hget
    rw [chunkRecord_unique hchunk hget]
    exact List.getElem_mem hi'

end

/-- The store is published by a call of the run that returned. -/
def Published (es : List StoreEvent) (store : DocumentStore) : Prop :=
  ∃ records faults count, .published store records faults (.ok count) ∈ es

/-! ## Runs -/

section
variable {chunkHash : List TokenId → Digest} {sha256 : Bytes → Digest}
  {writer : SqliteSidecarIndex} {es : List StoreEvent} {s : Deployment}

theorem addCalls_concat (es : List StoreEvent) (e : StoreEvent) :
    addCalls (es ++ [e]) = addCalls es ++ e.addCall.toList := by
  rw [addCalls, List.filterMap_append]
  cases h : e.addCall <;> simp [addCalls, h]

theorem table_run (h : Run (Stored chunkHash sha256 writer) .empty es s) :
    Run (Added sha256 writer) SidecarTable.empty (addCalls es) s.table := by
  induction h with
  | nil => exact .nil
  | @snoc es s s' e _ hs ih =>
    rw [addCalls_concat]
    cases e with
    | registered tokens result =>
      show Run _ _ (addCalls es ++ []) _
      rw [List.append_nil, hs.2]
      exact ih
    | evicted tokenHashes result =>
      show Run _ _ (addCalls es ++ []) _
      rw [List.append_nil, hs.2]
      exact ih
    | published store records faults result => exact .snoc ih hs.2.2

theorem published_received (h : Run (Stored chunkHash sha256 writer) .empty es s) :
    ∀ store records faults result, .published store records faults result ∈ es →
      Receives chunkHash sha256 store records := by
  induction h with
  | nil => exact fun _ _ _ _ h => absurd h List.not_mem_nil
  | snoc _ hs ih =>
    intro store records faults result hm
    rcases List.mem_append.mp hm with hm | hm
    · exact ih store records faults result hm
    · rw [← List.mem_singleton.mp hm] at hs
      exact hs.2.1

theorem mem_published (h : Run (Stored chunkHash sha256 writer) .empty es s) (r : CacheRecord) :
    r ∈ distinctRecords (addCalls es) ↔
      ∃ store i, Published es store ∧ RecordOf chunkHash sha256 store i r := by
  rw [mem_distinctRecords_iff]
  constructor
  · intro ⟨c, hc, ⟨count, hcount⟩, hr⟩
    rcases List.mem_filterMap.mp hc with ⟨e, he, hcall⟩
    cases e with
    | registered tokens result => cases hcall
    | evicted tokenHashes result => cases hcall
    | published store records faults result =>
      cases hcall
      cases hcount
      rcases (mem_received (published_received h _ _ _ _ he) r).mp hr with ⟨i, hi⟩
      exact ⟨store, i, ⟨records, faults, count, he⟩, hi⟩
  · intro ⟨store, i, ⟨records, faults, count, he⟩, hi⟩
    refine ⟨⟨faults, records, .ok count⟩, List.mem_filterMap.mpr ⟨_, he, rfl⟩, ⟨count, rfl⟩, ?_⟩
    exact (mem_received (published_received h _ _ _ _ he) r).mpr ⟨i, hi⟩

theorem indexes_run (h : Run (Stored chunkHash sha256 writer) .empty es s)
    (hp : PrefixInjective chunkHash (documents es)) :
    Indexes chunkHash es s.index ∧ ∀ tokens e, .registered tokens (.error e) ∈ es →
      e = ⟨"LMCache exact matcher capacity exceeded"⟩ := by
  induction h with
  | nil =>
    refine ⟨⟨coherent_initial, fun k c => ?_⟩, fun _ _ h => absurd h List.not_mem_nil⟩
    constructor
    · intro hg
      cases hg
    · intro ⟨d, _, ⟨earlier, later, he, _⟩, _⟩
      exact absurd he (by simp)
  | @snoc es s s' e _ hs ih =>
    rw [documents_concat] at hp
    have ⟨hm, hroom⟩ := ih (hp.mono (List.subset_append_left _ _))
    cases e with
    | registered tokens result =>
      rcases (performed_iff _ _ _).mp hs.1 with ⟨hr, hperform⟩ | ⟨error, hr, hperform, hsame⟩
      · cases hr
        refine ⟨indexes_registered hm hp hperform, fun d e he => ?_⟩
        rcases List.mem_append.mp he with he | he
        · exact hroom d e he
        · cases List.mem_singleton.mp he
      · cases hr
        rw [hsame]
        refine ⟨indexes_kept hm rfl (fun d hd => by cases hd), fun d e he => ?_⟩
        rcases List.mem_append.mp he with he | he
        · exact hroom d e he
        · cases List.mem_singleton.mp he
          exact registration_room hm hp hperform
    | evicted tokenHashes result =>
      have hearlier : ∀ d e,
          StoreEvent.registered d (.error e) ∈ es ++ [.evicted tokenHashes result] →
          e = ⟨"LMCache exact matcher capacity exceeded"⟩ := by
        intro d e he
        rcases List.mem_append.mp he with he | he
        · exact hroom d e he
        · cases List.mem_singleton.mp he
      rcases (performed_iff _ _ _).mp hs.1 with ⟨hr, hperform⟩ | ⟨error, hr, hperform, hsame⟩
      · cases hr
        exact ⟨indexes_evicted hm hperform, hearlier⟩
      · cases hr
        rw [hsame]
        exact ⟨indexes_kept hm rfl (fun d hd => by cases hd), hearlier⟩
    | published store records faults result =>
      rw [hs.1]
      refine ⟨indexes_kept hm rfl (fun d hd => by cases hd), fun d e he => ?_⟩
      rcases List.mem_append.mp he with he | he
      · exact hroom d e he
      · cases List.mem_singleton.mp he

/-- Over every run of registrations, evictions and publications, the two
dictionaries of the index agree and hold exactly the chunks that are registered
and not evicted since, a registration raises only when the index is full, and
the sidecar holds each chunk of a published document once and nothing else. -/
theorem stores_cohere (chunkHash : List TokenId → Digest) (sha256 : Bytes → Digest)
    (writer : SqliteSidecarIndex) (es : List StoreEvent) (s : Deployment)
    (hrun : Run (Stored chunkHash sha256 writer) .empty es s)
    (hp : PrefixInjective chunkHash (documents es)) :
    Coherent s.index ∧
    (∀ h c, s.index.byHash.get? h = some c ↔ ∃ d i, Live es d h ∧ ChunkOf chunkHash d i h c) ∧
    (∀ tokens e, .registered tokens (.error e) ∈ es →
      e = ⟨"LMCache exact matcher capacity exceeded"⟩) ∧
    ∃ records, Content sha256 s.table records ∧ records.Nodup ∧ ∀ r, r ∈ records ↔
      ∃ store i, Published es store ∧ RecordOf chunkHash sha256 store i r := by
  have ⟨hm, hroom⟩ := indexes_run hrun hp
  refine ⟨hm.coherent, hm.stored, hroom, _, history_content (table_run hrun),
    firstBy_nodup id [] _, mem_published hrun⟩

end

/-! ## Two documents with a common chunk -/

def documentStore (tokens : List TokenId) (h : Storable tokens) : DocumentStore where
  config := pinnedConfig
  request := storeRequest tokens
  documentSourceRange := wholeRange tokens
  wire := registeredWire
  tokens := tokens
  from_start := rfl
  accepted := storeRequest_accepted h

def prefixHash (tokens : List TokenId) : Digest :=
  tailDigest [UInt8.ofNat (tokens.length/lmcacheChunkSize*16+(tokens.getLastD 0).val)]

theorem chunks_common : ∀ tokens ∈ [zeros, zerosOnes], ∀ i < chunkCount tokens, i < 2 ∧
    prefixOf tokens i = prefixOf zerosOnes i ∧
      (chunkWork tokens i).tokenIds = (chunkWork zerosOnes i).tokenIds := by
  decide +kernel

theorem prefixHash_apart : ∀ i < 2, ∀ j < 2,
    prefixHash (prefixOf zerosOnes i) = prefixHash (prefixOf zerosOnes j) → i = j := by
  decide +kernel

theorem prefixHash_injective {documents : List (List TokenId)}
    (h : ∀ d ∈ documents, d ∈ [zeros, zerosOnes]) : PrefixInjective prefixHash documents := by
  intro d hd d' hd' i hi j hj he
  rcases chunks_common d (h d hd) i hi with ⟨hi, hp, _⟩
  rcases chunks_common d' (h d' hd') j hj with ⟨hj, hp', _⟩
  rw [hp, hp'] at he ⊢
  rw [prefixHash_apart i hi j hj he]

/-- The record of a chunk of the longer document. -/
def KnownRecord (i : ℕ) (r : CacheRecord) : Prop :=
  i < 2 ∧ ChunkRecord tailDigest zerosOnes pinnedNamespace 0 i (prefixHash (prefixOf zerosOnes i)) r

theorem record_known {tokens : List TokenId} (ht : tokens ∈ [zeros, zerosOnes])
    {hs : Storable tokens} {i : ℕ} {r : CacheRecord} :
    RecordOf prefixHash tailDigest (documentStore tokens hs) i r ↔
      i < chunkCount tokens ∧ KnownRecord i r := by
  constructor
  · intro h
    rcases h with ⟨hi, hr⟩
    rcases chunks_common tokens ht i hi with ⟨hlt, hp, hc⟩
    refine ⟨hi, hlt, hr.cacheNamespace, hr.tokenIds.trans hc, ?_, hr.start, hr.stop, ?_⟩
    · rw [← hc]
      exact hr.fingerprint
    · rw [← hp]
      exact hr.key
  · intro h
    rcases h with ⟨hi, _, hr⟩
    rcases chunks_common tokens ht i hi with ⟨_, hp, hc⟩
    refine ⟨hi, hr.cacheNamespace, hr.tokenIds.trans hc.symm, ?_, hr.start, hr.stop, ?_⟩
    · show _ = fingerprint tailDigest _ (chunkWork tokens i).tokenIds
      rw [hc]
      exact hr.fingerprint
    · show _ = cacheKeyOf (prefixHash (prefixOf tokens i)).val
      rw [hp]
      exact hr.key

theorem tailDigest_record {r : CacheRecord} {count : ℕ} {t : TokenId}
    (h : r.tokenIds = List.replicate (count+1) t) :
    tailDigest (HashPreimages.preimage (recordInput r)) = tailDigest [UInt8.ofNat t.val] := by
  have htail : ∀ (xs : Bytes) (x : UInt8), tailDigest (xs ++ [x]) = tailDigest [x] := by
    intro xs x
    apply Subtype.ext
    show List.replicate 32 ((xs ++ [x]).getLastD 0) = _
    rw [List.getLastD_concat]
    rfl
  simp only [recordInput, HashPreimages.preimage, SidecarRows.updateField,
    SidecarRows.encodeTokenIds, h, List.replicate_succ', List.flatMap_append,
    List.flatMap_singleton, packU64, bigEndian, ← List.append_assoc]
  exact htail _ _

theorem zerosOnes_chunk : ∀ i < 2,
    (chunkWork zerosOnes i).tokenIds = List.replicate 256 (if i = 0 then 0 else 1) := by
  decide +kernel

theorem known_apart {i j : ℕ} {r r' : CacheRecord} (h : KnownRecord i r) (h' : KnownRecord j r')
    (he : tailDigest (HashPreimages.preimage (recordInput r)) =
      tailDigest (HashPreimages.preimage (recordInput r'))) : r = r' := by
  have hdigests : ∀ i < 2, ∀ j < 2,
      tailDigest [UInt8.ofNat (if i = 0 then 0 else 1 : TokenId).val] =
        tailDigest [UInt8.ofNat (if j = 0 then 0 else 1 : TokenId).val] → i = j := by
    decide +kernel
  rw [tailDigest_record (h.2.tokenIds.trans (zerosOnes_chunk i h.1)),
    tailDigest_record (h'.2.tokenIds.trans (zerosOnes_chunk j h'.1))] at he
  cases hdigests i h.1 j h'.1 he
  exact chunkRecord_unique h.2 h'.2

def AllKnown (records : List CacheRecord) : Prop :=
  records.length ≤ 2 ∧ ∀ r ∈ records, ∃ i, KnownRecord i r

theorem publication_returns {tokens : List TokenId} (ht : tokens ∈ [zeros, zerosOnes])
    (hs : Storable tokens) (s : Deployment) {stored : List CacheRecord}
    (hc : Content tailDigest s.table stored) (hk : ∀ r ∈ stored, ∃ i, KnownRecord i r) :
    ∃ records count t,
      Stored prefixHash tailDigest openWriter s
        (.published (documentStore tokens hs) records .none (.ok count)) ⟨s.index, t⟩ ∧
      AllKnown records ∧ Content tailDigest t (stored ++ newRecords stored records) := by
  rcases store_received prefixHash tailDigest (documentStore tokens hs) with
    ⟨records, hreceives, hrecords, hpass⟩
  have hknown : ∀ r ∈ records, ∃ i, KnownRecord i r := by
    intro r hr
    rcases (mem_received hreceives r).mp hr with ⟨i, hi⟩
    exact ⟨i, ((record_known ht).mp hi).2⟩
  have hvalid : ∀ r ∈ records, SidecarRows.RecordValid r :=
    fun r hr => (SidecarRows.validateRecord_ok_iff r).mp (hpass.sidecar r hr)
  have hlength : records.length ≤ 2 := by
    rw [hrecords.count, chunkHashes_length]
    exact Nat.div_le_of_le_mul hs.fits
  have htokens : (records.map fun r => r.tokenIds.length).sum ≤ records.length*256 := by
    have hle := List.sum_le_card_nsmul (records.map fun r => r.tokenIds.length) 256 (by
      intro n hn
      rcases List.mem_map.mp hn with ⟨r, hr, rfl⟩
      rcases hknown r hr with ⟨i, hi, h⟩
      rw [h.tokenIds, zerosOnes_chunk i hi, List.length_replicate])
    rwa [List.length_map, nsmul_eq_mul, Nat.cast_id] at hle
  have haccepted : BatchAccepted openWriter records := by
    have hlimits : 2 ≤ maxRecordsPerTransaction ∧ 2*256 ≤ maxTokensPerTransaction := by decide
    refine ⟨rfl, rfl, hvalid, hlength.trans hlimits.1, htokens.trans ?_⟩
    exact (Nat.mul_le_mul_right 256 hlength).trans hlimits.2
  rcases addMany_returns haccepted hc (by
    intro r hr r' hr' he
    have hall : ∀ r ∈ stored ++ records, ∃ i, KnownRecord i r := by
      intro r hr
      exact (List.mem_append.mp hr).elim (hk r) (hknown r)
    rcases hall r hr with ⟨_, h⟩
    rcases hall r' hr' with ⟨_, h'⟩
    exact known_apart h h' he) with ⟨count, t, hadded⟩
  exact ⟨records, count, t, ⟨rfl, hreceives, hadded⟩, ⟨hlength, hknown⟩,
    (addMany_ok hc hadded).1⟩

def twoStores (records records' : List CacheRecord) (count count' : ℕ) : List StoreEvent :=
  [.registered zeros (.ok ⟨⟩),
    .published (documentStore zeros zeros_storable) records .none (.ok count),
    .registered zerosOnes (.ok ⟨⟩),
    .published (documentStore zerosOnes zerosOnes_storable) records' .none (.ok count')]

def zerosEvicted : StoreEvent := .evicted [(prefixHash zeros).val] (.ok ⟨⟩)

theorem index_returns : ∃ m₁ m₂ m₃,
    (TokenRangeMatcher.initial lmcacheChunkSize).perform (registration prefixHash zeros) = .ok m₁ ∧
      m₁.perform (registration prefixHash zerosOnes) = .ok m₂ ∧
      m₂.perform (.removeChunks [(prefixHash zeros).val]) = .ok m₃ := by
  have hreturned : ((TokenRangeMatcher.initial lmcacheChunkSize).perform
      (registration prefixHash zeros) >>= fun m₁ =>
        m₁.perform (registration prefixHash zerosOnes) >>= fun m₂ =>
          m₂.perform (.removeChunks [(prefixHash zeros).val])).toOption.isSome = true := by
    decide +kernel
  rcases Option.isSome_iff_exists.mp hreturned with ⟨m₃, h⟩
  rcases (checked_ok_iff _ _ _).mp (toOption_some h) with ⟨m₁, h₁, h⟩
  rcases (checked_ok_iff _ _ _).mp h with ⟨m₂, h₂, h₃⟩
  exact ⟨m₁, m₂, m₃, h₁, h₂, h₃⟩

theorem stores_run : ∃ records records' count count' s₁ s₂ s₃,
    AllKnown records ∧ AllKnown records' ∧
      Run (Stored prefixHash tailDigest openWriter) .empty
        ((twoStores records records' count count').take 2) s₁ ∧
      Run (Stored prefixHash tailDigest openWriter) .empty
        (twoStores records records' count count') s₂ ∧
      Stored prefixHash tailDigest openWriter s₂ zerosEvicted s₃ := by
  rcases index_returns with ⟨m₁, m₂, m₃, h₁, h₂, h₃⟩
  rcases publication_returns (by simp) zeros_storable ⟨m₁, .empty⟩
    (content_empty : Content tailDigest .empty []) (fun r hr => absurd hr List.not_mem_nil) with
    ⟨records, count, t₁, hfirst, hknown, hcontent⟩
  have hstored : ∀ r ∈ [] ++ newRecords [] records, ∃ i, KnownRecord i r :=
    fun r hr => hknown.2 r ((firstBy_sublist id [] records).mem hr)
  rcases publication_returns (by simp) zerosOnes_storable ⟨m₂, t₁⟩ hcontent hstored with
    ⟨records', count', t₂, hsecond, hknown', _⟩
  have hregistered : ∀ {m m' : TokenRangeMatcher lmcacheChunkSize} {tokens : List TokenId}
      (t : SidecarTable), m.perform (registration prefixHash tokens) = .ok m' →
      Stored prefixHash tailDigest openWriter ⟨m, t⟩ (.registered tokens (.ok ⟨⟩)) ⟨m', t⟩ :=
    fun _ h => ⟨(performed_iff _ _ _).mpr (Or.inl ⟨rfl, h⟩), rfl⟩
  have hrun : Run (Stored prefixHash tailDigest openWriter) .empty
      ((twoStores records records' count count').take 2) ⟨m₁, t₁⟩ :=
    .snoc (.snoc .nil (hregistered .empty h₁)) hfirst
  exact ⟨records, records', count, count', ⟨m₁, t₁⟩, ⟨m₂, t₂⟩, ⟨m₃, t₂⟩, hknown, hknown', hrun,
    .snoc (.snoc hrun (hregistered t₁ h₂)) hsecond,
    (performed_iff _ _ _).mpr (Or.inl ⟨rfl, h₃⟩), rfl⟩

theorem stores_documents (records records' : List CacheRecord) (count count' : ℕ) :
    ∀ d ∈ documents (twoStores records records' count count' ++ [zerosEvicted]),
      d ∈ [zeros, zerosOnes] := by
  intro d hd
  simpa [documents, twoStores, zerosEvicted, StoreEvent.documents, documentStore] using hd

/-- After the eviction the index holds the second chunk of the longer document only, and the
sidecar still has the records of both chunks. -/
theorem two_documents_cohere : ∃ records records' count count' s,
    Run (Stored prefixHash tailDigest openWriter) .empty
        (twoStores records records' count count' ++ [zerosEvicted]) s ∧
      Coherent s.index ∧ s.index.byHash.get? (prefixHash zeros).val = none ∧
      (∃ c, s.index.byHash.get? (prefixHash zerosOnes).val = some c) ∧
      ∃ stored, Content tailDigest s.table stored ∧ stored.Nodup ∧
        ∀ r, r ∈ stored ↔ ∃ i, KnownRecord i r := by
  rcases stores_run with ⟨records, records', count, count', _, s₂, s, _, _, _, hstores, hevicted⟩
  have hrun := hstores.snoc hevicted
  rcases stores_cohere prefixHash tailDigest openWriter _ s hrun
    (prefixHash_injective (stores_documents records records' count count')) with
    ⟨hcoherent, hindex, _, stored, hcontent, hnodup, hstored⟩
  refine ⟨records, records', count, count', s, hrun, hcoherent, ?_, ?_, stored, hcontent, hnodup,
    fun r => (hstored r).trans ⟨?_, ?_⟩⟩
  · apply Option.eq_none_iff_forall_ne_some.mpr
    intro c hc
    rcases (hindex _ c).mp hc with ⟨d, i, hlive, _⟩
    rcases (live_concat _ _ _ _).mp hlive with ⟨_, hkept⟩ | he
    · exact hkept List.mem_cons_self
    · cases he
  · have hcount : 1 < chunkCount zerosOnes := by decide +kernel
    have hlong : prefixOf zerosOnes 1 = zerosOnes := by decide +kernel
    rcases chunkOf_exists prefixHash hcount with ⟨c, hc⟩
    rw [hlong] at hc
    refine ⟨c, (hindex _ c).mpr ⟨zerosOnes, 1, (live_concat _ _ _ _).mpr (Or.inl ⟨?_, ?_⟩), hc⟩⟩
    · refine ⟨(twoStores records records' count count').take 2,
        [.published (documentStore zerosOnes zerosOnes_storable) records' .none (.ok count')], rfl,
        fun e he => ?_⟩
      rw [List.mem_singleton.mp he]
      exact List.not_mem_nil
    · decide +kernel
  · intro h
    rcases h with ⟨store, i, ⟨_, _, _, hp⟩, hr⟩
    have hstore : store = documentStore zeros zeros_storable ∨
        store = documentStore zerosOnes zerosOnes_storable := by
      simp only [twoStores, zerosEvicted, List.mem_append, List.mem_cons, List.not_mem_nil,
        or_false, reduceCtorEq, false_or, StoreEvent.published.injEq] at hp
      exact hp.imp And.left And.left
    rcases hstore with rfl | rfl <;> exact ⟨i, ((record_known (by simp)).mp hr).2⟩
  · intro h
    rcases h with ⟨i, h⟩
    refine ⟨documentStore zerosOnes zerosOnes_storable, i, ⟨records', .none, count', ?_⟩,
      (record_known (by simp)).mpr ⟨?_, h⟩⟩
    · simp [twoStores]
    · exact h.1.trans_eq (by decide +kernel)

end CacheBlend.DocumentStores
