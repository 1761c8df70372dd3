import CacheBlend.Bytes
import CacheBlend.Checks
import CacheBlend.Dict
import CacheBlend.FirstOccurrences
import CacheBlend.Runs

/-!
# The exact-token index of the LMCache server

The patched matcher indexes every complete chunk by its hash and, for the
search, by its first token. A query reports the first exact occurrence of
every indexed hash. Every bucket of the index holds only chunks that begin
with the token of the bucket, so a window finds all chunks equal to it.
-/

set_option autoImplicit false

namespace CacheBlend.ExactMatcher

structure RuntimeError where
  text : String
  deriving DecidableEq

def exactIndexLimit : ℕ := 2^20

/-- The tokens of one complete chunk and its start in the stored document. -/
structure StoredChunk (chunkSize : ℕ) where
  tokens : List ℤ
  start : ℕ
  nonempty : tokens ≠ []
  size_eq : tokens.length = chunkSize
  deriving DecidableEq

structure CBMatchResult where
  oldSt : ℤ
  oldEd : ℤ
  curSt : ℤ
  curEd : ℤ
  hash : Bytes
  deriving DecidableEq

section
variable {chunkSize : ℕ}

def StoredChunk.first (c : StoredChunk chunkSize) : ℤ := c.tokens.head c.nonempty

theorem StoredChunk.first_eq (c : StoredChunk chunkSize) : c.tokens.head? = some c.first :=
  List.head?_eq_some_head c.nonempty

theorem StoredChunk.chunkSize_pos (c : StoredChunk chunkSize) : 0 < chunkSize :=
  c.size_eq ▸ List.length_pos_of_ne_nil c.nonempty

abbrev Bucket (chunkSize : ℕ) := Dict Bytes (StoredChunk chunkSize)

structure TokenRangeMatcher (chunkSize : ℕ) where
  byFirstToken : Dict ℤ (Bucket chunkSize)
  byHash : Dict Bytes (StoredChunk chunkSize)
  deriving DecidableEq

def TokenRangeMatcher.initial (chunkSize : ℕ) : TokenRangeMatcher chunkSize :=
  ⟨Dict.empty, Dict.empty⟩

structure Addition (chunkSize : ℕ) where
  tokenHash : Bytes
  chunk : StoredChunk chunkSize
  deriving DecidableEq

/-- The chunks of a document paired with their hashes, from one chunk index on. -/
def additionsFrom (hc : 0 < chunkSize) (tokenIds : List ℤ) :
    ℕ → List Bytes → Except RuntimeError (List (Addition chunkSize))
  | _, [] => .ok []
  | chunkIndex, tokenHash::rest =>
    let chunk := window tokenIds (chunkIndex*chunkSize) chunkSize
    if h : chunk.length = chunkSize then do
      let additions ← additionsFrom hc tokenIds (chunkIndex+1) rest
      .ok (⟨tokenHash, chunk, chunkIndex*chunkSize,
        List.ne_nil_of_length_pos (h.symm ▸ hc), h⟩ :: additions)
    else .error ⟨"LMCache exact matcher received a partial chunk"⟩

def TokenRangeMatcher.bucket (m : TokenRangeMatcher chunkSize) (first : ℤ) : Bucket chunkSize :=
  (m.byFirstToken.get? first).getD Dict.empty

def TokenRangeMatcher.add (m : TokenRangeMatcher chunkSize) (a : Addition chunkSize) :
    TokenRangeMatcher chunkSize where
  byFirstToken :=
    m.byFirstToken.set a.chunk.first ((m.bucket a.chunk.first).set a.tokenHash a.chunk)
  byHash := m.byHash.set a.tokenHash a.chunk

def newHashes (m : TokenRangeMatcher chunkSize) (additions : List (Addition chunkSize)) :
    List Bytes :=
  (additions.map Addition.tokenHash).dedup.filter (· ∉ m.byHash.keys)

/-- `patched_on_new_token_hashes`. Every check precedes the first write, and
conflicts are looked for among the entries that were there before the call. -/
def TokenRangeMatcher.onNewTokenHashes (m : TokenRangeMatcher chunkSize) (tokenIds : List ℤ)
    (tokenHashes : List Bytes) : Except RuntimeError (TokenRangeMatcher chunkSize) :=
  if hc : 0 < chunkSize ∧ [] ∉ tokenHashes then do
    require (tokenHashes.length = tokenIds.length/chunkSize)
      ⟨"LMCache exact matcher chunk/hash count mismatch"⟩
    let additions ← additionsFrom hc.1 tokenIds 0 tokenHashes
    require (m.byHash.size+(newHashes m additions).length ≤ exactIndexLimit)
      ⟨"LMCache exact matcher capacity exceeded"⟩
    require (∀ a ∈ additions, ∀ existing ∈ m.byHash.get? a.tokenHash, existing = a.chunk)
      ⟨"LMCache exact matcher hash identity conflict"⟩
    .ok (additions.foldl TokenRangeMatcher.add m)
  else .error ⟨"LMCache exact matcher received invalid chunk data"⟩

def TokenRangeMatcher.remove (m : TokenRangeMatcher chunkSize) (tokenHash : Bytes) :
    TokenRangeMatcher chunkSize :=
  match m.byHash.get? tokenHash with
  | none => m
  | some removed =>
    match m.byFirstToken.get? removed.first with
    | none => { m with byHash := m.byHash.erase tokenHash }
    | some bucket =>
      { byFirstToken :=
          if (bucket.erase tokenHash).size = 0 then m.byFirstToken.erase removed.first
          else m.byFirstToken.set removed.first (bucket.erase tokenHash)
        byHash := m.byHash.erase tokenHash }

/-- `patched_remove_chunks`. -/
def TokenRangeMatcher.removeChunks (m : TokenRangeMatcher chunkSize) (tokenHashes : List Bytes) :
    Except RuntimeError (TokenRangeMatcher chunkSize) :=
  if [] ∈ tokenHashes then
    .error ⟨"LMCache exact matcher received invalid eviction hashes"⟩
  else .ok (tokenHashes.foldl TokenRangeMatcher.remove m)

structure Search where
  results : List CBMatchResult
  seenHashes : List Bytes
  deriving DecidableEq

def matchResult (queryStart : ℕ) (tokenHash : Bytes) (c : StoredChunk chunkSize) :
    CBMatchResult where
  oldSt := c.start
  oldEd := c.start+chunkSize
  curSt := queryStart
  curEd := queryStart+chunkSize
  hash := tokenHash

def Search.offer (tokenIds : List ℤ) (queryStart : ℕ) (s : Search)
    (e : Bytes × StoredChunk chunkSize) : Search :=
  if e.1 ∈ s.seenHashes then s
  else if window tokenIds queryStart chunkSize ≠ e.2.tokens then s
  else ⟨s.results ++ [matchResult queryStart e.1 e.2], e.1 :: s.seenHashes⟩

def bucketAt (m : TokenRangeMatcher chunkSize) (tokenIds : List ℤ) (queryStart : ℕ) :
    List (Bytes × StoredChunk chunkSize) :=
  match tokenIds[queryStart]? with
  | none => []
  | some first => (m.bucket first).entries

def Search.window (m : TokenRangeMatcher chunkSize) (tokenIds : List ℤ) (s : Search)
    (queryStart : ℕ) : Search :=
  (bucketAt m tokenIds queryStart).foldl (Search.offer tokenIds queryStart) s

/-- `patched_match_sub_sequence`. -/
def TokenRangeMatcher.matchSubSequence (m : TokenRangeMatcher chunkSize) (tokenIds : List ℤ) :
    Except RuntimeError (List CBMatchResult) :=
  if chunkSize < 1 then .error ⟨"LMCache exact matcher received invalid query tokens"⟩
  else if tokenIds.length < chunkSize then .ok []
  else .ok ((List.range (tokenIds.length-chunkSize+1)).foldl (Search.window m tokenIds)
    ⟨[], []⟩).results

inductive MatcherCall where
  | onNewTokenHashes (tokenIds : List ℤ) (tokenHashes : List Bytes)
  | removeChunks (tokenHashes : List Bytes)

def TokenRangeMatcher.perform (m : TokenRangeMatcher chunkSize) :
    MatcherCall → Except RuntimeError (TokenRangeMatcher chunkSize)
  | .onNewTokenHashes tokenIds tokenHashes => m.onNewTokenHashes tokenIds tokenHashes
  | .removeChunks tokenHashes => m.removeChunks tokenHashes

/-- The indexes that successful calls lead to. -/
def Indexed (m : TokenRangeMatcher chunkSize) : Prop :=
  Reached (fun m c m' => m.perform c = .ok m') (TokenRangeMatcher.initial chunkSize) m

/-- Every chunk of a bucket begins with the token of the bucket. -/
def Bucketed (m : TokenRangeMatcher chunkSize) : Prop :=
  ∀ first bucket h c, m.byFirstToken.get? first = some bucket → bucket.get? h = some c →
    c.first = first

theorem bucketed_initial : Bucketed (TokenRangeMatcher.initial chunkSize) := by
  intro first bucket h c hb
  cases hb

theorem bucketed_bucket {m : TokenRangeMatcher chunkSize} (hm : Bucketed m) (first : ℤ) (h : Bytes)
    (c : StoredChunk chunkSize) (hb : (m.bucket first).get? h = some c) : c.first = first := by
  unfold TokenRangeMatcher.bucket at hb
  cases hg : m.byFirstToken.get? first with
  | none =>
    rw [hg] at hb
    cases hb
  | some bucket =>
    rw [hg] at hb
    exact hm first bucket h c hg hb

theorem bucketed_add {m : TokenRangeMatcher chunkSize} (hm : Bucketed m) (a : Addition chunkSize) :
    Bucketed (m.add a) := by
  intro first bucket h c hb hc
  unfold TokenRangeMatcher.add at hb
  rw [Dict.get?_set] at hb
  split_ifs at hb with hf
  · subst hf
    cases hb
    rw [Dict.get?_set] at hc
    split_ifs at hc with hh
    · cases hc
      rfl
    · exact bucketed_bucket hm _ h c hc
  · exact hm first bucket h c hb hc

theorem bucketed_remove {m : TokenRangeMatcher chunkSize} (hm : Bucketed m) (tokenHash : Bytes) :
    Bucketed (m.remove tokenHash) := by
  unfold TokenRangeMatcher.remove
  cases hr : m.byHash.get? tokenHash with
  | none => exact hm
  | some removed =>
    dsimp only
    cases hg : m.byFirstToken.get? removed.first with
    | none => exact hm
    | some old =>
      intro first bucket h c hb hc
      dsimp only at hb
      split_ifs at hb with hs
      · rw [Dict.get?_erase] at hb
        split_ifs at hb
        exact hm first bucket h c hb hc
      · rw [Dict.get?_set] at hb
        split_ifs at hb with hf
        · subst hf
          cases hb
          rw [Dict.get?_erase] at hc
          split_ifs at hc
          exact hm _ old h c hg hc
        · exact hm first bucket h c hb hc

theorem bucketed_foldl {α : Type*}
    (step : TokenRangeMatcher chunkSize → α → TokenRangeMatcher chunkSize)
    (hstep : ∀ m a, Bucketed m → Bucketed (step m a)) (xs : List α)
    (m : TokenRangeMatcher chunkSize) (hm : Bucketed m) : Bucketed (xs.foldl step m) := by
  induction xs generalizing m with
  | nil => exact hm
  | cons x xs ih => exact ih _ (hstep m x hm)

theorem onNewTokenHashes_ok_iff (m m' : TokenRangeMatcher chunkSize) (tokenIds : List ℤ)
    (tokenHashes : List Bytes) :
    m.onNewTokenHashes tokenIds tokenHashes = .ok m' ↔
      ∃ (hc : 0 < chunkSize) (additions : List (Addition chunkSize)), [] ∉ tokenHashes ∧
        tokenHashes.length = tokenIds.length/chunkSize ∧
        additionsFrom hc tokenIds 0 tokenHashes = .ok additions ∧
        m.byHash.size+(newHashes m additions).length ≤ exactIndexLimit ∧
        (∀ a ∈ additions, ∀ existing ∈ m.byHash.get? a.tokenHash, existing = a.chunk) ∧
        m' = additions.foldl TokenRangeMatcher.add m := by
  unfold TokenRangeMatcher.onNewTokenHashes
  constructor
  · intro h
    split_ifs at h with hc
    obtain ⟨hl, h⟩ := (require_then_iff _ _ _ _).mp h
    obtain ⟨additions, ha, h⟩ := (checked_ok_iff _ _ _).mp h
    obtain ⟨hs, h⟩ := (require_then_iff _ _ _ _).mp h
    obtain ⟨hi, h⟩ := (require_then_iff _ _ _ _).mp h
    cases h
    exact ⟨hc.1, additions, hc.2, hl, ha, hs, hi, rfl⟩
  · rintro ⟨hc, additions, hn, hl, ha, hs, hi, rfl⟩
    rw [dif_pos ⟨hc, hn⟩]
    refine (require_then_iff _ _ _ _).mpr ⟨hl, (checked_ok_iff _ _ _).mpr ⟨additions, ha, ?_⟩⟩
    exact (require_then_iff _ _ _ _).mpr ⟨hs, (require_then_iff _ _ _ _).mpr ⟨hi, rfl⟩⟩

theorem indexed_bucketed {m : TokenRangeMatcher chunkSize} (h : Indexed m) : Bucketed m := by
  refine reached_invariant Bucketed ?_ bucketed_initial h
  intro m c m' hm hs
  cases c with
  | onNewTokenHashes tokenIds tokenHashes =>
    obtain ⟨_, additions, _, _, _, _, _, rfl⟩ := (onNewTokenHashes_ok_iff _ _ _ _).mp hs
    exact bucketed_foldl _ (fun _ a h => bucketed_add h a) additions m hm
  | removeChunks tokenHashes =>
    unfold TokenRangeMatcher.perform TokenRangeMatcher.removeChunks at hs
    dsimp only at hs
    split_ifs at hs
    cases hs
    exact bucketed_foldl _ (fun _ h hm => bucketed_remove hm h) tokenHashes m hm

end

end CacheBlend.ExactMatcher
