import CacheBlend.ExactMatcher
import CacheBlend.LmcacheTypes

/-!
# The lookup response of the LMCache transport

Each raw match of the server is parsed into a candidate of one complete chunk
inside the query. One malformed match fails the whole lookup. The candidates
are ordered by target start, source start and hash.
-/

set_option autoImplicit false

namespace CacheBlend.LmcacheTransport
open CacheBlend.PlannerModels CacheBlend.SegmentFingerprints CacheBlend.LmcacheTypes
open CacheBlend.ExactMatcher (CBMatchResult)

/-- `sys.maxsize`. -/
def sysMaxsize : ℕ := 2^63-1

/-- Why a response is not decoded: the transport rejects a value, or `len`
raises `OverflowError` for a range of more than `sys.maxsize` tokens. -/
inductive DecodeError where
  | protocol (error : LmcacheProtocolError)
  | overflow
  deriving DecidableEq

/-- `len` of a token range. -/
def rangeLen (r : TokenRange) : Except DecodeError ℕ :=
  if r.size ≤ sysMaxsize then .ok r.size else .error .overflow

def requireChunk (r : TokenRange) (error : LmcacheProtocolError) : Except DecodeError PUnit := do
  let length ← rangeLen r
  require (length = lmcacheChunkSize) (.protocol error)

/-- One value in a response: a `CBMatchResult` whose fields may have any type,
where `none` stands for a value of another type, or a value of another class. -/
inductive RawMatch where
  | cbMatchResult (oldSt oldEd curSt curEd : Option ℤ) (hash : Option Bytes)
  | other
  deriving DecidableEq

def RawMatch.of (raw : CBMatchResult) : RawMatch :=
  .cbMatchResult raw.oldSt raw.oldEd raw.curSt raw.curEd raw.hash

def candidateRange (start stop : Option ℤ) (name : String) : Except DecodeError TokenRange :=
  match start, stop with
  | none, _ => .error (.protocol ⟨"candidate " ++ name ++ " start is not an integer"⟩)
  | some _, none => .error (.protocol ⟨"candidate " ++ name ++ " end is not an integer"⟩)
  | some start, some stop =>
    match TokenRange.new start stop with
    | .error _ => .error (.protocol ⟨"candidate " ++ name ++ " range is invalid"⟩)
    | .ok r => do
      let length ← rangeLen r
      if length = 0 then .error (.protocol ⟨"candidate " ++ name ++ " range is empty"⟩)
      else .ok r

/-- The constructor of a candidate whose storage hash may have any type. -/
def newCandidate (sourceRange targetRange : TokenRange) (hash : Option Bytes)
    (storageModelName : NamespaceText) (digest : Digest) : Except DecodeError LmcacheCandidate :=
  match hash with
  | none => .error (.protocol ⟨"LMCache candidate hash must be a 32-byte BLAKE3 digest"⟩)
  | some hash => (LmcacheCandidate.new sourceRange targetRange hash storageModelName.val
      digest.val).mapError .protocol

def parseCandidate (storageModelName : NamespaceText) (tokens : List TokenId) (digest : Digest)
    (raw : RawMatch) : Except DecodeError LmcacheCandidate :=
  match raw with
  | .other => .error (.protocol ⟨"lookup returned a non-CBMatchResult value"⟩)
  | .cbMatchResult oldSt oldEd curSt curEd hash => do
    let sourceRange ← candidateRange oldSt oldEd "source"
    let targetRange ← candidateRange curSt curEd "target"
    requireChunk sourceRange ⟨"candidate source range is not one complete chunk"⟩
    requireChunk targetRange ⟨"candidate target range is not one complete chunk"⟩
    require (targetRange.stop ≤ tokens.length)
      (.protocol ⟨"candidate target range exceeds the query tokens"⟩)
    newCandidate sourceRange targetRange hash storageModelName digest

def responseSortKey (c : LmcacheCandidate) : ℕ ×ₗ ℕ ×ₗ Bytes :=
  toLex (c.targetRange.start, toLex (c.sourceRelativeRange.start, c.storageHash.val))

/-- The part of `lookup_candidates` after the response of the server. Only an
overflow passes through its handler unchanged. -/
def decodeResponse (sha256 : Bytes → Digest) (storageModelName : NamespaceText)
    (tokens : List TokenId) (response : List RawMatch) :
    Except DecodeError (List LmcacheCandidate) :=
  match response.mapM (parseCandidate storageModelName tokens (queryDigest sha256 tokens)) with
  | .error (.protocol _) =>
    .error (.protocol ⟨"CB_LOOKUP_PRE_COMPUTED_V2 returned an invalid candidate"⟩)
  | .error .overflow => .error .overflow
  | .ok candidates => .ok (sortedBy responseSortKey candidates)

/-- The response of a server that sends values of the declared types. -/
def decodeCandidates (sha256 : Bytes → Digest) (storageModelName : NamespaceText)
    (tokens : List TokenId) (response : List CBMatchResult) :
    Except DecodeError (List LmcacheCandidate) :=
  decodeResponse sha256 storageModelName tokens (response.map RawMatch.of)

/-- A raw match of one complete chunk inside the query. -/
structure Complete (tokens : List TokenId) (raw : CBMatchResult) : Prop where
  source_start : 0 ≤ raw.oldSt
  source_stop : raw.oldEd = raw.oldSt+lmcacheChunkSize
  target_start : 0 ≤ raw.curSt
  target_stop : raw.curEd = raw.curSt+lmcacheChunkSize
  in_query : raw.curEd ≤ tokens.length

def Parsed (storageModelName : NamespaceText) (digest : Digest) (raw : CBMatchResult)
    (c : LmcacheCandidate) : Prop :=
  (c.sourceRelativeRange.start : ℤ) = raw.oldSt ∧ (c.targetRange.start : ℤ) = raw.curSt ∧
    c.sourceRelativeRange.size = lmcacheChunkSize ∧ c.targetRange.size = lmcacheChunkSize ∧
    c.storageHash.val = raw.hash ∧ c.storageModelName = storageModelName ∧
    c.queryDigest = digest

theorem rangeLen_ok_iff (r : TokenRange) (n : ℕ) :
    rangeLen r = .ok n ↔ r.size ≤ sysMaxsize ∧ r.size = n := by
  unfold rangeLen
  split_ifs with h <;> simp [h]

/-- The length of a chunk is far below the limit of `len`. -/
theorem requireChunk_ok_iff (r : TokenRange) (error : LmcacheProtocolError) (u : PUnit) :
    requireChunk r error = .ok u ↔ r.size = lmcacheChunkSize := by
  unfold requireChunk
  simp only [checked_ok_iff, rangeLen_ok_iff, require_ok_iff]
  constructor
  · rintro ⟨_, ⟨_, rfl⟩, hn⟩
    exact hn
  · intro hn
    exact ⟨_, ⟨hn.trans_le (by decide), rfl⟩, hn⟩

/-- The bounds of a range that `len` cannot measure. -/
def Overlong (start stop : Option ℤ) : Prop :=
  ∃ a b : ℤ, start = some a ∧ stop = some b ∧ 0 ≤ a ∧ a+sysMaxsize < b

theorem candidateRange_ok_iff (start stop : Option ℤ) (name : String) (r : TokenRange) :
    candidateRange start stop name = .ok r ↔
      start = some (r.start : ℤ) ∧ stop = some (r.stop : ℤ) ∧ r.size ≤ sysMaxsize ∧
        r.size ≠ 0 := by
  unfold candidateRange
  split
  · simp
  · simp
  next a b =>
    split
    next hn =>
      simp only [reduceCtorEq, false_iff]
      rintro ⟨ha, hb, _⟩
      cases ha
      cases hb
      rw [(TokenRange.new_ok_iff _ _ r).mpr ⟨rfl, rfl⟩] at hn
      cases hn
    next t hn =>
      obtain ⟨rfl, rfl⟩ := (TokenRange.new_ok_iff _ _ _).mp hn
      rw [checked_ok_iff]
      constructor
      · rintro ⟨n, hl, h⟩
        obtain ⟨hle, rfl⟩ := (rangeLen_ok_iff _ _).mp hl
        split_ifs at h with h0
        cases h
        exact ⟨rfl, rfl, hle, h0⟩
      · rintro ⟨hs, ht, hle, h0⟩
        have hr : r = t := by
          rw [TokenRange.ext_iff']
          rw [Option.some.injEq] at hs ht
          omega
        subst hr
        exact ⟨_, (rangeLen_ok_iff _ _).mpr ⟨hle, rfl⟩, if_neg h0⟩

theorem candidateRange_overflow_iff (start stop : Option ℤ) (name : String) :
    candidateRange start stop name = .error .overflow ↔ Overlong start stop := by
  unfold candidateRange Overlong
  split
  · simp
  · simp
  next a b =>
    split
    next hn =>
      simp only [reduceCtorEq, Except.error.injEq, false_iff]
      rintro ⟨a', b', ha, hb, h0, hlt⟩
      cases ha
      cases hb
      rw [(TokenRange.new_ok_iff _ _ ⟨a.toNat, b.toNat, by omega⟩).mpr
        ⟨by dsimp only; omega, by dsimp only; omega⟩] at hn
      cases hn
    next t hn =>
      obtain ⟨rfl, rfl⟩ := (TokenRange.new_ok_iff _ _ _).mp hn
      have ho := t.ordered
      have hsize : t.size = t.stop-t.start := rfl
      rw [checked_error_iff]
      constructor
      · rintro (h | ⟨n, _, h⟩)
        · unfold rangeLen at h
          split_ifs at h with hle
          exact ⟨_, _, rfl, rfl, by omega, by omega⟩
        · split_ifs at h
          cases h
      · rintro ⟨a', b', ha, hb, h0, hlt⟩
        cases ha
        cases hb
        exact Or.inl (if_neg (by omega))

theorem newCandidate_ok_iff (source target : TokenRange) (hash : Option Bytes)
    (model : NamespaceText) (digest : Digest) (c : LmcacheCandidate)
    (hs : source.size = lmcacheChunkSize) (ht : target.size = lmcacheChunkSize) :
    newCandidate source target hash model digest = .ok c ↔
      c.sourceRelativeRange = source ∧ c.targetRange = target ∧
        hash = some c.storageHash.val ∧ c.storageModelName = model ∧ c.queryDigest = digest := by
  have hpos : 0 < lmcacheChunkSize := by decide
  unfold newCandidate
  cases hash with
  | none => simp
  | some hash =>
    dsimp only
    rw [mapError_ok_iff, Option.some.injEq]
    unfold LmcacheCandidate.new
    rw [dif_neg (by omega), dif_pos (hs.trans ht.symm)]
    by_cases hh : hash.length = 32
    · rw [dif_pos hh, dif_pos model.property, dif_pos digest.property]
      constructor
      · intro h
        cases h
        exact ⟨rfl, rfl, rfl, rfl, rfl⟩
      · rintro ⟨rfl, rfl, rfl, rfl, rfl⟩
        rfl
    · rw [dif_neg hh]
      constructor
      · intro h
        cases h
      · rintro ⟨_, _, rfl, _⟩
        exact absurd c.storageHash.property hh

/-- A candidate of one complete chunk inside a query, bound to its digest. -/
structure BoundTo (model : NamespaceText) (tokens : List TokenId) (digest : Digest)
    (c : LmcacheCandidate) : Prop where
  source_chunk : c.sourceRelativeRange.size = lmcacheChunkSize
  target_chunk : c.targetRange.size = lmcacheChunkSize
  in_query : c.targetRange.stop ≤ tokens.length
  model_eq : c.storageModelName = model
  digest_eq : c.queryDigest = digest

def rawOf (c : LmcacheCandidate) : RawMatch :=
  .cbMatchResult (some c.sourceRelativeRange.start) (some c.sourceRelativeRange.stop)
    (some c.targetRange.start) (some c.targetRange.stop) (some c.storageHash.val)

theorem parseCandidate_ok_iff (model : NamespaceText) (tokens : List TokenId) (digest : Digest)
    (raw : RawMatch) (c : LmcacheCandidate) :
    parseCandidate model tokens digest raw = .ok c ↔
      raw = rawOf c ∧ BoundTo model tokens digest c := by
  unfold parseCandidate
  cases raw with
  | other =>
    constructor
    · intro h
      cases h
    · rintro ⟨h, _⟩
      cases h
  | cbMatchResult oldSt oldEd curSt curEd hash =>
    simp only [checked_ok_iff, candidateRange_ok_iff, requireChunk_ok_iff, require_ok_iff]
    constructor
    · rintro ⟨source, ⟨rfl, rfl, _, _⟩, target, ⟨rfl, rfl, _, _⟩, _, hs, _, ht, _, hq, hc⟩
      obtain ⟨rfl, rfl, rfl, hm, hd⟩ := (newCandidate_ok_iff _ _ _ _ _ _ hs ht).mp hc
      exact ⟨rfl, hs, ht, hq, hm, hd⟩
    · rintro ⟨h, hs, ht, hq, hm, hd⟩
      cases h
      have hle : lmcacheChunkSize ≤ sysMaxsize := by decide
      have hpos : lmcacheChunkSize ≠ 0 := by decide
      exact ⟨_, ⟨rfl, rfl, hs.trans_le hle, hs.trans_ne hpos⟩, _,
        ⟨rfl, rfl, ht.trans_le hle, ht.trans_ne hpos⟩, ⟨⟩, hs, ⟨⟩, ht, ⟨⟩, hq,
        (newCandidate_ok_iff _ _ _ _ _ _ hs ht).mpr ⟨rfl, rfl, rfl, hm, hd⟩⟩

theorem parseCandidate_iff (model : NamespaceText) (tokens : List TokenId) (digest : Digest)
    (raw : CBMatchResult) (h : Complete tokens raw) (c : LmcacheCandidate) :
    parseCandidate model tokens digest (.of raw) = .ok c ↔ Parsed model digest raw c := by
  obtain ⟨_, hsource, _, htarget, hin⟩ := h
  have hs := c.sourceRelativeRange.ordered
  have ht := c.targetRange.ordered
  rw [parseCandidate_ok_iff]
  unfold RawMatch.of rawOf Parsed
  simp only [RawMatch.cbMatchResult.injEq, Option.some.injEq]
  constructor
  · rintro ⟨⟨h1, _, h3, _, h5⟩, hsize, hsize', _, hm, hd⟩
    exact ⟨h1.symm, h3.symm, hsize, hsize', h5.symm, hm, hd⟩
  · rintro ⟨h1, h3, hsize, hsize', h5, hm, hd⟩
    have hsize₁ := hsize
    have hsize₂ := hsize'
    unfold TokenRange.size at hsize₁ hsize₂
    exact ⟨⟨h1.symm, by omega, h3.symm, by omega, h5.symm⟩, hsize, hsize', by omega, hm, hd⟩

theorem decodeCandidates_iff (sha256 : Bytes → Digest) (model : NamespaceText)
    (tokens : List TokenId) (response : List CBMatchResult)
    (h : ∀ raw ∈ response, Complete tokens raw) (candidates : List LmcacheCandidate) :
    decodeCandidates sha256 model tokens response = .ok candidates ↔
      ∃ parsed, List.Forall₂ (Parsed model (queryDigest sha256 tokens)) response parsed ∧
        candidates = sortedBy responseSortKey parsed := by
  have hparse : ∀ parsed, (response.map RawMatch.of).mapM (parseCandidate model tokens
      (queryDigest sha256 tokens)) = .ok parsed ↔
        List.Forall₂ (Parsed model (queryDigest sha256 tokens)) response parsed := by
    intro parsed
    rw [mapM_returns_iff, List.forall₂_map_left_iff]
    constructor
    · intro hp
      exact ((List.forall₂_and_left _ _).mpr ⟨h, hp⟩).imp fun raw c hc =>
        (parseCandidate_iff model tokens _ raw hc.1 c).mp hc.2
    · intro hp
      exact ((List.forall₂_and_left _ _).mpr ⟨h, hp⟩).imp fun raw c hc =>
        (parseCandidate_iff model tokens _ raw hc.1 c).mpr hc.2
  unfold decodeCandidates decodeResponse
  constructor
  · intro hd
    split at hd
    · cases hd
    · cases hd
    · next parsed hm =>
      cases hd
      exact ⟨parsed, (hparse parsed).mp hm, rfl⟩
  · rintro ⟨parsed, hp, rfl⟩
    rw [(hparse parsed).mpr hp]

end CacheBlend.LmcacheTransport
