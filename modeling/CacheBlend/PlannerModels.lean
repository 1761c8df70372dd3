import CacheBlend.Bytes
import CacheBlend.Checks
import CacheBlend.Sorting
import Mathlib.Algebra.BigOperators.Group.List.Basic
import Mathlib.Algebra.Ring.Int.Defs
import Mathlib.Algebra.Ring.Nat
import Mathlib.Data.List.Lex

/-!
# Value objects of the cache-match planner

Ranges, segments, namespaces and records carry the conditions that their
constructors check, and the constructors are kept with their error texts. A
match plan is plain data: its consistency with a prompt is checked where a
request plan is built.
-/

set_option autoImplicit false

namespace CacheBlend.PlannerModels

structure ValueError where
  text : String
  deriving DecidableEq

def maxTokenId : ℕ := 2^64-1

abbrev TokenId := Fin (maxTokenId+1)

instance (priority := 2000) neZeroTokenIds : NeZero (maxTokenId+1) := ⟨Nat.succ_ne_zero _⟩

instance lawfulBEqTokenId : LawfulBEq TokenId := inferInstance

def normalizeTokenId (tokenId : ℤ) : Except ValueError TokenId :=
  if h : 0 ≤ tokenId ∧ tokenId ≤ maxTokenId then .ok ⟨tokenId.toNat, by omega⟩
  else .error ⟨s!"token ID must be in [0, {maxTokenId}]"⟩

def normalizeTokenIds (tokenIds : List ℤ) : Except ValueError (List TokenId) :=
  tokenIds.mapM normalizeTokenId

structure TokenRange where
  start : ℕ
  stop : ℕ
  ordered : start ≤ stop
  deriving DecidableEq

theorem first_ordered : 0 ≤ 1 := Nat.zero_le 1

def TokenRange.new (start stop : ℤ) : Except ValueError TokenRange :=
  if _hs : start < 0 then .error ⟨"token range start must be non-negative"⟩
  else if _he : stop < start then .error ⟨"token range end must not precede its start"⟩
  else .ok ⟨start.toNat, stop.toNat, by omega⟩

theorem TokenRange.new_ok_iff (start stop : ℤ) (r : TokenRange) :
    TokenRange.new start stop = .ok r ↔ start = r.start ∧ stop = r.stop := by
  have ho := r.ordered
  unfold TokenRange.new
  split_ifs with hs he
  · simp only [false_iff]
    omega
  · simp only [false_iff]
    omega
  · rw [Except.ok.injEq]
    constructor
    · rintro rfl
      exact ⟨by dsimp only; omega, by dsimp only; omega⟩
    · rintro ⟨rfl, rfl⟩
      rfl

def TokenRange.size (r : TokenRange) : ℕ := r.stop-r.start

/-- The order of two ranges as `(start, end)` pairs. -/
def TokenRange.sortKey (r : TokenRange) : ℕ ×ₗ ℕ := toLex (r.start, r.stop)

def TokenRange.Overlaps (r other : TokenRange) : Prop :=
  r.start < other.stop ∧ other.start < r.stop

instance (r other : TokenRange) : Decidable (r.Overlaps other) :=
  inferInstanceAs (Decidable (_ ∧ _))

structure TokenSegment where
  tokenRange : TokenRange
  tokenIds : List TokenId
  nonempty : tokenIds ≠ []
  size_eq : tokenRange.size = tokenIds.length
  deriving DecidableEq

def TokenSegment.new (tokenRange : TokenRange) (tokenIds : List TokenId) :
    Except ValueError TokenSegment :=
  if hn : tokenIds = [] then .error ⟨"a token segment must not be empty"⟩
  else if hl : tokenRange.size = tokenIds.length then .ok ⟨tokenRange, tokenIds, hn, hl⟩
  else .error ⟨"token range length must equal the token count"⟩

def TokenSegment.size (s : TokenSegment) : ℕ := s.tokenIds.length

/-- A text of a namespace: not empty and without NUL. -/
abbrev NamespaceText := {text : String // text ≠ "" ∧ '\x00' ∉ text.toList}

structure CacheNamespace where
  schemaVersion : ℕ
  modelId : NamespaceText
  modelRevision : NamespaceText
  tokenizerId : NamespaceText
  tokenizerRevision : NamespaceText
  modelConfigDigest : NamespaceText
  kvCacheConfigDigest : NamespaceText
  adapterRevision : NamespaceText
  vllmVersion : NamespaceText
  lmcacheVersion : NamespaceText
  torchVersion : NamespaceText
  cudaRuntime : NamespaceText
  schema_positive : 1 ≤ schemaVersion
  deriving DecidableEq

theorem first_positive : 1 ≤ 1 := le_refl 1

def namespaceText (name value : String) : Except ValueError NamespaceText :=
  if hn : value = "" then .error ⟨name ++ " must not be empty"⟩
  else if hz : '\x00' ∈ value.toList then .error ⟨name ++ " must not contain NUL"⟩
  else .ok ⟨value, hn, hz⟩

def CacheNamespace.new (schemaVersion : ℤ) (modelId modelRevision tokenizerId tokenizerRevision
    modelConfigDigest kvCacheConfigDigest adapterRevision vllmVersion lmcacheVersion torchVersion
    cudaRuntime : String) : Except ValueError CacheNamespace :=
  if h : schemaVersion < 1 then .error ⟨"schema version must be positive"⟩
  else do
    let modelId ← namespaceText "model_id" modelId
    let modelRevision ← namespaceText "model_revision" modelRevision
    let tokenizerId ← namespaceText "tokenizer_id" tokenizerId
    let tokenizerRevision ← namespaceText "tokenizer_revision" tokenizerRevision
    let modelConfigDigest ← namespaceText "model_config_digest" modelConfigDigest
    let kvCacheConfigDigest ← namespaceText "kv_cache_config_digest" kvCacheConfigDigest
    let adapterRevision ← namespaceText "adapter_revision" adapterRevision
    let vllmVersion ← namespaceText "vllm_version" vllmVersion
    let lmcacheVersion ← namespaceText "lmcache_version" lmcacheVersion
    let torchVersion ← namespaceText "torch_version" torchVersion
    let cudaRuntime ← namespaceText "cuda_runtime" cudaRuntime
    .ok ⟨schemaVersion.toNat, modelId, modelRevision, tokenizerId, tokenizerRevision,
      modelConfigDigest, kvCacheConfigDigest, adapterRevision, vllmVersion, lmcacheVersion,
      torchVersion, cudaRuntime, by omega⟩

def CacheNamespace.canonicalFields (n : CacheNamespace) : List (String × String) :=
  [("schema_version", toString n.schemaVersion),
    ("model_id", n.modelId.val),
    ("model_revision", n.modelRevision.val),
    ("tokenizer_id", n.tokenizerId.val),
    ("tokenizer_revision", n.tokenizerRevision.val),
    ("model_config_digest", n.modelConfigDigest.val),
    ("kv_cache_config_digest", n.kvCacheConfigDigest.val),
    ("adapter_revision", n.adapterRevision.val),
    ("vllm_version", n.vllmVersion.val),
    ("lmcache_version", n.lmcacheVersion.val),
    ("torch_version", n.torchVersion.val),
    ("cuda_runtime", n.cudaRuntime.val)]

structure SegmentFingerprint where
  digest : Digest
  deriving DecidableEq

structure CacheRecord where
  cacheNamespace : CacheNamespace
  fingerprint : SegmentFingerprint
  tokenIds : List TokenId
  sourceRange : TokenRange
  cacheKey : String
  nonempty : tokenIds ≠ []
  size_eq : sourceRange.size = tokenIds.length
  key_nonempty : cacheKey ≠ ""
  deriving DecidableEq

def CacheRecord.new (cacheNamespace : CacheNamespace) (fingerprint : SegmentFingerprint)
    (tokenIds : List TokenId) (sourceRange : TokenRange) (cacheKey : String) :
    Except ValueError CacheRecord :=
  if hn : tokenIds = [] then .error ⟨"a cache record must not be empty"⟩
  else if hl : sourceRange.size = tokenIds.length then
    if hk : cacheKey = "" then .error ⟨"cache key must not be empty"⟩
    else .ok ⟨cacheNamespace, fingerprint, tokenIds, sourceRange, cacheKey, hn, hl, hk⟩
  else .error ⟨"source range length must equal the token count"⟩

structure CandidateMatch where
  targetSegment : TokenSegment
  queryFingerprint : SegmentFingerprint
  record : CacheRecord
  deriving DecidableEq

structure VerifiedMatch where
  candidate : CandidateMatch
  deriving DecidableEq

def VerifiedMatch.targetSegment (m : VerifiedMatch) : TokenSegment := m.candidate.targetSegment

def VerifiedMatch.record (m : VerifiedMatch) : CacheRecord := m.candidate.record

inductive CandidateRejectionReason where
  | namespaceMismatch
  | fingerprintMismatch
  | tokenMismatch
  | overlapsSelectedMatch
  deriving DecidableEq

structure RejectedCandidate where
  candidate : CandidateMatch
  reason : CandidateRejectionReason
  deriving DecidableEq

structure MatchPlan where
  verifiedMatches : List VerifiedMatch
  rejectedCandidates : List RejectedCandidate
  requestedTokens : ℤ
  deriving DecidableEq

def MatchPlan.matchedTokens (p : MatchPlan) : ℕ :=
  (p.verifiedMatches.map (fun m => m.targetSegment.size)).sum

/-- The merge loop of `_covered_token_count` over ranges in order: `covered`
counts the finished blocks and `[start, stop)` is the block being extended. -/
def coverLoop (covered start stop : ℕ) : List TokenRange → ℕ
  | [] => covered+(stop-start)
  | r::rest =>
    if r.start ≤ stop then coverLoop covered start (max stop r.stop) rest
    else coverLoop (covered+(stop-start)) r.start r.stop rest

def coveredTokenCount (ranges : List TokenRange) : ℕ :=
  match sortedBy TokenRange.sortKey ranges with
  | [] => 0
  | r::rest => coverLoop 0 r.start r.stop rest

theorem TokenRange.ext_iff' (r r' : TokenRange) :
    r = r' ↔ r.start = r'.start ∧ r.stop = r'.stop := by
  cases r
  cases r'
  simp

theorem TokenSegment.size_eq_range (s : TokenSegment) : s.size = s.tokenRange.size :=
  s.size_eq.symm

theorem TokenSegment.size_pos (s : TokenSegment) : 0 < s.size :=
  List.length_pos_of_ne_nil s.nonempty

theorem namespaceText_val (name : String) (t : NamespaceText) :
    namespaceText name t.val = .ok t := by
  unfold namespaceText
  rw [dif_neg t.property.1, dif_neg t.property.2]

theorem CacheNamespace.new_fields (n : CacheNamespace) :
    CacheNamespace.new n.schemaVersion n.modelId.val n.modelRevision.val n.tokenizerId.val
      n.tokenizerRevision.val n.modelConfigDigest.val n.kvCacheConfigDigest.val
      n.adapterRevision.val n.vllmVersion.val n.lmcacheVersion.val n.torchVersion.val
      n.cudaRuntime.val = .ok n := by
  have hs := n.schema_positive
  unfold CacheNamespace.new
  rw [dif_neg (by omega)]
  simp only [namespaceText_val]
  rfl

theorem normalizeTokenId_val (t : TokenId) : normalizeTokenId (t.val : ℤ) = .ok t := by
  have ht := t.isLt
  unfold normalizeTokenId
  rw [dif_pos ⟨by omega, by omega⟩]
  simp

theorem normalizeTokenIds_val (ts : List TokenId) :
    normalizeTokenIds (ts.map (fun t => (t.val : ℤ))) = .ok ts := by
  rw [normalizeTokenIds, mapM_returns_iff, List.forall₂_map_left_iff, List.forall₂_same]
  exact fun t _ => normalizeTokenId_val t

end CacheBlend.PlannerModels
