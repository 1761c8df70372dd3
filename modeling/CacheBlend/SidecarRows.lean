import CacheBlend.SegmentFingerprints

/-!
# Rows of the sidecar

A record is stored as one row of database values, with a key of its namespace
and a checksum of all its fields. A row is read back against the namespace and
fingerprint that were asked for, and every column is checked again. A written
record is read back as it was, and never as another record.
-/

set_option autoImplicit false

namespace CacheBlend.SidecarRows
open CacheBlend.PlannerModels CacheBlend.SegmentFingerprints

def maxNamespaceFieldBytes : ℕ := 1024
def maxCacheKeyBytes : ℕ := 2048
def maxTokensPerRecord : ℕ := 131072
def maxTokenPosition : ℕ := 131072
def maxSchemaVersion : ℕ := 2147483647

def tokenBlobMagic : Bytes := utf8 "CBT1"
def tokenBlobHeaderBytes : ℕ := tokenBlobMagic.length+8

def namespaceKeyDomain : Bytes := utf8 "cacheblend-gpt-oss\x00sidecar-namespace\x00v1\x00"
def recordChecksumDomain : Bytes := utf8 "cacheblend-gpt-oss\x00sidecar-record\x00v1\x00"

inductive SidecarErrorCode where
  | closed
  | writeForbidden
  | invalidNamespace
  | invalidRecord
  | databaseCorrupt
  | recordCorrupt
  | checksumCollision
  | collisionBucketLimit
  | sqliteOperationFailed
  deriving DecidableEq

inductive SidecarErrorClass where
  | configuration
  | mode
  | closed
  | schema
  | corruption
  | operation
  deriving DecidableEq

structure SidecarError where
  errorClass : SidecarErrorClass
  code : SidecarErrorCode
  deriving DecidableEq

def invalidRecord : SidecarError := ⟨.configuration, .invalidRecord⟩
def recordCorrupt : SidecarError := ⟨.corruption, .recordCorrupt⟩

inductive DbValue where
  | integer (n : ℤ)
  | text (s : String)
  | blob (b : Bytes)
  deriving DecidableEq

structure Row where
  namespaceKey : DbValue
  namespaceSchemaVersion : DbValue
  modelId : DbValue
  modelRevision : DbValue
  tokenizerId : DbValue
  tokenizerRevision : DbValue
  modelConfigDigest : DbValue
  kvCacheConfigDigest : DbValue
  adapterRevision : DbValue
  vllmVersion : DbValue
  lmcacheVersion : DbValue
  torchVersion : DbValue
  cudaRuntime : DbValue
  fingerprint : DbValue
  cacheKey : DbValue
  sourceStart : DbValue
  sourceEnd : DbValue
  tokenCount : DbValue
  tokenIds : DbValue
  recordChecksum : DbValue
  deriving DecidableEq

/-! ## Validation -/

/-- The conditions of `_bounded_text`. -/
def BoundedText (value : String) (maximumBytes : ℕ) : Prop :=
  value ≠ "" ∧ '\x00' ∉ value.toList ∧ (utf8 value).length ≤ maximumBytes

instance (value : String) (maximumBytes : ℕ) : Decidable (BoundedText value maximumBytes) :=
  inferInstanceAs (Decidable (_ ∧ _))

/-- The conditions of `_validate_namespace`; the schema version has no bound on
its text, the other fields do. -/
def NamespaceValid (n : CacheNamespace) : Prop :=
  n.schemaVersion ≤ maxSchemaVersion ∧
    ∀ field ∈ n.canonicalFields.tail, BoundedText field.2 maxNamespaceFieldBytes

instance (n : CacheNamespace) : Decidable (NamespaceValid n) :=
  inferInstanceAs (Decidable (_ ∧ _))

def validateNamespace (n : CacheNamespace) : Except SidecarError Unit :=
  require (NamespaceValid n) ⟨.configuration, .invalidNamespace⟩

/-- `_validate_record`. -/
def validateRecord (r : CacheRecord) : Except SidecarError Unit := do
  validateNamespace r.cacheNamespace
  require (BoundedText r.cacheKey maxCacheKeyBytes) invalidRecord
  require (1 ≤ r.tokenIds.length ∧ r.tokenIds.length ≤ maxTokensPerRecord) invalidRecord
  require (r.sourceRange.stop ≤ maxTokenPosition ∧ r.sourceRange.size = r.tokenIds.length)
    invalidRecord

structure RecordValid (r : CacheRecord) : Prop where
  cacheNamespace : NamespaceValid r.cacheNamespace
  cacheKey : BoundedText r.cacheKey maxCacheKeyBytes
  tokens : r.tokenIds.length ≤ maxTokensPerRecord
  position : r.sourceRange.stop ≤ maxTokenPosition

theorem validateRecord_ok_iff (r : CacheRecord) :
    validateRecord r = .ok () ↔ RecordValid r := by
  unfold validateRecord validateNamespace
  simp only [require_then_iff, require_ok_iff]
  constructor
  · rintro ⟨hn, hk, ht, hp⟩
    exact ⟨hn, hk, ht.2, hp.1⟩
  · intro h
    exact ⟨h.cacheNamespace, h.cacheKey, ⟨List.length_pos_of_ne_nil r.nonempty, h.tokens⟩,
      h.position, r.size_eq⟩

/-! ## Writing a row -/

def updateField (name : String) (value : Bytes) : Bytes :=
  packU32 (utf8 name).length ++ utf8 name ++ packU64 value.length ++ value

def namespaceFields (n : CacheNamespace) : Bytes :=
  n.canonicalFields.flatMap (fun field => updateField field.1 (utf8 field.2))

def encodeTokenIds (tokenIds : List TokenId) : Bytes :=
  tokenBlobMagic ++ packU64 tokenIds.length ++ tokenIds.flatMap (fun t => packU64 t.val)

section
variable (sha256 : Bytes → Digest)

def namespaceKey (n : CacheNamespace) : Digest :=
  sha256 (namespaceKeyDomain ++ namespaceFields n)

def recordChecksum (n : CacheNamespace) (fingerprint : Bytes) (cacheKey : String)
    (sourceStart sourceEnd : ℕ) (tokenBlob : Bytes) : Digest :=
  sha256 (recordChecksumDomain ++ namespaceFields n ++ updateField "fingerprint" fingerprint ++
    updateField "cache_key" (utf8 cacheKey) ++
    updateField "source_start" (packU64 sourceStart) ++
    updateField "source_end" (packU64 sourceEnd) ++ updateField "token_ids" tokenBlob)

def checksumOf (r : CacheRecord) : Digest :=
  recordChecksum sha256 r.cacheNamespace r.fingerprint.digest.val r.cacheKey r.sourceRange.start
    r.sourceRange.stop (encodeTokenIds r.tokenIds)

/-- `_EncodedRecord.database_values` of the encoded record. -/
def databaseValues (r : CacheRecord) : Row where
  namespaceKey := .blob (namespaceKey sha256 r.cacheNamespace).val
  namespaceSchemaVersion := .integer r.cacheNamespace.schemaVersion
  modelId := .text r.cacheNamespace.modelId.val
  modelRevision := .text r.cacheNamespace.modelRevision.val
  tokenizerId := .text r.cacheNamespace.tokenizerId.val
  tokenizerRevision := .text r.cacheNamespace.tokenizerRevision.val
  modelConfigDigest := .text r.cacheNamespace.modelConfigDigest.val
  kvCacheConfigDigest := .text r.cacheNamespace.kvCacheConfigDigest.val
  adapterRevision := .text r.cacheNamespace.adapterRevision.val
  vllmVersion := .text r.cacheNamespace.vllmVersion.val
  lmcacheVersion := .text r.cacheNamespace.lmcacheVersion.val
  torchVersion := .text r.cacheNamespace.torchVersion.val
  cudaRuntime := .text r.cacheNamespace.cudaRuntime.val
  fingerprint := .blob r.fingerprint.digest.val
  cacheKey := .text r.cacheKey
  sourceStart := .integer r.sourceRange.start
  sourceEnd := .integer r.sourceRange.stop
  tokenCount := .integer r.tokenIds.length
  tokenIds := .blob (encodeTokenIds r.tokenIds)
  recordChecksum := .blob (checksumOf sha256 r).val

/-- A valid record with its row; `_EncodedRecord`. -/
structure EncodedRecord where
  record : CacheRecord
  row : Row
  deriving DecidableEq

def EncodedRecord.fromRecord (r : CacheRecord) : Except SidecarError EncodedRecord := do
  validateRecord r
  .ok ⟨r, databaseValues sha256 r⟩

theorem fromRecord_ok_iff (r : CacheRecord) (e : EncodedRecord) :
    EncodedRecord.fromRecord sha256 r = .ok e ↔
      RecordValid r ∧ e = ⟨r, databaseValues sha256 r⟩ := by
  unfold EncodedRecord.fromRecord
  rw [checked_ok_iff]
  constructor
  · rintro ⟨_, hv, hr⟩
    cases hr
    exact ⟨(validateRecord_ok_iff r).mp hv, rfl⟩
  · rintro ⟨hv, rfl⟩
    exact ⟨(), (validateRecord_ok_iff r).mpr hv, rfl⟩

end

/-! ## Reading a row -/

def dbInt : DbValue → Except SidecarError ℤ
  | .integer n => .ok n
  | _ => .error recordCorrupt

def dbText : DbValue → Except SidecarError String
  | .text s => .ok s
  | _ => .error recordCorrupt

def dbBlob : DbValue → Except SidecarError Bytes
  | .blob b => .ok b
  | _ => .error recordCorrupt

/-- The namespace of the columns; a namespace that its constructor or the
sidecar refuses is a corrupt record. -/
def namespaceFromRow (row : Row) : Except SidecarError CacheNamespace := do
  let schemaVersion ← dbInt row.namespaceSchemaVersion
  let modelId ← dbText row.modelId
  let modelRevision ← dbText row.modelRevision
  let tokenizerId ← dbText row.tokenizerId
  let tokenizerRevision ← dbText row.tokenizerRevision
  let modelConfigDigest ← dbText row.modelConfigDigest
  let kvCacheConfigDigest ← dbText row.kvCacheConfigDigest
  let adapterRevision ← dbText row.adapterRevision
  let vllmVersion ← dbText row.vllmVersion
  let lmcacheVersion ← dbText row.lmcacheVersion
  let torchVersion ← dbText row.torchVersion
  let cudaRuntime ← dbText row.cudaRuntime
  let n ← (CacheNamespace.new schemaVersion modelId modelRevision tokenizerId tokenizerRevision
    modelConfigDigest kvCacheConfigDigest adapterRevision vllmVersion lmcacheVersion torchVersion
    cudaRuntime).mapError (fun _ => recordCorrupt)
  (validateNamespace n).mapError (fun _ => recordCorrupt)
  .ok n

def decodeTokenIds (value : Bytes) (expectedCount : ℤ) : Except SidecarError (List ℕ) := do
  require (tokenBlobHeaderBytes ≤ value.length ∧ value.take tokenBlobMagic.length = tokenBlobMagic)
    recordCorrupt
  let encodedCount :=
    unpackBig ((value.take tokenBlobHeaderBytes).drop tokenBlobMagic.length)
  require ((encodedCount : ℤ) = expectedCount ∧ 1 ≤ encodedCount ∧
    encodedCount ≤ maxTokensPerRecord) recordCorrupt
  require (value.length = tokenBlobHeaderBytes+encodedCount*8) recordCorrupt
  .ok (unpackWords (value.drop tokenBlobHeaderBytes))

/-- The record of the columns, which its constructors check again. -/
def recordOfColumns (n : CacheNamespace) (fp : SegmentFingerprint) (tokenIds : List ℕ)
    (sourceStart sourceEnd : ℤ) (cacheKey : String) : Except ValueError CacheRecord := do
  let sourceRange ← TokenRange.new sourceStart sourceEnd
  let tokens ← normalizeTokenIds (tokenIds.map Nat.cast)
  CacheRecord.new n fp tokens sourceRange cacheKey

section
variable (sha256 : Bytes → Digest)

/-- `_record_from_row`. -/
def recordFromRow (row : Row) (expectedNamespace : CacheNamespace)
    (expectedFingerprint : SegmentFingerprint) : Except SidecarError CacheRecord := do
  let n ← namespaceFromRow row
  let key ← dbBlob row.namespaceKey
  require (key = (namespaceKey sha256 n).val ∧ n = expectedNamespace) recordCorrupt
  let fingerprintBytes ← dbBlob row.fingerprint
  require (fingerprintBytes = expectedFingerprint.digest.val) recordCorrupt
  let tokenCount ← dbInt row.tokenCount
  let tokenBlob ← dbBlob row.tokenIds
  let tokenIds ← decodeTokenIds tokenBlob tokenCount
  let sourceStart ← dbInt row.sourceStart
  let sourceEnd ← dbInt row.sourceEnd
  let cacheKey ← dbText row.cacheKey
  require (0 ≤ sourceStart ∧ sourceEnd ≤ maxTokenPosition ∧ sourceEnd-sourceStart = tokenCount)
    recordCorrupt
  require (BoundedText cacheKey maxCacheKeyBytes) recordCorrupt
  let checksum ← dbBlob row.recordChecksum
  require (checksum = (recordChecksum sha256 n fingerprintBytes cacheKey sourceStart.toNat
    sourceEnd.toNat tokenBlob).val) recordCorrupt
  let r ← (recordOfColumns n expectedFingerprint tokenIds sourceStart sourceEnd cacheKey).mapError
    (fun _ => recordCorrupt)
  (validateRecord r).mapError (fun _ => recordCorrupt)
  .ok r

end

/-! ## A written row is read back -/

theorem namespaceFromRow_written (sha256 : Bytes → Digest) (r : CacheRecord)
    (h : NamespaceValid r.cacheNamespace) :
    namespaceFromRow (databaseValues sha256 r) = .ok r.cacheNamespace := by
  have hv : validateNamespace r.cacheNamespace = .ok () := require_of _ h
  unfold namespaceFromRow databaseValues
  simp only [dbInt, dbText]
  change ((CacheNamespace.new _ _ _ _ _ _ _ _ _ _ _ _).mapError _ >>= _) = _
  rw [CacheNamespace.new_fields]
  change ((validateNamespace r.cacheNamespace).mapError _ >>= _) = _
  rw [hv]
  rfl

theorem encodeTokenIds_length (ts : List TokenId) :
    (encodeTokenIds ts).length = tokenBlobHeaderBytes+ts.length*8 := by
  have hw : (ts.flatMap (fun t => packU64 t.val)).length = ts.length*8 := by
    induction ts with
    | nil => rfl
    | cons t ts ih =>
      rw [List.flatMap_cons, List.length_append, ih, packU64, bigEndian_length, List.length_cons]
      omega
  rw [encodeTokenIds, List.length_append, List.length_append, hw, packU64, bigEndian_length,
    tokenBlobHeaderBytes]

theorem decodeTokenIds_encoded (ts : List TokenId) (hn : ts ≠ [])
    (hl : ts.length ≤ maxTokensPerRecord) :
    decodeTokenIds (encodeTokenIds ts) ts.length = .ok (ts.map Fin.val) := by
  have hpos := List.length_pos_of_ne_nil hn
  have hlen := encodeTokenIds_length ts
  have hheader : (tokenBlobMagic ++ packU64 ts.length).length = tokenBlobHeaderBytes := by
    rw [List.length_append, packU64, bigEndian_length, tokenBlobHeaderBytes]
  have htake : (encodeTokenIds ts).take tokenBlobHeaderBytes =
      tokenBlobMagic ++ packU64 ts.length := by
    rw [encodeTokenIds, ← hheader, List.take_left]
  have hdrop : (encodeTokenIds ts).drop tokenBlobHeaderBytes =
      (ts.map Fin.val).flatMap packU64 := by
    rw [encodeTokenIds, ← hheader, List.drop_left, List.flatMap_map]
  have hmagic : (encodeTokenIds ts).take tokenBlobMagic.length = tokenBlobMagic := by
    rw [encodeTokenIds, List.append_assoc, List.take_left]
  have hcount : unpackBig (packU64 ts.length) = ts.length := by
    refine unpackBig_bigEndian 8 _ ?_
    unfold maxTokensPerRecord at hl
    omega
  have hwords : unpackWords ((ts.map Fin.val).flatMap packU64) = ts.map Fin.val := by
    refine unpackWords_pack _ fun n hm => ?_
    obtain ⟨t, _, rfl⟩ := List.mem_map.mp hm
    have ht := t.isLt
    unfold maxTokenId at ht
    omega
  unfold decodeTokenIds
  dsimp only
  rw [htake, List.drop_left, hcount, hdrop, hwords]
  refine (require_then_iff _ _ _ _).mpr ⟨⟨by omega, hmagic⟩, ?_⟩
  refine (require_then_iff _ _ _ _).mpr ⟨⟨rfl, hpos, hl⟩, ?_⟩
  exact (require_then_iff _ _ _ _).mpr ⟨hlen, rfl⟩

theorem recordOfColumns_written (r : CacheRecord) :
    recordOfColumns r.cacheNamespace r.fingerprint (r.tokenIds.map Fin.val) r.sourceRange.start
      r.sourceRange.stop r.cacheKey = .ok r := by
  have hr : TokenRange.new r.sourceRange.start r.sourceRange.stop = .ok r.sourceRange := by
    have ho := r.sourceRange.ordered
    unfold TokenRange.new
    rw [dif_neg (by omega), dif_neg (by omega)]
    congr 1
  have ht : normalizeTokenIds ((r.tokenIds.map Fin.val).map Nat.cast) = .ok r.tokenIds := by
    rw [List.map_map]
    exact normalizeTokenIds_val r.tokenIds
  have hc : CacheRecord.new r.cacheNamespace r.fingerprint r.tokenIds r.sourceRange r.cacheKey =
      .ok r := by
    unfold CacheRecord.new
    rw [dif_neg r.nonempty, dif_pos r.size_eq, dif_neg r.key_nonempty]
  unfold recordOfColumns
  rw [hr, ht]
  exact hc

theorem recordFromRow_written_iff (sha256 : Bytes → Digest) (r : CacheRecord) (h : RecordValid r)
    (n : CacheNamespace) (fp : SegmentFingerprint) (r' : CacheRecord) :
    recordFromRow sha256 (databaseValues sha256 r) n fp = .ok r' ↔
      r.cacheNamespace = n ∧ r.fingerprint = fp ∧ r' = r := by
  have hpos := List.length_pos_of_ne_nil r.nonempty
  have hsize := r.size_eq
  have horder := r.sourceRange.ordered
  have hposition := h.position
  unfold TokenRange.size at hsize
  unfold recordFromRow
  rw [namespaceFromRow_written sha256 r h.cacheNamespace]
  simp only [databaseValues, dbInt, dbText, dbBlob, checked_ok_iff, require_ok_iff,
    Except.ok.injEq, exists_eq_left', decodeTokenIds_encoded r.tokenIds r.nonempty h.tokens,
    exists_const, mapError_ok_iff]
  constructor
  · rintro ⟨hkey, hfp, _, _, _, r₂, hr₂, _, _, rfl⟩
    have hf : r.fingerprint = fp := by
      cases hr : r.fingerprint
      cases fp
      rw [hr] at hfp
      exact congrArg SegmentFingerprint.mk (Subtype.ext hfp)
    subst hf
    rw [recordOfColumns_written] at hr₂
    cases hr₂
    exact ⟨hkey.2, rfl, rfl⟩
  · rintro ⟨rfl, rfl, rfl⟩
    exact ⟨⟨trivial, rfl⟩, rfl, ⟨by omega, by omega, by omega⟩, h.cacheKey, rfl, r',
      recordOfColumns_written r', (), (validateRecord_ok_iff r').mpr h, rfl⟩

theorem databaseValues_injective (sha256 : Bytes → Digest) {r r' : CacheRecord}
    (h : RecordValid r) (h' : RecordValid r')
    (he : databaseValues sha256 r = databaseValues sha256 r') : r = r' := by
  have hr := (recordFromRow_written_iff sha256 r h _ _ r).mpr ⟨rfl, rfl, rfl⟩
  rw [he] at hr
  exact ((recordFromRow_written_iff sha256 r' h' _ _ r).mp hr).2.2

end CacheBlend.SidecarRows
