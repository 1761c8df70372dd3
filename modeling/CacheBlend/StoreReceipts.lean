import CacheBlend.LookupPlans
import CacheBlend.TransferEnds

/-!
# The receipt of a store and its validators

The transport derives the records of a store from the chunk hashes. The
receipt's constructor, the transfer runtime, the worker bridge and the sidecar
each check them with code of their own. The checks of the runtime and of the
bridge agree on every receipt, and a derived receipt passes all of them.
-/

set_option autoImplicit false

namespace CacheBlend.StoreReceipts
open CacheBlend.PlannerModels CacheBlend.SegmentFingerprints CacheBlend.LmcacheTypes
open CacheBlend.TransferRuntime CacheBlend.TransportRequests
open CacheBlend.WorkerBridge (WorkerBridgeErrorCode ValidRecordBatch)
open CacheBlend.TransferEnds (buildStorePlan_some)
open CacheBlend.LmcacheTransport (rangeLen sysMaxsize)

/-! ## The configuration of the transport -/

structure RuntimeTarget where
  modelId : String
  vllmVersion : String
  lmcacheVersion : String
  torchVersion : String
  cudaRuntime : String
  deriving DecidableEq

def pinnedTarget : RuntimeTarget where
  modelId := "openai/gpt-oss-20b"
  vllmVersion := "0.19.1"
  lmcacheVersion := "0.4.3"
  torchVersion := "2.10.0+cu128"
  cudaRuntime := "12.8"

def maxNamespaceFieldBytes : ℕ := 1024

/-- An error of `_validate_namespace`, with the values in its text. -/
inductive NamespaceError where
  | schemaVersion
  | unpinned (field expected observed : String)
  | oversized (field : String)
  deriving DecidableEq

structure PinnedField where
  field : String
  expected : String
  observed : String

def pinnedFields (n : CacheNamespace) : List PinnedField :=
  [⟨"model_id", pinnedTarget.modelId, n.modelId.val⟩,
    ⟨"tokenizer_id", pinnedTarget.modelId, n.tokenizerId.val⟩,
    ⟨"vllm_version", pinnedTarget.vllmVersion, n.vllmVersion.val⟩,
    ⟨"lmcache_version", pinnedTarget.lmcacheVersion, n.lmcacheVersion.val⟩,
    ⟨"torch_version", pinnedTarget.torchVersion, n.torchVersion.val⟩,
    ⟨"cuda_runtime", pinnedTarget.cudaRuntime, n.cudaRuntime.val⟩]

/-- `_validate_namespace` of the transport's configuration. -/
def validateNamespace (n : CacheNamespace) : Except NamespaceError Unit := do
  require (n.schemaVersion = 1) .schemaVersion
  forM (pinnedFields n) fun p =>
    require (p.observed = p.expected) (.unpinned p.field p.expected p.observed)
  forM n.canonicalFields fun f =>
    require ((utf8 f.2).length ≤ maxNamespaceFieldBytes) (.oversized f.1)

/-- A configuration that its constructor has accepted. -/
structure AuditedConfig extends LmcacheBlendTransportConfig where
  audited : validateNamespace cacheNamespace = .ok ()

theorem sidecar_takes {n : CacheNamespace} (h : validateNamespace n = .ok ()) :
    SidecarRows.NamespaceValid n := by
  obtain ⟨hv, h⟩ := (require_then_iff _ _ _ _).mp h
  obtain ⟨_, _, hf⟩ := (checked_ok_iff _ _ _).mp h
  rw [forM_returns_iff] at hf
  refine ⟨hv.trans_le (by decide), fun field hfield => ?_⟩
  have hbound := (require_ok_iff _ _ _).mp (hf field (List.mem_of_mem_tail hfield))
  have htext : ∃ t : NamespaceText, field.2 = t.val := by
    simp only [CacheNamespace.canonicalFields, List.tail_cons, List.mem_cons,
      List.not_mem_nil, or_false] at hfield
    rcases hfield with rfl | rfl | rfl | rfl | rfl | rfl | rfl | rfl | rfl | rfl | rfl
    all_goals exact ⟨_, rfl⟩
  obtain ⟨t, ht⟩ := htext
  refine ⟨?_, ?_, hbound⟩
  · rw [ht]
    exact t.property.1
  · rw [ht]
    exact t.property.2

/-! ## The validators, as the source writes them -/

/-- `str.removeprefix`. -/
def removePrefix (text start : List Char) : List Char :=
  if start.isPrefixOf text = true then text.drop start.length else text

def keySuffix (cacheKey : String) : List Char :=
  removePrefix cacheKey.toList lmcacheCacheKeyPrefix.toList

section
variable (sha256 : Bytes → Digest)

/-- The condition under which the runtime's loop returns on a record. -/
def recordRefused (cacheNamespace : CacheNamespace) (chunk : StoreChunkWork) (r : CacheRecord) :
    Bool :=
  r.cacheNamespace ≠ cacheNamespace || r.tokenIds ≠ chunk.tokenIds ||
    r.sourceRange ≠ chunk.tokenRange ||
    r.fingerprint ≠ fingerprint sha256 cacheNamespace chunk.tokenIds ||
    !lmcacheCacheKeyPrefix.toList.isPrefixOf r.cacheKey.toList ||
    (keySuffix r.cacheKey).length ≠ 64 || (keySuffix r.cacheKey).any fun c => !lowerHex c

def validChunkRecords (cacheNamespace : CacheNamespace) :
    List (StoreChunkWork × CacheRecord) → Bool
  | [] => true
  | e::rest =>
    if recordRefused sha256 cacheNamespace e.1 e.2 = true then false
    else validChunkRecords cacheNamespace rest

/-- `TransferRuntime._valid_store_receipt`; `none` is a value of another type. -/
def validStoreReceipt (receipt : Option LmcacheStoreReceipt) (p : WorkerStorePlan sha256) :
    Bool :=
  match receipt with
  | none => false
  | some receipt =>
    if receipt.storedTokens ≠ p.expectedTokens ∨ receipt.storedChunks ≠ p.expectedChunks ∨
        ¬receipt.candidateLookupRequired = true ∨
        receipt.sidecarRecords.length ≠ p.expectedChunks then false
    else validChunkRecords sha256 p.metadata.cacheNamespace (p.chunks.zip receipt.sidecarRecords)

/-- `_valid_record` of the bridge. -/
def validRecord (r : CacheRecord) (cacheNamespace : CacheNamespace) (tokenIds : List TokenId)
    (sourceRange : TokenRange) : Bool :=
  r.cacheNamespace = cacheNamespace && r.tokenIds = tokenIds && r.sourceRange = sourceRange &&
    r.fingerprint = fingerprint sha256 cacheNamespace tokenIds &&
    lmcacheCacheKeyPrefix.toList.isPrefixOf r.cacheKey.toList &&
    (keySuffix r.cacheKey).length = 64 && (keySuffix r.cacheKey).all lowerHex

/-- `_validate_store_receipt` of the bridge. -/
def validateStoreReceipt (receipt : Option LmcacheStoreReceipt) (p : WorkerStorePlan sha256) :
    Except WorkerBridgeErrorCode Unit :=
  match receipt with
  | none => .error .receiptMismatch
  | some receipt => do
    require (¬(receipt.storedTokens ≠ p.expectedTokens ∨ receipt.storedChunks ≠ p.expectedChunks ∨
      ¬receipt.candidateLookupRequired = true ∨
      receipt.sidecarRecords.length ≠ p.expectedChunks)) .receiptMismatch
    forM (p.chunks.zip receipt.sidecarRecords) fun e =>
      require (validRecord sha256 e.2 p.metadata.cacheNamespace e.1.tokenIds e.1.tokenRange = true)
        .receiptMismatch

/-- The loop of `_valid_record_batch`, with the namespace and the end it keeps. -/
def validBatchLoop : Option CacheNamespace → Option ℕ → List CacheRecord → Bool
  | _, _, [] => true
  | cacheNamespace, previousEnd, r::rest =>
    if r.cacheNamespace ≠ cacheNamespace.getD r.cacheNamespace ∨
        r.tokenIds.length ≠ lmcacheChunkSize ∨
        (previousEnd = none ∧ r.sourceRange.start ≠ 0) ∨
        (∃ e ∈ previousEnd, r.sourceRange.start ≠ e) ∨
        validRecord sha256 r r.cacheNamespace r.tokenIds r.sourceRange = false then false
    else validBatchLoop (some (cacheNamespace.getD r.cacheNamespace)) (some r.sourceRange.stop)
      rest

/-- `_valid_record_batch` of the bridge. -/
def validRecordBatch (records : List CacheRecord) : Bool :=
  if records = [] then false else validBatchLoop sha256 none none records

end

/-! ## The validators agree -/

section
variable {sha256 : Bytes → Digest}

theorem keySuffix_eq {cacheKey : String}
    (h : lmcacheCacheKeyPrefix.toList <+: cacheKey.toList) :
    keySuffix cacheKey = cacheKey.toList.drop lmcacheCacheKeyPrefix.length := by
  unfold keySuffix removePrefix
  rw [if_pos (List.isPrefixOf_iff_prefix.mpr h)]
  rfl

theorem validRecord_iff (sha256 : Bytes → Digest) (r : CacheRecord)
    (cacheNamespace : CacheNamespace) (chunk : StoreChunkWork) :
    validRecord sha256 r cacheNamespace chunk.tokenIds chunk.tokenRange = true ↔
      RecordValid sha256 cacheNamespace chunk r := by
  unfold validRecord RecordValid
  simp only [Bool.and_eq_true, decide_eq_true_eq, List.isPrefixOf_iff_prefix, List.all_eq_true]
  constructor
  · rintro ⟨⟨⟨⟨⟨⟨hn, ht⟩, hr⟩, hf⟩, hp⟩, hl⟩, hc⟩
    rw [keySuffix_eq hp] at hl hc
    exact ⟨hn, ht, hr, hf, hp, hl, hc⟩
  · rintro ⟨hn, ht, hr, hf, hp, hl, hc⟩
    rw [keySuffix_eq hp]
    exact ⟨⟨⟨⟨⟨⟨hn, ht⟩, hr⟩, hf⟩, hp⟩, hl⟩, hc⟩

theorem recordRefused_eq (r : CacheRecord) (cacheNamespace : CacheNamespace)
    (chunk : StoreChunkWork) : recordRefused sha256 cacheNamespace chunk r =
      !validRecord sha256 r cacheNamespace chunk.tokenIds chunk.tokenRange := by
  unfold recordRefused validRecord
  simp only [Bool.not_and, List.not_all_eq_any_not, decide_not]

theorem validChunkRecords_iff (cacheNamespace : CacheNamespace)
    (entries : List (StoreChunkWork × CacheRecord)) :
    validChunkRecords sha256 cacheNamespace entries = true ↔
      ∀ e ∈ entries, RecordValid sha256 cacheNamespace e.1 e.2 := by
  induction entries with
  | nil => simp [validChunkRecords]
  | cons e rest ih =>
    rw [validChunkRecords, recordRefused_eq, List.forall_mem_cons, ← validRecord_iff]
    cases validRecord sha256 e.2 cacheNamespace e.1.tokenIds e.1.tokenRange with
    | false => simp
    | true => simpa using ih

theorem validStoreReceipt_iff (receipt : Option LmcacheStoreReceipt)
    (p : WorkerStorePlan sha256) :
    validStoreReceipt sha256 receipt p = true ↔ ∃ s ∈ receipt, ReceiptValid s p := by
  cases receipt with
  | none => simp [validStoreReceipt]
  | some s =>
    simp only [validStoreReceipt, Option.mem_some_iff, exists_eq_left', ReceiptValid]
    split_ifs with h
    · constructor
      · intro hf
        cases hf
      · rintro ⟨ht, hc, hq, hl, _⟩
        obtain h | h | h | h := h
        · exact absurd ht h
        · exact absurd hc h
        · exact absurd hq h
        · exact absurd hl h
    · simp only [not_or, not_not, ne_eq] at h
      rw [validChunkRecords_iff]
      constructor
      · intro hr
        exact ⟨h.1, h.2.1, h.2.2.1, h.2.2.2, hr⟩
      · intro hr
        exact hr.2.2.2.2

theorem validateStoreReceipt_iff (receipt : Option LmcacheStoreReceipt)
    (p : WorkerStorePlan sha256) :
    validateStoreReceipt sha256 receipt p = .ok () ↔ ∃ s ∈ receipt, ReceiptValid s p := by
  cases receipt with
  | none => simp [validateStoreReceipt]
  | some s =>
    simp only [validateStoreReceipt, Option.mem_some_iff, exists_eq_left', ReceiptValid,
      require_then_iff, forM_returns_iff, require_ok_iff, validRecord_iff, not_or, not_not, ne_eq,
      and_assoc]

/-! ## The records of a store -/

theorem hexDigit_lower : ∀ n < 16, lowerHex (hexDigit n) = true := by decide

theorem hex_toList (b : Bytes) : (hex b).toList = b.flatMap hexByte := String.toList_ofList

theorem hex_length (b : Bytes) : (hex b).toList.length = 2*b.length := by
  rw [hex_toList]
  induction b with
  | nil => rfl
  | cons x b ih =>
    rw [List.flatMap_cons, List.length_append, ih, List.length_cons]
    show 2+2*b.length = _
    omega

theorem hex_lower (b : Bytes) : ∀ c ∈ (hex b).toList, lowerHex c = true := by
  intro c hc
  rw [hex_toList] at hc
  obtain ⟨x, _, hx⟩ := List.mem_flatMap.mp hc
  have hb := x.toNat_lt
  rcases List.mem_pair.mp hx with rfl | rfl
  · exact hexDigit_lower _ (by omega)
  · exact hexDigit_lower _ (by omega)

theorem cacheKeyOf_toList (h : Digest) : (cacheKeyOf h.val).toList =
    lmcacheCacheKeyPrefix.toList ++ (hex h.val).toList := String.toList_append

theorem cacheKeyOf_nonempty (h : Digest) : cacheKeyOf h.val ≠ "" := by
  intro he
  have hl := cacheKeyOf_toList h
  rw [he] at hl
  exact absurd hl (by simp [lmcacheCacheKeyPrefix])

/-- What `chunkRecord` makes of one chunk of the stored tokens. -/
structure ChunkRecord (sha256 : Bytes → Digest) (tokens : List TokenId) (n : CacheNamespace)
    (sourceStart i : ℕ) (h : Digest) (r : CacheRecord) : Prop where
  cacheNamespace : r.cacheNamespace = n
  tokenIds : r.tokenIds = (chunkWork tokens i).tokenIds
  fingerprint : r.fingerprint = fingerprint sha256 n (chunkWork tokens i).tokenIds
  start : r.sourceRange.start = sourceStart+i*lmcacheChunkSize
  stop : r.sourceRange.stop = sourceStart+i*lmcacheChunkSize+lmcacheChunkSize
  key : r.cacheKey = cacheKeyOf h.val

theorem chunk_fits {length i : ℕ} (hi : i < length/lmcacheChunkSize) :
    i*lmcacheChunkSize+lmcacheChunkSize ≤ length := by
  have hle : (i+1)*lmcacheChunkSize ≤ length :=
    (Nat.mul_le_mul_right _ hi).trans (Nat.div_mul_le_self _ _)
  rwa [Nat.add_mul, Nat.one_mul] at hle

theorem chunk_length {tokens : List TokenId} {i : ℕ} (hi : i < tokens.length/lmcacheChunkSize) :
    (chunkWork tokens i).tokenIds.length = lmcacheChunkSize := by
  show ((tokens.take _).drop _).length = _
  rw [List.length_drop, List.length_take, Nat.min_eq_left (chunk_fits hi),
    Nat.add_sub_cancel_left]

theorem newRecord_returns (n : CacheNamespace) (f : SegmentFingerprint) {tokens : List TokenId}
    {range : TokenRange} {key : String} (hn : tokens ≠ []) (hs : range.size = tokens.length)
    (hk : key ≠ "") :
    CacheRecord.new n f tokens range key = .ok ⟨n, f, tokens, range, key, hn, hs, hk⟩ := by
  unfold CacheRecord.new
  rw [dif_neg hn, dif_pos hs, dif_neg hk]

theorem chunkRecord_returns (sha256 : Bytes → Digest) {tokens : List TokenId}
    (n : CacheNamespace) (sourceStart : ℕ) {i : ℕ} (h : Digest)
    (hi : i < tokens.length/lmcacheChunkSize) :
    ∃ r, chunkRecord sha256 tokens n sourceStart i h.val = .ok r ∧
      ChunkRecord sha256 tokens n sourceStart i h r := by
  have hlength := chunk_length hi
  have hn : (chunkWork tokens i).tokenIds ≠ [] := by
    intro he
    rw [he] at hlength
    cases hlength
  have hk := cacheKeyOf_nonempty h
  have hsize : TokenRange.size ⟨sourceStart+i*lmcacheChunkSize,
      sourceStart+i*lmcacheChunkSize+lmcacheChunkSize, Nat.le_add_right _ _⟩ =
      (chunkWork tokens i).tokenIds.length :=
    (Nat.add_sub_cancel_left _ _).trans hlength.symm
  have hnew := newRecord_returns n (fingerprint sha256 n (chunkWork tokens i).tokenIds)
    hn hsize hk
  refine ⟨_, congrArg (Except.mapError _) hnew, ?_⟩
  exact ⟨rfl, rfl, rfl, rfl, rfl, rfl⟩

theorem completeHashes_of (hashes : List Digest) :
    completeHashes (hashes.map fun h => some h.val) = some (hashes.map Subtype.val) := by
  induction hashes with
  | nil => rfl
  | cons h hashes ih =>
    unfold completeHashes at ih ⊢
    rw [List.map_cons, List.mapM_cons, ih, Option.filter_some, if_pos (decide_eq_true h.property)]
    rfl

/-- The records of the chunks, in their order. -/
structure ChunkRecords (sha256 : Bytes → Digest) (tokens : List TokenId) (n : CacheNamespace)
    (sourceStart : ℕ) (hashes : List Digest) (records : List CacheRecord) : Prop where
  count : records.length = hashes.length
  each : ∀ i (hi : i < records.length) (hh : i < hashes.length),
    ChunkRecord sha256 tokens n sourceStart i hashes[i] records[i]

theorem chunkRecords_return (sha256 : Bytes → Digest) {tokens : List TokenId}
    (n : CacheNamespace) (sourceStart : ℕ) (hashes : List Digest)
    (hc : hashes.length = tokens.length/lmcacheChunkSize) :
    ∃ records, (hashes.map Subtype.val).zipIdx.mapM (fun h : Bytes × ℕ =>
        chunkRecord sha256 tokens n sourceStart h.2 h.1) = .ok records ∧
      ChunkRecords sha256 tokens n sourceStart hashes records := by
  have hreturn : ∀ e ∈ (hashes.map Subtype.val).zipIdx, ∃ r,
      chunkRecord sha256 tokens n sourceStart e.2 e.1 = .ok r := by
    intro e he
    obtain ⟨_, hi, hv⟩ := List.mem_zipIdx he
    rw [List.length_map, Nat.zero_add] at hi
    rw [hv, List.getElem_map]
    obtain ⟨r, hr, _⟩ := chunkRecord_returns sha256 n sourceStart _ (hi.trans_eq hc)
    exact ⟨r, hr⟩
  obtain ⟨records, hrecords⟩ := mapM_returns_of _ _ hreturn
  obtain ⟨hcount, hall⟩ := List.forall₂_iff_get.mp ((mapM_returns_iff _ _ _).mp hrecords)
  refine ⟨records, hrecords, ?_, fun i hi hh => ?_⟩
  · rw [← hcount, List.length_zipIdx, List.length_map]
  · obtain ⟨r, hr, hchunk⟩ := chunkRecord_returns sha256 n sourceStart hashes[i]
      (hh.trans_eq hc)
    have hi' := hall i (by simpa using hh) hi
    simp only [List.get_eq_getElem, List.getElem_zipIdx, List.getElem_map, Nat.zero_add] at hi'
    rw [hr] at hi'
    exact Except.ok.inj hi' ▸ hchunk

/-! ## What the validators check of the records -/

section
variable {tokens : List TokenId} {n : CacheNamespace} {sourceStart : ℕ} {hashes : List Digest}
  {records : List CacheRecord}

theorem ChunkRecord.valid {i : ℕ} {h : Digest} {r : CacheRecord}
    (hr : ChunkRecord sha256 tokens n sourceStart i h r) (chunk : StoreChunkWork)
    (ht : chunk.tokenIds = r.tokenIds) (hs : chunk.tokenRange = r.sourceRange) :
    RecordValid sha256 n chunk r := by
  have hkey : r.cacheKey.toList = lmcacheCacheKeyPrefix.toList ++ (hex h.val).toList := by
    rw [hr.key, cacheKeyOf_toList]
  have hsuffix : r.cacheKey.toList.drop lmcacheCacheKeyPrefix.length = (hex h.val).toList := by
    rw [hkey]
    exact List.drop_left
  refine ⟨hr.cacheNamespace, ht.symm, hs.symm, ?_, ?_, ?_, ?_⟩
  · rw [hr.fingerprint, ht, hr.tokenIds]
  · rw [hkey]
    exact List.prefix_append _ _
  · rw [hsuffix, hex_length, h.property]
  · rw [hsuffix]
    exact hex_lower _

theorem utf8_length_le (text : String) : (utf8 text).length ≤ text.toList.length*4 := by
  unfold utf8
  rw [List.length_flatMap]
  refine (List.sum_le_card_nsmul _ 4 fun k hk => ?_).trans_eq (by simp)
  obtain ⟨c, _, rfl⟩ := List.mem_map.mp hk
  rw [String.length_utf8EncodeChar]
  exact Char.utf8Size_le_four c

theorem key_bounded (h : Digest) :
    SidecarRows.BoundedText (cacheKeyOf h.val) SidecarRows.maxCacheKeyBytes := by
  have hlist := cacheKeyOf_toList h
  refine ⟨fun he => ?_, fun hc => ?_, ?_⟩
  · rw [he] at hlist
    exact absurd hlist (by simp [lmcacheCacheKeyPrefix])
  · rw [hlist, List.mem_append] at hc
    obtain hc | hc := hc
    · exact absurd hc (by decide)
    · exact absurd (hex_lower _ _ hc) (by decide)
  · have hlength := utf8_length_le (cacheKeyOf h.val)
    rw [hlist, List.length_append, hex_length, h.property] at hlength
    exact hlength.trans (by decide)

def Consecutive (records : List CacheRecord) : Prop :=
  List.IsChain (fun r r' : CacheRecord => r'.sourceRange.start = r.sourceRange.stop) records

theorem ChunkRecords.consecutive (h : ChunkRecords sha256 tokens n sourceStart hashes records) :
    Consecutive records := by
  apply List.isChain_iff_getElem.mpr
  intro i hi
  have hstop := (h.each i (by omega) (h.count ▸ (by omega))).stop
  have hstart := (h.each (i+1) hi (hi.trans_eq h.count)).start
  rw [hstop, hstart, Nat.add_mul, Nat.one_mul, Nat.add_assoc]

theorem ChunkRecords.of_mem (h : ChunkRecords sha256 tokens n sourceStart hashes records)
    {r : CacheRecord} (hr : r ∈ records) :
    ∃ i h, i < hashes.length ∧ ChunkRecord sha256 tokens n sourceStart i h r := by
  obtain ⟨i, hi, rfl⟩ := List.mem_iff_getElem.mp hr
  have hh := hi.trans_eq h.count
  exact ⟨i, hashes[i], hh, h.each i hi hh⟩

theorem receiptRecords_pass (records : List CacheRecord) (previous : Option CacheRecord)
    (hc : Consecutive (previous.toList ++ records)) (hp : ∀ p ∈ previous, p.cacheNamespace = n)
    (hr : ∀ r ∈ records, r.cacheNamespace = n ∧ r.tokenIds.length = lmcacheChunkSize ∧
      r.fingerprint = fingerprint sha256 n r.tokenIds) :
    checkReceiptRecords sha256 previous records = .ok ⟨⟩ := by
  induction records generalizing previous with
  | nil => rfl
  | cons r rest ih =>
    obtain ⟨⟨hn, hl, hf⟩, hrest⟩ := List.forall_mem_cons.mp hr
    have hstart : ∀ p ∈ previous, r.sourceRange.start = p.sourceRange.stop := by
      intro p hp
      rw [Option.mem_def.mp hp] at hc
      exact (List.isChain_cons_cons.mp hc).1
    have hchain : Consecutive (r::rest) := by
      cases previous with
      | none => exact hc
      | some p => exact (List.isChain_cons_cons.mp hc).2
    unfold checkReceiptRecords
    simp only [require_then_iff]
    refine ⟨hl, hstart, fun p hpp => hn.trans (hp p hpp).symm, hf.trans (by rw [hn]), ?_⟩
    exact ih (some r) hchain (fun p hpp => Option.mem_some_iff.mp hpp ▸ hn) hrest

theorem validBatchLoop_iff (records : List CacheRecord) (n : CacheNamespace) (stop : ℕ) :
    validBatchLoop sha256 (some n) (some stop) records = true ↔
      (∀ r ∈ records.head?, r.sourceRange.start = stop) ∧ Consecutive records ∧
      ∀ r ∈ records, r.cacheNamespace = n ∧ r.tokenIds.length = lmcacheChunkSize ∧
        RecordValid sha256 r.cacheNamespace ⟨0, r.sourceRange, r.tokenIds⟩ r := by
  induction records generalizing stop with
  | nil => simp [validBatchLoop, Consecutive]
  | cons r rest ih =>
    have hv := validRecord_iff sha256 r r.cacheNamespace ⟨0, r.sourceRange, r.tokenIds⟩
    have hchain : Consecutive (r::rest) ↔
        (∀ r' ∈ rest.head?, r'.sourceRange.start = r.sourceRange.stop) ∧ Consecutive rest :=
      List.isChain_cons
    unfold validBatchLoop
    rw [hchain, List.forall_mem_cons, ← hv]
    simp only [Option.getD_some, reduceCtorEq, false_and, false_or, Option.mem_some_iff,
      exists_eq_left', List.head?_cons, forall_eq']
    split_ifs with h
    · constructor
      · intro hf
        cases hf
      · rintro ⟨hs, _, ⟨hn, hl, hv⟩, _⟩
        obtain h | h | h | h := h
        · exact absurd hn h
        · exact absurd hl h
        · exact absurd hs h
        · exact absurd (hv.symm.trans h) (by decide)
    · simp only [not_or, not_not, ne_eq, Bool.not_eq_false] at h
      obtain ⟨hn, hl, hs, hv⟩ := h
      rw [ih]
      constructor
      · rintro ⟨hfirst, hrest, hall⟩
        exact ⟨hs, ⟨hfirst, hrest⟩, ⟨hn, hl, hv⟩, hall⟩
      · rintro ⟨_, ⟨hfirst, hrest⟩, _, hall⟩
        exact ⟨hfirst, hrest, hall⟩

/-- The loop of the bridge over a batch checks what `ValidRecordBatch` says. -/
theorem validRecordBatch_iff (records : List CacheRecord) :
    validRecordBatch sha256 records = true ↔ ValidRecordBatch sha256 records := by
  cases records with
  | nil => simp [validRecordBatch, ValidRecordBatch]
  | cons r rest =>
    have hloop : validBatchLoop sha256 none none (r::rest) =
        validBatchLoop sha256 (some r.cacheNamespace) (some 0) (r::rest) := by
      simp [validBatchLoop]
    unfold validRecordBatch
    rw [if_neg (List.cons_ne_nil _ _), hloop, validBatchLoop_iff]
    constructor
    · rintro ⟨hs, hc, hr⟩
      exact ⟨r, rfl, hs r rfl, hc, hr⟩
    · rintro ⟨first, hfirst, hs, hc, hr⟩
      cases hfirst
      exact ⟨fun r' hr' => Option.mem_some_iff.mp hr' ▸ hs, hc, hr⟩

/-- The records of a document pass every check on records. -/
structure RecordsPass (sha256 : Bytes → Digest) (n : CacheNamespace) (records : List CacheRecord) :
    Prop where
  receipt : checkReceiptRecords sha256 none records = .ok ()
  batch : ValidRecordBatch sha256 records
  sidecar : ∀ r ∈ records, SidecarRows.validateRecord r = .ok ()

theorem ChunkRecords.pass (h : ChunkRecords sha256 tokens n 0 hashes records)
    (hc : hashes.length = tokens.length/lmcacheChunkSize) (hn : validateNamespace n = .ok ())
    (ht : lmcacheChunkSize ≤ tokens.length) (hl : tokens.length ≤ SidecarRows.maxTokenPosition) :
    RecordsPass sha256 n records := by
  have hlength : ∀ {i : ℕ} {d : Digest} {r : CacheRecord}, i < hashes.length →
      ChunkRecord sha256 tokens n 0 i d r → r.tokenIds.length = lmcacheChunkSize := by
    intro i d r hi hr
    rw [hr.tokenIds]
    exact chunk_length (hi.trans_eq hc)
  constructor
  · apply receiptRecords_pass (n := n) records none h.consecutive (by simp)
    intro r hr
    obtain ⟨i, d, hi, hchunk⟩ := h.of_mem hr
    refine ⟨hchunk.cacheNamespace, hlength hi hchunk, ?_⟩
    rw [hchunk.fingerprint, hchunk.tokenIds]
  · have hpos : 0 < records.length := by
      rw [h.count, hc]
      exact Nat.div_pos ht (by decide)
    have hfirst := h.each 0 hpos (hpos.trans_eq h.count)
    refine ⟨records[0], List.head?_eq_getElem? .. ▸ List.getElem?_eq_getElem hpos, ?_,
      h.consecutive, fun r hr => ?_⟩
    · rw [hfirst.start, Nat.zero_mul]
    · obtain ⟨i, d, hi, hchunk⟩ := h.of_mem hr
      refine ⟨?_, hlength hi hchunk, ?_⟩
      · rw [hchunk.cacheNamespace, hfirst.cacheNamespace]
      · rw [hchunk.cacheNamespace]
        exact hchunk.valid _ rfl rfl
  · intro r hr
    obtain ⟨i, d, hi, hchunk⟩ := h.of_mem hr
    have hstop : r.sourceRange.stop ≤ tokens.length := by
      rw [hchunk.stop, Nat.zero_add]
      exact chunk_fits (hi.trans_eq hc)
    rw [SidecarRows.validateRecord_ok_iff]
    constructor
    · rw [hchunk.cacheNamespace]
      exact sidecar_takes hn
    · rw [hchunk.key]
      exact key_bounded d
    · rw [hlength hi hchunk]
      decide
    · exact hstop.trans hl

theorem chunkWork_take (prompt : List TokenId) {i length : ℕ}
    (h : i*lmcacheChunkSize+lmcacheChunkSize ≤ length) :
    chunkWork (prompt.take length) i = chunkWork prompt i := by
  unfold chunkWork
  rw [List.take_take, Nat.min_eq_left h]

theorem ChunkRecords.receipt_valid (h : ChunkRecords sha256 tokens n 0 hashes records)
    (hc : hashes.length = tokens.length/lmcacheChunkSize) {gatherPlanned : Bool}
    {m : SchedulerTransferMetadata sha256} {adaptedBlocks : VllmAdapters.AdaptedKvCacheBlocks}
    {p : WorkerStorePlan sha256} (hp : buildStorePlan gatherPlanned m adaptedBlocks = some p)
    (ht : p.tokenIds = tokens) (hn : p.metadata.cacheNamespace = n) :
    ReceiptValid ⟨tokens.length, tokens.length/lmcacheChunkSize, true, records⟩ p := by
  obtain ⟨hm, hchunks⟩ := buildStorePlan_some hp
  have hcount : p.chunks.length = m.promptTokenCount/lmcacheChunkSize := by
    rw [hchunks, List.length_map, List.length_range]
  have hfits : p.expectedTokens ≤ m.promptTokenCount := by
    show p.chunks.length*lmcacheChunkSize ≤ _
    rw [hcount]
    exact Nat.div_mul_le_self _ _
  have hprompt : tokens = m.promptTokenIds.take p.expectedTokens := by
    rw [← ht, ← hm]
    rfl
  have hlength : tokens.length = p.expectedTokens := by
    rw [hprompt, List.length_take]
    exact Nat.min_eq_left hfits
  have hchunkCount : tokens.length/lmcacheChunkSize = p.chunks.length := by
    rw [hlength]
    exact Nat.mul_div_cancel _ (by decide)
  refine ⟨hlength, hchunkCount, rfl, ?_, ?_⟩
  · show records.length = _
    rw [h.count, hc, hchunkCount]
    rfl
  · intro e he
    obtain ⟨i, hi⟩ := List.mem_iff_getElem?.mp he
    obtain ⟨hchunk, hrecord⟩ := List.getElem?_zip_eq_some.mp hi
    obtain ⟨hr, hr'⟩ := List.getElem?_eq_some_iff.mp hrecord
    have hh := hr.trans_eq h.count
    have hic : i < p.chunks.length := hh.trans_eq (hc.trans hchunkCount)
    have hwork : e.1 = chunkWork tokens i := by
      rw [hchunks, List.getElem?_map, List.getElem?_range (hic.trans_eq hcount)] at hchunk
      rw [← Option.some.inj hchunk, hprompt]
      apply (chunkWork_take _ _).symm
      have hle := Nat.mul_le_mul_right lmcacheChunkSize hic
      rw [Nat.succ_mul] at hle
      exact hle
    have hchunkRecord := h.each i hr hh
    rw [hr'] at hchunkRecord
    rw [hn]
    apply hchunkRecord.valid
    · rw [hwork, hchunkRecord.tokenIds]
    · rw [hwork]
      apply (TokenRange.ext_iff' _ _).mpr
      constructor
      · rw [hchunkRecord.start, Nat.zero_add]
        rfl
      · rw [hchunkRecord.stop, Nat.zero_add]
        rfl

end

/-! ## The receipt -/

theorem storeInputs_facts {r : StoreRequest} {w : Wire}
    {registration : LmcacheStagingRegistration} {tokens : List TokenId} {offset : ℕ}
    (h : validateStoreInputs r w = (.ok (registration, tokens, offset), w)) :
    tokens ≠ [] ∧ tokens.length % lmcacheChunkSize = 0 := by
  obtain ⟨_, _, _, h⟩ := (Call.bind_ok_iff _ _ _ _ _).mp h
  obtain ⟨checked, hc, h⟩ := (Call.lift_bind_iff _ _ _ _ _).mp h
  cases h
  unfold checkStore at hc
  simp only [checked_ok_iff, require_ok_iff] at hc
  obtain ⟨_, _, _, _, _, _, _, hn, _, _, _, hd, _, _, hc⟩ := hc
  cases hc
  exact ⟨hn, hd⟩

theorem recordIdentity_facts {config : LmcacheBlendTransportConfig} {tokens : List TokenId}
    {n : CacheNamespace} {documentSourceRange : TokenRange}
    (h : validateRecordIdentity config tokens n documentSourceRange = .ok ()) :
    n = config.cacheNamespace ∧ documentSourceRange.size = tokens.length ∧
      documentSourceRange.stop ≤ SidecarRows.maxTokenPosition := by
  unfold validateRecordIdentity at h
  simp only [checked_ok_iff, mapError_ok_iff, LmcacheTransport.rangeLen_ok_iff,
    require_ok_iff] at h
  obtain ⟨_, hn, _, ⟨_, rfl⟩, _, hs, hp⟩ := h
  exact ⟨hn, hs, hp⟩

/-- The checks of `store_precomputed` on its arguments pass. -/
structure StoreAccepted (config : LmcacheBlendTransportConfig) (r : StoreRequest)
    (n : CacheNamespace) (documentSourceRange : TokenRange) (w : Wire) (tokens : List TokenId) :
    Prop where
  inputs : ∃ registration offset,
    validateStoreInputs r w = (.ok (registration, tokens, offset), w)
  identity : validateRecordIdentity config tokens n documentSourceRange = .ok ()

theorem deriveSidecarRecords_returns (sha256 : Bytes → Digest) {tokens : List TokenId}
    (n : CacheNamespace) (documentSourceRange : TokenRange) (hashes : List Digest)
    (hc : hashes.length = tokens.length/lmcacheChunkSize) (w : Wire) :
    ∃ records, deriveSidecarRecords sha256 tokens n documentSourceRange
        (.sequence (hashes.map fun h => some h.val)) w = (.ok records, w) ∧
      ChunkRecords sha256 tokens n documentSourceRange.start hashes records := by
  obtain ⟨records, hreturn, hrecords⟩ :=
    chunkRecords_return sha256 n documentSourceRange.start hashes hc
  refine ⟨records, ?_, hrecords⟩
  unfold deriveSidecarRecords
  dsimp only
  rw [if_pos (by rw [List.length_map, hc]), completeHashes_of]
  dsimp only
  rw [Call.lift_run, hreturn]

theorem newReceipt_returns {tokens chunks : ℕ} {records : List CacheRecord}
    (ht : tokens = chunks*lmcacheChunkSize) (hc : records.length = chunks)
    (h : checkReceiptRecords sha256 none records = .ok ()) :
    newStoreReceipt sha256 tokens chunks true records = .ok ⟨tokens, chunks, true, records⟩ := by
  unfold newStoreReceipt
  rw [h, if_neg (by decide), require_of _ hc, require_of _ ht]
  rfl

theorem storePrecomputed_returns (sha256 : Bytes → Digest)
    {config : LmcacheBlendTransportConfig} {r : StoreRequest} {n : CacheNamespace}
    {documentSourceRange : TokenRange} {w : Wire} {tokens : List TokenId}
    (ha : StoreAccepted config r n documentSourceRange w tokens) (hashes : List Digest)
    (hc : hashes.length = tokens.length/lmcacheChunkSize) :
    ∃ records w', ChunkRecords sha256 tokens n documentSourceRange.start hashes records ∧
      (checkReceiptRecords sha256 none records = .ok () →
        storePrecomputed sha256 config r n documentSourceRange (.answered (.bool true))
          (.sequence (hashes.map fun h => some h.val)) w =
        (.ok ⟨tokens.length, tokens.length/lmcacheChunkSize, true, records⟩, w')) := by
  obtain ⟨registration, offset, hi⟩ := ha.inputs
  obtain ⟨_, hd⟩ := storeInputs_facts hi
  let key := makeKey config tokens r.requestId (some config.workerId)
  let request := LmcacheRequest.storePrecomputed key offset registration.instanceId
    r.eventIpcHandle
  let w' := w.send request (.answered (.bool true)) false
  obtain ⟨records, hreturn, hrecords⟩ := deriveSidecarRecords_returns sha256 n
    documentSourceRange hashes hc w'
  refine ⟨records, w', hrecords, fun hcheck => ?_⟩
  have hchunks := (Nat.div_mul_cancel (Nat.dvd_of_mod_eq_zero hd)).symm
  have hnew := newReceipt_returns hchunks (hrecords.count.trans hc) hcheck
  unfold storePrecomputed
  rw [Call.bind_run_ok _ hi]
  show (Call.lift (validateRecordIdentity config tokens n documentSourceRange) >>= _) w = _
  rw [Call.bind_run_ok _ (show Call.lift _ w = (.ok ⟨⟩, w) by rw [Call.lift_run, ha.identity])]
  have hsent : requestTransfer request (.answered (.bool true)) w = (.ok ⟨⟩, w') := by
    obtain ⟨_, h⟩ | ⟨h, _⟩ := requestExpecting_cases request (.bool true)
      (.operation ("LMCache " ++ request.value ++ " reported failure")) (.answered (.bool true)) w
    · exact h
    · exact absurd rfl h
  rw [Call.bind_run_ok _ hsent, Call.bind_run_ok _ hreturn, Call.lift_run, hnew]

/-- What every receipt built for an accepted store passes. -/
structure ReceiptPasses (sha256 : Bytes → Digest) (n : CacheNamespace) (tokens : List TokenId)
    (receipt : LmcacheStoreReceipt) : Prop where
  invariants : newStoreReceipt sha256 receipt.storedTokens receipt.storedChunks
    receipt.candidateLookupRequired receipt.sidecarRecords = .ok receipt
  plans : ∀ gatherPlanned (m : SchedulerTransferMetadata sha256) adaptedBlocks p,
    buildStorePlan gatherPlanned m adaptedBlocks = some p → p.tokenIds = tokens →
    p.metadata.cacheNamespace = n →
    validStoreReceipt sha256 (some receipt) p = true ∧
      validateStoreReceipt sha256 (some receipt) p = .ok ()
  batch : validRecordBatch sha256 receipt.sidecarRecords = true
  sidecar : ∀ record ∈ receipt.sidecarRecords, SidecarRows.validateRecord record = .ok ()

/-- An accepted store of a document returns a receipt that passes every check
after it, and the two validators of receipts accept the same. -/
theorem stored_document_passes (sha256 : Bytes → Digest) :
    (∀ (config : AuditedConfig) (r : StoreRequest) (n : CacheNamespace)
      (documentSourceRange : TokenRange) (w : Wire) (tokens : List TokenId)
      (hashes : List Digest), documentSourceRange.start = 0 →
      StoreAccepted config.toLmcacheBlendTransportConfig r n documentSourceRange w tokens →
      hashes.length = tokens.length/lmcacheChunkSize →
      ∃ receipt w', storePrecomputed sha256 config.toLmcacheBlendTransportConfig r n
          documentSourceRange (.answered (.bool true))
          (.sequence (hashes.map fun h => some h.val)) w = (.ok receipt, w') ∧
        ReceiptPasses sha256 n tokens receipt) ∧
    ∀ (receipt : Option LmcacheStoreReceipt) (p : WorkerStorePlan sha256),
      validStoreReceipt sha256 receipt p = true ↔
        validateStoreReceipt sha256 receipt p = .ok () := by
  constructor
  · intro config r n documentSourceRange w tokens hashes hs ha hc
    obtain ⟨registration, offset, hi⟩ := ha.inputs
    obtain ⟨hne, hd⟩ := storeInputs_facts hi
    obtain ⟨hn, hsize, hstop⟩ := recordIdentity_facts ha.identity
    obtain ⟨records, w', hrecords, hreturn⟩ :=
      storePrecomputed_returns sha256 ha hashes hc
    rw [hs] at hrecords
    have hposition : tokens.length ≤ SidecarRows.maxTokenPosition := by
      rw [← hsize]
      exact (Nat.sub_le _ _).trans hstop
    have hpos : 0 < tokens.length := List.length_pos_of_ne_nil hne
    have hchunk : lmcacheChunkSize ≤ tokens.length := Nat.le_of_dvd hpos (Nat.dvd_of_mod_eq_zero hd)
    have hnamespace : validateNamespace n = .ok () := hn ▸ config.audited
    have hpass := hrecords.pass hc hnamespace hchunk hposition
    refine ⟨_, w', hreturn hpass.receipt, ?_, ?_, ?_, hpass.sidecar⟩
    · exact newReceipt_returns (Nat.div_mul_cancel (Nat.dvd_of_mod_eq_zero hd)).symm
        (hrecords.count.trans hc) hpass.receipt
    · intro gatherPlanned m adaptedBlocks p hp ht hpn
      have hvalid := hrecords.receipt_valid hc hp ht hpn
      exact ⟨(validStoreReceipt_iff _ p).mpr ⟨_, rfl, hvalid⟩,
        (validateStoreReceipt_iff _ p).mpr ⟨_, rfl, hvalid⟩⟩
    · exact (validRecordBatch_iff _).mpr hpass.batch
  · intro receipt p
    rw [validStoreReceipt_iff, validateStoreReceipt_iff]

end

def pinnedText (text : String) (h : text ≠ "" ∧ '\x00' ∉ text.toList) : NamespaceText := ⟨text, h⟩

def pinnedNamespace : CacheNamespace where
  schemaVersion := 1
  modelId := pinnedText "openai/gpt-oss-20b" (by decide)
  modelRevision := pinnedText "r" (by decide)
  tokenizerId := pinnedText "openai/gpt-oss-20b" (by decide)
  tokenizerRevision := pinnedText "r" (by decide)
  modelConfigDigest := pinnedText "m" (by decide)
  kvCacheConfigDigest := pinnedText "k" (by decide)
  adapterRevision := pinnedText "a" (by decide)
  vllmVersion := pinnedText "0.19.1" (by decide)
  lmcacheVersion := pinnedText "0.4.3" (by decide)
  torchVersion := pinnedText "2.10.0+cu128" (by decide)
  cudaRuntime := pinnedText "12.8" (by decide)
  schema_positive := first_positive

def pinnedConfig : AuditedConfig where
  cacheNamespace := pinnedNamespace
  storageModelName := pinnedText "openai/gpt-oss-20b" (by decide)
  audited := by decide +kernel

def pinnedRegistration : LmcacheStagingRegistration where
  instanceId := 0
  kvCachePayload := none
  layout := ⟨1, 512, 1, pinnedText "torch.bfloat16" (by decide), by decide, by decide, by decide,
    by decide⟩

def registeredWire : Wire := ⟨⟨.registered, some pinnedRegistration⟩, []⟩

def storeRequest (tokens : List TokenId) : StoreRequest where
  tokenIds := tokens.map fun t => (t.val : ℤ)
  bufferOffset := 0
  eventIpcHandle := [0]
  requestId := "r"

def wholeRange (tokens : List TokenId) : TokenRange := ⟨0, tokens.length, Nat.zero_le _⟩

/-- The transport takes the tokens as complete chunks. -/
structure Storable (tokens : List TokenId) : Prop where
  nonempty : tokens ≠ []
  bounded : ∀ t ∈ tokens, t.val ≤ maxLmcacheBlake3TokenId
  chunked : tokens.length % lmcacheChunkSize = 0
  fits : tokens.length ≤ 512

theorem storeRequest_checked {tokens : List TokenId} (h : Storable tokens) :
    checkStore (storeRequest tokens) pinnedRegistration = .ok (tokens, 0) := by
  have ht : normalized (storeRequest tokens).tokenIds = .ok tokens := by
    unfold normalized storeRequest
    rw [normalizeTokenIds_val]
    rfl
  have hfits : (0 : ℤ)+tokens.length ≤ (512 : ℕ) := by
    have hle := h.fits
    omega
  have hid : validateRequestId "r" = .ok () := by decide
  have hevent : validateEventHandle [0] = .ok () := by decide
  unfold checkStore
  rw [ht]
  simp only [checked_ok_iff, require_ok_iff]
  refine ⟨⟨⟩, hid, ⟨⟩, hevent, tokens, rfl, ⟨⟩, h.nonempty, ⟨⟩, h.bounded, ⟨⟩, h.chunked, 0,
    ?_, rfl⟩
  exact (require_then_iff _ _ _ _).mpr ⟨le_refl 0, (require_then_iff _ _ _ _).mpr ⟨hfits, rfl⟩⟩

theorem storeRequest_accepted {tokens : List TokenId} (h : Storable tokens) :
    StoreAccepted pinnedConfig.toLmcacheBlendTransportConfig (storeRequest tokens) pinnedNamespace
      (wholeRange tokens) registeredWire tokens where
  inputs := by
    refine ⟨pinnedRegistration, 0, ?_⟩
    have ha : activeRegistration registeredWire = (.ok pinnedRegistration, registeredWire) := rfl
    unfold validateStoreInputs
    rw [Call.bind_run_ok _ ha, storeRequest_checked h]
    rfl
  identity := by
    have hlimits : 512 ≤ sysMaxsize ∧ 512 ≤ SidecarRows.maxTokenPosition := by decide
    have hlength : rangeLen (wholeRange tokens) = .ok tokens.length :=
      if_pos (h.fits.trans hlimits.1)
    unfold validateRecordIdentity
    rw [hlength]
    exact (require_then_iff _ _ _ _).mpr ⟨rfl, (checked_ok_iff _ _ _).mpr ⟨tokens.length, rfl,
      (require_then_iff _ _ _ _).mpr ⟨rfl, require_of _ (h.fits.trans hlimits.2)⟩⟩⟩

def zeros : List TokenId := List.replicate 256 0

theorem zeros_length : zeros.length = 256 := List.length_replicate

def ones : List TokenId := List.replicate 256 1

theorem ones_length : ones.length = 256 := List.length_replicate

def zerosOnes : List TokenId := zeros ++ ones

theorem zerosOnes_length : zerosOnes.length = 512 := by
  rw [zerosOnes, List.length_append, zeros_length, ones_length]

theorem zeros_bounded : ∀ t ∈ zeros, t.val ≤ maxLmcacheBlake3TokenId := by
  intro t h
  rw [List.eq_of_mem_replicate h]
  decide

theorem zeros_storable : Storable zeros where
  nonempty := List.ne_nil_of_length_pos (zeros_length ▸ by decide)
  bounded := zeros_bounded
  chunked := by rw [zeros_length]; rfl
  fits := by rw [zeros_length]; decide

theorem zerosOnes_storable : Storable zerosOnes where
  nonempty := List.ne_nil_of_length_pos (zerosOnes_length ▸ by decide)
  bounded := by
    intro t h
    rcases List.mem_append.mp h with h | h
    · exact zeros_bounded t h
    · rw [List.eq_of_mem_replicate h]
      decide
  chunked := by rw [zerosOnes_length]; rfl
  fits := zerosOnes_length.le

/-! ## A transfer of two chunks -/

section
open CacheBlend.RequestLifecycle

theorem noSegments_sorted : sortedBy segmentSortKey ([] : List TokenSegment) = [] := rfl

theorem twoChunkPlan_valid : checkRequestPlan "r" 512 [] ⟨[], [], 0⟩ = .ok () := by
  decide +kernel

def twoChunkPlan : RequestPlan := ⟨"r", 512, [], ⟨[], [], 0⟩, noSegments_sorted, twoChunkPlan_valid⟩

theorem oneGroup_nonempty : [["layer"]] ≠ [] := List.cons_ne_nil _ _

theorem oneGroup_groups : ∀ group ∈ [["layer"]], group ≠ [] := by decide

theorem oneGroup_names : ∀ name ∈ [["layer"]].flatten, name ≠ "" := by decide

theorem oneGroup_nodup : [["layer"]].flatten.Nodup := by decide

theorem oneGroup_layers : ["layer"] ≠ [] := List.cons_ne_nil _ _

theorem oneGroup_named : ∀ name ∈ ["layer"], name ≠ "" := by decide

theorem twoBlocks_nodup : [0, 1].Nodup := by decide

theorem request_named : "r" ≠ "" := by decide

def twoBlocks : GroupedBlockAllocation where
  groupLayout := ⟨[["layer"]], oneGroup_nonempty, oneGroup_groups, oneGroup_names, oneGroup_nodup⟩
  groups := [⟨0, ["layer"], [0, 1], oneGroup_layers, oneGroup_named, twoBlocks_nodup⟩]
  indexes := rfl
  layers := rfl

def twoChunkHandoff : RequestHandoffMetadata where
  schemaVersion := metadataSchemaVersion
  plan := twoChunkPlan
  allocation := ⟨"r", 0, twoBlocks, fullRecomputeExternalTokens, request_named, rfl⟩
  schema_eq := rfl
  id_eq := rfl

end

def twoChunkFields : TransferFields where
  cacheNamespace := pinnedNamespace
  promptTokenIds := zerosOnes
  verifiedCandidates := []
  handoff := twoChunkHandoff
  numComputedTokensBeforeStep := 0
  scheduledTokenCount := 512
  transferEligible := false
  storeEligible := true

def tailDigest (b : Bytes) : Digest := ⟨List.replicate 32 (b.getLastD 0), List.length_replicate⟩

theorem twoChunkFields_valid : checkTransfer tailDigest twoChunkFields = .ok () := by
  decide +kernel

def twoChunkMetadata : SchedulerTransferMetadata tailDigest :=
  ⟨twoChunkFields, twoChunkFields_valid⟩

def twoChunkHashes : List Digest := [tailDigest [0], tailDigest [1]]

/-- The two chunks are stored, and both validators take the receipt for the plan of the store. -/
theorem two_chunks_pass : ∃ p receipt w',
    buildStorePlan true twoChunkMetadata ⟨twoBlocks, []⟩ = some p ∧ p.expectedChunks = 2 ∧
    storePrecomputed tailDigest pinnedConfig.toLmcacheBlendTransportConfig (storeRequest zerosOnes)
        pinnedNamespace (wholeRange zerosOnes) (.answered (.bool true))
        (.sequence (twoChunkHashes.map fun h => some h.val)) registeredWire = (.ok receipt, w') ∧
    validStoreReceipt tailDigest (some receipt) p = true ∧
    validateStoreReceipt tailDigest (some receipt) p = .ok () := by
  rcases (stored_document_passes tailDigest).1 pinnedConfig (storeRequest zerosOnes) pinnedNamespace
    (wholeRange zerosOnes) registeredWire zerosOnes twoChunkHashes rfl
    (storeRequest_accepted zerosOnes_storable) (by rw [zerosOnes_length]; rfl) with
    ⟨receipt, w', hrun, hpass⟩
  have hplan : (buildStorePlan true twoChunkMetadata ⟨twoBlocks, []⟩).isSome = true := by
    decide +kernel
  rcases Option.isSome_iff_exists.mp hplan with ⟨p, hp⟩
  rcases buildStorePlan_some hp with ⟨hmetadata, hchunks⟩
  have hprompt : twoChunkMetadata.promptTokenCount = 512 := zerosOnes_length
  have hcount : p.expectedChunks = 2 := by
    rw [WorkerStorePlan.expectedChunks, hchunks, List.length_map, List.length_range, hprompt]
    rfl
  have htokens : p.tokenIds = zerosOnes := by
    have hlength : p.expectedTokens = 512 := congrArg (·*lmcacheChunkSize) hcount
    rw [WorkerStorePlan.tokenIds, hlength, hmetadata]
    exact List.take_of_length_le zerosOnes_length.le
  have hn : p.metadata.cacheNamespace = pinnedNamespace := by rw [hmetadata]; rfl
  rcases hpass.plans true twoChunkMetadata _ p hp htokens hn with ⟨hruntime, hbridge⟩
  exact ⟨p, receipt, w', hp, hcount, hrun, hruntime, hbridge⟩

end CacheBlend.StoreReceipts
