import CacheBlend.SidecarRows

/-!
# The row codec of the sidecar

What is read from a row determines the row: token blobs and columns that are
accepted are those that the writer makes of the record read. Every other row is
refused as corrupt, and in no other way.
-/

set_option autoImplicit false

namespace CacheBlend.SidecarCodec
open CacheBlend.PlannerModels CacheBlend.SidecarRows

/-! ## Words of bytes -/

theorem unpackBig_lt (b : Bytes) : unpackBig b < 256^b.length := by
  induction b using List.reverseRecOn with
  | nil => exact Nat.one_pos
  | append_singleton b x ih =>
    have hx := x.toNat_lt
    unfold unpackBig at ih ⊢
    rw [List.foldl_append, List.foldl_cons, List.foldl_nil, List.length_append,
      List.length_singleton, pow_succ]
    omega

theorem bigEndian_unpackBig (b : Bytes) : bigEndian b.length (unpackBig b) = b := by
  induction b using List.reverseRecOn with
  | nil => rfl
  | append_singleton b x ih =>
    have hx := x.toNat_lt
    have hstep : unpackBig (b ++ [x]) = unpackBig b*256+x.toNat := by
      unfold unpackBig
      rw [List.foldl_append, List.foldl_cons, List.foldl_nil]
    have hdiv : (unpackBig b*256+x.toNat)/256 = unpackBig b := by omega
    have hlast : UInt8.ofNat (unpackBig b*256+x.toNat) = x := by
      apply UInt8.toNat_inj.mp
      rw [UInt8.toNat_ofNat']
      omega
    rw [List.length_append, List.length_singleton, bigEndian, hstep, hdiv, ih, hlast]

theorem packU64_unpackBig {b : Bytes} (h : b.length = 8) : packU64 (unpackBig b) = b := by
  unfold packU64
  rw [← h, bigEndian_unpackBig]

theorem pack_unpackWords {count : ℕ} {payload : Bytes} (h : payload.length = count*8) :
    (unpackWords payload).flatMap packU64 = payload ∧ (unpackWords payload).length = count ∧
      ∀ n ∈ unpackWords payload, n < 2^64 := by
  induction count generalizing payload with
  | zero =>
    obtain rfl := List.eq_nil_of_length_eq_zero (h.trans (Nat.zero_mul 8))
    exact ⟨rfl, rfl, fun n hn => (nomatch hn)⟩
  | succ count ih =>
    have hword : (payload.take 8).length = 8 := by
      rw [List.length_take]
      omega
    have hrest : (payload.drop 8).length = count*8 := by
      rw [List.length_drop]
      omega
    obtain ⟨hpack, hcount, hlt⟩ := ih hrest
    rw [← List.take_append_drop 8 payload, unpackWords_append _ _ hword]
    refine ⟨?_, by rw [List.length_cons, hcount], List.forall_mem_cons.mpr ⟨?_, hlt⟩⟩
    · rw [List.flatMap_cons, packU64_unpackBig hword, hpack]
    · have hb := unpackBig_lt (payload.take 8)
      rw [hword] at hb
      omega

theorem exists_tokens {ids : List ℕ} (h : ∀ n ∈ ids, n < 2^64) :
    ∃ ts : List TokenId, ts.map Fin.val = ids := by
  induction ids with
  | nil => exact ⟨[], rfl⟩
  | cons n ids ih =>
    obtain ⟨ts, hts⟩ := ih fun k hk => h k (List.mem_cons_of_mem _ hk)
    have hn : n < maxTokenId+1 := by
      have hlt := h n List.mem_cons_self
      unfold maxTokenId
      omega
    exact ⟨⟨n, hn⟩::ts, by rw [List.map_cons, hts]⟩

theorem decodeTokenIds_ok_iff (blob : Bytes) (count : ℤ) (ids : List ℕ) :
    decodeTokenIds blob count = .ok ids ↔ ∃ ts : List TokenId, 1 ≤ ts.length ∧
      ts.length ≤ maxTokensPerRecord ∧ count = ts.length ∧ blob = encodeTokenIds ts ∧
      ids = ts.map Fin.val := by
  constructor
  · intro h
    unfold decodeTokenIds at h
    dsimp only at h
    obtain ⟨⟨hheader, hmagic⟩, h⟩ := (require_then_iff _ _ _ _).mp h
    obtain ⟨⟨hcount, hpos, hmax⟩, h⟩ := (require_then_iff _ _ _ _).mp h
    obtain ⟨hlen, h⟩ := (require_then_iff _ _ _ _).mp h
    cases h
    have hword : ((blob.take tokenBlobHeaderBytes).drop tokenBlobMagic.length).length = 8 := by
      rw [List.length_drop, List.length_take, Nat.min_eq_left hheader]
      exact Nat.add_sub_cancel_left ..
    generalize hn : unpackBig ((blob.take tokenBlobHeaderBytes).drop tokenBlobMagic.length) = n at *
    have hpayload : (blob.drop tokenBlobHeaderBytes).length = n*8 := by
      rw [List.length_drop]
      omega
    obtain ⟨hpack, hsize, hlt⟩ := pack_unpackWords hpayload
    obtain ⟨ts, hts⟩ := exists_tokens hlt
    have hts' : ts.length = n := by rw [← hsize, ← hts, List.length_map]
    refine ⟨ts, by omega, by omega, by omega, ?_, hts.symm⟩
    have hfirst : blob.take tokenBlobHeaderBytes = tokenBlobMagic ++ packU64 n := by
      rw [← hn, packU64_unpackBig hword]
      conv_lhs =>
        rw [← List.take_append_drop tokenBlobMagic.length (blob.take tokenBlobHeaderBytes)]
      have hmin : min tokenBlobMagic.length tokenBlobHeaderBytes = tokenBlobMagic.length :=
        Nat.min_eq_left (Nat.le_add_right tokenBlobMagic.length 8)
      rw [List.take_take, hmin, hmagic]
    rw [encodeTokenIds, hts', ← hfirst]
    conv_lhs => rw [← List.take_append_drop tokenBlobHeaderBytes blob, ← hpack, ← hts]
    rw [List.flatMap_map]
  · rintro ⟨ts, hpos, hmax, rfl, rfl, rfl⟩
    exact decodeTokenIds_encoded ts (List.ne_nil_of_length_pos hpos) hmax

/-! ## Columns -/

theorem dbInt_ok_iff (v : DbValue) (n : ℤ) : dbInt v = .ok n ↔ v = .integer n := by
  cases v <;> simp [dbInt]

theorem dbText_ok_iff (v : DbValue) (s : String) : dbText v = .ok s ↔ v = .text s := by
  cases v <;> simp [dbText]

theorem dbBlob_ok_iff (v : DbValue) (b : Bytes) : dbBlob v = .ok b ↔ v = .blob b := by
  cases v <;> simp [dbBlob]

theorem namespaceText_ok_iff (name value : String) (t : NamespaceText) :
    namespaceText name value = .ok t ↔ value = t.val := by
  constructor
  · intro h
    unfold namespaceText at h
    split_ifs at h
    cases h
    rfl
  · rintro rfl
    exact namespaceText_val name t

theorem CacheNamespace_new_ok {schemaVersion : ℤ} {modelId modelRevision tokenizerId
    tokenizerRevision modelConfigDigest kvCacheConfigDigest adapterRevision vllmVersion
    lmcacheVersion torchVersion cudaRuntime : String} {n : CacheNamespace}
    (h : CacheNamespace.new schemaVersion modelId modelRevision tokenizerId tokenizerRevision
      modelConfigDigest kvCacheConfigDigest adapterRevision vllmVersion lmcacheVersion torchVersion
      cudaRuntime = .ok n) :
    schemaVersion = n.schemaVersion ∧ modelId = n.modelId.val ∧
      modelRevision = n.modelRevision.val ∧ tokenizerId = n.tokenizerId.val ∧
      tokenizerRevision = n.tokenizerRevision.val ∧
      modelConfigDigest = n.modelConfigDigest.val ∧
      kvCacheConfigDigest = n.kvCacheConfigDigest.val ∧
      adapterRevision = n.adapterRevision.val ∧ vllmVersion = n.vllmVersion.val ∧
      lmcacheVersion = n.lmcacheVersion.val ∧ torchVersion = n.torchVersion.val ∧
      cudaRuntime = n.cudaRuntime.val := by
  unfold CacheNamespace.new at h
  split_ifs at h
  simp only [checked_ok_iff, namespaceText_ok_iff, Except.ok.injEq] at h
  obtain ⟨_, rfl, _, rfl, _, rfl, _, rfl, _, rfl, _, rfl, _, rfl, _, rfl, _, rfl, _, rfl, _, rfl,
    rfl⟩ := h
  exact ⟨by dsimp only; omega, rfl, rfl, rfl, rfl, rfl, rfl, rfl, rfl, rfl, rfl, rfl⟩

theorem namespaceFromRow_ok {row : Row} {n : CacheNamespace} (h : namespaceFromRow row = .ok n) :
    row.namespaceSchemaVersion = .integer n.schemaVersion ∧ row.modelId = .text n.modelId.val ∧
      row.modelRevision = .text n.modelRevision.val ∧
      row.tokenizerId = .text n.tokenizerId.val ∧
      row.tokenizerRevision = .text n.tokenizerRevision.val ∧
      row.modelConfigDigest = .text n.modelConfigDigest.val ∧
      row.kvCacheConfigDigest = .text n.kvCacheConfigDigest.val ∧
      row.adapterRevision = .text n.adapterRevision.val ∧
      row.vllmVersion = .text n.vllmVersion.val ∧
      row.lmcacheVersion = .text n.lmcacheVersion.val ∧
      row.torchVersion = .text n.torchVersion.val ∧ row.cudaRuntime = .text n.cudaRuntime.val := by
  unfold namespaceFromRow at h
  simp only [checked_ok_iff, dbInt_ok_iff, dbText_ok_iff, mapError_ok_iff, Except.ok.injEq] at h
  obtain ⟨v, h₁, a, h₂, b, h₃, c, h₄, d, h₅, e, h₆, f, h₇, g, h₈, i, h₉, j, h₁₀, k, h₁₁, l, h₁₂, n',
    hn, _, _, rfl⟩ := h
  obtain ⟨rfl, rfl, rfl, rfl, rfl, rfl, rfl, rfl, rfl, rfl, rfl, rfl⟩ := CacheNamespace_new_ok hn
  exact ⟨h₁, h₂, h₃, h₄, h₅, h₆, h₇, h₈, h₉, h₁₀, h₁₁, h₁₂⟩

/-! ## Rows -/

theorem recordOfColumns_ok {n : CacheNamespace} {fp : SegmentFingerprint} {ts : List TokenId}
    {sourceStart sourceEnd : ℤ} {cacheKey : String} {r : CacheRecord}
    (h : recordOfColumns n fp (ts.map Fin.val) sourceStart sourceEnd cacheKey = .ok r) :
    r.cacheNamespace = n ∧ r.fingerprint = fp ∧ r.tokenIds = ts ∧
      sourceStart = r.sourceRange.start ∧ sourceEnd = r.sourceRange.stop ∧
      r.cacheKey = cacheKey := by
  have ht : normalizeTokenIds ((ts.map Fin.val).map Nat.cast) = .ok ts := by
    rw [List.map_map]
    exact normalizeTokenIds_val ts
  unfold recordOfColumns at h
  obtain ⟨range, hr, h⟩ := (checked_ok_iff _ _ _).mp h
  rw [ht] at h
  obtain ⟨hstart, hstop⟩ := (TokenRange.new_ok_iff _ _ _).mp hr
  change CacheRecord.new n fp ts range cacheKey = .ok r at h
  unfold CacheRecord.new at h
  split_ifs at h
  cases h
  exact ⟨rfl, rfl, rfl, hstart, hstop, rfl⟩

theorem recordFromRow_ok {sha256 : Bytes → Digest} {row : Row} {n : CacheNamespace}
    {fp : SegmentFingerprint} {r : CacheRecord} (h : recordFromRow sha256 row n fp = .ok r) :
    RecordValid r ∧ r.cacheNamespace = n ∧ r.fingerprint = fp ∧ row = databaseValues sha256 r := by
  unfold recordFromRow at h
  simp only [checked_ok_iff, require_ok_iff, dbInt_ok_iff, dbText_ok_iff, dbBlob_ok_iff,
    mapError_ok_iff, decodeTokenIds_ok_iff] at h
  obtain ⟨n', hn, key, hkey, _, ⟨rfl, rfl⟩, fingerprintBytes, hfp, _, rfl, count, hcount, blob,
    hblob, ids, ⟨ts, _, _, rfl, rfl, rfl⟩, sourceStart, hstart, sourceEnd, hend, cacheKey, hck,
    _, _, _, _, checksum, hchecksum, _, rfl, r', hr, _, hv, he⟩ := h
  cases he
  obtain ⟨rfl, rfl, rfl, rfl, rfl, rfl⟩ := recordOfColumns_ok hr
  refine ⟨(validateRecord_ok_iff r).mp hv, rfl, rfl, ?_⟩
  obtain ⟨h₁, h₂, h₃, h₄, h₅, h₆, h₇, h₈, h₉, h₁₀, h₁₁, h₁₂⟩ := namespaceFromRow_ok hn
  rw [Int.toNat_natCast, Int.toNat_natCast] at hchecksum
  -- every column is written from the record
  calc row = ⟨row.namespaceKey, row.namespaceSchemaVersion, row.modelId, row.modelRevision,
          row.tokenizerId, row.tokenizerRevision, row.modelConfigDigest, row.kvCacheConfigDigest,
          row.adapterRevision, row.vllmVersion, row.lmcacheVersion, row.torchVersion,
          row.cudaRuntime, row.fingerprint, row.cacheKey, row.sourceStart, row.sourceEnd,
          row.tokenCount, row.tokenIds, row.recordChecksum⟩ := rfl
    _ = databaseValues sha256 r := by
      rw [hkey, h₁, h₂, h₃, h₄, h₅, h₆, h₇, h₈, h₉, h₁₀, h₁₁, h₁₂, hfp, hck, hstart, hend, hcount,
        hblob, hchecksum]
      rfl

/-! ## Refused rows -/

/-- A computation that fails as a corrupt record or not at all. -/
def OnlyCorrupt {α : Type} (x : Except SidecarError α) : Prop :=
  ∀ e, x = .error e → e = recordCorrupt

theorem onlyCorrupt_bind {α β : Type} {x : Except SidecarError α} {f : α → Except SidecarError β}
    (hx : OnlyCorrupt x) (hf : ∀ a, OnlyCorrupt (f a)) : OnlyCorrupt (x >>= f) := by
  intro e he
  obtain he | ⟨a, _, he⟩ := (checked_error_iff _ _ _).mp he
  · exact hx e he
  · exact hf a e he

theorem onlyCorrupt_ok {α : Type} (a : α) : OnlyCorrupt (.ok a) := fun _ he => (nomatch he)

theorem onlyCorrupt_require (p : Prop) [Decidable p] :
    OnlyCorrupt (require.{0, 0} p recordCorrupt) := by
  intro e he
  unfold require at he
  split_ifs at he
  exact (Except.error.inj he).symm

theorem onlyCorrupt_mapError {α δ : Type} (x : Except δ α) :
    OnlyCorrupt (x.mapError (fun _ => recordCorrupt)) := by
  intro e he
  cases x with
  | error d => exact (Except.error.inj he).symm
  | ok a => cases he

theorem onlyCorrupt_dbInt (v : DbValue) : OnlyCorrupt (dbInt v) := by
  intro e he
  cases v <;> cases he <;> rfl

theorem onlyCorrupt_dbText (v : DbValue) : OnlyCorrupt (dbText v) := by
  intro e he
  cases v <;> cases he <;> rfl

theorem onlyCorrupt_dbBlob (v : DbValue) : OnlyCorrupt (dbBlob v) := by
  intro e he
  cases v <;> cases he <;> rfl

theorem onlyCorrupt_decodeTokenIds (blob : Bytes) (count : ℤ) :
    OnlyCorrupt (decodeTokenIds blob count) := by
  apply onlyCorrupt_bind (onlyCorrupt_require _)
  intro _
  apply onlyCorrupt_bind (onlyCorrupt_require _)
  intro _
  apply onlyCorrupt_bind (onlyCorrupt_require _)
  exact fun _ => onlyCorrupt_ok _

theorem onlyCorrupt_namespaceFromRow (row : Row) : OnlyCorrupt (namespaceFromRow row) := by
  apply onlyCorrupt_bind (onlyCorrupt_dbInt _)
  intro _
  iterate 11
    apply onlyCorrupt_bind (onlyCorrupt_dbText _)
    intro _
  apply onlyCorrupt_bind (onlyCorrupt_mapError _)
  intro _
  exact onlyCorrupt_bind (onlyCorrupt_mapError _) fun _ => onlyCorrupt_ok _

theorem onlyCorrupt_recordFromRow (sha256 : Bytes → Digest) (row : Row) (n : CacheNamespace)
    (fp : SegmentFingerprint) : OnlyCorrupt (recordFromRow sha256 row n fp) := by
  apply onlyCorrupt_bind (onlyCorrupt_namespaceFromRow _)
  intro _
  apply onlyCorrupt_bind (onlyCorrupt_dbBlob _)
  intro _
  apply onlyCorrupt_bind (onlyCorrupt_require _)
  intro _
  apply onlyCorrupt_bind (onlyCorrupt_dbBlob _)
  intro _
  apply onlyCorrupt_bind (onlyCorrupt_require _)
  intro _
  apply onlyCorrupt_bind (onlyCorrupt_dbInt _)
  intro _
  apply onlyCorrupt_bind (onlyCorrupt_dbBlob _)
  intro _
  apply onlyCorrupt_bind (onlyCorrupt_decodeTokenIds _ _)
  intro _
  apply onlyCorrupt_bind (onlyCorrupt_dbInt _)
  intro _
  apply onlyCorrupt_bind (onlyCorrupt_dbInt _)
  intro _
  apply onlyCorrupt_bind (onlyCorrupt_dbText _)
  intro _
  apply onlyCorrupt_bind (onlyCorrupt_require _)
  intro _
  apply onlyCorrupt_bind (onlyCorrupt_require _)
  intro _
  apply onlyCorrupt_bind (onlyCorrupt_dbBlob _)
  intro _
  apply onlyCorrupt_bind (onlyCorrupt_require _)
  intro _
  apply onlyCorrupt_bind (onlyCorrupt_mapError _)
  intro _
  exact onlyCorrupt_bind (onlyCorrupt_mapError _) fun _ => onlyCorrupt_ok _

theorem error_of_refused {α : Type} {x : Except SidecarError α} (h : OnlyCorrupt x)
    (hn : ∀ a, x ≠ .ok a) : x = .error recordCorrupt := by
  cases x with
  | error e => rw [h e rfl]
  | ok a => exact absurd rfl (hn a)

/-- A row is read as a record exactly when it is the one that the writer makes
of it; every other row is refused as corrupt. Token blobs likewise. -/
theorem row_codec (sha256 : Bytes → Digest) :
    (∀ r, validateRecord r = .ok () → ∀ row,
      recordFromRow sha256 row r.cacheNamespace r.fingerprint = .ok r ↔
        row = databaseValues sha256 r) ∧
    (∀ row n fp, (¬∃ r, validateRecord r = .ok () ∧ r.cacheNamespace = n ∧ r.fingerprint = fp ∧
        row = databaseValues sha256 r) →
      recordFromRow sha256 row n fp = .error recordCorrupt) ∧
    ∀ blob count,
      (∀ ids, decodeTokenIds blob count = .ok ids ↔ ∃ ts : List TokenId, 1 ≤ ts.length ∧
        ts.length ≤ maxTokensPerRecord ∧ count = ts.length ∧ blob = encodeTokenIds ts ∧
        ids = ts.map Fin.val) ∧
      ((∀ ids, decodeTokenIds blob count ≠ .ok ids) →
        decodeTokenIds blob count = .error recordCorrupt) := by
  refine ⟨fun r hv row => ?_, fun row n fp hn => ?_, fun blob count =>
    ⟨decodeTokenIds_ok_iff blob count, error_of_refused (onlyCorrupt_decodeTokenIds blob count)⟩⟩
  · constructor
    · exact fun h => (recordFromRow_ok h).2.2.2
    · rintro rfl
      exact (recordFromRow_written_iff sha256 r ((validateRecord_ok_iff r).mp hv) _ _ r).mpr
        ⟨rfl, rfl, rfl⟩
  · apply error_of_refused (onlyCorrupt_recordFromRow sha256 row n fp)
    intro r h
    obtain ⟨hv, hns, hfp, hrow⟩ := recordFromRow_ok h
    exact hn ⟨r, (validateRecord_ok_iff r).mpr hv, hns, hfp, hrow⟩

end CacheBlend.SidecarCodec
