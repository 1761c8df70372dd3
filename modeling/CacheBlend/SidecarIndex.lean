import CacheBlend.CandidateLookup
import CacheBlend.FirstOccurrences
import CacheBlend.SidecarRows

/-!
# The sidecar index

The sidecar is one table of rows with distinct checksums. A batch of records is
checked as a whole and written in one transaction, so a batch that raises
leaves the table unchanged. A lookup reads the bucket of a namespace and
fingerprint. Over a table of written records it returns exactly the records of
the bucket.
-/

set_option autoImplicit false

namespace CacheBlend.SidecarIndex
open CacheBlend.PlannerModels CacheBlend.SegmentFingerprints CacheBlend.SidecarRows
open CacheBlend.CandidateLookup (LookupException RecordLookup)

def maxCollisionBucketRecords : ℕ := 1024
def maxRecordsPerTransaction : ℕ := 1024
def maxTokensPerTransaction : ℕ := 1048576

inductive SidecarMode where
  | schedulerReadOnly
  | workerReadWrite
  deriving DecidableEq

/-! ## The table -/

def isBlob (size : ℕ) : DbValue → Bool
  | .blob b => b.length = size
  | _ => false

def between (low high : ℤ) : DbValue → Bool
  | .integer n => low ≤ n ∧ n ≤ high
  | _ => false

def RangeAdmitted (row : Row) : Prop :=
  match row.sourceStart, row.sourceEnd, row.tokenCount, row.tokenIds with
  | .integer s, .integer e, .integer n, .blob b =>
    e-s = n ∧ (b.length : ℤ) = tokenBlobHeaderBytes+n*8
  | _, _, _, _ => False

instance (row : Row) : Decidable (RangeAdmitted row) := by
  unfold RangeAdmitted
  split <;> infer_instance

/-- The `CHECK` constraints of the table. -/
def Admitted (row : Row) : Prop :=
  isBlob 32 row.namespaceKey = true ∧
  between 1 maxSchemaVersion row.namespaceSchemaVersion = true ∧
  isBlob 32 row.fingerprint = true ∧
  between 0 maxTokenPosition row.sourceStart = true ∧
  between 1 maxTokenPosition row.sourceEnd = true ∧
  between 1 maxTokensPerRecord row.tokenCount = true ∧
  isBlob 32 row.recordChecksum = true ∧ RangeAdmitted row

instance (row : Row) : Decidable (Admitted row) := inferInstanceAs (Decidable (_ ∧ _))

/-- The rows in the order of their identifiers; checksums are unique. -/
structure SidecarTable where
  rows : List Row
  unique : (rows.map Row.recordChecksum).Nodup
  deriving DecidableEq

def SidecarTable.empty : SidecarTable := ⟨[], List.nodup_nil⟩

/-- `INSERT OR IGNORE`: a row that breaks a constraint is not inserted. -/
def SidecarTable.insertOrIgnore (t : SidecarTable) (row : Row) : SidecarTable × Bool :=
  if h : Admitted row ∧ row.recordChecksum ∉ t.rows.map Row.recordChecksum then
    (⟨t.rows ++ [row], by
      rw [List.map_append, List.map_singleton]
      exact t.unique.append (List.nodup_singleton _) (List.disjoint_singleton.mpr h.2)⟩, true)
  else (t, false)

/-- Columns are ordered by type, integers by value and the others by bytes. -/
def DbValue.sortKey : DbValue → ℕ ×ₗ ℤ ×ₗ Bytes
  | .integer n => toLex (0, toLex (n, []))
  | .text s => toLex (1, toLex (0, utf8 s))
  | .blob b => toLex (2, toLex (0, b))

def bucketSortKey (row : Row) : (ℕ ×ₗ ℤ ×ₗ Bytes) ×ₗ (ℕ ×ₗ ℤ ×ₗ Bytes) ×ₗ (ℕ ×ₗ ℤ ×ₗ Bytes) :=
  toLex (DbValue.sortKey row.cacheKey,
    toLex (DbValue.sortKey row.sourceStart, DbValue.sortKey row.sourceEnd))

/-- The rows of a namespace key and fingerprint, in the order of the query. -/
def SidecarTable.bucket (t : SidecarTable) (key : Digest) (fp : SegmentFingerprint) : List Row :=
  sortedBy bucketSortKey (t.rows.filter
    (fun row => row.namespaceKey = .blob key.val ∧ row.fingerprint = .blob fp.digest.val))

/-! ## Writing and reading -/

/-- An error of the database, told apart by its message. -/
inductive SqliteFault where
  | corruption
  | other
  deriving DecidableEq

def translateSqliteError : SqliteFault → SidecarError
  | .corruption => ⟨.corruption, .databaseCorrupt⟩
  | .other => ⟨.operation, .sqliteOperationFailed⟩

def executed : Option SqliteFault → Except SidecarError Unit
  | none => .ok ()
  | some fault => .error (translateSqliteError fault)

/-- The statements of one transaction that fail. -/
structure SqliteFaults where
  begins : Option SqliteFault
  insert : ℕ → Option SqliteFault
  reread : ℕ → Option SqliteFault
  commit : Option SqliteFault

def SqliteFaults.none : SqliteFaults := ⟨.none, fun _ => .none, fun _ => .none, .none⟩

structure SqliteSidecarIndex where
  mode : SidecarMode
  closed : Bool
  deriving DecidableEq

section
variable (sha256 : Bytes → Digest)

/-- The loop that checks a whole batch, with the records and tokens so far. -/
def encodeAll : ℕ → ℕ → List CacheRecord → Except SidecarError (List EncodedRecord)
  | _, _, [] => .ok []
  | count, totalTokens, r::rest => do
    require (count < maxRecordsPerTransaction) invalidRecord
    let encoded ← EncodedRecord.fromRecord sha256 r
    require (totalTokens+r.tokenIds.length ≤ maxTokensPerTransaction) invalidRecord
    let others ← encodeAll (count+1) (totalTokens+r.tokenIds.length) rest
    .ok (encoded::others)

def rereadRecord (fault : Option SqliteFault) (t : SidecarTable) (e : EncodedRecord) :
    Except SidecarError (SidecarTable × Bool) := do
  executed fault
  match (t.rows.filter (fun row => row.recordChecksum = e.row.recordChecksum)).take 2 with
  | [row] => do
    let existing ← recordFromRow sha256 row e.record.cacheNamespace e.record.fingerprint
    require (existing = e.record) ⟨.corruption, .checksumCollision⟩
    .ok (t, false)
  | _ => .error recordCorrupt

def insertRecord (faults : SqliteFaults) (index : ℕ) (t : SidecarTable) (e : EncodedRecord) :
    Except SidecarError (SidecarTable × Bool) := do
  executed (faults.insert index)
  match t.insertOrIgnore e.row with
  | (t', true) => .ok (t', true)
  | (_, false) => rereadRecord sha256 (faults.reread index) t e

def insertAll (faults : SqliteFaults) : ℕ → SidecarTable → ℕ → List EncodedRecord →
    Except SidecarError (SidecarTable × ℕ)
  | _, t, inserted, [] => .ok (t, inserted)
  | index, t, inserted, e::rest => do
    let step ← insertRecord sha256 faults index t e
    insertAll faults (index+1) step.1 (if step.2 then inserted+1 else inserted) rest

/-- `add_many`: an error at any statement rolls the transaction back. -/
def SqliteSidecarIndex.addMany (index : SqliteSidecarIndex) (faults : SqliteFaults)
    (records : List CacheRecord) : Call SidecarTable SidecarError ℕ := do
  Call.lift (require (index.closed = false) ⟨.closed, .closed⟩)
  Call.lift (require (index.mode = .workerReadWrite) ⟨.mode, .writeForbidden⟩)
  let encoded ← Call.lift (encodeAll sha256 0 0 records)
  Call.atomically fun t => do
    executed faults.begins
    let written ← insertAll sha256 faults 0 t 0 encoded
    executed faults.commit
    .ok (written.2, written.1)

/-- `lookup`. -/
def SqliteSidecarIndex.lookup (index : SqliteSidecarIndex) (t : SidecarTable)
    (n : CacheNamespace) (fp : SegmentFingerprint) : Except SidecarError (List CacheRecord) := do
  require (index.closed = false) ⟨.closed, .closed⟩
  validateNamespace n
  let rows := (t.bucket (namespaceKey sha256 n) fp).take (maxCollisionBucketRecords+1)
  require (rows.length ≤ maxCollisionBucketRecords) ⟨.corruption, .collisionBucketLimit⟩
  rows.mapM (fun row => recordFromRow sha256 row n fp)

def exceptionOf (e : SidecarError) : LookupException :=
  match e.errorClass with
  | .corruption => .sidecarCorruption
  | .schema => .sidecarSchema
  | _ => .other

def SqliteSidecarIndex.recordLookup (index : SqliteSidecarIndex) (t : SidecarTable) :
    RecordLookup :=
  fun _ n fp => (index.lookup sha256 t n fp).mapError exceptionOf

/-! ## Tables of written records -/

/-- The rows are those of the records, which are valid. -/
structure Content (t : SidecarTable) (rs : List CacheRecord) : Prop where
  rows : t.rows = rs.map (databaseValues sha256)
  valid : ∀ r ∈ rs, RecordValid r

end

theorem admitted_written (sha256 : Bytes → Digest) (r : CacheRecord) (h : RecordValid r) :
    Admitted (databaseValues sha256 r) := by
  have hpos := List.length_pos_of_ne_nil r.nonempty
  have hsize := r.size_eq
  have horder := r.sourceRange.ordered
  have hposition := h.position
  have htokens := h.tokens
  have hschema := r.cacheNamespace.schema_positive
  have hversion := h.cacheNamespace.1
  unfold TokenRange.size at hsize
  refine ⟨?_, ?_, ?_, ?_, ?_, ?_, ?_, ?_, ?_⟩
  · simp [databaseValues, isBlob, (namespaceKey sha256 r.cacheNamespace).property]
  · simp only [databaseValues, between, decide_eq_true_eq]
    omega
  · simp [databaseValues, isBlob, r.fingerprint.digest.property]
  · simp only [databaseValues, between, decide_eq_true_eq]
    omega
  · simp only [databaseValues, between, decide_eq_true_eq]
    omega
  · simp only [databaseValues, between, decide_eq_true_eq]
    omega
  · simp [databaseValues, isBlob, (checksumOf sha256 r).property]
  · omega
  · rw [encodeTokenIds_length]
    omega

section
variable {sha256 : Bytes → Digest} {t t' : SidecarTable} {rs : List CacheRecord}

theorem content_empty : Content sha256 SidecarTable.empty [] :=
  ⟨rfl, fun _ hr => absurd hr List.not_mem_nil⟩

theorem content_row (h : Content sha256 t rs) {r : CacheRecord} (hr : RecordValid r) :
    databaseValues sha256 r ∈ t.rows ↔ r ∈ rs := by
  rw [h.rows, List.mem_map]
  constructor
  · rintro ⟨r', hr', he⟩
    rwa [← databaseValues_injective sha256 (h.valid r' hr') hr he]
  · exact fun hm => ⟨r, hm, rfl⟩

theorem content_insert (h : Content sha256 t rs) {r : CacheRecord} (hr : RecordValid r)
    (ht : t'.rows = t.rows ++ [databaseValues sha256 r]) : Content sha256 t' (rs ++ [r]) := by
  refine ⟨by rw [ht, h.rows, List.map_append, List.map_singleton], fun r' hm => ?_⟩
  obtain hm | hm := List.mem_append.mp hm
  · exact h.valid r' hm
  · rw [List.mem_singleton.mp hm]
    exact hr

theorem rereadRecord_ok (h : Content sha256 t rs) {r : CacheRecord} {fault : Option SqliteFault}
    {new : Bool}
    (hs : rereadRecord sha256 fault t ⟨r, databaseValues sha256 r⟩ = .ok (t', new)) :
    r ∈ rs ∧ t' = t ∧ new = false := by
  obtain ⟨_, _, hs⟩ := (checked_ok_iff _ _ _).mp hs
  split at hs
  · next row hrow =>
    obtain ⟨existing, hread, hs⟩ := (checked_ok_iff _ _ _).mp hs
    obtain ⟨hsame, hs⟩ := (require_then_iff _ _ _ _).mp hs
    cases hs
    have hmem : row ∈ t.rows := by
      have hm : row ∈ (t.rows.filter _).take 2 := hrow ▸ List.mem_singleton_self row
      exact (List.mem_filter.mp (List.mem_of_mem_take hm)).1
    rw [h.rows] at hmem
    obtain ⟨r₀, hr₀, rfl⟩ := List.mem_map.mp hmem
    have hr := (recordFromRow_written_iff sha256 r₀ (h.valid r₀ hr₀) _ _ existing).mp hread
    dsimp only at hsame
    rw [← hsame, hr.2.2]
    exact ⟨hr₀, rfl, rfl⟩
  · cases hs

theorem insertRecord_ok (h : Content sha256 t rs) {r : CacheRecord} (hr : RecordValid r)
    {faults : SqliteFaults} {index : ℕ}
    {new : Bool}
    (hs : insertRecord sha256 faults index t ⟨r, databaseValues sha256 r⟩ = .ok (t', new)) :
    (r ∈ rs ∧ t' = t ∧ new = false) ∨
      (r ∉ rs ∧ new = true ∧ Content sha256 t' (rs ++ [r])) := by
  obtain ⟨_, _, hs⟩ := (checked_ok_iff _ _ _).mp hs
  unfold SidecarTable.insertOrIgnore at hs
  dsimp only at hs
  split_ifs at hs with hc
  · cases hs
    refine Or.inr ⟨fun hm => hc.2 ?_, rfl, content_insert h hr rfl⟩
    exact List.mem_map_of_mem ((content_row h hr).mpr hm)
  · exact Or.inl (rereadRecord_ok h hs)

theorem insertRecord_returns (h : Content sha256 t rs) {r : CacheRecord} (hr : RecordValid r)
    {faults : SqliteFaults} {index : ℕ} (hi : faults.insert index = none)
    (hre : faults.reread index = none)
    (hc : ∀ r' ∈ rs, checksumOf sha256 r' = checksumOf sha256 r → r' = r) :
    ∃ step, insertRecord sha256 faults index t ⟨r, databaseValues sha256 r⟩ = .ok step := by
  have hbegin : executed (faults.insert index) = .ok () := by rw [hi, executed]
  by_cases hm : r ∈ rs
  · have hrow := (content_row h hr).mpr hm
    have hins : t.insertOrIgnore (databaseValues sha256 r) = (t, false) :=
      dif_neg fun hn => hn.2 (List.mem_map_of_mem hrow)
    have hf := filter_unique Row.recordChecksum t.rows (databaseValues sha256 r) t.unique hrow
    have hread := (recordFromRow_written_iff sha256 r hr _ _ r).mpr ⟨rfl, rfl, rfl⟩
    have hreread : rereadRecord sha256 (faults.reread index) t ⟨r, databaseValues sha256 r⟩ =
        .ok (t, false) := by
      unfold rereadRecord
      dsimp only
      rw [hre, hf]
      refine (checked_ok_iff _ _ _).mpr ⟨(), rfl, ?_⟩
      exact (checked_ok_iff _ _ _).mpr ⟨r, hread, (require_then_iff _ _ _ _).mpr ⟨rfl, rfl⟩⟩
    refine ⟨(t, false), (checked_ok_iff _ _ _).mpr ⟨(), hbegin, ?_⟩⟩
    dsimp only
    rw [hins]
    exact hreread
  · have hnew : (databaseValues sha256 r).recordChecksum ∉ t.rows.map Row.recordChecksum := by
      rw [h.rows, List.map_map]
      intro hmem
      obtain ⟨r', hr', he⟩ := List.mem_map.mp hmem
      have hsum : checksumOf sha256 r' = checksumOf sha256 r :=
        Subtype.ext (DbValue.blob.inj he)
      exact hm (hc r' hr' hsum ▸ hr')
    obtain ⟨t₁, hins⟩ : ∃ t₁, t.insertOrIgnore (databaseValues sha256 r) = (t₁, true) :=
      ⟨_, dif_pos ⟨admitted_written sha256 r hr, hnew⟩⟩
    refine ⟨(t₁, true), (checked_ok_iff _ _ _).mpr ⟨(), hbegin, ?_⟩⟩
    dsimp only
    rw [hins]

/-! ## Batches -/

theorem encodeAll_ok {count totalTokens : ℕ} {records : List CacheRecord}
    {encoded : List EncodedRecord}
    (h : encodeAll sha256 count totalTokens records = .ok encoded) :
    encoded = records.map (fun r => ⟨r, databaseValues sha256 r⟩) ∧
      ∀ r ∈ records, RecordValid r := by
  induction records generalizing count totalTokens encoded with
  | nil =>
    cases h
    exact ⟨rfl, fun r hr => absurd hr List.not_mem_nil⟩
  | cons r records ih =>
    obtain ⟨_, h⟩ := (require_then_iff _ _ _ _).mp h
    obtain ⟨e, he, h⟩ := (checked_ok_iff _ _ _).mp h
    obtain ⟨_, h⟩ := (require_then_iff _ _ _ _).mp h
    obtain ⟨others, ho, h⟩ := (checked_ok_iff _ _ _).mp h
    cases h
    obtain ⟨hv, rfl⟩ := (fromRecord_ok_iff sha256 r e).mp he
    obtain ⟨rfl, hall⟩ := ih ho
    exact ⟨rfl, List.forall_mem_cons.mpr ⟨hv, hall⟩⟩

theorem encodeAll_limits {count totalTokens : ℕ} {records : List CacheRecord}
    {encoded : List EncodedRecord} (hc : count ≤ maxRecordsPerTransaction)
    (ht : totalTokens ≤ maxTokensPerTransaction)
    (h : encodeAll sha256 count totalTokens records = .ok encoded) :
    count+records.length ≤ maxRecordsPerTransaction ∧
      totalTokens+(records.map (fun r => r.tokenIds.length)).sum ≤ maxTokensPerTransaction := by
  induction records generalizing count totalTokens encoded with
  | nil => exact ⟨hc, ht⟩
  | cons r records ih =>
    obtain ⟨hcount, h⟩ := (require_then_iff _ _ _ _).mp h
    obtain ⟨e, _, h⟩ := (checked_ok_iff _ _ _).mp h
    obtain ⟨htokens, h⟩ := (require_then_iff _ _ _ _).mp h
    obtain ⟨others, ho, _⟩ := (checked_ok_iff _ _ _).mp h
    obtain ⟨hl, hs⟩ := ih hcount htokens ho
    rw [List.map_cons, List.sum_cons, List.length_cons]
    exact ⟨by omega, by omega⟩

theorem encodeAll_returns {count totalTokens : ℕ} {records : List CacheRecord}
    (hv : ∀ r ∈ records, RecordValid r)
    (hc : count+records.length ≤ maxRecordsPerTransaction)
    (ht : totalTokens+(records.map (fun r => r.tokenIds.length)).sum ≤ maxTokensPerTransaction) :
    encodeAll sha256 count totalTokens records =
      .ok (records.map (fun r => ⟨r, databaseValues sha256 r⟩)) := by
  induction records generalizing count totalTokens with
  | nil => rfl
  | cons r records ih =>
    obtain ⟨hr, hrest⟩ := List.forall_mem_cons.mp hv
    rw [List.length_cons] at hc
    rw [List.map_cons, List.sum_cons] at ht
    have hrec : encodeAll sha256 (count+1) (totalTokens+r.tokenIds.length) records = .ok _ :=
      ih hrest (by omega) (by omega)
    refine (require_then_iff _ _ _ _).mpr ⟨by omega, (checked_ok_iff _ _ _).mpr
      ⟨_, (fromRecord_ok_iff sha256 r _).mpr ⟨hr, rfl⟩, ?_⟩⟩
    exact (require_then_iff _ _ _ _).mpr ⟨by omega, (checked_ok_iff _ _ _).mpr ⟨_, hrec, rfl⟩⟩

/-- The records of a batch that are not in the table, each at its first place. -/
def newRecords (rs batch : List CacheRecord) : List CacheRecord := firstBy id rs batch

theorem newRecords_cons_mem {r : CacheRecord} (batch : List CacheRecord) (h : r ∈ rs) :
    newRecords rs (r::batch) = newRecords rs batch := by
  exact if_pos h

theorem newRecords_cons_new {r : CacheRecord} (batch : List CacheRecord) (h : r ∉ rs) :
    newRecords rs (r::batch) = r :: newRecords (rs ++ [r]) batch := by
  have hseen : firstBy id (r::rs) batch = newRecords (rs ++ [r]) batch := by
    apply firstBy_seen
    intro k
    simp [or_comm]
  rw [← hseen]
  exact if_neg h

theorem insertAll_ok {faults : SqliteFaults} {batch : List CacheRecord} {index inserted : ℕ}
    {written : SidecarTable × ℕ} (h : Content sha256 t rs) (hv : ∀ r ∈ batch, RecordValid r)
    (hs : insertAll sha256 faults index t inserted
      (batch.map (fun r => ⟨r, databaseValues sha256 r⟩)) = .ok written) :
    Content sha256 written.1 (rs ++ newRecords rs batch) ∧
      written.2 = inserted+(newRecords rs batch).length := by
  induction batch generalizing t rs index inserted with
  | nil =>
    cases hs
    rw [newRecords, firstBy, List.append_nil]
    exact ⟨h, rfl⟩
  | cons r batch ih =>
    obtain ⟨hr, hrest⟩ := List.forall_mem_cons.mp hv
    obtain ⟨⟨t₁, new⟩, hstep, hs⟩ := (checked_ok_iff _ _ _).mp hs
    obtain ⟨hm, rfl, rfl⟩ | ⟨hm, rfl, hcontent⟩ := insertRecord_ok h hr hstep
    · rw [newRecords_cons_mem batch hm]
      exact ih h hrest hs
    · obtain ⟨hc, hn⟩ := ih hcontent hrest hs
      rw [newRecords_cons_new batch hm, List.length_cons]
      rw [List.append_assoc] at hc
      refine ⟨hc, ?_⟩
      rw [hn, if_pos rfl]
      omega

theorem insertAll_returns {faults : SqliteFaults} {batch : List CacheRecord} {index inserted : ℕ}
    (h : Content sha256 t rs) (hv : ∀ r ∈ batch, RecordValid r)
    (hi : ∀ i, faults.insert i = none) (hre : ∀ i, faults.reread i = none)
    (hc : ∀ r ∈ rs ++ batch, ∀ r' ∈ rs ++ batch,
      checksumOf sha256 r = checksumOf sha256 r' → r = r') :
    ∃ written, insertAll sha256 faults index t inserted
      (batch.map (fun r => ⟨r, databaseValues sha256 r⟩)) = .ok written := by
  induction batch generalizing t rs index inserted with
  | nil => exact ⟨_, rfl⟩
  | cons r batch ih =>
    obtain ⟨hr, hrest⟩ := List.forall_mem_cons.mp hv
    obtain ⟨⟨t₁, new⟩, hstep⟩ := insertRecord_returns h hr (hi index) (hre index)
      fun r' hr' => hc r' (by simp [hr']) r (by simp)
    have hnext : ∃ rs', Content sha256 t₁ rs' ∧ ∀ x ∈ rs' ++ batch, x ∈ rs ++ r::batch := by
      obtain ⟨_, rfl, _⟩ | ⟨_, _, hcontent⟩ := insertRecord_ok h hr hstep
      · exact ⟨rs, h, by simp; tauto⟩
      · exact ⟨rs ++ [r], hcontent, by simp⟩
    obtain ⟨rs', hcontent, hsub⟩ := hnext
    have hrec : ∃ written, insertAll sha256 faults (index+1) t₁
        (if new = true then inserted+1 else inserted)
        (batch.map (fun r => ⟨r, databaseValues sha256 r⟩)) = .ok written :=
      ih hcontent hrest fun x hx y hy => hc x (hsub x hx) y (hsub y hy)
    obtain ⟨written, hw⟩ := hrec
    exact ⟨written, (checked_ok_iff _ _ _).mpr ⟨_, hstep, hw⟩⟩

/-- The index and the batch pass the checks made before the transaction. -/
structure BatchAccepted (index : SqliteSidecarIndex) (batch : List CacheRecord) : Prop where
  opened : index.closed = false
  writable : index.mode = .workerReadWrite
  valid : ∀ r ∈ batch, RecordValid r
  records : batch.length ≤ maxRecordsPerTransaction
  tokens : (batch.map (fun r => r.tokenIds.length)).sum ≤ maxTokensPerTransaction

theorem addMany_ok {index : SqliteSidecarIndex} {faults : SqliteFaults}
    {batch : List CacheRecord} {count : ℕ} (h : Content sha256 t rs)
    (hs : index.addMany sha256 faults batch t = (.ok count, t')) :
    Content sha256 t' (rs ++ newRecords rs batch) ∧ count = (newRecords rs batch).length ∧
      BatchAccepted index batch := by
  obtain ⟨hclosed, hs⟩ := (check_then_iff _ _ _ _ _ _).mp hs
  obtain ⟨hmode, hs⟩ := (check_then_iff _ _ _ _ _ _).mp hs
  obtain ⟨encoded, he, hs⟩ := (Call.lift_bind_iff _ _ _ _ _).mp hs
  have hs := (Call.atomically_ok_iff _ _ _ _).mp hs
  obtain ⟨_, _, hs⟩ := (checked_ok_iff _ _ _).mp hs
  obtain ⟨written, hw, hs⟩ := (checked_ok_iff _ _ _).mp hs
  obtain ⟨_, _, hs⟩ := (checked_ok_iff _ _ _).mp hs
  cases hs
  obtain ⟨rfl, hv⟩ := encodeAll_ok he
  obtain ⟨hc, hn⟩ := insertAll_ok h hv hw
  obtain ⟨hl, ht⟩ := encodeAll_limits (Nat.zero_le _) (Nat.zero_le _) he
  rw [Nat.zero_add] at hn hl ht
  exact ⟨hc, hn, ⟨hclosed, hmode, hv, hl, ht⟩⟩

theorem addMany_raises {index : SqliteSidecarIndex} {faults : SqliteFaults}
    {batch : List CacheRecord} {e : SidecarError}
    (hs : index.addMany sha256 faults batch t = (.error e, t')) : t' = t := by
  have hrolls : Call.RollsBack (index.addMany sha256 faults batch) :=
    Call.rollsBack_lift_bind fun _ => Call.rollsBack_lift_bind fun _ =>
      Call.rollsBack_lift_bind fun _ => Call.rollsBack_atomically _
  exact hrolls t e t' hs

theorem addMany_returns {index : SqliteSidecarIndex} {batch : List CacheRecord}
    (hb : BatchAccepted index batch) (h : Content sha256 t rs)
    (hc : ∀ r ∈ rs ++ batch, ∀ r' ∈ rs ++ batch,
      checksumOf sha256 r = checksumOf sha256 r' → r = r') :
    ∃ count t', index.addMany sha256 .none batch t = (.ok count, t') := by
  have hlength := hb.records
  have htokens := hb.tokens
  have hwritten : ∃ written, insertAll sha256 .none 0 t 0
      (batch.map (fun r => ⟨r, databaseValues sha256 r⟩)) = .ok written :=
    insertAll_returns h hb.valid (fun _ => rfl) (fun _ => rfl) hc
  obtain ⟨written, hw⟩ := hwritten
  have he : encodeAll sha256 0 0 batch =
      .ok (batch.map (fun r => ⟨r, databaseValues sha256 r⟩)) :=
    encodeAll_returns hb.valid (by omega) (by omega)
  refine ⟨written.2, written.1, (check_then_iff _ _ _ _ _ _).mpr ⟨hb.opened,
    (check_then_iff _ _ _ _ _ _).mpr ⟨hb.writable,
      (Call.lift_bind_iff _ _ _ _ _).mpr ⟨_, he, ?_⟩⟩⟩⟩
  refine (Call.atomically_ok_iff _ _ _ _).mpr ((checked_ok_iff _ _ _).mpr
    ⟨(), rfl, (checked_ok_iff _ _ _).mpr ⟨written, hw, ?_⟩⟩)
  exact (checked_ok_iff _ _ _).mpr ⟨(), rfl, rfl⟩

/-! ## Buckets -/

def bucketOf (rs : List CacheRecord) (n : CacheNamespace) (fp : SegmentFingerprint) :
    List CacheRecord :=
  rs.filter (fun r => r.cacheNamespace = n ∧ r.fingerprint = fp)

/-- The order of a bucket: cache key by its bytes, source start, source end. -/
def recordOrder (r : CacheRecord) : Bytes ×ₗ ℕ ×ₗ ℕ :=
  toLex (utf8 r.cacheKey, toLex (r.sourceRange.start, r.sourceRange.stop))

theorem integer_lt_iff (m n : ℕ) :
    DbValue.sortKey (.integer m) < DbValue.sortKey (.integer n) ↔ m < n := by
  simp [DbValue.sortKey, Prod.Lex.toLex_lt_toLex]

theorem integer_le_iff (m n : ℕ) :
    DbValue.sortKey (.integer m) ≤ DbValue.sortKey (.integer n) ↔ m ≤ n := by
  simp only [DbValue.sortKey, Prod.Lex.toLex_le_toLex, lt_self_iff_false, true_and, false_or,
    le_refl, and_true]
  omega

theorem bucketSortKey_le_iff (r r' : CacheRecord) :
    bucketSortKey (databaseValues sha256 r) ≤ bucketSortKey (databaseValues sha256 r') ↔
      recordOrder r ≤ recordOrder r' := by
  have htext : ∀ s s' : String,
      DbValue.sortKey (.text s) < DbValue.sortKey (.text s') ↔ utf8 s < utf8 s' := by
    intro s s'
    simp [DbValue.sortKey, Prod.Lex.toLex_lt_toLex]
  have htext' : ∀ s s' : String,
      DbValue.sortKey (.text s) = DbValue.sortKey (.text s') ↔ utf8 s = utf8 s' := by
    intro s s'
    simp [DbValue.sortKey]
  have hint : ∀ m n : ℕ, DbValue.sortKey (.integer m) = DbValue.sortKey (.integer n) ↔ m = n := by
    intro m n
    simp only [DbValue.sortKey, toLex_inj, Prod.mk.injEq, and_true, true_and]
    exact Int.ofNat_inj
  simp only [bucketSortKey, recordOrder, databaseValues, Prod.Lex.toLex_le_toLex, htext, htext',
    integer_lt_iff, integer_le_iff, hint]

theorem bucket_rows (h : Content sha256 t rs) (n : CacheNamespace) (fp : SegmentFingerprint)
    (hn : ∀ r ∈ rs, namespaceKey sha256 r.cacheNamespace = namespaceKey sha256 n →
      r.cacheNamespace = n) :
    t.bucket (namespaceKey sha256 n) fp =
      (sortedBy recordOrder (bucketOf rs n fp)).map (databaseValues sha256) := by
  have hkey : ∀ r ∈ rs, ((databaseValues sha256 r).namespaceKey =
      .blob (namespaceKey sha256 n).val ∧ (databaseValues sha256 r).fingerprint =
      .blob fp.digest.val) ↔ (r.cacheNamespace = n ∧ r.fingerprint = fp) := by
    intro r hr
    constructor
    · rintro ⟨hk, hf⟩
      refine ⟨hn r hr (Subtype.ext (DbValue.blob.inj hk)), ?_⟩
      cases hfp : r.fingerprint
      cases fp
      rw [databaseValues, hfp] at hf
      exact congrArg SegmentFingerprint.mk (Subtype.ext (DbValue.blob.inj hf))
    · rintro ⟨rfl, rfl⟩
      exact ⟨rfl, rfl⟩
  rw [SidecarTable.bucket, h.rows, List.filter_map, bucketOf,
    ← sortedBy_map bucketSortKey recordOrder (databaseValues sha256) bucketSortKey_le_iff]
  congr 2
  apply List.filter_congr
  intro r hr
  simp only [Function.comp_apply, hkey r hr]

theorem lookup_eq {index : SqliteSidecarIndex} (hclosed : index.closed = false)
    (h : Content sha256 t rs) (n : CacheNamespace) (fp : SegmentFingerprint)
    (hvalid : NamespaceValid n)
    (hn : ∀ r ∈ rs, namespaceKey sha256 r.cacheNamespace = namespaceKey sha256 n →
      r.cacheNamespace = n) :
    index.lookup sha256 t n fp =
      if (bucketOf rs n fp).length ≤ maxCollisionBucketRecords then
        .ok (sortedBy recordOrder (bucketOf rs n fp))
      else .error ⟨.corruption, .collisionBucketLimit⟩ := by
  have hrows := bucket_rows h n fp hn
  have hlength : (sortedBy recordOrder (bucketOf rs n fp)).length =
      (bucketOf rs n fp).length := length_sortedBy _ _
  have hopen : require (index.closed = false) (⟨.closed, .closed⟩ : SidecarError) = .ok () :=
    require_of _ hclosed
  have hname : validateNamespace n = .ok () := require_of _ hvalid
  unfold SqliteSidecarIndex.lookup
  rw [hopen, hname, hrows]
  dsimp only
  split_ifs with hl
  · have htake : ((sortedBy recordOrder (bucketOf rs n fp)).map (databaseValues sha256)).take
        (maxCollisionBucketRecords+1) =
          (sortedBy recordOrder (bucketOf rs n fp)).map (databaseValues sha256) :=
      List.take_of_length_le (by rw [List.length_map]; omega)
    rw [htake]
    refine (checked_ok_iff _ _ _).mpr ⟨(), rfl, (checked_ok_iff _ _ _).mpr ⟨(), rfl, ?_⟩⟩
    refine (require_then_iff _ _ _ _).mpr ⟨by rw [List.length_map]; omega, ?_⟩
    rw [mapM_returns_iff, List.forall₂_map_left_iff, List.forall₂_same]
    intro r hr
    have hr := (mem_sortedBy _ _ _).mp hr
    unfold bucketOf at hr
    obtain ⟨hm, hb⟩ := List.mem_filter.mp hr
    obtain ⟨rfl, rfl⟩ := of_decide_eq_true hb
    exact (recordFromRow_written_iff sha256 r (h.valid r hm) _ _ r).mpr ⟨rfl, rfl, rfl⟩
  · have hlong : ¬(((sortedBy recordOrder (bucketOf rs n fp)).map (databaseValues sha256)).take
        (maxCollisionBucketRecords+1)).length ≤ maxCollisionBucketRecords := by
      rw [List.length_take, List.length_map]
      omega
    change (require _ _ >>= _) = _
    rw [require_not _ hlong]
    rfl

end

end CacheBlend.SidecarIndex
