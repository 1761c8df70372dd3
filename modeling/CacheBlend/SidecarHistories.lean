import CacheBlend.HashPreimages
import CacheBlend.LookupPlans
import CacheBlend.Runs
import CacheBlend.SidecarIndex

/-!
# Histories of the sidecar

The table after any history of batches holds the distinct records of the
batches that returned, in the order of their first insertion. A lookup
returns the bucket of its namespace and fingerprint in order, provided that
the bucket is within the limit of the reader. The writer keeps no such limit.
-/

set_option autoImplicit false

namespace CacheBlend.SidecarHistories
open CacheBlend.PlannerModels CacheBlend.SegmentFingerprints CacheBlend.SidecarRows
open CacheBlend.SidecarIndex CacheBlend.HashPreimages
open CacheBlend.LookupPlans (exampleNamespace)

/-- One call of `add_many`, with the statements that failed and what it gave. -/
structure AddCall where
  faults : SqliteFaults
  records : List CacheRecord
  result : Except SidecarError ℕ

def Added (sha256 : Bytes → Digest) (writer : SqliteSidecarIndex) (t : SidecarTable)
    (c : AddCall) (t' : SidecarTable) : Prop :=
  writer.addMany sha256 c.faults c.records t = (c.result, t')

def AddCall.accepted (c : AddCall) : List CacheRecord :=
  match c.result with
  | .ok _ => c.records
  | .error _ => []

/-- The distinct records of the calls that returned, each at its first place. -/
def distinctRecords (cs : List AddCall) : List CacheRecord :=
  firstBy id [] (cs.flatMap AddCall.accepted)

def recordInput (r : CacheRecord) : HashInput :=
  .record r.cacheNamespace r.fingerprint r.cacheKey r.sourceRange r.tokenIds

/-- What is hashed for the given records and for a lookup in the namespace. -/
def usedInputs (n : CacheNamespace) (rs : List CacheRecord) : List HashInput :=
  .namespaceKey n ::
    rs.flatMap (fun r => [.namespaceKey r.cacheNamespace, recordInput r])

/-- No two different preimages of the inputs have one digest. -/
def CollisionFree (sha256 : Bytes → Digest) (inputs : List HashInput) : Prop :=
  ∀ i ∈ inputs, ∀ j ∈ inputs, sha256 (preimage i) = sha256 (preimage j) →
    preimage i = preimage j

theorem CollisionFree.mono {sha256 : Bytes → Digest} {inputs inputs' : List HashInput}
    (h : CollisionFree sha256 inputs') (hsub : inputs ⊆ inputs') : CollisionFree sha256 inputs :=
  fun i hi j hj => h i (hsub hi) j (hsub hj)

theorem usedInputs_subset (n : CacheNamespace) {rs rs' : List CacheRecord} (h : rs ⊆ rs') :
    usedInputs n rs ⊆ usedInputs n rs' := by
  intro input hi
  rw [usedInputs, List.mem_cons] at hi ⊢
  apply hi.imp id
  intro hi
  rcases List.mem_flatMap.mp hi with ⟨r, hr, hi⟩
  exact List.mem_flatMap.mpr ⟨r, h hr, hi⟩

/-! ## Distinct inputs have distinct digests -/

theorem utf8_length_le (s : String) : (utf8 s).length ≤ 4*s.toList.length := by
  unfold utf8
  induction s.toList with
  | nil => exact le_refl _
  | cons c cs ih =>
    have hc := c.utf8Size_le_four
    rw [List.flatMap_cons, List.length_append, String.length_utf8EncodeChar, List.length_cons]
    omega

theorem namespace_admitted {n : CacheNamespace} (h : NamespaceValid n) : NamespaceAdmitted n := by
  intro field hf
  obtain rfl | hf := List.mem_cons.mp hf
  · have hdigits : (toString n.schemaVersion).toList.length ≤ 10 := by
      have hlt : n.schemaVersion < 10^10 := by
        have hle := h.1
        unfold maxSchemaVersion at hle
        omega
      have hlist : (toString n.schemaVersion).toList = Nat.toDigits 10 n.schemaVersion :=
        Nat.toList_repr
      rw [hlist]
      exact (Nat.length_toDigits_le_iff (by decide) (by decide)).mpr hlt
    have hle := utf8_length_le (toString n.schemaVersion)
    dsimp only
    omega
  · have hle := (h.2 field hf).2.2
    unfold maxNamespaceFieldBytes at hle
    omega

theorem record_admitted {r : CacheRecord} (h : RecordValid r) : Admitted (recordInput r) := by
  have hkey := h.cacheKey.2.2
  have htokens := h.tokens
  have hposition := h.position
  unfold maxCacheKeyBytes at hkey
  unfold maxTokensPerRecord at htokens
  unfold maxTokenPosition at hposition
  have hheader : tokenBlobHeaderBytes = 12 := by decide
  refine ⟨namespace_admitted h.cacheNamespace, by omega, by omega, ?_⟩
  rw [encodeTokenIds_length]
  omega

section
variable {sha256 : Bytes → Digest}

theorem namespaceKey_apart {inputs : List HashInput} (hc : CollisionFree sha256 inputs)
    {n n' : CacheNamespace} (hn : NamespaceValid n) (hn' : NamespaceValid n')
    (hi : .namespaceKey n ∈ inputs) (hi' : .namespaceKey n' ∈ inputs)
    (h : namespaceKey sha256 n = namespaceKey sha256 n') : n = n' :=
  namespaceKey_injective (namespace_admitted hn) (namespace_admitted hn') (hc _ hi _ hi' h)

theorem checksum_apart {inputs : List HashInput} (hc : CollisionFree sha256 inputs)
    {r r' : CacheRecord} (hr : RecordValid r) (hr' : RecordValid r') (hi : recordInput r ∈ inputs)
    (hi' : recordInput r' ∈ inputs) (h : checksumOf sha256 r = checksumOf sha256 r') :
    r = r' := by
  obtain ⟨hn, hf, hk, hs, ht⟩ := record_injective (record_admitted hr) (record_admitted hr')
    (hc _ hi _ hi' h)
  cases r
  cases r'
  dsimp only at hn hf hk hs ht
  subst hn hf hk hs ht
  rfl

theorem used_lookup (n : CacheNamespace) (rs : List CacheRecord) :
    .namespaceKey n ∈ usedInputs n rs := List.mem_cons_self

theorem used_record (n : CacheNamespace) {rs : List CacheRecord} {r : CacheRecord} (h : r ∈ rs) :
    .namespaceKey r.cacheNamespace ∈ usedInputs n rs ∧ recordInput r ∈ usedInputs n rs := by
  simp only [usedInputs, List.mem_cons, List.mem_flatMap]
  exact ⟨Or.inr ⟨r, h, by simp⟩, Or.inr ⟨r, h, by simp⟩⟩

/-! ## The table after a history -/

theorem mem_distinctRecords (cs : List AddCall) (r : CacheRecord) :
    r ∈ distinctRecords cs ↔ r ∈ cs.flatMap AddCall.accepted := by
  have h := mem_firstBy_keys id (cs.flatMap AddCall.accepted) r
  rwa [List.map_id, List.map_id] at h

theorem distinctRecords_append (cs : List AddCall) (c : AddCall) :
    distinctRecords (cs ++ [c]) =
      distinctRecords cs ++ newRecords (distinctRecords cs) c.accepted := by
  unfold distinctRecords newRecords
  rw [List.flatMap_append, List.flatMap_singleton, firstBy_append, List.nil_append, List.map_id]
  congr 1
  apply firstBy_seen
  intro r
  exact (mem_distinctRecords cs r).symm

theorem added_content {writer : SqliteSidecarIndex} {t t' : SidecarTable} {rs : List CacheRecord}
    {c : AddCall} (h : Content sha256 t rs) (hs : Added sha256 writer t c t') :
    Content sha256 t' (rs ++ newRecords rs c.accepted) ∧
      ∀ count, c.result = .ok count → count = (newRecords rs c.records).length := by
  unfold Added at hs
  unfold AddCall.accepted
  cases hr : c.result with
  | ok count =>
    rw [hr] at hs
    obtain ⟨hc, hn, _⟩ := addMany_ok h hs
    exact ⟨hc, fun k hk => by cases hk; exact hn⟩
  | error e =>
    rw [hr] at hs
    rw [addMany_raises hs]
    refine ⟨?_, fun k hk => nomatch hk⟩
    rw [newRecords, firstBy, List.append_nil]
    exact h

theorem history_content {writer : SqliteSidecarIndex} {cs : List AddCall} {t : SidecarTable}
    (h : Run (Added sha256 writer) SidecarTable.empty cs t) :
    Content sha256 t (distinctRecords cs) := by
  induction h with
  | nil => exact content_empty
  | snoc _ hs ih =>
    rw [distinctRecords_append]
    exact (added_content ih hs).1

theorem other_namespaces {t : SidecarTable} {rs : List CacheRecord} (h : Content sha256 t rs)
    {n : CacheNamespace} (hn : NamespaceValid n) {used : List CacheRecord}
    (hsub : ∀ r ∈ rs, r ∈ used) (hc : CollisionFree sha256 (usedInputs n used)) :
    ∀ r ∈ rs, namespaceKey sha256 r.cacheNamespace = namespaceKey sha256 n →
      r.cacheNamespace = n := by
  intro r hr hk
  exact namespaceKey_apart hc (h.valid r hr).cacheNamespace hn
    (used_record n (hsub r hr)).1 (used_lookup n used) hk

theorem lookup_ok_iff {t : SidecarTable} {rs used : List CacheRecord} (h : Content sha256 t rs)
    (hsub : ∀ r ∈ rs, r ∈ used) (reader : SqliteSidecarIndex) (n : CacheNamespace)
    (fp : SegmentFingerprint) (hc : CollisionFree sha256 (usedInputs n used))
    (out : List CacheRecord) :
    reader.lookup sha256 t n fp = .ok out ↔
      reader.closed = false ∧ NamespaceValid n ∧
        (bucketOf rs n fp).length ≤ maxCollisionBucketRecords ∧
        out = sortedBy recordOrder (bucketOf rs n fp) := by
  constructor
  · intro hl
    obtain ⟨hopen, hrest⟩ := (require_then_iff _ _ _ _).mp hl
    obtain ⟨u, hname, _⟩ := (checked_ok_iff _ _ _).mp hrest
    have hn := (require_ok_iff _ _ u).mp hname
    rw [lookup_eq hopen h n fp hn (other_namespaces h hn hsub hc)] at hl
    split_ifs at hl with hlimit
    cases hl
    exact ⟨hopen, hn, hlimit, rfl⟩
  · rintro ⟨hopen, hn, hlimit, rfl⟩
    rw [lookup_eq hopen h n fp hn (other_namespaces h hn hsub hc), if_pos hlimit]

theorem accepted_sublist (cs : List AddCall) :
    ∀ r ∈ cs.flatMap AddCall.accepted, r ∈ cs.flatMap AddCall.records := by
  intro r hr
  obtain ⟨c, hc, hr⟩ := List.mem_flatMap.mp hr
  unfold AddCall.accepted at hr
  split at hr
  · exact List.mem_flatMap.mpr ⟨c, hc, hr⟩
  · exact absurd hr List.not_mem_nil

theorem distinct_used (cs : List AddCall) :
    ∀ r ∈ distinctRecords cs, r ∈ cs.flatMap AddCall.records :=
  fun r hr => accepted_sublist cs r ((mem_distinctRecords cs r).mp hr)

theorem mem_distinctRecords_iff (cs : List AddCall) (r : CacheRecord) :
    r ∈ distinctRecords cs ↔ ∃ c ∈ cs, (∃ count, c.result = .ok count) ∧ r ∈ c.records := by
  rw [mem_distinctRecords, List.mem_flatMap]
  constructor
  · rintro ⟨c, hc, hr⟩
    unfold AddCall.accepted at hr
    split at hr
    · next count hok => exact ⟨c, hc, ⟨count, hok⟩, hr⟩
    · exact absurd hr List.not_mem_nil
  · rintro ⟨c, hc, ⟨count, hok⟩, hr⟩
    refine ⟨c, hc, ?_⟩
    unfold AddCall.accepted
    rwa [hok]

/-- What one call of a history returned and left behind. -/
structure Semantics (sha256 : Bytes → Digest) (writer : SqliteSidecarIndex) (earlier : List AddCall)
    (c : AddCall) (before after : SidecarTable) : Prop where
  counted : ∀ count, c.result = .ok count →
    count = (c.records.dedup.filter (fun r => r ∉ distinctRecords earlier)).length
  accepted : ∀ count, c.result = .ok count → BatchAccepted writer c.records
  rolledBack : ∀ e, c.result = .error e → after = before
  faultless : c.faults = .none → BatchAccepted writer c.records → ∃ count, c.result = .ok count

theorem content_apart {t : SidecarTable} {rs used : List CacheRecord} (h : Content sha256 t rs)
    {batch : List CacheRecord} (hv : ∀ r ∈ batch, RecordValid r)
    (hsub : ∀ r ∈ rs ++ batch, r ∈ used) {n : CacheNamespace}
    (hc : CollisionFree sha256 (usedInputs n used)) :
    ∀ r ∈ rs ++ batch, ∀ r' ∈ rs ++ batch,
      checksumOf sha256 r = checksumOf sha256 r' → r = r' := by
  have hvalid : ∀ r ∈ rs ++ batch, RecordValid r := by
    intro r hr
    obtain hr | hr := List.mem_append.mp hr
    · exact h.valid r hr
    · exact hv r hr
  intro r hr r' hr' hk
  exact checksum_apart hc (hvalid r hr) (hvalid r' hr') (used_record n (hsub r hr)).2
    (used_record n (hsub r' hr')).2 hk

theorem added_semantics {writer : SqliteSidecarIndex} {earlier : List AddCall} {c : AddCall}
    {before after : SidecarTable}
    (h : Run (Added sha256 writer) SidecarTable.empty earlier before)
    (hs : Added sha256 writer before c after) {n : CacheNamespace} {used : List CacheRecord}
    (hsub : ∀ r ∈ (earlier ++ [c]).flatMap AddCall.records, r ∈ used)
    (hc : CollisionFree sha256 (usedInputs n used)) :
    Semantics sha256 writer earlier c before after := by
  have hcontent := history_content h
  refine ⟨fun count hr => ?_, fun count hr => ?_, fun e hr => ?_, fun hf hb => ?_⟩
  · rw [(added_content hcontent hs).2 count hr]
    exact (firstBy_id_perm _ _).length_eq
  · unfold Added at hs
    rw [hr] at hs
    exact (addMany_ok hcontent hs).2.2
  · unfold Added at hs
    rw [hr] at hs
    exact addMany_raises hs
  · have hunder : ∀ r ∈ distinctRecords earlier ++ c.records, r ∈ used := by
      intro r hr
      rw [List.flatMap_append, List.flatMap_singleton] at hsub
      obtain hr | hr := List.mem_append.mp hr
      · exact hsub r (List.mem_append_left _ (distinct_used earlier r hr))
      · exact hsub r (List.mem_append_right _ hr)
    obtain ⟨count, t', hok⟩ := addMany_returns hb hcontent
      (content_apart hcontent hb.valid hunder hc)
    unfold Added at hs
    rw [hf, hok] at hs
    exact ⟨count, (congrArg Prod.fst hs).symm⟩

/-- Over any history of calls, the sidecar is the set of the distinct records
of the calls that returned: a lookup gives the bucket, each record once and in
order, and every call counts what it added. -/
theorem history_is_a_set (writer reader : SqliteSidecarIndex) (cs : List AddCall)
    (t : SidecarTable) (n : CacheNamespace) (fp : SegmentFingerprint)
    (h : Run (Added sha256 writer) SidecarTable.empty cs t)
    (hc : CollisionFree sha256 (usedInputs n (cs.flatMap AddCall.records)))
    (hopen : reader.closed = false) (hn : NamespaceValid n) :
    ((bucketOf (distinctRecords cs) n fp).length ≤ maxCollisionBucketRecords →
      ∃ out, reader.lookup sha256 t n fp = .ok out ∧ out.Nodup ∧
        (∀ r, r ∈ out ↔ r.cacheNamespace = n ∧ r.fingerprint = fp ∧
          ∃ c ∈ cs, (∃ count, c.result = .ok count) ∧ r ∈ c.records) ∧
        out = sortedBy recordOrder (bucketOf (distinctRecords cs) n fp)) ∧
    ∀ earlier c later, cs = earlier ++ c::later → ∃ before after,
      Run (Added sha256 writer) SidecarTable.empty earlier before ∧
        Added sha256 writer before c after ∧ Semantics sha256 writer earlier c before after := by
  refine ⟨fun hlimit => ⟨_, (lookup_ok_iff (history_content h) (distinct_used cs) reader n fp hc
    _).mpr ⟨hopen, hn, hlimit, rfl⟩, ?_, fun r => ?_, rfl⟩, fun earlier c later he => ?_⟩
  · rw [(sortedBy_perm _ _).nodup_iff]
    exact (firstBy_nodup id [] _).filter _
  · rw [mem_sortedBy, bucketOf, List.mem_filter, decide_eq_true_eq, mem_distinctRecords_iff]
    tauto
  · obtain ⟨before, after, hrun, hs⟩ := run_split h earlier c later he
    refine ⟨before, after, hrun, hs, added_semantics hrun hs (fun r hr => ?_) hc⟩
    rw [he, List.append_cons, List.flatMap_append]
    exact List.mem_append_left _ hr

end

/-! ## One chunk at many positions -/

/-- The word that ends 41 bytes before the end of a stream: the source end of
a record of one token. -/
def endWord (b : Bytes) : Bytes := (b.drop (b.length-49)).take 8

def endDigest (b : Bytes) : Digest :=
  ⟨bigEndian 32 (unpackBig (endWord b)), bigEndian_length _ _⟩

def chunkFingerprint : SegmentFingerprint := fingerprint endDigest exampleNamespace [0]

def positioned (i : ℕ) : CacheRecord :=
  ⟨exampleNamespace, chunkFingerprint, [0], ⟨i, i+1, Nat.le_succ i⟩, "k", List.cons_ne_nil 0 [],
    by simp [TokenRange.size], by decide⟩

theorem positioned_injective : Function.Injective positioned := by
  intro i j h
  exact congrArg (fun r => r.sourceRange.start) h

theorem positioned_valid {i : ℕ} (h : i < maxTokenPosition) : RecordValid (positioned i) where
  cacheNamespace := show NamespaceValid exampleNamespace by decide +kernel
  cacheKey := show BoundedText "k" maxCacheKeyBytes by decide
  tokens := show 1 ≤ maxTokensPerRecord by decide
  position := h

theorem endWord_append (pre word post : Bytes) (hw : word.length = 8) (hp : post.length = 41) :
    endWord (pre ++ word ++ post) = word := by
  have hdrop : (pre ++ word ++ post).length-49 = pre.length := by
    rw [List.length_append, List.length_append]
    omega
  rw [endWord, hdrop, List.append_assoc, List.drop_left, ← hw, List.take_left]

theorem positioned_stream (i : ℕ) : ∃ pre, preimage (recordInput (positioned i)) =
    pre ++ packU64 (i+1) ++ updateField "token_ids" (encodeTokenIds [0]) := by
  refine ⟨recordChecksumDomain ++ namespaceFields exampleNamespace ++
    updateField "fingerprint" chunkFingerprint.digest.val ++
    updateField "cache_key" (utf8 "k") ++ updateField "source_start" (packU64 i) ++
    (packU32 (utf8 "source_end").length ++ utf8 "source_end" ++
      packU64 (packU64 (i+1)).length), ?_⟩
  simp only [recordInput, preimage, positioned, updateField, List.append_assoc]

theorem endDigest_positioned {i : ℕ} (h : i < maxTokenPosition) :
    (endDigest (preimage (recordInput (positioned i)))).val = bigEndian 32 (i+1) := by
  have hpost : (updateField "token_ids" (encodeTokenIds [0])).length = 41 := by decide +kernel
  have hword : endWord (preimage (recordInput (positioned i))) = packU64 (i+1) := by
    obtain ⟨pre, hstream⟩ := positioned_stream i
    rw [hstream]
    exact endWord_append _ _ _ (bigEndian_length _ _) hpost
  have hvalue : unpackBig (packU64 (i+1)) = i+1 := by
    unfold maxTokenPosition at h
    exact unpackBig_bigEndian 8 (i+1) (by omega)
  exact congrArg (bigEndian 32) ((congrArg unpackBig hword).trans hvalue)

def published (count : ℕ) : List CacheRecord := (List.range count).map positioned

theorem published_nodup (count : ℕ) : (published count).Nodup :=
  List.nodup_range.map positioned_injective

theorem published_valid {count : ℕ} (h : count ≤ maxTokenPosition) :
    ∀ r ∈ published count, RecordValid r := by
  intro r hr
  obtain ⟨i, hi, rfl⟩ := List.mem_map.mp hr
  exact positioned_valid (lt_of_lt_of_le (List.mem_range.mp hi) h)

theorem published_collisionFree {count : ℕ} (h : count ≤ maxTokenPosition) :
    CollisionFree endDigest (usedInputs exampleNamespace (published count)) := by
  have hname : unpackBig (endWord (preimage (.namespaceKey exampleNamespace))) > 2^48 ∧
      unpackBig (endWord (preimage (.namespaceKey exampleNamespace))) < 2^64 := by
    decide +kernel
  have hused : ∀ input ∈ usedInputs exampleNamespace (published count),
      input = .namespaceKey exampleNamespace ∨
        ∃ i < maxTokenPosition, input = recordInput (positioned i) := by
    intro input hi
    obtain rfl | hi := List.mem_cons.mp hi
    · exact Or.inl rfl
    · obtain ⟨r, hr, hi⟩ := List.mem_flatMap.mp hi
      obtain ⟨i, hlt, rfl⟩ := List.mem_map.mp hr
      obtain rfl | hi := List.mem_cons.mp hi
      · exact Or.inl rfl
      · exact Or.inr ⟨i, lt_of_lt_of_le (List.mem_range.mp hlt) h, List.mem_singleton.mp hi⟩
  have hapart : ∀ i < maxTokenPosition,
      endDigest (preimage (.namespaceKey exampleNamespace)) ≠
        endDigest (preimage (recordInput (positioned i))) := by
    intro i hi he
    have hv := congrArg Subtype.val he
    rw [endDigest_positioned hi] at hv
    have hn := bigEndian_injective 32 _ _ (by omega) (by unfold maxTokenPosition at hi; omega) hv
    unfold maxTokenPosition at hi
    omega
  intro a ha b hb he
  obtain rfl | ⟨i, hi, rfl⟩ := hused a ha
  · obtain rfl | ⟨j, hj, rfl⟩ := hused b hb
    · rfl
    · exact absurd he (hapart j hj)
  · obtain rfl | ⟨j, hj, rfl⟩ := hused b hb
    · exact absurd he.symm (hapart i hi)
    · have hv := congrArg Subtype.val he
      rw [endDigest_positioned hi, endDigest_positioned hj] at hv
      unfold maxTokenPosition at hi hj
      have hn := bigEndian_injective 32 _ _ (by omega) (by omega) hv
      cases Nat.succ.inj hn
      rfl

def openWriter : SqliteSidecarIndex := ⟨.workerReadWrite, false⟩

theorem published_succ (count : ℕ) :
    published (count+1) = published count ++ [positioned count] := by
  rw [published, List.range_succ, List.map_append, List.map_singleton, published]

theorem published_added {t : SidecarTable} {rs batch : List CacheRecord} {count : ℕ}
    (h : Content endDigest t rs) (hall : rs ++ batch = published count)
    (hcount : count ≤ maxTokenPosition) (hb : batch.length ≤ maxRecordsPerTransaction) :
    ∃ t', Added endDigest openWriter t ⟨.none, batch, .ok batch.length⟩ t' ∧
      Content endDigest t' (published count) := by
  have hmem : ∀ r ∈ rs ++ batch, r ∈ published count := fun r hr => hall ▸ hr
  have hvalid : ∀ r ∈ batch, RecordValid r := fun r hr =>
    published_valid hcount r (hmem r (List.mem_append_right _ hr))
  have htokens : (batch.map (fun r => r.tokenIds.length)).sum = batch.length := by
    have hone : batch.map (fun r => r.tokenIds.length) = batch.map (fun _ => 1) := by
      apply List.map_congr_left
      intro r hr
      obtain ⟨i, _, rfl⟩ := List.mem_map.mp (hmem r (List.mem_append_right _ hr))
      rfl
    rw [hone, List.map_const', List.sum_replicate_nat, Nat.mul_one]
  have haccepted : BatchAccepted openWriter batch := by
    refine ⟨rfl, rfl, hvalid, hb, ?_⟩
    rw [htokens]
    exact hb.trans (by decide)
  obtain ⟨k, t', ht⟩ := addMany_returns haccepted h
    (content_apart h hvalid hmem (published_collisionFree hcount))
  obtain ⟨hcontent, hk, _⟩ := addMany_ok h ht
  have hnodup := hall ▸ published_nodup count
  have hnew : newRecords rs batch = batch := by
    obtain ⟨_, hbatch, hdisjoint⟩ := List.nodup_append.mp hnodup
    exact firstBy_fresh rs batch hbatch fun r hr hs => hdisjoint r hs r hr rfl
  rw [hnew] at hcontent hk
  rw [hall] at hcontent
  rw [hk] at ht
  exact ⟨t', ht, hcontent⟩

theorem published_bucket (count : ℕ) :
    bucketOf (published count) exampleNamespace chunkFingerprint = published count := by
  refine List.filter_eq_self.mpr fun r hr => ?_
  obtain ⟨i, _, rfl⟩ := List.mem_map.mp hr
  exact decide_eq_true ⟨rfl, rfl⟩

def left (t : SidecarTable) (c : AddCall) : SidecarTable :=
  (openWriter.addMany endDigest c.faults c.records t).2

theorem added_left {t : SidecarTable} {c : AddCall}
    (h : (openWriter.addMany endDigest c.faults c.records t).1 = c.result) :
    Added endDigest openWriter t c (left t c) := Prod.ext h rfl

def repeating : AddCall := ⟨.none, [positioned 2, positioned 0, positioned 2], .ok 2⟩

def rolledBack : AddCall :=
  ⟨{ SqliteFaults.none with commit := some .other }, [positioned 1, positioned 0],
    .error ⟨.operation, .sqliteOperationFailed⟩⟩

def overlapping : AddCall := ⟨.none, [positioned 0, positioned 1], .ok 1⟩

def repeatedWrites : List AddCall := [repeating, rolledBack, overlapping]

def repeatedTable : SidecarTable := left (left (left .empty repeating) rolledBack) overlapping

theorem repeatedWrites_run :
    Run (Added endDigest openWriter) SidecarTable.empty repeatedWrites repeatedTable := by
  have hfirst : (openWriter.addMany endDigest repeating.faults repeating.records .empty).1 =
      .ok 2 := by
    decide +kernel
  have hsecond : (openWriter.addMany endDigest rolledBack.faults rolledBack.records
      (left .empty repeating)).1 = .error ⟨.operation, .sqliteOperationFailed⟩ := by
    decide +kernel
  have hthird : (openWriter.addMany endDigest overlapping.faults overlapping.records
      (left (left .empty repeating) rolledBack)).1 = .ok 1 := by
    decide +kernel
  exact .snoc (.snoc (.snoc .nil (added_left hfirst)) (added_left hsecond)) (added_left hthird)

/-- The three positions are read once each, in their order. -/
theorem repeated_writes_read : ∃ t,
    Run (Added endDigest openWriter) SidecarTable.empty repeatedWrites t ∧
      openWriter.lookup endDigest t exampleNamespace chunkFingerprint = .ok (published 3) ∧
      ∀ earlier c later, repeatedWrites = earlier ++ c::later → ∃ before after,
        Added endDigest openWriter before c after ∧
          Semantics endDigest openWriter earlier c before after := by
  have hdistinct : bucketOf (distinctRecords repeatedWrites) exampleNamespace chunkFingerprint =
      [positioned 2, positioned 0, positioned 1] := by
    decide +kernel
  have hsorted : sortedBy recordOrder [positioned 2, positioned 0, positioned 1] = published 3 := by
    decide +kernel
  have hc : CollisionFree endDigest (usedInputs exampleNamespace
      (repeatedWrites.flatMap AddCall.records)) := by
    have hsub : ∀ r ∈ repeatedWrites.flatMap AddCall.records, r ∈ published 3 := by
      decide +kernel
    exact (published_collisionFree (by decide)).mono (usedInputs_subset exampleNamespace hsub)
  rcases history_is_a_set openWriter openWriter repeatedWrites _ exampleNamespace chunkFingerprint
    repeatedWrites_run hc rfl (by decide +kernel) with ⟨hreads, hcalls⟩
  rw [hdistinct, hsorted] at hreads
  rcases hreads (by decide) with ⟨out, hread, _, _, rfl⟩
  refine ⟨_, repeatedWrites_run, hread, fun earlier c later he => ?_⟩
  rcases hcalls earlier c later he with ⟨before, after, _, hadded, hsemantics⟩
  exact ⟨before, after, hadded, hsemantics⟩

end CacheBlend.SidecarHistories
