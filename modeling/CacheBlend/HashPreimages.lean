import CacheBlend.LmcacheTypes
import CacheBlend.PrefixCodes
import CacheBlend.SidecarRows

/-!
# Preimages of the digests

Four functions feed SHA-256: the segment fingerprint, the key of a namespace
in the sidecar, the checksum of a record and the digest of a query. Each
stream is a domain tag followed by readable parts, and no tag begins another,
so a stream determines its function and all its inputs.
-/

set_option autoImplicit false

namespace CacheBlend.HashPreimages
open CacheBlend.PlannerModels CacheBlend.SegmentFingerprints CacheBlend.LmcacheTypes
open CacheBlend.SidecarRows

inductive HashInput where
  | segment (n : CacheNamespace) (tokenIds : List TokenId)
  | namespaceKey (n : CacheNamespace)
  | record (n : CacheNamespace) (fp : SegmentFingerprint) (cacheKey : String)
      (sourceRange : TokenRange) (tokenIds : List TokenId)
  | query (tokenIds : List TokenId)
  deriving DecidableEq

def preimage : HashInput → Bytes
  | .segment n tokenIds =>
    fingerprintDomain ++ namespaceBytes n ++ lengthPrefix (canonicalTokenBytes tokenIds)
  | .namespaceKey n => namespaceKeyDomain ++ namespaceFields n
  | .record n fp cacheKey sourceRange tokenIds =>
    recordChecksumDomain ++ namespaceFields n ++ updateField "fingerprint" fp.digest.val ++
      updateField "cache_key" (utf8 cacheKey) ++
      updateField "source_start" (packU64 sourceRange.start) ++
      updateField "source_end" (packU64 sourceRange.stop) ++
      updateField "token_ids" (encodeTokenIds tokenIds)
  | .query tokenIds => queryDomain ++ tokenBytes tokenIds

def NamespaceAdmitted (n : CacheNamespace) : Prop :=
  ∀ field ∈ n.canonicalFields, (utf8 field.2).length < 2^64

instance (n : CacheNamespace) : Decidable (NamespaceAdmitted n) :=
  inferInstanceAs (Decidable (∀ _ ∈ _, _))

/-- Every packed number fits its word; `struct.pack` raises for any other. -/
def Admitted : HashInput → Prop
  | .segment n tokenIds =>
    NamespaceAdmitted n ∧ (canonicalTokenBytes tokenIds).length < 2^64
  | .namespaceKey n => NamespaceAdmitted n
  | .record n _ cacheKey sourceRange tokenIds =>
    NamespaceAdmitted n ∧ (utf8 cacheKey).length < 2^64 ∧ sourceRange.stop < 2^64 ∧
      (encodeTokenIds tokenIds).length < 2^64
  | .query tokenIds => tokenIds.length < 2^64

/-! ## Readable parts -/

theorem canonicalFields_injective : Function.Injective CacheNamespace.canonicalFields := by
  intro n n' h
  obtain ⟨v, a, b, c, d, e, f, g, i, j, k, l, _⟩ := n
  obtain ⟨v', a', b', c', d', e', f', g', i', j', k', l', _⟩ := n'
  simp only [CacheNamespace.canonicalFields, List.cons.injEq, Prod.mk.injEq, true_and,
    and_true, ← Subtype.ext_iff] at h
  obtain ⟨hv, rfl, rfl, rfl, rfl, rfl, rfl, rfl, rfl, rfl, rfl, rfl⟩ := h
  cases decimal_injective hv
  rfl

def fieldNames : List String :=
  ["schema_version", "model_id", "model_revision", "tokenizer_id", "tokenizer_revision",
    "model_config_digest", "kv_cache_config_digest", "adapter_revision", "vllm_version",
    "lmcache_version", "torch_version", "cuda_runtime"]

theorem fieldNames_short : ∀ name ∈ fieldNames, (utf8 name).length < 2^32 := by
  decide +kernel

theorem fieldNames_admitted (n : CacheNamespace) :
    ∀ field ∈ n.canonicalFields, (utf8 field.1).length < 2^32 := by
  have hn : n.canonicalFields.map Prod.fst = fieldNames := rfl
  exact fun field hf => fieldNames_short field.1 (hn ▸ List.mem_map_of_mem hf)

theorem canonicalFields_length (n : CacheNamespace) : n.canonicalFields.length = 12 := rfl

theorem readable_namespace {P : String × String → Prop} {encode : String × String → Bytes}
    (h : Readable P encode) :
    Readable (fun n : CacheNamespace => ∀ field ∈ n.canonicalFields, P field)
      (fun n => n.canonicalFields.flatMap encode) := by
  intro n n' rest rest' hn hn' he
  obtain ⟨hf, hr⟩ := readable_sequence h n.canonicalFields n'.canonicalFields rest rest'
    ((canonicalFields_length n).trans (canonicalFields_length n').symm) hn hn' he
  exact ⟨canonicalFields_injective hf, hr⟩

theorem readable_namespaceBytes : Readable NamespaceAdmitted namespaceBytes := by
  intro n n' rest rest' hn hn' he
  have hname : ∀ n : CacheNamespace, ∀ field ∈ n.canonicalFields, (utf8 field.1).length < 2^64 :=
    fun n field hf => (fieldNames_admitted n field hf).trans (by decide)
  exact readable_namespace (readable_pair readable_text readable_text) n n' rest rest'
    (fun field hf => ⟨hname n field hf, hn field hf⟩)
    (fun field hf => ⟨hname n' field hf, hn' field hf⟩) he

theorem readable_updateField (name : String) :
    Readable (fun value : Bytes => value.length < 2^64) (updateField name) := by
  intro a b rest rest' ha hb he
  simp only [updateField, List.append_assoc, List.append_cancel_left_eq] at he
  refine readable_counted readable_packU64 a b rest rest' ha hb ?_
  simp only [List.append_assoc]
  exact he

theorem readable_fields :
    Readable (fun field : String × String => (utf8 field.1).length < 2^32 ∧
        (utf8 field.2).length < 2^64) (fun field => updateField field.1 (utf8 field.2)) := by
  intro a b rest rest' ha hb he
  have hname : Readable (fun s : String => (utf8 s).length < 2^32)
      (fun s => packU32 (utf8 s).length ++ utf8 s) :=
    readable_map (readable_counted readable_packU32) utf8 utf8_injective
  refine readable_pair hname readable_text a b rest rest' ha hb ?_
  simp only [updateField, List.append_assoc] at he ⊢
  exact he

theorem readable_namespaceFields : Readable NamespaceAdmitted namespaceFields := by
  intro n n' rest rest' hn hn' he
  exact readable_namespace readable_fields n n' rest rest'
    (fun field hf => ⟨fieldNames_admitted n field hf, hn field hf⟩)
    (fun field hf => ⟨fieldNames_admitted n' field hf, hn' field hf⟩) he

theorem readable_word : Readable (fun _ => True) (fun t : TokenId => packU64 t.val) := by
  intro t t' rest rest' _ _ he
  have ht : ∀ t : TokenId, t.val < 2^64 := fun t => lt_of_lt_of_eq t.isLt (by decide)
  obtain ⟨hv, hr⟩ := readable_packU64 t.val t'.val rest rest' (ht t) (ht t') he
  exact ⟨Fin.ext hv, hr⟩

theorem readable_tokenBytes :
    Readable (fun ts : List TokenId => ts.length < 2^64) tokenBytes := by
  intro ts ts' rest rest' ht ht' he
  exact readable_countedSequence readable_packU64 readable_word ts ts' rest rest'
    ⟨ht, fun _ _ => trivial⟩ ⟨ht', fun _ _ => trivial⟩ he

theorem tokenBytes_length (ts : List TokenId) : ts.length ≤ (tokenBytes ts).length := by
  have hw : ts.length ≤ (ts.flatMap (fun t => packU64 t.val)).length := by
    induction ts with
    | nil => exact le_refl _
    | cons t ts ih =>
      rw [List.flatMap_cons, List.length_append, packU64, bigEndian_length, List.length_cons]
      omega
  rw [tokenBytes, List.length_append]
  omega

theorem readable_tokenBlob :
    Readable (fun ts : List TokenId => (encodeTokenIds ts).length < 2^64) encodeTokenIds := by
  intro ts ts' rest rest' ht ht' he
  rw [encodeTokenIds_length] at ht ht'
  simp only [encodeTokenIds, List.append_assoc, List.append_cancel_left_eq] at he
  refine readable_tokenBytes ts ts' rest rest' (by omega) (by omega) ?_
  simp only [tokenBytes, List.append_assoc]
  exact he

/-! ## The four streams -/

theorem segment_injective {n n' : CacheNamespace} {ts ts' : List TokenId}
    (h : Admitted (.segment n ts)) (h' : Admitted (.segment n' ts'))
    (he : preimage (.segment n ts) = preimage (.segment n' ts')) : n = n' ∧ ts = ts' := by
  simp only [preimage, List.append_assoc, List.append_cancel_left_eq] at he
  obtain ⟨hn, he⟩ := readable_namespaceBytes n n' _ _ h.1 h'.1 he
  have hc := readable_injective (readable_counted readable_packU64) h.2 h'.2 he
  rw [canonicalTokenBytes, canonicalTokenBytes, List.append_cancel_left_eq] at hc
  have hlen : ∀ ts, (canonicalTokenBytes ts).length < 2^64 → ts.length < 2^64 := by
    intro ts ht
    rw [canonicalTokenBytes, List.length_append] at ht
    have hle := tokenBytes_length ts
    omega
  exact ⟨hn, readable_injective readable_tokenBytes (hlen ts h.2) (hlen ts' h'.2) hc⟩

theorem namespaceKey_injective {n n' : CacheNamespace} (h : NamespaceAdmitted n)
    (h' : NamespaceAdmitted n')
    (he : preimage (.namespaceKey n) = preimage (.namespaceKey n')) : n = n' := by
  simp only [preimage, List.append_cancel_left_eq] at he
  exact readable_injective readable_namespaceFields h h' he

theorem record_injective {n n' : CacheNamespace} {fp fp' : SegmentFingerprint}
    {key key' : String} {range range' : TokenRange} {ts ts' : List TokenId}
    (h : Admitted (.record n fp key range ts)) (h' : Admitted (.record n' fp' key' range' ts'))
    (he : preimage (.record n fp key range ts) = preimage (.record n' fp' key' range' ts')) :
    n = n' ∧ fp = fp' ∧ key = key' ∧ range = range' ∧ ts = ts' := by
  obtain ⟨hn, hk, hs, ht⟩ := h
  obtain ⟨hn', hk', hs', ht'⟩ := h'
  have hdigest : ∀ fp : SegmentFingerprint, fp.digest.val.length < 2^64 := by
    intro fp
    rw [fp.digest.property]
    decide
  have hword : ∀ k : ℕ, (packU64 k).length < 2^64 := by
    intro k
    rw [packU64, bigEndian_length]
    decide
  have ho := range.ordered
  have ho' := range'.ordered
  simp only [preimage, List.append_assoc, List.append_cancel_left_eq] at he
  obtain ⟨hnamespace, he⟩ := readable_namespaceFields n n' _ _ hn hn' he
  obtain ⟨hfp, he⟩ := readable_updateField _ _ _ _ _ (hdigest fp) (hdigest fp') he
  obtain ⟨hkey, he⟩ := readable_updateField _ _ _ _ _ hk hk' he
  obtain ⟨hstart, he⟩ := readable_updateField _ _ _ _ _ (hword _) (hword _) he
  obtain ⟨hstop, he⟩ := readable_updateField _ _ _ _ _ (hword _) (hword _) he
  have hblob := readable_injective (readable_updateField "token_ids") ht ht' he
  have hstart := readable_injective readable_packU64 (by omega) (by omega) hstart
  have hstop := readable_injective readable_packU64 hs hs' hstop
  refine ⟨hnamespace, ?_, utf8_injective hkey, (TokenRange.ext_iff' _ _).mpr ⟨hstart, hstop⟩,
    readable_injective readable_tokenBlob ht ht' hblob⟩
  cases fp
  cases fp'
  exact congrArg SegmentFingerprint.mk (Subtype.ext hfp)

theorem query_injective {ts ts' : List TokenId} (h : ts.length < 2^64) (h' : ts'.length < 2^64)
    (he : preimage (.query ts) = preimage (.query ts')) : ts = ts' := by
  simp only [preimage, List.append_cancel_left_eq] at he
  exact readable_injective readable_tokenBytes h h' he

def domainTag : HashInput → Bytes
  | .segment .. => fingerprintDomain
  | .namespaceKey .. => namespaceKeyDomain
  | .record .. => recordChecksumDomain
  | .query .. => queryDomain

theorem tag_begins (i : HashInput) : domainTag i <+: preimage i := by
  cases i <;> simp only [preimage, domainTag, List.append_assoc, List.prefix_append]

theorem tags_apart : ∀ a ∈ [fingerprintDomain, namespaceKeyDomain, recordChecksumDomain,
    queryDomain], ∀ b ∈ [fingerprintDomain, namespaceKeyDomain, recordChecksumDomain,
    queryDomain], a <+: b → a = b := by
  decide +kernel

theorem domainTag_eq {i j : HashInput} (h : preimage i = preimage j) :
    domainTag i = domainTag j := by
  have hi : ∀ i, domainTag i ∈ [fingerprintDomain, namespaceKeyDomain, recordChecksumDomain,
      queryDomain] := by
    intro i
    cases i <;> simp [domainTag]
  obtain hp | hp := List.prefix_or_prefix_of_prefix (tag_begins i) (h ▸ tag_begins j)
  · exact tags_apart _ (hi i) _ (hi j) hp
  · exact (tags_apart _ (hi j) _ (hi i) hp).symm

/-- Each digest is of the preimage of its inputs, and the preimage determines
the function and all inputs that it admits. -/
theorem hash_preimages_injective :
    (∀ (sha256 : Bytes → Digest) (n : CacheNamespace) (ts : List TokenId)
        (fp : SegmentFingerprint) (key : String) (range : TokenRange),
      fingerprint sha256 n ts = ⟨sha256 (preimage (.segment n ts))⟩ ∧
      namespaceKey sha256 n = sha256 (preimage (.namespaceKey n)) ∧
      recordChecksum sha256 n fp.digest.val key range.start range.stop (encodeTokenIds ts) =
        sha256 (preimage (.record n fp key range ts)) ∧
      queryDigest sha256 ts = sha256 (preimage (.query ts))) ∧
    ∀ i j : HashInput, Admitted i → Admitted j → preimage i = preimage j → i = j := by
  refine ⟨fun _ _ _ _ _ _ => ⟨rfl, rfl, rfl, rfl⟩, fun i j hi hj he => ?_⟩
  have htag := domainTag_eq he
  have hapart : [fingerprintDomain, namespaceKeyDomain, recordChecksumDomain,
      queryDomain].Nodup := by decide +kernel
  simp only [List.nodup_cons, List.mem_cons, List.not_mem_nil, or_false, not_or] at hapart
  obtain ⟨⟨h1, h2, h3⟩, ⟨h4, h5⟩, h6, _⟩ := hapart
  cases i with
  | segment n ts =>
    cases j with
    | segment n' ts' =>
      obtain ⟨rfl, rfl⟩ := segment_injective hi hj he
      rfl
    | namespaceKey n' => exact absurd htag h1
    | record n' fp' key' range' ts' => exact absurd htag h2
    | query ts' => exact absurd htag h3
  | namespaceKey n =>
    cases j with
    | segment n' ts' => exact absurd htag.symm h1
    | namespaceKey n' => rw [namespaceKey_injective hi hj he]
    | record n' fp' key' range' ts' => exact absurd htag h4
    | query ts' => exact absurd htag h5
  | record n fp key range ts =>
    cases j with
    | segment n' ts' => exact absurd htag.symm h2
    | namespaceKey n' => exact absurd htag.symm h4
    | record n' fp' key' range' ts' =>
      obtain ⟨rfl, rfl, rfl, rfl, rfl⟩ := record_injective hi hj he
      rfl
    | query ts' => exact absurd htag h6
  | query ts =>
    cases j with
    | segment n' ts' => exact absurd htag.symm h3
    | namespaceKey n' => exact absurd htag.symm h5
    | record n' fp' key' range' ts' => exact absurd htag.symm h6
    | query ts' => rw [query_injective hi hj he]

/-- One more token gives another preimage. -/
theorem longer_query_apart : preimage (.query [0]) ≠ preimage (.query [0, 0]) := by
  intro h
  have hone : Admitted (.query [0]) := show 1 < 2^64 by decide
  have htwo : Admitted (.query [0, 0]) := show 2 < 2^64 by decide
  exact absurd (hash_preimages_injective.2 _ _ hone htwo h) (by decide)

end CacheBlend.HashPreimages
