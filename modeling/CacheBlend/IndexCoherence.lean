import CacheBlend.MatchResponses

/-!
# Coherence of the two dictionaries of the matcher

The index by hash and the buckets by first token describe one map. A removal
keeps that. A registration keeps it exactly when the chunks that it puts
under one hash begin with one token: the check for conflicts looks only at
the entries that were there before the call.
-/

set_option autoImplicit false

namespace CacheBlend.IndexCoherence
open CacheBlend.ExactMatcher CacheBlend.MatchResponses

section
variable {chunkSize : ℕ}

/-- A bucket entry is an entry by hash whose chunk begins with the bucket's token. -/
def Linked (m : TokenRangeMatcher chunkSize) : Prop :=
  ∀ first h c, (m.bucket first).get? h = some c ↔ m.byHash.get? h = some c ∧ c.first = first

structure Coherent (m : TokenRangeMatcher chunkSize) : Prop where
  linked : Linked m
  nonempty : ∀ first bucket, m.byFirstToken.get? first = some bucket → bucket.size ≠ 0
  bounded : m.byHash.size ≤ exactIndexLimit

theorem chunk_positive {tokenHashes : List Bytes} (h : 0 < chunkSize ∧ [] ∉ tokenHashes) :
    0 < chunkSize := h.1

/-- `patched_on_new_token_hashes` statement by statement. -/
def registerCall (tokenIds : List ℤ) (tokenHashes : List Bytes) :
    Call (TokenRangeMatcher chunkSize) RuntimeError PUnit :=
  if hc : 0 < chunkSize ∧ [] ∉ tokenHashes then do
    Call.lift (require (tokenHashes.length = tokenIds.length/chunkSize)
      ⟨"LMCache exact matcher chunk/hash count mismatch"⟩)
    let additions ← Call.lift (additionsFrom (chunk_positive hc) tokenIds 0 tokenHashes)
    let m ← Call.read
    Call.lift (require (m.byHash.size+(newHashes m additions).length ≤ exactIndexLimit)
      ⟨"LMCache exact matcher capacity exceeded"⟩)
    Call.lift (require (∀ a ∈ additions, ∀ existing ∈ m.byHash.get? a.tokenHash,
      existing = a.chunk) ⟨"LMCache exact matcher hash identity conflict"⟩)
    additions.forM (fun a => Call.modify (·.add a))
  else Call.raise ⟨"LMCache exact matcher received invalid chunk data"⟩

/-- `patched_remove_chunks` statement by statement. -/
def removeCall (tokenHashes : List Bytes) :
    Call (TokenRangeMatcher chunkSize) RuntimeError PUnit := do
  Call.lift (require ([] ∉ tokenHashes)
    ⟨"LMCache exact matcher received invalid eviction hashes"⟩)
  tokenHashes.forM (fun h => Call.modify (·.remove h))

def performCall : MatcherCall → Call (TokenRangeMatcher chunkSize) RuntimeError PUnit
  | .onNewTokenHashes tokenIds tokenHashes => registerCall tokenIds tokenHashes
  | .removeChunks tokenHashes => removeCall tokenHashes

/-- A call with what it gave: it returned, or it raised. -/
structure MatcherEvent where
  call : MatcherCall
  result : Except RuntimeError PUnit

def Performed (m : TokenRangeMatcher chunkSize) (e : MatcherEvent)
    (m' : TokenRangeMatcher chunkSize) : Prop :=
  performCall e.call m = (e.result, m')

def Uniform (chunkSize : ℕ) : MatcherCall → Prop
  | .onNewTokenHashes tokenIds tokenHashes => ∀ i j h, tokenHashes[i]? = some h →
      tokenHashes[j]? = some h → tokenIds[i*chunkSize]? = tokenIds[j*chunkSize]?
  | .removeChunks _ => True

/-! ## Calls as functions of the index -/

theorem performCall_eq (c : MatcherCall) (m : TokenRangeMatcher chunkSize) :
    performCall c m = Call.outcome m (m.perform c) := by
  cases c with
  | onNewTokenHashes tokenIds tokenHashes =>
    dsimp only [performCall, TokenRangeMatcher.perform]
    unfold registerCall TokenRangeMatcher.onNewTokenHashes
    split_ifs with hc
    · refine Call.lift_bind_outcome _ _ _ m fun _ => ?_
      refine Call.lift_bind_outcome _ _ _ m fun additions => ?_
      rw [Call.read_bind]
      refine Call.lift_bind_outcome _ _ _ m fun _ => ?_
      refine Call.lift_bind_outcome _ _ _ m fun _ => ?_
      exact Call.modify_forM TokenRangeMatcher.add additions m
    · rfl
  | removeChunks tokenHashes =>
    dsimp only [performCall, TokenRangeMatcher.perform]
    unfold removeCall TokenRangeMatcher.removeChunks
    by_cases hn : [] ∈ tokenHashes
    · rw [if_pos hn, require_not _ (not_not.mpr hn)]
      rfl
    · rw [if_neg hn, require_of _ hn]
      exact Call.modify_forM TokenRangeMatcher.remove tokenHashes m

theorem performed_iff (m m' : TokenRangeMatcher chunkSize) (e : MatcherEvent) :
    Performed m e m' ↔ (e.result = .ok ⟨⟩ ∧ m.perform e.call = .ok m') ∨
      ∃ error, e.result = .error error ∧ m.perform e.call = .error error ∧ m' = m := by
  unfold Performed
  rw [performCall_eq]
  cases m.perform e.call with
  | ok m₁ => simp [Call.outcome, eq_comm]
  | error error => simp [Call.outcome, eq_comm]

/-! ## One entry -/

theorem bucket_add (m : TokenRangeMatcher chunkSize) (a : Addition chunkSize) (first : ℤ) :
    (m.add a).bucket first = if first = a.chunk.first then
      (m.bucket first).set a.tokenHash a.chunk else m.bucket first := by
  unfold TokenRangeMatcher.add
  conv_lhs => unfold TokenRangeMatcher.bucket
  dsimp only
  rw [Dict.get?_set]
  split_ifs with hf
  · rw [hf]
    rfl
  · rfl

theorem bucket_of {m : TokenRangeMatcher chunkSize} {first : ℤ} {bucket : Bucket chunkSize}
    (h : m.byFirstToken.get? first = some bucket) : m.bucket first = bucket := by
  unfold TokenRangeMatcher.bucket
  rw [h]
  rfl

theorem bucketed_of_linked {m : TokenRangeMatcher chunkSize} (hm : Linked m) : Bucketed m := by
  intro first bucket h c hb hc
  exact ((hm first h c).mp (by rwa [bucket_of hb])).2

theorem linked_initial : Linked (TokenRangeMatcher.initial chunkSize) := by
  intro first h c
  constructor
  · intro hb
    cases hb
  · rintro ⟨hb, _⟩
    cases hb

theorem linked_add {m : TokenRangeMatcher chunkSize} (hm : Linked m) (a : Addition chunkSize)
    (ha : ∀ existing ∈ m.byHash.get? a.tokenHash, existing.first = a.chunk.first) :
    Linked (m.add a) := by
  intro first h c
  have hbyHash : (m.add a).byHash = m.byHash.set a.tokenHash a.chunk := rfl
  rw [bucket_add, hbyHash, Dict.get?_set]
  by_cases hh : h = a.tokenHash
  · subst hh
    rw [if_pos rfl]
    split_ifs with hf
    · rw [Dict.get?_set_self]
      constructor
      · intro hc
        cases hc
        exact ⟨rfl, hf.symm⟩
      · exact fun hc => hc.1
    · rw [hm]
      constructor
      · rintro ⟨hc, rfl⟩
        exact absurd (ha c hc) hf
      · rintro ⟨hc, hfirst⟩
        cases hc
        exact absurd hfirst.symm hf
  · rw [if_neg hh]
    split_ifs with hf
    · rw [Dict.get?_set_ne _ _ hh]
      exact hm first h c
    · exact hm first h c

theorem linked_foldl (additions : List (Addition chunkSize)) {m : TokenRangeMatcher chunkSize}
    (hm : Linked m)
    (ha : ∀ a ∈ additions, ∀ existing ∈ m.byHash.get? a.tokenHash,
      existing.first = a.chunk.first)
    (hu : ∀ a ∈ additions, ∀ b ∈ additions, a.tokenHash = b.tokenHash →
      a.chunk.first = b.chunk.first) : Linked (additions.foldl TokenRangeMatcher.add m) := by
  induction additions generalizing m with
  | nil => exact hm
  | cons a rest ih =>
    refine ih (linked_add hm a (ha a List.mem_cons_self)) (fun b hb existing he => ?_)
      fun b hb c hc => hu b (List.mem_cons_of_mem _ hb) c (List.mem_cons_of_mem _ hc)
    change (m.byHash.set a.tokenHash a.chunk).get? b.tokenHash = some existing at he
    rw [Dict.get?_set] at he
    split_ifs at he with hh
    · cases he
      exact hu a List.mem_cons_self b (List.mem_cons_of_mem _ hb) hh.symm
    · exact ha b (List.mem_cons_of_mem _ hb) existing he

theorem bucket_keys_add {m : TokenRangeMatcher chunkSize} (a : Addition chunkSize) {first : ℤ}
    {h : Bytes} (hk : h ∈ (m.bucket first).keys) : h ∈ ((m.add a).bucket first).keys := by
  rw [bucket_add]
  split_ifs
  · exact (Dict.mem_keys_set _ _ _ _).mpr (Or.inr hk)
  · exact hk

theorem bucket_keys_foldl (additions : List (Addition chunkSize))
    {m : TokenRangeMatcher chunkSize} {first : ℤ} {h : Bytes} (hk : h ∈ (m.bucket first).keys) :
    h ∈ ((additions.foldl TokenRangeMatcher.add m).bucket first).keys := by
  induction additions generalizing m with
  | nil => exact hk
  | cons a rest ih => exact ih (bucket_keys_add a hk)

theorem added_keys (additions : List (Addition chunkSize)) (m : TokenRangeMatcher chunkSize) :
    ∀ a ∈ additions,
      a.tokenHash ∈ ((additions.foldl TokenRangeMatcher.add m).bucket a.chunk.first).keys := by
  induction additions generalizing m with
  | nil => exact fun a ha => absurd ha List.not_mem_nil
  | cons b rest ih =>
    intro a ha
    obtain rfl | ha := List.mem_cons.mp ha
    · refine bucket_keys_foldl rest ?_
      rw [bucket_add, if_pos rfl]
      exact (Dict.mem_keys_set _ _ _ _).mpr (Or.inl rfl)
    · exact ih (m.add b) a ha

theorem uniform_of_linked (additions : List (Addition chunkSize)) {m : TokenRangeMatcher chunkSize}
    (h : Linked (additions.foldl TokenRangeMatcher.add m)) :
    ∀ a ∈ additions, ∀ b ∈ additions, a.tokenHash = b.tokenHash →
      a.chunk.first = b.chunk.first := by
  intro a ha b hb he
  obtain ⟨c, hc⟩ := (Dict.mem_keys _ _).mp (added_keys additions m a ha)
  obtain ⟨d, hd⟩ := (Dict.mem_keys _ _).mp (added_keys additions m b hb)
  obtain ⟨hc, hcf⟩ := (h _ _ _).mp hc
  obtain ⟨hd, hdf⟩ := (h _ _ _).mp hd
  rw [he] at hc
  rw [← hcf, ← hdf, Option.some.inj (hc.symm.trans hd)]

/-! ## Empty buckets and the size of the index -/

def NoEmptyBucket (m : TokenRangeMatcher chunkSize) : Prop :=
  ∀ first bucket, m.byFirstToken.get? first = some bucket → bucket.size ≠ 0

theorem set_size_ne_zero {κ ν : Type*} [DecidableEq κ] (d : Dict κ ν) (k : κ) (v : ν) :
    (d.set k v).size ≠ 0 := by
  have hk : k ∈ (d.set k v).keys := (Dict.mem_keys_set d k k v).mpr (Or.inl rfl)
  intro h
  rw [Dict.keys, List.eq_nil_of_length_eq_zero h] at hk
  exact absurd hk List.not_mem_nil

theorem noEmptyBucket_add {m : TokenRangeMatcher chunkSize} (hm : NoEmptyBucket m)
    (a : Addition chunkSize) : NoEmptyBucket (m.add a) := by
  intro first bucket hb
  unfold TokenRangeMatcher.add at hb
  dsimp only at hb
  rw [Dict.get?_set] at hb
  split_ifs at hb
  · cases hb
    exact set_size_ne_zero _ _ _
  · exact hm first bucket hb

theorem noEmptyBucket_remove {m : TokenRangeMatcher chunkSize} (hm : NoEmptyBucket m)
    (tokenHash : Bytes) : NoEmptyBucket (m.remove tokenHash) := by
  unfold TokenRangeMatcher.remove
  cases hr : m.byHash.get? tokenHash with
  | none => exact hm
  | some removed =>
    dsimp only
    cases hg : m.byFirstToken.get? removed.first with
    | none => exact hm
    | some old =>
      intro first bucket hb
      dsimp only at hb
      split_ifs at hb with hs
      · rw [Dict.get?_erase] at hb
        split_ifs at hb
        exact hm first bucket hb
      · rw [Dict.get?_set] at hb
        split_ifs at hb
        · cases hb
          exact hs
        · exact hm first bucket hb

theorem foldl_add_keys (additions : List (Addition chunkSize)) (m : TokenRangeMatcher chunkSize)
    (h : Bytes) : h ∈ (additions.foldl TokenRangeMatcher.add m).byHash.keys ↔
      h ∈ m.byHash.keys ∨ h ∈ additions.map Addition.tokenHash := by
  induction additions generalizing m with
  | nil => simp
  | cons a rest ih =>
    have hk : h ∈ (m.add a).byHash.keys ↔ h = a.tokenHash ∨ h ∈ m.byHash.keys :=
      Dict.mem_keys_set _ _ _ _
    rw [List.foldl_cons, ih, hk, List.map_cons, List.mem_cons]
    tauto

theorem foldl_add_size (additions : List (Addition chunkSize)) (m : TokenRangeMatcher chunkSize) :
    (additions.foldl TokenRangeMatcher.add m).byHash.size ≤
      m.byHash.size+(newHashes m additions).length := by
  have hsub : (additions.foldl TokenRangeMatcher.add m).byHash.keys ⊆
      m.byHash.keys ++ newHashes m additions := by
    intro h hh
    rw [List.mem_append, newHashes, List.mem_filter, List.mem_dedup, decide_eq_true_eq]
    obtain hk | hn := (foldl_add_keys additions m h).mp hh
    · exact Or.inl hk
    · by_cases hk : h ∈ m.byHash.keys
      · exact Or.inl hk
      · exact Or.inr ⟨hn, hk⟩
  have hle := (List.subperm_of_subset (Dict.keys_nodup _) hsub).length_le
  simpa [Dict.keys, Dict.size] using hle

theorem erase_size_le {κ ν : Type*} [DecidableEq κ] (d : Dict κ ν) (k : κ) :
    (d.erase k).size ≤ d.size :=
  List.length_filter_le _ _

theorem remove_byHash (m : TokenRangeMatcher chunkSize) (tokenHash h : Bytes) :
    (m.remove tokenHash).byHash.get? h =
      if h = tokenHash then none else m.byHash.get? h := by
  unfold TokenRangeMatcher.remove
  cases hr : m.byHash.get? tokenHash with
  | none =>
    dsimp only
    split_ifs with hh
    · rw [hh, hr]
    · rfl
  | some removed =>
    dsimp only
    cases m.byFirstToken.get? removed.first <;> exact Dict.get?_erase _ _ _

theorem remove_size_le (m : TokenRangeMatcher chunkSize) (tokenHash : Bytes) :
    (m.remove tokenHash).byHash.size ≤ m.byHash.size := by
  unfold TokenRangeMatcher.remove
  cases m.byHash.get? tokenHash with
  | none => exact le_refl _
  | some removed =>
    dsimp only
    cases m.byFirstToken.get? removed.first <;> exact erase_size_le _ _

/-! ## Removal -/

theorem get?_of_size_zero {κ ν : Type*} [DecidableEq κ] {d : Dict κ ν} (h : d.size = 0) (k : κ) :
    d.get? k = none := by
  rw [Dict.get?_none, Dict.keys, List.eq_nil_of_length_eq_zero h]
  exact List.not_mem_nil

theorem bucket_remove {m : TokenRangeMatcher chunkSize} {tokenHash : Bytes}
    {removed : StoredChunk chunkSize} (hr : m.byHash.get? tokenHash = some removed) (first : ℤ)
    (h : Bytes) : ((m.remove tokenHash).bucket first).get? h =
      if first = removed.first ∧ h = tokenHash then none else (m.bucket first).get? h := by
  unfold TokenRangeMatcher.remove
  rw [hr]
  dsimp only
  cases hg : m.byFirstToken.get? removed.first with
  | none =>
    have hsame : (m.bucket removed.first).get? tokenHash = none := by
      unfold TokenRangeMatcher.bucket
      rw [hg]
      rfl
    split_ifs with hc
    · rw [hc.1, hc.2]
      exact hsame
    · rfl
  | some old =>
    have hold := bucket_of hg
    by_cases hf : first = removed.first
    · subst hf
      have herase : (old.erase tokenHash).get? h = if h = tokenHash then none else old.get? h :=
        Dict.get?_erase _ _ _
      conv_lhs => unfold TokenRangeMatcher.bucket
      dsimp only
      rw [hold]
      simp only [true_and]
      rw [← herase]
      split_ifs with hs
      · rw [Dict.get?_erase_self, get?_of_size_zero hs]
        rfl
      · rw [Dict.get?_set_self]
        rfl
    · rw [if_neg (fun hc => hf hc.1)]
      unfold TokenRangeMatcher.bucket
      dsimp only
      congr 2
      split_ifs
      · exact Dict.get?_erase_ne _ hf
      · exact Dict.get?_set_ne _ _ hf

theorem linked_remove {m : TokenRangeMatcher chunkSize} (hm : Linked m) (tokenHash : Bytes) :
    Linked (m.remove tokenHash) := by
  cases hr : m.byHash.get? tokenHash with
  | none =>
    have hsame : m.remove tokenHash = m := by
      unfold TokenRangeMatcher.remove
      rw [hr]
    rw [hsame]
    exact hm
  | some removed =>
    intro first h c
    rw [bucket_remove hr, remove_byHash]
    by_cases hh : h = tokenHash
    · subst hh
      rw [if_pos rfl]
      split_ifs with hf
      · simp
      · constructor
        · intro hb
          obtain ⟨hc, rfl⟩ := (hm first h c).mp hb
          cases hr.symm.trans hc
          exact absurd ⟨rfl, rfl⟩ hf
        · rintro ⟨hc, _⟩
          cases hc
    · rw [if_neg (fun hc => hh hc.2), if_neg hh]
      exact hm first h c

/-! ## Calls -/

theorem coherent_initial : Coherent (TokenRangeMatcher.initial chunkSize) where
  linked := linked_initial
  nonempty := by
    intro first bucket hb
    cases hb
  bounded := Nat.zero_le _

theorem additionsFrom_hashes {hc : 0 < chunkSize} {tokenIds : List ℤ} (tokenHashes : List Bytes)
    {k : ℕ} {additions : List (Addition chunkSize)}
    (h : additionsFrom hc tokenIds k tokenHashes = .ok additions) :
    additions.map Addition.tokenHash = tokenHashes := by
  induction tokenHashes generalizing k additions with
  | nil =>
    cases h
    rfl
  | cons tokenHash rest ih =>
    unfold additionsFrom at h
    dsimp only at h
    split_ifs at h
    obtain ⟨others, ho, h⟩ := (checked_ok_iff _ _ _).mp h
    cases h
    rw [List.map_cons, ih ho]

theorem additionsFrom_chunk {hc : 0 < chunkSize} {tokenIds : List ℤ} (tokenHashes : List Bytes)
    {k : ℕ} {additions : List (Addition chunkSize)}
    (h : additionsFrom hc tokenIds k tokenHashes = .ok additions) {i : ℕ}
    {a : Addition chunkSize} (ha : additions[i]? = some a) :
    a.chunk.tokens = window tokenIds ((k+i)*chunkSize) chunkSize ∧
      a.chunk.start = (k+i)*chunkSize := by
  induction tokenHashes generalizing k i additions with
  | nil =>
    cases h
    cases ha
  | cons tokenHash rest ih =>
    unfold additionsFrom at h
    dsimp only at h
    split_ifs at h
    obtain ⟨others, ho, h⟩ := (checked_ok_iff _ _ _).mp h
    cases h
    cases i with
    | zero =>
      cases ha
      exact ⟨rfl, rfl⟩
    | succ i =>
      have hk : k+(i+1) = k+1+i := by omega
      rw [hk]
      exact ih ho ha

theorem uniform_iff {hc : 0 < chunkSize} {tokenIds : List ℤ} {tokenHashes : List Bytes}
    {additions : List (Addition chunkSize)}
    (h : additionsFrom hc tokenIds 0 tokenHashes = .ok additions) :
    Uniform chunkSize (.onNewTokenHashes tokenIds tokenHashes) ↔
      ∀ a ∈ additions, ∀ b ∈ additions, a.tokenHash = b.tokenHash →
        a.chunk.first = b.chunk.first := by
  have hhash : ∀ i : ℕ, tokenHashes[i]? = additions[i]?.map Addition.tokenHash := by
    intro i
    rw [← additionsFrom_hashes tokenHashes h, List.getElem?_map]
  have hfirst : ∀ (i : ℕ) (a : Addition chunkSize), additions[i]? = some a →
      tokenIds[i*chunkSize]? = some a.chunk.first := by
    intro i a ha
    obtain ⟨ht, _⟩ := additionsFrom_chunk tokenHashes h ha
    rw [Nat.zero_add] at ht
    rw [← window_head tokenIds (i*chunkSize) chunkSize hc, ← ht, StoredChunk.first_eq]
  unfold Uniform
  constructor
  · intro hu a ha b hb he
    obtain ⟨i, hi⟩ := List.mem_iff_getElem?.mp ha
    obtain ⟨j, hj⟩ := List.mem_iff_getElem?.mp hb
    have hsame := hu i j a.tokenHash (by rw [hhash, hi]; rfl) (by rw [hhash, hj, he]; rfl)
    rw [hfirst i a hi, hfirst j b hj] at hsame
    exact Option.some.inj hsame
  · intro hu i j hash hi hj
    rw [hhash] at hi hj
    obtain ⟨a, ha, hah⟩ := Option.map_eq_some_iff.mp hi
    obtain ⟨b, hb, hbh⟩ := Option.map_eq_some_iff.mp hj
    rw [hfirst i a ha, hfirst j b hb, hu a (List.mem_of_getElem? ha) b (List.mem_of_getElem? hb)
      (hah.trans hbh.symm)]

theorem coherent_perform_iff {m m' : TokenRangeMatcher chunkSize} {c : MatcherCall}
    (hm : Coherent m) (h : m.perform c = .ok m') : Coherent m' ↔ Uniform chunkSize c := by
  cases c with
  | onNewTokenHashes tokenIds tokenHashes =>
    obtain ⟨hc, additions, _, _, ha, hsize, hconflict, rfl⟩ :=
      (onNewTokenHashes_ok_iff _ _ _ _).mp h
    rw [uniform_iff ha]
    constructor
    · exact fun hm' => uniform_of_linked additions hm'.linked
    · intro hu
      exact {
        linked := linked_foldl additions hm.linked
          (fun a hmem existing he => by rw [hconflict a hmem existing he]) hu
        nonempty := List.foldlRecOn (motive := NoEmptyBucket) additions TokenRangeMatcher.add
          hm.nonempty fun _ hk a _ => noEmptyBucket_add hk a
        bounded := (foldl_add_size additions m).trans hsize }
  | removeChunks tokenHashes =>
    unfold TokenRangeMatcher.perform TokenRangeMatcher.removeChunks at h
    dsimp only at h
    split_ifs at h
    cases h
    refine iff_of_true ?_ trivial
    exact List.foldlRecOn (motive := Coherent) tokenHashes TokenRangeMatcher.remove hm
      fun m₁ hk tokenHash _ => {
      linked := linked_remove hk.linked tokenHash
      nonempty := noEmptyBucket_remove hk.nonempty tokenHash
      bounded := (remove_size_le m₁ tokenHash).trans hk.bounded }

/-! ## Runs -/

/-- The registrations of a run that returned are uniform. -/
def UniformRun (chunkSize : ℕ) (es : List MatcherEvent) : Prop :=
  ∀ e ∈ es, e.result = .ok ⟨⟩ → Uniform chunkSize e.call

theorem coherent_run {es : List MatcherEvent} {m : TokenRangeMatcher chunkSize}
    (h : Run Performed (TokenRangeMatcher.initial chunkSize) es m)
    (hu : UniformRun chunkSize es) : Coherent m := by
  induction h with
  | nil => exact coherent_initial
  | @snoc es m m' e _ hs ih =>
    have hm := ih fun e' he => hu e' (List.mem_append_left _ he)
    obtain ⟨hr, hp⟩ | ⟨_, _, _, rfl⟩ := (performed_iff m m' e).mp hs
    · exact (coherent_perform_iff hm hp).mpr (hu e (by simp) hr)
    · exact hm

/-- The hash is registered again by a call of the run that returned. -/
def Registers (hash : Bytes) (es : List MatcherEvent) : Prop :=
  ∃ e ∈ es, e.result = .ok ⟨⟩ ∧
    ∃ tokenIds tokenHashes, e.call = .onNewTokenHashes tokenIds tokenHashes ∧ hash ∈ tokenHashes

def Absent (hash : Bytes) (m : TokenRangeMatcher chunkSize) : Prop := hash ∉ m.byHash.keys

theorem absent_remove {m : TokenRangeMatcher chunkSize} {hash : Bytes} (hm : Absent hash m)
    (tokenHash : Bytes) : Absent hash (m.remove tokenHash) := by
  unfold Absent at hm ⊢
  rw [← Dict.get?_none] at hm ⊢
  rw [remove_byHash, hm, ite_self]

theorem absent_perform {m m' : TokenRangeMatcher chunkSize} {c : MatcherCall} {hash : Bytes}
    (hm : Absent hash m) (h : m.perform c = .ok m')
    (hc : ∀ tokenIds tokenHashes, c = .onNewTokenHashes tokenIds tokenHashes →
      hash ∉ tokenHashes) : Absent hash m' := by
  cases c with
  | onNewTokenHashes tokenIds tokenHashes =>
    obtain ⟨_, additions, _, _, ha, _, _, rfl⟩ := (onNewTokenHashes_ok_iff _ _ _ _).mp h
    rw [Absent, foldl_add_keys, additionsFrom_hashes tokenHashes ha]
    exact fun hk => hk.elim hm (hc _ _ rfl)
  | removeChunks tokenHashes =>
    unfold TokenRangeMatcher.perform TokenRangeMatcher.removeChunks at h
    dsimp only at h
    split_ifs at h
    cases h
    exact List.foldlRecOn (motive := Absent hash) tokenHashes TokenRangeMatcher.remove hm
      fun m₁ hk tokenHash _ => absent_remove hk tokenHash

theorem removed_absent {m m' : TokenRangeMatcher chunkSize} {tokenHashes : List Bytes}
    {hash : Bytes} (h : m.perform (.removeChunks tokenHashes) = .ok m') (hm : hash ∈ tokenHashes) :
    Absent hash m' := by
  unfold TokenRangeMatcher.perform TokenRangeMatcher.removeChunks at h
  dsimp only at h
  split_ifs at h
  cases h
  obtain ⟨pre, post, rfl⟩ := List.append_of_mem hm
  rw [List.foldl_append, List.foldl_cons]
  refine List.foldlRecOn (motive := Absent hash) post TokenRangeMatcher.remove ?_
    fun m₁ hk tokenHash _ => absent_remove hk tokenHash
  rw [Absent, ← Dict.get?_none, remove_byHash, if_pos rfl]

theorem absent_run {es : List MatcherEvent} {start m : TokenRangeMatcher chunkSize} {hash : Bytes}
    (h : Run Performed start es m) (hstart : Absent hash start)
    (hn : ¬Registers hash es) : Absent hash m := by
  induction h with
  | nil => exact hstart
  | @snoc es m m' e _ hs ih =>
    have hm := ih fun ⟨e', he, hr⟩ => hn ⟨e', List.mem_append_left _ he, hr⟩
    obtain ⟨hr, hp⟩ | ⟨_, _, _, rfl⟩ := (performed_iff m m' e).mp hs
    · exact absent_perform hm hp fun tokenIds tokenHashes hc hh =>
        hn ⟨e, by simp, hr, tokenIds, tokenHashes, hc, hh⟩
    · exact hm

theorem matched_held {m : TokenRangeMatcher chunkSize} (hm : Coherent m) {tokenIds : List ℤ}
    {rs : List CBMatchResult} (h : m.matchSubSequence tokenIds = .ok rs) {r : CBMatchResult}
    (hr : r ∈ rs) : r.hash ∈ m.byHash.keys := by
  have hb := bucketed_of_linked hm.linked
  by_cases hl : 0 < chunkSize ∧ chunkSize ≤ tokenIds.length
  · rw [matchSubSequence_eq m tokenIds hl.1 hl.2] at h
    cases h
    have hit := (firstBy_sublist _ _ _).subset hr
    obtain ⟨q, _, e, he, _, rfl⟩ := (mem_allHits hb tokenIds hl.2 r).mp hit
    obtain ⟨first, bucket, hbucket, he⟩ := (mem_stored m e).mp he
    have hlink : (m.bucket first).get? e.1 = some e.2 := by
      rw [bucket_of hbucket]
      exact (Dict.get?_iff _ _ _).mpr he
    exact (Dict.mem_keys _ _).mpr ⟨e.2, ((hm.linked _ _ _).mp hlink).1⟩
  · unfold TokenRangeMatcher.matchSubSequence at h
    split_ifs at h
    · cases h
      exact absurd hr List.not_mem_nil
    · omega

/-- Over any run of calls, the index is coherent after every call exactly when
the registrations that returned were uniform. A call that raises changes
nothing, and in a uniform run a removed hash is not reported again unless it
is registered again. -/
theorem coherent_iff_uniform (es : List MatcherEvent) (m : TokenRangeMatcher chunkSize)
    (h : Run Performed (TokenRangeMatcher.initial chunkSize) es m) :
    ((∀ earlier later s, es = earlier ++ later →
        Run Performed (TokenRangeMatcher.initial chunkSize) earlier s → Coherent s) ↔
      UniformRun chunkSize es) ∧
    (∀ earlier e later, es = earlier ++ e::later → ∃ before after : TokenRangeMatcher chunkSize,
      Run Performed (TokenRangeMatcher.initial chunkSize) earlier before ∧
        Performed before e after ∧ ∀ error, e.result = .error error → after = before) ∧
    (UniformRun chunkSize es → ∀ earlier tokenHashes later hash,
      es = earlier ++ ⟨.removeChunks tokenHashes, .ok ⟨⟩⟩::later → hash ∈ tokenHashes →
        ¬Registers hash later → ∀ tokenIds rs, m.matchSubSequence tokenIds = .ok rs →
          ∀ r ∈ rs, r.hash ≠ hash) := by
  refine ⟨⟨fun hall e he hr => ?_, fun hu earlier later s hes hs => ?_⟩,
    fun earlier e later hes => ?_, fun hu earlier tokenHashes later hash hes hh hn => ?_⟩
  · obtain ⟨earlier, later, rfl⟩ := List.append_of_mem he
    obtain ⟨before, after, hrun, hs⟩ := run_split h earlier e later rfl
    have hbefore := hall earlier (e::later) before rfl hrun
    have hafter := hall (earlier ++ [e]) later after (by simp) (hrun.snoc hs)
    obtain ⟨_, hp⟩ | ⟨_, herror, _⟩ := (performed_iff before after e).mp hs
    · exact (coherent_perform_iff hbefore hp).mp hafter
    · cases hr.symm.trans herror
  · exact coherent_run hs fun e he => hu e (hes ▸ List.mem_append_left _ he)
  · obtain ⟨before, after, hrun, hs⟩ := run_split h earlier e later hes
    refine ⟨before, after, hrun, hs, fun error herror => ?_⟩
    obtain ⟨hr, _⟩ | ⟨_, _, _, hsame⟩ := (performed_iff before after e).mp hs
    · cases hr.symm.trans herror
    · exact hsame
  · rw [hes, List.append_cons] at h
    obtain ⟨after, hrun, hlater⟩ := run_append h
    obtain ⟨before, _, hs⟩ := run_last hrun
    obtain ⟨_, hp⟩ | ⟨_, herror, _⟩ := (performed_iff before after _).mp hs
    · have habsent := absent_run hlater (removed_absent hp hh) hn
      have hcoherent : Coherent m := by
        rw [hes, List.append_cons] at hu
        exact coherent_run h hu
      exact fun tokenIds rs hmatch r hr hsame => habsent (hsame ▸ matched_held hcoherent hmatch hr)
    · cases herror

end

def registerShared : MatcherEvent := ⟨.onNewTokenHashes [1, 2] [[7], [7]], .ok ⟨⟩⟩

def removeShared : MatcherEvent := ⟨.removeChunks [[7]], .ok ⟨⟩⟩

def after (m : TokenRangeMatcher 1) (e : MatcherEvent) : TokenRangeMatcher 1 :=
  (performCall e.call m).2

theorem performed_after (m : TokenRangeMatcher 1) (e : MatcherEvent)
    (h : (performCall e.call m).1 = e.result) : Performed m e (after m e) :=
  Prod.ext h rfl

theorem shared_run : Run Performed (TokenRangeMatcher.initial 1) [registerShared, removeShared]
    (after (after (TokenRangeMatcher.initial 1) registerShared) removeShared) :=
  .snoc (.snoc .nil (performed_after _ registerShared (by decide +kernel)))
    (performed_after _ removeShared (by decide +kernel))

theorem shared_run_incoherent : ¬∀ earlier later s,
    [registerShared, removeShared] = earlier ++ later →
      Run Performed (TokenRangeMatcher.initial 1) earlier s → Coherent s := by
  rw [(coherent_iff_uniform _ _ shared_run).1]
  intro hu
  have hsame := hu registerShared List.mem_cons_self rfl 0 1 [7] rfl rfl
  exact absurd hsame (by decide)

/-- One hash is registered for two chunks that begin with different tokens.
After its removal it is still in the bucket of the first chunk and reported. -/
theorem removed_hash_reported : ∃ m : TokenRangeMatcher 1,
    Run Performed (TokenRangeMatcher.initial 1) [registerShared, removeShared] m ∧
      ¬Coherent m ∧ m.matchSubSequence [1] = .ok [⟨0, 1, 0, 1, [7]⟩] := by
  have hmatch : (after (after (TokenRangeMatcher.initial 1) registerShared)
      removeShared).matchSubSequence [1] = .ok [⟨0, 1, 0, 1, [7]⟩] := by decide +kernel
  refine ⟨_, shared_run, fun hm => ?_, hmatch⟩
  have hheld := matched_held hm hmatch List.mem_cons_self
  exact absurd hheld (by decide +kernel)

end CacheBlend.IndexCoherence
