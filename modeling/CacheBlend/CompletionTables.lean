import CacheBlend.VllmAdapters

/-!
# Block tables from allocation to completion

vLLM gives a table at allocation, appends blocks while it decodes, and in a
sliding group replaces leading blocks by the null block zero. A table without
null blocks passes the adapter, and every table that grows from it passes the
completion check.
-/

set_option autoImplicit false

namespace CacheBlend.CompletionTables
open CacheBlend.RequestLifecycle CacheBlend.HybridLayout CacheBlend.VllmAdapters

def vllmNullBlockId : ℤ := 0

/-- The conditions of `_is_ordered_subsequence` on one group. -/
def GroupCompatible (numBlocks : ℕ) (current original : List ℤ) (kind : AttentionKind) : Prop :=
  (∀ b ∈ current ++ original, 0 ≤ b ∧ b < numBlocks) ∧ original.Nodup ∧
  (current.filter (· ≠ vllmNullBlockId)).Nodup ∧ original.length ≤ current.length ∧
  match kind with
  | .full => vllmNullBlockId ∉ current ∧ current.take original.length = original
  | .sliding =>
    let nullPrefixLength := (current.takeWhile (· = vllmNullBlockId)).length
    let suffixStart := min nullPrefixLength original.length
    (current.take original.length).drop suffixStart = original.drop suffixStart ∧
      vllmNullBlockId ∉ current.drop nullPrefixLength

instance (numBlocks : ℕ) (current original : List ℤ) (kind : AttentionKind) :
    Decidable (GroupCompatible numBlocks current original kind) := by
  unfold GroupCompatible
  cases kind <;> infer_instance

def groupsCompatible (numBlocks : ℕ) :
    List (List ℤ) → List (List ℤ) → List AttentionKind → Bool
  | current::observed, original::allocated, kind::kinds =>
    if GroupCompatible numBlocks current original kind then
      groupsCompatible numBlocks observed allocated kinds
    else false
  | _, _, _ => true

/-- `_is_ordered_subsequence`. -/
def isOrderedSubsequence (observed allocated : List (List ℤ)) (groupKinds : List AttentionKind)
    (numBlocks : ℕ) : Bool :=
  if observed.length ≠ allocated.length ∨ observed.length ≠ groupKinds.length ∨ numBlocks < 1 then
    false
  else groupsCompatible numBlocks observed allocated groupKinds

/-- A block as vLLM exposes it: block zero is the null block. -/
def observeBlock (b : ℕ) : KVCacheBlock := ⟨b, b = 0⟩

def observe (tables : List (List ℕ)) : KVCacheBlocks where
  blockIds := integers tables
  blocks := some (tables.map (List.map observeBlock))

/-- A table that vLLM can give a group at allocation: identifiers in range, and
distinct real blocks, in a sliding group after a run of null blocks. -/
def LegalTable (numBlocks : ℕ) (kind : AttentionKind) (table : List ℕ) : Prop :=
  table ≠ [] ∧ (∀ b ∈ table, b < numBlocks ∧ b ≤ maxVllmBlockId) ∧
  match kind with
  | .full => 0 ∉ table ∧ table.Nodup
  | .sliding =>
    0 ∉ table.dropWhile (· = 0) ∧ (table.dropWhile (· = 0)).Nodup

instance (numBlocks : ℕ) (kind : AttentionKind) (table : List ℕ) :
    Decidable (LegalTable numBlocks kind table) := by
  unfold LegalTable
  cases kind <;> infer_instance

def legalTables (numBlocks : ℕ) : List AttentionKind → List (List ℕ) → Bool
  | kind::kinds, table::tables => decide (LegalTable numBlocks kind table) &&
    legalTables numBlocks kinds tables
  | [], [] => true
  | _, _ => false

def NullFree (tables : List (List ℕ)) : Prop := ∀ table ∈ tables, 0 ∉ table

instance (tables : List (List ℕ)) : Decidable (NullFree tables) :=
  inferInstanceAs (Decidable (∀ table ∈ tables, 0 ∉ table))

theorem legalTables_iff (numBlocks : ℕ) (kinds : List AttentionKind) (tables : List (List ℕ)) :
    legalTables numBlocks kinds tables = true ↔
      List.Forall₂ (LegalTable numBlocks) kinds tables := by
  induction kinds generalizing tables with
  | nil => cases tables <;> simp [legalTables]
  | cons kind kinds ih => cases tables <;> simp [legalTables, ih]

theorem legal_bounds {numBlocks : ℕ} {kinds : List AttentionKind} {tables : List (List ℕ)}
    (h : List.Forall₂ (LegalTable numBlocks) kinds tables) {table : List ℕ}
    (ht : table ∈ tables) : table ≠ [] ∧ ∀ b ∈ table, b < numBlocks ∧ b ≤ maxVllmBlockId := by
  obtain ⟨_, _, hl⟩ := forall₂_right h ht
  exact ⟨hl.1, hl.2.1⟩

theorem legal_nodup {numBlocks : ℕ} {kind : AttentionKind} {table : List ℕ}
    (h : LegalTable numBlocks kind table) (hn : 0 ∉ table) : table.Nodup := by
  obtain ⟨_, _, hk⟩ := h
  cases kind with
  | full => exact hk.2
  | sliding =>
    have hd : table.dropWhile (· = 0) = table := by
      cases table with
      | nil => rfl
      | cons b rest =>
        have hb : b ≠ 0 := fun hb => hn (hb ▸ List.mem_cons_self)
        simp [hb]
    rw [hd] at hk
    exact hk.2

theorem copyGroup_returns (numBlocks : ℕ) (group : List ℕ) (h : ∀ b ∈ group, b < numBlocks) :
    copyGroup numBlocks (group.map Int.ofNat) = .ok group := by
  unfold copyGroup
  rw [require_of]
  · refine (require_then_iff _ _ _ _).mpr ⟨fun b hb => ?_, ?_⟩
    · obtain ⟨n, hn, rfl⟩ := List.mem_map.mp hb
      exact Int.ofNat_lt.mpr (h n hn)
    · rw [List.map_map]
      exact congrArg Except.ok (List.map_id'' (fun n => Int.toNat_natCast n) group)
  · intro b hb
    obtain ⟨n, _, rfl⟩ := List.mem_map.mp hb
    exact Int.natCast_nonneg n

theorem copyBlockIds_returns (config : AdaptedKvCacheConfig) (tables : List (List ℕ))
    (hl : tables.length = config.controlPlaneLayout.groupCount)
    (hb : ∀ table ∈ tables, ∀ b ∈ table, b < config.numBlocks) :
    copyBlockIds (observe tables) config = .ok tables := by
  unfold copyBlockIds observe integers
  dsimp only
  rw [require_of _ (by rwa [List.length_map])]
  change List.mapM _ _ = _
  rw [mapM_returns_iff, List.forall₂_map_left_iff, List.forall₂_same]
  exact fun table ht => copyGroup_returns config.numBlocks table (hb table ht)

theorem rejectNullGroup_iff (group : List ℕ) :
    rejectNullGroup (group.map observeBlock) group = .ok () ↔ 0 ∉ group := by
  induction group with
  | nil => simp [rejectNullGroup]
  | cons b group ih =>
    rw [List.map_cons, rejectNullGroup, require_then_iff, require_then_iff, ih]
    simp [observeBlock, eq_comm]

theorem rejectNullGroups_iff (tables : List (List ℕ)) :
    rejectNullGroups (tables.map (List.map observeBlock)) tables = .ok () ↔
      NullFree tables := by
  induction tables with
  | nil => simp [rejectNullGroups, NullFree]
  | cons table tables ih =>
    rw [List.map_cons, rejectNullGroups, require_then_iff, List.length_map]
    constructor
    · rintro ⟨_, h⟩
      obtain ⟨_, hg, hr⟩ := (checked_ok_iff _ _ _).mp h
      exact List.forall_mem_cons.mpr ⟨(rejectNullGroup_iff table).mp hg, ih.mp hr⟩
    · intro h
      obtain ⟨hg, hr⟩ := List.forall_mem_cons.mp h
      exact ⟨rfl, (checked_ok_iff _ _ _).mpr
        ⟨(), (rejectNullGroup_iff table).mpr hg, ih.mpr hr⟩⟩

theorem rejectObservable_iff (tables : List (List ℕ)) :
    rejectObservableNullBlocks (observe tables) tables = .ok () ↔ NullFree tables := by
  unfold rejectObservableNullBlocks observe
  dsimp only
  rw [require_then_iff, List.length_map, rejectNullGroups_iff]
  simp

theorem groupCount_eq (config : AdaptedKvCacheConfig) :
    config.controlPlaneLayout.groupCount = config.groupKinds.length := by
  unfold RequestLifecycle.CacheGroupLayout.groupCount AdaptedKvCacheConfig.groupKinds
  rw [config.layers_eq, List.length_map, List.length_map]

theorem blockTables_return (config : AdaptedKvCacheConfig) (tables : List (List ℕ))
    (hb : ∀ table ∈ tables, ∀ b ∈ table, b ≤ maxVllmBlockId) :
    ∃ ts, config.gptOssLayout.groups.mapM (blockTable tables) = .ok ts := by
  refine mapM_returns_of _ _ fun group _ => ?_
  have hg : ∀ b ∈ tables.getD group.groupId [], b ≤ maxVllmBlockId := by
    intro b hm
    rw [List.getD_eq_getElem?_getD] at hm
    cases ht : tables[group.groupId]? with
    | none =>
      rw [ht] at hm
      exact absurd hm List.not_mem_nil
    | some table =>
      rw [ht] at hm
      exact hb table (List.mem_of_getElem? ht) b hm
  have ho : ∀ entry ∈ (tables.getD group.groupId []).map some, ∀ b ∈ entry,
      b ≤ maxVllmBlockId := by
    intro entry he b hb'
    obtain ⟨b', hm, rfl⟩ := List.mem_map.mp he
    obtain rfl := Option.mem_some_iff.mp hb'
    exact hg b' hm
  refine ⟨⟨group.groupId, group.blockSize, (tables.getD group.groupId []).map some,
    group.block_positive, ho⟩, ?_⟩
  unfold blockTable GroupBlockTable.new
  rw [dif_pos group.block_positive, dif_pos ho]

section
variable {config : AdaptedKvCacheConfig} {tables : List (List ℕ)}
  (h : List.Forall₂ (LegalTable config.numBlocks) config.groupKinds tables)
include h

theorem legal_copied : copyBlockIds (observe tables) config = .ok tables :=
  copyBlockIds_returns config tables (h.length_eq.symm.trans (groupCount_eq config).symm)
    fun _ ht b hb => ((legal_bounds h ht).2 b hb).1

theorem adapt_returns (hn : NullFree tables) :
    ∃ a, adaptKvCacheBlocks (observe tables) config = .ok a ∧ a.blockIdsByGroup = tables := by
  have hd : ∀ table ∈ tables, table.Nodup := by
    intro table ht
    obtain ⟨_, _, hl⟩ := forall₂_right h ht
    exact legal_nodup hl (hn table ht)
  obtain ⟨g, hg, _, hids⟩ := RequestTransitions.capture_returns config.controlPlaneLayout tables
    (h.length_eq.symm.trans (groupCount_eq config).symm) hd
  obtain ⟨ts, hts⟩ := blockTables_return config tables
    fun _ ht b hb => ((legal_bounds h ht).2 b hb).2
  refine ⟨⟨g, ts⟩, ?_, hids⟩
  have hcapture : (GroupedBlockAllocation.capture config.controlPlaneLayout
      (integers tables)).mapError (fun _ => VllmAdapterErrorCode.invalidBlockIds) = .ok g := by
    rw [integers, hg]
    rfl
  have htables : (config.gptOssLayout.groups.mapM (blockTable tables)).mapError
      (fun _ => VllmAdapterErrorCode.invalidBlockIds) = .ok ts := by
    rw [hts]
    rfl
  refine (checked_ok_iff _ _ _).mpr ⟨tables, legal_copied h, ?_⟩
  refine (checked_ok_iff _ _ _).mpr ⟨(), (rejectObservable_iff tables).mpr hn, ?_⟩
  refine (require_then_iff _ _ _ _).mpr ⟨hd, ?_⟩
  exact (checked_ok_iff _ _ _).mpr ⟨g, hcapture, (checked_ok_iff _ _ _).mpr ⟨ts, htables, rfl⟩⟩

theorem adapt_nullFree {a : AdaptedKvCacheBlocks}
    (ha : adaptKvCacheBlocks (observe tables) config = .ok a) : NullFree tables := by
  unfold adaptKvCacheBlocks at ha
  rw [legal_copied h] at ha
  obtain ⟨_, hc, ha⟩ := (checked_ok_iff _ _ _).mp ha
  cases hc
  obtain ⟨_, hr, _⟩ := (checked_ok_iff _ _ _).mp ha
  exact (rejectObservable_iff tables).mp hr

end

def dropBlock : List ℕ → List ℕ
  | [] => []
  | 0::rest => 0::dropBlock rest
  | (_+1)::rest => 0::rest

/-- What a table has grown to since its allocation. In a sliding group the
first blocks, of the allocation or of the growth, can have become null. -/
inductive Grown : AttentionKind → List ℕ → List ℕ → Prop
  | full {original : List ℕ} (suffix : List ℕ) : 0 ∉ original ++ suffix →
      (original ++ suffix).Nodup → Grown .full original (original ++ suffix)
  | sliding {original : List ℕ} (suffix : List ℕ) (k : ℕ) :
      k ≤ (original ++ suffix).length → 0 ∉ (original ++ suffix).drop k →
      ((original ++ suffix).drop k).Nodup →
      Grown .sliding original (List.replicate k 0 ++ (original ++ suffix).drop k)

theorem grown_start (kind : AttentionKind) (original : List ℕ) (hn : 0 ∉ original)
    (hd : original.Nodup) : Grown kind original original := by
  cases kind with
  | full =>
    have h := @Grown.full original [] (by rwa [List.append_nil]) (by rwa [List.append_nil])
    rwa [List.append_nil] at h
  | sliding =>
    have h := @Grown.sliding original [] 0 (Nat.zero_le _) (by simpa using hn) (by simpa using hd)
    simpa using h

theorem grown_append {kind : AttentionKind} {original current : List ℕ}
    (h : Grown kind original current) (b : ℕ) (hb : b ≠ 0) (hm : b ∉ current) :
    Grown kind original (current ++ [b]) := by
  cases h with
  | full suffix hn hd =>
    have hg := @Grown.full original (suffix ++ [b])
    rw [← List.append_assoc] at hg
    refine hg ?_ (hd.append (List.nodup_singleton b) (List.disjoint_singleton.mpr hm))
    simp only [List.mem_append, List.mem_singleton, not_or] at hn ⊢
    exact ⟨hn, hb.symm⟩
  | sliding suffix k hk hn hd =>
    have hg := @Grown.sliding original (suffix ++ [b]) k
    rw [← List.append_assoc, List.drop_append_of_le_length hk, ← List.append_assoc] at hg
    rw [List.mem_append, not_or] at hm
    refine hg ?_ ?_ (hd.append (List.nodup_singleton b) (List.disjoint_singleton.mpr hm.2))
    · rw [List.length_append]
      omega
    · rw [List.mem_append, List.mem_singleton, not_or]
      exact ⟨hn, hb.symm⟩

theorem dropBlock_replicate (k : ℕ) (rest : List ℕ) :
    dropBlock (List.replicate k 0 ++ rest) = List.replicate k 0 ++ dropBlock rest := by
  induction k with
  | zero => rfl
  | succ k ih =>
    rw [List.replicate_succ, List.cons_append, dropBlock, ih, List.cons_append]

theorem grown_drop {original current : List ℕ} (h : Grown .sliding original current) :
    Grown .sliding original (dropBlock current) := by
  cases h with
  | sliding suffix k hk hn hd =>
    rw [dropBlock_replicate]
    cases hr : (original ++ suffix).drop k with
    | nil =>
      have hg := Grown.sliding suffix k hk hn hd
      rwa [hr] at hg
    | cons b rest =>
      have hlt : k < (original ++ suffix).length := by
        by_contra hge
        rw [List.drop_eq_nil_of_le (by omega)] at hr
        cases hr
      have hrest : (original ++ suffix).drop (k+1) = rest := by
        rw [← List.drop_drop, hr, List.drop_succ_cons, List.drop_zero]
      have hb : b ≠ 0 := fun hb => hn (hr ▸ hb ▸ List.mem_cons_self)
      obtain ⟨n, rfl⟩ := Nat.exists_eq_succ_of_ne_zero hb
      rw [hr] at hn hd
      have hg := @Grown.sliding original suffix (k+1) hlt
        (by rw [hrest]; exact fun h0 => hn (List.mem_cons_of_mem _ h0))
        (by rw [hrest]; exact (List.nodup_cons.mp hd).2)
      rw [hrest, List.replicate_succ', List.append_assoc] at hg
      exact hg

theorem nullPrefix (k : ℕ) (rest : List ℤ) (h : vllmNullBlockId ∉ rest) :
    (List.replicate k vllmNullBlockId ++ rest).takeWhile (· = vllmNullBlockId) =
      List.replicate k vllmNullBlockId := by
  induction k with
  | zero =>
    cases rest with
    | nil => rfl
    | cons b rest =>
      have hb : b ≠ vllmNullBlockId := fun hb => h (hb ▸ List.mem_cons_self)
      simp [hb]
  | succ k ih => simp [List.replicate_succ, ih]

theorem filter_real (k : ℕ) (rest : List ℤ) (h : vllmNullBlockId ∉ rest) :
    (List.replicate k vllmNullBlockId ++ rest).filter (· ≠ vllmNullBlockId) = rest := by
  rw [List.filter_append, List.filter_eq_nil_iff.mpr, List.nil_append,
    List.filter_eq_self.mpr]
  · exact fun b hb => decide_eq_true (fun he => h (he ▸ hb))
  · intro b hb
    simp [List.eq_of_mem_replicate hb]

theorem zero_notMem_cast (xs : List ℕ) (h : 0 ∉ xs) : vllmNullBlockId ∉ xs.map Int.ofNat := by
  intro hm
  obtain ⟨n, hn, he⟩ := List.mem_map.mp hm
  exact h (Int.ofNat.inj he ▸ hn)

theorem grown_compatible {numBlocks : ℕ} {kind : AttentionKind} {original current : List ℕ}
    (h : Grown kind original current) (ho : original.Nodup)
    (hb : ∀ b ∈ current ++ original, b < numBlocks) :
    GroupCompatible numBlocks (current.map Int.ofNat) (original.map Int.ofNat) kind := by
  have hinj : Function.Injective Int.ofNat := fun _ _ => Int.ofNat.inj
  refine ⟨?_, ho.map hinj, ?_⟩
  · intro b hm
    rw [← List.map_append] at hm
    obtain ⟨n, hn, rfl⟩ := List.mem_map.mp hm
    exact ⟨Int.natCast_nonneg n, Int.ofNat_lt.mpr (hb n hn)⟩
  cases h with
  | full suffix hn hd =>
    have hz := zero_notMem_cast _ hn
    refine ⟨(hd.map hinj).filter _, ?_, hz, ?_⟩
    · rw [List.length_map, List.length_map, List.length_append]
      omega
    · rw [List.map_append, List.take_left]
  | sliding suffix k hk hn hd =>
    have hz := zero_notMem_cast _ hn
    have hmap : (List.replicate k 0 ++ (original ++ suffix).drop k).map Int.ofNat =
        List.replicate k vllmNullBlockId ++ ((original ++ suffix).drop k).map Int.ofNat := by
      rw [List.map_append, List.map_replicate]
      rfl
    rw [hmap]
    refine ⟨?_, ?_, ?_⟩
    · rw [filter_real k _ hz]
      exact hd.map hinj
    · rw [List.length_append, List.length_replicate, List.length_map, List.length_map,
        List.length_drop, List.length_append]
      rw [List.length_append] at hk
      omega
    · dsimp only
      rw [nullPrefix k _ hz, List.length_replicate]
      constructor
      · by_cases hle : k ≤ (original.map Int.ofNat).length
        · rw [min_eq_left hle, List.drop_take, List.drop_append, List.length_replicate,
            Nat.sub_self, List.drop_zero, List.drop_eq_nil_of_le (by simp), List.nil_append]
          rw [List.length_map] at hle ⊢
          rw [← List.map_take, List.drop_append_of_le_length hle, List.take_left' (by simp),
            List.map_drop]
        · rw [min_eq_right (by omega), List.drop_eq_nil_of_le (by simp),
            List.drop_eq_nil_of_le le_rfl]
      · rw [List.drop_left' List.length_replicate]
        exact hz

/-- The tables of a request since its allocation, group by group. -/
def TablesGrown : List AttentionKind → List (List ℕ) → List (List ℕ) → Prop
  | kind::kinds, original::allocated, current::observed =>
    Grown kind original current ∧ TablesGrown kinds allocated observed
  | [], [], [] => True
  | _, _, _ => False

theorem tablesGrown_lengths {kinds : List AttentionKind} {allocated observed : List (List ℕ)}
    (h : TablesGrown kinds allocated observed) :
    observed.length = allocated.length ∧ observed.length = kinds.length := by
  induction kinds generalizing allocated observed with
  | nil =>
    cases allocated <;> cases observed <;> simp_all [TablesGrown]
  | cons kind kinds ih =>
    cases allocated with
    | nil => cases observed <;> exact h.elim
    | cons original allocated =>
      cases observed with
      | nil => exact h.elim
      | cons current observed =>
        obtain ⟨h1, h2⟩ := ih h.2
        exact ⟨congrArg Nat.succ h1, congrArg Nat.succ h2⟩

theorem tablesGrown_start {numBlocks : ℕ} {kinds : List AttentionKind} {tables : List (List ℕ)}
    (h : List.Forall₂ (LegalTable numBlocks) kinds tables) (hn : NullFree tables) :
    TablesGrown kinds tables tables := by
  induction h with
  | nil => trivial
  | cons hl _ ih =>
    obtain ⟨hz, hn⟩ := List.forall_mem_cons.mp hn
    exact ⟨grown_start _ _ hz (legal_nodup hl hz), ih hn⟩

theorem tablesGrown_modify {kinds : List AttentionKind} {allocated observed : List (List ℕ)}
    (h : TablesGrown kinds allocated observed) (group : ℕ) (f : List ℕ → List ℕ)
    (hf : ∀ kind original current, kinds[group]? = some kind → observed[group]? = some current →
      Grown kind original current → Grown kind original (f current)) :
    TablesGrown kinds allocated (observed.modify group f) := by
  induction kinds generalizing allocated observed group with
  | nil =>
    cases allocated <;> cases observed <;> simp_all [TablesGrown]
  | cons kind kinds ih =>
    cases allocated with
    | nil => cases observed <;> exact h.elim
    | cons original allocated =>
      cases observed with
      | nil => exact h.elim
      | cons current observed =>
        cases group with
        | zero => exact ⟨hf kind original current rfl rfl h.1, h.2⟩
        | succ group => exact ⟨h.1, ih h.2 group fun kind o c hk hc => hf kind o c hk hc⟩

theorem groupsCompatible_of_grown {numBlocks : ℕ} {kinds : List AttentionKind}
    {allocated observed : List (List ℕ)} (h : TablesGrown kinds allocated observed)
    (ho : ∀ table ∈ allocated, table.Nodup)
    (hb : ∀ table ∈ allocated ++ observed, ∀ b ∈ table, b < numBlocks) :
    groupsCompatible numBlocks (integers observed) (integers allocated) kinds = true := by
  induction kinds generalizing allocated observed with
  | nil =>
    cases allocated <;> cases observed <;> simp_all [TablesGrown, integers, groupsCompatible]
  | cons kind kinds ih =>
    cases allocated with
    | nil => cases observed <;> exact h.elim
    | cons original allocated =>
      cases observed with
      | nil => exact h.elim
      | cons current observed =>
        have hc : GroupCompatible numBlocks (current.map Int.ofNat) (original.map Int.ofNat)
            kind := by
          refine grown_compatible h.1 (ho original (by simp)) fun b hm => ?_
          obtain hm | hm := List.mem_append.mp hm
          · exact hb current (by simp) b hm
          · exact hb original (by simp) b hm
        simp only [integers, List.map_cons, groupsCompatible, if_pos hc]
        refine ih h.2 (fun table ht => ho table (by simp [ht])) fun table ht b hm => ?_
        refine hb table ?_ b hm
        simp only [List.mem_append, List.mem_cons] at ht ⊢
        tauto

theorem grown_accepted {numBlocks : ℕ} {kinds : List AttentionKind}
    {allocated observed : List (List ℕ)} (h : TablesGrown kinds allocated observed)
    (ho : ∀ table ∈ allocated, table.Nodup) (hpos : 1 ≤ numBlocks)
    (hb : ∀ table ∈ allocated ++ observed, ∀ b ∈ table, b < numBlocks) :
    isOrderedSubsequence (integers observed) (integers allocated) kinds numBlocks = true := by
  obtain ⟨h1, h2⟩ := tablesGrown_lengths h
  unfold isOrderedSubsequence
  rw [if_neg, groupsCompatible_of_grown h ho hb]
  simp only [integers, List.length_map]
  omega

theorem empty_refused (numBlocks : ℕ) {kinds : List AttentionKind}
    (allocated : List (List ℕ)) (hl : allocated.length = kinds.length)
    (hne : ∃ table ∈ allocated, table ≠ []) :
    isOrderedSubsequence (integers (kinds.map fun _ => [])) (integers allocated) kinds
      numBlocks = false := by
  have hg : groupsCompatible numBlocks (integers (kinds.map fun _ => [])) (integers allocated)
      kinds = false := by
    induction kinds generalizing allocated with
    | nil =>
      obtain ⟨table, ht, _⟩ := hne
      rw [List.eq_nil_of_length_eq_zero hl] at ht
      exact absurd ht List.not_mem_nil
    | cons kind kinds ih =>
      cases allocated with
      | nil => cases hl
      | cons table allocated =>
        simp only [integers, List.map_cons, List.map_nil, groupsCompatible]
        split_ifs with hc
        · have ht : table = [] := by
            have hlen := hc.2.2.2.1
            rw [List.length_map] at hlen
            exact List.eq_nil_of_length_eq_zero (Nat.le_zero.mp hlen)
          refine ih allocated (Nat.succ.inj hl) ?_
          obtain ⟨table', hm, hne'⟩ := hne
          obtain rfl | hm := List.mem_cons.mp hm
          · exact absurd ht hne'
          · exact ⟨table', hm, hne'⟩
        · rfl
  unfold isOrderedSubsequence
  rw [hg, ite_self]

end CacheBlend.CompletionTables
