import CacheBlend.CompletionTables
import CacheBlend.Runs

/-!
# Reachable completion tables

From its allocation on a request appends blocks to a group and, in a sliding
group, nulls the next entries after the leading null blocks. A freed block may
come back as a new one and the null blocks may pass the end of the allocation.
The completion check sees only the last table: it accepts all reachable tables,
and a table that it accepts has the shape of a reachable one.
-/

set_option autoImplicit false

namespace CacheBlend.ReachableTables
open CacheBlend.HybridLayout CacheBlend.VllmAdapters CacheBlend.CompletionTables

/-! ## Steps -/

inductive TableEvent where
  | append (block : ℕ)
  | skip (count : ℕ)

namespace TableEvent

/-- A new block is in range, not null and not in the table. Only a sliding
group skips entries. -/
def Allowed (numBlocks : ℕ) (kind : AttentionKind) (table : List ℕ) : TableEvent → Prop
  | append block => 0 < block ∧ block < numBlocks ∧ block ∉ table
  | skip count => kind = .sliding ∧ count ≤ table.length

/-- A skip nulls the first entries, of which the leading ones are null already. -/
def apply : TableEvent → List ℕ → List ℕ
  | append block, table => table ++ [block]
  | skip count, table => List.replicate count 0 ++ table.drop count

end TableEvent

def GroupStep (numBlocks : ℕ) (kind : AttentionKind) (table : List ℕ) (e : TableEvent)
    (table' : List ℕ) : Prop :=
  e.Allowed numBlocks kind table ∧ table' = e.apply table

def TablesStep (numBlocks : ℕ) (kinds : List AttentionKind) (tables : List (List ℕ))
    (e : ℕ × TableEvent) (tables' : List (List ℕ)) : Prop :=
  (∃ kind table, kinds[e.1]? = some kind ∧ tables[e.1]? = some table ∧
    e.2.Allowed numBlocks kind table) ∧ tables' = tables.modify e.1 e.2.apply

/-- The tables of an allocation: distinct positive blocks in range. -/
def Allocation (numBlocks : ℕ) (allocated : List (List ℕ)) : Prop :=
  ∀ table ∈ allocated, table.Nodup ∧ ∀ b ∈ table, 0 < b ∧ b < numBlocks

/-! ## Reachable tables are accepted -/

/-- Nulling the entries before `k` of a table that is nulled before `j`. -/
theorem skip_nulled (table : List ℕ) (j k : ℕ) :
    List.replicate k 0 ++ (List.replicate j 0 ++ table.drop j).drop k =
      List.replicate (max j k) 0 ++ table.drop (max j k) := by
  rw [List.drop_append, List.drop_replicate, List.length_replicate, List.drop_drop,
    ← List.append_assoc, List.replicate_append_replicate]
  have hsum : k+(j-k) = max j k := by omega
  have hdrop : j+(k-j) = max j k := by omega
  rw [hsum, hdrop]

theorem grown_skip {original current : List ℕ} (h : Grown .sliding original current) {k : ℕ}
    (hk : k ≤ current.length) :
    Grown .sliding original (List.replicate k 0 ++ current.drop k) := by
  cases h with
  | sliding suffix j hj hn hd =>
    rw [skip_nulled]
    have hsub : ((original ++ suffix).drop (max j k)).Sublist ((original ++ suffix).drop j) := by
      have hmax : max j k = j+(max j k-j) := by omega
      rw [hmax, ← List.drop_drop]
      exact List.drop_sublist _ _
    rw [List.length_append, List.length_replicate, List.length_drop] at hk
    exact Grown.sliding suffix (max j k) (by omega) (fun h0 => hn (hsub.subset h0))
      (hd.sublist hsub)

theorem grown_step {numBlocks : ℕ} {kind : AttentionKind} {original current : List ℕ}
    {e : TableEvent} (h : Grown kind original current) (he : e.Allowed numBlocks kind current) :
    Grown kind original (e.apply current) := by
  cases e with
  | append block => exact grown_append h block (Nat.pos_iff_ne_zero.mp he.1) he.2.2
  | skip count =>
    obtain ⟨rfl, hcount⟩ := he
    exact grown_skip h hcount

theorem apply_range {numBlocks : ℕ} {kind : AttentionKind} {table : List ℕ} {e : TableEvent}
    (he : e.Allowed numBlocks kind table) (hpos : 1 ≤ numBlocks)
    (hb : ∀ b ∈ table, b < numBlocks) : ∀ b ∈ e.apply table, b < numBlocks := by
  intro b hm
  cases e with
  | append block =>
    obtain hm | hm := List.mem_append.mp hm
    · exact hb b hm
    · exact List.mem_singleton.mp hm ▸ he.2.1
  | skip count =>
    obtain hm | hm := List.mem_append.mp hm
    · exact List.eq_of_mem_replicate hm ▸ hpos
    · exact hb b (List.mem_of_mem_drop hm)

section
variable {numBlocks : ℕ} {kinds : List AttentionKind} {allocated observed : List (List ℕ)}

theorem allocation_grown (ha : Allocation numBlocks allocated)
    (hl : allocated.length = kinds.length) : TablesGrown kinds allocated allocated := by
  induction kinds generalizing allocated with
  | nil =>
    rw [List.eq_nil_of_length_eq_zero hl]
    trivial
  | cons kind kinds ih =>
    cases allocated with
    | nil => cases hl
    | cons table allocated =>
      obtain ⟨⟨hd, hb⟩, ha⟩ := List.forall_mem_cons.mp ha
      exact ⟨grown_start kind table (fun h0 => absurd (hb 0 h0).1 (lt_irrefl 0)) hd,
        ih ha (Nat.succ.inj hl)⟩

theorem reached_grown (ha : Allocation numBlocks allocated)
    (hl : allocated.length = kinds.length) (hpos : 1 ≤ numBlocks)
    (h : Reached (TablesStep numBlocks kinds) allocated observed) :
    TablesGrown kinds allocated observed ∧
      ∀ table ∈ observed, ∀ b ∈ table, b < numBlocks := by
  refine reached_invariant (fun tables => TablesGrown kinds allocated tables ∧
    ∀ table ∈ tables, ∀ b ∈ table, b < numBlocks) ?_
    ⟨allocation_grown ha hl, fun table ht b hb => ((ha table ht).2 b hb).2⟩ h
  rintro tables ⟨group, e⟩ tables' ⟨hg, hb⟩ ⟨⟨kind, table, hkind, htable, he⟩, rfl⟩
  constructor
  · refine tablesGrown_modify hg group e.apply fun kind' original current hk hc hgrown => ?_
    obtain rfl := Option.some.inj (hkind.symm.trans hk)
    obtain rfl := Option.some.inj (htable.symm.trans hc)
    exact grown_step hgrown he
  · intro table' hm
    obtain hm | ⟨current, hc, rfl⟩ := mem_modify hm
    · exact hb table' hm
    · obtain rfl := Option.some.inj (htable.symm.trans hc)
      exact apply_range he hpos (hb table (List.mem_of_getElem? htable))

theorem reached_accepted (ha : Allocation numBlocks allocated)
    (hl : allocated.length = kinds.length) (hpos : 1 ≤ numBlocks)
    (h : Reached (TablesStep numBlocks kinds) allocated observed) :
    isOrderedSubsequence (integers observed) (integers allocated) kinds numBlocks = true := by
  obtain ⟨hg, hb⟩ := reached_grown ha hl hpos h
  refine grown_accepted hg (fun table ht => (ha table ht).1) hpos fun table ht b hm => ?_
  obtain ht | ht := List.mem_append.mp ht
  · exact ((ha table ht).2 b hm).2
  · exact hb table ht b hm

end

/-! ## The shape of an accepted table -/

/-- The allocation followed by new blocks, in a sliding group behind a run of
null blocks that may take all of the allocation. -/
inductive CompletedTable (numBlocks : ℕ) : AttentionKind → List ℕ → List ℕ → Prop
  | full {original : List ℕ} (growth : List ℕ) : (∀ b ∈ growth, 0 < b ∧ b < numBlocks) →
      (original ++ growth).Nodup → CompletedTable numBlocks .full original (original ++ growth)
  | sliding {original : List ℕ} (nulls : ℕ) (growth : List ℕ) :
      (∀ b ∈ growth, 0 < b ∧ b < numBlocks) → (original.drop nulls ++ growth).Nodup →
      CompletedTable numBlocks .sliding original
        (List.replicate nulls 0 ++ (original.drop nulls ++ growth))

theorem cast_injective : Function.Injective Int.ofNat := fun _ _ => Int.ofNat.inj

theorem integers_injective : Function.Injective integers :=
  List.map_injective_iff.mpr (List.map_injective_iff.mpr cast_injective)

theorem table_cast (current : List ℤ) (h : ∀ b ∈ current, 0 ≤ b) :
    ∃ table : List ℕ, current = table.map Int.ofNat := by
  refine ⟨current.map Int.toNat, ?_⟩
  rw [List.map_map]
  exact (List.map_id'' (fun _ => rfl) current).symm.trans
    (List.map_congr_left fun b hb => (Int.toNat_of_nonneg (h b hb)).symm)

def leadingNulls (table : List ℕ) : ℕ := (table.takeWhile (· = 0)).length

theorem leadingNulls_cast (table : List ℕ) :
    ((table.map Int.ofNat).takeWhile (· = vllmNullBlockId)).length = leadingNulls table := by
  rw [List.takeWhile_map, List.length_map]
  refine congrArg (fun p => (table.takeWhile p).length) (funext fun b => ?_)
  exact decide_eq_decide.mpr (by simp [vllmNullBlockId])

theorem leadingNulls_split (table : List ℕ) :
    List.replicate (leadingNulls table) 0 ++ table.drop (leadingNulls table) = table := by
  induction table with
  | nil => rfl
  | cons b rest ih =>
    by_cases hb : b = 0
    · have hsucc : leadingNulls (b::rest) = leadingNulls rest+1 := by simp [leadingNulls, hb]
      rw [hsucc, List.replicate_succ, List.cons_append, List.drop_succ_cons, ih, hb]
    · have hzero : leadingNulls (b::rest) = 0 := by simp [leadingNulls, hb]
      rw [hzero, List.replicate_zero, List.nil_append, List.drop_zero]

theorem notMem_cast {table : List ℕ} (h : vllmNullBlockId ∉ table.map Int.ofNat) : 0 ∉ table :=
  fun h0 => h (List.mem_map_of_mem h0)

theorem compatible_completed {numBlocks : ℕ} {kind : AttentionKind} {original table : List ℕ}
    (h : GroupCompatible numBlocks (table.map Int.ofNat) (original.map Int.ofNat) kind) :
    CompletedTable numBlocks kind original table := by
  obtain ⟨hrange, _, hreal, hlength, hkind⟩ := h
  have hb : ∀ b ∈ table, b < numBlocks := fun b hm =>
    Int.ofNat_lt.mp (hrange b (List.mem_append_left _ (List.mem_map_of_mem hm))).2
  have hfresh : ∀ growth : List ℕ, growth ⊆ table → 0 ∉ growth →
      ∀ b ∈ growth, 0 < b ∧ b < numBlocks := fun growth hsub h0 b hm =>
    ⟨Nat.pos_of_ne_zero fun hz => h0 (hz ▸ hm), hb b (hsub hm)⟩
  cases kind with
  | full =>
    obtain ⟨h0, hsame⟩ := hkind
    rw [List.length_map, ← List.map_take, (List.map_injective_iff.mpr cast_injective).eq_iff]
      at hsame
    have hsplit := List.take_append_drop original.length table
    rw [hsame] at hsplit
    have hd := (filter_real 0 _ h0 ▸ hreal : (table.map Int.ofNat).Nodup).of_map
    have hsub : table.drop original.length ⊆ table := List.drop_subset _ _
    have hg := CompletedTable.full (table.drop original.length)
      (hfresh _ hsub fun hz => notMem_cast h0 (hsub hz)) (hsplit.symm ▸ hd)
    rwa [hsplit] at hg
  | sliding =>
    obtain ⟨hsuffix, h0⟩ := hkind
    rw [leadingNulls_cast, List.length_map, ← List.map_take, ← List.map_drop, ← List.map_drop,
      (List.map_injective_iff.mpr cast_injective).eq_iff] at hsuffix
    rw [leadingNulls_cast, ← List.map_drop] at h0
    have hsplit := leadingNulls_split table
    generalize leadingNulls table = k at hsplit hsuffix h0
    have hkept : (table.drop k).take (original.length-k) = original.drop k := by
      by_cases hk : k ≤ original.length
      · rw [min_eq_left hk, List.drop_take] at hsuffix
        exact hsuffix
      · have hzero : original.length-k = 0 := by omega
        rw [hzero, List.take_zero, List.drop_eq_nil_of_le (by omega)]
    have hd : (table.drop k).Nodup := by
      rw [← hsplit, List.map_append, List.map_replicate] at hreal
      exact (filter_real k _ h0 ▸ hreal).of_map
    have hrest := List.take_append_drop (original.length-k) (table.drop k)
    rw [hkept] at hrest
    have hsub : (table.drop k).drop (original.length-k) ⊆ table.drop k := List.drop_subset _ _
    have hg := CompletedTable.sliding k ((table.drop k).drop (original.length-k))
      (hfresh _ (fun b hm => List.drop_subset _ _ (hsub hm)) fun hz => notMem_cast h0 (hsub hz))
      (hrest.symm ▸ hd)
    rwa [hrest, hsplit] at hg

def CompletedTables (numBlocks : ℕ) :
    List AttentionKind → List (List ℕ) → List (List ℕ) → Prop
  | kind::kinds, original::allocated, current::observed =>
    CompletedTable numBlocks kind original current ∧
      CompletedTables numBlocks kinds allocated observed
  | [], [], [] => True
  | _, _, _ => False

theorem compatible_range {numBlocks : ℕ} {kind : AttentionKind} {current original : List ℤ}
    (h : GroupCompatible numBlocks current original kind) : ∀ b ∈ current, 0 ≤ b :=
  fun b hb => (h.1 b (List.mem_append_left _ hb)).1

theorem accepted_completed {numBlocks : ℕ} {kinds : List AttentionKind}
    {allocated : List (List ℕ)} {observed : List (List ℤ)}
    (h : isOrderedSubsequence observed (integers allocated) kinds numBlocks = true) :
    ∃ tables, observed = integers tables ∧ CompletedTables numBlocks kinds allocated tables := by
  unfold isOrderedSubsequence at h
  split_ifs at h with hlengths
  rw [not_or, not_or, not_not, not_not] at hlengths
  obtain ⟨hl, hk, _⟩ := hlengths
  induction kinds generalizing allocated observed with
  | nil =>
    obtain rfl := List.eq_nil_of_length_eq_zero hk
    rw [integers, List.length_map] at hl
    obtain rfl := List.eq_nil_of_length_eq_zero hl.symm
    exact ⟨[], rfl, trivial⟩
  | cons kind kinds ih =>
    cases observed with
    | nil => cases hk
    | cons current observed =>
      cases allocated with
      | nil => cases hl
      | cons original allocated =>
        simp only [integers, List.map_cons, groupsCompatible] at h
        split_ifs at h with hc
        obtain ⟨table, rfl⟩ := table_cast current (compatible_range hc)
        obtain ⟨tables, rfl, hrest⟩ := ih h (Nat.succ.inj hl) (Nat.succ.inj hk)
        exact ⟨table::tables, rfl, compatible_completed hc, hrest⟩

/-! ## Completed tables are reached -/

section
variable {numBlocks : ℕ} {kind : AttentionKind}

theorem growth_reached (growth : List ℕ) (table : List ℕ)
    (hb : ∀ b ∈ growth, 0 < b ∧ b < numBlocks) (hd : growth.Nodup)
    (hfresh : ∀ b ∈ growth, b ∉ table) :
    Reached (GroupStep numBlocks kind) table (table ++ growth) := by
  induction growth generalizing table with
  | nil =>
    rw [List.append_nil]
    exact reached_start _ _
  | cons b rest ih =>
    obtain ⟨⟨hpos, hlt⟩, hb⟩ := List.forall_mem_cons.mp hb
    obtain ⟨hnew, hfresh⟩ := List.forall_mem_cons.mp hfresh
    obtain ⟨hrest, hd⟩ := List.nodup_cons.mp hd
    have hstep : Reached (GroupStep numBlocks kind) table (table ++ [b]) :=
      reached_step (e := .append b) (reached_start _ _) ⟨⟨hpos, hlt, hnew⟩, rfl⟩
    have happ := ih (table ++ [b]) hb hd fun x hx hm => by
      obtain hm | hm := List.mem_append.mp hm
      · exact hfresh x hx hm
      · exact hrest (List.mem_singleton.mp hm ▸ hx)
    rw [List.append_assoc] at happ
    exact reached_trans hstep happ

theorem nulls_reached (h : 2 ≤ numBlocks) (n m : ℕ) :
    Reached (GroupStep numBlocks .sliding) (List.replicate n 0) (List.replicate (n+m) 0) := by
  induction m with
  | zero => exact reached_start _ _
  | succ m ih =>
    have hone : 1 ∉ List.replicate (n+m) 0 := fun h1 =>
      absurd (List.eq_of_mem_replicate h1) one_ne_zero
    have happend : Reached (GroupStep numBlocks .sliding) (List.replicate n 0)
        (List.replicate (n+m) 0 ++ [1]) :=
      reached_step (e := .append 1) ih ⟨⟨Nat.one_pos, h, hone⟩, rfl⟩
    refine reached_step (e := .skip (n+m+1)) happend ⟨⟨rfl, ?_⟩, ?_⟩
    · simp
    · simp [TableEvent.apply, Nat.add_assoc]

theorem skip_reached {original : List ℕ} (h : 2 ≤ numBlocks) (nulls : ℕ) :
    Reached (GroupStep numBlocks .sliding) original
      (List.replicate nulls 0 ++ original.drop nulls) := by
  by_cases hle : nulls ≤ original.length
  · exact reached_step (e := .skip nulls) (reached_start _ _) ⟨⟨rfl, hle⟩, rfl⟩
  · have hall : Reached (GroupStep numBlocks .sliding) original
        (List.replicate original.length 0) :=
      reached_step (e := .skip original.length) (reached_start _ _)
        ⟨⟨rfl, le_refl _⟩, by simp [TableEvent.apply]⟩
    have hmore := nulls_reached h original.length (nulls-original.length)
    rw [Nat.add_sub_cancel' (by omega)] at hmore
    rw [List.drop_eq_nil_of_le (by omega), List.append_nil]
    exact reached_trans hall hmore

theorem completed_reached {original current : List ℕ} (h : 2 ≤ numBlocks)
    (hc : CompletedTable numBlocks kind original current) :
    Reached (GroupStep numBlocks kind) original current := by
  cases hc with
  | full growth hb hd =>
    obtain ⟨_, hg, hdisjoint⟩ := List.nodup_append'.mp hd
    exact growth_reached growth original hb hg fun b hm ho => hdisjoint ho hm
  | sliding nulls growth hb hd =>
    obtain ⟨_, hg, hdisjoint⟩ := List.nodup_append'.mp hd
    rw [← List.append_assoc]
    refine reached_trans (skip_reached h nulls) (growth_reached growth _ hb hg fun b hm ht => ?_)
    obtain ht | ht := List.mem_append.mp ht
    · exact absurd (List.eq_of_mem_replicate ht) (hb b hm).1.ne'
    · exact hdisjoint ht hm

theorem head_reached {kinds : List AttentionKind} {table table' : List ℕ}
    (tables : List (List ℕ)) (h : Reached (GroupStep numBlocks kind) table table') :
    Reached (TablesStep numBlocks (kind::kinds)) (table::tables) (table'::tables) := by
  refine reached_map (fun t => t::tables) (fun e => (0, e)) ?_ h
  rintro t e _ ⟨he, rfl⟩
  exact ⟨⟨kind, t, rfl, rfl, he⟩, rfl⟩

theorem tail_reached {kinds : List AttentionKind} {tables tables' : List (List ℕ)}
    (table : List ℕ) (h : Reached (TablesStep numBlocks kinds) tables tables') :
    Reached (TablesStep numBlocks (kind::kinds)) (table::tables) (table::tables') := by
  refine reached_map (fun t => table::t) (fun e => (e.1+1, e.2)) ?_ h
  rintro t e _ ⟨⟨kind', current, hk, hc, he⟩, rfl⟩
  exact ⟨⟨kind', current, hk, hc, he⟩, rfl⟩

end

theorem completedTables_reached {numBlocks : ℕ} (h : 2 ≤ numBlocks) {kinds : List AttentionKind}
    {allocated observed : List (List ℕ)} (hc : CompletedTables numBlocks kinds allocated observed) :
    Reached (TablesStep numBlocks kinds) allocated observed := by
  induction kinds generalizing allocated observed with
  | nil =>
    cases allocated with
    | nil =>
      cases observed with
      | nil => exact reached_start _ _
      | cons current observed => exact hc.elim
    | cons original allocated => cases observed <;> exact hc.elim
  | cons kind kinds ih =>
    cases allocated with
    | nil => cases observed <;> exact hc.elim
    | cons original allocated =>
      cases observed with
      | nil => exact hc.elim
      | cons current observed =>
        exact reached_trans (head_reached allocated (completed_reached h hc.1))
          (tail_reached current (ih hc.2))

/-- The completion check accepts every table that a request can reach from its
allocation. A table that it accepts keeps the allocation as a prefix, or in a
sliding group its part after the null blocks, before distinct new blocks. When
there is a block besides the null block, such a table can be reached. -/
theorem accepts_reachable_tables (numBlocks : ℕ) (kinds : List AttentionKind)
    (allocated : List (List ℕ)) (hl : allocated.length = kinds.length) (hpos : 1 ≤ numBlocks)
    (ha : Allocation numBlocks allocated) :
    (∀ observed, Reached (TablesStep numBlocks kinds) allocated observed →
      isOrderedSubsequence (integers observed) (integers allocated) kinds numBlocks = true) ∧
    (∀ observed, isOrderedSubsequence observed (integers allocated) kinds numBlocks = true →
      ∃ tables, observed = integers tables ∧ CompletedTables numBlocks kinds allocated tables ∧
        (2 ≤ numBlocks → Reached (TablesStep numBlocks kinds) allocated tables)) := by
  refine ⟨fun observed h => reached_accepted ha hl hpos h, fun observed h => ?_⟩
  obtain ⟨tables, rfl, hc⟩ := accepted_completed h
  exact ⟨tables, rfl, hc, fun hmore => completedTables_reached hmore hc⟩

/-- A sliding group whose nulls pass the allocation, where block three comes
back as a new block. -/
theorem longDecode_accepted :
    isOrderedSubsequence [[0, 0, 0, 3], [11, 12, 13]] [[3, 4], [11, 12]] [.sliding, .full] 16 =
        true ∧
      Reached (TablesStep 16 [.sliding, .full]) [[3, 4], [11, 12]]
        [[0, 0, 0, 3], [11, 12, 13]] := by
  have hrun : isOrderedSubsequence [[0, 0, 0, 3], [11, 12, 13]] [[3, 4], [11, 12]]
      [.sliding, .full] 16 = true := by decide
  obtain ⟨tables, ht, _, hr⟩ := (accepts_reachable_tables 16 [.sliding, .full] [[3, 4], [11, 12]]
    rfl (by decide) (by unfold Allocation; decide)).2 _ hrun
  have ht : integers [[0, 0, 0, 3], [11, 12, 13]] = integers tables := ht
  exact ⟨hrun, integers_injective ht ▸ hr (by decide)⟩

end CacheBlend.ReachableTables
