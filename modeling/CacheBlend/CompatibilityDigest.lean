import CacheBlend.Checks
import CacheBlend.Dict
import CacheBlend.JsonText

/-!
# Canonical configuration values

A configuration value is made canonical within a budget of items and depth,
with type tags on the keys of its dictionaries, and encoded as compact JSON.
Two values that are encoded have one encoding exactly when they are equal,
where tuples count as lists and the order of entries does not count.
-/

set_option autoImplicit false

namespace CacheBlend.CompatibilityDigest
open CacheBlend.JsonText

def maxCanonicalDepth : ℕ := 32
def maxCanonicalItems : ℕ := 100000
def maxCanonicalBytes : ℕ := 4*1024*1024

inductive CompatibilityDigestErrorCode where
  | invalidVllmConfig
  | invalidHfConfig
  | unsupportedConfigValue
  | configTooLarge
  | modelDigestMismatch
  | kvDigestMismatch
  deriving DecidableEq

/-- A key of a dictionary; `other` is a key of another type, a boolean among them. -/
inductive ConfigKey where
  | text (s : String)
  | integer (n : ℤ)
  | other
  deriving DecidableEq

/-- A value of a configuration. A float that is not finite is `none`, and
`other` is a value of another type. -/
inductive ConfigValue where
  | none
  | boolean (b : Bool)
  | integer (n : ℤ)
  | text (s : String)
  | float (f : Option FloatText)
  | list (items : List ConfigValue)
  | tuple (items : List ConfigValue)
  | dict (entries : List (ConfigKey × ConfigValue))
  | other

mutual

def WellFormed : ConfigValue → Prop
  | .list items => WellFormedAll items
  | .tuple items => WellFormedAll items
  | .dict entries => (entries.map Prod.fst).Nodup ∧ WellFormedEntries entries
  | _ => True

def WellFormedAll : List ConfigValue → Prop
  | [] => True
  | x::rest => WellFormed x ∧ WellFormedAll rest

def WellFormedEntries : List (ConfigKey × ConfigValue) → Prop
  | [] => True
  | (_, value)::rest => WellFormed value ∧ WellFormedEntries rest

end

/-! ## Canonical trees -/

abbrev BudgetCall (α : Type) : Type := Call ℕ CompatibilityDigestErrorCode α

/-- `_CanonicalBudget.consume`. -/
def consume : BudgetCall PUnit := fun items =>
  (require (items+1 ≤ maxCanonicalItems) .configTooLarge, items+1)

/-- The checks of `_canonicalize` before it looks at the value. -/
def enter (depth : ℕ) : BudgetCall PUnit := do
  Call.lift (require (depth ≤ maxCanonicalDepth) .configTooLarge)
  consume

def requireText (s : String) : Except CompatibilityDigestErrorCode PUnit :=
  require ('\x00' ∉ s.toList) .unsupportedConfigValue

def canonicalKey : ConfigKey → Except CompatibilityDigestErrorCode String
  | .text s => do
    requireText s
    .ok ("str:" ++ s)
  | .integer n => .ok ("int:" ++ toString n)
  | .other => .error .unsupportedConfigValue

def dictOf (pairs : List (String × JsonTree)) : Dict String JsonTree :=
  pairs.foldl (fun d e => d.set e.1 e.2) Dict.empty

mutual

/-- `_canonicalize`. -/
def canonicalize : ConfigValue → ℕ → BudgetCall JsonTree
  | .none, depth => do
    enter depth
    pure .null
  | .boolean b, depth => do
    enter depth
    pure (.boolean b)
  | .integer n, depth => do
    enter depth
    pure (.integer n)
  | .text s, depth => do
    enter depth
    Call.lift (requireText s)
    pure (.text s)
  | .float (some f), depth => do
    enter depth
    pure (.float f)
  | .float Option.none, depth => do
    enter depth
    Call.raise .unsupportedConfigValue
  | .list items, depth => do
    enter depth
    let trees ← canonicalizeAll items (depth+1)
    pure (.list trees)
  | .tuple items, depth => do
    enter depth
    let trees ← canonicalizeAll items (depth+1)
    pure (.list trees)
  | .dict entries, depth => do
    enter depth
    let pairs ← canonicalizeEntries entries (depth+1)
    pure (.object (dictOf (sortedBy Prod.fst pairs)).entries)
  | .other, depth => do
    enter depth
    Call.raise .unsupportedConfigValue

def canonicalizeAll : List ConfigValue → ℕ → BudgetCall (List JsonTree)
  | [], _ => pure []
  | x::rest, depth => do
    let tree ← canonicalize x depth
    let trees ← canonicalizeAll rest depth
    pure (tree::trees)

def canonicalizeEntries : List (ConfigKey × ConfigValue) → ℕ →
    BudgetCall (List (String × JsonTree))
  | [], _ => pure []
  | (key, value)::rest, depth => do
    let tagged ← Call.lift (canonicalKey key)
    let tree ← canonicalize value depth
    let pairs ← canonicalizeEntries rest depth
    pure ((tagged, tree)::pairs)

end

/-- `str.encode("ascii")`. -/
def asciiBytes (s : List Char) : Option Bytes :=
  s.mapM fun c => if c.toNat < 128 then some (UInt8.ofNat c.toNat) else none

/-- `_encode`. -/
def encode (value : ConfigValue) : Except CompatibilityDigestErrorCode Bytes := do
  let tree ← (canonicalize value 0 0).1
  match asciiBytes (dumps tree) with
  | none => .error .unsupportedConfigValue
  | some encoded => do
    require (encoded.length ≤ maxCanonicalBytes) .configTooLarge
    .ok encoded

/-! ## Equality of values -/

mutual

/-- Equality, with tuples read as lists and entries found by their keys. -/
def Same : ConfigValue → ConfigValue → Prop
  | .none, .none => True
  | .boolean b, .boolean b' => b = b'
  | .integer n, .integer n' => n = n'
  | .text s, .text s' => s = s'
  | .float f, .float f' => f = f'
  | .list xs, .list ys => SameAll xs ys
  | .list xs, .tuple ys => SameAll xs ys
  | .tuple xs, .list ys => SameAll xs ys
  | .tuple xs, .tuple ys => SameAll xs ys
  | .dict es, .dict es' => es.length = es'.length ∧ SameEntries es es'
  | _, _ => False

def SameAll : List ConfigValue → List ConfigValue → Prop
  | [], [] => True
  | x::xs, y::ys => Same x y ∧ SameAll xs ys
  | _, _ => False

/-- Every entry has one of its key and of an equal value in the other dictionary. -/
def SameEntries : List (ConfigKey × ConfigValue) → List (ConfigKey × ConfigValue) → Prop
  | [], _ => True
  | (key, value)::rest, es' =>
    (∃ value', (key, value') ∈ es' ∧ Same value value') ∧ SameEntries rest es'

end

theorem sameEntries_iff (es es' : List (ConfigKey × ConfigValue)) :
    SameEntries es es' ↔ ∀ e ∈ es, ∃ value', (e.1, value') ∈ es' ∧ Same e.2 value' := by
  induction es with
  | nil => simp [SameEntries]
  | cons e rest ih => rw [SameEntries, ih, List.forall_mem_cons]

theorem wellFormedEntries_iff (es : List (ConfigKey × ConfigValue)) :
    WellFormedEntries es ↔ ∀ e ∈ es, WellFormed e.2 := by
  induction es with
  | nil => simp [WellFormedEntries]
  | cons e rest ih => rw [WellFormedEntries, ih, List.forall_mem_cons]

/-! ## The tree of a value -/

mutual

inductive TreeOf : ConfigValue → JsonTree → Prop
  | none : TreeOf .none .null
  | boolean (b : Bool) : TreeOf (.boolean b) (.boolean b)
  | integer (n : ℤ) : TreeOf (.integer n) (.integer n)
  | text (s : String) : TreeOf (.text s) (.text s)
  | float (f : FloatText) : TreeOf (.float (some f)) (.float f)
  | list {items : List ConfigValue} {trees : List JsonTree} (h : TreesOf items trees) :
      TreeOf (.list items) (.list trees)
  | tuple {items : List ConfigValue} {trees : List JsonTree} (h : TreesOf items trees) :
      TreeOf (.tuple items) (.list trees)
  | dict {entries : List (ConfigKey × ConfigValue)} {pairs : List (String × JsonTree)}
      (h : PairsOf entries pairs) :
      TreeOf (.dict entries) (.object (dictOf (sortedBy Prod.fst pairs)).entries)

inductive TreesOf : List ConfigValue → List JsonTree → Prop
  | nil : TreesOf [] []
  | cons {x : ConfigValue} {tree : JsonTree} {rest : List ConfigValue} {trees : List JsonTree}
      (hx : TreeOf x tree) (h : TreesOf rest trees) : TreesOf (x::rest) (tree::trees)

inductive PairsOf : List (ConfigKey × ConfigValue) → List (String × JsonTree) → Prop
  | nil : PairsOf [] []
  | cons {key : ConfigKey} {tagged : String} {value : ConfigValue} {tree : JsonTree}
      {rest : List (ConfigKey × ConfigValue)} {pairs : List (String × JsonTree)}
      (hk : canonicalKey key = .ok tagged) (hv : TreeOf value tree) (h : PairsOf rest pairs) :
      PairsOf ((key, value)::rest) ((tagged, tree)::pairs)

end

mutual

theorem canonicalize_tree : ∀ (value : ConfigValue) (depth n n' : ℕ) (tree : JsonTree),
    canonicalize value depth n = (.ok tree, n') → TreeOf value tree
  | .none, depth, n, n', tree, h => by
    obtain ⟨_, _, _, h⟩ := (Call.bind_ok_iff _ _ _ _ _).mp h
    cases h
    exact .none
  | .boolean b, depth, n, n', tree, h => by
    obtain ⟨_, _, _, h⟩ := (Call.bind_ok_iff _ _ _ _ _).mp h
    cases h
    exact .boolean b
  | .integer i, depth, n, n', tree, h => by
    obtain ⟨_, _, _, h⟩ := (Call.bind_ok_iff _ _ _ _ _).mp h
    cases h
    exact .integer i
  | .text s, depth, n, n', tree, h => by
    obtain ⟨_, _, _, h⟩ := (Call.bind_ok_iff _ _ _ _ _).mp h
    obtain ⟨_, _, h⟩ := (Call.lift_bind_iff _ _ _ _ _).mp h
    cases h
    exact .text s
  | .float (some f), depth, n, n', tree, h => by
    obtain ⟨_, _, _, h⟩ := (Call.bind_ok_iff _ _ _ _ _).mp h
    cases h
    exact .float f
  | .float Option.none, depth, n, n', tree, h => by
    obtain ⟨_, _, _, h⟩ := (Call.bind_ok_iff _ _ _ _ _).mp h
    cases h
  | .list items, depth, n, n', tree, h => by
    obtain ⟨_, _, _, h⟩ := (Call.bind_ok_iff _ _ _ _ _).mp h
    obtain ⟨trees, _, hs, h⟩ := (Call.bind_ok_iff _ _ _ _ _).mp h
    cases h
    exact .list (canonicalizeAll_trees items _ _ _ trees hs)
  | .tuple items, depth, n, n', tree, h => by
    obtain ⟨_, _, _, h⟩ := (Call.bind_ok_iff _ _ _ _ _).mp h
    obtain ⟨trees, _, hs, h⟩ := (Call.bind_ok_iff _ _ _ _ _).mp h
    cases h
    exact .tuple (canonicalizeAll_trees items _ _ _ trees hs)
  | .dict entries, depth, n, n', tree, h => by
    obtain ⟨_, _, _, h⟩ := (Call.bind_ok_iff _ _ _ _ _).mp h
    obtain ⟨pairs, _, hs, h⟩ := (Call.bind_ok_iff _ _ _ _ _).mp h
    cases h
    exact .dict (canonicalizeEntries_pairs entries _ _ _ pairs hs)
  | .other, depth, n, n', tree, h => by
    obtain ⟨_, _, _, h⟩ := (Call.bind_ok_iff _ _ _ _ _).mp h
    cases h

theorem canonicalizeAll_trees : ∀ (items : List ConfigValue) (depth n n' : ℕ)
    (trees : List JsonTree), canonicalizeAll items depth n = (.ok trees, n') → TreesOf items trees
  | [], depth, n, n', trees, h => by
    cases h
    exact .nil
  | x::rest, depth, n, n', trees, h => by
    obtain ⟨tree, _, hx, h⟩ := (Call.bind_ok_iff _ _ _ _ _).mp h
    obtain ⟨trees', _, hs, h⟩ := (Call.bind_ok_iff _ _ _ _ _).mp h
    cases h
    exact .cons (canonicalize_tree x _ _ _ _ hx) (canonicalizeAll_trees rest _ _ _ _ hs)

theorem canonicalizeEntries_pairs : ∀ (entries : List (ConfigKey × ConfigValue))
    (depth n n' : ℕ) (pairs : List (String × JsonTree)),
    canonicalizeEntries entries depth n = (.ok pairs, n') → PairsOf entries pairs
  | [], depth, n, n', pairs, h => by
    cases h
    exact .nil
  | (key, value)::rest, depth, n, n', pairs, h => by
    obtain ⟨tagged, hk, h⟩ := (Call.lift_bind_iff _ _ _ _ _).mp h
    obtain ⟨tree, _, hv, h⟩ := (Call.bind_ok_iff _ _ _ _ _).mp h
    obtain ⟨pairs', _, hs, h⟩ := (Call.bind_ok_iff _ _ _ _ _).mp h
    cases h
    exact .cons hk (canonicalize_tree value _ _ _ _ hv)
      (canonicalizeEntries_pairs rest _ _ _ _ hs)

end

/-! ## Dictionaries -/

theorem canonicalKey_injective {key key' : ConfigKey} {tagged : String}
    (h : canonicalKey key = .ok tagged) (h' : canonicalKey key' = .ok tagged) : key = key' := by
  have htag : ∀ s t : String, "str:" ++ s ≠ "int:" ++ t := by
    intro s t he
    have hl := congrArg String.toList he
    rw [String.toList_append, String.toList_append] at hl
    exact absurd (List.cons.inj hl).1 (by decide)
  cases key with
  | other => cases h
  | text s =>
    obtain ⟨_, _, he⟩ := (checked_ok_iff _ _ _).mp h
    cases key' with
    | other => cases h'
    | integer n => exact absurd (Except.ok.inj (he.trans h'.symm)) (htag _ _)
    | text s' =>
      obtain ⟨_, _, he'⟩ := (checked_ok_iff _ _ _).mp h'
      have hs := Except.ok.inj (he.trans he'.symm)
      exact congrArg _ ((String.append_right_inj _).mp hs)
  | integer n =>
    cases key' with
    | other => cases h'
    | text s' =>
      obtain ⟨_, _, he'⟩ := (checked_ok_iff _ _ _).mp h'
      exact absurd (Except.ok.inj (he'.trans h.symm)) (htag _ _)
    | integer n' =>
      have hs := Except.ok.inj (h.trans h'.symm)
      exact congrArg _ (integer_injective
        (congrArg String.toList ((String.append_right_inj _).mp hs)))

/-- A pair of the canonical items and the entry that it comes from. -/
def PairOf (e : ConfigKey × ConfigValue) (p : String × JsonTree) : Prop :=
  canonicalKey e.1 = .ok p.1 ∧ TreeOf e.2 p.2

theorem pairsOf_forall₂ : ∀ {es : List (ConfigKey × ConfigValue)} {ps : List (String × JsonTree)},
    PairsOf es ps → List.Forall₂ PairOf es ps
  | _, _, .nil => .nil
  | _, _, .cons hk hv h => .cons ⟨hk, hv⟩ (pairsOf_forall₂ h)

theorem tags_nodup {es : List (ConfigKey × ConfigValue)} {ps : List (String × JsonTree)}
    (h : List.Forall₂ PairOf es ps) (hn : (es.map Prod.fst).Nodup) : (ps.map Prod.fst).Nodup := by
  induction h with
  | nil => exact List.nodup_nil
  | cons hp hrest ih =>
    rw [List.map_cons, List.nodup_cons] at hn ⊢
    refine ⟨fun hm => hn.1 ?_, ih hn.2⟩
    obtain ⟨q, hq, he⟩ := List.mem_map.mp hm
    obtain ⟨e', he', hk, _⟩ := forall₂_right hrest hq
    rw [he] at hk
    exact List.mem_map.mpr ⟨e', he', canonicalKey_injective hk hp.1⟩

theorem assign_new (d : Dict String JsonTree) (ps : List (String × JsonTree))
    (h : ((d.entries ++ ps).map Prod.fst).Nodup) :
    (ps.foldl (fun d e => d.set e.1 e.2) d).entries = d.entries ++ ps := by
  induction ps generalizing d with
  | nil => exact (List.append_nil _).symm
  | cons p ps ih =>
    have hset : (d.set p.1 p.2).entries = d.entries ++ [p] := by
      apply if_neg
      rw [List.map_append, List.map_cons] at h
      exact fun hm => (List.nodup_append.mp h).2.2 _ hm _ List.mem_cons_self rfl
    rw [List.append_cons, ← hset] at h
    rw [List.foldl_cons, ih _ h, hset, List.append_assoc, List.singleton_append]

theorem dictOf_entries {ps : List (String × JsonTree)} (h : (ps.map Prod.fst).Nodup) :
    (dictOf ps).entries = ps := assign_new Dict.empty ps h

theorem sorted_entries {ps : List (String × JsonTree)} (h : (ps.map Prod.fst).Nodup) :
    (dictOf (sortedBy Prod.fst ps)).entries = sortedBy Prod.fst ps := by
  apply dictOf_entries
  exact ((sortedBy_perm Prod.fst ps).map Prod.fst).nodup_iff.mpr h

theorem sorted_eq_iff {ps qs : List (String × JsonTree)} (h : (qs.map Prod.fst).Nodup) :
    sortedBy Prod.fst ps = sortedBy Prod.fst qs ↔ ps.Perm qs := by
  constructor
  · intro he
    exact (sortedBy_perm Prod.fst ps).symm.trans (he ▸ sortedBy_perm Prod.fst qs)
  · intro hp
    apply sortedBy_congr_perm _ _ hp
    intro a ha b hb
    exact List.inj_on_of_nodup_map h ha hb

/-- The value's tree tells it apart from the values that are not equal to it. -/
def Told (a : ConfigValue) : Prop :=
  ∀ b t u, WellFormed a → WellFormed b → TreeOf a t → TreeOf b u → (t = u ↔ Same a b)

theorem pairs_told {es es' : List (ConfigKey × ConfigValue)} {ps qs : List (String × JsonTree)}
    (hp : List.Forall₂ PairOf es ps) (hq : List.Forall₂ PairOf es' qs)
    (hn : (es.map Prod.fst).Nodup) (htold : ∀ e ∈ es, Told e.2)
    (hw : ∀ e ∈ es, WellFormed e.2) (hw' : ∀ e ∈ es', WellFormed e.2) :
    ps.Perm qs ↔ es.length = es'.length ∧
      ∀ e ∈ es, ∃ value', (e.1, value') ∈ es' ∧ Same e.2 value' := by
  constructor
  · intro hperm
    refine ⟨?_, fun e he => ?_⟩
    · rw [hp.length_eq, hq.length_eq, hperm.length_eq]
    · obtain ⟨p, hpm, hk, ht⟩ := forall₂_left hp he
      obtain ⟨e', he', hk', ht'⟩ := forall₂_right hq (hperm.mem_iff.mp hpm)
      have hkey := canonicalKey_injective hk' hk
      refine ⟨e'.2, ?_, (htold e he _ _ _ (hw e he) (hw' e' he') ht ht').mp rfl⟩
      rw [← hkey]
      exact he'
  · rintro ⟨hlength, hall⟩
    have hsub : ps ⊆ qs := by
      intro p hpm
      obtain ⟨e, he, hk, ht⟩ := forall₂_right hp hpm
      obtain ⟨value', he', hsame⟩ := hall e he
      obtain ⟨q, hqm, hk', ht'⟩ := forall₂_left hq he'
      have htree := (htold e he _ _ _ (hw e he) (hw' _ he') ht ht').mpr hsame
      have hpq : p = q := Prod.ext (Except.ok.inj (hk.symm.trans hk')) htree
      rw [hpq]
      exact hqm
    have hnodup := List.Nodup.of_map _ (tags_nodup hp hn)
    apply (List.subperm_of_subset hnodup hsub).perm_of_length_le
    rw [← hp.length_eq, ← hq.length_eq, hlength]

/-! ## Trees and equality -/

mutual

theorem told : ∀ a : ConfigValue, Told a
  | .none => by
    intro b t u _ _ ht hu
    cases ht
    cases hu <;> simp [Same]
  | .boolean b => by
    intro b t u _ _ ht hu
    cases ht
    cases hu <;> simp [Same]
  | .integer n => by
    intro b t u _ _ ht hu
    cases ht
    cases hu <;> simp [Same]
  | .text s => by
    intro b t u _ _ ht hu
    cases ht
    cases hu <;> simp [Same]
  | .float f => by
    intro b t u _ _ ht hu
    cases ht
    cases hu <;> simp [Same]
  | .list xs => by
    intro b t u hw hw' ht hu
    cases ht with
    | list h =>
      unfold WellFormed at hw hw'
      cases hu with
      | list h' => simpa [Same] using toldAll xs _ _ _ hw hw' h h'
      | tuple h' => simpa [Same] using toldAll xs _ _ _ hw hw' h h'
      | _ => simp [Same]
  | .tuple xs => by
    intro b t u hw hw' ht hu
    cases ht with
    | tuple h =>
      unfold WellFormed at hw hw'
      cases hu with
      | list h' => simpa [Same] using toldAll xs _ _ _ hw hw' h h'
      | tuple h' => simpa [Same] using toldAll xs _ _ _ hw hw' h h'
      | _ => simp [Same]
  | .dict es => by
    intro b t u hw hw' ht hu
    cases ht with
    | dict h =>
      unfold WellFormed at hw hw'
      cases hu with
      | dict h' =>
        have hp := pairsOf_forall₂ h
        have hq := pairsOf_forall₂ h'
        have hps := tags_nodup hp hw.1
        have hqs := tags_nodup hq hw'.1
        have hperm := pairs_told hp hq hw.1 (toldEntries es)
          ((wellFormedEntries_iff _).mp hw.2) ((wellFormedEntries_iff _).mp hw'.2)
        rw [sorted_entries hps, sorted_entries hqs, Same, sameEntries_iff, ← hperm,
          ← sorted_eq_iff hqs]
        simp
      | _ => simp [Same]
  | .other => by
    intro b t u _ _ ht
    cases ht

theorem toldAll : ∀ (xs ys : List ConfigValue) (ts us : List JsonTree), WellFormedAll xs →
    WellFormedAll ys → TreesOf xs ts → TreesOf ys us → (ts = us ↔ SameAll xs ys)
  | [], ys, ts, us, _, _, ht, hu => by
    cases ht
    cases hu <;> simp [SameAll]
  | x::xs, ys, ts, us, hw, hw', ht, hu => by
    cases ht with
    | cons hx ht =>
      cases hu with
      | nil => simp [SameAll]
      | cons hy hu =>
        unfold WellFormedAll at hw hw'
        rw [List.cons.injEq, SameAll, told x _ _ _ hw.1 hw'.1 hx hy,
          toldAll xs _ _ _ hw.2 hw'.2 ht hu]

theorem toldEntries : ∀ es : List (ConfigKey × ConfigValue), ∀ e ∈ es, Told e.2
  | [], _, h => absurd h List.not_mem_nil
  | (key, value)::rest, e, h => by
    obtain he | h := List.mem_cons.mp h
    · rw [he]
      exact told value
    · exact toldEntries rest e h

end

mutual

theorem tree_ordered : ∀ (a : ConfigValue) (t : JsonTree), WellFormed a → TreeOf a t → Ordered t
  | .none, _, _, .none => trivial
  | .boolean _, _, _, .boolean _ => trivial
  | .integer _, _, _, .integer _ => trivial
  | .text _, _, _, .text _ => trivial
  | .float _, _, _, .float _ => trivial
  | .list xs, _, hw, .list h => by
    unfold WellFormed at hw
    exact trees_ordered xs _ hw h
  | .tuple xs, _, hw, .tuple h => by
    unfold WellFormed at hw
    exact trees_ordered xs _ hw h
  | .dict es, _, hw, .dict h => by
    unfold WellFormed at hw
    rw [sorted_entries (tags_nodup (pairsOf_forall₂ h) hw.1)]
    refine ⟨sortedBy_pairwise _ _, (orderedEntries_iff _).mpr fun p hp => ?_⟩
    exact pairs_ordered es _ hw.2 h p ((mem_sortedBy _ _ _).mp hp)

theorem trees_ordered : ∀ (xs : List ConfigValue) (ts : List JsonTree), WellFormedAll xs →
    TreesOf xs ts → OrderedAll ts
  | [], _, _, .nil => trivial
  | x::xs, _, hw, .cons hx h => by
    unfold WellFormedAll at hw
    exact ⟨tree_ordered x _ hw.1 hx, trees_ordered xs _ hw.2 h⟩

theorem pairs_ordered : ∀ (es : List (ConfigKey × ConfigValue)) (ps : List (String × JsonTree)),
    WellFormedEntries es → PairsOf es ps → ∀ p ∈ ps, Ordered p.2
  | [], _, _, .nil, _, h => absurd h List.not_mem_nil
  | (key, value)::rest, _, hw, .cons _ hv hrest, p, h => by
    unfold WellFormedEntries at hw
    obtain he | h := List.mem_cons.mp h
    · rw [he]
      exact tree_ordered value _ hw.1 hv
    · exact pairs_ordered rest _ hw.2 hrest p h

end

/-! ## The encoding -/

theorem asciiBytes_cons_iff (c : Char) (s : List Char) (b : Bytes) :
    asciiBytes (c::s) = some b ↔
      c.toNat < 128 ∧ ∃ b', asciiBytes s = some b' ∧ b = UInt8.ofNat c.toNat::b' := by
  unfold asciiBytes
  rw [List.mapM_cons]
  split_ifs with hc
  · simp only [Option.bind_eq_bind, Option.bind_some, Option.bind_eq_some_iff, Option.pure_def,
      Option.some.injEq, hc, true_and, eq_comm (b := b)]
  · simp [hc]

theorem asciiBytes_injective {s t : List Char} {b : Bytes} (hs : asciiBytes s = some b)
    (ht : asciiBytes t = some b) : s = t := by
  induction s generalizing t b with
  | nil =>
    cases t with
    | nil => rfl
    | cons d t =>
      obtain ⟨_, b', _, rfl⟩ := (asciiBytes_cons_iff d t b).mp ht
      cases hs
  | cons c s ih =>
    obtain ⟨hc, b', hs', rfl⟩ := (asciiBytes_cons_iff c s b).mp hs
    cases t with
    | nil => cases ht
    | cons d t =>
      obtain ⟨hd, b'', ht', he⟩ := (asciiBytes_cons_iff d t _).mp ht
      obtain ⟨hbyte, rfl⟩ := List.cons.inj he
      have hcode := congrArg UInt8.toNat hbyte
      rw [UInt8.toNat_ofNat', UInt8.toNat_ofNat'] at hcode
      have hchar : c = d := Char.toNat_inj.mp (by omega)
      rw [hchar, ih hs' ht']

theorem encode_tree {a : ConfigValue} {x : Bytes} (h : encode a = .ok x) :
    ∃ t, TreeOf a t ∧ asciiBytes (dumps t) = some x := by
  obtain ⟨t, ht, h⟩ := (checked_ok_iff _ _ _).mp h
  refine ⟨t, canonicalize_tree a 0 0 _ t (Prod.ext ht rfl), ?_⟩
  cases hb : asciiBytes (dumps t) with
  | none =>
    rw [hb] at h
    cases h
  | some b =>
    rw [hb] at h
    obtain ⟨_, h⟩ := (require_then_iff _ _ _ _).mp h
    cases h
    rfl

/-- A value as Python has it: each of its dictionaries has distinct keys. -/
abbrev Config : Type := {value : ConfigValue // WellFormed value}

/-- Two values that are encoded have one encoding exactly when they are equal.
A boolean, an integer, a float and a text are never equal, nor are the keys of
an integer and of its text. -/
theorem encode_injective :
    (∀ (a b : Config) (x y : Bytes), encode a.val = .ok x → encode b.val = .ok y →
      (x = y ↔ Same a.val b.val)) ∧
    (∀ f : FloatText, [.boolean true, .integer 1, .float (some f), .text "1"].Pairwise
      fun a b : ConfigValue => ¬Same a b) ∧
    ∀ v v' : ConfigValue, ¬Same (.dict [(.integer 1, v)]) (.dict [(.text "1", v')]) := by
  refine ⟨fun a b x y ha hb => ?_, fun f => ?_, fun v v' => ?_⟩
  · obtain ⟨t, ht, hx⟩ := encode_tree ha
    obtain ⟨u, hu, hy⟩ := encode_tree hb
    rw [← told a.val b.val t u a.property b.property ht hu]
    constructor
    · rintro rfl
      exact dumps_injective (tree_ordered _ _ a.property ht) (tree_ordered _ _ b.property hu)
        (asciiBytes_injective hx hy)
    · rintro rfl
      exact Option.some.inj (hx.symm.trans hy)
  · apply List.Pairwise.cons
    · simp only [List.forall_mem_cons, List.not_mem_nil, IsEmpty.forall_iff, implies_true, and_true]
      exact ⟨id, id, id⟩
    · apply List.Pairwise.cons
      · simp only [List.forall_mem_cons, List.not_mem_nil, IsEmpty.forall_iff, implies_true,
          and_true]
        exact ⟨id, id⟩
      · exact List.pairwise_pair.mpr id
  · rw [Same, sameEntries_iff]
    rintro ⟨_, h⟩
    obtain ⟨_, hm, _⟩ := h _ List.mem_cons_self
    cases List.mem_singleton.mp hm

def integerKey : Config := ⟨.dict [(.integer 1, .none)], by decide, trivial, trivial⟩

def textKey : Config := ⟨.dict [(.text "1", .none)], by decide, trivial, trivial⟩

theorem keys_told : utf8 "\x7b\"int:1\":null\x7d" = utf8 "\x7b\"str:1\":null\x7d" ↔
    Same integerKey.val textKey.val :=
  encode_injective.1 integerKey textKey _ _ (by decide +kernel) (by decide +kernel)

end CacheBlend.CompatibilityDigest
