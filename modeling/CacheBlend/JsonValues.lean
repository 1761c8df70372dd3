import CacheBlend.Checks
import CacheBlend.Dict
import CacheBlend.PyNumbers

/-!
# JSON values as Python holds them

A text is a sequence of code points, among them surrogates that no character
is. A float is its value, an infinity or NaN. Two values agree when they are
the same up to the order of the keys and the type of equal numbers. A record is
written under a list of keys and read by its keys.
-/

set_option autoImplicit false

namespace CacheBlend.JsonValues

/-! ## Texts -/

/-- A code point of a Python string, surrogates included. -/
abbrev CodePoint : Type := Fin 0x110000

instance neZeroCodePoints : NeZero 0x110000 := ⟨Nat.succ_ne_zero _⟩

abbrev PyText : Type := List CodePoint

theorem char_lt (c : Char) : c.toNat < 0x110000 := by
  rcases c.valid with h | ⟨_, h⟩
  · exact lt_trans h (by decide)
  · exact h

def codePoint (c : Char) : CodePoint := ⟨c.toNat, char_lt c⟩

theorem codePoint_injective : Function.Injective codePoint := by
  intro c c' h
  exact Char.toNat_inj.mp (Fin.mk.inj h)

def pyText (s : String) : PyText := s.toList.map codePoint

theorem pyText_injective : Function.Injective pyText := by
  intro s s' h
  exact String.toList_inj.mp (List.map_injective_iff.mpr codePoint_injective h)

@[simp] theorem pyText_inj (s s' : String) : pyText s = pyText s' ↔ s = s' :=
  pyText_injective.eq_iff

def isSurrogate (c : CodePoint) : Bool := decide (0xd800 ≤ c.val ∧ c.val ≤ 0xdfff)

/-- The text as a string, with a replacement character for every surrogate. -/
def textOf (t : PyText) : String :=
  String.ofList (t.map fun c => if isSurrogate c = true then '\uFFFD' else Char.ofNat c.val)

def utf8Width (c : CodePoint) : ℕ :=
  if c.val < 0x80 then 1 else if c.val < 0x800 then 2 else if c.val < 0x10000 then 3 else 4

/-- `str.isspace` of one code point. -/
def isSpace (c : CodePoint) : Bool :=
  decide (9 ≤ c.val ∧ c.val ≤ 13 ∨ 28 ≤ c.val ∧ c.val ≤ 32 ∨ c.val = 0x85 ∨ c.val = 0xa0 ∨
    c.val = 0x1680 ∨ 0x2000 ≤ c.val ∧ c.val ≤ 0x200a ∨ c.val = 0x2028 ∨ c.val = 0x2029 ∨
    c.val = 0x202f ∨ c.val = 0x205f ∨ c.val = 0x3000)

/-- A character of `[0-9a-f]`. -/
def isLowerHex (c : CodePoint) : Bool :=
  decide (48 ≤ c.val ∧ c.val ≤ 57 ∨ 97 ≤ c.val ∧ c.val ≤ 102)

/-! ## Values -/

inductive PyFloat where
  | finite (q : ℚ)
  | infinity
  | negativeInfinity
  | nan
  deriving DecidableEq

inductive JsonValue where
  | null
  | boolean (b : Bool)
  | integer (n : ℤ)
  | float (x : PyFloat)
  | text (s : PyText)
  | list (items : List JsonValue)
  | mapping (entries : List (PyText × JsonValue))

def JsonValue.isText (s : String) : JsonValue → Bool
  | .text t => t = pyText s
  | _ => false

theorem isText_iff (s : String) (v : JsonValue) : v.isText s = true ↔ v = .text (pyText s) := by
  cases v <;> simp [JsonValue.isText]

/-- `value == n` for an integer literal: a boolean is a number as well. -/
def JsonValue.equalsInt (n : ℤ) : JsonValue → Bool
  | .boolean b => (if b = true then 1 else 0) = n
  | .integer m => m = n
  | .float (.finite q) => q = n
  | _ => false

def JsonValue.isInteger (n : ℤ) : JsonValue → Bool
  | .integer m => m = n
  | _ => false

theorem isInteger_iff (n : ℤ) (v : JsonValue) : v.isInteger n = true ↔ v = .integer n := by
  cases v <;> simp [JsonValue.isInteger]

/-- An integer of at least `least`; a boolean is none. -/
def JsonValue.isCount (least : ℤ) : JsonValue → Bool
  | .integer n => least ≤ n
  | _ => false

theorem isCount_iff (least : ℤ) (v : JsonValue) :
    v.isCount least = true ↔ ∃ n, v = .integer n ∧ least ≤ n := by
  cases v <;> simp [JsonValue.isCount]

def JsonValue.intValue : JsonValue → ℤ
  | .integer n => n
  | _ => 0

def JsonValue.textValue : JsonValue → PyText
  | .text s => s
  | _ => []

def JsonValue.isNull : JsonValue → Bool
  | .null => true
  | _ => false

/-- `value is True`. -/
def JsonValue.isTrue : JsonValue → Bool
  | .boolean b => b
  | _ => false

def JsonValue.isBoolean : JsonValue → Bool
  | .boolean _ => true
  | _ => false

/-- A text that matches `[0-9a-f]{length}`. -/
def JsonValue.isHex (length : ℕ) : JsonValue → Bool
  | .text t => t.length = length && t.all isLowerHex
  | _ => false

/-- What `float(value)` gives for a number that is no boolean; `none` is an
`OverflowError`. The conversion of an integer is a parameter. -/
def JsonValue.toFloat (convert : ℤ → Option ℚ) : JsonValue → Option (Option PyFloat)
  | .integer n => some ((convert n).map .finite)
  | .float x => some (some x)
  | _ => none

def nearest (n : ℤ) : Option ℚ :=
  match floatOf (.integer n) with
  | .finite q => some q
  | _ => none

/-! ## Records -/

def field (entries : List (PyText × JsonValue)) (key : String) : JsonValue :=
  (Dict.find (pyText key) entries).getD .null

def named (entries : List (String × JsonValue)) : List (PyText × JsonValue) :=
  entries.map fun e => (pyText e.1, e.2)

theorem find_named (entries : List (String × JsonValue)) (key : String) :
    Dict.find (pyText key) (named entries) = Dict.find key entries := by
  induction entries with
  | nil => rfl
  | cons e entries ih =>
    show (if pyText e.1 = pyText key then _ else _) = _
    rw [Dict.find]
    simp only [pyText_inj]
    split_ifs
    · rfl
    · exact ih

theorem field_named (entries : List (String × JsonValue)) (key : String) :
    field (named entries) key = (Dict.find key entries).getD .null := by
  rw [field, find_named]

theorem find_field {es : List (PyText × JsonValue)} {key : String}
    (h : pyText key ∈ es.map Prod.fst) : Dict.find (pyText key) es = some (field es key) := by
  have hsome : ∃ v, Dict.find (pyText key) es = some v := by
    induction es with
    | nil => exact absurd h List.not_mem_nil
    | cons e es ih =>
      unfold Dict.find
      split_ifs with he
      · exact ⟨e.2, rfl⟩
      · rw [List.map_cons] at h
        exact ih ((List.mem_cons.mp h).resolve_left fun hk => he hk.symm)
  obtain ⟨v, hv⟩ := hsome
  rw [hv, field, hv]
  rfl

/-- The keys of a mapping are exactly the listed ones. -/
def HasKeys (entries : List (PyText × JsonValue)) (keys : List String) : Prop :=
  (∀ k ∈ entries.map Prod.fst, k ∈ keys.map pyText) ∧
    ∀ k ∈ keys.map pyText, k ∈ entries.map Prod.fst

instance (entries : List (PyText × JsonValue)) (keys : List String) :
    Decidable (HasKeys entries keys) := inferInstanceAs (Decidable (_ ∧ _))

theorem hasKeys_named (entries : List (String × JsonValue)) :
    HasKeys (named entries) (entries.map Prod.fst) := by
  have hkeys : (named entries).map Prod.fst = (entries.map Prod.fst).map pyText := by
    rw [named, List.map_map, List.map_map]
    rfl
  unfold HasKeys
  rw [hkeys]
  exact ⟨fun _ h => h, fun _ h => h⟩

def exactMapping {ε : Type} (v : JsonValue) (keys : List String) (fault : ε) :
    Except ε (List (PyText × JsonValue)) :=
  match v with
  | .mapping entries => if HasKeys entries keys then .ok entries else .error fault
  | _ => .error fault

theorem exactMapping_ok_iff {ε : Type} (v : JsonValue) (keys : List String) (fault : ε)
    (entries : List (PyText × JsonValue)) :
    exactMapping v keys fault = .ok entries ↔ v = .mapping entries ∧ HasKeys entries keys := by
  cases v with
  | mapping es =>
    unfold exactMapping
    dsimp only
    rw [JsonValue.mapping.injEq]
    by_cases h : HasKeys es keys
    · rw [if_pos h, Except.ok.injEq]
      constructor
      · rintro rfl
        exact ⟨rfl, h⟩
      · exact And.left
    · rw [if_neg h]
      simp only [reduceCtorEq, false_iff]
      rintro ⟨rfl, hk⟩
      exact h hk
  | _ => simp [exactMapping]

def items {ε : Type} (v : JsonValue) (fault : ε) : Except ε (List JsonValue) :=
  match v with
  | .list vs => .ok vs
  | _ => .error fault

theorem items_ok_iff {ε : Type} (v : JsonValue) (fault : ε) (vs : List JsonValue) :
    items v fault = .ok vs ↔ v = .list vs := by
  cases v <;> simp [items]

/-! ## Checked records -/

abbrev Checked {F ε : Type} (check : F → Except ε Unit) : Type :=
  {fields : F // check fields = .ok ⟨⟩}

def construct {F ε : Type} (check : F → Except ε Unit) (fields : F) : Except ε (Checked check) :=
  match h : check fields with
  | .error e => .error e
  | .ok ⟨⟩ => .ok ⟨fields, h⟩

theorem construct_ok_iff {F ε : Type} (check : F → Except ε Unit) (fields : F)
    (x : Checked check) : construct check fields = .ok x ↔ x.val = fields := by
  unfold construct
  split
  · rename_i e he
    simp only [reduceCtorEq, false_iff]
    intro hx
    have hok := x.property
    rw [hx, he] at hok
    cases hok
  · rw [Except.ok.injEq]
    constructor
    · rintro rfl
      rfl
    · intro hx
      exact Subtype.ext hx.symm

theorem construct_error_iff {F ε : Type} (check : F → Except ε Unit) (fields : F) (e : ε) :
    construct check fields = .error e ↔ check fields = .error e := by
  unfold construct
  split
  · rename_i e' he
    rw [he, Except.error.injEq, Except.error.injEq]
  · rename_i hok
    simp [hok]

/-! ## Enumerations -/

def member {α : Type} (all : List α) (name : α → String) (v : JsonValue) : Option α :=
  all.find? fun a => v.isText (name a)

theorem member_some {α : Type} {all : List α} {name : α → String} {v : JsonValue} {a : α}
    (h : member all name v = some a) : v = .text (pyText (name a)) := by
  unfold member at h
  exact (isText_iff _ _).mp (List.find?_some (p := fun a => v.isText (name a)) h)

theorem member_name {α : Type} {all : List α} {name : α → String} {a : α}
    (hn : Function.Injective name) (h : a ∈ all) :
    member all name (.text (pyText (name a))) = some a := by
  unfold member
  induction all with
  | nil => cases h
  | cons b all ih =>
    rw [List.find?_cons]
    by_cases hb : name b = name a
    · obtain rfl := hn hb
      simp [JsonValue.isText]
    · have hne : (JsonValue.text (pyText (name a))).isText (name b) = false := by
        simp [JsonValue.isText, Ne.symm hb]
      rw [hne]
      refine ih ((List.mem_cons.mp h).resolve_left ?_)
      rintro rfl
      exact hb rfl

def enumFromValue {ε α : Type} (all : List α) (name : α → String) (fault : ε) (v : JsonValue) :
    Except ε α :=
  match member all name v with
  | some a => .ok a
  | none => .error fault

theorem enumFromValue_ok_iff {ε α : Type} {all : List α} {name : α → String} {fault : ε}
    (hn : Function.Injective name) (hall : ∀ a, a ∈ all) (v : JsonValue) (a : α) :
    enumFromValue all name fault v = .ok a ↔ v = .text (pyText (name a)) := by
  unfold enumFromValue
  constructor
  · intro h
    split at h
    · rename_i b hb
      cases h
      exact member_some hb
    · cases h
  · rintro rfl
    rw [member_name hn (hall a)]

/-! ## Agreement -/

def JsonValue.numeric : JsonValue → Option ℚ
  | .integer n => some n
  | .float (.finite q) => some q
  | _ => none

/-- The values are the same, numbers compared by value and mappings by key. -/
inductive Agree : JsonValue → JsonValue → Prop
  | same (v : JsonValue) : Agree v v
  | number {v w : JsonValue} {q : ℚ} (hv : v.numeric = some q) (hw : w.numeric = some q) :
      Agree v w
  | list {vs ws : List JsonValue} (h : List.Forall₂ Agree vs ws) : Agree (.list vs) (.list ws)
  | mapping {es fs : List (PyText × JsonValue)}
      (keys : ∀ k, k ∈ es.map Prod.fst ↔ k ∈ fs.map Prod.fst)
      (h : ∀ k v w, Dict.find k es = some v → Dict.find k fs = some w → Agree v w) :
      Agree (.mapping es) (.mapping fs)

theorem agree_of_eq {v w : JsonValue} (h : v = w) : Agree v w := h ▸ .same v

theorem find_mem {κ : Type} [DecidableEq κ] {ν : Type} {k : κ} {v : ν} {es : List (κ × ν)}
    (h : Dict.find k es = some v) : (k, v) ∈ es := by
  induction es with
  | nil => cases h
  | cons e es ih =>
    rw [Dict.find] at h
    split_ifs at h with he
    · cases h
      exact he ▸ List.mem_cons_self
    · exact List.mem_cons_of_mem _ (ih h)

theorem agree_record {es : List (PyText × JsonValue)} {fs : List (String × JsonValue)}
    (hk : HasKeys es (fs.map Prod.fst)) (h : ∀ f ∈ fs, Agree (field es f.1) f.2) :
    Agree (.mapping es) (.mapping (named fs)) := by
  have hnamed := hasKeys_named fs
  refine .mapping (fun k => ⟨fun hm => hnamed.2 k (hk.1 k hm), fun hm => hk.2 k (hnamed.1 k hm)⟩) ?_
  intro k v w hv hw
  obtain ⟨f, hf, he⟩ := List.mem_map.mp (find_mem hw)
  obtain ⟨rfl, rfl⟩ := Prod.mk.inj he
  have hfield := h f hf
  rwa [field, hv] at hfield

theorem agree_list {ε α : Type} {read : JsonValue → Except ε α} {write : α → JsonValue}
    {vs : List JsonValue} {xs : List α} (h : vs.mapM read = .ok xs)
    (ha : ∀ v ∈ vs, ∀ x, read v = .ok x → Agree v (write x)) :
    Agree (.list vs) (.list (xs.map write)) := by
  refine .list (List.forall₂_map_right_iff.mpr ?_)
  exact forall₂_imp ((mapM_returns_iff _ _ _).mp h) ha

theorem mapM_written {ε α : Type} {read : JsonValue → Except ε α} {write : α → JsonValue}
    (h : ∀ x, read (write x) = .ok x) (xs : List α) : (xs.map write).mapM read = .ok xs := by
  refine (mapM_returns_iff _ _ _).mpr (List.forall₂_map_left_iff.mpr ?_)
  exact List.forall₂_same.mpr fun x _ => h x

/-! ## Values without special floats -/

inductive FiniteNumbers : JsonValue → Prop
  | null : FiniteNumbers .null
  | boolean (b : Bool) : FiniteNumbers (.boolean b)
  | integer (n : ℤ) : FiniteNumbers (.integer n)
  | float (q : ℚ) : FiniteNumbers (.float (.finite q))
  | text (s : PyText) : FiniteNumbers (.text s)
  | list {vs : List JsonValue} (h : ∀ v ∈ vs, FiniteNumbers v) : FiniteNumbers (.list vs)
  | mapping {es : List (PyText × JsonValue)} (h : ∀ e ∈ es, FiniteNumbers e.2) :
      FiniteNumbers (.mapping es)

theorem finiteNumbers_items {vs : List JsonValue} (h : FiniteNumbers (.list vs)) :
    ∀ v ∈ vs, FiniteNumbers v := by
  cases h with
  | list h => exact h

theorem finiteNumbers_field {es : List (PyText × JsonValue)} (h : FiniteNumbers (.mapping es))
    (key : String) : FiniteNumbers (field es key) := by
  cases h with
  | mapping h =>
    unfold field
    cases hf : Dict.find (pyText key) es with
    | none => exact .null
    | some v => exact h _ (find_mem hf)

def exactly (n : ℤ) : Option ℚ := some n

end CacheBlend.JsonValues
