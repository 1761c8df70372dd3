import CacheBlend.PrefixCodes
import CacheBlend.Sorting
import Mathlib.Data.List.Forall2
import Mathlib.Data.List.Nodup

/-!
# Compact JSON texts

Trees with text keys are written as `json.dumps` writes them without blanks:
non-ASCII text is escaped, integers are decimal and floats are their `repr`.
The text of a value and the rest of a stream are determined by the stream they
begin, if the rest does not continue a number. So a text determines its tree.
-/

set_option autoImplicit false

namespace CacheBlend.JsonText

/-- The characters of an integer or of the `repr` of a finite float. -/
def numberChar (c : Char) : Bool :=
  c.isDigit || c = '-' || c = '+' || c = '.' || c = 'e'

/-- A finite float, by its `repr`. -/
@[ext] structure FloatText where
  chars : List Char
  numeric : ∀ c ∈ chars, numberChar c = true
  fractional : '.' ∈ chars ∨ 'e' ∈ chars
  deriving DecidableEq

inductive JsonTree where
  | null
  | boolean (b : Bool)
  | integer (n : ℤ)
  | float (f : FloatText)
  | text (s : String)
  | list (items : List JsonTree)
  | object (entries : List (String × JsonTree))

/-! ## Writing -/

/-- `ESCAPE_DCT`: the characters with an escape of two characters. -/
def shortEscapes : List (Char × Char) :=
  [('\\', '\\'), ('"', '"'), ('\x08', 'b'), ('\x0c', 'f'), ('\n', 'n'), ('\r', 'r'), ('\t', 't')]

def shortEscape (c : Char) : Option Char :=
  (shortEscapes.find? fun p => p.1 = c).map Prod.snd

def hexWord (n : ℕ) : List Char :=
  [hexDigit (n/4096%16), hexDigit (n/256%16), hexDigit (n/16%16), hexDigit (n%16)]

def unicodeEscape (n : ℕ) : List Char := '\\' :: 'u' :: hexWord n

/-- The escape of one character; one beyond the basic plane is a surrogate pair. -/
def escape (c : Char) : List Char :=
  match shortEscape c with
  | some short => ['\\', short]
  | none =>
    if ' '.toNat ≤ c.toNat ∧ c.toNat ≤ '~'.toNat then [c]
    else if c.toNat < 0x10000 then unicodeEscape c.toNat
    else unicodeEscape (0xd800+(c.toNat-0x10000)/1024) ++
      unicodeEscape (0xdc00+(c.toNat-0x10000)%1024)

def quoted (s : String) : List Char := '"'::s.toList.flatMap escape ++ ['"']

def separated (close : Char) : List (List Char) → List Char
  | [] => [close]
  | [x] => x ++ [close]
  | x::y::rest => x ++ ','::separated close (y::rest)

mutual

def write : JsonTree → List Char
  | .null => "null".toList
  | .boolean true => "true".toList
  | .boolean false => "false".toList
  | .integer n => (toString n).toList
  | .float f => f.chars
  | .text s => quoted s
  | .list items => '['::separated ']' (writeAll items)
  | .object entries => '{'::separated '}' (writeEntries entries)

def writeAll : List JsonTree → List (List Char)
  | [] => []
  | x::rest => write x :: writeAll rest

def writeEntries : List (String × JsonTree) → List (List Char)
  | [] => []
  | (key, value)::rest => (quoted key ++ ':'::write value) :: writeEntries rest

end

mutual

/-- The tree with the entries of every object in the order of their keys. -/
def sortKeys : JsonTree → JsonTree
  | .list items => .list (sortAll items)
  | .object entries => .object (sortedBy Prod.fst (sortEntries entries))
  | tree => tree

def sortAll : List JsonTree → List JsonTree
  | [] => []
  | x::rest => sortKeys x :: sortAll rest

def sortEntries : List (String × JsonTree) → List (String × JsonTree)
  | [] => []
  | (key, value)::rest => (key, sortKeys value) :: sortEntries rest

end

/-- `json.dumps` with `ensure_ascii`, `sort_keys` and compact separators. -/
def dumps (tree : JsonTree) : List Char := write (sortKeys tree)

example : dumps (.list [.integer (-1), .text "\u00e9\n", .null]) =
    "[-1,\"\\u00e9\\n\",null]".toList := by decide +kernel

/-! ## Characters and texts -/

theorem hexWord_injective {m n : ℕ} (hm : m < 65536) (hn : n < 65536)
    (h : hexWord m = hexWord n) : m = n := by
  simp only [hexWord, List.cons.injEq, and_true] at h
  have h1 := hexDigit_injective _ (by omega) _ (by omega) h.1
  have h2 := hexDigit_injective _ (by omega) _ (by omega) h.2.1
  have h3 := hexDigit_injective _ (by omega) _ (by omega) h.2.2.1
  have h4 := hexDigit_injective _ (by omega) _ (by omega) h.2.2.2
  omega

theorem unicodeEscape_read {m n : ℕ} {rest rest' : List Char} (hm : m < 65536) (hn : n < 65536)
    (h : unicodeEscape m ++ rest = unicodeEscape n ++ rest') : m = n ∧ rest = rest' := by
  obtain ⟨he, hr⟩ := List.append_inj h rfl
  simp only [unicodeEscape, List.cons.injEq, true_and] at he
  exact ⟨hexWord_injective hm hn he, hr⟩

inductive EscapeShape (c : Char) : List Char → Prop where
  | short {short : Char} (h : shortEscape c = some short) : EscapeShape c ['\\', short]
  | plain (h : shortEscape c = none) : EscapeShape c [c]
  | basic (h : c.toNat < 0x10000) : EscapeShape c (unicodeEscape c.toNat)
  | pair (h : 0x10000 ≤ c.toNat) : EscapeShape c
      (unicodeEscape (0xd800+(c.toNat-0x10000)/1024) ++
        unicodeEscape (0xdc00+(c.toNat-0x10000)%1024))

theorem escape_shape (c : Char) : EscapeShape c (escape c) := by
  unfold escape
  cases h : shortEscape c with
  | some short => exact .short h
  | none =>
    dsimp only
    split_ifs with hp hb
    · exact .plain h
    · exact .basic hb
    · exact .pair (Nat.le_of_not_lt hb)

theorem mem_shortEscapes {c short : Char} (h : shortEscape c = some short) :
    (c, short) ∈ shortEscapes := by
  obtain ⟨p, hp, rfl⟩ := Option.map_eq_some_iff.mp h
  have hc : p.1 = c := by simpa using List.find?_some hp
  rw [← hc]
  exact List.mem_of_find?_eq_some hp

theorem shortEscape_injective {c d short : Char} (hc : shortEscape c = some short)
    (hd : shortEscape d = some short) : c = d := by
  have hnodup : (shortEscapes.map Prod.snd).Nodup := by decide
  exact congrArg Prod.fst
    (List.inj_on_of_nodup_map hnodup (mem_shortEscapes hc) (mem_shortEscapes hd) rfl)

theorem shortEscape_ne_u {c short : Char} (h : shortEscape c = some short) : short ≠ 'u' := by
  have hu : 'u' ∉ shortEscapes.map Prod.snd := by decide
  rintro rfl
  exact hu (List.mem_map_of_mem (mem_shortEscapes h))

theorem plain_ne {c : Char} (h : shortEscape c = none) : c ≠ '\\' ∧ c ≠ '"' := by
  constructor
  · rintro rfl
    exact absurd h (by decide)
  · rintro rfl
    exact absurd h (by decide)

theorem not_surrogate (c : Char) : c.toNat < 0xd800 ∨ 0xdfff < c.toNat := by
  obtain h | h := c.valid
  · exact Or.inl h
  · exact Or.inr h.1

theorem char_bound (c : Char) : c.toNat < 0x110000 := by
  obtain h | h := c.valid
  · exact h.trans (by decide)
  · exact h.2

theorem escape_read {c d : Char} {rest rest' : List Char}
    (h : escape c ++ rest = escape d ++ rest') : c = d ∧ rest = rest' := by
  have hword : ∀ n, unicodeEscape n = '\\' :: 'u' :: hexWord n := fun _ => rfl
  have hcb := char_bound c
  have hdb := char_bound d
  have hcs := not_surrogate c
  have hds := not_surrogate d
  generalize hx : escape c = x at h
  generalize hy : escape d = y at h
  cases hx ▸ escape_shape c with
  | short hc =>
    cases hy ▸ escape_shape d with
    | short hd =>
      simp only [List.cons_append, List.nil_append, List.cons.injEq, true_and] at h
      obtain ⟨rfl, hr⟩ := h
      exact ⟨shortEscape_injective hc hd, hr⟩
    | plain hd => exact absurd (List.cons.inj h).1.symm (plain_ne hd).1
    | basic hd => exact absurd (List.cons.inj (List.cons.inj h).2).1 (shortEscape_ne_u hc)
    | pair hd => exact absurd (List.cons.inj (List.cons.inj h).2).1 (shortEscape_ne_u hc)
  | plain hc =>
    cases hy ▸ escape_shape d with
    | short hd => exact absurd (List.cons.inj h).1 (plain_ne hc).1
    | plain hd => exact List.cons.inj h
    | basic hd => exact absurd (List.cons.inj h).1 (plain_ne hc).1
    | pair hd => exact absurd (List.cons.inj h).1 (plain_ne hc).1
  | basic hc =>
    cases hy ▸ escape_shape d with
    | short hd => exact absurd (List.cons.inj (List.cons.inj h).2).1.symm (shortEscape_ne_u hd)
    | plain hd => exact absurd (List.cons.inj h).1.symm (plain_ne hd).1
    | basic hd =>
      obtain ⟨hn, hr⟩ := unicodeEscape_read (by omega) (by omega) h
      exact ⟨Char.toNat_inj.mp hn, hr⟩
    | pair hd =>
      rw [List.append_assoc] at h
      obtain ⟨hn, _⟩ := unicodeEscape_read (by omega) (by omega) h
      omega
  | pair hc =>
    cases hy ▸ escape_shape d with
    | short hd => exact absurd (List.cons.inj (List.cons.inj h).2).1.symm (shortEscape_ne_u hd)
    | plain hd => exact absurd (List.cons.inj h).1.symm (plain_ne hd).1
    | basic hd =>
      rw [List.append_assoc] at h
      obtain ⟨hn, _⟩ := unicodeEscape_read (by omega) (by omega) h
      omega
    | pair hd =>
      rw [List.append_assoc, List.append_assoc] at h
      obtain ⟨hhigh, h⟩ := unicodeEscape_read (by omega) (by omega) h
      obtain ⟨hlow, hr⟩ := unicodeEscape_read (by omega) (by omega) h
      exact ⟨Char.toNat_inj.mp (by omega), hr⟩

theorem escape_ne_quote (c : Char) (rest rest' : List Char) : escape c ++ rest ≠ '"'::rest' := by
  generalize hx : escape c = x
  cases hx ▸ escape_shape c with
  | short hc => exact fun h => absurd (List.cons.inj h).1 (by decide)
  | plain hc => exact fun h => (plain_ne hc).2 (List.cons.inj h).1
  | basic hc => exact fun h => absurd (List.cons.inj h).1 (by decide)
  | pair hc => exact fun h => absurd (List.cons.inj h).1 (by decide)

theorem escapes_read (s t : List Char) (rest rest' : List Char)
    (h : s.flatMap escape ++ '"'::rest = t.flatMap escape ++ '"'::rest') :
    s = t ∧ rest = rest' := by
  induction s generalizing t with
  | nil =>
    cases t with
    | nil => exact ⟨rfl, (List.cons.inj h).2⟩
    | cons d t =>
      rw [List.flatMap_cons, List.append_assoc] at h
      exact absurd h.symm (escape_ne_quote d _ _)
  | cons c s ih =>
    cases t with
    | nil =>
      rw [List.flatMap_cons, List.append_assoc] at h
      exact absurd h (escape_ne_quote c _ _)
    | cons d t =>
      simp only [List.flatMap_cons, List.append_assoc] at h
      obtain ⟨rfl, htail⟩ := escape_read h
      obtain ⟨rfl, hr⟩ := ih t htail
      exact ⟨rfl, hr⟩

theorem quoted_read {s t : String} {rest rest' : List Char}
    (h : quoted s ++ rest = quoted t ++ rest') : s = t ∧ rest = rest' := by
  simp only [quoted, List.cons_append, List.append_assoc, List.nil_append, List.cons.injEq,
    true_and] at h
  obtain ⟨hs, hr⟩ := escapes_read _ _ _ _ h
  exact ⟨String.toList_injective hs, hr⟩

/-! ## Numbers -/

/-- The rest of a stream does not continue a number. -/
def Ends (rest : List Char) : Prop := rest.takeWhile numberChar = []

theorem number_read {s t rest rest' : List Char} (hs : ∀ c ∈ s, numberChar c = true)
    (ht : ∀ c ∈ t, numberChar c = true) (hr : Ends rest) (hr' : Ends rest')
    (h : s ++ rest = t ++ rest') : s = t ∧ rest = rest' := by
  have htake := congrArg (List.takeWhile numberChar) h
  rw [List.takeWhile_append_of_pos hs, List.takeWhile_append_of_pos ht, hr, hr',
    List.append_nil, List.append_nil] at htake
  rw [htake] at h
  exact ⟨htake, List.append_cancel_left h⟩

theorem decimal_digits (n : ℕ) : ∀ c ∈ n.repr.toList, c.isDigit = true := by
  intro c hc
  rw [Nat.toList_repr] at hc
  exact Nat.isDigit_of_mem_toDigits (by decide) (by decide) hc

theorem integer_chars (n : ℤ) : ∀ c ∈ (toString n).toList, c.isDigit = true ∨ c = '-' := by
  intro c hc
  rw [Int.toString_eq_repr, Int.repr_eq_if] at hc
  split_ifs at hc
  · exact Or.inl (decimal_digits _ _ hc)
  · rw [String.toList_append, List.mem_append] at hc
    obtain hc | hc := hc
    · exact Or.inr (List.mem_singleton.mp hc)
    · exact Or.inl (decimal_digits _ _ hc)

theorem integer_numeric (n : ℤ) : ∀ c ∈ (toString n).toList, numberChar c = true := by
  intro c hc
  unfold numberChar
  obtain h | rfl := integer_chars n c hc
  · rw [h]
    rfl
  · rfl

theorem integer_ne_nil (n : ℤ) : (toString n).toList ≠ [] := by
  rw [Int.toString_eq_repr, Int.repr_eq_if]
  split_ifs
  · exact fun h => Nat.repr_ne_empty (String.toList_injective h)
  · rw [String.toList_append]
    exact List.cons_ne_nil _ _

theorem natural_ne_negative (m n : ℕ) : m.repr.toList ≠ ("-" ++ n.repr).toList := by
  intro h
  have hminus : '-' ∈ m.repr.toList := by
    rw [h, String.toList_append]
    exact List.mem_cons_self
  exact absurd (decimal_digits m _ hminus) (by decide)

theorem integer_injective : Function.Injective (fun n : ℤ => (toString n).toList) := by
  intro m n h
  have htext := String.toList_injective h
  rw [Int.toString_eq_repr, Int.toString_eq_repr, Int.repr_eq_if, Int.repr_eq_if] at htext
  split_ifs at htext with hm hn hn
  · have hnat := decimal_injective htext
    omega
  · exact absurd (congrArg String.toList htext) (natural_ne_negative _ _)
  · exact absurd (congrArg String.toList htext).symm (natural_ne_negative _ _)
  · rw [String.append_right_inj] at htext
    have hnat := decimal_injective htext
    omega

theorem integer_ne_float (n : ℤ) (f : FloatText) : (toString n).toList ≠ f.chars := by
  intro h
  obtain hf | hf := f.fractional
  · exact absurd (integer_chars n _ (h ▸ hf)) (by decide)
  · exact absurd (integer_chars n _ (h ▸ hf)) (by decide)

/-! ## Sequences -/

section
variable {α : Type} (encode : α → List Char)

/-- The value and the rest are determined by a stream that the value begins. -/
def ReadAt (a : α) : Prop :=
  ∀ b rest rest', Ends rest → Ends rest' → encode a ++ rest = encode b ++ rest' →
    a = b ∧ rest = rest'

/-- What follows the first part: the bracket, or a comma and the other parts. -/
def following (close : Char) : List (List Char) → List Char
  | [] => [close]
  | x::rest => ','::separated close (x::rest)

theorem separated_cons (close : Char) (x : List Char) (rest : List (List Char)) :
    separated close (x::rest) = x ++ following close rest := by
  cases rest with
  | nil => rfl
  | cons y rest => rfl

theorem ends_following {close : Char} (hc : numberChar close = false) (parts : List (List Char))
    (rest : List Char) : Ends (following close parts ++ rest) := by
  cases parts with
  | nil => simp [Ends, following, hc]
  | cons x parts => simp [Ends, following, show numberChar ',' = false by decide]

theorem separated_read {close : Char} (hc : numberChar close = false) (hcomma : close ≠ ',')
    (hstart : ∀ a rest rest', encode a ++ rest ≠ close::rest') (xs ys : List α)
    (hx : ∀ x ∈ xs, ReadAt encode x) (rest rest' : List Char)
    (h : separated close (xs.map encode) ++ rest = separated close (ys.map encode) ++ rest') :
    xs = ys ∧ rest = rest' := by
  induction xs generalizing ys with
  | nil =>
    cases ys with
    | nil => exact ⟨rfl, (List.cons.inj h).2⟩
    | cons y ys =>
      rw [List.map_cons, separated_cons, List.append_assoc] at h
      exact absurd h.symm (hstart _ _ _)
  | cons x xs ih =>
    cases ys with
    | nil =>
      rw [List.map_cons, separated_cons, List.append_assoc] at h
      exact absurd h (hstart _ _ _)
    | cons y ys =>
      simp only [List.map_cons, separated_cons, List.append_assoc] at h
      obtain ⟨rfl, htail⟩ := hx x List.mem_cons_self y _ _ (ends_following hc _ _)
        (ends_following hc _ _) h
      cases xs with
      | nil =>
        cases ys with
        | nil => exact ⟨rfl, (List.cons.inj htail).2⟩
        | cons z ys => exact absurd (List.cons.inj htail).1 hcomma
      | cons z xs =>
        cases ys with
        | nil => exact absurd (List.cons.inj htail).1.symm hcomma
        | cons z' ys =>
          obtain ⟨he, hr⟩ := ih (z'::ys) (fun a ha => hx a (List.mem_cons_of_mem _ ha))
            (List.cons.inj htail).2
          exact ⟨congrArg _ he, hr⟩

end

/-! ## Trees -/

/-- What the first character of a text says of its tree. -/
inductive Kind where
  | null
  | boolean
  | number
  | text
  | list
  | object
  | close
  deriving DecidableEq

def kindOf (c : Char) : Kind :=
  if numberChar c = true then .number
  else if c = 'n' then .null
  else if c = 't' ∨ c = 'f' then .boolean
  else if c = '"' then .text
  else if c = '[' then .list
  else if c = '{' then .object
  else .close

def JsonTree.kind : JsonTree → Kind
  | .null => .null
  | .boolean _ => .boolean
  | .integer _ => .number
  | .float _ => .number
  | .text _ => .text
  | .list _ => .list
  | .object _ => .object

theorem number_lead {s : List Char} (hn : s ≠ []) (hs : ∀ c ∈ s, numberChar c = true) :
    ∃ c rest, s = c::rest ∧ kindOf c = .number := by
  cases s with
  | nil => exact absurd rfl hn
  | cons c rest => exact ⟨c, rest, rfl, if_pos (hs c List.mem_cons_self)⟩

theorem write_lead (tree : JsonTree) :
    ∃ c rest, write tree = c::rest ∧ kindOf c = tree.kind := by
  cases tree with
  | null => exact ⟨_, _, rfl, by decide⟩
  | boolean b =>
    cases b with
    | false => exact ⟨_, _, rfl, by decide⟩
    | true => exact ⟨_, _, rfl, by decide⟩
  | integer n =>
    exact number_lead (integer_ne_nil n) (integer_numeric n)
  | float f =>
    apply number_lead _ f.numeric
    intro h
    have hf := f.fractional
    rw [h] at hf
    simp at hf
  | text s => exact ⟨_, _, rfl, show kindOf '"' = .text by decide⟩
  | list items => exact ⟨_, _, rfl, show kindOf '[' = .list by decide⟩
  | object entries => exact ⟨_, _, rfl, show kindOf '{' = .object by decide⟩

theorem kind_eq {tree tree' : JsonTree} {rest rest' : List Char}
    (h : write tree ++ rest = write tree' ++ rest') : tree.kind = tree'.kind := by
  obtain ⟨c, s, hs, hc⟩ := write_lead tree
  obtain ⟨c', s', hs', hc'⟩ := write_lead tree'
  rw [hs, hs'] at h
  rw [← hc, ← hc', (List.cons.inj h).1]

theorem write_not_closed (tree : JsonTree) (rest rest' : List Char) :
    write tree ++ rest ≠ ']'::rest' := by
  intro h
  obtain ⟨c, s, hs, hc⟩ := write_lead tree
  rw [hs] at h
  rw [(List.cons.inj h).1] at hc
  cases tree <;> cases hc

def writeEntry (e : String × JsonTree) : List Char := quoted e.1 ++ ':'::write e.2

theorem writeAll_eq (items : List JsonTree) : writeAll items = items.map write := by
  induction items with
  | nil => rfl
  | cons x rest ih => rw [writeAll, ih, List.map_cons]

theorem writeEntries_eq (entries : List (String × JsonTree)) :
    writeEntries entries = entries.map writeEntry := by
  induction entries with
  | nil => rfl
  | cons e rest ih => rw [writeEntries, ih, List.map_cons, writeEntry]

theorem entry_read {e : String × JsonTree} (h : ReadAt write e.2) : ReadAt writeEntry e := by
  intro e' rest rest' hr hr' he
  simp only [writeEntry, List.append_assoc, List.cons_append] at he
  obtain ⟨hkey, he⟩ := quoted_read he
  obtain ⟨hvalue, hrest⟩ := h e'.2 rest rest' hr hr' (List.cons.inj he).2
  exact ⟨Prod.ext hkey hvalue, hrest⟩

mutual

theorem write_read : ∀ tree : JsonTree, ReadAt write tree
  | .null => by
    intro tree' rest rest' _ _ h
    cases tree' <;> try cases kind_eq h
    exact ⟨rfl, List.append_cancel_left h⟩
  | .boolean b => by
    intro tree' rest rest' _ _ h
    cases tree' <;> try cases kind_eq h
    next b' =>
      cases b <;> cases b'
      · exact ⟨rfl, List.append_cancel_left h⟩
      · cases h
      · cases h
      · exact ⟨rfl, List.append_cancel_left h⟩
  | .integer n => by
    intro tree' rest rest' hr hr' h
    cases tree' <;> try cases kind_eq h
    next n' =>
      obtain ⟨he, hrest⟩ := number_read (integer_numeric n) (integer_numeric n') hr hr' h
      exact ⟨congrArg _ (integer_injective he), hrest⟩
    next f =>
      exact absurd (number_read (integer_numeric n) f.numeric hr hr' h).1 (integer_ne_float n f)
  | .float f => by
    intro tree' rest rest' hr hr' h
    cases tree' <;> try cases kind_eq h
    next n =>
      exact absurd (number_read f.numeric (integer_numeric n) hr hr' h).1.symm
        (integer_ne_float n f)
    next f' =>
      obtain ⟨he, hrest⟩ := number_read f.numeric f'.numeric hr hr' h
      exact ⟨congrArg _ (FloatText.ext he), hrest⟩
  | .text s => by
    intro tree' rest rest' _ _ h
    cases tree' <;> try cases kind_eq h
    obtain ⟨he, hrest⟩ := quoted_read h
    exact ⟨congrArg _ he, hrest⟩
  | .list items => by
    intro tree' rest rest' _ _ h
    cases tree' <;> try cases kind_eq h
    next items' =>
      have hs := (List.cons.inj h).2
      rw [writeAll_eq, writeAll_eq] at hs
      obtain ⟨he, hrest⟩ := separated_read write (by decide) (by decide) write_not_closed items
        items' (writeAll_read items) rest rest' hs
      exact ⟨congrArg _ he, hrest⟩
  | .object entries => by
    intro tree' rest rest' _ _ h
    cases tree' <;> try cases kind_eq h
    next entries' =>
      have hs := (List.cons.inj h).2
      rw [writeEntries_eq, writeEntries_eq] at hs
      obtain ⟨he, hrest⟩ := separated_read writeEntry (by decide) (by decide)
        (fun _ _ _ h => absurd (List.cons.inj h).1 (by decide)) entries entries'
        (fun e he => entry_read (writeEntries_read entries e he)) rest rest' hs
      exact ⟨congrArg _ he, hrest⟩

theorem writeAll_read : ∀ items : List JsonTree, ∀ x ∈ items, ReadAt write x
  | [], _, h => absurd h List.not_mem_nil
  | y::rest, x, h => by
    obtain he | h := List.mem_cons.mp h
    · rw [he]
      exact write_read y
    · exact writeAll_read rest x h

theorem writeEntries_read : ∀ entries : List (String × JsonTree), ∀ e ∈ entries,
    ReadAt write e.2
  | [], _, h => absurd h List.not_mem_nil
  | (key, value)::rest, e, h => by
    obtain he | h := List.mem_cons.mp h
    · rw [he]
      exact write_read value
    · exact writeEntries_read rest e h

end

theorem write_injective : Function.Injective write := by
  intro tree tree' h
  exact (write_read tree tree' [] [] rfl rfl (by rw [h])).1

/-! ## Trees in order -/

mutual

def Ordered : JsonTree → Prop
  | .list items => OrderedAll items
  | .object entries => entries.Pairwise (fun e e' => e.1 ≤ e'.1) ∧ OrderedEntries entries
  | _ => True

def OrderedAll : List JsonTree → Prop
  | [] => True
  | x::rest => Ordered x ∧ OrderedAll rest

def OrderedEntries : List (String × JsonTree) → Prop
  | [] => True
  | (_, value)::rest => Ordered value ∧ OrderedEntries rest

end

mutual

theorem sortKeys_ordered : ∀ tree : JsonTree, Ordered tree → sortKeys tree = tree
  | .null, _ => rfl
  | .boolean _, _ => rfl
  | .integer _, _ => rfl
  | .float _, _ => rfl
  | .text _, _ => rfl
  | .list items, h => by
    unfold Ordered at h
    rw [sortKeys, sortAll_ordered items h]
  | .object entries, h => by
    unfold Ordered at h
    rw [sortKeys, sortEntries_ordered entries h.2, sortedBy_eq_self _ _ h.1]

theorem sortAll_ordered : ∀ items : List JsonTree, OrderedAll items → sortAll items = items
  | [], _ => rfl
  | x::rest, h => by
    unfold OrderedAll at h
    rw [sortAll, sortKeys_ordered x h.1, sortAll_ordered rest h.2]

theorem sortEntries_ordered : ∀ entries : List (String × JsonTree),
    OrderedEntries entries → sortEntries entries = entries
  | [], _ => rfl
  | (key, value)::rest, h => by
    unfold OrderedEntries at h
    rw [sortEntries, sortKeys_ordered value h.1, sortEntries_ordered rest h.2]

end

theorem dumps_injective {tree tree' : JsonTree} (h : Ordered tree) (h' : Ordered tree')
    (he : dumps tree = dumps tree') : tree = tree' := by
  unfold dumps at he
  rw [sortKeys_ordered tree h, sortKeys_ordered tree' h'] at he
  exact write_injective he

theorem orderedEntries_iff (entries : List (String × JsonTree)) :
    OrderedEntries entries ↔ ∀ e ∈ entries, Ordered e.2 := by
  induction entries with
  | nil => simp [OrderedEntries]
  | cons e rest ih => rw [OrderedEntries, ih, List.forall_mem_cons]

end CacheBlend.JsonText
