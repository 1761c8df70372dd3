import Mathlib.Data.String.Basic
import Mathlib.Data.List.Basic
import Mathlib.Data.List.Lex
import Mathlib.Order.Defs.LinearOrder

/-!
# Byte strings

Byte strings are compared lexicographically by unsigned value. Text is
encoded in UTF-8, integers as fixed-width big-endian words, and digests are
byte strings of thirty-two bytes. Hexadecimal text determines its bytes.
-/

set_option autoImplicit false

namespace CacheBlend

instance linearOrderUInt8 : LinearOrder UInt8 where
  le_refl := UInt8.le_refl
  le_trans _ _ _ := UInt8.le_trans
  le_antisymm _ _ := UInt8.le_antisymm
  le_total := UInt8.le_total
  lt_iff_le_not_ge a b := by
    simp only [UInt8.lt_iff_toNat_lt, UInt8.le_iff_toNat_le]
    omega
  toDecidableLE := inferInstance
  toDecidableEq := inferInstance
  toDecidableLT := inferInstance

abbrev Bytes := List UInt8

abbrev Digest := {b : Bytes // b.length = 32}

/-- Membership among byte strings is decided by the equality of their bytes. -/
instance lawfulBEqBytes : LawfulBEq (List UInt8) := inferInstance

def utf8 (text : String) : Bytes := text.toList.flatMap String.utf8EncodeChar

def bigEndian : ℕ → ℕ → Bytes
  | 0, _ => []
  | width+1, n => bigEndian width (n/256) ++ [UInt8.ofNat n]

/-- `struct.pack(">Q", n)` for a value below `2 ^ 64`. -/
def packU64 (n : ℕ) : Bytes := bigEndian 8 n

/-- `struct.pack(">I", n)` for a value below `2 ^ 32`. -/
def packU32 (n : ℕ) : Bytes := bigEndian 4 n

@[simp] theorem bigEndian_length (width n : ℕ) : (bigEndian width n).length = width := by
  induction width generalizing n with
  | zero => rfl
  | succ width ih => simp [bigEndian, ih]

theorem bigEndian_injective (width m n : ℕ) (hm : m < 256^width) (hn : n < 256^width)
    (h : bigEndian width m = bigEndian width n) : m = n := by
  induction width generalizing m n with
  | zero => omega
  | succ width ih =>
    have hp : bigEndian width (m/256) = bigEndian width (n/256) ∧
        [UInt8.ofNat m] = [UInt8.ofNat n] :=
      List.append_inj h (by simp)
    have hq : m/256 = n/256 :=
      ih _ _ (by rw [pow_succ] at hm; omega) (by rw [pow_succ] at hn; omega) hp.1
    have hr : m%256 = n%256 := by
      have hb := congrArg UInt8.toNat (List.singleton_inj.mp hp.2)
      simpa using hb
    omega

def unpackBig (b : Bytes) : ℕ := b.foldl (fun n x => n*256+x.toNat) 0

theorem unpackBig_bigEndian (width n : ℕ) (h : n < 256^width) :
    unpackBig (bigEndian width n) = n := by
  induction width generalizing n with
  | zero =>
    rw [pow_zero] at h
    exact (Nat.lt_one_iff.mp h).symm
  | succ width ih =>
    have hq : unpackBig (bigEndian width (n/256)) = n/256 :=
      ih _ (by rw [pow_succ] at h; omega)
    have hr : (UInt8.ofNat n).toNat = n%256 := by simp
    unfold unpackBig at hq ⊢
    rw [bigEndian, List.foldl_append, hq, List.foldl_cons, List.foldl_nil, hr]
    omega

/-- The words of eight bytes of a payload; `struct.iter_unpack(">Q", payload)`. -/
def unpackWords : Bytes → List ℕ
  | a::b::c::d::e::f::g::h::rest => unpackBig [a, b, c, d, e, f, g, h] :: unpackWords rest
  | _ => []

theorem unpackWords_append (w rest : Bytes) (h : w.length = 8) :
    unpackWords (w ++ rest) = unpackBig w :: unpackWords rest := by
  match w, h with
  | [_, _, _, _, _, _, _, _], _ => rfl

theorem unpackWords_pack (ns : List ℕ) (h : ∀ n ∈ ns, n < 2^64) :
    unpackWords (ns.flatMap packU64) = ns := by
  induction ns with
  | nil => rfl
  | cons n ns ih =>
    have hn : unpackBig (packU64 n) = n := unpackBig_bigEndian 8 n (h n List.mem_cons_self)
    rw [List.flatMap_cons, unpackWords_append (packU64 n) _ (bigEndian_length 8 n), hn,
      ih fun k hk => h k (List.mem_cons_of_mem _ hk)]

def hexDigit (n : ℕ) : Char :=
  if n < 10 then Char.ofNat (48+n) else Char.ofNat (87+n)

def hexByte (b : UInt8) : List Char := [hexDigit (b.toNat/16), hexDigit (b.toNat%16)]

def hex (b : Bytes) : String := String.ofList (b.flatMap hexByte)

theorem hexDigit_injective : ∀ m < 16, ∀ n < 16, hexDigit m = hexDigit n → m = n := by
  decide

theorem hexByte_injective (a b : UInt8) (h : hexByte a = hexByte b) : a = b := by
  have ha := a.toNat_lt
  have hb := b.toNat_lt
  simp only [hexByte, List.cons.injEq, and_true] at h
  have hq := hexDigit_injective _ (by omega) _ (by omega) h.1
  have hr := hexDigit_injective _ (by omega) _ (by omega) h.2
  apply UInt8.toNat_inj.mp
  omega

theorem hex_injective (a b : Bytes) (h : hex a = hex b) : a = b := by
  have hl : a.flatMap hexByte = b.flatMap hexByte := String.ofList_injective h
  clear h
  induction a generalizing b with
  | nil =>
    cases b with
    | nil => rfl
    | cons y b => simp [hexByte] at hl
  | cons x a ih =>
    cases b with
    | nil => simp [hexByte] at hl
    | cons y b =>
      rw [List.flatMap_cons, List.flatMap_cons] at hl
      have hp := List.append_inj hl (by simp [hexByte])
      rw [hexByte_injective x y hp.1, ih b hp.2]

end CacheBlend
