import CacheBlend.Bytes
import Mathlib.Data.List.Forall2

/-!
# Encodings that can be read back

An encoding is readable when its value and the rest of a stream are determined
by the stream it begins. Words of a fixed width are readable, so is a value
with its length in front, and so are sequences of readable encodings whose
number is known. Text and decimal numerals determine what they stand for.
-/

set_option autoImplicit false

namespace CacheBlend

section
variable {α β : Type*}

/-- The values of `P` can be told apart at the front of any stream. -/
def Readable (P : α → Prop) (encode : α → Bytes) : Prop :=
  ∀ a b rest rest', P a → P b → encode a ++ rest = encode b ++ rest' → a = b ∧ rest = rest'

theorem readable_injective {P : α → Prop} {encode : α → Bytes} (h : Readable P encode) {a b : α}
    (ha : P a) (hb : P b) (he : encode a = encode b) : a = b :=
  (h a b [] [] ha hb (by rw [he])).1

theorem readable_fixed {P : α → Prop} {encode : α → Bytes} (width : ℕ)
    (hw : ∀ a, P a → (encode a).length = width)
    (hi : ∀ a b, P a → P b → encode a = encode b → a = b) : Readable P encode := by
  intro a b rest rest' ha hb h
  obtain ⟨he, hr⟩ := List.append_inj h ((hw a ha).trans (hw b hb).symm)
  exact ⟨hi a b ha hb he, hr⟩

theorem readable_map {P : α → Prop} {encode : α → Bytes} (h : Readable P encode) (f : β → α)
    (hf : Function.Injective f) : Readable (fun b => P (f b)) (fun b => encode (f b)) := by
  intro a b rest rest' ha hb he
  obtain ⟨hab, hr⟩ := h (f a) (f b) rest rest' ha hb he
  exact ⟨hf hab, hr⟩

/-- A readable encoding of a pair, part after part. -/
theorem readable_pair {P : α → Prop} {Q : β → Prop} {encode : α → Bytes} {encode' : β → Bytes}
    (h : Readable P encode) (h' : Readable Q encode') :
    Readable (fun p : α × β => P p.1 ∧ Q p.2) (fun p => encode p.1 ++ encode' p.2) := by
  intro p q rest rest' hp hq he
  simp only [List.append_assoc] at he
  obtain ⟨h1, he⟩ := h p.1 q.1 _ _ hp.1 hq.1 he
  obtain ⟨h2, hr⟩ := h' p.2 q.2 _ _ hp.2 hq.2 he
  exact ⟨Prod.ext h1 h2, hr⟩

/-- Sequences of one length are read element by element. -/
theorem readable_sequence {P : α → Prop} {encode : α → Bytes} (h : Readable P encode)
    (xs ys : List α) (rest rest' : Bytes) (hl : xs.length = ys.length) (hx : ∀ x ∈ xs, P x)
    (hy : ∀ y ∈ ys, P y) (he : xs.flatMap encode ++ rest = ys.flatMap encode ++ rest') :
    xs = ys ∧ rest = rest' := by
  induction xs generalizing ys with
  | nil =>
    rw [List.length_eq_zero_iff.mp hl.symm] at he ⊢
    exact ⟨rfl, he⟩
  | cons x xs ih =>
    cases ys with
    | nil => cases hl
    | cons y ys =>
      simp only [List.flatMap_cons, List.append_assoc] at he
      obtain ⟨rfl, htail⟩ := h x y _ _ (hx x List.mem_cons_self) (hy y List.mem_cons_self) he
      obtain ⟨rfl, hr⟩ := ih ys (Nat.succ.inj hl) (fun z hz => hx z (List.mem_cons_of_mem _ hz))
        (fun z hz => hy z (List.mem_cons_of_mem _ hz)) htail
      exact ⟨rfl, hr⟩

end

theorem readable_packU64 : Readable (fun n => n < 2^64) packU64 :=
  readable_fixed 8 (fun n _ => bigEndian_length 8 n)
    (fun m n hm hn => bigEndian_injective 8 m n hm hn)

theorem readable_packU32 : Readable (fun n => n < 2^32) packU32 :=
  readable_fixed 4 (fun n _ => bigEndian_length 4 n)
    (fun m n hm hn => bigEndian_injective 4 m n hm hn)

/-- A value behind its length. -/
theorem readable_counted {encodeLength : ℕ → Bytes} {limit : ℕ}
    (h : Readable (fun n => n < limit) encodeLength) :
    Readable (fun v : Bytes => v.length < limit) (fun v => encodeLength v.length ++ v) := by
  intro a b rest rest' ha hb he
  simp only [List.append_assoc] at he
  obtain ⟨hl, he⟩ := h a.length b.length _ _ ha hb he
  exact List.append_inj he hl

/-- A sequence behind its number of elements. -/
theorem readable_countedSequence {α : Type*} {P : α → Prop} {encode : α → Bytes}
    {encodeLength : ℕ → Bytes} {limit : ℕ} (hn : Readable (fun n => n < limit) encodeLength)
    (h : Readable P encode) :
    Readable (fun xs : List α => xs.length < limit ∧ ∀ x ∈ xs, P x)
      (fun xs => encodeLength xs.length ++ xs.flatMap encode) := by
  intro xs ys rest rest' hx hy he
  simp only [List.append_assoc] at he
  obtain ⟨hl, he⟩ := hn xs.length ys.length _ _ hx.1 hy.1 he
  exact readable_sequence h xs ys rest rest' hl hx.2 hy.2 he

theorem utf8_injective : Function.Injective utf8 := by
  intro s t h
  apply String.toByteArray_inj.mp
  rw [← String.utf8Encode_toList, ← String.utf8Encode_toList]
  exact congrArg List.toByteArray h

theorem readable_text : Readable (fun s : String => (utf8 s).length < 2^64)
    (fun s => packU64 (utf8 s).length ++ utf8 s) :=
  readable_map (readable_counted readable_packU64) utf8 utf8_injective

theorem decimal_injective : Function.Injective (fun n : ℕ => toString n) := by
  intro m n h
  have hl : Nat.toDigits 10 m = Nat.toDigits 10 n := by
    rw [← Nat.toList_repr, ← Nat.toList_repr]
    exact congrArg String.toList h
  rw [← @Nat.ofDigitChars_ten_toDigits m, hl, Nat.ofDigitChars_ten_toDigits]

end CacheBlend
