import CacheBlend.JsonValues

/-!
# Faults outside a family

A computation fails closed when it returns or raises a fault of its own family.
A fault outside the family escapes. Where it escapes is worked out along the
sequence of the steps: a step escapes by itself, or it passes and a later one
escapes.
-/

set_option autoImplicit false

namespace CacheBlend.EscapingFaults
open CacheBlend.JsonValues

section
variable {ε α β : Type} (own : ε → Prop)

/-- The computation raises a fault that is not of the family. -/
def Escapes (x : Except ε α) : Prop := ∃ e, x = .error e ∧ ¬own e

def FailsClosed (x : Except ε α) : Prop := ∀ e, x = .error e → own e

theorem failsClosed_iff (x : Except ε α) : FailsClosed own x ↔ ¬Escapes own x := by
  unfold FailsClosed Escapes
  constructor
  · rintro h ⟨e, he, hne⟩
    exact hne (h e he)
  · intro h e he
    by_contra hne
    exact h ⟨e, he, hne⟩

theorem escapes_ok (a : α) : ¬Escapes own (.ok a : Except ε α) := by
  rintro ⟨_, h, _⟩
  cases h

theorem escapes_error (e : ε) : Escapes own (.error e : Except ε α) ↔ ¬own e := by
  constructor
  · rintro ⟨_, h, hne⟩
    cases h
    exact hne
  · intro h
    exact ⟨e, rfl, h⟩

theorem escapes_bind (x : Except ε α) (f : α → Except ε β) :
    Escapes own (x >>= f) ↔ Escapes own x ∨ ∃ a, x = .ok a ∧ Escapes own (f a) := by
  cases x with
  | error e =>
    show Escapes own (.error e) ↔ _
    rw [escapes_error, escapes_error]
    constructor
    · exact Or.inl
    · rintro (h | ⟨_, h, _⟩)
      · exact h
      · cases h
  | ok a =>
    constructor
    · intro h
      exact Or.inr ⟨a, rfl, h⟩
    · rintro (h | ⟨_, ha, h⟩)
      · exact absurd h (escapes_ok own a)
      · cases ha
        exact h

theorem escapes_then {x : Except ε α} (hx : ¬Escapes own x) (f : α → Except ε β) :
    Escapes own (x >>= f) ↔ ∃ a, x = .ok a ∧ Escapes own (f a) := by
  rw [escapes_bind]
  constructor
  · rintro (h | h)
    · exact absurd h hx
    · exact h
  · exact Or.inr

theorem closed_bind {x : Except ε α} {f : α → Except ε β} (hx : ¬Escapes own x)
    (hf : ∀ a, ¬Escapes own (f a)) : ¬Escapes own (x >>= f) := by
  rw [escapes_then own hx]
  rintro ⟨a, _, h⟩
  exact hf a h

theorem escapes_require (p : Prop) [Decidable p] {e : ε} (he : own e) :
    ¬Escapes own (require p e : Except ε Unit) := by
  unfold require
  split_ifs
  · exact escapes_ok own _
  · exact fun h => (escapes_error own e).mp h he

theorem escapes_require_then (p : Prop) [Decidable p] {e : ε} (he : own e) (x : Except ε β) :
    Escapes own ((require p e : Except ε Unit) >>= fun _ => x) ↔ p ∧ Escapes own x := by
  rw [escapes_then own (escapes_require own p he)]
  constructor
  · rintro ⟨u, hu, h⟩
    exact ⟨(require_ok_iff p e u).mp hu, h⟩
  · rintro ⟨hp, h⟩
    exact ⟨⟨⟩, require_of e hp, h⟩

theorem escapes_mapM (f : α → Except ε β) (xs : List α) :
    Escapes own (xs.mapM f) ↔ ∃ first x rest, xs = first ++ x::rest ∧
      (∀ y ∈ first, ∃ z, f y = .ok z) ∧ Escapes own (f x) := by
  constructor
  · rintro ⟨e, he, hne⟩
    obtain ⟨first, x, rest, hxs, hfirst, hx⟩ := (mapM_error_iff _ _ _).mp he
    exact ⟨first, x, rest, hxs, hfirst, e, hx, hne⟩
  · rintro ⟨first, x, rest, hxs, hfirst, e, hx, hne⟩
    exact ⟨e, (mapM_error_iff _ _ _).mpr ⟨first, x, rest, hxs, hfirst, hx⟩, hne⟩

theorem escapes_mapM_any {f : α → Except ε β}
    (h : ∀ x, (∃ y, f x = .ok y) ∨ Escapes own (f x)) (xs : List α) :
    Escapes own (xs.mapM f) ↔ ∃ x ∈ xs, Escapes own (f x) := by
  constructor
  · intro hm
    obtain ⟨first, x, rest, rfl, _, hx⟩ := (escapes_mapM own f xs).mp hm
    exact ⟨x, by simp, hx⟩
  · rintro ⟨x, hx, hesc⟩
    induction xs with
    | nil => cases hx
    | cons y xs ih =>
      rw [List.mapM_cons, escapes_bind]
      rcases h y with ⟨z, hz⟩ | hy
      · refine Or.inr ⟨z, hz, (escapes_bind own _ _).mpr (Or.inl (ih ?_))⟩
        rcases List.mem_cons.mp hx with rfl | hx
        · rw [hz] at hesc
          exact absurd hesc (escapes_ok own z)
        · exact hx
      · exact Or.inl hy

theorem escapes_mapM_not {f : α → Except ε β} (h : ∀ x, ¬Escapes own (f x)) (xs : List α) :
    ¬Escapes own (xs.mapM f) := by
  rw [escapes_mapM]
  rintro ⟨_, x, _, _, _, hx⟩
  exact h x hx

theorem escapes_mapError {δ : Type} {x : Except δ α} {g : δ → ε} (hg : ∀ d, own (g d)) :
    ¬Escapes own (x.mapError g) := by
  cases x with
  | ok a => exact escapes_ok own a
  | error d => exact fun h => (escapes_error own _).mp h (hg d)

theorem escapes_construct {F : Type} (check : F → Except ε Unit) (fields : F) :
    Escapes own (construct check fields) ↔ Escapes own (check fields) := by
  unfold Escapes
  simp only [construct_error_iff]

theorem escapes_exactMapping (v : JsonValue) (keys : List String) {e : ε} (he : own e) :
    ¬Escapes own (exactMapping v keys e) := by
  unfold exactMapping
  split
  · split_ifs
    · exact escapes_ok own _
    · exact fun h => (escapes_error own e).mp h he
  · exact fun h => (escapes_error own e).mp h he

theorem escapes_items (v : JsonValue) {e : ε} (he : own e) : ¬Escapes own (items v e) := by
  unfold items
  split
  · exact escapes_ok own _
  · exact fun h => (escapes_error own e).mp h he

theorem escapes_enumFromValue (all : List α) (name : α → String) (v : JsonValue) {e : ε}
    (he : own e) : ¬Escapes own (enumFromValue all name e v) := by
  unfold enumFromValue
  split
  · exact escapes_ok own _
  · exact fun h => (escapes_error own e).mp h he

end

def NoFloat (v : JsonValue) : Prop := ∃ n, v = .integer n ∧ nearest n = none

theorem toFloat_noFloat_iff (v : JsonValue) : v.toFloat nearest = some none ↔ NoFloat v := by
  unfold NoFloat
  cases v <;> simp [JsonValue.toFloat]

def Passes {ε α : Type} (x : Except ε α) : Prop := ∃ a, x = .ok a

theorem passes_bind {ε α β : Type} (x : Except ε α) (f : α → Except ε β) :
    Passes (x >>= f) ↔ ∃ a, x = .ok a ∧ Passes (f a) := by
  unfold Passes
  simp only [checked_ok_iff]
  constructor
  · rintro ⟨b, a, ha, hb⟩
    exact ⟨a, ha, b, hb⟩
  · rintro ⟨a, ha, b, hb⟩
    exact ⟨b, a, ha, hb⟩

theorem passes_require_then {ε β : Type} (p : Prop) [Decidable p] (e : ε) (x : Except ε β) :
    Passes ((require p e : Except ε Unit) >>= fun _ => x) ↔ p ∧ Passes x := by
  rw [passes_bind]
  constructor
  · rintro ⟨u, hu, h⟩
    exact ⟨(require_ok_iff p e u).mp hu, h⟩
  · rintro ⟨hp, h⟩
    exact ⟨⟨⟩, require_of e hp, h⟩

/-- Two sequences that differ in their ends: the first escapes exactly when the
second returns and the end escapes. -/
theorem escapes_end {ε α β : Type} {own : ε → Prop} {x : Except ε α} {f g : α → Except ε β}
    {M : Prop} (h : ∀ a, x = .ok a → (Escapes own (f a) ↔ Passes (g a) ∧ M)) :
    Escapes own (x >>= f) ↔ Escapes own x ∨ Passes (x >>= g) ∧ M := by
  rw [escapes_bind, passes_bind]
  refine or_congr_right ?_
  constructor
  · rintro ⟨a, ha, he⟩
    obtain ⟨hg, hM⟩ := (h a ha).mp he
    exact ⟨⟨a, ha, hg⟩, hM⟩
  · rintro ⟨⟨a, ha, hg⟩, hM⟩
    exact ⟨a, ha, (h a ha).mpr ⟨hg, hM⟩⟩

theorem escapes_end_of {ε α β : Type} {own : ε → Prop} {x : Except ε α} {f g : α → Except ε β}
    {M : Prop} (hx : ¬Escapes own x)
    (h : ∀ a, x = .ok a → (Escapes own (f a) ↔ Passes (g a) ∧ M)) :
    Escapes own (x >>= f) ↔ Passes (x >>= g) ∧ M := by
  rw [escapes_end h, or_iff_right hx]

theorem escapes_before_end {ε α β : Type} {own : ε → Prop} {x : Except ε α}
    {f g : α → Except ε β} {E M : Prop} (hx : ¬Escapes own x)
    (h : ∀ a, x = .ok a → (Escapes own (f a) ↔ E ∨ Passes (g a) ∧ M)) :
    Escapes own (x >>= f) ↔ Passes x ∧ E ∨ Passes (x >>= g) ∧ M := by
  rw [escapes_then own hx, passes_bind]
  constructor
  · rintro ⟨a, ha, he⟩
    rcases (h a ha).mp he with hE | ⟨hg, hM⟩
    · exact Or.inl ⟨⟨a, ha⟩, hE⟩
    · exact Or.inr ⟨⟨a, ha, hg⟩, hM⟩
  · rintro (⟨⟨a, ha⟩, hE⟩ | ⟨⟨a, ha, hg⟩, hM⟩)
    · exact ⟨a, ha, (h a ha).mpr (Or.inl hE)⟩
    · exact ⟨a, ha, (h a ha).mpr (Or.inr ⟨hg, hM⟩)⟩

/-- Of steps with the conditions that they pass and that they escape, one that
escapes is reached. -/
def EscapeReached : List (Prop × Prop) → Prop
  | [] => False
  | step::rest => step.2 ∨ step.1 ∧ EscapeReached rest

theorem escapes_step {ε α β : Type} {own : ε → Prop} {x : Except ε α} {f : α → Except ε β}
    {E : Prop} {steps : List (Prop × Prop)} (hx : Escapes own x ↔ E)
    (hf : ∀ a, x = .ok a → (Escapes own (f a) ↔ EscapeReached steps)) :
    Escapes own (x >>= f) ↔ EscapeReached ((Passes x, E)::steps) := by
  rw [escapes_bind, hx]
  show _ ↔ E ∨ Passes x ∧ EscapeReached steps
  refine or_congr_right ?_
  constructor
  · rintro ⟨a, ha, h⟩
    exact ⟨⟨a, ha⟩, (hf a ha).mp h⟩
  · rintro ⟨⟨a, ha⟩, h⟩
    exact ⟨a, ha, (hf a ha).mpr h⟩

end CacheBlend.EscapingFaults
