import CacheBlend.Calls
import Mathlib.Data.List.Forall2

/-!
# Checks that raise

A check returns nothing or raises one error. A sequence of checks returns
exactly when every part does, so the conditions under which a checked
computation succeeds can be read off part by part.
-/

set_option autoImplicit false

namespace CacheBlend

universe u v

variable {ε : Type u} {α β : Type v}

def require (p : Prop) [Decidable p] (e : ε) : Except ε PUnit.{v+1} :=
  if p then .ok ⟨⟩ else .error e

theorem require_ok_iff (p : Prop) [Decidable p] (e : ε) (u : PUnit.{v+1}) :
    require p e = .ok u ↔ p := by
  unfold require
  split_ifs with h <;> simp [h]

theorem require_of {p : Prop} [Decidable p] (e : ε) (h : p) :
    require.{u,v} p e = .ok ⟨⟩ := if_pos h

theorem require_not {p : Prop} [Decidable p] (e : ε) (h : ¬p) :
    require.{u,v} p e = .error e := if_neg h

theorem checked_ok_iff (x : Except ε α) (f : α → Except ε β) (b : β) :
    (x >>= f) = .ok b ↔ ∃ a, x = .ok a ∧ f a = .ok b := by
  cases x with
  | error e =>
    constructor
    · intro h
      cases h
    · rintro ⟨_, h, _⟩
      cases h
  | ok a =>
    constructor
    · intro h
      exact ⟨a, rfl, h⟩
    · rintro ⟨_, ha, h⟩
      cases ha
      exact h

theorem checked_error_iff (x : Except ε α) (f : α → Except ε β) (e : ε) :
    (x >>= f) = .error e ↔ x = .error e ∨ ∃ a, x = .ok a ∧ f a = .error e := by
  cases x with
  | error e' =>
    constructor
    · intro h
      cases h
      exact Or.inl rfl
    · rintro (h | ⟨_, h, _⟩)
      · cases h
        rfl
      · cases h
  | ok a =>
    constructor
    · intro h
      exact Or.inr ⟨a, rfl, h⟩
    · rintro (h | ⟨_, ha, h⟩)
      · cases h
      · cases ha
        exact h

theorem require_then_iff (p : Prop) [Decidable p] (e : ε) (x : Except ε β) (b : β) :
    (require.{u,v} p e >>= fun _ => x) = .ok b ↔ p ∧ x = .ok b := by
  rw [checked_ok_iff]
  constructor
  · rintro ⟨u, hu, hx⟩
    exact ⟨(require_ok_iff p e u).mp hu, hx⟩
  · rintro ⟨hp, hx⟩
    exact ⟨⟨⟩, require_of e hp, hx⟩

theorem check_then_iff {σ ε β : Type} (p : Prop) [Decidable p] (e : ε)
    (f : PUnit → Call σ ε β) (s s' : σ) (b : β) :
    (Call.lift (require p e) >>= f) s = (.ok b, s') ↔ p ∧ f ⟨⟩ s = (.ok b, s') := by
  rw [Call.lift_bind_iff]
  constructor
  · rintro ⟨u, hu, hf⟩
    exact ⟨(require_ok_iff p e u).mp hu, hf⟩
  · rintro ⟨hp, hf⟩
    exact ⟨⟨⟩, require_of e hp, hf⟩

theorem toOption_some {ε α : Type*} {x : Except ε α} {a : α} (h : x.toOption = some a) :
    x = .ok a := by
  cases x with
  | error e => cases h
  | ok b =>
    cases h
    rfl

theorem mapError_ok_iff {δ : Type u} (x : Except ε α) (f : ε → δ) (a : α) :
    x.mapError f = .ok a ↔ x = .ok a := by
  cases x <;> simp [Except.mapError]

theorem mapM_returns_iff (f : α → Except ε β) (xs : List α) (ys : List β) :
    xs.mapM f = .ok ys ↔ List.Forall₂ (f · = .ok ·) xs ys := by
  induction xs generalizing ys with
  | nil =>
    rw [List.mapM_nil, List.forall₂_nil_left_iff]
    constructor
    · intro h
      cases h
      rfl
    · rintro rfl
      rfl
  | cons x xs ih =>
    rw [List.mapM_cons, checked_ok_iff]
    constructor
    · rintro ⟨y, hy, hr⟩
      obtain ⟨zs, hz, he⟩ := (checked_ok_iff _ _ _).mp hr
      cases he
      exact .cons hy ((ih zs).mp hz)
    · intro h
      cases h with
      | cons hy hr => exact ⟨_, hy, (checked_ok_iff _ _ _).mpr ⟨_, (ih _).mpr hr, rfl⟩⟩

theorem forM_returns_iff {ε α : Type} (f : α → Except ε Unit) (xs : List α) :
    forM xs f = .ok () ↔ ∀ x ∈ xs, f x = .ok () := by
  induction xs with
  | nil => simp [pure, Except.pure]
  | cons x xs ih =>
    rw [List.forM_cons, checked_ok_iff, List.forall_mem_cons]
    constructor
    · rintro ⟨⟨⟩, hx, h⟩
      exact ⟨hx, ih.mp h⟩
    · rintro ⟨hx, h⟩
      exact ⟨⟨⟩, hx, ih.mpr h⟩

theorem mapM_returns_of (f : α → Except ε β) (xs : List α)
    (h : ∀ x ∈ xs, ∃ y, f x = .ok y) : ∃ ys, xs.mapM f = .ok ys := by
  induction xs with
  | nil => exact ⟨[], rfl⟩
  | cons x xs ih =>
    obtain ⟨y, hy⟩ := h x List.mem_cons_self
    obtain ⟨ys, hys⟩ := ih fun x' hx => h x' (List.mem_cons_of_mem _ hx)
    exact ⟨y::ys, (mapM_returns_iff _ _ _).mpr (.cons hy ((mapM_returns_iff _ _ _).mp hys))⟩

theorem mapM_error_iff (f : α → Except ε β) (xs : List α) (e : ε) :
    xs.mapM f = .error e ↔ ∃ first x rest, xs = first ++ x::rest ∧
      (∀ y ∈ first, ∃ z, f y = .ok z) ∧ f x = .error e := by
  induction xs with
  | nil =>
    constructor
    · intro h
      cases h
    · rintro ⟨first, x, rest, h, _⟩
      exact absurd h (by simp)
  | cons x xs ih =>
    rw [List.mapM_cons, checked_error_iff]
    constructor
    · rintro (hx | ⟨y, hy, h⟩)
      · exact ⟨[], x, xs, rfl, fun _ h => absurd h List.not_mem_nil, hx⟩
      · obtain h | ⟨_, _, h⟩ := (checked_error_iff _ _ _).mp h
        · obtain ⟨first, x', rest, rfl, hfirst, hx'⟩ := ih.mp h
          refine ⟨x::first, x', rest, rfl, fun z hz => ?_, hx'⟩
          obtain rfl | hz := List.mem_cons.mp hz
          · exact ⟨y, hy⟩
          · exact hfirst z hz
        · cases h
    · rintro ⟨first, x', rest, h, hfirst, hx'⟩
      cases first with
      | nil =>
        cases h
        exact Or.inl hx'
      | cons y first =>
        cases h
        obtain ⟨z, hz⟩ := hfirst x List.mem_cons_self
        exact Or.inr ⟨z, hz, (checked_error_iff _ _ _).mpr (Or.inl (ih.mpr
          ⟨first, x', rest, rfl, fun y hy => hfirst y (List.mem_cons_of_mem _ hy), hx'⟩))⟩

theorem forall₂_left {R : α → β → Prop} {xs : List α} {ys : List β}
    (h : List.Forall₂ R xs ys) {x : α} (hx : x ∈ xs) : ∃ y ∈ ys, R x y := by
  induction h with
  | nil => exact absurd hx List.not_mem_nil
  | cons hr _ ih =>
    obtain rfl | hm := List.mem_cons.mp hx
    · exact ⟨_, List.mem_cons_self, hr⟩
    · obtain ⟨y, hy, hxy⟩ := ih hm
      exact ⟨y, List.mem_cons_of_mem _ hy, hxy⟩

theorem forall₂_right {R : α → β → Prop} {xs : List α} {ys : List β}
    (h : List.Forall₂ R xs ys) {y : β} (hy : y ∈ ys) : ∃ x ∈ xs, R x y := by
  induction h with
  | nil => exact absurd hy List.not_mem_nil
  | cons hr _ ih =>
    obtain rfl | hm := List.mem_cons.mp hy
    · exact ⟨_, List.mem_cons_self, hr⟩
    · obtain ⟨x, hx, hxy⟩ := ih hm
      exact ⟨x, List.mem_cons_of_mem _ hx, hxy⟩

theorem forall₂_imp {R S : α → β → Prop} {xs : List α} {ys : List β}
    (h : List.Forall₂ R xs ys) (hi : ∀ x ∈ xs, ∀ y, R x y → S x y) : List.Forall₂ S xs ys := by
  induction h with
  | nil => exact .nil
  | cons hr _ ih =>
    exact .cons (hi _ List.mem_cons_self _ hr)
      (ih fun x hx => hi x (List.mem_cons_of_mem _ hx))

theorem forall₂_map_eq {R : α → β → Prop} {xs : List α} {ys : List β} (f : β → α)
    (h : List.Forall₂ R xs ys) (hf : ∀ x y, R x y → f y = x) : ys.map f = xs := by
  induction h with
  | nil => rfl
  | cons hr _ ih => rw [List.map_cons, hf _ _ hr, ih]

theorem foldlM_each {σ : Type v} (f : σ → α → Except ε σ) (xs : List α) (s s' : σ)
    (h : xs.foldlM f s = .ok s') {x : α} (hx : x ∈ xs) : ∃ t t', f t x = .ok t' := by
  induction xs generalizing s with
  | nil => exact absurd hx List.not_mem_nil
  | cons y ys ih =>
    rw [List.foldlM_cons] at h
    obtain ⟨t, ht, h⟩ := (checked_ok_iff _ _ _).mp h
    obtain rfl | hx := List.mem_cons.mp hx
    · exact ⟨s, t, ht⟩
    · exact ih t h hx

theorem foldlM_append {f : List β → α → Except ε (List β)} {P : α → List β → Prop}
    (h : ∀ a bs, ∃ out, f bs a = .ok (bs ++ out) ∧ P a out) (xs : List α) (bs : List β) :
    ∃ groups, xs.foldlM f bs = .ok (bs ++ groups.flatten) ∧ List.Forall₂ P xs groups := by
  induction xs generalizing bs with
  | nil => exact ⟨[], by simp [pure, Except.pure], .nil⟩
  | cons a xs ih =>
    obtain ⟨out, hout, hp⟩ := h a bs
    obtain ⟨groups, hrest, hall⟩ := ih (bs ++ out)
    refine ⟨out::groups, ?_, .cons hp hall⟩
    rw [List.foldlM_cons, List.flatten_cons, ← List.append_assoc]
    exact (checked_ok_iff _ _ _).mpr ⟨_, hout, hrest⟩

end CacheBlend
