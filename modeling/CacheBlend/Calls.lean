import Mathlib.Logic.Function.Basic

/-!
# Calls that may raise

A call takes a state to a result or a raised error together with the state
it leaves behind, so an effect made before an error is raised stays visible.
Sequencing stops at the first error. A returned call determines its
intermediate results, and a property kept by every part of a sequence is
kept by the sequence, whether it returns or raises.
-/

set_option autoImplicit false

namespace CacheBlend

universe u

def Call (σ ε α : Type u) : Type u := σ → Except ε α × σ

namespace Call
variable {σ τ ε δ α β : Type u}

def ok (a : α) : Call σ ε α := fun s => (.ok a, s)

def raise (e : ε) : Call σ ε α := fun s => (.error e, s)

def bind (c : Call σ ε α) (f : α → Call σ ε β) : Call σ ε β := fun s =>
  match c s with
  | (.ok a, s') => f a s'
  | (.error e, s') => (.error e, s')

instance : Monad (Call σ ε) where
  pure := ok
  bind := bind

def read : Call σ ε σ := fun s => (.ok s, s)

def modify (f : σ → σ) : Call σ ε PUnit := fun s => (.ok ⟨⟩, f s)

def lift (x : Except ε α) : Call σ ε α := fun s => (x, s)

/-- A call on one component of the state, with its errors translated. -/
def within (view : σ → τ) (put : σ → τ → σ) (wrap : δ → ε) (c : Call τ δ α) :
    Call σ ε α := fun s =>
  match c (view s) with
  | (.ok a, t) => (.ok a, put s t)
  | (.error e, t) => (.error (wrap e), put s t)

def atomically (f : σ → Except ε (α × σ)) : Call σ ε α := fun s =>
  match f s with
  | .ok (a, s') => (.ok a, s')
  | .error e => (.error e, s)

@[simp] theorem pure_run (a : α) (s : σ) : (pure a : Call σ ε α) s = (.ok a, s) := rfl

@[simp] theorem read_run (s : σ) : (read : Call σ ε σ) s = (.ok s, s) := rfl

@[simp] theorem modify_run (f : σ → σ) (s : σ) :
    (modify f : Call σ ε PUnit) s = (.ok ⟨⟩, f s) := rfl

@[simp] theorem lift_run (x : Except ε α) (s : σ) : (lift x : Call σ ε α) s = (x, s) := rfl

theorem bind_run (c : Call σ ε α) (f : α → Call σ ε β) (s : σ) :
    (c >>= f) s = match c s with
      | (.ok a, s') => f a s'
      | (.error e, s') => (.error e, s') := rfl

theorem bind_run_ok {c : Call σ ε α} (f : α → Call σ ε β) {s s' : σ} {a : α}
    (h : c s = (.ok a, s')) : (c >>= f) s = f a s' := by
  rw [bind_run, h]

theorem bind_run_error {c : Call σ ε α} (f : α → Call σ ε β) {s s' : σ} {e : ε}
    (h : c s = (.error e, s')) : (c >>= f) s = (.error e, s') := by
  rw [bind_run, h]

theorem bind_assoc (c : Call σ ε α) {γ : Type u} (f : α → Call σ ε β) (g : β → Call σ ε γ) :
    (c >>= f) >>= g = c >>= fun a => f a >>= g := by
  funext s
  rw [bind_run, bind_run, bind_run]
  rcases c s with ⟨e | a, s'⟩
  · rfl
  · rfl

theorem bind_pure_id (c : Call σ ε α) : (c >>= fun a => pure (id a)) = c := by
  funext s
  rw [bind_run]
  rcases c s with ⟨e | a, s'⟩
  · rfl
  · rfl

instance : LawfulMonad (Call σ ε) :=
  LawfulMonad.mk' _ bind_pure_id (fun _ _ => rfl) (fun c f g => bind_assoc c f g)

theorem bind_ok_iff (c : Call σ ε α) (f : α → Call σ ε β) (s s'' : σ) (b : β) :
    (c >>= f) s = (.ok b, s'') ↔
      ∃ a s', c s = (.ok a, s') ∧ f a s' = (.ok b, s'') := by
  rw [bind_run]
  rcases hc : c s with ⟨e | a, s'⟩
  · simp
  · constructor
    · intro h
      exact ⟨a, s', rfl, h⟩
    · rintro ⟨a', t, ht, hf⟩
      cases ht
      exact hf

theorem lift_ok_iff {σ ε α : Type} (x : Except ε α) (s s' : σ) (a : α) :
    (lift x : Call σ ε α) s = (.ok a, s') ↔ x = .ok a ∧ s' = s := by
  rw [lift_run, Prod.mk.injEq, eq_comm (a := s)]

theorem pure_ok_iff {σ ε α : Type} (a b : α) (s s' : σ) :
    (pure a : Call σ ε α) s = (.ok b, s') ↔ b = a ∧ s' = s := by
  rw [pure_run, Prod.mk.injEq, Except.ok.injEq, eq_comm (a := a), eq_comm (a := s)]

theorem lift_bind_iff {σ ε α β : Type} (x : Except ε α) (f : α → Call σ ε β) (s s' : σ) (b : β) :
    (lift x >>= f) s = (.ok b, s') ↔ ∃ a, x = .ok a ∧ f a s = (.ok b, s') := by
  rw [bind_ok_iff]
  constructor
  · rintro ⟨a, t, ha, hf⟩
    obtain ⟨rfl, rfl⟩ := (lift_ok_iff x s t a).mp ha
    exact ⟨a, rfl, hf⟩
  · rintro ⟨a, rfl, hf⟩
    exact ⟨a, s, rfl, hf⟩

theorem read_bind {σ ε β : Type} (f : σ → Call σ ε β) (s : σ) :
    ((read : Call σ ε σ) >>= f) s = f s s := rfl

theorem modify_bind {σ ε β : Type} (g : σ → σ) (f : PUnit → Call σ ε β) (s : σ) :
    ((modify g : Call σ ε PUnit) >>= f) s = f ⟨⟩ (g s) := rfl

theorem within_run_ok {view : σ → τ} {put : σ → τ → σ} {wrap : δ → ε} {c : Call τ δ α}
    {s : σ} {t : τ} {a : α} (h : c (view s) = (.ok a, t)) :
    within view put wrap c s = (.ok a, put s t) := by
  simp [within, h]

theorem within_ok_iff (view : σ → τ) (put : σ → τ → σ) (wrap : δ → ε) (c : Call τ δ α)
    (s s' : σ) (a : α) :
    within view put wrap c s = (.ok a, s') ↔
      ∃ t, c (view s) = (.ok a, t) ∧ s' = put s t := by
  unfold within
  rcases hc : c (view s) with ⟨e | b, t⟩
  · simp
  · constructor
    · intro h
      cases h
      exact ⟨t, rfl, rfl⟩
    · rintro ⟨t', ht, rfl⟩
      cases ht
      rfl

theorem within_bind_iff {σ τ ε δ α β : Type} (view : σ → τ) (put : σ → τ → σ) (wrap : δ → ε)
    (c : Call τ δ α) (f : α → Call σ ε β) (s s' : σ) (b : β) :
    (within view put wrap c >>= f) s = (.ok b, s') ↔
      ∃ a t, c (view s) = (.ok a, t) ∧ f a (put s t) = (.ok b, s') := by
  rw [bind_ok_iff]
  constructor
  · rintro ⟨a, s₁, ha, hf⟩
    obtain ⟨t, ht, rfl⟩ := (within_ok_iff view put wrap c s s₁ a).mp ha
    exact ⟨a, t, ht, hf⟩
  · rintro ⟨a, t, ht, hf⟩
    exact ⟨a, _, within_run_ok ht, hf⟩

theorem atomically_ok_iff (f : σ → Except ε (α × σ)) (s s' : σ) (a : α) :
    atomically f s = (.ok a, s') ↔ f s = .ok (a, s') := by
  unfold atomically
  rcases hf : f s with e | ⟨b, t⟩ <;> simp

/-- A call that raises leaves the state as it was. -/
def RollsBack (c : Call σ ε α) : Prop := ∀ s e s', c s = (.error e, s') → s' = s

theorem rollsBack_atomically (f : σ → Except ε (α × σ)) : RollsBack (atomically f) := by
  intro s e s' h
  unfold atomically at h
  rcases hf : f s with e' | ⟨b, t⟩ <;> rw [hf] at h <;> cases h
  rfl

theorem rollsBack_lift_bind {x : Except ε α} {f : α → Call σ ε β} (h : ∀ a, RollsBack (f a)) :
    RollsBack (lift x >>= f) := by
  intro s e s' hs
  cases x with
  | error e' =>
    cases hs
    rfl
  | ok a => exact h a s e s' hs

/-- The call raises at a state and leaves it as it was. -/
def Refuses (c : Call σ ε α) (s : σ) : Prop := ∃ e, c s = (.error e, s)

theorem refuses_lift_bind {x : Except ε α} {f : α → Call σ ε β} {s : σ}
    (h : ∀ a, x = .ok a → Refuses (f a) s) : Refuses (lift x >>= f) s := by
  cases x with
  | error e => exact ⟨e, rfl⟩
  | ok a => exact h a rfl

/-- What a computation of the next state gives as a call: an error keeps the state. -/
def outcome (s : σ) : Except ε σ → Except ε PUnit × σ
  | .ok s' => (.ok ⟨⟩, s')
  | .error e => (.error e, s)

theorem lift_bind_outcome {σ ε α : Type} (x : Except ε α) (f : α → Call σ ε PUnit)
    (g : α → Except ε σ) (s : σ) (h : ∀ a, f a s = outcome s (g a)) :
    (lift x >>= f) s = outcome s (x >>= g) := by
  cases x with
  | error e => rfl
  | ok a => exact h a

theorem modify_forM {σ ε α : Type} (f : σ → α → σ) (xs : List α) (s : σ) :
    (xs.forM (fun x => modify (f · x)) : Call σ ε PUnit) s = (.ok ⟨⟩, xs.foldl f s) := by
  induction xs generalizing s with
  | nil => rfl
  | cons x xs ih => exact ih (f s x)

def Keeps (I : σ → Prop) (c : Call σ ε α) : Prop := ∀ s, I s → I (c s).2

theorem keeps_lift (I : σ → Prop) (x : Except ε α) : Keeps I (lift x : Call σ ε α) :=
  fun _ h => h

theorem keeps_bind {I : σ → Prop} {c : Call σ ε α} {f : α → Call σ ε β}
    (hc : Keeps I c) (hf : ∀ a, Keeps I (f a)) : Keeps I (c >>= f) := by
  intro s hs
  have hk := hc s hs
  rw [bind_run]
  rcases h : c s with ⟨e | a, s'⟩ <;> rw [h] at hk
  · exact hk
  · exact hf a s' hk

end Call

end CacheBlend
