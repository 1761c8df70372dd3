import CacheBlend.Calls

/-!
# Preconditions and postconditions of calls

A triple gives a call a precondition and two postconditions, one for a
returned result and one for a raised error. Every call has an outcome, so a
triple says what the call does from each state with the precondition.
-/

set_option autoImplicit false

namespace CacheBlend.Call

universe u

variable {σ τ ε δ α β : Type u}

def Triple (pre : σ → Prop) (c : Call σ ε α) (post : α → σ → Prop) (fail : ε → σ → Prop) :
    Prop :=
  ∀ s, pre s → (∀ a s', c s = (.ok a, s') → post a s') ∧
    ∀ e s', c s = (.error e, s') → fail e s'

section
variable {pre pre' : σ → Prop} {c : Call σ ε α} {post post' : α → σ → Prop}
  {fail fail' : ε → σ → Prop}

theorem Triple.outcome (h : Triple pre c post fail) {s : σ} (hs : pre s) :
    (∃ a s', c s = (.ok a, s') ∧ post a s') ∨ ∃ e s', c s = (.error e, s') ∧ fail e s' := by
  rcases hc : c s with ⟨e | a, s'⟩
  · exact .inr ⟨e, s', rfl, (h s hs).2 e s' hc⟩
  · exact .inl ⟨a, s', rfl, (h s hs).1 a s' hc⟩

theorem triple_of_outcome (h : ∀ s, pre s →
    (∃ a s', c s = (.ok a, s') ∧ post a s') ∨ ∃ e s', c s = (.error e, s') ∧ fail e s') :
    Triple pre c post fail := by
  intro s hs
  obtain ⟨a, s', hc, hp⟩ | ⟨e, s', hc, hf⟩ := h s hs
  · constructor
    · intro a' t ht
      cases hc.symm.trans ht
      exact hp
    · intro e t ht
      cases hc.symm.trans ht
  · constructor
    · intro a t ht
      cases hc.symm.trans ht
    · intro e' t ht
      cases hc.symm.trans ht
      exact hf

theorem Triple.mono (h : Triple pre c post fail) (hpre : ∀ s, pre' s → pre s)
    (hpost : ∀ a s, post a s → post' a s) (hfail : ∀ e s, fail e s → fail' e s) :
    Triple pre' c post' fail' := by
  intro s hs
  have hc := h s (hpre s hs)
  exact ⟨fun a s' ha => hpost a s' (hc.1 a s' ha), fun e s' he => hfail e s' (hc.2 e s' he)⟩

theorem triple_of_state (h : ∀ s, pre s → Triple (fun s' => s' = s) c post fail) :
    Triple pre c post fail := fun s hs => h s hs s rfl

theorem triple_bind {m : α → σ → Prop} {f : α → Call σ ε β} {last : β → σ → Prop}
    (hc : Triple pre c m fail) (hf : ∀ a, Triple (m a) (f a) last fail) :
    Triple pre (c >>= f) last fail := by
  intro s hs
  obtain ⟨a, s', ha, hm⟩ | ⟨e, s', he, hfail⟩ := hc.outcome hs
  · rw [bind_run_ok f ha]
    exact hf a s' hm
  · rw [bind_run_error f he]
    constructor
    · intro b t h
      cases h
    · intro e' t h
      cases h
      exact hfail

theorem triple_pure {a : α} (h : ∀ s, pre s → post a s) :
    Triple pre (pure a : Call σ ε α) post fail := by
  intro s hs
  constructor
  · intro b s' hb
    cases hb
    exact h s hs
  · intro e s' he
    cases he

theorem triple_raise {e : ε} (h : ∀ s, pre s → fail e s) :
    Triple pre (raise e : Call σ ε α) post fail := by
  intro s hs
  constructor
  · intro a s' ha
    cases ha
  · intro e' s' he
    cases he
    exact h s hs

theorem triple_lift {x : Except ε α} (hok : ∀ a, x = .ok a → ∀ s, pre s → post a s)
    (herror : ∀ e, x = .error e → ∀ s, pre s → fail e s) :
    Triple pre (lift x) post fail := by
  cases x with
  | ok a => exact triple_pure (hok a rfl)
  | error e => exact triple_raise (herror e rfl)

theorem triple_read_bind {f : σ → Call σ ε α}
    (h : ∀ s, pre s → Triple (fun s' => s' = s) (f s) post fail) :
    Triple pre (read >>= f) post fail := by
  intro s hs
  exact h s hs s rfl

theorem triple_ite {p : Prop} [Decidable p] {c' : Call σ ε α} (hc : p → Triple pre c post fail)
    (hc' : ¬p → Triple pre c' post fail) : Triple pre (if p then c else c') post fail := by
  by_cases hp : p
  · rw [if_pos hp]
    exact hc hp
  · rw [if_neg hp]
    exact hc' hp

theorem triple_modify {g : σ → σ} {last : PUnit → σ → Prop} (h : ∀ s, pre s → last ⟨⟩ (g s)) :
    Triple pre (modify g : Call σ ε PUnit) last fail := by
  intro s hs
  constructor
  · intro u s' hu
    cases hu
    exact h s hs
  · intro e s' he
    cases he

end

section
variable {inv : σ → Prop} {fail : ε → σ → Prop}

theorem triple_forM {f : α → Call σ ε PUnit} {xs : List α}
    (h : ∀ a ∈ xs, Triple inv (f a) (fun _ => inv) fail) :
    Triple inv (xs.forM f) (fun _ => inv) fail := by
  induction xs with
  | nil => exact triple_pure fun _ hs => hs
  | cons x xs ih =>
    exact triple_bind (h x List.mem_cons_self) fun _ =>
      ih fun a ha => h a (List.mem_cons_of_mem _ ha)

theorem triple_mapM {f : α → Call σ ε β} {xs : List α}
    (h : ∀ a ∈ xs, Triple inv (f a) (fun _ => inv) fail) :
    Triple inv (xs.mapM f) (fun _ => inv) fail := by
  induction xs with
  | nil => exact triple_pure fun _ hs => hs
  | cons x xs ih =>
    rw [List.mapM_cons]
    exact triple_bind (h x List.mem_cons_self) fun _ =>
      triple_bind (ih fun a ha => h a (List.mem_cons_of_mem _ ha)) fun _ =>
        triple_pure fun _ hs => hs

end

theorem triple_within {inv : σ → Prop} {view : σ → τ} {put : σ → τ → σ} {wrap : δ → ε}
    {c : Call τ δ α} {fail : ε → σ → Prop} (hinv : ∀ s t, inv s → inv (put s t))
    (hfail : ∀ e s, inv s → fail (wrap e) s) :
    Triple inv (within view put wrap c) (fun _ => inv) fail := by
  intro s hs
  unfold within
  rcases c (view s) with ⟨e | a, t⟩
  · constructor
    · intro b s' h
      cases h
    · intro e' s' h
      cases h
      exact hfail e _ (hinv s t hs)
  · constructor
    · intro b s' h
      cases h
      exact hinv s t hs
    · intro e' s' h
      cases h

end CacheBlend.Call
