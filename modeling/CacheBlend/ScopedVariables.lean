import CacheBlend.Calls

/-!
# Scoped variables

A variable stands beside the state. A scope installs a value for the calls of
its body and puts the former value back when the body returns or raises. A call
reads its variable when it acts as a call with the value as a parameter: the
value that it finds is the value it leaves, and the scope of a body is the body
at the installed value, so a mutable variable can be read as a bound name.
-/

set_option autoImplicit false

namespace CacheBlend.ScopedVariables

variable {ν σ ε α β : Type}

def value : Call (ν × σ) ε ν := fun t => (.ok t.1, t)

def beside (c : Call σ ε α) : Call (ν × σ) ε α := fun t => ((c t.2).1, (t.1, (c t.2).2))

/-- The body at another value, after which the former value is put back. -/
def under (v : ν) (body : Call (ν × σ) ε α) : Call (ν × σ) ε α := fun t =>
  ((body (v, t.2)).1, (t.1, (body (v, t.2)).2.2))

/-- A handler for the errors of a call, run in the state that the error left. -/
def catching (body : Call σ ε α) (handler : ε → Call σ ε α) : Call σ ε α := fun s =>
  match body s with
  | (.ok a, s') => (.ok a, s')
  | (.error e, s') => handler e s'

theorem catching_run_ok {body : Call σ ε α} (handler : ε → Call σ ε α) {s s' : σ} {a : α}
    (h : body s = (.ok a, s')) : catching body handler s = (.ok a, s') := by
  rw [catching, h]

theorem catching_run_error {body : Call σ ε α} (handler : ε → Call σ ε α) {s s' : σ} {e : ε}
    (h : body s = (.error e, s')) : catching body handler s = handler e s' := by
  rw [catching, h]

theorem translated_ok_iff (body : Call σ ε α) (f : ε → ε) (s s' : σ) (a : α) :
    catching body (fun e => Call.raise (f e)) s = (.ok a, s') ↔ body s = (.ok a, s') := by
  rcases h : body s with ⟨e | b, t⟩
  · rw [catching_run_error _ h]
    exact iff_of_false (fun h => by cases h) (fun h => by cases h)
  · rw [catching_run_ok _ h]

/-- The call acts as a call with the value of the variable as a parameter. -/
def Reads (c : Call (ν × σ) ε α) (d : ν → Call σ ε α) : Prop :=
  ∀ v s, c (v, s) = ((d v s).1, (v, (d v s).2))

theorem Reads.kept {c : Call (ν × σ) ε α} {d : ν → Call σ ε α} (h : Reads c d) (t : ν × σ) :
    (c t).2.1 = t.1 := by
  rw [show c t = _ from h t.1 t.2]

theorem reads_raise (e : ε) : Reads (Call.raise e : Call (ν × σ) ε α) (fun _ => Call.raise e) :=
  fun _ _ => rfl

theorem reads_lift (x : Except ε α) :
    Reads (Call.lift x : Call (ν × σ) ε α) (fun _ => Call.lift x) :=
  fun _ _ => rfl

theorem reads_beside (c : Call σ ε α) : Reads (beside c : Call (ν × σ) ε α) (fun _ => c) :=
  fun _ _ => rfl

theorem reads_bind {c : Call (ν × σ) ε α} {d : ν → Call σ ε α} {f : α → Call (ν × σ) ε β}
    {g : α → ν → Call σ ε β} (hc : Reads c d) (hf : ∀ a, Reads (f a) (g a)) :
    Reads (c >>= f) (fun v => d v >>= fun a => g a v) := by
  intro v s
  have hcv := hc v s
  rcases hd : d v s with ⟨e | a, s'⟩
  · rw [hd] at hcv
    rw [Call.bind_run_error _ hcv]
    dsimp only
    rw [Call.bind_run_error _ hd]
  · rw [hd] at hcv
    rw [Call.bind_run_ok _ hcv]
    dsimp only
    rw [Call.bind_run_ok _ hd]
    exact hf a v s'

theorem reads_catching {body : Call (ν × σ) ε α} {d : ν → Call σ ε α}
    {handler : ε → Call (ν × σ) ε α} {g : ε → ν → Call σ ε α} (hc : Reads body d)
    (hh : ∀ e, Reads (handler e) (g e)) :
    Reads (catching body handler) (fun v => catching (d v) (fun e => g e v)) := by
  intro v s
  have hcv := hc v s
  rcases hd : d v s with ⟨e | a, s'⟩
  · rw [hd] at hcv
    rw [catching_run_error _ hcv]
    dsimp only
    rw [catching_run_error _ hd]
    exact hh e v s'
  · rw [hd] at hcv
    rw [catching_run_ok _ hcv]
    dsimp only
    rw [catching_run_ok _ hd]

theorem reads_under {body : Call (ν × σ) ε α} {d : ν → Call σ ε α} (v : ν)
    (h : Reads body d) : Reads (under v body) (fun _ => d v) := by
  intro w s
  unfold under
  rw [h v s]

end CacheBlend.ScopedVariables
