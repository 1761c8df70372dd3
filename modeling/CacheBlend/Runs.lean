import Mathlib.Data.List.Induction
import Mathlib.Logic.Relation

/-!
# Runs of labelled steps

A run is a finite sequence of labelled steps of one system. What every step
preserves holds at the end of every run, and a run of one system is a run of
any system that has its steps. An executable step function gives runs by
evaluation, which is how concrete runs are produced.
-/

set_option autoImplicit false

namespace CacheBlend

variable {σ ε : Type*}

inductive Run (step : σ → ε → σ → Prop) (start : σ) : List ε → σ → Prop
  | nil : Run step start [] start
  | snoc {es : List ε} {s s' : σ} {e : ε} :
      Run step start es s → step s e s' → Run step start (es ++ [e]) s'

def Reached (step : σ → ε → σ → Prop) (start s : σ) : Prop :=
  ∃ es, Run step start es s

theorem run_invariant {step : σ → ε → σ → Prop} (I : σ → Prop) {start s : σ}
    {es : List ε} (hstep : ∀ s e s', I s → step s e s' → I s')
    (hstart : I start) (h : Run step start es s) : I s := by
  induction h with
  | nil => exact hstart
  | snoc _ hs ih => exact hstep _ _ _ ih hs

theorem reached_invariant {step : σ → ε → σ → Prop} (I : σ → Prop) {start s : σ}
    (hstep : ∀ s e s', I s → step s e s' → I s')
    (hstart : I start) (h : Reached step start s) : I s :=
  h.elim fun _ hr => run_invariant I hstep hstart hr

theorem reached_start (step : σ → ε → σ → Prop) (start : σ) : Reached step start start :=
  ⟨[], .nil⟩

theorem reached_step {step : σ → ε → σ → Prop} {start s s' : σ} {e : ε}
    (h : Reached step start s) (hs : step s e s') : Reached step start s' :=
  h.elim fun es hr => ⟨es ++ [e], .snoc hr hs⟩

theorem reached_trans {step : σ → ε → σ → Prop} {a b c : σ} (hab : Reached step a b)
    (hbc : Reached step b c) : Reached step a c :=
  reached_invariant (Reached step a) (fun _ _ _ hr hs => reached_step hr hs) hab hbc

/-- A map that takes steps to steps takes reached states to reached states. -/
theorem reached_map {τ κ : Type*} {step : σ → ε → σ → Prop} {step' : τ → κ → τ → Prop} (f : σ → τ)
    (g : ε → κ) (hf : ∀ s e s', step s e s' → step' (f s) (g e) (f s')) {s s' : σ}
    (h : Reached step s s') : Reached step' (f s) (f s') :=
  reached_invariant (fun t => Reached step' (f s) (f t))
    (fun _ _ _ hr hs => reached_step hr (hf _ _ _ hs)) (reached_start step' (f s)) h

theorem reached_mono {step step' : σ → ε → σ → Prop} {start s : σ}
    (hsub : ∀ s e s', step s e s' → step' s e s') (h : Reached step start s) :
    Reached step' start s :=
  reached_invariant (Reached step' start)
    (fun _ _ _ hr hs => reached_step hr (hsub _ _ _ hs)) (reached_start step' start) h

theorem run_last {step : σ → ε → σ → Prop} {start s : σ} {es : List ε} {e : ε}
    (h : Run step start (es ++ [e]) s) : ∃ t, Run step start es t ∧ step t e s := by
  generalize hl : es ++ [e] = l at h
  cases h with
  | nil => exact absurd hl (by simp)
  | snoc hr hs =>
    obtain ⟨rfl, he⟩ := List.append_inj' hl rfl
    cases he
    exact ⟨_, hr, hs⟩

/-- A run of a concatenation is a run of the first part and then of the second. -/
theorem run_append {step : σ → ε → σ → Prop} {start s : σ} {es es' : List ε}
    (h : Run step start (es ++ es') s) : ∃ t, Run step start es t ∧ Run step t es' s := by
  induction es' using List.reverseRecOn generalizing s with
  | nil => exact ⟨s, by rwa [List.append_nil] at h, .nil⟩
  | append_singleton es' e ih =>
    rw [← List.append_assoc] at h
    obtain ⟨s', hr, hs⟩ := run_last h
    obtain ⟨t, ht, hrest⟩ := ih hr
    exact ⟨t, ht, .snoc hrest hs⟩

/-- Every prefix of a run is a run, and its next label is a step. -/
theorem run_split {step : σ → ε → σ → Prop} {start s : σ} {es : List ε}
    (h : Run step start es s) (pre : List ε) (e : ε) (post : List ε) (he : es = pre ++ e::post) :
    ∃ t t', Run step start pre t ∧ step t e t' := by
  rw [he, List.append_cons] at h
  obtain ⟨t', hr, _⟩ := run_append h
  obtain ⟨t, hr, hs⟩ := run_last hr
  exact ⟨t, t', hr, hs⟩

def execute (step : σ → ε → Option σ) : σ → List ε → Option σ
  | s, [] => some s
  | s, e :: es => (step s e).bind (fun s' => execute step s' es)

theorem execute_reached {step : σ → ε → Option σ} {start s s' : σ} (es : List ε)
    (hr : Reached (fun s e s' => step s e = some s') start s)
    (h : execute step s es = some s') :
    Reached (fun s e s' => step s e = some s') start s' := by
  induction es generalizing s with
  | nil =>
    cases h
    exact hr
  | cons e es ih =>
    obtain ⟨t, ht, hes⟩ := Option.bind_eq_some_iff.mp h
    exact ih (reached_step hr ht) hes

/-- The state after a concrete run, provided that every step is possible. -/
def ran (step : σ → ε → Option σ) (start : σ) (es : List ε) : σ :=
  (execute step start es).getD start

theorem ran_reached {step : σ → ε → Option σ} {start : σ} (es : List ε)
    (h : (execute step start es).isSome = true) :
    Reached (fun s e s' => step s e = some s') start (ran step start es) := by
  obtain ⟨s, hs⟩ := Option.isSome_iff_exists.mp h
  have hr := execute_reached es (reached_start _ start) hs
  unfold ran
  rwa [hs]

/-- A step at one index of a list keeps the other elements. -/
theorem mem_modify {α : Type*} {f : α → α} {xs : List α} {i : ℕ} {y : α}
    (h : y ∈ xs.modify i f) : y ∈ xs ∨ ∃ x, xs[i]? = some x ∧ y = f x := by
  obtain ⟨j, hj⟩ := List.mem_iff_getElem?.mp h
  rw [List.getElem?_modify] at hj
  obtain ⟨x, hx, rfl⟩ := Option.map_eq_some_iff.mp hj
  split_ifs with hi
  · exact Or.inr ⟨x, hi ▸ hx, rfl⟩
  · exact Or.inl (List.mem_of_getElem? hx)

end CacheBlend
