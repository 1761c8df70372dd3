import Mathlib.Logic.Function.Basic

/-!
# Writes to a keyed memory

A memory gives every cell its content. A list of writes changes the cells it
names and no other. When all writes to one cell agree, their order does not
matter and the cell holds their common content.
-/

set_option autoImplicit false

namespace CacheBlend.KeyedMemory
variable {κ ν : Type*} [DecidableEq κ]

def writeAll (m : κ → ν) : List (κ × ν) → κ → ν
  | [] => m
  | w::ws => writeAll (Function.update m w.1 w.2) ws

theorem writeAll_append (m : κ → ν) (ws ws' : List (κ × ν)) :
    writeAll m (ws++ws') = writeAll (writeAll m ws) ws' := by
  induction ws generalizing m with
  | nil => rfl
  | cons w ws ih => exact ih _

theorem writeAll_frame (m : κ → ν) (ws : List (κ × ν)) (k : κ) (h : ∀ w ∈ ws, w.1 ≠ k) :
    writeAll m ws k = m k := by
  induction ws generalizing m with
  | nil => rfl
  | cons w ws ih =>
    have hw := h w List.mem_cons_self
    calc writeAll (Function.update m w.1 w.2) ws k
        = Function.update m w.1 w.2 k := ih _ fun w' hm => h w' (List.mem_cons_of_mem _ hm)
      _ = m k := Function.update_of_ne hw.symm _ _

/-- Writes that agree on a cell leave their common content in it. -/
theorem writeAll_agree (m : κ → ν) (ws : List (κ × ν)) (k : κ) (v : ν)
    (hm : ∃ w ∈ ws, w.1 = k) (ha : ∀ w ∈ ws, w.1 = k → w.2 = v) :
    writeAll m ws k = v := by
  induction ws generalizing m with
  | nil =>
    obtain ⟨w, hw, _⟩ := hm
    exact absurd hw List.not_mem_nil
  | cons w ws ih =>
    have hrest : ∀ w' ∈ ws, w'.1 = k → w'.2 = v :=
      fun w' hw => ha w' (List.mem_cons_of_mem _ hw)
    by_cases hl : ∃ w' ∈ ws, w'.1 = k
    · exact ih _ hl hrest
    · -- no later write reaches the cell, so the head is the one that does
      obtain ⟨w', hw', hk⟩ := hm
      obtain rfl | hw' := List.mem_cons.mp hw'
      · have hframe := writeAll_frame (Function.update m w'.1 w'.2) ws k
          fun x hx hxk => hl ⟨x, hx, hxk⟩
        rw [writeAll, hframe, ← hk, Function.update_self]
        exact ha w' List.mem_cons_self hk
      · exact absurd ⟨w', hw', hk⟩ hl

end CacheBlend.KeyedMemory
