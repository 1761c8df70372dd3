import Mathlib.Data.List.Basic
import Mathlib.Data.List.Sort

/-!
# Weighted interval scheduling

Items with a start and a stop are scanned in the order of their stops. A
stack holds the best solution of every scanned prefix. A new item extends the
best solution of the items that stop before it starts, or is left out. The
comparison of solutions is a parameter: when it prefers one of its arguments,
is a preorder, and extension by one item respects it, the scan returns a best
solution among all sequences of compatible items. Two problems whose items
and solutions correspond are scanned alike.
-/

set_option autoImplicit false

namespace CacheBlend.Scheduling

variable {α σ : Type*}

structure Problem (α σ : Type*) where
  start : α → ℕ
  stop : α → ℕ
  empty : σ
  extend : σ → α → σ
  better : σ → σ → σ

variable (P : Problem α σ)

/-- The best solution of the scanned items that stop by the start of `a`. Both
lists have the most recent entry first, and the solutions have one more. -/
def base (a : α) : List α → List σ → σ
  | b::scanned, s::solutions =>
    if P.stop b > P.start a then base a scanned solutions else s
  | [], s::_ => s
  | _, [] => P.empty

def scan : List α → List σ → List α → List σ
  | _, solutions, [] => solutions
  | scanned, solutions, a::rest =>
    scan (a::scanned)
      (P.better (P.extend (base P a scanned solutions) a) (solutions.headD P.empty) :: solutions)
      rest

def schedule (items : List α) : σ := (scan P [] [P.empty] items).headD P.empty

/-- The solution that takes the given items in order. -/
def solution (items : List α) : σ := items.foldl P.extend P.empty

def Compatible (items : List α) : Prop := items.Pairwise (fun a b => P.stop a ≤ P.start b)

def Ordered (items : List α) : Prop := items.Pairwise (fun a b => P.stop a ≤ P.stop b)

/-- `s` takes compatible items of the list, and no such choice is preferred. -/
def Best (le : σ → σ → Prop) (items : List α) (s : σ) : Prop :=
  (∃ chosen, chosen.Sublist items ∧ Compatible P chosen ∧ s = solution P chosen) ∧
    ∀ chosen, chosen.Sublist items → Compatible P chosen → le (solution P chosen) s

/-- The stack of solutions holds a best solution of every scanned prefix. -/
inductive Aligned (le : σ → σ → Prop) : List α → List σ → Prop
  | nil {s : σ} : Best P le [] s → Aligned le [] [s]
  | cons {a : α} {scanned : List α} {s : σ} {solutions : List σ} :
      Aligned le scanned solutions → Best P le (a::scanned).reverse s →
      Aligned le (a::scanned) (s::solutions)

theorem solution_concat (items : List α) (a : α) :
    solution P (items ++ [a]) = P.extend (solution P items) a := by
  simp [solution]

theorem aligned_head (le : σ → σ → Prop) (scanned : List α) (solutions : List σ)
    (h : Aligned P le scanned solutions) :
    Best P le scanned.reverse (solutions.headD P.empty) := by
  cases h with
  | nil hs => exact hs
  | cons _ hs => exact hs

/-- With decreasing stops, the items that stop by the start of `a` are a tail
of the scanned items. -/
theorem base_best (le : σ → σ → Prop) (a : α) (scanned : List α) (solutions : List σ)
    (ho : Ordered P scanned.reverse) (h : Aligned P le scanned solutions) :
    Best P le (scanned.reverse.filter (fun b => P.stop b ≤ P.start a))
      (base P a scanned solutions) := by
  induction scanned generalizing solutions with
  | nil =>
    cases h with
    | nil hs => exact hs
  | cons b scanned ih =>
    cases h with
    | @cons _ _ s solutions htail hs =>
      rw [List.reverse_cons] at ho hs ⊢
      have hall := (List.pairwise_append.mp ho)
      rw [List.filter_append]
      by_cases hb : P.stop b > P.start a
      · have hnil : [b].filter (fun b => P.stop b ≤ P.start a) = [] := by simp [hb]
        rw [hnil, List.append_nil, base, if_pos hb]
        exact ih solutions hall.1 htail
      · have hscan : scanned.reverse.filter (fun b => P.stop b ≤ P.start a) =
            scanned.reverse := by
          apply List.filter_eq_self.mpr
          intro c hc
          have hcb := hall.2.2 c hc b (by simp)
          exact decide_eq_true (by omega)
        have hone : [b].filter (fun b => P.stop b ≤ P.start a) = [b] := by
          simp [Nat.le_of_not_lt hb]
        rw [hscan, hone, base, if_neg hb]
        exact hs

/-- A choice that ends in `a` takes compatible items that stop by its start. -/
theorem compatible_concat (items : List α) (a : α) :
    Compatible P (items ++ [a]) ↔ Compatible P items ∧ ∀ b ∈ items, P.stop b ≤ P.start a := by
  simp [Compatible, List.pairwise_append]

theorem step_best (le : σ → σ → Prop)
    (hr : ∀ s t, P.better s t = s ∨ P.better s t = t)
    (hl : ∀ s t, le s (P.better s t)) (ht : ∀ s t, le t (P.better s t))
    (htrans : ∀ s t u, le s t → le t u → le s u)
    (hmono : ∀ S T a, le (solution P S) (solution P T) →
      le (P.extend (solution P S) a) (P.extend (solution P T) a))
    (items : List α) (a : α) (s t : σ)
    (hs : Best P le (items.filter (fun b => P.stop b ≤ P.start a)) s)
    (htop : Best P le items t) :
    Best P le (items ++ [a]) (P.better (P.extend s a) t) := by
  obtain ⟨⟨S, hS, hSc, rfl⟩, hSmax⟩ := hs
  obtain ⟨⟨T, hT, hTc, rfl⟩, hTmax⟩ := htop
  constructor
  · obtain he | he := hr (P.extend (solution P S) a) (solution P T)
    · refine ⟨S ++ [a], (hS.trans List.filter_sublist).append (List.Sublist.refl _), ?_, ?_⟩
      · refine (compatible_concat P S a).mpr ⟨hSc, fun b hb => ?_⟩
        exact of_decide_eq_true (List.mem_filter.mp (hS.subset hb)).2
      · rw [he, solution_concat]
    · exact ⟨T, hT.trans (List.sublist_append_left _ _), hTc, he⟩
  · intro C hC hCc
    obtain ⟨A, B, rfl, hA, hB⟩ := List.sublist_append_iff.mp hC
    obtain rfl | rfl : B = [] ∨ B = [a] := by
      cases hB with
      | cons _ h => exact Or.inl (List.sublist_nil.mp h)
      | cons_cons _ h =>
        rw [List.sublist_nil.mp h]
        exact Or.inr rfl
    · rw [List.append_nil] at hCc ⊢
      exact htrans _ _ _ (hTmax A hA hCc) (ht _ _)
    · obtain ⟨hAc, hstop⟩ := (compatible_concat P A a).mp hCc
      have hAf : A.Sublist (items.filter (fun b => P.stop b ≤ P.start a)) := by
        have hself : A.filter (fun b => P.stop b ≤ P.start a) = A :=
          List.filter_eq_self.mpr fun b hb => decide_eq_true (hstop b hb)
        rw [← hself]
        exact hA.filter _
      rw [solution_concat]
      exact htrans _ _ _ (hmono A S a (hSmax A hAf hAc)) (hl _ _)

theorem scan_best (le : σ → σ → Prop)
    (hr : ∀ s t, P.better s t = s ∨ P.better s t = t)
    (hl : ∀ s t, le s (P.better s t)) (ht : ∀ s t, le t (P.better s t))
    (htrans : ∀ s t u, le s t → le t u → le s u)
    (hmono : ∀ S T a, le (solution P S) (solution P T) →
      le (P.extend (solution P S) a) (P.extend (solution P T) a))
    (scanned : List α) (solutions : List σ) (rest : List α)
    (ho : Ordered P (scanned.reverse ++ rest)) (h : Aligned P le scanned solutions) :
    Best P le (scanned.reverse ++ rest) ((scan P scanned solutions rest).headD P.empty) := by
  induction rest generalizing scanned solutions with
  | nil =>
    rw [List.append_nil]
    exact aligned_head P le scanned solutions h
  | cons a rest ih =>
    have hsplit : scanned.reverse ++ a::rest = (a::scanned).reverse ++ rest := by simp
    have hscanned : Ordered P scanned.reverse := (List.pairwise_append.mp ho).1
    rw [hsplit] at ho ⊢
    refine ih (a::scanned) _ ho (.cons h ?_)
    rw [List.reverse_cons]
    exact step_best P le hr hl ht htrans hmono scanned.reverse a _ _
      (base_best P le a scanned solutions hscanned h)
      (aligned_head P le scanned solutions h)

/-- The scan of items in the order of their stops finds a best solution. -/
theorem schedule_best (le : σ → σ → Prop) (hrefl : ∀ s, le s s)
    (hr : ∀ s t, P.better s t = s ∨ P.better s t = t)
    (hl : ∀ s t, le s (P.better s t)) (ht : ∀ s t, le t (P.better s t))
    (htrans : ∀ s t u, le s t → le t u → le s u)
    (hmono : ∀ S T a, le (solution P S) (solution P T) →
      le (P.extend (solution P S) a) (P.extend (solution P T) a))
    (items : List α) (ho : Ordered P items) : Best P le items (schedule P items) := by
  have hempty : Best P le [] P.empty :=
    ⟨⟨[], List.Sublist.refl _, .nil, rfl⟩, fun C hC _ => by
      rw [List.sublist_nil.mp hC]
      exact hrefl _⟩
  exact scan_best P le hr hl ht htrans hmono [] [P.empty] items ho (.nil hempty)

/-- Whatever the comparison prefers, the scan returns the solution of compatible items. -/
theorem schedule_compatible (hr : ∀ s t, P.better s t = s ∨ P.better s t = t) (items : List α)
    (ho : Ordered P items) : ∃ chosen, chosen.Sublist items ∧ Compatible P chosen ∧
      schedule P items = solution P chosen :=
  (schedule_best P (fun _ _ => True) (fun _ => trivial) hr (fun _ _ => trivial)
    (fun _ _ => trivial) (fun _ _ _ _ _ => trivial) (fun _ _ _ _ => trivial) items ho).1

/-- Items of a list with distinct indexes are found again by their indexes. -/
theorem filter_indexes_perm {ι : Type*} [DecidableEq ι] (items chosen : List (α × ι))
    (hn : (items.map Prod.snd).Nodup) (hsub : ∀ p ∈ chosen, p ∈ items) (hc : chosen.Nodup) :
    (items.filter (fun p => p.2 ∈ chosen.map Prod.snd)).Perm chosen := by
  have hi : items.Nodup := hn.of_map
  rw [List.perm_ext_iff_of_nodup (hi.filter _) hc]
  intro p
  rw [List.mem_filter, decide_eq_true_eq, List.mem_map]
  constructor
  · rintro ⟨hp, q, hq, he⟩
    rw [← List.inj_on_of_nodup_map hn (hsub q hq) hp he]
    exact hq
  · exact fun hp => ⟨hsub p hp, p, hp, rfl⟩

/-! ## Corresponding problems -/

section
variable {β τ : Type*} {P} {Q : Problem β τ} {item : α → β → Prop} {sol : σ → τ → Prop}

/-- Corresponding items have the same times, and the operations of the two
problems keep solutions in correspondence. -/
structure Corresponds (P : Problem α σ) (Q : Problem β τ) (item : α → β → Prop)
    (sol : σ → τ → Prop) : Prop where
  times : ∀ a b, item a b → P.start a = Q.start b ∧ P.stop a = Q.stop b
  empty : sol P.empty Q.empty
  extend : ∀ s t a b, sol s t → item a b → sol (P.extend s a) (Q.extend t b)
  better : ∀ s t s' t', sol s t → sol s' t' → sol (P.better s s') (Q.better t t')

theorem base_corresponds (h : Corresponds P Q item sol) {a : α} {b : β} (hab : item a b)
    {scanned : List α} {scanned' : List β} (hs : List.Forall₂ item scanned scanned')
    {solutions : List σ} {solutions' : List τ} (ht : List.Forall₂ sol solutions solutions') :
    sol (base P a scanned solutions) (base Q b scanned' solutions') := by
  induction hs generalizing solutions solutions' with
  | nil =>
    cases ht with
    | nil => exact h.empty
    | cons hst _ => exact hst
  | @cons c d _ _ hcd _ ih =>
    cases ht with
    | nil => exact h.empty
    | cons hst hrest =>
      rw [base, base, (h.times a b hab).1, (h.times c d hcd).2]
      split_ifs
      · exact ih hrest
      · exact hst

theorem head_corresponds (h : Corresponds P Q item sol) {solutions : List σ}
    {solutions' : List τ} (ht : List.Forall₂ sol solutions solutions') :
    sol (solutions.headD P.empty) (solutions'.headD Q.empty) := by
  cases ht with
  | nil => exact h.empty
  | cons hst _ => exact hst

theorem scan_corresponds (h : Corresponds P Q item sol) {rest : List α} {rest' : List β}
    (hr : List.Forall₂ item rest rest') {scanned : List α} {scanned' : List β}
    (hs : List.Forall₂ item scanned scanned') {solutions : List σ} {solutions' : List τ}
    (ht : List.Forall₂ sol solutions solutions') :
    List.Forall₂ sol (scan P scanned solutions rest) (scan Q scanned' solutions' rest') := by
  induction hr generalizing scanned scanned' solutions solutions' with
  | nil => exact ht
  | @cons a b _ _ hab _ ih =>
    refine ih (.cons hab hs) (.cons ?_ ht)
    exact h.better _ _ _ _ (h.extend _ _ a b (base_corresponds h hab hs ht) hab)
      (head_corresponds h ht)

theorem schedule_corresponds (h : Corresponds P Q item sol) {items : List α} {items' : List β}
    (hi : List.Forall₂ item items items') : sol (schedule P items) (schedule Q items') :=
  head_corresponds h (scan_corresponds h hi .nil (.cons h.empty .nil))

end

end CacheBlend.Scheduling
