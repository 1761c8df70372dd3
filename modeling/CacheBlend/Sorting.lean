import Mathlib.Data.List.Lex
import Mathlib.Data.List.Sort
import Mathlib.Data.List.MinMax
import Mathlib.Data.Prod.Lex

/-!
# Stable sorting by a key

`sortedBy` keeps the order of elements with equal keys. It permutes its
argument, its result is nondecreasing in the key, and a list that is
already nondecreasing is returned as it is. By a key that tells the elements
apart, permuted lists are sorted alike.
-/

set_option autoImplicit false

namespace CacheBlend

variable {α κ : Type*} [LinearOrder κ]

def sortedBy (key : α → κ) (xs : List α) : List α :=
  xs.insertionSort (fun a b => key a ≤ key b)

theorem sortedBy_perm (key : α → κ) (xs : List α) : (sortedBy key xs).Perm xs :=
  List.perm_insertionSort _ xs

@[simp] theorem mem_sortedBy (key : α → κ) (xs : List α) (a : α) :
    a ∈ sortedBy key xs ↔ a ∈ xs :=
  (sortedBy_perm key xs).mem_iff

@[simp] theorem length_sortedBy (key : α → κ) (xs : List α) :
    (sortedBy key xs).length = xs.length :=
  (sortedBy_perm key xs).length_eq

theorem sortedBy_pairwise (key : α → κ) (xs : List α) :
    (sortedBy key xs).Pairwise (fun a b => key a ≤ key b) := by
  have ht : Std.Total (fun a b : α => key a ≤ key b) := ⟨fun a b => le_total _ _⟩
  have hr : IsTrans α (fun a b : α => key a ≤ key b) := ⟨fun _ _ _ => le_trans⟩
  exact List.pairwise_insertionSort _ xs

theorem sortedBy_eq_self (key : α → κ) (xs : List α)
    (h : xs.Pairwise (fun a b => key a ≤ key b)) : sortedBy key xs = xs := by
  induction xs with
  | nil => rfl
  | cons a xs ih =>
    obtain ⟨ha, hs⟩ := List.pairwise_cons.mp h
    rw [sortedBy, List.insertionSort_cons]
    change List.orderedInsert _ a (sortedBy key xs) = _
    rw [ih hs]
    cases xs with
    | nil => rfl
    | cons b xs => exact List.orderedInsert_cons_of_le _ xs (ha b (by simp))

theorem sortedBy_idem (key : α → κ) (xs : List α) :
    sortedBy key (sortedBy key xs) = sortedBy key xs :=
  sortedBy_eq_self key _ (sortedBy_pairwise key xs)

theorem sortedBy_map {β κ' : Type*} [LinearOrder κ'] (key : α → κ) (key' : β → κ') (f : β → α)
    (h : ∀ a b, key (f a) ≤ key (f b) ↔ key' a ≤ key' b) (xs : List β) :
    sortedBy key (xs.map f) = (sortedBy key' xs).map f :=
  (List.map_insertionSort _ _ f xs fun a _ b _ => (h a b).symm).symm

theorem sortedBy_unique (key : α → κ) {xs ys : List α}
    (hi : ∀ a ∈ ys, ∀ b ∈ ys, key a = key b → a = b) (hp : xs.Perm ys)
    (hs : ys.Pairwise (fun a b => key a ≤ key b)) : sortedBy key xs = ys := by
  have hperm : (sortedBy key xs).Perm ys := (sortedBy_perm key xs).trans hp
  apply hperm.eq_of_pairwise _ (sortedBy_pairwise key xs) hs
  intro a b ha hb hab hba
  exact hi a (hperm.mem_iff.mp ha) b hb (le_antisymm hab hba)

theorem sortedBy_congr_perm (key : α → κ) {xs ys : List α}
    (hi : ∀ a ∈ ys, ∀ b ∈ ys, key a = key b → a = b) (hp : xs.Perm ys) :
    sortedBy key xs = sortedBy key ys := by
  apply sortedBy_unique key _ (hp.trans (sortedBy_perm key ys).symm) (sortedBy_pairwise key ys)
  intro a ha b hb
  exact hi a ((mem_sortedBy key ys a).mp ha) b ((mem_sortedBy key ys b).mp hb)

theorem map_sortedBy {β κ' : Type*} [LinearOrder κ'] (key : β → κ') (key' : α → κ) (f : β → α)
    (hi : Function.Injective key') (hm : ∀ a b, key a ≤ key b → key' (f a) ≤ key' (f b))
    (xs : List β) : (sortedBy key xs).map f = sortedBy key' (xs.map f) := by
  symm
  apply sortedBy_unique key' (fun a _ b _ h => hi h) ((sortedBy_perm key xs).symm.map f)
  rw [List.pairwise_map]
  exact (sortedBy_pairwise key xs).imp fun {a b} h => hm a b h

theorem map_lt_map_iff (key : α → κ) {κ' : Type*} [LinearOrder κ'] (key' : α → κ')
    (xs ys : List α) (h : ∀ a ∈ xs, ∀ b ∈ ys,
      (key a < key b ↔ key' a < key' b) ∧ (key b < key a ↔ key' b < key' a)) :
    xs.map key < ys.map key ↔ xs.map key' < ys.map key' := by
  induction xs generalizing ys with
  | nil =>
    cases ys with
    | nil => simp
    | cons b ys => exact ⟨fun _ => List.nil_lt_cons _ _, fun _ => List.nil_lt_cons _ _⟩
  | cons a xs ih =>
    cases ys with
    | nil =>
      exact ⟨fun hlt => absurd hlt (List.not_lt_nil _), fun hlt => absurd hlt (List.not_lt_nil _)⟩
    | cons b ys =>
      have hab := h a (by simp) b (by simp)
      have heq : key a = key b ↔ key' a = key' b := by
        simp only [le_antisymm_iff, ← not_lt, hab.1, hab.2]
      have hrest := ih ys fun a' ha' b' hb' => h a' (by simp [ha']) b' (by simp [hb'])
      simp only [List.map_cons, List.cons_lt_cons_iff, hab.1, heq, hrest]

theorem map_le_map_iff (key : α → κ) {κ' : Type*} [LinearOrder κ'] (key' : α → κ')
    (xs ys : List α) (h : ∀ a ∈ xs, ∀ b ∈ ys,
      (key a < key b ↔ key' a < key' b) ∧ (key b < key a ↔ key' b < key' a)) :
    xs.map key ≤ ys.map key ↔ xs.map key' ≤ ys.map key' := by
  rw [← not_lt, ← not_lt, map_lt_map_iff key key' ys xs
    fun b hb a ha => ⟨(h a ha b hb).2, (h a ha b hb).1⟩]

end CacheBlend
