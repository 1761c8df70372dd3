import CacheBlend.Sorting

/-!
# The first elements of a ranking

The first `k` elements in the order of a key are the `k` smallest. A longer
choice from one ranking contains a shorter one, and elements that are smaller
than all others are the choice of their number.
-/

set_option autoImplicit false

namespace CacheBlend.Ranking

variable {α κ : Type*} [LinearOrder κ]

def foremost (key : α → κ) (k : ℕ) (xs : List α) : List α := (sortedBy key xs).take k

theorem foremost_subset (key : α → κ) (k : ℕ) (xs : List α) : foremost key k xs ⊆ xs :=
  fun _ h => (mem_sortedBy key xs _).mp (List.mem_of_mem_take h)

theorem foremost_length (key : α → κ) {k : ℕ} {xs : List α} (h : k ≤ xs.length) :
    (foremost key k xs).length = k := by
  rw [foremost, List.length_take, length_sortedBy, Nat.min_eq_left h]

theorem foremost_nodup (key : α → κ) (k : ℕ) {xs : List α} (h : xs.Nodup) :
    (foremost key k xs).Nodup :=
  (((sortedBy_perm key xs).nodup_iff).mpr h).sublist (List.take_sublist k _)

theorem foremost_mono (key : α → κ) {k k' : ℕ} (h : k ≤ k') (xs : List α) :
    foremost key k xs ⊆ foremost key k' xs :=
  (List.take_sublist_take_left h).subset

theorem foremost_lt {key : α → κ} {k : ℕ} {xs : List α}
    (hi : ∀ a ∈ xs, ∀ b ∈ xs, key a = key b → a = b) {a b : α} (ha : a ∈ foremost key k xs)
    (hb : b ∈ xs) (hn : b ∉ foremost key k xs) : key a < key b := by
  have hsplit : foremost key k xs ++ (sortedBy key xs).drop k = sortedBy key xs :=
    List.take_append_drop k _
  have hb' : b ∈ (sortedBy key xs).drop k := by
    have h := (mem_sortedBy key xs b).mpr hb
    rw [← hsplit] at h
    exact (List.mem_append.mp h).resolve_left hn
  have hs := sortedBy_pairwise key xs
  rw [← hsplit] at hs
  have hle := (List.pairwise_append.mp hs).2.2 a ha b hb'
  refine lt_of_le_of_ne hle fun he => hn ?_
  exact hi a (foremost_subset key k xs ha) b hb he ▸ ha

theorem mem_foremost_iff {key : α → κ} {xs chosen : List α} (hx : xs.Nodup) (hc : chosen.Nodup)
    (hs : chosen ⊆ xs) (hlt : ∀ a ∈ chosen, ∀ b ∈ xs, b ∉ chosen → key a < key b) (a : α) :
    a ∈ foremost key chosen.length xs ↔ a ∈ chosen := by
  classical
  have hlen : chosen.length ≤ xs.length := (List.subperm_of_subset hc hs).length_le
  have hfirst := foremost_length key hlen
  have hnodup := foremost_nodup key chosen.length hx
  have hsub : chosen ⊆ foremost key chosen.length xs := by
    intro c hmem
    by_contra hn
    -- everything that is chosen instead comes before `c`, so it is chosen
    have hinside : foremost key chosen.length xs ⊆ chosen := by
      intro b hb
      by_contra hb'
      have hbefore : key b ≤ key c := by
        have hs' := sortedBy_pairwise key xs
        rw [← List.take_append_drop chosen.length (sortedBy key xs)] at hs'
        have hdrop : c ∈ (sortedBy key xs).drop chosen.length := by
          have h := (mem_sortedBy key xs c).mpr (hs hmem)
          rw [← List.take_append_drop chosen.length (sortedBy key xs)] at h
          exact (List.mem_append.mp h).resolve_left hn
        exact (List.pairwise_append.mp hs').2.2 b hb c hdrop
      exact absurd (hlt c hmem b (foremost_subset _ _ _ hb) hb') (not_lt.mpr hbefore)
    have hperm := (List.subperm_of_subset hnodup hinside).perm_of_length_le (le_of_eq hfirst.symm)
    exact hn (hperm.mem_iff.mpr hmem)
  have hperm := (List.subperm_of_subset hc hsub).perm_of_length_le (le_of_eq hfirst)
  exact hperm.mem_iff.symm

end CacheBlend.Ranking
