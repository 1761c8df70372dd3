import Mathlib.Data.List.Infix
import Mathlib.Data.List.Dedup
import Mathlib.Data.List.Nodup
import Mathlib.Data.Nat.Find
import Mathlib.Order.Defs.PartialOrder

/-!
# First occurrences

`firstBy` keeps the first element of every key that is not among the keys
already seen. A loop that records an element when its key is new computes
it. The windows of a fixed length of a list are its infixes of that length.
-/

set_option autoImplicit false

namespace CacheBlend

/-- Where keys are distinct, the elements with the key of one of them are that one. -/
theorem filter_unique {α κ : Type*} [DecidableEq κ] (key : α → κ) (xs : List α) (a : α)
    (hn : (xs.map key).Nodup) (ha : a ∈ xs) : xs.filter (fun x => key x = key a) = [a] := by
  induction xs with
  | nil => exact absurd ha List.not_mem_nil
  | cons x xs ih =>
    obtain ⟨hx, hn⟩ := List.nodup_cons.mp hn
    obtain rfl | ha := List.mem_cons.mp ha
    · rw [List.filter_cons, if_pos (decide_eq_true rfl)]
      congr 1
      rw [List.filter_eq_nil_iff]
      intro y hy he
      exact hx (of_decide_eq_true he ▸ List.mem_map_of_mem hy)
    · rw [List.filter_cons, if_neg, ih hn ha]
      intro he
      exact hx (of_decide_eq_true he ▸ List.mem_map_of_mem ha)

section
variable {α κ : Type*} [DecidableEq κ]

def firstBy (key : α → κ) : List κ → List α → List α
  | _, [] => []
  | seen, x::xs =>
    if key x ∈ seen then firstBy key seen xs else x :: firstBy key (key x :: seen) xs

/-- The kept elements are those whose key is new at their position. -/
theorem mem_firstBy (key : α → κ) (seen : List κ) (xs : List α) (x : α) :
    x ∈ firstBy key seen xs ↔
      ∃ pre post, xs = pre ++ x::post ∧ key x ∉ seen ∧ key x ∉ pre.map key := by
  induction xs generalizing seen with
  | nil => simp [firstBy]
  | cons y ys ih =>
    unfold firstBy
    split_ifs with hy
    · rw [ih]
      constructor
      · rintro ⟨pre, post, rfl, hs, hp⟩
        refine ⟨y::pre, post, rfl, hs, ?_⟩
        rw [List.map_cons, List.mem_cons, not_or]
        exact ⟨fun h => hs (h ▸ hy), hp⟩
      · rintro ⟨pre, post, he, hs, hp⟩
        cases pre with
        | nil =>
          cases he
          exact absurd hy hs
        | cons z pre =>
          cases he
          exact ⟨pre, post, rfl, hs, fun h => hp (List.mem_cons_of_mem _ h)⟩
    · rw [List.mem_cons, ih]
      constructor
      · rintro (rfl | ⟨pre, post, rfl, hs, hp⟩)
        · exact ⟨[], ys, rfl, hy, List.not_mem_nil⟩
        · rw [List.mem_cons, not_or] at hs
          refine ⟨y::pre, post, rfl, hs.2, ?_⟩
          rw [List.map_cons, List.mem_cons, not_or]
          exact ⟨hs.1, hp⟩
      · rintro ⟨pre, post, he, hs, hp⟩
        cases pre with
        | nil =>
          cases he
          exact Or.inl rfl
        | cons z pre =>
          cases he
          rw [List.map_cons, List.mem_cons, not_or] at hp
          exact Or.inr ⟨pre, post, rfl, by simp [hp.1, hs], hp.2⟩

theorem firstBy_sublist (key : α → κ) (seen : List κ) (xs : List α) :
    (firstBy key seen xs).Sublist xs := by
  induction xs generalizing seen with
  | nil => exact .slnil
  | cons y ys ih =>
    unfold firstBy
    split_ifs
    · exact (ih seen).cons y
    · exact (ih _).cons_cons y

theorem firstBy_keys_nodup (key : α → κ) (seen : List κ) (xs : List α) :
    ((firstBy key seen xs).map key).Nodup := by
  induction xs generalizing seen with
  | nil => exact List.nodup_nil
  | cons y ys ih =>
    unfold firstBy
    split_ifs
    · exact ih seen
    · rw [List.map_cons, List.nodup_cons]
      refine ⟨fun h => ?_, ih _⟩
      obtain ⟨x, hx, hk⟩ := List.mem_map.mp h
      obtain ⟨_, _, _, hs, _⟩ := (mem_firstBy key _ _ x).mp hx
      exact hs (hk ▸ List.mem_cons_self)

/-- Every key that occurs has a first occurrence. -/
theorem mem_firstBy_keys (key : α → κ) (xs : List α) (k : κ) :
    k ∈ (firstBy key [] xs).map key ↔ k ∈ xs.map key := by
  constructor
  · exact fun h => ((firstBy_sublist key [] xs).map key).subset h
  · intro h
    induction xs using List.reverseRecOn with
    | nil => exact absurd h List.not_mem_nil
    | append_singleton ys y ih =>
      by_cases hk : k ∈ ys.map key
      · obtain ⟨x, hx, rfl⟩ := List.mem_map.mp (ih hk)
        obtain ⟨pre, post, rfl, hs, hp⟩ := (mem_firstBy key _ _ x).mp hx
        refine List.mem_map.mpr ⟨x, (mem_firstBy key _ _ x).mpr ?_, rfl⟩
        exact ⟨pre, post ++ [y], by simp, hs, hp⟩
      · have hy : key y = k := by
          simp only [List.map_append, List.map_cons, List.map_nil, List.mem_append,
            List.mem_singleton] at h
          exact (h.resolve_left hk).symm
        subst hy
        refine List.mem_map.mpr ⟨y, (mem_firstBy key _ _ y).mpr ?_, rfl⟩
        exact ⟨ys, [], rfl, List.not_mem_nil, hk⟩

/-- Only the set of the keys already seen matters. -/
theorem firstBy_seen (key : α → κ) (seen seen' : List κ) (xs : List α)
    (h : ∀ k, k ∈ seen ↔ k ∈ seen') : firstBy key seen xs = firstBy key seen' xs := by
  induction xs generalizing seen seen' with
  | nil => rfl
  | cons y ys ih =>
    unfold firstBy
    rw [ih seen seen' h, ih (key y::seen) (key y::seen') fun k => by
      rw [List.mem_cons, List.mem_cons, h]]
    simp only [h]

theorem firstBy_append (key : α → κ) (seen : List κ) (xs ys : List α) :
    firstBy key seen (xs ++ ys) =
      firstBy key seen xs ++ firstBy key (seen ++ xs.map key) ys := by
  induction xs generalizing seen with
  | nil => rw [List.nil_append, List.map_nil, List.append_nil, firstBy, List.nil_append]
  | cons x xs ih =>
    rw [List.cons_append, firstBy, firstBy]
    split_ifs with hx
    · rw [ih seen]
      congr 1
      apply firstBy_seen
      intro k
      simp only [List.mem_append, List.map_cons, List.mem_cons]
      constructor
      · rintro (h | h)
        · exact Or.inl h
        · exact Or.inr (Or.inr h)
      · rintro (h | rfl | h)
        · exact Or.inl h
        · exact Or.inl hx
        · exact Or.inr h
    · rw [ih (key x::seen), List.cons_append]
      congr 2
      apply firstBy_seen
      intro k
      simp only [List.mem_append, List.map_cons, List.mem_cons]
      tauto

/-- By value, the kept elements are the distinct ones not seen before. -/
theorem firstBy_id_perm {α : Type*} [DecidableEq α] (seen xs : List α) :
    (firstBy id seen xs).Perm (xs.dedup.filter (fun x => x ∉ seen)) := by
  have hkept : (firstBy id seen xs).Nodup := (firstBy_keys_nodup id seen xs).of_map
  refine (List.perm_ext_iff_of_nodup hkept (xs.nodup_dedup.filter _)).mpr fun x => ?_
  rw [mem_firstBy, List.mem_filter, List.mem_dedup, decide_eq_true_eq]
  constructor
  · rintro ⟨pre, post, rfl, hs, _⟩
    exact ⟨by simp, hs⟩
  · rintro ⟨hx, hs⟩
    obtain ⟨pre, post, rfl, hp⟩ := List.eq_append_cons_of_mem hx
    exact ⟨pre, post, rfl, hs, by rwa [List.map_id]⟩

/-- Fresh elements without repetition are all kept. -/
theorem firstBy_fresh {α : Type*} [DecidableEq α] (seen xs : List α) (hn : xs.Nodup)
    (hs : ∀ x ∈ xs, x ∉ seen) : firstBy id seen xs = xs := by
  have hall : (firstBy id seen xs).length = xs.length := by
    rw [(firstBy_id_perm seen xs).length_eq, hn.dedup, List.filter_eq_self.mpr]
    exact fun x hx => decide_eq_true (hs x hx)
  exact (firstBy_sublist id seen xs).eq_of_length hall

/-- Among elements in the order of a rank, the kept one has the least rank of
its key. -/
theorem firstBy_least {ρ : Type*} [Preorder ρ] (key : α → κ) (rank : α → ρ) (xs : List α)
    (hs : xs.Pairwise (fun x y => rank x ≤ rank y)) {x y : α} (hx : x ∈ firstBy key [] xs)
    (hy : y ∈ xs) (hk : key y = key x) : rank x ≤ rank y := by
  obtain ⟨pre, post, rfl, _, hp⟩ := (mem_firstBy key [] xs x).mp hx
  obtain hm | hm := List.mem_append.mp hy
  · exact absurd (hk ▸ List.mem_map_of_mem hm) hp
  · obtain rfl | hm := List.mem_cons.mp hm
    · exact le_refl _
    · exact (List.pairwise_cons.mp (List.pairwise_append.mp hs).2.1).1 y hm

theorem firstBy_nodup (key : α → κ) (seen : List κ) (xs : List α) :
    (firstBy key seen xs).Nodup :=
  (firstBy_keys_nodup key seen xs).of_map

end

section
variable {α : Type*}

def window (xs : List α) (start width : ℕ) : List α := (xs.drop start).take width

theorem window_length (xs : List α) (start width : ℕ) (h : start+width ≤ xs.length) :
    (window xs start width).length = width := by
  rw [window, List.length_take, List.length_drop]
  omega

theorem window_head (xs : List α) (start width : ℕ) (hw : 0 < width) :
    (window xs start width).head? = xs[start]? := by
  rw [window, List.head?_take, if_neg hw.ne', List.head?_drop]

theorem window_of_infix (xs ys : List α) (h : ys <:+: xs) :
    ∃ start, start+ys.length ≤ xs.length ∧ window xs start ys.length = ys := by
  obtain ⟨pre, post, rfl⟩ := h
  refine ⟨pre.length, ?_, ?_⟩
  · rw [List.length_append, List.length_append]
    omega
  · rw [window, List.append_assoc, List.drop_left, List.take_left]

/-- The sequence stands in the list at the position and at no earlier one. -/
structure FirstAt (xs ys : List α) (position : ℕ) : Prop where
  occurs : position+ys.length ≤ xs.length ∧ window xs position ys.length = ys
  least : ∀ earlier < position, window xs earlier ys.length ≠ ys

theorem infix_firstAt (xs ys : List α) (h : ys <:+: xs) : ∃ position, FirstAt xs ys position := by
  classical
  have hex : ∃ position, window xs position ys.length = ys := by
    obtain ⟨start, _, hw⟩ := window_of_infix xs ys h
    exact ⟨start, hw⟩
  obtain ⟨start, hin, hw⟩ := window_of_infix xs ys h
  have hle := Nat.find_min' hex hw
  exact ⟨Nat.find hex, ⟨by omega, Nat.find_spec hex⟩, fun earlier hlt => Nat.find_min hex hlt⟩

theorem firstAt_unique {xs ys : List α} {i j : ℕ} (hi : FirstAt xs ys i) (hj : FirstAt xs ys j) :
    i = j := by
  by_contra hne
  obtain hlt | hlt := Nat.lt_or_gt_of_ne hne
  · exact hj.least i hlt hi.occurs.2
  · exact hi.least j hlt hj.occurs.2

theorem window_infix (xs : List α) (start width : ℕ) : window xs start width <:+: xs :=
  (List.take_prefix _ _).isInfix.trans (List.drop_suffix _ _).isInfix

end

end CacheBlend
