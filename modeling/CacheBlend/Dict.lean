import Mathlib.Data.List.Nodup

/-!
# Insertion-ordered dictionaries

A dictionary is a finite list of entries with distinct keys. Assignment
replaces a present key in place and appends a new one, so iteration follows
the order of first insertion. Lookup is characterised by membership of the
entry list, and the remaining laws follow from that characterisation.
-/

set_option autoImplicit false

namespace CacheBlend

structure Dict (κ ν : Type*) where
  entries : List (κ × ν)
  nodup : (entries.map Prod.fst).Nodup
  deriving DecidableEq

namespace Dict
variable {κ ν : Type*}

def empty : Dict κ ν := ⟨[], List.nodup_nil⟩

def keys (d : Dict κ ν) : List κ := d.entries.map Prod.fst

def size (d : Dict κ ν) : ℕ := d.entries.length

theorem keys_nodup (d : Dict κ ν) : d.keys.Nodup := d.nodup

@[simp] theorem keys_empty : (empty : Dict κ ν).keys = [] := rfl

@[simp] theorem entries_empty : (empty : Dict κ ν).entries = [] := rfl

variable [DecidableEq κ]

def find (k : κ) : List (κ × ν) → Option ν
  | [] => none
  | e :: es => if e.1 = k then some e.2 else find k es

def get? (d : Dict κ ν) (k : κ) : Option ν := find k d.entries

def assign (k : κ) (v : ν) (es : List (κ × ν)) : List (κ × ν) :=
  if k ∈ es.map Prod.fst then es.map (fun e => if e.1 = k then (k, v) else e)
  else es ++ [(k, v)]

theorem assign_nodup (k : κ) (v : ν) (es : List (κ × ν))
    (h : (es.map Prod.fst).Nodup) : ((assign k v es).map Prod.fst).Nodup := by
  unfold assign
  split_ifs with hk
  · have hm : (es.map (fun e => if e.1 = k then (k, v) else e)).map Prod.fst =
        es.map Prod.fst := by
      rw [List.map_map]
      apply List.map_congr_left
      intro e _
      by_cases he : e.1 = k <;> simp [he]
    rwa [hm]
  · rw [List.map_append, List.map_singleton]
    exact h.append (List.nodup_singleton k) (List.disjoint_singleton.mpr hk)

def set (d : Dict κ ν) (k : κ) (v : ν) : Dict κ ν :=
  ⟨assign k v d.entries, assign_nodup k v d.entries d.nodup⟩

def erase (d : Dict κ ν) (k : κ) : Dict κ ν :=
  ⟨d.entries.filter (fun e => e.1 ≠ k),
    d.nodup.sublist (List.filter_sublist.map Prod.fst)⟩

theorem find_iff (k : κ) (v : ν) (es : List (κ × ν)) (h : (es.map Prod.fst).Nodup) :
    find k es = some v ↔ (k, v) ∈ es := by
  induction es with
  | nil => simp [find]
  | cons e es ih =>
    obtain ⟨he, hes⟩ := List.nodup_cons.mp h
    by_cases hk : e.1 = k
    · subst hk
      have hn : (e.1, v) ∉ es := fun hm => he (List.mem_map.mpr ⟨_, hm, rfl⟩)
      simp [find, hn, Prod.ext_iff, eq_comm]
    · simp [find, hk, ih hes, Prod.ext_iff, Ne.symm hk]

theorem get?_iff (d : Dict κ ν) (k : κ) (v : ν) :
    d.get? k = some v ↔ (k, v) ∈ d.entries :=
  find_iff k v d.entries d.nodup

theorem mem_keys (d : Dict κ ν) (k : κ) : k ∈ d.keys ↔ ∃ v, d.get? k = some v := by
  simp only [keys, List.mem_map, get?_iff]
  constructor
  · rintro ⟨e, he, rfl⟩
    exact ⟨e.2, he⟩
  · rintro ⟨v, hv⟩
    exact ⟨(k, v), hv, rfl⟩

theorem get?_none (d : Dict κ ν) (k : κ) : d.get? k = none ↔ k ∉ d.keys := by
  rw [mem_keys]
  cases d.get? k <;> simp

@[simp] theorem get?_empty (k : κ) : (empty : Dict κ ν).get? k = none := rfl

theorem mem_assign (k k' : κ) (v v' : ν) (es : List (κ × ν)) :
    (k', v') ∈ assign k v es ↔
      (k' = k ∧ v' = v) ∨ (k' ≠ k ∧ (k', v') ∈ es) := by
  unfold assign
  split_ifs with hk
  · rw [List.mem_map]
    constructor
    · rintro ⟨e, he, hee⟩
      by_cases h : e.1 = k
      · rw [if_pos h] at hee
        cases hee
        exact Or.inl ⟨rfl, rfl⟩
      · rw [if_neg h] at hee
        subst hee
        exact Or.inr ⟨h, he⟩
    · rintro (⟨rfl, rfl⟩ | ⟨hne, hm⟩)
      · obtain ⟨e, he, hee⟩ := List.mem_map.mp hk
        exact ⟨e, he, if_pos hee⟩
      · exact ⟨_, hm, if_neg hne⟩
  · rw [List.mem_append, List.mem_singleton]
    constructor
    · rintro (hm | hm)
      · exact Or.inr ⟨fun h => hk (h ▸ List.mem_map.mpr ⟨_, hm, rfl⟩), hm⟩
      · cases hm
        exact Or.inl ⟨rfl, rfl⟩
    · rintro (⟨rfl, rfl⟩ | ⟨_, hm⟩)
      · exact Or.inr rfl
      · exact Or.inl hm

theorem mem_set (d : Dict κ ν) (k k' : κ) (v v' : ν) :
    (k', v') ∈ (d.set k v).entries ↔
      (k' = k ∧ v' = v) ∨ (k' ≠ k ∧ (k', v') ∈ d.entries) :=
  mem_assign k k' v v' d.entries

theorem mem_erase (d : Dict κ ν) (k : κ) (e : κ × ν) :
    e ∈ (d.erase k).entries ↔ e.1 ≠ k ∧ e ∈ d.entries := by
  simp [erase, and_comm]

theorem get?_set (d : Dict κ ν) (k k' : κ) (v : ν) :
    (d.set k v).get? k' = if k' = k then some v else d.get? k' := by
  apply Option.ext
  intro w
  rw [get?_iff, mem_set]
  by_cases h : k' = k
  · simp [h, eq_comm]
  · simp [h, get?_iff]

@[simp] theorem get?_set_self (d : Dict κ ν) (k : κ) (v : ν) :
    (d.set k v).get? k = some v := by
  rw [get?_set, if_pos rfl]

theorem get?_set_ne (d : Dict κ ν) {k k' : κ} (v : ν) (h : k' ≠ k) :
    (d.set k v).get? k' = d.get? k' := by
  rw [get?_set, if_neg h]

theorem get?_erase (d : Dict κ ν) (k k' : κ) :
    (d.erase k).get? k' = if k' = k then none else d.get? k' := by
  apply Option.ext
  intro w
  rw [get?_iff, mem_erase]
  by_cases h : k' = k
  · simp [h]
  · simp [h, get?_iff]

@[simp] theorem get?_erase_self (d : Dict κ ν) (k : κ) : (d.erase k).get? k = none := by
  rw [get?_erase, if_pos rfl]

theorem get?_erase_ne (d : Dict κ ν) {k k' : κ} (h : k' ≠ k) :
    (d.erase k).get? k' = d.get? k' := by
  rw [get?_erase, if_neg h]

theorem mem_keys_set (d : Dict κ ν) (k k' : κ) (v : ν) :
    k' ∈ (d.set k v).keys ↔ k' = k ∨ k' ∈ d.keys := by
  rw [mem_keys, mem_keys]
  by_cases h : k' = k
  · simp [h]
  · simp [get?_set_ne d v h, h]

end Dict

end CacheBlend
