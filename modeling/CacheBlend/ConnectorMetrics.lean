import CacheBlend.SchedulerHooks

/-!
# The statistics of a connector

A worker keeps one list of observations for each counter, none of them
negative. A recording checks its values and appends to several lists, and a
snapshot takes all of them.
-/

set_option autoImplicit false

namespace CacheBlend.ConnectorMetrics
open CacheBlend.SchedulerHooks

inductive CounterKey where
  | requests
  | reusableSegmentsRequested
  | reusableSegmentsHit
  | reusableDocumentTokensRequested
  | kvTokensFound
  | kvTokensVerified
  | kvTokensRejected
  | kvTokensLoaded
  | tokensRecomputed
  | prefillTokensAvoided
  | storeTokensEligible
  | storeTokensCompleted
  | loadFallbacks
  | storeFallbacks
  deriving DecidableEq

def counterKeys : List CounterKey :=
  [.requests, .reusableSegmentsRequested, .reusableSegmentsHit,
    .reusableDocumentTokensRequested, .kvTokensFound, .kvTokensVerified, .kvTokensRejected,
    .kvTokensLoaded, .tokensRecomputed, .prefillTokensAvoided, .storeTokensEligible,
    .storeTokensCompleted, .loadFallbacks, .storeFallbacks]

/-- The constructor of the statistics refuses a negative value. -/
structure GptOssCacheBlendStats where
  data : CounterKey → List ℤ
  nonnegative : ∀ key, ∀ value ∈ data key, 0 ≤ value

abbrev StatsCall (α : Type) : Type := Call GptOssCacheBlendStats String α

namespace GptOssCacheBlendStats

def empty : GptOssCacheBlendStats := ⟨fun _ => [], fun _ _ h => nomatch h⟩

def isEmpty (s : GptOssCacheBlendStats) : Bool := counterKeys.all fun key => s.data key = []

def push (key : CounterKey) (value : ℤ) (h : 0 ≤ value) (s : GptOssCacheBlendStats) :
    GptOssCacheBlendStats where
  data := Function.update s.data key (s.data key ++ [value])
  nonnegative k v hv := by
    by_cases he : k = key
    · subst he
      rw [Function.update_self] at hv
      obtain hv | hv := List.mem_append.mp hv
      · exact s.nonnegative k v hv
      · rwa [List.mem_singleton.mp hv]
    · rw [Function.update_of_ne he] at hv
      exact s.nonnegative k v hv

/-- `_append`. -/
def append (key : CounterKey) (value : ℤ) : StatsCall Unit := fun s =>
  if h : 0 ≤ value then (.ok (), push key value h s)
  else (.error "invalid CacheBlend connector observation", s)

def appendAll : List (CounterKey × ℤ) → StatsCall Unit
  | [] => pure ()
  | entry::rest => do
    append entry.1 entry.2
    appendAll rest

def recordLookup (o : CacheBlendLookupObservation) : StatsCall Unit :=
  appendAll [(.requests, 1),
    (.reusableSegmentsRequested, o.reusableSegmentsRequested),
    (.reusableSegmentsHit, o.reusableSegmentsHit),
    (.reusableDocumentTokensRequested, o.reusableDocumentTokensRequested),
    (.kvTokensFound, o.kvTokensFound), (.kvTokensVerified, o.kvTokensVerified),
    (.kvTokensRejected, o.kvTokensRejected)]

def recordLoad (verifiedTokens loadedTokens rejectedTokens recomputedTokens : ℤ)
    (fallback : Bool) : StatsCall Unit := do
  let _ ← Call.lift (require (0 ≤ verifiedTokens ∧ 0 ≤ loadedTokens ∧ 0 ≤ rejectedTokens ∧
    0 ≤ recomputedTokens) "CacheBlend load counters require non-negative integers")
  let _ ← Call.lift (require (verifiedTokens = loadedTokens+rejectedTokens)
    "verified KV tokens must be loaded or rejected")
  appendAll [(.kvTokensLoaded, loadedTokens), (.kvTokensRejected, rejectedTokens),
    (.tokensRecomputed, recomputedTokens), (.prefillTokensAvoided, 0),
    (.loadFallbacks, if fallback = true then 1 else 0)]

def recordStore (eligibleTokens storedTokens : ℤ) (fallback : Bool) : StatsCall Unit := do
  let _ ← Call.lift (require (0 ≤ eligibleTokens ∧ 0 ≤ storedTokens)
    "CacheBlend store counters require non-negative integers")
  let _ ← Call.lift (require (storedTokens ≤ eligibleTokens)
    "stored KV tokens cannot exceed eligible tokens")
  appendAll [(.storeTokensEligible, eligibleTokens), (.storeTokensCompleted, storedTokens),
    (.storeFallbacks, if fallback = true then 1 else 0)]

/-- `clone_and_reset`. The constructor of the clone checks the values again. -/
def cloneAndReset : StatsCall GptOssCacheBlendStats := do
  let s ← Call.read
  let _ ← Call.lift (require (∀ key ∈ counterKeys, ∀ value ∈ s.data key, 0 ≤ value)
    "negative CacheBlend connector stats value")
  Call.modify fun _ => empty
  pure s

/-- `aggregate`: the observations of another interval follow the own ones. -/
def aggregate (s other : GptOssCacheBlendStats) : GptOssCacheBlendStats where
  data key := s.data key ++ other.data key
  nonnegative key value h :=
    (List.mem_append.mp h).elim (s.nonnegative key value) (other.nonnegative key value)

/-- The totals that `reduce` reports of the counters. -/
def reduce (s : GptOssCacheBlendStats) (key : CounterKey) : ℤ := (s.data key).sum

end GptOssCacheBlendStats

open GptOssCacheBlendStats

@[simp] theorem reduce_aggregate (s other : GptOssCacheBlendStats) (key : CounterKey) :
    reduce (aggregate s other) key = reduce s key+reduce other key :=
  List.sum_append

theorem reduce_push (key key' : CounterKey) (value : ℤ) (h : 0 ≤ value)
    (s : GptOssCacheBlendStats) :
    reduce (push key' value h s) key = reduce s key+if key' = key then value else 0 := by
  unfold reduce push
  dsimp only
  split_ifs with he
  · rw [he, Function.update_self, List.sum_append, List.sum_singleton]
  · rw [Function.update_of_ne (Ne.symm he), add_zero]

def entryTotal (key : CounterKey) (entries : List (CounterKey × ℤ)) : ℤ :=
  (entries.map fun entry => if entry.1 = key then entry.2 else 0).sum

theorem appendAll_reduce (entries : List (CounterKey × ℤ)) (key : CounterKey)
    {s s' : GptOssCacheBlendStats} (h : appendAll entries s = (.ok (), s')) :
    reduce s' key = reduce s key+entryTotal key entries := by
  induction entries generalizing s with
  | nil =>
    obtain ⟨_, rfl⟩ := (Call.pure_ok_iff _ _ _ _).mp h
    exact (add_zero _).symm
  | cons entry entries ih =>
    obtain ⟨_, s₁, h₁, h₂⟩ := (Call.bind_ok_iff _ _ _ _ _).mp h
    unfold append at h₁
    split_ifs at h₁ <;> cases h₁
    rw [ih h₂, reduce_push, add_assoc]
    rfl

theorem appendAll_other (entries : List (CounterKey × ℤ)) (key : CounterKey)
    (s : GptOssCacheBlendStats) (h : ∀ entry ∈ entries, entry.1 ≠ key) :
    reduce (appendAll entries s).2 key = reduce s key := by
  induction entries generalizing s with
  | nil => rfl
  | cons entry entries ih =>
    have hrest := fun s => ih s fun e he => h e (List.mem_cons_of_mem _ he)
    have hne := h entry List.mem_cons_self
    unfold appendAll
    rw [Call.bind_run]
    unfold append
    by_cases hpos : 0 ≤ entry.2
    · rw [dif_pos hpos]
      show reduce (appendAll entries (push entry.1 entry.2 hpos s)).2 key = _
      rw [hrest, reduce_push, if_neg hne, add_zero]
    · rw [dif_neg hpos]

theorem appendAll_returns (entries : List (CounterKey × ℤ)) (s : GptOssCacheBlendStats)
    (h : ∀ entry ∈ entries, 0 ≤ entry.2) : ∃ s', appendAll entries s = (.ok (), s') := by
  induction entries generalizing s with
  | nil => exact ⟨s, rfl⟩
  | cons entry entries ih =>
    have hpos := h entry List.mem_cons_self
    have ha : append entry.1 entry.2 s = (.ok (), push entry.1 entry.2 hpos s) := dif_pos hpos
    obtain ⟨s', hs⟩ := ih (push entry.1 entry.2 hpos s)
      fun e he => h e (List.mem_cons_of_mem _ he)
    exact ⟨s', (Call.bind_ok_iff _ _ _ _ _).mpr ⟨(), _, ha, hs⟩⟩

theorem recordLoad_returns (s : GptOssCacheBlendStats) (loaded rejected recomputed : ℤ)
    (fallback : Bool) (hl : 0 ≤ loaded) (hr : 0 ≤ rejected) (hc : 0 ≤ recomputed) :
    ∃ s', recordLoad (loaded+rejected) loaded rejected recomputed fallback s = (.ok (), s') := by
  obtain ⟨s', hs⟩ := appendAll_returns [(.kvTokensLoaded, loaded), (.kvTokensRejected, rejected),
    (.tokensRecomputed, recomputed), (.prefillTokensAvoided, 0),
    (.loadFallbacks, if fallback = true then 1 else 0)] s (by
      simp only [List.forall_mem_cons, hl, hr, hc]
      cases fallback <;> simp)
  refine ⟨s', (Call.lift_bind_iff _ _ _ _ _).mpr ⟨⟨⟩, require_of _ ⟨by omega, hl, hr, hc⟩,
    (Call.lift_bind_iff _ _ _ _ _).mpr ⟨⟨⟩, require_of _ rfl, hs⟩⟩⟩

end CacheBlend.ConnectorMetrics
