import CacheBlend.ScatterSpans

/-!
# Row plans of a selective forward pass

A layer selects the rows that it recomputes as ascending ranges of the
prompt. The other rows are the ones it may read from the cache. Both sets
come from one list of ranges, so they split the prompt.
-/

set_option autoImplicit false

namespace CacheBlend.SelectiveRows
open CacheBlend.PlannerModels CacheBlend.HybridLayout CacheBlend.ScatterSpans

inductive SelectivePlanErrorCode where
  | invalidPromptLength
  | invalidLayerCount
  | invalidLayerIndex
  | invalidRange
  | rangeOutOfBounds
  | overlappingRanges
  | nonCanonicalRanges
  deriving DecidableEq

/-- The conditions of `_normalize_ranges`. -/
structure Normalized (promptTokens : ℕ) (ranges : List TokenRange) : Prop where
  nonempty : ∀ r ∈ ranges, r.size ≠ 0
  bounded : ∀ r ∈ ranges, r.stop ≤ promptTokens
  sorted : sortedBy TokenRange.sortKey ranges = ranges
  apart : ranges.IsChain (fun r r' => ¬r.Overlaps r')

def validatePromptTokens (promptTokens : ℤ) : Except SelectivePlanErrorCode Unit :=
  require (0 ≤ promptTokens ∧ promptTokens ≤ gptOssMaxContextTokens) .invalidPromptLength

/-- The loop of `_normalize_ranges` over the ranges, in their order. -/
def checkRanges (promptTokens : ℕ) : List TokenRange → Except SelectivePlanErrorCode Unit
  | [] => .ok ()
  | r::rest => do
    require (r.size ≠ 0) .invalidRange
    require (r.stop ≤ promptTokens) .rangeOutOfBounds
    checkRanges promptTokens rest

def normalizeRanges (promptTokens : ℤ) (ranges : List TokenRange) :
    Except SelectivePlanErrorCode (List TokenRange) := do
  validatePromptTokens promptTokens
  checkRanges promptTokens.toNat ranges
  require (sortedBy TokenRange.sortKey ranges = ranges) .nonCanonicalRanges
  require (ranges.IsChain (fun r r' => ¬r.Overlaps r')) .overlappingRanges
  .ok ranges

/-- The loop of `_complement`; `cursor` is the end of the last range. -/
def complementFrom (promptTokens : ℕ) : ℕ → List TokenRange → List TokenRange
  | cursor, [] => if h : cursor < promptTokens then [⟨cursor, promptTokens, h.le⟩] else []
  | cursor, r::rest =>
    if h : cursor < r.start then ⟨cursor, r.start, h.le⟩ :: complementFrom promptTokens r.stop rest
    else complementFrom promptTokens r.stop rest

def complement (promptTokens : ℕ) (excluded : List TokenRange) : List TokenRange :=
  complementFrom promptTokens 0 excluded

def rangeTokenCount (ranges : List TokenRange) : ℕ := (ranges.map TokenRange.size).sum

structure LayerRowSelection where
  layerIndex : ℕ
  promptTokens : ℕ
  recomputeRanges : List TokenRange
  index_bounded : layerIndex < gptOssNumLayers
  prompt_bounded : promptTokens ≤ gptOssMaxContextTokens
  normalized : Normalized promptTokens recomputeRanges

namespace LayerRowSelection

def recomputeTokens (s : LayerRowSelection) : ℕ := rangeTokenCount s.recomputeRanges

def cachedRanges (s : LayerRowSelection) : List TokenRange :=
  complement s.promptTokens s.recomputeRanges

def cachedTokens (s : LayerRowSelection) : ℕ := rangeTokenCount s.cachedRanges

def CoversPrompt (s : LayerRowSelection) : Prop :=
  s.recomputeTokens+s.cachedTokens = s.promptTokens

def Recomputed (s : LayerRowSelection) (position : ℕ) : Prop :=
  ∃ r ∈ s.recomputeRanges, Holds r position

def Cached (s : LayerRowSelection) (position : ℕ) : Prop :=
  ∃ r ∈ s.cachedRanges, Holds r position

instance (s : LayerRowSelection) (position : ℕ) : Decidable (s.Recomputed position) :=
  inferInstanceAs (Decidable (∃ r ∈ s.recomputeRanges, _))

instance (s : LayerRowSelection) (position : ℕ) : Decidable (s.Cached position) :=
  inferInstanceAs (Decidable (∃ r ∈ s.cachedRanges, _))

end LayerRowSelection

theorem checkRanges_ok_iff (promptTokens : ℕ) (ranges : List TokenRange) :
    checkRanges promptTokens ranges = .ok () ↔
      ∀ r ∈ ranges, r.size ≠ 0 ∧ r.stop ≤ promptTokens := by
  induction ranges with
  | nil => simp [checkRanges]
  | cons r rest ih =>
    unfold checkRanges
    rw [require_then_iff, require_then_iff, ih, List.forall_mem_cons, and_assoc]

theorem normalizeRanges_ok_iff (promptTokens : ℕ) (ranges ranges' : List TokenRange) :
    normalizeRanges promptTokens ranges = .ok ranges' ↔
      promptTokens ≤ gptOssMaxContextTokens ∧ Normalized promptTokens ranges ∧
        ranges' = ranges := by
  unfold normalizeRanges validatePromptTokens
  rw [require_then_iff, Int.toNat_natCast, checked_ok_iff]
  constructor
  · rintro ⟨⟨_, hp⟩, u, hr, h⟩
    obtain ⟨hs, h⟩ := (require_then_iff _ _ _ _).mp h
    obtain ⟨ha, h⟩ := (require_then_iff _ _ _ _).mp h
    cases h
    have hr := (checkRanges_ok_iff _ _).mp hr
    exact ⟨by omega, ⟨fun r hm => (hr r hm).1, fun r hm => (hr r hm).2, hs, ha⟩, rfl⟩
  · rintro ⟨hp, hn, rfl⟩
    refine ⟨⟨by omega, by omega⟩, (), (checkRanges_ok_iff _ _).mpr
      fun r hm => ⟨hn.nonempty r hm, hn.bounded r hm⟩, ?_⟩
    exact (require_then_iff _ _ _ _).mpr ⟨hn.sorted, (require_then_iff _ _ _ _).mpr ⟨hn.apart, rfl⟩⟩

theorem ascending_of_sorted {ranges : List TokenRange} (hn : ∀ r ∈ ranges, r.size ≠ 0)
    (hs : ranges.Pairwise (fun r r' => r.sortKey ≤ r'.sortKey))
    (ha : ranges.IsChain (fun r r' => ¬r.Overlaps r')) : Ascending ranges := by
  induction ranges with
  | nil => exact .nil
  | cons r rest ih =>
    obtain ⟨hr, hs⟩ := List.pairwise_cons.mp hs
    have hrest := ih (fun x hx => hn x (List.mem_cons_of_mem _ hx)) hs ha.tail
    cases rest with
    | nil => exact List.pairwise_singleton _ _
    | cons r' rest =>
      have hnext : r.stop ≤ r'.start := by
        have hsize := hn r' (by simp)
        have hle := hr r' List.mem_cons_self
        have hapart := (List.isChain_cons_cons.mp ha).1
        unfold TokenRange.size at hsize
        unfold TokenRange.sortKey at hle
        unfold TokenRange.Overlaps at hapart
        rw [Prod.Lex.toLex_le_toLex] at hle
        omega
      refine List.pairwise_cons.mpr ⟨fun x hx => ?_, hrest⟩
      obtain rfl | hx := List.mem_cons.mp hx
      · exact hnext
      · have hx := (List.pairwise_cons.mp hrest).1 x hx
        have hordered := r'.ordered
        omega

theorem Normalized.ascending {promptTokens : ℕ} {ranges : List TokenRange}
    (h : Normalized promptTokens ranges) : Ascending ranges := by
  refine ascending_of_sorted h.nonempty ?_ h.apart
  have hs := sortedBy_pairwise TokenRange.sortKey ranges
  rwa [h.sorted] at hs

/-! ## The two sets of rows split the prompt -/

theorem mem_complementFrom {promptTokens : ℕ} (ranges : List TokenRange) (cursor : ℕ)
    (ha : Ascending ranges) (hb : ∀ r ∈ ranges, r.stop ≤ promptTokens)
    (hc : ∀ r ∈ ranges, cursor ≤ r.start) (position : ℕ) :
    (∃ r ∈ complementFrom promptTokens cursor ranges, Holds r position) ↔
      cursor ≤ position ∧ position < promptTokens ∧ ∀ r ∈ ranges, ¬Holds r position := by
  induction ranges generalizing cursor with
  | nil =>
    unfold complementFrom Holds
    split_ifs with h
    · simp
    · simp
      omega
  | cons r rest ih =>
    obtain ⟨hr, hrest⟩ := List.pairwise_cons.mp ha
    have hbound := hb r List.mem_cons_self
    have hstart := hc r List.mem_cons_self
    have hordered := r.ordered
    have hrec := ih r.stop hrest (fun x hx => hb x (List.mem_cons_of_mem _ hx)) hr
    have hlater : position < r.stop → ∀ x ∈ rest, ¬Holds x position := by
      intro hp x hx hh
      have hx := hr x hx
      unfold Holds at hh
      omega
    rw [List.forall_mem_cons]
    unfold complementFrom
    split_ifs with h
    · rw [List.exists_mem_cons_iff, hrec]
      unfold Holds at hlater ⊢
      dsimp only
      constructor
      · rintro (hp | ⟨hp, hlt, hn⟩)
        · exact ⟨hp.1, by omega, by omega, hlater (by omega)⟩
        · exact ⟨by omega, hlt, by omega, hn⟩
      · rintro ⟨hp, hlt, hn, hn'⟩
        by_cases hcase : position < r.start
        · exact Or.inl ⟨hp, hcase⟩
        · exact Or.inr ⟨by omega, hlt, hn'⟩
    · rw [hrec]
      unfold Holds at hlater ⊢
      constructor
      · rintro ⟨hp, hlt, hn⟩
        exact ⟨by omega, hlt, by omega, hn⟩
      · rintro ⟨hp, hlt, hn, hn'⟩
        exact ⟨by omega, hlt, hn'⟩

theorem complementFrom_count {promptTokens : ℕ} (ranges : List TokenRange) (cursor : ℕ)
    (ha : Ascending ranges) (hb : ∀ r ∈ ranges, r.stop ≤ promptTokens)
    (hc : ∀ r ∈ ranges, cursor ≤ r.start) (hp : cursor ≤ promptTokens) :
    rangeTokenCount ranges+rangeTokenCount (complementFrom promptTokens cursor ranges) =
      promptTokens-cursor := by
  induction ranges generalizing cursor with
  | nil =>
    unfold complementFrom
    split_ifs with h
    · simp [rangeTokenCount, TokenRange.size]
    · simp [rangeTokenCount]
      omega
  | cons r rest ih =>
    obtain ⟨hr, hrest⟩ := List.pairwise_cons.mp ha
    have hbound := hb r List.mem_cons_self
    have hstart := hc r List.mem_cons_self
    have hordered := r.ordered
    have hrec := ih r.stop hrest (fun x hx => hb x (List.mem_cons_of_mem _ hx)) hr hbound
    have hcount : ∀ (x : TokenRange) xs, rangeTokenCount (x::xs) = x.size+rangeTokenCount xs :=
      fun _ _ => rfl
    unfold complementFrom
    split_ifs with h
    · rw [hcount, hcount]
      unfold TokenRange.size
      dsimp only
      omega
    · rw [hcount]
      unfold TokenRange.size
      omega

namespace LayerRowSelection

theorem cached_iff (s : LayerRowSelection) (position : ℕ) :
    s.Cached position ↔ position < s.promptTokens ∧ ¬s.Recomputed position := by
  have h := mem_complementFrom s.recomputeRanges 0 s.normalized.ascending s.normalized.bounded
    (fun _ _ => Nat.zero_le _) position
  unfold Cached cachedRanges complement
  rw [h]
  unfold Recomputed
  push Not
  simp

theorem coversPrompt (s : LayerRowSelection) : s.CoversPrompt := by
  have h := complementFrom_count s.recomputeRanges 0 s.normalized.ascending s.normalized.bounded
    (fun _ _ => Nat.zero_le _) (Nat.zero_le s.promptTokens)
  rwa [Nat.sub_zero] at h

end LayerRowSelection

def LayerRowSelection.new (layerIndex promptTokens : ℕ) (ranges : List TokenRange) :
    Except SelectivePlanErrorCode LayerRowSelection :=
  if hi : layerIndex < gptOssNumLayers then
    match h : normalizeRanges promptTokens ranges with
    | .error e => .error e
    | .ok ranges' => .ok ⟨layerIndex, promptTokens, ranges', hi,
        ((normalizeRanges_ok_iff _ _ _).mp h).1,
        ((normalizeRanges_ok_iff _ _ _).mp h).2.2 ▸ ((normalizeRanges_ok_iff _ _ _).mp h).2.1⟩
  else .error .invalidLayerIndex

/-! ## Plans of one forward pass -/

instance (s : LayerRowSelection) : Decidable s.CoversPrompt :=
  inferInstanceAs (Decidable (_ = _))

def checkLayers (promptTokens : ℕ) : ℕ → List LayerRowSelection →
    Except SelectivePlanErrorCode Unit
  | _, [] => .ok ()
  | expectedIndex, layer::rest => do
    require (layer.layerIndex = expectedIndex) .invalidLayerIndex
    require (layer.promptTokens = promptTokens ∧ layer.CoversPrompt) .invalidPromptLength
    checkLayers promptTokens (expectedIndex+1) rest

/-- `ForwardRowPlan.__post_init__`. -/
def checkForwardRowPlan (promptTokens : ℕ) (layers : List LayerRowSelection) :
    Except SelectivePlanErrorCode Unit := do
  validatePromptTokens promptTokens
  require (layers.length = gptOssNumLayers) .invalidLayerCount
  checkLayers promptTokens 0 layers

structure ForwardRowPlan where
  promptTokens : ℕ
  layers : List LayerRowSelection
  valid : checkForwardRowPlan promptTokens layers = .ok ()

def ForwardRowPlan.recomputeTokens (p : ForwardRowPlan) : ℕ :=
  (p.layers.map LayerRowSelection.recomputeTokens).sum

def ForwardRowPlan.cachedTokens (p : ForwardRowPlan) : ℕ :=
  (p.layers.map LayerRowSelection.cachedTokens).sum

def ForwardRowPlan.new (promptTokens : ℕ) (layers : List LayerRowSelection) :
    Except SelectivePlanErrorCode ForwardRowPlan :=
  match h : checkForwardRowPlan promptTokens layers with
  | .error e => .error e
  | .ok () => .ok ⟨promptTokens, layers, h⟩

/-- `ForwardRowPlan.from_recompute_ranges`. -/
def ForwardRowPlan.fromRecomputeRanges (promptTokens : ℕ) (rangesByLayer : List (List TokenRange)) :
    Except SelectivePlanErrorCode ForwardRowPlan := do
  validatePromptTokens promptTokens
  require (rangesByLayer.length = gptOssNumLayers) .invalidLayerCount
  let layers ← rangesByLayer.zipIdx.mapM
    (fun entry => LayerRowSelection.new entry.2 promptTokens entry.1)
  ForwardRowPlan.new promptTokens layers

theorem checkLayers_ok_iff (promptTokens k : ℕ) (layers : List LayerRowSelection) :
    checkLayers promptTokens k layers = .ok () ↔
      layers.map LayerRowSelection.layerIndex = List.range' k layers.length ∧
        ∀ layer ∈ layers, layer.promptTokens = promptTokens := by
  induction layers generalizing k with
  | nil => simp [checkLayers]
  | cons layer rest ih =>
    unfold checkLayers
    rw [require_then_iff, require_then_iff, ih, List.map_cons, List.length_cons,
      List.range'_succ, List.cons.injEq, List.forall_mem_cons]
    have hcovers := layer.coversPrompt
    tauto

namespace ForwardRowPlan

theorem indexes (p : ForwardRowPlan) :
    p.layers.map LayerRowSelection.layerIndex = List.range gptOssNumLayers := by
  have h := p.valid
  unfold checkForwardRowPlan at h
  obtain ⟨_, _, h⟩ := (checked_ok_iff _ _ _).mp h
  obtain ⟨hl, h⟩ := (require_then_iff _ _ _ _).mp h
  rw [((checkLayers_ok_iff _ _ _).mp h).1, hl, List.range_eq_range']

theorem prompts (p : ForwardRowPlan) : ∀ layer ∈ p.layers, layer.promptTokens = p.promptTokens := by
  have h := p.valid
  unfold checkForwardRowPlan at h
  obtain ⟨_, _, h⟩ := (checked_ok_iff _ _ _).mp h
  obtain ⟨_, h⟩ := (require_then_iff _ _ _ _).mp h
  exact ((checkLayers_ok_iff _ _ _).mp h).2

theorem indexes_nodup (p : ForwardRowPlan) :
    (p.layers.map LayerRowSelection.layerIndex).Nodup := by
  rw [p.indexes]
  exact List.nodup_range

theorem length_eq (p : ForwardRowPlan) : p.layers.length = gptOssNumLayers := by
  rw [← List.length_map LayerRowSelection.layerIndex, p.indexes, List.length_range]

/-- `ForwardRowPlan.layer`, with an index that was checked. -/
def layer (p : ForwardRowPlan) (layerIndex : Fin gptOssNumLayers) : LayerRowSelection :=
  p.layers.get (layerIndex.cast p.length_eq.symm)

theorem layer_mem (p : ForwardRowPlan) (layerIndex : Fin gptOssNumLayers) :
    p.layer layerIndex ∈ p.layers := List.get_mem _ _

theorem layer_index (p : ForwardRowPlan) (layerIndex : Fin gptOssNumLayers) :
    (p.layer layerIndex).layerIndex = layerIndex := by
  have h := congrArg (fun xs : List ℕ => xs[layerIndex.val]?) p.indexes
  have hl : layerIndex.val < p.layers.length := by
    rw [p.length_eq]
    exact layerIndex.isLt
  rw [List.getElem?_map, List.getElem?_eq_getElem hl,
    List.getElem?_range layerIndex.isLt] at h
  exact Option.some.inj h

theorem map_layer (p : ForwardRowPlan) :
    (List.finRange gptOssNumLayers).map p.layer = p.layers := by
  apply List.ext_getElem
  · rw [List.length_map, List.length_finRange, p.length_eq]
  · intro i h h'
    rw [List.getElem_map, List.getElem_finRange]
    rfl

end ForwardRowPlan

end CacheBlend.SelectiveRows
