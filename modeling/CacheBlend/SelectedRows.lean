import CacheBlend.SelectionPolicy
import Mathlib.Data.Finset.Card
import Mathlib.Data.Finset.Range

/-!
# The rows of a selection

A selection succeeds for all valid inputs. It recomputes the rows that are not
cached, the suffix and the selected rows, in maximal ranges and alike in every
layer. The selected rows are the best of the cached rows outside the suffix, so
a larger ratio selects more of them and recomputes no row less.
-/

set_option autoImplicit false

namespace CacheBlend.SelectedRows
open CacheBlend.PlannerModels CacheBlend.HybridLayout CacheBlend.ScatterSpans
open CacheBlend.SelectiveRows CacheBlend.SelectiveCoverage CacheBlend.Ranking
open CacheBlend.SelectionPolicy

/-! ## Checked inputs -/

theorem checkedFloat_ok_iff (p : ℚ → Prop) [DecidablePred p] (code : SelectionPolicyErrorCode)
    (value : PyNumber) (q : ℚ) :
    checkedFloat p code value = .ok q ↔ floatOf value = .finite q ∧ p q := by
  unfold checkedFloat
  cases floatOf value with
  | finite q' =>
    dsimp only
    split_ifs with h
    · rw [Except.ok.injEq, FloatReading.finite.injEq]
      constructor
      · rintro rfl
        exact ⟨rfl, h⟩
      · exact And.left
    · constructor
      · intro hf
        cases hf
      · rintro ⟨hf, hp⟩
        exact absurd (FloatReading.finite.inj hf ▸ hp) h
  | nonFinite => simp
  | overflow => simp

theorem validateCacheRanges_ok_iff (prompt : ℕ) (ranges ranges' : List TokenRange) :
    validateCacheRanges prompt ranges = .ok ranges' ↔
      Normalized prompt ranges ∧ ranges' = ranges := by
  unfold validateCacheRanges
  rw [require_then_iff, require_then_iff, require_then_iff, require_then_iff, Except.ok.injEq]
  constructor
  · rintro ⟨hn, hb, hs, ha, rfl⟩
    exact ⟨⟨hn, hb, hs, ha⟩, rfl⟩
  · rintro ⟨h, rfl⟩
    exact ⟨h.nonempty, h.bounded, h.sorted, h.apart, rfl⟩

theorem normalized_of_separated {prompt : ℕ} {ranges : List TokenRange} (hs : Separated ranges)
    (hn : ∀ r ∈ ranges, r.size ≠ 0) (hb : ∀ r ∈ ranges, r.stop ≤ prompt) :
    Normalized prompt ranges := by
  refine ⟨hn, hb, ?_, ?_⟩
  · apply sortedBy_eq_self
    refine hs.imp fun {r r'} h => ?_
    have ho := r.ordered
    unfold TokenRange.sortKey
    rw [Prod.Lex.toLex_le_toLex]
    left
    omega
  · apply List.Pairwise.isChain
    refine hs.imp fun {r r'} h => ?_
    unfold TokenRange.Overlaps
    omega

section
variable {prompt : ℕ} {ranges : List TokenRange}

theorem layerRowSelection_ok {layerIndex : ℕ} (hi : layerIndex < gptOssNumLayers)
    (hp : prompt ≤ gptOssMaxContextTokens) (hn : Normalized prompt ranges) :
    ∃ layer, LayerRowSelection.new layerIndex prompt ranges = .ok layer := by
  have hok := (normalizeRanges_ok_iff prompt ranges ranges).mpr ⟨hp, hn, rfl⟩
  unfold LayerRowSelection.new
  rw [dif_pos hi]
  split
  · rename_i e he
    rw [hok] at he
    cases he
  · exact ⟨_, rfl⟩

theorem layerRowSelection_fields {layerIndex : ℕ} {layer : LayerRowSelection}
    (h : LayerRowSelection.new layerIndex prompt ranges = .ok layer) :
    layer.layerIndex = layerIndex ∧ layer.promptTokens = prompt ∧
      layer.recomputeRanges = ranges := by
  unfold LayerRowSelection.new at h
  split_ifs at h with hi
  split at h
  · cases h
  · rename_i ranges' hr
    cases h
    exact ⟨rfl, rfl, ((normalizeRanges_ok_iff _ _ _).mp hr).2.2⟩

theorem rowPlan_ok (hp : prompt ≤ gptOssMaxContextTokens) (hn : Normalized prompt ranges) :
    ∃ plan, ForwardRowPlan.fromRecomputeRanges prompt
        (List.replicate gptOssNumLayers ranges) = .ok plan ∧ plan.promptTokens = prompt ∧
      ∀ layer ∈ plan.layers, layer.recomputeRanges = ranges := by
  have hentry : ∀ entry ∈ (List.replicate gptOssNumLayers ranges).zipIdx,
      entry.2 < gptOssNumLayers ∧ entry.1 = ranges := by
    intro entry h
    obtain ⟨hi, hr⟩ := List.mem_zipIdx' h
    rw [List.length_replicate] at hi
    rw [List.getElem_replicate] at hr
    exact ⟨hi, hr⟩
  obtain ⟨layers, hlayers⟩ := mapM_returns_of
    (fun entry => LayerRowSelection.new entry.2 prompt entry.1)
    (List.replicate gptOssNumLayers ranges).zipIdx (fun entry h => by
      obtain ⟨hi, hr⟩ := hentry entry h
      rw [hr]
      exact layerRowSelection_ok hi hp hn)
  have heach := (mapM_returns_iff _ _ _).mp hlayers
  have hlayer : ∀ layer ∈ layers, layer.promptTokens = prompt ∧ layer.recomputeRanges = ranges := by
    intro layer hl
    obtain ⟨entry, he, hnew⟩ := forall₂_right heach hl
    obtain ⟨_, hprompt, hr⟩ := layerRowSelection_fields hnew
    exact ⟨hprompt, hr.trans (hentry entry he).2⟩
  have hindexes : layers.map LayerRowSelection.layerIndex = List.range' 0 layers.length := by
    have hfields := forall₂_map_eq (fun l : LayerRowSelection => (l.recomputeRanges, l.layerIndex))
      heach (fun entry layer hnew => by
        obtain ⟨hi, _, hr⟩ := layerRowSelection_fields hnew
        exact Prod.ext hr hi)
    have hsecond := congrArg (List.map Prod.snd) hfields
    rw [List.map_map, List.zipIdx_map_snd] at hsecond
    rw [heach.length_eq.symm, List.length_zipIdx]
    exact hsecond
  have hvalid : checkForwardRowPlan prompt layers = .ok () := by
    have hlength : layers.length = gptOssNumLayers := by
      rw [heach.length_eq.symm, List.length_zipIdx, List.length_replicate]
    unfold checkForwardRowPlan SelectiveRows.validatePromptTokens
    apply (require_then_iff _ _ _ _).mpr
    refine ⟨⟨by omega, by exact_mod_cast hp⟩, ?_⟩
    apply (require_then_iff _ _ _ _).mpr
    exact ⟨hlength, (checkLayers_ok_iff _ _ _).mpr ⟨hindexes, fun l hl => (hlayer l hl).1⟩⟩
  refine ⟨⟨prompt, layers, hvalid⟩, ?_, rfl, fun l hl => (hlayer l hl).2⟩
  unfold ForwardRowPlan.fromRecomputeRanges
  apply (require_then_iff _ _ _ _).mpr
  refine ⟨⟨by omega, by exact_mod_cast hp⟩, (require_then_iff _ _ _ _).mpr
    ⟨List.length_replicate, (checked_ok_iff _ _ _).mpr ⟨layers, hlayers, ?_⟩⟩⟩
  unfold ForwardRowPlan.new
  split
  · rename_i e he
    rw [hvalid] at he
    cases he
  · rfl

end

/-! ## Recomputed rows -/

section
variable {prompt suffix : ℕ} {cached : List TokenRange}

theorem mem_forcedSuffix (hs : suffix ≤ prompt) (position : ℕ) :
    (∃ r ∈ forcedSuffix prompt suffix, Holds r position) ↔
      prompt-suffix ≤ position ∧ position < prompt := by
  unfold forcedSuffix
  split_ifs with h
  · simp only [List.not_mem_nil, false_and, exists_false, false_iff]
    omega
  · simp [Holds]

theorem mem_eligible (hs : suffix ≤ prompt) (hc : Normalized prompt cached) (position : ℕ) :
    position ∈ eligible prompt cached suffix ↔
      (∃ r ∈ cached, Holds r position) ∧ position < prompt-suffix := by
  unfold eligible
  rw [List.mem_filter, mem_positions, decide_eq_true_eq, mem_forcedSuffix hs]
  refine and_congr_right fun ⟨r, hr, hh⟩ => ?_
  have hlt := lt_of_lt_of_le hh.2 (hc.bounded r hr)
  omega

theorem eligible_nodup (hc : Normalized prompt cached) : (eligible prompt cached suffix).Nodup :=
  (positions_nodup hc.ascending).filter _

theorem complement_nonempty (prompt : ℕ) (cached : List TokenRange) :
    ∀ r ∈ complement prompt cached, r.size ≠ 0 := by
  have hall : ∀ (cursor : ℕ) (ranges : List TokenRange),
      ∀ r ∈ complementFrom prompt cursor ranges, r.size ≠ 0 := by
    intro cursor ranges
    induction ranges generalizing cursor with
    | nil =>
      intro r hr
      unfold complementFrom at hr
      split_ifs at hr with h
      · obtain rfl := List.mem_singleton.mp hr
        unfold TokenRange.size
        dsimp only
        omega
      · cases hr
    | cons r' rest ih =>
      intro r hr
      unfold complementFrom at hr
      split_ifs at hr with h
      · obtain rfl | hr := List.mem_cons.mp hr
        · unfold TokenRange.size
          dsimp only
          omega
        · exact ih _ r hr
      · exact ih _ r hr
  exact hall 0 cached

theorem recomputeOf_spec (hs : suffix ≤ prompt) (hc : Normalized prompt cached)
    {selected : List ℕ} (hsel : ∀ p ∈ selected, p < prompt) :
    Separated (recomputeOf prompt cached suffix selected) ∧
      Normalized prompt (recomputeOf prompt cached suffix selected) ∧
      ∀ position, (∃ r ∈ recomputeOf prompt cached suffix selected, Holds r position) ↔
        position < prompt ∧ ((¬∃ r ∈ cached, Holds r position) ∨ prompt-suffix ≤ position ∨
          position ∈ selected) := by
  have hnonempty : ∀ r ∈ complement prompt cached ++ forcedSuffix prompt suffix ++
      selected.map rowRange, r.size ≠ 0 := by
    intro r hr
    obtain hr | hr := List.mem_append.mp hr
    · obtain hr | hr := List.mem_append.mp hr
      · exact complement_nonempty prompt cached r hr
      · unfold forcedSuffix at hr
        split_ifs at hr with h
        · cases hr
        · obtain rfl := List.mem_singleton.mp hr
          unfold TokenRange.size
          dsimp only
          omega
    · obtain ⟨p, _, rfl⟩ := List.mem_map.mp hr
      unfold TokenRange.size rowRange
      dsimp only
      omega
  obtain ⟨hsep, hne, hholds⟩ := mergeRanges_spec hnonempty
  have hrows : ∀ position, (∃ r ∈ recomputeOf prompt cached suffix selected, Holds r position) ↔
      position < prompt ∧ ((¬∃ r ∈ cached, Holds r position) ∨ prompt-suffix ≤ position ∨
        position ∈ selected) := by
    intro position
    have hcomplement := mem_complementFrom cached 0 hc.ascending hc.bounded
      (fun _ _ => Nat.zero_le _) position
    have hsingle : (∃ r ∈ selected.map rowRange, Holds r position) ↔ position ∈ selected := by
      constructor
      · rintro ⟨r, hr, hh⟩
        obtain ⟨p, hp, rfl⟩ := List.mem_map.mp hr
        obtain rfl : position = p := Nat.le_antisymm (Nat.lt_succ_iff.mp hh.2) hh.1
        exact hp
      · exact fun hp => ⟨_, List.mem_map_of_mem hp, le_refl _, Nat.lt_succ_self _⟩
    have hlt := hsel position
    have hno : (¬∃ r ∈ cached, Holds r position) ↔ ∀ r ∈ cached, ¬Holds r position := by
      push Not
      rfl
    unfold recomputeOf
    rw [hholds, hno]
    simp only [List.mem_append, or_and_right, exists_or]
    rw [hsingle, mem_forcedSuffix hs]
    unfold complement
    rw [hcomplement]
    constructor
    · rintro ((⟨_, hp, hn⟩ | ⟨hp, hp'⟩) | hp)
      · exact ⟨hp, .inl hn⟩
      · exact ⟨hp', .inr (.inl hp)⟩
      · exact ⟨hlt hp, .inr (.inr hp)⟩
    · rintro ⟨hp, hn | hp' | hp'⟩
      · exact .inl (.inl ⟨Nat.zero_le _, hp, hn⟩)
      · exact .inl (.inr ⟨hp', hp⟩)
      · exact .inr hp'
  refine ⟨hsep, normalized_of_separated hsep hne fun r hr => ?_, hrows⟩
  -- the last row of a range is a row of the prompt
  have hsize := hne r hr
  unfold TokenRange.size at hsize
  have hlast := ((hrows (r.stop-1)).mp ⟨r, hr, by unfold Holds; omega⟩).1
  omega

end

/-! ## The result of a selection -/

structure Selection (product : RatioProduct) (prompt : ℕ) (cached : List TokenRange)
    (scores : List ℚ) (checkLayer : ℕ) (ratio : ℚ) (suffix : ℕ) (r : SelectionPolicyResult) :
    Prop where
  sameLayer : r.checkLayer = checkLayer
  sameRatio : r.recomputeRatio = ratio
  sameSuffix : r.suffixTokens = suffix
  candidates : r.candidateCachedRanges = cached
  selected : r.selectedCachedRows = selectedRows product prompt cached scores ratio suffix
  recompute : r.recomputeRanges = recomputeOf prompt cached suffix r.selectedCachedRows
  plan : ForwardRowPlan.fromRecomputeRanges prompt
    (List.replicate gptOssNumLayers r.recomputeRanges) = .ok r.rowPlan

def Reads (scores : List PyNumber) (values : List ℚ) : Prop :=
  List.Forall₂ (fun s v => floatOf s = .finite v ∧ 0 ≤ v) scores values

theorem reads_unique {scores : List PyNumber} {values values' : List ℚ} (h : Reads scores values)
    (h' : Reads scores values') : values = values' := by
  induction h generalizing values' with
  | nil => exact (List.forall₂_nil_left_iff.mp h').symm
  | cons hv _ ih =>
    cases h' with
    | cons hv' hrest => rw [FloatReading.finite.inj (hv.1.symm.trans hv'.1), ih hrest]

structure Selectable (promptTokens : ℤ) (cacheRanges : List TokenRange)
    (importanceScores : List PyNumber) (checkLayer : ℤ) (recomputeRatio : PyNumber)
    (suffixTokens : ℤ) : Prop where
  prompt : 0 ≤ promptTokens ∧ promptTokens ≤ gptOssMaxContextTokens
  layer : 0 ≤ checkLayer ∧ checkLayer < gptOssNumLayers
  ratio : ∃ q, floatOf recomputeRatio = .finite q ∧ 0 ≤ q ∧ q ≤ 1
  suffix : 0 ≤ suffixTokens ∧ suffixTokens ≤ promptTokens
  count : importanceScores.length = promptTokens
  scores : ∃ values, Reads importanceScores values
  ranges : Normalized promptTokens.toNat cacheRanges

section
variable {promptTokens checkLayer suffixTokens : ℤ} {cacheRanges : List TokenRange}
  {importanceScores : List PyNumber} {recomputeRatio : PyNumber}

theorem readScores_iff (values : List ℚ) :
    importanceScores.mapM (checkedFloat (fun q => 0 ≤ q) .invalidImportanceScores) = .ok values ↔
      Reads importanceScores values := by
  rw [mapM_returns_iff]
  unfold Reads
  simp only [checkedFloat_ok_iff]

theorem selected_lt (product : RatioProduct) {prompt suffix : ℕ} {cached : List TokenRange}
    (scores : List ℚ) (ratio : ℚ) (hs : suffix ≤ prompt) (hc : Normalized prompt cached) :
    ∀ p ∈ selectedRows product prompt cached scores ratio suffix, p < prompt := by
  intro p hp
  have he := foremost_subset _ _ _ ((mem_sortedBy id _ p).mp hp)
  have hlt := ((mem_eligible hs hc p).mp he).2
  omega

theorem select_ok {product : RatioProduct} {r : SelectionPolicyResult}
    (h : select product promptTokens cacheRanges importanceScores checkLayer recomputeRatio
      suffixTokens = .ok r) :
    Selectable promptTokens cacheRanges importanceScores checkLayer recomputeRatio suffixTokens ∧
      ∃ q values, floatOf recomputeRatio = .finite q ∧ Reads importanceScores values ∧
        Selection product promptTokens.toNat cacheRanges values checkLayer.toNat q
          suffixTokens.toNat r := by
  unfold select SelectionPolicy.validatePromptTokens at h
  simp only [checked_ok_iff, require_ok_iff, checkedFloat_ok_iff, readScores_iff,
    validateCacheRanges_ok_iff, mapError_ok_iff, Except.ok.injEq] at h
  obtain ⟨prompt, ⟨_, hprompt, rfl⟩, _, hlayer, q, ⟨hq, hpos, hle⟩, _, hsuffix, _, hcount, values,
    hvalues, cached, ⟨hranges, rfl⟩, plan, hplan, rfl⟩ := h
  constructor
  · constructor
    · exact hprompt
    · exact hlayer
    · exact ⟨q, hq, hpos, hle⟩
    · omega
    · omega
    · exact ⟨values, hvalues⟩
    · exact hranges
  · exact ⟨q, values, hq, hvalues, rfl, rfl, rfl, rfl, rfl, rfl, hplan⟩

theorem select_total (product : RatioProduct) (h : Selectable promptTokens cacheRanges
    importanceScores checkLayer recomputeRatio suffixTokens) :
    ∃ r, select product promptTokens cacheRanges importanceScores checkLayer recomputeRatio
      suffixTokens = .ok r := by
  obtain ⟨hprompt, hlayer, ⟨q, hq, hpos, hle⟩, hsuffix, hcount, ⟨values, hvalues⟩, hranges⟩ := h
  have hs : suffixTokens.toNat ≤ promptTokens.toNat := by omega
  have hspec := recomputeOf_spec hs hranges (selected_lt product values q hs hranges)
  obtain ⟨plan, hplan, _⟩ := rowPlan_ok (by omega) hspec.2.1
  unfold select SelectionPolicy.validatePromptTokens
  simp only [checked_ok_iff, require_ok_iff, checkedFloat_ok_iff, readScores_iff,
    validateCacheRanges_ok_iff, mapError_ok_iff, Except.ok.injEq]
  exact ⟨_, _, ⟨⟨⟩, hprompt, rfl⟩, ⟨⟩, hlayer, q, ⟨hq, hpos, hle⟩, ⟨⟩, by omega, ⟨⟩, by omega,
    values, hvalues, _, ⟨hranges, rfl⟩, plan, hplan, rfl⟩

end

def candidateRows (prompt : ℕ) (cached : List TokenRange) (suffix : ℕ) : Finset ℕ :=
  (Finset.range (prompt-suffix)).filter (fun position => ∃ r ∈ cached, Holds r position)

/-- The recomputed rows of every layer, and the choice of the selected rows. -/
structure RowsOf (prompt : ℕ) (cached : List TokenRange) (scores : List ℚ) (rows : ℕ)
    (suffix : ℕ) (r : SelectionPolicyResult) : Prop where
  recomputed : ∀ layer ∈ r.rowPlan.layers, ∀ position, layer.Recomputed position ↔
    position < prompt ∧ ((¬∃ c ∈ cached, Holds c position) ∨ prompt-suffix ≤ position ∨
      position ∈ r.selectedCachedRows)
  maximal : Separated r.recomputeRanges ∧ ∀ c ∈ r.recomputeRanges, c.size ≠ 0
  everyLayer : ∀ layer ∈ r.rowPlan.layers, layer.recomputeRanges = r.recomputeRanges
  sorted : r.selectedCachedRows.Pairwise (· < ·)
  candidate : ∀ position ∈ r.selectedCachedRows, position ∈ candidateRows prompt cached suffix
  count : r.selectedCachedRows.length = rows
  best : ∀ a ∈ r.selectedCachedRows, ∀ b ∈ candidateRows prompt cached suffix,
    b ∉ r.selectedCachedRows → scores.getD b 0 < scores.getD a 0 ∨
      scores.getD b 0 = scores.getD a 0 ∧ a < b

section
variable {product : RatioProduct} {prompt suffix checkLayer : ℕ} {cached : List TokenRange}
  {scores : List ℚ} {ratio : ℚ} {r : SelectionPolicyResult}

theorem mem_candidateRows (hs : suffix ≤ prompt) (hc : Normalized prompt cached) (position : ℕ) :
    position ∈ candidateRows prompt cached suffix ↔ position ∈ eligible prompt cached suffix := by
  rw [mem_eligible hs hc, candidateRows, Finset.mem_filter, Finset.mem_range]
  exact and_comm

theorem eligible_length (hs : suffix ≤ prompt) (hc : Normalized prompt cached) :
    (eligible prompt cached suffix).length = (candidateRows prompt cached suffix).card := by
  rw [← List.toFinset_card_of_nodup (eligible_nodup hc)]
  congr 1
  ext position
  rw [List.mem_toFinset, mem_candidateRows hs hc]

theorem budget_le {count : ℕ} (hcount : count ≤ gptOssMaxContextTokens) (hr : 0 ≤ ratio)
    (hle : ratio ≤ 1) : budget product count ratio ≤ count := by
  unfold budget
  apply Nat.floor_le_of_le
  refine product.le_count count ratio (hcount.trans_lt ?_) hr hle
  unfold gptOssMaxContextTokens
  norm_num

theorem eligible_le (hp : prompt ≤ gptOssMaxContextTokens) (hs : suffix ≤ prompt)
    (hc : Normalized prompt cached) :
    (eligible prompt cached suffix).length ≤ gptOssMaxContextTokens := by
  rw [eligible_length hs hc, candidateRows]
  refine (Finset.card_filter_le _ _).trans ?_
  rw [Finset.card_range]
  omega

theorem rank_injective (scores : List ℚ) {a b : ℕ} (h : rank scores a = rank scores b) : a = b :=
  (Prod.mk.inj (toLex_inj.mp h)).2

theorem rank_lt_iff (scores : List ℚ) (a b : ℕ) : rank scores a < rank scores b ↔
    scores.getD b 0 < scores.getD a 0 ∨ scores.getD b 0 = scores.getD a 0 ∧ a < b := by
  unfold rank
  rw [Prod.Lex.toLex_lt_toLex, neg_lt_neg_iff, neg_inj]
  exact or_congr_right (and_congr_left fun _ => eq_comm)

theorem mem_selectedRows (position : ℕ) :
    position ∈ selectedRows product prompt cached scores ratio suffix ↔
      position ∈ foremost (rank scores)
        (budget product (eligible prompt cached suffix).length ratio)
        (eligible prompt cached suffix) :=
  mem_sortedBy id _ position

theorem selection_rows (hp : prompt ≤ gptOssMaxContextTokens) (hs : suffix ≤ prompt)
    (hc : Normalized prompt cached) (hr : 0 ≤ ratio) (hle : ratio ≤ 1)
    (h : Selection product prompt cached scores checkLayer ratio suffix r) :
    RowsOf prompt cached scores (budget product (candidateRows prompt cached suffix).card ratio)
      suffix r := by
  have hlt := selected_lt product scores ratio hs hc
  rw [← h.selected] at hlt
  obtain ⟨hsep, hnorm, hrows⟩ := recomputeOf_spec hs hc hlt
  rw [← h.recompute] at hsep hnorm hrows
  obtain ⟨plan, hplan, _, hlayers⟩ := rowPlan_ok hp hnorm
  obtain rfl : plan = r.rowPlan := Except.ok.inj (hplan.symm.trans h.plan)
  have hmem : ∀ position, position ∈ r.selectedCachedRows ↔
      position ∈ foremost (rank scores)
        (budget product (eligible prompt cached suffix).length ratio)
        (eligible prompt cached suffix) := by
    rw [h.selected]
    exact mem_selectedRows
  constructor
  · intro layer hl position
    unfold LayerRowSelection.Recomputed
    rw [hlayers layer hl]
    exact hrows position
  · exact ⟨hsep, hnorm.nonempty⟩
  · exact hlayers
  · rw [h.selected]
    have hsorted := sortedBy_pairwise id (foremost (rank scores)
      (budget product (eligible prompt cached suffix).length ratio) (eligible prompt cached suffix))
    have heligible : (eligible prompt cached suffix).Nodup := eligible_nodup hc
    have hnodup := ((sortedBy_perm id _).nodup_iff).mpr (foremost_nodup (rank scores)
      (budget product (eligible prompt cached suffix).length ratio) heligible)
    exact hsorted.imp₂ (fun a b hab hne => lt_of_le_of_ne hab hne) hnodup
  · intro position hposition
    exact (mem_candidateRows hs hc position).mpr
      (foremost_subset _ _ _ ((hmem position).mp hposition))
  · rw [h.selected, selectedRows, length_sortedBy,
      foremost_length _ (budget_le (eligible_le hp hs hc) hr hle), eligible_length hs hc]
  · intro a ha b hb hn
    rw [hmem] at ha hn
    apply (rank_lt_iff scores a b).mp
    exact foremost_lt (fun a _ b _ h => rank_injective scores h) ha
      ((mem_candidateRows hs hc b).mp hb) hn

theorem selected_mono {ratio' : ℚ} (hr : 0 ≤ ratio) (hle : ratio ≤ ratio') :
    selectedRows product prompt cached scores ratio suffix ⊆
      selectedRows product prompt cached scores ratio' suffix := by
  intro position h
  rw [mem_selectedRows] at h ⊢
  refine foremost_mono _ ?_ _ h
  exact Nat.floor_mono (product.mono _ hr hle)

end

theorem product_rows (product : RatioProduct) (promptTokens : ℤ) (cacheRanges : List TokenRange)
    (importanceScores : List PyNumber) (checkLayer : ℤ) (recomputeRatio : PyNumber)
    (suffixTokens : ℤ) :
    ((∃ r, select product promptTokens cacheRanges importanceScores checkLayer recomputeRatio
        suffixTokens = .ok r) ↔
      Selectable promptTokens cacheRanges importanceScores checkLayer recomputeRatio
        suffixTokens) ∧
    ∀ r, select product promptTokens cacheRanges importanceScores checkLayer recomputeRatio
        suffixTokens = .ok r →
      (∃ ratio scores, floatOf recomputeRatio = .finite ratio ∧ Reads importanceScores scores ∧
        RowsOf promptTokens.toNat cacheRanges scores (budget product (candidateRows
          promptTokens.toNat cacheRanges suffixTokens.toNat).card ratio) suffixTokens.toNat r) ∧
      ∀ recomputeRatio' r', select product promptTokens cacheRanges importanceScores checkLayer
          recomputeRatio' suffixTokens = .ok r' → r.recomputeRatio ≤ r'.recomputeRatio →
        r.selectedCachedRows ⊆ r'.selectedCachedRows ∧
        ∀ (layerIndex : Fin gptOssNumLayers) (position : ℕ),
          (r.rowPlan.layer layerIndex).Recomputed position →
          (r'.rowPlan.layer layerIndex).Recomputed position := by
  refine ⟨⟨fun ⟨r, h⟩ => (select_ok h).1, select_total product⟩, fun r h => ?_⟩
  have hrows : ∀ {recomputeRatio r}, select product promptTokens cacheRanges importanceScores
      checkLayer recomputeRatio suffixTokens = .ok r → ∃ ratio scores,
        floatOf recomputeRatio = .finite ratio ∧ Reads importanceScores scores ∧
        Selection product promptTokens.toNat cacheRanges scores checkLayer.toNat ratio
          suffixTokens.toNat r ∧
        0 ≤ ratio ∧ RowsOf promptTokens.toNat cacheRanges scores (budget product (candidateRows
          promptTokens.toNat cacheRanges suffixTokens.toNat).card ratio)
          suffixTokens.toNat r := by
    intro recomputeRatio r h
    obtain ⟨hv, q, values, hq, hvalues, hsel⟩ := select_ok h
    obtain ⟨q', hq', hpos, hle⟩ := hv.ratio
    obtain rfl : q = q' := FloatReading.finite.inj (hq.symm.trans hq')
    have hprompt := hv.prompt
    have hsuffix := hv.suffix
    exact ⟨q, values, hq, hvalues, hsel, hpos,
      selection_rows (by omega) (by omega) hv.ranges hpos hle hsel⟩
  obtain ⟨ratio, scores, hq, hvalues, hsel, hpos, hr⟩ := hrows h
  refine ⟨⟨ratio, scores, hq, hvalues, hr⟩, fun recomputeRatio' r' h' hle => ?_⟩
  obtain ⟨ratio', scores', _, hvalues', hsel', _, hr'⟩ := hrows h'
  obtain rfl := reads_unique hvalues hvalues'
  have hsub : r.selectedCachedRows ⊆ r'.selectedCachedRows := by
    rw [hsel.selected, hsel'.selected]
    apply selected_mono hpos
    rw [← hsel.sameRatio, ← hsel'.sameRatio]
    exact hle
  refine ⟨hsub, fun layerIndex position hrec => ?_⟩
  obtain ⟨hp, hcase⟩ := (hr.recomputed _ (r.rowPlan.layer_mem layerIndex) position).mp hrec
  apply (hr'.recomputed _ (r'.rowPlan.layer_mem layerIndex) position).mpr
  obtain hn | hn | hn := hcase
  · exact ⟨hp, .inl hn⟩
  · exact ⟨hp, .inr (.inl hn)⟩
  · exact ⟨hp, .inr (.inr (hsub hn))⟩

/-- A selection succeeds exactly for valid inputs. In every layer it recomputes
the rows that are not cached, the suffix and the selected rows, which are the
best of the cached rows outside the suffix; a larger ratio keeps them all. -/
theorem select_rows (promptTokens : ℤ) (cacheRanges : List TokenRange)
    (importanceScores : List PyNumber) (checkLayer : ℤ) (recomputeRatio : PyNumber)
    (suffixTokens : ℤ) :
    ((∃ r, select exactProduct promptTokens cacheRanges importanceScores checkLayer recomputeRatio
        suffixTokens = .ok r) ↔
      Selectable promptTokens cacheRanges importanceScores checkLayer recomputeRatio
        suffixTokens) ∧
    ∀ r, select exactProduct promptTokens cacheRanges importanceScores checkLayer recomputeRatio
        suffixTokens = .ok r →
      (∃ ratio scores, floatOf recomputeRatio = .finite ratio ∧ Reads importanceScores scores ∧
        RowsOf promptTokens.toNat cacheRanges scores ⌊((candidateRows promptTokens.toNat
          cacheRanges suffixTokens.toNat).card : ℚ)*ratio⌋₊ suffixTokens.toNat r) ∧
      ∀ recomputeRatio' r', select exactProduct promptTokens cacheRanges importanceScores checkLayer
          recomputeRatio' suffixTokens = .ok r' → r.recomputeRatio ≤ r'.recomputeRatio →
        r.selectedCachedRows ⊆ r'.selectedCachedRows ∧
        ∀ (layerIndex : Fin gptOssNumLayers) (position : ℕ),
          (r.rowPlan.layer layerIndex).Recomputed position →
          (r'.rowPlan.layer layerIndex).Recomputed position :=
  product_rows exactProduct promptTokens cacheRanges importanceScores checkLayer recomputeRatio
    suffixTokens

end CacheBlend.SelectedRows
