import CacheBlend.SelectedRows
import CacheBlend.SweepArtifacts

/-!
# Reading selection sweeps

A mapping is read as a sweep exactly when it writes the image of that sweep,
in which a float may be written as an integer that is read as it, and the
points of the sweep agree with the rows and ranges that are worked out again.
-/

set_option autoImplicit false

namespace CacheBlend.SweepReaders
open CacheBlend.PlannerModels CacheBlend.HybridLayout CacheBlend.ScatterSpans
open CacheBlend.SelectiveRows CacheBlend.SelectiveCoverage CacheBlend.Ranking
open CacheBlend.SelectionPolicy CacheBlend.SelectedRows CacheBlend.SweepArtifacts
open CacheBlend.JsonValues

/-! ## Values that write an image -/

/-- The first value writes the second: the same up to the order of the keys of
a mapping and the numbers that stand for floats. -/
inductive Writes : JsonValue → JsonValue → Prop
  | null : Writes .null .null
  | boolean (b : Bool) : Writes (.boolean b) (.boolean b)
  | text (s : PyText) : Writes (.text s) (.text s)
  | integer (n : ℤ) : Writes (.integer n) (.integer n)
  | float {v : JsonValue} {q : ℚ} (h : v.toFloat nearest = some (some (.finite q))) :
      Writes v (.float (.finite q))
  | list {vs ws : List JsonValue} (h : List.Forall₂ Writes vs ws) : Writes (.list vs) (.list ws)
  | mapping {es fs : List (PyText × JsonValue)}
      (keys : ∀ k, k ∈ es.map Prod.fst ↔ k ∈ fs.map Prod.fst)
      (h : ∀ k v w, Dict.find k es = some v → Dict.find k fs = some w → Writes v w) :
      Writes (.mapping es) (.mapping fs)

theorem writes_null_iff (v : JsonValue) : Writes v .null ↔ v = .null := by
  constructor
  · intro h
    cases h
    rfl
  · rintro rfl
    exact .null

theorem writes_text_iff (v : JsonValue) (s : PyText) : Writes v (.text s) ↔ v = .text s := by
  constructor
  · intro h
    cases h
    rfl
  · rintro rfl
    exact .text s

theorem writes_integer_iff (v : JsonValue) (n : ℤ) :
    Writes v (.integer n) ↔ v = .integer n := by
  constructor
  · intro h
    cases h
    rfl
  · rintro rfl
    exact .integer n

theorem writes_float_iff (v : JsonValue) (q : ℚ) :
    Writes v (.float (.finite q)) ↔ v.toFloat nearest = some (some (.finite q)) := by
  constructor
  · intro h
    cases h with
    | float h => exact h
  · exact .float

theorem toFloat_numberValue (n : PyNumber) (q : ℚ) :
    (numberValue n).toFloat nearest = some (some (.finite q)) ↔ floatOf n = .finite q := by
  cases n with
  | integer i =>
    show some ((nearest i).map PyFloat.finite) = _ ↔ _
    unfold nearest
    cases floatOf (.integer i) <;> simp
  | float q' => simp [numberValue, JsonValue.toFloat, floatOf]
  | nonFinite => simp [numberValue, JsonValue.toFloat, floatOf]

theorem writes_list_iff (v : JsonValue) (ws : List JsonValue) :
    Writes v (.list ws) ↔ ∃ vs, v = .list vs ∧ List.Forall₂ Writes vs ws := by
  constructor
  · intro h
    cases h with
    | list h => exact ⟨_, rfl, h⟩
  · rintro ⟨vs, rfl, h⟩
    exact .list h

theorem writes_record_iff (v : JsonValue) (fs : List (String × JsonValue)) :
    Writes v (.mapping (named fs)) ↔ ∃ es, v = .mapping es ∧ HasKeys es (fs.map Prod.fst) ∧
      ∀ k ∈ fs.map Prod.fst, Writes (field es k) ((Dict.find k fs).getD .null) := by
  have hnamed := hasKeys_named fs
  constructor
  · intro h
    cases h with
    | mapping keys h =>
      have hkeys : HasKeys _ (fs.map Prod.fst) :=
        ⟨fun k hk => hnamed.1 k ((keys k).mp hk), fun k hk => (keys k).mpr (hnamed.2 k hk)⟩
      refine ⟨_, rfl, hkeys, fun k hk => ?_⟩
      rw [← field_named]
      have hk := List.mem_map_of_mem (f := pyText) hk
      exact h _ _ _ (find_field (hkeys.2 _ hk)) (find_field (hnamed.2 _ hk))
  · rintro ⟨es, rfl, hkeys, h⟩
    refine .mapping (fun k => ⟨fun hk => hnamed.2 k (hkeys.1 k hk),
      fun hk => hkeys.2 k (hnamed.1 k hk)⟩) fun k v w hv hw => ?_
    obtain ⟨key, hkey, rfl⟩ :=
      List.mem_map.mp (hnamed.1 k (List.mem_map_of_mem (f := Prod.fst) (find_mem hw)))
    have hfield := h key hkey
    rwa [← find_named, hw, field, hv] at hfield

theorem writes_items_iff {α : Type} (f : α → JsonValue) (hf : ∀ v a, Writes v (f a) ↔ v = f a)
    (v : JsonValue) (items : List α) :
    Writes v (.list (items.map f)) ↔ v = .list (items.map f) := by
  rw [writes_list_iff]
  constructor
  · rintro ⟨vs, rfl, h⟩
    congr 1
    rw [List.forall₂_map_right_iff] at h
    induction h with
    | nil => rfl
    | cons hv _ ih => rw [List.map_cons, (hf _ _).mp hv, ih]
  · rintro rfl
    refine ⟨_, rfl, ?_⟩
    rw [List.forall₂_map_right_iff, List.forall₂_map_left_iff, List.forall₂_same]
    exact fun a _ => (hf _ a).mpr rfl

theorem writes_natural_iff (v : JsonValue) (n : ℕ) : Writes v (natural n) ↔ v = natural n :=
  writes_integer_iff v n

theorem writes_rangeList_iff (v : JsonValue) (ranges : List TokenRange) :
    Writes v (rangeList ranges) ↔ v = rangeList ranges := by
  apply writes_items_iff
  intro v r
  exact writes_items_iff natural writes_natural_iff v [r.start, r.stop]

/-! ## What each reader accepts -/

theorem boundedInt_ok_iff (maximum : ℤ) (v : JsonValue) (n : ℕ) :
    boundedInt maximum v = .ok n ↔ v = natural n ∧ (n : ℤ) ≤ maximum := by
  constructor
  · intro h
    unfold boundedInt at h
    split at h
    · rename_i m
      split_ifs at h with hm
      obtain rfl := Except.ok.inj h
      rw [natural, Int.toNat_of_nonneg hm.1]
      exact ⟨rfl, hm.2⟩
    · cases h
  · rintro ⟨rfl, hn⟩
    show (if 0 ≤ (n : ℤ) ∧ (n : ℤ) ≤ maximum then _ else _) = _
    rw [if_pos ⟨Int.natCast_nonneg n, hn⟩, Int.toNat_natCast]

theorem boundedFloat_ok_iff (v : JsonValue) (q : ℚ) :
    boundedFloat v = .ok q ↔ Writes v (.float (.finite q)) := by
  rw [writes_float_iff]
  unfold boundedFloat
  constructor
  · intro h
    split at h
    · rename_i q' hq
      rw [hq, Except.ok.inj h]
    · cases h
    · cases h
  · intro h
    rw [h]

theorem readRange_ok_iff (promptTokens : ℕ) (v : JsonValue) (r : TokenRange) :
    readRange promptTokens v = .ok r ↔ v = .list [natural r.start, natural r.stop] ∧
      r.size ≠ 0 ∧ r.stop ≤ promptTokens := by
  unfold TokenRange.size
  constructor
  · intro h
    unfold readRange at h
    split at h
    · obtain ⟨start, hstart, hrest⟩ := (checked_ok_iff _ _ _).mp h
      obtain ⟨stop, hstop, hrange⟩ := (checked_ok_iff _ _ _).mp hrest
      obtain ⟨rfl, _⟩ := (boundedInt_ok_iff _ _ _).mp hstart
      obtain ⟨rfl, hbound⟩ := (boundedInt_ok_iff _ _ _).mp hstop
      split_ifs at hrange with hlt
      obtain rfl := Except.ok.inj hrange
      exact ⟨rfl, by dsimp only; omega, by dsimp only; omega⟩
    · cases h
  · rintro ⟨rfl, hsize, hbound⟩
    have ho := r.ordered
    apply (checked_ok_iff _ _ _).mpr
    refine ⟨r.start, (boundedInt_ok_iff _ _ _).mpr ⟨rfl, by omega⟩, ?_⟩
    apply (checked_ok_iff _ _ _).mpr
    refine ⟨r.stop, (boundedInt_ok_iff _ _ _).mpr ⟨rfl, by omega⟩, ?_⟩
    rw [dif_neg (by omega)]

theorem readRanges_ok_iff (promptTokens : ℕ) (v : JsonValue) (ranges : List TokenRange) :
    readRanges promptTokens v = .ok ranges ↔
      v = rangeList ranges ∧ Normalized promptTokens ranges := by
  have heach : ∀ items : List JsonValue,
      List.Forall₂ (readRange promptTokens · = .ok ·) items ranges ↔
      items = ranges.map (fun r => .list [natural r.start, natural r.stop]) ∧
        ∀ r ∈ ranges, r.size ≠ 0 ∧ r.stop ≤ promptTokens := by
    intro items
    simp only [readRange_ok_iff]
    constructor
    · intro h
      induction h with
      | nil => exact ⟨rfl, fun r hr => (nomatch hr)⟩
      | cons hr _ ih =>
        obtain ⟨rfl, hr⟩ := hr
        obtain ⟨rfl, hrest⟩ := ih
        exact ⟨rfl, List.forall_mem_cons.mpr ⟨hr, hrest⟩⟩
    · rintro ⟨rfl, h⟩
      rw [List.forall₂_map_left_iff, List.forall₂_same]
      exact fun r hr => ⟨rfl, h r hr⟩
  constructor
  · intro h
    unfold readRanges at h
    split at h
    · obtain ⟨normalized, hitems, h⟩ := (checked_ok_iff _ _ _).mp h
      obtain ⟨hs, h⟩ := (require_then_iff _ _ _ _).mp h
      obtain ⟨ha, h⟩ := (require_then_iff _ _ _ _).mp h
      cases h
      obtain ⟨rfl, hr⟩ := (heach _).mp ((mapM_returns_iff _ _ _).mp hitems)
      exact ⟨rfl, fun r h => (hr r h).1, fun r h => (hr r h).2, hs, ha⟩
    · cases h
  · rintro ⟨rfl, h⟩
    apply (checked_ok_iff _ _ _).mpr
    refine ⟨ranges, (mapM_returns_iff _ _ _).mpr ((heach _).mpr
      ⟨rfl, fun r hr => ⟨h.nonempty r hr, h.bounded r hr⟩⟩), ?_⟩
    exact (require_then_iff _ _ _ _).mpr ⟨h.sorted, (require_then_iff _ _ _ _).mpr ⟨h.apart, rfl⟩⟩

theorem readLayerRanges_ok_iff (promptTokens : ℕ) (v : JsonValue)
    (layerRanges : List (List TokenRange)) :
    readLayerRanges promptTokens v = .ok layerRanges ↔ v = .list (layerRanges.map rangeList) ∧
      layerRanges.length = gptOssNumLayers ∧
        ∀ ranges ∈ layerRanges, Normalized promptTokens ranges := by
  constructor
  · intro h
    unfold readLayerRanges at h
    split at h
    · rename_i items
      obtain ⟨hlen, h⟩ := (require_then_iff _ _ _ _).mp h
      have hall := (mapM_returns_iff _ _ _).mp h
      rw [← hall.length_eq]
      refine ⟨?_, hlen, fun ranges hr => ?_⟩
      · congr 1
        symm
        exact forall₂_map_eq rangeList hall fun v ranges hr =>
          ((readRanges_ok_iff _ _ _).mp hr).1.symm
      · obtain ⟨_, _, hok⟩ := forall₂_right hall hr
        exact ((readRanges_ok_iff _ _ _).mp hok).2
    · cases h
  · rintro ⟨rfl, hlen, hall⟩
    apply (require_then_iff _ _ _ _).mpr
    rw [List.length_map]
    refine ⟨hlen, (mapM_returns_iff _ _ _).mpr ?_⟩
    rw [List.forall₂_map_left_iff, List.forall₂_same]
    exact fun ranges hr => (readRanges_ok_iff _ _ _).mpr ⟨rfl, hall ranges hr⟩

theorem sorted_dedup_iff (rows : List ℕ) :
    rows = sortedBy id rows.dedup ↔ rows.Pairwise (· < ·) := by
  constructor
  · intro h
    have hn : rows.Nodup := by
      rw [h]
      exact ((sortedBy_perm id _).nodup_iff).mpr (List.nodup_dedup rows)
    have hs := sortedBy_pairwise id rows.dedup
    rw [← h] at hs
    exact hs.imp₂ (fun a b hab hne => lt_of_le_of_ne hab hne) hn
  · intro h
    have hn : rows.Nodup := h.imp fun hlt => hlt.ne
    rw [List.dedup_eq_self.mpr hn]
    exact (sortedBy_eq_self id rows (h.imp fun hlt => hlt.le)).symm

theorem readSelectedRows_ok_iff (promptTokens : ℕ) (candidates : List TokenRange) (suffix : ℕ)
    (v : JsonValue) (rows : List ℕ) :
    readSelectedRows promptTokens candidates suffix v = .ok rows ↔ v = .list (rows.map natural) ∧
      rows.Pairwise (· < ·) ∧
      ∀ row ∈ rows, (∃ r ∈ candidates, Holds r row) ∧ row < promptTokens-suffix := by
  constructor
  · intro h
    unfold readSelectedRows at h
    split at h
    · obtain ⟨rows', hitems, h⟩ := (checked_ok_iff _ _ _).mp h
      obtain ⟨hs, h⟩ := (require_then_iff _ _ _ _).mp h
      obtain ⟨hc, h⟩ := (require_then_iff _ _ _ _).mp h
      cases h
      refine ⟨?_, (sorted_dedup_iff rows).mp hs, hc⟩
      congr 1
      symm
      exact forall₂_map_eq natural ((mapM_returns_iff _ _ _).mp hitems)
        fun v n hn => ((boundedInt_ok_iff _ _ _).mp hn).1.symm
    · cases h
  · rintro ⟨rfl, hs, hc⟩
    apply (checked_ok_iff _ _ _).mpr
    refine ⟨rows, (mapM_returns_iff _ _ _).mpr ?_, ?_⟩
    · rw [List.forall₂_map_left_iff, List.forall₂_same]
      intro row hr
      have hlt := (hc row hr).2
      exact (boundedInt_ok_iff _ _ _).mpr ⟨rfl, by omega⟩
    · apply (require_then_iff _ _ _ _).mpr
      exact ⟨(sorted_dedup_iff rows).mpr hs, (require_then_iff _ _ _ _).mpr ⟨hc, rfl⟩⟩

theorem recordOf_ok_iff (v : JsonValue) (keys : List String) (code : SelectionSweepIoErrorCode)
    (es : List (PyText × JsonValue)) :
    recordOf v keys code = .ok es ↔ v = .mapping es ∧ HasKeys es keys := by
  unfold recordOf
  split
  · exact exactMapping_ok_iff _ _ _ _
  · rename_i hno
    refine iff_of_false nofun ?_
    rintro ⟨rfl, _⟩
    exact hno _ rfl

theorem nonemptyList_ok_iff (v : JsonValue) (items : List JsonValue) :
    nonemptyList v = .ok items ↔ v = .list items ∧ items ≠ [] := by
  constructor
  · intro h
    unfold nonemptyList at h
    split at h
    · obtain rfl := Except.ok.inj h
      exact ⟨rfl, List.cons_ne_nil _ _⟩
    · cases h
  · rintro ⟨rfl, hn⟩
    cases items with
    | nil => exact absurd rfl hn
    | cons item items => rfl

def Floats : Option SelectionMeasurement → Prop
  | none => True
  | some m => ∃ a b c, m.maxAbsError = .float a ∧ m.meanAbsError = .float b ∧
      m.selectiveLatencySeconds = .float c

theorem newMeasurement_ok_iff (a b c : ℚ) (m : SelectionMeasurement) :
    newMeasurement a b c = .ok m ↔ m.maxAbsError = .float a ∧ m.meanAbsError = .float b ∧
      m.selectiveLatencySeconds = .float c := by
  constructor
  · intro h
    unfold newMeasurement at h
    split_ifs at h
    obtain rfl := Except.ok.inj h
    exact ⟨rfl, rfl, rfl⟩
  · obtain ⟨a', b', c', hv⟩ := m
    rintro ⟨rfl, rfl, rfl⟩
    apply dif_pos
    intro q hq
    obtain ⟨q', hq', hpos⟩ := hv (.float q) (List.mem_map_of_mem (f := PyNumber.float) hq)
    obtain rfl := FloatReading.finite.inj hq'
    exact hpos

theorem readMeasurement_ok_iff (v : JsonValue) (m : Option SelectionMeasurement) :
    readMeasurement v = .ok m ↔ Writes v (measurementToDict m) ∧ Floats m := by
  have hmapping : ∀ m : SelectionMeasurement, Writes v (measurementToDict (some m)) ↔
      ∃ es, v = .mapping es ∧
        HasKeys es ["max_abs_error", "mean_abs_error", "selective_latency_seconds"] ∧
        Writes (field es "max_abs_error") (numberValue m.maxAbsError) ∧
        Writes (field es "mean_abs_error") (numberValue m.meanAbsError) ∧
        Writes (field es "selective_latency_seconds") (numberValue m.selectiveLatencySeconds) := by
    intro m
    unfold measurementToDict
    rw [writes_record_iff]
    refine exists_congr fun es => and_congr_right fun _ => and_congr_right fun _ => ?_
    simp only [List.map_cons, List.map_nil, List.forall_mem_cons, List.not_mem_nil, false_implies,
      implies_true, and_true]
    rfl
  cases m with
  | none =>
    rw [measurementToDict, writes_null_iff]
    unfold readMeasurement
    split
    · simp [Floats]
    · rename_i hne
      constructor
      · intro h
        obtain ⟨es, _, h⟩ := (checked_ok_iff _ _ _).mp h
        obtain ⟨a, _, h⟩ := (checked_ok_iff _ _ _).mp h
        obtain ⟨b, _, h⟩ := (checked_ok_iff _ _ _).mp h
        obtain ⟨c, _, h⟩ := (checked_ok_iff _ _ _).mp h
        obtain ⟨m, _, h⟩ := (checked_ok_iff _ _ _).mp h
        cases h
      · exact fun h => absurd h.1 hne
  | some m =>
    rw [hmapping]
    unfold readMeasurement
    split
    · constructor
      · intro h
        cases h
      · rintro ⟨⟨es, h, _⟩, _⟩
        cases h
    · simp only [checked_ok_iff, recordOf_ok_iff, boundedFloat_ok_iff, newMeasurement_ok_iff,
        Except.ok.injEq, Option.some.injEq]
      constructor
      · rintro ⟨es, ⟨rfl, hk⟩, a, ha, b, hb, c, hc, m', ⟨hma, hmb, hmc⟩, rfl⟩
        refine ⟨⟨es, rfl, hk, ?_, ?_, ?_⟩, a, b, c, hma, hmb, hmc⟩
        · rw [hma]
          exact ha
        · rw [hmb]
          exact hb
        · rw [hmc]
          exact hc
      · rintro ⟨⟨es, rfl, hk, ha, hb, hc⟩, a, b, c, hma, hmb, hmc⟩
        rw [hma] at ha
        rw [hmb] at hb
        rw [hmc] at hc
        exact ⟨es, ⟨rfl, hk⟩, a, ha, b, hb, c, hc, m, ⟨hma, hmb, hmc⟩, rfl⟩

/-! ## What is read as a point -/

/-- A result that agrees with the rows and ranges that are worked out again. -/
structure PointValid (product : RatioProduct) (r : SelectionPolicyResult) : Prop where
  prompt : r.promptTokens ≤ gptOssMaxContextTokens
  layer : r.checkLayer < gptOssNumLayers
  ratio : 0 ≤ r.recomputeRatio ∧ r.recomputeRatio ≤ 1
  suffix : r.suffixTokens ≤ r.promptTokens
  candidates : Normalized r.promptTokens r.candidateCachedRanges
  sorted : r.selectedCachedRows.Pairwise (· < ·)
  rows : ∀ row ∈ r.selectedCachedRows, (∃ c ∈ r.candidateCachedRanges, Holds c row) ∧
    row < r.promptTokens-r.suffixTokens
  count : r.selectedCachedRows.length = budget product
    (eligibleCount r.promptTokens r.candidateCachedRanges r.suffixTokens) r.recomputeRatio
  recompute : r.recomputeRanges =
    recomputeOf r.promptTokens r.candidateCachedRanges r.suffixTokens r.selectedCachedRows
  plan : ForwardRowPlan.fromRecomputeRanges r.promptTokens
    (List.replicate gptOssNumLayers r.recomputeRanges) = .ok r.rowPlan

theorem writes_point_iff (raw : JsonValue) (p : SelectionSweepPoint) :
    Writes raw (pointToDict p) ↔ ∃ es, raw = .mapping es ∧
      HasKeys es pointKeys ∧
      field es "candidate_cached_ranges" = rangeList p.result.candidateCachedRanges ∧
      field es "check_layer" = natural p.result.checkLayer ∧
      Writes (field es "measurement") (measurementToDict p.measurement) ∧
      field es "prompt_tokens" = natural p.result.promptTokens ∧
      field es "layer_recompute_ranges" = .list ((p.result.rowPlan.layers.map
        LayerRowSelection.recomputeRanges).map rangeList) ∧
      field es "recompute_ranges" = rangeList p.result.recomputeRanges ∧
      Writes (field es "recompute_ratio") (.float (.finite p.result.recomputeRatio)) ∧
      field es "selected_cached_rows" = .list (p.result.selectedCachedRows.map natural) ∧
      field es "suffix_tokens" = natural p.result.suffixTokens := by
  have hlayers := writes_items_iff rangeList writes_rangeList_iff
  have hrows := writes_items_iff natural writes_natural_iff
  unfold pointToDict
  rw [writes_record_iff]
  refine exists_congr fun es => and_congr_right fun _ => and_congr_right fun _ => ?_
  simp only [List.map_cons, List.map_nil, List.forall_mem_cons, List.not_mem_nil, false_implies,
    implies_true, and_true]
  rw [List.map_map, ← writes_rangeList_iff, ← writes_natural_iff, ← writes_natural_iff,
    ← writes_rangeList_iff, ← hrows, ← writes_natural_iff]
  rw [← List.map_map, ← hlayers, List.map_map]
  rfl

theorem eligibleCount_eq {prompt suffix : ℕ} {candidates : List TokenRange}
    (hs : suffix ≤ prompt) (hc : Normalized prompt candidates) :
    eligibleCount prompt candidates suffix = (eligible prompt candidates suffix).length := by
  unfold eligibleCount eligible positions
  rw [List.filter_flatMap, List.length_flatMap]
  congr 1
  apply List.map_congr_left
  intro r hr
  congr 1
  apply List.filter_congr
  intro position hposition
  have hbound := hc.bounded r hr
  have ho := r.ordered
  rw [List.mem_range'_1] at hposition
  unfold TokenRange.size at hposition
  rw [decide_eq_decide, mem_forcedSuffix hs]
  omega

theorem PointValid.normalized {product : RatioProduct} {r : SelectionPolicyResult}
    (h : PointValid product r) :
    Normalized r.promptTokens r.recomputeRanges := by
  rw [h.recompute]
  refine (recomputeOf_spec h.suffix h.candidates fun row hr => ?_).2.1
  have hlt := (h.rows row hr).2
  omega

theorem PointValid.layers {product : RatioProduct} {r : SelectionPolicyResult}
    (h : PointValid product r) :
    r.rowPlan.layers.map LayerRowSelection.recomputeRanges =
      List.replicate gptOssNumLayers r.recomputeRanges := by
  obtain ⟨plan, hplan, _, hlayers⟩ := rowPlan_ok h.prompt h.normalized
  obtain rfl := Except.ok.inj (hplan.symm.trans h.plan)
  rw [List.eq_replicate_iff]
  refine ⟨by rw [List.length_map, ForwardRowPlan.length_eq], fun ranges hr => ?_⟩
  obtain ⟨layer, hl, rfl⟩ := List.mem_map.mp hr
  exact hlayers layer hl

theorem readPoint_ok_iff (product : RatioProduct) (raw : JsonValue) (p : SelectionSweepPoint) :
    readPoint product raw = .ok p ↔
      Writes raw (pointToDict p) ∧ PointValid product p.result ∧ Floats p.measurement := by
  rw [writes_point_iff]
  unfold readPoint
  simp only [checked_ok_iff, require_ok_iff, recordOf_ok_iff, boundedInt_ok_iff,
    boundedFloat_ok_iff, readRanges_ok_iff, readLayerRanges_ok_iff, readSelectedRows_ok_iff,
    mapError_ok_iff, readMeasurement_ok_iff, Except.ok.injEq]
  constructor
  · rintro ⟨es, ⟨rfl, hkeys⟩, prompt, ⟨hprompt, hmax⟩, checkLayer, ⟨hlayer, hlt⟩, ratio, hratio, _,
      hunit, suffix, ⟨hsuffix, hle⟩, candidates, ⟨hcand, hnorm⟩, recompute, ⟨hrec, hnorm'⟩,
      layerRanges, ⟨hlr, hlen, _⟩, _, hsame, selected, ⟨hsel, hsorted, hrows⟩, _, hcount, _, rfl,
      rowPlan, hplan, measurement, ⟨hm, hfloats⟩, rfl⟩
    obtain rfl : layerRanges = List.replicate gptOssNumLayers
        (recomputeOf prompt candidates suffix selected) :=
      List.eq_replicate_iff.mpr ⟨hlen, hsame⟩
    obtain ⟨plan, hplan', hp, hlayers⟩ := rowPlan_ok (by exact_mod_cast hmax) hnorm'
    obtain rfl := Except.ok.inj (hplan'.symm.trans hplan)
    have hvalid : PointValid product ⟨checkLayer, ratio, suffix, candidates,
        recomputeOf prompt candidates suffix selected, selected, plan⟩ := by
      obtain rfl : plan.promptTokens = prompt := hp
      exact ⟨by exact_mod_cast hmax, by show checkLayer < 24; omega, hunit, by exact_mod_cast hle,
        hnorm, hsorted, hrows, hcount, rfl, hplan'⟩
    refine ⟨⟨es, rfl, hkeys, hcand, hlayer, hm, ?_, ?_, hrec, hratio, hsel, hsuffix⟩, hvalid,
      hfloats⟩
    · rw [hprompt]
      exact congrArg natural hp.symm
    · rw [hvalid.layers]
      exact hlr
  · rintro ⟨⟨es, rfl, hkeys, hcand, hlayer, hm, hprompt, hlr, hrec, hratio, hsel, hsuffix⟩, h,
      hfloats⟩
    have hlt := h.layer
    rw [h.layers] at hlr
    refine ⟨es, ⟨rfl, hkeys⟩, _, ⟨hprompt, by exact_mod_cast h.prompt⟩, _, ⟨hlayer, ?_⟩, _, hratio,
      ⟨⟩, h.ratio, _, ⟨hsuffix, by exact_mod_cast h.suffix⟩, _, ⟨hcand, h.candidates⟩, _,
      ⟨hrec, h.normalized⟩, _, ⟨hlr, List.length_replicate, fun ranges hr => ?_⟩, ⟨⟩,
      fun ranges hr => List.eq_of_mem_replicate hr, _, ⟨hsel, h.sorted, h.rows⟩, ⟨⟩, h.count, ⟨⟩,
      h.recompute, _, h.plan, _, ⟨hm, hfloats⟩, rfl⟩
    · unfold gptOssNumLayers at hlt
      omega
    · rw [List.eq_of_mem_replicate hr]
      exact h.normalized

end CacheBlend.SweepReaders
