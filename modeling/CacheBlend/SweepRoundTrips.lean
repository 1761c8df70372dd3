import CacheBlend.SweepReaders

/-!
# Round trips of selection sweeps

The results that are read are those that the policy selects for some scores:
one for the rows that were selected and zero for the others. What is read from
the image of a sweep is the sweep, up to measured integers that no float
represents.
-/

set_option autoImplicit false

namespace CacheBlend.SweepRoundTrips
open CacheBlend.PlannerModels CacheBlend.HybridLayout CacheBlend.ScatterSpans
open CacheBlend.SelectiveRows CacheBlend.SelectiveCoverage CacheBlend.Ranking
open CacheBlend.SelectionPolicy CacheBlend.SelectedRows CacheBlend.SweepArtifacts
open CacheBlend.SweepReaders CacheBlend.JsonValues

/-! ## Results that are selected -/

section
variable {product : RatioProduct} {prompt suffix checkLayer : ℕ} {cached : List TokenRange}
  {scores : List ℚ} {ratio : ℚ} {r r' : SelectionPolicyResult}

theorem Selection.unique (h : Selection product prompt cached scores checkLayer ratio suffix r)
    (h' : Selection product prompt cached scores checkLayer ratio suffix r') : r = r' := by
  have hsel : r.selectedCachedRows = r'.selectedCachedRows := h.selected.trans h'.selected.symm
  have hrec : r.recomputeRanges = r'.recomputeRanges := by rw [h.recompute, h'.recompute, hsel]
  have hplan := h.plan
  rw [hrec] at hplan
  ext1
  · exact h.sameLayer.trans h'.sameLayer.symm
  · exact h.sameRatio.trans h'.sameRatio.symm
  · exact h.sameSuffix.trans h'.sameSuffix.symm
  · exact h.candidates.trans h'.candidates.symm
  · exact hrec
  · exact hsel
  · exact Except.ok.inj (hplan.symm.trans h'.plan)

theorem pointValid_of_selection (hp : prompt ≤ gptOssMaxContextTokens)
    (hl : checkLayer < gptOssNumLayers) (hq : 0 ≤ ratio ∧ ratio ≤ 1) (hs : suffix ≤ prompt)
    (hc : Normalized prompt cached)
    (h : Selection product prompt cached scores checkLayer ratio suffix r) :
    PointValid product r := by
  have hrows := selection_rows hp hs hc hq.1 hq.2 h
  have hlt := selected_lt product scores ratio hs hc
  have hnorm := (recomputeOf_spec hs hc hlt).2.1
  rw [← h.selected, ← h.recompute] at hnorm
  obtain ⟨plan, hplan, hprompt, _⟩ := rowPlan_ok hp hnorm
  obtain rfl : plan = r.rowPlan := Except.ok.inj (hplan.symm.trans h.plan)
  obtain rfl : r.promptTokens = prompt := hprompt
  obtain ⟨rfl, rfl, rfl, rfl, _, hrec, _⟩ := h
  refine ⟨hp, hl, hq, hs, hc, hrows.sorted, fun row hr => ?_, ?_, hrec, hplan⟩
  · exact (mem_eligible hs hc row).mp ((mem_candidateRows hs hc row).mp (hrows.candidate row hr))
  · rw [hrows.count, eligibleCount_eq hs hc, eligible_length hs hc]

/-- Scores that are one for the rows of a choice and zero for the others. -/
def indicator (prompt : ℕ) (selected : List ℕ) : List ℚ :=
  (List.range prompt).map (fun row => if row ∈ selected then 1 else 0)

theorem indicator_getD {selected : List ℕ} {row : ℕ} (h : row < prompt) :
    (indicator prompt selected).getD row 0 = if row ∈ selected then 1 else 0 := by
  rw [indicator, List.getD_eq_getElem?_getD, List.getElem?_map, List.getElem?_range h]
  rfl

theorem selectedRows_indicator {selected : List ℕ} (hs : suffix ≤ prompt)
    (hc : Normalized prompt cached) (hsorted : selected.Pairwise (· < ·))
    (hrows : ∀ row ∈ selected, row ∈ eligible prompt cached suffix)
    (hcount : selected.length = budget product (eligible prompt cached suffix).length ratio) :
    selectedRows product prompt cached (indicator prompt selected) ratio suffix = selected := by
  have hnodup : selected.Nodup := hsorted.imp fun h => h.ne
  have hlt : ∀ row ∈ eligible prompt cached suffix, row < prompt := by
    intro row h
    have hbound := ((mem_eligible hs hc row).mp h).2
    omega
  have hbest : ∀ a ∈ selected, ∀ b ∈ eligible prompt cached suffix, b ∉ selected →
      rank (indicator prompt selected) a < rank (indicator prompt selected) b := by
    intro a ha b hb hn
    rw [rank_lt_iff, indicator_getD (hlt a (hrows a ha)), indicator_getD (hlt b hb), if_pos ha,
      if_neg hn]
    exact .inl one_pos
  unfold selectedRows
  dsimp only
  rw [← hcount]
  apply sortedBy_unique id (fun a _ b _ h => h) _ (hsorted.imp fun h => h.le)
  rw [List.perm_ext_iff_of_nodup (foremost_nodup _ _ (eligible_nodup hc)) hnodup]
  exact mem_foremost_iff (eligible_nodup hc) hnodup hrows hbest

end

def scoresOf (r : SelectionPolicyResult) : List PyNumber :=
  (indicator r.promptTokens r.selectedCachedRows).map PyNumber.float

theorem scoresOf_reads (r : SelectionPolicyResult) :
    Reads (scoresOf r) (indicator r.promptTokens r.selectedCachedRows) := by
  unfold Reads scoresOf
  rw [List.forall₂_map_left_iff, List.forall₂_same]
  intro q hq
  obtain ⟨row, _, rfl⟩ := List.mem_map.mp hq
  refine ⟨rfl, ?_⟩
  split_ifs
  · exact zero_le_one
  · exact le_refl 0

theorem pointValid_selected {product : RatioProduct} {r : SelectionPolicyResult}
    (h : PointValid product r) :
    select product r.promptTokens r.candidateCachedRanges (scoresOf r) r.checkLayer
      (.float r.recomputeRatio) r.suffixTokens = .ok r := by
  have hprompt := h.prompt
  have hlayer := h.layer
  have hsuffix := h.suffix
  have hselectable : Selectable r.promptTokens r.candidateCachedRanges (scoresOf r) r.checkLayer
      (.float r.recomputeRatio) r.suffixTokens := by
    constructor
    · exact ⟨Int.natCast_nonneg _, by exact_mod_cast hprompt⟩
    · exact ⟨Int.natCast_nonneg _, by exact_mod_cast hlayer⟩
    · exact ⟨_, rfl, h.ratio⟩
    · exact ⟨Int.natCast_nonneg _, by exact_mod_cast hsuffix⟩
    · rw [scoresOf, indicator, List.length_map, List.length_map, List.length_range]
    · exact ⟨_, scoresOf_reads r⟩
    · exact h.candidates
  obtain ⟨r', hr'⟩ := select_total product hselectable
  obtain ⟨_, q, values, hq, hvalues, hsel⟩ := select_ok hr'
  obtain rfl := FloatReading.finite.inj hq
  obtain rfl := reads_unique hvalues (scoresOf_reads r)
  have hrows := fun row hr => (mem_eligible hsuffix h.candidates row).mpr (h.rows row hr)
  have hcount := h.count
  rw [eligibleCount_eq hsuffix h.candidates] at hcount
  have hself : Selection product r.promptTokens r.candidateCachedRanges
      (indicator r.promptTokens r.selectedCachedRows) r.checkLayer r.recomputeRatio
      r.suffixTokens r :=
    ⟨rfl, rfl, rfl, rfl,
      (selectedRows_indicator hsuffix h.candidates h.sorted hrows hcount).symm, h.recompute, h.plan⟩
  rw [hr', Selection.unique hsel hself]

section
variable {product : RatioProduct} {promptTokens checkLayer suffixTokens : ℤ}
  {cacheRanges : List TokenRange} {importanceScores : List PyNumber}
  {recomputeRatio : PyNumber} {r : SelectionPolicyResult}

theorem select_pointValid (h : select product promptTokens cacheRanges importanceScores checkLayer
    recomputeRatio suffixTokens = .ok r) : PointValid product r := by
  obtain ⟨hv, q, values, hq, _, hsel⟩ := select_ok h
  obtain ⟨q', hq', hunit⟩ := hv.ratio
  obtain rfl : q = q' := FloatReading.finite.inj (hq.symm.trans hq')
  have hprompt := hv.prompt
  have hlayer := hv.layer
  have hsuffix := hv.suffix
  exact pointValid_of_selection (by omega) (by omega) hunit (by omega) hv.ranges hsel

end

/-! ## What is read as a sweep -/

/-- All points of a sweep carry measurements or none does. -/
def AllOrNone (points : List SelectionSweepPoint) : Prop :=
  (∀ p ∈ points, p.measurement.isSome) ∨ ∀ p ∈ points, ¬p.measurement.isSome

theorem new_ok_iff (points : List SelectionSweepPoint) (s : SelectionSweep) :
    SelectionSweep.new points = .ok s ↔ s.points = points := by
  constructor
  · intro h
    unfold SelectionSweep.new at h
    split_ifs at h
    obtain rfl := Except.ok.inj h
    rfl
  · rintro rfl
    unfold SelectionSweep.new
    rw [dif_neg s.nonempty, dif_pos s.descending, dif_pos s.consistent]

theorem exists_sweep (r : SelectionPolicyResult) (m : Option SelectionMeasurement) :
    ∃ s : SelectionSweep, s.points = [⟨r, m⟩] := by
  refine ⟨⟨[⟨r, m⟩], List.cons_ne_nil _ _, List.isChain_singleton _, ?_⟩, rfl⟩
  intro p hp p' hp'
  obtain rfl := List.mem_singleton.mp hp
  obtain rfl := Option.some.inj hp'
  rfl

theorem validateSweepContext_ok_iff (s : SelectionSweep) (u : Unit) :
    validateSweepContext s = .ok u ↔ AllOrNone s.points := by
  unfold validateSweepContext
  rw [require_then_iff, require_ok_iff]
  exact and_iff_right s.consistent

theorem readPoints_ok_iff (product : RatioProduct) (raws : List JsonValue)
    (points : List SelectionSweepPoint) :
    raws.mapM (readPoint product) = .ok points ↔
      List.Forall₂ Writes raws (points.map pointToDict) ∧
      ∀ p ∈ points, PointValid product p.result ∧ Floats p.measurement := by
  rw [mapM_returns_iff, List.forall₂_map_right_iff]
  simp only [readPoint_ok_iff]
  constructor
  · intro h
    refine ⟨h.imp fun _ _ hp => hp.1, fun p hp => ?_⟩
    obtain ⟨_, _, hread⟩ := forall₂_right h hp
    exact hread.2
  · rintro ⟨h, hall⟩
    induction h with
    | nil => exact .nil
    | cons hw _ ih =>
      rw [List.forall_mem_cons] at hall
      exact .cons ⟨hw, hall.1⟩ (ih hall.2)

theorem writes_payload_iff (data : JsonValue) (points : List SelectionSweepPoint) :
    Writes data (payload points) ↔ ∃ es, data = .mapping es ∧
      HasKeys es ["kind", "points", "schema_version"] ∧
      field es "kind" = .text (pyText selectionSweepKind) ∧
      (∃ raws, field es "points" = .list raws ∧
        List.Forall₂ Writes raws (points.map pointToDict)) ∧
      field es "schema_version" = .integer selectionSweepSchemaVersion := by
  unfold payload
  rw [writes_record_iff]
  refine exists_congr fun es => and_congr_right fun _ => and_congr_right fun _ => ?_
  simp only [List.map_cons, List.map_nil, List.forall_mem_cons, List.not_mem_nil, false_implies,
    implies_true, and_true]
  rw [← writes_text_iff, ← writes_list_iff, ← writes_integer_iff]
  rfl

theorem fromDict_ok_iff (product : RatioProduct) (data : JsonValue) (s : SelectionSweep) :
    fromDict product data = .ok s ↔ Writes data (payload s.points) ∧
      (∀ p ∈ s.points, PointValid product p.result ∧ Floats p.measurement) ∧
        AllOrNone s.points := by
  rw [writes_payload_iff]
  unfold fromDict
  simp only [checked_ok_iff, require_ok_iff, recordOf_ok_iff, isText_iff, isInteger_iff,
    nonemptyList_ok_iff, readPoints_ok_iff, mapError_ok_iff, new_ok_iff,
    validateSweepContext_ok_iff, Except.ok.injEq]
  constructor
  · rintro ⟨es, ⟨rfl, hkeys⟩, _, ⟨hkind, hversion⟩, raws, ⟨hraws, _⟩, points, ⟨hw, hall⟩, s', hs',
      _, hone, rfl⟩
    obtain rfl := hs'
    exact ⟨⟨es, rfl, hkeys, hkind, ⟨raws, hraws, hw⟩, hversion⟩, hall, hone⟩
  · rintro ⟨⟨es, rfl, hkeys, hkind, ⟨raws, hraws, hw⟩, hversion⟩, hall, hone⟩
    have hne : raws ≠ [] := by
      rintro rfl
      exact s.nonempty (List.map_eq_nil_iff.mp (List.forall₂_nil_left_iff.mp hw))
    exact ⟨es, ⟨rfl, hkeys⟩, ⟨⟩, ⟨hkind, hversion⟩, raws, ⟨hraws, hne⟩, s.points, ⟨hw, hall⟩, s,
      rfl, ⟨⟩, hone, rfl⟩

/-! ## What is read of an image -/

def floatedNumber (n : PyNumber) : PyNumber :=
  match floatOf n with
  | .finite q => .float q
  | _ => n

theorem floatOf_floated (n : PyNumber) : floatOf (floatedNumber n) = floatOf n := by
  unfold floatedNumber
  split
  · rename_i q h
    rw [h]
    rfl
  · rfl

def floatedMeasurement (m : SelectionMeasurement) : SelectionMeasurement where
  maxAbsError := floatedNumber m.maxAbsError
  meanAbsError := floatedNumber m.meanAbsError
  selectiveLatencySeconds := floatedNumber m.selectiveLatencySeconds
  valid := by
    have h := m.valid
    simp only [List.forall_mem_cons, List.not_mem_nil, false_implies, implies_true, and_true,
      floatOf_floated] at h ⊢
    exact h

def floatedPoint (p : SelectionSweepPoint) : SelectionSweepPoint :=
  ⟨p.result, p.measurement.map floatedMeasurement⟩

def floatedSweep (s : SelectionSweep) : SelectionSweep where
  points := s.points.map floatedPoint
  nonempty := fun h => s.nonempty (List.map_eq_nil_iff.mp h)
  descending := (List.isChain_map floatedPoint).mpr s.descending
  consistent := by
    intro p hp p' hp'
    obtain ⟨q, hq, rfl⟩ := List.mem_map.mp hp
    rw [List.head?_map] at hp'
    obtain ⟨q', hq', rfl⟩ := Option.mem_map.mp hp'
    exact s.consistent q hq q' hq'

theorem floatedNumber_finite {n : PyNumber} {q : ℚ} (h : floatOf n = .finite q) :
    floatedNumber n = .float q := by
  unfold floatedNumber
  rw [h]

section
variable (m : SelectionMeasurement)

theorem floats_floated : Floats (some (floatedMeasurement m)) := by
  have h := m.valid
  simp only [List.forall_mem_cons, List.not_mem_nil, false_implies, implies_true, and_true] at h
  obtain ⟨⟨a, ha, _⟩, ⟨b, hb, _⟩, c, hc, _⟩ := h
  exact ⟨a, b, c, floatedNumber_finite ha, floatedNumber_finite hb, floatedNumber_finite hc⟩

theorem writes_floatedNumber {v : JsonValue} {n : PyNumber} {q : ℚ} (h : floatOf n = .finite q)
    (hv : Writes v (numberValue n)) : Writes v (numberValue (floatedNumber n)) := by
  rw [floatedNumber_finite h]
  refine .float ?_
  cases n with
  | integer i =>
    obtain rfl := (writes_integer_iff v i).mp hv
    exact (toFloat_numberValue (.integer i) q).mpr h
  | float q' =>
    obtain rfl := FloatReading.finite.inj h
    exact (writes_float_iff v q').mp hv
  | nonFinite => cases h

theorem writes_floatedMeasurement {v : JsonValue} (hv : Writes v (measurementToDict (some m))) :
    Writes v (measurementToDict (some (floatedMeasurement m))) := by
  have h := m.valid
  simp only [List.forall_mem_cons, List.not_mem_nil, false_implies, implies_true, and_true] at h
  obtain ⟨⟨a, ha, _⟩, ⟨b, hb, _⟩, c, hc, _⟩ := h
  unfold measurementToDict at hv ⊢
  rw [writes_record_iff] at hv ⊢
  obtain ⟨es, rfl, hkeys, hfields⟩ := hv
  refine ⟨es, rfl, hkeys, ?_⟩
  simp only [List.map_cons, List.map_nil, List.forall_mem_cons, List.not_mem_nil, false_implies,
    implies_true, and_true] at hfields ⊢
  obtain ⟨hmax, hmean, hlatency⟩ := hfields
  exact ⟨writes_floatedNumber ha hmax, writes_floatedNumber hb hmean,
    writes_floatedNumber hc hlatency⟩

theorem writes_measurement : Writes (measurementToDict (some m)) (measurementToDict (some m)) := by
  have hnumber : ∀ {n : PyNumber} {q : ℚ}, floatOf n = .finite q →
      Writes (numberValue n) (numberValue n) := by
    intro n q h
    cases n with
    | integer n => exact .integer n
    | float q => exact .float rfl
    | nonFinite => cases h
  have h := m.valid
  simp only [List.forall_mem_cons, List.not_mem_nil, false_implies, implies_true, and_true] at h
  obtain ⟨⟨a, ha, _⟩, ⟨b, hb, _⟩, c, hc, _⟩ := h
  unfold measurementToDict
  rw [writes_record_iff]
  refine ⟨_, rfl, hasKeys_named _, ?_⟩
  simp only [List.map_cons, List.map_nil, List.forall_mem_cons, List.not_mem_nil, false_implies,
    implies_true, and_true, field_named]
  exact ⟨hnumber ha, hnumber hb, hnumber hc⟩

end

theorem writes_floatedPoint {raw : JsonValue} {p : SelectionSweepPoint}
    (h : Writes raw (pointToDict p)) : Writes raw (pointToDict (floatedPoint p)) := by
  obtain ⟨r, m⟩ := p
  cases m with
  | none => exact h
  | some m =>
    rw [writes_point_iff] at h ⊢
    obtain ⟨es, rfl, hkeys, hcand, hlayer, hm, hrest⟩ := h
    exact ⟨es, rfl, hkeys, hcand, hlayer, writes_floatedMeasurement m hm, hrest⟩

theorem writes_floatedPayload {data : JsonValue} {points : List SelectionSweepPoint}
    (h : Writes data (payload points)) : Writes data (payload (points.map floatedPoint)) := by
  rw [writes_payload_iff] at h ⊢
  obtain ⟨es, rfl, hkeys, hkind, ⟨raws, hraws, hw⟩, hversion⟩ := h
  refine ⟨es, rfl, hkeys, hkind, ⟨raws, hraws, ?_⟩, hversion⟩
  rw [List.forall₂_map_right_iff, List.forall₂_map_right_iff]
  rw [List.forall₂_map_right_iff] at hw
  exact hw.imp fun raw p hp => writes_floatedPoint hp

theorem writes_point (p : SelectionSweepPoint) : Writes (pointToDict p) (pointToDict p) := by
  rw [writes_point_iff]
  refine ⟨_, rfl, hasKeys_named _, ?_⟩
  simp only [field_named]
  refine ⟨rfl, rfl, ?_, rfl, ?_, rfl, .float rfl, rfl, rfl⟩
  · show Writes (measurementToDict p.measurement) (measurementToDict p.measurement)
    cases p.measurement with
    | none => exact .null
    | some m => exact writes_measurement m
  · rw [List.map_map]
    rfl

theorem writes_payload (points : List SelectionSweepPoint) :
    Writes (payload points) (payload points) := by
  rw [writes_payload_iff]
  refine ⟨_, rfl, hasKeys_named _, ?_⟩
  simp only [field_named]
  refine ⟨rfl, ⟨points.map pointToDict, rfl, ?_⟩, rfl⟩
  rw [List.forall₂_same]
  intro raw hraw
  obtain ⟨p, _, rfl⟩ := List.mem_map.mp hraw
  exact writes_point p

theorem fromDict_written {product : RatioProduct} {data : JsonValue} {s : SelectionSweep}
    (h : Writes data (payload s.points)) (hp : ∀ p ∈ s.points, PointValid product p.result)
    (hone : AllOrNone s.points) : fromDict product data = .ok (floatedSweep s) := by
  rw [fromDict_ok_iff]
  refine ⟨writes_floatedPayload h, fun p hmem => ?_, ?_⟩
  · obtain ⟨q, hq, rfl⟩ := List.mem_map.mp hmem
    refine ⟨hp q hq, ?_⟩
    obtain ⟨r, m⟩ := q
    cases m with
    | none => exact trivial
    | some m => exact floats_floated m
  · have hsame : ∀ p, (floatedPoint p).measurement.isSome = p.measurement.isSome :=
      fun p => Option.isSome_map
    unfold AllOrNone floatedSweep
    simp only [List.forall_mem_map, hsame]
    exact hone

theorem toDict_payload {product : RatioProduct} {s : SelectionSweep}
    (hp : ∀ p ∈ s.points, PointValid product p.result) (hone : AllOrNone s.points) :
    toDict product s = .ok (payload s.points) := by
  unfold toDict
  rw [checked_ok_iff]
  refine ⟨(), (validateSweepContext_ok_iff s _).mpr hone, ?_⟩
  rw [checked_ok_iff]
  exact ⟨_, fromDict_written (writes_payload s.points) hp hone, rfl⟩

/-! ## Equal sweeps -/

def valueOf : PyNumber → Option ℚ
  | .integer n => some n
  | .float q => some q
  | .nonFinite => none

structure SameMeasurement (m m' : SelectionMeasurement) : Prop where
  maxAbsError : valueOf m.maxAbsError = valueOf m'.maxAbsError
  meanAbsError : valueOf m.meanAbsError = valueOf m'.meanAbsError
  selectiveLatencySeconds : valueOf m.selectiveLatencySeconds = valueOf m'.selectiveLatencySeconds

/-- Equality of sweeps, whose numbers compare by value. -/
def SameSweep (s s' : SelectionSweep) : Prop :=
  List.Forall₂ (fun p p' => p.result = p'.result ∧
    Option.Rel SameMeasurement p.measurement p'.measurement) s.points s'.points

def Exact (n : PyNumber) : Prop := ∀ i : ℤ, n = .integer i → floatOf n = .finite i

def ExactMeasurement (m : SelectionMeasurement) : Prop :=
  Exact m.maxAbsError ∧ Exact m.meanAbsError ∧ Exact m.selectiveLatencySeconds

theorem valueOf_floated_iff {n : PyNumber} {q : ℚ} (h : floatOf n = .finite q) :
    valueOf n = valueOf (floatedNumber n) ↔ Exact n := by
  rw [floatedNumber_finite h]
  unfold Exact
  cases n with
  | integer i =>
    rw [h]
    constructor
    · intro hv i' hi
      cases hi
      rw [Option.some.inj hv]
    · intro hv
      exact congrArg some (FloatReading.finite.inj (hv i rfl)).symm
  | float q' =>
    obtain rfl := FloatReading.finite.inj h
    exact iff_of_true rfl fun i hi => (nomatch hi)
  | nonFinite => cases h

theorem same_floatedMeasurement_iff (m : SelectionMeasurement) :
    SameMeasurement m (floatedMeasurement m) ↔ ExactMeasurement m := by
  have h := m.valid
  simp only [List.forall_mem_cons, List.not_mem_nil, false_implies, implies_true, and_true] at h
  obtain ⟨⟨a, ha, _⟩, ⟨b, hb, _⟩, c, hc, _⟩ := h
  unfold ExactMeasurement
  rw [← valueOf_floated_iff ha, ← valueOf_floated_iff hb, ← valueOf_floated_iff hc]
  constructor
  · rintro ⟨hmax, hmean, hlatency⟩
    exact ⟨hmax, hmean, hlatency⟩
  · rintro ⟨hmax, hmean, hlatency⟩
    exact ⟨hmax, hmean, hlatency⟩

theorem same_floatedSweep_iff (s : SelectionSweep) : SameSweep s (floatedSweep s) ↔
    ∀ p ∈ s.points, ∀ m ∈ p.measurement, ExactMeasurement m := by
  unfold SameSweep floatedSweep
  rw [List.forall₂_map_right_iff, List.forall₂_same]
  refine forall₂_congr fun p _ => ?_
  obtain ⟨r, m⟩ := p
  cases m with
  | none => exact iff_of_true ⟨rfl, .none⟩ fun m hm => (nomatch hm)
  | some m =>
    constructor
    · rintro ⟨_, h⟩ m' hm'
      obtain rfl := Option.some.inj hm'
      cases h with
      | some h => exact (same_floatedMeasurement_iff _).mp h
    · intro h
      exact ⟨rfl, .some ((same_floatedMeasurement_iff m).mpr (h m rfl))⟩

/-! ## Sweeps of the policy -/

section
variable {product : RatioProduct} {promptTokens checkLayer suffixTokens : ℤ}
  {cacheRanges : List TokenRange} {importanceScores recomputeRatios : List PyNumber}
  {s s' : SelectionSweep}

theorem sweep_points (h : sweep product promptTokens cacheRanges importanceScores checkLayer
    recomputeRatios suffixTokens = .ok s) :
    ∀ p ∈ s.points, PointValid product p.result ∧ p.measurement = none := by
  unfold sweep at h
  obtain ⟨_, h⟩ := (require_then_iff _ _ _ _).mp h
  obtain ⟨results, hresults, h⟩ := (checked_ok_iff _ _ _).mp h
  rw [(new_ok_iff _ _).mp h]
  intro p hp
  obtain ⟨r, hr, rfl⟩ := List.mem_map.mp hp
  obtain ⟨ratio, _, hselect⟩ := forall₂_right ((mapM_returns_iff _ _ _).mp hresults) hr
  exact ⟨select_pointValid hselect, rfl⟩

theorem withMeasurements_points {measurements : List SelectionMeasurement}
    (h : s.withMeasurements measurements = .ok s')
    (hp : ∀ p ∈ s.points, PointValid product p.result) :
    ∀ p ∈ s'.points, PointValid product p.result ∧ p.measurement.isSome := by
  unfold SelectionSweep.withMeasurements at h
  obtain ⟨_, h⟩ := (require_then_iff _ _ _ _).mp h
  rw [(new_ok_iff _ _).mp h]
  intro p hmem
  rw [← List.map_uncurry_zip_eq_zipWith] at hmem
  obtain ⟨⟨q, m⟩, hq, rfl⟩ := List.mem_map.mp hmem
  exact ⟨hp q (List.of_mem_zip hq).1, rfl⟩

theorem attached_points (h : sweep product promptTokens cacheRanges importanceScores checkLayer
    recomputeRatios suffixTokens = .ok s)
    (hs : s' = s ∨ ∃ measurements, s.withMeasurements measurements = .ok s') :
    (∀ p ∈ s'.points, PointValid product p.result) ∧ AllOrNone s'.points := by
  have hpoints := sweep_points h
  obtain rfl | ⟨measurements, hm⟩ := hs
  · refine ⟨fun p hp => (hpoints p hp).1, .inr fun p hp => ?_⟩
    rw [(hpoints p hp).2]
    exact Bool.false_ne_true
  · have hall := withMeasurements_points hm fun p hp => (hpoints p hp).1
    exact ⟨fun p hp => (hall p hp).1, .inl fun p hp => (hall p hp).2⟩

end

/-- A sweep of the policy is written, and what is read back is the sweep when
floats represent its measured integers. A mapping with one point is read as a
sweep exactly when it writes a result that the policy selects for some scores. -/
theorem sweep_artifacts (product : RatioProduct) :
    (∀ promptTokens cacheRanges importanceScores checkLayer recomputeRatios suffixTokens s s',
      sweep product promptTokens cacheRanges importanceScores checkLayer recomputeRatios
        suffixTokens = .ok s →
      (s' = s ∨ ∃ measurements, s.withMeasurements measurements = .ok s') →
      toDict product s' = .ok (payload s'.points) ∧
      ∃ s'', fromDict product (payload s'.points) = .ok s'' ∧
        (SameSweep s' s'' ↔ ∀ p ∈ s'.points, ∀ m ∈ p.measurement, ExactMeasurement m)) ∧
    ∀ (data : JsonValue) (r : SelectionPolicyResult),
      (∃ s m, fromDict product data = .ok s ∧ s.points = [⟨r, m⟩]) ↔
        (∃ scores, select product r.promptTokens r.candidateCachedRanges scores r.checkLayer
          (.float r.recomputeRatio) r.suffixTokens = .ok r) ∧
        ∃ m, Writes data (payload [⟨r, m⟩]) := by
  constructor
  · intro promptTokens cacheRanges importanceScores checkLayer recomputeRatios suffixTokens s s' h
      hs
    obtain ⟨hp, hone⟩ := attached_points h hs
    exact ⟨toDict_payload hp hone, floatedSweep s', fromDict_written (writes_payload _) hp hone,
      same_floatedSweep_iff s'⟩
  · intro data r
    constructor
    · rintro ⟨s, m, h, hs⟩
      rw [fromDict_ok_iff, hs] at h
      obtain ⟨hw, hall, _⟩ := h
      exact ⟨⟨_, pointValid_selected (hall _ List.mem_cons_self).1⟩, m, hw⟩
    · rintro ⟨⟨scores, hselect⟩, m, hw⟩
      obtain ⟨s, hs⟩ := exists_sweep r m
      refine ⟨floatedSweep s, m.map floatedMeasurement, fromDict_written (hs ▸ hw) ?_ ?_, ?_⟩
      · intro p hp
        rw [hs] at hp
        obtain rfl := List.mem_singleton.mp hp
        exact select_pointValid hselect
      · unfold AllOrNone
        rw [hs]
        simp only [List.forall_mem_singleton]
        exact em _
      · show s.points.map floatedPoint = _
        rw [hs]
        rfl

/-! ## An integer that no float represents -/

/-- A measured integer is read back as another number. -/
theorem integer_not_read_back : ∃ s s' measurements,
    sweep roundedProduct 0 [] [] 0 [.float 0] 0 = .ok s ∧ s.withMeasurements measurements = .ok s' ∧
    toDict roundedProduct s' = .ok (payload s'.points) ∧
    ∀ s'', fromDict roundedProduct (payload s'.points) = .ok s'' → ¬SameSweep s' s'' := by
  have hfloat : floatOf (.integer (2^53+1)) = .finite (2^53) := by decide +kernel
  have hselectable : Selectable 0 [] [] 0 (.float 0) 0 := by
    refine ⟨by decide, by decide, ⟨0, rfl, le_refl 0, zero_le_one⟩, by decide, rfl, ⟨[], .nil⟩, ?_⟩
    exact ⟨fun r h => (nomatch h), fun r h => (nomatch h), rfl, List.isChain_nil⟩
  obtain ⟨r, hr⟩ := select_total roundedProduct hselectable
  have hvalid : ∀ value ∈ [PyNumber.integer (2^53+1), .integer (2^53+1), .integer (2^53+1)],
      ∃ q, floatOf value = .finite q ∧ 0 ≤ q := by
    simp only [List.forall_mem_cons, List.not_mem_nil, false_implies, implies_true, and_true,
      and_self]
    exact ⟨_, hfloat, by norm_num⟩
  let m : SelectionMeasurement := ⟨_, _, _, hvalid⟩
  obtain ⟨s, hs⟩ := exists_sweep r none
  obtain ⟨s', hs'⟩ := exists_sweep r (some m)
  have hsweep : sweep roundedProduct 0 [] [] 0 [.float 0] 0 = .ok s := by
    unfold sweep
    rw [require_then_iff, checked_ok_iff]
    refine ⟨List.cons_ne_nil _ _, [r], (mapM_returns_iff _ _ _).mpr (.cons hr .nil), ?_⟩
    rw [new_ok_iff, hs]
    rfl
  have hm : s.withMeasurements [m] = .ok s' := by
    unfold SelectionSweep.withMeasurements
    rw [require_then_iff, new_ok_iff, hs, hs']
    exact ⟨rfl, rfl⟩
  obtain ⟨hp, hone⟩ := attached_points hsweep (.inr ⟨[m], hm⟩)
  refine ⟨s, s', [m], hsweep, hm, toDict_payload hp hone, fun s'' hread hsame => ?_⟩
  rw [fromDict_written (writes_payload _) hp hone] at hread
  obtain rfl := Except.ok.inj hread
  have hexact := (same_floatedSweep_iff s').mp hsame ⟨r, some m⟩ (by rw [hs']; simp) m rfl
  have hcontra := hfloat.symm.trans (hexact.1 (2^53+1) rfl)
  have hq := FloatReading.finite.inj hcontra
  norm_num at hq

end CacheBlend.SweepRoundTrips
