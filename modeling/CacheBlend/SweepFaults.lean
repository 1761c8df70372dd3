import CacheBlend.EscapingFaults
import CacheBlend.SweepReaders

/-!
# Faults that escape the sweep's reader

The reader converts the ratio of a point and the numbers of its measurement.
An integer that has no float escapes there, unless the reader has refused the
data before it. The measurement is read last, so what precedes it is what makes
the point without a measurement acceptable.
-/

set_option autoImplicit false

namespace CacheBlend.SweepFaults
open CacheBlend.JsonValues CacheBlend.EscapingFaults CacheBlend.SweepArtifacts

def SweepFamily (e : SweepIoFault) : Prop := ∃ code, e = .io code

theorem io_own (code : SelectionSweepIoErrorCode) : SweepFamily (.io code) := ⟨code, rfl⟩

theorem overflow_foreign : ¬SweepFamily .overflow := by
  rintro ⟨_, h⟩
  cases h

theorem boundedInt_own (maximum : ℤ) (v : JsonValue) :
    ¬Escapes SweepFamily (boundedInt maximum v) := by
  unfold boundedInt
  split
  · split_ifs
    · exact escapes_ok _ _
    · exact fun h => (escapes_error _ _).mp h (io_own _)
  · exact fun h => (escapes_error _ _).mp h (io_own _)

theorem boundedFloat_escapes_iff (v : JsonValue) :
    Escapes SweepFamily (boundedFloat v) ↔ NoFloat v := by
  rw [← toFloat_noFloat_iff]
  unfold boundedFloat
  split
  · rename_i h
    rw [h]
    exact iff_of_false (escapes_ok _ _) nofun
  · rename_i h
    exact iff_of_true ((escapes_error _ _).mpr overflow_foreign) h
  · rename_i _ hno
    exact iff_of_false (fun h => (escapes_error _ _).mp h (io_own _)) fun h => hno h

theorem recordOf_own (v : JsonValue) (keys : List String) (code : SelectionSweepIoErrorCode) :
    ¬Escapes SweepFamily (recordOf v keys code) := by
  unfold recordOf
  split
  · exact escapes_exactMapping _ _ _ (io_own _)
  · exact fun h => (escapes_error _ _).mp h (io_own _)

theorem readRange_own (promptTokens : ℕ) (v : JsonValue) :
    ¬Escapes SweepFamily (readRange promptTokens v) := by
  unfold readRange
  split
  · rw [escapes_then _ (boundedInt_own _ _)]
    rintro ⟨_, _, h⟩
    obtain ⟨_, _, h⟩ := (escapes_then _ (boundedInt_own _ _) _).mp h
    split_ifs at h
    · exact (escapes_error _ _).mp h (io_own _)
    · exact escapes_ok _ _ h
  · exact fun h => (escapes_error _ _).mp h (io_own _)

theorem readRanges_own (promptTokens : ℕ) (v : JsonValue) :
    ¬Escapes SweepFamily (readRanges promptTokens v) := by
  unfold readRanges
  split
  · rw [escapes_then _ (escapes_mapM_not _ (readRange_own promptTokens) _)]
    rintro ⟨_, _, h⟩
    rw [escapes_require_then _ _ (io_own _), escapes_require_then _ _ (io_own _)] at h
    exact escapes_ok _ _ h.2.2
  · exact fun h => (escapes_error _ _).mp h (io_own _)

theorem readLayerRanges_own (promptTokens : ℕ) (v : JsonValue) :
    ¬Escapes SweepFamily (readLayerRanges promptTokens v) := by
  unfold readLayerRanges
  split
  · rw [escapes_require_then _ _ (io_own _)]
    exact fun h => escapes_mapM_not _ (readRanges_own promptTokens) _ h.2
  · exact fun h => (escapes_error _ _).mp h (io_own _)

theorem readSelectedRows_own (promptTokens : ℕ) (candidates : List PlannerModels.TokenRange)
    (suffix : ℕ) (v : JsonValue) :
    ¬Escapes SweepFamily (readSelectedRows promptTokens candidates suffix v) := by
  unfold readSelectedRows
  split
  · rw [escapes_then _ (escapes_mapM_not _ (boundedInt_own _) _)]
    rintro ⟨_, _, h⟩
    rw [escapes_require_then _ _ (io_own _), escapes_require_then _ _ (io_own _)] at h
    exact escapes_ok _ _ h.2.2
  · exact fun h => (escapes_error _ _).mp h (io_own _)

/-! The measurement is read last. -/

def measurementKeys : List String :=
  ["max_abs_error", "mean_abs_error", "selective_latency_seconds"]

/-- One of the three numbers is reached that has no float. -/
def MeasurementReaches (v : JsonValue) : Prop :=
  ∃ es, recordOf v measurementKeys .invalidPoint = .ok es ∧ EscapeReached
    [(Passes (boundedFloat (field es "max_abs_error")),
      NoFloat (field es "max_abs_error")),
    (Passes (boundedFloat (field es "mean_abs_error")),
      NoFloat (field es "mean_abs_error")),
    (Passes (boundedFloat (field es "selective_latency_seconds")),
      NoFloat (field es "selective_latency_seconds"))]

theorem newMeasurement_own (a b c : ℚ) : ¬Escapes SweepFamily (newMeasurement a b c) := by
  unfold newMeasurement
  split_ifs
  · exact escapes_ok _ _
  · exact fun h => (escapes_error _ _).mp h (io_own _)

theorem readMeasurement_escapes_iff (v : JsonValue) :
    Escapes SweepFamily (readMeasurement v) ↔ MeasurementReaches v := by
  unfold readMeasurement
  split
  · refine iff_of_false (escapes_ok _ _) ?_
    rintro ⟨_, h, _⟩
    cases h
  · rw [escapes_then _ (recordOf_own _ _ _)]
    refine exists_congr fun es => and_congr_right fun _ => ?_
    refine escapes_step (boundedFloat_escapes_iff _) fun a _ => ?_
    refine escapes_step (boundedFloat_escapes_iff _) fun b _ => ?_
    refine escapes_step (boundedFloat_escapes_iff _) fun c _ => iff_of_false ?_ id
    rw [escapes_then _ (newMeasurement_own a b c)]
    rintro ⟨_, _, h⟩
    exact escapes_ok _ _ h

def withoutMeasurement (es : List (PyText × JsonValue)) : List (PyText × JsonValue) :=
  es.map fun e => if e.1 = pyText "measurement" then (e.1, .null) else e

theorem keys_withoutMeasurement (es : List (PyText × JsonValue)) :
    (withoutMeasurement es).map Prod.fst = es.map Prod.fst := by
  unfold withoutMeasurement
  rw [List.map_map]
  apply List.map_congr_left
  intro e _
  show (if _ then _ else _ : PyText × JsonValue).1 = e.1
  split_ifs <;> rfl

theorem field_withoutMeasurement (es : List (PyText × JsonValue)) (key : String) :
    field (withoutMeasurement es) key = if key = "measurement" then .null else field es key := by
  unfold field
  induction es with
  | nil =>
    show JsonValue.null = _
    split_ifs <;> rfl
  | cons e es ih =>
    show (Dict.find (pyText key)
      ((if e.1 = pyText "measurement" then _ else _)::withoutMeasurement es)).getD _ = _
    rw [Dict.find, Dict.find]
    by_cases he : e.1 = pyText key
    · by_cases hk : key = "measurement"
      · rw [if_pos (he.trans (congrArg pyText hk)), if_pos he, if_pos hk]
        rfl
      · rw [if_neg fun h => hk (pyText_injective (he.symm.trans h)), if_pos he, if_neg hk,
          if_pos he]
    · by_cases hm : e.1 = pyText "measurement"
      · rw [if_pos hm, if_neg he, if_neg he]
        exact ih
      · rw [if_neg hm, if_neg he, if_neg he]
        exact ih

/-- A number without a float is reached in the point. -/
def PointReaches (product : RatioProduct) (es : List (PyText × JsonValue)) : Prop :=
  (Passes (boundedInt HybridLayout.gptOssMaxContextTokens (field es "prompt_tokens")) ∧
    Passes (boundedInt 23 (field es "check_layer")) ∧
    NoFloat (field es "recompute_ratio")) ∨
  Passes (readPoint product (.mapping (withoutMeasurement es))) ∧
    MeasurementReaches (field es "measurement")

theorem recordOf_withoutMeasurement {raw : JsonValue} {es : List (PyText × JsonValue)}
    (h : recordOf raw pointKeys .invalidPoint = .ok es) :
    recordOf (.mapping (withoutMeasurement es)) pointKeys .invalidPoint =
      .ok (withoutMeasurement es) := by
  obtain ⟨rfl, hk⟩ := (SweepReaders.recordOf_ok_iff ..).mp h
  refine (SweepReaders.recordOf_ok_iff ..).mpr ⟨rfl, ?_⟩
  unfold HasKeys
  rw [keys_withoutMeasurement]
  exact hk

theorem readPoint_escapes_iff (product : RatioProduct) (raw : JsonValue) :
    Escapes SweepFamily (readPoint product raw) ↔
      ∃ es, recordOf raw pointKeys .invalidPoint = .ok es ∧ PointReaches product es := by
  unfold readPoint
  rw [escapes_then _ (recordOf_own _ _ _)]
  refine exists_congr fun es => and_congr_right fun hes => ?_
  unfold PointReaches readPoint
  rw [recordOf_withoutMeasurement hes]
  show _ ↔ _ ∨ Passes (boundedInt _ _ >>= _) ∧ _
  simp only [field_withoutMeasurement, String.reduceEq, if_false, if_true]
  refine escapes_before_end (boundedInt_own _ _) fun prompt _ => ?_
  refine escapes_before_end (boundedInt_own _ _) fun checkLayer _ => ?_
  rw [← boundedFloat_escapes_iff]
  refine escapes_end fun ratio _ => ?_
  refine escapes_end_of (escapes_require _ _ (io_own _)) fun _ _ => ?_
  refine escapes_end_of (boundedInt_own _ _) fun suffix _ => ?_
  refine escapes_end_of (readRanges_own _ _) fun candidates _ => ?_
  refine escapes_end_of (readRanges_own _ _) fun recompute _ => ?_
  refine escapes_end_of (readLayerRanges_own _ _) fun layerRanges _ => ?_
  refine escapes_end_of (escapes_require _ _ (io_own _)) fun _ _ => ?_
  refine escapes_end_of (readSelectedRows_own _ _ _ _) fun selected _ => ?_
  refine escapes_end_of (escapes_require _ _ (io_own _)) fun _ _ => ?_
  refine escapes_end_of (escapes_require _ _ (io_own _)) fun _ _ => ?_
  refine escapes_end_of (escapes_mapError _ fun _ => io_own _) fun rowPlan _ => ?_
  rw [escapes_bind, readMeasurement_escapes_iff]
  constructor
  · rintro (h | ⟨_, _, h⟩)
    · exact ⟨⟨_, rfl⟩, h⟩
    · exact absurd h (escapes_ok _ _)
  · rintro ⟨_, h⟩
    exact Or.inl h

/-- A point is reached whose predecessors are read and in which a number
without a float is reached. -/
def SweepReaches (product : RatioProduct) (data : JsonValue) : Prop :=
  ∃ root, recordOf data ["kind", "points", "schema_version"] .invalidSchema = .ok root ∧
    (field root "kind").isText selectionSweepKind = true ∧
    (field root "schema_version").isInteger selectionSweepSchemaVersion = true ∧
    ∃ first raw rest, field root "points" = .list (first ++ raw::rest) ∧
      (∀ p ∈ first, Passes (readPoint product p)) ∧
      ∃ es, recordOf raw pointKeys .invalidPoint = .ok es ∧ PointReaches product es

theorem sweepError_own (e : SelectionPolicy.SelectionFault) : SweepFamily (sweepError e) := by
  unfold sweepError
  split <;> exact io_own _

theorem nonemptyList_own (v : JsonValue) : ¬Escapes SweepFamily (nonemptyList v) := by
  unfold nonemptyList
  split
  · exact escapes_ok _ _
  · exact fun h => (escapes_error _ _).mp h (io_own _)

theorem validateSweepContext_own (s : SelectionSweep) :
    ¬Escapes SweepFamily (validateSweepContext s) := by
  unfold validateSweepContext
  rw [escapes_require_then _ _ (io_own _)]
  exact fun h => escapes_require _ _ (io_own _) h.2

theorem fromDict_escapes_iff (product : RatioProduct) (data : JsonValue) :
    Escapes SweepFamily (fromDict product data) ↔ SweepReaches product data := by
  unfold fromDict
  rw [escapes_then _ (recordOf_own _ _ _)]
  refine exists_congr fun root => and_congr_right fun _ => ?_
  rw [escapes_require_then _ _ (io_own _), and_assoc]
  refine and_congr_right fun _ => and_congr_right fun _ => ?_
  rw [escapes_then _ (nonemptyList_own _)]
  have hrest : ∀ points : List SelectionSweepPoint, ¬Escapes SweepFamily (do
      let s ← (SelectionSweep.new points).mapError sweepError
      validateSweepContext s
      .ok s) := by
    intro points
    rw [escapes_then _ (escapes_mapError _ sweepError_own)]
    rintro ⟨s, _, h⟩
    obtain ⟨_, _, h⟩ := (escapes_then _ (validateSweepContext_own s) _).mp h
    exact escapes_ok _ _ h
  have hpoints : ∀ raws : List JsonValue, Escapes SweepFamily (do
      let points ← raws.mapM (readPoint product)
      let s ← (SelectionSweep.new points).mapError sweepError
      validateSweepContext s
      .ok s) ↔ ∃ first raw rest, raws = first ++ raw::rest ∧
        (∀ p ∈ first, Passes (readPoint product p)) ∧
        Escapes SweepFamily (readPoint product raw) := by
    intro raws
    rw [escapes_bind, escapes_mapM]
    exact or_iff_left fun ⟨points, _, h⟩ => hrest points h
  simp only [hpoints, SweepReaders.nonemptyList_ok_iff, readPoint_escapes_iff]
  constructor
  · rintro ⟨_, ⟨hlist, _⟩, first, raw, rest, rfl, h⟩
    exact ⟨first, raw, rest, hlist, h⟩
  · rintro ⟨first, raw, rest, hlist, h⟩
    exact ⟨_, ⟨hlist, by simp⟩, first, raw, rest, rfl, h⟩

end CacheBlend.SweepFaults
