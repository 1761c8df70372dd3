import CacheBlend.JsonValues
import CacheBlend.SelectionPolicy

/-!
# Artifacts of a selection sweep

A sweep is a curve of selections with descending ratios, with measurements at
every point or at none. It is written as a mapping and read back field by
field. The reader works out the eligible rows, their budget and the recomputed
ranges again and refuses a point that does not agree. The policy and the reader
take the same product of a count and a ratio.
-/

set_option autoImplicit false

namespace CacheBlend.SweepArtifacts
open CacheBlend.PlannerModels CacheBlend.HybridLayout CacheBlend.ScatterSpans
open CacheBlend.SelectiveRows CacheBlend.SelectionPolicy CacheBlend.JsonValues

/-! ## Sweeps -/

/-- Measured numbers, each finite as a float and not negative. -/
structure SelectionMeasurement where
  maxAbsError : PyNumber
  meanAbsError : PyNumber
  selectiveLatencySeconds : PyNumber
  valid : ∀ value ∈ [maxAbsError, meanAbsError, selectiveLatencySeconds],
    ∃ q, floatOf value = .finite q ∧ 0 ≤ q

structure SelectionSweepPoint where
  result : SelectionPolicyResult
  measurement : Option SelectionMeasurement

def SelectionSweepPoint.ratio (p : SelectionSweepPoint) : ℚ := p.result.recomputeRatio

def context (p : SelectionSweepPoint) : ℕ × ℕ × ℕ × List TokenRange :=
  (p.result.promptTokens, p.result.checkLayer, p.result.suffixTokens,
    p.result.candidateCachedRanges)

/-- The conditions of `SelectionSweep.__post_init__`. -/
structure SelectionSweep where
  points : List SelectionSweepPoint
  nonempty : points ≠ []
  descending : points.IsChain (fun p p' => p'.ratio < p.ratio)
  consistent : ∀ p ∈ points, ∀ p' ∈ points.head?, context p = context p'

def SelectionSweep.new (points : List SelectionSweepPoint) : Except SelectionFault SelectionSweep :=
  if hn : points = [] then .error (.policy .invalidRatioSweep)
  else if hd : points.IsChain (fun p p' => p'.ratio < p.ratio) then
    if hc : ∀ p ∈ points, ∀ p' ∈ points.head?, context p = context p' then
      .ok ⟨points, hn, hd, hc⟩
    else .error (.policy .inconsistentSweep)
  else .error (.policy .invalidRatioSweep)

/-- `SelectionSweep.with_measurements`. -/
def SelectionSweep.withMeasurements (s : SelectionSweep)
    (measurements : List SelectionMeasurement) : Except SelectionFault SelectionSweep := do
  require (measurements.length = s.points.length) (.policy .measurementMismatch)
  SelectionSweep.new (List.zipWith (fun p m => ⟨p.result, some m⟩) s.points measurements)

/-- `CacheBlendSelectionPolicy.sweep`. -/
def sweep (product : RatioProduct) (promptTokens : ℤ) (cacheRanges : List TokenRange)
    (importanceScores : List PyNumber) (checkLayer : ℤ) (recomputeRatios : List PyNumber)
    (suffixTokens : ℤ) : Except SelectionFault SelectionSweep := do
  require (recomputeRatios ≠ []) (.policy .invalidRatioSweep)
  let results ← recomputeRatios.mapM (fun ratio =>
    select product promptTokens cacheRanges importanceScores checkLayer ratio suffixTokens)
  SelectionSweep.new (results.map (fun r => ⟨r, none⟩))

/-! ## Writing -/

def selectionSweepSchemaVersion : ℤ := 1
def selectionSweepKind : String := "cacheblend_gpt_oss_selection_sweep"

def natural (n : ℕ) : JsonValue := .integer n

def numberValue : PyNumber → JsonValue
  | .integer n => .integer n
  | .float q => .float (.finite q)
  | .nonFinite => .float .nan

def rangeList (ranges : List TokenRange) : JsonValue :=
  .list (ranges.map (fun r => .list [natural r.start, natural r.stop]))

def measurementToDict : Option SelectionMeasurement → JsonValue
  | none => .null
  | some m => .mapping (named [("max_abs_error", numberValue m.maxAbsError),
      ("mean_abs_error", numberValue m.meanAbsError),
      ("selective_latency_seconds", numberValue m.selectiveLatencySeconds)])

/-- `_point_to_dict`. -/
def pointToDict (p : SelectionSweepPoint) : JsonValue :=
  .mapping (named [("candidate_cached_ranges", rangeList p.result.candidateCachedRanges),
    ("check_layer", natural p.result.checkLayer),
    ("measurement", measurementToDict p.measurement),
    ("prompt_tokens", natural p.result.promptTokens),
    ("layer_recompute_ranges", .list (p.result.rowPlan.layers.map
      (fun layer => rangeList layer.recomputeRanges))),
    ("recompute_ranges", rangeList p.result.recomputeRanges),
    ("recompute_ratio", .float (.finite p.result.recomputeRatio)),
    ("selected_cached_rows", .list (p.result.selectedCachedRows.map natural)),
    ("suffix_tokens", natural p.result.suffixTokens)])

def payload (points : List SelectionSweepPoint) : JsonValue :=
  .mapping (named [("kind", .text (pyText selectionSweepKind)),
    ("points", .list (points.map pointToDict)),
    ("schema_version", .integer selectionSweepSchemaVersion)])

/-! ## Reading -/

inductive SelectionSweepIoErrorCode where
  | invalidSchema
  | invalidPoint
  | invalidRange
  | pointMismatch
  | inconsistentSweep
  | incompleteMeasurements
  deriving DecidableEq

/-- The exceptions of the artifact code; an integer that no float is near
raises the `OverflowError` of its conversion. -/
inductive SweepIoFault where
  | io (code : SelectionSweepIoErrorCode)
  | overflow
  deriving DecidableEq

/-- `_exact_mapping`; what is no mapping at all violates the schema. -/
def recordOf (value : JsonValue) (keys : List String) (code : SelectionSweepIoErrorCode) :
    Except SweepIoFault (List (PyText × JsonValue)) :=
  match value with
  | .mapping _ => exactMapping value keys (.io code)
  | _ => .error (.io .invalidSchema)

def boundedInt (maximum : ℤ) : JsonValue → Except SweepIoFault ℕ
  | .integer n => if 0 ≤ n ∧ n ≤ maximum then .ok n.toNat else .error (.io .invalidPoint)
  | _ => .error (.io .invalidPoint)

def boundedFloat (value : JsonValue) : Except SweepIoFault ℚ :=
  match value.toFloat nearest with
  | some (some (.finite q)) => .ok q
  | some none => .error .overflow
  | _ => .error (.io .invalidPoint)

def readRange (promptTokens : ℕ) : JsonValue → Except SweepIoFault TokenRange
  | .list [first, second] => do
    let start ← boundedInt promptTokens first
    let stop ← boundedInt promptTokens second
    if h : stop ≤ start then .error (.io .invalidRange)
    else .ok ⟨start, stop, (not_le.mp h).le⟩
  | _ => .error (.io .invalidRange)

/-- `_ranges`. -/
def readRanges (promptTokens : ℕ) : JsonValue → Except SweepIoFault (List TokenRange)
  | .list items => do
    let normalized ← items.mapM (readRange promptTokens)
    require (sortedBy TokenRange.sortKey normalized = normalized) (.io .invalidRange)
    require (normalized.IsChain (fun r r' => ¬r.Overlaps r')) (.io .invalidRange)
    .ok normalized
  | _ => .error (.io .invalidRange)

def readLayerRanges (promptTokens : ℕ) : JsonValue → Except SweepIoFault (List (List TokenRange))
  | .list items => do
    require (items.length = gptOssNumLayers) (.io .invalidPoint)
    items.mapM (readRanges promptTokens)
  | _ => .error (.io .invalidPoint)

/-- `_selected_rows`. -/
def readSelectedRows (promptTokens : ℕ) (candidateRanges : List TokenRange) (suffixTokens : ℕ) :
    JsonValue → Except SweepIoFault (List ℕ)
  | .list items => do
    let rows ← items.mapM (boundedInt (promptTokens-1))
    require (rows = sortedBy id rows.dedup) (.io .invalidPoint)
    require (∀ row ∈ rows, (∃ r ∈ candidateRanges, Holds r row) ∧ row < promptTokens-suffixTokens)
      (.io .pointMismatch)
    .ok rows
  | _ => .error (.io .invalidPoint)

def newMeasurement (maxAbsError meanAbsError selectiveLatencySeconds : ℚ) :
    Except SweepIoFault SelectionMeasurement :=
  if h : ∀ value ∈ [maxAbsError, meanAbsError, selectiveLatencySeconds], 0 ≤ value then
    .ok ⟨.float maxAbsError, .float meanAbsError, .float selectiveLatencySeconds, by
      intro value hv
      obtain ⟨q, hq, rfl⟩ := List.mem_map.mp
        (show value ∈ [maxAbsError, meanAbsError, selectiveLatencySeconds].map PyNumber.float
          from hv)
      exact ⟨q, rfl, h q hq⟩⟩
  else .error (.io .invalidPoint)

/-- `_measurement`. -/
def readMeasurement : JsonValue → Except SweepIoFault (Option SelectionMeasurement)
  | .null => .ok none
  | value => do
    let entries ← recordOf value
      ["max_abs_error", "mean_abs_error", "selective_latency_seconds"] .invalidPoint
    let maxAbsError ← boundedFloat (field entries "max_abs_error")
    let meanAbsError ← boundedFloat (field entries "mean_abs_error")
    let selectiveLatencySeconds ← boundedFloat (field entries "selective_latency_seconds")
    let m ← newMeasurement maxAbsError meanAbsError selectiveLatencySeconds
    .ok (some m)

def pointKeys : List String :=
  ["candidate_cached_ranges", "check_layer", "measurement", "prompt_tokens",
    "layer_recompute_ranges", "recompute_ranges", "recompute_ratio", "selected_cached_rows",
    "suffix_tokens"]

def eligibleCount (promptTokens : ℕ) (candidates : List TokenRange) (suffixTokens : ℕ) : ℕ :=
  (candidates.map (fun r => ((List.range' r.start r.size).filter
    (fun row => row < promptTokens-suffixTokens)).length)).sum

/-- The body of the loop of `selection_sweep_from_dict` over the points. The
reader's helpers for complements and merges are copies of the policy's. -/
def readPoint (product : RatioProduct) (raw : JsonValue) :
    Except SweepIoFault SelectionSweepPoint := do
  let point ← recordOf raw pointKeys .invalidPoint
  let prompt ← boundedInt gptOssMaxContextTokens (field point "prompt_tokens")
  let checkLayer ← boundedInt 23 (field point "check_layer")
  let ratio ← boundedFloat (field point "recompute_ratio")
  require (0 ≤ ratio ∧ ratio ≤ 1) (.io .invalidPoint)
  let suffix ← boundedInt prompt (field point "suffix_tokens")
  let candidates ← readRanges prompt (field point "candidate_cached_ranges")
  let recompute ← readRanges prompt (field point "recompute_ranges")
  let layerRanges ← readLayerRanges prompt (field point "layer_recompute_ranges")
  require (∀ ranges ∈ layerRanges, ranges = recompute) (.io .pointMismatch)
  let selected ← readSelectedRows prompt candidates suffix (field point "selected_cached_rows")
  require (selected.length = budget product (eligibleCount prompt candidates suffix) ratio)
    (.io .pointMismatch)
  require (recompute = recomputeOf prompt candidates suffix selected) (.io .pointMismatch)
  let rowPlan ← (ForwardRowPlan.fromRecomputeRanges prompt layerRanges).mapError
    (fun _ => .io .pointMismatch)
  let measurement ← readMeasurement (field point "measurement")
  .ok {
    result := {
      checkLayer := checkLayer
      recomputeRatio := ratio
      suffixTokens := suffix
      candidateCachedRanges := candidates
      recomputeRanges := recompute
      selectedCachedRows := selected
      rowPlan := rowPlan }
    measurement := measurement }

/-- The conditions of `_validate_sweep_context`. -/
def validateSweepContext (s : SelectionSweep) : Except SweepIoFault Unit := do
  require (∀ p ∈ s.points, ∀ p' ∈ s.points.head?, context p = context p')
    (.io .inconsistentSweep)
  require ((∀ p ∈ s.points, p.measurement.isSome) ∨ ∀ p ∈ s.points, ¬p.measurement.isSome)
    (.io .incompleteMeasurements)

/-- The items of a list that is not empty. -/
def nonemptyList : JsonValue → Except SweepIoFault (List JsonValue)
  | .list (item::items) => .ok (item::items)
  | _ => .error (.io .invalidSchema)

def sweepError : SelectionFault → SweepIoFault
  | .policy .inconsistentSweep => .io .inconsistentSweep
  | _ => .io .invalidPoint

/-- `selection_sweep_from_dict`. -/
def fromDict (product : RatioProduct) (data : JsonValue) : Except SweepIoFault SelectionSweep := do
  let root ← recordOf data ["kind", "points", "schema_version"] .invalidSchema
  require ((field root "kind").isText selectionSweepKind ∧
    (field root "schema_version").isInteger selectionSweepSchemaVersion) (.io .invalidSchema)
  let raws ← nonemptyList (field root "points")
  let points ← raws.mapM (readPoint product)
  let s ← (SelectionSweep.new points).mapError sweepError
  validateSweepContext s
  .ok s

/-- `selection_sweep_to_dict`; what it returns has been read back. -/
def toDict (product : RatioProduct) (s : SelectionSweep) : Except SweepIoFault JsonValue := do
  validateSweepContext s
  let _ ← fromDict product (payload s.points)
  .ok (payload s.points)

end CacheBlend.SweepArtifacts
