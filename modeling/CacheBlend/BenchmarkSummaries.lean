import CacheBlend.BenchmarkModels
import CacheBlend.Divergences
import Mathlib.Analysis.SpecialFunctions.Pow.Real

/-!
# Summaries of repeated trials

A metric of an arm is the list of what its trials measured. Its mean, median
and interval, over exact reals, do not depend on the order of the list, and
neither does the failure of a metric, since all the trials that have no value
lack it in the same way.
-/

set_option autoImplicit false

namespace CacheBlend.BenchmarkSummaries
open CacheBlend.JsonValues CacheBlend.CorrectnessModels CacheBlend.MetricCounters
open CacheBlend.BenchmarkModels

/-! ## Intervals -/

structure ConfidenceInterval where
  count : ℕ
  mean : ℝ
  median : ℝ
  ci95Low : ℝ
  ci95High : ℝ

/-- `statistics.median`. -/
noncomputable def median (values : List ℝ) : ℝ :=
  let data := sortedBy id values
  let n := data.length
  if n%2 = 1 then data.getD (n/2) 0 else (data.getD (n/2-1) 0+data.getD (n/2) 0)/2

noncomputable def mean (values : List ℝ) : ℝ := values.sum/values.length

/-- `statistics.stdev`, of the sample. -/
noncomputable def stdev (values : List ℝ) : ℝ :=
  √((values.map fun x => (x-mean values)^2).sum/((values.length : ℝ)-1))

/-- `_confidence`. -/
noncomputable def confidence (values : List ℝ) : Except BenchmarkFault ConfidenceInterval :=
  open Classical in
  if values = [] ∨ ∃ x ∈ values, x < 0 then .error (.benchmark .invalidMetrics)
  else
    let spread := if 1 < values.length then stdev values else 0
    let margin := 1.96*spread/√values.length
    .ok ⟨values.length, mean values, median values, max 0 (mean values-margin),
      mean values+margin⟩

theorem mean_perm {xs ys : List ℝ} (h : xs.Perm ys) : mean xs = mean ys := by
  rw [mean, mean, h.sum_eq, h.length_eq]

theorem median_perm {xs ys : List ℝ} (h : xs.Perm ys) : median xs = median ys := by
  unfold median
  rw [sortedBy_congr_perm id (fun _ _ _ _ hab => hab) h]

theorem stdev_perm {xs ys : List ℝ} (h : xs.Perm ys) : stdev xs = stdev ys := by
  rw [stdev, stdev, mean_perm h, (h.map _).sum_eq, h.length_eq]

theorem confidence_perm {xs ys : List ℝ} (h : xs.Perm ys) : confidence xs = confidence ys := by
  have hnil : xs = [] ↔ ys = [] := by
    rw [← List.length_eq_zero_iff, ← List.length_eq_zero_iff, h.length_eq]
  have hneg : (∃ x ∈ xs, x < 0) ↔ ∃ x ∈ ys, x < 0 := by simp only [h.mem_iff]
  unfold confidence
  simp only [hnil, hneg, h.length_eq, mean_perm h, median_perm h, stdev_perm h]

/-! ## Readings in any order -/

theorem mapM_perm {ε α β : Type} {f : α → Except ε β} {fault : ε} {xs ys : List α}
    (hf : ∀ x ∈ xs, ∀ e, f x = .error e → e = fault) (h : xs.Perm ys) :
    (∃ us vs, xs.mapM f = .ok us ∧ ys.mapM f = .ok vs ∧ us.Perm vs) ∨
      xs.mapM f = .error fault ∧ ys.mapM f = .error fault := by
  by_cases hall : ∀ x ∈ xs, ∃ u, f x = .ok u
  · left
    obtain ⟨vs, hvs⟩ := mapM_returns_of f ys fun y hy => hall y (h.mem_iff.mpr hy)
    obtain ⟨us, hus, hp⟩ := List.perm_comp_forall₂ h ((mapM_returns_iff _ _ _).mp hvs)
    exact ⟨us, vs, (mapM_returns_iff _ _ _).mpr hus, hvs, hp⟩
  · right
    have herror : ∀ zs : List α, zs.Perm xs → zs.mapM f = .error fault := by
      intro zs hz
      cases hm : zs.mapM f with
      | ok us =>
        exfalso
        apply hall
        intro x hx
        obtain ⟨u, _, hu⟩ := forall₂_left ((mapM_returns_iff _ _ _).mp hm) (hz.mem_iff.mpr hx)
        exact ⟨u, hu⟩
      | error e =>
        obtain ⟨first, x, rest, rfl, _, hx⟩ := (mapM_error_iff _ _ _).mp hm
        rw [hf x (hz.mem_iff.mp (by simp)) e hx]
    exact ⟨herror xs (.refl _), herror ys h.symm⟩

/-! ## Metrics of trials -/

section
variable (convert : ℤ → Option ℚ)

/-- `float(value)`; there is none for a missing value. -/
noncomputable def amount (v : JsonValue) : Except BenchmarkFault ℝ :=
  match v.toFloat convert with
  | some (some (.finite q)) => .ok q
  | some none => .error .overflow
  | _ => .error .missing

/-- `None if value is None else float(value)`. -/
def floated (v : JsonValue) : Except BenchmarkFault JsonValue :=
  if v.isNull = true then .ok v
  else
    match v.toFloat convert with
    | some (some x) => .ok (.float x)
    | some none => .error .overflow
    | none => .error .missing

/-- `_optional_confidence`. -/
noncomputable def optionalConfidence (values : List JsonValue) :
    Except BenchmarkFault (Option ConfidenceInterval) :=
  if ∀ v ∈ values, v.isNull = true then .ok none
  else if ∃ v ∈ values, v.isNull = true then .error (.benchmark .invalidMetrics)
  else do
    let amounts ← values.mapM (amount convert)
    let interval ← confidence amounts
    .ok (some interval)

/-- What a trial may hold for a timing or an error. -/
def Measured (v : JsonValue) : Prop :=
  v = .null ∨ ∃ q, v.toFloat convert = some (some (.finite q))

variable {convert}

theorem acceptable_measured {v : JsonValue} (h : acceptable convert v = .ok true) :
    Measured convert v := by
  unfold acceptable at h
  split_ifs at h with hn
  · left
    cases v <;> first | rfl | cases hn
  · right
    unfold floatTest at h
    split at h
    · cases h
    · cases h
    · rename_i q hq
      exact ⟨q, hq⟩
    · cases h

theorem accepted_measured {values : List JsonValue} {accepted : List Bool}
    (h : values.mapM (acceptable convert) = .ok accepted) (hall : accepted.all id = true) :
    ∀ v ∈ values, Measured convert v := by
  intro v hv
  obtain ⟨b, hb, hvb⟩ := forall₂_left ((mapM_returns_iff _ _ _).mp h) hv
  have htrue : b = true := List.all_eq_true.mp hall b hb
  exact acceptable_measured (htrue ▸ hvb)

theorem trial_metricsAccepted (t : BenchmarkTrial convert) :
    metricsAccepted convert t.val.metrics = .ok true := by
  have h := t.property
  unfold checkTrial at h
  rw [require_then_iff, require_then_iff, checked_ok_iff] at h
  obtain ⟨_, _, accepted, ha, h⟩ := h
  rw [require_then_iff] at h
  rw [ha, h.1]

theorem metrics_measured {m : TrialMetrics} (h : metricsAccepted convert m = .ok true) :
    (∀ v ∈ m.timers.values, Measured convert v) ∧
      ∀ v ∈ m.correctness.values, Measured convert v := by
  obtain ⟨timers, ht, h⟩ := (checked_ok_iff _ _ _).mp h
  obtain ⟨errors, he, h⟩ := (checked_ok_iff _ _ _).mp h
  rw [Except.ok.injEq, Bool.and_eq_true, Bool.and_eq_true, Bool.and_eq_true] at h
  exact ⟨accepted_measured ht h.1.1.2, accepted_measured he h.1.2⟩

theorem amount_error {v : JsonValue} (hv : Measured convert v) (e : BenchmarkFault)
    (h : amount convert v = .error e) : e = .missing := by
  unfold amount at h
  rcases hv with rfl | ⟨q, hq⟩
  · cases h
    rfl
  · rw [hq] at h
    cases h

theorem floated_ok {v : JsonValue} (hv : Measured convert v) :
    ∃ w, floated convert v = .ok w ∧ Measured convert w := by
  unfold floated
  rcases hv with rfl | ⟨q, hq⟩
  · exact ⟨.null, rfl, Or.inl rfl⟩
  · by_cases hn : v.isNull = true
    · exact ⟨v, if_pos hn, Or.inr ⟨q, hq⟩⟩
    · rw [if_neg hn, hq]
      exact ⟨.float (.finite q), rfl, Or.inr ⟨q, rfl⟩⟩

theorem optionalConfidence_perm {vs ws : List JsonValue} (hv : ∀ v ∈ vs, Measured convert v)
    (h : vs.Perm ws) : optionalConfidence convert vs = optionalConfidence convert ws := by
  have hall : (∀ v ∈ vs, v.isNull = true) ↔ ∀ v ∈ ws, v.isNull = true := by
    simp only [h.mem_iff]
  have hany : (∃ v ∈ vs, v.isNull = true) ↔ ∃ v ∈ ws, v.isNull = true := by
    simp only [h.mem_iff]
  have hrest : (vs.mapM (amount convert) >>= fun amounts => confidence amounts >>=
      fun interval => Except.ok (some interval)) =
      ws.mapM (amount convert) >>= fun amounts => confidence amounts >>=
      fun interval => Except.ok (some interval) := by
    rcases mapM_perm (fun v hm e he => amount_error (hv v hm) e he) h with
      ⟨us, us', hus, hus', hp⟩ | ⟨he, he'⟩
    · rw [hus, hus']
      show (confidence us >>= _) = (confidence us' >>= _)
      rw [confidence_perm hp]
    · rw [he, he']
  unfold optionalConfidence
  simp only [hall, hany, hrest]

variable (convert)

/-! ## The summary of an arm -/

/-- `float(value)` of an integer. -/
noncomputable def floatInt (n : ℤ) : Except BenchmarkFault ℝ :=
  match convert n with
  | some q => .ok q
  | none => .error .overflow

/-- `_fraction`. -/
def fraction (numerator denominator : ℤ) : ℚ :=
  if 0 < denominator then (numerator : ℚ)/denominator else 0

variable {convert}

/-- `_confidence` of what the trials measured. -/
noncomputable def summarized (metric : BenchmarkTrial convert → Except BenchmarkFault ℝ)
    (trials : List (BenchmarkTrial convert)) : Except BenchmarkFault ConfidenceInterval := do
  let values ← trials.mapM metric
  confidence values

noncomputable def counted (counter : RequestMetricCounters → ℤ) (t : BenchmarkTrial convert) :
    Except BenchmarkFault ℝ :=
  floatInt convert (counter t.counters)

noncomputable def timed (timer : TimerValues → JsonValue) (t : BenchmarkTrial convert) :
    Except BenchmarkFault ℝ :=
  amount convert (timer t.val.metrics.timers)

noncomputable def proportion (numerator denominator : RequestMetricCounters → ℤ)
    (t : BenchmarkTrial convert) : Except BenchmarkFault ℝ :=
  .ok (fraction (numerator t.counters) (denominator t.counters) : ℝ)

noncomputable def sized (size : TrialFields → JsonValue) (t : BenchmarkTrial convert) :
    Except BenchmarkFault ℝ :=
  floatInt convert (size t.val).intValue

/-- `_optional_confidence` of a timer, floats where it is present. -/
noncomputable def optionalTimed (timer : TimerValues → JsonValue)
    (trials : List (BenchmarkTrial convert)) :
    Except BenchmarkFault (Option ConfidenceInterval) := do
  let values ← trials.mapM fun t => floated convert (timer t.val.metrics.timers)
  optionalConfidence convert values

noncomputable def optionalError (error : ErrorValues → JsonValue)
    (trials : List (BenchmarkTrial convert)) :
    Except BenchmarkFault (Option ConfidenceInterval) :=
  optionalConfidence convert (trials.map fun t => error t.val.metrics.correctness)

theorem summarized_perm {metric : BenchmarkTrial convert → Except BenchmarkFault ℝ}
    {xs ys : List (BenchmarkTrial convert)} (fault : BenchmarkFault)
    (hf : ∀ t e, metric t = .error e → e = fault) (h : xs.Perm ys) :
    summarized metric xs = summarized metric ys := by
  unfold summarized
  rcases mapM_perm (fun t _ e he => hf t e he) h with ⟨us, vs, hus, hvs, hp⟩ | ⟨he, he'⟩
  · rw [hus, hvs]
    exact confidence_perm hp
  · rw [he, he']

theorem floatInt_error (n : ℤ) (e : BenchmarkFault) (h : floatInt convert n = .error e) :
    e = .overflow := by
  unfold floatInt at h
  split at h
  · cases h
  · cases h
    rfl

theorem counted_perm (counter : RequestMetricCounters → ℤ) {xs ys : List (BenchmarkTrial convert)}
    (h : xs.Perm ys) : summarized (counted counter) xs = summarized (counted counter) ys :=
  summarized_perm .overflow (fun _ e he => floatInt_error _ e he) h

theorem sized_perm (size : TrialFields → JsonValue) {xs ys : List (BenchmarkTrial convert)}
    (h : xs.Perm ys) : summarized (sized size) xs = summarized (sized size) ys :=
  summarized_perm .overflow (fun _ e he => floatInt_error _ e he) h

theorem proportion_perm (numerator denominator : RequestMetricCounters → ℤ)
    {xs ys : List (BenchmarkTrial convert)} (h : xs.Perm ys) :
    summarized (proportion numerator denominator) xs =
      summarized (proportion numerator denominator) ys :=
  summarized_perm .missing (fun _ _ he => nomatch he) h

theorem timer_measured {timer : TimerValues → JsonValue} (hl : ∀ v, timer v ∈ v.values)
    (t : BenchmarkTrial convert) : Measured convert (timer t.val.metrics.timers) :=
  (metrics_measured (trial_metricsAccepted t)).1 _ (hl _)

theorem timed_perm {timer : TimerValues → JsonValue} (hl : ∀ v, timer v ∈ v.values)
    {xs ys : List (BenchmarkTrial convert)} (h : xs.Perm ys) :
    summarized (timed timer) xs = summarized (timed timer) ys :=
  summarized_perm .missing (fun t e he => amount_error (timer_measured hl t) e he) h

theorem optionalTimed_perm {timer : TimerValues → JsonValue} (hl : ∀ v, timer v ∈ v.values)
    {xs ys : List (BenchmarkTrial convert)} (h : xs.Perm ys) :
    optionalTimed timer xs = optionalTimed timer ys := by
  have hok : ∀ t : BenchmarkTrial convert, ∃ w,
      floated convert (timer t.val.metrics.timers) = .ok w ∧ Measured convert w :=
    fun t => floated_ok (timer_measured hl t)
  have hf : ∀ t ∈ xs, ∀ e, floated convert (timer t.val.metrics.timers) = .error e →
      e = .missing := by
    intro t _ e he
    obtain ⟨w, hw, _⟩ := hok t
    rw [hw] at he
    cases he
  unfold optionalTimed
  rcases mapM_perm hf h with ⟨us, vs, hus, hvs, hp⟩ | ⟨he, he'⟩
  · rw [hus, hvs]
    apply optionalConfidence_perm _ hp
    intro v hv
    obtain ⟨t, _, ht⟩ := forall₂_right ((mapM_returns_iff _ _ _).mp hus) hv
    obtain ⟨w, hw, hm⟩ := hok t
    rw [hw] at ht
    cases ht
    exact hm
  · rw [he, he']

theorem optionalError_perm {error : ErrorValues → JsonValue} (hl : ∀ v, error v ∈ v.values)
    {xs ys : List (BenchmarkTrial convert)} (h : xs.Perm ys) :
    optionalError error xs = optionalError error ys := by
  apply optionalConfidence_perm _ (h.map _)
  intro v hv
  obtain ⟨t, _, rfl⟩ := List.mem_map.mp hv
  exact (metrics_measured (trial_metricsAccepted t)).2 _ (hl _)

structure BenchmarkArmSummary where
  arm : BenchmarkArm
  trialCount : ℕ
  correctnessPassed : Bool
  reusableDocumentsRequested : ConfidenceInterval
  reusableDocumentsHit : ConfidenceInterval
  reusableDocumentTokensRequested : ConfidenceInterval
  kvTokensFound : ConfidenceInterval
  kvTokensLoaded : ConfidenceInterval
  kvTokensRejected : ConfidenceInterval
  documentHitFraction : ConfidenceInterval
  candidateTokenHitFraction : ConfidenceInterval
  loadedTokenHitFraction : ConfidenceInterval
  lookupLatencySeconds : ConfidenceInterval
  transferLatencySeconds : ConfidenceInterval
  positionCorrectionLatencySeconds : ConfidenceInterval
  selectiveRecomputationLatencySeconds : ConfidenceInterval
  storeLatencySeconds : ConfidenceInterval
  ttftSeconds : Option ConfidenceInterval
  queueLatencySeconds : Option ConfidenceInterval
  decodeLatencySeconds : Option ConfidenceInterval
  prefillLatencySeconds : ConfidenceInterval
  endToEndLatencySeconds : Option ConfidenceInterval
  recomputedTokens : ConfidenceInterval
  prefillTokensAvoided : ConfidenceInterval
  savedPrefillFraction : ConfidenceInterval
  maxAbsLogitError : Option ConfidenceInterval
  meanAbsLogitError : Option ConfidenceInterval
  peakMemoryBytes : ConfidenceInterval
  stagingOverheadBytes : ConfidenceInterval
  failureCount : ℕ
  failureCodes : List BenchmarkFailureCode

/-- The summary of the trials of one arm, in the order of the source. -/
noncomputable def summarizeArm (arm : BenchmarkArm) (trials : List (BenchmarkTrial convert)) :
    Except BenchmarkFault BenchmarkArmSummary := do
  let reusableDocumentsRequested ← summarized (counted (·.reusableDocumentsRequested)) trials
  let reusableDocumentsHit ← summarized (counted (·.reusableDocumentsHit)) trials
  let reusableDocumentTokensRequested ←
    summarized (counted (·.reusableDocumentTokensRequested)) trials
  let kvTokensFound ← summarized (counted (·.kvTokensFound)) trials
  let kvTokensLoaded ← summarized (counted (·.kvTokensLoaded)) trials
  let kvTokensRejected ← summarized (counted (·.kvTokensRejected)) trials
  let documentHitFraction ←
    summarized (proportion (·.reusableDocumentsHit) (·.reusableDocumentsRequested)) trials
  let candidateTokenHitFraction ←
    summarized (proportion (·.kvTokensFound) (·.reusableDocumentTokensRequested)) trials
  let loadedTokenHitFraction ←
    summarized (proportion (·.kvTokensLoaded) (·.reusableDocumentTokensRequested)) trials
  let lookupLatencySeconds ← summarized (timed (·.lookupLatencySeconds)) trials
  let transferLatencySeconds ← summarized (timed (·.transferLatencySeconds)) trials
  let positionCorrectionLatencySeconds ←
    summarized (timed (·.positionCorrectionLatencySeconds)) trials
  let selectiveRecomputationLatencySeconds ←
    summarized (timed (·.selectiveRecomputationLatencySeconds)) trials
  let storeLatencySeconds ← summarized (timed (·.storeLatencySeconds)) trials
  let ttftSeconds ← optionalTimed (·.ttftSeconds) trials
  let queueLatencySeconds ← optionalTimed (·.queueLatencySeconds) trials
  let decodeLatencySeconds ← optionalTimed (·.decodeLatencySeconds) trials
  let prefillLatencySeconds ← summarized (timed (·.prefillLatencySeconds)) trials
  let endToEndLatencySeconds ← optionalTimed (·.endToEndLatencySeconds) trials
  let recomputedTokens ← summarized (counted (·.tokensRecomputed)) trials
  let prefillTokensAvoided ← summarized (counted (·.prefillTokensAvoided)) trials
  let savedPrefillFraction ←
    summarized (proportion (·.prefillTokensAvoided) (·.promptTokens)) trials
  let maxAbsLogitError ← optionalError (·.maxAbsLogitError) trials
  let meanAbsLogitError ← optionalError (·.meanAbsLogitError) trials
  let peakMemoryBytes ← summarized (sized (·.peakMemoryBytes)) trials
  let stagingOverheadBytes ← summarized (sized (·.stagingOverheadBytes)) trials
  .ok {
    arm, trialCount := trials.length
    correctnessPassed := trials.all fun t => t.val.passed
    reusableDocumentsRequested, reusableDocumentsHit, reusableDocumentTokensRequested
    kvTokensFound, kvTokensLoaded, kvTokensRejected
    documentHitFraction, candidateTokenHitFraction, loadedTokenHitFraction
    lookupLatencySeconds, transferLatencySeconds, positionCorrectionLatencySeconds
    selectiveRecomputationLatencySeconds, storeLatencySeconds
    ttftSeconds, queueLatencySeconds, decodeLatencySeconds
    prefillLatencySeconds, endToEndLatencySeconds
    recomputedTokens, prefillTokensAvoided, savedPrefillFraction
    maxAbsLogitError, meanAbsLogitError, peakMemoryBytes, stagingOverheadBytes
    failureCount := trials.countP fun t => t.val.failure.isSome
    failureCodes := BenchmarkFailureCode.all.filter fun failure =>
      trials.any fun t => t.val.failure = some failure }

theorem any_perm {α : Type} {p : α → Bool} {xs ys : List α} (h : xs.Perm ys) :
    xs.any p = ys.any p := by
  rw [Bool.eq_iff_iff, List.any_eq_true, List.any_eq_true]
  simp only [h.mem_iff]

theorem all_perm {α : Type} {p : α → Bool} {xs ys : List α} (h : xs.Perm ys) :
    xs.all p = ys.all p := by
  rw [Bool.eq_iff_iff, List.all_eq_true, List.all_eq_true]
  simp only [h.mem_iff]

theorem summarizeArm_perm (arm : BenchmarkArm) {xs ys : List (BenchmarkTrial convert)}
    (h : xs.Perm ys) : summarizeArm arm xs = summarizeArm arm ys := by
  have htimed : ∀ timer : TimerValues → JsonValue, (∀ v, timer v ∈ v.values) →
      summarized (timed timer) xs = summarized (timed timer) ys := fun _ hl => timed_perm hl h
  have hoptional : ∀ timer : TimerValues → JsonValue, (∀ v, timer v ∈ v.values) →
      optionalTimed timer xs = optionalTimed timer ys := fun _ hl => optionalTimed_perm hl h
  have herror : ∀ error : ErrorValues → JsonValue, (∀ v, error v ∈ v.values) →
      optionalError error xs = optionalError error ys := fun _ hl => optionalError_perm hl h
  unfold summarizeArm
  simp only [counted_perm _ h, proportion_perm _ _ h, sized_perm _ h, h.length_eq, h.countP_eq,
    any_perm h, all_perm h]
  rw [htimed (·.lookupLatencySeconds) (by simp [TimerValues.values]),
    htimed (·.transferLatencySeconds) (by simp [TimerValues.values]),
    htimed (·.positionCorrectionLatencySeconds) (by simp [TimerValues.values]),
    htimed (·.selectiveRecomputationLatencySeconds) (by simp [TimerValues.values]),
    htimed (·.storeLatencySeconds) (by simp [TimerValues.values]),
    htimed (·.prefillLatencySeconds) (by simp [TimerValues.values]),
    hoptional (·.ttftSeconds) (by simp [TimerValues.values]),
    hoptional (·.queueLatencySeconds) (by simp [TimerValues.values]),
    hoptional (·.decodeLatencySeconds) (by simp [TimerValues.values]),
    hoptional (·.endToEndLatencySeconds) (by simp [TimerValues.values]),
    herror (·.maxAbsLogitError) (by simp [ErrorValues.values]),
    herror (·.meanAbsLogitError) (by simp [ErrorValues.values])]

/-! ## The report of an artifact -/

def arms (trials : List (BenchmarkTrial convert)) : List BenchmarkArm :=
  BenchmarkArm.all.filter fun arm => trials.any fun t => t.val.arm = arm

def missingRequiredArms (trials : List (BenchmarkTrial convert)) : List BenchmarkArm :=
  [.fullPrefill, .cacheblend100pct].filter fun arm => arm ∉ arms trials

def completeLatency (t : BenchmarkTrial convert) : Bool :=
  let timers := t.val.metrics.timers
  [timers.ttftSeconds, timers.queueLatencySeconds, timers.prefillLatencySeconds,
    timers.decodeLatencySeconds, timers.endToEndLatencySeconds].all fun v => !v.isNull

def benchmarkReady (trials : List (BenchmarkTrial convert)) : Bool :=
  missingRequiredArms trials = [] && trials.all fun t => t.val.passed && completeLatency t

noncomputable def summarizeBenchmark (trials : List (BenchmarkTrial convert)) :
    Except BenchmarkFault (List BenchmarkArmSummary) :=
  (arms trials).mapM fun arm => summarizeArm arm (trials.filter fun t => t.val.arm = arm)

theorem arms_perm {xs ys : List (BenchmarkTrial convert)} (h : xs.Perm ys) :
    arms xs = arms ys := by
  unfold arms
  simp only [any_perm h]

theorem missingRequiredArms_perm {xs ys : List (BenchmarkTrial convert)} (h : xs.Perm ys) :
    missingRequiredArms xs = missingRequiredArms ys := by
  unfold missingRequiredArms
  rw [arms_perm h]

theorem benchmarkReady_perm {xs ys : List (BenchmarkTrial convert)} (h : xs.Perm ys) :
    benchmarkReady xs = benchmarkReady ys := by
  unfold benchmarkReady
  rw [missingRequiredArms_perm h, all_perm h]

theorem summarizeBenchmark_perm {xs ys : List (BenchmarkTrial convert)} (h : xs.Perm ys) :
    summarizeBenchmark xs = summarizeBenchmark ys := by
  unfold summarizeBenchmark
  rw [arms_perm h]
  congr 1
  ext arm
  exact summarizeArm_perm arm (h.filter _)

end

end CacheBlend.BenchmarkSummaries
