import CacheBlend.RequestTransitions
import Mathlib.Algebra.Order.Field.Rat

/-!
# Request metrics

The counters of a request with the rules that reconcile them. A validated
lifecycle state derives its counters from the plan and the worker receipt. The
loaded tokens are a sum over matches and the found tokens a union of ranges.
-/

set_option autoImplicit false

namespace CacheBlend.MetricCounters
open CacheBlend.PlannerModels CacheBlend.RequestLifecycle

inductive MetricField where
  | promptTokens
  | reusableDocumentsRequested
  | reusableDocumentsHit
  | reusableDocumentTokensRequested
  | kvTokensFound
  | kvTokensLoaded
  | kvTokensRejected
  | tokensRecomputed
  | prefillTokensAvoided
  | lookupLatencySeconds
  | transferLatencySeconds
  | positionCorrectionLatencySeconds
  | selectiveRecomputationLatencySeconds
  | ttftSeconds
  | prefillLatencySeconds
  | storeLatencySeconds
  | queueLatencySeconds
  | decodeLatencySeconds
  | endToEndLatencySeconds
  | maxAbsLogitError
  | meanAbsLogitError
  deriving DecidableEq

inductive MetricInvariantCode where
  | negativeCounter
  | nonfiniteOrNegativeTimer
  | nonfiniteOrNegativeError
  | documentHitsExceedRequests
  | reusableTokensExceedPrompt
  | foundTokensExceedRequested
  | loadedTokensExceedFound
  | rejectedTokenReconciliationFailed
  | recomputedTokensExceedPrompt
  | savedTokensExceedPrompt
  | savedTokenReconciliationFailed
  | fullRecomputeReportedSavings
  deriving DecidableEq

structure RequestMetricCounters where
  promptTokens : ℤ
  reusableDocumentsRequested : ℤ
  reusableDocumentsHit : ℤ
  reusableDocumentTokensRequested : ℤ
  kvTokensFound : ℤ
  kvTokensLoaded : ℤ
  kvTokensRejected : ℤ
  tokensRecomputed : ℤ
  prefillTokensAvoided : ℤ
  deriving DecidableEq

def RequestMetricCounters.isFullRecomputation (c : RequestMetricCounters) : Bool :=
  c.tokensRecomputed = c.promptTokens

/-- A measured number, of which only finiteness and sign are checked. -/
inductive Measurement where
  | finite (value : ℚ)
  | notFinite
  deriving DecidableEq

def Measurement.Invalid : Measurement → Prop
  | finite value => value < 0
  | notFinite => True

instance : DecidablePred Measurement.Invalid := fun m =>
  match m with
  | .finite value => inferInstanceAs (Decidable (value < 0))
  | .notFinite => inferInstanceAs (Decidable True)

structure RequestMetricTimers where
  lookupLatencySeconds : Measurement
  transferLatencySeconds : Measurement
  positionCorrectionLatencySeconds : Measurement
  selectiveRecomputationLatencySeconds : Measurement
  ttftSeconds : Option Measurement
  prefillLatencySeconds : Measurement
  storeLatencySeconds : Measurement := .finite 0
  queueLatencySeconds : Option Measurement := none
  decodeLatencySeconds : Option Measurement := none
  endToEndLatencySeconds : Option Measurement := none

structure RequestCorrectnessMetrics where
  maxAbsLogitError : Option Measurement := none
  meanAbsLogitError : Option Measurement := none

structure RequestMetrics where
  counters : RequestMetricCounters
  timers : RequestMetricTimers
  correctness : RequestCorrectnessMetrics := {}

structure MetricInvariantIssue where
  code : MetricInvariantCode
  field : Option MetricField := none
  deriving DecidableEq

def counterFields (c : RequestMetricCounters) : List (MetricField × ℤ) :=
  [(.promptTokens, c.promptTokens),
    (.reusableDocumentsRequested, c.reusableDocumentsRequested),
    (.reusableDocumentsHit, c.reusableDocumentsHit),
    (.reusableDocumentTokensRequested, c.reusableDocumentTokensRequested),
    (.kvTokensFound, c.kvTokensFound),
    (.kvTokensLoaded, c.kvTokensLoaded),
    (.kvTokensRejected, c.kvTokensRejected),
    (.tokensRecomputed, c.tokensRecomputed),
    (.prefillTokensAvoided, c.prefillTokensAvoided)]

def timerFields (t : RequestMetricTimers) : List (MetricField × Option Measurement) :=
  [(.lookupLatencySeconds, some t.lookupLatencySeconds),
    (.transferLatencySeconds, some t.transferLatencySeconds),
    (.positionCorrectionLatencySeconds, some t.positionCorrectionLatencySeconds),
    (.selectiveRecomputationLatencySeconds, some t.selectiveRecomputationLatencySeconds),
    (.ttftSeconds, t.ttftSeconds),
    (.prefillLatencySeconds, some t.prefillLatencySeconds),
    (.storeLatencySeconds, some t.storeLatencySeconds),
    (.queueLatencySeconds, t.queueLatencySeconds),
    (.decodeLatencySeconds, t.decodeLatencySeconds),
    (.endToEndLatencySeconds, t.endToEndLatencySeconds)]

def errorFields (c : RequestCorrectnessMetrics) : List (MetricField × Option Measurement) :=
  [(.maxAbsLogitError, c.maxAbsLogitError), (.meanAbsLogitError, c.meanAbsLogitError)]

def negativeIssues (fields : List (MetricField × ℤ)) : List MetricInvariantIssue :=
  (fields.filter (fun f => f.2 < 0)).map (fun f => ⟨.negativeCounter, some f.1⟩)

/-- The fields that are present and not a finite number of at least zero. -/
def measurementIssues (code : MetricInvariantCode)
    (fields : List (MetricField × Option Measurement)) : List MetricInvariantIssue :=
  (fields.filter (fun f => ∃ m ∈ f.2, m.Invalid)).map (fun f => ⟨code, some f.1⟩)

def issueIf (p : Prop) [Decidable p] (code : MetricInvariantCode)
    (field : Option MetricField) : List MetricInvariantIssue :=
  if p then [⟨code, field⟩] else []

/-- The rules between the counters, in the order in which they are checked. -/
def reconciliationIssues (c : RequestMetricCounters) : List MetricInvariantIssue :=
  issueIf (c.reusableDocumentsHit > c.reusableDocumentsRequested)
    .documentHitsExceedRequests (some .reusableDocumentsHit) ++
  issueIf (c.reusableDocumentTokensRequested > c.promptTokens)
    .reusableTokensExceedPrompt (some .reusableDocumentTokensRequested) ++
  issueIf (c.kvTokensFound > c.reusableDocumentTokensRequested)
    .foundTokensExceedRequested (some .kvTokensFound) ++
  issueIf (c.kvTokensLoaded > c.kvTokensFound)
    .loadedTokensExceedFound (some .kvTokensLoaded) ++
  issueIf (c.kvTokensFound ≠ c.kvTokensLoaded+c.kvTokensRejected)
    .rejectedTokenReconciliationFailed none ++
  issueIf (c.tokensRecomputed > c.promptTokens)
    .recomputedTokensExceedPrompt (some .tokensRecomputed) ++
  issueIf (c.prefillTokensAvoided > c.promptTokens)
    .savedTokensExceedPrompt (some .prefillTokensAvoided) ++
  issueIf (c.promptTokens-c.tokensRecomputed ≥ 0 ∧
      c.prefillTokensAvoided ≠ c.promptTokens-c.tokensRecomputed)
    .savedTokenReconciliationFailed (some .prefillTokensAvoided) ++
  issueIf (c.isFullRecomputation = true ∧ c.prefillTokensAvoided ≠ 0)
    .fullRecomputeReportedSavings (some .prefillTokensAvoided)

/-- `validate_request_metrics`. -/
def validateRequestMetrics (m : RequestMetrics) : List MetricInvariantIssue :=
  negativeIssues (counterFields m.counters) ++
  measurementIssues .nonfiniteOrNegativeTimer (timerFields m.timers) ++
  measurementIssues .nonfiniteOrNegativeError (errorFields m.correctness) ++
  reconciliationIssues m.counters

/-- The rules that `validate_request_metrics` checks of the counters. -/
structure Reconciled (c : RequestMetricCounters) : Prop where
  nonnegative : ∀ f ∈ counterFields c, 0 ≤ f.2
  hits : c.reusableDocumentsHit ≤ c.reusableDocumentsRequested
  requested : c.reusableDocumentTokensRequested ≤ c.promptTokens
  found : c.kvTokensFound ≤ c.reusableDocumentTokensRequested
  split : c.kvTokensFound = c.kvTokensLoaded+c.kvTokensRejected
  recomputed : c.tokensRecomputed = c.promptTokens
  avoided : c.prefillTokensAvoided = 0

theorem negativeIssues_nil {fields : List (MetricField × ℤ)} (h : ∀ f ∈ fields, 0 ≤ f.2) :
    negativeIssues fields = [] := by
  rw [negativeIssues, List.map_eq_nil_iff, List.filter_eq_nil_iff]
  exact fun f hf => by simpa using h f hf

theorem issueIf_nil {p : Prop} [Decidable p] (h : ¬p) (code : MetricInvariantCode)
    (field : Option MetricField) : issueIf p code field = [] := if_neg h

theorem reconciled_issues {c : RequestMetricCounters} (h : Reconciled c)
    (timers : RequestMetricTimers) (correctness : RequestCorrectnessMetrics) :
    validateRequestMetrics ⟨c, timers, correctness⟩ =
      measurementIssues .nonfiniteOrNegativeTimer (timerFields timers) ++
      measurementIssues .nonfiniteOrNegativeError (errorFields correctness) := by
  have hprompt : 0 ≤ c.promptTokens := h.nonnegative (.promptTokens, _) (by simp [counterFields])
  have hrejected : 0 ≤ c.kvTokensRejected :=
    h.nonnegative (.kvTokensRejected, _) (by simp [counterFields])
  have hrules : reconciliationIssues c = [] := by
    have hhits := h.hits
    have hrequested := h.requested
    have hfound := h.found
    have hsplit := h.split
    have hrecomputed := h.recomputed
    have havoided := h.avoided
    unfold reconciliationIssues
    rw [issueIf_nil (by omega), issueIf_nil (by omega), issueIf_nil (by omega),
      issueIf_nil (by omega), issueIf_nil (by omega), issueIf_nil (by omega),
      issueIf_nil (by omega), issueIf_nil (by omega), issueIf_nil (by omega)]
    rfl
  unfold validateRequestMetrics
  rw [negativeIssues_nil h.nonnegative, hrules, List.append_nil, List.nil_append]

/-! ## Counters of a lifecycle state -/

/-- What `derive_metric_counters` raises: an error of the control plane, or the
error of an index outside the matches. -/
inductive DeriveError where
  | code (c : ControlPlaneErrorCode)
  | indexError
  deriving DecidableEq

def matchSize (found : List VerifiedMatch) (index : ℕ) : Except DeriveError ℕ :=
  match found[index]? with
  | none => .error .indexError
  | some m => .ok m.targetSegment.size

/-- The targets of all candidates, those that the planner rejected included. -/
def candidateTargets (p : MatchPlan) : List TokenSegment :=
  p.verifiedMatches.map VerifiedMatch.targetSegment ++
    p.rejectedCandidates.map (fun r => r.candidate.targetSegment)

def documentHits (plan : RequestPlan) : ℕ :=
  plan.querySegments.countP
    (fun query => query ∈ plan.matchPlan.verifiedMatches.map VerifiedMatch.targetSegment)

def countersOf (plan : RequestPlan) (foundTokens loadedTokens : ℤ) : RequestMetricCounters where
  promptTokens := plan.promptTokens
  reusableDocumentsRequested := plan.querySegments.length
  reusableDocumentsHit := documentHits plan
  reusableDocumentTokensRequested := plan.matchPlan.requestedTokens
  kvTokensFound := foundTokens
  kvTokensLoaded := loadedTokens
  kvTokensRejected := foundTokens-loadedTokens
  tokensRecomputed := plan.promptTokens
  prefillTokensAvoided := 0

/-- `RequestLifecycleState.derive_metric_counters`. -/
def deriveMetricCounters (s : RequestLifecycleState) : Except DeriveError RequestMetricCounters :=
  match s.workerValidation with
  | none => .error (.code .lifecycleMisuse)
  | some receipt => do
    require (s.phase = .workerValidated ∨ s.phase = .finished) (.code .lifecycleMisuse)
    let loadedSizes ← receipt.loadedMatchIndexes.val.mapM
      (matchSize s.plan.matchPlan.verifiedMatches)
    let loadedTokens : ℤ := loadedSizes.sum
    let foundTokens : ℤ := coveredTokenCount
      ((candidateTargets s.plan.matchPlan).map TokenSegment.tokenRange)
    require (¬foundTokens-loadedTokens < 0) (.code .invalidWorkerResult)
    require (receipt.loadedMatchIndexes.val.length+receipt.rejectedMatchIndexes.val.length =
      s.plan.matchPlan.verifiedMatches.length) (.code .invalidWorkerResult)
    .ok (countersOf s.plan foundTokens loadedTokens)

end CacheBlend.MetricCounters
