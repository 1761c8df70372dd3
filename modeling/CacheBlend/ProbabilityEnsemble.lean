import CacheBlend.CorrectnessCodec
import CacheBlend.ProbabilityViews

/-!
# The probability gate

Five controls are compared with each other, and the greatest of each metric
over the ten pairs is its envelope. A candidate is compared with every control.
It passes exactly when the controls are stable, all tokens agree and its
greatest metrics stay within the envelopes and within fixed ceilings. The order
of the controls moves only the digests and the comparisons.
-/

set_option autoImplicit false

namespace CacheBlend.ProbabilityEnsemble
noncomputable section
open CacheBlend.JsonValues CacheBlend.CorrectnessModels CacheBlend.CorrectnessCodec
open CacheBlend.StoreReceipts CacheBlend.ProbabilityViews
open CacheBlend.TransferRuntime (lowerHex)

def probabilityEnsemblePolicyVersion : String := "cacheblend-gpt-oss-probability-mass-v1"
def probabilityBaselineCount : ℕ := 5
def probabilityPairCount : ℕ := 10
def hardFullMeanAbsLogprobCeiling : ℝ := 0.014
def hardTotalVariationCeiling : ℝ := 0.02
def hardJensenShannonCeiling : ℝ := 0.001
def hardHighMassMaxAbsLogprobCeiling : ℝ := 0.08

inductive ProbabilityEnsembleStatus where
  | pass
  | fail
  | indeterminateBaselineUnstable
  deriving DecidableEq

/-- `_digest`. -/
def requireDigestText (name value : String) : Except String Unit :=
  require (value.toList.length = 64 ∧ value.toList.all lowerHex = true)
    ("invalid probability ensemble " ++ name)

/-- `_reasons`. -/
def requireReasons (reasons : List String) : Except String Unit :=
  require (∀ r ∈ reasons, r ≠ "") "invalid probability ensemble failure reasons"

/-! ## The records -/

structure BaselineComparisonFields where
  leftIndex : ℕ
  rightIndex : ℕ
  leftArtifactDigest : String
  rightArtifactDigest : String
  metrics : ProbabilityMetrics

def checkBaselineComparison (f : BaselineComparisonFields) : Except String Unit := do
  require (f.leftIndex < f.rightIndex ∧ f.rightIndex < probabilityBaselineCount)
    "invalid probability baseline pair indices"
  requireDigestText "left artifact digest" f.leftArtifactDigest
  requireDigestText "right artifact digest" f.rightArtifactDigest

abbrev ProbabilityBaselineComparison : Type := Checked checkBaselineComparison

structure CandidateComparisonFields where
  baselineIndex : ℕ
  baselineArtifactDigest : String
  metrics : ProbabilityMetrics

def checkCandidateComparison (f : CandidateComparisonFields) : Except String Unit := do
  require (f.baselineIndex < probabilityBaselineCount)
    "invalid probability candidate baseline index"
  requireDigestText "baseline artifact digest" f.baselineArtifactDigest

abbrev ProbabilityCandidateComparison : Type := Checked checkCandidateComparison

structure ManifestFields where
  policyVersion : String
  artifactDigests : List String
  excludedCandidateArtifactDigests : List String
  tailEpsilon : ℝ
  hardFullMeanAbsLogprobCeiling : ℝ
  hardTotalVariationCeiling : ℝ
  hardJensenShannonCeiling : ℝ
  hardHighMassMaxAbsLogprobCeiling : ℝ
  uFullMeanAbsLogprob : ℝ
  uTotalVariation : ℝ
  uJensenShannonDivergence : ℝ
  uHighMassMaxAbsLogprob : ℝ
  diagnosticUStrictFullMaxAbsLogprob : ℝ
  baselineStatus : ProbabilityEnsembleStatus
  baselineFailureReasons : List String

def requireFixed (name : String) (observed expected : ℝ) : Except String Unit := do
  finiteNonnegative name observed
  require (observed = expected) ("probability manifest changed fixed " ++ name)

def checkManifest (f : ManifestFields) : Except String Unit := do
  require (f.policyVersion = probabilityEnsemblePolicyVersion)
    "unsupported probability ensemble policy"
  require (f.artifactDigests.length = probabilityBaselineCount)
    "probability manifest must contain five digests"
  f.artifactDigests.forM (requireDigestText "artifact digest")
  require (f.artifactDigests.dedup.length = probabilityBaselineCount)
    "probability manifest requires unique digests"
  require (f.excludedCandidateArtifactDigests.length = 1)
    "probability manifest must exclude one pilot candidate"
  f.excludedCandidateArtifactDigests.forM (requireDigestText "excluded candidate digest")
  require (∀ d ∈ f.excludedCandidateArtifactDigests, d ∉ f.artifactDigests)
    "excluded candidate digest is a baseline digest"
  requireFixed "tail epsilon" f.tailEpsilon probabilityTailEpsilon
  requireFixed "hard full-mean ceiling" f.hardFullMeanAbsLogprobCeiling
    ProbabilityEnsemble.hardFullMeanAbsLogprobCeiling
  requireFixed "hard total-variation ceiling" f.hardTotalVariationCeiling
    ProbabilityEnsemble.hardTotalVariationCeiling
  requireFixed "hard Jensen-Shannon ceiling" f.hardJensenShannonCeiling
    ProbabilityEnsemble.hardJensenShannonCeiling
  requireFixed "hard high-mass ceiling" f.hardHighMassMaxAbsLogprobCeiling
    ProbabilityEnsemble.hardHighMassMaxAbsLogprobCeiling
  finiteNonnegative "u_full_mean_abs_logprob" f.uFullMeanAbsLogprob
  finiteNonnegative "u_total_variation" f.uTotalVariation
  finiteNonnegative "u_jensen_shannon_divergence" f.uJensenShannonDivergence
  finiteNonnegative "u_high_mass_max_abs_logprob" f.uHighMassMaxAbsLogprob
  finiteNonnegative "diagnostic_u_strict_full_max_abs_logprob"
    f.diagnosticUStrictFullMaxAbsLogprob
  requireReasons f.baselineFailureReasons
  require (f.baselineStatus ≠ .fail) "FAIL is not a probability baseline status"
  require (f.baselineStatus = .pass ↔ f.baselineFailureReasons = [])
    "probability baseline status and reasons disagree"
  require (f.baselineStatus = .pass →
      f.uFullMeanAbsLogprob ≤ ProbabilityEnsemble.hardFullMeanAbsLogprobCeiling ∧
      f.uTotalVariation ≤ ProbabilityEnsemble.hardTotalVariationCeiling ∧
      f.uJensenShannonDivergence ≤ ProbabilityEnsemble.hardJensenShannonCeiling ∧
      f.uHighMassMaxAbsLogprob ≤ ProbabilityEnsemble.hardHighMassMaxAbsLogprobCeiling)
    "stable probability baseline exceeds a hard ceiling"

abbrev ProbabilityBaselineManifest : Type := Checked checkManifest

structure VerdictFields where
  status : ProbabilityEnsembleStatus
  candidateArtifactDigest : String
  manifestDigest : String
  comparisons : List ProbabilityCandidateComparison
  qFullMeanAbsLogprob : ℝ
  qTotalVariation : ℝ
  qJensenShannonDivergence : ℝ
  qHighMassMaxAbsLogprob : ℝ
  diagnosticQStrictFullMaxAbsLogprob : ℝ
  uFullMeanAbsLogprob : ℝ
  uTotalVariation : ℝ
  uJensenShannonDivergence : ℝ
  uHighMassMaxAbsLogprob : ℝ
  failureReasons : List String

def checkVerdict (f : VerdictFields) : Except String Unit := do
  requireDigestText "candidate artifact digest" f.candidateArtifactDigest
  requireDigestText "manifest digest" f.manifestDigest
  require (f.comparisons.length = probabilityBaselineCount)
    "candidate must be compared with five baselines"
  require ((f.comparisons.map fun c => c.val.baselineIndex).toFinset =
      Finset.range probabilityBaselineCount)
    "probability candidate baseline coverage is incomplete"
  finiteNonnegative "q_full_mean_abs_logprob" f.qFullMeanAbsLogprob
  finiteNonnegative "q_total_variation" f.qTotalVariation
  finiteNonnegative "q_jensen_shannon_divergence" f.qJensenShannonDivergence
  finiteNonnegative "q_high_mass_max_abs_logprob" f.qHighMassMaxAbsLogprob
  finiteNonnegative "diagnostic_q_strict_full_max_abs_logprob"
    f.diagnosticQStrictFullMaxAbsLogprob
  finiteNonnegative "u_full_mean_abs_logprob" f.uFullMeanAbsLogprob
  finiteNonnegative "u_total_variation" f.uTotalVariation
  finiteNonnegative "u_jensen_shannon_divergence" f.uJensenShannonDivergence
  finiteNonnegative "u_high_mass_max_abs_logprob" f.uHighMassMaxAbsLogprob
  requireReasons f.failureReasons
  require (f.status = .pass ↔ f.failureReasons = [])
    "probability candidate status and reasons disagree"

abbrev ProbabilityCandidateVerdict : Type := Checked checkVerdict

/-! ## Pairs and maxima -/

/-- `itertools.combinations(items, 2)`. -/
def pairs {α : Type} : List α → List (α × α)
  | [] => []
  | a::rest => rest.map (fun b => (a, b)) ++ pairs rest

/-- The greatest metrics of a sequence of comparisons. -/
structure Maxima where
  fullMean : ℝ
  totalVariation : ℝ
  jensenShannon : ℝ
  highMass : ℝ
  strictFullMax : ℝ

def maxima (ms : List ProbabilityMetrics) : Except String Maxima := do
  let fullMean ← maximum (ms.map fun m => m.val.fullMeanAbsLogprob)
  let variation ← maximum (ms.map fun m => m.val.totalVariation)
  let js ← maximum (ms.map fun m => m.val.jensenShannonDivergence)
  let highMass ← maximum (ms.map fun m => m.val.highMassMaxAbsLogprob)
  let strict ← maximum (ms.map fun m => m.val.strictFullMaxAbsLogprob)
  return ⟨fullMean, variation, js, highMass, strict⟩

def reason (failed : Prop) [Decidable failed] (text : String) : List String :=
  if failed then [text] else []

/-- `_baseline_failure_reasons`. -/
def baselineFailureReasons (ms : List ProbabilityMetrics) (u : Maxima) : List String :=
  reason (u.fullMean > hardFullMeanAbsLogprobCeiling) "baseline_full_mean_exceeds_hard_ceiling" ++
  reason (u.totalVariation > hardTotalVariationCeiling)
    "baseline_total_variation_exceeds_hard_ceiling" ++
  reason (u.jensenShannon > hardJensenShannonCeiling)
    "baseline_jensen_shannon_exceeds_hard_ceiling" ++
  reason (u.highMass > hardHighMassMaxAbsLogprobCeiling)
    "baseline_high_mass_max_exceeds_hard_ceiling" ++
  reason (∃ m ∈ ms, m.val.sampledTokenAgreement = false) "baseline_sampled_token_mismatch" ++
  reason (∃ m ∈ ms, m.val.topTokenAgreement = false) "baseline_top_token_mismatch"

def candidateFailureReasons (baseline : ProbabilityEnsembleStatus) (ms : List ProbabilityMetrics)
    (q : Maxima) (manifest : ManifestFields) : List String :=
  reason (baseline ≠ .pass) "baseline_unstable" ++
  reason (∃ m ∈ ms, m.val.sampledTokenAgreement = false) "candidate_sampled_token_mismatch" ++
  reason (∃ m ∈ ms, m.val.topTokenAgreement = false) "candidate_top_token_mismatch" ++
  reason (q.fullMean > manifest.uFullMeanAbsLogprob)
    "candidate_full_mean_exceeds_empirical_envelope" ++
  reason (q.totalVariation > manifest.uTotalVariation)
    "candidate_total_variation_exceeds_empirical_envelope" ++
  reason (q.jensenShannon > manifest.uJensenShannonDivergence)
    "candidate_jensen_shannon_exceeds_empirical_envelope" ++
  reason (q.highMass > manifest.uHighMassMaxAbsLogprob)
    "candidate_high_mass_max_exceeds_empirical_envelope" ++
  reason (q.fullMean > hardFullMeanAbsLogprobCeiling) "candidate_full_mean_exceeds_hard_ceiling" ++
  reason (q.totalVariation > hardTotalVariationCeiling)
    "candidate_total_variation_exceeds_hard_ceiling" ++
  reason (q.jensenShannon > hardJensenShannonCeiling)
    "candidate_jensen_shannon_exceeds_hard_ceiling" ++
  reason (q.highMass > hardHighMassMaxAbsLogprobCeiling)
    "candidate_high_mass_max_exceeds_hard_ceiling"

def manifestFields (digests excludedDigests : List String) (ms : List ProbabilityMetrics)
    (u : Maxima) : ManifestFields :=
  let reasons := baselineFailureReasons ms u
  { policyVersion := probabilityEnsemblePolicyVersion
    artifactDigests := digests
    excludedCandidateArtifactDigests := excludedDigests
    tailEpsilon := probabilityTailEpsilon
    hardFullMeanAbsLogprobCeiling := hardFullMeanAbsLogprobCeiling
    hardTotalVariationCeiling := hardTotalVariationCeiling
    hardJensenShannonCeiling := hardJensenShannonCeiling
    hardHighMassMaxAbsLogprobCeiling := hardHighMassMaxAbsLogprobCeiling
    uFullMeanAbsLogprob := u.fullMean
    uTotalVariation := u.totalVariation
    uJensenShannonDivergence := u.jensenShannon
    uHighMassMaxAbsLogprob := u.highMass
    diagnosticUStrictFullMaxAbsLogprob := u.strictFullMax
    baselineStatus := if reasons = [] then .pass else .indeterminateBaselineUnstable
    baselineFailureReasons := reasons }

def verdictFields (manifest : ManifestFields) (candidateDigest manifestDigest : String)
    (comparisons : List ProbabilityCandidateComparison) (q : Maxima) : VerdictFields :=
  let reasons := candidateFailureReasons manifest.baselineStatus
    (comparisons.map fun c => c.val.metrics) q manifest
  { status :=
      if manifest.baselineStatus ≠ .pass then .indeterminateBaselineUnstable
      else if reasons = [] then .pass else .fail
    candidateArtifactDigest := candidateDigest
    manifestDigest := manifestDigest
    comparisons := comparisons
    qFullMeanAbsLogprob := q.fullMean
    qTotalVariation := q.totalVariation
    qJensenShannonDivergence := q.jensenShannon
    qHighMassMaxAbsLogprob := q.highMass
    diagnosticQStrictFullMaxAbsLogprob := q.strictFullMax
    uFullMeanAbsLogprob := manifest.uFullMeanAbsLogprob
    uTotalVariation := manifest.uTotalVariation
    uJensenShannonDivergence := manifest.uJensenShannonDivergence
    uHighMassMaxAbsLogprob := manifest.uHighMassMaxAbsLogprob
    failureReasons := reasons }

/-! ## The ensemble -/

section
variable (sha256 : Bytes → Digest) (jsonDumps : JsonValue → Bytes)

/-- `artifact_digest`. -/
def artifactDigest (a : CorrectnessArtifact) : String :=
  hex (sha256 (jsonDumps (artifactToDict a))).val

structure EnsembleFields where
  baselines : List CorrectnessArtifact
  comparisons : List ProbabilityBaselineComparison
  manifest : ProbabilityBaselineManifest

def checkEnsemble (f : EnsembleFields) : Except String Unit := do
  require (f.baselines.length = probabilityBaselineCount)
    "probability ensemble must contain five baselines"
  require (f.comparisons.length = probabilityPairCount)
    "probability ensemble must contain ten comparisons"
  require (f.baselines.map (artifactDigest sha256 jsonDumps) = f.manifest.val.artifactDigests)
    "probability manifest does not bind its baselines"
  require ((f.comparisons.map fun c => (c.val.leftIndex, c.val.rightIndex)).toFinset =
      (pairs (List.range probabilityBaselineCount)).toFinset)
    "probability ensemble pair coverage is incomplete"

abbrev ProbabilityBaselineEnsemble : Type := Checked (checkEnsemble sha256 jsonDumps)

def SameIdentity (a b : CorrectnessArtifact) : Prop :=
  a.val.runtime = b.val.runtime ∧ a.val.prompt = b.val.prompt

open Classical in
/-- `_require_compatible_baselines`. -/
def requireCompatibleBaselines (baselines : List CorrectnessArtifact) : Except String Unit := do
  require (baselines.length = probabilityBaselineCount)
    "exactly five probability baselines are required"
  require (∀ b ∈ baselines, b.val.runMode = .fullPrefill)
    "probability baselines must be FULL_PREFILL artifacts"
  require (∀ first ∈ baselines.head?, ∀ b ∈ baselines.tail, SameIdentity b first)
    "probability baselines have incompatible identities"

/-- A baseline with its place, its digest and its view. -/
structure Control where
  index : ℕ
  digest : String
  distribution : LogprobFields
  view : DistributionView

def controlOf (entry : CorrectnessArtifact × ℕ) : Except String Control := do
  let w ← view entry.1.val.distribution.val
  return ⟨entry.2, artifactDigest sha256 jsonDumps entry.1, entry.1.val.distribution.val, w⟩

def controls (baselines : List CorrectnessArtifact) : Except String (List Control) :=
  baselines.zipIdx.mapM (controlOf sha256 jsonDumps)

def compareControls (pair : Control × Control) : Except String ProbabilityBaselineComparison := do
  let m ← compareViews pair.1.distribution pair.2.distribution pair.1.view pair.2.view
  construct checkBaselineComparison
    ⟨pair.1.index, pair.2.index, pair.1.digest, pair.2.digest, m⟩

open Classical in
def buildProbabilityBaselineEnsemble (baselines excludedCandidates : List CorrectnessArtifact) :
    Except String (ProbabilityBaselineEnsemble sha256 jsonDumps) := do
  requireCompatibleBaselines baselines
  let digests := baselines.map (artifactDigest sha256 jsonDumps)
  require (digests.dedup.length = probabilityBaselineCount)
    "probability baselines must have unique digests"
  require (excludedCandidates.length = 1)
    "exactly one strict-v1 pilot candidate must be excluded"
  require (∀ pilot ∈ excludedCandidates, pilot.val.runMode = .cacheblend100pct ∧
      ∀ first ∈ baselines.head?, SameIdentity pilot first)
    "excluded pilot candidate has an incompatible identity"
  let excludedDigests := excludedCandidates.map (artifactDigest sha256 jsonDumps)
  require (∀ d ∈ excludedDigests, d ∉ digests) "excluded pilot candidate is a baseline"
  let cs ← controls sha256 jsonDumps baselines
  let comparisons ← (pairs cs).mapM compareControls
  let metrics := comparisons.map fun c => c.val.metrics
  let u ← maxima metrics
  let manifest ← construct checkManifest (manifestFields digests excludedDigests metrics u)
  construct (checkEnsemble sha256 jsonDumps) ⟨baselines, comparisons, manifest⟩

/-! ## The candidate -/

def compareCandidate (candidate : LogprobFields) (candidateView : DistributionView)
    (c : Control) : Except String ProbabilityCandidateComparison := do
  let m ← compareViews candidate c.distribution candidateView c.view
  construct checkCandidateComparison ⟨c.index, c.digest, m⟩

variable (canonicalManifestBytes : ProbabilityBaselineManifest → Bytes)

/-- `manifest_digest`. -/
def manifestDigest (manifest : ProbabilityBaselineManifest) : String :=
  hex (sha256 (canonicalManifestBytes manifest)).val

open Classical in
def evaluateProbabilityCandidate (ensemble : ProbabilityBaselineEnsemble sha256 jsonDumps)
    (candidate : CorrectnessArtifact) : Except String ProbabilityCandidateVerdict := do
  let manifest := ensemble.val.manifest
  require (candidate.val.runMode = .cacheblend100pct)
    "candidate must be a CACHEBLEND_100PCT artifact"
  require (∀ reference ∈ ensemble.val.baselines.head?, SameIdentity candidate reference)
    "candidate has an incompatible probability identity"
  require (artifactDigest sha256 jsonDumps candidate ∉
      manifest.val.excludedCandidateArtifactDigests)
    "strict-v1 pilot candidate is ineligible for prospective v2"
  let candidateView ← view candidate.val.distribution.val
  let cs ← controls sha256 jsonDumps ensemble.val.baselines
  let comparisons ← cs.mapM (compareCandidate candidate.val.distribution.val candidateView)
  let q ← maxima (comparisons.map fun c => c.val.metrics)
  construct checkVerdict (verdictFields manifest.val
    (artifactDigest sha256 jsonDumps candidate)
    (manifestDigest sha256 canonicalManifestBytes manifest) comparisons q)

end

end
end CacheBlend.ProbabilityEnsemble
