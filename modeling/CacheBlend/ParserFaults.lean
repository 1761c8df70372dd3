import CacheBlend.BenchmarkCodec
import CacheBlend.SweepFaults
import CacheBlend.TransferConfig

/-!
# Faults that escape the parsers

Each parser of JSON has a family of errors of its own. A fault escapes the
family where a value outside the domain of a conversion is reached: an integer
that has no float, or a text with a surrogate that is encoded. Checks before
the conversion may refuse the data first.
-/

set_option autoImplicit false

namespace CacheBlend.ParserFaults
open CacheBlend.JsonValues CacheBlend.EscapingFaults

/-! ## Correctness artifacts -/

section
open CacheBlend.CorrectnessModels CacheBlend.CorrectnessCodec

def CorrectnessFamily (e : CorrectnessFault) : Prop := e ≠ .overflow

theorem value_own (text : String) : CorrectnessFamily (.value text) := nofun

theorem decodeLogprob_escapes_iff (v : JsonValue) :
    Escapes CorrectnessFamily (decodeLogprob nearest v) ↔ NoFloat v := by
  rw [← toFloat_noFloat_iff]
  unfold decodeLogprob
  split_ifs with ht
  · obtain rfl := (isText_iff _ _).mp ht
    exact iff_of_false (escapes_ok _ _) nofun
  · split
    · rename_i h
      rw [h]
      exact iff_of_false (fun he => (escapes_error _ _).mp he (value_own _)) nofun
    · rename_i h
      rw [h]
      exact iff_of_true ((escapes_error _ _).mpr fun hne => hne rfl) rfl
    · rename_i h
      rw [h]
      exact iff_of_false (escapes_ok _ _) nofun

theorem check_own (p : Prop) [Decidable p] (text : String) :
    ¬Escapes CorrectnessFamily (require p (.value text) : Except CorrectnessFault Unit) :=
  escapes_require _ _ (value_own _)

theorem checkRuntime_own (f : RuntimeFields) : ¬Escapes CorrectnessFamily (checkRuntime f) := by
  unfold checkRuntime requireText CorrectnessModels.requireDigest invalidField
  exact closed_bind _ (check_own _ _) fun _ => closed_bind _ (check_own _ _) fun _ =>
    closed_bind _ (check_own _ _) fun _ => closed_bind _ (check_own _ _) fun _ =>
    closed_bind _ (check_own _ _) fun _ => check_own _ _

theorem checkSegment_own (f : SegmentFields) : ¬Escapes CorrectnessFamily (checkSegment f) := by
  unfold checkSegment CorrectnessModels.requireDigest CorrectnessModels.requireCount invalidField
  exact closed_bind _ (check_own _ _) fun _ => closed_bind _ (check_own _ _) fun _ =>
    closed_bind _ (check_own _ _) fun _ => closed_bind _ (check_own _ _) fun _ => check_own _ _

theorem checkEvidence_own (f : EvidenceFields) :
    ¬Escapes CorrectnessFamily (checkEvidence f) := by
  unfold checkEvidence CorrectnessModels.requireCount invalidField
  exact closed_bind _ (check_own _ _) fun _ => closed_bind _ (check_own _ _) fun _ =>
    closed_bind _ (check_own _ _) fun _ => closed_bind _ (check_own _ _) fun _ =>
    closed_bind _ (check_own _ _) fun _ => closed_bind _ (check_own _ _) fun _ =>
    closed_bind _ (check_own _ _) fun _ => check_own _ _

theorem checkSources_own (sourceTokens targetTokens sourceEnd : ℤ)
    (segments : List ReusableSegmentIdentity) :
    ¬Escapes CorrectnessFamily (checkSources sourceTokens targetTokens sourceEnd segments) := by
  induction segments generalizing sourceEnd with
  | nil => exact escapes_ok _ _
  | cons s rest ih => exact closed_bind _ (check_own _ _) fun _ => ih _

theorem checkTargets_own (targetEnd : ℤ) (segments : List ReusableSegmentIdentity) :
    ¬Escapes CorrectnessFamily (checkTargets targetEnd segments) := by
  induction segments generalizing targetEnd with
  | nil => exact escapes_ok _ _
  | cons s rest ih => exact closed_bind _ (check_own _ _) fun _ => ih _

theorem validateSegments_own (f : PromptFields) :
    ¬Escapes CorrectnessFamily (validateSegments f) := by
  unfold validateSegments
  refine closed_bind _ (check_own _ _) fun _ => ?_
  by_cases hcase : f.case = .cacheMiss
  · rw [if_pos hcase]
    exact check_own _ _
  · rw [if_neg hcase]
    exact closed_bind _ (check_own _ _) fun _ => closed_bind _ (check_own _ _) fun _ =>
      closed_bind _ (checkSources_own _ _ _ _) fun _ =>
      closed_bind _ (checkTargets_own _ _) fun _ => closed_bind _ (check_own _ _) fun _ =>
      closed_bind _ (check_own _ _) fun _ => check_own _ _

theorem checkPrompt_own (f : PromptFields) : ¬Escapes CorrectnessFamily (checkPrompt f) := by
  unfold checkPrompt CorrectnessModels.requireDigest CorrectnessModels.requireCount invalidField
  exact closed_bind _ (check_own _ _) fun _ => closed_bind _ (check_own _ _) fun _ =>
    closed_bind _ (check_own _ _) fun _ => closed_bind _ (check_own _ _) fun _ =>
    validateSegments_own f

theorem checkLogprobs_own (f : LogprobFields) : ¬Escapes CorrectnessFamily (checkLogprobs f) := by
  unfold checkLogprobs
  exact closed_bind _ (check_own _ _) fun _ => closed_bind _ (check_own _ _) fun _ =>
    check_own _ _

theorem checkArtifact_own (f : ArtifactFields) :
    ¬Escapes CorrectnessFamily (checkArtifact f) := by
  unfold checkArtifact
  refine closed_bind _ (check_own _ _) fun _ => ?_
  split
  · exact escapes_ok _ _
  · exact fun h => (escapes_error _ _).mp h (value_own _)
  · exact fun h => (escapes_error _ _).mp h (value_own _)
  · exact check_own _ _

theorem construct_own {F : Type} {check : F → Except CorrectnessFault Unit}
    (h : ∀ f, ¬Escapes CorrectnessFamily (check f)) (f : F) :
    ¬Escapes CorrectnessFamily (construct check f) := by
  rw [escapes_construct]
  exact h f

theorem segmentFromDict_own (v : JsonValue) :
    ¬Escapes CorrectnessFamily (segmentFromDict v) :=
  closed_bind _ (escapes_exactMapping _ _ _ (value_own _)) fun _ =>
    construct_own checkSegment_own _

theorem connectorFromDict_own (v : JsonValue) :
    ¬Escapes CorrectnessFamily (connectorFromDict v) := by
  unfold connectorFromDict
  split
  · exact escapes_ok _ _
  · exact closed_bind _ (escapes_exactMapping _ _ _ (value_own _)) fun _ =>
      closed_bind _ (construct_own checkEvidence_own _) fun _ => escapes_ok _ _

theorem artifactParts_own (data : JsonValue) :
    ¬Escapes CorrectnessFamily (artifactParts data) := by
  unfold artifactParts schemaFault
  exact closed_bind _ (escapes_exactMapping _ _ _ (value_own _)) fun _ =>
    closed_bind _ (escapes_exactMapping _ _ _ (value_own _)) fun _ =>
    closed_bind _ (escapes_exactMapping _ _ _ (value_own _)) fun _ =>
    closed_bind _ (escapes_exactMapping _ _ _ (value_own _)) fun _ =>
    closed_bind _ (check_own _ _) fun _ =>
    closed_bind _ (escapes_items _ _ (value_own _)) fun _ =>
    closed_bind _ (escapes_items _ _ (value_own _)) fun _ =>
    closed_bind _ (escapes_mapM_not _ segmentFromDict_own _) fun _ =>
    closed_bind _ (connectorFromDict_own _) fun _ =>
    closed_bind _ (escapes_enumFromValue _ _ _ _ nofun) fun _ =>
    closed_bind _ (construct_own checkRuntime_own _) fun _ =>
    closed_bind _ (escapes_enumFromValue _ _ _ _ nofun) fun _ =>
    closed_bind _ (construct_own checkPrompt_own _) fun _ => escapes_ok _ _

/-- A log probability without a float whose predecessors are read, in data that
is accepted up to the log probabilities. -/
def ArtifactReaches (data : JsonValue) : Prop :=
  ∃ parts, artifactParts data = .ok parts ∧
    ∃ first v rest, parts.rawValues = first ++ v::rest ∧
      (∀ w ∈ first, Passes (decodeLogprob nearest w)) ∧ NoFloat v

theorem artifactFromDict_escapes_iff (data : JsonValue) :
    Escapes CorrectnessFamily (artifactFromDict nearest data) ↔ ArtifactReaches data := by
  unfold artifactFromDict
  rw [escapes_then _ (artifactParts_own data)]
  refine exists_congr fun parts => and_congr_right fun _ => ?_
  rw [escapes_bind, escapes_mapM, or_iff_left]
  · simp only [decodeLogprob_escapes_iff]
    rfl
  · rintro ⟨values, _, h⟩
    exact closed_bind _ (construct_own checkLogprobs_own _)
      (fun _ => construct_own checkArtifact_own _) h

end

/-! ## Benchmark artifacts -/

section
open CacheBlend.BenchmarkModels CacheBlend.BenchmarkCodec

def BenchmarkFamily (e : BenchmarkFault) : Prop := ∃ code, e = .benchmark code

theorem code_own (code : BenchmarkErrorCode) : BenchmarkFamily (.benchmark code) := ⟨code, rfl⟩

theorem overflow_foreign : ¬BenchmarkFamily .overflow := by
  rintro ⟨_, h⟩
  cases h

theorem require_own (p : Prop) [Decidable p] (code : BenchmarkErrorCode) :
    ¬Escapes BenchmarkFamily (require p (.benchmark code) : Except BenchmarkFault Unit) :=
  escapes_require _ _ (code_own _)

theorem floatTest_escapes_iff (test : ℚ → Bool) (v : JsonValue) :
    Escapes BenchmarkFamily (floatTest nearest test v) ↔ NoFloat v := by
  rw [← toFloat_noFloat_iff]
  unfold floatTest
  split
  · rename_i h
    rw [h]
    exact iff_of_false (escapes_ok _ _) nofun
  · rename_i h
    rw [h]
    exact iff_of_true ((escapes_error _ _).mpr overflow_foreign) rfl
  · rename_i h
    rw [h]
    exact iff_of_false (escapes_ok _ _) nofun
  · rename_i h
    rw [h]
    exact iff_of_false (escapes_ok _ _) nofun

theorem floatTest_read_or (test : ℚ → Bool) (v : JsonValue) :
    (∃ b, floatTest nearest test v = .ok b) ∨
      Escapes BenchmarkFamily (floatTest nearest test v) := by
  unfold floatTest
  split
  · exact Or.inl ⟨_, rfl⟩
  · exact Or.inr ((escapes_error _ _).mpr overflow_foreign)
  · exact Or.inl ⟨_, rfl⟩
  · exact Or.inl ⟨_, rfl⟩

theorem noFloat_not_null {v : JsonValue} (h : v.isNull = true) : ¬NoFloat v := by
  rintro ⟨n, rfl, _⟩
  cases h

theorem acceptable_escapes_iff (v : JsonValue) :
    Escapes BenchmarkFamily (acceptable nearest v) ↔ NoFloat v := by
  unfold acceptable
  split_ifs with hn
  · exact iff_of_false (escapes_ok _ _) (noFloat_not_null hn)
  · exact floatTest_escapes_iff _ v

theorem acceptable_read_or (v : JsonValue) :
    (∃ b, acceptable nearest v = .ok b) ∨ Escapes BenchmarkFamily (acceptable nearest v) := by
  unfold acceptable
  split_ifs
  · exact Or.inl ⟨_, rfl⟩
  · exact floatTest_read_or _ v

theorem metricsAccepted_escapes_iff (m : TrialMetrics) :
    Escapes BenchmarkFamily (metricsAccepted nearest m) ↔
      ∃ v ∈ m.timers.values ++ m.correctness.values, NoFloat v := by
  have hmap : ∀ vs : List JsonValue, Escapes BenchmarkFamily (vs.mapM (acceptable nearest)) ↔
      ∃ v ∈ vs, NoFloat v := by
    intro vs
    rw [escapes_mapM_any _ acceptable_read_or]
    simp only [acceptable_escapes_iff]
  unfold metricsAccepted
  rw [escapes_bind, hmap]
  simp only [List.mem_append, or_and_right, exists_or]
  by_cases ht : ∃ v ∈ m.timers.values, NoFloat v
  · exact iff_of_true (Or.inl ht) (Or.inl ht)
  · rw [or_iff_right ht, or_iff_right ht]
    constructor
    · rintro ⟨_, _, h⟩
      rcases (escapes_bind _ _ _).mp h with h | ⟨_, _, h⟩
      · exact (hmap _).mp h
      · exact absurd h (escapes_ok _ _)
    · intro h
      have htimers : ∀ v ∈ m.timers.values, ∃ b, acceptable nearest v = .ok b := fun v hv =>
        (acceptable_read_or v).resolve_right fun he =>
          ht ⟨v, hv, (acceptable_escapes_iff v).mp he⟩
      obtain ⟨timers, hok⟩ := mapM_returns_of _ _ htimers
      exact ⟨timers, hok, (escapes_bind _ _ _).mpr (Or.inl ((hmap _).mpr h))⟩

theorem finiteFloat_escapes_iff (v : JsonValue) :
    Escapes BenchmarkFamily (finiteFloat nearest v) ↔ NoFloat v := floatTest_escapes_iff _ v

theorem checkRatio_escapes_iff (v : JsonValue) :
    Escapes BenchmarkFamily (checkRatio nearest v) ↔ NoFloat v := by
  unfold checkRatio
  split
  · exact iff_of_false (escapes_ok _ _) nofun
  · rw [escapes_bind, ratioAccepted, floatTest_escapes_iff]
    exact or_iff_left fun ⟨_, _, h⟩ => require_own _ _ h

/-- A timing or an error without a float in a trial that fits its arm, or such
a ratio behind metrics that are accepted. -/
def TrialReaches (f : TrialFields) : Prop :=
  ArmCase f.arm f.case ∧ f.trialIndex.isCount 1 = true ∧
    ((∃ v ∈ f.metrics.timers.values ++ f.metrics.correctness.values, NoFloat v) ∨
      metricsAccepted nearest f.metrics = .ok true ∧
      0 < f.metrics.counters.integers.promptTokens ∧ NoFloat f.recomputeRatio)

theorem checkTrial_escapes_iff (f : TrialFields) :
    Escapes BenchmarkFamily (checkTrial nearest f) ↔ TrialReaches f := by
  unfold checkTrial TrialReaches
  rw [escapes_require_then _ _ (code_own _), escapes_require_then _ _ (code_own _)]
  refine and_congr_right fun _ => and_congr_right fun _ => ?_
  rw [escapes_bind, metricsAccepted_escapes_iff]
  refine or_congr_right ?_
  have hlast : ∀ _ : Unit, ¬Escapes BenchmarkFamily (do
      require (ArmMetrics f) (.benchmark .armMetricMismatch)
      require (f.peakMemoryBytes.isCount 0 = true) (.benchmark .invalidMetrics)
      require (f.correctnessPassed.isBoolean = true) (.benchmark .correctnessMissing)
      require (f.correctnessArtifactDigest.isNull = true ∨
        f.correctnessArtifactDigest.isHex 64 = true) (.benchmark .invalidDigest)
      require (f.passed = true → f.correctnessArtifactDigest.isNull = false)
        (.benchmark .correctnessMissing)
      require (f.passed = true → f.metrics.correctness.maxAbsLogitError.isNull = false ∧
        f.metrics.correctness.meanAbsLogitError.isNull = false) (.benchmark .correctnessMissing)
      require (f.transferEvidenceDigest.isNull = true ∨
        f.transferEvidenceDigest.isHex 64 = true) (.benchmark .invalidDigest)
      require (¬(f.arm.blends = true ∧ f.passed = true ∧
        0 < f.metrics.counters.integers.kvTokensLoaded ∧ f.transferEvidenceDigest.isNull = true))
        (.benchmark .transferEvidenceMissing)
      require (f.passed = true → f.failure = none) (.benchmark .correctnessMissing)
      require (f.stagingOverheadBytes.isCount 0 = true) (.benchmark .invalidMetrics)) :=
    fun _ => closed_bind _ (require_own _ _) fun _ => closed_bind _ (require_own _ _) fun _ =>
      closed_bind _ (require_own _ _) fun _ => closed_bind _ (require_own _ _) fun _ =>
      closed_bind _ (require_own _ _) fun _ => closed_bind _ (require_own _ _) fun _ =>
      closed_bind _ (require_own _ _) fun _ => closed_bind _ (require_own _ _) fun _ =>
      closed_bind _ (require_own _ _) fun _ => require_own _ _
  constructor
  · rintro ⟨accepted, hm, h⟩
    rw [escapes_require_then _ _ (code_own _), escapes_require_then _ _ (code_own _),
      escapes_bind, checkRatio_escapes_iff, or_iff_left fun ⟨u, _, h⟩ => hlast u h] at h
    exact ⟨h.1 ▸ hm, h.2⟩
  · rintro ⟨hm, h⟩
    refine ⟨true, hm, ?_⟩
    rw [escapes_require_then _ _ (code_own _), escapes_require_then _ _ (code_own _),
      escapes_bind, checkRatio_escapes_iff]
    exact ⟨rfl, h.1, Or.inl h.2⟩

theorem enum_own {α : Type} (all : List α) (name : α → String) (v : JsonValue)
    (code : BenchmarkErrorCode) :
    ¬Escapes BenchmarkFamily (enumFromValue all name (.benchmark code) v) :=
  escapes_enumFromValue _ _ _ _ (code_own _)

theorem mapping_own (v : JsonValue) (keys : List String) (code : BenchmarkErrorCode) :
    ¬Escapes BenchmarkFamily (exactMapping v keys (.benchmark code)) :=
  escapes_exactMapping _ _ _ (code_own _)

theorem failureFromDict_own (v : JsonValue) :
    ¬Escapes BenchmarkFamily (failureFromDict v) := by
  unfold failureFromDict
  split
  · exact escapes_ok _ _
  · exact closed_bind _ (enum_own _ _ _ _) fun _ => escapes_ok _ _

theorem metricsFromDict_own (v : JsonValue) :
    ¬Escapes BenchmarkFamily (metricsFromDict v) :=
  closed_bind _ (mapping_own _ _ _) fun _ => closed_bind _ (mapping_own _ _ _) fun _ =>
    closed_bind _ (mapping_own _ _ _) fun _ => closed_bind _ (mapping_own _ _ _) fun _ =>
    escapes_ok _ _

theorem trialFields_own (v : JsonValue) : ¬Escapes BenchmarkFamily (trialFields v) :=
  closed_bind _ (mapping_own _ _ _) fun _ => closed_bind _ (enum_own _ _ _ _) fun _ =>
    closed_bind _ (enum_own _ _ _ _) fun _ => closed_bind _ (enum_own _ _ _ _) fun _ =>
    closed_bind _ (failureFromDict_own _) fun _ => closed_bind _ (metricsFromDict_own _) fun _ =>
    escapes_ok _ _

theorem trialFromDict_escapes_iff (v : JsonValue) :
    Escapes BenchmarkFamily (trialFromDict nearest v) ↔
      ∃ f, trialFields v = .ok f ∧ TrialReaches f := by
  unfold trialFromDict
  rw [escapes_then _ (trialFields_own v)]
  simp only [escapes_construct, checkTrial_escapes_iff]

theorem benchmarkParts_own (data : JsonValue) :
    ¬Escapes BenchmarkFamily (benchmarkParts data) :=
  closed_bind _ (mapping_own _ _ _) fun _ => closed_bind _ (require_own _ _) fun _ =>
    closed_bind _ (escapes_items _ _ (code_own _)) fun _ =>
    closed_bind _ (enum_own _ _ _ _) fun _ =>
    closed_bind _ (closed_bind _ (mapping_own _ _ _) fun _ =>
      escapes_mapError _ fun _ => code_own _) fun _ => escapes_ok _ _

theorem checkIdentity_own (f : BenchmarkFields nearest) :
    ¬Escapes BenchmarkFamily (checkIdentity nearest f) :=
  closed_bind _ (require_own _ _) fun _ => closed_bind _ (require_own _ _) fun _ =>
    closed_bind _ (require_own _ _) fun _ => closed_bind _ (require_own _ _) fun _ =>
    closed_bind _ (require_own _ _) fun _ => closed_bind _ (require_own _ _) fun _ =>
    closed_bind _ (require_own _ _) fun _ => closed_bind _ (require_own _ _) fun _ =>
    closed_bind _ (require_own _ _) fun _ => closed_bind _ (require_own _ _) fun _ =>
    require_own _ _

theorem checkTrials_own (c : CorrectnessModels.CorrectnessCase) (n : ℤ)
    (seen : List (BenchmarkArm × BenchmarkCacheState × ℤ)) (ts : List (BenchmarkTrial nearest)) :
    ¬Escapes BenchmarkFamily (checkTrials c n seen ts) := by
  induction ts generalizing seen with
  | nil => exact escapes_ok _ _
  | cons t ts ih =>
    exact closed_bind _ (require_own _ _) fun _ => closed_bind _ (require_own _ _) fun _ =>
      closed_bind _ (require_own _ _) fun _ => ih _

/-- The temperature or, behind a finite temperature, `top_p` has no float. -/
def SamplingReaches (temperature topP : JsonValue) : Prop :=
  NoFloat temperature ∨ finiteFloat nearest temperature = .ok true ∧ NoFloat topP

theorem checkSampling_escapes_iff (temperature topP : JsonValue) :
    Escapes BenchmarkFamily (checkSampling nearest temperature topP) ↔
      SamplingReaches temperature topP := by
  unfold checkSampling SamplingReaches
  rw [escapes_bind, finiteFloat_escapes_iff]
  refine or_congr_right ?_
  have hsecond : Escapes BenchmarkFamily (do
      let second ← finiteFloat nearest topP
      require (second = true) (.benchmark .invalidIdentity)
      require (temperature.equalsInt 0 = true ∧ topP.equalsInt 1 = true)
        (.benchmark .invalidIdentity)) ↔ NoFloat topP := by
    rw [escapes_bind, finiteFloat_escapes_iff]
    exact or_iff_left fun ⟨_, _, h⟩ => closed_bind _ (require_own _ _)
      (fun _ => require_own _ _) h
  constructor
  · rintro ⟨first, hf, h⟩
    rw [escapes_require_then _ _ (code_own _), hsecond] at h
    exact ⟨h.1 ▸ hf, h.2⟩
  · rintro ⟨hf, h⟩
    refine ⟨true, hf, ?_⟩
    rw [escapes_require_then _ _ (code_own _), hsecond]
    exact ⟨rfl, h⟩

theorem checkBenchmark_escapes_iff (f : BenchmarkFields nearest) :
    Escapes BenchmarkFamily (checkBenchmark nearest f) ↔
      Passes (checkIdentity nearest f) ∧ SamplingReaches f.temperature f.topP := by
  have hcontrols : Escapes BenchmarkFamily (checkControls nearest f) ↔
      Passes (checkIdentity nearest f) ∧ SamplingReaches f.temperature f.topP := by
    unfold checkControls
    rw [escapes_then _ (checkIdentity_own f)]
    simp only [checkSampling_escapes_iff]
    exact exists_and_right
  unfold checkBenchmark
  rw [escapes_bind, hcontrols]
  exact or_iff_left fun ⟨_, _, h⟩ => closed_bind _ (require_own _ _) (fun _ =>
    closed_bind _ (require_own _ _) fun _ => checkTrials_own _ _ _ _) h

/-- A trial is reached in which a number without a float is reached, or all
trials are read and the sampling reaches one. -/
def BenchmarkReaches (data : JsonValue) : Prop :=
  ∃ parts, benchmarkParts data = .ok parts ∧
    ((∃ first raw rest, parts.rawTrials = first ++ raw::rest ∧
        (∀ t ∈ first, Passes (trialFromDict nearest t)) ∧
        ∃ f, trialFields raw = .ok f ∧ TrialReaches f) ∨
      ∃ trials, parts.rawTrials.mapM (trialFromDict nearest) = .ok trials ∧
        Passes (checkIdentity nearest (benchmarkFields parts trials)) ∧
        SamplingReaches (field parts.root "temperature") (field parts.root "top_p"))

theorem benchmarkArtifactFromDict_escapes_iff (data : JsonValue) :
    Escapes BenchmarkFamily (benchmarkArtifactFromDict nearest data) ↔ BenchmarkReaches data := by
  unfold benchmarkArtifactFromDict
  rw [escapes_then _ (benchmarkParts_own data)]
  refine exists_congr fun parts => and_congr_right fun _ => ?_
  rw [escapes_bind, escapes_mapM]
  simp only [trialFromDict_escapes_iff, escapes_construct, checkBenchmark_escapes_iff]
  rfl

end

/-! ## Extra configurations -/

section
open CacheBlend.TransferConfig

def ConfigFamily (e : TransferConfigFault) : Prop := ∃ code, e = .config code

theorem config_own (code : TransferConfigErrorCode) : ConfigFamily (.config code) := ⟨code, rfl⟩

theorem config_require_own (p : Prop) [Decidable p] (code : TransferConfigErrorCode) :
    ¬Escapes ConfigFamily (require p (.config code) : Except TransferConfigFault Unit) :=
  escapes_require _ _ (config_own _)

def Surrogates (v : JsonValue) : Prop := v.textValue.any isSurrogate = true

theorem encodedLength_escapes_iff (t : PyText) :
    Escapes ConfigFamily (encodedLength t) ↔ t.any isSurrogate = true := by
  unfold encodedLength
  split_ifs with h
  · refine iff_of_true ((escapes_error _ _).mpr ?_) h
    rintro ⟨_, hc⟩
    cases hc
  · exact iff_of_false (escapes_ok _ _) h

theorem surrogates_ne_nil {v : JsonValue} (h : Surrogates v) : v.textValue ≠ [] := by
  intro hn
  unfold Surrogates at h
  rw [hn] at h
  cases h

variable (urlsplit : PyText → Option SplitResult)

theorem requireServerUrl_escapes_iff (v : JsonValue) :
    Escapes ConfigFamily (requireServerUrl urlsplit v) ↔ Surrogates v := by
  unfold requireServerUrl
  rw [escapes_require_then _ _ (config_own _), escapes_bind, encodedLength_escapes_iff]
  constructor
  · rintro ⟨_, h | ⟨_, _, h⟩⟩
    · exact h
    · exact absurd h (closed_bind _ (config_require_own _ _) fun _ => config_require_own _ _)
  · intro h
    exact ⟨surrogates_ne_nil h, Or.inl h⟩

theorem requirePath_escapes_iff (code : TransferConfigErrorCode) (v : JsonValue) :
    Escapes ConfigFamily (requirePath code v) ↔ 0 ∉ v.textValue ∧ Surrogates v := by
  unfold requirePath
  rw [escapes_require_then _ _ (config_own _), escapes_bind, encodedLength_escapes_iff]
  constructor
  · rintro ⟨hv, h | ⟨_, _, h⟩⟩
    · exact ⟨hv.2, h⟩
    · exact absurd h (config_require_own _ _)
  · rintro ⟨hz, h⟩
    exact ⟨⟨surrogates_ne_nil h, hz⟩, Or.inl h⟩

theorem surrogate_not_space {c : CodePoint} (h : isSurrogate c = true) : isSpace c = false := by
  unfold isSurrogate at h
  unfold isSpace
  rw [decide_eq_true_eq] at h
  rw [decide_eq_false_iff_not]
  omega

theorem requireIdentityField_escapes_iff (v : JsonValue) :
    Escapes ConfigFamily (requireIdentityField v) ↔ 0 ∉ v.textValue ∧ Surrogates v := by
  unfold requireIdentityField
  rw [escapes_require_then _ _ (config_own _), escapes_bind, encodedLength_escapes_iff]
  constructor
  · rintro ⟨hv, h | ⟨_, _, h⟩⟩
    · exact ⟨hv.2, h⟩
    · exact absurd h (config_require_own _ _)
  · rintro ⟨hz, h⟩
    obtain ⟨c, hc, hs⟩ := List.any_eq_true.mp h
    refine ⟨⟨List.any_eq_true.mpr ⟨c, hc, ?_⟩, hz⟩, Or.inl h⟩
    rw [surrogate_not_space hs]
    rfl

theorem requireRequestTimeout_escapes_iff (v : JsonValue) :
    Escapes ConfigFamily (requireRequestTimeout v) ↔ NoFloat v := by
  rw [← toFloat_noFloat_iff]
  unfold requireRequestTimeout
  split
  · rename_i h
    rw [h]
    exact iff_of_false (fun he => (escapes_error _ _).mp he (config_own _)) nofun
  · rename_i h
    rw [h]
    refine iff_of_true ((escapes_error _ _).mpr ?_) rfl
    rintro ⟨_, hc⟩
    cases hc
  · rename_i h
    rw [h]
    refine iff_of_false ?_ nofun
    split_ifs
    · exact escapes_ok _ _
    · exact fun he => (escapes_error _ _).mp he (config_own _)
  · rename_i h
    rw [h]
    exact iff_of_false (fun he => (escapes_error _ _).mp he (config_own _)) nofun

theorem checkEvidencePath_escapes_iff (f : ConfigFields) :
    Escapes ConfigFamily (checkEvidencePath f) ↔
      0 ∉ f.transferEvidencePath.textValue ∧ Surrogates f.transferEvidencePath := by
  unfold checkEvidencePath
  split_ifs with hn
  · refine iff_of_false (escapes_ok _ _) ?_
    rintro ⟨_, h⟩
    obtain ⟨c, hc, _⟩ := List.any_eq_true.mp h
    cases hv : f.transferEvidencePath with
    | text t =>
      rw [hv] at hn
      cases hn
    | _ =>
      rw [hv] at hc
      cases hc
  · rw [escapes_bind, requirePath_escapes_iff]
    apply or_iff_left
    rintro ⟨_, _, h⟩
    exact config_require_own _ _ h

/-! The namespace of fields that were checked is built. -/

theorem textOf_toList (t : PyText) : (textOf t).toList =
    t.map fun c => if isSurrogate c = true then '\uFFFD' else Char.ofNat c.val := by
  rw [textOf, String.toList_ofList]

theorem namespaceText_textOf (name : String) {t : PyText} (hne : t ≠ []) (hz : 0 ∉ t) :
    ∃ text, PlannerModels.namespaceText name (textOf t) = .ok text := by
  have hempty : textOf t ≠ "" := by
    intro h
    have hlist := congrArg String.toList h
    rw [textOf_toList] at hlist
    exact hne (List.map_eq_nil_iff.mp hlist)
  have hnul : '\x00' ∉ (textOf t).toList := by
    rw [textOf_toList]
    intro hm
    obtain ⟨c, hc, he⟩ := List.mem_map.mp hm
    split_ifs at he with hs
    · exact absurd he (by decide)
    · have hvalid : c.val.isValidChar := by
        unfold isSurrogate at hs
        rw [decide_eq_true_eq] at hs
        have hlt := c.isLt
        unfold Nat.isValidChar
        omega
      have hzero : c.val = 0 := by
        rw [Char.ofNat, dif_pos hvalid] at he
        exact congrArg Char.toNat he
      obtain rfl : c = 0 := Fin.ext hzero
      exact hz hc
  unfold PlannerModels.namespaceText
  rw [dif_neg hempty, dif_neg hnul]
  exact ⟨_, rfl⟩

theorem identity_text {v : JsonValue} (h : Passes (requireIdentityField v)) :
    v.textValue ≠ [] ∧ 0 ∉ v.textValue := by
  unfold requireIdentityField at h
  obtain ⟨⟨hany, hz⟩, _⟩ := (passes_require_then _ _ _).mp h
  refine ⟨?_, hz⟩
  intro hn
  rw [hn] at hany
  cases hany

theorem digest_text {v : JsonValue} (h : Passes (requireConfigDigest v)) :
    v.textValue ≠ [] ∧ 0 ∉ v.textValue := by
  obtain ⟨_, h⟩ := h
  have hex := (require_ok_iff _ _ _).mp h
  cases v with
  | text t =>
    obtain ⟨hlen, hall⟩ := (Bool.and_eq_true _ _).mp hex
    have hlen := of_decide_eq_true hlen
    constructor
    · intro hn
      rw [show t = [] from hn] at hlen
      cases hlen
    · intro hz
      exact absurd (List.all_eq_true.mp hall 0 hz) (by decide)
  | _ => cases hex

theorem pinned_texts : ∀ text ∈ [StoreReceipts.pinnedTarget.modelId,
    StoreReceipts.pinnedTarget.vllmVersion, StoreReceipts.pinnedTarget.lmcacheVersion,
    StoreReceipts.pinnedTarget.torchVersion, StoreReceipts.pinnedTarget.cudaRuntime],
    text ≠ "" ∧ '\x00' ∉ text.toList := by
  decide +kernel

theorem namespaceText_pinned (name : String) {text : String}
    (h : text ≠ "" ∧ '\x00' ∉ text.toList) :
    ∃ t, PlannerModels.namespaceText name text = .ok t := by
  unfold PlannerModels.namespaceText
  rw [dif_neg h.1, dif_neg h.2]
  exact ⟨_, rfl⟩

theorem configNamespace_passes {f : ConfigFields}
    (hmodel : Passes (requireIdentityField f.modelRevision))
    (htokenizer : Passes (requireIdentityField f.tokenizerRevision))
    (hconfig : Passes (requireConfigDigest f.modelConfigDigest))
    (hcache : Passes (requireConfigDigest f.kvCacheConfigDigest))
    (hadapter : Passes (requireIdentityField f.adapterRevision)) :
    ∃ n, configNamespace f = .ok n := by
  have hpinned : ∀ (name text : String), text ∈ [StoreReceipts.pinnedTarget.modelId,
      StoreReceipts.pinnedTarget.vllmVersion, StoreReceipts.pinnedTarget.lmcacheVersion,
      StoreReceipts.pinnedTarget.torchVersion, StoreReceipts.pinnedTarget.cudaRuntime] →
      ∃ t, PlannerModels.namespaceText name text = .ok t :=
    fun name text hm => namespaceText_pinned name (pinned_texts text hm)
  have htext : ∀ (name : String) {v : JsonValue}, v.textValue ≠ [] ∧ 0 ∉ v.textValue →
      ∃ t, PlannerModels.namespaceText name (textOf v.textValue) = .ok t :=
    fun name _ h => namespaceText_textOf name h.1 h.2
  obtain ⟨_, h₁⟩ := hpinned "model_id" StoreReceipts.pinnedTarget.modelId (by simp)
  obtain ⟨_, h₂⟩ := htext "model_revision" (identity_text hmodel)
  obtain ⟨_, h₃⟩ := hpinned "tokenizer_id" StoreReceipts.pinnedTarget.modelId (by simp)
  obtain ⟨_, h₄⟩ := htext "tokenizer_revision" (identity_text htokenizer)
  obtain ⟨_, h₅⟩ := htext "model_config_digest" (digest_text hconfig)
  obtain ⟨_, h₆⟩ := htext "kv_cache_config_digest" (digest_text hcache)
  obtain ⟨_, h₇⟩ := htext "adapter_revision" (identity_text hadapter)
  obtain ⟨_, h₈⟩ := hpinned "vllm_version" StoreReceipts.pinnedTarget.vllmVersion (by simp)
  obtain ⟨_, h₉⟩ := hpinned "lmcache_version" StoreReceipts.pinnedTarget.lmcacheVersion (by simp)
  obtain ⟨_, h₁₀⟩ := hpinned "torch_version" StoreReceipts.pinnedTarget.torchVersion (by simp)
  obtain ⟨_, h₁₁⟩ := hpinned "cuda_runtime" StoreReceipts.pinnedTarget.cudaRuntime (by simp)
  unfold configNamespace PlannerModels.CacheNamespace.new
  rw [dif_neg (by decide), h₁, h₂, h₃, h₄, h₅, h₆, h₇, h₈, h₉, h₁₀, h₁₁]
  exact ⟨_, rfl⟩

/-- The checks of the configuration in their order, with what passes them and
what escapes from them. -/
def configSteps (f : ConfigFields) : List (Prop × Prop) :=
  [(Passes (requireServerUrl urlsplit f.lmcacheServerUrl), Surrogates f.lmcacheServerUrl),
    (Passes (requirePath .invalidSidecarPath f.sidecarPath),
      0 ∉ f.sidecarPath.textValue ∧ Surrogates f.sidecarPath),
    (Passes (requireIdentityField f.modelRevision),
      0 ∉ f.modelRevision.textValue ∧ Surrogates f.modelRevision),
    (Passes (requireIdentityField f.tokenizerRevision),
      0 ∉ f.tokenizerRevision.textValue ∧ Surrogates f.tokenizerRevision),
    (Passes (requireConfigDigest f.modelConfigDigest), False),
    (Passes (requireConfigDigest f.kvCacheConfigDigest), False),
    (Passes (requireIdentityField f.adapterRevision),
      0 ∉ f.adapterRevision.textValue ∧ Surrogates f.adapterRevision),
    (Passes (requireStagingCapacity f.stagingTokenCapacity), False),
    (Passes (requireRequestTimeout f.requestTimeoutSeconds), NoFloat f.requestTimeoutSeconds),
    (Passes (checkEvidencePath f),
      0 ∉ f.transferEvidencePath.textValue ∧ Surrogates f.transferEvidencePath)]

theorem newConfig_escapes_iff (f : ConfigFields) :
    Escapes ConfigFamily (Transfer100PctConfig.new urlsplit f) ↔
      EscapeReached (configSteps urlsplit f) := by
  unfold Transfer100PctConfig.new configSteps
  refine escapes_step (requireServerUrl_escapes_iff _ _) fun _ _ => ?_
  refine escapes_step (requirePath_escapes_iff _ _) fun _ _ => ?_
  refine escapes_step (requireIdentityField_escapes_iff _) fun _ hmodel => ?_
  refine escapes_step (requireIdentityField_escapes_iff _) fun _ htokenizer => ?_
  refine escapes_step (iff_of_false (config_require_own _ _) id) fun _ hconfig => ?_
  refine escapes_step (iff_of_false (config_require_own _ _) id) fun _ hcache => ?_
  refine escapes_step (requireIdentityField_escapes_iff _) fun _ hadapter => ?_
  refine escapes_step (iff_of_false (config_require_own _ _) id) fun _ _ => ?_
  refine escapes_step (requireRequestTimeout_escapes_iff _) fun _ _ => ?_
  refine escapes_step (checkEvidencePath_escapes_iff f) fun _ _ => iff_of_false ?_ id
  obtain ⟨n, hn⟩ := configNamespace_passes ⟨_, hmodel⟩ ⟨_, htokenizer⟩ ⟨_, hconfig⟩ ⟨_, hcache⟩
    ⟨_, hadapter⟩
  rw [hn]
  exact escapes_ok _ _

/-- A dictionary in the transfer mode with the keys, the policy and the
attestation that are accepted, in which a check that escapes is reached. -/
def ConfigReaches (data : JsonValue) : Prop :=
  ∃ es, data = .mapping es ∧ (field es "mode").isText "transfer_100pct" = true ∧
    (∀ k ∈ es.map Prod.fst, k ∈ (transferKeys ++ transferOptionalKeys).map pyText) ∧
    (∀ k ∈ transferKeys.map pyText, k ∈ es.map Prod.fst) ∧
    (field es "transfer_failure_policy").isText "full_prefill" = true ∧
    ∃ attestation, parseAttestation (field es "lmcache_server_attestation") = .ok attestation ∧
      EscapeReached (configSteps urlsplit (configFields es attestation))

theorem requireExactKeys_own (es : List (PyText × JsonValue)) (expected : List String)
    (unknownCode missingCode : TransferConfigErrorCode) :
    ¬Escapes ConfigFamily (requireExactKeys es expected unknownCode missingCode) :=
  closed_bind _ (config_require_own _ _) fun _ => config_require_own _ _

theorem parseAttestation_own (v : JsonValue) : ¬Escapes ConfigFamily (parseAttestation v) := by
  unfold parseAttestation
  split
  · refine closed_bind _ (requireExactKeys_own _ _ _ _) fun _ => ?_
    rw [escapes_construct]
    exact config_require_own _ _
  · exact fun h => (escapes_error _ _).mp h (config_own _)

theorem parseTransfer_escapes_iff (es : List (PyText × JsonValue)) :
    Escapes ConfigFamily (parseTransfer urlsplit es) ↔
      (∀ k ∈ es.map Prod.fst, k ∈ (transferKeys ++ transferOptionalKeys).map pyText) ∧
      (∀ k ∈ transferKeys.map pyText, k ∈ es.map Prod.fst) ∧
      (field es "transfer_failure_policy").isText "full_prefill" = true ∧
      ∃ attestation, parseAttestation (field es "lmcache_server_attestation") = .ok attestation ∧
        EscapeReached (configSteps urlsplit (configFields es attestation)) := by
  unfold parseTransfer
  rw [escapes_require_then _ _ (config_own _), escapes_require_then _ _ (config_own _),
    escapes_require_then _ _ (config_own _), escapes_then _ (parseAttestation_own _)]
  simp only [← newConfig_escapes_iff]

theorem parseConnectorExtraConfig_escapes_iff (data : JsonValue) :
    Escapes ConfigFamily (parseConnectorExtraConfig urlsplit data) ↔
      ConfigReaches urlsplit data := by
  have hclosed : ∀ (es : List (PyText × JsonValue)) (c : ConnectorTransferConfig),
      ¬Escapes ConfigFamily (do
        requireExactKeys es ["mode"] .unknownTopLevelKeys .modeMissing
        .ok c) :=
    fun es c => closed_bind _ (requireExactKeys_own _ _ _ _) fun _ => escapes_ok _ _
  have hother : ∀ {es : List (PyText × JsonValue)},
      ¬(field es "mode").isText "transfer_100pct" = true →
        ¬ConfigReaches urlsplit (.mapping es) := by
    rintro es hm ⟨es', he, ht, _⟩
    cases he
    exact hm ht
  cases data with
  | mapping es =>
    by_cases ht : (field es "mode").isText "transfer_100pct" = true
    · have hmode := (isText_iff _ _).mp ht
      have hne : es.length ≠ 0 := by
        intro h0
        rw [List.length_eq_zero_iff.mp h0] at hmode
        cases hmode
      unfold parseConnectorExtraConfig
      dsimp only
      rw [if_neg hne, hmode, if_neg (by simp [JsonValue.isNull]),
        if_neg (by simp [JsonValue.isText]), if_neg (by simp [JsonValue.isText]),
        if_pos (by simp [JsonValue.isText]), escapes_bind, parseTransfer_escapes_iff,
        or_iff_left (not_exists.mpr fun _ h => escapes_ok _ _ h.2)]
      constructor
      · intro h
        exact ⟨es, rfl, ht, h⟩
      · rintro ⟨es', he, _, h⟩
        cases he
        exact h
    · refine iff_of_false ?_ (hother ht)
      unfold parseConnectorExtraConfig
      dsimp only
      split_ifs
      · exact escapes_ok _ _
      · exact fun h => (escapes_error _ _).mp h (config_own _)
      · exact hclosed _ _
      · exact hclosed _ _
      · exact fun h => (escapes_error _ _).mp h (config_own _)
  | null =>
    apply iff_of_false (escapes_ok _ _)
    rintro ⟨_, h, _⟩
    cases h
  | _ =>
    refine iff_of_false (fun h => (escapes_error _ _).mp h (config_own _)) ?_
    rintro ⟨_, h, _⟩
    cases h

end

/-! ## All parsers -/

/-- Each parser raises only errors of its own family exactly when it reaches no
value outside the domain of a conversion. How the product of a count and a ratio
is rounded decides which points of a sweep are read, but not this. -/
theorem parsers_fail_closed_iff (product : RatioProduct)
    (urlsplit : PyText → Option TransferConfig.SplitResult) (data : JsonValue) :
    (FailsClosed SweepFaults.SweepFamily (SweepArtifacts.fromDict product data) ↔
      ¬SweepFaults.SweepReaches product data) ∧
    (FailsClosed BenchmarkFamily (BenchmarkCodec.benchmarkArtifactFromDict nearest data) ↔
      ¬BenchmarkReaches data) ∧
    (FailsClosed CorrectnessFamily (CorrectnessCodec.artifactFromDict nearest data) ↔
      ¬ArtifactReaches data) ∧
    (FailsClosed ConfigFamily (TransferConfig.parseConnectorExtraConfig urlsplit data) ↔
      ¬ConfigReaches urlsplit data) := by
  refine ⟨?_, ?_, ?_, ?_⟩
  · rw [failsClosed_iff, SweepFaults.fromDict_escapes_iff]
  · rw [failsClosed_iff, benchmarkArtifactFromDict_escapes_iff]
  · rw [failsClosed_iff, artifactFromDict_escapes_iff]
  · rw [failsClosed_iff, parseConnectorExtraConfig_escapes_iff]

/-! Data that parsers fail open on: an integer of 401 digits as a ratio or as a
log probability, and a text of one surrogate as a URL. -/

def text (s : String) : JsonValue := .text (pyText s)

def huge : JsonValue := .integer (10^400)

def hexText (length : ℕ) : JsonValue := .text (List.replicate length 97)

def hugeSweep : JsonValue := .mapping (named
  [("kind", text "cacheblend_gpt_oss_selection_sweep"), ("schema_version", .integer 1),
    ("points", .list [.mapping (named
      [("candidate_cached_ranges", .list []), ("check_layer", .integer 0), ("measurement", .null),
        ("prompt_tokens", .integer 0), ("layer_recompute_ranges", .list []),
        ("recompute_ranges", .list []), ("recompute_ratio", huge),
        ("selected_cached_rows", .list []), ("suffix_tokens", .integer 0)])])])

def validRuntime : JsonValue := .mapping (named
  [("model_id", text "openai/gpt-oss-20b"), ("model_revision", text "r"),
    ("tokenizer_revision", text "r"), ("plugin_commit", hexText 40),
    ("model_config_digest", hexText 64), ("kv_cache_config_digest", hexText 64),
    ("vllm_version", text "0.19.1"), ("lmcache_version", text "0.4.3"),
    ("torch_version", text "2.10.0+cu128"), ("cuda_runtime", text "12.8"),
    ("gpu_name", text "NVIDIA A100-SXM4-80GB"), ("dtype", text "torch.bfloat16")])

def hugeArtifact : JsonValue := .mapping (named
  [("schema_version", .integer 2), ("run_mode", text "full_prefill"), ("runtime", validRuntime),
    ("prompt", .mapping (named
      [("case", text "cache_miss"), ("source_prompt_digest", hexText 64),
        ("source_prompt_tokens", .integer 1), ("target_prompt_digest", hexText 64),
        ("target_prompt_tokens", .integer 1), ("reusable_segments", .list [])])),
    ("distribution", .mapping (named
      [("kind", text "full_vocabulary_logprobs"), ("sampled_token_id", .integer 0),
        ("values", .list [huge])])),
    ("connector", .null)])

def surrogateEntries : List (PyText × JsonValue) := named
  [("mode", text "transfer_100pct"), ("lmcache_server_url", .text [0xd800]),
    ("sidecar_path", text "/sidecar"), ("lmcache_server_attestation", .mapping (named
      [("lmcache_version", text "0.4.3"),
        ("source_commit", text "7f326118a2f1afc7801988dd02e3055bdf21ef6b"),
        ("protocol", text "multiprocess-blend-v2"), ("hash_algorithm", text "blake3")])),
    ("model_revision", text "r"), ("tokenizer_revision", text "r"),
    ("model_config_digest", hexText 64), ("kv_cache_config_digest", hexText 64),
    ("adapter_revision", text "r"), ("staging_token_capacity", .integer 256),
    ("request_timeout_seconds", .integer 1), ("transfer_failure_policy", text "full_prefill")]

def surrogateConfig : JsonValue := .mapping surrogateEntries

/-- The fault of a computation that raises. -/
def faultOf {ε α : Type} : Except ε α → Option ε
  | .error e => some e
  | .ok _ => none

theorem faultOf_some {ε α : Type} {x : Except ε α} {e : ε} (h : faultOf x = some e) :
    x = .error e := by
  cases x with
  | error e' => exact congrArg _ (Option.some.inj h)
  | ok a => cases h

/-- A point of ten cached rows at a ratio of seven tenths, with a measured error
that has no float. -/
def tenthsPoint (rows : ℕ) : JsonValue :=
  let recompute := JsonValue.list [.list [.integer 0, .integer rows]]
  .mapping (named
    [("candidate_cached_ranges", .list [.list [.integer 0, .integer 10]]),
      ("check_layer", .integer 0), ("measurement", .mapping (named
        [("max_abs_error", huge), ("mean_abs_error", .integer 0),
          ("selective_latency_seconds", .integer 0)])),
      ("prompt_tokens", .integer 10),
      ("layer_recompute_ranges", .list (List.replicate 24 recompute)),
      ("recompute_ranges", recompute),
      ("recompute_ratio", .float (.finite (3152519739159347/2^52))),
      ("selected_cached_rows", .list ((List.range rows).map fun row => .integer row)),
      ("suffix_tokens", .integer 0)])

/-- The rounded product is seven, so that the error is reached with seven rows only. -/
example : faultOf (SweepArtifacts.readPoint roundedProduct (tenthsPoint 7)) = some .overflow ∧
    faultOf (SweepArtifacts.readPoint roundedProduct (tenthsPoint 6)) =
      some (.io .pointMismatch) ∧
    faultOf (SweepArtifacts.readPoint exactProduct (tenthsPoint 7)) =
      some (.io .pointMismatch) := by decide +kernel

theorem surrogateConfig_reaches (urlsplit : PyText → Option TransferConfig.SplitResult) :
    ConfigReaches urlsplit surrogateConfig := by
  have hattestation : ∃ a, TransferConfig.parseAttestation
      (field surrogateEntries "lmcache_server_attestation") = .ok a := by
    cases h : TransferConfig.parseAttestation
        (field surrogateEntries "lmcache_server_attestation") with
    | ok a => exact ⟨a, rfl⟩
    | error e =>
      have hnone : faultOf (TransferConfig.parseAttestation
          (field surrogateEntries "lmcache_server_attestation")) = none := by decide +kernel
      rw [h] at hnone
      cases hnone
  have hurl : Surrogates (field surrogateEntries "lmcache_server_url") := by
    unfold Surrogates
    decide +kernel
  obtain ⟨a, ha⟩ := hattestation
  exact ⟨surrogateEntries, rfl, by decide +kernel, by decide +kernel, by decide +kernel,
    by decide +kernel, a, ha, Or.inl hurl⟩

theorem parsers_fail_open :
    ¬FailsClosed SweepFaults.SweepFamily (SweepArtifacts.fromDict roundedProduct hugeSweep) ∧
    ¬FailsClosed CorrectnessFamily (CorrectnessCodec.artifactFromDict nearest hugeArtifact) ∧
    ∀ urlsplit, ¬FailsClosed ConfigFamily
      (TransferConfig.parseConnectorExtraConfig urlsplit surrogateConfig) := by
  refine ⟨fun h => ?_, fun h => ?_, fun urlsplit h => ?_⟩
  · exact SweepFaults.overflow_foreign (h .overflow (faultOf_some (by decide +kernel)))
  · exact h .overflow (faultOf_some (by decide +kernel)) rfl
  · exact (failsClosed_iff _ _).mp h
      ((parseConnectorExtraConfig_escapes_iff _ _).mpr (surrogateConfig_reaches urlsplit))

end CacheBlend.ParserFaults
