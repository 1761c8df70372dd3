import CacheBlend.ProbabilityEnsemble

/-!
# What the probability gate decides

For compatible controls, one excluded pilot and an eligible candidate, all
with finite log probabilities, both steps of the gate return. The metrics
of a pair are the same from both sides, so a rearrangement of the controls
rearranges the comparisons and leaves every maximum where it is.
-/

set_option autoImplicit false

namespace CacheBlend.ProbabilityGate
open CacheBlend.JsonValues CacheBlend.CorrectnessModels CacheBlend.Divergences
open CacheBlend.StoreReceipts CacheBlend.ProbabilityViews CacheBlend.ProbabilityEnsemble
open CacheBlend.TransferRuntime (lowerHex)

/-! ## Pairs -/

section Pairs
variable {α β : Type}

theorem pairs_map (f : α → β) (xs : List α) :
    pairs (xs.map f) = (pairs xs).map (Prod.map f f) := by
  induction xs with
  | nil => rfl
  | cons x xs ih =>
    rw [List.map_cons, pairs, pairs, ih, List.map_append, List.map_map, List.map_map]
    rfl

theorem mem_of_pairs {xs : List α} {p : α × α} (h : p ∈ pairs xs) : p.1 ∈ xs ∧ p.2 ∈ xs := by
  induction xs with
  | nil => exact absurd h List.not_mem_nil
  | cons x xs ih =>
    rcases List.mem_append.mp h with h | h
    · obtain ⟨y, hy, rfl⟩ := List.mem_map.mp h
      exact ⟨List.mem_cons_self, List.mem_cons_of_mem _ hy⟩
    · exact ⟨List.mem_cons_of_mem _ (ih h).1, List.mem_cons_of_mem _ (ih h).2⟩

theorem pairs_perm (f : α × α → β) {xs ys : List α} (hp : xs.Perm ys)
    (hf : ∀ a ∈ xs, ∀ b ∈ xs, f (a, b) = f (b, a)) :
    ((pairs xs).map f).Perm ((pairs ys).map f) := by
  induction hp with
  | nil => exact .refl _
  | cons a h ih =>
    rw [pairs, pairs, List.map_append, List.map_append]
    apply List.Perm.append
    · exact (h.map _).map f
    · exact ih fun b hb c hc => hf b (List.mem_cons_of_mem _ hb) c (List.mem_cons_of_mem _ hc)
  | swap a b l =>
    have hab : f (b, a) = f (a, b) := hf b (by simp) a (by simp)
    simp only [pairs, List.map_append, List.map_cons, List.cons_append, hab]
    apply List.Perm.cons
    rw [← List.append_assoc, ← List.append_assoc]
    exact List.perm_append_comm.append_right _
  | trans h _ ih₁ ih₂ =>
    exact (ih₁ hf).trans (ih₂ fun b hb c hc => hf b (h.mem_iff.mpr hb) c (h.mem_iff.mpr hc))

end Pairs

/-! ## Maxima -/

/-- The greatest value of a metric over a sequence of comparisons. -/
def GreatestOf (ms : List ProbabilityMetrics) (metric : MetricFields → ℝ) (x : ℝ) : Prop :=
  IsGreatest {y | ∃ m ∈ ms, y = metric m.val} x

theorem maximum_greatest (ms : List ProbabilityMetrics) (metric : MetricFields → ℝ) (x : ℝ) :
    maximum (ms.map fun m => metric m.val) = .ok x ↔ GreatestOf ms metric x := by
  rw [maximum_ok_iff]
  constructor
  · rintro ⟨hmem, hall⟩
    obtain ⟨m, hm, he⟩ := List.mem_map.mp hmem
    refine ⟨⟨m, hm, he.symm⟩, ?_⟩
    rintro y ⟨m', hm', rfl⟩
    exact hall _ (List.mem_map_of_mem hm')
  · rintro ⟨⟨m, hm, rfl⟩, hall⟩
    refine ⟨List.mem_map_of_mem hm, fun y hy => ?_⟩
    obtain ⟨m', hm', rfl⟩ := List.mem_map.mp hy
    exact hall ⟨m', hm', rfl⟩

theorem maxima_ok_iff (ms : List ProbabilityMetrics) (u : Maxima) :
    maxima ms = .ok u ↔ GreatestOf ms MetricFields.fullMeanAbsLogprob u.fullMean ∧
      GreatestOf ms MetricFields.totalVariation u.totalVariation ∧
      GreatestOf ms MetricFields.jensenShannonDivergence u.jensenShannon ∧
      GreatestOf ms MetricFields.highMassMaxAbsLogprob u.highMass ∧
      GreatestOf ms MetricFields.strictFullMaxAbsLogprob u.strictFullMax := by
  unfold maxima
  simp only [checked_ok_iff, maximum_greatest]
  constructor
  · rintro ⟨_, h1, _, h2, _, h3, _, h4, _, h5, he⟩
    cases he
    exact ⟨h1, h2, h3, h4, h5⟩
  · rintro ⟨h1, h2, h3, h4, h5⟩
    exact ⟨_, h1, _, h2, _, h3, _, h4, _, h5, rfl⟩

theorem maxima_returns {ms : List ProbabilityMetrics} (h : ms ≠ []) : ∃ u, maxima ms = .ok u := by
  have hmax : ∀ metric : MetricFields → ℝ, ∃ x, GreatestOf ms metric x := by
    intro metric
    obtain ⟨x, hx⟩ := maximum_returns (mt List.map_eq_nil_iff.mp h)
    exact ⟨x, (maximum_greatest ms metric x).mp hx⟩
  obtain ⟨_, h1⟩ := hmax MetricFields.fullMeanAbsLogprob
  obtain ⟨_, h2⟩ := hmax MetricFields.totalVariation
  obtain ⟨_, h3⟩ := hmax MetricFields.jensenShannonDivergence
  obtain ⟨_, h4⟩ := hmax MetricFields.highMassMaxAbsLogprob
  obtain ⟨_, h5⟩ := hmax MetricFields.strictFullMaxAbsLogprob
  exact ⟨⟨_, _, _, _, _⟩, (maxima_ok_iff _ _).mpr ⟨h1, h2, h3, h4, h5⟩⟩

theorem maxima_perm {ms ms' : List ProbabilityMetrics} (h : ms.Perm ms') :
    maxima ms = maxima ms' := by
  unfold maxima
  simp only [maximum_perm (h.map _)]

theorem metrics_nonneg (m : ProbabilityMetrics) :
    0 ≤ m.val.fullMeanAbsLogprob ∧ 0 ≤ m.val.totalVariation ∧
      0 ≤ m.val.jensenShannonDivergence ∧ 0 ≤ m.val.highMassMaxAbsLogprob ∧
      0 ≤ m.val.strictFullMaxAbsLogprob := by
  obtain ⟨h1, h2, h3, h4, h5, _⟩ := (checkMetrics_ok_iff _).mp m.property
  exact ⟨h1, h2, h3, h4, h5⟩

theorem maxima_nonneg {ms : List ProbabilityMetrics} {u : Maxima} (h : maxima ms = .ok u) :
    0 ≤ u.fullMean ∧ 0 ≤ u.totalVariation ∧ 0 ≤ u.jensenShannon ∧ 0 ≤ u.highMass ∧
      0 ≤ u.strictFullMax := by
  obtain ⟨⟨⟨m1, _, h1⟩, _⟩, ⟨⟨m2, _, h2⟩, _⟩, ⟨⟨m3, _, h3⟩, _⟩, ⟨⟨m4, _, h4⟩, _⟩,
    ⟨⟨m5, _, h5⟩, _⟩⟩ := (maxima_ok_iff ms u).mp h
  rw [h1, h2, h3, h4, h5]
  exact ⟨(metrics_nonneg m1).1, (metrics_nonneg m2).2.1, (metrics_nonneg m3).2.2.1,
    (metrics_nonneg m4).2.2.2.1, (metrics_nonneg m5).2.2.2.2⟩

/-! ## Reasons -/

theorem reason_nil_iff (failed : Prop) [Decidable failed] (text : String) :
    reason failed text = [] ↔ ¬failed := by
  unfold reason
  split_ifs with h <;> simp [h]

theorem mem_reason (failed : Prop) [Decidable failed] (text r : String) :
    r ∈ reason failed text ↔ failed ∧ r = text := by
  unfold reason
  split_ifs with h <;> simp [h]

theorem baselineReasons_perm {ms ms' : List ProbabilityMetrics} (h : ms.Perm ms') (u : Maxima) :
    baselineFailureReasons ms u = baselineFailureReasons ms' u := by
  simp only [baselineFailureReasons, h.mem_iff]

theorem candidateReasons_perm (baseline : ProbabilityEnsembleStatus)
    {ms ms' : List ProbabilityMetrics} (h : ms.Perm ms') (q : Maxima) (manifest : ManifestFields) :
    candidateFailureReasons baseline ms q manifest =
      candidateFailureReasons baseline ms' q manifest := by
  simp only [candidateFailureReasons, h.mem_iff]

theorem baselineReasons_nonempty (ms : List ProbabilityMetrics) (u : Maxima) :
    ∀ r ∈ baselineFailureReasons ms u, r ≠ "" := by
  intro r hr
  simp only [baselineFailureReasons, List.mem_append, mem_reason] at hr
  rcases hr with ((((⟨_, rfl⟩ | ⟨_, rfl⟩) | ⟨_, rfl⟩) | ⟨_, rfl⟩) | ⟨_, rfl⟩) | ⟨_, rfl⟩ <;>
    decide

theorem candidateReasons_nonempty (baseline : ProbabilityEnsembleStatus)
    (ms : List ProbabilityMetrics) (q : Maxima) (manifest : ManifestFields) :
    ∀ r ∈ candidateFailureReasons baseline ms q manifest, r ≠ "" := by
  intro r hr
  simp only [candidateFailureReasons, List.mem_append, mem_reason, or_assoc] at hr
  rcases hr with ⟨_, rfl⟩ | ⟨_, rfl⟩ | ⟨_, rfl⟩ | ⟨_, rfl⟩ | ⟨_, rfl⟩ | ⟨_, rfl⟩ | ⟨_, rfl⟩ |
    ⟨_, rfl⟩ | ⟨_, rfl⟩ | ⟨_, rfl⟩ | ⟨_, rfl⟩ <;> decide

def TokensAgree (ms : List ProbabilityMetrics) : Prop :=
  ∀ m ∈ ms, m.val.sampledTokenAgreement = true ∧ m.val.topTokenAgreement = true

theorem tokensAgree_iff (ms : List ProbabilityMetrics) :
    TokensAgree ms ↔ ¬(∃ m ∈ ms, m.val.sampledTokenAgreement = false) ∧
      ¬∃ m ∈ ms, m.val.topTokenAgreement = false := by
  simp only [TokensAgree, not_exists, not_and, Bool.not_eq_false, forall_and]

structure Limits where
  fullMean : ℝ
  totalVariation : ℝ
  jensenShannon : ℝ
  highMass : ℝ

structure Within (q : Maxima) (limits : Limits) : Prop where
  fullMean : q.fullMean ≤ limits.fullMean
  totalVariation : q.totalVariation ≤ limits.totalVariation
  jensenShannon : q.jensenShannon ≤ limits.jensenShannon
  highMass : q.highMass ≤ limits.highMass

noncomputable def hardCeilings : Limits :=
  ⟨hardFullMeanAbsLogprobCeiling, hardTotalVariationCeiling, hardJensenShannonCeiling,
    hardHighMassMaxAbsLogprobCeiling⟩

def envelopes (manifest : ManifestFields) : Limits :=
  ⟨manifest.uFullMeanAbsLogprob, manifest.uTotalVariation, manifest.uJensenShannonDivergence,
    manifest.uHighMassMaxAbsLogprob⟩

theorem baselineReasons_nil_iff (ms : List ProbabilityMetrics) (u : Maxima) :
    baselineFailureReasons ms u = [] ↔ Within u hardCeilings ∧ TokensAgree ms := by
  simp only [baselineFailureReasons, List.append_eq_nil_iff, reason_nil_iff, gt_iff_lt, not_lt,
    tokensAgree_iff]
  constructor
  · rintro ⟨⟨⟨⟨⟨h1, h2⟩, h3⟩, h4⟩, hs⟩, ht⟩
    exact ⟨⟨h1, h2, h3, h4⟩, hs, ht⟩
  · rintro ⟨h, hs, ht⟩
    exact ⟨⟨⟨⟨⟨h.fullMean, h.totalVariation⟩, h.jensenShannon⟩, h.highMass⟩, hs⟩, ht⟩

theorem candidateReasons_nil_iff (baseline : ProbabilityEnsembleStatus)
    (ms : List ProbabilityMetrics) (q : Maxima) (manifest : ManifestFields) :
    candidateFailureReasons baseline ms q manifest = [] ↔
      baseline = .pass ∧ TokensAgree ms ∧ Within q (envelopes manifest) ∧
        Within q hardCeilings := by
  simp only [candidateFailureReasons, List.append_eq_nil_iff, reason_nil_iff, gt_iff_lt, not_lt,
    not_not, ne_eq, tokensAgree_iff, and_assoc]
  constructor
  · rintro ⟨hb, hs, ht, u1, u2, u3, u4, h1, h2, h3, h4⟩
    exact ⟨hb, hs, ht, ⟨u1, u2, u3, u4⟩, h1, h2, h3, h4⟩
  · rintro ⟨hb, hs, ht, hu, hh⟩
    exact ⟨hb, hs, ht, hu.fullMean, hu.totalVariation, hu.jensenShannon, hu.highMass,
      hh.fullMean, hh.totalVariation, hh.jensenShannon, hh.highMass⟩

/-! ## The constructors -/

section
variable (sha256 : Bytes → Digest) (jsonDumps : JsonValue → Bytes)

theorem requireDigestText_hex (name : String) (d : Digest) :
    requireDigestText name (hex d.val) = .ok ⟨⟩ := by
  refine require_of _ ⟨?_, List.all_eq_true.mpr (hex_lower d.val)⟩
  rw [hex_length, d.property]

theorem requireDigestText_artifact (name : String) (a : CorrectnessArtifact) :
    requireDigestText name (artifactDigest sha256 jsonDumps a) = .ok ⟨⟩ :=
  requireDigestText_hex name _

theorem requireFixed_self (name : String) {x : ℝ} (h : 0 ≤ x) :
    requireFixed name x x = .ok ⟨⟩ :=
  (require_then_iff _ _ _ _).mpr ⟨h, require_of _ rfl⟩

theorem constants_nonneg : 0 ≤ probabilityTailEpsilon ∧ 0 ≤ hardFullMeanAbsLogprobCeiling ∧
    0 ≤ hardTotalVariationCeiling ∧ 0 ≤ hardJensenShannonCeiling ∧
    0 ≤ hardHighMassMaxAbsLogprobCeiling := by
  norm_num [probabilityTailEpsilon, hardFullMeanAbsLogprobCeiling, hardTotalVariationCeiling,
    hardJensenShannonCeiling, hardHighMassMaxAbsLogprobCeiling]

theorem checkManifest_ok {digests excludedDigests : List String} {ms : List ProbabilityMetrics}
    {u : Maxima} (hcount : digests.length = probabilityBaselineCount)
    (hd : ∀ name, ∀ d ∈ digests, requireDigestText name d = .ok ⟨⟩) (hn : digests.Nodup)
    (hcount' : excludedDigests.length = 1)
    (hd' : ∀ name, ∀ d ∈ excludedDigests, requireDigestText name d = .ok ⟨⟩)
    (hx : ∀ d ∈ excludedDigests, d ∉ digests) (hu : maxima ms = .ok u) :
    checkManifest (manifestFields digests excludedDigests ms u) = .ok ⟨⟩ := by
  obtain ⟨h1, h2, h3, h4, h5⟩ := maxima_nonneg hu
  obtain ⟨hε, hmean, hvariation, hjs, hmass⟩ := constants_nonneg
  have hstatus : ∀ reasons : List String,
      (if reasons = [] then ProbabilityEnsembleStatus.pass
        else .indeterminateBaselineUnstable) = .pass ↔ reasons = [] := by
    intro reasons
    split_ifs with h <;> simp [h]
  unfold checkManifest
  refine (require_then_iff _ _ _ _).mpr ⟨rfl, ?_⟩
  refine (require_then_iff _ _ _ _).mpr ⟨hcount, ?_⟩
  refine (checked_ok_iff _ _ _).mpr ⟨⟨⟩, (forM_returns_iff _ _).mpr (hd _), ?_⟩
  refine (require_then_iff _ _ _ _).mpr ⟨?_, ?_⟩
  · show digests.dedup.length = _
    rw [hn.dedup, hcount]
  refine (require_then_iff _ _ _ _).mpr ⟨hcount', ?_⟩
  refine (checked_ok_iff _ _ _).mpr ⟨⟨⟩, (forM_returns_iff _ _).mpr (hd' _), ?_⟩
  refine (require_then_iff _ _ _ _).mpr ⟨hx, ?_⟩
  refine (checked_ok_iff _ _ _).mpr ⟨⟨⟩, requireFixed_self _ hε, ?_⟩
  refine (checked_ok_iff _ _ _).mpr ⟨⟨⟩, requireFixed_self _ hmean, ?_⟩
  refine (checked_ok_iff _ _ _).mpr ⟨⟨⟩, requireFixed_self _ hvariation, ?_⟩
  refine (checked_ok_iff _ _ _).mpr ⟨⟨⟩, requireFixed_self _ hjs, ?_⟩
  refine (checked_ok_iff _ _ _).mpr ⟨⟨⟩, requireFixed_self _ hmass, ?_⟩
  refine (require_then_iff _ _ _ _).mpr ⟨h1, ?_⟩
  refine (require_then_iff _ _ _ _).mpr ⟨h2, ?_⟩
  refine (require_then_iff _ _ _ _).mpr ⟨h3, ?_⟩
  refine (require_then_iff _ _ _ _).mpr ⟨h4, ?_⟩
  refine (require_then_iff _ _ _ _).mpr ⟨h5, ?_⟩
  refine (require_then_iff _ _ _ _).mpr ⟨baselineReasons_nonempty ms u, ?_⟩
  refine (require_then_iff _ _ _ _).mpr ⟨?_, ?_⟩
  · show (if baselineFailureReasons ms u = [] then ProbabilityEnsembleStatus.pass
      else .indeterminateBaselineUnstable) ≠ .fail
    split_ifs <;> decide
  refine (require_then_iff _ _ _ _).mpr ⟨hstatus _, require_of _ fun hp => ?_⟩
  have hwithin := ((baselineReasons_nil_iff ms u).mp ((hstatus _).mp hp)).1
  exact ⟨hwithin.fullMean, hwithin.totalVariation, hwithin.jensenShannon, hwithin.highMass⟩

/-! ## Metrics of two distributions -/

def Finite (d : LogprobFields) : Prop := ∀ x ∈ d.values, isFinite x = true

noncomputable def metricsOf (left right : LogprobFields) : Except String ProbabilityMetrics := do
  let leftView ← view left
  let rightView ← view right
  compareViews left right leftView rightView

theorem exists_vector {n : ℕ} {values : List PyFloat} (h : values.length = n) :
    ∃ v : Fin n → ℝ, values.map realValue = List.ofFn v := by
  subst h
  refine ⟨fun i => realValue (values.get i), ?_⟩
  rw [← Function.comp_def realValue, ← List.map_ofFn, List.ofFn_get]

theorem metricsOf_views {left right : LogprobFields} {leftView rightView : DistributionView}
    (hl : view left = .ok leftView) (hr : view right = .ok rightView) :
    metricsOf left right = compareViews left right leftView rightView := by
  rw [metricsOf, hl, hr]
  rfl

theorem metricsOf_comm {left right : LogprobFields} {leftView rightView : DistributionView}
    (hl : view left = .ok leftView) (hr : view right = .ok rightView) :
    metricsOf left right = metricsOf right left := by
  rw [metricsOf_views hl hr, metricsOf_views hr hl, compareViews_comm]

theorem distribution_length (a : CorrectnessArtifact) :
    a.val.distribution.val.values.length = gptOssVocabSize :=
  ((require_then_iff _ _ _ _).mp a.val.distribution.property).1

theorem distribution_view {a : CorrectnessArtifact} (h : Finite a.val.distribution.val) :
    ∃ v : Fin gptOssVocabSize → ℝ, ∃ w, view a.val.distribution.val = .ok w ∧ ViewOf v w := by
  have hne : NeZero gptOssVocabSize := ⟨by decide⟩
  obtain ⟨v, hv⟩ := exists_vector (distribution_length a)
  obtain ⟨w, hw, hof⟩ := view_ok h hv
  exact ⟨v, w, hw, hof⟩

/-! ## Controls -/

structure ControlOf (a : CorrectnessArtifact) (i : ℕ) (c : Control) : Prop where
  index : c.index = i
  digest : c.digest = artifactDigest sha256 jsonDumps a
  distribution : c.distribution = a.val.distribution.val
  view : view c.distribution = .ok c.view
  vector : ∃ v : Fin gptOssVocabSize → ℝ, ViewOf v c.view

theorem maps_eq {α β γ : Type} {R : α → β → Prop} {xs : List α} {ys : List β} (f : α → γ)
    (g : β → γ) (h : List.Forall₂ R xs ys) (hf : ∀ x y, R x y → g y = f x) :
    ys.map g = xs.map f := by
  induction h with
  | nil => rfl
  | cons hr _ ih => rw [List.map_cons, List.map_cons, hf _ _ hr, ih]

theorem controls_ok {baselines : List CorrectnessArtifact}
    (hf : ∀ b ∈ baselines, Finite b.val.distribution.val) :
    ∃ cs, controls sha256 jsonDumps baselines = .ok cs ∧
      List.Forall₂ (fun e => ControlOf sha256 jsonDumps e.1 e.2) baselines.zipIdx cs := by
  have hone : ∀ e ∈ baselines.zipIdx, ∃ c, controlOf sha256 jsonDumps e = .ok c ∧
      ControlOf sha256 jsonDumps e.1 e.2 c := by
    intro e he
    have hmem : e.1 ∈ baselines := (List.mem_zipIdx' he).2 ▸ List.getElem_mem _
    obtain ⟨v, w, hw, hof⟩ := distribution_view (hf e.1 hmem)
    refine ⟨⟨e.2, artifactDigest sha256 jsonDumps e.1, e.1.val.distribution.val, w⟩, ?_,
      rfl, rfl, rfl, hw, v, hof⟩
    exact (checked_ok_iff _ _ _).mpr ⟨w, hw, rfl⟩
  obtain ⟨cs, hcs⟩ := mapM_returns_of (controlOf sha256 jsonDumps) baselines.zipIdx
    fun e he => (hone e he).imp fun _ h => h.1
  refine ⟨cs, hcs, forall₂_imp ((mapM_returns_iff _ _ _).mp hcs) fun e he c hc => ?_⟩
  obtain ⟨c', hc', hof⟩ := hone e he
  rw [hc] at hc'
  cases hc'
  exact hof

theorem control_indices {baselines : List CorrectnessArtifact} {cs : List Control}
    (h : List.Forall₂ (fun e => ControlOf sha256 jsonDumps e.1 e.2) baselines.zipIdx cs) :
    cs.map Control.index = List.range baselines.length := by
  rw [maps_eq Prod.snd Control.index h fun _ _ hc => hc.index, List.zipIdx_map_snd,
    List.range_eq_range']

theorem control_distributions {baselines : List CorrectnessArtifact} {cs : List Control}
    (h : List.Forall₂ (fun e => ControlOf sha256 jsonDumps e.1 e.2) baselines.zipIdx cs) :
    cs.map Control.distribution = baselines.map fun b => b.val.distribution.val := by
  rw [maps_eq (fun e : CorrectnessArtifact × ℕ => e.1.val.distribution.val) Control.distribution h
    fun _ _ hc => hc.distribution]
  rw [← Function.comp_def (fun b : CorrectnessArtifact => b.val.distribution.val) Prod.fst,
    ← List.map_map, List.zipIdx_map_fst]

theorem control_of_mem {baselines : List CorrectnessArtifact} {cs : List Control}
    (h : List.Forall₂ (fun e => ControlOf sha256 jsonDumps e.1 e.2) baselines.zipIdx cs)
    {c : Control} (hc : c ∈ cs) : ∃ a i, ControlOf sha256 jsonDumps a i c := by
  obtain ⟨e, _, he⟩ := forall₂_right h hc
  exact ⟨e.1, e.2, he⟩

theorem compareControls_ok {c d : Control} {a b : CorrectnessArtifact} {i j : ℕ}
    (hc : ControlOf sha256 jsonDumps a i c) (hd : ControlOf sha256 jsonDumps b j d)
    (hij : i < j ∧ j < probabilityBaselineCount) :
    ∃ k, compareControls (c, d) = .ok k ∧ k.val.leftIndex = i ∧ k.val.rightIndex = j ∧
      metricsOf c.distribution d.distribution = .ok k.val.metrics := by
  have hne : NeZero gptOssVocabSize := ⟨by decide⟩
  obtain ⟨v, hv⟩ := hc.vector
  obtain ⟨w, hw⟩ := hd.vector
  obtain ⟨m, hm, _⟩ := compareViews_ok c.distribution d.distribution hv hw
  have hcheck : checkBaselineComparison ⟨c.index, d.index, c.digest, d.digest, m⟩ = .ok ⟨⟩ := by
    unfold checkBaselineComparison
    refine (require_then_iff _ _ _ _).mpr ⟨?_, ?_⟩
    · show c.index < d.index ∧ d.index < _
      rw [hc.index, hd.index]
      exact hij
    refine (checked_ok_iff _ _ _).mpr ⟨⟨⟩, ?_, ?_⟩
    · show requireDigestText _ c.digest = _
      rw [hc.digest]
      exact requireDigestText_artifact sha256 jsonDumps _ a
    · show requireDigestText _ d.digest = _
      rw [hd.digest]
      exact requireDigestText_artifact sha256 jsonDumps _ b
  refine ⟨⟨_, hcheck⟩, ?_, hc.index, hd.index, ?_⟩
  · exact (checked_ok_iff _ _ _).mpr ⟨m, hm, (construct_ok_iff _ _ _).mpr rfl⟩
  · rw [metricsOf_views hc.view hd.view]
    exact hm

theorem compareCandidate_ok {candidate : LogprobFields} {w : DistributionView}
    {v : Fin gptOssVocabSize → ℝ} (hw : view candidate = .ok w) (hv : ViewOf v w) {c : Control}
    {a : CorrectnessArtifact} {i : ℕ} (hc : ControlOf sha256 jsonDumps a i c)
    (hi : i < probabilityBaselineCount) :
    ∃ k, compareCandidate candidate w c = .ok k ∧ k.val.baselineIndex = i ∧
      k.val.baselineArtifactDigest = artifactDigest sha256 jsonDumps a ∧
      metricsOf candidate c.distribution = .ok k.val.metrics := by
  have hne : NeZero gptOssVocabSize := ⟨by decide⟩
  obtain ⟨v', hv'⟩ := hc.vector
  obtain ⟨m, hm, _⟩ := compareViews_ok candidate c.distribution hv hv'
  have hcheck : checkCandidateComparison ⟨c.index, c.digest, m⟩ = .ok ⟨⟩ := by
    unfold checkCandidateComparison
    refine (require_then_iff _ _ _ _).mpr ⟨?_, ?_⟩
    · show c.index < _
      rw [hc.index]
      exact hi
    · show requireDigestText _ c.digest = _
      rw [hc.digest]
      exact requireDigestText_artifact sha256 jsonDumps _ a
  refine ⟨⟨_, hcheck⟩, ?_, hc.index, hc.digest, ?_⟩
  · exact (checked_ok_iff _ _ _).mpr ⟨m, hm, (construct_ok_iff _ _ _).mpr rfl⟩
  · rw [metricsOf_views hw hc.view]
    exact hm

/-! ## The ensemble of compatible controls -/

/-- Five controls and a pilot that the policy takes. The run modes of the pilot and of
a control differ, so only a collision of their digests breaks the last condition. -/
structure Compatible (baselines : List CorrectnessArtifact) (pilot : CorrectnessArtifact) :
    Prop where
  count : baselines.length = probabilityBaselineCount
  fullPrefill : ∀ b ∈ baselines, b.val.runMode = .fullPrefill
  identity : ∀ a ∈ baselines, ∀ b ∈ baselines, SameIdentity a b
  finite : ∀ b ∈ baselines, Finite b.val.distribution.val
  distinct : (baselines.map (artifactDigest sha256 jsonDumps)).Nodup
  pilotMode : pilot.val.runMode = .cacheblend100pct
  pilotIdentity : ∀ b ∈ baselines, SameIdentity pilot b
  pilotExcluded : artifactDigest sha256 jsonDumps pilot ∉
    baselines.map (artifactDigest sha256 jsonDumps)

/-- A candidate that is not the pilot. -/
structure Eligible (baselines : List CorrectnessArtifact)
    (pilot candidate : CorrectnessArtifact) : Prop where
  mode : candidate.val.runMode = .cacheblend100pct
  identity : ∀ b ∈ baselines, SameIdentity candidate b
  notPilot : artifactDigest sha256 jsonDumps candidate ≠ artifactDigest sha256 jsonDumps pilot
  finite : Finite candidate.val.distribution.val

def distributions (baselines : List CorrectnessArtifact) : List LogprobFields :=
  baselines.map fun b => b.val.distribution.val

/-- The ensemble that the controls and the pilot give. -/
structure Built (baselines : List CorrectnessArtifact) (pilot : CorrectnessArtifact)
    (e : ProbabilityBaselineEnsemble sha256 jsonDumps) (u : Maxima) : Prop where
  controls : e.val.baselines = baselines
  metrics : (e.val.comparisons.map fun k => k.val.metrics).map Except.ok =
    (pairs (distributions baselines)).map fun p => metricsOf p.1 p.2
  maxima : maxima (e.val.comparisons.map fun k => k.val.metrics) = .ok u
  manifest : e.val.manifest.val = manifestFields
    (baselines.map (artifactDigest sha256 jsonDumps)) [artifactDigest sha256 jsonDumps pilot]
    (e.val.comparisons.map fun k => k.val.metrics) u

theorem pairs_count : (pairs (List.range probabilityBaselineCount)).length =
    probabilityPairCount := by decide

theorem pairs_ordered : ∀ p ∈ pairs (List.range probabilityBaselineCount),
    p.1 < p.2 ∧ p.2 < probabilityBaselineCount := by decide

variable {sha256} {jsonDumps}

theorem comparisons_ok {baselines : List CorrectnessArtifact}
    (hcount : baselines.length = probabilityBaselineCount) {cs : List Control}
    (hcs : List.Forall₂ (fun e => ControlOf sha256 jsonDumps e.1 e.2) baselines.zipIdx cs) :
    ∃ ks, (pairs cs).mapM compareControls = .ok ks ∧
      (ks.map fun k => (k.val.leftIndex, k.val.rightIndex)) =
        pairs (List.range probabilityBaselineCount) ∧
      (ks.map fun k => k.val.metrics).map Except.ok =
        (pairs (distributions baselines)).map fun p => metricsOf p.1 p.2 := by
  have hindices := control_indices sha256 jsonDumps hcs
  have hdistributions := control_distributions sha256 jsonDumps hcs
  rw [hcount] at hindices
  have hone : ∀ p ∈ pairs cs, ∃ k, compareControls p = .ok k ∧
      (k.val.leftIndex, k.val.rightIndex) = (p.1.index, p.2.index) ∧
      metricsOf p.1.distribution p.2.distribution = .ok k.val.metrics := by
    intro p hp
    obtain ⟨a, i, ha⟩ := control_of_mem sha256 jsonDumps hcs (mem_of_pairs hp).1
    obtain ⟨b, j, hb⟩ := control_of_mem sha256 jsonDumps hcs (mem_of_pairs hp).2
    have hmem : (p.1.index, p.2.index) ∈ pairs (List.range probabilityBaselineCount) := by
      rw [← hindices, pairs_map]
      exact List.mem_map_of_mem hp
    have hij := pairs_ordered _ hmem
    rw [ha.index, hb.index] at hij
    obtain ⟨k, hk, hl, hr, hm⟩ := compareControls_ok sha256 jsonDumps ha hb hij
    refine ⟨k, hk, ?_, hm⟩
    rw [hl, hr, ha.index, hb.index]
  obtain ⟨ks, hks⟩ := mapM_returns_of compareControls (pairs cs)
    fun p hp => (hone p hp).imp fun _ h => h.1
  have hspec : List.Forall₂ (fun p k => (k.val.leftIndex, k.val.rightIndex) =
      (p.1.index, p.2.index) ∧ metricsOf p.1.distribution p.2.distribution = .ok k.val.metrics)
      (pairs cs) ks := by
    apply forall₂_imp ((mapM_returns_iff _ _ _).mp hks)
    intro p hp k hk
    obtain ⟨k', hk', h⟩ := hone p hp
    rw [hk] at hk'
    cases hk'
    exact h
  refine ⟨ks, hks, ?_, ?_⟩
  · rw [maps_eq (fun p : Control × Control => (p.1.index, p.2.index)) _ hspec fun _ _ h => h.1,
      ← hindices, pairs_map]
    rfl
  · rw [List.map_map, Function.comp_def, maps_eq
      (fun p : Control × Control => metricsOf p.1.distribution p.2.distribution) _ hspec
      fun _ _ h => h.2.symm, distributions, ← hdistributions, pairs_map, List.map_map]
    rfl

theorem comparisons_ne_nil {ks : List ProbabilityBaselineComparison}
    (h : (ks.map fun k => (k.val.leftIndex, k.val.rightIndex)) =
      pairs (List.range probabilityBaselineCount)) :
    (ks.map fun k => k.val.metrics) ≠ [] := by
  intro hnil
  rw [List.map_eq_nil_iff.mp hnil] at h
  exact absurd h (by decide)

theorem head_mem {α : Type} {xs : List α} {x : α} (h : x ∈ xs.head?) : x ∈ xs :=
  List.mem_of_mem_head? h

open Classical in
theorem build_ok {baselines : List CorrectnessArtifact} {pilot : CorrectnessArtifact}
    (h : Compatible sha256 jsonDumps baselines pilot) :
    ∃ e u, buildProbabilityBaselineEnsemble sha256 jsonDumps baselines [pilot] = .ok e ∧
      Built sha256 jsonDumps baselines pilot e u := by
  obtain ⟨cs, hcs, hcontrols⟩ := controls_ok sha256 jsonDumps h.finite
  obtain ⟨ks, hks, hindices, hmetrics⟩ := comparisons_ok h.count hcontrols
  obtain ⟨u, hu⟩ := maxima_returns (comparisons_ne_nil hindices)
  let digests := baselines.map (artifactDigest sha256 jsonDumps)
  let fields := manifestFields digests [artifactDigest sha256 jsonDumps pilot]
    (ks.map fun k => k.val.metrics) u
  have hmanifest : checkManifest fields = .ok ⟨⟩ := by
    refine checkManifest_ok (by rw [List.length_map, h.count]) ?_ h.distinct rfl ?_ ?_ hu
    · intro name d hd
      obtain ⟨b, _, rfl⟩ := List.mem_map.mp hd
      exact requireDigestText_artifact sha256 jsonDumps name b
    · intro name d hd
      rw [List.mem_singleton.mp hd]
      exact requireDigestText_artifact sha256 jsonDumps name pilot
    · intro d hd
      rw [List.mem_singleton.mp hd]
      exact h.pilotExcluded
  let ensemble : EnsembleFields := ⟨baselines, ks, ⟨fields, hmanifest⟩⟩
  have hlength : ks.length = probabilityPairCount := by
    rw [← pairs_count, ← hindices, List.length_map]
  have hensemble : checkEnsemble sha256 jsonDumps ensemble = .ok ⟨⟩ := by
    unfold checkEnsemble
    refine (require_then_iff _ _ _ _).mpr ⟨h.count, ?_⟩
    refine (require_then_iff _ _ _ _).mpr ⟨hlength, ?_⟩
    refine (require_then_iff _ _ _ _).mpr ⟨rfl, require_of _ ?_⟩
    show (ks.map fun k => (k.val.leftIndex, k.val.rightIndex)).toFinset = _
    rw [hindices]
  refine ⟨⟨ensemble, hensemble⟩, u, ?_, rfl, hmetrics, hu, rfl⟩
  have hcompatible : requireCompatibleBaselines baselines = .ok ⟨⟩ := by
    unfold requireCompatibleBaselines
    refine (require_then_iff _ _ _ _).mpr ⟨h.count, ?_⟩
    refine (require_then_iff _ _ _ _).mpr ⟨h.fullPrefill, require_of _ ?_⟩
    intro first hfirst b hb
    exact h.identity b (List.mem_of_mem_tail hb) first (head_mem hfirst)
  unfold buildProbabilityBaselineEnsemble
  refine (checked_ok_iff _ _ _).mpr ⟨⟨⟩, hcompatible, ?_⟩
  refine (require_then_iff _ _ _ _).mpr ⟨?_, ?_⟩
  · rw [h.distinct.dedup, List.length_map, h.count]
  refine (require_then_iff _ _ _ _).mpr ⟨rfl, ?_⟩
  refine (require_then_iff _ _ _ _).mpr ⟨?_, ?_⟩
  · intro a ha
    rw [List.mem_singleton.mp ha]
    exact ⟨h.pilotMode, fun first hfirst => h.pilotIdentity first (head_mem hfirst)⟩
  refine (require_then_iff _ _ _ _).mpr ⟨?_, ?_⟩
  · intro d hd
    rw [List.mem_singleton.mp hd]
    exact h.pilotExcluded
  refine (checked_ok_iff _ _ _).mpr ⟨cs, hcs, ?_⟩
  refine (checked_ok_iff _ _ _).mpr ⟨ks, hks, ?_⟩
  refine (checked_ok_iff _ _ _).mpr ⟨u, hu, ?_⟩
  refine (checked_ok_iff _ _ _).mpr ⟨⟨fields, hmanifest⟩, (construct_ok_iff _ _ _).mpr rfl, ?_⟩
  exact (construct_ok_iff _ _ _).mpr rfl

/-! ## The verdict on an eligible candidate -/

variable (canonicalManifestBytes : ProbabilityBaselineManifest → Bytes)

/-- The verdict that the ensemble and the candidate give. -/
structure Judged (baselines : List CorrectnessArtifact) (candidate : CorrectnessArtifact)
    (e : ProbabilityBaselineEnsemble sha256 jsonDumps) (v : ProbabilityCandidateVerdict)
    (q : Maxima) : Prop where
  metrics : (v.val.comparisons.map fun k => k.val.metrics).map Except.ok =
    (distributions baselines).map (metricsOf candidate.val.distribution.val)
  maxima : maxima (v.val.comparisons.map fun k => k.val.metrics) = .ok q
  fields : v.val = verdictFields e.val.manifest.val
    (artifactDigest sha256 jsonDumps candidate)
    (manifestDigest sha256 canonicalManifestBytes e.val.manifest) v.val.comparisons q

theorem candidate_comparisons_ok {baselines : List CorrectnessArtifact}
    (hcount : baselines.length = probabilityBaselineCount) {cs : List Control}
    (hcs : List.Forall₂ (fun e => ControlOf sha256 jsonDumps e.1 e.2) baselines.zipIdx cs)
    {candidate : LogprobFields} {w : DistributionView} {v : Fin gptOssVocabSize → ℝ}
    (hw : view candidate = .ok w) (hv : ViewOf v w) :
    ∃ ks, cs.mapM (compareCandidate candidate w) = .ok ks ∧
      (ks.map fun k => k.val.baselineIndex) = List.range probabilityBaselineCount ∧
      (ks.map fun k => k.val.metrics).map Except.ok =
        (distributions baselines).map (metricsOf candidate) := by
  have hindices := control_indices sha256 jsonDumps hcs
  have hdistributions := control_distributions sha256 jsonDumps hcs
  rw [hcount] at hindices
  have hone : ∀ c ∈ cs, ∃ k, compareCandidate candidate w c = .ok k ∧
      k.val.baselineIndex = c.index ∧ metricsOf candidate c.distribution = .ok k.val.metrics := by
    intro c hc
    obtain ⟨a, i, ha⟩ := control_of_mem sha256 jsonDumps hcs hc
    have hi : i < probabilityBaselineCount := by
      rw [← ha.index, ← List.mem_range, ← hindices]
      exact List.mem_map_of_mem hc
    obtain ⟨k, hk, hki, _, hm⟩ := compareCandidate_ok sha256 jsonDumps hw hv ha hi
    exact ⟨k, hk, hki.trans ha.index.symm, hm⟩
  obtain ⟨ks, hks⟩ := mapM_returns_of (compareCandidate candidate w) cs
    fun c hc => (hone c hc).imp fun _ h => h.1
  have hspec : List.Forall₂ (fun c k => k.val.baselineIndex = c.index ∧
      metricsOf candidate c.distribution = .ok k.val.metrics) cs ks := by
    apply forall₂_imp ((mapM_returns_iff _ _ _).mp hks)
    intro c hc k hk
    obtain ⟨k', hk', h⟩ := hone c hc
    rw [hk] at hk'
    cases hk'
    exact h
  refine ⟨ks, hks, ?_, ?_⟩
  · rw [maps_eq Control.index _ hspec fun _ _ h => h.1, hindices]
  · rw [List.map_map, Function.comp_def,
      maps_eq (fun c : Control => metricsOf candidate c.distribution) _ hspec
      fun _ _ h => h.2.symm, distributions, ← hdistributions, List.map_map]
    rfl

theorem verdict_status_iff (manifest : ManifestFields) (candidateDigest manifestDigest : String)
    (ks : List ProbabilityCandidateComparison) (q : Maxima) :
    (verdictFields manifest candidateDigest manifestDigest ks q).status = .pass ↔
      candidateFailureReasons manifest.baselineStatus (ks.map fun k => k.val.metrics) q manifest =
        [] := by
  show (if manifest.baselineStatus ≠ .pass then
      ProbabilityEnsembleStatus.indeterminateBaselineUnstable
    else if candidateFailureReasons manifest.baselineStatus (ks.map fun k => k.val.metrics) q
      manifest = [] then .pass else .fail) = .pass ↔ _
  split_ifs with hs hr
  · -- an unstable baseline is a reason of its own
    have hne := mt (candidateReasons_nil_iff manifest.baselineStatus
      (ks.map fun k => k.val.metrics) q manifest).mp fun h => hs h.1
    simp only [hne]
  · simp only [hr]
  · simp only [hr]

theorem checkVerdict_ok {manifest : ManifestFields} {candidateDigest manifestDigest : String}
    {ks : List ProbabilityCandidateComparison} {q u : Maxima} {ms : List ProbabilityMetrics}
    (hc : ∀ name, requireDigestText name candidateDigest = .ok ⟨⟩)
    (hm : ∀ name, requireDigestText name manifestDigest = .ok ⟨⟩)
    (hindices : (ks.map fun k => k.val.baselineIndex) = List.range probabilityBaselineCount)
    (hq : maxima (ks.map fun k => k.val.metrics) = .ok q) (hu : maxima ms = .ok u)
    {digests excludedDigests : List String}
    (hmanifest : manifest = manifestFields digests excludedDigests ms u) :
    checkVerdict (verdictFields manifest candidateDigest manifestDigest ks q) = .ok ⟨⟩ := by
  obtain ⟨q1, q2, q3, q4, q5⟩ := maxima_nonneg hq
  obtain ⟨u1, u2, u3, u4, _⟩ := maxima_nonneg hu
  have hlength : ks.length = probabilityBaselineCount := by
    rw [← List.length_map (fun k : ProbabilityCandidateComparison => k.val.baselineIndex),
      hindices, List.length_range]
  have hcover : (ks.map fun k => k.val.baselineIndex).toFinset =
      Finset.range probabilityBaselineCount := by
    rw [hindices]
    decide
  have hstatus := verdict_status_iff manifest candidateDigest manifestDigest ks q
  subst hmanifest
  unfold checkVerdict
  refine (checked_ok_iff _ _ _).mpr ⟨⟨⟩, hc _, ?_⟩
  refine (checked_ok_iff _ _ _).mpr ⟨⟨⟩, hm _, ?_⟩
  refine (require_then_iff _ _ _ _).mpr ⟨hlength, ?_⟩
  refine (require_then_iff _ _ _ _).mpr ⟨hcover, ?_⟩
  refine (require_then_iff _ _ _ _).mpr ⟨q1, ?_⟩
  refine (require_then_iff _ _ _ _).mpr ⟨q2, ?_⟩
  refine (require_then_iff _ _ _ _).mpr ⟨q3, ?_⟩
  refine (require_then_iff _ _ _ _).mpr ⟨q4, ?_⟩
  refine (require_then_iff _ _ _ _).mpr ⟨q5, ?_⟩
  refine (require_then_iff _ _ _ _).mpr ⟨u1, ?_⟩
  refine (require_then_iff _ _ _ _).mpr ⟨u2, ?_⟩
  refine (require_then_iff _ _ _ _).mpr ⟨u3, ?_⟩
  refine (require_then_iff _ _ _ _).mpr ⟨u4, ?_⟩
  refine (require_then_iff _ _ _ _).mpr ⟨candidateReasons_nonempty _ _ _ _, ?_⟩
  exact require_of _ hstatus

open Classical in
theorem evaluate_ok {baselines : List CorrectnessArtifact} {pilot candidate : CorrectnessArtifact}
    (h : Compatible sha256 jsonDumps baselines pilot)
    (hcandidate : Eligible sha256 jsonDumps baselines pilot candidate)
    {e : ProbabilityBaselineEnsemble sha256 jsonDumps} {u : Maxima}
    (he : Built sha256 jsonDumps baselines pilot e u) :
    ∃ v q, evaluateProbabilityCandidate sha256 jsonDumps canonicalManifestBytes e candidate =
        .ok v ∧ Judged canonicalManifestBytes baselines candidate e v q := by
  obtain ⟨cs, hcs, hcontrols⟩ := controls_ok sha256 jsonDumps h.finite
  obtain ⟨w, cview, hview, hof⟩ := distribution_view hcandidate.finite
  obtain ⟨ks, hks, hindices, hmetrics⟩ := candidate_comparisons_ok h.count hcontrols hview hof
  have hne : (ks.map fun k => k.val.metrics) ≠ [] := by
    intro hnil
    rw [List.map_eq_nil_iff.mp hnil] at hindices
    exact absurd hindices (by decide)
  obtain ⟨q, hq⟩ := maxima_returns hne
  have hcheck := checkVerdict_ok
    (fun name => requireDigestText_artifact sha256 jsonDumps name candidate)
    (fun name => requireDigestText_hex name (sha256 (canonicalManifestBytes e.val.manifest)))
    hindices hq he.maxima he.manifest
  refine ⟨⟨_, hcheck⟩, q, ?_, hmetrics, hq, rfl⟩
  have hexcluded : e.val.manifest.val.excludedCandidateArtifactDigests =
      [artifactDigest sha256 jsonDumps pilot] := by
    rw [he.manifest]
    rfl
  unfold evaluateProbabilityCandidate
  refine (require_then_iff _ _ _ _).mpr ⟨hcandidate.mode, ?_⟩
  refine (require_then_iff _ _ _ _).mpr ⟨?_, ?_⟩
  · intro reference hreference
    rw [he.controls] at hreference
    exact hcandidate.identity reference (head_mem hreference)
  refine (require_then_iff _ _ _ _).mpr ⟨?_, ?_⟩
  · rw [hexcluded, List.mem_singleton]
    exact hcandidate.notPilot
  refine (checked_ok_iff _ _ _).mpr ⟨cview, hview, ?_⟩
  rw [he.controls]
  refine (checked_ok_iff _ _ _).mpr ⟨cs, hcs, ?_⟩
  refine (checked_ok_iff _ _ _).mpr ⟨ks, hks, ?_⟩
  refine (checked_ok_iff _ _ _).mpr ⟨q, hq, ?_⟩
  exact (construct_ok_iff _ _ _).mpr rfl

/-! ## When the candidate passes -/

structure Passes (baselines : List CorrectnessArtifact) (candidate : CorrectnessArtifact)
    (manifest : ManifestFields) (q : Maxima) : Prop where
  stable : manifest.baselineStatus = .pass
  tokens : ∀ b ∈ baselines,
    candidate.val.distribution.val.sampledTokenId.intValue =
      b.val.distribution.val.sampledTokenId.intValue ∧
    topTokenId candidate.val.distribution.val = topTokenId b.val.distribution.val
  envelopes : Within q (envelopes manifest)
  ceilings : Within q hardCeilings

theorem compareViews_tokens {left right : LogprobFields} {leftView rightView : DistributionView}
    {m : ProbabilityMetrics} (h : compareViews left right leftView rightView = .ok m) :
    (m.val.sampledTokenAgreement = true ↔
        left.sampledTokenId.intValue = right.sampledTokenId.intValue) ∧
      (m.val.topTokenAgreement = true ↔ topTokenId left = topTokenId right) := by
  unfold compareViews at h
  obtain ⟨_, h⟩ := (require_then_iff _ _ _ _).mp h
  obtain ⟨x, _, h⟩ := (checked_ok_iff _ _ _).mp h
  rw [(construct_ok_iff _ _ _).mp h]
  exact ⟨decide_eq_true_iff, decide_eq_true_iff⟩

theorem metricsOf_tokens {left right : LogprobFields} {m : ProbabilityMetrics}
    (h : metricsOf left right = .ok m) :
    (m.val.sampledTokenAgreement = true ↔
        left.sampledTokenId.intValue = right.sampledTokenId.intValue) ∧
      (m.val.topTokenAgreement = true ↔ topTokenId left = topTokenId right) := by
  obtain ⟨leftView, _, h⟩ := (checked_ok_iff _ _ _).mp h
  obtain ⟨rightView, _, h⟩ := (checked_ok_iff _ _ _).mp h
  exact compareViews_tokens h

theorem tokensAgree_all {baselines : List CorrectnessArtifact} {candidate : LogprobFields}
    {ms : List ProbabilityMetrics}
    (h : ms.map Except.ok = (distributions baselines).map (metricsOf candidate)) :
    TokensAgree ms ↔ ∀ b ∈ baselines,
      candidate.sampledTokenId.intValue = b.val.distribution.val.sampledTokenId.intValue ∧
      topTokenId candidate = topTokenId b.val.distribution.val := by
  constructor
  · intro hall b hb
    have hmem : metricsOf candidate b.val.distribution.val ∈ ms.map Except.ok := by
      rw [h]
      exact List.mem_map_of_mem (List.mem_map_of_mem hb)
    obtain ⟨m, hm, hof⟩ := List.mem_map.mp hmem
    obtain ⟨hs, ht⟩ := metricsOf_tokens hof.symm
    exact ⟨hs.mp (hall m hm).1, ht.mp (hall m hm).2⟩
  · intro hall m hm
    have hmem : Except.ok m ∈ (distributions baselines).map (metricsOf candidate) := by
      rw [← h]
      exact List.mem_map_of_mem hm
    obtain ⟨d, hd, hof⟩ := List.mem_map.mp hmem
    obtain ⟨b, hb, rfl⟩ := List.mem_map.mp hd
    obtain ⟨hs, ht⟩ := metricsOf_tokens hof
    exact ⟨hs.mpr (hall b hb).1, ht.mpr (hall b hb).2⟩

variable {canonicalManifestBytes}

theorem passes_iff {baselines : List CorrectnessArtifact} {candidate : CorrectnessArtifact}
    {e : ProbabilityBaselineEnsemble sha256 jsonDumps} {v : ProbabilityCandidateVerdict}
    {q : Maxima} (hv : Judged canonicalManifestBytes baselines candidate e v q) :
    v.val.status = .pass ↔ Passes baselines candidate e.val.manifest.val q := by
  rw [hv.fields, verdict_status_iff, candidateReasons_nil_iff, tokensAgree_all hv.metrics]
  constructor
  · rintro ⟨hs, ht, hu, hh⟩
    exact ⟨hs, ht, hu, hh⟩
  · intro h
    exact ⟨h.stable, h.tokens, h.envelopes, h.ceilings⟩

/-! ## Rearranged controls -/

theorem compatible_perm {baselines baselines' : List CorrectnessArtifact}
    {pilot : CorrectnessArtifact} (hp : baselines.Perm baselines')
    (h : Compatible sha256 jsonDumps baselines pilot) :
    Compatible sha256 jsonDumps baselines' pilot where
  count := hp.length_eq ▸ h.count
  fullPrefill := fun b hb => h.fullPrefill b (hp.mem_iff.mpr hb)
  identity := fun a ha b hb => h.identity a (hp.mem_iff.mpr ha) b (hp.mem_iff.mpr hb)
  finite := fun b hb => h.finite b (hp.mem_iff.mpr hb)
  distinct := (hp.map _).nodup_iff.mp h.distinct
  pilotMode := h.pilotMode
  pilotIdentity := fun b hb => h.pilotIdentity b (hp.mem_iff.mpr hb)
  pilotExcluded := mt (hp.map _).mem_iff.mpr h.pilotExcluded

theorem eligible_perm {baselines baselines' : List CorrectnessArtifact}
    {pilot candidate : CorrectnessArtifact} (hp : baselines.Perm baselines')
    (h : Eligible sha256 jsonDumps baselines pilot candidate) :
    Eligible sha256 jsonDumps baselines' pilot candidate where
  mode := h.mode
  identity := fun b hb => h.identity b (hp.mem_iff.mpr hb)
  notPilot := h.notPilot
  finite := h.finite

theorem ok_injective : Function.Injective (Except.ok : ProbabilityMetrics → Except String _) :=
  fun _ _ h => Except.ok.inj h

theorem distributions_comm {baselines : List CorrectnessArtifact}
    (hf : ∀ b ∈ baselines, Finite b.val.distribution.val) :
    ∀ a ∈ distributions baselines, ∀ b ∈ distributions baselines,
      metricsOf a b = metricsOf b a := by
  intro a ha b hb
  obtain ⟨x, hx, rfl⟩ := List.mem_map.mp ha
  obtain ⟨y, hy, rfl⟩ := List.mem_map.mp hb
  obtain ⟨_, _, hvx, _⟩ := distribution_view (hf x hx)
  obtain ⟨_, _, hvy, _⟩ := distribution_view (hf y hy)
  exact metricsOf_comm hvx hvy

/-- Only the digests and the order of the comparisons follow the order of the controls. -/
structure SameManifest (m m' : ManifestFields) : Prop where
  digests : m.artifactDigests.Perm m'.artifactDigests
  rest : m' = { m with artifactDigests := m'.artifactDigests }

theorem built_perm {baselines baselines' : List CorrectnessArtifact}
    {pilot : CorrectnessArtifact} (hp : baselines.Perm baselines')
    (hf : ∀ b ∈ baselines, Finite b.val.distribution.val)
    {e e' : ProbabilityBaselineEnsemble sha256 jsonDumps} {u u' : Maxima}
    (he : Built sha256 jsonDumps baselines pilot e u)
    (he' : Built sha256 jsonDumps baselines' pilot e' u') :
    (e.val.comparisons.map fun k => k.val.metrics).Perm
        (e'.val.comparisons.map fun k => k.val.metrics) ∧
      SameManifest e.val.manifest.val e'.val.manifest.val := by
  have hmetrics : (e.val.comparisons.map fun k => k.val.metrics).Perm
      (e'.val.comparisons.map fun k => k.val.metrics) := by
    rw [← List.map_perm_map_iff ok_injective, he.metrics, he'.metrics]
    exact pairs_perm _ (hp.map _) (distributions_comm hf)
  have hu : u = u' := by
    have h := maxima_perm hmetrics
    rw [he.maxima, he'.maxima] at h
    exact Except.ok.inj h
  refine ⟨hmetrics, ?_, ?_⟩
  · rw [he.manifest, he'.manifest]
    exact hp.map _
  · rw [he.manifest, he'.manifest, ← hu]
    simp only [manifestFields, baselineReasons_perm hmetrics]

/-- The verdict on rearranged controls differs in the digest of the manifest and in
the order of the comparisons. -/
structure SameVerdict (v v' : VerdictFields) : Prop where
  metrics : (v.comparisons.map fun k => k.val.metrics).Perm
    (v'.comparisons.map fun k => k.val.metrics)
  rest : v' = { v with manifestDigest := v'.manifestDigest, comparisons := v'.comparisons }

theorem judged_perm {baselines baselines' : List CorrectnessArtifact}
    {candidate : CorrectnessArtifact} (hp : baselines.Perm baselines')
    {e e' : ProbabilityBaselineEnsemble sha256 jsonDumps}
    (hm : SameManifest e.val.manifest.val e'.val.manifest.val)
    {v v' : ProbabilityCandidateVerdict} {q q' : Maxima}
    (hv : Judged canonicalManifestBytes baselines candidate e v q)
    (hv' : Judged canonicalManifestBytes baselines' candidate e' v' q') :
    SameVerdict v.val v'.val := by
  have hmetrics : (v.val.comparisons.map fun k => k.val.metrics).Perm
      (v'.val.comparisons.map fun k => k.val.metrics) := by
    rw [← List.map_perm_map_iff ok_injective, hv.metrics, hv'.metrics]
    exact (hp.map _).map _
  have hq : q = q' := by
    have h := maxima_perm hmetrics
    rw [hv.maxima, hv'.maxima] at h
    exact Except.ok.inj h
  refine ⟨hmetrics, ?_⟩
  have hreasons : ∀ status : ProbabilityEnsembleStatus, candidateFailureReasons status
      (v.val.comparisons.map fun k => k.val.metrics) q e.val.manifest.val =
      candidateFailureReasons status (v'.val.comparisons.map fun k => k.val.metrics) q
        e'.val.manifest.val := by
    intro status
    rw [candidateReasons_perm status hmetrics, hm.rest]
    rfl
  rw [hv.fields, hv'.fields, ← hq]
  simp only [verdictFields, hreasons]
  rw [hm.rest]

end

/-! ## The gate -/

noncomputable def logprobVector (d : LogprobFields) (i : Fin d.values.length) : ℝ :=
  realValue (d.values.get i)

/-- What a comparison of two vectors says about them. -/
structure Comparison (left right : LogprobFields) (leftView rightView : DistributionView)
    (m : ProbabilityMetrics) : Prop where
  leftReturns : view left = .ok leftView
  rightReturns : view right = .ok rightView
  forward : compareViews left right leftView rightView = .ok m
  backward : compareViews right left rightView leftView = .ok m
  leftSoftmax : leftView.probabilities = List.ofFn (softmax (logprobVector left))
  rightSoftmax : rightView.probabilities = List.ofFn (softmax (logprobVector right))
  totalVariation : m.val.totalVariation ∈ Set.Icc 0 1
  jensenShannon : m.val.jensenShannonDivergence ∈ Set.Icc 0 (Real.log 2)
  totalVariation_zero : m.val.totalVariation = 0 ↔
    leftView.probabilities = rightView.probabilities
  jensenShannon_zero : m.val.jensenShannonDivergence = 0 ↔
    leftView.probabilities = rightView.probabilities
  leftSupport : LeastSupport leftView.probabilities leftView.highMassSupport
  rightSupport : LeastSupport rightView.probabilities rightView.highMassSupport

theorem logprobVector_view {d : LogprobFields} (hne : d.values ≠ []) (hf : Finite d) :
    ∃ w, view d = .ok w ∧ ViewOf (logprobVector d) w := by
  have hz : NeZero d.values.length := ⟨mt List.length_eq_zero_iff.mp hne⟩
  apply view_ok hf
  have hvector : logprobVector d = fun i => realValue (d.values.get i) := rfl
  rw [hvector, ← Function.comp_def realValue, ← List.map_ofFn, List.ofFn_get]

theorem comparison_of {left right : LogprobFields} (hne : left.values ≠ [])
    (hlen : left.values.length = right.values.length) (hl : Finite left) (hr : Finite right) :
    ∃ leftView rightView m, Comparison left right leftView rightView m := by
  have hz : NeZero left.values.length := ⟨mt List.length_eq_zero_iff.mp hne⟩
  have hne' : right.values ≠ [] := by
    intro h
    rw [h, List.length_nil] at hlen
    exact hne (List.length_eq_zero_iff.mp hlen)
  obtain ⟨leftView, hleft, hof⟩ := logprobVector_view hne hl
  obtain ⟨rightView, hright, hright'⟩ := logprobVector_view hne' hr
  -- the right vector, indexed as the left one
  obtain ⟨v, hv⟩ := exists_vector hlen.symm
  obtain ⟨w, hw, hof'⟩ := view_ok hr hv
  rw [hright] at hw
  cases hw
  obtain ⟨m, hm, measures⟩ := compareViews_ok left right hof hof'
  have hmem := softmax_mem (logprobVector left)
  have hmem' := softmax_mem v
  have hequal : leftView.probabilities = rightView.probabilities ↔
      softmax (logprobVector left) = softmax v := by
    rw [hof.probabilities, hof'.probabilities, List.ofFn_inj]
  refine ⟨leftView, rightView, m, hleft, hright, hm, ?_, hof.probabilities,
    hright'.probabilities, ?_, ?_, ?_, ?_, hof.support, hof'.support⟩
  · rw [← compareViews_comm]
    exact hm
  · rw [measures.totalVariation]
    exact ⟨totalVariation_nonneg _ _, totalVariation_le_one hmem hmem'⟩
  · rw [measures.jensenShannon]
    exact ⟨jensenShannon_nonneg hmem.1 hmem'.1, jensenShannon_le hmem hmem'⟩
  · rw [measures.totalVariation, totalVariation_eq_zero_iff, hequal]
  · rw [measures.jensenShannon, jensenShannon_eq_zero_iff hmem.1 hmem'.1, hequal]

/-- Comparisons of finite vectors stay in the range of their metrics, and the gate
returns a verdict that depends on the set of the controls only. -/
theorem probability_gate (sha256 : Bytes → Digest) (jsonDumps : JsonValue → Bytes)
    (canonicalManifestBytes : ProbabilityBaselineManifest → Bytes) :
    (∀ left right : LogprobFields, left.values ≠ [] →
      left.values.length = right.values.length → Finite left → Finite right →
      ∃ leftView rightView m, Comparison left right leftView rightView m) ∧
    ∀ (baselines : List CorrectnessArtifact) (pilot candidate : CorrectnessArtifact),
      Compatible sha256 jsonDumps baselines pilot →
      Eligible sha256 jsonDumps baselines pilot candidate →
      ∃ e u v q,
        buildProbabilityBaselineEnsemble sha256 jsonDumps baselines [pilot] = .ok e ∧
        Built sha256 jsonDumps baselines pilot e u ∧
        evaluateProbabilityCandidate sha256 jsonDumps canonicalManifestBytes e candidate =
          .ok v ∧
        Judged canonicalManifestBytes baselines candidate e v q ∧
        (v.val.status = .pass ↔ Passes baselines candidate e.val.manifest.val q) ∧
        ∀ baselines', baselines.Perm baselines' → ∃ e' v',
          buildProbabilityBaselineEnsemble sha256 jsonDumps baselines' [pilot] = .ok e' ∧
          evaluateProbabilityCandidate sha256 jsonDumps canonicalManifestBytes e' candidate =
            .ok v' ∧
          SameManifest e.val.manifest.val e'.val.manifest.val ∧
          SameVerdict v.val v'.val := by
  refine ⟨fun left right => comparison_of, ?_⟩
  intro baselines pilot candidate h hcandidate
  obtain ⟨e, u, he, hbuilt⟩ := build_ok h
  obtain ⟨v, q, hv, hjudged⟩ := evaluate_ok canonicalManifestBytes h hcandidate hbuilt
  refine ⟨e, u, v, q, he, hbuilt, hv, hjudged, passes_iff hjudged, ?_⟩
  intro baselines' hp
  have h' := compatible_perm hp h
  obtain ⟨e', u', he', hbuilt'⟩ := build_ok h'
  obtain ⟨v', q', hv', hjudged'⟩ :=
    evaluate_ok canonicalManifestBytes h' (eligible_perm hp hcandidate) hbuilt'
  have hmanifest := (built_perm hp h.finite hbuilt hbuilt').2
  exact ⟨e', v', he', hv', hmanifest, judged_perm hp hmanifest hjudged hjudged'⟩

/-! ## Five controls on five levels -/

def literal (s : String) : JsonValue := .text (pyText s)

def exampleHex (length : ℕ) : JsonValue := .text (List.replicate length (codePoint 'a'))

def exampleRuntime : CorrectnessRuntimeIdentity :=
  ⟨⟨literal "openai/gpt-oss-20b", literal "r", literal "r", exampleHex 40, exampleHex 64,
    exampleHex 64, literal "0.19.1", literal "0.4.3", literal "2.10.0+cu128", literal "12.8",
    literal "NVIDIA A100-SXM4-80GB", literal "torch.bfloat16"⟩, by decide +kernel⟩

def examplePrompt : PromptCaseIdentity :=
  ⟨⟨.cacheMiss, exampleHex 64, .integer 1, exampleHex 64, .integer 1, []⟩, by decide +kernel⟩

def exampleEvidence : ConnectorCorrectnessEvidence :=
  ⟨⟨.integer 1, .integer 0, .integer 0, .integer 0, .integer 1, .integer 0⟩, by decide +kernel⟩

theorem exampleWork : WorkAgrees examplePrompt exampleEvidence := by decide

/-- Every token has one log probability, lower by 1/1024 from level to level. -/
def level (k : ℕ) : List PyFloat := List.replicate gptOssVocabSize (.finite (-k/1024))

theorem mem_level {k : ℕ} {x : PyFloat} (h : x ∈ level k) : x = .finite (-k/1024) :=
  List.eq_of_mem_replicate h

def exampleDistribution (k : ℕ) : FullVocabularyLogprobs :=
  ⟨⟨level k, .integer 0⟩, by
    refine (require_then_iff _ _ _ _).mpr ⟨List.length_replicate, ?_⟩
    refine (require_then_iff _ _ _ _).mpr ⟨?_, require_of _ fun x hx => ?_⟩
    · simp only [level, List.length_replicate]
      decide
    · rw [mem_level hx]
      exact ⟨nofun, nofun⟩⟩

def exampleControl (k : ℕ) : CorrectnessArtifact :=
  ⟨⟨.integer 2, .fullPrefill, exampleRuntime, examplePrompt, exampleDistribution k, none⟩,
    (require_then_iff _ _ _ _).mpr ⟨rfl, rfl⟩⟩

def exampleCandidate (k : ℕ) : CorrectnessArtifact :=
  ⟨⟨.integer 2, .cacheblend100pct, exampleRuntime, examplePrompt, exampleDistribution k,
    some exampleEvidence⟩, (require_then_iff _ _ _ _).mpr ⟨rfl, require_of _ exampleWork⟩⟩

def exampleControls : List CorrectnessArtifact := [0, 1, 2, 3, 4].map exampleControl

/-- The level of the first token and the length of the mode's name. -/
def exampleDumps : JsonValue → Bytes
  | .mapping entries =>
    let first := match field entries "distribution" with
      | .mapping d => match field d "values" with
        | .list (.float (.finite q)::_) => (-q*1024).num.toNat
        | _ => 0
      | _ => 0
    [UInt8.ofNat first, UInt8.ofNat (field entries "run_mode").textValue.length]
  | _ => []

def exampleSha (b : Bytes) : Digest :=
  ⟨(b ++ List.replicate 32 0).take 32, by simp⟩

theorem exampleDigest {a : CorrectnessArtifact} {k : ℕ}
    (h : a.val.distribution = exampleDistribution k) :
    artifactDigest exampleSha exampleDumps a =
      hex (exampleSha [UInt8.ofNat k, UInt8.ofNat (pyText a.val.runMode.value).length]).val := by
  obtain ⟨_, hmode, _, _, hdistribution, _⟩ := CorrectnessCodec.artifactRecord_fields a.val
  obtain ⟨_, _, hvalues⟩ := CorrectnessCodec.distributionRecord_fields a.val.distribution.val
  have hfirst : (a.val.distribution.val.values.map CorrectnessCodec.encodeLogprob) =
      .float (.finite (-k/1024)) :: ((level k).tail.map CorrectnessCodec.encodeLogprob) := by
    rw [h]
    rfl
  have hlevel : (-(-(k : ℚ)/1024)*1024).num.toNat = k := by
    rw [neg_div, neg_neg, div_mul_cancel₀ _ (by norm_num), Rat.num_natCast, Int.toNat_natCast]
  rw [hfirst] at hvalues
  simp only [artifactDigest, CorrectnessCodec.artifactToDict, exampleDumps, hmode, hdistribution,
    hvalues, hlevel]
  rfl

theorem controlDigest (k : ℕ) : artifactDigest exampleSha exampleDumps (exampleControl k) =
    hex (exampleSha [UInt8.ofNat k, 12]).val := by
  have hmode : UInt8.ofNat (pyText CorrectnessRunMode.fullPrefill.value).length = 12 := by
    decide +kernel
  rw [exampleDigest (show (exampleControl k).val.distribution = exampleDistribution k from rfl),
    ← hmode]
  rfl

theorem candidateDigest (k : ℕ) : artifactDigest exampleSha exampleDumps (exampleCandidate k) =
    hex (exampleSha [UInt8.ofNat k, 17]).val := by
  have hmode : UInt8.ofNat (pyText CorrectnessRunMode.cacheblend100pct.value).length = 17 := by
    decide +kernel
  rw [exampleDigest (show (exampleCandidate k).val.distribution = exampleDistribution k from rfl),
    ← hmode]
  rfl

theorem exampleDigests : exampleControls.map (artifactDigest exampleSha exampleDumps) =
    [0, 1, 2, 3, 4].map fun n : UInt8 => hex (exampleSha [n, 12]).val := by
  simp only [exampleControls, List.map_cons, List.map_nil, controlDigest]
  rfl

theorem level_finite (k : ℕ) : ∀ x ∈ level k, isFinite x = true := by
  intro x hx
  rw [mem_level hx]
  rfl

theorem exampleControls_mem {b : CorrectnessArtifact} (h : b ∈ exampleControls) :
    ∃ k ≤ 4, b = exampleControl k := by
  obtain ⟨k, hk, rfl⟩ := List.mem_map.mp h
  have hle : ∀ k ∈ [0, 1, 2, 3, 4], k ≤ 4 := by decide
  exact ⟨k, hle k hk, rfl⟩

theorem exampleCompatible :
    Compatible exampleSha exampleDumps exampleControls (exampleCandidate 0) where
  count := rfl
  fullPrefill := fun b hb => by
    obtain ⟨_, _, rfl⟩ := exampleControls_mem hb
    rfl
  identity := fun a ha b hb => by
    obtain ⟨_, _, rfl⟩ := exampleControls_mem ha
    obtain ⟨_, _, rfl⟩ := exampleControls_mem hb
    exact ⟨rfl, rfl⟩
  finite := fun b hb => by
    obtain ⟨k, _, rfl⟩ := exampleControls_mem hb
    exact level_finite k
  distinct := by
    rw [exampleDigests]
    decide +kernel
  pilotMode := rfl
  pilotIdentity := fun b hb => by
    obtain ⟨_, _, rfl⟩ := exampleControls_mem hb
    exact ⟨rfl, rfl⟩
  pilotExcluded := by
    rw [exampleDigests, candidateDigest]
    decide +kernel

theorem exampleEligible : Eligible exampleSha exampleDumps exampleControls (exampleCandidate 0)
    (exampleCandidate 2) where
  mode := rfl
  identity := fun b hb => by
    obtain ⟨_, _, rfl⟩ := exampleControls_mem hb
    exact ⟨rfl, rfl⟩
  notPilot := by
    rw [candidateDigest, candidateDigest]
    decide +kernel
  finite := level_finite 2

/-! ## Metrics of two levels -/

theorem level_top (k : ℕ) : topTokenId (exampleDistribution k).val = some 0 := by
  have hrank : ∀ i < gptOssVocabSize, rank ((level k).getD i .nan) = rank (.finite (-k/1024)) := by
    intro i hi
    rw [level, List.getD_eq_getElem?_getD, List.getElem?_replicate_of_lt hi]
    rfl
  have hlength : (exampleDistribution k).val.values.length = gptOssVocabSize :=
    List.length_replicate
  unfold topTokenId
  rw [hlength]
  refine List.argmax_eq_some_iff.mpr ⟨List.mem_range.mpr (by decide), fun i hi => ?_,
    fun i _ _ => ?_⟩
  · show rank ((level k).getD i .nan) ≤ rank ((level k).getD 0 .nan)
    rw [hrank i (List.mem_range.mp hi), hrank 0 (by decide)]
  · have hzero : (List.range gptOssVocabSize).idxOf 0 = 0 := by
      rw [show gptOssVocabSize = 201087+1 from rfl, List.range_succ_eq_map]
      exact List.idxOf_cons_self
    rw [hzero]
    exact Nat.zero_le _

theorem level_view (k : ℕ) : ∃ w, view (exampleDistribution k).val = .ok w ∧
    ViewOf (fun _ : Fin gptOssVocabSize => -(k : ℝ)/1024) w := by
  have hne : NeZero gptOssVocabSize := ⟨by decide⟩
  apply view_ok (level_finite k)
  show (level k).map realValue = _
  rw [level, List.map_replicate, List.ofFn_const]
  simp [realValue]

theorem level_metrics {j k : ℕ} {m : ProbabilityMetrics}
    (h : metricsOf (exampleDistribution j).val (exampleDistribution k).val = .ok m) :
    m.val.fullMeanAbsLogprob = |(j : ℝ)-k|/1024 ∧ m.val.totalVariation = 0 ∧
      m.val.jensenShannonDivergence = 0 ∧ m.val.highMassMaxAbsLogprob = |(j : ℝ)-k|/1024 := by
  have hne : NeZero gptOssVocabSize := ⟨by decide⟩
  obtain ⟨leftView, hleft, hl⟩ := level_view j
  obtain ⟨rightView, hright, hr⟩ := level_view k
  obtain ⟨m', hm, hmeasures⟩ := compareViews_ok (exampleDistribution j).val
    (exampleDistribution k).val hl hr
  rw [metricsOf_views hleft hright, hm] at h
  cases h
  have hdiff : |-(j : ℝ)/1024-(-(k : ℝ)/1024)| = |(j : ℝ)-k|/1024 := by
    rw [← sub_div, abs_div, abs_sub_comm]
    norm_num
    ring_nf
  have hsoftmax : softmax (fun _ : Fin gptOssVocabSize => -(j : ℝ)/1024) =
      softmax fun _ => -(k : ℝ)/1024 := by
    have hshift : (fun _ : Fin gptOssVocabSize => -(j : ℝ)/1024) =
        fun _ => -(k : ℝ)/1024-((j : ℝ)-k)/1024 := by
      funext i
      ring
    rw [hshift, softmax_shift]
  refine ⟨?_, ?_, ?_, ?_⟩
  · rw [hmeasures.fullMean, Finset.sum_const, Finset.card_univ, Fintype.card_fin, nsmul_eq_mul,
      hdiff, mul_div_cancel_left₀ _ (by norm_num [gptOssVocabSize])]
  · rw [hmeasures.totalVariation, totalVariation_eq_zero_iff, hsoftmax]
  · rw [hmeasures.jensenShannon, hsoftmax]
    exact (jensenShannon_eq_zero_iff (softmax_mem _).1 (softmax_mem _).1).mpr rfl
  · obtain ⟨i, hi, he⟩ := hmeasures.highMass.1
    have hlt : i < gptOssVocabSize := by
      obtain hi | hi := Finset.mem_union.mp hi
      · have hin := Finset.mem_range.mp (hl.support.support.1 hi)
        rwa [hl.probabilities, List.length_ofFn] at hin
      · have hin := Finset.mem_range.mp (hr.support.support.1 hi)
        rwa [hr.probabilities, List.length_ofFn] at hin
    rw [he, ← hdiff, List.ofFn_const, List.ofFn_const, List.getD_eq_getElem?_getD,
      List.getD_eq_getElem?_getD, List.getElem?_replicate_of_lt hlt,
      List.getElem?_replicate_of_lt hlt]
    rfl

/-! ## A verdict -/

theorem example_distributions : distributions exampleControls =
    [0, 1, 2, 3, 4].map fun k => (exampleDistribution k).val := rfl

theorem levels_agree {j k : ℕ} {m : ProbabilityMetrics}
    (h : metricsOf (exampleDistribution j).val (exampleDistribution k).val = .ok m) :
    m.val.sampledTokenAgreement = true ∧ m.val.topTokenAgreement = true := by
  obtain ⟨hsampled, htop⟩ := metricsOf_tokens h
  exact ⟨hsampled.mpr rfl, htop.mpr ((level_top j).trans (level_top k).symm)⟩

theorem maxima_between {ms : List ProbabilityMetrics} {u : Maxima} (hu : maxima ms = .ok u)
    {steps : ℝ} (h : ∀ m ∈ ms, ∃ j k : ℕ, |(j : ℝ)-k| ≤ steps ∧
      metricsOf (exampleDistribution j).val (exampleDistribution k).val = .ok m) :
    u.fullMean ≤ steps/1024 ∧ u.totalVariation = 0 ∧ u.jensenShannon = 0 ∧
      u.highMass ≤ steps/1024 := by
  obtain ⟨⟨⟨m1, hm1, h1⟩, _⟩, ⟨⟨m2, hm2, h2⟩, _⟩, ⟨⟨m3, hm3, h3⟩, _⟩, ⟨⟨m4, hm4, h4⟩, _⟩, _⟩ :=
    (maxima_ok_iff ms u).mp hu
  obtain ⟨j1, k1, hle1, hmetrics1⟩ := h m1 hm1
  obtain ⟨_, _, _, hmetrics2⟩ := h m2 hm2
  obtain ⟨_, _, _, hmetrics3⟩ := h m3 hm3
  obtain ⟨j4, k4, hle4, hmetrics4⟩ := h m4 hm4
  refine ⟨?_, h2.trans (level_metrics hmetrics2).2.1, h3.trans (level_metrics hmetrics3).2.2.1, ?_⟩
  · rw [h1, (level_metrics hmetrics1).1]
    exact div_le_div_of_nonneg_right hle1 (by norm_num)
  · rw [h4, (level_metrics hmetrics4).2.2.2]
    exact div_le_div_of_nonneg_right hle4 (by norm_num)

theorem within_ceilings {u : Maxima} {steps : ℝ} (hsteps : steps ≤ 4)
    (h : u.fullMean ≤ steps/1024 ∧ u.totalVariation = 0 ∧ u.jensenShannon = 0 ∧
      u.highMass ≤ steps/1024) : Within u hardCeilings := by
  obtain ⟨hmean, hvariation, hjs, hmass⟩ := h
  refine ⟨?_, ?_, ?_, ?_⟩
  · show u.fullMean ≤ hardFullMeanAbsLogprobCeiling
    norm_num [hardFullMeanAbsLogprobCeiling]
    linarith
  · rw [hvariation]
    exact constants_nonneg.2.2.1
  · rw [hjs]
    exact constants_nonneg.2.2.2.1
  · show u.highMass ≤ hardHighMassMaxAbsLogprobCeiling
    norm_num [hardHighMassMaxAbsLogprobCeiling]
    linarith

theorem levels_apart {i j : ℕ} (hi : i ≤ 4) (hj : j ≤ 4) : |(i : ℝ)-j| ≤ 4 := by
  have hi' : (i : ℝ) ≤ 4 := by exact_mod_cast hi
  have hj' : (j : ℝ) ≤ 4 := by exact_mod_cast hj
  have hi0 : (0 : ℝ) ≤ i := Nat.cast_nonneg i
  have hj0 : (0 : ℝ) ≤ j := Nat.cast_nonneg j
  exact abs_le.mpr ⟨by linarith, by linarith⟩

theorem passes_between {e : ProbabilityBaselineEnsemble exampleSha exampleDumps} {u q : Maxima}
    {v : ProbabilityCandidateVerdict}
    (hbuilt : Built exampleSha exampleDumps exampleControls (exampleCandidate 0) e u)
    (hjudged : Judged (fun _ => []) exampleControls (exampleCandidate 2) e v q) :
    Passes exampleControls (exampleCandidate 2) e.val.manifest.val q := by
  have hpairs : (e.val.comparisons.map fun k => k.val.metrics).map Except.ok =
      (pairs [0, 1, 2, 3, 4]).map fun p =>
        metricsOf (exampleDistribution p.1).val (exampleDistribution p.2).val := by
    rw [hbuilt.metrics, example_distributions, pairs_map, List.map_map]
    rfl
  have hcontrols : ∀ m ∈ e.val.comparisons.map fun k => k.val.metrics, ∃ j k : ℕ,
      |(j : ℝ)-k| ≤ 4 ∧
        metricsOf (exampleDistribution j).val (exampleDistribution k).val = .ok m := by
    intro m hm
    have hmem : Except.ok m ∈ (pairs [0, 1, 2, 3, 4]).map fun p =>
        metricsOf (exampleDistribution p.1).val (exampleDistribution p.2).val :=
      hpairs ▸ List.mem_map_of_mem hm
    obtain ⟨p, hp, hof⟩ := List.mem_map.mp hmem
    have hbound : ∀ p ∈ pairs [0, 1, 2, 3, 4], p.1 ≤ 4 ∧ p.2 ≤ 4 := by decide
    exact ⟨p.1, p.2, levels_apart (hbound p hp).1 (hbound p hp).2, hof⟩
  have hcandidates : (v.val.comparisons.map fun k => k.val.metrics).map Except.ok =
      [0, 1, 2, 3, 4].map fun k =>
        metricsOf (exampleDistribution 2).val (exampleDistribution k).val := by
    rw [hjudged.metrics, example_distributions, List.map_map]
    rfl
  have hverdict : ∀ m ∈ v.val.comparisons.map fun k => k.val.metrics, ∃ j k : ℕ,
      |(j : ℝ)-k| ≤ 2 ∧
        metricsOf (exampleDistribution j).val (exampleDistribution k).val = .ok m := by
    intro m hm
    have hmem : Except.ok m ∈ [0, 1, 2, 3, 4].map fun k =>
        metricsOf (exampleDistribution 2).val (exampleDistribution k).val :=
      hcandidates ▸ List.mem_map_of_mem hm
    obtain ⟨k, hk, hof⟩ := List.mem_map.mp hmem
    refine ⟨2, k, ?_, hof⟩
    simp only [List.mem_cons, List.not_mem_nil, or_false] at hk
    rcases hk with rfl | rfl | rfl | rfl | rfl <;> norm_num
  have hu := maxima_between hbuilt.maxima hcontrols
  have hq := maxima_between hjudged.maxima hverdict
  -- the lowest and the highest control are four steps apart
  obtain ⟨m, hm, hspread⟩ : ∃ m ∈ e.val.comparisons.map fun k => k.val.metrics,
      metricsOf (exampleDistribution 0).val (exampleDistribution 4).val = .ok m := by
    have hmem : metricsOf (exampleDistribution 0).val (exampleDistribution 4).val ∈
        (e.val.comparisons.map fun k => k.val.metrics).map Except.ok := by
      rw [hpairs]
      exact List.mem_map.mpr ⟨(0, 4), by decide, rfl⟩
    obtain ⟨m, hm, hof⟩ := List.mem_map.mp hmem
    exact ⟨m, hm, hof.symm⟩
  obtain ⟨hspreadMean, _, _, hspreadMass⟩ := level_metrics hspread
  obtain ⟨⟨_, hmean⟩, _, _, ⟨_, hmass⟩, _⟩ := (maxima_ok_iff _ _).mp hbuilt.maxima
  have hmean := hmean ⟨m, hm, rfl⟩
  have hmass := hmass ⟨m, hm, rfl⟩
  rw [hspreadMean] at hmean
  rw [hspreadMass] at hmass
  norm_num at hmean hmass
  have hagree : TokensAgree (e.val.comparisons.map fun k => k.val.metrics) := by
    intro m hm
    obtain ⟨_, _, _, hof⟩ := hcontrols m hm
    exact levels_agree hof
  constructor
  · rw [hbuilt.manifest]
    exact if_pos ((baselineReasons_nil_iff _ _).mpr ⟨within_ceilings le_rfl hu, hagree⟩)
  · intro b hb
    obtain ⟨k, _, rfl⟩ := exampleControls_mem hb
    exact ⟨rfl, (level_top 2).trans (level_top k).symm⟩
  · rw [hbuilt.manifest]
    refine ⟨show q.fullMean ≤ u.fullMean by linarith [hq.1], ?_, ?_,
      show q.highMass ≤ u.highMass by linarith [hq.2.2.2]⟩
    · exact (hq.2.1.trans hu.2.1.symm).le
    · exact (hq.2.2.1.trans hu.2.2.1.symm).le
  · exact within_ceilings (by norm_num) hq

/-- The gate passes a candidate on the middle level. -/
theorem middle_level_passes :
    (∃ leftView rightView m, Comparison (exampleDistribution 0).val (exampleDistribution 4).val
      leftView rightView m) ∧
    ∃ e v, buildProbabilityBaselineEnsemble exampleSha exampleDumps exampleControls
        [exampleCandidate 0] = .ok e ∧
      evaluateProbabilityCandidate exampleSha exampleDumps (fun _ => []) e (exampleCandidate 2) =
        .ok v ∧ v.val.status = .pass := by
  obtain ⟨hcompare, hgate⟩ := probability_gate exampleSha exampleDumps fun _ => []
  refine ⟨hcompare _ _ ?_ (List.length_replicate.trans List.length_replicate.symm)
    (level_finite 0) (level_finite 4), ?_⟩
  · intro h
    have hlength : gptOssVocabSize = 0 := List.length_replicate.symm.trans (congrArg List.length h)
    exact absurd hlength (by decide)
  obtain ⟨e, u, v, q, he, hbuilt, hv, hjudged, hpass, _⟩ := hgate exampleControls
    (exampleCandidate 0) (exampleCandidate 2) exampleCompatible exampleEligible
  exact ⟨e, v, he, hv, hpass.mpr (passes_between hbuilt hjudged)⟩

end CacheBlend.ProbabilityGate
