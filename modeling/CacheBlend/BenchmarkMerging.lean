import CacheBlend.BenchmarkSummaries

/-!
# Merging benchmark artifacts

Artifacts with equal identities are merged into one artifact with all their
trials, under the fields of the first. The conditions that the constructor adds
are on the trials as a collection, so a merge may be made in groups and in any
order.
-/

set_option autoImplicit false

namespace CacheBlend.BenchmarkMerging
open CacheBlend.JsonValues CacheBlend.CorrectnessModels CacheBlend.BenchmarkModels
open CacheBlend.BenchmarkSummaries

/-! ## Identities -/

/-- What `==` compares of a scalar; a boolean is a number as well. The fields
of an artifact's identity are null, finite numbers or texts. -/
inductive Scalar where
  | null
  | number (q : ℚ)
  | text (t : PyText)
  | other
  deriving DecidableEq

def scalar : JsonValue → Scalar
  | .null => .null
  | .boolean b => .number (if b = true then 1 else 0)
  | .integer n => .number n
  | .float (.finite q) => .number q
  | .text t => .text t
  | _ => .other

def runtimeScalars (f : RuntimeFields) : List Scalar :=
  [f.modelId, f.modelRevision, f.tokenizerRevision, f.pluginCommit, f.modelConfigDigest,
    f.kvCacheConfigDigest, f.vllmVersion, f.lmcacheVersion, f.torchVersion, f.cudaRuntime,
    f.gpuName, f.dtype].map scalar

structure BenchmarkIdentity where
  schemaVersion : Scalar
  runtime : List Scalar
  case : CorrectnessCase
  promptTokens : Scalar
  promptFixtureDigest : Scalar
  hostId : Scalar
  attentionBackend : Scalar
  hybridKvCacheEnabled : Scalar
  blockSize : Scalar
  maxModelLen : Scalar
  tensorParallelSize : Scalar
  pipelineParallelSize : Scalar
  samplingSeed : Scalar
  temperature : Scalar
  topP : Scalar
  deriving DecidableEq

section
variable {convert : ℤ → Option ℚ}

def identity (a : BenchmarkArtifact convert) : BenchmarkIdentity where
  schemaVersion := scalar a.val.schemaVersion
  runtime := runtimeScalars a.val.runtime.val
  case := a.val.case
  promptTokens := scalar a.val.promptTokens
  promptFixtureDigest := scalar a.val.promptFixtureDigest
  hostId := scalar a.val.hostId
  attentionBackend := scalar a.val.attentionBackend
  hybridKvCacheEnabled := scalar a.val.hybridKvCacheEnabled
  blockSize := scalar a.val.blockSize
  maxModelLen := scalar a.val.maxModelLen
  tensorParallelSize := scalar a.val.tensorParallelSize
  pipelineParallelSize := scalar a.val.pipelineParallelSize
  samplingSeed := scalar a.val.samplingSeed
  temperature := scalar a.val.temperature
  topP := scalar a.val.topP

def trialsOf (artifacts : List (BenchmarkArtifact convert)) : List (BenchmarkTrial convert) :=
  artifacts.flatMap fun a => a.val.trials

def mergeBenchmarkArtifacts :
    List (BenchmarkArtifact convert) → Except BenchmarkFault (BenchmarkArtifact convert)
  | [] => .error (.benchmark .incompatibleArtifacts)
  | first::rest => do
    require (∀ a ∈ rest, identity a = identity first) (.benchmark .incompatibleArtifacts)
    construct (checkBenchmark convert) { first.val with trials := trialsOf (first::rest) }

/-! ## What the constructor asks of the trials -/

theorem one_value {α κ : Type} [DecidableEq κ] (f : α → κ) (xs : List α) :
    (xs.map f).dedup.length = 1 ↔ xs ≠ [] ∧ ∃ k, ∀ x ∈ xs, f x = k := by
  rw [← List.card_toFinset, Finset.card_eq_one]
  constructor
  · rintro ⟨k, hk⟩
    have hmem : ∀ y, y ∈ xs.map f ↔ y = k := fun y => by
      rw [← List.mem_toFinset, hk, Finset.mem_singleton]
    refine ⟨?_, k, fun x hx => (hmem _).mp (List.mem_map_of_mem hx)⟩
    rintro rfl
    exact List.not_mem_nil ((hmem k).mpr rfl)
  · rintro ⟨hne, k, hk⟩
    obtain ⟨x, hx⟩ := List.exists_mem_of_ne_nil xs hne
    refine ⟨k, Finset.ext fun y => ?_⟩
    rw [List.mem_toFinset, Finset.mem_singleton, List.mem_map]
    constructor
    · rintro ⟨z, hz, rfl⟩
      exact hk z hz
    · rintro rfl
      exact ⟨x, hx, hk x hx⟩

theorem checkTrials_ok_iff (c : CorrectnessCase) (n : ℤ)
    (seen : List (BenchmarkArm × BenchmarkCacheState × ℤ)) (ts : List (BenchmarkTrial convert)) :
    checkTrials c n seen ts = .ok ⟨⟩ ↔
      (∀ t ∈ ts, t.val.case = c ∧ t.counters.promptTokens = n) ∧ (ts.map trialKey).Nodup ∧
        ∀ t ∈ ts, trialKey t ∉ seen := by
  induction ts generalizing seen with
  | nil => simp [checkTrials]
  | cons t ts ih =>
    rw [checkTrials, require_then_iff, require_then_iff, require_then_iff, ih]
    rw [List.forall_mem_cons, List.forall_mem_cons, List.map_cons, List.nodup_cons]
    simp only [List.mem_map, List.mem_cons, not_or, not_exists, not_and]
    constructor
    · rintro ⟨hc, hn, hs, hall, hd, hrest⟩
      exact ⟨⟨⟨hc, hn⟩, hall⟩, ⟨fun x hx => (hrest x hx).1, hd⟩, hs, fun x hx => (hrest x hx).2⟩
    · rintro ⟨⟨⟨hc, hn⟩, hall⟩, ⟨hne, hd⟩, hs, hrest⟩
      exact ⟨hc, hn, hs, hall, hd, fun x hx => ⟨hne x hx, hrest x hx⟩⟩

def OneState (ts : List (BenchmarkTrial convert)) : Prop := ∃ s, ∀ t ∈ ts, t.val.cacheState = s

theorem checkBenchmark_ok_iff (f : BenchmarkFields convert) :
    checkBenchmark convert f = .ok ⟨⟩ ↔ checkControls convert f = .ok ⟨⟩ ∧ f.trials ≠ [] ∧
      OneState f.trials ∧
      (∀ t ∈ f.trials, t.val.case = f.case ∧ t.counters.promptTokens = f.promptTokens.intValue) ∧
      (f.trials.map trialKey).Nodup := by
  have hlen : f.trials.length ≠ 0 ↔ f.trials ≠ [] := List.length_eq_zero_iff.not
  unfold checkBenchmark
  rw [checked_ok_iff]
  constructor
  · rintro ⟨⟨⟩, hc, h⟩
    obtain ⟨_, h⟩ := (require_then_iff ..).mp h
    obtain ⟨hs, h⟩ := (require_then_iff ..).mp h
    obtain ⟨hne, hone⟩ := (one_value _ _).mp hs
    obtain ⟨hall, hd, _⟩ := (checkTrials_ok_iff ..).mp h
    exact ⟨hc, hne, hone, hall, hd⟩
  · rintro ⟨hc, hne, hone, hall, hd⟩
    refine ⟨⟨⟩, hc, (require_then_iff ..).mpr ⟨hlen.mpr hne, ?_⟩⟩
    refine (require_then_iff ..).mpr ⟨(one_value _ _).mpr ⟨hne, hone⟩, ?_⟩
    exact (checkTrials_ok_iff ..).mpr ⟨hall, hd, fun _ _ => List.not_mem_nil⟩

theorem artifact_checks (a : BenchmarkArtifact convert) :
    checkControls convert a.val = .ok ⟨⟩ ∧ a.val.trials ≠ [] ∧ OneState a.val.trials ∧
      (∀ t ∈ a.val.trials,
        t.val.case = a.val.case ∧ t.counters.promptTokens = a.val.promptTokens.intValue) ∧
      (a.val.trials.map trialKey).Nodup :=
  (checkBenchmark_ok_iff a.val).mp a.property

theorem controls_promptTokens {f : BenchmarkFields convert}
    (h : checkControls convert f = .ok ⟨⟩) : ∃ n, f.promptTokens = .integer n := by
  obtain ⟨_, hidentity, _⟩ := (checked_ok_iff _ _ _).mp h
  unfold checkIdentity at hidentity
  rw [require_then_iff, require_then_iff] at hidentity
  obtain ⟨n, hn, _⟩ := (isCount_iff _ _).mp hidentity.2.1.1
  exact ⟨n, hn⟩

theorem identity_case {a b : BenchmarkArtifact convert} (h : identity a = identity b) :
    a.val.case = b.val.case := congrArg BenchmarkIdentity.case h

theorem identity_promptTokens {a b : BenchmarkArtifact convert} (h : identity a = identity b) :
    a.val.promptTokens.intValue = b.val.promptTokens.intValue := by
  obtain ⟨n, hn⟩ := controls_promptTokens (artifact_checks a).1
  obtain ⟨m, hm⟩ := controls_promptTokens (artifact_checks b).1
  have hs := congrArg BenchmarkIdentity.promptTokens h
  change scalar a.val.promptTokens = scalar b.val.promptTokens at hs
  rw [hn, hm] at hs ⊢
  show n = m
  simpa [scalar] using hs

/-! ## When a merge succeeds -/

def SameControls (artifacts : List (BenchmarkArtifact convert)) : Prop :=
  ∀ a ∈ artifacts, ∀ b ∈ artifacts, identity a = identity b

/-- No two trials have the same arm and index. -/
def DistinctTrials (ts : List (BenchmarkTrial convert)) : Prop :=
  (ts.map fun t => (t.val.arm, t.trialIndex)).Nodup

theorem distinct_keys {ts : List (BenchmarkTrial convert)} (h : OneState ts) :
    (ts.map trialKey).Nodup ↔ DistinctTrials ts := by
  obtain ⟨s, hs⟩ := h
  have hkeys : ts.map trialKey =
      (ts.map fun t => (t.val.arm, t.trialIndex)).map fun p => (p.1, s, p.2) := by
    rw [List.map_map]
    apply List.map_congr_left
    intro t ht
    show (t.val.arm, t.val.cacheState, t.trialIndex) = _
    rw [hs t ht]
    rfl
  rw [hkeys]
  exact List.nodup_map_iff fun p q hpq => by
    simp only [Prod.mk.injEq, true_and] at hpq
    exact Prod.ext hpq.1 hpq.2

theorem mem_trialsOf {artifacts : List (BenchmarkArtifact convert)} {t : BenchmarkTrial convert} :
    t ∈ trialsOf artifacts ↔ ∃ a ∈ artifacts, t ∈ a.val.trials := List.mem_flatMap

theorem merge_ok_iff (first : BenchmarkArtifact convert) (rest : List (BenchmarkArtifact convert))
    (m : BenchmarkArtifact convert) :
    mergeBenchmarkArtifacts (first::rest) = .ok m ↔ SameControls (first::rest) ∧
      m.val = { first.val with trials := trialsOf (first::rest) } := by
  rw [mergeBenchmarkArtifacts, require_then_iff, construct_ok_iff]
  refine and_congr_left fun _ => ?_
  constructor
  · intro h
    have heq : ∀ a ∈ first::rest, identity a = identity first :=
      List.forall_mem_cons.mpr ⟨rfl, h⟩
    intro a ha b hb
    rw [heq a ha, heq b hb]
  · intro h a ha
    exact h a (List.mem_cons_of_mem _ ha) first List.mem_cons_self

theorem merged_checks {first : BenchmarkArtifact convert}
    {rest : List (BenchmarkArtifact convert)} (hs : SameControls (first::rest)) :
    checkBenchmark convert { first.val with trials := trialsOf (first::rest) } = .ok ⟨⟩ ↔
      OneState (trialsOf (first::rest)) ∧ DistinctTrials (trialsOf (first::rest)) := by
  rw [checkBenchmark_ok_iff]
  constructor
  · rintro ⟨_, _, hone, _, hd⟩
    exact ⟨hone, (distinct_keys hone).mp hd⟩
  · rintro ⟨hone, hd⟩
    obtain ⟨hc, hne, _⟩ := artifact_checks first
    refine ⟨hc, ?_, hone, ?_, (distinct_keys hone).mpr hd⟩
    · obtain ⟨t, ht⟩ := List.exists_mem_of_ne_nil _ hne
      exact List.ne_nil_of_mem (mem_trialsOf.mpr ⟨first, List.mem_cons_self, ht⟩)
    · intro t ht
      obtain ⟨a, ha, hta⟩ := mem_trialsOf.mp ht
      have hid := hs a ha first List.mem_cons_self
      obtain ⟨htc, htn⟩ := (artifact_checks a).2.2.2.1 t hta
      exact ⟨htc.trans (identity_case hid), htn.trans (identity_promptTokens hid)⟩

theorem merge_succeeds_iff {artifacts : List (BenchmarkArtifact convert)} (hne : artifacts ≠ []) :
    (∃ m, mergeBenchmarkArtifacts artifacts = .ok m) ↔ SameControls artifacts ∧
      OneState (trialsOf artifacts) ∧ DistinctTrials (trialsOf artifacts) := by
  cases artifacts with
  | nil => exact absurd rfl hne
  | cons first rest =>
    constructor
    · rintro ⟨m, hm⟩
      obtain ⟨hs, hv⟩ := (merge_ok_iff first rest m).mp hm
      exact ⟨hs, (merged_checks hs).mp (hv ▸ m.property)⟩
    · rintro ⟨hs, hok⟩
      exact ⟨⟨_, (merged_checks hs).mpr hok⟩, (merge_ok_iff first rest _).mpr ⟨hs, rfl⟩⟩

/-! ## Merging in groups -/

theorem merge_identity {first : BenchmarkArtifact convert}
    {rest : List (BenchmarkArtifact convert)} {m : BenchmarkArtifact convert}
    (h : mergeBenchmarkArtifacts (first::rest) = .ok m) : identity m = identity first := by
  unfold identity
  rw [((merge_ok_iff first rest m).mp h).2]

theorem merge_facts {artifacts : List (BenchmarkArtifact convert)} {m : BenchmarkArtifact convert}
    (h : mergeBenchmarkArtifacts artifacts = .ok m) :
    m.val.trials = trialsOf artifacts ∧ ∀ a ∈ artifacts, identity a = identity m := by
  cases artifacts with
  | nil => cases h
  | cons first rest =>
    obtain ⟨hs, hv⟩ := (merge_ok_iff first rest m).mp h
    refine ⟨congrArg BenchmarkFields.trials hv, fun a ha => ?_⟩
    rw [merge_identity h]
    exact hs a ha first List.mem_cons_self

theorem trialsOf_merged {groups : List (List (BenchmarkArtifact convert))}
    {ms : List (BenchmarkArtifact convert)}
    (h : List.Forall₂ (mergeBenchmarkArtifacts · = .ok ·) groups ms) :
    trialsOf ms = trialsOf groups.flatten := by
  induction h with
  | nil => rfl
  | cons hm _ ih =>
    unfold trialsOf at ih ⊢
    rw [List.flatMap_cons, List.flatten_cons, List.flatMap_append, ih, (merge_facts hm).1]
    rfl

theorem sameControls_merged {groups : List (List (BenchmarkArtifact convert))}
    {ms : List (BenchmarkArtifact convert)} (hne : ∀ g ∈ groups, g ≠ [])
    (h : List.Forall₂ (mergeBenchmarkArtifacts · = .ok ·) groups ms) :
    SameControls ms ↔ SameControls groups.flatten := by
  constructor
  · intro hs a ha b hb
    obtain ⟨g, hg, ha⟩ := List.mem_flatten.mp ha
    obtain ⟨g', hg', hb⟩ := List.mem_flatten.mp hb
    obtain ⟨m, hm, hgm⟩ := forall₂_left h hg
    obtain ⟨m', hm', hgm'⟩ := forall₂_left h hg'
    rw [(merge_facts hgm).2 a ha, (merge_facts hgm').2 b hb]
    exact hs m hm m' hm'
  · intro hs m hm m' hm'
    obtain ⟨g, hg, hgm⟩ := forall₂_right h hm
    obtain ⟨g', hg', hgm'⟩ := forall₂_right h hm'
    obtain ⟨a, ha⟩ := List.exists_mem_of_ne_nil _ (hne g hg)
    obtain ⟨b, hb⟩ := List.exists_mem_of_ne_nil _ (hne g' hg')
    rw [← (merge_facts hgm).2 a ha, ← (merge_facts hgm').2 b hb]
    exact hs a (List.mem_flatten.mpr ⟨g, hg, ha⟩) b (List.mem_flatten.mpr ⟨g', hg', hb⟩)

theorem merge_merged {groups : List (List (BenchmarkArtifact convert))}
    {ms : List (BenchmarkArtifact convert)} (hne : ∀ g ∈ groups, g ≠ [])
    (h : List.Forall₂ (mergeBenchmarkArtifacts · = .ok ·) groups ms)
    (m : BenchmarkArtifact convert) :
    mergeBenchmarkArtifacts ms = .ok m ↔ mergeBenchmarkArtifacts groups.flatten = .ok m := by
  have hsame := sameControls_merged hne h
  have htrials := trialsOf_merged h
  cases h with
  | nil => rfl
  | @cons g m₀ gs ms hm hrest =>
    obtain ⟨first, rest, rfl⟩ := List.exists_cons_of_ne_nil (hne g List.mem_cons_self)
    have hfields := ((merge_ok_iff first rest m₀).mp hm).2
    show _ ↔ mergeBenchmarkArtifacts (first::(rest ++ gs.flatten)) = .ok m
    rw [merge_ok_iff, merge_ok_iff, hsame, htrials, hfields]
    rfl

theorem merge_part {artifacts part : List (BenchmarkArtifact convert)}
    {m : BenchmarkArtifact convert} (h : mergeBenchmarkArtifacts artifacts = .ok m)
    (hne : part ≠ []) (hsub : part.Sublist artifacts) :
    ∃ m', mergeBenchmarkArtifacts part = .ok m' := by
  have hall : artifacts ≠ [] := by
    rintro rfl
    exact hne (List.sublist_nil.mp hsub)
  obtain ⟨hsame, ⟨s, hs⟩, hd⟩ := (merge_succeeds_iff hall).mp ⟨m, h⟩
  have htrials : (trialsOf part).Sublist (trialsOf artifacts) := hsub.flatMap _
  refine (merge_succeeds_iff hne).mpr ⟨fun a ha b hb => ?_, ⟨s, fun t ht => ?_⟩, ?_⟩
  · exact hsame a (hsub.subset ha) b (hsub.subset hb)
  · exact hs t (htrials.subset ht)
  · exact hd.sublist (htrials.map _)

theorem merge_groups {groups : List (List (BenchmarkArtifact convert))}
    (hne : ∀ g ∈ groups, g ≠ []) (m : BenchmarkArtifact convert) :
    (groups.mapM mergeBenchmarkArtifacts >>= mergeBenchmarkArtifacts) = .ok m ↔
      mergeBenchmarkArtifacts groups.flatten = .ok m := by
  rw [checked_ok_iff]
  constructor
  · rintro ⟨ms, hms, h⟩
    exact (merge_merged hne ((mapM_returns_iff _ _ _).mp hms) m).mp h
  · intro h
    obtain ⟨ms, hms⟩ := mapM_returns_of mergeBenchmarkArtifacts groups fun g hg =>
      merge_part h (hne g hg) (List.sublist_flatten_of_mem hg)
    exact ⟨ms, hms, (merge_merged hne ((mapM_returns_iff _ _ _).mp hms) m).mpr h⟩

/-! ## Merging in any order -/

/-- The same artifact with its trials in another order. -/
def Rearranged (a b : BenchmarkArtifact convert) : Prop :=
  b.val = { a.val with trials := b.val.trials } ∧ a.val.trials.Perm b.val.trials

/-- The sequence in another order, and the trials of each artifact as well. -/
def Rearrangement (artifacts others : List (BenchmarkArtifact convert)) : Prop :=
  ∃ middle, artifacts.Perm middle ∧ List.Forall₂ Rearranged middle others

theorem rearranged_identity {a b : BenchmarkArtifact convert} (h : Rearranged a b) :
    identity a = identity b := by
  unfold identity
  rw [h.1]

theorem rearrangement_identities {artifacts others : List (BenchmarkArtifact convert)}
    (h : Rearrangement artifacts others) :
    (artifacts.map identity).Perm (others.map identity) := by
  obtain ⟨middle, hp, hr⟩ := h
  have heq : middle.map identity = others.map identity := by
    induction hr generalizing artifacts with
    | nil => rfl
    | cons hab _ ih => rw [List.map_cons, List.map_cons, rearranged_identity hab, ih (.refl _)]
  exact heq ▸ hp.map identity

theorem rearrangement_trials {artifacts others : List (BenchmarkArtifact convert)}
    (h : Rearrangement artifacts others) : (trialsOf artifacts).Perm (trialsOf others) := by
  obtain ⟨middle, hp, hr⟩ := h
  apply (hp.flatMap_right fun a => a.val.trials).trans
  clear hp
  induction hr with
  | nil => exact .refl _
  | cons hab _ ih =>
    rw [List.flatMap_cons, trialsOf, List.flatMap_cons]
    exact hab.2.append ih

theorem sameControls_iff (artifacts : List (BenchmarkArtifact convert)) :
    SameControls artifacts ↔ ∀ i ∈ artifacts.map identity, ∀ j ∈ artifacts.map identity, i = j := by
  unfold SameControls
  simp only [List.forall_mem_map]

theorem oneState_perm {xs ys : List (BenchmarkTrial convert)} (h : xs.Perm ys) :
    OneState xs ↔ OneState ys := by
  unfold OneState
  simp only [h.mem_iff]

theorem distinctTrials_perm {xs ys : List (BenchmarkTrial convert)} (h : xs.Perm ys) :
    DistinctTrials xs ↔ DistinctTrials ys := (h.map _).nodup_iff

theorem merge_rearranged {artifacts others : List (BenchmarkArtifact convert)}
    (h : Rearrangement artifacts others) :
    (∃ m, mergeBenchmarkArtifacts artifacts = .ok m) ↔
      ∃ m, mergeBenchmarkArtifacts others = .ok m := by
  have hids := rearrangement_identities h
  have htrials := rearrangement_trials h
  by_cases hne : artifacts = []
  · have hnil : others = [] := by
      have hlen := hids.length_eq
      rw [List.length_map, List.length_map, hne] at hlen
      exact List.length_eq_zero_iff.mp hlen.symm
    rw [hne, hnil]
  · have hne' : others ≠ [] := by
      rintro rfl
      exact hne (List.map_eq_nil_iff.mp hids.eq_nil)
    rw [merge_succeeds_iff hne, merge_succeeds_iff hne', sameControls_iff, sameControls_iff,
      oneState_perm htrials, distinctTrials_perm htrials]
    simp only [hids.mem_iff]

theorem rearranged_accepted (a : BenchmarkArtifact convert)
    {trials : List (BenchmarkTrial convert)} (h : a.val.trials.Perm trials) :
    ∃ b, construct (checkBenchmark convert) { a.val with trials } = .ok b := by
  obtain ⟨hc, hne, hone, hall, hd⟩ := artifact_checks a
  have hok : checkBenchmark convert { a.val with trials } = .ok ⟨⟩ := by
    refine (checkBenchmark_ok_iff _).mpr ⟨hc, ?_, (oneState_perm h).mp hone, ?_,
      (h.map trialKey).nodup_iff.mp hd⟩
    · rintro rfl
      exact hne h.eq_nil
    · intro t ht
      exact hall t (h.mem_iff.mpr ht)
  exact ⟨⟨_, hok⟩, (construct_ok_iff _ _ _).mpr rfl⟩

/-! ## The report -/

/-- The two artifacts have the same arms and the same report, or fail alike. -/
def SameReport (a b : BenchmarkArtifact convert) : Prop :=
  arms a.val.trials = arms b.val.trials ∧
  missingRequiredArms a.val.trials = missingRequiredArms b.val.trials ∧
  benchmarkReady a.val.trials = benchmarkReady b.val.trials ∧
  summarizeBenchmark a.val.trials = summarizeBenchmark b.val.trials

theorem report_perm {a b : BenchmarkArtifact convert} (h : a.val.trials.Perm b.val.trials) :
    SameReport a b :=
  ⟨arms_perm h, missingRequiredArms_perm h, benchmarkReady_perm h, summarizeBenchmark_perm h⟩

theorem merged_report {artifacts others : List (BenchmarkArtifact convert)}
    {m m' : BenchmarkArtifact convert} (h : Rearrangement artifacts others)
    (hm : mergeBenchmarkArtifacts artifacts = .ok m)
    (hm' : mergeBenchmarkArtifacts others = .ok m') : SameReport m m' := by
  apply report_perm
  rw [(merge_facts hm).1, (merge_facts hm').1]
  exact rearrangement_trials h

end

/-- A merge succeeds exactly when the controls agree, one cache state is shared
and the trials are distinct; groups may be merged first; and neither the order
of the artifacts nor of their trials decides acceptance or the report. -/
theorem merging_orders (convert : ℤ → Option ℚ) :
    (∀ artifacts : List (BenchmarkArtifact convert), artifacts ≠ [] →
      ((∃ m, mergeBenchmarkArtifacts artifacts = .ok m) ↔ SameControls artifacts ∧
        OneState (trialsOf artifacts) ∧ DistinctTrials (trialsOf artifacts))) ∧
    (∀ groups : List (List (BenchmarkArtifact convert)), (∀ g ∈ groups, g ≠ []) → ∀ m,
      ((groups.mapM mergeBenchmarkArtifacts >>= mergeBenchmarkArtifacts) = .ok m ↔
        mergeBenchmarkArtifacts groups.flatten = .ok m)) ∧
    (∀ artifacts others : List (BenchmarkArtifact convert), Rearrangement artifacts others →
      ((∃ m, mergeBenchmarkArtifacts artifacts = .ok m) ↔
        ∃ m, mergeBenchmarkArtifacts others = .ok m) ∧
      ∀ m m', mergeBenchmarkArtifacts artifacts = .ok m →
        mergeBenchmarkArtifacts others = .ok m' → SameReport m m') ∧
    ∀ (a : BenchmarkArtifact convert) (trials : List (BenchmarkTrial convert)),
      a.val.trials.Perm trials →
      ∃ b, construct (checkBenchmark convert) { a.val with trials } = .ok b ∧
        SameReport a b := by
  refine ⟨fun _ => merge_succeeds_iff, fun _ => merge_groups, fun _ _ h => ?_, fun a trials h => ?_⟩
  · exact ⟨merge_rearranged h, fun _ _ => merged_report h⟩
  · obtain ⟨b, hb⟩ := rearranged_accepted a h
    refine ⟨b, hb, report_perm ?_⟩
    rw [(construct_ok_iff _ _ _).mp hb]
    exact h

end CacheBlend.BenchmarkMerging
