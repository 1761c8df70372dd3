import CacheBlend.ProbeFrames

/-!
# What the evidence of a transfer says

Evidence in the file, with a hash that tells apart the preimages of the run,
says that the rows after the load were the staged ones with corrected keys, and
that the rows at the end were those after the save hook of their layer.
-/

set_option autoImplicit false

namespace CacheBlend.EvidencedTransfers
open CacheBlend.PlannerModels CacheBlend.HybridLayout
open CacheBlend.ScatterSpans CacheBlend.TokenScatter CacheBlend.DataPlane
open CacheBlend.PagedScatter CacheBlend.LayoutConstruction
open CacheBlend.WorkerBridge hiding scatterRetrieved
open CacheBlend.JsonValues CacheBlend.CorrectnessModels
open CacheBlend.TransferCapture hiding finish after performed
open CacheBlend.TransferProbe CacheBlend.ProbeFrames
open CacheBlend.LayerEvidence (LayerTransferEvidence TransferEvidence LayerFields checkLayer)

/-! ## Steps of the probe -/

section
variable {sha256 : Bytes → Digest} {δ : Type} {env : ProbeEnvironment δ}

theorem lift_then {σ ε α β : Type} (x : Except ε α) (f : α → Call σ ε β) (s : σ) :
    (∃ e, (Call.lift x >>= f) s = (.error e, s)) ∨
      ∃ a, x = .ok a ∧ (Call.lift x >>= f) s = f a s := by
  cases x with
  | error e => exact Or.inl ⟨e, rfl⟩
  | ok a => exact Or.inr ⟨a, rfl, rfl⟩

/-- The digests of the prompts of a plan: of the source that it reads and of the target that it
fills. -/
structure PromptDigests (plan : WorkerLoadPlan sha256) (source target : Digest) : Prop where
  source : ∃ tokens, sourcePromptTokens plan = .ok tokens ∧
    digestTokenIds sha256 tokens = .ok source
  target : digestTokenIds sha256 plan.metadata.promptTokenIds = .ok target

theorem beginLoad_ok {m : DataPlaneMemory δ} {plan : WorkerLoadPlan sha256} {offset : ℤ}
    {w w' : ProbeWorld sha256} {u : PUnit} (h : beginLoad env m plan offset w = (.ok u, w')) :
    ∃ spans samples source target, canonicalSpans plan = .ok spans ∧
      List.Forall₂ (fun i s => sampleLayer sha256 env m offset spans i = .ok s)
        (List.range gptOssNumLayers) samples ∧ PromptDigests plan source target ∧
      w' = w.withProbe (some ⟨plan, spans, samples, some source, some target, false⟩) := by
  unfold beginLoad at h
  rw [Call.read_bind] at h
  rcases (check_then_iff _ _ _ _ _ _).mp h with ⟨_, h⟩
  rcases (Call.lift_bind_iff _ _ _ _ _).mp h with ⟨spans, hspans, h⟩
  rcases (Call.lift_bind_iff _ _ _ _ _).mp h with ⟨tokens, htokens, h⟩
  rcases (Call.lift_bind_iff _ _ _ _ _).mp h with ⟨samples, hsamples, h⟩
  rw [Call.modify_bind] at h
  rcases (Call.lift_bind_iff _ _ _ _ _).mp h with ⟨source, hsource, h⟩
  unfold updateProbe at h
  rw [Call.modify_bind] at h
  rcases (Call.lift_bind_iff _ _ _ _ _).mp h with ⟨target, htarget, h⟩
  cases h
  exact ⟨spans, samples, source, target, hspans, (mapM_returns_iff _ _ _).mp hsamples,
    ⟨⟨tokens, htokens, hsource⟩, htarget⟩, rfl⟩

theorem modify_get {α : Type} {f : α → α} {xs : List α} {i j : ℕ} {b : α}
    (h : (xs.modify i f)[j]? = some b) :
    ∃ a, xs[j]? = some a ∧ b = if i = j then f a else a := by
  rw [List.getElem?_modify] at h
  rcases Option.map_eq_some_iff.mp h with ⟨a, ha, hb⟩
  exact ⟨a, ha, hb.symm⟩

/-- The loop of `mark_load_complete` samples the layers of its list and no others. -/
theorem markLayers_ok {m : DataPlaneMemory δ} {spans : List (List LayerTokenScatterSpan)}
    (layers : List ℕ) {samples samples' : List LayerSamples} {u : PUnit}
    (h : layers.forM (markLayer sha256 env m spans) samples = (.ok u, samples')) :
    samples'.length = samples.length ∧ ∀ i s', samples'[i]? = some s' → ∃ s, samples[i]? = some s ∧
      (i ∈ layers → ∃ frames, pagedFrames env m i (spans.getD i []) = .ok frames ∧
        s' = s.loaded (sha256 frames.1) (sha256 frames.2)) ∧ (i ∉ layers → s' = s) := by
  induction layers generalizing samples with
  | nil =>
    cases h
    exact ⟨rfl, fun i s' hs => ⟨s', hs, fun hi => absurd hi List.not_mem_nil, fun _ => rfl⟩⟩
  | cons layer layers ih =>
    rcases (Call.bind_ok_iff _ _ _ _ _).mp h with ⟨_, between, hfirst, hrest⟩
    rcases ih hrest with ⟨hlength, hlater⟩
    unfold markLayer at hfirst
    rcases (Call.lift_bind_iff _ _ _ _ _).mp hfirst with ⟨frames, hframes, hfirst⟩
    cases hfirst
    refine ⟨hlength.trans (List.length_modify ..), fun i s' hs => ?_⟩
    rcases hlater i s' hs with ⟨s₁, hs₁, hin, hout⟩
    rcases modify_get hs₁ with ⟨s, hs, rfl⟩
    refine ⟨s, hs, ?_⟩
    by_cases hi : layer = i
    · subst hi
      rw [if_pos rfl] at hin hout
      refine ⟨fun _ => ?_, fun hn => absurd List.mem_cons_self hn⟩
      by_cases hm : layer ∈ layers
      · rcases hin hm with ⟨frames', hframes', hs'⟩
        exact ⟨frames', hframes', hs'⟩
      · exact ⟨frames, hframes, hout hm⟩
    · rw [if_neg hi] at hin hout
      refine ⟨fun hm => hin ?_, fun hn => hout fun hm => hn ?_⟩
      · exact (List.mem_cons.mp hm).resolve_left (Ne.symm hi)
      · exact List.mem_cons_of_mem _ hm

theorem markLoadComplete_ok {m : DataPlaneMemory δ} {w w' : ProbeWorld sha256} {u : PUnit}
    {p : ActiveProbe sha256} (hp : w.probe = some p)
    (h : markLoadComplete env m w = (.ok u, w')) : ∃ samples,
      (List.range gptOssNumLayers).forM (markLayer sha256 env m p.spans) p.samples =
        (.ok ⟨⟩, samples) ∧
      w' = w.withProbe (some { p with samples := samples, loadWriteObserved := true }) := by
  unfold markLoadComplete at h
  rw [Call.read_bind, hp] at h
  rcases (Call.within_bind_iff _ _ _ _ _ _ _ _).mp h with ⟨_, samples, hmarked, h⟩
  cases h
  exact ⟨samples, hmarked, rfl⟩

theorem recordPrefillLayer_cases (m : DataPlaneMemory δ) (name : String)
    (w : ProbeWorld sha256) : (recordPrefillLayer env m name w).2 = w ∨
      ∃ p layerIndex frames, w.probe = some p ∧ extractGptOssLayerIndex name = .ok layerIndex ∧
        pagedFrames env m layerIndex (p.spansOf layerIndex) = .ok frames ∧
        (recordPrefillLayer env m name w).2 = w.withProbe
          (some (p.withPrefill layerIndex (sha256 frames.1) (sha256 frames.2))) := by
  unfold recordPrefillLayer
  rw [Call.read_bind]
  cases hp : w.probe with
  | none => exact Or.inl rfl
  | some p =>
    dsimp only
    rcases lift_then (require.{0,0} (p.loadWriteObserved = true)
      (ProbeFault.probe .invalidState)) _ w with ⟨e, h⟩ | ⟨_, _, h⟩
    · exact Or.inl (congrArg Prod.snd h)
    rw [h]
    rcases lift_then ((extractGptOssLayerIndex name).mapError fun _ =>
      ProbeFault.probe .invalidPlan) _ w with ⟨e, h⟩ | ⟨layerIndex, hindex, h⟩
    · exact Or.inl (congrArg Prod.snd h)
    rw [h]
    rcases lift_then (require.{0,0} (∀ s ∈ p.samples[layerIndex]?,
      s.targetPrefillKey.isNone = true) (ProbeFault.probe .invalidState)) _ w with
      ⟨e, h⟩ | ⟨_, _, h⟩
    · exact Or.inl (congrArg Prod.snd h)
    rw [h]
    rcases lift_then (pagedFrames env m layerIndex (p.spansOf layerIndex)) _ w with
      ⟨e, h⟩ | ⟨frames, hframes, h⟩
    · exact Or.inl (congrArg Prod.snd h)
    rw [h]
    refine Or.inr ⟨p, layerIndex, frames, rfl, (mapError_ok_iff _ _ _).mp hindex, hframes, ?_⟩
    unfold updateProbe
    rw [Call.modify_run, hp]
    rfl

end

/-! ## The evidence that is built -/

theorem hexDigest_inj {d d' : Digest} (h : (hexDigest d).textValue = (hexDigest d').textValue) :
    d = d' :=
  Subtype.ext (hex_injective _ _ (pyText_injective h))

section
variable {sha256 : Bytes → Digest} {δ : Type} {env : ProbeEnvironment δ}
  {m : DataPlaneMemory δ} {p : ActiveProbe sha256}

/-- The evidence of a layer holds its samples and the digests of its rows at the end. -/
def LayerBuilt (env : ProbeEnvironment δ) (m : DataPlaneMemory δ) (p : ActiveProbe sha256)
    (layerIndex : ℕ) (layer : LayerTransferEvidence) : Prop :=
  ∃ s final, p.samples[layerIndex]? = some s ∧
    pagedFrames env m layerIndex (p.spansOf layerIndex) = .ok final ∧
    layerFields layerIndex p.plan.expectedTokens s (sha256 final.1) (sha256 final.2) =
      .ok layer.val

theorem buildLayer_ok {b b' : TransferEvidenceBuilder} {layerIndex : ℕ}
    (h : buildLayer env m p b layerIndex = .ok b') : ∃ layer, LayerBuilt env m p layerIndex layer ∧
      b' = { b with layers := b.layers ++ [layer] } := by
  unfold buildLayer at h
  rcases (checked_ok_iff _ _ _).mp h with ⟨s, hs, h⟩
  rcases (checked_ok_iff _ _ _).mp h with ⟨final, hfinal, h⟩
  rcases (checked_ok_iff _ _ _).mp h with ⟨fields, hfields, h⟩
  rcases (checked_ok_iff _ _ _).mp h with ⟨layer, hlayer, h⟩
  have hval := (construct_ok_iff _ _ _).mp ((mapError_ok_iff _ _ _).mp hlayer)
  refine ⟨layer, ⟨s, final, orRaised_ok hs, hfinal, hval ▸ hfields⟩, ?_⟩
  unfold built at h
  rcases hadd : addLayer layer b with ⟨e | u, b₁⟩
  · rw [hadd] at h
    cases h
  · rw [hadd] at h
    cases h
    exact addLayer_ok hadd

theorem buildLayers_ok (layers : List ℕ) {b b' : TransferEvidenceBuilder}
    (h : layers.foldlM (buildLayer env m p) b = .ok b') : ∃ new,
      List.Forall₂ (LayerBuilt env m p) layers new ∧
        b' = { b with layers := b.layers ++ new } := by
  induction layers generalizing b with
  | nil =>
    cases h
    exact ⟨[], .nil, by rw [List.append_nil]⟩
  | cons layerIndex layers ih =>
    rw [List.foldlM_cons] at h
    rcases (checked_ok_iff _ _ _).mp h with ⟨b₁, hfirst, h⟩
    rcases buildLayer_ok hfirst with ⟨layer, hlayer, rfl⟩
    rcases ih h with ⟨new, hnew, rfl⟩
    exact ⟨layer::new, .cons hlayer hnew, by rw [List.append_assoc]; rfl⟩

theorem assembleEvidence_ok {source target : Digest} {recomputed avoided : ℤ}
    {e : TransferEvidence} (h : assembleEvidence env m p source target recomputed avoided = .ok e) :
    ∃ metadata layers, captureMetadata p source target recomputed avoided = .ok metadata ∧
      List.Forall₂ (LayerBuilt env m p) (List.range gptOssNumLayers) layers ∧
      e.val = evidenceFields metadata.val layers := by
  unfold assembleEvidence at h
  rcases (checked_ok_iff _ _ _).mp h with ⟨metadata, hmetadata, h⟩
  rcases (checked_ok_iff _ _ _).mp h with ⟨b, hb, h⟩
  rcases buildLayers_ok _ hb with ⟨layers, hlayers, rfl⟩
  refine ⟨metadata, layers, hmetadata, hlayers, ?_⟩
  have hfinish : TransferCapture.finish ⟨metadata, [] ++ layers, none⟩ = (.ok e, _) :=
    Prod.ext ((mapError_ok_iff _ _ _).mp h) rfl
  unfold TransferCapture.finish at hfinish
  rw [Call.read_bind] at hfinish
  rcases (check_then_iff _ _ _ _ _ _).mp hfinish with ⟨_, hfinish⟩
  rcases (Call.lift_bind_iff _ _ _ _ _).mp hfinish with ⟨e', he, hfinish⟩
  rw [Call.modify_bind] at hfinish
  rcases (Call.pure_ok_iff _ _ _ _).mp hfinish with ⟨rfl, _⟩
  exact (construct_ok_iff _ _ _).mp ((mapError_ok_iff _ _ _).mp he)

/-- Evidence that passes its checks agrees with itself. -/
theorem built_agrees {layerIndex : ℕ} {layer : LayerTransferEvidence}
    (h : LayerBuilt env m p layerIndex layer) : ∃ s final, p.samples[layerIndex]? = some s ∧
      pagedFrames env m layerIndex (p.spansOf layerIndex) = .ok final ∧
      s.afterLoadKey = some s.correctedSourceKey ∧ s.afterLoadValue = some s.sourceValue ∧
      s.targetPrefillKey = some (sha256 final.1) ∧
      s.targetPrefillValue = some (sha256 final.2) := by
  rcases h with ⟨s, final, hs, hfinal, hfields⟩
  refine ⟨s, final, hs, hfinal, ?_⟩
  have hchecked := layer.property
  unfold checkLayer at hchecked
  rcases (require_then_iff _ _ _ _).mp hchecked with ⟨_, hchecked⟩
  rcases (require_then_iff _ _ _ _).mp hchecked with ⟨_, hchecked⟩
  rcases (checked_ok_iff _ _ _).mp hchecked with ⟨_, _, hchecked⟩
  rcases (require_then_iff _ _ _ _).mp hchecked with ⟨_, hchecked⟩
  rcases (require_then_iff _ _ _ _).mp hchecked with ⟨_, hchecked⟩
  rcases (checked_ok_iff _ _ _).mp hchecked with ⟨_, _, hchecked⟩
  rcases (require_then_iff _ _ _ _).mp hchecked with ⟨hsource, hchecked⟩
  have hprefill := (require_ok_iff _ _ _).mp hchecked
  unfold layerFields at hfields
  split at hfields
  next key value prefillKey prefillValue hkey hvalue hprefillKey hprefillValue =>
    have hval := Except.ok.inj hfields
    rw [← hval] at hsource hprefill
    rw [hkey, hvalue, hprefillKey, hprefillValue, hexDigest_inj hsource.1, hexDigest_inj hsource.2,
      ← hexDigest_inj hprefill.1, ← hexDigest_inj hprefill.2]
    exact ⟨rfl, rfl, rfl, rfl⟩
  next => cases hfields

end

/-! ## Runs -/

section
variable {sha256 : Bytes → Digest} {δ : Type} {env : ProbeEnvironment δ}

theorem writeTransferEvidence_cases (write : FileWrite) (e : TransferEvidence)
    (w : ProbeWorld sha256) : (∃ fault, writeTransferEvidence write e w = (.error fault, w)) ∨
      w.file.isAbsent = true ∧
        (write = .interrupted ∧ (∃ fault,
            writeTransferEvidence write e w = (.error fault, w.withFile .unfinished)) ∨
          write = .complete ∧
            writeTransferEvidence write e w = (.ok ⟨⟩, w.withFile (.written e))) := by
  unfold writeTransferEvidence
  rw [Call.read_bind]
  rcases lift_then (require.{0,0} (w.file.isAbsent = true) ProbeFault.fileExists) _ w with
    hexists | ⟨_, hfile, h⟩
  · exact Or.inl hexists
  rw [h]
  have habsent := (require_ok_iff _ _ _).mp hfile
  cases write with
  | complete => exact Or.inr ⟨habsent, Or.inr ⟨rfl, rfl⟩⟩
  | refused => exact Or.inl ⟨.raised, rfl⟩
  | interrupted => exact Or.inr ⟨habsent, Or.inl ⟨rfl, .raised, rfl⟩⟩

theorem finish_cases (m : DataPlaneMemory δ) (recomputed avoided : ℤ) (write : FileWrite)
    (w : ProbeWorld sha256) : (finish env m recomputed avoided write w).2 = w ∨
      w.file.isAbsent = true ∧
        (write = .interrupted ∧
            (finish env m recomputed avoided write w).2 = w.withFile .unfinished ∨
          ∃ p source target e, w.probe = some p ∧ p.sourcePromptDigest = some source ∧
            p.targetPromptDigest = some target ∧ write = .complete ∧
            assembleEvidence env m p source target recomputed avoided = .ok e ∧
            (finish env m recomputed avoided write w).2 = ⟨none, .written e⟩) := by
  unfold finish
  rw [Call.read_bind]
  cases hp : w.probe with
  | none => exact Or.inl rfl
  | some p =>
    dsimp only
    cases hs : p.sourcePromptDigest with
    | none => exact Or.inl rfl
    | some source =>
      cases ht : p.targetPromptDigest with
      | none => exact Or.inl rfl
      | some target =>
        dsimp only
        rcases lift_then (require.{0,0} (p.loadWriteObserved = true ∧ AllPrefilled p.samples)
          (ProbeFault.probe .incompleteLayers)) _ w with ⟨e, h⟩ | ⟨_, _, h⟩
        · exact Or.inl (congrArg Prod.snd h)
        rw [h]
        rcases lift_then (assembleEvidence env m p source target recomputed avoided) _ w with
          ⟨e, h⟩ | ⟨e, he, h⟩
        · exact Or.inl (congrArg Prod.snd h)
        rw [h]
        rcases writeTransferEvidence_cases write e w with
          ⟨fault, h⟩ | ⟨hfile, ⟨hwrite, fault, h⟩ | ⟨hwrite, h⟩⟩
        · rw [Call.bind_run_error _ h]
          exact Or.inl rfl
        · rw [Call.bind_run_error _ h]
          exact Or.inr ⟨hfile, Or.inl ⟨hwrite, rfl⟩⟩
        · refine Or.inr ⟨hfile, Or.inr ⟨p, source, target, e, rfl, hs, ht, hwrite, he, ?_⟩⟩
          rw [Call.bind_run_ok _ h]
          rfl

theorem updateProbe_keeps (f : ActiveProbe sha256 → ActiveProbe sha256)
    (file : EvidenceFile) : Call.Keeps (fun w => w.file = file) (updateProbe f) :=
  fun _ h => h

theorem beginLoad_keeps (m : DataPlaneMemory δ) (plan : WorkerLoadPlan sha256) (offset : ℤ)
    (file : EvidenceFile) :
    Call.Keeps (fun w => w.file = file) (beginLoad env m plan offset) := by
  have hnew : ∀ p, Call.Keeps (fun w : ProbeWorld sha256 => w.file = file)
      (Call.modify fun w => w.withProbe (some p) : ProbeCall sha256 PUnit) := fun _ _ h => h
  unfold beginLoad
  exact Call.keeps_bind (fun _ h => h) fun _ => Call.keeps_bind (Call.keeps_lift _ _) fun _ =>
    Call.keeps_bind (Call.keeps_lift _ _) fun _ => Call.keeps_bind (Call.keeps_lift _ _) fun _ =>
      Call.keeps_bind (Call.keeps_lift _ _) fun _ => Call.keeps_bind (hnew _) fun _ =>
        Call.keeps_bind (Call.keeps_lift _ _) fun _ =>
          Call.keeps_bind (updateProbe_keeps _ file) fun _ =>
            Call.keeps_bind (Call.keeps_lift _ _) fun _ => updateProbe_keeps _ file

theorem markLoadComplete_keeps (m : DataPlaneMemory δ) (file : EvidenceFile) :
    Call.Keeps (fun w : ProbeWorld sha256 => w.file = file) (markLoadComplete env m) := by
  intro w hw
  unfold markLoadComplete
  rw [Call.read_bind]
  cases w.probe with
  | none => exact hw
  | some p =>
    have hwithin : Call.Keeps (fun w : ProbeWorld sha256 => w.file = file)
        (Call.within (fun _ => p.samples)
          (fun w samples => w.withProbe (some { p with samples := samples })) id
          ((List.range gptOssNumLayers).forM (markLayer sha256 env m p.spans)) :
            ProbeCall sha256 PUnit) := by
      intro w' hw'
      unfold Call.within
      split <;> exact hw'
    exact Call.keeps_bind hwithin (fun _ => updateProbe_keeps _ file) w hw

theorem scatterRetrieved_cases (plan : WorkerLoadPlan sha256) (offset : ℤ)
    (before after : DataPlaneMemory δ) (returned : Bool) (w : ProbeWorld sha256) :
    (scatterRetrieved env plan offset before after returned w).2.file = w.file ∧
      ((scatterRetrieved env plan offset before after returned w).2.probe = none ∨
        returned = true ∧ ∃ spans samples samples' source target,
          canonicalSpans plan = .ok spans ∧ PromptDigests plan source target ∧
          List.Forall₂ (fun i s => sampleLayer sha256 env before offset spans i = .ok s)
            (List.range gptOssNumLayers) samples ∧
          (List.range gptOssNumLayers).forM (markLayer sha256 env after spans)
            samples = (.ok ⟨⟩, samples') ∧
          (scatterRetrieved env plan offset before after returned w).2.probe =
            some ⟨plan, spans, samples', some source, some target, true⟩) := by
  have hkeeps := Call.keeps_bind (@beginLoad_keeps sha256 δ env before plan offset w.file)
    (fun _ => Call.keeps_bind (Call.keeps_lift _ (require.{0,0} (returned = true)
      ProbeFault.raised)) fun _ => @markLoadComplete_keeps sha256 δ env after w.file) w rfl
  unfold scatterRetrieved
  split
  next u w' h =>
    rw [h] at hkeeps
    refine ⟨hkeeps, Or.inr ?_⟩
    rcases (Call.bind_ok_iff _ _ _ _ _).mp h with ⟨_, w₁, hbegin, h⟩
    rcases (check_then_iff _ _ _ _ _ _).mp h with ⟨hreturned, hmark⟩
    rcases beginLoad_ok hbegin with
      ⟨spans, samples, source, target, hspans, hsamples, hdigests, rfl⟩
    rcases markLoadComplete_ok rfl hmark with ⟨samples', hmarked, rfl⟩
    exact ⟨hreturned, spans, samples, samples', source, target, hspans, hdigests, hsamples,
      hmarked, rfl⟩
  next fault w' h =>
    rw [h] at hkeeps
    exact ⟨hkeeps, Or.inl rfl⟩

def memories : ProbeEvent sha256 δ → List (DataPlaneMemory δ)
  | .scattered _ _ before after _ => [before, after]
  | .layerSaved _ m => [m]
  | .finished _ _ m _ => [m]
  | .aborted => []

def spansAt (plan : WorkerLoadPlan sha256) (layerIndex : ℕ) : List LayerTokenScatterSpan :=
  spansOfLayer (planSpans plan) layerIndex

/-- The preimages of the digests that the probe takes in a run. -/
inductive Framed (env : ProbeEnvironment δ) (es : List (ProbeEvent sha256 δ)) : Bytes → Prop where
  | pagedKey {plan offset before after returned event m layerIndex frames}
      (hplan : .scattered plan offset before after returned ∈ es) (he : event ∈ es)
      (hm : m ∈ memories event) (hl : layerIndex < gptOssNumLayers)
      (h : pagedFrames env m layerIndex (spansAt plan layerIndex) = .ok frames) :
      Framed env es frames.1
  | pagedValue {plan offset before after returned event m layerIndex frames}
      (hplan : .scattered plan offset before after returned ∈ es) (he : event ∈ es)
      (hm : m ∈ memories event) (hl : layerIndex < gptOssNumLayers)
      (h : pagedFrames env m layerIndex (spansAt plan layerIndex) = .ok frames) :
      Framed env es frames.2
  | correctedKey {plan offset before after returned layerIndex frames}
      (hplan : .scattered plan offset before after returned ∈ es)
      (hl : layerIndex < gptOssNumLayers)
      (h : sourceFrames env before offset layerIndex (spansAt plan layerIndex) = .ok frames) :
      Framed env es frames.correctedKey
  | sourceValue {plan offset before after returned layerIndex frames}
      (hplan : .scattered plan offset before after returned ∈ es)
      (hl : layerIndex < gptOssNumLayers)
      (h : sourceFrames env before offset layerIndex (spansAt plan layerIndex) = .ok frames) :
      Framed env es frames.value

/-- The hash tells the preimages of a run apart. -/
def TellsApart (env : ProbeEnvironment δ) (es : List (ProbeEvent sha256 δ)) : Prop :=
  ∀ x, Framed env es x → ∀ y, Framed env es y → sha256 x = sha256 y → x = y

def Quiet : ProbeEvent sha256 δ → Prop
  | .layerSaved _ _ => True
  | .finished _ _ _ _ => True
  | _ => False

/-- What the samples of a layer are digests of. -/
structure LayerSampled (env : ProbeEnvironment δ) (plan : WorkerLoadPlan sha256) (offset : ℤ)
    (before after : DataPlaneMemory δ) (middle : List (ProbeEvent sha256 δ)) (layerIndex : ℕ)
    (s : LayerSamples) : Prop where
  source : ∃ frames,
    sourceFrames env before offset layerIndex (spansAt plan layerIndex) = .ok frames ∧
      s.correctedSourceKey = sha256 frames.correctedKey ∧ s.sourceValue = sha256 frames.value
  loaded : ∃ frames, pagedFrames env after layerIndex (spansAt plan layerIndex) = .ok frames ∧
    s.afterLoadKey = some (sha256 frames.1) ∧ s.afterLoadValue = some (sha256 frames.2)
  prefilled : ∀ key, s.targetPrefillKey = some key → ∃ name m frames,
    .layerSaved name m ∈ middle ∧ extractGptOssLayerIndex name = .ok layerIndex ∧
      pagedFrames env m layerIndex (spansAt plan layerIndex) = .ok frames ∧
      key = sha256 frames.1 ∧ s.targetPrefillValue = some (sha256 frames.2)

/-- A probe with a plan, since the scatter of the plan. -/
structure Following (env : ProbeEnvironment δ) (p : ActiveProbe sha256) (offset : ℤ)
    (before after : DataPlaneMemory δ) (middle : List (ProbeEvent sha256 δ)) : Prop where
  quiet : ∀ event ∈ middle, Quiet event
  digests : ∀ source target, p.sourcePromptDigest = some source →
    p.targetPromptDigest = some target → PromptDigests p.plan source target
  spans : canonicalSpans p.plan = .ok p.spans
  sampled : ∀ layerIndex s, p.samples[layerIndex]? = some s →
    layerIndex < gptOssNumLayers ∧
      LayerSampled env p.plan offset before after middle layerIndex s

/-- Evidence that names its plan: its namespace and its prompts by their digests, its segments
and its counts. -/
structure NamesPlan (plan : WorkerLoadPlan sha256) (recomputed avoided : ℤ)
    (f : LayerEvidence.TransferFields) : Prop where
  cacheNamespace : ∃ digest, cacheNamespaceDigest sha256 plan.metadata.cacheNamespace = .ok digest ∧
    f.namespaceDigest = hexDigest digest
  prompts : ∃ source target, PromptDigests plan source target ∧
    f.sourcePromptDigest = hexDigest source ∧ f.targetPromptDigest = hexDigest target
  segments : reusableSegments plan = .ok f.reusableSegments
  sourceTokens : ∃ tokens, sourcePromptTokens plan = .ok tokens ∧
    f.sourcePromptTokens = .integer tokens.length
  loadedTokens : f.loadedTokens = .integer plan.expectedTokens
  targetTokens : f.targetPromptTokens = .integer plan.metadata.promptTokenCount
  recomputedTokens : f.recomputedTokens = .integer recomputed
  avoidedTokens : f.prefillTokensAvoided = .integer avoided

/-- The plan and the rows that evidence in the file speaks of. The load left the staged rows with
corrected keys, and the rows at the end are those after the save hook of their layer. -/
def Evidenced (env : ProbeEnvironment δ) (es : List (ProbeEvent sha256 δ)) (e : TransferEvidence) :
    Prop :=
  ∃ earlier middle later plan offset before after recomputed avoided final,
    es = earlier ++ .scattered plan offset before after true ::
      (middle ++ .finished recomputed avoided final .complete :: later) ∧
    (∀ event ∈ middle, Quiet event) ∧ NamesPlan plan recomputed avoided e.val ∧
    ∀ span ∈ planSpans plan, RowsLoaded env offset before after span ∧
      ∃ name saved, .layerSaved name saved ∈ middle ∧
        extractGptOssLayerIndex name = .ok span.layerIndex.toNat ∧ RowsKept saved final span

end

section
variable {sha256 : Bytes → Digest} {δ : Type} {env : ProbeEnvironment δ}
  {es : List (ProbeEvent sha256 δ)}

theorem forall₂_range {α : Type} {R : ℕ → α → Prop} {n : ℕ} {xs : List α}
    (h : List.Forall₂ R (List.range n) xs) {i : ℕ} {x : α} (hx : xs[i]? = some x) :
    i < n ∧ R i x := by
  have hl := h.length_eq
  rw [List.length_range] at hl
  rcases List.getElem?_eq_some_iff.mp hx with ⟨hi, rfl⟩
  have hget := h.get (by rwa [List.length_range, hl]) hi
  exact ⟨hl ▸ hi, by simpa using hget⟩

theorem canonicalSpans_ok {plan : WorkerLoadPlan sha256}
    {spans : List (List LayerTokenScatterSpan)} (h : canonicalSpans plan = .ok spans) :
    (∀ span ∈ planSpans plan, 0 ≤ span.layerIndex ∧ span.layerIndex < gptOssNumLayers) ∧
      ∀ layerIndex < gptOssNumLayers, spans.getD layerIndex [] = spansAt plan layerIndex := by
  unfold canonicalSpans at h
  rcases (require_then_iff _ _ _ _).mp h with ⟨_, h⟩
  rcases (require_then_iff _ _ _ _).mp h with ⟨hindexes, h⟩
  refine ⟨hindexes, fun layerIndex hl => ?_⟩
  have hlayers := (mapM_returns_iff _ _ _).mp h
  have hlength := hlayers.length_eq
  rw [List.length_range] at hlength
  have hget : spans[layerIndex]? = some (spans.getD layerIndex []) := by
    rw [List.getD_eq_getElem?_getD, List.getElem?_eq_getElem (hlength ▸ hl)]
    rfl
  rcases forall₂_range hlayers hget with ⟨_, hspans⟩
  unfold layerSpans at hspans
  rcases (require_then_iff _ _ _ _).mp hspans with ⟨_, hspans⟩
  exact (Except.ok.inj hspans).symm

theorem mem_spansAt {plan : WorkerLoadPlan sha256} {layerIndex : ℕ}
    {span : LayerTokenScatterSpan} :
    span ∈ spansAt plan layerIndex ↔ span ∈ planSpans plan ∧ span.layerIndex = layerIndex := by
  simp [spansAt, spansOfLayer]

theorem sampleLayer_ok {m : DataPlaneMemory δ} {offset : ℤ}
    {spans : List (List LayerTokenScatterSpan)} {layerIndex : ℕ} {s : LayerSamples}
    (h : sampleLayer sha256 env m offset spans layerIndex = .ok s) : ∃ frames,
      sourceFrames env m offset layerIndex (spans.getD layerIndex []) = .ok frames ∧
      s.correctedSourceKey = sha256 frames.correctedKey ∧ s.sourceValue = sha256 frames.value ∧
      s.targetPrefillKey = none := by
  unfold sampleLayer at h
  rcases (checked_ok_iff _ _ _).mp h with ⟨before, _, h⟩
  rcases (checked_ok_iff _ _ _).mp h with ⟨frames, hframes, h⟩
  cases h
  exact ⟨frames, hframes, rfl, rfl, rfl⟩

theorem LayerSampled.more {plan : WorkerLoadPlan sha256} {offset : ℤ}
    {before after : DataPlaneMemory δ} {middle : List (ProbeEvent sha256 δ)} {layerIndex : ℕ}
    {s : LayerSamples} (h : LayerSampled env plan offset before after middle layerIndex s)
    (event : ProbeEvent sha256 δ) :
    LayerSampled env plan offset before after (middle ++ [event]) layerIndex s where
  source := h.source
  loaded := h.loaded
  prefilled := fun key hkey => by
    rcases h.prefilled key hkey with ⟨name, m, frames, hm, hrest⟩
    exact ⟨name, m, frames, List.mem_append_left _ hm, hrest⟩

theorem Following.more {p : ActiveProbe sha256} {offset : ℤ} {before after : DataPlaneMemory δ}
    {middle : List (ProbeEvent sha256 δ)} (h : Following env p offset before after middle)
    {event : ProbeEvent sha256 δ} (hq : Quiet event) :
    Following env p offset before after (middle ++ [event]) where
  quiet := fun e he => (List.mem_append.mp he).elim (h.quiet e)
    fun he => List.mem_singleton.mp he ▸ hq
  digests := h.digests
  spans := h.spans
  sampled := fun layerIndex s hs =>
    ⟨(h.sampled layerIndex s hs).1, (h.sampled layerIndex s hs).2.more event⟩

theorem scattered_following {plan : WorkerLoadPlan sha256} {offset : ℤ}
    {before after : DataPlaneMemory δ} {spans : List (List LayerTokenScatterSpan)}
    {samples samples' : List LayerSamples} {source target : Digest}
    (hdigests : PromptDigests plan source target)
    (hspans : canonicalSpans plan = .ok spans)
    (hsamples : List.Forall₂ (fun i s => sampleLayer sha256 env before offset spans i = .ok s)
      (List.range gptOssNumLayers) samples)
    (hmarked : (List.range gptOssNumLayers).forM (markLayer sha256 env after spans) samples =
      (.ok ⟨⟩, samples')) :
    Following env ⟨plan, spans, samples', some source, some target, true⟩ offset before after []
    where
  quiet := fun _ he => absurd he List.not_mem_nil
  digests := fun source target hs ht => by
    cases hs
    cases ht
    exact hdigests
  spans := hspans
  sampled := fun layerIndex s' hs' => by
    rcases (markLayers_ok _ hmarked).2 layerIndex s' hs' with ⟨s, hs, hin, _⟩
    rcases forall₂_range hsamples hs with ⟨hl, hsample⟩
    rcases sampleLayer_ok hsample with ⟨frames, hframes, hkey, hvalue, hnone⟩
    rcases hin (List.mem_range.mpr hl) with ⟨loaded, hloaded, rfl⟩
    rw [(canonicalSpans_ok hspans).2 layerIndex hl] at hframes hloaded
    refine ⟨hl, ⟨frames, hframes, hkey, hvalue⟩, ⟨loaded, hloaded, rfl, rfl⟩, fun key hk => ?_⟩
    rw [show (s.loaded _ _).targetPrefillKey = s.targetPrefillKey from rfl, hnone] at hk
    cases hk

theorem prefilled_following {p : ActiveProbe sha256} {offset : ℤ}
    {before after : DataPlaneMemory δ} {middle : List (ProbeEvent sha256 δ)}
    (h : Following env p offset before after middle) {name : String} {m : DataPlaneMemory δ}
    {layerIndex : ℕ} {frames : Bytes × Bytes}
    (hindex : extractGptOssLayerIndex name = .ok layerIndex)
    (hframes : pagedFrames env m layerIndex (p.spansOf layerIndex) = .ok frames) :
    Following env (p.withPrefill layerIndex (sha256 frames.1) (sha256 frames.2)) offset before
      after (middle ++ [.layerSaved name m]) where
  quiet := (show Following env p offset before after (middle ++ [.layerSaved name m]) from
    h.more trivial).quiet
  digests := h.digests
  spans := h.spans
  sampled := fun i s' hs' => by
    rcases modify_get hs' with ⟨s, hs, rfl⟩
    rcases h.sampled i s hs with ⟨hl, hsampled⟩
    have hmore := hsampled.more (.layerSaved name m)
    refine ⟨hl, ?_⟩
    by_cases hi : layerIndex = i
    · subst hi
      rw [if_pos rfl]
      rw [ActiveProbe.spansOf, (canonicalSpans_ok h.spans).2 layerIndex hl] at hframes
      refine ⟨hmore.source, hmore.loaded, fun key hk => ?_⟩
      cases hk
      exact ⟨name, m, frames, List.mem_append_right _ (List.mem_singleton_self _), hindex, hframes,
        rfl, rfl⟩
    · rw [if_neg hi]
      exact hmore

end

section
variable {sha256 : Bytes → Digest} {δ : Type} {env : ProbeEnvironment δ}
  {es : List (ProbeEvent sha256 δ)}

theorem framed_more {x : Bytes} (h : Framed env es x) (later : List (ProbeEvent sha256 δ)) :
    Framed env (es ++ later) x := by
  cases h with
  | pagedKey hplan he hm hl h =>
    exact .pagedKey (List.mem_append_left _ hplan) (List.mem_append_left _ he) hm hl h
  | pagedValue hplan he hm hl h =>
    exact .pagedValue (List.mem_append_left _ hplan) (List.mem_append_left _ he) hm hl h
  | correctedKey hplan hl h => exact .correctedKey (List.mem_append_left _ hplan) hl h
  | sourceValue hplan hl h => exact .sourceValue (List.mem_append_left _ hplan) hl h

theorem TellsApart.before {later : List (ProbeEvent sha256 δ)}
    (h : TellsApart env (es ++ later)) : TellsApart env es :=
  fun x hx y hy => h x (framed_more hx later) y (framed_more hy later)

theorem captureMetadata_ok {p : ActiveProbe sha256} {source target : Digest}
    {recomputed avoided : ℤ} {metadata : TransferEvidenceCaptureMetadata}
    (hd : PromptDigests p.plan source target)
    (h : captureMetadata p source target recomputed avoided = .ok metadata)
    (layers : List LayerTransferEvidence) :
    NamesPlan p.plan recomputed avoided (evidenceFields metadata.val layers) := by
  unfold captureMetadata at h
  rcases (checked_ok_iff _ _ _).mp h with ⟨digest, hdigest, h⟩
  rcases (checked_ok_iff _ _ _).mp h with ⟨tokens, htokens, h⟩
  rcases (checked_ok_iff _ _ _).mp h with ⟨segments, hsegments, h⟩
  rw [(construct_ok_iff _ _ _).mp ((mapError_ok_iff _ _ _).mp h)]
  exact ⟨⟨digest, hdigest, rfl⟩, ⟨source, target, hd, rfl, rfl⟩, hsegments, ⟨tokens, htokens, rfl⟩,
    rfl, rfl, rfl, rfl⟩

theorem assembled_rows {p : ActiveProbe sha256} {offset : ℤ}
    {before after final : DataPlaneMemory δ} {earlier middle : List (ProbeEvent sha256 δ)}
    (hf : Following env p offset before after middle) {recomputed avoided : ℤ}
    (hes : es = earlier ++ .scattered p.plan offset before after true ::
      (middle ++ [.finished recomputed avoided final .complete]))
    (hapart : TellsApart env es) {layers : List LayerTransferEvidence}
    (hlayers : List.Forall₂ (LayerBuilt env final p) (List.range gptOssNumLayers) layers) :
    ∀ span ∈ planSpans p.plan, RowsLoaded env offset before after span ∧
      ∃ name saved, .layerSaved name saved ∈ middle ∧
        extractGptOssLayerIndex name = .ok span.layerIndex.toNat ∧ RowsKept saved final span := by
  intro span hspan
  rcases canonicalSpans_ok hf.spans with ⟨hindexes, hspans⟩
  rcases hindexes span hspan with ⟨hzero, hlt⟩
  have hl : span.layerIndex.toNat < gptOssNumLayers := by omega
  have hin : span ∈ spansAt p.plan span.layerIndex.toNat :=
    mem_spansAt.mpr ⟨hspan, (Int.toNat_of_nonneg hzero).symm⟩
  have hplan : .scattered p.plan offset before after true ∈ es := by
    rw [hes]
    exact List.mem_append_right _ List.mem_cons_self
  have hmiddle : ∀ event ∈ middle, event ∈ es := by
    intro event he
    rw [hes]
    exact List.mem_append_right _ (List.mem_cons_of_mem _ (List.mem_append_left _ he))
  have hfinal : .finished recomputed avoided final .complete ∈ es := by
    rw [hes]
    simp
  rcases forall₂_left hlayers (List.mem_range.mpr hl) with ⟨layer, _, hbuilt⟩
  rcases built_agrees hbuilt with ⟨s, frames, hs, hframes, hkey, hvalue, hpkey, hpvalue⟩
  rw [ActiveProbe.spansOf, hspans _ hl] at hframes
  rcases (hf.sampled _ s hs).2 with ⟨⟨source, hsource, hskey, hsvalue⟩,
    ⟨loaded, hloaded, hlkey, hlvalue⟩, hprefilled⟩
  rcases hprefilled _ hpkey with ⟨name, saved, kept, hm, hindex, hkept, hkkey, hkvalue⟩
  have hk : loaded.1 = source.correctedKey := by
    apply hapart _ (.pagedKey hplan hplan (by simp [memories]) hl hloaded) _
      (.correctedKey hplan hl hsource)
    rw [← hskey]
    exact Option.some.inj (hlkey.symm.trans hkey)
  have hv : loaded.2 = source.value := by
    apply hapart _ (.pagedValue hplan hplan (by simp [memories]) hl hloaded) _
      (.sourceValue hplan hl hsource)
    rw [← hsvalue]
    exact Option.some.inj (hlvalue.symm.trans hvalue)
  have hsaved : kept = frames := by
    apply Prod.ext
    · exact hapart _ (.pagedKey hplan (hmiddle _ hm) (by simp [memories]) hl hkept) _
        (.pagedKey hplan hfinal (by simp [memories]) hl hframes) hkkey.symm
    · exact hapart _ (.pagedValue hplan (hmiddle _ hm) (by simp [memories]) hl hkept) _
        (.pagedValue hplan hfinal (by simp [memories]) hl hframes)
        (Option.some.inj (hkvalue.symm.trans hpvalue))
  subst hsaved
  rcases layer_loaded (fun _ h => (mem_spansAt.mp h).2) hloaded hsource hk hv span hin with
    ⟨hrows, hsame⟩
  exact ⟨hrows, name, saved, hm, hindex, hsame saved final kept hkept hframes⟩

/-- What holds of the probe and its file after a run. -/
structure Tracked (env : ProbeEnvironment δ) (es : List (ProbeEvent sha256 δ))
    (w : ProbeWorld sha256) : Prop where
  file : ∀ e, w.file = .written e → TellsApart env es → Evidenced env es e
  probe : ∀ p, w.probe = some p → ∃ earlier offset before after middle,
    es = earlier ++ .scattered p.plan offset before after true :: middle ∧
      Following env p offset before after middle

theorem Evidenced.more {e : TransferEvidence} (h : Evidenced env es e)
    (event : ProbeEvent sha256 δ) : Evidenced env (es ++ [event]) e := by
  rcases h with ⟨earlier, middle, later, plan, offset, before, after, recomputed, avoided, final,
    rfl, hrest⟩
  exact ⟨earlier, middle, later ++ [event], plan, offset, before, after, recomputed, avoided,
    final, by simp, hrest⟩

theorem Tracked.file_more {w w' : ProbeWorld sha256} (h : Tracked env es w)
    (hfile : w'.file = w.file) (event : ProbeEvent sha256 δ) :
    ∀ e, w'.file = .written e → TellsApart env (es ++ [event]) → Evidenced env (es ++ [event]) e :=
  fun e he hapart => (h.file e (hfile ▸ he) hapart.before).more event

theorem Tracked.probe_more {w : ProbeWorld sha256} (h : Tracked env es w)
    {event : ProbeEvent sha256 δ} (hq : Quiet event) :
    ∀ p, w.probe = some p → ∃ earlier offset before after middle,
      es ++ [event] = earlier ++ .scattered p.plan offset before after true :: middle ∧
        Following env p offset before after middle := by
  intro p hp
  rcases h.probe p hp with ⟨earlier, offset, before, after, middle, rfl, hf⟩
  exact ⟨earlier, offset, before, after, middle ++ [event], by simp, hf.more hq⟩

theorem performed_tracked {w : ProbeWorld sha256} (h : Tracked env es w)
    (event : ProbeEvent sha256 δ) : Tracked env (es ++ [event]) (performed env w event) := by
  cases event with
  | scattered plan offset before after returned =>
    rcases @scatterRetrieved_cases sha256 δ env plan offset before after returned w with
      ⟨hfile, hprobe⟩
    refine ⟨h.file_more hfile _, fun p hp => ?_⟩
    rcases hprobe with hnone | ⟨rfl, spans, samples, samples', source, target, hspans, hdigests,
      hsamples, hmarked, hprobe⟩
    · cases hp.symm.trans hnone
    · cases hp.symm.trans hprobe
      exact ⟨es, offset, before, after, [], rfl,
        scattered_following hdigests hspans hsamples hmarked⟩
  | layerSaved name m =>
    show Tracked env _ (whenActive (recordPrefillLayer env m name) w).2
    unfold whenActive
    split_ifs
    · rcases @recordPrefillLayer_cases sha256 δ env m name w with hsame | ⟨p, layerIndex, frames,
        hp, hindex, hframes, hstep⟩
      · rw [hsame]
        exact ⟨h.file_more rfl _, h.probe_more trivial⟩
      · rw [hstep]
        refine ⟨h.file_more rfl _, fun p' hp' => ?_⟩
        cases hp'
        rcases h.probe p hp with ⟨earlier, offset, before, after, middle, rfl, hf⟩
        exact ⟨earlier, offset, before, after, middle ++ [.layerSaved name m], by simp; rfl,
          prefilled_following hf hindex hframes⟩
    · exact ⟨h.file_more rfl _, h.probe_more trivial⟩
  | finished recomputed avoided m write =>
    show Tracked env _ (whenActive (finish env m recomputed avoided write) w).2
    unfold whenActive
    split_ifs
    · rcases @finish_cases sha256 δ env m recomputed avoided write w with
        hsame | ⟨hfile, ⟨_, hstep⟩ | ⟨p, source, target, e, hp, hsource, htarget, rfl, he, hstep⟩⟩
      · rw [hsame]
        exact ⟨h.file_more rfl _, h.probe_more trivial⟩
      · rw [hstep]
        have hq : Quiet (.finished recomputed avoided m write : ProbeEvent sha256 δ) := trivial
        exact ⟨fun e he => (by cases he), fun p hp => h.probe_more hq p hp⟩
      · rw [hstep]
        refine ⟨fun e' he' hapart => ?_, fun p' hp' => by cases hp'⟩
        cases he'
        rcases h.probe p hp with ⟨earlier, offset, before, after, middle, rfl, hf⟩
        rcases assembleEvidence_ok he with ⟨metadata, layers, hmetadata, hlayers, hval⟩
        have hdigests := hf.digests source target hsource htarget
        have hes : (earlier ++ .scattered p.plan offset before after true :: middle) ++
            [.finished recomputed avoided m .complete] = earlier ++
              .scattered p.plan offset before after true ::
                (middle ++ [.finished recomputed avoided m .complete]) := by simp
        refine ⟨earlier, middle, [], p.plan, offset, before, after, recomputed, avoided, m, hes,
          hf.quiet, ?_, assembled_rows hf hes hapart hlayers⟩
        rw [hval]
        exact captureMetadata_ok hdigests hmetadata layers
    · exact ⟨h.file_more rfl _, h.probe_more trivial⟩
  | aborted => exact ⟨h.file_more rfl _, fun p hp => by cases hp⟩

theorem after_tracked (es : List (ProbeEvent sha256 δ)) : Tracked env es (after env es) := by
  induction es using List.reverseRecOn with
  | nil => exact ⟨fun e he => (by cases he), fun p hp => by cases hp⟩
  | append_singleton es event ih =>
    rw [after, List.foldl_append]
    exact performed_tracked ih event

theorem performed_file {w : ProbeWorld sha256} (h : w.file.isAbsent = false)
    (event : ProbeEvent sha256 δ) : (performed env w event).file = w.file := by
  cases event with
  | scattered plan offset before after returned =>
    exact (scatterRetrieved_cases plan offset before after returned w).1
  | layerSaved name m =>
    show (whenActive (recordPrefillLayer env m name) w).2.file = _
    unfold whenActive
    split_ifs
    · rcases @recordPrefillLayer_cases sha256 δ env m name w with hsame | ⟨_, _, _, _, _, _, hstep⟩
      · rw [hsame]
      · rw [hstep]
        rfl
    · rfl
  | finished recomputed avoided m write =>
    show (whenActive (finish env m recomputed avoided write) w).2.file = _
    unfold whenActive
    split_ifs
    · rcases @finish_cases sha256 δ env m recomputed avoided write w with hsame | ⟨habsent, _⟩
      · rw [hsame]
      · rw [h] at habsent
        cases habsent
    · rfl
  | aborted => rfl

/-- For any steps of the bridge, refused ones and other requests included, the file is
created at most once and then stays as it is. With a hash that tells apart the preimages of
the run, the evidence in it names the plan of its load, and says that a scatter of this plan
has put the staged values and the corrected keys into all rows of the plan, and that at the
end each row is the one which the save hook of its layer has seen. -/
theorem evidence_certifies (env : ProbeEnvironment δ) (es : List (ProbeEvent sha256 δ)) :
    (∀ e, (after env es).file = .written e → TellsApart env es → Evidenced env es e) ∧
      ∀ later, (after env es).file.isAbsent = false →
        (after env (es ++ later)).file = (after env es).file := by
  refine ⟨(after_tracked es).file, fun later hfile => ?_⟩
  induction later using List.reverseRecOn with
  | nil => rw [List.append_nil]
  | append_singleton later event ih =>
    have hlast : after env (es ++ (later ++ [event])) =
        performed env (after env (es ++ later)) event := by
      simp only [after, List.foldl_append, List.foldl_cons, List.foldl_nil]
    rw [hlast, performed_file (ih ▸ hfile), ih]

end

end CacheBlend.EvidencedTransfers
