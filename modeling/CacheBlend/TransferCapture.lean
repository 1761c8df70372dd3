import CacheBlend.Calls
import CacheBlend.LayerEvidence

/-!
# Assembling the evidence of a transfer

A builder takes the layers of one transfer in their order and gives immutable
evidence for all of them. Calls that are refused leave it as it was, and after
the evidence has been given nothing changes it.
-/

set_option autoImplicit false

namespace CacheBlend.TransferCapture
open CacheBlend.JsonValues CacheBlend.CorrectnessModels CacheBlend.LayerEvidence
open CacheBlend.ScatterSpans (gptOssNumLayers)

inductive TransferCaptureErrorCode where
  | invalidMetadata
  | invalidLayer
  | layerOrderMismatch
  | incompleteLayers
  | finalized
  deriving DecidableEq

/-- A failure of the builder, or of the constructor of the evidence. -/
inductive CaptureFault where
  | capture (code : TransferCaptureErrorCode)
  | evidence (code : TransferEvidenceErrorCode)
  deriving DecidableEq

structure MetadataFields where
  namespaceDigest : JsonValue
  sourcePromptDigest : JsonValue
  sourcePromptTokens : JsonValue
  targetPromptDigest : JsonValue
  loadedTokens : JsonValue
  targetPromptTokens : JsonValue
  recomputedTokens : JsonValue
  reusableSegments : List ReusableSegmentIdentity
  prefillTokensAvoided : JsonValue

def MetadataFields.digests (f : MetadataFields) : List JsonValue :=
  [f.namespaceDigest, f.sourcePromptDigest, f.targetPromptDigest]

def MetadataFields.counts (f : MetadataFields) : List JsonValue :=
  [f.sourcePromptTokens, f.loadedTokens, f.targetPromptTokens, f.recomputedTokens,
    f.prefillTokensAvoided]

/-- `TransferEvidenceCaptureMetadata.__post_init__`. -/
def checkMetadata (f : MetadataFields) : Except TransferCaptureErrorCode Unit := do
  require (∀ v ∈ f.digests, v.isHex 64 = true) .invalidMetadata
  require (∀ v ∈ f.counts, v.isCount 0 = true) .invalidMetadata
  require (f.sourcePromptTokens.intValue ≠ 0 ∧ f.reusableSegments.length ≠ 0 ∧
    (f.reusableSegments.map ReusableSegmentIdentity.tokens).sum = f.loadedTokens.intValue ∧
    f.targetPromptTokens.intValue ≠ 0 ∧
    f.loadedTokens.intValue ≤ f.targetPromptTokens.intValue ∧
    f.recomputedTokens.intValue = f.targetPromptTokens.intValue ∧
    f.prefillTokensAvoided.intValue = 0) .invalidMetadata

abbrev TransferEvidenceCaptureMetadata : Type := Checked checkMetadata

structure TransferEvidenceBuilder where
  metadata : TransferEvidenceCaptureMetadata
  layers : List LayerTransferEvidence
  result : Option TransferEvidence

def TransferEvidenceBuilder.new (metadata : TransferEvidenceCaptureMetadata) :
    TransferEvidenceBuilder := ⟨metadata, [], none⟩

def addLayer (layer : LayerTransferEvidence) : Call TransferEvidenceBuilder CaptureFault PUnit := do
  let b ← Call.read
  let _ ← Call.lift (require.{0,0} (b.result.isNone = true) (.capture .finalized))
  let _ ← Call.lift (require.{0,0} (layer.val.layerIndex.intValue = b.layers.length)
    (.capture .layerOrderMismatch))
  Call.modify fun b => { b with layers := b.layers ++ [layer] }

def evidenceFields (m : MetadataFields) (layers : List LayerTransferEvidence) :
    LayerEvidence.TransferFields where
  schemaVersion := .integer transferEvidenceSchemaVersion
  namespaceDigest := m.namespaceDigest
  sourcePromptDigest := m.sourcePromptDigest
  sourcePromptTokens := m.sourcePromptTokens
  targetPromptDigest := m.targetPromptDigest
  loadedTokens := m.loadedTokens
  targetPromptTokens := m.targetPromptTokens
  recomputedTokens := m.recomputedTokens
  prefillTokensAvoided := m.prefillTokensAvoided
  reusableSegments := m.reusableSegments
  layers := layers

def finish : Call TransferEvidenceBuilder CaptureFault TransferEvidence := do
  let b ← Call.read
  match b.result with
  | some evidence => pure evidence
  | none => do
    let _ ← Call.lift (require.{0,0} (b.layers.length = gptOssNumLayers)
      (.capture .incompleteLayers))
    let evidence ← Call.lift ((construct checkTransfer
      (evidenceFields b.metadata.val b.layers)).mapError .evidence)
    let _ ← Call.modify fun b => { b with result := some evidence }
    pure evidence

/-! ## Runs -/

inductive CaptureCall where
  | addLayer (layer : LayerTransferEvidence)
  | finish

/-- What a call leaves behind, whether it returns or raises. -/
def performed (b : TransferEvidenceBuilder) : CaptureCall → TransferEvidenceBuilder
  | .addLayer layer => (addLayer layer b).2
  | .finish => (finish b).2

def after (b : TransferEvidenceBuilder) (calls : List CaptureCall) : TransferEvidenceBuilder :=
  calls.foldl performed b

def offered (calls : List CaptureCall) : List LayerTransferEvidence :=
  calls.filterMap fun
    | .addLayer layer => some layer
    | .finish => none

/-- The layers and segments agree with the counts of the metadata. -/
def LayersMatch (m : MetadataFields) (layers : List LayerTransferEvidence) : Prop :=
  (∀ s ∈ m.reusableSegments, s.sourceStart+s.tokens ≤ m.sourcePromptTokens.intValue) ∧
  ∀ layer ∈ layers, layer.val.tokenCount.intValue = m.loadedTokens.intValue

theorem isCount_of_le {v : JsonValue} {least : ℤ} (h : v.isCount 0 = true)
    (hl : least ≤ v.intValue) : v.isCount least = true := by
  rcases (isCount_iff 0 v).mp h with ⟨n, rfl, _⟩
  exact (isCount_iff least _).mpr ⟨n, rfl, hl⟩

theorem segment_tokens_pos (s : ReusableSegmentIdentity) : 0 < s.tokens := by
  have hs := s.property
  unfold checkSegment at hs
  rcases (require_then_iff _ _ _ _).mp hs with ⟨_, hs⟩
  rcases (require_then_iff _ _ _ _).mp hs with ⟨hcount, hs⟩
  rcases (require_then_iff _ _ _ _).mp hs with ⟨_, hs⟩
  rcases (require_then_iff _ _ _ _).mp hs with ⟨_, hs⟩
  have hne : s.val.tokens.intValue ≠ 0 := (require_ok_iff _ _ _).mp hs
  rcases (isCount_iff 0 _).mp hcount with ⟨n, hn, hle⟩
  show 0 < s.val.tokens.intValue
  rw [hn] at hne ⊢
  exact lt_of_le_of_ne hle (Ne.symm hne)

theorem segments_sum_pos {segments : List ReusableSegmentIdentity} (h : segments.length ≠ 0) :
    1 ≤ (segments.map ReusableSegmentIdentity.tokens).sum := by
  cases segments with
  | nil => exact absurd rfl h
  | cons s rest =>
    rw [List.map_cons, List.sum_cons]
    have hs := segment_tokens_pos s
    have hrest : 0 ≤ (rest.map ReusableSegmentIdentity.tokens).sum := by
      apply List.sum_nonneg
      intro n hn
      rcases List.mem_map.mp hn with ⟨s', _, rfl⟩
      exact (segment_tokens_pos s').le
    omega

theorem checkTransfer_fields {m : TransferEvidenceCaptureMetadata}
    {layers : List LayerTransferEvidence} (hl : layers.length = gptOssNumLayers)
    (ho : layers.map (fun layer => layer.val.layerIndex.intValue) =
      (List.range layers.length).map fun i : ℕ => (i : ℤ)) :
    checkTransfer (evidenceFields m.val layers) = .ok ⟨⟩ ↔ LayersMatch m.val layers := by
  have hm := m.property
  unfold checkMetadata at hm
  rcases (require_then_iff _ _ _ _).mp hm with ⟨hdigests, hm⟩
  rcases (require_then_iff _ _ _ _).mp hm with ⟨hcounts, hm⟩
  rcases (require_ok_iff _ _ _).mp hm with
    ⟨hsource, hsegments, hsum, htarget, hloaded, hrecomputed, havoided⟩
  have hpos := segments_sum_pos hsegments
  have hcount : ∀ v ∈ m.val.counts, 0 ≤ v.intValue := by
    intro v hv
    rcases (isCount_iff 0 v).mp (hcounts v hv) with ⟨n, rfl, hn⟩
    exact hn
  simp only [MetadataFields.counts, List.forall_mem_cons] at hcounts hcount
  simp only [MetadataFields.digests, List.forall_mem_cons] at hdigests
  unfold checkTransfer LayerEvidence.requireDigest LayerEvidence.requireCount
  simp only [require_then_iff]
  constructor
  · intro h
    rcases h with ⟨_, _, _, _, _, _, _, _, _, _, hsegs, _, _, htokens⟩
    exact ⟨hsegs.2.2, (require_ok_iff _ _ _).mp htokens⟩
  · intro h
    refine ⟨by rfl, hdigests.1, hdigests.2.1, hdigests.2.2.1,
      isCount_of_le hcounts.1 ?_, isCount_of_le hcounts.2.1 ?_, isCount_of_le hcounts.2.2.1 ?_,
      isCount_of_le hcounts.2.2.2.1 ?_, hcounts.2.2.2.2.1, ⟨hloaded, hrecomputed, havoided⟩,
      ⟨hsegments, hsum, h.1⟩, hl, ?_, (require_ok_iff _ _ _).mpr h.2⟩
    · exact lt_of_le_of_ne hcount.1 (Ne.symm hsource)
    · exact hsum ▸ hpos
    · exact lt_of_le_of_ne hcount.2.2.1 (Ne.symm htarget)
    · show 1 ≤ m.val.recomputedTokens.intValue
      rw [hrecomputed]
      exact lt_of_le_of_ne hcount.2.2.1 (Ne.symm htarget)
    · rw [← hl]
      exact ho

/-- What holds of a builder after calls, from its metadata on. -/
structure Assembled (m : TransferEvidenceCaptureMetadata) (calls : List CaptureCall)
    (b : TransferEvidenceBuilder) : Prop where
  metadata : b.metadata = m
  order : b.layers.map (fun layer => layer.val.layerIndex.intValue) =
    (List.range b.layers.length).map fun i : ℕ => (i : ℤ)
  offered : b.layers.Sublist (offered calls)
  result : ∀ e, b.result = some e →
    b.layers.length = gptOssNumLayers ∧ e.val = evidenceFields m.val b.layers

theorem addLayer_cases (layer : LayerTransferEvidence) (b : TransferEvidenceBuilder) :
    (addLayer layer b).2 = b ∨ b.result = none ∧ layer.val.layerIndex.intValue = b.layers.length ∧
      (addLayer layer b).2 = { b with layers := b.layers ++ [layer] } := by
  unfold addLayer require
  rw [Call.read_bind]
  by_cases hr : b.result.isNone = true
  · by_cases hi : layer.val.layerIndex.intValue = b.layers.length
    · simp [hr, hi, Call.bind_run]
      exact Or.inr (by simpa using hr)
    · simp [hr, hi, Call.bind_run]
  · simp [hr, Call.bind_run]

theorem addLayer_ok {layer : LayerTransferEvidence} {b b' : TransferEvidenceBuilder} {u : PUnit}
    (h : addLayer layer b = (.ok u, b')) : b' = { b with layers := b.layers ++ [layer] } := by
  unfold addLayer at h
  rw [Call.read_bind] at h
  rcases (check_then_iff _ _ _ _ _ _).mp h with ⟨_, h⟩
  rcases (check_then_iff _ _ _ _ _ _).mp h with ⟨_, h⟩
  cases h
  rfl

theorem finish_cases (b : TransferEvidenceBuilder) :
    (finish b).2 = b ∨ b.result = none ∧ b.layers.length = gptOssNumLayers ∧ ∃ e,
      e.val = evidenceFields b.metadata.val b.layers ∧
        (finish b).2 = { b with result := some e } := by
  unfold finish
  rw [Call.read_bind]
  cases hr : b.result with
  | some e => exact Or.inl rfl
  | none =>
    by_cases hl : b.layers.length = gptOssNumLayers
    · cases hc : construct checkTransfer (evidenceFields b.metadata.val b.layers) with
      | error code =>
        left
        simp [require, hl, Call.bind_run, Except.mapError]
      | ok e =>
        right
        exact ⟨rfl, hl, e, (construct_ok_iff _ _ _).mp hc,
          by simp [-bind_pure_comp, require, hl, Call.bind_run, Except.mapError]⟩
    · left
      simp [require, hl, Call.bind_run]

theorem performed_assembled {m : TransferEvidenceCaptureMetadata} {calls : List CaptureCall}
    {b : TransferEvidenceBuilder} (h : Assembled m calls b) (c : CaptureCall) :
    Assembled m (calls ++ [c]) (performed b c) := by
  have hmore : (offered calls).Sublist (offered (calls ++ [c])) := by
    rw [offered, offered, List.filterMap_append]
    exact List.sublist_append_left _ _
  have hsame : Assembled m (calls ++ [c]) b :=
    ⟨h.metadata, h.order, h.offered.trans hmore, h.result⟩
  cases c with
  | addLayer layer =>
    show Assembled m _ (addLayer layer b).2
    rcases addLayer_cases layer b with hb | ⟨hr, hi, hb⟩
    · rwa [hb]
    · rw [hb]
      constructor
      · exact h.metadata
      · simp only [List.map_append, List.map_cons, List.map_nil, List.length_append,
          List.length_cons, List.length_nil, h.order, List.range_succ, hi]
      · show (b.layers ++ [layer]).Sublist _
        rw [offered, List.filterMap_append]
        exact h.offered.append_right _
      · intro e he
        rw [show b.result = some e from he] at hr
        cases hr
  | finish =>
    show Assembled m _ (finish b).2
    rcases finish_cases b with hb | ⟨hr, hl, e, he, hb⟩
    · rwa [hb]
    · rw [hb]
      refine ⟨h.metadata, h.order, hsame.offered, ?_⟩
      intro e' he'
      cases he'
      exact ⟨hl, h.metadata ▸ he⟩

theorem after_assembled (m : TransferEvidenceCaptureMetadata) (calls : List CaptureCall) :
    Assembled m calls (after (.new m) calls) := by
  induction calls using List.reverseRecOn with
  | nil => exact ⟨rfl, rfl, List.Sublist.refl _, fun e he => by cases he⟩
  | append_singleton calls c ih =>
    rw [after, List.foldl_append]
    exact performed_assembled ih c

theorem after_finished {b : TransferEvidenceBuilder} {e : TransferEvidence}
    (h : b.result = some e) (calls : List CaptureCall) : after b calls = b := by
  induction calls with
  | nil => rfl
  | cons c calls ih =>
    have hstep : performed b c = b := by
      cases c with
      | addLayer layer =>
        rcases addLayer_cases layer b with hb | ⟨hr, _, _⟩
        · exact hb
        · rw [h] at hr
          cases hr
      | finish =>
        rcases finish_cases b with hb | ⟨hr, _⟩
        · exact hb
        · rw [h] at hr
          cases hr
    rw [after, List.foldl_cons, hstep]
    exact ih

theorem finish_returns_iff {m : TransferEvidenceCaptureMetadata} {calls : List CaptureCall}
    {b : TransferEvidenceBuilder} (h : Assembled m calls b) (e : TransferEvidence) :
    (finish b).1 = .ok e ↔
      b.layers.length = gptOssNumLayers ∧ e.val = evidenceFields m.val b.layers := by
  unfold finish
  rw [Call.read_bind]
  cases hr : b.result with
  | some e' =>
    rcases h.result e' hr with ⟨hl, he'⟩
    show Except.ok e' = .ok e ↔ _
    rw [Except.ok.injEq]
    constructor
    · intro he
      subst he
      exact ⟨hl, he'⟩
    · intro he
      exact Subtype.ext (he'.trans he.2.symm)
  | none =>
    by_cases hl : b.layers.length = gptOssNumLayers
    · rw [← h.metadata]
      cases hc : construct checkTransfer (evidenceFields b.metadata.val b.layers) with
      | error code =>
        have hne : e.val ≠ evidenceFields b.metadata.val b.layers := by
          intro he
          rw [(construct_ok_iff _ _ _).mpr he] at hc
          cases hc
        simp [require, hl, hne, Call.bind_run, Except.mapError]
      | ok e' =>
        have he' := (construct_ok_iff _ _ _).mp hc
        simp [-bind_pure_comp, require, hl, Call.bind_run, Except.mapError, ← he',
          Subtype.ext_iff, eq_comm]
    · simp [require, hl, Call.bind_run]

/-- For any calls on a new builder, refused ones included: its layers are the
layers `0`, `1`, … in order, taken from those offered. `finish` gives the
evidence of the metadata with these layers, exactly when all of them are there
and agree with the counts of the metadata. Once the evidence has been given, no
further calls change the builder. -/
theorem captures_finalize (m : TransferEvidenceCaptureMetadata) (calls : List CaptureCall) :
    let b := after (.new m) calls
    b.layers.map (fun layer => layer.val.layerIndex.intValue) =
        (List.range b.layers.length).map (fun i : ℕ => (i : ℤ)) ∧
      b.layers.Sublist (offered calls) ∧
      (∀ e, (finish b).1 = .ok e ↔
        b.layers.length = gptOssNumLayers ∧ e.val = evidenceFields m.val b.layers) ∧
      ((∃ e, (finish b).1 = .ok e) ↔
        b.layers.length = gptOssNumLayers ∧ LayersMatch m.val b.layers) ∧
      ∀ e, b.result = some e → ∀ later, after (.new m) (calls ++ later) = b := by
  intro b
  have h := after_assembled m calls
  refine ⟨h.order, h.offered, finish_returns_iff h, ?_, ?_⟩
  · constructor
    · intro he
      rcases he with ⟨e, he⟩
      rcases (finish_returns_iff h e).mp he with ⟨hl, hfields⟩
      exact ⟨hl, (checkTransfer_fields hl h.order).mp (hfields ▸ e.property)⟩
    · intro he
      have hcheck := (checkTransfer_fields he.1 h.order).mpr he.2
      exact ⟨⟨_, hcheck⟩, (finish_returns_iff h _).mpr ⟨he.1, rfl⟩⟩
  · intro e he later
    rw [after, List.foldl_append]
    exact after_finished he later

end CacheBlend.TransferCapture
