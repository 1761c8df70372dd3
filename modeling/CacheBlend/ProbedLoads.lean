import CacheBlend.HonestTransfers
import CacheBlend.LookupRuns
import CacheBlend.ScatterTiling
import CacheBlend.StoreReceipts

/-!
# Loads that are probed

A load whose scatters return gives evidence: when each layer is saved once,
its rows are kept to the end and the plan has valid metadata, the probe writes
its file.
-/

set_option autoImplicit false

namespace CacheBlend.ProbedLoads
open CacheBlend.PlannerModels CacheBlend.HybridLayout CacheBlend.ScatterSpans
open CacheBlend.TokenScatter CacheBlend.DataPlane CacheBlend.PagedScatter
open CacheBlend.ExactScatters CacheBlend.VllmAdapters
open CacheBlend.LayoutConstruction (extractGptOssLayerIndex)
open CacheBlend.TransferRuntime hiding checkTransfer
open CacheBlend.WorkerBridge hiding scatterRetrieved
open CacheBlend.JsonValues CacheBlend.CorrectnessModels
open CacheBlend.TransferCapture hiding finish after performed
open CacheBlend.TransferProbe CacheBlend.EvidencedTransfers CacheBlend.HonestTransfers
open CacheBlend.ProbeFrames
open CacheBlend.ScatterTiling hiding spansAt
open CacheBlend.LayerEvidence (LayerTransferEvidence TransferEvidence LayerFields checkLayer
  checkTransfer)

/-! ## The spans of a load plan -/

section
variable {sha256 : Bytes → Digest} {layout : LayeredCacheLayout}
  {m : SchedulerTransferMetadata sha256} {blocks : AdaptedKvCacheBlocks}
  {p : WorkerLoadPlan sha256}

theorem planTransfer_ok {source target : TokenRange} {plan : TokenScatterPlan}
    (h : planTransfer layout blocks source target = .ok plan) :
    planTokenScatter layout blocks.groupBlockTables plan.transfer = .ok plan ∧
      plan.transfer.targetRange = target := by
  refine ⟨?_, (TransferEnds.planTransfer_ranges h).2⟩
  unfold planTransfer at h
  rcases (checked_ok_iff _ _ _).mp h with ⟨transfer, _, h⟩
  have hplan := (mapError_ok_iff _ _ _).mp h
  rwa [planned_transfer hplan]

theorem loadPlan_planned (h : buildLoadPlan layout m blocks = .ok p) : ∀ work ∈ p.candidates,
    planTokenScatter layout blocks.groupBlockTables work.scatterPlan.transfer =
        .ok work.scatterPlan ∧
      work.scatterPlan.transfer.targetRange = work.verifiedCandidate.candidate.targetRange := by
  unfold buildLoadPlan at h
  rcases (checked_ok_iff _ _ _).mp h with ⟨_, _, h⟩
  rcases (checked_ok_iff _ _ _).mp h with ⟨works, hworks, h⟩
  cases h
  intro work hwork
  rcases forall₂_right ((mapM_returns_iff _ _ _).mp hworks) hwork with ⟨entry, _, hentry⟩
  unfold candidateWork at hentry
  rcases (checked_ok_iff _ _ _).mp hentry with ⟨plan, hplan, hentry⟩
  cases hentry
  exact planTransfer_ok hplan

theorem metadata_placed (m : SchedulerTransferMetadata sha256) :
    (∀ v ∈ m.verifiedCandidates, v.candidate.targetRange.stop ≤ m.promptTokenIds.length) ∧
      m.verifiedCandidates.Pairwise
        (fun v w => v.candidate.targetRange.stop ≤ w.candidate.targetRange.start) ∧
      m.promptTokenIds.length ≤ gptOssMaxContextTokens := by
  have h := m.valid
  unfold TransferRuntime.checkTransfer at h
  rcases (require_then_iff _ _ _ _).mp h with ⟨hprompt, h⟩
  rcases (require_then_iff _ _ _ _).mp h with ⟨_, h⟩
  rcases (require_then_iff _ _ _ _).mp h with ⟨_, h⟩
  rcases (require_then_iff _ _ _ _).mp h with ⟨_, h⟩
  rcases (require_then_iff _ _ _ _).mp h with ⟨_, h⟩
  rcases (require_then_iff _ _ _ _).mp h with ⟨_, h⟩
  rcases (require_then_iff _ _ _ _).mp h with ⟨_, h⟩
  rcases LookupRuns.checkCandidates_placed h with ⟨hplaced, hapart⟩
  exact ⟨fun v hv => (hplaced v hv).2, hapart, hprompt.2⟩

theorem ranges_sum {rs : List TokenRange} {bound : ℕ}
    (hp : rs.Pairwise fun r r' => r.stop ≤ r'.start) (hb : ∀ r ∈ rs, r.stop ≤ bound) :
    (rs.map TokenRange.size).sum ≤ bound := by
  have hfrom : ∀ start ≤ bound, (∀ r ∈ rs, start ≤ r.start) →
      start+(rs.map TokenRange.size).sum ≤ bound := by
    induction rs with
    | nil =>
      intro start hle _
      exact hle
    | cons r rs ih =>
      intro start hle hs
      rcases List.pairwise_cons.mp hp with ⟨hfirst, hp⟩
      rcases List.forall_mem_cons.mp hb with ⟨hstop, hb⟩
      have hrest := ih hp hb r.stop hstop hfirst
      have hordered := r.ordered
      have hstart := hs r List.mem_cons_self
      rw [List.map_cons, List.sum_cons, TokenRange.size]
      omega
  have hall := hfrom 0 (Nat.zero_le _) fun _ _ => Nat.zero_le _
  omega

theorem expectedTokens_le (h : buildLoadPlan layout m blocks = .ok p) :
    p.expectedTokens ≤ gptOssMaxContextTokens := by
  rcases metadata_placed m with ⟨hplaced, hapart, hprompt⟩
  rcases TransferEnds.buildLoadPlan_ok h with ⟨_, hverified⟩
  have hinside : ∀ r ∈ m.verifiedCandidates.map fun v => v.candidate.targetRange,
      r.stop ≤ m.promptTokenIds.length := by
    intro r hr
    rcases List.mem_map.mp hr with ⟨v, hv, rfl⟩
    exact hplaced v hv
  have hsum := ranges_sum (List.pairwise_map.mpr hapart) hinside
  have hexpected : p.expectedTokens =
      ((m.verifiedCandidates.map fun v => v.candidate.targetRange).map TokenRange.size).sum := by
    unfold WorkerLoadPlan.expectedTokens
    rw [← hverified, List.map_map, List.map_map]
    rfl
  omega

theorem loadPlan_disjoint (h : buildLoadPlan layout m blocks = .ok p) {calls : List ScatterCall}
    (hc : calls.map ScatterCall.plan = p.candidates.map CandidateScatterWork.scatterPlan) :
    DisjointTargets calls := by
  rcases TransferEnds.buildLoadPlan_ok h with ⟨_, hverified⟩
  have hapart := (metadata_placed m).2.1
  rw [← hverified, List.pairwise_map] at hapart
  have hplans : (p.candidates.map CandidateScatterWork.scatterPlan).Pairwise
      fun plan plan' => ¬plan.transfer.targetRange.Overlaps plan'.transfer.targetRange := by
    apply List.pairwise_map.mpr
    refine hapart.imp_of_mem fun {w w'} hw hw' hle ho => ?_
    rw [(loadPlan_planned h w hw).2, (loadPlan_planned h w' hw').2] at ho
    exact absurd ho.2 (not_lt.mpr hle)
  rw [← hc, List.pairwise_map] at hplans
  exact hplans

theorem tiles_sum {spans : List GroupTokenScatterSpan} {start stop : ℕ}
    (h : Tiles start stop spans) :
    start+(spans.map fun span => span.targetRange.size).sum = stop := by
  induction spans generalizing start with
  | nil => exact h
  | cons span rest ih =>
    rcases h with ⟨hstart, hlt, hrest⟩
    have hsum := ih hrest
    rw [List.map_cons, List.sum_cons, TokenRange.size]
    omega

theorem flatMap_filter_sum {α β : Type} (f : α → List β) (q : β → Bool) (g : β → ℕ)
    (xs : List α) : (((xs.flatMap f).filter q).map g).sum =
      (xs.map fun x => (((f x).filter q).map g).sum).sum := by
  induction xs with
  | nil => rfl
  | cons x xs ih =>
    rw [List.flatMap_cons, List.filter_append, List.map_append, List.sum_append, ih, List.map_cons,
      List.sum_cons]

theorem plan_layer_sum {plan : TokenScatterPlan}
    (h : planTokenScatter layout blocks.groupBlockTables plan.transfer = .ok plan) {i : ℕ}
    (hi : i < gptOssNumLayers) :
    ((plan.layerSpans.filter fun span => span.layerIndex = (i : ℤ)).map
      LayerTokenScatterSpan.tokenCount).sum = plan.transfer.targetRange.size := by
  rcases layer_at layout i hi with ⟨layer, hl, rfl⟩
  rcases planned_tiled h hl with ⟨_, _, _, htiled⟩
  have hsum := tiles_sum htiled.tiles
  rw [List.map_map] at hsum
  show ((ScatterTiling.spansAt plan layer).map fun span => span.groupSpan.targetRange.size).sum = _
  have hcomp : ((fun span : GroupTokenScatterSpan => span.targetRange.size) ∘
      LayerTokenScatterSpan.groupSpan) = fun span => span.groupSpan.targetRange.size := rfl
  rw [hcomp] at hsum
  unfold TokenRange.size
  unfold TokenRange.size at hsum
  omega

theorem layer_sum (h : buildLoadPlan layout m blocks = .ok p) {i : ℕ} (hi : i < gptOssNumLayers) :
    ((EvidencedTransfers.spansAt p i).map LayerTokenScatterSpan.tokenCount).sum =
      p.expectedTokens := by
  have hperm : (EvidencedTransfers.spansAt p i).Perm
      ((planSpans p).filter fun span => span.layerIndex = (i : ℤ)) := sortedBy_perm _ _
  rw [(hperm.map _).sum_eq, planSpans, flatMap_filter_sum, WorkerLoadPlan.expectedTokens]
  apply congrArg List.sum
  apply List.map_congr_left
  intro work hwork
  rcases loadPlan_planned h work hwork with ⟨hplan, htarget⟩
  rw [plan_layer_sum hplan hi, htarget]

end

/-! ## A load that returns -/

section
variable {sha256 : Bytes → Digest} {δ : Type}

/-- The scatters of a load plan, all of which have returned, and a probe whose reads do not fail. -/
structure HonestLoad (env : ProbeEnvironment δ) (layout : LayeredCacheLayout)
    (m : SchedulerTransferMetadata sha256) (blocks : AdaptedKvCacheBlocks)
    (p : WorkerLoadPlan sha256) (calls : List ScatterCall) (offset : ℤ)
    (before after : DataPlaneMemory δ) : Prop where
  legible : Legible env
  built : buildLoadPlan layout m blocks = .ok p
  nonempty : p.candidates ≠ []
  distinct : ∀ table ∈ blocks.groupBlockTables, DistinctBlocks table
  scatters : calls.map ScatterCall.plan = p.candidates.map CandidateScatterWork.scatterPlan
  shift : ∀ c ∈ calls, c.retrievalBufferOffset = offset
  returned : ∃ receipts, scatterAll env.tensors env.correct calls before = (.ok receipts, after)

variable {env : ProbeEnvironment δ} {layout : LayeredCacheLayout}
  {m : SchedulerTransferMetadata sha256} {blocks : AdaptedKvCacheBlocks}
  {p : WorkerLoadPlan sha256} {calls : List ScatterCall} {offset : ℤ}
  {before after : DataPlaneMemory δ}

theorem HonestLoad.planned (h : HonestLoad env layout m blocks p calls offset before after) :
    ∀ c ∈ calls,
      planTokenScatter layout blocks.groupBlockTables c.plan.transfer = .ok c.plan := by
  intro c hc
  have hplan : c.plan ∈ p.candidates.map CandidateScatterWork.scatterPlan :=
    h.scatters ▸ List.mem_map_of_mem hc
  rcases List.mem_map.mp hplan with ⟨work, hwork, he⟩
  rw [← he]
  exact (loadPlan_planned h.built work hwork).1

theorem HonestLoad.exact (h : HonestLoad env layout m blocks p calls offset before after) :
    ScatterExact layout blocks.groupBlockTables env.correct calls before after := by
  rcases h.returned with ⟨receipts, hrun⟩
  rcases scatterAll_returns calls hrun with ⟨hstaging, ws, hws, hpaged⟩
  exact writes_exact h.distinct (loadPlan_disjoint h.built h.scatters) h.planned hws hstaging hpaged

theorem HonestLoad.span_call (h : HonestLoad env layout m blocks p calls offset before after)
    {span : LayerTokenScatterSpan} (hspan : span ∈ planSpans p) :
    ∃ c ∈ calls, span ∈ c.plan.layerSpans := by
  rcases List.mem_flatMap.mp hspan with ⟨work, hwork, hin⟩
  have hplan : work.scatterPlan ∈ calls.map ScatterCall.plan :=
    h.scatters ▸ List.mem_map_of_mem hwork
  rcases List.mem_map.mp hplan with ⟨c, hc, he⟩
  exact ⟨c, hc, he ▸ hin⟩

theorem HonestLoad.prepared_span
    (h : HonestLoad env layout m blocks p calls offset before after)
    {span : LayerTokenScatterSpan} (hspan : span ∈ planSpans p) :
    PreparedSpan env.tensors env.correct before.staging offset span := by
  rcases h.span_call hspan with ⟨c, hc, hin⟩
  rcases h.returned with ⟨receipts, hrun⟩
  have hprepared := scatterAll_prepared calls hrun c hc span hin
  rwa [h.shift c hc] at hprepared

theorem HonestLoad.layer_nonempty
    (h : HonestLoad env layout m blocks p calls offset before after) {i : ℕ}
    (hi : i < gptOssNumLayers) : spansAt p i ≠ [] := by
  rcases List.exists_mem_of_ne_nil _ h.nonempty with ⟨work, hwork⟩
  rcases layer_at layout i hi with ⟨layer, hl, rfl⟩
  rcases layer_span (loadPlan_planned h.built work hwork).1 hl with ⟨span, hspan, _, hindex, _⟩
  exact List.ne_nil_of_mem (mem_spansAt.mpr ⟨List.mem_flatMap.mpr ⟨work, hwork, hspan⟩, hindex⟩)

theorem HonestLoad.prepared (h : HonestLoad env layout m blocks p calls offset before after)
    {i : ℕ} (hi : i < gptOssNumLayers) :
    PreparedLayer env before.staging offset i (spansAt p i) := by
  have hprepared : ∀ span ∈ spansAt p i,
      PreparedSpan env.tensors env.correct before.staging offset span ∧ span.layerIndex = i :=
    fun span hspan => ⟨h.prepared_span (mem_spansAt.mp hspan).1, (mem_spansAt.mp hspan).2⟩
  refine ⟨h.layer_nonempty hi, ?_, hprepared⟩
  -- each span has a token, and the tokens are those of the plan
  have hlength : (spansAt p i).length ≤
      ((spansAt p i).map LayerTokenScatterSpan.tokenCount).sum := by
    have hcard := List.length_le_sum_of_one_le
      ((spansAt p i).map LayerTokenScatterSpan.tokenCount) (by
        intro n hn
        rcases List.mem_map.mp hn with ⟨span, hspan, rfl⟩
        exact (hprepared span hspan).1.bounds.1)
    rwa [List.length_map] at hcard
  rw [layer_sum h.built hi] at hlength
  have htokens := expectedTokens_le h.built
  have hmax : gptOssMaxContextTokens = 131072 := rfl
  omega

theorem HonestLoad.canonical (h : HonestLoad env layout m blocks p calls offset before after) :
    canonicalSpans p = .ok ((List.range gptOssNumLayers).map (spansAt p)) := by
  have hindexes : ∀ span ∈ planSpans p,
      0 ≤ span.layerIndex ∧ span.layerIndex < gptOssNumLayers := by
    intro span hspan
    rcases h.span_call hspan with ⟨c, hc, hin⟩
    rcases planned_span_layer (h.planned c hc) hin with ⟨layer, hl, _, hindex⟩
    have hlt := layer_index_lt hl
    omega
  unfold canonicalSpans
  refine (require_then_iff _ _ _ _).mpr ⟨fun h0 => h.nonempty (List.length_eq_zero_iff.mp h0),
    (require_then_iff _ _ _ _).mpr ⟨hindexes, (mapM_returns_iff _ _ _).mpr ?_⟩⟩
  rw [List.forall₂_map_right_iff, List.forall₂_same]
  intro i hi
  have hlt := List.mem_range.mp hi
  exact (require_then_iff _ _ _ _).mpr ⟨⟨h.layer_nonempty hlt, layer_sum h.built hlt,
    fun span hspan => (mem_spansAt.mp hspan).2⟩, rfl⟩

end

/-! ## Samples of the load -/

section
variable {sha256 : Bytes → Digest} {δ : Type} {env : ProbeEnvironment δ}
  {layout : LayeredCacheLayout} {m : SchedulerTransferMetadata sha256}
  {blocks : AdaptedKvCacheBlocks} {p : WorkerLoadPlan sha256} {calls : List ScatterCall}
  {offset : ℤ} {before after : DataPlaneMemory δ}

def framesAt (env : ProbeEnvironment δ) (p : WorkerLoadPlan sha256) (m : DataPlaneMemory δ)
    (i : ℕ) : Bytes × Bytes :=
  (shownFrame env (spansAt p i) (rowsAt m · .key), shownFrame env (spansAt p i) (rowsAt m · .value))

def sampleAt (env : ProbeEnvironment δ) (p : WorkerLoadPlan sha256) (offset : ℤ)
    (m : DataPlaneMemory δ) (i : ℕ) : LayerSamples where
  beforeKey := sha256 (framesAt env p m i).1
  beforeValue := sha256 (framesAt env p m i).2
  rawSourceKey := sha256 (shownFrame env (spansAt p i) (sourceRows m.staging offset · .key))
  correctedSourceKey :=
    sha256 (shownFrame env (spansAt p i) (correctedRows env.correct m.staging offset))
  sourceValue := sha256 (shownFrame env (spansAt p i) (sourceRows m.staging offset · .value))
  afterLoadKey := none
  afterLoadValue := none
  targetPrefillKey := none
  targetPrefillValue := none

def noted {α : Type} (f : ℕ → α) : List α := (List.range gptOssNumLayers).map f

theorem noted_get {α : Type} (f : ℕ → α) {i : ℕ} (hi : i < gptOssNumLayers) :
    (noted f)[i]? = some (f i) := by
  rw [noted, List.getElem?_map, List.getElem?_range hi]
  rfl

theorem noted_modify {α : Type} (f : ℕ → α) (g : ℕ → α → α) (i : ℕ) :
    (noted f).modify i (g i) = noted fun j => if i = j then g j (f j) else f j := by
  apply List.ext_getElem?
  intro j
  rw [List.getElem?_modify, noted, noted, List.getElem?_map, List.getElem?_map]
  by_cases hj : j < gptOssNumLayers
  · rw [List.getElem?_range hj]
    by_cases hi : i = j
    · subst hi
      rfl
    · exact congrArg some ((if_neg hi).trans (if_neg hi).symm)
  · rw [List.getElem?_eq_none (by rw [List.length_range]; omega)]
    rfl

theorem filled_cons {α : Type} (f : ℕ → α) (g : ℕ → α → α) {i : ℕ} {layers : List ℕ}
    (hi : i ∉ layers) :
    (fun j => if j ∈ layers then g j (if i = j then g j (f j) else f j)
      else if i = j then g j (f j) else f j) =
      fun j => if j ∈ i::layers then g j (f j) else f j := by
  funext j
  by_cases hj : i = j
  · subst hj
    simp only [hi, if_false, if_true, List.mem_cons, true_or]
  · have hne : j ≠ i := Ne.symm hj
    simp only [hj, hne, if_false, List.mem_cons, false_or]

theorem HonestLoad.frames (h : HonestLoad env layout m blocks p calls offset before after)
    {i : ℕ} (hi : i < gptOssNumLayers) (now : DataPlaneMemory δ) :
    pagedFrames env now i (spansAt p i) = .ok (framesAt env p now i) :=
  pagedFrames_of (h.prepared hi) h.legible now

theorem spans_getD {i : ℕ} (hi : i < gptOssNumLayers) :
    (noted (spansAt p)).getD i [] = spansAt p i := by
  rw [List.getD_eq_getElem?_getD, noted_get _ hi]
  rfl

theorem HonestLoad.sampled (h : HonestLoad env layout m blocks p calls offset before after) :
    (List.range gptOssNumLayers).mapM (sampleLayer sha256 env before offset (noted (spansAt p))) =
      .ok (noted (sampleAt env p offset before)) := by
  apply (mapM_returns_iff _ _ _).mpr
  apply List.forall₂_map_right_iff.mpr
  apply List.forall₂_same.mpr
  intro i hi
  have hlt := List.mem_range.mp hi
  unfold sampleLayer
  rw [spans_getD hlt]
  exact (checked_ok_iff _ _ _).mpr ⟨_, h.frames hlt before,
    (checked_ok_iff _ _ _).mpr ⟨_, sourceFrames_of (h.prepared hlt) h.legible, rfl⟩⟩

theorem HonestLoad.marked (h : HonestLoad env layout m blocks p calls offset before after)
    {layers : List ℕ} (hn : layers.Nodup) (hl : ∀ i ∈ layers, i < gptOssNumLayers)
    (f : ℕ → LayerSamples) :
    layers.forM (markLayer sha256 env after (noted (spansAt p))) (noted f) =
      (.ok ⟨⟩, noted fun i => if i ∈ layers then
        (f i).loaded (sha256 (framesAt env p after i).1) (sha256 (framesAt env p after i).2)
        else f i) := by
  let mark (i : ℕ) (s : LayerSamples) : LayerSamples :=
    s.loaded (sha256 (framesAt env p after i).1) (sha256 (framesAt env p after i).2)
  induction layers generalizing f with
  | nil => simp only [List.not_mem_nil, if_false]; rfl
  | cons layer layers ih =>
    rcases List.nodup_cons.mp hn with ⟨hnew, hn⟩
    rcases List.forall_mem_cons.mp hl with ⟨hlayer, hl⟩
    have hfirst : markLayer sha256 env after (noted (spansAt p)) layer (noted f) =
        (.ok ⟨⟩, noted fun i => if layer = i then mark i (f i) else f i) := by
      unfold markLayer
      refine (Call.lift_bind_iff _ _ _ _ _).mpr ⟨framesAt env p after layer, ?_, ?_⟩
      · rw [spans_getD hlayer]
        exact h.frames hlayer after
      · rw [Call.modify_run, ← noted_modify]
    refine (Call.bind_ok_iff _ _ _ _ _).mpr ⟨_, _, hfirst, ?_⟩
    refine (ih hn hl _).trans ?_
    exact congrArg (Prod.mk _ ∘ noted) (filled_cons f mark hnew)

theorem beginLoad_returns {env : ProbeEnvironment δ} {tokens : List TokenId}
    {source target : Digest} {spans : List (List LayerTokenScatterSpan)}
    {samples : List LayerSamples} {file : EvidenceFile}
    (hspans : canonicalSpans p = .ok spans) (htokens : sourcePromptTokens p = .ok tokens)
    (hsamples : (List.range gptOssNumLayers).mapM (sampleLayer sha256 env before offset spans) =
      .ok samples)
    (hsource : digestTokenIds sha256 tokens = .ok source)
    (htarget : digestTokenIds sha256 p.metadata.promptTokenIds = .ok target) :
    beginLoad env before p offset ⟨none, file⟩ =
      (.ok ⟨⟩, ⟨some ⟨p, spans, samples, some source, some target, false⟩, file⟩) := by
  unfold beginLoad
  rw [Call.read_bind]
  refine (check_then_iff _ _ _ _ _ _).mpr ⟨rfl, ?_⟩
  refine (Call.lift_bind_iff _ _ _ _ _).mpr ⟨spans, hspans, ?_⟩
  refine (Call.lift_bind_iff _ _ _ _ _).mpr ⟨tokens, htokens, ?_⟩
  refine (Call.lift_bind_iff _ _ _ _ _).mpr ⟨samples, hsamples, ?_⟩
  rw [Call.modify_bind]
  refine (Call.lift_bind_iff _ _ _ _ _).mpr ⟨source, hsource, ?_⟩
  unfold updateProbe
  rw [Call.modify_bind]
  exact (Call.lift_bind_iff _ _ _ _ _).mpr ⟨target, htarget, rfl⟩

def loadedSample (env : ProbeEnvironment δ) (p : WorkerLoadPlan sha256) (offset : ℤ)
    (before after : DataPlaneMemory δ) (i : ℕ) : LayerSamples :=
  (sampleAt env p offset before i).loaded (sha256 (framesAt env p after i).1)
    (sha256 (framesAt env p after i).2)

theorem HonestLoad.scattered (h : HonestLoad env layout m blocks p calls offset before after)
    {tokens : List TokenId} {source target : Digest} {file : EvidenceFile}
    (htokens : sourcePromptTokens p = .ok tokens)
    (hsource : digestTokenIds sha256 tokens = .ok source)
    (htarget : digestTokenIds sha256 p.metadata.promptTokenIds = .ok target) :
    performed env ⟨none, file⟩ (.scattered p offset before after true) =
      ⟨some ⟨p, noted (spansAt p), noted (loadedSample env p offset before after), some source,
        some target, true⟩, file⟩ := by
  have hbegin : beginLoad env before p offset ⟨none, file⟩ = (.ok ⟨⟩, ⟨some ⟨p,
      noted (spansAt p), noted (sampleAt env p offset before), some source, some target, false⟩,
        file⟩) :=
    beginLoad_returns h.canonical htokens h.sampled hsource htarget
  have hmarked := h.marked List.nodup_range (fun _ hi => List.mem_range.mp hi)
    (sampleAt env p offset before)
  have hloaded : (noted fun i => if i ∈ List.range gptOssNumLayers then
      (sampleAt env p offset before i).loaded (sha256 (framesAt env p after i).1)
        (sha256 (framesAt env p after i).2) else sampleAt env p offset before i) =
      noted (loadedSample env p offset before after) := by
    apply List.map_congr_left
    intro i hi
    exact if_pos hi
  rw [hloaded] at hmarked
  show (scatterRetrieved env p offset before after true ⟨none, file⟩).2 = _
  have hrun : (do
      let _ ← beginLoad env before p offset
      let _ ← Call.lift (require.{0,0} (true = true) .raised)
      markLoadComplete env after : ProbeCall sha256 PUnit) ⟨none, file⟩ =
        (.ok ⟨⟩, ⟨some ⟨p, noted (spansAt p), noted (loadedSample env p offset before after),
          some source, some target, true⟩, file⟩) := by
    refine (Call.bind_ok_iff _ _ _ _ _).mpr ⟨_, _, hbegin, ?_⟩
    refine (check_then_iff _ _ _ _ _ _).mpr ⟨rfl, ?_⟩
    unfold markLoadComplete
    rw [Call.read_bind]
    exact (Call.within_bind_iff _ _ _ _ _ _ _ _).mpr ⟨_, _, hmarked, rfl⟩
  unfold scatterRetrieved
  rw [hrun]

end

/-! ## Saves -/

section
variable {sha256 : Bytes → Digest} {δ : Type} {env : ProbeEnvironment δ}
  {layout : LayeredCacheLayout} {m : SchedulerTransferMetadata sha256}
  {blocks : AdaptedKvCacheBlocks} {p : WorkerLoadPlan sha256} {calls : List ScatterCall}
  {offset : ℤ} {before after final : DataPlaneMemory δ}

/-- A save of a layer whose rows are kept until the end. -/
def KeptSave (p : WorkerLoadPlan sha256) (final : DataPlaneMemory δ)
    (save : String × DataPlaneMemory δ) (i : ℕ) : Prop :=
  extractGptOssLayerIndex save.1 = .ok i ∧ ∀ span ∈ spansAt p i, RowsKept save.2 final span

def savedEvents (saves : List (String × DataPlaneMemory δ)) : List (ProbeEvent sha256 δ) :=
  saves.map fun save => .layerSaved save.1 save.2

theorem HonestLoad.kept (h : HonestLoad env layout m blocks p calls offset before after)
    {save : String × DataPlaneMemory δ} {i : ℕ} (hi : i < gptOssNumLayers)
    (hs : KeptSave p final save i) : framesAt env p save.2 i = framesAt env p final i := by
  have hframes := pagedFrames_kept (h.prepared hi) h.legible hs.2
  rw [h.frames hi, h.frames hi] at hframes
  exact (Except.ok.inj hframes).symm

theorem whenActive_run {c : ProbeCall sha256 PUnit} {w : ProbeWorld sha256}
    (h : w.probe.isSome = true) : whenActive c w = c w := if_pos h

/-- The samples of a layer with the digests of its rows at the end. -/
def prefilledSample (env : ProbeEnvironment δ) (p : WorkerLoadPlan sha256)
    (final : DataPlaneMemory δ) (s : LayerSamples) (i : ℕ) : LayerSamples :=
  s.prefilled (sha256 (framesAt env p final i).1) (sha256 (framesAt env p final i).2)

theorem HonestLoad.saved_step (h : HonestLoad env layout m blocks p calls offset before after)
    {save : String × DataPlaneMemory δ} {i : ℕ} (hi : i < gptOssNumLayers)
    (hs : KeptSave p final save i) {f : ℕ → LayerSamples} (hf : (f i).targetPrefillKey = none)
    (source target : Option Digest) (file : EvidenceFile) :
    performed env ⟨some ⟨p, noted (spansAt p), noted f, source, target, true⟩, file⟩
        (.layerSaved save.1 save.2) =
      ⟨some ⟨p, noted (spansAt p), noted fun j =>
        if i = j then prefilledSample env p final (f j) j else f j, source, target, true⟩,
          file⟩ := by
  have hfresh : ∀ s ∈ (noted f)[i]?, s.targetPrefillKey.isNone = true := by
    rw [noted_get f hi]
    intro s hs
    cases hs
    rw [hf]
    rfl
  have hspans : (noted (spansAt p)).getD i [] = spansAt p i := spans_getD hi
  have hrun : recordPrefillLayer env save.2 save.1
      ⟨some ⟨p, noted (spansAt p), noted f, source, target, true⟩, file⟩ =
        (.ok ⟨⟩, ⟨some ⟨p, noted (spansAt p), (noted f).modify i (·.prefilled
          (sha256 (framesAt env p save.2 i).1) (sha256 (framesAt env p save.2 i).2)),
            source, target, true⟩, file⟩) := by
    unfold recordPrefillLayer
    rw [Call.read_bind]
    refine (check_then_iff _ _ _ _ _ _).mpr ⟨rfl, ?_⟩
    refine (Call.lift_bind_iff _ _ _ _ _).mpr ⟨i, (mapError_ok_iff _ _ _).mpr hs.1, ?_⟩
    refine (check_then_iff _ _ _ _ _ _).mpr ⟨hfresh, ?_⟩
    refine (Call.lift_bind_iff _ _ _ _ _).mpr ⟨framesAt env p save.2 i, ?_, rfl⟩
    rw [ActiveProbe.spansOf, hspans]
    exact h.frames hi save.2
  show (whenActive (recordPrefillLayer env save.2 save.1) _).2 = _
  rw [whenActive_run rfl, hrun, h.kept hi hs,
    ← noted_modify f fun j s => prefilledSample env p final s j]
  rfl

theorem HonestLoad.saved (h : HonestLoad env layout m blocks p calls offset before after)
    {saves : List (String × DataPlaneMemory δ)} {order : List ℕ}
    (hs : List.Forall₂ (KeptSave p final) saves order) (hn : order.Nodup)
    (hl : ∀ i ∈ order, i < gptOssNumLayers) {f : ℕ → LayerSamples}
    (hf : ∀ i ∈ order, (f i).targetPrefillKey = none) (source target : Option Digest)
    (file : EvidenceFile) :
    (savedEvents saves).foldl (performed env)
        ⟨some ⟨p, noted (spansAt p), noted f, source, target, true⟩, file⟩ =
      ⟨some ⟨p, noted (spansAt p), noted fun j =>
        if j ∈ order then prefilledSample env p final (f j) j else f j, source, target, true⟩,
          file⟩ := by
  induction hs generalizing f with
  | nil => simp only [List.not_mem_nil, if_false]; rfl
  | @cons save i saves order hsave _ ih =>
    rcases List.nodup_cons.mp hn with ⟨hnew, hn⟩
    rcases List.forall_mem_cons.mp hl with ⟨hi, hl⟩
    rcases List.forall_mem_cons.mp hf with ⟨hfirst, hf⟩
    rw [savedEvents, List.map_cons, List.foldl_cons, h.saved_step hi hsave hfirst]
    refine (ih hn hl ?_).trans ?_
    · intro j hj
      have hne : i ≠ j := fun he => hnew (he ▸ hj)
      rw [if_neg hne]
      exact hf j hj
    · rw [filled_cons f (fun j s => prefilledSample env p final s j) hnew]

end

/-! ## The evidence -/

theorem hexDigit_isLower : ∀ n < 16, isLowerHex (codePoint (hexDigit n)) = true := by decide

theorem hexDigest_isHex (d : Digest) : (hexDigest d).isHex 64 = true := by
  have hlength : (pyText (hex d.val)).length = 64 := by
    rw [pyText, List.length_map, StoreReceipts.hex_length, d.property]
  have hall : (pyText (hex d.val)).all isLowerHex = true := by
    rw [List.all_eq_true]
    intro c hc
    rcases List.mem_map.mp hc with ⟨c', hc', rfl⟩
    rw [StoreReceipts.hex_toList] at hc'
    rcases List.mem_flatMap.mp hc' with ⟨b, _, hb⟩
    have hlt := b.toNat_lt
    rcases List.mem_pair.mp hb with rfl | rfl
    · exact hexDigit_isLower _ (by omega)
    · exact hexDigit_isLower _ (by omega)
  show (decide _ && _) = true
  rw [hall, Bool.and_true]
  exact decide_eq_true hlength

section
variable {sha256 : Bytes → Digest} {δ : Type} {env : ProbeEnvironment δ}
  {layout : LayeredCacheLayout} {m : SchedulerTransferMetadata sha256}
  {blocks : AdaptedKvCacheBlocks} {p : WorkerLoadPlan sha256} {calls : List ScatterCall}
  {offset : ℤ} {before after final : DataPlaneMemory δ}

theorem expectedKind_nat (i : ℕ) :
    (if i%2 = 0 then AttentionKind.sliding else AttentionKind.full) =
      LayerEvidence.expectedKind i := by
  have hmod : ((i : ℤ)%2 = 0) ↔ i%2 = 0 := by omega
  unfold LayerEvidence.expectedKind
  simp only [hmod]

theorem layerFields_pass {i tokens : ℕ} (hi : i < gptOssNumLayers) (ht : 0 < tokens)
    {s : LayerSamples} {key value : Digest}
    (hk : s.afterLoadKey = some s.correctedSourceKey) (hv : s.afterLoadValue = some s.sourceValue)
    (hpk : s.targetPrefillKey = some key) (hpv : s.targetPrefillValue = some value) :
    ∃ fields, layerFields i tokens s key value = .ok fields ∧ checkLayer fields = .ok ⟨⟩ ∧
      fields.layerIndex = .integer i ∧ fields.tokenCount = .integer tokens := by
  unfold layerFields
  rw [hk, hv, hpk, hpv]
  refine ⟨_, rfl, ?_, rfl, rfl⟩
  have hindex : isIndex gptOssNumLayers (.integer i) = true := by
    show (decide (0 ≤ (i : ℤ)) && decide ((i : ℤ) < gptOssNumLayers)) = true
    rw [Bool.and_eq_true, decide_eq_true_iff, decide_eq_true_iff]
    exact ⟨Int.natCast_nonneg _, Int.ofNat_lt.mpr hi⟩
  have hcount : (JsonValue.integer tokens).isCount 1 = true :=
    (isCount_iff 1 _).mpr ⟨tokens, rfl, by omega⟩
  unfold checkLayer
  refine (require_then_iff _ _ _ _).mpr ⟨hindex,
    (require_then_iff _ _ _ _).mpr ⟨expectedKind_nat i,
      (checked_ok_iff _ _ _).mpr ⟨⟨⟩, (require_ok_iff _ _ _).mpr hcount,
        (require_then_iff _ _ _ _).mpr ⟨rfl, (require_then_iff _ _ _ _).mpr ⟨rfl,
          (checked_ok_iff _ _ _).mpr ⟨⟨⟩, (forM_returns_iff _ _).mpr ?_,
            (require_then_iff _ _ _ _).mpr ⟨⟨rfl, rfl⟩,
              (require_ok_iff _ _ _).mpr ⟨rfl, rfl⟩⟩⟩⟩⟩⟩⟩⟩
  intro v hv
  apply (require_ok_iff _ _ _).mpr
  simp only [LayerFields.digests, List.mem_cons, List.not_mem_nil, or_false] at hv
  rcases hv with rfl | rfl | rfl | rfl | rfl | rfl | rfl | rfl | rfl | rfl | rfl <;>
    exact hexDigest_isHex _

theorem addLayer_returns {layer : LayerTransferEvidence} {b : TransferEvidenceBuilder}
    (hr : b.result = none) (hi : layer.val.layerIndex.intValue = b.layers.length) :
    addLayer layer b = (.ok ⟨⟩, { b with layers := b.layers ++ [layer] }) := by
  unfold addLayer
  rw [Call.read_bind]
  refine (check_then_iff _ _ _ _ _ _).mpr ⟨?_, (check_then_iff _ _ _ _ _ _).mpr ⟨hi, rfl⟩⟩
  rw [hr]
  rfl

def savedProbe (env : ProbeEnvironment δ) (p : WorkerLoadPlan sha256) (offset : ℤ)
    (before after final : DataPlaneMemory δ) (source target : Digest) : ActiveProbe sha256 :=
  ⟨p, noted (spansAt p), noted fun i =>
    prefilledSample env p final (loadedSample env p offset before after i) i, some source,
      some target, true⟩

theorem HonestLoad.layer_match (h : HonestLoad env layout m blocks p calls offset before after)
    {i : ℕ} (hi : i < gptOssNumLayers) :
    shownFrame env (spansAt p i) (rowsAt after · .key) =
        shownFrame env (spansAt p i) (correctedRows env.correct before.staging offset) ∧
      shownFrame env (spansAt p i) (rowsAt after · .value) =
        shownFrame env (spansAt p i) (sourceRows before.staging offset · .value) := by
  apply frames_match (h.prepared hi) h.exact
  intro span hspan
  rcases h.span_call (mem_spansAt.mp hspan).1 with ⟨c, hc, hin⟩
  exact ⟨c, hc, h.shift c hc, h.planned c hc, hin⟩

variable (final) in
theorem HonestLoad.layer_built (h : HonestLoad env layout m blocks p calls offset before after)
    {i : ℕ} (hi : i < gptOssNumLayers) (source target : Digest) {b : TransferEvidenceBuilder}
    (hr : b.result = none) (hl : b.layers.length = i) : ∃ layer : LayerTransferEvidence,
      buildLayer env final (savedProbe env p offset before after final source target) b i =
        .ok { b with layers := b.layers ++ [layer] } ∧
      layer.val.layerIndex = .integer i ∧ layer.val.tokenCount = .integer p.expectedTokens := by
  have htokens : 0 < p.expectedTokens := by
    rw [← layer_sum h.built hi]
    rcases List.exists_mem_of_ne_nil _ (h.layer_nonempty hi) with ⟨span, hspan⟩
    have hle := List.single_le_sum (fun _ _ => Nat.zero_le _) _
      (List.mem_map_of_mem (f := LayerTokenScatterSpan.tokenCount) hspan)
    have hpos := ((h.prepared hi).prepared span hspan).1.bounds.1
    omega
  have hmatch := h.layer_match hi
  rcases layerFields_pass (s := prefilledSample env p final
      (loadedSample env p offset before after i) i) hi htokens
      (congrArg (fun b => some (sha256 b)) hmatch.1) (congrArg (fun b => some (sha256 b)) hmatch.2)
      rfl rfl with ⟨fields, hfields, hcheck, hindex, hcount⟩
  have hnext : fields.layerIndex.intValue = b.layers.length := by
    rw [hindex, hl]
    rfl
  have hadd : TransferCapture.addLayer ⟨fields, hcheck⟩ b =
      (.ok ⟨⟩, { b with layers := b.layers ++ [⟨fields, hcheck⟩] }) := addLayer_returns hr hnext
  refine ⟨⟨fields, hcheck⟩, ?_, hindex, hcount⟩
  have hsample : (savedProbe env p offset before after final source target).samples[i]? =
      some (prefilledSample env p final (loadedSample env p offset before after i) i) :=
    noted_get (fun i => prefilledSample env p final (loadedSample env p offset before after i) i) hi
  unfold buildLayer
  refine (checked_ok_iff _ _ _).mpr ⟨_, orRaised_some hsample, ?_⟩
  refine (checked_ok_iff _ _ _).mpr ⟨framesAt env p final i, ?_, ?_⟩
  · rw [ActiveProbe.spansOf]
    show pagedFrames env final i ((noted (spansAt p)).getD i []) = _
    rw [spans_getD hi]
    exact h.frames hi final
  refine (checked_ok_iff _ _ _).mpr ⟨fields, hfields, (checked_ok_iff _ _ _).mpr
    ⟨⟨fields, hcheck⟩, (mapError_ok_iff _ _ _).mpr ((construct_ok_iff _ _ _).mpr rfl), ?_⟩⟩
  rw [TransferProbe.built, hadd]

variable (final) in
theorem HonestLoad.layers_built (h : HonestLoad env layout m blocks p calls offset before after)
    (source target : Digest) (metadata : TransferEvidenceCaptureMetadata) (n : ℕ)
    (hn : n ≤ gptOssNumLayers) : ∃ layers : List LayerTransferEvidence,
      (List.range n).foldlM (buildLayer env final
        (savedProbe env p offset before after final source target)) (.new metadata) =
          .ok ⟨metadata, layers, none⟩ ∧
      layers.map (fun layer => layer.val.layerIndex.intValue) =
        (List.range n).map (fun i : ℕ => (i : ℤ)) ∧
      ∀ layer ∈ layers, layer.val.tokenCount = .integer p.expectedTokens := by
  induction n with
  | zero => exact ⟨[], rfl, rfl, fun _ h => absurd h List.not_mem_nil⟩
  | succ n ih =>
    rcases ih (by omega) with ⟨layers, hlayers, hindexes, hcounts⟩
    have hlength : layers.length = n := by
      have hl := congrArg List.length hindexes
      simpa using hl
    have hfree : (⟨metadata, layers, none⟩ : TransferEvidenceBuilder).result = none := rfl
    rcases h.layer_built final (by omega) source target hfree hlength with
      ⟨layer, hlayer, hindex, hcount⟩
    refine ⟨layers ++ [layer], ?_, ?_, ?_⟩
    · rw [List.range_succ, List.foldlM_append]
      refine (checked_ok_iff _ _ _).mpr ⟨_, hlayers, ?_⟩
      rw [List.foldlM_cons]
      exact (checked_ok_iff _ _ _).mpr ⟨_, hlayer, rfl⟩
    · rw [List.map_append, hindexes, List.range_succ, List.map_append, List.map_cons, hindex]
      rfl
    · intro other ho
      rcases List.mem_append.mp ho with ho | ho
      · exact hcounts other ho
      · rw [List.mem_singleton.mp ho]
        exact hcount

theorem joinSources_ok {cursor last : ℕ} {rs : List CacheRecord} {tokens : List TokenId}
    (h : joinSources cursor rs = .ok (tokens, last)) : cursor+tokens.length = last ∧
      ∀ r ∈ rs, r.sourceRange.start+r.tokenIds.length ≤ last := by
  induction rs generalizing cursor tokens with
  | nil =>
    cases h
    exact ⟨rfl, fun _ h => absurd h List.not_mem_nil⟩
  | cons r rest ih =>
    unfold joinSources at h
    rcases (require_then_iff _ _ _ _).mp h with ⟨hstart, h⟩
    rcases (checked_ok_iff _ _ _).mp h with ⟨joined, hjoined, h⟩
    cases h
    have hlater : joinSources r.sourceRange.stop rest = .ok (joined.1, joined.2) := hjoined
    rcases ih hlater with ⟨hlength, hrest⟩
    have hsize := r.size_eq
    have hordered := r.sourceRange.ordered
    unfold TokenRange.size at hsize
    refine ⟨?_, List.forall_mem_cons.mpr ⟨?_, hrest⟩⟩
    · rw [List.length_append]
      omega
    · omega

theorem segments_inside {tokens : List TokenId} (htokens : sourcePromptTokens p = .ok tokens)
    {segments : List ReusableSegmentIdentity} (hs : reusableSegments p = .ok segments) :
    ∀ s ∈ segments, s.sourceStart+s.tokens ≤ tokens.length := by
  unfold sourcePromptTokens at htokens
  rcases (checked_ok_iff _ _ _).mp htokens with ⟨joined, hjoined, htokens⟩
  rcases (require_then_iff _ _ _ _).mp htokens with ⟨_, htokens⟩
  cases htokens
  have hall : joinSources 0 (sortedBy (fun r => r.sourceRange.start) (loadedRecords p)) =
      .ok (joined.1, joined.2) := hjoined
  rcases joinSources_ok hall with ⟨hlength, hinside⟩
  unfold reusableSegments at hs
  rcases (checked_ok_iff _ _ _).mp hs with ⟨found, hfound, hs⟩
  rcases (require_then_iff _ _ _ _).mp hs with ⟨_, hs⟩
  cases hs
  intro s hmem
  rcases forall₂_right ((mapM_returns_iff _ _ _).mp hfound) ((mem_sortedBy _ _ _).mp hmem) with
    ⟨work, hwork, hsegment⟩
  unfold segmentOf at hsegment
  rcases (checked_ok_iff _ _ _).mp hsegment with ⟨digest, _, hsegment⟩
  have hval := (construct_ok_iff _ _ _).mp ((mapError_ok_iff _ _ _).mp hsegment)
  have hin := hinside _ ((mem_sortedBy _ _ _).mpr (List.mem_map_of_mem
    (f := fun work : CandidateScatterWork => work.verifiedCandidate.verified.record) hwork))
  unfold ReusableSegmentIdentity.sourceStart ReusableSegmentIdentity.tokens
  rw [hval]
  show (work.verifiedCandidate.verified.record.sourceRange.start : ℤ)+
    work.verifiedCandidate.verified.record.tokenIds.length ≤ joined.1.length
  omega

theorem HonestLoad.assembled (h : HonestLoad env layout m blocks p calls offset before after)
    {source target : Digest} {recomputed avoided : ℤ}
    {metadata : TransferEvidenceCaptureMetadata} (hdigests : PromptDigests p source target)
    (hmetadata : captureMetadata (savedProbe env p offset before after final source target) source
      target recomputed avoided = .ok metadata) : ∃ e,
      assembleEvidence env final (savedProbe env p offset before after final source target) source
        target recomputed avoided = .ok e := by
  rcases h.layers_built final source target metadata gptOssNumLayers (le_refl _) with
    ⟨layers, hlayers, hindexes, hcounts⟩
  have hlength : layers.length = gptOssNumLayers := by
    have hl := congrArg List.length hindexes
    simpa using hl
  have hnames := captureMetadata_ok hdigests hmetadata layers
  have hmatch : LayersMatch metadata.val layers := by
    constructor
    · rcases hnames.sourceTokens with ⟨tokens, htokens, hcount⟩
      have hinside := segments_inside htokens hnames.segments
      have hvalue : metadata.val.sourcePromptTokens.intValue = tokens.length :=
        congrArg JsonValue.intValue hcount
      rwa [← hvalue] at hinside
    · intro layer hlayer
      rw [hcounts layer hlayer]
      exact congrArg JsonValue.intValue hnames.loadedTokens.symm
  have hordered : layers.map (fun layer => layer.val.layerIndex.intValue) =
      (List.range layers.length).map fun i : ℕ => (i : ℤ) := by
    rw [hlength]
    exact hindexes
  have hassembled : Assembled metadata (layers.map .addLayer) ⟨metadata, layers, none⟩ := by
    refine ⟨rfl, hordered, ?_, fun e he => by cases he⟩
    rw [offered, List.filterMap_map]
    exact (List.filterMap_some (l := layers)).symm ▸ List.Sublist.refl _
  have hcheck := (checkTransfer_fields hlength hordered).mpr hmatch
  have hfinish := (finish_returns_iff hassembled ⟨_, hcheck⟩).mpr ⟨hlength, rfl⟩
  refine ⟨⟨_, hcheck⟩, ?_⟩
  unfold assembleEvidence
  exact (checked_ok_iff _ _ _).mpr ⟨metadata, hmetadata, (checked_ok_iff _ _ _).mpr
    ⟨_, hlayers, (mapError_ok_iff _ _ _).mpr hfinish⟩⟩

theorem HonestLoad.finished (h : HonestLoad env layout m blocks p calls offset before after)
    {source target : Digest} {recomputed avoided : ℤ}
    {metadata : TransferEvidenceCaptureMetadata} (hdigests : PromptDigests p source target)
    (hmetadata : captureMetadata (savedProbe env p offset before after final source target) source
      target recomputed avoided = .ok metadata) : ∃ e,
      performed env ⟨some (savedProbe env p offset before after final source target), .absent⟩
        (.finished recomputed avoided final .complete) = ⟨none, .written e⟩ := by
  rcases h.assembled hdigests hmetadata with ⟨e, he⟩
  have hprefilled : AllPrefilled
      (savedProbe env p offset before after final source target).samples := by
    intro s hs
    rcases List.mem_map.mp hs with ⟨i, _, rfl⟩
    exact ⟨rfl, rfl⟩
  have hrun : finish env final recomputed avoided .complete
      ⟨some (savedProbe env p offset before after final source target), .absent⟩ =
        (.ok ⟨⟩, ⟨none, .written e⟩) := by
    unfold finish
    rw [Call.read_bind]
    refine (check_then_iff _ _ _ _ _ _).mpr ⟨⟨rfl, hprefilled⟩, ?_⟩
    exact (Call.lift_bind_iff _ _ _ _ _).mpr ⟨e, he, rfl⟩
  refine ⟨e, ?_⟩
  show (whenActive (finish env final recomputed avoided .complete) _).2 = _
  rw [whenActive_run rfl, hrun]

theorem HonestLoad.evidenced (h : HonestLoad env layout m blocks p calls offset before after)
    {saves : List (String × DataPlaneMemory δ)} {order : List ℕ} {tokens : List TokenId}
    {source target : Digest} {recomputed avoided : ℤ}
    {metadata : TransferEvidenceCaptureMetadata} (htokens : sourcePromptTokens p = .ok tokens)
    (hsource : digestTokenIds sha256 tokens = .ok source)
    (htarget : digestTokenIds sha256 p.metadata.promptTokenIds = .ok target)
    (hmetadata : captureMetadata ⟨p, [], [], none, none, true⟩ source target recomputed avoided =
      .ok metadata)
    (horder : order.Perm (List.range gptOssNumLayers))
    (hsaves : List.Forall₂ (KeptSave p final) saves order) : ∃ e,
      TransferProbe.after env (.scattered p offset before after true ::
        (savedEvents saves ++ [.finished recomputed avoided final .complete])) =
          ⟨none, .written e⟩ := by
  have hsaved : captureMetadata (savedProbe env p offset before after final source target) source
      target recomputed avoided = .ok metadata := hmetadata
  rcases h.finished ⟨⟨tokens, htokens, hsource⟩, htarget⟩ hsaved with ⟨e, he⟩
  refine ⟨e, ?_⟩
  have hscattered : performed env ⟨none, .absent⟩ (.scattered p offset before after true) =
      ⟨some ⟨p, noted (spansAt p), noted (loadedSample env p offset before after), some source,
        some target, true⟩, .absent⟩ := h.scattered htokens hsource htarget
  have hsaved := h.saved hsaves (horder.nodup_iff.mpr List.nodup_range)
    (fun i hi => List.mem_range.mp (horder.mem_iff.mp hi))
    (f := loadedSample env p offset before after) (fun _ _ => rfl) (some source) (some target)
    .absent
  have hall : (noted fun j => if j ∈ order then
      prefilledSample env p final (loadedSample env p offset before after j) j else
        loadedSample env p offset before after j) =
      noted fun j => prefilledSample env p final (loadedSample env p offset before after j) j := by
    apply List.map_congr_left
    intro j hj
    exact if_pos (horder.mem_iff.mpr hj)
  rw [TransferProbe.after, List.foldl_cons, ProbeWorld.idle, hscattered, List.foldl_append, hsaved,
    hall]
  exact he

/-- An honest load whose layers are each saved once, in any order, and whose rows are kept from
then on leaves its evidence in the file. -/
theorem honest_loads_evidenced (env : ProbeEnvironment δ) (layout : LayeredCacheLayout)
    (m : SchedulerTransferMetadata sha256) (blocks : AdaptedKvCacheBlocks)
    (p : WorkerLoadPlan sha256) (calls : List ScatterCall) (offset : ℤ)
    (before after final : DataPlaneMemory δ) (saves : List (String × DataPlaneMemory δ))
    (order : List ℕ) (tokens : List TokenId) (source target : Digest) (recomputed avoided : ℤ)
    (metadata : TransferEvidenceCaptureMetadata)
    (hload : HonestLoad env layout m blocks p calls offset before after)
    (htokens : sourcePromptTokens p = .ok tokens)
    (hsource : digestTokenIds sha256 tokens = .ok source)
    (htarget : digestTokenIds sha256 p.metadata.promptTokenIds = .ok target)
    (hmetadata : captureMetadata ⟨p, [], [], none, none, true⟩ source target recomputed avoided =
      .ok metadata)
    (horder : order.Perm (List.range gptOssNumLayers))
    (hsaves : List.Forall₂ (KeptSave p final) saves order) : ∃ e,
      TransferProbe.after env (.scattered p offset before after true ::
        (savedEvents saves ++ [.finished recomputed avoided final .complete])) =
          ⟨none, .written e⟩ :=
  hload.evidenced htokens hsource htarget hmetadata horder hsaves

end

/-! ## A load of two chunks -/

open CacheBlend.LookupPlans (exampleNamespace exampleText)
open CacheBlend.StoreReceipts (zeros zeros_length ones ones_length zerosOnes zerosOnes_length
  tailDigest twoBlocks request_named)

/-- The source and the target of a chunk of equal tokens. -/
structure MovedChunk where
  source : ℕ
  target : ℕ
  token : TokenId

theorem chunk_size (start : ℕ) : start+256-start = 256 := Nat.add_sub_cancel_left start 256

theorem chunk_positive (start : ℕ) : 0 < start+256-start :=
  (chunk_size start).symm ▸ Nat.succ_pos 255

theorem chunk_nonempty (token : TokenId) : List.replicate 256 token ≠ [] := List.cons_ne_nil _ _

theorem chunk_length (start : ℕ) (token : TokenId) :
    start+256-start = (List.replicate 256 token).length :=
  (chunk_size start).trans List.length_replicate.symm

def chunkRange (start : ℕ) : TokenRange := ⟨start, start+256, Nat.le_add_right start 256⟩

def MovedChunk.digest (c : MovedChunk) : Digest := tailDigest [UInt8.ofNat c.token.val]

def MovedChunk.candidate (c : MovedChunk) : LmcacheTypes.LmcacheCandidate where
  sourceRelativeRange := chunkRange c.source
  targetRange := chunkRange c.target
  storageHash := c.digest
  storageModelName := exampleText
  queryDigest := tailDigest [0]
  target_nonempty := chunk_positive c.target
  size_eq := (chunk_size c.source).trans (chunk_size c.target).symm

theorem MovedChunk.key_nonempty (c : MovedChunk) : c.candidate.cacheKey ≠ "" :=
  StoreReceipts.cacheKeyOf_nonempty c.digest

def MovedChunk.segment (c : MovedChunk) : TokenSegment where
  tokenRange := chunkRange c.target
  tokenIds := List.replicate 256 c.token
  nonempty := chunk_nonempty c.token
  size_eq := chunk_length c.target c.token

def MovedChunk.record (c : MovedChunk) : CacheRecord where
  cacheNamespace := exampleNamespace
  fingerprint := ⟨c.digest⟩
  tokenIds := List.replicate 256 c.token
  sourceRange := chunkRange c.source
  cacheKey := c.candidate.cacheKey
  nonempty := chunk_nonempty c.token
  size_eq := chunk_length c.source c.token
  key_nonempty := c.key_nonempty

def MovedChunk.verified (c : MovedChunk) : LmcacheTypes.VerifiedLmcacheCandidate where
  candidate := c.candidate
  verified := ⟨⟨c.segment, ⟨c.digest⟩, c.record⟩⟩
  range_eq := rfl
  key_eq := rfl
  tokens_eq := rfl
  fingerprint_eq := rfl

/-- The two chunks of the source in the other order, each after a token of its own. -/
def movedChunks : List MovedChunk := [⟨256, 1, 1⟩, ⟨0, 258, 0⟩]

def movedPrompt : List TokenId := 7::ones ++ 7::zeros

def movedMatches : MatchPlan :=
  ⟨movedChunks.map fun c => c.verified.verified, [], 512⟩

theorem movedPlan_sorted : sortedBy RequestLifecycle.segmentSortKey
    (movedChunks.map MovedChunk.segment) = movedChunks.map MovedChunk.segment := by
  decide +kernel

theorem movedPlan_valid : RequestLifecycle.checkRequestPlan "r" 514
    (movedChunks.map MovedChunk.segment) movedMatches = .ok () := by
  decide +kernel

def movedPlan : RequestLifecycle.RequestPlan :=
  ⟨"r", 514, movedChunks.map MovedChunk.segment, movedMatches, movedPlan_sorted, movedPlan_valid⟩

def movedHandoff : RequestLifecycle.RequestHandoffMetadata where
  schemaVersion := RequestLifecycle.metadataSchemaVersion
  plan := movedPlan
  allocation := ⟨"r", 0, twoBlocks, RequestLifecycle.fullRecomputeExternalTokens, request_named,
    rfl⟩
  schema_eq := rfl
  id_eq := rfl

def movedFields : TransferFields where
  cacheNamespace := exampleNamespace
  promptTokenIds := movedPrompt
  verifiedCandidates := movedChunks.map MovedChunk.verified
  handoff := movedHandoff
  numComputedTokensBeforeStep := 0
  scheduledTokenCount := 514
  transferEligible := true
  storeEligible := false

theorem movedFields_valid : TransferRuntime.checkTransfer tailDigest movedFields = .ok () := by
  decide +kernel

def movedMetadata : SchedulerTransferMetadata tailDigest := ⟨movedFields, movedFields_valid⟩

theorem wide_positive : 0 < 256 := Nat.succ_pos 255

def widened (group : HybridLayout.CacheGroupLayout) : HybridLayout.CacheGroupLayout :=
  { group with blockSize := 256, block_positive := wide_positive }

def wideLayer (layerIndex : ℕ) : AttentionLayerLayout :=
  attentionLayer (widened (if layerIndex%2 = 0 then slidingGroup else fullGroup))
    (layerName layerIndex) layerIndex

def wideLayout : LayeredCacheLayout where
  groups := [widened slidingGroup, widened fullGroup]
  ids := alternatingLayout.ids
  kinds := alternatingLayout.kinds
  names_nodup := alternatingLayout.names_nodup
  layers := (List.range gptOssNumLayers).map wideLayer
  indexes := by decide
  layer_names_nodup := by decide +kernel
  of_groups := by decide +kernel
  kinds_eq := by decide +kernel

theorem threeBlocks_bounded :
    ∀ entry ∈ [some 2, some 0, some 1], ∀ b ∈ entry, b ≤ maxVllmBlockId := by
  decide

def threeBlocks : AdaptedKvCacheBlocks where
  groupedAllocation := twoBlocks
  groupBlockTables := [0, 1].map fun group =>
    ⟨group, 256, [some 2, some 0, some 1], wide_positive, threeBlocks_bounded⟩

def movedLoad : WorkerLoadPlan tailDigest :=
  (buildLoadPlan wideLayout movedMetadata threeBlocks).toOption.getD
    ⟨movedMetadata, threeBlocks, []⟩

theorem movedLoad_built : buildLoadPlan wideLayout movedMetadata threeBlocks = .ok movedLoad := by
  have hsome : (buildLoadPlan wideLayout movedMetadata threeBlocks).toOption.isSome = true := by
    decide +kernel
  rcases Option.isSome_iff_exists.mp hsome with ⟨p, hp⟩
  rw [movedLoad, hp, toOption_some hp]
  rfl

def movedCalls : List ScatterCall :=
  movedLoad.candidates.map fun work => ⟨work.scatterPlan, 0, 514, steadyRuntime⟩

theorem wideTensors_nodup : (((List.range gptOssNumLayers).map (fun i : ℕ =>
    (layerName i, (⟨[3, 2, 256, 8, 64], "torch.bfloat16", "cuda:0"⟩ : TensorInfo)))).map
      Prod.fst).Nodup := by
  decide +kernel

def wideTensors : Tensors where
  staging := ⟨[2, 24, 768, 512], "torch.bfloat16", "cuda:0"⟩
  paged := ⟨(List.range gptOssNumLayers).map (fun i : ℕ =>
    (layerName i, ⟨[3, 2, 256, 8, 64], "torch.bfloat16", "cuda:0"⟩)), wideTensors_nodup⟩

theorem singleByte_length (x : UInt8) : [x].length = 1 := rfl

theorem singleByte_injective : Function.Injective fun x : UInt8 => [x] :=
  fun _ _ h => List.singleton_inj.mp h

theorem one_narrow : 1 ≤ 16 := Nat.succ_le_succ (Nat.zero_le 15)

def singleBytes : ElementBytes UInt8 where
  bytes x := [x]
  width := 1
  positive := Nat.one_pos
  narrow := one_narrow
  length := singleByte_length
  injective := singleByte_injective

theorem shifted_exact (rows : List (HeadRow UInt8)) (n : ℕ)
    (h : [rows.length, gptOssNumKvHeads, gptOssHeadDim] = [n, gptOssNumKvHeads, gptOssHeadDim]) :
    rows.length = n := (List.cons.inj h).1

def way (source target : ℕ) : UInt8 := UInt8.ofNat target-UInt8.ofNat source

def shiftedRows (rows : List (HeadRow UInt8)) (sources targets : List ℕ) : List (HeadRow UInt8) :=
  List.zipWith (fun row step head i => row head i+step) rows (List.zipWith way sources targets)

def shiftKeys : KeyPositionCorrector UInt8 := fun rows sources targets _ => some
  { info := ⟨[(shiftedRows rows sources targets).length, gptOssNumKvHeads, gptOssHeadDim],
      "torch.bfloat16", "cuda:0"⟩
    rows := shiftedRows rows sources targets
    exact := shifted_exact _ }

def shiftProbe : ProbeEnvironment UInt8 where
  tensors := wideTensors
  capacity := 768
  allocated := rfl
  correct := shiftKeys
  element := singleBytes
  viewRaises _ := false
  readRaises _ := false

def stagedOnes : DataPlaneMemory UInt8 where
  paged _ _ _ := 0
  staging _ _ := 1

theorem moved_source : sourcePromptTokens movedLoad = .ok zerosOnes := by
  have htokens : (sourcePromptTokens movedLoad).toOption = some zerosOnes := by
    decide +kernel
  exact toOption_some htokens

theorem tailDigest_append {a b : Bytes} (h : b ≠ []) : tailDigest (a ++ b) = tailDigest b := by
  have hlast : (a ++ b).getLastD 0 = b.getLastD 0 := by
    rw [List.getLastD_eq_getLast?, List.getLastD_eq_getLast?, List.getLast?_append_of_ne_nil a h]
  unfold tailDigest
  simp only [hlast]

theorem digest_chunk {tokens : List TokenId} {t : TokenId} (hl : tokens.length < 2^32)
    (hb : ∀ u ∈ tokens, u.val < 2^32) (ht : t.val < 2^32) :
    digestTokenIds tailDigest (tokens ++ List.replicate 256 t) =
      .ok (tailDigest (packU32 t.val)) := by
  have hne : packU32 t.val ≠ [] := List.cons_ne_nil _ _
  unfold digestTokenIds
  refine (require_then_iff _ _ _ _).mpr ⟨⟨?_, fun u hu => ?_⟩, ?_⟩
  · rw [List.length_append, List.length_replicate]
    omega
  · rcases List.mem_append.mp hu with hu | hu
    · exact hb u hu
    · rw [List.eq_of_mem_replicate hu]
      exact ht
  · rw [List.replicate_succ', List.flatMap_append, List.flatMap_append, List.flatMap_singleton,
      ← List.append_assoc, ← List.append_assoc, ← List.append_assoc, tailDigest_append hne]

theorem moved_digest : digestTokenIds tailDigest zerosOnes = .ok (tailDigest [1]) :=
  digest_chunk (t := 1) (by rw [zeros_length]; norm_num)
    (fun u hu => by rw [List.eq_of_mem_replicate hu]; decide) (by decide)

theorem movedPrompt_digest : digestTokenIds tailDigest movedPrompt = .ok (tailDigest [0]) := by
  have hsplit : movedPrompt = (7::ones ++ [7]) ++ List.replicate 256 0 := by
    rw [List.append_assoc]
    rfl
  rw [hsplit, digest_chunk]
  · rfl
  · rw [List.length_append, List.length_cons, ones_length, List.length_singleton]
    norm_num
  · intro u hu
    simp only [List.mem_append, List.mem_cons, List.not_mem_nil, or_false] at hu
    rcases hu with (rfl | hu) | rfl
    · decide
    · rw [List.eq_of_mem_replicate hu]
      decide
    · decide
  · decide

theorem moved_segment {c : MovedChunk} (hc : c ∈ movedChunks) {work : CandidateScatterWork}
    (hv : work.verifiedCandidate = c.verified) :
    ∃ s, segmentOf tailDigest work = .ok s ∧ s.tokens = 256 := by
  have hsmall : ∀ c ∈ movedChunks, c.token.val < 2^32 ∧
      tailDigest (packU32 c.token.val) = c.digest ∧
      checkSegment ⟨hexDigest c.digest, .integer 256, .integer c.source, .integer c.target⟩ =
        .ok ⟨⟩ := by
    decide +kernel
  rcases hsmall c hc with ⟨ht, hd, hchecked⟩
  have hdigest : digestTokenIds tailDigest c.record.tokenIds = .ok c.digest :=
    hd ▸ @digest_chunk [] c.token (by norm_num) (fun _ h => absurd h List.not_mem_nil) ht
  refine ⟨⟨_, hchecked⟩, ?_, rfl⟩
  unfold segmentOf
  rw [hv]
  refine (checked_ok_iff _ _ _).mpr ⟨c.digest, hdigest, (mapError_ok_iff _ _ _).mpr
    ((construct_ok_iff _ _ _).mpr ?_)⟩
  have hlength : c.record.tokenIds.length = 256 := List.length_replicate
  show _ = SegmentFields.mk (hexDigest c.digest) (.integer c.record.tokenIds.length) _ _
  rw [hlength]
  rfl

theorem moved_works : movedLoad.candidates.map CandidateScatterWork.verifiedCandidate =
    movedChunks.map MovedChunk.verified := (TransferEnds.buildLoadPlan_ok movedLoad_built).2

theorem moved_tokens : movedLoad.expectedTokens = 512 := by decide +kernel

theorem moved_segments : ∃ segments, reusableSegments movedLoad = .ok segments ∧
    segments.length = 2 ∧ (segments.map ReusableSegmentIdentity.tokens).sum = 512 := by
  rcases List.map_eq_cons_iff.mp moved_works with ⟨w, rest, hcandidates, hw, hrest⟩
  rcases List.map_eq_singleton_iff.mp hrest with ⟨w', rfl, hw'⟩
  rcases moved_segment List.mem_cons_self hw with ⟨s, hs, htokens⟩
  rcases moved_segment (List.mem_cons_of_mem _ List.mem_cons_self) hw' with ⟨s', hs', htokens'⟩
  have hperm := sortedBy_perm ReusableSegmentIdentity.sourceStart [s, s']
  have hsum : ((sortedBy ReusableSegmentIdentity.sourceStart [s, s']).map
      ReusableSegmentIdentity.tokens).sum = 512 := by
    rw [(hperm.map _).sum_eq, List.map_cons, List.map_singleton, htokens, htokens']
    rfl
  refine ⟨_, ?_, hperm.length_eq, hsum⟩
  unfold reusableSegments
  refine (checked_ok_iff _ _ _).mpr ⟨[s, s'], ?_, (require_then_iff _ _ _ _).mpr ⟨?_, rfl⟩⟩
  · rw [hcandidates]
    exact (mapM_returns_iff _ _ _).mpr (.cons hs (.cons hs' .nil))
  · rw [hsum, moved_tokens]
    rfl

theorem moved_captured : ∃ metadata, captureMetadata ⟨movedLoad, [], [], none, none, true⟩
    (tailDigest [1]) (tailDigest [0]) 514 0 = .ok metadata := by
  have hnamespace : (cacheNamespaceDigest tailDigest
      movedLoad.metadata.cacheNamespace).toOption.isSome = true := by
    decide +kernel
  rcases Option.isSome_iff_exists.mp hnamespace with ⟨digest, hdigest⟩
  rcases moved_segments with ⟨segments, hsegments, hlength, hsum⟩
  have hprompt : movedLoad.metadata.promptTokenCount = 514 := by decide +kernel
  have hchecked : checkMetadata
      { namespaceDigest := hexDigest digest
        sourcePromptDigest := hexDigest (tailDigest [1])
        sourcePromptTokens := .integer zerosOnes.length
        targetPromptDigest := hexDigest (tailDigest [0])
        loadedTokens := .integer movedLoad.expectedTokens
        targetPromptTokens := .integer movedLoad.metadata.promptTokenCount
        recomputedTokens := .integer 514
        reusableSegments := segments
        prefillTokensAvoided := .integer 0 } = .ok ⟨⟩ := by
    rw [moved_tokens, hprompt, zerosOnes_length]
    unfold checkMetadata
    refine (require_then_iff _ _ _ _).mpr ⟨?_, (require_then_iff _ _ _ _).mpr ⟨?_,
      (require_ok_iff _ _ _).mpr ⟨?_, ?_, hsum, ?_⟩⟩⟩
    · intro v hv
      simp only [MetadataFields.digests, List.mem_cons, List.not_mem_nil, or_false] at hv
      rcases hv with rfl | rfl | rfl <;> exact hexDigest_isHex _
    · intro v hv
      simp only [MetadataFields.counts, List.mem_cons, List.not_mem_nil, or_false] at hv
      rcases hv with rfl | rfl | rfl | rfl | rfl <;> rfl
    · exact show (512 : ℤ) ≠ 0 by decide
    · rw [hlength]
      decide
    · exact ⟨show (514 : ℤ) ≠ 0 by decide, show (512 : ℤ) ≤ 514 by decide, rfl, rfl⟩
  refine ⟨⟨_, hchecked⟩, ?_⟩
  unfold captureMetadata
  exact (checked_ok_iff _ _ _).mpr ⟨digest, toOption_some hdigest,
    (checked_ok_iff _ _ _).mpr ⟨zerosOnes, moved_source,
      (checked_ok_iff _ _ _).mpr ⟨segments, hsegments,
        (mapError_ok_iff _ _ _).mpr ((construct_ok_iff _ _ _).mpr rfl)⟩⟩⟩

theorem moved_returns : ∃ receipts after,
    scatterAll shiftProbe.tensors shiftProbe.correct movedCalls stagedOnes =
      (.ok receipts, after) := by
  have hreturned : (scatterAll shiftProbe.tensors shiftProbe.correct movedCalls
      stagedOnes).1.toOption.isSome = true := by
    decide +kernel
  rcases hrun : scatterAll shiftProbe.tensors shiftProbe.correct movedCalls stagedOnes with
    ⟨e | receipts, after⟩
  · rw [hrun] at hreturned
    cases hreturned
  · exact ⟨receipts, after, rfl⟩

theorem moved_honest {receipts : List DataPlaneReceipt} {after : DataPlaneMemory UInt8}
    (h : scatterAll shiftProbe.tensors shiftProbe.correct movedCalls stagedOnes =
      (.ok receipts, after)) : HonestLoad shiftProbe wideLayout movedMetadata threeBlocks movedLoad
        movedCalls 0 stagedOnes after where
  legible := ⟨fun _ => rfl, fun _ => rfl, by decide⟩
  built := movedLoad_built
  nonempty := by decide +kernel
  distinct := by decide
  scatters := by
    rw [movedCalls, List.map_map]
    rfl
  shift c hc := by
    rcases List.mem_map.mp hc with ⟨work, _, rfl⟩
    rfl
  returned := ⟨receipts, h⟩

theorem layerName_extracted : ∀ i ∈ List.range gptOssNumLayers,
    extractGptOssLayerIndex (layerName i) = .ok i := by
  decide +kernel

def layerSaves (final : DataPlaneMemory UInt8) : List (String × DataPlaneMemory UInt8) :=
  (List.range gptOssNumLayers).map fun i : ℕ => (layerName i, final)

theorem layerSaves_kept (final : DataPlaneMemory UInt8) :
    List.Forall₂ (KeptSave movedLoad final) (layerSaves final) (List.range gptOssNumLayers) := by
  apply List.forall₂_map_left_iff.mpr
  apply List.forall₂_same.mpr
  exact fun i hi => ⟨layerName_extracted i hi, fun _ _ _ _ _ => rfl⟩

def movedRun (after : DataPlaneMemory UInt8) : List (ProbeEvent tailDigest UInt8) :=
  .scattered movedLoad 0 stagedOnes after true ::
    (savedEvents (layerSaves after) ++ [.finished 514 0 after .complete])

theorem moved_evidenced : ∃ receipts after e,
    scatterAll shiftProbe.tensors shiftProbe.correct movedCalls stagedOnes =
      (.ok receipts, after) ∧
    TransferProbe.after shiftProbe (movedRun after) = ⟨none, .written e⟩ := by
  rcases moved_returns with ⟨receipts, after, hrun⟩
  rcases moved_captured with ⟨metadata, hmetadata⟩
  rcases honest_loads_evidenced shiftProbe wideLayout movedMetadata threeBlocks movedLoad
    movedCalls 0 stagedOnes after after _ _ zerosOnes (tailDigest [1]) (tailDigest [0]) 514 0
    metadata (moved_honest hrun) moved_source moved_digest movedPrompt_digest hmetadata (.refl _)
    (layerSaves_kept after) with ⟨e, he⟩
  exact ⟨receipts, after, e, hrun, he⟩

/-! ## Preimages of the run -/

def markOf (span : LayerTokenScatterSpan) : ℕ × ℕ × ℕ :=
  (span.sourceRange.start, span.targetRange.start, span.tokenCount)

def movedMarks : List (ℕ × ℕ × ℕ) := [(256, 1, 255), (511, 256, 1), (0, 258, 254), (254, 512, 2)]

theorem moved_marks : ∀ i < gptOssNumLayers, (spansAt movedLoad i).map markOf = movedMarks := by
  decide +kernel

def flatRows (count : ℕ) (byte : UInt8) : List (HeadRow UInt8) :=
  List.replicate count fun _ _ => byte

def flatFrame (byte : ℕ × ℕ × ℕ → UInt8) : Bytes :=
  framedViews (movedMarks.map fun mark => ⟨headShape mark.2.2, "torch.bfloat16",
    payloadOf singleBytes (flatRows mark.2.2 (byte mark))⟩)

theorem shownFrame_flat {i : ℕ} (hi : i < gptOssNumLayers)
    {rows : LayerTokenScatterSpan → List (HeadRow UInt8)} {byte : ℕ × ℕ × ℕ → UInt8}
    (h : ∀ span ∈ spansAt movedLoad i, rows span = flatRows span.tokenCount (byte (markOf span))) :
    shownFrame shiftProbe (spansAt movedLoad i) rows = flatFrame byte := by
  unfold shownFrame flatFrame
  rw [← moved_marks i hi, List.map_map]
  exact congrArg framedViews (List.map_congr_left fun span hspan =>
    congrArg (shownView shiftProbe span) (h span hspan))

theorem map_flat {α : Type} (xs : List α) {n : ℕ} (hn : xs.length = n) (byte : UInt8) :
    xs.map (fun _ => fun _ _ => byte) = flatRows n byte := by
  rw [List.map_const', hn]
  rfl

theorem way_shifted (source target step : ℕ) :
    way (source+step) (target+step) = way source target := by
  unfold way
  rw [UInt8.ofNat_add, UInt8.ofNat_add]
  grind

theorem shiftedRows_flat {n sources targets source target : ℕ} {byte : UInt8} {row : HeadRow UInt8}
    (h : row ∈ shiftedRows (flatRows n byte) (List.range' source sources)
      (List.range' target targets)) : row = fun _ _ => byte+way source target := by
  unfold shiftedRows flatRows at h
  rcases List.mem_iff_getElem.mp h with ⟨i, hi, rfl⟩
  rw [List.getElem_zipWith, List.getElem_zipWith, List.getElem_replicate, List.getElem_range',
    List.getElem_range', Nat.one_mul, way_shifted]

theorem tailDigest_flat {b : Bytes} {byte : UInt8} (hb : b ≠ []) (h : ∀ x ∈ b, x = byte) :
    tailDigest b = tailDigest [byte] := by
  have hlast : b.getLastD 0 = byte := by
    rw [List.getLastD_eq_getLast?, List.getLast?_eq_some_getLast hb]
    exact h _ (List.getLast_mem hb)
  unfold tailDigest
  rw [hlast]
  rfl

theorem payload_flat {n : ℕ} {byte x : UInt8} (h : x ∈ payloadOf singleBytes (flatRows n byte)) :
    x = byte := by
  rcases List.mem_flatMap.mp h with ⟨y, hy, hx⟩
  rcases List.mem_flatMap.mp hy with ⟨row, hrow, hy⟩
  rcases List.mem_flatMap.mp hy with ⟨head, _, hy⟩
  rcases List.mem_map.mp hy with ⟨j, _, rfl⟩
  rw [List.mem_singleton.mp hx, List.eq_of_mem_replicate hrow]

theorem flatFrame_digest (byte : ℕ × ℕ × ℕ → UInt8) :
    tailDigest (flatFrame byte) = tailDigest [byte (254, 512, 2)] := by
  have hne : payloadOf singleBytes (flatRows 2 (byte (254, 512, 2))) ≠ [] := by
    apply List.ne_nil_of_length_pos
    rw [payloadOf_length]
    exact show 0 < 2*512*1 by decide
  have hlast : frameView ⟨headShape 2, "torch.bfloat16",
      payloadOf singleBytes (flatRows 2 (byte (254, 512, 2)))⟩ ≠ [] :=
    List.append_ne_nil_of_right_ne_nil _ (List.append_ne_nil_of_right_ne_nil _
      (List.append_ne_nil_of_right_ne_nil _ hne))
  have hflat : tailDigest (payloadOf singleBytes (flatRows 2 (byte (254, 512, 2)))) =
      tailDigest [byte (254, 512, 2)] := tailDigest_flat hne fun x hx => payload_flat hx
  unfold flatFrame framedViews movedMarks
  simp only [List.map_cons, List.map_nil, List.flatMap_cons, List.flatMap_nil, List.append_nil]
  simp only [← List.append_assoc]
  rw [tailDigest_append hlast]
  unfold frameView
  simp only [← List.append_assoc]
  exact (tailDigest_append hne).trans hflat

section
variable {receipts : List DataPlaneReceipt} {after : DataPlaneMemory UInt8}

/-- The rows that are read in the run: those before the load, the staged values and the
corrected keys. -/
inductive MovedRows where
  | before
  | value
  | key

def MovedRows.byte : MovedRows → ℕ × ℕ × ℕ → UInt8
  | before, _ => 0
  | value, _ => 1
  | key, mark => 1+way mark.1 mark.2.1

theorem MovedRows.apart (rows rows' : MovedRows)
    (h : tailDigest [rows.byte (254, 512, 2)] = tailDigest [rows'.byte (254, 512, 2)]) :
    rows = rows' := by
  cases rows <;> cases rows' <;> first | rfl | exact absurd h (by decide)

theorem moved_corrected (hl : HonestLoad shiftProbe wideLayout movedMetadata threeBlocks movedLoad
    movedCalls 0 stagedOnes after) {i : ℕ} (hi : i < gptOssNumLayers) :
    shownFrame shiftProbe (spansAt movedLoad i)
      (correctedRows shiftProbe.correct stagedOnes.staging 0) =
        flatFrame MovedRows.key.byte := by
  apply shownFrame_flat hi
  intro span hspan
  rcases ((hl.prepared hi).prepared span hspan).1.corrected with ⟨tensor, htensor, hshape, _⟩
  rw [correctedRows_of htensor]
  apply List.eq_replicate_iff.mpr
  refine ⟨tensor.exact _ hshape, fun row hrow => ?_⟩
  have hstaged : stagedKeys stagedOnes.staging 0 span = flatRows span.tokenCount 1 :=
    map_flat _ (by simp [stagingCells]) 1
  rw [hstaged] at htensor
  cases Option.some.inj htensor
  exact shiftedRows_flat hrow

theorem moved_values {i : ℕ} (hi : i < gptOssNumLayers) :
    shownFrame shiftProbe (spansAt movedLoad i) (sourceRows stagedOnes.staging 0 · .value) =
      flatFrame MovedRows.value.byte :=
  shownFrame_flat hi fun _ _ => map_flat _ (by simp [stagingCells]) 1

theorem moved_before {i : ℕ} (hi : i < gptOssNumLayers) (component : KvComponent) :
    shownFrame shiftProbe (spansAt movedLoad i) (rowsAt stagedOnes · component) =
      flatFrame MovedRows.before.byte :=
  shownFrame_flat hi fun _ _ => map_flat _ (by simp [pagedCells]) 0

theorem movedRun_scattered {plan : WorkerLoadPlan tailDigest} {offset : ℤ}
    {m m' : DataPlaneMemory UInt8} {returned : Bool}
    (h : .scattered plan offset m m' returned ∈ movedRun after) :
    plan = movedLoad ∧ offset = 0 ∧ m = stagedOnes := by
  rcases List.mem_cons.mp h with h | h
  · cases h
    exact ⟨rfl, rfl, rfl⟩
  rcases List.mem_append.mp h with h | h
  · rcases List.mem_map.mp h with ⟨save, _, h⟩
    cases h
  · cases List.mem_singleton.mp h

theorem movedRun_memories {event : ProbeEvent tailDigest UInt8} (he : event ∈ movedRun after)
    {m : DataPlaneMemory UInt8} (hm : m ∈ memories event) : m = stagedOnes ∨ m = after := by
  rcases List.mem_cons.mp he with rfl | he
  · exact List.mem_pair.mp hm
  rcases List.mem_append.mp he with he | he
  · rcases List.mem_map.mp he with ⟨save, hsave, rfl⟩
    rcases List.mem_map.mp hsave with ⟨i, _, rfl⟩
    exact Or.inr (List.mem_singleton.mp hm)
  · cases List.mem_singleton.mp he
    exact Or.inr (List.mem_singleton.mp hm)

theorem movedRun_apart (hl : HonestLoad shiftProbe wideLayout movedMetadata threeBlocks movedLoad
    movedCalls 0 stagedOnes after) : TellsApart shiftProbe (movedRun after) := by
  have hpaged : ∀ i < gptOssNumLayers, ∀ m, m = stagedOnes ∨ m = after → ∀ frames,
      pagedFrames shiftProbe m i (spansAt movedLoad i) = .ok frames →
        (∃ rows : MovedRows, frames.1 = flatFrame rows.byte) ∧
          ∃ rows : MovedRows, frames.2 = flatFrame rows.byte := by
    intro i hi m hm frames hframes
    cases (hl.frames hi m).symm.trans hframes
    rcases hm with rfl | rfl
    · exact ⟨⟨.before, moved_before hi .key⟩, .before, moved_before hi .value⟩
    · rcases hl.layer_match hi with ⟨hkey, hvalue⟩
      exact ⟨⟨.key, hkey.trans (moved_corrected hl hi)⟩, .value, hvalue.trans (moved_values hi)⟩
  have hsources : ∀ i < gptOssNumLayers, ∀ frames,
      sourceFrames shiftProbe stagedOnes 0 i (spansAt movedLoad i) = .ok frames →
        frames.correctedKey = flatFrame MovedRows.key.byte ∧
          frames.value = flatFrame MovedRows.value.byte := by
    intro i hi frames hframes
    cases (sourceFrames_of (hl.prepared hi) hl.legible).symm.trans hframes
    exact ⟨moved_corrected hl hi, moved_values hi⟩
  have hframed : ∀ x, Framed shiftProbe (movedRun after) x →
      ∃ rows : MovedRows, x = flatFrame rows.byte := by
    intro x hx
    cases hx with
    | pagedKey hplan he hm hi h =>
      rcases movedRun_scattered hplan with ⟨rfl, _, _⟩
      exact (hpaged _ hi _ (movedRun_memories he hm) _ h).1
    | pagedValue hplan he hm hi h =>
      rcases movedRun_scattered hplan with ⟨rfl, _, _⟩
      exact (hpaged _ hi _ (movedRun_memories he hm) _ h).2
    | correctedKey hplan hi h =>
      rcases movedRun_scattered hplan with ⟨rfl, rfl, rfl⟩
      exact ⟨.key, (hsources _ hi _ h).1⟩
    | sourceValue hplan hi h =>
      rcases movedRun_scattered hplan with ⟨rfl, rfl, rfl⟩
      exact ⟨.value, (hsources _ hi _ h).2⟩
  intro x hx y hy h
  rcases hframed x hx with ⟨rows, rfl⟩
  rcases hframed y hy with ⟨rows', rfl⟩
  rw [flatFrame_digest, flatFrame_digest] at h
  rw [rows.apart rows' h]

end

/-- The evidence of the run names the plan and speaks of its rows. -/
theorem moved_certified : ∃ receipts after e,
    scatterAll shiftProbe.tensors shiftProbe.correct movedCalls stagedOnes =
      (.ok receipts, after) ∧
    (TransferProbe.after shiftProbe (movedRun after)).file = .written e ∧
    Evidenced shiftProbe (movedRun after) e := by
  rcases moved_returns with ⟨receipts, after, hrun⟩
  rcases moved_captured with ⟨metadata, hmetadata⟩
  have hload := moved_honest hrun
  rcases hload.evidenced moved_source moved_digest movedPrompt_digest hmetadata (.refl _)
    (layerSaves_kept after) with ⟨e, he⟩
  have hfile : (TransferProbe.after shiftProbe (movedRun after)).file = .written e :=
    congrArg ProbeWorld.file he
  exact ⟨receipts, after, e, hrun, hfile,
    (evidence_certifies shiftProbe (movedRun after)).1 e hfile (movedRun_apart hload)⟩

end CacheBlend.ProbedLoads
