import CacheBlend.TransferEnds

/-!
# Stores that pass

The gathers of a chunk look at the tensors and their views and never at the
rows, so what passes over one memory passes over every other. A store attempt
whose plan, chunks, range and receipt pass succeeds, whatever the memory holds.
-/

set_option autoImplicit false

namespace CacheBlend.PassingStores
open CacheBlend.PlannerModels CacheBlend.LmcacheTypes CacheBlend.ScatterSpans
open CacheBlend.TokenScatter
open CacheBlend.DataPlane CacheBlend.VllmAdapters CacheBlend.TransferRuntime
open CacheBlend.WorkerBridge CacheBlend.BridgeStages CacheBlend.TransferEnds
open CacheBlend.BridgeTransfers (storeWorld)
open CacheBlend.Call

/-! ## Gathers -/

section
variable {δ : Type} {tensors : Tensors} {runtime : TensorRuntime}

theorem applyFrom_passes {κ ν : Type} [DecidableEq κ] (hc : ∀ i, runtime.copyRaises i = false)
    (hs : runtime.synchronizeRaises = false) (prepared : List (PreparedCopy κ ν)) (index : ℕ)
    (m : κ → ν) : ∃ m', applyFrom runtime index prepared m = (.ok ⟨⟩, m') := by
  induction prepared generalizing index m with
  | nil => exact ⟨m, by rw [applyFrom, Call.lift_run, require_of _ hs]⟩
  | cons operation rest ih =>
    rcases ih (index+1) (KeyedMemory.writeAll m operation.writes) with ⟨m', hm⟩
    refine ⟨m', ?_⟩
    unfold applyFrom
    refine (Call.lift_bind_iff _ _ _ _ _).mpr ⟨⟨⟩, require_of _ (hc index), ?_⟩
    exact (Call.bind_ok_iff _ _ _ _ _).mpr ⟨⟨⟩, _, rfl, hm⟩

theorem prepareGather_memory {range : TokenRange} {offset : ℤ} {span : LayerTokenScatterSpan}
    {m m' : DataPlaneMemory δ} {prepared : List (PreparedCopy StagingCell (FlatRow δ))}
    (h : prepareGather tensors runtime m range offset span = .ok prepared) :
    ∃ prepared', prepareGather tensors runtime m' range offset span = .ok prepared' := by
  unfold prepareGather prepareGatherSpan at h ⊢
  simp only [checked_ok_iff] at h ⊢
  rcases h with ⟨cache, hcache, u, hraises, key, hkey, value, hvalue, stagingKey, hstagingKey,
    stagingValue, hstagingValue, flatKey, hflatKey, flatValue, hflatValue, u₁, h₁, u₂, h₂, u₃, h₃,
    u₄, h₄, u₅, h₅, u₆, h₆, _⟩
  exact ⟨_, cache, hcache, u, hraises, key, hkey, value, hvalue, stagingKey, hstagingKey,
    stagingValue, hstagingValue, flatKey, hflatKey, flatValue, hflatValue, u₁, h₁, u₂, h₂, u₃, h₃,
    u₄, h₄, u₅, h₅, u₆, h₆, rfl⟩

/-- The views of a gather pass, over whatever memory. -/
def ViewsPass (tensors : Tensors) (runtime : TensorRuntime) (range : TokenRange) (offset : ℤ)
    (m : DataPlaneMemory δ) (validated : ValidatedSpans) : Prop :=
  ∀ span ∈ validated.spans,
    (prepareGather tensors runtime m range offset span).toOption.isSome = true

theorem gather_passes {spans : List LayerTokenScatterSpan} {range : TokenRange} {offset : ℤ}
    {validated : ValidatedSpans} {m₀ : DataPlaneMemory δ}
    (hv : preflightGather tensors spans range offset = .ok validated)
    (hviews : ViewsPass tensors runtime range offset m₀ validated)
    (hc : ∀ i, runtime.copyRaises i = false) (hs : runtime.synchronizeRaises = false)
    (m : DataPlaneMemory δ) : ∃ m', gatherPrecomputedKv tensors runtime spans range offset m =
      (.ok (gatherReceipt validated), m') := by
  have hprepared : ∃ prepared,
      validated.spans.mapM (prepareGather tensors runtime m range offset) = .ok prepared := by
    have heach : ∀ span ∈ validated.spans, ∃ copies,
        prepareGather tensors runtime m range offset span = .ok copies := by
      intro span hspan
      rcases Option.isSome_iff_exists.mp (hviews span hspan) with ⟨copies, hcopies⟩
      exact prepareGather_memory (toOption_some hcopies)
    generalize validated.spans = listed at heach
    induction listed with
    | nil => exact ⟨[], rfl⟩
    | cons span rest ih =>
      rcases heach span List.mem_cons_self with ⟨copies, hcopies⟩
      rcases ih fun s h => heach s (List.mem_cons_of_mem _ h) with ⟨prepared, hrest⟩
      refine ⟨copies::prepared, ?_⟩
      rw [List.mapM_cons, hcopies]
      exact (checked_ok_iff _ _ _).mpr ⟨_, rfl, (checked_ok_iff _ _ _).mpr ⟨_, hrest, rfl⟩⟩
  rcases hprepared with ⟨prepared, hprepared⟩
  rcases applyFrom_passes hc hs prepared.flatten 0 m.staging with ⟨staging, hcopied⟩
  have happlied : applyStaging runtime prepared.flatten m =
      (.ok ⟨⟩, { m with staging := staging }) := by
    unfold applyStaging Call.within
    rw [hcopied]
  refine ⟨{ m with staging := staging }, ?_⟩
  unfold gatherPrecomputedKv
  refine (Call.lift_bind_iff _ _ _ _ _).mpr ⟨validated, hv, ?_⟩
  rw [Call.read_bind]
  refine (Call.lift_bind_iff _ _ _ _ _).mpr ⟨prepared, hprepared, ?_⟩
  exact (Call.bind_ok_iff _ _ _ _ _).mpr ⟨⟨⟩, _, happlied, rfl⟩

end

section
variable {sha256 : Bytes → Digest} {δ : Type}

/-! ## Chunks -/

/-- The tensor operations of a dry run: a copy does nothing and never raises. -/
def dry (runtime : TensorRuntime) : TensorRuntime :=
  { runtime with copyRaises := fun _ => false }

/-- A chunk whose spans, views and counts pass, in a dry run and with its copies. -/
structure ChunkPasses (config : BridgeConfig) (env : StoreEnvironment) (m : DataPlaneMemory δ)
    (work : StoreChunkWork × TokenScatterPlan) (validated : ValidatedSpans) : Prop where
  spans : preflightGather env.tensors work.2.layerSpans work.1.tokenRange
    (config.storeBufferOffset+work.1.chunkIndex*lmcacheChunkSize : ℕ) = .ok validated
  dryViews : ViewsPass env.tensors (dry (env.preflight work.1.chunkIndex)) work.1.tokenRange
    (config.storeBufferOffset+work.1.chunkIndex*lmcacheChunkSize : ℕ) m validated
  views : ViewsPass env.tensors (env.gather work.1.chunkIndex) work.1.tokenRange
    (config.storeBufferOffset+work.1.chunkIndex*lmcacheChunkSize : ℕ) m validated
  drySynchronized : (env.preflight work.1.chunkIndex).synchronizeRaises = false
  copied : ∀ i, (env.gather work.1.chunkIndex).copyRaises i = false
  synchronized : (env.gather work.1.chunkIndex).synchronizeRaises = false
  tokens : validated.logicalTokens = lmcacheChunkSize
  rows : validated.layerTokenRows = lmcacheChunkSize*gptOssNumLayers
  count : validated.spans.length = work.2.layerSpans.length

/-! ## Plans -/

section
variable {layout : LayeredCacheLayout} {metadata : SchedulerTransferMetadata sha256}
  {adaptedBlocks : AdaptedKvCacheBlocks} {p : WorkerStorePlan sha256}
  {gathers : List TokenScatterPlan}

theorem gathered_at (hg : gatherPlans layout metadata adaptedBlocks = .ok gathers) {i : ℕ}
    {plan : TokenScatterPlan} (hi : gathers[i]? = some plan) :
    i < metadata.promptTokenCount/lmcacheChunkSize ∧
      planTransfer layout adaptedBlocks (chunkWork metadata.promptTokenIds i).tokenRange
        (chunkWork metadata.promptTokenIds i).tokenRange = .ok plan := by
  have hplans := List.forall₂_iff_get.mp ((mapM_returns_iff _ _ _).mp hg)
  rcases List.getElem?_eq_some_iff.mp hi with ⟨hlt, rfl⟩
  have hcount := hplans.1
  rw [List.length_range] at hcount
  refine ⟨hcount ▸ hlt, ?_⟩
  have hplan := hplans.2 i (by rw [List.length_range, hcount]; exact hlt) hlt
  simpa using hplan

theorem gathers_length (hg : gatherPlans layout metadata adaptedBlocks = .ok gathers)
    {gatherPlanned : Bool} (hp : buildStorePlan gatherPlanned metadata adaptedBlocks = some p) :
    gathers.length = p.chunks.length := by
  have hcount := ((mapM_returns_iff _ _ _).mp hg).length_eq
  rw [(buildStorePlan_some hp).2, List.length_map]
  exact hcount.symm

theorem chunk_at {gatherPlanned : Bool}
    (hp : buildStorePlan gatherPlanned metadata adaptedBlocks = some p) {i : ℕ}
    {chunk : StoreChunkWork} (hi : p.chunks[i]? = some chunk) :
    chunk = chunkWork metadata.promptTokenIds i := by
  rw [(buildStorePlan_some hp).2, List.getElem?_map] at hi
  rcases Option.map_eq_some_iff.mp hi with ⟨j, hj, rfl⟩
  rcases List.getElem?_eq_some_iff.mp hj with ⟨_, hj⟩
  rw [List.getElem_range] at hj
  rw [hj]

/-- The plans of a store are those that its bridge checks. -/
theorem store_planned (hg : gatherPlans layout metadata adaptedBlocks = .ok gathers)
    {gatherPlanned : Bool} (hp : buildStorePlan gatherPlanned metadata adaptedBlocks = some p) :
    ∀ entry ∈ p.chunks.zipIdx.zip gathers,
      entry.1.1 = chunkWork p.metadata.promptTokenIds entry.1.2 ∧
      entry.2.transfer.sourceRange = entry.1.1.tokenRange ∧
      entry.2.transfer.targetRange = entry.1.1.tokenRange := by
  intro entry hentry
  rcases List.mem_iff_getElem?.mp hentry with ⟨i, hi⟩
  rcases List.getElem?_zip_eq_some.mp hi with ⟨hchunk, hplan⟩
  rw [List.getElem?_zipIdx] at hchunk
  rcases Option.map_eq_some_iff.mp hchunk with ⟨chunk, hchunk, hpair⟩
  rw [← hpair, Nat.zero_add, chunk_at hp hchunk, (buildStorePlan_some hp).1]
  exact ⟨rfl, planTransfer_ranges (gathered_at hg hplan).2⟩

theorem store_works (hg : gatherPlans layout metadata adaptedBlocks = .ok gathers)
    {gatherPlanned : Bool} (hp : buildStorePlan gatherPlanned metadata adaptedBlocks = some p)
    {work : StoreChunkWork × TokenScatterPlan} (hwork : work ∈ p.chunks.zip gathers) :
    ∃ i < metadata.promptTokenCount/lmcacheChunkSize,
      work.1 = chunkWork metadata.promptTokenIds i ∧
      planTransfer layout adaptedBlocks work.1.tokenRange work.1.tokenRange = .ok work.2 := by
  rcases List.mem_iff_getElem?.mp hwork with ⟨i, hi⟩
  rcases List.getElem?_zip_eq_some.mp hi with ⟨hchunk, hplan⟩
  rcases gathered_at hg hplan with ⟨hlt, hplanned⟩
  have hwork := chunk_at hp hchunk
  exact ⟨i, hlt, hwork, hwork ▸ hplanned⟩

theorem store_eligible {gatherPlanned : Bool}
    (hp : buildStorePlan gatherPlanned metadata adaptedBlocks = some p) :
    p.chunks ≠ [] ∧ p.expectedTokens = p.metadata.completeStoreTokenCount := by
  rcases buildStorePlan_some hp with ⟨rfl, hchunks⟩
  have hcount : p.expectedTokens = p.metadata.completeStoreTokenCount := by
    rw [WorkerStorePlan.expectedTokens, hchunks, List.length_map, List.length_range]
    rfl
  refine ⟨fun hnone => ?_, hcount⟩
  have hzero : p.metadata.completeStoreTokenCount = 0 := by
    rw [← hcount, WorkerStorePlan.expectedTokens, hnone]
    rfl
  unfold buildStorePlan at hp
  rw [if_pos (.inr (.inr hzero))] at hp
  cases hp

end

/-! ## Stages -/

/-- A store that every check of its stages passes. -/
structure StorePasses (config : BridgeConfig) (env : StoreEnvironment)
    (p : WorkerStorePlan sha256) (gathers : List TokenScatterPlan) (m : DataPlaneMemory δ)
    (receipt : LmcacheStoreReceipt) (inserted : ℕ) : Prop where
  eligible : p.metadata.storeEligible = true
  tokens : p.tokenIds ≠ [] ∧ ∀ t ∈ p.tokenIds, t.val ≤ TransportRequests.maxLmcacheBlake3TokenId
  request : TransportRequests.validateRequestId p.metadata.requestId = .ok (⟨⟩ : PUnit.{1})
  transport : ∃ c, env.config = some c ∧ c.cacheNamespace = p.metadata.cacheNamespace
  range : config.storeBufferOffset+p.expectedTokens ≤ config.tokenCapacity
  lease : env.lease = ⟨true, true⟩
  chunks : ∀ work ∈ p.chunks.zip gathers, ∃ validated, ChunkPasses config env m work validated
  stored : env.stored = some receipt
  valid : ReceiptValid receipt p
  batch : ValidRecordBatch sha256 receipt.sidecarRecords
  answered : env.inserted = some (inserted : ℤ)
  counted : inserted ≤ receipt.sidecarRecords.length

variable {config : BridgeConfig} {env : StoreEnvironment} {id : ℕ} {p : WorkerStorePlan sha256}
  {gathers : List TokenScatterPlan} {m : DataPlaneMemory δ} {receipt : LmcacheStoreReceipt}
  {inserted : ℕ} {inv : World δ → Prop}

theorem requireReady_passes (h : ∀ w, inv w → Ready w) :
    Triple inv requireReady (fun _ => inv) fun _ _ => False := by
  apply triple_of_state
  intro w hw
  apply (requireReady_spec w).mono (fun _ h => h)
  · rintro _ _ ⟨rfl, _⟩
    exact hw
  · exact fun _ _ hn => hn.1 (h w hw)

theorem stagingTensor_passes (h : ∀ w, inv w → w.bridge.staging = .registered) :
    Triple inv stagingTensor (fun _ => inv) fun _ _ => False := by
  apply triple_of_state
  intro w hw
  apply (stagingTensor_spec w).mono (fun _ h => h)
  · rintro _ _ ⟨rfl, _⟩
    exact hw
  · exact fun _ _ hn => hn.2.1 (h w hw)

theorem requirePlan_passes {pending : GptOssWorkerBridge → Option ℕ}
    (h : ∀ w, inv w → pending w.bridge = some id) :
    Triple inv (requirePlan pending id) (fun _ => inv) fun _ _ => False := by
  apply triple_of_state
  intro w hw
  apply (requirePlan_spec pending id w).mono (fun _ h => h)
  · rintro _ _ ⟨rfl, _⟩
    exact hw
  · exact fun _ _ hn => hn.2 (h w hw)

theorem receipt_passes {work : StoreChunkWork × TokenScatterPlan} {validated : ValidatedSpans}
    (h : ChunkPasses config env m work validated) :
    Triple inv (validateDataReceipt (gatherReceipt validated) .storeToStaging
      work.2.layerSpans.length) (fun _ => inv) fun _ _ => False :=
  check_admitted ⟨rfl, h.tokens, h.rows, h.count, h.rows, h.rows, rfl, fun h => (nomatch h),
    fun _ => rfl⟩

/-- A chunk passes when its gather returns a receipt and keeps what is needed of the world. -/
theorem gathered_passes {work : StoreChunkWork × TokenScatterPlan} {validated : ValidatedSpans}
    (h : ChunkPasses config env m work validated)
    {c : Call (DataPlaneMemory δ) DataPlaneError DataPlaneReceipt}
    (hc : ∀ m', (c m').1 = .ok (gatherReceipt validated))
    (hinv : ∀ w, inv w → inv { w with memory := (c w.memory).2 }) :
    Triple inv (do
      let receipt ← onMemory c
      validateDataReceipt receipt .storeToStaging work.2.layerSpans.length)
      (fun _ => inv) fun _ _ => False := by
  apply triple_bind (m := fun receipt w => receipt = gatherReceipt validated ∧ inv w)
  · intro w hw
    have hreturned : onMemory c w =
        (.ok (gatherReceipt validated), { w with memory := (c w.memory).2 }) := by
      have hm : c w.memory = (.ok (gatherReceipt validated), (c w.memory).2) :=
        Prod.ext (hc w.memory) rfl
      unfold onMemory Call.within
      rw [hm]
    rw [hreturned]
    constructor
    · intro r w' hr
      cases hr
      exact ⟨rfl, hinv w hw⟩
    · intro e w' he
      cases he
  · intro r
    apply triple_of_state
    rintro w ⟨rfl, hw⟩
    apply (receipt_passes h).mono (fun _ h => h) _ fun _ _ h => h
    rintro _ _ rfl
    exact hw

theorem preflightChunk_passes {work : StoreChunkWork × TokenScatterPlan}
    {validated : ValidatedSpans} (h : ChunkPasses config env m work validated) :
    Triple inv (preflightChunk config env work) (fun _ => inv) fun _ _ => False := by
  apply gathered_passes h
  · intro m'
    rcases gather_passes h.spans h.dryViews (fun _ => rfl) h.drySynchronized m' with ⟨m'', hm⟩
    exact congrArg Prod.fst hm
  · exact fun _ hw => hw

theorem storeChunk_passes {work : StoreChunkWork × TokenScatterPlan} {validated : ValidatedSpans}
    (h : ChunkPasses config env m work validated)
    (hinv : ∀ w memory, inv w → inv { w with memory := memory }) :
    Triple inv (storeChunk config env work) (fun _ => inv) fun _ _ => False := by
  apply gathered_passes h
  · intro m'
    rcases gather_passes h.spans h.views h.copied h.synchronized m' with ⟨m'', hm⟩
    exact congrArg Prod.fst hm
  · exact fun w hw => hinv w _ hw

section
variable {layout : LayeredCacheLayout} {metadata : SchedulerTransferMetadata sha256}
  {adaptedBlocks : AdaptedKvCacheBlocks} {gatherPlanned : Bool}
  (hg : gatherPlans layout metadata adaptedBlocks = .ok gathers)
  (hp : buildStorePlan gatherPlanned metadata adaptedBlocks = some p)
  (h : StorePasses config env p gathers m receipt inserted)
include h

section
include hg hp

theorem validateStorePlan_passes :
    Triple inv (validateStorePlan p gathers) (fun _ => inv) fun _ _ => False := by
  apply triple_bind (check_admitted ⟨h.eligible, store_eligible hp⟩)
  intro _
  apply triple_bind (check_admitted ⟨gathers_length hg hp, store_planned hg hp⟩)
  intro _
  apply triple_bind (check_admitted h.tokens)
  intro _
  unfold validateRequest
  rw [h.request]
  exact triple_pure fun _ hw => hw

theorem preflightGather_passes :
    Triple (fun w : World δ => Ready w ∧ w.bridge.gatheredPlan = none)
      (preflightGatherPlan config env id p gathers)
      (fun _ w => Ready w ∧ w.bridge.gatherPreflight = some id) fun _ _ => False := by
  apply triple_bind (requireReady_passes fun _ hw => hw.1)
  intro _
  apply triple_read_bind
  intro w hw
  apply triple_bind (check_admitted hw.2)
  intro _
  apply triple_bind (m := fun _ => Ready)
  · apply triple_modify
    rintro _ rfl
    exact hw.1
  · intro _
    apply triple_bind (validateStorePlan_passes hg hp h)
    intro _
    apply triple_bind (stagingTensor_passes fun _ hw => hw.2)
    intro _
    apply triple_bind
    · apply triple_forM
      intro work hwork
      rcases h.chunks work hwork with ⟨validated, hchunk⟩
      exact preflightChunk_passes hchunk
    · intro _
      apply triple_modify
      exact fun _ hw => ⟨hw, rfl⟩

end

theorem preflightStore_passes :
    Triple (fun w : World δ => Ready w ∧ w.bridge.gatherPreflight = some id)
      (preflightStore config env id p)
      (fun _ w => Ready w ∧ w.bridge.gatherPreflight = some id ∧
        w.bridge.storePreflight = some id) fun _ _ => False := by
  rcases h.transport with ⟨c, hc, hn⟩
  apply triple_bind (requirePlan_passes fun _ hw => hw.2)
  intro _
  apply triple_bind (m := fun _ w => Ready w ∧ w.bridge.gatherPreflight = some id)
  · unfold validateTransport
    rw [hc]
    exact check_admitted ⟨hn, fun _ h => (nomatch h)⟩
  · intro _
    apply triple_bind (m := fun _ w => Ready w ∧ w.bridge.gatherPreflight = some id)
    · apply triple_bind (requireReady_passes fun _ hw => hw.1)
      intro _
      apply triple_bind (check_admitted h.range)
      intro _
      exact stagingTensor_passes fun _ hw => hw.1.2
    · intro _
      apply triple_modify
      exact fun _ hw => ⟨hw.1, hw.2, rfl⟩

theorem gatherRecomputed_passes :
    Triple (fun w : World δ => Ready w ∧ w.bridge.gatherPreflight = some id ∧
        w.bridge.storePreflight = some id) (gatherRecomputed config env id p gathers)
      (fun _ w => Ready w ∧ w.bridge.storePreflight = some id ∧
        w.bridge.gatheredPlan = some id) fun _ _ => False := by
  apply triple_bind (requirePlan_passes fun _ hw => hw.2.1)
  intro _
  apply triple_bind (requirePlan_passes fun _ hw => hw.2.2)
  intro _
  apply triple_bind (stagingTensor_passes fun _ hw => hw.1.2)
  intro _
  apply triple_bind (m := fun _ w => Ready w ∧ w.bridge.storePreflight = some id)
  · have hchunks : Triple (fun w : World δ => Ready w ∧ w.bridge.storePreflight = some id)
        ((p.chunks.zip gathers).forM (storeChunk config env))
        (fun _ w => Ready w ∧ w.bridge.storePreflight = some id) fun _ _ => False := by
      apply triple_forM
      intro work hwork
      rcases h.chunks work hwork with ⟨validated, hchunk⟩
      exact storeChunk_passes hchunk fun _ _ hw => hw
    apply triple_attempt
    exact hchunks.mono (fun _ hw => ⟨hw.1, hw.2.2⟩) (fun _ _ hw => hw) fun _ _ hw => hw
  · intro _
    apply triple_modify
    exact fun _ hw => ⟨hw.1, hw.2, rfl⟩

theorem storeBody_passes :
    Triple (fun w : World δ => w.bridge.state = .ready) (storeBody env id)
      (fun r w => r = receipt ∧ w.bridge.state = .ready) fun _ _ => False := by
  intro w hw
  unfold storeBody
  rw [h.stored]
  constructor
  · intro r w' hr
    cases hr
    exact ⟨rfl, hw⟩
  · intro e w' he
    cases he

theorem leased_passes :
    Triple (fun w : World δ => w.bridge.state = .ready) (leased env.lease (storeBody env id))
      (fun r w => r = receipt ∧ Ready w) fun _ _ => False := by
  rw [h.lease]
  intro w hw
  unfold leased
  rw [if_neg (by decide)]
  have hready : (w.withStaging .transferActive).bridge.state = .ready := hw
  have hbody : Triple _ (storeBody env id) _ _ := storeBody_passes h
  rcases hbody.outcome hready with ⟨a, w₁, ha, rfl, hstate⟩ | ⟨_, _, _, hf⟩
  · rw [ha]
    dsimp only
    rw [if_neg (by decide)]
    constructor
    · intro r w' hr
      cases hr
      exact ⟨rfl, hstate, rfl⟩
    · intro e w' he
      cases he
  · exact hf.elim

include hp in
theorem storeCall_passes :
    Triple (Ready : World δ → Prop)
      (do
        let receipt ← synchronousTransfer config true config.storeBufferOffset p.expectedTokens
          env.lease (storeBody env id)
        check (ReceiptValid receipt p) (.bridge .receiptMismatch)
        pure receipt)
      (fun r w => r = receipt ∧ Ready w) fun _ _ => False := by
  have hextent : p.expectedTokens%lmcacheChunkSize = 0 := Nat.mul_mod_left _ _
  have hpositive : 1 ≤ p.expectedTokens :=
    Nat.mul_pos (List.length_pos_of_ne_nil (store_eligible hp).1) (by decide)
  apply triple_bind (m := fun r w => r = receipt ∧ Ready w)
  · apply triple_bind (stagingTensor_passes fun _ hw => hw.2)
    intro _
    apply triple_bind (check_admitted hpositive)
    intro _
    apply triple_bind (check_admitted h.range)
    intro _
    apply triple_bind (check_admitted fun _ => hextent)
    intro _
    exact (leased_passes h).mono (fun _ hw => hw.1) (fun _ _ hw => hw) fun _ _ hw => hw
  · intro r
    apply triple_of_state
    rintro w ⟨rfl, hw⟩
    apply triple_bind (check_admitted h.valid)
    intro _
    apply triple_pure
    rintro _ rfl
    exact ⟨rfl, hw⟩

include hp in
theorem storePrecomputed_passes :
    Triple (fun w : World δ => Ready w ∧ w.bridge.storePreflight = some id ∧
        w.bridge.gatheredPlan = some id) (storePrecomputed config env id p)
      (fun r w => r = receipt ∧ Ready w) fun _ _ => False := by
  apply triple_bind (requirePlan_passes fun _ hw => hw.2.1)
  intro _
  apply triple_bind (requirePlan_passes fun _ hw => hw.2.2)
  intro _
  apply triple_attempt
  exact (storeCall_passes hp h).mono (fun _ hw => hw.1) (fun _ _ hw => hw) fun _ _ hw => hw

theorem publish_passes :
    Triple (Ready : World δ → Prop)
      (publishSidecarRecordsAtomically env sha256 receipt.sidecarRecords)
      (fun answer _ => answer = inserted) fun _ _ => False := by
  apply triple_bind (requireReady_passes fun _ hw => hw)
  intro _
  apply triple_bind (check_admitted h.batch)
  intro _
  apply triple_bind (m := fun _ _ => True)
  · apply triple_modify
    exact fun _ _ => trivial
  · intro _
    rw [h.answered]
    exact triple_pure fun _ _ => rfl

include hp in
theorem publication_succeeds :
    Triple (Ready : World δ → Prop)
      (orFallback metadata .sidecarPublishFailed
        (BridgeTransfers.step (publishSidecarRecordsAtomically env sha256 receipt.sidecarRecords))
        fun answer =>
          if answer < 0 ∨ answer > receipt.sidecarRecords.length then
            storeOutcome metadata .fullPrefillFallback (some .sidecarPublishFailed)
          else Call.lift (PostForwardOutcome.checked metadata
            (storedAll metadata receipt answer.toNat)))
      (fun o _ => o.state = .succeeded) fun _ _ => False := by
  apply triple_orFallback (publish_passes h) (fun _ _ hf => hf.elim)
  intro answer
  apply triple_of_state
  rintro w rfl
  have hcounted := h.counted
  have he : metadata.storeEligible = true := (buildStorePlan_some hp).1 ▸ h.eligible
  rw [if_neg (by omega), Int.toNat_natCast, storedAll_checked hp he h.valid hcounted]
  exact triple_pure fun _ _ => rfl

end

/-- A store that every check passes succeeds in every ready world that holds no gathered plan,
whatever its memory holds. -/
theorem passing_succeeds (id : ℕ) {layout : LayeredCacheLayout}
    {metadata : SchedulerTransferMetadata sha256} {adaptedBlocks : AdaptedKvCacheBlocks}
    (hg : gatherPlans layout metadata adaptedBlocks = .ok gathers)
    (hp : buildStorePlan true metadata adaptedBlocks = some p)
    (h : StorePasses config env p gathers m receipt inserted) :
    Triple (fun w : World δ => Ready w ∧ w.bridge.gatheredPlan = none)
      (BridgeTransfers.afterForward config layout env id metadata adaptedBlocks)
      (fun o _ => o.state = .succeeded) fun _ _ => False := by
  rcases buildStorePlan_some hp with ⟨hmetadata, _⟩
  have he : metadata.storeEligible = true := hmetadata ▸ h.eligible
  unfold BridgeTransfers.afterForward TransferRuntime.afterForward
  rw [if_neg (by rw [he]; decide)]
  have hplanned : (storeWorld (δ := δ) config layout env id metadata adaptedBlocks).gatherPlanned =
      true := by
    show (gatherPlans layout metadata adaptedBlocks).toOption.isSome = true
    rw [hg]
    rfl
  have hgathers : gathers = ((gatherPlans layout metadata adaptedBlocks).toOption).getD [] := by
    rw [hg]
    rfl
  subst hgathers
  rw [hplanned, hp]
  apply triple_orFallback (triple_bind (preflightGather_passes hg hp h) fun _ =>
    preflightStore_passes h) fun _ _ hf => hf.elim
  intro _
  apply triple_orFallback (gatherRecomputed_passes h) fun _ _ hf => hf.elim
  intro _
  apply triple_orFallback (storePrecomputed_passes hp h) fun _ _ hf => hf.elim
  intro r
  apply triple_of_state
  rintro w ⟨rfl, hw⟩
  rw [if_pos h.valid]
  apply (publication_succeeds hp h).mono _ (fun _ _ h => h) fun _ _ h => h
  rintro _ rfl
  exact hw

end

end CacheBlend.PassingStores
