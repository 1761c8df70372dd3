import CacheBlend.BridgeStages
import CacheBlend.ScatterTiling

/-!
# How a transfer ends

A load attempt and a store attempt always return. The ways in which they end
are listed with what each has left of the world, whatever the collaborators
of the bridge answer and whatever they raise.
-/

set_option autoImplicit false

namespace CacheBlend.TransferEnds
open CacheBlend.PlannerModels CacheBlend.LmcacheTypes CacheBlend.TokenScatter
open CacheBlend.RequestLifecycle
open CacheBlend.VllmAdapters CacheBlend.DataPlane
open CacheBlend.TransferRuntime hiding beforeForward afterForward
open CacheBlend.WorkerBridge CacheBlend.BridgeTransfers CacheBlend.BridgeStages
open CacheBlend.ScatterTiling (refused_by_layout)
open CacheBlend.Call (Triple triple_bind triple_ite triple_of_state)

variable {sha256 : Bytes → Digest} {δ : Type}

/-! ## Outcomes -/

def nothing (m : SchedulerTransferMetadata sha256) (state : TransferAttemptState)
    (failureCode : Option TransferFallbackCode) : LoadOutcome sha256 :=
  ⟨⟨m, state, failureCode, [], List.range m.verifiedCandidates.length, 0, m.promptTokenCount⟩,
    fullRecomputeExternalTokens, 0, 0⟩

def everything (m : SchedulerTransferMetadata sha256) (tokens : ℕ) (latency : ℚ) :
    LoadOutcome sha256 :=
  ⟨⟨m, .succeeded, none, List.range m.verifiedCandidates.length, [], tokens,
    m.promptTokenCount⟩, fullRecomputeExternalTokens, 0, latency⟩

theorem consistent_of_nothing (m : SchedulerTransferMetadata sha256)
    {state : TransferAttemptState} {failureCode : Option TransferFallbackCode}
    (h : state = .notEligible ∧ m.transferEligible = false ∧ failureCode = none ∨
      state = .fullPrefillFallback ∧ failureCode ≠ none) :
    (nothing m state failureCode).toPreForwardOutcome.Consistent := by
  have hsorted : sortedBy id (List.range m.verifiedCandidates.length) =
      List.range m.verifiedCandidates.length :=
    sortedBy_eq_self id _ List.pairwise_le_range
  obtain ⟨rfl, he, rfl⟩ | ⟨rfl, hf⟩ := h
  · exact ⟨List.nodup_nil, List.nodup_range, fun i hi => absurd hi List.not_mem_nil, hsorted, rfl,
      rfl, rfl, rfl, he, rfl⟩
  · exact ⟨List.nodup_nil, List.nodup_range, fun i hi => absurd hi List.not_mem_nil, hsorted, rfl,
      rfl, rfl, rfl, hf⟩

theorem withoutLoad_returns (m : SchedulerTransferMetadata sha256)
    {state : TransferAttemptState} {failureCode : Option TransferFallbackCode}
    (h : state = .notEligible ∧ m.transferEligible = false ∧ failureCode = none ∨
      state = .fullPrefillFallback ∧ failureCode ≠ none) (w : World δ) :
    withoutLoad m state failureCode w = (.ok (nothing m state failureCode), w) := by
  have hc : LoadOutcome.checked (nothing m state failureCode) =
      .ok (nothing m state failureCode) :=
    if_pos ⟨consistent_of_nothing m h, rfl, rfl, le_refl _⟩
  show (Except.mapError _ (LoadOutcome.checked (nothing m state failureCode)), w) = _
  rw [hc]
  rfl

theorem filterMap_getElem {α : Type} (xs : List α) :
    (List.range xs.length).filterMap (xs[·]?) = xs := by
  induction xs with
  | nil => rfl
  | cons x xs ih =>
    have hs : (fun i : ℕ => (x::xs)[i]?) ∘ Nat.succ = fun i : ℕ => xs[i]? := by
      funext i
      exact List.getElem?_cons_succ
    rw [List.length_cons, List.range_succ_eq_map, List.filterMap_cons, List.filterMap_map, hs, ih]
    rfl

theorem buildLoadPlan_ok {layout : LayeredCacheLayout} {m : SchedulerTransferMetadata sha256}
    {adaptedBlocks : AdaptedKvCacheBlocks} {p : WorkerLoadPlan sha256}
    (h : buildLoadPlan layout m adaptedBlocks = .ok p) :
    p.metadata = m ∧ p.candidates.map CandidateScatterWork.verifiedCandidate =
      m.verifiedCandidates := by
  obtain ⟨_, _, h⟩ := (checked_ok_iff _ _ _).mp h
  obtain ⟨works, hw, h⟩ := (checked_ok_iff _ _ _).mp h
  cases h
  have hmaps : ∀ {entries : List (VerifiedLmcacheCandidate × ℕ)}
      {works : List CandidateScatterWork}, List.Forall₂ (fun entry work =>
        candidateWork layout adaptedBlocks entry.2 entry.1 = .ok work) entries works →
      works.map CandidateScatterWork.verifiedCandidate = entries.map Prod.fst := by
    intro entries works hf
    induction hf with
    | nil => rfl
    | cons hc _ ih =>
      obtain ⟨_, _, hc⟩ := (checked_ok_iff _ _ _).mp hc
      cases hc
      rw [List.map_cons, List.map_cons, ih]
  refine ⟨rfl, ?_⟩
  rw [hmaps ((mapM_returns_iff _ _ _).mp hw), List.zipIdx_map_fst]

theorem expectedTokens_eq {p : WorkerLoadPlan sha256} {m : SchedulerTransferMetadata sha256}
    (h : p.candidates.map CandidateScatterWork.verifiedCandidate = m.verifiedCandidates) :
    p.expectedTokens = candidateTokens m (List.range m.verifiedCandidates.length) := by
  unfold WorkerLoadPlan.expectedTokens candidateTokens
  rw [filterMap_getElem, ← h, List.map_map]
  rfl

theorem withLoad_returns {p : WorkerLoadPlan sha256}
    (he : p.metadata.transferEligible = true)
    (h : p.candidates.map CandidateScatterWork.verifiedCandidate =
      p.metadata.verifiedCandidates) (w : World δ) :
    withLoad p w = (.ok (everything p.metadata p.expectedTokens (readLatency w.bridge)), w) := by
  have hsorted : sortedBy id (List.range p.metadata.verifiedCandidates.length ++ []) =
      List.range p.metadata.verifiedCandidates.length := by
    rw [List.append_nil]
    exact sortedBy_eq_self id _ List.pairwise_le_range
  have hc : LoadOutcome.checked (everything p.metadata p.expectedTokens (readLatency w.bridge)) =
      .ok (everything p.metadata p.expectedTokens (readLatency w.bridge)) :=
    if_pos ⟨⟨List.nodup_range, List.nodup_nil, fun i _ => List.not_mem_nil, hsorted, rfl,
      he, rfl, rfl, rfl, expectedTokens_eq h⟩, rfl, rfl, le_max_right _ _⟩
  show (Except.mapError _ (LoadOutcome.checked
    (everything p.metadata p.expectedTokens (readLatency w.bridge))), w) = _
  rw [hc]
  rfl

theorem planTransfer_ranges {layout : LayeredCacheLayout} {adaptedBlocks : AdaptedKvCacheBlocks}
    {source target : TokenRange} {plan : TokenScatterPlan}
    (h : planTransfer layout adaptedBlocks source target = .ok plan) :
    plan.transfer.sourceRange = source ∧ plan.transfer.targetRange = target := by
  unfold planTransfer at h
  rcases (checked_ok_iff _ _ _).mp h with ⟨transfer, htransfer, h⟩
  rw [planned_transfer ((mapError_ok_iff _ _ _).mp h)]
  have hnew := (mapError_ok_iff _ _ _).mp htransfer
  unfold TokenTransfer.new at hnew
  split_ifs at hnew
  cases hnew
  exact ⟨rfl, rfl⟩

theorem planTransfer_refused {layout : LayeredCacheLayout} {adaptedBlocks : AdaptedKvCacheBlocks}
    {source target : TokenRange} {e : PlanError}
    (h : planTransfer layout adaptedBlocks source target = .error e) :
    ∃ code, e = .scatter (.layout code) := by
  obtain h | ⟨transfer, _, h⟩ := (checked_error_iff _ _ _).mp h
  · cases ht : TokenTransfer.new source target with
    | ok transfer =>
      rw [ht] at h
      cases h
    | error code =>
      rw [ht] at h
      cases h
      exact ⟨code, rfl⟩
  · cases hp : planTokenScatter layout adaptedBlocks.groupBlockTables transfer with
    | ok plan =>
      rw [hp] at h
      cases h
    | error e' =>
      rw [hp] at h
      cases h
      obtain ⟨code, rfl⟩ := refused_by_layout hp
      exact ⟨code, rfl⟩

theorem buildLoadPlan_refused {layout : LayeredCacheLayout}
    {m : SchedulerTransferMetadata sha256} {adaptedBlocks : AdaptedKvCacheBlocks}
    {e : PlanError} (h : buildLoadPlan layout m adaptedBlocks = .error e) :
    e ≠ .scatter .assertion := by
  rintro rfl
  obtain h | ⟨_, _, h⟩ := (checked_error_iff _ _ _).mp h
  · unfold require at h
    split_ifs at h
    cases h
  · obtain h | ⟨_, _, h⟩ := (checked_error_iff _ _ _).mp h
    · obtain ⟨_, _, _, _, _, h⟩ := (mapM_error_iff _ _ _).mp h
      obtain h | ⟨_, _, h⟩ := (checked_error_iff _ _ _).mp h
      · obtain ⟨code, h⟩ := planTransfer_refused h
        cases h
      · cases h
    · cases h

/-! ## Load attempts -/

section
variable {config : BridgeConfig} {env : LoadEnvironment δ} {id : ℕ} {p : WorkerLoadPlan sha256}

/-- The world after checks and dry runs of a load. -/
structure Checked (w₀ w : World δ) : Prop where
  memory : w.memory = w₀.memory
  published : w.published = w₀.published
  stores : storeMarkers w = storeMarkers w₀
  retrieved : w.bridge.retrievedPlan = w₀.bridge.retrievedPlan

def checkedWorld (id : ℕ) (w : World δ) : World δ :=
  w.withBridge { w.bridge with
    loadStoragePreflight := some id, loadDataPreflight := some id }

theorem loadPreflight_spec (w₀ : World δ) :
    Triple (fun w => w = w₀)
      (do
        preflightRetrieve config env id p
        preflightScatterPlan config env id p)
      (fun _ w => Ready w₀ ∧ w₀.bridge.retrievedPlan = none ∧ w = checkedWorld id w₀)
      (fun e w => Checked w₀ w ∧
        (OrderError e → ¬(Ready w₀ ∧ w₀.bridge.retrievedPlan = none))) := by
  apply triple_bind ((preflightRetrieve_spec config env id p w₀).mono (fun _ h => h)
    (fun _ _ h => h) _)
  · rintro _ w ⟨hready, hretrieved, rfl⟩
    apply ((preflightScatter_spec config env id p _).mono (fun _ h => h) _ _) _ rfl
    · rintro _ w ⟨_, rfl⟩
      exact ⟨hready, hretrieved, rfl⟩
    · rintro e w ⟨rfl, he⟩
      exact ⟨⟨rfl, rfl, rfl, rfl⟩, fun h => absurd rfl (he h)⟩
  · rintro e w (⟨hn, state, rfl⟩ | ⟨he, hretrieved, rfl⟩)
    · exact ⟨⟨rfl, rfl, rfl, rfl⟩, fun _ => hn⟩
    · exact ⟨⟨rfl, rfl, rfl, rfl⟩, fun h => absurd h he⟩

inductive LoadEnd (m : SchedulerTransferMetadata sha256) (w₀ : World δ) :
    LoadOutcome sha256 → World δ → Prop where
  | rejected : LoadEnd m w₀ (nothing m .fullPrefillFallback (some .loadPlanRejected)) w₀
  | notEligible : LoadEnd m w₀ (nothing m .notEligible none) w₀
  | unchecked {w : World δ} (h : Checked w₀ w) :
      LoadEnd m w₀ (nothing m .fullPrefillFallback (some .loadPreflightFailed)) w
  | unretrieved {w : World δ} (h : viewOf w = { viewOf w₀ with loads := .empty }) :
      LoadEnd m w₀ (nothing m .fullPrefillFallback (some .retrieveFailed)) w
  | unscattered {w : World δ} (h : Scattered { viewOf w₀ with loads := .empty } w) :
      LoadEnd m w₀ (nothing m .fullPrefillFallback (some .scatterFailed)) w
  | loaded {w : World δ} {tokens : ℕ} {latency : ℚ}
      (h : Scattered { viewOf w₀ with loads := .empty } w) :
      LoadEnd m w₀ (everything m tokens latency) w

theorem fallback_returns (m : SchedulerTransferMetadata sha256) (code : TransferFallbackCode)
    (w : World δ) : withoutLoad m .fullPrefillFallback (some code) w =
      (.ok (nothing m .fullPrefillFallback (some code)), w) :=
  withoutLoad_returns m (.inr ⟨rfl, by intro h; cases h⟩) w

theorem triple_orPrefill {α : Type} {m : SchedulerTransferMetadata sha256}
    {code : TransferFallbackCode} {step : BridgeCall δ α} {next : α → ForwardCall sha256 δ}
    {pre : World δ → Prop} {mid : α → World δ → Prop} {fail : BridgeError → World δ → Prop}
    {post : LoadOutcome sha256 → World δ → Prop} (hstep : Triple pre step mid fail)
    (hfail : ∀ e w, fail e w → post (nothing m .fullPrefillFallback (some code)) w)
    (hnext : ∀ a, Triple (mid a) (next a) post fun _ _ => False) :
    Triple pre (orPrefill m code step next) post fun _ _ => False := by
  intro w hw
  unfold orPrefill
  obtain ⟨a, w₁, ha, hm⟩ | ⟨e, w₁, he, hf⟩ := hstep.outcome hw
  · rw [ha]
    exact hnext a w₁ hm
  · rw [he]
    dsimp only
    rw [fallback_returns]
    constructor
    · intro o w' h
      cases h
      exact hfail e w₁ hf
    · intro e' w' h
      cases h

theorem returns_spec {ε α : Type} {w₀ : World δ} {c : Call (World δ) ε α} {a : α}
    {post : α → World δ → Prop} (hc : c w₀ = (.ok a, w₀)) (hp : post a w₀) :
    Triple (fun w => w = w₀) c post fun _ _ => False := by
  rintro w rfl
  rw [hc]
  constructor
  · intro b w' h
    cases h
    exact hp
  · intro e w' h
    cases h

theorem loadStages_spec (w₀ : World δ) (he : p.metadata.transferEligible = true)
    (h : p.candidates.map CandidateScatterWork.verifiedCandidate =
      p.metadata.verifiedCandidates) :
    Triple (fun w => w = w₀) (loadStages config env id p) (LoadEnd p.metadata w₀)
      fun _ _ => False := by
  apply triple_orPrefill (loadPreflight_spec w₀) fun e w hf => .unchecked hf.1
  rintro _ w ⟨_, hretrieved, rfl⟩
  apply (triple_orPrefill (retrieveVerified_spec config env id p (checkedWorld id w₀)) _ _) _ rfl
  · rintro e w (⟨_, hn⟩ | ⟨_, hv⟩)
    · exact absurd ⟨rfl, rfl⟩ hn
    · exact .unretrieved hv
  · intro receipt
    apply triple_ite
    · rintro _ w ⟨_, _, _, hr, hv⟩
      have hplan : w.bridge.retrievedPlan = some id :=
        congrArg (fun v : View δ => v.loads.retrieved) hv
      have hcleared : ({ viewOf w with
          loads := { loadMarkers w with retrieved := none } } : View δ) =
          { viewOf w₀ with loads := .empty } := by
        have hl : loadMarkers w = ⟨none, none, some id⟩ := congrArg View.loads hv
        rw [hv, hl]
        rfl
      apply (triple_orPrefill (scatterRetrieved_spec config env id p w) _ _) _ rfl
      · rintro e w' (⟨_, hn | ⟨hn, _⟩⟩ | ⟨_, hs⟩)
        · exact absurd hplan hn
        · exact absurd hr hn
        · rw [hcleared] at hs
          exact .unscattered hs
      · rintro _ w' ⟨_, hs⟩
        rw [hcleared] at hs
        rw [withLoad_returns he h]
        constructor
        · intro o w'' ho
          cases ho
          exact .loaded hs
        · intro e w'' he'
          cases he'
    · rintro hn w ⟨_, _, hc, _⟩
      exact absurd hc hn

theorem beforeForward_spec (config : BridgeConfig) (layout : LayeredCacheLayout)
    (env : LoadEnvironment δ) (id : ℕ) (m : SchedulerTransferMetadata sha256)
    (adaptedBlocks : AdaptedKvCacheBlocks) (w₀ : World δ) :
    Triple (fun w => w = w₀) (beforeForward config layout env id m adaptedBlocks)
      (LoadEnd m w₀) fun _ _ => False := by
  unfold beforeForward
  cases hp : buildLoadPlan layout m adaptedBlocks with
  | error e =>
    have hne := buildLoadPlan_refused hp
    have hfall := returns_spec (fallback_returns m .loadPlanRejected w₀) (LoadEnd.rejected (m := m))
    cases e with
    | transfer code => exact hfall
    | scatter e' =>
      cases e' with
      | layout code => exact hfall
      | assertion => exact absurd rfl hne
  | ok p =>
    obtain ⟨rfl, hverified⟩ := buildLoadPlan_ok hp
    apply triple_ite
    · intro he
      exact returns_spec (withoutLoad_returns _ (.inl ⟨rfl, he, rfl⟩) w₀) .notEligible
    · intro he
      exact loadStages_spec w₀ (Bool.eq_true_of_not_eq_false he) hverified

end

/-! ## Store attempts -/

section
variable {config : BridgeConfig} {env : StoreEnvironment} {id : ℕ} {p : WorkerStorePlan sha256}
  {gathers : List TokenScatterPlan}

def storedNothing (m : SchedulerTransferMetadata sha256) (state : TransferAttemptState)
    (failureCode : Option TransferFallbackCode) : PostForwardOutcome :=
  ⟨state, failureCode, if m.storeEligible = true then m.completeStoreTokenCount else 0, 0, 0, 0, 0⟩

theorem storeOutcome_returns (m : SchedulerTransferMetadata sha256)
    {state : TransferAttemptState} {failureCode : Option TransferFallbackCode}
    (h : state = .notEligible ∧ m.storeEligible = false ∧ failureCode = none ∨
      state = .fullPrefillFallback ∧ failureCode ≠ none) (w : World δ) :
    storeOutcome m state failureCode w = (.ok (storedNothing m state failureCode), w) := by
  have hc : PostForwardOutcome.checked m (storedNothing m state failureCode) =
      .ok (storedNothing m state failureCode) := by
    obtain ⟨rfl, he, rfl⟩ | ⟨rfl, hf⟩ := h
    · exact if_pos ⟨rfl, rfl, rfl, rfl, rfl, he, rfl⟩
    · exact if_pos ⟨rfl, rfl, rfl, rfl, rfl, hf⟩
  show (PostForwardOutcome.checked m (storedNothing m state failureCode), w) = _
  rw [hc]

theorem buildStorePlan_some {gatherPlanned : Bool} {m : SchedulerTransferMetadata sha256}
    {adaptedBlocks : AdaptedKvCacheBlocks}
    (h : buildStorePlan gatherPlanned m adaptedBlocks = some p) :
    p.metadata = m ∧ p.chunks =
      (List.range (m.promptTokenCount/lmcacheChunkSize)).map (chunkWork m.promptTokenIds) := by
  unfold buildStorePlan at h
  split_ifs at h
  cases h
  exact ⟨rfl, rfl⟩

def storedAll (m : SchedulerTransferMetadata sha256) (receipt : LmcacheStoreReceipt)
    (inserted : ℕ) : PostForwardOutcome :=
  ⟨.succeeded, none, m.completeStoreTokenCount, receipt.storedTokens, receipt.storedChunks,
    receipt.sidecarRecords.length, inserted⟩

theorem storedAll_checked {gatherPlanned : Bool} {m : SchedulerTransferMetadata sha256}
    {adaptedBlocks : AdaptedKvCacheBlocks} {receipt : LmcacheStoreReceipt} {inserted : ℕ}
    (h : buildStorePlan gatherPlanned m adaptedBlocks = some p) (he : m.storeEligible = true)
    (hv : ReceiptValid receipt p) (hi : inserted ≤ receipt.sidecarRecords.length) :
    PostForwardOutcome.checked m (storedAll m receipt inserted) =
      .ok (storedAll m receipt inserted) := by
  obtain ⟨_, hchunks⟩ := buildStorePlan_some h
  have hcount : p.chunks.length = m.promptTokenCount/lmcacheChunkSize := by
    rw [hchunks, List.length_map, List.length_range]
  obtain ⟨htokens, hstored, _, hrecords, _⟩ := hv
  have heligible : m.completeStoreTokenCount/lmcacheChunkSize = p.chunks.length := by
    rw [hcount]
    exact Nat.mul_div_cancel _ (by decide)
  have hexpected : p.expectedTokens = m.completeStoreTokenCount := by
    show p.chunks.length*lmcacheChunkSize = _
    rw [hcount]
    rfl
  apply if_pos
  refine ⟨(if_pos he).symm, he, rfl, htokens.trans hexpected, ?_, ?_, ?_⟩
  · exact hstored.trans heligible.symm
  · exact hrecords.trans heligible.symm
  · show inserted ≤ m.completeStoreTokenCount/lmcacheChunkSize
    rw [heligible]
    exact hi.trans_eq hrecords

/-- The world after checks and dry runs of a store. -/
structure StoreChecked (w₀ w : World δ) : Prop where
  memory : w.memory = w₀.memory
  published : w.published = w₀.published
  loads : loadMarkers w = loadMarkers w₀
  gathered : w.bridge.gatheredPlan = w₀.bridge.gatheredPlan

def storableWorld (id : ℕ) (w : World δ) : World δ :=
  w.withBridge { w.bridge with gatherPreflight := some id, storePreflight := some id }

theorem storePreflight_spec (w₀ : World δ) :
    Triple (fun w => w = w₀)
      (do
        preflightGatherPlan config env id p gathers
        preflightStore config env id p)
      (fun _ w => Ready w₀ ∧ w₀.bridge.gatheredPlan = none ∧ w = storableWorld id w₀)
      (fun e w => StoreChecked w₀ w ∧
        (OrderError e → ¬(Ready w₀ ∧ w₀.bridge.gatheredPlan = none))) := by
  apply triple_bind ((preflightGather_spec config env id p gathers w₀).mono (fun _ h => h)
    (fun _ _ h => h) _)
  · rintro _ w ⟨hready, hgathered, rfl⟩
    apply ((preflightStore_spec config env id p _).mono (fun _ h => h) _ _) _ rfl
    · rintro _ w ⟨_, rfl⟩
      exact ⟨hready, hgathered, rfl⟩
    · rintro e w ⟨⟨state, rfl⟩, he⟩
      exact ⟨⟨rfl, rfl, rfl, rfl⟩, fun h => absurd ⟨hready, rfl⟩ (he h)⟩
  · rintro e w (⟨hn, state, rfl⟩ | ⟨he, hgathered, rfl⟩)
    · exact ⟨⟨rfl, rfl, rfl, rfl⟩, fun _ => hn⟩
    · exact ⟨⟨rfl, rfl, rfl, rfl⟩, fun h => absurd h he⟩

/-- The plan was stored: the transport returned a receipt that matches it. -/
structure StoredPlan (p : WorkerStorePlan sha256) (env : StoreEnvironment) (id : ℕ)
    (w : World δ) (receipt : LmcacheStoreReceipt) : Prop where
  stored : env.stored = some receipt
  used : TransportUse.store id ∈ w.used
  valid : ReceiptValid receipt p

inductive StoreEnd (p : Option (WorkerStorePlan sha256)) (env : StoreEnvironment) (id : ℕ)
    (m : SchedulerTransferMetadata sha256) (w₀ : World δ) :
    PostForwardOutcome → World δ → Prop where
  | notEligible : StoreEnd p env id m w₀ (storedNothing m .notEligible none) w₀
  | rejected : StoreEnd p env id m w₀
      (storedNothing m .fullPrefillFallback (some .storePlanRejected)) w₀
  | unchecked {w : World δ} (h : StoreChecked w₀ w) : StoreEnd p env id m w₀
      (storedNothing m .fullPrefillFallback (some .storePreflightFailed)) w
  | ungathered {w : World δ}
      (h : viewOf w = { viewOf w₀ with stores := ⟨none, some id, none⟩ }) :
      StoreEnd p env id m w₀ (storedNothing m .fullPrefillFallback (some .gatherFailed)) w
  | unstored {w : World δ} (h : viewOf w = { viewOf w₀ with stores := .empty }) :
      StoreEnd p env id m w₀ (storedNothing m .fullPrefillFallback (some .storeFailed)) w
  | unpublished {w : World δ} (h : viewOf w = { viewOf w₀ with stores := .empty }) :
      StoreEnd p env id m w₀
        (storedNothing m .fullPrefillFallback (some .sidecarPublishFailed)) w
  | published {w : World δ} {plan : WorkerStorePlan sha256} {receipt : LmcacheStoreReceipt}
      {o : PostForwardOutcome} (hp : p = some plan) (hs : StoredPlan plan env id w receipt)
      (ho : o.failureCode = none ∨ o.failureCode = some .sidecarPublishFailed)
      (h : viewOf w = { viewOf w₀ with
        stores := .empty, published := w₀.published ++ [receipt.sidecarRecords] }) :
      StoreEnd p env id m w₀ o w

theorem triple_step {α : Type} {pre : World δ → Prop} {c : BridgeCall δ α}
    {post : α → World δ → Prop} {fail : BridgeError → World δ → Prop}
    (h : Triple pre c post fail) :
    Triple pre (step c) post fun _ w => ∃ e, fail e w := by
  intro w hw
  unfold step Call.within
  obtain ⟨a, w₁, ha, hp⟩ | ⟨e, w₁, he, hf⟩ := h.outcome hw
  · rw [ha]
    constructor
    · intro b w' hb
      cases hb
      exact hp
    · intro e' w' he'
      cases he'
  · rw [he]
    constructor
    · intro b w' hb
      cases hb
    · intro e' w' he'
      cases he'
      exact ⟨e, hf⟩

theorem storeFallback_returns (m : SchedulerTransferMetadata sha256) (code : TransferFallbackCode)
    (w : World δ) : storeOutcome m .fullPrefillFallback (some code) w =
      (.ok (storedNothing m .fullPrefillFallback (some code)), w) :=
  storeOutcome_returns m (.inr ⟨rfl, by intro h; cases h⟩) w

theorem triple_orFallback {α : Type} {m : SchedulerTransferMetadata sha256}
    {code : TransferFallbackCode} {c : BridgeCall δ α}
    {next : α → Call (World δ) TransferRuntimeErrorCode PostForwardOutcome}
    {pre : World δ → Prop} {mid : α → World δ → Prop} {fail : BridgeError → World δ → Prop}
    {post : PostForwardOutcome → World δ → Prop} (hc : Triple pre c mid fail)
    (hfail : ∀ e w, fail e w → post (storedNothing m .fullPrefillFallback (some code)) w)
    (hnext : ∀ a, Triple (mid a) (next a) post fun _ _ => False) :
    Triple pre (orFallback m code (step c) next) post fun _ _ => False := by
  intro w hw
  unfold orFallback
  obtain ⟨a, w₁, ha, hm⟩ | ⟨_, w₁, he, e, hf⟩ := (triple_step hc).outcome hw
  · rw [ha]
    exact hnext a w₁ hm
  · rw [he]
    dsimp only
    rw [storeFallback_returns]
    constructor
    · intro o w' h
      cases h
      exact hfail e w₁ hf
    · intro e' w' h
      cases h

theorem publish_end {m : SchedulerTransferMetadata sha256} {gatherPlanned : Bool}
    {adaptedBlocks : AdaptedKvCacheBlocks} {receipt : LmcacheStoreReceipt} (w₀ w₁ : World δ)
    (hp : buildStorePlan gatherPlanned m adaptedBlocks = some p) (he : m.storeEligible = true)
    (hs : StoredPlan p env id w₁ receipt)
    (hv : viewOf w₁ = { viewOf w₀ with stores := .empty }) :
    Triple (fun w => w = w₁)
      (orFallback m .sidecarPublishFailed
        (step (publishSidecarRecordsAtomically env sha256 receipt.sidecarRecords))
        fun inserted =>
          if inserted < 0 ∨ inserted > receipt.sidecarRecords.length then
            storeOutcome m .fullPrefillFallback (some .sidecarPublishFailed)
          else Call.lift (PostForwardOutcome.checked m (storedAll m receipt inserted.toNat)))
      (StoreEnd (some p) env id m w₀) fun _ _ => False := by
  have hpublished : w₁.published = w₀.published := congrArg View.published hv
  have hend : ∀ {w : World δ} {o : PostForwardOutcome},
      o.failureCode = none ∨ o.failureCode = some .sidecarPublishFailed →
      w = { w₁ with published := w₁.published ++ [receipt.sidecarRecords] } →
      StoreEnd (some p) env id m w₀ o w := by
    rintro w o ho rfl
    refine .published rfl ⟨hs.stored, hs.used, hs.valid⟩ ho ?_
    have hview : viewOf { w₁ with published := w₁.published ++ [receipt.sidecarRecords] } =
        { viewOf w₁ with published := w₁.published ++ [receipt.sidecarRecords] } := rfl
    rw [hview, hv, hpublished]
  apply triple_orFallback (publish_spec env w₁ receipt.sidecarRecords)
  · rintro e w (⟨state, rfl⟩ | hw)
    · exact .unpublished hv
    · exact hend (.inr rfl) hw
  · intro inserted
    apply triple_ite
    · intro _ w hw
      rw [storeFallback_returns]
      constructor
      · intro o w' h
        cases h
        exact hend (.inr rfl) hw
      · intro e w' h
        cases h
    · intro hn w hw
      have hle : inserted.toNat ≤ receipt.sidecarRecords.length := by omega
      rw [storedAll_checked hp he hs.valid hle]
      constructor
      · intro o w' h
        cases h
        exact hend (.inl rfl) hw
      · intro e w' h
        cases h

theorem afterForward_spec (config : BridgeConfig) (layout : LayeredCacheLayout)
    (env : StoreEnvironment) (id : ℕ) (m : SchedulerTransferMetadata sha256)
    (adaptedBlocks : AdaptedKvCacheBlocks) (w₀ : World δ) :
    Triple (fun w => w = w₀) (afterForward config layout env id m adaptedBlocks)
      (StoreEnd
        (buildStorePlan (gatherPlans layout m adaptedBlocks).toOption.isSome m adaptedBlocks)
        env id m w₀) fun _ _ => False := by
  apply triple_ite
  · intro he
    exact returns_spec (storeOutcome_returns m (.inl ⟨rfl, he, rfl⟩) w₀) .notEligible
  · intro he
    have heligible : m.storeEligible = true := Bool.eq_true_of_not_eq_false he
    rcases hp : buildStorePlan (storeWorld config layout env id m adaptedBlocks).gatherPlanned m
      adaptedBlocks with _ | p
    · exact returns_spec (storeFallback_returns m .storePlanRejected w₀) .rejected
    · rw [show buildStorePlan (gatherPlans layout m adaptedBlocks).toOption.isSome m adaptedBlocks =
        some p from hp]
      apply triple_orFallback (storePreflight_spec w₀) fun e w hf => .unchecked hf.1
      rintro _ w ⟨hready, _, rfl⟩
      apply (triple_orFallback (gatherRecomputed_spec config env id p _ (storableWorld id w₀))
        _ _) _ rfl
      · rintro e w (⟨_, hn | ⟨hn, _⟩⟩ | ⟨_, hv⟩)
        · exact absurd ⟨rfl, rfl⟩ hn
        · exact absurd hready.2 hn
        · exact .ungathered hv
      · rintro _ w ⟨_, _, hr, hv⟩
        have hstore : w.bridge.storePreflight = some id :=
          congrArg (fun v : View δ => v.stores.store) hv
        have hplan : w.bridge.gatheredPlan = some id :=
          congrArg (fun v : View δ => v.stores.gathered) hv
        have hcleared : ({ viewOf w with
            stores := ⟨w.bridge.gatherPreflight, none, none⟩ } : View δ) =
            { viewOf w₀ with stores := .empty } := by
          have hg : w.bridge.gatherPreflight = none :=
            congrArg (fun v : View δ => v.stores.gather) hv
          rw [hv, hg]
          rfl
        apply (triple_orFallback (storePrecomputed_spec config env id p w) _ _) _ rfl
        · rintro e w' (⟨_, hn⟩ | ⟨_, hs⟩)
          · exact absurd ⟨hstore, hplan⟩ hn
          · exact .unstored (hs.2.trans hcleared)
        · intro receipt
          apply triple_ite
          · rintro _ w' ⟨_, _, hvalid, hstored, hused, hs⟩
            apply publish_end w₀ w' hp heligible ⟨hstored, _, hvalid⟩ (hs.2.trans hcleared) _ rfl
            rw [hused]
            exact List.mem_append_right _ (List.mem_singleton.mpr rfl)
          · rintro hn w' ⟨_, _, hvalid, _⟩
            exact absurd hvalid hn

end

/-! ## Transfers fail closed -/

/-- The receipt has the tokens, positions and number of the complete chunks of the prompt. -/
structure ReceiptExact (m : SchedulerTransferMetadata sha256) (receipt : LmcacheStoreReceipt) :
    Prop where
  tokens : receipt.storedTokens = m.completeStoreTokenCount
  chunks : receipt.storedChunks = m.promptTokenCount/lmcacheChunkSize
  count : receipt.sidecarRecords.length = m.promptTokenCount/lmcacheChunkSize
  records : ∀ i r, receipt.sidecarRecords[i]? = some r →
    r.tokenIds = (chunkWork m.promptTokenIds i).tokenIds ∧
    r.sourceRange.start = i*lmcacheChunkSize ∧
    r.sourceRange.stop = i*lmcacheChunkSize+lmcacheChunkSize ∧
    r.cacheNamespace = m.cacheNamespace

theorem exact_of_valid {gatherPlanned : Bool} {m : SchedulerTransferMetadata sha256}
    {adaptedBlocks : AdaptedKvCacheBlocks} {p : WorkerStorePlan sha256}
    {receipt : LmcacheStoreReceipt} (h : buildStorePlan gatherPlanned m adaptedBlocks = some p)
    (hv : ReceiptValid receipt p) : ReceiptExact m receipt := by
  obtain ⟨hmetadata, hchunks⟩ := buildStorePlan_some h
  obtain ⟨htokens, hstored, _, hcount, hrecords⟩ := hv
  have hlength : p.chunks.length = m.promptTokenCount/lmcacheChunkSize := by
    rw [hchunks, List.length_map, List.length_range]
  constructor
  · rw [htokens]
    show p.chunks.length*lmcacheChunkSize = _
    rw [hlength]
    rfl
  · exact hstored.trans hlength
  · exact hcount.trans hlength
  · intro i r hr
    have hi : i < m.promptTokenCount/lmcacheChunkSize := by
      rw [← hlength]
      exact (List.getElem?_eq_some_iff.mp hr).1.trans_eq hcount
    have hc : p.chunks[i]? = some (chunkWork m.promptTokenIds i) := by
      rw [hchunks, List.getElem?_map, List.getElem?_range hi]
      rfl
    have hmem : (chunkWork m.promptTokenIds i, r) ∈ p.chunks.zip receipt.sidecarRecords := by
      apply List.mem_of_getElem? (i := i)
      rw [List.getElem?_zip_eq_some]
      exact ⟨hc, hr⟩
    obtain ⟨hn, ht, hs, _⟩ := hrecords _ hmem
    rw [hs]
    exact ⟨ht, rfl, rfl, hn.trans (congrArg (fun m' : SchedulerTransferMetadata sha256 =>
      m'.cacheNamespace) hmetadata)⟩

theorem LoadEnd.accounts {m : SchedulerTransferMetadata sha256} {w₀ w : World δ}
    {o : LoadOutcome sha256} (h : LoadEnd m w₀ o w) :
    o.metadata = m ∧
    (o.loadedCandidateIndexes ++ o.rejectedCandidateIndexes).Perm
      (List.range m.verifiedCandidates.length) ∧
    o.tokensToRecompute = m.promptTokenCount ∧ o.prefillTokensAvoided = 0 := by
  cases h with
  | loaded => exact ⟨rfl, List.Perm.of_eq (List.append_nil _), rfl, rfl⟩
  | _ => exact ⟨rfl, List.Perm.refl _, rfl, rfl⟩

theorem LoadEnd.rejected_keeps {m : SchedulerTransferMetadata sha256} {w₀ w : World δ}
    {o : LoadOutcome sha256} (h : LoadEnd m w₀ o w)
    (ho : o.failureCode = some .loadPlanRejected ∨ o.failureCode = some .loadPreflightFailed) :
    w.memory = w₀.memory := by
  cases h with
  | rejected => rfl
  | unchecked h => exact h.memory
  | _ => rcases ho with h | h <;> cases h

theorem LoadEnd.unretrieved_keeps {m : SchedulerTransferMetadata sha256} {w₀ w : World δ}
    {o : LoadOutcome sha256} (h : LoadEnd m w₀ o w)
    (ho : o.failureCode = some .retrieveFailed ∨ o.failureCode = some .retrieveReceiptInvalid) :
    w.memory.paged = w₀.memory.paged := by
  cases h with
  | unretrieved h => exact congrArg View.paged h
  | _ => rcases ho with h | h <;> cases h

section
variable {p : Option (WorkerStorePlan sha256)} {env : StoreEnvironment} {id : ℕ}
  {m : SchedulerTransferMetadata sha256} {w₀ w : World δ} {o : PostForwardOutcome}

theorem StoreEnd.keeps_paged (h : StoreEnd p env id m w₀ o w) :
    w.memory.paged = w₀.memory.paged := by
  cases h with
  | notEligible => rfl
  | rejected => rfl
  | unchecked h => exact congrArg DataPlaneMemory.paged h.memory
  | ungathered h => exact congrArg View.paged h
  | unstored h => exact congrArg View.paged h
  | unpublished h => exact congrArg View.paged h
  | published _ _ _ h => exact congrArg View.paged h

theorem StoreEnd.rejected_keeps (h : StoreEnd p env id m w₀ o w)
    (ho : o.failureCode = some .storePlanRejected ∨
      o.failureCode = some .storePreflightFailed) : w.memory = w₀.memory := by
  cases h with
  | rejected => rfl
  | unchecked h => exact h.memory
  | published _ _ hn _ => rcases ho with h | h <;> rcases hn with hn | hn <;> cases h.symm.trans hn
  | _ => rcases ho with h | h <;> cases h

theorem StoreEnd.publishes (h : StoreEnd p env id m w₀ o w) :
    w.published = w₀.published ∨ ∃ plan receipt, p = some plan ∧
      StoredPlan plan env id w receipt ∧
      w.published = w₀.published ++ [receipt.sidecarRecords] := by
  cases h with
  | notEligible => exact .inl rfl
  | rejected => exact .inl rfl
  | unchecked h => exact .inl h.published
  | ungathered h => exact .inl (congrArg View.published h)
  | unstored h => exact .inl (congrArg View.published h)
  | unpublished h => exact .inl (congrArg View.published h)
  | published hp hs _ h => exact .inr ⟨_, _, hp, hs, congrArg View.published h⟩

end

/-- Whatever fails at whichever stage, both attempts return: the load attempt
with an outcome that accounts for every candidate and avoids no prefill, the
store attempt with nothing published but the records of an exact receipt. -/
theorem transfer_fails_closed (config : BridgeConfig) (layout : LayeredCacheLayout)
    (loads : LoadEnvironment δ) (stores : StoreEnvironment) (id id' : ℕ)
    (m : SchedulerTransferMetadata sha256) (adaptedBlocks : AdaptedKvCacheBlocks)
    (w : World δ) :
    (∃ o w', beforeForward config layout loads id m adaptedBlocks w = (.ok o, w') ∧
      o.metadata = m ∧
      (o.loadedCandidateIndexes ++ o.rejectedCandidateIndexes).Perm
        (List.range m.verifiedCandidates.length) ∧
      o.tokensToRecompute = m.promptTokenCount ∧ o.prefillTokensAvoided = 0 ∧
      (o.failureCode = some .loadPlanRejected ∨ o.failureCode = some .loadPreflightFailed →
        w'.memory = w.memory) ∧
      (o.failureCode = some .retrieveFailed ∨ o.failureCode = some .retrieveReceiptInvalid →
        w'.memory.paged = w.memory.paged)) ∧
    ∃ o w', afterForward config layout stores id' m adaptedBlocks w = (.ok o, w') ∧
      w'.memory.paged = w.memory.paged ∧
      (o.failureCode = some .storePlanRejected ∨ o.failureCode = some .storePreflightFailed →
        w'.memory = w.memory) ∧
      (w'.published = w.published ∨ ∃ receipt, stores.stored = some receipt ∧
        TransportUse.store id' ∈ w'.used ∧ ReceiptExact m receipt ∧
        w'.published = w.published ++ [receipt.sidecarRecords]) := by
  constructor
  · obtain ⟨o, w', ho, hend⟩ | ⟨_, _, _, h⟩ :=
      (beforeForward_spec config layout loads id m adaptedBlocks w).outcome rfl
    · obtain ⟨hm, hpartition, hrecompute, havoided⟩ := hend.accounts
      exact ⟨o, w', ho, hm, hpartition, hrecompute, havoided, hend.rejected_keeps,
        hend.unretrieved_keeps⟩
    · exact h.elim
  · obtain ⟨o, w', ho, hend⟩ | ⟨_, _, _, h⟩ :=
      (afterForward_spec config layout stores id' m adaptedBlocks w).outcome rfl
    · refine ⟨o, w', ho, hend.keeps_paged, hend.rejected_keeps, ?_⟩
      obtain hkept | ⟨plan, receipt, hp, hs, hpublished⟩ := hend.publishes
      · exact .inl hkept
      · exact .inr ⟨receipt, hs.stored, hs.used, exact_of_valid hp hs.valid, hpublished⟩
    · exact h.elim

end CacheBlend.TransferEnds
