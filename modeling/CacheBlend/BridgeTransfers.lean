import CacheBlend.WorkerBridge

/-!
# Transfers over the bridge

The transfer runtime takes a plan through the stages of the bridge before and
after a forward pass. A stage that raises ends the attempt. No plan stays
retrieved or gathered when a transfer has ended, so that the next one is not
refused for a plan of an earlier one.
-/

set_option autoImplicit false

namespace CacheBlend.BridgeTransfers
open CacheBlend.PlannerModels CacheBlend.LmcacheTypes CacheBlend.TokenScatter
open CacheBlend.VllmAdapters CacheBlend.TransferRuntime CacheBlend.DataPlane
open CacheBlend.RequestLifecycle CacheBlend.WorkerBridge

/-! ## The runtime -/

inductive ForwardError where
  | transfer (code : TransferRuntimeErrorCode)
  | assertion
  deriving DecidableEq

/-- The outcome of a load attempt with the fields that its callers do not read. -/
structure LoadOutcome (sha256 : Bytes → Digest) extends PreForwardOutcome sha256 where
  externalSchedulerTokens : ℤ
  prefillTokensAvoided : ℤ
  positionCorrectionLatencySeconds : ℚ

section
variable {sha256 : Bytes → Digest} {δ : Type}

/-- `PreForwardOutcome.__post_init__`. -/
def LoadOutcome.checked (o : LoadOutcome sha256) :
    Except TransferRuntimeErrorCode (LoadOutcome sha256) :=
  if o.toPreForwardOutcome.Consistent ∧
      o.externalSchedulerTokens = fullRecomputeExternalTokens ∧ o.prefillTokensAvoided = 0 ∧
      0 ≤ o.positionCorrectionLatencySeconds then .ok o
  else .error .invalidOutcome

abbrev ForwardCall (sha256 : Bytes → Digest) (δ : Type) : Type :=
  Call (World δ) ForwardError (LoadOutcome sha256)

def withoutLoad (m : SchedulerTransferMetadata sha256) (state : TransferAttemptState)
    (failureCode : Option TransferFallbackCode) : ForwardCall sha256 δ :=
  Call.lift ((LoadOutcome.checked ⟨⟨m, state, failureCode, [],
    List.range m.verifiedCandidates.length, 0, m.promptTokenCount⟩,
    fullRecomputeExternalTokens, 0, 0⟩).mapError .transfer)

/-- A step of the load attempt: if it raises, the attempt falls back. -/
def orPrefill {α : Type} (m : SchedulerTransferMetadata sha256) (code : TransferFallbackCode)
    (step : BridgeCall δ α) (next : α → ForwardCall sha256 δ) : ForwardCall sha256 δ := fun w =>
  match step w with
  | (.ok a, w') => next a w'
  | (.error _, w') => withoutLoad m .fullPrefillFallback (some code) w'

/-- `_read_position_correction_latency`. -/
def readLatency (b : GptOssWorkerBridge) : ℚ := max b.positionCorrectionLatencySeconds 0

def withLoad (p : WorkerLoadPlan sha256) :
    Call (World δ) ForwardError (LoadOutcome sha256) := do
  let w ← Call.read
  Call.lift ((LoadOutcome.checked ⟨⟨p.metadata, .succeeded, none,
    List.range p.metadata.verifiedCandidates.length, [], p.expectedTokens,
    p.metadata.promptTokenCount⟩, fullRecomputeExternalTokens, 0,
    readLatency w.bridge⟩).mapError .transfer)

def loadStages (config : BridgeConfig) (env : LoadEnvironment δ) (id : ℕ)
    (p : WorkerLoadPlan sha256) : ForwardCall sha256 δ :=
  orPrefill p.metadata .loadPreflightFailed (do
    preflightRetrieve config env id p
    preflightScatterPlan config env id p) fun _ =>
  orPrefill p.metadata .retrieveFailed (retrieveVerified config env id p) fun receipt =>
  if receipt.retrievedTokens = p.expectedTokens ∧ receipt.retrievedChunks = p.expectedChunks then
    orPrefill p.metadata .scatterFailed (scatterRetrieved config env id p) fun _ => withLoad p
  else withoutLoad p.metadata .fullPrefillFallback (some .retrieveReceiptInvalid)

/-- `before_forward`. -/
def beforeForward (config : BridgeConfig) (layout : LayeredCacheLayout) (env : LoadEnvironment δ)
    (id : ℕ) (m : SchedulerTransferMetadata sha256) (adaptedBlocks : AdaptedKvCacheBlocks) :
    ForwardCall sha256 δ :=
  match buildLoadPlan layout m adaptedBlocks with
  | .error (.scatter .assertion) => Call.raise .assertion
  | .error _ => withoutLoad m .fullPrefillFallback (some .loadPlanRejected)
  | .ok p =>
    if m.transferEligible = false then withoutLoad m .notEligible none
    else loadStages config env id p

def step {α : Type} (c : BridgeCall δ α) : Call (World δ) Unit α :=
  Call.within (fun w => w) (fun _ w => w) (fun _ => ()) c

/-- The bridge as the storage and the data plane of `after_forward`. The
planner of the layout refuses a chunk by its checks only. -/
def storeWorld (config : BridgeConfig) (layout : LayeredCacheLayout) (env : StoreEnvironment)
    (id : ℕ) (m : SchedulerTransferMetadata sha256) (adaptedBlocks : AdaptedKvCacheBlocks) :
    StoreWorld sha256 (World δ) :=
  let gathers := ((gatherPlans layout m adaptedBlocks).toOption).getD []
  { gatherPlanned := (gatherPlans layout m adaptedBlocks).toOption.isSome
    preflight := fun p => step (do
      preflightGatherPlan config env id p gathers
      preflightStore config env id p)
    gather := fun p => step (gatherRecomputed config env id p gathers)
    store := fun p => step (storePrecomputed config env id p)
    publish := fun records => step (publishSidecarRecordsAtomically env sha256 records) }

def afterForward (config : BridgeConfig) (layout : LayeredCacheLayout) (env : StoreEnvironment)
    (id : ℕ) (m : SchedulerTransferMetadata sha256) (adaptedBlocks : AdaptedKvCacheBlocks) :
    Call (World δ) TransferRuntimeErrorCode PostForwardOutcome :=
  TransferRuntime.afterForward (storeWorld config layout env id m adaptedBlocks) m adaptedBlocks

/-- The world after a transfer, whether it returns or raises. -/
inductive Transfer (sha256 : Bytes → Digest) (δ : Type) where
  | before (env : LoadEnvironment δ) (id : ℕ) (m : SchedulerTransferMetadata sha256)
      (adaptedBlocks : AdaptedKvCacheBlocks)
  | after (env : StoreEnvironment) (id : ℕ) (m : SchedulerTransferMetadata sha256)
      (adaptedBlocks : AdaptedKvCacheBlocks)

def perform (config : BridgeConfig) (layout : LayeredCacheLayout) (w : World δ) :
    Transfer sha256 δ → World δ
  | .before env id m adaptedBlocks => (beforeForward config layout env id m adaptedBlocks w).2
  | .after env id m adaptedBlocks => (afterForward config layout env id m adaptedBlocks w).2

end

end CacheBlend.BridgeTransfers
