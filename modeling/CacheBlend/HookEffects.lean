import CacheBlend.SchedulerHooks

/-!
# What the scheduler hooks do

Every hook returns exactly under the conditions its checks state, and the
state it leaves is given field by field. Later proofs use these descriptions
and never unfold a hook.
-/

set_option autoImplicit false

namespace CacheBlend.HookEffects
open CacheBlend.PlannerModels CacheBlend.RequestLifecycle CacheBlend.ControlPlane
open CacheBlend.VllmAdapters CacheBlend.SchedulerRuntime CacheBlend.TransferRuntime
open CacheBlend.SchedulerHooks
open CacheBlend.Call (lift_ok_iff pure_ok_iff lift_bind_iff read_bind modify_bind)

theorem check_bind_iff {β : Type} (p : Prop) [Decidable p] (text : String)
    (f : PUnit → HookCall β) (s s' : SchedulerConnector) (b : β) :
    (check p text >>= f) s = (.ok b, s') ↔ p ∧ f ⟨⟩ s = (.ok b, s') :=
  check_then_iff p _ f s s' b

theorem onPlane_bind_iff {α β : Type} (c : PlaneCall α) (f : α → HookCall β)
    (s s' : SchedulerConnector) (b : β) :
    (onPlane c >>= f) s = (.ok b, s') ↔ ∃ a p, c s.controlPlane = (.ok a, p) ∧
      f a { s with controlPlane := p } = (.ok b, s') :=
  Call.within_bind_iff _ _ _ c f s s' b

/-- What reporting a preemption count does to the control plane: nothing at
the first lookup or when the count stands still, one preemption when it rose. -/
def Noted (requestId : String) (preemptions : ℕ) (p p' : RequestControlPlane) :
    Option ℕ → Prop
  | none => p' = p
  | some previous => previous ≤ preemptions ∧
    if preemptions > previous then
      ∃ st, RequestControlPlane.preempt requestId p = (.ok st, p')
    else p' = p

theorem notePreemptions_ok_iff (requestId : String) (preemptions : ℕ)
    (s s' : SchedulerConnector) :
    notePreemptions requestId preemptions s = (.ok (), s') ↔
      ∃ p, Noted requestId preemptions s.controlPlane p
        (s.requestPreemptions.get? requestId) ∧ s' = { s with controlPlane := p } := by
  unfold notePreemptions
  rw [read_bind]
  cases s.requestPreemptions.get? requestId with
  | none =>
    dsimp only [Noted]
    rw [pure_ok_iff]
    constructor
    · rintro ⟨_, rfl⟩
      exact ⟨_, rfl, rfl⟩
    · rintro ⟨p, rfl, rfl⟩
      exact ⟨rfl, rfl⟩
  | some previous =>
    dsimp only [Noted]
    rw [check_bind_iff, not_lt]
    by_cases hp : preemptions > previous
    · rw [if_pos hp, onPlane_bind_iff]
      simp only [if_pos hp, pure_ok_iff, true_and]
      constructor
      · rintro ⟨hle, st, p, hc, rfl⟩
        exact ⟨p, ⟨hle, st, hc⟩, rfl⟩
      · rintro ⟨p, ⟨hle, st, hc⟩, rfl⟩
        exact ⟨hle, st, p, hc, rfl⟩
    · rw [if_neg hp]
      simp only [if_neg hp, pure_ok_iff, true_and]
      constructor
      · rintro ⟨hle, rfl⟩
        exact ⟨_, ⟨hle, rfl⟩, rfl⟩
      · rintro ⟨p, ⟨hle, rfl⟩, rfl⟩
        exact ⟨hle, rfl⟩

section
variable (sha256 : Bytes → Digest)

structure Answered (config : RuntimeConfig) (env : Environment) (request : VllmRequest)
    (prompt : List TokenId) (numComputedTokens : ℕ) (rt rt' : SchedulerLookupRuntime)
    (lookup : SchedulerLookupMetadata) : Prop where
  external : 0 ≤ request.numExternalComputedTokens
  answered : ∃ r, SchedulerLookupRequest.new request.requestId prompt 1 0 numComputedTokens
      request.numExternalComputedTokens.toNat request.numPreemptions.toNat = .ok r ∧
    SchedulerLookupRuntime.lookup sha256 config env r rt = (.ok lookup, rt')
  nonfatal : lookup.status.isFatal = false
  observed : (observationOf prompt.length lookup).Valid

theorem runtimeLookup_bind_iff {β : Type} (config : RuntimeConfig) (env : Environment)
    (request : SchedulerLookupRequest) (f : SchedulerLookupMetadata → HookCall β)
    (s s' : SchedulerConnector) (b : β) :
    (runtimeLookup sha256 config env request >>= f) s = (.ok b, s') ↔
      ∃ rt rt' lookup, s.runtime = some rt ∧
        SchedulerLookupRuntime.lookup sha256 config env request rt = (.ok lookup, rt') ∧
        lookup.status.isFatal = false ∧ f lookup { s with runtime := some rt' } = (.ok b, s') := by
  rw [Call.bind_run]
  unfold runtimeLookup
  cases hr : s.runtime with
  | none => simp
  | some rt =>
    dsimp only
    rcases hl : SchedulerLookupRuntime.lookup sha256 config env request rt with ⟨e | lookup, rt'⟩
    · dsimp only
      constructor
      · intro h
        cases h
      · rintro ⟨_, _, _, h, hl', _⟩
        cases h
        rw [hl] at hl'
        cases hl'
    · dsimp only
      by_cases hf : lookup.status.isFatal = true
      · rw [if_pos hf]
        constructor
        · intro h
          cases h
        · rintro ⟨_, _, _, h, hl', hn, _⟩
          cases h
          rw [hl] at hl'
          cases hl'
          rw [hf] at hn
          cases hn
      · rw [if_neg hf]
        constructor
        · intro h
          exact ⟨rt, rt', lookup, rfl, hl, Bool.eq_false_iff.mpr hf, h⟩
        · rintro ⟨_, _, _, h, hl', _, hfin⟩
          cases h
          rw [hl] at hl'
          cases hl'
          exact hfin

theorem transferLookup_ok_iff (config : RuntimeConfig) (env : Environment)
    (request : VllmRequest) (prompt : List TokenId) (numComputedTokens : ℕ)
    (s s' : SchedulerConnector) :
    transferLookup sha256 config env request prompt request.numPreemptions.toNat
        numComputedTokens s = (.ok (), s') ↔
      ∃ rt rt' lookup st p, s.runtime = some rt ∧
        Answered sha256 config env request prompt numComputedTokens rt rt' lookup ∧
        RequestControlPlane.lookup lookup.requestPlan.requestId lookup.requestPlan.promptTokens
          lookup.requestPlan.querySegments lookup.requestPlan.matchPlan s.controlPlane =
            (.ok st, p) ∧
        s' = { s with
          controlPlane := p
          runtime := some rt'
          schedulerLookupMetadata := s.schedulerLookupMetadata.set request.requestId lookup
          schedulerLookupObservations := s.schedulerLookupObservations.set request.requestId
            (observationOf prompt.length lookup) } := by
  unfold transferLookup requestExternalTokens
  rw [read_bind, check_bind_iff, lift_bind_iff]
  simp only [lift_bind_iff, mapError_ok_iff, runtimeLookup_bind_iff, onPlane_bind_iff,
    modify_bind]
  unfold recordObservation
  simp only [lift_bind_iff, require_ok_iff, modify_bind, pure_ok_iff, true_and]
  constructor
  · rintro ⟨_, external, hx, r, hr, rt, rt', lookup, hrt, hl, hf, st, p, hp, _, ho, rfl⟩
    split_ifs at hx with hneg
    cases hx
    exact ⟨rt, rt', lookup, st, p, hrt, ⟨not_lt.mp hneg, ⟨r, hr, hl⟩, hf, ho⟩, hp, rfl⟩
  · rintro ⟨rt, rt', lookup, st, p, hrt, ⟨hx, ⟨r, hr, hl⟩, hf, ho⟩, hp, rfl⟩
    refine ⟨?_, _, if_neg (not_lt.mpr hx), r, hr, rt, rt', lookup, hrt, hl, hf, st, p, hp,
      ⟨⟩, ho, rfl⟩
    rw [hrt]
    exact Option.some_ne_none rt

theorem lookupRequest_controlFlow (config : ConnectorConfig) (env : Environment)
    (request : VllmRequest) (prompt : List TokenId) (preemptions numComputedTokens : ℕ)
    (s s' : SchedulerConnector) (ht : config.transfer = none) :
    lookupRequest sha256 config env request prompt preemptions numComputedTokens s =
        (.ok (), s') ↔
      ∃ st p, RequestControlPlane.lookup request.requestId prompt.length [] ⟨[], [], 0⟩
        s.controlPlane = (.ok st, p) ∧ s' = { s with controlPlane := p } := by
  unfold lookupRequest
  rw [ht]
  dsimp only [controlFlowLookup]
  rw [onPlane_bind_iff]
  simp only [pure_ok_iff, true_and]

theorem lookupRequest_transfer (config : ConnectorConfig) (env : Environment)
    (request : VllmRequest) (prompt : List TokenId) (numComputedTokens : ℕ)
    (s s' : SchedulerConnector) (transfer : RuntimeConfig)
    (ht : config.transfer = some transfer) :
    lookupRequest sha256 config env request prompt request.numPreemptions.toNat
        numComputedTokens s = (.ok (), s') ↔
      ∃ rt rt' lookup st p, s.runtime = some rt ∧
        Answered sha256 transfer env request prompt numComputedTokens rt rt' lookup ∧
        RequestControlPlane.lookup lookup.requestPlan.requestId lookup.requestPlan.promptTokens
          lookup.requestPlan.querySegments lookup.requestPlan.matchPlan s.controlPlane =
            (.ok st, p) ∧
        s' = { s with
          controlPlane := p
          runtime := some rt'
          schedulerLookupMetadata := s.schedulerLookupMetadata.set request.requestId lookup
          schedulerLookupObservations := s.schedulerLookupObservations.set request.requestId
            (observationOf prompt.length lookup) } := by
  unfold lookupRequest
  rw [ht]
  exact transferLookup_ok_iff sha256 transfer env request prompt numComputedTokens s s'

/-- What a returned lookup did. In control-flow mode the plan has no segment,
in transfer mode it is the plan of the runtime's answer. -/
inductive Looked (config : ConnectorConfig) (env : Environment) (request : VllmRequest)
    (prompt : List TokenId) (numComputedTokens : ℕ) (s s' : SchedulerConnector) : Prop
  | controlFlow {p p' : RequestControlPlane} {st : RequestLifecycleState} :
      config.transfer = none →
      Noted request.requestId request.numPreemptions.toNat s.controlPlane p
        (s.requestPreemptions.get? request.requestId) →
      RequestControlPlane.lookup request.requestId prompt.length [] ⟨[], [], 0⟩ p =
        (.ok st, p') →
      s' = { s with
        controlPlane := p'
        requestPreemptions :=
          s.requestPreemptions.set request.requestId request.numPreemptions.toNat
        knownRequestIds := insert request.requestId s.knownRequestIds } →
      Looked config env request prompt numComputedTokens s s'
  | transfer {p p' : RequestControlPlane} {st : RequestLifecycleState}
      {transfer : RuntimeConfig} {rt rt' : SchedulerLookupRuntime}
      {lookup : SchedulerLookupMetadata} :
      config.transfer = some transfer →
      Noted request.requestId request.numPreemptions.toNat s.controlPlane p
        (s.requestPreemptions.get? request.requestId) →
      s.runtime = some rt →
      Answered sha256 transfer env request prompt numComputedTokens rt rt' lookup →
      RequestControlPlane.lookup lookup.requestPlan.requestId lookup.requestPlan.promptTokens
        lookup.requestPlan.querySegments lookup.requestPlan.matchPlan p = (.ok st, p') →
      s' = { s with
        controlPlane := p'
        runtime := some rt'
        requestPreemptions :=
          s.requestPreemptions.set request.requestId request.numPreemptions.toNat
        knownRequestIds := insert request.requestId s.knownRequestIds
        schedulerLookupMetadata := s.schedulerLookupMetadata.set request.requestId lookup
        schedulerLookupObservations := s.schedulerLookupObservations.set request.requestId
          (observationOf prompt.length lookup) } →
      Looked config env request prompt numComputedTokens s s'

theorem getNumNewMatchedTokens_ok_iff (config : ConnectorConfig) (env : Environment)
    (request : VllmRequest) (numComputedTokens : ℕ) (s s' : SchedulerConnector)
    (r : ℤ × Bool) :
    getNumNewMatchedTokens sha256 config env request numComputedTokens s = (.ok r, s') ↔
      r = (0, false) ∧ 0 ≤ request.numPreemptions ∧ ∃ prompt,
        copyRequestPromptTokenIds request = .ok prompt ∧
        Looked sha256 config env request prompt numComputedTokens s s' := by
  unfold getNumNewMatchedTokens
  rw [lift_bind_iff]
  simp only [mapError_ok_iff, check_bind_iff]
  constructor
  · rintro ⟨prompt, hprompt, hpre, h⟩
    obtain ⟨_, t, hn, h⟩ := (Call.bind_ok_iff _ _ _ _ _).mp h
    obtain ⟨p, hp, rfl⟩ := (notePreemptions_ok_iff _ _ _ _).mp hn
    rw [modify_bind] at h
    obtain ⟨_, t, hl, h⟩ := (Call.bind_ok_iff _ _ _ _ _).mp h
    rw [modify_bind, pure_ok_iff] at h
    obtain ⟨rfl, rfl⟩ := h
    refine ⟨rfl, hpre, prompt, hprompt, ?_⟩
    cases ht : config.transfer with
    | none =>
      obtain ⟨st, p', hlookup, rfl⟩ :=
        (lookupRequest_controlFlow sha256 _ env _ _ _ _ _ _ ht).mp hl
      exact .controlFlow ht hp hlookup rfl
    | some transfer =>
      obtain ⟨rt, rt', lookup, st, p', hrt, ha, hlookup, rfl⟩ :=
        (lookupRequest_transfer sha256 _ env _ _ _ _ _ _ ht).mp hl
      exact .transfer ht hp hrt ha hlookup rfl
  · rintro ⟨rfl, hpre, prompt, hprompt, hl⟩
    refine ⟨prompt, hprompt, hpre, ?_⟩
    cases hl with
    | controlFlow ht hp hlookup hs =>
      have hnote := (notePreemptions_ok_iff _ _ _ _).mpr ⟨_, hp, rfl⟩
      rw [Call.bind_run_ok _ hnote, modify_bind]
      refine (Call.bind_ok_iff _ _ _ _ _).mpr ⟨(), _,
        (lookupRequest_controlFlow sha256 _ env _ _ _ _ _ _ ht).mpr ⟨_, _, hlookup, rfl⟩, ?_⟩
      rw [modify_bind, pure_ok_iff]
      exact ⟨rfl, hs⟩
    | transfer ht hp hrt ha hlookup hs =>
      have hnote := (notePreemptions_ok_iff _ _ _ _).mpr ⟨_, hp, rfl⟩
      rw [Call.bind_run_ok _ hnote, modify_bind]
      refine (Call.bind_ok_iff _ _ _ _ _).mpr ⟨(), _,
        (lookupRequest_transfer sha256 _ env _ _ _ _ _ _ ht).mpr
          ⟨_, _, _, _, _, hrt, ha, hlookup, rfl⟩, ?_⟩
      rw [modify_bind, pure_ok_iff]
      exact ⟨rfl, hs⟩

end

theorem updateStateAfterAlloc_ok_iff (config : ConnectorConfig) (requestId : String)
    (blocks : KVCacheBlocks) (external : ℤ) (s s' : SchedulerConnector) :
    updateStateAfterAlloc config requestId blocks external s = (.ok (), s') ↔
      external = 0 ∧ requestId ∈ s.knownRequestIds ∧ ∃ a st p,
        adaptKvCacheBlocks blocks config.adapted = .ok a ∧
        RequestControlPlane.allocate requestId (integers a.blockIdsByGroup) 0 s.controlPlane =
          (.ok st, p) ∧
        s' = { s with
          controlPlane := p
          pendingHandoffIds := if requestId ∈ s.pendingHandoffIds then s.pendingHandoffIds
            else s.pendingHandoffIds ++ [requestId] } := by
  unfold updateStateAfterAlloc
  rw [check_bind_iff]
  simp only [lift_bind_iff, mapError_ok_iff, read_bind, check_bind_iff, onPlane_bind_iff,
    modify_bind, pure_ok_iff, true_and]
  constructor
  · rintro ⟨hx, a, ha, hk, st, p, hp, rfl⟩
    exact ⟨hx, hk, a, st, p, ha, hp, rfl⟩
  · rintro ⟨hx, hk, a, st, p, ha, hp, rfl⟩
    exact ⟨hx, a, ha, hk, st, p, hp, rfl⟩

/-- The handoffs of a list of requests, on the control plane alone. -/
def planeHandoffs : List String → PlaneCall (List RequestHandoffMetadata)
  | [] => pure []
  | requestId::rest => do
    let handoff ← RequestControlPlane.handoff requestId
    let handoffs ← planeHandoffs rest
    pure (handoff::handoffs)

theorem handoffAll_ok_iff (ids : List String) (s s' : SchedulerConnector)
    (handoffs : List RequestHandoffMetadata) :
    handoffAll ids s = (.ok handoffs, s') ↔ ∃ p,
      planeHandoffs ids s.controlPlane = (.ok handoffs, p) ∧
        s' = { s with controlPlane := p } := by
  induction ids generalizing s s' handoffs with
  | nil =>
    simp only [handoffAll, planeHandoffs, pure_ok_iff]
    constructor
    · rintro ⟨rfl, rfl⟩
      exact ⟨_, ⟨rfl, rfl⟩, rfl⟩
    · rintro ⟨p, ⟨rfl, rfl⟩, rfl⟩
      exact ⟨rfl, rfl⟩
  | cons id ids ih =>
    simp only [handoffAll, planeHandoffs, onPlane_bind_iff]
    constructor
    · rintro ⟨h, p, hp, hr⟩
      obtain ⟨hs, t, ht, hr⟩ := (Call.bind_ok_iff _ _ _ _ _).mp hr
      obtain ⟨p', hp', rfl⟩ := (ih _ _ _).mp ht
      obtain ⟨rfl, rfl⟩ := (pure_ok_iff _ _ _ _).mp hr
      refine ⟨p', (Call.bind_ok_iff _ _ _ _ _).mpr ⟨h, p, hp, ?_⟩, rfl⟩
      exact (Call.bind_ok_iff _ _ _ _ _).mpr ⟨hs, p', hp', rfl⟩
    · rintro ⟨p', hr, rfl⟩
      obtain ⟨h, p, hp, hr⟩ := (Call.bind_ok_iff _ _ _ _ _).mp hr
      obtain ⟨hs, p'', hp', hr⟩ := (Call.bind_ok_iff _ _ _ _ _).mp hr
      obtain ⟨rfl, rfl⟩ := (pure_ok_iff _ _ _ _).mp hr
      refine ⟨h, p, hp, (Call.bind_ok_iff _ _ _ _ _).mpr ⟨hs, _, (ih _ _ _).mpr
        ⟨p', hp', rfl⟩, rfl⟩⟩

theorem buildConnectorMeta_ok_iff (sha256 : Bytes → Digest) (config : ConnectorConfig)
    (scheduled : Dict String ℤ) (s s' : SchedulerConnector)
    (m : GptOssCacheBlendMetadata sha256) :
    buildConnectorMeta sha256 config scheduled s = (.ok m, s') ↔ ∃ handoffs p contents,
      planeHandoffs s.pendingHandoffIds s.controlPlane = (.ok handoffs, p) ∧
      stepContents sha256 config { s with controlPlane := p } scheduled handoffs =
        .ok contents ∧
      m = ⟨metadataSchemaVersion, config.groupLayerNames, handoffs, contents.1, contents.2,
        config.transferEnabled⟩ ∧
      s' = { s with controlPlane := p, pendingHandoffIds := [] } := by
  unfold buildConnectorMeta
  rw [read_bind, Call.bind_ok_iff]
  simp only [handoffAll_ok_iff, read_bind, lift_bind_iff, modify_bind, pure_ok_iff]
  constructor
  · rintro ⟨handoffs, t, ⟨p, hp, rfl⟩, contents, hc, rfl, rfl⟩
    exact ⟨handoffs, p, contents, hp, hc, rfl, rfl⟩
  · rintro ⟨handoffs, p, contents, hp, hc, rfl, rfl⟩
    exact ⟨handoffs, _, ⟨p, hp, rfl⟩, contents, hc, rfl, rfl⟩

def received (receipt : WorkerValidationReceipt) (s : SchedulerConnector)
    (p : RequestControlPlane) : SchedulerConnector :=
  if receipt.requestId ∈ s.finishedRequestIds then { s with
    controlPlane := (RequestControlPlane.discard receipt.requestId p).2
    finishedRequestIds := s.finishedRequestIds.erase receipt.requestId }
  else { s with controlPlane := p }

theorem applyReceipt_ok_iff (receipt : WorkerValidationReceipt) (s s' : SchedulerConnector) :
    applyReceipt receipt s = (.ok (), s') ↔ ∃ st p,
      RequestControlPlane.applyWorkerValidation receipt s.controlPlane = (.ok st, p) ∧
        s' = received receipt s p := by
  unfold applyReceipt received
  simp only [onPlane_bind_iff, read_bind]
  by_cases hf : receipt.requestId ∈ s.finishedRequestIds
  · simp only [if_pos hf, onPlane_bind_iff, modify_bind, pure_ok_iff, true_and]
    constructor
    · rintro ⟨st, p, hp, o, p', hd, rfl⟩
      refine ⟨st, p, hp, ?_⟩
      rw [hd]
    · rintro ⟨st, p, hp, rfl⟩
      exact ⟨st, p, hp, _, _, rfl, rfl⟩
  · simp only [if_neg hf, pure_ok_iff, true_and]

theorem requestFinished_ok_iff (config : ConnectorConfig) (requestId : String)
    (blockIds : List (List ℤ)) (s s' : SchedulerConnector)
    (r : Bool × Option (Dict String String)) :
    requestFinishedAllGroups config requestId blockIds s = (.ok r, s') ↔
      r = (false, none) ∧ blockIds.length = config.groupLayerNames.length ∧
      ∃ st, s.controlPlane.states.get? requestId = some st ∧
        CompletionAccepted config blockIds st ∧
        s' = forget requestId (settle config requestId st (discardLookup requestId s)) := by
  have hstate : ∀ (p p' : RequestControlPlane) (st : RequestLifecycleState),
      RequestControlPlane.state requestId p = (.ok st, p') ↔
        p.states.get? requestId = some st ∧ p' = p := by
    intro p p' st
    unfold RequestControlPlane.state RequestControlPlane.requireState
    cases p.states.get? requestId with
    | none => simp [fail]
    | some st' => simp [eq_comm]
  unfold requestFinishedAllGroups
  simp only [check_bind_iff, onPlane_bind_iff, hstate, modify_bind, pure_ok_iff]
  constructor
  · rintro ⟨hl, st, p, ⟨hst, rfl⟩, hc, rfl, rfl⟩
    exact ⟨rfl, hl, st, hst, hc, rfl⟩
  · rintro ⟨rfl, hl, st, hst, hc, rfl⟩
    exact ⟨hl, st, _, ⟨hst, rfl⟩, hc, rfl, rfl⟩

end CacheBlend.HookEffects
