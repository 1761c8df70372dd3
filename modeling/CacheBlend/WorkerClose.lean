import CacheBlend.TransportLifecycle
import Mathlib.Logic.Function.Iterate

/-!
# Closing a worker

The worker closes its staging tensor before its transport. Staging keeps its
owners when the unregister request fails, so that a later close can try
again. The transport is closed in the same attempt, and a closed transport
refuses every further unregister request.
-/

set_option autoImplicit false

namespace CacheBlend.WorkerClose
open CacheBlend.TransportLifecycle

inductive StagingState where
  | created
  | registered
  | transferActive
  | failed
  | closed
  deriving DecidableEq

inductive WorkerBridgeState where
  | created
  | ready
  | failed
  | closed
  deriving DecidableEq

inductive StagingErrorCode where
  | invalidState
  | unregisterFailed
  deriving DecidableEq

inductive WorkerBridgeErrorCode where
  | closeFailed
  deriving DecidableEq

inductive RuntimeResourceErrorCode where
  | closeFailed
  deriving DecidableEq

structure StagingRuntime where
  state : StagingState
  /-- The tensor, its wrapper, the event and its handle are strongly held. -/
  ownersHeld : Bool
  registrationMayExist : Bool
  deriving DecidableEq

/-- A worker's resources with the link of its transport. -/
structure WorkerRuntime where
  link : Link
  staging : StagingRuntime
  bridge : WorkerBridgeState
  sidecarClosed : Bool
  resourcesClosed : Bool
  deriving DecidableEq

def StagingRuntime.released : StagingRuntime := ⟨.closed, false, false⟩

namespace WorkerRuntime

/-- `StagingRuntime.close`. -/
def closeStaging : Call WorkerRuntime StagingErrorCode PUnit := fun s =>
  match s.staging.state with
  | .closed => (.ok ⟨⟩, s)
  | .transferActive => (.error .invalidState, s)
  | _ =>
    if s.staging.registrationMayExist = true then
      match unregisterStagingBuffer s.link with
      | (.ok _, link) => (.ok ⟨⟩, { s with link := link, staging := .released })
      | (.error _, link) => (.error .unregisterFailed,
          { s with link := link, staging := { s.staging with state := .failed } })
    else (.ok ⟨⟩, { s with staging := .released })

def closeTransport : Call WorkerRuntime LmcacheTransportError PUnit :=
  Call.within WorkerRuntime.link (fun s link => { s with link := link }) id close

/-- `GptOssWorkerBridge.close`. -/
def closeBridge : Call WorkerRuntime WorkerBridgeErrorCode PUnit := fun s =>
  if s.bridge = .closed then (.ok ⟨⟩, s)
  else
    let staged := closeStaging s
    let sent := closeTransport staged.2
    match staged.1, sent.1 with
    | .ok _, .ok _ => (.ok ⟨⟩, { sent.2 with bridge := .closed })
    | _, _ => (.error .closeFailed, { sent.2 with bridge := .failed })

/-- `WorkerRuntimeResources.close`. The sidecar of a worker closes. -/
def closeResources : Call WorkerRuntime RuntimeResourceErrorCode PUnit := fun s =>
  if s.resourcesClosed = true then (.ok ⟨⟩, s)
  else
    let bridged := closeBridge s
    let s' := { bridged.2 with sidecarClosed := true }
    match bridged.1 with
    | .ok _ => (.ok ⟨⟩, { s' with resourcesClosed := true })
    | .error _ => (.error .closeFailed, s')

def afterCloses (n : ℕ) (s : WorkerRuntime) : WorkerRuntime :=
  (fun s => (closeResources s).2)^[n] s

/-- A worker whose staging buffer is registered under an instance. -/
structure HoldsStaging (instanceId : ℕ) (s : WorkerRuntime) : Prop where
  staging : s.staging.state = .registered ∨ s.staging.state = .failed
  recorded : s.staging.registrationMayExist = true
  transport : s.link.transport.state = .registered ∨ s.link.transport.state = .failed
  registration : s.link.transport.registration = some instanceId
  bridge : s.bridge ≠ .closed
  resources : s.resourcesClosed = false

/-- The worker is closed, the server does not know the buffer any more, and
its local owners are released. -/
structure Finished (instanceId : ℕ) (s : WorkerRuntime) : Prop where
  resources : s.resourcesClosed = true
  bridge : s.bridge = .closed
  staging : s.staging = .released
  unregistered : instanceId ∉ s.link.registered

/-- A worker that no further close can finish: staging still owes an
unregister request that its transport refuses. -/
structure Stuck (s : WorkerRuntime) : Prop where
  staging : s.staging.state = .registered ∨ s.staging.state = .failed
  recorded : s.staging.registrationMayExist = true
  transport : s.link.transport.state ≠ .registered
  bridge : s.bridge ≠ .closed
  resources : s.resourcesClosed = false

/-! ## A close that fails -/

theorem closeStaging_refused {s : WorkerRuntime}
    (hs : s.staging.state = .registered ∨ s.staging.state = .failed)
    (hr : s.staging.registrationMayExist = true) {e : LmcacheTransportError} {link : Link}
    (hu : unregisterStagingBuffer s.link = (.error e, link)) :
    closeStaging s = (.error .unregisterFailed,
      { s with link := link, staging := { s.staging with state := .failed } }) := by
  unfold closeStaging
  obtain hs | hs := hs <;> rw [hs] <;> dsimp only <;> rw [if_pos hr, hu]

theorem closeTransport_link (s : WorkerRuntime) :
    (closeTransport s).2 = { s with link := (close s.link).2 } := by
  unfold closeTransport Call.within
  rcases close s.link with ⟨e | u, link⟩ <;> rfl

theorem failed_attempt {s : WorkerRuntime}
    (hs : s.staging.state = .registered ∨ s.staging.state = .failed)
    (hr : s.staging.registrationMayExist = true) (hb : s.bridge ≠ .closed)
    (hc : s.resourcesClosed = false) {e : LmcacheTransportError} {link : Link}
    (hu : unregisterStagingBuffer s.link = (.error e, link)) :
    Stuck (closeResources s).2 := by
  have hstaging := closeStaging_refused hs hr hu
  have hbridge : ∃ s', closeBridge s = (.error .closeFailed, s') ∧
      s'.staging = { s.staging with state := .failed } ∧ s'.link = (close link).2 ∧
      s'.bridge = .failed ∧ s'.resourcesClosed = s.resourcesClosed := by
    refine ⟨{ (closeTransport (closeStaging s).2).2 with bridge := .failed }, ?_, ?_⟩
    · unfold closeBridge
      rw [if_neg hb, hstaging]
    · rw [hstaging, closeTransport_link]
      exact ⟨rfl, rfl, rfl, rfl⟩
  obtain ⟨s', hs', hst, hlink, hbr, hres⟩ := hbridge
  have hafter : (closeResources s).2 = { s' with sidecarClosed := true } := by
    unfold closeResources
    rw [if_neg (by rw [hc]; decide), hs']
  rw [hafter]
  refine ⟨.inr ?_, ?_, ?_, ?_, hres.trans hc⟩
  · show s'.staging.state = .failed
    rw [hst]
  · show s'.staging.registrationMayExist = true
    rw [hst]
    exact hr
  · show s'.link.transport.state ≠ .registered
    rw [hlink, close_closes]
    decide
  · show s'.bridge ≠ .closed
    rw [hbr]
    decide

theorem stuck_close {s : WorkerRuntime} (h : Stuck s) : Stuck (closeResources s).2 := by
  obtain ⟨e, he⟩ := unregister_refused h.transport
  exact failed_attempt h.staging h.recorded h.bridge h.resources he

theorem stuck_forever (n : ℕ) {s : WorkerRuntime} (h : Stuck s) : Stuck (afterCloses n s) := by
  induction n generalizing s with
  | zero => exact h
  | succ n ih =>
    unfold afterCloses
    rw [Function.iterate_succ_apply]
    exact ih (stuck_close h)

theorem stuck_unfinished {s : WorkerRuntime} (h : Stuck s) (instanceId : ℕ) :
    ¬Finished instanceId s :=
  fun hf => h.bridge hf.bridge

/-! ## A close that makes progress -/

theorem first_attempt {s : WorkerRuntime} {instanceId : ℕ} (h : HoldsStaging instanceId s)
    (ht : s.link.transport.state = .registered) (ho : s.link.nextOutcome = .answered) :
    ∃ s', closeStaging s = (.ok ⟨⟩, s') ∧ s'.staging = .released ∧
      instanceId ∉ s'.link.registered ∧ s'.bridge = s.bridge ∧
      s'.resourcesClosed = s.resourcesClosed ∧ s'.link.transport.state = .ready ∧
      s'.link.transport.registration = none := by
  have hu := unregister_registered ht h.registration
  have hsent : s.link.submitUnregister instanceId =
      { s.link.advance with registered := s.link.registered.filter (· ≠ instanceId) } := by
    unfold Link.submitUnregister
    rw [ho]
    rfl
  have hrequest : requestUnregister instanceId s.link = (.ok ⟨⟩,
      (s.link.submitUnregister instanceId).withTransport
        { s.link.transport with registration := none, state := .ready }) := by
    unfold requestUnregister
    rw [ho]
    dsimp only
    rw [Link.submitUnregister_transport]
  refine ⟨{ s with
    link := (s.link.submitUnregister instanceId).withTransport
      { s.link.transport with registration := none, state := .ready }
    staging := .released }, ?_, rfl, ?_, rfl, rfl, rfl, rfl⟩
  · unfold closeStaging
    obtain hs | hs := h.staging <;> rw [hs] <;> dsimp only <;>
      rw [if_pos h.recorded, hu, hrequest]
  · rw [hsent]
    simp [Link.withTransport]

theorem close_registered (l : Link) (h : l.transport.registration = none) :
    (close l).2.registered = l.registered := by
  unfold close closeRegistration closeQueue
  rw [h]
  dsimp only
  split_ifs <;> rfl

theorem released_close {s : WorkerRuntime} {instanceId : ℕ} (hs : s.staging = .released)
    (hu : instanceId ∉ s.link.registered) (ht : s.link.transport.state = .closed)
    (hb : s.bridge ≠ .closed) (hc : s.resourcesClosed = false) :
    Finished instanceId (closeResources s).2 := by
  have hstaging : closeStaging s = (.ok ⟨⟩, s) := by
    unfold closeStaging
    rw [hs]
    rfl
  have htransport : closeTransport s = (.ok ⟨⟩, s) := by
    unfold closeTransport Call.within
    rw [closed_close ht]
  have hbridge : closeBridge s = (.ok ⟨⟩, { s with bridge := .closed }) := by
    unfold closeBridge
    rw [if_neg hb, hstaging]
    dsimp only
    rw [htransport]
  unfold closeResources
  rw [if_neg (by rw [hc]; decide), hbridge]
  exact ⟨rfl, rfl, hs, hu⟩

/-- Two attempts are enough after an answered unregister request: the first
one may fail to close the queue, the second one has nothing left to do. -/
theorem answered_finishes {s : WorkerRuntime} {instanceId : ℕ} (h : HoldsStaging instanceId s)
    (ht : s.link.transport.state = .registered) (ho : s.link.nextOutcome = .answered) :
    ∃ n, Finished instanceId (afterCloses n s) := by
  obtain ⟨s₁, hstaging, hst, hun, hbr, hres, hready, hreg⟩ := first_attempt h ht ho
  have hlink : (closeTransport s₁).2 = { s₁ with link := (close s₁.link).2 } :=
    closeTransport_link s₁
  have hregistered : instanceId ∉ (close s₁.link).2.registered := by
    rw [close_registered _ hreg]
    exact hun
  have hopen : s.resourcesClosed ≠ true := by
    rw [h.resources]
    decide
  by_cases hsent : ∃ u, (closeTransport s₁).1 = .ok u
  · obtain ⟨u, hsent⟩ := hsent
    refine ⟨1, ?_⟩
    have hbridge : closeBridge s = (.ok ⟨⟩, { (closeTransport s₁).2 with bridge := .closed }) := by
      unfold closeBridge
      rw [if_neg h.bridge, hstaging]
      dsimp only
      rw [hsent]
    show Finished instanceId (closeResources s).2
    unfold closeResources
    rw [if_neg hopen, hbridge, hlink]
    exact ⟨rfl, rfl, hst, hregistered⟩
  · refine ⟨2, ?_⟩
    have hbridge : closeBridge s = (.error .closeFailed,
        { (closeTransport s₁).2 with bridge := .failed }) := by
      unfold closeBridge
      rw [if_neg h.bridge, hstaging]
      dsimp only
      cases hx : (closeTransport s₁).1 with
      | ok u => exact absurd ⟨u, hx⟩ hsent
      | error e => rfl
    have hfirst : (closeResources s).2 =
        { s₁ with link := (close s₁.link).2, bridge := .failed, sidecarClosed := true } := by
      unfold closeResources
      rw [if_neg hopen, hbridge, hlink]
    show Finished instanceId (closeResources (closeResources s).2).2
    rw [hfirst]
    exact released_close hst hregistered (close_closes _) WorkerBridgeState.noConfusion
      (hres.trans h.resources)

/-- Closing a worker with a registered staging buffer comes to an end exactly
when the transport is still in its registered state and the first unregister
request is answered. -/
theorem close_finishes_iff {s : WorkerRuntime} {instanceId : ℕ} (h : HoldsStaging instanceId s) :
    (∃ n, Finished instanceId (afterCloses n s)) ↔
      s.link.transport.state = .registered ∧ s.link.nextOutcome = .answered := by
  constructor
  · rintro ⟨n, hf⟩
    by_contra hno
    have hrefused : ∃ e link, unregisterStagingBuffer s.link = (.error e, link) := by
      by_cases ht : s.link.transport.state = .registered
      · have ho : s.link.nextOutcome ≠ .answered := fun ho => hno ⟨ht, ho⟩
        obtain ⟨e, he⟩ := requestUnregister_fails instanceId ho
        exact ⟨e, _, (unregister_registered ht h.registration).trans he⟩
      · obtain ⟨e, he⟩ := unregister_refused ht
        exact ⟨e, _, he⟩
    obtain ⟨e, link, hu⟩ := hrefused
    have hstuck := failed_attempt h.staging h.recorded h.bridge h.resources hu
    cases n with
    | zero => exact h.bridge hf.bridge
    | succ n =>
      unfold afterCloses at hf
      rw [Function.iterate_succ_apply] at hf
      exact stuck_unfinished (stuck_forever n hstuck) instanceId hf
  · rintro ⟨ht, ho⟩
    exact answered_finishes h ht ho

/-- A ready worker with a registered buffer and a queue that treats the coming
requests as given. -/
def registeredWorker (pending : List QueueOutcome) : WorkerRuntime where
  link := ⟨⟨.registered, some 7, false⟩, [7], pending⟩
  staging := ⟨.registered, true, true⟩
  bridge := .ready
  sidecarClosed := false
  resourcesClosed := false

theorem registeredWorker_holds (pending : List QueueOutcome) :
    HoldsStaging 7 (registeredWorker pending) :=
  ⟨.inl rfl, rfl, .inl rfl, rfl, WorkerBridgeState.noConfusion, rfl⟩

theorem queue_failure_closes : ∃ n, Finished 7 (afterCloses n (registeredWorker
    [.answered, .raised false])) :=
  (close_finishes_iff (registeredWorker_holds _)).mpr ⟨rfl, rfl⟩

/-- One lost unregister request, and no later close finishes. -/
theorem lost_request_blocks : HoldsStaging 7 (registeredWorker [.raised false]) ∧
    ¬∃ n, Finished 7 (afterCloses n (registeredWorker [.raised false])) := by
  refine ⟨registeredWorker_holds _, ?_⟩
  rintro ⟨n, hf⟩
  have hstuck : Stuck (closeResources (registeredWorker [.raised false])).2 :=
    ⟨.inr (by decide), by decide, by decide, by decide, by decide⟩
  cases n with
  | zero => exact absurd hf.bridge (by decide)
  | succ n =>
    unfold afterCloses at hf
    rw [Function.iterate_succ_apply] at hf
    exact stuck_unfinished (stuck_forever n hstuck) 7 hf

end WorkerRuntime

end CacheBlend.WorkerClose
