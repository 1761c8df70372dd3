import CacheBlend.StagingTransfers
import CacheBlend.Triples

/-!
# Ownership of the staging tensor

Over every run of calls the tensor, its wrapper and its event stay held while
the server may know of them, and a lease is the only one and of the exported
event. The tensor is not handed out during a lease or after a failure, and
nothing is called after a close. This rests on the exceptions of an open or of
the acquisition of a lease: `except Exception` catches them, or the runtime
keeps a state that admits a further call.
-/

set_option autoImplicit false

namespace CacheBlend.StagingOwnership
open CacheBlend.StagingTransfers CacheBlend.LmcacheTypes
open CacheBlend.Call
open CacheBlend.WorkerClose (StagingState)

/-! ## Runs -/

/-- The server may know the tensor: a registration has been requested and no
unregister request has returned since. -/
def exposed (log : List (Operation × Bool)) : Bool :=
  log.foldl (fun known call => match call with
    | (.registerStagingBuffer, _) => true
    | (.unregisterStagingBuffer, true) => false
    | _ => known) false

inductive RuntimeCall where
  | openStaging (a : Answers)
  | tensor
  | acquire (direction : StagingTransferDirection) (bufferOffset tokenExtent : ℤ) (a : Answers)
  | release (how : BodyEnd) (a : Answers)
  | close (a : Answers)

inductive Given where
  | tensor (t : ℕ)
  | lease (l : StagingTransferLease)
  | nothing

/-- The machine, the lease whose body is running, the handle exported when
staging was opened, and what has failed or been closed. -/
structure World where
  machine : Machine
  lease : Option StagingTransferLease
  exported : Option Bytes
  failed : Bool
  closed : Bool

def World.initial (config : StagingConfig) : World := ⟨⟨.new config, []⟩, none, none, false, false⟩

/-- The arguments and the state of a transfer are accepted. -/
def Accepted (r : StagingRuntime) (direction : StagingTransferDirection)
    (bufferOffset tokenExtent : ℤ) : Prop :=
  r.state = .registered ∧ 0 ≤ bufferOffset ∧ 1 ≤ tokenExtent ∧
    bufferOffset+tokenExtent ≤ r.config.tokenCapacity ∧
    (direction = .store → tokenExtent%lmcacheChunkSize = 0)

instance (r : StagingRuntime) (direction : StagingTransferDirection)
    (bufferOffset tokenExtent : ℤ) : Decidable (Accepted r direction bufferOffset tokenExtent) :=
  inferInstanceAs (Decidable (_ ∧ _))

/-- One call. The end of a body exists only while its lease does. -/
def step (w : World) : RuntimeCall → Except Raised Given × World
  | .openStaging a =>
    match openStaging a w.machine with
    | (.ok t, m) =>
      (.ok (.tensor t), { w with machine := m, exported := a.eventIpcHandle.toOption })
    | (.error e, m) => (.error e, { w with
        machine := m, failed := w.failed || w.machine.runtime.state = .created })
  | .tensor =>
    match stagingTensor w.machine with
    | (.ok t, m) => (.ok (.tensor t), { w with machine := m })
    | (.error e, m) => (.error e, { w with machine := m })
  | .acquire direction bufferOffset tokenExtent a =>
    match acquire direction bufferOffset tokenExtent a w.machine with
    | (.ok l, m) => (.ok (.lease l), { w with machine := m, lease := some l })
    | (.error e, m) => (.error e, { w with
        machine := m
        failed := w.failed || Accepted w.machine.runtime direction bufferOffset tokenExtent })
  | .release how a =>
    if w.lease.isNone then (.ok .nothing, w)
    else match release how a w.machine with
      | (.ok _, m) => (.ok .nothing, { w with machine := m, lease := none })
      | (.error e, m) => (.error e, { w with machine := m, lease := none, failed := true })
  | .close a =>
    match closeStaging a w.machine with
    | (.ok _, m) => (.ok .nothing, { w with machine := m, closed := true })
    | (.error e, m) => (.error e, { w with machine := m })

def after (config : StagingConfig) (calls : List RuntimeCall) : World :=
  calls.foldl (fun w c => (step w c).2) (World.initial config)

def Drops (r r' : StagingRuntime) : Prop :=
  (r.tensor.isSome ∧ r'.tensor ≠ r.tensor) ∨ (r.wrapper.isSome ∧ r'.wrapper ≠ r.wrapper) ∨
    (r.event.isSome ∧ r'.event ≠ r.event)

/-- What holds of a call with its result and the world after it. -/
structure Owned (w : World) (c : RuntimeCall) (x : Except Raised Given) (w' : World) : Prop where
  dropped : Drops w.machine.runtime w'.machine.runtime → exposed w'.machine.log = false
  leased : ∀ l, x = .ok (.lease l) →
    w.machine.runtime.state = .registered ∧ w.lease = none ∧
    l.capacity = w.machine.runtime.config.tokenCapacity ∧ w.exported = some l.eventIpcHandle
  handed : ∀ t, x = .ok (.tensor t) → w.lease = none ∧ w.failed = false
  refused : ∀ a, c = .close a → w.lease.isSome → x = .error (.staging .invalidState) ∧ w' = w
  silent : w.closed → w'.machine.log = w.machine.log

/-- No exception of the answers passes `except Exception`. -/
structure Quiet (a : Answers) : Prop where
  validateDevice : a.validateDevice ≠ .error .interrupt
  allocate : a.allocate ≠ .error .interrupt
  tensorShape : a.tensorShape ≠ .error .interrupt
  tensorDtypeName : a.tensorDtypeName ≠ .error .interrupt
  tensorDeviceName : a.tensorDeviceName ≠ .error .interrupt
  tensorIsContiguous : a.tensorIsContiguous ≠ .error .interrupt
  tensorStorageOffset : a.tensorStorageOffset ≠ .error .interrupt
  createInterprocessEvent : a.createInterprocessEvent ≠ .error .interrupt
  synchronizeDevice : a.synchronizeDevice ≠ .error .interrupt
  recordEvent : a.recordEvent ≠ .error .interrupt
  synchronizeEvent : a.synchronizeEvent ≠ .error .interrupt
  eventIpcHandle : a.eventIpcHandle ≠ .error .interrupt
  makeCudaIpcWrapper : a.makeCudaIpcWrapper ≠ .error .interrupt
  wrapperShape : a.wrapperShape ≠ .error .interrupt
  wrapperDtypeName : a.wrapperDtypeName ≠ .error .interrupt
  wrapperStorageOffset : a.wrapperStorageOffset ≠ .error .interrupt
  wrapperStride : a.wrapperStride ≠ .error .interrupt
  wrapperDeviceUuid : a.wrapperDeviceUuid ≠ .error .interrupt
  deviceUuid : a.deviceUuid ≠ .error .interrupt
  wrapperHasHandle : a.wrapperHasHandle ≠ .error .interrupt
  registerStagingBuffer : a.registerStagingBuffer ≠ .error .interrupt

/-- The answers to an open and to the acquisition of a lease are quiet. -/
def Caught : RuntimeCall → Prop
  | .openStaging a => Quiet a
  | .acquire _ _ _ a => Quiet a
  | _ => True

/-! ## What the parts of a call keep -/

/-- The machine with a runtime and a log of known exposure. -/
def At (r : StagingRuntime) (known : Bool) (m : Machine) : Prop :=
  m.runtime = r ∧ exposed m.log = known

/-- The call raised an error of staging, which leaves the machine there. -/
def Marked (r : StagingRuntime) (known : Bool) (e : Raised) (m : Machine) : Prop :=
  At r known m ∧ ∃ code, e = .staging code

theorem exposed_snoc (log : List (Operation × Bool)) (op : Operation) (returned : Bool)
    (hr : op ≠ .registerStagingBuffer) (hu : op ≠ .unregisterStagingBuffer) :
    exposed (log ++ [(op, returned)]) = exposed log := by
  unfold exposed
  rw [List.foldl_concat]
  cases op <;> first | rfl | exact absurd rfl hr | exact absurd rfl hu

theorem exposed_register (log : List (Operation × Bool)) (returned : Bool) :
    exposed (log ++ [(.registerStagingBuffer, returned)]) = true := by
  unfold exposed
  rw [List.foldl_concat]

theorem exposed_unregister (log : List (Operation × Bool)) (returned : Bool) :
    exposed (log ++ [(.unregisterStagingBuffer, returned)]) = (!returned && exposed log) := by
  unfold exposed
  rw [List.foldl_concat]
  cases returned <;> rfl

theorem markFailed_state {r : StagingRuntime} (h : r.state ≠ .closed) :
    r.markFailed = { r with state := .failed } := if_neg h

section
variable {α : Type} {r : StagingRuntime} {known : Bool} {code : StagingErrorCode}
  {pre : Machine → Prop} {body : StagingCall α} {post : α → Machine → Prop}
  {fail : Raised → Machine → Prop}

theorem triple_readAt {f : Machine → StagingCall α}
    (h : ∀ m, m.runtime = r → Triple (At r known) (f m) post fail) :
    Triple (At r known) (Call.read >>= f) post fail := by
  apply triple_read_bind
  intro m hm
  exact (h m hm.1).mono (fun m' he => he ▸ hm) (fun _ _ h => h) fun _ _ h => h

theorem perform_run (op : Operation) (answer : Except Raised α) (m : Machine) :
    perform op answer m = (answer, { m with log := m.log ++ [(op, answer.toBool)] }) := rfl

theorem perform_spec {op : Operation} {answer : Except Raised α}
    (hr : op ≠ .registerStagingBuffer) (hu : op ≠ .unregisterStagingBuffer) :
    Triple (At r known) (perform op answer) (fun a m => At r known m ∧ answer = .ok a)
      (fun e m => At r known m ∧ answer = .error e) := by
  apply triple_of_outcome
  rintro m ⟨rfl, rfl⟩
  have hat : At m.runtime (exposed m.log) { m with log := m.log ++ [(op, answer.toBool)] } :=
    ⟨rfl, exposed_snoc m.log op _ hr hu⟩
  rw [perform_run]
  cases answer with
  | ok a => exact .inl ⟨a, _, rfl, hat, rfl⟩
  | error e => exact .inr ⟨e, _, rfl, hat, rfl⟩

theorem perform_quiet {op : Operation} {answer : Except Raised α}
    (hr : op ≠ .registerStagingBuffer) (hu : op ≠ .unregisterStagingBuffer)
    (hq : answer ≠ .error .interrupt) :
    Triple (At r known) (perform op answer) (fun a m => At r known m ∧ answer = .ok a)
      (fun e m => At r known m ∧ e ≠ .interrupt) :=
  (perform_spec hr hu).mono (fun _ h => h) (fun _ _ h => h)
    fun _ _ h => ⟨h.1, fun he => hq (he ▸ h.2)⟩

theorem perform_kept {op : Operation} {answer : Except Raised α}
    (hr : op ≠ .registerStagingBuffer) (hu : op ≠ .unregisterStagingBuffer)
    (hq : answer ≠ .error .interrupt) :
    Triple (At r known) (perform op answer) (fun _ => At r known)
      (fun e m => At r known m ∧ e ≠ .interrupt) :=
  (perform_quiet hr hu hq).mono (fun _ h => h) (fun _ _ h => h.1) fun _ _ h => h

theorem register_spec {answer : Except Raised α} (hq : answer ≠ .error .interrupt) :
    Triple (At r known) (perform .registerStagingBuffer answer) (fun _ => At r true)
      (fun e m => At r true m ∧ e ≠ .interrupt) := by
  apply triple_of_outcome
  rintro m ⟨rfl, _⟩
  have hlog := exposed_register m.log answer.toBool
  rw [perform_run]
  cases answer with
  | ok a => exact .inl ⟨a, _, rfl, rfl, hlog⟩
  | error e => exact .inr ⟨e, _, rfl, ⟨rfl, hlog⟩, fun he => hq (congrArg _ he)⟩

theorem update_spec (f : StagingRuntime → StagingRuntime) :
    Triple (At r known) (update f) (fun _ => At (f r) known) fail := by
  apply triple_modify
  rintro m ⟨rfl, rfl⟩
  exact ⟨rfl, rfl⟩

theorem check_spec (p : Prop) [Decidable p] :
    Triple (At r known) (check p code) (fun _ m => At r known m ∧ p) (Marked r known) := by
  unfold check
  apply triple_lift
  · intro u hu m hm
    exact ⟨hm, (require_ok_iff p _ u).mp hu⟩
  · intro e he m hm
    unfold require at he
    split_ifs at he
    obtain rfl := Except.error.inj he
    exact ⟨hm, code, rfl⟩

theorem wrapping_spec (h : Triple pre body post (fun e m => At r known m ∧ e ≠ .interrupt)) :
    Triple pre (wrapping code body) post (Marked r known) := by
  apply triple_of_outcome
  intro m hm
  unfold wrapping
  obtain ⟨a, m', hb, hp⟩ | ⟨e, m', hb, hat, hne⟩ := h.outcome hm
  · rw [hb]
    exact .inl ⟨a, m', rfl, hp⟩
  · rw [hb]
    cases e with
    | staging code' => exact .inr ⟨_, m', rfl, hat, code, rfl⟩
    | exception => exact .inr ⟨_, m', rfl, hat, code, rfl⟩
    | interrupt => exact absurd rfl hne

theorem translating_spec (h : Triple pre body post (fun e m => At r known m ∧ e ≠ .interrupt)) :
    Triple pre (translating code body) post (Marked r known) := by
  apply triple_of_outcome
  intro m hm
  unfold translating
  obtain ⟨a, m', hb, hp⟩ | ⟨e, m', hb, hat, hne⟩ := h.outcome hm
  · rw [hb]
    exact .inl ⟨a, m', rfl, hp⟩
  · rw [hb]
    cases e with
    | staging code' => exact .inr ⟨_, m', rfl, hat, code', rfl⟩
    | exception => exact .inr ⟨_, m', rfl, hat, code, rfl⟩
    | interrupt => exact absurd rfl hne

theorem marking_spec (h : Triple pre body post (Marked r known)) :
    Triple pre (marking body) post (fun _ => At r.markFailed known) := by
  apply triple_of_outcome
  intro m hm
  unfold marking
  obtain ⟨a, m', hb, hp⟩ | ⟨e, m', hb, ⟨hr, hk⟩, code, rfl⟩ := h.outcome hm
  · rw [hb]
    exact .inl ⟨a, m', rfl, hp⟩
  · rw [hb]
    exact .inr ⟨_, _, rfl, congrArg StagingRuntime.markFailed hr, hk⟩

end

/-! ## Opening and leasing -/

section
variable {r : StagingRuntime} {known : Bool} {a : Answers}

theorem synchronizeDevice_spec (hq : a.synchronizeDevice ≠ .error .interrupt) :
    Triple (At r known) (synchronizeDevice a) (fun _ => At r known) (Marked r known) := by
  apply wrapping_spec
  apply triple_bind (perform_quiet (by decide) (by decide) hq)
  intro u
  exact triple_pure fun _ h => h.1

theorem validateTensor_spec (hq : Quiet a) :
    Triple (At r known) (validateTensor a) (fun _ => At r known)
      (fun _ => At r.markFailed known) := by
  apply triple_readAt
  intro m _
  apply triple_bind (m := fun _ => At r known)
  · apply marking_spec
    apply wrapping_spec
    apply triple_bind (perform_kept (by decide) (by decide) hq.tensorShape)
    intro shape
    apply triple_bind (perform_kept (by decide) (by decide) hq.tensorDtypeName)
    intro dtypeName
    apply triple_bind (perform_kept (by decide) (by decide) hq.tensorDeviceName)
    intro deviceName
    apply triple_bind (perform_kept (by decide) (by decide) hq.tensorIsContiguous)
    intro contiguous
    apply triple_bind (perform_kept (by decide) (by decide) hq.tensorStorageOffset)
    intro storageOffset
    exact triple_pure fun _ h => h
  · rintro ⟨shape, dtypeName, deviceName, contiguous, storageOffset⟩
    apply marking_spec
    exact (check_spec _).mono (fun _ h => h) (fun _ _ h => h.1) fun _ _ h => h

theorem validateWrapper_spec (hq : Quiet a) :
    Triple (At r known) (validateWrapper a) (fun _ => At r known)
      (fun _ => At r.markFailed known) := by
  apply triple_readAt
  intro m _
  apply triple_bind (m := fun _ => At r known)
  · apply marking_spec
    apply wrapping_spec
    apply triple_bind (perform_kept (by decide) (by decide) hq.wrapperShape)
    intro shape
    apply triple_bind (perform_kept (by decide) (by decide) hq.wrapperDtypeName)
    intro dtypeName
    apply triple_bind (perform_kept (by decide) (by decide) hq.wrapperStorageOffset)
    intro storageOffset
    apply triple_bind (perform_kept (by decide) (by decide) hq.wrapperStride)
    intro stride
    apply triple_bind (perform_kept (by decide) (by decide) hq.wrapperDeviceUuid)
    intro wrapperUuid
    apply triple_bind (perform_kept (by decide) (by decide) hq.deviceUuid)
    intro expectedUuid
    apply triple_bind (perform_kept (by decide) (by decide) hq.wrapperHasHandle)
    intro hasHandle
    exact triple_pure fun _ h => h
  · rintro ⟨shape, dtypeName, storageOffset, stride, wrapperUuid, expectedUuid, hasHandle⟩
    apply marking_spec
    exact (check_spec _).mono (fun _ h => h) (fun _ _ h => h.1) fun _ _ h => h

theorem recordAndExportEvent_spec (expectedHandle : Option Bytes) (hq : Quiet a) :
    Triple (At r known) (recordAndExportEvent a expectedHandle)
      (fun handle m => At r known m ∧ a.eventIpcHandle = .ok handle ∧ ValidHandle handle ∧
        ∀ expected ∈ expectedHandle, handle = expected)
      (fun _ => At r.markFailed known) := by
  apply triple_readAt
  intro m _
  apply triple_bind (m := fun _ => At r known)
  · apply marking_spec
    exact (check_spec _).mono (fun _ h => h) (fun _ _ h => h.1) fun _ _ h => h
  intro _
  apply triple_bind (marking_spec (synchronizeDevice_spec hq.synchronizeDevice))
  intro _
  apply triple_bind (m := fun handle m => At r known m ∧
    (a.eventIpcHandle = .ok handle ∧ ValidHandle handle))
  · apply marking_spec
    apply wrapping_spec
    apply triple_bind (perform_kept (by decide) (by decide) hq.recordEvent)
    intro _
    apply triple_bind (perform_kept (by decide) (by decide) hq.synchronizeEvent)
    intro _
    apply triple_bind (perform_quiet (by decide) (by decide) hq.eventIpcHandle)
    intro handle
    apply triple_bind (m := fun _ m => At r known m ∧
      (a.eventIpcHandle = .ok handle ∧ ValidHandle handle))
    · apply triple_lift
      · intro u hu m' hm
        exact ⟨hm.1, hm.2, (require_ok_iff _ _ u).mp hu⟩
      · intro e he m' hm
        unfold require at he
        split_ifs at he
        obtain rfl := Except.error.inj he
        exact ⟨hm.1, nofun⟩
    · intro _
      exact triple_pure fun _ h => h
  intro handle
  apply triple_of_state
  rintro m' ⟨hat, hhandle⟩
  apply triple_bind (m := fun _ m => At r known m ∧ ∀ expected ∈ expectedHandle, handle = expected)
  · apply marking_spec
    exact (check_spec _).mono (fun _ he => he ▸ hat) (fun _ _ h => h) fun _ _ h => h
  · intro _
    exact triple_pure fun _ h => ⟨h.1, hhandle.1, hhandle.2, h.2⟩

/-- A failed runtime that remembers whether the server may know the tensor. -/
def Broken (m : Machine) : Prop :=
  m.runtime.state = .failed ∧ exposed m.log = m.runtime.registrationMayExist

theorem broken_of_failed (hs : r.state ≠ .closed) (hk : known = r.registrationMayExist)
    {m : Machine} (h : At r.markFailed known m) : Broken m := by
  obtain ⟨hr, hl⟩ := h
  unfold Broken
  rw [hr, hl, hk, markFailed_state hs]
  exact ⟨rfl, rfl⟩

def Opened (r : StagingRuntime) (a : Answers) (t : ℕ) (m : Machine) : Prop :=
  exposed m.log = true ∧ ∃ wrapper event handle, a.eventIpcHandle = .ok handle ∧
    m.runtime = { r with
      state := .registered, tensor := some t, wrapper := some wrapper, event := event
      eventHandle := some handle, registrationMayExist := true }

theorem orBroken {α : Type} {body : StagingCall α} {post : α → Machine → Prop}
    (h : Triple (At r known) body post (fun _ => At r.markFailed known))
    (hs : r.state = .created) (hk : r.registrationMayExist = known) :
    Triple (At r known) body post (fun _ => Broken) :=
  h.mono (fun _ h => h) (fun _ _ h => h)
    fun _ _ => broken_of_failed (by rw [hs]; decide) hk.symm

theorem marking_register {answer : Except Raised Unit} {code : StagingErrorCode}
    (hq : answer ≠ .error .interrupt) (hs : r.state = .created)
    (hk : r.registrationMayExist = true) :
    Triple (At r known) (marking (wrapping code (perform .registerStagingBuffer answer)))
      (fun _ => At r true) (fun _ => Broken) :=
  (marking_spec (wrapping_spec (register_spec hq))).mono (fun _ h => h) (fun _ _ h => h)
    fun _ _ => broken_of_failed (by rw [hs]; decide) hk.symm

theorem openStaging_spec (hs : r.state = .created) (hk : r.registrationMayExist = false)
    (hq : Quiet a) :
    Triple (At r false) (openStaging a) (Opened r a) (fun _ => Broken) := by
  unfold openStaging requireState
  refine triple_bind (m := fun _ => At r false) ?_ fun _ => ?_
  · apply triple_readAt
    intro m hm
    unfold check
    rw [require_of _ (by rw [hm]; exact hs)]
    exact triple_pure fun _ h => h
  refine triple_bind (orBroken (marking_spec (translating_spec
    (perform_kept (by decide) (by decide) hq.validateDevice))) hs hk) fun _ => ?_
  refine triple_bind (orBroken (marking_spec (wrapping_spec
    (perform_kept (by decide) (by decide) hq.allocate))) hs hk) fun t => ?_
  refine triple_bind (update_spec _) fun _ => ?_
  refine triple_bind (orBroken (validateTensor_spec hq) hs hk) fun _ => ?_
  refine triple_bind (orBroken (marking_spec (wrapping_spec
    (perform_kept (by decide) (by decide) hq.createInterprocessEvent))) hs hk) fun event => ?_
  refine triple_bind (update_spec _) fun _ => ?_
  refine triple_bind (orBroken (recordAndExportEvent_spec none hq) hs hk) fun handle => ?_
  apply triple_of_state
  rintro m ⟨hat, hhandle, _⟩
  refine triple_bind ((update_spec _).mono (fun _ he => he ▸ hat) (fun _ _ h => h)
    fun _ _ h => h) fun _ => ?_
  refine triple_bind (orBroken (marking_spec (wrapping_spec
    (perform_kept (by decide) (by decide) hq.makeCudaIpcWrapper))) hs hk) fun wrapper => ?_
  refine triple_bind (update_spec _) fun _ => ?_
  refine triple_bind (orBroken (validateWrapper_spec hq) hs hk) fun _ => ?_
  refine triple_bind (update_spec _) fun _ => ?_
  refine triple_bind (marking_register hq.registerStagingBuffer hs rfl) fun _ => ?_
  refine triple_bind (update_spec _) fun _ => ?_
  exact triple_pure fun m h => ⟨h.2, wrapper, event, handle, hhandle, h.1⟩

def Leased (r : StagingRuntime) (known : Bool) (l : StagingTransferLease) (m : Machine) : Prop :=
  At { r with state := .transferActive } known m ∧ l.capacity = r.config.tokenCapacity ∧
    ∀ handle ∈ r.eventHandle, l.eventIpcHandle = handle

section
variable {direction : StagingTransferDirection} {bufferOffset tokenExtent : ℤ}

theorem lease_new (direction : StagingTransferDirection) {capacity : ℕ} {handle : Bytes}
    (ho : 0 ≤ bufferOffset) (he : 1 ≤ tokenExtent)
    (hc : bufferOffset+tokenExtent ≤ capacity) (hh : ValidHandle handle) :
    ∃ l, StagingTransferLease.new direction bufferOffset.toNat tokenExtent.toNat capacity handle =
      .ok l ∧ l.capacity = capacity ∧ l.eventIpcHandle = handle := by
  unfold StagingTransferLease.new
  rw [dif_pos ⟨by omega, by omega⟩, dif_pos (by omega), dif_pos hh]
  exact ⟨_, rfl, rfl, rfl⟩

theorem acquire_spec (ha : Accepted r direction bufferOffset tokenExtent) (hq : Quiet a) :
    Triple (At r known) (acquire direction bufferOffset tokenExtent a) (Leased r known)
      (fun _ => At r.markFailed known) := by
  obtain ⟨hs, ho, he, hc, hd⟩ := ha
  unfold acquire requireState check
  refine triple_bind (m := fun _ => At r known) ?_ fun _ => ?_
  · apply triple_readAt
    intro m hm
    rw [require_of _ (by rw [hm]; exact hs)]
    exact triple_pure fun _ h => h
  apply triple_readAt
  intro m hm
  rw [require_of _ ho, require_of _ he, require_of _ (by rw [hm]; exact hc), require_of _ hd]
  refine triple_bind (m := fun _ => At r known) (triple_pure fun _ h => h) fun _ => ?_
  refine triple_bind (m := fun _ => At r known) (triple_pure fun _ h => h) fun _ => ?_
  refine triple_bind (m := fun _ => At r known) (triple_pure fun _ h => h) fun _ => ?_
  refine triple_bind (m := fun _ => At r known) (triple_pure fun _ h => h) fun _ => ?_
  refine triple_bind (recordAndExportEvent_spec _ hq) fun handle => ?_
  apply triple_of_state
  rintro m' ⟨hat, _, hvalid, hexpected⟩
  rw [hm] at hexpected ⊢
  obtain ⟨l, hl, hcapacity, hhandle⟩ := lease_new direction ho he hc hvalid
  rw [hl]
  refine triple_bind (m := fun l' m => At r known m ∧ l' = l)
    (triple_pure fun _ h => ⟨h ▸ hat, rfl⟩) fun l' => ?_
  apply triple_of_state
  rintro m'' ⟨hat', rfl⟩
  refine triple_bind ((update_spec _).mono (fun _ he => he ▸ hat') (fun _ _ h => h)
    fun _ _ h => h) fun _ => ?_
  refine triple_pure fun _ h => ⟨h, hcapacity, fun expected hmem => ?_⟩
  rw [hhandle]
  exact hexpected expected hmem

theorem acquire_refused {m : Machine}
    (ha : ¬Accepted m.runtime direction bufferOffset tokenExtent) :
    ∃ e, acquire direction bufferOffset tokenExtent a m = (.error e, m) := by
  unfold acquire requireState check
  by_cases hs : m.runtime.state = .registered
  · by_cases ho : 0 ≤ bufferOffset
    · by_cases he : 1 ≤ tokenExtent
      · by_cases hc : bufferOffset+tokenExtent ≤ m.runtime.config.tokenCapacity
        · by_cases hd : direction = .store → tokenExtent%lmcacheChunkSize = 0
          · exact absurd ⟨hs, ho, he, hc, hd⟩ ha
          · refine ⟨.staging .invalidConfig, ?_⟩
            simp only [bind_run, lift_run, read_run, require_of _ hs, require_of _ ho,
              require_of _ he, require_of _ hc, require_not _ hd]
        · refine ⟨.staging .invalidConfig, ?_⟩
          simp only [bind_run, lift_run, read_run, require_of _ hs, require_of _ ho,
            require_of _ he, require_not _ hc]
      · refine ⟨.staging .invalidConfig, ?_⟩
        simp only [bind_run, lift_run, read_run, require_of _ hs, require_of _ ho,
          require_not _ he]
    · refine ⟨.staging .invalidConfig, ?_⟩
      simp only [bind_run, lift_run, read_run, require_of _ hs, require_not _ ho]
  · refine ⟨.staging .invalidState, ?_⟩
    simp only [bind_run, lift_run, read_run, require_not _ hs]

end

end

/-! ## Releasing and closing -/

/-- A failed call leaves the runtime or marks it. -/
def Unfinished (r : StagingRuntime) (known : Bool) (m : Machine) : Prop :=
  (m.runtime = r ∨ m.runtime = r.markFailed) ∧ exposed m.log = known

section
variable {α : Type} {r : StagingRuntime} {known : Bool} {code : StagingErrorCode}
  {pre : Machine → Prop}

theorem wrapping_any {body : StagingCall α} {post : α → Machine → Prop}
    (h : Triple pre body post (fun _ => At r known)) :
    Triple pre (wrapping code body) post (fun _ => At r known) := by
  apply triple_of_outcome
  intro m hm
  unfold wrapping
  obtain ⟨a, m', hb, hp⟩ | ⟨e, m', hb, hat⟩ := h.outcome hm
  · rw [hb]
    exact .inl ⟨a, m', rfl, hp⟩
  · rw [hb]
    cases e with
    | staging code' => exact .inr ⟨_, m', rfl, hat⟩
    | exception => exact .inr ⟨_, m', rfl, hat⟩
    | interrupt => exact .inr ⟨_, m', rfl, hat⟩

theorem marking_any {body : StagingCall α} {post : α → Machine → Prop}
    (h : Triple pre body post (fun _ => At r known)) :
    Triple pre (marking body) post (fun _ => Unfinished r known) := by
  apply triple_of_outcome
  intro m hm
  unfold marking
  obtain ⟨a, m', hb, hp⟩ | ⟨e, m', hb, hr, hk⟩ := h.outcome hm
  · rw [hb]
    exact .inl ⟨a, m', rfl, hp⟩
  · rw [hb]
    cases e with
    | staging code' =>
      exact .inr ⟨_, _, rfl, .inr (congrArg StagingRuntime.markFailed hr), hk⟩
    | exception => exact .inr ⟨_, m', rfl, .inl hr, hk⟩
    | interrupt => exact .inr ⟨_, m', rfl, .inl hr, hk⟩

theorem suppressing_any {body : StagingCall PUnit}
    (h : Triple pre body (fun _ => At r known) (fun _ => At r known)) :
    Triple pre (suppressing body) (fun _ => At r known) (fun _ => At r known) := by
  apply triple_of_outcome
  intro m hm
  unfold suppressing
  obtain ⟨a, m', hb, hat⟩ | ⟨e, m', hb, hat⟩ := h.outcome hm
  · rw [hb]
    exact .inl ⟨a, m', rfl, hat⟩
  · rw [hb]
    cases e with
    | staging code' => exact .inl ⟨_, m', rfl, hat⟩
    | exception => exact .inl ⟨_, m', rfl, hat⟩
    | interrupt => exact .inr ⟨_, m', rfl, hat⟩

theorem perform_any {op : Operation} {answer : Except Raised α}
    (hr : op ≠ .registerStagingBuffer) (hu : op ≠ .unregisterStagingBuffer) :
    Triple (At r known) (perform op answer) (fun _ => At r known) (fun _ => At r known) :=
  (perform_spec hr hu).mono (fun _ h => h) (fun _ _ h => h.1) fun _ _ h => h.1

theorem unregister_spec {answer : Except Raised α} :
    Triple (At r known) (perform .unregisterStagingBuffer answer) (fun _ => At r false)
      (fun _ => At r known) := by
  apply triple_of_outcome
  rintro m ⟨rfl, rfl⟩
  have hlog := exposed_unregister m.log answer.toBool
  rw [perform_run]
  cases answer with
  | ok a => exact .inl ⟨a, _, rfl, rfl, hlog⟩
  | error e => exact .inr ⟨e, _, rfl, rfl, hlog⟩

theorem release_spec (how : BodyEnd) (a : Answers) :
    Triple (At r known) (release how a) (fun _ => At { r with state := .registered } known)
      (fun _ => Unfinished r known) := by
  have hsuppressed : Triple (At r known)
      (suppressing (perform .synchronizeDevice a.synchronizeDevice)) (fun _ => At r known)
      (fun _ => Unfinished r known) :=
    (suppressing_any (perform_any (by decide) (by decide))).mono (fun _ h => h)
      (fun _ _ h => h) fun _ _ h => ⟨.inl h.1, h.2⟩
  cases how with
  | returned =>
    refine triple_bind (marking_any (wrapping_any ?_)) fun _ => update_spec _
    exact triple_bind (perform_any (by decide) (by decide)) fun _ => triple_pure fun _ h => h
  | raised =>
    refine triple_bind hsuppressed fun _ => triple_bind (update_spec _) fun _ => ?_
    exact triple_raise fun _ h => ⟨.inr h.1, h.2⟩
  | abandoned =>
    refine triple_bind hsuppressed fun _ => triple_bind (update_spec _) fun _ => ?_
    exact triple_raise fun _ h => ⟨.inr h.1, h.2⟩

/-- The runtime has released its owners, and the server does not know the tensor. -/
def Closed (m : Machine) : Prop :=
  m.runtime.state = .closed ∧ m.runtime.registrationMayExist = false ∧ exposed m.log = false

theorem closeStaging_spec (hs : r.state ≠ .closed) (ht : r.state ≠ .transferActive)
    (hk : r.registrationMayExist = known) (a : Answers) :
    Triple (At r known) (closeStaging a) (fun _ => Closed) (fun _ => Unfinished r known) := by
  have hrelease : Triple (At r known) (do
      if r.registrationMayExist then do
        marking (wrapping .unregisterFailed
          (perform .unregisterStagingBuffer a.unregisterStagingBuffer))
        update (fun r => { r with registrationMayExist := false })
      update StagingRuntime.released) (fun _ => Closed) (fun _ => Unfinished r known) := by
    apply triple_ite
    · intro _
      refine triple_bind (marking_any (wrapping_any unregister_spec)) fun _ => ?_
      refine triple_bind (update_spec _) fun _ => ?_
      exact (update_spec _).mono (fun _ h => h) (fun _ m h => ⟨by rw [h.1]; rfl, by rw [h.1]; rfl,
        h.2⟩) fun _ _ h => h
    · intro hreg
      have hfalse : r.registrationMayExist = false := Bool.eq_false_iff.mpr hreg
      exact (update_spec _).mono (fun _ h => h) (fun _ m h => ⟨by rw [h.1]; rfl,
        by rw [h.1]; exact hfalse, h.2.trans (hk.symm.trans hfalse)⟩) fun _ _ h => h
  apply triple_readAt
  intro m hm
  rw [hm]
  cases hst : r.state with
  | closed => exact absurd hst hs
  | transferActive => exact absurd hst ht
  | created => exact hrelease
  | registered => exact hrelease
  | failed => exact hrelease

end

/-! ## What one call does -/

structure Kept (w : World) : Prop where
  known : exposed w.machine.log = w.machine.runtime.registrationMayExist
  fresh : w.machine.runtime.state = .created → w.machine.runtime.tensor = none ∧
    w.machine.runtime.wrapper = none ∧ w.machine.runtime.event = none ∧
    w.machine.runtime.registrationMayExist = false
  ready : w.machine.runtime.state = .registered ∨ w.machine.runtime.state = .transferActive →
    w.machine.runtime.tensor.isSome ∧ w.exported.isSome ∧
      w.machine.runtime.eventHandle = w.exported
  leased : w.lease.isSome → w.machine.runtime.state = .transferActive
  failedOut : w.failed → w.lease = none ∧ w.machine.runtime.state ≠ .created ∧
    w.machine.runtime.state ≠ .registered
  closedOut : w.closed → w.machine.runtime.state = .closed
  released : w.machine.runtime.state = .closed → w.machine.runtime.registrationMayExist = false

inductive Does (w : World) : RuntimeCall → Except Raised Given → World → Prop
  | refused {c : RuntimeCall} {e : Raised} (hc : ∀ a, c = .close a →
      w.machine.runtime.state = .transferActive ∧ e = .staging .invalidState) :
      Does w c (.error e) w
  | absent {how : BodyEnd} {a : Answers} : Does w (.release how a) (.ok .nothing) w
  | opened {a : Answers} {t : ℕ} {m : Machine} (hs : w.machine.runtime.state = .created)
      (hm : Opened w.machine.runtime a t m) :
      Does w (.openStaging a) (.ok (.tensor t))
        { w with machine := m, exported := a.eventIpcHandle.toOption }
  | openFailed {a : Answers} {e : Raised} {m : Machine}
      (hs : w.machine.runtime.state = .created) (hm : Broken m) :
      Does w (.openStaging a) (.error e) { w with machine := m, failed := true }
  | handed {t : ℕ} (hs : w.machine.runtime.state = .registered) :
      Does w .tensor (.ok (.tensor t)) w
  | leased {direction : StagingTransferDirection} {bufferOffset tokenExtent : ℤ} {a : Answers}
      {l : StagingTransferLease} {m : Machine}
      (hs : w.machine.runtime.state = .registered)
      (hm : Leased w.machine.runtime (exposed w.machine.log) l m) :
      Does w (.acquire direction bufferOffset tokenExtent a) (.ok (.lease l))
        { w with machine := m, lease := some l }
  | leaseFailed {direction : StagingTransferDirection} {bufferOffset tokenExtent : ℤ}
      {a : Answers} {e : Raised} {m : Machine} (hs : w.machine.runtime.state = .registered)
      (hm : At w.machine.runtime.markFailed (exposed w.machine.log) m) :
      Does w (.acquire direction bufferOffset tokenExtent a) (.error e)
        { w with machine := m, failed := true }
  | released {how : BodyEnd} {a : Answers} {m : Machine} (hl : w.lease.isSome)
      (hm : At { w.machine.runtime with state := .registered } (exposed w.machine.log) m) :
      Does w (.release how a) (.ok .nothing) { w with machine := m, lease := none }
  | releaseFailed {how : BodyEnd} {a : Answers} {e : Raised} {m : Machine} (hl : w.lease.isSome)
      (hm : Unfinished w.machine.runtime (exposed w.machine.log) m) :
      Does w (.release how a) (.error e) { w with machine := m, lease := none, failed := true }
  | closedAgain {a : Answers} (hs : w.machine.runtime.state = .closed) :
      Does w (.close a) (.ok .nothing) { w with closed := true }
  | closed {a : Answers} {m : Machine} (hs : w.machine.runtime.state ≠ .closed)
      (ht : w.machine.runtime.state ≠ .transferActive) (hm : Closed m) :
      Does w (.close a) (.ok .nothing) { w with machine := m, closed := true }
  | closeFailed {a : Answers} {e : Raised} {m : Machine} (hs : w.machine.runtime.state ≠ .closed)
      (ht : w.machine.runtime.state ≠ .transferActive)
      (hm : Unfinished w.machine.runtime (exposed w.machine.log) m) :
      Does w (.close a) (.error e) { w with machine := m }

section
variable {w : World} {a : Answers}

theorem step_openStaging (hk : Kept w) (hq : Quiet a) :
    Does w (.openStaging a) (step w (.openStaging a)).1 (step w (.openStaging a)).2 := by
  unfold step
  dsimp only
  by_cases hs : w.machine.runtime.state = .created
  · obtain ⟨_, _, _, hreg⟩ := hk.fresh hs
    have hat : At w.machine.runtime false w.machine := ⟨rfl, hk.known.trans hreg⟩
    obtain ⟨t, m, hrun, hm⟩ | ⟨e, m, hrun, hm⟩ := (openStaging_spec hs hreg hq).outcome hat
    · rw [hrun]
      exact .opened hs hm
    · rw [hrun]
      dsimp only
      rw [decide_eq_true hs, Bool.or_true]
      exact .openFailed hs hm
  · have hrun : openStaging a w.machine = (.error (.staging .invalidState), w.machine) := by
      unfold openStaging requireState check
      simp only [bind_run, lift_run, read_run, require_not _ hs]
    rw [hrun]
    dsimp only
    rw [decide_eq_false hs, Bool.or_false]
    apply Does.refused
    intro _ h
    cases h

theorem step_tensor (hk : Kept w) : Does w .tensor (step w .tensor).1 (step w .tensor).2 := by
  unfold step
  dsimp only
  by_cases hs : w.machine.runtime.state = .registered
  · obtain ⟨t, ht⟩ := Option.isSome_iff_exists.mp (hk.ready (.inl hs)).1
    have hrun : stagingTensor w.machine = (.ok t, w.machine) := by
      unfold stagingTensor requireState check
      simp only [bind_run, lift_run, read_run, require_of _ hs]
      rw [ht]
      rfl
    rw [hrun]
    exact .handed hs
  · have hrun : stagingTensor w.machine = (.error (.staging .invalidState), w.machine) := by
      unfold stagingTensor requireState check
      simp only [bind_run, lift_run, read_run, require_not _ hs]
    rw [hrun]
    apply Does.refused
    intro _ h
    cases h

theorem step_acquire (direction : StagingTransferDirection) (bufferOffset tokenExtent : ℤ)
    (hq : Quiet a) : Does w (.acquire direction bufferOffset tokenExtent a)
      (step w (.acquire direction bufferOffset tokenExtent a)).1
      (step w (.acquire direction bufferOffset tokenExtent a)).2 := by
  unfold step
  dsimp only
  by_cases ha : Accepted w.machine.runtime direction bufferOffset tokenExtent
  · have hat : At w.machine.runtime (exposed w.machine.log) w.machine := ⟨rfl, rfl⟩
    obtain ⟨l, m, hrun, hm⟩ | ⟨e, m, hrun, hm⟩ := (acquire_spec ha hq).outcome hat
    · rw [hrun]
      exact .leased ha.1 hm
    · rw [hrun]
      dsimp only
      rw [decide_eq_true ha, Bool.or_true]
      exact .leaseFailed ha.1 hm
  · obtain ⟨e, hrun⟩ := acquire_refused (a := a) ha
    rw [hrun]
    dsimp only
    rw [decide_eq_false ha, Bool.or_false]
    apply Does.refused
    intro _ h
    cases h

theorem step_release (how : BodyEnd) (a : Answers) :
    Does w (.release how a) (step w (.release how a)).1 (step w (.release how a)).2 := by
  unfold step
  dsimp only
  split_ifs with hl
  · exact .absent
  · have hsome : w.lease.isSome := by
      rw [Option.isNone_iff_eq_none] at hl
      exact Option.isSome_iff_ne_none.mpr hl
    have hat : At w.machine.runtime (exposed w.machine.log) w.machine := ⟨rfl, rfl⟩
    obtain ⟨u, m, hrun, hm⟩ | ⟨e, m, hrun, hm⟩ := (release_spec how a).outcome hat
    · rw [hrun]
      exact .released hsome hm
    · rw [hrun]
      exact .releaseFailed hsome hm

theorem step_close (hk : Kept w) (a : Answers) :
    Does w (.close a) (step w (.close a)).1 (step w (.close a)).2 := by
  unfold step
  dsimp only
  by_cases hs : w.machine.runtime.state = .closed
  · have hrun : closeStaging a w.machine = (.ok ⟨⟩, w.machine) := by
      unfold closeStaging
      rw [read_bind, hs]
      rfl
    rw [hrun]
    exact .closedAgain hs
  · by_cases ht : w.machine.runtime.state = .transferActive
    · have hrun : closeStaging a w.machine = (.error (.staging .invalidState), w.machine) := by
        unfold closeStaging
        rw [read_bind, ht]
        rfl
      rw [hrun]
      exact .refused fun _ _ => ⟨ht, rfl⟩
    · have hat : At w.machine.runtime (exposed w.machine.log) w.machine := ⟨rfl, rfl⟩
      obtain ⟨u, m, hrun, hm⟩ | ⟨e, m, hrun, hm⟩ :=
        (closeStaging_spec hs ht hk.known.symm a).outcome hat
      · rw [hrun]
        exact .closed hs ht hm
      · rw [hrun]
        exact .closeFailed hs ht hm

theorem step_does (hk : Kept w) (c : RuntimeCall) (hc : Caught c) :
    Does w c (step w c).1 (step w c).2 := by
  cases c with
  | openStaging a => exact step_openStaging hk hc
  | tensor => exact step_tensor hk
  | acquire direction bufferOffset tokenExtent a =>
    exact step_acquire direction bufferOffset tokenExtent hc
  | release how a => exact step_release how a
  | close a => exact step_close hk a

end

/-! ## What runs keep -/

section
variable {w w' : World} {c : RuntimeCall} {x : Except Raised Given}

theorem unfinished_cases {r : StagingRuntime} {known : Bool} {m : Machine} (hs : r.state ≠ .closed)
    (h : Unfinished r known m) : ∃ state, (state = r.state ∨ state = .failed) ∧
      m.runtime = { r with state := state } ∧ exposed m.log = known := by
  obtain ⟨hr | hr, hl⟩ := h
  · exact ⟨r.state, .inl rfl, hr, hl⟩
  · rw [markFailed_state hs] at hr
    exact ⟨.failed, .inr rfl, hr, hl⟩

theorem not_leased (hk : Kept w) (hs : w.machine.runtime.state ≠ .transferActive) :
    w.lease = none := by
  by_contra hl
  exact hs (hk.leased (Option.isSome_iff_ne_none.mpr hl))

theorem not_failed (hk : Kept w) (hs : w.machine.runtime.state = .created ∨
    w.machine.runtime.state = .registered) : w.failed = false := by
  by_contra hf
  obtain ⟨_, hcreated, hregistered⟩ := hk.failedOut (Bool.eq_true_of_not_eq_false hf)
  obtain hs | hs := hs
  · exact hcreated hs
  · exact hregistered hs

theorem kept_does (hk : Kept w) (hd : Does w c x w') : Kept w' := by
  cases hd with
  | refused => exact hk
  | absent => exact hk
  | handed => exact hk
  | @opened a t m hs hm =>
    obtain ⟨hlog, wrapper, event, handle, hhandle, hr⟩ := hm
    have hlease := not_leased hk (by rw [hs]; decide)
    have hfailed := not_failed hk (.inl hs)
    refine ⟨?_, ?_, ?_, ?_, ?_, ?_, ?_⟩ <;> dsimp only <;> rw [hr]
    · exact hlog
    · nofun
    · rw [hhandle]
      exact fun _ => ⟨rfl, rfl, rfl⟩
    · rw [hlease]
      nofun
    · rw [hfailed]
      nofun
    · intro hc
      rw [hk.closedOut hc] at hs
      cases hs
    · nofun
  | @openFailed a e m hs hm =>
    obtain ⟨hstate, hlog⟩ := hm
    have hlease := not_leased hk (by rw [hs]; decide)
    refine ⟨hlog, ?_, ?_, ?_, ?_, ?_, ?_⟩ <;> dsimp only <;> rw [hstate]
    · nofun
    · rintro (h | h) <;> cases h
    · rw [hlease]
      nofun
    · exact fun _ => ⟨hlease, nofun, nofun⟩
    · intro hc
      rw [hk.closedOut hc] at hs
      cases hs
    · nofun
  | @leased _ _ _ a l m hs hm =>
    obtain ⟨⟨hr, hlog⟩, _⟩ := hm
    have hfailed := not_failed hk (.inr hs)
    refine ⟨?_, ?_, ?_, ?_, ?_, ?_, ?_⟩ <;> dsimp only <;> rw [hr]
    · exact hlog.trans hk.known
    · nofun
    · exact fun _ => hk.ready (.inl hs)
    · exact fun _ => rfl
    · rw [hfailed]
      nofun
    · intro hc
      rw [hk.closedOut hc] at hs
      cases hs
    · nofun
  | @leaseFailed _ _ _ a e m hs hm =>
    obtain ⟨hr, hlog⟩ := hm
    rw [markFailed_state (by rw [hs]; decide)] at hr
    have hlease := not_leased hk (by rw [hs]; decide)
    refine ⟨?_, ?_, ?_, ?_, ?_, ?_, ?_⟩ <;> dsimp only <;> rw [hr]
    · exact hlog.trans hk.known
    · nofun
    · rintro (h | h) <;> cases h
    · rw [hlease]
      nofun
    · exact fun _ => ⟨hlease, nofun, nofun⟩
    · intro hc
      rw [hk.closedOut hc] at hs
      cases hs
    · nofun
  | @released how a m hl hm =>
    obtain ⟨hr, hlog⟩ := hm
    have hs := hk.leased hl
    refine ⟨?_, ?_, ?_, ?_, ?_, ?_, ?_⟩ <;> dsimp only <;> rw [hr]
    · exact hlog.trans hk.known
    · nofun
    · exact fun _ => hk.ready (.inr hs)
    · nofun
    · intro hf
      rw [(hk.failedOut hf).1] at hl
      cases hl
    · intro hc
      rw [hk.closedOut hc] at hs
      cases hs
    · nofun
  | @releaseFailed how a e m hl hm =>
    have hs := hk.leased hl
    obtain ⟨state, hstate, hr, hlog⟩ := unfinished_cases (by rw [hs]; decide) hm
    have hout : state = .transferActive ∨ state = .failed := hs ▸ hstate
    refine ⟨?_, ?_, ?_, ?_, ?_, ?_, ?_⟩ <;> dsimp only <;> rw [hr]
    · exact hlog.trans hk.known
    · rintro rfl
      obtain h | h := hout <;> cases h
    · exact fun _ => hk.ready (.inr hs)
    · nofun
    · intro _
      refine ⟨rfl, ?_, ?_⟩
      · rintro rfl
        obtain h | h := hout <;> cases h
      · rintro rfl
        obtain h | h := hout <;> cases h
    · intro hc
      rw [hk.closedOut hc] at hs
      cases hs
    · rintro rfl
      obtain h | h := hout <;> cases h
  | closedAgain hs =>
    exact ⟨hk.known, hk.fresh, hk.ready, hk.leased, hk.failedOut, fun _ => hs, hk.released⟩
  | @closed a m hs ht hm =>
    obtain ⟨hstate, hreg, hlog⟩ := hm
    have hlease := not_leased hk ht
    refine ⟨hlog.trans hreg.symm, ?_, ?_, ?_, ?_, fun _ => hstate, fun _ => hreg⟩ <;>
      dsimp only <;> rw [hstate]
    · nofun
    · rintro (h | h) <;> cases h
    · rw [hlease]
      nofun
    · exact fun _ => ⟨hlease, nofun, nofun⟩
  | @closeFailed a e m hs ht hm =>
    obtain ⟨state, hstate, hr, hlog⟩ := unfinished_cases hs hm
    have hlease := not_leased hk ht
    refine ⟨?_, ?_, ?_, ?_, ?_, ?_, ?_⟩ <;> dsimp only <;> rw [hr]
    · exact hlog.trans hk.known
    · rintro rfl
      obtain h | h := hstate
      · exact hk.fresh h.symm
      · cases h
    · rintro (rfl | rfl)
      · obtain h | h := hstate
        · exact hk.ready (.inl h.symm)
        · cases h
      · obtain h | h := hstate
        · exact absurd h.symm ht
        · cases h
    · rw [hlease]
      nofun
    · intro hf
      obtain ⟨_, hcreated, hregistered⟩ := hk.failedOut hf
      refine ⟨hlease, ?_, ?_⟩
      · rintro rfl
        obtain h | h := hstate
        · exact hcreated h.symm
        · cases h
      · rintro rfl
        obtain h | h := hstate
        · exact hregistered h.symm
        · cases h
    · exact fun hc => absurd (hk.closedOut hc) hs
    · rintro rfl
      obtain h | h := hstate
      · exact absurd h.symm hs
      · cases h

theorem kept_initial (config : StagingConfig) : Kept (World.initial config) := by
  refine ⟨rfl, fun _ => ⟨rfl, rfl, rfl, rfl⟩, ?_, nofun, nofun, nofun, nofun⟩
  rintro (h | h) <;> cases h

theorem kept_after (config : StagingConfig) (calls : List RuntimeCall)
    (h : ∀ c ∈ calls, Caught c) : Kept (after config calls) := by
  induction calls using List.reverseRecOn with
  | nil => exact kept_initial config
  | append_singleton calls c ih =>
    unfold after
    rw [List.foldl_concat]
    have hk := ih fun c' hc' => h c' (List.mem_append_left _ hc')
    exact kept_does hk (step_does hk c (h c (List.mem_append_right _ List.mem_cons_self)))

theorem not_drops {r r' : StagingRuntime} (ht : r'.tensor = r.tensor)
    (hw : r'.wrapper = r.wrapper) (he : r'.event = r.event) : ¬Drops r r' := by
  rintro (⟨_, h⟩ | ⟨_, h⟩ | ⟨_, h⟩)
  · exact h ht
  · exact h hw
  · exact h he

theorem dropped_does (hk : Kept w) (hd : Does w c x w')
    (h : Drops w.machine.runtime w'.machine.runtime) : exposed w'.machine.log = false := by
  have hfresh :
      w.machine.runtime.state = .created → ¬Drops w.machine.runtime w'.machine.runtime := by
    intro hs
    obtain ⟨ht, hw, he, _⟩ := hk.fresh hs
    rintro (⟨h, _⟩ | ⟨h, _⟩ | ⟨h, _⟩)
    · rw [ht] at h
      cases h
    · rw [hw] at h
      cases h
    · rw [he] at h
      cases h
  cases hd with
  | refused => exact absurd h (not_drops rfl rfl rfl)
  | absent => exact absurd h (not_drops rfl rfl rfl)
  | handed => exact absurd h (not_drops rfl rfl rfl)
  | closedAgain => exact absurd h (not_drops rfl rfl rfl)
  | opened hs => exact absurd h (hfresh hs)
  | openFailed hs => exact absurd h (hfresh hs)
  | leased _ hm =>
    dsimp only at h
    rw [hm.1.1] at h
    exact absurd h (not_drops rfl rfl rfl)
  | leaseFailed hs hm =>
    dsimp only at h
    rw [hm.1, markFailed_state (by rw [hs]; decide)] at h
    exact absurd h (not_drops rfl rfl rfl)
  | released _ hm =>
    dsimp only at h
    rw [hm.1] at h
    exact absurd h (not_drops rfl rfl rfl)
  | releaseFailed hl hm =>
    obtain ⟨state, _, hr, _⟩ := unfinished_cases (by rw [hk.leased hl]; decide) hm
    dsimp only at h
    rw [hr] at h
    exact absurd h (not_drops rfl rfl rfl)
  | closed _ _ hm => exact hm.2.2
  | closeFailed hs _ hm =>
    obtain ⟨state, _, hr, _⟩ := unfinished_cases hs hm
    dsimp only at h
    rw [hr] at h
    exact absurd h (not_drops rfl rfl rfl)

theorem silent_does (hk : Kept w) (hd : Does w c x w') (hc : w.closed) :
    w'.machine.log = w.machine.log := by
  have hs := hk.closedOut hc
  cases hd with
  | refused => rfl
  | absent => rfl
  | handed => rfl
  | closedAgain => rfl
  | opened h => rw [hs] at h; cases h
  | openFailed h => rw [hs] at h; cases h
  | leased h => rw [hs] at h; cases h
  | leaseFailed h => rw [hs] at h; cases h
  | released hl => rw [hk.leased hl] at hs; cases hs
  | releaseFailed hl => rw [hk.leased hl] at hs; cases hs
  | closed h => exact absurd hs h
  | closeFailed h => exact absurd hs h

theorem owned_does (hk : Kept w) (hd : Does w c x w') : Owned w c x w' := by
  refine ⟨dropped_does hk hd, ?_, ?_, ?_, silent_does hk hd⟩
  · rintro l rfl
    cases hd with
    | leased hs hm =>
      obtain ⟨_, hexported, hhandle⟩ := hk.ready (.inl hs)
      obtain ⟨handle, he⟩ := Option.isSome_iff_exists.mp hexported
      refine ⟨hs, not_leased hk (by rw [hs]; decide), hm.2.1, ?_⟩
      rw [he, hm.2.2 handle (hhandle.trans he)]
  · rintro t rfl
    cases hd with
    | opened hs => exact ⟨not_leased hk (by rw [hs]; decide), not_failed hk (.inl hs)⟩
    | handed hs => exact ⟨not_leased hk (by rw [hs]; decide), not_failed hk (.inr hs)⟩
  · rintro a rfl hl
    have ht := hk.leased hl
    cases hd with
    | refused hc => exact ⟨congrArg Except.error (hc a rfl).2, rfl⟩
    | closedAgain hs => rw [ht] at hs; cases hs
    | closed _ h => exact absurd ht h
    | closeFailed _ h => exact absurd ht h

end

/-- In a run whose opens and acquisitions raise no exception that passes
`except Exception`, every call owns staging. -/
theorem staging_owned (config : StagingConfig) (calls : List RuntimeCall)
    (h : ∀ c ∈ calls, Caught c) (before rest : List RuntimeCall) (c : RuntimeCall)
    (hc : calls = before ++ c::rest) :
    Owned (after config before) c (step (after config before) c).1
      (step (after config before) c).2 := by
  rw [hc] at h
  have hk := kept_after config before fun c' hc' => h c' (List.mem_append_left _ hc')
  have hcaught := h c (List.mem_append_right _ List.mem_cons_self)
  exact owned_does hk (step_does hk c hcaught)

/-! ## An interrupted registration -/

def smallConfig : StagingConfig where
  instanceId := 0
  tokenCapacity := 256
  device := "cuda:0"
  chunked := by decide
  bounded := by decide

def answersFor (tensor : ℕ) : Answers where
  validateDevice := .ok ()
  allocate := .ok tensor
  tensorShape := .ok smallConfig.shape
  tensorDtypeName := .ok stagingDtype
  tensorDeviceName := .ok smallConfig.device
  tensorIsContiguous := .ok true
  tensorStorageOffset := .ok 0
  createInterprocessEvent := .ok (some 0)
  synchronizeDevice := .ok ()
  recordEvent := .ok ()
  synchronizeEvent := .ok ()
  eventIpcHandle := .ok [1]
  makeCudaIpcWrapper := .ok tensor
  wrapperShape := .ok smallConfig.shape
  wrapperDtypeName := .ok stagingDtype
  wrapperStorageOffset := .ok 0
  wrapperStride := .ok (contiguousStride smallConfig.shape)
  wrapperDeviceUuid := .ok "gpu"
  deviceUuid := .ok "gpu"
  wrapperHasHandle := .ok true
  registerStagingBuffer := .ok ()
  unregisterStagingBuffer := .ok ()

theorem answersFor_quiet (tensor : ℕ) : Quiet (answersFor tensor) := by
  constructor <;> nofun

/-- A close is refused while a lease is out, the body of the lease raises, and then the close
goes through. -/
def failedTransfer : List RuntimeCall :=
  [.openStaging (answersFor 0), .acquire .retrieve 0 256 (answersFor 0), .close (answersFor 0),
    .release .raised (answersFor 0), .close (answersFor 0)]

theorem failedTransfer_caught : ∀ c ∈ failedTransfer, Caught c := by
  intro c hc
  simp only [failedTransfer, List.mem_cons, List.not_mem_nil, or_false] at hc
  rcases hc with rfl | rfl | rfl | rfl | rfl
  · exact answersFor_quiet 0
  · exact answersFor_quiet 0
  · trivial
  · trivial
  · trivial

/-- The tensor stays with the runtime while the server may know it, through the refused close
and the failed body, and is dropped by the last close. -/
theorem failed_transfer_owned :
    (∀ before c rest, failedTransfer = before ++ c::rest → Owned (after smallConfig before) c
      (step (after smallConfig before) c).1 (step (after smallConfig before) c).2) ∧
    (after smallConfig (failedTransfer.take 3)).lease.isSome = true ∧
    (after smallConfig (failedTransfer.take 4)).failed = true ∧
    (after smallConfig (failedTransfer.take 4)).machine.runtime.tensor = some 0 ∧
    exposed (after smallConfig (failedTransfer.take 4)).machine.log = true ∧
    (after smallConfig failedTransfer).closed = true ∧
    (after smallConfig failedTransfer).machine.runtime.tensor = none ∧
    exposed (after smallConfig failedTransfer).machine.log = false := by
  refine ⟨fun before c rest h => ?_, by decide +kernel⟩
  exact staging_owned smallConfig failedTransfer failedTransfer_caught before rest c h

def interruptedOpen : RuntimeCall :=
  .openStaging { answersFor 0 with registerStagingBuffer := .error .interrupt }

/-- A second open drops the tensor that the server may know. -/
theorem interrupted_open_drops :
    exposed (after smallConfig [interruptedOpen]).machine.log = true ∧
    (after smallConfig [interruptedOpen]).machine.runtime.tensor = some 0 ∧
    (step (after smallConfig [interruptedOpen])
      (.openStaging (answersFor 1))).2.machine.runtime.tensor = some 1 ∧
    ¬Owned (after smallConfig [interruptedOpen]) (.openStaging (answersFor 1))
      (step (after smallConfig [interruptedOpen]) (.openStaging (answersFor 1))).1
      (step (after smallConfig [interruptedOpen]) (.openStaging (answersFor 1))).2 := by
  have hknown : exposed (after smallConfig [interruptedOpen]).machine.log = true := by
    decide +kernel
  have hheld : (after smallConfig [interruptedOpen]).machine.runtime.tensor = some 0 := by
    decide +kernel
  have hreplaced : (step (after smallConfig [interruptedOpen])
      (.openStaging (answersFor 1))).2.machine.runtime.tensor = some 1 := by
    decide +kernel
  have hstill : exposed (step (after smallConfig [interruptedOpen])
      (.openStaging (answersFor 1))).2.machine.log = true := by
    decide +kernel
  refine ⟨hknown, hheld, hreplaced, fun h => ?_⟩
  have hexposed := h.dropped (.inl ⟨by rw [hheld]; rfl, by rw [hheld, hreplaced]; decide⟩)
  rw [hstill] at hexposed
  cases hexposed

end CacheBlend.StagingOwnership
