import CacheBlend.Bytes
import CacheBlend.Checks
import CacheBlend.HybridLayout
import CacheBlend.LmcacheTypes
import CacheBlend.WorkerClose

/-!
# The staging runtime

One tensor is allocated, wrapped, given an event and registered with the
server. A transfer leases it for one synchronous request. The backend and the
transport answer every call with a value or an exception, and the log keeps
the calls in their order.
-/

set_option autoImplicit false

namespace CacheBlend.StagingTransfers
open CacheBlend.HybridLayout CacheBlend.LmcacheTypes
open CacheBlend.WorkerClose (StagingState)

inductive StagingTransferDirection where
  | store
  | retrieve
  deriving DecidableEq

inductive StagingErrorCode where
  | invalidConfig
  | invalidState
  | cudaDeviceUnavailable
  | allocationFailed
  | invalidTensor
  | eventFailed
  | ipcWrapperFailed
  | registrationFailed
  | synchronizationFailed
  | transferFailed
  | unregisterFailed
  deriving DecidableEq

/-- What is raised: an error of staging, another `Exception`, or an exception
that `except Exception` lets through. -/
inductive Raised where
  | staging (code : StagingErrorCode)
  | exception
  | interrupt
  deriving DecidableEq

structure StagingConfig where
  instanceId : ℕ
  tokenCapacity : ℕ
  device : String
  chunked : lmcacheChunkSize ≤ tokenCapacity ∧ tokenCapacity%lmcacheChunkSize = 0
  bounded : tokenCapacity ≤ gptOssMaxContextTokens

def stagingDtype : String := "torch.bfloat16"

def StagingConfig.shape (c : StagingConfig) : List ℕ := [2, 24, c.tokenCapacity, 512]

def contiguousStride (shape : List ℕ) : List ℕ :=
  (shape.foldr (fun dimension (strides, stride) => (stride::strides, stride*dimension)) ([], 1)).1

def maxEventHandleBytes : ℕ := 16*1024

/-- The handles that pass `validate_event_handle`. -/
def ValidHandle (handle : Bytes) : Prop := handle ≠ [] ∧ handle.length ≤ maxEventHandleBytes

instance (handle : Bytes) : Decidable (ValidHandle handle) :=
  inferInstanceAs (Decidable (_ ∧ _))

structure StagingTransferLease where
  direction : StagingTransferDirection
  bufferOffset : ℕ
  tokenExtent : ℕ
  capacity : ℕ
  eventIpcHandle : Bytes
  nonempty : 1 ≤ tokenExtent ∧ 1 ≤ capacity
  placed : bufferOffset+tokenExtent ≤ capacity
  handle : ValidHandle eventIpcHandle

def StagingTransferLease.new (direction : StagingTransferDirection)
    (bufferOffset tokenExtent capacity : ℕ) (eventIpcHandle : Bytes) :
    Except Raised StagingTransferLease :=
  if hn : 1 ≤ tokenExtent ∧ 1 ≤ capacity then
    if hp : bufferOffset+tokenExtent ≤ capacity then
      if hh : ValidHandle eventIpcHandle then
        .ok ⟨direction, bufferOffset, tokenExtent, capacity, eventIpcHandle, hn, hp, hh⟩
      else .error .exception
    else .error (.staging .invalidConfig)
  else .error (.staging .invalidConfig)

/-! ## Calls of the backend and the transport -/

inductive Operation where
  | validateDevice
  | allocate
  | tensorShape
  | tensorDtypeName
  | tensorDeviceName
  | tensorIsContiguous
  | tensorStorageOffset
  | createInterprocessEvent
  | synchronizeDevice
  | recordEvent
  | synchronizeEvent
  | eventIpcHandle
  | makeCudaIpcWrapper
  | wrapperShape
  | wrapperDtypeName
  | wrapperStorageOffset
  | wrapperStride
  | wrapperDeviceUuid
  | deviceUuid
  | wrapperHasHandle
  | registerStagingBuffer
  | unregisterStagingBuffer
  deriving DecidableEq

/-- What the backend and the transport answer during one call of the runtime.
Tensors, wrappers and events are known by their identities. -/
structure Answers where
  validateDevice : Except Raised Unit
  allocate : Except Raised ℕ
  tensorShape : Except Raised (List ℕ)
  tensorDtypeName : Except Raised String
  tensorDeviceName : Except Raised String
  tensorIsContiguous : Except Raised Bool
  tensorStorageOffset : Except Raised ℤ
  createInterprocessEvent : Except Raised (Option ℕ)
  synchronizeDevice : Except Raised Unit
  recordEvent : Except Raised Unit
  synchronizeEvent : Except Raised Unit
  eventIpcHandle : Except Raised Bytes
  makeCudaIpcWrapper : Except Raised ℕ
  wrapperShape : Except Raised (List ℕ)
  wrapperDtypeName : Except Raised String
  wrapperStorageOffset : Except Raised ℤ
  wrapperStride : Except Raised (List ℕ)
  wrapperDeviceUuid : Except Raised String
  deviceUuid : Except Raised String
  wrapperHasHandle : Except Raised Bool
  registerStagingBuffer : Except Raised Unit
  unregisterStagingBuffer : Except Raised Unit

structure StagingRuntime where
  config : StagingConfig
  state : StagingState
  tensor : Option ℕ
  wrapper : Option ℕ
  event : Option ℕ
  eventHandle : Option Bytes
  registrationMayExist : Bool

def StagingRuntime.new (config : StagingConfig) : StagingRuntime :=
  ⟨config, .created, none, none, none, none, false⟩

/-- `_mark_failed`. -/
def StagingRuntime.markFailed (r : StagingRuntime) : StagingRuntime :=
  if r.state = .closed then r else { r with state := .failed }

/-- The runtime and the calls made so far, each with whether it returned. -/
structure Machine where
  runtime : StagingRuntime
  log : List (Operation × Bool)

abbrev StagingCall (α : Type) := Call Machine Raised α

section
variable {α : Type}

def perform (op : Operation) (answer : Except Raised α) : StagingCall α := do
  Call.modify (fun m => { m with log := m.log ++ [(op, answer.toBool)] })
  Call.lift answer

def update (f : StagingRuntime → StagingRuntime) : StagingCall PUnit :=
  Call.modify (fun m => { m with runtime := f m.runtime })

/-- `except StagingError`: the runtime is marked and the error raised again. -/
def marking (body : StagingCall α) : StagingCall α := fun m =>
  match body m with
  | (.error (.staging code), m') =>
    (.error (.staging code), { m' with runtime := m'.runtime.markFailed })
  | result => result

/-- `except Exception`: what is raised is replaced by an error of the code. -/
def wrapping (code : StagingErrorCode) (body : StagingCall α) : StagingCall α := fun m =>
  match body m with
  | (.error .exception, m') => (.error (.staging code), m')
  | (.error (.staging _), m') => (.error (.staging code), m')
  | result => result

def translating (code : StagingErrorCode) (body : StagingCall α) : StagingCall α := fun m =>
  match body m with
  | (.error .exception, m') => (.error (.staging code), m')
  | result => result

/-- `suppress(Exception)`. -/
def suppressing (body : StagingCall PUnit) : StagingCall PUnit := fun m =>
  match body m with
  | (.error .exception, m') => (.ok ⟨⟩, m')
  | (.error (.staging _), m') => (.ok ⟨⟩, m')
  | result => result

def check (p : Prop) [Decidable p] (code : StagingErrorCode) : StagingCall PUnit :=
  Call.lift (require p (.staging code))

def requireState (expected : StagingState) : StagingCall PUnit := do
  let m ← Call.read
  check (m.runtime.state = expected) .invalidState

end

/-! ## The calls of the runtime -/

def synchronizeDevice (a : Answers) : StagingCall PUnit :=
  wrapping .synchronizationFailed (do
    perform .synchronizeDevice a.synchronizeDevice
    pure ⟨⟩)

/-- `_validate_tensor`. -/
def validateTensor (a : Answers) : StagingCall PUnit := do
  let m ← Call.read
  let (shape, dtypeName, deviceName, contiguous, storageOffset) ←
    marking (wrapping .invalidTensor (do
      let shape ← perform .tensorShape a.tensorShape
      let dtypeName ← perform .tensorDtypeName a.tensorDtypeName
      let deviceName ← perform .tensorDeviceName a.tensorDeviceName
      let contiguous ← perform .tensorIsContiguous a.tensorIsContiguous
      let storageOffset ← perform .tensorStorageOffset a.tensorStorageOffset
      pure (shape, dtypeName, deviceName, contiguous, storageOffset)))
  marking (check (shape = m.runtime.config.shape ∧ dtypeName = stagingDtype ∧
    deviceName = m.runtime.config.device ∧ contiguous = true ∧ storageOffset = 0) .invalidTensor)

/-- `_validate_wrapper`. -/
def validateWrapper (a : Answers) : StagingCall PUnit := do
  let m ← Call.read
  let (shape, dtypeName, storageOffset, stride, wrapperUuid, expectedUuid, hasHandle) ←
    marking (wrapping .ipcWrapperFailed (do
      let shape ← perform .wrapperShape a.wrapperShape
      let dtypeName ← perform .wrapperDtypeName a.wrapperDtypeName
      let storageOffset ← perform .wrapperStorageOffset a.wrapperStorageOffset
      let stride ← perform .wrapperStride a.wrapperStride
      let wrapperUuid ← perform .wrapperDeviceUuid a.wrapperDeviceUuid
      let expectedUuid ← perform .deviceUuid a.deviceUuid
      let hasHandle ← perform .wrapperHasHandle a.wrapperHasHandle
      pure (shape, dtypeName, storageOffset, stride, wrapperUuid, expectedUuid, hasHandle)))
  marking (check (shape = m.runtime.config.shape ∧ dtypeName = stagingDtype ∧
    storageOffset = 0 ∧ stride = contiguousStride m.runtime.config.shape ∧ wrapperUuid ≠ "" ∧
    wrapperUuid = expectedUuid ∧ hasHandle = true) .ipcWrapperFailed)

/-- `_record_and_export_event`. -/
def recordAndExportEvent (a : Answers) (expectedHandle : Option Bytes) : StagingCall Bytes := do
  let m ← Call.read
  marking (check m.runtime.event.isSome .eventFailed)
  marking (synchronizeDevice a)
  let handle ← marking (wrapping .eventFailed (do
    perform .recordEvent a.recordEvent
    perform .synchronizeEvent a.synchronizeEvent
    let handle ← perform .eventIpcHandle a.eventIpcHandle
    Call.lift (require (ValidHandle handle) .exception)
    pure handle))
  marking (check (∀ expected ∈ expectedHandle, handle = expected) .eventFailed)
  pure handle

/-- `StagingRuntime.open`; a layout of a valid configuration is valid. -/
def openStaging (a : Answers) : StagingCall ℕ := do
  requireState .created
  marking (translating .cudaDeviceUnavailable (perform .validateDevice a.validateDevice))
  let tensor ← marking (wrapping .allocationFailed (perform .allocate a.allocate))
  update (fun r => { r with tensor := some tensor })
  validateTensor a
  let event ← marking (wrapping .eventFailed
    (perform .createInterprocessEvent a.createInterprocessEvent))
  update (fun r => { r with event := event })
  let handle ← recordAndExportEvent a none
  update (fun r => { r with eventHandle := some handle })
  let wrapper ← marking (wrapping .ipcWrapperFailed
    (perform .makeCudaIpcWrapper a.makeCudaIpcWrapper))
  update (fun r => { r with wrapper := some wrapper })
  validateWrapper a
  update (fun r => { r with registrationMayExist := true })
  marking (wrapping .registrationFailed
    (perform .registerStagingBuffer a.registerStagingBuffer))
  update (fun r => { r with state := .registered })
  pure tensor

/-- `StagingRuntime.tensor`. -/
def stagingTensor : StagingCall ℕ := do
  requireState .registered
  let m ← Call.read
  match m.runtime.tensor with
  | some tensor => pure tensor
  | none => marking (Call.raise (.staging .invalidState))

/-- `StagingRuntime.synchronous_transfer` up to the body. -/
def acquire (direction : StagingTransferDirection) (bufferOffset tokenExtent : ℤ) (a : Answers) :
    StagingCall StagingTransferLease := do
  requireState .registered
  let m ← Call.read
  check (0 ≤ bufferOffset) .invalidConfig
  check (1 ≤ tokenExtent) .invalidConfig
  check (bufferOffset+tokenExtent ≤ m.runtime.config.tokenCapacity) .invalidConfig
  check (direction = .store → tokenExtent%lmcacheChunkSize = 0) .invalidConfig
  let handle ← recordAndExportEvent a m.runtime.eventHandle
  let lease ← Call.lift (StagingTransferLease.new direction bufferOffset.toNat tokenExtent.toNat
    m.runtime.config.tokenCapacity handle)
  update (fun r => { r with state := .transferActive })
  pure lease

/-- How the body of a transfer ends: it returns, raises an `Exception`, or is
left by another exception, as an abandoned one is by `GeneratorExit`. -/
inductive BodyEnd where
  | returned
  | raised
  | abandoned
  deriving DecidableEq

/-- `StagingRuntime.synchronous_transfer` from the end of the body. -/
def release (how : BodyEnd) (a : Answers) : StagingCall PUnit :=
  match how with
  | .returned => do
    marking (synchronizeDevice a)
    update (fun r => { r with state := .registered })
  | .raised => do
    suppressing (perform .synchronizeDevice a.synchronizeDevice)
    update StagingRuntime.markFailed
    Call.raise (.staging .transferFailed)
  | .abandoned => do
    suppressing (perform .synchronizeDevice a.synchronizeDevice)
    update StagingRuntime.markFailed
    Call.raise .interrupt

def StagingRuntime.released (r : StagingRuntime) : StagingRuntime :=
  { r with tensor := none, wrapper := none, event := none, eventHandle := none, state := .closed }

/-- `StagingRuntime.close`. -/
def closeStaging (a : Answers) : StagingCall PUnit := do
  let m ← Call.read
  match m.runtime.state with
  | .closed => pure ⟨⟩
  | .transferActive => Call.raise (.staging .invalidState)
  | _ => do
    if m.runtime.registrationMayExist then do
      marking (wrapping .unregisterFailed
        (perform .unregisterStagingBuffer a.unregisterStagingBuffer))
      update (fun r => { r with registrationMayExist := false })
    update StagingRuntime.released

end CacheBlend.StagingTransfers
