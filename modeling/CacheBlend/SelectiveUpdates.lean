import CacheBlend.Calls
import CacheBlend.DataPlane
import CacheBlend.SelectiveCoverage

/-!
# Updates of the recomputed rows

The updater prepares the copies of all layers before it makes the first. The
session does the same work one layer at a time: it prepares and copies a layer
in each callback, and is closed by the first failure or by its end.
-/

set_option autoImplicit false

namespace CacheBlend.SelectiveUpdates
open CacheBlend.PlannerModels CacheBlend.ScatterSpans CacheBlend.SelectiveRows
open CacheBlend.SelectiveWrites
open CacheBlend.DataPlane (gptOssNumKvHeads gptOssHeadDim)

inductive SelectiveUpdateErrorCode where
  | invalidPlan
  | tensorSetMismatch
  | invalidSourceShape
  | invalidCacheShape
  | invalidView
  | dtypeMismatch
  | deviceMismatch
  | invalidDevice
  | slotMappingSetMismatch
  | invalidSlotMapping
  | slotMappingLengthMismatch
  | slotMappingValueMismatch
  | sessionInvalidState
  | sessionLayerOrderMismatch
  | sessionDuplicateLayer
  | sessionIncomplete
  | mutationFailed
  deriving DecidableEq

/-- What the preparation of a layer raises: an error of the updater, or the
error of a key that a mapping does not have. -/
inductive UpdateFault where
  | code (c : SelectiveUpdateErrorCode)
  | keyError
  deriving DecidableEq

/-- The operations on tensors, of which views are tensors too. Inspections and
views do not read rows, so they do not depend on the memory. -/
structure SelectiveCacheOps (τ μ φ : Type) where
  shape : τ → Except φ (List ℤ)
  dtypeName : τ → Except φ String
  deviceName : τ → Except φ String
  promptRows : τ → ℕ → ℕ → Except φ τ
  pagedRows : τ → ℕ → ℤ → ℤ → ℕ → Except φ τ
  copy : τ → τ → Call μ φ PUnit
  synchronize : τ → Call μ φ PUnit

structure SelectiveUpdateReceipt where
  recomputedTokenRows : ℕ
  cachedTokenRows : ℕ
  writeSpanCount : ℕ
  copiedKeyRows : ℕ
  copiedValueRows : ℕ
  sinksTouched : Bool := false
  deriving DecidableEq

structure PreparedUpdate (τ : Type) where
  destination : τ
  source : τ

structure PreparedLayer (τ : Type) where
  operations : List (PreparedUpdate τ)
  recomputedTokenRows : ℕ
  writeSpanCount : ℕ
  dtype : String
  device : String

/-- What one layer is updated from. A slot that is not an integer counts as a
negative one: both have the wrong value. -/
structure LayerInputs (τ : Type) where
  key : τ
  value : τ
  cache : τ
  slotMapping : List ℤ
  deriving DecidableEq

def slotMappingCode : SelectiveWriteErrorCode → SelectiveUpdateErrorCode
  | .slotMappingLengthMismatch => .slotMappingLengthMismatch
  | .slotMappingValueMismatch => .slotMappingValueMismatch
  | _ => .invalidSlotMapping

section
variable {τ μ φ : Type} (ops : SelectiveCacheOps τ μ φ)

def viewed {α : Type} (x : Except φ α) : Except UpdateFault α :=
  x.mapError (fun _ => .code .invalidView)

/-- `_safe_shape`. -/
def safeShape (tensor : τ) : Except UpdateFault (List ℤ) := do
  let shape ← viewed (ops.shape tensor)
  require (∀ dimension ∈ shape, 0 ≤ dimension) (.code .invalidView)
  .ok shape

/-- A name that must not be empty. -/
def safeName (x : Except φ String) : Except UpdateFault String := do
  let name ← viewed x
  require (name ≠ "") (.code .invalidView)
  .ok name

/-- `_safe_dtype`. -/
def safeDtype (tensor : τ) : Except UpdateFault String := safeName (ops.dtypeName tensor)

/-- `_safe_device`. -/
def safeDevice (tensor : τ) : Except UpdateFault String := safeName (ops.deviceName tensor)

def checkSlotMapping (p : SelectiveWritePlan) (layerIndex : ℕ) (slotMapping : List ℤ) :
    Except UpdateFault Unit :=
  match validateSlotMapping p layerIndex slotMapping with
  | .ok _ => .ok ()
  | .error (.code c) => .error (.code (slotMappingCode c))
  | .error .keyError => .error .keyError

def checkView (dtype device : String) (count : ℕ) (view : τ) : Except UpdateFault Unit := do
  let shape ← safeShape ops view
  require (shape = [(count : ℤ), gptOssNumKvHeads, gptOssHeadDim]) (.code .invalidView)
  let viewDtype ← safeDtype ops view
  require (viewDtype = dtype) (.code .dtypeMismatch)
  let viewDevice ← safeDevice ops view
  require (viewDevice = device) (.code .deviceMismatch)

/-- The loop body of `_prepare_layer`: the copies of one span. -/
def prepareSpan (dtype device : String) (inputs : LayerInputs τ) (span : LayerTokenScatterSpan) :
    Except UpdateFault (List (PreparedUpdate τ)) := do
  let count := span.tokenCount
  let keySource ← viewed (ops.promptRows inputs.key span.targetRange.start count)
  let valueSource ← viewed (ops.promptRows inputs.value span.targetRange.start count)
  let keyDestination ← viewed (ops.pagedRows inputs.cache 0 span.groupSpan.blockId
    span.groupSpan.blockOffset count)
  let valueDestination ← viewed (ops.pagedRows inputs.cache 1 span.groupSpan.blockId
    span.groupSpan.blockOffset count)
  [keySource, valueSource, keyDestination, valueDestination].forM
    (checkView ops dtype device count)
  .ok [⟨keyDestination, keySource⟩, ⟨valueDestination, valueSource⟩]

/-- `_prepare_layer`. -/
def prepareLayer (p : SelectiveWritePlan) (layerIndex : Fin gptOssNumLayers)
    (inputs : LayerInputs τ) (expectedDtype expectedDevice : Option String) :
    Except UpdateFault (PreparedLayer τ) := do
  checkSlotMapping p layerIndex inputs.slotMapping
  let keyShape ← safeShape ops inputs.key
  let valueShape ← safeShape ops inputs.value
  require (keyShape = [(p.rowPlan.promptTokens : ℤ), gptOssNumKvHeads, gptOssHeadDim] ∧
    valueShape = keyShape) (.code .invalidSourceShape)
  let cacheShape ← safeShape ops inputs.cache
  let fullLayerSpans := p.fullLayerSpans.filter (fun span => span.layerIndex = (layerIndex.val : ℤ))
  let layerSpans := p.spansForLayer layerIndex
  let blockSizes := (fullLayerSpans.map (fun span => span.groupSpan.blockSize)).dedup
  require (blockSizes.length = 1 ∧ cacheShape.length = 5 ∧ 0 < cacheShape.getD 0 0 ∧
    cacheShape.drop 1 = [2, blockSizes.headD (-1), (gptOssNumKvHeads : ℤ), (gptOssHeadDim : ℤ)])
    (.code .invalidCacheShape)
  let keyDtype ← safeDtype ops inputs.key
  let valueDtype ← safeDtype ops inputs.value
  let cacheDtype ← safeDtype ops inputs.cache
  require (keyDtype = valueDtype ∧ keyDtype = cacheDtype) (.code .dtypeMismatch)
  require (keyDtype = "torch.bfloat16") (.code .dtypeMismatch)
  let keyDevice ← safeDevice ops inputs.key
  let valueDevice ← safeDevice ops inputs.value
  let cacheDevice ← safeDevice ops inputs.cache
  require (keyDevice = valueDevice ∧ keyDevice = cacheDevice) (.code .deviceMismatch)
  require ("cuda:".toList.isPrefixOf keyDevice.toList) (.code .invalidDevice)
  require (∀ dtype ∈ expectedDtype, keyDtype = dtype) (.code .dtypeMismatch)
  require (∀ device ∈ expectedDevice, keyDevice = device) (.code .deviceMismatch)
  let prepared ← layerSpans.mapM (prepareSpan ops keyDtype keyDevice inputs)
  .ok ⟨prepared.flatten, (p.rowPlan.layer layerIndex).recomputeTokens, layerSpans.length,
    keyDtype, keyDevice⟩

def copyAll (operations : List (PreparedUpdate τ)) : Call μ φ PUnit :=
  operations.forM (fun operation => ops.copy operation.destination operation.source)

/-! ## All layers at once -/

structure UpdateInputs (τ : Type) where
  keyByLayer : Dict String τ
  valueByLayer : Dict String τ
  pagedCaches : Dict String τ
  slotMappingByLayer : Dict String (List ℤ)

def expectedNames : List String := (List.range gptOssNumLayers).map (fun i : ℕ => layerName i)

def NamesMatch {ν : Type} (d : Dict String ν) : Prop :=
  d.keys ⊆ expectedNames ∧ expectedNames ⊆ d.keys

instance {ν : Type} (d : Dict String ν) : Decidable (NamesMatch d) :=
  inferInstanceAs (Decidable (_ ∧ _))

def entry {ν : Type} (d : Dict String ν) (name : String) : Except UpdateFault ν :=
  match d.get? name with
  | some v => .ok v
  | none => .error .keyError

def UpdateInputs.layer (inputs : UpdateInputs τ) (layerIndex : Fin gptOssNumLayers) :
    Except UpdateFault (LayerInputs τ) := do
  let key ← entry inputs.keyByLayer (layerName layerIndex.val)
  let value ← entry inputs.valueByLayer (layerName layerIndex.val)
  let cache ← entry inputs.pagedCaches (layerName layerIndex.val)
  let slotMapping ← entry inputs.slotMappingByLayer (layerName layerIndex.val)
  .ok ⟨key, value, cache, slotMapping⟩

/-- The loop of `update` over the layers. The first layer fixes dtype and device. -/
def prepareLayers (p : SelectiveWritePlan) (inputs : UpdateInputs τ) :
    List (Fin gptOssNumLayers) → Option String → Option String →
      Except UpdateFault (List (PreparedUpdate τ))
  | [], _, _ => .ok []
  | layerIndex::rest, dtype, device => do
    let given ← inputs.layer layerIndex
    let layer ← prepareLayer ops p layerIndex given dtype device
    let prepared ← prepareLayers p inputs rest (if dtype = none then some layer.dtype else dtype)
      (if dtype = none then some layer.device else device)
    .ok (layer.operations ++ prepared)

/-- The copies of a list of operations and the synchronization after them. -/
def mutate (operations : List (PreparedUpdate τ)) (cache : Option τ) : Call μ φ PUnit := do
  copyAll ops operations
  match operations, cache with
  | _::_, some tensor => ops.synchronize tensor
  | _, _ => pure ⟨⟩

/-- The part of `update` after the names were compared. -/
def updateLayers (p : SelectiveWritePlan) (inputs : UpdateInputs τ) :
    Call μ UpdateFault SelectiveUpdateReceipt := do
  let prepared ← Call.lift
    (prepareLayers ops p inputs (List.finRange gptOssNumLayers) none none)
  Call.within id (fun _ m => m) (fun _ => .code .mutationFailed)
    (mutate ops prepared (inputs.pagedCaches.entries.head?.map Prod.snd))
  pure {
    recomputedTokenRows := p.recomputeTokens
    cachedTokenRows := p.cachedTokens
    writeSpanCount := p.recomputeLayerSpans.length
    copiedKeyRows := p.recomputeTokens
    copiedValueRows := p.recomputeTokens }

/-- `GptOssSelectiveKvUpdater.update`. -/
def update (p : SelectiveWritePlan) (inputs : UpdateInputs τ) :
    Call μ UpdateFault SelectiveUpdateReceipt := do
  Call.lift (require (NamesMatch inputs.keyByLayer ∧ NamesMatch inputs.valueByLayer ∧
    NamesMatch inputs.pagedCaches) (.code .tensorSetMismatch))
  Call.lift (require (NamesMatch inputs.slotMappingByLayer) (.code .slotMappingSetMismatch))
  updateLayers ops p inputs

/-! ## One layer at a time -/

structure SelectiveKvSession where
  plan : SelectiveWritePlan
  nextLayer : ℕ
  failed : Bool
  finished : Bool
  recomputedTokenRows : ℕ
  writeSpanCount : ℕ
  copiedKeyRows : ℕ
  copiedValueRows : ℕ
  sessionDtype : Option String
  sessionDevice : Option String

def SelectiveKvSession.new (p : SelectiveWritePlan) : SelectiveKvSession :=
  ⟨p, 0, false, false, 0, 0, 0, 0, none, none⟩

abbrev SessionCall (μ α : Type) : Type :=
  Call (SelectiveKvSession × μ) SelectiveUpdateErrorCode α

/-- Raise an error that closes the session. -/
def terminal {α : Type} (code : SelectiveUpdateErrorCode) : SessionCall μ α := fun t =>
  (.error code, ({ t.1 with failed := true }, t.2))

/-- `_ensure_active`. -/
def ensureActive : SessionCall μ PUnit := fun t =>
  if t.1.failed = true ∨ t.1.finished = true then (.error .sessionInvalidState, t)
  else (.ok ⟨⟩, t)

def UpdateFault.escaped : UpdateFault → SelectiveUpdateErrorCode
  | code c => c
  | keyError => .mutationFailed

def SelectiveKvSession.advance (s : SelectiveKvSession) (layer : PreparedLayer τ) :
    SelectiveKvSession :=
  { s with
    sessionDtype := if s.sessionDtype = none then some layer.dtype else s.sessionDtype
    sessionDevice := if s.sessionDtype = none then some layer.device else s.sessionDevice
    recomputedTokenRows := s.recomputedTokenRows+layer.recomputedTokenRows
    writeSpanCount := s.writeSpanCount+layer.writeSpanCount
    copiedKeyRows := s.copiedKeyRows+layer.recomputedTokenRows
    copiedValueRows := s.copiedValueRows+layer.recomputedTokenRows
    nextLayer := s.nextLayer+1 }

/-- The layer whose turn it is: its preparation, its copies, its counters. -/
def applyLayer (layerIndex : Fin gptOssNumLayers) (inputs : LayerInputs τ) :
    SessionCall μ PUnit := fun t =>
  match prepareLayer ops t.1.plan layerIndex inputs t.1.sessionDtype t.1.sessionDevice with
  | .error fault => terminal fault.escaped t
  | .ok layer =>
    match mutate ops layer.operations (some inputs.cache) t.2 with
    | (.error _, m) => terminal .mutationFailed (t.1, m)
    | (.ok _, m) => (.ok ⟨⟩, (t.1.advance layer, m))

/-- `update_layer`. -/
def updateLayer (layerIndex : ℤ) (inputs : LayerInputs τ) : SessionCall μ PUnit := do
  ensureActive
  fun t =>
    if h : 0 ≤ layerIndex ∧ layerIndex < gptOssNumLayers then
      if layerIndex < t.1.nextLayer then terminal .sessionDuplicateLayer t
      else if layerIndex ≠ t.1.nextLayer then terminal .sessionLayerOrderMismatch t
      else applyLayer ops ⟨layerIndex.toNat, by omega⟩ inputs t
    else terminal .invalidPlan t

/-- `finish`. -/
def finish : SessionCall μ SelectiveUpdateReceipt := do
  ensureActive
  fun t =>
    if t.1.nextLayer ≠ gptOssNumLayers then terminal .sessionIncomplete t
    else (.ok {
      recomputedTokenRows := t.1.recomputedTokenRows
      cachedTokenRows := t.1.plan.cachedTokens
      writeSpanCount := t.1.writeSpanCount
      copiedKeyRows := t.1.copiedKeyRows
      copiedValueRows := t.1.copiedValueRows }, ({ t.1 with finished := true }, t.2))

end

end CacheBlend.SelectiveUpdates
