import CacheBlend.Dict
import CacheBlend.KeyedMemory
import CacheBlend.TokenScatter
import Mathlib.Algebra.BigOperators.Group.List.Basic
import Mathlib.Algebra.Order.Ring.Rat
import Mathlib.Logic.Equiv.Fin.Basic

/-!
# The data plane

The data plane copies rows between the staging tensor and the paged tensors
of the layers. Both directions check the spans, the tensors and every view
first. The copies come last, one after the other, and a failure among them is
reported with a code of its own.
-/

set_option autoImplicit false

namespace CacheBlend.DataPlane
open CacheBlend.PlannerModels CacheBlend.HybridLayout CacheBlend.ScatterSpans
open CacheBlend.KeyedMemory

def gptOssNumKvHeads : ℕ := 8
def gptOssHeadDim : ℕ := 64
def gptOssKvWidth : ℕ := gptOssNumKvHeads*gptOssHeadDim
def kvComponents : ℕ := 2

inductive DataPlaneErrorCode where
  | emptySpans
  | layerSetMismatch
  | invalidLayer
  | invalidAttentionPattern
  | invalidGroupLayout
  | invalidSpan
  | rangeCoverageMismatch
  | overlappingWrite
  | pagedCacheSetMismatch
  | invalidPagedCacheShape
  | invalidStagingShape
  | pagedRangeOutOfBounds
  | stagingRangeOutOfBounds
  | dtypeMismatch
  | deviceMismatch
  | invalidDevice
  | positionCorrectionFailed
  | invalidCorrectedKey
  | tensorViewFailed
  | mutationFailed
  deriving DecidableEq

structure DataPlaneError where
  code : DataPlaneErrorCode
  message : String
  deriving DecidableEq

/-- An error without message has an empty one here, its code stands for the text. -/
def failed (code : DataPlaneErrorCode) : DataPlaneError := ⟨code, ""⟩

inductive TransferDirection where
  | loadFromStaging
  | storeToStaging
  deriving DecidableEq

structure DataPlaneReceipt where
  direction : TransferDirection
  logicalTokens : ℕ
  layerTokenRows : ℕ
  spanCount : ℕ
  correctedKeyRows : ℕ
  copiedKeyRows : ℕ
  copiedValueRows : ℕ
  sinksTouched : Bool
  positionCorrectionLatencySeconds : ℚ
  deriving DecidableEq

def DataPlaneReceipt.check (r : DataPlaneReceipt) : Except DataPlaneError DataPlaneReceipt := do
  require (r.sinksTouched = false) ⟨.invalidSpan, "attention sinks cannot be touched"⟩
  require (0 ≤ r.positionCorrectionLatencySeconds)
    ⟨.invalidSpan, "position-correction latency must be finite and nonnegative"⟩
  .ok r

/-! ## Tensors and their views -/

structure TensorInfo where
  shape : List ℕ
  dtypeName : String
  deviceName : String
  deriving DecidableEq

inductive KvComponent where
  | key
  | value
  deriving DecidableEq

def KvComponent.index : KvComponent → ℕ
  | .key => 0
  | .value => 1

abbrev HeadRow (δ : Type) := Fin gptOssNumKvHeads → Fin gptOssHeadDim → δ
abbrev FlatRow (δ : Type) := Fin gptOssKvWidth → δ

def heads {δ : Type} (row : FlatRow δ) : HeadRow δ := fun head i => row (finProdFinEquiv (head, i))

def flatten {δ : Type} (row : HeadRow δ) : FlatRow δ := fun i =>
  row (finProdFinEquiv.symm i).1 (finProdFinEquiv.symm i).2

@[simp] theorem heads_flatten {δ : Type} (row : HeadRow δ) : heads (flatten row) = row := by
  funext head i
  unfold heads flatten
  rw [Equiv.symm_apply_apply]

/-- A row of the paged tensor of a layer. The tensors of the layers are separate. -/
structure PagedCell where
  layerName : String
  component : KvComponent
  block : ℤ
  offset : ℤ
  deriving DecidableEq

structure StagingCell where
  component : KvComponent
  layerIndex : ℤ
  token : ℤ
  deriving DecidableEq

structure DataPlaneMemory (δ : Type) where
  paged : PagedCell → HeadRow δ
  staging : StagingCell → FlatRow δ

/-- The tensors of one call, as their inspection shows them. -/
structure Tensors where
  staging : TensorInfo
  paged : Dict String TensorInfo

structure RowView (κ : Type) where
  info : TensorInfo
  cells : List κ

def shapeFailure : DataPlaneError := ⟨.tensorViewFailed, "tensor view shape mismatch"⟩

/-- A slice of a dimension stops at its end. -/
def sliceCount (length : ℕ) (start : ℤ) (count : ℕ) : ℕ := min count (length-start.toNat)

def pagedCells (layerName : String) (component : KvComponent) (block offset : ℤ) (count : ℕ) :
    List PagedCell :=
  (List.range count).map (fun i : ℕ => ⟨layerName, component, block, offset+i⟩)

def stagingCells (component : KvComponent) (layerIndex token : ℤ) (count : ℕ) :
    List StagingCell :=
  (List.range count).map (fun i : ℕ => ⟨component, layerIndex, token+i⟩)

/-- `paged_rows`: the view of a run of rows in one block. -/
def pagedRows (cache : TensorInfo) (layerName : String) (component : KvComponent)
    (block offset : ℤ) (count : ℕ) : Option (RowView PagedCell) :=
  match cache.shape with
  | [blocks, components, blockSize, kvHeads, headDim] =>
    if block < blocks ∧ component.index < components then
      let present := sliceCount blockSize offset count
      some ⟨{ cache with shape := [present, kvHeads, headDim] },
        pagedCells layerName component block offset present⟩
    else none
  | _ => none

/-- `staging_rows`: the view of a run of tokens of one layer. -/
def stagingRows (staging : TensorInfo) (component : KvComponent) (layerIndex token : ℤ)
    (count : ℕ) : Option (RowView StagingCell) :=
  match staging.shape with
  | [components, layers, tokens, width] =>
    if component.index < components ∧ layerIndex < layers then
      let present := sliceCount tokens token count
      some ⟨{ staging with shape := [present, width] },
        stagingCells component layerIndex token present⟩
    else none
  | _ => none

/-- `reshape`: the same elements under another shape. -/
def reshape (info : TensorInfo) (shape : List ℕ) : Option TensorInfo :=
  if info.shape.prod = shape.prod then some { info with shape := shape } else none

def safeDtype (info : TensorInfo) : Except DataPlaneError String := do
  require (info.dtypeName ≠ "") ⟨.tensorViewFailed, "empty tensor dtype"⟩
  .ok info.dtypeName

def safeDevice (info : TensorInfo) : Except DataPlaneError String := do
  require (info.deviceName ≠ "") ⟨.tensorViewFailed, "empty tensor device"⟩
  .ok info.deviceName

/-- `_validate_view`. -/
def validateView (view : TensorInfo) (expectedShape : List ℕ) (owner : TensorInfo) :
    Except DataPlaneError Unit := do
  require (view.shape = expectedShape) shapeFailure
  let viewDtype ← safeDtype view
  let ownerDtype ← safeDtype owner
  require (viewDtype = ownerDtype) ⟨.dtypeMismatch, "tensor view dtype mismatch"⟩
  let viewDevice ← safeDevice view
  let ownerDevice ← safeDevice owner
  require (viewDevice = ownerDevice) ⟨.deviceMismatch, "tensor view device mismatch"⟩

/-- Key rows that a correction returns. A tensor of the shape of `n` rows has `n` of them. -/
structure KeyTensor (δ : Type) where
  info : TensorInfo
  rows : List (HeadRow δ)
  exact : ∀ n, info.shape = [n, gptOssNumKvHeads, gptOssHeadDim] → rows.length = n

/-- A correction of key rows from source to target positions of a layer. It may raise. -/
abbrev KeyPositionCorrector (δ : Type) :=
  List (HeadRow δ) → List ℕ → List ℕ → ℤ → Option (KeyTensor δ)

/-- What the tensor library does besides exact views: any step may raise, and a
correction takes its time on a clock that never runs backwards. -/
structure TensorRuntime where
  viewRaises : LayerTokenScatterSpan → Bool
  copyRaises : ℕ → Bool
  synchronizeRaises : Bool
  correctionLatency : LayerTokenScatterSpan → ℚ
  latency_nonneg : ∀ span, 0 ≤ correctionLatency span

/-! ## Validation of spans -/

structure ValidatedSpans where
  spans : List LayerTokenScatterSpan
  sourceRange : TokenRange
  targetRange : TokenRange
  layerNames : List String
  deriving DecidableEq

def ValidatedSpans.logicalTokens (v : ValidatedSpans) : ℕ := v.targetRange.size

def ValidatedSpans.layerTokenRows (v : ValidatedSpans) : ℕ := v.logicalTokens*gptOssNumLayers

/-- The kinds and block sizes of the groups of the spans seen so far. -/
structure GroupsSeen where
  groupKind : Dict ℤ AttentionKind
  groupBlockSize : Dict ℤ ℤ
  deriving DecidableEq

/-- `setdefault`: a present entry stays. -/
def setDefault {ν : Type} (d : Dict ℤ ν) (k : ℤ) (v : ν) : Dict ℤ ν :=
  if (d.get? k).isSome then d else d.set k v

/-- The checks of `_validate_spans` on one span. -/
def checkSpan (seen : GroupsSeen) (span : LayerTokenScatterSpan) :
    Except DataPlaneError GroupsSeen := do
  let group := span.groupSpan
  require ((group.groupId = 0 ∨ group.groupId = 1) ∧ 0 ≤ group.logicalBlockIndex ∧
    0 ≤ group.blockId ∧ 0 < group.blockSize ∧ 0 ≤ group.blockOffset ∧
    0 ≤ group.physicalSlotStart ∧ group.sourceRange.size ≠ 0 ∧
    group.sourceRange.size = group.targetRange.size ∧
    group.sourceRange.stop ≤ gptOssMaxContextTokens ∧
    group.targetRange.stop ≤ gptOssMaxContextTokens) (failed .invalidSpan)
  require (span.layerName = layerName span.layerIndex ∧ 0 ≤ span.layerIndex ∧
    span.layerIndex < gptOssNumLayers) (failed .invalidLayer)
  require (span.attentionKind = expectedKind span.layerIndex) (failed .invalidAttentionPattern)
  require (∀ kind ∈ seen.groupKind.get? group.groupId, kind = span.attentionKind)
    (failed .invalidGroupLayout)
  require (∀ size ∈ seen.groupBlockSize.get? group.groupId, size = group.blockSize)
    (failed .invalidGroupLayout)
  require (0 < span.tokenCount ∧ span.sourceRange.size = span.tokenCount ∧
    group.blockOffset+span.tokenCount ≤ group.blockSize ∧
    span.physicalSlotStart = group.blockId*group.blockSize+group.blockOffset)
    (failed .invalidSpan)
  .ok ⟨setDefault seen.groupKind group.groupId span.attentionKind,
    setDefault seen.groupBlockSize group.groupId group.blockSize⟩

/-- The slots of a span. Its first slot has been checked not to be negative. -/
def physicalRange (span : LayerTokenScatterSpan) : TokenRange :=
  ⟨span.physicalSlotStart.toNat, span.physicalSlotStart.toNat+span.tokenCount,
    Nat.le_add_right _ _⟩

structure LayerCoverage where
  source : TokenRange
  target : TokenRange
  physical : List TokenRange

def coverSpan (c : LayerCoverage) (span : LayerTokenScatterSpan) :
    Except DataPlaneError LayerCoverage :=
  if h : span.sourceRange.start = c.source.stop ∧ span.targetRange.start = c.target.stop then do
    require ((span.targetRange.start : ℤ)-span.sourceRange.start =
      (c.target.start : ℤ)-c.source.start) (failed .rangeCoverageMismatch)
    require (∀ existing ∈ c.physical, ¬(physicalRange span).Overlaps existing)
      (failed .overlappingWrite)
    .ok ⟨⟨c.source.start, span.sourceRange.stop,
        (c.source.ordered.trans h.1.ge).trans span.sourceRange.ordered⟩,
      ⟨c.target.start, span.targetRange.stop,
        (c.target.ordered.trans h.2.ge).trans span.targetRange.ordered⟩,
      c.physical ++ [physicalRange span]⟩
  else .error (failed .rangeCoverageMismatch)

/-- The loop over the ordered spans of a layer. A layer has a span at least. -/
def coverLayer : List LayerTokenScatterSpan → Except DataPlaneError LayerCoverage
  | [] => .error (failed .layerSetMismatch)
  | first::rest => (first::rest).foldlM coverSpan
      ⟨⟨first.sourceRange.start, first.sourceRange.start, le_refl _⟩,
        ⟨first.targetRange.start, first.targetRange.start, le_refl _⟩, []⟩

def spansOfLayer (spans : List LayerTokenScatterSpan) (layerIndex : ℕ) :
    List LayerTokenScatterSpan :=
  sortedBy (fun span => span.targetRange.start)
    (spans.filter (fun span => span.layerIndex = layerIndex))

/-- The loop over the layers. All layers cover the ranges of the first one. -/
def orderLayers (spans : List LayerTokenScatterSpan) :
    Option (TokenRange × TokenRange) → List ℕ →
      Except DataPlaneError (Option (TokenRange × TokenRange) × List LayerTokenScatterSpan)
  | canonical, [] => .ok (canonical, [])
  | canonical, layerIndex::rest => do
    let coverage ← coverLayer (spansOfLayer spans layerIndex)
    require (∀ ranges ∈ canonical, (coverage.source, coverage.target) = ranges)
      (failed .rangeCoverageMismatch)
    let (ranges, ordered) ← orderLayers spans (some (coverage.source, coverage.target)) rest
    .ok (ranges, spansOfLayer spans layerIndex ++ ordered)

/-- `_validate_spans`. The names of the layers have been compared with their indexes. -/
def validateSpans (spans : List LayerTokenScatterSpan) : Except DataPlaneError ValidatedSpans := do
  require (spans ≠ []) (failed .emptySpans)
  let seen ← spans.foldlM checkSpan ⟨Dict.empty, Dict.empty⟩
  require (∀ layerIndex ∈ List.range gptOssNumLayers, ∃ span ∈ spans,
    span.layerIndex = layerIndex) (failed .layerSetMismatch)
  require ((∀ k ∈ seen.groupKind.keys, k = 0 ∨ k = 1) ∧ 0 ∈ seen.groupKind.keys ∧
    1 ∈ seen.groupKind.keys ∧ AttentionKind.sliding ∈ seen.groupKind.entries.map Prod.snd ∧
    AttentionKind.full ∈ seen.groupKind.entries.map Prod.snd) (failed .invalidGroupLayout)
  let (canonical, ordered) ← orderLayers spans none (List.range gptOssNumLayers)
  match canonical with
  | some (source, target) => .ok ⟨ordered, source, target,
      (List.range gptOssNumLayers).map (fun layerIndex => layerName layerIndex)⟩
  | none => .error (failed .layerSetMismatch)

/-! ## Preflight -/

/-- The checks of `_preflight_common` on the cache of one layer. -/
def preflightCache (stagingDtype stagingDevice : String) (spans : List LayerTokenScatterSpan)
    (cache : TensorInfo) (name : String) : Except DataPlaneError Unit := do
  let blockSizes := (spans.map (fun span => span.groupSpan.blockSize)).dedup
  require (blockSizes.length = 1)
    ⟨.invalidGroupLayout, "one layer referenced multiple block sizes"⟩
  let blockSize := blockSizes.headD 0
  let malformed : DataPlaneError :=
    ⟨.invalidPagedCacheShape, name ++ " must have shape [blocks,2,block,8,64]"⟩
  match cache.shape with
  | [blocks, components, cacheBlockSize, kvHeads, headDim] => do
    require (0 < blocks ∧ components = kvComponents ∧ (cacheBlockSize : ℤ) = blockSize ∧
      kvHeads = gptOssNumKvHeads ∧ headDim = gptOssHeadDim) malformed
    require (blockSize%16 = 0)
      ⟨.invalidPagedCacheShape, "Triton block_size must be a multiple of 16"⟩
    let dtype ← safeDtype cache
    require (dtype = stagingDtype) ⟨.dtypeMismatch, "paged and staging dtypes differ"⟩
    let device ← safeDevice cache
    require (device = stagingDevice)
      ⟨.deviceMismatch, "paged and staging tensors are on different devices"⟩
    spans.forM (fun span => do
      require (span.groupSpan.blockId < blocks)
        ⟨.pagedRangeOutOfBounds, "span block_id exceeds the paged cache"⟩
      require (span.groupSpan.blockOffset+span.tokenCount ≤ cacheBlockSize)
        ⟨.pagedRangeOutOfBounds, "span exceeds its paged cache block"⟩)
  | _ => .error malformed

/-- The cache of a layer. The names have been compared before it is read. -/
def cacheOf (tensors : Tensors) (name : String) : Except DataPlaneError TensorInfo :=
  match tensors.paged.get? name with
  | some cache => .ok cache
  | none => .error (failed .pagedCacheSetMismatch)

def stagingTokens (tensors : Tensors) : ℕ := tensors.staging.shape.getD 2 0

/-- `_preflight_common`. -/
def preflightCommon (tensors : Tensors) (layerSpans : List LayerTokenScatterSpan) :
    Except DataPlaneError ValidatedSpans := do
  let validated ← validateSpans layerSpans
  require ((∀ name ∈ tensors.paged.keys, name ∈ validated.layerNames) ∧
    ∀ name ∈ validated.layerNames, name ∈ tensors.paged.keys)
    ⟨.pagedCacheSetMismatch, "paged cache names do not match the 24 validated layers"⟩
  require (0 < stagingTokens tensors ∧ tensors.staging.shape =
    [kvComponents, gptOssNumLayers, stagingTokens tensors, gptOssKvWidth])
    ⟨.invalidStagingShape, "staging must have shape [2, 24, tokens, 512]"⟩
  let stagingDtype ← safeDtype tensors.staging
  let stagingDevice ← safeDevice tensors.staging
  require ("cuda:".toList.isPrefixOf stagingDevice.toList)
    ⟨.invalidDevice, "the pinned data plane requires one CUDA device"⟩
  validated.layerNames.forM (fun name => do
    let cache ← cacheOf tensors name
    preflightCache stagingDtype stagingDevice
      (validated.spans.filter (fun span => span.layerName = name)) cache name)
  .ok validated

def requirePlainInt (name : String) (value minimum : ℤ) : Except DataPlaneError Unit :=
  require (minimum ≤ value) ⟨.invalidSpan, s!"{name} must be >= {minimum}"⟩

/-! ## Preparation -/

structure PreparedCopy (κ ν : Type) where
  destination : List κ
  source : List ν

def PreparedCopy.writes {κ ν : Type} (c : PreparedCopy κ ν) : List (κ × ν) :=
  c.destination.zip c.source

section
variable {δ : Type}

def headShape (count : ℕ) : List ℕ := [count, gptOssNumKvHeads, gptOssHeadDim]

def flatShape (count : ℕ) : List ℕ := [count, gptOssKvWidth]

def raiseNone {α : Type} (e : DataPlaneError) : Option α → Except DataPlaneError α
  | some a => .ok a
  | none => .error e

def scatterViewFailure : DataPlaneError :=
  ⟨.tensorViewFailed, "failed to prepare a scatter tensor view"⟩

def gatherViewFailure : DataPlaneError :=
  ⟨.tensorViewFailed, "failed to prepare a gather tensor view"⟩

def positions (r : TokenRange) : List ℕ := List.range' r.start r.size

def stagedRows (m : DataPlaneMemory δ) (view : RowView StagingCell) : List (HeadRow δ) :=
  view.cells.map (fun cell => heads (m.staging cell))

/-- The correction of a span's rows, checked against the staging tensor. -/
def correctKeys (tensors : Tensors) (correct : KeyPositionCorrector δ)
    (span : LayerTokenScatterSpan) (rows : List (HeadRow δ)) :
    Except DataPlaneError (List (HeadRow δ)) := do
  let corrected ← raiseNone
    ⟨.positionCorrectionFailed, "GPT-OSS YaRN key correction failed before cache mutation"⟩
    (correct rows (positions span.sourceRange) (positions span.targetRange) span.layerIndex)
  (validateView corrected.info (headShape span.tokenCount) tensors.staging).mapError
    (fun _ => ⟨.invalidCorrectedKey, "corrected K shape, dtype, or device is invalid"⟩)
  .ok corrected.rows

/-- `_prepare_scatter_span`. The staging tensor is separate from the caches,
so a copy finds the rows that its view shows here. -/
def prepareScatterSpan (tensors : Tensors) (runtime : TensorRuntime)
    (correct : KeyPositionCorrector δ) (m : DataPlaneMemory δ) (cache : TensorInfo)
    (span : LayerTokenScatterSpan) (stagingStart : ℤ) :
    Except DataPlaneError (List (PreparedCopy PagedCell (HeadRow δ))) := do
  let group := span.groupSpan
  let count := span.tokenCount
  require (runtime.viewRaises span = false) scatterViewFailure
  let stagedKey ← raiseNone scatterViewFailure
    (stagingRows tensors.staging .key span.layerIndex stagingStart count)
  let stagedValue ← raiseNone scatterViewFailure
    (stagingRows tensors.staging .value span.layerIndex stagingStart count)
  let keyRows ← raiseNone scatterViewFailure (reshape stagedKey.info (headShape count))
  let valueRows ← raiseNone scatterViewFailure (reshape stagedValue.info (headShape count))
  let keyDestination ← raiseNone scatterViewFailure
    (pagedRows cache span.layerName .key group.blockId group.blockOffset count)
  let valueDestination ← raiseNone scatterViewFailure
    (pagedRows cache span.layerName .value group.blockId group.blockOffset count)
  validateView keyRows (headShape count) tensors.staging
  validateView valueRows (headShape count) tensors.staging
  validateView keyDestination.info (headShape count) cache
  validateView valueDestination.info (headShape count) cache
  let corrected ← correctKeys tensors correct span (stagedRows m stagedKey)
  .ok [⟨keyDestination.cells, corrected⟩, ⟨valueDestination.cells, stagedRows m stagedValue⟩]

/-- `_prepare_gather_span`. -/
def prepareGatherSpan (tensors : Tensors) (runtime : TensorRuntime) (m : DataPlaneMemory δ)
    (cache : TensorInfo) (span : LayerTokenScatterSpan) (stagingStart : ℤ) :
    Except DataPlaneError (List (PreparedCopy StagingCell (FlatRow δ))) := do
  let group := span.groupSpan
  let count := span.tokenCount
  require (runtime.viewRaises span = false) gatherViewFailure
  let pagedKey ← raiseNone gatherViewFailure
    (pagedRows cache span.layerName .key group.blockId group.blockOffset count)
  let pagedValue ← raiseNone gatherViewFailure
    (pagedRows cache span.layerName .value group.blockId group.blockOffset count)
  let stagingKey ← raiseNone gatherViewFailure
    (stagingRows tensors.staging .key span.layerIndex stagingStart count)
  let stagingValue ← raiseNone gatherViewFailure
    (stagingRows tensors.staging .value span.layerIndex stagingStart count)
  let flatKey ← raiseNone gatherViewFailure (reshape pagedKey.info (flatShape count))
  let flatValue ← raiseNone gatherViewFailure (reshape pagedValue.info (flatShape count))
  validateView pagedKey.info (headShape count) cache
  validateView pagedValue.info (headShape count) cache
  validateView flatKey (flatShape count) cache
  validateView flatValue (flatShape count) cache
  validateView stagingKey.info (flatShape count) tensors.staging
  validateView stagingValue.info (flatShape count) tensors.staging
  .ok [⟨stagingKey.cells, pagedKey.cells.map (fun cell => flatten (m.paged cell))⟩,
    ⟨stagingValue.cells, pagedValue.cells.map (fun cell => flatten (m.paged cell))⟩]

/-! ## Copies -/

def mutationFailure : DataPlaneError :=
  ⟨.mutationFailed, "tensor copy or synchronization failed; discard the request KV"⟩

/-- The copies of `_apply` from an index on, and the synchronization after them. -/
def applyFrom {κ ν : Type} [DecidableEq κ] (runtime : TensorRuntime) :
    ℕ → List (PreparedCopy κ ν) → Call (κ → ν) DataPlaneError PUnit
  | _, [] => Call.lift (require (runtime.synchronizeRaises = false) mutationFailure)
  | index, operation::rest => do
    let _ ← Call.lift (require.{0,0} (runtime.copyRaises index = false) mutationFailure)
    let _ ← Call.modify (fun m => writeAll m operation.writes)
    applyFrom runtime (index+1) rest

def applyPaged (runtime : TensorRuntime) (prepared : List (PreparedCopy PagedCell (HeadRow δ))) :
    Call (DataPlaneMemory δ) DataPlaneError PUnit :=
  Call.within DataPlaneMemory.paged (fun m paged => { m with paged := paged }) id
    (applyFrom runtime 0 prepared)

def applyStaging (runtime : TensorRuntime)
    (prepared : List (PreparedCopy StagingCell (FlatRow δ))) :
    Call (DataPlaneMemory δ) DataPlaneError PUnit :=
  Call.within DataPlaneMemory.staging (fun m staging => { m with staging := staging }) id
    (applyFrom runtime 0 prepared)

/-- The checks of `scatter_retrieved_kv` before the first view. -/
def preflightScatter (tensors : Tensors) (layerSpans : List LayerTokenScatterSpan)
    (retrievalBufferOffset queryTokenCount : ℤ) : Except DataPlaneError ValidatedSpans := do
  let validated ← preflightCommon tensors layerSpans
  requirePlainInt "retrieval_buffer_offset" retrievalBufferOffset 0
  requirePlainInt "query_token_count" queryTokenCount 1
  require (queryTokenCount ≤ gptOssMaxContextTokens)
    ⟨.stagingRangeOutOfBounds, "query_token_count exceeds the GPT-OSS context limit"⟩
  require (validated.targetRange.stop ≤ queryTokenCount)
    ⟨.stagingRangeOutOfBounds, "scatter target exceeds the lookup query"⟩
  require (retrievalBufferOffset+queryTokenCount ≤ stagingTokens tensors)
    ⟨.stagingRangeOutOfBounds, "LMCache retrieval placement exceeds staging capacity"⟩
  .ok validated

/-- The copies of one scatter, prepared before the first of them is made. -/
def prepareScatter (tensors : Tensors) (runtime : TensorRuntime)
    (correct : KeyPositionCorrector δ) (m : DataPlaneMemory δ) (retrievalBufferOffset : ℤ)
    (span : LayerTokenScatterSpan) :
    Except DataPlaneError (List (PreparedCopy PagedCell (HeadRow δ))) := do
  let cache ← cacheOf tensors span.layerName
  prepareScatterSpan tensors runtime correct m cache span
    (retrievalBufferOffset+span.targetRange.start)

def scatterReceipt (runtime : TensorRuntime) (validated : ValidatedSpans) : DataPlaneReceipt where
  direction := .loadFromStaging
  logicalTokens := validated.logicalTokens
  layerTokenRows := validated.layerTokenRows
  spanCount := validated.spans.length
  correctedKeyRows := validated.layerTokenRows
  copiedKeyRows := validated.layerTokenRows
  copiedValueRows := validated.layerTokenRows
  sinksTouched := false
  positionCorrectionLatencySeconds := (validated.spans.map runtime.correctionLatency).sum

/-- `scatter_retrieved_kv`. -/
def scatterRetrievedKv (tensors : Tensors) (runtime : TensorRuntime)
    (correct : KeyPositionCorrector δ) (layerSpans : List LayerTokenScatterSpan)
    (retrievalBufferOffset queryTokenCount : ℤ) :
    Call (DataPlaneMemory δ) DataPlaneError DataPlaneReceipt := do
  let validated ← Call.lift
    (preflightScatter tensors layerSpans retrievalBufferOffset queryTokenCount)
  let m ← Call.read
  let prepared ← Call.lift (validated.spans.mapM
    (prepareScatter tensors runtime correct m retrievalBufferOffset))
  let _ ← applyPaged runtime prepared.flatten
  Call.lift (scatterReceipt runtime validated).check

/-- The checks of `gather_precomputed_kv` before the first view. -/
def preflightGather (tensors : Tensors) (layerSpans : List LayerTokenScatterSpan)
    (documentTargetRange : TokenRange) (storeBufferOffset : ℤ) :
    Except DataPlaneError ValidatedSpans := do
  let validated ← preflightCommon tensors layerSpans
  require (documentTargetRange = validated.targetRange) ⟨.rangeCoverageMismatch,
    "document range must equal the complete span target coverage"⟩
  requirePlainInt "store_buffer_offset" storeBufferOffset 0
  require (storeBufferOffset+documentTargetRange.size ≤ stagingTokens tensors)
    ⟨.stagingRangeOutOfBounds, "compact document placement exceeds staging capacity"⟩
  .ok validated

def prepareGather (tensors : Tensors) (runtime : TensorRuntime) (m : DataPlaneMemory δ)
    (documentTargetRange : TokenRange) (storeBufferOffset : ℤ) (span : LayerTokenScatterSpan) :
    Except DataPlaneError (List (PreparedCopy StagingCell (FlatRow δ))) := do
  let cache ← cacheOf tensors span.layerName
  prepareGatherSpan tensors runtime m cache span
    (storeBufferOffset+(span.targetRange.start-documentTargetRange.start))

def gatherReceipt (validated : ValidatedSpans) : DataPlaneReceipt where
  direction := .storeToStaging
  logicalTokens := validated.logicalTokens
  layerTokenRows := validated.layerTokenRows
  spanCount := validated.spans.length
  correctedKeyRows := 0
  copiedKeyRows := validated.layerTokenRows
  copiedValueRows := validated.layerTokenRows
  sinksTouched := false
  positionCorrectionLatencySeconds := 0

/-- `gather_precomputed_kv`. -/
def gatherPrecomputedKv (tensors : Tensors) (runtime : TensorRuntime)
    (layerSpans : List LayerTokenScatterSpan) (documentTargetRange : TokenRange)
    (storeBufferOffset : ℤ) : Call (DataPlaneMemory δ) DataPlaneError DataPlaneReceipt := do
  let validated ← Call.lift
    (preflightGather tensors layerSpans documentTargetRange storeBufferOffset)
  let m ← Call.read
  let prepared ← Call.lift (validated.spans.mapM
    (prepareGather tensors runtime m documentTargetRange storeBufferOffset))
  let _ ← applyStaging runtime prepared.flatten
  Call.lift (gatherReceipt validated).check

end

end CacheBlend.DataPlane
