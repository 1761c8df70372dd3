import CacheBlend.HybridLayout
import CacheBlend.RequestTransitions

/-!
# Translation of vLLM values

The adapters copy the prompt of a request and the block tables of an
allocation. A table is copied only if every identifier is in range, no block
is the null block where block objects can be observed, and no block occurs
twice in a group.
-/

set_option autoImplicit false

namespace CacheBlend.VllmAdapters
open CacheBlend.PlannerModels CacheBlend.RequestLifecycle CacheBlend.HybridLayout

inductive VllmAdapterErrorCode where
  | promptEmbedsUnsupported
  | promptTokenIdsMissing
  | invalidPromptTokenIds
  | promptTokenCountMismatch
  | blockGroupCountMismatch
  | invalidBlockIds
  | blockIdOutOfRange
  | nullBlockUnsupported
  deriving DecidableEq

/-- The layouts derived from one finalized cache configuration. Groups carry
their position as identifier. -/
structure AdaptedKvCacheConfig where
  numBlocks : ℕ
  gptOssLayout : GptOssHybridCacheLayout
  controlPlaneLayout : RequestLifecycle.CacheGroupLayout
  blocks_positive : 1 ≤ numBlocks
  ids_eq : gptOssLayout.groups.map HybridLayout.CacheGroupLayout.groupId =
    List.range gptOssNumCacheGroups
  layers_eq : controlPlaneLayout.layerNamesByGroup =
    gptOssLayout.groups.map HybridLayout.CacheGroupLayout.layerNames

instance : DecidableEq AdaptedKvCacheConfig := fun c c' =>
  decidable_of_iff (c.numBlocks = c'.numBlocks ∧ c.gptOssLayout = c'.gptOssLayout ∧
    c.controlPlaneLayout = c'.controlPlaneLayout) (by
      cases c
      cases c'
      simp only [AdaptedKvCacheConfig.mk.injEq])

def AdaptedKvCacheConfig.groupKinds (c : AdaptedKvCacheConfig) : List AttentionKind :=
  c.gptOssLayout.groups.map HybridLayout.CacheGroupLayout.attentionKind

structure KVCacheBlock where
  blockId : ℤ
  isNull : Bool
  deriving DecidableEq

/-- The answer of `get_block_ids`, and the block objects where they can be observed. -/
structure KVCacheBlocks where
  blockIds : List (List ℤ)
  blocks : Option (List (List KVCacheBlock))
  deriving DecidableEq

structure AdaptedKvCacheBlocks where
  groupedAllocation : GroupedBlockAllocation
  groupBlockTables : List GroupBlockTable
  deriving DecidableEq

def AdaptedKvCacheBlocks.blockIdsByGroup (b : AdaptedKvCacheBlocks) : List (List ℕ) :=
  b.groupedAllocation.blockIdsByGroup

/-- The fields of a vLLM request that the connector reads. -/
structure VllmRequest where
  requestId : String
  promptEmbeds : Bool
  promptTokenIds : Option (List ℤ)
  numPromptTokens : ℤ
  numPreemptions : ℤ
  numExternalComputedTokens : ℤ
  deriving DecidableEq

def copyRequestPromptTokenIds (request : VllmRequest) :
    Except VllmAdapterErrorCode (List TokenId) :=
  if request.promptEmbeds = true then .error .promptEmbedsUnsupported
  else match request.promptTokenIds with
  | none => .error .promptTokenIdsMissing
  | some raw => match normalizeTokenIds raw with
    | .error _ => .error .invalidPromptTokenIds
    | .ok tokenIds =>
      if request.numPromptTokens = tokenIds.length then .ok tokenIds
      else .error .promptTokenCountMismatch

def copyGroup (numBlocks : ℕ) (group : List ℤ) : Except VllmAdapterErrorCode (List ℕ) := do
  require (∀ b ∈ group, 0 ≤ b) .invalidBlockIds
  require (∀ b ∈ group, b < numBlocks) .blockIdOutOfRange
  .ok (group.map Int.toNat)

def copyBlockIds (blocks : KVCacheBlocks) (config : AdaptedKvCacheConfig) :
    Except VllmAdapterErrorCode (List (List ℕ)) := do
  require (blocks.blockIds.length = config.controlPlaneLayout.groupCount)
    .blockGroupCountMismatch
  blocks.blockIds.mapM (copyGroup config.numBlocks)

def rejectNullGroup : List KVCacheBlock → List ℕ → Except VllmAdapterErrorCode Unit
  | block::blocks, copiedId::copiedIds => do
    require (block.blockId = copiedId) .invalidBlockIds
    require (block.isNull = false) .nullBlockUnsupported
    rejectNullGroup blocks copiedIds
  | _, _ => .ok ()

def rejectNullGroups : List (List KVCacheBlock) → List (List ℕ) →
    Except VllmAdapterErrorCode Unit
  | group::groups, copied::copies => do
    require (group.length = copied.length) .invalidBlockIds
    rejectNullGroup group copied
    rejectNullGroups groups copies
  | _, _ => .ok ()

def rejectObservableNullBlocks (blocks : KVCacheBlocks) (blockIdsByGroup : List (List ℕ)) :
    Except VllmAdapterErrorCode Unit :=
  match blocks.blocks with
  | none => .ok ()
  | some groups => do
    require (groups.length = blockIdsByGroup.length) .blockGroupCountMismatch
    rejectNullGroups groups blockIdsByGroup

def integers (blockIdsByGroup : List (List ℕ)) : List (List ℤ) :=
  blockIdsByGroup.map (fun group => group.map Int.ofNat)

def blockTable (blockIdsByGroup : List (List ℕ)) (group : HybridLayout.CacheGroupLayout) :
    Except HybridLayoutErrorCode GroupBlockTable :=
  GroupBlockTable.new group.groupId group.blockSize
    ((blockIdsByGroup.getD group.groupId []).map some)

def adaptKvCacheBlocks (blocks : KVCacheBlocks) (config : AdaptedKvCacheConfig) :
    Except VllmAdapterErrorCode AdaptedKvCacheBlocks := do
  let blockIdsByGroup ← copyBlockIds blocks config
  rejectObservableNullBlocks blocks blockIdsByGroup
  require (∀ group ∈ blockIdsByGroup, group.Nodup) .invalidBlockIds
  let groupedAllocation ← (GroupedBlockAllocation.capture config.controlPlaneLayout
    (integers blockIdsByGroup)).mapError (fun _ => .invalidBlockIds)
  let groupBlockTables ← (config.gptOssLayout.groups.mapM (blockTable blockIdsByGroup)).mapError
    (fun _ => .invalidBlockIds)
  .ok ⟨groupedAllocation, groupBlockTables⟩

end CacheBlend.VllmAdapters
