import Mathlib.Algebra.Group.Nat.Defs
import Mathlib.Data.List.Perm.Basic
import Mathlib.Data.List.Range

/-!
# The hybrid cache layout

GPT-OSS has one sliding-window and one full-attention cache group. Each group
has its own block table, and every layer of a group shares it.
-/

set_option autoImplicit false

namespace CacheBlend.HybridLayout

def gptOssNumCacheGroups : ℕ := 2
def gptOssSlidingWindow : ℕ := 128
def gptOssMaxContextTokens : ℕ := 131072
def maxVllmBlockId : ℕ := 2^31-1

inductive AttentionKind where
  | sliding
  | full
  deriving DecidableEq

inductive HybridLayoutErrorCode where
  | invalidGroupCount
  | invalidGroupId
  | duplicateGroupId
  | invalidLayerCount
  | invalidLayerName
  | duplicateLayerName
  | duplicateLayerIndex
  | layerIndexOutOfRange
  | attentionPatternMismatch
  | slidingWindowMismatch
  | invalidBlockSize
  | missingBlockTable
  | unexpectedBlockTable
  | duplicateBlockTable
  | blockSizeMismatch
  | invalidBlockId
  | emptyTransfer
  | rangeLengthMismatch
  | positionOutOfRange
  | blockTableTooShort
  | blockUnavailable
  | unknownGroup
  deriving DecidableEq

def AttentionKind.window : AttentionKind → Option ℕ
  | .sliding => some gptOssSlidingWindow
  | .full => none

structure CacheGroupLayout where
  groupId : ℕ
  attentionKind : AttentionKind
  layerNames : List String
  blockSize : ℕ
  slidingWindow : Option ℕ
  block_positive : 0 < blockSize
  window_eq : slidingWindow = attentionKind.window
  deriving DecidableEq

/-- Two groups, one of each kind, with the group identifiers zero and one. -/
structure GptOssHybridCacheLayout where
  groups : List CacheGroupLayout
  ids : (groups.map CacheGroupLayout.groupId).Perm (List.range gptOssNumCacheGroups)
  kinds : (groups.map CacheGroupLayout.attentionKind).Perm [.sliding, .full]
  names_nodup : (groups.flatMap CacheGroupLayout.layerNames).Nodup
  deriving DecidableEq

/-- The table of a group. An entry without identifier is an unavailable block. -/
structure GroupBlockTable where
  groupId : ℕ
  blockSize : ℕ
  blockIds : List (Option ℕ)
  block_positive : 0 < blockSize
  blocks_bounded : ∀ entry ∈ blockIds, ∀ b ∈ entry, b ≤ maxVllmBlockId
  deriving DecidableEq

def GroupBlockTable.new (groupId blockSize : ℕ) (blockIds : List (Option ℕ)) :
    Except HybridLayoutErrorCode GroupBlockTable :=
  if hs : 0 < blockSize then
    if hb : ∀ entry ∈ blockIds, ∀ b ∈ entry, b ≤ maxVllmBlockId then
      .ok ⟨groupId, blockSize, blockIds, hs, hb⟩
    else .error .invalidBlockId
  else .error .invalidBlockSize

theorem groups_length (l : GptOssHybridCacheLayout) : l.groups.length = gptOssNumCacheGroups := by
  have h := l.ids.length_eq
  rwa [List.length_map, List.length_range] at h

end CacheBlend.HybridLayout
