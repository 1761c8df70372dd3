import CacheBlend.HybridLayout
import CacheBlend.PlannerModels

/-!
# Scatter spans

A span maps a run of target positions to a run of physical slots in one block
of the cache. Spans are plain values: whether a span lies in its block is
checked by the planners that accept it.
-/

set_option autoImplicit false

namespace CacheBlend.ScatterSpans
open CacheBlend.PlannerModels CacheBlend.HybridLayout

def gptOssNumLayers : ℕ := 24

structure GroupTokenScatterSpan where
  groupId : ℤ
  attentionKind : AttentionKind
  sourceRange : TokenRange
  targetRange : TokenRange
  logicalBlockIndex : ℤ
  blockId : ℤ
  blockSize : ℤ
  blockOffset : ℤ
  physicalSlotStart : ℤ
  deriving DecidableEq

structure LayerTokenScatterSpan where
  layerName : String
  layerIndex : ℤ
  groupSpan : GroupTokenScatterSpan
  deriving DecidableEq

namespace LayerTokenScatterSpan

def attentionKind (s : LayerTokenScatterSpan) : AttentionKind := s.groupSpan.attentionKind

def sourceRange (s : LayerTokenScatterSpan) : TokenRange := s.groupSpan.sourceRange

def targetRange (s : LayerTokenScatterSpan) : TokenRange := s.groupSpan.targetRange

def tokenCount (s : LayerTokenScatterSpan) : ℕ := s.targetRange.size

def physicalSlotStart (s : LayerTokenScatterSpan) : ℤ := s.groupSpan.physicalSlotStart

end LayerTokenScatterSpan

def layerName (layerIndex : ℤ) : String := s!"model.layers.{layerIndex}.attn.attn"

/-- Even layers use the sliding window. -/
def expectedKind (layerIndex : ℤ) : AttentionKind :=
  if layerIndex%2 = 0 then .sliding else .full

def Holds (r : TokenRange) (position : ℕ) : Prop := r.start ≤ position ∧ position < r.stop

instance (r : TokenRange) (position : ℕ) : Decidable (Holds r position) :=
  inferInstanceAs (Decidable (_ ∧ _))

def rows (s : LayerTokenScatterSpan) : List (ℕ × ℤ) :=
  (List.range s.tokenCount).map (fun offset =>
    (s.targetRange.start+offset, s.physicalSlotStart+offset))

theorem mem_rows (s : LayerTokenScatterSpan) (position : ℕ) (slot : ℤ) :
    (position, slot) ∈ rows s ↔ Holds s.targetRange position ∧
      slot = s.physicalSlotStart+(position-s.targetRange.start : ℤ) := by
  have hordered := s.targetRange.ordered
  unfold rows Holds LayerTokenScatterSpan.tokenCount TokenRange.size
  rw [List.mem_map]
  constructor
  · rintro ⟨offset, ho, he⟩
    cases he
    have hlt := List.mem_range.mp ho
    exact ⟨⟨by omega, by omega⟩, by omega⟩
  · rintro ⟨⟨hl, hr⟩, rfl⟩
    refine ⟨position-s.targetRange.start, List.mem_range.mpr (by omega), ?_⟩
    rw [Prod.mk.injEq]
    exact ⟨by omega, by omega⟩

theorem rows_nodup (s : LayerTokenScatterSpan) : (rows s).Nodup := by
  refine List.nodup_range.map fun a b h => ?_
  have hp := congrArg Prod.fst h
  dsimp only at hp
  omega

/-- Ranges in order, none reaching into the next. -/
def Ascending (ranges : List TokenRange) : Prop :=
  ranges.Pairwise (fun r r' => r.stop ≤ r'.start)

theorem rows_flatMap_nodup (spans : List LayerTokenScatterSpan)
    (h : Ascending (spans.map LayerTokenScatterSpan.targetRange)) :
    (spans.flatMap rows).Nodup := by
  rw [List.nodup_flatMap]
  refine ⟨fun s _ => rows_nodup s, (List.pairwise_map.mp h).imp fun {s s'} hs => ?_⟩
  intro row hrow hrow'
  obtain ⟨position, slot⟩ := row
  have hl := ((mem_rows s position slot).mp hrow).1
  have hr := ((mem_rows s' position slot).mp hrow').1
  exact absurd (lt_of_lt_of_le hl.2 (hs.trans hr.1)) (lt_irrefl _)

end CacheBlend.ScatterSpans
