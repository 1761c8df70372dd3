import CacheBlend.ExactScatters
import CacheBlend.TorchYarn

/-!
# Keys moved to other positions

The data plane with the corrector of the worker. A document is gathered from
its blocks, its rows come back to a staging tensor at a later time, and they
are scattered to other positions of another request. The values are the old
ones, and every key is the one that the model rotates at the new position.
-/

set_option autoImplicit false

namespace CacheBlend.KeyRelocation
open CacheBlend.PlannerModels CacheBlend.HybridLayout CacheBlend.ScatterSpans
open CacheBlend.TokenScatter CacheBlend.DataPlane CacheBlend.PagedScatter CacheBlend.ExactScatters
open CacheBlend.YarnKeys CacheBlend.TorchYarn
noncomputable section

def stagedTensor (staging : TensorInfo) (rows : List (HeadRow ℝ)) : TorchTensor where
  tensor :=
    { info := { staging with shape := headShape rows.length }
      rows := rows
      exact := fun _ h => (List.cons.inj h).1 }
  object := 0
  storage := 0

def integers (positions : List ℕ) : List ℤ := positions.map Nat.cast

def planeCorrector (isDigit : Char → Bool) (pyRepr : String → String) (staging : TensorInfo) :
    KeyPositionCorrector ℝ := fun rows source target layerIndex =>
  (correct torchArithmetic isDigit pyRepr (stagedTensor staging rows) (integers source)
    (integers target) layerIndex).toOption.map TorchTensor.tensor

section
variable {isDigit : Char → Bool} {pyRepr : String → String} {staging : TensorInfo}

theorem integers_get {positions : List ℕ} {i position : ℕ} (h : positions[i]? = some position) :
    (integers positions)[i]? = some (position : ℤ) := by
  rw [integers, List.getElem?_map, h, Option.map_some]

theorem corrector_rowWise : RowWise (planeCorrector isDigit pyRepr staging)
    (fun _ source target row => turnedRow gptOssYarnInverseFrequencies row (target-source)) := by
  intro rows source target layerIndex tensor h i row s d hrow hs hd
  rcases Option.map_eq_some_iff.mp h with ⟨c, hc, rfl⟩
  rcases correct_iff.mp (toOption_some hc) with ⟨_, rfl⟩
  have hrow' : (stagedTensor staging rows).tensor.rows[i]? = some row := hrow
  simp [moved, turnedTensor, distances, List.getElem?_zipWith, hrow', integers_get hs,
    integers_get hd]

end

/-- The staging tensor that a retrieval fills: for the targets of the calls whose
sources the document holds, it has the rows that the store staged. -/
def Retrieved (document : TokenRange) (storeBufferOffset : ℤ) (calls : List ScatterCall)
    (stored retrieved : StagingCell → FlatRow ℝ) : Prop :=
  ∀ c ∈ calls, ∀ position, Holds c.plan.transfer.targetRange position →
    Holds document (c.plan.transfer.sourcePosition position) → ∀ component layerIndex,
      retrieved ⟨component, layerIndex, c.retrievalBufferOffset+position⟩ =
        stored ⟨component, layerIndex, storeBufferOffset+
          ((c.plan.transfer.sourcePosition position : ℤ)-document.start)⟩

/-- A key that was rotated at its old position is rotated at the new one, once it
is moved by the reference correction. -/
theorem relocated_reference {raw head head' : List ℝ} {s d : ℤ} (hs : 0 ≤ s) (hd : 0 ≤ d)
    (hmove : correctShiftedKey head s d gptOssYarnConfig = .ok head')
    (hraw : applyYarnToKey raw s gptOssYarnConfig = .ok head) :
    applyYarnToKey raw d gptOssYarnConfig = .ok head' := by
  rw [← applied_corrected gptOss_frequencies raw hs hd, hraw]
  exact hmove

/-- A store, a retrieval and a load move the rows of a document to the positions
of other requests. Whatever else happened to the memory in between, the values
are unchanged and each head of a key is rotated for its new position. -/
theorem documents_relocate (isDigit : Char → Bool) (pyRepr : String → String)
    (layout : LayeredCacheLayout) (sourceTables tables : List GroupBlockTable)
    (tensors tensors' : Tensors) (runtime : TensorRuntime) (plan : TokenScatterPlan)
    (storeBufferOffset : ℤ) (calls : List ScatterCall)
    (m m₁ m₂ m₃ : DataPlaneMemory ℝ) (receipt : DataPlaneReceipt)
    (receipts : List DataPlaneReceipt)
    (hblocks : ∀ table ∈ tables, DistinctBlocks table) (hdisjoint : DisjointTargets calls)
    (hplan : planTokenScatter layout sourceTables plan.transfer = .ok plan)
    (hplans : ∀ c ∈ calls, planTokenScatter layout tables c.plan.transfer = .ok c.plan)
    (hstore : gatherPrecomputedKv tensors runtime plan.layerSpans plan.transfer.targetRange
      storeBufferOffset m = (.ok receipt, m₁))
    (hretrieved : Retrieved plan.transfer.targetRange storeBufferOffset calls m₁.staging m₂.staging)
    (hload : scatterAll tensors' (planeCorrector isDigit pyRepr tensors'.staging) calls m₂ =
      (.ok receipts, m₃)) :
    m₁.paged = m.paged ∧ m₃.staging = m₂.staging ∧
    ∀ layer ∈ layout.layers, ∀ c ∈ calls, ∀ position,
      Holds c.plan.transfer.targetRange position →
      Holds plan.transfer.targetRange (c.plan.transfer.sourcePosition position) →
      ∃ old new, layerSlot sourceTables layer (c.plan.transfer.sourcePosition position) = some old ∧
        layerSlot tables layer position = some new ∧
        m₃.paged (slotCell layer .value new) = m.paged (slotCell layer .value old) ∧
        ∀ head,
          correctShiftedKey (List.ofFn (m.paged (slotCell layer .key old) head))
              (c.plan.transfer.sourcePosition position) position gptOssYarnConfig =
            .ok (List.ofFn (m₃.paged (slotCell layer .key new) head)) ∧
          ∀ raw, applyYarnToKey raw (c.plan.transfer.sourcePosition position) gptOssYarnConfig =
              .ok (List.ofFn (m.paged (slotCell layer .key old) head)) →
            applyYarnToKey raw position gptOssYarnConfig =
              .ok (List.ofFn (m₃.paged (slotCell layer .key new) head)) := by
  have ⟨hpaged, gathered, hgathered, hstaging⟩ := gather_returns hstore
  have ⟨hkept, ws, hws, hwritten⟩ := scatterAll_returns calls hload
  have hexact := writes_exact hblocks hdisjoint hplans hws hkept hwritten
  refine ⟨hpaged, hkept, fun layer hl c hc position ht hs => ?_⟩
  have hsame := hretrieved c hc position ht hs
  rcases gather_exact hplan hgathered hstaging hl hs .value with ⟨old, hold, hvalue⟩
  rcases gather_exact hplan hgathered hstaging hl hs .key with ⟨old', hold', hkey⟩
  rcases hexact.value layer hl c hc position ht with ⟨new, hnew, hvalue'⟩
  rcases hexact.key layer hl c hc position ht with ⟨new', hnew', span, hspan, _, hindex, hh, hrow⟩
  cases hold.symm.trans hold'
  cases hnew.symm.trans hnew'
  refine ⟨old, new, hold, hnew, ?_, fun head => ?_⟩
  · rw [hvalue', hsame, hvalue, heads_flatten]
  · have hturned := correctedRow_rotated corrector_rowWise (hplans c hc) hspan hh hrow
    rw [hindex, hsame, hkey, heads_flatten] at hturned
    have hmove : correctShiftedKey (List.ofFn (m.paged (slotCell layer .key old) head))
        (c.plan.transfer.sourcePosition position) position gptOssYarnConfig =
          .ok (List.ofFn (m₃.paged (slotCell layer .key new) head)) := by
      rw [turnedHead_reference _ (Int.natCast_nonneg _) (Int.natCast_nonneg _), hturned]
      rfl
    exact ⟨hmove, fun raw hraw =>
      relocated_reference (Int.natCast_nonneg _) (Int.natCast_nonneg _) hmove hraw⟩

/-! ## A document in two requests -/

instance (isDigit : Char → Bool) (info : TensorInfo) (source target : List ℤ) (layerIndex : ℤ) :
    Decidable (Accepted isDigit info source target layerIndex) :=
  decidable_of_iff ((0 ≤ layerIndex ∧ layerIndex < gptOssNumLayers) ∧
    info.shape = headShape source.length ∧ 0 < source.length ∧ info.dtypeName = gptOssKvDtype ∧
    isIndexedCudaDevice isDigit info.deviceName = true ∧ target.length = source.length ∧
    (∀ p ∈ source, 0 ≤ p ∧ p < gptOssMaxContextTokens) ∧
    ∀ p ∈ target, 0 ≤ p ∧ p < gptOssMaxContextTokens)
    ⟨fun ⟨h₁, h₂, h₃, h₄, h₅, h₆, h₇, h₈⟩ => ⟨h₁, h₂, h₃, h₄, h₅, h₆, h₇, h₈⟩,
      fun ⟨h₁, h₂, h₃, h₄, h₅, h₆, h₇, h₈⟩ => ⟨h₁, h₂, h₃, h₄, h₅, h₆, h₇, h₈⟩⟩

theorem corrector_eq (isDigit : Char → Bool) (pyRepr : String → String) (staging : TensorInfo) :
    planeCorrector isDigit pyRepr staging = fun rows source target layerIndex =>
      if h : Accepted isDigit (stagedTensor staging rows).tensor.info (integers source)
          (integers target) layerIndex
      then some (moved (stagedTensor staging rows) (integers source) (integers target) h).tensor
      else none := by
  ext rows source target layerIndex tensor
  by_cases h : Accepted isDigit (stagedTensor staging rows).tensor.info (integers source)
    (integers target) layerIndex
  · rw [dif_pos h, planeCorrector, correct_accepts h]
    rfl
  · rw [dif_neg h, planeCorrector]
    cases hc : correct torchArithmetic isDigit pyRepr (stagedTensor staging rows)
        (integers source) (integers target) layerIndex with
    | error e => rfl
    | ok c => exact absurd (correct_iff.mp hc).choose h

def storedTransfer : TokenTransfer where
  sourceRange := ⟨0, 16, Nat.zero_le _⟩
  targetRange := ⟨0, 16, Nat.zero_le _⟩
  target_nonempty := by decide
  size_eq := rfl
  source_bounded := by decide
  target_bounded := by decide

theorem loaded_ordered : 0 ≤ 16 := Nat.zero_le 16

theorem loaded_bounded : 16 ≤ gptOssMaxContextTokens := by decide

theorem loaded_size : (TokenRange.mk 0 16 loaded_ordered).size = firstTransfer.targetRange.size :=
  rfl

/-- The tokens of the first transfer, from the start of a document. -/
def loadedTransfer : TokenTransfer where
  sourceRange := ⟨0, 16, loaded_ordered⟩
  targetRange := firstTransfer.targetRange
  target_nonempty := firstTransfer.target_nonempty
  size_eq := loaded_size
  source_bounded := loaded_bounded
  target_bounded := firstTransfer.target_bounded

theorem planOf_transfer (transfer : TokenTransfer) : (planOf transfer).transfer = transfer := by
  rw [planOf]
  cases h : planTokenScatter alternatingLayout twoTables transfer with
  | error e => rfl
  | ok plan => exact planned_transfer h

def numberedBlocks : DataPlaneMemory ℝ where
  paged cell _ _ := cell.block
  staging _ _ := 0

@[irreducible] def storedRun : Except DataPlaneError DataPlaneReceipt × DataPlaneMemory ℝ :=
  gatherPrecomputedKv smallTensors steadyRuntime (planOf storedTransfer).layerSpans
    storedTransfer.targetRange 0 numberedBlocks

def loadedCalls : List ScatterCall := [⟨planOf loadedTransfer, 4, 60, steadyRuntime⟩]

def returned : DataPlaneMemory ℝ where
  paged := storedRun.2.paged
  staging cell := storedRun.2.staging ⟨cell.component, cell.layerIndex, cell.token-44⟩

theorem returned_staging (component : KvComponent) (layerIndex token : ℤ) :
    returned.staging ⟨component, layerIndex, token⟩ =
      storedRun.2.staging ⟨component, layerIndex, token-44⟩ := rfl

@[irreducible] def loadedRun : Except DataPlaneError (List DataPlaneReceipt) × DataPlaneMemory ℝ :=
  scatterAll smallTensors (planeCorrector (fun c => c.isDigit) id smallTensors.staging) loadedCalls
    returned

theorem storedRun_eq : storedRun = gatherPrecomputedKv smallTensors steadyRuntime
    (planOf storedTransfer).layerSpans (planOf storedTransfer).transfer.targetRange 0
      numberedBlocks := by
  delta storedRun
  rw [planOf_transfer]

theorem loadedRun_eq : loadedRun = scatterAll smallTensors
    (planeCorrector (fun c => c.isDigit) id smallTensors.staging) loadedCalls returned := by
  delta loadedRun
  rfl

theorem document_relocated :
    loadedRun.2.paged ⟨layerName 5, .value, 0, 2⟩ = (fun _ _ => 2) ∧
      correctShiftedKey (List.ofFn fun _ : Fin gptOssHeadDim => 2) 10 50 gptOssYarnConfig =
        .ok (List.ofFn (loadedRun.2.paged ⟨layerName 5, .key, 0, 2⟩ ⟨0, Nat.succ_pos 7⟩)) := by
  have hstored : storedRun.1.toOption.isSome = true := by decide +kernel
  have hloaded : loadedRun.1.toOption.isSome = true := by
    rw [loadedRun_eq, corrector_eq]
    decide +kernel
  rcases Option.isSome_iff_exists.mp hstored with ⟨receipt, hreceipt⟩
  rcases Option.isSome_iff_exists.mp hloaded with ⟨receipts, hreceipts⟩
  have hplan : planTokenScatter alternatingLayout twoTables (planOf storedTransfer).transfer =
      .ok (planOf storedTransfer) := by
    decide +kernel
  have hplans : ∀ c ∈ loadedCalls,
      planTokenScatter alternatingLayout twoTables c.plan.transfer = .ok c.plan := by
    decide +kernel
  have hlayer : layerOf 5 ∈ alternatingLayout.layers := List.mem_map.mpr ⟨5, by decide, rfl⟩
  have hretrieved : Retrieved (planOf storedTransfer).transfer.targetRange 0 loadedCalls
      storedRun.2.staging returned.staging := by
    intro c hc position ht _ component layerIndex
    cases List.mem_singleton.mp hc
    simp only [planOf_transfer] at ht ⊢
    rw [returned_staging]
    have hlow : 40 ≤ position := ht.1
    have hsource : loadedTransfer.sourcePosition position = position-40 := by
      show 0+position-40 = _
      rw [Nat.zero_add]
    have htoken : (4+position-44 : ℤ) =
        0+((loadedTransfer.sourcePosition position : ℤ)-(0 : ℕ)) := by
      rw [hsource]
      omega
    rw [htoken]
    rfl
  have h := (documents_relocate (fun c => c.isDigit) id alternatingLayout twoTables twoTables
    smallTensors smallTensors steadyRuntime (planOf storedTransfer) 0 loadedCalls numberedBlocks
    storedRun.2 returned loadedRun.2 receipt receipts (by decide) (by decide +kernel) hplan hplans
    (storedRun_eq.symm.trans (Prod.ext (toOption_some hreceipt) rfl)) hretrieved
    (loadedRun_eq.symm.trans (Prod.ext (toOption_some hreceipts) rfl))).2.2 (layerOf 5) hlayer _
    List.mem_cons_self 50 (by decide +kernel) (by decide +kernel)
  rcases h with ⟨old, new, hold, hnew, hvalue, hkey⟩
  have holdSlot : layerSlot twoTables (layerOf 5)
      ((planOf loadedTransfer).transfer.sourcePosition 50) =
      some (2, 10) := by
    decide +kernel
  have hnewSlot : layerSlot twoTables (layerOf 5) 50 = some (0, 2) := by decide +kernel
  have hsource : (planOf loadedTransfer).transfer.sourcePosition 50 = 10 := by
    rw [planOf_transfer]
    rfl
  have hrow : ∀ component,
      numberedBlocks.paged (slotCell (layerOf 5) component (2, 10)) = fun _ _ => 2 := by
    intro component
    ext head i
    show (((2 : ℕ) : ℤ) : ℝ) = 2
    norm_num
  have hcell : ∀ component,
      slotCell (layerOf 5) component (0, 2) = ⟨layerName 5, component, 0, 2⟩ :=
    fun _ => rfl
  rw [Option.some.inj (hold.symm.trans holdSlot), Option.some.inj (hnew.symm.trans hnewSlot),
    hrow, hcell] at hvalue
  have hmove := (hkey ⟨0, Nat.succ_pos 7⟩).1
  rw [Option.some.inj (hold.symm.trans holdSlot), Option.some.inj (hnew.symm.trans hnewSlot),
    hrow, hcell, hsource] at hmove
  exact ⟨hvalue, hmove⟩

end

end CacheBlend.KeyRelocation
