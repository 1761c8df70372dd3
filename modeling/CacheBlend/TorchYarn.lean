import CacheBlend.DataPlane
import CacheBlend.YarnKeys

/-!
# The key corrector of the worker

The corrector checks one slice of keys and its positions, turns every row by
the distance it moves, and checks that the result is of the same kind and in
storage of its own. Over exact real numbers every head of every row is the
reference correction between its two positions.
-/

set_option autoImplicit false

namespace CacheBlend.TorchYarn
open CacheBlend.HybridLayout CacheBlend.ScatterSpans CacheBlend.DataPlane CacheBlend.YarnKeys
open CacheBlend.PairRotations
noncomputable section

def gptOssKvDtype : String := "torch.bfloat16"

theorem headDim_pos : 0 < gptOssHeadDim := by decide

theorem headDim_even : gptOssHeadDim%2 = 0 := by decide

theorem theta_pos : (0 : ℝ) < 150000 := by norm_num

theorem factor_pos : (0 : ℝ) < 32 := by norm_num

theorem positions_pos : 0 < 4096 := by decide

theorem unit_pos : (0 : ℝ) < 1 := one_pos

theorem unit_nonneg : (0 : ℝ) ≤ 1 := zero_le_one

def gptOssYarnConfig : YarnRopeConfig where
  headDim := gptOssHeadDim
  ropeTheta := 150000
  factor := 32
  originalMaxPositionEmbeddings := 4096
  betaFast := 32
  betaSlow := 1
  truncate := false
  extrapolationFactor := 1
  attentionFactor := 1
  headDim_positive := headDim_pos
  headDim_even := headDim_even
  ropeTheta_positive := theta_pos
  factor_positive := factor_pos
  positions_positive := positions_pos
  betaFast_positive := factor_pos
  betaSlow_positive := unit_pos
  extrapolation_nonneg := unit_nonneg
  attention_positive := unit_pos

/-- The import of the module raises where the frequencies do. -/
def gptOssYarnInverseFrequencies : List ℝ :=
  (yarnInverseFrequencies gptOssYarnConfig).toOption.getD []

inductive TorchYarnErrorCode where
  | invalidTensor
  | invalidShape
  | invalidDtype
  | invalidDevice
  | invalidPositions
  | invalidLayer
  | arithmeticFailed
  | invalidOutput
  | outputAliasesInput
  deriving DecidableEq

structure TorchYarnError where
  code : TorchYarnErrorCode
  message : String
  deriving DecidableEq

/-- The injected arithmetic. Any of its operations may raise. -/
structure YarnTensorArithmetic (τ : Type) where
  shape : τ → Option (List ℤ)
  dtypeName : τ → Option String
  deviceName : τ → Option String
  rotateNeoxDeltaFp32 : τ → List ℤ → List ℝ → Option τ
  sharesStorage : τ → τ → Option Bool
  /-- The identity test of the language. -/
  isSame : τ → τ → Bool

structure Inspection where
  shape : List ℤ
  dtypeName : String
  deviceName : String
  deriving DecidableEq

def required {α : Type} (e : TorchYarnError) : Option α → Except TorchYarnError α
  | some a => .ok a
  | none => .error e

def isIndexedCudaDevice (isDigit : Char → Bool) (value : String) : Bool :=
  let index := value.toList.drop "cuda:".length
  "cuda:".toList.isPrefixOf value.toList && !index.isEmpty && index.all isDigit

def validatePositions (name : String) (positions : List ℤ) (tokenCount : ℤ) :
    Except TorchYarnError Unit := do
  require (positions.length = tokenCount) ⟨.invalidPositions,
    name ++ " must be a tuple containing exactly one position per token"⟩
  require (∀ p ∈ positions, 0 ≤ p ∧ p < gptOssMaxContextTokens)
    ⟨.invalidPositions, name ++ " entries must be plain integers in [0, 131071]"⟩

/-- The number of tokens of a slice of keys, when its shape is one of a slice. -/
def sliceTokens : List ℤ → Option ℤ
  | [tokens, kvHeads, headDim] =>
    if 0 < tokens ∧ kvHeads = gptOssNumKvHeads ∧ headDim = gptOssHeadDim then some tokens
    else none
  | _ => none

section
variable {τ : Type} (arithmetic : YarnTensorArithmetic τ) (isDigit : Char → Bool)
  (pyRepr : String → String)

def inspect (tensor : τ) : Except TorchYarnError Inspection := do
  let observed ← required ⟨.invalidTensor, "could not inspect GPT-OSS K tensor"⟩ (do
    let shape ← arithmetic.shape tensor
    let dtypeName ← arithmetic.dtypeName tensor
    let deviceName ← arithmetic.deviceName tensor
    some ⟨shape, dtypeName, deviceName⟩)
  require ((∀ dimension ∈ observed.shape, 0 ≤ dimension) ∧ observed.dtypeName ≠ "" ∧
    observed.deviceName ≠ "") ⟨.invalidTensor, "invalid K tensor metadata"⟩
  .ok observed

def inspectOutput (tensor : τ) : Except TorchYarnError Inspection :=
  (inspect arithmetic tensor).mapError fun _ =>
    ⟨.invalidOutput, "could not inspect corrected K tensor"⟩

/-- `GptOssTorchYarnCorrector.__call__`. -/
def correct (keyRows : τ) (sourcePositions targetPositions : List ℤ) (layerIndex : ℤ) :
    Except TorchYarnError τ := do
  require (0 ≤ layerIndex ∧ layerIndex < gptOssNumLayers)
    ⟨.invalidLayer, "layer_index must be a plain integer in [0, 23]"⟩
  let input ← inspect arithmetic keyRows
  let tokenCount ← required
    ⟨.invalidShape, "GPT-OSS K must have shape [tokens, 8, 64] with tokens > 0"⟩
    (sliceTokens input.shape)
  require (input.dtypeName = gptOssKvDtype) ⟨.invalidDtype,
    "GPT-OSS K must use " ++ gptOssKvDtype ++ "; got " ++ pyRepr input.dtypeName⟩
  require (isIndexedCudaDevice isDigit input.deviceName)
    ⟨.invalidDevice, "GPT-OSS K must be on an explicitly indexed CUDA device"⟩
  validatePositions "source_positions" sourcePositions tokenCount
  validatePositions "target_positions" targetPositions tokenCount
  let deltas := List.zipWith (fun source target => target-source) sourcePositions targetPositions
  let corrected ← required
    ⟨.arithmeticFailed, "out-of-place FP32 NeoX delta rotation failed"⟩
    (arithmetic.rotateNeoxDeltaFp32 keyRows deltas gptOssYarnInverseFrequencies)
  let output ← inspectOutput arithmetic corrected
  require (output = input)
    ⟨.invalidOutput, "corrected K must preserve input shape, dtype, and device"⟩
  let aliases ← required
    ⟨.invalidOutput, "could not verify corrected K storage independence"⟩
    (if arithmetic.isSame corrected keyRows then some true
      else arithmetic.sharesStorage corrected keyRows)
  require (aliases = false)
    ⟨.outputAliasesInput, "corrected K must not alias cached K input storage"⟩
  .ok corrected

end

/-! ## Tensors of exact numbers -/

/-- A tensor in a storage. Over exact numbers no cast changes an element. -/
structure TorchTensor where
  tensor : KeyTensor ℝ
  object : ℕ
  storage : ℕ

def turnedHead (inverseFrequencies : List ℝ) (delta : ℤ) (head : Fin gptOssHeadDim → ℝ) :
    Fin gptOssHeadDim → ℝ := fun i =>
  if h : i.val < gptOssHeadDim/2 then
    let angle := delta*entry inverseFrequencies i
    head i*Real.cos angle-head ⟨i.val+gptOssHeadDim/2, Nat.add_lt_add_right h _⟩*Real.sin angle
  else
    let angle := delta*entry inverseFrequencies (i.val-gptOssHeadDim/2)
    head i*Real.cos angle+
      head ⟨i.val-gptOssHeadDim/2, (Nat.sub_le _ _).trans_lt i.isLt⟩*Real.sin angle

def turnedRow (inverseFrequencies : List ℝ) (row : HeadRow ℝ) (delta : ℤ) : HeadRow ℝ :=
  fun head => turnedHead inverseFrequencies delta (row head)

def turnedTensor (t : KeyTensor ℝ) (deltas : List ℤ) (inverseFrequencies : List ℝ)
    (h : t.info.shape = headShape deltas.length) : KeyTensor ℝ where
  info := t.info
  rows := List.zipWith (turnedRow inverseFrequencies) t.rows deltas
  exact n hn := by
    have hd : deltas.length = n := (List.cons.inj (h.symm.trans hn)).1
    rw [List.length_zipWith, t.exact n hn, hd, min_self]

/-- `TorchYarnTensorArithmetic`: the concatenated halves are a new tensor in new storage. -/
def torchArithmetic : YarnTensorArithmetic TorchTensor where
  shape t := some (t.tensor.info.shape.map Nat.cast)
  dtypeName t := some t.tensor.info.dtypeName
  deviceName t := some t.tensor.info.deviceName
  rotateNeoxDeltaFp32 t deltas inverseFrequencies :=
    if h : t.tensor.info.shape = headShape deltas.length then
      if inverseFrequencies.length = gptOssHeadDim/2 then
        some ⟨turnedTensor t.tensor deltas inverseFrequencies h, t.object+1, t.storage+1⟩
      else none
    else none
  sharesStorage left right := some (left.storage = right.storage)
  isSame left right := left.object = right.object

/-! ## Agreement with the reference -/

theorem gptOss_frequencies :
    yarnInverseFrequencies gptOssYarnConfig = .ok gptOssYarnInverseFrequencies := by
  have htheta : gptOssYarnConfig.ropeTheta ≠ 1 := by
    show (150000 : ℝ) ≠ 1
    norm_num
  rcases (frequencies_defined_iff gptOssYarnConfig).mpr htheta with ⟨fs, hfs⟩
  rw [gptOssYarnInverseFrequencies, hfs]
  rfl

theorem gptOss_pairs : gptOssYarnInverseFrequencies.length = gptOssHeadDim/2 := by
  have h := frequencies_length gptOss_frequencies
  change gptOssHeadDim = _ at h
  omega

theorem entry_ofFn {n i : ℕ} (f : Fin n → ℝ) (h : i < n) : entry (List.ofFn f) i = f ⟨i, h⟩ := by
  have hl : i < (List.ofFn f).length := by rwa [List.length_ofFn]
  rw [entry, List.getD_eq_getElem _ _ hl, List.getElem_ofFn]

theorem turnedHead_rotated (fs : List ℝ) (delta : ℤ) (head : Fin gptOssHeadDim → ℝ) :
    List.ofFn (turnedHead fs delta head) =
      rotated (gptOssHeadDim/2) (fun i => delta*entry fs i) 1 (List.ofFn head) := by
  have hdim : gptOssHeadDim = 2*(gptOssHeadDim/2) := rfl
  apply rotated_of_entries (List.length_ofFn.trans hdim)
  · intro i hi
    rw [entry_ofFn _ (show i < gptOssHeadDim by omega),
      entry_ofFn _ (show i < gptOssHeadDim by omega),
      entry_ofFn _ (show i+gptOssHeadDim/2 < gptOssHeadDim by omega)]
    simp [turnedHead, rotateFirst, hi]
  · intro i hi
    rw [entry_ofFn _ (show i+gptOssHeadDim/2 < gptOssHeadDim by omega),
      entry_ofFn _ (show i < gptOssHeadDim by omega),
      entry_ofFn _ (show i+gptOssHeadDim/2 < gptOssHeadDim by omega)]
    simp [turnedHead, rotateSecond]

theorem turnedHead_reference (head : Fin gptOssHeadDim → ℝ) {s t : ℤ} (hs : 0 ≤ s)
    (ht : 0 ≤ t) : correctShiftedKey (List.ofFn head) s t gptOssYarnConfig =
      .ok (List.ofFn (turnedHead gptOssYarnInverseFrequencies (t-s) head)) := by
  have hl : (List.ofFn head).length = gptOssYarnConfig.headDim := List.length_ofFn
  rw [correct_returns gptOss_frequencies hl hs ht, turnedHead_rotated, gptOss_pairs]

/-- The slices and positions that the corrector takes. -/
structure Accepted (isDigit : Char → Bool) (info : TensorInfo) (source target : List ℤ)
    (layerIndex : ℤ) : Prop where
  layer : 0 ≤ layerIndex ∧ layerIndex < gptOssNumLayers
  shape : info.shape = headShape source.length
  tokens : 0 < source.length
  dtype : info.dtypeName = gptOssKvDtype
  device : isIndexedCudaDevice isDigit info.deviceName = true
  lengths : target.length = source.length
  source_bounded : ∀ p ∈ source, 0 ≤ p ∧ p < gptOssMaxContextTokens
  target_bounded : ∀ p ∈ target, 0 ≤ p ∧ p < gptOssMaxContextTokens

def distances (source target : List ℤ) : List ℤ :=
  List.zipWith (fun source target => target-source) source target

theorem distances_length {source target : List ℤ} (h : target.length = source.length) :
    (distances source target).length = source.length := by
  rw [distances, List.length_zipWith, h, min_self]

section
variable {isDigit : Char → Bool} {pyRepr : String → String} {t c : TorchTensor}
  {source target : List ℤ} {layerIndex : ℤ}

def inspection (info : TensorInfo) : Inspection :=
  ⟨info.shape.map Nat.cast, info.dtypeName, info.deviceName⟩

theorem inspect_iff {o : Inspection} : inspect torchArithmetic t = .ok o ↔
    (t.tensor.info.dtypeName ≠ "" ∧ t.tensor.info.deviceName ≠ "") ∧
      inspection t.tensor.info = o := by
  have hcast : ∀ dimension ∈ (inspection t.tensor.info).shape, 0 ≤ dimension := by
    intro dimension h
    rcases List.mem_map.mp h with ⟨n, _, rfl⟩
    exact Int.natCast_nonneg n
  show (require.{0,0} ((∀ dimension ∈ (inspection t.tensor.info).shape, 0 ≤ dimension) ∧
    t.tensor.info.dtypeName ≠ "" ∧ t.tensor.info.deviceName ≠ "") _ >>= fun _ => _) = _ ↔ _
  rw [require_then_iff]
  constructor
  · intro ⟨h, ho⟩
    exact ⟨h.2, Except.ok.inj ho⟩
  · intro ⟨h, ho⟩
    exact ⟨⟨hcast, h⟩, congrArg Except.ok ho⟩

theorem sliceTokens_iff {shape : List ℕ} {n : ℤ} :
    sliceTokens (shape.map Nat.cast) = some n ↔ 0 < n ∧ shape = headShape n.toNat := by
  constructor
  · intro h
    rcases shape with _ | ⟨a, _ | ⟨b, _ | ⟨c, _ | ⟨d, rest⟩⟩⟩⟩
    case cons.cons.cons.nil =>
      simp only [sliceTokens, List.map_cons, List.map_nil, Option.ite_none_right_eq_some,
        Option.some.injEq, Nat.cast_inj] at h
      rcases h with ⟨⟨ha, hb, hc⟩, rfl⟩
      exact ⟨ha, by simp [headShape, hb, hc]⟩
    all_goals simp [sliceTokens] at h
  · intro ⟨hn, hshape⟩
    have hcast : (n.toNat : ℤ) = n := Int.toNat_of_nonneg hn.le
    simp [hshape, headShape, sliceTokens, hcast, hn]

theorem required_then_iff {α β : Type} (e : TorchYarnError) (x : Option α)
    (f : α → Except TorchYarnError β) (b : β) :
    (required e x >>= f) = .ok b ↔ ∃ a, x = some a ∧ f a = .ok b := by
  cases x <;> simp [required, Except.bind, bind]

theorem validatePositions_iff (name : String) (positions : List ℤ) (n : ℤ) (u : Unit) :
    validatePositions name positions n = .ok u ↔
      (positions.length : ℤ) = n ∧ ∀ p ∈ positions, 0 ≤ p ∧ p < gptOssMaxContextTokens := by
  rw [validatePositions, require_then_iff, require_ok_iff]

def moved (t : TorchTensor) (source target : List ℤ)
    (h : Accepted isDigit t.tensor.info source target layerIndex) : TorchTensor :=
  ⟨turnedTensor t.tensor (distances source target) gptOssYarnInverseFrequencies
    (h.shape.trans (congrArg headShape (distances_length h.lengths).symm)),
    t.object+1, t.storage+1⟩

theorem rotate_accepted (h : Accepted isDigit t.tensor.info source target layerIndex) :
    torchArithmetic.rotateNeoxDeltaFp32 t (distances source target)
      gptOssYarnInverseFrequencies = some (moved t source target h) := by
  have hshape : t.tensor.info.shape = headShape (distances source target).length :=
    h.shape.trans (congrArg headShape (distances_length h.lengths).symm)
  show (if h : t.tensor.info.shape = headShape (distances source target).length then _ else _) = _
  rw [dif_pos hshape, if_pos gptOss_pairs]
  rfl

theorem correct_accepts (h : Accepted isDigit t.tensor.info source target layerIndex) :
    correct torchArithmetic isDigit pyRepr t source target layerIndex =
      .ok (moved t source target h) := by
  have hdtype : t.tensor.info.dtypeName ≠ "" := by
    rw [h.dtype]
    decide
  have hdevice : t.tensor.info.deviceName ≠ "" := by
    intro he
    have hd := h.device
    rw [he] at hd
    exact absurd hd (by simp [isIndexedCudaDevice])
  have hslice : sliceTokens (inspection t.tensor.info).shape = some (source.length : ℤ) :=
    sliceTokens_iff.mpr ⟨Int.natCast_pos.mpr h.tokens, h.shape⟩
  have hin : inspect torchArithmetic t = .ok (inspection t.tensor.info) :=
    inspect_iff.mpr ⟨⟨hdtype, hdevice⟩, rfl⟩
  have hout : inspect torchArithmetic (moved t source target h) =
      .ok (inspection t.tensor.info) := inspect_iff.mpr ⟨⟨hdtype, hdevice⟩, rfl⟩
  rw [correct, require_then_iff]
  refine ⟨h.layer, ?_⟩
  rw [hin]
  apply (required_then_iff ..).mpr
  refine ⟨_, hslice, ?_⟩
  rw [require_then_iff, require_then_iff]
  refine ⟨h.dtype, h.device, ?_⟩
  apply (checked_ok_iff ..).mpr
  refine ⟨⟨⟩, (validatePositions_iff ..).mpr ⟨rfl, h.source_bounded⟩, ?_⟩
  apply (checked_ok_iff ..).mpr
  refine ⟨⟨⟩, (validatePositions_iff ..).mpr ⟨by rw [h.lengths], h.target_bounded⟩, ?_⟩
  apply (required_then_iff ..).mpr
  refine ⟨_, rotate_accepted h, ?_⟩
  rw [inspectOutput, hout]
  show (require (inspection t.tensor.info = inspection t.tensor.info) _ >>= fun _ => _) = _
  rw [require_then_iff]
  refine ⟨rfl, ?_⟩
  have hsame : torchArithmetic.isSame (moved t source target h) t = false :=
    decide_eq_false (Nat.succ_ne_self _)
  have hstorage : torchArithmetic.sharesStorage (moved t source target h) t = some false :=
    congrArg some (decide_eq_false (Nat.succ_ne_self _))
  rw [hsame, hstorage]
  rfl

theorem correct_iff : correct torchArithmetic isDigit pyRepr t source target layerIndex = .ok c ↔
    ∃ h : Accepted isDigit t.tensor.info source target layerIndex,
      moved t source target h = c := by
  constructor
  · intro hc
    have ⟨hlayer, hr⟩ := (require_then_iff ..).mp hc
    rcases (checked_ok_iff ..).mp hr with ⟨input, hin, hr⟩
    rcases (required_then_iff ..).mp hr with ⟨n, hn, hr⟩
    have ⟨hdtype, hr⟩ := (require_then_iff ..).mp hr
    have ⟨hdevice, hr⟩ := (require_then_iff ..).mp hr
    rcases (checked_ok_iff ..).mp hr with ⟨_, hs, hr⟩
    rcases (checked_ok_iff ..).mp hr with ⟨_, ht, _⟩
    have ⟨hlength, hsource⟩ := (validatePositions_iff ..).mp hs
    have ⟨hlength', htarget⟩ := (validatePositions_iff ..).mp ht
    have ⟨_, hinput⟩ := inspect_iff.mp hin
    subst hinput
    have ⟨hpos, hshape⟩ := sliceTokens_iff.mp hn
    rw [← hlength, Int.toNat_natCast] at hshape
    have h : Accepted isDigit t.tensor.info source target layerIndex :=
      ⟨hlayer, hshape, by omega, hdtype, hdevice, by omega, hsource, htarget⟩
    exact ⟨h, Except.ok.inj ((correct_accepts h).symm.trans hc)⟩
  · intro ⟨h, he⟩
    rw [correct_accepts h, he]

theorem correct_defined_iff :
    (∃ c, correct torchArithmetic isDigit pyRepr t source target layerIndex = .ok c) ↔
      Accepted isDigit t.tensor.info source target layerIndex := by
  constructor
  · intro ⟨_, hc⟩
    exact (correct_iff.mp hc).choose
  · intro h
    exact ⟨_, correct_accepts h⟩

end

/-! ## Corrections one after the other -/

theorem turnedHead_turnedHead (fs : List ℝ) (a b : ℤ) (head : Fin gptOssHeadDim → ℝ) :
    turnedHead fs b (turnedHead fs a head) = turnedHead fs (a+b) head := by
  apply List.ofFn_injective
  rw [turnedHead_rotated, turnedHead_rotated, turnedHead_rotated, rotated_rotated, mul_one]
  apply rotated_congr
  intro i _
  push_cast
  ring

theorem turnedHead_zero (fs : List ℝ) (head : Fin gptOssHeadDim → ℝ) :
    turnedHead fs 0 head = head := by
  apply List.ofFn_injective
  rw [turnedHead_rotated]
  apply rotated_zero List.length_ofFn
  intro i _
  rw [Int.cast_zero, zero_mul]

theorem turnedRow_turnedRow (fs : List ℝ) (row : HeadRow ℝ) (a b : ℤ) :
    turnedRow fs (turnedRow fs row a) b = turnedRow fs row (a+b) := by
  ext head i
  exact congrFun (turnedHead_turnedHead fs a b (row head)) i

theorem turnedRow_zero (fs : List ℝ) (row : HeadRow ℝ) : turnedRow fs row 0 = row := by
  ext head i
  exact congrFun (turnedHead_zero fs (row head)) i

theorem rows_turned_twice (fs : List ℝ) (rows : List (HeadRow ℝ)) (source target final : List ℤ)
    (ht : target.length = source.length) (hf : final.length = target.length) :
    List.zipWith (turnedRow fs)
        (List.zipWith (turnedRow fs) rows (distances source target)) (distances target final) =
      List.zipWith (turnedRow fs) rows (distances source final) := by
  induction rows generalizing source target final with
  | nil => simp
  | cons row rows ih =>
    rcases source with _ | ⟨s, source⟩ <;> rcases target with _ | ⟨t, target⟩ <;>
      rcases final with _ | ⟨u, final⟩ <;> simp [distances] at ht hf ⊢
    rw [turnedRow_turnedRow, sub_add_sub_cancel']
    exact ⟨rfl, ih source target final ht hf⟩

theorem rows_turned_nowhere (fs : List ℝ) (rows : List (HeadRow ℝ)) (source : List ℤ)
    (h : rows.length = source.length) :
    List.zipWith (turnedRow fs) rows (distances source source) = rows := by
  induction rows generalizing source with
  | nil => simp
  | cons row rows ih =>
    cases source with
    | nil => simp at h
    | cons s source =>
      have hlength : rows.length = source.length := Nat.succ.inj h
      show turnedRow fs row (s-s)::_ = _
      rw [sub_self, turnedRow_zero, ← distances, ih source hlength]

theorem tensor_ext {left right : KeyTensor ℝ} (hi : left.info = right.info)
    (hr : left.rows = right.rows) : left = right := by
  rcases left with ⟨_, _, _⟩
  rcases right with ⟨_, _, _⟩
  simp_all

section
variable {isDigit : Char → Bool} {pyRepr : String → String} {t c : TorchTensor}
  {source target final : List ℤ} {layerIndex : ℤ}

theorem accepted_back (h : Accepted isDigit t.tensor.info source target layerIndex) :
    Accepted isDigit t.tensor.info target source layerIndex :=
  ⟨h.layer, h.lengths ▸ h.shape, h.lengths ▸ h.tokens, h.dtype, h.device, h.lengths.symm,
    h.target_bounded, h.source_bounded⟩

theorem accepted_through (h : Accepted isDigit t.tensor.info source target layerIndex)
    (hf : Accepted isDigit t.tensor.info target final layerIndex) :
    Accepted isDigit t.tensor.info source final layerIndex :=
  ⟨h.layer, h.shape, h.tokens, h.dtype, h.device, hf.lengths.trans h.lengths,
    h.source_bounded, hf.target_bounded⟩

theorem moved_row (h : Accepted isDigit t.tensor.info source target layerIndex) {i : ℕ}
    {row : HeadRow ℝ} (hrow : t.tensor.rows[i]? = some row) :
    ∃ (s d : ℤ) (row' : HeadRow ℝ), source[i]? = some s ∧ target[i]? = some d ∧
      (moved t source target h).tensor.rows[i]? = some row' ∧
      ∀ head, correctShiftedKey (List.ofFn (row head)) s d gptOssYarnConfig =
        .ok (List.ofFn (row' head)) := by
  have hlt : i < t.tensor.rows.length := (List.getElem?_eq_some_iff.mp hrow).1
  rw [t.tensor.exact _ h.shape] at hlt
  have hlt' : i < target.length := by rwa [h.lengths]
  refine ⟨source[i], target[i], turnedRow gptOssYarnInverseFrequencies row (target[i]-source[i]),
    List.getElem?_eq_getElem hlt, List.getElem?_eq_getElem hlt', ?_, fun head => ?_⟩
  · simp [moved, turnedTensor, distances, List.getElem?_zipWith, hrow, hlt, hlt']
  · exact turnedHead_reference (row head) (h.source_bounded _ (List.getElem_mem hlt)).1
      (h.target_bounded _ (List.getElem_mem hlt')).1

/-- The corrector returns for exactly the slices and positions that it takes. What
it returns has a storage of its own, every head of every row is the reference
correction of the head, a correction after it is the one correction between the
outer positions, and the way back restores the slice. -/
theorem corrector_agrees (isDigit : Char → Bool) (pyRepr : String → String) (t : TorchTensor)
    (source target : List ℤ) (layerIndex : ℤ) :
    ((∃ c, correct torchArithmetic isDigit pyRepr t source target layerIndex = .ok c) ↔
      Accepted isDigit t.tensor.info source target layerIndex) ∧
    ∀ c, correct torchArithmetic isDigit pyRepr t source target layerIndex = .ok c →
      c.tensor.info = t.tensor.info ∧ c.storage ≠ t.storage ∧
      (∀ (i : ℕ) (row : HeadRow ℝ), t.tensor.rows[i]? = some row →
        ∃ (s d : ℤ) (row' : HeadRow ℝ), source[i]? = some s ∧ target[i]? = some d ∧
        c.tensor.rows[i]? = some row' ∧
        ∀ head, correctShiftedKey (List.ofFn (row head)) s d gptOssYarnConfig =
          .ok (List.ofFn (row' head))) ∧
      (∀ final c', correct torchArithmetic isDigit pyRepr c target final layerIndex = .ok c' →
        ∃ c₂, correct torchArithmetic isDigit pyRepr t source final layerIndex = .ok c₂ ∧
          c₂.tensor = c'.tensor) ∧
      ∃ c', correct torchArithmetic isDigit pyRepr c target source layerIndex = .ok c' ∧
        c'.tensor = t.tensor := by
  refine ⟨correct_defined_iff, fun c hc => ?_⟩
  rcases correct_iff.mp hc with ⟨h, rfl⟩
  refine ⟨rfl, Nat.succ_ne_self _, fun i row => moved_row h, fun final c' hc' => ?_, ?_⟩
  · rcases correct_iff.mp hc' with ⟨hf, rfl⟩
    have hthrough := accepted_through h hf
    refine ⟨_, correct_accepts hthrough, ?_⟩
    exact tensor_ext rfl (rows_turned_twice _ _ source target final h.lengths hf.lengths).symm
  · have hback : Accepted isDigit (moved t source target h).tensor.info target source layerIndex :=
      accepted_back h
    refine ⟨_, correct_accepts hback, ?_⟩
    apply tensor_ext (show (moved _ target source hback).tensor.info = t.tensor.info from rfl)
    apply (rows_turned_twice _ _ source target source h.lengths h.lengths.symm).trans
    exact rows_turned_nowhere _ _ source (t.tensor.exact _ h.shape)

end
end

end CacheBlend.TorchYarn
