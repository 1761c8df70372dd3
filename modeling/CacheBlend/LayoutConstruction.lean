import CacheBlend.TokenScatter

/-!
# The constructor of the hybrid layout

The layers of a layout are read from the layer names of its groups. A name
holds the index of its layer in decimal digits. The pattern of the source
admits the decimal digits of every script, not only the ASCII ones, so a layer
can have another name than the canonical one of its index.
-/

set_option autoImplicit false

namespace CacheBlend.LayoutConstruction
open CacheBlend.PlannerModels CacheBlend.HybridLayout CacheBlend.ScatterSpans
open CacheBlend.TokenScatter

/-- The zeros of the decimal digits: category Nd has runs of ten code points. -/
def decimalZeros : List ℕ :=
  [0x30, 0x660, 0x6f0, 0x7c0, 0x966, 0x9e6, 0xa66, 0xae6, 0xb66, 0xbe6, 0xc66, 0xce6, 0xd66,
    0xde6, 0xe50, 0xed0, 0xf20, 0x1040, 0x1090, 0x17e0, 0x1810, 0x1946, 0x19d0, 0x1a80, 0x1a90,
    0x1b50, 0x1bb0, 0x1c40, 0x1c50, 0xa620, 0xa8d0, 0xa900, 0xa9d0, 0xa9f0, 0xaa50, 0xabf0,
    0xff10, 0x104a0, 0x10d30, 0x11066, 0x110f0, 0x11136, 0x111d0, 0x112f0, 0x11450, 0x114d0,
    0x11650, 0x116c0, 0x11730, 0x118e0, 0x11950, 0x11c50, 0x11d50, 0x11da0, 0x16a60, 0x16ac0,
    0x16b50, 0x1d7ce, 0x1d7d8, 0x1d7e2, 0x1d7ec, 0x1d7f6, 0x1e140, 0x1e2f0, 0x1e950, 0x1fbf0]

/-- The value of a decimal digit, as `\d` and `int` take it. -/
def decimalValue (c : Char) : Option ℕ :=
  (decimalZeros.find? (fun start => start ≤ c.toNat ∧ c.toNat < start+10)).map (c.toNat-·)

/-- `int` of a string of decimal digits. -/
def intOfDigits (digits : List Char) : ℕ :=
  digits.foldl (fun n c => 10*n+(decimalValue c).getD 0) 0

def nameStart : List Char := "model.layers.".toList
def nameEnd : List Char := ".attn.attn".toList

/-- The group of `_LAYER_NAME_PATTERN` in a full match. -/
def matchedDigits (layerName : String) : Option (List Char) :=
  let chars := layerName.toList
  let digits := (chars.drop nameStart.length).take
    (chars.length-nameStart.length-nameEnd.length)
  if chars = nameStart ++ digits ++ nameEnd ∧ digits ≠ [] ∧
      digits.all (fun c => (decimalValue c).isSome) then some digits else none

/-- `extract_gpt_oss_layer_index`. -/
def extractGptOssLayerIndex (layerName : String) : Except HybridLayoutErrorCode ℕ :=
  match matchedDigits layerName with
  | none => .error .invalidLayerName
  | some digits => do
    require (digits.length ≤ 2) .layerIndexOutOfRange
    require (¬(1 < digits.length ∧ digits.head? = some '0')) .invalidLayerName
    require (intOfDigits digits < gptOssNumLayers) .layerIndexOutOfRange
    .ok (intOfDigits digits)

structure LayerScan where
  layers : List AttentionLayerLayout
  seenNames : List String
  seenIndexes : List ℕ

def addLayer (group : CacheGroupLayout) (scan : LayerScan) (layerName : String) :
    Except HybridLayoutErrorCode LayerScan := do
  require (layerName ∉ scan.seenNames) .duplicateLayerName
  let layerIndex ← extractGptOssLayerIndex layerName
  require (layerIndex ∉ scan.seenIndexes) .duplicateLayerIndex
  require (group.attentionKind = expectedKind layerIndex) .attentionPatternMismatch
  .ok ⟨scan.layers ++ [attentionLayer group layerName layerIndex],
    layerName::scan.seenNames, layerIndex::scan.seenIndexes⟩

def addGroup (scan : LayerScan) (group : CacheGroupLayout) :
    Except HybridLayoutErrorCode LayerScan :=
  group.layerNames.foldlM (addLayer group) scan

/-- `GptOssHybridCacheLayout.__post_init__`: the layers of the groups. -/
def postInit (groups : List CacheGroupLayout) :
    Except HybridLayoutErrorCode (List AttentionLayerLayout) := do
  require (groups.length = gptOssNumCacheGroups) .invalidGroupCount
  let groupIds := groups.map CacheGroupLayout.groupId
  require groupIds.Nodup .duplicateGroupId
  require (groupIds ⊆ List.range gptOssNumCacheGroups ∧
    List.range gptOssNumCacheGroups ⊆ groupIds) .invalidGroupId
  require (AttentionKind.sliding ∈ groups.map CacheGroupLayout.attentionKind ∧
    AttentionKind.full ∈ groups.map CacheGroupLayout.attentionKind) .attentionPatternMismatch
  require ((groups.map (fun group => group.layerNames.length)).sum = gptOssNumLayers)
    .invalidLayerCount
  let scan ← groups.foldlM addGroup ⟨[], [], []⟩
  require (scan.seenIndexes ⊆ List.range gptOssNumLayers ∧
    List.range gptOssNumLayers ⊆ scan.seenIndexes) .invalidLayerCount
  .ok (sortedBy AttentionLayerLayout.layerIndex scan.layers)

/-! ## Names and indexes -/

theorem decimalValue_ascii {c : Char} {d : ℕ} (hc : c.toNat < 128)
    (h : decimalValue c = some d) : d < 10 ∧ c = Char.ofNat (48+d) := by
  obtain ⟨start, hs, rfl⟩ := Option.map_eq_some_iff.mp h
  have hm := List.mem_of_find?_eq_some hs
  have hin : start ≤ c.toNat ∧ c.toNat < start+10 := by simpa using List.find?_some hs
  have hzeros : ∀ start ∈ decimalZeros, start = 48 ∨ 128 ≤ start := by decide
  have hzero : start = 48 := by
    have hstart := hzeros start hm
    omega
  subst hzero
  refine ⟨by omega, ?_⟩
  rw [Nat.add_sub_cancel' hin.1, Char.ofNat_toNat]

theorem matchedDigits_some {name : String} {digits : List Char}
    (h : matchedDigits name = some digits) :
    name.toList = nameStart ++ digits ++ nameEnd ∧ digits ≠ [] ∧
      ∀ c ∈ digits, (decimalValue c).isSome := by
  unfold matchedDigits at h
  dsimp only at h
  split_ifs at h with hm
  cases h
  exact ⟨hm.1, hm.2.1, List.all_eq_true.mp hm.2.2⟩

theorem extract_ok_iff {name : String} {index : ℕ} :
    extractGptOssLayerIndex name = .ok index ↔ ∃ digits, matchedDigits name = some digits ∧
      digits.length ≤ 2 ∧ ¬(1 < digits.length ∧ digits.head? = some '0') ∧
      index = intOfDigits digits ∧ index < gptOssNumLayers := by
  unfold extractGptOssLayerIndex
  cases matchedDigits name with
  | none => simp
  | some digits =>
    dsimp only
    rw [require_then_iff, require_then_iff, require_then_iff]
    constructor
    · rintro ⟨hl, hz, hb, h⟩
      cases h
      exact ⟨digits, rfl, hl, hz, rfl, hb⟩
    · rintro ⟨_, hd, hl, hz, rfl, hb⟩
      cases hd
      exact ⟨hl, hz, hb, rfl⟩

theorem digits_canonical :
    (∀ a : ℕ, a < 10 → (toString (a : ℤ)).toList = [Char.ofNat (48+a)]) ∧
    ∀ a : ℕ, a < 10 → ∀ b : ℕ, b < 10 → a ≠ 0 →
      (toString ((10*a+b : ℕ) : ℤ)).toList = [Char.ofNat (48+a), Char.ofNat (48+b)] := by
  decide +kernel

theorem layerName_toList (index : ℤ) :
    (layerName index).toList = nameStart ++ (toString index).toList ++ nameEnd := by
  show ("model.layers." ++ toString index ++ ".attn.attn").toList = _
  rw [String.toList_append, String.toList_append]
  rfl

def asciiName (name : String) : Prop := ∀ c ∈ name.toList, c.toNat < 128

instance (name : String) : Decidable (asciiName name) :=
  List.decidableBAll (fun c : Char => c.toNat < 128) name.toList

theorem layerName_ascii : ∀ index < gptOssNumLayers, asciiName (layerName index) := by
  decide +kernel

theorem extract_ascii {name : String} {index : ℕ}
    (h : extractGptOssLayerIndex name = .ok index) :
    asciiName name ↔ name = layerName index := by
  obtain ⟨digits, hd, hl, hz, rfl, hb⟩ := extract_ok_iff.mp h
  obtain ⟨hname, hne, hdecimal⟩ := matchedDigits_some hd
  constructor
  · intro hascii
    have hvalue : ∀ c ∈ digits, ∃ d < 10, decimalValue c = some d ∧ c = Char.ofNat (48+d) := by
      intro c hc
      obtain ⟨d, hv⟩ := Option.isSome_iff_exists.mp (hdecimal c hc)
      have hin : c ∈ name.toList := by
        rw [hname]
        simp [hc]
      obtain ⟨hlt, he⟩ := decimalValue_ascii (hascii c hin) hv
      exact ⟨d, hlt, hv, he⟩
    have htext : digits = (toString ((intOfDigits digits : ℕ) : ℤ)).toList := by
      match digits, hne, hl, hz, hvalue with
      | [c], _, _, _, hvalue =>
        obtain ⟨d, hlt, hv, he⟩ := hvalue c (by simp)
        have hint : intOfDigits [c] = d := by simp [intOfDigits, hv]
        rw [hint, digits_canonical.1 d hlt, he]
      | [c, c'], _, _, hz, hvalue =>
        obtain ⟨d, hlt, hv, he⟩ := hvalue c (by simp)
        obtain ⟨d', hlt', hv', he'⟩ := hvalue c' (by simp)
        have hint : intOfDigits [c, c'] = 10*d+d' := by simp [intOfDigits, hv, hv']
        have hnonzero : d ≠ 0 := by
          intro h0
          rw [h0] at he
          exact hz ⟨by simp, by rw [he]; rfl⟩
        rw [hint, digits_canonical.2 d hlt d' hlt' hnonzero, he, he']
    apply String.toList_injective
    rw [layerName_toList, ← htext, hname]
  · intro he
    rw [he]
    exact layerName_ascii _ hb

/-! ## The loop over the groups -/

/-- The names that the scan has read, each with its group, and their layers. -/
structure Scanned (read : List (CacheGroupLayout × String)) (scan : LayerScan) : Prop where
  names : scan.seenNames = (scan.layers.map AttentionLayerLayout.layerName).reverse
  indexes : scan.seenIndexes = (scan.layers.map AttentionLayerLayout.layerIndex).reverse
  names_nodup : (scan.layers.map AttentionLayerLayout.layerName).Nodup
  indexes_nodup : (scan.layers.map AttentionLayerLayout.layerIndex).Nodup
  layers : List.Forall₂ (fun p layer => layer = attentionLayer p.1 p.2 layer.layerIndex ∧
    extractGptOssLayerIndex p.2 = .ok layer.layerIndex ∧
    p.1.attentionKind = expectedKind layer.layerIndex) read scan.layers

theorem scanned_initial : Scanned [] ⟨[], [], []⟩ where
  names := rfl
  indexes := rfl
  names_nodup := List.nodup_nil
  indexes_nodup := List.nodup_nil
  layers := .nil

theorem nodup_concat {α : Type} {xs : List α} {x : α} (hn : xs.Nodup) (hx : x ∉ xs) :
    (xs ++ [x]).Nodup := by
  rw [List.nodup_append]
  exact ⟨hn, List.nodup_singleton x, fun a ha b hb he => hx (by
    rw [List.mem_singleton.mp hb] at he
    exact he ▸ ha)⟩

theorem scanned_add {read : List (CacheGroupLayout × String)} {scan scan' : LayerScan}
    (hs : Scanned read scan) {group : CacheGroupLayout} {name : String}
    (h : addLayer group scan name = .ok scan') : Scanned (read ++ [(group, name)]) scan' := by
  unfold addLayer at h
  obtain ⟨hname, h⟩ := (require_then_iff _ _ _ _).mp h
  obtain ⟨index, hindex, h⟩ := (checked_ok_iff _ _ _).mp h
  obtain ⟨hfresh, h⟩ := (require_then_iff _ _ _ _).mp h
  obtain ⟨hkind, h⟩ := (require_then_iff _ _ _ _).mp h
  cases h
  have hlayerName : (attentionLayer group name index).layerName = name := rfl
  have hlayerIndex : (attentionLayer group name index).layerIndex = index := rfl
  refine ⟨?_, ?_, ?_, ?_, ?_⟩
  · simp [hs.names, hlayerName]
  · simp [hs.indexes, hlayerIndex]
  · rw [List.map_append]
    rw [hs.names, List.mem_reverse] at hname
    exact nodup_concat hs.names_nodup hname
  · rw [List.map_append]
    rw [hs.indexes, List.mem_reverse] at hfresh
    exact nodup_concat hs.indexes_nodup hfresh
  · exact List.rel_append hs.layers (.cons ⟨rfl, hindex, hkind⟩ .nil)

theorem scanned_group (group : CacheGroupLayout) (names : List String)
    {read : List (CacheGroupLayout × String)} {scan scan' : LayerScan}
    (hs : Scanned read scan) (h : names.foldlM (addLayer group) scan = .ok scan') :
    Scanned (read ++ names.map (fun name => (group, name))) scan' := by
  induction names generalizing read scan with
  | nil =>
    cases h
    rwa [List.map_nil, List.append_nil]
  | cons name names ih =>
    rw [List.foldlM_cons] at h
    obtain ⟨next, hn, h⟩ := (checked_ok_iff _ _ _).mp h
    have hread := ih (scanned_add hs hn) h
    rwa [List.append_assoc] at hread

theorem scanned_groups (groups : List CacheGroupLayout)
    {read : List (CacheGroupLayout × String)} {scan scan' : LayerScan}
    (hs : Scanned read scan) (h : groups.foldlM addGroup scan = .ok scan') :
    Scanned (read ++ groups.flatMap (fun group =>
      group.layerNames.map (fun name => (group, name)))) scan' := by
  induction groups generalizing read scan with
  | nil =>
    cases h
    rwa [List.flatMap_nil, List.append_nil]
  | cons group groups ih =>
    rw [List.foldlM_cons] at h
    obtain ⟨next, hn, h⟩ := (checked_ok_iff _ _ _).mp h
    have hread := ih (scanned_group group _ hs hn) h
    rwa [List.append_assoc] at hread

/-! ## What is constructed -/

theorem map_snd_pairs (groups : List CacheGroupLayout) :
    (groups.flatMap (fun group => group.layerNames.map (fun name => (group, name)))).map
      Prod.snd = groups.flatMap CacheGroupLayout.layerNames := by
  rw [List.map_flatMap]
  congr 1
  funext group
  rw [List.map_map]
  exact List.map_id _

theorem kinds_perm {groups : List CacheGroupLayout} (hl : groups.length = gptOssNumCacheGroups)
    (hs : AttentionKind.sliding ∈ groups.map CacheGroupLayout.attentionKind)
    (hf : AttentionKind.full ∈ groups.map CacheGroupLayout.attentionKind) :
    (groups.map CacheGroupLayout.attentionKind).Perm [.sliding, .full] := by
  have hsub : [AttentionKind.sliding, .full] ⊆ groups.map CacheGroupLayout.attentionKind := by
    intro kind _
    cases kind with
    | sliding => exact hs
    | full => exact hf
  have hperm := (List.subperm_of_subset (by decide) hsub).perm_of_length_le (by
    rw [List.length_map, hl]
    exact le_refl 2)
  exact hperm.symm

theorem ids_perm {groups : List CacheGroupLayout}
    (hn : (groups.map CacheGroupLayout.groupId).Nodup)
    (hi : groups.map CacheGroupLayout.groupId ⊆ List.range gptOssNumCacheGroups ∧
      List.range gptOssNumCacheGroups ⊆ groups.map CacheGroupLayout.groupId) :
    (groups.map CacheGroupLayout.groupId).Perm (List.range gptOssNumCacheGroups) :=
  (List.perm_ext_iff_of_nodup hn List.nodup_range).mpr fun _ => ⟨fun h => hi.1 h, fun h => hi.2 h⟩

theorem postInit_ok {groups : List CacheGroupLayout} {layers : List AttentionLayerLayout}
    (h : postInit groups = .ok layers) :
    groups.length = gptOssNumCacheGroups ∧
      (groups.map CacheGroupLayout.groupId).Perm (List.range gptOssNumCacheGroups) ∧
      (groups.map CacheGroupLayout.attentionKind).Perm [.sliding, .full] ∧
      ∃ scan, Scanned (groups.flatMap (fun group =>
          group.layerNames.map (fun name => (group, name)))) scan ∧
        layers = sortedBy AttentionLayerLayout.layerIndex scan.layers ∧
        layers.map AttentionLayerLayout.layerIndex = List.range gptOssNumLayers := by
  unfold postInit at h
  obtain ⟨hl, h⟩ := (require_then_iff _ _ _ _).mp h
  obtain ⟨hn, h⟩ := (require_then_iff _ _ _ _).mp h
  obtain ⟨hi, h⟩ := (require_then_iff _ _ _ _).mp h
  obtain ⟨hk, h⟩ := (require_then_iff _ _ _ _).mp h
  obtain ⟨_, h⟩ := (require_then_iff _ _ _ _).mp h
  obtain ⟨scan, hs, h⟩ := (checked_ok_iff _ _ _).mp h
  obtain ⟨hseen, h⟩ := (require_then_iff _ _ _ _).mp h
  cases h
  have hscan := scanned_groups groups scanned_initial hs
  refine ⟨hl, ids_perm hn hi, kinds_perm hl hk.1 hk.2, scan, hscan, rfl, ?_⟩
  have hperm : (scan.layers.map AttentionLayerLayout.layerIndex).Perm
      (List.range gptOssNumLayers) := by
    refine (List.perm_ext_iff_of_nodup hscan.indexes_nodup List.nodup_range).mpr fun index => ?_
    rw [← List.mem_reverse, ← hscan.indexes]
    exact ⟨fun h => hseen.1 h, fun h => hseen.2 h⟩
  rw [map_sortedBy AttentionLayerLayout.layerIndex (id : ℕ → ℕ) AttentionLayerLayout.layerIndex
    Function.injective_id (fun _ _ h => h)]
  exact sortedBy_unique id (fun _ _ _ _ h => h) hperm
    (List.pairwise_lt_range.imp fun h => le_of_lt h)

theorem postInit_extracts {groups : List CacheGroupLayout} {layers : List AttentionLayerLayout}
    (h : postInit groups = .ok layers) {layer : AttentionLayerLayout} (hm : layer ∈ layers) :
    extractGptOssLayerIndex layer.layerName = .ok layer.layerIndex := by
  obtain ⟨_, _, _, scan, hscan, rfl, _⟩ := postInit_ok h
  obtain ⟨p, _, hlayer, hindex, _⟩ := forall₂_right hscan.layers ((mem_sortedBy _ _ _).mp hm)
  rw [hlayer]
  exact hindex

theorem constructed {groups : List CacheGroupLayout} {layers : List AttentionLayerLayout}
    (h : postInit groups = .ok layers) :
    ∃ layout : LayeredCacheLayout, layout.groups = groups ∧ layout.layers = layers := by
  obtain ⟨_, hids, hkinds, scan, hscan, rfl, hindexes⟩ := postInit_ok h
  have hread : scan.layers.map AttentionLayerLayout.layerName =
      groups.flatMap CacheGroupLayout.layerNames := by
    rw [← map_snd_pairs]
    refine forall₂_map_eq AttentionLayerLayout.layerName (List.forall₂_map_left_iff.mpr
      (hscan.layers.imp fun {p layer} hl => ?_)) (fun _ _ h => h)
    show layer.layerName = p.2
    rw [hl.1]
    rfl
  have hperm := sortedBy_perm AttentionLayerLayout.layerIndex scan.layers
  have hlayer : ∀ layer ∈ sortedBy AttentionLayerLayout.layerIndex scan.layers,
      ∃ group ∈ groups, layer.layerName ∈ group.layerNames ∧
        layer = attentionLayer group layer.layerName layer.layerIndex ∧
        layer.attentionKind = expectedKind layer.layerIndex := by
    intro layer hm
    obtain ⟨p, hp, hl, _, hkind⟩ := forall₂_right hscan.layers (hperm.mem_iff.mp hm)
    obtain ⟨group, hg, hn⟩ := List.mem_flatMap.mp hp
    obtain ⟨name, hname, rfl⟩ := List.mem_map.mp hn
    have hlayerName : layer.layerName = name := by
      rw [hl]
      rfl
    refine ⟨group, hg, hlayerName.symm ▸ hname, by rw [hlayerName]; exact hl, ?_⟩
    rw [hl]
    exact hkind
  refine ⟨⟨⟨groups, hids, hkinds, hread ▸ hscan.names_nodup⟩,
    sortedBy AttentionLayerLayout.layerIndex scan.layers, hindexes, ?_, ?_, ?_⟩, rfl, rfl⟩
  · exact (hperm.map _).nodup_iff.mpr hscan.names_nodup
  · intro layer hm
    obtain ⟨group, hg, hn, hl, _⟩ := hlayer layer hm
    exact ⟨group, hg, hn, hl⟩
  · intro layer hm
    obtain ⟨_, _, _, _, hkind⟩ := hlayer layer hm
    exact hkind

end CacheBlend.LayoutConstruction
