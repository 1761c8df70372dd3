import CacheBlend.RequestLifecycle

/-!
# What the transitions of a request can do

The constructor check of a lifecycle state is the conjunction of linked
conditions on its optional fields, one per phase. From these conditions each
transition either raises its own error or returns a state of a fixed form,
and its constructor check passes.
-/

set_option autoImplicit false

namespace CacheBlend.RequestTransitions
open CacheBlend.PlannerModels CacheBlend.RequestLifecycle

def Bound (f : LifecycleFields) (a : RequestAllocation) : Prop :=
  a.requestId = f.plan.requestId ∧ a.allocationGeneration = f.allocationGeneration

/-- The optional fields that a phase requires and forbids, and their links. -/
def Coherent (f : LifecycleFields) : Prop :=
  match f.phase with
  | .lookedUp =>
    f.allocation = none ∧ f.handoffMetadata = none ∧ f.workerValidation = none
  | .allocated => ∃ a, f.allocation = some a ∧ Bound f a ∧
    f.handoffMetadata = none ∧ f.workerValidation = none
  | .handedOff => ∃ h, f.handoffMetadata = some h ∧ h.plan = f.plan ∧
    f.allocation = some h.allocation ∧ Bound f h.allocation ∧ f.workerValidation = none
  | .workerValidated | .finished => ∃ h r, f.handoffMetadata = some h ∧ h.plan = f.plan ∧
    f.allocation = some h.allocation ∧ Bound f h.allocation ∧
    f.workerValidation = some r ∧ r.allocation = h.allocation

theorem postInit_ok_iff (f : LifecycleFields) : postInit f = .ok () ↔ Coherent f := by
  obtain ⟨plan, phase, generation, allocation, handoff, validation, preemptions⟩ := f
  cases phase <;> cases allocation <;> cases handoff <;> cases validation <;>
    simp [postInit, Coherent, Bound, require_ok_iff, require_then_iff] <;> grind

theorem coherent (s : RequestLifecycleState) : Coherent s.toLifecycleFields :=
  (postInit_ok_iff s.toLifecycleFields).mp s.valid

def stateOf (f : LifecycleFields) (h : Coherent f) : RequestLifecycleState :=
  ⟨f, (postInit_ok_iff f).mpr h⟩

theorem new_ok (f : LifecycleFields) (h : Coherent f) :
    RequestLifecycleState.new f = .ok (stateOf f h) := by
  have hv := (postInit_ok_iff f).mpr h
  unfold RequestLifecycleState.new
  split
  · next code he =>
    rw [hv] at he
    cases he
  · rfl

/-- The call returns a value with the property, or raises an error of its own. -/
def Outcome {α : Type} (x : Except ControlPlaneError α) (P : α → Prop) : Prop :=
  match x with
  | .error e => e.raiser = .operation
  | .ok a => P a

theorem outcome_fail {α : Type} (code : ControlPlaneErrorCode) (P : α → Prop) :
    Outcome (fail code) P := rfl

theorem outcome_ok {α : Type} {P : α → Prop} {a : α} (h : P a) :
    Outcome (.ok a : Except ControlPlaneError α) P := h

theorem outcome_raised_bind {α β : Type} (x : Except ControlPlaneErrorCode α)
    (f : α → Except ControlPlaneError β) (P : β → Prop)
    (h : ∀ a, x = .ok a → Outcome (f a) P) : Outcome (raised x >>= f) P := by
  cases x with
  | error code => exact rfl
  | ok a => exact h a rfl

theorem outcome_elim {α : Type} {x : Except ControlPlaneError α} {P : α → Prop} {a : α}
    (h : Outcome x P) (hx : x = .ok a) : P a := by
  rw [hx] at h
  exact h

theorem outcome_raiser {α : Type} {x : Except ControlPlaneError α} {P : α → Prop}
    {e : ControlPlaneError} (h : Outcome x P) (hx : x = .error e) : e.raiser = .operation := by
  rw [hx] at h
  exact h

theorem outcome_mono {α : Type} {x : Except ControlPlaneError α} {P Q : α → Prop}
    (hPQ : ∀ a, P a → Q a) (h : Outcome x P) : Outcome x Q := by
  cases x with
  | error e => exact h
  | ok a => exact hPQ a h

theorem new_outcome (f : LifecycleFields) (h : Coherent f) :
    Outcome (RequestLifecycleState.new f) (fun s => s.toLifecycleFields = f) := by
  rw [new_ok f h]
  exact rfl

theorem handoff_links (s : RequestLifecycleState) (h : RequestHandoffMetadata)
    (hh : s.handoffMetadata = some h) : h.plan = s.plan ∧
      s.allocation = some h.allocation ∧ Bound s.toLifecycleFields h.allocation := by
  have hc := coherent s
  unfold Coherent at hc
  split at hc
  · rw [hc.2.1] at hh
    cases hh
  · obtain ⟨_, _, _, hn, _⟩ := hc
    rw [hn] at hh
    cases hh
  · obtain ⟨h', hs, hp, ha, hb, _⟩ := hc
    rw [hs] at hh
    cases hh
    exact ⟨hp, ha, hb⟩
  · obtain ⟨h', _, hs, hp, ha, hb, _⟩ := hc
    rw [hs] at hh
    cases hh
    exact ⟨hp, ha, hb⟩
  · obtain ⟨h', _, hs, hp, ha, hb, _⟩ := hc
    rw [hs] at hh
    cases hh
    exact ⟨hp, ha, hb⟩

theorem validation_link (s : RequestLifecycleState) (h : RequestHandoffMetadata)
    (r : WorkerValidationReceipt) (hh : s.handoffMetadata = some h)
    (hr : s.workerValidation = some r) : r.allocation = h.allocation := by
  have hc := coherent s
  unfold Coherent at hc
  split at hc
  · rw [hc.2.1] at hh
    cases hh
  · obtain ⟨_, _, _, hn, _⟩ := hc
    rw [hn] at hh
    cases hh
  · obtain ⟨_, _, _, _, _, hn⟩ := hc
    rw [hn] at hr
    cases hr
  all_goals
    obtain ⟨h', r', hs, _, _, _, hv, hl⟩ := hc
    rw [hs] at hh
    rw [hv] at hr
    cases hh
    cases hr
    exact hl

theorem allocation_bound (s : RequestLifecycleState) (a : RequestAllocation)
    (ha : s.allocation = some a) : Bound s.toLifecycleFields a := by
  have hc := coherent s
  unfold Coherent at hc
  split at hc
  · rw [hc.1] at ha
    cases ha
  · obtain ⟨_, hs, hb, _⟩ := hc
    rw [hs] at ha
    cases ha
    exact hb
  · obtain ⟨_, _, _, hs, hb, _⟩ := hc
    rw [hs] at ha
    cases ha
    exact hb
  · obtain ⟨_, _, _, _, hs, hb, _⟩ := hc
    rw [hs] at ha
    cases ha
    exact hb
  · obtain ⟨_, _, _, _, hs, hb, _⟩ := hc
    rw [hs] at ha
    cases ha
    exact hb

theorem captureGroups_ok (layers : List (List String)) (tables : List (List ℤ))
    (groupIndex : ℕ) (groups : List GroupBlockSnapshot)
    (hl : tables.length = layers.length)
    (h : captureGroups groupIndex layers tables = .ok groups) :
    groups.map GroupBlockSnapshot.groupIndex = List.range' groupIndex layers.length ∧
      groups.map GroupBlockSnapshot.layerNames = layers ∧
      groups.map GroupBlockSnapshot.blockIds = tables.map (·.map Int.toNat) := by
  induction layers generalizing tables groupIndex groups with
  | nil =>
    obtain rfl : tables = [] := List.length_eq_zero_iff.mp hl
    cases h
    simp
  | cons names layers ih =>
    cases tables with
    | nil => simp at hl
    | cons table tables =>
      obtain ⟨group, hg, h⟩ := (checked_ok_iff _ _ _).mp h
      obtain ⟨rest, hr, h⟩ := (checked_ok_iff _ _ _).mp h
      cases h
      obtain ⟨hi, hn, hb⟩ := ih tables (groupIndex+1) rest (by simpa using hl) hr
      have hgroup : group.groupIndex = groupIndex ∧ group.layerNames = names ∧
          group.blockIds = table.map Int.toNat := by
        unfold GroupBlockSnapshot.new at hg
        split_ifs at hg
        cases hg
        exact ⟨rfl, rfl, rfl⟩
      simp [hgroup, hi, hn, hb, List.range'_succ]

theorem captureGroups_returns (layers : List (List String)) (tables : List (List ℕ))
    (groupIndex : ℕ) (hn : ∀ names ∈ layers, names ≠ [] ∧ ∀ name ∈ names, name ≠ "")
    (ht : ∀ table ∈ tables, table.Nodup) :
    ∃ groups, captureGroups groupIndex layers (tables.map (·.map Int.ofNat)) = .ok groups := by
  induction layers generalizing tables groupIndex with
  | nil => exact ⟨[], rfl⟩
  | cons names layers ih =>
    cases tables with
    | nil => exact ⟨[], rfl⟩
    | cons table tables =>
      obtain ⟨rest, hr⟩ := ih tables (groupIndex+1)
        (fun n h => hn n (by simp [h])) (fun t h => ht t (by simp [h]))
      have hnames := hn names (by simp)
      have htable := ht table (by simp)
      have hb : ((table.map Int.ofNat).map Int.toNat) = table := by
        rw [List.map_map]
        exact List.map_id table
      have hg : ∃ group, GroupBlockSnapshot.new groupIndex names
          (table.map Int.ofNat) = .ok group := by
        unfold GroupBlockSnapshot.new
        rw [dif_pos hnames, if_neg (by simp), dif_pos (by rw [hb]; exact htable)]
        exact ⟨_, rfl⟩
      obtain ⟨group, hg⟩ := hg
      exact ⟨group::rest, (checked_ok_iff _ _ _).mpr ⟨group, hg,
        (checked_ok_iff _ _ _).mpr ⟨rest, hr, rfl⟩⟩⟩

theorem capture_layout {layout : CacheGroupLayout} {tables : List (List ℤ)}
    {a : GroupedBlockAllocation} (h : GroupedBlockAllocation.capture layout tables = .ok a) :
    a.groupLayout = layout := by
  unfold GroupedBlockAllocation.capture at h
  split_ifs at h with hl
  obtain ⟨groups, _, h⟩ := (checked_ok_iff _ _ _).mp h
  unfold GroupedBlockAllocation.new at h
  split_ifs at h
  cases h
  rfl

theorem capture_returns (layout : CacheGroupLayout) (tables : List (List ℕ))
    (hl : tables.length = layout.groupCount) (ht : ∀ table ∈ tables, table.Nodup) :
    ∃ a, GroupedBlockAllocation.capture layout (tables.map (·.map Int.ofNat)) = .ok a ∧
      a.groupLayout = layout ∧ a.blockIdsByGroup = tables := by
  have hn : ∀ names ∈ layout.layerNamesByGroup, names ≠ [] ∧ ∀ name ∈ names, name ≠ "" :=
    fun names h => ⟨layout.groups_nonempty names h, fun name hm =>
      layout.names_nonempty name (List.mem_flatten.mpr ⟨names, h, hm⟩)⟩
  obtain ⟨groups, hg⟩ := captureGroups_returns layout.layerNamesByGroup tables 0 hn ht
  have hlen : (tables.map (·.map Int.ofNat)).length = layout.layerNamesByGroup.length := by
    rw [List.length_map]
    exact hl
  obtain ⟨hi, hnames, hb⟩ := captureGroups_ok _ _ 0 groups hlen hg
  have hb' : groups.map GroupBlockSnapshot.blockIds = tables := by
    rw [hb, List.map_map]
    conv_rhs => rw [← List.map_id tables]
    apply List.map_congr_left
    intro table _
    rw [Function.comp_apply, List.map_map]
    exact List.map_id table
  have hcount : groups.length = layout.groupCount := by
    rw [← List.length_map GroupBlockSnapshot.layerNames, hnames]
    rfl
  have hi : groups.map GroupBlockSnapshot.groupIndex = List.range layout.groupCount := by
    rw [hi, ← List.range_eq_range']
    rfl
  refine ⟨⟨layout, groups, hi, hnames⟩, ?_, rfl, hb'⟩
  unfold GroupedBlockAllocation.capture
  rw [if_neg (by simpa using hl), hg]
  change GroupedBlockAllocation.new layout groups = _
  unfold GroupedBlockAllocation.new
  rw [if_neg (by simpa using hcount), dif_pos hi, dif_pos hnames]

namespace RequestLifecycleState
open CacheBlend.RequestLifecycle.RequestLifecycleState

variable (s : RequestLifecycleState)

theorem plan_id_nonempty (plan : RequestPlan) : plan.requestId ≠ "" := by
  have hv := plan.valid
  unfold checkRequestPlan at hv
  exact ((require_then_iff _ _ _ _).mp hv).1

theorem plan_prompt_nonneg (plan : RequestPlan) : 0 ≤ plan.promptTokens := by
  have hv := plan.valid
  unfold checkRequestPlan at hv
  have hv := ((require_then_iff _ _ _ _).mp hv).2
  exact ((require_then_iff _ _ _ _).mp hv).1

/-- A request not yet allocated is bound to the captured tables; a request
already allocated accepts the same tables only. -/
theorem allocate_outcome (layout : CacheGroupLayout) (tables : List (List ℤ)) (external : ℤ) :
    Outcome (s.allocate layout tables external) (fun s' =>
      ∃ a : RequestAllocation, Bound s.toLifecycleFields a ∧
        GroupedBlockAllocation.capture layout tables = .ok a.groupedBlocks ∧
        ((s.phase = .lookedUp ∧ s'.toLifecycleFields =
            { s.toLifecycleFields with phase := .allocated, allocation := some a }) ∨
          (s.phase ≠ .lookedUp ∧ s.allocation = some a ∧ s' = s))) := by
  unfold allocate
  by_cases he : external ≠ fullRecomputeExternalTokens
  · rw [if_pos he]
    exact outcome_fail _ _
  rw [if_neg he]
  refine outcome_raised_bind _ _ _ fun g hg => outcome_raised_bind _ _ _ fun a ha => ?_
  have hb : Bound s.toLifecycleFields a ∧ a.groupedBlocks = g := by
    unfold RequestAllocation.new at ha
    split_ifs at ha
    cases ha
    exact ⟨⟨rfl, rfl⟩, rfl⟩
  obtain ⟨hb, rfl⟩ := hb
  by_cases hp : s.phase = .lookedUp
  · rw [if_pos hp]
    have hc := coherent s
    unfold Coherent at hc
    rw [hp] at hc
    exact outcome_mono (fun s' h => ⟨a, hb, hg, Or.inl ⟨hp, h⟩⟩)
      (new_outcome _ ⟨a, rfl, hb, hc.2.1, hc.2.2⟩)
  · rw [if_neg hp]
    by_cases ha : s.allocation = some a
    · rw [if_pos ha]
      exact outcome_ok ⟨a, hb, hg, Or.inr ⟨hp, ha, rfl⟩⟩
    · rw [if_neg ha]
      split_ifs <;> exact outcome_fail _ _

theorem allocation_new (id : String) (generation : ℕ) (g : GroupedBlockAllocation)
    (hi : id ≠ "") :
    RequestAllocation.new id generation g 0 = .ok ⟨id, generation, g, 0, hi, rfl⟩ := by
  unfold RequestAllocation.new
  rw [dif_neg hi]
  exact dif_pos rfl

theorem metadata_new (plan : RequestPlan) (a : RequestAllocation)
    (hi : plan.requestId = a.requestId) :
    RequestHandoffMetadata.new metadataSchemaVersion plan a =
      .ok ⟨metadataSchemaVersion, plan, a, rfl, hi⟩ := by
  unfold RequestHandoffMetadata.new
  rw [dif_pos rfl, dif_pos hi]
  exact if_pos a.external_zero.symm

theorem allocate_returns (layout : CacheGroupLayout) (tables : List (List ℕ))
    (hp : s.phase = .lookedUp) (hl : tables.length = layout.groupCount)
    (ht : ∀ table ∈ tables, table.Nodup) :
    ∃ s' a, s.allocate layout (tables.map (·.map Int.ofNat)) 0 = .ok s' ∧
      Bound s.toLifecycleFields a ∧ a.groupedBlocks.groupLayout = layout ∧
      a.groupedBlocks.blockIdsByGroup = tables ∧ s'.toLifecycleFields =
        { s.toLifecycleFields with phase := .allocated, allocation := some a } := by
  obtain ⟨g, hg, hlayout, hids⟩ := capture_returns layout tables hl ht
  let a : RequestAllocation :=
    ⟨s.plan.requestId, s.allocationGeneration, g, 0, plan_id_nonempty s.plan, rfl⟩
  have ha := allocation_new s.plan.requestId s.allocationGeneration g
    (plan_id_nonempty s.plan)
  have hc := coherent s
  unfold Coherent at hc
  rw [hp] at hc
  have hn : Coherent
      { s.toLifecycleFields with phase := .allocated, allocation := some a } :=
    ⟨a, rfl, ⟨rfl, rfl⟩, hc.2.1, hc.2.2⟩
  refine ⟨stateOf _ hn, a, ?_, ⟨rfl, rfl⟩, hlayout, hids, rfl⟩
  unfold allocate
  rw [if_neg (by simp [fullRecomputeExternalTokens]), hg]
  change (raised (RequestAllocation.new _ _ g 0) >>= _) = _
  rw [ha]
  change (if s.phase = .lookedUp then _ else _) = _
  rw [if_pos hp, new_ok _ hn]

theorem handoff_outcome : Outcome s.handoff (fun s' => ∃ h, s'.handoffMetadata = some h ∧
    ((s.phase = .allocated ∧ h.plan = s.plan ∧ s.allocation = some h.allocation ∧
        s'.toLifecycleFields =
          { s.toLifecycleFields with phase := .handedOff, handoffMetadata := some h }) ∨
      s' = s)) := by
  unfold handoff
  have hc := coherent s
  unfold Coherent at hc
  split_ifs with hp hn
  · exact outcome_fail _ _
  · obtain ⟨h, hh⟩ := Option.ne_none_iff_exists'.mp hn
    exact outcome_ok ⟨h, hh, Or.inr rfl⟩
  · split
    · next a hpa ha =>
      refine outcome_raised_bind _ _ _ fun h hh => ?_
      have hl : h.plan = s.plan ∧ h.allocation = a := by
        unfold RequestHandoffMetadata.new at hh
        split_ifs at hh
        cases hh
        exact ⟨rfl, rfl⟩
      obtain ⟨hplan, rfl⟩ := hl
      rw [hpa] at hc
      obtain ⟨_, _, _, _, hw⟩ := hc
      refine outcome_mono (fun s' hs => ?_) (new_outcome _ ⟨h, rfl, hplan, ha,
        allocation_bound s _ ha, hw⟩)
      exact ⟨h, by rw [hs], Or.inl ⟨hpa, hplan, ha, hs⟩⟩
    · exact outcome_fail _ _

theorem handoff_returns (hp : s.phase = .allocated) : ∃ s', s.handoff = .ok s' := by
  obtain ⟨a, ha, hb, hh, hw⟩ : ∃ a, s.allocation = some a ∧ Bound s.toLifecycleFields a ∧
      s.handoffMetadata = none ∧ s.workerValidation = none := by
    have hc := coherent s
    unfold Coherent at hc
    rwa [hp] at hc
  let h : RequestHandoffMetadata := ⟨metadataSchemaVersion, s.plan, a, rfl, hb.1.symm⟩
  have hnew := metadata_new s.plan a hb.1.symm
  have hn : Coherent
      { s.toLifecycleFields with phase := .handedOff, handoffMetadata := some h } :=
    ⟨h, rfl, rfl, ha, hb, hw⟩
  refine ⟨stateOf _ hn, ?_⟩
  unfold handoff
  rw [if_neg (by rw [hp]; decide)]
  split
  · next a' _ ha' =>
    obtain rfl : a = a' := Option.some_inj.mp (ha.symm.trans ha')
    rw [hnew]
    exact new_ok _ hn
  · next hne => exact absurd ha (hne a hp)

theorem applyWorkerValidation_outcome (r : WorkerValidationReceipt) :
    Outcome (s.applyWorkerValidation r) (fun s' =>
      r.requestId = s.plan.requestId ∧ s.allocation = some r.allocation ∧
        Complete s.plan r ∧ s'.workerValidation = some r ∧
        ((s.phase = .handedOff ∧ s'.toLifecycleFields =
            { s.toLifecycleFields with
              phase := .workerValidated, workerValidation := some r }) ∨
          s' = s)) := by
  unfold applyWorkerValidation
  by_cases hi : r.requestId = s.plan.requestId
  swap
  · rw [if_pos hi]
    exact outcome_fail _ _
  by_cases hg : r.allocation.allocationGeneration = s.allocationGeneration
  swap
  · rw [if_neg (not_not.mpr hi), if_pos hg]
    exact outcome_fail _ _
  by_cases ha : some r.allocation = s.allocation
  swap
  · rw [if_neg (not_not.mpr hi), if_neg (not_not.mpr hg), if_pos ha]
    exact outcome_fail _ _
  rw [if_neg (not_not.mpr hi), if_neg (not_not.mpr hg), if_neg (not_not.mpr ha)]
  by_cases hcomplete : Complete s.plan r
  swap
  · rw [if_pos hcomplete]
    exact outcome_fail _ _
  · rw [if_neg (not_not.mpr hcomplete)]
    have ha := ha.symm
    have hc := coherent s
    unfold Coherent at hc
    split
    · next hp =>
      rw [hp] at hc
      obtain ⟨h, hh, hplan, hal, hb, _⟩ := hc
      have hra : r.allocation = h.allocation := Option.some_inj.mp (ha.symm.trans hal)
      refine outcome_mono (fun s' hs => ⟨hi, ha, hcomplete, by rw [hs], Or.inl ⟨hp, hs⟩⟩)
        (new_outcome _ ⟨h, r, hh, hplan, hal, hb, rfl, hra⟩)
    · split_ifs with hw
      · exact outcome_ok ⟨hi, ha, hcomplete, hw, Or.inr rfl⟩
      · exact outcome_fail _ _
    · split_ifs with hw
      · exact outcome_ok ⟨hi, ha, hcomplete, hw, Or.inr rfl⟩
      · exact outcome_fail _ _
    · exact outcome_fail _ _

theorem applyWorkerValidation_returns (r : WorkerValidationReceipt) (h : RequestHandoffMetadata)
    (hh : s.handoffMetadata = some h) (ha : r.allocation = h.allocation)
    (hcomplete : Complete s.plan r)
    (hw : ∀ r', s.workerValidation = some r' → r' = r) :
    ∃ s', s.applyWorkerValidation r = .ok s' := by
  obtain ⟨hplan, hal, hb⟩ := handoff_links s h hh
  have hid : r.requestId = s.plan.requestId := by rw [r.id_eq, ha, hb.1]
  have hgen : r.allocation.allocationGeneration = s.allocationGeneration := by rw [ha, hb.2]
  have hal' : some r.allocation = s.allocation := by rw [ha, hal]
  unfold applyWorkerValidation
  rw [if_neg (not_not.mpr hid), if_neg (not_not.mpr hgen), if_neg (not_not.mpr hal'),
    if_neg (not_not.mpr hcomplete)]
  have hc := coherent s
  unfold Coherent at hc
  split at hc
  · rw [hc.2.1] at hh
    cases hh
  · obtain ⟨_, _, _, hn, _⟩ := hc
    rw [hn] at hh
    cases hh
  · next hp =>
    rw [hp]
    exact ⟨_, new_ok _ (by exact ⟨h, r, hh, hplan, hal, hb, rfl, ha⟩)⟩
  all_goals
    next hp =>
    obtain ⟨_, r', _, _, _, _, hr, _⟩ := hc
    rw [hp]
    change ∃ s', (if s.workerValidation = some r then _ else _) = _
    rw [if_pos (by rw [hr, hw r' hr])]
    exact ⟨s, rfl⟩

theorem preempt_outcome : Outcome s.preempt (fun s' => s.phase ≠ .finished ∧
    ((s.phase = .lookedUp ∧ s' = s) ∨
      (s.phase ≠ .lookedUp ∧ s'.toLifecycleFields =
        { s.toLifecycleFields with
          phase := .lookedUp
          allocationGeneration := s.allocationGeneration+1
          allocation := none
          handoffMetadata := none
          workerValidation := none
          preemptionCount := s.preemptionCount+1 }))) := by
  unfold preempt
  split
  · exact outcome_fail _ _
  · next hp => exact outcome_ok ⟨by rw [hp]; decide, Or.inl ⟨hp, rfl⟩⟩
  · next hf hl =>
    exact outcome_mono (fun s' hs => ⟨hf, Or.inr ⟨hl, hs⟩⟩)
      (new_outcome _ ⟨rfl, rfl, rfl⟩)

theorem preempt_returns (hp : s.phase ≠ .finished) : ∃ s', s.preempt = .ok s' := by
  unfold preempt
  split
  · next hf => exact absurd hf hp
  · exact ⟨s, rfl⟩
  · exact ⟨_, new_ok _ (by exact ⟨rfl, rfl, rfl⟩)⟩

theorem finish_outcome : Outcome s.finish (fun s' =>
    (s.phase = .finished ∧ s' = s) ∨
      (s.phase = .workerValidated ∧ s'.toLifecycleFields =
        { s.toLifecycleFields with phase := .finished })) := by
  unfold finish
  split
  · next hp => exact outcome_ok (Or.inl ⟨hp, rfl⟩)
  · next hp =>
    have hc := coherent s
    unfold Coherent at hc
    rw [hp] at hc
    exact outcome_mono (fun s' hs => Or.inr ⟨hp, hs⟩) (new_outcome _ hc)
  · exact outcome_fail _ _

theorem ofPlan_outcome (plan : RequestPlan) : Outcome (ofPlan plan) (fun s =>
    s.toLifecycleFields = ⟨plan, .lookedUp, 0, none, none, none, 0⟩) :=
  new_outcome _ ⟨rfl, rfl, rfl⟩

theorem ofPlan_returns (plan : RequestPlan) : ∃ s, ofPlan plan = .ok s ∧
    s.toLifecycleFields = ⟨plan, .lookedUp, 0, none, none, none, 0⟩ :=
  ⟨_, new_ok _ (by exact ⟨rfl, rfl, rfl⟩), rfl⟩

theorem fromHandoff_outcome (h : RequestHandoffMetadata) (layout : CacheGroupLayout) :
    Outcome (fromHandoff h layout) (fun s => s.toLifecycleFields =
      ⟨h.plan, .handedOff, h.allocation.allocationGeneration, some h.allocation, some h,
        none, 0⟩) := by
  unfold fromHandoff
  split_ifs
  · exact outcome_fail _ _
  · exact outcome_fail _ _
  · exact new_outcome _ ⟨h, rfl, rfl, rfl, ⟨h.id_eq.symm, rfl⟩, rfl⟩

theorem fromHandoff_returns (h : RequestHandoffMetadata) (layout : CacheGroupLayout)
    (hl : h.allocation.groupedBlocks.groupLayout = layout) :
    ∃ s, fromHandoff h layout = .ok s := by
  unfold fromHandoff
  rw [if_neg (not_not.mpr h.schema_eq), if_neg (not_not.mpr hl)]
  exact ⟨_, new_ok _ (by exact ⟨h, rfl, rfl, rfl, ⟨h.id_eq.symm, rfl⟩, rfl⟩)⟩

end RequestLifecycleState

end CacheBlend.RequestTransitions
