import CacheBlend.ConnectorRecords
import CacheBlend.Runs
import Mathlib.Logic.Function.Basic

/-!
# Runs of the scheduler hooks

The engine keeps its own view of every request: where it stands, how often it
was preempted, the block tables it owns, and whether a handoff is out. An
event is possible when the view allows it and the hook it calls returns. The
invariant relates each view to the record that the connector keeps.
-/

set_option autoImplicit false

namespace CacheBlend.EngineRuns
open CacheBlend.PlannerModels CacheBlend.RequestLifecycle CacheBlend.RequestTransitions
open CacheBlend.HybridLayout (AttentionKind)
open CacheBlend.VllmAdapters CacheBlend.CompletionTables CacheBlend.SchedulerRuntime
open CacheBlend.TransferRuntime CacheBlend.RuntimeLookups CacheBlend.SchedulerHooks
open CacheBlend.ConnectorRecords

inductive Stage where
  | queued
  | lookedUp
  | allocated
  | preempted
  | finished
  deriving DecidableEq

/-- What the engine knows of a request. A handoff is outstanding from the step
that sends it to the arrival of its receipt. -/
structure RequestView where
  stage : Stage
  preemptions : ℕ
  tables : List (List ℕ)
  handedOff : Bool
  outstanding : Bool
  deriving DecidableEq

structure Engine where
  connector : SchedulerConnector
  views : String → RequestView

inductive EngineEvent where
  | lookup (id : String) (env : Environment) (numComputedTokens : ℕ)
  | allocate (id : String) (tables : List (List ℕ))
  | build (numScheduledTokens : Dict String ℤ)
  | receive (receipts : List WorkerValidationReceipt)
  | preempt (id : String)
  | grow (id : String) (group block : ℕ)
  | slide (id : String) (group : ℕ)
  | finish (id : String)

def emptyTables (config : ConnectorConfig) : List (List ℕ) :=
  config.adapted.groupKinds.map fun _ => []

def Engine.initial (config : ConnectorConfig) : Engine where
  connector := SchedulerConnector.new config
  views _ := ⟨.queued, 0, emptyTables config, false, false⟩

def vllmRequest (prompt : String → List TokenId) (id : String) (preemptions : ℕ) :
    VllmRequest where
  requestId := id
  promptEmbeds := false
  promptTokenIds := some ((prompt id).map (fun t => (t.val : ℤ)))
  numPromptTokens := (prompt id).length
  numPreemptions := preemptions
  numExternalComputedTokens := 0

def returned {α : Type} : Except ConnectorError α × SchedulerConnector →
    Option SchedulerConnector
  | (.ok _, c) => some c
  | (.error _, _) => none

def Stage.waiting : Stage → Bool
  | .queued | .lookedUp | .preempted => true
  | .allocated | .finished => false

section
variable (sha256 : Bytes → Digest) (config : ConnectorConfig) (prompt : String → List TokenId)

/-- One event. Transfer mode runs without prefix caching, so a lookup then has
no computed tokens. A preemption comes after the step that handed the request
off, and takes its blocks. A table grows by a real block it does not hold, and
a sliding table loses its first real block. -/
def advance (s : Engine) : EngineEvent → Option Engine
  | .lookup id env numComputedTokens =>
    let v := s.views id
    if v.stage.waiting = true ∧ (config.transferEnabled = true → numComputedTokens = 0) then
      (returned (getNumNewMatchedTokens sha256 config env (vllmRequest prompt id v.preemptions)
        numComputedTokens s.connector)).map fun c =>
          ⟨c, Function.update s.views id { v with stage := .lookedUp }⟩
    else none
  | .allocate id tables =>
    let v := s.views id
    if v.stage = .lookedUp ∧
        legalTables config.adapted.numBlocks config.adapted.groupKinds tables = true then
      (returned (updateStateAfterAlloc config id (observe tables) 0 s.connector)).map fun c =>
        ⟨c, Function.update s.views id { v with stage := .allocated, tables := tables }⟩
    else none
  | .build numScheduledTokens =>
    (returned (buildConnectorMeta sha256 config numScheduledTokens s.connector)).map fun c =>
      ⟨c, fun id => if id ∈ s.connector.pendingHandoffIds then
        { s.views id with handedOff := true, outstanding := true } else s.views id⟩
  | .receive receipts =>
    if (receipts.map WorkerValidationReceipt.requestId).Nodup ∧
        ∀ id ∈ receipts.map WorkerValidationReceipt.requestId,
          (s.views id).outstanding = true then
      (returned (updateConnectorOutput (some receipts) s.connector)).map fun c =>
        ⟨c, fun id => if id ∈ receipts.map WorkerValidationReceipt.requestId then
          { s.views id with outstanding := false } else s.views id⟩
    else none
  | .preempt id =>
    let v := s.views id
    if v.stage = .allocated ∧ v.handedOff = true then
      some ⟨s.connector, Function.update s.views id
        { v with stage := .preempted, preemptions := v.preemptions+1,
                 tables := emptyTables config, handedOff := false }⟩
    else none
  | .grow id group block =>
    let v := s.views id
    if v.stage = .allocated ∧ block ≠ 0 ∧ block < config.adapted.numBlocks ∧
        block ∉ v.tables.getD group [] then
      some ⟨s.connector, Function.update s.views id
        { v with tables := v.tables.modify group (· ++ [block]) }⟩
    else none
  | .slide id group =>
    let v := s.views id
    if v.stage = .allocated ∧ config.adapted.groupKinds[group]? = some .sliding then
      some ⟨s.connector, Function.update s.views id
        { v with tables := v.tables.modify group dropBlock }⟩
    else none
  | .finish id =>
    let v := s.views id
    if v.stage ≠ .finished then
      (returned (requestFinishedAllGroups config id (integers v.tables) s.connector)).map
        fun c => ⟨c, Function.update s.views id { v with stage := .finished }⟩
    else none

/-- The engines that a run of events can reach. -/
def Reachable (s : Engine) : Prop :=
  Reached (fun s event s' => advance sha256 config prompt s event = some s')
    (Engine.initial config) s

/-! ## The invariant -/

/-- The answer that the connector and the runtime keep for a request agrees
with its state, generation included. -/
structure Synced (id : String) (preemptions : ℕ) (r : RequestRecord)
    (st : RequestLifecycleState) (md : SchedulerLookupMetadata)
    (answered : SchedulerLookupRequest) : Prop where
  metadata : r.metadata = some md
  retained : r.retained = some ⟨answered, md⟩
  request : SchedulerLookupRequest.new id (prompt id) 1 0 0 0 preemptions = .ok answered
  plan : st.plan = md.requestPlan
  generation : st.allocationGeneration = md.allocationGeneration
  observation : r.observation = some (observationOf (prompt id).length md)
  observed : (observationOf (prompt id).length md).Valid

/-- The record of a request that was looked up and is not finished. -/
structure Held (id : String) (preemptions : ℕ) (r : RequestRecord)
    (st : RequestLifecycleState) : Prop where
  state : r.state = some st
  plan_id : st.plan.requestId = id
  counted : r.preemptions = some preemptions
  known : r.known = true
  unfinished : r.finished = false
  plain : config.transfer = none →
    RequestPlan.new id (prompt id).length [] ⟨[], [], 0⟩ = .ok st.plan
  synced : config.transferEnabled = true → ∃ md answered,
    Synced prompt id preemptions r st md answered

/-- The state owns an allocation of distinct blocks in range. -/
structure Owns (st : RequestLifecycleState) (a : RequestAllocation) : Prop where
  allocation : st.allocation = some a
  layout : a.groupedBlocks.groupLayout = config.adapted.controlPlaneLayout
  unfinished : st.phase ≠ .finished
  groups : a.groupedBlocks.blockIdsByGroup.length = config.adapted.groupKinds.length
  nonempty : ∀ table ∈ a.groupedBlocks.blockIdsByGroup, table ≠ []
  nodup : ∀ table ∈ a.groupedBlocks.blockIdsByGroup, table.Nodup
  bounded : ∀ table ∈ a.groupedBlocks.blockIdsByGroup, ∀ b ∈ table,
    b < config.adapted.numBlocks

/-- The tables of an allocated request, and how far its handoff has come. -/
structure Running (v : RequestView) (st : RequestLifecycleState) (a : RequestAllocation) :
    Prop where
  grown : TablesGrown config.adapted.groupKinds a.groupedBlocks.blockIdsByGroup v.tables
  bounded : ∀ table ∈ v.tables, ∀ b ∈ table, b < config.adapted.numBlocks
  awaiting : v.handedOff = false → st.phase = .allocated
  delivered : v.handedOff = true → st.phase ≠ .allocated
  received : v.handedOff = true → v.outstanding = false → st.workerValidation ≠ none

/-- What is left of a finished request. State is kept for a receipt that can
still arrive, and for ever when no handoff was out. -/
def Leftover (id : String) (v : RequestView) (r : RequestRecord) : Prop :=
  (r = .empty ∧ (config.transferEnabled = true → v.handedOff = true)) ∨
    ∃ st, r = { RequestRecord.empty with state := some st, finished := true } ∧
      config.transferEnabled = true ∧ st.plan.requestId = id ∧
      (v.handedOff = true → v.outstanding = true) ∧
      (v.handedOff = false → st.phase = .lookedUp ∨ st.phase = .allocated)

/-- The relation of a view to the record of its request. -/
def Tracked (id : String) (v : RequestView) (r : RequestRecord) : Prop :=
  match v.stage with
  | .queued => r = .empty ∧ v.tables = emptyTables config ∧ v.handedOff = false ∧
    v.outstanding = false
  | .lookedUp => v.tables = emptyTables config ∧ v.handedOff = false ∧
    ∃ st, Held config prompt id v.preemptions r st ∧ st.phase = .lookedUp
  | .allocated => ∃ st a, Held config prompt id v.preemptions r st ∧ Owns config st a ∧
    Running config v st a
  | .preempted => v.tables = emptyTables config ∧ v.handedOff = false ∧
    ∃ st a n, Held config prompt id n r st ∧ Owns config st a ∧ v.preemptions = n+1
  | .finished => Leftover config id v r

structure EngineInvariant (s : Engine) : Prop where
  usable : Usable sha256 config s.connector
  tracked : ∀ id, Tracked config prompt id (s.views id) (record s.connector id)
  pending_nodup : s.connector.pendingHandoffIds.Nodup
  pending : ∀ id, id ∈ s.connector.pendingHandoffIds → (s.views id).handedOff = false ∧
    ((s.views id).stage = .allocated ∨ (s.views id).stage = .finished)
  awaiting : ∀ id, (s.views id).stage = .allocated → (s.views id).handedOff = false →
    id ∈ s.connector.pendingHandoffIds

theorem invariant_initial : EngineInvariant sha256 config prompt (Engine.initial config) where
  usable := usable_new sha256 config
  tracked id := ⟨record_new config id, rfl, rfl, rfl⟩
  pending_nodup := List.nodup_nil
  pending _ h := nomatch h
  awaiting _ h := nomatch h

end

/-! ## What the phases of a state exclude -/

theorem lookedUp_bare {st : RequestLifecycleState} (h : st.phase = .lookedUp) :
    st.allocation = none ∧ st.workerValidation = none := by
  have hc := coherent st
  unfold Coherent at hc
  rw [h] at hc
  exact ⟨hc.1, hc.2.2⟩

theorem allocated_bare {st : RequestLifecycleState} (h : st.phase = .allocated) :
    st.handoffMetadata = none ∧ st.workerValidation = none := by
  have hc := coherent st
  unfold Coherent at hc
  rw [h] at hc
  obtain ⟨_, _, _, hh, hw⟩ := hc
  exact ⟨hh, hw⟩

theorem validated_phase {receipt : WorkerValidationReceipt} {st st' : RequestLifecycleState}
    (h : Validated receipt st st') : st.phase ≠ .lookedUp ∧ st.phase ≠ .allocated := by
  obtain ⟨hal, _, hw, hcase⟩ := h
  refine ⟨fun hp => ?_, fun hp => ?_⟩
  · rw [(lookedUp_bare hp).1] at hal
    cases hal
  · obtain ⟨hh, _⟩ | rfl := hcase
    · rw [hp] at hh
      cases hh
    · rw [(allocated_bare hp).2] at hw
      cases hw

theorem validated_keeps {receipt : WorkerValidationReceipt} {st st' : RequestLifecycleState}
    (h : Validated receipt st st') : st'.plan = st.plan ∧
      st'.allocationGeneration = st.allocationGeneration ∧ st'.allocation = st.allocation ∧
      (st.phase ≠ .finished → st'.phase ≠ .finished) ∧ st'.phase ≠ .allocated := by
  have hp := (validated_phase h).2
  obtain ⟨_, _, _, ⟨_, hf⟩ | rfl⟩ := h
  · rw [hf]
    exact ⟨rfl, rfl, rfl, fun _ => by simp, by simp⟩
  · exact ⟨rfl, rfl, rfl, id, hp⟩

theorem handedOff_allocated {h : RequestHandoffMetadata} {st st' : RequestLifecycleState}
    (hh : HandedOff h st st') (hp : st.phase = .allocated) :
    h.plan = st.plan ∧ st.allocation = some h.allocation ∧ st'.toLifecycleFields =
      { st.toLifecycleFields with phase := .handedOff, handoffMetadata := some h } := by
  obtain ⟨hm, ⟨_, hplan, hal, hf⟩ | rfl⟩ := hh
  · exact ⟨hplan, hal, hf⟩
  · rw [(allocated_bare hp).1] at hm
    cases hm

theorem handedOff_plan {h : RequestHandoffMetadata} {st st' : RequestLifecycleState}
    (hh : HandedOff h st st') : h.plan = st.plan := by
  obtain ⟨hm, ⟨_, hplan, _⟩ | rfl⟩ := hh
  · exact hplan
  · exact (handoff_links st' h hm).1

/-! ## The invariant is kept -/

section
variable {sha256 : Bytes → Digest} {config : ConnectorConfig} {prompt : String → List TokenId}

theorem tracked_waiting {id : String} {v : RequestView} {r : RequestRecord}
    (ht : Tracked config prompt id v r) (hw : v.stage.waiting = true) :
    v.handedOff = false ∧ v.tables = emptyTables config := by
  unfold Tracked at ht
  cases hstage : v.stage <;> rw [hstage] at ht hw
  · exact ⟨ht.2.2.1, ht.2.1⟩
  · exact ⟨ht.2.1, ht.1⟩
  · cases hw
  · exact ⟨ht.2.1, ht.1⟩
  · cases hw

theorem held_update {id : String} {n : ℕ} {r : RequestRecord} {st st' : RequestLifecycleState}
    (h : Held config prompt id n r st) (hp : st'.plan = st.plan)
    (hg : st'.allocationGeneration = st.allocationGeneration) :
    Held config prompt id n { r with state := some st' } st' where
  state := rfl
  plan_id := by rw [hp, h.plan_id]
  counted := h.counted
  known := h.known
  unfinished := h.unfinished
  plain ht := by rw [hp, h.plain ht]
  synced ht := by
    obtain ⟨md, answered, hs⟩ := h.synced ht
    exact ⟨md, answered, hs.metadata, hs.retained, hs.request, by rw [hp, hs.plan],
      by rw [hg, hs.generation], hs.observation, hs.observed⟩

theorem request_new_congr {id : String} {tokens : List TokenId} {n m : ℕ}
    {r : SchedulerLookupRequest}
    (h : SchedulerLookupRequest.new id tokens 1 0 0 0 n = .ok r) :
    SchedulerLookupRequest.new id tokens 1 0 0 0 m = .ok { r with preemptionCount := m } := by
  unfold SchedulerLookupRequest.new at h ⊢
  split_ifs at h ⊢
  cases h
  rfl

/-- How a lookup moves the state of a waiting request: it is looked up again,
and its generation stays in step with the answer. -/
theorem lookup_moves {id : String} {v : RequestView} {r : RequestRecord} {plan : RequestPlan}
    {o : Option RequestLifecycleState} {st : RequestLifecycleState}
    (ht : Tracked config prompt id v r) (hw : v.stage.waiting = true)
    (hn : NotedState v.preemptions r.preemptions r.state o) (hl : LookedUpState plan o st) :
    r.finished = false ∧ st.phase = .lookedUp ∧ (config.transferEnabled = true →
      ∀ answered md,
        SchedulerLookupRequest.new id (prompt id) 1 0 0 0 v.preemptions = .ok answered →
        Follows answered md r.retained →
        st.allocationGeneration = md.allocationGeneration) := by
  unfold Tracked at ht
  split at ht
  · obtain ⟨rfl, _⟩ := ht
    cases hn
    obtain ⟨ho, _⟩ | ⟨_, hf⟩ := hl
    · cases ho
    · rw [hf]
      refine ⟨rfl, rfl, fun _ answered md _ hfollows => ?_⟩
      cases hfollows with
      | first hg => exact hg.symm
  · obtain ⟨_, _, st₀, held, hp⟩ := ht
    rw [held.counted] at hn
    obtain ⟨_, hn⟩ := hn
    rw [if_neg (lt_irrefl _), held.state] at hn
    subst hn
    obtain ⟨ho, _⟩ | ⟨ho, _⟩ := hl
    · cases ho
      refine ⟨held.unfinished, hp, fun hmode answered md hnew hfollows => ?_⟩
      obtain ⟨md₀, answered₀, hs⟩ := held.synced hmode
      have heq := hs.request
      rw [hnew, Except.ok.injEq] at heq
      subst heq
      rw [hs.retained] at hfollows
      cases hfollows with
      | repeated => exact hs.generation
      | preempted _ hreq _ =>
        have hcount := congrArg SchedulerLookupRequest.preemptionCount hreq
        exact absurd hcount (Nat.ne_of_lt (Nat.lt_succ_self _))
    · cases ho
  · next hstage => rw [hstage] at hw; cases hw
  · obtain ⟨_, _, st₀, a, n, held, howns, hcount⟩ := ht
    rw [held.counted] at hn
    obtain ⟨_, hn⟩ := hn
    rw [if_pos (by omega)] at hn
    obtain ⟨st₁, st₂, hst, ⟨_, ⟨hp, _⟩ | ⟨_, hf⟩⟩, rfl⟩ := hn
    · rw [held.state] at hst
      cases hst
      have hal := howns.allocation
      rw [(lookedUp_bare hp).1] at hal
      cases hal
    · rw [held.state] at hst
      cases hst
      obtain ⟨ho, _⟩ | ⟨ho, _⟩ := hl
      · cases ho
        rw [hf]
        refine ⟨held.unfinished, rfl, fun hmode answered md hnew hfollows => ?_⟩
        obtain ⟨md₀, answered₀, hs⟩ := held.synced hmode
        have hcount₀ := (request_new_fields hs.request).2.2
        have hcount₁ := (request_new_fields hnew).2.2
        rw [hs.retained] at hfollows
        cases hfollows with
        | repeated => omega
        | preempted _ _ hm =>
          rw [hm]
          exact congrArg (· + 1) hs.generation
      · cases ho
  · next hstage => rw [hstage] at hw; cases hw

theorem transferEnabled_iff : config.transferEnabled = true ↔ ∃ t, config.transfer = some t := by
  unfold ConnectorConfig.transferEnabled
  rw [Option.isSome_iff_exists]

theorem tracked_lookup {id : String} {v : RequestView} {r r' : RequestRecord} {computed : ℕ}
    (ht : Tracked config prompt id v r) (hw : v.stage.waiting = true)
    (hc : config.transferEnabled = true → computed = 0)
    (he : LookupEffect config (vllmRequest prompt id v.preemptions) (prompt id) computed r r') :
    ∃ st, Held config prompt id v.preemptions r' st ∧ st.phase = .lookedUp := by
  cases he with
  | @controlFlow o st hmode hn hl hplan hr =>
    obtain ⟨hunf, hp, _⟩ := lookup_moves ht hw hn hl
    subst hr
    refine ⟨st, ⟨rfl, ControlPlane.requestPlan_new_id hplan, rfl, rfl, hunf, fun _ => hplan,
      fun h => ?_⟩, hp⟩
    obtain ⟨t, h⟩ := transferEnabled_iff.mp h
    rw [hmode] at h
    cases h
  | @transfer o st t answered md hmode hn hl hid hplan hnew hfollows hobs hr =>
    obtain ⟨hunf, hp, hgen⟩ := lookup_moves ht hw hn hl
    have hon := transferEnabled_iff.mpr ⟨t, hmode⟩
    rw [hc hon] at hnew
    subst hr
    refine ⟨st, ⟨rfl, hid, rfl, rfl, hunf, fun h => ?_, fun _ => ⟨md, answered, rfl, rfl, hnew,
      hplan, hgen hon answered md hnew hfollows, rfl, hobs⟩⟩, hp⟩
    rw [hmode] at h
    cases h

theorem tracked_allocate {id : String} {v : RequestView} {r r' : RequestRecord}
    {tables : List (List ℕ)} {st st' : RequestLifecycleState} {a : RequestAllocation}
    (ht : Tracked config prompt id v r) (hstage : v.stage = .lookedUp)
    (hl : List.Forall₂ (LegalTable config.adapted.numBlocks) config.adapted.groupKinds tables)
    (hn : NullFree tables)
    (he : AllocationEffect config.adapted.controlPlaneLayout tables r r' st st' a) :
    Tracked config prompt id { v with stage := .allocated, tables := tables } r' := by
  unfold Tracked at ht
  rw [hstage] at ht
  obtain ⟨_, hoff, st₀, held, hp⟩ := ht
  have hst := held.state
  rw [he.before] at hst
  cases hst
  obtain ⟨_, hf⟩ | ⟨hne, _⟩ := he.cases
  swap
  · exact absurd hp hne
  have hids := he.tables_eq
  refine ⟨st', a, ?_, ⟨by rw [hf], he.layout_eq, by rw [hf]; simp, ?_, ?_, ?_, ?_⟩,
    ⟨?_, fun table hm b hb => ((legal_bounds hl hm).2 b hb).1, fun _ => by rw [hf],
      fun h => ?_, fun h => ?_⟩⟩
  · rw [he.after]
    exact held_update held (by rw [hf]) (by rw [hf])
  · rw [hids, hl.length_eq]
  · rw [hids]
    exact fun table hm => (legal_bounds hl hm).1
  · rw [hids]
    intro table hm
    obtain ⟨_, _, hlegal⟩ := forall₂_right hl hm
    exact legal_nodup hlegal (hn table hm)
  · rw [hids]
    exact fun table hm b hb => ((legal_bounds hl hm).2 b hb).1
  · rw [hids]
    exact tablesGrown_start hl hn
  · rw [hoff] at h
    cases h
  · rw [hoff] at h
    cases h

theorem owns_update {st st' : RequestLifecycleState} {a : RequestAllocation}
    (h : Owns config st a) (ha : st'.allocation = st.allocation) (hp : st'.phase ≠ .finished) :
    Owns config st' a :=
  ⟨ha.trans h.allocation, h.layout, hp, h.groups, h.nonempty, h.nodup, h.bounded⟩

theorem tracked_build {id : String} {v : RequestView} {r r' : RequestRecord}
    {st st' : RequestLifecycleState} {h : RequestHandoffMetadata}
    (ht : Tracked config prompt id v r) (hstage : v.stage = .allocated)
    (hoff : v.handedOff = false) (hst : r.state = some st) (hh : HandedOff h st st')
    (hr : r' = { r with state := some st' }) :
    Tracked config prompt id { v with handedOff := true, outstanding := true } r' := by
  unfold Tracked at ht ⊢
  rw [hstage] at ht
  obtain ⟨st₀, a, held, howns, hrun⟩ := ht
  have hst₀ := held.state
  rw [hst] at hst₀
  cases hst₀
  obtain ⟨_, _, hf⟩ := handedOff_allocated hh (hrun.awaiting hoff)
  dsimp only
  rw [hstage, hr]
  refine ⟨st', a, held_update held (by rw [hf]) (by rw [hf]),
    owns_update howns (by rw [hf]) (by rw [hf]; simp), hrun.grown, hrun.bounded, fun h => ?_,
    fun _ => by rw [hf]; simp, fun _ h => ?_⟩
  · cases h
  · cases h

theorem tracked_receive {id : String} {v : RequestView} {r r' : RequestRecord}
    {receipt : WorkerValidationReceipt} (ht : Tracked config prompt id v r)
    (hout : v.outstanding = true) (he : ReceiptEffect receipt r r') :
    Tracked config prompt id { v with outstanding := false } r' := by
  obtain ⟨st, st', hst, hval, hr⟩ := he
  obtain ⟨hplan, hgen, hal, hfin, hnot⟩ := validated_keeps hval
  obtain ⟨hlooked, hallocated⟩ := validated_phase hval
  have hw : st'.workerValidation ≠ none := by
    rw [hval.2.2.1]
    exact Option.some_ne_none receipt
  unfold Tracked at ht ⊢
  split at ht
  · rw [hout] at ht
    cases ht.2.2.2
  · obtain ⟨_, _, st₀, held, hp⟩ := ht
    rw [held.state] at hst
    cases hst
    exact absurd hp hlooked
  · next hstage =>
    obtain ⟨st₀, a, held, howns, hrun⟩ := ht
    rw [held.state] at hst
    cases hst
    rw [if_neg (Bool.eq_false_iff.mp held.unfinished)] at hr
    dsimp only
    rw [hstage, hr]
    exact ⟨st', a, held_update held hplan hgen, owns_update howns hal (hfin howns.unfinished),
      hrun.grown, hrun.bounded, fun h => absurd (hrun.awaiting h) hallocated, fun _ => hnot,
      fun _ _ => hw⟩
  · next hstage =>
    obtain ⟨htables, hoff, st₀, a, n, held, howns, hcount⟩ := ht
    rw [held.state] at hst
    cases hst
    rw [if_neg (Bool.eq_false_iff.mp held.unfinished)] at hr
    dsimp only
    rw [hstage, hr]
    exact ⟨htables, hoff, st', a, n, held_update held hplan hgen,
      owns_update howns hal (hfin howns.unfinished), hcount⟩
  · next hstage =>
    dsimp only
    rw [hstage]
    obtain ⟨rfl, _⟩ | ⟨st₀, rfl, _, _, _, hno⟩ := ht
    · cases hst
    · cases hst
      rw [if_pos rfl] at hr
      refine Or.inl ⟨hr, fun _ => ?_⟩
      by_contra hoff
      obtain hp | hp := hno (Bool.eq_false_iff.mpr hoff)
      · exact hlooked hp
      · exact hallocated hp

theorem empty_not_accepted {st : RequestLifecycleState} {a : RequestAllocation}
    (h : Owns config st a) : ¬CompletionAccepted config (integers (emptyTables config)) st := by
  intro hc
  have hne : ∃ table ∈ a.groupedBlocks.blockIdsByGroup, table ≠ [] := by
    have hpos : 0 < a.groupedBlocks.blockIdsByGroup.length := by
      rw [h.groups]
      unfold AdaptedKvCacheConfig.groupKinds
      rw [List.length_map, HybridLayout.groups_length]
      decide
    obtain ⟨table, hm⟩ := List.exists_mem_of_length_pos hpos
    exact ⟨table, hm, h.nonempty table hm⟩
  have hf := empty_refused config.adapted.numBlocks _ h.groups hne
  have hacc := hc a h.allocation
  unfold emptyTables at hacc
  rw [hf] at hacc
  cases hacc

theorem tracked_finish {id : String} {v : RequestView} {r : RequestRecord}
    {st : RequestLifecycleState} (ht : Tracked config prompt id v r)
    (hstage : v.stage ≠ .finished) (hst : r.state = some st)
    (hc : CompletionAccepted config (integers v.tables) st) :
    Tracked config prompt id { v with stage := .finished } (finishedRecord config st r) := by
  change Leftover config id { v with stage := .finished } (finishedRecord config st r)
  unfold Tracked at ht
  split at ht
  · rw [ht.1] at hst
    cases hst
  · obtain ⟨_, hoff, st₀, held, hp⟩ := ht
    rw [held.state] at hst
    cases hst
    unfold finishedRecord
    by_cases hmode : config.transferEnabled = true
    · rw [if_pos ⟨hmode, (lookedUp_bare hp).2⟩]
      exact Or.inr ⟨st, rfl, hmode, held.plan_id, fun h => absurd h (by simp [hoff]),
        fun _ => Or.inl hp⟩
    · rw [if_neg (fun h => hmode h.1), held.unfinished]
      exact Or.inl ⟨rfl, fun h => absurd h hmode⟩
  · obtain ⟨st₀, a, held, howns, hrun⟩ := ht
    rw [held.state] at hst
    cases hst
    unfold finishedRecord
    by_cases hk : config.transferEnabled = true ∧ st.workerValidation = none
    · rw [if_pos hk]
      refine Or.inr ⟨st, rfl, hk.1, held.plan_id, fun h => ?_, fun h => Or.inr (hrun.awaiting h)⟩
      by_contra hout
      exact hrun.received h (Bool.eq_false_iff.mpr hout) hk.2
    · rw [if_neg hk, held.unfinished]
      refine Or.inl ⟨rfl, fun hmode => ?_⟩
      by_contra hoff
      exact hk ⟨hmode, (allocated_bare (hrun.awaiting (Bool.eq_false_iff.mpr hoff))).2⟩
  · obtain ⟨htables, _, st₀, a, n, held, howns, _⟩ := ht
    rw [held.state] at hst
    cases hst
    rw [htables] at hc
    exact absurd hc (empty_not_accepted howns)
  · exact absurd ‹_› hstage

/-- An event of one request keeps the invariant when it keeps the relation of
that request and leaves the other records and the queue of handoffs alone. -/
theorem invariant_update {s : Engine} {c : SchedulerConnector} {id : String} {v : RequestView}
    (hi : EngineInvariant sha256 config prompt s) (hu : Usable sha256 config c)
    (hr : ∀ id', id' ≠ id → record c id' = record s.connector id')
    (ht : Tracked config prompt id v (record c id)) (hn : c.pendingHandoffIds.Nodup)
    (ho : ∀ id', id' ≠ id →
      (id' ∈ c.pendingHandoffIds ↔ id' ∈ s.connector.pendingHandoffIds))
    (hp : id ∈ c.pendingHandoffIds → v.handedOff = false ∧
      (v.stage = .allocated ∨ v.stage = .finished))
    (hw : v.stage = .allocated → v.handedOff = false → id ∈ c.pendingHandoffIds) :
    EngineInvariant sha256 config prompt ⟨c, Function.update s.views id v⟩ where
  usable := hu
  pending_nodup := hn
  tracked id' := by
    dsimp only
    by_cases he : id' = id
    · subst he
      rwa [Function.update_self]
    · rw [Function.update_of_ne he, hr id' he]
      exact hi.tracked id'
  pending id' hm := by
    dsimp only
    by_cases he : id' = id
    · subst he
      rw [Function.update_self]
      exact hp hm
    · rw [Function.update_of_ne he]
      exact hi.pending id' ((ho id' he).mp hm)
  awaiting id' hs ha := by
    dsimp only at hs ha
    by_cases he : id' = id
    · subst he
      rw [Function.update_self] at hs ha
      exact hw hs ha
    · rw [Function.update_of_ne he] at hs ha
      exact (ho id' he).mpr (hi.awaiting id' hs ha)

theorem returned_iff {α : Type} (x : Except ConnectorError α × SchedulerConnector)
    (c : SchedulerConnector) : returned x = some c ↔ ∃ a, x = (.ok a, c) := by
  obtain ⟨e | a, c'⟩ := x <;> simp [returned]

theorem returned_map {α : Type} {x : Except ConnectorError α × SchedulerConnector}
    {f : SchedulerConnector → Engine} {s' : Engine} (h : (returned x).map f = some s') :
    ∃ a c, x = (.ok a, c) ∧ s' = f c := by
  obtain ⟨c, hc, rfl⟩ := Option.map_eq_some_iff.mp h
  obtain ⟨a, ha⟩ := (returned_iff x c).mp hc
  exact ⟨a, c, ha, rfl⟩

theorem copied_prompt (id : String) (preemptions : ℕ) :
    copyRequestPromptTokenIds (vllmRequest prompt id preemptions) = .ok (prompt id) := by
  unfold copyRequestPromptTokenIds vllmRequest
  simp [normalizeTokenIds_val]

theorem step_lookup {s s' : Engine} {id : String} {env : Environment} {computed : ℕ}
    (hi : EngineInvariant sha256 config prompt s)
    (h : advance sha256 config prompt s (.lookup id env computed) = some s') :
    EngineInvariant sha256 config prompt s' := by
  unfold advance at h
  dsimp only at h
  split_ifs at h with hg
  obtain ⟨hw, hcomputed⟩ := hg
  obtain ⟨r, c, hc, rfl⟩ := returned_map h
  obtain ⟨hu, hpend, hothers, tokens, htokens, he⟩ := lookup_record sha256 hi.usable hc
  rw [copied_prompt, Except.ok.injEq] at htokens
  subst htokens
  obtain ⟨st, held, hp⟩ := tracked_lookup (hi.tracked id) hw hcomputed he
  have hoff := tracked_waiting (hi.tracked id) hw
  have hnot : id ∉ s.connector.pendingHandoffIds := by
    intro hm
    obtain ⟨_, hs | hs⟩ := hi.pending id hm <;> rw [hs] at hw <;> cases hw
  refine invariant_update hi hu hothers ⟨hoff.2, hoff.1, st, held, hp⟩ ?_ ?_ ?_ ?_
  · rw [hpend]
    exact hi.pending_nodup
  · intro id' _
    rw [hpend]
  · intro hm
    rw [hpend] at hm
    exact absurd hm hnot
  · intro hs
    cases hs

theorem step_allocate {s s' : Engine} {id : String} {tables : List (List ℕ)}
    (hi : EngineInvariant sha256 config prompt s)
    (h : advance sha256 config prompt s (.allocate id tables) = some s') :
    EngineInvariant sha256 config prompt s' := by
  unfold advance at h
  dsimp only at h
  split_ifs at h with hg
  obtain ⟨hstage, hlegal⟩ := hg
  obtain ⟨_, c, hc, rfl⟩ := returned_map h
  have hl := (legalTables_iff _ _ _).mp hlegal
  obtain ⟨hu, hn, hpend, hothers, st, st', a, he⟩ := allocate_record sha256 hi.usable hl hc
  have hnot : id ∉ s.connector.pendingHandoffIds := by
    intro hm
    obtain ⟨_, hs | hs⟩ := hi.pending id hm <;> rw [hstage] at hs <;> cases hs
  rw [if_neg hnot] at hpend
  have hoff : (s.views id).handedOff = false := by
    have ht := hi.tracked id
    unfold Tracked at ht
    rw [hstage] at ht
    exact ht.2.1
  refine invariant_update hi hu hothers (tracked_allocate (hi.tracked id) hstage hl hn he) ?_ ?_
    ?_ ?_
  · rw [hpend]
    exact hi.pending_nodup.append (List.nodup_singleton id) (List.disjoint_singleton.mpr hnot)
  · intro id' hne
    rw [hpend, List.mem_append, List.mem_singleton]
    simp [hne]
  · exact fun _ => ⟨hoff, Or.inl rfl⟩
  · intro _ _
    rw [hpend]
    exact List.mem_append_right _ (List.mem_singleton_self id)

theorem transferFor_lookup {t : RuntimeConfig} {c : SchedulerConnector}
    {scheduled : Dict String ℤ} {h : RequestHandoffMetadata}
    {x : Option (SchedulerTransferMetadata sha256)}
    (hx : transferFor sha256 t c scheduled h = .ok x) :
    ∃ md, c.schedulerLookupMetadata.get? h.plan.requestId = some md := by
  unfold transferFor at hx
  split at hx
  · cases hx
  · next md hmd => exact ⟨md, hmd⟩

theorem stepContents_transfers {c : SchedulerConnector} {scheduled : Dict String ℤ}
    {handoffs : List RequestHandoffMetadata} {t : RuntimeConfig}
    {transfers : List (SchedulerTransferMetadata sha256)}
    {observations : List CacheBlendLookupObservation} (ht : config.transfer = some t)
    (h : stepContents sha256 config c scheduled handoffs = .ok (transfers, observations)) :
    ∃ xs, List.Forall₂ (transferFor sha256 t c scheduled · = .ok ·) handoffs xs ∧
      transfers = xs.filterMap id := by
  unfold stepContents at h
  rw [ht] at h
  obtain ⟨xs, hx, h⟩ := (checked_ok_iff _ _ _).mp h
  obtain ⟨os, _, h⟩ := (checked_ok_iff _ _ _).mp h
  cases h
  exact ⟨xs, (mapM_returns_iff _ _ _).mp hx, rfl⟩

theorem build_unfinished {s : Engine} {c : SchedulerConnector} {scheduled : Dict String ℤ}
    {m : GptOssCacheBlendMetadata sha256} (hi : EngineInvariant sha256 config prompt s)
    (h : buildConnectorMeta sha256 config scheduled s.connector = (.ok m, c)) (id : String)
    (hm : id ∈ s.connector.pendingHandoffIds) : (s.views id).stage = .allocated := by
  obtain ⟨_, _, _, hstates, hcontents⟩ := build_record sha256 hi.usable hi.pending_nodup h
  obtain ⟨hoff, hs | hs⟩ := hi.pending id hm
  · exact hs
  exfalso
  obtain ⟨handoff, hh, st, st', hst, hhand, _⟩ := forall₂_left hstates hm
  have ht := hi.tracked id
  unfold Tracked at ht
  rw [hs] at ht
  obtain ⟨he, _⟩ | ⟨st₀, he, hmode, hplan, _⟩ := ht
  · rw [he] at hst
    cases hst
  · obtain ⟨t, ht⟩ := transferEnabled_iff.mp hmode
    obtain ⟨xs, hxs, _⟩ := stepContents_transfers ht hcontents
    obtain ⟨x, _, hx⟩ := forall₂_left hxs hh
    obtain ⟨md, hmd⟩ := transferFor_lookup hx
    have hst₀ : st₀ = st := by
      rw [he] at hst
      exact Option.some_inj.mp hst
    rw [handedOff_plan hhand, ← hst₀, hplan] at hmd
    have hnone := congrArg RequestRecord.metadata he
    change s.connector.schedulerLookupMetadata.get? id = none at hnone
    rw [hmd] at hnone
    cases hnone

theorem step_build {s s' : Engine} {scheduled : Dict String ℤ}
    (hi : EngineInvariant sha256 config prompt s)
    (h : advance sha256 config prompt s (.build scheduled) = some s') :
    EngineInvariant sha256 config prompt s' := by
  obtain ⟨m, c, hc, rfl⟩ := returned_map h
  obtain ⟨hu, hpend, hothers, hstates, _⟩ := build_record sha256 hi.usable hi.pending_nodup hc
  have hstage := build_unfinished hi hc
  refine ⟨hu, fun id => ?_, ?_, fun id hm => ?_, fun id hs ha => ?_⟩
  · dsimp only
    by_cases hm : id ∈ s.connector.pendingHandoffIds
    · rw [if_pos hm]
      obtain ⟨handoff, _, st, st', hst, hhand, hr⟩ := forall₂_left hstates hm
      exact tracked_build (hi.tracked id) (hstage id hm) (hi.pending id hm).1 hst hhand hr
    · rw [if_neg hm, hothers id hm]
      exact hi.tracked id
  · dsimp only
    rw [hpend]
    exact List.nodup_nil
  · dsimp only at hm
    rw [hpend] at hm
    cases hm
  · dsimp only at hs ha
    split_ifs at hs ha with hm
    exact absurd (hi.awaiting id hs ha) hm

theorem step_receive {s s' : Engine} {receipts : List WorkerValidationReceipt}
    (hi : EngineInvariant sha256 config prompt s)
    (h : advance sha256 config prompt s (.receive receipts) = some s') :
    EngineInvariant sha256 config prompt s' := by
  unfold advance at h
  dsimp only at h
  split_ifs at h with hg
  obtain ⟨hnodup, hout⟩ := hg
  obtain ⟨_, c, hc, rfl⟩ := returned_map h
  obtain ⟨hu, hpend, hothers, heffects⟩ := receipts_record sha256 hi.usable hnodup hc
  refine ⟨hu, fun id => ?_, ?_, fun id hm => ?_, fun id hs ha => ?_⟩
  · dsimp only
    by_cases hm : id ∈ receipts.map WorkerValidationReceipt.requestId
    · rw [if_pos hm]
      have ho := hout id hm
      obtain ⟨receipt, hr, rfl⟩ := List.mem_map.mp hm
      exact tracked_receive (hi.tracked _) ho (heffects receipt hr)
    · rw [if_neg hm, hothers id hm]
      exact hi.tracked id
  · dsimp only
    rw [hpend]
    exact hi.pending_nodup
  · dsimp only at hm ⊢
    rw [hpend] at hm
    split_ifs <;> exact hi.pending id hm
  · dsimp only at hs ha ⊢
    rw [hpend]
    split_ifs at hs ha <;> exact hi.awaiting id hs ha

theorem step_tables {s : Engine} {id : String} (tables : List (List ℕ))
    (hi : EngineInvariant sha256 config prompt s) (hstage : (s.views id).stage = .allocated)
    (hg : ∀ allocated, TablesGrown config.adapted.groupKinds allocated (s.views id).tables →
      TablesGrown config.adapted.groupKinds allocated tables)
    (hb : (∀ table ∈ (s.views id).tables, ∀ b ∈ table, b < config.adapted.numBlocks) →
      ∀ table ∈ tables, ∀ b ∈ table, b < config.adapted.numBlocks) :
    EngineInvariant sha256 config prompt
      ⟨s.connector, Function.update s.views id { s.views id with tables := tables }⟩ := by
  have ht := hi.tracked id
  unfold Tracked at ht
  rw [hstage] at ht
  obtain ⟨st, a, held, howns, hrun⟩ := ht
  refine invariant_update hi hi.usable (fun _ _ => rfl) ?_ hi.pending_nodup (fun _ _ => Iff.rfl)
    (hi.pending id) (hi.awaiting id)
  unfold Tracked
  dsimp only
  rw [hstage]
  exact ⟨st, a, held, howns, hg _ hrun.grown, hb hrun.bounded, hrun.awaiting, hrun.delivered,
    hrun.received⟩

theorem mem_dropBlock {b : ℕ} {table : List ℕ} (h : b ∈ dropBlock table) :
    b ∈ table ∨ b = 0 := by
  induction table with
  | nil => cases h
  | cons x rest ih =>
    cases x with
    | zero =>
      obtain rfl | h := List.mem_cons.mp h
      · exact Or.inr rfl
      · exact (ih h).imp_left (List.mem_cons_of_mem _)
    | succ n =>
      obtain rfl | h := List.mem_cons.mp h
      · exact Or.inr rfl
      · exact Or.inl (List.mem_cons_of_mem _ h)

theorem step_grow {s s' : Engine} {id : String} {group block : ℕ}
    (hi : EngineInvariant sha256 config prompt s)
    (h : advance sha256 config prompt s (.grow id group block) = some s') :
    EngineInvariant sha256 config prompt s' := by
  unfold advance at h
  dsimp only at h
  split_ifs at h with hg
  obtain ⟨hstage, hzero, hrange, hnew⟩ := hg
  cases h
  refine step_tables _ hi hstage (fun allocated hgrown => ?_) fun hb table hm b hmem => ?_
  · refine tablesGrown_modify hgrown group _ fun kind original current _ hcurrent hg => ?_
    rw [List.getD_eq_getElem?_getD, hcurrent] at hnew
    exact grown_append hg block hzero hnew
  · obtain hm | ⟨old, hold, rfl⟩ := mem_modify hm
    · exact hb table hm b hmem
    · obtain hmem | hmem := List.mem_append.mp hmem
      · exact hb old (List.mem_of_getElem? hold) b hmem
      · rw [List.mem_singleton.mp hmem]
        exact hrange

theorem step_slide {s s' : Engine} {id : String} {group : ℕ}
    (hi : EngineInvariant sha256 config prompt s)
    (h : advance sha256 config prompt s (.slide id group) = some s') :
    EngineInvariant sha256 config prompt s' := by
  unfold advance at h
  dsimp only at h
  split_ifs at h with hg
  obtain ⟨hstage, hkind⟩ := hg
  cases h
  refine step_tables _ hi hstage (fun allocated hgrown => ?_) fun hb table hm b hmem => ?_
  · refine tablesGrown_modify hgrown group _ fun kind original current hk _ hg => ?_
    rw [hkind] at hk
    cases hk
    exact grown_drop hg
  · obtain hm | ⟨old, hold, rfl⟩ := mem_modify hm
    · exact hb table hm b hmem
    · obtain hmem | rfl := mem_dropBlock hmem
      · exact hb old (List.mem_of_getElem? hold) b hmem
      · exact config.adapted.blocks_positive

theorem step_preempt {s s' : Engine} {id : String}
    (hi : EngineInvariant sha256 config prompt s)
    (h : advance sha256 config prompt s (.preempt id) = some s') :
    EngineInvariant sha256 config prompt s' := by
  unfold advance at h
  dsimp only at h
  split_ifs at h with hg
  obtain ⟨hstage, hoff⟩ := hg
  cases h
  have ht := hi.tracked id
  unfold Tracked at ht
  rw [hstage] at ht
  obtain ⟨st, a, held, howns, _⟩ := ht
  refine invariant_update hi hi.usable (fun _ _ => rfl)
    ⟨rfl, rfl, st, a, (s.views id).preemptions, held, howns, rfl⟩ hi.pending_nodup
    (fun _ _ => Iff.rfl) (fun hm => ?_) (fun hs => by cases hs)
  rw [(hi.pending id hm).1] at hoff
  cases hoff

theorem step_finish {s s' : Engine} {id : String}
    (hi : EngineInvariant sha256 config prompt s)
    (h : advance sha256 config prompt s (.finish id) = some s') :
    EngineInvariant sha256 config prompt s' := by
  unfold advance at h
  dsimp only at h
  split_ifs at h with hstage
  obtain ⟨_, c, hc, rfl⟩ := returned_map h
  obtain ⟨hu, hpend, hothers, st, hst, hacc, hr⟩ := finish_record sha256 hi.usable hc
  refine invariant_update hi hu hothers ?_ ?_ ?_ ?_ (fun hs => by cases hs)
  · rw [hr]
    exact tracked_finish (hi.tracked id) hstage hst hacc
  · rw [hpend]
    exact hi.pending_nodup
  · intro _ _
    rw [hpend]
  · intro hm
    rw [hpend] at hm
    exact ⟨(hi.pending id hm).1, Or.inr rfl⟩

theorem step_invariant (s : Engine) (event : EngineEvent) (s' : Engine)
    (hi : EngineInvariant sha256 config prompt s)
    (h : advance sha256 config prompt s event = some s') :
    EngineInvariant sha256 config prompt s' := by
  cases event with
  | lookup id env computed => exact step_lookup hi h
  | allocate id tables => exact step_allocate hi h
  | build scheduled => exact step_build hi h
  | receive receipts => exact step_receive hi h
  | preempt id => exact step_preempt hi h
  | grow id group block => exact step_grow hi h
  | slide id group => exact step_slide hi h
  | finish id => exact step_finish hi h

theorem reachable_invariant {s : Engine} (h : Reachable sha256 config prompt s) :
    EngineInvariant sha256 config prompt s :=
  reached_invariant (EngineInvariant sha256 config prompt) step_invariant
    (invariant_initial sha256 config prompt) h

end

end CacheBlend.EngineRuns
