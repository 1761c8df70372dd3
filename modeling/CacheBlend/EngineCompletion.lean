import CacheBlend.EngineRuns

/-!
# Completion of a request

The completion hook reads a state that the first lookup creates and that
learns of a preemption only at the next lookup. It accepts a request exactly
between its lookup and its preemption. In transfer mode a completed request
leaves nothing behind exactly when its last allocation had been handed off.
-/

set_option autoImplicit false

namespace CacheBlend.EngineCompletion
open CacheBlend.PlannerModels CacheBlend.RequestLifecycle CacheBlend.VllmAdapters
open CacheBlend.CompletionTables CacheBlend.SchedulerRuntime CacheBlend.SchedulerHooks
open CacheBlend.HookEffects CacheBlend.ConnectorRecords CacheBlend.EngineRuns

section
variable {sha256 : Bytes → Digest} {config : ConnectorConfig} {prompt : String → List TokenId}

theorem kinds_length (config : ConnectorConfig) :
    config.adapted.groupKinds.length = config.groupLayerNames.length :=
  (groupCount_eq config.adapted).symm

theorem finish_returns {s : SchedulerConnector} {id : String} {tables : List (List ℕ)}
    {st : RequestLifecycleState} (hl : tables.length = config.adapted.groupKinds.length)
    (hst : (record s id).state = some st) (hc : CompletionAccepted config (integers tables) st) :
    ∃ c, requestFinishedAllGroups config id (integers tables) s = (.ok (false, none), c) := by
  refine ⟨_, (requestFinished_ok_iff _ _ _ _ _ _).mpr ⟨rfl, ?_, st, hst, hc, rfl⟩⟩
  unfold integers
  rw [List.length_map, hl, kinds_length]

theorem running_accepted {v : RequestView} {st : RequestLifecycleState} {a : RequestAllocation}
    (howns : Owns config st a) (hrun : Running config v st a) :
    CompletionAccepted config (integers v.tables) st := by
  intro b hb
  rw [Option.mem_def, howns.allocation, Option.some.injEq] at hb
  subst hb
  refine grown_accepted hrun.grown howns.nodup config.adapted.blocks_positive ?_
  intro table hm b hmem
  obtain hm | hm := List.mem_append.mp hm
  · exact howns.bounded table hm b hmem
  · exact hrun.bounded table hm b hmem

/-- In every reachable engine and for every unfinished request, the completion
hook returns on the tables of the request exactly when the request was looked
up and has not been preempted since. -/
theorem completion_returns_iff {s : Engine} (h : Reachable sha256 config prompt s) (id : String)
    (hs : (s.views id).stage ≠ .finished) :
    (∃ c, requestFinishedAllGroups config id (integers (s.views id).tables) s.connector =
      (.ok (false, none), c)) ↔
    ((s.views id).stage = .lookedUp ∨ (s.views id).stage = .allocated) := by
  have hi := reachable_invariant h
  have ht := hi.tracked id
  constructor
  · rintro ⟨c, hc⟩
    obtain ⟨_, _, _, st, hst, hacc, _⟩ := finish_record sha256 hi.usable hc
    unfold Tracked at ht
    cases hstage : (s.views id).stage <;> rw [hstage] at ht
    · rw [ht.1] at hst
      cases hst
    · exact Or.inl rfl
    · exact Or.inr rfl
    · obtain ⟨htables, _, st₀, a, n, held, howns, _⟩ := ht
      rw [held.state] at hst
      cases hst
      rw [htables] at hacc
      exact absurd hacc (empty_not_accepted howns)
    · exact absurd hstage hs
  · rintro (hstage | hstage)
    · unfold Tracked at ht
      rw [hstage] at ht
      obtain ⟨htables, _, st, held, hp⟩ := ht
      refine finish_returns ?_ held.state fun a ha => ?_
      · rw [htables]
        exact List.length_map _
      · rw [(lookedUp_bare hp).1] at ha
        cases ha
    · unfold Tracked at ht
      rw [hstage] at ht
      obtain ⟨st, a, held, howns, hrun⟩ := ht
      exact finish_returns (tablesGrown_lengths hrun.grown).2 held.state
        (running_accepted howns hrun)

/-- In transfer mode, once a request is finished and no receipt is outstanding,
the connector keeps nothing of it exactly when its last allocation had been
handed off. -/
theorem retains_nothing_iff {s : Engine} (h : Reachable sha256 config prompt s)
    (hmode : config.transferEnabled = true) (id : String)
    (hs : (s.views id).stage = .finished) (ho : (s.views id).outstanding = false) :
    record s.connector id = .empty ↔ (s.views id).handedOff = true := by
  have ht := (reachable_invariant h).tracked id
  unfold Tracked at ht
  rw [hs] at ht
  obtain ⟨hr, hoff⟩ | ⟨st, hr, _, _, hout, _⟩ := ht
  · exact ⟨fun _ => hoff hmode, fun _ => hr⟩
  · rw [hr]
    constructor
    · intro he
      have hf := congrArg RequestRecord.finished he
      cases hf
    · intro hoff
      rw [hout hoff] at ho
      cases ho

end

/-! ## A configuration and some requests -/

theorem block_positive : 0 < 16 := by decide

theorem no_window : (none : Option ℕ) = none := rfl

def slidingGroup : HybridLayout.CacheGroupLayout :=
  ⟨0, .sliding, ["model.layers.0.attn"], 16, some 128, block_positive, rfl⟩

def fullGroup : HybridLayout.CacheGroupLayout :=
  ⟨1, .full, ["model.layers.1.attn"], 16, none, block_positive, no_window⟩

def exampleAdapted : AdaptedKvCacheConfig where
  numBlocks := 64
  gptOssLayout := ⟨[slidingGroup, fullGroup], by decide, by decide, by decide⟩
  controlPlaneLayout := ⟨[["model.layers.0.attn"], ["model.layers.1.attn"]], by decide,
    by decide, by decide, by decide⟩
  blocks_positive := by decide
  ids_eq := rfl
  layers_eq := rfl

def controlFlowConfig : ConnectorConfig := ⟨exampleAdapted, none⟩

def transferConfig : ConnectorConfig :=
  ⟨exampleAdapted, some ⟨LookupPlans.exampleNamespace, 8192⟩⟩

/-- A transport that opens and has no candidate, over an empty sidecar. -/
def emptyEnvironment : Environment where
  opened := .ok ()
  closes := true
  replaced := .ok .fresh
  candidates := .ok []
  records _ _ _ := .ok []

def zeroHash : Bytes → Digest := fun _ => LookupPlans.zeroDigest

def onePrompt : String → List TokenId := fun _ => [0]

def exampleTables : List (List ℕ) := [[1], [2]]

def oneScheduled : Dict String ℤ := Dict.empty.set "r" 1

def engineAfter (config : ConnectorConfig) (events : List EngineEvent) : Engine :=
  ran (advance zeroHash config onePrompt) (Engine.initial config) events

theorem engineAfter_reachable {config : ConnectorConfig} {events : List EngineEvent}
    (h : (execute (advance zeroHash config onePrompt) (Engine.initial config) events).isSome =
      true) : Reachable zeroHash config onePrompt (engineAfter config events) :=
  ran_reached events h

/-- A request that is still queued is unknown to the completion hook. -/
theorem queued_completion_raises :
    Reachable zeroHash controlFlowConfig onePrompt (Engine.initial controlFlowConfig) ∧
      ((Engine.initial controlFlowConfig).views "r").stage = .queued ∧
      (requestFinishedAllGroups controlFlowConfig "r"
        (integers ((Engine.initial controlFlowConfig).views "r").tables)
        (Engine.initial controlFlowConfig).connector).1 =
          .error (.controlPlane ⟨.unknownRequest, .operation⟩) :=
  ⟨reached_start _ _, rfl, by decide +kernel⟩

def preemptedRun : List EngineEvent :=
  [.lookup "r" emptyEnvironment 0, .allocate "r" exampleTables, .build oneScheduled,
    .preempt "r"]

/-- A preempted request has no blocks, and the hook does not accept that. -/
theorem preempted_completion :
    (∃ c, requestFinishedAllGroups transferConfig "r"
      (integers ((engineAfter transferConfig preemptedRun).views "r").tables)
      (engineAfter transferConfig preemptedRun).connector = (.ok (false, none), c)) ↔
    (((engineAfter transferConfig preemptedRun).views "r").stage = .lookedUp ∨
      ((engineAfter transferConfig preemptedRun).views "r").stage = .allocated) :=
  completion_returns_iff (engineAfter_reachable (by decide +kernel)) "r" (by decide +kernel)

def cancelledRun : List EngineEvent := [.lookup "r" emptyEnvironment 0, .finish "r"]

/-- A request cancelled before its allocation stays in the connector. -/
theorem cancelled_request_retained :
    Reachable zeroHash transferConfig onePrompt (engineAfter transferConfig cancelledRun) ∧
      ((engineAfter transferConfig cancelledRun).views "r").stage = .finished ∧
      ((engineAfter transferConfig cancelledRun).views "r").outstanding = false ∧
      record (engineAfter transferConfig cancelledRun).connector "r" ≠ .empty :=
  ⟨engineAfter_reachable (by decide +kernel), by decide +kernel, by decide +kernel,
    by decide +kernel⟩

/-- The characterisation of what is left, for the cancelled request. -/
theorem cancelled_request_left :
    record (engineAfter transferConfig cancelledRun).connector "r" = .empty ↔
      ((engineAfter transferConfig cancelledRun).views "r").handedOff = true :=
  retains_nothing_iff (engineAfter_reachable (by decide +kernel)) rfl "r" (by decide +kernel)
    (by decide +kernel)

end CacheBlend.EngineCompletion
