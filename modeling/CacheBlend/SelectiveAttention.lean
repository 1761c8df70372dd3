import CacheBlend.SelectiveUpdates

/-!
# Updates before attention

The bridge runs one layer at a time: it updates the rows of the layer and then
calls its attention with the same sinks. Whatever calls it receives and
whatever the session and the attention raise, their invocations follow one
order, from the update of the first layer to the end of the session, and none
comes after a failure or after the end.
-/

set_option autoImplicit false

namespace CacheBlend.SelectiveAttention
open CacheBlend.ScatterSpans CacheBlend.SelectiveRows CacheBlend.SelectiveUpdates

inductive SelectiveAttentionErrorCode where
  | invalidSession
  | invalidLayer
  | layerOrderMismatch
  | sinkRequired
  | invalidAttention
  | updateFailed
  | attentionFailed
  | incomplete
  deriving DecidableEq

structure SelectiveLayerSession (σ τ ψ ρ : Type) where
  updateLayer : ℤ → LayerInputs τ → Call σ ψ PUnit
  finish : Call σ ψ ρ

structure AttentionArguments (τ : Type) where
  layerIndex : ℤ
  query : τ
  key : τ
  value : τ
  kvCache : τ
  attnMetadata : τ
  sinks : τ

abbrev SelectiveAttentionCall (σ τ ψ ο : Type) : Type := AttentionArguments τ → Call σ ψ ο

/-- The arguments of a layer. No sinks stand for `None`, no attention for an
object that is not callable. -/
structure LayerCall (σ τ ψ ο : Type) where
  layerIndex : ℤ
  query : τ
  inputs : LayerInputs τ
  attnMetadata : τ
  sinks : Option τ
  attention : Option (SelectiveAttentionCall σ τ ψ ο)

structure SelectiveAttentionBridge where
  nextLayer : ℕ
  failed : Bool
  finished : Bool

def SelectiveAttentionBridge.new : SelectiveAttentionBridge := ⟨0, false, false⟩

section
variable {σ τ ψ ρ ο α : Type}

abbrev BridgeCall (σ α : Type) : Type :=
  Call (SelectiveAttentionBridge × σ) SelectiveAttentionErrorCode α

/-- `_ensure_active`. -/
def ensureActive : BridgeCall σ PUnit := fun t =>
  if t.1.failed = true ∨ t.1.finished = true then (.error .invalidSession, t) else (.ok ⟨⟩, t)

/-- `_terminal`. -/
def terminal (code : SelectiveAttentionErrorCode) : BridgeCall σ α := fun t =>
  (.error code, ({ t.1 with failed := true }, t.2))

/-- A call of the session or of the attention, whose errors close the bridge. -/
def guarded (code : SelectiveAttentionErrorCode) (c : Call σ ψ α) : BridgeCall σ α := fun t =>
  match c t.2 with
  | (.ok a, s) => (.ok a, (t.1, s))
  | (.error _, s) => (.error code, ({ t.1 with failed := true }, s))

def LayerCall.arguments (call : LayerCall σ τ ψ ο) (sinks : τ) : AttentionArguments τ :=
  ⟨call.layerIndex, call.query, call.inputs.key, call.inputs.value, call.inputs.cache,
    call.attnMetadata, sinks⟩

/-- The checks of `run_layer`, with the sinks and the attention. -/
def checkLayer (nextLayer : ℕ) (call : LayerCall σ τ ψ ο) :
    Except SelectiveAttentionErrorCode (τ × SelectiveAttentionCall σ τ ψ ο) := do
  require (0 ≤ call.layerIndex ∧ call.layerIndex < gptOssNumLayers) .invalidLayer
  require (call.layerIndex = nextLayer) .layerOrderMismatch
  match call.sinks, call.attention with
  | none, _ => .error .sinkRequired
  | some _, none => .error .invalidAttention
  | some sinks, some attention => .ok (sinks, attention)

def applyLayer (session : SelectiveLayerSession σ τ ψ ρ) (call : LayerCall σ τ ψ ο) (sinks : τ)
    (attention : SelectiveAttentionCall σ τ ψ ο) : BridgeCall σ ο := do
  guarded .updateFailed (session.updateLayer call.layerIndex call.inputs)
  let output ← guarded .attentionFailed (attention (call.arguments sinks))
  Call.modify (fun t => ({ t.1 with nextLayer := t.1.nextLayer+1 }, t.2))
  pure output

def runLayer (session : SelectiveLayerSession σ τ ψ ρ) (call : LayerCall σ τ ψ ο) :
    BridgeCall σ ο := do
  ensureActive
  fun t =>
    match checkLayer t.1.nextLayer call with
    | .error code => terminal code t
    | .ok given => applyLayer session call given.1 given.2 t

def finish (session : SelectiveLayerSession σ τ ψ ρ) : BridgeCall σ ρ := do
  ensureActive
  fun t =>
    if t.1.nextLayer ≠ gptOssNumLayers then terminal .incomplete t
    else (do
      let receipt ← guarded .updateFailed session.finish
      Call.modify (fun t => ({ t.1 with finished := true }, t.2))
      pure receipt : BridgeCall σ ρ) t

/-! ## Runs -/

inductive BridgeOperation (σ τ ψ ο : Type) where
  | runLayer (call : LayerCall σ τ ψ ο)
  | finish

/-- The result of a call: the output of a layer, or the receipt. -/
inductive Returned (ο ρ : Type) where
  | output (o : ο)
  | receipt (r : ρ)

def perform (session : SelectiveLayerSession σ τ ψ ρ) :
    BridgeOperation σ τ ψ ο → BridgeCall σ (Returned ο ρ)
  | .runLayer call => do
    let output ← runLayer session call
    pure (.output output)
  | .finish => do
    let receipt ← finish session
    pure (.receipt receipt)

/-- The results of calls one after the other, whether they return or raise. -/
def performAll (session : SelectiveLayerSession σ τ ψ ρ) :
    List (BridgeOperation σ τ ψ ο) → SelectiveAttentionBridge × σ →
      List (Except SelectiveAttentionErrorCode (Returned ο ρ)) × (SelectiveAttentionBridge × σ)
  | [], t => ([], t)
  | operation::later, t =>
    ((perform session operation t).1 ::
        (performAll session later (perform session operation t).2).1,
      (performAll session later (perform session operation t).2).2)

def Active (b : SelectiveAttentionBridge) : Prop := b.failed = false ∧ b.finished = false

def Closed (b : SelectiveAttentionBridge) : Prop := b.failed = true ∨ b.finished = true

theorem closed_or_active (b : SelectiveAttentionBridge) : Closed b ∨ Active b := by
  unfold Closed Active
  cases b.failed <;> cases b.finished <;> simp

theorem not_active {b : SelectiveAttentionBridge} (h : Closed b) : ¬Active b := by
  unfold Closed at h
  unfold Active
  rintro ⟨hf, he⟩
  rw [hf, he] at h
  simp at h

/-! ## What one call does -/

/-- What a call does to an active bridge, with the calls of session and attention. -/
inductive Does (session : SelectiveLayerSession σ τ ψ ρ) (b : SelectiveAttentionBridge) (s : σ) :
    BridgeOperation σ τ ψ ο → Except SelectiveAttentionErrorCode (Returned ο ρ) →
      SelectiveAttentionBridge → σ → Prop where
  | refused (operation : BridgeOperation σ τ ψ ο) (code : SelectiveAttentionErrorCode) :
      Does session b s operation (.error code) { b with failed := true } s
  | unwritten (call : LayerCall σ τ ψ ο) (sinks : τ) (attention : SelectiveAttentionCall σ τ ψ ο)
      (e : ψ) (s' : σ) (hc : checkLayer b.nextLayer call = .ok (sinks, attention))
      (hu : session.updateLayer call.layerIndex call.inputs s = (.error e, s')) :
      Does session b s (.runLayer call) (.error .updateFailed) { b with failed := true } s'
  | unattended (call : LayerCall σ τ ψ ο) (sinks : τ) (attention : SelectiveAttentionCall σ τ ψ ο)
      (e : ψ) (s₁ s' : σ) (hc : checkLayer b.nextLayer call = .ok (sinks, attention))
      (hu : session.updateLayer call.layerIndex call.inputs s = (.ok ⟨⟩, s₁))
      (ha : attention (call.arguments sinks) s₁ = (.error e, s')) :
      Does session b s (.runLayer call) (.error .attentionFailed) { b with failed := true } s'
  | attended (call : LayerCall σ τ ψ ο) (sinks : τ) (attention : SelectiveAttentionCall σ τ ψ ο)
      (output : ο) (s₁ s' : σ) (hc : checkLayer b.nextLayer call = .ok (sinks, attention))
      (hu : session.updateLayer call.layerIndex call.inputs s = (.ok ⟨⟩, s₁))
      (ha : attention (call.arguments sinks) s₁ = (.ok output, s')) :
      Does session b s (.runLayer call) (.ok (.output output))
        { b with nextLayer := b.nextLayer+1 } s'
  | unfinished (e : ψ) (s' : σ) (hn : b.nextLayer = gptOssNumLayers)
      (hf : session.finish s = (.error e, s')) :
      Does session b s .finish (.error .updateFailed) { b with failed := true } s'
  | finished (receipt : ρ) (s' : σ) (hn : b.nextLayer = gptOssNumLayers)
      (hf : session.finish s = (.ok receipt, s')) :
      Does session b s .finish (.ok (.receipt receipt)) { b with finished := true } s'

theorem perform_closed (session : SelectiveLayerSession σ τ ψ ρ) {b : SelectiveAttentionBridge}
    (h : Closed b) (s : σ) (operation : BridgeOperation σ τ ψ ο) :
    perform session operation (b, s) = (.error .invalidSession, (b, s)) := by
  have hactive : (ensureActive : BridgeCall σ PUnit) (b, s) = (.error .invalidSession, (b, s)) :=
    if_pos h
  cases operation with
  | runLayer call =>
    have hrun : runLayer session call (b, s) = (.error .invalidSession, (b, s)) :=
      Call.bind_run_error _ hactive
    exact Call.bind_run_error _ hrun
  | finish =>
    have hfinish : finish session (b, s) = (.error .invalidSession, (b, s)) :=
      Call.bind_run_error _ hactive
    exact Call.bind_run_error _ hfinish

theorem performAll_cons {session : SelectiveLayerSession σ τ ψ ρ}
    {operation : BridgeOperation σ τ ψ ο} {later : List (BridgeOperation σ τ ψ ο)}
    {t t₁ t' : SelectiveAttentionBridge × σ}
    {result : Except SelectiveAttentionErrorCode (Returned ο ρ)}
    {results : List (Except SelectiveAttentionErrorCode (Returned ο ρ))}
    (h : perform session operation t = (result, t₁))
    (hl : performAll session later t₁ = (results, t')) :
    performAll session (operation::later) t = (result::results, t') := by
  rw [performAll, h, hl]

theorem performAll_closed (session : SelectiveLayerSession σ τ ψ ρ)
    {b : SelectiveAttentionBridge} (h : Closed b) (s : σ)
    (later : List (BridgeOperation σ τ ψ ο)) :
    performAll session later (b, s) = (later.map (fun _ => .error .invalidSession), (b, s)) := by
  induction later with
  | nil => rfl
  | cons operation later ih =>
    rw [performAll, perform_closed session h, ih]
    rfl

theorem guarded_run_ok (code : SelectiveAttentionErrorCode) {c : Call σ ψ α}
    {b : SelectiveAttentionBridge} {s s' : σ} {a : α} (h : c s = (.ok a, s')) :
    guarded code c (b, s) = (.ok a, (b, s')) := by
  rw [guarded, h]

theorem guarded_run_error (code : SelectiveAttentionErrorCode) {c : Call σ ψ α}
    {b : SelectiveAttentionBridge} {s s' : σ} {e : ψ} (h : c s = (.error e, s')) :
    guarded code c (b, s) = (.error code, ({ b with failed := true }, s')) := by
  rw [guarded, h]

theorem ensureActive_active {b : SelectiveAttentionBridge} (h : Active b) (s : σ) :
    ensureActive (b, s) = (.ok ⟨⟩, (b, s)) :=
  if_neg (by simp [h.1, h.2])

theorem runLayer_active (session : SelectiveLayerSession σ τ ψ ρ) {b : SelectiveAttentionBridge}
    (h : Active b) (call : LayerCall σ τ ψ ο) (s : σ) :
    runLayer session call (b, s) = match checkLayer b.nextLayer call with
      | .error code => terminal code (b, s)
      | .ok given => applyLayer session call given.1 given.2 (b, s) :=
  Call.bind_run_ok _ (ensureActive_active h s)

theorem finish_active (session : SelectiveLayerSession σ τ ψ ρ) {b : SelectiveAttentionBridge}
    (h : Active b) (s : σ) :
    finish session (b, s) = if b.nextLayer ≠ gptOssNumLayers then terminal .incomplete (b, s)
      else (do
        let receipt ← guarded .updateFailed session.finish
        Call.modify (fun t => ({ t.1 with finished := true }, t.2))
        pure receipt : BridgeCall σ ρ) (b, s) :=
  Call.bind_run_ok _ (ensureActive_active h s)

theorem perform_attended (session : SelectiveLayerSession σ τ ψ ρ) {b : SelectiveAttentionBridge}
    (h : Active b) {s s₁ s' : σ} {call : LayerCall σ τ ψ ο} {sinks : τ}
    {attention : SelectiveAttentionCall σ τ ψ ο} {output : ο}
    (hc : checkLayer b.nextLayer call = .ok (sinks, attention))
    (hu : session.updateLayer call.layerIndex call.inputs s = (.ok ⟨⟩, s₁))
    (ha : attention (call.arguments sinks) s₁ = (.ok output, s')) :
    perform session (.runLayer call) (b, s) =
      (.ok (.output output), ({ b with nextLayer := b.nextLayer+1 }, s')) := by
  have hrun := runLayer_active session h call s
  rw [hc] at hrun
  have happly := hrun.trans (Call.bind_run_ok _ (guarded_run_ok _ hu))
  have hattend := happly.trans (Call.bind_run_ok _ (guarded_run_ok _ ha))
  exact Call.bind_run_ok _ hattend

theorem perform_finished (session : SelectiveLayerSession σ τ ψ ρ) {b : SelectiveAttentionBridge}
    (h : Active b) (hn : b.nextLayer = gptOssNumLayers) {s s' : σ} {receipt : ρ}
    (hf : session.finish s = (.ok receipt, s')) :
    perform session (.finish : BridgeOperation σ τ ψ ο) (b, s) =
      (.ok (.receipt receipt), ({ b with finished := true }, s')) := by
  have hfinish := finish_active session h s
  rw [if_neg (not_not.mpr hn)] at hfinish
  have hend := hfinish.trans (Call.bind_run_ok _ (guarded_run_ok _ hf))
  exact Call.bind_run_ok _ hend

theorem perform_does (session : SelectiveLayerSession σ τ ψ ρ) {b : SelectiveAttentionBridge}
    (h : Active b) (s : σ) (operation : BridgeOperation σ τ ψ ο) :
    Does session b s operation (perform session operation (b, s)).1
      (perform session operation (b, s)).2.1 (perform session operation (b, s)).2.2 := by
  cases operation with
  | runLayer call =>
    have hrun := runLayer_active session h call s
    cases hc : checkLayer b.nextLayer call with
    | error code =>
      rw [hc] at hrun
      rw [show perform session (.runLayer call) (b, s) = _ from Call.bind_run_error _ hrun]
      exact .refused _ code
    | ok given =>
      rw [hc] at hrun
      rcases hu : session.updateLayer call.layerIndex call.inputs s with ⟨e | ⟨⟩, s₁⟩
      · have happly := hrun.trans (Call.bind_run_error _ (guarded_run_error _ hu))
        rw [show perform session (.runLayer call) (b, s) = _ from Call.bind_run_error _ happly]
        exact .unwritten call given.1 given.2 e s₁ hc hu
      have happly := hrun.trans (Call.bind_run_ok _ (guarded_run_ok _ hu))
      rcases ha : given.2 (call.arguments given.1) s₁ with ⟨e | output, s'⟩
      · have hattend := happly.trans (Call.bind_run_error _ (guarded_run_error _ ha))
        rw [show perform session (.runLayer call) (b, s) = _ from Call.bind_run_error _ hattend]
        exact .unattended call given.1 given.2 e s₁ s' hc hu ha
      · rw [perform_attended session h hc hu ha]
        exact .attended call given.1 given.2 output s₁ s' hc hu ha
  | finish =>
    have hfinish := finish_active session h s
    by_cases hn : b.nextLayer = gptOssNumLayers
    · rw [if_neg (not_not.mpr hn)] at hfinish
      rcases hf : session.finish s with ⟨e | receipt, s'⟩
      · have hend := hfinish.trans (Call.bind_run_error _ (guarded_run_error _ hf))
        rw [show perform session .finish (b, s) = _ from Call.bind_run_error _ hend]
        exact .unfinished e s' hn hf
      · rw [perform_finished session h hn hf]
        exact .finished receipt s' hn hf
    · rw [if_pos hn] at hfinish
      rw [show perform session .finish (b, s) = _ from Call.bind_run_error _ hfinish]
      exact .refused _ .incomplete

theorem checkLayer_ok_iff (nextLayer : ℕ) (call : LayerCall σ τ ψ ο) (sinks : τ)
    (attention : SelectiveAttentionCall σ τ ψ ο) :
    checkLayer nextLayer call = .ok (sinks, attention) ↔
      nextLayer < gptOssNumLayers ∧ call.layerIndex = nextLayer ∧ call.sinks = some sinks ∧
        call.attention = some attention := by
  unfold checkLayer
  rw [require_then_iff, require_then_iff]
  constructor
  · rintro ⟨⟨_, hlt⟩, hn, h⟩
    split at h
    · cases h
    · cases h
    · next hs ha =>
      cases h
      exact ⟨by omega, hn, hs, ha⟩
  · rintro ⟨hlt, hn, hs, ha⟩
    refine ⟨by omega, hn, ?_⟩
    rw [hs, ha]

end

/-! ## The order of the invocations -/

/-- An invocation of the session or of the attention. -/
inductive Effect (τ : Type) where
  | update (layerIndex : ℤ) (inputs : LayerInputs τ)
  | attend (arguments : AttentionArguments τ)
  | finish

inductive Stage where
  | update (layerIndex : ℤ)
  | attend (layerIndex : ℤ)
  | finish
  deriving DecidableEq

def Effect.stage {τ : Type} : Effect τ → Stage
  | update layerIndex _ => .update layerIndex
  | attend arguments => .attend arguments.layerIndex
  | finish => .finish

def layerStages (layerIndex : ℕ) : List Stage := [.update layerIndex, .attend layerIndex]

def stagesTo (n : ℕ) : List Stage := (List.range n).flatMap layerStages

def schedule : List Stage := stagesTo gptOssNumLayers ++ [.finish]

section
variable {σ τ ψ ρ ο α : Type}

def logging (e : Effect τ) (c : Call σ ψ α) : Call (σ × List (Effect τ)) ψ α := fun t =>
  ((c t.1).1, ((c t.1).2, t.2 ++ [e]))

def SelectiveLayerSession.logged (session : SelectiveLayerSession σ τ ψ ρ) :
    SelectiveLayerSession (σ × List (Effect τ)) τ ψ ρ where
  updateLayer layerIndex inputs :=
    logging (.update layerIndex inputs) (session.updateLayer layerIndex inputs)
  finish := logging .finish session.finish

def loggedAttention (attention : SelectiveAttentionCall σ τ ψ ο) :
    SelectiveAttentionCall (σ × List (Effect τ)) τ ψ ο := fun arguments =>
  logging (.attend arguments) (attention arguments)

def LayerCall.logged (call : LayerCall σ τ ψ ο) : LayerCall (σ × List (Effect τ)) τ ψ ο where
  layerIndex := call.layerIndex
  query := call.query
  inputs := call.inputs
  attnMetadata := call.attnMetadata
  sinks := call.sinks
  attention := call.attention.map loggedAttention

def BridgeOperation.logged :
    BridgeOperation σ τ ψ ο → BridgeOperation (σ × List (Effect τ)) τ ψ ο
  | runLayer call => .runLayer call.logged
  | finish => .finish

def BridgeOperation.effects : BridgeOperation σ τ ψ ο → List (Effect τ)
  | runLayer call => call.sinks.toList.flatMap (fun sinks =>
      [.update call.layerIndex call.inputs, .attend (call.arguments sinks)])
  | finish => [.finish]

theorem stagesTo_succ (n : ℕ) : stagesTo (n+1) = stagesTo n ++ layerStages n := by
  unfold stagesTo
  rw [List.range_succ, List.flatMap_append, List.flatMap_singleton]

theorem stagesTo_grows {n m : ℕ} (h : n ≤ m) : stagesTo n <+: stagesTo m := by
  induction m, h using Nat.le_induction with
  | base => exact List.prefix_rfl
  | succ m _ ih =>
    rw [stagesTo_succ]
    exact ih.trans (List.prefix_append _ _)

theorem stagesTo_schedule {n : ℕ} (h : n ≤ gptOssNumLayers) : stagesTo n <+: schedule :=
  (stagesTo_grows h).trans (List.prefix_append _ _)

theorem update_schedule {n : ℕ} (h : n < gptOssNumLayers) :
    stagesTo n ++ [.update n] <+: schedule := by
  have hlayer : stagesTo n ++ [.update n] <+: stagesTo (n+1) := by
    rw [stagesTo_succ]
    exact (List.prefix_append_right_inj _).mpr
      (List.prefix_append [Stage.update (n : ℤ)] [Stage.attend n])
  exact hlayer.trans (stagesTo_schedule h)

/-- The invocations written down follow the schedule and the calls. -/
structure Ordered (done : List (BridgeOperation σ τ ψ ο)) (b : SelectiveAttentionBridge)
    (log : List (Effect τ)) : Prop where
  staged : log.map Effect.stage <+: schedule
  ofCalls : log <+: done.flatMap BridgeOperation.effects
  active : Active b → b.nextLayer ≤ gptOssNumLayers ∧
    log = done.flatMap BridgeOperation.effects ∧ log.map Effect.stage = stagesTo b.nextLayer
  finished : b.finished = true → log.map Effect.stage = schedule

theorem ordered_new : Ordered ([] : List (BridgeOperation σ τ ψ ο)) .new [] where
  staged := List.nil_prefix
  ofCalls := List.nil_prefix
  active _ := ⟨Nat.zero_le _, rfl, rfl⟩
  finished h := by cases h

variable {done : List (BridgeOperation σ τ ψ ο)} {b : SelectiveAttentionBridge}
  {log : List (Effect τ)}

theorem effects_concat (done : List (BridgeOperation σ τ ψ ο))
    (operation : BridgeOperation σ τ ψ ο) :
    (done ++ [operation]).flatMap BridgeOperation.effects =
      done.flatMap BridgeOperation.effects ++ operation.effects := by
  rw [List.flatMap_append, List.flatMap_singleton]

theorem Ordered.closed (h : Ordered done b log) (hc : Closed b)
    (operation : BridgeOperation σ τ ψ ο) : Ordered (done ++ [operation]) b log where
  staged := h.staged
  ofCalls := by
    rw [effects_concat]
    exact h.ofCalls.trans (List.prefix_append _ _)
  active ha := absurd ha (not_active hc)
  finished := h.finished

theorem Ordered.fails (h : Ordered done b log) (ha : Active b)
    (operation : BridgeOperation σ τ ψ ο) (more : List (Effect τ)) (hm : more <+: operation.effects)
    (hs : (log ++ more).map Effect.stage <+: schedule) :
    Ordered (done ++ [operation]) { b with failed := true } (log ++ more) where
  staged := hs
  ofCalls := by
    rw [effects_concat, ← (h.active ha).2.1]
    exact (List.prefix_append_right_inj _).mpr hm
  active ha' := absurd ha'.1 (by simp)
  finished hf := absurd (ha.2.symm.trans hf) (by simp)

theorem LayerCall.effects_eq {call : LayerCall σ τ ψ ο} {sinks : τ} (h : call.sinks = some sinks) :
    (BridgeOperation.runLayer call).effects =
      [.update call.layerIndex call.inputs, .attend (call.arguments sinks)] := by
  rw [BridgeOperation.effects, h]
  rfl

theorem layer_invoked (session : SelectiveLayerSession σ τ ψ ρ) {n : ℕ}
    {call : LayerCall σ τ ψ ο} {sinks : τ}
    {attention : SelectiveAttentionCall (σ × List (Effect τ)) τ ψ ο} (s : σ)
    (hc : checkLayer n call.logged = .ok (sinks, attention)) :
    n < gptOssNumLayers ∧
    (BridgeOperation.runLayer call).effects =
      [.update n call.inputs, .attend (call.arguments sinks)] ∧
    (call.arguments sinks).layerIndex = n ∧
    (∀ log x t, session.logged.updateLayer call.logged.layerIndex call.logged.inputs (s, log) =
      (x, t) → t.2 = log ++ [.update n call.inputs]) ∧
    ∀ t x t', attention (call.logged.arguments sinks) t = (x, t') →
      t'.2 = t.2 ++ [.attend (call.arguments sinks)] := by
  have ⟨hlt, hindex, hsinks, hattention⟩ := (checkLayer_ok_iff _ _ _ _).mp hc
  change call.layerIndex = n at hindex
  refine ⟨hlt, ?_, hindex, fun log x t hu => ?_, fun t x t' ha => ?_⟩
  · rw [LayerCall.effects_eq (show call.sinks = some sinks from hsinks), hindex]
  · rw [← hindex]
    exact (congrArg (fun y => y.2.2) hu).symm
  · rcases Option.map_eq_some_iff.mp hattention with ⟨given, _, rfl⟩
    exact (congrArg (fun y => y.2.2) ha).symm

theorem layer_staged {n : ℕ} (inputs : LayerInputs τ) {arguments : AttentionArguments τ}
    (hs : log.map Effect.stage = stagesTo n) (hi : arguments.layerIndex = n) :
    (log ++ [Effect.update n inputs, Effect.attend arguments]).map Effect.stage =
      stagesTo (n+1) := by
  rw [List.map_append, hs, stagesTo_succ]
  exact congrArg (fun i => stagesTo n ++ [Stage.update n, Stage.attend i]) hi

theorem ordered_step (session : SelectiveLayerSession σ τ ψ ρ) (h : Ordered done b log) (s : σ)
    (operation : BridgeOperation σ τ ψ ο) :
    Ordered (done ++ [operation]) (perform session.logged operation.logged (b, (s, log))).2.1
      (perform session.logged operation.logged (b, (s, log))).2.2.2 := by
  rcases closed_or_active b with hc | ha
  · rw [perform_closed session.logged hc]
    exact h.closed hc operation
  have ⟨hle, hlog, hstages⟩ := h.active ha
  have hd := perform_does session.logged ha (s, log) operation.logged
  generalize perform session.logged operation.logged (b, (s, log)) = result at hd
  rcases result with ⟨r, b', s', log'⟩
  dsimp only at hd ⊢
  have hrefused : Ordered (done ++ [operation]) { b with failed := true } log := by
    have hf := h.fails ha operation [] List.nil_prefix (by rw [List.append_nil]; exact h.staged)
    rwa [List.append_nil] at hf
  cases operation with
  | runLayer call =>
    rw [BridgeOperation.logged] at hd
    cases hd with
    | refused _ code => exact hrefused
    | unwritten _ sinks attention e _ hc hu =>
      have ⟨hlt, heffects, _, hupdate, _⟩ := layer_invoked session s hc
      have hadded : log' = log ++ [.update b.nextLayer call.inputs] := hupdate log _ _ hu
      subst hadded
      apply h.fails ha
      · rw [heffects]
        exact List.prefix_append [_] [_]
      · rw [List.map_append, hstages]
        exact update_schedule hlt
    | unattended _ sinks attention e s₁ _ hc hu hattend =>
      have ⟨hlt, heffects, hindex, hupdate, hattended⟩ := layer_invoked session s hc
      have hadded : log' = s₁.2 ++ [.attend (call.arguments sinks)] := hattended _ _ _ hattend
      subst hadded
      rw [hupdate log _ _ hu, List.append_assoc]
      apply h.fails ha
      · rw [heffects]
        exact List.prefix_rfl
      · rw [List.singleton_append, layer_staged call.inputs hstages hindex]
        exact stagesTo_schedule hlt
    | attended _ sinks attention output s₁ _ hc hu hattend =>
      have ⟨hlt, heffects, hindex, hupdate, hattended⟩ := layer_invoked session s hc
      have hadded : log' = s₁.2 ++ [.attend (call.arguments sinks)] := hattended _ _ _ hattend
      subst hadded
      have hall : s₁.2 ++ [Effect.attend (call.arguments sinks)] =
          (done ++ [BridgeOperation.runLayer call]).flatMap BridgeOperation.effects := by
        rw [effects_concat, heffects, hupdate log _ _ hu, hlog, List.append_assoc]
        rfl
      have hnow : (s₁.2 ++ [Effect.attend (call.arguments sinks)]).map Effect.stage =
          stagesTo (b.nextLayer+1) := by
        rw [hupdate log _ _ hu, List.append_assoc]
        exact layer_staged call.inputs hstages hindex
      refine ⟨hnow ▸ stagesTo_schedule hlt, hall ▸ List.prefix_rfl, fun _ => ⟨hlt, hall, hnow⟩, ?_⟩
      intro hfinished
      exact absurd (ha.2.symm.trans hfinished) (by simp)
  | finish =>
    rw [BridgeOperation.logged] at hd
    have hlast (hn : b.nextLayer = gptOssNumLayers) :
        (log ++ [Effect.finish]).map Effect.stage = schedule := by
      rw [List.map_append, hstages, hn]
      rfl
    cases hd with
    | refused _ code => exact hrefused
    | unfinished e _ hn hf =>
      have hadded : log ++ [Effect.finish] = log' := congrArg (fun y => y.2.2) hf
      subst hadded
      exact h.fails ha .finish [.finish] List.prefix_rfl (hlast hn ▸ List.prefix_rfl)
    | finished receipt _ hn hf =>
      have hadded : log ++ [Effect.finish] = log' := congrArg (fun y => y.2.2) hf
      subst hadded
      refine ⟨hlast hn ▸ List.prefix_rfl, ?_, fun hactive => ?_, fun _ => hlast hn⟩
      · rw [effects_concat, hlog]
        exact List.prefix_rfl
      · cases hactive.2

theorem ordered_run (session : SelectiveLayerSession σ τ ψ ρ)
    (operations : List (BridgeOperation σ τ ψ ο)) (h : Ordered done b log) (s : σ) :
    Ordered (done ++ operations)
      (performAll session.logged (operations.map BridgeOperation.logged) (b, (s, log))).2.1
      (performAll session.logged (operations.map BridgeOperation.logged) (b, (s, log))).2.2.2 := by
  induction operations generalizing done b log s with
  | nil =>
    rw [List.append_nil]
    exact h
  | cons operation later ih =>
    rw [List.append_cons]
    exact ih (ordered_step session h s operation) _

/-! ### Writing down changes nothing else -/

/-- The first call acts as the second and may add to what is written down. -/
def Erases (c' : BridgeCall (σ × List (Effect τ)) α) (c : BridgeCall σ α) : Prop :=
  ∀ b s log, ∃ log', c' (b, (s, log)) = ((c (b, s)).1, ((c (b, s)).2.1, ((c (b, s)).2.2, log')))

theorem erases_bind {β : Type} {c' : BridgeCall (σ × List (Effect τ)) α} {c : BridgeCall σ α}
    {f' : α → BridgeCall (σ × List (Effect τ)) β} {f : α → BridgeCall σ β} (hc : Erases c' c)
    (hf : ∀ a, Erases (f' a) (f a)) : Erases (c' >>= f') (c >>= f) := by
  intro b s log
  rcases hc b s log with ⟨log₁, hlog⟩
  rcases h : c (b, s) with ⟨code | a, b', s'⟩
  · rw [h] at hlog
    rw [Call.bind_run_error _ hlog, Call.bind_run_error _ h]
    exact ⟨log₁, rfl⟩
  · rw [h] at hlog
    rw [Call.bind_run_ok _ hlog, Call.bind_run_ok _ h]
    exact hf a b' s' log₁

theorem erases_pure (a : α) :
    Erases (pure a : BridgeCall (σ × List (Effect τ)) α) (pure a : BridgeCall σ α) :=
  fun _ _ log => ⟨log, rfl⟩

theorem erases_ensureActive :
    Erases (ensureActive : BridgeCall (σ × List (Effect τ)) PUnit)
      (ensureActive : BridgeCall σ PUnit) := by
  intro b s log
  rcases closed_or_active b with hc | ha
  · exact ⟨log, (if_pos hc).trans (by rw [show ensureActive (b, s) = _ from if_pos hc])⟩
  · exact ⟨log, by rw [ensureActive_active ha, ensureActive_active ha]⟩

theorem erases_guarded (code : SelectiveAttentionErrorCode) (e : Effect τ) (c : Call σ ψ α) :
    Erases (guarded code (logging e c)) (guarded code c) := by
  intro b s log
  rcases h : c s with ⟨x | a, s'⟩
  · have hl : logging e c (s, log) = (.error x, (s', log ++ [e])) := by rw [logging, h]
    exact ⟨log ++ [e], by rw [guarded_run_error code hl, guarded_run_error code h]⟩
  · have hl : logging e c (s, log) = (.ok a, (s', log ++ [e])) := by rw [logging, h]
    exact ⟨log ++ [e], by rw [guarded_run_ok code hl, guarded_run_ok code h]⟩

theorem checkLayer_logged (n : ℕ) (call : LayerCall σ τ ψ ο) :
    checkLayer n call.logged =
      (checkLayer n call).map (fun given => (given.1, loggedAttention given.2)) := by
  rcases call with ⟨layerIndex, query, inputs, attnMetadata, sinks, attention⟩
  dsimp only [checkLayer, LayerCall.logged]
  by_cases hrange : 0 ≤ layerIndex ∧ layerIndex < gptOssNumLayers
  · rw [require_of _ hrange]
    by_cases hn : layerIndex = n
    · rw [require_of _ hn]
      cases sinks <;> cases attention <;> rfl
    · rw [require_not _ hn]
      rfl
  · rw [require_not _ hrange]
    rfl

theorem erases_perform (session : SelectiveLayerSession σ τ ψ ρ)
    (operation : BridgeOperation σ τ ψ ο) :
    Erases (perform session.logged operation.logged) (perform session operation) := by
  cases operation with
  | runLayer call =>
    refine erases_bind (erases_bind erases_ensureActive fun _ => ?_) (fun _ => erases_pure _)
    intro b s log
    dsimp only
    rw [checkLayer_logged]
    cases checkLayer b.nextLayer call with
    | error code => exact ⟨log, rfl⟩
    | ok given =>
      refine erases_bind (erases_guarded _ _ _) (fun _ => ?_) b s log
      refine erases_bind (erases_guarded _ _ _) (fun output => ?_)
      exact erases_bind (fun b s log => ⟨log, rfl⟩) (fun _ => erases_pure output)
  | finish =>
    refine erases_bind (erases_bind erases_ensureActive fun _ => ?_) (fun _ => erases_pure _)
    intro b s log
    dsimp only
    split
    · exact ⟨log, rfl⟩
    · refine erases_bind (erases_guarded _ _ _) (fun receipt => ?_) b s log
      exact erases_bind (fun b s log => ⟨log, rfl⟩) (fun _ => erases_pure receipt)

theorem performAll_logged (session : SelectiveLayerSession σ τ ψ ρ)
    (operations : List (BridgeOperation σ τ ψ ο)) (b : SelectiveAttentionBridge) (s : σ)
    (log : List (Effect τ)) :
    ∃ log', performAll session.logged (operations.map BridgeOperation.logged) (b, (s, log)) =
      ((performAll session operations (b, s)).1, ((performAll session operations (b, s)).2.1,
        ((performAll session operations (b, s)).2.2, log'))) := by
  induction operations generalizing b s log with
  | nil => exact ⟨log, rfl⟩
  | cons operation later ih =>
    rcases erases_perform session operation b s log with ⟨log₁, h⟩
    rcases ih (perform session operation (b, s)).2.1 (perform session operation (b, s)).2.2 log₁
      with ⟨log', hlater⟩
    exact ⟨log', performAll_cons h hlater⟩

/-! ### Whole runs -/

theorem performAll_append {session : SelectiveLayerSession σ τ ψ ρ}
    {operations later : List (BridgeOperation σ τ ψ ο)} {t t₁ t' : SelectiveAttentionBridge × σ}
    {results rest : List (Except SelectiveAttentionErrorCode (Returned ο ρ))}
    (h : performAll session operations t = (results, t₁))
    (hl : performAll session later t₁ = (rest, t')) :
    performAll session (operations ++ later) t = (results ++ rest, t') := by
  induction operations generalizing t results with
  | nil =>
    cases h
    exact hl
  | cons operation operations ih =>
    cases h
    exact performAll_cons rfl (ih rfl)

theorem perform_closes (session : SelectiveLayerSession σ τ ψ ρ) (b : SelectiveAttentionBridge)
    (s : σ) (operation : BridgeOperation σ τ ψ ο)
    (h : (∃ code, (perform session operation (b, s)).1 = .error code) ∨ operation = .finish) :
    Closed (perform session operation (b, s)).2.1 := by
  rcases closed_or_active b with hc | ha
  · rw [perform_closed session hc]
    exact hc
  have hd := perform_does session ha s operation
  generalize perform session operation (b, s) = result at hd h
  rcases result with ⟨r, b', s'⟩
  dsimp only at hd h ⊢
  cases hd with
  | attended call sinks attention output s₁ _ hc hu hattend =>
    rcases h with ⟨code, h⟩ | h <;> cases h
  | finished receipt _ hn hf => exact Or.inr rfl
  | refused | unwritten | unattended | unfinished => exact Or.inl rfl

theorem receipt_finishes (session : SelectiveLayerSession σ τ ψ ρ)
    (operations : List (BridgeOperation σ τ ψ ο)) (b : SelectiveAttentionBridge) (s : σ)
    (receipt : ρ) (h : .ok (.receipt receipt) ∈ (performAll session operations (b, s)).1) :
    (performAll session operations (b, s)).2.1.finished = true := by
  induction operations generalizing b s with
  | nil => cases h
  | cons operation later ih =>
    rw [performAll] at h ⊢
    rcases List.mem_cons.mp h with hr | hlater
    · rcases closed_or_active b with hc | ha
      · rw [perform_closed session hc] at hr
        cases hr
      have hd := perform_does session ha s operation
      generalize perform session operation (b, s) = result at hd hr
      rcases result with ⟨r, b', s'⟩
      dsimp only at hd hr ⊢
      subst hr
      cases hd with
      | finished _ _ hn hf => rw [performAll_closed session (Or.inr rfl)]
    · exact ih _ _ hlater

/-- For every session, attention and list of calls: the invocations form the
first part of one schedule, with the arguments of the calls in their order; a
receipt is returned when the schedule is complete only; and after a failure or
an end every call raises and invokes nothing. -/
theorem bridge_order (session : SelectiveLayerSession σ τ ψ ρ)
    (operations : List (BridgeOperation σ τ ψ ο)) (s : σ) :
    ∃ results b s' log, performAll session operations (.new, s) = (results, (b, s')) ∧
      performAll session.logged (operations.map BridgeOperation.logged) (.new, (s, [])) =
        (results, (b, (s', log))) ∧
      log.map Effect.stage <+: schedule ∧
      log <+: operations.flatMap BridgeOperation.effects ∧
      ((∃ receipt, .ok (.receipt receipt) ∈ results) → log.map Effect.stage = schedule) ∧
      ∀ t (operation : BridgeOperation σ τ ψ ο) (later : List (BridgeOperation σ τ ψ ο)),
        (∃ code, (perform session operation t).1 = .error code) ∨ operation = .finish →
        performAll session later (perform session operation t).2 =
          (later.map (fun _ => .error .invalidSession), (perform session operation t).2) := by
  rcases performAll_logged session operations .new s [] with ⟨log, hlog⟩
  have ho := ordered_run session operations ordered_new s
  rw [hlog, List.nil_append] at ho
  refine ⟨_, _, _, log, rfl, hlog, ho.staged, ho.ofCalls, ?_, ?_⟩
  · rintro ⟨receipt, h⟩
    exact ho.finished (receipt_finishes session operations .new s receipt h)
  · rintro t operation later h
    exact performAll_closed session (perform_closes session t.1 t.2 operation h) _ later

end

end CacheBlend.SelectiveAttention
