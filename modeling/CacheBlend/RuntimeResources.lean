import CacheBlend.CorrectnessModels
import CacheBlend.StoreReceipts
import CacheBlend.WorkerClose

/-!
# Runtime resources

A scheduler and a worker each create a sidecar and a transport with what owns
it. A creation that raises asks each thing it has made to close, and an owner
that could not be closed can be closed again.
-/

set_option autoImplicit false

namespace CacheBlend.RuntimeResources
open CacheBlend.StoreReceipts (pinnedTarget)
open CacheBlend.CorrectnessModels (pinnedGpuName)

inductive RuntimeResourceErrorCode where
  | invalidConfig
  | invalidDevice
  | schedulerCreateFailed
  | workerCreateFailed
  | closeFailed
  deriving DecidableEq

structure CudaRuntimeIdentity where
  deviceIndex : ℕ
  torchVersion : String
  cudaRuntime : String
  gpuName : String
  computeCapability : String
  deriving DecidableEq

/-- `_require_pinned_cuda_runtime`. -/
def requirePinnedCudaRuntime (deviceIndex : ℕ) (identity : CudaRuntimeIdentity) :
    Except RuntimeResourceErrorCode PUnit.{1} :=
  require (identity.deviceIndex = deviceIndex ∧
    identity.torchVersion = pinnedTarget.torchVersion ∧
    identity.cudaRuntime = pinnedTarget.cudaRuntime ∧
    identity.gpuName = pinnedGpuName ∧ identity.computeCapability = "8.0") .invalidDevice

/-! ## Creations -/

inductive Resource where
  | sidecar
  | transport
  | runtime
  | bridge
  deriving DecidableEq

inductive Event where
  | made (resource : Resource)
  /-- A close, and whether it returned. -/
  | asked (resource : Resource) (returned : Bool)
  deriving DecidableEq

def Resource.closes : Resource → Resource → Bool
  | .runtime, r => r = .runtime ∨ r = .transport
  | .bridge, r => r = .bridge ∨ r = .transport
  | r, r' => r = r'

def Event.releases (r : Resource) : Event → Bool
  | .made _ => false
  | .asked r' _ => r'.closes r

def Event.makes : Event → Option Resource
  | .made r => some r
  | .asked _ _ => none

def Event.asks (r : Resource) : Event → Bool
  | .made _ => false
  | .asked r' _ => r' = r

inductive Role where
  | scheduler
  | worker
  deriving DecidableEq

def Role.holder : Role → Resource
  | .scheduler => .runtime
  | .worker => .bridge

def Role.resources (role : Role) : List Resource := [.sidecar, .transport, role.holder]

/-- A call of a factory or a constructor, with what it makes and whether it returns. -/
structure FactoryCall where
  makes : Option Resource
  returns : Bool

/-- The calls of a creation up to the first that raises, with what they have made. -/
def perform : List FactoryCall → Bool × List Resource
  | [] => (true, [])
  | c::calls =>
    if c.returns = true then ((perform calls).1, c.makes.toList ++ (perform calls).2)
    else (false, [])

/-- Whether the closes of an owner's two members return. -/
structure CloseAnswers where
  holder : Bool
  sidecar : Bool
  deriving DecidableEq

inductive ResourceFault where
  | failed (code : RuntimeResourceErrorCode)
  /-- The exception of the transport configuration. -/
  | configuration
  deriving DecidableEq

/-- One creation, with the owner that it has handed out when it did not raise. -/
structure Creation where
  role : Role
  fault : Option ResourceFault
  closed : Bool
  events : List Event
  deriving DecidableEq

def create (role : Role) (code : RuntimeResourceErrorCode) (calls : List FactoryCall)
    (cleanup : List Resource → List Event) : Creation :=
  let built := perform calls
  if built.1 = true then ⟨role, none, false, built.2.map .made⟩
  else ⟨role, some (.failed code), false, built.2.map .made ++ cleanup built.2⟩

def askIf (made : List Resource) (r : Resource) (returned : Bool) : List Event :=
  if r ∈ made then [.asked r returned] else []

structure SchedulerFactories where
  transportConfig : Bool
  sidecar : Bool
  transport : Bool
  coordinator : Bool
  runtime : Bool
  closes : CloseAnswers

def SchedulerFactories.calls (f : SchedulerFactories) : List FactoryCall :=
  [⟨some .sidecar, f.sidecar⟩, ⟨some .transport, f.transport⟩, ⟨none, f.coordinator⟩,
    ⟨some .runtime, f.runtime⟩]

/-- `create_scheduler_runtime_resources`. -/
def createSchedulerRuntimeResources (f : SchedulerFactories) : Creation :=
  if f.transportConfig = true then
    create .scheduler .schedulerCreateFailed f.calls fun made =>
      askIf made .transport f.closes.holder ++ askIf made .sidecar f.closes.sidecar
  else ⟨.scheduler, some .configuration, false, []⟩

structure WorkerFactories where
  /-- The index of a device that the staging configuration accepts. -/
  device : Option ℕ
  /-- An exception that is not a resource error counts as `invalidDevice`. -/
  cudaRuntime : Except RuntimeResourceErrorCode CudaRuntimeIdentity
  transportConfig : Bool
  sidecar : Bool
  transport : Bool
  stagingBackend : Bool
  tensorOps : Bool
  keyCorrector : Bool
  /-- Present when there is an evidence path. -/
  tensorBytesReader : Option Bool
  bridge : Bool
  opens : Bool
  transferRuntime : Bool
  closes : CloseAnswers

def WorkerFactories.checkDevice (f : WorkerFactories) :
    Except RuntimeResourceErrorCode PUnit.{1} := do
  let index ← f.device.elim (.error .invalidDevice) .ok
  let identity ← f.cudaRuntime
  requirePinnedCudaRuntime index identity

def WorkerFactories.calls (f : WorkerFactories) : List FactoryCall :=
  [⟨none, f.transportConfig⟩, ⟨some .sidecar, f.sidecar⟩, ⟨some .transport, f.transport⟩,
    ⟨none, f.stagingBackend⟩, ⟨none, f.tensorOps⟩, ⟨none, f.keyCorrector⟩,
    ⟨none, f.tensorBytesReader.getD true⟩, ⟨some .bridge, f.bridge⟩, ⟨none, f.opens⟩,
    ⟨none, f.transferRuntime⟩]

/-- `create_worker_runtime_resources`. A bridge that was made closes the transport. -/
def createWorkerRuntimeResources (f : WorkerFactories) : Creation :=
  match f.checkDevice with
  | .error code => ⟨.worker, some (.failed code), false, []⟩
  | .ok _ =>
    create .worker .workerCreateFailed f.calls fun made =>
      (if .bridge ∈ made then [.asked .bridge f.closes.holder]
        else askIf made .transport f.closes.holder) ++ askIf made .sidecar f.closes.sidecar

/-! ## Owners -/

def Role.attempt (role : Role) (a : CloseAnswers) : List Event :=
  [.asked role.holder a.holder, .asked .sidecar a.sidecar]

def CloseAnswers.both (a : CloseAnswers) : Bool := a.holder && a.sidecar

/-- `close` of the two owners. The second member is asked also when the first raises. -/
def Creation.close (c : Creation) (a : CloseAnswers) :
    Except RuntimeResourceErrorCode PUnit.{1} × Creation :=
  if c.closed = true then (.ok ⟨⟩, c)
  else (if a.both = true then .ok ⟨⟩ else .error .closeFailed,
    { c with closed := a.both, events := c.events ++ c.role.attempt a })

inductive Action where
  | createScheduler (f : SchedulerFactories)
  | createWorker (f : WorkerFactories)
  /-- A close of the owner that a creation has handed out, if it has. -/
  | close (index : ℕ) (a : CloseAnswers)

def Creation.closeOwner (a : CloseAnswers) (c : Creation) : Creation :=
  if c.fault = none then (c.close a).2 else c

def step (w : List Creation) : Action → List Creation
  | .createScheduler f => w ++ [createSchedulerRuntimeResources f]
  | .createWorker f => w ++ [createWorkerRuntimeResources f]
  | .close index a => w.modify index (Creation.closeOwner a)

def run (actions : List Action) : List Creation := actions.foldl step []

/-! ## What a creation leaves -/

theorem perform_made (calls : List FactoryCall) :
    (perform calls).2 <+: calls.filterMap FactoryCall.makes ∧
      ((perform calls).1 = true → (perform calls).2 = calls.filterMap FactoryCall.makes) := by
  induction calls with
  | nil => exact ⟨List.prefix_refl _, fun _ => rfl⟩
  | cons c calls ih =>
    have hmakes : (c::calls).filterMap FactoryCall.makes =
        c.makes.toList ++ calls.filterMap FactoryCall.makes := by
      rw [List.filterMap_cons]
      cases c.makes <;> rfl
    rw [hmakes]
    unfold perform
    by_cases hc : c.returns = true
    · rw [if_pos hc]
      exact ⟨(List.prefix_append_right_inj _).mpr ih.1, fun h => congrArg _ (ih.2 h)⟩
    · rw [if_neg hc]
      exact ⟨List.nil_prefix, fun h => absurd h Bool.false_ne_true⟩

theorem perform_returns_iff (calls : List FactoryCall) :
    (perform calls).1 = true ↔ ∀ c ∈ calls, c.returns = true := by
  induction calls with
  | nil => exact ⟨fun _ _ h => absurd h List.not_mem_nil, fun _ => rfl⟩
  | cons c calls ih =>
    rw [List.forall_mem_cons]
    unfold perform
    by_cases hc : c.returns = true
    · rw [if_pos hc]
      exact ⟨fun h => ⟨hc, ih.mp h⟩, fun h => ih.mpr h.2⟩
    · rw [if_neg hc]
      exact ⟨fun h => absurd h Bool.false_ne_true, fun h => absurd h.1 hc⟩

theorem create_returns_iff (role : Role) (code : RuntimeResourceErrorCode)
    (calls : List FactoryCall) (cleanup : List Resource → List Event) :
    (create role code calls cleanup).fault = none ↔ ∀ c ∈ calls, c.returns = true := by
  rw [← perform_returns_iff]
  unfold create
  by_cases hb : (perform calls).1 = true
  · dsimp only
    rw [if_pos hb]
    exact ⟨fun _ => hb, fun _ => rfl⟩
  · dsimp only
    rw [if_neg hb]
    exact ⟨fun h => absurd h (Option.some_ne_none _), fun h => absurd h hb⟩

theorem scheduler_returns_iff (f : SchedulerFactories) :
    (createSchedulerRuntimeResources f).fault = none ↔
      f.transportConfig = true ∧ ∀ c ∈ f.calls, c.returns = true := by
  unfold createSchedulerRuntimeResources
  by_cases hc : f.transportConfig = true
  · rw [if_pos hc, create_returns_iff]
    exact ⟨fun h => ⟨hc, h⟩, fun h => h.2⟩
  · rw [if_neg hc]
    exact ⟨fun h => absurd h (Option.some_ne_none _), fun h => absurd h.1 hc⟩

theorem worker_returns_iff (f : WorkerFactories) :
    (createWorkerRuntimeResources f).fault = none ↔
      f.checkDevice = .ok ⟨⟩ ∧ ∀ c ∈ f.calls, c.returns = true := by
  unfold createWorkerRuntimeResources
  cases hd : f.checkDevice with
  | error code =>
    exact ⟨fun h => absurd h (Option.some_ne_none _), fun h => by cases h.1⟩
  | ok u =>
    dsimp only
    rw [create_returns_iff]
    exact ⟨fun h => ⟨rfl, h⟩, fun h => h.2⟩

theorem worker_pinned {f : WorkerFactories} (h : (createWorkerRuntimeResources f).events ≠ []) :
    ∃ index, f.device = some index ∧ f.cudaRuntime =
      .ok ⟨index, pinnedTarget.torchVersion, pinnedTarget.cudaRuntime, pinnedGpuName, "8.0"⟩ := by
  unfold createWorkerRuntimeResources at h
  cases hd : f.checkDevice with
  | error code =>
    rw [hd] at h
    exact absurd rfl h
  | ok u =>
    unfold WorkerFactories.checkDevice at hd
    rcases (checked_ok_iff _ _ _).mp hd with ⟨index, hindex, hd⟩
    rcases (checked_ok_iff _ _ _).mp hd with ⟨identity, hidentity, hd⟩
    unfold requirePinnedCudaRuntime at hd
    rcases (require_ok_iff _ _ _).mp hd with ⟨h₁, h₂, h₃, h₄, h₅⟩
    refine ⟨index, ?_, ?_⟩
    · cases hf : f.device with
      | none =>
        rw [hf] at hindex
        cases hindex
      | some i =>
        rw [hf] at hindex
        cases hindex
        rfl
    · rcases identity with ⟨_, _, _, _, _⟩
      subst h₁ h₂ h₃ h₄ h₅
      exact hidentity

theorem perform_stopped (calls : List FactoryCall) (c : FactoryCall)
    (h : (perform (calls ++ [c])).1 = false) :
    (perform (calls ++ [c])).2 = (perform calls).2 := by
  induction calls with
  | nil =>
    rw [List.nil_append] at h ⊢
    unfold perform at h ⊢
    by_cases hc : c.returns = true
    · rw [if_pos hc] at h
      cases h
    · rw [if_neg hc]
  | cons d calls ih =>
    rw [List.cons_append] at h ⊢
    unfold perform at h ⊢
    by_cases hd : d.returns = true
    · rw [if_pos hd] at h
      rw [if_pos hd, if_pos hd]
      exact congrArg (d.makes.toList ++ ·) (ih h)
    · rw [if_neg hd, if_neg hd]

/-- Nothing is made any more, and each thing made is asked to close exactly once. -/
def Cleaned (made : List Resource) (asks : List Event) : Prop :=
  (∀ e ∈ asks, e.makes = none) ∧ ∀ r ∈ made, asks.countP (Event.releases r) = 1

instance (made : List Resource) (asks : List Event) : Decidable (Cleaned made asks) :=
  inferInstanceAs (Decidable (_ ∧ _))

theorem prefix_cases {x y z : Resource} {made : List Resource} (h : made <+: [x, y, z]) :
    made = [] ∨ made = [x] ∨ made = [x, y] ∨ made = [x, y, z] := by
  have hinits := (List.mem_inits _ _).mpr h
  simpa using hinits

theorem scheduler_cleaned (a : CloseAnswers) {made : List Resource}
    (h : made <+: [.sidecar, .transport]) : Cleaned made
      (askIf made .transport a.holder ++ askIf made .sidecar a.sidecar) := by
  rcases a with ⟨_ | _, _ | _⟩ <;>
    rcases prefix_cases (h.trans (List.prefix_append _ [.runtime])) with rfl | rfl | rfl | rfl <;>
    revert h <;> decide

theorem worker_cleaned (a : CloseAnswers) {made : List Resource}
    (h : made <+: Role.worker.resources) : Cleaned made
      ((if .bridge ∈ made then [.asked .bridge a.holder] else askIf made .transport a.holder) ++
        askIf made .sidecar a.sidecar) := by
  rcases a with ⟨_ | _, _ | _⟩ <;>
    rcases prefix_cases h with rfl | rfl | rfl | rfl <;> decide

/-! ## The life of an owner -/

def Role.life (role : Role) (attempts : List CloseAnswers) : List Event :=
  role.resources.map .made ++ attempts.flatMap role.attempt

theorem life_concat (role : Role) (attempts : List CloseAnswers) (a : CloseAnswers) :
    role.life (attempts ++ [a]) = role.life attempts ++ role.attempt a := by
  simp [Role.life]

theorem made_makes (made : List Resource) :
    (made.map Event.made).filterMap Event.makes = made := by
  rw [List.filterMap_map]
  exact List.filterMap_some

theorem life_makes (role : Role) (attempts : List CloseAnswers) :
    (role.life attempts).filterMap Event.makes = role.resources := by
  have hasks : (attempts.flatMap role.attempt).filterMap Event.makes = [] := by
    apply List.filterMap_eq_nil_iff.mpr
    intro e he
    rcases List.mem_flatMap.mp he with ⟨a, _, ha⟩
    rcases List.mem_pair.mp ha with rfl | rfl <;> rfl
  rw [Role.life, List.filterMap_append, made_makes, hasks, List.append_nil]

theorem life_asks {role : Role} {r : Resource} (hr : r = role.holder ∨ r = .sidecar)
    (attempts : List CloseAnswers) :
    (role.life attempts).countP (Event.asks r) = attempts.length := by
  induction attempts using List.reverseRecOn with
  | nil => rcases hr with rfl | rfl <;> cases role <;> rfl
  | append_singleton attempts a ih =>
    have hattempt : (role.attempt a).countP (Event.asks r) = 1 := by
      rcases hr with rfl | rfl <;> cases role <;> rfl
    rw [life_concat, List.countP_append, ih, hattempt, List.length_append]
    rfl

theorem life_balanced (role : Role) (attempts : List CloseAnswers) :
    (role.life attempts).countP (Event.asks role.holder) =
      (role.life attempts).countP (Event.asks .sidecar) := by
  have hholder : (role.life attempts).countP (Event.asks role.holder) = attempts.length :=
    life_asks (Or.inl rfl) attempts
  have hsidecar : (role.life attempts).countP (Event.asks .sidecar) = attempts.length :=
    life_asks (Or.inr rfl) attempts
  exact hholder.trans hsidecar.symm

theorem life_unclosed {role : Role} {attempts : List CloseAnswers}
    (h : ∀ a ∈ attempts, a.both = false) :
    ¬role.attempt ⟨true, true⟩ <:+ role.life attempts := by
  intro hs
  rcases List.eq_nil_or_concat' attempts with rfl | ⟨init, a, rfl⟩
  · have hmem : Event.asked role.holder true ∈ role.life [] := hs.subset List.mem_cons_self
    cases role <;> revert hmem <;> decide
  · rw [life_concat] at hs
    rcases hs with ⟨before, hs⟩
    have hlast : role.attempt ⟨true, true⟩ = role.attempt a := List.append_inj_right' hs rfl
    have hboth := h a (List.mem_append_right _ List.mem_cons_self)
    simp only [Role.attempt, List.cons.injEq, Event.asked.injEq, true_and, and_true] at hlast
    rw [CloseAnswers.both, ← hlast.1, ← hlast.2] at hboth
    cases hboth

/-- What a creation has come to: it raised and was cleaned up, or its owner is
not closed by any attempt so far, or by the last. -/
inductive Accounted : Creation → Prop where
  | failed {role : Role} {fault : ResourceFault} {made : List Resource} {asks : List Event}
    (hm : made <+: role.resources) (hc : Cleaned made asks) :
    Accounted ⟨role, some fault, false, made.map .made ++ asks⟩
  | held {role : Role} {attempts : List CloseAnswers} (h : ∀ a ∈ attempts, a.both = false) :
    Accounted ⟨role, none, false, role.life attempts⟩
  | closed {role : Role} {attempts : List CloseAnswers} (h : ∀ a ∈ attempts, a.both = false) :
    Accounted ⟨role, none, true, role.life (attempts ++ [⟨true, true⟩])⟩

theorem create_accounted {role : Role} {code : RuntimeResourceErrorCode}
    {calls : List FactoryCall} {cleanup : List Resource → List Event}
    (hcalls : calls.filterMap FactoryCall.makes = role.resources)
    (hc : (perform calls).1 = false → Cleaned (perform calls).2 (cleanup (perform calls).2)) :
    Accounted (create role code calls cleanup) := by
  unfold create
  by_cases hb : (perform calls).1 = true
  · dsimp only
    rw [if_pos hb, (perform_made calls).2 hb, hcalls]
    have hheld : Accounted ⟨role, none, false, role.life []⟩ :=
      .held fun _ h => absurd h List.not_mem_nil
    exact hheld
  · dsimp only
    rw [if_neg hb]
    exact .failed (hcalls ▸ (perform_made calls).1) (hc (Bool.eq_false_of_not_eq_true hb))

theorem refused_accounted (role : Role) (fault : ResourceFault) :
    Accounted ⟨role, some fault, false, []⟩ := by
  have hcleaned : Cleaned [] [] :=
    ⟨fun _ h => absurd h List.not_mem_nil, fun _ h => absurd h List.not_mem_nil⟩
  exact .failed List.nil_prefix hcleaned

theorem scheduler_accounted (f : SchedulerFactories) :
    Accounted (createSchedulerRuntimeResources f) := by
  unfold createSchedulerRuntimeResources
  split_ifs
  · apply create_accounted rfl
    intro hb
    have hstopped := perform_stopped [⟨some .sidecar, f.sidecar⟩, ⟨some .transport, f.transport⟩,
      ⟨none, f.coordinator⟩] ⟨some .runtime, f.runtime⟩ hb
    exact scheduler_cleaned _ (hstopped ▸ (perform_made _).1)
  · exact refused_accounted _ _

theorem worker_accounted (f : WorkerFactories) : Accounted (createWorkerRuntimeResources f) := by
  unfold createWorkerRuntimeResources
  split
  · exact refused_accounted _ _
  · exact create_accounted rfl fun _ => worker_cleaned _ (perform_made f.calls).1

theorem closeOwner_accounted {c : Creation} (h : Accounted c) (a : CloseAnswers) :
    Accounted (c.closeOwner a) := by
  cases h with
  | failed hm hc => exact .failed hm hc
  | closed h => exact .closed h
  | @held role attempts h =>
    by_cases ha : a.both = true
    · have hanswers : a = ⟨true, true⟩ := by
        rcases a with ⟨_ | _, _ | _⟩ <;> first | rfl | cases ha
      subst hanswers
      have hclosed : Accounted ⟨role, none, true, role.life (attempts ++ [⟨true, true⟩])⟩ :=
        .closed h
      rw [life_concat] at hclosed
      exact hclosed
    · have hboth := Bool.eq_false_of_not_eq_true ha
      have hheld : Accounted ⟨role, none, false, role.life (attempts ++ [a])⟩ := by
        apply Accounted.held
        intro b hb
        rcases List.mem_append.mp hb with hb | hb
        · exact h b hb
        · rw [List.mem_singleton.mp hb]
          exact hboth
      rw [life_concat, ← hboth] at hheld
      exact hheld

/-! ## Runs -/

theorem step_accounted {w : List Creation} (h : ∀ c ∈ w, Accounted c) (action : Action) :
    ∀ c ∈ step w action, Accounted c := by
  intro c hc
  cases action with
  | createScheduler f =>
    rcases List.mem_append.mp hc with hc | hc
    · exact h c hc
    · rw [List.mem_singleton.mp hc]
      exact scheduler_accounted f
  | createWorker f =>
    rcases List.mem_append.mp hc with hc | hc
    · exact h c hc
    · rw [List.mem_singleton.mp hc]
      exact worker_accounted f
  | close index a =>
    rcases List.mem_iff_getElem?.mp hc with ⟨i, hi⟩
    rw [step, List.getElem?_modify] at hi
    rcases Option.map_eq_some_iff.mp hi with ⟨c', hc', rfl⟩
    have hmem := List.mem_of_getElem? hc'
    split_ifs
    · exact closeOwner_accounted (h c' hmem) a
    · exact h c' hmem

theorem run_accounted (actions : List Action) : ∀ c ∈ run actions, Accounted c := by
  induction actions using List.reverseRecOn with
  | nil => exact fun _ h => absurd h List.not_mem_nil
  | append_singleton actions action ih =>
    rw [run, List.foldl_append]
    exact step_accounted ih action

theorem closed_kept {w : List Creation} {index : ℕ} {c : Creation} (h : w[index]? = some c)
    (hc : c.closed = true) (action : Action) : (step w action)[index]? = some c := by
  have hlt : index < w.length := (List.getElem?_eq_some_iff.mp h).1
  cases action with
  | createScheduler f => rw [step, List.getElem?_append_left hlt, h]
  | createWorker f => rw [step, List.getElem?_append_left hlt, h]
  | close index' a =>
    have hsame : c.closeOwner a = c := by
      unfold Creation.closeOwner Creation.close
      rw [if_pos hc]
      split_ifs <;> rfl
    rw [step, List.getElem?_modify, h]
    show some (if index' = index then c.closeOwner a else c) = some c
    rw [hsame, ite_self]

theorem closed_forever {w : List Creation} {index : ℕ} {c : Creation} (actions : List Action)
    (h : w[index]? = some c) (hc : c.closed = true) :
    (actions.foldl step w)[index]? = some c := by
  induction actions generalizing w with
  | nil => exact h
  | cons action actions ih => exact ih (closed_kept h hc action)

theorem close_returns_iff (c : Creation) (a : CloseAnswers) :
    (c.close a).1 = .ok ⟨⟩ ↔ (c.close a).2.closed = true := by
  unfold Creation.close
  by_cases hc : c.closed = true
  · rw [if_pos hc]
    exact ⟨fun _ => hc, fun _ => rfl⟩
  · rw [if_neg hc]
    cases h : a.both with
    | true => exact ⟨fun _ => rfl, fun _ => rfl⟩
    | false =>
      constructor
      · intro h
        cases h
      · intro h
        cases h

theorem closeStaging_keeps (s : WorkerClose.WorkerRuntime) :
    s.closeStaging.2.resourcesClosed = s.resourcesClosed := by
  unfold WorkerClose.WorkerRuntime.closeStaging
  split
  · rfl
  · rfl
  · split_ifs
    · split <;> rfl
    · rfl

theorem closeBridge_keeps (s : WorkerClose.WorkerRuntime) :
    s.closeBridge.2.resourcesClosed = s.resourcesClosed := by
  have hsent : s.closeStaging.2.closeTransport.2.resourcesClosed = s.resourcesClosed := by
    rw [WorkerClose.WorkerRuntime.closeTransport_link]
    exact closeStaging_keeps s
  unfold WorkerClose.WorkerRuntime.closeBridge
  split_ifs
  · rfl
  · dsimp only
    split <;> exact hsent

/-- The close of a worker is the close of its owner, whose bridge answers as it does there. -/
theorem worker_close_agrees {c : Creation} {s : WorkerClose.WorkerRuntime}
    (h : c.closed = s.resourcesClosed) :
    (c.close ⟨s.closeBridge.1.isOk, true⟩).2.closed = s.closeResources.2.resourcesClosed := by
  unfold Creation.close WorkerClose.WorkerRuntime.closeResources
  by_cases hc : c.closed = true
  · have hs : s.resourcesClosed = true := h ▸ hc
    rw [if_pos hc, if_pos hs]
    exact h
  · have hs : ¬s.resourcesClosed = true := fun hs => hc (h.trans hs)
    rw [if_neg hc, if_neg hs]
    have hkept := closeBridge_keeps s
    rcases hb : s.closeBridge with ⟨_ | _, s'⟩
    · rw [hb] at hkept
      exact (Bool.eq_false_of_not_eq_true (h ▸ hc)).symm.trans hkept.symm
    · rfl

/-- A creation hands out an owner exactly when each of its calls returns, and a worker's only with
the pinned runtime. In any run, what a creation that raised has made is asked to close exactly
once, an owner has all its resources, each attempt asks both of its members, and it is closed
exactly when both have returned in the last attempt, which no later action repeats. -/
theorem resources_accounted (actions : List Action) :
    (∀ c ∈ run actions,
      c.events.filterMap Event.makes <+: c.role.resources ∧
      (c.fault = none → c.events.filterMap Event.makes = c.role.resources ∧
        c.events.countP (Event.asks c.role.holder) = c.events.countP (Event.asks .sidecar)) ∧
      (c.fault ≠ none → ∀ r ∈ c.events.filterMap Event.makes,
        c.events.countP (Event.releases r) = 1) ∧
      (c.closed = true ↔ c.fault = none ∧ c.role.attempt ⟨true, true⟩ <:+ c.events) ∧
      ∀ a, (c.close a).1 = .ok ⟨⟩ ↔ (c.close a).2.closed = true) ∧
    (∀ (more : List Action) (index : ℕ) (c : Creation), (run actions)[index]? = some c →
      c.closed = true → (run (actions ++ more))[index]? = some c) ∧
    (∀ f : SchedulerFactories, (createSchedulerRuntimeResources f).fault = none ↔
      f.transportConfig = true ∧ ∀ c ∈ f.calls, c.returns = true) ∧
    ∀ f : WorkerFactories, ((createWorkerRuntimeResources f).fault = none ↔
        f.checkDevice = .ok ⟨⟩ ∧ ∀ c ∈ f.calls, c.returns = true) ∧
      ((createWorkerRuntimeResources f).events ≠ [] → ∃ index, f.device = some index ∧
        f.cudaRuntime = .ok ⟨index, pinnedTarget.torchVersion, pinnedTarget.cudaRuntime,
          pinnedGpuName, "8.0"⟩) := by
  refine ⟨?_, ?_, scheduler_returns_iff, fun f => ⟨worker_returns_iff f, worker_pinned⟩⟩
  · intro c hc
    have hreturns := close_returns_iff c
    cases run_accounted actions c hc with
    | @failed role fault made asks hm hclean =>
      have hmakes : (made.map Event.made ++ asks).filterMap Event.makes = made := by
        rw [List.filterMap_append, made_makes, List.filterMap_eq_nil_iff.mpr hclean.1,
          List.append_nil]
      have hfault : some fault ≠ none := Option.some_ne_none fault
      refine ⟨hmakes.symm ▸ hm, fun h => absurd h hfault, fun _ r hr => ?_,
        ⟨fun h => absurd h Bool.false_ne_true, fun h => absurd h.1 hfault⟩, hreturns⟩
      have hmade : (made.map Event.made).countP (Event.releases r) = 0 := by
        rw [List.countP_map]
        exact List.countP_eq_zero.mpr fun _ _ => Bool.false_ne_true
      show (made.map Event.made ++ asks).countP (Event.releases r) = 1
      rw [List.countP_append, hmade, Nat.zero_add]
      exact hclean.2 r (hmakes ▸ hr)
    | @held role attempts h =>
      have hmakes := life_makes role attempts
      have hasks := life_balanced role attempts
      exact ⟨hmakes ▸ List.prefix_refl _, fun _ => ⟨hmakes, hasks⟩, fun h => absurd rfl h,
        ⟨fun h => absurd h Bool.false_ne_true, fun hs => absurd hs.2 (life_unclosed h)⟩, hreturns⟩
    | @closed role attempts h =>
      have hmakes := life_makes role (attempts ++ [⟨true, true⟩])
      have hasks := life_balanced role (attempts ++ [⟨true, true⟩])
      have hlast : role.attempt ⟨true, true⟩ <:+ role.life (attempts ++ [⟨true, true⟩]) := by
        rw [life_concat]
        exact List.suffix_append _ _
      exact ⟨hmakes ▸ List.prefix_refl _, fun _ => ⟨hmakes, hasks⟩, fun h => absurd rfl h,
        ⟨fun _ => ⟨rfl, hlast⟩, fun _ => rfl⟩, hreturns⟩
  · intro more index c h hc
    rw [run, List.foldl_append]
    exact closed_forever more h hc

example : (createSchedulerRuntimeResources ⟨true, true, true, true, false, ⟨false, true⟩⟩).events =
    [.made .sidecar, .made .transport, .asked .transport false, .asked .sidecar true] := by decide

end CacheBlend.RuntimeResources
