import CacheBlend.Checks
import CacheBlend.ScopedVariables
import CacheBlend.SelectiveRows

/-!
# Forwards under a row plan

A worker binds one row plan around a model forward. The plan stands in a
variable of the worker, and a forward is any program that works, reads the
plan, binds another, runs a bridge or catches what is raised. Whatever the
program does, it acts as if the plan were a bound name, so the variable is as
before when it ends, and one request never sees the plan of another.
-/

set_option autoImplicit false

namespace CacheBlend.ForwardContext
open CacheBlend.SelectiveRows CacheBlend.ScopedVariables

/-! ## The output contract -/

inductive ForwardOutputErrorCode where
  | invalidExpectedRows
  | invalidActualRows
  | rowCountMismatch
  | invalidHiddenSize
  | invalidHiddenRank
  | logitsIndexOutOfRange
  | logitsIndicesNotIncreasing
  deriving DecidableEq

/-- The output has the rows that were prepared, and the logits gather stays in them. -/
structure OutputFits (expectedRows : ℤ) (shape : List ℤ) (hiddenSize : ℤ)
    (logitsIndices : List ℤ) : Prop where
  rows : 0 ≤ expectedRows
  size : 0 < hiddenSize
  shape : shape = [expectedRows, hiddenSize]
  bounded : ∀ i ∈ logitsIndices, 0 ≤ i ∧ i < expectedRows
  increasing : logitsIndices.Pairwise (· < ·)

structure ForwardOutputContract where
  expectedRows : ℤ
  actualRows : ℤ
  hiddenSize : ℤ
  logitsIndices : List ℤ
  fits : OutputFits expectedRows [actualRows, hiddenSize] hiddenSize logitsIndices

/-- The loop of `validate` over the indices. -/
def checkIndices (actual : ℤ) : ℤ → List ℤ → Except ForwardOutputErrorCode Unit
  | _, [] => .ok ()
  | previous, index::rest => do
    require (0 ≤ index ∧ index < actual) .logitsIndexOutOfRange
    require (previous < index) .logitsIndicesNotIncreasing
    checkIndices actual index rest

def checkOutput (expectedRows : ℤ) (actualHiddenShape : List ℤ) (hiddenSize : ℤ)
    (logitsIndices : List ℤ) : Except ForwardOutputErrorCode Unit := do
  require (0 ≤ expectedRows) .invalidExpectedRows
  match actualHiddenShape with
  | [actual, shapeWidth] => do
    require (0 ≤ actual) .invalidActualRows
    require (actual = expectedRows) .rowCountMismatch
    require (0 ≤ hiddenSize) .invalidHiddenSize
    require (0 ≤ shapeWidth) .invalidHiddenSize
    require (hiddenSize ≠ 0 ∧ shapeWidth = hiddenSize) .invalidHiddenSize
    checkIndices actual (-1) logitsIndices
  | _ => .error .invalidHiddenRank

theorem checkIndices_ok_iff (actual previous : ℤ) (indices : List ℤ) :
    checkIndices actual previous indices = .ok () ↔
      (∀ i ∈ indices, 0 ≤ i ∧ i < actual) ∧ (previous::indices).Pairwise (· < ·) := by
  induction indices generalizing previous with
  | nil => simp [checkIndices]
  | cons index rest ih =>
    rw [checkIndices, require_then_iff, require_then_iff, ih]
    constructor
    · rintro ⟨hrange, hlt, hbounded, hp⟩
      refine ⟨List.forall_mem_cons.mpr ⟨hrange, hbounded⟩, List.pairwise_cons.mpr ⟨?_, hp⟩⟩
      intro i hi
      rcases List.mem_cons.mp hi with rfl | hi
      · exact hlt
      · exact hlt.trans ((List.pairwise_cons.mp hp).1 i hi)
    · rintro ⟨hbounded, hp⟩
      have ⟨hrange, hrest⟩ := List.forall_mem_cons.mp hbounded
      have ⟨hfirst, htail⟩ := List.pairwise_cons.mp hp
      exact ⟨hrange, hfirst index List.mem_cons_self, hrest, htail⟩

theorem checkOutput_ok_iff (expectedRows : ℤ) (shape : List ℤ) (hiddenSize : ℤ)
    (indices : List ℤ) : checkOutput expectedRows shape hiddenSize indices = .ok () ↔
      OutputFits expectedRows shape hiddenSize indices := by
  unfold checkOutput
  rw [require_then_iff]
  constructor
  · rintro ⟨hrows, h⟩
    split at h
    · have ⟨_, h⟩ := (require_then_iff _ _ _ _).mp h
      have ⟨hactual, h⟩ := (require_then_iff _ _ _ _).mp h
      have ⟨hwidth, h⟩ := (require_then_iff _ _ _ _).mp h
      have ⟨_, h⟩ := (require_then_iff _ _ _ _).mp h
      have ⟨hsize, h⟩ := (require_then_iff _ _ _ _).mp h
      have ⟨hbounded, hp⟩ := (checkIndices_ok_iff _ _ _).mp h
      refine ⟨hrows, by omega, by rw [hactual, hsize.2], ?_, (List.pairwise_cons.mp hp).2⟩
      rwa [← hactual]
    · cases h
  · intro h
    refine ⟨h.rows, ?_⟩
    rw [h.shape]
    have hsize := h.size
    refine (require_then_iff _ _ _ _).mpr ⟨h.rows, (require_then_iff _ _ _ _).mpr ⟨rfl, ?_⟩⟩
    refine (require_then_iff _ _ _ _).mpr ⟨hsize.le, (require_then_iff _ _ _ _).mpr ⟨hsize.le, ?_⟩⟩
    refine (require_then_iff _ _ _ _).mpr ⟨⟨hsize.ne', rfl⟩, (checkIndices_ok_iff _ _ _).mpr ?_⟩
    refine ⟨h.bounded, List.pairwise_cons.mpr ⟨fun i hi => ?_, h.increasing⟩⟩
    have hi := (h.bounded i hi).1
    omega

/-- `ForwardOutputContract.validate`. -/
def validate (expectedRows : ℤ) (actualHiddenShape : List ℤ) (hiddenSize : ℤ)
    (logitsIndices : List ℤ) : Except ForwardOutputErrorCode ForwardOutputContract :=
  match h : checkOutput expectedRows actualHiddenShape hiddenSize logitsIndices with
  | .error e => .error e
  | .ok () => .ok
    { expectedRows := expectedRows
      actualRows := expectedRows
      hiddenSize := hiddenSize
      logitsIndices := logitsIndices
      fits := by
        have hf := (checkOutput_ok_iff _ _ _ _).mp h
        exact ⟨hf.rows, hf.size, rfl, hf.bounded, hf.increasing⟩ }

theorem validate_ok_iff (expectedRows : ℤ) (shape : List ℤ) (hiddenSize : ℤ) (indices : List ℤ)
    (c : ForwardOutputContract) : validate expectedRows shape hiddenSize indices = .ok c ↔
      OutputFits expectedRows shape hiddenSize indices ∧ c.expectedRows = expectedRows ∧
        c.actualRows = expectedRows ∧ c.hiddenSize = hiddenSize ∧ c.logitsIndices = indices := by
  rw [← checkOutput_ok_iff]
  unfold validate
  split
  · next e he => simp [he]
  · next hok =>
    constructor
    · intro h
      cases h
      exact ⟨hok, rfl, rfl, rfl, rfl⟩
    · rintro ⟨_, rfl, hactual, rfl, rfl⟩
      cases c
      cases hactual
      rfl

/-! ## The plan of a worker -/

/-- The codes of `SelectivePlanErrorCode` that the context raises. -/
inductive ContextErrorCode where
  | activeContext
  | missingContext
  deriving DecidableEq

inductive SelectiveForwardErrorCode where
  | invalidPlan
  | invalidForward
  | forwardFailed
  | invalidOutput
  | activeContext
  | inputIdsRequired
  | positionsRequired
  | promptEmbedsUnsupported
  deriving DecidableEq

/-- What a forward raises: an error of a plan or of its context, an error of
a bridge, or any other exception. -/
inductive Fault (φ : Type) where
  | plan (code : SelectivePlanErrorCode)
  | context (code : ContextErrorCode)
  | forward (code : SelectiveForwardErrorCode)
  | raised (exception : φ)

abbrev World (μ : Type) : Type := Option ForwardRowPlan × μ

abbrev WorkerCall (μ φ α : Type) : Type := Call (World μ) (Fault φ) α

section
variable {σ μ φ ι ο α : Type}

/-- `ForwardRowPlanContext.bind`. No plan stands for an object of another type. -/
def bind (plan : Option ForwardRowPlan) (body : WorkerCall μ φ α) : WorkerCall μ φ α :=
  match plan with
  | none => Call.raise (.plan .invalidLayerCount)
  | some plan => do
    let active ← value
    if active.isSome then Call.raise (.context .activeContext) else under (some plan) body

/-- `ForwardRowPlanContext.current`. -/
def current : WorkerCall μ φ ForwardRowPlan := do
  let active ← value
  match active with
  | none => Call.raise (.context .missingContext)
  | some plan => pure plan

/-! ## The bridges -/

/-- What the reader of the hidden shape raises: an error that is caught, or another one. -/
inductive ShapeFault (φ : Type) where
  | invalid
  | raised (exception : φ)

structure ForwardCall (φ ο : Type) where
  plan : Option ForwardRowPlan
  expectedRows : ℤ
  hiddenSize : ℤ
  logitsIndices : List ℤ
  forwardCallable : Bool
  hiddenShape : Option (ο → Except (ShapeFault φ) (List ℤ))

structure SelectiveForwardResult (ο : Type) where
  output : ο
  contract : ForwardOutputContract

/-- The error of the bridge for what the forward raises. -/
def Fault.failed : Fault φ → Fault φ
  | context .activeContext => forward .activeContext
  | _ => forward .forwardFailed

def readOutput (call : ForwardCall φ ο) (hiddenShape : ο → Except (ShapeFault φ) (List ℤ))
    (output : ο) : Except (Fault φ) (SelectiveForwardResult ο) :=
  match hiddenShape output with
  | .error .invalid => .error (.forward .invalidOutput)
  | .error (.raised exception) => .error (.raised exception)
  | .ok shape =>
    match validate call.expectedRows shape call.hiddenSize call.logitsIndices with
    | .error _ => .error (.forward .invalidOutput)
    | .ok contract => .ok ⟨output, contract⟩

/-- The checks of the bridge, with the plan and the reader of the shape. -/
def arguments (call : ForwardCall φ ο) :
    Except (Fault φ) (ForwardRowPlan × (ο → Except (ShapeFault φ) (List ℤ))) :=
  match call.plan, call.forwardCallable, call.hiddenShape with
  | none, _, _ => .error (.forward .invalidPlan)
  | some plan, true, some hiddenShape => .ok (plan, hiddenShape)
  | some _, _, _ => .error (.forward .invalidForward)

/-- A run of the bridge whose forward is bound to the plan by the given function. -/
def runBound (call : ForwardCall φ ο) (bound : ForwardRowPlan → Call σ (Fault φ) ο) :
    Call σ (Fault φ) (SelectiveForwardResult ο) := do
  let given ← Call.lift (arguments call)
  let output ← catching (bound given.1) (fun fault => Call.raise fault.failed)
  Call.lift (readOutput call given.2 output)

/-- `SelectiveForwardBridge.run`. -/
def run (call : ForwardCall φ ο) (forward : WorkerCall μ φ ο) :
    WorkerCall μ φ (SelectiveForwardResult ο) :=
  runBound call (fun plan => bind (some plan) forward)

structure ModelInputs (ι : Type) where
  inputIds : Option ι
  positions : Option ι
  intermediateTensors : Option ι
  inputsEmbeds : Option ι

/-- The checks of the adapter, with the arguments of the model forward. -/
def admitted (call : ForwardCall φ ο) (inputs : ModelInputs ι) :
    Except (Fault φ) (ι × ι × Option ι) :=
  match inputs.inputIds, inputs.positions with
  | none, _ => .error (.forward .inputIdsRequired)
  | some _, none => .error (.forward .positionsRequired)
  | some inputIds, some positions => do
    require (inputs.inputsEmbeds = none) (.forward .promptEmbedsUnsupported)
    require (call.forwardCallable = true) (.forward .invalidForward)
    .ok (inputIds, positions, inputs.intermediateTensors)

/-- `GptOssSelectiveModelAdapter.run`. -/
def adapt (call : ForwardCall φ ο) (inputs : ModelInputs ι)
    (modelForward : ι × ι × Option ι → WorkerCall μ φ ο) :
    WorkerCall μ φ (SelectiveForwardResult ο) := do
  let given ← Call.lift (admitted call inputs)
  run call (modelForward given)

end

/-! ## Programs -/

/-- A forward as a program over the operations of this module. -/
inductive Program (μ φ ι ο : Type) where
  | work (action : Call μ (Fault φ) ο)
  | current (next : ForwardRowPlan → Program μ φ ι ο)
  | andThen (first : Program μ φ ι ο) (next : ο → Program μ φ ι ο)
  | catching (body : Program μ φ ι ο) (handler : Fault φ → Program μ φ ι ο)
  | bind (plan : Option ForwardRowPlan) (body : Program μ φ ι ο)
  | run (call : ForwardCall φ ο) (forward : Program μ φ ι ο)
      (next : SelectiveForwardResult ο → Program μ φ ι ο)
  | adapt (call : ForwardCall φ ο) (inputs : ModelInputs ι)
      (modelForward : ι × ι × Option ι → Program μ φ ι ο)
      (next : SelectiveForwardResult ο → Program μ φ ι ο)

section
variable {μ φ ι ο : Type}

def eval : Program μ φ ι ο → WorkerCall μ φ ο
  | .work action => beside action
  | .current next => do
    let plan ← current
    eval (next plan)
  | .andThen first next => do
    let output ← eval first
    eval (next output)
  | .catching body handler => catching (eval body) (fun fault => eval (handler fault))
  | .bind plan body => bind plan (eval body)
  | .run call forward next => do
    let result ← run call (eval forward)
    eval (next result)
  | .adapt call inputs modelForward next => do
    let result ← adapt call inputs (fun given => eval (modelForward given))
    eval (next result)

/-- The plan as a bound name: a body under an active plan is not entered. -/
def bound (active plan : Option ForwardRowPlan) {α : Type}
    (body : Option ForwardRowPlan → Call μ (Fault φ) α) : Call μ (Fault φ) α :=
  match plan, active with
  | none, _ => Call.raise (.plan .invalidLayerCount)
  | some _, some _ => Call.raise (.context .activeContext)
  | some plan, none => body (some plan)

def boundRun (call : ForwardCall φ ο) (forward : Option ForwardRowPlan → Call μ (Fault φ) ο)
    (active : Option ForwardRowPlan) : Call μ (Fault φ) (SelectiveForwardResult ο) :=
  runBound call (fun plan => bound active (some plan) forward)

def boundAdapt (call : ForwardCall φ ο) (inputs : ModelInputs ι)
    (modelForward : ι × ι × Option ι → Option ForwardRowPlan → Call μ (Fault φ) ο)
    (active : Option ForwardRowPlan) : Call μ (Fault φ) (SelectiveForwardResult ο) := do
  let given ← Call.lift (admitted call inputs)
  boundRun call (modelForward given) active

def lexical : Program μ φ ι ο → Option ForwardRowPlan → Call μ (Fault φ) ο
  | .work action, _ => action
  | .current _, none => Call.raise (.context .missingContext)
  | .current next, some plan => lexical (next plan) (some plan)
  | .andThen first next, active => do
    let output ← lexical first active
    lexical (next output) active
  | .catching body handler, active =>
    catching (lexical body active) (fun fault => lexical (handler fault) active)
  | .bind plan body, active => bound active plan (lexical body)
  | .run call forward next, active => do
    let result ← boundRun call (lexical forward) active
    lexical (next result) active
  | .adapt call inputs modelForward next, active => do
    let result ← boundAdapt call inputs (fun given => lexical (modelForward given)) active
    lexical (next result) active

/-! ## The variable is a bound name -/

theorem reads_context (plan : Option ForwardRowPlan) {α : Type} {body : WorkerCall μ φ α}
    {d : Option ForwardRowPlan → Call μ (Fault φ) α} (h : Reads body d) :
    Reads (bind plan body) (fun active => bound active plan d) := by
  intro active m
  cases plan with
  | none => rfl
  | some plan =>
    cases active with
    | none => exact reads_under (some plan) h none m
    | some other => rfl

theorem reads_runBound (call : ForwardCall φ ο) {f : ForwardRowPlan → WorkerCall μ φ ο}
    {g : ForwardRowPlan → Option ForwardRowPlan → Call μ (Fault φ) ο}
    (h : ∀ plan, Reads (f plan) (g plan)) :
    Reads (runBound call f) (fun active => runBound call (fun plan => g plan active)) :=
  reads_bind (reads_lift _) (fun given => reads_bind
    (reads_catching (h given.1) (fun fault => reads_raise fault.failed))
    (fun _ => reads_lift _))

theorem reads_run (call : ForwardCall φ ο) {forward : WorkerCall μ φ ο}
    {d : Option ForwardRowPlan → Call μ (Fault φ) ο} (h : Reads forward d) :
    Reads (run call forward) (boundRun call d) :=
  reads_runBound call (fun plan => reads_context (some plan) h)

theorem reads_adapt (call : ForwardCall φ ο) (inputs : ModelInputs ι)
    {modelForward : ι × ι × Option ι → WorkerCall μ φ ο}
    {d : ι × ι × Option ι → Option ForwardRowPlan → Call μ (Fault φ) ο}
    (h : ∀ given, Reads (modelForward given) (d given)) :
    Reads (adapt call inputs modelForward) (boundAdapt call inputs d) :=
  reads_bind (reads_lift _) (fun given => reads_run call (h given))

theorem eval_reads (p : Program μ φ ι ο) : Reads (eval p) (lexical p) := by
  induction p with
  | work action => exact reads_beside action
  | current next ih =>
    intro active m
    cases active with
    | none => rfl
    | some plan => exact ih plan (some plan) m
  | andThen first next ihf ihn => exact reads_bind ihf ihn
  | catching body handler ihb ihh => exact reads_catching ihb ihh
  | bind plan body ih => exact reads_context plan ih
  | run call forward next ihf ihn => exact reads_bind (reads_run call ihf) ihn
  | adapt call inputs modelForward next ihm ihn =>
    exact reads_bind (reads_adapt call inputs ihm) ihn

end

/-! ## A busy worker -/

section
variable {σ μ φ ι ο : Type}

theorem arguments_ok_iff (call : ForwardCall φ ο) (plan : ForwardRowPlan)
    (hiddenShape : ο → Except (ShapeFault φ) (List ℤ)) :
    arguments call = .ok (plan, hiddenShape) ↔
      call.plan = some plan ∧ call.forwardCallable = true ∧
        call.hiddenShape = some hiddenShape := by
  unfold arguments
  split
  · next hp => simp [hp]
  · next hp hc hs => simp [hp, hc, hs]
  · next hp hno =>
    refine iff_of_false (fun h => by cases h) (fun h => ?_)
    exact hno hiddenShape h.2.1 h.2.2

theorem require_raises {ε : Type} {p : Prop} [Decidable p] {e e' : ε}
    (h : (require p e : Except ε PUnit) = .error e') : e' = e := by
  unfold require at h
  split at h <;> cases h
  rfl

theorem arguments_forward {call : ForwardCall φ ο} {fault : Fault φ}
    (h : arguments call = .error fault) : ∃ code, fault = .forward code := by
  unfold arguments at h
  split at h <;> cases h
  · exact ⟨_, rfl⟩
  · exact ⟨_, rfl⟩

theorem admitted_forward {call : ForwardCall φ ο} {inputs : ModelInputs ι} {fault : Fault φ}
    (h : admitted call inputs = .error fault) : ∃ code, fault = .forward code := by
  unfold admitted at h
  split at h
  · cases h
    exact ⟨_, rfl⟩
  · cases h
    exact ⟨_, rfl⟩
  · rcases (checked_error_iff _ _ _).mp h with h | ⟨_, _, h⟩
    · exact ⟨_, (require_raises h)⟩
    · rcases (checked_error_iff _ _ _).mp h with h | ⟨_, _, h⟩
      · exact ⟨_, (require_raises h)⟩
      · cases h

theorem admitted_callable {call : ForwardCall φ ο} {inputs : ModelInputs ι}
    {given : ι × ι × Option ι} (h : admitted call inputs = .ok given) :
    call.forwardCallable = true := by
  unfold admitted at h
  split at h
  · cases h
  · cases h
  · have ⟨_, h⟩ := (require_then_iff _ _ _ _).mp h
    exact ((require_then_iff _ _ _ _).mp h).1

theorem run_busy (call : ForwardCall φ ο) (forward : WorkerCall μ φ ο) (plan : ForwardRowPlan)
    (m : μ) : ∃ code, run call forward (some plan, m) =
      (.error (.forward code), (some plan, m)) := by
  unfold run runBound
  cases h : arguments call with
  | error fault =>
    rcases arguments_forward h with ⟨code, rfl⟩
    exact ⟨code, rfl⟩
  | ok given => exact ⟨.activeContext, rfl⟩

theorem adapt_busy (call : ForwardCall φ ο) (inputs : ModelInputs ι)
    (modelForward : ι × ι × Option ι → WorkerCall μ φ ο) (plan : ForwardRowPlan) (m : μ) :
    ∃ code, adapt call inputs modelForward (some plan, m) =
      (.error (.forward code), (some plan, m)) := by
  unfold adapt
  cases h : admitted call inputs with
  | error fault =>
    rcases admitted_forward h with ⟨code, rfl⟩
    exact ⟨code, rfl⟩
  | ok given =>
    rcases run_busy call (modelForward given) plan m with ⟨code, hrun⟩
    exact ⟨code, hrun⟩

/-- For every program and every outcome the variable of the worker acts as a
bound name and is as before when the program ends. Under an active plan neither
a binding nor a bridge enters another forward, whatever that forward is. -/
theorem plan_is_bound (p : Program μ φ ι ο) (active : Option ForwardRowPlan) (m : μ) :
    eval p (active, m) = ((lexical p active m).1, (active, (lexical p active m).2)) ∧
    ∀ plan other call inputs modelForward (next : _ → Program μ φ ι ο),
      eval (.bind (some other) p) (some plan, m) =
        (.error (.context .activeContext), (some plan, m)) ∧
      (∃ code, eval (.run call p next) (some plan, m) =
        (.error (.forward code), (some plan, m))) ∧
      ∃ code, eval (.adapt call inputs modelForward next) (some plan, m) =
        (.error (.forward code), (some plan, m)) := by
  refine ⟨eval_reads p active m, fun plan other call inputs modelForward next => ⟨rfl, ?_, ?_⟩⟩
  · rcases run_busy call (eval p) plan m with ⟨code, h⟩
    exact ⟨code, Call.bind_run_error _ h⟩
  · rcases adapt_busy call inputs (fun given => eval (modelForward given)) plan m with ⟨code, h⟩
    exact ⟨code, Call.bind_run_error _ h⟩

/-! ## Requests -/

/-- A request of the runner, with the model forward as a program. -/
structure Request (μ φ ι ο : Type) where
  call : ForwardCall φ ο
  inputs : ModelInputs ι
  modelForward : ι × ι × Option ι → Program μ φ ι ο

def Request.serve (r : Request μ φ ι ο) : WorkerCall μ φ (SelectiveForwardResult ο) :=
  adapt r.call r.inputs (fun given => eval (r.modelForward given))

/-- The results of requests one after the other, whether they return or raise. -/
def serveAll : List (Request μ φ ι ο) → World μ →
    List (Except (Fault φ) (SelectiveForwardResult ο)) × World μ
  | [], w => ([], w)
  | r::later, w => ((r.serve w).1 :: (serveAll later (r.serve w).2).1,
      (serveAll later (r.serve w).2).2)

/-- The model forward ran under the plan of the request and its output fits. -/
structure Served (r : Request μ φ ι ο) (m : μ) (result : SelectiveForwardResult ο) (m' : μ) :
    Prop where
  ran : ∃ given plan, admitted r.call r.inputs = .ok given ∧ r.call.plan = some plan ∧
    lexical (r.modelForward given) (some plan) m = (.ok result.output, m')
  shaped : ∃ hiddenShape, r.call.hiddenShape = some hiddenShape ∧
    ∃ shape, hiddenShape result.output = .ok shape ∧
      OutputFits r.call.expectedRows shape r.call.hiddenSize r.call.logitsIndices
  rows : result.contract.expectedRows = r.call.expectedRows
  actual : result.contract.actualRows = r.call.expectedRows
  size : result.contract.hiddenSize = r.call.hiddenSize
  indices : result.contract.logitsIndices = r.call.logitsIndices

/-- A fault is one of the bridge, or the reader of the shape raised it. -/
def Reported (r : Request μ φ ι ο) (fault : Fault φ) : Prop :=
  (∃ code, fault = .forward code) ∨ ∃ exception, fault = .raised exception ∧
    ∃ hiddenShape output, r.call.hiddenShape = some hiddenShape ∧
      hiddenShape output = .error (.raised exception)

theorem failed_forward (fault : Fault φ) : ∃ code, fault.failed = .forward code := by
  unfold Fault.failed
  split
  · exact ⟨_, rfl⟩
  · exact ⟨_, rfl⟩

theorem readOutput_ok_iff (call : ForwardCall φ ο)
    (hiddenShape : ο → Except (ShapeFault φ) (List ℤ)) (output : ο)
    (result : SelectiveForwardResult ο) :
    readOutput call hiddenShape output = .ok result ↔
      result.output = output ∧ ∃ shape, hiddenShape output = .ok shape ∧
        validate call.expectedRows shape call.hiddenSize call.logitsIndices =
          .ok result.contract := by
  unfold readOutput
  split
  · next h => simp [h]
  · next h => simp [h]
  · next shape h =>
    split
    · next hv => simp [h, hv]
    · next contract hv =>
      constructor
      · intro he
        cases he
        exact ⟨rfl, shape, h, hv⟩
      · rintro ⟨rfl, other, ho, hc⟩
        rw [h] at ho
        cases ho
        rw [hv] at hc
        cases hc
        rfl

theorem readOutput_reported (call : ForwardCall φ ο)
    (hiddenShape : ο → Except (ShapeFault φ) (List ℤ)) (output : ο) {fault : Fault φ}
    (h : readOutput call hiddenShape output = .error fault) :
    (∃ code, fault = .forward code) ∨
      ∃ exception, fault = .raised exception ∧ hiddenShape output = .error (.raised exception) := by
  unfold readOutput at h
  split at h
  · cases h
    exact Or.inl ⟨_, rfl⟩
  · next exception hs =>
    cases h
    exact Or.inr ⟨exception, rfl, hs⟩
  · split at h <;> cases h
    exact Or.inl ⟨_, rfl⟩

theorem boundRun_ok_iff (call : ForwardCall φ ο)
    (forward : Option ForwardRowPlan → Call μ (Fault φ) ο) (m m' : μ)
    (result : SelectiveForwardResult ο) :
    boundRun call forward none m = (.ok result, m') ↔
      ∃ plan hiddenShape, arguments call = .ok (plan, hiddenShape) ∧
        forward (some plan) m = (.ok result.output, m') ∧
        readOutput call hiddenShape result.output = .ok result := by
  unfold boundRun runBound
  rw [Call.lift_bind_iff]
  constructor
  · rintro ⟨⟨plan, hiddenShape⟩, ha, h⟩
    rcases (Call.bind_ok_iff _ _ _ _ _).mp h with ⟨output, m₁, hc, hlift⟩
    rcases (Call.lift_ok_iff _ _ _ _).mp hlift with ⟨hr, rfl⟩
    have ho := ((readOutput_ok_iff _ _ _ _).mp hr).1
    have hf : forward (some plan) m = (.ok output, m') := (translated_ok_iff _ _ _ _ _).mp hc
    exact ⟨plan, hiddenShape, ha, ho ▸ hf, ho ▸ hr⟩
  · rintro ⟨plan, hiddenShape, ha, hf, hr⟩
    refine ⟨(plan, hiddenShape), ha, (Call.bind_ok_iff _ _ _ _ _).mpr ?_⟩
    exact ⟨result.output, m', (translated_ok_iff _ _ _ _ _).mpr hf,
      (Call.lift_ok_iff _ _ _ _).mpr ⟨hr, rfl⟩⟩

theorem boundRun_reported (call : ForwardCall φ ο)
    (forward : Option ForwardRowPlan → Call μ (Fault φ) ο) (m m' : μ) {fault : Fault φ}
    (h : boundRun call forward none m = (.error fault, m')) :
    (∃ code, fault = .forward code) ∨ ∃ exception, fault = .raised exception ∧
      ∃ hiddenShape output, call.hiddenShape = some hiddenShape ∧
        hiddenShape output = .error (.raised exception) := by
  unfold boundRun runBound at h
  cases ha : arguments call with
  | error e =>
    rw [ha] at h
    cases h
    exact Or.inl (arguments_forward ha)
  | ok given =>
    rw [ha] at h
    change (catching (forward (some given.1)) (fun fault => Call.raise fault.failed) >>=
      fun output => Call.lift (readOutput call given.2 output)) m = _ at h
    rcases hf : forward (some given.1) m with ⟨e | output, m₁⟩
    · have hc := catching_run_error (fun fault => (Call.raise fault.failed : Call μ (Fault φ) ο)) hf
      rw [Call.bind_run_error _ hc] at h
      cases h
      exact Or.inl (failed_forward e)
    · rw [Call.bind_run_ok _ (catching_run_ok _ hf)] at h
      have hr : readOutput call given.2 output = .error fault := congrArg Prod.fst h
      rcases readOutput_reported _ _ _ hr with hr | ⟨exception, he, hs⟩
      · exact Or.inl hr
      · have hgiven := (arguments_ok_iff call given.1 given.2).mp ha
        exact Or.inr ⟨exception, he, given.2, output, hgiven.2.2, hs⟩

theorem serve_reads (r : Request μ φ ι ο) :
    Reads r.serve (boundAdapt r.call r.inputs (fun given => lexical (r.modelForward given))) :=
  reads_adapt r.call r.inputs (fun given => eval_reads (r.modelForward given))

theorem boundAdapt_ok_iff (r : Request μ φ ι ο) (m m' : μ) (result : SelectiveForwardResult ο) :
    boundAdapt r.call r.inputs (fun given => lexical (r.modelForward given)) none m =
      (.ok result, m') ↔ Served r m result m' := by
  unfold boundAdapt
  rw [Call.lift_bind_iff]
  constructor
  · rintro ⟨given, hg, h⟩
    rcases (boundRun_ok_iff _ _ _ _ _).mp h with ⟨plan, hiddenShape, ha, hf, hr⟩
    have ⟨hplan, _, hshape⟩ := (arguments_ok_iff _ _ _).mp ha
    have ⟨_, shape, hs, hv⟩ := (readOutput_ok_iff _ _ _ _).mp hr
    have ⟨hfits, hrows, hactual, hsize, hindices⟩ := (validate_ok_iff _ _ _ _ _).mp hv
    exact ⟨⟨given, plan, hg, hplan, hf⟩, ⟨hiddenShape, hshape, shape, hs, hfits⟩, hrows, hactual,
      hsize, hindices⟩
  · intro h
    rcases h.ran with ⟨given, plan, hg, hplan, hf⟩
    rcases h.shaped with ⟨hiddenShape, hshape, shape, hs, hfits⟩
    refine ⟨given, hg, (boundRun_ok_iff _ _ _ _ _).mpr ⟨plan, hiddenShape, ?_, hf, ?_⟩⟩
    · exact (arguments_ok_iff _ _ _).mpr ⟨hplan, admitted_callable hg, hshape⟩
    · exact (readOutput_ok_iff _ _ _ _).mpr ⟨rfl, shape, hs, (validate_ok_iff _ _ _ _ _).mpr
        ⟨hfits, h.rows, h.actual, h.size, h.indices⟩⟩

theorem boundAdapt_reported (r : Request μ φ ι ο) (m m' : μ) {fault : Fault φ}
    (h : boundAdapt r.call r.inputs (fun given => lexical (r.modelForward given)) none m =
      (.error fault, m')) : Reported r fault := by
  unfold boundAdapt at h
  cases hg : admitted r.call r.inputs with
  | error e =>
    rw [hg] at h
    cases h
    exact Or.inl (admitted_forward hg)
  | ok given =>
    rw [hg] at h
    exact boundRun_reported r.call (lexical (r.modelForward given)) m m' h

theorem serveAll_append (requests later : List (Request μ φ ι ο)) (w : World μ) :
    serveAll (requests ++ later) w =
      ((serveAll requests w).1 ++ (serveAll later (serveAll requests w).2).1,
        (serveAll later (serveAll requests w).2).2) := by
  induction requests generalizing w with
  | nil => rfl
  | cons r requests ih => rw [List.cons_append, serveAll, ih, serveAll, List.cons_append]

theorem serveAll_idle (requests : List (Request μ φ ι ο)) (m : μ) :
    ∃ results m', serveAll requests (none, m) = (results, (none, m')) := by
  induction requests generalizing m with
  | nil => exact ⟨[], m, rfl⟩
  | cons r requests ih =>
    rcases ih (boundAdapt r.call r.inputs (fun given => lexical (r.modelForward given)) none m).2
      with ⟨results, m', h⟩
    refine ⟨(r.serve (none, m)).1 :: results, m', ?_⟩
    rw [serveAll, serve_reads r none m, h]

/-- Whatever requests an idle worker serves, it is idle before and after each
of them. A request returns a result exactly when its forward ran under its own
plan on the memory it found and the output fits, and nothing that a forward
raises is reported but by a code of the bridge. What is raised are exceptions
of the class `Exception`: an interrupt of the process is not modelled. -/
theorem requests_served (earlier later : List (Request μ φ ι ο)) (r : Request μ φ ι ο) (m : μ) :
    ∃ results m₁ outcome m₂ rest m₃,
      serveAll earlier (none, m) = (results, (none, m₁)) ∧
      r.serve (none, m₁) = (outcome, (none, m₂)) ∧
      serveAll later (none, m₂) = (rest, (none, m₃)) ∧
      serveAll (earlier ++ r::later) (none, m) = (results ++ outcome :: rest, (none, m₃)) ∧
      (∀ result, outcome = .ok result ↔ Served r m₁ result m₂) ∧
      ∀ fault, outcome = .error fault → Reported r fault := by
  rcases serveAll_idle earlier m with ⟨results, m₁, hearlier⟩
  have hserve := serve_reads r none m₁
  rcases hb : boundAdapt r.call r.inputs (fun given => lexical (r.modelForward given)) none m₁
    with ⟨outcome, m₂⟩
  rw [hb] at hserve
  rcases serveAll_idle later m₂ with ⟨rest, m₃, hlater⟩
  refine ⟨results, m₁, outcome, m₂, rest, m₃, hearlier, hserve, hlater, ?_, ?_, ?_⟩
  · rw [serveAll_append, hearlier, serveAll, hserve, hlater]
  · intro result
    rw [← boundAdapt_ok_iff, hb, Prod.mk.injEq, and_iff_left rfl]
  · rintro fault rfl
    exact boundAdapt_reported r m₁ m₂ hb

end

end CacheBlend.ForwardContext
