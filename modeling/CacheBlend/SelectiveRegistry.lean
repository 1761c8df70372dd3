import CacheBlend.Checks
import Mathlib.Data.List.Infix

/-!
# Registration of the selective extension

A registrar registers one backend and one model with the registries of the
process, which it imports unless they are injected. After an exception in the
transaction the registrar refuses every later call. The ledger keeps what each
call of a run returned or raised and which registry functions it invoked.
-/

set_option autoImplicit false

namespace CacheBlend.SelectiveRegistry

/-! ## Specifications -/

def isDigest (value : String) : Bool :=
  value.toList.length = 64 && value.toList.all (fun c => c ∈ "0123456789abcdef".toList)

structure SelectiveGateEvidence where
  runtimeDigest : String
  fullPrefillDigest : String
  transferDigest : String
  yarnDigest : String
  hybridSinkDigest : String
  digests : ∀ value ∈ [runtimeDigest, fullPrefillDigest, transferDigest, yarnDigest,
    hybridSinkDigest], isDigest value

structure SelectivePrerequisites where
  fullPrefillEquivalence : Bool
  transfer100pct : Bool
  yarnCorrection : Bool
  hybridGroupsAndSinks : Bool
  evidence : Option SelectiveGateEvidence

def SelectivePrerequisites.ready (p : SelectivePrerequisites) : Bool :=
  p.fullPrefillEquivalence && p.transfer100pct && p.yarnCorrection && p.hybridGroupsAndSinks &&
    p.evidence.isSome

def gptOssModelArchitecture : String := "GptOssForCausalLM"

structure SelectiveRegistrationSpec where
  prerequisites : SelectivePrerequisites
  modelClassPath : String
  attentionBackendClassPath : String
  modelArchitecture : String
  architecture : modelArchitecture = gptOssModelArchitecture
  ready : prerequisites.ready

theorem SelectiveRegistrationSpec.evidence (s : SelectiveRegistrationSpec) :
    s.prerequisites.evidence.isSome := by
  have h := s.ready
  unfold SelectivePrerequisites.ready at h
  exact (Bool.and_eq_true_iff.mp h).2

abbrev Signature := String × String × String × List String

def SelectiveRegistrationSpec.signature (s : SelectiveRegistrationSpec) : Signature :=
  let evidence := s.prerequisites.evidence.get s.evidence
  (s.modelArchitecture, s.modelClassPath, s.attentionBackendClassPath,
    [evidence.runtimeDigest, evidence.fullPrefillDigest, evidence.transferDigest,
      evidence.yarnDigest, evidence.hybridSinkDigest])

/-! ## Registries -/

inductive SelectiveRegistrationErrorCode where
  | invalidPrerequisites
  | invalidBackendToken
  | registrationConflict
  | partialRegistration
  deriving DecidableEq

/-- What is raised: an error of the registrar, another `Exception`, or an
exception that `except Exception` lets through. -/
inductive Raised where
  | registration (code : SelectiveRegistrationErrorCode)
  | exception
  | interrupt
  deriving DecidableEq

/-- A backend selector: a string, a member of an enumeration, or another object. -/
inductive BackendToken where
  | text (s : String)
  | member (moduleName enumName name value : String)
  | object
  deriving DecidableEq

def customAttentionBackendName : String := "CUSTOM"

def isCustomBackendToken : BackendToken → Bool
  | .text s => s = customAttentionBackendName
  | .member moduleName enumName name value =>
    moduleName = "vllm.v1.attention.backends.registry" ∧ enumName = "AttentionBackendEnum" ∧
      (name = customAttentionBackendName ∨ value = customAttentionBackendName)
  | .object => false

abbrev ModelRegister := String → String → Except Raised Unit
abbrev BackendRegister := BackendToken → String → Except Raised Unit

/-- What is read of the module of the attention backends. -/
structure BackendModule where
  registerBackend : Except Raised BackendRegister
  custom : Except Raised BackendToken

/-- The arguments of a call, and what the imports give or raise. -/
structure RegisterCall where
  spec : Option SelectiveRegistrationSpec
  modelRegister : Option ModelRegister
  backendRegister : Option BackendRegister
  backendToken : Option BackendToken
  modelsModule : Except Raised ModelRegister
  registryModule : Except Raised BackendModule

/-- `_load_vllm_registries`. -/
def loadVllmRegistries (c : RegisterCall) :
    Except Raised (ModelRegister × BackendRegister × BackendToken) := do
  let modelRegister ← c.modelRegister.elim c.modelsModule .ok
  match c.backendRegister, c.backendToken with
  | some backendRegister, some backendToken => .ok (modelRegister, backendRegister, backendToken)
  | backendRegister, backendToken => do
    let registry ← c.registryModule
    let backendRegister ← backendRegister.elim registry.registerBackend .ok
    let backendToken ← backendToken.elim registry.custom .ok
    .ok (modelRegister, backendRegister, backendToken)

/-- The registries of a call, loaded unless all of them are injected. -/
def registries (c : RegisterCall) :
    Except Raised (ModelRegister × BackendRegister × BackendToken) :=
  match c.modelRegister, c.backendRegister, c.backendToken with
  | some modelRegister, some backendRegister, some backendToken =>
    .ok (modelRegister, backendRegister, backendToken)
  | _, _, _ => loadVllmRegistries c

/-! ## The registrar -/

structure Registrar where
  signature : Option Signature
  isPartial : Bool
  deriving DecidableEq

structure SelectiveRegistrationReceipt where
  registered : Bool
  alreadyRegistered : Bool
  deriving DecidableEq

inductive Invocation where
  | backend (token : BackendToken) (path : String)
  | model (architecture path : String)
  deriving DecidableEq

structure Process where
  registrar : Registrar
  invoked : List Invocation

/-- The invocation of a registry function, which returns or raises. -/
def invoke (i : Invocation) (result : Except Raised Unit) : Call Process Raised Unit := do
  Call.modify (fun p => { p with invoked := p.invoked ++ [i] })
  Call.lift result

/-- The body of the transaction: the backend is registered before the model. -/
def transaction (c : RegisterCall) (spec : SelectiveRegistrationSpec) :
    Call Process Raised Unit := do
  let (modelRegister, backendRegister, backendToken) ← Call.lift (registries c)
  Call.lift (require (isCustomBackendToken backendToken) (.registration .invalidBackendToken))
  invoke (.backend backendToken spec.attentionBackendClassPath)
    (backendRegister backendToken spec.attentionBackendClassPath)
  invoke (.model spec.modelArchitecture spec.modelClassPath)
    (modelRegister spec.modelArchitecture spec.modelClassPath)

def poison (p : Process) : Process :=
  { p with registrar := { p.registrar with isPartial := true } }

/-- `except Exception`: the registrar is poisoned, and an error of its own is
raised again as it is. -/
def guarded (body : Call Process Raised Unit) : Call Process Raised Unit := fun p =>
  match body p with
  | (.ok u, p') => (.ok u, p')
  | (.error .interrupt, p') => (.error .interrupt, p')
  | (.error .exception, p') => (.error (.registration .partialRegistration), poison p')
  | (.error (.registration code), p') => (.error (.registration code), poison p')

/-- `SelectiveExtensionRegistrar.register`. -/
def register (c : RegisterCall) : Call Process Raised SelectiveRegistrationReceipt :=
  match c.spec with
  | none => Call.raise (.registration .invalidPrerequisites)
  | some spec => do
    let p ← Call.read
    Call.lift (require (¬p.registrar.isPartial) (.registration .partialRegistration))
    match p.registrar.signature with
    | some signature =>
      if signature = spec.signature then pure ⟨false, true⟩
      else Call.raise (.registration .registrationConflict)
    | none => do
      Call.lift (require (∀ token ∈ c.backendToken, isCustomBackendToken token)
        (.registration .invalidBackendToken))
      guarded (transaction c spec)
      Call.modify (fun p => { p with registrar := { p.registrar with
        signature := some spec.signature } })
      pure ⟨true, false⟩

/-! ## Runs -/

/-- What a call returned or raised, and the registry functions it invoked. -/
structure Attempt where
  call : RegisterCall
  outcome : Except Raised SelectiveRegistrationReceipt
  invoked : List Invocation

structure Ledger where
  registrar : Registrar
  attempts : List Attempt

def attempt (r : Registrar) (c : RegisterCall) : Attempt :=
  ⟨c, (register c ⟨r, []⟩).1, (register c ⟨r, []⟩).2.invoked⟩

def Ledger.next (l : Ledger) (c : RegisterCall) : Ledger :=
  ⟨(register c ⟨l.registrar, []⟩).2.registrar, l.attempts ++ [attempt l.registrar c]⟩

def Ledger.initial : Ledger := ⟨⟨none, false⟩, []⟩

def ledger (calls : List RegisterCall) : Ledger := calls.foldl Ledger.next Ledger.initial

/-- The backend registry function was invoked in the call. -/
def InvokedBackend (a : Attempt) : Prop := ∃ token path, .backend token path ∈ a.invoked

/-- In some failed call the backend registry function had been invoked. -/
def PartlyRegistered (l : Ledger) : Prop :=
  ∃ a ∈ l.attempts, (∃ e, a.outcome = .error e) ∧ InvokedBackend a

/-- A call with the signature has registered. -/
def Registered (l : Ledger) (signature : Signature) : Prop :=
  ∃ a ∈ l.attempts, a.outcome = .ok ⟨true, false⟩ ∧
    ∃ spec, a.call.spec = some spec ∧ spec.signature = signature

/-- A valid call: its registries are there and accept its paths. -/
def Succeeds (c : RegisterCall) : Prop :=
  ∃ spec modelRegister backendRegister token, c.spec = some spec ∧
    (∀ token ∈ c.backendToken, isCustomBackendToken token) ∧
    registries c = .ok (modelRegister, backendRegister, token) ∧ isCustomBackendToken token ∧
    backendRegister token spec.attentionBackendClassPath = .ok () ∧
    modelRegister spec.modelArchitecture spec.modelClassPath = .ok ()

/-- What is promised of a call after the calls of a ledger. -/
structure Promise (l : Ledger) (c : RegisterCall) : Prop where
  poisoned : (attempt l.registrar c).outcome = .error (.registration .partialRegistration) →
    PartlyRegistered l ∨ InvokedBackend (attempt l.registrar c)
  registers : ¬PartlyRegistered l → (∀ signature, ¬Registered l signature) → Succeeds c →
    (attempt l.registrar c).outcome = .ok ⟨true, false⟩
  repeated : ∀ spec, c.spec = some spec → Registered l spec.signature →
    (attempt l.registrar c).outcome = .ok ⟨false, true⟩ ∧ (attempt l.registrar c).invoked = []
  conflicting : ∀ spec signature, c.spec = some spec → Registered l signature →
    signature ≠ spec.signature →
    (attempt l.registrar c).outcome = .error (.registration .registrationConflict)

/-- The call fails before it reaches the registries: an import raises, or the
selector that is loaded is not the one that is pinned. -/
def FailsToLoad (c : RegisterCall) : Prop :=
  c.spec.isSome ∧ (∀ token ∈ c.backendToken, isCustomBackendToken token) ∧
    ((∃ e, registries c = .error e ∧ e ≠ .interrupt) ∨
      ∃ loaded, registries c = .ok loaded ∧ ¬isCustomBackendToken loaded.2.2)

/-- A registrar on which nothing has been registered or has failed halfway. -/
def Fresh (r : Registrar) : Prop := r = ⟨none, false⟩

/-- The call does not fail to load the registries on a fresh registrar, unless
a failed call has invoked the backend registry function before. -/
def Loads (l : Ledger) (c : RegisterCall) : Prop :=
  Fresh l.registrar → FailsToLoad c → PartlyRegistered l

/-! ## What one call does -/

section
variable {c : RegisterCall} {spec : SelectiveRegistrationSpec} {modelRegister : ModelRegister}
  {backendRegister : BackendRegister} {token : BackendToken} {p : Process} {e : Raised}

theorem transaction_unloaded (hl : registries c = .error e) :
    transaction c spec p = (.error e, p) := by
  unfold transaction
  rw [hl]
  rfl

theorem transaction_token (hl : registries c = .ok (modelRegister, backendRegister, token))
    (ht : ¬isCustomBackendToken token) :
    transaction c spec p = (.error (.registration .invalidBackendToken), p) := by
  unfold transaction
  rw [hl]
  show (Call.lift (require _ _) >>= _) p = _
  rw [require_not _ ht]
  rfl

def invokedAfter (p : Process) (i : Invocation) : Process :=
  { p with invoked := p.invoked ++ [i] }

theorem transaction_loaded (hl : registries c = .ok (modelRegister, backendRegister, token))
    (ht : isCustomBackendToken token) :
    transaction c spec p =
      match backendRegister token spec.attentionBackendClassPath with
      | .error e => (.error e,
          invokedAfter p (.backend token spec.attentionBackendClassPath))
      | .ok _ => (modelRegister spec.modelArchitecture spec.modelClassPath,
          invokedAfter (invokedAfter p (.backend token spec.attentionBackendClassPath))
            (.model spec.modelArchitecture spec.modelClassPath)) := by
  unfold transaction
  rw [hl]
  show (Call.lift (require _ _) >>= _) p = _
  rw [require_of _ ht]
  show (invoke _ (backendRegister token spec.attentionBackendClassPath) >>= _) p = _
  cases backendRegister token spec.attentionBackendClassPath with
  | error e => rfl
  | ok u => rfl

end

section
variable {c : RegisterCall} {spec : SelectiveRegistrationSpec} {r : Registrar}

theorem register_fresh (hs : c.spec = some spec)
    (ht : ∀ token ∈ c.backendToken, isCustomBackendToken token) (hr : Fresh r) :
    register c ⟨r, []⟩ =
      match guarded (transaction c spec) ⟨r, []⟩ with
      | (.error e, p) => (.error e, p)
      | (.ok _, p) => (.ok ⟨true, false⟩,
          { p with registrar := { p.registrar with signature := some spec.signature } }) := by
  obtain rfl := hr
  unfold register
  rw [hs]
  dsimp only
  rw [Call.read_bind, require_of _ Bool.false_ne_true]
  show (Call.lift (require _ _) >>= _) _ = _
  rw [require_of _ ht]
  show (guarded (transaction c spec) >>= _) _ = _
  rw [Call.bind_run]
  rcases guarded (transaction c spec) ⟨⟨none, false⟩, []⟩ with ⟨e | u, p⟩
  · rfl
  · rfl

inductive Does (r : Registrar) (c : RegisterCall) :
    Except Raised SelectiveRegistrationReceipt → List Invocation → Registrar → Prop
  | unspecified (hs : c.spec = none) :
      Does r c (.error (.registration .invalidPrerequisites)) [] r
  | refused (hs : c.spec.isSome) (hp : r.isPartial) :
      Does r c (.error (.registration .partialRegistration)) [] r
  | repeated {spec : SelectiveRegistrationSpec} (hs : c.spec = some spec)
      (hp : r.isPartial = false) (hr : r.signature = some spec.signature) :
      Does r c (.ok ⟨false, true⟩) [] r
  | conflicting {spec : SelectiveRegistrationSpec} {signature : Signature}
      (hs : c.spec = some spec) (hp : r.isPartial = false) (hr : r.signature = some signature)
      (hn : signature ≠ spec.signature) :
      Does r c (.error (.registration .registrationConflict)) [] r
  | selector (hr : Fresh r) (ht : ¬∀ token ∈ c.backendToken, isCustomBackendToken token) :
      Does r c (.error (.registration .invalidBackendToken)) [] r
  | interrupted (hr : Fresh r) (hl : registries c = .error .interrupt) :
      Does r c (.error .interrupt) [] r
  | unloaded {e : Raised} (hr : Fresh r) (hl : FailsToLoad c) : Does r c (.error e) [] ⟨none, true⟩
  | failed {e : Raised} {token : BackendToken} {path : String} {invoked : List Invocation}
      {r' : Registrar} (hr : Fresh r) (hb : .backend token path ∈ invoked)
      (hr' : r'.signature = none) : Does r c (.error e) invoked r'
  | registered {spec : SelectiveRegistrationSpec} {invoked : List Invocation}
      (hs : c.spec = some spec) (hr : Fresh r) :
      Does r c (.ok ⟨true, false⟩) invoked ⟨some spec.signature, false⟩

theorem register_does (r : Registrar) (c : RegisterCall) :
    Does r c (register c ⟨r, []⟩).1 (register c ⟨r, []⟩).2.invoked
      (register c ⟨r, []⟩).2.registrar := by
  rcases hs : c.spec with - | spec
  · have hrun : register c ⟨r, []⟩ = (.error (.registration .invalidPrerequisites), ⟨r, []⟩) := by
      unfold register
      rw [hs]
      rfl
    rw [hrun]
    exact .unspecified hs
  · obtain ⟨signature, isPartial⟩ := r
    cases isPartial with
    | true =>
      have hrun : register c ⟨⟨signature, true⟩, []⟩ =
          (.error (.registration .partialRegistration), ⟨⟨signature, true⟩, []⟩) := by
        unfold register
        rw [hs]
        rfl
      rw [hrun]
      exact .refused (by rw [hs]; rfl) rfl
    | false =>
      cases signature with
      | some signature =>
        have hrun : register c ⟨⟨some signature, false⟩, []⟩ =
            if signature = spec.signature then (.ok ⟨false, true⟩, ⟨⟨some signature, false⟩, []⟩)
            else (.error (.registration .registrationConflict),
              ⟨⟨some signature, false⟩, []⟩) := by
          unfold register
          rw [hs]
          show (if signature = spec.signature then _ else _ : Call _ _ _) _ = _
          split_ifs
          · rfl
          · rfl
        rw [hrun]
        split_ifs with hsig
        · exact .repeated hs rfl (congrArg some hsig)
        · exact .conflicting hs rfl rfl hsig
      | none =>
        by_cases ht : ∀ token ∈ c.backendToken, isCustomBackendToken token
        · rw [register_fresh hs ht rfl]
          unfold guarded
          rcases hl : registries c with e | ⟨modelRegister, backendRegister, token⟩
          · rw [transaction_unloaded hl]
            cases e with
            | interrupt => exact .interrupted rfl hl
            | exception =>
              exact .unloaded rfl ⟨by rw [hs]; rfl, ht, .inl ⟨_, hl, by decide⟩⟩
            | registration code =>
              exact .unloaded rfl ⟨by rw [hs]; rfl, ht, .inl ⟨_, hl, nofun⟩⟩
          · by_cases hc : isCustomBackendToken token
            · rw [transaction_loaded hl hc]
              cases backendRegister token spec.attentionBackendClassPath with
              | error e =>
                cases e with
                | interrupt => exact .failed rfl List.mem_cons_self rfl
                | exception => exact .failed rfl List.mem_cons_self rfl
                | registration code => exact .failed rfl List.mem_cons_self rfl
              | ok u =>
                dsimp only
                cases modelRegister spec.modelArchitecture spec.modelClassPath with
                | error e =>
                  cases e with
                  | interrupt => exact .failed rfl List.mem_cons_self rfl
                  | exception => exact .failed rfl List.mem_cons_self rfl
                  | registration code => exact .failed rfl List.mem_cons_self rfl
                | ok u => exact .registered hs rfl
            · rw [transaction_token hl hc]
              exact .unloaded rfl ⟨by rw [hs]; rfl, ht, .inr ⟨_, hl, hc⟩⟩
        · have hrun : register c ⟨⟨none, false⟩, []⟩ =
              (.error (.registration .invalidBackendToken), ⟨⟨none, false⟩, []⟩) := by
            unfold register
            rw [hs]
            show (Call.lift (require _ _) >>= _) _ = _
            rw [require_not _ ht]
            rfl
          rw [hrun]
          exact .selector rfl ht

theorem attempt_succeeds (hr : Fresh r) (h : Succeeds c) :
    (attempt r c).outcome = .ok ⟨true, false⟩ := by
  obtain ⟨spec, modelRegister, backendRegister, token, hs, ht, hl, hc, hbackend, hmodel⟩ := h
  unfold attempt
  dsimp only
  rw [register_fresh hs ht hr]
  unfold guarded
  rw [transaction_loaded hl hc, hbackend]
  dsimp only
  rw [hmodel]

end

/-! ## What runs keep -/

section
variable {l : Ledger} {c : RegisterCall}

theorem ledger_concat (calls : List RegisterCall) (c : RegisterCall) :
    ledger (calls ++ [c]) = (ledger calls).next c :=
  List.foldl_concat Ledger.next Ledger.initial c calls

theorem partlyRegistered_next (h : PartlyRegistered l) : PartlyRegistered (l.next c) := by
  obtain ⟨a, ha, hfailed⟩ := h
  exact ⟨a, List.mem_append_left _ ha, hfailed⟩

theorem registered_next_iff (signature : Signature) : Registered (l.next c) signature ↔
    Registered l signature ∨ ((attempt l.registrar c).outcome = .ok ⟨true, false⟩ ∧
      ∃ spec, c.spec = some spec ∧ spec.signature = signature) := by
  unfold Registered Ledger.next
  simp only [List.mem_append, List.mem_singleton, or_and_right, exists_or, exists_eq_left]
  rfl

/-- The registrar holds the signature that has been registered. -/
structure Kept (l : Ledger) : Prop where
  signature : ∀ signature, Registered l signature ↔ l.registrar.signature = some signature
  apart : l.registrar.isPartial → l.registrar.signature = none

theorem kept_initial : Kept Ledger.initial := by
  constructor
  · intro signature
    constructor
    · rintro ⟨a, ha, _⟩
      exact absurd ha List.not_mem_nil
    · intro h
      cases h
  · intro h
    cases h

theorem kept_next (hk : Kept l) : Kept (l.next c) := by
  have hd := register_does l.registrar c
  have hnext : (l.next c).registrar = (register c ⟨l.registrar, []⟩).2.registrar := rfl
  have hadded : ∀ signature, Registered (l.next c) signature ↔ Registered l signature ∨
      ((register c ⟨l.registrar, []⟩).1 = .ok ⟨true, false⟩ ∧
        ∃ spec, c.spec = some spec ∧ spec.signature = signature) := registered_next_iff
  generalize (register c ⟨l.registrar, []⟩).1 = outcome at hd hadded
  generalize (register c ⟨l.registrar, []⟩).2.invoked = invoked at hd
  generalize (register c ⟨l.registrar, []⟩).2.registrar = r' at hd hnext
  -- a call that does not register adds no signature
  have hsame : outcome ≠ .ok ⟨true, false⟩ → r'.signature = l.registrar.signature →
      (r'.isPartial → r'.signature = none) → Kept (l.next c) := by
    intro ho hs hp
    constructor
    · intro signature
      rw [hadded, hnext, hs, ← hk.signature]
      exact or_iff_left fun h => ho h.1
    · rw [hnext]
      exact hp
  cases hd with
  | unspecified => exact hsame nofun rfl hk.apart
  | refused => exact hsame nofun rfl hk.apart
  | repeated => exact hsame nofun rfl hk.apart
  | conflicting => exact hsame nofun rfl hk.apart
  | selector => exact hsame nofun rfl hk.apart
  | interrupted => exact hsame nofun rfl hk.apart
  | unloaded hr =>
    apply hsame nofun _ fun _ => rfl
    rw [hr]
  | failed hr _ hr' =>
    apply hsame nofun _ fun _ => hr'
    rw [hr', hr]
  | @registered spec _ hs hr =>
    constructor
    · intro signature
      have hnone : ¬Registered l signature := by
        rw [hk.signature, hr]
        nofun
      rw [hadded, hnext, hs, or_iff_right hnone]
      simp
    · rw [hnext]
      nofun

theorem kept_ledger (calls : List RegisterCall) : Kept (ledger calls) := by
  induction calls using List.reverseRecOn with
  | nil => exact kept_initial
  | append_singleton calls c ih =>
    rw [ledger_concat]
    exact kept_next ih

theorem poisoned_next (hp : l.registrar.isPartial → PartlyRegistered l) (hl : Loads l c) :
    (l.next c).registrar.isPartial → PartlyRegistered (l.next c) := by
  have hd := register_does l.registrar c
  have hnext : (l.next c).registrar = (register c ⟨l.registrar, []⟩).2.registrar := rfl
  have hlast : (⟨c, (register c ⟨l.registrar, []⟩).1, (register c ⟨l.registrar, []⟩).2.invoked⟩ :
      Attempt) ∈ (l.next c).attempts := List.mem_append_right _ List.mem_cons_self
  generalize (register c ⟨l.registrar, []⟩).1 = outcome at hd hlast
  generalize (register c ⟨l.registrar, []⟩).2.invoked = invoked at hd hlast
  generalize (register c ⟨l.registrar, []⟩).2.registrar = r' at hd hnext
  rw [hnext]
  cases hd with
  | unspecified => exact fun h => partlyRegistered_next (hp h)
  | refused => exact fun h => partlyRegistered_next (hp h)
  | repeated => exact fun h => partlyRegistered_next (hp h)
  | conflicting => exact fun h => partlyRegistered_next (hp h)
  | selector => exact fun h => partlyRegistered_next (hp h)
  | interrupted => exact fun h => partlyRegistered_next (hp h)
  | unloaded hr hf => exact fun _ => partlyRegistered_next (hl hr hf)
  | failed _ hb => exact fun _ => ⟨_, hlast, ⟨_, rfl⟩, _, _, hb⟩
  | registered => nofun

theorem attempt_does (r : Registrar) (c : RegisterCall) :
    ∃ r', Does r c (attempt r c).outcome (attempt r c).invoked r' := ⟨_, register_does r c⟩

theorem attempt_registered {r : Registrar} {spec : SelectiveRegistrationSpec}
    {signature : Signature} (hr : r.signature = some signature) (hp : ¬r.isPartial)
    (hs : c.spec = some spec) :
    signature = spec.signature ∧ (attempt r c).outcome = .ok ⟨false, true⟩ ∧
        (attempt r c).invoked = [] ∨
      signature ≠ spec.signature ∧
        (attempt r c).outcome = .error (.registration .registrationConflict) := by
  have hfresh : ¬Fresh r := by
    rintro rfl
    cases hr
  obtain ⟨r', hd⟩ := attempt_does r c
  generalize (attempt r c).outcome = outcome at hd ⊢
  generalize (attempt r c).invoked = invoked at hd ⊢
  cases hd with
  | unspecified hs' =>
    rw [hs] at hs'
    cases hs'
  | refused _ hpartial => exact absurd hpartial hp
  | repeated hs' _ hr' =>
    obtain rfl := Option.some.inj (hs.symm.trans hs')
    exact .inl ⟨Option.some.inj (hr.symm.trans hr'), rfl, rfl⟩
  | conflicting hs' _ hr' hn =>
    obtain rfl := Option.some.inj (hs.symm.trans hs')
    obtain rfl := Option.some.inj (hr.symm.trans hr')
    exact .inr ⟨hn, rfl⟩
  | selector h => exact absurd h hfresh
  | interrupted h => exact absurd h hfresh
  | unloaded h => exact absurd h hfresh
  | failed h => exact absurd h hfresh
  | registered _ h => exact absurd h hfresh

theorem promise_of_kept (hk : Kept l) (hp : l.registrar.isPartial → PartlyRegistered l)
    (hl : Loads l c) : Promise l c := by
  have hsound : ∀ {signature}, Registered l signature → ¬l.registrar.isPartial := by
    intro signature h hpartial
    have hs := (hk.signature signature).mp h
    rw [hk.apart hpartial] at hs
    cases hs
  constructor
  · intro h
    unfold InvokedBackend
    obtain ⟨r', hd⟩ := attempt_does l.registrar c
    generalize (attempt l.registrar c).outcome = outcome at hd h
    generalize (attempt l.registrar c).invoked = invoked at hd ⊢
    cases hd with
    | refused _ hpartial => exact .inl (hp hpartial)
    | unloaded hr hf => exact .inl (hl hr hf)
    | failed _ hb => exact .inr ⟨_, _, hb⟩
    | _ => cases h
  · intro hparted hnone hvalid
    apply attempt_succeeds _ hvalid
    have hsignature : l.registrar.signature = none := by
      apply Option.eq_none_iff_forall_ne_some.mpr
      intro s hs
      exact hnone s ((hk.signature s).mpr hs)
    have hpartial : l.registrar.isPartial = false :=
      Bool.eq_false_iff.mpr fun h => hparted (hp h)
    unfold Fresh
    rw [← hsignature, ← hpartial]
  · intro spec hs h
    obtain ⟨_, hrun⟩ | ⟨hne, _⟩ := attempt_registered ((hk.signature _).mp h) (hsound h) hs
    · exact hrun
    · exact absurd rfl hne
  · intro spec signature hs h hne
    obtain ⟨he, _⟩ | ⟨_, hrun⟩ := attempt_registered ((hk.signature _).mp h) (hsound h) hs
    · exact absurd he hne
    · exact hrun

end

theorem register_unloaded {r : Registrar} {c : RegisterCall} (hr : Fresh r) (hf : FailsToLoad c) :
    ∃ e, register c ⟨r, []⟩ = (.error e, ⟨⟨none, true⟩, []⟩) := by
  obtain ⟨hs, ht, hload⟩ := hf
  obtain ⟨spec, hs⟩ := Option.isSome_iff_exists.mp hs
  obtain rfl := hr
  rw [register_fresh hs ht rfl]
  unfold guarded
  obtain ⟨e, hl, hne⟩ | ⟨⟨modelRegister, backendRegister, token⟩, hl, hc⟩ := hload
  · rw [transaction_unloaded hl]
    cases e with
    | interrupt => exact absurd rfl hne
    | exception => exact ⟨_, rfl⟩
    | registration code => exact ⟨_, rfl⟩
  · rw [transaction_token hl hc]
    exact ⟨_, rfl⟩

theorem next_unloaded {l : Ledger} {c : RegisterCall} (hr : Fresh l.registrar)
    (hf : FailsToLoad c) : (l.next c).registrar.isPartial ∧
      (PartlyRegistered (l.next c) → PartlyRegistered l) := by
  obtain ⟨e, hrun⟩ := register_unloaded hr hf
  unfold Ledger.next attempt
  rw [hrun]
  refine ⟨rfl, ?_⟩
  rintro ⟨a, ha, hfailed, hinvoked⟩
  obtain ha | ha := List.mem_append.mp ha
  · exact ⟨a, ha, hfailed, hinvoked⟩
  · obtain rfl := List.mem_singleton.mp ha
    obtain ⟨token, path, hmem⟩ := hinvoked
    exact absurd hmem List.not_mem_nil

theorem poisoned_ledger (calls : List RegisterCall)
    (h : ∀ before c, before ++ [c] <+: calls → Loads (ledger before) c) :
    (ledger calls).registrar.isPartial → PartlyRegistered (ledger calls) := by
  induction calls using List.reverseRecOn with
  | nil => nofun
  | append_singleton calls c ih =>
    rw [ledger_concat]
    apply poisoned_next _ (h calls c List.prefix_rfl)
    exact ih fun before c' hb => h before c' (hb.trans (List.prefix_append calls [c]))

/-- A call with the specification of another one and registries that accept it. -/
def injected (spec : SelectiveRegistrationSpec) : RegisterCall where
  spec := some spec
  modelRegister := some (fun _ _ => .ok ())
  backendRegister := some (fun _ _ => .ok ())
  backendToken := some (.text customAttentionBackendName)
  modelsModule := .error .exception
  registryModule := .error .exception

theorem injected_succeeds (spec : SelectiveRegistrationSpec) : Succeeds (injected spec) :=
  ⟨spec, _, _, _, rfl, by simp [injected, isCustomBackendToken], rfl, rfl, rfl, rfl⟩

/-- Every call after the calls of a run keeps its promise exactly when no call
of the run fails to load the registries of a fresh registrar. -/
theorem registrar_promise (calls : List RegisterCall) :
    (∀ before, before <+: calls → ∀ c, Loads (ledger before) c → Promise (ledger before) c) ↔
      ∀ before c, before ++ [c] <+: calls → Loads (ledger before) c := by
  constructor
  · intro h before c hc hr hf
    by_contra hn
    obtain ⟨hpoisoned, hback⟩ := next_unloaded hr hf
    obtain ⟨spec, hs⟩ := Option.isSome_iff_exists.mp hf.1
    have hledger := ledger_concat before c
    have hfresh : ¬Fresh (ledger (before ++ [c])).registrar := by
      intro hfresh
      rw [← hledger, hfresh] at hpoisoned
      cases hpoisoned
    have hpromise := h _ hc (injected spec) fun hr' => absurd hr' hfresh
    have hkept := kept_ledger (before ++ [c])
    have hok := hpromise.registers (fun hp => hn (hback (hledger ▸ hp))) (fun s hs => by
      have hsig := (hkept.signature s).mp hs
      rw [hkept.apart (hledger ▸ hpoisoned)] at hsig
      cases hsig) (injected_succeeds spec)
    obtain ⟨r', hd⟩ := attempt_does (ledger (before ++ [c])).registrar (injected spec)
    rw [hok] at hd
    cases hd with
    | registered _ h => exact hfresh h
  · intro h before hb c hl
    apply promise_of_kept (kept_ledger before) _ hl
    exact poisoned_ledger before fun first c' hfirst => h first c' (hfirst.trans hb)

/-! ## A failed import -/

def zeroDigest : String := String.ofList (List.replicate 64 '0')

def readyEvidence : SelectiveGateEvidence where
  runtimeDigest := zeroDigest
  fullPrefillDigest := zeroDigest
  transferDigest := zeroDigest
  yarnDigest := zeroDigest
  hybridSinkDigest := zeroDigest
  digests := by decide

def readySpec : SelectiveRegistrationSpec where
  prerequisites := ⟨true, true, true, true, some readyEvidence⟩
  modelClassPath := "cacheblend_gpt_oss.vllm_compat.v0_19_1.selective_model:SelectiveModel"
  attentionBackendClassPath :=
    "cacheblend_gpt_oss.vllm_compat.v0_19_1.selective_backend.SelectiveBackend"
  modelArchitecture := gptOssModelArchitecture
  architecture := rfl
  ready := rfl

def unavailable : RegisterCall where
  spec := some readySpec
  modelRegister := none
  backendRegister := none
  backendToken := none
  modelsModule := .error .exception
  registryModule := .error .exception

/-- After a failed import no registry function has been invoked, and a valid
call is refused as a partial registration. -/
theorem failed_import_poisons : Succeeds (injected readySpec) ∧
    ¬PartlyRegistered (ledger [unavailable]) ∧
    (attempt (ledger [unavailable]).registrar (injected readySpec)).outcome =
      .error (.registration .partialRegistration) := by
  refine ⟨injected_succeeds readySpec, ?_, rfl⟩
  have hloads : FailsToLoad unavailable :=
    ⟨rfl, nofun, .inl ⟨.exception, rfl, by decide⟩⟩
  intro h
  have hback := (next_unloaded (l := Ledger.initial) rfl hloads).2 h
  obtain ⟨a, ha, _⟩ := hback
  exact absurd ha List.not_mem_nil

end CacheBlend.SelectiveRegistry
