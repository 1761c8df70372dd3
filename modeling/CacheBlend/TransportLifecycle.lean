import CacheBlend.Calls
import Mathlib.Data.List.Basic
import Mathlib.Order.Basic

/-!
# The lifecycle of the LMCache transport

A failed request makes the transport terminal, and only a close leaves that
state. A close tries once to unregister a staging buffer and once to close the
message queue. It ends in the closed state whether these succeed or not.
-/

set_option autoImplicit false

namespace CacheBlend.TransportLifecycle

inductive LmcacheTransportState where
  | created
  | ready
  | registered
  | failed
  | closed
  deriving DecidableEq

def LmcacheTransportState.value : LmcacheTransportState → String
  | .created => "created"
  | .ready => "ready"
  | .registered => "registered"
  | .failed => "failed"
  | .closed => "closed"

inductive LmcacheTransportError where
  | lifecycle (message : String)
  | operation (message : String)
  | close (message : String)
  deriving DecidableEq

/-- How the queue treats one request. A request that fails may have been
carried out by the server or not. -/
inductive QueueOutcome where
  | answered
  | invalid (carriedOut : Bool)
  | raised (carriedOut : Bool)
  deriving DecidableEq

def QueueOutcome.reachesServer : QueueOutcome → Bool
  | .answered => true
  | .invalid carriedOut | .raised carriedOut => carriedOut

structure LmcacheBlendTransport where
  state : LmcacheTransportState
  registration : Option ℕ
  /-- A close of the message queue has succeeded. -/
  queueClosed : Bool
  deriving DecidableEq

/-- The transport, the instances that the server has registered, and the
outcomes of the coming requests. After these every request is answered. -/
structure Link where
  transport : LmcacheBlendTransport
  registered : List ℕ
  pending : List QueueOutcome
  deriving DecidableEq

abbrev TransportCall (α : Type) : Type := Call Link LmcacheTransportError α

namespace Link

def nextOutcome (l : Link) : QueueOutcome := l.pending.headD .answered

def advance (l : Link) : Link := { l with pending := l.pending.tail }

def submitUnregister (l : Link) (instanceId : ℕ) : Link :=
  if l.nextOutcome.reachesServer = true then
    { l.advance with registered := l.registered.filter (· ≠ instanceId) }
  else l.advance

def withTransport (l : Link) (transport : LmcacheBlendTransport) : Link :=
  { l with transport := transport }

@[simp] theorem advance_transport (l : Link) : l.advance.transport = l.transport := rfl

@[simp] theorem submitUnregister_transport (l : Link) (instanceId : ℕ) :
    (l.submitUnregister instanceId).transport = l.transport := by
  unfold submitUnregister
  split_ifs <;> rfl

end Link

/-- `_require_state` of one allowed state. -/
def requireState (allowed : LmcacheTransportState) : TransportCall PUnit := fun l =>
  if l.transport.state = allowed then (.ok ⟨⟩, l)
  else (.error (.lifecycle ("operation requires state " ++ allowed.value ++
    "; current state is " ++ l.transport.state.value)), l)

/-- `_fail`. -/
def fail (message : String) : TransportCall PUnit := fun l =>
  (.error (.operation message),
    l.withTransport { l.transport with state := .failed })

/-- The request of `unregister_staging_buffer` and the check of its response. -/
def requestUnregister (instanceId : ℕ) : TransportCall PUnit := fun l =>
  let sent := l.submitUnregister instanceId
  match l.nextOutcome with
  | .answered => (.ok ⟨⟩, sent.withTransport
      { sent.transport with registration := none, state := .ready })
  | .invalid _ => fail "CB_UNREGISTER_KV_CACHE returned an invalid response" sent
  | .raised _ => fail "LMCache CB_UNREGISTER_KV_CACHE request failed" sent

/-- `unregister_staging_buffer`. -/
def unregisterStagingBuffer : TransportCall PUnit := do
  let _ ← requireState .registered
  let l ← Call.read
  match l.transport.registration with
  | none => fail "registered state has no staging registration"
  | some instanceId => requestUnregister instanceId

/-- The unregister attempt of `close`, with the failures it adds. -/
def closeRegistration (l : Link) : List String × Link :=
  match l.transport.registration with
  | none => ([], l)
  | some instanceId =>
    let sent := l.submitUnregister instanceId
    match l.nextOutcome with
    | .answered => ([], sent)
    | .invalid _ => (["unregister returned an invalid response"], sent)
    | .raised _ => (["unregister failed"], sent)

/-- The queue close of `close`, with the failures it adds. -/
def closeQueue (l : Link) : List String × Link :=
  if l.nextOutcome = .answered then
    ([], l.advance.withTransport { l.transport with queueClosed := true })
  else (["message queue close failed"], l.advance)

/-- `close`. -/
def close : TransportCall PUnit := fun l =>
  if l.transport.state = .closed then (.ok ⟨⟩, l)
  else
    let unregistered := closeRegistration l
    let queue := closeQueue unregistered.2
    let failures := unregistered.1 ++ queue.1
    let closed := queue.2.withTransport
      { queue.2.transport with registration := none, state := .closed }
    if failures = [] then (.ok ⟨⟩, closed)
    else (.error (.close ("; ".intercalate failures)), closed)

/-! ## What a call does -/

theorem unregister_refused {l : Link} (h : l.transport.state ≠ .registered) :
    ∃ e, unregisterStagingBuffer l = (.error e, l) := by
  have hrefused : ∃ e, requireState .registered l = (.error e, l) := ⟨_, if_neg h⟩
  obtain ⟨e, he⟩ := hrefused
  exact ⟨e, Call.bind_run_error _ he⟩

theorem unregister_registered {l : Link} {instanceId : ℕ}
    (hs : l.transport.state = .registered) (hr : l.transport.registration = some instanceId) :
    unregisterStagingBuffer l = requestUnregister instanceId l := by
  have hrequired : requireState .registered l = (.ok ⟨⟩, l) := if_pos hs
  unfold unregisterStagingBuffer
  rw [Call.bind_run_ok _ hrequired, Call.read_bind, hr]

theorem requestUnregister_fails {l : Link} (instanceId : ℕ) (h : l.nextOutcome ≠ .answered) :
    ∃ e, requestUnregister instanceId l = (.error e, (l.submitUnregister instanceId).withTransport
      { l.transport with state := .failed }) := by
  have hfail : ∀ message, fail message (l.submitUnregister instanceId) =
      (.error (.operation message), (l.submitUnregister instanceId).withTransport
        { l.transport with state := .failed }) := by
    intro message
    unfold fail
    rw [Link.submitUnregister_transport]
  unfold requestUnregister
  cases ho : l.nextOutcome with
  | answered => exact absurd ho h
  | invalid carriedOut => exact ⟨_, hfail _⟩
  | raised carriedOut => exact ⟨_, hfail _⟩

theorem closed_close {l : Link} (h : l.transport.state = .closed) :
    close l = (.ok ⟨⟩, l) := if_pos h

theorem close_closes (l : Link) : (close l).2.transport.state = .closed := by
  unfold close
  split_ifs with h
  · exact h
  · dsimp only
    split_ifs <;> rfl

theorem close_unregistered {l : Link} (hs : l.transport.state ≠ .closed)
    (hr : l.transport.registration = none) :
    ((∃ u, (close l).1 = .ok u) ↔ l.nextOutcome = .answered) ∧
      (close l).2.transport.queueClosed =
        (l.transport.queueClosed || l.nextOutcome = .answered) := by
  unfold close closeRegistration closeQueue
  rw [if_neg hs, hr]
  dsimp only [List.nil_append]
  by_cases ho : l.nextOutcome = .answered
  · rw [if_pos ho]
    simp [ho, Link.withTransport]
  · rw [if_neg ho]
    simp [ho, Link.withTransport]

end CacheBlend.TransportLifecycle
