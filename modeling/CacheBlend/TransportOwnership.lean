import CacheBlend.LookupPlans
import CacheBlend.RuntimeLookups
import CacheBlend.Runs
import CacheBlend.TransportLifecycle

/-!
# Ownership of the scheduler's transports

The lookup runtime closes the transport it holds and every replacement it
rejects. It keeps a held transport whose close failed, so that a later close
can try again. The ledger beside the runtime records, for every transport it
was given, whether a close of it has succeeded.
-/

set_option autoImplicit false

namespace CacheBlend.TransportOwnership
open CacheBlend.PlannerModels CacheBlend.LmcacheTypes CacheBlend.CandidateLookup
open CacheBlend.SchedulerRuntime CacheBlend.RuntimeLookups

/-- A transport of the repository, or another one behind the same interface
that stays open until a close of it succeeds. -/
inductive TransportKind where
  | lmcacheBlend
  | other
  deriving DecidableEq

structure OwnedTransport where
  kind : TransportKind
  /-- The lifecycle of an LMCache transport has ended. -/
  closed : Bool
  /-- A close has succeeded: for an LMCache transport, that of its queue. -/
  released : Bool
  deriving DecidableEq

/-- Whether a close returns, and the transport after it. -/
def OwnedTransport.close (closes : Bool) (t : OwnedTransport) : Bool × OwnedTransport :=
  match t.kind with
  | .lmcacheBlend =>
    if t.closed = true then (true, t)
    else (closes, { t with closed := true, released := t.released || closes })
  | .other => (closes, { t with released := t.released || closes })

def recordOf (t : TransportLifecycle.LmcacheBlendTransport) : OwnedTransport :=
  ⟨.lmcacheBlend, t.state = .closed, t.queueClosed⟩

/-- The ledger's close is the close of an LMCache transport without staging buffer. -/
theorem close_recorded (l : TransportLifecycle.Link)
    (hr : l.transport.registration = none) :
    ((recordOf l.transport).close (l.nextOutcome = .answered)).2 =
        recordOf (TransportLifecycle.close l).2.transport ∧
      (((recordOf l.transport).close (l.nextOutcome = .answered)).1 = true ↔
        ∃ u, (TransportLifecycle.close l).1 = .ok u) := by
  by_cases hs : l.transport.state = .closed
  · rw [TransportLifecycle.closed_close hs]
    simp [recordOf, OwnedTransport.close, hs]
  · obtain ⟨hreturn, hqueue⟩ := TransportLifecycle.close_unregistered hs hr
    rw [hreturn]
    have hclosed := TransportLifecycle.close_closes l
    simp [recordOf, OwnedTransport.close, hs, hclosed, hqueue]

/-- A transport that the replacement factory returns: a new object or one
that was received before. -/
structure Received where
  identity : ℕ
  kind : TransportKind
  validConfig : Bool
  deriving DecidableEq

/-- The answers of the transports, the factory and the sidecar in one lookup. -/
structure OwnedEnvironment where
  opened : Except TransportFailure Unit
  heldCloses : Bool
  factory : Except TransportFailure Received
  replacementCloses : Bool
  candidates : Except TransportFailure (List LmcacheCandidate)
  records : RecordLookup

abbrev Ledger := Dict ℕ OwnedTransport

structure OwnedRuntime where
  runtime : SchedulerLookupRuntime
  ledger : Ledger
  held : ℕ
  deriving DecidableEq

def OwnedRuntime.initial (kind : TransportKind) : OwnedRuntime :=
  ⟨.initial, Dict.empty.set 0 ⟨kind, false, false⟩, 0⟩

def closeAt (identity : ℕ) (closes : Bool) (ledger : Ledger) : Bool × Ledger :=
  match ledger.get? identity with
  | some t => ((t.close closes).1, ledger.set identity (t.close closes).2)
  | none => (closes, ledger)

theorem closeAt_known {identity : ℕ} {ledger : Ledger} {t : OwnedTransport} (closes : Bool)
    (h : ledger.get? identity = some t) : closeAt identity closes ledger =
      ((t.close closes).1, ledger.set identity (t.close closes).2) := by
  unfold closeAt
  rw [h]

/-- The ledger with a received transport, which may be known already. -/
def receive (received : Received) (ledger : Ledger) : Ledger :=
  if (ledger.get? received.identity).isSome = true then ledger
  else ledger.set received.identity ⟨received.kind, false, false⟩

namespace OwnedRuntime

def closeHeld (closes : Bool) (s : OwnedRuntime) : Bool × Ledger :=
  if s.runtime.transportNeedsClose = true then closeAt s.held closes s.ledger
  else (true, s.ledger)

def closeReplacement (env : OwnedEnvironment) (received : Received) (s : OwnedRuntime) :
    Bool × Ledger :=
  closeAt received.identity env.replacementCloses
    (receive received (s.closeHeld env.heldCloses).2)

def observed (env : OwnedEnvironment) (s : OwnedRuntime) : Environment where
  opened := env.opened
  closes := (s.closeHeld env.heldCloses).1
  replaced := env.factory.map (fun received =>
    if received.identity = s.held then .same
    else if received.validConfig = true then .fresh
    else .invalidConfig (s.closeReplacement env received).1)
  candidates := env.candidates
  records := env.records

/-- The ledger and the held transport after `_retry_degraded_transport_once`. -/
def afterRetry (env : OwnedEnvironment) (s : OwnedRuntime) : Ledger × ℕ :=
  let first := s.closeHeld env.heldCloses
  if first.1 = false then (first.2, s.held)
  else match env.factory with
  | .error _ => (first.2, s.held)
  | .ok received =>
    if received.identity = s.held then (first.2, s.held)
    else if received.validConfig = true then (receive received first.2, received.identity)
    else ((s.closeReplacement env received).2, s.held)

end OwnedRuntime

/-- A lookup that replaces the transport of a degraded runtime. -/
def Retries (config : RuntimeConfig) (rt : SchedulerLookupRuntime)
    (request : SchedulerLookupRequest) : Prop :=
  rt.state = .degraded ∧ rt.requests.get? request.requestId = none ∧
    SchedulerLookupRuntime.eligibilityStatus config request = none

instance (config : RuntimeConfig) (rt : SchedulerLookupRuntime)
    (request : SchedulerLookupRequest) : Decidable (Retries config rt request) :=
  inferInstanceAs (Decidable (_ ∧ _))

inductive OwnedEvent where
  | lookup (env : OwnedEnvironment) (request : SchedulerLookupRequest)
  | discard (requestId : String)
  | close (closes : Bool)

section
variable (sha256 : Bytes → Digest) (config : RuntimeConfig)

def lookupOwned (env : OwnedEnvironment) (request : SchedulerLookupRequest) (s : OwnedRuntime) :
    Except SchedulerRuntimeError SchedulerLookupMetadata × OwnedRuntime :=
  let answer := SchedulerLookupRuntime.lookup sha256 config (s.observed env) request s.runtime
  let owned := if Retries config s.runtime request then s.afterRetry env else (s.ledger, s.held)
  (answer.1, ⟨answer.2, owned.1, owned.2⟩)

/-- `close`. The transport is asked only while its close is due. -/
def closeOwned (closes : Bool) (s : OwnedRuntime) :
    Except SchedulerRuntimeError Unit × OwnedRuntime :=
  let attempt := if s.runtime.state = .closed then (true, s.ledger) else s.closeHeld closes
  let answer := SchedulerLookupRuntime.close attempt.1 s.runtime
  (answer.1, ⟨answer.2, attempt.2, s.held⟩)

def ownedStep (s : OwnedRuntime) : OwnedEvent → OwnedRuntime
  | .lookup env request => (lookupOwned sha256 config env request s).2
  | .discard requestId =>
    { s with runtime := (SchedulerLookupRuntime.discard requestId s.runtime).2 }
  | .close closes => (closeOwned closes s).2

end

/-! ## What a lookup does to the duty to close -/

/-- The duty to close stands as it is and the runtime is not closed. -/
def Open (due : Bool) (rt : SchedulerLookupRuntime) : Prop :=
  rt.transportNeedsClose = due ∧ rt.state ≠ .closed

section
variable {sha256 : Bytes → Digest} {config : RuntimeConfig} {due : Bool}

theorem open_markFatal {rt : SchedulerLookupRuntime} (status : SchedulerLookupStatus)
    (h : Open due rt) : Open due (rt.markFatal status) :=
  ⟨h.1, SchedulerRuntimeState.noConfusion⟩

theorem open_mark {rt : SchedulerLookupRuntime} (status : SchedulerLookupStatus)
    (h : Open due rt) : Open due (rt.mark status) := by
  unfold SchedulerLookupRuntime.mark
  split_ifs
  · exact open_markFatal status h
  · exact h

theorem keeps_finishLookup (request : SchedulerLookupRequest) (status : SchedulerLookupStatus)
    (lookupPlan : LmcacheLookupPlan) (windows : List TokenRange) :
    Call.Keeps (Open due)
      (SchedulerLookupRuntime.finishLookup request status lookupPlan windows) := by
  refine Call.keeps_bind (Call.keeps_lift _ _) fun metadata => ?_
  split_ifs
  · exact fun _ h => h
  · exact fun _ h => h

theorem open_askCandidates (env : Environment) (request : SchedulerLookupRequest) (windows : ℕ)
    {rt : SchedulerLookupRuntime} (h : Open due rt) :
    Open due (rt.askCandidates sha256 config env request windows).2 := by
  unfold SchedulerLookupRuntime.askCandidates
  split
  · exact ⟨h.1, SchedulerRuntimeState.noConfusion⟩
  · exact open_markFatal _ h
  · exact open_mark _ h

theorem keeps_openTransport (env : Environment) :
    Call.Keeps (Open due) (SchedulerLookupRuntime.openTransport env) := by
  intro rt h
  unfold SchedulerLookupRuntime.openTransport
  split
  · exact h
  · exact h
  · exact h
  · exact h
  · split
    · exact ⟨h.1, SchedulerRuntimeState.noConfusion⟩
    · exact ⟨h.1, SchedulerRuntimeState.noConfusion⟩
    · exact open_markFatal _ h

theorem keeps_repeatOrPreempt (existing : StoredRequest) (request : SchedulerLookupRequest) :
    Call.Keeps (Open due) (SchedulerLookupRuntime.repeatOrPreempt existing request) := by
  unfold SchedulerLookupRuntime.repeatOrPreempt
  split_ifs
  · exact fun _ h => h
  · exact Call.keeps_bind (fun _ h => open_markFatal _ h) fun _ => Call.keeps_lift _ _
  · exact Call.keeps_bind (Call.keeps_lift _ _) fun _ _ h => h

theorem lookup_open (sha256 : Bytes → Digest) (env : Environment) (request : SchedulerLookupRequest)
    {rt : SchedulerLookupRuntime} (hs : rt.state ≠ .closed)
    (hopen : Open due (if Retries config rt request then
      (SchedulerLookupRuntime.retryDegradedTransportOnce env rt).2 else rt)) :
    Open due (SchedulerLookupRuntime.lookup sha256 config env request rt).2 := by
  unfold SchedulerLookupRuntime.lookup
  rw [Call.read_bind, if_neg hs]
  by_cases hf : rt.state = .fatal
  · have hno : ¬Retries config rt request := by
      rintro ⟨hd, _⟩
      rw [hf] at hd
      cases hd
    rw [if_neg hno] at hopen
    rw [if_pos hf]
    exact hopen
  rw [if_neg hf]
  cases hg : rt.requests.get? request.requestId with
  | some existing =>
    have hno : ¬Retries config rt request := by
      rintro ⟨_, hn, _⟩
      rw [hg] at hn
      cases hn
    rw [if_neg hno] at hopen
    exact keeps_repeatOrPreempt existing request rt hopen
  | none =>
    dsimp only
    unfold SchedulerLookupRuntime.firstLookup
    cases he : SchedulerLookupRuntime.eligibilityStatus config request with
    | some status =>
      have hno : ¬Retries config rt request := by
        rintro ⟨_, _, hn⟩
        rw [he] at hn
        cases hn
      rw [if_neg hno] at hopen
      exact Call.keeps_bind (fun _ h => open_mark _ h)
        (fun _ => keeps_finishLookup _ _ _ _) rt hopen
    | none =>
      have hready : Open due (SchedulerLookupRuntime.readyTransport env rt).2 := by
        unfold SchedulerLookupRuntime.readyTransport
        rw [Call.read_bind]
        by_cases hd : rt.state = .degraded
        · rw [if_pos ⟨hd, hg, he⟩] at hopen
          rw [hd]
          exact hopen
        · rw [if_neg fun hr => hd hr.1] at hopen
          cases hst : rt.state with
          | created => exact keeps_openTransport env rt hopen
          | degraded => exact absurd hst hd
          | ready => exact hopen
          | fatal => exact hopen
          | closed => exact hopen
      -- what follows the ready transport keeps the duty
      dsimp only
      rw [Call.bind_run]
      rcases hr : SchedulerLookupRuntime.readyTransport env rt with ⟨e | state, rt'⟩ <;>
        rw [hr] at hready
      · exact hready
      · dsimp only
        split_ifs
        · exact keeps_finishLookup _ _ _ _ rt' hready
        · exact hready
        · rw [Call.read_bind]
          exact keeps_finishLookup _ _ _ _ _ (open_askCandidates _ _ _ hready)

theorem lookup_closed (env : Environment) (request : SchedulerLookupRequest)
    {rt : SchedulerLookupRuntime} (hs : rt.state = .closed) :
    (SchedulerLookupRuntime.lookup sha256 config env request rt).2 = rt := by
  unfold SchedulerLookupRuntime.lookup
  rw [Call.read_bind, if_pos hs]
  rfl

theorem retry_open (env : Environment) (rt : SchedulerLookupRuntime) :
    Open (if rt.transportNeedsClose = true ∧ env.closes = false then true
      else env.replaced.toOption = some .fresh)
      (SchedulerLookupRuntime.retryDegradedTransportOnce env rt).2 := by
  have hretry : SchedulerLookupRuntime.retryDegradedTransportOnce env rt =
      if rt.transportNeedsClose = true ∧ env.closes = false then
        (.ok .fatal, rt.markFatal .fatalTransportCleanup)
      else SchedulerLookupRuntime.replaceTransport env { rt with transportNeedsClose := false } :=
    rfl
  rw [hretry]
  split_ifs with hc
  · exact ⟨hc.1, SchedulerRuntimeState.noConfusion⟩
  · unfold SchedulerLookupRuntime.replaceTransport
    split
    · next h =>
      rw [h]
      exact ⟨rfl, SchedulerRuntimeState.noConfusion⟩
    · next h =>
      rw [h]
      exact ⟨rfl, SchedulerRuntimeState.noConfusion⟩
    · next h =>
      rw [h]
      exact ⟨rfl, SchedulerRuntimeState.noConfusion⟩
    · next h =>
      rw [h]
      exact ⟨rfl, SchedulerRuntimeState.noConfusion⟩
    · next h =>
      rw [h]
      exact keeps_openTransport env _ ⟨rfl, SchedulerRuntimeState.noConfusion⟩

end

/-! ## What every step keeps -/

/-- No transport is lost: each one has been released, or it is the held one
and its close is due. -/
structure Accounted (s : OwnedRuntime) : Prop where
  held : ∃ t, s.ledger.get? s.held = some t
  owned : ∀ identity t, s.ledger.get? identity = some t →
    t.released = true ∨ (identity = s.held ∧ s.runtime.transportNeedsClose = true)
  retryable : ∀ identity t, s.ledger.get? identity = some t → t.kind = .lmcacheBlend →
    t.closed = true → t.released = true
  finished : s.runtime.state = .closed → s.runtime.transportNeedsClose = false

/-- A close of the held transport does not fail in the queue of an LMCache transport. -/
def QueueCloses (closes : Bool) (s : OwnedRuntime) : Prop :=
  ∀ t, s.ledger.get? s.held = some t → t.kind = .lmcacheBlend → t.released = true ∨ closes = true

/-- The close of a replacement that is rejected does not fail. -/
def RejectedCloses (env : OwnedEnvironment) (s : OwnedRuntime) : Prop :=
  ∀ received, env.factory = .ok received → received.identity ≠ s.held →
    received.validConfig = false → env.replacementCloses = true ∨
      ∃ t, s.ledger.get? received.identity = some t ∧ t.released = true

def Careful (config : RuntimeConfig) (s : OwnedRuntime) : OwnedEvent → Prop
  | .lookup env request => Retries config s.runtime request →
    (s.runtime.transportNeedsClose = true → QueueCloses env.heldCloses s) ∧
      ((s.closeHeld env.heldCloses).1 = true → RejectedCloses env s)
  | .discard _ => True
  | .close closes => s.runtime.state ≠ .closed → s.runtime.transportNeedsClose = true →
    QueueCloses closes s

theorem initial_accounted (kind : TransportKind) : Accounted (OwnedRuntime.initial kind) where
  held := ⟨_, Dict.get?_set_self _ _ _⟩
  owned identity t h := by
    by_cases hid : identity = 0
    · exact .inr ⟨hid, rfl⟩
    · change (Dict.empty.set 0 _).get? identity = some t at h
      rw [Dict.get?_set_ne _ _ hid] at h
      cases h
  retryable identity t h _ hc := by
    change (Dict.empty.set 0 _).get? identity = some t at h
    rw [Dict.get?_set] at h
    split_ifs at h
    · cases h
      cases hc
    · cases h
  finished h := by cases h

theorem close_releases {t : OwnedTransport} {closes : Bool}
    (hr : t.kind = .lmcacheBlend → t.closed = true → t.released = true)
    (h : (t.close closes).1 = true) : (t.close closes).2.released = true := by
  obtain ⟨kind, closed, released⟩ := t
  cases kind with
  | lmcacheBlend =>
    cases closed with
    | true => exact hr rfl rfl
    | false =>
      change closes = true at h
      subst h
      exact Bool.or_true _
  | other =>
    change closes = true at h
    subst h
    exact Bool.or_true _

theorem close_kind (t : OwnedTransport) (closes : Bool) : (t.close closes).2.kind = t.kind := by
  unfold OwnedTransport.close
  split
  · split_ifs <;> rfl
  · rfl

theorem close_keeps_released {t : OwnedTransport} (closes : Bool) (h : t.released = true) :
    (t.close closes).2.released = true := by
  unfold OwnedTransport.close
  split
  · split_ifs
    · exact h
    · show (t.released || closes) = true
      rw [h, Bool.true_or]
  · show (t.released || closes) = true
    rw [h, Bool.true_or]

/-- What is known of the ledger once the close that is due has been tried. -/
structure HeldClosed (s : OwnedRuntime) (r : Bool × Ledger) : Prop where
  held : ∃ t, r.2.get? s.held = some t
  owned : ∀ identity t, r.2.get? identity = some t →
    t.released = true ∨ (identity = s.held ∧ r.1 = false)
  retryable : ∀ identity t, r.2.get? identity = some t → t.kind = .lmcacheBlend →
    t.closed = true → t.released = true
  due : r.1 = false → s.runtime.transportNeedsClose = true
  known : ∀ identity t, s.ledger.get? identity = some t → t.released = true →
    ∃ t', r.2.get? identity = some t' ∧ t'.released = true

theorem closeHeld_accounted {s : OwnedRuntime} {closes : Bool} (h : Accounted s)
    (hq : s.runtime.transportNeedsClose = true → QueueCloses closes s) :
    HeldClosed s (s.closeHeld closes) := by
  unfold OwnedRuntime.closeHeld
  by_cases hdue : s.runtime.transportNeedsClose = true
  · obtain ⟨t, ht⟩ := h.held
    have hretry := h.retryable s.held t ht
    rw [if_pos hdue, closeAt_known closes ht]
    refine ⟨⟨_, Dict.get?_set_self _ _ _⟩, ?_, ?_, fun _ => hdue, ?_⟩
    · intro identity t' ht'
      by_cases hid : identity = s.held
      · subst hid
        rw [Dict.get?_set_self] at ht'
        cases ht'
        cases hc : (t.close closes).1 with
        | false => exact .inr ⟨rfl, rfl⟩
        | true => exact .inl (close_releases hretry hc)
      · rw [Dict.get?_set_ne _ _ hid] at ht'
        exact (h.owned identity t' ht').imp id fun hh => absurd hh.1 hid
    · intro identity t' ht' hkind hclosed
      by_cases hid : identity = s.held
      · subst hid
        rw [Dict.get?_set_self] at ht'
        cases ht'
        rw [close_kind] at hkind
        obtain hrel | hcl := hq hdue t ht hkind
        · exact close_keeps_released closes hrel
        · refine close_releases hretry ?_
          unfold OwnedTransport.close
          rw [hkind, hcl]
          dsimp only
          split_ifs <;> rfl
      · rw [Dict.get?_set_ne _ _ hid] at ht'
        exact h.retryable identity t' ht' hkind hclosed
    · intro identity t' ht' hrel
      by_cases hid : identity = s.held
      · subst hid
        rw [ht] at ht'
        cases ht'
        exact ⟨_, Dict.get?_set_self _ _ _, close_keeps_released closes hrel⟩
      · exact ⟨t', (Dict.get?_set_ne _ _ hid).trans ht', hrel⟩
  · rw [if_neg hdue]
    refine ⟨h.held, fun identity t ht => ?_, h.retryable, fun hf => (by cases hf),
      fun identity t ht hrel => ⟨t, ht, hrel⟩⟩
    exact (h.owned identity t ht).imp id fun hh => absurd hh.2 hdue

theorem replacement_released {env : OwnedEnvironment} {received : Received} {s : OwnedRuntime}
    (h : HeldClosed s (s.closeHeld env.heldCloses))
    (hdone : (s.closeHeld env.heldCloses).1 = true) (hne : received.identity ≠ s.held)
    (hr : env.replacementCloses = true ∨
      ∃ t, s.ledger.get? received.identity = some t ∧ t.released = true) :
    (∃ t, (s.closeReplacement env received).2.get? s.held = some t) ∧
      ∀ identity t, (s.closeReplacement env received).2.get? identity = some t →
        t.released = true := by
  have hall : ∀ identity t, (s.closeHeld env.heldCloses).2.get? identity = some t →
      t.released = true := by
    intro identity t ht
    obtain hrel | ⟨_, hf⟩ := h.owned identity t ht
    · exact hrel
    · rw [hdone] at hf
      cases hf
  have hknown : ∃ t, (receive received (s.closeHeld env.heldCloses).2).get? received.identity =
      some t ∧ (t.close env.replacementCloses).2.released = true := by
    unfold receive
    cases hg : (s.closeHeld env.heldCloses).2.get? received.identity with
    | some t =>
      rw [if_pos Option.isSome_some]
      exact ⟨t, hg, close_keeps_released _ (hall _ t hg)⟩
    | none =>
      rw [if_neg (by simp)]
      refine ⟨_, Dict.get?_set_self _ _ _, close_releases (fun _ hc => by cases hc) ?_⟩
      obtain hcl | ⟨t, ht, hrel⟩ := hr
      · unfold OwnedTransport.close
        rw [hcl]
        split <;> rfl
      · obtain ⟨t', ht', _⟩ := h.known _ t ht hrel
        rw [hg] at ht'
        cases ht'
  have hothers : ∀ identity, identity ≠ received.identity →
      (receive received (s.closeHeld env.heldCloses).2).get? identity =
        (s.closeHeld env.heldCloses).2.get? identity := by
    intro identity hid
    unfold receive
    split_ifs
    · rfl
    · exact Dict.get?_set_ne _ _ hid
  obtain ⟨t, ht, hrel⟩ := hknown
  have hat : s.closeReplacement env received = ((t.close env.replacementCloses).1,
      (receive received (s.closeHeld env.heldCloses).2).set received.identity
        (t.close env.replacementCloses).2) := by
    exact closeAt_known _ ht
  rw [hat]
  constructor
  · obtain ⟨t', ht'⟩ := h.held
    exact ⟨t', (Dict.get?_set_ne _ _ hne.symm).trans ((hothers _ hne.symm).trans ht')⟩
  · intro identity t' ht'
    by_cases hid : identity = received.identity
    · subst hid
      rw [Dict.get?_set_self] at ht'
      cases ht'
      exact hrel
    · rw [Dict.get?_set_ne _ _ hid, hothers _ hid] at ht'
      exact hall _ t' ht'

section
variable (sha256 : Bytes → Digest) (config : RuntimeConfig)

theorem retry_accounted {env : OwnedEnvironment} {s : OwnedRuntime} (h : Accounted s)
    (hq : s.runtime.transportNeedsClose = true → QueueCloses env.heldCloses s)
    (hr : (s.closeHeld env.heldCloses).1 = true → RejectedCloses env s)
    {rt : SchedulerLookupRuntime}
    (hopen : Open (if s.runtime.transportNeedsClose = true ∧ (s.observed env).closes = false then
      true else (s.observed env).replaced.toOption = some .fresh) rt) :
    Accounted ⟨rt, (s.afterRetry env).1, (s.afterRetry env).2⟩ := by
  have hheld := closeHeld_accounted h hq
  have hfinished : rt.state = .closed → rt.transportNeedsClose = false :=
    fun hc => absurd hc hopen.2
  by_cases hdone : (s.closeHeld env.heldCloses).1 = true
  · have hall : ∀ identity t, (s.closeHeld env.heldCloses).2.get? identity = some t →
        t.released = true := by
      intro identity t ht
      obtain hrel | ⟨_, hf⟩ := hheld.owned identity t ht
      · exact hrel
      · rw [hdone] at hf
        cases hf
    have hdue := hopen.1
    rw [if_neg (by
      rintro ⟨_, hc⟩
      rw [show (s.observed env).closes = _ from hdone] at hc
      cases hc)] at hdue
    unfold OwnedRuntime.afterRetry
    dsimp only
    rw [if_neg (by rw [hdone]; decide)]
    cases hf : env.factory with
    | error failure =>
      exact ⟨hheld.held, fun identity t ht => .inl (hall identity t ht), hheld.retryable, hfinished⟩
    | ok received =>
      dsimp only
      by_cases hsame : received.identity = s.held
      · rw [if_pos hsame]
        exact ⟨hheld.held, fun identity t ht => .inl (hall identity t ht), hheld.retryable,
          hfinished⟩
      rw [if_neg hsame]
      cases hvalid : received.validConfig with
      | true =>
        rw [if_pos rfl]
        have hfresh : rt.transportNeedsClose = true := by
          have hobserved : (s.observed env).replaced = .ok .fresh := by
            show env.factory.map _ = _
            rw [hf]
            show Except.ok (if _ then _ else _) = _
            rw [if_neg hsame, if_pos hvalid]
          rw [hdue, decide_eq_true_iff, hobserved]
          rfl
        have hget : ∀ identity t, (receive received (s.closeHeld env.heldCloses).2).get? identity =
            some t → (t.released = true ∨ identity = received.identity) ∧
              (t.closed = true → t.released = true ∨ t.kind ≠ .lmcacheBlend) := by
          intro identity t ht
          unfold receive at ht
          split_ifs at ht
          · exact ⟨.inl (hall identity t ht), fun _ => .inl (hall identity t ht)⟩
          · by_cases hid : identity = received.identity
            · rw [hid, Dict.get?_set_self] at ht
              cases ht
              exact ⟨.inr hid, fun hc => by cases hc⟩
            · rw [Dict.get?_set_ne _ _ hid] at ht
              exact ⟨.inl (hall identity t ht), fun _ => .inl (hall identity t ht)⟩
        refine ⟨?_, fun identity t ht => ?_, fun identity t ht hk hc => ?_, hfinished⟩
        · unfold receive
          split_ifs with hs
          · exact Option.isSome_iff_exists.mp hs
          · exact ⟨_, Dict.get?_set_self _ _ _⟩
        · exact (hget identity t ht).1.imp id fun hid => ⟨hid, hfresh⟩
        · exact ((hget identity t ht).2 hc).resolve_right fun hn => hn hk
      | false =>
        rw [if_neg (by decide)]
        obtain ⟨hknown, hrel⟩ :=
          replacement_released hheld hdone hsame (hr hdone received hf hsame hvalid)
        exact ⟨hknown, fun identity t ht => .inl (hrel identity t ht),
          fun identity t ht _ _ => hrel identity t ht, hfinished⟩
  · have hfalse := Bool.not_eq_true _ ▸ hdone
    have hdue := hopen.1
    rw [if_pos ⟨hheld.due hfalse, hfalse⟩] at hdue
    unfold OwnedRuntime.afterRetry
    dsimp only
    rw [if_pos hfalse]
    exact ⟨hheld.held, fun identity t ht => (hheld.owned identity t ht).imp id fun hh =>
      ⟨hh.1, hdue⟩, hheld.retryable, hfinished⟩

theorem lookup_accounted {env : OwnedEnvironment} {request : SchedulerLookupRequest}
    {s : OwnedRuntime} (h : Accounted s) (hc : Careful config s (.lookup env request)) :
    Accounted (lookupOwned sha256 config env request s).2 := by
  unfold lookupOwned
  dsimp only
  by_cases hr : Retries config s.runtime request
  · obtain ⟨hq, hrej⟩ := hc hr
    have hopen := lookup_open sha256 (s.observed env) request
      (fun hcl => by rw [hr.1] at hcl; cases hcl)
      (by rw [if_pos hr]; exact retry_open (s.observed env) s.runtime)
    rw [if_pos hr]
    exact retry_accounted h hq hrej hopen
  · rw [if_neg hr]
    by_cases hcl : s.runtime.state = .closed
    · rw [lookup_closed _ _ hcl]
      exact h
    · have hopen : Open s.runtime.transportNeedsClose
          (SchedulerLookupRuntime.lookup sha256 config (s.observed env) request s.runtime).2 :=
        lookup_open sha256 (s.observed env) request hcl (by rw [if_neg hr]; exact ⟨rfl, hcl⟩)
      refine ⟨h.held, fun identity t ht => ?_, h.retryable, fun hf => absurd hf hopen.2⟩
      exact (h.owned identity t ht).imp id fun hh => ⟨hh.1, hopen.1.trans hh.2⟩

end

theorem closeOwned_releases {closes : Bool} {s : OwnedRuntime} (h : Accounted s)
    (hok : (closeOwned closes s).1 = .ok ()) {identity : ℕ} {t : OwnedTransport}
    (ht : (closeOwned closes s).2.ledger.get? identity = some t) : t.released = true := by
  unfold closeOwned at hok ht
  dsimp only at hok ht
  by_cases hcl : s.runtime.state = .closed
  · rw [if_pos hcl] at ht
    obtain hrel | ⟨_, hdue⟩ := h.owned identity t ht
    · exact hrel
    · rw [h.finished hcl] at hdue
      cases hdue
  rw [if_neg hcl] at hok ht
  unfold OwnedRuntime.closeHeld at hok ht
  by_cases hdue : s.runtime.transportNeedsClose = true
  · rw [if_pos hdue] at hok ht
    obtain ⟨held, hheld⟩ := h.held
    rw [closeAt_known closes hheld] at hok ht
    have hreturned : (held.close closes).1 = true := by
      unfold SchedulerLookupRuntime.close at hok
      dsimp only at hok
      rw [if_neg hcl, if_neg (by rw [hdue]; decide)] at hok
      by_contra hno
      rw [if_neg hno] at hok
      cases hok
    by_cases hid : identity = s.held
    · subst hid
      rw [Dict.get?_set_self] at ht
      cases ht
      exact close_releases (h.retryable s.held held hheld) hreturned
    · rw [Dict.get?_set_ne _ _ hid] at ht
      exact (h.owned identity t ht).resolve_right fun hh => hid hh.1
  · rw [if_neg hdue] at ht
    exact (h.owned identity t ht).resolve_right fun hh => hdue hh.2

theorem close_accounted {closes : Bool} {s : OwnedRuntime} (h : Accounted s)
    (hq : s.runtime.state ≠ .closed → s.runtime.transportNeedsClose = true →
      QueueCloses closes s) : Accounted (closeOwned closes s).2 := by
  unfold closeOwned
  dsimp only
  by_cases hcl : s.runtime.state = .closed
  · have hclose : SchedulerLookupRuntime.close true s.runtime = (.ok (), s.runtime) := if_pos hcl
    rw [if_pos hcl, hclose]
    exact h
  rw [if_neg hcl]
  have hheld := closeHeld_accounted h (hq hcl)
  have hclose : SchedulerLookupRuntime.close (s.closeHeld closes).1 s.runtime =
      if s.runtime.transportNeedsClose = false then
        (.ok (), { s.runtime with requests := Dict.empty, state := .closed })
      else if (s.closeHeld closes).1 = true then (.ok (), { s.runtime with
        requests := Dict.empty, transportNeedsClose := false, state := .closed })
      else (.error (.runtime .closeFailed), { s.runtime with
        requests := Dict.empty
        state := .fatal
        fatalStatus := some .fatalTransportCleanup }) := if_neg hcl
  rw [hclose]
  by_cases hdue : s.runtime.transportNeedsClose = false
  · rw [if_pos hdue]
    refine ⟨hheld.held, fun identity t ht => ?_, hheld.retryable, fun _ => hdue⟩
    refine (hheld.owned identity t ht).imp id fun hh => absurd (hheld.due hh.2) ?_
    rw [hdue]
    decide
  rw [if_neg hdue]
  by_cases hdone : (s.closeHeld closes).1 = true
  · rw [if_pos hdone]
    refine ⟨hheld.held, fun identity t ht => ?_, hheld.retryable, fun _ => rfl⟩
    refine (hheld.owned identity t ht).imp id fun hh => absurd hh.2 ?_
    rw [hdone]
    decide
  · rw [if_neg hdone]
    exact ⟨hheld.held, fun identity t ht => (hheld.owned identity t ht).imp id fun hh =>
      ⟨hh.1, by simpa using hdue⟩, hheld.retryable, fun hf => by cases hf⟩

section
variable (sha256 : Bytes → Digest) (config : RuntimeConfig)

/-- A step in which no close fails in a way that loses its transport. -/
def CarefulStep (s : OwnedRuntime) (e : OwnedEvent) (s' : OwnedRuntime) : Prop :=
  Careful config s e ∧ s' = ownedStep sha256 config s e

theorem step_accounted (s : OwnedRuntime) (e : OwnedEvent) (s' : OwnedRuntime) (h : Accounted s)
    (hs : CarefulStep sha256 config s e s') : Accounted s' := by
  obtain ⟨hc, rfl⟩ := hs
  cases e with
  | lookup env request => exact lookup_accounted sha256 config h hc
  | discard requestId => exact ⟨h.held, h.owned, h.retryable, h.finished⟩
  | close closes => exact close_accounted h hc

end

/-! ## What a careless step loses -/

/-- Some close returns although a transport has never been released. -/
def Leaks (s : OwnedRuntime) : Prop :=
  ∃ closes, (closeOwned closes s).1 = .ok () ∧ ∃ identity t,
    (closeOwned closes s).2.ledger.get? identity = some t ∧ t.released = false

theorem closed_held_leaks {s : OwnedRuntime} {t : OwnedTransport} (hs : s.runtime.state ≠ .closed)
    (hdue : s.runtime.transportNeedsClose = true) (ht : s.ledger.get? s.held = some t)
    (hk : t.kind = .lmcacheBlend) (hc : t.closed = true) (hr : t.released = false) : Leaks s := by
  have hclose : t.close true = (true, t) := by
    unfold OwnedTransport.close
    rw [hk]
    exact if_pos hc
  have hheld : s.closeHeld true = (true, s.ledger.set s.held t) := by
    unfold OwnedRuntime.closeHeld
    rw [if_pos hdue, closeAt_known true ht, hclose]
  have hreturn : SchedulerLookupRuntime.close true s.runtime = (.ok (), { s.runtime with
      requests := Dict.empty, transportNeedsClose := false, state := .closed }) := by
    unfold SchedulerLookupRuntime.close
    rw [if_neg hs, if_neg (by rw [hdue]; decide), if_pos rfl]
  refine ⟨true, ?_, s.held, t, ?_, hr⟩
  · unfold closeOwned
    rw [if_neg hs, hheld]
    exact congrArg Prod.fst hreturn
  · unfold closeOwned
    rw [if_neg hs, hheld]
    exact Dict.get?_set_self _ _ _

theorem dropped_leaks {s : OwnedRuntime} {identity : ℕ} {t : OwnedTransport}
    (hs : s.runtime.state ≠ .closed) (hdue : s.runtime.transportNeedsClose = false)
    (ht : s.ledger.get? identity = some t) (hr : t.released = false) : Leaks s := by
  have hheld : s.closeHeld true = (true, s.ledger) := by
    unfold OwnedRuntime.closeHeld
    rw [if_neg (by rw [hdue]; decide)]
  have hreturn : SchedulerLookupRuntime.close true s.runtime =
      (.ok (), { s.runtime with requests := Dict.empty, state := .closed }) := by
    unfold SchedulerLookupRuntime.close
    rw [if_neg hs, if_pos hdue]
  refine ⟨true, ?_, identity, t, ?_, hr⟩
  · unfold closeOwned
    rw [if_neg hs, hheld]
    exact congrArg Prod.fst hreturn
  · unfold closeOwned
    rw [if_neg hs, hheld]
    exact ht

theorem closeHeld_fails {s : OwnedRuntime} {closes : Bool} (h : Accounted s)
    (hdue : s.runtime.transportNeedsClose = true) (hq : ¬QueueCloses closes s) :
    ∃ t, s.closeHeld closes = (false, s.ledger.set s.held t) ∧ t.kind = .lmcacheBlend ∧
      t.closed = true ∧ t.released = false := by
  unfold QueueCloses at hq
  push Not at hq
  obtain ⟨t, ht, hk, hr, hc⟩ := hq
  have hopen : t.closed = false := by
    by_contra hcl
    exact hr (h.retryable _ t ht hk (by simpa using hcl))
  have hcloses : closes = false := by simpa using hc
  have hclose : t.close closes = (false, { t with closed := true }) := by
    unfold OwnedTransport.close
    rw [hk]
    dsimp only
    rw [if_neg (by rw [hopen]; decide), hcloses, Bool.or_false]
  refine ⟨{ t with closed := true }, ?_, hk, rfl, by simpa using hr⟩
  unfold OwnedRuntime.closeHeld
  rw [if_pos hdue, closeAt_known closes ht, hclose]

section
variable (sha256 : Bytes → Digest) (config : RuntimeConfig)

/-- The condition on a step is exact: after a careless one a close returns
although a transport was never released. -/
theorem careless_leaks {s : OwnedRuntime} {e : OwnedEvent} (h : Accounted s)
    (hc : ¬Careful config s e) : Leaks (ownedStep sha256 config s e) := by
  cases e with
  | discard requestId => exact absurd trivial hc
  | close closes =>
    change ¬(s.runtime.state ≠ .closed → s.runtime.transportNeedsClose = true →
      QueueCloses closes s) at hc
    push Not at hc
    obtain ⟨hs, hdue, hq⟩ := hc
    obtain ⟨t, hheld, hk, hcl, hr⟩ := closeHeld_fails h hdue hq
    have hreturn : SchedulerLookupRuntime.close false s.runtime =
        (.error (.runtime .closeFailed), { s.runtime with
          requests := Dict.empty
          state := .fatal
          fatalStatus := some .fatalTransportCleanup }) := by
      unfold SchedulerLookupRuntime.close
      rw [if_neg hs, if_neg (by rw [hdue]; decide), if_neg (by decide)]
    have hafter : ownedStep sha256 config s (.close closes) =
        ⟨{ s.runtime with
          requests := Dict.empty
          state := .fatal
          fatalStatus := some .fatalTransportCleanup }, s.ledger.set s.held t, s.held⟩ := by
      show (closeOwned closes s).2 = _
      unfold closeOwned
      rw [if_neg hs, hheld]
      dsimp only
      rw [hreturn]
    rw [hafter]
    exact closed_held_leaks SchedulerRuntimeState.noConfusion hdue (Dict.get?_set_self _ _ _) hk
      hcl hr
  | lookup env request =>
    change ¬(Retries config s.runtime request → _) at hc
    rw [Classical.not_imp] at hc
    obtain ⟨hr, hc⟩ := hc
    have hopen := lookup_open sha256 (s.observed env) request
      (fun hcl => by rw [hr.1] at hcl; cases hcl)
      (by rw [if_pos hr]; exact retry_open (s.observed env) s.runtime)
    have hafter : ownedStep sha256 config s (.lookup env request) =
        ⟨(SchedulerLookupRuntime.lookup sha256 config (s.observed env) request s.runtime).2,
          (s.afterRetry env).1, (s.afterRetry env).2⟩ := by
      show (lookupOwned sha256 config env request s).2 = _
      unfold lookupOwned
      rw [if_pos hr]
    rw [hafter]
    by_cases hq : s.runtime.transportNeedsClose = true → QueueCloses env.heldCloses s
    · -- the held transport was closed, so the rejected replacement is the one that is lost
      have hrej : ¬((s.closeHeld env.heldCloses).1 = true → RejectedCloses env s) :=
        fun hrc => hc ⟨hq, hrc⟩
      rw [Classical.not_imp] at hrej
      obtain ⟨hdone, hrej⟩ := hrej
      unfold RejectedCloses at hrej
      push Not at hrej
      obtain ⟨received, hf, hne, hvalid, hfails, hknown⟩ := hrej
      have hheld := closeHeld_accounted h hq
      have hnew : (s.closeHeld env.heldCloses).2.get? received.identity = none := by
        cases hg : s.ledger.get? received.identity with
        | some t =>
          obtain hrel | ⟨hid, _⟩ := h.owned _ t hg
          · exact absurd hrel (hknown t hg)
          · exact absurd hid hne
        | none =>
          unfold OwnedRuntime.closeHeld closeAt
          split_ifs
          · obtain ⟨t, ht⟩ := h.held
            rw [ht]
            exact (Dict.get?_set_ne _ _ hne).trans hg
          · exact hg
      have hdue := hopen.1
      have hobserved : (s.observed env).replaced.toOption ≠ some .fresh := by
        show (env.factory.map _).toOption ≠ _
        rw [hf]
        show some (if _ then _ else _) ≠ _
        rw [if_neg hne, if_neg (by rw [hvalid]; decide)]
        intro hn
        cases hn
      rw [if_neg (by
        rintro ⟨_, hcl⟩
        rw [show (s.observed env).closes = _ from hdone] at hcl
        cases hcl), decide_eq_false hobserved] at hdue
      have hlost : ∃ t, (s.afterRetry env).1.get? received.identity = some t ∧
          t.released = false := by
        unfold OwnedRuntime.afterRetry
        dsimp only
        rw [if_neg (by rw [hdone]; decide), hf]
        dsimp only
        rw [if_neg hne, if_neg (by rw [hvalid]; decide)]
        unfold OwnedRuntime.closeReplacement receive closeAt
        rw [hnew, if_neg (by simp), Dict.get?_set_self]
        refine ⟨_, Dict.get?_set_self _ _ _, ?_⟩
        unfold OwnedTransport.close
        rw [show env.replacementCloses = false by simpa using hfails]
        split <;> rfl
      obtain ⟨t, ht, hrel⟩ := hlost
      exact dropped_leaks hopen.2 hdue ht hrel
    · rw [Classical.not_imp] at hq
      obtain ⟨hdue, hq⟩ := hq
      obtain ⟨t, hheld, hk, hcl, hrel⟩ := closeHeld_fails h hdue hq
      have hstill := hopen.1
      rw [if_pos ⟨hdue, congrArg Prod.fst hheld⟩] at hstill
      have hretry : s.afterRetry env = (s.ledger.set s.held t, s.held) := by
        unfold OwnedRuntime.afterRetry
        rw [hheld]
        rfl
      rw [hretry]
      exact closed_held_leaks hopen.2 hstill (Dict.get?_set_self _ _ _) hk hcl hrel

/-- In a run of careful steps every transport has been released or is held for
a later close, and a close of the runtime that returns has released them all.
The first careless step of a run leaves a transport that a close then forgets.
The failures are exceptions of the class `Exception`: an interrupt of the
process is not modelled. -/
theorem transports_owned (kind : TransportKind) {s : OwnedRuntime}
    (h : Reached (CarefulStep sha256 config) (OwnedRuntime.initial kind) s) :
    (∀ identity t, s.ledger.get? identity = some t →
      t.released = true ∨ (identity = s.held ∧ s.runtime.transportNeedsClose = true)) ∧
    (∀ closes, (closeOwned closes s).1 = .ok () → ∀ identity t,
      (closeOwned closes s).2.ledger.get? identity = some t → t.released = true) ∧
    ∀ e, ¬Careful config s e → Leaks (ownedStep sha256 config s e) := by
  have haccounted := reached_invariant Accounted (step_accounted sha256 config)
    (initial_accounted kind) h
  exact ⟨haccounted.owned, fun closes hok identity t ht => closeOwned_releases haccounted hok ht,
    fun e hc => careless_leaks sha256 config haccounted hc⟩

end

def smallConfig : RuntimeConfig := ⟨LookupPlans.exampleNamespace, 0⟩

/-- A transport that keeps its queue open after a failed close is closed by the next attempt. -/
theorem failed_close_retried :
    let s := (closeOwned false (OwnedRuntime.initial .other)).2
    (closeOwned false (OwnedRuntime.initial .other)).1 = .error (.runtime .closeFailed) ∧
      (closeOwned true s).1 = .ok () ∧
      ∀ identity t, (closeOwned true s).2.ledger.get? identity = some t → t.released = true := by
  have hcareful : Careful smallConfig (OwnedRuntime.initial .other) (.close false) := by
    intro _ _ t ht hk
    cases ht
    cases hk
  have hreached : Reached (CarefulStep (fun _ => LookupPlans.zeroDigest) smallConfig)
      (OwnedRuntime.initial .other) (closeOwned false (OwnedRuntime.initial .other)).2 :=
    reached_step (reached_start _ _) ⟨hcareful, rfl⟩
  exact ⟨by decide, by decide, (transports_owned _ _ _ hreached).2.1 true (by decide)⟩

/-- The queue of an LMCache transport fails to close once. The next close of
the runtime returns, and the queue has never been closed. -/
theorem failed_queue_close_forgotten :
    let s := (closeOwned false (OwnedRuntime.initial .lmcacheBlend)).2
    (closeOwned false (OwnedRuntime.initial .lmcacheBlend)).1 = .error (.runtime .closeFailed) ∧
      (closeOwned true s).1 = .ok () ∧
      (closeOwned true s).2.ledger.get? 0 = some ⟨.lmcacheBlend, true, false⟩ := by
  decide

end CacheBlend.TransportOwnership
