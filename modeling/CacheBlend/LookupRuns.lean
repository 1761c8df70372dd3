import CacheBlend.MetricReconciliation
import CacheBlend.RuntimeLookups

/-!
# Runs of the lookup runtime

The calls of the transport and of its factory are recorded beside the runtime,
in the order in which a lookup makes them. In a run of lookups, discards and
closes every lookup returns, whatever those calls answer: the request plan and
the metadata accept every plan the coordinator returns. A runtime that is fatal
holds no request and calls nothing any more.
-/

set_option autoImplicit false

namespace CacheBlend.LookupRuns
open CacheBlend.PlannerModels CacheBlend.LmcacheTypes CacheBlend.CandidateLookup
open CacheBlend.RequestLifecycle CacheBlend.SchedulerRuntime CacheBlend.RuntimeLookups
open CacheBlend.TransferRuntime (checkCandidates)

/-! ## The calls of a lookup -/

/-- A call of a candidate transport, or of the replacement factory. -/
inductive TransportCall where
  | opened
  | closed
  | replaced
  | searched
  deriving DecidableEq

structure ObservedRuntime where
  runtime : SchedulerLookupRuntime
  calls : List TransportCall
  deriving DecidableEq

def ObservedRuntime.initial : ObservedRuntime := ⟨.initial, []⟩

abbrev ObservedCall (α : Type) : Type := Call ObservedRuntime SchedulerRuntimeError α

def note (call : TransportCall) : ObservedCall PUnit :=
  Call.modify fun s => { s with calls := s.calls ++ [call] }

/-- A part of the runtime that calls neither the transport nor the factory. -/
def inner {α : Type} (c : RuntimeCall α) : ObservedCall α := fun s =>
  ((c s.runtime).1, ⟨(c s.runtime).2, s.calls⟩)

def openTransport (env : Environment) : ObservedCall SchedulerRuntimeState := do
  let s ← Call.read
  match s.runtime.state with
  | .created => do
    note .opened
    inner (SchedulerLookupRuntime.openTransport env)
  | _ => inner (SchedulerLookupRuntime.openTransport env)

/-- The part of `_retry_degraded_transport_once` after the old transport is closed. -/
def replaceTransport (env : Environment) : ObservedCall SchedulerRuntimeState := do
  note .replaced
  match env.replaced with
  | .ok .fresh => do
    inner (Call.modify fun rt => { rt with transportNeedsClose := true, state := .created })
    openTransport env
  | .ok (.invalidConfig _) => do
    note .closed
    inner (SchedulerLookupRuntime.replaceTransport env)
  | _ => inner (SchedulerLookupRuntime.replaceTransport env)

def retryDegradedTransportOnce (env : Environment) : ObservedCall SchedulerRuntimeState := do
  let s ← Call.read
  if s.runtime.transportNeedsClose = true then do
    note .closed
    if env.closes = false then inner (SchedulerLookupRuntime.retryDegradedTransportOnce env)
    else do
      inner (Call.modify fun rt => { rt with transportNeedsClose := false })
      replaceTransport env
  else replaceTransport env

def readyTransport (env : Environment) : ObservedCall SchedulerRuntimeState := do
  let s ← Call.read
  match s.runtime.state with
  | .created => openTransport env
  | .degraded => retryDegradedTransportOnce env
  | state => pure state

section
variable (sha256 : Bytes → Digest) (config : RuntimeConfig)

def searchCandidates (env : Environment) (request : SchedulerLookupRequest)
    (windows : List TokenRange) : RuntimeCall SchedulerLookupMetadata := do
  let rt ← Call.read
  let answer := rt.askCandidates sha256 config env request windows.length
  Call.modify (fun _ => answer.2)
  SchedulerLookupRuntime.finishLookup request answer.1.1 answer.1.2 windows

def firstLookup (env : Environment) (request : SchedulerLookupRequest) :
    ObservedCall SchedulerLookupMetadata :=
  match SchedulerLookupRuntime.eligibilityStatus config request with
  | some _ => inner (SchedulerLookupRuntime.firstLookup sha256 config env request)
  | none => do
    let windows := queryWindowsOf request.promptTokenIds.length
    let runtimeState ← readyTransport env
    if runtimeState = .degraded then
      inner (SchedulerLookupRuntime.finishLookup request .fullPrefillTransportError
        emptyLookupPlan windows)
    else if runtimeState = .fatal then
      inner (do
        let rt ← Call.read
        Call.lift (SchedulerLookupRuntime.buildMetadata request
          (rt.fatalStatus.getD .fatalProtocolDrift) emptyLookupPlan windows 0))
    else do
      note .searched
      inner (searchCandidates sha256 config env request windows)

def lookup (env : Environment) (request : SchedulerLookupRequest) :
    ObservedCall SchedulerLookupMetadata := do
  let s ← Call.read
  if s.runtime.state = .closed ∨ s.runtime.state = .fatal ∨
      (s.runtime.requests.get? request.requestId).isSome = true then
    inner (SchedulerLookupRuntime.lookup sha256 config env request)
  else firstLookup sha256 config env request

end

def close (closes : Bool) : ObservedCall Unit := do
  let s ← Call.read
  if s.runtime.state ≠ .closed ∧ s.runtime.transportNeedsClose = true then do
    note .closed
    inner (SchedulerLookupRuntime.close closes)
  else inner (SchedulerLookupRuntime.close closes)

/-! ## The record does not change the runtime -/

/-- The observed call does what the call does, and makes some of the allowed
calls, in their order. -/
def Observes {α : Type} (allowed : List TransportCall) (observed : ObservedCall α)
    (c : RuntimeCall α) : Prop :=
  ∀ s, ∃ made, made.Sublist allowed ∧
    observed s = ((c s.runtime).1, ⟨(c s.runtime).2, s.calls ++ made⟩)

section
variable {α β : Type} {allowed : List TransportCall} {c : RuntimeCall α}

theorem observes_inner (c : RuntimeCall α) : Observes [] (inner c) c := fun s =>
  ⟨[], List.Sublist.refl _, by rw [List.append_nil]; rfl⟩

theorem observes_mono {allowed' : List TransportCall} {observed : ObservedCall α}
    (h : Observes allowed observed c) (hs : allowed.Sublist allowed') :
    Observes allowed' observed c := fun s => by
  obtain ⟨made, hmade, he⟩ := h s
  exact ⟨made, hmade.trans hs, he⟩

theorem observes_note {observed : ObservedCall α} (call : TransportCall)
    (h : Observes allowed observed c) :
    Observes (call::allowed) (note call >>= fun _ => observed) c := fun s => by
  obtain ⟨made, hmade, he⟩ := h { s with calls := s.calls ++ [call] }
  refine ⟨call::made, hmade.cons_cons call, ?_⟩
  show observed { s with calls := s.calls ++ [call] } = _
  rw [he, List.append_assoc, List.singleton_append]

theorem observes_bind {allowed' : List TransportCall} {observed : ObservedCall α}
    {f : α → ObservedCall β} {g : α → RuntimeCall β} (h : Observes allowed observed c)
    (hf : ∀ a, Observes allowed' (f a) (g a)) :
    Observes (allowed ++ allowed') (observed >>= f) (c >>= g) := fun s => by
  obtain ⟨made, hmade, he⟩ := h s
  rw [Call.bind_run, Call.bind_run, he]
  rcases hc : c s.runtime with ⟨e | a, rt⟩
  · exact ⟨made, hmade.trans (List.sublist_append_left _ _), rfl⟩
  · obtain ⟨made', hmade', he'⟩ := hf a ⟨rt, s.calls ++ made⟩
    refine ⟨made ++ made', hmade.append hmade', ?_⟩
    show f a ⟨rt, s.calls ++ made⟩ = _
    rw [he', List.append_assoc]

theorem observes_quiet (allowed : List TransportCall) (c : RuntimeCall α) :
    Observes allowed (inner c) c :=
  observes_mono (observes_inner c) (List.nil_sublist allowed)

end

theorem observes_open (env : Environment) :
    Observes [.opened] (openTransport env) (SchedulerLookupRuntime.openTransport env) := by
  intro s
  unfold openTransport
  rw [Call.read_bind]
  cases s.runtime.state with
  | created => exact observes_note .opened (observes_inner _) s
  | ready => exact observes_quiet _ _ s
  | degraded => exact observes_quiet _ _ s
  | fatal => exact observes_quiet _ _ s
  | closed => exact observes_quiet _ _ s

theorem observes_replace (env : Environment) :
    Observes [.replaced, .closed, .opened] (replaceTransport env)
      (SchedulerLookupRuntime.replaceTransport env) := by
  apply observes_note .replaced
  cases hr : env.replaced with
  | error failure => exact observes_quiet _ _
  | ok replacement =>
    cases replacement with
    | same => exact observes_quiet _ _
    | invalidConfig closes => exact observes_note .closed (observes_quiet _ _)
    | fresh =>
      have hfresh : SchedulerLookupRuntime.replaceTransport env =
          (Call.modify fun rt => { rt with transportNeedsClose := true, state := .created }) >>=
            fun _ => SchedulerLookupRuntime.openTransport env := by
        funext rt
        unfold SchedulerLookupRuntime.replaceTransport
        rw [hr]
        rfl
      rw [hfresh]
      exact observes_mono (observes_bind (observes_inner _) fun _ => observes_open env)
        (List.sublist_cons_self _ _)

theorem observes_retry (env : Environment) :
    Observes [.closed, .replaced, .closed, .opened] (retryDegradedTransportOnce env)
      (SchedulerLookupRuntime.retryDegradedTransportOnce env) := by
  intro s
  unfold retryDegradedTransportOnce
  rw [Call.read_bind]
  by_cases hdue : s.runtime.transportNeedsClose = true
  · rw [if_pos hdue]
    refine observes_note .closed ?_ s
    by_cases hc : env.closes = false
    · rw [if_pos hc]
      exact observes_quiet _ _
    · rw [if_neg hc]
      have hretry : SchedulerLookupRuntime.retryDegradedTransportOnce env =
          (Call.modify fun rt => { rt with transportNeedsClose := false }) >>=
            fun _ => SchedulerLookupRuntime.replaceTransport env := by
        funext rt
        unfold SchedulerLookupRuntime.retryDegradedTransportOnce
        rw [if_neg fun h => hc h.2]
        rfl
      rw [hretry]
      exact observes_bind (observes_inner _) fun _ => observes_replace env
  · rw [if_neg hdue]
    have hretry : SchedulerLookupRuntime.retryDegradedTransportOnce env s.runtime =
        SchedulerLookupRuntime.replaceTransport env s.runtime := by
      obtain ⟨⟨state, fatalStatus, requests, due⟩, calls⟩ := s
      unfold SchedulerLookupRuntime.retryDegradedTransportOnce
      rw [if_neg fun h => hdue h.1]
      rw [Bool.not_eq_true] at hdue
      exact congrArg (fun d => SchedulerLookupRuntime.replaceTransport env
        ⟨state, fatalStatus, requests, d⟩) hdue.symm
    rw [hretry]
    exact observes_mono (observes_replace env) (List.sublist_cons_self _ _) s

theorem observes_ready (env : Environment) :
    Observes [.closed, .replaced, .closed, .opened] (readyTransport env)
      (SchedulerLookupRuntime.readyTransport env) := by
  intro s
  unfold readyTransport SchedulerLookupRuntime.readyTransport
  rw [Call.read_bind, Call.read_bind]
  cases s.runtime.state with
  | created => exact observes_mono (observes_open env) (by simp) s
  | degraded => exact observes_retry env s
  | ready => exact observes_quiet _ (pure _) s
  | fatal => exact observes_quiet _ (pure _) s
  | closed => exact observes_quiet _ (pure _) s

section
variable (sha256 : Bytes → Digest) (config : RuntimeConfig)

/-- The calls that one lookup may make, each at most once but for a close. -/
def lookupCalls : List TransportCall := [.closed, .replaced, .closed, .opened, .searched]

theorem observes_first (env : Environment) (request : SchedulerLookupRequest) :
    Observes lookupCalls (firstLookup sha256 config env request)
      (SchedulerLookupRuntime.firstLookup sha256 config env request) := by
  unfold firstLookup
  cases he : SchedulerLookupRuntime.eligibilityStatus config request with
  | some status => exact observes_quiet _ _
  | none =>
    unfold SchedulerLookupRuntime.firstLookup
    rw [he]
    show Observes ([.closed, .replaced, .closed, .opened] ++ [.searched]) _ _
    refine observes_bind (observes_ready env) fun state => ?_
    split_ifs
    · exact observes_quiet _ _
    · exact observes_quiet _ _
    · exact observes_note .searched (observes_inner _)

theorem observes_lookup (env : Environment) (request : SchedulerLookupRequest) :
    Observes lookupCalls (lookup sha256 config env request)
      (SchedulerLookupRuntime.lookup sha256 config env request) := by
  intro s
  unfold lookup
  rw [Call.read_bind]
  split_ifs with h
  · exact observes_quiet _ _ s
  · obtain ⟨hc, hf, hr⟩ : s.runtime.state ≠ .closed ∧ s.runtime.state ≠ .fatal ∧
        ¬(s.runtime.requests.get? request.requestId).isSome = true := by tauto
    have hfirst : SchedulerLookupRuntime.lookup sha256 config env request s.runtime =
        SchedulerLookupRuntime.firstLookup sha256 config env request s.runtime := by
      unfold SchedulerLookupRuntime.lookup
      rw [Call.read_bind, if_neg hc, if_neg hf]
      cases hg : s.runtime.requests.get? request.requestId with
      | none => rfl
      | some old => exact absurd (by rw [hg]; rfl) hr
    rw [hfirst]
    exact observes_first sha256 config env request s

theorem lookup_quiet (env : Environment) (request : SchedulerLookupRequest)
    {s : ObservedRuntime} (h : s.runtime.state = .closed ∨ s.runtime.state = .fatal ∨
      (s.runtime.requests.get? request.requestId).isSome = true) :
    lookup sha256 config env request s =
      inner (SchedulerLookupRuntime.lookup sha256 config env request) s := by
  unfold lookup
  rw [Call.read_bind, if_pos h]

end

/-! ## Every lookup returns -/

section
variable {sha256 : Bytes → Digest} {cacheNamespace : CacheNamespace} {prompt : List TokenId}

theorem checkCandidates_placed {previousEnd : ℕ} {vs : List VerifiedLmcacheCandidate}
    (h : checkCandidates sha256 cacheNamespace prompt previousEnd vs = .ok ()) :
    (∀ v ∈ vs, previousEnd ≤ v.candidate.targetRange.start ∧
      v.candidate.targetRange.stop ≤ prompt.length) ∧
    vs.Pairwise fun v w => v.candidate.targetRange.stop ≤ w.candidate.targetRange.start := by
  induction vs generalizing previousEnd with
  | nil => exact ⟨fun _ hv => (nomatch hv), .nil⟩
  | cons v vs ih =>
    unfold checkCandidates at h
    obtain ⟨_, h⟩ := (require_then_iff _ _ _ _).mp h
    obtain ⟨hin, h⟩ := (require_then_iff _ _ _ _).mp h
    obtain ⟨hstart, h⟩ := (require_then_iff _ _ _ _).mp h
    obtain ⟨_, h⟩ := (require_then_iff _ _ _ _).mp h
    obtain ⟨_, h⟩ := (require_then_iff _ _ _ _).mp h
    obtain ⟨_, h⟩ := (require_then_iff _ _ _ _).mp h
    obtain ⟨hplaced, hapart⟩ := ih h
    have hordered := v.candidate.targetRange.ordered
    refine ⟨List.forall_mem_cons.mpr ⟨⟨hstart, hin⟩, fun w hw => ?_⟩,
      List.pairwise_cons.mpr ⟨fun w hw => (hplaced w hw).1, hapart⟩⟩
    obtain ⟨hnext, hwin⟩ := hplaced w hw
    exact ⟨by omega, hwin⟩

theorem expected_facts {p : LmcacheLookupPlan}
    (h : checkCandidates sha256 cacheNamespace prompt 0 p.verifiedCandidates = .ok ()) :
    let segments := (expectedMatches p).map VerifiedMatch.targetSegment
    MatchPlanning.PlanFacts segments
        ⟨expectedMatches p, [], ((segments.map TokenSegment.size).sum : ℕ)⟩ ∧
      segments.Nodup ∧ ∀ s ∈ segments, s.tokenRange.stop ≤ prompt.length := by
  intro segments
  obtain ⟨hplaced, hapart⟩ := checkCandidates_placed h
  have hafter : (expectedMatches p).Pairwise fun m m' =>
      m.targetSegment.tokenRange.stop ≤ m'.targetSegment.tokenRange.start := by
    apply List.pairwise_map.mpr
    refine hapart.imp fun {v w} hvw => ?_
    rw [v.range_eq, w.range_eq] at hvw
    exact hvw
  have hranges : (segments.map TokenSegment.tokenRange).Pairwise fun r r' => ¬r.Overlaps r' := by
    apply List.pairwise_map.mpr
    apply List.pairwise_map.mpr
    refine hafter.imp fun {m m'} hle ho => ?_
    exact absurd ho.2 (not_lt.mpr hle)
  refine ⟨⟨fun m hm => ?_, ?_, ?_, fun _ hr => (nomatch hr), ?_⟩, ?_, fun s hs => ?_⟩
  · obtain ⟨v, _, rfl⟩ := List.mem_map.mp hm
    exact ⟨List.mem_map_of_mem hm, v.fingerprint_eq, v.tokens_eq.symm⟩
  · refine hafter.imp fun {m m'} hle => ?_
    exact m.targetSegment.tokenRange.ordered.trans hle
  · rw [List.map_map] at hranges
    exact hranges
  · have hsizes : (segments.map TokenSegment.tokenRange).map TokenRange.size =
        segments.map TokenSegment.size := by
      rw [List.map_map]
      exact List.map_congr_left fun s _ => s.size_eq_range.symm
    rw [CoveredRanges.coveredTokenCount_apart hranges, hsizes]
  · apply List.pairwise_map.mpr
    refine hafter.imp fun {m m'} hle he => ?_
    have hp := m.targetSegment.size_pos
    rw [TokenSegment.size_eq_range] at hp
    unfold TokenRange.size at hp
    rw [← he] at hle
    omega
  · obtain ⟨m, hm, rfl⟩ := List.mem_map.mp hs
    obtain ⟨v, hv, rfl⟩ := List.mem_map.mp hm
    rw [← v.range_eq]
    exact (hplaced v hv).2

end

section
variable (sha256 : Bytes → Digest) (config : RuntimeConfig)

/-- A status, a plan and windows that the metadata of the request accepts. -/
structure Fits (request : SchedulerLookupRequest) (status : SchedulerLookupStatus)
    (p : LmcacheLookupPlan) (windows : List TokenRange) : Prop where
  searched : windows = queryWindowsOf request.promptTokenIds.length ∨
    windows = [] ∧ status.windowsRequired = false
  ready : status = .transferReady → p.verifiedCandidates ≠ [] ∧ windows ≠ []
  otherwise : status ≠ .transferReady → p.verifiedCandidates = []
  candidates : checkCandidates sha256 config.cacheNamespace request.promptTokenIds 0
    p.verifiedCandidates = .ok ()

theorem queryWindowsOf_spec (n : ℕ) :
    (queryWindowsOf n).length = n+1-lmcacheChunkSize ∧
      (∀ w ∈ queryWindowsOf n, w.size = lmcacheChunkSize ∧ w.stop ≤ n) ∧
      ∀ w ∈ (queryWindowsOf n).zipIdx, w.1.start = w.2 ∧ w.1.stop = w.2+lmcacheChunkSize := by
  unfold queryWindowsOf
  split_ifs with h
  · exact ⟨by rw [List.length_nil]; omega, fun _ hw => (nomatch hw), fun _ hw => (nomatch hw)⟩
  · refine ⟨?_, fun w hw => ?_, fun w hw => ?_⟩
    · rw [List.length_map, List.length_range]
      omega
    · obtain ⟨start, hs, rfl⟩ := List.mem_map.mp hw
      rw [List.mem_range] at hs
      refine ⟨Nat.add_sub_cancel_left start lmcacheChunkSize, ?_⟩
      show start+lmcacheChunkSize ≤ n
      omega
    · obtain ⟨w, i⟩ := w
      have hget := List.mem_zipIdx_iff_getElem?.mp hw
      rw [List.getElem?_map] at hget
      obtain ⟨start, hs, rfl⟩ := Option.map_eq_some_iff.mp hget
      obtain ⟨hi, hrange⟩ := List.getElem?_eq_some_iff.mp hs
      rw [List.getElem_range] at hrange
      exact ⟨hrange.symm, congrArg (· + lmcacheChunkSize) hrange.symm⟩

variable {sha256 config}

theorem requestPlanOf_returns {request : SchedulerLookupRequest} {p : LmcacheLookupPlan}
    (h : checkCandidates sha256 config.cacheNamespace request.promptTokenIds 0
      p.verifiedCandidates = .ok ()) :
    ∃ plan, requestPlanOf request p = .ok plan ∧
      plan.promptTokens = request.promptTokenIds.length ∧
      plan.matchPlan.verifiedMatches = expectedMatches p := by
  obtain ⟨hfacts, hnodup, hin⟩ := expected_facts h
  obtain ⟨plan, hnew, hprompt, hplan, _⟩ := MetricReconciliation.requestPlan_accepted hfacts
    request.requestId request.promptTokenIds.length request.id_nonempty hnodup hin
  refine ⟨plan, ?_, hprompt, by rw [hplan]⟩
  unfold requestPlanOf
  dsimp only
  rw [hnew]
  rfl

theorem buildMetadata_returns {request : SchedulerLookupRequest} {status : SchedulerLookupStatus}
    {p : LmcacheLookupPlan} {windows : List TokenRange}
    (h : Fits sha256 config request status p windows) (generation : ℕ) :
    ∃ md, SchedulerLookupRuntime.buildMetadata request status p windows generation = .ok md ∧
      md.status = status := by
  obtain ⟨plan, hplan, hprompt, hmatches⟩ := requestPlanOf_returns h.candidates
  obtain ⟨hcount, hbounds, hplaces⟩ := queryWindowsOf_spec request.promptTokenIds.length
  unfold SchedulerLookupRuntime.buildMetadata
  rw [hplan]
  refine ⟨_, metadata_new_of_valid ?_, rfl⟩
  have hempty : windows = [] ∨ windows = queryWindowsOf request.promptTokenIds.length :=
    h.searched.symm.imp And.left id
  refine (require_then_iff _ _ _ _).mpr ⟨rfl, ?_⟩
  refine (require_then_iff _ _ _ _).mpr ⟨⟨request.prompt_nonempty, hprompt⟩, ?_⟩
  refine (require_then_iff _ _ _ _).mpr ⟨?_, ?_⟩
  · obtain rfl | rfl := hempty
    · exact fun _ hw => (nomatch hw)
    · exact hbounds
  refine (require_then_iff _ _ _ _).mpr ⟨fun hr => ?_, ?_⟩
  · obtain rfl | ⟨_, hn⟩ := h.searched
    · exact hcount
    · exact absurd hr (by rw [hn]; exact Bool.false_ne_true)
  refine (require_then_iff _ _ _ _).mpr ⟨?_, ?_⟩
  · obtain rfl | rfl := hempty
    · exact fun _ hw => (nomatch hw)
    · exact hplaces
  refine (require_then_iff _ _ _ _).mpr ⟨⟨rfl, rfl⟩, ?_⟩
  refine (require_then_iff _ _ _ _).mpr ⟨hmatches, ?_⟩
  split_ifs with hs
  · exact require_of _ (h.ready hs)
  · refine require_of _ ?_
    show p.verifiedCandidates.map _ = []
    rw [h.otherwise hs]
    rfl

theorem finishLookup_returns {request : SchedulerLookupRequest} {status : SchedulerLookupStatus}
    {p : LmcacheLookupPlan} {windows : List TokenRange}
    (h : Fits sha256 config request status p windows) (rt : SchedulerLookupRuntime) :
    ∃ md rt', SchedulerLookupRuntime.finishLookup request status p windows rt = (.ok md, rt') ∧
      md.status = status ∧ (status.isFatal = true → rt' = rt) := by
  obtain ⟨md, hb, hs⟩ := buildMetadata_returns h 0
  have hrun : SchedulerLookupRuntime.finishLookup request status p windows rt =
      (if status.isFatal = true then (pure md : RuntimeCall SchedulerLookupMetadata)
        else SchedulerLookupRuntime.retain request md) rt := by
    unfold SchedulerLookupRuntime.finishLookup
    rw [hb]
    rfl
  by_cases hf : status.isFatal = true
  · rw [if_pos hf] at hrun
    exact ⟨md, rt, hrun, hs, fun _ => rfl⟩
  · rw [if_neg hf] at hrun
    exact ⟨md, _, hrun, hs, fun h => absurd h hf⟩

theorem fits_empty (sha256 : Bytes → Digest) (config : RuntimeConfig)
    (request : SchedulerLookupRequest) (status : SchedulerLookupStatus)
    {windows : List TokenRange} (hs : status ≠ .transferReady)
    (hw : windows = queryWindowsOf request.promptTokenIds.length ∨
      windows = [] ∧ status.windowsRequired = false) :
    Fits sha256 config request status emptyLookupPlan windows :=
  ⟨hw, fun h => absurd h hs, fun _ => rfl, rfl⟩

/-- A fatal runtime holds no request, and answers with a fatal status. -/
structure Failed (rt : SchedulerLookupRuntime) : Prop where
  state : rt.state = .fatal
  released : rt.requests = Dict.empty
  status : (rt.fatalStatus.getD .fatalProtocolDrift).isFatal = true

theorem failed_markFatal (rt : SchedulerLookupRuntime) {status : SchedulerLookupStatus}
    (h : status.isFatal = true) : Failed (rt.markFatal status) :=
  ⟨rfl, rfl, h⟩

theorem failed_mark (rt : SchedulerLookupRuntime) {status : SchedulerLookupStatus}
    (h : status.isFatal = true) : Failed (rt.mark status) := by
  unfold SchedulerLookupRuntime.mark
  rw [if_pos h]
  exact failed_markFatal rt h

/-- The transport state that a call returns, and the runtime after it. -/
def Prepared (state : SchedulerRuntimeState) (rt : SchedulerLookupRuntime) : Prop :=
  state = .fatal ∧ Failed rt ∨ (state = .ready ∨ state = .degraded)

theorem openTransport_prepares (env : Environment) {rt : SchedulerLookupRuntime}
    (h : rt.state = .created) :
    ∃ state rt', SchedulerLookupRuntime.openTransport env rt = (.ok state, rt') ∧
      Prepared state rt' := by
  unfold SchedulerLookupRuntime.openTransport
  rw [h]
  dsimp only
  split
  · exact ⟨_, _, rfl, Or.inr (Or.inl rfl)⟩
  · exact ⟨_, _, rfl, Or.inr (Or.inr rfl)⟩
  · exact ⟨_, _, rfl, Or.inl ⟨rfl, failed_markFatal rt rfl⟩⟩

theorem replaceTransport_prepares (env : Environment) (rt : SchedulerLookupRuntime) :
    ∃ state rt', SchedulerLookupRuntime.replaceTransport env rt = (.ok state, rt') ∧
      Prepared state rt' := by
  unfold SchedulerLookupRuntime.replaceTransport
  split
  · exact ⟨_, _, rfl, Or.inr (Or.inr rfl)⟩
  · exact ⟨_, _, rfl, Or.inl ⟨rfl, failed_markFatal rt rfl⟩⟩
  · exact ⟨_, _, rfl, Or.inl ⟨rfl, failed_markFatal rt rfl⟩⟩
  · next closes _ =>
    refine ⟨_, _, rfl, Or.inl ⟨rfl, failed_markFatal rt ?_⟩⟩
    cases closes with
    | true => rfl
    | false => rfl
  · exact openTransport_prepares env rfl

theorem readyTransport_prepares (env : Environment) {rt : SchedulerLookupRuntime}
    (ha : rt.state ≠ .fatal ∧ rt.state ≠ .closed) :
    ∃ state rt', SchedulerLookupRuntime.readyTransport env rt = (.ok state, rt') ∧
      Prepared state rt' := by
  unfold SchedulerLookupRuntime.readyTransport
  rw [Call.read_bind]
  cases hs : rt.state with
  | created => exact openTransport_prepares env hs
  | ready => exact ⟨_, _, rfl, Or.inr (Or.inl rfl)⟩
  | degraded =>
    dsimp only
    unfold SchedulerLookupRuntime.retryDegradedTransportOnce
    split_ifs
    · exact ⟨_, _, rfl, Or.inl ⟨rfl, failed_markFatal rt rfl⟩⟩
    · exact replaceTransport_prepares env _
  | fatal => exact absurd hs ha.1
  | closed => exact absurd hs ha.2

theorem eligibility_refuses {request : SchedulerLookupRequest} {status : SchedulerLookupStatus}
    (h : SchedulerLookupRuntime.eligibilityStatus config request = some status) :
    status ≠ .transferReady ∧ status.windowsRequired = false := by
  unfold SchedulerLookupRuntime.eligibilityStatus at h
  split_ifs at h <;> cases h <;> exact ⟨SchedulerLookupStatus.noConfusion, rfl⟩

theorem plan_nil {records : RecordLookup} {prompt : List TokenId} {p : LmcacheLookupPlan}
    (h : plan sha256 records (prompt.map (fun t => (t.val : ℤ))) config.cacheNamespace [] =
      .ok p) : p.verifiedCandidates = [] := by
  unfold plan at h
  rw [normalizeTokenIds_val] at h
  obtain ⟨st, hst, h⟩ := (checked_ok_iff _ _ _).mp h
  cases hst
  exact concludePlan_verified h

theorem verifyCandidates_fits (records : RecordLookup) (request : SchedulerLookupRequest)
    (candidates : List LmcacheCandidate) :
    let windows := queryWindowsOf request.promptTokenIds.length
    let answer := SchedulerLookupRuntime.verifyCandidates sha256 config records request candidates
      windows.length
    Fits sha256 config request answer.1 answer.2 windows := by
  intro windows answer
  show Fits sha256 config request (SchedulerLookupRuntime.verifyCandidates sha256 config records
    request candidates windows.length).1 (SchedulerLookupRuntime.verifyCandidates sha256 config
    records request candidates windows.length).2 windows
  unfold SchedulerLookupRuntime.verifyCandidates
  cases hc : SchedulerLookupRuntime.structuralChecks candidates windows.length with
  | error status =>
    have hstatus : status = .fatalProtocolDrift := by
      unfold SchedulerLookupRuntime.structuralChecks at hc
      simp only [require] at hc
      split_ifs at hc <;> cases hc <;> rfl
    subst hstatus
    exact fits_empty sha256 config request _ SchedulerLookupStatus.noConfusion (Or.inl rfl)
  | ok u =>
    obtain ⟨hsizes, hcount⟩ := (require_then_iff _ _ _ _).mp hc
    have hcount := (require_ok_iff _ _ _).mp hcount
    dsimp only
    cases hp : plan sha256 records (request.promptTokenIds.map (fun t => (t.val : ℤ)))
        config.cacheNamespace candidates with
    | error e =>
      unfold SchedulerLookupRuntime.coordinatorStatus
      dsimp only
      split_ifs <;>
        exact fits_empty sha256 config request _ SchedulerLookupStatus.noConfusion (Or.inl rfl)
    | ok p =>
      have hagree := plan_candidates_agree sha256 request.promptTokenIds config.cacheNamespace
        (fun c hm => (hsizes c hm).2) hp
      unfold SchedulerLookupRuntime.coordinatorStatus
      dsimp only
      split_ifs with hv
      · refine ⟨Or.inl rfl, fun _ => ⟨hv, fun hw => hv ?_⟩, fun h => absurd rfl h, hagree⟩
        rw [hw, List.length_nil, Nat.le_zero, List.length_eq_zero_iff] at hcount
        rw [hcount] at hp
        exact plan_nil hp
      · exact ⟨Or.inl rfl, nofun, fun _ => not_not.mp hv, hagree⟩

theorem askCandidates_fits (sha256 : Bytes → Digest) (config : RuntimeConfig)
    (env : Environment) (request : SchedulerLookupRequest) (rt : SchedulerLookupRuntime) :
    let windows := queryWindowsOf request.promptTokenIds.length
    let answer := rt.askCandidates sha256 config env request windows.length
    Fits sha256 config request answer.1.1 answer.1.2 windows ∧
      (answer.1.1.isFatal = true → Failed answer.2) := by
  intro windows answer
  cases hc : env.candidates with
  | error failure =>
    cases failure with
    | operation =>
      have ha : answer = ((.fullPrefillTransportError, emptyLookupPlan),
          { rt with state := .degraded }) := by
        show rt.askCandidates sha256 config env request windows.length = _
        unfold SchedulerLookupRuntime.askCandidates
        rw [hc]
      rw [ha]
      exact ⟨fits_empty sha256 config request _ SchedulerLookupStatus.noConfusion (Or.inl rfl),
        nofun⟩
    | other =>
      have ha : answer = ((.fatalProtocolDrift, emptyLookupPlan),
          rt.markFatal .fatalProtocolDrift) := by
        show rt.askCandidates sha256 config env request windows.length = _
        unfold SchedulerLookupRuntime.askCandidates
        rw [hc]
      rw [ha]
      exact ⟨fits_empty sha256 config request _ SchedulerLookupStatus.noConfusion (Or.inl rfl),
        fun _ => failed_markFatal rt rfl⟩
  | ok candidates =>
    have ha : answer = (SchedulerLookupRuntime.verifyCandidates sha256 config env.records request
        candidates windows.length, rt.mark (SchedulerLookupRuntime.verifyCandidates sha256 config
          env.records request candidates windows.length).1) := by
      show rt.askCandidates sha256 config env request windows.length = _
      unfold SchedulerLookupRuntime.askCandidates
      rw [hc]
    rw [ha]
    exact ⟨verifyCandidates_fits env.records request candidates, fun h => failed_mark rt h⟩

/-- A lookup returned, and a fatal answer has failed the runtime. -/
def Returned (answer : Except SchedulerRuntimeError SchedulerLookupMetadata ×
    SchedulerLookupRuntime) : Prop :=
  ∃ md, answer.1 = .ok md ∧ (md.status.isFatal = true → Failed answer.2)

theorem finishLookup_returned {request : SchedulerLookupRequest} {status : SchedulerLookupStatus}
    {p : LmcacheLookupPlan} {windows : List TokenRange} {rt : SchedulerLookupRuntime}
    (h : Fits sha256 config request status p windows) (hf : status.isFatal = true → Failed rt) :
    Returned (SchedulerLookupRuntime.finishLookup request status p windows rt) := by
  obtain ⟨md, rt', hl, hs, hkept⟩ := finishLookup_returns h rt
  rw [hl]
  refine ⟨md, rfl, fun hfatal => ?_⟩
  rw [hs] at hfatal
  show Failed rt'
  rw [hkept hfatal]
  exact hf hfatal

theorem firstLookup_returned (env : Environment) (request : SchedulerLookupRequest)
    {rt : SchedulerLookupRuntime} (ha : rt.state ≠ .fatal ∧ rt.state ≠ .closed) :
    Returned (SchedulerLookupRuntime.firstLookup sha256 config env request rt) := by
  unfold SchedulerLookupRuntime.firstLookup
  cases he : SchedulerLookupRuntime.eligibilityStatus config request with
  | some status =>
    obtain ⟨hready, hwindows⟩ := eligibility_refuses he
    dsimp only
    rw [Call.modify_bind]
    exact finishLookup_returned
      (fits_empty sha256 config request _ hready (Or.inr ⟨rfl, hwindows⟩)) fun h => failed_mark rt h
  | none =>
    obtain ⟨state, rt', hr, hprepared⟩ := readyTransport_prepares env ha
    dsimp only
    rw [Call.bind_run_ok _ hr]
    obtain ⟨rfl, hfailed⟩ | hstate := hprepared
    · rw [if_neg SchedulerRuntimeState.noConfusion, if_pos rfl, Call.read_bind]
      have hne : rt'.fatalStatus.getD .fatalProtocolDrift ≠ .transferReady := by
        intro h
        have hf := hfailed.status
        rw [h] at hf
        cases hf
      obtain ⟨md, hb, hs⟩ := buildMetadata_returns
        (fits_empty sha256 config request _ hne (Or.inl rfl)) 0
      exact ⟨md, hb, fun _ => hfailed⟩
    · split_ifs with hd hf
      · exact finishLookup_returned
          (fits_empty sha256 config request _ SchedulerLookupStatus.noConfusion (Or.inl rfl)) nofun
      · rw [hf] at hstate
        obtain h | h := hstate
        · cases h
        · cases h
      · rw [Call.read_bind, Call.modify_bind]
        obtain ⟨hfits, hfatal⟩ := askCandidates_fits sha256 config env request rt'
        exact finishLookup_returned hfits hfatal

theorem lookup_returned (env : Environment) (request : SchedulerLookupRequest)
    {rt : SchedulerLookupRuntime} (hs : Sound sha256 config rt) :
    Returned (SchedulerLookupRuntime.lookup sha256 config env request rt) := by
  unfold SchedulerLookupRuntime.lookup
  rw [Call.read_bind, if_neg hs.alive.2, if_neg hs.alive.1]
  cases hg : rt.requests.get? request.requestId with
  | none => exact firstLookup_returned env request hs.alive
  | some old =>
    dsimp only [SchedulerLookupRuntime.repeatOrPreempt]
    obtain ⟨_, ho⟩ := hs.retained _ _ hg
    split_ifs with he hc
    · refine ⟨old.metadata, rfl, fun h => ?_⟩
      rw [ho.nonfatal] at h
      cases h
    · rw [Call.modify_bind]
      obtain ⟨md, hb, _⟩ := buildMetadata_returns
        (fits_empty sha256 config request .fatalDuplicateConflict
          SchedulerLookupStatus.noConfusion (Or.inr ⟨rfl, rfl⟩)) old.metadata.allocationGeneration
      exact ⟨md, hb, fun _ => failed_markFatal rt rfl⟩
    · rw [metadata_new_of_valid (metadata_recounted old.metadata request.preemptionCount
        (old.metadata.allocationGeneration+1))]
      refine ⟨_, rfl, fun h => ?_⟩
      exact absurd h (by rw [Bool.not_eq_true]; exact ho.nonfatal)

end

/-! ## Runs -/

inductive RuntimeEvent where
  | lookup (env : Environment) (request : SchedulerLookupRequest)
  | discard (requestId : String)
  | close (closes : Bool)

section
variable (sha256 : Bytes → Digest) (config : RuntimeConfig)

def runtimeStep (s : ObservedRuntime) : RuntimeEvent → ObservedRuntime
  | .lookup env request => (lookup sha256 config env request s).2
  | .discard requestId => (inner (SchedulerLookupRuntime.discard requestId) s).2
  | .close closes => (close closes s).2

def runtimeRun (events : List RuntimeEvent) (s : ObservedRuntime) : ObservedRuntime :=
  events.foldl (runtimeStep sha256 config) s

/-- The runtime is usable, has failed, or is closed; in the last two it holds no request. -/
inductive Standing (rt : SchedulerLookupRuntime) : Prop
  | usable : Sound sha256 config rt → Standing rt
  | failed : Failed rt → Standing rt
  | closed : rt.state = .closed → rt.requests = Dict.empty → Standing rt

theorem ended_lookup (env : Environment) (request : SchedulerLookupRequest)
    {s : ObservedRuntime} (h : Failed s.runtime ∨ s.runtime.state = .closed) :
    ∃ md, lookup sha256 config env request s = (.ok md, s) ∧ md.status.isFatal = true := by
  have hquiet := lookup_quiet sha256 config env request (s := s)
    (h.symm.imp id fun hf => Or.inl hf.state)
  rw [hquiet]
  unfold inner SchedulerLookupRuntime.lookup
  rw [Call.read_bind]
  obtain hf | hc := h
  · rw [if_neg (by rw [hf.state]; exact SchedulerRuntimeState.noConfusion), if_pos hf.state]
    have hne : s.runtime.fatalStatus.getD .fatalProtocolDrift ≠ .transferReady := by
      intro he
      have hstatus := hf.status
      rw [he] at hstatus
      cases hstatus
    have hwindows : (s.runtime.fatalStatus.getD .fatalProtocolDrift).windowsRequired = false := by
      have hstatus := hf.status
      cases he : s.runtime.fatalStatus.getD .fatalProtocolDrift <;> rw [he] at hstatus <;>
        first | rfl | cases hstatus
    obtain ⟨md, hb, hs⟩ := buildMetadata_returns (fits_empty sha256 config request _ hne
      (Or.inr ⟨rfl, hwindows⟩)) request.preemptionCount
    rw [hb]
    exact ⟨md, rfl, by rw [hs]; exact hf.status⟩
  · rw [if_pos hc]
    obtain ⟨md, hb, hs⟩ := buildMetadata_returns (fits_empty sha256 config request
      .fatalRuntimeClosed SchedulerLookupStatus.noConfusion (Or.inr ⟨rfl, rfl⟩))
      request.preemptionCount
    rw [hb]
    exact ⟨md, rfl, by rw [hs]; rfl⟩

variable {sha256 config}

theorem standing_initial : Standing sha256 config ObservedRuntime.initial.runtime :=
  .usable (sound_initial sha256 config)

theorem lookup_runtime (sha256 : Bytes → Digest) (config : RuntimeConfig) (env : Environment)
    (request : SchedulerLookupRequest) (s : ObservedRuntime) :
    (lookup sha256 config env request s).1 =
        (SchedulerLookupRuntime.lookup sha256 config env request s.runtime).1 ∧
      (lookup sha256 config env request s).2.runtime =
        (SchedulerLookupRuntime.lookup sha256 config env request s.runtime).2 := by
  obtain ⟨made, _, he⟩ := observes_lookup sha256 config env request s
  rw [he]
  exact ⟨rfl, rfl⟩

theorem lookup_standing (env : Environment) (request : SchedulerLookupRequest)
    {s : ObservedRuntime} (h : Standing sha256 config s.runtime) :
    Standing sha256 config (lookup sha256 config env request s).2.runtime := by
  cases h with
  | usable hs =>
    obtain ⟨md, hok, hfatal⟩ := lookup_returned env request hs
    rw [(lookup_runtime sha256 config env request s).2]
    by_cases hf : md.status.isFatal = true
    · exact .failed (hfatal hf)
    · exact .usable (lookup_retains sha256 config hs (Bool.not_eq_true _ ▸ hf)
        (Prod.ext hok rfl)).sound
  | failed hf =>
    obtain ⟨md, hl, _⟩ := ended_lookup sha256 config env request (Or.inl hf)
    rw [hl]
    exact .failed hf
  | closed hc he =>
    obtain ⟨md, hl, _⟩ := ended_lookup sha256 config env request (Or.inr hc)
    rw [hl]
    exact .closed hc he

theorem close_runtime (closes : Bool) (s : ObservedRuntime) :
    (close closes s).2.runtime = (SchedulerLookupRuntime.close closes s.runtime).2 := by
  unfold close
  rw [Call.read_bind]
  split_ifs
  · rfl
  · rfl

theorem close_standing (closes : Bool) {s : ObservedRuntime}
    (h : Standing sha256 config s.runtime) :
    Standing sha256 config (close closes s).2.runtime := by
  rw [close_runtime]
  unfold SchedulerLookupRuntime.close
  split_ifs with hc
  · exact h
  · exact .closed rfl rfl
  · exact .closed rfl rfl
  · exact .failed ⟨rfl, rfl, rfl⟩

theorem discard_standing (requestId : String) {s : ObservedRuntime}
    (h : Standing sha256 config s.runtime) :
    Standing sha256 config (inner (SchedulerLookupRuntime.discard requestId) s).2.runtime := by
  show Standing sha256 config (SchedulerLookupRuntime.discard requestId s.runtime).2
  have herased : s.runtime.requests = Dict.empty →
      (SchedulerLookupRuntime.discard requestId s.runtime).2.requests = Dict.empty := by
    intro he
    show s.runtime.requests.erase requestId = _
    rw [he]
    rfl
  cases h with
  | usable hs => exact .usable (discard_sound sha256 config hs)
  | failed hf => exact .failed ⟨hf.state, herased hf.released, hf.status⟩
  | closed hc he => exact .closed hc (herased he)

theorem step_standing (event : RuntimeEvent) {s : ObservedRuntime}
    (h : Standing sha256 config s.runtime) :
    Standing sha256 config (runtimeStep sha256 config s event).runtime := by
  cases event with
  | lookup env request => exact lookup_standing env request h
  | discard requestId => exact discard_standing requestId h
  | close closes => exact close_standing closes h

theorem run_standing (events : List RuntimeEvent) {s : ObservedRuntime}
    (h : Standing sha256 config s.runtime) :
    Standing sha256 config (runtimeRun sha256 config events s).runtime := by
  induction events generalizing s with
  | nil => exact h
  | cons event events ih => exact ih (step_standing event h)

theorem step_ended (event : RuntimeEvent) {s : ObservedRuntime}
    (h : Failed s.runtime ∨ s.runtime.state = .closed) :
    Failed (runtimeStep sha256 config s event).runtime ∨
      (runtimeStep sha256 config s event).runtime.state = .closed := by
  cases event with
  | lookup env request =>
    obtain ⟨md, hl, _⟩ := ended_lookup sha256 config env request h
    show Failed (lookup sha256 config env request s).2.runtime ∨
      (lookup sha256 config env request s).2.runtime.state = .closed
    rw [hl]
    exact h
  | discard requestId =>
    refine h.imp (fun hf => ⟨hf.state, ?_, hf.status⟩) id
    show s.runtime.requests.erase requestId = _
    rw [hf.released]
    rfl
  | close closes =>
    show Failed (close closes s).2.runtime ∨ (close closes s).2.runtime.state = .closed
    rw [close_runtime]
    unfold SchedulerLookupRuntime.close
    split_ifs with hc
    · exact h
    · exact Or.inr rfl
    · exact Or.inr rfl
    · exact Or.inl ⟨rfl, rfl, rfl⟩

theorem run_ended (sha256 : Bytes → Digest) (config : RuntimeConfig) (events : List RuntimeEvent)
    {s : ObservedRuntime} (h : Failed s.runtime ∨ s.runtime.state = .closed) :
    Failed (runtimeRun sha256 config events s).runtime ∨
      (runtimeRun sha256 config events s).runtime.state = .closed := by
  induction events generalizing s with
  | nil => exact h
  | cons event events ih => exact ih (step_ended event h)

/-- What a lookup answers, which calls it makes and what it leaves of the requests. -/
structure Answered (s s' : ObservedRuntime) (request : SchedulerLookupRequest)
    (md : SchedulerLookupMetadata) (made : List TransportCall) : Prop where
  calls : s'.calls = s.calls ++ made
  once : made.count .opened ≤ 1 ∧ made.count .replaced ≤ 1 ∧ made.count .searched ≤ 1
  external : md.externalSchedulerTokens = 0 ∧ md.loadKvAsync = false
  ready : md.status = .transferReady ↔ md.lookupPlan.verifiedCandidates ≠ []
  retained : md.status.isFatal = false →
    s'.runtime.requests.get? request.requestId = some ⟨request, md⟩ ∧
      ∀ id, id ≠ request.requestId → s'.runtime.requests.get? id = s.runtime.requests.get? id
  dropped : md.status.isFatal = true → s'.runtime.requests = Dict.empty ∧
    (s'.runtime.state = .fatal ∨ s'.runtime.state = .closed)
  repeated : ∀ old, s.runtime.requests.get? request.requestId = some old →
    request = old.request → md = old.metadata
  quiet : (s.runtime.requests.get? request.requestId).isSome = true → made = []
  preempted : ∀ old, s.runtime.requests.get? request.requestId = some old →
    request = { old.request with preemptionCount := old.request.preemptionCount+1 } →
      Renewed old.metadata md request.preemptionCount
  conflicting : ∀ old, s.runtime.requests.get? request.requestId = some old →
    request ≠ old.request →
    request ≠ { old.request with preemptionCount := old.request.preemptionCount+1 } →
      md.status = .fatalDuplicateConflict ∧ s'.runtime.state = .fatal

variable (sha256 config)

/-- A runtime that still answers a request as it did when it answered with `md`. -/
structure Remembers (s : ObservedRuntime) (request : SchedulerLookupRequest)
    (md : SchedulerLookupMetadata) : Prop where
  repeated : ∀ env, lookup sha256 config env request s = (.ok md, s)
  preempted : ∀ env again,
    again = { request with preemptionCount := request.preemptionCount+1 } →
      ∃ md' s', lookup sha256 config env again s = (.ok md', s') ∧
        Renewed md md' again.preemptionCount ∧ s'.runtime.state = s.runtime.state ∧
        s'.calls = s.calls
  conflicting : ∀ env again, again.requestId = request.requestId → again ≠ request →
    again ≠ { request with preemptionCount := request.preemptionCount+1 } →
      ∃ md' s', lookup sha256 config env again s = (.ok md', s') ∧
        md'.status = .fatalDuplicateConflict ∧ s'.runtime.state = .fatal ∧ s'.calls = s.calls

/-- A discard answers what is retained for the request, and forgets that alone. -/
structure Discarded (s s' : ObservedRuntime) (requestId : String)
    (answer : Except SchedulerRuntimeError (Option SchedulerLookupMetadata)) : Prop where
  answer : answer =
    .ok ((s.runtime.requests.get? requestId).map StoredRequest.metadata)
  forgotten : s'.runtime.requests.get? requestId = none
  others : ∀ id, id ≠ requestId → s'.runtime.requests.get? id = s.runtime.requests.get? id
  kept : s'.runtime.state = s.runtime.state ∧ s'.calls = s.calls

/-- A close forgets every request, and leaves the runtime closed, or fatal when
the transport does not close. -/
structure Closed (s s' : ObservedRuntime) (closes : Bool)
    (answer : Except SchedulerRuntimeError Unit) : Prop where
  forgotten : s'.runtime.requests = Dict.empty
  ended : answer = .ok () ∧ s'.runtime.state = .closed ∨
    answer = .error (.runtime .closeFailed) ∧ closes = false ∧ s'.runtime.state = .fatal
  calls : ∃ made, made.Sublist [.closed] ∧ s'.calls = s.calls ++ made

theorem metadata_promises (md : SchedulerLookupMetadata) :
    (md.externalSchedulerTokens = 0 ∧ md.loadKvAsync = false) ∧
      (md.status = .transferReady ↔ md.lookupPlan.verifiedCandidates ≠ []) := by
  have h := md.valid
  unfold checkMetadata at h
  obtain ⟨_, h⟩ := (require_then_iff _ _ _ _).mp h
  obtain ⟨_, h⟩ := (require_then_iff _ _ _ _).mp h
  obtain ⟨_, h⟩ := (require_then_iff _ _ _ _).mp h
  obtain ⟨_, h⟩ := (require_then_iff _ _ _ _).mp h
  obtain ⟨_, h⟩ := (require_then_iff _ _ _ _).mp h
  obtain ⟨hexternal, h⟩ := (require_then_iff _ _ _ _).mp h
  obtain ⟨_, h⟩ := (require_then_iff _ _ _ _).mp h
  refine ⟨hexternal, ?_⟩
  split_ifs at h with hs
  · exact ⟨fun _ => ((require_ok_iff _ _ _).mp h).1, fun _ => hs⟩
  · have hempty := List.map_eq_nil_iff.mp ((require_ok_iff _ _ _).mp h)
    exact ⟨fun h => absurd h hs, fun h => absurd hempty h⟩

theorem lookup_held (env : Environment) (request : SchedulerLookupRequest) (old : StoredRequest)
    {rt : SchedulerLookupRuntime} (hs : Sound sha256 config rt)
    (hg : rt.requests.get? request.requestId = some old) :
    let answer := SchedulerLookupRuntime.lookup sha256 config env request rt
    (request = old.request → answer = (.ok old.metadata, rt)) ∧
    (request = { old.request with preemptionCount := old.request.preemptionCount+1 } →
      ∃ md, answer.1 = .ok md ∧ Renewed old.metadata md request.preemptionCount ∧
        answer.2.state = rt.state) ∧
    (request ≠ old.request →
      request ≠ { old.request with preemptionCount := old.request.preemptionCount+1 } →
        ∃ md, answer = (.ok md, rt.markFatal .fatalDuplicateConflict) ∧
          md.status = .fatalDuplicateConflict) := by
  have hrun : SchedulerLookupRuntime.lookup sha256 config env request rt =
      SchedulerLookupRuntime.repeatOrPreempt old request rt := by
    unfold SchedulerLookupRuntime.lookup
    rw [Call.read_bind, if_neg hs.alive.2, if_neg hs.alive.1, hg]
  intro answer
  have ha : answer = SchedulerLookupRuntime.repeatOrPreempt old request rt := hrun
  unfold SchedulerLookupRuntime.repeatOrPreempt at ha
  refine ⟨fun he => ?_, fun hp => ?_, fun hne hnp => ?_⟩
  · rw [if_pos he] at ha
    exact ha
  · have hcount : request.preemptionCount = old.request.preemptionCount+1 := by rw [hp]
    have hne : request ≠ old.request := by
      intro he
      rw [he] at hcount
      omega
    have hrest : { request with preemptionCount := old.request.preemptionCount } =
        old.request := by rw [hp]
    have hnew := metadata_new_of_valid (metadata_recounted old.metadata request.preemptionCount
      (old.metadata.allocationGeneration+1))
    rw [if_neg hne, if_neg (not_or.mpr ⟨not_not.mpr hcount, not_not.mpr hrest⟩), hnew] at ha
    exact ⟨_, congrArg Prod.fst ha, metadata_new_fields hnew,
      congrArg (fun answer => answer.2.state) ha⟩
  · have hconflict : request.preemptionCount ≠ old.request.preemptionCount+1 ∨
        { request with preemptionCount := old.request.preemptionCount } ≠ old.request := by
      by_contra h
      obtain ⟨hcount, hrest⟩ := not_or.mp h
      exact hnp (by rw [← not_not.mp hcount, ← not_not.mp hrest])
    obtain ⟨md, hb, hstatus⟩ := buildMetadata_returns
      (fits_empty sha256 config request .fatalDuplicateConflict SchedulerLookupStatus.noConfusion
        (Or.inr ⟨rfl, rfl⟩)) old.metadata.allocationGeneration
    rw [if_neg hne, if_pos hconflict, Call.modify_bind, hb] at ha
    exact ⟨md, ha, hstatus⟩

theorem standing_held {rt : SchedulerLookupRuntime} (h : Standing sha256 config rt) {id : String}
    {old : StoredRequest} (hg : rt.requests.get? id = some old) : Sound sha256 config rt := by
  cases h with
  | usable hs => exact hs
  | failed hf =>
    rw [hf.released] at hg
    cases hg
  | closed _ he =>
    rw [he] at hg
    cases hg

theorem lookup_outcome (env : Environment) (request : SchedulerLookupRequest)
    {s : ObservedRuntime} (h : Standing sha256 config s.runtime) :
    ∃ md s', lookup sha256 config env request s = (.ok md, s') ∧
      (md.status.isFatal = false → Retains sha256 config request md s.runtime s'.runtime) ∧
      (md.status.isFatal = true → s'.runtime.requests = Dict.empty ∧
        (s'.runtime.state = .fatal ∨ s'.runtime.state = .closed)) := by
  obtain ⟨hanswer, hstate⟩ := lookup_runtime sha256 config env request s
  cases h with
  | usable hs =>
    obtain ⟨md, hmd, hfatal⟩ := lookup_returned env request hs
    refine ⟨md, (lookup sha256 config env request s).2, Prod.ext (hanswer.trans hmd) rfl,
      fun hn => ?_, fun hf => ?_⟩
    · exact lookup_retains sha256 config hs hn (Prod.ext hmd hstate.symm)
    · have hfailed := hfatal hf
      rw [← hstate] at hfailed
      exact ⟨hfailed.released, Or.inl hfailed.state⟩
  | failed hf =>
    obtain ⟨md, hl, hfatal⟩ := ended_lookup sha256 config env request (Or.inl hf)
    refine ⟨md, s, hl, fun hn => ?_, fun _ => ⟨hf.released, Or.inl hf.state⟩⟩
    rw [hfatal] at hn
    cases hn
  | closed hc he =>
    obtain ⟨md, hl, hfatal⟩ := ended_lookup sha256 config env request (Or.inr hc)
    refine ⟨md, s, hl, fun hn => ?_, fun _ => ⟨he, Or.inr hc⟩⟩
    rw [hfatal] at hn
    cases hn

theorem held_quiet (env : Environment) (request : SchedulerLookupRequest) (s : ObservedRuntime)
    (hg : (s.runtime.requests.get? request.requestId).isSome = true) :
    lookup sha256 config env request s =
      ((SchedulerLookupRuntime.lookup sha256 config env request s.runtime).1,
        ⟨(SchedulerLookupRuntime.lookup sha256 config env request s.runtime).2, s.calls⟩) :=
  lookup_quiet sha256 config env request (Or.inr (Or.inr hg))

theorem lookup_answered (env : Environment) (request : SchedulerLookupRequest)
    {s : ObservedRuntime} (h : Standing sha256 config s.runtime) :
    ∃ md s' made, lookup sha256 config env request s = (.ok md, s') ∧
      Answered s s' request md made := by
  obtain ⟨md, s', hmd, hretained, hdropped⟩ := lookup_outcome sha256 config env request h
  obtain ⟨made, hmade, hl⟩ := observes_lookup sha256 config env request s
  rw [hmd] at hl
  obtain ⟨hexternal, hready⟩ := metadata_promises md
  have hcount : ∀ call, made.count call ≤ lookupCalls.count call := fun call =>
    hmade.count_le call
  have hcalls : s'.calls = s.calls ++ made := congrArg (fun answer => answer.2.calls) hl
  have hanswer : ∀ answer, SchedulerLookupRuntime.lookup sha256 config env request s.runtime =
      answer → answer = (.ok md, s'.runtime) := by
    intro answer he
    rw [← he]
    exact Prod.ext (congrArg Prod.fst hl).symm
      (congrArg (fun answer => answer.2.runtime) hl).symm
  refine ⟨md, s', made, hmd, hcalls, ⟨hcount .opened, hcount .replaced, hcount .searched⟩,
    hexternal, hready, fun hn => ⟨(hretained hn).own, (hretained hn).others⟩, hdropped,
    fun old hg he => ?_, fun hg => ?_, fun old hg hp => ?_, fun old hg hne hnp => ?_⟩
  · have heq := hanswer _ ((lookup_held sha256 config env request old
      (standing_held sha256 config h hg) hg).1 he)
    exact (Except.ok.inj (congrArg Prod.fst heq)).symm
  · rw [held_quiet sha256 config env request s hg] at hmd
    have hkept : s.calls = s'.calls := congrArg (fun answer => answer.2.calls) hmd
    rw [← hkept] at hcalls
    exact List.append_right_eq_self.mp hcalls.symm
  · obtain ⟨md', heq, hrenewed, _⟩ := (lookup_held sha256 config env request old
      (standing_held sha256 config h hg) hg).2.1 hp
    rw [hanswer _ rfl] at heq
    cases heq
    exact hrenewed
  · obtain ⟨md', heq, hstatus⟩ := (lookup_held sha256 config env request old
      (standing_held sha256 config h hg) hg).2.2 hne hnp
    obtain ⟨hmd', hfatal⟩ := Prod.mk.inj (hanswer _ heq)
    rw [← Except.ok.inj hmd', ← hfatal]
    exact ⟨hstatus, rfl⟩

/-! ## What a run remembers -/

def Spares (requestId : String) : RuntimeEvent → Prop
  | .lookup _ request => request.requestId ≠ requestId
  | .discard id => id ≠ requestId
  | .close _ => True

def Ended (rt : SchedulerLookupRuntime) : Prop := rt.state = .fatal ∨ rt.state = .closed

theorem close_closed (closes : Bool) {s : ObservedRuntime}
    (h : Standing sha256 config s.runtime) :
    Closed s (close closes s).2 closes (close closes s).1 := by
  obtain ⟨⟨state, fatalStatus, requests, due⟩, calls⟩ := s
  by_cases hc : state = .closed
  · subst hc
    have hempty : requests = Dict.empty := by
      cases h with
      | usable hs => exact absurd rfl hs.alive.2
      | failed hf => cases hf.state
      | closed _ he => exact he
    exact ⟨hempty, Or.inl ⟨rfl, rfl⟩, [], List.nil_sublist _, (List.append_nil _).symm⟩
  · have hrun : close closes ⟨⟨state, fatalStatus, requests, due⟩, calls⟩ =
        (if due = true then do
          note .closed
          inner (SchedulerLookupRuntime.close closes)
        else inner (SchedulerLookupRuntime.close closes) : ObservedCall Unit)
          ⟨⟨state, fatalStatus, requests, due⟩, calls⟩ := by
      unfold close
      rw [Call.read_bind]
      simp only [ne_eq, hc, not_false_eq_true, true_and]
    rw [hrun]
    cases due with
    | false =>
      rw [if_neg Bool.false_ne_true]
      unfold inner SchedulerLookupRuntime.close
      rw [if_neg hc, if_pos rfl]
      exact ⟨rfl, Or.inl ⟨rfl, rfl⟩, [], List.nil_sublist _, (List.append_nil _).symm⟩
    | true =>
      rw [if_pos rfl]
      show Closed _ (inner (SchedulerLookupRuntime.close closes)
        ⟨⟨state, fatalStatus, requests, true⟩, calls ++ [.closed]⟩).2 closes
        (inner (SchedulerLookupRuntime.close closes)
          ⟨⟨state, fatalStatus, requests, true⟩, calls ++ [.closed]⟩).1
      unfold inner SchedulerLookupRuntime.close
      rw [if_neg hc, if_neg Bool.noConfusion]
      cases closes with
      | false => exact ⟨rfl, Or.inr ⟨rfl, rfl, rfl⟩, [.closed], List.Sublist.refl _, rfl⟩
      | true => exact ⟨rfl, Or.inl ⟨rfl, rfl⟩, [.closed], List.Sublist.refl _, rfl⟩

theorem discard_discarded (requestId : String) (s : ObservedRuntime) :
    Discarded s (inner (SchedulerLookupRuntime.discard requestId) s).2 requestId
      (inner (SchedulerLookupRuntime.discard requestId) s).1 where
  answer := rfl
  forgotten := Dict.get?_erase_self _ _
  others _ hid := Dict.get?_erase_ne _ hid
  kept := ⟨rfl, rfl⟩

theorem step_held (event : RuntimeEvent) {id : String} {s : ObservedRuntime}
    (h : Standing sha256 config s.runtime) (hspares : Spares id event)
    (hrun : ¬Ended (runtimeStep sha256 config s event).runtime) :
    (runtimeStep sha256 config s event).runtime.requests.get? id =
      s.runtime.requests.get? id := by
  cases event with
  | lookup env request =>
    obtain ⟨md, s', hmd, hretained, hdropped⟩ := lookup_outcome sha256 config env request h
    have hs : runtimeStep sha256 config s (.lookup env request) = s' := congrArg Prod.snd hmd
    rw [hs] at hrun ⊢
    by_cases hf : md.status.isFatal = true
    · exact absurd (hdropped hf).2 hrun
    · exact (hretained (Bool.not_eq_true _ ▸ hf)).others id hspares.symm
  | discard other => exact (discard_discarded other s).others id hspares.symm
  | close closes =>
    obtain ⟨_, hclosed⟩ | ⟨_, _, hfatal⟩ := (close_closed sha256 config closes h).ended
    · exact absurd (Or.inr hclosed) hrun
    · exact absurd (Or.inl hfatal) hrun

theorem step_running (event : RuntimeEvent) {s : ObservedRuntime}
    (h : Standing sha256 config s.runtime) (he : Ended s.runtime) :
    Ended (runtimeStep sha256 config s event).runtime := by
  have hf : Failed s.runtime ∨ s.runtime.state = .closed := by
    cases h with
    | usable hs => exact he.elim (fun hf => absurd hf hs.alive.1) Or.inr
    | failed hf => exact Or.inl hf
    | closed hc _ => exact Or.inr hc
  exact (step_ended event hf).imp Failed.state id

theorem run_held (later : List RuntimeEvent) {id : String} {s : ObservedRuntime}
    (h : Standing sha256 config s.runtime) (hspares : ∀ e ∈ later, Spares id e)
    (hrun : ¬Ended (runtimeRun sha256 config later s).runtime) :
    (runtimeRun sha256 config later s).runtime.requests.get? id = s.runtime.requests.get? id := by
  induction later using List.reverseRecOn with
  | nil => rfl
  | append_singleton later event ih =>
    have hstep : runtimeRun sha256 config (later ++ [event]) s =
        runtimeStep sha256 config (runtimeRun sha256 config later s) event :=
      List.foldl_concat ..
    have hstanding := run_standing later h
    rw [hstep] at hrun ⊢
    rw [step_held sha256 config event hstanding (hspares event (by simp)) hrun]
    exact ih (fun e he => hspares e (by simp [he]))
      fun hended => hrun (step_running sha256 config event hstanding hended)

theorem held_remembers {s : ObservedRuntime} {request : SchedulerLookupRequest}
    {md : SchedulerLookupMetadata} (h : Standing sha256 config s.runtime)
    (hg : s.runtime.requests.get? request.requestId = some ⟨request, md⟩) :
    Remembers sha256 config s request md := by
  have hsound := standing_held sha256 config h hg
  have hquiet : ∀ env again, again.requestId = request.requestId →
      lookup sha256 config env again s =
        ((SchedulerLookupRuntime.lookup sha256 config env again s.runtime).1,
          ⟨(SchedulerLookupRuntime.lookup sha256 config env again s.runtime).2, s.calls⟩) := by
    intro env again hid
    exact held_quiet sha256 config env again s (by rw [hid, hg]; rfl)
  refine ⟨fun env => ?_, fun env again hp => ?_, fun env again hid hne hnp => ?_⟩
  · rw [hquiet env request rfl,
      (lookup_held sha256 config env request _ hsound hg).1 rfl]
  · have hid : again.requestId = request.requestId := by rw [hp]
    obtain ⟨md', he, hrenewed, hstate⟩ :=
      (lookup_held sha256 config env again _ hsound (hid ▸ hg)).2.1 hp
    rw [hquiet env again hid, he]
    exact ⟨md', _, rfl, hrenewed, hstate, rfl⟩
  · obtain ⟨md', he, hstatus⟩ :=
      (lookup_held sha256 config env again _ hsound (hid ▸ hg)).2.2 hne hnp
    rw [hquiet env again hid, he]
    exact ⟨md', _, rfl, hstatus, rfl, rfl⟩

/-- In every run a lookup returns, and what it answers is remembered until the
request is looked up again or discarded or the runtime ends. Once the runtime is
fatal it holds no request, and every later lookup is fatal and calls nothing.
What the transport, its factory and the sidecar raise are exceptions that
`except Exception` catches. -/
theorem runs_answer (events : List RuntimeEvent) :
    let s := runtimeRun sha256 config events .initial
    (∀ env request, ∃ md s' made, lookup sha256 config env request s = (.ok md, s') ∧
      Answered s s' request md made) ∧
    (∀ env request md s', lookup sha256 config env request s = (.ok md, s') →
      md.status.isFatal = false →
        ∀ later : List RuntimeEvent, (∀ e ∈ later, Spares request.requestId e) →
          ¬Ended (runtimeRun sha256 config later s').runtime →
            Remembers sha256 config (runtimeRun sha256 config later s') request md) ∧
    (∀ requestId, Discarded s (inner (SchedulerLookupRuntime.discard requestId) s).2 requestId
      (inner (SchedulerLookupRuntime.discard requestId) s).1) ∧
    (∀ closes, Closed s (close closes s).2 closes (close closes s).1) ∧
    (s.runtime.state = .fatal → s.runtime.requests = Dict.empty ∧
      ∀ later env request, ∃ md,
        lookup sha256 config env request (runtimeRun sha256 config later s) =
            (.ok md, runtimeRun sha256 config later s) ∧
          md.status.isFatal = true ∧
          (runtimeRun sha256 config later s).runtime.requests = Dict.empty) := by
  intro s
  have hs : Standing sha256 config s.runtime := run_standing events standing_initial
  refine ⟨fun env request => lookup_answered sha256 config env request hs,
    fun env request md s' hl hn later hspares hrun => ?_, fun requestId =>
    discard_discarded requestId s, fun closes => close_closed sha256 config closes hs,
    fun hfatal => ?_⟩
  · have hs' : Standing sha256 config s'.runtime := by
      have hstanding := lookup_standing env request hs
      rwa [hl] at hstanding
    obtain ⟨md', s'', hl', hretained, _⟩ := lookup_outcome sha256 config env request hs
    rw [hl] at hl'
    cases hl'
    refine held_remembers sha256 config (run_standing later hs') ?_
    rw [run_held sha256 config later hs' hspares hrun]
    exact (hretained hn).own
  have hfailed : Failed s.runtime := by
    cases hs with
    | usable hs => exact absurd hfatal hs.alive.1
    | failed hf => exact hf
    | closed hc _ =>
      rw [hc] at hfatal
      cases hfatal
  refine ⟨hfailed.released, fun later env request => ?_⟩
  have hended := run_ended sha256 config later (Or.inl hfailed)
  obtain ⟨md, hl, hf⟩ := ended_lookup sha256 config env request hended
  refine ⟨md, hl, hf, ?_⟩
  cases run_standing later hs with
  | usable hu =>
    obtain he | hc := hended
    · exact absurd he.state hu.alive.1
    · exact absurd hc hu.alive.2
  | failed hf => exact hf.released
  | closed _ he => exact he

end

/-! ## A request that is looked up again -/

open CacheBlend.LookupPlans (exampleNamespace zeroDigest)

def zeroHash : Bytes → Digest := fun _ => zeroDigest

def zeroConfig : RuntimeConfig := ⟨exampleNamespace, 8192⟩

theorem zeroPrompt_nonempty : List.replicate 272 (0 : TokenId) ≠ [] := nofun

theorem zeroPrompt_bounded :
    (List.replicate 272 (0 : TokenId)).length ≤ HybridLayout.gptOssMaxContextTokens := by
  rw [List.length_replicate]
  decide

def zeroRequest (preemptions : ℕ) : SchedulerLookupRequest :=
  ⟨"r", List.replicate 272 0, 1, 0, 0, 0, preemptions, by decide, by decide, zeroPrompt_nonempty,
    zeroPrompt_bounded, le_refl 1, Nat.zero_le _⟩

/-- A transport that fails as soon as it is called. -/
def failingEnvironment : Environment :=
  { candidateEnvironment with candidates := .error .other }

theorem zeroRequest_found :
    let answer := lookup zeroHash zeroConfig candidateEnvironment (zeroRequest 0) .initial
    (answer.1.toOption.map (fun md => md.status), answer.2.calls, answer.2.runtime.state) =
      (some .transferReady, [.opened, .searched], .ready) := by
  decide +kernel

/-- Looked up, looked up again, preempted once, and then looked up as before. -/
theorem zeroRequest_remembered : ∃ md md' md'' s₁ s₂ s₃,
    lookup zeroHash zeroConfig candidateEnvironment (zeroRequest 0) .initial = (.ok md, s₁) ∧
    md.status = .transferReady ∧ s₁.calls = [.opened, .searched] ∧
    lookup zeroHash zeroConfig failingEnvironment (zeroRequest 0) s₁ = (.ok md, s₁) ∧
    lookup zeroHash zeroConfig failingEnvironment (zeroRequest 1) s₁ = (.ok md', s₂) ∧
    Renewed md md' 1 ∧ s₂.calls = s₁.calls ∧
    lookup zeroHash zeroConfig failingEnvironment (zeroRequest 0) s₂ = (.ok md'', s₃) ∧
    md''.status = .fatalDuplicateConflict ∧ s₃.runtime.state = .fatal ∧ s₃.calls = s₁.calls := by
  obtain ⟨hanswers, hremembers, _⟩ := runs_answer zeroHash zeroConfig []
  obtain ⟨md, s₁, _, hl, _⟩ := hanswers candidateEnvironment (zeroRequest 0)
  change lookup zeroHash zeroConfig candidateEnvironment (zeroRequest 0) .initial = _ at hl
  have hfound := zeroRequest_found
  dsimp only at hfound
  rw [hl] at hfound
  obtain ⟨hstatus, hfound⟩ := Prod.mk.inj hfound
  obtain ⟨hcalls, hstate⟩ := Prod.mk.inj hfound
  have hready : md.status = .transferReady := Option.some.inj hstatus
  have hrunning : ∀ s : ObservedRuntime, s.runtime.state = s₁.runtime.state →
      ¬Ended s.runtime := by
    intro s hs
    unfold Ended
    rw [hs, hstate]
    decide
  have hfirst := hremembers candidateEnvironment (zeroRequest 0) md s₁ hl (by rw [hready]; rfl) []
    (fun _ he => (nomatch he)) (hrunning _ rfl)
  obtain ⟨md', s₂, hl', hrenewed, hstate', hkept⟩ :=
    hfirst.preempted failingEnvironment (zeroRequest 1) rfl
  -- the preempted lookup is the last answer from here on
  obtain ⟨_, hremembers', _⟩ := runs_answer zeroHash zeroConfig
    [.lookup candidateEnvironment (zeroRequest 0)]
  have hrun : runtimeRun zeroHash zeroConfig [.lookup candidateEnvironment (zeroRequest 0)]
      .initial = s₁ := congrArg Prod.snd hl
  rw [hrun] at hremembers'
  have hready' : md'.status = .transferReady :=
    (congrArg MetadataFields.status hrenewed).trans hready
  have hagain := hremembers' failingEnvironment (zeroRequest 1) md' s₂ hl' (by rw [hready']; rfl) []
    (fun _ he => (nomatch he)) (hrunning _ hstate')
  obtain ⟨md'', s₃, hl'', hconflict, hfatal, hkept'⟩ :=
    hagain.conflicting failingEnvironment (zeroRequest 0) rfl (by decide +kernel)
      (by decide +kernel)
  exact ⟨md, md', md'', s₁, s₂, s₃, hl, hready, hcalls, hfirst.repeated failingEnvironment, hl',
    hrenewed, hkept, hl'', hconflict, hfatal, hkept'.trans hkept⟩

end CacheBlend.LookupRuns
