import CacheBlend.LookupPlans
import CacheBlend.Runs
import CacheBlend.TransportRequests

/-!
# A failed request stops the transport

After a request that fails or is not answered as expected, only a close puts
another request on the wire. The one exception is a lookup response with a
range that `len` cannot measure: the overflow leaves the transport as it was.
-/

set_option autoImplicit false

namespace CacheBlend.TransportFailStop
open CacheBlend.PlannerModels CacheBlend.LmcacheTypes CacheBlend.LmcacheTransport
open CacheBlend.TransferRuntime CacheBlend.TransportRequests
open CacheBlend.ExactMatcher (CBMatchResult)
open CacheBlend.TransportLifecycle (LmcacheTransportState)

/-! ## Expected answers -/

/-- A match of one complete chunk inside a query of `n` tokens. -/
def WellShaped (n : ℕ) (raw : RawMatch) : Prop :=
  ∃ (s t : ℕ) (hash : Bytes), raw = .cbMatchResult (some s) (some (s+lmcacheChunkSize : ℕ))
    (some t) (some (t+lmcacheChunkSize : ℕ)) (some hash) ∧
      t+lmcacheChunkSize ≤ n ∧ hash.length = 32

def Acceptable : LmcacheRequest → Response → Prop
  | .getChunkSize, response => response = .int lmcacheChunkSize
  | .register .., response | .unregister _, response => response = .none
  | .lookup key, response => ∃ values, response = .list values ∧
      ∀ raw ∈ values, WellShaped key.tokenIds.length raw
  | _, response => response = .bool true

/-- The request did not fail, and its response has the right shape. -/
def Succeeded (e : Sent) : Prop :=
  ∃ response, e.exchange = .answered response ∧ Acceptable e.request response

/-- The bounds of a range that is not empty and can be measured. -/
def Measured (start stop : Option ℤ) : Prop :=
  ∃ a b : ℤ, start = some a ∧ stop = some b ∧ 0 ≤ a ∧ a < b ∧ b ≤ a+sysMaxsize

/-- A match with a range that `len` cannot measure. The source range comes first. -/
def Unmeasured (raw : RawMatch) : Prop :=
  ∃ oldSt oldEd curSt curEd hash, raw = .cbMatchResult oldSt oldEd curSt curEd hash ∧
    (Overlong oldSt oldEd ∨ Measured oldSt oldEd ∧ Overlong curSt curEd)

/-- The first match that is not of the right shape cannot be measured. -/
def Overflows (n : ℕ) (values : List RawMatch) : Prop :=
  ∃ first raw rest, values = first ++ raw::rest ∧ (∀ v ∈ first, WellShaped n v) ∧
    Unmeasured raw

/-- The entry is a lookup whose response overflows. -/
def Overflowed (e : Sent) : Prop :=
  ∃ key values, e.request = .lookup key ∧ e.exchange = .answered (.list values) ∧
    Overflows key.tokenIds.length values

theorem wellShaped_iff (model : NamespaceText) (tokens : List TokenId) (digest : Digest)
    (raw : RawMatch) : WellShaped tokens.length raw ↔
      ∃ c, parseCandidate model tokens digest raw = .ok c := by
  simp only [parseCandidate_ok_iff]
  constructor
  · rintro ⟨s, t, hash, rfl, hin, hh⟩
    have hsize : ∀ a : ℕ, (⟨a, a+lmcacheChunkSize, Nat.le_add_right _ _⟩ : TokenRange).size =
        lmcacheChunkSize := fun a => Nat.add_sub_cancel_left _ _
    exact ⟨⟨⟨s, s+lmcacheChunkSize, Nat.le_add_right _ _⟩,
      ⟨t, t+lmcacheChunkSize, Nat.le_add_right _ _⟩, ⟨hash, hh⟩, model, digest,
      (by decide : 0 < lmcacheChunkSize).trans_eq (hsize t).symm,
      (hsize s).trans (hsize t).symm⟩, rfl, hsize s, hsize t, hin, rfl, rfl⟩
  · rintro ⟨c, rfl, hs, ht, hin, _, _⟩
    have hsource := c.sourceRelativeRange.ordered
    have htarget := c.targetRange.ordered
    unfold TokenRange.size at hs ht
    have hs' : c.sourceRelativeRange.stop = c.sourceRelativeRange.start+lmcacheChunkSize := by
      omega
    have ht' : c.targetRange.stop = c.targetRange.start+lmcacheChunkSize := by omega
    exact ⟨c.sourceRelativeRange.start, c.targetRange.start, c.storageHash.val,
      by rw [rawOf, hs', ht'], ht' ▸ hin, c.storageHash.property⟩

theorem measured_iff (start stop : Option ℤ) (name : String) :
    Measured start stop ↔ ∃ r, candidateRange start stop name = .ok r := by
  simp only [candidateRange_ok_iff]
  constructor
  · rintro ⟨a, b, rfl, rfl, h0, hlt, hle⟩
    refine ⟨⟨a.toNat, b.toNat, by omega⟩, ?_, ?_, ?_, ?_⟩
    · exact congrArg some (Int.toNat_of_nonneg h0).symm
    · exact congrArg some (Int.toNat_of_nonneg (by omega)).symm
    · show b.toNat-a.toNat ≤ sysMaxsize
      omega
    · show b.toNat-a.toNat ≠ 0
      omega
  · rintro ⟨r, rfl, rfl, hle, h0⟩
    have ho := r.ordered
    unfold TokenRange.size at hle h0
    exact ⟨_, _, rfl, rfl, by omega, by omega, by omega⟩

theorem requireChunk_measured {start stop : Option ℤ} {name : String} {r : TokenRange}
    (hr : candidateRange start stop name = .ok r) (error : LmcacheProtocolError) :
    requireChunk r error ≠ .error .overflow := by
  obtain ⟨_, _, hle, _⟩ := (candidateRange_ok_iff _ _ _ _).mp hr
  unfold requireChunk rangeLen
  rw [if_pos hle]
  show require _ _ ≠ _
  unfold require
  split_ifs <;> simp

theorem newCandidate_measured (source target : TokenRange) (hash : Option Bytes)
    (model : NamespaceText) (digest : Digest) :
    newCandidate source target hash model digest ≠ .error .overflow := by
  unfold newCandidate
  cases hash with
  | none => simp
  | some hash =>
    dsimp only
    cases LmcacheCandidate.new source target hash model.val digest.val <;>
      simp [Except.mapError]

theorem unmeasured_iff (model : NamespaceText) (tokens : List TokenId) (digest : Digest)
    (raw : RawMatch) : Unmeasured raw ↔
      parseCandidate model tokens digest raw = .error .overflow := by
  cases raw with
  | other => simp [Unmeasured, parseCandidate]
  | cbMatchResult oldSt oldEd curSt curEd hash =>
    have hu : Unmeasured (.cbMatchResult oldSt oldEd curSt curEd hash) ↔
        Overlong oldSt oldEd ∨ Measured oldSt oldEd ∧ Overlong curSt curEd := by
      constructor
      · rintro ⟨_, _, _, _, _, h, hu⟩
        cases h
        exact hu
      · intro hu
        exact ⟨_, _, _, _, _, rfl, hu⟩
    rw [hu]
    unfold parseCandidate
    rw [checked_error_iff, candidateRange_overflow_iff, measured_iff oldSt oldEd "source"]
    refine or_congr_right ?_
    constructor
    · rintro ⟨⟨source, hs⟩, ht⟩
      exact ⟨source, hs, (checked_error_iff _ _ _).mpr
        (Or.inl ((candidateRange_overflow_iff _ _ _).mpr ht))⟩
    · rintro ⟨source, hs, h⟩
      refine ⟨⟨source, hs⟩, ?_⟩
      rw [checked_error_iff, candidateRange_overflow_iff] at h
      obtain h | ⟨target, ht, h⟩ := h
      · exact h
      -- behind the two ranges nothing overflows
      obtain h | ⟨_, _, h⟩ := (checked_error_iff _ _ _).mp h
      · exact absurd h (requireChunk_measured hs _)
      obtain h | ⟨_, _, h⟩ := (checked_error_iff _ _ _).mp h
      · exact absurd h (requireChunk_measured ht _)
      obtain h | ⟨_, _, h⟩ := (checked_error_iff _ _ _).mp h
      · unfold require at h
        split_ifs at h
        cases h
      · exact absurd h (newCandidate_measured _ _ _ _ _)

theorem wellShaped_measured {n : ℕ} {raw : RawMatch} (h : WellShaped n raw) : ¬Unmeasured raw := by
  obtain ⟨s, t, hash, rfl, _⟩ := h
  have hsize : lmcacheChunkSize ≤ sysMaxsize := by decide
  rintro ⟨_, _, _, _, _, hr, hu⟩
  cases hr
  obtain ⟨_, _, ha, hb, _, hlt⟩ | ⟨_, _, _, ha, hb, _, hlt⟩ := hu
  · cases ha
    cases hb
    omega
  · cases ha
    cases hb
    omega

section
variable (sha256 : Bytes → Digest) (model : NamespaceText) (tokens : List TokenId)
  (values : List RawMatch)

theorem decodeResponse_ok {candidates : List LmcacheCandidate}
    (h : decodeResponse sha256 model tokens values = .ok candidates) :
    (∀ raw ∈ values, WellShaped tokens.length raw) ∧
      ∀ c ∈ candidates, BoundTo model tokens (queryDigest sha256 tokens) c := by
  unfold decodeResponse at h
  split at h
  · cases h
  · cases h
  next parsed hm =>
    cases h
    have hf := (mapM_returns_iff _ _ _).mp hm
    constructor
    · intro raw hraw
      obtain ⟨c, _, hc⟩ := forall₂_left hf hraw
      exact (wellShaped_iff model tokens _ raw).mpr ⟨c, hc⟩
    · intro c hc
      obtain ⟨raw, _, hc⟩ := forall₂_right hf ((mem_sortedBy _ _ _).mp hc)
      exact ((parseCandidate_ok_iff _ _ _ _ _).mp hc).2

theorem decodeResponse_overflow_iff :
    decodeResponse sha256 model tokens values = .error .overflow ↔
      Overflows tokens.length values := by
  have hfirst : Overflows tokens.length values ↔
      values.mapM (parseCandidate model tokens (queryDigest sha256 tokens)) =
        .error .overflow := by
    rw [mapM_error_iff]
    unfold Overflows
    simp only [wellShaped_iff model tokens (queryDigest sha256 tokens),
      unmeasured_iff model tokens (queryDigest sha256 tokens)]
  rw [hfirst]
  unfold decodeResponse
  split <;> simp_all

end

/-! ## One operation -/

/-- A retrieve request names disjoint targets of the query. Each holds the
tokens of its verified record and lies in the registered buffer. -/
def RetrieveExact (e : Sent) : Prop :=
  ∀ key rawMatches bufferOffset instanceId handle,
    e.request = .retrieve key rawMatches bufferOffset instanceId handle →
      ∃ (registration : LmcacheStagingRegistration) (verified : List VerifiedLmcacheCandidate),
        e.registration = some registration ∧ registration.instanceId = instanceId ∧
        rawMatches = verified.map matchOf ∧
        verified.Pairwise (fun v v' =>
          v.candidate.targetRange.stop ≤ v'.candidate.targetRange.start ∨
            v'.candidate.targetRange.stop ≤ v.candidate.targetRange.start) ∧
        ∀ v ∈ verified, v.candidate.targetRange.stop ≤ key.tokenIds.length ∧
          (key.tokenIds.take v.candidate.targetRange.stop).drop v.candidate.targetRange.start =
            v.verified.record.tokenIds ∧
          bufferOffset+v.candidate.targetRange.stop ≤ registration.layout.tokenCapacity

def Usable (t : LmcacheBlendTransport) : Prop := t.state ≠ .failed ∧ t.state ≠ .closed

/-- What an operation other than a close puts on the wire, and where it ends:
all succeeded, or the transport has failed, or a response overflowed. -/
structure Adds (w w' : Wire) (new : List Sent) : Prop where
  sent : w'.sent = w.sent ++ new
  own : ∀ e ∈ new, e.byClose = false
  exact : ∀ e ∈ new, RetrieveExact e
  outcome : (∀ e ∈ new, Succeeded e) ∨
    (w'.transport.state = .failed ∧ ∀ e ∈ new, ¬Overflowed e) ∨
    (w'.transport = w.transport ∧ Usable w.transport ∧ ∃ e ∈ new, Overflowed e)

def Careful (w w' : Wire) : Prop := ∃ new, Adds w w' new

theorem careful_quiet {w w' : Wire} (h : w'.sent = w.sent) : Careful w w' :=
  ⟨[], by rw [h, List.append_nil], fun _ h => absurd h List.not_mem_nil,
    fun _ h => absurd h List.not_mem_nil, Or.inl fun _ h => absurd h List.not_mem_nil⟩

theorem careful_refl (w : Wire) : Careful w w := careful_quiet rfl

theorem not_overflowed_of_succeeded {e : Sent} (h : Succeeded e) : ¬Overflowed e := by
  rintro ⟨key, values, hr, hx, first, raw, rest, rfl, _, hraw⟩
  obtain ⟨response, hx', ha⟩ := h
  rw [hx] at hx'
  cases hx'
  rw [hr] at ha
  obtain ⟨_, hv, hall⟩ := ha
  cases hv
  exact wellShaped_measured (hall raw (by simp)) hraw

section
variable {α : Type} {w : Wire}

theorem careful_check {β : Type} (x : Except LmcacheTransportError β) (f : β → TransportCall α)
    (h : ∀ b, x = .ok b → Careful w (f b w).2) : Careful w ((Call.lift x >>= f) w).2 := by
  cases x with
  | error e => exact careful_refl w
  | ok b => exact h b rfl

theorem careful_state (allowed : List LmcacheTransportState) (f : PUnit → TransportCall α)
    (h : w.transport.state ∈ allowed → Careful w (f ⟨⟩ w).2) :
    Careful w ((requireState allowed >>= f) w).2 := by
  by_cases hs : w.transport.state ∈ allowed
  · rw [Call.bind_run_ok _ (requireState_pass hs)]
    exact h hs
  · obtain ⟨e, he⟩ := requireState_refuses hs
    rw [Call.bind_run_error _ he]
    exact careful_refl w

theorem careful_registration (f : LmcacheStagingRegistration → TransportCall α)
    (h : ∀ registration, w.transport = ⟨.registered, some registration⟩ →
      Careful w (f registration w).2) :
    Careful w ((activeRegistration >>= f) w).2 := by
  obtain ⟨registration, hr, ht⟩ | ⟨e, ⟨hr, _⟩ | ⟨hr, _⟩⟩ := activeRegistration_cases w
  · rw [Call.bind_run_ok _ hr]
    exact h registration ht
  · rw [Call.bind_run_error _ hr]
    exact careful_refl w
  · rw [Call.bind_run_error _ hr]
    exact careful_quiet rfl

def entry (w : Wire) (r : LmcacheRequest) (x : Exchange) : Sent :=
  ⟨r, x, false, w.transport.registration⟩

theorem careful_request (r : LmcacheRequest) (x : Exchange) (f : Response → TransportCall α)
    (he : RetrieveExact (entry w r x))
    (hf : ∀ response, x = .answered response →
      (f response (w.send r x false)).2.sent = (w.send r x false).sent ∧
        (Acceptable r response ∨
          ((f response (w.send r x false)).2.transport.state = .failed ∧
            ¬Overflowed (entry w r x)) ∨
          ((f response (w.send r x false)).2.transport = w.transport ∧ Usable w.transport ∧
            Overflowed (entry w r x)))) :
    Careful w ((request r x >>= f) w).2 := by
  have hraised : ∀ {e : LmcacheTransportError}, (∀ response, x ≠ .answered response) →
      request r x w = (.error e, (w.send r x false).setState .failed) →
        Careful w ((request r x >>= f) w).2 := by
    intro e hx hr
    rw [Call.bind_run_error _ hr]
    refine ⟨[entry w r x], rfl, List.forall_mem_singleton.mpr rfl, List.forall_mem_singleton.mpr he,
       Or.inr (Or.inl ⟨rfl, List.forall_mem_singleton.mpr ?_⟩)⟩
    rintro ⟨_, _, _, h, _⟩
    exact hx _ h
  cases x with
  | operationError text => exact hraised (fun _ h => nomatch h) rfl
  | raised => exact hraised (fun _ h => nomatch h) rfl
  | answered response =>
    have hr : request r (.answered response) w =
      (.ok response, w.send r (.answered response) false) := rfl
    obtain ⟨hsent, hout⟩ := hf response rfl
    rw [Call.bind_run_ok _ hr]
    refine ⟨[entry w r (.answered response)], hsent, List.forall_mem_singleton.mpr rfl,
      List.forall_mem_singleton.mpr he, ?_⟩
    obtain ha | ⟨hs, ho⟩ | ⟨ht, hu, ho⟩ := hout
    · exact Or.inl (List.forall_mem_singleton.mpr ⟨response, rfl, ha⟩)
    · exact Or.inr (Or.inl ⟨hs, List.forall_mem_singleton.mpr ho⟩)
    · exact Or.inr (Or.inr ⟨ht, hu, _, List.mem_singleton_self _, ho⟩)

theorem careful_expecting (r : LmcacheRequest) (expected : Response)
    (error : LmcacheTransportError) (x : Exchange) (f : PUnit → TransportCall α)
    (ha : Acceptable r expected) (hl : ∀ key, r ≠ .lookup key)
    (he : RetrieveExact (entry w r x))
    (hf : Careful (w.send r x false) (f ⟨⟩ (w.send r x false)).2) :
    Careful w ((requestExpecting r expected error x >>= f) w).2 := by
  have ho : ¬Overflowed (entry w r x) := fun ⟨key, _, h, _⟩ => hl key h
  obtain ⟨hx, hr⟩ | ⟨_, e, hr⟩ := requestExpecting_cases r expected error x w
  · have hs : Succeeded (entry w r x) := ⟨expected, hx, ha⟩
    rw [Call.bind_run_ok _ hr]
    obtain ⟨new, hnew⟩ := hf
    refine ⟨entry w r x::new, ?_, List.forall_mem_cons.mpr ⟨rfl, hnew.own⟩,
      List.forall_mem_cons.mpr ⟨he, hnew.exact⟩, ?_⟩
    · exact hnew.sent.trans (List.append_assoc _ _ _)
    · obtain h | ⟨hf, h⟩ | ⟨ht, hu, e, hm, h⟩ := hnew.outcome
      · exact Or.inl (List.forall_mem_cons.mpr ⟨hs, h⟩)
      · exact Or.inr (Or.inl ⟨hf, List.forall_mem_cons.mpr ⟨ho, h⟩⟩)
      · exact Or.inr (Or.inr ⟨ht, hu, e, List.mem_cons_of_mem _ hm, h⟩)
  · rw [Call.bind_run_error _ hr]
    exact ⟨[entry w r x], rfl, List.forall_mem_singleton.mpr rfl, List.forall_mem_singleton.mpr he,
      Or.inr (Or.inl ⟨rfl, List.forall_mem_singleton.mpr ho⟩)⟩

end

theorem retrieveExact_of_ne {e : Sent}
    (h : ∀ key rawMatches bufferOffset instanceId handle,
      e.request ≠ .retrieve key rawMatches bufferOffset instanceId handle) : RetrieveExact e :=
  fun _ _ _ _ _ hr => absurd hr (h _ _ _ _ _)

section
variable (w : Wire)

theorem careful_open (ping chunkSize : Exchange) : Careful w (openServer ping chunkSize w).2 := by
  refine careful_state _ _ fun _ => ?_
  refine careful_expecting _ _ _ _ _ rfl (fun _ h => nomatch h)
    (retrieveExact_of_ne fun _ _ _ _ _ h => nomatch h) ?_
  refine careful_request _ _ _ (retrieveExact_of_ne fun _ _ _ _ _ h => nomatch h)
    fun response _ => ?_
  have ho : ∀ w : Wire, ¬Overflowed (entry w .getChunkSize chunkSize) :=
    fun _ ⟨_, _, h, _⟩ => nomatch h
  cases response with
  | int n =>
    dsimp only
    split_ifs with hn
    · exact ⟨rfl, Or.inl (congrArg Response.int hn)⟩
    · exact ⟨rfl, Or.inr (Or.inl ⟨rfl, ho _⟩)⟩
  | none => exact ⟨rfl, Or.inr (Or.inl ⟨rfl, ho _⟩)⟩
  | bool b => exact ⟨rfl, Or.inr (Or.inl ⟨rfl, ho _⟩)⟩
  | list values => exact ⟨rfl, Or.inr (Or.inl ⟨rfl, ho _⟩)⟩
  | other => exact ⟨rfl, Or.inr (Or.inl ⟨rfl, ho _⟩)⟩

theorem careful_unregister (exchange : Exchange) :
    Careful w (unregisterStagingBuffer exchange w).2 := by
  refine careful_registration _ fun registration _ => ?_
  exact careful_expecting _ _ _ _ _ rfl (fun _ h => nomatch h)
    (retrieveExact_of_ne fun _ _ _ _ _ h => nomatch h) (careful_quiet rfl)

section
variable (sha256 : Bytes → Digest) (config : LmcacheBlendTransportConfig)

theorem careful_register (registration : LmcacheStagingRegistration) (exchange : Exchange) :
    Careful w (registerStagingBuffer config registration exchange w).2 := by
  refine careful_state _ _ fun _ => ?_
  refine careful_check _ _ fun _ _ => ?_
  exact careful_expecting _ _ _ _ _ rfl (fun _ h => nomatch h)
    (retrieveExact_of_ne fun _ _ _ _ _ h => nomatch h) (careful_quiet rfl)

theorem acceptResponse_cases (tokens : List TokenId) (key : IPCCacheEngineKey)
    (hk : key.tokenIds = tokens) (response : Response) :
    (∃ candidates, acceptResponse sha256 config tokens response w = (.ok candidates, w) ∧
      Acceptable (.lookup key) response ∧
      ∀ c ∈ candidates, BoundTo config.storageModelName tokens (queryDigest sha256 tokens) c) ∨
    (∃ e, acceptResponse sha256 config tokens response w = (.error e, w.setState .failed) ∧
      ∀ values, response = .list values → ¬Overflows key.tokenIds.length values) ∨
    ∃ values, acceptResponse sha256 config tokens response w = (.error .overflow, w) ∧
      response = .list values ∧ Overflows key.tokenIds.length values := by
  subst hk
  cases response with
  | list values =>
    unfold acceptResponse
    dsimp only
    cases hd : decodeResponse sha256 config.storageModelName key.tokenIds values with
    | ok candidates =>
      obtain ⟨hshape, hbound⟩ := decodeResponse_ok sha256 _ _ _ hd
      exact Or.inl ⟨candidates, rfl, ⟨values, rfl, hshape⟩, hbound⟩
    | error e =>
      have ho := decodeResponse_overflow_iff sha256 config.storageModelName key.tokenIds values
      rw [hd] at ho
      cases e with
      | protocol error =>
        refine Or.inr (Or.inl ⟨_, rfl, fun values' h => ?_⟩)
        cases h
        rw [← ho]
        simp
      | overflow => exact Or.inr (Or.inr ⟨values, rfl, rfl, ho.mp rfl⟩)
  | none => exact Or.inr (Or.inl ⟨_, rfl, fun _ h => nomatch h⟩)
  | bool b => exact Or.inr (Or.inl ⟨_, rfl, fun _ h => nomatch h⟩)
  | int n => exact Or.inr (Or.inl ⟨_, rfl, fun _ h => nomatch h⟩)
  | other => exact Or.inr (Or.inl ⟨_, rfl, fun _ h => nomatch h⟩)

theorem careful_lookup (tokenIds : List ℤ) (requestId : String) (exchange : Exchange) :
    Careful w (lookupCandidates sha256 config tokenIds requestId exchange w).2 := by
  refine careful_state _ _ fun hs => ?_
  refine careful_check _ _ fun _ _ => ?_
  refine careful_check _ _ fun tokens _ => ?_
  have hu : Usable w.transport := by
    constructor <;>
    · intro h
      rw [h] at hs
      simp at hs
  split_ifs
  · exact careful_refl w
  refine careful_request _ _ _ (retrieveExact_of_ne fun _ _ _ _ _ h => nomatch h)
    fun response hx => ?_
  obtain ⟨candidates, hr, ha, _⟩ | ⟨e, hr, hn⟩ | ⟨values, hr, hv, ho⟩ :=
    acceptResponse_cases (w.send (.lookup (makeKey config tokens requestId none)) exchange false)
      sha256 config tokens (makeKey config tokens requestId none) rfl response
  · rw [hr]
    exact ⟨rfl, Or.inl ha⟩
  · rw [hr]
    refine ⟨rfl, Or.inr (Or.inl ⟨rfl, ?_⟩)⟩
    rintro ⟨key, values, hkey, hx', ho⟩
    cases hkey
    rw [hx] at hx'
    cases hx'
    exact hn values rfl ho
  · rw [hr]
    subst hv
    exact ⟨rfl, Or.inr (Or.inr ⟨rfl, hu, _, values, rfl, hx, ho⟩)⟩

theorem deriveSidecarRecords_sent (tokens : List TokenId) (cacheNamespace : CacheNamespace)
    (documentSourceRange : TokenRange) (output : HashOutput) (w : Wire) :
    (deriveSidecarRecords sha256 tokens cacheNamespace documentSourceRange output w).2.sent =
      w.sent := by
  unfold deriveSidecarRecords
  cases output with
  | raised => rfl
  | sequence hashes =>
    dsimp only
    split_ifs
    · cases completeHashes hashes <;> rfl
    · rfl

theorem careful_storeInputs {α : Type} (r : StoreRequest)
    (f : LmcacheStagingRegistration × List TokenId × ℕ → TransportCall α)
    (h : ∀ checked, Careful w (f checked w).2) :
    Careful w ((validateStoreInputs r >>= f) w).2 := by
  unfold validateStoreInputs
  rw [Call.bind_assoc]
  refine careful_registration _ fun registration _ => ?_
  rw [Call.bind_assoc]
  exact careful_check _ _ fun checked _ => h (registration, checked)

theorem careful_storePrecomputed (r : StoreRequest) (cacheNamespace : CacheNamespace)
    (documentSourceRange : TokenRange) (exchange : Exchange) (output : HashOutput) :
    Careful w (storePrecomputed sha256 config r cacheNamespace documentSourceRange exchange output
      w).2 := by
  refine careful_storeInputs w r _ fun checked => ?_
  refine careful_check _ _ fun _ _ => ?_
  refine careful_expecting _ _ _ _ _ rfl (fun _ h => nomatch h)
    (retrieveExact_of_ne fun _ _ _ _ _ h => nomatch h) (careful_quiet ?_)
  refine Eq.trans ?_ (deriveSidecarRecords_sent sha256 checked.2.1 cacheNamespace
    documentSourceRange output _)
  rw [Call.bind_run]
  split
  · next hd =>
    rw [hd]
    rfl
  · next hd => rw [hd]

theorem careful_storeFinal (r : StoreRequest) (exchange : Exchange) :
    Careful w (storeFinal sha256 config r exchange w).2 := by
  refine careful_storeInputs w r _ fun checked => ?_
  exact careful_expecting _ _ _ _ _ rfl (fun _ h => nomatch h)
    (retrieveExact_of_ne fun _ _ _ _ _ h => nomatch h) (careful_quiet rfl)

/-- What the retrieval loop has established of the candidates it has passed. -/
structure Collected (tokens : List TokenId) (verified : List VerifiedLmcacheCandidate)
    (ranges : List TokenRange) : Prop where
  targets : ranges = verified.map (fun v => v.candidate.targetRange)
  apart : verified.Pairwise (fun v v' =>
    v.candidate.targetRange.stop ≤ v'.candidate.targetRange.start ∨
      v'.candidate.targetRange.stop ≤ v.candidate.targetRange.start)
  exact : ∀ v ∈ verified, v.candidate.targetRange.stop ≤ tokens.length ∧
    (tokens.take v.candidate.targetRange.stop).drop v.candidate.targetRange.start =
      v.verified.record.tokenIds

theorem checkVerified_collects {tokens : List TokenId} {verified : List VerifiedLmcacheCandidate}
    {ranges ranges' : List TokenRange} {v : VerifiedLmcacheCandidate}
    (hc : Collected tokens verified ranges)
    (h : checkVerified sha256 config tokens ranges v = .ok ranges') :
    Collected tokens (verified ++ [v]) ranges' := by
  unfold checkVerified at h
  simp only [require_then_iff] at h
  obtain ⟨_, _, hin, htokens, _, hover, h⟩ := h
  cases h
  refine ⟨?_, ?_, ?_⟩
  · rw [hc.targets, List.map_append, List.map_singleton]
  · rw [List.pairwise_append]
    refine ⟨hc.apart, List.pairwise_singleton _ _, fun v' hv' u hu => ?_⟩
    obtain rfl := List.mem_singleton.mp hu
    have hmem : v'.candidate.targetRange ∈ ranges :=
      hc.targets ▸ List.mem_map_of_mem hv'
    have hn := hover _ hmem
    unfold TokenRange.Overlaps at hn
    omega
  · intro u hu
    obtain hu | hu := List.mem_append.mp hu
    · exact hc.exact u hu
    · obtain rfl := List.mem_singleton.mp hu
      exact ⟨hin, htokens⟩

theorem checkAll_collects {tokens : List TokenId} (rest : List VerifiedLmcacheCandidate)
    {verified : List VerifiedLmcacheCandidate} {ranges ranges' : List TokenRange}
    (hc : Collected tokens verified ranges)
    (h : rest.foldlM (checkVerified sha256 config tokens) ranges = .ok ranges') :
    Collected tokens (verified ++ rest) ranges' := by
  induction rest generalizing verified ranges with
  | nil =>
    cases h
    rwa [List.append_nil]
  | cons v rest ih =>
    rw [List.foldlM_cons] at h
    obtain ⟨next, hnext, h⟩ := (checked_ok_iff _ _ _).mp h
    have hn := ih (checkVerified_collects sha256 config hc hnext) h
    rwa [List.append_assoc] at hn

theorem le_foldl_max (xs : List ℕ) (n : ℕ) : n ≤ xs.foldl max n ∧ ∀ x ∈ xs, x ≤ xs.foldl max n := by
  induction xs generalizing n with
  | nil => exact ⟨le_refl n, fun _ h => absurd h List.not_mem_nil⟩
  | cons x xs ih =>
    obtain ⟨hn, hx⟩ := ih (max n x)
    rw [List.foldl_cons]
    exact ⟨(le_max_left n x).trans hn,
      List.forall_mem_cons.mpr ⟨(le_max_right n x).trans hn, hx⟩⟩

theorem validateBufferRange_ok {start : ℤ} {length capacity offset : ℕ} {fieldName : String}
    (h : validateBufferRange start length capacity fieldName = .ok offset) :
    offset+length ≤ capacity := by
  unfold validateBufferRange at h
  simp only [require_then_iff, Except.ok.injEq] at h
  obtain ⟨h0, hle, rfl⟩ := h
  omega

theorem careful_retrieve (r : RetrieveRequest) (exchange : Exchange) :
    Careful w (retrievePrecomputed sha256 config r exchange w).2 := by
  refine careful_registration _ fun registration ht => ?_
  refine careful_check _ _ fun _ _ => ?_
  refine careful_check _ _ fun _ _ => ?_
  refine careful_check _ _ fun tokens _ => ?_
  refine careful_check _ _ fun _ _ => ?_
  split_ifs
  · exact careful_refl w
  refine careful_check _ _ fun ranges hr => ?_
  refine careful_check _ _ fun offset ho => ?_
  refine careful_expecting _ _ _ _ _ rfl (fun _ h => nomatch h) ?_ (careful_quiet rfl)
  have hc := checkAll_collects sha256 config r.verifiedCandidates
    ⟨rfl, List.Pairwise.nil, fun _ h => absurd h List.not_mem_nil⟩ hr
  intro key rawMatches bufferOffset instanceId handle h
  cases h
  refine ⟨registration, r.verifiedCandidates, congrArg LmcacheBlendTransport.registration ht, rfl,
    rfl, hc.apart, fun v hv => ?_⟩
  obtain ⟨hin, htokens⟩ := hc.exact v hv
  have hstop : v.candidate.targetRange.stop ∈ ranges.map TokenRange.stop := by
    rw [hc.targets, List.map_map]
    exact List.mem_map_of_mem hv
  have hle := (le_foldl_max _ 0).2 _ hstop
  have hfit := validateBufferRange_ok ho
  exact ⟨hin, htokens, by omega⟩

/-! ## Runs -/

theorem careful_perform (operation : Operation) (h : operation.isClose = false) :
    Careful w (perform sha256 config w operation) := by
  cases operation with
  | openServer ping chunkSize => exact careful_open w ping chunkSize
  | register registration exchange => exact careful_register w config registration exchange
  | unregister exchange => exact careful_unregister w exchange
  | lookup tokenIds requestId exchange =>
    exact careful_lookup w sha256 config tokenIds requestId exchange
  | storePrecomputed r cacheNamespace documentSourceRange exchange output =>
    exact careful_storePrecomputed w sha256 config r cacheNamespace documentSourceRange exchange
      output
  | storeFinal r exchange => exact careful_storeFinal w sha256 config r exchange
  | retrieve r exchange => exact careful_retrieve w sha256 config r exchange
  | close exchange queueCloses => cases h

theorem refused_state {α : Type} {allowed : List LmcacheTransportState}
    (f : PUnit → TransportCall α) (h : w.transport.state ∉ allowed) :
    ((requireState allowed >>= f) w).2 = w := by
  obtain ⟨e, he⟩ := requireState_refuses h
  rw [Call.bind_run_error _ he]

theorem refused_registration {α : Type} (f : LmcacheStagingRegistration → TransportCall α)
    (h : w.transport.state ≠ .registered) : ((activeRegistration >>= f) w).2 = w := by
  have hn : w.transport.state ∉ [LmcacheTransportState.registered] :=
    fun hm => h (List.mem_singleton.mp hm)
  obtain ⟨e, he⟩ := requireState_refuses hn
  have hr : activeRegistration w = (.error e, w) := Call.bind_run_error _ he
  rw [Call.bind_run_error _ hr]

theorem close_of_isClose {operation : Operation} (h : operation.isClose = true) :
    ∃ exchange queueCloses, operation = .close exchange queueCloses := by
  cases operation with
  | close exchange queueCloses => exact ⟨exchange, queueCloses, rfl⟩
  | openServer _ _ => cases h
  | register _ _ => cases h
  | unregister _ => cases h
  | lookup _ _ _ => cases h
  | storePrecomputed _ _ _ _ _ => cases h
  | storeFinal _ _ => cases h
  | retrieve _ _ => cases h

theorem perform_stopped (operation : Operation) (h : operation.isClose = false)
    (hu : ¬Usable w.transport) : perform sha256 config w operation = w := by
  have hs : w.transport.state = .failed ∨ w.transport.state = .closed := by
    unfold Usable at hu
    tauto
  have hr : w.transport.state ≠ .registered := by
    rcases hs with hs | hs <;> simp [hs]
  cases operation with
  | openServer ping chunkSize =>
    exact refused_state w _ (by rcases hs with hs | hs <;> simp [hs])
  | register registration exchange =>
    exact refused_state w _ (by rcases hs with hs | hs <;> simp [hs])
  | unregister exchange => exact refused_registration w _ hr
  | lookup tokenIds requestId exchange =>
    exact refused_state w _ (by rcases hs with hs | hs <;> simp [hs])
  | storePrecomputed r cacheNamespace documentSourceRange exchange output =>
    show ((validateStoreInputs r >>= _) w).2 = w
    unfold validateStoreInputs
    rw [Call.bind_assoc]
    exact refused_registration w _ hr
  | storeFinal r exchange =>
    show ((validateStoreInputs r >>= _) w).2 = w
    unfold validateStoreInputs
    rw [Call.bind_assoc]
    exact refused_registration w _ hr
  | retrieve r exchange => exact refused_registration w _ hr
  | close exchange queueCloses => cases h

theorem close_adds (exchange : Exchange) (queueCloses : Bool) :
    (close exchange queueCloses w).2.transport.state = .closed ∧
      ∃ new, (close exchange queueCloses w).2.sent = w.sent ++ new ∧
        ∀ e ∈ new, e.byClose = true ∧ ∃ instanceId, e.request = .unregister instanceId := by
  unfold close
  by_cases hs : w.transport.state = .closed
  · rw [if_pos hs]
    exact ⟨hs, [], (List.append_nil _).symm, fun _ h => absurd h List.not_mem_nil⟩
  · have hkept : ∀ failures : List String, ∀ closed : Wire,
        (if failures = [] then ((.ok ⟨⟩, closed) : Except LmcacheTransportError PUnit × Wire)
          else (.error (.close ("; ".intercalate failures)), closed)).2 = closed := by
      intro failures closed
      split_ifs <;> rfl
    rw [if_neg hs]
    dsimp only
    rw [hkept]
    refine ⟨rfl, ?_⟩
    unfold closeRegistration
    cases w.transport.registration with
    | none => exact ⟨[], (List.append_nil _).symm, fun _ h => absurd h List.not_mem_nil⟩
    | some registration => exact ⟨_, rfl, List.forall_mem_singleton.mpr ⟨rfl, _, rfl⟩⟩

theorem perform_adds (operation : Operation) :
    ∃ new, (perform sha256 config w operation).sent = w.sent ++ new ∧
      ∀ e ∈ new, RetrieveExact e ∧ (operation.isClose = true → ¬Overflowed e) := by
  cases hc : operation.isClose with
  | false =>
    obtain ⟨new, hnew⟩ := careful_perform w sha256 config operation hc
    exact ⟨new, hnew.sent, fun e he => ⟨hnew.exact e he, fun h => nomatch h⟩⟩
  | true =>
    obtain ⟨exchange, queueCloses, rfl⟩ := close_of_isClose hc
    obtain ⟨_, new, hnew, hown⟩ := close_adds w exchange queueCloses
    refine ⟨new, hnew, fun e he => ?_⟩
    obtain ⟨_, instanceId, hr⟩ := hown e he
    constructor
    · exact retrieveExact_of_ne fun _ _ _ _ _ h => nomatch hr.symm.trans h
    · rintro _ ⟨_, _, h, _⟩
      exact nomatch hr.symm.trans h

theorem stopped_run (operations : List Operation) (w : Wire) (hu : ¬Usable w.transport) :
    ∃ later, (operations.foldl (perform sha256 config) w).sent = w.sent ++ later ∧
      ∀ e ∈ later, e.byClose = true := by
  induction operations generalizing w with
  | nil => exact ⟨[], (List.append_nil _).symm, fun _ h => absurd h List.not_mem_nil⟩
  | cons operation rest ih =>
    rw [List.foldl_cons]
    cases hc : operation.isClose with
    | false =>
      rw [perform_stopped w sha256 config operation hc hu]
      exact ih w hu
    | true =>
      obtain ⟨exchange, queueCloses, rfl⟩ := close_of_isClose hc
      obtain ⟨hclosed, new, hnew, hown⟩ := close_adds w exchange queueCloses
      obtain ⟨later, hlater, hrest⟩ := ih (close exchange queueCloses w).2 fun h => h.2 hclosed
      refine ⟨new ++ later, ?_, fun e he => ?_⟩
      · refine hlater.trans ?_
        rw [hnew, List.append_assoc]
      · obtain he | he := List.mem_append.mp he
        · exact (hown e he).1
        · exact hrest e he

theorem after_append (first rest : List Operation) :
    after sha256 config (first ++ rest) =
      rest.foldl (perform sha256 config) (after sha256 config first) :=
  List.foldl_append

theorem after_snoc (first : List Operation) (operation : Operation) :
    after sha256 config (first ++ [operation]) =
      perform sha256 config (after sha256 config first) operation :=
  after_append sha256 config first [operation]

theorem run_grows (operations : List Operation) (w : Wire) :
    ∃ later, (operations.foldl (perform sha256 config) w).sent = w.sent ++ later := by
  induction operations generalizing w with
  | nil => exact ⟨[], (List.append_nil _).symm⟩
  | cons operation rest ih =>
    obtain ⟨new, hnew, _⟩ := perform_adds w sha256 config operation
    obtain ⟨later, hlater⟩ := ih (perform sha256 config w operation)
    refine ⟨new ++ later, ?_⟩
    rw [List.foldl_cons, hlater, hnew, List.append_assoc]

theorem sent_origin (operations : List Operation) {e : Sent}
    (h : e ∈ (after sha256 config operations).sent) :
    ∃ first operation rest new, operations = first ++ operation::rest ∧
      (perform sha256 config (after sha256 config first) operation).sent =
        (after sha256 config first).sent ++ new ∧ e ∈ new := by
  induction operations using List.reverseRecOn with
  | nil => exact absurd h List.not_mem_nil
  | append_singleton first operation ih =>
    rw [after_snoc] at h
    obtain ⟨new, hnew, _⟩ := perform_adds (after sha256 config first) sha256 config operation
    rw [hnew] at h
    obtain h | h := List.mem_append.mp h
    · obtain ⟨first', operation', rest, new', rfl, hn, he⟩ := ih h
      exact ⟨first', operation', rest ++ [operation], new', by simp, hn, he⟩
    · exact ⟨first, operation, [], new, rfl, hnew, h⟩

theorem lookup_bound {tokenIds : List ℤ} {requestId : String} {exchange : Exchange}
    {candidates : List LmcacheCandidate} {w' : Wire}
    (h : lookupCandidates sha256 config tokenIds requestId exchange w = (.ok candidates, w')) :
    ∃ tokens, normalizeTokenIds tokenIds = .ok tokens ∧
      ∀ c ∈ candidates, BoundTo config.storageModelName tokens (queryDigest sha256 tokens) c := by
  unfold lookupCandidates at h
  obtain ⟨_, w₁, _, h⟩ := (Call.bind_ok_iff _ _ _ _ _).mp h
  obtain ⟨_, _, h⟩ := (Call.lift_bind_iff _ _ _ _ _).mp h
  obtain ⟨tokens, ht, h⟩ := (Call.lift_bind_iff _ _ _ _ _).mp h
  refine ⟨tokens, (mapError_ok_iff _ _ _).mp ht, ?_⟩
  split_ifs at h
  · cases h
    exact fun _ hc => absurd hc List.not_mem_nil
  · obtain ⟨response, w₂, _, h⟩ := (Call.bind_ok_iff _ _ _ _ _).mp h
    obtain ⟨cs, hr, _, hbound⟩ | ⟨_, hr, _⟩ | ⟨_, hr, _⟩ := acceptResponse_cases w₂ sha256 config
      tokens (makeKey config tokens requestId none) rfl response
    · rw [hr] at h
      cases h
      exact hbound
    · rw [hr] at h
      cases h
    · rw [hr] at h
      cases h

end

end

/-! ## Fail-stop runs -/

section
variable (sha256 : Bytes → Digest) (config : LmcacheBlendTransportConfig)

/-- A run in which a request that fails or is answered in the wrong shape
stops the transport, a lookup returns chunks of its query only, and every
retrieve request is exact. -/
structure FailStop (operations : List Operation) : Prop where
  stops : ∀ first operation rest new, operations = first ++ operation::rest →
    operation.isClose = false →
    (after sha256 config (first ++ [operation])).sent =
      (after sha256 config first).sent ++ new →
    (∃ e ∈ new, ¬Succeeded e) →
      (after sha256 config (first ++ [operation])).transport.state = .failed ∧
      ∃ later, (after sha256 config operations).sent =
        (after sha256 config (first ++ [operation])).sent ++ later ∧
          ∀ e ∈ later, e.byClose = true
  bound : ∀ first tokenIds requestId exchange rest candidates,
    operations = first ++ .lookup tokenIds requestId exchange::rest →
    (lookupCandidates sha256 config tokenIds requestId exchange
      (after sha256 config first)).1 = .ok candidates →
      ∃ tokens, normalizeTokenIds tokenIds = .ok tokens ∧
        ∀ c ∈ candidates, BoundTo config.storageModelName tokens (queryDigest sha256 tokens) c
  exact : ∀ e ∈ (after sha256 config operations).sent, RetrieveExact e

theorem not_failStop (first : List Operation) (operation : Operation) (rest : List Operation)
    {new : List Sent} {e : Sent} (hc : operation.isClose = false)
    (hsent : (after sha256 config (first ++ [operation])).sent =
      (after sha256 config first).sent ++ new) (hmem : e ∈ new) (he : ¬Succeeded e)
    (hs : (after sha256 config (first ++ [operation])).transport.state ≠ .failed) :
    ¬FailStop sha256 config (first ++ operation::rest) := fun hf =>
  hs (hf.stops first operation rest new rfl hc hsent ⟨e, hmem, he⟩).1

/-- A run of any operations against any server is fail-stop exactly when none
of its lookup responses overflows. -/
theorem fail_stop_iff (operations : List Operation) : FailStop sha256 config operations ↔
    ∀ e ∈ (after sha256 config operations).sent, ¬Overflowed e := by
  constructor
  · intro hf e he ho
    obtain ⟨first, operation, rest, new, hops, hnew, hmem⟩ :=
      sent_origin sha256 config operations he
    obtain ⟨new', hnew', hall⟩ := perform_adds (after sha256 config first) sha256 config operation
    obtain rfl : new = new' := List.append_cancel_left (hnew.symm.trans hnew')
    have hc : operation.isClose = false := by
      cases hc : operation.isClose with
      | false => rfl
      | true => exact absurd ho ((hall e hmem).2 hc)
    obtain ⟨new', hadds⟩ := careful_perform (after sha256 config first) sha256 config operation hc
    obtain rfl : new = new' := List.append_cancel_left (hnew.symm.trans hadds.sent)
    obtain h | ⟨_, h⟩ | ⟨ht, hu, _⟩ := hadds.outcome
    · exact not_overflowed_of_succeeded (h e hmem) ho
    · exact h e hmem ho
    rw [← after_snoc] at hnew ht
    subst hops
    refine not_failStop sha256 config first operation rest hc hnew hmem
      (fun hs => not_overflowed_of_succeeded hs ho) ?_ hf
    rw [ht]
    exact hu.1
  · intro hn
    refine ⟨?_, ?_, ?_⟩
    · rintro first operation rest new rfl hc hnew ⟨e, hmem, hs⟩
      rw [after_snoc] at hnew ⊢
      rw [after_append, List.foldl_cons] at hn ⊢
      obtain ⟨new', hadds⟩ := careful_perform (after sha256 config first) sha256 config operation hc
      obtain rfl : new = new' := List.append_cancel_left (hnew.symm.trans hadds.sent)
      obtain ⟨grown, hgrown⟩ := run_grows sha256 config rest
        (perform sha256 config (after sha256 config first) operation)
      have hfailed : (perform sha256 config (after sha256 config first)
          operation).transport.state = .failed := by
        obtain h | ⟨h, _⟩ | ⟨_, _, e', hmem', ho⟩ := hadds.outcome
        · exact absurd (h e hmem) hs
        · exact h
        · refine absurd ho (hn e' ?_)
          rw [hgrown, hnew]
          exact List.mem_append_left _ (List.mem_append_right _ hmem')
      exact ⟨hfailed, stopped_run sha256 config rest _ fun h => h.1 hfailed⟩
    · intro first tokenIds requestId exchange rest candidates _ hr
      exact lookup_bound _ sha256 config (Prod.ext hr rfl)
    · intro e he
      obtain ⟨first, operation, _, new, _, hnew, hmem⟩ := sent_origin sha256 config operations he
      obtain ⟨new', hnew', hall⟩ := perform_adds (after sha256 config first) sha256 config operation
      obtain rfl : new = new' := List.append_cancel_left (hnew.symm.trans hnew')
      exact (hall e hmem).1

end

/-- A range of one token more than `len` can measure. -/
def overlongMatch : RawMatch :=
  .cbMatchResult (some 0) (some (sysMaxsize+1 : ℕ)) (some 0) (some 256)
    (some (List.replicate 32 0))

theorem overlongMatch_unmeasured : Unmeasured overlongMatch :=
  ⟨_, _, _, _, _, rfl, Or.inl ⟨0, _, rfl, rfl, le_refl 0, by simp⟩⟩

def opening : Operation := .openServer (.answered (.bool true)) (.answered (.int lmcacheChunkSize))

def lookupZeros (values : List RawMatch) : Operation :=
  .lookup (List.replicate 256 0) "r" (.answered (.list values))

def exampleConfig : LmcacheBlendTransportConfig :=
  ⟨LookupPlans.exampleNamespace, LookupPlans.exampleText⟩

abbrev exampleAfter (operations : List Operation) : Wire :=
  after (fun _ => LookupPlans.zeroDigest) exampleConfig operations

def overlongEntry : Sent :=
  entry wireInitial (.lookup (makeKey exampleConfig (List.replicate 256 0) "r" none))
    (.answered (.list [overlongMatch]))

theorem overlongEntry_overflowed : Overflowed overlongEntry :=
  ⟨_, _, rfl, rfl, [], overlongMatch, [], rfl, fun _ h => absurd h List.not_mem_nil,
    overlongMatch_unmeasured⟩

/-- After the overflow the transport is still ready, and the next lookup is sent. -/
theorem overlong_range_survives :
    (exampleAfter [opening, lookupZeros [overlongMatch]]).transport.state = .ready ∧
      (exampleAfter [opening, lookupZeros [overlongMatch], lookupZeros []]).sent =
        (exampleAfter [opening, lookupZeros [overlongMatch]]).sent ++
          [entry wireInitial (.lookup (makeKey exampleConfig (List.replicate 256 0) "r" none))
            (.answered (.list []))] ∧
      ¬FailStop (fun _ => LookupPlans.zeroDigest) exampleConfig
        [opening, lookupZeros [overlongMatch], lookupZeros []] := by
  refine ⟨by decide +kernel, by decide +kernel, ?_⟩
  exact not_failStop (fun _ => LookupPlans.zeroDigest) exampleConfig [opening]
    (lookupZeros [overlongMatch]) [lookupZeros []] rfl (by decide +kernel)
    (List.mem_singleton_self overlongEntry)
    (fun hs => not_overflowed_of_succeeded hs overlongEntry_overflowed) (by decide +kernel)

end CacheBlend.TransportFailStop
