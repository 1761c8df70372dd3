import CacheBlend.PassingStores
import CacheBlend.ProbedLoads
import CacheBlend.StoredDocuments

/-!
# Stored prompts are found

A prompt is stored by `after_forward`. The bridge gathers its complete chunks,
the transport sends them to the server and derives their records, and the
sidecar takes the records. When every prompt is stored, registered and
published, a later lookup offers each stored chunk that occurs in its query
once, each offer verifies on its own, and an overlap is all that it is
rejected for.
-/

set_option autoImplicit false

namespace CacheBlend.StoredPrompts
open CacheBlend.PlannerModels CacheBlend.SegmentFingerprints CacheBlend.LmcacheTypes
open CacheBlend.TokenScatter CacheBlend.VllmAdapters CacheBlend.ExactMatcher
open CacheBlend.MatchResponses
open CacheBlend.ExactMatches CacheBlend.IndexCoherence
open CacheBlend.CandidateLookup CacheBlend.CandidateVerdicts CacheBlend.LookupPlans
open CacheBlend.LmcacheTransport (decodeCandidates Complete decodeCandidates_iff)
open CacheBlend.SidecarRows (SidecarError)
open CacheBlend.SidecarIndex CacheBlend.SidecarHistories
open CacheBlend.TransferRuntime CacheBlend.TransportRequests CacheBlend.StoreReceipts
open CacheBlend.WorkerBridge (World StoreEnvironment BridgeConfig gatherPlans planTransfer
  publishSidecarRecordsAtomically)
open CacheBlend.PassingStores
open CacheBlend.TransferEnds CacheBlend.DocumentStores CacheBlend.StoredDocuments
open CacheBlend.Call

/-! ## A store of a prompt -/

/-- One `after_forward` with what its collaborators meet: the transport its connection, the
answer of the server and the token hasher, the sidecar the faults of its database. -/
structure PromptStore (sha256 : Bytes → Digest) (δ : Type) where
  config : AuditedConfig
  buffers : BridgeConfig
  layout : LayeredCacheLayout
  answers : StoreEnvironment
  id : ℕ
  metadata : SchedulerTransferMetadata sha256
  adaptedBlocks : AdaptedKvCacheBlocks
  world : World δ
  wire : Wire
  eventIpcHandle : Bytes
  exchange : Exchange
  hasherReturns : Bool
  faults : SqliteFaults

section
variable {sha256 : Bytes → Digest} {δ : Type} (chunkHash : List TokenId → Digest)
  (writer : SqliteSidecarIndex) (a : PromptStore sha256 δ)

def PromptStore.plan : Option (WorkerStorePlan sha256) :=
  buildStorePlan (gatherPlans a.layout a.metadata a.adaptedBlocks).toOption.isSome a.metadata
    a.adaptedBlocks

def PromptStore.request (p : WorkerStorePlan sha256) : StoreRequest where
  tokenIds := values p.tokenIds
  bufferOffset := a.buffers.storeBufferOffset
  eventIpcHandle := a.eventIpcHandle
  requestId := p.metadata.requestId

/-- `store_precomputed` of the transport, as the bridge calls it. The client hashes as the
server does. -/
def PromptStore.sent (p : WorkerStorePlan sha256) :
    Except LmcacheTransportError LmcacheStoreReceipt × Wire :=
  storePrecomputed sha256 a.config.toLmcacheBlendTransportConfig (a.request p)
    p.metadata.cacheNamespace p.sourceRange a.exchange
    (if a.hasherReturns = true then
      .sequence ((chunkHashes chunkHash p.tokenIds).map fun h => some h.val) else .raised)
    a.wire

def PromptStore.receipt : Option LmcacheStoreReceipt :=
  a.plan.bind fun p => (a.sent chunkHash p).1.toOption

def PromptStore.records : List CacheRecord :=
  ((a.receipt chunkHash).map LmcacheStoreReceipt.sidecarRecords).getD []

def PromptStore.inserted (t : SidecarTable) : Option ℤ :=
  (writer.addMany sha256 a.faults (a.records chunkHash) t).1.toOption.map Nat.cast

def PromptStore.environment (t : SidecarTable) : StoreEnvironment :=
  { a.answers with
    config := some a.config.toLmcacheBlendTransportConfig
    stored := a.receipt chunkHash
    inserted := a.inserted chunkHash writer t }

def PromptStore.forwarded (t : SidecarTable) :
    Except TransferRuntimeErrorCode PostForwardOutcome × World δ :=
  BridgeTransfers.afterForward a.buffers a.layout (a.environment chunkHash writer t) a.id
    a.metadata a.adaptedBlocks a.world

/-- The attempt succeeds and leaves the table that its publication leaves. -/
def PromptStore.Stores (t t' : SidecarTable) : Prop :=
  (∃ outcome w, a.forwarded chunkHash writer t = (.ok outcome, w) ∧ outcome.state = .succeeded) ∧
    t' = (writer.addMany sha256 a.faults (a.records chunkHash) t).2

/-- The complete chunks of the prompt. -/
def PromptStore.document : List TokenId :=
  a.metadata.promptTokenIds.take a.metadata.completeStoreTokenCount

end

section
variable {sha256 : Bytes → Digest} {δ : Type}

theorem triple_any {α : Type} (c : WorkerBridge.BridgeCall δ α) :
    Triple (fun _ => True) c (fun _ _ => True) fun _ _ => True :=
  fun _ _ => ⟨fun _ _ _ => trivial, fun _ _ _ => trivial⟩

theorem publish_refused {env : StoreEnvironment} (h : env.inserted = none)
    (records : List CacheRecord) :
    Triple (fun _ => True)
      (publishSidecarRecordsAtomically env sha256 records : WorkerBridge.BridgeCall δ ℤ)
      (fun _ _ => False) fun _ _ => True := by
  unfold publishSidecarRecordsAtomically
  apply triple_bind (triple_any _)
  intro _
  apply triple_bind (triple_any _)
  intro _
  apply triple_bind (triple_any _)
  intro _
  rw [h]
  exact triple_raise fun _ _ => trivial

theorem nothing_unsuccessful {m : SchedulerTransferMetadata sha256} {state : TransferAttemptState}
    {failureCode : Option TransferFallbackCode}
    (h : state = .notEligible ∧ m.storeEligible = false ∧ failureCode = none ∨
      state = .fullPrefillFallback ∧ failureCode ≠ none) :
    Triple (fun _ => True)
      (storeOutcome m state failureCode :
        Call (World δ) TransferRuntimeErrorCode PostForwardOutcome)
      (fun o _ => o.state ≠ .succeeded) fun _ _ => False := by
  apply triple_of_state
  intro w _
  apply returns_spec (storeOutcome_returns m h w)
  show state ≠ .succeeded
  rcases h with ⟨rfl, _⟩ | ⟨rfl, _⟩ <;> decide

theorem orFallback_fails {α : Type} {m : SchedulerTransferMetadata sha256}
    {code : TransferFallbackCode} {c : WorkerBridge.BridgeCall δ α}
    {next : α → Call (World δ) TransferRuntimeErrorCode PostForwardOutcome}
    (hnext : ∀ a, Triple (fun _ => True) (next a) (fun o _ => o.state ≠ .succeeded)
      fun _ _ => False) :
    Triple (fun _ => True) (orFallback m code (BridgeTransfers.step c) next)
      (fun o _ => o.state ≠ .succeeded) fun _ _ => False :=
  triple_orFallback (triple_any c) (fun _ _ _ h => by cases h) hnext

/-- A store attempt whose sidecar takes nothing does not succeed. -/
theorem unpublished_fails {config : BridgeConfig} {layout : LayeredCacheLayout}
    {env : StoreEnvironment} {id : ℕ} {m : SchedulerTransferMetadata sha256}
    {adaptedBlocks : AdaptedKvCacheBlocks} (hn : env.inserted = none) :
    Triple (fun _ => True)
      (BridgeTransfers.afterForward config layout env id m adaptedBlocks :
        Call (World δ) TransferRuntimeErrorCode PostForwardOutcome)
      (fun o _ => o.state ≠ .succeeded) fun _ _ => False := by
  have hfallback : ∀ code : TransferFallbackCode,
      TransferAttemptState.fullPrefillFallback = .fullPrefillFallback ∧ some code ≠ none :=
    fun _ => ⟨rfl, Option.some_ne_none _⟩
  apply triple_ite
  · intro he
    exact nothing_unsuccessful (.inl ⟨rfl, he, rfl⟩)
  · intro _
    cases buildStorePlan
        (BridgeTransfers.storeWorld (δ := δ) config layout env id m adaptedBlocks).gatherPlanned m
        adaptedBlocks with
    | none => exact nothing_unsuccessful (.inr (hfallback _))
    | some p =>
      apply orFallback_fails
      intro _
      apply orFallback_fails
      intro _
      apply orFallback_fails
      intro receipt
      apply triple_ite
      · intro _
        exact triple_orFallback (publish_refused hn receipt.sidecarRecords)
          (fun _ _ _ h => by cases h) fun _ _ h => h.elim
      · intro _
        exact nothing_unsuccessful (.inr (hfallback _))

/-- A store attempt that succeeds has stored its plan and published the records. -/
theorem succeeded_facts {config : BridgeConfig} {layout : LayeredCacheLayout}
    {env : StoreEnvironment} {id : ℕ} {m : SchedulerTransferMetadata sha256}
    {adaptedBlocks : AdaptedKvCacheBlocks} {w w' : World δ} {o : PostForwardOutcome}
    (h : BridgeTransfers.afterForward config layout env id m adaptedBlocks w = (.ok o, w'))
    (hs : o.state = .succeeded) :
    env.stored.isSome = true ∧ env.inserted.isSome = true ∧
      ∃ p, buildStorePlan (gatherPlans layout m adaptedBlocks).toOption.isSome m adaptedBlocks =
        some p := by
  have hinserted : env.inserted.isSome = true := by
    apply Option.isSome_iff_ne_none.mpr
    intro hn
    exact ((unpublished_fails hn) w trivial).1 o w' h hs
  have hend := ((afterForward_spec config layout env id m adaptedBlocks w) w rfl).1 o w' h
  cases hend with
  | published hp hstored =>
    exact ⟨Option.isSome_iff_exists.mpr ⟨_, hstored.stored⟩, hinserted, _, hp⟩
  | _ => cases hs

/-! ## The document of a store -/

theorem inputs_tokens {r : StoreRequest} {tokens : List TokenId}
    (ht : normalized r.tokenIds = .ok tokens) {w w' : Wire}
    {registration : LmcacheStagingRegistration} {checked : List TokenId × ℕ}
    (h : validateStoreInputs r w = (.ok (registration, checked), w')) :
    w' = w ∧ checked.1 = tokens := by
  rcases (Call.bind_ok_iff _ _ _ _ _).mp h with ⟨found, w₁, ha, h⟩
  have hkept : w₁ = w := by
    rcases activeRegistration_cases w with ⟨_, hr, _⟩ | ⟨_, ⟨hr, _⟩ | ⟨hr, _⟩⟩ <;>
      cases hr.symm.trans ha
    rfl
  rcases (Call.lift_bind_iff _ _ _ _ _).mp h with ⟨c, hc, h⟩
  cases h
  unfold checkStore at hc
  rw [ht] at hc
  simp only [checked_ok_iff, Except.ok.injEq] at hc
  rcases hc with ⟨_, _, _, _, _, rfl, _, _, _, _, _, _, _, _, rfl⟩
  exact ⟨hkept, rfl⟩

theorem sent_accepted {config : LmcacheBlendTransportConfig} {r : StoreRequest}
    {n : CacheNamespace} {range : TokenRange} {exchange : Exchange} {output : HashOutput}
    {w w' : Wire} {receipt : LmcacheStoreReceipt} {tokens : List TokenId}
    (ht : normalized r.tokenIds = .ok tokens)
    (h : storePrecomputed sha256 config r n range exchange output w = (.ok receipt, w')) :
    StoreAccepted config r n range w tokens ∧ exchange = .answered (.bool true) ∧
      output ≠ .raised := by
  unfold storePrecomputed at h
  rcases (Call.bind_ok_iff _ _ _ _ _).mp h with ⟨⟨registration, found, offset⟩, w₁, hi, hrest⟩
  rcases inputs_tokens ht hi with ⟨rfl, hfound⟩
  cases hfound
  rcases (Call.lift_bind_iff _ _ _ _ _).mp hrest with ⟨⟨⟩, hidentity, hrest⟩
  rcases (Call.bind_ok_iff _ _ _ _ _).mp hrest with ⟨⟨⟩, w₂, hsent, hrest⟩
  rcases (Call.bind_ok_iff _ _ _ _ _).mp hrest with ⟨records, w₃, hrecords, _⟩
  refine ⟨⟨⟨registration, offset, hi⟩, hidentity⟩, ?_, fun ho => ?_⟩
  · rcases requestExpecting_cases _ _ _ exchange w₁ with ⟨he, _⟩ | ⟨_, e, he⟩
    · exact he
    · cases he.symm.trans hsent
  · rw [ho] at hrecords
    cases hrecords

variable {chunkHash : List TokenId → Digest} {writer : SqliteSidecarIndex}
  {a : PromptStore sha256 δ} {t t' : SidecarTable}

theorem plan_document {p : WorkerStorePlan sha256} (hp : a.plan = some p) :
    p.metadata = a.metadata ∧ p.tokenIds = a.document := by
  have hmetadata := (buildStorePlan_some hp).1
  refine ⟨hmetadata, ?_⟩
  rw [WorkerStorePlan.tokenIds, (store_eligible hp).2, hmetadata]
  rfl

/-- A successful attempt is an accepted store of the complete chunks, and its records are
published. -/
theorem stores_document (h : a.Stores chunkHash writer t t') :
    ∃ (store : DocumentStore) (count : ℕ), store.tokens = a.document ∧
      store.config.cacheNamespace = a.metadata.cacheNamespace ∧
      Receives chunkHash sha256 store (a.records chunkHash) ∧
      Added sha256 writer t ⟨a.faults, a.records chunkHash, .ok count⟩ t' := by
  rcases h with ⟨⟨o, w, hrun, hsucceeded⟩, htable⟩
  rcases succeeded_facts hrun hsucceeded with ⟨hstored, hinserted, p, hp⟩
  have hplan : a.plan = some p := hp
  rcases plan_document hplan with ⟨hmetadata, hdocument⟩
  rcases Option.isSome_iff_exists.mp hstored with ⟨receipt, hreceipt⟩
  have hsent : (a.sent chunkHash p).1.toOption = some receipt := by
    rw [← hreceipt]
    show _ = a.receipt chunkHash
    rw [PromptStore.receipt, hplan]
    rfl
  have hrecords : a.records chunkHash = receipt.sidecarRecords := by
    have hr : a.receipt chunkHash = some receipt := hreceipt
    rw [PromptStore.records, hr]
    rfl
  have hreturned : a.sent chunkHash p = (.ok receipt, (a.sent chunkHash p).2) :=
    Prod.ext (toOption_some hsent) rfl
  have hnormalized : normalized (a.request p).tokenIds = .ok p.tokenIds := by
    show (normalizeTokenIds (values p.tokenIds)).mapError _ = _
    rw [values, normalizeTokenIds_val]
    rfl
  rcases sent_accepted hnormalized hreturned with ⟨haccepted, hexchange, houtput⟩
  have hn : p.metadata.cacheNamespace = a.config.cacheNamespace :=
    (recordIdentity_facts haccepted.identity).1
  have hhashed : a.hasherReturns = true := by
    by_contra hr
    exact houtput (if_neg hr)
  rw [hn] at haccepted
  let store : DocumentStore :=
    ⟨a.config, a.request p, p.sourceRange, a.wire, p.tokenIds, rfl, haccepted⟩
  have hreceives : Receives chunkHash sha256 store (a.records chunkHash) := by
    refine ⟨receipt, (a.sent chunkHash p).2, ?_, hrecords.symm⟩
    rw [← hreturned, PromptStore.sent, hexchange, hn, if_pos hhashed]
  rcases Option.isSome_iff_exists.mp hinserted with ⟨inserted, hcount⟩
  rcases Option.map_eq_some_iff.mp hcount with ⟨count, hcount, _⟩
  refine ⟨store, count, hdocument, ?_, hreceives, ?_⟩
  · rw [← hmetadata]
    exact hn.symm
  · show writer.addMany sha256 a.faults (a.records chunkHash) t = (.ok count, t')
    rw [htable]
    exact Prod.ext (toOption_some hcount) rfl

end

/-! ## Runs of stores -/

inductive PromptEvent (sha256 : Bytes → Digest) (δ : Type) where
  | registered (tokens : List TokenId) (result : Except RuntimeError PUnit)
  | stored (a : PromptStore sha256 δ)

section
variable {sha256 : Bytes → Digest} {δ : Type} (chunkHash : List TokenId → Digest)
  (writer : SqliteSidecarIndex)

def Handled (s : Deployment) : PromptEvent sha256 δ → Deployment → Prop
  | .registered tokens result, s' =>
    Performed s.index ⟨registration chunkHash tokens, result⟩ s'.index ∧ s'.table = s.table
  | .stored a, s' => s'.index = s.index ∧ a.Stores chunkHash writer s.table s'.table

def PromptEvent.document : PromptEvent sha256 δ → List TokenId
  | .registered tokens _ => tokens
  | .stored a => a.document

def PromptEvent.records : PromptEvent sha256 δ → List CacheRecord
  | .registered _ _ => []
  | .stored a => a.records chunkHash

def publishedRecords (es : List (PromptEvent sha256 δ)) : List CacheRecord :=
  es.flatMap (PromptEvent.records chunkHash)

theorem published_registered (tokens : List TokenId) (result : Except RuntimeError PUnit)
    (es : List (PromptEvent sha256 δ)) :
    publishedRecords chunkHash (.registered tokens result::es) = publishedRecords chunkHash es :=
  List.flatMap_cons

theorem published_stored (a : PromptStore sha256 δ) (es : List (PromptEvent sha256 δ)) :
    publishedRecords chunkHash (.stored a::es) =
      a.records chunkHash ++ publishedRecords chunkHash es := List.flatMap_cons

/-- Every prompt is stored under the namespace, registered and published, the index has room,
no bucket is over its limit, and the hashes tell apart what they are applied to. -/
structure WhollyStored (reader : SqliteSidecarIndex) (n : CacheNamespace)
    (es : List (PromptEvent sha256 δ)) : Prop where
  namespaces : ∀ a, .stored a ∈ es → a.metadata.cacheNamespace = n
  registered : ∀ a, .stored a ∈ es → ∃ result, .registered a.document result ∈ es
  stored : ∀ tokens result, .registered tokens result ∈ es → ∃ a, .stored a ∈ es ∧
    a.document = tokens
  room : ∀ tokens, .registered tokens (.error ⟨"LMCache exact matcher capacity exceeded"⟩) ∉ es
  buckets : ∀ fp, (bucketOf (firstBy id [] (publishedRecords chunkHash es)) n fp).length ≤
    maxCollisionBucketRecords
  hashes : PrefixInjective chunkHash (es.map PromptEvent.document)
  digests : CollisionFree sha256 (usedInputs n (publishedRecords chunkHash es))
  isOpen : reader.closed = false

/-- The store that the sidecar sees of a prompt. -/
inductive Translates : PromptEvent sha256 δ → StoreEvent → Prop
  | registered (tokens : List TokenId) (result : Except RuntimeError PUnit) :
    Translates (.registered tokens result) (.registered tokens result)
  | stored {a : PromptStore sha256 δ} {store : DocumentStore} (count : ℕ)
    (ht : store.tokens = a.document)
    (hn : store.config.cacheNamespace = a.metadata.cacheNamespace) :
    Translates (.stored a) (.published store (a.records chunkHash) a.faults (.ok count))

variable {chunkHash writer} {es : List (PromptEvent sha256 δ)} {es' : List StoreEvent}
  {s : Deployment}

theorem translated_run (h : Run (Handled chunkHash writer) .empty es s) : ∃ es',
    Run (Stored chunkHash sha256 writer) .empty es' s ∧
      List.Forall₂ (Translates chunkHash) es es' := by
  induction h with
  | nil => exact ⟨[], .nil, .nil⟩
  | @snoc es s s' e _ hs ih =>
    rcases ih with ⟨es', hrun, htranslates⟩
    have hsnoc : ∀ e', Stored chunkHash sha256 writer s e' s' → Translates chunkHash e e' →
        ∃ es'', Run (Stored chunkHash sha256 writer) .empty es'' s' ∧
          List.Forall₂ (Translates chunkHash) (es ++ [e]) es'' := by
      intro e' hstep he
      exact ⟨es' ++ [e'], hrun.snoc hstep, List.rel_append htranslates (.cons he .nil)⟩
    cases e with
    | registered tokens result => exact hsnoc (.registered tokens result) hs (.registered _ _)
    | stored a =>
      rcases hs with ⟨hindex, hstores⟩
      rcases stores_document hstores with ⟨store, count, ht, hn, hreceives, hadded⟩
      exact hsnoc (.published store (a.records chunkHash) a.faults (.ok count))
        ⟨hindex, hreceives, hadded⟩ (.stored count ht hn)

theorem translated_documents (h : List.Forall₂ (Translates chunkHash) es es') :
    documents es' = es.map PromptEvent.document := by
  induction h with
  | nil => rfl
  | @cons e e' es es' he _ ih =>
    rw [documents, List.flatMap_cons, ← documents, ih, List.map_cons]
    cases he with
    | registered => rfl
    | stored _ ht _ =>
      rw [StoreEvent.documents, ht]
      rfl

theorem translated_records (h : List.Forall₂ (Translates chunkHash) es es') :
    (addCalls es').flatMap AddCall.records = publishedRecords chunkHash es ∧
      (addCalls es').flatMap AddCall.accepted = publishedRecords chunkHash es := by
  induction h with
  | nil => exact ⟨rfl, rfl⟩
  | @cons e e' es es' he _ ih =>
    rcases ih with ⟨hrecords, haccepted⟩
    cases he with
    | registered => exact ⟨hrecords, haccepted⟩
    | stored _ _ _ =>
      exact ⟨congrArg (_ ++ ·) hrecords, congrArg (_ ++ ·) haccepted⟩

theorem translated_kept (h : List.Forall₂ (Translates chunkHash) es es') :
    ∀ e ∈ es', e.evictedHashes = [] := by
  intro e' he'
  rcases forall₂_right h he' with ⟨e, _, he⟩
  cases he <;> rfl

theorem readable_of {reader : SqliteSidecarIndex} {config : AuditedConfig}
    (hrun : Run (Stored chunkHash sha256 writer) .empty es' s)
    (h : List.Forall₂ (Translates chunkHash) es es')
    (hw : WhollyStored chunkHash reader config.cacheNamespace es) :
    StoredDocuments.Readable chunkHash sha256 writer reader config.cacheNamespace es' s where
  run := hrun
  hashes := translated_documents h ▸ hw.hashes
  digests := (translated_records h).1 ▸ hw.digests
  isOpen := hw.isOpen
  namespaceValid := sidecar_takes config.audited
  buckets fp := by
    rw [distinctRecords, (translated_records h).2]
    exact hw.buckets fp

/-! ## Lookups after stores -/

/-- The answer for a chunk of a document at a position of the query. -/
def chunkMatch (chunkHash : List TokenId → Digest) (document : List TokenId) (i position : ℕ) :
    CBMatchResult where
  oldSt := (i*lmcacheChunkSize : ℕ)
  oldEd := (i*lmcacheChunkSize : ℕ)+lmcacheChunkSize
  curSt := position
  curEd := position+lmcacheChunkSize
  hash := (chunkHash (prefixOf document i)).val

theorem matched_iff {m : TokenRangeMatcher lmcacheChunkSize} {events : List StoreEvent}
    (hm : Indexes chunkHash events m) {query : List TokenId}
    (hl : lmcacheChunkSize ≤ query.length) {response : List CBMatchResult}
    (h : m.matchSubSequence (values query) = .ok response) :
    (response.map CBMatchResult.hash).Nodup ∧ ∀ r, r ∈ response ↔ ∃ d i position,
      Occurs chunkHash events query d i position ∧ r = chunkMatch chunkHash d i position := by
  have hlv : lmcacheChunkSize ≤ (values query).length := by rwa [values_length]
  have hresponse : response = firstBy CBMatchResult.hash [] (allHits m (values query)) :=
    Except.ok.inj (h.symm.trans (matchSubSequence_eq m _ (by decide) hlv))
  rw [hresponse]
  refine ⟨firstBy_keys_nodup _ _ _, fun r => ?_⟩
  rw [mem_results_iff hm.coherent.linked (values query) hlv]
  constructor
  · intro hr
    rcases hr with ⟨hash, c, position, hg, hf, rfl⟩
    rcases (hm.stored hash c).mp hg with ⟨d, i, hlive, hc⟩
    refine ⟨d, i, position, ⟨hc.complete, hc.hash ▸ hlive, hc.tokens ▸ hf⟩, ?_⟩
    rw [matchResult, hc.start, hc.hash]
    rfl
  · intro hr
    rcases hr with ⟨d, i, position, ho, rfl⟩
    rcases chunkOf_exists chunkHash ho.complete with ⟨c, hc⟩
    refine ⟨_, c, position, (hm.stored _ c).mpr ⟨d, i, ho.live, hc⟩, hc.tokens ▸ ho.first, ?_⟩
    rw [matchResult, hc.start]
    rfl

/-- A candidate that verifies is planned whenever it is the only one. -/
theorem verifies_alone {records : Records} {query : List TokenId} {n : CacheNamespace}
    {c : LmcacheCandidate} (hin : c.targetRange.stop ≤ query.length)
    (hc : Verifies sha256 records query n c) : ∃ p,
      plan sha256 (pureLookup records) (values query) n [c] = .ok p ∧
        p.verifiedCandidates.map VerifiedLmcacheCandidate.candidate = [c] ∧
        p.rejectedCandidates = [] := by
  rcases plan_concluded sha256 records query n [c] (by simpa using hin) with
    ⟨st, p, hplan, htally, hconcluded⟩
  have hfacts := concluded_facts sha256 records query n htally hconcluded
  have hcovered := hfacts.maximal [c] (by simpa using hc) (List.pairwise_singleton _ _)
  have hlength := hfacts.accounted.length_eq
  have hpositive := c.target_nonempty
  have hne : p.verifiedCandidates ≠ [] := by
    intro hnone
    rw [hnone] at hcovered
    simp only [tokenTotal, List.map_cons, List.map_nil, List.sum_cons, List.sum_nil] at hcovered
    omega
  have hverified := List.length_pos_of_ne_nil hne
  rw [List.length_append, List.length_map, List.length_map, List.length_singleton] at hlength
  have hrejected : p.rejectedCandidates = [] := List.length_eq_zero_iff.mp (by omega)
  refine ⟨p, hplan, ?_, hrejected⟩
  have hperm := hfacts.accounted
  rw [hrejected, List.map_nil, List.append_nil] at hperm
  exact List.perm_singleton.mp hperm

section
variable {reader : SqliteSidecarIndex} {n : CacheNamespace} {query : List TokenId}
  (h : List.Forall₂ (Translates chunkHash) es es') (hw : WhollyStored chunkHash reader n es)
include h hw

theorem registrations_return (hroom : ∀ tokens e, .registered tokens (.error e) ∈ es' →
    e = ⟨"LMCache exact matcher capacity exceeded"⟩) (tokens : List TokenId)
    (result : Except RuntimeError PUnit) (hm : .registered tokens result ∈ es) :
    result = .ok ⟨⟩ := by
  cases result with
  | ok _ => rfl
  | error e =>
    rcases forall₂_left h hm with ⟨e', hm', he⟩
    cases he
    rw [hroom tokens e hm'] at hm
    exact absurd hm (hw.room tokens)

theorem backed_of_stored {a : PromptStore sha256 δ} (ha : .stored a ∈ es) {i : ℕ}
    (hi : i < chunkCount a.document) :
    Backed chunkHash es' n (chunkHash (prefixOf a.document i)) := by
  rcases forall₂_left h ha with ⟨e', hm, he⟩
  cases he with
  | stored count ht hn =>
    refine ⟨_, i, ⟨_, _, _, hm⟩, hn.trans (hw.namespaces a ha), ?_, ?_⟩
    · rwa [ht]
    · rw [ht]

theorem occurs_iff (hreturn : ∀ tokens result, .registered tokens result ∈ es → result = .ok ⟨⟩)
    (d : List TokenId) (i position : ℕ) :
    Occurs chunkHash es' query d i position ↔ ∃ a, .stored a ∈ es ∧ a.document = d ∧
      i < chunkCount d ∧ FirstAt (values query) (values (chunkWork d i).tokenIds) position := by
  constructor
  · intro ho
    rcases ho.live with ⟨earlier, later, rfl, _⟩
    rcases forall₂_right h (List.mem_append_right earlier List.mem_cons_self) with ⟨e, hm, he⟩
    cases he
    rcases hw.stored d _ hm with ⟨a, ha, hd⟩
    exact ⟨a, ha, hd, ho.complete, ho.first⟩
  · intro hstored
    rcases hstored with ⟨a, ha, rfl, hi, hf⟩
    refine ⟨hi, ?_, hf⟩
    rcases hw.registered a ha with ⟨result, hm⟩
    cases hreturn _ _ hm
    rcases forall₂_left h hm with ⟨e', hm', he⟩
    cases he
    rcases List.append_of_mem hm' with ⟨earlier, later, hsplit⟩
    refine ⟨earlier, later, hsplit, fun e he => ?_⟩
    rw [translated_kept h e (by simp [hsplit, he])]
    exact List.not_mem_nil

end

end

/-- After any run of prompts that are stored by `after_forward`, registered and published, with
no eviction, no registration raises, and a query of at least a chunk is answered once for each
stored hash whose chunk occurs in it, at the first place. Each candidate verifies alone, and
together they are rejected for an overlap only and cover the most tokens that any disjoint
choice of them covers. -/
theorem stored_prompts_found {sha256 : Bytes → Digest} {δ : Type}
    (chunkHash : List TokenId → Digest) (writer reader : SqliteSidecarIndex)
    (config : AuditedConfig) (es : List (PromptEvent sha256 δ)) (s : Deployment)
    (query : List TokenId) (hrun : Run (Handled chunkHash writer) .empty es s)
    (hw : WhollyStored chunkHash reader config.cacheNamespace es)
    (hl : lmcacheChunkSize ≤ query.length) :
    (∀ tokens result, .registered tokens result ∈ es → result = .ok ⟨⟩) ∧
    ∃ response candidates p, s.index.matchSubSequence (values query) = .ok response ∧
      (response.map CBMatchResult.hash).Nodup ∧
      (∀ r, r ∈ response ↔ ∃ a i position, .stored a ∈ es ∧ i < chunkCount a.document ∧
        FirstAt (values query) (values (chunkWork a.document i).tokenIds) position ∧
        r = chunkMatch chunkHash a.document i position) ∧
      decodeCandidates sha256 config.storageModelName query response = .ok candidates ∧
      (∀ c ∈ candidates, ∃ alone, plan sha256 (reader.recordLookup sha256 s.table) (values query)
          config.cacheNamespace [c] = .ok alone ∧
        alone.verifiedCandidates.map VerifiedLmcacheCandidate.candidate = [c] ∧
        alone.rejectedCandidates = []) ∧
      plan sha256 (reader.recordLookup sha256 s.table) (values query) config.cacheNamespace
        candidates = .ok p ∧
      (∀ r ∈ p.rejectedCandidates, r.reason = .overlapsSelectedCandidate) ∧
      ∀ cs : List LmcacheCandidate, (∀ c ∈ cs, c ∈ candidates) → cs.Pairwise Disjoint →
        tokenTotal cs ≤ verifiedTokens p := by
  rcases translated_run hrun with ⟨events, hstores, htranslates⟩
  have hr := readable_of hstores htranslates hw
  have ⟨hm, hroom⟩ := indexes_run hstores hr.hashes
  have hreturn := registrations_return htranslates hw hroom
  rcases lookup_facts config.storageModelName hr hl with ⟨candidates, p, hanswer, h⟩
  rcases hanswer.response with ⟨response, hmatch, hdecode⟩
  have ⟨hnodup, hmatched⟩ := matched_iff hm hl hmatch
  have hoffered : ∀ c ∈ candidates, c.targetRange.stop ≤ query.length ∧
      Backed chunkHash events config.cacheNamespace c.storageHash := by
    intro c hc
    rcases (h.offered c).mp hc with ⟨d, i, position, ho, hoffer⟩
    rcases (occurs_iff htranslates hw hreturn d i position).mp ho with ⟨a, ha, rfl, hi, _⟩
    refine ⟨offer_in_prompt ho hoffer, ?_⟩
    rw [hoffer.hash]
    exact backed_of_stored htranslates hw ha hi
  have hverifies : ∀ c ∈ candidates,
      Verifies sha256 (recordsAfter events) query config.cacheNamespace c :=
    fun c hc => (h.verified c hc).mpr (hoffered c hc).2
  refine ⟨hreturn, response, candidates, p, hmatch, hnodup, fun r => ?_, hdecode, fun c hc => ?_,
    hanswer.planned, fun r hrejected => ?_, fun cs hcs => ?_⟩
  · rw [hmatched]
    constructor
    · intro hfound
      rcases hfound with ⟨d, i, position, ho, rfl⟩
      rcases (occurs_iff htranslates hw hreturn d i position).mp ho with ⟨a, ha, rfl, hi, hf⟩
      exact ⟨a, i, position, ha, hi, hf, rfl⟩
    · intro hfound
      rcases hfound with ⟨a, i, position, ha, hi, hf, rfl⟩
      exact ⟨a.document, i, position,
        (occurs_iff htranslates hw hreturn _ _ _).mpr ⟨a, ha, rfl, hi, hf⟩, rfl⟩
  · rw [plan_congr sha256 (lookup_pure hr)]
    exact verifies_alone (hoffered c hc).1 (hverifies c hc)
  · apply (rejected_iff h hrejected).mpr
    have hin := List.mem_map_of_mem (f := RejectedLmcacheCandidate.candidate) hrejected
    exact (hoffered _ (h.plan.accounted.mem_iff.mp (List.mem_append_right _ hin))).2
  · exact h.plan.maximal cs fun c hc => ⟨hcs c hc, hverifies c (hcs c hc)⟩

/-! ## Two prompts -/

section
open CacheBlend.RequestLifecycle CacheBlend.ExactScatters CacheBlend.ProbedLoads

theorem headPlan_valid : checkRequestPlan "r" 257 [] ⟨[], [], 0⟩ = .ok () := by
  decide +kernel

def headPlan : RequestPlan := ⟨"r", 257, [], ⟨[], [], 0⟩, noSegments_sorted, headPlan_valid⟩

def headHandoff : RequestHandoffMetadata where
  schemaVersion := metadataSchemaVersion
  plan := headPlan
  allocation := ⟨"r", 0, twoBlocks, fullRecomputeExternalTokens, request_named, rfl⟩
  schema_eq := rfl
  id_eq := rfl

/-- A prompt of one complete chunk and a token more. -/
def headFields : TransferFields where
  cacheNamespace := pinnedNamespace
  promptTokenIds := zeros ++ [7]
  verifiedCandidates := []
  handoff := headHandoff
  numComputedTokensBeforeStep := 0
  scheduledTokenCount := 257
  transferEligible := false
  storeEligible := true

theorem headFields_valid : TransferRuntime.checkTransfer tailDigest headFields = .ok () := by
  decide +kernel

def headMetadata : SchedulerTransferMetadata tailDigest := ⟨headFields, headFields_valid⟩

def promptStore (m : SchedulerTransferMetadata tailDigest) : PromptStore tailDigest UInt8 where
  config := pinnedConfig
  buffers := ⟨0, 0, 512⟩
  layout := wideLayout
  answers := ⟨none, wideTensors, fun _ => steadyRuntime, ⟨true, true⟩, fun _ => steadyRuntime,
    none, none⟩
  id := 0
  metadata := m
  adaptedBlocks := threeBlocks
  world := ⟨.opened, stagedOnes, [], []⟩
  wire := registeredWire
  eventIpcHandle := [0]
  exchange := .answered (.bool true)
  hasherReturns := true
  faults := .none

/-- Whether every check of the gather of a chunk passes. -/
def gatherPasses (i : ℕ) (plan : TokenScatterPlan) : Bool :=
  let range := (chunkWork [] i).tokenRange
  (DataPlane.preflightGather wideTensors plan.layerSpans range
      (0+i*lmcacheChunkSize : ℕ)).toOption.any fun validated =>
    validated.logicalTokens = lmcacheChunkSize ∧
      validated.layerTokenRows = lmcacheChunkSize*ScatterSpans.gptOssNumLayers ∧
      validated.spans.length = plan.layerSpans.length ∧
      ∀ span ∈ validated.spans, (DataPlane.prepareGather wideTensors steadyRuntime stagedOnes range
        (0+i*lmcacheChunkSize : ℕ) span).toOption.isSome = true

theorem gathers_pass : ∀ i < 2,
    (planTransfer wideLayout threeBlocks (chunkWork [] i).tokenRange
      (chunkWork [] i).tokenRange).toOption.any (gatherPasses i) = true := by
  decide +kernel

/-- A prompt that the store takes, with its complete chunks. -/
structure Packed (m : SchedulerTransferMetadata tailDigest) (tokens : List TokenId) : Prop where
  known : tokens ∈ [zeros, zerosOnes]
  storable : Storable tokens
  document : (promptStore m).document = tokens
  cacheNamespace : m.cacheNamespace = pinnedNamespace
  requestId : m.requestId = "r"
  eligible : m.storeEligible = true
  planned : (buildStorePlan true m threeBlocks).isSome = true
  gathered : (gatherPlans wideLayout m threeBlocks).toOption.isSome = true
  few : m.promptTokenCount/lmcacheChunkSize ≤ 2

theorem head_packed : Packed headMetadata zeros where
  known := List.mem_cons_self
  storable := zeros_storable
  document := by decide +kernel
  cacheNamespace := rfl
  requestId := rfl
  eligible := rfl
  planned := by decide +kernel
  gathered := by decide +kernel
  few := by decide +kernel

theorem whole_packed : Packed twoChunkMetadata zerosOnes where
  known := List.mem_cons_of_mem _ List.mem_cons_self
  storable := zerosOnes_storable
  document := by decide +kernel
  cacheNamespace := rfl
  requestId := rfl
  eligible := rfl
  planned := by decide +kernel
  gathered := by decide +kernel
  few := by decide +kernel

theorem chunk_passes {env : StoreEnvironment} (ht : env.tensors = wideTensors)
    (hp : env.preflight = fun _ => steadyRuntime) (hg : env.gather = fun _ => steadyRuntime)
    {work : StoreChunkWork × TokenScatterPlan} {prompt : List TokenId} {i : ℕ} (hi : i < 2)
    (hw : work.1 = chunkWork prompt i)
    (hplan : planTransfer wideLayout threeBlocks work.1.tokenRange work.1.tokenRange =
      .ok work.2) :
    ∃ validated, ChunkPasses ⟨0, 0, 512⟩ env stagedOnes work validated := by
  have hpasses := gathers_pass i hi
  have hplanned : planTransfer wideLayout threeBlocks (chunkWork [] i).tokenRange
      (chunkWork [] i).tokenRange = .ok work.2 := by
    rw [hw] at hplan
    exact hplan
  rw [hplanned] at hpasses
  have hchecked : gatherPasses i work.2 = true := hpasses
  rcases (Option.any_eq_true _ _).mp hchecked with ⟨validated, hvalidated, hvalid⟩
  rcases of_decide_eq_true hvalid with ⟨htokens, hrows, hcount, hviews⟩
  have hsteady : ∀ k, env.preflight k = steadyRuntime ∧ env.gather k = steadyRuntime := by
    rw [hp, hg]
    exact fun _ => ⟨rfl, rfl⟩
  rcases hsteady work.1.chunkIndex with ⟨hdry, hsteady⟩
  refine ⟨validated, ?_, ?_, ?_, ?_, ?_, ?_, htokens, hrows, hcount⟩
  · rw [ht, hw]
    exact toOption_some hvalidated
  · rw [ht, hdry, hw]
    exact hviews
  · rw [ht, hsteady, hw]
    exact hviews
  · rw [hdry]
    rfl
  · rw [hsteady]
    exact fun _ => rfl
  · rw [hsteady]
    rfl

/-- The plan of a packed store. -/
structure PackedPlan (m : SchedulerTransferMetadata tailDigest) (tokens : List TokenId)
    (p : WorkerStorePlan tailDigest) (gathers : List TokenScatterPlan) : Prop where
  built : buildStorePlan true m threeBlocks = some p
  gathered : gatherPlans wideLayout m threeBlocks = .ok gathers
  plan : (promptStore m).plan = some p
  metadata : p.metadata = m
  document : p.tokenIds = tokens
  expected : p.expectedTokens = tokens.length

theorem packed_plan {m : SchedulerTransferMetadata tailDigest} {tokens : List TokenId}
    (h : Packed m tokens) : ∃ p gathers, PackedPlan m tokens p gathers := by
  rcases Option.isSome_iff_exists.mp h.planned with ⟨p, hp⟩
  rcases Option.isSome_iff_exists.mp h.gathered with ⟨gathers, hg⟩
  have hplan : (promptStore m).plan = some p := by
    show buildStorePlan (gatherPlans wideLayout m threeBlocks).toOption.isSome m threeBlocks = _
    rw [h.gathered, hp]
  rcases plan_document hplan with ⟨hm, htokens⟩
  rw [h.document] at htokens
  have hm : p.metadata = m := hm
  have hfits : p.expectedTokens ≤ m.promptTokenIds.length := by
    rw [(store_eligible hp).2, hm]
    exact Nat.div_mul_le_self _ _
  refine ⟨p, gathers, hp, toOption_some hg, hplan, hm, htokens, ?_⟩
  rw [← htokens, WorkerStorePlan.tokenIds, List.length_take, hm, Nat.min_eq_left hfits]

def documentReceipt (tokens : List TokenId) (records : List CacheRecord) : LmcacheStoreReceipt :=
  ⟨tokens.length, tokens.length/lmcacheChunkSize, true, records⟩

theorem packed_receipt {m : SchedulerTransferMetadata tailDigest} {tokens : List TokenId}
    (h : Packed m tokens) {p : WorkerStorePlan tailDigest} {gathers : List TokenScatterPlan}
    (hp : PackedPlan m tokens p gathers) {records : List CacheRecord}
    (hr : Receives prefixHash tailDigest (documentStore tokens h.storable) records) :
    (promptStore m).receipt prefixHash = some (documentReceipt tokens records) ∧
      ReceiptValid (documentReceipt tokens records) p ∧
      WorkerBridge.ValidRecordBatch tailDigest records := by
  have hcount := chunkHashes_length prefixHash tokens
  have hchunk : lmcacheChunkSize ≤ tokens.length :=
    Nat.le_of_dvd (List.length_pos_of_ne_nil h.storable.nonempty)
      (Nat.dvd_of_mod_eq_zero h.storable.chunked)
  rcases storePrecomputed_returns tailDigest (storeRequest_accepted h.storable) _ hcount with
    ⟨sent, wire, hsent, hreturn⟩
  have hpass := hsent.pass hcount pinnedConfig.audited hchunk
    (h.storable.fits.trans (by decide))
  have hreturn := hreturn hpass.receipt
  cases receives_unique hr ⟨_, wire, hreturn, rfl⟩
  have hn : p.metadata.cacheNamespace = pinnedNamespace := hp.metadata ▸ h.cacheNamespace
  have hrequest : (promptStore m).request p = storeRequest tokens := by
    rw [PromptStore.request, hp.document, hp.metadata, h.requestId]
    rfl
  have hrange : p.sourceRange = wholeRange tokens :=
    (TokenRange.ext_iff' _ _).mpr ⟨rfl, hp.expected⟩
  refine ⟨?_, hsent.receipt_valid hcount hp.built hp.document hn, hpass.batch⟩
  have hreceived : (promptStore m).sent prefixHash p =
      (.ok (documentReceipt tokens sent), wire) := by
    rw [PromptStore.sent, hrequest, hrange, hp.document, hn]
    exact hreturn
  rw [PromptStore.receipt, hp.plan]
  show ((promptStore m).sent prefixHash p).1.toOption = _
  rw [hreceived]
  rfl

theorem packed_passes {m : SchedulerTransferMetadata tailDigest} {tokens : List TokenId}
    (h : Packed m tokens) {p : WorkerStorePlan tailDigest} {gathers : List TokenScatterPlan}
    (hp : PackedPlan m tokens p gathers) {receipt : LmcacheStoreReceipt} {t : SidecarTable}
    {inserted : ℕ} (hr : (promptStore m).receipt prefixHash = some receipt)
    (hv : ReceiptValid receipt p)
    (hb : WorkerBridge.ValidRecordBatch tailDigest receipt.sidecarRecords)
    (hi : (promptStore m).inserted prefixHash openWriter t = some (inserted : ℤ))
    (hc : inserted ≤ receipt.sidecarRecords.length) :
    StorePasses (promptStore m).buffers ((promptStore m).environment prefixHash openWriter t) p
      gathers stagedOnes receipt inserted where
  eligible := hp.metadata ▸ h.eligible
  tokens := hp.document ▸ ⟨h.storable.nonempty, h.storable.bounded⟩
  request := by
    rw [hp.metadata, h.requestId]
    decide
  transport := ⟨_, rfl, (hp.metadata ▸ h.cacheNamespace).symm⟩
  range := by
    rw [hp.expected]
    exact (Nat.zero_add _).trans_le h.storable.fits
  lease := rfl
  chunks := by
    intro work hwork
    rcases store_works hp.gathered hp.built hwork with ⟨i, hi, hw, hplanned⟩
    exact chunk_passes rfl rfl rfl (hi.trans_le h.few) hw hplanned
  stored := hr
  valid := hv
  batch := hb
  answered := hi
  counted := hc

theorem packed_stores {m : SchedulerTransferMetadata tailDigest} {tokens : List TokenId}
    (h : Packed m tokens) {t : SidecarTable} {stored : List CacheRecord}
    (hc : Content tailDigest t stored) (hk : ∀ r ∈ stored, ∃ i, KnownRecord i r) :
    ∃ records t', (promptStore m).records prefixHash = records ∧
      (promptStore m).Stores prefixHash openWriter t t' ∧ AllKnown records ∧
      Content tailDigest t' (stored ++ newRecords stored records) := by
  rcases publication_returns h.known h.storable ⟨.initial _, t⟩ hc hk with
    ⟨records, count, t', ⟨_, hreceives, hadded⟩, hknown, hcontent⟩
  rcases packed_plan h with ⟨p, gathers, hp⟩
  rcases packed_receipt h hp hreceives with ⟨hreceipt, hvalid, hbatch⟩
  have hrecords : (promptStore m).records prefixHash = records := by
    rw [PromptStore.records, hreceipt]
    rfl
  have hreturned : openWriter.addMany tailDigest .none records t = (.ok count, t') := hadded
  have hinserted : (promptStore m).inserted prefixHash openWriter t = some (count : ℤ) := by
    rw [PromptStore.inserted, hrecords]
    show ((openWriter.addMany tailDigest .none records t).1.toOption).map _ = _
    rw [hreturned]
    rfl
  have hcounted : count ≤ records.length := by
    rw [(addMany_ok hc hadded).2.1]
    exact (firstBy_sublist id stored records).length_le
  have hpasses := packed_passes h hp hreceipt hvalid hbatch hinserted hcounted
  refine ⟨records, t', hrecords, ⟨?_, ?_⟩, hknown, hcontent⟩
  · have hready : BridgeStages.Ready (promptStore m).world ∧
        (promptStore m).world.bridge.gatheredPlan = none := ⟨⟨rfl, rfl⟩, rfl⟩
    rcases (passing_succeeds 0 hp.gathered hp.built hpasses).outcome hready with
      ⟨o, w, ho, hs⟩ | ⟨_, _, _, hf⟩
    · exact ⟨o, w, ho, hs⟩
    · exact hf.elim
  · rw [hrecords]
    exact (congrArg Prod.snd hreturned).symm

def headStore : PromptStore tailDigest UInt8 := promptStore headMetadata

def wholeStore : PromptStore tailDigest UInt8 := promptStore twoChunkMetadata

def twoPrompts : List (PromptEvent tailDigest UInt8) :=
  [.registered zeros (.ok ⟨⟩), .stored headStore, .registered zerosOnes (.ok ⟨⟩),
    .stored wholeStore]

theorem prompt_registered {m m' : TokenRangeMatcher lmcacheChunkSize} {tokens : List TokenId}
    (t : SidecarTable) (h : m.perform (registration prefixHash tokens) = .ok m') :
    Handled prefixHash openWriter ⟨m, t⟩
      (.registered tokens (.ok ⟨⟩) : PromptEvent tailDigest UInt8) ⟨m', t⟩ :=
  ⟨(performed_iff _ _ _).mpr (Or.inl ⟨rfl, h⟩), rfl⟩

theorem prompt_stored {a : PromptStore tailDigest UInt8} {m : TokenRangeMatcher lmcacheChunkSize}
    {t t' : SidecarTable} (h : a.Stores prefixHash openWriter t t') :
    Handled prefixHash openWriter ⟨m, t⟩ (.stored a) ⟨m, t'⟩ := ⟨rfl, h⟩

theorem twoPrompts_run : ∃ s, Run (Handled prefixHash openWriter) .empty twoPrompts s ∧
    AllKnown (headStore.records prefixHash) ∧ AllKnown (wholeStore.records prefixHash) := by
  rcases index_returns with ⟨m₁, m₂, _, h₁, h₂, _⟩
  rcases packed_stores head_packed (content_empty : Content tailDigest .empty [])
    (fun r hr => absurd hr List.not_mem_nil) with
    ⟨records, t₁, hrecords, hhead, hknown, hcontent⟩
  have hstored : ∀ r ∈ [] ++ newRecords [] records, ∃ i, KnownRecord i r :=
    fun r hr => hknown.2 r ((firstBy_sublist id [] records).mem hr)
  rcases packed_stores whole_packed hcontent hstored with
    ⟨records', t₂, hrecords', hwhole, hknown', _⟩
  have hfirst : Run (Handled prefixHash openWriter) .empty
      [.registered zeros (.ok ⟨⟩), .stored headStore] ⟨m₁, t₁⟩ :=
    .snoc (.snoc .nil (prompt_registered .empty h₁)) (prompt_stored hhead)
  refine ⟨⟨m₂, t₂⟩, .snoc (.snoc hfirst (prompt_registered t₁ h₂)) (prompt_stored hwhole), ?_, ?_⟩
  · exact hrecords.symm ▸ hknown
  · exact hrecords'.symm ▸ hknown'

theorem headStore_document : headStore.document = zeros := head_packed.document

theorem wholeStore_document : wholeStore.document = zerosOnes := whole_packed.document

theorem headStore_mem : .stored headStore ∈ twoPrompts :=
  List.mem_cons_of_mem _ List.mem_cons_self

theorem wholeStore_mem : .stored wholeStore ∈ twoPrompts :=
  List.mem_cons_of_mem _ (List.mem_cons_of_mem _ (List.mem_cons_of_mem _ List.mem_cons_self))

theorem twoPrompts_events {e : PromptEvent tailDigest UInt8} (he : e ∈ twoPrompts) :
    e = .registered zeros (.ok ⟨⟩) ∨ e = .stored headStore ∨
      e = .registered zerosOnes (.ok ⟨⟩) ∨ e = .stored wholeStore := by
  simpa only [twoPrompts, List.mem_cons, List.not_mem_nil, or_false] using he

theorem twoPrompts_documents : twoPrompts.map PromptEvent.document =
    [zeros, zeros, zerosOnes, zerosOnes] := by
  simp only [twoPrompts, List.map_cons, List.map_nil, PromptEvent.document, headStore_document,
    wholeStore_document]

theorem twoPrompts_records : publishedRecords prefixHash twoPrompts =
    headStore.records prefixHash ++ wholeStore.records prefixHash := by
  rw [twoPrompts, published_registered, published_stored, published_registered, published_stored,
    publishedRecords, List.flatMap_nil, List.append_nil]

theorem twoPrompts_registered (a : PromptStore tailDigest UInt8) (ha : .stored a ∈ twoPrompts) :
    ∃ result, .registered a.document result ∈ twoPrompts := by
  rcases twoPrompts_events ha with h | h | h | h <;> cases h
  · refine ⟨.ok ⟨⟩, ?_⟩
    rw [headStore_document]
    exact List.mem_cons_self
  · refine ⟨.ok ⟨⟩, ?_⟩
    rw [wholeStore_document]
    exact List.mem_cons_of_mem _ (List.mem_cons_of_mem _ List.mem_cons_self)

theorem twoPrompts_stored (tokens : List TokenId) (result : Except RuntimeError PUnit)
    (hm : .registered tokens result ∈ twoPrompts) :
    ∃ a, .stored a ∈ twoPrompts ∧ a.document = tokens := by
  rcases twoPrompts_events hm with h | h | h | h <;> cases h
  · exact ⟨headStore, headStore_mem, headStore_document⟩
  · exact ⟨wholeStore, wholeStore_mem, wholeStore_document⟩

theorem twoPrompts_whole (hk : AllKnown (headStore.records prefixHash))
    (hk' : AllKnown (wholeStore.records prefixHash)) :
    WhollyStored prefixHash openWriter pinnedNamespace twoPrompts where
  namespaces := by
    intro a ha
    rcases twoPrompts_events ha with h | h | h | h <;> cases h <;> rfl
  registered := twoPrompts_registered
  stored := twoPrompts_stored
  room := by
    intro tokens hm
    rcases twoPrompts_events hm with h | h | h | h <;> cases h
  buckets fp := by
    rw [twoPrompts_records]
    exact known_bucket hk hk' _ _
  hashes := by
    apply prefixHash_injective
    rw [twoPrompts_documents]
    simp
  digests := by
    apply known_collisionFree
    rw [twoPrompts_records]
    exact fun r hr => (List.mem_append.mp hr).elim (hk.2 r) (hk'.2 r)
  isOpen := rfl

theorem chunkMatch_complete (chunkHash : List TokenId → Digest) {document query : List TokenId}
    {i position : ℕ} (hi : i < chunkCount document)
    (hf : FirstAt (values query) (values (chunkWork document i).tokenIds) position) :
    Complete query (chunkMatch chunkHash document i position) := by
  have hin := hf.occurs.1
  rw [values_length, values_length, chunk_length hi] at hin
  exact ⟨Int.natCast_nonneg _, rfl, Int.natCast_nonneg _, rfl, by
    show (position : ℤ)+lmcacheChunkSize ≤ query.length
    exact_mod_cast hin⟩

theorem matched_candidate {sha256 : Bytes → Digest} {model : NamespaceText} {query : List TokenId}
    {response : List CBMatchResult} {candidates : List LmcacheCandidate}
    (hc : ∀ r ∈ response, Complete query r)
    (hd : decodeCandidates sha256 model query response = .ok candidates) {r : CBMatchResult}
    (hr : r ∈ response) : ∃ c ∈ candidates, (c.targetRange.start : ℤ) = r.curSt ∧
      c.targetRange.size = lmcacheChunkSize := by
  rcases (decodeCandidates_iff sha256 model query response hc _).mp hd with
    ⟨parsed, hparsed, rfl⟩
  rcases forall₂_left hparsed hr with ⟨c, hm, _, hstart, _, hsize, _⟩
  exact ⟨c, (mem_sortedBy _ _ _).mpr hm, hstart, hsize⟩

/-- A prompt of the two chunks in the other order is answered for both, and is covered whole. -/
theorem two_prompts_found : ∃ (s : Deployment) (response : List CBMatchResult)
    (candidates : List LmcacheCandidate) (p : LmcacheLookupPlan),
    Run (Handled prefixHash openWriter) .empty twoPrompts s ∧
      s.index.matchSubSequence (values onesZeros) = .ok response ∧
      chunkMatch prefixHash zerosOnes 1 0 ∈ response ∧
      chunkMatch prefixHash zeros 0 256 ∈ response ∧
      decodeCandidates tailDigest pinnedConfig.storageModelName onesZeros response =
        .ok candidates ∧
      plan tailDigest (openWriter.recordLookup tailDigest s.table) (values onesZeros)
        pinnedNamespace candidates = .ok p ∧ 512 ≤ verifiedTokens p := by
  rcases twoPrompts_run with ⟨s, hrun, hk, hk'⟩
  rcases stored_prompts_found prefixHash openWriter openWriter pinnedConfig twoPrompts s onesZeros
    hrun (twoPrompts_whole hk hk') (onesZeros_length ▸ by decide) with
    ⟨_, response, candidates, p, hmatch, _, hresponse, hdecode, _, hplan, _, hcovered⟩
  have hones : chunkMatch prefixHash zerosOnes 1 0 ∈ response := by
    apply (hresponse _).mpr
    refine ⟨wholeStore, 1, 0, wholeStore_mem, ?_⟩
    rw [wholeStore_document]
    exact ⟨by decide +kernel, ⟨by decide +kernel, fun _ h => absurd h (Nat.not_lt_zero _)⟩, rfl⟩
  have hzeros : chunkMatch prefixHash zeros 0 256 ∈ response := by
    apply (hresponse _).mpr
    refine ⟨headStore, 0, 256, headStore_mem, ?_⟩
    rw [headStore_document]
    exact ⟨by decide +kernel, ⟨by decide +kernel, by decide +kernel⟩, rfl⟩
  have hcomplete : ∀ r ∈ response, Complete onesZeros r := by
    intro r hr
    rcases (hresponse r).mp hr with ⟨a, i, position, _, hi, hf, rfl⟩
    exact chunkMatch_complete prefixHash hi hf
  rcases matched_candidate hcomplete hdecode hones with ⟨c, hc, hstart, hsize⟩
  rcases matched_candidate hcomplete hdecode hzeros with ⟨c', hc', hstart', hsize'⟩
  have hapart : Disjoint c c' := by
    rintro ⟨_, hbefore⟩
    have hstop : c.targetRange.stop-c.targetRange.start = 256 := hsize
    have hstart : (c.targetRange.start : ℤ) = 0 := hstart
    have hstart' : (c'.targetRange.start : ℤ) = 256 := hstart'
    omega
  have htotal := hcovered [c, c'] (by simp [hc, hc']) (List.pairwise_pair.mpr hapart)
  refine ⟨s, response, candidates, p, hrun, hmatch, hones, hzeros, hdecode, hplan, ?_⟩
  rwa [tokenTotal, List.map_cons, List.map_cons, List.map_nil, hsize, hsize'] at htotal

end

end CacheBlend.StoredPrompts
