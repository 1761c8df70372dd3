import CacheBlend.LookupObservations
import CacheBlend.LateReceipts
import Mathlib.Algebra.BigOperators.Ring.Finset

/-!
# The balance of the connector statistics

Found tokens are counted when a worker takes a step, from the observations of
its lookups. The same call counts every verified token as loaded or rejected,
and the lookup has counted the others as rejected. So each delivered step adds
as much to the found tokens as to the loaded and rejected ones, no matter when
the counters are handed out, and no other hook touches these counters.
-/

set_option autoImplicit false

namespace CacheBlend.StatsConservation
open CacheBlend.PlannerModels CacheBlend.LmcacheTypes CacheBlend.CandidateLookup
open CacheBlend.RequestLifecycle CacheBlend.ControlPlane CacheBlend.SchedulerRuntime
open CacheBlend.TransferRuntime CacheBlend.SchedulerHooks CacheBlend.HookEffects
open CacheBlend.RuntimeLookups CacheBlend.ConnectorMetrics CacheBlend.WorkerHooks
open CacheBlend.WorkerEffects CacheBlend.LookupObservations CacheBlend.Deployments
open CacheBlend.Call (lift_ok_iff pure_ok_iff lift_bind_iff read_bind modify_bind)
open GptOssCacheBlendStats (reduce aggregate appendAll recordLookup recordLoad recordStore)

/-! ## Counted tokens -/

/-- The later statistics count `found` more found tokens, `settled` more tokens
that were loaded or rejected, and no avoided prefill. -/
structure Counted (s s' : GptOssCacheBlendStats) (found settled : ℤ) : Prop where
  found : reduce s' .kvTokensFound = reduce s .kvTokensFound+found
  settled : reduce s' .kvTokensLoaded+reduce s' .kvTokensRejected =
    reduce s .kvTokensLoaded+reduce s .kvTokensRejected+settled
  avoided : reduce s' .prefillTokensAvoided = reduce s .prefillTokensAvoided

theorem counted_refl (s : GptOssCacheBlendStats) : Counted s s 0 0 :=
  ⟨(add_zero _).symm, (add_zero _).symm, rfl⟩

theorem counted_trans {s s₁ s₂ : GptOssCacheBlendStats} {found found' settled settled' : ℤ}
    (h : Counted s s₁ found settled) (h' : Counted s₁ s₂ found' settled') :
    Counted s s₂ (found+found') (settled+settled') where
  found := by rw [h'.found, h.found, add_assoc]
  settled := by rw [h'.settled, h.settled, add_assoc]
  avoided := h'.avoided.trans h.avoided

theorem appendAll_counted {entries : List (CounterKey × ℤ)} {s s' : GptOssCacheBlendStats}
    (h : appendAll entries s = (.ok (), s'))
    (havoided : entryTotal .prefillTokensAvoided entries = 0) :
    Counted s s' (entryTotal .kvTokensFound entries)
      (entryTotal .kvTokensLoaded entries+entryTotal .kvTokensRejected entries) where
  found := appendAll_reduce entries _ h
  settled := by
    rw [appendAll_reduce entries _ h, appendAll_reduce entries _ h, add_add_add_comm]
  avoided := by rw [appendAll_reduce entries _ h, havoided, add_zero]

theorem recordLookup_counted {o : CacheBlendLookupObservation} {s s' : GptOssCacheBlendStats}
    (h : recordLookup o s = (.ok (), s')) : Counted s s' o.kvTokensFound o.kvTokensRejected := by
  have hc := appendAll_counted h (by simp [entryTotal])
  simpa [entryTotal] using hc

theorem recordLoad_counted {verified loaded rejected recomputed : ℤ} {fallback : Bool}
    {s s' : GptOssCacheBlendStats}
    (h : recordLoad verified loaded rejected recomputed fallback s = (.ok (), s')) :
    Counted s s' 0 verified := by
  unfold recordLoad at h
  rw [lift_bind_iff] at h
  obtain ⟨_, _, h⟩ := h
  obtain ⟨_, hsum, h⟩ := (lift_bind_iff _ _ _ _ _).mp h
  have hsum := (require_ok_iff _ _ _).mp hsum
  have hc := appendAll_counted h (by simp [entryTotal])
  rw [hsum]
  simpa [entryTotal] using hc

theorem recordStore_counted (eligible stored : ℤ) (fallback : Bool) (s : GptOssCacheBlendStats) :
    Counted s (recordStore eligible stored fallback s).2 0 0 := by
  have hkeeps : ∀ key, key ≠ .storeTokensEligible → key ≠ .storeTokensCompleted →
      key ≠ .storeFallbacks → reduce (recordStore eligible stored fallback s).2 key =
        reduce s key := by
    intro key he hc hf
    refine Call.keeps_bind (I := fun s' => reduce s' key = reduce s key) (Call.keeps_lift _ _)
      (fun _ => Call.keeps_bind (Call.keeps_lift _ _) fun _ s' hs => ?_) s rfl
    rw [appendAll_other _ key s' ?_, hs]
    simp only [List.forall_mem_cons]
    exact ⟨he.symm, hc.symm, hf.symm, by simp⟩
  constructor
  · rw [hkeeps _ (by decide) (by decide) (by decide), add_zero]
  · rw [hkeeps _ (by decide) (by decide) (by decide), hkeeps _ (by decide) (by decide) (by decide),
      add_zero]
  · exact hkeeps _ (by decide) (by decide) (by decide)

/-! ## Balanced steps -/

variable {sha256 : Bytes → Digest}

def foundTokens (m : GptOssCacheBlendMetadata sha256) : ℤ :=
  (m.lookupObservations.map CacheBlendLookupObservation.kvTokensFound).sum

/-- The tokens that the lookups rejected and those that the worker disposes of. -/
def settledTokens (m : GptOssCacheBlendMetadata sha256) : ℤ :=
  (m.lookupObservations.map CacheBlendLookupObservation.kvTokensRejected).sum+
    (m.handoffs.map fun h => (plannedTokens h.plan : ℤ)).sum

theorem transfer_planned (m : SchedulerTransferMetadata sha256) :
    (m.verifiedCandidates.map fun v => (v.candidate.targetRange.size : ℤ)).sum =
      plannedTokens m.handoff.plan := by
  have hvalid := m.valid
  unfold checkTransfer at hvalid
  simp only [require_then_iff] at hvalid
  obtain ⟨_, _, _, _, _, _, hmatches, _⟩ := hvalid
  unfold plannedTokens
  rw [← hmatches, Nat.cast_list_sum, List.map_map, List.map_map]
  congr 1
  apply List.map_congr_left
  intro v _
  show (v.candidate.targetRange.size : ℤ) = v.verified.targetSegment.tokenRange.size
  rw [v.range_eq]

theorem skipTransfer_counted {config : ConnectorConfig} {h : RequestHandoffMetadata}
    {w w' : WorkerConnector sha256} (hc : skipTransfer config h w = (.ok ⟨⟩, w')) :
    Counted w.stats w'.stats 0 (plannedTokens h.plan) := by
  obtain ⟨s, r, p, hl, _, rfl⟩ := (skipTransfer_ok_iff _ _ _ _).mp hc
  exact recordLoad_counted hl

theorem startTransfer_counted {config : ConnectorConfig} {answers : LoadAnswers}
    {h : RequestHandoffMetadata} {transfer : SchedulerTransferMetadata sha256}
    {w w' : WorkerConnector sha256}
    (hc : startTransfer config answers h transfer w = (.ok ⟨⟩, w')) :
    Counted w.stats w'.stats 0 (plannedTokens h.plan) := by
  unfold startTransfer at hc
  rw [checkWorker_bind_iff, read_bind, checkWorker_bind_iff] at hc
  obtain ⟨hsame, _, hc⟩ := hc
  obtain ⟨blocks, w₁, hb, hrest⟩ := (Call.bind_ok_iff _ _ _ _ _).mp hc
  obtain rfl := adaptHandoffBlocks_keeps hb
  simp only [lift_bind_iff, onStats_bind_iff, onWorkerPlane_bind_iff, checkWorker_bind_iff]
    at hrest
  obtain ⟨outcome, _, _, s, hl, r, p, _, _, _, _, hrest⟩ := hrest
  obtain ⟨_, w₂, hp, hrest⟩ := (Call.bind_ok_iff _ _ _ _ _).mp hrest
  cases hp
  cases hrest
  have hcounted := recordLoad_counted hl
  rw [← hsame, ← transfer_planned transfer]
  exact hcounted

theorem loadHandoff_counted {config : ConnectorConfig} {answers : LoadAnswers}
    {h : RequestHandoffMetadata} {o : Option (SchedulerTransferMetadata sha256)}
    {w w' : WorkerConnector sha256} (hc : loadHandoff config answers h o w = (.ok ⟨⟩, w')) :
    Counted w.stats w'.stats 0 (plannedTokens h.plan) := by
  cases o with
  | none => exact skipTransfer_counted hc
  | some transfer => exact startTransfer_counted hc

theorem acceptHandoffs_counted {config : ConnectorConfig} {answers : LoadAnswers}
    {handoffs : List RequestHandoffMetadata}
    {transfers unmatched : Dict String (SchedulerTransferMetadata sha256)}
    {w w' : WorkerConnector sha256}
    (hc : acceptHandoffs config answers handoffs transfers w = (.ok unmatched, w')) :
    Counted w.stats w'.stats 0 (handoffs.map fun h => (plannedTokens h.plan : ℤ)).sum := by
  induction handoffs generalizing transfers w with
  | nil =>
    obtain ⟨_, rfl⟩ := (pure_ok_iff _ _ _ _).mp hc
    exact counted_refl _
  | cons h handoffs ih =>
    unfold acceptHandoffs validateGroupCount at hc
    simp only [checkWorker_bind_iff, onWorkerPlane_bind_iff] at hc
    obtain ⟨_, _, st, p, _, hc⟩ := hc
    obtain ⟨_, w₁, h₁, hc⟩ := (Call.bind_ok_iff _ _ _ _ _).mp hc
    have hfirst := loadHandoff_counted h₁
    rw [List.map_cons, List.sum_cons]
    exact counted_trans hfirst (ih hc)

theorem recordLookups_counted {observations : List CacheBlendLookupObservation}
    {w w' : WorkerConnector sha256} (hc : recordLookups observations w = (.ok (), w')) :
    Counted w.stats w'.stats (observations.map CacheBlendLookupObservation.kvTokensFound).sum
      (observations.map CacheBlendLookupObservation.kvTokensRejected).sum := by
  induction observations generalizing w with
  | nil =>
    obtain ⟨_, rfl⟩ := (pure_ok_iff _ _ _ _).mp hc
    exact counted_refl _
  | cons o observations ih =>
    unfold recordLookups at hc
    obtain ⟨_, s, hs, hc⟩ := (onStats_bind_iff _ _ _ _ _).mp hc
    have hrest := ih hc
    rw [List.map_cons, List.map_cons, List.sum_cons, List.sum_cons]
    exact counted_trans (recordLookup_counted hs) hrest

theorem startLoadKv_counted {config : ConnectorConfig} {answers : LoadAnswers}
    {m : GptOssCacheBlendMetadata sha256} {w w' : WorkerConnector sha256}
    (hc : startLoadKv config answers m w = (.ok (), w')) :
    Counted w.stats w'.stats (foundTokens m) (settledTokens m) := by
  unfold startLoadKv checkObservations at hc
  simp only [checkWorker_bind_iff, read_bind] at hc
  obtain ⟨_, _, _, _, _, hc⟩ := hc
  obtain ⟨_, w₁, hobserved, hc⟩ := (Call.bind_ok_iff _ _ _ _ _).mp hc
  obtain rfl : w = w₁ := by
    split_ifs at hobserved
    all_goals
      obtain ⟨_, rfl⟩ := (lift_ok_iff _ _ _ _).mp hobserved
      rfl
  obtain ⟨_, w₂, hl, hrest⟩ := (Call.bind_ok_iff _ _ _ _ _).mp hc
  rw [checkWorker_bind_iff] at hrest
  obtain ⟨unmatched, w₃, ha, hrest⟩ := (Call.bind_ok_iff _ _ _ _ _).mp hrest.2
  rw [checkWorker_bind_iff, pure_ok_iff] at hrest
  obtain ⟨_, _, rfl⟩ := hrest
  have hcounted := counted_trans (recordLookups_counted hl) (acceptHandoffs_counted ha)
  rwa [add_zero] at hcounted

/-- A step that adds as much to the found tokens as to the settled ones. -/
def Balanced (m : GptOssCacheBlendMetadata sha256) : Prop := foundTokens m = settledTokens m

theorem planeHandoffs_plans {E : String → RequestPlan → Prop} {ids : List String}
    {p p' : RequestControlPlane} {handoffs : List RequestHandoffMetadata} (hp : PlansAre E p)
    (h : planeHandoffs ids p = (.ok handoffs, p')) : ∀ x ∈ handoffs, ∃ id, E id x.plan := by
  induction ids generalizing p p' handoffs with
  | nil =>
    obtain ⟨rfl, _⟩ := (pure_ok_iff _ _ _ _).mp h
    exact fun _ hx => (nomatch hx)
  | cons id ids ih =>
    unfold planeHandoffs at h
    obtain ⟨x, p₁, hx, h⟩ := (Call.bind_ok_iff _ _ _ _ _).mp h
    obtain ⟨rest, p₂, hrest, h⟩ := (Call.bind_ok_iff _ _ _ _ _).mp h
    obtain ⟨rfl, _⟩ := (pure_ok_iff _ _ _ _).mp h
    obtain ⟨hkept, hown⟩ := handoff_plans id hp
    rw [hx] at hkept hown
    have hkept : PlansAre E p₁ := hkept
    exact List.forall_mem_cons.mpr ⟨⟨id, hown x rfl⟩, ih hkept hrest⟩

theorem observed_planned {md : SchedulerLookupMetadata} (h : Observed md) :
    (observationOf md.promptTokenIds.length md).kvTokensVerified =
      plannedTokens md.requestPlan := by
  obtain ⟨_, _, hmatches, _⟩ := metadata_plan md
  show (md.lookupPlan.counters.verifiedCandidateTokens : ℤ) = plannedTokens md.requestPlan
  rw [h.tokens]
  unfold plannedTokens tokenTotal
  rw [hmatches, List.map_map, List.map_map]
  congr 2
  apply List.map_congr_left
  intro v _
  exact congrArg TokenRange.size v.range_eq

theorem observations_balanced {s : SchedulerConnector} {handoffs : List RequestHandoffMetadata}
    {observations : List CacheBlendLookupObservation}
    (hs : ∀ h ∈ handoffs, ∀ o, observationFor s h = .ok o →
      o.kvTokensFound = o.kvTokensRejected+plannedTokens h.plan)
    (ho : List.Forall₂ (fun h o => observationFor s h = .ok o) handoffs observations) :
    (observations.map CacheBlendLookupObservation.kvTokensFound).sum =
      (observations.map CacheBlendLookupObservation.kvTokensRejected).sum+
        (handoffs.map fun h => (plannedTokens h.plan : ℤ)).sum := by
  induction ho with
  | nil => rfl
  | cons hfirst _ ih =>
    have hrest := ih fun h hh => hs h (List.mem_cons_of_mem _ hh)
    have hfound := hs _ List.mem_cons_self _ hfirst
    simp only [List.map_cons, List.sum_cons]
    omega

section
variable {config : ConnectorConfig}

theorem build_balanced {s s' : SchedulerConnector} {scheduled : Dict String ℤ}
    {m : GptOssCacheBlendMetadata sha256} (hs : Agreeing sha256 config s)
    (h : buildConnectorMeta sha256 config scheduled s = (.ok m, s')) : Balanced m := by
  obtain ⟨handoffs, p, contents, hp, hcontents, rfl, _⟩ :=
    (buildConnectorMeta_ok_iff sha256 config scheduled s s' m).mp h
  have hplans := planeHandoffs_plans hs.plans hp
  unfold stepContents at hcontents
  cases ht : config.transfer with
  | none =>
    -- without transfers nothing was looked up and no plan has matches
    rw [ht] at hcontents
    cases hcontents
    have hzero : ∀ x ∈ handoffs, (plannedTokens x.plan : ℤ) = 0 := by
      intro x hx
      obtain ⟨id, _, _, hnone⟩ := hplans x hx
      unfold plannedTokens
      rw [hnone ht]
      rfl
    show (0 : ℤ) = 0+(handoffs.map fun h => (plannedTokens h.plan : ℤ)).sum
    rw [List.map_congr_left hzero]
    simp
  | some transfer =>
    rw [ht] at hcontents
    obtain ⟨transfers, _, hcontents⟩ := (checked_ok_iff _ _ _).mp hcontents
    obtain ⟨observations, ho, hcontents⟩ := (checked_ok_iff _ _ _).mp hcontents
    cases hcontents
    refine observations_balanced (fun x hx o hxo => ?_) ((mapM_returns_iff _ _ _).mp ho)
    obtain ⟨id, hid, hplan, _⟩ := hplans x hx
    unfold observationFor at hxo
    cases hg : s.schedulerLookupObservations.get? x.plan.requestId with
    | none =>
      rw [hg] at hxo
      cases hxo
    | some o' =>
      rw [hg] at hxo
      cases hxo
      obtain ⟨md, hmd, hobserved, rfl⟩ := hs.observations _ _ hg
      rw [hid] at hmd
      rw [hplan md hmd, ← observed_planned hobserved]
      have hvalid := (observation_valid hobserved).2.2.2.2.2.1
      rw [hvalid, add_comm]

/-! ## Hooks that count no load -/

/-- The call leaves the counters of the balance alone, whether it returns or raises. -/
def Unmoved {α : Type} (c : WorkerCall sha256 α) : Prop :=
  ∀ w, Counted w.stats (c w).2.stats 0 0

theorem unmoved_of_keeps {α : Type} {c : WorkerCall sha256 α}
    (h : ∀ s, Call.Keeps (fun w => Counted s w.stats 0 0) c) : Unmoved c :=
  fun w => h w.stats w (counted_refl _)

theorem keeps_of_unmoved {α : Type} {c : WorkerCall sha256 α} (h : Unmoved c)
    (s : GptOssCacheBlendStats) : Call.Keeps (fun w => Counted s w.stats 0 0) c := by
  intro w hw
  have hc := counted_trans hw (h w)
  rwa [add_zero] at hc

theorem unmoved_bind {α β : Type} {c : WorkerCall sha256 α} {f : α → WorkerCall sha256 β}
    (hc : Unmoved c) (hf : ∀ a, Unmoved (f a)) : Unmoved (c >>= f) :=
  unmoved_of_keeps fun s => Call.keeps_bind (keeps_of_unmoved hc s)
    fun a => keeps_of_unmoved (hf a) s

theorem unmoved_lift {α : Type} (x : Except ConnectorError α) :
    Unmoved (Call.lift x : WorkerCall sha256 α) := fun w => counted_refl w.stats

theorem unmoved_pure {α : Type} (a : α) : Unmoved (pure a : WorkerCall sha256 α) :=
  fun w => counted_refl w.stats

theorem unmoved_read {β : Type} {f : WorkerConnector sha256 → WorkerCall sha256 β}
    (hf : ∀ w, Unmoved (f w)) : Unmoved (Call.read >>= f) := fun w => hf w w

theorem unmoved_modify {f : WorkerConnector sha256 → WorkerConnector sha256}
    (hf : ∀ w, (f w).stats = w.stats) : Unmoved (Call.modify f : WorkerCall sha256 PUnit) := by
  intro w
  show Counted w.stats (f w).stats 0 0
  rw [hf]
  exact counted_refl _

theorem unmoved_onWorkerPlane {α : Type} (c : PlaneCall α) :
    Unmoved (onWorkerPlane c : WorkerCall sha256 α) := by
  intro w
  unfold onWorkerPlane Call.within
  split <;> exact counted_refl _

theorem unmoved_registerKvCaches (created : Except ConnectorError Unit) (kvCaches : Dict String ℕ) :
    Unmoved (registerKvCaches config created kvCaches : WorkerCall sha256 Unit) := by
  apply unmoved_read
  intro w
  refine unmoved_bind (unmoved_lift _) fun _ => unmoved_bind (unmoved_lift _) fun _ => ?_
  refine unmoved_bind (unmoved_modify fun _ => rfl) fun _ => ?_
  split_ifs
  · exact unmoved_bind (unmoved_lift _) fun _ =>
      unmoved_bind (unmoved_modify fun _ => rfl) fun _ => unmoved_pure _
  · exact unmoved_pure _

theorem unmoved_waitForLayerLoad (layerName : String) :
    Unmoved (waitForLayerLoad layerName : WorkerCall sha256 Unit) :=
  unmoved_read fun _ => unmoved_bind (unmoved_lift _) fun _ => unmoved_pure _

theorem unmoved_saveKvLayer (layerName : String) (kvLayer : ℕ) :
    Unmoved (saveKvLayer layerName kvLayer : WorkerCall sha256 Unit) := by
  apply unmoved_read
  intro w
  refine unmoved_bind (unmoved_lift _) fun _ => unmoved_bind (unmoved_lift _) fun _ => ?_
  cases w.activeWorkerTransfer with
  | none => exact unmoved_pure _
  | some active =>
    exact unmoved_bind (unmoved_lift _) fun _ =>
      unmoved_bind (unmoved_modify fun _ => rfl) fun _ => unmoved_pure _

theorem unmoved_recordStore (eligible stored : ℤ) (fallback : Bool) :
    Unmoved (onStats (recordStore eligible stored fallback) : WorkerCall sha256 Unit) := by
  intro w
  have hc := recordStore_counted eligible stored fallback w.stats
  unfold onStats Call.within
  rcases h : recordStore eligible stored fallback w.stats with ⟨e | a, s⟩
  · rw [h] at hc
    exact hc
  · rw [h] at hc
    exact hc

theorem unmoved_waitForSave {σ : Type} (world : StoreWorld sha256 σ) (state : σ) :
    Unmoved (waitForSave world state : WorkerCall sha256 Unit) := by
  apply unmoved_read
  intro w
  cases w.activeWorkerTransfer with
  | none => exact unmoved_pure _
  | some active =>
    refine unmoved_bind (unmoved_lift _) fun _ => unmoved_bind (unmoved_lift _) fun _ => ?_
    refine unmoved_bind (unmoved_lift _) fun _ => ?_
    exact unmoved_bind (unmoved_recordStore _ _ _) fun _ =>
      unmoved_bind (unmoved_modify fun _ => rfl) fun _ => unmoved_pure _

theorem unmoved_discardAll (ids : List String) :
    Unmoved (discardAll ids : WorkerCall sha256 Unit) := by
  induction ids with
  | nil => exact unmoved_pure _
  | cons id ids ih =>
    exact unmoved_bind (unmoved_onWorkerPlane _) fun _ =>
      unmoved_bind (unmoved_modify fun _ => rfl) fun _ => ih

theorem unmoved_getFinished (ids : List String) :
    Unmoved (getFinished ids : WorkerCall sha256 (Option (Finset String) ×
      Option (Finset String))) :=
  unmoved_read fun _ => unmoved_bind (unmoved_lift _) fun _ =>
    unmoved_bind (unmoved_discardAll ids) fun _ => unmoved_pure _

theorem unmoved_report : Unmoved
    (buildConnectorWorkerMeta : WorkerCall sha256 (Option (List WorkerValidationReceipt))) := by
  apply unmoved_read
  intro w
  split_ifs
  · exact unmoved_pure _
  · exact unmoved_bind (unmoved_modify fun _ => rfl) fun _ => unmoved_pure _

end

/-! ## Snapshots in any order -/

inductive Grouping where
  | fresh
  | one (s : GptOssCacheBlendStats)
  | join (a b : Grouping)

def Grouping.merged : Grouping → GptOssCacheBlendStats
  | .fresh => .empty
  | .one s => s
  | .join a b => aggregate a.merged b.merged

def Grouping.leaves : Grouping → List GptOssCacheBlendStats
  | .fresh => []
  | .one s => [s]
  | .join a b => a.leaves ++ b.leaves

theorem merged_data (g : Grouping) (key : CounterKey) :
    g.merged.data key = g.leaves.flatMap fun s => s.data key := by
  induction g with
  | fresh => rfl
  | one s => simp [Grouping.merged, Grouping.leaves]
  | join a b iha ihb =>
    rw [Grouping.leaves, List.flatMap_append, ← iha, ← ihb]
    rfl

theorem merged_reduce (g : Grouping) (key : CounterKey) :
    reduce g.merged key = (g.leaves.map fun s => reduce s key).sum := by
  induction g with
  | fresh => rfl
  | one s => simp [Grouping.merged, Grouping.leaves]
  | join a b iha ihb =>
    rw [Grouping.leaves, List.map_append, List.sum_append, ← iha, ← ihb]
    exact reduce_aggregate a.merged b.merged key

/-! ## Runs -/

section
variable (sha256)

/-- A scheduler and a worker, the steps that were built and those that the worker
took, and the statistics that it has handed out. -/
structure Account where
  scheduler : SchedulerConnector
  worker : WorkerConnector sha256
  built : List (GptOssCacheBlendMetadata sha256)
  taken : List (GptOssCacheBlendMetadata sha256)
  snapshots : List GptOssCacheBlendStats

/-- The calls of vLLM, in any order. -/
inductive AccountEvent : Type 1 where
  | lookup (env : Environment) (request : VllmAdapters.VllmRequest) (numComputedTokens : ℕ)
  | allocate (requestId : String) (blocks : VllmAdapters.KVCacheBlocks) (numExternalTokens : ℤ)
  | build (numScheduledTokens : Dict String ℤ)
  | output (workerMetadata : Option (List WorkerValidationReceipt))
  | finish (requestId : String) (blockIds : List (List ℤ))
  | register (created : Except ConnectorError Unit) (kvCaches : Dict String ℕ)
  | load (place : ℕ) (answers : LoadAnswers)
  | layerLoad (layerName : String)
  | saveLayer (layerName : String) (kvLayer : ℕ)
  | waitForSave (σ : Type) (world : StoreWorld sha256 σ) (state : σ)
  | getFinished (ids : List String)
  | report
  | snapshot

variable {sha256}

def Account.scheduled {α : Type} (a : Account sha256) (c : HookCall α) : Account sha256 :=
  { a with scheduler := (c a.scheduler).2 }

def Account.worked {α : Type} (a : Account sha256) (c : WorkerCall sha256 α) : Account sha256 :=
  { a with worker := (c a.worker).2 }

variable (sha256) in
def Account.initial (config : ConnectorConfig) : Account sha256 where
  scheduler := SchedulerConnector.new config
  worker := WorkerConnector.new sha256 config
  built := []
  taken := []
  snapshots := []

/-- One call, whether it returns or raises, except that a step that is taken
must return. -/
def accountStep (config : ConnectorConfig) (a : Account sha256) :
    AccountEvent sha256 → Option (Account sha256)
  | .lookup env request numComputedTokens =>
    some (a.scheduled (getNumNewMatchedTokens sha256 config env request numComputedTokens))
  | .allocate requestId blocks numExternalTokens =>
    some (a.scheduled (updateStateAfterAlloc config requestId blocks numExternalTokens))
  | .build scheduled =>
    match buildConnectorMeta sha256 config scheduled a.scheduler with
    | (.ok m, s) => some { a with scheduler := s, built := a.built ++ [m] }
    | (.error _, s) => some { a with scheduler := s }
  | .output workerMetadata => some (a.scheduled (updateConnectorOutput workerMetadata))
  | .finish requestId blockIds =>
    some (a.scheduled (requestFinishedAllGroups config requestId blockIds))
  | .register created kvCaches => some (a.worked (registerKvCaches config created kvCaches))
  | .load place answers =>
    a.built[place]?.bind fun m =>
      (completed (startLoadKv config answers m a.worker)).map fun r =>
        { a with worker := r.2, taken := a.taken ++ [m] }
  | .layerLoad layerName => some (a.worked (waitForLayerLoad layerName))
  | .saveLayer layerName kvLayer => some (a.worked (saveKvLayer layerName kvLayer))
  | .waitForSave _ world state => some (a.worked (waitForSave world state))
  | .getFinished ids => some (a.worked (getFinished ids))
  | .report => some (a.worked buildConnectorWorkerMeta)
  | .snapshot =>
    match getKvConnectorStats a.worker with
    | (.ok (some s), w) => some { a with worker := w, snapshots := a.snapshots ++ [s] }
    | (_, w) => some { a with worker := w }

def Account.total (a : Account sha256) (key : CounterKey) : ℤ :=
  (a.snapshots.map fun s => reduce s key).sum+reduce a.worker.stats key

end

structure Settled (config : ConnectorConfig) (a : Account sha256) : Prop where
  agreeing : Agreeing sha256 config a.scheduler
  balanced : ∀ m ∈ a.built, Balanced m
  taken : ∀ m ∈ a.taken, m ∈ a.built
  found : a.total .kvTokensFound = (a.taken.map foundTokens).sum
  settled : a.total .kvTokensLoaded+a.total .kvTokensRejected = (a.taken.map settledTokens).sum
  avoided : a.total .prefillTokensAvoided = 0

section
variable {config : ConnectorConfig} {a : Account sha256}

theorem settled_initial : Settled config (Account.initial sha256 config) where
  agreeing := agreeing_new sha256 config
  balanced := fun _ h => (nomatch h)
  taken := fun _ h => (nomatch h)
  found := rfl
  settled := rfl
  avoided := rfl

theorem settled_scheduled {α : Type} {c : HookCall α} (h : Settled config a)
    (hc : Call.Keeps (Agreeing sha256 config) c) : Settled config (a.scheduled c) :=
  ⟨hc _ h.agreeing, h.balanced, h.taken, h.found, h.settled, h.avoided⟩

/-- A worker call that counts `found` and `settled` tokens. -/
theorem settled_counted {w : WorkerConnector sha256} {ms : List (GptOssCacheBlendMetadata sha256)}
    (h : Settled config a) (hms : ∀ m ∈ ms, m ∈ a.built)
    (hc : Counted a.worker.stats w.stats (ms.map foundTokens).sum (ms.map settledTokens).sum) :
    Settled config { a with worker := w, taken := a.taken ++ ms } := by
  obtain ⟨hagreeing, hbalanced, htaken, hfound, hsettled, havoided⟩ := h
  unfold Account.total at hfound hsettled havoided
  refine ⟨hagreeing, hbalanced, fun m hm => ?_, ?_, ?_, ?_⟩
  · exact (List.mem_append.mp hm).elim (htaken m) (hms m)
  · unfold Account.total
    rw [hc.found, List.map_append, List.sum_append, ← hfound, add_assoc]
  · have hgrown := hc.settled
    unfold Account.total
    rw [List.map_append, List.sum_append, ← hsettled]
    dsimp only
    omega
  · unfold Account.total
    rw [hc.avoided]
    exact havoided

theorem settled_worked {α : Type} {c : WorkerCall sha256 α} (h : Settled config a)
    (hc : Unmoved c) : Settled config (a.worked c) := by
  have hs : Settled config { a with worker := (c a.worker).2, taken := a.taken ++ [] } :=
    settled_counted h (fun _ hm => (nomatch hm)) (hc a.worker)
  rwa [List.append_nil] at hs

theorem settled_snapshot {w : WorkerConnector sha256} {snapshots : List GptOssCacheBlendStats}
    (h : Settled config a)
    (hc : ∀ key, (snapshots.map fun s => reduce s key).sum+reduce w.stats key =
      reduce a.worker.stats key) :
    Settled config { a with worker := w, snapshots := a.snapshots ++ snapshots } := by
  have htotal : ∀ key, Account.total
      { a with worker := w, snapshots := a.snapshots ++ snapshots } key = a.total key := by
    intro key
    unfold Account.total
    rw [List.map_append, List.sum_append, add_assoc, hc]
  refine ⟨h.agreeing, h.balanced, h.taken, ?_, ?_, ?_⟩
  · rw [htotal]
    exact h.found
  · rw [htotal, htotal]
    exact h.settled
  · rw [htotal]
    exact h.avoided

theorem cloneAndReset_run (s : GptOssCacheBlendStats) :
    GptOssCacheBlendStats.cloneAndReset s = (.ok s, .empty) := by
  unfold GptOssCacheBlendStats.cloneAndReset
  rw [read_bind]
  show ((Call.lift _ >>= _) s) = _
  rw [require_of (p := ∀ key ∈ counterKeys, ∀ value ∈ s.data key, 0 ≤ value) _
    fun key _ => s.nonnegative key]
  rfl

theorem getKvConnectorStats_run (w : WorkerConnector sha256) :
    getKvConnectorStats w = if w.stats.isEmpty = true then (.ok none, w)
      else (.ok (some w.stats), { w with stats := .empty }) := by
  unfold getKvConnectorStats
  rw [read_bind]
  split_ifs
  · rfl
  · show (onStats GptOssCacheBlendStats.cloneAndReset >>= _) w = _
    have hc : onStats GptOssCacheBlendStats.cloneAndReset w =
        (.ok w.stats, { w with stats := .empty }) :=
      Call.within_run_ok (cloneAndReset_run w.stats)
    rw [Call.bind_run_ok _ hc]
    rfl

theorem settled_step {a' : Account sha256} {event : AccountEvent sha256} (h : Settled config a)
    (hs : accountStep config a event = some a') : Settled config a' := by
  cases event with
  | lookup env request numComputedTokens =>
    cases hs
    exact settled_scheduled h fun s hs => (steady_lookup env request numComputedTokens s hs).1
  | allocate requestId blocks numExternalTokens =>
    cases hs
    exact settled_scheduled h fun s hs =>
      (steady_allocate requestId blocks numExternalTokens s hs).1
  | build scheduled =>
    have hkept := keeps_build scheduled _ h.agreeing
    dsimp only [accountStep] at hs
    rcases hb : buildConnectorMeta sha256 config scheduled a.scheduler with ⟨e | m, s⟩
    · rw [hb] at hs hkept
      cases hs
      exact ⟨hkept, h.balanced, h.taken, h.found, h.settled, h.avoided⟩
    · rw [hb] at hs hkept
      cases hs
      refine ⟨hkept, fun x hx => ?_, fun x hx => List.mem_append_left _ (h.taken x hx), h.found,
        h.settled, h.avoided⟩
      rcases List.mem_append.mp hx with hx | hx
      · exact h.balanced x hx
      · rw [List.mem_singleton.mp hx]
        exact build_balanced h.agreeing hb
  | output workerMetadata =>
    cases hs
    cases workerMetadata with
    | none => exact settled_scheduled h fun s hs => hs
    | some receipts =>
      exact settled_scheduled h fun s hs => (steady_applyReceipts receipts s hs).1
  | finish requestId blockIds =>
    cases hs
    exact settled_scheduled h fun s hs => (steady_finish requestId blockIds s hs).1
  | register created kvCaches =>
    cases hs
    exact settled_worked h (unmoved_registerKvCaches created kvCaches)
  | load place answers =>
    obtain ⟨m, hm, hs⟩ := Option.bind_eq_some_iff.mp hs
    obtain ⟨⟨u, w⟩, hc, rfl⟩ := Option.map_eq_some_iff.mp hs
    have hcounted := startLoadKv_counted ((completed_iff _ _ _).mp hc)
    refine settled_counted h (fun x hx => ?_) ?_
    · rw [List.mem_singleton.mp hx]
      exact List.mem_of_getElem? hm
    · rwa [List.map_singleton, List.map_singleton, List.sum_singleton, List.sum_singleton]
  | layerLoad layerName =>
    cases hs
    exact settled_worked h (unmoved_waitForLayerLoad layerName)
  | saveLayer layerName kvLayer =>
    cases hs
    exact settled_worked h (unmoved_saveKvLayer layerName kvLayer)
  | waitForSave σ world state =>
    cases hs
    exact settled_worked h (unmoved_waitForSave world state)
  | getFinished ids =>
    cases hs
    exact settled_worked h (unmoved_getFinished ids)
  | report =>
    cases hs
    exact settled_worked h unmoved_report
  | snapshot =>
    dsimp only [accountStep] at hs
    rw [getKvConnectorStats_run] at hs
    by_cases hempty : a.worker.stats.isEmpty = true
    · rw [if_pos hempty] at hs
      cases hs
      exact h
    · rw [if_neg hempty] at hs
      cases hs
      refine settled_snapshot h fun key => ?_
      rw [List.map_singleton, List.sum_singleton]
      exact add_zero _

end

variable (sha256) in
/-- The calls that a run of the two connectors can reach. -/
def Accounted (config : ConnectorConfig) (a : Account sha256) : Prop :=
  Reached (fun a event a' => accountStep config a event = some a')
    (Account.initial sha256 config) a

theorem accounted_settled {config : ConnectorConfig} {a : Account sha256}
    (h : Accounted sha256 config a) : Settled config a :=
  reached_invariant (Settled config) (fun _ _ _ ha hs => settled_step ha hs) settled_initial h

/-- In every state of a run the next lookup's observation is accepted, and the
found tokens are the loaded and the rejected ones. Statistics that are merged in
whatever order have the totals and the observations of their parts. -/
theorem statistics_conserve (config : ConnectorConfig) (a : Account sha256)
    (h : Accounted sha256 config a) :
    (∀ env request numComputedTokens text,
      (getNumNewMatchedTokens sha256 config env request numComputedTokens a.scheduler).1 ≠
        .error (.observation text)) ∧
    a.total .kvTokensFound = a.total .kvTokensLoaded+a.total .kvTokensRejected ∧
    a.total .kvTokensFound = (a.taken.map foundTokens).sum ∧
    a.total .prefillTokensAvoided = 0 ∧
    (∀ g : Grouping, g.leaves.Perm (a.snapshots ++ [a.worker.stats]) → ∀ key,
      reduce g.merged key = a.total key) ∧
    ∀ (g : Grouping) (parts : List GptOssCacheBlendStats), g.leaves.Perm parts → ∀ key,
      reduce g.merged key = (parts.map fun s => reduce s key).sum ∧
        (g.merged.data key).Perm (parts.flatMap fun s => s.data key) := by
  have hs := accounted_settled h
  have hmerged : ∀ (g : Grouping) (parts : List GptOssCacheBlendStats), g.leaves.Perm parts →
      ∀ key, reduce g.merged key = (parts.map fun s => reduce s key).sum := by
    intro g parts hg key
    rw [merged_reduce, (hg.map _).sum_eq]
  refine ⟨fun env request numComputedTokens text => ?_, ?_, hs.found, hs.avoided,
    fun g hg key => ?_, fun g parts hg key => ⟨hmerged g parts hg key, ?_⟩⟩
  · exact (steady_lookup env request numComputedTokens a.scheduler hs.agreeing).2 text
  · rw [hs.found, hs.settled]
    congr 1
    apply List.map_congr_left
    intro m hm
    exact hs.balanced m (hs.taken m hm)
  · rw [hmerged g _ hg, List.map_append, List.sum_append, List.map_singleton, List.sum_singleton]
    rfl
  · rw [merged_data]
    exact hg.flatMap_right _

/-! ## A run with a transfer -/

open CacheBlend.EngineCompletion CacheBlend.EngineRuns CacheBlend.LateReceipts
open CacheBlend.CompletionTables

def zeroPrompt : String → List TokenId := fun _ => List.replicate 272 0

def seventeenTables : List (List ℕ) :=
  [(List.range 17).map (· + 1), (List.range 17).map (· + 18)]

/-- A prompt is looked up, allocated and loaded, with snapshots before and after. -/
def countedRun : List (AccountEvent zeroHash) :=
  [.register (.ok ()) exampleCaches, .lookup candidateEnvironment (vllmRequest zeroPrompt "r" 0) 0,
    .allocate "r" (observe seventeenTables) 0, .build (Dict.empty.set "r" 272), .snapshot,
    .load 0 ⟨true, true, some ⟨256, 1⟩, true⟩, .snapshot]

def countedAccount : Account zeroHash :=
  ran (accountStep transferConfig) (Account.initial zeroHash transferConfig) countedRun

/-- Of 272 found tokens 256 are loaded, and those of the overlap alone rejected. -/
theorem countedAccount_conserves :
    Accounted zeroHash transferConfig countedAccount ∧ countedAccount.taken.length = 1 ∧
      countedAccount.snapshots.length = 1 ∧
      countedAccount.total .kvTokensFound = 272 ∧ countedAccount.total .kvTokensLoaded = 256 ∧
      countedAccount.total .kvTokensRejected = 16 ∧
      (countedAccount.taken.map foundTokens).sum = 272 ∧
      countedAccount.total .prefillTokensAvoided = 0 := by
  have hreached : Accounted zeroHash transferConfig countedAccount :=
    ran_reached countedRun (by decide +kernel)
  obtain ⟨_, hsplit, hfound, havoided, _⟩ :=
    statistics_conserve transferConfig countedAccount hreached
  have htotal : countedAccount.total .kvTokensFound = 272 := by decide +kernel
  have hloaded : countedAccount.total .kvTokensLoaded = 256 := by decide +kernel
  refine ⟨hreached, by decide +kernel, by decide +kernel, htotal, hloaded, ?_, ?_, havoided⟩
  · rw [htotal, hloaded] at hsplit
    omega
  · rw [← hfound, htotal]

end CacheBlend.StatsConservation
