import CacheBlend.TransferEnds

/-!
# The order of the stages

A load and a store go through their stages in one order. After any run of
transfers no plan is retrieved or gathered, so that the next one passes the
order checks. In any run of single stages a retrieval, load, gather or store
is admitted only directly after the stage before it, for the same plan.
-/

set_option autoImplicit false

namespace CacheBlend.BridgeOrder
open CacheBlend.PlannerModels CacheBlend.LmcacheTypes CacheBlend.TokenScatter
open CacheBlend.VllmAdapters CacheBlend.DataPlane
open CacheBlend.TransferRuntime hiding beforeForward afterForward
open CacheBlend.WorkerBridge CacheBlend.BridgeTransfers CacheBlend.BridgeStages
open CacheBlend.TransferEnds
open CacheBlend.Call (Triple triple_bind triple_pure triple_of_state)

variable {sha256 : Bytes → Digest} {δ : Type}

/-! ## Runs of transfers -/

def NoPlan (w : World δ) : Prop := w.bridge.retrievedPlan = none ∧ w.bridge.gatheredPlan = none

theorem LoadEnd.noPlan {m : SchedulerTransferMetadata sha256} {w₀ w : World δ}
    {o : LoadOutcome sha256} (h : LoadEnd m w₀ o w) (hn : NoPlan w₀) : NoPlan w := by
  have hstores : ∀ {stores : StoreMarkers}, storeMarkers w = stores →
      stores.gathered = w₀.bridge.gatheredPlan → w.bridge.gatheredPlan = none := by
    rintro _ rfl hg
    exact hg.trans hn.2
  cases h with
  | rejected => exact hn
  | notEligible => exact hn
  | unchecked h => exact ⟨h.retrieved.trans hn.1, hstores h.stores rfl⟩
  | unretrieved h =>
    exact ⟨congrArg (fun v : View δ => v.loads.retrieved) h, hstores (congrArg View.stores h) rfl⟩
  | unscattered h =>
    obtain ⟨_, h⟩ := h
    exact ⟨congrArg (fun v : View δ => v.loads.retrieved) h, hstores (congrArg View.stores h) rfl⟩
  | loaded h =>
    obtain ⟨_, h⟩ := h
    exact ⟨congrArg (fun v : View δ => v.loads.retrieved) h, hstores (congrArg View.stores h) rfl⟩

theorem StoreEnd.noPlan {p : Option (WorkerStorePlan sha256)} {env : StoreEnvironment} {id : ℕ}
    {m : SchedulerTransferMetadata sha256} {w₀ w : World δ} {o : PostForwardOutcome}
    (h : StoreEnd p env id m w₀ o w) (hn : NoPlan w₀) : NoPlan w := by
  have hloads : loadMarkers w = loadMarkers w₀ → w.bridge.retrievedPlan = none := fun hl =>
    (congrArg LoadMarkers.retrieved hl).trans hn.1
  cases h with
  | notEligible => exact hn
  | rejected => exact hn
  | unchecked h => exact ⟨hloads h.loads, h.gathered.trans hn.2⟩
  | ungathered h =>
    exact ⟨hloads (congrArg View.loads h), congrArg (fun v : View δ => v.stores.gathered) h⟩
  | unstored h =>
    exact ⟨hloads (congrArg View.loads h), congrArg (fun v : View δ => v.stores.gathered) h⟩
  | unpublished h =>
    exact ⟨hloads (congrArg View.loads h), congrArg (fun v : View δ => v.stores.gathered) h⟩
  | published _ _ _ h =>
    exact ⟨hloads (congrArg View.loads h), congrArg (fun v : View δ => v.stores.gathered) h⟩

theorem perform_noPlan (config : BridgeConfig) (layout : LayeredCacheLayout) (w : World δ)
    (t : Transfer sha256 δ) (h : NoPlan w) : NoPlan (perform config layout w t) := by
  cases t with
  | before env id m adaptedBlocks =>
    obtain ⟨o, w', ho, hend⟩ | ⟨_, _, _, h⟩ :=
      (beforeForward_spec config layout env id m adaptedBlocks w).outcome rfl
    · show NoPlan (beforeForward config layout env id m adaptedBlocks w).2
      rw [ho]
      exact LoadEnd.noPlan hend h
    · exact h.elim
  | after env id m adaptedBlocks =>
    obtain ⟨o, w', ho, hend⟩ | ⟨_, _, _, h⟩ :=
      (afterForward_spec config layout env id m adaptedBlocks w).outcome rfl
    · show NoPlan (afterForward config layout env id m adaptedBlocks w).2
      rw [ho]
      exact StoreEnd.noPlan hend h
    · exact h.elim

theorem run_noPlan (config : BridgeConfig) (layout : LayeredCacheLayout)
    (ts : List (Transfer sha256 δ)) (w : World δ) (h : NoPlan w) :
    NoPlan (ts.foldl (perform config layout) w) := by
  induction ts generalizing w with
  | nil => exact h
  | cons t ts ih => exact ih _ (perform_noPlan config layout w t h)

/-! ## The stages of the next plan -/

def loadSequence (config : BridgeConfig) (env : LoadEnvironment δ) (id : ℕ)
    (p : WorkerLoadPlan sha256) : BridgeCall δ PUnit := do
  preflightRetrieve config env id p
  preflightScatterPlan config env id p
  let _ ← retrieveVerified config env id p
  scatterRetrieved config env id p

def storeSequence (config : BridgeConfig) (env : StoreEnvironment) (id : ℕ)
    (p : WorkerStorePlan sha256) (gathers : List TokenScatterPlan) :
    BridgeCall δ LmcacheStoreReceipt := do
  preflightGatherPlan config env id p gathers
  preflightStore config env id p
  gatherRecomputed config env id p gathers
  storePrecomputed config env id p

theorem loadSequence_ordered (config : BridgeConfig) (env : LoadEnvironment δ) (id : ℕ)
    (p : WorkerLoadPlan sha256) {w₀ : World δ} (hr : Ready w₀) (hn : NoPlan w₀) :
    Triple (fun w => w = w₀) (loadSequence config env id p) (fun _ _ => True)
      fun e _ => ¬OrderError e := by
  have hpre : Triple (fun w => w = w₀)
      (do
        preflightRetrieve config env id p
        preflightScatterPlan config env id p)
      (fun _ w => w = checkedWorld id w₀) fun e _ => ¬OrderError e :=
    (loadPreflight_spec w₀).mono (fun _ h => h) (fun _ _ h => h.2.2)
      fun e _ h he => h.2 he ⟨hr, hn.1⟩
  have hsequence : loadSequence config env id p = (do
      preflightRetrieve config env id p
      preflightScatterPlan config env id p) >>= fun _ => (do
        let _ ← retrieveVerified config env id p
        scatterRetrieved config env id p) := by
    rw [Call.bind_assoc]
    rfl
  rw [hsequence]
  apply triple_bind hpre
  intro _
  apply triple_bind ((retrieveVerified_spec config env id p (checkedWorld id w₀)).mono
    (fun _ h => h) (fun _ _ h => h) _)
  · rintro _ w ⟨_, _, _, hs, hv⟩
    apply ((scatterRetrieved_spec config env id p w).mono (fun _ h => h) (fun _ _ _ => trivial)
      _) w rfl
    rintro e w' (⟨_, hp | ⟨_, he⟩⟩ | ⟨he, _⟩)
    · exact absurd (congrArg (fun v : View δ => v.loads.retrieved) hv) hp
    · exact he
    · exact he
  · rintro e w (⟨_, hm⟩ | ⟨he, _⟩)
    · exact absurd ⟨rfl, rfl⟩ hm
    · exact he

theorem storeSequence_ordered (config : BridgeConfig) (env : StoreEnvironment) (id : ℕ)
    (p : WorkerStorePlan sha256) (gathers : List TokenScatterPlan) {w₀ : World δ}
    (hr : Ready w₀) (hn : NoPlan w₀) :
    Triple (fun w => w = w₀) (storeSequence config env id p gathers) (fun _ _ => True)
      fun e _ => ¬OrderError e := by
  have hpre : Triple (fun w => w = w₀)
      (do
        preflightGatherPlan config env id p gathers
        preflightStore config env id p)
      (fun _ w => w = storableWorld id w₀) fun e _ => ¬OrderError e :=
    (storePreflight_spec w₀).mono (fun _ h => h) (fun _ _ h => h.2.2)
      fun e _ h he => h.2 he ⟨hr, hn.2⟩
  have hsequence : (storeSequence config env id p gathers : BridgeCall δ LmcacheStoreReceipt) =
      (do
        preflightGatherPlan config env id p gathers
        preflightStore config env id p : BridgeCall δ PUnit) >>= fun _ =>
      (do
        gatherRecomputed config env id p gathers
        storePrecomputed config env id p : BridgeCall δ LmcacheStoreReceipt) := by
    rw [Call.bind_assoc]
    rfl
  rw [hsequence]
  apply triple_bind hpre
  intro _
  apply triple_bind ((gatherRecomputed_spec config env id p gathers (storableWorld id w₀)).mono
    (fun _ h => h) (fun _ _ h => h) _)
  · rintro _ w ⟨_, _, _, hv⟩
    apply ((storePrecomputed_spec config env id p w).mono (fun _ h => h) (fun _ _ _ => trivial)
      _) w rfl
    rintro e w' (⟨_, hp⟩ | ⟨he, _⟩)
    · exact absurd ⟨congrArg (fun v : View δ => v.stores.store) hv,
        congrArg (fun v : View δ => v.stores.gathered) hv⟩ hp
    · exact he
  · rintro e w (⟨_, hm | ⟨_, he⟩⟩ | ⟨he, _⟩)
    · exact absurd ⟨rfl, rfl⟩ hm
    · exact he
    · exact he

/-! ## Runs of single stages -/

inductive Stage where
  | preflightRetrieve
  | preflightScatter
  | retrieve
  | load
  | preflightGather
  | preflightStore
  | gather
  | store
  deriving DecidableEq

/-- A call of one stage, in any order with the others and for any plan. -/
inductive StageCall (sha256 : Bytes → Digest) (δ : Type) where
  | preflightRetrieve (env : LoadEnvironment δ) (id : ℕ) (p : WorkerLoadPlan sha256)
  | preflightScatter (env : LoadEnvironment δ) (id : ℕ) (p : WorkerLoadPlan sha256)
  | retrieve (env : LoadEnvironment δ) (id : ℕ) (p : WorkerLoadPlan sha256)
  | load (env : LoadEnvironment δ) (id : ℕ) (p : WorkerLoadPlan sha256)
  | preflightGather (env : StoreEnvironment) (id : ℕ) (p : WorkerStorePlan sha256)
      (gathers : List TokenScatterPlan)
  | preflightStore (env : StoreEnvironment) (id : ℕ) (p : WorkerStorePlan sha256)
  | gather (env : StoreEnvironment) (id : ℕ) (p : WorkerStorePlan sha256)
      (gathers : List TokenScatterPlan)
  | store (env : StoreEnvironment) (id : ℕ) (p : WorkerStorePlan sha256)

def StageCall.stage : StageCall sha256 δ → Stage
  | .preflightRetrieve .. => .preflightRetrieve
  | .preflightScatter .. => .preflightScatter
  | .retrieve .. => .retrieve
  | .load .. => .load
  | .preflightGather .. => .preflightGather
  | .preflightStore .. => .preflightStore
  | .gather .. => .gather
  | .store .. => .store

def StageCall.plan : StageCall sha256 δ → ℕ
  | .preflightRetrieve _ id _ => id
  | .preflightScatter _ id _ => id
  | .retrieve _ id _ => id
  | .load _ id _ => id
  | .preflightGather _ id _ _ => id
  | .preflightStore _ id _ => id
  | .gather _ id _ _ => id
  | .store _ id _ => id

def callOf (config : BridgeConfig) : StageCall sha256 δ → BridgeCall δ PUnit
  | .preflightRetrieve env id p => preflightRetrieve config env id p
  | .preflightScatter env id p => preflightScatterPlan config env id p
  | .retrieve env id p => do
    let _ ← retrieveVerified config env id p
    pure ⟨⟩
  | .load env id p => scatterRetrieved config env id p
  | .preflightGather env id p gathers => preflightGatherPlan config env id p gathers
  | .preflightStore env id p => preflightStore config env id p
  | .gather env id p gathers => gatherRecomputed config env id p gathers
  | .store env id p => do
    let _ ← storePrecomputed config env id p
    pure ⟨⟩

def Stage.loads : Stage → Bool
  | .preflightRetrieve => true
  | .preflightScatter => true
  | .retrieve => true
  | .load => true
  | _ => false

def Stage.before : Stage → Option Stage
  | .retrieve => some .preflightScatter
  | .load => some .retrieve
  | .gather => some .preflightStore
  | .store => some .gather
  | _ => none

/-- The last stage of each direction that returned, with its plan. -/
structure Returned where
  load : Option (Stage × ℕ)
  store : Option (Stage × ℕ)

def Returned.of (r : Returned) (stage : Stage) : Option (Stage × ℕ) :=
  if stage.loads = true then r.load else r.store

def Returned.note (r : Returned) (c : StageCall sha256 δ) : Returned :=
  if c.stage.loads = true then { r with load := some (c.stage, c.plan) }
  else { r with store := some (c.stage, c.plan) }

/-- One call in a run, which goes on whether the call returns or raises. -/
def next (config : BridgeConfig) (s : World δ × Returned) (c : StageCall sha256 δ) :
    World δ × Returned :=
  match callOf config c s.1 with
  | (.ok _, w) => (w, s.2.note c)
  | (.error _, w) => (w, s.2)

/-- The load markers that are possible after the last load stage that returned. -/
def LoadTracked : Option (Stage × ℕ) → LoadMarkers → Prop
  | some (.preflightRetrieve, id), l => l = ⟨some id, none, none⟩ ∨ l = .empty
  | some (.preflightScatter, id), l => l = ⟨some id, some id, none⟩ ∨ l = .empty
  | some (.retrieve, id), l => l = ⟨none, none, some id⟩ ∨ l = .empty
  | _, l => l = .empty

/-- The store markers that are possible after the last store stage that returned. -/
def StoreTracked : Option (Stage × ℕ) → StoreMarkers → Prop
  | some (.preflightGather, id), l => l = ⟨some id, none, none⟩ ∨ l = .empty
  | some (.preflightStore, id), l =>
    l = ⟨some id, some id, none⟩ ∨ l = ⟨none, some id, none⟩ ∨ l = .empty
  | some (.gather, id), l => l = ⟨none, some id, some id⟩ ∨ l = .empty
  | _, l => l = .empty

structure Tracked (s : World δ × Returned) : Prop where
  loads : LoadTracked s.2.load (loadMarkers s.1)
  stores : StoreTracked s.2.store (storeMarkers s.1)

theorem loadTracked_empty (r : Option (Stage × ℕ)) : LoadTracked r .empty := by
  unfold LoadTracked
  split
  · exact .inr rfl
  · exact .inr rfl
  · exact .inr rfl
  · rfl

theorem storeTracked_empty (r : Option (Stage × ℕ)) : StoreTracked r .empty := by
  unfold StoreTracked
  split
  · exact .inr rfl
  · exact .inr (.inr rfl)
  · exact .inr rfl
  · rfl

theorem LoadTracked.checked {r : Option (Stage × ℕ)} {l : LoadMarkers} {id : ℕ}
    (h : LoadTracked r l) (hs : l.storage = some id) : l.retrieved = none := by
  unfold LoadTracked at h
  split at h
  · obtain rfl | rfl := h
    · rfl
    · rfl
  · obtain rfl | rfl := h
    · rfl
    · rfl
  · obtain rfl | rfl := h
    · cases hs
    · rfl
  · subst h
    rfl

theorem LoadTracked.retrievable {r : Option (Stage × ℕ)} {l : LoadMarkers} {id : ℕ}
    (h : LoadTracked r l) (hd : l.data = some id) : r = some (.preflightScatter, id) := by
  unfold LoadTracked at h
  split at h
  · obtain rfl | rfl := h <;> cases hd
  · obtain rfl | rfl := h
    · cases hd
      rfl
    · cases hd
  · obtain rfl | rfl := h <;> cases hd
  · subst h
    cases hd

theorem LoadTracked.loadable {r : Option (Stage × ℕ)} {l : LoadMarkers} {id : ℕ}
    (h : LoadTracked r l) (hr : l.retrieved = some id) : r = some (.retrieve, id) := by
  unfold LoadTracked at h
  split at h
  · obtain rfl | rfl := h <;> cases hr
  · obtain rfl | rfl := h <;> cases hr
  · obtain rfl | rfl := h
    · cases hr
      rfl
    · cases hr
  · subst h
    cases hr

theorem LoadTracked.taken {r : Option (Stage × ℕ)} {l : LoadMarkers} {id : ℕ}
    (h : LoadTracked r l) (hr : l.retrieved = some id) :
    ({ l with retrieved := none } : LoadMarkers) = .empty := by
  rw [h.loadable hr] at h
  obtain rfl | rfl := h
  · rfl
  · rfl

theorem StoreTracked.checked {r : Option (Stage × ℕ)} {l : StoreMarkers} {id : ℕ}
    (h : StoreTracked r l) (hg : l.gather = some id) : l.gathered = none := by
  unfold StoreTracked at h
  split at h
  · obtain rfl | rfl := h
    · rfl
    · rfl
  · obtain rfl | rfl | rfl := h
    · rfl
    · rfl
    · rfl
  · obtain rfl | rfl := h
    · cases hg
    · rfl
  · subst h
    rfl

theorem StoreTracked.gatherable {r : Option (Stage × ℕ)} {l : StoreMarkers} {id : ℕ}
    (h : StoreTracked r l) (hg : l.gather = some id) (hs : l.store = some id) :
    r = some (.preflightStore, id) := by
  unfold StoreTracked at h
  split at h
  · obtain rfl | rfl := h <;> cases hs
  · obtain rfl | rfl | rfl := h
    · cases hg
      rfl
    · cases hg
    · cases hg
  · obtain rfl | rfl := h <;> cases hg
  · subst h
    cases hg

theorem StoreTracked.storable {r : Option (Stage × ℕ)} {l : StoreMarkers} {id : ℕ}
    (h : StoreTracked r l) (hg : l.gathered = some id) : r = some (.gather, id) := by
  unfold StoreTracked at h
  split at h
  · obtain rfl | rfl := h <;> cases hg
  · obtain rfl | rfl | rfl := h <;> cases hg
  · obtain rfl | rfl := h
    · cases hg
      rfl
    · cases hg
  · subst h
    cases hg

theorem StoreTracked.taken {r : Option (Stage × ℕ)} {l : StoreMarkers} {id : ℕ}
    (h : StoreTracked r l) (hg : l.gathered = some id) :
    (⟨l.gather, none, none⟩ : StoreMarkers) = .empty := by
  rw [h.storable hg] at h
  obtain rfl | rfl := h
  · rfl
  · rfl

/-! ## What is refused -/

theorem requirePlan_admitted {pending : GptOssWorkerBridge → Option ℕ} {id : ℕ} {w : World δ}
    (h : pending w.bridge = some id) : requirePlan pending id w = (.ok ⟨⟩, w) := by
  show Call.lift (require (pending w.bridge = some id) _) w = _
  rw [require_of _ h]
  rfl

theorem requirePlan_refused {α : Type} {pending : GptOssWorkerBridge → Option ℕ} {id : ℕ}
    {w : World δ} (h : pending w.bridge ≠ some id) (f : PUnit → BridgeCall δ α) :
    (requirePlan pending id >>= f) w = (.error (.bridge .planOrderMismatch), w) := by
  apply Call.bind_run_error
  show Call.lift (require (pending w.bridge = some id) _) w = _
  rw [require_not _ h]
  rfl

section
variable (config : BridgeConfig) (id : ℕ) {w : World δ}

theorem retrieve_refused (env : LoadEnvironment δ) (p : WorkerLoadPlan sha256)
    (h : ¬(w.bridge.loadStoragePreflight = some id ∧ w.bridge.loadDataPreflight = some id)) :
    retrieveVerified config env id p w = (.error (.bridge .planOrderMismatch), w) := by
  by_cases hs : w.bridge.loadStoragePreflight = some id
  · exact (Call.bind_run_ok _ (requirePlan_admitted hs)).trans
      (requirePlan_refused (fun hd => h ⟨hs, hd⟩) _)
  · exact requirePlan_refused hs _

theorem load_refused (env : LoadEnvironment δ) (p : WorkerLoadPlan sha256)
    (h : w.bridge.retrievedPlan ≠ some id) :
    scatterRetrieved config env id p w = (.error (.bridge .planOrderMismatch), w) :=
  requirePlan_refused h _

theorem gather_refused (env : StoreEnvironment) (p : WorkerStorePlan sha256)
    (gathers : List TokenScatterPlan)
    (h : ¬(w.bridge.gatherPreflight = some id ∧ w.bridge.storePreflight = some id)) :
    gatherRecomputed config env id p gathers w = (.error (.bridge .planOrderMismatch), w) := by
  by_cases hg : w.bridge.gatherPreflight = some id
  · exact (Call.bind_run_ok _ (requirePlan_admitted hg)).trans
      (requirePlan_refused (fun hs => h ⟨hg, hs⟩) _)
  · exact requirePlan_refused hg _

theorem store_refused (env : StoreEnvironment) (p : WorkerStorePlan sha256)
    (h : ¬(w.bridge.storePreflight = some id ∧ w.bridge.gatheredPlan = some id)) :
    storePrecomputed config env id p w = (.error (.bridge .planOrderMismatch), w) := by
  by_cases hs : w.bridge.storePreflight = some id
  · exact (Call.bind_run_ok _ (requirePlan_admitted hs)).trans
      (requirePlan_refused (fun hg => h ⟨hs, hg⟩) _)
  · exact requirePlan_refused hs _

end

/-- A copying stage that does not follow the stage before it, for the same
plan, raises and leaves the world as it was. -/
theorem out_of_order_refused (config : BridgeConfig) {s : World δ × Returned}
    (h : Tracked s) (c : StageCall sha256 δ) {b : Stage} (hb : c.stage.before = some b)
    (hn : s.2.of c.stage ≠ some (b, c.plan)) :
    callOf config c s.1 = (.error (.bridge .planOrderMismatch), s.1) := by
  cases c with
  | retrieve env id p =>
    cases hb
    exact Call.bind_run_error _ (retrieve_refused config id env p
      fun hm => hn (h.loads.retrievable hm.2))
  | load env id p =>
    cases hb
    exact load_refused config id env p fun hm => hn (h.loads.loadable hm)
  | gather env id p gathers =>
    cases hb
    exact gather_refused config id env p gathers
      fun hm => hn (h.stores.gatherable hm.1 hm.2)
  | store env id p =>
    cases hb
    exact Call.bind_run_error _ (store_refused config id env p
      fun hm => hn (h.stores.storable hm.2))
  | _ => cases hb

/-! ## What a stage keeps -/

section
variable {config : BridgeConfig} {s : World δ × Returned}

/-- Markers and returned stages stay in step through a call. -/
def InStep (config : BridgeConfig) (s : World δ × Returned) (c : StageCall sha256 δ) : Prop :=
  Triple (fun w => w = s.1) (callOf config c) (fun _ w => Tracked (w, s.2.note c))
    fun _ w => Tracked (w, s.2)

theorem refused_tracked (h : Tracked s) {c : StageCall sha256 δ} {e : BridgeError}
    (hc : callOf config c s.1 = (.error e, s.1)) :
    InStep config s c := by
  rintro _ rfl
  rw [hc]
  constructor
  · intro u w hw
    cases hw
  · intro e' w hw
    cases hw
    exact h

theorem discard_tracked {α : Type} {c : BridgeCall δ α} {call : StageCall sha256 δ}
    (hc : Triple (fun w => w = s.1) c (fun _ w => Tracked (w, s.2.note call))
      fun _ w => Tracked (w, s.2)) :
    Triple (fun w => w = s.1) (do
      let _ ← c
      pure ⟨⟩ : BridgeCall δ PUnit) (fun _ w => Tracked (w, s.2.note call))
      fun _ w => Tracked (w, s.2) :=
  triple_bind hc fun _ => triple_pure fun _ hw => hw

theorem preflightRetrieve_tracked (h : Tracked s) (env : LoadEnvironment δ) (id : ℕ)
    (p : WorkerLoadPlan sha256) :
    InStep config s (.preflightRetrieve env id p) := by
  apply (preflightRetrieve_spec config env id p s.1).mono (fun _ hw => hw)
  · rintro _ w ⟨_, hr, rfl⟩
    have hl : loadMarkers (s.1.withBridge { s.1.bridge with
        loadStoragePreflight := some id, loadDataPreflight := none }) =
        ⟨some id, none, none⟩ := congrArg (LoadMarkers.mk (some id) none) hr
    exact ⟨.inl hl, h.stores⟩
  · rintro e w (⟨_, state, rfl⟩ | ⟨_, hr, rfl⟩)
    · exact ⟨h.loads, h.stores⟩
    · have hl : loadMarkers (unchecked s.1) = .empty := congrArg (LoadMarkers.mk none none) hr
      refine ⟨?_, h.stores⟩
      show LoadTracked s.2.load (loadMarkers (unchecked s.1))
      rw [hl]
      exact loadTracked_empty _

theorem preflightScatter_tracked (h : Tracked s) (env : LoadEnvironment δ) (id : ℕ)
    (p : WorkerLoadPlan sha256) :
    InStep config s (.preflightScatter env id p) := by
  apply (preflightScatter_spec config env id p s.1).mono (fun _ hw => hw)
  · rintro _ w ⟨hs, rfl⟩
    have hr : s.1.bridge.retrievedPlan = none := h.loads.checked hs
    have hl : loadMarkers (s.1.withBridge { s.1.bridge with loadDataPreflight := some id }) =
        ⟨some id, some id, none⟩ := by
      show LoadMarkers.mk s.1.bridge.loadStoragePreflight (some id) s.1.bridge.retrievedPlan = _
      rw [hs, hr]
    exact ⟨.inl hl, h.stores⟩
  · rintro e w ⟨rfl, _⟩
    exact h

theorem retrieve_tracked (h : Tracked s) (env : LoadEnvironment δ) (id : ℕ)
    (p : WorkerLoadPlan sha256) :
    InStep config s (.retrieve env id p) := by
  apply discard_tracked
  apply (retrieveVerified_spec config env id p s.1).mono (fun _ hw => hw)
  · rintro _ w ⟨_, _, _, _, hv⟩
    refine ⟨.inl (congrArg View.loads hv), ?_⟩
    rw [show storeMarkers w = storeMarkers s.1 from congrArg View.stores hv]
    exact h.stores
  · rintro e w (⟨rfl, _⟩ | ⟨_, hv⟩)
    · exact h
    · constructor
      · rw [show loadMarkers w = .empty from congrArg View.loads hv]
        exact loadTracked_empty _
      · rw [show storeMarkers w = storeMarkers s.1 from congrArg View.stores hv]
        exact h.stores

theorem load_tracked (h : Tracked s) (env : LoadEnvironment δ) (id : ℕ)
    (p : WorkerLoadPlan sha256) :
    InStep config s (.load env id p) := by
  by_cases hr : s.1.bridge.retrievedPlan = some id
  · have hends : ∀ {w : World δ} {r : Returned}, r.store = s.2.store →
        Scattered { viewOf s.1 with loads := { loadMarkers s.1 with retrieved := none } } w →
        LoadTracked r.load (loadMarkers w) ∧ StoreTracked r.store (storeMarkers w) := by
      rintro w r hstore ⟨_, hv⟩
      have hl : loadMarkers w = .empty :=
        (congrArg View.loads hv).trans (LoadTracked.taken h.loads hr)
      rw [hl, hstore, show storeMarkers w = storeMarkers s.1 from congrArg View.stores hv]
      exact ⟨loadTracked_empty _, h.stores⟩
    apply (scatterRetrieved_spec config env id p s.1).mono (fun _ hw => hw)
    · rintro _ w ⟨_, hs⟩
      obtain ⟨hl, hst⟩ := hends (r := s.2.note (.load env id p)) rfl hs
      exact ⟨hl, hst⟩
    · rintro e w (⟨rfl, _⟩ | ⟨_, hs⟩)
      · exact h
      · obtain ⟨hl, hst⟩ := hends (r := s.2) rfl hs
        exact ⟨hl, hst⟩
  · exact refused_tracked h (load_refused config id env p hr)

theorem preflightGather_tracked (h : Tracked s) (env : StoreEnvironment) (id : ℕ)
    (p : WorkerStorePlan sha256) (gathers : List TokenScatterPlan) :
    InStep config s (.preflightGather env id p gathers) := by
  apply (preflightGather_spec config env id p gathers s.1).mono (fun _ hw => hw)
  · rintro _ w ⟨_, hg, rfl⟩
    have hl : storeMarkers (s.1.withBridge { s.1.bridge with
        gatherPreflight := some id, storePreflight := none }) =
        ⟨some id, none, none⟩ := congrArg (StoreMarkers.mk (some id) none) hg
    exact ⟨h.loads, .inl hl⟩
  · rintro e w (⟨_, state, rfl⟩ | ⟨_, hg, rfl⟩)
    · exact ⟨h.loads, h.stores⟩
    · have hl : storeMarkers (unstored s.1) = .empty := congrArg (StoreMarkers.mk none none) hg
      refine ⟨h.loads, ?_⟩
      show StoreTracked s.2.store (storeMarkers (unstored s.1))
      rw [hl]
      exact storeTracked_empty _

theorem preflightStore_tracked (h : Tracked s) (env : StoreEnvironment) (id : ℕ)
    (p : WorkerStorePlan sha256) :
    InStep config s (.preflightStore env id p) := by
  apply (preflightStore_spec config env id p s.1).mono (fun _ hw => hw)
  · rintro _ w ⟨hg, rfl⟩
    have hn : s.1.bridge.gatheredPlan = none := h.stores.checked hg
    have hl : storeMarkers (s.1.withBridge { s.1.bridge with storePreflight := some id }) =
        ⟨some id, some id, none⟩ := by
      show StoreMarkers.mk s.1.bridge.gatherPreflight (some id) s.1.bridge.gatheredPlan = _
      rw [hg, hn]
    exact ⟨h.loads, .inl hl⟩
  · rintro e w ⟨⟨state, rfl⟩, _⟩
    exact ⟨h.loads, h.stores⟩

theorem gather_tracked (h : Tracked s) (env : StoreEnvironment) (id : ℕ)
    (p : WorkerStorePlan sha256) (gathers : List TokenScatterPlan) :
    InStep config s (.gather env id p gathers) := by
  by_cases hm : s.1.bridge.gatherPreflight = some id ∧ s.1.bridge.storePreflight = some id
  · apply (gatherRecomputed_spec config env id p gathers s.1).mono (fun _ hw => hw)
    · rintro _ w ⟨_, _, _, hv⟩
      refine ⟨?_, .inl (congrArg View.stores hv)⟩
      rw [show loadMarkers w = loadMarkers s.1 from congrArg View.loads hv]
      exact h.loads
    · rintro e w (⟨rfl, _⟩ | ⟨_, hv⟩)
      · exact h
      · have hl : storeMarkers w = ⟨none, some id, none⟩ := by
          rw [← hm.2]
          exact congrArg View.stores hv
        have hr : s.2.store = some (.preflightStore, id) := h.stores.gatherable hm.1 hm.2
        constructor
        · rw [show loadMarkers w = loadMarkers s.1 from congrArg View.loads hv]
          exact h.loads
        · rw [hr]
          exact .inr (.inl hl)
  · exact refused_tracked h (gather_refused config id env p gathers hm)

theorem store_tracked (h : Tracked s) (env : StoreEnvironment) (id : ℕ)
    (p : WorkerStorePlan sha256) :
    InStep config s (.store env id p) := by
  by_cases hm : s.1.bridge.storePreflight = some id ∧ s.1.bridge.gatheredPlan = some id
  · have hends : ∀ {w : World δ} {r : Returned}, r.load = s.2.load →
        viewOf w = { viewOf s.1 with stores := ⟨s.1.bridge.gatherPreflight, none, none⟩ } →
        LoadTracked r.load (loadMarkers w) ∧ StoreTracked r.store (storeMarkers w) := by
      intro w r hload hv
      have hl : storeMarkers w = .empty :=
        (congrArg View.stores hv).trans (StoreTracked.taken h.stores hm.2)
      rw [hl, hload, show loadMarkers w = loadMarkers s.1 from congrArg View.loads hv]
      exact ⟨h.loads, storeTracked_empty _⟩
    apply discard_tracked
    apply (storePrecomputed_spec config env id p s.1).mono (fun _ hw => hw)
    · rintro receipt w ⟨_, _, _, _, _, _, hv⟩
      obtain ⟨hl, hst⟩ := hends (r := s.2.note (.store env id p)) rfl hv
      exact ⟨hl, hst⟩
    · rintro e w (⟨rfl, _⟩ | ⟨_, _, hv⟩)
      · exact h
      · obtain ⟨hl, hst⟩ := hends (r := s.2) rfl hv
        exact ⟨hl, hst⟩
  · exact refused_tracked h (Call.bind_run_error _ (store_refused config id env p hm))

theorem callOf_tracked (h : Tracked s) (c : StageCall sha256 δ) : InStep config s c := by
  cases c with
  | preflightRetrieve env id p => exact preflightRetrieve_tracked h env id p
  | preflightScatter env id p => exact preflightScatter_tracked h env id p
  | retrieve env id p => exact retrieve_tracked h env id p
  | load env id p => exact load_tracked h env id p
  | preflightGather env id p gathers => exact preflightGather_tracked h env id p gathers
  | preflightStore env id p => exact preflightStore_tracked h env id p
  | gather env id p gathers => exact gather_tracked h env id p gathers
  | store env id p => exact store_tracked h env id p

theorem next_tracked (config : BridgeConfig) (h : Tracked s) (c : StageCall sha256 δ) :
    Tracked (next config s c) := by
  have hstep : InStep config s c := callOf_tracked h c
  unfold next
  obtain ⟨u, w, hw, ht⟩ | ⟨e, w, hw, ht⟩ := hstep.outcome rfl
  · rw [hw]
    exact ht
  · rw [hw]
    exact ht

theorem run_tracked (config : BridgeConfig) (cs : List (StageCall sha256 δ)) (h : Tracked s) :
    Tracked (cs.foldl (next config) s) := by
  induction cs generalizing s with
  | nil => exact h
  | cons c cs ih => exact ih (next_tracked config h c)

end

/-- Whatever fails, no transfer leaves a plan behind, and while the bridge is
ready with its staging registered the stages of the next load and of the next
store raise no order error. A retrieval, load, gather or store that does not
follow the stage before it, for the same plan, raises and copies nothing. -/
theorem never_wedged (config : BridgeConfig) (layout : LayeredCacheLayout)
    (memory : DataPlaneMemory δ) :
    (∀ ts : List (Transfer sha256 δ),
      let w := ts.foldl (perform config layout) ⟨.opened, memory, [], []⟩
      w.bridge.retrievedPlan = none ∧ w.bridge.gatheredPlan = none ∧
      (w.bridge.state = .ready → w.bridge.staging = .registered →
        (∀ env id (p : WorkerLoadPlan sha256) e w',
          loadSequence config env id p w = (.error e, w') → ¬OrderError e) ∧
        ∀ env id (p : WorkerStorePlan sha256) gathers e w',
          storeSequence config env id p gathers w = (.error e, w') → ¬OrderError e)) ∧
    ∀ (cs : List (StageCall sha256 δ)) (c : StageCall sha256 δ) (b : Stage),
      let s := cs.foldl (next config) (⟨.opened, memory, [], []⟩, ⟨none, none⟩)
      c.stage.before = some b → s.2.of c.stage ≠ some (b, c.plan) →
        callOf config c s.1 = (.error (.bridge .planOrderMismatch), s.1) := by
  constructor
  · intro ts
    have hn : NoPlan (ts.foldl (perform config layout) ⟨.opened, memory, [], []⟩) :=
      run_noPlan config layout ts _ ⟨rfl, rfl⟩
    refine ⟨hn.1, hn.2, fun hstate hstaging => ⟨?_, ?_⟩⟩
    · intro env id p e w'
      exact ((loadSequence_ordered config env id p ⟨hstate, hstaging⟩ hn) _ rfl).2 e w'
    · intro env id p gathers e w'
      exact ((storeSequence_ordered config env id p gathers ⟨hstate, hstaging⟩ hn) _ rfl).2 e w'
  · intro cs c b
    have htracked : Tracked ((⟨.opened, memory, [], []⟩, ⟨none, none⟩) : World δ × Returned) :=
      ⟨loadTracked_empty none, storeTracked_empty none⟩
    exact out_of_order_refused config (run_tracked config cs htracked) c

end CacheBlend.BridgeOrder
