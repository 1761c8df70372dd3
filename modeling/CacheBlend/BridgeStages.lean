import CacheBlend.BridgeTransfers
import CacheBlend.PagedScatter
import CacheBlend.Triples

/-!
# What the stages of the bridge do

Each stage has one triple. A stage without the markers it asks for leaves the
world as it was. The checks and the dry runs change markers only, a retrieval
and a store keep the paged tensors, and no stage raises an order error when
the markers are those of its plan.
-/

set_option autoImplicit false

namespace CacheBlend.BridgeStages
open CacheBlend.PlannerModels CacheBlend.LmcacheTypes CacheBlend.TokenScatter
open CacheBlend.VllmAdapters CacheBlend.TransferRuntime CacheBlend.DataPlane
open CacheBlend.WorkerBridge CacheBlend.BridgeTransfers
open CacheBlend.PagedScatter (gather_keeps_paged)
open CacheBlend.Call (Triple triple_bind triple_pure triple_raise triple_lift triple_read_bind
  triple_modify triple_forM triple_mapM triple_within triple_of_state)

structure LoadMarkers where
  storage : Option ℕ
  data : Option ℕ
  retrieved : Option ℕ
  deriving DecidableEq

structure StoreMarkers where
  gather : Option ℕ
  store : Option ℕ
  gathered : Option ℕ
  deriving DecidableEq

def LoadMarkers.empty : LoadMarkers := ⟨none, none, none⟩

def StoreMarkers.empty : StoreMarkers := ⟨none, none, none⟩

/-- What a stage of one direction can leave as it is. -/
structure View (δ : Type) where
  loads : LoadMarkers
  stores : StoreMarkers
  paged : PagedCell → HeadRow δ
  published : List (List CacheRecord)

section
variable {δ : Type}

def loadMarkers (w : World δ) : LoadMarkers :=
  ⟨w.bridge.loadStoragePreflight, w.bridge.loadDataPreflight, w.bridge.retrievedPlan⟩

def storeMarkers (w : World δ) : StoreMarkers :=
  ⟨w.bridge.gatherPreflight, w.bridge.storePreflight, w.bridge.gatheredPlan⟩

def viewOf (w : World δ) : View δ :=
  ⟨loadMarkers w, storeMarkers w, w.memory.paged, w.published⟩

def Ready (w : World δ) : Prop := w.bridge.state = .ready ∧ w.bridge.staging = .registered

def OrderError (e : BridgeError) : Prop :=
  e = .bridge .invalidState ∨ e = .bridge .planOrderMismatch

instance (e : BridgeError) : Decidable (OrderError e) := inferInstanceAs (Decidable (_ ∨ _))

/-! ## Checks -/

/-- A call that leaves the world as it is and raises no order error. -/
def Check {α : Type} (c : BridgeCall δ α) : Prop :=
  ∀ w₀, Triple (fun w => w = w₀) c (fun _ w => w = w₀) (fun e w => w = w₀ ∧ ¬OrderError e)

theorem check_bind {α β : Type} {c : BridgeCall δ α} {f : α → BridgeCall δ β} (hc : Check c)
    (hf : ∀ a, Check (f a)) : Check (c >>= f) :=
  fun w₀ => triple_bind (hc w₀) fun a => hf a w₀

theorem check_lift {α : Type} {x : Except BridgeError α}
    (h : ∀ e, x = .error e → ¬OrderError e) : Check (Call.lift x : BridgeCall δ α) :=
  fun _ => triple_lift (fun _ _ _ hw => hw) fun e he _ hw => ⟨hw, h e he⟩

theorem check_check (p : Prop) [Decidable p] {e : BridgeError} (h : ¬OrderError e) :
    Check (check p e : BridgeCall δ PUnit) := by
  apply check_lift
  intro e' he
  unfold require at he
  split_ifs at he
  cases he
  exact h

theorem check_forM {α : Type} {f : α → BridgeCall δ PUnit} (h : ∀ a, Check (f a))
    (xs : List α) : Check (xs.forM f) := fun w₀ => triple_forM fun a _ => h a w₀

theorem stagingTensor_spec (w₀ : World δ) :
    Triple (fun w => w = w₀) stagingTensor
      (fun _ w => w = w₀ ∧ w₀.bridge.staging = .registered)
      (fun e w => w = w₀ ∧ w₀.bridge.staging ≠ .registered ∧ ¬OrderError e) := by
  apply triple_read_bind
  rintro w rfl
  unfold check require
  split_ifs with h
  · exact triple_pure fun _ hw => ⟨hw, h⟩
  · exact triple_raise fun _ hw => ⟨hw, h, by decide⟩

theorem check_stagingTensor : Check (stagingTensor : BridgeCall δ PUnit) := fun w₀ =>
  (stagingTensor_spec w₀).mono (fun _ h => h) (fun _ _ h => h.1) fun _ _ h => ⟨h.1, h.2.2⟩

theorem check_validateRequest (requestId : String) :
    Check (validateRequest requestId : BridgeCall δ PUnit) := by
  apply check_lift
  intro e he
  cases hv : TransportRequests.validateRequestId requestId with
  | ok u =>
    rw [hv] at he
    cases he
  | error e' =>
    rw [hv] at he
    cases he
    rintro (h | h) <;> cases h

theorem check_validateTransport (config : Option TransportRequests.LmcacheBlendTransportConfig)
    (cacheNamespace : CacheNamespace) (names : List NamespaceText) :
    Check (validateTransport config cacheNamespace names : BridgeCall δ PUnit) := by
  cases config with
  | none => exact fun _ => triple_raise fun _ hw => ⟨hw, by decide⟩
  | some config => exact check_check _ (by decide)

theorem check_readOnly {α : Type}
    (c : TensorRuntime → Call (DataPlaneMemory δ) DataPlaneError α) (runtime : TensorRuntime) :
    Check (onMemory (readOnly c runtime)) := by
  intro w₀ w hw
  have hm : (readOnly c runtime w.memory).2 = w.memory := rfl
  unfold onMemory Call.within
  rcases h : readOnly c runtime w.memory with ⟨e | a, memory⟩ <;> rw [h] at hm <;> cases hm
  · constructor
    · intro b w' hb
      cases hb
    · intro e' w' he
      cases he
      exact ⟨hw, by rintro (h | h) <;> cases h⟩
  · constructor
    · intro b w' hb
      cases hb
      exact hw
    · intro e' w' he
      cases he

theorem check_validateDataReceipt (receipt : DataPlaneReceipt) (direction : TransferDirection)
    (spanCount : ℕ) :
    Check (validateDataReceipt receipt direction spanCount : BridgeCall δ PUnit) :=
  check_check _ (by decide)

/-! ## Order checks -/

theorem requireReady_spec (w₀ : World δ) :
    Triple (fun w => w = w₀) requireReady (fun _ w => w = w₀ ∧ Ready w₀)
      (fun _ w => ¬Ready w₀ ∧ ∃ state, w = w₀.withBridge { w₀.bridge with state := state }) := by
  rintro w rfl
  unfold requireReady
  split_ifs with hready hstate
  · constructor
    · intro u w' h
      cases h
      exact ⟨rfl, hready⟩
    · intro e w' h
      cases h
  · constructor
    · intro u w' h
      cases h
    · intro e w' h
      cases h
      exact ⟨hready, _, rfl⟩
  · constructor
    · intro u w' h
      cases h
    · intro e w' h
      cases h
      exact ⟨hready, w.bridge.state, rfl⟩

theorem requirePlan_spec (pending : GptOssWorkerBridge → Option ℕ) (id : ℕ) (w₀ : World δ) :
    Triple (fun w => w = w₀) (requirePlan pending id)
      (fun _ w => w = w₀ ∧ pending w₀.bridge = some id)
      (fun _ w => w = w₀ ∧ pending w₀.bridge ≠ some id) := by
  apply triple_read_bind
  rintro w rfl
  unfold check require
  split_ifs with h
  · exact triple_pure fun _ hw => ⟨hw, h⟩
  · exact triple_raise fun _ hw => ⟨hw, h⟩

theorem Check.keeps {α : Type} {c : BridgeCall δ α} (hc : Check c) (inv : World δ → Prop) :
    Triple inv c (fun _ => inv) (fun e w => inv w ∧ ¬OrderError e) := by
  apply triple_of_state
  intro w hw
  apply (hc w).mono (fun _ h => h)
  · rintro _ _ rfl
    exact hw
  · rintro e _ ⟨rfl, he⟩
    exact ⟨hw, he⟩

theorem Check.to {α : Type} {c : BridgeCall δ α} (hc : Check c) {w₀ : World δ}
    {fail : BridgeError → World δ → Prop} (h : ∀ e, ¬OrderError e → fail e w₀) :
    Triple (fun w => w = w₀) c (fun _ w => w = w₀) fail := by
  apply (hc w₀).mono (fun _ hw => hw) (fun _ _ hw => hw)
  rintro e _ ⟨rfl, he⟩
  exact h e he

theorem check_admitted {p : Prop} [Decidable p] (hp : p) {e : BridgeError} {pre : World δ → Prop}
    {fail : BridgeError → World δ → Prop} : Triple pre (check p e) (fun _ => pre) fail := by
  unfold check require
  rw [if_pos hp]
  exact triple_pure fun _ hw => hw

theorem check_refused {p : Prop} [Decidable p] (hp : ¬p) {e : BridgeError} {α : Type}
    {pre : World δ → Prop} {f : PUnit → BridgeCall δ α} {post : α → World δ → Prop}
    {fail : BridgeError → World δ → Prop} (h : ∀ w, pre w → fail e w) :
    Triple pre (check p e >>= f) post fail := by
  apply triple_bind (m := fun _ _ => False)
  · unfold check require
    rw [if_neg hp]
    exact triple_raise h
  · intro _ _ hw
    exact hw.elim

section
variable {α : Type} {inv rest : World δ → Prop} {post : α → World δ → Prop} {lease : LeaseAnswers}
  {body : BridgeCall δ α} (hbody : Triple inv body post fun _ w => rest w)
  (hinv : ∀ w staging, inv w → inv (w.withStaging staging))
  (hrest : ∀ w staging, rest w → rest (w.withStaging staging))
  (hpost : ∀ a w staging, post a w → post a (w.withStaging staging))
  (hback : ∀ a w, post a w → rest w) (hstart : ∀ w, inv w → rest w)
include hbody hinv hrest hpost hback hstart

theorem leased_spec : Triple inv (leased lease body)
    (fun a w => post a w ∧ w.bridge.staging = .registered)
    (fun e w => rest w ∧ ¬OrderError e) := by
  have hfails : ∀ w : World δ, rest w → rest (w.withStaging .failed) ∧ ¬OrderError .staging :=
    fun w hw => ⟨hrest w _ hw, by decide⟩
  intro w hw
  unfold leased
  by_cases hexport : lease.eventExported = false
  · rw [if_pos hexport]
    constructor
    · intro a w' h
      cases h
    · intro e w' h
      cases h
      exact hfails w (hstart w hw)
  · rw [if_neg hexport]
    obtain ⟨a, w₁, ha, hp⟩ | ⟨e, w₁, he, hi⟩ := hbody.outcome (hinv w .transferActive hw)
    · rw [ha]
      dsimp only
      by_cases hsync : lease.synchronized = false
      · rw [if_pos hsync]
        constructor
        · intro b w' h
          cases h
        · intro e w' h
          cases h
          exact hfails w₁ (hback a w₁ hp)
      · rw [if_neg hsync]
        constructor
        · intro b w' h
          cases h
          exact ⟨hpost a w₁ _ hp, rfl⟩
        · intro e w' h
          cases h
    · rw [he]
      constructor
      · intro b w' h
        cases h
      · intro e' w' h
        cases h
        exact hfails w₁ hi

theorem synchronousTransfer_spec (config : BridgeConfig) (store : Bool) (offset extent : ℕ) :
    Triple inv (synchronousTransfer config store offset extent lease body)
      (fun a w => post a w ∧ w.bridge.staging = .registered)
      (fun e w => rest w ∧ ¬OrderError e) := by
  have hchecks : ∀ {c : BridgeCall δ PUnit}, Check c →
      Triple inv c (fun _ => inv) (fun e w => rest w ∧ ¬OrderError e) := fun hc =>
    (hc.keeps inv).mono (fun _ h => h) (fun _ _ h => h) fun _ w h => ⟨hstart w h.1, h.2⟩
  exact triple_bind (hchecks check_stagingTensor) fun _ =>
    triple_bind (hchecks (check_check _ (by decide))) fun _ =>
    triple_bind (hchecks (check_check _ (by decide))) fun _ =>
    triple_bind (hchecks (check_check _ (by decide))) fun _ =>
    leased_spec hbody hinv hrest hpost hback hstart

end

theorem triple_attempt {α : Type} {pre : World δ → Prop} {body : BridgeCall δ α}
    {onError last : GptOssWorkerBridge → GptOssWorkerBridge} {post : α → World δ → Prop}
    {fail : BridgeError → World δ → Prop}
    (h : Triple pre body (fun a w => post a (w.withBridge (last w.bridge)))
      (fun e w => fail e (w.withBridge (last (onError w.bridge))))) :
    Triple pre (attempt onError last body) post fail := by
  intro w hw
  unfold attempt
  obtain ⟨a, w₁, ha, hp⟩ | ⟨e, w₁, he, hf⟩ := h.outcome hw
  · rw [ha]
    constructor
    · intro b w' hb
      cases hb
      exact hp
    · intro e w' he
      cases he
  · rw [he]
    constructor
    · intro b w' hb
      cases hb
    · intro e' w' he'
      cases he'
      exact hf

/-! ## Loads -/

section
variable {sha256 : Bytes → Digest} (config : BridgeConfig) (env : LoadEnvironment δ) (id : ℕ)
  (p : WorkerLoadPlan sha256) (w₀ : World δ)

theorem check_validateLoadPlan : Check (validateLoadPlan p : BridgeCall δ PUnit) :=
  check_bind (check_check _ (by decide)) fun _ => check_bind (check_check _ (by decide)) fun _ =>
    check_bind (check_check _ (by decide)) fun _ => check_validateRequest _

theorem check_preflightCandidate (work : CandidateScatterWork) :
    Check (preflightCandidate config env p work) :=
  check_bind (check_readOnly _ _) fun _ => check_validateDataReceipt _ _ _

theorem validateStagingRange_spec (start length : ℕ) :
    Triple (fun w => w = w₀) (validateStagingRange config start length)
      (fun _ w => w = w₀ ∧ Ready w₀)
      (fun e w => (w = w₀ ∧ ¬OrderError e) ∨
        ¬Ready w₀ ∧ ∃ state, w = w₀.withBridge { w₀.bridge with state := state }) := by
  apply triple_bind ((requireReady_spec w₀).mono (fun _ h => h) (fun _ _ h => h)
    fun _ _ h => .inr h)
  intro _ w ⟨hw, hready⟩
  apply (triple_bind ((check_check _ (by decide)).to fun e he => .inl ⟨rfl, he⟩) fun _ =>
    (check_stagingTensor.to fun e he => .inl ⟨rfl, he⟩).mono (fun _ h => h)
      (fun _ _ h => ⟨h, hready⟩) fun _ _ h => h) w hw

/-- The world with no load checked, from which the checks of a load start. -/
def unchecked (w : World δ) : World δ :=
  w.withBridge { w.bridge with loadStoragePreflight := none, loadDataPreflight := none }

theorem preflightRetrieve_spec :
    Triple (fun w => w = w₀) (preflightRetrieve config env id p)
      (fun _ w => Ready w₀ ∧ w₀.bridge.retrievedPlan = none ∧ w = w₀.withBridge
        { w₀.bridge with loadStoragePreflight := some id, loadDataPreflight := none })
      (fun e w => (¬(Ready w₀ ∧ w₀.bridge.retrievedPlan = none) ∧
          ∃ state, w = w₀.withBridge { w₀.bridge with state := state }) ∨
        ¬OrderError e ∧ w₀.bridge.retrievedPlan = none ∧ w = unchecked w₀) := by
  apply triple_bind ((requireReady_spec w₀).mono (fun _ h => h) (fun _ _ h => h)
    fun _ _ h => .inl ⟨fun hr => h.1 hr.1, h.2⟩)
  intro _
  apply triple_read_bind
  rintro w ⟨rfl, hready⟩
  by_cases hretrieved : w.bridge.retrievedPlan = none
  · apply triple_bind (check_admitted hretrieved)
    intro _
    apply triple_bind (m := fun _ w' => w' = unchecked w)
    · apply triple_modify
      rintro _ rfl
      rfl
    · intro _
      apply triple_bind ((check_validateLoadPlan p).to fun e he => .inr ⟨he, hretrieved, rfl⟩)
      intro _
      apply triple_bind ((check_validateTransport _ _ _).to fun e he =>
        .inr ⟨he, hretrieved, rfl⟩)
      intro _
      apply triple_bind ((validateStagingRange_spec config (unchecked w) _ _).mono (fun _ h => h)
        (fun _ _ h => h.1) fun e w' h => ?_)
      · intro _
        apply triple_modify
        rintro _ rfl
        exact ⟨hready, hretrieved, rfl⟩
      · obtain ⟨hw, he⟩ | ⟨hn, _⟩ := h
        · exact .inr ⟨he, hretrieved, hw⟩
        · exact absurd hready hn
  · apply check_refused hretrieved
    intro w' hw'
    rw [hw']
    exact .inl ⟨fun h => hretrieved h.2, w.bridge.state, rfl⟩

theorem preflightScatter_spec :
    Triple (fun w => w = w₀) (preflightScatterPlan config env id p)
      (fun _ w => w₀.bridge.loadStoragePreflight = some id ∧
        w = w₀.withBridge { w₀.bridge with loadDataPreflight := some id })
      (fun e w => w = w₀ ∧ (OrderError e → w₀.bridge.loadStoragePreflight ≠ some id)) := by
  apply triple_bind ((requirePlan_spec _ id w₀).mono (fun _ h => h) (fun _ _ h => h)
    fun _ _ h => ⟨h.1, fun _ => h.2⟩)
  intro _ w ⟨hw, hplan⟩
  apply (triple_bind (check_stagingTensor.to fun e he => ⟨rfl, fun h => absurd h he⟩) fun _ =>
    triple_bind ((check_forM (check_preflightCandidate config env p) _).to
      fun e he => ⟨rfl, fun h => absurd h he⟩) fun _ =>
    triple_modify fun w' hw' => ⟨hplan, by rw [hw']⟩) w hw

/-- The receipt counts the tokens and chunks of the plan. -/
def Counts (receipt : LmcacheRetrieveReceipt) (p : WorkerLoadPlan sha256) : Prop :=
  receipt.retrievedTokens = p.expectedTokens ∧ receipt.retrievedChunks = p.expectedChunks

instance (receipt : LmcacheRetrieveReceipt) : Decidable (Counts receipt p) :=
  inferInstanceAs (Decidable (_ ∧ _))

theorem retrieveBody_spec (v : View δ) :
    Triple (fun w => viewOf w = v) (retrieveBody env id) (fun _ w => viewOf w = v)
      (fun _ w => viewOf w = v) := by
  intro w hw
  unfold retrieveBody
  cases env.retrieved with
  | none =>
    constructor
    · intro a w' h
      cases h
    · intro e w' h
      cases h
      exact hw
  | some receipt =>
    constructor
    · intro a w' h
      cases h
      exact hw
    · intro e w' h
      cases h

theorem retrieveVerified_spec :
    Triple (fun w => w = w₀) (retrieveVerified config env id p)
      (fun receipt w => w₀.bridge.loadStoragePreflight = some id ∧
        w₀.bridge.loadDataPreflight = some id ∧ Counts receipt p ∧
        w.bridge.staging = .registered ∧
        viewOf w = { viewOf w₀ with loads := ⟨none, none, some id⟩ })
      (fun e w => (w = w₀ ∧ ¬(w₀.bridge.loadStoragePreflight = some id ∧
          w₀.bridge.loadDataPreflight = some id)) ∨
        ¬OrderError e ∧ viewOf w = { viewOf w₀ with loads := .empty }) := by
  apply triple_bind ((requirePlan_spec _ id w₀).mono (fun _ h => h) (fun _ _ h => h)
    fun _ _ h => .inl ⟨h.1, fun hp => h.2 hp.1⟩)
  rintro _ w ⟨hw, hstorage⟩
  apply (triple_bind ((requirePlan_spec _ id w₀).mono (fun _ h => h) (fun _ _ h => h)
    fun _ _ h => .inl ⟨h.1, fun hp => h.2 hp.2⟩) _) w hw
  rintro _ w ⟨rfl, hdata⟩
  apply (triple_bind (m := fun receipt w' => Counts receipt p ∧
    w'.bridge.staging = .registered ∧
    viewOf w' = { viewOf w with loads := ⟨none, none, w.bridge.retrievedPlan⟩ })
    (triple_attempt _) _) w rfl
  · apply triple_bind (m := fun _ w' => viewOf w' = viewOf w ∧ w'.bridge.staging = .registered)
    · apply (synchronousTransfer_spec (retrieveBody_spec env id (viewOf w)) (fun _ _ h => h)
        (fun _ _ h => h) (fun _ _ _ h => h) (fun _ _ h => h) (fun _ h => h) config false _ _).mono
      · rintro _ rfl
        rfl
      · exact fun _ _ h => h
      · rintro e w' ⟨hv, he⟩
        exact .inr ⟨he, congrArg (fun v : View δ => { v with loads := .empty }) hv⟩
    · intro receipt
      by_cases hc : Counts receipt p
      · apply triple_bind (check_admitted hc)
        intro _
        apply triple_pure
        rintro w' ⟨hv, hr⟩
        exact ⟨hc, hr,
          congrArg (fun v : View δ => { v with loads := ⟨none, none, v.loads.retrieved⟩ }) hv⟩
      · apply check_refused hc
        rintro w' ⟨hv, _⟩
        exact .inr ⟨by decide, congrArg (fun v : View δ => { v with loads := .empty }) hv⟩
  · intro receipt
    apply triple_bind (m := fun _ w' => Counts receipt p ∧ w'.bridge.staging = .registered ∧
      viewOf w' = { viewOf w with loads := ⟨none, none, some id⟩ })
    · apply triple_modify
      rintro w' ⟨hc, hr, hv⟩
      exact ⟨hc, hr,
        congrArg (fun v : View δ => { v with loads := { v.loads with retrieved := some id } }) hv⟩
    · intro _
      apply triple_pure
      intro w' h
      exact ⟨hstorage, hdata, h⟩

/-- The world differs from a view in its paged tensors at most. -/
def Scattered (v : View δ) (w : World δ) : Prop := ∃ paged, viewOf w = { v with paged := paged }

theorem loadCandidate_spec (v : View δ) (work : CandidateScatterWork) :
    Triple (Scattered v) (loadCandidate config env p work) (fun _ => Scattered v)
      (fun e w => Scattered v w ∧ ¬OrderError e) := by
  apply triple_bind (m := fun _ => Scattered v)
  · apply triple_within
    · rintro w memory ⟨_, hv⟩
      exact ⟨memory.paged, congrArg (fun v' : View δ => { v' with paged := memory.paged }) hv⟩
    · intro e w hw
      exact ⟨hw, by rintro (h | h) <;> cases h⟩
  · intro receipt
    exact triple_bind ((check_validateDataReceipt _ _ _).keeps _) fun _ => triple_pure fun _ h => h

theorem scatterRetrieved_spec :
    Triple (fun w => w = w₀) (scatterRetrieved config env id p)
      (fun _ w => w₀.bridge.retrievedPlan = some id ∧
        Scattered { viewOf w₀ with loads := { loadMarkers w₀ with retrieved := none } } w)
      (fun e w => (w = w₀ ∧ (w₀.bridge.retrievedPlan ≠ some id ∨
          w₀.bridge.staging ≠ .registered ∧ ¬OrderError e)) ∨
        ¬OrderError e ∧
          Scattered { viewOf w₀ with loads := { loadMarkers w₀ with retrieved := none } } w) := by
  apply triple_bind ((requirePlan_spec _ id w₀).mono (fun _ h => h) (fun _ _ h => h)
    fun _ _ h => .inl ⟨h.1, .inl h.2⟩)
  rintro _ w ⟨hw, hplan⟩
  have hclears : ∀ w' : World δ, Scattered (viewOf w₀) w' → Scattered
      { viewOf w₀ with loads := { loadMarkers w₀ with retrieved := none } }
      (w'.withBridge { w'.bridge with retrievedPlan := none }) := by
    rintro w' ⟨paged, hv⟩
    exact ⟨paged, congrArg
      (fun v : View δ => { v with loads := { v.loads with retrieved := none } }) hv⟩
  have hfails : ∀ (e : BridgeError) (w' : World δ), Scattered (viewOf w₀) w' ∧ ¬OrderError e →
      ¬OrderError e ∧ Scattered
        { viewOf w₀ with loads := { loadMarkers w₀ with retrieved := none } }
        (w'.withBridge { w'.bridge with retrievedPlan := none }) :=
    fun e w' h => ⟨h.2, hclears w' h.1⟩
  apply (triple_bind ((stagingTensor_spec w₀).mono (fun _ h => h) (fun _ _ h => h.1)
    fun _ _ h => .inl ⟨h.1, .inr h.2⟩) _) w hw
  intro _
  apply triple_bind (m := fun _ => Scattered (viewOf w₀))
  · apply triple_modify
    rintro w' rfl
    exact ⟨w'.memory.paged, rfl⟩
  · intro _
    apply triple_bind (m := fun _ w' => Scattered
      { viewOf w₀ with loads := { loadMarkers w₀ with retrieved := none } } w')
    · apply triple_attempt
      apply triple_bind (((check_check _ (by decide)).keeps _).mono (fun _ h => h)
        (fun _ _ h => h) fun e w' h => .inr (hfails e w' h))
      intro _
      apply triple_bind (triple_mapM fun work _ =>
        (loadCandidate_spec config env p (viewOf w₀) work).mono (fun _ h => h) (fun _ _ h => h)
          fun e w' h => .inr (hfails e w' h))
      intro latencies
      apply triple_bind (((check_check _ (by decide)).keeps _).mono (fun _ h => h)
        (fun _ _ h => h) fun e w' h => .inr (hfails e w' h))
      intro _
      exact triple_pure fun w' h => hclears w' h
    · intro latencies
      apply triple_modify
      rintro w' ⟨paged, hv⟩
      exact ⟨hplan, paged, hv⟩

end

/-! ## Stores -/

section
variable {sha256 : Bytes → Digest} (config : BridgeConfig) (env : StoreEnvironment) (id : ℕ)
  (p : WorkerStorePlan sha256) (gathers : List TokenScatterPlan) (w₀ : World δ)

theorem check_validateStorePlan : Check (validateStorePlan p gathers : BridgeCall δ PUnit) :=
  check_bind (check_check _ (by decide)) fun _ => check_bind (check_check _ (by decide)) fun _ =>
    check_bind (check_check _ (by decide)) fun _ => check_validateRequest _

theorem check_preflightChunk (work : StoreChunkWork × TokenScatterPlan) :
    Check (preflightChunk config env work : BridgeCall δ PUnit) :=
  check_bind (check_readOnly _ _) fun _ => check_validateDataReceipt _ _ _

/-- The world with no store checked, from which the checks of a store start. -/
def unstored (w : World δ) : World δ :=
  w.withBridge { w.bridge with gatherPreflight := none, storePreflight := none }

theorem preflightGather_spec :
    Triple (fun w => w = w₀) (preflightGatherPlan config env id p gathers)
      (fun _ w => Ready w₀ ∧ w₀.bridge.gatheredPlan = none ∧ w = w₀.withBridge
        { w₀.bridge with gatherPreflight := some id, storePreflight := none })
      (fun e w => (¬(Ready w₀ ∧ w₀.bridge.gatheredPlan = none) ∧
          ∃ state, w = w₀.withBridge { w₀.bridge with state := state }) ∨
        ¬OrderError e ∧ w₀.bridge.gatheredPlan = none ∧ w = unstored w₀) := by
  apply triple_bind ((requireReady_spec w₀).mono (fun _ h => h) (fun _ _ h => h)
    fun _ _ h => .inl ⟨fun hr => h.1 hr.1, h.2⟩)
  intro _
  apply triple_read_bind
  rintro w ⟨rfl, hready⟩
  by_cases hgathered : w.bridge.gatheredPlan = none
  · apply triple_bind (check_admitted hgathered)
    intro _
    apply triple_bind (m := fun _ w' => w' = unstored w)
    · apply triple_modify
      rintro _ rfl
      rfl
    · intro _
      apply triple_bind ((check_validateStorePlan p gathers).to fun e he =>
        .inr ⟨he, hgathered, rfl⟩)
      intro _
      apply triple_bind (check_stagingTensor.to fun e he => .inr ⟨he, hgathered, rfl⟩)
      intro _
      apply triple_bind ((check_forM (check_preflightChunk config env) _).to fun e he =>
        .inr ⟨he, hgathered, rfl⟩)
      intro _
      apply triple_modify
      rintro _ rfl
      exact ⟨hready, hgathered, rfl⟩
  · apply check_refused hgathered
    intro w' hw'
    rw [hw']
    exact .inl ⟨fun h => hgathered h.2, w.bridge.state, rfl⟩

theorem preflightStore_spec :
    Triple (fun w => w = w₀) (preflightStore config env id p)
      (fun _ w => w₀.bridge.gatherPreflight = some id ∧
        w = w₀.withBridge { w₀.bridge with storePreflight := some id })
      (fun e w => (∃ state, w = w₀.withBridge { w₀.bridge with state := state }) ∧
        (OrderError e → ¬(Ready w₀ ∧ w₀.bridge.gatherPreflight = some id))) := by
  apply triple_bind ((requirePlan_spec _ id w₀).mono (fun _ h => h) (fun _ _ h => h) ?_)
  · rintro _ w ⟨hw, hplan⟩
    apply (triple_bind ((check_validateTransport _ _ _).to fun e he =>
      ⟨⟨w₀.bridge.state, rfl⟩, fun h => absurd h he⟩) _) w hw
    intro _
    apply triple_bind ((validateStagingRange_spec config w₀ _ _).mono (fun _ h => h)
      (fun _ _ h => h.1) ?_)
    · intro _
      apply triple_modify
      intro w' hw'
      exact ⟨hplan, by rw [hw']⟩
    · rintro e w' (⟨rfl, he⟩ | ⟨hn, hw'⟩)
      · exact ⟨⟨w'.bridge.state, rfl⟩, fun h => absurd h he⟩
      · exact ⟨hw', fun _ h => hn h.1⟩
  · rintro e w' ⟨rfl, hn⟩
    exact ⟨⟨w'.bridge.state, rfl⟩, fun _ h => hn h.2⟩

theorem storeChunk_spec (v : View δ) (work : StoreChunkWork × TokenScatterPlan) :
    Triple (fun w => viewOf w = v ∧ w.bridge.staging = .registered)
      (storeChunk config env work)
      (fun _ w => viewOf w = v ∧ w.bridge.staging = .registered)
      (fun e w => (viewOf w = v ∧ w.bridge.staging = .registered) ∧ ¬OrderError e) := by
  apply triple_bind (m := fun _ w => viewOf w = v ∧ w.bridge.staging = .registered)
  · rintro w ⟨hv, hr⟩
    have hpaged : (gatherChunk config env work (env.gather work.1.chunkIndex) w.memory).2.paged =
        w.memory.paged := gather_keeps_paged _ _ _ _ _ _
    have hview : ∀ memory : DataPlaneMemory δ, memory.paged = w.memory.paged →
        viewOf { w with memory := memory } = v := by
      intro memory hm
      rw [← hv]
      unfold viewOf
      rw [← hm]
      rfl
    unfold onMemory Call.within
    rcases h : gatherChunk config env work (env.gather work.1.chunkIndex) w.memory with
      ⟨e | a, memory⟩ <;> rw [h] at hpaged
    · constructor
      · intro b w' hb
        cases hb
      · intro e' w' he
        cases he
        exact ⟨⟨hview memory hpaged, hr⟩, by rintro (h | h) <;> cases h⟩
    · constructor
      · intro b w' hb
        cases hb
        exact ⟨hview memory hpaged, hr⟩
      · intro e' w' he
        cases he
  · intro receipt
    exact (check_validateDataReceipt _ _ _).keeps _

theorem gatherRecomputed_spec :
    Triple (fun w => w = w₀) (gatherRecomputed config env id p gathers)
      (fun _ w => w₀.bridge.gatherPreflight = some id ∧ w₀.bridge.storePreflight = some id ∧
        w.bridge.staging = .registered ∧
        viewOf w = { viewOf w₀ with stores := ⟨none, some id, some id⟩ })
      (fun e w => (w = w₀ ∧ (¬(w₀.bridge.gatherPreflight = some id ∧
          w₀.bridge.storePreflight = some id) ∨
          w₀.bridge.staging ≠ .registered ∧ ¬OrderError e)) ∨
        ¬OrderError e ∧ viewOf w = { viewOf w₀ with
          stores := ⟨none, w₀.bridge.storePreflight, none⟩ }) := by
  apply triple_bind ((requirePlan_spec _ id w₀).mono (fun _ h => h) (fun _ _ h => h)
    fun _ _ h => .inl ⟨h.1, .inl fun hp => h.2 hp.1⟩)
  rintro _ w ⟨hw, hgather⟩
  apply (triple_bind ((requirePlan_spec _ id w₀).mono (fun _ h => h) (fun _ _ h => h)
    fun _ _ h => .inl ⟨h.1, .inl fun hp => h.2 hp.2⟩) _) w hw
  rintro _ w ⟨hw, hstore⟩
  apply (triple_bind ((stagingTensor_spec w₀).mono (fun _ h => h) (fun _ _ h => h)
    fun _ _ h => .inl ⟨h.1, .inr h.2⟩) _) w hw
  rintro _ w ⟨rfl, hstaging⟩
  apply (triple_bind (m := fun _ w' => w'.bridge.staging = .registered ∧ viewOf w' =
    { viewOf w with stores := ⟨none, w.bridge.storePreflight, w.bridge.gatheredPlan⟩ })
    (triple_attempt _) _) w rfl
  · apply (triple_forM fun work _ =>
      storeChunk_spec config env (viewOf w) work).mono
    · rintro _ rfl
      exact ⟨rfl, hstaging⟩
    · rintro _ w' ⟨hv, hr⟩
      exact ⟨hr, congrArg (fun v : View δ =>
        { v with stores := { v.stores with gather := none } }) hv⟩
    · rintro e w' ⟨⟨hv, _⟩, he⟩
      exact .inr ⟨he, congrArg (fun v : View δ =>
        { v with stores := { v.stores with gather := none, gathered := none } }) hv⟩
  · intro _
    apply triple_modify
    rintro w' ⟨hr, hv⟩
    rw [hstore] at hv
    exact ⟨hgather, hstore, hr, congrArg
      (fun v : View δ => { v with stores := { v.stores with gathered := some id } }) hv⟩

/-- A store keeps every tensor, whether the call of the transport returns or raises. -/
def Stored (w : World δ) (memory : DataPlaneMemory δ) (v : View δ) : Prop :=
  w.memory = memory ∧ viewOf w = v

theorem storeBody_spec (memory : DataPlaneMemory δ) (v : View δ) (used : List TransportUse) :
    Triple (fun w => Stored w memory v ∧ w.used = used) (storeBody env id)
      (fun receipt w => Stored w memory v ∧ w.used = used ++ [.store id] ∧
        env.stored = some receipt)
      (fun _ w => Stored w memory v) := by
  rintro w ⟨hw, hu⟩
  unfold storeBody
  cases env.stored with
  | none =>
    constructor
    · intro a w' h
      cases h
    · intro e w' h
      cases h
      exact hw
  | some receipt =>
    constructor
    · intro a w' h
      cases h
      exact ⟨hw, congrArg (· ++ [TransportUse.store id]) hu, rfl⟩
    · intro e w' h
      cases h

theorem storePrecomputed_spec :
    Triple (fun w => w = w₀) (storePrecomputed config env id p)
      (fun receipt w => w₀.bridge.storePreflight = some id ∧ w₀.bridge.gatheredPlan = some id ∧
        ReceiptValid receipt p ∧ env.stored = some receipt ∧
        w.used = w₀.used ++ [.store id] ∧ Stored w w₀.memory { viewOf w₀ with
          stores := ⟨w₀.bridge.gatherPreflight, none, none⟩ })
      (fun e w => (w = w₀ ∧ ¬(w₀.bridge.storePreflight = some id ∧
          w₀.bridge.gatheredPlan = some id)) ∨
        ¬OrderError e ∧ Stored w w₀.memory { viewOf w₀ with
          stores := ⟨w₀.bridge.gatherPreflight, none, none⟩ }) := by
  apply triple_bind ((requirePlan_spec _ id w₀).mono (fun _ h => h) (fun _ _ h => h)
    fun _ _ h => .inl ⟨h.1, fun hp => h.2 hp.1⟩)
  rintro _ w ⟨hw, hstore⟩
  apply (triple_bind ((requirePlan_spec _ id w₀).mono (fun _ h => h) (fun _ _ h => h)
    fun _ _ h => .inl ⟨h.1, fun hp => h.2 hp.2⟩) _) w hw
  rintro _ w ⟨rfl, hgathered⟩
  have hclears : ∀ w' : World δ, Stored w' w.memory (viewOf w) →
      Stored (w'.withBridge { w'.bridge with storePreflight := none, gatheredPlan := none })
        w.memory { viewOf w with stores := ⟨w.bridge.gatherPreflight, none, none⟩ } :=
    fun w' h => ⟨h.1, congrArg (fun v : View δ =>
      { v with stores := { v.stores with store := none, gathered := none } }) h.2⟩
  apply (triple_attempt _) w rfl
  apply triple_bind (m := fun receipt w' => Stored w' w.memory (viewOf w) ∧
    w'.used = w.used ++ [.store id] ∧ env.stored = some receipt)
  · apply (synchronousTransfer_spec (storeBody_spec env id w.memory (viewOf w) w.used)
      (fun _ _ h => h) (fun _ _ h => h) (fun _ _ _ h => h) (fun _ _ h => h.1) (fun _ h => h.1)
      config true _ _).mono
    · rintro _ rfl
      exact ⟨⟨rfl, rfl⟩, rfl⟩
    · exact fun _ _ h => h.1
    · exact fun e w' h => .inr ⟨h.2, hclears w' h.1⟩
  · intro receipt
    by_cases hv : ReceiptValid receipt p
    · apply triple_bind (check_admitted hv)
      intro _
      apply triple_pure
      rintro w' ⟨hs, hu, hr⟩
      exact ⟨hstore, hgathered, hv, hr, hu, hclears w' hs⟩
    · apply check_refused hv
      rintro w' ⟨hs, _⟩
      exact .inr ⟨by decide, hclears w' hs⟩

theorem publish_spec (records : List CacheRecord) :
    Triple (fun w => w = w₀) (publishSidecarRecordsAtomically env sha256 records)
      (fun _ w => w = { w₀ with published := w₀.published ++ [records] })
      (fun _ w => (∃ state, w = w₀.withBridge { w₀.bridge with state := state }) ∨
        w = { w₀ with published := w₀.published ++ [records] }) := by
  apply triple_bind ((requireReady_spec w₀).mono (fun _ h => h) (fun _ _ h => h.1)
    fun _ _ h => .inl h.2)
  intro _
  apply triple_bind ((check_check _ (by decide)).to fun _ _ => .inl ⟨w₀.bridge.state, rfl⟩)
  intro _
  apply triple_bind (m := fun _ w =>
    w = { w₀ with published := w₀.published ++ [records] })
  · apply triple_modify
    rintro _ rfl
    rfl
  · intro _
    cases env.inserted with
    | some inserted => exact triple_pure fun _ h => h
    | none => exact triple_raise fun _ h => .inr h

end

end

end CacheBlend.BridgeStages
