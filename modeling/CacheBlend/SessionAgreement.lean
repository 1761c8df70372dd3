import CacheBlend.SelectiveUpdates

/-!
# Agreement of the session with the updater

Preparation reads no rows, so the session prepares every layer as the updater
does, and its copies are the copies of the updater in the same order. Its
counters are sums over the layers, which are the totals of the plan. A failed
or finished session raises on every call and copies nothing. The operations
are arbitrary, so the memory may also record every copy that is made.
-/

set_option autoImplicit false

namespace CacheBlend.SessionAgreement
open CacheBlend.ScatterSpans CacheBlend.SelectiveRows CacheBlend.SelectiveWrites
open CacheBlend.SelectiveCoverage CacheBlend.SelectiveUpdates

variable {τ μ φ : Type}

/-- `synchronize` has no effect. -/
def Synchronous (ops : SelectiveCacheOps τ μ φ) : Prop :=
  ∀ tensor m, ops.synchronize tensor m = (.ok ⟨⟩, m)

def feedLayers (ops : SelectiveCacheOps τ μ φ) (given : Fin gptOssNumLayers → LayerInputs τ)
    (layers : List (Fin gptOssNumLayers)) : SessionCall μ PUnit :=
  layers.forM (fun layerIndex => updateLayer ops layerIndex.val (given layerIndex))

def runSession (ops : SelectiveCacheOps τ μ φ) (given : Fin gptOssNumLayers → LayerInputs τ) :
    SessionCall μ SelectiveUpdateReceipt := do
  feedLayers ops given (List.finRange gptOssNumLayers)
  finish

inductive SessionOperation (τ : Type) where
  | updateLayer (layerIndex : ℤ) (inputs : LayerInputs τ)
  | finish

def perform (ops : SelectiveCacheOps τ μ φ) :
    SessionOperation τ → SessionCall μ (Option SelectiveUpdateReceipt)
  | .updateLayer layerIndex inputs => do
    updateLayer ops layerIndex inputs
    pure none
  | .finish => do
    let receipt ← finish
    pure (some receipt)

/-- The results of calls one after the other, whether they return or raise. -/
def performAll (ops : SelectiveCacheOps τ μ φ) :
    List (SessionOperation τ) → SelectiveKvSession × μ →
      List (Except SelectiveUpdateErrorCode (Option SelectiveUpdateReceipt)) ×
        (SelectiveKvSession × μ)
  | [], t => ([], t)
  | operation::later, t =>
    ((perform ops operation t).1 :: (performAll ops later (perform ops operation t).2).1,
      (performAll ops later (perform ops operation t).2).2)

/-! ## Preparation and copies -/

theorem bind_last {ε α β : Type} {x : Except ε α} {f : α → Except ε β} {b : β}
    (h : x >>= f = .ok b) : ∃ a, f a = .ok b := by
  obtain ⟨a, _, h⟩ := (checked_ok_iff _ _ _).mp h
  exact ⟨a, h⟩

section
variable {ops : SelectiveCacheOps τ μ φ} {p : SelectiveWritePlan}

theorem prepareLayer_counts {layerIndex : Fin gptOssNumLayers} {inputs : LayerInputs τ}
    {dtype device : Option String} {layer : PreparedLayer τ}
    (h : prepareLayer ops p layerIndex inputs dtype device = .ok layer) :
    layer.recomputedTokenRows = (p.rowPlan.layer layerIndex).recomputeTokens ∧
      layer.writeSpanCount = (p.spansForLayer layerIndex).length := by
  unfold prepareLayer at h
  iterate 19 obtain ⟨_, h⟩ := bind_last h
  cases h
  exact ⟨rfl, rfl⟩

theorem copyAll_append_ok (first rest : List (PreparedUpdate τ)) (m m' : μ) :
    copyAll ops (first ++ rest) m = (.ok ⟨⟩, m') ↔
      ∃ m₁, copyAll ops first m = (.ok ⟨⟩, m₁) ∧ copyAll ops rest m₁ = (.ok ⟨⟩, m') := by
  induction first generalizing m with
  | nil =>
    constructor
    · exact fun h => ⟨m, rfl, h⟩
    · rintro ⟨_, h, hr⟩
      cases h
      exact hr
  | cons operation first ih =>
    show (ops.copy operation.destination operation.source >>= fun _ =>
      copyAll ops (first ++ rest)) m = _ ↔ ∃ m₁, (ops.copy operation.destination operation.source
        >>= fun _ => copyAll ops first) m = _ ∧ _
    simp only [Call.bind_ok_iff, ih]
    constructor
    · rintro ⟨u, m₂, hc, m₁, hf, hr⟩
      exact ⟨m₁, ⟨u, m₂, hc, hf⟩, hr⟩
    · rintro ⟨m₁, ⟨u, m₂, hc, hf⟩, hr⟩
      exact ⟨u, m₂, hc, m₁, hf, hr⟩

theorem mutate_run (hs : Synchronous ops) (operations : List (PreparedUpdate τ)) (cache : Option τ)
    (m : μ) : mutate ops operations cache m = copyAll ops operations m := by
  unfold mutate
  rw [Call.bind_run]
  rcases copyAll ops operations m with ⟨e | ⟨⟩, m'⟩
  · rfl
  · cases operations with
    | nil => rfl
    | cons operation operations =>
      cases cache with
      | none => rfl
      | some tensor => exact hs tensor m'

theorem prepareLayers_cons {inputs : UpdateInputs τ} {given : LayerInputs τ}
    {layerIndex : Fin gptOssNumLayers} {rest : List (Fin gptOssNumLayers)}
    (hg : inputs.layer layerIndex = .ok given) (dtype device : Option String) :
    prepareLayers ops p inputs (layerIndex::rest) dtype device =
      (prepareLayer ops p layerIndex given dtype device >>= fun layer =>
        prepareLayers ops p inputs rest (if dtype = none then some layer.dtype else dtype)
          (if dtype = none then some layer.device else device) >>= fun prepared =>
            .ok (layer.operations ++ prepared)) := by
  rw [prepareLayers, hg]
  rfl

theorem prepareLayers_append_error {inputs : UpdateInputs τ} {fault : UpdateFault}
    (layers later : List (Fin gptOssNumLayers)) (dtype device : Option String)
    (h : prepareLayers ops p inputs layers dtype device = .error fault) :
    prepareLayers ops p inputs (layers ++ later) dtype device = .error fault := by
  induction layers generalizing dtype device with
  | nil => cases h
  | cons layerIndex layers ih =>
    refine (checked_error_iff _ _ _).mpr ?_
    obtain h | ⟨given, hg, h⟩ := (checked_error_iff _ _ _).mp h
    · exact Or.inl h
    refine Or.inr ⟨given, hg, (checked_error_iff _ _ _).mpr ?_⟩
    obtain h | ⟨layer, hl, h⟩ := (checked_error_iff _ _ _).mp h
    · exact Or.inl h
    refine Or.inr ⟨layer, hl, (checked_error_iff _ _ _).mpr (Or.inl ?_)⟩
    obtain h | ⟨prepared, _, h⟩ := (checked_error_iff _ _ _).mp h
    · exact ih _ _ h
    · cases h

end

/-! ## A session that is fed in order -/

def Active (s : SelectiveKvSession) : Prop := s.failed = false ∧ s.finished = false

theorem ensureActive_active {s : SelectiveKvSession} (h : Active s) (m : μ) :
    ensureActive (s, m) = (.ok ⟨⟩, (s, m)) :=
  if_neg (by simp [h.1, h.2])

theorem updateLayer_next (ops : SelectiveCacheOps τ μ φ) {s : SelectiveKvSession} (h : Active s)
    {layerIndex : Fin gptOssNumLayers} (hn : s.nextLayer = layerIndex) (inputs : LayerInputs τ)
    (m : μ) :
    updateLayer ops layerIndex.val inputs (s, m) = applyLayer ops layerIndex inputs (s, m) := by
  have hlt := layerIndex.isLt
  unfold updateLayer
  refine (Call.bind_run_ok _ (ensureActive_active h m)).trans ?_
  refine (dif_pos ⟨by omega, by omega⟩).trans ?_
  exact (if_neg (by dsimp only; omega)).trans (if_neg (by dsimp only; omega))

/-- The state of a session after it was fed some layers. -/
structure Fed (s : SelectiveKvSession) (layers : List (Fin gptOssNumLayers))
    (s' : SelectiveKvSession) : Prop where
  active : Active s'
  plan : s'.plan = s.plan
  next : s'.nextLayer = s.nextLayer+layers.length
  recomputed : s'.recomputedTokenRows = s.recomputedTokenRows+
    (layers.map (fun i => (s.plan.rowPlan.layer i).recomputeTokens)).sum
  spans : s'.writeSpanCount = s.writeSpanCount+
    (layers.map (fun i => (s.plan.spansForLayer i.val).length)).sum
  keys : s'.copiedKeyRows = s.copiedKeyRows+
    (layers.map (fun i => (s.plan.rowPlan.layer i).recomputeTokens)).sum
  values : s'.copiedValueRows = s.copiedValueRows+
    (layers.map (fun i => (s.plan.rowPlan.layer i).recomputeTokens)).sum

/-- The layers follow each other from the next one of the session. -/
def InOrder (s : SelectiveKvSession) (layers : List (Fin gptOssNumLayers)) : Prop :=
  layers.map Fin.val = List.range' s.nextLayer layers.length

theorem inOrder_cons {s : SelectiveKvSession} (s' : SelectiveKvSession)
    {layerIndex : Fin gptOssNumLayers} {rest : List (Fin gptOssNumLayers)}
    (h : InOrder s (layerIndex::rest)) (hn : s'.nextLayer = s.nextLayer+1) :
    s.nextLayer = layerIndex ∧ InOrder s' rest := by
  unfold InOrder at h ⊢
  rw [List.map_cons, List.length_cons, List.range'_succ, List.cons.injEq] at h
  rw [hn]
  exact ⟨h.1.symm, h.2⟩

section
variable {ops : SelectiveCacheOps τ μ φ} {inputs : UpdateInputs τ}
  {given : Fin gptOssNumLayers → LayerInputs τ} (hg : ∀ i, inputs.layer i = .ok (given i))
include hg

/-- A session makes the copies that the updater prepared. -/
theorem feed_agrees (hs : Synchronous ops) (layers : List (Fin gptOssNumLayers))
    (s : SelectiveKvSession) {operations : List (PreparedUpdate τ)} {m m' : μ} (ha : Active s)
    (ho : InOrder s layers)
    (hp : prepareLayers ops s.plan inputs layers s.sessionDtype s.sessionDevice = .ok operations)
    (hc : copyAll ops operations m = (.ok ⟨⟩, m')) :
    ∃ s', feedLayers ops given layers (s, m) = (.ok ⟨⟩, (s', m')) ∧ Fed s layers s' := by
  induction layers generalizing s operations m with
  | nil =>
    cases hp
    cases hc
    exact ⟨s, rfl, ha, rfl, rfl, rfl, rfl, rfl, rfl⟩
  | cons layerIndex rest ih =>
    rw [prepareLayers_cons (hg layerIndex)] at hp
    obtain ⟨layer, hl, hp⟩ := (checked_ok_iff _ _ _).mp hp
    obtain ⟨prepared, hrest, hp⟩ := (checked_ok_iff _ _ _).mp hp
    cases hp
    obtain ⟨m₁, hfirst, hc⟩ := (copyAll_append_ok _ _ _ _).mp hc
    obtain ⟨hnext, ho⟩ := inOrder_cons (s.advance layer) ho rfl
    have hstep : updateLayer ops layerIndex.val (given layerIndex) (s, m) =
        (.ok ⟨⟩, (s.advance layer, m₁)) := by
      rw [updateLayer_next ops ha hnext]
      unfold applyLayer
      rw [hl]
      dsimp only
      rw [mutate_run hs, hfirst]
    obtain ⟨s', hfeed, hf⟩ := ih (s.advance layer) ha ho hrest hc
    obtain ⟨hrows, hspans⟩ := prepareLayer_counts hl
    refine ⟨s', (Call.bind_run_ok _ hstep).trans hfeed, hf.active, hf.plan, ?_, ?_, ?_, ?_, ?_⟩
    · rw [hf.next, List.length_cons]
      show s.nextLayer+1+rest.length = _
      omega
    · rw [hf.recomputed, List.map_cons, List.sum_cons, ← hrows]
      exact Nat.add_assoc _ _ _
    · rw [hf.spans, List.map_cons, List.sum_cons, ← hspans]
      exact Nat.add_assoc _ _ _
    · rw [hf.keys, List.map_cons, List.sum_cons, ← hrows]
      exact Nat.add_assoc _ _ _
    · rw [hf.values, List.map_cons, List.sum_cons, ← hrows]
      exact Nat.add_assoc _ _ _

theorem feed_raises (layers : List (Fin gptOssNumLayers)) (s : SelectiveKvSession)
    {fault : UpdateFault} (ha : Active s) (ho : InOrder s layers)
    (hp : prepareLayers ops s.plan inputs layers s.sessionDtype s.sessionDevice = .error fault)
    (m : μ) : ∃ e t, feedLayers ops given layers (s, m) = (.error e, t) := by
  induction layers generalizing s m with
  | nil => cases hp
  | cons layerIndex rest ih =>
    rw [prepareLayers_cons (hg layerIndex)] at hp
    obtain ⟨hnext, _⟩ := inOrder_cons { s with nextLayer := s.nextLayer+1 } ho rfl
    have hstep := updateLayer_next ops ha hnext (given layerIndex) m
    unfold applyLayer at hstep
    obtain hl | ⟨layer, hl, hp⟩ := (checked_error_iff _ _ _).mp hp
    · rw [hl] at hstep
      exact ⟨_, _, Call.bind_run_error _ hstep⟩
    rw [hl] at hstep
    dsimp only at hstep
    rcases hm : mutate ops layer.operations (some (given layerIndex).cache) m with ⟨e | u, m₁⟩
    · rw [hm] at hstep
      exact ⟨_, _, Call.bind_run_error _ hstep⟩
    · rw [hm] at hstep
      obtain hp | ⟨_, _, hp⟩ := (checked_error_iff _ _ _).mp hp
      · obtain ⟨_, ho⟩ := inOrder_cons (s.advance layer) ho rfl
        obtain ⟨e, t, hfeed⟩ := ih (s.advance layer) ha ho hp m₁
        exact ⟨e, t, (Call.bind_run_ok _ hstep).trans hfeed⟩
      · cases hp

end

/-! ## Totals and receipts -/

theorem recomputeTokens_layers (p : ForwardRowPlan) :
    ((List.finRange gptOssNumLayers).map (fun i => (p.layer i).recomputeTokens)).sum =
      p.recomputeTokens := by
  rw [ForwardRowPlan.recomputeTokens, ← p.map_layer, List.map_map]
  rfl

theorem spans_layers {spans : List LayerTokenScatterSpan} {rowPlan : ForwardRowPlan}
    {p : SelectiveWritePlan} (h : planSelectiveKvWrites spans rowPlan = .ok p) :
    ((List.finRange gptOssNumLayers).map (fun i => (p.spansForLayer i.val).length)).sum =
      p.recomputeLayerSpans.length := by
  have ha := plan_accepted h
  rw [ha.recompute, List.length_flatMap, ← rowPlan.map_layer, List.map_map]
  refine congrArg List.sum (List.map_congr_left fun i _ => ?_)
  rw [← rowPlan.layer_index i, spansForLayer_eq ha (rowPlan.layer_mem i)]
  rfl

theorem inOrder_all (p : SelectiveWritePlan) :
    InOrder (SelectiveKvSession.new p) (List.finRange gptOssNumLayers) := by
  unfold InOrder
  rw [List.length_finRange]
  show _ = List.range' 0 gptOssNumLayers
  rw [← List.range_eq_range', List.map_coe_finRange_eq_range]

theorem inOrder_first {p : SelectiveWritePlan} {layers later : List (Fin gptOssNumLayers)}
    (h : layers ++ later = List.finRange gptOssNumLayers) :
    InOrder (SelectiveKvSession.new p) layers := by
  have hall := inOrder_all p
  unfold InOrder at hall ⊢
  rw [← h, List.map_append, List.length_append, ← List.range'_append_1] at hall
  exact (List.append_inj hall (by simp)).1

section
variable {ops : SelectiveCacheOps τ μ φ} {p : SelectiveWritePlan} {inputs : UpdateInputs τ}

theorem update_ok {m m' : μ} {receipt : SelectiveUpdateReceipt}
    (h : update ops p inputs m = (.ok receipt, m')) (hs : Synchronous ops) :
    ∃ operations,
      prepareLayers ops p inputs (List.finRange gptOssNumLayers) none none = .ok operations ∧
      copyAll ops operations m = (.ok ⟨⟩, m') ∧
      receipt = ⟨p.recomputeTokens, p.cachedTokens, p.recomputeLayerSpans.length,
        p.recomputeTokens, p.recomputeTokens, false⟩ := by
  unfold update at h
  obtain ⟨_, h⟩ := (check_then_iff _ _ _ _ _ _).mp h
  obtain ⟨_, h⟩ := (check_then_iff _ _ _ _ _ _).mp h
  obtain ⟨operations, hp, h⟩ := (Call.lift_bind_iff _ _ _ _ _).mp h
  obtain ⟨⟨⟩, m₁, hm, h⟩ := (Call.within_bind_iff _ _ _ _ _ _ _ _).mp h
  obtain ⟨rfl, rfl⟩ := (Call.pure_ok_iff _ _ _ _).mp h
  rw [mutate_run hs] at hm
  exact ⟨operations, hp, hm, rfl⟩

theorem update_unprepared {fault : UpdateFault}
    (h : prepareLayers ops p inputs (List.finRange gptOssNumLayers) none none = .error fault)
    (m : μ) : ∃ e, update ops p inputs m = (.error e, m) := by
  refine Call.refuses_lift_bind fun _ _ => Call.refuses_lift_bind fun _ _ => ?_
  refine Call.refuses_lift_bind fun operations hp => ?_
  rw [h] at hp
  cases hp

end

theorem finish_fed {spans : List LayerTokenScatterSpan} {rowPlan : ForwardRowPlan}
    {p : SelectiveWritePlan} (h : planSelectiveKvWrites spans rowPlan = .ok p)
    {s : SelectiveKvSession}
    (hf : Fed (SelectiveKvSession.new p) (List.finRange gptOssNumLayers) s) (m : μ) :
    finish (s, m) = (.ok ⟨p.recomputeTokens, p.cachedTokens, p.recomputeLayerSpans.length,
      p.recomputeTokens, p.recomputeTokens, false⟩, ({ s with finished := true }, m)) := by
  have hnext : s.nextLayer = gptOssNumLayers := by
    rw [hf.next, List.length_finRange]
    exact Nat.zero_add _
  have hrows : s.recomputedTokenRows = p.recomputeTokens :=
    hf.recomputed.trans ((Nat.zero_add _).trans (recomputeTokens_layers p.rowPlan))
  have hkeys : s.copiedKeyRows = p.recomputeTokens :=
    hf.keys.trans ((Nat.zero_add _).trans (recomputeTokens_layers p.rowPlan))
  have hvalues : s.copiedValueRows = p.recomputeTokens :=
    hf.values.trans ((Nat.zero_add _).trans (recomputeTokens_layers p.rowPlan))
  have hspans : s.writeSpanCount = p.recomputeLayerSpans.length :=
    hf.spans.trans ((Nat.zero_add _).trans (spans_layers h))
  refine (Call.bind_run_ok _ (ensureActive_active hf.active m)).trans ?_
  refine (if_neg (not_not.mpr hnext)).trans ?_
  dsimp only
  rw [hrows, hkeys, hvalues, hspans, hf.plan]
  rfl

/-! ## A closed session -/

def Closed (s : SelectiveKvSession) : Prop := s.failed = true ∨ s.finished = true

theorem perform_closed (ops : SelectiveCacheOps τ μ φ) {s : SelectiveKvSession} (h : Closed s)
    (m : μ) (operation : SessionOperation τ) :
    perform ops operation (s, m) = (.error .sessionInvalidState, (s, m)) := by
  have hactive : (ensureActive : SessionCall μ PUnit) (s, m) =
      (.error .sessionInvalidState, (s, m)) := if_pos h
  cases operation with
  | updateLayer layerIndex inputs =>
    have hlayer : updateLayer ops layerIndex inputs (s, m) =
        (.error .sessionInvalidState, (s, m)) := Call.bind_run_error _ hactive
    exact Call.bind_run_error _ hlayer
  | finish =>
    have hfinish : (finish : SessionCall μ SelectiveUpdateReceipt) (s, m) =
        (.error .sessionInvalidState, (s, m)) := Call.bind_run_error _ hactive
    exact Call.bind_run_error _ hfinish

theorem performAll_closed (ops : SelectiveCacheOps τ μ φ) {s : SelectiveKvSession} (h : Closed s)
    (m : μ) (later : List (SessionOperation τ)) :
    performAll ops later (s, m) = (later.map (fun _ => .error .sessionInvalidState), (s, m)) := by
  induction later with
  | nil => rfl
  | cons operation later ih =>
    rw [performAll, perform_closed ops h, ih]
    rfl

theorem closed_or_active (s : SelectiveKvSession) : Closed s ∨ Active s := by
  unfold Closed Active
  cases s.failed <;> cases s.finished <;> simp

theorem updateLayer_cases (ops : SelectiveCacheOps τ μ φ) {s : SelectiveKvSession} (h : Active s)
    (layerIndex : ℤ) (inputs : LayerInputs τ) (m : μ) :
    (∃ code, updateLayer ops layerIndex inputs (s, m) =
      (.error code, ({ s with failed := true }, m))) ∨
    ∃ i : Fin gptOssNumLayers, layerIndex = s.nextLayer ∧
      updateLayer ops layerIndex inputs (s, m) = applyLayer ops i inputs (s, m) := by
  have hrun := Call.bind_run_ok (ε := SelectiveUpdateErrorCode) (fun _ t =>
    if h : 0 ≤ layerIndex ∧ layerIndex < gptOssNumLayers then
      if layerIndex < t.1.nextLayer then terminal .sessionDuplicateLayer t
      else if layerIndex ≠ t.1.nextLayer then terminal .sessionLayerOrderMismatch t
      else applyLayer ops ⟨layerIndex.toNat, by omega⟩ inputs t
    else terminal .invalidPlan t) (ensureActive_active h m)
  have hupdate : updateLayer ops layerIndex inputs (s, m) = _ := hrun
  rw [hupdate]
  dsimp only
  split_ifs with hrange hbefore horder
  · exact Or.inl ⟨_, rfl⟩
  · exact Or.inl ⟨_, rfl⟩
  · exact Or.inr ⟨_, not_not.mp horder, rfl⟩
  · exact Or.inl ⟨_, rfl⟩

theorem applyLayer_error (ops : SelectiveCacheOps τ μ φ) {layerIndex : Fin gptOssNumLayers}
    {inputs : LayerInputs τ} {t t' : SelectiveKvSession × μ} {e : SelectiveUpdateErrorCode}
    (h : applyLayer ops layerIndex inputs t = (.error e, t')) : Closed t'.1 := by
  unfold applyLayer at h
  split at h
  · cases h
    exact Or.inl rfl
  · split at h <;> cases h
    exact Or.inl rfl

theorem perform_closes (ops : SelectiveCacheOps τ μ φ) (operation : SessionOperation τ)
    (t : SelectiveKvSession × μ)
    (h : (∃ e, (perform ops operation t).1 = .error e) ∨ operation = .finish) :
    Closed (perform ops operation t).2.1 := by
  obtain ⟨s, m⟩ := t
  obtain hc | ha := closed_or_active s
  · rw [perform_closed ops hc]
    exact hc
  cases operation with
  | updateLayer layerIndex inputs =>
    obtain ⟨e, he⟩ : ∃ e, (perform ops (.updateLayer layerIndex inputs) (s, m)).1 = .error e :=
      h.elim id fun h => nomatch h
    rcases hu : updateLayer ops layerIndex inputs (s, m) with ⟨code | ⟨⟩, t'⟩
    · have hp : perform ops (.updateLayer layerIndex inputs) (s, m) = (.error code, t') :=
        Call.bind_run_error _ hu
      rw [hp]
      obtain ⟨_, hcase⟩ | ⟨i, _, hcase⟩ := updateLayer_cases ops ha layerIndex inputs m
      · rw [hcase] at hu
        cases hu
        exact Or.inl rfl
      · exact applyLayer_error ops (hcase.symm.trans hu)
    · have hp : perform ops (.updateLayer layerIndex inputs) (s, m) = (.ok none, t') :=
        Call.bind_run_ok _ hu
      rw [hp] at he
      cases he
  | finish =>
    have hfinish : (finish : SessionCall μ SelectiveUpdateReceipt) (s, m) = _ :=
      Call.bind_run_ok _ (ensureActive_active ha m)
    by_cases hn : s.nextLayer ≠ gptOssNumLayers
    · have hp : perform ops .finish (s, m) = (.error .sessionIncomplete,
          ({ s with failed := true }, m)) :=
        Call.bind_run_error _ (hfinish.trans (if_pos hn))
      rw [hp]
      exact Or.inl rfl
    · have hp := Call.bind_run_ok (fun receipt => (pure (some receipt) :
        SessionCall μ (Option SelectiveUpdateReceipt))) (hfinish.trans (if_neg hn))
      have hp : (perform ops .finish (s, m)).2 = ({ s with finished := true }, m) :=
        congrArg Prod.snd hp
      rw [hp]
      exact Or.inr rfl

theorem outOfOrder_raises (ops : SelectiveCacheOps τ μ φ) (t : SelectiveKvSession × μ)
    (layerIndex : ℤ) (inputs : LayerInputs τ) (h : layerIndex ≠ t.1.nextLayer) :
    ∃ e s, updateLayer ops layerIndex inputs t = (.error e, (s, t.2)) := by
  obtain ⟨s, m⟩ := t
  obtain hc | ha := closed_or_active s
  · exact ⟨_, s, Call.bind_run_error _ (if_pos hc)⟩
  obtain ⟨code, hcase⟩ | ⟨_, hn, _⟩ := updateLayer_cases ops ha layerIndex inputs m
  · exact ⟨code, _, hcase⟩
  · exact absurd hn h

/-- For an accepted plan and the same inputs: when the updater succeeds, the
session that is fed all layers in order finishes with the same memory and the
same receipt. When the preparation of the updater fails in some first layers,
the updater leaves the memory as it was and the session has raised by then. A
layer out of its turn copies nothing, and after a failure or a finish every
further call raises and copies nothing. -/
theorem session_agrees (ops : SelectiveCacheOps τ μ φ) (hs : Synchronous ops)
    (spans : List LayerTokenScatterSpan) (rowPlan : ForwardRowPlan) (p : SelectiveWritePlan)
    (hp : planSelectiveKvWrites spans rowPlan = .ok p) (inputs : UpdateInputs τ)
    (given : Fin gptOssNumLayers → LayerInputs τ) (hg : ∀ i, inputs.layer i = .ok (given i)) :
    (∀ m receipt m', update ops p inputs m = (.ok receipt, m') →
      ∃ s, runSession ops given (SelectiveKvSession.new p, m) = (.ok receipt, (s, m'))) ∧
    (∀ layers later fault, layers ++ later = List.finRange gptOssNumLayers →
      prepareLayers ops p inputs layers none none = .error fault →
        ∀ m, (∃ e, update ops p inputs m = (.error e, m)) ∧
          ∃ e t, feedLayers ops given layers (SelectiveKvSession.new p, m) = (.error e, t)) ∧
    (∀ t layerIndex layerInputs, layerIndex ≠ (t.1.nextLayer : ℤ) →
      ∃ e s, updateLayer ops layerIndex layerInputs t = (.error e, (s, t.2))) ∧
    ∀ t operation, (∃ e, (perform ops operation t).1 = .error e) ∨ operation = .finish →
      ∀ later, performAll ops later (perform ops operation t).2 =
        (later.map (fun _ => .error .sessionInvalidState), (perform ops operation t).2) := by
  have hactive : Active (SelectiveKvSession.new p) := ⟨rfl, rfl⟩
  refine ⟨fun m receipt m' hu => ?_, fun layers later fault hl hf m => ⟨?_, ?_⟩,
    outOfOrder_raises ops, fun t operation ht later => ?_⟩
  · obtain ⟨operations, hprepared, hc, rfl⟩ := update_ok hu hs
    obtain ⟨s, hfeed, hfed⟩ := feed_agrees hg hs (List.finRange gptOssNumLayers)
      (SelectiveKvSession.new p) hactive (inOrder_all p) hprepared hc
    exact ⟨_, (Call.bind_run_ok _ hfeed).trans (finish_fed hp hfed m')⟩
  · have hunprepared := prepareLayers_append_error layers later none none hf
    rw [hl] at hunprepared
    exact update_unprepared hunprepared m
  · exact feed_raises hg layers (SelectiveKvSession.new p) hactive (inOrder_first hl) hf m
  · exact performAll_closed ops (perform_closes ops operation t ht) _ later

/-! ## A memory that records copies -/

abbrev ShapedTensor := ℕ × List ℤ

def recordingOps : SelectiveCacheOps ShapedTensor (List (ShapedTensor × ShapedTensor)) Unit where
  shape tensor := .ok tensor.2
  dtypeName _ := .ok "torch.bfloat16"
  deviceName _ := .ok "cuda:0"
  promptRows tensor _ count := .ok (tensor.1, [count, 8, 64])
  pagedRows tensor _ _ _ count := .ok (tensor.1, [count, 8, 64])
  copy destination source := Call.modify (fun copies => copies ++ [(destination, source)])
  synchronize _ := pure ⟨⟩

def shapedInputs (layerIndex : Fin gptOssNumLayers) : LayerInputs ShapedTensor where
  key := (layerIndex, [6, 8, 64])
  value := (layerIndex, [6, 8, 64])
  cache := (layerIndex, [10, 2, 4, 8, 64])
  slotMapping := [36, 37, 38, 39, 8, 9]

theorem expectedNames_nodup : expectedNames.Nodup := by decide +kernel

theorem named_keys {ν : Type} (f : Fin gptOssNumLayers → ν) :
    ((List.finRange gptOssNumLayers).map (fun i => (layerName i.val, f i))).map Prod.fst =
      expectedNames := by
  unfold expectedNames
  rw [← List.map_coe_finRange_eq_range, List.map_map, List.map_map]
  rfl

def namedEntries {ν : Type} (f : Fin gptOssNumLayers → ν) : Dict String ν :=
  ⟨(List.finRange gptOssNumLayers).map (fun i => (layerName i.val, f i)),
    (named_keys f).symm ▸ expectedNames_nodup⟩

theorem named_match {ν : Type} (f : Fin gptOssNumLayers → ν) : NamesMatch (namedEntries f) := by
  have h : (namedEntries f).keys = expectedNames := named_keys f
  unfold NamesMatch
  rw [h]
  exact ⟨List.Subset.refl _, List.Subset.refl _⟩

theorem named_entry {ν : Type} (f : Fin gptOssNumLayers → ν) (i : Fin gptOssNumLayers) :
    entry (namedEntries f) (layerName i.val) = .ok (f i) := by
  have h : (namedEntries f).get? (layerName i.val) = some (f i) :=
    (Dict.get?_iff _ _ _).mpr (List.mem_map_of_mem (List.mem_finRange i))
  unfold entry
  rw [h]

def shapedUpdate : UpdateInputs ShapedTensor where
  keyByLayer := namedEntries (fun i => (shapedInputs i).key)
  valueByLayer := namedEntries (fun i => (shapedInputs i).value)
  pagedCaches := namedEntries (fun i => (shapedInputs i).cache)
  slotMappingByLayer := namedEntries (fun i => (shapedInputs i).slotMapping)

theorem shaped_layer (i : Fin gptOssNumLayers) : shapedUpdate.layer i = .ok (shapedInputs i) := by
  unfold UpdateInputs.layer shapedUpdate
  rw [named_entry, named_entry, named_entry, named_entry]
  rfl

/-- Updater and session copy the rows of three spans for each layer. -/
theorem twoBlock_agrees : ∃ p receipt copies s,
    planSelectiveKvWrites twoBlockSpans innerPlan = .ok p ∧
    update recordingOps p shapedUpdate [] = (.ok receipt, copies) ∧ copies.length = 144 ∧
    runSession recordingOps shapedInputs (SelectiveKvSession.new p, []) =
      (.ok receipt, (s, copies)) := by
  have hrun : (planSelectiveKvWrites twoBlockSpans innerPlan).toOption.map (fun p =>
      Prod.map (fun r => r.toOption.isSome) List.length
        (updateLayers recordingOps p shapedUpdate [])) = some (true, 144) := by
    decide +kernel
  obtain ⟨p, hp, hrun⟩ := Option.map_eq_some_iff.mp hrun
  generalize hu : updateLayers recordingOps p shapedUpdate [] = result at hrun
  obtain ⟨hok, hlength⟩ := Prod.mk.inj hrun
  obtain ⟨receipt, hreceipt⟩ := Option.isSome_iff_exists.mp hok
  have hupdate : update recordingOps p shapedUpdate [] = (.ok receipt, result.2) :=
    (check_then_iff _ _ _ _ _ _).mpr ⟨⟨named_match _, named_match _, named_match _⟩,
      (check_then_iff _ _ _ _ _ _).mpr ⟨named_match _,
        hu.trans (Prod.ext (toOption_some hreceipt) rfl)⟩⟩
  obtain ⟨s, hsession⟩ := (session_agrees recordingOps (fun _ _ => rfl) twoBlockSpans innerPlan p
    (toOption_some hp) shapedUpdate shapedInputs shaped_layer).1 [] receipt _ hupdate
  exact ⟨p, receipt, _, s, toOption_some hp, hupdate, hlength, hsession⟩

end CacheBlend.SessionAgreement
