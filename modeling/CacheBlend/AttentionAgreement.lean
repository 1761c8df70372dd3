import CacheBlend.SelectiveAttention
import CacheBlend.SessionAgreement

/-!
# Agreement of the attention bridge with the updater

Over the session of the recomputed rows the bridge leaves the memory of the
updater, and each attention reads the memory in which the layers up to its own
are updated and no later one. A receipt of the bridge stands for a session that
was fed every layer in order, whatever calls were made.
-/

set_option autoImplicit false

namespace CacheBlend.AttentionAgreement
open CacheBlend.ScatterSpans CacheBlend.SelectiveRows CacheBlend.SelectiveWrites
open CacheBlend.SelectiveUpdates CacheBlend.SelectiveCoverage
open CacheBlend.SelectiveAttention hiding applyLayer ensureActive terminal finish
open CacheBlend.SessionAgreement hiding Active Closed closed_or_active ensureActive_active perform
  performAll perform_closed performAll_closed perform_closes

/-! ## The session of the recomputed rows -/

section
variable {σ τ ψ ρ μ φ ο : Type}

def kvSession (ops : SelectiveCacheOps τ μ φ) :
    SelectiveLayerSession (SelectiveKvSession × μ) τ SelectiveUpdateErrorCode
      SelectiveUpdateReceipt where
  updateLayer := updateLayer ops
  finish := SelectiveUpdates.finish

abbrev KvOperation (τ μ ο : Type) : Type :=
  BridgeOperation (SelectiveKvSession × μ) τ SelectiveUpdateErrorCode ο

def reading (attend : AttentionArguments τ → μ → ο) :
    SelectiveAttentionCall (SelectiveKvSession × μ) τ SelectiveUpdateErrorCode ο :=
  fun arguments t => (.ok (attend arguments t.2), t)

/-- What the model passes to the layers beside the rows. -/
structure ModelLayers (τ μ ο : Type) where
  query : Fin gptOssNumLayers → τ
  attnMetadata : Fin gptOssNumLayers → τ
  sinks : Fin gptOssNumLayers → τ
  attend : Fin gptOssNumLayers → AttentionArguments τ → μ → ο

def ModelLayers.call (model : ModelLayers τ μ ο) (given : Fin gptOssNumLayers → LayerInputs τ)
    (i : Fin gptOssNumLayers) :
    LayerCall (SelectiveKvSession × μ) τ SelectiveUpdateErrorCode ο where
  layerIndex := i.val
  query := model.query i
  inputs := given i
  attnMetadata := model.attnMetadata i
  sinks := some (model.sinks i)
  attention := some (reading (model.attend i))

def ModelLayers.calls (model : ModelLayers τ μ ο) (given : Fin gptOssNumLayers → LayerInputs τ)
    (layers : List (Fin gptOssNumLayers)) : List (KvOperation τ μ ο) :=
  layers.map (fun i => .runLayer (model.call given i))

variable (ops : SelectiveCacheOps τ μ φ) (given : Fin gptOssNumLayers → LayerInputs τ)

def memoryAfter (layers : List (Fin gptOssNumLayers)) (t : SelectiveKvSession × μ) : μ :=
  (feedLayers ops given layers t).2.2

/-- The output of a layer: its attention in the memory in which the layers up to it are updated. -/
def ModelLayers.output (model : ModelLayers τ μ ο) (layers : List (Fin gptOssNumLayers))
    (i : Fin gptOssNumLayers) (t : SelectiveKvSession × μ) :
    Except SelectiveAttentionErrorCode (Returned ο SelectiveUpdateReceipt) :=
  .ok (.output (model.attend i ((model.call given i).arguments (model.sinks i))
    (memoryAfter ops given layers t)))

variable {ops given}

theorem feedLayers_cons_ok {i : Fin gptOssNumLayers} {rest : List (Fin gptOssNumLayers)}
    {t t' : SelectiveKvSession × μ} :
    feedLayers ops given (i::rest) t = (.ok ⟨⟩, t') ↔
      ∃ t₁, updateLayer ops i.val (given i) t = (.ok ⟨⟩, t₁) ∧
        feedLayers ops given rest t₁ = (.ok ⟨⟩, t') := by
  refine (Call.bind_ok_iff _ _ _ _ _).trans ⟨?_, ?_⟩
  · rintro ⟨⟨⟩, t₁, h, hrest⟩
    exact ⟨t₁, h, hrest⟩
  · rintro ⟨t₁, h, hrest⟩
    exact ⟨⟨⟩, t₁, h, hrest⟩

theorem memoryAfter_cons {i : Fin gptOssNumLayers} {t t₁ : SelectiveKvSession × μ}
    (h : updateLayer ops i.val (given i) t = (.ok ⟨⟩, t₁)) (rest : List (Fin gptOssNumLayers)) :
    memoryAfter ops given (i::rest) t = memoryAfter ops given rest t₁ := by
  have hfeed : feedLayers ops given (i::rest) t = feedLayers ops given rest t₁ :=
    Call.bind_run_ok _ h
  rw [memoryAfter, memoryAfter, hfeed]

theorem bridge_fed (model : ModelLayers τ μ ο) (layers : List (Fin gptOssNumLayers))
    (b : SelectiveAttentionBridge) (t t' : SelectiveKvSession × μ) (ha : Active b)
    (ho : layers.map Fin.val = List.range' b.nextLayer layers.length)
    (hf : feedLayers ops given layers t = (.ok ⟨⟩, t')) :
    ∃ results, performAll (kvSession ops) (model.calls given layers) (b, t) =
        (results, ({ b with nextLayer := b.nextLayer+layers.length }, t')) ∧
      results.length = layers.length ∧
      ∀ k i, layers[k]? = some i →
        results[k]? = some (model.output ops given (layers.take (k+1)) i t) := by
  induction layers generalizing b t with
  | nil =>
    cases hf
    exact ⟨[], rfl, rfl, fun k i h => by cases h⟩
  | cons i rest ih =>
    rcases feedLayers_cons_ok.mp hf with ⟨t₁, hu, hrest⟩
    rw [List.map_cons, List.length_cons, List.range'_succ, List.cons.injEq] at ho
    have hc : checkLayer b.nextLayer (model.call given i) =
        .ok (model.sinks i, reading (model.attend i)) :=
      (checkLayer_ok_iff _ _ _ _).mpr ⟨ho.1 ▸ i.isLt, congrArg Nat.cast ho.1, rfl, rfl⟩
    have hstep := perform_attended (kvSession ops) (s := t) ha hc hu rfl
    rcases ih { b with nextLayer := b.nextLayer+1 } t₁ ha ho.2 hrest with ⟨results, hrun, hl, hr⟩
    refine ⟨model.output ops given [i] i t :: results, ?_, congrArg Nat.succ hl, ?_⟩
    · refine (performAll_cons hstep hrun).trans ?_
      rw [ModelLayers.output, memoryAfter_cons hu, List.length_cons, Nat.add_comm rest.length,
        ← Nat.add_assoc]
      rfl
    · intro k j hk
      cases k with
      | zero =>
        cases hk
        rfl
      | succ k =>
        rw [List.getElem?_cons_succ, hr k j hk, ModelLayers.output, ModelLayers.output,
          List.take_succ_cons, memoryAfter_cons hu]

theorem feedLayers_append {layers later : List (Fin gptOssNumLayers)}
    {t t₁ t' : SelectiveKvSession × μ} (h : feedLayers ops given layers t = (.ok ⟨⟩, t₁))
    (hl : feedLayers ops given later t₁ = (.ok ⟨⟩, t')) :
    feedLayers ops given (layers ++ later) t = (.ok ⟨⟩, t') := by
  induction layers generalizing t with
  | nil =>
    cases h
    exact hl
  | cons i rest ih =>
    rcases feedLayers_cons_ok.mp h with ⟨t₂, hu, hrest⟩
    exact feedLayers_cons_ok.mpr ⟨t₂, hu, ih hrest⟩

theorem feedLayers_congr {given' : Fin gptOssNumLayers → LayerInputs τ}
    {layers : List (Fin gptOssNumLayers)} (h : ∀ i ∈ layers, given i = given' i)
    (t : SelectiveKvSession × μ) :
    feedLayers ops given layers t = feedLayers ops given' layers t := by
  induction layers generalizing t with
  | nil => rfl
  | cons i rest ih =>
    rw [List.forall_mem_cons] at h
    have hcons : ∀ g : Fin gptOssNumLayers → LayerInputs τ, feedLayers ops g (i::rest) t =
        (updateLayer ops i.val (g i) >>= fun _ => feedLayers ops g rest) t := fun _ => rfl
    rw [hcons, hcons, h.1]
    rcases hu : updateLayer ops i.val (given' i) t with ⟨e | ⟨⟩, t₁⟩
    · rw [Call.bind_run_error _ hu, Call.bind_run_error _ hu]
    · rw [Call.bind_run_ok _ hu, Call.bind_run_ok _ hu]
      exact ih h.2 t₁

theorem take_layers {n : ℕ} (h : n < gptOssNumLayers) :
    (List.finRange gptOssNumLayers).take (n+1) =
      (List.finRange gptOssNumLayers).take n ++ [⟨n, h⟩] := by
  rw [List.take_add_one, List.getElem?_eq_getElem (by simpa using h)]
  simp

theorem mem_take_layers {n : ℕ} {i : Fin gptOssNumLayers}
    (h : i ∈ (List.finRange gptOssNumLayers).take n) : i.val < n := by
  rcases List.mem_take_iff_getElem.mp h with ⟨k, hk, hi⟩
  rw [List.getElem_finRange] at hi
  have hval := congrArg Fin.val hi
  simp only [Fin.val_cast] at hval
  omega

/-- Every attention of the calls reads the memory only. -/
def OnlyReads (operations : List (KvOperation τ μ ο)) : Prop :=
  ∀ call attention, .runLayer call ∈ operations → call.attention = some attention →
    ∃ attend, attention = reading attend

/-- The session of an active bridge was fed the rows of the calls in order. -/
structure BridgeFed (ops : SelectiveCacheOps τ μ φ) (t₀ : SelectiveKvSession × μ)
    (done : List (KvOperation τ μ ο)) (given : Fin gptOssNumLayers → LayerInputs τ) (n : ℕ)
    (t : SelectiveKvSession × μ) : Prop where
  count : done.length = n
  fed : feedLayers ops given ((List.finRange gptOssNumLayers).take n) t₀ = (.ok ⟨⟩, t)
  called : ∀ i : Fin gptOssNumLayers, i.val < n →
    ∃ call, done[i.val]? = some (.runLayer call) ∧ call.inputs = given i

/-- The receipt of a run is that of a session fed the rows of the calls in order. -/
def EndsFed (ops : SelectiveCacheOps τ μ φ) (t₀ : SelectiveKvSession × μ)
    (operations : List (KvOperation τ μ ο)) (receipt : SelectiveUpdateReceipt)
    (t : SelectiveKvSession × μ) : Prop :=
  ∃ given, runSession ops given t₀ = (.ok receipt, t) ∧
    ∀ i : Fin gptOssNumLayers, ∃ call, operations[i.val]? = some (.runLayer call) ∧
      call.inputs = given i

theorem fed_step {t₀ t t' : SelectiveKvSession × μ} {done : List (KvOperation τ μ ο)} {n : ℕ}
    (h : BridgeFed ops t₀ done given n t) (hlt : n < gptOssNumLayers)
    (call : LayerCall (SelectiveKvSession × μ) τ SelectiveUpdateErrorCode ο)
    (hu : updateLayer ops n call.inputs t = (.ok ⟨⟩, t')) :
    ∃ given, BridgeFed ops t₀ (done ++ [.runLayer call]) given (n+1) t' := by
  refine ⟨Function.update given ⟨n, hlt⟩ call.inputs, ?_, ?_, ?_⟩
  · rw [List.length_append, h.count]
    rfl
  · rw [take_layers hlt]
    have hsame : ∀ i ∈ (List.finRange gptOssNumLayers).take n,
        given i = Function.update given ⟨n, hlt⟩ call.inputs i := by
      intro i hi
      have hne : i ≠ ⟨n, hlt⟩ := fun he => absurd (mem_take_layers hi) (by rw [he]; simp)
      rw [Function.update_of_ne hne]
    refine feedLayers_append ((feedLayers_congr hsame t₀).symm.trans h.fed) ?_
    refine feedLayers_cons_ok.mpr ⟨t', ?_, rfl⟩
    rw [Function.update_self]
    exact hu
  · intro i hi
    by_cases hn : i.val = n
    · refine ⟨call, ?_, ?_⟩
      · rw [hn, ← h.count, List.getElem?_concat_length]
      · rw [show i = ⟨n, hlt⟩ from Fin.ext hn, Function.update_self]
    · rcases h.called i (by omega) with ⟨earlier, he, hinputs⟩
      refine ⟨earlier, ?_, ?_⟩
      · rw [List.getElem?_append_left (by rw [h.count]; omega), he]
      · rw [Function.update_of_ne (fun h => hn (congrArg Fin.val h)), hinputs]

theorem no_receipt (session : SelectiveLayerSession σ τ ψ ρ) {b : SelectiveAttentionBridge}
    (hc : Closed b) (s : σ) (operations : List (BridgeOperation σ τ ψ ο)) (receipt : ρ) :
    .ok (.receipt receipt) ∉ (performAll session operations (b, s)).1 := by
  rw [performAll_closed session hc]
  intro h
  rcases List.mem_map.mp h with ⟨_, _, he⟩
  cases he

theorem receipt_fed (t₀ : SelectiveKvSession × μ) (operations : List (KvOperation τ μ ο))
    (hread : OnlyReads operations) (done : List (KvOperation τ μ ο)) (b : SelectiveAttentionBridge)
    (given : Fin gptOssNumLayers → LayerInputs τ) (t : SelectiveKvSession × μ)
    (hfed : BridgeFed ops t₀ done given b.nextLayer t) (receipt : SelectiveUpdateReceipt)
    (h : .ok (.receipt receipt) ∈ (performAll (kvSession ops) operations (b, t)).1) :
    EndsFed ops t₀ (done ++ operations) receipt
      (performAll (kvSession ops) operations (b, t)).2.2 := by
  induction operations generalizing done b given t with
  | nil => cases h
  | cons operation later ih =>
    rcases closed_or_active b with hc | ha
    · exact absurd h (no_receipt (kvSession ops) hc t _ receipt)
    rw [performAll] at h ⊢
    have hd := perform_does (kvSession ops) ha t operation
    generalize perform (kvSession ops) operation (b, t) = result at hd h
    rcases result with ⟨r, b', t'⟩
    dsimp only at hd h ⊢
    have hclosed (hr : r ≠ .ok (.receipt receipt)) (hb : Closed b') : False := by
      rcases List.mem_cons.mp h with he | he
      · exact hr he.symm
      · exact no_receipt (kvSession ops) hb t' later receipt he
    cases hd with
    | refused | unwritten | unattended | unfinished =>
      exact absurd (hclosed (fun he => by cases he) (Or.inl rfl)) id
    | attended call sinks attention output t₁ _ hc hu hattend =>
      rcases (checkLayer_ok_iff _ _ _ _).mp hc with ⟨hlt, hindex, _, hattention⟩
      rcases hread call attention List.mem_cons_self hattention with ⟨attend, rfl⟩
      cases hattend
      rw [hindex] at hu
      rcases fed_step hfed hlt call hu with ⟨given', hfed'⟩
      have hlater : .ok (.receipt receipt) ∈ (performAll (kvSession ops) later
          ({ b with nextLayer := b.nextLayer+1 }, t')).1 :=
        (List.mem_cons.mp h).resolve_left (fun he => by cases he)
      rw [List.append_cons]
      exact ih (fun c a hm => hread c a (List.mem_cons_of_mem _ hm)) _ _ given' t' hfed' hlater
    | finished receipt' _ hn hf =>
      have hr : receipt = receipt' := by
        rcases List.mem_cons.mp h with he | he
        · cases he
          rfl
        · exact absurd he (no_receipt (kvSession ops) (Or.inr rfl) t' later receipt)
      subst hr
      rw [performAll_closed (kvSession ops) (Or.inr rfl)]
      have hall := hfed.fed
      rw [hn, List.take_of_length_le (List.length_finRange).le] at hall
      refine ⟨given, (Call.bind_run_ok _ hall).trans hf, fun i => ?_⟩
      rcases hfed.called i (by rw [hn]; exact i.isLt) with ⟨call, hcall, hinputs⟩
      refine ⟨call, ?_, hinputs⟩
      rw [List.getElem?_append_left (by rw [hfed.count, hn]; exact i.isLt), hcall]

/-- For an accepted plan the bridge over the session agrees with the updater:
when the updater succeeds, the layers in order and the end return its receipt
and leave its memory, and every attention has read the memory in which the
layers up to its own are updated and no later one. Whatever calls are made
instead, a receipt is returned only when the session was fed all layers in
order, and the memory is then the one that this leaves. -/
theorem bridge_agrees (ops : SelectiveCacheOps τ μ φ) (hs : Synchronous ops)
    (spans : List LayerTokenScatterSpan) (rowPlan : ForwardRowPlan) (p : SelectiveWritePlan)
    (hp : planSelectiveKvWrites spans rowPlan = .ok p) (inputs : UpdateInputs τ)
    (given : Fin gptOssNumLayers → LayerInputs τ) (hg : ∀ i, inputs.layer i = .ok (given i))
    (model : ModelLayers τ μ ο) :
    (∀ m receipt m', update ops p inputs m = (.ok receipt, m') →
      ∃ results b s,
        performAll (kvSession ops)
          (model.calls given (List.finRange gptOssNumLayers) ++ [.finish])
          (.new, (SelectiveKvSession.new p, m)) =
            (results ++ [.ok (.receipt receipt)], (b, (s, m'))) ∧
        ∀ i : Fin gptOssNumLayers, results[i.val]? = some (model.output ops given
          ((List.finRange gptOssNumLayers).take (i.val+1)) i (SelectiveKvSession.new p, m))) ∧
    ∀ (operations : List (KvOperation τ μ ο)) m receipt, OnlyReads operations →
      .ok (.receipt receipt) ∈ (performAll (kvSession ops) operations
        (.new, (SelectiveKvSession.new p, m))).1 →
      EndsFed ops (SelectiveKvSession.new p, m) operations receipt
        (performAll (kvSession ops) operations (.new, (SelectiveKvSession.new p, m))).2.2 := by
  refine ⟨fun m receipt m' hu => ?_, fun operations m receipt hread h => ?_⟩
  · rcases update_ok hu hs with ⟨operations, hprepared, hc, rfl⟩
    rcases feed_agrees hg hs (List.finRange gptOssNumLayers) (SelectiveKvSession.new p)
      ⟨rfl, rfl⟩ (inOrder_all p) hprepared hc with ⟨s, hfeed, hfed⟩
    rcases bridge_fed model (List.finRange gptOssNumLayers) .new _ _ ⟨rfl, rfl⟩ (inOrder_all p)
      hfeed with ⟨results, hrun, _, houtputs⟩
    have hend := perform_finished (ο := ο) (kvSession ops)
      (b := ⟨0+(List.finRange gptOssNumLayers).length, false, false⟩) ⟨rfl, rfl⟩
      (by rw [List.length_finRange, Nat.zero_add]) (finish_fed hp hfed m')
    refine ⟨results, ⟨0+(List.finRange gptOssNumLayers).length, false, true⟩,
      { s with finished := true }, ?_, fun i => houtputs i.val i ?_⟩
    · exact performAll_append hrun (performAll_cons hend rfl)
    · rw [List.getElem?_eq_getElem (by simp)]
      simp
  · exact receipt_fed (SelectiveKvSession.new p, m) operations hread [] .new given _
      ⟨rfl, rfl, fun i hi => absurd hi (Nat.not_lt_zero _)⟩ receipt h

end

/-! ## Copies that are recorded -/

def countingLayers : ModelLayers ShapedTensor (List (ShapedTensor × ShapedTensor)) ℕ where
  query i := (i, [6, 64, 64])
  attnMetadata i := (i, [])
  sinks i := (i, [64])
  attend _ _ copies := copies.length

/-- The updater and the bridge make the same copies. -/
theorem twoBlock_bridged : ∃ p receipt copies results b s,
    planSelectiveKvWrites twoBlockSpans innerPlan = .ok p ∧
    update recordingOps p shapedUpdate [] = (.ok receipt, copies) ∧
    performAll (kvSession recordingOps)
      (countingLayers.calls shapedInputs (List.finRange gptOssNumLayers) ++ [.finish])
      (.new, (SelectiveKvSession.new p, [])) = (results ++ [.ok (.receipt receipt)],
        (b, (s, copies))) := by
  have hrun : (planSelectiveKvWrites twoBlockSpans innerPlan).toOption.map (fun p =>
      (updateLayers recordingOps p shapedUpdate []).1.toOption.isSome) = some true := by
    decide +kernel
  rcases Option.map_eq_some_iff.mp hrun with ⟨p, hp, hrun⟩
  rcases Option.isSome_iff_exists.mp hrun with ⟨receipt, hreceipt⟩
  have hupdate : update recordingOps p shapedUpdate [] =
      (.ok receipt, (updateLayers recordingOps p shapedUpdate []).2) :=
    (check_then_iff _ _ _ _ _ _).mpr ⟨⟨named_match _, named_match _, named_match _⟩,
      (check_then_iff _ _ _ _ _ _).mpr ⟨named_match _,
        Prod.ext (toOption_some hreceipt) rfl⟩⟩
  rcases (bridge_agrees recordingOps (fun _ _ => rfl) twoBlockSpans innerPlan p
    (toOption_some hp) shapedUpdate shapedInputs shaped_layer countingLayers).1 [] receipt _
    hupdate with ⟨results, b, s, h, _⟩
  exact ⟨p, receipt, _, results, b, s, toOption_some hp, hupdate, h⟩

end CacheBlend.AttentionAgreement
