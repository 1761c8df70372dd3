import CacheBlend.TransferProbe

/-!
# Preimages of the probe

The preimage of a digest determines the rows it was taken of: each view is
framed by its shape, its dtype and its length. With the preimage of its
corrected source, a layer after the load holds the staged rows of its spans.
-/

set_option autoImplicit false

namespace CacheBlend.ProbeFrames
open CacheBlend.PlannerModels CacheBlend.HybridLayout
open CacheBlend.ScatterSpans CacheBlend.TokenScatter CacheBlend.DataPlane
open CacheBlend.PagedScatter CacheBlend.TransferProbe

/-! ## Frames -/

section
variable {α β : Type*}

theorem flatMap_pieces {f g : α → List β} {n : ℕ} (hf : ∀ a, (f a).length = n)
    (hg : ∀ a, (g a).length = n) (xs : List α) (h : xs.flatMap f = xs.flatMap g) :
    ∀ a ∈ xs, f a = g a := by
  induction xs with
  | nil => simp
  | cons x xs ih =>
    rw [List.flatMap_cons, List.flatMap_cons] at h
    have hsplit := List.append_inj h ((hf x).trans (hg x).symm)
    exact List.forall_mem_cons.mpr ⟨hsplit.1, ih hsplit.2⟩

theorem flatMap_injective {f : α → List β} {n : ℕ} (hn : 0 < n) (hf : ∀ a, (f a).length = n)
    (hi : Function.Injective f) : Function.Injective (List.flatMap f) := by
  intro xs
  induction xs with
  | nil =>
    intro ys h
    cases ys with
    | nil => rfl
    | cons y ys =>
      have hl := congrArg List.length h
      simp [hf] at hl
      omega
  | cons x xs ih =>
    intro ys h
    cases ys with
    | nil =>
      have hl := congrArg List.length h
      simp [hf] at hl
      omega
    | cons y ys =>
      rw [List.flatMap_cons, List.flatMap_cons] at h
      have hsplit := List.append_inj h ((hf x).trans (hf y).symm)
      rw [hi hsplit.1, ih hsplit.2]

end

theorem readable_packU16 : Readable (fun n => n < 2^16) packU16 :=
  readable_fixed 2 (fun n _ => bigEndian_length 2 n)
    (fun m n hm hn => bigEndian_injective 2 m n hm hn)

theorem readable_frameView : Readable Fits frameView := by
  have h := readable_pair (readable_countedSequence readable_packU16 readable_packU64)
    (readable_pair (readable_map (readable_counted readable_packU16) utf8 utf8_injective)
      (readable_counted readable_packU64))
  apply readable_map h (fun v : TensorView => (v.shape, v.dtypeName, v.payload))
  intro v v' hv
  cases v
  cases v'
  simpa using hv

theorem framedViews_inj {views views' : List TensorView} (hl : views.length < 2^32)
    (hl' : views'.length < 2^32) (hf : ∀ v ∈ views, Fits v) (hf' : ∀ v ∈ views', Fits v)
    (h : framedViews views = framedViews views') : views = views' :=
  readable_injective (readable_countedSequence readable_packU32 readable_frameView)
    ⟨hl, hf⟩ ⟨hl', hf'⟩ (List.append_cancel_left h)

section
variable {δ : Type}

theorem elements_length (row : HeadRow δ) : (elements row).length = gptOssKvWidth := by
  simp [elements, gptOssKvWidth]

theorem elements_injective : Function.Injective (elements (δ := δ)) := by
  intro row row' h
  have hheads := flatMap_pieces (n := gptOssHeadDim) (by simp) (by simp) _ h
  funext head i
  have hrow := hheads head (List.mem_finRange head)
  exact List.map_inj_left.mp hrow i (List.mem_finRange i)

theorem payloadOf_injective (element : ElementBytes δ) :
    Function.Injective (payloadOf element) := by
  intro rows rows' h
  exact flatMap_injective (by decide : 0 < gptOssKvWidth) elements_length elements_injective
    (flatMap_injective element.positive element.length element.injective h)

theorem payloadOf_length (element : ElementBytes δ) (rows : List (HeadRow δ)) :
    (payloadOf element rows).length = rows.length*gptOssKvWidth*element.width := by
  simp [payloadOf, element.length, elements_length, List.length_flatMap]

structure SameRows (t t' : ShownRows δ) : Prop where
  shape : t.info.shape = t'.info.shape
  dtypeName : t.info.dtypeName = t'.info.dtypeName
  rows : t.rows = t'.rows

theorem readView_ok {env : ProbeEnvironment δ} {t : ShownRows δ} {v : TensorView}
    (h : readView env t = .ok v) : Fits v ∧ v.shape = t.info.shape ∧
      v.dtypeName = t.info.dtypeName ∧ v.payload = payloadOf env.element t.rows := by
  unfold readView at h
  rcases (require_then_iff _ _ _ _).mp h with ⟨_, h⟩
  rcases (require_then_iff _ _ _ _).mp h with ⟨_, h⟩
  rcases (require_then_iff _ _ _ _).mp h with ⟨hfits, h⟩
  cases h
  exact ⟨hfits, rfl, rfl, rfl⟩

theorem frameViews_ok {env : ProbeEnvironment δ} {ts : List (ShownRows δ)} {b : Bytes}
    (h : frameViews env ts = .ok b) : ∃ views : List TensorView,
      List.Forall₂ (fun t v => readView env t = .ok v) ts views ∧ b = framedViews views ∧
        views.length < 2^32 ∧ ∀ v ∈ views, Fits v := by
  unfold frameViews at h
  rcases (require_then_iff _ _ _ _).mp h with ⟨hl, h⟩
  rcases (checked_ok_iff _ _ _).mp h with ⟨views, hviews, h⟩
  cases h
  have hread := (mapM_returns_iff _ _ _).mp hviews
  refine ⟨views, hread, rfl, hread.length_eq ▸ hl, ?_⟩
  intro v hv
  rcases forall₂_right hread hv with ⟨t, _, ht⟩
  exact (readView_ok ht).1

theorem frames_agree {env : ProbeEnvironment δ} {ts ts' : List (ShownRows δ)} {b : Bytes}
    (h : frameViews env ts = .ok b) (h' : frameViews env ts' = .ok b) :
    List.Forall₂ SameRows ts ts' := by
  rcases frameViews_ok h with ⟨views, hread, hb, hl, hf⟩
  rcases frameViews_ok h' with ⟨views', hread', hb', hl', hf'⟩
  have hviews := framedViews_inj hl hl' hf hf' (hb.symm.trans hb')
  subst hviews
  clear h h' hb hb' hl hl' hf hf'
  induction hread generalizing ts' with
  | nil =>
    cases hread'
    exact .nil
  | @cons t v ts views ht _ ih =>
    cases hread' with
    | @cons t' _ ts' _ ht' hrest =>
      rcases readView_ok ht with ⟨_, hshape, hdtype, hpayload⟩
      rcases readView_ok ht' with ⟨_, hshape', hdtype', hpayload'⟩
      refine .cons ⟨hshape.symm.trans hshape', hdtype.symm.trans hdtype', ?_⟩ (ih hrest)
      exact payloadOf_injective env.element (hpayload.symm.trans hpayload')

end

/-! ## Rows of a span -/

/-- The cell of a position of a span in the cache of the span's layer. -/
def probedCell (span : LayerTokenScatterSpan) (component : KvComponent) (position : ℕ) :
    PagedCell :=
  ⟨layerName span.layerIndex, component, span.groupSpan.blockId,
    span.groupSpan.blockOffset+((position-span.targetRange.start : ℕ) : ℤ)⟩

section
variable {δ : Type}

/-- The load left the staged values of a span and its corrected keys. -/
structure RowsLoaded (env : ProbeEnvironment δ) (offset : ℤ) (before after : DataPlaneMemory δ)
    (span : LayerTokenScatterSpan) : Prop where
  key : ∀ position, Holds span.targetRange position →
    CorrectedRow env.correct before.staging offset span position
      (after.paged (probedCell span .key position))
  value : ∀ position, Holds span.targetRange position →
    after.paged (probedCell span .value position) =
      heads (before.staging ⟨.value, span.layerIndex, offset+position⟩)

/-- The rows of a span are the same in two memories. -/
def RowsKept (m m' : DataPlaneMemory δ) (span : LayerTokenScatterSpan) : Prop :=
  ∀ position, Holds span.targetRange position → ∀ component,
    m'.paged (probedCell span component position) = m.paged (probedCell span component position)

theorem orRaised_ok {α : Type} {x : Option α} {a : α} (h : orRaised x = .ok a) : x = some a := by
  cases x with
  | none => cases h
  | some b =>
    cases h
    rfl

theorem pagedRows_some {cache : TensorInfo} {name : String} {component : KvComponent}
    {block offset : ℤ} {count : ℕ} {view : RowView PagedCell}
    (h : pagedRows cache name component block offset count = some view) :
    ∃ blockSize, cache.shape[2]? = some blockSize ∧
      view.cells = pagedCells name component block offset (sliceCount blockSize offset count) := by
  unfold pagedRows at h
  split at h
  next hshape =>
    split_ifs at h
    cases h
    exact ⟨_, by rw [hshape]; rfl, rfl⟩
  next => cases h

structure PagedView (cache : TensorInfo) (m : DataPlaneMemory δ) (layerIndex : ℕ)
    (span : LayerTokenScatterSpan) (views : ShownRows δ × ShownRows δ) (present : ℕ) : Prop where
  size : ∃ blockSize, cache.shape[2]? = some blockSize ∧
    present = sliceCount blockSize span.groupSpan.blockOffset span.tokenCount
  key : views.1.rows = (pagedCells (layerName layerIndex) .key span.groupSpan.blockId
    span.groupSpan.blockOffset present).map m.paged
  value : views.2.rows = (pagedCells (layerName layerIndex) .value span.groupSpan.blockId
    span.groupSpan.blockOffset present).map m.paged

theorem pagedView_ok {env : ProbeEnvironment δ} {m : DataPlaneMemory δ} {cache : TensorInfo}
    {layerIndex : ℕ} {span : LayerTokenScatterSpan} {views : ShownRows δ × ShownRows δ}
    (h : pagedView env m cache layerIndex span = .ok views) :
    ∃ present, PagedView cache m layerIndex span views present := by
  unfold pagedView at h
  rcases (require_then_iff _ _ _ _).mp h with ⟨_, h⟩
  rcases (checked_ok_iff _ _ _).mp h with ⟨key, hkey, h⟩
  rcases (checked_ok_iff _ _ _).mp h with ⟨value, hvalue, h⟩
  cases h
  rcases pagedRows_some (orRaised_ok hkey) with ⟨blockSize, hsize, hkcells⟩
  rcases pagedRows_some (orRaised_ok hvalue) with ⟨blockSize', hsize', hvcells⟩
  rw [hsize] at hsize'
  cases hsize'
  exact ⟨_, ⟨blockSize, hsize, rfl⟩, by rw [hkcells], by rw [hvcells]⟩

theorem PagedView.present_eq {cache : TensorInfo} {m m' : DataPlaneMemory δ} {layerIndex : ℕ}
    {span : LayerTokenScatterSpan} {views views' : ShownRows δ × ShownRows δ} {n n' : ℕ}
    (h : PagedView cache m layerIndex span views n)
    (h' : PagedView cache m' layerIndex span views' n') : n = n' := by
  rcases h.size with ⟨blockSize, hsize, hn⟩
  rcases h'.size with ⟨blockSize', hsize', hn'⟩
  rw [hsize] at hsize'
  cases hsize'
  rw [hn, hn']

/-- What the sources of a span show, with the staging tensor of the bridge. -/
structure StagedView (env : ProbeEnvironment δ) (m : DataPlaneMemory δ) (offset : ℤ)
    (layerIndex : ℕ) (span : LayerTokenScatterSpan) (s : SourceView δ) : Prop where
  corrected : ∃ tensor, env.correct ((stagingCells .key layerIndex
      (offset+span.targetRange.start) span.tokenCount).map fun cell => heads (m.staging cell))
      (positions span.sourceRange) (positions span.targetRange) layerIndex = some tensor ∧
    s.correctedKey.rows = tensor.rows
  value : s.value.rows = (stagingCells .value layerIndex (offset+span.targetRange.start)
    span.tokenCount).map fun cell => heads (m.staging cell)

theorem sourceView_ok {env : ProbeEnvironment δ} {m : DataPlaneMemory δ} {offset : ℤ}
    {layerIndex : ℕ} {span : LayerTokenScatterSpan} {s : SourceView δ}
    (h : sourceView env m offset layerIndex span = .ok s) :
    StagedView env m offset layerIndex span s := by
  unfold sourceView at h
  rcases (require_then_iff _ _ _ _).mp h with ⟨_, h⟩
  rcases (checked_ok_iff _ _ _).mp h with ⟨key, hkey, h⟩
  rcases (checked_ok_iff _ _ _).mp h with ⟨keyRows, hkeyRows, h⟩
  rcases (checked_ok_iff _ _ _).mp h with ⟨value, hvalue, h⟩
  rcases (checked_ok_iff _ _ _).mp h with ⟨valueRows, hvalueRows, h⟩
  rcases (checked_ok_iff _ _ _).mp h with ⟨tensor, htensor, h⟩
  cases h
  have hkcells := stagingRows_reshaped env.allocated (orRaised_ok hkey) (orRaised_ok hkeyRows)
  have hvcells := stagingRows_reshaped env.allocated (orRaised_ok hvalue) (orRaised_ok hvalueRows)
  refine ⟨⟨tensor, ?_, rfl⟩, ?_⟩
  · have hcorrect := orRaised_ok htensor
    rwa [stagedRows, hkcells] at hcorrect
  · show stagedRows m value = _
    rw [stagedRows, hvcells]

theorem pagedCells_get {name : String} {component : KvComponent} {block offset : ℤ} {n k : ℕ}
    (hk : k < n) (m : DataPlaneMemory δ) :
    ((pagedCells name component block offset n).map m.paged)[k]? =
      some (m.paged ⟨name, component, block, offset+k⟩) := by
  simp [pagedCells, hk]

theorem holds_index {span : LayerTokenScatterSpan} {position : ℕ}
    (h : Holds span.targetRange position) :
    position-span.targetRange.start < span.tokenCount := by
  have hl := h.1
  have hr := h.2
  show _ < span.targetRange.stop-span.targetRange.start
  omega

theorem span_loaded {env : ProbeEnvironment δ} {before after : DataPlaneMemory δ} {offset : ℤ}
    {cache : TensorInfo} {layerIndex present : ℕ} {span : LayerTokenScatterSpan}
    {views : ShownRows δ × ShownRows δ} {s : SourceView δ} (hi : span.layerIndex = layerIndex)
    (hp : PagedView cache after layerIndex span views present)
    (hs : StagedView env before offset layerIndex span s) (hk : SameRows views.1 s.correctedKey)
    (hv : SameRows views.2 s.value) :
    present = span.tokenCount ∧ RowsLoaded env offset before after span := by
  have hvalue := hv.rows
  rw [hp.value, hs.value] at hvalue
  have hpresent : present = span.tokenCount := by
    have hl := congrArg List.length hvalue
    simpa [pagedCells, stagingCells] using hl
  subst hpresent
  refine ⟨rfl, ?_, ?_⟩
  · intro position hh
    rcases hs.corrected with ⟨tensor, htensor, hrows⟩
    refine ⟨tensor, ?_, ?_⟩
    · rw [stagedKeys, hi]
      exact htensor
    · rw [← hrows, ← hk.rows, hp.key, pagedCells_get (holds_index hh), probedCell, hi]
  · intro position hh
    have hget := congrArg (fun rows => rows[position-span.targetRange.start]?) hvalue
    rw [pagedCells_get (holds_index hh), ← hi] at hget
    exact stagedValue_row hh hget.symm

theorem span_kept {m m' : DataPlaneMemory δ} {cache : TensorInfo} {layerIndex : ℕ}
    {span : LayerTokenScatterSpan} {views views' : ShownRows δ × ShownRows δ}
    (hi : span.layerIndex = layerIndex)
    (h : PagedView cache m layerIndex span views span.tokenCount)
    (h' : PagedView cache m' layerIndex span views' span.tokenCount)
    (hk : SameRows views.1 views'.1) (hv : SameRows views.2 views'.2) : RowsKept m m' span := by
  intro position hh component
  have hrows : (pagedCells (layerName layerIndex) component span.groupSpan.blockId
        span.groupSpan.blockOffset span.tokenCount).map m.paged =
      (pagedCells (layerName layerIndex) component span.groupSpan.blockId
        span.groupSpan.blockOffset span.tokenCount).map m'.paged := by
    cases component with
    | key =>
      rw [← h.key, ← h'.key]
      exact hk.rows
    | value =>
      rw [← h.value, ← h'.value]
      exact hv.rows
  have hget := congrArg (fun rows => rows[position-span.targetRange.start]?) hrows
  rw [pagedCells_get (holds_index hh), pagedCells_get (holds_index hh)] at hget
  rw [probedCell, hi]
  exact (Option.some.inj hget).symm

end

/-! ## Layers -/

section
variable {α β γ : Type*}

theorem forall₂_both {T U : β → γ → Prop} {ys : List β} {zs : List γ} (h : List.Forall₂ T ys zs)
    (h' : List.Forall₂ U ys zs) : List.Forall₂ (fun y z => T y z ∧ U y z) ys zs := by
  induction h with
  | nil => exact .nil
  | cons hyz _ ih =>
    cases h' with
    | cons hyz' hrest => exact .cons ⟨hyz, hyz'⟩ (ih hrest)

theorem forall₂_through {R : α → β → Prop} {S : α → γ → Prop} {T : β → γ → Prop} {xs : List α}
    {ys : List β} {zs : List γ} (hr : List.Forall₂ R xs ys) (hs : List.Forall₂ S xs zs)
    (ht : List.Forall₂ T ys zs) : ∀ x ∈ xs, ∃ y z, R x y ∧ S x z ∧ T y z := by
  induction hr generalizing zs with
  | nil => simp
  | cons hxy _ ih =>
    cases hs with
    | cons hxz hs =>
      cases ht with
      | cons hyz ht => exact List.forall_mem_cons.mpr ⟨⟨_, _, hxy, hxz, hyz⟩, ih hs ht⟩

end

section
variable {δ : Type} {env : ProbeEnvironment δ} {layerIndex : ℕ}
  {spans : List LayerTokenScatterSpan}

theorem pagedFrames_ok {m : DataPlaneMemory δ} {frames : Bytes × Bytes}
    (h : pagedFrames env m layerIndex spans = .ok frames) : ∃ cache views,
      env.tensors.paged.get? (layerName layerIndex) = some cache ∧
      List.Forall₂ (fun span v => pagedView env m cache layerIndex span = .ok v) spans views ∧
      frameViews env (views.map Prod.fst) = .ok frames.1 ∧
      frameViews env (views.map Prod.snd) = .ok frames.2 := by
  unfold pagedFrames at h
  rcases (checked_ok_iff _ _ _).mp h with ⟨cache, hcache, h⟩
  rcases (checked_ok_iff _ _ _).mp h with ⟨views, hviews, h⟩
  rcases (checked_ok_iff _ _ _).mp h with ⟨key, hkey, h⟩
  rcases (checked_ok_iff _ _ _).mp h with ⟨value, hvalue, h⟩
  cases h
  exact ⟨cache, views, orRaised_ok hcache, (mapM_returns_iff _ _ _).mp hviews, hkey, hvalue⟩

theorem sourceFrames_ok {m : DataPlaneMemory δ} {offset : ℤ} {frames : SourceFrames}
    (h : sourceFrames env m offset layerIndex spans = .ok frames) : ∃ views,
      List.Forall₂ (fun span v => sourceView env m offset layerIndex span = .ok v) spans views ∧
      frameViews env (views.map SourceView.correctedKey) = .ok frames.correctedKey ∧
      frameViews env (views.map SourceView.value) = .ok frames.value := by
  unfold sourceFrames at h
  rcases (checked_ok_iff _ _ _).mp h with ⟨views, hviews, h⟩
  rcases (checked_ok_iff _ _ _).mp h with ⟨raw, _, h⟩
  rcases (checked_ok_iff _ _ _).mp h with ⟨key, hkey, h⟩
  rcases (checked_ok_iff _ _ _).mp h with ⟨value, hvalue, h⟩
  cases h
  exact ⟨views, (mapM_returns_iff _ _ _).mp hviews, hkey, hvalue⟩

/-- With the preimages of its sources, the rows of a layer are the loaded ones, and the rows
with one preimage at two times are the same. -/
theorem layer_loaded {before after : DataPlaneMemory δ} {offset : ℤ} {frames : Bytes × Bytes}
    {source : SourceFrames} (hi : ∀ span ∈ spans, span.layerIndex = layerIndex)
    (hp : pagedFrames env after layerIndex spans = .ok frames)
    (hs : sourceFrames env before offset layerIndex spans = .ok source)
    (hk : frames.1 = source.correctedKey) (hv : frames.2 = source.value) :
    ∀ span ∈ spans, RowsLoaded env offset before after span ∧
      ∀ m m' frames', pagedFrames env m layerIndex spans = .ok frames' →
        pagedFrames env m' layerIndex spans = .ok frames' → RowsKept m m' span := by
  rcases pagedFrames_ok hp with ⟨cache, views, hcache, hviews, hkey, hvalue⟩
  rcases sourceFrames_ok hs with ⟨sources, hsources, hskey, hsvalue⟩
  rw [← hk] at hskey
  rw [← hv] at hsvalue
  have hsame := forall₂_both
    (List.forall₂_map_left_iff.mp (List.forall₂_map_right_iff.mp (frames_agree hkey hskey)))
    (List.forall₂_map_left_iff.mp (List.forall₂_map_right_iff.mp (frames_agree hvalue hsvalue)))
  intro span hspan
  rcases forall₂_through hviews hsources hsame span hspan with ⟨v, s, hpaged, hsource, hks, hvs⟩
  rcases pagedView_ok hpaged with ⟨present, hshown⟩
  rcases span_loaded (hi span hspan) hshown (sourceView_ok hsource) hks hvs with ⟨rfl, hloaded⟩
  refine ⟨hloaded, fun m m' frames' hm hm' => ?_⟩
  rcases pagedFrames_ok hm with ⟨cache₁, views₁, hcache₁, hviews₁, hkey₁, hvalue₁⟩
  rcases pagedFrames_ok hm' with ⟨cache₂, views₂, hcache₂, hviews₂, hkey₂, hvalue₂⟩
  rw [hcache] at hcache₁ hcache₂
  cases hcache₁
  cases hcache₂
  have hsame := forall₂_both
    (List.forall₂_map_left_iff.mp (List.forall₂_map_right_iff.mp (frames_agree hkey₁ hkey₂)))
    (List.forall₂_map_left_iff.mp (List.forall₂_map_right_iff.mp (frames_agree hvalue₁ hvalue₂)))
  rcases forall₂_through hviews₁ hviews₂ hsame span hspan with ⟨v₁, v₂, h₁, h₂, hks, hvs⟩
  rcases pagedView_ok h₁ with ⟨n₁, hshown₁⟩
  rcases pagedView_ok h₂ with ⟨n₂, hshown₂⟩
  cases hshown.present_eq hshown₁
  cases hshown.present_eq hshown₂
  exact span_kept (hi span hspan) hshown₁ hshown₂ hks hvs

end

end CacheBlend.ProbeFrames
