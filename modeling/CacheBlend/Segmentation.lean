import CacheBlend.DelimiterScans
import CacheBlend.Dict
import CacheBlend.MatchOptimality

/-!
# Storage and query segmentation

Documents are split at delimiters, stored in chunks that begin with their
region, and queried by windows that begin anywhere. No token is lost: regions
and delimiters are the text, chunks and one short tail are the region. A window
of the size of a chunk meets the chunk wherever it stands in a query.
-/

set_option autoImplicit false

namespace CacheBlend.Segmentation
open CacheBlend.PlannerModels CacheBlend.MatchPlanning CacheBlend.MatchOptimality
open CacheBlend.DelimiterScans

/-- `TokenSegment.at`. -/
def segmentAt (start : ℤ) (tokenIds : List TokenId) : Except ValueError TokenSegment := do
  let tokenRange ← TokenRange.new start (start+tokenIds.length)
  TokenSegment.new tokenRange tokenIds

def placed (s : TokenSegment) : ℕ × List TokenId := (s.tokenRange.start, s.tokenIds)

/-! ## Delimiters -/

/-- Longest first, and in the order of the tokens among those of one length. -/
def delimiterKey (delimiter : List TokenId) : ℤ ×ₗ List TokenId :=
  toLex (-delimiter.length, delimiter)

structure DelimiterSegmenter where
  delimiters : List (List TokenId)
  some_delimiter : delimiters ≠ []
  delimiter_nonempty : ∀ d ∈ delimiters, d ≠ []
  ordered : delimiters.Pairwise (fun d d' => delimiterKey d ≤ delimiterKey d')

def DelimiterSegmenter.new (delimiters : List (List ℤ)) : Except ValueError DelimiterSegmenter := do
  let normalized ← delimiters.mapM normalizeTokenIds
  if hn : normalized = [] then .error ⟨"at least one delimiter is required"⟩
  else if he : ∃ d ∈ normalized, d = [] then .error ⟨"delimiters must not be empty"⟩
  else .ok {
    delimiters := sortedBy delimiterKey normalized.dedup
    some_delimiter := by
      obtain ⟨d, hd⟩ := List.exists_mem_of_ne_nil normalized hn
      apply List.ne_nil_of_mem (a := d)
      exact ((sortedBy_perm delimiterKey normalized.dedup).mem_iff).mpr (List.mem_dedup.mpr hd)
    delimiter_nonempty := fun d hd h => he ⟨d, List.mem_dedup.mp
      ((sortedBy_perm delimiterKey normalized.dedup).mem_iff.mp hd), h⟩
    ordered := sortedBy_pairwise delimiterKey normalized.dedup }

def DelimiterSegmenter.delimiterAt (s : DelimiterSegmenter) (tokens : List TokenId)
    (cursor : ℕ) : Option (List TokenId) :=
  s.delimiters.find? (fun candidate => (tokens.drop cursor).take candidate.length = candidate)

theorem DelimiterSegmenter.delimiterAt_pos {s : DelimiterSegmenter}
    {tokens delimiter : List TokenId} {cursor : ℕ}
    (h : s.delimiterAt tokens cursor = some delimiter) : 0 < delimiter.length :=
  List.length_pos_of_ne_nil (s.delimiter_nonempty delimiter (List.mem_of_find?_eq_some h))

/-- The region between its first token and the cursor is a segment, unless it is empty. -/
def appendRegion (offset : ℤ) (tokens : List TokenId) (regionStart cursor : ℕ)
    (segments : List TokenSegment) : Except ValueError (List TokenSegment) :=
  if regionStart < cursor then do
    let region ← segmentAt (offset+regionStart) ((tokens.take cursor).drop regionStart)
    .ok (segments ++ [region])
  else .ok segments

/-- The loop of `DelimiterSegmenter.segment`, and the region behind the last delimiter. -/
def DelimiterSegmenter.scan (s : DelimiterSegmenter) (offset : ℤ) (tokens : List TokenId)
    (regionStart cursor : ℕ) (segments : List TokenSegment) :
    Except ValueError (List TokenSegment) :=
  if cursor < tokens.length then
    match _h : s.delimiterAt tokens cursor with
    | none => s.scan offset tokens regionStart (cursor+1) segments
    | some delimiter => do
      let segments ← appendRegion offset tokens regionStart cursor segments
      s.scan offset tokens (cursor+delimiter.length) (cursor+delimiter.length) segments
  else appendRegion offset tokens regionStart tokens.length segments
termination_by tokens.length-cursor
decreasing_by
  · omega
  · have hpos := DelimiterSegmenter.delimiterAt_pos _h
    omega

def DelimiterSegmenter.segment (s : DelimiterSegmenter) (tokenIds : List ℤ) (offset : ℤ) :
    Except ValueError (List TokenSegment) := do
  let tokens ← normalizeTokenIds tokenIds
  if offset < 0 then .error ⟨"offset must be non-negative"⟩
  else s.scan offset tokens 0 0 []

/-! ## Chunks and windows -/

structure FixedChunkStorageSegmenter where
  chunkSize : ℕ
  includePartial : Bool
  minimumPartialSize : ℕ
  chunk_positive : 1 ≤ chunkSize
  partial_positive : 1 ≤ minimumPartialSize
  partial_le : minimumPartialSize ≤ chunkSize

def FixedChunkStorageSegmenter.new (chunkSize : ℤ) (includePartial : Bool)
    (minimumPartialSize : ℤ) : Except ValueError FixedChunkStorageSegmenter :=
  if hc : chunkSize < 1 then .error ⟨"chunk_size must be positive"⟩
  else if hm : minimumPartialSize < 1 then .error ⟨"minimum_partial_size must be positive"⟩
  else if hl : minimumPartialSize > chunkSize then
    .error ⟨"minimum_partial_size must not exceed chunk_size"⟩
  else .ok ⟨chunkSize.toNat, includePartial, minimumPartialSize.toNat, by omega, by omega,
    by omega⟩

def FixedChunkStorageSegmenter.chunkRegion (s : FixedChunkStorageSegmenter)
    (region : TokenSegment) (relativeStart : ℕ) (chunks : List TokenSegment) :
    Except ValueError (List TokenSegment) :=
  if relativeStart < region.size then
    let tokenSlice := (region.tokenIds.drop relativeStart).take s.chunkSize
    if tokenSlice.length < s.chunkSize ∧
        (s.includePartial = false ∨ tokenSlice.length < s.minimumPartialSize) then
      s.chunkRegion region (relativeStart+s.chunkSize) chunks
    else do
      let chunk ← segmentAt (region.tokenRange.start+relativeStart) tokenSlice
      s.chunkRegion region (relativeStart+s.chunkSize) (chunks ++ [chunk])
  else .ok chunks
termination_by region.size-relativeStart
decreasing_by
  all_goals
    have hpos := s.chunk_positive
    omega

def FixedChunkStorageSegmenter.segment (s : FixedChunkStorageSegmenter)
    (regions : List TokenSegment) : Except ValueError (List TokenSegment) :=
  regions.foldlM (fun chunks region => s.chunkRegion region 0 chunks) []

structure RollingQuerySegmenter where
  windowSizes : List ℕ
  stride : ℕ
  some_window : windowSizes ≠ []
  window_positive : ∀ w ∈ windowSizes, 1 ≤ w
  stride_positive : 1 ≤ stride

theorem stride_toNat_positive {stride : ℤ} (h : ¬stride < 1) : 1 ≤ stride.toNat := by omega

def RollingQuerySegmenter.new (windowSizes : List ℤ) (stride : ℤ) :
    Except ValueError RollingQuerySegmenter :=
  if hn : windowSizes = [] then .error ⟨"at least one window size is required"⟩
  else if hw : ∃ w ∈ windowSizes, w < 1 then .error ⟨"window sizes must be positive"⟩
  else if hs : stride < 1 then .error ⟨"stride must be positive"⟩
  else .ok {
    windowSizes := (sortedBy id (windowSizes.map Int.toNat).dedup).reverse
    stride := stride.toNat
    some_window := by
      obtain ⟨w, hw⟩ := List.exists_mem_of_ne_nil windowSizes hn
      apply List.ne_nil_of_mem (a := w.toNat)
      rw [List.mem_reverse, (sortedBy_perm id _).mem_iff, List.mem_dedup]
      exact List.mem_map_of_mem hw
    window_positive := fun w h => by
      rw [List.mem_reverse, (sortedBy_perm id _).mem_iff, List.mem_dedup] at h
      obtain ⟨z, hz, rfl⟩ := List.mem_map.mp h
      have hpos : ¬z < 1 := fun hlt => hw ⟨z, hz, hlt⟩
      omega
    stride_positive := stride_toNat_positive hs }

/-- The windows that begin at one place of the region and end in it. -/
def RollingQuerySegmenter.windowsAt (s : RollingQuerySegmenter) (region : TokenSegment)
    (relativeStart : ℕ) (candidates : List TokenSegment) :
    Except ValueError (List TokenSegment) :=
  s.windowSizes.foldlM (fun candidates windowSize => do
    let relativeEnd := relativeStart+windowSize
    if relativeEnd > region.size then .ok candidates
    else
      let tokenRange ← TokenRange.new (region.tokenRange.start+relativeStart)
        (region.tokenRange.start+relativeEnd)
      let candidate ← TokenSegment.new tokenRange
        ((region.tokenIds.take relativeEnd).drop relativeStart)
      .ok (candidates ++ [candidate])) candidates

def RollingQuerySegmenter.rollRegion (s : RollingQuerySegmenter) (region : TokenSegment)
    (relativeStart : ℕ) (candidates : List TokenSegment) :
    Except ValueError (List TokenSegment) :=
  if relativeStart < region.size then do
    let candidates ← s.windowsAt region relativeStart candidates
    s.rollRegion region (relativeStart+s.stride) candidates
  else .ok candidates
termination_by region.size-relativeStart
decreasing_by
  have hpos := s.stride_positive
  omega

def RollingQuerySegmenter.segment (s : RollingQuerySegmenter) (regions : List TokenSegment) :
    Except ValueError (List TokenSegment) :=
  regions.foldlM (fun candidates region => s.rollRegion region 0 candidates) []

/-! ## The index of the stored records -/

def buildCacheRecord (fingerprinter : SegmentFingerprinter) (cacheNamespace : CacheNamespace)
    (segment : TokenSegment) (cacheKey : String) : Except ValueError CacheRecord :=
  CacheRecord.new cacheNamespace (fingerprinter cacheNamespace segment.tokenIds) segment.tokenIds
    segment.tokenRange cacheKey

abbrev InMemoryRecordIndex := Dict (CacheNamespace × SegmentFingerprint) (List CacheRecord)

def InMemoryRecordIndex.add (index : InMemoryRecordIndex) (record : CacheRecord) :
    InMemoryRecordIndex :=
  let key := (record.cacheNamespace, record.fingerprint)
  index.set key ((index.get? key).getD [] ++ [record])

def InMemoryRecordIndex.new (records : List CacheRecord) : InMemoryRecordIndex :=
  records.foldl InMemoryRecordIndex.add Dict.empty

/-- `_record_sort_key`. -/
def recordSortKey (r : CacheRecord) : String ×ₗ ℕ ×ₗ ℕ :=
  toLex (r.cacheKey, toLex (r.sourceRange.start, r.sourceRange.stop))

def InMemoryRecordIndex.lookup (index : InMemoryRecordIndex) : Records :=
  fun cacheNamespace fingerprint =>
    sortedBy recordSortKey ((index.get? (cacheNamespace, fingerprint)).getD [])

/-! ## Regions and delimiters are the text -/

theorem segmentAt_ok (start : ℕ) {tokens : List TokenId} (h : tokens ≠ []) :
    ∃ s, segmentAt start tokens = .ok s ∧ placed s = (start, tokens) := by
  have hlen : start+tokens.length-start = tokens.length := Nat.add_sub_cancel_left ..
  refine ⟨⟨⟨start, start+tokens.length, Nat.le_add_right ..⟩, tokens, h, hlen⟩, ?_, rfl⟩
  apply (checked_ok_iff _ _ _).mpr
  refine ⟨_, (TokenRange.new_ok_iff _ _ ⟨start, start+tokens.length, Nat.le_add_right ..⟩).mpr
    ⟨rfl, by push_cast; rfl⟩, ?_⟩
  unfold TokenSegment.new
  rw [dif_neg h]
  exact dif_pos hlen

theorem appendRegion_ok (offset : ℕ) {tokens : List TokenId} {regionStart cursor : ℕ}
    (hs : regionStart ≤ cursor) (hc : cursor ≤ tokens.length) (segments : List TokenSegment) :
    ∃ out, appendRegion offset tokens regionStart cursor segments = .ok out ∧
      out.map placed = segments.map placed ++
        placedPiece (offset+regionStart) ((tokens.take cursor).drop regionStart) := by
  have hlen : ((tokens.take cursor).drop regionStart).length = cursor-regionStart := by
    rw [List.length_drop, List.length_take, Nat.min_eq_left hc]
  unfold appendRegion
  split_ifs with h
  · have hne : (tokens.take cursor).drop regionStart ≠ [] := by
      apply List.ne_nil_of_length_pos
      omega
    obtain ⟨s, hat, hp⟩ := segmentAt_ok (offset+regionStart) hne
    refine ⟨segments ++ [s], (checked_ok_iff _ _ _).mpr ⟨s, ?_, rfl⟩, ?_⟩
    · rw [← hat]
      push_cast
      rfl
    · rw [List.map_append, List.map_singleton, hp]
      congr 1
      revert hne
      cases (tokens.take cursor).drop regionStart with
      | nil => exact fun hne => absurd rfl hne
      | cons a region => exact fun _ => rfl
  · have hnil : (tokens.take cursor).drop regionStart = [] := by
      apply List.eq_nil_of_length_eq_zero
      omega
    exact ⟨segments, rfl, by rw [hnil]; exact (List.append_nil _).symm⟩

section
variable (s : DelimiterSegmenter) (tokens : List TokenId)

theorem begins_iff (cursor : ℕ) (d : List TokenId) :
    (tokens.drop cursor).take d.length = d ↔ d <+: tokens.drop cursor := by
  rw [List.prefix_iff_eq_take]
  exact eq_comm

theorem delimiterAt_none {cursor : ℕ} (h : s.delimiterAt tokens cursor = none) :
    ∀ d ∈ s.delimiters, ¬d <+: tokens.drop cursor := by
  intro d hd hb
  have hn := List.find?_eq_none.mp h d hd
  exact hn (decide_eq_true ((begins_iff tokens cursor d).mpr hb))

theorem delimiterAt_some {cursor : ℕ} {delimiter : List TokenId}
    (h : s.delimiterAt tokens cursor = some delimiter) :
    Taken s.delimiters (tokens.drop cursor) delimiter := by
  obtain ⟨hat, before, after, hs, hbefore⟩ := List.find?_eq_some_iff_append.mp h
  have hb := (begins_iff tokens cursor delimiter).mp (of_decide_eq_true hat)
  refine ⟨List.mem_of_find?_eq_some h, hb, fun d hd hbegins => ?_⟩
  have ho := s.ordered
  rw [hs] at hd ho
  obtain hd | hd := List.mem_append.mp hd
  · have hn := hbefore d hd
    rw [decide_eq_true ((begins_iff tokens cursor d).mpr hbegins)] at hn
    cases hn
  · obtain rfl | hd := List.mem_cons.mp hd
    · exact le_refl _
    · have hkey := (List.pairwise_cons.mp (List.pairwise_append.mp ho).2.1).1 d hd
      obtain hlt | ⟨he, _⟩ := (Prod.Lex.le_iff).mp hkey
      · have hlt' : -(delimiter.length : ℤ) < -(d.length : ℤ) := hlt
        omega
      · have he' : -(delimiter.length : ℤ) = -(d.length : ℤ) := he
        omega

end

section
variable {s : DelimiterSegmenter} {tokens : List TokenId} {offset : ℤ} {regionStart cursor : ℕ}
  {segments : List TokenSegment}

theorem scan_step (h : cursor < tokens.length) (hn : s.delimiterAt tokens cursor = none) :
    s.scan offset tokens regionStart cursor segments =
      s.scan offset tokens regionStart (cursor+1) segments := by
  rw [DelimiterSegmenter.scan, if_pos h]
  split
  · rfl
  · rename_i d hat
    rw [hn] at hat
    cases hat

theorem scan_delimiter (h : cursor < tokens.length) {delimiter : List TokenId}
    (hat : s.delimiterAt tokens cursor = some delimiter) :
    s.scan offset tokens regionStart cursor segments =
      (appendRegion offset tokens regionStart cursor segments >>= fun segments =>
        s.scan offset tokens (cursor+delimiter.length) (cursor+delimiter.length) segments) := by
  rw [DelimiterSegmenter.scan, if_pos h]
  split
  · rename_i hn
    rw [hn] at hat
    cases hat
  · rename_i d hat'
    rw [hat] at hat'
    cases hat'
    rfl

theorem drop_split {tokens : List TokenId} {regionStart cursor : ℕ} (h : regionStart ≤ cursor) :
    tokens.drop regionStart = (tokens.take cursor).drop regionStart ++ tokens.drop cursor := by
  rw [List.drop_take, ← Nat.add_sub_cancel' h, ← List.drop_drop, Nat.add_sub_cancel' h,
    List.take_append_drop]

end

section
variable (s : DelimiterSegmenter) (tokens : List TokenId)

/-- Through the loop: what lies before the region is done, and no delimiter
begins between the start of the region and the cursor. -/
theorem scan_ok (offset regionStart cursor : ℕ) (segments : List TokenSegment)
    (hs : regionStart ≤ cursor) (hc : cursor ≤ tokens.length)
    (hfree : Free s.delimiters (tokens.drop regionStart) (cursor-regionStart)) :
    ∃ out blocks last, s.scan offset tokens regionStart cursor segments = .ok out ∧
      Scan s.delimiters (tokens.drop regionStart) blocks last ∧
      out.map placed = segments.map placed ++ regionsAt (offset+regionStart) blocks last := by
  induction regionStart, cursor, segments using DelimiterSegmenter.scan.induct s tokens with
  | case1 regionStart cursor segments hlt hnone ih =>
    rw [scan_step hlt hnone]
    apply ih (by omega) hlt
    intro i hi d hd
    by_cases hlast : i < cursor-regionStart
    · exact hfree i hlast d hd
    · obtain rfl : i = cursor-regionStart := by omega
      rw [List.drop_drop, Nat.add_sub_cancel' hs]
      exact delimiterAt_none s tokens hnone d hd
  | case2 regionStart cursor segments hlt d hat ih =>
    have htaken := delimiterAt_some s tokens hat
    obtain ⟨rest, hrest⟩ := htaken.begins
    have hlen : d.length ≤ tokens.length-cursor := by
      have h := htaken.begins.length_le
      rwa [List.length_drop] at h
    have hdrop : tokens.drop (cursor+d.length) = rest := by
      rw [← List.drop_drop, ← hrest, List.drop_left]
    obtain ⟨region, happend, hregion⟩ := appendRegion_ok offset hs hc segments
    obtain ⟨out, blocks, last, hout, hscan, hplaced⟩ := ih region (le_refl _) (by omega)
      (fun i hi => absurd hi (by omega))
    have hsize : ((tokens.take cursor).drop regionStart).length = cursor-regionStart := by
      rw [List.length_drop, List.length_take, Nat.min_eq_left hc]
    refine ⟨out, ((tokens.take cursor).drop regionStart, d)::blocks, last, ?_, ?_, ?_⟩
    · rw [scan_delimiter hlt hat]
      exact (checked_ok_iff _ _ _).mpr ⟨region, happend, hout⟩
    · rw [drop_split hs, ← hrest] at hfree ⊢
      rw [← hrest] at htaken
      rw [hdrop] at hscan
      exact .block (by rw [hsize]; exact hfree) htaken hscan
    · rw [hplaced, hregion, List.append_assoc, regionsAt, hsize]
      congr 3
      omega
  | case3 regionStart cursor segments hge =>
    obtain rfl : cursor = tokens.length := by omega
    obtain ⟨out, happend, hout⟩ := appendRegion_ok offset hs (le_refl _) segments
    rw [List.take_length] at hout
    refine ⟨out, [], tokens.drop regionStart, ?_, .last ?_, hout⟩
    · rw [DelimiterSegmenter.scan, if_neg hge]
      exact happend
    · rw [List.length_drop]
      exact hfree

end

/-! ## Chunks rebuild their region -/

/-- A tail of a region that is shorter is not stored. -/
def FixedChunkStorageSegmenter.partialLimit (s : FixedChunkStorageSegmenter) : ℕ :=
  if s.includePartial then s.minimumPartialSize else s.chunkSize

/-- Chunks of a text from a place on, all of the full size but a last one of
at least the limit, up to a tail shorter than the limit. -/
inductive Chunked (size limit : ℕ) : ℕ → List TokenId → List (ℕ × List TokenId) → Prop
  | tail {start : ℕ} {text : List TokenId} (h : text.length < limit) :
      Chunked size limit start text []
  | short {start : ℕ} {text : List TokenId} (h : limit ≤ text.length) (h' : text.length < size) :
      Chunked size limit start text [(start, text)]
  | full {start : ℕ} {chunk rest : List TokenId} {qs : List (ℕ × List TokenId)}
      (h : chunk.length = size) (later : Chunked size limit (start+size) rest qs) :
      Chunked size limit start (chunk ++ rest) ((start, chunk)::qs)

theorem chunked_rebuilds {size limit start : ℕ} {text : List TokenId}
    {qs : List (ℕ × List TokenId)} (hlimit : 0 < limit) (h : Chunked size limit start text qs) :
    ∃ tail, (qs.map Prod.snd).flatten ++ tail = text ∧ tail.length < limit := by
  induction h with
  | @tail start text h => exact ⟨text, rfl, h⟩
  | short h h' => exact ⟨[], by simp, hlimit⟩
  | full h later ih =>
    obtain ⟨tail, ht, hlen⟩ := ih
    refine ⟨tail, ?_, hlen⟩
    rw [List.map_cons, List.flatten_cons, List.append_assoc, ht]

section
variable (s : FixedChunkStorageSegmenter)

theorem partialLimit_pos : 0 < s.partialLimit := by
  have h := s.chunk_positive
  have h' := s.partial_positive
  unfold FixedChunkStorageSegmenter.partialLimit
  split_ifs <;> omega

theorem dropped_iff (n : ℕ) : n < s.chunkSize ∧
    (s.includePartial = false ∨ n < s.minimumPartialSize) ↔ n < s.partialLimit := by
  have h := s.partial_le
  unfold FixedChunkStorageSegmenter.partialLimit
  split_ifs with hp
  · simp only [hp, Bool.true_eq_false, false_or]
    omega
  · simp only [hp, true_or, and_true]

theorem chunkRegion_ok (region : TokenSegment) (relativeStart : ℕ) (chunks : List TokenSegment) :
    ∃ out, s.chunkRegion region relativeStart chunks = .ok (chunks ++ out) ∧
      Chunked s.chunkSize s.partialLimit (region.tokenRange.start+relativeStart)
        (region.tokenIds.drop relativeStart) (out.map placed) := by
  have hsize : region.size = region.tokenIds.length := rfl
  have hpos := s.chunk_positive
  induction relativeStart, chunks using FixedChunkStorageSegmenter.chunkRegion.induct s region with
  | case1 relativeStart chunks hlt slice hdropped ih =>
    have hshort := (dropped_iff s slice.length).mp hdropped
    have hlen : slice.length = min s.chunkSize (region.tokenIds.length-relativeStart) := by
      rw [List.length_take, List.length_drop]
    refine ⟨[], ?_, .tail ?_⟩
    · rw [FixedChunkStorageSegmenter.chunkRegion, if_pos hlt]
      dsimp only
      rw [if_pos hdropped, FixedChunkStorageSegmenter.chunkRegion, if_neg (by omega),
        List.append_nil]
    · rw [List.length_drop]
      omega
  | case2 relativeStart chunks hlt slice hkept ih =>
    have hlimit : s.partialLimit ≤ slice.length :=
      not_lt.mp fun h => hkept ((dropped_iff s slice.length).mpr h)
    have hlen : slice.length = min s.chunkSize (region.tokenIds.length-relativeStart) := by
      rw [List.length_take, List.length_drop]
    have hne : slice ≠ [] := List.ne_nil_of_length_pos ((partialLimit_pos s).trans_le hlimit)
    obtain ⟨chunk, hat, hp⟩ := segmentAt_ok (region.tokenRange.start+relativeStart) hne
    obtain ⟨out, hout, hlater⟩ := ih chunk
    refine ⟨chunk::out, ?_, ?_⟩
    · rw [FixedChunkStorageSegmenter.chunkRegion, if_pos hlt]
      dsimp only
      rw [if_neg hkept]
      apply (checked_ok_iff _ _ _).mpr
      refine ⟨chunk, ?_, ?_⟩
      · rw [← hat]
        push_cast
        rfl
      · rw [hout, List.append_assoc]
        rfl
    · rw [List.map_cons, hp]
      by_cases hfull : slice.length = s.chunkSize
      · have hdrop : region.tokenIds.drop relativeStart =
            slice ++ region.tokenIds.drop (relativeStart+s.chunkSize) := by
          rw [← List.drop_drop]
          exact (List.take_append_drop _ _).symm
        rw [hdrop]
        rw [← Nat.add_assoc] at hlater
        exact .full hfull hlater
      · -- a short chunk is the last one
        have hall : slice = region.tokenIds.drop relativeStart := by
          apply List.take_of_length_le
          rw [List.length_drop]
          omega
        have hnil : out = [] := by
          rw [FixedChunkStorageSegmenter.chunkRegion, if_neg (by omega)] at hout
          have h := Except.ok.inj hout
          exact (List.append_cancel_left ((List.append_nil _).trans h)).symm
        rw [hnil, hall]
        exact .short (hall ▸ hlimit) (by rw [← hall]; omega)
  | case3 relativeStart chunks hge =>
    refine ⟨[], ?_, .tail ?_⟩
    · rw [FixedChunkStorageSegmenter.chunkRegion, if_neg hge, List.append_nil]
    · rw [List.length_drop]
      have h := partialLimit_pos s
      omega

end

/-! ## Windows meet chunks -/

section
variable (s : RollingQuerySegmenter) (region : TokenSegment)

/-- The window of a size at one place of the region, when it fits. -/
def Windowed (relativeStart windowSize : ℕ) (out : List TokenSegment) : Prop :=
  relativeStart+windowSize ≤ region.size → ∃ c ∈ out, placed c =
    (region.tokenRange.start+relativeStart, (region.tokenIds.drop relativeStart).take windowSize)

theorem windowsAt_ok (relativeStart : ℕ) (candidates : List TokenSegment) :
    ∃ out, s.windowsAt region relativeStart candidates = .ok (candidates ++ out) ∧
      ∀ w ∈ s.windowSizes, Windowed region relativeStart w out := by
  have hpos := s.window_positive
  unfold RollingQuerySegmenter.windowsAt
  generalize s.windowSizes = sizes at hpos ⊢
  induction sizes generalizing candidates with
  | nil => exact ⟨[], by simp [pure, Except.pure], fun w hw => absurd hw List.not_mem_nil⟩
  | cons w sizes ih =>
    rw [List.foldlM_cons]
    by_cases hfit : relativeStart+w ≤ region.size
    · have hw := hpos w List.mem_cons_self
      have hslice : (region.tokenIds.take (relativeStart+w)).drop relativeStart =
          (region.tokenIds.drop relativeStart).take w := by
        rw [List.drop_take, Nat.add_sub_cancel_left]
      have hlen : ((region.tokenIds.drop relativeStart).take w).length = w := by
        have h : region.size = region.tokenIds.length := rfl
        rw [List.length_take, List.length_drop]
        omega
      have hne : (region.tokenIds.drop relativeStart).take w ≠ [] := by
        apply List.ne_nil_of_length_pos
        omega
      obtain ⟨c, hat, hp⟩ := segmentAt_ok (region.tokenRange.start+relativeStart) hne
      obtain ⟨out, hout, hall⟩ := ih (candidates ++ [c])
        (fun w hw => hpos w (List.mem_cons_of_mem _ hw))
      refine ⟨c::out, ?_, ?_⟩
      · apply (checked_ok_iff _ _ _).mpr
        refine ⟨candidates ++ [c], ?_, by rw [hout, List.append_assoc]; rfl⟩
        dsimp only
        rw [if_neg (not_lt.mpr hfit), hslice]
        obtain ⟨range, hrange, hseg⟩ := (checked_ok_iff _ _ _).mp hat
        apply (checked_ok_iff _ _ _).mpr
        refine ⟨range, ?_, (checked_ok_iff _ _ _).mpr ⟨c, hseg, rfl⟩⟩
        rw [← hrange, hlen]
        push_cast
        congr 1
        omega
      · intro w' hw' hfit'
        obtain rfl | hw' := List.mem_cons.mp hw'
        · exact ⟨c, List.mem_cons_self, hp⟩
        · obtain ⟨c', hc', hp'⟩ := hall w' hw' hfit'
          exact ⟨c', List.mem_cons_of_mem _ hc', hp'⟩
    · obtain ⟨out, hout, hall⟩ := ih candidates (fun w hw => hpos w (List.mem_cons_of_mem _ hw))
      refine ⟨out, ?_, fun w' hw' hfit' => ?_⟩
      · apply (checked_ok_iff _ _ _).mpr
        refine ⟨candidates, ?_, hout⟩
        dsimp only
        rw [if_pos (not_le.mp hfit)]
      · obtain rfl | hw' := List.mem_cons.mp hw'
        · exact absurd hfit' hfit
        · exact hall w' hw' hfit'

theorem rollRegion_ok (relativeStart : ℕ) (candidates : List TokenSegment) :
    ∃ out, s.rollRegion region relativeStart candidates = .ok (candidates ++ out) ∧
      ∀ k, ∀ w ∈ s.windowSizes, Windowed region (relativeStart+k*s.stride) w out := by
  induction relativeStart, candidates using RollingQuerySegmenter.rollRegion.induct s region with
  | case1 relativeStart candidates hlt ih =>
    obtain ⟨here, hhere, hall⟩ := windowsAt_ok s region relativeStart candidates
    obtain ⟨out, hout, hlater⟩ := ih (candidates ++ here)
    refine ⟨here ++ out, ?_, fun k w hw hfit => ?_⟩
    · rw [RollingQuerySegmenter.rollRegion, if_pos hlt]
      exact (checked_ok_iff _ _ _).mpr ⟨_, hhere, by rw [hout, List.append_assoc]⟩
    · cases k with
      | zero =>
        rw [Nat.zero_mul, Nat.add_zero] at hfit ⊢
        obtain ⟨c, hc, hp⟩ := hall w hw hfit
        exact ⟨c, List.mem_append_left _ hc, hp⟩
      | succ k =>
        have hstep : relativeStart+(k+1)*s.stride = relativeStart+s.stride+k*s.stride := by
          rw [Nat.succ_mul]
          omega
        rw [hstep] at hfit ⊢
        obtain ⟨c, hc, hp⟩ := hlater k w hw hfit
        exact ⟨c, List.mem_append_right _ hc, hp⟩
  | case2 relativeStart candidates hge =>
    refine ⟨[], ?_, fun k w hw hfit => ?_⟩
    · rw [RollingQuerySegmenter.rollRegion, if_neg hge, List.append_nil]
    · have hpos := s.window_positive w hw
      have hle := Nat.le_add_right relativeStart (k*s.stride)
      omega

end

theorem add_bucket (index : InMemoryRecordIndex) (r : CacheRecord)
    (key : CacheNamespace × SegmentFingerprint) :
    ((index.add r).get? key).getD [] = (index.get? key).getD [] ++
      if key = (r.cacheNamespace, r.fingerprint) then [r] else [] := by
  unfold InMemoryRecordIndex.add
  rw [Dict.get?_set]
  split_ifs with h
  · rw [h]
    rfl
  · exact (List.append_nil _).symm

theorem mem_lookup {records : List CacheRecord} {r : CacheRecord} (h : r ∈ records) :
    r ∈ (InMemoryRecordIndex.new records).lookup r.cacheNamespace r.fingerprint := by
  have hkept : ∀ (index : InMemoryRecordIndex) (records : List CacheRecord),
      r ∈ (index.get? (r.cacheNamespace, r.fingerprint)).getD [] ∨ r ∈ records →
      r ∈ ((records.foldl InMemoryRecordIndex.add index).get?
        (r.cacheNamespace, r.fingerprint)).getD [] := by
    intro index records
    induction records generalizing index with
    | nil => exact fun h => h.elim id fun h => absurd h List.not_mem_nil
    | cons r' records ih =>
      intro h
      rw [List.foldl_cons]
      apply ih
      rw [add_bucket]
      obtain h | h := h
      · exact .inl (List.mem_append_left _ h)
      · obtain rfl | h := List.mem_cons.mp h
        · rw [if_pos rfl]
          exact .inl (List.mem_append_right _ List.mem_cons_self)
        · exact .inr h
  exact (sortedBy_perm recordSortKey _).mem_iff.mpr (hkept Dict.empty records (.inr h))

theorem window_verified {fingerprinter : SegmentFingerprinter} {cacheNamespace : CacheNamespace}
    {c q : TokenSegment} {cacheKey : String} {r : CacheRecord}
    (hr : buildCacheRecord fingerprinter cacheNamespace c cacheKey = .ok r)
    (htokens : q.tokenIds = c.tokenIds) {records : List CacheRecord} (hmem : r ∈ records)
    {queries : List TokenSegment} (hq : q ∈ queries) :
    ∃ st, resolveQueries fingerprinter (steadyLookup (InMemoryRecordIndex.new records).lookup)
        cacheNamespace 0 ⟨[], []⟩ queries = .ok st ∧
      ⟨q, fingerprinter cacheNamespace q.tokenIds, r⟩ ∈ st.verified := by
  have hrecord : r.cacheNamespace = cacheNamespace ∧
      r.fingerprint = fingerprinter cacheNamespace c.tokenIds ∧ r.tokenIds = c.tokenIds := by
    unfold buildCacheRecord CacheRecord.new at hr
    split_ifs at hr
    cases hr
    exact ⟨rfl, rfl, rfl⟩
  obtain ⟨hn, hf, ht⟩ := hrecord
  refine ⟨_, (resolveQueries_seen _ _ _ _ _ _ _).mpr ⟨_, seen_steady _ _ _ _ _, rfl⟩, ?_⟩
  rw [add_all]
  apply List.mem_append_right
  apply (mem_verifiedOf _ _ _ _).mpr
  constructor
  · apply List.mem_flatMap.mpr
    refine ⟨q, hq, List.mem_map_of_mem ?_⟩
    have h := mem_lookup hmem
    rw [hn, hf, ← htokens] at h
    exact h
  · exact ⟨hn, hf.trans (by rw [htokens]), by rw [ht, hf], ht.trans htokens.symm⟩

/-! ## Nothing is lost -/

theorem new_delimiters {delimiters : List (List TokenId)} (hn : delimiters ≠ [])
    (he : [] ∉ delimiters) : ∃ s, DelimiterSegmenter.new
        (delimiters.map (List.map (fun t => (t.val : ℤ)))) = .ok s ∧
      ∀ d, d ∈ s.delimiters ↔ d ∈ delimiters := by
  have hnormalized : (delimiters.map (List.map (fun t : TokenId => (t.val : ℤ)))).mapM
      normalizeTokenIds = .ok delimiters := by
    rw [mapM_returns_iff, List.forall₂_map_left_iff, List.forall₂_same]
    exact fun d _ => normalizeTokenIds_val d
  have hempty : ¬∃ d ∈ delimiters, d = [] := by
    rintro ⟨d, hd, rfl⟩
    exact he hd
  unfold DelimiterSegmenter.new
  rw [hnormalized]
  simp only [bind, Except.bind]
  rw [dif_neg hn, dif_neg hempty]
  exact ⟨_, rfl, fun d => (sortedBy_perm delimiterKey _).mem_iff.trans List.mem_dedup⟩

/-- Segments of a text from an offset on: what a scan for the delimiters leaves. -/
structure Segmented (delimiters : List (List TokenId)) (tokens : List TokenId) (offset : ℕ)
    (segments : List TokenSegment) : Prop where
  scanned : ∃ blocks last, Scan delimiters tokens blocks last ∧
    segments.map placed = regionsAt offset blocks last ∧
    ∀ i, offset ≤ i → i < offset+tokens.length →
      ((∃ s ∈ segments, Covers (placed s) i) ↔ ¬∃ q ∈ delimitersAt offset blocks, Covers q i)
  apart : segments.Pairwise (fun s s' => s.tokenRange.stop < s'.tokenRange.start)
  inPlace : ∀ s ∈ segments, offset ≤ s.tokenRange.start ∧
    (tokens.drop (s.tokenRange.start-offset)).take s.size = s.tokenIds
  free : ∀ s ∈ segments, ∀ i, Covers (placed s) i →
    ∀ d ∈ delimiters, ¬d <+: tokens.drop (i-offset)

theorem placed_stop (s : TokenSegment) : (placed s).1+(placed s).2.length = s.tokenRange.stop := by
  have h := s.size_eq
  have ho := s.tokenRange.ordered
  unfold TokenRange.size at h
  show s.tokenRange.start+s.tokenIds.length = _
  omega

theorem segment_ok (s : DelimiterSegmenter) (tokens : List TokenId) (offset : ℕ) :
    ∃ segments, s.segment (tokens.map (fun t => (t.val : ℤ))) offset = .ok segments ∧
      Segmented s.delimiters tokens offset segments := by
  obtain ⟨segments, blocks, last, hout, hscan, hplaced⟩ := scan_ok s tokens offset 0 0 []
    (le_refl 0) (Nat.zero_le _) (fun i hi => absurd hi (Nat.not_lt_zero i))
  rw [List.drop_zero] at hscan
  have hplaced' : segments.map placed = regionsAt offset blocks last := hplaced
  have hregion : ∀ t ∈ segments, placed t ∈ regionsAt offset blocks last :=
    fun t ht => hplaced' ▸ List.mem_map_of_mem ht
  refine ⟨segments, ?_, ⟨blocks, last, hscan, hplaced', fun i hlow hhigh => ?_⟩, ?_,
    fun t ht => ⟨regionsAt_start _ (hregion t ht), ?_⟩, fun t ht => ?_⟩
  · apply (checked_ok_iff _ _ _).mpr
    refine ⟨tokens, normalizeTokenIds_val tokens, ?_⟩
    rw [if_neg (by omega)]
    exact hout
  · rw [← covered_iff hscan offset hlow hhigh, ← hplaced']
    constructor
    · rintro ⟨t, ht, hc⟩
      exact ⟨placed t, List.mem_map_of_mem ht, hc⟩
    · rintro ⟨q, hq, hc⟩
      obtain ⟨t, ht, rfl⟩ := List.mem_map.mp hq
      exact ⟨t, ht, hc⟩
  · have h := regionsAt_apart s.delimiter_nonempty hscan offset
    rw [← hplaced', List.pairwise_map] at h
    refine h.imp fun {t t'} hlt => ?_
    rw [placed_stop] at hlt
    exact hlt
  · exact (regionsAt_spec hscan offset _ (hregion t ht)).2.1
  · exact (regionsAt_spec hscan offset _ (hregion t ht)).2.2

/-- The chunks of a region begin with it and rebuild it up to a tail that is too short to store. -/
def Rebuilds (s : FixedChunkStorageSegmenter) (region : TokenSegment)
    (chunks : List TokenSegment) : Prop :=
  Chunked s.chunkSize s.partialLimit region.tokenRange.start region.tokenIds
      (chunks.map placed) ∧
    ∃ tail, (chunks.map TokenSegment.tokenIds).flatten ++ tail = region.tokenIds ∧
      tail.length < s.partialLimit

theorem chunks_ok (s : FixedChunkStorageSegmenter) (regions : List TokenSegment) :
    ∃ groups, s.segment regions = .ok groups.flatten ∧
      List.Forall₂ (Rebuilds s) regions groups := by
  have h := foldlM_append (P := Rebuilds s)
    (f := fun chunks region => s.chunkRegion region 0 chunks)
    (fun region chunks => by
      obtain ⟨out, hout, hchunked⟩ := chunkRegion_ok s region 0 chunks
      obtain ⟨tail, ht, hlen⟩ := chunked_rebuilds (partialLimit_pos s) hchunked
      rw [List.map_map] at ht
      exact ⟨out, hout, hchunked, tail, ht, hlen⟩) regions []
  exact h

theorem windows_ok (s : RollingQuerySegmenter) (regions : List TokenSegment) :
    ∃ queries, s.segment regions = .ok queries ∧ ∀ region ∈ regions, ∀ k, ∀ w ∈ s.windowSizes,
      Windowed region (k*s.stride) w queries := by
  obtain ⟨groups, hout, hall⟩ := foldlM_append
    (P := fun region out => ∀ k, ∀ w ∈ s.windowSizes, Windowed region (0+k*s.stride) w out)
    (fun region candidates => rollRegion_ok s region 0 candidates) regions []
  refine ⟨groups.flatten, hout, fun region hr k w hw hfit => ?_⟩
  obtain ⟨group, hg, hwindow⟩ := forall₂_left hall hr
  have h := hwindow k w hw
  rw [Nat.zero_add] at h
  obtain ⟨c, hc, hp⟩ := h hfit
  exact ⟨c, List.mem_flatten.mpr ⟨group, hg, hc⟩, hp⟩

/-- Splitting and chunking lose no token, and the windows of stride 1 find
every stored chunk of their size, wherever its tokens occur in a query. -/
theorem segmentation_complete :
    (∀ delimiters : List (List TokenId), delimiters ≠ [] → [] ∉ delimiters →
      ∃ s, DelimiterSegmenter.new (delimiters.map (List.map (fun t => (t.val : ℤ)))) = .ok s ∧
        (∀ d, d ∈ s.delimiters ↔ d ∈ delimiters) ∧
        ∀ (tokens : List TokenId) (offset : ℕ), ∃ segments,
          s.segment (tokens.map (fun t => (t.val : ℤ))) offset = .ok segments ∧
          Segmented s.delimiters tokens offset segments) ∧
    (∀ (s : FixedChunkStorageSegmenter) (regions : List TokenSegment),
      ∃ groups, s.segment regions = .ok groups.flatten ∧
        List.Forall₂ (Rebuilds s) regions groups) ∧
    ∀ (s : RollingQuerySegmenter) (regions : List TokenSegment), s.stride = 1 →
      ∃ queries, s.segment regions = .ok queries ∧
        ∀ chunk : TokenSegment, chunk.size ∈ s.windowSizes → ∀ region ∈ regions,
          ∀ before after, region.tokenIds = before ++ chunk.tokenIds ++ after →
          ∃ q ∈ queries,
            placed q = (region.tokenRange.start+before.length, chunk.tokenIds) ∧
            ∀ (fingerprinter : SegmentFingerprinter) (cacheNamespace : CacheNamespace)
              (cacheKey : String) (r : CacheRecord) (records : List CacheRecord),
              buildCacheRecord fingerprinter cacheNamespace chunk cacheKey = .ok r →
              r ∈ records →
              ∃ st, resolveQueries fingerprinter
                  (steadyLookup (InMemoryRecordIndex.new records).lookup) cacheNamespace 0
                  ⟨[], []⟩ queries = .ok st ∧
                ⟨q, fingerprinter cacheNamespace q.tokenIds, r⟩ ∈ st.verified := by
  refine ⟨fun delimiters hn he => ?_, chunks_ok, fun s regions hstride => ?_⟩
  · obtain ⟨s, hs, hmem⟩ := new_delimiters hn he
    exact ⟨s, hs, hmem, segment_ok s⟩
  · obtain ⟨queries, hout, hwindows⟩ := windows_ok s regions
    refine ⟨queries, hout, fun chunk hw region hr before after htokens => ?_⟩
    have hfit : before.length*s.stride+chunk.size ≤ region.size := by
      show _ ≤ region.tokenIds.length
      rw [htokens, hstride, List.length_append, List.length_append]
      show _+chunk.tokenIds.length ≤ _
      omega
    obtain ⟨q, hq, hp⟩ := hwindows region hr before.length chunk.size hw hfit
    have hslice : (region.tokenIds.drop before.length).take chunk.size = chunk.tokenIds := by
      rw [htokens, List.append_assoc, List.drop_left]
      exact List.take_left
    rw [hstride, Nat.mul_one, hslice] at hp
    exact ⟨q, hq, hp, fun fingerprinter cacheNamespace cacheKey r records hb hmem =>
      window_verified hb (congrArg Prod.snd hp) hmem hq⟩

end CacheBlend.Segmentation
