import CacheBlend.SchedulerRuntime
import CacheBlend.SidecarHistories

/-!
# Capacity of the sidecar

The writer bounds a batch and the reader bounds a bucket. A history of
successful writes can be read in a bucket exactly when the bucket holds at
most as many distinct records as the reader allows. One chunk published at
one position more than that makes its bucket unreadable.
-/

set_option autoImplicit false

namespace CacheBlend.SidecarCapacity
open CacheBlend.PlannerModels CacheBlend.SegmentFingerprints CacheBlend.LmcacheTypes
open CacheBlend.CandidateLookup CacheBlend.CandidateVerdicts CacheBlend.SchedulerRuntime
open CacheBlend.SidecarRows CacheBlend.SidecarIndex CacheBlend.HashPreimages
open CacheBlend.SidecarHistories
open CacheBlend.LookupPlans (exampleNamespace)

section
variable {sha256 : Bytes → Digest}

theorem flatMap_accepted {cs : List AddCall} (h : ∀ c ∈ cs, ∃ count, c.result = .ok count) :
    cs.flatMap AddCall.accepted = cs.flatMap AddCall.records := by
  unfold List.flatMap
  congr 1
  apply List.map_congr_left
  intro c hc
  obtain ⟨count, hr⟩ := h c hc
  unfold AddCall.accepted
  rw [hr]

theorem verifyCandidates_corruption {config : RuntimeConfig} {records : RecordLookup}
    {request : SchedulerLookupRequest} {candidates : List LmcacheCandidate} {windows : ℕ}
    (h : (SchedulerLookupRuntime.verifyCandidates sha256 config records request candidates
      windows).1 = .fatalSidecarCorruption) :
    ∃ rawIndex fp x, records rawIndex config.cacheNamespace fp = .error x := by
  unfold SchedulerLookupRuntime.verifyCandidates at h
  cases hs : SchedulerLookupRuntime.structuralChecks candidates windows with
  | error status =>
    rw [hs] at h
    obtain hp | ⟨_, _, hp⟩ := (checked_error_iff _ _ _).mp hs
    all_goals
      unfold require at hp
      split_ifs at hp
      cases hp
      cases h
  | ok u =>
    rw [hs] at h
    dsimp only at h
    unfold SchedulerLookupRuntime.coordinatorStatus at h
    split at h
    · next e he =>
      have hcause : ∃ x, e.cause = some x := by
        split_ifs at h with hc
        obtain hc | hc := of_decide_eq_true hc
        · exact ⟨_, hc⟩
        · exact ⟨_, hc⟩
      obtain ⟨x, hx⟩ := hcause
      obtain ⟨i, fp, hl⟩ := plan_cause sha256 he x hx
      exact ⟨i, fp, x, hl⟩
    · split_ifs at h

/-- After successful writes a lookup returns exactly when its bucket holds at
most the reader's limit of distinct records, and within the limit the
scheduler finds no corruption. -/
theorem readable_iff_within_limit (writer reader : SqliteSidecarIndex) (cs : List AddCall)
    (t : SidecarTable) (n : CacheNamespace)
    (h : Run (Added sha256 writer) SidecarTable.empty cs t)
    (hall : ∀ c ∈ cs, ∃ count, c.result = .ok count)
    (hc : CollisionFree sha256 (usedInputs n (cs.flatMap AddCall.records)))
    (hopen : reader.closed = false) (hn : NamespaceValid n) :
    (∀ fp, (∃ out, reader.lookup sha256 t n fp = .ok out) ↔
      (bucketOf (firstBy id [] (cs.flatMap AddCall.records)) n fp).length ≤
        maxCollisionBucketRecords) ∧
    ((∀ fp, (bucketOf (firstBy id [] (cs.flatMap AddCall.records)) n fp).length ≤
        maxCollisionBucketRecords) →
      ∀ (config : RuntimeConfig) (request : SchedulerLookupRequest)
        (candidates : List LmcacheCandidate) (windows : ℕ), config.cacheNamespace = n →
        (SchedulerLookupRuntime.verifyCandidates sha256 config (reader.recordLookup sha256 t)
          request candidates windows).1 ≠ .fatalSidecarCorruption) := by
  have hdistinct : distinctRecords cs = firstBy id [] (cs.flatMap AddCall.records) := by
    rw [distinctRecords, flatMap_accepted hall]
  have hreads : ∀ fp, (∃ out, reader.lookup sha256 t n fp = .ok out) ↔
      (bucketOf (firstBy id [] (cs.flatMap AddCall.records)) n fp).length ≤
        maxCollisionBucketRecords := by
    intro fp
    rw [← hdistinct]
    constructor
    · rintro ⟨out, ho⟩
      exact ((lookup_ok_iff (history_content h) (distinct_used cs) reader n fp hc _).mp ho).2.2.1
    · intro hl
      exact ⟨_, (lookup_ok_iff (history_content h) (distinct_used cs) reader n fp hc _).mpr
        ⟨hopen, hn, hl, rfl⟩⟩
  refine ⟨hreads, fun hl config request candidates windows hname hfatal => ?_⟩
  obtain ⟨i, fp, x, hx⟩ := verifyCandidates_corruption hfatal
  obtain ⟨out, ho⟩ := (hreads fp).mpr (hl fp)
  rw [hname] at hx
  unfold SqliteSidecarIndex.recordLookup at hx
  rw [ho] at hx
  cases hx

end

/-! ## One chunk at one position too many -/

def fullBatch : AddCall := ⟨.none, published maxCollisionBucketRecords, .ok 1024⟩

def oneMore : AddCall := ⟨.none, [positioned maxCollisionBucketRecords], .ok 1⟩

/-- One position is published and read again. -/
theorem one_position_readable : ∃ t,
    Run (Added endDigest openWriter) SidecarTable.empty [⟨.none, published 1, .ok 1⟩] t ∧
      ∀ fp, (∃ out, openWriter.lookup endDigest t exampleNamespace fp = .ok out) ↔
        (bucketOf (firstBy id [] ([(⟨.none, published 1, .ok 1⟩ : AddCall)].flatMap
          AddCall.records)) exampleNamespace fp).length ≤ maxCollisionBucketRecords := by
  obtain ⟨t, hadded, _⟩ := published_added content_empty (List.nil_append (published 1))
    (by decide) (by decide)
  have hrun := Run.nil.snoc hadded
  refine ⟨t, hrun, (readable_iff_within_limit openWriter openWriter _ t exampleNamespace hrun
    (fun c hc => ⟨1, by rw [List.mem_singleton.mp hc]; rfl⟩) ?_ rfl (by decide +kernel)).1⟩
  rw [List.nil_append, List.flatMap_singleton]
  exact published_collisionFree (by decide)

/-- Both writes succeed, and the bucket that they leave cannot be read. -/
theorem overfull_bucket_unreadable : ∃ t,
    Run (Added endDigest openWriter) SidecarTable.empty [fullBatch, oneMore] t ∧
      CollisionFree endDigest (usedInputs exampleNamespace
        ([fullBatch, oneMore].flatMap AddCall.records)) ∧
      openWriter.lookup endDigest t exampleNamespace chunkFingerprint =
        .error ⟨.corruption, .collisionBucketLimit⟩ := by
  have hlimit : maxCollisionBucketRecords+1 ≤ maxTokenPosition := by decide
  have hsize : (published maxCollisionBucketRecords).length = 1024 := by
    rw [published, List.length_map, List.length_range, maxCollisionBucketRecords]
  obtain ⟨t₁, hfirst, hcontent⟩ := published_added content_empty
    (List.nil_append (published maxCollisionBucketRecords)) (by decide) (by rw [hsize]; decide)
  obtain ⟨t₂, hsecond, hcontent⟩ := published_added hcontent
    (published_succ maxCollisionBucketRecords).symm hlimit (by decide)
  have hrecords : [fullBatch, oneMore].flatMap AddCall.records =
      published (maxCollisionBucketRecords+1) := by
    simp only [List.flatMap_cons, List.flatMap_nil, List.append_nil, fullBatch, oneMore]
    exact (published_succ maxCollisionBucketRecords).symm
  rw [hsize] at hfirst
  refine ⟨t₂, .snoc (.snoc .nil hfirst) hsecond, ?_, ?_⟩
  · rw [hrecords]
    exact published_collisionFree hlimit
  · have hn : NamespaceValid exampleNamespace := by decide +kernel
    have hlong : ¬(published (maxCollisionBucketRecords+1)).length ≤
        maxCollisionBucketRecords := by
      rw [published, List.length_map, List.length_range]
      exact Nat.not_succ_le_self _
    have hread : openWriter.lookup endDigest t₂ exampleNamespace chunkFingerprint = _ :=
      lookup_eq rfl hcontent exampleNamespace chunkFingerprint hn
        (other_namespaces hcontent hn (fun _ hr => hr) (published_collisionFree hlimit))
    rw [published_bucket] at hread
    exact hread.trans (if_neg hlong)

end CacheBlend.SidecarCapacity
