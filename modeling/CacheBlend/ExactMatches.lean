import CacheBlend.IndexCoherence

/-!
# The exact matcher is sound and complete

On an index whose hashes each stand in the bucket of their chunk's first token
and in no other, a query is answered with one result for each stored hash
whose chunk occurs in it, at the first occurrence, and with nothing else.
-/

set_option autoImplicit false

namespace CacheBlend.ExactMatches
open CacheBlend.ExactMatcher CacheBlend.MatchResponses CacheBlend.IndexCoherence

section
variable {chunkSize : ℕ} {m : TokenRangeMatcher chunkSize}

theorem stored_iff (hm : Linked m) (h : Bytes) (c : StoredChunk chunkSize) :
    (h, c) ∈ stored m ↔ m.byHash.get? h = some c := by
  rw [mem_stored]
  constructor
  · rintro ⟨first, bucket, hb, he⟩
    have hg : (m.bucket first).get? h = some c := by
      rw [bucket_of hb]
      exact (Dict.get?_iff _ _ _).mpr he
    exact ((hm first h c).mp hg).1
  · intro hg
    have hb := (hm c.first h c).mpr ⟨hg, rfl⟩
    unfold TokenRangeMatcher.bucket at hb
    cases hf : m.byFirstToken.get? c.first with
    | none =>
      rw [hf] at hb
      cases hb
    | some bucket =>
      rw [hf] at hb
      exact ⟨c.first, bucket, hf, (Dict.get?_iff _ _ _).mp hb⟩

theorem allHits_sorted (m : TokenRangeMatcher chunkSize) (tokenIds : List ℤ) :
    (allHits m tokenIds).Pairwise (fun r s => r.curSt ≤ s.curSt) := by
  have hstart : ∀ q, ∀ r ∈ hitsIn tokenIds q (bucketAt m tokenIds q), r.curSt = q := by
    intro q r hr
    obtain ⟨e, _, rfl⟩ := List.mem_map.mp hr
    rfl
  apply List.pairwise_flatMap.mpr
  constructor
  · intro q _
    refine List.pairwise_of_forall_mem_list fun r hr s hs => ?_
    rw [hstart q r hr, hstart q s hs]
  · refine List.pairwise_lt_range.imp fun {q q'} hlt r hr s hs => ?_
    rw [hstart q r hr, hstart q' s hs]
    omega

theorem mem_results_iff (hm : Linked m) (tokenIds : List ℤ) (hl : chunkSize ≤ tokenIds.length)
    (r : CBMatchResult) : r ∈ firstBy CBMatchResult.hash [] (allHits m tokenIds) ↔
      ∃ h c position, m.byHash.get? h = some c ∧ FirstAt tokenIds c.tokens position ∧
        r = matchResult position h c := by
  have hhits := mem_allHits (bucketed_of_linked hm) tokenIds hl
  -- The first hit of a hash is at the first occurrence of its chunk.
  have hfirst : ∀ s ∈ firstBy CBMatchResult.hash [] (allHits m tokenIds),
      ∃ h c position, m.byHash.get? h = some c ∧ FirstAt tokenIds c.tokens position ∧
        s = matchResult position h c := by
    intro s hs
    obtain ⟨q, hq, ⟨h, c⟩, he, hw, rfl⟩ := (hhits s).mp ((firstBy_sublist _ _ _).subset hs)
    refine ⟨h, c, q, (stored_iff hm h c).mp he, ⟨?_, ?_⟩, rfl⟩
    · rw [c.size_eq]
      exact ⟨hq, hw⟩
    · intro earlier hlt hw'
      rw [c.size_eq] at hw'
      have hhit : matchResult earlier h c ∈ allHits m tokenIds :=
        (hhits _).mpr ⟨earlier, by omega, (h, c), he, hw', rfl⟩
      have hle := firstBy_least CBMatchResult.hash CBMatchResult.curSt _
        (allHits_sorted m tokenIds) hs hhit rfl
      simp only [matchResult] at hle
      omega
  constructor
  · exact hfirst r
  · rintro ⟨h, c, position, hg, hp, rfl⟩
    obtain ⟨hin, hw⟩ := hp.occurs
    rw [c.size_eq] at hin hw
    have hhit : matchResult position h c ∈ allHits m tokenIds :=
      (hhits _).mpr ⟨position, hin, (h, c), (stored_iff hm h c).mpr hg, hw, rfl⟩
    have hkey : h ∈ (firstBy CBMatchResult.hash [] (allHits m tokenIds)).map
        CBMatchResult.hash :=
      (mem_firstBy_keys _ _ _).mpr (List.mem_map.mpr ⟨_, hhit, rfl⟩)
    obtain ⟨s, hs, hh⟩ := List.mem_map.mp hkey
    obtain ⟨h', c', position', hg', hp', rfl⟩ := hfirst s hs
    change h' = h at hh
    subst hh
    cases hg.symm.trans hg'
    rwa [firstAt_unique hp hp']

/-- Every stored hash whose chunk occurs in the query is answered once, with
its stored range and the range of the first occurrence, and nothing else is. -/
theorem exact_matches (hc : 1 ≤ chunkSize) (hm : Linked m) (tokenIds : List ℤ) :
    ∃ results, m.matchSubSequence tokenIds = .ok results ∧
      (∀ h c, m.byHash.get? h = some c → c.tokens <:+: tokenIds →
        ∃ position, FirstAt tokenIds c.tokens position ∧
          results.filter (fun r => r.hash = h) =
            [⟨c.start, c.start+chunkSize, position, position+chunkSize, h⟩]) ∧
      ∀ r ∈ results, ∃ c, m.byHash.get? r.hash = some c ∧ c.tokens <:+: tokenIds := by
  by_cases hl : chunkSize ≤ tokenIds.length
  · refine ⟨_, matchSubSequence_eq m tokenIds hc hl, fun h c hg hi => ?_, fun r hr => ?_⟩
    · obtain ⟨position, hp⟩ := infix_firstAt tokenIds c.tokens hi
      refine ⟨position, hp, ?_⟩
      exact filter_unique CBMatchResult.hash _ (matchResult position h c)
        (firstBy_keys_nodup _ _ _)
        ((mem_results_iff hm tokenIds hl _).mpr ⟨h, c, position, hg, hp, rfl⟩)
    · obtain ⟨h, c, position, hg, hp, rfl⟩ := (mem_results_iff hm tokenIds hl r).mp hr
      refine ⟨c, hg, ?_⟩
      rw [← hp.occurs.2]
      exact window_infix _ _ _
  · -- A query shorter than a chunk holds none.
    refine ⟨[], ?_, fun h c _ hi => ?_, fun r hr => absurd hr List.not_mem_nil⟩
    · unfold TokenRangeMatcher.matchSubSequence
      rw [if_neg (by omega), if_pos (by omega)]
    · have hle := hi.length_le
      rw [c.size_eq] at hle
      exact absurd hle hl

end

def pairChunk : StoredChunk 2 := ⟨[7, 7], 0, by decide, rfl⟩

/-- An overlapping repetition of a chunk is answered at its first place. -/
theorem overlapping_chunk_matched : ∃ results,
    ((TokenRangeMatcher.initial 2).add ⟨[1], pairChunk⟩).matchSubSequence [5, 7, 7, 7] =
      .ok results ∧ results.filter (fun r => r.hash = [1]) = [⟨0, 2, 1, 3, [1]⟩] := by
  have hm : Linked ((TokenRangeMatcher.initial 2).add ⟨[1], pairChunk⟩) :=
    linked_add linked_initial _ fun _ h => nomatch h
  obtain ⟨results, hr, hall, _⟩ := exact_matches (by decide) hm [5, 7, 7, 7]
  obtain ⟨position, hp, he⟩ := hall [1] pairChunk rfl ⟨[5], [7], rfl⟩
  have hone : FirstAt [5, 7, 7, 7] pairChunk.tokens 1 := ⟨by decide, by decide⟩
  rw [firstAt_unique hp hone] at he
  exact ⟨results, hr, he⟩

end CacheBlend.ExactMatches
