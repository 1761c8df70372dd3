import CacheBlend.SegmentFingerprints

/-!
# Values of the LMCache transport

A candidate of the rolling-hash matcher names a stored hash and a target
range, and is not a hit. It is bound to a verified match only after every
condition of the match has been checked again.
-/

set_option autoImplicit false

namespace CacheBlend.LmcacheTypes
open CacheBlend.PlannerModels CacheBlend.SegmentFingerprints

def lmcacheChunkSize : ℕ := 256
def lmcacheCacheKeyPrefix : String := "lmcache:0.4.3:blake3:"

def queryDomain : Bytes := utf8 "cacheblend-gpt-oss\x00lmcache-query\x00v1\x00"

structure LmcacheProtocolError where
  text : String
  deriving DecidableEq

structure LmcacheCandidate where
  sourceRelativeRange : TokenRange
  targetRange : TokenRange
  storageHash : Digest
  storageModelName : NamespaceText
  queryDigest : Digest
  target_nonempty : 0 < targetRange.size
  size_eq : sourceRelativeRange.size = targetRange.size
  deriving DecidableEq

def LmcacheCandidate.new (sourceRelativeRange targetRange : TokenRange) (storageHash : Bytes)
    (storageModelName : String) (queryDigest : Bytes) :
    Except LmcacheProtocolError LmcacheCandidate :=
  if ht : sourceRelativeRange.size = 0 ∨ targetRange.size = 0 then
    .error ⟨"LMCache candidate ranges must not be empty"⟩
  else if hs : sourceRelativeRange.size = targetRange.size then
    if hh : storageHash.length = 32 then
      if hm : storageModelName ≠ "" ∧ '\x00' ∉ storageModelName.toList then
        if hq : queryDigest.length = 32 then
          .ok ⟨sourceRelativeRange, targetRange, ⟨storageHash, hh⟩, ⟨storageModelName, hm⟩,
            ⟨queryDigest, hq⟩, Nat.pos_of_ne_zero fun h => ht (Or.inr h), hs⟩
        else .error ⟨"LMCache candidate query digest is invalid"⟩
      else .error ⟨"LMCache candidate model namespace is empty"⟩
    else .error ⟨"LMCache candidate hash must be a 32-byte BLAKE3 digest"⟩
  else .error ⟨"LMCache candidate range lengths differ"⟩

def cacheKeyOf (storageHash : Bytes) : String := lmcacheCacheKeyPrefix ++ hex storageHash

def LmcacheCandidate.cacheKey (c : LmcacheCandidate) : String := cacheKeyOf c.storageHash.val

theorem cacheKeyOf_injective (a b : Bytes) (h : cacheKeyOf a = cacheKeyOf b) : a = b := by
  apply hex_injective
  have hl := congrArg String.toList h
  simp only [cacheKeyOf, String.toList_append] at hl
  exact String.toList_injective (List.append_cancel_left hl)

/-- A candidate and the match it is bound to. The conditions are the checks of
`bind` that do not depend on the expected namespace. -/
structure VerifiedLmcacheCandidate where
  candidate : LmcacheCandidate
  verified : VerifiedMatch
  range_eq : candidate.targetRange = verified.targetSegment.tokenRange
  key_eq : candidate.cacheKey = verified.record.cacheKey
  tokens_eq : verified.record.tokenIds = verified.targetSegment.tokenIds
  fingerprint_eq : verified.candidate.queryFingerprint = verified.record.fingerprint
  deriving DecidableEq

section
variable (sha256 : Bytes → Digest)

def queryDigest (tokenIds : List TokenId) : Digest := sha256 (queryDomain ++ tokenBytes tokenIds)

def VerifiedLmcacheCandidate.bind (candidate : LmcacheCandidate) (verified : VerifiedMatch)
    (expectedNamespace : CacheNamespace) :
    Except LmcacheProtocolError VerifiedLmcacheCandidate :=
  if verified.record.cacheNamespace ≠ expectedNamespace then
    .error ⟨"verified record namespace does not match"⟩
  else if hr : candidate.targetRange = verified.targetSegment.tokenRange then
    if hk : candidate.cacheKey = verified.record.cacheKey then
      if ht : verified.record.tokenIds = verified.targetSegment.tokenIds then
        if hf : verified.candidate.queryFingerprint =
              fingerprint sha256 expectedNamespace verified.targetSegment.tokenIds ∧
            verified.record.fingerprint =
              fingerprint sha256 expectedNamespace verified.targetSegment.tokenIds then
          if candidate.targetRange.size = verified.targetSegment.size then
            .ok ⟨candidate, verified, hr, hk, ht, hf.1.trans hf.2.symm⟩
          else .error ⟨"candidate and verified token counts differ"⟩
        else .error ⟨"verified record fingerprint does not match"⟩
      else .error ⟨"verified record token sequence does not match"⟩
    else .error ⟨"candidate storage hash is not bound to the verified sidecar record"⟩
  else .error ⟨"candidate and verified target ranges differ"⟩

theorem bind_returns (candidate : LmcacheCandidate) (verified : VerifiedMatch)
    (expectedNamespace : CacheNamespace)
    (hn : verified.record.cacheNamespace = expectedNamespace)
    (hr : candidate.targetRange = verified.targetSegment.tokenRange)
    (hk : candidate.cacheKey = verified.record.cacheKey)
    (ht : verified.record.tokenIds = verified.targetSegment.tokenIds)
    (hq : verified.candidate.queryFingerprint =
      fingerprint sha256 expectedNamespace verified.targetSegment.tokenIds)
    (hf : verified.record.fingerprint =
      fingerprint sha256 expectedNamespace verified.targetSegment.tokenIds) :
    ∃ v, VerifiedLmcacheCandidate.bind sha256 candidate verified expectedNamespace = .ok v ∧
      v.candidate = candidate ∧ v.verified = verified := by
  have hsize : candidate.targetRange.size = verified.targetSegment.size := by
    rw [hr, TokenSegment.size_eq_range]
  unfold VerifiedLmcacheCandidate.bind
  rw [if_neg (not_not.mpr hn), dif_pos hr, dif_pos hk, dif_pos ht, dif_pos ⟨hq, hf⟩,
    if_pos hsize]
  exact ⟨_, rfl, rfl, rfl⟩

end

end CacheBlend.LmcacheTypes
