import CacheBlend.PlannerModels

/-!
# Segment fingerprints

A segment is identified by the SHA-256 digest of its namespace and tokens,
each part with its length in front. The hash function is a parameter: no
property of it is assumed unless it is stated.
-/

set_option autoImplicit false

namespace CacheBlend.SegmentFingerprints
open CacheBlend.PlannerModels

def fingerprintDomain : Bytes := utf8 "cacheblend-gpt-oss\x00segment-fingerprint\x00v1\x00"

def tokenEncodingDomain : Bytes :=
  utf8 "cacheblend-gpt-oss\x00token-sequence\x00u64be-v1\x00"

def lengthPrefix (value : Bytes) : Bytes := packU64 value.length ++ value

def tokenBytes (tokenIds : List TokenId) : Bytes :=
  packU64 tokenIds.length ++ tokenIds.flatMap (fun t => packU64 t.val)

def canonicalTokenBytes (tokenIds : List TokenId) : Bytes :=
  tokenEncodingDomain ++ tokenBytes tokenIds

def namespaceBytes (cacheNamespace : CacheNamespace) : Bytes :=
  cacheNamespace.canonicalFields.flatMap
    (fun field => lengthPrefix (utf8 field.1) ++ lengthPrefix (utf8 field.2))

variable (sha256 : Bytes → Digest)

def fingerprint (cacheNamespace : CacheNamespace) (tokenIds : List TokenId) :
    SegmentFingerprint :=
  ⟨sha256 (fingerprintDomain ++ namespaceBytes cacheNamespace ++
    lengthPrefix (canonicalTokenBytes tokenIds))⟩

end CacheBlend.SegmentFingerprints
