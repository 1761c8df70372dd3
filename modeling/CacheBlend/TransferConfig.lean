import CacheBlend.EscapingFaults
import CacheBlend.StoreReceipts

/-!
# The connector's extra configuration

A JSON-shaped dictionary is parsed into one of three modes. The complete
transfer mode checks every field before the namespace is built. Three of its
checks convert the value first: a text is encoded as UTF-8, which surrogates
have none of, and a timeout is read as a float, which huge integers have none
of. The parser of URLs is a parameter.
-/

set_option autoImplicit false

namespace CacheBlend.TransferConfig
open CacheBlend.PlannerModels CacheBlend.JsonValues CacheBlend.EscapingFaults
open CacheBlend.StoreReceipts (pinnedTarget)

def lmcacheSourceCommit : String := "7f326118a2f1afc7801988dd02e3055bdf21ef6b"
def lmcacheBlendProtocol : String := "multiprocess-blend-v2"
def lmcacheHashAlgorithm : String := "blake3"
def lmcacheChunkSize : ℤ := 256
def maxLmcacheServerUrlBytes : ℕ := 2048
def maxSidecarPathBytes : ℕ := 4096
def maxIdentityFieldBytes : ℕ := 1024
def maxStagingTokenCapacity : ℤ := 131072
def maxRequestTimeoutSeconds : ℚ := 300

inductive TransferConfigErrorCode where
  | invalidExtraConfigType
  | modeMissing
  | modeUnsupported
  | unknownTopLevelKeys
  | missingTransferKeys
  | invalidAttestationType
  | unknownAttestationKeys
  | missingAttestationKeys
  | attestationMismatch
  | invalidLmcacheServerUrl
  | invalidSidecarPath
  | invalidTransferEvidencePath
  | invalidIdentityField
  | invalidConfigDigest
  | invalidStagingTokenCapacity
  | invalidRequestTimeout
  | invalidTransferFailurePolicy
  deriving DecidableEq

/-- A `TransferConfigError`, the `OverflowError` of an integer without a float,
the `UnicodeEncodeError` of a surrogate, or a `ValueError` of the namespace. -/
inductive TransferConfigFault where
  | config (code : TransferConfigErrorCode)
  | overflow
  | unicode
  | value (e : ValueError)
  deriving DecidableEq

/-- The length of `value.encode("utf-8")`. -/
def encodedLength (t : PyText) : Except TransferConfigFault ℕ :=
  if t.any isSurrogate = true then .error .unicode else .ok (t.map utf8Width).sum

/-! ## The checks of the fields -/

/-- What `urlsplit` gives, with the host name and the port of the location. -/
structure SplitResult where
  scheme : PyText
  netloc : PyText
  hostname : Option PyText
  port : Option ℕ
  username : Option PyText
  password : Option PyText
  path : PyText
  query : PyText
  fragment : PyText

section
variable (urlsplit : PyText → Option SplitResult)

/-- `_is_structurally_valid_server_url`; a `ValueError` of the parser is no
valid URL. -/
def isStructurallyValidServerUrl (t : PyText) : Bool :=
  match urlsplit t with
  | none => false
  | some parsed =>
    parsed.scheme = pyText "tcp" && parsed.netloc ≠ [] && parsed.hostname.any (· ≠ []) &&
      parsed.port.any (fun port => 1 ≤ port && port ≤ 65535) && parsed.username = none &&
      parsed.password = none && parsed.path = [] && parsed.query = [] && parsed.fragment = []

/-- A character that no URL may have: a percent sign, a space or a control. -/
def barredInUrl (c : CodePoint) : Bool := c.val = 37 || isSpace c || c.val < 32

def requireServerUrl (v : JsonValue) : Except TransferConfigFault Unit := do
  require (v.textValue ≠ []) (.config .invalidLmcacheServerUrl)
  let size ← encodedLength v.textValue
  require (size ≤ maxLmcacheServerUrlBytes ∧ pyText "tcp://" <+: v.textValue ∧
    v.textValue.any barredInUrl = false) (.config .invalidLmcacheServerUrl)
  require (isStructurallyValidServerUrl urlsplit v.textValue = true)
    (.config .invalidLmcacheServerUrl)

/-- `_require_sidecar_path` and `_require_transfer_evidence_path`, by their code. -/
def requirePath (code : TransferConfigErrorCode) (v : JsonValue) :
    Except TransferConfigFault Unit := do
  require (v.textValue ≠ [] ∧ 0 ∉ v.textValue) (.config code)
  let size ← encodedLength v.textValue
  require (size ≤ maxSidecarPathBytes ∧ pyText "/" <+: v.textValue) (.config code)

/-- `_require_identity_field`: a text that is not blank. -/
def requireIdentityField (v : JsonValue) : Except TransferConfigFault Unit := do
  require (v.textValue.any (fun c => !isSpace c) = true ∧ 0 ∉ v.textValue)
    (.config .invalidIdentityField)
  let size ← encodedLength v.textValue
  require (size ≤ maxIdentityFieldBytes) (.config .invalidIdentityField)

def requireConfigDigest (v : JsonValue) : Except TransferConfigFault Unit :=
  require (v.isHex 64 = true) (.config .invalidConfigDigest)

def requireStagingCapacity (v : JsonValue) : Except TransferConfigFault Unit :=
  require (v.isCount lmcacheChunkSize = true ∧ v.intValue ≤ maxStagingTokenCapacity ∧
    v.intValue%lmcacheChunkSize = 0) (.config .invalidStagingTokenCapacity)

def requireRequestTimeout (v : JsonValue) : Except TransferConfigFault ℚ :=
  match v.toFloat nearest with
  | none => .error (.config .invalidRequestTimeout)
  | some none => .error .overflow
  | some (some (.finite timeout)) =>
    if 0 < timeout ∧ timeout ≤ maxRequestTimeoutSeconds then .ok timeout
    else .error (.config .invalidRequestTimeout)
  | some (some _) => .error (.config .invalidRequestTimeout)

/-! ## The configurations -/

structure AttestationFields where
  lmcacheVersion : JsonValue
  sourceCommit : JsonValue
  protocol : JsonValue
  hashAlgorithm : JsonValue

def checkAttestation (f : AttestationFields) : Except TransferConfigFault Unit :=
  require (f.lmcacheVersion.isText pinnedTarget.lmcacheVersion = true ∧
    f.sourceCommit.isText lmcacheSourceCommit = true ∧
    f.protocol.isText lmcacheBlendProtocol = true ∧
    f.hashAlgorithm.isText lmcacheHashAlgorithm = true) (.config .attestationMismatch)

abbrev PinnedLmcacheServerAttestation : Type := Checked checkAttestation

/-- The arguments of the configuration; its failure policy is the only one. -/
structure ConfigFields where
  lmcacheServerUrl : JsonValue
  sidecarPath : JsonValue
  lmcacheServerAttestation : PinnedLmcacheServerAttestation
  modelRevision : JsonValue
  tokenizerRevision : JsonValue
  modelConfigDigest : JsonValue
  kvCacheConfigDigest : JsonValue
  adapterRevision : JsonValue
  stagingTokenCapacity : JsonValue
  requestTimeoutSeconds : JsonValue
  transferEvidencePath : JsonValue

structure Transfer100PctConfig where
  fields : ConfigFields
  requestTimeoutSeconds : ℚ
  cacheNamespace : CacheNamespace

/-- The path of the evidence, when there is one, is not that of the sidecar. -/
def checkEvidencePath (f : ConfigFields) : Except TransferConfigFault Unit :=
  if f.transferEvidencePath.isNull = true then .ok ⟨⟩
  else do
    requirePath .invalidTransferEvidencePath f.transferEvidencePath
    require (f.transferEvidencePath.textValue ≠ f.sidecarPath.textValue)
      (.config .invalidTransferEvidencePath)

def configNamespace (f : ConfigFields) : Except ValueError CacheNamespace :=
  CacheNamespace.new 1 pinnedTarget.modelId (textOf f.modelRevision.textValue)
    pinnedTarget.modelId (textOf f.tokenizerRevision.textValue)
    (textOf f.modelConfigDigest.textValue) (textOf f.kvCacheConfigDigest.textValue)
    (textOf f.adapterRevision.textValue) pinnedTarget.vllmVersion pinnedTarget.lmcacheVersion
    pinnedTarget.torchVersion pinnedTarget.cudaRuntime

/-- `Transfer100PctConfig.__post_init__`. -/
def Transfer100PctConfig.new (f : ConfigFields) :
    Except TransferConfigFault Transfer100PctConfig := do
  requireServerUrl urlsplit f.lmcacheServerUrl
  requirePath .invalidSidecarPath f.sidecarPath
  requireIdentityField f.modelRevision
  requireIdentityField f.tokenizerRevision
  requireConfigDigest f.modelConfigDigest
  requireConfigDigest f.kvCacheConfigDigest
  requireIdentityField f.adapterRevision
  requireStagingCapacity f.stagingTokenCapacity
  let timeout ← requireRequestTimeout f.requestTimeoutSeconds
  checkEvidencePath f
  let cacheNamespace ← (configNamespace f).mapError .value
  .ok ⟨f, timeout, cacheNamespace⟩

inductive ConnectorTransferConfig where
  | controlFlow
  | compatibilityProbe
  | transfer (config : Transfer100PctConfig)

/-! ## The parser -/

/-- `_require_exact_keys`. -/
def requireExactKeys (es : List (PyText × JsonValue)) (expected : List String)
    (unknownCode missingCode : TransferConfigErrorCode) : Except TransferConfigFault Unit := do
  require (∀ k ∈ es.map Prod.fst, k ∈ expected.map pyText) (.config unknownCode)
  require (∀ k ∈ expected.map pyText, k ∈ es.map Prod.fst) (.config missingCode)

def attestationKeys : List String :=
  ["lmcache_version", "source_commit", "protocol", "hash_algorithm"]

def transferKeys : List String :=
  ["mode", "lmcache_server_url", "sidecar_path", "lmcache_server_attestation", "model_revision",
    "tokenizer_revision", "model_config_digest", "kv_cache_config_digest", "adapter_revision",
    "staging_token_capacity", "request_timeout_seconds", "transfer_failure_policy"]

def transferOptionalKeys : List String := ["transfer_evidence_path"]

def parseAttestation : JsonValue → Except TransferConfigFault PinnedLmcacheServerAttestation
  | .mapping es => do
    requireExactKeys es attestationKeys .unknownAttestationKeys .missingAttestationKeys
    construct checkAttestation
      { lmcacheVersion := field es "lmcache_version"
        sourceCommit := field es "source_commit"
        protocol := field es "protocol"
        hashAlgorithm := field es "hash_algorithm" }
  | _ => .error (.config .invalidAttestationType)

/-- The arguments of the configuration, once the attestation has been parsed. -/
def configFields (es : List (PyText × JsonValue)) (attestation : PinnedLmcacheServerAttestation) :
    ConfigFields where
  lmcacheServerUrl := field es "lmcache_server_url"
  sidecarPath := field es "sidecar_path"
  lmcacheServerAttestation := attestation
  modelRevision := field es "model_revision"
  tokenizerRevision := field es "tokenizer_revision"
  modelConfigDigest := field es "model_config_digest"
  kvCacheConfigDigest := field es "kv_cache_config_digest"
  adapterRevision := field es "adapter_revision"
  stagingTokenCapacity := field es "staging_token_capacity"
  requestTimeoutSeconds := field es "request_timeout_seconds"
  transferEvidencePath := field es "transfer_evidence_path"

/-- The transfer mode of `parse_connector_extra_config`. -/
def parseTransfer (es : List (PyText × JsonValue)) :
    Except TransferConfigFault Transfer100PctConfig := do
  require (∀ k ∈ es.map Prod.fst, k ∈ (transferKeys ++ transferOptionalKeys).map pyText)
    (.config .unknownTopLevelKeys)
  require (∀ k ∈ transferKeys.map pyText, k ∈ es.map Prod.fst) (.config .missingTransferKeys)
  require ((field es "transfer_failure_policy").isText "full_prefill" = true)
    (.config .invalidTransferFailurePolicy)
  let attestation ← parseAttestation (field es "lmcache_server_attestation")
  Transfer100PctConfig.new urlsplit (configFields es attestation)

def parseConnectorExtraConfig : JsonValue → Except TransferConfigFault ConnectorTransferConfig
  | .null => .ok .controlFlow
  | .mapping es =>
    let mode := field es "mode"
    if es.length = 0 then .ok .controlFlow
    else if mode.isNull = true then .error (.config .modeMissing)
    else if mode.isText "control_flow" = true then do
      requireExactKeys es ["mode"] .unknownTopLevelKeys .modeMissing
      .ok .controlFlow
    else if mode.isText "compatibility_probe" = true then do
      requireExactKeys es ["mode"] .unknownTopLevelKeys .modeMissing
      .ok .compatibilityProbe
    else if mode.isText "transfer_100pct" = true then do
      let config ← parseTransfer urlsplit es
      .ok (.transfer config)
    else .error (.config .modeUnsupported)
  | _ => .error (.config .invalidExtraConfigType)

end

end CacheBlend.TransferConfig
