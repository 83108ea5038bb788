import VisionForge.Lib.Base64Url
import VisionForge.Lib.Checks
import VisionForge.Lib.Segments
import VisionForge.PhoneLease.JsonObject
import VisionForge.UsageLease.Cryptography

/-! # The usage-lease verifier of the phone

Texts are UTF-16, times are signed 64-bit. A verified lease carries, besides its
signed claims, the two deadlines its window is mapped to on the monotonic clock.
References that are null cannot be written here.
-/

namespace VisionForge.PhoneLease

open Lib.Ascii Lib.Base64Url Lib.Checks Lib.Long Lib.Segments Lib.Utf UsageLease

def ABSOLUTE_MAXIMUM_TTL_SECONDS : Int := 10
def SERVER_CLOCK_AHEAD_GRACE_SECONDS : Int := 2
def MAXIMUM_TOKEN_CHARACTERS : Nat := 8192
def MINIMUM_RSA_BITS : Nat := 3072
def PROTOCOL_VERSION : Int := 2
def LEASE_TYPE : Units := text "vf-dual-machine-usage-lease-v1"
def LEASE_ISSUER : Units := text "visionforge-dual-machine-service"
def LEASE_AUDIENCE : Units := text "visionforge-dual-machine-data-plane"
def EMPTY_PREVIOUS_LEASE_SHA256 : Units := widen (List.replicate 64 48)
def NANOS_PER_SECOND : Int := 1000000000

def HEADER_KEYS : List Units := [text "alg", text "kid", text "typ"]

def CLAIM_KEYS : List Units :=
  [text "akh", text "aud", text "authorization_kind", text "cbh", text "exp", text "hkh",
    text "iat", text "is_permanent", text "iss", text "jti",
    text "nbf", text "phase", text "pid", text "pth", text "pv", text "remaining", text "rv",
    text "seq", text "sid", text "sub", text "typ"]

inductive LeaseVerificationError where
  | verificationContextInvalid
  | tokenSizeInvalid
  | tokenSegmentsInvalid
  | base64urlInvalid
  | base64urlNotCanonical
  | headerInvalid
  | headerBindingInvalid
  | signatureInvalid
  | claimsInvalid
  | stringClaimInvalid
  | timeOrNumericClaimInvalid
  | expectedBindingMismatch
  | jtiInvalid
  | claimTypeInvalid (key : Units)
  | monotonicDeadlineOverflow
  | contiguousRenewalChainInvalid
  | contiguousRenewalWindowInvalid
  | contiguousRenewalDeadlineOverflow
  | keyringVerificationFailed
  deriving DecidableEq

abbrev Verifies := Except LeaseVerificationError

def isHexUnit (character : UInt16) : Bool :=
  (48 ≤ character && character ≤ 57) || (97 ≤ character && character ≤ 102)

/-- The patterns of a number of lowercase hexadecimal digits. -/
def matchesHex (digits : Nat) (value : Units) : Bool :=
  value.length == digits && value.all isHexUnit

def containsNonzero (value : Units) : Bool := value.any (· != 48)

def matchesNonzero (digits : Nat) (value : Units) : Bool :=
  matchesHex digits value && containsNonzero value

def previousLeaseSha256Valid (value : Units) (sequence : Int) : Bool :=
  matchesHex 64 value &&
    (if sequence = 0 then value == EMPTY_PREVIOUS_LEASE_SHA256 else containsNonzero value)

def isAuthorizationKind (value : Units) : Bool :=
  value == text "legacy_balance" || value == text "day" || value == text "week" ||
    value == text "month" || value == text "permanent"

/-- The value of a key, if it is of the selected type. -/
def typedClaim {α : Type} (select : JsonValue → Option α) (source : JsonMap) (key : Units) :
    Verifies α :=
  match (source.get key).bind select with
  | some value => .ok value
  | none => .error (.claimTypeInvalid key)

def stringClaim (source : JsonMap) (key : Units) : Verifies Units :=
  typedClaim (fun value => match value with | .string text => some text | _ => none) source key

def integerClaim (source : JsonMap) (key : Units) : Verifies Int :=
  typedClaim (fun value => match value with | .long number => some number | _ => none) source key

def booleanClaim (source : JsonMap) (key : Units) : Verifies Bool :=
  typedClaim (fun value => match value with | .boolean flag => some flag | _ => none) source key

/-- A condition on a text claim, as one step of a chain of conditions. -/
def stringClaimFails (source : JsonMap) (key : Units) (condition : Units → Bool) :
    Verifies Bool :=
  (stringClaim source key).map (fun value => !condition value)

/-- What a caller expects; a value that the source's constructor refuses cannot be
    built. -/
structure ExpectedBinding where
  entitlementId : Units
  pairId : Units
  sessionId : Units
  protocolVersion : Int
  revocationVersion : Int
  hostKeySha256 : Units
  androidKeySha256 : Units
  channelTranscriptSha256 : Units
  sequence : Int
  previousLeaseSha256 : Units
  authorizationKind : Units
  permanent : Bool
  entitlementIdHex : matchesNonzero 32 entitlementId = true
  pairIdHex : matchesNonzero 32 pairId = true
  sessionIdHex : matchesNonzero 32 sessionId = true
  hostKeyHex : matchesNonzero 64 hostKeySha256 = true
  androidKeyHex : matchesNonzero 64 androidKeySha256 = true
  channelHex : matchesNonzero 64 channelTranscriptSha256 = true
  previousLease : previousLeaseSha256Valid previousLeaseSha256 sequence = true
  protocol : protocolVersion = PROTOCOL_VERSION
  revocation : 0 < revocationVersion
  sequenceNonnegative : 0 ≤ sequence
  kind : isAuthorizationKind authorizationKind = true
  permanentKind : permanent = (authorizationKind == text "permanent")

def ExpectedBinding.matches (expected : ExpectedBinding) (claims : JsonMap) : Verifies Bool :=
  let text? := fun key value => (stringClaim claims key).map (· == value)
  let number? := fun key value => (integerClaim claims key).map (· == value)
  allTrue
    [text? (text "sub") expected.entitlementId,
      text? (text "pid") expected.pairId,
      text? (text "sid") expected.sessionId,
      number? (text "pv") expected.protocolVersion,
      number? (text "rv") expected.revocationVersion,
      text? (text "hkh") expected.hostKeySha256,
      text? (text "akh") expected.androidKeySha256,
      text? (text "cbh") expected.channelTranscriptSha256,
      number? (text "seq") expected.sequence,
      text? (text "pth") expected.previousLeaseSha256,
      text? (text "authorization_kind") expected.authorizationKind,
      (booleanClaim claims (text "is_permanent")).map (· == expected.permanent)]

structure VerifiedLease where
  tokenSha256 : Units
  entitlementId : Units
  pairId : Units
  sessionId : Units
  protocolVersion : Int
  revocationVersion : Int
  hostKeySha256 : Units
  androidKeySha256 : Units
  channelTranscriptSha256 : Units
  previousLeaseSha256 : Units
  sequence : Int
  authorizationKind : Units
  permanent : Bool
  remainingSeconds : Int
  issuedAtEpochSeconds : Int
  notBeforeEpochSeconds : Int
  expiresAtEpochSeconds : Int
  notBeforeMonotonicNanos : Int
  expiresAtMonotonicNanos : Int
  deriving DecidableEq

structure TokenSegments where
  headerBytes : Bytes
  payloadBytes : Bytes
  signatureBytes : Bytes
  signingInput : Bytes

def isBase64UrlCharacter (character : UInt16) : Bool :=
  (65 ≤ character && character ≤ 90) || (97 ≤ character && character ≤ 122) ||
    (48 ≤ character && character ≤ 57) || character == 45 || character == 95

def decodeCanonicalBase64Url (value : Units) : Verifies Bytes := do
  check (value ≠ [] ∧ 61 ∉ value) .base64urlInvalid
  check (value.all isBase64UrlCharacter = true) .base64urlInvalid
  match decode (value.map UInt16.toUInt8) with
  | none => .error .base64urlInvalid
  | some decoded =>
    check (widen (encode decoded) = value) .base64urlNotCanonical
    return decoded

def decodeToken (token : Units) : Verifies TokenSegments := do
  check (token ≠ [] ∧ token.length ≤ MAXIMUM_TOKEN_CHARACTERS) .tokenSizeInvalid
  match splitThree 46 token with
  | none => .error .tokenSegmentsInvalid
  | some (header, payload, signature) =>
    let headerBytes ← decodeCanonicalBase64Url header
    let payloadBytes ← decodeCanonicalBase64Url payload
    let signatureBytes ← decodeCanonicalBase64Url signature
    return {
      headerBytes := headerBytes
      payloadBytes := payloadBytes
      signatureBytes := signatureBytes
      signingInput := encodeAscii (header ++ 46 :: payload) }

/-- An object with exactly these keys, in canonical form. -/
def parseCanonicalObject (encoded : Bytes) (exactKeys : List Units)
    (error : LeaseVerificationError) : Verifies JsonMap :=
  match (decodeUtf8 encoded).bind JsonObjectParser.parse with
  | none => .error error
  | some parsed => do
      check ((∀ key ∈ parsed.keys, key ∈ exactKeys) ∧ (∀ key ∈ exactKeys, key ∈ parsed.keys) ∧
        encoded = canonicalJson parsed) error
      return parsed

def addSeconds (monotonicNowNanos seconds : Int) : Verifies Int :=
  match (multiplyExact seconds NANOS_PER_SECOND).bind (addExact monotonicNowNanos) with
  | none => .error .monotonicDeadlineOverflow
  | some deadline => .ok deadline

structure DualMachineUsageLeaseVerifier where
  /-- The encoded SubjectPublicKeyInfo of the key. -/
  publicKey : Bytes
  expectedKeyId : Units
  maximumTtlSeconds : Int
  deriving DecidableEq

namespace DualMachineUsageLeaseVerifier

/-- `none` where the constructor raises. -/
def create (crypto : Cryptography) (publicKey : Bytes) (maximumTtlSeconds : Int) :
    Option DualMachineUsageLeaseVerifier :=
  match crypto.rsaModulusBits publicKey with
  | none => none
  | some bits =>
    if bits < MINIMUM_RSA_BITS then none
    else if maximumTtlSeconds < 1 ∨ ABSOLUTE_MAXIMUM_TTL_SECONDS < maximumTtlSeconds then none
    else
      some
        { publicKey := publicKey
          expectedKeyId := widen (crypto.keyId publicKey)
          maximumTtlSeconds := maximumTtlSeconds }

variable (crypto : Cryptography) (verifier : DualMachineUsageLeaseVerifier)

def requireHeader (header : JsonMap) : Verifies PUnit := do
  let fails ← anyTrue
    [stringClaimFails header (text "alg") (· == text "RS256"),
      stringClaimFails header (text "typ") (· == text "JWT"),
      stringClaimFails header (text "kid") (matchesHex 16),
      stringClaimFails header (text "kid") (· == verifier.expectedKeyId)]
  check (fails = false) .headerBindingInvalid

def verifySignature (segments : TokenSegments) : Verifies PUnit :=
  check (crypto.rsaVerify verifier.publicKey segments.signingInput segments.signatureBytes = true)
    .signatureInvalid

def requireStringFormats (claims : JsonMap) : Verifies PUnit := do
  let sequence ← integerClaim claims (text "seq")
  let fails ← anyTrue
    [stringClaimFails claims (text "typ") (· == LEASE_TYPE),
      stringClaimFails claims (text "iss") (· == LEASE_ISSUER),
      stringClaimFails claims (text "aud") (· == LEASE_AUDIENCE),
      stringClaimFails claims (text "phase") (· == text "active"),
      stringClaimFails claims (text "authorization_kind") isAuthorizationKind,
      stringClaimFails claims (text "sub") (matchesNonzero 32),
      stringClaimFails claims (text "pid") (matchesNonzero 32),
      stringClaimFails claims (text "sid") (matchesNonzero 32),
      stringClaimFails claims (text "hkh") (matchesNonzero 64),
      stringClaimFails claims (text "akh") (matchesNonzero 64),
      stringClaimFails claims (text "cbh") (matchesNonzero 64),
      stringClaimFails claims (text "pth") (previousLeaseSha256Valid · sequence),
      stringClaimFails claims (text "jti") (matchesNonzero 32)]
  check (fails = false) .stringClaimInvalid

/-- The conditions on the numbers of a lease. -/
def numericClaimInvalid (protocolVersion revocationVersion sequence remaining issuedAt notBefore
    expiresAt : Int) (authorizationKind : Units) (permanent : Bool)
    (trustedWallTimeEpochSeconds : Int) : Prop :=
  protocolVersion ≠ PROTOCOL_VERSION ∨ revocationVersion ≤ 0 ∨ sequence < 0 ∨ remaining < 0 ∨
    issuedAt ≤ 0 ∨
    wrap (trustedWallTimeEpochSeconds + SERVER_CLOCK_AHEAD_GRACE_SECONDS) < issuedAt ∨
    notBefore < issuedAt ∨ expiresAt ≤ notBefore ∨ expiresAt ≤ trustedWallTimeEpochSeconds ∨
    verifier.maximumTtlSeconds < wrap (expiresAt - notBefore) ∨
    permanent ≠ (authorizationKind == text "permanent") ∨ (permanent = true ∧ remaining ≠ 0)

instance (protocolVersion revocationVersion sequence remaining issuedAt notBefore expiresAt : Int)
    (authorizationKind : Units) (permanent : Bool) (now : Int) :
    Decidable (verifier.numericClaimInvalid protocolVersion revocationVersion sequence remaining
      issuedAt notBefore expiresAt authorizationKind permanent now) := by
  unfold numericClaimInvalid
  infer_instance

def requireClaims (claims : JsonMap) (expected : ExpectedBinding)
    (trustedWallTimeEpochSeconds : Int) : Verifies PUnit := do
  requireStringFormats claims
  let protocolVersion ← integerClaim claims (text "pv")
  let revocationVersion ← integerClaim claims (text "rv")
  let sequence ← integerClaim claims (text "seq")
  let remaining ← integerClaim claims (text "remaining")
  let issuedAt ← integerClaim claims (text "iat")
  let notBefore ← integerClaim claims (text "nbf")
  let expiresAt ← integerClaim claims (text "exp")
  let authorizationKind ← stringClaim claims (text "authorization_kind")
  let permanent ← booleanClaim claims (text "is_permanent")
  check (¬verifier.numericClaimInvalid protocolVersion revocationVersion sequence remaining issuedAt
    notBefore expiresAt authorizationKind permanent trustedWallTimeEpochSeconds)
    .timeOrNumericClaimInvalid
  let bound ← expected.matches claims
  check (bound = true) .expectedBindingMismatch

def requireJti (claims : JsonMap) : Verifies PUnit := do
  let providedJti ← stringClaim claims (text "jti")
  let expectedJti :=
    widen ((crypto.sha256Hex (canonicalJson (claims.remove (text "jti")))).take 32)
  check (encodeAscii providedJti = encodeAscii expectedJti) .jtiInvalid

def mapLease (token : Units) (claims : JsonMap)
    (trustedWallTimeEpochSeconds monotonicNowNanos : Int) : Verifies VerifiedLease := do
  let issuedAtEpoch ← integerClaim claims (text "iat")
  let notBeforeEpoch ← integerClaim claims (text "nbf")
  let expiresEpoch ← integerClaim claims (text "exp")
  let mappingEpoch := max trustedWallTimeEpochSeconds issuedAtEpoch
  let notBeforeDeadline ←
    addSeconds monotonicNowNanos (max 0 (wrap (notBeforeEpoch - mappingEpoch)))
  let expiresDeadline ← addSeconds monotonicNowNanos (wrap (expiresEpoch - mappingEpoch))
  let entitlementId ← stringClaim claims (text "sub")
  let pairId ← stringClaim claims (text "pid")
  let sessionId ← stringClaim claims (text "sid")
  let protocolVersion ← integerClaim claims (text "pv")
  let revocationVersion ← integerClaim claims (text "rv")
  let hostKeySha256 ← stringClaim claims (text "hkh")
  let androidKeySha256 ← stringClaim claims (text "akh")
  let channelTranscriptSha256 ← stringClaim claims (text "cbh")
  let previousLeaseSha256 ← stringClaim claims (text "pth")
  let sequence ← integerClaim claims (text "seq")
  let authorizationKind ← stringClaim claims (text "authorization_kind")
  let permanent ← booleanClaim claims (text "is_permanent")
  let remainingSeconds ← integerClaim claims (text "remaining")
  return {
    tokenSha256 := widen (crypto.sha256Hex (encodeAscii token))
    entitlementId := entitlementId
    pairId := pairId
    sessionId := sessionId
    protocolVersion := protocolVersion
    revocationVersion := revocationVersion
    hostKeySha256 := hostKeySha256
    androidKeySha256 := androidKeySha256
    channelTranscriptSha256 := channelTranscriptSha256
    previousLeaseSha256 := previousLeaseSha256
    sequence := sequence
    authorizationKind := authorizationKind
    permanent := permanent
    remainingSeconds := remainingSeconds
    issuedAtEpochSeconds := issuedAtEpoch
    notBeforeEpochSeconds := notBeforeEpoch
    expiresAtEpochSeconds := expiresEpoch
    notBeforeMonotonicNanos := notBeforeDeadline
    expiresAtMonotonicNanos := expiresDeadline }

def verify (token : Units) (expected : ExpectedBinding)
    (trustedWallTimeEpochSeconds monotonicNowNanos : Int) : Verifies VerifiedLease := do
  check (0 < trustedWallTimeEpochSeconds) .verificationContextInvalid
  let segments ← decodeToken token
  let header ← parseCanonicalObject segments.headerBytes HEADER_KEYS .headerInvalid
  verifier.requireHeader header
  verifier.verifySignature crypto segments
  let claims ← parseCanonicalObject segments.payloadBytes CLAIM_KEYS .claimsInvalid
  verifier.requireClaims claims expected trustedWallTimeEpochSeconds
  requireJti crypto claims
  mapLease crypto token claims trustedWallTimeEpochSeconds monotonicNowNanos

end DualMachineUsageLeaseVerifier

end VisionForge.PhoneLease
