import VisionForge.Server.Database
import VisionForge.UsageLease.Cryptography
import VisionForge.UsageLease.Contract

/-! # The token codec of the service

Issuing and re-reading signed usage leases. Texts are kept as their UTF-8 octets.
A decoded token is represented when its header and payload are flat objects of
ASCII texts, integers and flags, as every object the service signs is; the source
accepts any object that equals its own canonical form.
-/

namespace VisionForge.Server

open Lib.Ascii Lib.Base64Url Lib.Decimal Lib.FlatJson Lib.Hex Lib.Segments UsageLease

def USAGE_LEASE_TYPE : Bytes := ascii "vf-dual-machine-usage-lease-v1"
def USAGE_LEASE_ISSUER : Bytes := ascii "visionforge-dual-machine-service"
def USAGE_LEASE_AUDIENCE : Bytes := ascii "visionforge-dual-machine-data-plane"
def MAX_TOKEN_CHARACTERS : Nat := 8192

structure RsaTokenCodec where
  publicKey : Bytes
  sign : Bytes → Bytes
  leaseTtlSeconds : Nat
  verificationPublicKeys : List Bytes := []
  ttl : 3 ≤ leaseTtlSeconds ∧ leaseTtlSeconds ≤ 10

structure IssuedLease where
  usageLease : Bytes
  usageLeaseSha256 : Bytes
  usageLeaseExpiresAtEpoch : Nat
  usageLeaseNotBeforeEpoch : Nat
  usageLeaseTtlSeconds : Nat
  deriving DecidableEq

def validPreviousLeaseSha256 (value : Bytes) (sequence : Nat) : Bool :=
  if value.length ≠ 64 then false
  else if sequence = 0 then value == List.replicate 64 48
  else isNonzeroLowerHex value 64

def isPermanent (ent : EntitlementRow) : Bool :=
  ent.authorizationKind.text == ascii "permanent"

def unsignedPayload (ent : EntitlementRow)
    (sessionId channelBindingSha256 : Bytes) (sequence : Nat) (phase previousLeaseSha256 : Bytes)
    (now notBefore expiresAt : Nat) : Members :=
  [(ascii "typ", .text USAGE_LEASE_TYPE),
    (ascii "iss", .text USAGE_LEASE_ISSUER),
    (ascii "aud", .text USAGE_LEASE_AUDIENCE),
    (ascii "sub", .text ent.entitlementId),
    (ascii "pid", .text ent.pairId),
    (ascii "sid", .text sessionId),
    (ascii "pv", .number ent.protocolVersion),
    (ascii "rv", .number ent.revocationVersion),
    (ascii "hkh", .text ent.hostKeySha256),
    (ascii "akh", .text ent.androidKeySha256),
    (ascii "cbh", .text channelBindingSha256),
    (ascii "pth", .text previousLeaseSha256),
    (ascii "seq", .number sequence),
    (ascii "phase", .text phase),
    (ascii "authorization_kind", .text ent.authorizationKind.text),
    (ascii "is_permanent", .flag (isPermanent ent)),
    (ascii "remaining", .number ent.remainingSeconds),
    (ascii "iat", .number now),
    (ascii "nbf", .number notBefore),
    (ascii "exp", .number expiresAt)]

namespace RsaTokenCodec

def signPayload (codec : RsaTokenCodec) (crypto : Cryptography) (payload : Members) : Bytes :=
  let hdr : Members :=
    [(ascii "alg", .text (ascii "RS256")), (ascii "typ", .text (ascii "JWT")),
      (ascii "kid", .text (crypto.keyId codec.publicKey))]
  let signingInput := encode (canonical hdr) ++ 46 :: encode (canonical payload)
  signingInput ++ 46 :: encode (codec.sign signingInput)

def issueUsageLease (codec : RsaTokenCodec) (crypto : Cryptography) (ent : EntitlementRow)
    (sessionId channelBindingSha256 : Bytes) (sequence : Nat) (phase : Bytes)
    (leaseDurationSeconds : Nat) (previousLeaseSha256 : Bytes) (now notBefore : Nat) :
    Except ServerException IssuedLease :=
  if ¬(1 ≤ leaseDurationSeconds ∧ leaseDurationSeconds ≤ codec.leaseTtlSeconds) ∨
      notBefore < now ∨ phase ≠ ascii "active" then
    .error (.valueError "dual_machine_usage_lease_parameters_invalid")
  else if !isNonzeroLowerHex ent.entitlementId 32 ||
      !isNonzeroLowerHex ent.pairId 32 ||
      !isNonzeroLowerHex sessionId 32 ||
      !isNonzeroLowerHex ent.hostKeySha256 64 ||
      !isNonzeroLowerHex ent.androidKeySha256 64 ||
      !isNonzeroLowerHex channelBindingSha256 64 ||
      !validPreviousLeaseSha256 previousLeaseSha256 sequence then
    .error (.valueError "dual_machine_usage_lease_binding_invalid")
  else
    let expiresAt := notBefore + leaseDurationSeconds
    let unsigned := unsignedPayload ent sessionId channelBindingSha256 sequence phase
      previousLeaseSha256 now notBefore expiresAt
    let leaseId := (crypto.sha256Hex (canonical unsigned)).take 32
    let token := codec.signPayload crypto (unsigned ++ [(ascii "jti", .text leaseId)])
    .ok
      { usageLease := token
        usageLeaseSha256 := crypto.sha256Hex token
        usageLeaseExpiresAtEpoch := expiresAt
        usageLeaseNotBeforeEpoch := notBefore
        usageLeaseTtlSeconds := leaseDurationSeconds }

end RsaTokenCodec

/-- The claims of the lease that `issueUsageLease` signs. -/
def signedClaims (crypto : Cryptography) (ent : EntitlementRow)
    (sessionId channelBindingSha256 : Bytes) (sequence : Nat) (previousLeaseSha256 : Bytes)
    (now notBefore expiresAt : Nat) : VerifiedUsageLeaseClaims where
  type := USAGE_LEASE_TYPE
  issuer := USAGE_LEASE_ISSUER
  audience := USAGE_LEASE_AUDIENCE
  entitlementId := ent.entitlementId
  pairId := ent.pairId
  sessionId := sessionId
  protocolVersion := ent.protocolVersion
  revocationVersion := ent.revocationVersion
  hostKeySha256 := ent.hostKeySha256
  androidKeySha256 := ent.androidKeySha256
  channelBindingSha256 := channelBindingSha256
  previousTicketSha256 := previousLeaseSha256
  sequence := sequence
  phase := ascii "active"
  authorizationKind := ent.authorizationKind.text
  isPermanent := isPermanent ent
  remainingSeconds := ent.remainingSeconds
  leaseId := (crypto.sha256Hex (canonical (unsignedPayload ent sessionId
    channelBindingSha256 sequence (ascii "active") previousLeaseSha256 now notBefore
    expiresAt))).take 32
  issuedAtEpoch := now
  notBeforeEpoch := notBefore
  expiresAtEpoch := expiresAt

section

variable (crypto : Cryptography) (ent : EntitlementRow)
  (sessionId channelBindingSha256 : Bytes) (sequence : Nat) (previousLeaseSha256 : Bytes)
  (now notBefore expiresAt : Nat)

theorem canonical_header (keyId : Bytes) :
    canonical [(ascii "alg", .text (ascii "RS256")), (ascii "typ", .text (ascii "JWT")),
      (ascii "kid", .text keyId)] = render (headerMembers keyId) :=
  canonical_of_positions [0, 2, 1]
    (show [ascii "alg", ascii "kid", ascii "typ"].Pairwise _ by decide) rfl
    (show [0, 2, 1].Perm (List.range 3) by decide) rfl

theorem canonical_unsignedPayload :
    canonical (unsignedPayload ent sessionId channelBindingSha256 sequence
      (ascii "active") previousLeaseSha256 now notBefore expiresAt) =
      render (signedClaims crypto ent sessionId channelBindingSha256 sequence
        previousLeaseSha256 now notBefore expiresAt).membersWithoutLeaseId :=
  canonical_of_positions [19, 8, 1, 18, 11, 17, 13, 15, 5, 0, 3, 12, 16, 10, 2, 7, 14, 6, 9, 4]
    (show [ascii "akh", ascii "aud", ascii "authorization_kind", ascii "cbh", ascii "exp",
      ascii "hkh", ascii "iat", ascii "is_permanent", ascii "iss", ascii "nbf", ascii "phase",
      ascii "pid", ascii "pth", ascii "pv", ascii "remaining", ascii "rv", ascii "seq",
      ascii "sid", ascii "sub", ascii "typ"].Pairwise _ by decide) rfl
    (show List.Perm _ (List.range 20) by decide) rfl

theorem canonical_payload :
    canonical (unsignedPayload ent sessionId channelBindingSha256 sequence
      (ascii "active") previousLeaseSha256 now notBefore expiresAt ++
        [(ascii "jti", Scalar.text (signedClaims crypto ent sessionId channelBindingSha256
          sequence previousLeaseSha256 now notBefore expiresAt).leaseId)]) =
      render (signedClaims crypto ent sessionId channelBindingSha256 sequence
        previousLeaseSha256 now notBefore expiresAt).members :=
  canonical_of_positions [20, 8, 1, 19, 12, 18, 14, 16, 5, 0, 3, 13, 17, 11, 2, 7, 15, 6, 10, 4, 9]
    (show [ascii "akh", ascii "aud", ascii "authorization_kind", ascii "cbh", ascii "exp",
      ascii "hkh", ascii "iat", ascii "is_permanent", ascii "iss", ascii "jti", ascii "nbf",
      ascii "phase", ascii "pid", ascii "pth", ascii "pv", ascii "remaining", ascii "rv",
      ascii "seq", ascii "sid", ascii "sub", ascii "typ"].Pairwise _ by decide) rfl
    (show List.Perm _ (List.range 21) by decide) rfl

end

structure Issuable (codec : RsaTokenCodec) (entitlement : EntitlementRow)
    (sessionId channelBindingSha256 : Bytes) (sequence : Nat) (phase : Bytes)
    (leaseDurationSeconds : Nat) (previousLeaseSha256 : Bytes) (now notBefore : Nat) : Prop where
  positive : 1 ≤ leaseDurationSeconds
  ttl : leaseDurationSeconds ≤ codec.leaseTtlSeconds
  notBefore : now ≤ notBefore
  phase : phase = ascii "active"
  entitlementId : isNonzeroLowerHex entitlement.entitlementId 32 = true
  pairId : isNonzeroLowerHex entitlement.pairId 32 = true
  sessionId : isNonzeroLowerHex sessionId 32 = true
  hostKeySha256 : isNonzeroLowerHex entitlement.hostKeySha256 64 = true
  androidKeySha256 : isNonzeroLowerHex entitlement.androidKeySha256 64 = true
  channelBindingSha256 : isNonzeroLowerHex channelBindingSha256 64 = true
  previousLeaseSha256 : validPreviousLeaseSha256 previousLeaseSha256 sequence = true

namespace RsaTokenCodec

def signedToken (codec : RsaTokenCodec) (crypto : Cryptography)
    (claims : VerifiedUsageLeaseClaims) : Bytes :=
  compactToken (crypto.keyId codec.publicKey) claims
    (codec.sign (signingText (crypto.keyId codec.publicKey) claims))

theorem issueUsageLease_eq_ok {codec : RsaTokenCodec} {crypto : Cryptography}
    {ent : EntitlementRow} {sessionId channelBindingSha256 : Bytes} {sequence : Nat}
    {phase : Bytes} {duration : Nat} {previousLeaseSha256 : Bytes} {now notBefore : Nat}
    {lease : IssuedLease} :
    codec.issueUsageLease crypto ent sessionId channelBindingSha256 sequence phase duration
        previousLeaseSha256 now notBefore = .ok lease ↔
      Issuable codec ent sessionId channelBindingSha256 sequence phase duration
        previousLeaseSha256 now notBefore ∧
      lease =
        let token := codec.signedToken crypto (signedClaims crypto ent sessionId
          channelBindingSha256 sequence previousLeaseSha256 now notBefore (notBefore + duration))
        { usageLease := token
          usageLeaseSha256 := crypto.sha256Hex token
          usageLeaseExpiresAtEpoch := notBefore + duration
          usageLeaseNotBeforeEpoch := notBefore
          usageLeaseTtlSeconds := duration } := by
  have spelled : phase = ascii "active" → codec.signPayload crypto
      (unsignedPayload ent sessionId channelBindingSha256 sequence phase
        previousLeaseSha256 now notBefore (notBefore + duration) ++
        [(ascii "jti", .text ((crypto.sha256Hex (canonical (unsignedPayload ent sessionId
          channelBindingSha256 sequence phase previousLeaseSha256 now notBefore
          (notBefore + duration)))).take 32))]) =
      codec.signedToken crypto (signedClaims crypto ent sessionId channelBindingSha256
        sequence previousLeaseSha256 now notBefore (notBefore + duration)) := by
    rintro rfl
    have leaseId : (crypto.sha256Hex (canonical (unsignedPayload ent sessionId
        channelBindingSha256 sequence (ascii "active") previousLeaseSha256 now notBefore
        (notBefore + duration)))).take 32 = (signedClaims crypto ent sessionId
          channelBindingSha256 sequence previousLeaseSha256 now notBefore
          (notBefore + duration)).leaseId := rfl
    rw [leaseId]
    unfold signPayload signedToken compactToken signingText
    simp only [canonical_header, canonical_payload]
  unfold issueUsageLease
  constructor
  · intro h
    split at h
    · cases h
    rename_i parameters
    split at h
    · cases h
    rename_i identities
    simp only [not_or, not_not, not_lt] at parameters
    simp only [Bool.or_eq_true, Bool.not_eq_true', not_or, Bool.not_eq_false] at identities
    obtain ⟨⟨⟨⟨⟨⟨i1, i2⟩, i3⟩, i4⟩, i5⟩, i6⟩, i7⟩ := identities
    refine ⟨⟨parameters.1.1, parameters.1.2, parameters.2.1, parameters.2.2, i1, i2, i3, i4, i5, i6,
      i7⟩, ?_⟩
    cases h
    rw [spelled parameters.2.2]
  · rintro ⟨h, rfl⟩
    have parameters : ¬(¬(1 ≤ duration ∧ duration ≤ codec.leaseTtlSeconds) ∨
        notBefore < now ∨ phase ≠ ascii "active") := by
      rintro (bounds | early | other)
      · exact bounds ⟨h.positive, h.ttl⟩
      · exact absurd h.notBefore (by omega)
      · exact other h.phase
    rw [if_neg parameters]
    simp only [h.entitlementId, h.pairId, h.sessionId, h.hostKeySha256, h.androidKeySha256,
      h.channelBindingSha256, h.previousLeaseSha256, Bool.not_true, Bool.or_self,
      Bool.false_eq_true, if_false, spelled h.phase]

end RsaTokenCodec

def simpleEscape (character : UInt8) : Option UInt8 :=
  if character = 34 then some 34
  else if character = 92 then some 92
  else if character = 98 then some 8
  else if character = 102 then some 12
  else if character = 110 then some 10
  else if character = 114 then some 13
  else if character = 116 then some 9
  else none

def hexValue (character : UInt8) : Option Nat :=
  if 48 ≤ character ∧ character ≤ 57 then some (character.toNat - 48)
  else if 97 ≤ character ∧ character ≤ 102 then some (character.toNat - 87)
  else none

def loadText : Bytes → Option (Bytes × Bytes)
  | [] => none
  | character :: rest =>
    if character = 34 then some ([], rest)
    else if character = 92 then
      match rest with
      | [] => none
      | escaped :: rest =>
        match simpleEscape escaped with
        | some plain => (loadText rest).map (fun read => (plain :: read.1, read.2))
        | none =>
          match rest with
          | a :: b :: c :: d :: rest =>
            if escaped = 117 ∧ a = 48 ∧ b = 48 then
              match hexValue c, hexValue d with
              | some high, some low =>
                (loadText rest).map
                  (fun read => (UInt8.ofNat (high * 16 + low) :: read.1, read.2))
              | _, _ => none
            else none
          | _ => none
    else if character < 32 ∨ 127 < character then none
    else (loadText rest).map (fun read => (character :: read.1, read.2))

def loadDigits (value : Nat) : Bytes → Nat × Bytes
  | [] => (value, [])
  | character :: rest =>
    if isDigit character then loadDigits (value * 10 + (character.toNat - 48)) rest
    else (value, character :: rest)

def loadScalar (text : Bytes) : Option (Scalar × Bytes) :=
  match text with
  | [] => none
  | character :: rest =>
    if character = 34 then (loadText rest).map (fun read => (.text read.1, read.2))
    else if character = 45 then
      let (value, rest) := loadDigits 0 rest
      some (.number (-(value : Int)), rest)
    else if isDigit character then
      let (value, rest) := loadDigits 0 (character :: rest)
      some (.number value, rest)
    else if text.take 4 = ascii "true" then some (.flag true, text.drop 4)
    else if text.take 5 = ascii "false" then some (.flag false, text.drop 5)
    else none

/-- The members of an object; the bound on their number is the length of the text. -/
def loadMembers : Nat → Bytes → Option Members
  | 0, _ => none
  | bound + 1, text => do
      let (key, rest) ← if text.head? = some 34 then loadText text.tail else none
      let rest ← if rest.head? = some 58 then some rest.tail else none
      let (value, rest) ← loadScalar rest
      if rest = [125] then return [(key, value)]
      else if rest.head? = some 44 then
        let members ← loadMembers bound rest.tail
        return (key, value) :: members
      else none

/-- A key that comes again has the last of its values. -/
def lastMembers : Members → Members
  | [] => []
  | entry :: members =>
    if members.any (fun other => other.1 == entry.1) then lastMembers members
    else entry :: lastMembers members

theorem lastMembers_of_nodup {members : Members} (dist : (members.map Prod.fst).Nodup) :
    lastMembers members = members := by
  induction members with
  | nil => rfl
  | cons entry members ih =>
    rw [List.map_cons, List.nodup_cons] at dist
    have fresh : ¬members.any (fun other => other.1 == entry.1) = true := by
      rw [List.any_eq_true]
      rintro ⟨other, mem, same⟩
      exact dist.1 (List.mem_map.mpr ⟨other, mem, beq_iff_eq.mp same⟩)
    rw [lastMembers, if_neg fresh, ih dist.2]

/-- `json.loads` on a flat object in canonical spelling. -/
def loads (text : Bytes) : Option Members :=
  if text.head? ≠ some 123 then none
  else if text = [123, 125] then some []
  else (loadMembers text.length text.tail).map lastMembers

def member (members : Members) (key : Bytes) : Option Scalar :=
  (members.find? (fun entry => entry.1 = key)).map Prod.snd

def textMember (members : Members) (key : Bytes) : Option Bytes :=
  match member members key with
  | some (.text value) => some value
  | _ => none

def numberMember (members : Members) (key : Bytes) : Option Int :=
  match member members key with
  | some (.number value) => some value
  | _ => none

def flagMember (members : Members) (key : Bytes) : Option Bool :=
  match member members key with
  | some (.flag value) => some value
  | _ => none

/-- Base64url text that is the encoding of what it decodes to. -/
def b64uDecode (text : Bytes) : Option Bytes := do
  if text = [] then none
  let decoded ← decode text
  if encode decoded ≠ text then none
  return decoded

section

variable {α : Type} (loads : Bytes → Option α) (canonicalJson : α → Bytes)

/-- The header, the payload, the signed text and the signature, with the JSON functions of the
    language. `loads` takes objects in UTF-8. -/
def decodeTokenWith (token : Bytes) : Option (α × α × Bytes × Bytes) := do
  guard (1 ≤ token.length ∧ token.length ≤ MAX_TOKEN_CHARACTERS)
  let (headerB64, payloadB64, signatureB64) ← splitThree 46 token
  let headerRaw ← b64uDecode headerB64
  let payloadRaw ← b64uDecode payloadB64
  let hdr ← loads headerRaw
  let payload ← loads payloadRaw
  guard (canonicalJson hdr = headerRaw ∧ canonicalJson payload = payloadRaw)
  let signature ← b64uDecode signatureB64
  return (hdr, payload, headerB64 ++ 46 :: payloadB64, signature)

end

structure DecodedToken where
  header : Members
  payload : Members
  signingInput : Bytes
  signature : Bytes
  deriving DecidableEq

def decodeToken (token : Bytes) : Option DecodedToken :=
  (decodeTokenWith loads canonical token).map (fun (hdr, payload, signingInput, signature) =>
    { header := hdr
      payload := payload
      signingInput := signingInput
      signature := signature })

/-- A text member that is nonzero lowercase hexadecimal of a length. -/
def hexMember (payload : Members) (length : Nat) (key : Bytes) : Bool :=
  match textMember payload key with
  | some value => isNonzeroLowerHex value length
  | none => false

def validateUsageClaims (crypto : Cryptography) (payload : Members) (now : Nat)
    (expirationGraceSeconds notBeforeGraceSeconds maximumTtlSeconds : Nat)
    (allowExpiredForStop : Bool) : Bool :=
  match numberMember payload (ascii "iat"), numberMember payload (ascii "nbf"),
      numberMember payload (ascii "exp"), numberMember payload (ascii "pv"),
      numberMember payload (ascii "rv"), numberMember payload (ascii "seq"),
      numberMember payload (ascii "remaining") with
  | some issuedAt, some notBefore, some expiresAt, some protocolVersion, some revocationVersion,
      some sequence, some remaining =>
      textMember payload (ascii "typ") == some USAGE_LEASE_TYPE &&
      textMember payload (ascii "iss") == some USAGE_LEASE_ISSUER &&
      textMember payload (ascii "aud") == some USAGE_LEASE_AUDIENCE &&
      [ascii "sub", ascii "pid", ascii "sid", ascii "jti"].all (hexMember payload 32) &&
      [ascii "hkh", ascii "akh", ascii "cbh"].all (hexMember payload 64) &&
      protocolVersion == 2 && decide (0 < revocationVersion) && decide (0 ≤ sequence) &&
      (match textMember payload (ascii "pth") with
        | some previous => validPreviousLeaseSha256 previous sequence.toNat
        | none => false) &&
      textMember payload (ascii "phase") == some (ascii "active") &&
      (match textMember payload (ascii "authorization_kind") with
        | some kind =>
          [ascii "legacy_balance", ascii "day", ascii "week", ascii "month",
            ascii "permanent"].contains kind &&
          flagMember payload (ascii "is_permanent") == some (kind == ascii "permanent")
        | none => false) &&
      decide (0 ≤ remaining) && decide (0 < issuedAt) && decide (issuedAt ≤ notBefore) &&
      decide (notBefore < expiresAt) && decide (expiresAt - notBefore ≤ maximumTtlSeconds) &&
      decide (notBefore ≤ now + notBeforeGraceSeconds) &&
      (allowExpiredForStop || decide ((now : Int) < expiresAt + expirationGraceSeconds)) &&
      textMember payload (ascii "jti") == some ((crypto.sha256Hex (canonical
        (payload.filter (fun entry => entry.1 ≠ ascii "jti")))).take 32)
  | _, _, _, _, _, _, _ => false

namespace RsaTokenCodec

def verificationKey (codec : RsaTokenCodec) (crypto : Cryptography) (keyId : Bytes) :
    Option Bytes :=
  (codec.publicKey :: codec.verificationPublicKeys).find? (fun key => crypto.keyId key = keyId)

def verifyUsageLease (codec : RsaTokenCodec) (crypto : Cryptography) (token : Bytes) (now : Nat)
    (expirationGraceSeconds notBeforeGraceSeconds : Nat) (allowExpiredForStop : Bool) :
    Option Members := do
  let decoded ← decodeToken token
  if textMember decoded.header (ascii "alg") ≠ some (ascii "RS256") ∨
      textMember decoded.header (ascii "typ") ≠ some (ascii "JWT") then none
  let key ← codec.verificationKey crypto ((textMember decoded.header (ascii "kid")).getD [])
  if !crypto.rsaVerify key decoded.signingInput decoded.signature then none
  if !validateUsageClaims crypto decoded.payload now expirationGraceSeconds
      notBeforeGraceSeconds codec.leaseTtlSeconds allowExpiredForStop then none
  return decoded.payload

theorem verifyUsageLease_valid {codec : RsaTokenCodec} {crypto : Cryptography} {token : Bytes}
    {now expirationGraceSeconds notBeforeGraceSeconds : Nat} {allowExpiredForStop : Bool}
    {claims : Members}
    (h : codec.verifyUsageLease crypto token now expirationGraceSeconds notBeforeGraceSeconds
      allowExpiredForStop = some claims) :
    validateUsageClaims crypto claims now expirationGraceSeconds notBeforeGraceSeconds
      codec.leaseTtlSeconds allowExpiredForStop = true := by
  simp only [verifyUsageLease, Option.bind_eq_bind, Option.bind_eq_some_iff] at h
  obtain ⟨decoded, -, h⟩ := h
  split at h
  · simp at h
  simp only [Option.bind_eq_some_iff] at h
  obtain ⟨key, -, h⟩ := h
  split at h
  · simp at h
  split at h
  · simp at h
  rename_i valid
  simp only [Option.pure_def, Option.some.injEq] at h
  subst h
  simpa using valid

end RsaTokenCodec

theorem validateUsageClaims_begun {crypto : Cryptography} {claims : Members}
    {now expirationGraceSeconds notBeforeGraceSeconds maximumTtlSeconds : Nat}
    {allowExpiredForStop : Bool}
    (h : validateUsageClaims crypto claims now expirationGraceSeconds notBeforeGraceSeconds
      maximumTtlSeconds allowExpiredForStop = true) :
    ∃ notBefore, numberMember claims (ascii "nbf") = some notBefore ∧
      notBefore ≤ now + notBeforeGraceSeconds := by
  unfold validateUsageClaims at h
  split at h
  · rename_i issuedAt notBefore _ _ _ _ _ _ found _ _ _ _ _
    refine ⟨notBefore, found, ?_⟩
    simp only [Bool.and_eq_true, decide_eq_true_eq] at h
    exact h.1.1.2
  · cases h

/-! ## One token for what it says

Whatever the JSON functions accept, a decoded text is compared with what it encodes to.
-/

section

theorem encode_of_b64uDecode {text decoded : Bytes} (h : b64uDecode text = some decoded) :
    encode decoded = text := by
  simp only [b64uDecode] at h
  split at h
  · cases h
  · cases spelled : decode text with
    | none => simp [spelled] at h
    | some octets =>
      by_cases same : encode octets = text
      · simp [spelled, same] at h
        rw [← h, same]
      · simp [spelled, same] at h

variable {α : Type} {loads : Bytes → Option α} {canonicalJson : α → Bytes} {hdr payload : α}
  {token signingInput signature : Bytes}

theorem token_of_decodes
    (decodes : decodeTokenWith loads canonicalJson token =
      some (hdr, payload, signingInput, signature)) :
    signingInput = encode (canonicalJson hdr) ++ 46 :: encode (canonicalJson payload) ∧
      token = signingInput ++ 46 :: encode signature ∧
      loads (canonicalJson hdr) = some hdr ∧ loads (canonicalJson payload) = some payload := by
  simp only [decodeTokenWith, Option.bind_eq_bind, Option.bind_eq_some_iff, Option.guard_eq_some',
    Prod.exists, Option.pure_def, Option.some.injEq, Prod.mk.injEq] at decodes
  obtain ⟨-, -, headerB64, payloadB64, signatureB64, split, headerRaw, isHeader, payloadRaw,
    isPayload, _, loadsHeader, _, loadsPayload, -, ⟨rfl, rfl⟩, _, isSignature, rfl, rfl, rfl, rfl⟩ :=
    decodes
  rw [encode_of_b64uDecode isHeader, encode_of_b64uDecode isPayload,
    encode_of_b64uDecode isSignature, (splitThree_eq_some.mp split).1]
  simp [loadsHeader, loadsPayload]

/-- A token is the only one that is decoded to its header, payload and signature, and encoding
    them again gives the token. -/
theorem decoded_token_is_canonical
    (decodes : decodeTokenWith loads canonicalJson token =
      some (hdr, payload, signingInput, signature)) :
    token = encode (canonicalJson hdr) ++ 46 ::
        (encode (canonicalJson payload) ++ 46 :: encode signature) ∧
      loads (canonicalJson hdr) = some hdr ∧ loads (canonicalJson payload) = some payload ∧
      ∀ other otherInput, decodeTokenWith loads canonicalJson other =
        some (hdr, payload, otherInput, signature) → other = token := by
  obtain ⟨input, spelled, isHeader, isPayload⟩ := token_of_decodes decodes
  refine ⟨by simp [spelled, input], isHeader, isPayload, ?_⟩
  intro other otherInput otherDecodes
  obtain ⟨sameInput, otherSpelled, -⟩ := token_of_decodes otherDecodes
  rw [spelled, otherSpelled, input, sameInput]

def smallHeader : Members := [(ascii "alg", .text (ascii "RS256"))]

def smallPayload : Members := [(ascii "seq", .number 7), (ascii "sid", .text (ascii "ab"))]

theorem small_token_is_canonical :
    ascii "eyJhbGciOiJSUzI1NiJ9.eyJzZXEiOjcsInNpZCI6ImFiIn0.AQI" = encode (canonical smallHeader) ++ 46 ::
        (encode (canonical smallPayload) ++ 46 :: encode [1, 2]) ∧
      Server.loads (canonical smallHeader) = some smallHeader ∧
      Server.loads (canonical smallPayload) = some smallPayload ∧
      ∀ other otherInput, decodeTokenWith Server.loads canonical other =
        some (smallHeader, smallPayload, otherInput, [1, 2]) →
          other = ascii "eyJhbGciOiJSUzI1NiJ9.eyJzZXEiOjcsInNpZCI6ImFiIn0.AQI" :=
  @decoded_token_is_canonical _ Server.loads canonical smallHeader smallPayload
    (ascii "eyJhbGciOiJSUzI1NiJ9.eyJzZXEiOjcsInNpZCI6ImFiIn0.AQI")
    (ascii "eyJhbGciOiJSUzI1NiJ9.eyJzZXEiOjcsInNpZCI6ImFiIn0") [1, 2] (by decide +kernel)

end

end VisionForge.Server
