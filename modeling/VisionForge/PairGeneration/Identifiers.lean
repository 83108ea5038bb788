import Mathlib.Tactic.IntervalCases
import VisionForge.Bootstrap.Payloads
import VisionForge.Lib.Hex
import VisionForge.PairGeneration.Proposals

/-! # Challenge requests for a pair generation

The host signs the request of a phone as a flat text with its keys in order. The fields
come from the payload of the phone and from the two identities; the request is built only
of fields that keep their contract. The hash is the platform's, and it may fail.
-/

namespace VisionForge.PairGeneration

open Lib.Ascii Lib.Decimal Lib.Hex
open Bootstrap (containsNonzero readControlBootstrapU64BeV1 ParsedControlBootstrapPayloadV1)

def kIdentifierCharacters : Nat := 32
def kPairGenerationPopProtocolVersion : Nat := 2
def kPairGenerationPopSigned64Maximum : Nat := 0x7fffffffffffffff
def kPairGenerationChallengeRequestDomain : Bytes :=
  ascii "visionforge-pair-generation-challenge-request-v1"

/-- What the platform's hash may answer instead of a digest. -/
inductive HashFailure where
  | allocationFailed
  | cryptoUnavailable
  | cryptoOperationFailed
  deriving DecidableEq

inductive PairGenerationPopErrorCode where
  | hash (failure : HashFailure)
  | identifierInvalid
  | identityHashInvalid
  | identityRolesInvalid
  | signed64Invalid
  deriving DecidableEq

structure PairGenerationChallengeFieldsV1 where
  requestId : Bytes
  allocationRequestId : Bytes
  entitlementId : Bytes
  pairId : Bytes
  bindingId : Bytes
  bindingRevision : Nat
  revocationVersion : Nat
  hostIdentitySpkiSha256 : Bytes
  androidIdentitySpkiSha256 : Bytes
  deriving DecidableEq

structure CanonicalPairGenerationChallengeRequestV1 where
  fields : PairGenerationChallengeFieldsV1
  canonicalBytes : Bytes
  payloadSha256 : Bytes
  deriving DecidableEq

/-- The test against zero looks at the digits. -/
def lowerHexIdentifierValid (value : Bytes) : Bool :=
  value.length == kIdentifierCharacters && value.any (· != 48) && value.all isLowerHexDigit

def positiveSigned64 (value : Nat) : Bool :=
  value != 0 && decide (value ≤ kPairGenerationPopSigned64Maximum)

def validateIdentityHashes (hostIdentity androidIdentity : Bytes) :
    Option PairGenerationPopErrorCode :=
  if !containsNonzero hostIdentity || !containsNonzero androidIdentity then
    some .identityHashInvalid
  else if hostIdentity = androidIdentity then some .identityRolesInvalid
  else none

def validateChallengeFields (fields : PairGenerationChallengeFieldsV1) :
    Option PairGenerationPopErrorCode :=
  if !lowerHexIdentifierValid fields.requestId ||
      !lowerHexIdentifierValid fields.allocationRequestId ||
      !lowerHexIdentifierValid fields.entitlementId ||
      !lowerHexIdentifierValid fields.pairId ||
      !lowerHexIdentifierValid fields.bindingId then some .identifierInvalid
  else if !positiveSigned64 fields.bindingRevision ||
      !positiveSigned64 fields.revocationVersion then some .signed64Invalid
  else validateIdentityHashes fields.hostIdentitySpkiSha256 fields.androidIdentitySpkiSha256

def encodeChallengeRequest (fields : PairGenerationChallengeFieldsV1) : Bytes :=
  ascii "\x7b\"allocation_request_id\":\"" ++ fields.allocationRequestId ++
  ascii "\",\"android_identity_spki_sha256\":\"" ++ lowercaseHex fields.androidIdentitySpkiSha256 ++
  ascii "\",\"binding_id\":\"" ++ fields.bindingId ++
  ascii "\",\"binding_revision\":" ++ decimal fields.bindingRevision ++
  ascii ",\"domain\":\"" ++ kPairGenerationChallengeRequestDomain ++
  ascii "\",\"entitlement_id\":\"" ++ fields.entitlementId ++
  ascii "\",\"host_identity_spki_sha256\":\"" ++ lowercaseHex fields.hostIdentitySpkiSha256 ++
  ascii "\",\"pair_id\":\"" ++ fields.pairId ++
  ascii "\",\"protocol_version\":" ++ decimal kPairGenerationPopProtocolVersion ++
  ascii ",\"request_id\":\"" ++ fields.requestId ++
  ascii "\",\"revocation_version\":" ++ decimal fields.revocationVersion ++ [125]

section

variable (hash : Bytes → Except HashFailure Bytes)

/-- A digest of zeros counts as a failure of the provider. -/
def sha256Bytes (input : Bytes) : Except HashFailure Bytes :=
  match hash input with
  | .error failure => .error failure
  | .ok digest => if containsNonzero digest then .ok digest else .error .cryptoOperationFailed

def buildPairGenerationChallengeRequestV1 (fields : PairGenerationChallengeFieldsV1) :
    Except PairGenerationPopErrorCode CanonicalPairGenerationChallengeRequestV1 :=
  match validateChallengeFields fields with
  | some code => .error code
  | none =>
    let canonical := encodeChallengeRequest fields
    match sha256Bytes hash canonical with
    | .error failure => .error (.hash failure)
    | .ok digest => .ok ⟨fields, canonical, digest⟩

/-- The fields the coordinator of the host takes from the payload of a phone. -/
def challengeFieldsOf (payload : ParsedControlBootstrapPayloadV1)
    (hostIdentity androidIdentity : Bytes) : PairGenerationChallengeFieldsV1 where
  requestId := payload.field 0
  allocationRequestId := payload.field 1
  entitlementId := payload.field 2
  pairId := payload.field 3
  bindingId := payload.field 4
  bindingRevision := readControlBootstrapU64BeV1 (payload.field 5)
  revocationVersion := readControlBootstrapU64BeV1 (payload.field 6)
  hostIdentitySpkiSha256 := hostIdentity
  androidIdentitySpkiSha256 := androidIdentity

/-- The identifiers in the order of their tags. -/
def PairGenerationChallengeFieldsV1.identifiers (fields : PairGenerationChallengeFieldsV1) :
    List Bytes :=
  [fields.requestId, fields.allocationRequestId, fields.entitlementId, fields.pairId,
    fields.bindingId]

theorem build_identifierInvalid_iff (fields : PairGenerationChallengeFieldsV1) :
    buildPairGenerationChallengeRequestV1 hash fields = .error .identifierInvalid ↔
      ¬ ∀ identifier ∈ fields.identifiers, lowerHexIdentifierValid identifier = true := by
  by_cases valid : ∀ identifier ∈ fields.identifiers, lowerHexIdentifierValid identifier = true
  · have passes : validateChallengeFields fields ≠ some .identifierInvalid := by
      simp only [PairGenerationChallengeFieldsV1.identifiers, List.forall_mem_cons] at valid
      simp only [validateChallengeFields, validateIdentityHashes, valid]
      grind
    refine iff_of_false ?_ (not_not_intro valid)
    unfold buildPairGenerationChallengeRequestV1
    grind
  · have fails : validateChallengeFields fields = some .identifierInvalid := by
      simp only [PairGenerationChallengeFieldsV1.identifiers, List.forall_mem_cons] at valid
      simp only [validateChallengeFields]
      grind
    simp [buildPairGenerationChallengeRequestV1, fails, valid]

theorem build_ok {fields : PairGenerationChallengeFieldsV1} {digest : Bytes}
    (valid : validateChallengeFields fields = none)
    (hashes : sha256Bytes hash (encodeChallengeRequest fields) = .ok digest) :
    buildPairGenerationChallengeRequestV1 hash fields =
      .ok ⟨fields, encodeChallengeRequest fields, digest⟩ := by
  simp [buildPairGenerationChallengeRequestV1, valid, hashes]

end

/-! ## The identifiers of a challenge request

Three places test the same identifiers: the payload of the phone, the signed request and
the proposal. They agree on lowercase digits, and differ on digits that are all zero.
-/

open Lib.Ascii
open Bootstrap (parseControlBootstrapPayloadV1 encodeControlBootstrapPayloadV1 tagged Follow
  kAndroidChallengeRequestRules ParsedControlBootstrapPayloadV1 fieldValueValid FieldRule)

def zeroIdentifier : Bytes := List.replicate 32 48

theorem isLowerHexDigit_ne_zero {char : UInt8} (digit : isLowerHexDigit char = true) :
    char ≠ 0 := by
  rintro rfl
  exact absurd digit (by decide)

theorem payload_identifierValid_iff (value : Bytes) :
    Bootstrap.lowerHexIdentifierValid value = true ↔
      value.length = 32 ∧ value.all isLowerHexDigit = true := by
  constructor
  · intro valid
    simp only [Bootstrap.lowerHexIdentifierValid, Bool.and_eq_true, beq_iff_eq] at valid
    exact ⟨valid.1.1, valid.2⟩
  · rintro ⟨size, digits⟩
    rcases value with _ | ⟨c, rest⟩
    · simp at size
    · have first : c ≠ 0 := isLowerHexDigit_ne_zero (by simp at digits; exact digits.1)
      simp [Bootstrap.lowerHexIdentifierValid, Bootstrap.containsNonzero, size, digits, first]

theorem any_ne_of_length {value : Bytes} (size : value.length = 32) :
    value.any (· != 48) = true ↔ value ≠ zeroIdentifier := by
  rw [zeroIdentifier, Ne, List.eq_replicate_iff]
  simp [size]

theorem identifierValid_iff (value : Bytes) :
    lowerHexIdentifierValid value = true ↔
      Bootstrap.lowerHexIdentifierValid value = true ∧ value ≠ zeroIdentifier := by
  rw [payload_identifierValid_iff]
  constructor
  · intro valid
    simp only [lowerHexIdentifierValid, kIdentifierCharacters, Bool.and_eq_true, beq_iff_eq]
      at valid
    exact ⟨⟨valid.1.1, valid.2⟩, (any_ne_of_length valid.1.1).mp valid.1.2⟩
  · rintro ⟨⟨size, digits⟩, other⟩
    simp only [lowerHexIdentifierValid, kIdentifierCharacters, Bool.and_eq_true, beq_iff_eq]
    exact ⟨⟨size, (any_ne_of_length size).mpr other⟩, digits⟩

theorem pairIdValid_iff (value : Bytes) :
    pairIdValid value = true ↔ Bootstrap.lowerHexIdentifierValid value = true := by
  simp [payload_identifierValid_iff, pairIdValid, kPairGenerationProposalPairIdBytes]

theorem fieldValueValid_identifier (value : Bytes) :
    fieldValueValid (Bootstrap.exact 32 .lowerHexIdentifier) value = true ↔
      Bootstrap.lowerHexIdentifierValid value = true := by
  constructor
  · intro valid
    simp only [fieldValueValid, Bool.and_eq_true] at valid
    exact valid.2
  · intro valid
    have size := ((payload_identifierValid_iff value).mp valid).1
    simp [fieldValueValid, Bootstrap.fieldLengthValid, Bootstrap.exact, Bootstrap.semanticValid,
      size, valid]

section

variable {payload : Bytes} {parsed : ParsedControlBootstrapPayloadV1}

theorem follow_of_parse
    (accepts : parseControlBootstrapPayloadV1 .androidChallengeRequest payload = .ok parsed) :
    Follow kAndroidChallengeRequestRules parsed.fields :=
  ((Bootstrap.parse_ok_iff _ _ _).mp accepts).2.follow

theorem field_of_parse
    (accepts : parseControlBootstrapPayloadV1 .androidChallengeRequest payload = .ok parsed)
    (tag : Nat) (rule : FieldRule) (ruled : kAndroidChallengeRequestRules[tag]? = some rule) :
    fieldValueValid rule (parsed.field tag) = true := by
  have follow := follow_of_parse accepts
  have hin : tag < kAndroidChallengeRequestRules.length := (List.getElem?_eq_some_iff.mp ruled).1
  have same := List.forall₂_iff_get.mp follow
  have holds := same.2 tag hin (by rw [← same.1]; exact hin)
  have here : kAndroidChallengeRequestRules.get ⟨tag, hin⟩ = rule :=
    (List.getElem?_eq_some_iff.mp ruled).2
  rw [here] at holds
  simpa [ParsedControlBootstrapPayloadV1.field, List.getD_eq_getElem?_getD, ← same.1, hin]
    using holds

theorem identifier_of_parse
    (accepts : parseControlBootstrapPayloadV1 .androidChallengeRequest payload = .ok parsed)
    {tag : Nat} (small : tag < 5) :
    Bootstrap.lowerHexIdentifierValid (parsed.field tag) = true := by
  have rule : kAndroidChallengeRequestRules[tag]? =
      some (Bootstrap.exact 32 .lowerHexIdentifier) := by
    interval_cases tag <;> rfl
  exact (fieldValueValid_identifier _).mp (field_of_parse accepts tag _ rule)

end

theorem small_of_clear_sign : ∀ octet : Fin 256, octet.val &&& 128 = 0 → octet.val < 128 := by
  decide +kernel

/-- Eight octets with a clear first bit are a positive signed number. -/
theorem positiveSigned64_of_valid {value : Bytes}
    (valid : fieldValueValid (Bootstrap.exact 8 .positiveU64) value = true) :
    positiveSigned64 (Bootstrap.readControlBootstrapU64BeV1 value) = true := by
  simp only [fieldValueValid, Bootstrap.fieldLengthValid, Bootstrap.exact, Bootstrap.semanticValid,
    Bool.and_eq_true, decide_eq_true_eq] at valid
  obtain ⟨⟨least, most⟩, pos, sign⟩ := valid
  have size : value.length = 8 := Nat.le_antisymm (of_decide_eq_true most) (of_decide_eq_true least)
  rcases value with _ | ⟨octet, rest⟩
  · simp at size
  · have short : rest.length = 7 := by simpa using size
    have low := Lib.BigEndian.load_lt rest
    have first : octet.toNat < 128 := by
      apply small_of_clear_sign ⟨octet.toNat, octet.toNat_lt⟩
      have zero := congrArg UInt8.toNat sign
      simpa [Bootstrap.octetAt, UInt8.toNat_and] using zero
    have reads : Bootstrap.readControlBootstrapU64BeV1 (octet :: rest) =
        Lib.BigEndian.load rest + octet.toNat * 256 ^ 7 := by
      simp [Bootstrap.readControlBootstrapU64BeV1, short, Lib.BigEndian.load_cons]
    rw [short] at low
    have small : Bootstrap.readControlBootstrapU64BeV1 (octet :: rest) ≤
        kPairGenerationPopSigned64Maximum := by
      rw [reads, kPairGenerationPopSigned64Maximum]
      omega
    exact Bool.and_eq_true_iff.mpr ⟨pos, decide_eq_true small⟩

theorem validateChallengeFields_of_parse {payload : Bytes}
    {parsed : ParsedControlBootstrapPayloadV1} {hostIdentity androidIdentity : Bytes}
    (accepts : parseControlBootstrapPayloadV1 .androidChallengeRequest payload = .ok parsed)
    (identities : validateIdentityHashes hostIdentity androidIdentity = none)
    (identifiers : ∀ tag < 5, parsed.field tag ≠ zeroIdentifier) :
    validateChallengeFields (challengeFieldsOf parsed hostIdentity androidIdentity) = none := by
  have valid : ∀ tag < 5, lowerHexIdentifierValid (parsed.field tag) = true :=
    fun tag small => (identifierValid_iff _).mpr
      ⟨identifier_of_parse accepts small, identifiers tag small⟩
  have revision := positiveSigned64_of_valid (field_of_parse accepts 5 _ rfl)
  have revocation := positiveSigned64_of_valid (field_of_parse accepts 6 _ rfl)
  simp [validateChallengeFields, challengeFieldsOf, valid, revision, revocation, identities]

theorem forall_identifiers (parsed : ParsedControlBootstrapPayloadV1)
    (hostIdentity androidIdentity : Bytes) (Valid : Bytes → Prop) :
    (∀ identifier ∈ (challengeFieldsOf parsed hostIdentity androidIdentity).identifiers,
      Valid identifier) ↔ ∀ tag < 5, Valid (parsed.field tag) := by
  simp only [challengeFieldsOf, PairGenerationChallengeFieldsV1.identifiers, List.forall_mem_cons,
    List.not_mem_nil, false_implies, implies_true, and_true]
  constructor
  · rintro ⟨zero, one, two, three, four⟩ tag small
    interval_cases tag <;> assumption
  · intro all
    exact ⟨all 0 (by omega), all 1 (by omega), all 2 (by omega), all 3 (by omega), all 4 (by omega)⟩

theorem follow_identifiers {identifiers : List Bytes} {count : Nat}
    (size : identifiers.length = count)
    (valid : ∀ identifier ∈ identifiers, lowerHexIdentifierValid identifier = true) :
    Follow (List.replicate count (Bootstrap.exact 32 .lowerHexIdentifier)) identifiers := by
  induction identifiers generalizing count with
  | nil => simp [← size, Follow]
  | cons identifier identifiers ih =>
    obtain rfl : identifiers.length + 1 = count := by simpa using size
    refine .cons ?_ (ih rfl (fun other mem => valid other (by simp [mem])))
    exact (fieldValueValid_identifier _).mpr ((identifierValid_iff _).mp (valid _ (by simp))).1

/-- Identifiers a request takes are taken in a payload whose other values are valid. -/
theorem payload_of_identifiers {identifiers values : List Bytes} (five : identifiers.length = 5)
    (valid : ∀ identifier ∈ identifiers, lowerHexIdentifierValid identifier = true)
    (follow : Follow (kAndroidChallengeRequestRules.drop 5) values) :
    ∃ payload, encodeControlBootstrapPayloadV1 .androidChallengeRequest
        (tagged 0 (identifiers ++ values)) = .ok payload ∧
      parseControlBootstrapPayloadV1 .androidChallengeRequest payload =
        .ok ⟨.androidChallengeRequest, identifiers ++ values⟩ := by
  have rules : Follow kAndroidChallengeRequestRules (identifiers ++ values) := by
    exact List.rel_append (follow_identifiers five valid) follow
  have encodes : Bootstrap.IsPayload .androidChallengeRequest (identifiers ++ values)
      ((tagged 0 (identifiers ++ values)).flatMap Bootstrap.encodeField) :=
    { schema := by simp [Bootstrap.schemaFor, kAndroidChallengeRequestRules]
      follow := rules
      cross := by simp [Bootstrap.crossFieldValuesValid]
      fields := rfl }
  exact ⟨_, (Bootstrap.encode_ok_iff _ _ _).mpr encodes,
    (Bootstrap.parse_ok_iff _ _ _).mpr ⟨rfl, encodes⟩⟩

section

variable (hash : Bytes → Except HashFailure Bytes)

theorem not_identifierInvalid_iff {payload : Bytes} {parsed : ParsedControlBootstrapPayloadV1}
    (accepts : parseControlBootstrapPayloadV1 .androidChallengeRequest payload = .ok parsed)
    (hostIdentity androidIdentity : Bytes) :
    buildPairGenerationChallengeRequestV1 hash
        (challengeFieldsOf parsed hostIdentity androidIdentity) ≠ .error .identifierInvalid ↔
      ∀ tag < 5, parsed.field tag ≠ zeroIdentifier := by
  rw [Ne, build_identifierInvalid_iff, not_not, forall_identifiers]
  apply forall_congr'
  intro tag
  constructor
  · intro valid small
    exact ((identifierValid_iff _).mp (valid small)).2
  · intro other small
    exact (identifierValid_iff _).mpr ⟨identifier_of_parse accepts small, other small⟩

/-- The identifiers of an accepted payload go through the request and the proposal exactly if
none of them is all zeros, and then a request is built wherever the hash and the identities
allow one. The other way round there is no exception: what the request takes, and what the
proposal takes for its pair, goes through a payload. -/
theorem identifiers_agree_iff :
    (∀ payload parsed, parseControlBootstrapPayloadV1 .androidChallengeRequest payload =
        .ok parsed → ∀ hostIdentity androidIdentity,
      (buildPairGenerationChallengeRequestV1 hash
            (challengeFieldsOf parsed hostIdentity androidIdentity) ≠ .error .identifierInvalid ∧
          pairIdValid (parsed.field 3) = true ↔
        ∀ tag < 5, parsed.field tag ≠ zeroIdentifier) ∧
      (validateIdentityHashes hostIdentity androidIdentity = none →
        (∀ input, ∃ digest, sha256Bytes hash input = .ok digest) →
        ((∃ request, buildPairGenerationChallengeRequestV1 hash
              (challengeFieldsOf parsed hostIdentity androidIdentity) = .ok request) ∧
            pairIdValid (parsed.field 3) = true ↔
          ∀ tag < 5, parsed.field tag ≠ zeroIdentifier))) ∧
    (∀ fields values,
      buildPairGenerationChallengeRequestV1 hash fields ≠ .error .identifierInvalid →
      Follow (kAndroidChallengeRequestRules.drop 5) values →
      ∃ payload, encodeControlBootstrapPayloadV1 .androidChallengeRequest
          (tagged 0 (fields.identifiers ++ values)) = .ok payload ∧
        parseControlBootstrapPayloadV1 .androidChallengeRequest payload =
          .ok ⟨.androidChallengeRequest, fields.identifiers ++ values⟩) ∧
    ∀ pairId, pairIdValid pairId = true →
      fieldValueValid (Bootstrap.exact 32 .lowerHexIdentifier) pairId = true := by
  refine ⟨?_, ?_, ?_⟩
  · intro payload parsed accepts hostIdentity androidIdentity
    have pair := (pairIdValid_iff _).mpr (identifier_of_parse accepts (by omega : 3 < 5))
    have refused := not_identifierInvalid_iff hash accepts hostIdentity androidIdentity
    refine ⟨by simpa [pair] using refused, ?_⟩
    intro identities hashes
    rw [← refused]
    constructor
    · rintro ⟨⟨request, built⟩, -⟩
      simp [built]
    · intro accepted
      obtain ⟨digest, hashed⟩ := hashes
        (encodeChallengeRequest (challengeFieldsOf parsed hostIdentity androidIdentity))
      have valid := validateChallengeFields_of_parse accepts identities (refused.mp accepted)
      exact ⟨⟨_, build_ok hash valid hashed⟩, pair⟩
  · intro fields values accepted follow
    have valid := not_not.mp ((build_identifierInvalid_iff hash fields).not.mp accepted)
    exact payload_of_identifiers rfl valid follow
  · intro pairId valid
    exact (fieldValueValid_identifier _).mpr ((pairIdValid_iff _).mp valid)

/-- The values of a payload that asks under a request of zeros. -/
def zeroRequestValues : List Bytes :=
  [zeroIdentifier, List.replicate 32 49, List.replicate 32 49, List.replicate 32 49,
    List.replicate 32 49, [0, 0, 0, 0, 0, 0, 0, 1], [0, 0, 0, 0, 0, 0, 0, 1],
    Bootstrap.kP256SpkiPrefix ++ List.replicate 64 1, 4 :: List.replicate 64 1,
    List.replicate 32 1, ascii "1.0.0", [0x30, 6, 2, 1, 1, 2, 1, 1]]

/-- A payload whose request is thirty-two zeros is parsed, and no request is built of it. -/
theorem zero_request_is_refused :
    ∃ payload parsed,
      parseControlBootstrapPayloadV1 .androidChallengeRequest payload = .ok parsed ∧
      parsed.field 0 = zeroIdentifier ∧
      buildPairGenerationChallengeRequestV1 (fun _ => .ok (List.replicate 32 1))
        (challengeFieldsOf parsed (List.replicate 32 2) (List.replicate 32 3)) =
          .error .identifierInvalid := by
  have payload : Bootstrap.IsPayload .androidChallengeRequest zeroRequestValues
      ((tagged 0 zeroRequestValues).flatMap Bootstrap.encodeField) :=
    { schema := by simp [Bootstrap.schemaFor, kAndroidChallengeRequestRules]
      follow := by decide +kernel
      cross := rfl
      fields := rfl }
  exact ⟨_, ⟨.androidChallengeRequest, zeroRequestValues⟩,
    (Bootstrap.parse_ok_iff _ _ _).mpr ⟨rfl, payload⟩, rfl, by decide +kernel⟩

end

end VisionForge.PairGeneration
