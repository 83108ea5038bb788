import Mathlib.Tactic.IntervalCases
import VisionForge.Bootstrap.Payloads
import VisionForge.Lib.Checks

/-! # Proposals for a pair generation

A proposal is what both devices will put into the transcript of a handshake, before the
server gives it a generation. The checks run in the order of the source; the last one is
the transcript builder of the handshake, a parameter here. Both devices sign the fields under
their tags; the parser reads them and builds the proposal again.
-/

namespace VisionForge.PairGeneration

open Lib.Ascii Lib.BigEndian Lib.Checks
open Bootstrap (containsNonzero scanSemver octetAt tagged encodeField bounded)

def kPairGenerationProposalPairIdBytes : Nat := 32
def kPairGenerationProposalSigned64Maximum : Nat := 0x7fffffffffffffff
def kPeerHandshakeMaximumRuntimeVersionBytes : Nat := 32
def kNoProposalFieldTag : UInt8 := 0xff

inductive ProposalTag where
  | domain
  | protocolVersion
  | hostIdentitySpkiSha256
  | androidIdentitySpkiSha256
  | hostEphemeralPublicKey
  | androidEphemeralPublicKey
  | hostNonce
  | androidNonce
  | connectionId
  | transportKind
  | hostIpv4
  | androidIpv4
  | videoPort
  | controlPort
  | pairId
  | hostRuntimeVersion
  | androidRuntimeVersion
  deriving DecidableEq

def proposalTags : List ProposalTag :=
  [.domain, .protocolVersion, .hostIdentitySpkiSha256, .androidIdentitySpkiSha256,
    .hostEphemeralPublicKey, .androidEphemeralPublicKey, .hostNonce, .androidNonce, .connectionId,
    .transportKind, .hostIpv4, .androidIpv4, .videoPort, .controlPort, .pairId,
    .hostRuntimeVersion, .androidRuntimeVersion]

def tagValue (tag : ProposalTag) : UInt8 := UInt8.ofNat (proposalTags.idxOf tag)

inductive PairGenerationProposalErrorCode where
  | allocationFailed
  | proposalTooLarge
  | truncatedTlv
  | unknownTag
  | duplicateTag
  | outOfOrderTag
  | missingField
  | trailingData
  | noncanonicalEncoding
  | invalidFieldLength
  | invalidDomain
  | unsupportedVersion
  | invalidIdentityBinding
  | invalidEphemeralPublicKey
  | invalidNonce
  | invalidConnectionId
  | invalidTransportKind
  | invalidEndpoint
  | invalidPairId
  | invalidRuntimeVersion
  | cryptoUnavailable
  | operationFailed
  deriving DecidableEq

structure PairGenerationProposalError where
  code : PairGenerationProposalErrorCode
  fieldTag : UInt8 := kNoProposalFieldTag
  deriving DecidableEq

/-- The octet of a transport may stand for none of the two kinds. -/
inductive PeerHandshakeTransportKind where
  | cat6
  | wlan
  | other
  deriving DecidableEq

structure PairGenerationProposalFields where
  hostIdentitySpkiSha256 : Bytes
  androidIdentitySpkiSha256 : Bytes
  hostEphemeralPublicKey : Bytes
  androidEphemeralPublicKey : Bytes
  hostNonce : Bytes
  androidNonce : Bytes
  connectionId : Nat
  transportKind : PeerHandshakeTransportKind
  hostIpv4 : Bytes
  androidIpv4 : Bytes
  videoPort : Nat
  controlPort : Nat
  pairId : Bytes
  hostRuntimeVersion : Bytes
  androidRuntimeVersion : Bytes
  deriving DecidableEq

/-- How the transcript builder may refuse the fields of a proposal. -/
inductive TranscriptFailure where
  | invalidEphemeralPublicKey (fieldTag : UInt8)
  | platformCryptoUnavailable
  | cryptoProviderFailed
  | allocationFailed
  | other
  deriving DecidableEq

def stableSemverValid (value : Bytes) : Bool :=
  !value.isEmpty && decide (value.length ≤ kPeerHandshakeMaximumRuntimeVersionBytes) &&
    scanSemver value [] 0

/-- Here the digits may all be zero. -/
def pairIdValid (value : Bytes) : Bool :=
  value.length == kPairGenerationProposalPairIdBytes && value.all isLowerHexDigit

def transcriptError : TranscriptFailure → PairGenerationProposalError
  | .invalidEphemeralPublicKey fieldTag =>
    ⟨.invalidEphemeralPublicKey,
      if fieldTag = 4 then tagValue .hostEphemeralPublicKey
      else tagValue .androidEphemeralPublicKey⟩
  | .platformCryptoUnavailable | .cryptoProviderFailed => ⟨.cryptoUnavailable, kNoProposalFieldTag⟩
  | .allocationFailed => ⟨.allocationFailed, kNoProposalFieldTag⟩
  | .other => ⟨.operationFailed, kNoProposalFieldTag⟩

section

variable (buildTranscript : PairGenerationProposalFields → Option TranscriptFailure)

def validateEndpoints (fields : PairGenerationProposalFields) :
    Option PairGenerationProposalError :=
  if !containsNonzero fields.hostIdentitySpkiSha256 ||
      !containsNonzero fields.androidIdentitySpkiSha256 ||
      fields.hostIdentitySpkiSha256 == fields.androidIdentitySpkiSha256 then
    some ⟨.invalidIdentityBinding, tagValue .hostIdentitySpkiSha256⟩
  else if fields.hostEphemeralPublicKey = fields.androidEphemeralPublicKey then
    some ⟨.invalidEphemeralPublicKey, tagValue .androidEphemeralPublicKey⟩
  else if !containsNonzero fields.hostNonce || !containsNonzero fields.androidNonce ||
      fields.hostNonce == fields.androidNonce then
    some ⟨.invalidNonce, tagValue .hostNonce⟩
  else if fields.connectionId = 0 ∨
      kPairGenerationProposalSigned64Maximum < fields.connectionId then
    some ⟨.invalidConnectionId, tagValue .connectionId⟩
  else if fields.transportKind = .other then
    some ⟨.invalidTransportKind, tagValue .transportKind⟩
  else if fields.videoPort = 0 ∨ fields.controlPort = 0 ∨
      fields.videoPort = fields.controlPort then
    some ⟨.invalidEndpoint, tagValue .videoPort⟩
  else none

def validateFields (fields : PairGenerationProposalFields) :
    Option PairGenerationProposalError :=
  match validateEndpoints fields with
  | some error => some error
  | none =>
    if !pairIdValid fields.pairId then some ⟨.invalidPairId, tagValue .pairId⟩
    else if !stableSemverValid fields.hostRuntimeVersion then
      some ⟨.invalidRuntimeVersion, tagValue .hostRuntimeVersion⟩
    else if !stableSemverValid fields.androidRuntimeVersion then
      some ⟨.invalidRuntimeVersion, tagValue .androidRuntimeVersion⟩
    else (buildTranscript fields).map transcriptError

end

def kPairGenerationProposalVersion : Nat := 1
def kPairGenerationProposalMaximumCanonicalBytes : Nat := 503
def kTlvHeaderBytes : Nat := 5
def kPairGenerationProposalDomain : Bytes := ascii "visionforge-peer-generation-proposal-v1"

def PeerHandshakeTransportKind.octet : PeerHandshakeTransportKind → UInt8
  | .cat6 => 1
  | .wlan => 2
  | .other => 0

def PeerHandshakeTransportKind.ofOctet (octet : UInt8) : PeerHandshakeTransportKind :=
  if octet = 1 then .cat6 else if octet = 2 then .wlan else .other

def fieldValues (fields : PairGenerationProposalFields) : List Bytes :=
  [kPairGenerationProposalDomain, store 4 kPairGenerationProposalVersion,
    fields.hostIdentitySpkiSha256, fields.androidIdentitySpkiSha256,
    fields.hostEphemeralPublicKey, fields.androidEphemeralPublicKey, fields.hostNonce,
    fields.androidNonce, store 8 fields.connectionId, [fields.transportKind.octet],
    fields.hostIpv4, fields.androidIpv4, store 2 fields.videoPort, store 2 fields.controlPort,
    fields.pairId, fields.hostRuntimeVersion, fields.androidRuntimeVersion]

def encodeFields (fields : PairGenerationProposalFields) : Bytes :=
  (tagged 0 (fieldValues fields)).flatMap encodeField

structure VerifiedPairGenerationProposalV1 where
  fields : PairGenerationProposalFields
  canonicalBytes : Bytes
  proposalSha256 : Bytes

def maximumFieldLengths : List Nat :=
  [kPairGenerationProposalDomain.length, 4, 32, 32, 65, 65, 32, 32, 8, 1, 4, 4, 2, 2, 32,
    kPeerHandshakeMaximumRuntimeVersionBytes, kPeerHandshakeMaximumRuntimeVersionBytes]

/-- The values from a tag on. The tags before it are the ones seen. -/
def readFields : List Nat → Nat → Bytes → Except PairGenerationProposalError (List Bytes × Bytes)
  | [], _, encoded => .ok ([], encoded)
  | maximum :: maximums, expectedTag, encoded =>
    let actualTag := octetAt encoded 0
    let encodedLength := loadAt encoded 1 4
    let source := encoded.drop kTlvHeaderBytes
    if encoded = [] then .error ⟨.missingField, UInt8.ofNat expectedTag⟩
    else if encoded.length < kTlvHeaderBytes then .error { code := .truncatedTlv }
    else if proposalTags.length ≤ actualTag.toNat then .error ⟨.unknownTag, actualTag⟩
    else if actualTag.toNat < expectedTag then .error ⟨.duplicateTag, actualTag⟩
    else if actualTag ≠ UInt8.ofNat expectedTag then .error ⟨.outOfOrderTag, actualTag⟩
    else if maximum < encodedLength then .error ⟨.invalidFieldLength, actualTag⟩
    else if source.length < encodedLength then .error ⟨.truncatedTlv, actualTag⟩
    else do
      let (values, trailing) ← readFields maximums (expectedTag + 1) (source.drop encodedLength)
      .ok (source.take encodedLength :: values, trailing)

/-- The versions are the only values without an exact length. -/
def validateLengths (values : List Bytes) : Option PairGenerationProposalError :=
  match (List.range 15).find? fun tag =>
      (values.getD tag []).length ≠ maximumFieldLengths.getD tag 0 with
  | some tag => some ⟨.invalidFieldLength, UInt8.ofNat tag⟩
  | none =>
    if values.getD 15 [] = [] ∨ values.getD 16 [] = [] then some { code := .invalidFieldLength }
    else none

def fieldsOf (values : List Bytes) : PairGenerationProposalFields where
  hostIdentitySpkiSha256 := values.getD 2 []
  androidIdentitySpkiSha256 := values.getD 3 []
  hostEphemeralPublicKey := values.getD 4 []
  androidEphemeralPublicKey := values.getD 5 []
  hostNonce := values.getD 6 []
  androidNonce := values.getD 7 []
  connectionId := load (values.getD 8 [])
  transportKind := .ofOctet (octetAt (values.getD 9 []) 0)
  hostIpv4 := values.getD 10 []
  androidIpv4 := values.getD 11 []
  videoPort := load (values.getD 12 [])
  controlPort := load (values.getD 13 [])
  pairId := values.getD 14 []
  hostRuntimeVersion := values.getD 15 []
  androidRuntimeVersion := values.getD 16 []

section

variable (buildTranscript : PairGenerationProposalFields → Option TranscriptFailure)
  (sha256Bytes : Bytes → Except PairGenerationProposalError Bytes)

def buildPairGenerationProposalV1 (fields : PairGenerationProposalFields) :
    Except PairGenerationProposalError VerifiedPairGenerationProposalV1 :=
  match validateFields buildTranscript fields with
  | some error => .error error
  | none =>
    if kPairGenerationProposalMaximumCanonicalBytes < (encodeFields fields).length then
      .error { code := .proposalTooLarge }
    else do
      let digest ← sha256Bytes (encodeFields fields)
      .ok ⟨fields, encodeFields fields, digest⟩

def parsePairGenerationProposalV1 (canonicalBytes : Bytes) :
    Except PairGenerationProposalError VerifiedPairGenerationProposalV1 :=
  if kPairGenerationProposalMaximumCanonicalBytes < canonicalBytes.length then
    .error { code := .proposalTooLarge }
  else do
    let (values, trailing) ← readFields maximumFieldLengths 0 canonicalBytes
    if trailing ≠ [] then .error { code := .trailingData }
    else
      match validateLengths values with
      | some error => .error error
      | none =>
        if values.getD 0 [] ≠ kPairGenerationProposalDomain then
          .error ⟨.invalidDomain, tagValue .domain⟩
        else if load (values.getD 1 []) ≠ kPairGenerationProposalVersion then
          .error ⟨.unsupportedVersion, tagValue .protocolVersion⟩
        else do
          let rebuilt ← buildPairGenerationProposalV1 buildTranscript sha256Bytes (fieldsOf values)
          if rebuilt.canonicalBytes ≠ canonicalBytes then .error { code := .noncanonicalEncoding }
          else .ok rebuilt

end

/-- Of the rules of a field, the loop checks the maximum. -/
theorem readFields_eq_ok {maximums : List Nat} {tag : Nat} {encoded : Bytes}
    {res : List Bytes × Bytes} (known : tag + maximums.length ≤ proposalTags.length) :
    readFields maximums tag encoded = .ok res ↔
      Bootstrap.parseFields (maximums.map (bounded 0)) tag encoded = .ok res := by
  induction maximums generalizing tag encoded res with
  | nil => simp [readFields, Bootstrap.parseFields]
  | cons maximum maximums ih =>
    have want : (UInt8.ofNat tag).toNat = tag := by
      rw [UInt8.toNat_ofNat', Nat.mod_eq_of_lt]
      simp only [List.length_cons, proposalTags, List.length_nil] at known
      omega
    have room : tag + 1 + maximums.length ≤ proposalTags.length := by
      rwa [List.length_cons, Nat.add_comm _ 1, ← Nat.add_assoc] at known
    simp only [readFields, Bootstrap.parseFields, List.map_cons, ite_error_eq_ok, bind_ok]
    simp only [kTlvHeaderBytes, Bootstrap.kControlBootstrapPayloadTlvHeaderBytesV1, ih room]
    cases Bootstrap.parseFields (maximums.map (bounded 0)) (tag + 1)
      ((encoded.drop 5).drop (loadAt encoded 1 4)) with
    | error failure => simp
    | ok value =>
      simp only [Bootstrap.fieldLengthValid, Bootstrap.fieldValueValid, Bootstrap.semanticValid,
        bounded]
      grind

/-- What the types of the fields fix. -/
structure Sized (fields : PairGenerationProposalFields) : Prop where
  identities : fields.hostIdentitySpkiSha256.length = 32 ∧
    fields.androidIdentitySpkiSha256.length = 32
  keys : fields.hostEphemeralPublicKey.length = 65 ∧ fields.androidEphemeralPublicKey.length = 65
  nonces : fields.hostNonce.length = 32 ∧ fields.androidNonce.length = 32
  connectionId : fields.connectionId < 256 ^ 8
  addresses : fields.hostIpv4.length = 4 ∧ fields.androidIpv4.length = 4
  ports : fields.videoPort < 256 ^ 2 ∧ fields.controlPort < 256 ^ 2

section

variable {buildTranscript : PairGenerationProposalFields → Option TranscriptFailure}
  {sha256Bytes : Bytes → Except PairGenerationProposalError Bytes}
  {fields : PairGenerationProposalFields} {values : List Bytes} {bytes : Bytes}
  {proposal : VerifiedPairGenerationProposalV1}

theorem of_validateFields (valid : validateFields buildTranscript fields = none) :
    fields.transportKind ≠ .other ∧ pairIdValid fields.pairId = true ∧
      stableSemverValid fields.hostRuntimeVersion = true ∧
      stableSemverValid fields.androidRuntimeVersion = true := by
  unfold validateFields at valid
  split at valid
  · cases valid
  · rename_i before
    unfold validateEndpoints at before
    grind

theorem validateLengths_eq_none : validateLengths values = none ↔
    (∀ tag < 15, (values.getD tag []).length = maximumFieldLengths.getD tag 0) ∧
      values.getD 15 [] ≠ [] ∧ values.getD 16 [] ≠ [] := by
  unfold validateLengths
  split
  · rename_i tag found
    have wrong := List.find?_some found
    have small := List.mem_range.mp (List.mem_of_find?_eq_some found)
    simp only [decide_eq_true_eq] at wrong
    exact ⟨nofun, fun all => absurd (all.1 tag small) wrong⟩
  · rename_i none
    grind

theorem readFields_encode (sized : Sized fields)
    (valid : validateFields buildTranscript fields = none) :
    readFields maximumFieldLengths 0 (encodeFields fields) = .ok (fieldValues fields, []) ∧
      validateLengths (fieldValues fields) = none ∧ fieldsOf (fieldValues fields) = fields := by
  obtain ⟨kind, pair, host, android⟩ := of_validateFields valid
  obtain ⟨identities, keys, nonces, connectionId, addresses, ports⟩ := sized
  simp only [pairIdValid, stableSemverValid, Bool.and_eq_true, beq_iff_eq, decide_eq_true_eq,
    Bool.not_eq_true', List.isEmpty_eq_false_iff] at pair host android
  refine ⟨?_, ?_, ?_⟩
  · rw [readFields_eq_ok (by decide), encodeFields, ← List.append_nil (List.flatMap _ _)]
    refine Bootstrap.parseFields_encoded ?_ (by decide) 0 []
    simp [Bootstrap.Follow, maximumFieldLengths, fieldValues, Bootstrap.fieldValueValid,
      Bootstrap.fieldLengthValid, Bootstrap.semanticValid, bounded, *]
    decide
  · rw [validateLengths_eq_none]
    refine ⟨fun tag small => ?_, host.1.1, android.1.1⟩
    interval_cases tag <;> simp [fieldValues, maximumFieldLengths, *]
    rfl
  · have transport : PeerHandshakeTransportKind.ofOctet fields.transportKind.octet =
        fields.transportKind := by
      revert kind
      cases fields.transportKind <;> decide
    simp [fieldsOf, fieldValues, octetAt, transport, load_store connectionId, load_store ports.1,
      load_store ports.2]

theorem length_domain : kPairGenerationProposalDomain.length = 39 := by decide

theorem length_encodeFields (sized : Sized fields)
    (valid : validateFields buildTranscript fields = none) :
    (encodeFields fields).length ≤ kPairGenerationProposalMaximumCanonicalBytes := by
  obtain ⟨-, pair, host, android⟩ := of_validateFields valid
  obtain ⟨identities, keys, nonces, -, addresses, -⟩ := sized
  simp only [pairIdValid, stableSemverValid, Bool.and_eq_true, beq_iff_eq,
    decide_eq_true_eq] at pair host android
  have length : (encodeFields fields).length = 439 + fields.hostRuntimeVersion.length +
      fields.androidRuntimeVersion.length := by
    simp only [encodeFields, fieldValues, tagged, List.flatMap_cons, List.flatMap_nil,
      List.length_append, List.length_nil, List.length_singleton, Bootstrap.length_encodeField,
      length_store, length_domain, identities, keys, nonces, addresses, pair,
      Bootstrap.kControlBootstrapPayloadTlvHeaderBytesV1, kPairGenerationProposalPairIdBytes]
    clear valid pair host android
    omega
  rw [length]
  exact Nat.add_le_add (Nat.add_le_add_left host.1.2 439) android.1.2

theorem build_eq_ok :
    buildPairGenerationProposalV1 buildTranscript sha256Bytes fields = .ok proposal ↔
      validateFields buildTranscript fields = none ∧
        (encodeFields fields).length ≤ kPairGenerationProposalMaximumCanonicalBytes ∧
        ∃ digest, sha256Bytes (encodeFields fields) = .ok digest ∧
          ⟨fields, encodeFields fields, digest⟩ = proposal := by
  unfold buildPairGenerationProposalV1
  split
  · simp [*]
  · simp [*, ite_error_eq_ok, bind_ok]

/-- Valid fields are built whenever the hash answers. -/
theorem build_of_valid {digest : Bytes} (sized : Sized fields)
    (valid : validateFields buildTranscript fields = none)
    (answers : sha256Bytes (encodeFields fields) = .ok digest) :
    buildPairGenerationProposalV1 buildTranscript sha256Bytes fields =
      .ok ⟨fields, encodeFields fields, digest⟩ :=
  build_eq_ok.mpr ⟨valid, length_encodeFields sized valid, digest, answers, rfl⟩

theorem sized_fieldsOf (lengths : validateLengths values = none) : Sized (fieldsOf values) := by
  have size := (validateLengths_eq_none.mp lengths).1
  have number (tag : Nat) (small : tag < 15) :
      load (values.getD tag []) < 256 ^ maximumFieldLengths.getD tag 0 :=
    size tag small ▸ load_lt _
  exact ⟨⟨size 2 (by decide), size 3 (by decide)⟩, ⟨size 4 (by decide), size 5 (by decide)⟩,
    ⟨size 6 (by decide), size 7 (by decide)⟩, number 8 (by decide),
    ⟨size 10 (by decide), size 11 (by decide)⟩, ⟨number 12 (by decide), number 13 (by decide)⟩⟩

theorem parse_eq_ok :
    parsePairGenerationProposalV1 buildTranscript sha256Bytes bytes = .ok proposal ↔
      Sized proposal.fields ∧ buildPairGenerationProposalV1 buildTranscript sha256Bytes
        proposal.fields = .ok proposal ∧ proposal.canonicalBytes = bytes := by
  constructor
  · intro parses
    simp only [parsePairGenerationProposalV1, ite_error_eq_ok, bind_ok] at parses
    obtain ⟨-, ⟨values, trailing⟩, -, -, parses⟩ := parses
    split at parses
    · cases parses
    · rename_i lengths
      simp only [ite_error_eq_ok, bind_ok] at parses
      obtain ⟨-, -, rebuilt, builds, same, last⟩ := parses
      cases last
      obtain ⟨-, -, digest, -, rfl⟩ := build_eq_ok.mp builds
      exact ⟨sized_fieldsOf lengths, builds, not_ne_iff.mp same⟩
  · rintro ⟨sized, builds, rfl⟩
    obtain ⟨valid, small, digest, -, octets⟩ := build_eq_ok.mp builds
    obtain ⟨reads, lengths, same⟩ := readFields_encode sized valid
    rw [← octets]
    simp only [parsePairGenerationProposalV1, ite_error_eq_ok, bind_ok]
    refine ⟨Nat.not_lt.mpr small, _, reads, by simp, ?_⟩
    simp only [lengths, ite_error_eq_ok, bind_ok, same]
    exact ⟨not_not.mpr rfl, not_not.mpr (load_store (by decide)), _, builds,
      not_not.mpr (by rw [← octets]), by rw [octets]⟩

end

/-- Valid fields are built and parsed again, the parser and the builder are inverse to each other,
    and what is signed tells the fields. -/
theorem proposal_codec_is_exact
    (buildTranscript : PairGenerationProposalFields → Option TranscriptFailure)
    (sha256Bytes : Bytes → Except PairGenerationProposalError Bytes) :
    (∀ fields digest, Sized fields → validateFields buildTranscript fields = none →
      sha256Bytes (encodeFields fields) = .ok digest →
        buildPairGenerationProposalV1 buildTranscript sha256Bytes fields =
          .ok ⟨fields, encodeFields fields, digest⟩ ∧
        parsePairGenerationProposalV1 buildTranscript sha256Bytes (encodeFields fields) =
          .ok ⟨fields, encodeFields fields, digest⟩) ∧
      (∀ fields proposal, Sized fields →
        buildPairGenerationProposalV1 buildTranscript sha256Bytes fields = .ok proposal →
          proposal.fields = fields ∧ parsePairGenerationProposalV1 buildTranscript sha256Bytes
            proposal.canonicalBytes = .ok proposal) ∧
      (∀ bytes proposal,
        parsePairGenerationProposalV1 buildTranscript sha256Bytes bytes = .ok proposal →
          Sized proposal.fields ∧ buildPairGenerationProposalV1 buildTranscript sha256Bytes
            proposal.fields = .ok proposal ∧ proposal.canonicalBytes = bytes) ∧
      (∀ first second, Sized first → Sized second →
        validateFields buildTranscript first = none →
        validateFields buildTranscript second = none →
          encodeFields first = encodeFields second → first = second) ∧
      ∀ bytes bytes' proposal proposal',
        parsePairGenerationProposalV1 buildTranscript sha256Bytes bytes = .ok proposal →
        parsePairGenerationProposalV1 buildTranscript sha256Bytes bytes' = .ok proposal' →
          proposal.fields = proposal'.fields → bytes = bytes' := by
  refine ⟨fun fields digest sized valid answers => ?_, fun fields proposal sized builds => ?_,
    fun bytes proposal => parse_eq_ok.mp,
    fun first second sized sized' valid valid' same => ?_,
    fun bytes bytes' proposal proposal' parses parses' same => ?_⟩
  · have builds := build_of_valid sized valid answers
    exact ⟨builds, parse_eq_ok.mpr ⟨sized, builds, rfl⟩⟩
  · obtain ⟨-, -, digest, -, rfl⟩ := build_eq_ok.mp builds
    exact ⟨rfl, parse_eq_ok.mpr ⟨sized, builds, rfl⟩⟩
  · obtain ⟨reads, -, back⟩ := readFields_encode sized valid
    obtain ⟨reads', -, back'⟩ := readFields_encode sized' valid'
    rw [same, reads', Except.ok.injEq, Prod.mk.injEq] at reads
    rw [← back, ← back', reads.1]
  · obtain ⟨-, builds, rfl⟩ := parse_eq_ok.mp parses
    obtain ⟨-, builds', rfl⟩ := parse_eq_ok.mp parses'
    rw [same, builds', Except.ok.injEq] at builds
    rw [builds]

def wiredProposal : PairGenerationProposalFields where
  hostIdentitySpkiSha256 := List.replicate 32 1
  androidIdentitySpkiSha256 := List.replicate 32 2
  hostEphemeralPublicKey := 4 :: List.replicate 64 3
  androidEphemeralPublicKey := 4 :: List.replicate 64 5
  hostNonce := List.replicate 32 6
  androidNonce := List.replicate 32 7
  connectionId := 8
  transportKind := .cat6
  hostIpv4 := [192, 168, 7, 1]
  androidIpv4 := [192, 168, 7, 2]
  videoPort := 5000
  controlPort := 5001
  pairId := ascii "0123456789abcdef0123456789abcdef"
  hostRuntimeVersion := ascii "1.0.0"
  androidRuntimeVersion := ascii "2.10.3"

theorem wiredProposal_sized : Sized wiredProposal :=
  ⟨by decide, by decide, by decide, by decide, by decide, by decide⟩

theorem wiredProposal_read_back :
    buildPairGenerationProposalV1 (fun _ => none) (fun _ => .ok []) wiredProposal =
      .ok ⟨wiredProposal, encodeFields wiredProposal, []⟩ ∧
    parsePairGenerationProposalV1 (fun _ => none) (fun _ => .ok []) (encodeFields wiredProposal) =
      .ok ⟨wiredProposal, encodeFields wiredProposal, []⟩ :=
  (proposal_codec_is_exact (fun _ => none) (fun _ => .ok [])).1 wiredProposal []
    wiredProposal_sized (by decide) rfl

end VisionForge.PairGeneration
