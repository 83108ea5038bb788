import Mathlib.Data.List.Forall2
import VisionForge.Bootstrap.Records
import VisionForge.Lib.Decimal

/-! # Bootstrap payloads, version 1

A payload is the run of the fields of its message: a tag, the length in four octets, the
value. The fields of a message, their bounds and what a value must look like are its
schema. The first-pairing messages have other codecs and no schema here.
-/

namespace VisionForge.Bootstrap

open Lib.Ascii Lib.BigEndian

def kControlBootstrapPayloadTlvHeaderBytesV1 : Nat := 5
def kControlBootstrapPayloadMaximumCredentialBytesV1 : Nat := 8192
def kNoFieldTag : UInt8 := 0xff

inductive FieldSemantic where
  | plain
  | lowerHexIdentifier
  | positiveU64
  | canonicalP256Spki
  | sec1P256PublicKey
  | nonzeroBytes
  | transportKind
  | nonzeroPort
  | stableSemver
  | ecdsaDer
  | compactJwt
  | positiveU16
  deriving DecidableEq

structure FieldRule where
  minimum : Nat
  maximum : Nat
  semantic : FieldSemantic
  deriving DecidableEq

def exact (octets : Nat) (semantic : FieldSemantic := .plain) : FieldRule :=
  ⟨octets, octets, semantic⟩

def bounded (minimum maximum : Nat) (semantic : FieldSemantic := .plain) : FieldRule :=
  ⟨minimum, maximum, semantic⟩

def kHostHelloRules : List FieldRule :=
  [exact 91 .canonicalP256Spki, exact 65 .sec1P256PublicKey, exact 32 .nonzeroBytes,
    exact 1 .transportKind, exact 4, exact 4, exact 2 .nonzeroPort, exact 2 .nonzeroPort,
    bounded 1 32 .stableSemver]

def kAndroidChallengeRequestRules : List FieldRule :=
  [exact 32 .lowerHexIdentifier, exact 32 .lowerHexIdentifier, exact 32 .lowerHexIdentifier,
    exact 32 .lowerHexIdentifier, exact 32 .lowerHexIdentifier, exact 8 .positiveU64,
    exact 8 .positiveU64, exact 91 .canonicalP256Spki, exact 65 .sec1P256PublicKey,
    exact 32 .nonzeroBytes, bounded 1 32 .stableSemver, bounded 8 72 .ecdsaDer]

def kSignatureRules : List FieldRule := [bounded 8 72 .ecdsaDer]

def kServerChallengeRules : List FieldRule :=
  [exact 32 .lowerHexIdentifier, exact 8 .positiveU64, exact 32 .nonzeroBytes]

def kCredentialRules : List FieldRule :=
  [exact 8 .positiveU64, exact 8 .positiveU64, exact 32 .nonzeroBytes,
    bounded 1 kControlBootstrapPayloadMaximumCredentialBytesV1 .compactJwt]

def kAndroidHandshakeConfirmationRules : List FieldRule :=
  [bounded 8 72 .ecdsaDer, exact 32 .nonzeroBytes]

def kHostFinishedRules : List FieldRule := [exact 32 .nonzeroBytes]

def kAbortRules : List FieldRule := [exact 2 .positiveU16]

def kP256SpkiPrefix : Bytes :=
  [0x30, 0x59, 0x30, 0x13, 0x06, 0x07, 0x2a, 0x86, 0x48, 0xce, 0x3d, 0x02, 0x01, 0x06, 0x08, 0x2a,
    0x86, 0x48, 0xce, 0x3d, 0x03, 0x01, 0x07, 0x03, 0x42, 0x00, 0x04]

def schemaFor : ControlBootstrapMessageTypeV1 → List FieldRule
  | .hostHello => kHostHelloRules
  | .androidChallengeRequest => kAndroidChallengeRequestRules
  | .hostChallengeProof | .hostFinalProof | .hostHandshakeSignature => kSignatureRules
  | .serverChallenge => kServerChallengeRules
  | .pairGenerationCredential => kCredentialRules
  | .androidHandshakeConfirmation => kAndroidHandshakeConfirmationRules
  | .hostFinished => kHostFinishedRules
  | .abort => kAbortRules
  | .hostFirstPairOffer | .androidFirstPairOffer | .androidFirstPairConfirmation
  | .hostFirstPairConfirmation | .activationProofRequest | .hostActivationSignature
  | .activationResult | .firstPairComplete | .invalid => []

def containsNonzero (value : Bytes) : Bool := value.any (· != 0)

def readControlBootstrapU16BeV1 (value : Bytes) : Nat :=
  if value.length ≠ 2 then 0 else load value

def readControlBootstrapU64BeV1 (value : Bytes) : Nat :=
  if value.length ≠ 8 then 0 else load value

/-- The test against zero looks at the octets, not at the digits. -/
def lowerHexIdentifierValid (value : Bytes) : Bool :=
  value.length == 32 && containsNonzero value && value.all isLowerHexDigit

def semverComponentValid (component : Bytes) : Bool :=
  !component.isEmpty && !(decide (1 < component.length) && component.head? == some 48)

/-- The scan of a version, with the component that is open and the number of closed ones. -/
def scanSemver : Bytes → Bytes → Nat → Bool
  | [], component, components => semverComponentValid component && components + 1 == 3
  | character :: rest, component, components =>
    if character ≠ 46 then
      Lib.Decimal.isDigit character && scanSemver rest (component ++ [character]) components
    else semverComponentValid component && scanSemver rest [] (components + 1)

def stableSemverValid (value : Bytes) : Bool :=
  !value.isEmpty && decide (value.length ≤ 32) && scanSemver value [] 0

def canonicalDerIntegerValid (value : Bytes) : Bool :=
  !value.isEmpty && decide (value.length ≤ 33) &&
    decide (octetAt value 0 &&& 0x80 = 0) &&
    !(decide (1 < value.length) && octetAt value 0 == 0 && octetAt value 1 &&& 0x80 == 0) &&
    containsNonzero value

def canonicalEcdsaDerValid (value : Bytes) : Bool :=
  let rSize := (octetAt value 3).toNat
  let sOffset := 4 + rSize
  let sSize := (octetAt value (sOffset + 1)).toNat
  if value.length < 8 ∨ 72 < value.length ∨ octetAt value 0 ≠ 0x30 ∨
      (octetAt value 1).toNat ≠ value.length - 2 then false
  else if octetAt value 2 ≠ 0x02 then false
  else if rSize = 0 ∨ value.length < 4 + rSize + 2 then false
  else if !canonicalDerIntegerValid ((value.drop 4).take rSize) then false
  else if octetAt value sOffset ≠ 0x02 then false
  else if sSize = 0 ∨ sOffset + 2 + sSize ≠ value.length then false
  else canonicalDerIntegerValid ((value.drop (sOffset + 2)).take sSize)

def isBase64UrlCharacter (character : UInt8) : Bool :=
  (65 ≤ character && character ≤ 90) || (97 ≤ character && character ≤ 122) ||
    (48 ≤ character && character ≤ 57) || character == 45 || character == 95

/-- The scan of a token, with the dots seen and the size of the open segment. -/
def scanCompactJwt : Bytes → Nat → Nat → Bool
  | [], dots, segmentSize => dots == 2 && segmentSize != 0
  | character :: rest, dots, segmentSize =>
    if character = 46 then
      if segmentSize = 0 ∨ dots = 2 then false else scanCompactJwt rest (dots + 1) 0
    else isBase64UrlCharacter character && scanCompactJwt rest dots (segmentSize + 1)

def compactJwtValid (value : Bytes) : Bool :=
  !value.isEmpty &&
    decide (value.length ≤ kControlBootstrapPayloadMaximumCredentialBytesV1) &&
    scanCompactJwt value 0 0

def semanticValid (semantic : FieldSemantic) (value : Bytes) : Bool :=
  match semantic with
  | .plain => true
  | .lowerHexIdentifier => lowerHexIdentifierValid value
  | .positiveU64 =>
    readControlBootstrapU64BeV1 value != 0 && decide (octetAt value 0 &&& 0x80 = 0)
  | .canonicalP256Spki =>
    value.length == 91 && value.take kP256SpkiPrefix.length == kP256SpkiPrefix &&
      containsNonzero (value.drop kP256SpkiPrefix.length)
  | .sec1P256PublicKey =>
    value.length == 65 && octetAt value 0 == 0x04 && containsNonzero (value.drop 1)
  | .nonzeroBytes => containsNonzero value
  | .transportKind => value.length == 1 && (octetAt value 0 == 1 || octetAt value 0 == 2)
  | .nonzeroPort => readControlBootstrapU16BeV1 value != 0
  | .stableSemver => stableSemverValid value
  | .ecdsaDer => canonicalEcdsaDerValid value
  | .compactJwt => compactJwtValid value
  | .positiveU16 => readControlBootstrapU16BeV1 value != 0

def fieldLengthValid (rule : FieldRule) (size : Nat) : Bool :=
  decide (rule.minimum ≤ size) && decide (size ≤ rule.maximum)

def fieldValueValid (rule : FieldRule) (value : Bytes) : Bool :=
  fieldLengthValid rule value.length && semanticValid rule.semantic value

variable (messageType : ControlBootstrapMessageTypeV1)

def crossFieldValuesValid (values : List Bytes) : Bool :=
  if messageType ≠ .hostHello then true
  else
    readControlBootstrapU16BeV1 (values.getD 6 []) != readControlBootstrapU16BeV1 (values.getD 7 [])

inductive ControlBootstrapPayloadStatusV1 where
  | encoded
  | parsed
  | invalidMessageType
  | invalidFieldCount
  | payloadEmpty
  | payloadTooLarge
  | truncatedTlv
  | unexpectedFieldTag
  | invalidFieldLength
  | invalidFieldValue
  | trailingData
  deriving DecidableEq

structure ControlBootstrapPayloadFailureV1 where
  status : ControlBootstrapPayloadStatusV1
  fieldTag : UInt8 := kNoFieldTag
  deriving DecidableEq

structure ControlBootstrapPayloadFieldV1 where
  tag : UInt8
  value : Bytes
  deriving DecidableEq

structure ParsedControlBootstrapPayloadV1 where
  messageType : ControlBootstrapMessageTypeV1
  fields : List Bytes
  deriving DecidableEq

def ParsedControlBootstrapPayloadV1.field (parsed : ParsedControlBootstrapPayloadV1)
    (tag : Nat) : Bytes := parsed.fields.getD tag []

/-- What is wrong with the fields from one index on, after so many encoded octets. -/
def fieldFailure : List FieldRule → Nat → Nat → List ControlBootstrapPayloadFieldV1 →
    Option ControlBootstrapPayloadFailureV1
  | rule :: rules, index, encodedSize, field :: fields =>
    let expectedTag := UInt8.ofNat index
    let fieldBytes := kControlBootstrapPayloadTlvHeaderBytesV1 + field.value.length
    if field.tag ≠ expectedTag then some ⟨.unexpectedFieldTag, field.tag⟩
    else if !fieldLengthValid rule field.value.length then
      some ⟨.invalidFieldLength, expectedTag⟩
    else if !fieldValueValid rule field.value then some ⟨.invalidFieldValue, expectedTag⟩
    else if kMaximumAuthenticatedControlBootstrapPayloadBytes - fieldBytes < encodedSize then
      some ⟨.payloadTooLarge, kNoFieldTag⟩
    else fieldFailure rules (index + 1) (encodedSize + fieldBytes) fields
  | _, _, _, _ => none

def encodeField (field : ControlBootstrapPayloadFieldV1) : Bytes :=
  field.tag :: (store 4 field.value.length ++ field.value)

def encodeControlBootstrapPayloadV1 (fields : List ControlBootstrapPayloadFieldV1) :
    Except ControlBootstrapPayloadFailureV1 Bytes :=
  let rules := schemaFor messageType
  if rules = [] then .error ⟨.invalidMessageType, kNoFieldTag⟩
  else if fields.length ≠ rules.length then .error ⟨.invalidFieldCount, kNoFieldTag⟩
  else
    match fieldFailure rules 0 0 fields with
    | some failure => .error failure
    | none =>
      if !crossFieldValuesValid messageType (fields.map (·.value)) then
        .error ⟨.invalidFieldValue, 7⟩
      else .ok (fields.flatMap encodeField)

/-- The values of the fields from one index on, with the octets behind them. -/
def parseFields : List FieldRule → Nat → Bytes →
    Except ControlBootstrapPayloadFailureV1 (List Bytes × Bytes)
  | [], _, encoded => .ok ([], encoded)
  | rule :: rules, index, encoded =>
    let expectedTag := UInt8.ofNat index
    let actualTag := octetAt encoded 0
    let fieldSize := loadAt encoded 1 4
    let source := encoded.drop kControlBootstrapPayloadTlvHeaderBytesV1
    let value := source.take fieldSize
    if encoded.length < kControlBootstrapPayloadTlvHeaderBytesV1 then
      .error ⟨.truncatedTlv, expectedTag⟩
    else if actualTag ≠ expectedTag then .error ⟨.unexpectedFieldTag, actualTag⟩
    else if !fieldLengthValid rule fieldSize then .error ⟨.invalidFieldLength, expectedTag⟩
    else if source.length < fieldSize then .error ⟨.truncatedTlv, expectedTag⟩
    else if !fieldValueValid rule value then .error ⟨.invalidFieldValue, expectedTag⟩
    else
      match parseFields rules (index + 1) (source.drop fieldSize) with
      | .error failure => .error failure
      | .ok (values, trailing) => .ok (value :: values, trailing)

def parseControlBootstrapPayloadV1 (encoded : Bytes) :
    Except ControlBootstrapPayloadFailureV1 ParsedControlBootstrapPayloadV1 :=
  let rules := schemaFor messageType
  if rules = [] then .error ⟨.invalidMessageType, kNoFieldTag⟩
  else if encoded.isEmpty then .error ⟨.payloadEmpty, kNoFieldTag⟩
  else if kMaximumAuthenticatedControlBootstrapPayloadBytes < encoded.length then
    .error ⟨.payloadTooLarge, kNoFieldTag⟩
  else
    match parseFields rules 0 encoded with
    | .error failure => .error failure
    | .ok (values, trailing) =>
      if trailing ≠ [] then .error ⟨.trailingData, kNoFieldTag⟩
      else if !crossFieldValuesValid messageType values then .error ⟨.invalidFieldValue, 7⟩
      else .ok ⟨messageType, values⟩

def tagged : Nat → List Bytes → List ControlBootstrapPayloadFieldV1
  | _, [] => []
  | index, value :: values => ⟨UInt8.ofNat index, value⟩ :: tagged (index + 1) values

abbrev Follow (rules : List FieldRule) (values : List Bytes) : Prop :=
  List.Forall₂ (fun rule value => fieldValueValid rule value = true) rules values

@[simp] theorem length_tagged (index : Nat) (values : List Bytes) :
    (tagged index values).length = values.length := by
  induction values generalizing index with
  | nil => rfl
  | cons value values ih => simp [tagged, ih]

@[simp] theorem tagged_values (index : Nat) (values : List Bytes) :
    (tagged index values).map (·.value) = values := by
  induction values generalizing index with
  | nil => rfl
  | cons value values ih => simp [tagged, ih]

@[simp] theorem length_encodeField (field : ControlBootstrapPayloadFieldV1) :
    (encodeField field).length = kControlBootstrapPayloadTlvHeaderBytesV1 + field.value.length := by
  simp only [encodeField, List.length_cons, List.length_append, length_store,
    kControlBootstrapPayloadTlvHeaderBytesV1]
  omega

theorem schemaFor_maximum :
    ∀ rule ∈ schemaFor messageType,
      rule.maximum ≤ kControlBootstrapPayloadMaximumCredentialBytesV1 := by
  cases messageType <;> decide

theorem length_le_maximum {rule : FieldRule} {value : Bytes}
    (valid : fieldValueValid rule value = true) : value.length ≤ rule.maximum := by
  simp only [fieldValueValid, fieldLengthValid, Bool.and_eq_true, decide_eq_true_eq] at valid
  exact valid.1.2

theorem fieldLengthValid_of_valid {rule : FieldRule} {value : Bytes}
    (valid : fieldValueValid rule value = true) : fieldLengthValid rule value.length = true := by
  simp only [fieldValueValid, Bool.and_eq_true] at valid
  exact valid.1

theorem fieldFailure_cons {rule : FieldRule} (rules : List FieldRule) (index size : Nat)
    (value : Bytes) (fields : List ControlBootstrapPayloadFieldV1)
    (small : rule.maximum ≤ kControlBootstrapPayloadMaximumCredentialBytesV1) :
    fieldFailure (rule :: rules) index size (⟨UInt8.ofNat index, value⟩ :: fields) = none ↔
      fieldValueValid rule value = true ∧
        size + (kControlBootstrapPayloadTlvHeaderBytesV1 + value.length) ≤
          kMaximumAuthenticatedControlBootstrapPayloadBytes ∧
        fieldFailure rules (index + 1)
          (size + (kControlBootstrapPayloadTlvHeaderBytesV1 + value.length)) fields = none := by
  by_cases valid : fieldValueValid rule value = true
  · have bound := length_le_maximum valid
    have room : kMaximumAuthenticatedControlBootstrapPayloadBytes -
        (kControlBootstrapPayloadTlvHeaderBytesV1 + value.length) < size ↔
        ¬ size + (kControlBootstrapPayloadTlvHeaderBytesV1 + value.length) ≤
          kMaximumAuthenticatedControlBootstrapPayloadBytes := by
      simp only [kControlBootstrapPayloadMaximumCredentialBytesV1,
        kMaximumAuthenticatedControlBootstrapPayloadBytes,
        kControlBootstrapPayloadTlvHeaderBytesV1] at small ⊢
      omega
    by_cases fits : size + (kControlBootstrapPayloadTlvHeaderBytesV1 + value.length) ≤
        kMaximumAuthenticatedControlBootstrapPayloadBytes
    · simp [fieldFailure, fieldLengthValid_of_valid valid, valid, room, fits]
    · simp [fieldFailure, fieldLengthValid_of_valid valid, valid, room, fits]
  · by_cases lengths : fieldLengthValid rule value.length = true
    · simp [fieldFailure, lengths, valid]
    · simp [fieldFailure, lengths, valid]

variable {rules : List FieldRule} {values : List Bytes}

/-- Fields under their tags pass if their values do and they fit into a record. -/
theorem fieldFailure_tagged (same : values.length = rules.length)
    (small : ∀ rule ∈ rules, rule.maximum ≤ kControlBootstrapPayloadMaximumCredentialBytesV1)
    (index : Nat) {size : Nat} (fits : size ≤ kMaximumAuthenticatedControlBootstrapPayloadBytes) :
    fieldFailure rules index size (tagged index values) = none ↔
      Follow rules values ∧ size + ((tagged index values).flatMap encodeField).length ≤
        kMaximumAuthenticatedControlBootstrapPayloadBytes := by
  induction rules generalizing values index size with
  | nil =>
    cases values with
    | nil => simp [fieldFailure, tagged, fits]
    | cons value values => simp at same
  | cons rule rules ih =>
    cases values with
    | nil => simp at same
    | cons value values =>
      rw [tagged, fieldFailure_cons _ _ _ _ _ (small rule (by simp))]
      simp only [Follow, List.forall₂_cons, List.flatMap_cons, List.length_append,
        length_encodeField, and_assoc]
      apply and_congr_right
      intro _
      constructor
      · rintro ⟨room, rest⟩
        have tail := (ih (by simpa using same) (fun rule mem => small rule (by simp [mem]))
          (index + 1) room).mp rest
        exact ⟨tail.1, by omega⟩
      · rintro ⟨follow, total⟩
        have room : size + (kControlBootstrapPayloadTlvHeaderBytesV1 + value.length) ≤
            kMaximumAuthenticatedControlBootstrapPayloadBytes := by omega
        exact ⟨room, (ih (by simpa using same)
          (fun rule mem => small rule (by simp [mem])) (index + 1) room).mpr
            ⟨follow, by omega⟩⟩

/-- The parser gives back the values of an encoding, with what comes after it. -/
theorem parseFields_encoded (follow : Follow rules values)
    (small : ∀ rule ∈ rules, rule.maximum ≤ kControlBootstrapPayloadMaximumCredentialBytesV1)
    (index : Nat) (trailing : Bytes) :
    parseFields rules index ((tagged index values).flatMap encodeField ++ trailing) =
      .ok (values, trailing) := by
  induction follow generalizing index with
  | nil => rfl
  | @cons rule value rules values valid follow ih =>
    have maximum := small rule (by simp)
    have bound := length_le_maximum valid
    have short : value.length < 256 ^ 4 := by
      simp only [kControlBootstrapPayloadMaximumCredentialBytesV1] at maximum
      omega
    have tail := ih (fun rule mem => small rule (by simp [mem])) (index + 1)
    set rest := (tagged (index + 1) values).flatMap encodeField ++ trailing with restIs
    have whole : (tagged index (value :: values)).flatMap encodeField ++ trailing =
        UInt8.ofNat index :: (store 4 value.length ++ (value ++ rest)) := by
      simp [tagged, encodeField, restIs]
    have size : loadAt (UInt8.ofNat index :: (store 4 value.length ++ (value ++ rest))) 1 4 =
        value.length :=
      @loadAt_store [UInt8.ofNat index] _ 1 4 value.length rfl short
    have src : (UInt8.ofNat index :: (store 4 value.length ++ (value ++ rest))).drop
        kControlBootstrapPayloadTlvHeaderBytesV1 = value ++ rest := by
      simp [kControlBootstrapPayloadTlvHeaderBytesV1]
    rw [whole, parseFields]
    simp only [size, src, List.take_left', List.drop_left', tail]
    simp [octetAt, kControlBootstrapPayloadTlvHeaderBytesV1, fieldLengthValid_of_valid valid, valid]

theorem header_eq {encoded : Bytes}
    (long : ¬ encoded.length < kControlBootstrapPayloadTlvHeaderBytesV1) :
    encoded = octetAt encoded 0 :: (store 4 (loadAt encoded 1 4) ++
      encoded.drop kControlBootstrapPayloadTlvHeaderBytesV1) := by
  rcases encoded with _ | ⟨tag, _ | ⟨a, _ | ⟨b, _ | ⟨c, _ | ⟨d, rest⟩⟩⟩⟩⟩
  case cons.cons.cons.cons.cons =>
    have size : store 4 (load [a, b, c, d]) = [a, b, c, d] := store_load [a, b, c, d]
    simp [octetAt, loadAt, size, kControlBootstrapPayloadTlvHeaderBytesV1]
  all_goals simp [kControlBootstrapPayloadTlvHeaderBytesV1] at long

/-- What the parser takes is the encoding of the values it gives. -/
theorem of_parseFields {encoded trailing : Bytes} {index : Nat}
    (parsed : parseFields rules index encoded = .ok (values, trailing)) :
    Follow rules values ∧ encoded = (tagged index values).flatMap encodeField ++ trailing := by
  induction rules generalizing values encoded index with
  | nil =>
    obtain ⟨rfl, rfl⟩ := parsed
    exact ⟨.nil, rfl⟩
  | cons rule rules ih =>
    simp only [parseFields] at parsed
    split_ifs at parsed with short tag lengths room valid
    split at parsed
    · cases parsed
    · next tail rest behind same =>
        obtain ⟨rfl, rfl⟩ := parsed
        obtain ⟨follow, src⟩ := ih same
        have size : ((encoded.drop kControlBootstrapPayloadTlvHeaderBytesV1).take
            (loadAt encoded 1 4)).length = loadAt encoded 1 4 := by
          rw [List.length_take]
          omega
        refine ⟨.cons (by simpa using valid) follow, ?_⟩
        calc encoded
            = octetAt encoded 0 :: (store 4 (loadAt encoded 1 4) ++
                encoded.drop kControlBootstrapPayloadTlvHeaderBytesV1) := header_eq short
          _ = octetAt encoded 0 :: (store 4 (loadAt encoded 1 4) ++
                ((encoded.drop kControlBootstrapPayloadTlvHeaderBytesV1).take
                    (loadAt encoded 1 4) ++
                  (encoded.drop kControlBootstrapPayloadTlvHeaderBytesV1).drop
                    (loadAt encoded 1 4))) := by rw [List.take_append_drop]
          _ = _ := by
                rw [src, not_ne_iff.mp tag]
                simp [tagged, encodeField, size]

theorem tagged_flatMap_ne_nil (index : Nat) (some : values ≠ []) :
    (tagged index values).flatMap encodeField ≠ [] := by
  cases values with
  | nil => exact absurd rfl some
  | cons value values => simp [tagged, encodeField]

theorem length_le_of_follow (follow : Follow rules values) (index : Nat) :
    ((tagged index values).flatMap encodeField).length ≤
      (rules.map (kControlBootstrapPayloadTlvHeaderBytesV1 + ·.maximum)).sum := by
  induction follow generalizing index with
  | nil => simp [tagged]
  | cons valid follow ih =>
    have bound := length_le_maximum valid
    have rest := ih (index + 1)
    simp only [tagged, List.flatMap_cons, List.length_append, length_encodeField, List.map_cons,
      List.sum_cons]
    omega

theorem schemaFor_fits :
    ((schemaFor messageType).map (kControlBootstrapPayloadTlvHeaderBytesV1 + ·.maximum)).sum ≤
      kMaximumAuthenticatedControlBootstrapPayloadBytes := by
  cases messageType <;> decide

structure IsPayload (messageType : ControlBootstrapMessageTypeV1) (values : List Bytes)
    (encoded : Bytes) : Prop where
  schema : schemaFor messageType ≠ []
  follow : Follow (schemaFor messageType) values
  cross : crossFieldValuesValid messageType values = true
  fields : encoded = (tagged 0 values).flatMap encodeField

theorem IsPayload.fits {messageType : ControlBootstrapMessageTypeV1} {encoded : Bytes}
    (payload : IsPayload messageType values encoded) :
    encoded.length ≤ kMaximumAuthenticatedControlBootstrapPayloadBytes := by
  rw [payload.fields]
  exact (length_le_of_follow payload.follow 0).trans (schemaFor_fits messageType)

theorem encode_ok_iff (encoded : Bytes) (values : List Bytes) :
    encodeControlBootstrapPayloadV1 messageType (tagged 0 values) = .ok encoded ↔
      IsPayload messageType values encoded := by
  have small := schemaFor_maximum messageType
  constructor
  · intro encodes
    simp only [encodeControlBootstrapPayloadV1, length_tagged, tagged_values] at encodes
    by_cases schema : schemaFor messageType = []
    · simp [schema] at encodes
    by_cases count : values.length = (schemaFor messageType).length
    · cases failure : fieldFailure (schemaFor messageType) 0 0 (tagged 0 values) with
      | some failed => simp [schema, count, failure] at encodes
      | none =>
        by_cases cross : crossFieldValuesValid messageType values = true
        · simp only [schema, count, failure, cross] at encodes
          obtain rfl : (tagged 0 values).flatMap encodeField = encoded := by simpa using encodes
          rw [fieldFailure_tagged count small 0 (Nat.zero_le _), Nat.zero_add] at failure
          exact ⟨schema, failure.1, cross, rfl⟩
        · simp [schema, count, failure, cross] at encodes
    · simp [schema, count] at encodes
  · intro payload
    have fits := payload.fits
    obtain ⟨schema, follow, cross, rfl⟩ := payload
    have count := follow.length_eq.symm
    have passes : fieldFailure (schemaFor messageType) 0 0 (tagged 0 values) = none := by
      rw [fieldFailure_tagged count small 0 (Nat.zero_le _), Nat.zero_add]
      exact ⟨follow, fits⟩
    simp [encodeControlBootstrapPayloadV1, schema, count, passes, cross]

theorem parse_ok_iff (encoded : Bytes) (parsed : ParsedControlBootstrapPayloadV1) :
    parseControlBootstrapPayloadV1 messageType encoded = .ok parsed ↔
      parsed.messageType = messageType ∧ IsPayload messageType parsed.fields encoded := by
  have small := schemaFor_maximum messageType
  constructor
  · intro accepts
    simp only [parseControlBootstrapPayloadV1] at accepts
    split_ifs at accepts with schema empty large
    cases fields : parseFields (schemaFor messageType) 0 encoded with
    | error failure => simp [fields] at accepts
    | ok res =>
      obtain ⟨values, trailing⟩ := res
      simp only [fields] at accepts
      split_ifs at accepts with behind cross
      obtain rfl : (⟨messageType, values⟩ : ParsedControlBootstrapPayloadV1) = parsed := by
        simpa using accepts
      obtain ⟨follow, src⟩ := of_parseFields fields
      rw [not_ne_iff.mp behind, List.append_nil] at src
      exact ⟨rfl, schema, follow, by simpa using cross, src⟩
  · rintro ⟨same, payload⟩
    have fits := payload.fits
    obtain ⟨schema, follow, cross, src⟩ := payload
    have reads := parseFields_encoded follow small 0 []
    rw [List.append_nil, ← src] at reads
    have some : encoded ≠ [] := by
      rw [src]
      apply tagged_flatMap_ne_nil
      intro none
      have count := follow.length_eq
      exact schema (by simpa [none] using count)
    obtain ⟨type, values⟩ := parsed
    simp only at same reads cross
    simp [parseControlBootstrapPayloadV1, schema, some, Nat.not_lt.mpr fits, reads, cross, same]

theorem tagged_of_passes {fields : List ControlBootstrapPayloadFieldV1} {index size : Nat}
    (same : fields.length = rules.length) (passes : fieldFailure rules index size fields = none) :
    tagged index (fields.map (·.value)) = fields := by
  induction rules generalizing fields index size with
  | nil =>
    rw [List.eq_nil_of_length_eq_zero same]
    rfl
  | cons rule rules ih =>
    cases fields with
    | nil => rfl
    | cons field fields =>
      simp only [fieldFailure] at passes
      split_ifs at passes with tag lengths value room
      rw [List.map_cons, tagged, ih (Nat.succ.inj same) passes, ← not_ne_iff.mp tag]

theorem tagged_of_encodes {fields : List ControlBootstrapPayloadFieldV1} {enc : Bytes}
    (encodes : encodeControlBootstrapPayloadV1 messageType fields = .ok enc) :
    tagged 0 (fields.map (·.value)) = fields := by
  cases passes : fieldFailure (schemaFor messageType) 0 0 fields with
  | none =>
    simp only [encodeControlBootstrapPayloadV1] at encodes
    split_ifs at encodes with schema count
    all_goals exact tagged_of_passes (not_ne_iff.mp count) passes
  | some failure =>
    simp only [encodeControlBootstrapPayloadV1, passes] at encodes
    split_ifs at encodes

/-- The parser and the encoder of a message are inverse to each other. -/
theorem payload_codec_is_exact :
    (∀ fields encoded, encodeControlBootstrapPayloadV1 messageType fields = .ok encoded ↔
      parseControlBootstrapPayloadV1 messageType encoded = .ok ⟨messageType, fields.map (·.value)⟩ ∧
        tagged 0 (fields.map (·.value)) = fields) ∧
      (∀ encoded parsed, parseControlBootstrapPayloadV1 messageType encoded = .ok parsed ↔
        encodeControlBootstrapPayloadV1 messageType (tagged 0 parsed.fields) = .ok encoded ∧
          parsed.messageType = messageType) ∧
      ∀ encoded, (∃ parsed, parseControlBootstrapPayloadV1 messageType encoded = .ok parsed) ↔
        ∃ values, IsPayload messageType values encoded := by
  refine ⟨fun fields encoded => ⟨fun encodes => ?_, ?_⟩, fun encoded parsed => ?_, fun encoded => ?_⟩
  · have consecutive := tagged_of_encodes messageType encodes
    rw [← consecutive, encode_ok_iff] at encodes
    exact ⟨(parse_ok_iff _ _ _).mpr ⟨rfl, encodes⟩, consecutive⟩
  · rintro ⟨parses, consecutive⟩
    rw [← consecutive]
    exact (encode_ok_iff _ _ _).mpr ((parse_ok_iff _ _ _).mp parses).2
  · rw [parse_ok_iff, encode_ok_iff, and_comm]
  · simp only [parse_ok_iff]
    exact ⟨fun ⟨parsed, _, payload⟩ => ⟨parsed.fields, payload⟩,
      fun ⟨values, payload⟩ => ⟨⟨messageType, values⟩, rfl, payload⟩⟩

end VisionForge.Bootstrap
