import VisionForge.Lib.BigEndian
import VisionForge.Lib.Checks

/-! # Bootstrap records, version 1

The framing before keys are there: a fixed header with the direction, the type of the
message and the length of the payload. The stream decoder collects one record at a time
and says how much of its input it took. Memory is always granted here.
-/

namespace VisionForge.Bootstrap

open Lib.Ascii Lib.BigEndian

def kAuthenticatedControlBootstrapVersion : UInt8 := 1
def kAuthenticatedControlBootstrapHeaderBytes : Nat := 12
def kMaximumAuthenticatedControlBootstrapPayloadBytes : Nat := 65536

def kMagic : Bytes := ascii "VFB1"
def kVersionOffset : Nat := 4
def kHeaderSizeOffset : Nat := 5
def kDirectionOffset : Nat := 6
def kMessageTypeOffset : Nat := 7
def kPayloadLengthOffset : Nat := 8

inductive ControlBootstrapDirectionV1 where
  | invalid
  | hostToAndroid
  | androidToHost
  deriving DecidableEq

inductive ControlBootstrapMessageTypeV1 where
  | invalid
  | hostHello
  | androidChallengeRequest
  | hostChallengeProof
  | serverChallenge
  | hostFinalProof
  | pairGenerationCredential
  | hostHandshakeSignature
  | androidHandshakeConfirmation
  | hostFinished
  | abort
  | hostFirstPairOffer
  | androidFirstPairOffer
  | androidFirstPairConfirmation
  | hostFirstPairConfirmation
  | activationProofRequest
  | hostActivationSignature
  | activationResult
  | firstPairComplete
  deriving DecidableEq

def ControlBootstrapDirectionV1.octet : ControlBootstrapDirectionV1 → UInt8
  | .invalid => 0
  | .hostToAndroid => 1
  | .androidToHost => 2

/-- An octet outside of the enumeration is as invalid as its first value. -/
def ControlBootstrapDirectionV1.ofOctet (octet : UInt8) : ControlBootstrapDirectionV1 :=
  if octet = 1 then .hostToAndroid
  else if octet = 2 then .androidToHost
  else .invalid

/-- The messages in the order of their octets, from one on. -/
def messageTypes : List ControlBootstrapMessageTypeV1 :=
  [.hostHello, .androidChallengeRequest, .hostChallengeProof, .serverChallenge, .hostFinalProof,
    .pairGenerationCredential, .hostHandshakeSignature, .androidHandshakeConfirmation,
    .hostFinished, .abort, .hostFirstPairOffer, .androidFirstPairOffer,
    .androidFirstPairConfirmation, .hostFirstPairConfirmation, .activationProofRequest,
    .hostActivationSignature, .activationResult, .firstPairComplete]

def ControlBootstrapMessageTypeV1.octet (messageType : ControlBootstrapMessageTypeV1) : UInt8 :=
  if messageType = .invalid then 0 else UInt8.ofNat (messageTypes.idxOf messageType + 1)

def ControlBootstrapMessageTypeV1.ofOctet (octet : UInt8) : ControlBootstrapMessageTypeV1 :=
  if octet = 0 then .invalid else messageTypes.getD (octet.toNat - 1) .invalid

variable (direction : ControlBootstrapDirectionV1)

def validDirection : Bool :=
  direction == .hostToAndroid || direction == .androidToHost

def validMessageType (messageType : ControlBootstrapMessageTypeV1) : Bool :=
  messageType != .invalid

def hostMessages : List ControlBootstrapMessageTypeV1 :=
  [.hostHello, .hostChallengeProof, .hostFinalProof, .hostHandshakeSignature, .hostFinished,
    .hostFirstPairOffer, .hostFirstPairConfirmation, .hostActivationSignature, .firstPairComplete]

def androidMessages : List ControlBootstrapMessageTypeV1 :=
  [.androidChallengeRequest, .serverChallenge, .pairGenerationCredential,
    .androidHandshakeConfirmation, .androidFirstPairOffer, .androidFirstPairConfirmation,
    .activationProofRequest, .activationResult]

def controlBootstrapMessageAllowedV1 (messageType : ControlBootstrapMessageTypeV1) : Bool :=
  if !validDirection direction || !validMessageType messageType then false
  else if messageType = .abort then true
  else
    match direction with
    | .hostToAndroid => hostMessages.contains messageType
    | .androidToHost => androidMessages.contains messageType
    | .invalid => false

inductive ControlBootstrapEncodeStatusV1 where
  | encoded
  | invalidDirection
  | invalidMessageType
  | directionMismatch
  | payloadEmpty
  | payloadTooLarge
  deriving DecidableEq

def encodeHeader (messageType : ControlBootstrapMessageTypeV1) (payloadSize : Nat) : Bytes :=
  kMagic ++ (kAuthenticatedControlBootstrapVersion ::
    UInt8.ofNat kAuthenticatedControlBootstrapHeaderBytes :: direction.octet ::
    messageType.octet :: store 4 payloadSize)

def encodeAuthenticatedControlBootstrapRecordV1 (messageType : ControlBootstrapMessageTypeV1)
    (payload : Bytes) : Except ControlBootstrapEncodeStatusV1 Bytes :=
  if !validDirection direction then .error .invalidDirection
  else if !validMessageType messageType then .error .invalidMessageType
  else if !controlBootstrapMessageAllowedV1 direction messageType then .error .directionMismatch
  else if payload.isEmpty then .error .payloadEmpty
  else if kMaximumAuthenticatedControlBootstrapPayloadBytes < payload.length ∨
      2 ^ 32 - 1 < payload.length then .error .payloadTooLarge
  else .ok (encodeHeader direction messageType payload.length ++ payload)

inductive ControlBootstrapParseStatusV1 where
  | parsed
  | recordTooShort
  | invalidMagic
  | unsupportedVersion
  | invalidHeaderSize
  | invalidDirection
  | unexpectedDirection
  | invalidMessageType
  | directionMismatch
  | payloadEmpty
  | payloadTooLarge
  | lengthMismatch
  deriving DecidableEq

def octetAt (encoded : Bytes) (offset : Nat) : UInt8 := encoded.getD offset 0

def inspectBootstrapHeaderV1 (encoded : Bytes) (expectedDirection : ControlBootstrapDirectionV1) :
    Except ControlBootstrapParseStatusV1 Nat :=
  let direction := ControlBootstrapDirectionV1.ofOctet (octetAt encoded kDirectionOffset)
  let messageType := ControlBootstrapMessageTypeV1.ofOctet (octetAt encoded kMessageTypeOffset)
  let payloadSize := loadAt encoded kPayloadLengthOffset 4
  if encoded.length < kAuthenticatedControlBootstrapHeaderBytes then .error .recordTooShort
  else if encoded.take 4 ≠ kMagic then .error .invalidMagic
  else if octetAt encoded kVersionOffset ≠ kAuthenticatedControlBootstrapVersion then
    .error .unsupportedVersion
  else if (octetAt encoded kHeaderSizeOffset).toNat ≠
      kAuthenticatedControlBootstrapHeaderBytes then .error .invalidHeaderSize
  else if !validDirection direction then .error .invalidDirection
  else if !validDirection expectedDirection || direction ≠ expectedDirection then
    .error .unexpectedDirection
  else if !validMessageType messageType then .error .invalidMessageType
  else if !controlBootstrapMessageAllowedV1 direction messageType then .error .directionMismatch
  else if payloadSize = 0 then .error .payloadEmpty
  else if kMaximumAuthenticatedControlBootstrapPayloadBytes < payloadSize then
    .error .payloadTooLarge
  else .ok (kAuthenticatedControlBootstrapHeaderBytes + payloadSize)

structure ParsedControlBootstrapRecordV1 where
  direction : ControlBootstrapDirectionV1 := .invalid
  messageType : ControlBootstrapMessageTypeV1 := .invalid
  payload : Bytes := []
  deriving DecidableEq

def parseAuthenticatedControlBootstrapRecordV1 (encoded : Bytes)
    (expectedDirection : ControlBootstrapDirectionV1) :
    Except ControlBootstrapParseStatusV1 ParsedControlBootstrapRecordV1 :=
  match inspectBootstrapHeaderV1 encoded expectedDirection with
  | .error status => .error status
  | .ok recordBytes =>
    if encoded.length ≠ recordBytes then .error .lengthMismatch
    else
      .ok
        { direction := .ofOctet (octetAt encoded kDirectionOffset)
          messageType := .ofOctet (octetAt encoded kMessageTypeOffset)
          payload := encoded.drop kAuthenticatedControlBootstrapHeaderBytes }

inductive ControlBootstrapStreamStatusV1 where
  | needMore
  | recordReady
  | outputPending
  | rejected
  deriving DecidableEq

structure ControlBootstrapStreamFeedResultV1 where
  status : ControlBootstrapStreamStatusV1
  consumed : Nat
  rejection : ControlBootstrapParseStatusV1
  deriving DecidableEq

structure ControlBootstrapStreamDecoderV1 where
  expectedDirection : ControlBootstrapDirectionV1
  encoded : Bytes := []
  expectedRecordBytes : Nat := 0
  failed : Bool := false
  ready : Bool := false
  rejection : ControlBootstrapParseStatusV1 := .recordTooShort
  deriving DecidableEq

namespace ControlBootstrapStreamDecoderV1

def new (expectedDirection : ControlBootstrapDirectionV1) : ControlBootstrapStreamDecoderV1 where
  expectedDirection := expectedDirection
  failed := !validDirection expectedDirection
  rejection := if validDirection expectedDirection then .recordTooShort else .unexpectedDirection

variable (decoder : ControlBootstrapStreamDecoderV1)

def reject (status : ControlBootstrapParseStatusV1) : ControlBootstrapStreamDecoderV1 :=
  { decoder with
    encoded := []
    expectedRecordBytes := 0
    ready := false
    failed := true
    rejection := status }

/-- The rest of a record whose header was accepted. -/
def feedRecord (source : Bytes) (consumed : Nat) :
    ControlBootstrapStreamDecoderV1 × ControlBootstrapStreamFeedResultV1 :=
  let copyBytes := min (decoder.expectedRecordBytes - decoder.encoded.length)
    (source.length - consumed)
  let decoder :=
    { decoder with encoded := decoder.encoded ++ (source.drop consumed).take copyBytes }
  let consumed := consumed + copyBytes
  if decoder.encoded.length < decoder.expectedRecordBytes then
    (decoder, ⟨.needMore, consumed, .recordTooShort⟩)
  else
    match parseAuthenticatedControlBootstrapRecordV1 decoder.encoded decoder.expectedDirection with
    | .error status => (decoder.reject status, ⟨.rejected, consumed, status⟩)
    | .ok _ => ({ decoder with ready := true }, ⟨.recordReady, consumed, .parsed⟩)

def feed (source : Bytes) : ControlBootstrapStreamDecoderV1 × ControlBootstrapStreamFeedResultV1 :=
  if decoder.failed then (decoder, ⟨.rejected, 0, decoder.rejection⟩)
  else if decoder.ready then (decoder, ⟨.outputPending, 0, .parsed⟩)
  else if decoder.encoded.length < kAuthenticatedControlBootstrapHeaderBytes then
    let copyBytes := min (kAuthenticatedControlBootstrapHeaderBytes - decoder.encoded.length)
      source.length
    let decoder := { decoder with encoded := decoder.encoded ++ source.take copyBytes }
    if decoder.encoded.length < kAuthenticatedControlBootstrapHeaderBytes then
      (decoder, ⟨.needMore, copyBytes, .recordTooShort⟩)
    else
      match inspectBootstrapHeaderV1 decoder.encoded decoder.expectedDirection with
      | .error status => (decoder.reject status, ⟨.rejected, copyBytes, status⟩)
      | .ok recordBytes =>
        ({ decoder with expectedRecordBytes := recordBytes }).feedRecord source copyBytes
  else decoder.feedRecord source 0

def resetForNextRecord : ControlBootstrapStreamDecoderV1 :=
  { decoder with
    encoded := []
    expectedRecordBytes := 0
    ready := false
    rejection := .recordTooShort }

def takeRecord : ControlBootstrapStreamDecoderV1 × Option Bytes :=
  if decoder.failed || !decoder.ready then (decoder, none)
  else (decoder.resetForNextRecord, some decoder.encoded)

/-- A caller that takes each record as soon as it is ready and feeds what is left. -/
def feedAll : (turns : Nat) → ControlBootstrapStreamDecoderV1 → Bytes →
    ControlBootstrapStreamDecoderV1 × List Bytes
  | 0, decoder, _ => (decoder, [])
  | turns + 1, decoder, source =>
    let (decoder, result) := decoder.feed source
    if result.status = .recordReady then
      let (decoder, record) := decoder.takeRecord
      let (decoder, records) := feedAll turns decoder (source.drop result.consumed)
      (decoder, record.toList ++ records)
    else (decoder, [])

/-- Every turn but the last takes an octet. -/
def feedChunk (chunk : Bytes) : ControlBootstrapStreamDecoderV1 × List Bytes :=
  feedAll (chunk.length + 1) decoder chunk

def feedChunks (decoder : ControlBootstrapStreamDecoderV1) :
    List Bytes → ControlBootstrapStreamDecoderV1 × List Bytes
  | [] => (decoder, [])
  | chunk :: chunks =>
    let (decoder, records) := decoder.feedChunk chunk
    let (decoder, more) := decoder.feedChunks chunks
    (decoder, records ++ more)

/-- Why the decoder takes nothing more. -/
def terminalRejection : Option ControlBootstrapParseStatusV1 :=
  if decoder.failed then some decoder.rejection else none

end ControlBootstrapStreamDecoderV1

/-! ## Bootstrap records and their octets -/

open Lib.Checks

@[simp] theorem ControlBootstrapDirectionV1.ofOctet_octet
    (dir : ControlBootstrapDirectionV1) : ofOctet dir.octet = dir := by
  cases dir <;> rfl

@[simp] theorem ControlBootstrapMessageTypeV1.ofOctet_octet
    (messageType : ControlBootstrapMessageTypeV1) : ofOctet messageType.octet = messageType := by
  cases messageType <;> rfl

variable {dir : ControlBootstrapDirectionV1} {messageType : ControlBootstrapMessageTypeV1}
  {encoded payload : Bytes}

theorem valid_of_allowed (allowed : controlBootstrapMessageAllowedV1 dir messageType = true) :
    validDirection dir = true ∧ validMessageType messageType = true := by
  unfold controlBootstrapMessageAllowedV1 at allowed
  split at allowed
  · cases allowed
  · rename_i valid
    simpa using valid

theorem octet_of_allowed {directionOctet typeOctet : UInt8} (allowed :
    controlBootstrapMessageAllowedV1 (.ofOctet directionOctet) (.ofOctet typeOctet) = true) :
    (ControlBootstrapDirectionV1.ofOctet directionOctet).octet = directionOctet ∧
      (ControlBootstrapMessageTypeV1.ofOctet typeOctet).octet = typeOctet := by
  have directions : ∀ n < 256, validDirection (.ofOctet (.ofNat n)) = true →
      (ControlBootstrapDirectionV1.ofOctet (.ofNat n)).octet = .ofNat n := by decide +kernel
  have types : ∀ n < 256, validMessageType (.ofOctet (.ofNat n)) = true →
      (ControlBootstrapMessageTypeV1.ofOctet (.ofNat n)).octet = .ofNat n := by decide +kernel
  have dir := directions _ directionOctet.toNat_lt
  have type := types _ typeOctet.toNat_lt
  rw [UInt8.ofNat_toNat] at dir type
  obtain ⟨validDirection, validType⟩ := valid_of_allowed allowed
  exact ⟨dir validDirection, type validType⟩

theorem inspect_eq_ok_iff {bytes : Nat} :
    inspectBootstrapHeaderV1 encoded dir = .ok bytes ↔
      kAuthenticatedControlBootstrapHeaderBytes ≤ encoded.length ∧
      encoded.take 4 = kMagic ∧
      octetAt encoded kVersionOffset = kAuthenticatedControlBootstrapVersion ∧
      (octetAt encoded kHeaderSizeOffset).toNat = kAuthenticatedControlBootstrapHeaderBytes ∧
      .ofOctet (octetAt encoded kDirectionOffset) = dir ∧
      controlBootstrapMessageAllowedV1 dir
        (.ofOctet (octetAt encoded kMessageTypeOffset)) = true ∧
      0 < loadAt encoded kPayloadLengthOffset 4 ∧
      loadAt encoded kPayloadLengthOffset 4 ≤ kMaximumAuthenticatedControlBootstrapPayloadBytes ∧
      bytes = kAuthenticatedControlBootstrapHeaderBytes +
        loadAt encoded kPayloadLengthOffset 4 := by
  have valid := @valid_of_allowed dir (.ofOctet (octetAt encoded kMessageTypeOffset))
  simp only [inspectBootstrapHeaderV1, ite_error_eq_ok, Except.ok.injEq]
  grind

theorem encode_eq_ok_iff :
    encodeAuthenticatedControlBootstrapRecordV1 dir messageType payload = .ok encoded ↔
      controlBootstrapMessageAllowedV1 dir messageType = true ∧ 0 < payload.length ∧
        payload.length ≤ kMaximumAuthenticatedControlBootstrapPayloadBytes ∧
        encoded = encodeHeader dir messageType payload.length ++ payload := by
  have valid := @valid_of_allowed dir messageType
  simp only [encodeAuthenticatedControlBootstrapRecordV1, ite_error_eq_ok, Except.ok.injEq]
  grind [List.isEmpty_iff, kMaximumAuthenticatedControlBootstrapPayloadBytes]

theorem record_eq (long : kAuthenticatedControlBootstrapHeaderBytes ≤ encoded.length) :
    encoded = encoded.take 4 ++ (octetAt encoded kVersionOffset ::
      octetAt encoded kHeaderSizeOffset :: octetAt encoded kDirectionOffset ::
      octetAt encoded kMessageTypeOffset :: (store 4 (loadAt encoded kPayloadLengthOffset 4) ++
        encoded.drop kAuthenticatedControlBootstrapHeaderBytes)) := by
  rw [kAuthenticatedControlBootstrapHeaderBytes] at long
  conv_lhs => rw [← List.take_append_drop 4 encoded, @drop_eq_octet encoded 4 (by omega),
    @drop_eq_octet encoded 5 (by omega), @drop_eq_octet encoded 6 (by omega),
    @drop_eq_octet encoded 7 (by omega), @drop_eq_store encoded 8 4 (by omega)]
  rfl

/-- The parser takes the encodings of records in the direction that it expects. -/
theorem parse_eq_ok_iff {record : ParsedControlBootstrapRecordV1} :
    parseAuthenticatedControlBootstrapRecordV1 encoded dir = .ok record ↔
      record.direction = dir ∧ encodeAuthenticatedControlBootstrapRecordV1
        record.direction record.messageType record.payload = .ok encoded := by
  rw [encode_eq_ok_iff]
  constructor
  · intro parses
    unfold parseAuthenticatedControlBootstrapRecordV1 at parses
    cases inspected : inspectBootstrapHeaderV1 encoded dir with
    | error status => simp [inspected] at parses
    | ok recordBytes =>
      obtain ⟨long, magic, version, headerSize, sameDirection, allowed, some, bounded, size⟩ :=
        inspect_eq_ok_iff.mp inspected
      rw [← sameDirection] at allowed
      obtain ⟨directionOctet, typeOctet⟩ := octet_of_allowed allowed
      simp only [inspected] at parses
      split at parses
      · cases parses
      rename_i whole
      cases parses
      have payloadSize : (encoded.drop kAuthenticatedControlBootstrapHeaderBytes).length =
          loadAt encoded kPayloadLengthOffset 4 := by
        rw [List.length_drop, not_ne_iff.mp whole, size, Nat.add_sub_cancel_left]
      have sizeOctet : octetAt encoded kHeaderSizeOffset =
          UInt8.ofNat kAuthenticatedControlBootstrapHeaderBytes := by
        rw [← headerSize, UInt8.ofNat_toNat]
      refine ⟨sameDirection, allowed, payloadSize ▸ some, payloadSize ▸ bounded, ?_⟩
      conv_lhs => rw [record_eq long, magic, version, sizeOctet]
      simp [encodeHeader, payloadSize, directionOctet, typeOctet]
  · obtain ⟨_, messageType, payload⟩ := record
    rintro ⟨rfl, allowed, some, bounded, rfl⟩
    rename_i dir
    have short : payload.length < 256 ^ 4 := Nat.lt_of_le_of_lt bounded (by decide)
    have split : encodeHeader dir messageType payload.length ++ payload =
        (kMagic ++ [kAuthenticatedControlBootstrapVersion,
          UInt8.ofNat kAuthenticatedControlBootstrapHeaderBytes, dir.octet,
          messageType.octet]) ++ (store 4 payload.length ++ payload) := by
      simp [encodeHeader]
    have size : loadAt (encodeHeader dir messageType payload.length ++ payload)
        kPayloadLengthOffset 4 = payload.length := by
      rw [split]
      exact loadAt_store rfl short
    have length : (encodeHeader dir messageType payload.length ++ payload).length =
        kAuthenticatedControlBootstrapHeaderBytes + payload.length := by
      rw [split, ← List.append_assoc, List.length_append]
      congr 1
    have directionOctet : octetAt (encodeHeader dir messageType payload.length ++ payload)
        kDirectionOffset = dir.octet := rfl
    have typeOctet : octetAt (encodeHeader dir messageType payload.length ++ payload)
        kMessageTypeOffset = messageType.octet := rfl
    have behind : (encodeHeader dir messageType payload.length ++ payload).drop
        kAuthenticatedControlBootstrapHeaderBytes = payload := by
      rw [split, ← List.append_assoc]
      exact List.drop_left' (by simp; rfl)
    have inspected : inspectBootstrapHeaderV1
        (encodeHeader dir messageType payload.length ++ payload) dir =
          .ok (kAuthenticatedControlBootstrapHeaderBytes + payload.length) := by
      rw [inspect_eq_ok_iff, size, length]
      rw [directionOctet, typeOctet, ControlBootstrapDirectionV1.ofOctet_octet,
        ControlBootstrapMessageTypeV1.ofOctet_octet]
      exact ⟨Nat.le_add_right .., rfl, rfl, rfl, rfl, allowed, some, bounded, rfl⟩
    simp [parseAuthenticatedControlBootstrapRecordV1, inspected, length, directionOctet, typeOctet,
      behind]

/-- A string of octets is at most one record, and the parser takes it where the encoder makes it. -/
theorem record_codec_is_exact (encoded : Bytes) (dir : ControlBootstrapDirectionV1) :
    (∀ messageType payload,
      encodeAuthenticatedControlBootstrapRecordV1 dir messageType payload = .ok encoded ↔
        parseAuthenticatedControlBootstrapRecordV1 encoded dir = .ok ⟨dir, messageType, payload⟩) ∧
      ((∃ record, parseAuthenticatedControlBootstrapRecordV1 encoded dir = .ok record) ↔
        ∃! record : ParsedControlBootstrapRecordV1, record.direction = dir ∧
          encodeAuthenticatedControlBootstrapRecordV1 record.direction record.messageType
            record.payload = .ok encoded) := by
  constructor
  · intro messageType payload
    rw [parse_eq_ok_iff]
    exact (and_iff_right rfl).symm
  · simp only [← parse_eq_ok_iff]
    constructor
    · rintro ⟨record, parses⟩
      exact ⟨record, parses, fun other same => Except.ok.inj (same.symm.trans parses)⟩
    · rintro ⟨record, parses, -⟩
      exact ⟨record, parses⟩

end VisionForge.Bootstrap
