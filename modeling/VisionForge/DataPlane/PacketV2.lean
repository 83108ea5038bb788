import VisionForge.DataPlane.Records

/-! # Authenticated packets, version 2 -/

namespace VisionForge.DataPlane

open Lib.Ascii Lib.BigEndian

namespace PacketV2

def kAuthenticatedDataPlaneVersion : UInt8 := 2
def kAuthenticatedPacketHeaderBytes : Nat := 32
def kMaximumAuthenticatedDatagramBytes : Nat := 1412
def kMaximumAuthenticatedPayloadBytes : Nat :=
  kMaximumAuthenticatedDatagramBytes - kAuthenticatedPacketHeaderBytes - kGcmTagBytes
def kMaximumPacketsPerTrafficKey : Nat := 2 ^ 23
def kMaximumAuthenticatedPacketCounter : Nat := kMaximumPacketsPerTrafficKey - 1
def kMinimumPacketBytes : Nat := kAuthenticatedPacketHeaderBytes + kGcmTagBytes

def kPacketMagic : Bytes := ascii "VFA2"
def kVersionOffset : Nat := 4
def kHeaderSizeOffset : Nat := 5
def kPacketTypeOffset : Nat := 6
def kDirectionOffset : Nat := 7
def kConnectionIdOffset : Nat := 8
def kKeyEpochOffset : Nat := 16
def kCounterOffset : Nat := 20
def kPayloadLengthOffset : Nat := 28

inductive AuthenticatedPacketType where
  | invalid
  | video
  | presenceProbe
  | idrRequest
  | mouseButton
  deriving DecidableEq

inductive DataPlaneDirection where
  | invalid
  | hostToAndroid
  | androidToHost
  deriving DecidableEq

def AuthenticatedPacketType.octet : AuthenticatedPacketType → UInt8
  | .invalid => 0
  | .video => 1
  | .presenceProbe => 2
  | .idrRequest => 3
  | .mouseButton => 4

/-- An octet that names no type is as invalid as zero. -/
def AuthenticatedPacketType.ofOctet (octet : UInt8) : AuthenticatedPacketType :=
  if octet = 1 then .video
  else if octet = 2 then .presenceProbe
  else if octet = 3 then .idrRequest
  else if octet = 4 then .mouseButton
  else .invalid

def DataPlaneDirection.octet : DataPlaneDirection → UInt8
  | .invalid => 0
  | .hostToAndroid => 1
  | .androidToHost => 2

def DataPlaneDirection.ofOctet (octet : UInt8) : DataPlaneDirection :=
  if octet = 1 then .hostToAndroid
  else if octet = 2 then .androidToHost
  else .invalid

def packetTypeValid (packetType : AuthenticatedPacketType) : Bool := packetType != .invalid

def directionValid (direction : DataPlaneDirection) : Bool := direction != .invalid

structure AuthenticatedPacketTuple where
  connectionId : BitVec 64 := 0
  keyEpoch : BitVec 32 := 0
  direction : DataPlaneDirection := .invalid
  packetType : AuthenticatedPacketType := .invalid
  deriving DecidableEq

def tupleValid (tuple : AuthenticatedPacketTuple) : Bool :=
  tuple.connectionId != 0 && tuple.keyEpoch != 0 && directionValid tuple.direction &&
    packetTypeValid tuple.packetType

def encodeHeader (tuple : AuthenticatedPacketTuple) (counter payloadSize : Nat) : Bytes :=
  kPacketMagic ++
    (kAuthenticatedDataPlaneVersion :: UInt8.ofNat kAuthenticatedPacketHeaderBytes ::
      tuple.packetType.octet :: tuple.direction.octet ::
      (store 8 tuple.connectionId.toNat ++ (store 4 tuple.keyEpoch.toNat ++
        (store 8 counter ++ store 4 payloadSize))))

inductive PacketParseStatus where
  | parsed
  | packetTooShort
  | invalidMagic
  | unsupportedVersion
  | invalidHeaderSize
  | invalidPacketType
  | invalidDirection
  | counterExceedsKeyLifetime
  | payloadTooLarge
  | lengthMismatch
  deriving DecidableEq

structure ParsedAuthenticatedPacket where
  tuple : AuthenticatedPacketTuple
  counter : Nat
  authenticatedHeader : Bytes
  ciphertext : Bytes
  tag : Bytes
  deriving DecidableEq

def octetAt (datagram : Bytes) (offset : Nat) : UInt8 := datagram.getD offset 0

def parseAuthenticatedPacketV2 (datagram : Bytes) :
    Except PacketParseStatus ParsedAuthenticatedPacket :=
  let packetType := AuthenticatedPacketType.ofOctet (octetAt datagram kPacketTypeOffset)
  let direction := DataPlaneDirection.ofOctet (octetAt datagram kDirectionOffset)
  let counter := loadAt datagram kCounterOffset 8
  let payloadSize := loadAt datagram kPayloadLengthOffset 4
  if datagram.length < kMinimumPacketBytes then .error .packetTooShort
  else if datagram.take 4 ≠ kPacketMagic then .error .invalidMagic
  else if octetAt datagram kVersionOffset ≠ kAuthenticatedDataPlaneVersion then
    .error .unsupportedVersion
  else if (octetAt datagram kHeaderSizeOffset).toNat ≠ kAuthenticatedPacketHeaderBytes then
    .error .invalidHeaderSize
  else if !packetTypeValid packetType then .error .invalidPacketType
  else if !directionValid direction then .error .invalidDirection
  else if kMaximumAuthenticatedPacketCounter < counter then .error .counterExceedsKeyLifetime
  else if kMaximumAuthenticatedPayloadBytes < payloadSize then .error .payloadTooLarge
  else if datagram.length ≠ kAuthenticatedPacketHeaderBytes + payloadSize + kGcmTagBytes then
    .error .lengthMismatch
  else
    .ok
      { tuple :=
          { connectionId := BitVec.ofNat 64 (loadAt datagram kConnectionIdOffset 8)
            keyEpoch := BitVec.ofNat 32 (loadAt datagram kKeyEpochOffset 4)
            direction := direction
            packetType := packetType }
        counter := counter
        authenticatedHeader := datagram.take kAuthenticatedPacketHeaderBytes
        ciphertext := (datagram.drop kAuthenticatedPacketHeaderBytes).take payloadSize
        tag := datagram.drop (datagram.length - kGcmTagBytes) }

inductive PacketValidationStatus where
  | valid
  | invalidExpectedTuple
  | wrongConnectionId
  | wrongKeyEpoch
  | wrongDirection
  | wrongPacketType
  deriving DecidableEq

def validateAuthenticatedPacketV2 (packet : ParsedAuthenticatedPacket)
    (expected : AuthenticatedPacketTuple) : PacketValidationStatus :=
  if !tupleValid expected then .invalidExpectedTuple
  else if packet.tuple.connectionId ≠ expected.connectionId then .wrongConnectionId
  else if packet.tuple.keyEpoch ≠ expected.keyEpoch then .wrongKeyEpoch
  else if packet.tuple.direction ≠ expected.direction then .wrongDirection
  else if packet.tuple.packetType ≠ expected.packetType then .wrongPacketType
  else .valid

inductive PacketSealStatus where
  | sealed
  | invalidConfiguration
  | plaintextTooLarge
  | counterExhausted
  | allocationFailed
  | encryptionFailed
  deriving DecidableEq

structure PacketSealResult where
  status : PacketSealStatus := .invalidConfiguration
  counter : Nat := 0
  datagram : Bytes := []
  deriving DecidableEq

def SealEnd.packetStatus : SealEnd → PacketSealStatus
  | .allocationFailed => .allocationFailed
  | .encryptionFailed => .encryptionFailed
  | .sealed => .sealed

abbrev AuthenticatedPacketSealer := Sealer AuthenticatedPacketTuple

namespace AuthenticatedPacketSealer

def new (trafficKey : TrafficKey AuthenticatedPacketTuple) (imports : Bool) :
    AuthenticatedPacketSealer :=
  Sealer.new trafficKey (tupleValid trafficKey.tuple) imports

/-- The next state, the result and the call of the provider, if one was made. -/
def «seal» (sealer : AuthenticatedPacketSealer) (attempt : SealAttempt) :
    AuthenticatedPacketSealer × PacketSealResult × Option EncryptCall :=
  match sealer.cipher with
  | none => (sealer, {}, none)
  | some key =>
    if !tupleValid sealer.tuple then (sealer, {}, none)
    else if kMaximumAuthenticatedPayloadBytes < attempt.plaintext.length then
      (sealer, { status := .plaintextTooLarge }, none)
    else if !sealer.counterAvailable then (sealer, { status := .counterExhausted }, none)
    else
      let sealing := Sealer.encryptNext sealer key
        (fun counter => encodeHeader sealer.tuple counter attempt.plaintext.length)
        kMaximumAuthenticatedPacketCounter attempt
      (sealing.sealer,
        { status := SealEnd.packetStatus sealing.ending
          counter := sealing.counter
          datagram := sealing.record }, sealing.call)

end AuthenticatedPacketSealer

inductive PacketOpenStatus where
  | opened
  | malformedPacket
  | invalidConfiguration
  | wrongConnectionId
  | wrongKeyEpoch
  | wrongDirection
  | wrongPacketType
  | duplicate
  | tooOld
  | authenticationFailed
  | allocationFailed
  deriving DecidableEq

structure PacketOpenResult where
  status : PacketOpenStatus := .invalidConfiguration
  parseStatus : PacketParseStatus := .packetTooShort
  validationStatus : PacketValidationStatus := .invalidExpectedTuple
  authenticatedCounter : Nat := 0
  plaintext : Bytes := []
  deriving DecidableEq

def mapValidationStatus : PacketValidationStatus → PacketOpenStatus
  | .valid => .opened
  | .invalidExpectedTuple => .invalidConfiguration
  | .wrongConnectionId => .wrongConnectionId
  | .wrongKeyEpoch => .wrongKeyEpoch
  | .wrongDirection => .wrongDirection
  | .wrongPacketType => .wrongPacketType

abbrev AuthenticatedPacketOpener := Opener AuthenticatedPacketTuple

namespace AuthenticatedPacketOpener

def new (trafficKey : TrafficKey AuthenticatedPacketTuple) (imports : Bool) :
    AuthenticatedPacketOpener :=
  Opener.new trafficKey (tupleValid trafficKey.tuple) imports

/-- `decrypt` is the provider; `allocates` tells whether the plaintext buffer can be had. -/
def «open» (opener : AuthenticatedPacketOpener) (decrypt : DecryptCall → Option Bytes)
    (allocates : Bool) (datagram : Bytes) : AuthenticatedPacketOpener × PacketOpenResult :=
  match opener.cipher with
  | none => (opener, {})
  | some key =>
    if !tupleValid opener.tuple then (opener, {})
    else
      match parseAuthenticatedPacketV2 datagram with
      | .error status => (opener, { status := .malformedPacket, parseStatus := status })
      | .ok packet =>
        let validation := validateAuthenticatedPacketV2 packet opener.tuple
        let result : PacketOpenResult :=
          { parseStatus := .parsed, validationStatus := validation }
        let counter := BitVec.ofNat 64 packet.counter
        if validation ≠ .valid then
          (opener, { result with status := mapValidationStatus validation })
        else
          match opener.replayWindow.classify counter with
          | .duplicate => (opener, { result with status := .duplicate })
          | .tooOld => (opener, { result with status := .tooOld })
          | .fresh =>
            if !allocates then (opener, { result with status := .allocationFailed })
            else
              match decrypt
                  { key := key
                    nonce := composeNonce opener.noncePrefix packet.counter
                    authenticatedData := packet.authenticatedHeader
                    ciphertext := packet.ciphertext
                    tag := packet.tag } with
              | none => (opener, { result with status := .authenticationFailed })
              | some plaintext =>
                let (replayWindow, committed) :=
                  opener.replayWindow.commitAuthenticated counter
                let opener := { opener with replayWindow := replayWindow }
                if !committed then
                  (opener, { result with status := .invalidConfiguration })
                else
                  (opener,
                    { result with
                      status := .opened
                      authenticatedCounter := packet.counter
                      plaintext := plaintext })

end AuthenticatedPacketOpener

def headerFields (datagram : Bytes) : AuthenticatedPacketTuple × Unit × Nat :=
  ({ connectionId := BitVec.ofNat 64 (loadAt datagram kConnectionIdOffset 8)
     keyEpoch := BitVec.ofNat 32 (loadAt datagram kKeyEpochOffset 4)
     direction := DataPlaneDirection.ofOctet (octetAt datagram kDirectionOffset)
     packetType := AuthenticatedPacketType.ofOctet (octetAt datagram kPacketTypeOffset) }, (),
    loadAt datagram kCounterOffset 8)

@[simp] theorem AuthenticatedPacketType.ofOctet_octet (packetType : AuthenticatedPacketType) :
    ofOctet packetType.octet = packetType := by
  cases packetType <;> rfl

@[simp] theorem DataPlaneDirection.ofOctet_octet (dir : DataPlaneDirection) :
    ofOctet dir.octet = dir := by
  cases dir <;> rfl

def headerStart (packetType : AuthenticatedPacketType) (direction : DataPlaneDirection) : Bytes :=
  kPacketMagic ++ [kAuthenticatedDataPlaneVersion,
    UInt8.ofNat kAuthenticatedPacketHeaderBytes, packetType.octet, direction.octet]

theorem headerFields_encodeHeader (tuple : AuthenticatedPacketTuple) {ctr : Nat}
    (payloadSize : Nat) (rest : Bytes) (fits : ctr < 2 ^ 64) :
    headerFields (encodeHeader tuple ctr payloadSize ++ rest) = (tuple, (), ctr) := by
  obtain ⟨connectionId, keyEpoch, dir, packetType⟩ := tuple
  have packet : encodeHeader ⟨connectionId, keyEpoch, dir, packetType⟩ ctr payloadSize ++
      rest = headerStart packetType dir ++ (store 8 connectionId.toNat ++
        (store 4 keyEpoch.toNat ++ (store 8 ctr ++ (store 4 payloadSize ++ rest)))) := by
    simp [encodeHeader, headerStart]
  have connection {back : Bytes} :=
    @loadAt_store (headerStart packetType dir) back 8 8 _ rfl connectionId.isLt
  have epoch {back : Bytes} := @loadAt_store (headerStart packetType dir ++
    store 8 connectionId.toNat) back 16 4 _ rfl keyEpoch.isLt
  have count {back : Bytes} := @loadAt_store (headerStart packetType dir ++
    store 8 connectionId.toNat ++ store 4 keyEpoch.toNat) back 20 8 ctr rfl fits
  have directionOctet {back : Bytes} : octetAt (headerStart packetType dir ++ back)
      kDirectionOffset = dir.octet := rfl
  have typeOctet {back : Bytes} : octetAt (headerStart packetType dir ++ back)
      kPacketTypeOffset = packetType.octet := rfl
  simp only [List.append_assoc] at connection epoch count
  rw [packet, headerFields, directionOctet, typeOctet]
  simp [kConnectionIdOffset, kKeyEpochOffset, kCounterOffset, connection, epoch, count]

theorem fields_of_parse {datagram : Bytes} {packet : ParsedAuthenticatedPacket}
    (parsed : parseAuthenticatedPacketV2 datagram = .ok packet) :
    headerFields datagram = (packet.tuple, (), packet.counter) ∧
      packet.counter ≤ kMaximumAuthenticatedPacketCounter ∧
      datagram = packet.authenticatedHeader ++ (packet.ciphertext ++ packet.tag) := by
  simp only [parseAuthenticatedPacketV2, Lib.Checks.ite_error_eq_ok, Except.ok.injEq] at parsed
  obtain ⟨-, -, -, -, -, -, counterFits, -, lengthFits, rfl⟩ := parsed
  exact ⟨rfl, Nat.not_lt.mp counterFits, split_record (not_not.mp lengthFits)⟩

theorem tuple_of_validate {packet : ParsedAuthenticatedPacket} {want : AuthenticatedPacketTuple}
    (valid : validateAuthenticatedPacketV2 packet want = .valid) : packet.tuple = want := by
  unfold validateAuthenticatedPacketV2 at valid
  obtain ⟨⟨connectionId, keyEpoch, dir, packetType⟩, ctr, _, _, _⟩ := packet
  split at valid
  · cases valid
  split at valid
  · cases valid
  split at valid
  · cases valid
  split at valid
  · cases valid
  split at valid
  · cases valid
  · simp_all

def PacketSealResult.record (result : PacketSealResult) : Option (Nat × Bytes) :=
  if result.status = .sealed then some (result.counter, result.datagram) else none

def PacketOpenResult.record (result : PacketOpenResult) : Option (Unit × Nat × Bytes) :=
  if result.status = .opened then some ((), result.authenticatedCounter, result.plaintext)
  else none

theorem record_of_sealing (sealing : Sealer.Sealing AuthenticatedPacketTuple) :
    PacketSealResult.record
      { status := SealEnd.packetStatus sealing.ending
        counter := sealing.counter
        datagram := sealing.record } = sealing.sealed := by
  unfold PacketSealResult.record Sealer.Sealing.sealed
  cases sealing.ending <;> rfl

theorem record_of_validation {validation : PacketValidationStatus} (invalid : validation ≠ .valid) :
    PacketOpenResult.record
      { parseStatus := .parsed
        validationStatus := validation
        status := mapValidationStatus validation } = none := by
  cases validation with
  | valid => exact absurd rfl invalid
  | invalidExpectedTuple => rfl
  | wrongConnectionId => rfl
  | wrongKeyEpoch => rfl
  | wrongDirection => rfl
  | wrongPacketType => rfl

theorem seal_sealsRecord (sealer : AuthenticatedPacketSealer) (attempt : SealAttempt) :
    SealsRecord kMaximumAuthenticatedPacketCounter
      (fun ctr => encodeHeader sealer.tuple ctr attempt.plaintext.length) sealer attempt
      (AuthenticatedPacketSealer.seal sealer attempt).1
      (AuthenticatedPacketSealer.seal sealer attempt).2.2
      (AuthenticatedPacketSealer.seal sealer attempt).2.1.record := by
  unfold AuthenticatedPacketSealer.seal
  split
  · exact .silent
  · rename_i key cipher
    split
    · exact .silent
    split
    · exact .silent
    split
    · exact .silent
    · rename_i available
      rw [Bool.not_eq_true, Bool.not_eq_false'] at available
      rw [record_of_sealing]
      exact encryptNext_seals attempt cipher available

theorem open_opensRecord (opener : AuthenticatedPacketOpener)
    (decrypt : DecryptCall → Option Bytes) (allocates : Bool) (dgram : Bytes) :
    OpensRecord kMaximumAuthenticatedPacketCounter headerFields opener decrypt dgram
      (AuthenticatedPacketOpener.open opener decrypt allocates dgram).1
      (AuthenticatedPacketOpener.open opener decrypt allocates dgram).2.record := by
  unfold AuthenticatedPacketOpener.open
  split
  · exact .rejected
  rename_i key cipher
  split
  · exact .rejected
  split
  · exact .rejected
  rename_i packet parsed
  obtain ⟨fields, bounded, framed⟩ := fields_of_parse parsed
  dsimp only
  split
  · rename_i mismatch
    rw [record_of_validation mismatch]
    exact .rejected
  rename_i valid
  rw [tuple_of_validate (not_not.mp valid)] at fields
  split
  · exact .rejected
  · exact .rejected
  · rename_i fresh
    split
    · exact .rejected
    split
    · exact .rejected
    · rename_i plaintext decrypted
      rw [SlidingReplayWindow1024.commit_of_fresh fresh]
      exact .opened cipher fields bounded framed fresh decrypted

end PacketV2

end VisionForge.DataPlane
