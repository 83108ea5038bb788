import VisionForge.DataPlane.Records

/-! # Authenticated control records, version 1

All types of messages of one direction share a key, a send counter and a replay
window; the type is part of the authenticated header.
-/

namespace VisionForge.DataPlane

open Lib.Ascii Lib.BigEndian

namespace ControlRecordV1

def kAuthenticatedControlRecordVersion : UInt8 := 1
def kAuthenticatedControlHeaderBytes : Nat := 40
def kMaximumAuthenticatedControlPayloadBytes : Nat := 65536
def kMaximumAuthenticatedControlRecordsPerKey : Nat := 2 ^ 23
def kMaximumAuthenticatedControlCounter : Nat := kMaximumAuthenticatedControlRecordsPerKey - 1
def kMinimumRecordBytes : Nat := kAuthenticatedControlHeaderBytes + kGcmTagBytes

def kControlMagic : Bytes := ascii "VFC1"
def kVersionOffset : Nat := 4
def kHeaderSizeOffset : Nat := 5
def kDirectionOffset : Nat := 6
def kMessageTypeOffset : Nat := 7
def kConnectionIdOffset : Nat := 8
def kSessionGenerationOffset : Nat := 16
def kKeyEpochOffset : Nat := 24
def kCounterOffset : Nat := 28
def kCiphertextLengthOffset : Nat := 36

inductive ControlRecordDirectionV1 where
  | invalid
  | hostToAndroid
  | androidToHost
  deriving DecidableEq

inductive ControlMessageTypeV1 where
  | invalid
  | leaseOffer
  | leaseAccept
  | leaseCommit
  | sessionClose
  | sessionCloseAck
  | entitlementStatusSignRequest
  | entitlementStatusSignResponse
  | usageAuthorizationSignRequest
  | usageAuthorizationSignResponse
  | hostStartIntentClaimRequest
  | hostStartIntentClaimResponse
  deriving DecidableEq

def ControlRecordDirectionV1.octet : ControlRecordDirectionV1 → UInt8
  | .invalid => 0
  | .hostToAndroid => 1
  | .androidToHost => 2

def ControlRecordDirectionV1.ofOctet (octet : UInt8) : ControlRecordDirectionV1 :=
  if octet = 1 then .hostToAndroid
  else if octet = 2 then .androidToHost
  else .invalid

def ControlMessageTypeV1.octet : ControlMessageTypeV1 → UInt8
  | .invalid => 0
  | .leaseOffer => 1
  | .leaseAccept => 2
  | .leaseCommit => 3
  | .sessionClose => 4
  | .sessionCloseAck => 5
  | .entitlementStatusSignRequest => 6
  | .entitlementStatusSignResponse => 7
  | .usageAuthorizationSignRequest => 8
  | .usageAuthorizationSignResponse => 9
  | .hostStartIntentClaimRequest => 10
  | .hostStartIntentClaimResponse => 11

def ControlMessageTypeV1.ofOctet (octet : UInt8) : ControlMessageTypeV1 :=
  if octet = 1 then .leaseOffer
  else if octet = 2 then .leaseAccept
  else if octet = 3 then .leaseCommit
  else if octet = 4 then .sessionClose
  else if octet = 5 then .sessionCloseAck
  else if octet = 6 then .entitlementStatusSignRequest
  else if octet = 7 then .entitlementStatusSignResponse
  else if octet = 8 then .usageAuthorizationSignRequest
  else if octet = 9 then .usageAuthorizationSignResponse
  else if octet = 10 then .hostStartIntentClaimRequest
  else if octet = 11 then .hostStartIntentClaimResponse
  else .invalid

def directionValid (direction : ControlRecordDirectionV1) : Bool := direction != .invalid

def messageTypeValid (messageType : ControlMessageTypeV1) : Bool := messageType != .invalid

structure AuthenticatedControlTupleV1 where
  connectionId : BitVec 64 := 0
  sessionGeneration : BitVec 64 := 0
  keyEpoch : BitVec 32 := 0
  direction : ControlRecordDirectionV1 := .invalid
  deriving DecidableEq

def tupleValid (tuple : AuthenticatedControlTupleV1) : Bool :=
  tuple.connectionId != 0 && tuple.sessionGeneration != 0 && tuple.keyEpoch != 0 &&
    directionValid tuple.direction

def encodeHeader (tuple : AuthenticatedControlTupleV1) (messageType : ControlMessageTypeV1)
    (counter ciphertextSize : Nat) : Bytes :=
  kControlMagic ++
    (kAuthenticatedControlRecordVersion :: UInt8.ofNat kAuthenticatedControlHeaderBytes ::
      tuple.direction.octet :: messageType.octet ::
      (store 8 tuple.connectionId.toNat ++ (store 8 tuple.sessionGeneration.toNat ++
        (store 4 tuple.keyEpoch.toNat ++ (store 8 counter ++ store 4 ciphertextSize)))))

inductive ControlRecordParseStatusV1 where
  | parsed
  | recordTooShort
  | invalidMagic
  | unsupportedVersion
  | invalidHeaderSize
  | invalidDirection
  | invalidMessageType
  | invalidTuple
  | counterExceedsKeyLifetime
  | payloadTooLarge
  | lengthMismatch
  deriving DecidableEq

structure ParsedAuthenticatedControlRecordV1 where
  tuple : AuthenticatedControlTupleV1
  messageType : ControlMessageTypeV1
  counter : Nat
  authenticatedHeader : Bytes
  ciphertext : Bytes
  tag : Bytes
  deriving DecidableEq

def octetAt (envelope : Bytes) (offset : Nat) : UInt8 := envelope.getD offset 0

def parseAuthenticatedControlRecordV1 (envelope : Bytes) :
    Except ControlRecordParseStatusV1 ParsedAuthenticatedControlRecordV1 :=
  let direction := ControlRecordDirectionV1.ofOctet (octetAt envelope kDirectionOffset)
  let messageType := ControlMessageTypeV1.ofOctet (octetAt envelope kMessageTypeOffset)
  let tuple : AuthenticatedControlTupleV1 :=
    { connectionId := BitVec.ofNat 64 (loadAt envelope kConnectionIdOffset 8)
      sessionGeneration := BitVec.ofNat 64 (loadAt envelope kSessionGenerationOffset 8)
      keyEpoch := BitVec.ofNat 32 (loadAt envelope kKeyEpochOffset 4)
      direction := direction }
  let counter := loadAt envelope kCounterOffset 8
  let ciphertextSize := loadAt envelope kCiphertextLengthOffset 4
  if envelope.length < kMinimumRecordBytes then .error .recordTooShort
  else if envelope.take 4 ≠ kControlMagic then .error .invalidMagic
  else if octetAt envelope kVersionOffset ≠ kAuthenticatedControlRecordVersion then
    .error .unsupportedVersion
  else if (octetAt envelope kHeaderSizeOffset).toNat ≠ kAuthenticatedControlHeaderBytes then
    .error .invalidHeaderSize
  else if !directionValid direction then .error .invalidDirection
  else if !messageTypeValid messageType then .error .invalidMessageType
  else if !tupleValid tuple then .error .invalidTuple
  else if kMaximumAuthenticatedControlCounter < counter then .error .counterExceedsKeyLifetime
  else if kMaximumAuthenticatedControlPayloadBytes < ciphertextSize then .error .payloadTooLarge
  else if envelope.length ≠ kAuthenticatedControlHeaderBytes + ciphertextSize + kGcmTagBytes then
    .error .lengthMismatch
  else
    .ok
      { tuple := tuple
        messageType := messageType
        counter := counter
        authenticatedHeader := envelope.take kAuthenticatedControlHeaderBytes
        ciphertext := (envelope.drop kAuthenticatedControlHeaderBytes).take ciphertextSize
        tag := envelope.drop (envelope.length - kGcmTagBytes) }

inductive ControlRecordSealStatusV1 where
  | sealed
  | invalidConfiguration
  | invalidMessageType
  | plaintextTooLarge
  | counterExhausted
  | allocationFailed
  | encryptionFailed
  deriving DecidableEq

structure ControlRecordSealResultV1 where
  status : ControlRecordSealStatusV1 := .invalidConfiguration
  counter : Nat := 0
  envelope : Bytes := []
  deriving DecidableEq

def SealEnd.recordStatus : SealEnd → ControlRecordSealStatusV1
  | .allocationFailed => .allocationFailed
  | .encryptionFailed => .encryptionFailed
  | .sealed => .sealed

abbrev AuthenticatedControlRecordSealerV1 := Sealer AuthenticatedControlTupleV1

namespace AuthenticatedControlRecordSealerV1

def new (trafficKey : TrafficKey AuthenticatedControlTupleV1) (imports : Bool) :
    AuthenticatedControlRecordSealerV1 :=
  Sealer.new trafficKey (tupleValid trafficKey.tuple) imports

def «seal» (sealer : AuthenticatedControlRecordSealerV1) (messageType : ControlMessageTypeV1)
    (attempt : SealAttempt) :
    AuthenticatedControlRecordSealerV1 × ControlRecordSealResultV1 × Option EncryptCall :=
  match sealer.cipher with
  | none => (sealer, {}, none)
  | some key =>
    if !tupleValid sealer.tuple then (sealer, {}, none)
    else if !messageTypeValid messageType then
      (sealer, { status := .invalidMessageType }, none)
    else if kMaximumAuthenticatedControlPayloadBytes < attempt.plaintext.length then
      (sealer, { status := .plaintextTooLarge }, none)
    else if !sealer.counterAvailable then (sealer, { status := .counterExhausted }, none)
    else
      let sealing := Sealer.encryptNext sealer key
        (fun counter => encodeHeader sealer.tuple messageType counter attempt.plaintext.length)
        kMaximumAuthenticatedControlCounter attempt
      (sealing.sealer,
        { status := SealEnd.recordStatus sealing.ending
          counter := sealing.counter
          envelope := sealing.record }, sealing.call)

end AuthenticatedControlRecordSealerV1

inductive ControlRecordOpenStatusV1 where
  | opened
  | unauthenticatedRecord
  | invalidConfiguration
  | allocationFailed
  deriving DecidableEq

structure ControlRecordOpenResultV1 where
  status : ControlRecordOpenStatusV1 := .invalidConfiguration
  messageType : ControlMessageTypeV1 := .invalid
  authenticatedCounter : Nat := 0
  plaintext : Bytes := []
  deriving DecidableEq

abbrev AuthenticatedControlRecordOpenerV1 := Opener AuthenticatedControlTupleV1

namespace AuthenticatedControlRecordOpenerV1

def new (trafficKey : TrafficKey AuthenticatedControlTupleV1) (imports : Bool) :
    AuthenticatedControlRecordOpenerV1 :=
  Opener.new trafficKey (tupleValid trafficKey.tuple) imports

def «open» (opener : AuthenticatedControlRecordOpenerV1) (decrypt : DecryptCall → Option Bytes)
    (allocates : Bool) (envelope : Bytes) :
    AuthenticatedControlRecordOpenerV1 × ControlRecordOpenResultV1 :=
  match opener.cipher with
  | none => (opener, {})
  | some key =>
    if !tupleValid opener.tuple then (opener, {})
    else
      match parseAuthenticatedControlRecordV1 envelope with
      | .error _ => (opener, { status := .unauthenticatedRecord })
      | .ok record =>
        let counter := BitVec.ofNat 64 record.counter
        if record.tuple ≠ opener.tuple then (opener, { status := .unauthenticatedRecord })
        else if opener.replayWindow.classify counter ≠ .fresh then
          (opener, { status := .unauthenticatedRecord })
        else if !allocates then (opener, { status := .allocationFailed })
        else
          match decrypt
              { key := key
                nonce := composeNonce opener.noncePrefix record.counter
                authenticatedData := record.authenticatedHeader
                ciphertext := record.ciphertext
                tag := record.tag } with
          | none => (opener, { status := .unauthenticatedRecord })
          | some plaintext =>
            let (replayWindow, committed) :=
              opener.replayWindow.commitAuthenticated counter
            let opener := { opener with replayWindow := replayWindow }
            if !committed then (opener, { status := .unauthenticatedRecord })
            else
              (opener,
                { status := .opened
                  messageType := record.messageType
                  authenticatedCounter := record.counter
                  plaintext := plaintext })

end AuthenticatedControlRecordOpenerV1

def headerFields (envelope : Bytes) :
    AuthenticatedControlTupleV1 × ControlMessageTypeV1 × Nat :=
  ({ connectionId := BitVec.ofNat 64 (loadAt envelope kConnectionIdOffset 8)
     sessionGeneration := BitVec.ofNat 64 (loadAt envelope kSessionGenerationOffset 8)
     keyEpoch := BitVec.ofNat 32 (loadAt envelope kKeyEpochOffset 4)
     direction := ControlRecordDirectionV1.ofOctet (octetAt envelope kDirectionOffset) },
    ControlMessageTypeV1.ofOctet (octetAt envelope kMessageTypeOffset),
    loadAt envelope kCounterOffset 8)

@[simp] theorem ControlRecordDirectionV1.ofOctet_octet (dir : ControlRecordDirectionV1) :
    ofOctet dir.octet = dir := by
  cases dir <;> rfl

@[simp] theorem ControlMessageTypeV1.ofOctet_octet (messageType : ControlMessageTypeV1) :
    ofOctet messageType.octet = messageType := by
  cases messageType <;> rfl

def headerStart (direction : ControlRecordDirectionV1) (messageType : ControlMessageTypeV1) :
    Bytes :=
  kControlMagic ++ [kAuthenticatedControlRecordVersion,
    UInt8.ofNat kAuthenticatedControlHeaderBytes, direction.octet, messageType.octet]

theorem headerFields_encodeHeader (tuple : AuthenticatedControlTupleV1)
    (messageType : ControlMessageTypeV1) {ctr : Nat} (ciphertextSize : Nat) (rest : Bytes)
    (fits : ctr < 2 ^ 64) :
    headerFields (encodeHeader tuple messageType ctr ciphertextSize ++ rest) =
      (tuple, messageType, ctr) := by
  obtain ⟨connectionId, sessionGeneration, keyEpoch, dir⟩ := tuple
  have record : encodeHeader ⟨connectionId, sessionGeneration, keyEpoch, dir⟩ messageType
      ctr ciphertextSize ++ rest = headerStart dir messageType ++
        (store 8 connectionId.toNat ++ (store 8 sessionGeneration.toNat ++
          (store 4 keyEpoch.toNat ++ (store 8 ctr ++ (store 4 ciphertextSize ++ rest))))) := by
    simp [encodeHeader, headerStart]
  have connection {back : Bytes} :=
    @loadAt_store (headerStart dir messageType) back 8 8 _ rfl connectionId.isLt
  have gen {back : Bytes} := @loadAt_store (headerStart dir messageType ++
    store 8 connectionId.toNat) back 16 8 _ rfl sessionGeneration.isLt
  have epoch {back : Bytes} := @loadAt_store (headerStart dir messageType ++
    store 8 connectionId.toNat ++ store 8 sessionGeneration.toNat) back 24 4 _ rfl keyEpoch.isLt
  have count {back : Bytes} := @loadAt_store (headerStart dir messageType ++
    store 8 connectionId.toNat ++ store 8 sessionGeneration.toNat ++ store 4 keyEpoch.toNat)
    back 28 8 ctr rfl fits
  have directionOctet {back : Bytes} : octetAt (headerStart dir messageType ++ back)
      kDirectionOffset = dir.octet := rfl
  have typeOctet {back : Bytes} : octetAt (headerStart dir messageType ++ back)
      kMessageTypeOffset = messageType.octet := rfl
  simp only [List.append_assoc] at connection gen epoch count
  rw [record, headerFields, directionOctet, typeOctet]
  simp [kConnectionIdOffset, kSessionGenerationOffset, kKeyEpochOffset, kCounterOffset, connection,
    gen, epoch, count]

theorem fields_of_parse {envelope : Bytes} {record : ParsedAuthenticatedControlRecordV1}
    (parsed : parseAuthenticatedControlRecordV1 envelope = .ok record) :
    headerFields envelope = (record.tuple, record.messageType, record.counter) ∧
      record.counter ≤ kMaximumAuthenticatedControlCounter ∧
      envelope = record.authenticatedHeader ++ (record.ciphertext ++ record.tag) := by
  simp only [parseAuthenticatedControlRecordV1, Lib.Checks.ite_error_eq_ok, Except.ok.injEq] at parsed
  obtain ⟨-, -, -, -, -, -, -, counterFits, -, lengthFits, rfl⟩ := parsed
  exact ⟨rfl, Nat.not_lt.mp counterFits, split_record (not_not.mp lengthFits)⟩

def ControlRecordSealResultV1.record (result : ControlRecordSealResultV1) : Option (Nat × Bytes) :=
  if result.status = .sealed then some (result.counter, result.envelope) else none

def ControlRecordOpenResultV1.record (result : ControlRecordOpenResultV1) :
    Option (ControlMessageTypeV1 × Nat × Bytes) :=
  if result.status = .opened then
    some (result.messageType, result.authenticatedCounter, result.plaintext)
  else none

theorem record_of_sealing (sealing : Sealer.Sealing AuthenticatedControlTupleV1) :
    ControlRecordSealResultV1.record
      { status := SealEnd.recordStatus sealing.ending
        counter := sealing.counter
        envelope := sealing.record } = sealing.sealed := by
  unfold ControlRecordSealResultV1.record Sealer.Sealing.sealed
  cases sealing.ending <;> rfl

theorem seal_sealsRecord (sealer : AuthenticatedControlRecordSealerV1)
    (messageType : ControlMessageTypeV1) (attempt : SealAttempt) :
    SealsRecord kMaximumAuthenticatedControlCounter
      (fun ctr => encodeHeader sealer.tuple messageType ctr attempt.plaintext.length)
      sealer attempt
      (AuthenticatedControlRecordSealerV1.seal sealer messageType attempt).1
      (AuthenticatedControlRecordSealerV1.seal sealer messageType attempt).2.2
      (AuthenticatedControlRecordSealerV1.seal sealer messageType attempt).2.1.record := by
  unfold AuthenticatedControlRecordSealerV1.seal
  split
  · exact .silent
  · rename_i key cipher
    split
    · exact .silent
    split
    · exact .silent
    split
    · exact .silent
    split
    · exact .silent
    · rename_i available
      rw [Bool.not_eq_true, Bool.not_eq_false'] at available
      rw [record_of_sealing]
      exact encryptNext_seals attempt cipher available

theorem open_opensRecord (opener : AuthenticatedControlRecordOpenerV1)
    (decrypt : DecryptCall → Option Bytes) (allocates : Bool) (envelope : Bytes) :
    OpensRecord kMaximumAuthenticatedControlCounter headerFields opener decrypt envelope
      (AuthenticatedControlRecordOpenerV1.open opener decrypt allocates envelope).1
      (AuthenticatedControlRecordOpenerV1.open opener decrypt allocates envelope).2.record := by
  unfold AuthenticatedControlRecordOpenerV1.open
  split
  · exact .rejected
  rename_i key cipher
  split
  · exact .rejected
  split
  · exact .rejected
  rename_i record parsed
  obtain ⟨fields, bounded, framed⟩ := fields_of_parse parsed
  dsimp only
  split
  · exact .rejected
  rename_i sameTuple
  rw [not_not.mp sameTuple] at fields
  split
  · exact .rejected
  rename_i fresh
  split
  · exact .rejected
  split
  · exact .rejected
  · rename_i plaintext decrypted
    rw [SlidingReplayWindow1024.commit_of_fresh (not_not.mp fresh)]
    exact .opened cipher fields bounded framed (not_not.mp fresh) decrypted

end ControlRecordV1

end VisionForge.DataPlane
