import VisionForge.ContractCore.ControlCommandCoordinator
import VisionForge.Lib.BigEndian
import VisionForge.Lib.Checks
import VisionForge.Lib.Chunks

/-! # Headers and datagrams of the contract core

A header is twenty octets, with all numbers in network byte order. The fragmenter cuts an access
unit into datagrams of one header and a part of the unit; a repeat is a header alone.
-/

namespace VisionForge.ContractCore

open Lib.Ascii Lib.BigEndian Lib.Chunks

def kWireHeaderSize : Nat := 20

def kDataMagic : Bytes := [86, 70, 50, 71]

def kRepeatMagic : Bytes := [86, 70, 50, 82]

def PacketKind.magic : PacketKind → Bytes
  | .data => kDataMagic
  | .repeated => kRepeatMagic

def serializeWireHeader (header : WireHeader) : Except StdException Bytes :=
  if !header.valid then .error (.invalidArgument "invalid wire header")
  else .ok (header.kind.magic ++ (store 8 header.streamEpoch ++ (store 4 header.frameSequence ++
    (store 2 header.fragmentIndex ++ store 2 header.fragmentCount))))

def kindOfMagic (bytes : Bytes) : Option PacketKind :=
  if bytes.take 4 = kDataMagic then some .data
  else if bytes.take 4 = kRepeatMagic then some .repeated
  else none

def parseWireHeader (bytes : Bytes) : Option WireHeader :=
  if bytes.length < kWireHeaderSize then none
  else
    match kindOfMagic bytes with
    | none => none
    | some kind =>
      let header : WireHeader :=
        { kind := kind
          streamEpoch := loadAt bytes 4 8
          frameSequence := loadAt bytes 12 4
          fragmentIndex := loadAt bytes 16 2
          fragmentCount := loadAt bytes 18 2 }
      if header.valid then some header else none

inductive ContractViolation where
  | zeroEpoch
  | epochOutOfRange
  | zeroFragmentCount
  | tooManyFragments
  | fragmentIndexOutOfRange
  | repeatShapeInvalid
  deriving DecidableEq

def validate (header : WireHeader) : Option ContractViolation :=
  if header.streamEpoch < 1 then some .zeroEpoch
  else if kMaxStreamEpoch < header.streamEpoch then some .epochOutOfRange
  else if header.fragmentCount = 0 then some .zeroFragmentCount
  else if kMaxFragments < header.fragmentCount then some .tooManyFragments
  else if header.fragmentCount ≤ header.fragmentIndex then some .fragmentIndexOutOfRange
  else if header.kind = .repeated ∧ (header.fragmentIndex ≠ 0 ∨ header.fragmentCount ≠ 1) then
    some .repeatShapeInvalid
  else none

theorem validate_eq_none {hdr : WireHeader} : validate hdr = none ↔ hdr.valid = true := by
  unfold validate WireHeader.valid
  split_ifs <;> simp_all
  omega

def kMaximumUdpDatagramBytes : Nat := 65507

structure FragmentationConfig where
  maxDatagramBytes : Nat := 1200
  maxFragments : Nat := kMaxFragments
  maxAccessUnitBytes : Nat := 2 * 1024 * 1024
  deriving DecidableEq

namespace FragmentationConfig

def payloadCapacity (config : FragmentationConfig) : Nat := config.maxDatagramBytes - kWireHeaderSize

/-- What the constructor of the fragmenter asks for. -/
def consistent (config : FragmentationConfig) : Bool :=
  !(decide (config.maxDatagramBytes ≤ kWireHeaderSize) ||
    decide (kMaximumUdpDatagramBytes < config.maxDatagramBytes) ||
    config.maxFragments == 0 || decide (kMaxFragments < config.maxFragments) ||
    config.maxAccessUnitBytes == 0 ||
    decide (config.payloadCapacity * config.maxFragments < config.maxAccessUnitBytes))

end FragmentationConfig

structure DatagramFragmenter where
  config : FragmentationConfig
  consistent : config.consistent = true
  deriving DecidableEq

namespace DatagramFragmenter

def new (config : FragmentationConfig) : Except StdException DatagramFragmenter :=
  if consistent : config.consistent = true then .ok ⟨config, consistent⟩
  else .error (.invalidArgument "invalid or cross-end-inconsistent fragmentation limits")

/-- One turn of the loop. The methods read nothing but the limits. -/
def datagramAt (config : FragmentationConfig) (identity : FrameIdentity) (accessUnit : Bytes)
    (fragmentCount index : Nat) : Except StdException Bytes :=
  let offset := index * config.payloadCapacity
  let payloadBytes := min config.payloadCapacity (accessUnit.length - offset)
  let header : WireHeader :=
    { kind := .data
      streamEpoch := identity.streamEpoch.toNat
      frameSequence := identity.frameSequence.toNat
      fragmentIndex := index
      fragmentCount := fragmentCount }
  if validate header ≠ none then
    .error (.logicError "fragmenter produced an invalid wire header")
  else do
    let encoded ← serializeWireHeader header
    return encoded ++ (accessUnit.drop offset).take payloadBytes

def fragment (config : FragmentationConfig) (identity : FrameIdentity) (accessUnit : Bytes) :
    Except StdException (List Bytes) :=
  if !identity.valid || accessUnit.isEmpty then
    .error (.invalidArgument "frame identity and access unit must be valid")
  else if config.maxAccessUnitBytes < accessUnit.length then
    .error (.lengthError "access unit exceeds the shared receiver limit")
  else
    let fragmentCount := (accessUnit.length - 1) / config.payloadCapacity + 1
    if fragmentCount = 0 ∨ config.maxFragments < fragmentCount ∨ 65535 < fragmentCount then
      .error (.lengthError "access unit exceeds bounded fragmentation capacity")
    else
      (List.range fragmentCount).mapM (datagramAt config identity accessUnit fragmentCount)

/-- `repeat`, which is a keyword here. -/
def repeated (identity : FrameIdentity) : Except StdException Bytes :=
  if !identity.valid then .error (.invalidArgument "repeat identity must be valid")
  else
    serializeWireHeader
      { kind := .repeated
        streamEpoch := identity.streamEpoch.toNat
        frameSequence := identity.frameSequence.toNat
        fragmentIndex := 0
        fragmentCount := 1 }

def dataHeader (identity : FrameIdentity) (fragmentCount index : Nat) : WireHeader where
  kind := .data
  streamEpoch := identity.streamEpoch.toNat
  frameSequence := identity.frameSequence.toNat
  fragmentIndex := index
  fragmentCount := fragmentCount

def headerOctets (header : WireHeader) : Bytes :=
  header.kind.magic ++ (store 8 header.streamEpoch ++ (store 4 header.frameSequence ++
    (store 2 header.fragmentIndex ++ store 2 header.fragmentCount)))

theorem serializeWireHeader_ok {hdr : WireHeader} (valid : hdr.valid = true) :
    serializeWireHeader hdr = .ok (headerOctets hdr) := by
  simp [serializeWireHeader, valid, headerOctets]

variable {config : FragmentationConfig} {identity : FrameIdentity} {accessUnit : Bytes}

theorem epoch_of_valid (valid : identity.valid = true) :
    0 < identity.streamEpoch.toNat ∧ identity.streamEpoch.toNat ≤ kMaxStreamEpoch := by
  have inRange : 0 < identity.streamEpoch ∧ identity.streamEpoch.toNat ≤ kMaxStreamEpoch := by
    simpa [FrameIdentity.valid] using valid
  exact ⟨by simpa [UInt64.lt_iff_toNat_lt] using inRange.1, inRange.2⟩

theorem dataHeader_valid {fragmentCount index : Nat} (valid : identity.valid = true)
    (few : fragmentCount ≤ kMaxFragments) (hin : index < fragmentCount) :
    (dataHeader identity fragmentCount index).valid = true := by
  obtain ⟨positive, bounded⟩ := epoch_of_valid valid
  rw [← validate_eq_none]
  simp only [validate, dataHeader, reduceCtorEq, false_and, if_false]
  rw [if_neg (by omega), if_neg (by omega), if_neg (by omega), if_neg (by omega), if_neg (by omega)]

def datagramCount (config : FragmentationConfig) (accessUnit : Bytes) : Nat :=
  (accessUnit.length - 1) / config.payloadCapacity + 1

theorem datagramAt_ok {fragmentCount index : Nat} (valid : identity.valid = true)
    (few : fragmentCount ≤ kMaxFragments) (hin : index < fragmentCount) :
    datagramAt config identity accessUnit fragmentCount index =
      .ok (headerOctets (dataHeader identity fragmentCount index) ++
        chunk config.payloadCapacity accessUnit index) := by
  have hdr := dataHeader_valid valid few hin
  have part : (accessUnit.drop (index * config.payloadCapacity)).take
      (min config.payloadCapacity (accessUnit.length - index * config.payloadCapacity)) =
      chunk config.payloadCapacity accessUnit index := by
    unfold chunk
    rw [← List.length_drop, ← List.take_eq_take_min]
  unfold datagramAt
  simp only [part]
  change (if validate (dataHeader identity fragmentCount index) ≠ none then _ else do
    let encoded ← serializeWireHeader (dataHeader identity fragmentCount index)
    return encoded ++ _) = _
  rw [if_neg (by simp [validate_eq_none.mpr hdr]), serializeWireHeader_ok hdr]
  rfl

theorem fragment_eq (valid : identity.valid = true) (nonempty : accessUnit ≠ [])
    (fits : accessUnit.length ≤ config.maxAccessUnitBytes)
    (few : datagramCount config accessUnit ≤ config.maxFragments)
    (limit : config.maxFragments ≤ kMaxFragments) :
    fragment config identity accessUnit = .ok ((List.range (datagramCount config accessUnit)).map
      fun index => headerOctets (dataHeader identity (datagramCount config accessUnit) index) ++
        chunk config.payloadCapacity accessUnit index) := by
  have small : kMaxFragments ≤ 65535 := by decide
  have some : datagramCount config accessUnit ≠ 0 := Nat.succ_ne_zero _
  have counted : ¬ (datagramCount config accessUnit = 0 ∨
      config.maxFragments < datagramCount config accessUnit ∨
      65535 < datagramCount config accessUnit) := by omega
  have cut : fragment config identity accessUnit =
      (List.range (datagramCount config accessUnit)).mapM
        (datagramAt config identity accessUnit (datagramCount config accessUnit)) := by
    unfold fragment
    rw [if_neg (by simp [valid, nonempty]), if_neg (by omega)]
    exact if_neg counted
  rw [cut]
  exact Lib.Checks.mapM_ok fun index member =>
    datagramAt_ok valid (by omega) (List.mem_range.mp member)

theorem few_of_fits (fragmenter : DatagramFragmenter)
    (fits : accessUnit.length ≤ fragmenter.config.maxAccessUnitBytes) :
    datagramCount fragmenter.config accessUnit ≤ fragmenter.config.maxFragments ∧
      fragmenter.config.maxFragments ≤ kMaxFragments := by
  have cons := fragmenter.consistent
  simp only [FragmentationConfig.consistent, Bool.not_eq_true', Bool.or_eq_false_iff,
    decide_eq_false_iff_not, beq_eq_false_iff_ne, Nat.not_lt, Nat.not_le] at cons
  obtain ⟨⟨⟨⟨⟨hdr, -⟩, some⟩, limit⟩, -⟩, room⟩ := cons
  have capacity : 0 < fragmenter.config.payloadCapacity := by
    unfold FragmentationConfig.payloadCapacity
    omega
  refine ⟨?_, limit⟩
  unfold datagramCount
  rw [Nat.add_one_le_iff, Nat.div_lt_iff_lt_mul capacity, Nat.mul_comm]
  have pos : 0 < fragmenter.config.payloadCapacity * fragmenter.config.maxFragments :=
    Nat.mul_pos capacity (Nat.pos_of_ne_zero some)
  omega

end DatagramFragmenter

end VisionForge.ContractCore
