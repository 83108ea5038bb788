import VisionForge.ContractCore.ReassemblyAccounts
import VisionForge.ContractCore.WireProtocol
import VisionForge.MobileRuntime.VideoFragmentHeader
import VisionForge.Video.Protocol

/-! # One wire format, read three times

The runtime, the contract core and the phone read the same fields at the same places. They
differ about repeats: those of the runtime carry an access unit, and those of the core nothing.
-/

namespace VisionForge.ContractCore

open Lib.Ascii Lib.BigEndian Lib.Chunks Lib.Long Video MobileRuntime

def FrameIdentity.video (identity : FrameIdentity) : VideoFrameIdentity where
  streamEpoch := identity.streamEpoch.toNat
  frameSequence := identity.frameSequence.toNat

def headerOf (frag : VideoFragment) : WireHeader where
  kind := if frag.repeatedContent then .repeated else .data
  streamEpoch := frag.identity.streamEpoch
  frameSequence := frag.identity.frameSequence
  fragmentIndex := frag.fragmentIndex
  fragmentCount := frag.fragmentCount

def PhoneReads (datagram : Bytes) (frag : VideoFragment) : Prop :=
  ∃ hdr, VideoFragmentHeader.decode datagram = .ok hdr ∧
    hdr.kind = (if frag.repeatedContent then .repeated else .data) ∧
    hdr.streamEpoch = frag.identity.streamEpoch ∧
    hdr.frameSequence = frag.identity.frameSequence ∧
    hdr.fragmentIndex = frag.fragmentIndex ∧ hdr.fragmentCount = frag.fragmentCount

def codeOf (reasm : AccessUnitReassembler) (hdr : WireHeader) (datagram : Bytes)
    (now : Int) : IngestCode :=
  (reasm.ingest hdr (datagram.drop kWireHeaderSize) now).2.code

/-- The fragment that the runtime should read of a datagram that the core has cut. -/
def cutFragment (config : FragmentationConfig) (identity : FrameIdentity) (accessUnit : Bytes)
    (index : Nat) : VideoFragment where
  identity := identity.video
  repeatedContent := false
  fragmentIndex := index
  fragmentCount := DatagramFragmenter.datagramCount config accessUnit
  accessUnitPart := chunk config.payloadCapacity accessUnit index

/-- The runtime reads what the core cuts. -/
def FragmentsRead (config : FragmentationConfig) : Prop :=
  ∀ identity accessUnit datagrams,
    DatagramFragmenter.fragment config identity accessUnit = .ok datagrams →
    ∀ index datagram, datagrams[index]? = some datagram →
      decodeVideoPacket datagram = some (cutFragment config identity accessUnit index)

def runtimeFragment (identity : FrameIdentity) (repeatedContent : Bool)
    (fragmentIndex fragmentCount : Nat) (accessUnitPart : Bytes) : VideoFragment where
  identity := identity.video
  repeatedContent := repeatedContent
  fragmentIndex := fragmentIndex
  fragmentCount := fragmentCount
  accessUnitPart := accessUnitPart

/-- The core and the runtime speak the same format, repeats included. -/
structure SameWireFormat (config : FragmentationConfig) : Prop where
  fragments : FragmentsRead config
  repeats : ∀ identity datagram, DatagramFragmenter.repeated identity = .ok datagram →
    decodeVideoPacket datagram = some (runtimeFragment identity true 0 1 [])
  encoded : ∀ identity repeatedContent index count part,
    let fragment := runtimeFragment identity repeatedContent index count part
    encodeVideoPacket fragment ≠ [] →
      parseWireHeader (encodeVideoPacket fragment) = some (headerOf fragment) ∧
      (∀ reasm now, reasm.currentEpoch = some fragment.identity.streamEpoch →
        part.length ≤ reasm.config.maxAccessUnitBytes →
        codeOf reasm (headerOf fragment) (encodeVideoPacket fragment) now ≠ .invalid) ∧
      PhoneReads (encodeVideoPacket fragment) fragment

/-- They speak the same format for data, and neither takes the other's repeats. -/
structure SameDataFormat (config : FragmentationConfig) : Prop where
  fragments : FragmentsRead config
  repeats : ∀ identity datagram, DatagramFragmenter.repeated identity = .ok datagram →
    decodeVideoPacket datagram = none
  encoded : ∀ identity index count part,
    let fragment := runtimeFragment identity false index count part
    encodeVideoPacket fragment ≠ [] →
      parseWireHeader (encodeVideoPacket fragment) = some (headerOf fragment) ∧
      ∀ reasm now, part.length ≤ reasm.config.maxAccessUnitBytes →
        codeOf reasm (headerOf fragment) (encodeVideoPacket fragment) now ≠ .invalid
  encodedRepeats : ∀ identity index count part,
    let fragment := runtimeFragment identity true index count part
    encodeVideoPacket fragment ≠ [] →
      parseWireHeader (encodeVideoPacket fragment) =
        (if count = 1 then some (headerOf fragment) else none) ∧
      ∀ reasm now, codeOf reasm (headerOf fragment) (encodeVideoPacket fragment) now
        ∈ [.invalid, .retiredEpoch, .gapDetected]
  phone : ∀ identity repeatedContent index count part,
    let fragment := runtimeFragment identity repeatedContent index count part
    encodeVideoPacket fragment ≠ [] → PhoneReads (encodeVideoPacket fragment) fragment

/-- The fields of a fragment stand in the datagram, and are within their bounds. -/
structure Carries (datagram : Bytes) (fragment : VideoFragment) : Prop where
  long : kVideoPacketHeaderBytes < datagram.length
  magic : loadAt datagram 0 4 =
    if fragment.repeatedContent then kVideoRepeatedPacketMagic else kVideoPacketMagic
  epoch : loadAt datagram 4 8 = fragment.identity.streamEpoch
  sequence : loadAt datagram 12 4 = fragment.identity.frameSequence
  index : loadAt datagram 16 2 = fragment.fragmentIndex
  count : loadAt datagram 18 2 = fragment.fragmentCount
  part : datagram.drop kVideoPacketHeaderBytes = fragment.accessUnitPart
  valid : fragment.identity.valid = true
  index_lt : fragment.fragmentIndex < fragment.fragmentCount
  count_le : fragment.fragmentCount ≤ kMaxVideoFragmentsPerAccessUnit

variable {datagram : Bytes} {frag : VideoFragment}

theorem carries_of_decode (decoded : decodeVideoPacket datagram = some frag) :
    Carries datagram frag := by
  unfold decodeVideoPacket at decoded
  dsimp only at decoded
  split at decoded
  · cases decoded
  next sized =>
  split at decoded
  · cases decoded
  next known =>
  split at decoded
  · cases decoded
  next within =>
  simp only [Bool.or_eq_true, decide_eq_true_eq, not_or, Nat.not_le, Nat.not_lt] at sized
  simp only [Bool.or_eq_true, beq_iff_eq, decide_eq_true_eq, not_or, Bool.not_eq_true', Nat.not_le,
    Nat.not_lt, Bool.not_eq_false] at within
  injection decoded with same
  subst same
  refine ⟨sized.1, ?_, rfl, rfl, rfl, rfl, rfl, within.1.1.1, within.2, within.1.2⟩
  by_cases data : loadAt datagram 0 4 = kVideoPacketMagic
  · rw [data]
    rfl
  · have isRepeat : loadAt datagram 0 4 = kVideoRepeatedPacketMagic := by
      by_contra other
      exact known ⟨data, other⟩
    simp [isRepeat]

theorem load_take (enough : 4 ≤ datagram.length) :
    datagram.take 4 = store 4 (loadAt datagram 0 4) := by
  have length : (datagram.take 4).length = 4 := by simpa using enough
  have stored := store_load (datagram.take 4)
  rw [length] at stored
  simp [loadAt, stored]

theorem magic_eq (repeatedContent : Bool) :
    store 4 (if repeatedContent then kVideoRepeatedPacketMagic else kVideoPacketMagic) =
      PacketKind.magic (if repeatedContent then .repeated else .data) := by
  cases repeatedContent with
  | true => decide
  | false => decide

namespace Carries

/-- The phone reads every datagram that carries a fragment. -/
theorem phone (carries : Carries datagram frag) : PhoneReads datagram frag := by
  obtain ⟨long, magic, epoch, seq, index, count, part, valid, index_lt, count_le⟩ := carries
  obtain ⟨positive, bounded⟩ := le_epochMax valid
  have fits : Fits (frag.identity.streamEpoch : Int) := by
    simp only [kVideoStreamEpochMax] at bounded
    constructor <;> omega
  have kind : VideoPacketKind.fromMagicCode (loadAt datagram 0 4) =
      .ok (if frag.repeatedContent then .repeated else .data) := by
    rw [magic]
    cases frag.repeatedContent with
    | true => rfl
    | false => rfl
  have short : ¬ datagram.length < BYTE_LENGTH := by
    simp only [kVideoPacketHeaderBytes] at long
    simp only [BYTE_LENGTH]
    omega
  have bs : loadAt datagram 12 4 ≤ UINT32_MAX := by
    have bound := load_lt ((datagram.drop 12).take 4)
    have few : ((datagram.drop 12).take 4).length ≤ 4 := by simp
    have wide := Nat.pow_le_pow_right (show 0 < 256 by decide) few
    simp only [loadAt, UINT32_MAX]
    omega
  rw [seq] at bs
  unfold PhoneReads VideoFragmentHeader.decode
  rw [if_neg short]
  simp only [kind, epoch, seq, index, count, wrap_of_fits fits]
  unfold VideoFragmentHeader.new
  have epochFits : 0 < (frag.identity.streamEpoch : Int) ∧
      (frag.identity.streamEpoch : Int) ≤ LONG_MAX := by
    simp only [kVideoStreamEpochMax] at bounded
    simp only [LONG_MAX]
    omega
  have countFits : 0 < frag.fragmentCount ∧ frag.fragmentCount ≤ MAX_FRAGMENT_COUNT :=
    ⟨by omega, count_le⟩
  rw [dif_pos epochFits, dif_pos bs, dif_pos countFits, dif_pos index_lt]
  exact ⟨_, rfl, rfl, by simp, rfl, rfl, rfl⟩

theorem parse (carries : Carries datagram frag) :
    parseWireHeader datagram = if (headerOf frag).valid then some (headerOf frag) else none := by
  obtain ⟨long, magic, epoch, seq, index, count, -⟩ := carries
  have short : ¬ datagram.length < kWireHeaderSize := by
    simp only [kVideoPacketHeaderBytes] at long
    simp only [kWireHeaderSize]
    omega
  have kind : kindOfMagic datagram = some (if frag.repeatedContent then .repeated else .data) := by
    have enough : 4 ≤ datagram.length := by
      simp only [kVideoPacketHeaderBytes] at long
      omega
    unfold kindOfMagic
    rw [load_take enough, magic, magic_eq]
    cases frag.repeatedContent with
    | true => rfl
    | false => rfl
  unfold parseWireHeader
  rw [if_neg short, kind]
  simp only [epoch, seq, index, count]
  rfl

theorem header_valid (carries : Carries datagram frag) :
    (headerOf frag).valid = (!frag.repeatedContent || decide (frag.fragmentCount = 1)) := by
  have ⟨_, _, _, _, _, _, _, valid, index_lt, count_le⟩ := carries
  obtain ⟨positive, bounded⟩ := le_epochMax valid
  have few : frag.fragmentCount ≤ kMaxFragments := count_le
  have inEpoch : frag.identity.streamEpoch ≤ kMaxStreamEpoch := bounded
  have within : ¬ (frag.identity.streamEpoch = 0 ∨
      kMaxStreamEpoch < frag.identity.streamEpoch ∨ frag.fragmentCount = 0 ∨
      kMaxFragments < frag.fragmentCount) := by omega
  unfold WireHeader.valid headerOf
  rw [if_neg within, if_neg (Nat.not_le.mpr index_lt)]
  cases repeatedContent : frag.repeatedContent with
  | false => simp
  | true =>
    by_cases single : frag.fragmentCount = 1
    · have first : frag.fragmentIndex = 0 := by omega
      simp [single, first]
    · simp [single]

end Carries

namespace AccessUnitReassembler

variable (reasm : AccessUnitReassembler) (hdr : WireHeader) (cand : Bool)

theorem resourceFailure_code : (reasm.resourceFailure hdr cand).2.code ≠ .invalid := by
  unfold resourceFailure
  split <;> simp [candidateFailure, answer]

theorem conflictFailure_code : (reasm.conflictFailure hdr cand).2.code ≠ .invalid := by
  unfold conflictFailure
  split <;> simp [candidateFailure, answer]

theorem receiveFragment_code (frame : Frame) (payload : Bytes) :
    (reasm.receiveFragment hdr frame payload cand).2.code ≠ .invalid := by
  unfold receiveFragment
  split
  · split
    · simp [answer]
    · exact conflictFailure_code _ hdr cand
  · unfold storeFragment
    extract_lets room
    split
    · exact resourceFailure_code _ hdr cand
    · unfold finishFrame
      split <;> simp [answer]

theorem placeFragment_code (payload : Bytes) (now : Int) :
    (reasm.placeFragment hdr payload now cand).2.code ≠ .invalid := by
  unfold placeFragment
  split
  · split
    · exact conflictFailure_code _ hdr cand
    · exact receiveFragment_code _ hdr cand _ payload
  · extract_lets room
    split
    · exact resourceFailure_code _ hdr cand
    · exact receiveFragment_code _ hdr cand _ payload

variable {hdr} {payload : Bytes}

theorem ingest_data (valid : hdr.valid = true) (data : hdr.kind = .data)
    (nonempty : payload ≠ []) (fits : payload.length ≤ reasm.config.maxAccessUnitBytes)
    (now : Int) : (reasm.ingest hdr payload now).2.code ≠ .invalid := by
  have limit : (reasm.expire now).config = reasm.config := by
    unfold expire resetIdleCandidate
    split
    · rfl
    · split <;> rfl
  have whole : ¬ (payload.isEmpty || decide ((reasm.expire now).config.maxAccessUnitBytes <
      payload.length)) = true := by
    simp [limit, nonempty, Nat.not_lt.mpr fits]
  unfold ingest
  simp only [valid, data, whole, Bool.not_true, Bool.false_eq_true, reduceCtorEq, if_false]
  split
  · simp [answer]
  split
  · simp [answer]
  split
  · split
    · simp [answer]
    · exact placeFragment_code _ hdr true payload now
  · exact placeFragment_code _ hdr false payload now

theorem ingest_repeated (isRepeat : hdr.kind = .repeated) (nonempty : payload ≠ []) (now : Int) :
    (reasm.ingest hdr payload now).2.code ∈ [.invalid, .retiredEpoch, .gapDetected] := by
  unfold ingest
  simp only [isRepeat, List.isEmpty_eq_false_iff.mpr nonempty, Bool.not_false, Bool.true_or,
    if_true]
  split
  · simp
  split
  · simp [answer]
  split
  · simp [answer]
  · simp [answer]

end AccessUnitReassembler

theorem encodable_of_encoded {identity : FrameIdentity} {repeatedContent : Bool} {index count : Nat}
    {part : Bytes}
    (enc : encodeVideoPacket (runtimeFragment identity repeatedContent index count part) ≠ []) :
    (runtimeFragment identity repeatedContent index count part).Encodable := by
  unfold encodeVideoPacket at enc
  split at enc
  · exact absurd rfl enc
  next within =>
  simp only [Bool.or_eq_true, beq_iff_eq, decide_eq_true_eq, not_or, Bool.not_eq_true', Nat.not_le,
    Nat.not_lt, Bool.not_eq_false, List.isEmpty_iff] at within
  obtain ⟨⟨⟨⟨⟨valid, -⟩, few⟩, hin⟩, nonempty⟩, payload⟩ := within
  exact ⟨valid, UInt32.toNat_lt _, hin, few, nonempty, payload⟩

theorem carries_encoded (encodable : frag.Encodable) : Carries (encodeVideoPacket frag) frag :=
  carries_of_decode (decode_encodeVideoPacket encodable)

theorem headerOctets_append (encodable : frag.Encodable) :
    DatagramFragmenter.headerOctets (headerOf frag) ++ frag.accessUnitPart =
      encodeVideoPacket frag := by
  rw [encodeVideoPacket_of_encodable encodable, magic_eq]
  simp [DatagramFragmenter.headerOctets, headerOf]

namespace DatagramFragmenter

variable {config : FragmentationConfig} {identity : FrameIdentity} {accessUnit : Bytes}
  {datagrams : List Bytes}

theorem of_fragment (cut : DatagramFragmenter.fragment config identity accessUnit = .ok datagrams) :
    identity.valid = true ∧ accessUnit ≠ [] ∧ accessUnit.length ≤ config.maxAccessUnitBytes ∧
      datagramCount config accessUnit ≤ config.maxFragments := by
  unfold DatagramFragmenter.fragment at cut
  split at cut
  · cases cut
  next valid =>
  split at cut
  · cases cut
  next fits =>
  dsimp only at cut
  split at cut
  · cases cut
  next few =>
  simp only [Bool.or_eq_true, Bool.not_eq_true', not_or, Bool.not_eq_false,
    List.isEmpty_iff] at valid
  simp only [not_or, Nat.not_lt] at few
  exact ⟨valid.1, valid.2, Nat.le_of_not_lt fits, few.2.1⟩

theorem datagramCount_eq (nonempty : accessUnit ≠ []) (room : 0 < config.payloadCapacity) :
    datagramCount config accessUnit = chunks config.payloadCapacity accessUnit.length := by
  have pos := List.length_pos_iff.mpr nonempty
  have regroup : accessUnit.length + config.payloadCapacity - 1 =
      accessUnit.length - 1 + config.payloadCapacity := by omega
  unfold datagramCount chunks
  rw [regroup, Nat.add_div_right _ room]

/-- The runtime reads every datagram that is small enough for it. -/
theorem fragmentsRead (room : kWireHeaderSize < config.maxDatagramBytes)
    (small : config.maxDatagramBytes ≤ kMaxDatagramBytes)
    (few : config.maxFragments ≤ kMaxFragments) : FragmentsRead config := by
  intro identity accessUnit datagrams cut index datagram found
  obtain ⟨valid, nonempty, fits, counted⟩ := of_fragment cut
  rw [fragment_eq valid nonempty fits counted few] at cut
  injection cut with cut
  subst cut
  simp only [List.getElem?_map, Option.map_eq_some_iff, List.getElem?_eq_some_iff,
    List.length_range, List.getElem_range] at found
  obtain ⟨_, ⟨inside, rfl⟩, rfl⟩ := found
  have capacity : 0 < config.payloadCapacity := by
    unfold FragmentationConfig.payloadCapacity
    omega
  have encodable : (cutFragment config identity accessUnit index).Encodable := by
    refine ⟨?_, UInt32.toNat_lt _, inside, Nat.le_trans counted few, ?_, ?_⟩
    · obtain ⟨positive, bounded⟩ := epoch_of_valid valid
      simp only [cutFragment, FrameIdentity.video, VideoFrameIdentity.valid, validVideoStreamEpoch,
        Bool.and_eq_true, bne_iff_ne]
      exact ⟨by omega, decide_eq_true bounded⟩
    · exact chunk_ne_nil capacity (datagramCount_eq nonempty capacity ▸ inside)
    · simp only [cutFragment, length_chunk, FragmentationConfig.payloadCapacity]
      simp only [kMaxDatagramBytes, kVideoPacketHeaderBytes] at small
      simp only [kWireHeaderSize]
      omega
  have bs := headerOctets_append encodable
  exact bs ▸ decode_encodeVideoPacket encodable

theorem decode_repeated {datagram : Bytes} (repeats : repeated identity = .ok datagram) :
    decodeVideoPacket datagram = none := by
  unfold repeated serializeWireHeader at repeats
  split at repeats
  · cases repeats
  split at repeats
  · cases repeats
  injection repeats with repeats
  subst repeats
  simp [decodeVideoPacket, PacketKind.magic, kRepeatMagic, kVideoPacketHeaderBytes]

end DatagramFragmenter

/-- Data is the same for all three, and a repeat of one side is none to the other. -/
theorem sameDataFormat {config : FragmentationConfig}
    (room : kWireHeaderSize < config.maxDatagramBytes)
    (small : config.maxDatagramBytes ≤ kMaxDatagramBytes)
    (few : config.maxFragments ≤ kMaxFragments) : SameDataFormat config where
  fragments := DatagramFragmenter.fragmentsRead room small few
  repeats _ _ := DatagramFragmenter.decode_repeated
  encoded identity index count part := by
    intro fragment sent
    have encodable := encodable_of_encoded sent
    have carries := carries_encoded encodable
    have valid : (headerOf fragment).valid = true := carries.header_valid
    refine ⟨by rw [carries.parse, valid]; rfl, fun reasm now fits => ?_⟩
    unfold codeOf
    rw [show (encodeVideoPacket fragment).drop kWireHeaderSize = part from carries.part]
    exact reasm.ingest_data valid rfl encodable.nonempty fits now
  encodedRepeats identity index count part := by
    intro fragment sent
    have encodable := encodable_of_encoded sent
    have carries := carries_encoded encodable
    have valid : (headerOf fragment).valid = decide (count = 1) := carries.header_valid
    refine ⟨by rw [carries.parse, valid]; simp [fragment], fun reasm now => ?_⟩
    unfold codeOf
    rw [show (encodeVideoPacket fragment).drop kWireHeaderSize = part from carries.part]
    exact reasm.ingest_repeated rfl encodable.nonempty now
  phone identity repeatedContent index count part sent :=
    (carries_encoded (encodable_of_encoded sent)).phone

theorem sameDataFormat_default : SameDataFormat {} :=
  sameDataFormat (by decide) (by decide) (by decide)

def firstFrame : FrameIdentity := ⟨1, 0⟩

def firstEpochCommitted : AccessUnitReassembler :=
  { AccessUnitReassembler.new defaultReassemblyConfig with currentEpoch := some 1 }

/-- A repeat of the core is too short for the runtime; one of the runtime has a payload, which the
core calls invalid, and in two parts it has no header. -/
theorem repeats_not_shared :
    (∃ datagram, DatagramFragmenter.repeated firstFrame = .ok datagram ∧
      decodeVideoPacket datagram = none) ∧
    codeOf firstEpochCommitted (headerOf (runtimeFragment firstFrame true 0 1 [1]))
      (encodeVideoPacket (runtimeFragment firstFrame true 0 1 [1])) 0 = .invalid ∧
    parseWireHeader (encodeVideoPacket (runtimeFragment firstFrame true 0 2 [1])) = none ∧
    ¬ SameWireFormat {} := by
  have short : ∃ datagram, DatagramFragmenter.repeated firstFrame = .ok datagram ∧
      decodeVideoPacket datagram = none := ⟨_, rfl, by decide +kernel⟩
  have invalid : codeOf firstEpochCommitted (headerOf (runtimeFragment firstFrame true 0 1 [1]))
      (encodeVideoPacket (runtimeFragment firstFrame true 0 1 [1])) 0 = .invalid := by
    decide +kernel
  refine ⟨short, invalid, by decide +kernel, fun same => ?_⟩
  obtain ⟨datagram, sent, refused⟩ := short
  have read := same.repeats firstFrame datagram sent
  simp [refused] at read

end VisionForge.ContractCore
