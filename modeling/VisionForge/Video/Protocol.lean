import VisionForge.Lib.BigEndian
import VisionForge.Lib.Chunks

/-! # The video wire format -/

namespace VisionForge.Video

open Lib.Ascii Lib.BigEndian Lib.Chunks

def kVideoPacketMagic : Nat := 0x56463247
def kVideoRepeatedPacketMagic : Nat := 0x56463252
def kVideoStreamEpochMax : Nat := 0x7fffffffffffffff
def kVideoPacketHeaderBytes : Nat := 20
def kVideoPacketPayloadBytes : Nat := 1344
def kMaxDatagramBytes : Nat := kVideoPacketHeaderBytes + kVideoPacketPayloadBytes
def kMaxAccessUnitBytes : Nat := 2 * 1024 * 1024
def kMaxVideoFragmentsPerAccessUnit : Nat :=
  (kMaxAccessUnitBytes + kVideoPacketPayloadBytes - 1) / kVideoPacketPayloadBytes

def validVideoStreamEpoch (value : Nat) : Bool := value != 0 && decide (value ≤ kVideoStreamEpochMax)

structure VideoFrameIdentity where
  streamEpoch : Nat := 0
  frameSequence : Nat := 0
  deriving DecidableEq

def VideoFrameIdentity.valid (identity : VideoFrameIdentity) : Bool :=
  validVideoStreamEpoch identity.streamEpoch

structure VideoFragment where
  identity : VideoFrameIdentity := {}
  repeatedContent : Bool := false
  fragmentIndex : Nat := 0
  fragmentCount : Nat := 0
  accessUnitPart : Bytes := []
  deriving DecidableEq

/-- The sequence does not wrap: the last one has no successor. -/
def advanceVideoFrameSequence (current : Nat) : Option Nat :=
  if current = 2 ^ 32 - 1 then none else some (current + 1)

def videoFrameSequenceIsNewer (candidate reference : Nat) : Bool := decide (reference < candidate)

def encodeVideoPacket (fragment : VideoFragment) : Bytes :=
  if !fragment.identity.valid || fragment.fragmentCount == 0 ||
      decide (kMaxVideoFragmentsPerAccessUnit < fragment.fragmentCount) ||
      decide (fragment.fragmentCount ≤ fragment.fragmentIndex) ||
      fragment.accessUnitPart.isEmpty ||
      decide (kVideoPacketPayloadBytes < fragment.accessUnitPart.length) then []
  else
    store 4 (if fragment.repeatedContent then kVideoRepeatedPacketMagic else kVideoPacketMagic) ++
      (store 8 fragment.identity.streamEpoch ++ (store 4 fragment.identity.frameSequence ++
        (store 2 fragment.fragmentIndex ++ (store 2 fragment.fragmentCount ++
          fragment.accessUnitPart))))

def decodeVideoPacket (datagram : Bytes) : Option VideoFragment :=
  let magic := loadAt datagram 0 4
  let identity : VideoFrameIdentity :=
    { streamEpoch := loadAt datagram 4 8, frameSequence := loadAt datagram 12 4 }
  let index := loadAt datagram 16 2
  let count := loadAt datagram 18 2
  if datagram.length ≤ kVideoPacketHeaderBytes || decide (kMaxDatagramBytes < datagram.length) then
    none
  else if magic ≠ kVideoPacketMagic ∧ magic ≠ kVideoRepeatedPacketMagic then none
  else if !identity.valid || count == 0 || decide (kMaxVideoFragmentsPerAccessUnit < count) ||
      decide (count ≤ index) then none
  else
    some
      { identity := identity
        repeatedContent := magic == kVideoRepeatedPacketMagic
        fragmentIndex := index
        fragmentCount := count
        accessUnitPart := datagram.drop kVideoPacketHeaderBytes }

section

variable (identity : VideoFrameIdentity) (unit : Bytes) (repeatedContent : Bool)
  (maxPayloadBytes fragmentCount : Nat)

def fragmentsFrom : (fuel offset index : Nat) → List VideoFragment
  | 0, _, _ => []
  | fuel + 1, offset, index =>
    if unit.length ≤ offset then []
    else
      let bytes := min maxPayloadBytes (unit.length - offset)
      { identity := identity
        repeatedContent := repeatedContent
        fragmentIndex := index % 2 ^ 16
        fragmentCount := fragmentCount % 2 ^ 16
        accessUnitPart := (unit.drop offset).take bytes } ::
        fragmentsFrom fuel (offset + maxPayloadBytes) (index + 1)

def fragmentAccessUnit : List VideoFragment :=
  if !identity.valid || unit.isEmpty || decide (kMaxAccessUnitBytes < unit.length) ||
      maxPayloadBytes == 0 || decide (kVideoPacketPayloadBytes < maxPayloadBytes) then []
  else
    let fragmentCount := (unit.length + maxPayloadBytes - 1) / maxPayloadBytes
    if fragmentCount == 0 || decide (kMaxVideoFragmentsPerAccessUnit < fragmentCount) then []
    else
      fragmentsFrom identity unit repeatedContent maxPayloadBytes fragmentCount
        unit.length 0 0

end

/-- A fragment with the sizes its wire format has room for. -/
structure VideoFragment.Encodable (fragment : VideoFragment) : Prop where
  identity : fragment.identity.valid = true
  sequence : fragment.identity.frameSequence < 2 ^ 32
  index : fragment.fragmentIndex < fragment.fragmentCount
  count : fragment.fragmentCount ≤ kMaxVideoFragmentsPerAccessUnit
  nonempty : fragment.accessUnitPart ≠ []
  payload : fragment.accessUnitPart.length ≤ kVideoPacketPayloadBytes

theorem le_epochMax {identity : VideoFrameIdentity} (valid : identity.valid = true) :
    0 < identity.streamEpoch ∧ identity.streamEpoch ≤ kVideoStreamEpochMax := by
  simp only [VideoFrameIdentity.valid, validVideoStreamEpoch, Bool.and_eq_true, bne_iff_ne,
    decide_eq_true_eq] at valid
  exact ⟨Nat.pos_of_ne_zero valid.1, valid.2⟩

theorem VideoFragment.Encodable.wellFormed {fragment : VideoFragment} (h : fragment.Encodable) :
    (!fragment.identity.valid || fragment.fragmentCount == 0 ||
      decide (kMaxVideoFragmentsPerAccessUnit < fragment.fragmentCount) ||
      decide (fragment.fragmentCount ≤ fragment.fragmentIndex) ||
      fragment.accessUnitPart.isEmpty ||
      decide (kVideoPacketPayloadBytes < fragment.accessUnitPart.length)) = false := by
  have index := h.index
  simp only [h.identity, Bool.not_true, Bool.false_or, Bool.or_eq_false_iff, beq_eq_false_iff_ne,
    decide_eq_false_iff_not, List.isEmpty_eq_false_iff]
  exact ⟨⟨⟨⟨by omega, Nat.not_lt.mpr h.count⟩, by omega⟩, h.nonempty⟩, Nat.not_lt.mpr h.payload⟩

theorem encodeVideoPacket_of_encodable {fragment : VideoFragment} (h : fragment.Encodable) :
    encodeVideoPacket fragment =
      store 4 (if fragment.repeatedContent then kVideoRepeatedPacketMagic else kVideoPacketMagic) ++
        (store 8 fragment.identity.streamEpoch ++ (store 4 fragment.identity.frameSequence ++
          (store 2 fragment.fragmentIndex ++ (store 2 fragment.fragmentCount ++
            fragment.accessUnitPart)))) := by
  unfold encodeVideoPacket
  rw [h.wellFormed, if_neg Bool.false_ne_true]

/-- The receiver reads what the sender wrote. -/
theorem decode_encodeVideoPacket {frag : VideoFragment} (h : frag.Encodable) :
    decodeVideoPacket (encodeVideoPacket frag) = some frag := by
  rw [encodeVideoPacket_of_encodable h]
  obtain ⟨⟨epoch, seq⟩, repeated, index, count, part⟩ := frag
  obtain ⟨identity, sequenceFits, indexFits, countFits, nonempty, payload⟩ := h
  have epochFits := (le_epochMax identity).2
  dsimp only at *
  have countSmall : count < 2 ^ 16 := by
    simp only [kMaxVideoFragmentsPerAccessUnit, kMaxAccessUnitBytes,
      kVideoPacketPayloadBytes] at countFits
    omega
  generalize isMagic : (if repeated then kVideoRepeatedPacketMagic else kVideoPacketMagic) = magic
  have magicCases : (repeated = true ∧ magic = kVideoRepeatedPacketMagic) ∨
      (repeated = false ∧ magic = kVideoPacketMagic) := by
    cases repeated with
    | true => exact .inl ⟨rfl, isMagic.symm⟩
    | false => exact .inr ⟨rfl, isMagic.symm⟩
  have magicFits : magic < 256 ^ 4 := by
    cases magicCases with
    | inl h => rw [h.2]; decide
    | inr h => rw [h.2]; decide
  have readMagic {back : Bytes} := @loadAt_store [] back 0 4 magic rfl magicFits
  have readEpoch {back : Bytes} := @loadAt_store (store 4 magic) back 4 8 epoch (length_store _ _)
    (by simp only [kVideoStreamEpochMax] at epochFits; omega)
  have readSequence {back : Bytes} := @loadAt_store (store 4 magic ++ store 8 epoch) back 12 4
    seq (by simp) sequenceFits
  have readIndex {back : Bytes} := @loadAt_store (store 4 magic ++ store 8 epoch ++
    store 4 seq) back 16 2 index (by simp) (by omega)
  have readCount {back : Bytes} := @loadAt_store (store 4 magic ++ store 8 epoch ++
    store 4 seq ++ store 2 index) back 18 2 count (by simp) (by omega)
  have readPart : (store 4 magic ++ store 8 epoch ++ store 4 seq ++ store 2 index ++
      store 2 count ++ part).drop kVideoPacketHeaderBytes = part :=
    List.drop_left' (by simp [kVideoPacketHeaderBytes])
  simp only [List.append_assoc, List.nil_append] at *
  have length : (store 4 magic ++ (store 8 epoch ++ (store 4 seq ++ (store 2 index ++
      (store 2 count ++ part))))).length = kVideoPacketHeaderBytes + part.length := by
    simp only [List.length_append, length_store, kVideoPacketHeaderBytes]
    omega
  have pos := List.length_pos_iff.mpr nonempty
  unfold decodeVideoPacket
  rw [readMagic, readEpoch, readSequence, readIndex, readCount, readPart, if_neg, if_neg, if_neg]
  · cases magicCases with
    | inl h => rw [h.1, h.2]; rfl
    | inr h => rw [h.1, h.2]; rfl
  · simp only [identity, Bool.not_true, Bool.false_or, Bool.or_eq_true, beq_iff_eq,
      decide_eq_true_eq]
    omega
  · cases magicCases with
    | inl h => rw [h.2]; decide
    | inr h => rw [h.2]; decide
  · simp only [length, Bool.or_eq_true, decide_eq_true_eq, kMaxDatagramBytes]
    omega

/-- The fragment at an index of an access unit that is cut into payloads of full size. -/
def fragmentAt (identity : VideoFrameIdentity) (unit : Bytes) (repeatedContent : Bool)
    (index : Nat) : VideoFragment where
  identity := identity
  repeatedContent := repeatedContent
  fragmentIndex := index
  fragmentCount := chunks kVideoPacketPayloadBytes unit.length
  accessUnitPart := chunk kVideoPacketPayloadBytes unit index

theorem chunks_le {length : Nat} (fits : length ≤ kMaxAccessUnitBytes) :
    chunks kVideoPacketPayloadBytes length ≤ kMaxVideoFragmentsPerAccessUnit :=
  Nat.div_le_div_right (by omega)

theorem fragmentsFrom_eq {identity : VideoFrameIdentity} {unit : Bytes}
    {repeatedContent : Bool} (fits : unit.length ≤ kMaxAccessUnitBytes) {fuel index : Nat}
    (enough : unit.length ≤ index * kVideoPacketPayloadBytes + fuel) :
    fragmentsFrom identity unit repeatedContent kVideoPacketPayloadBytes
        (chunks kVideoPacketPayloadBytes unit.length) fuel
        (index * kVideoPacketPayloadBytes) index =
      (List.range' index (chunks kVideoPacketPayloadBytes unit.length - index)).map
        (fragmentAt identity unit repeatedContent) := by
  have pos : 0 < kVideoPacketPayloadBytes := by decide
  have hin := @lt_chunks_iff _ pos index unit.length
  have few : chunks kVideoPacketPayloadBytes unit.length < 2 ^ 16 :=
    Nat.lt_of_le_of_lt (chunks_le fits) (by decide)
  induction fuel generalizing index with
  | zero =>
    have none : chunks kVideoPacketPayloadBytes unit.length - index = 0 := by omega
    rw [none]
    rfl
  | succ fuel ih =>
    unfold fragmentsFrom
    by_cases done : unit.length ≤ index * kVideoPacketPayloadBytes
    · have none : chunks kVideoPacketPayloadBytes unit.length - index = 0 := by omega
      rw [if_pos done, none]
      rfl
    · have more : chunks kVideoPacketPayloadBytes unit.length - index =
          chunks kVideoPacketPayloadBytes unit.length - (index + 1) + 1 := by omega
      have next : index * kVideoPacketPayloadBytes + kVideoPacketPayloadBytes =
          (index + 1) * kVideoPacketPayloadBytes := by rw [Nat.add_mul, Nat.one_mul]
      have tail := @ih (index + 1) (by omega)
        (@lt_chunks_iff _ pos (index + 1) unit.length)
      have cut : (unit.drop (index * kVideoPacketPayloadBytes)).take
          (min kVideoPacketPayloadBytes
            (unit.length - index * kVideoPacketPayloadBytes)) =
          chunk kVideoPacketPayloadBytes unit index := by
        unfold chunk
        rw [← List.length_drop, ← List.take_eq_take_min]
      have small : index < 2 ^ 16 := by omega
      rw [if_neg done, more, List.range'_succ, List.map_cons, next, tail]
      simp only [fragmentAt, cut, Nat.mod_eq_of_lt few, Nat.mod_eq_of_lt small]

theorem fragmentAccessUnit_eq {identity : VideoFrameIdentity} {unit : Bytes}
    (repeatedContent : Bool) (valid : identity.valid = true) (nonempty : unit ≠ [])
    (fits : unit.length ≤ kMaxAccessUnitBytes) :
    fragmentAccessUnit identity unit repeatedContent kVideoPacketPayloadBytes =
      (List.range (chunks kVideoPacketPayloadBytes unit.length)).map
        (fragmentAt identity unit repeatedContent) := by
  have pos := List.length_pos_iff.mpr nonempty
  have some : 0 < chunks kVideoPacketPayloadBytes unit.length :=
    (lt_chunks_iff (by decide)).mpr (by omega)
  have few := chunks_le fits
  have all := @fragmentsFrom_eq identity unit repeatedContent fits unit.length 0
    (by omega)
  unfold fragmentAccessUnit
  rw [if_neg, if_neg]
  · rw [List.range_eq_range']
    exact all
  · simp only [Bool.or_eq_true, beq_iff_eq, decide_eq_true_eq, not_or]
    exact ⟨Nat.ne_of_gt some, Nat.not_lt.mpr few⟩
  · simp only [valid, Bool.not_true, Bool.false_or, Bool.or_eq_true, List.isEmpty_iff,
      decide_eq_true_eq, beq_iff_eq, not_or]
    exact ⟨⟨⟨nonempty, Nat.not_lt.mpr fits⟩, by decide⟩, by decide⟩

theorem fragmentAt_encodable {identity : VideoFrameIdentity} {unit : Bytes}
    (repeatedContent : Bool) (valid : identity.valid = true)
    (sequence : identity.frameSequence < 2 ^ 32) (fits : unit.length ≤ kMaxAccessUnitBytes)
    {index : Nat} (hin : index < chunks kVideoPacketPayloadBytes unit.length) :
    (fragmentAt identity unit repeatedContent index).Encodable where
  identity := valid
  sequence := sequence
  index := hin
  count := chunks_le fits
  nonempty := chunk_ne_nil (by decide) hin
  payload := by
    unfold fragmentAt
    rw [length_chunk]
    exact Nat.min_le_left _ _

/-! ## Views of a datagram

The receiver decodes a datagram in place and copies the payload when it keeps the fragment.
-/

/-- Octets of a datagram that are not copied. -/
structure Subspan where
  offset : Nat
  count : Nat

def Subspan.octets (datagram : Bytes) (span : Subspan) : Bytes :=
  (datagram.drop span.offset).take span.count

structure VideoFragmentView where
  identity : VideoFrameIdentity
  repeatedContent : Bool
  fragmentIndex : Nat
  fragmentCount : Nat
  accessUnitPart : Subspan

def decodeVideoPacketView (datagram : Bytes) : Option VideoFragmentView :=
  if datagram.length ≤ kVideoPacketHeaderBytes || decide (kMaxDatagramBytes < datagram.length) then
    none
  else
    let magic := loadAt datagram 0 4
    if magic ≠ kVideoPacketMagic ∧ magic ≠ kVideoRepeatedPacketMagic then none
    else
      let identity : VideoFrameIdentity :=
        { streamEpoch := loadAt datagram 4 8, frameSequence := loadAt datagram 12 4 }
      let index := loadAt datagram 16 2
      let count := loadAt datagram 18 2
      if !identity.valid || count == 0 || decide (kMaxVideoFragmentsPerAccessUnit < count) ||
          decide (count ≤ index) then none
      else
        some
          { identity := identity
            repeatedContent := magic == kVideoRepeatedPacketMagic
            fragmentIndex := index
            fragmentCount := count
            accessUnitPart :=
              { offset := kVideoPacketHeaderBytes
                count := datagram.length - kVideoPacketHeaderBytes } }

/-- The fragment a view stands for, with its payload copied out of the datagram. -/
def VideoFragmentView.assigned (datagram : Bytes) (view : VideoFragmentView) : VideoFragment where
  identity := view.identity
  repeatedContent := view.repeatedContent
  fragmentIndex := view.fragmentIndex
  fragmentCount := view.fragmentCount
  accessUnitPart := view.accessUnitPart.octets datagram

section

variable {datagram : Bytes} {fragment : VideoFragment}

theorem decodeVideoPacket_eq_view :
    decodeVideoPacket datagram =
      (decodeVideoPacketView datagram).map (VideoFragmentView.assigned datagram) := by
  have rest : (datagram.drop kVideoPacketHeaderBytes).take
      (datagram.length - kVideoPacketHeaderBytes) = datagram.drop kVideoPacketHeaderBytes :=
    List.take_of_length_le (by rw [List.length_drop])
  unfold decodeVideoPacket decodeVideoPacketView
  dsimp only
  split
  · rfl
  · split
    · rfl
    · split
      · rfl
      · simp only [Option.map_some, VideoFragmentView.assigned, Subspan.octets, rest]

theorem store_loadAt {offset width : Nat} (hin : offset + width ≤ datagram.length) :
    store width (loadAt datagram offset width) = (datagram.drop offset).take width := by
  have length : ((datagram.drop offset).take width).length = width := by
    rw [List.length_take, List.length_drop]
    omega
  have stored := store_load ((datagram.drop offset).take width)
  rw [length] at stored
  exact stored

theorem take_drop_append (offset width : Nat) :
    (datagram.drop offset).take width ++ datagram.drop (offset + width) = datagram.drop offset := by
  rw [← List.drop_drop, List.take_append_drop]

theorem encode_decodeVideoPacket (decoded : decodeVideoPacket datagram = some fragment) :
    encodeVideoPacket fragment = datagram := by
  unfold decodeVideoPacket at decoded
  dsimp only at decoded
  split at decoded
  · cases decoded
  rename_i length
  split at decoded
  · cases decoded
  split at decoded
  · cases decoded
  rename_i fields
  cases decoded
  simp only [Bool.or_eq_true, decide_eq_true_eq, not_or, Nat.not_le, Nat.not_lt] at length
  have isMagic : (if loadAt datagram 0 4 == kVideoRepeatedPacketMagic
      then kVideoRepeatedPacketMagic else kVideoPacketMagic) = loadAt datagram 0 4 := by
    grind
  have long : 20 < datagram.length := length.1
  have start : (datagram.drop 0).take 4 ++ datagram.drop 4 = datagram := List.take_append_drop 4 _
  have epoch := @take_drop_append datagram 4 8
  have seq := @take_drop_append datagram 12 4
  have index := @take_drop_append datagram 16 2
  have count : (datagram.drop 18).take 2 ++ datagram.drop kVideoPacketHeaderBytes =
    datagram.drop 18 := take_drop_append 18 2
  unfold encodeVideoPacket
  rw [if_neg]
  · rw [isMagic, store_loadAt (by omega), store_loadAt (by omega), store_loadAt (by omega),
      store_loadAt (by omega), store_loadAt (by omega), count, index, seq, epoch, start]
  · simp only [fields, Bool.or_eq_true, decide_eq_true_eq, List.isEmpty_iff, List.drop_eq_nil_iff,
      List.length_drop, Bool.false_eq_true, false_or, not_or]
    exact ⟨Nat.not_le.mpr length.1, by unfold kMaxDatagramBytes at length; omega⟩

end

/-- Encoding and decoding are inverse, and the two decoders read the same. -/
theorem video_packets_round_trip :
    (∀ fragment : VideoFragment, fragment.Encodable →
      decodeVideoPacket (encodeVideoPacket fragment) = some fragment) ∧
    (∀ datagram fragment, decodeVideoPacket datagram = some fragment →
      encodeVideoPacket fragment = datagram) ∧
    ∀ datagram, decodeVideoPacket datagram =
      (decodeVideoPacketView datagram).map (VideoFragmentView.assigned datagram) :=
  ⟨fun _ encodable => decode_encodeVideoPacket encodable,
    fun _ _ decoded => encode_decodeVideoPacket decoded, fun _ => decodeVideoPacket_eq_view⟩

end VisionForge.Video
