import VisionForge.Video.DecoderFeed

/-! # From the publisher of the Host to the decoder of the phone

The publisher seals the fragments of an access unit one after the other and stops at the first
one that is not permitted, sealed or sent. Whatever the network then loses, repeats or reorders,
the decoder is only handed what was published whole.
-/

namespace VisionForge.Video

open Lib.Ascii Lib.Chunks

inductive VideoPublishStage where
  | none
  | validateInput
  | authorizationCheck
  | encodeDatagram
  | socketSend
  | complete
  deriving DecidableEq

structure VideoPublishResult where
  identity : VideoFrameIdentity
  expectedFragments : Nat := 0
  fragmentsSent : Nat := 0
  bytesSent : Nat := 0
  success : Bool := false
  stage : VideoPublishStage := .none
  deriving DecidableEq

def VideoPublishResult.completelyPublished (result : VideoPublishResult) : Bool :=
  result.success && result.identity.valid && result.expectedFragments != 0 &&
    result.fragmentsSent == result.expectedFragments && result.stage == .complete

/-- What the publisher is to send, and what it meets: the answers of the permit source, the
    records of the sealed fragments and whether the socket takes them. -/
structure Publication where
  identity : VideoFrameIdentity
  sequenceFits : identity.frameSequence < 2 ^ 32
  accessUnit : Bytes
  repeatedContent : Bool
  permits : Nat → Bool
  seals : Nat → Option Bytes
  sends : Nat → Bool

namespace Publication

variable (pub : Publication)

def fragmentCount : Nat :=
  (pub.accessUnit.length + kVideoPacketPayloadBytes - 1) / kVideoPacketPayloadBytes

/-- The loop, with the datagrams of the records that were sent. -/
def publishFrom : (turns offset index : Nat) → VideoPublishResult → VideoPublishResult × List Bytes
  | 0, _, _, result => (result, [])
  | turns + 1, offset, index, result =>
    if pub.accessUnit.length ≤ offset then
      let success := result.fragmentsSent == result.expectedFragments
      ({ result with success, stage := if success then .complete else .socketSend }, [])
    else
      let datagram := encodeVideoPacket
        { identity := pub.identity
          repeatedContent := pub.repeatedContent
          fragmentIndex := index % 2 ^ 16
          fragmentCount := result.expectedFragments
          accessUnitPart := (pub.accessUnit.drop offset).take
            (min kVideoPacketPayloadBytes (pub.accessUnit.length - offset)) }
      if datagram.isEmpty then ({ result with stage := .encodeDatagram }, [])
      else if !pub.permits (2 * index + 1) then
        ({ result with stage := .authorizationCheck }, [])
      else
        match pub.seals index with
        | none => ({ result with stage := .encodeDatagram }, [])
        | some sealed =>
          if !pub.permits (2 * index + 2) then
            ({ result with stage := .authorizationCheck }, [])
          else if !pub.sends index then ({ result with stage := .socketSend }, [])
          else
            let (result, sent) := publishFrom turns (offset + kVideoPacketPayloadBytes) (index + 1)
              { result with
                fragmentsSent := (result.fragmentsSent + 1) % 2 ^ 16
                bytesSent := (result.bytesSent + sealed.length) % 2 ^ 32 }
            (result, datagram :: sent)

def publish : VideoPublishResult × List Bytes :=
  let result : VideoPublishResult := { identity := pub.identity }
  if !pub.identity.valid || pub.accessUnit.isEmpty ||
      decide (kMaxAccessUnitBytes < pub.accessUnit.length) then
    ({ result with stage := .validateInput }, [])
  else if pub.fragmentCount == 0 ||
      decide (kMaxVideoFragmentsPerAccessUnit < pub.fragmentCount) ||
      decide (2 ^ 16 - 1 < pub.fragmentCount) then
    ({ result with stage := .validateInput }, [])
  else
    let result := { result with expectedFragments := pub.fragmentCount % 2 ^ 16 }
    if !pub.permits 0 then ({ result with stage := .authorizationCheck }, [])
    else pub.publishFrom (pub.accessUnit.length + 1) 0 0 result

/-- What the validation of the input lets through. -/
structure Usable : Prop where
  valid : pub.identity.valid = true
  nonempty : pub.accessUnit ≠ []
  fits : pub.accessUnit.length ≤ kMaxAccessUnitBytes

def fragment : Nat → VideoFragment :=
  fragmentAt pub.identity pub.accessUnit pub.repeatedContent

def packetAt (index : Nat) : Bytes := encodeVideoPacket (pub.fragment index)

/-- The datagrams of the fragmenter. -/
def packets : List Bytes :=
  (fragmentAccessUnit pub.identity pub.accessUnit pub.repeatedContent
    kVideoPacketPayloadBytes).map encodeVideoPacket

/-- What was sent from a fragment on: so many packets, each under two permits. -/
structure Sends (index sent : Nat) (outcome : VideoPublishResult × List Bytes) : Prop where
  identity : outcome.1.identity = pub.identity
  expected : outcome.1.expectedFragments = pub.fragmentCount
  counted : outcome.1.fragmentsSent = index + sent
  within : index + sent ≤ pub.fragmentCount
  packets : outcome.2 = (List.range' index sent).map pub.packetAt
  permitted : ∀ other, index ≤ other → other < index + sent →
    pub.permits (2 * other + 1) = true ∧ pub.permits (2 * other + 2) = true
  whole : outcome.1.success = true ∧ outcome.1.stage = .complete ↔
    index + sent = pub.fragmentCount

variable {pub} {index turns : Nat} {result : VideoPublishResult}

theorem Usable.fragmentCount_pos (usable : pub.Usable) : 0 < pub.fragmentCount :=
  (lt_chunks_iff (by decide)).mpr (by simpa [List.length_pos_iff] using usable.nonempty)

theorem Usable.packets_eq (usable : pub.Usable) :
    pub.packets = (List.range' 0 pub.fragmentCount).map pub.packetAt := by
  rw [packets, fragmentAccessUnit_eq _ usable.valid usable.nonempty usable.fits, List.map_map,
    List.range_eq_range']
  rfl

theorem Usable.decode_packetAt (usable : pub.Usable)
    (inside : index < pub.fragmentCount) :
    decodeVideoPacket (pub.packetAt index) = some (pub.fragment index) :=
  decode_encodeVideoPacket
    (fragmentAt_encodable _ usable.valid pub.sequenceFits usable.fits inside)

theorem publishFrom_sends (usable : pub.Usable)
    (enough : pub.accessUnit.length < index + turns)
    (within : index ≤ pub.fragmentCount)
    (identity : result.identity = pub.identity)
    (want : result.expectedFragments = pub.fragmentCount)
    (counted : result.fragmentsSent = index) :
    ∃ sent, pub.Sends index sent
      (pub.publishFrom turns (index * kVideoPacketPayloadBytes) index result) := by
  have pos : 0 < kVideoPacketPayloadBytes := by decide
  have few : pub.fragmentCount < 2 ^ 16 :=
    Nat.lt_of_le_of_lt (chunks_le usable.fits) (by decide)
  induction turns generalizing index result with
  | zero =>
    unfold fragmentCount kVideoPacketPayloadBytes at within
    omega
  | succ turns ih =>
    have inside := @lt_chunks_iff _ pos index pub.accessUnit.length
    unfold publishFrom
    split
    · rename_i done
      have all : index = pub.fragmentCount :=
        Nat.le_antisymm within (Nat.not_lt.mp (mt inside.mp (Nat.not_lt.mpr done)))
      have whole : (result.fragmentsSent == result.expectedFragments) = true := by
        rw [beq_iff_eq, counted, want, all]
      exact ⟨0, identity, want, counted, within, rfl, fun _ _ _ => by omega, by simp [whole, all]⟩
    rename_i more
    have short : index < pub.fragmentCount := inside.mpr (Nat.not_le.mp more)
    have stops (stage : VideoPublishStage) (failed : stage ≠ .complete) :
        ∃ sent, pub.Sends index sent ({ result with stage }, []) :=
      ⟨0, identity, want, counted, within, rfl, fun _ _ _ => by omega,
        ⟨fun whole => absurd whole.2 failed, fun whole => by omega⟩⟩
    have isPacket : encodeVideoPacket
        { identity := pub.identity
          repeatedContent := pub.repeatedContent
          fragmentIndex := index % 2 ^ 16
          fragmentCount := result.expectedFragments
          accessUnitPart := (pub.accessUnit.drop (index * kVideoPacketPayloadBytes)).take
            (min kVideoPacketPayloadBytes
              (pub.accessUnit.length - index * kVideoPacketPayloadBytes)) } =
        pub.packetAt index := by
      unfold packetAt fragment fragmentAt chunk
      rw [← List.length_drop, ← List.take_eq_take_min, Nat.mod_eq_of_lt (by omega), want]
      rfl
    dsimp only
    rw [isPacket]
    split
    · exact stops _ (by decide)
    split
    · exact stops _ (by decide)
    rename_i before
    split
    · exact stops _ (by decide)
    rename_i record sealed
    split
    · exact stops _ (by decide)
    rename_i after
    split
    · exact stops _ (by decide)
    have next : index * kVideoPacketPayloadBytes + kVideoPacketPayloadBytes =
        (index + 1) * kVideoPacketPayloadBytes := by rw [Nat.add_mul, Nat.one_mul]
    obtain ⟨sent, rest⟩ := @ih (index + 1)
      { result with
        fragmentsSent := (result.fragmentsSent + 1) % 2 ^ 16
        bytesSent := (result.bytesSent + record.length) % 2 ^ 32 }
      (by omega) short identity want
      (by dsimp only; rw [counted, Nat.mod_eq_of_lt (by omega)])
    rw [next]
    have within := rest.within
    refine ⟨sent + 1, rest.identity, rest.expected, ?_, by omega, ?_, ?_, ?_⟩
    · have counted := rest.counted
      dsimp only
      omega
    · dsimp only
      rw [rest.packets, List.range'_succ, List.map_cons]
    · intro other le lt
      by_cases same : other = index
      · rw [same]
        simpa using And.intro before after
      · exact rest.permitted other (by omega) (by omega)
    · rw [← Nat.add_assoc, Nat.add_right_comm]
      exact rest.whole

theorem publish_sends (usable : pub.Usable) : ∃ sent, pub.Sends 0 sent pub.publish := by
  have few : pub.fragmentCount ≤ kMaxVideoFragmentsPerAccessUnit := chunks_le usable.fits
  have begun := usable.fragmentCount_pos
  have small : kMaxVideoFragmentsPerAccessUnit < 2 ^ 16 := by decide
  have want : pub.fragmentCount % 2 ^ 16 = pub.fragmentCount :=
    Nat.mod_eq_of_lt (by omega)
  unfold publish
  dsimp only
  rw [if_neg, if_neg, want]
  · split
    · exact ⟨0, rfl, rfl, rfl, by omega, rfl, fun _ _ _ => by omega, by simp; omega⟩
    · have all := @publishFrom_sends pub 0 (pub.accessUnit.length + 1)
        { identity := pub.identity, expectedFragments := pub.fragmentCount }
        usable (by omega) (by omega) rfl rfl rfl
      rwa [Nat.zero_mul] at all
  · simp only [Bool.or_eq_true, beq_iff_eq, decide_eq_true_eq, not_or]
    omega
  · simpa [usable.valid, usable.nonempty] using usable.fits

theorem Sends.completelyPublished {sent : Nat} {outcome : VideoPublishResult × List Bytes}
    (h : pub.Sends 0 sent outcome) (usable : pub.Usable) :
    outcome.1.completelyPublished = true ↔ sent = pub.fragmentCount := by
  have begun := usable.fragmentCount_pos
  simp only [VideoPublishResult.completelyPublished, Bool.and_eq_true, beq_iff_eq, bne_iff_ne,
    h.identity, usable.valid, h.expected, h.counted]
  constructor
  · rintro ⟨⟨-, all⟩, -⟩
    omega
  · intro all
    obtain ⟨succeeded, isComplete⟩ := h.whole.mpr (by omega)
    exact ⟨⟨⟨⟨succeeded, trivial⟩, by omega⟩, by omega⟩, isComplete⟩

theorem not_usable (unusable : ¬ pub.Usable) :
    pub.publish = ({ identity := pub.identity, stage := .validateInput }, []) ∧
      pub.packets = [] := by
  have refused : (!pub.identity.valid || pub.accessUnit.isEmpty ||
      decide (kMaxAccessUnitBytes < pub.accessUnit.length)) = true := by
    by_contra passed
    simp only [Bool.or_eq_true, Bool.not_eq_true', List.isEmpty_iff, decide_eq_true_eq, not_or,
      Bool.not_eq_false, Nat.not_lt] at passed
    exact unusable ⟨passed.1.1, passed.1.2, passed.2⟩
  unfold publish packets fragmentAccessUnit
  simp [refused]

theorem fragment_of_sent {octets : Bytes} {frag : VideoFragment}
    (sent : octets ∈ pub.publish.2) (decoded : decodeVideoPacket octets = some frag) :
    pub.Usable ∧ ∃ index < pub.publish.1.fragmentsSent,
      frag = pub.fragment index := by
  by_cases usable : pub.Usable
  · obtain ⟨count, sends⟩ := publish_sends usable
    have within := sends.within
    rw [sends.packets, List.mem_map] at sent
    obtain ⟨index, mem, rfl⟩ := sent
    rw [List.mem_range'_1] at mem
    rw [usable.decode_packetAt (by omega), Option.some.injEq] at decoded
    exact ⟨usable, index, by rw [sends.counted]; omega, decoded.symm⟩
  · rw [(not_usable usable).1] at sent
    cases sent

theorem fragment_of_arrived {publications : List Publication} {turns : List Turn}
    (sent : ∀ turn ∈ turns, ∀ octets ipv4 port, turn.received = .datagram octets ipv4 port →
      ∃ pub ∈ publications, octets ∈ pub.publish.2)
    {frag : VideoFragment} (arrived : frag ∈ turns.filterMap Turn.fragment) :
    ∃ pub ∈ publications, pub.Usable ∧
      ∃ index < pub.publish.1.fragmentsSent, frag = pub.fragment index := by
  obtain ⟨turn, isTurn, isFragment⟩ := List.mem_filterMap.mp arrived
  unfold Turn.fragment at isFragment
  split at isFragment
  · cases isFragment
  · rename_i octets ipv4 port received
    obtain ⟨pub, isPublication, isSent⟩ := sent turn isTurn octets ipv4 port received
    exact ⟨pub, isPublication, fragment_of_sent isSent isFragment⟩

end Publication

open Publication in
/-- A publication sends its fragments up to one that is refused, each under two permits, and is
    complete exactly if it has sent them all. -/
theorem publication_is_prefix (pub : Publication) :
    let (result, sent) := pub.publish
    sent = pub.packets.take result.fragmentsSent ∧
      (result.completelyPublished = true ↔
        pub.packets ≠ [] ∧ sent = pub.packets) ∧
      ∀ index < sent.length, pub.permits (2 * index + 1) = true ∧
        pub.permits (2 * index + 2) = true := by
  dsimp only
  by_cases usable : pub.Usable
  · obtain ⟨count, sends⟩ := publish_sends usable
    have within := sends.within
    have begun := usable.fragmentCount_pos
    rw [usable.packets_eq, sends.packets, sends.counted]
    refine ⟨?_, ?_, ?_⟩
    · rw [← List.map_take, List.take_range'_of_length_ge within, Nat.zero_add]
    · rw [sends.completelyPublished usable]
      constructor
      · intro all
        rw [all, ne_eq, List.map_eq_nil_iff, List.range'_eq_nil_iff]
        exact ⟨by omega, rfl⟩
      · rintro ⟨-, all⟩
        simpa using congrArg List.length all
    · intro index inside
      rw [List.length_map, List.length_range'] at inside
      exact sends.permitted index (by omega) (by omega)
  · obtain ⟨isResult, none⟩ := not_usable usable
    rw [isResult, none]
    simp [VideoPublishResult.completelyPublished]

open Publication in
/-- Whatever the network does with the datagrams of publications of distinct frames, the decoder
    is handed none but whole ones, as they were published. -/
theorem published_units_reach_decoder (publications : List Publication)
    (distinct : (publications.map Publication.identity).Nodup) (expectedSourceIpv4 : Nat)
    (turns : List Turn)
    (sent : ∀ turn ∈ turns, ∀ octets ipv4 port, turn.received = .datagram octets ipv4 port →
      ∃ pub ∈ publications, octets ∈ pub.publish.2) :
    let recv : NativeVideoReceiver := turns.foldl .run (.start expectedSourceIpv4)
    ∀ event ∈ recv.feed.submitted, ∃ pub ∈ publications,
      pub.publish.1.completelyPublished = true ∧
      event.1.accessUnit = ⟨pub.identity, pub.repeatedContent, pub.accessUnit⟩ := by
  intro recv event mem
  obtain ⟨-, -, ⟨parts, some, bytes, each⟩, -⟩ :=
    (NativeVideoReceiver.supplied_run expectedSourceIpv4 turns).feed.made event mem
  have published (index : Nat) (inside : index < parts.length) :
      ∃ pub ∈ publications, pub.Usable ∧
        index < pub.publish.1.fragmentsSent ∧
        parts[index] = pub.fragment index := by
    obtain ⟨arrived, -, isIndex, -⟩ := each index inside
    obtain ⟨pub, isPublication, usable, other, isSent, isPart⟩ :=
      fragment_of_arrived sent arrived
    rw [isPart] at isIndex
    exact ⟨pub, isPublication, usable, isIndex ▸ isSent, isIndex ▸ isPart⟩
  obtain ⟨pub, isPublication, usable, -, isFirst⟩ :=
    published 0 (List.length_pos_iff.mpr some)
  have first := each 0 (List.length_pos_iff.mpr some)
  rw [isFirst] at first
  obtain ⟨-, isIdentity, -, isCount, isRepeated⟩ := first
  have same (index : Nat) (inside : index < parts.length) :
      index < pub.publish.1.fragmentsSent ∧
        parts[index] = pub.fragment index := by
    obtain ⟨other, isOther, -, isSent, isPart⟩ := published index inside
    have identity := (each index inside).2.1
    rw [isPart] at identity
    rw [← List.inj_on_of_nodup_map distinct isOther isPublication (identity.trans isIdentity.symm)]
    exact ⟨isSent, isPart⟩
  have whole : parts = (List.range pub.fragmentCount).map pub.fragment := by
    apply List.ext_getElem
    · rw [List.length_map, List.length_range, ← isCount]
      rfl
    · intro index inside _
      rw [List.getElem_map, List.getElem_range, (same index inside).2]
  refine ⟨pub, isPublication, ?_, ?_⟩
  · obtain ⟨count, sends⟩ := publish_sends usable
    have within := sends.within
    have last := (same (parts.length - 1) (by
      have := List.length_pos_iff.mpr some
      omega)).1
    rw [sends.counted] at last
    rw [sends.completelyPublished usable]
    have isCount : pub.fragmentCount = parts.length := isCount
    omega
  · rw [whole, List.map_map] at bytes
    have octets := bytes.trans (flatten_all_chunks (by decide))
    have fields : ∀ unit : CompletedAccessUnit, unit =
        ⟨unit.identity, unit.repeatedContent, unit.bytes⟩ := fun _ => rfl
    rw [fields event.1.accessUnit, octets, ← isIdentity, ← isRepeated]
    rfl

/-- Access units of two fragments. -/
def twoFragments (sequence : Nat) (fits : sequence < 2 ^ 32) (first : UInt8) : Publication where
  identity := { streamEpoch := 1, frameSequence := sequence }
  sequenceFits := fits
  accessUnit := [0, 0, 1, first] ++ List.replicate 1341 1
  repeatedContent := false
  permits := fun _ => true
  seals := fun _ => some []
  sends := fun _ => true

def idrPublication : Publication := twoFragments 1 (by decide) 0x65

def predictedPublication : Publication := twoFragments 2 (by decide) 0x41

def arrivalOf (pub : Publication) (index : Nat) : Turn where
  received := .datagram (encodeVideoPacket (pub.fragment index)) 1 1
  nowUs := 1
  accepts := fun _ => true

/-- The fragments of the IDR come in the wrong order and one of them again, and one of the next
    picture is lost. -/
def shuffledTurns : List Turn :=
  [arrivalOf idrPublication 1, arrivalOf predictedPublication 0, arrivalOf idrPublication 0,
    arrivalOf idrPublication 1]

theorem shuffledTurns_reach_decoder :
    let recv : NativeVideoReceiver := shuffledTurns.foldl .run (.start 1)
    recv.feed.submitted.length = 1 ∧
      ∀ event ∈ recv.feed.submitted,
        ∃ pub ∈ [idrPublication, predictedPublication],
          pub.publish.1.completelyPublished = true ∧
          event.1.accessUnit = ⟨pub.identity, pub.repeatedContent, pub.accessUnit⟩ := by
  refine ⟨by decide +kernel, published_units_reach_decoder [idrPublication, predictedPublication]
    (by decide) 1 shuffledTurns ?_⟩
  intro turn isTurn octets ipv4 port received
  have sent (pub : Publication) (index : Nat)
      (same : (arrivalOf pub index).received = .datagram octets ipv4 port) :
      octets = encodeVideoPacket (pub.fragment index) := by
    cases same
    rfl
  simp only [shuffledTurns, List.mem_cons, List.not_mem_nil, or_false] at isTurn
  rcases isTurn with rfl | rfl | rfl | rfl
  · exact ⟨idrPublication, by simp, sent idrPublication 1 received ▸ by decide +kernel⟩
  · exact ⟨predictedPublication, by simp, sent predictedPublication 0 received ▸ by decide +kernel⟩
  · exact ⟨idrPublication, by simp, sent idrPublication 0 received ▸ by decide +kernel⟩
  · exact ⟨idrPublication, by simp, sent idrPublication 1 received ▸ by decide +kernel⟩

end VisionForge.Video
