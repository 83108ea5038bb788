import Mathlib.Algebra.Order.BigOperators.Group.List
import Mathlib.Algebra.Order.Group.Nat
import Mathlib.Data.List.GetD
import VisionForge.Video.Accounting

/-! # A stream of access units and its fragments

What a sender cuts a stream into, and what a list of arrived fragments says of each
frame: whether it has started, whether all of it is there, and whether everything up
to it is.
-/

namespace VisionForge.Video

open Lib.Ascii Lib.Chunks

structure AccessUnit where
  repeatedContent : Bool := false
  bytes : Bytes := []
  deriving DecidableEq

/-- Access units under consecutive sequences of one epoch. -/
structure Stream where
  epoch : Nat
  firstSequence : Nat
  units : List AccessUnit
  epochValid : validVideoStreamEpoch epoch = true
  sequences : firstSequence + units.length ≤ 2 ^ 32
  nonempty : ∀ unit ∈ units, unit.bytes ≠ []
  bounded : ∀ unit ∈ units, unit.bytes.length ≤ kMaxAccessUnitBytes

namespace Stream

variable (stream : Stream)

def frames : Nat := stream.units.length

def unitAt (k : Nat) : AccessUnit := stream.units.getD k {}

def identity (k : Nat) : VideoFrameIdentity where
  streamEpoch := stream.epoch
  frameSequence := stream.firstSequence + k

def fragments (k : Nat) : List VideoFragment :=
  fragmentAccessUnit (stream.identity k) (stream.unitAt k).bytes (stream.unitAt k).repeatedContent
    kVideoPacketPayloadBytes

def completedAt (k : Nat) : CompletedAccessUnit where
  identity := stream.identity k
  repeatedContent := (stream.unitAt k).repeatedContent
  bytes := (stream.unitAt k).bytes

def completed : List CompletedAccessUnit := (List.range stream.frames).map stream.completedAt

def Started (arrived : List VideoFragment) (k : Nat) : Prop :=
  ∃ fragment ∈ stream.fragments k, fragment ∈ arrived

def Complete (arrived : List VideoFragment) (k : Nat) : Prop :=
  ∀ fragment ∈ stream.fragments k, fragment ∈ arrived

/-- Every frame up to this one is complete. -/
def Deliverable (arrived : List VideoFragment) (k : Nat) : Prop :=
  ∀ j ∈ List.range (k + 1), stream.Complete arrived j

instance (arrived : List VideoFragment) (k : Nat) : Decidable (stream.Started arrived k) :=
  inferInstanceAs (Decidable (∃ fragment ∈ stream.fragments k, fragment ∈ arrived))

instance (arrived : List VideoFragment) (k : Nat) : Decidable (stream.Complete arrived k) :=
  inferInstanceAs (Decidable (∀ fragment ∈ stream.fragments k, fragment ∈ arrived))

instance (arrived : List VideoFragment) (k : Nat) : Decidable (stream.Deliverable arrived k) :=
  inferInstanceAs (Decidable (∀ j ∈ List.range (k + 1), stream.Complete arrived j))

/-- The frames in flight while a fragment comes in: it or another fragment of theirs has
    come, and what came before it did not yet deliver them. -/
def inFlight (before : List VideoFragment) (fragment : VideoFragment) : List Nat :=
  (List.range stream.frames).filter
    (fun k => stream.Started (before ++ [fragment]) k ∧ ¬ stream.Deliverable before k)

/-- Fragments in any order and any number, all of them at least once, the first frame
    first, and no more frames in flight than the reassembler has room for. -/
structure Delivery (arrivals : List VideoFragment) : Prop where
  genuine : ∀ fragment ∈ arrivals, ∃ k ∈ List.range stream.frames, fragment ∈ stream.fragments k
  lossless : ∀ k ∈ List.range stream.frames, stream.Complete arrivals k
  first : ∀ fragment ∈ arrivals.head?, fragment ∈ stream.fragments 0
  room : ∀ before fragment after, arrivals = before ++ fragment :: after →
    (stream.inFlight before fragment).length ≤ AccessUnitReassembler.default.maxInflightFrames

def count (k : Nat) : Nat := chunks kVideoPacketPayloadBytes (stream.unitAt k).bytes.length

def part (k : Nat) : Nat → Bytes := chunk kVideoPacketPayloadBytes (stream.unitAt k).bytes

def fragment (k i : Nat) : VideoFragment :=
  fragmentAt (stream.identity k) (stream.unitAt k).bytes (stream.unitAt k).repeatedContent i

variable {stream} {arrived : List VideoFragment} {k i : Nat}

theorem unitAt_mem (hin : k < stream.frames) : stream.unitAt k ∈ stream.units := by
  unfold unitAt
  rw [List.getD_eq_getElem _ _ hin]
  exact List.getElem_mem hin

theorem identity_valid : (stream.identity k).valid = true := stream.epochValid

theorem fragments_eq (hin : k < stream.frames) :
    stream.fragments k = (List.range (stream.count k)).map (stream.fragment k) :=
  fragmentAccessUnit_eq _ identity_valid (stream.nonempty _ (unitAt_mem hin))
    (stream.bounded _ (unitAt_mem hin))

theorem mem_fragments (hin : k < stream.frames) {fragment : VideoFragment} :
    fragment ∈ stream.fragments k ↔ ∃ i < stream.count k, stream.fragment k i = fragment := by
  rw [fragments_eq hin]
  simp

theorem count_pos (hin : k < stream.frames) : 0 < stream.count k := by
  have nonempty := List.length_pos_iff.mpr (stream.nonempty _ (unitAt_mem hin))
  exact (lt_chunks_iff (by decide)).mpr (by omega)

theorem complete_iff (hin : k < stream.frames) :
    stream.Complete arrived k ↔ ∀ i < stream.count k, stream.fragment k i ∈ arrived := by
  unfold Complete
  rw [fragments_eq hin]
  simp

theorem started_iff (hin : k < stream.frames) :
    stream.Started arrived k ↔ ∃ i < stream.count k, stream.fragment k i ∈ arrived := by
  unfold Started
  rw [fragments_eq hin]
  simp

theorem started_of_complete (hin : k < stream.frames) (h : stream.Complete arrived k) :
    stream.Started arrived k :=
  (started_iff hin).mpr ⟨0, count_pos hin, (complete_iff hin).mp h 0 (count_pos hin)⟩

theorem fragment_injective {j l : Nat} (same : stream.fragment k i = stream.fragment j l) :
    k = j ∧ i = l := by
  injection same with identity _ index
  injection identity with _ seq
  exact ⟨Nat.add_left_cancel seq, index⟩

theorem fragment_encodable (hin : k < stream.frames) (index : i < stream.count k) :
    (stream.fragment k i).Encodable := by
  have sequences := stream.sequences
  unfold frames at hin
  exact fragmentAt_encodable _ identity_valid (show stream.firstSequence + k < 2 ^ 32 by omega)
    (stream.bounded _ (unitAt_mem hin)) index

structure Holds (stream : Stream) (arrived : List VideoFragment) (k : Nat) (frame : PendingFrame) :
    Prop where
  repeated : frame.repeatedContent = (stream.unitAt k).repeatedContent
  expected : frame.expectedFragments = stream.count k
  received : ∀ i < stream.count k,
    (frame.received.getD i false = true ↔ stream.fragment k i ∈ arrived)
  parts : ∀ i < stream.count k, stream.fragment k i ∈ arrived →
    frame.parts.getD i [] = stream.part k i

variable {frame : PendingFrame}

theorem Holds.complete_iff (h : stream.Holds arrived k frame) (sound : frame.Sound)
    (hin : k < stream.frames) :
    frame.receivedFragments = frame.expectedFragments ↔ stream.Complete arrived k := by
  rw [Stream.complete_iff hin, sound.counted, ← sound.flags, List.count_eq_length]
  have length : frame.received.length = stream.count k := sound.flags.trans h.expected
  constructor
  · intro all i index
    rw [← h.received i index, List.getD_eq_getElem _ _ (by omega)]
    exact (all _ (List.getElem_mem _)).symm
  · intro all flag mem
    obtain ⟨i, bound, rfl⟩ := List.getElem_of_mem mem
    have set := (h.received i (by omega)).mpr (all i (by omega))
    rw [List.getD_eq_getElem _ _ bound] at set
    exact set.symm

theorem range_map_getD {parts : List Bytes} {size : Nat} (length : parts.length = size) :
    (List.range size).map (fun i => parts.getD i []) = parts := by
  apply List.ext_getElem
  · simp [length]
  · intro i first snd
    rw [List.getElem_map, List.getElem_range, List.getD_eq_getElem _ _ snd]

theorem Holds.flatten (h : stream.Holds arrived k frame) (sound : frame.Sound)
    (hin : k < stream.frames) (whole : stream.Complete arrived k) :
    frame.parts.flatten = (stream.unitAt k).bytes := by
  rw [Stream.complete_iff hin] at whole
  have parts : frame.parts = (List.range (stream.count k)).map (stream.part k) := by
    rw [← range_map_getD (sound.slots.trans h.expected)]
    apply List.map_congr_left
    intro i mem
    have index := List.mem_range.mp mem
    exact h.parts i index (whole i index)
  rw [parts]
  exact flatten_all_chunks (by decide)

theorem Holds.sum_le (h : stream.Holds arrived k frame)
    (slots : frame.parts.length = stream.count k)
    (missing : ∀ i, frame.received.getD i false = false → frame.parts.getD i [] = []) :
    (frame.parts.map List.length).sum ≤ (stream.unitAt k).bytes.length := by
  have all := congrArg List.length (@flatten_all_chunks _ kVideoPacketPayloadBytes
    (stream.unitAt k).bytes (by decide))
  rw [List.length_flatten, List.map_map] at all
  rw [← all, ← range_map_getD slots, List.map_map]
  apply List.sum_le_sum
  intro i mem
  have index := List.mem_range.mp mem
  simp only [Function.comp_apply]
  by_cases has : stream.fragment k i ∈ arrived
  · rw [h.parts i index has]
    exact Nat.le_refl _
  · have absent := Bool.eq_false_iff.mpr (mt (h.received i index).mp has)
    rw [missing i absent]
    exact Nat.zero_le _

theorem Holds.congr {more : List VideoFragment} (h : stream.Holds arrived k frame)
    (same : ∀ i, stream.fragment k i ∈ more ↔ stream.fragment k i ∈ arrived) :
    stream.Holds more k frame where
  repeated := h.repeated
  expected := h.expected
  received := by
    intro i index
    rw [same]
    exact h.received i index
  parts := by
    intro i index has
    exact h.parts i index ((same i).mp has)

theorem started_congr {more : List VideoFragment} (hin : k < stream.frames)
    (same : ∀ i, stream.fragment k i ∈ more ↔ stream.fragment k i ∈ arrived) :
    stream.Started more k ↔ stream.Started arrived k := by
  rw [started_iff hin, started_iff hin]
  simp only [same]

theorem holds_new (hin : k < stream.frames) (notStarted : ¬ stream.Started arrived k)
    (nowUs arrivalOrder : Nat) :
    stream.Holds arrived k (PendingFrame.new (stream.fragment k i) nowUs arrivalOrder) where
  repeated := rfl
  expected := rfl
  received := by
    intro j index
    have absent : stream.fragment k j ∉ arrived := by
      intro has
      exact notStarted ((started_iff hin).mpr ⟨j, index, has⟩)
    have clear : (PendingFrame.new (stream.fragment k i) nowUs arrivalOrder).received.getD j
        false = false := by
      simp only [PendingFrame.new, List.getD_eq_getElem?_getD, List.getElem?_replicate]
      split <;> rfl
    rw [clear]
    simp [absent]
  parts := by
    intro j index has
    exact absurd ((started_iff hin).mpr ⟨j, index, has⟩) notStarted

theorem Holds.store (h : stream.Holds arrived k frame) (sound : frame.Sound)
    (index : i < stream.count k) :
    stream.Holds (arrived ++ [stream.fragment k i]) k (frame.store i (stream.part k i)) where
  repeated := h.repeated
  expected := h.expected
  received := by
    intro j hin
    unfold PendingFrame.store
    rw [List.mem_append, List.mem_singleton]
    by_cases same : i = j
    · rw [← same, getD_set_self (by rw [sound.flags, h.expected]; exact index)]
      exact ⟨fun _ => .inr rfl, fun _ => rfl⟩
    · rw [getD_set_of_ne same, h.received j hin]
      constructor
      · exact .inl
      · intro has
        cases has with
        | inl old => exact old
        | inr new => exact absurd (fragment_injective new).2.symm same
  parts := by
    intro j hin has
    unfold PendingFrame.store
    by_cases same : i = j
    · rw [← same, getD_set_self (by rw [sound.slots, h.expected]; exact index)]
    · rw [getD_set_of_ne same]
      rw [List.mem_append, List.mem_singleton] at has
      cases has with
      | inl old => exact h.parts j hin old
      | inr new => exact absurd (fragment_injective new).2.symm same

/-- There is room in a frame for a part that has not arrived. -/
theorem Holds.store_sound (h : stream.Holds arrived k frame) (sound : frame.Sound)
    (hin : k < stream.frames) (index : i < stream.count k)
    (absent : stream.fragment k i ∉ arrived) :
    frame.totalBytes + (stream.part k i).length ≤ kMaxAccessUnitBytes ∧
      (frame.store i (stream.part k i)).Sound := by
  have want : i < frame.expectedFragments := by
    rw [h.expected]
    exact index
  have free := Bool.eq_false_iff.mpr (mt (h.received i index).mp absent)
  have sum := (h.store sound index).sum_le
    (by rw [PendingFrame.store, List.length_set, sound.slots, h.expected])
    (sound.store_missing _ want)
  have more := sum_set_nil (by rw [sound.slots]; exact want) (sound.missing i free)
    (stream.part k i)
  have bounded := stream.bounded _ (unitAt_mem hin)
  have fits : frame.totalBytes + (stream.part k i).length ≤ kMaxAccessUnitBytes := by
    rw [sound.summed, ← more]
    exact Nat.le_trans sum bounded
  exact ⟨fits, sound.store want free fits⟩

end Stream

end VisionForge.Video
