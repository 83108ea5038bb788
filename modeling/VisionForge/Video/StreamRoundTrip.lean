import VisionForge.Video.Stream

/-! # A stream comes out as it went in

The receiver decodes each datagram, pushes the fragment and drains what is complete.
The invariant ties the frames it keeps to what has arrived, and its cursor to the
frames that are complete from the first one on.
-/

namespace VisionForge.Video

open Lib.Ascii Lib.Chunks Lib.Weights

/-- Pop until nothing is complete; every turn takes a frame. -/
def drain : Nat → AccessUnitReassembler → AccessUnitReassembler × List CompletedAccessUnit
  | 0, reasm => (reasm, [])
  | turns + 1, reasm =>
    match reasm.popCompleted with
    | (reasm, none) => (reasm, [])
    | (reasm, some accessUnit) =>
      let (reasm, more) := drain turns reasm
      (reasm, accessUnit :: more)

/-- One datagram and the time it came. -/
def receive (reasm : AccessUnitReassembler) (arrival : Bytes × Nat) :
    AccessUnitReassembler × List CompletedAccessUnit :=
  match decodeVideoPacket arrival.1 with
  | none => (reasm, [])
  | some fragment =>
    let (reasm, first) := reasm.push fragment arrival.2
    let (reasm, more) := drain reasm.pending.entries.length reasm
    (reasm, first.toList ++ more)

def byteLimit : Nat := 8 * kMaxAccessUnitBytes

structure Tracks (stream : Stream) (arrived : List VideoFragment) (delivered : Nat)
    (reasm : AccessUnitReassembler) : Prop where
  sound : reasm.Sound 8 byteLimit
  epoch : reasm.activeEpoch = some stream.epoch
  deliveredLe : delivered ≤ stream.frames
  cursor : reasm.lastDeliveredSequence =
    if delivered = 0 then none else some (stream.firstSequence + delivered - 1)
  kept : ∀ sequence frame, reasm.pending.lookup sequence = some frame →
    ∃ k, sequence = stream.firstSequence + k ∧ delivered ≤ k ∧ k < stream.frames ∧
      stream.Started arrived k ∧ stream.Holds arrived k frame
  present : ∀ k, delivered ≤ k → k < stream.frames → stream.Started arrived k →
    ∃ frame, reasm.pending.lookup (stream.firstSequence + k) = some frame
  firstStarted : arrived ≠ [] → stream.Started arrived 0
  arrivals : delivered = 0 →
    reasm.nextArrivalOrder = reasm.pending.entries.length ∧
    ∀ sequence frame, reasm.pending.lookup sequence = some frame →
      (frame.arrivalOrder = 0 ↔ sequence = stream.firstSequence)

namespace Tracks

variable {stream : Stream} {arrived : List VideoFragment} {delivered : Nat}
  {reasm : AccessUnitReassembler}

theorem held (h : Tracks stream arrived delivered reasm) {k : Nat} {frame : PendingFrame}
    (found : reasm.pending.lookup (stream.firstSequence + k) = some frame) :
    delivered ≤ k ∧ k < stream.frames ∧ stream.Started arrived k ∧
      stream.Holds arrived k frame := by
  obtain ⟨j, same, rest⟩ := h.kept _ _ found
  have isSame : k = j := by omega
  rw [isSame]
  exact rest

theorem frame_sound (h : Tracks stream arrived delivered reasm) {seq : Nat}
    {frame : PendingFrame} (found : reasm.pending.lookup seq = some frame) :
    frame.Sound :=
  h.sound.frames _ (mem_entries_of_lookup found)

variable (h : Tracks stream arrived delivered reasm)

include h

/-- The frame that may be delivered next is the first one that is not. -/
theorem nextFrame_eq :
    reasm.nextFrame =
      (reasm.pending.lookup (stream.firstSequence + delivered)).map
        (fun frame => ⟨stream.firstSequence + delivered, frame⟩) := by
  unfold AccessUnitReassembler.nextFrame
  rw [h.cursor]
  by_cases none : delivered = 0
  · rw [if_pos none]
    have first : stream.firstSequence + delivered = stream.firstSequence := by omega
    rw [first]
    cases isOldest : reasm.oldest with
    | none =>
      have empty := List.argmin_eq_none.mp isOldest
      have missing : reasm.pending.lookup stream.firstSequence = Option.none := by
        cases found : reasm.pending.lookup stream.firstSequence with
        | none => rfl
        | some frame =>
          have mem := mem_entries_of_lookup found
          rw [empty] at mem
          cases mem
      rw [missing]
      rfl
    | some entry =>
      have mem := AccessUnitReassembler.oldest_mem isOldest
      have found := AccessUnitReassembler.lookup_of_mem mem
      obtain ⟨k, -, -, hin, started, -⟩ := h.kept _ _ found
      have arrivedSome : arrived ≠ [] := by
        intro nothing
        obtain ⟨frag, -, absent⟩ := started
        rw [nothing] at absent
        cases absent
      obtain ⟨frame, firstFound⟩ := h.present 0 (by omega) (by omega)
        (h.firstStarted arrivedSome)
      have orders := (h.arrivals none).2
      have firstOrder := (orders _ _ firstFound).mpr rfl
      have least := List.le_of_mem_argmin (mem_entries_of_lookup firstFound) isOldest
      dsimp only at least
      have isFirst := (orders _ _ found).mp (by omega)
      obtain ⟨sequence, oldestFrame⟩ := entry
      rw [← isFirst, found]
      rfl
  · rw [if_neg none]
    dsimp only
    unfold advanceVideoFrameSequence
    have next : stream.firstSequence + delivered - 1 + 1 = stream.firstSequence + delivered := by
      omega
    split
    · -- the last sequence has no successor, and the stream has no frame beyond it
      have beyond : reasm.pending.lookup (stream.firstSequence + delivered) = Option.none := by
        cases found : reasm.pending.lookup (stream.firstSequence + delivered) with
        | none => rfl
        | some frame =>
          have hin := (h.held found).2.1
          have sequences := stream.sequences
          unfold Stream.frames at hin
          omega
      rw [beyond]
      rfl
    · rw [Option.bind_some, next]

theorem advance (hin : delivered < stream.frames) :
    Tracks stream arrived (delivered + 1)
      (({ reasm with
          lastDeliveredSequence := some (stream.firstSequence + delivered) }).erasePending
        (stream.firstSequence + delivered) false) := by
  have moved : ({ reasm with
      lastDeliveredSequence := some (stream.firstSequence + delivered) } :
        AccessUnitReassembler).Sound 8 byteLimit := h.sound.congr rfl rfl rfl rfl rfl
  have pend := AccessUnitReassembler.erasePending_pending
    { reasm with lastDeliveredSequence := some (stream.firstSequence + delivered) }
    (stream.firstSequence + delivered) false
  have fields (start : AccessUnitReassembler) (sequence : Nat) :
      (start.erasePending sequence false).activeEpoch = start.activeEpoch ∧
        (start.erasePending sequence false).lastDeliveredSequence =
          start.lastDeliveredSequence := by
    unfold AccessUnitReassembler.erasePending
    split <;> exact ⟨rfl, rfl⟩
  have others {sequence : Nat} (other : sequence ≠ stream.firstSequence + delivered) :
      (reasm.pending.erase (stream.firstSequence + delivered)).lookup sequence =
        reasm.pending.lookup sequence := AList.lookup_erase_ne other
  refine ⟨moved.erase _ _, (fields _ _).1.trans h.epoch, hin, ?_, ?_, ?_, h.firstStarted, ?_⟩
  · rw [(fields _ _).2, if_neg (Nat.succ_ne_zero delivered)]
    rfl
  · intro sequence frame found
    rw [pend] at found
    by_cases same : sequence = stream.firstSequence + delivered
    · rw [same, AList.lookup_erase] at found
      cases found
    · rw [others same] at found
      obtain ⟨k, isSequence, later, rest⟩ := h.kept _ _ found
      exact ⟨k, isSequence, by omega, rest⟩
  · intro k later bound started
    rw [pend, others (by omega)]
    exact h.present k (by omega) bound started
  · intro zero
    cases zero

/-- The one thing that can be popped is the next frame, once it is complete. -/
theorem popCompleted_eq :
    (delivered < stream.frames ∧ stream.Complete arrived delivered ∧
      reasm.popCompleted =
        (({ reasm with
            lastDeliveredSequence := some (stream.firstSequence + delivered) }).erasePending
          (stream.firstSequence + delivered) false, some (stream.completedAt delivered))) ∨
    ((delivered < stream.frames → ¬ stream.Complete arrived delivered) ∧
      reasm.popCompleted = (reasm, none)) := by
  unfold AccessUnitReassembler.popCompleted
  rw [h.epoch, h.nextFrame_eq]
  cases found : reasm.pending.lookup (stream.firstSequence + delivered) with
  | none =>
    right
    refine ⟨?_, rfl⟩
    intro hin whole
    obtain ⟨frame, isThere⟩ := h.present delivered (Nat.le_refl _) hin
      (Stream.started_of_complete hin whole)
    rw [found] at isThere
    cases isThere
  | some frame =>
    obtain ⟨-, hin, -, holds⟩ := h.held found
    have sound := h.frame_sound found
    dsimp only [Option.map_some]
    by_cases whole : stream.Complete arrived delivered
    · left
      refine ⟨hin, whole, ?_⟩
      rw [if_neg (not_not.mpr ((holds.complete_iff sound hin).mpr whole)),
        holds.flatten sound hin whole, holds.repeated]
      rfl
    · right
      refine ⟨fun _ => whole, ?_⟩
      rw [if_pos (mt (holds.complete_iff sound hin).mp whole)]

/-- Draining returns the frames from the cursor to the first incomplete one. -/
theorem drain_spec {turns : Nat} (enough : reasm.pending.entries.length ≤ turns) :
    ∃ reached, delivered ≤ reached ∧
      Tracks stream arrived reached (drain turns reasm).1 ∧
      (reached < stream.frames → ¬ stream.Complete arrived reached) ∧
      (drain turns reasm).2 =
        (List.range' delivered (reached - delivered)).map stream.completedAt := by
  induction turns generalizing reasm delivered with
  | zero =>
    refine ⟨delivered, Nat.le_refl _, h, ?_, by simp [drain]⟩
    intro inside whole
    obtain ⟨frame, found⟩ := h.present delivered (Nat.le_refl _) inside
      (Stream.started_of_complete inside whole)
    have mem := mem_entries_of_lookup found
    rw [List.length_eq_zero_iff.mp (Nat.le_zero.mp enough)] at mem
    cases mem
  | succ turns ih =>
    unfold drain
    cases h.popCompleted_eq with
    | inr nothing =>
      rw [nothing.2]
      exact ⟨delivered, Nat.le_refl _, h, nothing.1, by simp⟩
    | inl popped =>
      obtain ⟨inside, whole, isPopped⟩ := popped
      rw [isPopped]
      have next := h.advance inside
      obtain ⟨frame, found⟩ := h.present delivered (Nat.le_refl _) inside
        (Stream.started_of_complete inside whole)
      have size := @total_erase _ _ _ (fun _ => 1) _ _ _ found
      rw [← length_entries, ← length_entries] at size
      have fewer := AccessUnitReassembler.erasePending_pending
        { reasm with
          lastDeliveredSequence := some (stream.firstSequence + delivered) }
        (stream.firstSequence + delivered) false
      obtain ⟨reached, after, tracks, stuck, outputs⟩ := ih next (by
        rw [fewer]
        dsimp only
        omega)
      refine ⟨reached, by omega, tracks, stuck, ?_⟩
      have split : reached - delivered = reached - (delivered + 1) + 1 := by omega
      dsimp only
      rw [outputs, split, List.range'_succ, List.map_cons]

omit h

theorem idle (h : Tracks stream arrived delivered reasm) {more : List VideoFragment}
    (same : ∀ j i, delivered ≤ j → (stream.fragment j i ∈ more ↔ stream.fragment j i ∈ arrived))
    (firstStarted : more ≠ [] → stream.Started more 0) :
    Tracks stream more delivered reasm where
  sound := h.sound
  epoch := h.epoch
  deliveredLe := h.deliveredLe
  cursor := h.cursor
  kept := by
    intro seq frame found
    obtain ⟨k, isSequence, later, hin, started, holds⟩ := h.kept _ _ found
    have sameHere := fun i => same k i later
    exact ⟨k, isSequence, later, hin, (Stream.started_congr hin sameHere).mpr started,
      holds.congr sameHere⟩
  present := by
    intro k later hin started
    exact h.present k later hin
      ((Stream.started_congr hin (fun i => same k i later)).mp started)
  firstStarted := firstStarted
  arrivals := h.arrivals

/-- The frame of a fragment still to be delivered, before the fragment is stored. -/
structure Place (stream : Stream) (arrived : List VideoFragment) (delivered k : Nat)
    (before after : AccessUnitReassembler) (frame : PendingFrame) : Prop where
  emplaced : AccessUnitReassembler.Emplaced 8 byteLimit before after (stream.firstSequence + k) frame
  holds : stream.Holds arrived k frame
  epoch : after.activeEpoch = before.activeEpoch
  cursor : after.lastDeliveredSequence = before.lastDeliveredSequence
  arrivals : delivered = 0 → after.nextArrivalOrder = after.pending.entries.length ∧
    (frame.arrivalOrder = 0 ↔ k = 0)

theorem place (h : Tracks stream arrived delivered reasm) {k i : Nat}
    (later : delivered ≤ k) (hin : k < stream.frames) (first : arrived = [] → k = 0)
    (nowUs : Nat) :
    Place stream arrived delivered k reasm
      (reasm.emplace (stream.fragment k i) nowUs).1
      (reasm.emplace (stream.fragment k i) nowUs).2 := by
  have emplaced := h.sound.emplace (stream.fragment k i) nowUs
  have isSequence : (stream.fragment k i).identity.frameSequence = stream.firstSequence + k := rfl
  unfold AccessUnitReassembler.emplace at emplaced ⊢
  rw [isSequence] at emplaced ⊢
  cases found : reasm.pending.lookup (stream.firstSequence + k) with
  | some frame =>
    rw [found] at emplaced
    refine ⟨emplaced, (h.held found).2.2.2, rfl, rfl, ?_⟩
    intro none
    obtain ⟨next, orders⟩ := h.arrivals none
    exact ⟨next, (orders _ _ found).trans (by omega)⟩
  | none =>
    have notStarted : ¬ stream.Started arrived k := by
      intro started
      obtain ⟨frame, isThere⟩ := h.present k later hin started
      rw [found] at isThere
      cases isThere
    rw [found] at emplaced
    refine ⟨emplaced, Stream.holds_new hin notStarted _ _, rfl, rfl, ?_⟩
    intro none
    obtain ⟨next, orders⟩ := h.arrivals none
    have few := h.sound.fewFrames
    have size : (reasm.pending.insert (stream.firstSequence + k)
        (PendingFrame.new (stream.fragment k i) nowUs
          reasm.nextArrivalOrder)).entries.length =
          reasm.pending.entries.length + 1 := by
      rw [length_entries, total_insert, erase_of_lookup_eq_none found, ← length_entries]
      omega
    rw [size, next]
    refine ⟨Nat.mod_eq_of_lt (by omega), ?_⟩
    show reasm.pending.entries.length = 0 ↔ k = 0
    constructor
    · intro empty
      -- the first frame would be kept if anything had arrived
      apply first
      by_contra some
      obtain ⟨frame, isThere⟩ := h.present 0 (by omega) (by omega) (h.firstStarted some)
      have mem := mem_entries_of_lookup isThere
      rw [List.length_eq_zero_iff.mp empty] at mem
      cases mem
    · intro isFirst
      rw [List.length_eq_zero_iff, List.eq_nil_iff_forall_not_mem]
      intro entry mem
      have isThere := AccessUnitReassembler.lookup_of_mem mem
      obtain ⟨j, -, -, -, started, -⟩ := h.kept _ _ isThere
      obtain ⟨frag, -, has⟩ := started
      have begun := h.firstStarted (List.ne_nil_of_mem has)
      rw [isFirst] at notStarted
      exact notStarted begun

def stored (after : AccessUnitReassembler) (statistics : Statistics) (sequence : Nat)
    (frame : PendingFrame) (size : Nat) : AccessUnitReassembler :=
  { after with
    statistics := statistics
    pending := after.pending.insert sequence frame
    inflightBytes := after.inflightBytes + size }

theorem fragment_mem_append {k i j l : Nat} (other : j ≠ k) :
    stream.fragment j l ∈ arrived ++ [stream.fragment k i] ↔ stream.fragment j l ∈ arrived := by
  rw [List.mem_append, List.mem_singleton]
  constructor
  · intro has
    cases has with
    | inl old => exact old
    | inr new => exact absurd (Stream.fragment_injective new).1 other
  · exact .inl

theorem started_append {k j : Nat} {frag : VideoFragment} (hin : j < stream.frames)
    (started : stream.Started arrived j ∨ ∃ i < stream.count k, j = k ∧
      frag = stream.fragment k i) : stream.Started (arrived ++ [frag]) j := by
  cases started with
  | inl old =>
    obtain ⟨known, mem, has⟩ := old
    exact ⟨known, mem, List.mem_append_left _ has⟩
  | inr new =>
    obtain ⟨i, index, rfl, rfl⟩ := new
    exact (Stream.started_iff hin).mpr ⟨i, index, List.mem_append_right _ List.mem_cons_self⟩

/-- The frames kept while a fragment comes in are all in flight. -/
theorem length_le_inFlight (h : Tracks stream arrived delivered reasm) {k i : Nat}
    {after : AccessUnitReassembler} {frame : PendingFrame}
    (place : Place stream arrived delivered k reasm after frame) (later : delivered ≤ k)
    (hin : k < stream.frames) (index : i < stream.count k)
    (stuck : delivered < stream.frames → ¬ stream.Complete arrived delivered) :
    after.pending.entries.length ≤ (stream.inFlight arrived (stream.fragment k i)).length := by
  have flying {j : Nat} (notYet : delivered ≤ j) (bound : j < stream.frames)
      (started : stream.Started (arrived ++ [stream.fragment k i]) j) :
      j ∈ stream.inFlight arrived (stream.fragment k i) := by
    unfold Stream.inFlight
    rw [List.mem_filter, List.mem_range, decide_eq_true_eq]
    refine ⟨bound, started, ?_⟩
    intro deliverable
    exact stuck (by omega) (deliverable delivered (List.mem_range.mpr (by omega)))
  have subset : after.pending.keys ⊆
      (stream.inFlight arrived (stream.fragment k i)).map (stream.firstSequence + ·) := by
    intro seq mem
    rw [List.mem_map]
    by_cases same : seq = stream.firstSequence + k
    · exact ⟨k, flying later hin (started_append hin (.inr ⟨i, index, rfl, rfl⟩)), same.symm⟩
    · obtain ⟨held, found⟩ := Option.isSome_iff_exists.mp (AList.lookup_isSome.mpr mem)
      rw [← AList.lookup_erase_ne same, place.emplaced.rest, AList.lookup_erase_ne same] at found
      obtain ⟨j, isSequence, notYet, bound, started, -⟩ := h.kept _ _ found
      exact ⟨j, flying notYet bound (started_append (k := k) bound (.inl started)), isSequence.symm⟩
  have length := (List.subperm_of_subset after.pending.keys_nodup subset).length_le
  rw [List.length_map] at length
  have keys : after.pending.keys.length = after.pending.entries.length := List.length_map _
  omega

theorem store (h : Tracks stream arrived delivered reasm) {k i : Nat}
    {after : AccessUnitReassembler} {frame : PendingFrame}
    (place : Place stream arrived delivered k reasm after frame) (later : delivered ≤ k)
    (hin : k < stream.frames) (index : i < stream.count k)
    (absent : stream.fragment k i ∉ arrived) (first : arrived = [] → k = 0)
    (stuck : delivered < stream.frames → ¬ stream.Complete arrived delivered)
    (room : (stream.inFlight arrived (stream.fragment k i)).length ≤ 8) (statistics : Statistics) :
    Tracks stream (arrived ++ [stream.fragment k i]) delivered
      (stored after statistics (stream.firstSequence + k) (frame.store i (stream.part k i))
        (stream.part k i).length) := by
  obtain ⟨fits, soundFrame⟩ := place.holds.store_sound place.emplaced.frame_sound hin index absent
  obtain ⟨accounts, begun⟩ := place.emplaced.store h.sound soundFrame statistics
  have sameSize : (after.pending.insert (stream.firstSequence + k)
      (frame.store i (stream.part k i))).entries.length = after.pending.entries.length := by
    have size := @total_erase _ _ _ (fun _ => 1) _ _ _ place.emplaced.found
    rw [length_entries, total_insert, length_entries, size]
  have few := (h.length_le_inFlight place later hin index stuck).trans room
  have found {seq : Nat} {held : PendingFrame}
      (isHeld : (after.pending.insert (stream.firstSequence + k)
        (frame.store i (stream.part k i))).lookup seq = some held) :
      (seq = stream.firstSequence + k ∧ held = frame.store i (stream.part k i)) ∨
        (seq ≠ stream.firstSequence + k ∧
          reasm.pending.lookup seq = some held) := by
    by_cases same : seq = stream.firstSequence + k
    · rw [same, AList.lookup_insert] at isHeld
      exact .inl ⟨same, (Option.some.inj isHeld).symm⟩
    · rw [AList.lookup_insert_ne same, ← AList.lookup_erase_ne same, place.emplaced.rest,
        AList.lookup_erase_ne same] at isHeld
      exact .inr ⟨same, isHeld⟩
  refine ⟨⟨accounts, begun, ?_, ?_⟩, place.epoch.trans h.epoch, h.deliveredLe,
    place.cursor.trans h.cursor, ?_, ?_, ?_, ?_⟩
  · exact sameSize.le.trans few
  · have sum := accounts.inflight
    have bound : total PendingFrame.totalBytes (after.pending.insert (stream.firstSequence + k)
        (frame.store i (stream.part k i))) ≤
          (after.pending.insert (stream.firstSequence + k)
            (frame.store i (stream.part k i))).entries.length * kMaxAccessUnitBytes := by
      have each := List.sum_le_card_nsmul ((after.pending.insert (stream.firstSequence + k)
        (frame.store i (stream.part k i))).entries.map (fun entry => entry.2.totalBytes))
        kMaxAccessUnitBytes (by
          intro size mem
          obtain ⟨entry, isEntry, rfl⟩ := List.mem_map.mp mem
          exact (accounts.frames entry isEntry).bounded)
      rw [List.length_map] at each
      exact each
    rw [sameSize] at bound
    show after.inflightBytes + (stream.part k i).length ≤ byteLimit
    have all := Nat.mul_le_mul_right kMaxAccessUnitBytes few
    unfold byteLimit
    dsimp only at sum
    omega
  · intro seq held isHeld
    cases found isHeld with
    | inl here =>
      refine ⟨k, here.1, later, hin, started_append hin (.inr ⟨i, index, rfl, rfl⟩), ?_⟩
      rw [here.2]
      exact place.holds.store place.emplaced.frame_sound index
    | inr elsewhere =>
      obtain ⟨j, isSequence, notYet, bound, started, holds⟩ := h.kept _ _ elsewhere.2
      have other : j ≠ k := by
        intro same
        exact elsewhere.1 (by rw [isSequence, same])
      exact ⟨j, isSequence, notYet, bound, started_append (k := k) bound (.inl started),
        holds.congr (fun l => fragment_mem_append other)⟩
  · intro j notYet bound started
    by_cases same : j = k
    · rw [same]
      exact ⟨_, AList.lookup_insert _⟩
    · have apart : stream.firstSequence + j ≠ stream.firstSequence + k := by omega
      obtain ⟨held, isHeld⟩ := h.present j notYet bound
        ((Stream.started_congr bound (fun l => fragment_mem_append same)).mp started)
      refine ⟨held, ?_⟩
      show (after.pending.insert (stream.firstSequence + k) _).lookup _ = _
      rw [AList.lookup_insert_ne apart, ← AList.lookup_erase_ne apart, place.emplaced.rest,
        AList.lookup_erase_ne apart]
      exact isHeld
  · intro _
    by_cases nothing : arrived = []
    · exact started_append (by omega) (.inr ⟨i, index, (first nothing).symm, rfl⟩)
    · exact started_append (k := k) (by omega) (.inl (h.firstStarted nothing))
  · intro none
    obtain ⟨next, order⟩ := place.arrivals none
    refine ⟨next.trans sameSize.symm, ?_⟩
    intro seq held isHeld
    cases found isHeld with
    | inl here =>
      rw [here.1, here.2]
      show frame.arrivalOrder = 0 ↔ _
      omega
    | inr elsewhere => exact (h.arrivals none).2 _ _ elsewhere.2

theorem receivePayload_eq {frag : VideoFragment} (encodable : frag.Encodable)
    (on : reasm.activeEpoch = some frag.identity.streamEpoch) (nowUs : Nat) :
    reasm.receivePayload frag false nowUs =
      if reasm.lastDeliveredSequence.any (fun last =>
          !videoFrameSequenceIsNewer frag.identity.frameSequence last) then
        (reasm, true)
      else reasm.receivePending frag false nowUs := by
  unfold AccessUnitReassembler.receivePayload AccessUnitReassembler.activateFirstEpoch
  rw [encodable.wellFormed, if_neg Bool.false_ne_true, on]
  dsimp only
  rw [on]
  simp only [Bool.not_true, Bool.false_eq_true, if_false, ne_eq, not_true_eq_false]
  rfl

theorem newer_iff (h : Tracks stream arrived delivered reasm) (k : Nat) :
    reasm.lastDeliveredSequence.any (fun last =>
      !videoFrameSequenceIsNewer (stream.firstSequence + k) last) = decide (k < delivered) := by
  rw [h.cursor]
  split
  · rename_i none
    simp [none]
  · simp only [Option.any_some, videoFrameSequenceIsNewer]
    rw [← decide_not, decide_eq_decide]
    omega

theorem discardWhileOverBudget_eq (turns : Nat) (under : reasm.overBudget = false) :
    AccessUnitReassembler.discardWhileOverBudget turns reasm = reasm := by
  cases turns with
  | zero => rfl
  | succ turns =>
    unfold AccessUnitReassembler.discardWhileOverBudget
    rw [under]
    rfl

theorem not_overBudget (h : Tracks stream arrived delivered reasm) : reasm.overBudget = false := by
  unfold AccessUnitReassembler.overBudget
  rw [Bool.or_eq_false_iff, decide_eq_false_iff_not, decide_eq_false_iff_not, h.sound.framesAre,
    h.sound.bytesAre]
  exact ⟨Nat.not_lt.mpr h.sound.fewFrames, Nat.not_lt.mpr h.sound.fewBytes⟩

/-- A pushed fragment is remembered, and then whatever is complete is popped. -/
theorem push_spec (h : Tracks stream arrived delivered reasm) {k i : Nat}
    (hin : k < stream.frames) (index : i < stream.count k) (first : arrived = [] → k = 0)
    (stuck : delivered < stream.frames → ¬ stream.Complete arrived delivered)
    (room : (stream.inFlight arrived (stream.fragment k i)).length ≤ 8) (nowUs : Nat) :
    ∃ next, reasm.push (stream.fragment k i) nowUs = next.popCompleted ∧
      Tracks stream (arrived ++ [stream.fragment k i]) delivered next := by
  have begun : arrived ++ [stream.fragment k i] ≠ [] →
      stream.Started (arrived ++ [stream.fragment k i]) 0 := by
    intro _
    by_cases nothing : arrived = []
    · exact started_append (by omega) (.inr ⟨i, index, (first nothing).symm, rfl⟩)
    · exact started_append (k := k) (by omega) (.inl (h.firstStarted nothing))
  have isSequence : (stream.fragment k i).identity.frameSequence = stream.firstSequence + k := rfl
  unfold AccessUnitReassembler.push AccessUnitReassembler.pushPayload
  rw [receivePayload_eq (Stream.fragment_encodable hin index) h.epoch, isSequence, h.newer_iff]
  by_cases late : k < delivered
  · rw [if_pos (decide_eq_true late)]
    refine ⟨reasm, rfl, h.idle ?_ begun⟩
    intro j l notYet
    exact fragment_mem_append (by omega)
  rw [decide_eq_false late, if_neg Bool.false_ne_true]
  have place := h.place (i := i) (Nat.not_lt.mp late) hin first nowUs
  unfold AccessUnitReassembler.receivePending
  generalize reasm.emplace (stream.fragment k i) nowUs = outcome at place ⊢
  obtain ⟨after, frame⟩ := outcome
  dsimp only at place ⊢
  have soundFrame := place.emplaced.frame_sound
  rw [if_neg (by
    rw [not_or, not_not, not_not]
    exact ⟨place.holds.expected, place.holds.repeated⟩)]
  have isIndex : (stream.fragment k i).fragmentIndex = i := rfl
  have isPart : (stream.fragment k i).accessUnitPart = stream.part k i := rfl
  rw [isIndex, isPart, isSequence]
  by_cases has : stream.fragment k i ∈ arrived
  · have present := (place.holds.received i index).mpr has
    have unchanged : after = reasm := by
      by_contra changed
      rw [place.emplaced.old changed] at present
      cases present
    rw [if_pos present, if_neg (not_not.mpr (place.holds.parts i index has)), unchanged]
    refine ⟨reasm, rfl, h.idle ?_ begun⟩
    intro j l _
    rw [List.mem_append, List.mem_singleton]
    constructor
    · intro mem
      cases mem with
      | inl old => exact old
      | inr new =>
        rw [new]
        exact has
    · exact .inl
  · have tracks := h.store place (Nat.not_lt.mp late) hin index has first stuck room
    obtain ⟨fits, -⟩ := place.holds.store_sound soundFrame hin index has
    rw [if_neg (mt (place.holds.received i index).mp has), if_neg]
    · have here := tracks (after.countStored false (stream.part k i).length).statistics
      have isUnder := here.not_overBudget
      exact ⟨_, congrArg AccessUnitReassembler.popCompleted
        (discardWhileOverBudget_eq _ isUnder), here⟩
    · have bytes := (tracks {}).sound.fewBytes
      have room : after.inflightBytes + (stream.part k i).length ≤ byteLimit := bytes
      rw [place.emplaced.accounts.bytesAre]
      omega

theorem receive_spec (h : Tracks stream arrived delivered reasm) {k i : Nat}
    (hin : k < stream.frames) (index : i < stream.count k) (first : arrived = [] → k = 0)
    (stuck : delivered < stream.frames → ¬ stream.Complete arrived delivered)
    (room : (stream.inFlight arrived (stream.fragment k i)).length ≤ 8) (nowUs : Nat) :
    ∃ reached, delivered ≤ reached ∧
      Tracks stream (arrived ++ [stream.fragment k i]) reached
        (receive reasm (encodeVideoPacket (stream.fragment k i), nowUs)).1 ∧
      (reached < stream.frames →
        ¬ stream.Complete (arrived ++ [stream.fragment k i]) reached) ∧
      (receive reasm (encodeVideoPacket (stream.fragment k i), nowUs)).2 =
        (List.range' delivered (reached - delivered)).map stream.completedAt := by
  obtain ⟨next, pushed, tracks⟩ := h.push_spec hin index first stuck room nowUs
  unfold receive
  rw [decode_encodeVideoPacket (Stream.fragment_encodable hin index)]
  dsimp only
  rw [pushed]
  cases tracks.popCompleted_eq with
  | inr nothing =>
    rw [nothing.2]
    exact tracks.drain_spec (Nat.le_refl _)
  | inl popped =>
    obtain ⟨more, whole, isPopped⟩ := popped
    rw [isPopped]
    obtain ⟨reached, after, reachedTracks, reachedStuck, outputs⟩ :=
      (tracks.advance more).drain_spec (Nat.le_refl _)
    refine ⟨reached, by omega, reachedTracks, reachedStuck, ?_⟩
    have split : reached - delivered = reached - (delivered + 1) + 1 := by omega
    rw [outputs, split, List.range'_succ, List.map_cons]
    rfl

end Tracks

section

variable (stream : Stream)

def activated : AccessUnitReassembler :=
  (AccessUnitReassembler.default.activateEpoch stream.epoch none).1

theorem activated_eq : AccessUnitReassembler.default.activateFirstEpoch stream.epoch =
    (activated stream, true) ∧ (activated stream).activeEpoch = some stream.epoch := by
  have valid := stream.epochValid
  unfold AccessUnitReassembler.activateFirstEpoch activated AccessUnitReassembler.activateEpoch
  simp only [AccessUnitReassembler.default, AccessUnitReassembler.new,
    AccessUnitReassembler.isRetiredEpoch, valid]
  exact ⟨rfl, rfl⟩

theorem receive_default {frag : VideoFragment} (encodable : frag.Encodable)
    (sameEpoch : frag.identity.streamEpoch = stream.epoch) (nowUs : Nat) :
    receive AccessUnitReassembler.default (encodeVideoPacket frag, nowUs) =
      receive (activated stream) (encodeVideoPacket frag, nowUs) := by
  have admitted : (activated stream).activateFirstEpoch stream.epoch = (activated stream, true) := by
    unfold AccessUnitReassembler.activateFirstEpoch
    rw [(activated_eq stream).2]
  have same : AccessUnitReassembler.default.push frag nowUs =
      (activated stream).push frag nowUs := by
    unfold AccessUnitReassembler.push AccessUnitReassembler.pushPayload
      AccessUnitReassembler.receivePayload
    rw [encodable.wellFormed, if_neg Bool.false_ne_true, if_neg Bool.false_ne_true, sameEpoch,
      (activated_eq stream).1, admitted]
  unfold receive
  rw [decode_encodeVideoPacket encodable]
  dsimp only
  rw [same]

theorem tracks_activated : Tracks stream [] 0 (activated stream) := by
  have sound : (activated stream).Sound 8 byteLimit :=
    (AccessUnitReassembler.new_sound 8 byteLimit).activateEpoch stream.epoch none
  have empty : (activated stream).pending = ∅ ∧ (activated stream).lastDeliveredSequence = none ∧
      (activated stream).nextArrivalOrder = 0 := by
    have valid := stream.epochValid
    unfold activated AccessUnitReassembler.activateEpoch
    simp only [AccessUnitReassembler.default, AccessUnitReassembler.new,
      AccessUnitReassembler.isRetiredEpoch, valid]
    refine ⟨rfl, rfl, ?_⟩
    unfold AccessUnitReassembler.rememberRetiredEpoch
    simp only [Bool.not_true, Bool.or_self, Option.any_none, Bool.false_eq_true, if_false,
      reduceCtorEq]
    split
    · split <;> rfl
    · rfl
  refine ⟨sound, (activated_eq stream).2, Nat.zero_le _, empty.2.1, ?_, ?_, ?_, ?_⟩
  · intro seq frame found
    rw [empty.1] at found
    cases found
  · intro k _ _ started
    obtain ⟨frag, -, has⟩ := started
    cases has
  · intro some
    exact absurd rfl some
  · intro _
    rw [empty.1, empty.2.2]
    refine ⟨rfl, ?_⟩
    intro seq frame found
    cases found

/-- What a receiver returns for fragments that come as datagrams, each at some time. -/
def returned (reasm : AccessUnitReassembler) (arrivals : List (VideoFragment × Nat)) :
    List CompletedAccessUnit :=
  (Lib.Run.trace receive reasm
    (arrivals.map (fun arrival => (encodeVideoPacket arrival.1, arrival.2)))).flatMap Prod.snd

variable {stream}

theorem not_complete_nil {k : Nat} (hin : k < stream.frames) : ¬ stream.Complete [] k := by
  intro whole
  have has := (Stream.complete_iff hin).mp whole 0 (Stream.count_pos hin)
  cases has

/-- After any part of the arrivals the complete frames have been returned. -/
theorem tracks_run {arrivals : List (VideoFragment × Nat)}
    (delivery : stream.Delivery (arrivals.map Prod.fst))
    (pre after : List (VideoFragment × Nat)) (split : arrivals = pre ++ after) :
    ∃ delivered,
      Tracks stream (pre.map Prod.fst) delivered
        (Lib.Run.exec receive (activated stream)
          (pre.map (fun arrival => (encodeVideoPacket arrival.1, arrival.2)))) ∧
      (delivered < stream.frames → ¬ stream.Complete (pre.map Prod.fst) delivered) ∧
      returned (activated stream) pre = (List.range delivered).map stream.completedAt := by
  induction pre using List.reverseRecOn generalizing after with
  | nil => exact ⟨0, tracks_activated stream, not_complete_nil, rfl⟩
  | append_singleton pre arrival ih =>
    obtain ⟨delivered, tracks, stuck, outputs⟩ := ih (arrival :: after) (by simp [split])
    obtain ⟨frag, nowUs⟩ := arrival
    have mem : frag ∈ arrivals.map Prod.fst := by simp [split]
    obtain ⟨k, isFrame, isFragment⟩ := delivery.genuine frag mem
    have hin := List.mem_range.mp isFrame
    obtain ⟨i, index, rfl⟩ := (Stream.mem_fragments hin).mp isFragment
    have first : pre.map Prod.fst = [] → k = 0 := by
      intro nothing
      have noneBefore := List.map_eq_nil_iff.mp nothing
      have isFirst := delivery.first (stream.fragment k i) (by simp [split, noneBefore])
      obtain ⟨l, -, same⟩ := (Stream.mem_fragments (by omega)).mp isFirst
      exact (Stream.fragment_injective same).1.symm
    have room := delivery.room (pre.map Prod.fst) (stream.fragment k i)
      (after.map Prod.fst) (by simp [split])
    obtain ⟨reached, later, reachedTracks, reachedStuck, more⟩ :=
      tracks.receive_spec hin index first stuck room nowUs
    refine ⟨reached, ?_, ?_, ?_⟩
    · rw [List.map_append, List.map_append, Lib.Run.exec_append]
      exact reachedTracks
    · rw [List.map_append]
      exact reachedStuck
    · unfold returned at outputs ⊢
      have both : List.range reached =
          List.range delivered ++ List.range' delivered (reached - delivered) := by
        have joined := @List.range'_append_1 0 delivered (reached - delivered)
        rw [Nat.zero_add, Nat.add_sub_cancel' later] at joined
        rw [List.range_eq_range', List.range_eq_range']
        exact joined.symm
      rw [List.map_append, Lib.Run.trace_append, List.flatMap_append, outputs, both,
        List.map_append]
      congr 1
      simp only [List.map_cons, List.map_nil, Lib.Run.trace_cons, Lib.Run.trace_nil,
        List.flatMap_cons, List.flatMap_nil, List.append_nil]
      exact more

end

/-- Fragmented, encoded, delivered in any order with any repetition, decoded and
    reassembled, a stream comes out as it went in. -/
theorem stream_round_trip (stream : Stream) (arrivals : List (VideoFragment × Nat))
    (delivery : stream.Delivery (arrivals.map Prod.fst)) :
    returned AccessUnitReassembler.default arrivals = stream.completed := by
  obtain ⟨delivered, tracks, stuck, outputs⟩ := tracks_run delivery arrivals [] (by simp)
  have all : delivered = stream.frames := by
    by_contra short
    have inside : delivered < stream.frames := by
      have := tracks.deliveredLe
      omega
    exact stuck inside (delivery.lossless delivered (List.mem_range.mpr inside))
  have same : returned AccessUnitReassembler.default arrivals =
      returned (activated stream) arrivals := by
    cases arrivals with
    | nil => rfl
    | cons arrival rest =>
      obtain ⟨k, isFrame, isFragment⟩ := delivery.genuine arrival.1 (by simp)
      have inside := List.mem_range.mp isFrame
      obtain ⟨i, index, isThis⟩ := (Stream.mem_fragments inside).mp isFragment
      have encodable := Stream.fragment_encodable inside index
      rw [isThis] at encodable
      have sameEpoch : arrival.1.identity.streamEpoch = stream.epoch := by
        rw [← isThis]
        rfl
      unfold returned
      rw [List.map_cons, Lib.Run.trace_cons, Lib.Run.trace_cons,
        receive_default stream encodable sameEpoch]
  rw [same, outputs, all]
  rfl

/-- The second frame has two fragments. -/
def shortStream : Stream where
  epoch := 1
  firstSequence := 2 ^ 32 - 3
  units := [{ bytes := [1] }, { bytes := List.replicate 1345 2, repeatedContent := true },
    { bytes := [4] }]
  epochValid := by decide
  sequences := by decide
  nonempty := by decide
  bounded := by decide +kernel

/-- The second frame comes in the wrong order, overtaken by the last one, and in part again. -/
def shuffled : List (VideoFragment × Nat) :=
  [(shortStream.fragment 0 0, 0), (shortStream.fragment 1 1, 1), (shortStream.fragment 2 0, 5),
    (shortStream.fragment 1 0, 3), (shortStream.fragment 1 1, 9)]

theorem shuffled_stream_is_returned :
    shortStream.Delivery (shuffled.map Prod.fst) ∧
      returned AccessUnitReassembler.default shuffled = shortStream.completed := by
  have delivery : shortStream.Delivery (shuffled.map Prod.fst) := by
    refine ⟨by decide +kernel, by decide +kernel, by decide +kernel, ?_⟩
    intro before frag after _
    have few : (shortStream.inFlight before frag).length ≤ shortStream.frames := by
      unfold Stream.inFlight
      have filtered := List.length_filter_le
        (fun k => decide (shortStream.Started (before ++ [frag]) k ∧
          ¬ shortStream.Deliverable before k)) (List.range shortStream.frames)
      rw [List.length_range] at filtered
      exact filtered
    exact Nat.le_trans few (by decide)
  exact ⟨delivery, stream_round_trip shortStream shuffled delivery⟩

end VisionForge.Video
