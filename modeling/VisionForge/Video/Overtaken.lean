import VisionForge.Video.DeliveryOrder

/-! # Frames behind the cursor

A fragment is compared with the cursor when it comes, and the cursor moves when a frame
is delivered. Before the first delivery of an epoch there is nothing to compare with,
and the frame that came first is delivered even if an older one is still pending.
-/

namespace VisionForge.Video

open Lib.Weights

namespace AccessUnitReassembler

/-- Every pending frame is newer than what was delivered last. -/
def NothingBehind (reasm : AccessUnitReassembler) : Prop :=
  ∀ last, reasm.lastDeliveredSequence = some last →
    ∀ entry ∈ reasm.pending.entries, videoFrameSequenceIsNewer entry.1 last = true

/-- Where nothing was delivered yet and the frame that came first is complete, no older
    frame is pending. -/
def FirstIsLeast (reasm : AccessUnitReassembler) : Prop :=
  reasm.lastDeliveredSequence = none → ∀ first, reasm.oldest = some first →
    first.2.receivedFragments = first.2.expectedFragments →
    ∀ entry ∈ reasm.pending.entries, first.1 ≤ entry.1

variable {before after : AccessUnitReassembler}

theorem NothingBehind.shrinks (h : before.NothingBehind) (k : Shrinks before after) :
    after.NothingBehind := by
  intro last cursor entry mem
  exact h last (k.lastDeliveredSequence.symm.trans cursor) entry (k.entries entry mem)

theorem NothingBehind.empty (none : after.pending.entries = []) : after.NothingBehind := by
  intro last _ entry mem
  rw [none] at mem
  cases mem

theorem NothingBehind.receives (h : before.NothingBehind) {frag : VideoFragment}
    (k : Receives frag before after)
    (newer : ∀ last, before.lastDeliveredSequence = some last →
      videoFrameSequenceIsNewer frag.identity.frameSequence last = true) :
    after.NothingBehind := by
  intro last cursor entry mem
  have isLast := k.lastDeliveredSequence.symm.trans cursor
  cases k.entries entry mem with
  | inl old => exact h last isLast entry old
  | inr stored =>
    rw [stored.sequence]
    exact newer last isLast

theorem NothingBehind.activateEpoch (h : before.NothingBehind) (epoch : Nat)
    (seed : Option Nat) : (before.activateEpoch epoch seed).1.NothingBehind := by
  have activates := before.activateEpoch_activates epoch seed
  generalize before.activateEpoch epoch seed = outcome at activates
  cases activates with
  | rejected => exact h
  | kept _ _ => exact h
  | seeded _ _ _ empty => exact .empty empty
  | switched _ _ _ empty _ => exact .empty empty

theorem NothingBehind.receivePayload (h : before.NothingBehind) (frag : VideoFragment)
    (view : Bool) (nowUs : Nat) : (before.receivePayload frag view nowUs).1.NothingBehind := by
  have admitted : (before.activateFirstEpoch frag.identity.streamEpoch).1.NothingBehind := by
    unfold activateFirstEpoch
    split
    · exact h
    · exact h.activateEpoch _ _
  unfold AccessUnitReassembler.receivePayload
  split
  · exact h
  generalize before.activateFirstEpoch frag.identity.streamEpoch = outcome at admitted ⊢
  obtain ⟨after, isAdmitted⟩ := outcome
  dsimp only at admitted ⊢
  split
  · exact admitted
  split
  · exact admitted
  split
  · exact admitted.shrinks (shrinks_countAvoided _ _ _)
  · rename_i newer
    refine admitted.receives (receivePending_receives after frag view nowUs) ?_
    intro last isLast
    rw [isLast] at newer
    simpa using newer

theorem NothingBehind.arrange (h : before.NothingBehind) (op : ReassemblerOp) :
    (Video.arrange before op).1.NothingBehind := by
  cases op with
  | activateEpoch streamEpoch seed => exact h.activateEpoch streamEpoch seed
  | push frag nowUs => exact h.receivePayload frag false nowUs
  | pushView frag nowUs => exact h.receivePayload frag true nowUs
  | popCompleted => exact h
  | discardExpired nowUs ttlUs => exact h.shrinks (before.shrinks_discardExpired nowUs ttlUs)

theorem ne_of_mem_erase {frames : Frames} {sequence : Nat} {entry : Σ _ : Nat, PendingFrame}
    (mem : entry ∈ (frames.erase sequence).entries) : entry.1 ≠ sequence := by
  rintro rfl
  exact List.notMem_keys_kerase _ frames.nodupKeys (List.mem_keys_of_mem mem)

theorem NothingBehind.popCompleted (h : before.NothingBehind) (least : before.FirstIsLeast) :
    before.popCompleted.1.NothingBehind := by
  have pops := before.popCompleted_pops
  generalize before.popCompleted = outcome at pops
  cases pops with
  | nothing => exact h
  | @delivers epoch seq frame on pend next first whole =>
    intro last cursor entry mem
    have shrunk := shrinks_erasePending { before with lastDeliveredSequence := some seq }
      seq false
    have isLast : some seq = some last := shrunk.lastDeliveredSequence.symm.trans cursor
    cases isLast
    rw [erasePending_pending] at mem
    have other := ne_of_mem_erase mem
    have hin := mem_erase mem
    simp only [videoFrameSequenceIsNewer, decide_eq_true_eq]
    cases isCursor : before.lastDeliveredSequence with
    | some earlier =>
      have newer := h earlier isCursor entry hin
      simp only [videoFrameSequenceIsNewer, decide_eq_true_eq] at newer
      have isNext := next earlier isCursor
      omega
    | none =>
      have le := least isCursor _ (first isCursor) whole entry hin
      dsimp only at le
      omega

theorem popCompleted_leaves {first entry : Σ _ : Nat, PendingFrame} {epoch : Nat}
    (on : before.activeEpoch = some epoch) (cursor : before.lastDeliveredSequence = none)
    (isOldest : before.oldest = some first)
    (whole : first.2.receivedFragments = first.2.expectedFragments)
    (mem : entry ∈ before.pending.entries) (older : entry.1 < first.1) :
    ¬ before.popCompleted.1.NothingBehind := by
  intro nothing
  have isNext : before.nextFrame = some first := by
    unfold nextFrame
    rw [cursor]
    exact isOldest
  have popped : before.popCompleted.1 =
      ({ before with lastDeliveredSequence := some first.1 }).erasePending first.1 false := by
    unfold AccessUnitReassembler.popCompleted
    rw [on, isNext]
    exact congrArg Prod.fst (if_neg (not_not.mpr whole))
  rw [popped] at nothing
  have shrunk := shrinks_erasePending { before with lastDeliveredSequence := some first.1 }
    first.1 false
  have stays : entry ∈ (({ before with lastDeliveredSequence := some first.1 }).erasePending
      first.1 false).pending.entries := by
    rw [erasePending_pending]
    have found := lookup_of_mem mem
    apply mem_entries_of_lookup
    rw [AList.lookup_erase_ne (Nat.ne_of_lt older)]
    exact found
  have newer := nothing first.1 shrunk.lastDeliveredSequence entry stays
  simp only [videoFrameSequenceIsNewer, decide_eq_true_eq] at newer
  omega

end AccessUnitReassembler

/-- A call that looks for a completed frame finds none that overtakes a pending one. -/
def OvertakesNothing (reasm : AccessUnitReassembler) (op : ReassemblerOp) : Prop :=
  (arrange reasm op).2 = true → (arrange reasm op).1.FirstIsLeast

theorem nothingBehind_step {reasm : AccessUnitReassembler} (h : reasm.NothingBehind)
    {op : ReassemblerOp} (least : OvertakesNothing reasm op) :
    (reassemblerStep reasm op).1.NothingBehind := by
  have arranged := h.arrange op
  have look := congrArg Prod.fst (reassemblerStep_eq_look reasm op)
  rw [look, AccessUnitReassembler.look]
  split
  · rename_i looks
    exact arranged.popCompleted (least looks)
  · exact arranged

theorem overtakesNothing_of_nothingBehind {frameLimit byteLimit : Nat} {events : List CursorEvent}
    {fragments : List VideoFragment} {reasm : AccessUnitReassembler}
    (h : Watched frameLimit byteLimit events fragments reasm) {op : ReassemblerOp}
    (nothing : (reassemblerStep reasm op).1.NothingBehind) :
    OvertakesNothing reasm op := by
  intro looks cursor first isOldest whole entry mem
  by_contra older
  obtain ⟨epoch, on, -⟩ := (h.arrange op).assembled entry mem
  have look := congrArg Prod.fst (reassemblerStep_eq_look reasm op)
  rw [look, AccessUnitReassembler.look, if_pos looks] at nothing
  exact AccessUnitReassembler.popCompleted_leaves on cursor isOldest whole mem
    (Nat.not_le.mp older) nothing

/-- No frame is ever behind the cursor exactly in the runs in which no call delivers the
    first frame of an epoch ahead of an older pending one. -/
theorem no_frame_is_behind_cursor_iff (maxInflightFrames maxInflightBytes : Nat)
    (ops : List ReassemblerOp) :
    (∀ old later, ops = old ++ later →
      (Lib.Run.exec reassemblerStep
        (AccessUnitReassembler.new maxInflightFrames maxInflightBytes) old).NothingBehind) ↔
    ∀ old op later, ops = old ++ op :: later →
      OvertakesNothing (Lib.Run.exec reassemblerStep
        (AccessUnitReassembler.new maxInflightFrames maxInflightBytes) old) op := by
  constructor
  · intro nothing old op later split
    have watched := watched_run maxInflightFrames maxInflightBytes old
    have after := nothing (old ++ [op]) later (by simp [split])
    rw [Lib.Run.exec_append] at after
    exact overtakesNothing_of_nothingBehind watched after
  · intro least old
    induction old using List.reverseRecOn with
    | nil =>
      intro _ _
      exact .empty rfl
    | append_singleton old op ih =>
      intro later split
      rw [Lib.Run.exec_append]
      have steps : ops = old ++ op :: later := by simpa using split
      exact nothingBehind_step (ih _ steps) (least old op later steps)

/-- Frame 5 comes first and is completed while frame 3 is pending. -/
def overtakingRun : List ReassemblerOp :=
  [.activateEpoch 1 none,
    .push { identity := ⟨1, 5⟩, fragmentIndex := 0, fragmentCount := 2, accessUnitPart := [1] } 0,
    .push { identity := ⟨1, 3⟩, fragmentIndex := 0, fragmentCount := 2, accessUnitPart := [2] } 1,
    .push { identity := ⟨1, 5⟩, fragmentIndex := 1, fragmentCount := 2, accessUnitPart := [3] } 2]

theorem overtaken_frame_stays_pending :
    ¬ (Lib.Run.exec reassemblerStep AccessUnitReassembler.default overtakingRun).NothingBehind := by
  intro nothing
  have cursor : (Lib.Run.exec reassemblerStep AccessUnitReassembler.default
      overtakingRun).lastDeliveredSequence = some 5 := by decide +kernel
  have pending : (Lib.Run.exec reassemblerStep AccessUnitReassembler.default
      overtakingRun).pending.entries.map Sigma.fst = [3] := by decide +kernel
  obtain ⟨entry, member, isThree⟩ := List.mem_map.mp (pending ▸ List.mem_cons_self)
  have newer := nothing 5 cursor entry member
  rw [isThree] at newer
  cases newer

end VisionForge.Video
