import VisionForge.Lib.Run
import VisionForge.Lib.Weights
import VisionForge.Video.Reassembler

/-! # The accounts of the reassembler

Every path that adds, grows or drops a frame keeps the shared byte counter equal to
what the frames hold, so that no budget leaks.
-/

namespace VisionForge.Video

open Lib.Ascii Lib.Weights

structure PendingFrame.Sound (frame : PendingFrame) : Prop where
  flags : frame.received.length = frame.expectedFragments
  slots : frame.parts.length = frame.expectedFragments
  counted : frame.receivedFragments = frame.received.count true
  summed : frame.totalBytes = (frame.parts.map List.length).sum
  missing : ∀ index, frame.received.getD index false = false → frame.parts.getD index [] = []
  bounded : frame.totalBytes ≤ kMaxAccessUnitBytes

theorem PendingFrame.new_sound (frag : VideoFragment) (nowUs arrivalOrder : Nat) :
    (PendingFrame.new frag nowUs arrivalOrder).Sound where
  flags := List.length_replicate
  slots := List.length_replicate
  counted := by simp [PendingFrame.new, List.count_replicate]
  summed := by simp [PendingFrame.new]
  missing := by
    intro index _
    simp [PendingFrame.new, List.getD_eq_getElem?_getD, List.getElem?_replicate]
    split <;> rfl
  bounded := Nat.zero_le _

variable {index : Nat}

theorem sum_set_nil {parts : List Bytes} (hin : index < parts.length)
    (free : parts.getD index [] = []) (payload : Bytes) :
    ((parts.set index payload).map List.length).sum =
      (parts.map List.length).sum + payload.length := by
  induction parts generalizing index with
  | nil => cases hin
  | cons part parts ih =>
    cases index with
    | zero =>
      rw [List.getD_cons_zero] at free
      rw [List.set_cons_zero, free]
      simp only [List.map_cons, List.sum_cons, List.length_nil]
      omega
    | succ index =>
      have rest := ih (Nat.lt_of_succ_lt_succ hin) free
      rw [List.set_cons_succ]
      simp only [List.map_cons, List.sum_cons, rest]
      omega

theorem count_set_true {flags : List Bool} (hin : index < flags.length)
    (free : flags.getD index false = false) :
    (flags.set index true).count true = flags.count true + 1 := by
  induction flags generalizing index with
  | nil => cases hin
  | cons flag flags ih =>
    cases index with
    | zero =>
      rw [List.getD_cons_zero] at free
      rw [List.set_cons_zero, free]
      simp
    | succ index =>
      have rest := ih (Nat.lt_of_succ_lt_succ hin) free
      rw [List.set_cons_succ]
      simp only [List.count_cons, rest]
      omega

theorem getD_set_of_ne {α : Type} {items : List α} {other : Nat} (apart : index ≠ other)
    (item fallback : α) :
    (items.set index item).getD other fallback = items.getD other fallback := by
  simp [List.getD_eq_getElem?_getD, apart]

theorem getD_set_self {α : Type} {items : List α} (hin : index < items.length)
    (item fallback : α) : (items.set index item).getD index fallback = item := by
  simp [List.getD_eq_getElem?_getD, hin]

variable {frame : PendingFrame}

theorem PendingFrame.Sound.store_missing (h : frame.Sound) (payload : Bytes)
    (hin : index < frame.expectedFragments) (other : Nat)
    (absent : (frame.store index payload).received.getD other false = false) :
    (frame.store index payload).parts.getD other [] = [] := by
  unfold PendingFrame.store at absent ⊢
  by_cases same : index = other
  · rw [← same, getD_set_self (by rw [h.flags]; exact hin)] at absent
    cases absent
  · rw [getD_set_of_ne same] at absent ⊢
    exact h.missing other absent

theorem PendingFrame.Sound.store (h : frame.Sound) {payload : Bytes}
    (hin : index < frame.expectedFragments) (free : frame.received.getD index false = false)
    (fits : frame.totalBytes + payload.length ≤ kMaxAccessUnitBytes) :
    (frame.store index payload).Sound where
  flags := by
    rw [PendingFrame.store, List.length_set]
    exact h.flags
  slots := by
    rw [PendingFrame.store, List.length_set]
    exact h.slots
  counted := by
    have one := count_set_true (by rw [h.flags]; exact hin) free
    rw [PendingFrame.store, one, h.counted]
  summed := by
    have more := sum_set_nil (by rw [h.slots]; exact hin) (h.missing index free) payload
    rw [PendingFrame.store, more, h.summed]
  missing := h.store_missing payload hin
  bounded := fits

namespace AccessUnitReassembler

/-- The counter is the sum over the frames, and was never cut off at zero. -/
structure Accounts (frameLimit byteLimit : Nat) (reasm : AccessUnitReassembler) : Prop where
  framesAre : reasm.maxInflightFrames = frameLimit
  bytesAre : reasm.maxInflightBytes = byteLimit
  inflight : reasm.inflightBytes = total PendingFrame.totalBytes reasm.pending
  frames : ∀ entry ∈ reasm.pending.entries, entry.2.Sound
  exact : reasm.saturated = false

def Begun (frames : Frames) : Prop := ∀ entry ∈ frames.entries, 1 ≤ entry.2.receivedFragments

structure Sound (frameLimit byteLimit : Nat) (reasm : AccessUnitReassembler) : Prop
    extends Accounts frameLimit byteLimit reasm where
  begun : Begun reasm.pending
  fewFrames : reasm.pending.entries.length ≤ frameLimit
  fewBytes : reasm.inflightBytes ≤ byteLimit

variable {frameLimit byteLimit : Nat} {reasm other : AccessUnitReassembler}

theorem Accounts.congr (h : Accounts frameLimit byteLimit reasm)
    (frames : other.maxInflightFrames = reasm.maxInflightFrames)
    (bytes : other.maxInflightBytes = reasm.maxInflightBytes)
    (inflight : other.inflightBytes = reasm.inflightBytes)
    (pend : other.pending = reasm.pending)
    (saturated : other.saturated = reasm.saturated) :
    Accounts frameLimit byteLimit other where
  framesAre := frames.trans h.framesAre
  bytesAre := bytes.trans h.bytesAre
  inflight := by
    rw [inflight, pend]
    exact h.inflight
  frames := by
    rw [pend]
    exact h.frames
  exact := saturated.trans h.exact

theorem Sound.congr (h : Sound frameLimit byteLimit reasm)
    (frames : other.maxInflightFrames = reasm.maxInflightFrames)
    (bytes : other.maxInflightBytes = reasm.maxInflightBytes)
    (inflight : other.inflightBytes = reasm.inflightBytes)
    (pend : other.pending = reasm.pending)
    (saturated : other.saturated = reasm.saturated) :
    Sound frameLimit byteLimit other where
  toAccounts := h.toAccounts.congr frames bytes inflight pend saturated
  begun := by
    rw [pend]
    exact h.begun
  fewFrames := by
    rw [pend]
    exact h.fewFrames
  fewBytes := by
    rw [inflight]
    exact h.fewBytes

theorem new_sound (maxInflightFrames maxInflightBytes : Nat) :
    Sound (max 1 maxInflightFrames) (max kVideoPacketPayloadBytes maxInflightBytes)
      (new maxInflightFrames maxInflightBytes) where
  framesAre := rfl
  bytesAre := rfl
  inflight := rfl
  frames := by simp [new]
  exact := rfl
  begun := by simp [Begun, new]
  fewFrames := Nat.zero_le _
  fewBytes := Nat.zero_le _

theorem Accounts.total_le (h : Accounts frameLimit byteLimit reasm) {seq : Nat}
    (found : reasm.pending.lookup seq = some frame) :
    reasm.inflightBytes =
      frame.totalBytes + total PendingFrame.totalBytes (reasm.pending.erase seq) := by
  rw [h.inflight]
  exact total_erase found

theorem erasePending_pending (reasm : AccessUnitReassembler) (sequence : Nat)
    (countAsLoss : Bool) :
    (reasm.erasePending sequence countAsLoss).pending = reasm.pending.erase sequence := by
  unfold erasePending
  split
  · rename_i missing
    exact (erase_of_lookup_eq_none missing).symm
  · rfl

theorem Accounts.erase (h : Accounts frameLimit byteLimit reasm) (seq : Nat)
    (countAsLoss : Bool) :
    Accounts frameLimit byteLimit (reasm.erasePending seq countAsLoss) := by
  unfold erasePending
  split
  · exact h
  · rename_i frame found
    have held := h.total_le found
    refine ⟨h.framesAre, h.bytesAre, ?_, ?_, ?_⟩
    · dsimp only
      omega
    · intro entry mem
      exact h.frames entry (mem_erase mem)
    · rw [h.exact, Bool.false_or, decide_eq_false_iff_not]
      omega

theorem erasePending_inflight_le (seq : Nat)
    (countAsLoss : Bool) :
    (reasm.erasePending seq countAsLoss).inflightBytes ≤ reasm.inflightBytes := by
  unfold erasePending
  split
  · exact Nat.le_refl _
  · exact Nat.sub_le _ _

theorem length_erase_le (frames : Frames) (seq : Nat) :
    (frames.erase seq).entries.length ≤ frames.entries.length :=
  (List.kerase_sublist seq frames.entries).length_le

theorem Begun.erase {frames : Frames} (h : Begun frames) (seq : Nat) :
    Begun (frames.erase seq) := by
  intro entry mem
  exact h entry (mem_erase mem)

theorem Sound.erase (h : Sound frameLimit byteLimit reasm) (seq : Nat)
    (countAsLoss : Bool) :
    Sound frameLimit byteLimit (reasm.erasePending seq countAsLoss) where
  toAccounts := h.toAccounts.erase seq countAsLoss
  begun := by
    rw [erasePending_pending]
    exact h.begun.erase seq
  fewFrames := by
    rw [erasePending_pending]
    exact (length_erase_le _ _).trans h.fewFrames
  fewBytes := (erasePending_inflight_le _ _).trans h.fewBytes

theorem oldest_mem {entry : Σ _ : Nat, PendingFrame} (isOldest : reasm.oldest = some entry) :
    entry ∈ reasm.pending.entries :=
  List.argmin_mem isOldest

theorem lookup_of_mem {frames : Frames} {entry : Σ _ : Nat, PendingFrame}
    (mem : entry ∈ frames.entries) : frames.lookup entry.1 = some entry.2 :=
  AList.mem_lookup_iff.mpr mem

/-- Without frames there are no bytes, so that the loop ends. -/
theorem Accounts.not_overBudget_of_empty (h : Accounts frameLimit byteLimit reasm)
    (empty : reasm.pending.entries = []) : reasm.overBudget = false := by
  have nothing : reasm.inflightBytes = 0 := by
    rw [h.inflight]
    unfold total
    rw [empty]
    rfl
  unfold overBudget
  simp [empty, nothing]

theorem discardOldest_spec (h : Accounts frameLimit byteLimit reasm)
    (begun : Begun reasm.pending) (isOver : reasm.overBudget = true) :
    Accounts frameLimit byteLimit reasm.discardOldest ∧
      Begun reasm.discardOldest.pending ∧
      reasm.discardOldest.pending.entries.length + 1 = reasm.pending.entries.length := by
  unfold discardOldest
  cases isOldest : reasm.oldest with
  | none =>
    have empty := List.argmin_eq_none.mp isOldest
    rw [h.not_overBudget_of_empty empty] at isOver
    cases isOver
  | some entry =>
    have found := lookup_of_mem (oldest_mem isOldest)
    refine ⟨h.erase _ _, ?_, ?_⟩
    · rw [erasePending_pending]
      exact begun.erase _
    · have size := @total_erase _ _ _ (fun _ => 1) _ _ _ found
      rw [erasePending_pending, length_entries, length_entries, size]
      omega

theorem discardWhileOverBudget_sound {turns : Nat} (h : Accounts frameLimit byteLimit reasm)
    (begun : Begun reasm.pending) (enough : reasm.pending.entries.length ≤ turns) :
    Sound frameLimit byteLimit (discardWhileOverBudget turns reasm) := by
  have within (reasm : AccessUnitReassembler)
      (h : Accounts frameLimit byteLimit reasm) (begun : Begun reasm.pending)
      (under : reasm.overBudget = false) : Sound frameLimit byteLimit reasm := by
    unfold overBudget at under
    rw [Bool.or_eq_false_iff, decide_eq_false_iff_not, decide_eq_false_iff_not, h.framesAre,
      h.bytesAre] at under
    exact ⟨h, begun, Nat.not_lt.mp under.1, Nat.not_lt.mp under.2⟩
  induction turns generalizing reasm with
  | zero =>
    have empty : reasm.pending.entries = [] := List.length_eq_zero_iff.mp (by omega)
    exact within _ h begun (h.not_overBudget_of_empty empty)
  | succ turns ih =>
    unfold discardWhileOverBudget
    split
    · rename_i isOver
      obtain ⟨kept, stillBegun, smaller⟩ := discardOldest_spec h begun isOver
      exact ih kept stillBegun (by omega)
    · rename_i under
      exact within _ h begun (Bool.eq_false_iff.mpr under)

theorem Sound.popCompleted (h : Sound frameLimit byteLimit reasm) :
    Sound frameLimit byteLimit reasm.popCompleted.1 := by
  unfold AccessUnitReassembler.popCompleted
  split
  · split
    · exact h
    · have moved (seq : Nat) : Sound frameLimit byteLimit
          { reasm with lastDeliveredSequence := some seq } :=
        h.congr rfl rfl rfl rfl rfl
      exact (moved _).erase _ _
  · exact h

theorem Sound.countAvoided (h : Sound frameLimit byteLimit reasm) (view : Bool) (size : Nat) :
    Sound frameLimit byteLimit (reasm.countAvoided view size) := by
  unfold AccessUnitReassembler.countAvoided
  split
  · exact h.congr rfl rfl rfl rfl rfl
  · exact h

theorem Sound.clearPending (h : Sound frameLimit byteLimit reasm) (countAsLoss : Bool) :
    Sound frameLimit byteLimit (reasm.clearPending countAsLoss) where
  framesAre := h.framesAre
  bytesAre := h.bytesAre
  inflight := rfl
  frames := by simp [AccessUnitReassembler.clearPending]
  exact := h.exact
  begun := by simp [Begun, AccessUnitReassembler.clearPending]
  fewFrames := Nat.zero_le _
  fewBytes := Nat.zero_le _

theorem Sound.rememberRetiredEpoch (h : Sound frameLimit byteLimit reasm)
    (epoch : Nat) :
    Sound frameLimit byteLimit (reasm.rememberRetiredEpoch epoch) := by
  unfold AccessUnitReassembler.rememberRetiredEpoch
  split
  · exact h
  split
  · exact h.congr rfl rfl rfl rfl rfl
  split
  · exact h.congr rfl rfl rfl rfl rfl
  · exact h

theorem Sound.activateEpoch (h : Sound frameLimit byteLimit reasm) (epoch : Nat)
    (lastDeliveredSequence : Option Nat) :
    Sound frameLimit byteLimit
      (reasm.activateEpoch epoch lastDeliveredSequence).1 := by
  unfold AccessUnitReassembler.activateEpoch
  split
  · exact h
  split
  · split
    · exact h.congr rfl rfl rfl rfl rfl
    · exact h
  · have moved {retired : AccessUnitReassembler} (h : Sound frameLimit byteLimit retired) :
        Sound frameLimit byteLimit
          { retired.clearPending true with
            activeEpoch := some epoch
            lastDeliveredSequence := lastDeliveredSequence } :=
      (h.clearPending true).congr rfl rfl rfl rfl rfl
    dsimp only
    split
    · exact moved (h.rememberRetiredEpoch _)
    split
    · exact moved (h.rememberRetiredEpoch _)
    · exact moved h

theorem Sound.discardExpired (h : Sound frameLimit byteLimit reasm) (nowUs ttlUs : Nat) :
    Sound frameLimit byteLimit (reasm.discardExpired nowUs ttlUs).1 := by
  unfold AccessUnitReassembler.discardExpired
  generalize reasm.pending.entries = entries
  generalize 0 = discarded
  induction entries generalizing reasm discarded with
  | nil => exact h
  | cons entry entries ih =>
    rw [List.foldl_cons]
    dsimp only
    split
    · exact ih (h.erase _ _) _
    · exact ih h _

/-- The frame of a fragment is there afterwards, and all else is as before. -/
structure Emplaced (frameLimit byteLimit : Nat) (before after : AccessUnitReassembler)
    (sequence : Nat) (frame : PendingFrame) : Prop where
  accounts : Accounts frameLimit byteLimit after
  found : after.pending.lookup sequence = some frame
  rest : after.pending.erase sequence = before.pending.erase sequence
  inflight : after.inflightBytes = before.inflightBytes
  old : after ≠ before → ∀ index, frame.received.getD index false = false

theorem Sound.emplace (h : Sound frameLimit byteLimit reasm) (frag : VideoFragment)
    (nowUs : Nat) :
    Emplaced frameLimit byteLimit reasm (reasm.emplace frag nowUs).1
      frag.identity.frameSequence (reasm.emplace frag nowUs).2 := by
  unfold AccessUnitReassembler.emplace
  split
  · rename_i frame found
    exact ⟨h.toAccounts, found, rfl, rfl, fun changed => absurd rfl changed⟩
  · rename_i missing
    have same := erase_of_lookup_eq_none missing
    refine ⟨⟨h.framesAre, h.bytesAre, ?_, ?_, h.exact⟩, ?_, ?_, rfl, ?_⟩
    · rw [total_insert, same, h.inflight]
      simp [PendingFrame.new]
    · intro entry mem
      cases mem_insert mem with
      | inl isNew =>
        rw [isNew]
        exact PendingFrame.new_sound _ _ _
      | inr isOld => exact h.frames entry (mem_erase isOld)
    · exact AList.lookup_insert _
    · exact erase_insert
    · intro _ index
      simp [PendingFrame.new, List.getD_eq_getElem?_getD, List.getElem?_replicate]
      split <;> rfl

theorem Emplaced.erase {pre after : AccessUnitReassembler} {seq : Nat}
    (h : Emplaced frameLimit byteLimit pre after seq frame)
    (sound : Sound frameLimit byteLimit pre) (countAsLoss : Bool) :
    Sound frameLimit byteLimit (after.erasePending seq countAsLoss) where
  toAccounts := h.accounts.erase _ _
  begun := by
    rw [erasePending_pending, h.rest]
    exact sound.begun.erase _
  fewFrames := by
    rw [erasePending_pending, h.rest]
    exact (length_erase_le _ _).trans sound.fewFrames
  fewBytes := by
    have less := @erasePending_inflight_le after seq countAsLoss
    rw [h.inflight] at less
    exact less.trans sound.fewBytes

theorem Emplaced.frame_sound {pre after : AccessUnitReassembler} {seq : Nat}
    (h : Emplaced frameLimit byteLimit pre after seq frame) : frame.Sound :=
  h.accounts.frames _ (mem_entries_of_lookup h.found)

theorem Emplaced.store {pre after : AccessUnitReassembler} {seq : Nat} {payload : Bytes}
    (h : Emplaced frameLimit byteLimit pre after seq frame)
    (sound : Sound frameLimit byteLimit pre) (stored : (frame.store index payload).Sound)
    (statistics : Statistics) :
    Accounts frameLimit byteLimit
        { after with
          statistics := statistics
          pending := after.pending.insert seq (frame.store index payload)
          inflightBytes := after.inflightBytes + payload.length } ∧
      Begun (after.pending.insert seq (frame.store index payload)) := by
  have held := h.accounts.total_le h.found
  constructor
  · refine ⟨h.accounts.framesAre, h.accounts.bytesAre, ?_, ?_, h.accounts.exact⟩
    · rw [total_insert, held]
      simp only [PendingFrame.store]
      omega
    · intro entry mem
      cases mem_insert mem with
      | inl isNew =>
        rw [isNew]
        exact stored
      | inr isOld => exact h.accounts.frames entry (mem_erase isOld)
  · intro entry mem
    cases mem_insert mem with
    | inl isNew =>
      rw [isNew]
      exact Nat.succ_le_succ (Nat.zero_le _)
    | inr isOld =>
      rw [h.rest] at isOld
      exact sound.begun entry (mem_erase isOld)

theorem Sound.receivePending (h : Sound frameLimit byteLimit reasm) (frag : VideoFragment)
    (view : Bool) (nowUs : Nat) (hin : frag.fragmentIndex < frag.fragmentCount) :
    Sound frameLimit byteLimit (reasm.receivePending frag view nowUs).1 := by
  have emplaced := h.emplace frag nowUs
  unfold AccessUnitReassembler.receivePending
  generalize reasm.emplace frag nowUs = outcome at emplaced ⊢
  obtain ⟨after, frame⟩ := outcome
  dsimp only at emplaced ⊢
  split
  · exact (emplaced.erase h true).congr rfl rfl rfl rfl rfl
  rename_i agrees
  rw [not_or, not_not, not_not] at agrees
  split
  · rename_i present
    split
    · exact (emplaced.erase h true).congr rfl rfl rfl rfl rfl
    · have unchanged : after = reasm := by
        by_contra changed
        rw [emplaced.old changed] at present
        cases present
      rw [unchanged]
      exact h.countAvoided _ _
  rename_i absent
  split
  · exact emplaced.erase h true
  rename_i fits
  have stored := emplaced.frame_sound.store (by rw [agrees.1]; exact hin)
    (Bool.eq_false_iff.mpr absent) (show frame.totalBytes + frag.accessUnitPart.length ≤ _ by
      omega)
  obtain ⟨accounts, begun⟩ := emplaced.store h stored _
  exact discardWhileOverBudget_sound accounts begun (Nat.le_refl _)

theorem Sound.activateFirstEpoch (h : Sound frameLimit byteLimit reasm) (epoch : Nat) :
    Sound frameLimit byteLimit (reasm.activateFirstEpoch epoch).1 := by
  unfold AccessUnitReassembler.activateFirstEpoch
  split
  · exact h
  · exact h.activateEpoch _ _

theorem Sound.receivePayload (h : Sound frameLimit byteLimit reasm) (frag : VideoFragment)
    (view : Bool) (nowUs : Nat) :
    Sound frameLimit byteLimit (reasm.receivePayload frag view nowUs).1 := by
  unfold AccessUnitReassembler.receivePayload
  split
  · exact h
  rename_i wellFormed
  simp only [Bool.or_eq_true, decide_eq_true_eq, not_or, Nat.not_le] at wellFormed
  have hin := wellFormed.1.1.2
  have admitted := h.activateFirstEpoch frag.identity.streamEpoch
  generalize reasm.activateFirstEpoch frag.identity.streamEpoch = outcome at admitted ⊢
  dsimp only at admitted ⊢
  split
  · exact admitted
  split
  · exact admitted.congr rfl rfl rfl rfl rfl
  split
  · exact admitted.countAvoided _ _
  · exact admitted.receivePending frag view nowUs hin

theorem Sound.pushPayload (h : Sound frameLimit byteLimit reasm) (frag : VideoFragment)
    (view : Bool) (nowUs : Nat) :
    Sound frameLimit byteLimit (reasm.pushPayload frag view nowUs).1 := by
  have received := h.receivePayload frag view nowUs
  unfold AccessUnitReassembler.pushPayload
  rw [look]
  split
  · exact received.popCompleted
  · exact received

end AccessUnitReassembler

inductive ReassemblerOp where
  | activateEpoch (streamEpoch : Nat) (lastDeliveredSequence : Option Nat)
  | push (fragment : VideoFragment) (nowUs : Nat)
  | pushView (fragment : VideoFragment) (nowUs : Nat)
  | popCompleted
  | discardExpired (nowUs ttlUs : Nat)

inductive ReassemblerAnswer where
  | activated (accepted : Bool)
  | completed (accessUnit : Option CompletedAccessUnit)
  | discarded (frames : Nat)

def reassemblerStep (reasm : AccessUnitReassembler) :
    ReassemblerOp → AccessUnitReassembler × ReassemblerAnswer
  | .activateEpoch streamEpoch lastDeliveredSequence =>
    let (reasm, accepted) :=
      reasm.activateEpoch streamEpoch lastDeliveredSequence
    (reasm, .activated accepted)
  | .push fragment nowUs =>
    let (reasm, accessUnit) := reasm.push fragment nowUs
    (reasm, .completed accessUnit)
  | .pushView fragment nowUs =>
    let (reasm, accessUnit) := reasm.pushView fragment nowUs
    (reasm, .completed accessUnit)
  | .popCompleted =>
    let (reasm, accessUnit) := reasm.popCompleted
    (reasm, .completed accessUnit)
  | .discardExpired nowUs ttlUs =>
    let (reasm, frames) := reasm.discardExpired nowUs ttlUs
    (reasm, .discarded frames)

theorem reassemblerStep_sound {frameLimit byteLimit : Nat} {reasm : AccessUnitReassembler}
    (h : reasm.Sound frameLimit byteLimit) (op : ReassemblerOp) :
    (reassemblerStep reasm op).1.Sound frameLimit byteLimit := by
  cases op with
  | activateEpoch streamEpoch lastDeliveredSequence => exact h.activateEpoch _ _
  | push frag nowUs => exact h.pushPayload frag false nowUs
  | pushView frag nowUs => exact h.pushPayload frag true nowUs
  | popCompleted => exact h.popCompleted
  | discardExpired nowUs ttlUs => exact h.discardExpired nowUs ttlUs

theorem run_sound (maxInflightFrames maxInflightBytes : Nat) (ops : List ReassemblerOp) :
    (Lib.Run.exec reassemblerStep
      (AccessUnitReassembler.new maxInflightFrames maxInflightBytes) ops).Sound
      (max 1 maxInflightFrames) (max kVideoPacketPayloadBytes maxInflightBytes) :=
  Lib.Run.exec_invariant reassemblerStep (AccessUnitReassembler.new_sound _ _)
    (fun _ op h => reassemblerStep_sound h op) ops

/-- The counters of a reassembler are those of its pending frames, which keep to the limits. -/
structure RepresentationHolds (frameLimit byteLimit : Nat) (reasm : AccessUnitReassembler) :
    Prop where
  inflight : reasm.inflightBytes = (reasm.pending.entries.map (fun entry => entry.2.totalBytes)).sum
  totals : ∀ entry ∈ reasm.pending.entries,
    entry.2.totalBytes = (entry.2.parts.map List.length).sum ∧
      entry.2.totalBytes ≤ kMaxAccessUnitBytes
  fragments : ∀ entry ∈ reasm.pending.entries,
    entry.2.receivedFragments = entry.2.received.count true ∧
      1 ≤ entry.2.receivedFragments ∧ entry.2.receivedFragments ≤ entry.2.expectedFragments
  frames : reasm.maxInflightFrames = frameLimit ∧
    reasm.pending.entries.length ≤ frameLimit
  bytes : reasm.maxInflightBytes = byteLimit ∧ reasm.inflightBytes ≤ byteLimit
  unsaturated : reasm.saturated = false

/-- From any limits and through any calls: the counter is what the frames hold, within
    the limits, and no subtraction was ever cut off. -/
theorem reassembler_accounts_hold (maxInflightFrames maxInflightBytes : Nat)
    (ops : List ReassemblerOp) :
    RepresentationHolds (max 1 maxInflightFrames) (max kVideoPacketPayloadBytes maxInflightBytes)
      (Lib.Run.exec reassemblerStep
        (AccessUnitReassembler.new maxInflightFrames maxInflightBytes) ops) := by
  have sound := run_sound maxInflightFrames maxInflightBytes ops
  refine ⟨sound.inflight, ?_, ?_, ⟨sound.framesAre, sound.fewFrames⟩,
    ⟨sound.bytesAre, sound.fewBytes⟩, sound.exact⟩
  · intro entry member
    have frame := sound.frames entry member
    exact ⟨frame.summed, frame.bounded⟩
  · intro entry member
    have frame := sound.frames entry member
    refine ⟨frame.counted, sound.begun entry member, ?_⟩
    rw [frame.counted, ← frame.flags]
    exact List.count_le_length

/-! ## Owned and borrowed fragments

A fragment is pushed with its payload or as a view of the datagram. The two paths differ in
the counters of copies only.
-/

open Lib.Run

namespace AccessUnitReassembler

/-- A reassembler without its counters of copies. -/
def uncounted (reasm : AccessUnitReassembler) : AccessUnitReassembler :=
  { reasm with
    statistics := { reasm.statistics with
      payloadBytesCopied := 0
      payloadBytesMoved := 0
      duplicatePayloadBytesAvoided := 0 } }

variable (reasm : AccessUnitReassembler)

@[simp] theorem uncounted_countAvoided (view : Bool) (size : Nat) :
    (reasm.countAvoided view size).uncounted = reasm.uncounted := by
  cases view <;> rfl

theorem uncounted_erasePending (seq : Nat) (countAsLoss : Bool) :
    (reasm.erasePending seq countAsLoss).uncounted =
      reasm.uncounted.erasePending seq countAsLoss := by
  have pend : reasm.uncounted.pending = reasm.pending := rfl
  unfold erasePending
  rw [pend]
  cases reasm.pending.lookup seq <;> rfl

theorem uncounted_discardOldest :
    reasm.discardOldest.uncounted = reasm.uncounted.discardOldest := by
  have same : reasm.uncounted.oldest = reasm.oldest := rfl
  unfold discardOldest
  rw [same]
  cases reasm.oldest with
  | none => rfl
  | some entry => exact uncounted_erasePending reasm entry.1 true

theorem uncounted_discardWhileOverBudget (turns : Nat) :
    (discardWhileOverBudget turns reasm).uncounted =
      discardWhileOverBudget turns reasm.uncounted := by
  induction turns generalizing reasm with
  | zero => rfl
  | succ turns ih =>
    have same : reasm.uncounted.overBudget = reasm.overBudget := rfl
    simp only [discardWhileOverBudget, same, ← uncounted_discardOldest, ← ih]
    split <;> rfl

theorem uncounted_activateEpoch (epoch : Nat) (lastDelivered : Option Nat) :
    (reasm.activateEpoch epoch lastDelivered).map uncounted id =
      reasm.uncounted.activateEpoch epoch lastDelivered := by
  obtain ⟨_, _, _, _, on, _, _, _, _, _⟩ := reasm
  cases on with
  | none =>
    grind [activateEpoch, uncounted, isRetiredEpoch, rememberRetiredEpoch, clearPending,
      countLosses]
  | some on =>
    grind [activateEpoch, uncounted, isRetiredEpoch, rememberRetiredEpoch, clearPending,
      countLosses]

theorem uncounted_popCompleted :
    reasm.popCompleted.map uncounted id = reasm.uncounted.popCompleted := by
  have epoch : reasm.uncounted.activeEpoch = reasm.activeEpoch := rfl
  have frame : reasm.uncounted.nextFrame = reasm.nextFrame := rfl
  unfold popCompleted
  rw [epoch, frame]
  cases reasm.activeEpoch with
  | none => rfl
  | some epoch =>
    cases reasm.nextFrame with
    | none => rfl
    | some entry =>
      dsimp only
      split
      · rfl
      · exact Prod.ext (uncounted_erasePending _ _ _) rfl

theorem uncounted_discardExpired (nowUs ttlUs : Nat) :
    (reasm.discardExpired nowUs ttlUs).map uncounted id =
      reasm.uncounted.discardExpired nowUs ttlUs := by
  unfold discardExpired
  change Prod.map uncounted id _ = reasm.pending.entries.foldl _ (uncounted reasm, 0)
  generalize 0 = discarded, reasm.pending.entries = entries
  induction entries generalizing reasm discarded with
  | nil => rfl
  | cons entry entries ih =>
    simp only [List.foldl_cons]
    split
    · rw [← uncounted_erasePending, ih]
    · rw [ih]

theorem uncounted_emplace (frag : VideoFragment) (nowUs : Nat) :
    (reasm.emplace frag nowUs).map uncounted id = reasm.uncounted.emplace frag nowUs := by
  have pend : reasm.uncounted.pending = reasm.pending := rfl
  unfold emplace
  rw [pend]
  split <;> rfl

theorem uncounted_stored (view : Bool) (size : Nat) (pending : Frames) (inflightBytes : Nat) :
    uncounted { reasm.countStored view size with pending, inflightBytes } =
      { reasm.uncounted with pending, inflightBytes } := by
  cases view <;> rfl

theorem uncounted_receivePending (frag : VideoFragment) (view view' : Bool) (nowUs : Nat) :
    (reasm.receivePending frag view nowUs).map uncounted id =
      (reasm.uncounted.receivePending frag view' nowUs).map uncounted id := by
  unfold receivePending
  rw [← uncounted_emplace]
  generalize reasm.emplace frag nowUs = outcome
  obtain ⟨after, frame⟩ := outcome
  have idem : after.uncounted.uncounted = after.uncounted := rfl
  have conflict (other : AccessUnitReassembler) :
      other.countConflict.uncounted = other.uncounted.countConflict := rfl
  dsimp only [Prod.map, id]
  split
  · simp [conflict, uncounted_erasePending, idem]
  split
  · split
    · simp [conflict, uncounted_erasePending, idem]
    · simp [idem]
  have room : after.uncounted.maxInflightBytes = after.maxInflightBytes := rfl
  have used : after.uncounted.inflightBytes = after.inflightBytes := rfl
  rw [room, used]
  split
  · simp [uncounted_erasePending, idem]
  · simp only [uncounted_discardWhileOverBudget, uncounted_stored, idem]
    rfl

theorem uncounted_activateFirstEpoch (streamEpoch : Nat) :
    (reasm.activateFirstEpoch streamEpoch).map uncounted id =
      reasm.uncounted.activateFirstEpoch streamEpoch := by
  have epoch : reasm.uncounted.activeEpoch = reasm.activeEpoch := rfl
  unfold activateFirstEpoch
  rw [epoch]
  split
  · rfl
  · exact uncounted_activateEpoch reasm streamEpoch none

theorem uncounted_receivePayload (frag : VideoFragment) (view view' : Bool) (nowUs : Nat) :
    (reasm.receivePayload frag view nowUs).map uncounted id =
      (reasm.uncounted.receivePayload frag view' nowUs).map uncounted id := by
  unfold receivePayload
  rw [← uncounted_activateFirstEpoch]
  split
  · rfl
  generalize reasm.activateFirstEpoch frag.identity.streamEpoch = outcome
  obtain ⟨after, admitted⟩ := outcome
  have epoch : after.uncounted.activeEpoch = after.activeEpoch := rfl
  have delivered : after.uncounted.lastDeliveredSequence = after.lastDeliveredSequence := rfl
  have idem : after.uncounted.uncounted = after.uncounted := rfl
  dsimp only [Prod.map, id]
  rw [epoch, delivered]
  split
  · rfl
  split
  · rfl
  split
  · simp [idem]
  · exact uncounted_receivePending after frag view view' nowUs

theorem uncounted_pushPayload (frag : VideoFragment) (view view' : Bool) (nowUs : Nat) :
    (reasm.pushPayload frag view nowUs).map uncounted id =
      (reasm.uncounted.pushPayload frag view' nowUs).map uncounted id := by
  unfold pushPayload
  have received := uncounted_receivePayload reasm frag view view' nowUs
  generalize reasm.receivePayload frag view nowUs = owned at *
  generalize reasm.uncounted.receivePayload frag view' nowUs = viewed at *
  simp only [Prod.ext_iff, Prod.map_fst, Prod.map_snd, id] at received
  unfold look
  rw [received.2]
  split
  · rw [uncounted_popCompleted, uncounted_popCompleted, received.1]
  · exact Prod.ext received.1 rfl

end AccessUnitReassembler

open AccessUnitReassembler

def ReassemblerOp.viewed : ReassemblerOp → ReassemblerOp
  | .push fragment nowUs => .pushView fragment nowUs
  | op => op

theorem map_answer {α : Type} {owned viewed : AccessUnitReassembler × α}
    (same : owned.map uncounted id = viewed.map uncounted id) (ans : α → ReassemblerAnswer) :
    Prod.map uncounted id (owned.1, ans owned.2) =
      Prod.map uncounted id (viewed.1, ans viewed.2) := by
  rw [Prod.ext_iff] at same
  exact Prod.ext same.1 (congrArg ans same.2)

theorem reassemblerStep_viewed {owned viewed : AccessUnitReassembler}
    (same : owned.uncounted = viewed.uncounted) (op : ReassemblerOp) :
    (reassemblerStep owned op).map uncounted id =
      (reassemblerStep viewed op.viewed).map uncounted id := by
  have pushed (frag : VideoFragment) (view view' : Bool) (nowUs : Nat) :
      (owned.pushPayload frag view nowUs).map uncounted id =
        (viewed.pushPayload frag view' nowUs).map uncounted id := by
    rw [uncounted_pushPayload owned frag view true nowUs,
      uncounted_pushPayload viewed frag view' true nowUs, same]
  cases op with
  | activateEpoch epoch lastDelivered =>
    have activated : (owned.activateEpoch epoch lastDelivered).map uncounted id =
        (viewed.activateEpoch epoch lastDelivered).map uncounted id := by
      rw [uncounted_activateEpoch, uncounted_activateEpoch, same]
    exact map_answer activated .activated
  | push frag nowUs => exact map_answer (pushed frag false true nowUs) .completed
  | pushView frag nowUs => exact map_answer (pushed frag true true nowUs) .completed
  | popCompleted =>
    have popped : (owned.popCompleted).map uncounted id =
        (viewed.popCompleted).map uncounted id := by
      rw [uncounted_popCompleted, uncounted_popCompleted, same]
    exact map_answer popped .completed
  | discardExpired nowUs ttlUs =>
    have discarded : (owned.discardExpired nowUs ttlUs).map uncounted id =
        (viewed.discardExpired nowUs ttlUs).map uncounted id := by
      rw [uncounted_discardExpired, uncounted_discardExpired, same]
    exact map_answer discarded .discarded

theorem exec_viewed {owned viewed : AccessUnitReassembler}
    (same : owned.uncounted = viewed.uncounted) (ops : List ReassemblerOp) :
    (exec reassemblerStep owned ops).uncounted =
        (exec reassemblerStep viewed (ops.map ReassemblerOp.viewed)).uncounted ∧
      (trace reassemblerStep owned ops).map Prod.snd =
        (trace reassemblerStep viewed (ops.map ReassemblerOp.viewed)).map Prod.snd := by
  induction ops generalizing owned viewed with
  | nil => exact ⟨same, rfl⟩
  | cons op ops ih =>
    have stepped := Prod.ext_iff.mp (reassemblerStep_viewed same op)
    obtain ⟨final, answers⟩ := ih stepped.1
    exact ⟨final, congrArg₂ List.cons stepped.2 answers⟩

/-- Whether fragments are pushed or viewed, a run answers the same and ends alike. -/
theorem push_pushView_agree (maxInflightFrames maxInflightBytes : Nat) (ops : List ReassemblerOp) :
    let start := AccessUnitReassembler.new maxInflightFrames maxInflightBytes
    (exec reassemblerStep start ops).uncounted =
        (exec reassemblerStep start (ops.map ReassemblerOp.viewed)).uncounted ∧
      (trace reassemblerStep start ops).map Prod.snd =
        (trace reassemblerStep start (ops.map ReassemblerOp.viewed)).map Prod.snd := by
  exact exec_viewed rfl ops

end VisionForge.Video
