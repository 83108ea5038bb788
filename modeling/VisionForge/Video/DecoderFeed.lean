import VisionForge.Lib.Histories
import VisionForge.Video.NativeReceiver

/-! # What the decoder is fed

A predictive picture can only be decoded behind its reference. Whatever arrives, is lost or is
restarted, the recv hands the decoder such a picture only right behind the one before it.
-/

namespace VisionForge.Video

open Lib.Histories Lib.Run Lib.Weights

namespace ReceiverEpochSession

variable (sess : ReceiverEpochSession) (streamEpoch : Nat)

@[simp] theorem retireThrough_activeEpoch :
    (sess.retireThrough streamEpoch).activeEpoch = sess.activeEpoch := by
  unfold retireThrough
  split
  · rfl
  · split <;> rfl

theorem observe_activeEpoch :
    (sess.observe streamEpoch).1.activeEpoch = sess.activeEpoch ∧
      ((sess.observe streamEpoch).2 = .active → sess.activeEpoch = some streamEpoch) := by
  unfold observe becomeCandidate
  split
  · exact ⟨rfl, fun no => by cases no⟩
  split
  · exact ⟨rfl, fun _ => ‹_›⟩
  repeat' split
  all_goals exact ⟨by simp, fun no => by cases no⟩

theorem commitCandidate_activeEpoch
    (committed : (sess.commitCandidate streamEpoch true).2 = true) :
    (sess.commitCandidate streamEpoch true).1.activeEpoch = some streamEpoch ∧
      ∀ active, sess.activeEpoch = some active → active < streamEpoch := by
  unfold commitCandidate at committed ⊢
  split at committed
  · cases committed
  · rename_i newer
    rw [if_neg newer]
    simp only [not_or, Option.any_eq_true, decide_eq_true_eq, not_exists, not_and,
      Nat.not_le] at newer
    exact ⟨rfl, newer.2.2.2⟩

end ReceiverEpochSession

/-- A reassembler that was only pushed fragments of one epoch. -/
def Reassembles (fragments : List VideoFragment) (epoch : Option Nat)
    (reasm : AccessUnitReassembler) : Prop :=
  ∃ ops, exec reassemblerStep freshReassembler ops = reasm ∧
    ∀ frag ∈ pushed ops, frag ∈ fragments ∧ epoch = some frag.identity.streamEpoch

/-- An access unit of one epoch, made of these fragments. -/
def CompletedAccessUnit.MadeOf (fragments : List VideoFragment) (epoch : Option Nat)
    (accessUnit : CompletedAccessUnit) : Prop :=
  accessUnit.ConcatenationOf fragments ∧ epoch = some accessUnit.identity.streamEpoch

namespace Reassembles

variable {fragments : List VideoFragment} {epoch : Option Nat} {reasm : AccessUnitReassembler}
  {frag : VideoFragment}

theorem fresh : Reassembles fragments epoch freshReassembler :=
  ⟨[], rfl, fun _ mem => by cases mem⟩

theorem step (h : Reassembles fragments epoch reasm) {op : ReassemblerOp}
    (known : ∀ frag ∈ op.fragment, frag ∈ fragments ∧ epoch = some frag.identity.streamEpoch) :
    Reassembles fragments epoch (reassemblerStep reasm op).1 ∧
      ∀ unit, (reassemblerStep reasm op).2.accessUnit = some unit →
        unit.MadeOf fragments epoch := by
  obtain ⟨ops, rfl, old⟩ := h
  have all : ∀ frag ∈ pushed ops ++ op.fragment.toList,
      frag ∈ fragments ∧ epoch = some frag.identity.streamEpoch := by
    intro frag mem
    rcases List.mem_append.mp mem with mem | mem
    · exact old frag mem
    · exact known frag (Option.mem_toList.mp mem)
  refine ⟨⟨ops ++ [op], exec_append _ _ _ _, ?_⟩, ?_⟩
  · rw [pushed, filterMap_concat]
    exact all
  · intro unit isUnit
    obtain ⟨parts, some, bytes, each⟩ :=
      (((watched_run _ _ ops).step op).2 unit isUnit).concatenation
    have first := each 0 (List.length_pos_iff.mpr some)
    refine ⟨⟨parts, some, bytes, fun index inside => ?_⟩, ?_⟩
    · exact ⟨(all _ (each index inside).1).1, (each index inside).2⟩
    · rw [← first.2.1]
      exact (all _ first.1).2

theorem fresh_activateEpoch (active : Nat) (seed : Option Nat) :
    Reassembles fragments epoch (freshReassembler.activateEpoch active seed).1 :=
  (@step _ _ _ fresh (.activateEpoch active seed) (fun _ no => by cases no)).1

theorem reassemble (h : Reassembles fragments epoch reasm) (turn : Turn)
    (known : frag ∈ fragments) (isEpoch : epoch = some frag.identity.streamEpoch) :
    Reassembles fragments epoch (NativeVideoReceiver.reassemble turn reasm frag).1 ∧
      ∀ unit, (NativeVideoReceiver.reassemble turn reasm frag).2.1 = some unit →
        unit.MadeOf fragments epoch := by
  have pushed := @step _ _ _ h (.pushView frag turn.nowUs) (by rintro _ ⟨⟩; exact ⟨known, isEpoch⟩)
  exact ⟨(@step _ _ _ pushed.1 (.discardExpired turn.nowUs kAccessUnitReassemblyTtlUs)
    (fun _ no => by cases no)).1, pushed.2⟩

end Reassembles

/-! ## The feed -/

/-- What a submission may follow: it passes for one with an IDR, or the picture before it was
    accepted just before. Epochs never go back, and submissions are numbered on end. -/
structure Follows (before : List (Submission × Bool)) (event : Submission × Bool) : Prop where
  reference : h264AccessUnitContainsIdr event.1.accessUnit.bytes = true ∨
    ∃ last, before.getLast? = some (last, true) ∧
      event.1.accessUnit.identity.streamEpoch = last.accessUnit.identity.streamEpoch ∧
      event.1.accessUnit.identity.frameSequence = last.accessUnit.identity.frameSequence + 1
  epochs : ∀ earlier ∈ before,
    earlier.1.accessUnit.identity.streamEpoch ≤ event.1.accessUnit.identity.streamEpoch
  numbered : event.1.controlSequence = (before.length + 1) % 2 ^ 64

theorem ReceiverReferenceSyncPolicy.evaluate_eq_admits {pol : ReceiverReferenceSyncPolicy}
    {sequence : Nat} {isIdr : Bool} (admitted : pol.evaluate sequence isIdr = .admits) :
    isIdr = true ∨ pol.awaitingIdr = false ∧
      ∃ last, pol.lastAcceptedSequence = some last ∧ sequence = last + 1 := by
  unfold evaluate at admitted
  split at admitted
  · exact .inl ‹_›
  split at admitted
  · cases admitted
  rename_i synced
  split at admitted
  · rename_i follows
    obtain ⟨last, isLast, next⟩ := Option.bind_eq_some_iff.mp follows
    unfold advanceVideoFrameSequence at next
    split at next
    · cases next
    · exact .inr ⟨eq_false_of_ne_true synced, last, isLast, (Option.some.inj next).symm⟩
  · cases admitted

namespace DecoderFeed

variable {fragments : List VideoFragment} {feed : DecoderFeed} {epoch : Option Nat}
  {unit : CompletedAccessUnit}

structure Sound (fragments : List VideoFragment) (epoch : Option Nat) (feed : DecoderFeed) :
    Prop where
  numbered : feed.nextControlSequence = (feed.submitted.length + 1) % 2 ^ 64
  lawful : Each Follows feed.submitted
  made : ∀ event ∈ feed.submitted, ∃ current, epoch = some current ∧
    event.1.accessUnit.ConcatenationOf fragments ∧
    event.1.accessUnit.identity.streamEpoch ≤ current
  chained : feed.referenceSyncPolicy.awaitingIdr = false →
    feed.repeatResyncPolicy.realFrameAccepted = true ∧
      ∃ last, feed.submitted.getLast? = some (last, true) ∧
        feed.referenceSyncPolicy.lastAcceptedSequence =
          some last.accessUnit.identity.frameSequence ∧
        epoch = some last.accessUnit.identity.streamEpoch

theorem Sound.requireReferenceSync (h : feed.Sound fragments epoch) :
    feed.requireReferenceSync.Sound fragments epoch :=
  ⟨h.numbered, h.lawful, h.made, fun no => by cases no⟩

/-- A newer epoch starts with a wait for an IDR. -/
theorem Sound.advance (h : feed.Sound fragments epoch) {next : Nat}
    (newer : ∀ active, epoch = some active → active < next) :
    feed.requireReferenceSync.Sound fragments (some next) := by
  refine ⟨h.numbered, h.lawful, ?_, fun no => by cases no⟩
  intro event mem
  obtain ⟨current, isCurrent, made, le⟩ := h.made event mem
  exact ⟨next, rfl, made, le.trans (newer current isCurrent).le⟩

/-- The gate for repeats rejects nothing that the gate for references admits. -/
theorem Sound.admits (h : feed.Sound fragments epoch)
    (admitted : feed.referenceSyncPolicy.evaluate unit.identity.frameSequence
      (h264AccessUnitContainsIdr unit.bytes) = .admits) :
    (feed.repeatResyncPolicy.admits
      (unit.repeatedContent && !h264AccessUnitContainsIdr unit.bytes)).submit = true := by
  unfold ReceiverRepeatResyncPolicy.admits
  rcases ReceiverReferenceSyncPolicy.evaluate_eq_admits admitted with isIdr | ⟨synced, -⟩
  · simp [isIdr]
  · simp [(h.chained synced).1]

theorem Sound.submit (h : feed.Sound fragments epoch) (turn : Turn)
    (made : unit.ConcatenationOf fragments) (current : epoch = some unit.identity.streamEpoch) :
    (feed.submitCompletedAccessUnit turn unit).1.Sound fragments epoch := by
  unfold submitCompletedAccessUnit
  dsimp only
  split
  · exact h.requireReferenceSync
  rename_i admitted
  rw [not_not] at admitted
  have reference := ReceiverReferenceSyncPolicy.evaluate_eq_admits admitted
  simp only [h.admits admitted, Bool.not_true, Bool.false_eq_true, if_false]
  generalize isSubmission : Submission.mk unit _ _ _ = submission
  obtain ⟨isUnit, isNumber⟩ : submission.accessUnit = unit ∧
      submission.controlSequence = feed.nextControlSequence := by
    rw [← isSubmission]
    exact ⟨rfl, rfl⟩
  have follows (accepted : Bool) : Follows feed.submitted (submission, accepted) := by
    refine ⟨?_, ?_, isNumber.trans h.numbered⟩
    · rw [isUnit]
      refine reference.imp id ?_
      rintro ⟨synced, before, isBefore, next⟩
      obtain ⟨-, last, isLast, isSequence, isEpoch⟩ := h.chained synced
      rw [isSequence] at isBefore
      rw [current] at isEpoch
      exact ⟨last, isLast, Option.some.inj isEpoch, by rw [next, Option.some.inj isBefore]⟩
    · intro earlier mem
      obtain ⟨epoch, isEpoch, -, le⟩ := h.made earlier mem
      rw [current] at isEpoch
      rw [isUnit, Option.some.inj isEpoch]
      exact le
  have sound (accepted : Bool) (repeats : ReceiverRepeatResyncPolicy)
      (references : ReceiverReferenceSyncPolicy) (time : Nat)
      (chained : references.awaitingIdr = false → repeats.realFrameAccepted = true ∧
        accepted = true ∧ references.lastAcceptedSequence = some unit.identity.frameSequence) :
      Sound fragments epoch ⟨repeats, references, time, (feed.nextControlSequence + 1) % 2 ^ 64,
        feed.submitted ++ [(submission, accepted)]⟩ := by
    refine ⟨by simp [h.numbered], each_append.mpr ⟨h.lawful, follows accepted⟩, ?_, ?_⟩
    · intro event mem
      rcases List.mem_append.mp mem with old | new
      · exact h.made event old
      · rw [List.mem_singleton.mp new, isUnit]
        exact ⟨_, current, made, le_rfl⟩
    · intro synced
      obtain ⟨real, rfl, isSequence⟩ := chained synced
      exact ⟨real, submission, by simp, isUnit ▸ isSequence, isUnit ▸ current⟩
  cases turn.accepts submission with
  | false => exact sound false _ _ _ (fun no => by cases no)
  | true =>
    refine sound true _ _ _ (fun _ => ⟨?_, rfl, rfl⟩)
    unfold ReceiverRepeatResyncPolicy.recordSubmitResult
    rcases reference with isIdr | ⟨synced, -⟩
    · simp [isIdr]
    · simp only [Bool.not_true, Bool.false_eq_true, if_false]
      split
      · rfl
      · exact (h.chained synced).1

end DecoderFeed

/-! ## The receiver -/

/-- What the loop keeps: both reassemblers were pushed what arrived for their epochs, and the
    decoder's feed stands at the active epoch. -/
structure Supplied (fragments : List VideoFragment) (activeReassembler candidateReassembler :
    AccessUnitReassembler) (epoch : Option Nat) (candidateEpoch : Nat)
    (pendingIdr : Option CompletedAccessUnit) (decoderFeed : DecoderFeed) : Prop where
  active : Reassembles fragments epoch activeReassembler
  candidate : Reassembles fragments (some candidateEpoch) candidateReassembler
  pending : ∀ idr, pendingIdr = some idr → idr.ConcatenationOf fragments
  feed : decoderFeed.Sound fragments epoch

namespace NativeVideoReceiver

abbrev Supplied (fragments : List VideoFragment) (recv : NativeVideoReceiver) : Prop :=
  Video.Supplied fragments recv.activeReassembler recv.candidateReassembler
    recv.epochSession.activeEpoch recv.candidateReassemblerEpoch
    recv.pendingCandidateIdr recv.feed

variable {fragments : List VideoFragment} {recv : NativeVideoReceiver} {turn : Turn}
  {frag : VideoFragment}

namespace Supplied

variable (h : recv.Supplied fragments)

include h

theorem requireReferenceSync : recv.requireReferenceSync.Supplied fragments :=
  ⟨h.active, h.candidate, h.pending, h.feed.requireReferenceSync⟩

theorem withPending {pending : Option CompletedAccessUnit}
    (made : ∀ idr, pending = some idr → idr.ConcatenationOf fragments) :
    { recv with pendingCandidateIdr := pending }.Supplied fragments :=
  ⟨h.active, h.candidate, made, h.feed⟩

theorem rebuildActive (seed : Option Nat) :
    (recv.rebuildActiveReassembler seed).Supplied fragments := by
  refine ⟨?_, h.candidate, h.pending, h.feed⟩
  unfold rebuildActiveReassembler
  split
  · exact .fresh_activateEpoch _ _
  · exact .fresh

theorem rebuildCandidate (epoch : Nat) :
    (recv.rebuildCandidateReassembler epoch).Supplied fragments :=
  ⟨h.active, .fresh_activateEpoch _ _, h.pending, h.feed⟩

theorem requestIdr (turn : Turn) (idle invalidate : Bool) :
    (recv.requestIdr turn idle invalidate).Supplied fragments := by
  have kept : (if invalidate = true then recv.requireReferenceSync else recv).Supplied
      fragments := by
    split
    · exact requireReferenceSync h
    · exact h
  unfold NativeVideoReceiver.requestIdr
  generalize (if invalidate = true then recv.requireReferenceSync else recv) = settled
    at kept ⊢
  dsimp only
  split <;> exact kept

/-- The feed moves on to the epoch that is committed. -/
theorem startEpoch {idr : CompletedAccessUnit} (made : idr.ConcatenationOf fragments)
    (committed : (recv.epochSession.commitCandidate idr.identity.streamEpoch true).2 = true) :
    (recv.startEpoch turn
      (recv.epochSession.commitCandidate idr.identity.streamEpoch true).1 idr).1.Supplied
      fragments := by
  obtain ⟨isEpoch, newer⟩ := recv.epochSession.commitCandidate_activeEpoch _ committed
  unfold NativeVideoReceiver.startEpoch rebuildActiveReassembler
  refine ⟨?_, h.candidate, h.pending, ?_⟩
  · dsimp only
    split
    · exact .fresh_activateEpoch _ _
    · exact .fresh
  · dsimp only
    rw [isEpoch]
    exact (h.feed.advance newer).submit turn made rfl

theorem commitRestartedCandidate : (recv.commitRestartedCandidate turn).1.Supplied fragments := by
  unfold NativeVideoReceiver.commitRestartedCandidate
  split
  · rename_i idr ready isPending
    dsimp only
    split
    · exact withPending h (fun _ no => by cases no)
    · rename_i committed
      rw [Bool.not_eq_true, Bool.not_eq_false'] at committed
      exact withPending (startEpoch h (h.pending idr isPending) committed)
        (fun _ no => by cases no)
  · exact h

theorem receiveNothing (error : SocketError) :
    (recv.receiveNothing turn error).Supplied fragments := by
  unfold NativeVideoReceiver.receiveNothing
  split
  · exact h
  cases error with
  | again =>
    have calm : { recv with consecutiveSocketErrors := 0 }.Supplied fragments := h
    dsimp only
    split
    · exact requestIdr (rebuildActive calm none) turn true true
    · exact calm
  | interrupted => exact h
  | other => exact h

omit h

theorem receiveCandidate (h : recv.Supplied fragments) (known : frag ∈ fragments) :
    (recv.receiveCandidate turn frag).Supplied fragments := by
  unfold NativeVideoReceiver.receiveCandidate
  dsimp only
  generalize isReady : (if recv.candidateReassemblerEpoch ≠ frag.identity.streamEpoch then
    { recv.rebuildCandidateReassembler frag.identity.streamEpoch with
      pendingCandidateIdr := none } else recv) = ready
  obtain ⟨supplied, isEpoch⟩ : ready.Supplied fragments ∧
      ready.candidateReassemblerEpoch = frag.identity.streamEpoch := by
    rw [← isReady]
    split
    · exact ⟨withPending (rebuildCandidate h _) (fun _ no => by cases no), rfl⟩
    · exact ⟨h, not_not.mp ‹_›⟩
  obtain ⟨made, units⟩ := supplied.candidate.reassemble turn known (congrArg some isEpoch)
  generalize reassemble turn ready.candidateReassembler frag = outcome at made units ⊢
  obtain ⟨reasm, unit, lost⟩ := outcome
  dsimp only at made units ⊢
  have next : { ready with candidateReassembler := reasm }.Supplied fragments :=
    ⟨supplied.active, made, supplied.pending, supplied.feed⟩
  have again := requestIdr (rebuildCandidate next frag.identity.streamEpoch) turn false false
  split
  · exact again
  split
  · exact next
  rename_i idr
  obtain ⟨genuine, sameEpoch⟩ := units idr rfl
  rw [isEpoch, Option.some.injEq] at sameEpoch
  have waiting : { ready with
      candidateReassembler := reasm
      pendingCandidateIdr := some idr }.Supplied fragments :=
    withPending next (by rintro _ ⟨⟩; exact genuine)
  split
  · exact again
  split
  · rw [sameEpoch]
    split
    · exact next
    · rename_i committed
      rw [Bool.not_eq_true, Bool.not_eq_false'] at committed
      exact startEpoch next genuine committed
  split
  · exact commitRestartedCandidate waiting
  have synced := requireReferenceSync waiting
  split
  · exact synced
  · exact commitRestartedCandidate synced

theorem submitAll (h : recv.Supplied fragments) (turn : Turn) (turns : Nat)
    {completed : Option CompletedAccessUnit}
    (units : ∀ unit, completed = some unit →
      unit.MadeOf fragments recv.epochSession.activeEpoch) (progress : Progress) :
    (NativeVideoReceiver.submitAll turn turns recv completed progress).1.Supplied
      fragments := by
  induction turns generalizing recv completed progress with
  | zero => exact h
  | succ turns ih =>
    cases completed with
    | none => exact h
    | some unit =>
      obtain ⟨genuine, current⟩ := units unit rfl
      have fed := h.feed.submit turn genuine current
      unfold NativeVideoReceiver.submitAll
      dsimp only
      split
      · exact ⟨h.active, h.candidate, h.pending, fed⟩
      have popped := @Reassembles.step _ _ _ h.active .popCompleted (fun _ no => by cases no)
      exact @ih { recv with
        activeReassembler := recv.activeReassembler.popCompleted.1
        feed := (recv.feed.submitCompletedAccessUnit turn unit).1 }
        ⟨popped.1, h.candidate, h.pending, fed⟩ _ popped.2 _

theorem receiveActive (h : recv.Supplied fragments) (known : frag ∈ fragments)
    (isEpoch : recv.epochSession.activeEpoch = some frag.identity.streamEpoch)
    (restarted : Bool) : (recv.receiveActive turn frag restarted).Supplied fragments := by
  unfold NativeVideoReceiver.receiveActive
  dsimp only
  obtain ⟨made, units⟩ := h.active.reassemble turn known isEpoch
  generalize reassemble turn recv.activeReassembler frag = outcome at made units ⊢
  obtain ⟨reasm, unit, lost⟩ := outcome
  dsimp only at made units ⊢
  have next : { recv with activeReassembler := reasm }.Supplied fragments :=
    ⟨made, h.candidate, h.pending, h.feed⟩
  generalize isChecked : (if lost = true then (_, none) else (_, unit)) = checked
  obtain ⟨supplied, fits⟩ : checked.1.Supplied fragments ∧ ∀ unit, checked.2 = some unit →
      unit.MadeOf fragments checked.1.epochSession.activeEpoch := by
    rw [← isChecked]
    split
    · exact ⟨rebuildActive (requireReferenceSync next) none, fun _ no => by cases no⟩
    · exact ⟨next, units⟩
  have fed := submitAll supplied turn
    (checked.1.activeReassembler.pending.entries.length + 1) fits {}
  generalize NativeVideoReceiver.submitAll turn _ _ _ _ = outcome at fed ⊢
  obtain ⟨after, progress⟩ := outcome
  dsimp only at fed ⊢
  split
  · exact fed
  have rebuilt : (if progress.submissionFailed = true then after.rebuildActiveReassembler none
      else after).Supplied fragments := by
    split
    · exact rebuildActive fed none
    · exact fed
  generalize (if progress.submissionFailed = true then after.rebuildActiveReassembler none
    else after) = settled at rebuilt ⊢
  generalize settled.recoveryPolicy.observeFragment _ _ _ _ = outcome
  have observed : { settled with recoveryPolicy := outcome.1 }.Supplied fragments := rebuilt
  split
  · exact requestIdr (rebuildActive observed none) turn false true
  · exact observed

theorem receive (h : recv.Supplied fragments)
    (known : ∀ frag, turn.fragment = some frag → frag ∈ fragments) :
    (recv.receive turn).Supplied fragments := by
  unfold NativeVideoReceiver.receive
  unfold Turn.fragment at known
  split
  · exact receiveNothing h _
  rename_i octets ipv4 port received
  rw [received] at known
  dsimp only at known ⊢
  split
  · exact h
  rename_i frag decoded
  unfold receiveFragment
  dsimp only
  split
  · exact h
  have observed := recv.epochSession.observe_activeEpoch frag.identity.streamEpoch
  generalize recv.epochSession.observe frag.identity.streamEpoch = outcome at observed ⊢
  obtain ⟨sess, decision⟩ := outcome
  dsimp only at observed ⊢
  have same (source : ReceiverSourceSession) : { recv with
      consecutiveSocketErrors := 0
      sourceSession := source
      idrDestinationReady := true
      epochSession := sess }.Supplied fragments := by
    unfold NativeVideoReceiver.Supplied
    rw [observed.1]
    exact h
  cases decision with
  | invalid => exact same _
  | retired => exact same _
  | candidate => exact receiveCandidate (same _) (known frag decoded)
  | active =>
    dsimp only
    split
    · exact same _
    · exact receiveActive (same _) (known frag decoded) (observed.1.trans (observed.2 rfl)) _

theorem run (h : recv.Supplied fragments)
    (known : ∀ frag, turn.fragment = some frag → frag ∈ fragments) :
    (recv.run turn).Supplied fragments := by
  unfold NativeVideoReceiver.run
  split
  · exact h
  have taken : (recv.takeRestartCompletion turn).Supplied fragments := by
    unfold takeRestartCompletion
    split
    · exact commitRestartedCandidate h
    · exact h
    · exact h
  dsimp only
  split
  · exact receive taken known
  · exact taken

end Supplied

theorem supplied_run (expectedSourceIpv4 : Nat) (turns : List Turn) :
    (turns.foldl run (start expectedSourceIpv4)).Supplied (turns.filterMap Turn.fragment) := by
  have keeps (some : List Turn) (known : ∀ turn ∈ some, turn ∈ turns) :
      (some.foldl run (start expectedSourceIpv4)).Supplied (turns.filterMap Turn.fragment) := by
    induction some using List.reverseRecOn with
    | nil =>
      exact ⟨.fresh, .fresh, fun _ no => (by cases no),
        ⟨rfl, each_nil, fun _ mem => (by cases mem), fun no => by cases no⟩⟩
    | append_singleton some turn ih =>
      rw [List.foldl_append]
      refine (ih (fun turn mem => known turn (List.mem_append_left _ mem))).run ?_
      intro frag isFragment
      exact List.mem_filterMap.mpr ⟨turn, known turn (by simp), isFragment⟩
  exact keeps turns (fun _ mem => mem)

end NativeVideoReceiver

/-- The loop never runs out of turns. -/
theorem submitAll_enough (turn : Turn) (recv : NativeVideoReceiver)
    (completed : Option CompletedAccessUnit) (progress : NativeVideoReceiver.Progress) {turns : Nat}
    (enough : recv.activeReassembler.pending.entries.length < turns) :
    NativeVideoReceiver.submitAll turn (turns + 1) recv completed progress =
      NativeVideoReceiver.submitAll turn turns recv completed progress := by
  induction turns generalizing recv completed progress with
  | zero => exact absurd enough (Nat.not_lt_zero _)
  | succ turns ih =>
    cases completed with
    | none => rfl
    | some unit =>
      rw [NativeVideoReceiver.submitAll, NativeVideoReceiver.submitAll]
      dsimp only
      split
      · rfl
      have pops := recv.activeReassembler.popCompleted_pops
      generalize recv.activeReassembler.popCompleted = outcome at pops ⊢
      cases pops with
      | nothing => cases turns <;> rfl
      | delivers _ pending =>
        apply ih
        have size := @total_erase _ _ _ (fun _ => 1) _ _ _
          (AccessUnitReassembler.lookup_of_mem pending)
        rw [AccessUnitReassembler.erasePending_pending, length_entries]
        rw [length_entries] at enough
        dsimp only at enough size ⊢
        omega

/-- Whatever datagrams come, whenever they come, and whatever the decoder does with what it is
    handed. -/
theorem decoder_is_fed_behind_references (expectedSourceIpv4 : Nat) (turns : List Turn) :
    let recv : NativeVideoReceiver := turns.foldl .run (.start expectedSourceIpv4)
    Each Follows recv.feed.submitted ∧
      ∀ event ∈ recv.feed.submitted,
        event.1.accessUnit.ConcatenationOf (turns.filterMap Turn.fragment) := by
  have sound := (NativeVideoReceiver.supplied_run expectedSourceIpv4 turns).feed
  refine ⟨sound.lawful, fun event mem => ?_⟩
  obtain ⟨_, _, made, _⟩ := sound.made event mem
  exact made

/-- The check of repeats behind that of references never rejects anything. -/
theorem repeat_gate_is_never_reached (expectedSourceIpv4 : Nat) (turns : List Turn)
    (unit : CompletedAccessUnit) :
    let recv : NativeVideoReceiver := turns.foldl .run (.start expectedSourceIpv4)
    let syncFrame := h264AccessUnitContainsIdr unit.bytes
    recv.feed.referenceSyncPolicy.evaluate unit.identity.frameSequence syncFrame ≠ .admits ∨
      (recv.feed.repeatResyncPolicy.admits
        (unit.repeatedContent && !syncFrame)).submit = true := by
  intro recv syncFrame
  rw [← imp_iff_not_or]
  exact (NativeVideoReceiver.supplied_run expectedSourceIpv4 turns).feed.admits

end VisionForge.Video
