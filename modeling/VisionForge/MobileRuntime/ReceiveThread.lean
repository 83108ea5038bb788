import VisionForge.Lib.Histories
import VisionForge.MobileRuntime.Effects

/-! # The receive thread

Whatever bytes arrive and whatever the ports throw, every call of the runtime answers: each
record it builds is within its bounds and each exception of a port is caught.
-/

namespace VisionForge.MobileRuntime

open Lib.Ascii Lib.Histories Lib.Methods Lib.Utf MobileRuntimeCompositionRoot

/-- A runtime that can be called at a time, after so many publications. -/
structure Ready (nowNanos : Int) (published : Nat) (turn : Turn) : Prop where
  sound : turn.root.reassembly.Sound
  changed : 0 ≤ turn.root.blockerChangedAtNanos
  ordered : turn.root.blockerChangedAtNanos ≤ turn.root.lastNowNanos
  later : turn.root.lastNowNanos ≤ nowNanos
  counted : turn.root.transitionId ≤ published

namespace Ready

variable {now : Int} {published : Nat} {turn turn' : Turn}

theorem weaken (ready : Ready now published turn) : Ready now (published + 1) turn :=
  ⟨ready.sound, ready.changed, ready.ordered, ready.later, by have := ready.counted; omega⟩

theorem call (ready : Ready now published turn) (call : PortCall) :
    Ready now published (turn.call call) :=
  ⟨ready.sound, ready.changed, ready.ordered, ready.later, ready.counted⟩

theorem change (ready : Ready now published turn) {root : MobileRuntimeCompositionRoot}
    (sound : root.reassembly.Sound)
    (changed : root.blockerChangedAtNanos = turn.root.blockerChangedAtNanos)
    (clock : root.lastNowNanos = turn.root.lastNowNanos)
    (counted : root.transitionId = turn.root.transitionId) :
    Ready now published { turn with root } where
  sound := sound
  changed := by
    rw [changed]
    exact ready.changed
  ordered := by
    rw [changed, clock]
    exact ready.ordered
  later := by
    rw [clock]
    exact ready.later
  counted := by
    rw [counted]
    exact ready.counted

end Ready

section

variable {now : Int} {published : Nat} {epoch seq : Int} {reason : Units}

theorem change_returns {update : MobileRuntimeCompositionRoot → MobileRuntimeCompositionRoot}
    {pre post : Turn → Prop}
    (holds : ∀ turn : Turn, pre turn → post { turn with root := update turn.root }) :
    Returns pre (change update) fun _ => post :=
  fun turn ready => ⟨(), _, rfl, holds turn ready⟩

theorem safeDiagnostic_returns (code : Units) (detail : Option Units) :
    Returns (Ready now published) (safeDiagnostic code detail)
      fun _ => Ready now published :=
  fun _ ready => ⟨(), _, rfl, ready.call _⟩

theorem ask_returns (call : PortCall) :
    Returns (Ready now published) (ask call) fun _ => Ready now published :=
  fun _ ready => ⟨_, _, rfl, ready.call call⟩

theorem advanceClock_returns :
    Returns (Ready now published) (advanceClock now)
      fun _ turn => Ready now published turn ∧ turn.root.lastNowNanos = now := by
  intro turn ready
  have later := ready.later
  have ordered := ready.ordered
  have changed := ready.changed
  refine ⟨(), { turn with root := { turn.root with lastNowNanos := now } }, ?_, ?_, rfl⟩
  · rw [advanceClock, part_run, if_neg (by omega), if_neg (by omega)]
  · exact ⟨ready.sound, changed, ordered.trans later, le_refl now, ready.counted⟩

theorem blockedBy_ready {turn : Turn} (blocker : ControlBlocker)
    (ready : Ready now published turn) :
    Ready now published { turn with root := blockedBy turn.root blocker } := by
  unfold blockedBy
  split
  · exact ⟨ready.sound, ready.changed.trans ready.ordered, le_refl _, ready.later, ready.counted⟩
  · exact ready

/-- No publication is refused before the transitions are used up. -/
theorem publish_returns {videoState : VideoState} {transportState : TransportState}
    {blocker : ControlBlocker} (room : published < LONG_MAX) (epoch_nonneg : 0 ≤ epoch)
    (sequence_nonneg : 0 ≤ seq) (sequence_le : seq ≤ UINT32_MAX) :
    Returns (Ready now published)
      (publish videoState transportState blocker epoch seq now)
      fun _ => Ready now (published + 1) := by
  refine advanceClock_returns.bind fun _ => ?_
  have blocks : Returns
      (fun turn : Turn => Ready now published turn ∧ turn.root.lastNowNanos = now)
      (change (blockedBy · blocker)) fun _ => Ready now published :=
    change_returns fun turn ready => blockedBy_ready blocker ready.1
  have counts : Returns (Ready now published)
      (part (countTransition (lifecycleOf videoState blocker) videoState transportState blocker))
      fun _ => Ready now (published + 1) := by
    intro turn ready
    have counted := ready.counted
    rw [part_run]
    unfold countTransition
    split_ifs with moved full
    · omega
    · refine ⟨(), _, rfl, ready.sound, ready.changed, ready.ordered, ready.later, ?_⟩
      simp only
      omega
    · exact ⟨(), _, rfl, ready.weaken⟩
  refine blocks.bind fun _ => counts.bind fun _ => ?_
  intro turn ready
  have ordered := ready.ordered
  have valid := turn.root.readModel.correlation_valid
  rw [part_run]
  unfold replaceSnapshot
  rw [if_neg (by omega), RuntimeSnapshot.new, dif_pos (by omega), dif_pos sequence_le, dif_pos valid]
  exact ⟨(), _, rfl, ready.sound, ready.changed, ready.ordered, ready.later, ready.counted⟩

theorem requestSessionRebuild_returns (room : published < LONG_MAX) (epoch_nonneg : 0 ≤ epoch) :
    Returns (Ready now published) (requestSessionRebuild epoch reason now)
      fun _ => Ready now (published + 1) := by
  have aborts : Returns (Ready now published) abortActive fun _ => Ready now published :=
    fun turn ready => ⟨(), _, abortActive_run turn, ready.change ready.sound rfl rfl rfl⟩
  have closes : Returns (Ready now published) (change fun root =>
      { root with
        decoderEpoch := 0
        handoff := root.handoff.requireFreshIdr
        reassembly := root.reassembly.discardInflight }) fun _ => Ready now published := by
    refine change_returns fun turn ready => ready.change ?_ rfl rfl rfl
    exact VideoPreflightReassemblyWindow.sound_clearInflight _
  refine aborts.bind fun _ => closes.bind fun _ => (ask_returns _).bind fun thrown => ?_
  cases thrown with
  | none => exact publish_returns room epoch_nonneg le_rfl (by decide)
  | some error =>
    exact (safeDiagnostic_returns _ _).bind fun _ =>
      publish_returns room epoch_nonneg le_rfl (by decide)

theorem requestIdr_returns (room : published < LONG_MAX) (epoch_nonneg : 0 ≤ epoch) :
    Returns (Ready now published) (requestIdr epoch reason now)
      fun ans => Ready now (if ans then published else published + 1) := by
  refine (ask_returns _).bind fun thrown => ?_
  cases thrown with
  | none => exact .pure fun _ ready => ready
  | some error =>
    exact (safeDiagnostic_returns _ _).bind fun _ =>
      (requestSessionRebuild_returns room epoch_nonneg).bind fun _ => .pure fun _ ready => ready

theorem closeHandoff_returns {blocker : ControlBlocker} {refused ans : DatagramOutcome}
    (room : published < LONG_MAX) (epoch_nonneg : 0 ≤ epoch) (sequence_nonneg : 0 ≤ seq)
    (sequence_le : seq ≤ UINT32_MAX) :
    Returns (Ready now published)
      (closeHandoff epoch seq reason blocker refused ans now)
      fun _ => Ready now (published + 1) := by
  have closes : Returns (Ready now published) (change fun root =>
      { root with
        handoff := root.handoff.requireFreshIdr
        reassembly := root.reassembly.discardInflight }) fun _ => Ready now published := by
    refine change_returns fun turn ready => ready.change ?_ rfl rfl rfl
    exact VideoPreflightReassemblyWindow.sound_clearInflight _
  refine closes.bind fun _ => (requestIdr_returns room epoch_nonneg).bind fun isAnswered => ?_
  cases isAnswered with
  | true =>
    exact (publish_returns room epoch_nonneg sequence_nonneg sequence_le).then_pure _
  | false => exact .pure fun _ ready => ready

theorem requestCandidateIdrPreservingCurrent_returns (room : published < LONG_MAX)
    (epoch_nonneg : 0 ≤ epoch) :
    Returns (Ready now published)
      (requestCandidateIdrPreservingCurrent epoch reason now)
      fun _ => Ready now (published + 1) := by
  intro turn ready
  rw [requestCandidateIdrPreservingCurrent, current_bind]
  refine (ask_returns _).bind (fun thrown => ?_) turn ready
  cases thrown with
  | none =>
    refine (safeDiagnostic_returns _ _).bind fun _ => ?_
    split
    · exact .pure fun _ ready => ready.weaken
    · exact (publish_returns room epoch_nonneg le_rfl (by decide)).then_pure _
  | some error =>
    refine (safeDiagnostic_returns _ _).bind fun _ => ?_
    split
    · exact .pure fun _ ready => ready.weaken
    · exact (requestSessionRebuild_returns room epoch_nonneg).then_pure _

theorem abortRestart_returns (pos : 0 < epoch) :
    Returns (Ready now published) (abortRestart epoch) fun _ => Ready now published := by
  intro turn ready
  rw [abortRestart, part_run]
  unfold DecoderRestartCoordinator.abort
  rw [if_neg (not_le.mpr pos)]
  split_ifs
  · exact ⟨_, _, rfl, ready.change ready.sound rfl rfl rfl⟩
  · exact ⟨_, _, rfl, ready.change ready.sound rfl rfl rfl⟩

theorem startDecoderRestart_returns (room : published < LONG_MAX) (pos : 0 < epoch) :
    Returns (Ready now published) (startDecoderRestart epoch now)
      fun started => Ready now (if started then published else published + 1) := by
  refine (ask_returns _).bind fun thrown => ?_
  cases thrown with
  | none => exact .pure fun _ ready => ready
  | some error =>
    exact (abortRestart_returns pos).bind fun _ => (safeDiagnostic_returns _ _).bind fun _ =>
      (requestSessionRebuild_returns room pos.le).bind fun _ => .pure fun _ ready => ready

theorem finishDrain_returns (room : published < LONG_MAX) (hsub : Nat)
    (last : Option AccessUnit) :
    Returns (Ready now published) (finishDrain hsub last now)
      fun _ => Ready now (published + 1) := by
  cases last with
  | none => exact .pure fun _ ready => ready.weaken
  | some last =>
    have bound := last.sequence_le
    exact (publish_returns room (by omega) (by omega) (by omega)).then_pure _

theorem drainFrom_returns (room : published < LONG_MAX) (fuel hsub : Nat)
    (last : Option AccessUnit) :
    Returns (Ready now published) (drainFrom now fuel hsub last)
      fun _ => Ready now (published + 1) := by
  induction fuel generalizing hsub last with
  | zero => exact finishDrain_returns room hsub last
  | succ fuel ih =>
    have polls : Returns (Ready now published) pollReady fun _ => Ready now published :=
      fun turn ready => ⟨_, _, rfl, ready.change ready.sound rfl rfl rfl⟩
    refine polls.bind fun polled => ?_
    cases polled with
    | none => exact finishDrain_returns room hsub last
    | some unit =>
      intro turn ready
      simp only [current_bind]
      split_ifs
      · have rebuilds : Returns (Ready now published)
            (requestSessionRebuild unit.streamEpoch (text "decoder_epoch_mismatch") now)
            fun _ => Ready now (published + 1) :=
          requestSessionRebuild_returns room (by omega)
        exact (safeDiagnostic_returns _ _).bind (fun _ => rebuilds.then_pure (-1)) turn ready
      · refine (ask_returns _).bind (fun thrown => ?_) turn ready
        cases thrown with
        | none => exact ih (hsub + 1) (some unit)
        | some error =>
          exact (safeDiagnostic_returns _ _).bind fun _ =>
            (requestSessionRebuild_returns room (by omega)).then_pure _

theorem drainReadyAccessUnits_returns (room : published < LONG_MAX) :
    Returns (Ready now published) (drainReadyAccessUnits now)
      fun _ => Ready now (published + 1) := by
  intro turn ready
  exact drainFrom_returns room _ _ _ turn ready

/-- What the runtime relies on in a result: it is about a frame with a header. -/
structure Framed (result : VideoReassemblyResult) : Prop where
  epoch_pos : 0 < result.streamEpoch
  sequence_le : result.frameSequence ≤ UINT32_MAX

variable {result : VideoReassemblyResult}

theorem bufferOrDrain_returns (room : published < LONG_MAX) (framed : Framed result) :
    Returns (Ready now published) (bufferOrDrain result now)
      fun _ => Ready now (published + 1) := by
  intro turn ready
  have bound := framed.sequence_le
  rw [bufferOrDrain, current_bind]
  split
  · have publishes : Returns (Ready now published) (publish .restarting .ready .waitingFreshIdr
        result.streamEpoch result.frameSequence now) fun _ => Ready now (published + 1) :=
      publish_returns room (by omega) (by omega) (by omega)
    exact publishes.then_pure DatagramOutcome.buffered turn ready
  · refine (drainReadyAccessUnits_returns room).bind (fun hsub => ?_) turn ready
    split_ifs <;> exact .pure fun _ ready => ready

theorem decodeOrRestart_returns (room : published < LONG_MAX) (framed : Framed result) :
    Returns (Ready now published) (decodeOrRestart result now)
      fun _ => Ready now (published + 1) := by
  intro turn ready
  have pos : (0 : Int) < result.streamEpoch := by exact_mod_cast framed.epoch_pos
  have requests : Returns (Ready now published) (requestRestart result.streamEpoch)
      fun _ => Ready now published := by
    intro turn ready
    rw [requestRestart, part_run]
    unfold DecoderRestartCoordinator.request
    split_ifs <;> exact ⟨_, _, rfl, ready.change ready.sound rfl rfl rfl⟩
  rw [decodeOrRestart, current_bind]
  split
  · refine requests.bind (fun decision => ?_) turn ready
    cases decision with
    | stale => exact .pure fun _ ready => ready.weaken
    | coalesced => exact bufferOrDrain_returns room framed
    | alreadyTargeted => exact bufferOrDrain_returns room framed
    | startNow =>
      refine (startDecoderRestart_returns room pos).bind fun started => ?_
      cases started with
      | true => exact bufferOrDrain_returns room framed
      | false => exact .pure fun _ ready => ready
  · exact bufferOrDrain_returns room framed turn ready

theorem handOver_returns {containsIdr : Bool} (room : published < LONG_MAX) (framed : Framed result)
    (filled : result.accessUnit ≠ []) :
    Returns (Ready now published) (handOver result containsIdr now)
      fun _ => Ready now (published + 1) := by
  have bound := framed.sequence_le
  have receives : Returns (Ready now published)
      (change fun root => { root with receiveEpoch := max root.receiveEpoch result.streamEpoch })
      fun _ => Ready now published :=
    change_returns fun turn ready => ready.change ready.sound rfl rfl rfl
  have builds : Returns (Ready now published) (part fun root =>
      (AccessUnit.new result.streamEpoch result.frameSequence containsIdr result.repeatedContent
        result.accessUnit).map (·, root)) fun _ => Ready now published := by
    intro turn ready
    rw [part_run, AccessUnit.new, dif_pos ⟨framed.epoch_pos, bound⟩, dif_pos filled]
    exact ⟨_, _, rfl, ready⟩
  have offers : ∀ unit, Returns (Ready now published) (offer unit)
      fun _ => Ready now published :=
    fun unit turn ready => ⟨_, _, rfl, ready.change ready.sound rfl rfl rfl⟩
  have refuses : ∀ decision, Returns (Ready now published)
      (refuseOffer result decision now) fun _ => Ready now (published + 1) :=
    fun decision => closeHandoff_returns room (by omega) (by omega) (by omega)
  refine receives.bind fun _ => builds.bind fun unit => (offers unit).bind fun decision => ?_
  cases decision with
  | stale => exact .pure fun _ ready => ready.weaken
  | duplicate => exact .pure fun _ ready => ready.weaken
  | epochExhausted =>
    exact (requestSessionRebuild_returns room (by omega)).then_pure _
  | conflict => exact refuses _
  | overflow => exact refuses _
  | needIdr => exact refuses _
  | accepted => exact decodeOrRestart_returns room framed
  | epochAdvanced => exact decodeOrRestart_returns room framed

theorem rejectCandidate_returns {epoch : Nat} (room : published < LONG_MAX) :
    Returns (Ready now published) (rejectCandidate epoch reason now)
      fun _ => Ready now (published + 1) := by
  have rejects : Returns (Ready now published) (change fun root =>
      { root with reassembly := root.reassembly.rejectCandidateEpoch epoch })
      fun _ => Ready now published :=
    change_returns fun turn ready =>
      ready.change (ready.sound.rejectCandidateEpoch epoch) rfl rfl rfl
  exact rejects.bind fun _ => requestCandidateIdrPreservingCurrent_returns room (by omega)

theorem onComplete_returns (room : published < LONG_MAX) (framed : Framed result)
    (filled : result.accessUnit ≠ []) :
    Returns (Ready now published) (onComplete result now)
      fun _ => Ready now (published + 1) := by
  obtain ⟨classification, classified⟩ := H264AccessUnitClassifier.classify_ok result.accessUnit
  have classifies : Returns (Ready now published) (part fun root =>
      (H264AccessUnitClassifier.classify result.accessUnit).map (·, root))
      fun _ => Ready now published := by
    intro turn ready
    rw [part_run, classified]
    exact ⟨_, _, rfl, ready⟩
  have commits : Returns (Ready now published) (commitCandidate result.streamEpoch)
      fun _ => Ready now published :=
    fun turn ready => ⟨_, _, rfl, ready.change (ready.sound.commitCandidateEpoch _) rfl rfl rfl⟩
  have rejects : Returns (Ready now published) (change fun root =>
      { root with reassembly := root.reassembly.rejectCandidateEpoch result.streamEpoch })
      fun _ => Ready now published :=
    change_returns fun turn ready => ready.change (ready.sound.rejectCandidateEpoch _) rfl rfl rfl
  refine classifies.bind fun classification => ?_
  split_ifs
  · exact rejectCandidate_returns room
  · exact rejectCandidate_returns room
  · exact rejectCandidate_returns room
  · refine commits.bind fun committed => ?_
    split
    · exact handOver_returns room framed filled
    · exact rejects.bind fun _ => (safeDiagnostic_returns _ _).bind fun _ =>
        (requestSessionRebuild_returns room (by omega)).then_pure _
  · exact closeHandoff_returns room (by omega) le_rfl (by decide)
  · exact handOver_returns room framed filled

theorem onResult_returns (room : published < LONG_MAX) (framed : Framed result)
    (filled : result.code = .complete → result.accessUnit ≠ []) :
    Returns (Ready now published) (onResult result now)
      fun _ => Ready now (published + 1) := by
  have recovers : ∀ reason, Returns (Ready now published)
      (requestRecovery result.streamEpoch reason now)
      fun _ => Ready now (published + 1) :=
    fun reason => closeHandoff_returns room (by omega) le_rfl (by decide)
  unfold onResult
  cases code : result.code with
  | accepted => exact .pure fun _ ready => ready.weaken
  | duplicate => exact .pure fun _ ready => ready.weaken
  | staleEpoch => exact .pure fun _ ready => ready.weaken
  | candidateRejected => exact requestCandidateIdrPreservingCurrent_returns room (by omega)
  | repeated => exact closeHandoff_returns room (by omega) le_rfl (by decide)
  | complete => exact onComplete_returns room framed (filled code)
  | conflict => exact recovers _
  | invalid => exact recovers _
  | resourceLimit => exact recovers _
  | gapDetected => exact recovers _

theorem onDatagram_returns (room : published < LONG_MAX) (datagram : Bytes) :
    Returns (Ready now published) (onDatagram datagram now)
      fun _ => Ready now (published + 1) := by
  refine (advanceClock_returns.weaken fun _ _ ready => ready.1).bind fun _ => ?_
  cases decoded : VideoFragmentHeader.decode datagram with
  | error error =>
    obtain rfl := VideoFragmentHeader.decode_error decoded
    exact (safeDiagnostic_returns _ _).bind fun _ => .pure fun _ ready => ready.weaken
  | ok header =>
    intro turn ready
    have described := @VideoPreflightReassemblyWindow.ingestRange_describes
      turn.root.reassembly header datagram BYTE_LENGTH (datagram.length - BYTE_LENGTH) now
    obtain ⟨sound, result, ans⟩ := @VideoPreflightReassemblyWindow.ingestRange_answers
      turn.root.reassembly header datagram ready.sound BYTE_LENGTH
      (datagram.length - BYTE_LENGTH) now
    obtain ⟨sameEpoch, sameSequence⟩ := described.frame result ans
    have framed : Framed result :=
      ⟨by rw [sameEpoch]; exact header.epoch_pos, by rw [sameSequence]; exact header.sequence_le⟩
    have kept : Ready now published { turn with root := { turn.root with
        reassembly := (turn.root.reassembly.ingestRange header datagram BYTE_LENGTH
          (datagram.length - BYTE_LENGTH) now).2 } } :=
      ready.change sound rfl rfl rfl
    simp only [EStateM.run_bind, ingest_run, ans]
    exact onResult_returns room framed
      (fun whole => (described.complete result ans whole).filled) _ kept

theorem onDecoderRestartComplete_returns (room : published < LONG_MAX) (pos : 0 < epoch) :
    Returns (Ready now published) (onDecoderRestartComplete epoch now)
      fun _ => Ready now (published + 1) := by
  refine (advanceClock_returns.weaken fun _ _ ready => ready.1).bind fun _ => ?_
  have completes : Returns (Ready now published) (completeRestart epoch)
      fun completion turn => Ready now published turn ∧
        ∀ next, completion = .startNext next → 0 < next := by
    intro turn ready
    cases whole : turn.root.restarts.complete epoch with
    | error error =>
      unfold DecoderRestartCoordinator.complete at whole
      rw [if_neg (not_le.mpr pos)] at whole
      split_ifs at whole
    | ok outcome =>
      obtain ⟨completion, restarts⟩ := outcome
      refine ⟨_, _, completeRestart_run whole, ready.change ready.sound rfl rfl rfl, ?_⟩
      rintro next rfl
      exact pos.trans (DecoderRestartCoordinator.complete_startNext whole).2.2.1
  refine completes.bind fun completion => ?_
  intro turn ready
  obtain ⟨ready, next_pos⟩ := ready
  cases completion with
  | staleCallback =>
    exact ((safeDiagnostic_returns _ _).weaken fun _ _ ready => ready.weaken) turn ready
  | invalidFutureCallback =>
    have rebuilds : Returns (Ready now published) (requestSessionRebuild
        turn.root.receiveEpoch (text "decoder_restart_future_completion") now)
        fun _ => Ready now (published + 1) :=
      requestSessionRebuild_returns room (by omega)
    exact rebuilds _ (ready.call _)
  | startNext next =>
    refine (startDecoderRestart_returns room (next_pos next rfl)).bind (fun started => ?_) turn
      ready
    cases started with
    | true => exact publish_returns room (next_pos next rfl).le le_rfl (by decide)
    | false => exact .pure fun _ ready => ready
  | settled =>
    have settles : Returns (Ready now published) (settle epoch)
        fun _ => Ready now published :=
      fun turn ready => ⟨(), _, rfl, ready.sound, ready.changed, ready.ordered, ready.later,
        ready.counted⟩
    exact settles.bind (fun _ => (drainReadyAccessUnits_returns room).then_pure ()) turn ready

theorem onDecoderRestartFailed_returns (room : published < LONG_MAX) (pos : 0 < epoch)
    (reason : Option Units) :
    Returns (Ready now published) (onDecoderRestartFailed epoch reason now)
      fun _ => Ready now (published + 1) := by
  refine (advanceClock_returns.weaken fun _ _ ready => ready.1).bind fun _ =>
    (abortRestart_returns pos).bind fun aborted => ?_
  cases aborted with
  | true =>
    exact (safeDiagnostic_returns _ _).bind fun _ =>
      requestSessionRebuild_returns room pos.le
  | false =>
    intro turn ready
    have rebuilds : Returns (Ready now published) (requestSessionRebuild
        turn.root.receiveEpoch (text "decoder_restart_future_failure") now)
        fun _ => Ready now (published + 1) :=
      requestSessionRebuild_returns room (by omega)
    change ∃ value state', EStateM.run (if turn.root.restarts.activeEpoch?.getD 0 ≠ 0 ∧
      turn.root.restarts.activeEpoch?.getD 0 < epoch then _ else _) turn = .ok value state' ∧ _
    split
    · exact rebuilds _ (ready.call _)
    · exact ((safeDiagnostic_returns _ _).weaken fun _ _ ready => ready.weaken) turn ready

end

/-- The time that an adapter gives with its call. -/
def MobileRuntimeCompositionRoot.Operation.nowNanos : Operation → Option Int
  | .datagram _ now => some now
  | .restartComplete _ now => now
  | .restartFailed _ _ now => now

/-- Calls at times that never go back, with callbacks of positive epochs. -/
def Timely : Int → List Step → Prop
  | _, [] => True
  | lastNanos, step :: steps =>
    (∀ now ∈ step.operation.nowNanos, lastNanos ≤ now) ∧
      (∀ epoch ∈ step.operation.callback, 0 < epoch) ∧
      Timely (step.operation.nowNanos.getD lastNanos) steps

def AllAnswer (turn : Turn) : List Step → Prop
  | [] => True
  | step :: steps =>
    (∃ turn', (perform step.operation).run { turn with answers := step.answers, asked := 0 } =
      .ok () turn') ∧ AllAnswer (turn.take step) steps

theorem take_answers {turn : Turn} {step : Step} {lastNanos : Int} {published : Nat}
    (room : published < LONG_MAX) (ready : Ready lastNanos published turn)
    (later : ∀ now ∈ step.operation.nowNanos, lastNanos ≤ now)
    (pos : ∀ epoch ∈ step.operation.callback, 0 < epoch) :
    (∃ turn', (perform step.operation).run { turn with answers := step.answers, asked := 0 } =
      .ok () turn') ∧
      Ready (step.operation.nowNanos.getD lastNanos) (published + 1) (turn.take step) := by
  obtain ⟨op, answers⟩ := step
  have clock := ready.later
  have begins : Ready (op.nowNanos.getD turn.root.lastNowNanos) published
      { turn with answers, asked := 0 } := by
    refine ⟨ready.sound, ready.changed, ready.ordered, ?_, ready.counted⟩
    cases time : op.nowNanos with
    | none => exact le_refl _
    | some now => exact clock.trans (later now time)
  have ans : ∃ value turn', (perform op).run { turn with answers, asked := 0 } =
      .ok value turn' ∧
        Ready (op.nowNanos.getD turn.root.lastNowNanos) (published + 1) turn' := by
    cases op with
    | datagram datagram now =>
      exact (onDatagram_returns room datagram).then_pure () _ begins
    | restartComplete completedEpoch now =>
      exact onDecoderRestartComplete_returns room (pos _ rfl) _ begins
    | restartFailed failedEpoch reason now =>
      exact onDecoderRestartFailed_returns room (pos _ rfl) reason _ begins
  obtain ⟨⟨⟩, turn', answer, left⟩ := ans
  have taken : turn.take ⟨op, answers⟩ = turn' := by
    have ends := congrArg after answer
    exact ends
  refine ⟨⟨turn', answer⟩, ?_⟩
  rw [taken]
  refine ⟨left.sound, left.changed, left.ordered, left.later.trans ?_, left.counted⟩
  cases op.nowNanos with
  | none => exact clock
  | some now => exact le_refl _

theorem all_answer {steps : List Step} {turn : Turn} {lastNanos : Int} {published : Nat}
    (room : published + steps.length ≤ LONG_MAX) (ready : Ready lastNanos published turn)
    (timely : Timely lastNanos steps) : AllAnswer turn steps := by
  induction steps generalizing turn lastNanos published with
  | nil => trivial
  | cons step steps ih =>
    obtain ⟨later, pos, rest⟩ := timely
    rw [List.length_cons] at room
    obtain ⟨answers, left⟩ := take_answers (by omega) ready later pos
    exact ⟨answers, ih (by omega) left rest⟩

/-- The epoch of the last restart that was taken as done, unless a new session was asked for. -/
def settledEpoch (events : List RuntimeEvent) : Option Int :=
  events.foldl (fun epoch event =>
    match event with
    | .settled completedEpoch => some completedEpoch
    | .called (.requestSessionRebuild _ _) _ => none
    | _ => epoch) none

/-- Only units of the epoch that the decoder has settled on are submitted. -/
def DecodesSettled (before : List RuntimeEvent) (event : RuntimeEvent) : Prop :=
  ∀ streamEpoch frameSequence idr accessUnit thrown,
    event = .called (.submit streamEpoch frameSequence idr accessUnit) thrown →
    settledEpoch before = some (streamEpoch : Int)

structure Settles (events : List RuntimeEvent) (root : MobileRuntimeCompositionRoot) : Prop where
  law : Each DecodesSettled events
  decodes : root.decoderEpoch = (settledEpoch events).getD 0

namespace Settles

variable {events : List RuntimeEvent} {root root' : MobileRuntimeCompositionRoot}

theorem same (settles : Settles events root) (decoderEpoch : root'.decoderEpoch = root.decoderEpoch) :
    Settles events root' :=
  ⟨settles.law, decoderEpoch.trans settles.decodes⟩

theorem call (settles : Settles events root) {call : PortCall} (thrown : Option Units)
    (submits : ∀ epoch seq idr unit, call ≠ .submit epoch seq idr unit)
    (rebuilds : ∀ epoch reason, call ≠ .requestSessionRebuild epoch reason) :
    Settles (events ++ [.called call thrown]) root := by
  refine ⟨each_append.mpr ⟨settles.law, ?_⟩, ?_⟩
  · intro epoch seq idr unit thrown same
    exact absurd (RuntimeEvent.called.inj same).1 (submits epoch seq idr unit)
  · have kept : settledEpoch (events ++ [.called call thrown]) = settledEpoch events := by
      unfold settledEpoch
      rw [List.foldl_append, List.foldl_cons, List.foldl_nil]
      split
      · next same => cases same
      · next same => exact absurd (RuntimeEvent.called.inj same).1 (rebuilds _ _)
      · rfl
    rw [kept]
    exact settles.decodes

theorem rebuild (settles : Settles events root) (epoch : Int) (reason : Units)
    (thrown : Option Units) (none : root'.decoderEpoch = 0) :
    Settles (events ++ [.called (.requestSessionRebuild epoch reason) thrown]) root' := by
  refine ⟨each_append.mpr ⟨settles.law, by simp [DecodesSettled]⟩, ?_⟩
  simp [settledEpoch, none]

/-- No effect submits a unit of another epoch. -/
theorem effect {callback : Option Int} {turn turn' : Turn} (effect : Effect callback turn turn')
    (settles : Settles turn.events turn.root) : Settles turn'.events turn'.root := by
  cases effect with
  | quiet root same => exact settles.same same.decoderEpoch
  | recorded code detail => exact settles.call _ (by simp) (by simp)
  | candidateAsked epoch reason keeps => exact settles.call _ (by simp) (by simp)
  | offered unit taken => exact settles.same rfl
  | closed handoff epoch reason closes later hexh ans =>
    exact (settles.call _ (by simp) (by simp)).same rfl
  | refused handoff epoch reason error code detail rebuild closes later refusal =>
    exact ((settles.call _ (by simp) (by simp)).call _ (by simp) (by simp)).rebuild _ _ _ rfl
  | rebuilt handoff epoch reason later idle => exact settles.rebuild _ _ _ rfl
  | submitted unit handoff idle ready decodes =>
    have pos := unit.epoch_pos
    have isSettled : settledEpoch turn.events = some (unit.streamEpoch : Int) := by
      have decoder := settles.decodes
      cases settled : settledEpoch turn.events with
      | none => simp [settled] at decoder; omega
      | some epoch => simp [settled] at decoder; simp; omega
    refine ⟨each_append.mpr ⟨settles.law, ?_⟩, ?_⟩
    · intro epoch seq idr accessUnit thrown same
      obtain ⟨⟨rfl, rfl, rfl, rfl⟩, rfl⟩ := by simpa using same
      exact isSettled
    · have decoder := settles.decodes
      simpa [settledEpoch, Turn.withHandoff, Turn.call] using decoder
  | started epoch restarts requested req running committed =>
    exact (settles.call _ (by simp) (by simp)).same rfl
  | retargeted epoch decision restarts req waits => exact settles.same rfl
  | restarted epoch next restarts reported whole =>
    exact (settles.call _ (by simp) (by simp)).same rfl
  | settled epoch restarts reported whole =>
    refine ⟨each_append.mpr ⟨settles.law, by simp [DecodesSettled]⟩, ?_⟩
    simp [settledEpoch]
  | aborted epoch restarts reported abort => exact settles.same rfl

end Settles

/-- No call of a run throws, whatever the ports do, and the decoder is only handed units of the
epoch that it has settled on. -/
theorem receive_thread_never_throws {reassemblyConfig : Config} {compressedHandoffCapacity : Int}
    {correlationId : Units} {root : MobileRuntimeCompositionRoot}
    (created : MobileRuntimeCompositionRoot.new reassemblyConfig compressedHandoffCapacity
      correlationId = .ok root) {steps : List Step} (short : steps.length < 2 ^ 62)
    (timely : Timely 0 steps) :
    AllAnswer { root } steps ∧ Each DecodesSettled (({ root } : Turn).takeAll steps).events := by
  have fresh := new_fresh created
  obtain ⟨config, isNew⟩ := fresh.reassembly
  constructor
  · have begins : Ready 0 0 { root } := by
      refine ⟨?_, ?_, ?_, ?_, ?_⟩
      · change root.reassembly.Sound
        rw [isNew]
        exact VideoPreflightReassemblyWindow.sound_new config
      · exact fresh.clock.2.ge
      · change root.blockerChangedAtNanos ≤ root.lastNowNanos
        rw [fresh.clock.1, fresh.clock.2]
      · exact fresh.clock.1.le
      · exact fresh.transitionId.le
    refine all_answer ?_ begins timely
    have limit : LONG_MAX = 9223372036854775807 := rfl
    omega
  · have begins : Settles [] root := ⟨each_nil, by simp [settledEpoch, fresh.decoderEpoch]⟩
    exact (@takeAll_keeps (fun root events => Settles events root)
      (fun _ _ _ one => Settles.effect one) steps { root } begins).law

/-- Every port throws at the first frame and at the last one; what is between is garbage, a frame
that starts the decoder, and the end of its start. -/
def faultySteps : List Step :=
  [⟨.datagram (frameDatagram 1 0 idrUnit) 0, fun _ => some (text "IllegalStateException")⟩,
    ⟨.datagram [0x56] 1, fun _ => none⟩, ⟨.datagram (frameDatagram 1 0 idrUnit) 2, fun _ => none⟩,
    ⟨.restartComplete 1 none, fun _ => none⟩,
    ⟨.datagram (frameDatagram 1 1 predictedUnit) 3, fun _ => some (text "IllegalStateException")⟩]

theorem phone_never_throws_with_faulty_ports :
    ∃ root, MobileRuntimeCompositionRoot.new .productionDefaults 8 (text "phone") = .ok root ∧
      AllAnswer { root } faultySteps ∧
      Each DecodesSettled (({ root } : Turn).takeAll faultySteps).events :=
  ⟨_, rfl, @receive_thread_never_throws .productionDefaults 8 (text "phone") _ rfl faultySteps
    (by decide) (by simp [faultySteps, Timely, MobileRuntimeCompositionRoot.Operation.nowNanos,
      MobileRuntimeCompositionRoot.Operation.callback])⟩

end VisionForge.MobileRuntime
