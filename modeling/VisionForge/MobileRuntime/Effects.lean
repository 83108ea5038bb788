import Mathlib.Logic.Relation
import VisionForge.MobileRuntime.CompositionRoot
import VisionForge.MobileRuntime.WindowResults

/-! # What a call of the runtime can do

Every call is a sequence of effects, whatever the ports throw and also where it throws
itself. Each invariant of the runtime is proved of one effect at a time.
-/

namespace VisionForge.MobileRuntime

open Lib.Ascii Lib.Methods Lib.Utf MobileRuntimeCompositionRoot

/-- The reasons of the requests that leave the current stream running. -/
def candidateReasons : List Units :=
  [text "reassembly_candidate_rejected", text "candidate_repeat_cannot_commit_epoch",
    text "candidate_malformed_annex_b_access_unit", text "candidate_epoch_requires_fresh_idr"]

/-- What `requestSessionRebuild` leaves of the restart in flight. -/
def DecoderRestartCoordinator.forget (restarts : DecoderRestartCoordinator) :
    DecoderRestartCoordinator :=
  if restarts.inFlight then .clear else restarts

theorem DecoderRestartCoordinator.idle_forget (restarts : DecoderRestartCoordinator) :
    restarts.forget.inFlight = false := by
  unfold DecoderRestartCoordinator.forget
  split
  · rfl
  · next idle => simpa using idle

def Turn.withHandoff (turn : Turn) (handoff : OrderedAccessUnitHandoff) : Turn :=
  { turn with root := { turn.root with handoff } }

def Turn.withRestarts (turn : Turn) (restarts : DecoderRestartCoordinator) : Turn :=
  { turn with root := { turn.root with restarts } }

@[simp] theorem Turn.answers_withHandoff (turn : Turn) (handoff : OrderedAccessUnitHandoff) :
    (turn.withHandoff handoff).answers = turn.answers := rfl

@[simp] theorem Turn.asked_withHandoff (turn : Turn) (handoff : OrderedAccessUnitHandoff) :
    (turn.withHandoff handoff).asked = turn.asked := rfl

@[simp] theorem Turn.answers_withRestarts (turn : Turn) (restarts : DecoderRestartCoordinator) :
    (turn.withRestarts restarts).answers = turn.answers := rfl

@[simp] theorem Turn.asked_withRestarts (turn : Turn) (restarts : DecoderRestartCoordinator) :
    (turn.withRestarts restarts).asked = turn.asked := rfl

/-- The turn after the runtime has asked for a new session. -/
def Turn.rebuilt (turn : Turn) (epoch : Int) (reason : Units) : Turn :=
  { turn with
    root :=
      { turn.root with
        restarts := turn.root.restarts.forget
        decoderEpoch := 0
        handoff := turn.root.handoff.requireFreshIdr
        reassembly := turn.root.reassembly.discardInflight } }.call
    (.requestSessionRebuild epoch reason)

/-- Nothing that the hand-off or the restarts depend on has changed. -/
structure MobileRuntimeCompositionRoot.Quiet (before after : MobileRuntimeCompositionRoot) :
    Prop where
  handoff : after.handoff = before.handoff
  restarts : after.restarts = before.restarts
  decoderEpoch : after.decoderEpoch = before.decoderEpoch
  committed : before.reassembly.currentEpoch.isSome = true →
    after.reassembly.currentEpoch.isSome = true

/-- One effect of a call, which may be the callback of a restart of an epoch. -/
inductive Effect (callback : Option Int) : Turn → Turn → Prop where
  | quiet (turn : Turn) (root : MobileRuntimeCompositionRoot) (same : turn.root.Quiet root) :
      Effect callback turn { turn with root }
  | recorded (turn : Turn) (code detail : Units) :
      Effect callback turn (turn.call (.record code detail))
  | candidateAsked (turn : Turn) (epoch : Int) (reason : Units) (keeps : reason ∈ candidateReasons) :
      Effect callback turn (turn.call (.requestIdr epoch reason))
  | offered (turn : Turn) (unit : AccessUnit)
      (taken : (turn.root.handoff.offer unit).1 ∈
        [OfferDecision.accepted, .stale, .duplicate, .epochAdvanced]) :
      Effect callback turn (turn.withHandoff (turn.root.handoff.offer unit).2)
  | closed (turn : Turn) (handoff : OrderedAccessUnitHandoff) (epoch : Int) (reason : Units)
      (closes : reason ∉ candidateReasons) (later : turn.root.handoff.epoch ≤ handoff.epoch)
      (exhausted : handoff.state = .epochExhausted → turn.root.handoff.state = .epochExhausted)
      (answered : turn.answers turn.asked = none) :
      Effect callback turn
        ((turn.withHandoff handoff.requireFreshIdr).call (.requestIdr epoch reason))
  | refused (turn : Turn) (handoff : OrderedAccessUnitHandoff) (epoch : Int)
      (reason error code detail rebuild : Units) (closes : reason ∉ candidateReasons)
      (later : turn.root.handoff.epoch ≤ handoff.epoch)
      (refusal : turn.answers turn.asked = some error) :
      Effect callback turn
        ((((turn.withHandoff handoff.requireFreshIdr).call (.requestIdr epoch reason)).call
          (.record code detail)).rebuilt epoch rebuild)
  | rebuilt (turn : Turn) (handoff : OrderedAccessUnitHandoff) (epoch : Int) (reason : Units)
      (later : turn.root.handoff.epoch ≤ handoff.epoch)
      (idle : turn.root.restarts.inFlight = true →
        turn.root.handoff.state = .epochExhausted ∨ turn.root.reassembly.currentEpoch = none ∨
          ∃ epoch ∈ callback, turn.root.restarts.activeEpoch < epoch) :
      Effect callback turn ((turn.withHandoff handoff).rebuilt epoch reason)
  | submitted (turn : Turn) (unit : AccessUnit) (handoff : OrderedAccessUnitHandoff)
      (idle : turn.root.restarts.inFlight = false)
      (ready : turn.root.handoff.pollReady = (some unit, handoff))
      (decodes : (unit.streamEpoch : Int) = turn.root.decoderEpoch) :
      Effect callback turn ((turn.withHandoff handoff).call
        (.submit unit.streamEpoch unit.frameSequence unit.idr unit.bytes))
  | started (turn : Turn) (epoch : Int) (restarts : DecoderRestartCoordinator)
      (requested : callback = none)
      (request : turn.root.restarts.request epoch = .ok (.startNow, restarts))
      (running : turn.root.handoff.state = .running)
      (committed : turn.root.reassembly.currentEpoch.isSome = true) :
      Effect callback turn
        ((turn.withRestarts (if (turn.answers turn.asked).isSome then .clear else restarts)).call
          (.restartForEpoch epoch))
  | retargeted (turn : Turn) (epoch : Int) (decision : RequestDecision)
      (restarts : DecoderRestartCoordinator)
      (request : turn.root.restarts.request epoch = .ok (decision, restarts))
      (waits : decision ≠ .startNow) :
      Effect callback turn (turn.withRestarts restarts)
  | restarted (turn : Turn) (epoch next : Int) (restarts : DecoderRestartCoordinator)
      (reported : callback = some epoch)
      (complete : turn.root.restarts.complete epoch = .ok (.startNext next, restarts)) :
      Effect callback turn
        ((turn.withRestarts (if (turn.answers turn.asked).isSome then .clear else restarts)).call
          (.restartForEpoch next))
  | settled (turn : Turn) (epoch : Int) (restarts : DecoderRestartCoordinator)
      (reported : callback = some epoch)
      (complete : turn.root.restarts.complete epoch = .ok (.settled, restarts)) :
      Effect callback turn
        { turn with
          root := { turn.root with restarts, decoderEpoch := epoch }
          events := turn.events ++ [.settled epoch] }
  | aborted (turn : Turn) (epoch : Int) (restarts : DecoderRestartCoordinator)
      (reported : callback = some epoch)
      (abort : turn.root.restarts.abort epoch = .ok (true, restarts)) :
      Effect callback turn (turn.withRestarts restarts)

abbrev Effects (callback : Option Int) : Turn → Turn → Prop :=
  Relation.ReflTransGen (Effect callback)

theorem effects_keep {callback : Option Int} {invariant : Turn → Prop}
    (step : ∀ turn turn', Effect callback turn turn' → invariant turn → invariant turn')
    {turn turn' : Turn} (effects : Effects callback turn turn') (holds : invariant turn) :
    invariant turn' := by
  induction effects with
  | refl => exact holds
  | tail _ effect ih => exact step _ _ effect ih

namespace MobileRuntimeCompositionRoot

theorem Quiet.refl (root : MobileRuntimeCompositionRoot) : root.Quiet root :=
  ⟨rfl, rfl, rfl, id⟩

section

variable {callback : Option Int} {start turn : Turn} {epoch sequence now : Int}
  {reason : Units}

theorem part_keeps {α : Type} {method : MobileRuntimeCompositionRoot →
    Except Throwable (α × MobileRuntimeCompositionRoot)}
    (quiet : ∀ root value root', method root = .ok (value, root') → root.Quiet root') :
    Keeps (Effects callback start) (part method) := by
  intro turn hr
  rw [part_run]
  cases ans : method turn.root with
  | ok outcome => exact hr.tail (.quiet turn outcome.2 (quiet _ _ _ ans))
  | error error => exact hr

theorem change_keeps {update : MobileRuntimeCompositionRoot → MobileRuntimeCompositionRoot}
    (quiet : ∀ root : MobileRuntimeCompositionRoot, root.Quiet (update root)) :
    Keeps (Effects callback start) (change update) :=
  fun turn hr => hr.tail (.quiet turn _ (quiet turn.root))

theorem safeDiagnostic_keeps (code : Units) (detail : Option Units) :
    Keeps (Effects callback start) (safeDiagnostic code detail) :=
  fun turn hr => hr.tail (.recorded turn _ _)

theorem advanceClock_keeps : Keeps (Effects callback start) (advanceClock now) := by
  apply part_keeps
  intro root value root' advanced
  split_ifs at advanced
  obtain ⟨-, rfl⟩ := Prod.mk.inj (Except.ok.inj advanced)
  exact ⟨rfl, rfl, rfl, id⟩

variable {blocker : ControlBlocker}

theorem countTransition_quiet {lifecycle : Lifecycle} {videoState : VideoState}
    {transportState : TransportState} (root : MobileRuntimeCompositionRoot) (value : Unit)
    (root' : MobileRuntimeCompositionRoot)
    (counted : countTransition lifecycle videoState transportState blocker root =
      .ok (value, root')) : root.Quiet root' := by
  unfold countTransition at counted
  split_ifs at counted
  · obtain ⟨-, rfl⟩ := Prod.mk.inj (Except.ok.inj counted)
    exact ⟨rfl, rfl, rfl, id⟩
  · obtain ⟨-, rfl⟩ := Prod.mk.inj (Except.ok.inj counted)
    exact .refl root

theorem replaceSnapshot_quiet {lifecycle : Lifecycle} {videoState : VideoState}
    {transportState : TransportState} {epoch sequence : Int} (root : MobileRuntimeCompositionRoot)
    (value : Unit) (root' : MobileRuntimeCompositionRoot)
    (replaced : replaceSnapshot lifecycle videoState transportState blocker epoch sequence root =
      .ok (value, root')) : root.Quiet root' := by
  unfold replaceSnapshot at replaced
  split_ifs at replaced
  split at replaced
  · cases replaced
  · obtain ⟨-, rfl⟩ := Prod.mk.inj (Except.ok.inj replaced)
    exact ⟨rfl, rfl, rfl, id⟩

theorem publish_keeps {videoState : VideoState} {transportState : TransportState} :
    Keeps (Effects callback start)
      (publish videoState transportState blocker epoch sequence now) := by
  refine advanceClock_keeps.bind fun _ => (change_keeps ?_).bind fun _ =>
    (part_keeps countTransition_quiet).bind fun _ => part_keeps replaceSnapshot_quiet
  intro root
  unfold blockedBy
  split
  · exact ⟨rfl, rfl, rfl, id⟩
  · exact .refl root

variable {restarts : DecoderRestartCoordinator}

theorem abortRestart_run {aborted : Bool}
    (abort : turn.root.restarts.abort epoch = .ok (aborted, restarts)) :
    (abortRestart epoch).run turn = .ok aborted (turn.withRestarts restarts) := by
  rw [abortRestart, part_run, abort]
  rfl

theorem completeRestart_run {completion : Completion}
    (whole : turn.root.restarts.complete epoch = .ok (completion, restarts)) :
    (completeRestart epoch).run turn = .ok completion (turn.withRestarts restarts) := by
  rw [completeRestart, part_run, whole]
  rfl

theorem abortActive_run (turn : Turn) :
    abortActive.run turn = .ok () (turn.withRestarts turn.root.restarts.forget) := by
  rw [abortActive, current_bind]
  unfold DecoderRestartCoordinator.activeEpoch? DecoderRestartCoordinator.forget
  cases flying : turn.root.restarts.inFlight with
  | false => rfl
  | true =>
    simp only [if_true, EStateM.run_bind, abortRestart_run (turn.root.restarts.abort_active flying)]
    rfl

theorem requestSessionRebuild_effects
    (hr : Effects callback start (turn.rebuilt epoch reason)) :
    Effects callback start (after ((requestSessionRebuild epoch reason now).run turn)) := by
  rw [requestSessionRebuild, EStateM.run_bind, abortActive_run]
  dsimp only
  rw [change_bind, ask_bind]
  dsimp only [Turn.withRestarts]
  cases turn.answers turn.asked with
  | none => exact publish_keeps _ hr
  | some error => exact (safeDiagnostic_keeps _ _).bind (fun _ => publish_keeps) _ hr

/-- The hand-off is closed with a request, or with a new session if that fails. -/
theorem closeHandoff_effects {handoff : OrderedAccessUnitHandoff}
    {refused ans : DatagramOutcome} (hr : Effects callback start turn)
    (closes : reason ∉ candidateReasons) (later : turn.root.handoff.epoch ≤ handoff.epoch)
    (hexh : handoff.state = .epochExhausted → turn.root.handoff.state = .epochExhausted) :
    Effects callback start (after ((closeHandoff epoch sequence reason blocker refused ans
      now).run (turn.withHandoff handoff))) := by
  rw [closeHandoff, change_bind]
  apply Keeps.after_bind
  · simp only [requestIdr, ask_bind, Turn.answers_withHandoff, Turn.asked_withHandoff]
    cases answer : turn.answers turn.asked with
    | none =>
      exact (hr.tail (.closed turn handoff epoch reason closes later hexh answer)).tail
        (.quiet _ _ ⟨rfl, rfl, rfl, id⟩)
    | some error =>
      have closed := hr.tail (.refused turn handoff epoch reason error
        (sanitizeDetail (some (text "idr_request_failed"))) (sanitizeDetail (some error))
        (text "idr_request_failed") closes later answer)
      rw [safeDiagnostic_bind]
      refine Keeps.after_bind (requestSessionRebuild_effects ?_) fun _ => .pure false
      exact closed
  · intro isAnswered
    cases isAnswered with
    | true => exact publish_keeps.bind fun _ => .pure ans
    | false => exact .pure refused

theorem requestRecovery_keeps (closes : reason ∉ candidateReasons) :
    Keeps (Effects callback start) (requestRecovery epoch reason now) :=
  fun _ hr => closeHandoff_effects hr closes le_rfl id

theorem requestCandidateIdrPreservingCurrent_keeps (keeps : reason ∈ candidateReasons) :
    Keeps (Effects callback start)
      (requestCandidateIdrPreservingCurrent epoch reason now) := by
  intro turn hr
  have asked := hr.tail (.candidateAsked turn epoch reason keeps)
  simp only [requestCandidateIdrPreservingCurrent, current_bind, ask_bind]
  cases turn.answers turn.asked with
  | none =>
    refine (safeDiagnostic_keeps _ _).bind (fun _ => ?_) _ asked
    split
    · exact .pure _
    · exact publish_keeps.bind fun _ => .pure _
  | some error =>
    have recorded := asked.tail (.recorded _
      (sanitizeDetail (some (text "candidate_idr_request_failed"))) (sanitizeDetail (some error)))
    rw [safeDiagnostic_bind]
    cases missing : turn.root.reassembly.currentEpoch with
    | some cur => exact recorded
    | none =>
      have rebuilt := recorded.tail (.rebuilt _ _ epoch (text "candidate_idr_request_failed")
        le_rfl fun _ => .inr (.inl missing))
      exact Keeps.after_bind (requestSessionRebuild_effects rebuilt) fun _ => .pure _

/-- The way from a restart that is asked of the decoder. -/
theorem startDecoderRestart_effects (abort : restarts.abort epoch = .ok (true, .clear))
    (hr : Effects callback start
      ((turn.withRestarts (if (turn.answers turn.asked).isSome then .clear else restarts)).call
        (.restartForEpoch epoch))) :
    Effects callback start
      (after ((startDecoderRestart epoch now).run (turn.withRestarts restarts))) := by
  simp only [startDecoderRestart, ask_bind, Turn.answers_withRestarts, Turn.asked_withRestarts]
  cases ans : turn.answers turn.asked with
  | none =>
    rw [ans] at hr
    exact hr
  | some error =>
    rw [ans] at hr
    have aborted : (abortRestart epoch).run
        ((turn.withRestarts restarts).call (.restartForEpoch epoch)) =
          .ok true ((turn.withRestarts .clear).call (.restartForEpoch epoch)) :=
      abortRestart_run abort
    have recorded := hr.tail (.recorded _
      (sanitizeDetail (some (text "decoder_restart_dispatch_failed")))
      (sanitizeDetail (some error)))
    have rebuilt := recorded.tail (.rebuilt _ _ epoch (text "decoder_restart_dispatch_failed")
      le_rfl (by intro flying; cases flying))
    rw [EStateM.run_bind, aborted]
    simp only
    rw [safeDiagnostic_bind]
    exact Keeps.after_bind (requestSessionRebuild_effects rebuilt) fun _ => .pure _

theorem finishDrain_keeps (hsub : Nat) (last : Option AccessUnit) :
    Keeps (Effects callback start) (finishDrain hsub last now) := by
  cases last with
  | none => exact .pure _
  | some last => exact publish_keeps.bind fun _ => .pure _

theorem pollReady_none {handoff : OrderedAccessUnitHandoff}
    (missing : handoff.pollReady.1 = none) : handoff.pollReady.2 = handoff := by
  unfold OrderedAccessUnitHandoff.pollReady at missing ⊢
  cases next : handoff.nextSequence with
  | none => rfl
  | some sequence =>
    simp only [next] at missing ⊢
    split at missing
    · next stopped => rw [if_pos stopped]
    · next running =>
        split at missing
        · simp
        · cases missing

theorem epoch_pollReady (handoff : OrderedAccessUnitHandoff) :
    handoff.pollReady.2.epoch = handoff.epoch := by
  unfold OrderedAccessUnitHandoff.pollReady
  split
  · rfl
  · split
    · rfl
    · split
      · rfl
      · split <;> rfl

/-- While no restart is in flight, the units that are next go to the decoder. -/
theorem drainFrom_effects (fuel hsub : Nat) (last : Option AccessUnit)
    (hr : Effects callback start turn) (idle : turn.root.restarts.inFlight = false) :
    Effects callback start (after ((drainFrom now fuel hsub last).run turn)) := by
  induction fuel generalizing turn hsub last with
  | zero => exact finishDrain_keeps hsub last turn hr
  | succ fuel ih =>
    have polled : pollReady.run turn =
        .ok turn.root.handoff.pollReady.1 (turn.withHandoff turn.root.handoff.pollReady.2) := rfl
    rw [drainFrom, EStateM.run_bind, polled]
    cases answer : turn.root.handoff.pollReady.1 with
    | none =>
      rw [pollReady_none answer]
      exact finishDrain_keeps hsub last turn hr
    | some ready =>
      simp only [current_bind]
      have isReady : turn.root.handoff.pollReady =
          (some ready, turn.root.handoff.pollReady.2) := by rw [← answer]
      have later := (epoch_pollReady turn.root.handoff).ge
      split_ifs with differs
      · have recorded := hr.tail (.recorded turn
          (sanitizeDetail (some (text "decoder_epoch_mismatch")))
          (sanitizeDetail (some (longText ready.streamEpoch ++ text "_vs_" ++
            longText turn.root.decoderEpoch))))
        have rebuilt := recorded.tail (.rebuilt _ _ ready.streamEpoch
          (text "decoder_epoch_mismatch") later
          (by intro flying; exact absurd (idle.symm.trans flying) (by decide)))
        rw [safeDiagnostic_bind]
        exact Keeps.after_bind (requestSessionRebuild_effects rebuilt) fun _ => .pure _
      · have submits := hr.tail
          (.submitted turn ready _ idle isReady (not_not.mp differs))
        simp only [ask_bind, Turn.answers_withHandoff, Turn.asked_withHandoff]
        cases ans : turn.answers turn.asked with
        | none => exact ih (hsub + 1) (some ready) submits idle
        | some error =>
          have recorded := submits.tail (.recorded _
            (sanitizeDetail (some (text "decoder_submit_failed")))
            (sanitizeDetail (some error)))
          have rebuilt := recorded.tail (.rebuilt _ _ ready.streamEpoch
            (text "decoder_submit_failed") le_rfl
            (by intro flying; exact absurd (idle.symm.trans flying) (by decide)))
          rw [safeDiagnostic_bind]
          exact Keeps.after_bind (requestSessionRebuild_effects rebuilt) fun _ => .pure _

theorem drainReadyAccessUnits_effects (hr : Effects callback start turn)
    (idle : turn.root.restarts.inFlight = false) :
    Effects callback start (after ((drainReadyAccessUnits now).run turn)) := by
  exact drainFrom_effects _ _ _ hr idle

theorem bufferOrDrain_keeps (res : VideoReassemblyResult) :
    Keeps (Effects callback start) (bufferOrDrain res now) := by
  intro turn hr
  rw [bufferOrDrain, current_bind]
  cases flying : turn.root.restarts.inFlight with
  | true =>
    exact publish_keeps.bind (fun _ => .pure _) turn hr
  | false =>
    refine Keeps.after_bind (drainReadyAccessUnits_effects hr flying) fun hsub => ?_
    split_ifs <;> exact .pure _

variable {res : VideoReassemblyResult}

theorem decodeOrRestart_effects (requested : callback = none)
    (hr : Effects callback start turn) (running : turn.root.handoff.state = .running)
    (committed : turn.root.reassembly.currentEpoch.isSome = true) :
    Effects callback start (after ((decodeOrRestart res now).run turn)) := by
  rw [decodeOrRestart, current_bind]
  split_ifs with other
  · simp only [requestRestart, EStateM.run_bind, part_run]
    cases req : turn.root.restarts.request res.streamEpoch with
    | error error => exact hr
    | ok outcome =>
      obtain ⟨decision, restarts⟩ := outcome
      cases decision with
      | stale => exact hr.tail (.retargeted turn _ _ restarts req (by decide))
      | coalesced =>
        exact bufferOrDrain_keeps res _
          (hr.tail (.retargeted turn _ _ restarts req (by decide)))
      | alreadyTargeted =>
        exact bufferOrDrain_keeps res _
          (hr.tail (.retargeted turn _ _ restarts req (by decide)))
      | startNow =>
        obtain ⟨-, -, flying, on⟩ := DecoderRestartCoordinator.request_startNow req
        have aborts := on ▸ restarts.abort_active flying
        have started := hr.tail
          (.started turn _ restarts requested req running committed)
        refine Keeps.after_bind
          (startDecoderRestart_effects aborts started) fun isStarted => ?_
        cases isStarted with
        | true => exact bufferOrDrain_keeps res
        | false => exact .pure _
  · exact bufferOrDrain_keeps res turn hr

theorem refuseOffer_closes (decision : OfferDecision)
    (refused : decision ∈ [OfferDecision.conflict, .overflow, .needIdr]) :
    text "compressed_handoff_" ++ lower decision.name ∉ candidateReasons := by
  revert decision
  decide

theorem refuseOffer_effects {unit : AccessUnit} {decision : OfferDecision}
    (hr : Effects callback start turn)
    (refused : decision ∈ [OfferDecision.conflict, .overflow, .needIdr]) :
    Effects callback start (after ((refuseOffer res decision now).run
      (turn.withHandoff (turn.root.handoff.offer unit).2))) :=
  closeHandoff_effects hr (refuseOffer_closes decision refused)
    (turn.root.handoff.epoch_offer unit) (turn.root.handoff.exhausted_offer unit)

/-- A frame of a committed epoch is offered and, once it is taken, decoded or kept. -/
theorem handOver_effects {containsIdr : Bool} (requested : callback = none)
    (hr : Effects callback start turn)
    (committed : turn.root.reassembly.currentEpoch.isSome = true) :
    Effects callback start (after ((handOver res containsIdr now).run turn)) := by
  rw [handOver, change_bind]
  have received : Effects callback start { turn with root :=
      { turn.root with receiveEpoch := max turn.root.receiveEpoch res.streamEpoch } } :=
    hr.tail (.quiet turn _ ⟨rfl, rfl, rfl, id⟩)
  have kept : ({ turn with root :=
      { turn.root with receiveEpoch := max turn.root.receiveEpoch res.streamEpoch } } :
        Turn).root.reassembly.currentEpoch.isSome = true := committed
  generalize ({ turn with root :=
    { turn.root with receiveEpoch := max turn.root.receiveEpoch res.streamEpoch } } :
      Turn) = turn at received kept ⊢
  rw [EStateM.run_bind, part_run]
  cases AccessUnit.new res.streamEpoch res.frameSequence containsIdr
      res.repeatedContent res.accessUnit with
  | error error => exact received
  | ok unit =>
    have offered : (offer unit).run turn = .ok (turn.root.handoff.offer unit).1
        (turn.withHandoff (turn.root.handoff.offer unit).2) := rfl
    change Effects callback start (after ((offer unit >>= _).run turn))
    rw [EStateM.run_bind, offered]
    have running := turn.root.handoff.running_offer unit
    have ended := turn.root.handoff.offer_exhausted unit
    have taken := fun mem => received.tail (.offered turn unit mem)
    cases decision : (turn.root.handoff.offer unit).1 with
    | stale => exact taken (by simp [decision])
    | duplicate => exact taken (by simp [decision])
    | epochExhausted =>
      have rebuilt := received.tail (.rebuilt turn _ res.streamEpoch
        (text "frame_sequence_epoch_exhausted") (turn.root.handoff.epoch_offer unit)
        fun _ => .inl (ended decision))
      exact Keeps.after_bind (requestSessionRebuild_effects rebuilt) fun _ => .pure _
    | conflict => exact refuseOffer_effects received (by simp)
    | overflow => exact refuseOffer_effects received (by simp)
    | needIdr => exact refuseOffer_effects received (by simp)
    | accepted =>
      exact decodeOrRestart_effects requested (taken (by simp [decision]))
        (running (by simp [decision])) kept
    | epochAdvanced =>
      exact decodeOrRestart_effects requested (taken (by simp [decision]))
        (running (by simp [decision])) kept

theorem rejectCandidate_keeps {epoch : Nat} (keeps : reason ∈ candidateReasons) :
    Keeps (Effects callback start) (rejectCandidate epoch reason now) := by
  refine (change_keeps ?_).bind fun _ => requestCandidateIdrPreservingCurrent_keeps keeps
  intro root
  exact ⟨rfl, rfl, rfl, by simp⟩

theorem onComplete_effects {hdr : VideoFragmentHeader} (requested : callback = none)
    (hr : Effects callback start turn) (same : res.streamEpoch = hdr.streamEpoch)
    (delivered : turn.root.reassembly.Delivered hdr res) :
    Effects callback start (after ((onComplete res now).run turn)) := by
  rw [onComplete, EStateM.run_bind, part_run]
  obtain ⟨classification, classified⟩ := H264AccessUnitClassifier.classify_ok res.accessUnit
  rw [classified]
  simp only [Except.map]
  split_ifs with ahead repeated malformed missing malformed
  · exact rejectCandidate_keeps (by decide) turn hr
  · exact rejectCandidate_keeps (by decide) turn hr
  · exact rejectCandidate_keeps (by decide) turn hr
  · obtain ⟨commits, isCurrent⟩ := delivered.commits ahead
    rw [← same] at commits isCurrent
    have committed : (commitCandidate res.streamEpoch).run turn = .ok true { turn with root :=
        { turn.root with
          reassembly := (turn.root.reassembly.commitCandidateEpoch res.streamEpoch).1 } } := by
      rw [commitCandidate, part_run]
      simp only [commits]
    rw [EStateM.run_bind, committed]
    refine handOver_effects requested (hr.tail (.quiet turn _ ⟨rfl, rfl, rfl, ?_⟩)) ?_
    · intro _
      simp [isCurrent]
    · simp [isCurrent]
  · exact requestRecovery_keeps (by decide) turn hr
  · have own := delivered.own (by simpa using ahead)
    exact handOver_effects requested hr (by simp [own])

theorem reassembly_closes (code : Code)
    (failed : code ∈ [Code.conflict, .invalid, .resourceLimit, .gapDetected]) :
    text "reassembly_" ++ lower code.name ∉ candidateReasons := by
  revert code
  decide

theorem onResult_effects {hdr : VideoFragmentHeader} (hr : Effects none start turn)
    (same : res.streamEpoch = hdr.streamEpoch)
    (delivered : res.code = .complete → turn.root.reassembly.Delivered hdr res) :
    Effects none start (after ((onResult res now).run turn)) := by
  have closes := reassembly_closes res.code
  unfold onResult
  cases code : res.code with
  | accepted => exact hr
  | duplicate => exact hr
  | staleEpoch => exact hr
  | candidateRejected =>
    exact requestCandidateIdrPreservingCurrent_keeps (by decide) turn hr
  | repeated => exact closeHandoff_effects hr (by decide) le_rfl id
  | complete => exact onComplete_effects rfl hr same (delivered code)
  | conflict => exact requestRecovery_keeps (code ▸ closes (by simp [code])) turn hr
  | invalid => exact requestRecovery_keeps (code ▸ closes (by simp [code])) turn hr
  | resourceLimit => exact requestRecovery_keeps (code ▸ closes (by simp [code])) turn hr
  | gapDetected => exact requestRecovery_keeps (code ▸ closes (by simp [code])) turn hr

theorem onDatagram_effects (datagram : Bytes) (now : Int) (begun : Turn) :
    Effects none begun (after ((onDatagram datagram now).run begun)) := by
  refine Keeps.after_bind (advanceClock_keeps begun .refl) fun _ => ?_
  cases VideoFragmentHeader.decode datagram with
  | error error =>
    cases error with
    | illegalArgument => exact (safeDiagnostic_keeps _ _).bind fun _ => .pure _
    | illegalState => exact .throw _
    | arrayIndexOutOfBounds => exact .throw _
    | port => exact .throw _
  | ok header =>
    intro turn hr
    have described := @VideoPreflightReassemblyWindow.ingestRange_describes
      turn.root.reassembly header datagram BYTE_LENGTH (datagram.length - BYTE_LENGTH) now
    have ingested : Effects none begun { turn with root := { turn.root with
        reassembly := (turn.root.reassembly.ingestRange header datagram BYTE_LENGTH
          (datagram.length - BYTE_LENGTH) now).2 } } := by
      refine hr.tail (.quiet turn _ ⟨rfl, rfl, rfl, ?_⟩)
      rw [described.current]
      exact id
    rw [EStateM.run_bind, ingest_run]
    cases ans : (turn.root.reassembly.ingestRange header datagram BYTE_LENGTH
        (datagram.length - BYTE_LENGTH) now).1 with
    | error error => exact ingested
    | ok res =>
      exact onResult_effects ingested (described.frame res ans).1
        (described.complete res ans)

theorem onDecoderRestartComplete_effects (completedEpoch now : Int) (turn : Turn) :
    Effects (some completedEpoch) turn
      (after ((onDecoderRestartComplete completedEpoch now).run turn)) := by
  refine Keeps.after_bind (advanceClock_keeps turn .refl) fun _ => ?_
  intro turn hr
  cases whole : turn.root.restarts.complete completedEpoch with
  | error error =>
    rw [completeRestart, EStateM.run_bind, part_run, whole]
    exact hr
  | ok outcome =>
    obtain ⟨completion, restarts⟩ := outcome
    rw [EStateM.run_bind, completeRestart_run whole]
    cases completion with
    | staleCallback =>
      have same := (DecoderRestartCoordinator.complete_ignored whole (.inl rfl)).1
      subst same
      exact safeDiagnostic_keeps _ _ turn hr
    | invalidFutureCallback =>
      obtain ⟨same, later⟩ := DecoderRestartCoordinator.complete_ignored whole (.inr rfl)
      subst same
      have recorded := hr.tail (.recorded turn
        (sanitizeDetail (some (text "decoder_restart_future_completion")))
        (sanitizeDetail (some (longText completedEpoch))))
      have rebuilt := recorded.tail (.rebuilt _ _ turn.root.receiveEpoch
        (text "decoder_restart_future_completion") le_rfl
        fun _ => .inr (.inr ⟨completedEpoch, rfl, later rfl⟩))
      exact requestSessionRebuild_effects rebuilt
    | startNext next =>
      obtain ⟨-, -, -, flying, on⟩ := DecoderRestartCoordinator.complete_startNext whole
      have aborts := on ▸ restarts.abort_active flying
      have restarted := hr.tail (.restarted turn completedEpoch next restarts rfl whole)
      refine Keeps.after_bind
        (startDecoderRestart_effects aborts restarted) fun isStarted => ?_
      cases isStarted with
      | true => exact publish_keeps
      | false => exact .pure _
    | settled =>
      have settles := hr.tail (.settled turn completedEpoch restarts rfl whole)
      dsimp only
      rw [settle_bind]
      refine Keeps.after_bind (drainReadyAccessUnits_effects settles ?_) fun _ => .pure _
      rw [(DecoderRestartCoordinator.complete_settled whole).2.2]
      rfl

theorem onDecoderRestartFailed_effects (failedEpoch : Int) (reason : Option Units) (now : Int)
    (turn : Turn) :
    Effects (some failedEpoch) turn
      (after ((onDecoderRestartFailed failedEpoch reason now).run turn)) := by
  refine Keeps.after_bind (advanceClock_keeps turn .refl) fun _ => ?_
  intro turn hr
  cases abort : turn.root.restarts.abort failedEpoch with
  | error error =>
    rw [abortRestart, EStateM.run_bind, part_run, abort]
    exact hr
  | ok outcome =>
    obtain ⟨aborted, restarts⟩ := outcome
    rw [EStateM.run_bind, abortRestart_run abort]
    cases aborted with
    | true =>
      have recorded := (hr.tail (.aborted turn failedEpoch restarts rfl abort)).tail
        (.recorded _ (sanitizeDetail (some (text "decoder_restart_failed")))
          (sanitizeDetail (some (sanitizeDetail reason))))
      have idle : restarts.inFlight = false := by
        rw [(DecoderRestartCoordinator.abort_active_only abort).2.2]
        rfl
      have rebuilt := recorded.tail (.rebuilt _ _ failedEpoch (text "decoder_restart_failed")
        le_rfl (by intro flying; exact absurd (idle.symm.trans flying) (by decide)))
      exact requestSessionRebuild_effects rebuilt
    | false =>
      have same := DecoderRestartCoordinator.abort_ignored abort
      subst same
      change Effects (some failedEpoch) _ (after (EStateM.run
        (if turn.root.restarts.activeEpoch?.getD 0 ≠ 0 ∧
            turn.root.restarts.activeEpoch?.getD 0 < failedEpoch then _ else _) turn))
      split_ifs with future
      · have later : turn.root.restarts.inFlight = true →
            turn.root.restarts.activeEpoch < failedEpoch := by
          intro flying
          simpa [DecoderRestartCoordinator.activeEpoch?, flying] using future.2
        have recorded := hr.tail (.recorded turn
          (sanitizeDetail (some (text "decoder_restart_future_failure")))
          (sanitizeDetail (some (longText failedEpoch))))
        have rebuilt := recorded.tail (.rebuilt _ _ turn.root.receiveEpoch
          (text "decoder_restart_future_failure") le_rfl
          fun flying => .inr (.inr ⟨failedEpoch, rfl, later flying⟩))
        exact requestSessionRebuild_effects rebuilt
      · exact safeDiagnostic_keeps _ _ turn hr

end

/-- The callback that an operation is, by its epoch. -/
def Operation.callback : Operation → Option Int
  | .datagram _ _ => none
  | .restartComplete completedEpoch _ => some completedEpoch
  | .restartFailed failedEpoch _ _ => some failedEpoch

theorem perform_effects (op : Operation) (turn : Turn) :
    Effects op.callback turn (after ((perform op).run turn)) := by
  cases op with
  | datagram datagram now =>
    exact Keeps.after_bind (onDatagram_effects datagram now turn) fun _ => .pure _
  | restartComplete completedEpoch now =>
    exact onDecoderRestartComplete_effects completedEpoch _ turn
  | restartFailed failedEpoch reason now =>
    exact onDecoderRestartFailed_effects failedEpoch reason _ turn

end MobileRuntimeCompositionRoot

/-- An operation with what the ports answer to its calls. -/
structure Step where
  operation : Operation
  answers : Nat → Option Units := fun _ => none

def Turn.take (turn : Turn) (step : Step) : Turn :=
  after ((perform step.operation).run { turn with answers := step.answers, asked := 0 })

theorem take_effects (turn : Turn) (step : Step) : Effects step.operation.callback
    { turn with answers := step.answers, asked := 0 } (turn.take step) :=
  perform_effects step.operation _

theorem effects_grow {callback : Option Int} {turn turn' : Turn}
    (effects : Effects callback turn turn') : ∃ more, turn'.events = turn.events ++ more := by
  induction effects with
  | refl => exact ⟨[], by simp⟩
  | @tail middle last _ effect ih =>
    have grows : ∃ more, last.events = middle.events ++ more := by
      cases effect with
      | quiet root same => exact ⟨[], (List.append_nil _).symm⟩
      | recorded code detail => exact ⟨_, rfl⟩
      | candidateAsked epoch reason keeps => exact ⟨_, rfl⟩
      | offered unit taken => exact ⟨[], (List.append_nil _).symm⟩
      | closed handoff epoch reason closes later hexh ans => exact ⟨_, rfl⟩
      | refused handoff epoch reason error code detail rebuild closes later refusal =>
        exact ⟨_, by rw [← List.append_assoc, ← List.append_assoc]; rfl⟩
      | rebuilt handoff epoch reason later idle => exact ⟨_, rfl⟩
      | submitted unit handoff idle ready decodes => exact ⟨_, rfl⟩
      | started epoch restarts requested req running committed => exact ⟨_, rfl⟩
      | retargeted epoch decision restarts req waits =>
        exact ⟨[], (List.append_nil _).symm⟩
      | restarted epoch next restarts reported whole => exact ⟨_, rfl⟩
      | settled epoch restarts reported whole => exact ⟨_, rfl⟩
      | aborted epoch restarts reported abort => exact ⟨[], (List.append_nil _).symm⟩
    obtain ⟨more, isMore⟩ := ih
    obtain ⟨others, isOthers⟩ := grows
    exact ⟨more ++ others, by rw [isOthers, isMore, List.append_assoc]⟩

theorem take_grows (turn : Turn) (step : Step) :
    ∃ more, (turn.take step).events = turn.events ++ more := by
  have grows := effects_grow (take_effects turn step)
  exact grows

def Turn.takeAll (turn : Turn) (steps : List Step) : Turn := steps.foldl Turn.take turn

theorem takeAll_keeps {invariant : MobileRuntimeCompositionRoot → List RuntimeEvent → Prop}
    (effect : ∀ callback turn turn', Effect callback turn turn' →
      invariant turn.root turn.events → invariant turn'.root turn'.events)
    (steps : List Step) {turn : Turn} (holds : invariant turn.root turn.events) :
    invariant (turn.takeAll steps).root (turn.takeAll steps).events := by
  induction steps generalizing turn with
  | nil => exact holds
  | cons step steps ih =>
    have taken : invariant (turn.take step).root (turn.take step).events :=
      effects_keep (fun _ _ one => effect _ _ _ one) (take_effects turn step) holds
    exact ih taken

def frameDatagram (epoch sequence : UInt8) (accessUnit : Bytes) : Bytes :=
  [0x56, 0x46, 0x32, 0x47, 0, 0, 0, 0, 0, 0, 0, epoch, 0, 0, 0, sequence, 0, 0, 0, 1] ++ accessUnit

def idrUnit : Bytes := [0, 0, 1, 0x65, 1]

def predictedUnit : Bytes := [0, 0, 1, 0x41, 1]

end VisionForge.MobileRuntime
