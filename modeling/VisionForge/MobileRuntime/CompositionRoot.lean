import VisionForge.Lib.Methods
import VisionForge.MobileRuntime.AccessUnits
import VisionForge.MobileRuntime.ReassemblyWindow
import VisionForge.MobileRuntime.RestartCoordinator
import VisionForge.MobileRuntime.VideoFragmentHeader
import VisionForge.PhoneLease.JsonObject

/-! # What the runtime tells its readers

A snapshot is replaced as a whole and is only built of values within their bounds.
-/

namespace VisionForge.MobileRuntime

open Lib.Utf

inductive Lifecycle where
  | stopped
  | starting
  | running
  | recovering
  | failed
  deriving DecidableEq

inductive VideoState where
  | idle
  | waitingForIdr
  | decoding
  | restarting
  | degraded
  deriving DecidableEq

inductive TransportState where
  | disconnected
  | connecting
  | ready
  | circuitOpen
  deriving DecidableEq

inductive ControlBlocker where
  | runnable
  | noFreshContent
  | waitingFreshIdr
  | waitingPostAckVisibility
  | ticketPending
  | ticketDeadlineExpired
  | detectedNotTrackEligible
  | subcountUnresolvable
  | transportNotReady
  | recoveryRequired
  deriving DecidableEq

def validCorrelationId (correlationId : Units) : Bool :=
  !correlationId.all PhoneLease.isWhitespace && decide (correlationId.length ≤ 128)

structure RuntimeSnapshot where
  lifecycle : Lifecycle
  videoState : VideoState
  transportState : TransportState
  controlBlocker : ControlBlocker
  streamEpoch : Int
  frameSequence : Int
  transitionId : Int
  blockerAge : Int
  correlationId : Units
  counters_nonneg : 0 ≤ streamEpoch ∧ 0 ≤ frameSequence ∧ 0 ≤ transitionId ∧ 0 ≤ blockerAge
  sequence_le : frameSequence ≤ UINT32_MAX
  correlation_valid : validCorrelationId correlationId = true
  deriving DecidableEq

namespace RuntimeSnapshot

def new (lifecycle : Lifecycle) (videoState : VideoState) (transportState : TransportState)
    (controlBlocker : ControlBlocker)
    (streamEpoch frameSequence transitionId blockerAge : Int) (correlationId : Units) :
    Except Throwable RuntimeSnapshot :=
  if counters : 0 ≤ streamEpoch ∧ 0 ≤ frameSequence ∧ 0 ≤ transitionId ∧ 0 ≤ blockerAge then
    if sequence : frameSequence ≤ UINT32_MAX then
      if correlation : validCorrelationId correlationId = true then
        .ok
          { lifecycle
            videoState
            transportState
            controlBlocker
            streamEpoch
            frameSequence
            transitionId
            blockerAge
            correlationId
            counters_nonneg := counters
            sequence_le := sequence
            correlation_valid := correlation }
      else .error .illegalArgument
    else .error .illegalArgument
  else .error .illegalArgument

def initial (correlationId : Units) : Except Throwable RuntimeSnapshot :=
  new .stopped .idle .disconnected .transportNotReady 0 0 0 0 correlationId

end RuntimeSnapshot

/-! ## The video runtime of the phone

The composition root takes datagrams and the callbacks of the decoder and calls three ports.
A port may throw at any call; the exception is known by the name of its class.
-/

open Lib.Ascii Lib.Decimal

inductive PortCall where
  | restartForEpoch (streamEpoch : Int)
  | submit (streamEpoch frameSequence : Nat) (idr : Bool) (accessUnit : Bytes)
  | requestIdr (streamEpoch : Int) (reason : Units)
  | requestSessionRebuild (streamEpoch : Int) (reason : Units)
  | record (code detail : Units)
  deriving DecidableEq

/-- What happens in a run: a call with what it threw, a restart that is taken as done, and
the end of a restart as the decoder tells it. -/
inductive RuntimeEvent where
  | called (call : PortCall) (thrown : Option Units)
  | settled (completedEpoch : Int)
  | reported (restart : Nat)
  deriving DecidableEq

inductive DatagramOutcome where
  | buffered
  | repeatRejected
  | accessUnitSubmitted
  | staleOrDuplicate
  | recoveryRequested
  | invalid
  deriving DecidableEq

structure MobileRuntimeCompositionRoot where
  reassembly : VideoPreflightReassemblyWindow
  handoff : OrderedAccessUnitHandoff
  restarts : DecoderRestartCoordinator := .clear
  readModel : RuntimeSnapshot
  receiveEpoch : Nat := 0
  decoderEpoch : Int := 0
  transitionId : Nat := 0
  lastNowNanos : Int := 0
  blockerChangedAtNanos : Int := 0
  currentBlocker : ControlBlocker := .transportNotReady

/-- A call under way: what the ports answer to it, and how often they have been asked. -/
structure Turn where
  root : MobileRuntimeCompositionRoot
  events : List RuntimeEvent := []
  answers : Nat → Option Units := fun _ => none
  asked : Nat := 0

/-- A call of a port leaves its trace. -/
def Turn.call (turn : Turn) (call : PortCall) : Turn :=
  { turn with
    events := turn.events ++ [.called call (turn.answers turn.asked)]
    asked := turn.asked + 1 }

abbrev Runtime := EStateM Throwable Turn

def Code.name : Code → Units
  | .accepted => text "ACCEPTED"
  | .complete => text "COMPLETE"
  | .duplicate => text "DUPLICATE"
  | .conflict => text "CONFLICT"
  | .invalid => text "INVALID"
  | .staleEpoch => text "STALE_EPOCH"
  | .resourceLimit => text "RESOURCE_LIMIT"
  | .candidateRejected => text "CANDIDATE_REJECTED"
  | .gapDetected => text "GAP_DETECTED"
  | .repeated => text "REPEAT"

def OfferDecision.name : OfferDecision → Units
  | .accepted => text "ACCEPTED"
  | .stale => text "STALE"
  | .duplicate => text "DUPLICATE"
  | .conflict => text "CONFLICT"
  | .needIdr => text "NEED_IDR"
  | .overflow => text "OVERFLOW"
  | .epochAdvanced => text "EPOCH_ADVANCED"
  | .epochExhausted => text "EPOCH_EXHAUSTED"

def lower (value : Units) : Units :=
  value.map (fun unit => if 65 ≤ unit ∧ unit ≤ 90 then unit + 32 else unit)

def longText (value : Int) : Units :=
  if value < 0 then text "-" ++ widen (decimal value.natAbs) else widen (decimal value.natAbs)

def isPlain (point : Nat) : Bool :=
  decide (65 ≤ point ∧ point ≤ 90) || decide (97 ≤ point ∧ point ≤ 122) ||
    decide (48 ≤ point ∧ point ≤ 57) || point == 95 || point == 46 || point == 45

def sanitizeDetail : Option Units → Units
  | none => text "unspecified"
  | some value =>
    if value.all (· ≤ 32) then text "unspecified"
    else
      ((codePoints value).map (fun point =>
        if isPlain point then UInt16.ofNat point else 95)).take 96

namespace MobileRuntimeCompositionRoot

def new (reassemblyConfig : Config) (compressedHandoffCapacity : Int) (correlationId : Units) :
    Except Throwable MobileRuntimeCompositionRoot :=
  match OrderedAccessUnitHandoff.new compressedHandoffCapacity with
  | .error error => .error error
  | .ok handoff =>
    match RuntimeSnapshot.initial correlationId with
    | .error error => .error error
    | .ok readModel => .ok { reassembly := .new reassemblyConfig, handoff, readModel }

structure Fresh (root : MobileRuntimeCompositionRoot) : Prop where
  reassembly : ∃ config, root.reassembly = .new config
  waiting : root.handoff.state = .waitingIdr
  pending : root.handoff.pending = []
  next : root.handoff.nextSequence = none
  restarts : root.restarts = .clear
  decoderEpoch : root.decoderEpoch = 0
  transitionId : root.transitionId = 0
  clock : root.lastNowNanos = 0 ∧ root.blockerChangedAtNanos = 0

theorem new_fresh {reassemblyConfig : Config} {compressedHandoffCapacity : Int}
    {correlationId : Units} {root : MobileRuntimeCompositionRoot}
    (created : new reassemblyConfig compressedHandoffCapacity correlationId = .ok root) :
    root.Fresh := by
  unfold new OrderedAccessUnitHandoff.new at created
  split at created
  · cases created
  · next handoff isHandoff =>
      split_ifs at isHandoff
      obtain rfl := Except.ok.inj isHandoff
      split at created
      · cases created
      · obtain rfl := Except.ok.inj created
        exact ⟨⟨reassemblyConfig, rfl⟩, rfl, rfl, rfl, rfl, rfl, rfl, rfl, rfl⟩

def current : Runtime MobileRuntimeCompositionRoot := fun turn => .ok turn.root turn

def change (update : MobileRuntimeCompositionRoot → MobileRuntimeCompositionRoot) : Runtime Unit :=
  fun turn => .ok () { turn with root := update turn.root }

/-- A part that throws is left as it was. -/
def part {α : Type} (method : MobileRuntimeCompositionRoot →
    Except Throwable (α × MobileRuntimeCompositionRoot)) : Runtime α := fun turn =>
  match method turn.root with
  | .ok (value, root) => .ok value { turn with root }
  | .error error => .error error turn

def ask (call : PortCall) : Runtime (Option Units) := fun turn =>
  .ok (turn.answers turn.asked) (turn.call call)

def safeDiagnostic (code : Units) (detail : Option Units) : Runtime Unit := do
  let _ ← ask (.record (sanitizeDetail (some code)) (sanitizeDetail detail))

def ingest (header : VideoFragmentHeader) (datagram : Bytes) (nowNanos : Int) :
    Runtime VideoReassemblyResult := fun turn =>
  let (answer, reassembly) := turn.root.reassembly.ingestRange header datagram BYTE_LENGTH
    (datagram.length - BYTE_LENGTH) nowNanos
  let turn := { turn with root := { turn.root with reassembly } }
  match answer with
  | .ok result => .ok result turn
  | .error error => .error error turn

section

variable {α β : Type} (turn : Turn)

theorem current_bind (next : MobileRuntimeCompositionRoot → Runtime β) :
    (current >>= next).run turn = (next turn.root).run turn := rfl

theorem change_bind (update : MobileRuntimeCompositionRoot → MobileRuntimeCompositionRoot)
    (next : Unit → Runtime β) :
    (change update >>= next).run turn = (next ()).run { turn with root := update turn.root } := rfl

theorem part_run (method : MobileRuntimeCompositionRoot →
    Except Throwable (α × MobileRuntimeCompositionRoot)) :
    (part method).run turn =
      match method turn.root with
      | .ok (value, root) => .ok value { turn with root }
      | .error error => .error error turn := rfl

theorem ingest_run (hdr : VideoFragmentHeader) (datagram : Bytes) (now : Int) :
    (ingest hdr datagram now).run turn =
      match (turn.root.reassembly.ingestRange hdr datagram BYTE_LENGTH
        (datagram.length - BYTE_LENGTH) now).1 with
      | .ok result => .ok result { turn with root := { turn.root with
          reassembly := (turn.root.reassembly.ingestRange hdr datagram BYTE_LENGTH
            (datagram.length - BYTE_LENGTH) now).2 } }
      | .error error => .error error { turn with root := { turn.root with
          reassembly := (turn.root.reassembly.ingestRange hdr datagram BYTE_LENGTH
            (datagram.length - BYTE_LENGTH) now).2 } } := rfl

theorem ask_bind (call : PortCall) (next : Option Units → Runtime β) :
    (ask call >>= next).run turn = (next (turn.answers turn.asked)).run (turn.call call) := rfl

theorem safeDiagnostic_bind (code : Units) (detail : Option Units) (next : Unit → Runtime β) :
    (safeDiagnostic code detail >>= next).run turn =
      (next ()).run (turn.call (.record (sanitizeDetail (some code)) (sanitizeDetail detail))) :=
  rfl

end

def advanceClock (nowNanos : Int) : Runtime Unit :=
  part fun root =>
    if nowNanos < 0 then .error .illegalArgument
    else if nowNanos < root.lastNowNanos then .error .illegalArgument
    else .ok ((), { root with lastNowNanos := nowNanos })

/-- The age of a blocker begins when it takes the place of another. -/
def blockedBy (root : MobileRuntimeCompositionRoot) (blocker : ControlBlocker) :
    MobileRuntimeCompositionRoot :=
  if blocker ≠ root.currentBlocker then
    { root with currentBlocker := blocker, blockerChangedAtNanos := root.lastNowNanos }
  else root

def lifecycleOf (videoState : VideoState) (blocker : ControlBlocker) : Lifecycle :=
  if blocker = .recoveryRequired ∨ blocker = .waitingFreshIdr then .recovering
  else if videoState = .degraded then .recovering
  else .running

def countTransition (lifecycle : Lifecycle) (videoState : VideoState)
    (transportState : TransportState) (blocker : ControlBlocker)
    (root : MobileRuntimeCompositionRoot) :
    Except Throwable (Unit × MobileRuntimeCompositionRoot) :=
  if root.readModel.lifecycle ≠ lifecycle ∨ root.readModel.videoState ≠ videoState ∨
      root.readModel.transportState ≠ transportState ∨ root.readModel.controlBlocker ≠ blocker then
    if root.transitionId = LONG_MAX then .error .illegalState
    else .ok ((), { root with transitionId := root.transitionId + 1 })
  else .ok ((), root)

def replaceSnapshot (lifecycle : Lifecycle) (videoState : VideoState)
    (transportState : TransportState) (blocker : ControlBlocker) (epoch sequence : Int)
    (root : MobileRuntimeCompositionRoot) :
    Except Throwable (Unit × MobileRuntimeCompositionRoot) :=
  if epoch < 0 ∨ sequence < 0 then .error .illegalArgument
  else
    match RuntimeSnapshot.new lifecycle videoState transportState blocker epoch sequence
      root.transitionId (root.lastNowNanos - root.blockerChangedAtNanos)
      root.readModel.correlationId with
    | .error error => .error error
    | .ok readModel => .ok ((), { root with readModel })

def publish (videoState : VideoState) (transportState : TransportState) (blocker : ControlBlocker)
    (epoch sequence nowNanos : Int) : Runtime Unit := do
  advanceClock nowNanos
  change (blockedBy · blocker)
  part (countTransition (lifecycleOf videoState blocker) videoState transportState blocker)
  part (replaceSnapshot (lifecycleOf videoState blocker) videoState transportState blocker epoch
    sequence)

def abortRestart (failedEpoch : Int) : Runtime Bool :=
  part fun root =>
    match root.restarts.abort failedEpoch with
    | .error error => .error error
    | .ok (aborted, restarts) => .ok (aborted, { root with restarts })

/-- Whatever restart the coordinator waits for is forgotten, though it may go on. -/
def abortActive : Runtime Unit := do
  match (← current).restarts.activeEpoch? with
  | none => pure ()
  | some activeEpoch =>
    let _ ← abortRestart activeEpoch

variable (epoch : Int)

def requestSessionRebuild (reason : Units) (nowNanos : Int) : Runtime Unit := do
  abortActive
  change fun root =>
    { root with
      decoderEpoch := 0
      handoff := root.handoff.requireFreshIdr
      reassembly := root.reassembly.discardInflight }
  match ← ask (.requestSessionRebuild epoch reason) with
  | none => publish .degraded .connecting .recoveryRequired epoch 0 nowNanos
  | some error => do
      safeDiagnostic (text "session_rebuild_request_failed") (some error)
      publish .degraded .circuitOpen .recoveryRequired epoch 0 nowNanos

def requestIdr (reason : Units) (nowNanos : Int) : Runtime Bool := do
  match ← ask (.requestIdr epoch reason) with
  | none => pure true
  | some error => do
      safeDiagnostic (text "idr_request_failed") (some error)
      requestSessionRebuild epoch (text "idr_request_failed") nowNanos
      pure false

/-- Close the hand-off, ask for an IDR and tell the readers which one is missing. -/
def closeHandoff (sequence : Int) (reason : Units) (blocker : ControlBlocker)
    (refused answered : DatagramOutcome) (nowNanos : Int) : Runtime DatagramOutcome := do
  change fun root =>
    { root with
      handoff := root.handoff.requireFreshIdr
      reassembly := root.reassembly.discardInflight }
  if ← requestIdr epoch reason nowNanos then
    publish .waitingForIdr .ready blocker epoch sequence nowNanos
    pure answered
  else pure refused

def requestRecovery (reason : Units) (nowNanos : Int) : Runtime DatagramOutcome :=
  closeHandoff epoch 0 reason .recoveryRequired .recoveryRequested .recoveryRequested nowNanos

def onRepeat (nowNanos : Int) : Runtime DatagramOutcome :=
  closeHandoff epoch 0 (text "repeat_packet_is_not_fresh_content") .waitingFreshIdr
    .recoveryRequested .repeatRejected nowNanos

def requestCandidateIdrPreservingCurrent (reason : Units) (nowNanos : Int) :
    Runtime DatagramOutcome := do
  let hasCommittedCurrent := (← current).reassembly.currentEpoch.isSome
  match ← ask (.requestIdr epoch reason) with
  | some error => do
      safeDiagnostic (text "candidate_idr_request_failed") (some error)
      if hasCommittedCurrent then pure .recoveryRequested
      else do
        requestSessionRebuild epoch (text "candidate_idr_request_failed") nowNanos
        pure .recoveryRequested
  | none => do
      safeDiagnostic (text "candidate_epoch_recovery_requested")
        (some (longText epoch ++ text "_" ++ reason))
      if hasCommittedCurrent then pure .recoveryRequested
      else do
        publish .waitingForIdr .ready .waitingFreshIdr epoch 0 nowNanos
        pure .recoveryRequested

def startDecoderRestart (nowNanos : Int) : Runtime Bool := do
  match ← ask (.restartForEpoch epoch) with
  | none => pure true
  | some error => do
      let _ ← abortRestart epoch
      safeDiagnostic (text "decoder_restart_dispatch_failed") (some error)
      requestSessionRebuild epoch (text "decoder_restart_dispatch_failed") nowNanos
      pure false

def pollReady : Runtime (Option AccessUnit) :=
  part fun root =>
    let (ready, handoff) := root.handoff.pollReady
    .ok (ready, { root with handoff })

def finishDrain (submitted : Nat) (last : Option AccessUnit) (nowNanos : Int) : Runtime Int := do
  match last with
  | none => pure submitted
  | some last => do
      publish .decoding .ready
        (if last.repeatedContent then .waitingFreshIdr else .runnable) last.streamEpoch
        last.frameSequence nowNanos
      pure submitted

/-- The loop over the units that are next; each turn takes one of those that wait. -/
def drainFrom (nowNanos : Int) : Nat → Nat → Option AccessUnit → Runtime Int
  | 0, submitted, last => finishDrain submitted last nowNanos
  | fuel + 1, submitted, last => do
      match ← pollReady with
      | none => finishDrain submitted last nowNanos
      | some ready => do
          let decoderEpoch := (← current).decoderEpoch
          if (ready.streamEpoch : Int) ≠ decoderEpoch then
            safeDiagnostic (text "decoder_epoch_mismatch")
              (some (longText ready.streamEpoch ++ text "_vs_" ++ longText decoderEpoch))
            requestSessionRebuild ready.streamEpoch (text "decoder_epoch_mismatch") nowNanos
            pure (-1)
          else
            match ← ask (.submit ready.streamEpoch ready.frameSequence ready.idr ready.bytes) with
            | some error => do
                safeDiagnostic (text "decoder_submit_failed") (some error)
                requestSessionRebuild ready.streamEpoch (text "decoder_submit_failed") nowNanos
                pure (-1)
            | none => drainFrom nowNanos fuel (submitted + 1) (some ready)

def drainReadyAccessUnits (nowNanos : Int) : Runtime Int := do
  drainFrom nowNanos ((← current).handoff.pendingCount + 1) 0 none

variable (result : VideoReassemblyResult)

def bufferOrDrain (nowNanos : Int) : Runtime DatagramOutcome := do
  if (← current).restarts.inFlight then
    publish .restarting .ready .waitingFreshIdr result.streamEpoch result.frameSequence nowNanos
    pure .buffered
  else
    let submitted ← drainReadyAccessUnits nowNanos
    if submitted < 0 then pure .recoveryRequested
    else if submitted = 0 then pure .buffered
    else pure .accessUnitSubmitted

def requestRestart : Runtime RequestDecision :=
  part fun root =>
    match root.restarts.request epoch with
    | .error error => .error error
    | .ok (decision, restarts) => .ok (decision, { root with restarts })

def decodeOrRestart (nowNanos : Int) :
    Runtime DatagramOutcome := do
  if (← current).decoderEpoch ≠ result.streamEpoch then
    match ← requestRestart result.streamEpoch with
    | .stale => pure .staleOrDuplicate
    | .startNow => do
        if ← startDecoderRestart result.streamEpoch nowNanos then bufferOrDrain result nowNanos
        else pure .recoveryRequested
    | .coalesced => bufferOrDrain result nowNanos
    | .alreadyTargeted => bufferOrDrain result nowNanos
  else bufferOrDrain result nowNanos

def offer (unit : AccessUnit) : Runtime OfferDecision :=
  part fun root =>
    let (decision, handoff) := root.handoff.offer unit
    .ok (decision, { root with handoff })

def refuseOffer (decision : OfferDecision) (nowNanos : Int) : Runtime DatagramOutcome :=
  closeHandoff result.streamEpoch result.frameSequence
    (text "compressed_handoff_" ++ lower decision.name) .waitingFreshIdr .recoveryRequested
    .recoveryRequested nowNanos

def handOver (containsIdr : Bool) (nowNanos : Int) :
    Runtime DatagramOutcome := do
  change fun root => { root with receiveEpoch := max root.receiveEpoch result.streamEpoch }
  let unit ← part fun root =>
    (AccessUnit.new result.streamEpoch result.frameSequence containsIdr result.repeatedContent
      result.accessUnit).map (·, root)
  match ← offer unit with
  | .stale => pure .staleOrDuplicate
  | .duplicate => pure .staleOrDuplicate
  | .epochExhausted => do
      requestSessionRebuild result.streamEpoch (text "frame_sequence_epoch_exhausted") nowNanos
      pure .recoveryRequested
  | .conflict => refuseOffer result .conflict nowNanos
  | .overflow => refuseOffer result .overflow nowNanos
  | .needIdr => refuseOffer result .needIdr nowNanos
  | .accepted => decodeOrRestart result nowNanos
  | .epochAdvanced => decodeOrRestart result nowNanos

def rejectCandidate (epoch : Nat) (reason : Units) (nowNanos : Int) : Runtime DatagramOutcome := do
  change fun root => { root with reassembly := root.reassembly.rejectCandidateEpoch epoch }
  requestCandidateIdrPreservingCurrent epoch reason nowNanos

def commitCandidate (epoch : Nat) : Runtime Bool :=
  part fun root =>
    let (reassembly, committed) := root.reassembly.commitCandidateEpoch epoch
    .ok (committed, { root with reassembly })

def onComplete (nowNanos : Int) : Runtime DatagramOutcome := do
  let classification ← part fun root =>
    (H264AccessUnitClassifier.classify result.accessUnit).map (·, root)
  if result.requiresEpochCommit then
    if result.repeatedContent then
      rejectCandidate result.streamEpoch (text "candidate_repeat_cannot_commit_epoch") nowNanos
    else if classification.malformed then
      rejectCandidate result.streamEpoch (text "candidate_malformed_annex_b_access_unit") nowNanos
    else if !classification.containsIdr then
      rejectCandidate result.streamEpoch (text "candidate_epoch_requires_fresh_idr") nowNanos
    else if ← commitCandidate result.streamEpoch then
      handOver result classification.containsIdr nowNanos
    else do
      change fun root =>
        { root with reassembly := root.reassembly.rejectCandidateEpoch result.streamEpoch }
      safeDiagnostic (text "candidate_epoch_commit_failed") (some (longText result.streamEpoch))
      requestSessionRebuild result.streamEpoch (text "candidate_epoch_commit_failed") nowNanos
      pure .recoveryRequested
  else if classification.malformed then
    requestRecovery result.streamEpoch (text "malformed_annex_b_access_unit") nowNanos
  else handOver result classification.containsIdr nowNanos

def onResult (nowNanos : Int) : Runtime DatagramOutcome :=
  match result.code with
  | .accepted => pure .buffered
  | .duplicate => pure .staleOrDuplicate
  | .staleEpoch => pure .staleOrDuplicate
  | .candidateRejected =>
    requestCandidateIdrPreservingCurrent result.streamEpoch
      (text "reassembly_candidate_rejected") nowNanos
  | .repeated => onRepeat result.streamEpoch nowNanos
  | .complete => onComplete result nowNanos
  | .conflict | .invalid | .resourceLimit | .gapDetected =>
    requestRecovery result.streamEpoch (text "reassembly_" ++ lower result.code.name) nowNanos

def onDatagram (datagram : Bytes) (nowNanos : Int) : Runtime DatagramOutcome := do
  advanceClock nowNanos
  match VideoFragmentHeader.decode datagram with
  | .error .illegalArgument => do
      safeDiagnostic (text "wire_header_rejected") (some (text "IllegalArgumentException"))
      pure .invalid
  | .error error => throw error
  | .ok header => do
      let result ← ingest header datagram nowNanos
      onResult result nowNanos

def completeRestart (completedEpoch : Int) : Runtime Completion :=
  part fun root =>
    match root.restarts.complete completedEpoch with
    | .error error => .error error
    | .ok (completion, restarts) => .ok (completion, { root with restarts })

/-- The decoder is taken to be on the epoch of the restart. -/
def settle (completedEpoch : Int) : Runtime Unit := fun turn =>
  .ok ()
    { turn with
      root := { turn.root with decoderEpoch := completedEpoch }
      events := turn.events ++ [.settled completedEpoch] }

theorem settle_bind {β : Type} (turn : Turn) (completedEpoch : Int) (next : Unit → Runtime β) :
    (settle completedEpoch >>= next).run turn =
      (next ()).run
        { turn with
          root := { turn.root with decoderEpoch := completedEpoch }
          events := turn.events ++ [.settled completedEpoch] } := rfl

def onDecoderRestartComplete (completedEpoch : Int) (nowNanos : Int) : Runtime Unit := do
  advanceClock nowNanos
  match ← completeRestart completedEpoch with
  | .staleCallback =>
    safeDiagnostic (text "decoder_restart_stale_completion") (some (longText completedEpoch))
  | .invalidFutureCallback => do
      safeDiagnostic (text "decoder_restart_future_completion") (some (longText completedEpoch))
      requestSessionRebuild (← current).receiveEpoch (text "decoder_restart_future_completion")
        nowNanos
  | .startNext nextEpoch => do
      if ← startDecoderRestart nextEpoch nowNanos then
        publish .restarting .ready .waitingFreshIdr nextEpoch 0 nowNanos
  | .settled => do
      settle completedEpoch
      let _ ← drainReadyAccessUnits nowNanos

def onDecoderRestartFailed (failedEpoch : Int) (reason : Option Units) (nowNanos : Int) :
    Runtime Unit := do
  advanceClock nowNanos
  if ← abortRestart failedEpoch then
    safeDiagnostic (text "decoder_restart_failed") (some (sanitizeDetail reason))
    requestSessionRebuild failedEpoch (text "decoder_restart_failed") nowNanos
  else
    let activeEpoch := (← current).restarts.activeEpoch?.getD 0
    if activeEpoch ≠ 0 ∧ activeEpoch < failedEpoch then
      safeDiagnostic (text "decoder_restart_future_failure") (some (longText failedEpoch))
      requestSessionRebuild (← current).receiveEpoch (text "decoder_restart_future_failure")
        nowNanos
    else
      safeDiagnostic (text "decoder_restart_stale_failure") (some (longText failedEpoch))

/-- A call of an adapter; older adapters give no time with a callback. -/
inductive Operation where
  | datagram (datagram : Bytes) (nowNanos : Int)
  | restartComplete (completedEpoch : Int) (nowNanos : Option Int)
  | restartFailed (failedEpoch : Int) (reason : Option Units) (nowNanos : Option Int)
  deriving DecidableEq

def perform : Operation → Runtime Unit
  | .datagram datagram nowNanos => do
      let _ ← onDatagram datagram nowNanos
  | .restartComplete completedEpoch nowNanos => do
      onDecoderRestartComplete completedEpoch (nowNanos.getD (← current).lastNowNanos)
  | .restartFailed failedEpoch reason nowNanos => do
      onDecoderRestartFailed failedEpoch reason (nowNanos.getD (← current).lastNowNanos)

end MobileRuntimeCompositionRoot

end VisionForge.MobileRuntime
