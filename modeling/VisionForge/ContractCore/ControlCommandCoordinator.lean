import VisionForge.ContractCore.Reassembly
import VisionForge.Lib.Methods

/-! # Tickets, visibility after an acknowledgement, and blockers

Time points are nanoseconds of one steady clock. What a method throws it throws before it has
changed anything.
-/

namespace VisionForge.ContractCore

/-- The standard exceptions that the contract core throws. -/
inductive StdException where
  | invalidArgument (what : String)
  | logicError (what : String)
  | lengthError (what : String)
  | overflowError (what : String)
  deriving DecidableEq

def nanosOfMilliseconds (milliseconds : Int) : Int := milliseconds * 1000000

def kMaxCounter : UInt64 := 0xffffffffffffffff

/-- A transition counter stays at its largest value. -/
def nextTransition (transitionId : UInt64) : UInt64 :=
  if transitionId = kMaxCounter then transitionId else transitionId + 1

structure FrameIdentity where
  streamEpoch : UInt64
  frameSequence : UInt32
  deriving DecidableEq

namespace FrameIdentity

def valid (frame : FrameIdentity) : Bool :=
  decide (0 < frame.streamEpoch ∧ frame.streamEpoch.toNat ≤ kMaxStreamEpoch)

def newerThan (frame other : FrameIdentity) : Bool :=
  decide (other.streamEpoch < frame.streamEpoch ∨
    frame.streamEpoch = other.streamEpoch ∧ other.frameSequence < frame.frameSequence)

end FrameIdentity

inductive TicketResult where
  | completed
  | expired
  | cancelled
  | stale
  | wrongTicket
  deriving DecidableEq

structure ExactTicket where
  pending : Bool := false
  ticketId : UInt64 := 0
  highestTicketId : UInt64 := 0
  deadline : Int := 0
  transitionId : UInt64 := 0
  /-- What tickets ended with, oldest first; the source keeps no such record. -/
  ended : List (UInt64 × TicketResult) := []
  deriving DecidableEq

namespace ExactTicket

def begin (ticket : ExactTicket) (ticketId : UInt64) (deadline : Int) :
    Except StdException ExactTicket :=
  if ticketId = 0 then .error (.invalidArgument "ticket id must be positive")
  else if ticket.pending then .error (.logicError "another ticket is already pending")
  else if ticketId ≤ ticket.highestTicketId then
    .error (.invalidArgument "ticket ids must be strictly increasing")
  else if ticket.transitionId = kMaxCounter then
    .error (.overflowError "ticket transition id space exhausted")
  else .ok { ticket with
    pending := true
    ticketId := ticketId
    highestTicketId := ticketId
    deadline := deadline
    transitionId := ticket.transitionId + 1 }

/-- The pending ticket ends. -/
def finish (ticket : ExactTicket) (result : TicketResult) : ExactTicket :=
  { ticket with
    pending := false
    transitionId := nextTransition ticket.transitionId
    ended := ticket.ended ++ [(ticket.ticketId, result)] }

def complete (ticket : ExactTicket) (ticketId : UInt64) (now : Int) :
    TicketResult × ExactTicket :=
  if !ticket.pending then (.stale, ticket)
  else if ticketId ≠ ticket.ticketId then (.wrongTicket, ticket)
  else if ticket.deadline ≤ now then (.expired, ticket.finish .expired)
  else (.completed, ticket.finish .completed)

def expire (ticket : ExactTicket) (now : Int) : TicketResult × ExactTicket :=
  if !ticket.pending then (.stale, ticket)
  else if now < ticket.deadline then (.stale, ticket)
  else (.expired, ticket.finish .expired)

def cancel (ticket : ExactTicket) : TicketResult × ExactTicket :=
  if !ticket.pending then (.stale, ticket) else (.cancelled, ticket.finish .cancelled)

end ExactTicket

inductive GateDecision where
  | allowed
  | blocked
  | recoveryRequired
  deriving DecidableEq

structure PostAckVisibilityGate where
  /-- In milliseconds. -/
  timeout : Int
  timeout_pos : 0 < timeout
  armed : Bool := false
  recoveryRequired : Bool := false
  sourceEpoch : UInt64 := 0
  sourceSequence : UInt32 := 0
  ackTime : Int := 0
  deadline : Int := 0
  deriving DecidableEq

namespace PostAckVisibilityGate

def validateIdentity (epoch sequence : UInt64) : Except StdException Unit :=
  if epoch = 0 ∨ kMaxStreamEpoch < epoch.toNat ∨ 0xffffffff < sequence.toNat then
    .error (.invalidArgument "frame identity is outside the shared protocol range")
  else .ok ()

variable (gate : PostAckVisibilityGate)

def armUntil (sourceEpoch : UInt64) (sourceSequence : UInt32) (ackTime absoluteDeadline : Int) :
    Except StdException PostAckVisibilityGate := do
  validateIdentity sourceEpoch sourceSequence.toUInt64
  if absoluteDeadline ≤ ackTime then
    throw (.invalidArgument "visibility deadline must be strictly later than ACK time")
  else return { gate with
    sourceEpoch := sourceEpoch
    sourceSequence := sourceSequence
    ackTime := ackTime
    deadline := absoluteDeadline
    recoveryRequired := false
    armed := true }

def arm (sourceEpoch : UInt64) (sourceSequence : UInt32) (ackTime now : Int) :
    Except StdException PostAckVisibilityGate :=
  gate.armUntil sourceEpoch sourceSequence ackTime
    (max now ackTime + nanosOfMilliseconds gate.timeout)

def reset : PostAckVisibilityGate :=
  { gate with armed := false, recoveryRequired := false, sourceEpoch := 0, sourceSequence := 0 }

def identityAdvanced (observedEpoch : UInt64) (frameSequence : UInt32) : Bool :=
  decide (gate.sourceEpoch < observedEpoch ∨
    observedEpoch = gate.sourceEpoch ∧ gate.sourceSequence < frameSequence)

def timestampValid (observedAt now : Int) : Bool :=
  decide (gate.ackTime ≤ observedAt ∧ observedAt ≤ now)

def evaluate (contentUpdated : Bool) (observedEpoch : UInt64) (frameSequence : UInt32)
    (observedAt now : Int) :
    Except StdException (GateDecision × PostAckVisibilityGate) := do
  validateIdentity observedEpoch frameSequence.toUInt64
  if !gate.armed then return (.allowed, gate)
  else if gate.recoveryRequired ∨ gate.deadline ≤ now then
    return (.recoveryRequired, { gate with recoveryRequired := true })
  else if contentUpdated ∧ gate.identityAdvanced observedEpoch frameSequence ∧
      gate.timestampValid observedAt now then
    return (.allowed, gate.reset)
  else return (.blocked, gate)

end PostAckVisibilityGate

inductive ControlBlocker where
  | runnable
  | waitingFreshIdr
  | waitingPostAckVisibility
  | ticketPending
  | ticketDeadlineExpired
  | postAckVisibilityTimeout
  | detectedNotTrackEligible
  | responseGuardNoProgress
  | subcountUnresolvable
  | transportNotReady
  | circuitOpen
  | recoveryExhausted
  deriving DecidableEq

structure BlockerTracker where
  current : ControlBlocker := .runnable
  transitionId : UInt64 := 0
  changedAt : Int
  deriving DecidableEq

def BlockerTracker.set (tracker : BlockerTracker) (blocker : ControlBlocker) (now : Int) :
    BlockerTracker :=
  if blocker = tracker.current then tracker
  else ⟨blocker, nextTransition tracker.transitionId, max tracker.changedAt now⟩

@[simp] theorem BlockerTracker.set_current (tracker : BlockerTracker) (blocker : ControlBlocker)
    (now : Int) : (tracker.set blocker now).current = blocker := by
  unfold set
  split
  · next same => exact same.symm
  · rfl

/-! ## The coordinator of control commands

A command is a ticket that has to be acknowledged in time, and whose effect then has to be seen
in time. Output is closed while either is outstanding, and after a failure.
-/

open Lib.Methods

inductive ControlObservation where
  | commandStarted
  | ackAccepted
  | wrongAck
  | lateAck
  | staleAck
  | visibilityBlocked
  | visibilityConfirmed
  | recoveryRequired
  deriving DecidableEq

/-- A command that was begun: its ticket and the frame that it was decided on. -/
structure Command where
  ticketId : UInt64
  sourceFrame : FrameIdentity
  deriving DecidableEq

structure ControlCommandCoordinator where
  ticket : ExactTicket := {}
  visibility : PostAckVisibilityGate
  blockers : BlockerTracker
  sourceFrame : Option FrameIdentity := none
  commandStartedAt : Option Int := none
  /-- The commands that were begun, oldest first; the source keeps no such record. -/
  commands : List Command := []
  deriving DecidableEq

namespace ControlCommandCoordinator

abbrev Method := EStateM StdException ControlCommandCoordinator

def block (coord : ControlCommandCoordinator) (blocker : ControlBlocker) (now : Int) :
    ControlCommandCoordinator :=
  { coord with blockers := coord.blockers.set blocker now }

/-- As it is constructed; the constructor throws unless the timeout is positive. -/
def fresh (visibilityTimeout : { milliseconds : Int // 0 < milliseconds }) (now : Int) :
    ControlCommandCoordinator where
  visibility := { timeout := visibilityTimeout, timeout_pos := visibilityTimeout.property }
  blockers := { changedAt := now }

def outputAllowed (coord : ControlCommandCoordinator) : Bool :=
  !coord.ticket.pending && !coord.visibility.armed &&
    coord.blockers.current == .runnable

def begin (ticketId : UInt64) (sourceFrame : FrameIdentity) (ticketDeadline now : Int) :
    Method ControlObservation := fun coord =>
  if !sourceFrame.valid ∨ ticketDeadline ≤ now ∨ coord.visibility.armed ∨
      coord.blockers.current ≠ .runnable then
    .error (.invalidArgument "command source/deadline/state is invalid") coord
  else
    match coord.ticket.begin ticketId ticketDeadline with
    | .error exception => .error exception coord
    | .ok ticket =>
      .ok .commandStarted ({ coord with
        ticket := ticket
        sourceFrame := some sourceFrame
        commandStartedAt := some now
        commands := coord.commands ++ [Command.mk ticketId sourceFrame] }.block .ticketPending now)

/-- The acknowledgement has come in time; now its effect has to be seen. -/
def awaitVisibility (acknowledgedAt now : Int) : Method ControlObservation :=
  fun coord =>
    match coord.sourceFrame with
    | none => .ok .recoveryRequired (coord.block .recoveryExhausted now)
    | some source =>
      match coord.visibility.arm source.streamEpoch source.frameSequence acknowledgedAt
          now with
      | .error exception => .error exception coord
      | .ok visibility =>
        .ok .ackAccepted
          ({ coord with visibility := visibility }.block .waitingPostAckVisibility now)

def onAck (ticketId : UInt64) (acknowledgedAt now : Int) : Method ControlObservation :=
  fun coord =>
    if coord.commandStartedAt.all
        (fun startedAt => decide (acknowledgedAt < startedAt ∨ now < acknowledgedAt)) then
      .ok .staleAck coord
    else
      match coord.ticket.complete ticketId now with
      | (.wrongTicket, ticket) => .ok .wrongAck { coord with ticket := ticket }
      | (.stale, ticket) | (.cancelled, ticket) => .ok .staleAck { coord with ticket := ticket }
      | (.expired, ticket) =>
        .ok .lateAck ({ coord with ticket := ticket }.block .ticketDeadlineExpired now)
      | (.completed, ticket) =>
        awaitVisibility acknowledgedAt now { coord with ticket := ticket }

def observeFrame (frame : FrameIdentity) (contentUpdated : Bool) (observedAt now : Int) :
    Method ControlObservation := fun coord =>
  if !frame.valid ∨ now < observedAt then
    .ok .recoveryRequired (coord.block .recoveryExhausted now)
  else if coord.ticket.pending then .ok .visibilityBlocked coord
  else
    match coord.visibility.evaluate contentUpdated frame.streamEpoch frame.frameSequence
        observedAt now with
    | .error exception => .error exception coord
    | .ok (.allowed, visibility) =>
      .ok .visibilityConfirmed { coord.block .runnable now with
        visibility := visibility
        sourceFrame := none
        commandStartedAt := none }
    | .ok (.blocked, visibility) =>
      .ok .visibilityBlocked
        ({ coord with visibility := visibility }.block .waitingPostAckVisibility now)
    | .ok (.recoveryRequired, visibility) =>
      .ok .recoveryRequired
        ({ coord with visibility := visibility }.block .postAckVisibilityTimeout now)

def poll (now : Int) : Method ControlObservation := fun coord =>
  if coord.ticket.pending then
    match coord.ticket.expire now with
    | (.expired, ticket) =>
      .ok .recoveryRequired
        ({ coord with ticket := ticket }.block .ticketDeadlineExpired now)
    | (_, ticket) => .ok .visibilityBlocked { coord with ticket := ticket }
  else
    match coord.visibility.armed, coord.sourceFrame with
    | true, some source => observeFrame source false now now coord
    | _, _ =>
      .ok (if coord.outputAllowed then .visibilityConfirmed else .recoveryRequired)
        coord

def onRecoveryVerified (now : Int) : Method PUnit := fun coord =>
  .ok () ({ coord with
    ticket := coord.ticket.cancel.2
    visibility := coord.visibility.reset
    sourceFrame := none
    commandStartedAt := none }.block .runnable now)

end ControlCommandCoordinator

inductive ControlCall where
  | begin (ticketId : UInt64) (sourceFrame : FrameIdentity) (ticketDeadline now : Int)
  | onAck (ticketId : UInt64) (acknowledgedAt now : Int)
  | observeFrame (frame : FrameIdentity) (contentUpdated : Bool) (observedAt now : Int)
  | poll (now : Int)
  | onRecoveryVerified (now : Int)
  deriving DecidableEq

def ControlCall.now : ControlCall → Int
  | .begin _ _ _ now | .onAck _ _ now | .observeFrame _ _ _ now | .poll now
  | .onRecoveryVerified now => now

namespace ControlCommandCoordinator

def step (coord : ControlCommandCoordinator) : ControlCall → ControlCommandCoordinator
  | .begin ticketId sourceFrame ticketDeadline now =>
    after ((begin ticketId sourceFrame ticketDeadline now).run coord)
  | .onAck ticketId acknowledgedAt now =>
    after ((onAck ticketId acknowledgedAt now).run coord)
  | .observeFrame frame contentUpdated observedAt now =>
    after ((observeFrame frame contentUpdated observedAt now).run coord)
  | .poll now => after ((poll now).run coord)
  | .onRecoveryVerified now => after ((onRecoveryVerified now).run coord)

def runCalls (coord : ControlCommandCoordinator) (calls : List ControlCall) :
    ControlCommandCoordinator :=
  calls.foldl step coord

end ControlCommandCoordinator

end VisionForge.ContractCore
