import VisionForge.Video.DeliveryOrder
import VisionForge.Video.Epochs
import VisionForge.Video.IdrDetection

/-! # The video receiver of the phone

One thread takes datagrams from a socket, one a turn, reassembles the active and the candidate
epoch apart, and feeds the decoder. The socket, the clock and the decoder are the surroundings of
a turn. Metrics and the length of the socket's timeout are left out.
-/

namespace VisionForge.Video

open Lib.Ascii

/-! ## Policies -/

inductive ReceiverReferenceDecision where
  | admits
  | rejectAwaitingIdr
  | rejectSequenceGap
  deriving DecidableEq

structure ReceiverReferenceSyncPolicy where
  awaitingIdr : Bool := true
  lastAcceptedSequence : Option Nat := none

namespace ReceiverReferenceSyncPolicy

variable (pol : ReceiverReferenceSyncPolicy)

def evaluate (logicalFrameSequence : Nat) (isIdr : Bool) : ReceiverReferenceDecision :=
  if isIdr then .admits
  else if pol.awaitingIdr then .rejectAwaitingIdr
  else if pol.lastAcceptedSequence.bind advanceVideoFrameSequence = some logicalFrameSequence then
    .admits
  else .rejectSequenceGap

def requireIdr : ReceiverReferenceSyncPolicy := {}

def recordSubmit (logicalFrameSequence : Nat) (accepted : Bool) : ReceiverReferenceSyncPolicy :=
  if !accepted then requireIdr
  else { awaitingIdr := false, lastAcceptedSequence := some logicalFrameSequence }

end ReceiverReferenceSyncPolicy

structure ReceiverRepeatAdmission where
  submit : Bool := false
  contentUpdated : Bool := false
  resyncUnlock : Bool := false

structure ReceiverRepeatResyncPolicy where
  realFrameAccepted : Bool := false

namespace ReceiverRepeatResyncPolicy

variable (pol : ReceiverRepeatResyncPolicy)

def admits (repeatedContent : Bool) : ReceiverRepeatAdmission :=
  if repeatedContent && !pol.realFrameAccepted then {}
  else
    { submit := true
      contentUpdated := !repeatedContent
      resyncUnlock := !repeatedContent && !pol.realFrameAccepted }

def recordSubmitResult (repeatedContent accepted : Bool) : ReceiverRepeatResyncPolicy :=
  if !accepted then { realFrameAccepted := false }
  else if !repeatedContent then { realFrameAccepted := true }
  else pol

end ReceiverRepeatResyncPolicy

def kIncompleteStreamStallUs : Nat := 150000
def kSilentStreamStallUs : Nat := 300000
def kMinimumIdrRequestIntervalUs : Nat := 500000
def kMaximumIdrRequestIntervalUs : Nat := 5000000
def kMaximumConsecutiveIdleIdrRequests : Nat := 4

structure ReceiverRecoveryPolicy where
  firstFragmentUs : Nat := 0
  lastFragmentUs : Nat := 0
  lastCompletedUs : Nat := 0
  lastIdrRequestUs : Nat := 0
  consecutiveIdrRequests : Nat := 0
  consecutiveIdleIdrRequests : Nat := 0

namespace ReceiverRecoveryPolicy

variable (pol : ReceiverRecoveryPolicy)

def requestDue (nowUs : Nat) : Bool :=
  let shift := min (pol.consecutiveIdrRequests - 1) 4
  let interval := min (kMinimumIdrRequestIntervalUs * 2 ^ shift) kMaximumIdrRequestIntervalUs
  pol.lastIdrRequestUs == 0 ||
    decide (pol.lastIdrRequestUs ≤ nowUs) && decide (interval ≤ nowUs - pol.lastIdrRequestUs)

def observeFragment (nowUs : Nat) (freshContentAccepted sourceChanged reassemblyExpired : Bool) :
    ReceiverRecoveryPolicy × Bool :=
  let pol :=
    { pol with
      consecutiveIdleIdrRequests := 0
      firstFragmentUs := if pol.firstFragmentUs = 0 then nowUs else pol.firstFragmentUs
      lastFragmentUs := nowUs }
  let pol :=
    if freshContentAccepted then
      { pol with lastCompletedUs := nowUs, lastIdrRequestUs := 0, consecutiveIdrRequests := 0 }
    else pol
  let progressReference :=
    if pol.lastCompletedUs = 0 then pol.firstFragmentUs else pol.lastCompletedUs
  let stalled := decide (progressReference ≤ nowUs) &&
    decide (kIncompleteStreamStallUs ≤ nowUs - progressReference)
  (pol, (sourceChanged || reassemblyExpired || stalled) && pol.requestDue nowUs)

def observeIdle (nowUs : Nat) (senderKnown : Bool) : Bool :=
  senderKnown && pol.lastFragmentUs != 0 && decide (pol.lastFragmentUs ≤ nowUs) &&
    decide (pol.consecutiveIdleIdrRequests < kMaximumConsecutiveIdleIdrRequests) &&
    decide (kSilentStreamStallUs ≤ nowUs - pol.lastFragmentUs) && pol.requestDue nowUs

def markIdrRequested (nowUs : Nat) : ReceiverRecoveryPolicy :=
  { pol with
    lastIdrRequestUs := nowUs
    consecutiveIdrRequests := (pol.consecutiveIdrRequests + 1) % 2 ^ 32 }

def markIdleIdrRequested (nowUs : Nat) : ReceiverRecoveryPolicy :=
  { pol.markIdrRequested nowUs with
    consecutiveIdleIdrRequests := (pol.consecutiveIdleIdrRequests + 1) % 2 ^ 32 }

end ReceiverRecoveryPolicy

inductive ReceiverSourceDecision where
  | accept
  | restartSourcePort
  | rejectForeign
  deriving DecidableEq

def kSourcePortRestartSilenceUs : Nat := 300000

structure ReceiverSourceSession where
  expectedIpv4 : Nat := 0
  ipv4 : Nat := 0
  port : Nat := 0
  lastAcceptedUs : Nat := 0
  active : Bool := false

def ReceiverSourceSession.observe (session : ReceiverSourceSession) (ipv4 port nowUs : Nat) :
    ReceiverSourceSession × ReceiverSourceDecision :=
  if session.expectedIpv4 = 0 ∨ ipv4 ≠ session.expectedIpv4 then (session, .rejectForeign)
  else if !session.active then
    ({ session with ipv4, port, lastAcceptedUs := nowUs, active := true }, .accept)
  else if ipv4 = session.ipv4 ∧ port = session.port then
    ({ session with lastAcceptedUs := nowUs }, .accept)
  else if session.lastAcceptedUs ≤ nowUs ∧
      kSourcePortRestartSilenceUs ≤ nowUs - session.lastAcceptedUs ∧ ipv4 = session.ipv4 then
    ({ session with port, lastAcceptedUs := nowUs }, .restartSourcePort)
  else (session, .rejectForeign)

/-! ## The loop -/

def kMaximumInflightAccessUnits : Nat := 4
def kAccessUnitReassemblyTtlUs : Nat := 50000

structure Submission where
  accessUnit : CompletedAccessUnit
  presentationTimeUs : Nat
  controlSequence : Nat
  contentUpdated : Bool

inductive SocketError where
  | again
  | interrupted
  | other

inductive Received where
  | failed (error : SocketError)
  | datagram (octets : Bytes) (ipv4 port : Nat)

/-- The surroundings of one turn. `restartCompletion` tells whether a finished restart of the
    decoder succeeded, `restarts` whether one is begun. -/
structure Turn where
  received : Received
  nowUs : Nat
  accepts : Submission → Bool
  restarts : Bool := true
  restartCompletion : Option Bool := none
  restartTimedOut : Bool := false
  decoderFailed : Bool := false
  sends : Bool := true
  stops : Bool := false

/-- The fragment a turn brings. -/
def Turn.fragment (turn : Turn) : Option VideoFragment :=
  match turn.received with
  | .failed _ => none
  | .datagram octets _ _ => decodeVideoPacket octets

structure CompletedSubmission where
  accepted : Bool := false
  contentUpdated : Bool := false
  fatal : Bool := false

/-- What the receiver keeps for the decoder. `submitted` is not read: it records what the decoder
    was handed, and whether it accepted. -/
structure DecoderFeed where
  repeatResyncPolicy : ReceiverRepeatResyncPolicy := {}
  referenceSyncPolicy : ReceiverReferenceSyncPolicy := {}
  lastPresentationTimeUs : Nat := 0
  nextControlSequence : Nat := 1
  submitted : List (Submission × Bool) := []

namespace DecoderFeed

variable (feed : DecoderFeed) (turn : Turn)

def requireReferenceSync : DecoderFeed :=
  { feed with
    referenceSyncPolicy := .requireIdr
    repeatResyncPolicy := { realFrameAccepted := false } }

def nextPresentationTimeUs (nowUs : Nat) : Nat :=
  if nowUs ≤ feed.lastPresentationTimeUs then (feed.lastPresentationTimeUs + 1) % 2 ^ 64
  else nowUs

def submitCompletedAccessUnit (completed : CompletedAccessUnit) :
    DecoderFeed × CompletedSubmission :=
  let logicalFrameId := completed.identity.frameSequence
  let syncFrame := h264AccessUnitContainsIdr completed.bytes
  if feed.referenceSyncPolicy.evaluate logicalFrameId syncFrame ≠ .admits then
    (feed.requireReferenceSync, {})
  else
    let repeatedForAdmission := completed.repeatedContent && !syncFrame
    let admission := feed.repeatResyncPolicy.admits repeatedForAdmission
    if !admission.submit then (feed, {})
    else
      let submission : Submission :=
        { accessUnit := completed
          presentationTimeUs := feed.nextPresentationTimeUs turn.nowUs
          controlSequence := feed.nextControlSequence
          contentUpdated := admission.contentUpdated }
      let accepted := turn.accepts submission
      let feed : DecoderFeed :=
        { repeatResyncPolicy :=
            feed.repeatResyncPolicy.recordSubmitResult repeatedForAdmission accepted
          referenceSyncPolicy := .recordSubmit logicalFrameId accepted
          lastPresentationTimeUs := submission.presentationTimeUs
          nextControlSequence := (feed.nextControlSequence + 1) % 2 ^ 64
          submitted := feed.submitted ++ [(submission, accepted)] }
      if !accepted then
        (feed.requireReferenceSync, { fatal := turn.decoderFailed || turn.restartTimedOut })
      else (feed, { accepted := true, contentUpdated := admission.contentUpdated })

end DecoderFeed

def freshReassembler : AccessUnitReassembler :=
  .new kMaximumInflightAccessUnits (8 * kMaxAccessUnitBytes)

structure NativeVideoReceiver where
  running : Bool := true
  activeReassembler : AccessUnitReassembler := freshReassembler
  candidateReassembler : AccessUnitReassembler := freshReassembler
  epochSession : ReceiverEpochSession := {}
  pendingCandidateIdr : Option CompletedAccessUnit := none
  candidateReassemblerEpoch : Nat := 0
  sourceRestartPending : Bool := false
  decoderRestartReady : Bool := false
  consecutiveSocketErrors : Nat := 0
  idrDestinationReady : Bool := false
  sourceSession : ReceiverSourceSession
  recoveryPolicy : ReceiverRecoveryPolicy := {}
  feed : DecoderFeed := {}

namespace NativeVideoReceiver

variable (recv : NativeVideoReceiver) (turn : Turn)

def rebuildActiveReassembler (lastDeliveredSequence : Option Nat) : NativeVideoReceiver :=
  { recv with
    activeReassembler :=
      match recv.epochSession.activeEpoch with
      | some epoch => (freshReassembler.activateEpoch epoch lastDeliveredSequence).1
      | none => freshReassembler }

def rebuildCandidateReassembler (epoch : Nat) : NativeVideoReceiver :=
  { recv with
    candidateReassembler := (freshReassembler.activateEpoch epoch none).1
    candidateReassemblerEpoch := epoch }

def requireReferenceSync : NativeVideoReceiver :=
  { recv with feed := recv.feed.requireReferenceSync }

def requestIdr (idleRequest invalidateActiveReference : Bool) : NativeVideoReceiver :=
  let recv := if invalidateActiveReference then recv.requireReferenceSync else recv
  if !recv.idrDestinationReady || !turn.sends then recv
  else
    { recv with
      recoveryPolicy :=
        if idleRequest then recv.recoveryPolicy.markIdleIdrRequested turn.nowUs
        else recv.recoveryPolicy.markIdrRequested turn.nowUs }

/-- The receiver on a committed epoch: its IDR is the first access unit the decoder gets. -/
def startEpoch (epochSession : ReceiverEpochSession) (idr : CompletedAccessUnit) :
    NativeVideoReceiver × Bool :=
  let (feed, submission) := recv.feed.requireReferenceSync.submitCompletedAccessUnit turn idr
  ({ recv with epochSession, recoveryPolicy := {}, feed }.rebuildActiveReassembler
    (some idr.identity.frameSequence), submission.accepted)

def commitRestartedCandidate : NativeVideoReceiver × Bool :=
  match recv.decoderRestartReady, recv.pendingCandidateIdr with
  | true, some idr =>
    let (epochSession, committed) :=
      recv.epochSession.commitCandidate idr.identity.streamEpoch true
    if !committed then ({ recv with pendingCandidateIdr := none }, true)
    else
      let (recv, accepted) := recv.startEpoch turn epochSession idr
      ({ recv with
          pendingCandidateIdr := none
          decoderRestartReady := false
          sourceRestartPending := false }, accepted)
  | _, _ => (recv, true)

def takeRestartCompletion : NativeVideoReceiver :=
  match recv.sourceRestartPending, turn.restartCompletion with
  | true, some true =>
    let (recv, running) :=
      { recv with decoderRestartReady := true }.commitRestartedCandidate turn
    { recv with running }
  | true, some false => { recv with running := false }
  | _, _ => recv

def receiveNothing (error : SocketError) : NativeVideoReceiver :=
  if turn.stops || turn.restartTimedOut then { recv with running := false }
  else
    match error with
    | .again =>
      let recv := { recv with consecutiveSocketErrors := 0 }
      if !recv.sourceRestartPending &&
          recv.recoveryPolicy.observeIdle turn.nowUs recv.idrDestinationReady then
        (recv.rebuildActiveReassembler none).requestIdr turn true true
      else recv
    | .interrupted => recv
    | .other =>
      { recv with
        consecutiveSocketErrors := recv.consecutiveSocketErrors + 1
        running := decide (recv.consecutiveSocketErrors + 1 < 3) }

/-- Both epochs reassemble alike; the last answer tells whether an access unit was lost. -/
def reassemble (reasm : AccessUnitReassembler) (fragment : VideoFragment) :
    AccessUnitReassembler × Option CompletedAccessUnit × Bool :=
  let (pushed, completed) := reasm.pushView fragment turn.nowUs
  let expired := (pushed.discardExpired turn.nowUs kAccessUnitReassemblyTtlUs).1
  (expired, completed, expired.statistics.incompleteAccessUnitLosses !=
    reasm.statistics.incompleteAccessUnitLosses)

def receiveCandidate (fragment : VideoFragment) : NativeVideoReceiver :=
  let candidateEpoch := fragment.identity.streamEpoch
  let recv :=
    if recv.candidateReassemblerEpoch ≠ candidateEpoch then
      { recv.rebuildCandidateReassembler candidateEpoch with pendingCandidateIdr := none }
    else recv
  let (candidateReassembler, candidate, candidateLost) :=
    reassemble turn recv.candidateReassembler fragment
  let recv := { recv with candidateReassembler }
  let again := (recv.rebuildCandidateReassembler candidateEpoch).requestIdr turn false false
  if candidateLost then again
  else
    match candidate with
    | none => recv
    | some candidate =>
      if candidate.repeatedContent || !h264AccessUnitContainsIdr candidate.bytes then again
      else if recv.epochSession.activeEpoch.isNone then
        let (epochSession, committed) := recv.epochSession.commitCandidate candidateEpoch true
        if !committed then recv
        else
          let (recv, running) := recv.startEpoch turn epochSession candidate
          { recv with running }
      else
        let recv := { recv with pendingCandidateIdr := some candidate }
        if recv.sourceRestartPending then
          let (recv, running) := recv.commitRestartedCandidate turn
          { recv with running }
        else if !turn.restarts then { recv.requireReferenceSync with running := false }
        else
          let (recv, running) :=
            { recv.requireReferenceSync with
              sourceRestartPending := true
              decoderRestartReady := false }.commitRestartedCandidate turn
          { recv with running }

structure Progress where
  freshContentAccepted : Bool := false
  submissionFailed : Bool := false
  fatalDecoderFailure : Bool := false

/-- Every turn of the loop takes a frame out of the reassembler. -/
def submitAll : Nat → NativeVideoReceiver → Option CompletedAccessUnit → Progress →
    NativeVideoReceiver × Progress
  | turns + 1, recv, some completed, progress =>
    let (feed, submission) := recv.feed.submitCompletedAccessUnit turn completed
    let recv := { recv with feed }
    let progress :=
      { freshContentAccepted := progress.freshContentAccepted ||
          submission.accepted && submission.contentUpdated
        submissionFailed := progress.submissionFailed || !submission.accepted
        fatalDecoderFailure := progress.fatalDecoderFailure || submission.fatal }
    if !submission.accepted then (recv, progress)
    else
      let (activeReassembler, next) := recv.activeReassembler.popCompleted
      submitAll turns { recv with activeReassembler } next progress
  | _, recv, _, progress => (recv, progress)

def receiveActive (fragment : VideoFragment) (sourcePortRestarted : Bool) : NativeVideoReceiver :=
  let (activeReassembler, completed, reassemblyLost) :=
    reassemble turn recv.activeReassembler fragment
  let recv := { recv with activeReassembler }
  let (recv, completed) :=
    if reassemblyLost then (recv.requireReferenceSync.rebuildActiveReassembler none, none)
    else (recv, completed)
  let (recv, progress) :=
    submitAll turn (recv.activeReassembler.pending.entries.length + 1) recv completed {}
  if progress.fatalDecoderFailure then { recv with running := false }
  else
    let recv :=
      if progress.submissionFailed then recv.rebuildActiveReassembler none else recv
    let (recoveryPolicy, due) :=
      recv.recoveryPolicy.observeFragment turn.nowUs progress.freshContentAccepted
        sourcePortRestarted (reassemblyLost || progress.submissionFailed)
    let recv := { recv with recoveryPolicy }
    if due then (recv.rebuildActiveReassembler none).requestIdr turn false true else recv

def receiveFragment (fragment : VideoFragment) (ipv4 port : Nat) : NativeVideoReceiver :=
  let (sourceSession, sourceDecision) := recv.sourceSession.observe ipv4 port turn.nowUs
  let recv := { recv with sourceSession }
  if sourceDecision = .rejectForeign then recv
  else
    let (epochSession, epochDecision) :=
      recv.epochSession.observe fragment.identity.streamEpoch
    let recv := { recv with idrDestinationReady := true, epochSession }
    match epochDecision with
    | .invalid => recv
    | .retired => recv
    | .candidate => recv.receiveCandidate turn fragment
    | .active =>
      if recv.sourceRestartPending then recv
      else recv.receiveActive turn fragment (sourceDecision == .restartSourcePort)

def receive : NativeVideoReceiver :=
  match turn.received with
  | .failed error => recv.receiveNothing turn error
  | .datagram octets ipv4 port =>
    let recv := { recv with consecutiveSocketErrors := 0 }
    match decodeVideoPacket octets with
    | none => recv
    | some fragment => recv.receiveFragment turn fragment ipv4 port

/-- One turn of the loop, while it runs. -/
def run : NativeVideoReceiver :=
  if !recv.running then recv
  else
    let recv := recv.takeRestartCompletion turn
    let recv := if recv.running then recv.receive turn else recv
    { recv with running := recv.running && !turn.stops }

end NativeVideoReceiver

/-- The receiver that `start` leaves to its thread. -/
def NativeVideoReceiver.start (expectedSourceIpv4 : Nat) : NativeVideoReceiver where
  sourceSession := { expectedIpv4 := expectedSourceIpv4 }

end VisionForge.Video
