import VisionForge.ContractCore.WireProtocol
import VisionForge.Lib.Methods

/-! # Parts of the Host's publish chain

Where the identities of frames come from, which datagrams of a frame went out, which IDR has
arrived whole, and what the status shows.
-/

namespace VisionForge.ContractCore

open Lib.Ascii

def kMaxFrameSequence : UInt32 := 0xffffffff

structure StreamIdentityGenerator where
  epoch : UInt64
  sequence : UInt32 := 0
  rolloverBeforeNext : Bool := false
  epoch_valid : 0 < epoch ∧ epoch.toNat ≤ kMaxStreamEpoch
  deriving DecidableEq

namespace StreamIdentityGenerator

def rotationRequired (generator : StreamIdentityGenerator) : Bool := generator.rolloverBeforeNext

def next (generator : StreamIdentityGenerator) :
    Except StdException (FrameIdentity × StreamIdentityGenerator) :=
  if generator.rolloverBeforeNext then
    .error (.overflowError "a newly persisted stream epoch reservation is required")
  else
    .ok (⟨generator.epoch, generator.sequence⟩,
      if generator.sequence = kMaxFrameSequence then { generator with rolloverBeforeNext := true }
      else { generator with sequence := generator.sequence + 1 })

def rotateTo (generator : StreamIdentityGenerator) (reservedEpoch : UInt64) :
    Except StdException StreamIdentityGenerator :=
  if reserved : reservedEpoch ≤ generator.epoch ∨ kMaxStreamEpoch < reservedEpoch.toNat then
    .error (.invalidArgument "rotated epoch must be higher and inside protocol range")
  else
    .ok
      { epoch := reservedEpoch
        epoch_valid := by
          simp only [not_or, UInt64.not_le, Nat.not_lt] at reserved
          exact ⟨UInt64.lt_trans generator.epoch_valid.1 reserved.1, reserved.2⟩ }

end StreamIdentityGenerator

inductive DeliveryOutcome where
  | inProgress
  | complete
  | failed
  | duplicateFragment
  | wrongFrame
  | invalidFragment
  | staleTerminal
  deriving DecidableEq

structure DeliverySnapshot where
  identity : FrameIdentity
  isIdr : Bool := false
  fragmentsTotal : Nat := 0
  fragmentsSent : Nat := 0
  socketError : Bool := false
  terminal : Bool := false
  outcome : DeliveryOutcome := .inProgress
  deriving DecidableEq

def DeliverySnapshot.fullyPublished (snapshot : DeliverySnapshot) : Bool :=
  snapshot.terminal && snapshot.outcome == .complete && !snapshot.socketError &&
    decide (0 < snapshot.fragmentsTotal) && snapshot.fragmentsSent == snapshot.fragmentsTotal

structure VideoDeliveryLedger where
  identity : FrameIdentity := ⟨0, 0⟩
  active : Bool := false
  terminal : Bool := false
  isIdr : Bool := false
  socketError : Bool := false
  terminalOutcome : DeliveryOutcome := .inProgress
  sent : List Bool := []
  sentCount : Nat := 0
  deriving DecidableEq

namespace VideoDeliveryLedger

variable (ledger : VideoDeliveryLedger)

def begin (identity : FrameIdentity) (isIdr : Bool) (fragmentCount : Nat) :
    Except StdException VideoDeliveryLedger :=
  if ledger.active && !ledger.terminal then
    .error (.logicError "a video delivery is already active")
  else if !identity.valid || fragmentCount == 0 || decide (kMaxFragments < fragmentCount) then
    .error (.invalidArgument "invalid video delivery identity or fragment count")
  else
    .ok
      { identity := identity
        active := true
        isIdr := isIdr
        sent := List.replicate fragmentCount false }

def recordFragment (identity : FrameIdentity) (fragmentIndex : Nat) (sent : Bool) :
    DeliveryOutcome × VideoDeliveryLedger :=
  if !ledger.active || ledger.terminal then (.staleTerminal, ledger)
  else if identity ≠ ledger.identity then (.wrongFrame, ledger)
  else if ledger.socketError then (.failed, ledger)
  else if ledger.sent.length ≤ fragmentIndex then (.invalidFragment, ledger)
  else if !sent then (.failed, { ledger with socketError := true })
  else if ledger.sent[fragmentIndex]? = some true then (.duplicateFragment, ledger)
  else
    let next := { ledger with
      sent := ledger.sent.set fragmentIndex true
      sentCount := ledger.sentCount + 1 }
    (if next.sentCount = next.sent.length then .complete else .inProgress, next)

def snapshot : DeliverySnapshot where
  identity := ledger.identity
  isIdr := ledger.isIdr
  fragmentsTotal := ledger.sent.length
  fragmentsSent := ledger.sentCount
  socketError := ledger.socketError
  terminal := ledger.terminal
  outcome := if ledger.terminal then ledger.terminalOutcome else .inProgress

def finalize (identity : FrameIdentity) : DeliverySnapshot × VideoDeliveryLedger :=
  if !ledger.active || ledger.terminal then
    ({ identity := identity, terminal := true, outcome := .staleTerminal }, ledger)
  else if identity ≠ ledger.identity then
    ({ ledger.snapshot with terminal := false, outcome := .wrongFrame }, ledger)
  else
    let next := { ledger with
      terminal := true
      terminalOutcome := if !ledger.socketError && ledger.sentCount == ledger.sent.length then
        .complete else .failed }
    (next.snapshot, next)

end VideoDeliveryLedger

structure PublishSummary where
  fragmentsTotal : Nat := 0
  fragmentsSent : Nat := 0
  socketError : Bool := false
  deriving DecidableEq

def PublishSummary.complete (summary : PublishSummary) : Bool :=
  !summary.socketError && decide (0 < summary.fragmentsTotal) &&
    summary.fragmentsSent == summary.fragmentsTotal

structure IdrDeliveryTracker where
  idrRequested : Bool := true
  deliveredIdrCount : UInt64 := 0
  latestObservedIdr : Option FrameIdentity := none
  lastDelivered : Option FrameIdentity := none
  deriving DecidableEq

namespace IdrDeliveryTracker

def identityIsNewer (identity : FrameIdentity) (other : Option FrameIdentity) : Bool :=
  other.all identity.newerThan

def requestIdr (tracker : IdrDeliveryTracker) : IdrDeliveryTracker :=
  { tracker with idrRequested := true }

def onAccessUnit (tracker : IdrDeliveryTracker) (identity : FrameIdentity) (isIdr : Bool)
    (summary : PublishSummary) : IdrDeliveryTracker :=
  if !isIdr then tracker
  else if !identity.valid then tracker.requestIdr
  else
    let newerAttempt := identityIsNewer identity tracker.latestObservedIdr
    if !newerAttempt && tracker.latestObservedIdr != some identity then tracker
    else
      let tracker := if newerAttempt then { tracker with latestObservedIdr := some identity }
        else tracker
      if !summary.complete then tracker.requestIdr
      else if !identityIsNewer identity tracker.lastDelivered then tracker
      else
        { tracker with
          lastDelivered := some identity
          idrRequested := false
          deliveredIdrCount := nextTransition tracker.deliveredIdrCount }

end IdrDeliveryTracker

inductive PipelineBlocker where
  | runnable
  | captureWaiting
  | captureAccessLost
  | captureDeviceRemoved
  | encoderUnavailable
  | publishingFrame
  | waitingCompleteIdrPublish
  | transportFailure
  | waitingFreshIdr
  | receiverResourceLimit
  | decoderRestarting
  | postAckVisibility
  | recoveryExhausted
  deriving DecidableEq

structure VideoPipelineStatus where
  blocker : PipelineBlocker := .runnable
  transitionId : UInt64 := 0
  changedAt : Int
  lastPublishedFrame : Option FrameIdentity := none
  lastCountedIdr : Option FrameIdentity := none
  fullyPublishedIdrCount : UInt64 := 0
  deriving DecidableEq

structure PipelineStatusSnapshot where
  blocker : PipelineBlocker
  transitionId : UInt64
  /-- In milliseconds. -/
  blockerAge : Int
  lastPublishedFrame : Option FrameIdentity
  fullyPublishedIdrCount : UInt64
  deriving DecidableEq

namespace VideoPipelineStatus

variable (status : VideoPipelineStatus)

def setBlocker (blocker : PipelineBlocker) (now : Int) : VideoPipelineStatus :=
  if blocker = status.blocker then status
  else { status with
    blocker := blocker
    changedAt := max status.changedAt now
    transitionId := nextTransition status.transitionId }

@[simp] theorem setBlocker_blocker (blocker : PipelineBlocker) (now : Int) :
    (status.setBlocker blocker now).blocker = blocker := by
  unfold setBlocker
  split
  · next same => exact same.symm
  · rfl

def markPublished (identity : FrameIdentity) (completeIdr : Bool) : VideoPipelineStatus :=
  if !identity.valid then status
  else if status.lastPublishedFrame.any
      (fun last => identity != last && !identity.newerThan last) then status
  else
    let status := if status.lastPublishedFrame.all identity.newerThan then
      { status with lastPublishedFrame := some identity } else status
    if completeIdr && status.lastCountedIdr.all identity.newerThan then
      { status with
        lastCountedIdr := some identity
        fullyPublishedIdrCount := nextTransition status.fullyPublishedIdrCount }
    else status

def snapshot (now : Int) : PipelineStatusSnapshot where
  blocker := status.blocker
  transitionId := status.transitionId
  blockerAge := if status.changedAt ≤ now then (now - status.changedAt) / 1000000 else 0
  lastPublishedFrame := status.lastPublishedFrame
  fullyPublishedIdrCount := status.fullyPublishedIdrCount

end VideoPipelineStatus

inductive CaptureStatus where
  | frame
  | waitTimeout
  | accessLost
  | deviceRemoved
  | failed
  deriving DecidableEq

inductive CaptureAction where
  | encodeAndPublish
  | publishRepeat
  | waitForFirstFrame
  | recreateDuplication
  | rebuildCaptureDevice
  | failClosed
  deriving DecidableEq

/-- The orchestrator: the blocker that a capture sets, and what is to be done. -/
def orchestrate (captureStatus : CaptureStatus) (hasPublishedFrame : Bool) :
    PipelineBlocker × CaptureAction :=
  match captureStatus with
  | .frame => (.publishingFrame, .encodeAndPublish)
  | .waitTimeout =>
    (.captureWaiting, if hasPublishedFrame then .publishRepeat else .waitForFirstFrame)
  | .accessLost => (.captureAccessLost, .recreateDuplication)
  | .deviceRemoved => (.captureDeviceRemoved, .rebuildCaptureDevice)
  | .failed => (.transportFailure, .failClosed)

/-! ## The Host's publish chain

A capture becomes an identity, datagrams, a delivery and a status. The record of a run says what
was generated, what went out whole, and what the phone cannot go on from.
-/

open Lib.Methods

/-- What is on record of a run, oldest first; the source keeps no such record. -/
inductive HostEvent where
  | generated (identity : FrameIdentity)
  /-- With the datagrams of the frame, and how many of them the sink has taken. -/
  | published (identity : FrameIdentity) (isIdr : Bool) (total taken : Nat)
  | requestIdr
  | repeated
  | captureLoss
  | invalidFrame
  deriving DecidableEq

/-- What the sink does with the datagrams of one call, by their number; `none` is an exception. -/
abbrev DatagramSink := Nat → Bytes → Option Bool

/-- The loop over the datagrams from an index on: the ledger, and how many were taken. -/
def sendDatagrams (sink : DatagramSink) (identity : FrameIdentity) :
    (datagrams : List Bytes) → (index : Nat) → VideoDeliveryLedger → VideoDeliveryLedger × Nat
  | [], _, ledger => (ledger, 0)
  | datagram :: datagrams, index, ledger =>
    let sent := (sink index datagram).getD false
    let ledger := (ledger.recordFragment identity index sent).2
    if !sent then (ledger, 0)
    else
      let (ledger, taken) := sendDatagrams sink identity datagrams (index + 1) ledger
      (ledger, taken + 1)

structure HostRuntimeFacade where
  fragmenter : DatagramFragmenter
  idrTracker : IdrDeliveryTracker := {}
  deriving DecidableEq

namespace HostRuntimeFacade

def requestIdr (facade : HostRuntimeFacade) : HostRuntimeFacade :=
  { facade with idrTracker := facade.idrTracker.requestIdr }

def idrRequested (facade : HostRuntimeFacade) : Bool := facade.idrTracker.idrRequested

/-- With what goes on record: the number of datagrams and of those that were taken. -/
def publishAccessUnit (facade : HostRuntimeFacade) (identity : FrameIdentity) (isIdr : Bool)
    (accessUnit : Bytes) (sink : DatagramSink) :
    Except StdException (PublishSummary × (Nat × Nat) × HostRuntimeFacade) := do
  let datagrams ← DatagramFragmenter.fragment facade.fragmenter.config identity accessUnit
  let delivery ← VideoDeliveryLedger.begin {} identity isIdr datagrams.length
  let (delivery, taken) := sendDatagrams sink identity datagrams 0 delivery
  let terminal := (delivery.finalize identity).1
  let summary : PublishSummary :=
    { fragmentsTotal := terminal.fragmentsTotal
      fragmentsSent := terminal.fragmentsSent
      socketError := terminal.socketError || !terminal.fullyPublished }
  return (summary, (datagrams.length, taken),
    { facade with idrTracker := facade.idrTracker.onAccessUnit identity isIdr summary })

def publishRepeat (identity : FrameIdentity) (sink : DatagramSink) : Except StdException Bool := do
  let datagram ← DatagramFragmenter.repeated identity
  return (sink 0 datagram).getD false

end HostRuntimeFacade

inductive HostRuntimeCode where
  | framePublished
  | framePublishFailed
  | repeatPublished
  | repeatPublishFailed
  | waitingFirstFrame
  | recreateDuplication
  | rebuildCaptureDevice
  | failClosed
  | invalidEncodedFrame
  | epochRotationRequired
  deriving DecidableEq

structure HostRuntimeResult where
  code : HostRuntimeCode
  identity : Option FrameIdentity
  publish : PublishSummary
  status : PipelineStatusSnapshot
  deriving DecidableEq

structure HostRuntimeCompositionRoot where
  status : VideoPipelineStatus
  identities : StreamIdentityGenerator
  facade : HostRuntimeFacade
  lastPublished : Option FrameIdentity := none
  log : List HostEvent := []
  deriving DecidableEq

namespace HostRuntimeCompositionRoot

abbrev Method := EStateM StdException HostRuntimeCompositionRoot

def fresh (reservedEpoch : { epoch : UInt64 // 0 < epoch ∧ epoch.toNat ≤ kMaxStreamEpoch })
    (now : Int) (fragmenter : DatagramFragmenter) : HostRuntimeCompositionRoot where
  status := VideoPipelineStatus.setBlocker { changedAt := now } .waitingCompleteIdrPublish now
  identities := { epoch := reservedEpoch, epoch_valid := reservedEpoch.property }
  facade := { fragmenter := fragmenter }

variable (root : HostRuntimeCompositionRoot)

def record (event : HostEvent) : HostRuntimeCompositionRoot :=
  { root with log := root.log ++ [event] }

def setBlocker (blocker : PipelineBlocker) (now : Int) : HostRuntimeCompositionRoot :=
  { root with status := root.status.setBlocker blocker now }

/-- `facade_.request_idr()` -/
def facadeRequestIdr : HostRuntimeCompositionRoot := { root with facade := root.facade.requestIdr }

def result (code : HostRuntimeCode) (identity : Option FrameIdentity) (publish : PublishSummary)
    (now : Int) : HostRuntimeResult :=
  ⟨code, identity, publish, root.status.snapshot now⟩

/-- A frame that has its identity goes out; what the facade throws passes through. -/
def publishFrame (identity : FrameIdentity) (isIdr : Bool) (accessUnit : Bytes)
    (sink : DatagramSink) (now : Int) : Method HostRuntimeResult := fun root =>
  match root.facade.publishAccessUnit identity isIdr accessUnit sink with
  | .error exception => .error exception root
  | .ok (summary, (total, taken), facade) =>
    let root := { root with facade := facade }.record (.published identity isIdr total taken)
    if !summary.complete then
      let root := root.facadeRequestIdr.setBlocker .transportFailure now
      .ok (root.result .framePublishFailed (some identity) summary now) root
    else
      let root := { root with
        lastPublished := some identity
        status := root.status.markPublished identity isIdr }.setBlocker
          (if facade.idrRequested then .waitingCompleteIdrPublish else .runnable) now
      .ok (root.result .framePublished (some identity) summary now) root

def encodeAndPublish (accessUnit : Bytes) (isIdr : Bool) (sink : DatagramSink) (now : Int) :
    Method HostRuntimeResult := fun root =>
  if accessUnit.isEmpty then
    let root := (root.record .invalidFrame).facadeRequestIdr.setBlocker .encoderUnavailable now
    .ok (root.result .invalidEncodedFrame none {} now) root
  else if root.identities.rotationRequired then
    let root := root.setBlocker .recoveryExhausted now
    .ok (root.result .epochRotationRequired none {} now) root
  else
    match root.identities.next with
    | .error exception => .error exception root
    | .ok (identity, identities) =>
      publishFrame identity isIdr accessUnit sink now
        ({ root with identities := identities }.record (.generated identity))

def publishRepeat (publishedBefore : Option FrameIdentity) (sink : DatagramSink) (now : Int) :
    Method HostRuntimeResult := fun root =>
  match publishedBefore with
  | none =>
    let root := root.setBlocker .captureWaiting now
    .ok (root.result .waitingFirstFrame none {} now) root
  | some identity =>
    let root := root.record .repeated
    match HostRuntimeFacade.publishRepeat identity sink with
    | .error exception => .error exception root
    | .ok sent =>
      let root := root.facadeRequestIdr.setBlocker
        (if sent then .waitingCompleteIdrPublish else .transportFailure) now
      .ok (root.result (if sent then .repeatPublished else .repeatPublishFailed) (some identity)
        { fragmentsTotal := 1, fragmentsSent := if sent then 1 else 0, socketError := !sent }
        now) root

def loseCapture (code : HostRuntimeCode) (publishedBefore : Option FrameIdentity) (now : Int) :
    Method HostRuntimeResult := fun root =>
  let root := (root.record .captureLoss).facadeRequestIdr
  .ok (root.result code publishedBefore {} now) root

def onCapture (captureStatus : CaptureStatus) (accessUnit : Bytes) (isIdr : Bool)
    (sink : DatagramSink) (now : Int) : Method HostRuntimeResult := fun root =>
  let publishedBefore := root.lastPublished
  let (blocker, action) := orchestrate captureStatus publishedBefore.isSome
  let root := root.setBlocker blocker now
  match action with
  | .encodeAndPublish => encodeAndPublish accessUnit isIdr sink now root
  | .publishRepeat => publishRepeat publishedBefore sink now root
  | .waitForFirstFrame => .ok (root.result .waitingFirstFrame none {} now) root
  | .recreateDuplication => loseCapture .recreateDuplication publishedBefore now root
  | .rebuildCaptureDevice => loseCapture .rebuildCaptureDevice publishedBefore now root
  | .failClosed => loseCapture .failClosed publishedBefore now root

def rotateToReservedEpoch (reservedEpoch : UInt64) (now : Int) : Method PUnit := fun root =>
  match root.identities.rotateTo reservedEpoch with
  | .error exception => .error exception root
  | .ok identities =>
    .ok () ({ root with identities := identities, lastPublished := none }.facadeRequestIdr.setBlocker
      .waitingCompleteIdrPublish now)

def requestIdr : Method PUnit := fun root => .ok () (root.record .requestIdr).facadeRequestIdr

end HostRuntimeCompositionRoot

inductive HostCall where
  | onCapture (captureStatus : CaptureStatus) (accessUnit : Bytes) (isIdr : Bool)
      (sink : DatagramSink) (now : Int)
  | rotateToReservedEpoch (reservedEpoch : UInt64) (now : Int)
  | requestIdr

namespace HostRuntimeCompositionRoot

def step (root : HostRuntimeCompositionRoot) : HostCall → HostRuntimeCompositionRoot
  | .onCapture captureStatus accessUnit isIdr sink now =>
    after ((onCapture captureStatus accessUnit isIdr sink now).run root)
  | .rotateToReservedEpoch reservedEpoch now =>
    after ((rotateToReservedEpoch reservedEpoch now).run root)
  | .requestIdr => after (requestIdr.run root)

def runCalls (root : HostRuntimeCompositionRoot) (calls : List HostCall) :
    HostRuntimeCompositionRoot :=
  calls.foldl step root

end HostRuntimeCompositionRoot

end VisionForge.ContractCore
