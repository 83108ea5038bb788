import VisionForge.FormalCoordinator.SidecarPort
import VisionForge.FormalUsage.UsageStateEffects

/-! # The coordinator of paid sessions and what surrounds it

The coordinator drives a runtime boundary and a sidecar for one paid session after the other.
Its monitor is held for whole calls, also while the sidecar is waited for; the stop latch, the
cancellation of a start and the first half of a deadline work without the monitor. A call that
does so is a task, kept as the section that it enters next.
-/

namespace VisionForge.FormalCoordinator

open DualMachineSidecarPort DualMachineSidecarValues FormalUsage
open FormalUsage.DualMachineFormalUsageStateMachine (Snapshot State Operation)
open Lib.Ascii Lib.Utf PhoneLease

/-- The enumeration `DataPlanePermitState`. -/
inductive DataPlanePermitState where
  | opened
  | stagedWaiting
  | closed
  | superseded
  deriving DecidableEq

inductive RenewalOutcome where
  | currentInstalled
  | futureStaged
  | idempotent
  | noProgress
  deriving DecidableEq

def MAXIMUM_LEASE_SECONDS : Int := 5

/-- Both runtimes are ready; the constructor accepts nothing else. -/
structure StartReadiness where
  channelBindingSha256 : Units
  channelHex : (sha256 channelBindingSha256 "channelBindingSha256").isOk = true
  deriving DecidableEq

structure DataPlanePermit where
  sessionId : Units
  sequence : Int
  leaseSha256 : Units
  channelBindingSha256 : Units
  startRequestId : Units
  notBeforeMonotonicNanos : Int
  expiresAtMonotonicNanos : Int
  signedUsageLeaseUtf8 : Bytes
  deriving DecidableEq

structure StopOutcome where
  localClosed : Bool
  serverConfirmed : Bool
  remainingSeconds : Int
  definitelyNotStarted : Bool
  deriving DecidableEq

/-- A generation of paid use; other parts of the coordinator name it by its index. -/
structure PendingStart where
  before : Snapshot
  request : StartUsageRequest
  cancellationRequest : StartCancellationRequest
  cancellationResponse : Option StartCancellationResponse := none
  terminalFinalized : Bool := false
  startRequestDispatched : Bool := false
  startResponseReceived : Bool := false
  verifiedSessionId : Units := []
  preparedStopRequest : Option StopRequest := none
  completedStopOutcome : Option StopOutcome := none
  deriving DecidableEq

structure PendingHeartbeat where
  before : Snapshot
  request : HeartbeatRequest
  hostProgress : Int
  androidProgress : Int
  sequence : Int
  deriving DecidableEq

structure LifecycleStopHandle where
  generation : Nat
  /-- Whether the stop has to cancel the start of its generation. -/
  cancelsStart : Bool
  deriving DecidableEq

def LifecycleStopHandle.startToCancel (handle : LifecycleStopHandle) : Option Nat :=
  if handle.cancelsStart then some handle.generation else none

/-- The calls that begin by setting the latch, whatever the generation. -/
inductive LocalStop where
  | stopForRuntimeLifecycle
  | cancelPendingStart
  | failCloseFromEntitlementRevocation
  | failCloseFromRuntimeLoss
  deriving DecidableEq

inductive Task where
  | latch (call : LocalStop)
  | capture (call : LocalStop) (firstStop : Bool)
  | sendCancellation (call : LocalStop) (firstStop : Bool) (lifecycle : LifecycleStopHandle)
  /-- The part of a stop that holds the monitor. -/
  | close (call : LocalStop) (firstStop : Bool) (lifecycle : Option LifecycleStopHandle)
  | latchGeneration (handle : LifecycleStopHandle)
  | sendEarly (handle : LifecycleStopHandle)
  /-- The part of a handle's stop that holds the monitor. -/
  | claim (handle : LifecycleStopHandle) (earlyResponse : Option StartCancellationResponse)
  | sendLate (handle : LifecycleStopHandle) (earlyResponse : Option StartCancellationResponse)
  | report (handle : LifecycleStopHandle) (response : Option StartCancellationResponse)
  | sendExact (generation : Nat)
  | requestLatch
  | enforceDeadline (generation : Nat)
  | noteDeadline (generation : Nat) (runtimeState : DataPlanePermitState)
  /-- The part of a deadline that holds the monitor. -/
  | runDeadline (generation : Nat)
  deriving DecidableEq

inductive Progress where
  | next (task : Task)
  | stopped (outcome : StopOutcome)
  | cancelled (accepted : Bool)
  | done
  deriving DecidableEq

/-- What the others do while a call holds the monitor: a call begins, a task goes on, or the
card side uses the user-rights state. -/
inductive Beside where
  | enter (task : Task)
  | proceed (index : Nat)
  | cardOperation (operation : Operation)
  deriving DecidableEq

structure SignedProof where
  hostSignature : Bytes
  androidSignature : Bytes
  deriving DecidableEq

/-- The identities that the coordinator was given, as far as it compares them. -/
structure Identities where
  hostFingerprint : Except Failure Units
  androidFingerprint : Except Failure Units
  hostPublicKeyBase64 : Units

/-- What the runtime, the server, the signers, the clocks and the other threads do. The first
argument counts what they have done before. -/
structure Outside where
  identities : Identities
  crypto : UsageLease.Cryptography
  prepareWithDataPlaneClosed : Nat → Except Failure StartReadiness
  verifyFreshHostVideoBeforePotentialDebit : Nat → Units → Units → Except Failure Unit
  openDataPlane : Nat → DataPlanePermit → Except Failure Unit
  stageFutureLease : Nat → DataPlanePermit → Except Failure Unit
  enforceLeaseWindow : Nat → Except Failure DataPlanePermitState
  closeDataPlane : Nat → Except Failure Unit
  finalizeFormalGeneration : Nat → Units → Units → StopOutcome → Except Failure Unit
  createStartChallenge :
    Nat → StartChallengeRequest → Except Failure (Option StartChallengeResponse)
  startUsage : Nat → StartUsageRequest → Except Failure (Option UsageLeaseResponse)
  heartbeat : Nat → HeartbeatRequest → Except Failure (Option UsageLeaseResponse)
  stop : Nat → StopRequest → Except Failure (Option StopResponse)
  cancelStart :
    Nat → StartCancellationRequest → Except Failure (Option StartCancellationResponse)
  createVerified : Nat → Bytes → Except Failure SignedProof
  verifyLease :
    Nat → Units → ExpectedBinding → Int → Int → Except LeaseVerificationError VerifiedLease
  nextHex128 : Nat → Except Failure Units
  nowEpochSeconds : Nat → Except Failure Int
  nowNanos : Nat → Except Failure Int
  /-- Whether the scheduler gives a handle back. -/
  scheduleAt : Nat → Int → Nat → Except Failure Bool
  cancelDeadline : Nat → Except Failure Unit
  hostProgressSource : Nat → Except Failure Int
  androidProgressSource : Nat → Except Failure Int
  beside : Nat → List Beside

/-- What is on record of a run, oldest first. -/
inductive Event where
  /-- The stop latch was set while the generation owned the lifecycle. -/
  | latched (owner : Option Nat)
  | rearmed
  | openDataPlane (owner : Option Nat) (permit : DataPlanePermit)
  /-- With the obligation to close as it stood at the call. -/
  | stageFutureLease (owner : Option Nat) (permit : DataPlanePermit) (closeRequired : Bool)
  | closeDataPlane
  | startUsage (generation : Nat)
  | stop (generation : Nat) (before : Snapshot) (response : Option StopResponse)
  /-- With the generation as it stood at the answer. -/
  | cancelStart (generation : Nat) (pending : PendingStart)
      (response : Option StartCancellationResponse)
  | finalizeFormalGeneration (generation : Nat) (outcome : StopOutcome)
  deriving DecidableEq

/-- The fields that decide who owns a generation and what the boundary holds. -/
structure Ownership where
  generations : List PendingStart := []
  pendingStart : Option Nat := none
  lifecycleStart : Option Nat := none
  preparedStartAdmission : Option Nat := none
  /-- Admissions are told apart by their number. -/
  admissions : Nat := 0
  immediateStopRequested : Bool := false
  runtimeBoundaryCloseRequired : Bool := false
  /-- The calls that work without the monitor; one that has ended leaves its place empty. -/
  tasks : List (Option Task) := []
  log : List Event := []
  deriving DecidableEq

structure Session where
  leaseGate : Option DualMachineUsageLeaseGate := none
  hostProgress : Option DualMachineSessionProgressCounter := none
  androidProgress : Option DualMachineSessionProgressCounter := none
  lastLease : Option VerifiedLease := none
  lastLeaseToken : Units := []
  channelBindingSha256 : Units := []
  lastHostProgress : Int := 0
  lastAndroidProgress : Int := 0
  dataPlaneOpen : Bool := false
  pendingHeartbeat : Option PendingHeartbeat := none
  scheduledDeadline : Bool := false
  completedLifecycleStop : Option StopOutcome := none
  deadlineGeneration : Nat := 0
  futureLeaseStaged : Bool := false
  stagedNotBeforeMonotonicNanos : Int := -1
  deriving DecidableEq

structure World where
  outside : Outside
  ownership : Ownership := {}
  session : Session := {}
  stateMachine : DualMachineFormalUsageStateMachine := {}
  answered : Nat := 0

abbrev Coordinator := EStateM Failure World

def given {α : Type} (outcome : Except Failure α) : Coordinator α := fun world =>
  match outcome with
  | .ok value => .ok value world
  | .error error => .error error world

def require (condition : Bool) (failure : Failure) : Coordinator Unit :=
  given (if condition then .ok () else .error failure)

def choose {α : Type} (condition : Bool) (yes no : Coordinator α) : Coordinator α :=
  if condition then yes else no

def whenever (condition : Bool) (body : Coordinator Unit) : Coordinator Unit :=
  choose condition body (pure ())

def ownership : Coordinator Ownership := do
  let world ← get
  return world.ownership

def session : Coordinator Session := do
  let world ← get
  return world.session

def snapshot : Coordinator Snapshot := do
  let world ← get
  return world.stateMachine.snapshot

def changeOwnership (change : Ownership → Ownership) : Coordinator Unit :=
  modify fun world => { world with ownership := change world.ownership }

def changeSession (change : Session → Session) : Coordinator Unit :=
  modify fun world => { world with session := change world.session }

def record (event : Event) : Coordinator Unit :=
  changeOwnership fun ownership => { ownership with log := ownership.log ++ [event] }

def changeGeneration (generation : Nat) (change : PendingStart → PendingStart) :
    Coordinator Unit :=
  changeOwnership fun ownership =>
    { ownership with generations := ownership.generations.modify generation change }

def generationAt (generation : Nat) : Coordinator PendingStart := do
  let ownership ← ownership
  given (ownership.generations[generation]?.elim (.error .nullPointer) .ok)

def present {α : Type} (value : Option α) : Coordinator α :=
  given (value.elim (.error .nullPointer) .ok)

def onStateMachine {α : Type} (method : DualMachineFormalUsageStateMachine.Method α) :
    Coordinator α := fun world =>
  match method.run world.stateMachine with
  | .ok value stateMachine => .ok value { world with stateMachine := stateMachine }
  | .error error stateMachine =>
    .error (.runtime error) { world with stateMachine := stateMachine }

/-- An answer from outside, at a moment when no other thread can come between. -/
def ask {α : Type} (answer : Outside → Nat → Except Failure α) : Coordinator α := fun world =>
  match answer world.outside world.answered with
  | .ok value => .ok value { world with answered := world.answered + 1 }
  | .error failure => .error failure { world with answered := world.answered + 1 }

def orElse {α : Type} (body : Coordinator α) (value : α) : Coordinator α :=
  tryCatch body fun _ => pure value

/-- A last step whose own exception replaces that of the block. -/
def ensuring {α : Type} (body : Coordinator α) (last : Coordinator Unit) : Coordinator α := do
  let outcome ← tryCatch (Except.ok <$> body) fun failure => pure (Except.error failure)
  last
  given outcome

/-! ## Sections that work without the monitor

Each section is one step beside whatever holds the monitor. `pause` is the place, in a call that
holds the monitor, where such steps come between.
-/

open DualMachineSidecarPort FormalUsage Lib.Methods Lib.Utf
open FormalUsage.DualMachineFormalUsageStateMachine (Snapshot step)

/-- A close that fails leaves the obligation to close. -/
def closeRuntimeBoundaryOnce : Coordinator Bool := do
  let before ← ownership
  if before.runtimeBoundaryCloseRequired then
    changeOwnership fun ownership => { ownership with runtimeBoundaryCloseRequired := false }
    record .closeDataPlane
    tryCatch
      (do
        ask (·.closeDataPlane)
        return true)
      fun _ => do
        changeOwnership fun ownership => { ownership with runtimeBoundaryCloseRequired := true }
        return false
  else return true

def setDataPlaneOpen (dataPlaneOpen : Bool) : Coordinator Unit :=
  changeSession fun session => { session with dataPlaneOpen := dataPlaneOpen }

def setImmediateStopRequested : Coordinator Unit :=
  changeOwnership fun ownership =>
    { ownership with
      immediateStopRequested := true
      log := ownership.log ++ [.latched ownership.lifecycleStart] }

/-- What a thread that sets the latch does in both locks. -/
def stopLocally : Coordinator Unit := do
  setImmediateStopRequested
  changeOwnership fun ownership => { ownership with preparedStartAdmission := none }
  let _ ← closeRuntimeBoundaryOnce
  setDataPlaneOpen false

def latchImmediateLocalStop : Coordinator Bool := do
  let before ← ownership
  if before.immediateStopRequested then return false
  else
    stopLocally
    return true

def latchGenerationStop (expectedGeneration : Nat) : Coordinator Bool := do
  let before ← ownership
  if before.lifecycleStart = some expectedGeneration then
    stopLocally
    return true
  else return false

def enforceRuntimeLeaseWindowLocked : Coordinator DataPlanePermitState := do
  let before ← ownership
  if before.immediateStopRequested then
    let _ ← closeRuntimeBoundaryOnce
    return .closed
  else orElse (ask (·.enforceLeaseWindow)) .closed

def validStartCancellationResponse (response : Option StartCancellationResponse)
    (pending : PendingStart) : Bool :=
  match response, pending.before.entitlement with
  | some response, some entitlement =>
    if response.startRequestId ≠ pending.request.requestId ∨
        entitlement.authorizationKind ≠ response.authorizationKind ∨
        entitlement.permanent ≠ response.permanent ∨ response.chargedSeconds ≠ 0 then false
    else if pending.verifiedSessionId ≠ [] then
      response.billingStarted && response.sessionId == pending.verifiedSessionId &&
        !response.sessionStatus.isEmpty
    else if response.permanent then response.remainingSeconds == 0
    else if response.sessionStatus = text "not_started" then
      !response.billingStarted && response.sessionId.isEmpty
    else response.billingStarted && !response.sessionId.isEmpty
  | _, _ => false

def recordedCancellation (generation : Nat) : Coordinator (Option StartCancellationResponse) := do
  let pending ← generationAt generation
  return if validStartCancellationResponse pending.cancellationResponse pending then
    pending.cancellationResponse else none

def sendAndRecordStartCancellation (generation : Nat) :
    Coordinator (Option StartCancellationResponse) :=
  orElse
    (do
      let pending ← generationAt generation
      let response ← ask (·.cancelStart · pending.cancellationRequest)
      record (.cancelStart generation pending response)
      if validStartCancellationResponse response pending then
        changeGeneration generation fun pending =>
          { pending with
            cancellationResponse := pending.cancellationResponse <|> response }
        recordedCancellation generation
      else return none)
    none

def finalizeAutomaticUsageGeneration (generation : Option Nat) (outcome : StopOutcome) :
    Coordinator Unit := do
  match generation with
  | none => return ()
  | some generation =>
    let pending ← generationAt generation
    if pending.terminalFinalized then return ()
    else
      changeGeneration generation fun pending => { pending with terminalFinalized := true }
      record (.finalizeFormalGeneration generation outcome)
      ask (·.finalizeFormalGeneration · pending.request.requestId
        pending.request.channelBindingSha256 outcome)

def capturePendingStartCancellation : Coordinator (Option Nat) := do
  let ownership ← ownership
  return if ownership.pendingStart = ownership.lifecycleStart then ownership.pendingStart else none

def captureLifecycleStop : Coordinator (Option LifecycleStopHandle) := do
  let ownership ← ownership
  return ownership.lifecycleStart.map fun generation =>
    ⟨generation, ownership.pendingStart == some generation⟩

/-- What a stop of a generation that no longer owns the lifecycle reports. -/
def reportOutcome (pending : PendingStart) (cancelsStart : Bool)
    (response : Option StartCancellationResponse) : StopOutcome where
  localClosed := true
  serverConfirmed := response.isSome
  remainingSeconds := (response.map (·.remainingSeconds)).getD pending.before.remainingSeconds
  definitelyNotStarted := cancelsStart && (!pending.startRequestDispatched ||
    response.any (fun response =>
      response.sessionStatus == text "not_started" && !response.billingStarted))

def Task.holdsMonitor : Task → Bool
  | .close .. | .claim .. | .runDeadline .. => true
  | _ => false

def Task.begins (ownership : Ownership) : Task → Bool
  | .latch _ | .requestLatch | .enforceDeadline _ => true
  | .latchGeneration handle => decide (handle.generation < ownership.generations.length)
  | .sendExact generation => decide (generation < ownership.generations.length)
  | _ => false

def closeNext (call : LocalStop) (firstStop : Bool) (handle : Option LifecycleStopHandle) : Task :=
  match handle with
  | some handle =>
    if handle.cancelsStart then .sendCancellation call firstStop handle
    else .close call firstStop (some handle)
  | none => .close call firstStop none

/-- A section without the monitor; those that hold it are not entered here. -/
def Task.section : Task → Coordinator Progress
  | .requestLatch => do
      let _ ← latchImmediateLocalStop
      return .done
  | .latch call => do
      let firstStop ← latchImmediateLocalStop
      return .next (.capture call firstStop)
  | .capture .cancelPendingStart _ => do
      let handle ← capturePendingStartCancellation
      match handle with
      | some generation => return .next (.sendExact generation)
      | none =>
        let session ← session
        return .cancelled (session.completedLifecycleStop.any (·.serverConfirmed))
  | .capture .stopForRuntimeLifecycle firstStop => do
      let handle ← captureLifecycleStop
      match handle with
      | some handle => return .next (.latchGeneration handle)
      | none => return .next (.close .stopForRuntimeLifecycle firstStop none)
  | .capture call firstStop => do
      let handle ← captureLifecycleStop
      return .next (closeNext call firstStop handle)
  | .sendCancellation call firstStop lifecycle => do
      let _ ← sendAndRecordStartCancellation lifecycle.generation
      return .next (.close call firstStop (some lifecycle))
  | .latchGeneration handle => do
      let _ ← latchGenerationStop handle.generation
      return .next (if handle.cancelsStart then .sendEarly handle else .claim handle none)
  | .sendEarly handle => do
      let response ← sendAndRecordStartCancellation handle.generation
      return .next (.claim handle response)
  | .sendLate handle earlyResponse =>
    if handle.cancelsStart && earlyResponse.isNone then do
      let response ← sendAndRecordStartCancellation handle.generation
      return .next (.report handle response)
    else return .next (.report handle earlyResponse)
  | .report handle earlyResponse => do
      let recorded ← recordedCancellation handle.generation
      let response := if handle.cancelsStart then earlyResponse <|> recorded else none
      let pending ← generationAt handle.generation
      let outcome := reportOutcome pending handle.cancelsStart response
      whenever response.isSome
        (changeGeneration handle.generation fun pending =>
          { pending with completedStopOutcome := some outcome })
      finalizeAutomaticUsageGeneration (some handle.generation) outcome
      return .stopped outcome
  | .sendExact generation => do
      let response ← sendAndRecordStartCancellation generation
      return .cancelled response.isSome
  | .enforceDeadline generation => do
      let session ← session
      if generation = session.deadlineGeneration then
        let runtimeState ← enforceRuntimeLeaseWindowLocked
        return .next (.noteDeadline generation runtimeState)
      else return .done
  | .noteDeadline generation runtimeState =>
    if runtimeState = .opened then return .next (.runDeadline generation)
    else do
      setDataPlaneOpen false
      return .next (.runDeadline generation)
  | task => return .next task

def settleTask (index : Nat) (result : EStateM.Result Failure World Progress) : World :=
  match result with
  | .ok (.next task) world =>
    { world with ownership.tasks := world.ownership.tasks.set index (some task) }
  | .ok _ world | .error _ world =>
    { world with ownership.tasks := world.ownership.tasks.set index none }

def Ownership.taskAt (ownership : Ownership) (index : Nat) : Option Task :=
  ownership.tasks[index]?.join

def besideStep (world : World) : Beside → World
  | .enter task =>
    if task.begins world.ownership then
      { world with ownership.tasks := world.ownership.tasks ++ [some task] }
    else world
  | .proceed index =>
    match world.ownership.taskAt index with
    | some task =>
      if task.holdsMonitor then world else settleTask index (task.section.run world)
    | none => world
  | .cardOperation operation =>
    { world with stateMachine := (step world.stateMachine operation).1 }

def pause : Coordinator Unit :=
  modify fun world =>
    (world.outside.beside world.answered).foldl besideStep
      { world with answered := world.answered + 1 }

end VisionForge.FormalCoordinator
