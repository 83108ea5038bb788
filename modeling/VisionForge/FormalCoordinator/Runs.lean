import VisionForge.FormalCoordinator.Calls

/-! # Runs of the coordinator

The remaining calls that hold the monitor, and runs: one such call after the other, with the
sections of the tasks between and within them.
-/

namespace VisionForge.FormalCoordinator

open DualMachineSidecarPort DualMachineSidecarValues FormalUsage Lib.Ascii Lib.Long Lib.Methods
open Lib.Utf PhoneLease
open DualMachineUsageLeaseGate (InstallResult)
open FormalUsage.DualMachineFormalUsageStateMachine (Snapshot State)

def requireIdentityBinding (entitlement : DualMachineEntitlementRecord) : Coordinator Unit := do
  let world ← get
  let identities := world.outside.identities
  let hostFingerprint ← given identities.hostFingerprint
  let androidFingerprint ← given identities.androidFingerprint
  require (entitlement.hostKeySha256 == hostFingerprint &&
      entitlement.androidKeySha256 == androidFingerprint &&
      entitlement.hostIdentityPublicKeyBase64 == identities.hostPublicKeyBase64)
    (.security "formal usage identity binding changed")

def generationBound (cause : Failure) (generation : Nat) : Coordinator Failure := do
  let pending ← generationAt generation
  return .generationBound cause generation pending.startRequestDispatched

def Failure.isIo : Failure → Bool
  | .io _ => true
  | _ => false

/-- The stop was requested, or the server has answered; only then is the start given up. -/
def mustPreserve (generation : Nat) : Coordinator Bool := do
  pause
  let ownership ← ownership
  let pending ← generationAt generation
  return ownership.immediateStopRequested || pending.startResponseReceived

def startFailed (failure : Failure) : Coordinator DataPlanePermit :=
  match failure with
  | .startCancelled .. => throw failure
  | _ => do
      let owned ← ownership
      match owned.pendingStart with
      | none =>
        abortStartingGeneration
        throw failure
      | some failedGeneration =>
        let preserves ← choose failure.isIo (mustPreserve failedGeneration) (pure true)
        choose preserves preservePendingStartForCancellation (discard closeDataPlaneOnly)
        let bound ← generationBound failure failedGeneration
        throw bound

def consumeAdmission (admission : Nat) : Coordinator Unit := do
  pause
  let ownership ← ownership
  require (ownership.preparedStartAdmission == some admission)
    (.admissionSuperseded "formal start admission was superseded")
  changeOwnership fun ownership => { ownership with preparedStartAdmission := none }

def startAfterVerifiedHostVideo (admission : Nat) : Coordinator DataPlanePermit := do
  consumeAdmission admission
  requireNotStopped
  let before ← machineSnapshot
  require before.canFormalStart (.runtime (.illegalState "formal start is unavailable"))
  let entitlement ← present before.entitlement
  requireIdentityBinding entitlement
  tryCatch
    (do
      changeOwnership fun ownership => { ownership with runtimeBoundaryCloseRequired := true }
      let readiness ← callOut (·.prepareWithDataPlaneClosed)
      requireNotStopped
      machineCall (DualMachineFormalUsageStateMachine.runtimeRequestedFormalStart true)
      initializeGeneration readiness.channelBindingSha256
      requestAndInstallInitialLease before entitlement)
    startFailed

def capturePendingStartRetryAdmission : Coordinator Nat := do
  pause
  let ownership ← ownership
  let current ← machineSnapshot
  match ownership.pendingStart with
  | some generation =>
    require (!ownership.immediateStopRequested && current.state == .starting)
      (.runtime (.illegalState "no pending formal start response"))
    return generation
  | none => throw (.runtime (.illegalState "no pending formal start response"))

/-- What is thrown is bound to the generation; the cleanup comes first. -/
def boundTo {α : Type} (generation : Nat) (cleanup : Failure → Coordinator Unit)
    (body : Coordinator α) : Coordinator α :=
  tryCatch body fun failure =>
    match failure with
    | .startCancelled .. => throw failure
    | _ => do
        cleanup failure
        let bound ← generationBound failure generation
        throw bound

def retryPendingStart (generation : Nat) : Coordinator DataPlanePermit := do
  let owned ← ownership
  let current ← machineSnapshot
  require (owned.pendingStart == some generation && current.state == .starting)
    (.admissionSuperseded "pending formal start admission was superseded")
  requireNotStopped
  let pending ← generationAt generation
  boundTo generation (fun _ => pure ()) do
    let session ← session
    callOut (·.verifyFreshHostVideoBeforePotentialDebit · session.channelBindingSha256
      pending.request.requestId)
    requireNotStopped
  let response ← boundTo generation
    (fun failure =>
      choose failure.isIo (discard closeDataPlaneOnly) preservePendingStartForCancellation)
    (dispatchStart generation pending.request)
  boundTo generation (fun _ => preservePendingStartForCancellation)
    (installInitialResponse pending.before response)

def requireRenewableSession : Coordinator VerifiedLease := do
  let current ← machineSnapshot
  let session ← session
  match session.lastLease with
  | some lastLease =>
    require ((current.state == .active || current.state == .renewalGap) &&
        session.leaseGate.any (·.accepting) && !session.lastLeaseToken.isEmpty &&
        session.hostProgress.isSome && session.androidProgress.isSome)
      (.runtime (.illegalState "formal usage session is not renewable"))
    return lastLease
  | none => throw (.runtime (.illegalState "formal usage session is not renewable"))

def ensureDataPlaneOpen (verified : VerifiedLease) (signedUsageLease : Units) :
    Coordinator Unit := do
  let isOpen ← gateIsOpen
  if isOpen then
    let startRequestId ← requireLifecycleStartRequestId
    let permit ← DataPlanePermit.create verified signedUsageLease startRequestId
    openDataPlaneWhileNotStopped permit
    scheduleLeaseDeadline verified
  else discard closeDataPlaneOnly

def applyRuntimeLease (installed : InstallResult) (verified : VerifiedLease)
    (signedUsageLease : Units) : Coordinator Unit :=
  match installed with
  | .futureStaged => do
      let startRequestId ← requireLifecycleStartRequestId
      let permit ← DataPlanePermit.create verified signedUsageLease startRequestId
      stageFutureLeaseWhileNotStopped permit
      changeSession fun session =>
        { session with
          futureLeaseStaged := true
          stagedNotBeforeMonotonicNanos := verified.notBeforeMonotonicNanos }
      let active ← gateActiveLease
      whenever active.isNone scheduleStagedActivationIfNeeded
  | .currentInstalled => ensureDataPlaneOpen verified signedUsageLease
  | .idempotent => pure ()

def synchronizeStagedLeaseIfDue : Coordinator Unit := do
  let staged ← session
  match staged.leaseGate, staged.lastLease with
  | some _, some lastLease =>
    let active ← choose staged.futureLeaseStaged gateActiveLease (pure none)
    match active.filter (·.tokenSha256 == lastLease.tokenSha256) with
    | none => pure ()
    | some active =>
      let startRequestId ← requireLifecycleStartRequestId
      let permit ← DataPlanePermit.create active staged.lastLeaseToken startRequestId
      openDataPlaneWhileNotStopped permit
      changeSession fun session =>
        { session with futureLeaseStaged := false, stagedNotBeforeMonotonicNanos := -1 }
      machineCall (DualMachineFormalUsageStateMachine.stagedRenewalActivated active.sequence)
      let hostTotal ← observeHostProgress
      changeSession fun session => { session with lastHostProgress := hostTotal }
      let androidTotal ← observeAndroidProgress
      changeSession fun session => { session with lastAndroidProgress := androidTotal }
      scheduleLeaseDeadline active
  | _, _ => pure ()

def requireIdempotentRenewalState (verified : VerifiedLease) (response : UsageLeaseResponse) :
    Coordinator Unit := do
  let current ← machineSnapshot
  require (current.leaseSequence == verified.sequence &&
      current.remainingSeconds == response.remainingSeconds &&
      current.totalConsumedSeconds == response.totalConsumedSeconds)
    (.security "idempotent renewal state is inconsistent")

def accountRenewal (installed : InstallResult) (verified : VerifiedLease)
    (response : UsageLeaseResponse) : Coordinator Unit :=
  match installed with
  | .futureStaged =>
    machineCall (DualMachineFormalUsageStateMachine.verifiedFutureRenewalStaged
      verified.sequence response.chargedSeconds response.remainingSeconds
      response.totalConsumedSeconds)
  | .currentInstalled =>
    machineCall (DualMachineFormalUsageStateMachine.verifiedRenewalInstalled
      verified.sequence response.chargedSeconds response.remainingSeconds
      response.totalConsumedSeconds)
  | .idempotent => requireIdempotentRenewalState verified response

def renewalOutcome : InstallResult → RenewalOutcome
  | .currentInstalled => .currentInstalled
  | .futureStaged => .futureStaged
  | .idempotent => .idempotent

def installRenewalResponse (pending : PendingHeartbeat) (answer : Option UsageLeaseResponse) :
    Coordinator RenewalOutcome := do
  requireNotStopped
  let before ← session
  let lastLease ← present before.lastLease
  let (response, verified) ←
    verifyLeaseResponse answer pending.before pending.sequence lastLease.tokenSha256
  let owned ← ownership
  match owned.lifecycleStart with
  | none => throw (.security "formal usage generation owner is unavailable")
  | some renewalGeneration =>
    let installed ← installLease verified
    given (requireChargeAccounting response pending.before)
    requireNotStopped
    applyRuntimeLease installed verified response.usageLease
    let entitlement ← present pending.before.entitlement
    let preparedStopRequest ← stopRequest entitlement verified response.usageLease
    accountRenewal installed verified response
    changeGeneration renewalGeneration fun generation =>
      { generation with preparedStopRequest := some preparedStopRequest }
    changeSession fun session =>
      { session with
        lastHostProgress := pending.hostProgress
        lastAndroidProgress := pending.androidProgress
        lastLease := some verified
        lastLeaseToken := response.usageLease
        pendingHeartbeat := none }
    return renewalOutcome installed

def readTimingClock : Coordinator Unit := discard (callOut (·.nowNanos))

def sendRenewal (pending : PendingHeartbeat) : Coordinator RenewalOutcome := do
  let response ← ensuring (callOut (·.heartbeat · pending.request)) readTimingClock
  ensuring
    (tryCatch (installRenewalResponse pending response) fun failure => do
      failClosedLocally
      throw failure)
    readTimingClock

def beginRenewal (lastLease : VerifiedLease) (hostTotal androidTotal : Int) :
    Coordinator PendingHeartbeat := do
  let before ← machineSnapshot
  let requestId ← nextId "heartbeat requestId"
  let requestNonce ← nextDistinctId requestId "heartbeat requestNonce"
  let sequence ← given ((addExact lastLease.sequence 1).elim (.error (.runtime .arithmetic)) .ok)
  readTimingClock
  let request ← ensuring
    (do
      let entitlement ← present before.entitlement
      heartbeatRequest entitlement lastLease requestId requestNonce sequence hostTotal
        androidTotal)
    readTimingClock
  let pending : PendingHeartbeat := ⟨before, request, hostTotal, androidTotal, sequence⟩
  changeSession fun session => { session with pendingHeartbeat := some pending }
  return pending

def renewAfterObservedProgress : Coordinator RenewalOutcome := do
  requireNotStopped
  let lastLease ← requireRenewableSession
  let before ← session
  require before.pendingHeartbeat.isNone
    (.runtime (.illegalState "pending renewal must be retried exactly"))
  whenever before.futureLeaseStaged synchronizeStagedLeaseIfDue
  let current ← session
  if current.futureLeaseStaged then return .futureStaged
  else
    let hostTotal ← observeHostProgress
    let androidTotal ← observeAndroidProgress
    if hostTotal ≤ current.lastHostProgress ∨ androidTotal ≤ current.lastAndroidProgress then
      return .noProgress
    else
      let pending ← beginRenewal lastLease hostTotal androidTotal
      sendRenewal pending

def reconcileKnownAndroidPipelineRestart : Coordinator Int := do
  requireNotStopped
  let _ ← requireRenewableSession
  let before ← session
  require before.pendingHeartbeat.isNone
    (.runtime (.illegalState "pending renewal must be retried exactly"))
  observeAndroidProgress

def retryPendingRenewal : Coordinator RenewalOutcome := do
  requireNotStopped
  let _ ← requireRenewableSession
  let before ← session
  match before.pendingHeartbeat with
  | none => throw (.runtime (.illegalState "no pending renewal response"))
  | some pending =>
    readTimingClock
    sendRenewal pending

def expireLocally (current : Snapshot) : Coordinator Unit :=
  whenever (current.state == .active)
    (machineCall DualMachineFormalUsageStateMachine.leaseExpiredLocally)

/-- The lease has ended, by the boundary or by the gate. -/
def closeExpired (current : Snapshot) : Coordinator DataPlanePermitState := do
  discard closeDataPlaneOnly
  cancelScheduledDeadline
  expireLocally current
  return .closed

def enforceOpen : Coordinator DataPlanePermitState := do
  let synchronized ← tryCatch
    (do
      synchronizeStagedLeaseIfDue
      return true)
    fun _ => do
      failClosedLocally
      return false
  if synchronized then
    let active ← gateActiveLease
    match active with
    | none =>
      discard closeDataPlaneOnly
      cancelScheduledDeadline
      let current ← machineSnapshot
      expireLocally current
      return .closed
    | some _ =>
      let after ← machineSnapshot
      let session ← session
      return if after.permitsDataPlane && session.dataPlaneOpen then .opened else .closed
  else return .closed

def enforceAndGetDataPlanePermitState : Coordinator DataPlanePermitState := do
  pause
  let before ← ownership
  if before.immediateStopRequested then return .closed
  else
    let current ← machineSnapshot
    let staged ← session
    let stagedGap := current.state == .renewalGap && staged.futureLeaseStaged
    if (current.state != .active && !stagedGap) || staged.leaseGate.isNone then
      discard closeDataPlaneOnly
      expireLocally current
      return .closed
    else
      let runtimeState ← enforceRuntimeLeaseWindow
      match runtimeState with
      | .opened => enforceOpen
      | .stagedWaiting =>
        let staged ← session
        if staged.futureLeaseStaged then
          setDataPlaneOpen false
          expireLocally current
          scheduleStagedActivationIfNeeded
          return .stagedWaiting
        else
          discard closeDataPlaneOnly
          cancelScheduledDeadline
          return .closed
      | _ => closeExpired current

def closeForLifecycle : Coordinator StopOutcome := do
  let session ← session
  match session.completedLifecycleStop with
  | some completed => return completed
  | none => finishRuntimeStop false none none

/-- Finishes the stop of the handle, if its generation still owns the lifecycle. -/
def closeOwned (lifecycle : Option LifecycleStopHandle) (otherwise : Coordinator Unit) :
    Coordinator Unit := do
  let ownership ← ownership
  match lifecycle.filter (ownership.lifecycleStart == some ·.generation) with
  | some handle => discard (finishRuntimeStop false (some handle.generation) handle.startToCancel)
  | none => otherwise

def closeForRevocation (firstStop : Bool) (lifecycle : Option LifecycleStopHandle) :
    Coordinator Unit := do
  let ownership ← ownership
  if firstStop = false ∧ ownership.lifecycleStart = none then return ()
  else
    revokeGate
    closeOwned lifecycle do
      cancelScheduledDeadline
      discard closeDataPlaneOnly
      failProgressCounters
      clearGeneration
    machineCall DualMachineFormalUsageStateMachine.revoke

def closeForRuntimeLoss (firstStop : Bool) (lifecycle : Option LifecycleStopHandle) :
    Coordinator Unit := do
  let ownership ← ownership
  if firstStop = false ∧ ownership.lifecycleStart = none then return ()
  else closeOwned lifecycle failClosedLocally

def claimStop (handle : LifecycleStopHandle)
    (earlyResponse : Option StartCancellationResponse) : Coordinator Progress := do
  let pending ← generationAt handle.generation
  match pending.completedStopOutcome with
  | some completed => return .stopped completed
  | none =>
    let ownership ← ownership
    if ownership.lifecycleStart = some handle.generation then
      let outcome ← finishRuntimeStop false (some handle.generation) handle.startToCancel
      return .stopped outcome
    else return .next (.sendLate handle earlyResponse)

def runLeaseDeadline (generation : Nat) : Coordinator Unit := do
  let before ← session
  if generation = before.deadlineGeneration then
    changeSession fun session => { session with scheduledDeadline := false }
    discard enforceAndGetDataPlanePermitState
  else return ()

def Task.monitored : Task → Coordinator Progress
  | .close .stopForRuntimeLifecycle _ _ => do
      let outcome ← closeForLifecycle
      return .stopped outcome
  | .close .failCloseFromEntitlementRevocation firstStop lifecycle => do
      closeForRevocation firstStop lifecycle
      return .done
  | .close .failCloseFromRuntimeLoss firstStop lifecycle => do
      closeForRuntimeLoss firstStop lifecycle
      return .done
  | .claim handle earlyResponse => claimStop handle earlyResponse
  | .runDeadline generation => do
      runLeaseDeadline generation
      return .done
  | _ => return .done

def prepareForNewFormalStart : Coordinator Nat := do
  let before ← ownership
  let current ← snapshot
  require (before.lifecycleStart.isNone && current.canFormalStart)
    (.admissionSuperseded "previous formal generation is unresolved")
  changeSession fun session => { session with completedLifecycleStop := none }
  changeOwnership fun ownership =>
    { ownership with
      immediateStopRequested := false
      preparedStartAdmission := some ownership.admissions
      admissions := ownership.admissions + 1
      log := ownership.log ++ [.rearmed] }
  return before.admissions

/-- What happens next, while nothing holds the monitor. -/
inductive Move where
  | prepareForNewFormalStart
  | startAfterVerifiedHostVideo (admission : Nat)
  | capturePendingStartRetryAdmission
  | retryPendingStart (generation : Nat)
  | renewAfterObservedProgress
  | reconcileKnownAndroidPipelineRestart
  | retryPendingRenewal
  | enforceAndGetDataPlanePermitState
  /-- A task that waits for the monitor gets it. -/
  | monitor (index : Nat)
  | beside (step : Beside)
  deriving DecidableEq

def call {α : Type} (method : Coordinator α) (world : World) : World := after (method.run world)

def moveStep (world : World) : Move → World
  | .prepareForNewFormalStart => call prepareForNewFormalStart world
  | .startAfterVerifiedHostVideo admission => call (startAfterVerifiedHostVideo admission) world
  | .capturePendingStartRetryAdmission => call capturePendingStartRetryAdmission world
  | .retryPendingStart generation => call (retryPendingStart generation) world
  | .renewAfterObservedProgress => call renewAfterObservedProgress world
  | .reconcileKnownAndroidPipelineRestart => call reconcileKnownAndroidPipelineRestart world
  | .retryPendingRenewal => call retryPendingRenewal world
  | .enforceAndGetDataPlanePermitState => call enforceAndGetDataPlanePermitState world
  | .monitor index =>
    match world.ownership.taskAt index with
    | some task =>
      if task.holdsMonitor then settleTask index (task.monitored.run world) else world
    | none => world
  | .beside step => besideStep world step

/-- A run from the coordinator as it is built, over a user-rights state. -/
def runMoves (outside : Outside) (stateMachine : DualMachineFormalUsageStateMachine)
    (moves : List Move) : World :=
  moves.foldl moveStep { outside := outside, stateMachine := stateMachine }

end VisionForge.FormalCoordinator
