import VisionForge.FormalCoordinator.Sections

/-! # Requests and leases

A request is signed by both devices before it is built. A lease is verified against what the
generation was started with.
-/

namespace VisionForge.FormalCoordinator

open DualMachineSidecarPort DualMachineSidecarValues FormalUsage Lib.Ascii Lib.Long Lib.Utf
open PhoneLease SignedPayload
open FormalUsage.DualMachineFormalUsageStateMachine (Snapshot)

/-- A call outwards, with other threads before it. -/
def callOut {α : Type} (answer : Outside → Nat → Except Failure α) : Coordinator α := do
  pause
  ask answer

def requireNotStopped : Coordinator Unit := do
  pause
  let ownership ← ownership
  require (!ownership.immediateStopRequested) (.io "formal usage was stopped locally")

def nextId (name : String) : Coordinator Units := do
  let value ← callOut (·.nextHex128)
  given (hex128 value name)

def nextDistinctId (first : Units) (name : String) : Coordinator Units := do
  let second ← nextId name
  require (first != second) (.security "request identifier and nonce must differ")
  return second

def sha256Hex (value : Bytes) : Coordinator Units := do
  let world ← get
  return widen (world.outside.crypto.sha256Hex value)

def sign (payload : SignedPayload.SignedProof Units Int) : Coordinator SignedProof :=
  match Java.build payload with
  | .error message => throw (.runtime (.illegalArgument message))
  | .ok bytes => callOut (·.createVerified · bytes)

variable (ent : DualMachineEntitlementRecord)

def usageProof (signed : SignedProof) : Except Failure UsageProof :=
  UsageProof.create ent.entitlementId ent.pairId ent.revocationVersion
    signed.hostSignature signed.androidSignature

def startChallengeRequest (requestId requestNonce : Units) : Coordinator StartChallengeRequest := do
  let session ← session
  let signed ← sign (.usageStartChallenge {
    channelBindingSha256 := session.channelBindingSha256
    entitlementId := ent.entitlementId
    pairId := ent.pairId
    protocolVersion := Java.PROTOCOL_VERSION
    requestId := requestId
    requestNonce := requestNonce
    revocationVersion := ent.revocationVersion })
  let proof ← given (usageProof ent signed)
  given (StartChallengeRequest.create proof requestId requestNonce session.channelBindingSha256)

def startRequest (requestId requestNonce : Units) (challenge : StartChallengeResponse) :
    Coordinator StartUsageRequest := do
  let session ← session
  let startChallengeTokenSha256 ← sha256Hex (encodeAscii challenge.challengeToken)
  let signed ← sign (.usageStart {
    androidFramesTotal := 0
    androidRuntimeReady := true
    channelBindingSha256 := session.channelBindingSha256
    entitlementId := ent.entitlementId
    hostFramesTotal := 0
    hostRuntimeReady := true
    pairId := ent.pairId
    protocolVersion := Java.PROTOCOL_VERSION
    requestId := requestId
    requestNonce := requestNonce
    revocationVersion := ent.revocationVersion
    startChallengeId := challenge.challengeId
    startChallengeTokenSha256 := startChallengeTokenSha256 })
  let proof ← given (usageProof ent signed)
  given (StartUsageRequest.create proof requestId requestNonce session.channelBindingSha256 0 0
    challenge.challengeId challenge.challengeToken)

def startCancellationRequest (requestId requestNonce startRequestId : Units) :
    Coordinator StartCancellationRequest := do
  let session ← session
  let signed ← sign (.usageStartCancel {
    channelBindingSha256 := session.channelBindingSha256
    entitlementId := ent.entitlementId
    pairId := ent.pairId
    protocolVersion := Java.PROTOCOL_VERSION
    requestId := requestId
    requestNonce := requestNonce
    revocationVersion := ent.revocationVersion
    startRequestId := startRequestId })
  let proof ← given (usageProof ent signed)
  given (StartCancellationRequest.create proof requestId requestNonce startRequestId
    session.channelBindingSha256)

def heartbeatRequest (lastLease : VerifiedLease) (requestId requestNonce : Units)
    (sequence hostFrames androidFrames : Int) :
    Coordinator HeartbeatRequest := do
  let session ← session
  let signed ← sign (.usageHeartbeat {
    androidFramesTotal := androidFrames
    channelBindingSha256 := session.channelBindingSha256
    entitlementId := ent.entitlementId
    hostFramesTotal := hostFrames
    pairId := ent.pairId
    previousLeaseSha256 := lastLease.tokenSha256
    protocolVersion := Java.PROTOCOL_VERSION
    requestId := requestId
    requestNonce := requestNonce
    revocationVersion := ent.revocationVersion
    sequence := sequence
    sessionId := lastLease.sessionId })
  let proof ← given (usageProof ent signed)
  given (HeartbeatRequest.create proof lastLease.sessionId requestId requestNonce
    session.channelBindingSha256 sequence hostFrames androidFrames session.lastLeaseToken)

def stopRequest (lease : VerifiedLease) (leaseToken : Units) : Coordinator StopRequest := do
  let requestId ← nextId "stop requestId"
  let requestNonce ← nextDistinctId requestId "stop requestNonce"
  let session ← session
  let signed ← sign (.usageStop {
    channelBindingSha256 := session.channelBindingSha256
    entitlementId := ent.entitlementId
    pairId := ent.pairId
    previousLeaseSha256 := lease.tokenSha256
    protocolVersion := Java.PROTOCOL_VERSION
    requestId := requestId
    requestNonce := requestNonce
    revocationVersion := ent.revocationVersion
    sessionId := lease.sessionId })
  let proof ← given (usageProof ent signed)
  given (StopRequest.create proof lease.sessionId requestId requestNonce
    session.channelBindingSha256 leaseToken)

def expectedBinding (sessionId channelTranscriptSha256 : Units) (sequence : Int)
    (previousLeaseSha256 : Units) : Except Failure ExpectedBinding :=
  if entitlementIdHex : matchesNonzero 32 ent.entitlementId = true then
  if pairIdHex : matchesNonzero 32 ent.pairId = true then
  if sessionIdHex : matchesNonzero 32 sessionId = true then
  if hostKeyHex : matchesNonzero 64 ent.hostKeySha256 = true then
  if androidKeyHex : matchesNonzero 64 ent.androidKeySha256 = true then
  if channelHex : matchesNonzero 64 channelTranscriptSha256 = true then
  if previousLease : previousLeaseSha256Valid previousLeaseSha256 sequence = true then
  if numeric : ent.protocolVersion = PhoneLease.PROTOCOL_VERSION ∧
      0 < ent.revocationVersion ∧ 0 ≤ sequence ∧
      isAuthorizationKind ent.authorizationKind = true ∧
      ent.permanent = (ent.authorizationKind == text "permanent") then
    .ok {
      entitlementId := ent.entitlementId
      pairId := ent.pairId
      sessionId := sessionId
      protocolVersion := ent.protocolVersion
      revocationVersion := ent.revocationVersion
      hostKeySha256 := ent.hostKeySha256
      androidKeySha256 := ent.androidKeySha256
      channelTranscriptSha256 := channelTranscriptSha256
      sequence := sequence
      previousLeaseSha256 := previousLeaseSha256
      authorizationKind := ent.authorizationKind
      permanent := ent.permanent
      entitlementIdHex := entitlementIdHex
      pairIdHex := pairIdHex
      sessionIdHex := sessionIdHex
      hostKeyHex := hostKeyHex
      androidKeyHex := androidKeyHex
      channelHex := channelHex
      previousLease := previousLease
      protocol := numeric.1
      revocation := numeric.2.1
      sequenceNonnegative := numeric.2.2.1
      kind := numeric.2.2.2.1
      permanentKind := numeric.2.2.2.2 }
  else illegal "expected numeric binding is invalid"
  else illegal "previousLeaseSha256 is invalid"
  else illegal "channelTranscriptSha256 is invalid"
  else illegal "androidKeySha256 is invalid"
  else illegal "hostKeySha256 is invalid"
  else illegal "sessionId is invalid"
  else illegal "pairId is invalid"
  else illegal "entitlementId is invalid"

def isStrictlyAfter (value reference : Int) : Bool := decide (0 < wrap (value - reference))

def earlierDeadline (first second : Int) : Int :=
  if isStrictlyAfter first second then second else first

def isImmediateSuccessorOf (lease previous : VerifiedLease) : Bool :=
  previous.sequence != 2 ^ 63 - 1 && lease.sequence == previous.sequence + 1 &&
    previous.tokenSha256 == lease.previousLeaseSha256 &&
    lease.entitlementId == previous.entitlementId && lease.pairId == previous.pairId &&
    lease.sessionId == previous.sessionId &&
    lease.protocolVersion == previous.protocolVersion &&
    lease.revocationVersion == previous.revocationVersion &&
    lease.hostKeySha256 == previous.hostKeySha256 &&
    lease.androidKeySha256 == previous.androidKeySha256 &&
    lease.channelTranscriptSha256 == previous.channelTranscriptSha256 &&
    lease.authorizationKind == previous.authorizationKind && lease.permanent == previous.permanent

/-- A lease that follows without a gap runs from the deadline of the one before. -/
def alignContiguousRenewalAfter (lease previous : VerifiedLease) :
    Except LeaseVerificationError VerifiedLease :=
  if lease.notBeforeEpochSeconds ≠ previous.expiresAtEpochSeconds then .ok lease
  else if !isImmediateSuccessorOf lease previous then .error .contiguousRenewalChainInvalid
  else
    match ((subtractExact lease.expiresAtEpochSeconds lease.notBeforeEpochSeconds).bind
        (multiplyExact · NANOS_PER_SECOND)).bind (addExact previous.expiresAtMonotonicNanos) with
    | none => .error .contiguousRenewalDeadlineOverflow
    | some anchoredExpiresAt =>
      let boundedExpiresAt := earlierDeadline anchoredExpiresAt lease.expiresAtMonotonicNanos
      if isStrictlyAfter boundedExpiresAt previous.expiresAtMonotonicNanos then
        .ok { lease with
          notBeforeMonotonicNanos := previous.expiresAtMonotonicNanos
          expiresAtMonotonicNanos := boundedExpiresAt }
      else .error .contiguousRenewalWindowInvalid

def responseComplete (response : UsageLeaseResponse) (ent : DualMachineEntitlementRecord)
    (expectedSequence : Int) : Bool :=
  response.sequence == expectedSequence && response.billingStarted &&
    ent.authorizationKind == response.authorizationKind &&
    ent.productKey == response.productKey && ent.permanent == response.permanent &&
    (if response.permanent then response.chargedSeconds == 0
      else decide (0 < response.chargedSeconds)) &&
    decide (0 < response.ttlSeconds) && decide (response.ttlSeconds ≤ MAXIMUM_LEASE_SECONDS)

def responseMatches (response : UsageLeaseResponse) (verified : VerifiedLease) : Bool :=
  verified.tokenSha256 == response.usageLeaseSha256 && verified.sequence == response.sequence &&
    verified.remainingSeconds == response.remainingSeconds &&
    verified.notBeforeEpochSeconds == response.notBeforeEpoch &&
    verified.expiresAtEpochSeconds == response.expiresAtEpoch &&
    response.ttlSeconds == wrap (response.expiresAtEpoch - response.notBeforeEpoch) &&
    (if response.permanent then response.chargedSeconds == 0
      else response.chargedSeconds == response.ttlSeconds)

def verified {α : Type} : Except LeaseVerificationError α → Except Failure α
  | .ok value => .ok value
  | .error error => .error (.leaseVerification error)

def verifyLeaseResponse (response : Option UsageLeaseResponse) (before : Snapshot)
    (expectedSequence : Int) (expectedPreviousLeaseSha256 : Units) :
    Coordinator (UsageLeaseResponse × VerifiedLease) := do
  match response, before.entitlement with
  | some response, some ent =>
    require (responseComplete response ent expectedSequence)
      (.security "usage lease response is incomplete")
    let epochSeconds ← callOut (·.nowEpochSeconds)
    let monotonicNanos ← callOut (·.nowNanos)
    require (decide (0 < epochSeconds) && decide (0 ≤ monotonicNanos))
      (.security "trusted time observation is invalid")
    let session ← session
    let expected ← given (expectedBinding ent response.sessionId
      session.channelBindingSha256 expectedSequence expectedPreviousLeaseSha256)
    let lease ← callOut fun outside turn =>
      verified (outside.verifyLease turn response.usageLease expected epochSeconds monotonicNanos)
    require (responseMatches response lease)
      (.security "usage lease response does not match signed claims")
    if expectedSequence ≤ 0 then return (response, lease)
    else
      match session.lastLease with
      | none => throw (.security "usage lease predecessor is unavailable")
      | some lastLease =>
        let lease ← given (verified (alignContiguousRenewalAfter lease lastLease))
        return (response, lease)
  | _, _ => throw (.security "usage lease response is incomplete")

def requireChargeAccounting (response : UsageLeaseResponse) (before : Snapshot) :
    Except Failure Unit :=
  if before.entitlement.any (·.permanent) then
    if !response.permanent ∨ response.chargedSeconds ≠ 0 ∨ response.remainingSeconds ≠ 0 ∨
        response.totalConsumedSeconds ≠ 0 ∨ before.remainingSeconds ≠ 0 ∨
        before.totalConsumedSeconds ≠ 0 then
      .error (.security "permanent usage accounting is inconsistent")
    else .ok ()
  else
    match addExact response.remainingSeconds response.chargedSeconds with
    | none => .error (.security "usage charge accounting overflow")
    | some charged =>
      if charged ≠ before.remainingSeconds then
        .error (.security "usage charge accounting is inconsistent")
      else
        match addExact before.totalConsumedSeconds response.chargedSeconds with
        | none => .error (.security "usage charge accounting overflow")
        | some consumed =>
          if consumed = response.totalConsumedSeconds then .ok ()
          else .error (.security "usage charge accounting is inconsistent")

def DataPlanePermit.create (lease : VerifiedLease) (signedUsageLease expectedStartRequestId : Units) :
    Coordinator DataPlanePermit := do
  let startRequestId ← given (hex128 expectedStartRequestId "startRequestId")
  let canonicalLease ← given (usageLease signedUsageLease "signedUsageLease")
  let leaseSha256 ← sha256Hex (encodeAscii canonicalLease)
  require (lease.tokenSha256 == leaseSha256)
    (.runtime (.illegalArgument "signed usage lease does not match permit"))
  return {
    sessionId := lease.sessionId
    sequence := lease.sequence
    leaseSha256 := lease.tokenSha256
    channelBindingSha256 := lease.channelTranscriptSha256
    startRequestId := startRequestId
    notBeforeMonotonicNanos := lease.notBeforeMonotonicNanos
    expiresAtMonotonicNanos := lease.expiresAtMonotonicNanos
    signedUsageLeaseUtf8 := encodeAscii canonicalLease }

def validStopResponse (response : Option StopResponse) (before : Snapshot) : Bool :=
  match response, before.entitlement with
  | some response, some ent =>
    response.sessionId == before.sessionId && response.status == text "ended" &&
      response.remainingSeconds == before.remainingSeconds && response.chargedSeconds == 0 &&
      response.billingStarted == before.billingStarted &&
      ent.authorizationKind == response.authorizationKind &&
      ent.permanent == response.permanent
  | _, _ => false

/-! ## Calls that hold the monitor

Starting, renewing, enforcing and stopping a paid session. A call writes the fields of the
session by itself; between any two of its steps other threads may set the latch, close the
boundary or settle the cancellation of a start.
-/

open DualMachineSidecarPort DualMachineSidecarValues FormalUsage Lib.Long Lib.Utf PhoneLease
open DualMachineUsageLeaseGate (InstallResult)
open FormalUsage.DualMachineFormalUsageStateMachine (Snapshot State)

def onPart {γ α : Type} (part : Session → Option γ) (put : γ → Session → Session)
    (method : EStateM Throwable γ α) : Coordinator α := do
  let session ← session
  let value ← present (part session)
  match method.run value with
  | .ok answer value =>
    changeSession (put value)
    return answer
  | .error error value =>
    changeSession (put value)
    throw (.runtime error)

def onGate {α : Type} : EStateM Throwable DualMachineUsageLeaseGate α → Coordinator α :=
  onPart (·.leaseGate) fun gate session => { session with leaseGate := some gate }

def onHostProgress {α : Type} : EStateM Throwable DualMachineSessionProgressCounter α → Coordinator α :=
  onPart (·.hostProgress) fun counter session => { session with hostProgress := some counter }

def onAndroidProgress {α : Type} :
    EStateM Throwable DualMachineSessionProgressCounter α → Coordinator α :=
  onPart (·.androidProgress) fun counter session =>
    { session with androidProgress := some counter }

/-- What a clock or a source says, or `none` where it throws. -/
def reading (answer : Outside → Nat → Except Failure Int) : Coordinator (Option Int) :=
  orElse (some <$> callOut answer) none

def installLease (lease : VerifiedLease) : Coordinator InstallResult := do
  let nowNanos ← reading (·.nowNanos)
  onGate (DualMachineUsageLeaseGate.install nowNanos lease)

/-- The lease in force, by the gate's own clock. -/
def gateActiveLease : Coordinator (Option VerifiedLease) := do
  let nowNanos ← reading (·.nowNanos)
  onGate (modifyGet (DualMachineUsageLeaseGate.activeLease nowNanos))

def gateIsOpen : Coordinator Bool := do
  let nowNanos ← reading (·.nowNanos)
  onGate (modifyGet (DualMachineUsageLeaseGate.isOpen nowNanos))

def stopGate : Coordinator Unit :=
  changeSession fun session =>
    { session with leaseGate := session.leaseGate.map DualMachineUsageLeaseGate.stop }

def revokeGate : Coordinator Unit :=
  changeSession fun session =>
    { session with leaseGate := session.leaseGate.map DualMachineUsageLeaseGate.revoke }

def observeHostProgress : Coordinator Int := do
  let source ← reading (·.hostProgressSource)
  onHostProgress (DualMachineSessionProgressCounter.observe source)

def observeAndroidProgress : Coordinator Int := do
  let source ← reading (·.androidProgressSource)
  onAndroidProgress (DualMachineSessionProgressCounter.observe source)

def failProgressCounters : Coordinator Unit :=
  changeSession fun session =>
    { session with
      hostProgress := session.hostProgress.map (·.failClosed)
      androidProgress := session.androidProgress.map (·.failClosed) }

/-- The card side may come between two uses of the user-rights state. -/
def machineCall {α : Type} (method : DualMachineFormalUsageStateMachine.Method α) :
    Coordinator α := do
  pause
  onStateMachine method

def machineSnapshot : Coordinator Snapshot := do
  pause
  snapshot

def closeDataPlaneOnly : Coordinator Bool := do
  pause
  let closed ← closeRuntimeBoundaryOnce
  setDataPlaneOpen false
  return closed

def enforceRuntimeLeaseWindow : Coordinator DataPlanePermitState := do
  pause
  enforceRuntimeLeaseWindowLocked

/-- The last check of a section that hands a permit over. -/
def refuseWhenStopped (message : String) : Coordinator Unit := do
  let ownership ← ownership
  if ownership.immediateStopRequested then
    let _ ← closeRuntimeBoundaryOnce
    throw (.io message)
  else return ()

def openDataPlaneWhileNotStopped (permit : DataPlanePermit) : Coordinator Unit := do
  pause
  let before ← ownership
  if before.immediateStopRequested then throw (.io "formal usage was stopped locally")
  else
    changeOwnership fun ownership => { ownership with runtimeBoundaryCloseRequired := true }
    record (.openDataPlane before.lifecycleStart permit)
    ask (·.openDataPlane · permit)
    refuseWhenStopped "formal usage was stopped while opening data plane"
    setDataPlaneOpen true

def stageFutureLeaseWhileNotStopped (permit : DataPlanePermit) : Coordinator Unit := do
  pause
  let before ← ownership
  if before.immediateStopRequested then throw (.io "formal usage was stopped locally")
  else
    record (.stageFutureLease before.lifecycleStart permit before.runtimeBoundaryCloseRequired)
    ask (·.stageFutureLease · permit)
    refuseWhenStopped "formal usage was stopped while staging lease"

def cancelScheduledDeadline : Coordinator Unit := do
  let before ← session
  changeSession fun session =>
    { session with
      deadlineGeneration := session.deadlineGeneration + 1
      scheduledDeadline := false }
  whenever before.scheduledDeadline (orElse (callOut (·.cancelDeadline)) ())

def scheduleLeaseBoundary (deadlineMonotonicNanos : Int) : Coordinator Unit := do
  cancelScheduledDeadline
  changeSession fun session =>
    { session with deadlineGeneration := session.deadlineGeneration + 1 }
  let session ← session
  let scheduled ← callOut (·.scheduleAt · deadlineMonotonicNanos session.deadlineGeneration)
  require scheduled
    (.runtime (.illegalState "lease deadline scheduler returned no handle"))
  changeSession fun session => { session with scheduledDeadline := true }

def scheduleLeaseDeadline (lease : VerifiedLease) : Coordinator Unit :=
  scheduleLeaseBoundary lease.expiresAtMonotonicNanos

def scheduleStagedActivationIfNeeded : Coordinator Unit := do
  let session ← session
  whenever (session.futureLeaseStaged && decide (0 ≤ session.stagedNotBeforeMonotonicNanos) &&
    !session.scheduledDeadline) (scheduleLeaseBoundary session.stagedNotBeforeMonotonicNanos)

def Session.cleared (session : Session) : Session :=
  { session with
    leaseGate := none
    hostProgress := none
    androidProgress := none
    lastLease := none
    lastLeaseToken := []
    channelBindingSha256 := []
    lastHostProgress := 0
    lastAndroidProgress := 0
    dataPlaneOpen := false
    pendingHeartbeat := none
    futureLeaseStaged := false
    stagedNotBeforeMonotonicNanos := -1 }

def clearGeneration : Coordinator Unit := do
  cancelScheduledDeadline
  pause
  changeSession Session.cleared
  changeOwnership fun ownership =>
    { ownership with
      pendingStart := none
      preparedStartAdmission := none
      lifecycleStart := none }

def initializeGeneration (channelBinding : Units) : Coordinator Unit := do
  clearGeneration
  let channelBindingSha256 ← given (sha256 channelBinding "channelBindingSha256")
  changeSession fun session =>
    { session with
      channelBindingSha256 := channelBindingSha256
      leaseGate := some {} }
  onGate DualMachineUsageLeaseGate.beginSession
  changeSession fun session =>
    { session with hostProgress := some {}, androidProgress := some {} }
  let hostSource ← reading (·.hostProgressSource)
  onHostProgress (DualMachineSessionProgressCounter.beginSession hostSource)
  let androidSource ← reading (·.androidProgressSource)
  onAndroidProgress (DualMachineSessionProgressCounter.beginSession androidSource)
  changeSession fun session =>
    { session with lastHostProgress := 0, lastAndroidProgress := 0, futureLeaseStaged := false }

/-- The body that `preservePendingStartForCancellation` and `failClosedLocally` share. -/
def closeLocally : Coordinator Unit := do
  pause
  setImmediateStopRequested
  stopGate
  cancelScheduledDeadline
  let _ ← closeDataPlaneOnly
  failProgressCounters
  let current ← machineSnapshot
  whenever current.canFormalStop
    (machineCall DualMachineFormalUsageStateMachine.closeLocalForRuntimeStop)

def preservePendingStartForCancellation : Coordinator Unit := closeLocally

def failClosedLocally : Coordinator Unit := closeLocally

def finishRunningStateLocally : Coordinator Unit := do
  let current ← machineSnapshot
  whenever current.canFormalStop do
    machineCall DualMachineFormalUsageStateMachine.closeLocalForRuntimeStop
    machineCall (DualMachineFormalUsageStateMachine.stopFinished current.remainingSeconds)

def abortStartingGeneration : Coordinator Unit := do
  let _ ← closeDataPlaneOnly
  stopGate
  failProgressCounters
  let current ← machineSnapshot
  choose (current.state == .starting)
    (machineCall DualMachineFormalUsageStateMachine.formalStartFailed) finishRunningStateLocally
  clearGeneration

def requireLifecycleStartRequestId : Coordinator Units := do
  let ownership ← ownership
  match ownership.lifecycleStart with
  | none => throw (.runtime (.illegalState "formal usage generation owner is unavailable"))
  | some generation =>
    let pending ← generationAt generation
    return pending.request.requestId

/-! ## Stopping and starting a paid session -/

open DualMachineSidecarPort DualMachineSidecarValues FormalUsage Lib.Ascii Lib.Utf PhoneLease
open FormalUsage.DualMachineFormalUsageStateMachine (Snapshot State)

/-- The prepared stop of a generation; `none` unless its answer is valid. -/
def requestPreparedStop (stopGeneration : Option Nat) (before : Snapshot) :
    Coordinator (Option StopResponse) := do
  match stopGeneration with
  | none => return none
  | some generation =>
    let pending ← generationAt generation
    match pending.preparedStopRequest with
    | none => return none
    | some request =>
      orElse
        (do
          let response ← callOut (·.stop · request)
          record (.stop generation before response)
          return if validStopResponse response before then response else none)
        none

def sendStartCancellation (generation : Nat) : Coordinator (Option StartCancellationResponse) := do
  pause
  sendAndRecordStartCancellation generation

def readRecordedCancellation (generation : Nat) :
    Coordinator (Option StartCancellationResponse) := do
  pause
  recordedCancellation generation

def settleStartCancellation (generation : Nat) : Coordinator (Option StartCancellationResponse) := do
  let recorded ← readRecordedCancellation generation
  if recorded.isSome then return recorded
  else
    let first ← sendStartCancellation generation
    if first.isSome then return first
    else
      let second ← sendStartCancellation generation
      if second.isSome then return second
      else readRecordedCancellation generation

def confirmStop (stopGeneration startToCancel : Option Nat) (before : Snapshot) :
    Coordinator (Option StopResponse × Option StartCancellationResponse) := do
  let stopped ← requestPreparedStop stopGeneration before
  match stopped, startToCancel with
  | none, some generation =>
    let cancelled ← settleStartCancellation generation
    return (none, cancelled)
  | stopped, _ => return (stopped, none)

/-- The start was never sent, or the server says that it has not started. -/
def startDefinitelyNotStarted (startToCancel : Option Nat) (serverConfirmed : Bool) :
    Coordinator Bool := do
  match startToCancel with
  | none => return false
  | some generation =>
    pause
    let pending ← generationAt generation
    return !pending.startRequestDispatched ||
      serverConfirmed && pending.cancellationResponse.any (fun response =>
        response.sessionStatus == text "not_started" && !response.billingStarted)

def leaveStopping (ambiguous serverRevoked : Bool) (remaining : Int) : Coordinator Unit := do
  let current ← machineSnapshot
  whenever (current.state == .stopping && !ambiguous)
    (machineCall (if serverRevoked then DualMachineFormalUsageStateMachine.revoke
      else DualMachineFormalUsageStateMachine.stopFinished remaining))

def publishOutcome (cacheForQueuedStopOwner : Bool) (lifecycleGeneration : Option Nat)
    (outcome : StopOutcome) : Coordinator Unit := do
  match lifecycleGeneration with
  | some generation =>
    changeGeneration generation fun pending =>
      { pending with completedStopOutcome := some outcome }
    changeSession fun session => { session with completedLifecycleStop := some outcome }
  | none =>
    whenever cacheForQueuedStopOwner
      (changeSession fun session => { session with completedLifecycleStop := some outcome })

def finishRuntimeStop (cacheForQueuedStopOwner : Bool)
    (lifecycleGeneration startToCancel : Option Nat) : Coordinator StopOutcome := do
  require (startToCancel.isNone || startToCancel == lifecycleGeneration)
    (.runtime (.illegalArgument "start cancellation must belong to lifecycle owner"))
  let before ← machineSnapshot
  stopGate
  cancelScheduledDeadline
  let localClosed ← closeDataPlaneOnly
  failProgressCounters
  whenever before.canFormalStop
    (machineCall DualMachineFormalUsageStateMachine.closeLocalForRuntimeStop)
  let owned ← ownership
  let (stopped, cancelled) ←
    confirmStop (lifecycleGeneration <|> owned.lifecycleStart) startToCancel before
  let serverConfirmed := stopped.isSome || cancelled.isSome
  let remaining := (stopped.map (·.remainingSeconds) <|> cancelled.map (·.remainingSeconds)).getD
    before.remainingSeconds
  let definitelyNotStarted ← startDefinitelyNotStarted startToCancel serverConfirmed
  let ambiguous := lifecycleGeneration.isSome && !serverConfirmed && !definitelyNotStarted
  leaveStopping ambiguous (cancelled.any (·.sessionStatus == text "revoked")) remaining
  let outcome : StopOutcome := ⟨localClosed, serverConfirmed, remaining, definitelyNotStarted⟩
  pause
  finalizeAutomaticUsageGeneration lifecycleGeneration outcome
  whenever serverConfirmed (publishOutcome cacheForQueuedStopOwner lifecycleGeneration outcome)
  whenever (!ambiguous) clearGeneration
  return outcome

/-- The exception of a start that was stopped while its lease arrived. -/
def cancelledStart (initialStart : Nat) : Coordinator DataPlanePermit := do
  let stopped ← finishRuntimeStop true (some initialStart) (some initialStart)
  throw (.startCancelled stopped.serverConfirmed true)

/-- What is left of a start whose data plane did not open. -/
def openFailed (initialStart : Nat) (failure : Failure) : Coordinator Unit := do
  pause
  let before ← ownership
  let lifecycleCancellation := before.immediateStopRequested
  let stopped ← orElse
    (do
      pause
      let _ ← latchImmediateLocalStop
      let stopped ← finishRuntimeStop lifecycleCancellation (some initialStart) (some initialStart)
      return some stopped)
    none
  match lifecycleCancellation, stopped with
  | true, some stopped => throw (.startCancelled stopped.serverConfirmed true)
  | _, _ => throw failure

def openInitialLease (initialStart : Nat) (ent : DualMachineEntitlementRecord)
    (verified : VerifiedLease) (response : UsageLeaseResponse) (permit : DataPlanePermit) :
    Coordinator Unit := do
  openDataPlaneWhileNotStopped permit
  let prepared ← stopRequest ent verified response.usageLease
  changeGeneration initialStart fun pending =>
    { pending with preparedStopRequest := some prepared }
  scheduleLeaseDeadline verified

def installInitialResponse (before : Snapshot) (answer : Option UsageLeaseResponse) :
    Coordinator DataPlanePermit := do
  let owned ← ownership
  match owned.pendingStart, before.entitlement with
  | some initialStart, some ent =>
    let (response, verified) ←
      verifyLeaseResponse answer before 0 EMPTY_PREVIOUS_LEASE_SHA256
    given (requireChargeAccounting response before)
    changeGeneration initialStart fun pending =>
      { pending with verifiedSessionId := verified.sessionId }
    let _ ← installLease verified
    machineCall (DualMachineFormalUsageStateMachine.verifiedInitialLeaseInstalled
      (some verified.sessionId) verified.sequence response.chargedSeconds
      response.remainingSeconds response.totalConsumedSeconds response.billingStarted)
    changeSession fun session =>
      { session with lastLease := some verified, lastLeaseToken := response.usageLease }
    let pending ← generationAt initialStart
    let permit ← DataPlanePermit.create verified response.usageLease pending.request.requestId
    pause
    let latched ← ownership
    if latched.immediateStopRequested then cancelledStart initialStart
    else
      tryCatch (openInitialLease initialStart ent verified response permit)
        (openFailed initialStart)
      pause
      let latched ← ownership
      if latched.immediateStopRequested then cancelledStart initialStart
      else
        changeOwnership fun ownership => { ownership with pendingStart := none }
        return permit
  | _, _ => throw (.security "formal start generation is unavailable")

def requireFreshChallenge (challenge : Option StartChallengeResponse) :
    Coordinator StartChallengeResponse := do
  match challenge with
  | none => throw (.security "usage start challenge is missing or expired")
  | some challenge =>
    let epochSeconds ← callOut (·.nowEpochSeconds)
    require (decide (0 < epochSeconds)) (.security "trusted epoch time is invalid")
    require (decide (epochSeconds < challenge.expiresAtEpoch))
      (.security "usage start challenge is missing or expired")
    return challenge

def publishGeneration (generation : PendingStart) : Coordinator Nat := do
  pause
  let before ← ownership
  let initialStart := before.generations.length
  changeOwnership fun ownership =>
    { ownership with
      generations := ownership.generations ++ [generation]
      lifecycleStart := some initialStart
      pendingStart := some initialStart }
  return initialStart

/-- The start goes out; from here on it may be billed. -/
def dispatchStart (generation : Nat) (request : StartUsageRequest) :
    Coordinator (Option UsageLeaseResponse) := do
  changeGeneration generation fun pending => { pending with startRequestDispatched := true }
  pause
  record (.startUsage generation)
  let response ← ask (·.startUsage · request)
  changeGeneration generation fun pending => { pending with startResponseReceived := true }
  return response

def requestAndInstallInitialLease (before : Snapshot)
    (ent : DualMachineEntitlementRecord) : Coordinator DataPlanePermit := do
  let requestId ← nextId "start requestId"
  let requestNonce ← nextDistinctId requestId "start requestNonce"
  let challengeRequest ← startChallengeRequest ent requestId requestNonce
  let challenge ← callOut (·.createStartChallenge · challengeRequest)
  requireNotStopped
  let challenge ← requireFreshChallenge challenge
  let request ← startRequest ent requestId requestNonce challenge
  let cancellationRequestId ← nextDistinctId requestId "start cancellation requestId"
  require (requestNonce != cancellationRequestId)
    (.security "start and cancellation identifiers must differ")
  let cancellationRequestNonce ←
    nextDistinctId cancellationRequestId "start cancellation requestNonce"
  require (requestId != cancellationRequestNonce && requestNonce != cancellationRequestNonce)
    (.security "start and cancellation identifiers must differ")
  let cancellationRequest ← startCancellationRequest ent cancellationRequestId
    cancellationRequestNonce requestId
  let generation ← publishGeneration
    { before := before, request := request, cancellationRequest := cancellationRequest }
  let session ← session
  callOut (·.verifyFreshHostVideoBeforePotentialDebit · session.channelBindingSha256
    request.requestId)
  requireNotStopped
  let response ← dispatchStart generation request
  installInitialResponse before response

end VisionForge.FormalCoordinator
