import VisionForge.FormalUsage.UsageStateMachine
import VisionForge.PhoneLease.Verifier
import VisionForge.SignedPayload.JavaBuilders

/-! # The lease gate and the progress counters of a paid session

The gate keeps the lease in force and at most one that follows it. The counters turn the frame
numbers of the native pipelines into totals of the session. Both are given what their clock or
source says, or `none` where it throws.
-/

namespace VisionForge.FormalCoordinator

open FormalUsage Lib.Long Lib.Utf PhoneLease

/-- Safe for deadlines whose distance is far below 2^63 nanoseconds. -/
def reached (now deadline : Int) : Bool := decide (0 ≤ wrap (now - deadline))

def laterDeadline (first second : Int) : Int := if reached first second then first else second

namespace DualMachineUsageLeaseGate

inductive InstallResult where
  | currentInstalled
  | futureStaged
  | idempotent
  deriving DecidableEq

structure LeaseSlot where
  lease : VerifiedLease
  activationNanos : Int
  deriving DecidableEq

end DualMachineUsageLeaseGate

open DualMachineUsageLeaseGate

structure DualMachineUsageLeaseGate where
  accepting : Bool := false
  generationBegun : Bool := false
  monotonicObserved : Bool := false
  highestMonotonicNanos : Int := 0
  current : Option LeaseSlot := none
  future : Option LeaseSlot := none
  deriving DecidableEq

namespace DualMachineUsageLeaseGate

abbrev Method := EStateM Throwable DualMachineUsageLeaseGate

def rejected {α : Type} (reason : String) : Method α := throw (.illegalArgument reason)

def beginSession : Method Unit := do
  let gate ← get
  if gate.generationBegun then rejected "usage_lease_generation_already_begun"
  else
    set { gate with generationBegun := true, current := none, future := none, accepting := true }

def failClosed (gate : DualMachineUsageLeaseGate) : DualMachineUsageLeaseGate :=
  { gate with accepting := false, current := none, future := none }

def stop : DualMachineUsageLeaseGate → DualMachineUsageLeaseGate := failClosed

def revoke : DualMachineUsageLeaseGate → DualMachineUsageLeaseGate := failClosed

def observeMonotonic (nowNanos : Option Int) : Method Int := do
  let gate ← get
  match nowNanos with
  | none =>
    set gate.failClosed
    rejected "usage_lease_monotonic_clock_failed"
  | some monotonicNowNanos =>
    if gate.monotonicObserved = true ∧ monotonicNowNanos < gate.highestMonotonicNanos then
      set gate.failClosed
      rejected "usage_lease_monotonic_time_reversed"
    else
      set { gate with monotonicObserved := true, highestMonotonicNanos := monotonicNowNanos }
      return monotonicNowNanos

def promoteIfDue (monotonicNowNanos : Int) (gate : DualMachineUsageLeaseGate) :
    DualMachineUsageLeaseGate :=
  match gate.future with
  | some future =>
    if reached monotonicNowNanos future.activationNanos then
      { gate with current := some future, future := none }
    else gate
  | none => gate

def slotHolds (slot : Option LeaseSlot) (lease : VerifiedLease) : Bool :=
  slot.any (·.lease.tokenSha256 == lease.tokenSha256)

def slotSupersedes (slot : Option LeaseSlot) (lease : VerifiedLease) : Bool :=
  slot.any (fun slot => decide (lease.sequence ≤ slot.lease.sequence))

def duplicateResult (lease : VerifiedLease) : Method Bool := do
  let gate ← get
  if slotHolds gate.current lease || slotHolds gate.future lease then return true
  else if slotSupersedes gate.current lease || slotSupersedes gate.future lease then
    rejected "usage_lease_stale_or_replayed"
  else return false

def installInitial (lease : VerifiedLease) (monotonicNowNanos : Int) : Method InstallResult := do
  if lease.sequence ≠ 0 ∨ lease.previousLeaseSha256 ≠ EMPTY_PREVIOUS_LEASE_SHA256 then
    rejected "usage_lease_initial_chain_invalid"
  else if !reached monotonicNowNanos lease.notBeforeMonotonicNanos then
    rejected "usage_lease_initial_not_yet_active"
  else
    modify fun gate => { gate with current := some ⟨lease, lease.notBeforeMonotonicNanos⟩ }
    return .currentInstalled

def sameStaticBinding (first second : VerifiedLease) : Bool :=
  first.entitlementId == second.entitlementId && first.pairId == second.pairId &&
    first.sessionId == second.sessionId && first.protocolVersion == second.protocolVersion &&
    first.revocationVersion == second.revocationVersion &&
    first.hostKeySha256 == second.hostKeySha256 &&
    first.androidKeySha256 == second.androidKeySha256 &&
    first.channelTranscriptSha256 == second.channelTranscriptSha256

def installRenewal (previous lease : VerifiedLease) (monotonicNowNanos : Int) :
    Method InstallResult := do
  if !sameStaticBinding previous lease ∨ lease.sequence ≠ wrap (previous.sequence + 1) ∨
      previous.tokenSha256 ≠ lease.previousLeaseSha256 ∨
      lease.notBeforeEpochSeconds < previous.expiresAtEpochSeconds then
    rejected "usage_lease_renewal_chain_invalid"
  else if reached monotonicNowNanos previous.expiresAtMonotonicNanos = false ∧
      lease.notBeforeEpochSeconds ≠ previous.expiresAtEpochSeconds then
    rejected "usage_lease_early_renewal_boundary_invalid"
  else
    let activationNanos :=
      laterDeadline previous.expiresAtMonotonicNanos lease.notBeforeMonotonicNanos
    if reached monotonicNowNanos activationNanos then
      modify fun gate => { gate with current := some ⟨lease, activationNanos⟩ }
      return .currentInstalled
    else
      modify fun gate => { gate with future := some ⟨lease, activationNanos⟩ }
      return .futureStaged

def install (nowNanos : Option Int) (lease : VerifiedLease) : Method InstallResult := do
  let gate ← get
  if !gate.accepting then rejected "usage_lease_gate_not_accepting"
  else
    let monotonicNowNanos ← observeMonotonic nowNanos
    modify (promoteIfDue monotonicNowNanos)
    let duplicate ← duplicateResult lease
    if duplicate then return .idempotent
    else if reached monotonicNowNanos lease.expiresAtMonotonicNanos then
      rejected "usage_lease_already_expired"
    else
      let gate ← get
      match gate.current with
      | none => installInitial lease monotonicNowNanos
      | some current =>
        if gate.future.isSome then rejected "usage_lease_future_slot_occupied"
        else installRenewal current.lease lease monotonicNowNanos

def isOpenAt (monotonicNowNanos : Int) (gate : DualMachineUsageLeaseGate) : Bool :=
  gate.current.any (fun current =>
    reached monotonicNowNanos current.activationNanos &&
      !reached monotonicNowNanos current.lease.expiresAtMonotonicNanos)

/-- The lease in force, if its window is open; a clock that fails closes the gate. -/
def activeLease (nowNanos : Option Int) (gate : DualMachineUsageLeaseGate) :
    Option VerifiedLease × DualMachineUsageLeaseGate :=
  if !gate.accepting then (none, gate)
  else
    match (observeMonotonic nowNanos).run gate with
    | .error _ gate => (none, gate)
    | .ok monotonicNowNanos gate =>
      let gate := gate.promoteIfDue monotonicNowNanos
      (if gate.isOpenAt monotonicNowNanos then gate.current.map (·.lease) else none, gate)

def isOpen (nowNanos : Option Int) (gate : DualMachineUsageLeaseGate) :
    Bool × DualMachineUsageLeaseGate :=
  let (lease, gate) := gate.activeLease nowNanos
  (lease.isSome, gate)

end DualMachineUsageLeaseGate

structure DualMachineSessionProgressCounter where
  begun : Bool := false
  failed : Bool := false
  lastSourceValue : Int := 0
  sessionTotal : Int := 0
  deriving DecidableEq

namespace DualMachineSessionProgressCounter

abbrev Method := EStateM Throwable DualMachineSessionProgressCounter

def readSource (source : Option Int) : Method Int := do
  match source with
  | none =>
    modify fun counter => { counter with failed := true }
    throw (.security "session progress source failed")
  | some value =>
    if value < 0 then
      modify fun counter => { counter with failed := true }
      throw (.security "session progress source is negative")
    else return value

def beginSession (source : Option Int) : Method Unit := do
  let counter ← get
  if counter.begun || counter.failed then
    throw (.illegalState "progress generation cannot be begun")
  else
    let value ← readSource source
    modify fun counter =>
      { counter with lastSourceValue := value, sessionTotal := 0, begun := true }

/-- A source that went back was restarted, and counts again from there. -/
def observe (source : Option Int) : Method Int := do
  let counter ← get
  if !counter.begun || counter.failed then
    throw (.illegalState "session progress counter is not usable")
  else
    let current ← readSource source
    if current < counter.lastSourceValue then
      modify fun counter => { counter with lastSourceValue := current }
      return counter.sessionTotal
    else
      match addExact counter.sessionTotal (wrap (current - counter.lastSourceValue)) with
      | none =>
        modify fun counter => { counter with failed := true }
        throw (.security "session progress counter overflow")
      | some sessionTotal =>
        modify fun counter =>
          { counter with sessionTotal := sessionTotal, lastSourceValue := current }
        return sessionTotal

def failClosed (counter : DualMachineSessionProgressCounter) : DualMachineSessionProgressCounter :=
  { counter with failed := true, sessionTotal := 0, lastSourceValue := 0 }

end DualMachineSessionProgressCounter

/-! ## What the coordinator and the sidecar exchange

Values are checked where a request is built. A signature is kept as its octets; its Base64 text
is the only one that the checks accept for them.
-/

open Lib.Ascii Lib.Checks Lib.Segments

/-- What the methods of the coordinator can throw. -/
inductive Failure where
  | io (message : String)
  | rejected (statusCode : Int) (safeErrorCode : String)
  | security (message : String)
  | leaseVerification (error : LeaseVerificationError)
  | runtime (cause : Throwable)
  | nullPointer
  | admissionSuperseded (message : String)
  | startCancelled (serverConfirmed billingStarted : Bool)
  /-- The generation that the failed start has reserved, and whether its start was sent. -/
  | generationBound (cause : Failure) (generation : Nat) (wasStartDispatched : Bool)
  deriving DecidableEq

namespace DualMachineSidecarValues

def MAX_SIGNATURE_DER_BYTES : Nat := 72

def illegal {α : Type} (message : String) : Except Failure α :=
  .error (.runtime (.illegalArgument message))

def demand (condition : Prop) [Decidable condition] (message : String) : Except Failure PUnit :=
  check condition (.runtime (.illegalArgument message))

def lowerHex (value : Units) (length : Nat) (name : String) : Except Failure Units := do
  demand (value.length = length) (name ++ " has invalid length")
  demand (value.all SignedPayload.Java.isLowerHexUnit = true) (name ++ " is not lowercase hex")
  demand (value.any (· != 48) = true) (name ++ " must not be all zero")
  return value

def hex128 (value : Units) (name : String) : Except Failure Units := lowerHex value 32 name

def sha256 (value : Units) (name : String) : Except Failure Units := lowerHex value 64 name

def signature (value : Bytes) (name : String) : Except Failure Bytes := do
  demand (8 ≤ value.length ∧ value.length ≤ MAX_SIGNATURE_DER_BYTES)
    (name ++ " is not canonical Base64")
  return value

def counter (value : Int) (name : String) : Except Failure Int := do
  demand (0 ≤ value) (name ++ " must not be negative")
  return value

def isCanonicalBase64Url (value : Units) : Bool := (decodeCanonicalBase64Url value).isOk

def challengeToken (value : Units) : Except Failure Units := do
  demand (value.length = 43) "challengeToken has invalid length"
  demand (value.all isBase64UrlCharacter = true) "challengeToken is not Base64url"
  demand (isCanonicalBase64Url value = true) "challengeToken is not canonical Base64url"
  return value

def compactJwt (value : Units) (name : String) : Except Failure Units := do
  demand (64 ≤ value.length ∧ value.length ≤ 8192) (name ++ " has invalid length")
  match splitThree 46 value with
  | none => illegal (name ++ " is not a JWT")
  | some (header, payload, signature) =>
    demand (value.all (fun unit => isBase64UrlCharacter unit || unit == 46) = true)
      (name ++ " is not canonical Base64url")
    demand ((isCanonicalBase64Url header && isCanonicalBase64Url payload &&
      isCanonicalBase64Url signature) = true) (name ++ " has a non-canonical JWT segment")
    return value

def usageLease (value : Units) (name : String) : Except Failure Units := do
  demand (256 ≤ value.length ∧ value.length ≤ 8192) (name ++ " has invalid length")
  compactJwt value name

def authorizationKind (value : Units) (permanent : Bool) : Except Failure Units := do
  demand ((value = text "day" ∨ value = text "week" ∨ value = text "month" ∨
      value = text "permanent") ∧ permanent = (value == text "permanent"))
    "authorizationKind is invalid"
  return value

end DualMachineSidecarValues

open DualMachineSidecarValues

namespace DualMachineSidecarPort

def PROTOCOL_VERSION : Int := 2

structure UsageProof where
  entitlementId : Units
  pairId : Units
  protocolVersion : Int
  revocationVersion : Int
  hostSignature : Bytes
  androidSignature : Bytes
  deriving DecidableEq

def UsageProof.create (entitlementId pairId : Units) (revocationVersion : Int)
    (hostSignature androidSignature : Bytes) : Except Failure UsageProof := do
  let entitlementId ← hex128 entitlementId "entitlementId"
  let pairId ← hex128 pairId "pairId"
  demand (0 < revocationVersion) "revocationVersion must be positive"
  let hostSignature ← signature hostSignature "hostSignatureBase64"
  let androidSignature ← signature androidSignature "androidSignatureBase64"
  return {
    entitlementId := entitlementId
    pairId := pairId
    protocolVersion := PROTOCOL_VERSION
    revocationVersion := revocationVersion
    hostSignature := hostSignature
    androidSignature := androidSignature }

structure StartChallengeRequest where
  proof : UsageProof
  requestId : Units
  requestNonce : Units
  channelBindingSha256 : Units
  deriving DecidableEq

def StartChallengeRequest.create (proof : UsageProof)
    (requestId requestNonce channelBindingSha256 : Units) :
    Except Failure StartChallengeRequest := do
  let requestId ← hex128 requestId "requestId"
  let requestNonce ← hex128 requestNonce "requestNonce"
  let channelBindingSha256 ← sha256 channelBindingSha256 "channelBindingSha256"
  return ⟨proof, requestId, requestNonce, channelBindingSha256⟩

structure StartUsageRequest where
  proof : UsageProof
  requestId : Units
  requestNonce : Units
  channelBindingSha256 : Units
  hostRuntimeReady : Bool
  androidRuntimeReady : Bool
  hostFramesTotal : Int
  androidFramesTotal : Int
  startChallengeId : Units
  startChallengeToken : Units
  deriving DecidableEq

def StartUsageRequest.create (proof : UsageProof)
    (requestId requestNonce channelBindingSha256 : Units)
    (hostFramesTotal androidFramesTotal : Int) (startChallengeId startChallengeToken : Units) :
    Except Failure StartUsageRequest := do
  let requestId ← hex128 requestId "requestId"
  let requestNonce ← hex128 requestNonce "requestNonce"
  let channelBindingSha256 ← sha256 channelBindingSha256 "channelBindingSha256"
  let hostFramesTotal ← counter hostFramesTotal "hostFramesTotal"
  let androidFramesTotal ← counter androidFramesTotal "androidFramesTotal"
  let startChallengeId ← hex128 startChallengeId "startChallengeId"
  let startChallengeToken ← challengeToken startChallengeToken
  return {
    proof := proof
    requestId := requestId
    requestNonce := requestNonce
    channelBindingSha256 := channelBindingSha256
    hostRuntimeReady := true
    androidRuntimeReady := true
    hostFramesTotal := hostFramesTotal
    androidFramesTotal := androidFramesTotal
    startChallengeId := startChallengeId
    startChallengeToken := startChallengeToken }

structure HeartbeatRequest where
  proof : UsageProof
  sessionId : Units
  requestId : Units
  requestNonce : Units
  channelBindingSha256 : Units
  sequence : Int
  hostFramesTotal : Int
  androidFramesTotal : Int
  previousLease : Units
  deriving DecidableEq

def HeartbeatRequest.create (proof : UsageProof)
    (sessionId requestId requestNonce channelBindingSha256 : Units)
    (sequence hostFramesTotal androidFramesTotal : Int) (previousLease : Units) :
    Except Failure HeartbeatRequest := do
  let sessionId ← hex128 sessionId "sessionId"
  let requestId ← hex128 requestId "requestId"
  let requestNonce ← hex128 requestNonce "requestNonce"
  let channelBindingSha256 ← sha256 channelBindingSha256 "channelBindingSha256"
  demand (0 < sequence) "sequence must be positive"
  let hostFramesTotal ← counter hostFramesTotal "hostFramesTotal"
  let androidFramesTotal ← counter androidFramesTotal "androidFramesTotal"
  let previousLease ← usageLease previousLease "previousLease"
  return {
    proof := proof
    sessionId := sessionId
    requestId := requestId
    requestNonce := requestNonce
    channelBindingSha256 := channelBindingSha256
    sequence := sequence
    hostFramesTotal := hostFramesTotal
    androidFramesTotal := androidFramesTotal
    previousLease := previousLease }

structure StartCancellationRequest where
  proof : UsageProof
  requestId : Units
  requestNonce : Units
  startRequestId : Units
  channelBindingSha256 : Units
  deriving DecidableEq

def StartCancellationRequest.create (proof : UsageProof)
    (requestId requestNonce startRequestId channelBindingSha256 : Units) :
    Except Failure StartCancellationRequest := do
  let requestId ← hex128 requestId "requestId"
  let requestNonce ← hex128 requestNonce "requestNonce"
  let startRequestId ← hex128 startRequestId "startRequestId"
  demand (requestId ≠ requestNonce ∧ requestId ≠ startRequestId ∧ requestNonce ≠ startRequestId)
    "start cancellation identifiers must differ"
  let channelBindingSha256 ← sha256 channelBindingSha256 "channelBindingSha256"
  return ⟨proof, requestId, requestNonce, startRequestId, channelBindingSha256⟩

structure StopRequest where
  proof : UsageProof
  sessionId : Units
  requestId : Units
  requestNonce : Units
  channelBindingSha256 : Units
  previousLease : Units
  deriving DecidableEq

def StopRequest.create (proof : UsageProof)
    (sessionId requestId requestNonce channelBindingSha256 previousLease : Units) :
    Except Failure StopRequest := do
  let sessionId ← hex128 sessionId "sessionId"
  let requestId ← hex128 requestId "requestId"
  let requestNonce ← hex128 requestNonce "requestNonce"
  let channelBindingSha256 ← sha256 channelBindingSha256 "channelBindingSha256"
  let previousLease ← usageLease previousLease "previousLease"
  return ⟨proof, sessionId, requestId, requestNonce, channelBindingSha256, previousLease⟩

structure StartChallengeResponse where
  challengeId : Units
  challengeToken : Units
  expiresAtEpoch : Int
  deriving DecidableEq

structure UsageLeaseResponse where
  sessionId : Units
  sequence : Int
  chargedSeconds : Int
  remainingSeconds : Int
  totalConsumedSeconds : Int
  usageLease : Units
  usageLeaseSha256 : Units
  notBeforeEpoch : Int
  expiresAtEpoch : Int
  ttlSeconds : Int
  billingStarted : Bool
  authorizationKind : Units
  productKey : Units
  permanent : Bool
  deriving DecidableEq

structure StopResponse where
  sessionId : Units
  status : Units
  remainingSeconds : Int
  chargedSeconds : Int
  billingStarted : Bool
  authorizationKind : Units
  permanent : Bool
  deriving DecidableEq

/-- The conditions that the constructor of a cancellation's response checks. -/
def startCancellationConsistent (startRequestId sessionId sessionStatus : Units)
    (remainingSeconds chargedSeconds : Int) (billingStarted : Bool) (kind : Units)
    (permanent : Bool) : Bool :=
  let notStarted := sessionStatus == text "not_started"
  let terminalSession := sessionStatus == text "ended" || sessionStatus == text "exhausted" ||
    sessionStatus == text "revoked"
  (hex128 startRequestId "startRequestId").isOk &&
    (sessionId.isEmpty || (hex128 sessionId "sessionId").isOk) &&
    (notStarted || terminalSession) && (notStarted == sessionId.isEmpty) &&
    (billingStarted != notStarted) && (chargedSeconds == 0) && decide (0 ≤ remainingSeconds) &&
    (authorizationKind kind permanent).isOk

structure StartCancellationResponse where
  startRequestId : Units
  sessionId : Units
  sessionStatus : Units
  remainingSeconds : Int
  chargedSeconds : Int
  billingStarted : Bool
  authorizationKind : Units
  permanent : Bool
  consistent : startCancellationConsistent startRequestId sessionId sessionStatus remainingSeconds
    chargedSeconds billingStarted authorizationKind permanent = true
  deriving DecidableEq

end DualMachineSidecarPort

end VisionForge.FormalCoordinator
