import VisionForge.Server.UsageService

/-! # The other requests of formal usage

Challenges, cancellations, stops and status queries, and the two parts of every
request: the checks that are made before the transaction begins, which may see an
older database, and the transaction itself.
-/

namespace VisionForge.Server

open Lib.Ascii Lib.Base64Url Lib.FlatJson Lib.Hex Lib.Transaction UsageLease

def USAGE_START_CHALLENGE_TTL_SECONDS : Nat := 30
def USAGE_START_CHALLENGE_TOKEN_DOMAIN : Bytes :=
  ascii "vf-dual-machine-usage-start-challenge-token-v1" ++ [0]
def USAGE_START_CANCEL_AUTHENTICATED_REQUEST_DOMAIN : Bytes :=
  ascii "vf-dual-machine-usage-start-cancel-authenticated-request-v1" ++ [0]

/-- The primitives with the length of a message code, and the reading of device profiles. -/
structure ServicePrimitives extends Primitives where
  hmacSha256_length : ∀ key message, (hmacSha256 key message).length = 32
  /-- The fingerprint named in the JSON of a device profile, empty if it names none. -/
  deviceProfileFingerprint : Bytes → Bytes

inductive CancelledStatus where
  | notStarted
  | ended
  | exhausted
  | revoked
  deriving DecidableEq

def CancelledStatus.text : CancelledStatus → Bytes
  | .notStarted => ascii "not_started"
  | .ended => ascii "ended"
  | .exhausted => ascii "exhausted"
  | .revoked => ascii "revoked"

def CancelledStatus.read (text : Bytes) : Option CancelledStatus :=
  [.notStarted, .ended, .exhausted, .revoked].find? (fun status => status.text = text)

structure StartCancellationResponse where
  startRequestId : Bytes
  sessionId : Bytes
  sessionStatus : CancelledStatus
  remainingSeconds : Nat
  billingStarted : Bool
  authorizationKind : Bytes
  isPermanent : Bool
  deriving DecidableEq

structure StartChallengeResponse where
  challengeId : Bytes
  challengeToken : Bytes
  challengeExpiresAtEpoch : Nat
  deriving DecidableEq

structure StopResponse where
  sessionId : Bytes
  status : SessionStatus
  authorizationKind : AuthorizationKind
  isPermanent : Bool
  remainingSeconds : Nat
  billingStarted : Bool
  deriving DecidableEq

/-- The session status is that of an active session, if there is one. -/
structure StatusResponse where
  entitlementId : Bytes
  pairId : Bytes
  status : EntitlementStatus
  revocationVersion : Nat
  authorizationKind : AuthorizationKind
  productKey : Bytes
  isPermanent : Bool
  remainingSeconds : Nat
  totalCreditedSeconds : Nat
  totalConsumedSeconds : Nat
  usageSessionStatus : Option SessionStatus
  deriving DecidableEq

def statusOfSession : Option UsageSessionRow → Option CancelledStatus
  | none => some .notStarted
  | some row =>
    match row.status with
    | .active => none
    | .ended => some .ended
    | .exhausted => some .exhausted
    | .revoked => some .revoked

def startCancellationResponse (entitlement : EntitlementRow) (startRequestId : Bytes)
    (session : Option UsageSessionRow) : Statement StartCancellationResponse := do
  let status ← unwrap (statusOfSession session)
    (.runtimeError "usage start cancellation left active session")
  return {
    startRequestId := startRequestId
    sessionId := (session.map UsageSessionRow.sessionId).getD []
    sessionStatus := status
    remainingSeconds := entitlement.remainingSeconds
    billingStarted := session.any (fun row =>
      isPermanent entitlement || decide (0 < row.secondsConsumed))
    authorizationKind := entitlement.authorizationKind.text
    isPermanent := isPermanent entitlement }

def responseMembers (response : StartCancellationResponse) : Members :=
  [(ascii "ok", .flag true),
    (ascii "start_request_id", .text response.startRequestId),
    (ascii "session_id", .text response.sessionId),
    (ascii "session_status", .text response.sessionStatus.text),
    (ascii "remaining_seconds", .number response.remainingSeconds),
    (ascii "charged_seconds", .number 0),
    (ascii "billing_started", .flag response.billingStarted),
    (ascii "authorization_kind", .text response.authorizationKind),
    (ascii "is_permanent", .flag response.isPermanent)]

def encodeStartCancellationResponse (response : StartCancellationResponse) : Bytes :=
  render (responseMembers response)

def responseKeys : List Bytes :=
  [ascii "ok", ascii "start_request_id", ascii "session_id", ascii "session_status",
    ascii "remaining_seconds", ascii "charged_seconds", ascii "billing_started",
    ascii "authorization_kind", ascii "is_permanent"]

/-- The response that the members of a stored one spell. -/
def readStartCancellationResponse (startRequestId : Bytes) (members : Members) :
    Option StartCancellationResponse := do
  if ¬((∀ entry ∈ members, entry.1 ∈ responseKeys) ∧
      ∀ key ∈ responseKeys, key ∈ members.map Prod.fst) then none
  let requestId ← textMember members (ascii "start_request_id")
  let sessionId ← textMember members (ascii "session_id")
  let status ← CancelledStatus.read (← textMember members (ascii "session_status"))
  let remaining ← numberMember members (ascii "remaining_seconds")
  let charged ← numberMember members (ascii "charged_seconds")
  let billingStarted ← flagMember members (ascii "billing_started")
  let authorizationKind ← textMember members (ascii "authorization_kind")
  let isPermanent ← flagMember members (ascii "is_permanent")
  if flagMember members (ascii "ok") ≠ some true ∨ requestId ≠ startRequestId ∨
      (status = .notStarted ∧ (sessionId ≠ [] ∨ billingStarted = true)) ∨
      (status ≠ .notStarted ∧ isLowerHex sessionId 32 = false) ∨
      remaining < 0 ∨ charged ≠ 0 then none
  return {
    startRequestId := requestId
    sessionId := sessionId
    sessionStatus := status
    remainingSeconds := remaining.toNat
    billingStarted := billingStarted
    authorizationKind := authorizationKind
    isPermanent := isPermanent }

def decodeStartCancellationResponse (cancellation : StartCancellationRow) :
    Except ServerException StartCancellationResponse :=
  if cancellation.responseJson = [] ∨ 4096 < cancellation.responseJson.length then
    .error (.runtimeError "usage start cancellation response missing")
  else
    match (loads cancellation.responseJson).bind
        (readStartCancellationResponse cancellation.startRequestId) with
    | some response => .ok response
    | none => .error (.runtimeError "usage start cancellation response invalid")

def signaturesValid (prims : Primitives) (hostKey androidKey : Bytes) (command : UsageCommon)
    (signedPayload : Bytes) : Bool :=
  prims.p256SignatureValid hostKey command.hostSignatureB64 signedPayload &&
    prims.p256SignatureValid androidKey command.androidSignatureB64 signedPayload

/-- A revoked entitlement may be asked for with an older revocation version. -/
def statusBinds (command : UsageCommon) (row : EntitlementRow) : Bool :=
  row.entitlementId == command.entitlementId && row.pairId == command.pairId &&
  row.protocolVersion == command.protocolVersion &&
  (command.revocationVersion == row.revocationVersion ||
    (decide (row.status = .revoked) &&
      decide (command.revocationVersion < row.revocationVersion)))

def verifyEntitlementStatusCommand (prims : Primitives) (offered : Option EntitlementRow)
    (command : UsageCommon) (signedPayload : Bytes) : Except ServerException EntitlementRow :=
  match offered.filter (statusBinds command) with
  | none => .error (.service "dual_machine_entitlement_invalid" 409)
  | some row =>
    if signaturesValid prims row.hostIdentityPublicKeyB64 row.androidIdentityPublicKeyB64
        command signedPayload then .ok row
    else .error (.service "usage_device_proof_invalid" 403)

def canUseHistoricalStartCancellation (command : UsageCommon) (row : EntitlementRow) : Bool :=
  row.entitlementId == command.entitlementId && row.protocolVersion == command.protocolVersion &&
    decide (command.revocationVersion < row.revocationVersion)

/-- A session that a cancellation names must be that of the same pair and channel. -/
def requireStartCancellationBinding (session : Option UsageSessionRow)
    (command : StartCancelCommand) : Statement Unit :=
  require (∀ row ∈ session, row.pairId = command.pairId ∧
      row.channelBindingSha256 = command.channelBindingSha256)
    (.service "usage_start_cancel_request_conflict" 409)

namespace UsageService

open UsageRepository

variable (service : UsageService) (prims : Primitives)

def requireHistoricalStartChallenge (command : StartCancelCommand) : Statement Unit := do
  let challenge ← startChallengeByRequest command.startRequestId
  require (challenge.any (fun row =>
      row.entitlementId == command.entitlementId && row.pairId == command.pairId &&
      row.channelBindingSha256 == command.channelBindingSha256) = true)
    (.service "usage_start_cancel_request_conflict" 409)

/-- The current devices may cancel, and so may earlier ones with an older revocation
    version. -/
def verifyStartCancellationAuthority (offered : Option EntitlementRow)
    (command : StartCancelCommand) (signedPayload : Bytes) : Statement EntitlementRow :=
  match verifyEntitlementStatusCommand prims offered command.toUsageCommon signedPayload with
  | .ok row => pure row
  | .error current => do
      let row ← unwrap
        (offered.filter (canUseHistoricalStartCancellation command.toUsageCommon)) current
      let bindings ← entitlementBindingsForPair command.entitlementId command.pairId
      require (bindings.any (fun binding => !binding.isCurrent &&
          signaturesValid prims binding.hostIdentityPublicKeyB64
            binding.androidIdentityPublicKeyB64 command.toUsageCommon signedPayload) = true)
        (.service "usage_device_proof_invalid" 403)
      let found ← sessionByStartRequest command.entitlementId command.startRequestId
      match found with
      | some session =>
        requireStartCancellationBinding (some session) command
        return row
      | none =>
        requireHistoricalStartChallenge command
        return row

def startUsageChecks (command : StartCommand) : Statement Unit := do
  let offered ← entitlement command.entitlementId
  requireSupportedEntitlementVersions offered service.settings
  let _ ← verifyEntitlementCommand prims offered command.toUsageCommon
    (usageStartPayload prims.crypto command)

/-- The answer to a start whose session exists. -/
def startReplay (command : StartCommand) (row : EntitlementRow) (existing : UsageSessionRow) :
    Statement UsageResponse := do
  require (existing.startRequestHash =
      prims.crypto.sha256Hex (usageStartPayload prims.crypto command))
    (.service "usage_start_request_conflict" 409)
  let initialCharge ← ledgerCharge existing.sessionId 0
  service.sessionResponse prims row existing
    ((initialCharge.map LedgerRow.chargedSeconds).getD 0)

/-- The part of a start that no earlier session answers. -/
def startAnew (command : StartCommand) (offered : Option EntitlementRow) (sessionId : Bytes)
    (now : Nat) : Statement UsageResponse := do
  let row ← requireActiveEntitlement offered command.toUsageCommon
  let active ← activeSession command.entitlementId
  require (active = none) (.service "usage_session_already_active" 409)
  let challenge ← service.verifyStartChallenge prims command now
  let fresh ← consumeNonce .usageStart command.entitlementId
    (service.nonceDigest prims command.requestNonce) now (now + USAGE_NONCE_TTL_SECONDS)
  require (fresh = true) (.service "usage_request_replayed" 409)
  let consumed ← consumeStartChallenge challenge.challengeId now
  require (consumed = true) (.service "usage_start_challenge_invalid" 409)
  service.openSession prims command
    (prims.crypto.sha256Hex (usageStartPayload prims.crypto command)) sessionId row now

def startUsageTransaction (command : StartCommand) (sessionId : Bytes) (now : Nat) :
    Statement UsageResponse := do
  let cancelled ← startCancellation command.entitlementId command.requestId
  require (cancelled = none) (.service "usage_start_cancelled" 409)
  let _ ← expireStaleSessions command.entitlementId now
  let offered ← entitlement command.entitlementId
  requireSupportedEntitlementVersions offered service.settings
  let row ← verifyEntitlementCommand prims offered command.toUsageCommon
    (usageStartPayload prims.crypto command)
  let existing ← sessionByStartRequest command.entitlementId command.requestId
  match existing with
  | some existing => service.startReplay prims command row existing
  | none => service.startAnew prims command offered sessionId now

/-- `seen` is the database of the checks before the transaction. -/
def requestStart (seen : Database) (command : StartCommand) (sessionId : Bytes) (now : Nat) :
    Statement UsageResponse := do
  require (0 < now) (.valueError "now_epoch must be positive")
  reading seen (service.startUsageChecks prims command)
  service.startUsageTransaction prims command sessionId now

def heartbeatUsageChecks (command : HeartbeatCommand) (now : Nat) : Statement Members := do
  let previousClaims ← unwrap (service.verifyPreviousLease prims command.previousLease now)
    (.service "usage_lease_invalid" 409)
  let offered ← entitlement command.entitlementId
  requireSupportedEntitlementVersions offered service.settings
  let found ← session command.sessionId
  let _ ← verifyEntitlementCommand prims offered command.toUsageCommon
    (usageHeartbeatPayload prims.crypto command)
  let _ ← requireSessionBinding found offered command
  return previousClaims

/-- The part of a heartbeat that no earlier one answers. -/
def heartbeatAnew (previousClaims : Members) (bound : EntitlementRow) (row : UsageSessionRow)
    (command : HeartbeatCommand) (now : Nat) : Statement UsageResponse := do
  require (leaseBinds previousClaims bound row (command.sequence - 1) = true)
    (.service "usage_lease_claim_mismatch" 409)
  let fresh ← consumeNonce .usageHeartbeat command.sessionId
    (service.nonceDigest prims command.requestNonce) now (now + USAGE_NONCE_TTL_SECONDS)
  require (fresh = true) (.service "usage_request_replayed" 409)
  service.applyHeartbeat prims bound row command
    (prims.crypto.sha256Hex (usageHeartbeatPayload prims.crypto command)) now

def heartbeatUsageTransaction (previousClaims : Members) (command : HeartbeatCommand)
    (now : Nat) : Statement UsageResponse := do
  let offered ← entitlement command.entitlementId
  requireSupportedEntitlementVersions offered service.settings
  let found ← session command.sessionId
  let row ← requireSessionBinding found offered command
  let bound ← requireEntitlementBinding offered command.toUsageCommon
  let duplicate ← service.duplicateHeartbeatResponse prims bound row command
    (prims.crypto.sha256Hex (usageHeartbeatPayload prims.crypto command))
  match duplicate with
  | some response => return response
  | none => service.heartbeatAnew prims previousClaims bound row command now

def requestHeartbeat (seen : Database) (command : HeartbeatCommand) (now : Nat) :
    Statement UsageResponse := do
  require (0 < now) (.valueError "now_epoch must be positive")
  let previousClaims ← reading seen (service.heartbeatUsageChecks prims command now)
  service.heartbeatUsageTransaction prims previousClaims command now

def startChallengeToken (challenge : StartChallengeRow) : Bytes :=
  encode (prims.hmacSha256
    (service.usageDomainKey prims USAGE_START_CHALLENGE_TOKEN_DOMAIN)
    (challenge.challengeId ++ 58 :: (challenge.requestId ++ 58 :: challenge.requestPayloadHash)))

def startChallengeResponse (challenge : StartChallengeRow) : Statement StartChallengeResponse := do
  let token := service.startChallengeToken prims challenge
  require (service.startChallengeTokenDigest prims token = challenge.tokenDigest)
    (.runtimeError "usage start challenge digest mismatch")
  return {
    challengeId := challenge.challengeId
    challengeToken := token
    challengeExpiresAtEpoch := challenge.expiresAtEpoch }

/-- A challenge that was just made; its token's digest is added to it. -/
def newStartChallenge (command : StartChallengeCommand) (requestHash challengeId : Bytes)
    (now : Nat) : StartChallengeRow :=
  let row : StartChallengeRow := {
    challengeId := challengeId
    requestId := command.requestId
    requestPayloadHash := requestHash
    tokenDigest := []
    entitlementId := command.entitlementId
    pairId := command.pairId
    channelBindingSha256 := command.channelBindingSha256
    status := .issued
    expiresAtEpoch := now + USAGE_START_CHALLENGE_TTL_SECONDS
    consumedAtEpoch := none }
  let token := service.startChallengeToken prims row
  { row with tokenDigest := service.startChallengeTokenDigest prims token }

def createStartChallengeChecks (command : StartChallengeCommand) : Statement Unit := do
  let offered ← entitlement command.entitlementId
  requireSupportedEntitlementVersions offered service.settings
  let _ ← verifyEntitlementCommand prims offered command.toUsageCommon
    (usageStartChallengePayload command)
  let _ ← requireActiveEntitlement offered command.toUsageCommon

def createStartChallengeTransaction (command : StartChallengeCommand) (challengeId : Bytes)
    (now : Nat) : Statement StartChallengeResponse := do
  let requestHash := prims.crypto.sha256Hex (usageStartChallengePayload command)
  expireStartChallenges now
  let offered ← entitlement command.entitlementId
  requireSupportedEntitlementVersions offered service.settings
  let _ ← requireActiveEntitlement offered command.toUsageCommon
  let existing ← startChallengeByRequest command.requestId
  match existing with
  | some existing =>
    require (existing.requestPayloadHash = requestHash)
      (.service "usage_start_challenge_request_conflict" 409)
    require (existing.status = .issued ∧ now < existing.expiresAtEpoch)
      (.service "usage_start_challenge_not_reusable" 409)
    service.startChallengeResponse prims existing
  | none =>
    let challenge := service.newStartChallenge prims command requestHash challengeId now
    recast (fun error =>
        if error = .integrityError then .service "usage_start_challenge_already_active" 409
        else error)
      (UsageRepository.createStartChallenge challenge)
    service.startChallengeResponse prims challenge

/-- `seen` is the database of the checks before the transaction. -/
def createStartChallenge (seen : Database) (command : StartChallengeCommand)
    (challengeId : Bytes) (now : Nat) : Statement StartChallengeResponse := do
  require (0 < now) (.valueError "now_epoch must be positive")
  reading seen (service.createStartChallengeChecks prims command)
  service.createStartChallengeTransaction prims command challengeId now

def startCancellationAuthenticatedRequestHash (command : StartCancelCommand)
    (signedPayload : Bytes) : Bytes :=
  lowercaseHex (prims.hmacSha256
    (service.usageDomainKey prims USAGE_START_CANCEL_AUTHENTICATED_REQUEST_DOMAIN)
    (signedPayload ++ 0 :: (command.hostSignatureB64 ++ 0 :: command.androidSignatureB64)))

/-- The answer to a cancellation that was answered before, octet for octet. -/
def exactStartCancellationReplay (command : StartCancelCommand)
    (authenticatedRequestHash : Bytes) : Statement (Option StartCancellationResponse) := do
  let found ← startCancellation command.entitlementId command.startRequestId
  match found with
  | none => return none
  | some cancellation =>
    if cancellation.cancelRequestId ≠ command.requestId ∨
        cancellation.authenticatedRequestHash = [] ∨
        cancellation.authenticatedRequestHash ≠ authenticatedRequestHash then
      return none
    else
      let response ← ofExcept (decodeStartCancellationResponse cancellation)
      return some response

def terminalStartCancellationSession (command : StartCancelCommand) (now : Nat) :
    Statement (Option UsageSessionRow) := do
  let found ← sessionByStartRequest command.entitlementId command.startRequestId
  requireStartCancellationBinding found command
  match found with
  | none => return none
  | some row =>
    if row.status ≠ .active then return some row
    else
      let stopped ← endSession row.sessionId now "client_start_cancelled"
      require (stopped = true) (.runtimeError "active usage start cancellation failed")
      let after ← session row.sessionId
      let after ← unwrap (after.filter (fun row => decide (row.status ≠ .active)))
        (.runtimeError "cancelled usage session still active")
      return some after

/-- Rows of the older schema are completed by the first retry that equals them; `none` for a
    row that is complete. -/
def upgradeLegacyStartCancellationReplay (entitlement : EntitlementRow)
    (cancellation : StartCancellationRow) (command : StartCancelCommand)
    (requestHash authenticatedRequestHash : Bytes) (now : Nat) :
    Statement (Option StartCancellationResponse) := do
  if cancellation.authenticatedRequestHash ≠ [] ∨ cancellation.responseJson ≠ [] then
    require (cancellation.authenticatedRequestHash ≠ [] ∧ cancellation.responseJson ≠ [])
      (.runtimeError "usage start cancellation replay upgrade incomplete")
    return none
  else
    require (cancellation.entitlementId = command.entitlementId ∧
        cancellation.startRequestId = command.startRequestId ∧
        cancellation.cancelRequestId = command.requestId ∧
        cancellation.cancelRequestHash = requestHash ∧
        cancellation.channelBindingSha256 = command.channelBindingSha256)
      (.service "usage_start_cancel_request_conflict" 409)
    let session ← terminalStartCancellationSession command now
    let response ← startCancellationResponse entitlement command.startRequestId session
    let backfilled ← backfillStartCancellationReplay cancellation authenticatedRequestHash
      (encodeStartCancellationResponse response)
    require (backfilled = true)
      (.runtimeError "usage start cancellation replay upgrade lost")
    return some response

def newStartCancellation (command : StartCancelCommand)
    (requestHash authenticatedRequestHash : Bytes) (response : StartCancellationResponse) :
    StartCancellationRow where
  entitlementId := command.entitlementId
  startRequestId := command.startRequestId
  cancelRequestId := command.requestId
  cancelRequestHash := requestHash
  authenticatedRequestHash := authenticatedRequestHash
  responseJson := encodeStartCancellationResponse response
  channelBindingSha256 := command.channelBindingSha256

def cancelStartUsageChecks (command : StartCancelCommand) :
    Statement (Option StartCancellationResponse) := do
  let signedPayload := usageStartCancelPayload command
  let replay ← exactStartCancellationReplay command
    (service.startCancellationAuthenticatedRequestHash prims command signedPayload)
  match replay with
  | some response => return some response
  | none =>
    let offered ← entitlement command.entitlementId
    let _ ← verifyStartCancellationAuthority prims offered command signedPayload
    return none

/-- The part of a cancellation that writes its row. -/
def recordStartCancellation (row : EntitlementRow) (command : StartCancelCommand)
    (requestHash authenticatedRequestHash : Bytes) (now : Nat) :
    Statement StartCancellationResponse := do
  let reused ← startCancellationByCancelRequest command.entitlementId command.requestId
  require (reused = none) (.service "usage_start_cancel_request_conflict" 409)
  let fresh ← consumeNonce .usageStartCancel (command.entitlementId ++ 58 :: command.pairId)
    (service.nonceDigest prims command.requestNonce) now (now + USAGE_NONCE_TTL_SECONDS)
  require (fresh = true) (.service "usage_request_replayed" 409)
  let session ← terminalStartCancellationSession command now
  let response ← startCancellationResponse row command.startRequestId session
  recast (fun error =>
      if error = .integrityError then .service "usage_start_cancel_request_conflict" 409
      else error)
    (createStartCancellation
      (newStartCancellation command requestHash authenticatedRequestHash response))
  return response

def cancelStartUsageTransaction (command : StartCancelCommand) (now : Nat) :
    Statement StartCancellationResponse := do
  let signedPayload := usageStartCancelPayload command
  let requestHash := prims.crypto.sha256Hex signedPayload
  let authenticatedRequestHash :=
    service.startCancellationAuthenticatedRequestHash prims command signedPayload
  let replay ← exactStartCancellationReplay command authenticatedRequestHash
  match replay with
  | some response => return response
  | none =>
    let offered ← entitlement command.entitlementId
    let row ← verifyStartCancellationAuthority prims offered command signedPayload
    let existing ← startCancellation command.entitlementId command.startRequestId
    match existing with
    | some existing =>
      let upgraded ← upgradeLegacyStartCancellationReplay row existing command requestHash
        authenticatedRequestHash now
      unwrap upgraded (.service "usage_start_cancel_request_conflict" 409)
    | none =>
      service.recordStartCancellation prims row command requestHash
        authenticatedRequestHash now

def cancelStartUsage (seen : Database) (command : StartCancelCommand) (now : Nat) :
    Statement StartCancellationResponse := do
  require (0 < now) (.valueError "now_epoch must be positive")
  let replay ← reading seen (service.cancelStartUsageChecks prims command)
  match replay with
  | some response => return response
  | none => service.cancelStartUsageTransaction prims command now

def stopSessionBinds (command : StopCommand) (row : UsageSessionRow) : Bool :=
  row.sessionId == command.sessionId && row.entitlementId == command.entitlementId &&
    row.pairId == command.pairId && row.channelBindingSha256 == command.channelBindingSha256

/-- The entitlement of the answer is the one that was seen before the transaction. -/
def stopUsageChecks (command : StopCommand) (now : Nat) : Statement EntitlementRow := do
  let previousClaims ← unwrap
    (service.tokenCodec.verifyUsageLease prims.crypto command.previousLease now
      LEASE_RETRY_GRACE_SECONDS service.settings.usageRenewalWindowSeconds true)
    (.service "usage_lease_invalid" 409)
  let offered ← entitlement command.entitlementId
  let found ← session command.sessionId
  let row ← verifyEntitlementCommand prims offered command.toUsageCommon
    (usageStopPayload prims.crypto command)
  let bound ← unwrap (found.filter (stopSessionBinds command))
    (.service "usage_session_not_found" 404)
  require (leaseBinds previousClaims row bound bound.lastHeartbeatSequence = true)
    (.service "usage_lease_claim_mismatch" 409)
  return row

def stopResponse (entitlement : EntitlementRow) (sessionId : Bytes) : Statement StopResponse := do
  let found ← session sessionId
  let row ← unwrap found (.runtimeError "stopped usage session missing")
  return {
    sessionId := sessionId
    status := row.status
    authorizationKind := entitlement.authorizationKind
    isPermanent := isPermanent entitlement
    remainingSeconds := entitlement.remainingSeconds
    billingStarted := isPermanent entitlement || decide (0 < row.secondsConsumed) }

def stopUsageTransaction (entitlement : EntitlementRow) (command : StopCommand) (now : Nat) :
    Statement StopResponse := do
  let found ← session command.sessionId
  let row ← unwrap found (.service "usage_session_not_found" 404)
  if row.status = .active then
    require (row.currentLeaseSha256 = prims.crypto.sha256Hex command.previousLease)
      (.service "usage_lease_not_current" 409)
    let _ ← endSession command.sessionId now "user_stopped"
    stopResponse entitlement command.sessionId
  else stopResponse entitlement command.sessionId

def stopUsage (seen : Database) (command : StopCommand) (now : Nat) : Statement StopResponse := do
  require (0 < now) (.valueError "now_epoch must be positive")
  let row ← reading seen (service.stopUsageChecks prims command now)
  stopUsageTransaction prims row command now

def entitlementStatusChecks (command : StatusCommand) : Statement EntitlementRow := do
  let offered ← entitlement command.entitlementId
  ofExcept (verifyEntitlementStatusCommand prims offered command.toUsageCommon
    (entitlementStatusPayload command))

def entitlementStatusTransaction (command : StatusCommand) (now : Nat) :
    Statement StatusResponse := do
  let row ← entitlementStatusChecks prims command
  let _ ← expireStaleSessions command.entitlementId now
  let fresh ← consumeNonce .entitlementStatus command.entitlementId
    (service.nonceDigest prims command.requestNonce) now (now + USAGE_NONCE_TTL_SECONDS)
  require (fresh = true) (.service "usage_request_replayed" 409)
  let active ← activeSession command.entitlementId
  return {
    entitlementId := row.entitlementId
    pairId := row.pairId
    status := row.status
    revocationVersion := row.revocationVersion
    authorizationKind := row.authorizationKind
    productKey := row.productKey
    isPermanent := isPermanent row
    remainingSeconds := row.remainingSeconds
    totalCreditedSeconds := row.totalCreditedSeconds
    totalConsumedSeconds := row.totalConsumedSeconds
    usageSessionStatus := active.map (fun session =>
      if now < session.leaseExpiresAtEpoch then .active else .ended) }

def entitlementStatus (seen : Database) (command : StatusCommand) (now : Nat) :
    Statement StatusResponse := do
  require (0 < now) (.valueError "now_epoch must be positive")
  let _ ← reading seen (entitlementStatusChecks prims command)
  service.entitlementStatusTransaction prims command now

end UsageService

end VisionForge.Server
