import VisionForge.Server.Commands
import VisionForge.Server.TokenService
import VisionForge.Server.UsageRepository

/-! # Starting and renewing formal usage

Each call is one serialised transaction on the database. The checks that the source
makes before it opens its transaction are made on the same database as those inside
it. Audit events are not represented. Message authentication and the P-256
verification of a device proof are primitives of the platform; the random session
id of a start is an argument.
-/

namespace VisionForge.Server

open Lib.Ascii Lib.Base64Url Lib.FlatJson Lib.Transaction UsageLease

def LEASE_RETRY_GRACE_SECONDS : Nat := 15
def USAGE_NONCE_TTL_SECONDS : Nat := 24 * 60 * 60
def USAGE_START_CHALLENGE_DIGEST_DOMAIN : Bytes :=
  ascii "vf-dual-machine-usage-start-challenge-digest-v1" ++ [0]
def USAGE_NONCE_DOMAIN : Bytes := ascii "vf-dual-machine-usage-nonce-v1" ++ [0]
def EMPTY_LEASE_SHA256 : Bytes := List.replicate 64 48

structure Primitives where
  crypto : Cryptography
  /-- Key, message. -/
  hmacSha256 : Bytes → Bytes → Bytes
  /-- Encoded public key, encoded signature, signed payload. -/
  p256SignatureValid : Bytes → Bytes → Bytes → Bool

/-- Settings that `validation_errors` finds no fault with. -/
structure DualMachineSettings where
  usageLeaseTtlSeconds : Nat
  usageRenewalWindowSeconds : Nat
  minimumHostClientVersion : Bytes
  minimumAndroidClientVersion : Bytes
  tokenSecret : Bytes
  ttl : 3 ≤ usageLeaseTtlSeconds ∧ usageLeaseTtlSeconds ≤ 10 := by decide
  window : 1 ≤ usageRenewalWindowSeconds ∧ usageRenewalWindowSeconds < usageLeaseTtlSeconds := by
    decide

/-- The codec is built from the settings. -/
structure UsageService where
  settings : DualMachineSettings
  tokenCodec : RsaTokenCodec
  sameTtl : tokenCodec.leaseTtlSeconds = settings.usageLeaseTtlSeconds

structure UsageResponse where
  entitlementId : Bytes
  pairId : Bytes
  sessionId : Bytes
  status : SessionStatus
  sequence : Nat
  authorizationKind : AuthorizationKind
  productKey : Bytes
  isPermanent : Bool
  chargedSeconds : Nat
  remainingSeconds : Nat
  totalConsumedSeconds : Nat
  billingStarted : Bool
  lease : Option IssuedLease
  deriving DecidableEq

def usageResponse (entitlement : EntitlementRow) (session : UsageSessionRow) (chargedSeconds : Nat)
    (lease : Option IssuedLease) : UsageResponse where
  entitlementId := entitlement.entitlementId
  pairId := entitlement.pairId
  sessionId := session.sessionId
  status := session.status
  sequence := session.lastHeartbeatSequence
  authorizationKind := entitlement.authorizationKind
  productKey := entitlement.productKey
  isPermanent := isPermanent entitlement
  chargedSeconds := chargedSeconds
  remainingSeconds := entitlement.remainingSeconds
  totalConsumedSeconds := entitlement.totalConsumedSeconds
  billingStarted := isPermanent entitlement || decide (0 < session.secondsConsumed)
  lease := lease

def requireSupportedEntitlementVersions (entitlement : Option EntitlementRow)
    (settings : DualMachineSettings) : Statement Unit :=
  match entitlement with
  | none => pure ()
  | some row => do
      let host ← unwrap
        (clientVersionAtLeast row.hostClientVersion settings.minimumHostClientVersion)
        (.valueError "client_version_invalid")
      if !host then raise (.service "dual_machine_client_update_required" 426)
      let android ← unwrap
        (clientVersionAtLeast row.androidClientVersion settings.minimumAndroidClientVersion)
        (.valueError "client_version_invalid")
      if !android then raise (.service "dual_machine_client_update_required" 426)

def entitlementBinds (command : UsageCommon) (row : EntitlementRow) : Bool :=
  row.entitlementId == command.entitlementId && row.pairId == command.pairId &&
    row.protocolVersion == command.protocolVersion &&
    row.revocationVersion == command.revocationVersion

def requireEntitlementBinding (entitlement : Option EntitlementRow) (command : UsageCommon) :
    Statement EntitlementRow :=
  unwrap (entitlement.filter (entitlementBinds command))
    (.service "dual_machine_entitlement_invalid" 409)

def verifyDeviceSignatures (prims : Primitives) (entitlement : EntitlementRow)
    (command : UsageCommon) (signedPayload : Bytes) : Statement Unit :=
  require
    (prims.p256SignatureValid entitlement.hostIdentityPublicKeyB64 command.hostSignatureB64
        signedPayload = true ∧
      prims.p256SignatureValid entitlement.androidIdentityPublicKeyB64
        command.androidSignatureB64 signedPayload = true)
    (.service "usage_device_proof_invalid" 403)

def verifyEntitlementCommand (prims : Primitives) (entitlement : Option EntitlementRow)
    (command : UsageCommon) (signedPayload : Bytes) : Statement EntitlementRow := do
  let row ← requireEntitlementBinding entitlement command
  verifyDeviceSignatures prims row command signedPayload
  return row

def requireActiveEntitlement (entitlement : Option EntitlementRow) (command : UsageCommon) :
    Statement EntitlementRow := do
  let row ← requireEntitlementBinding entitlement command
  require (row.status = .active ∧ (isPermanent row = true ∨ 0 < row.remainingSeconds))
    (.service "dual_machine_entitlement_inactive" 409)
  return row

def sessionBinds (command : HeartbeatCommand) (row : UsageSessionRow) : Bool :=
  row.sessionId == command.sessionId && row.entitlementId == command.entitlementId &&
    row.pairId == command.pairId && row.channelBindingSha256 == command.channelBindingSha256

def requireSessionBinding (session : Option UsageSessionRow) (entitlement : Option EntitlementRow)
    (command : HeartbeatCommand) : Statement UsageSessionRow := do
  let _ ← requireEntitlementBinding entitlement command.toUsageCommon
  unwrap (session.filter (sessionBinds command)) (.service "usage_session_not_found" 404)

/-- The claims of a presented lease are those of the session's current one. -/
def leaseBinds (claims : Members) (entitlement : EntitlementRow) (session : UsageSessionRow)
    (expectedSequence : Nat) : Bool :=
  let number := fun key => (numberMember claims key).getD (-1)
  let text := fun key => (textMember claims key).getD []
  text (ascii "sub") == entitlement.entitlementId &&
  text (ascii "pid") == entitlement.pairId &&
  text (ascii "sid") == session.sessionId &&
  number (ascii "pv") == entitlement.protocolVersion &&
  number (ascii "rv") == entitlement.revocationVersion &&
  text (ascii "hkh") == entitlement.hostKeySha256 &&
  text (ascii "akh") == entitlement.androidKeySha256 &&
  text (ascii "cbh") == session.channelBindingSha256 &&
  text (ascii "pth") == session.previousLeaseSha256 &&
  number (ascii "seq") == expectedSequence &&
  text (ascii "phase") == session.leasePhase &&
  text (ascii "authorization_kind") == entitlement.authorizationKind.text &&
  (flagMember claims (ascii "is_permanent")).getD false == isPermanent entitlement &&
  number (ascii "remaining") == session.leaseRemainingSeconds &&
  number (ascii "iat") == session.leaseIssuedAtEpoch &&
  number (ascii "nbf") == session.leaseNotBeforeEpoch &&
  number (ascii "exp") == session.leaseExpiresAtEpoch

def chargeId (crypto : Cryptography) (sessionId : Bytes) (sequence : Nat) (requestHash : Bytes) :
    Bytes :=
  (crypto.sha256Hex (sessionId ++ 58 :: (Lib.Decimal.decimal sequence ++ 58 :: requestHash))).take 32

def newSession (command : StartCommand) (requestHash sessionId : Bytes) (lease : IssuedLease)
    (remainingSeconds chargedSeconds now : Nat) : UsageSessionRow where
  sessionId := sessionId
  entitlementId := command.entitlementId
  pairId := command.pairId
  channelBindingSha256 := command.channelBindingSha256
  startRequestId := command.requestId
  startRequestHash := requestHash
  startedAtEpoch := now
  lastHeartbeatAtEpoch := now
  lastHostFramesTotal := command.hostFramesTotal
  lastAndroidFramesTotal := command.androidFramesTotal
  currentLeaseSha256 := lease.usageLeaseSha256
  previousLeaseSha256 := EMPTY_LEASE_SHA256
  leaseIssuedAtEpoch := now
  leaseNotBeforeEpoch := lease.usageLeaseNotBeforeEpoch
  leaseExpiresAtEpoch := lease.usageLeaseExpiresAtEpoch
  leasePhase := ascii "active"
  leaseRemainingSeconds := remainingSeconds
  secondsConsumed := chargedSeconds

/-- What a heartbeat that issued a lease writes to its session. -/
def newHeartbeat (command : HeartbeatCommand) (requestHash : Bytes) (lease : IssuedLease)
    (previousLeaseSha256 : Bytes) (remainingSeconds chargedSeconds now : Nat) :
    UsageRepository.Heartbeat where
  requestId := command.requestId
  requestHash := requestHash
  sequence := command.sequence
  hostFramesTotal := command.hostFramesTotal
  androidFramesTotal := command.androidFramesTotal
  leaseSha256 := lease.usageLeaseSha256
  previousLeaseSha256 := previousLeaseSha256
  heartbeatAtEpoch := now
  leaseIssuedAtEpoch := now
  leaseNotBeforeEpoch := lease.usageLeaseNotBeforeEpoch
  leaseExpiresAtEpoch := lease.usageLeaseExpiresAtEpoch
  leasePhase := ascii "active"
  leaseRemainingSeconds := remainingSeconds
  chargedSeconds := chargedSeconds

namespace UsageService

open UsageRepository

variable (service : UsageService) (prims : Primitives)

def usageDomainKey (domain : Bytes) : Bytes :=
  prims.hmacSha256 service.settings.tokenSecret domain

def nonceDigest (nonce : Bytes) : Bytes :=
  Lib.Hex.lowercaseHex
    (prims.hmacSha256 (service.usageDomainKey prims USAGE_NONCE_DOMAIN) nonce)

def startChallengeTokenDigest (token : Bytes) : Bytes :=
  Lib.Hex.lowercaseHex (prims.hmacSha256
    (service.usageDomainKey prims USAGE_START_CHALLENGE_DIGEST_DOMAIN) token)

def verifyStartChallenge (command : StartCommand) (now : Nat) : Statement StartChallengeRow := do
  let challenge ← startChallenge command.startChallengeId
  unwrap (challenge.filter (fun row =>
      decide (row.status = .issued) && decide (now < row.expiresAtEpoch) &&
      row.entitlementId == command.entitlementId && row.pairId == command.pairId &&
      row.channelBindingSha256 == command.channelBindingSha256 &&
      row.tokenDigest == service.startChallengeTokenDigest prims command.startChallengeToken))
    (.service "usage_start_challenge_invalid" 409)

def sessionResponse (entitlement : EntitlementRow) (session : UsageSessionRow)
    (chargedSeconds : Nat) : Statement UsageResponse := do
  if session.status ≠ .active ∨ session.currentLeaseSha256 = [] then
    return usageResponse entitlement session chargedSeconds none
  else
    let leaseEntitlement :=
      { entitlement with remainingSeconds := session.leaseRemainingSeconds }
    let lease ← ofExcept (service.tokenCodec.issueUsageLease prims.crypto leaseEntitlement
      session.sessionId session.channelBindingSha256 session.lastHeartbeatSequence
      session.leasePhase (session.leaseExpiresAtEpoch - session.leaseNotBeforeEpoch)
      session.previousLeaseSha256 session.leaseIssuedAtEpoch session.leaseNotBeforeEpoch)
    require (lease.usageLeaseSha256 = session.currentLeaseSha256)
      (.runtimeError "stored usage lease digest mismatch")
    return usageResponse entitlement session chargedSeconds (some lease)

/-! ## Charging

Both operations charge a lease in the same way. -/

def chargedSeconds (entitlement : EntitlementRow) : Nat :=
  if isPermanent entitlement then 0
  else min service.settings.usageLeaseTtlSeconds entitlement.remainingSeconds

def leaseDurationSeconds (entitlement : EntitlementRow) : Nat :=
  if isPermanent entitlement then service.settings.usageLeaseTtlSeconds
  else service.chargedSeconds entitlement

def chargeEntitlement (entitlementId : Bytes) (entitlement : EntitlementRow) :
    Statement EntitlementRow :=
  if isPermanent entitlement then pure entitlement
  else debitEntitlement entitlementId (service.chargedSeconds entitlement)

def recordCharge (entitlement : EntitlementRow) (row : LedgerRow) : Statement Unit :=
  if isPermanent entitlement then pure () else addLedgerCharge row

def openSession (command : StartCommand) (requestHash sessionId : Bytes)
    (before : EntitlementRow) (now : Nat) : Statement UsageResponse := do
  let charged := service.chargedSeconds before
  require (isPermanent before = true ∨ 0 < charged) (.service "usage_balance_exhausted" 409)
  let after ← service.chargeEntitlement command.entitlementId before
  let lease ← ofExcept (service.tokenCodec.issueUsageLease prims.crypto after sessionId
    command.channelBindingSha256 0 (ascii "active") (service.leaseDurationSeconds before)
    EMPTY_LEASE_SHA256 now now)
  createSession (newSession command requestHash sessionId lease after.remainingSeconds charged now)
  recordCharge before
    { chargeId := chargeId prims.crypto sessionId 0 requestHash
      entitlementId := command.entitlementId
      sessionId := sessionId
      sequence := 0
      intervalStartedAtEpoch := lease.usageLeaseNotBeforeEpoch
      intervalEndedAtEpoch := lease.usageLeaseExpiresAtEpoch
      chargedSeconds := charged
      balanceBeforeSeconds := before.remainingSeconds
      balanceAfterSeconds := after.remainingSeconds }
  let created ← session sessionId
  let row ← unwrap created (.runtimeError "usage session insert missing")
  return usageResponse after row charged (some lease)

/-- `now` is positive and `sessionId` is sixteen random octets in hexadecimal. -/
def startUsage (command : StartCommand) (sessionId : Bytes) (now : Nat) :
    Statement UsageResponse := do
  require (0 < now) (.valueError "now_epoch must be positive")
  let signedPayload := usageStartPayload prims.crypto command
  let requestHash := prims.crypto.sha256Hex signedPayload
  let offered ← entitlement command.entitlementId
  requireSupportedEntitlementVersions offered service.settings
  let _ ← verifyEntitlementCommand prims offered command.toUsageCommon signedPayload
  let cancelled ← startCancellation command.entitlementId command.requestId
  require (cancelled = none) (.service "usage_start_cancelled" 409)
  let _ ← expireStaleSessions command.entitlementId now
  let offered ← entitlement command.entitlementId
  requireSupportedEntitlementVersions offered service.settings
  let row ← verifyEntitlementCommand prims offered command.toUsageCommon signedPayload
  let existing ← sessionByStartRequest command.entitlementId command.requestId
  match existing with
  | some existing =>
    require (existing.startRequestHash = requestHash)
      (.service "usage_start_request_conflict" 409)
    let initialCharge ← ledgerCharge existing.sessionId 0
    service.sessionResponse prims row existing
      ((initialCharge.map LedgerRow.chargedSeconds).getD 0)
  | none =>
    let row ← requireActiveEntitlement offered command.toUsageCommon
    let active ← activeSession command.entitlementId
    require (active = none) (.service "usage_session_already_active" 409)
    let challenge ← service.verifyStartChallenge prims command now
    let fresh ← consumeNonce .usageStart command.entitlementId
      (service.nonceDigest prims command.requestNonce) now (now + USAGE_NONCE_TTL_SECONDS)
    require (fresh = true) (.service "usage_request_replayed" 409)
    let consumed ← consumeStartChallenge challenge.challengeId now
    require (consumed = true) (.service "usage_start_challenge_invalid" 409)
    service.openSession prims command requestHash sessionId row now

def duplicateHeartbeatResponse (entitlement : EntitlementRow) (session : UsageSessionRow)
    (command : HeartbeatCommand) (requestHash : Bytes) : Statement (Option UsageResponse) := do
  if command.sequence ≠ session.lastHeartbeatSequence then
    return none
  else
    require (session.lastRequestId = command.requestId ∧ session.lastRequestHash = requestHash ∧
        session.previousLeaseSha256 = prims.crypto.sha256Hex command.previousLease)
      (.service "usage_heartbeat_replay_conflict" 409)
    let charge ← ledgerCharge session.sessionId command.sequence
    let response ← service.sessionResponse prims entitlement session
      ((charge.map LedgerRow.chargedSeconds).getD 0)
    return some response

/-- End the session, keep that, and refuse the heartbeat. -/
def endThenRaise {α : Type} (sessionId : Bytes) (now : Nat) (reason code : String) :
    Statement α := do
  let _ ← endSession sessionId now reason
  commitThenRaise (.service code 409)

/-- The part of a heartbeat that charges and signs the next lease. -/
def renewLease (before : EntitlementRow) (session : UsageSessionRow)
    (command : HeartbeatCommand) (requestHash : Bytes) (now : Nat) : Statement UsageResponse := do
  let charged := service.chargedSeconds before
  let nextNotBefore := max now session.leaseExpiresAtEpoch
  let after ← service.chargeEntitlement before.entitlementId before
  let lease ← ofExcept (service.tokenCodec.issueUsageLease prims.crypto after
    session.sessionId session.channelBindingSha256 command.sequence (ascii "active")
    (service.leaseDurationSeconds before) session.currentLeaseSha256 now nextNotBefore)
  recordCharge before
    { chargeId := chargeId prims.crypto session.sessionId command.sequence requestHash
      entitlementId := after.entitlementId
      sessionId := session.sessionId
      sequence := command.sequence
      intervalStartedAtEpoch := lease.usageLeaseNotBeforeEpoch
      intervalEndedAtEpoch := lease.usageLeaseExpiresAtEpoch
      chargedSeconds := charged
      balanceBeforeSeconds := before.remainingSeconds
      balanceAfterSeconds := after.remainingSeconds }
  recordHeartbeat session.sessionId (newHeartbeat command requestHash lease
    session.currentLeaseSha256 after.remainingSeconds charged now)
  let updated ← UsageRepository.session session.sessionId
  let row ← unwrap updated (.runtimeError "updated usage session missing")
  return usageResponse after row charged (some lease)

def applyHeartbeat (entitlement : EntitlementRow) (session : UsageSessionRow)
    (command : HeartbeatCommand) (requestHash : Bytes) (now : Nat) : Statement UsageResponse := do
  let entitlement ← requireEntitlementBinding (some entitlement) command.toUsageCommon
  require (session.status = .active ∧ command.sequence = session.lastHeartbeatSequence + 1 ∧
      session.currentLeaseSha256 = prims.crypto.sha256Hex command.previousLease)
    (.service "usage_heartbeat_state_invalid" 409)
  require (session.leaseExpiresAtEpoch ≤ now + service.settings.usageRenewalWindowSeconds)
    (.service "usage_heartbeat_too_early" 429)
  if command.hostFramesTotal ≤ session.lastHostFramesTotal ∨
      command.androidFramesTotal ≤ session.lastAndroidFramesTotal then
    endThenRaise session.sessionId now "usage_progress_not_confirmed"
      "usage_progress_not_confirmed"
  else if entitlement.status ≠ .active ∨
      (isPermanent entitlement = false ∧ entitlement.remainingSeconds = 0) then
    endThenRaise session.sessionId now "balance_exhausted" "usage_balance_exhausted"
  else if isPermanent entitlement = false ∧
      service.chargedSeconds entitlement = 0 then
    endThenRaise session.sessionId now "balance_exhausted" "usage_balance_exhausted"
  else
    service.renewLease prims entitlement session command requestHash now

def verifyPreviousLease (token : Bytes) (now : Nat) : Option Members :=
  service.tokenCodec.verifyUsageLease prims.crypto token now LEASE_RETRY_GRACE_SECONDS 0 false

def heartbeatUsage (command : HeartbeatCommand) (now : Nat) : Statement UsageResponse := do
  require (0 < now) (.valueError "now_epoch must be positive")
  let signedPayload := usageHeartbeatPayload prims.crypto command
  let requestHash := prims.crypto.sha256Hex signedPayload
  let previousClaims ← unwrap (service.verifyPreviousLease prims command.previousLease now)
    (.service "usage_lease_invalid" 409)
  let offered ← entitlement command.entitlementId
  requireSupportedEntitlementVersions offered service.settings
  let found ← session command.sessionId
  let _ ← verifyEntitlementCommand prims offered command.toUsageCommon signedPayload
  let _ ← requireSessionBinding found offered command
  let offered ← entitlement command.entitlementId
  requireSupportedEntitlementVersions offered service.settings
  let found ← session command.sessionId
  let row ← requireSessionBinding found offered command
  let bound ← requireEntitlementBinding offered command.toUsageCommon
  let duplicate ← service.duplicateHeartbeatResponse prims bound row command requestHash
  match duplicate with
  | some response => return response
  | none =>
    require (leaseBinds previousClaims bound row (command.sequence - 1) = true)
      (.service "usage_lease_claim_mismatch" 409)
    let fresh ← consumeNonce .usageHeartbeat command.sessionId
      (service.nonceDigest prims command.requestNonce) now (now + USAGE_NONCE_TTL_SECONDS)
    require (fresh = true) (.service "usage_request_replayed" 409)
    service.applyHeartbeat prims bound row command requestHash now

end UsageService

end VisionForge.Server
