import VisionForge.Lib.Ascii
import VisionForge.Lib.Table
import VisionForge.Lib.Transaction

/-! # The usage tables of the dual-machine service

Rows carry the columns that the usage, card and administration services read or
write; a card carries the states of its batch and its product. A database holds
only rows that satisfy the schema's `CHECK` constraints and its primary keys, so a
constraint is checked where a row is written and is available wherever one is read.
Integer columns that the schema keeps non-negative are natural numbers; SQLite stores
64-bit integers and the driver refuses larger ones.
-/

namespace VisionForge.Server

open Lib.Ascii Lib.Table Lib.Transaction

/-- An exception of the service: its own errors carry a code and an HTTP status. -/
inductive ServerException where
  | service (code : String) (statusCode : Nat)
  | integrityError
  | lookupError (text : String)
  | runtimeError (text : String)
  | valueError (text : String)
  deriving DecidableEq

inductive AuthorizationKind where
  | legacyBalance
  | day
  | week
  | month
  | permanent
  deriving DecidableEq

def AuthorizationKind.text : AuthorizationKind → Bytes
  | .legacyBalance => ascii "legacy_balance"
  | .day => ascii "day"
  | .week => ascii "week"
  | .month => ascii "month"
  | .permanent => ascii "permanent"

inductive EntitlementStatus where
  | active
  | exhausted
  | revoked
  deriving DecidableEq

inductive SessionStatus where
  | active
  | ended
  | exhausted
  | revoked
  deriving DecidableEq

inductive ChallengeStatus where
  | issued
  | consumed
  | expired
  deriving DecidableEq

/-- Values an integer column can hold. -/
def fitsInteger (value : Nat) : Bool := decide (value < 2 ^ 63)

structure EntitlementRow where
  entitlementId : Bytes
  pairId : Bytes
  protocolVersion : Nat
  hostClientVersion : Bytes
  hostIdentityPublicKeyB64 : Bytes
  hostKeySha256 : Bytes
  androidClientVersion : Bytes
  androidIdentityPublicKeyB64 : Bytes
  androidKeySha256 : Bytes
  remainingSeconds : Nat
  totalCreditedSeconds : Nat
  totalConsumedSeconds : Nat
  status : EntitlementStatus
  revocationVersion : Nat
  authorizationKind : AuthorizationKind
  productKey : Bytes
  sourceLicenseCodeId : Option Nat := none
  deriving DecidableEq

structure EntitlementRow.Checks (row : EntitlementRow) : Prop where
  protocolVersion : row.protocolVersion = 2
  revocationVersion : 0 < row.revocationVersion
  balance : row.totalCreditedSeconds = row.remainingSeconds + row.totalConsumedSeconds
  exhausted : row.status = .exhausted → row.remainingSeconds = 0
  integers : fitsInteger row.totalCreditedSeconds = true ∧ fitsInteger row.revocationVersion = true

instance (row : EntitlementRow) : Decidable row.Checks :=
  decidable_of_iff
    (row.protocolVersion = 2 ∧ 0 < row.revocationVersion ∧
      row.totalCreditedSeconds = row.remainingSeconds + row.totalConsumedSeconds ∧
      (row.status = .exhausted → row.remainingSeconds = 0) ∧
      fitsInteger row.totalCreditedSeconds = true ∧ fitsInteger row.revocationVersion = true)
    ⟨fun ⟨a, b, c, d, e⟩ => ⟨a, b, c, d, e⟩, fun h => ⟨h.1, h.2, h.3, h.4, h.5⟩⟩

structure DeviceBindingRow where
  entitlementId : Bytes
  pairId : Bytes
  hostClientVersion : Bytes
  hostIdentityPublicKeyB64 : Bytes
  hostKeySha256 : Bytes
  androidClientVersion : Bytes
  androidIdentityPublicKeyB64 : Bytes
  androidKeySha256 : Bytes
  isCurrent : Bool
  bindingId : Bytes := []
  androidDeviceProfileJson : Bytes := []
  deriving DecidableEq

structure StartChallengeRow where
  challengeId : Bytes
  requestId : Bytes
  requestPayloadHash : Bytes
  tokenDigest : Bytes
  entitlementId : Bytes
  pairId : Bytes
  channelBindingSha256 : Bytes
  status : ChallengeStatus
  expiresAtEpoch : Nat
  consumedAtEpoch : Option Nat
  deriving DecidableEq

structure UsageSessionRow where
  sessionId : Bytes
  entitlementId : Bytes
  pairId : Bytes
  channelBindingSha256 : Bytes
  startRequestId : Bytes
  startRequestHash : Bytes
  status : SessionStatus := .active
  startedAtEpoch : Nat
  lastHeartbeatAtEpoch : Nat
  lastHeartbeatSequence : Nat := 0
  lastRequestId : Bytes := []
  lastRequestHash : Bytes := []
  lastHostFramesTotal : Nat
  lastAndroidFramesTotal : Nat
  currentLeaseSha256 : Bytes
  previousLeaseSha256 : Bytes
  leaseIssuedAtEpoch : Nat
  leaseNotBeforeEpoch : Nat
  leaseExpiresAtEpoch : Nat
  leasePhase : Bytes
  leaseRemainingSeconds : Nat
  secondsConsumed : Nat
  endedAtEpoch : Option Nat := none
  endedReason : String := ""
  deriving DecidableEq

structure UsageSessionRow.Checks (row : UsageSessionRow) : Prop where
  channelBindingSha256 : row.channelBindingSha256.length = 64
  previousLeaseSha256 : row.previousLeaseSha256.length = 64
  leasePhase : row.leasePhase = ascii "active"
  issuedBeforeStart : row.leaseIssuedAtEpoch ≤ row.leaseNotBeforeEpoch
  window : row.leaseNotBeforeEpoch < row.leaseExpiresAtEpoch
  integers : fitsInteger row.lastHeartbeatSequence = true ∧
    fitsInteger row.lastHostFramesTotal = true ∧ fitsInteger row.lastAndroidFramesTotal = true ∧
    fitsInteger row.leaseExpiresAtEpoch = true ∧ fitsInteger row.leaseRemainingSeconds = true ∧
    fitsInteger row.secondsConsumed = true

instance (row : UsageSessionRow) : Decidable row.Checks :=
  decidable_of_iff
    (row.channelBindingSha256.length = 64 ∧ row.previousLeaseSha256.length = 64 ∧
      row.leasePhase = ascii "active" ∧ row.leaseIssuedAtEpoch ≤ row.leaseNotBeforeEpoch ∧
      row.leaseNotBeforeEpoch < row.leaseExpiresAtEpoch ∧
      fitsInteger row.lastHeartbeatSequence = true ∧
      fitsInteger row.lastHostFramesTotal = true ∧ fitsInteger row.lastAndroidFramesTotal = true ∧
      fitsInteger row.leaseExpiresAtEpoch = true ∧ fitsInteger row.leaseRemainingSeconds = true ∧
      fitsInteger row.secondsConsumed = true)
    ⟨fun ⟨a, b, c, d, e, f⟩ => ⟨a, b, c, d, e, f⟩, fun h => ⟨h.1, h.2, h.3, h.4, h.5, h.6⟩⟩

/-- A request that is cancelled for ever; rows of an older schema have neither an
    authenticated hash nor a response. -/
structure StartCancellationRow where
  entitlementId : Bytes
  startRequestId : Bytes
  cancelRequestId : Bytes := []
  cancelRequestHash : Bytes := []
  authenticatedRequestHash : Bytes := []
  responseJson : Bytes := []
  channelBindingSha256 : Bytes := []
  deriving DecidableEq

structure LedgerRow where
  chargeId : Bytes
  entitlementId : Bytes
  sessionId : Bytes
  sequence : Nat
  intervalStartedAtEpoch : Nat
  intervalEndedAtEpoch : Nat
  chargedSeconds : Nat
  balanceBeforeSeconds : Nat
  balanceAfterSeconds : Nat
  deriving DecidableEq

structure LedgerRow.Checks (row : LedgerRow) : Prop where
  chargedSeconds : 0 < row.chargedSeconds
  interval : row.intervalStartedAtEpoch < row.intervalEndedAtEpoch
  balance : row.balanceBeforeSeconds = row.balanceAfterSeconds + row.chargedSeconds
  integers : fitsInteger row.sequence = true ∧ fitsInteger row.intervalEndedAtEpoch = true ∧
    fitsInteger row.balanceBeforeSeconds = true

instance (row : LedgerRow) : Decidable row.Checks :=
  decidable_of_iff
    (0 < row.chargedSeconds ∧ row.intervalStartedAtEpoch < row.intervalEndedAtEpoch ∧
      row.balanceBeforeSeconds = row.balanceAfterSeconds + row.chargedSeconds ∧
      fitsInteger row.sequence = true ∧ fitsInteger row.intervalEndedAtEpoch = true ∧
      fitsInteger row.balanceBeforeSeconds = true)
    ⟨fun ⟨a, b, c, d⟩ => ⟨a, b, c, d⟩, fun h => ⟨h.1, h.2, h.3, h.4⟩⟩

inductive NonceScope where
  | usageStart
  | usageHeartbeat
  | usageStartCancel
  | entitlementStatus
  deriving DecidableEq

structure NonceRow where
  scope : NonceScope
  subjectId : Bytes
  nonceDigest : Bytes
  expiresAtEpoch : Nat
  deriving DecidableEq

inductive CodeStatus where
  | issued
  | activated
  | revoked
  | expired
  deriving DecidableEq

/-- A card with the states of its batch and its product. -/
structure LicenseCodeRow where
  id : Nat
  batchId : Nat
  productKey : Bytes
  durationSeconds : Nat
  authorizationKind : AuthorizationKind
  status : CodeStatus
  expiresAtEpoch : Option Nat
  batchActive : Bool
  productEnabled : Bool
  deleted : Bool := false
  deriving DecidableEq

inductive ActivationMode where
  | activate
  | reactivate
  | bindDevice
  deriving DecidableEq

def ActivationMode.text : ActivationMode → Bytes
  | .activate => ascii "activate"
  | .reactivate => ascii "reactivate"
  | .bindDevice => ascii "bind_device"

inductive ActivationChallengeStatus where
  | issued
  | consumed
  | revoked
  | expired
  deriving DecidableEq

structure ActivationChallengeRow where
  challengeId : Bytes
  requestId : Bytes
  tokenDigest : Bytes
  licenseCodeId : Nat
  pairId : Bytes
  protocolVersion : Nat
  hostDeviceCode : Bytes
  hostClientVersion : Bytes
  hostIdentityPublicKeyB64 : Bytes
  hostKeySha256 : Bytes
  androidDeviceCode : Bytes
  androidClientVersion : Bytes
  androidIdentityPublicKeyB64 : Bytes
  androidKeySha256 : Bytes
  androidDeviceProfileJson : Bytes
  status : ActivationChallengeStatus
  expiresAtEpoch : Nat
  activationMode : ActivationMode
  targetEntitlementId : Bytes
  deriving DecidableEq

structure LicenseActivationRow where
  activationId : Bytes
  licenseCodeId : Nat
  entitlementId : Bytes
  challengeId : Bytes
  creditedSeconds : Nat
  deriving DecidableEq

structure Database where
  entitlements : List EntitlementRow := []
  deviceBindings : List DeviceBindingRow := []
  usageStartChallenges : List StartChallengeRow := []
  usageSessions : List UsageSessionRow := []
  usageStartCancellations : List StartCancellationRow := []
  usageLedger : List LedgerRow := []
  authNonces : List NonceRow := []
  licenseCodes : List LicenseCodeRow := []
  activationChallenges : List ActivationChallengeRow := []
  licenseActivations : List LicenseActivationRow := []
  entitlementChecks : ∀ row ∈ entitlements, row.Checks := by
    first | exact List.forall_mem_nil _ | simp
  sessionChecks : ∀ row ∈ usageSessions, row.Checks := by
    first | exact List.forall_mem_nil _ | simp
  ledgerChecks : ∀ row ∈ usageLedger, row.Checks := by
    first | exact List.forall_mem_nil _ | simp
  entitlementKeys : (entitlements.map EntitlementRow.entitlementId).Nodup := by
    first | exact List.nodup_nil | simp
  sessionKeys : (usageSessions.map UsageSessionRow.sessionId).Nodup := by
    first | exact List.nodup_nil | simp

abbrev Statement (α : Type) := Transaction Database ServerException α

namespace Database

/-- A write that the schema's constraints may refuse. -/
def writeChecked (checks : Prop) [Decidable checks] (write : checks → Database → Database) :
    Statement Unit := do
  let database ← get
  if holds : checks then set (write holds database) else raise .integrityError

theorem writeChecked_eq_ok {hc : Prop} [Decidable hc] {write : hc → Database → Database}
    {s : Database} {res : Unit × Database} :
    (writeChecked hc write).run s = .ok res ↔ ∃ holds, res = ((), write holds s) := by
  unfold writeChecked
  rw [get_ok]
  by_cases holds : hc
  · rw [dif_pos holds]
    constructor
    · intro done
      cases done
      exact ⟨holds, rfl⟩
    · rintro ⟨_, rfl⟩
      rfl
  · rw [dif_neg holds]
    constructor
    · intro no
      cases no
    · rintro ⟨checked, _⟩
      exact absurd checked holds

def writeEntitlements (rows : List EntitlementRow) : Statement Unit :=
  writeChecked
    ((∀ row ∈ rows, row.Checks) ∧ (rows.map EntitlementRow.entitlementId).Nodup)
    (fun holds database => { database with
      entitlements := rows
      entitlementChecks := holds.1
      entitlementKeys := holds.2 })

def writeSessions (rows : List UsageSessionRow) : Statement Unit :=
  writeChecked
    ((∀ row ∈ rows, row.Checks) ∧ (rows.map UsageSessionRow.sessionId).Nodup)
    (fun holds database => { database with
      usageSessions := rows
      sessionChecks := holds.1
      sessionKeys := holds.2 })

def writeLedger (rows : List LedgerRow) : Statement Unit :=
  writeChecked (∀ row ∈ rows, row.Checks)
    (fun checks database => { database with usageLedger := rows, ledgerChecks := checks })

end Database

end VisionForge.Server
