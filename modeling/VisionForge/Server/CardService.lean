import VisionForge.Server.UsageLifecycle

/-! # Activating cards

A challenge for a card is confirmed by both devices. A confirmed challenge creates an
entitlement, credits an exhausted one with a new card, or binds other devices to one.
The state of pair security is not represented: the step that commits it either raises
or does nothing to the tables here, and which of the two is an argument, as the random
identifiers and the tokens of challenges are. The answer is given without the members
that pair security adds to it: `binding_id`, `binding_revision` and
`pair_assurance_state`.
-/

namespace VisionForge.Server

open Lib.Ascii Lib.FlatJson Lib.Hex Lib.Table Lib.Transaction UsageLease

def ACTIVATION_CONFIRM_DOMAIN : Bytes := ascii "visionforge-dual-machine-card-activate-v1"
def CHALLENGE_DIGEST_DOMAIN : Bytes := ascii "vf-dual-machine-activation-digest-v1" ++ [0]

structure ConfirmCommand where
  challengeId : Bytes
  challengeToken : Bytes
  hostSignatureB64 : Bytes
  androidSignatureB64 : Bytes
  challengeIdHex : isNonzeroLowerHex challengeId 32 = true := by decide
  challengeTokenText : challengeToken.length = 43 ∧
    challengeToken.all isChallengeTokenCharacter = true := by decide
  signatures : (8 ≤ hostSignatureB64.length ∧ hostSignatureB64.length ≤ 256) ∧
    8 ≤ androidSignatureB64.length ∧ androidSignatureB64.length ≤ 256 := by decide

structure ActivationIds where
  entitlementId : Bytes
  bindingId : Bytes
  activationId : Bytes

structure ActivationResponse where
  activationMode : ActivationMode
  bindingUpdated : Bool
  activationId : Bytes
  entitlementId : Bytes
  pairId : Bytes
  status : EntitlementStatus
  revocationVersion : Nat
  authorizationKind : AuthorizationKind
  productKey : Bytes
  isPermanent : Bool
  creditedSeconds : Nat
  remainingSeconds : Nat
  totalCreditedSeconds : Nat
  totalConsumedSeconds : Nat
  deriving DecidableEq

def lengthBetween (low high : Nat) (value : Bytes) : Bool :=
  decide (low ≤ value.length) && decide (value.length ≤ high)

/-- What the payload of a confirmation requires of its challenge. -/
def payloadValid (challenge : ActivationChallengeRow) (challengeToken : Bytes) : Bool :=
  (match challenge.activationMode with
    | .activate => challenge.targetEntitlementId == []
    | .reactivate | .bindDevice => isNonzeroLowerHex challenge.targetEntitlementId 32) &&
  challenge.protocolVersion == PROTOCOL_VERSION &&
  [challenge.requestId, challenge.pairId, challenge.challengeId].all (isNonzeroLowerHex · 32) &&
  [challenge.hostKeySha256, challenge.androidKeySha256].all (isNonzeroLowerHex · 64) &&
  [challenge.hostClientVersion, challenge.androidClientVersion].all (lengthBetween 1 80) &&
  [challenge.hostDeviceCode, challenge.androidDeviceCode].all (lengthBetween 1 128) &&
  lengthBetween 1 256 challengeToken

/-- `none` where the source raises. -/
def activationConfirmationPayload (crypto : Cryptography) (challenge : ActivationChallengeRow)
    (challengeToken : Bytes) : Option Bytes :=
  if !payloadValid challenge challengeToken then none
  else some (canonical
    [(ascii "activation_mode", .text challenge.activationMode.text),
      (ascii "android_client_version", .text challenge.androidClientVersion),
      (ascii "android_device_code", .text challenge.androidDeviceCode),
      (ascii "android_device_profile_sha256",
        .text (crypto.sha256Hex (if challenge.androidDeviceProfileJson = [] then ascii "\x7b\x7d"
          else challenge.androidDeviceProfileJson))),
      (ascii "android_key_sha256", .text challenge.androidKeySha256),
      (ascii "challenge_id", .text challenge.challengeId),
      (ascii "challenge_token_sha256", .text (crypto.sha256Hex challengeToken)),
      (ascii "domain", .text ACTIVATION_CONFIRM_DOMAIN),
      (ascii "host_client_version", .text challenge.hostClientVersion),
      (ascii "host_device_code", .text challenge.hostDeviceCode),
      (ascii "host_key_sha256", .text challenge.hostKeySha256),
      (ascii "pair_id", .text challenge.pairId),
      (ascii "protocol_version", .number challenge.protocolVersion),
      (ascii "request_id", .text challenge.requestId),
      (ascii "target_entitlement_id", .text challenge.targetEntitlementId)])

def cardIsAvailable (now : Nat) (card : LicenseCodeRow) : Bool :=
  decide (card.status = .issued) && card.batchActive && card.productEnabled &&
    card.expiresAtEpoch.all (fun expires => decide (now < expires))

def creditedSeconds (card : LicenseCodeRow) : Nat :=
  if card.authorizationKind = .permanent then 0 else card.durationSeconds

def isTermAuthorization : AuthorizationKind → Bool
  | .legacyBalance => false
  | .day | .week | .month | .permanent => true

def compatibilityBindingHash (crypto : Cryptography) (entitlementId role : Bytes) : Bytes :=
  crypto.sha256Hex (ascii "term-entitlement:" ++ (entitlementId ++ 58 :: role))

def bindingFromChallenge (challenge : ActivationChallengeRow) (entitlementId bindingId : Bytes) :
    DeviceBindingRow where
  entitlementId := entitlementId
  pairId := challenge.pairId
  hostClientVersion := challenge.hostClientVersion
  hostIdentityPublicKeyB64 := challenge.hostIdentityPublicKeyB64
  hostKeySha256 := challenge.hostKeySha256
  androidClientVersion := challenge.androidClientVersion
  androidIdentityPublicKeyB64 := challenge.androidIdentityPublicKeyB64
  androidKeySha256 := challenge.androidKeySha256
  isCurrent := true
  bindingId := bindingId
  androidDeviceProfileJson := challenge.androidDeviceProfileJson

def LICENSE_UNAVAILABLE : ServerException := .service "license_unavailable" 409

namespace LicenseRepository

open UsageRepository

def challengeIn (database : Database) (challengeId : Bytes) : Option ActivationChallengeRow :=
  lookup ActivationChallengeRow.challengeId challengeId database.activationChallenges

def challengeById (challengeId : Bytes) : Statement (Option ActivationChallengeRow) := do
  return challengeIn (← get) challengeId

def challengeByRequest (requestId : Bytes) : Statement (Option ActivationChallengeRow) := do
  return lookup ActivationChallengeRow.requestId requestId (← get).activationChallenges

def codeForActivationById (codeId : Nat) : Statement (Option LicenseCodeRow) := do
  return lookup LicenseCodeRow.id codeId (← get).licenseCodes

/-- The entitlement as it stands in its table, without the devices it is bound to. -/
def entitlementById (entitlementId : Bytes) : Statement (Option EntitlementRow) := do
  return lookup EntitlementRow.entitlementId entitlementId (← get).entitlements

def entitlementByPairId (pairId : Bytes) : Statement (Option EntitlementRow) := do
  return lookup EntitlementRow.pairId pairId (← get).entitlements

def activationWhere (condition : LicenseActivationRow → Bool) :
    Statement (Option (LicenseActivationRow × EntitlementRow)) := do
  let database ← get
  return database.licenseActivations.find? condition |>.bind (fun activation =>
    (lookup EntitlementRow.entitlementId activation.entitlementId database.entitlements).map
      (fun entitlement => (activation, entitlement)))

def activationByCodeId (codeId : Nat) :
    Statement (Option (LicenseActivationRow × EntitlementRow)) :=
  activationWhere (fun row => row.licenseCodeId == codeId)

def activationByChallenge (challengeId : Bytes) :
    Statement (Option (LicenseActivationRow × EntitlementRow)) :=
  activationWhere (fun row => row.challengeId == challengeId)

/-- Entitlements are told apart by their pairs and by their hashes too. -/
def writeEntitlements (rows : List EntitlementRow) : Statement Unit := do
  require ((rows.map EntitlementRow.pairId).Nodup ∧
      (rows.map (fun row => (row.hostKeySha256, row.androidKeySha256))).Nodup) .integrityError
  Database.writeEntitlements rows

def createEntitlement (row : EntitlementRow) : Statement Unit := do
  let database ← get
  writeEntitlements (database.entitlements ++ [row])

def sameDevices (binding row : DeviceBindingRow) : Bool :=
  row.entitlementId == binding.entitlementId && row.pairId == binding.pairId &&
    row.hostKeySha256 == binding.hostKeySha256 && row.androidKeySha256 == binding.androidKeySha256

/-- The devices become the current ones of their entitlement. -/
def bindDevice (binding : DeviceBindingRow) : Statement Unit := do
  let database ← get
  let cleared := update (fun row => row.entitlementId == binding.entitlementId)
    (fun row => { row with isCurrent := false }) database.deviceBindings
  if cleared.any (sameDevices binding) then
    set { database with
      deviceBindings := update (sameDevices binding)
        (fun row => { binding with bindingId := row.bindingId }) cleared }
  else
    require (cleared.all (fun row => row.bindingId != binding.bindingId) = true) .integrityError
    set { database with deviceBindings := cleared ++ [binding] }

def hasActiveSession (database : Database) (entitlementId : Bytes) : Bool :=
  database.usageSessions.any (fun row =>
    row.entitlementId == entitlementId && decide (row.status = .active))

def canReactivate (database : Database) (entitlementId pairId : Bytes) (row : EntitlementRow) :
    Bool :=
  row.entitlementId == entitlementId && row.pairId == pairId &&
    decide (row.status = .exhausted) && row.remainingSeconds == 0 &&
    row.totalConsumedSeconds == row.totalCreditedSeconds &&
    !hasActiveSession database row.entitlementId

/-- The credit of an exhausted entitlement begins again with a card. -/
def reactivated (binding : DeviceBindingRow) (card : LicenseCodeRow) (row : EntitlementRow) :
    EntitlementRow :=
  { row with
    hostClientVersion := binding.hostClientVersion
    hostIdentityPublicKeyB64 := binding.hostIdentityPublicKeyB64
    androidClientVersion := binding.androidClientVersion
    androidIdentityPublicKeyB64 := binding.androidIdentityPublicKeyB64
    remainingSeconds := creditedSeconds card
    totalCreditedSeconds := creditedSeconds card
    totalConsumedSeconds := 0
    status := .active
    revocationVersion := row.revocationVersion + 1
    authorizationKind := card.authorizationKind
    productKey := card.productKey
    sourceLicenseCodeId := some card.id }

def reactivateExhaustedEntitlement (entitlementId : Bytes) (binding : DeviceBindingRow)
    (card : LicenseCodeRow) : Statement Bool := do
  let database ← get
  let condition := canReactivate database entitlementId binding.pairId
  writeEntitlements (update condition (reactivated binding card) database.entitlements)
  if rowcount condition database.entitlements ≠ 1 then return false
  else
    bindDevice binding
    return true

/-- An entitlement that belongs to other devices from now on. -/
def rebound (binding : DeviceBindingRow) (row : EntitlementRow) : EntitlementRow :=
  { row with
    pairId := binding.pairId
    hostClientVersion := binding.hostClientVersion
    hostIdentityPublicKeyB64 := binding.hostIdentityPublicKeyB64
    androidClientVersion := binding.androidClientVersion
    androidIdentityPublicKeyB64 := binding.androidIdentityPublicKeyB64
    revocationVersion := row.revocationVersion + 1 }

def rebindEntitlement (binding : DeviceBindingRow) : Statement Unit := do
  let database ← get
  writeEntitlements (update (fun row => row.entitlementId == binding.entitlementId)
    (rebound binding) database.entitlements)
  bindDevice binding

def canConsumeCode (codeId now : Nat) (card : LicenseCodeRow) : Bool :=
  card.id == codeId && decide (card.status = .issued) &&
    card.expiresAtEpoch.all (fun expires => decide (now < expires))

def consumeCode (codeId now : Nat) : Statement Bool := do
  let database ← get
  set { database with
    licenseCodes := update (canConsumeCode codeId now)
      (fun card => { card with status := .activated }) database.licenseCodes }
  return rowcount (canConsumeCode codeId now) database.licenseCodes == 1

def canConsumeChallenge (challengeId : Bytes) (now : Nat) (row : ActivationChallengeRow) : Bool :=
  row.challengeId == challengeId && decide (row.status = .issued) &&
    decide (now < row.expiresAtEpoch)

def consumeChallenge (challengeId : Bytes) (now : Nat) : Statement Bool := do
  let database ← get
  set { database with
    activationChallenges := update (canConsumeChallenge challengeId now)
      (fun row => { row with status := .consumed }) database.activationChallenges }
  return rowcount (canConsumeChallenge challengeId now) database.activationChallenges == 1

/-- Challenges that are issued and satisfy a condition expire. -/
def expireChallengesWhere (condition : ActivationChallengeRow → Bool) : Statement Unit := do
  let database ← get
  set { database with
    activationChallenges :=
      update (fun row => decide (row.status = ActivationChallengeStatus.issued) && condition row)
        (fun row => { row with status := .expired }) database.activationChallenges }

/-- A challenge has a key of its own, and a card has one issued challenge. -/
def createChallenge (row : ActivationChallengeRow) : Statement Unit := do
  let database ← get
  require (database.activationChallenges.all (fun other =>
    other.challengeId != row.challengeId && other.requestId != row.requestId &&
      other.tokenDigest != row.tokenDigest &&
      !(other.licenseCodeId == row.licenseCodeId && decide (other.status = .issued))) = true)
    .integrityError
  set { database with
    activationChallenges := database.activationChallenges ++ [{ row with status := .issued }] }

def createActivation (row : LicenseActivationRow) : Statement Unit := do
  let database ← get
  require (database.licenseActivations.all (fun other =>
    other.activationId != row.activationId && other.licenseCodeId != row.licenseCodeId &&
      other.challengeId != row.challengeId) = true) .integrityError
  set { database with licenseActivations := database.licenseActivations ++ [row] }

end LicenseRepository

/-- Sessions of an entitlement that are active end with a status. -/
def endSessionsOf (entitlementId : Bytes) (status : SessionStatus) (now : Nat) (reason : String) :
    Statement Unit := do
  let database ← get
  Database.writeSessions (update
    (fun row => row.entitlementId == entitlementId && decide (row.status = .active))
    (fun row => { row with status := status, endedAtEpoch := some now, endedReason := reason })
    database.usageSessions)

namespace CardService

open LicenseRepository UsageRepository

variable (settings : DualMachineSettings) (prims : ServicePrimitives)

def challengeTokenDigest (token : Bytes) : Bytes :=
  ascii "hmac-sha256:" ++ lowercaseHex (prims.hmacSha256
    (prims.hmacSha256 settings.tokenSecret CHALLENGE_DIGEST_DOMAIN) token)

def verifyConfirmation (challenge : Option ActivationChallengeRow) (command : ConfirmCommand)
    (now : Nat) : Statement ActivationChallengeRow := do
  let row ← unwrap (challenge.filter (fun row =>
      (decide (row.status = .consumed) ||
        (decide (row.status = .issued) && decide (now < row.expiresAtEpoch))) &&
      row.tokenDigest == challengeTokenDigest settings prims command.challengeToken))
    (.service "activation_challenge_invalid" 409)
  let payload ← unwrap
    (activationConfirmationPayload prims.crypto row command.challengeToken)
    (.valueError "dual_machine_signed_payload_invalid")
  require
    (prims.p256SignatureValid row.hostIdentityPublicKeyB64 command.hostSignatureB64
        payload = true ∧
      prims.p256SignatureValid row.androidIdentityPublicKeyB64 command.androidSignatureB64
        payload = true)
    (.service "activation_device_proof_invalid" 403)
  return row

/-- The phone may change its key while the host and the phone's fingerprint stay. -/
def requireSameOrUnboundAndroidDevice (entitlement : EntitlementRow)
    (challenge : ActivationChallengeRow) : Statement Unit := do
  let database ← get
  match currentBinding database entitlement.entitlementId with
  | none =>
    require (entitlement.hostIdentityPublicKeyB64 = [] ∧
        entitlement.androidIdentityPublicKeyB64 = [])
      (.service "license_device_binding_inconsistent" 409)
  | some current =>
    let currentFingerprint :=
      prims.deviceProfileFingerprint current.androidDeviceProfileJson
    let requestedFingerprint :=
      prims.deviceProfileFingerprint challenge.androidDeviceProfileJson
    require (current.hostKeySha256 = challenge.hostKeySha256)
      (.service "license_bound_to_another_device" 409)
    require (currentFingerprint = [] ∨ requestedFingerprint = [] ∨
        currentFingerprint = requestedFingerprint)
      (.service "license_bound_to_another_device" 409)
    require (current.androidKeySha256 = challenge.androidKeySha256 ∨
        (currentFingerprint ≠ [] ∧ requestedFingerprint ≠ [] ∧
          currentFingerprint = requestedFingerprint))
      (.service "license_bound_to_another_device" 409)

/-- The step of pair security raises or does nothing here. -/
def commitPairSecurityBinding (outcome : Option ServerException) : Statement Unit :=
  match outcome with
  | none => pure ()
  | some error => raise error

def activationResponse (activation : LicenseActivationRow) (entitlement : EntitlementRow)
    (mode : ActivationMode) : ActivationResponse where
  activationMode := mode
  bindingUpdated := false
  activationId := activation.activationId
  entitlementId := activation.entitlementId
  pairId := entitlement.pairId
  status := entitlement.status
  revocationVersion := entitlement.revocationVersion
  authorizationKind := entitlement.authorizationKind
  productKey := entitlement.productKey
  isPermanent := isPermanent entitlement
  creditedSeconds := if isPermanent entitlement then 0 else activation.creditedSeconds
  remainingSeconds := entitlement.remainingSeconds
  totalCreditedSeconds := entitlement.totalCreditedSeconds
  totalConsumedSeconds := entitlement.totalConsumedSeconds

def bindingResponse (entitlement : EntitlementRow) (activation : LicenseActivationRow) :
    ActivationResponse where
  activationMode := .bindDevice
  bindingUpdated := true
  activationId := activation.activationId
  entitlementId := entitlement.entitlementId
  pairId := entitlement.pairId
  status := entitlement.status
  revocationVersion := entitlement.revocationVersion
  authorizationKind := entitlement.authorizationKind
  productKey := entitlement.productKey
  isPermanent := isPermanent entitlement
  creditedSeconds := 0
  remainingSeconds := entitlement.remainingSeconds
  totalCreditedSeconds := entitlement.totalCreditedSeconds
  totalConsumedSeconds := entitlement.totalConsumedSeconds

/-- The row of an entitlement that a card creates; its hashes are its own. -/
def newEntitlement (challenge : ActivationChallengeRow) (card : LicenseCodeRow)
    (entitlementId : Bytes) : EntitlementRow where
  entitlementId := entitlementId
  pairId := challenge.pairId
  protocolVersion := challenge.protocolVersion
  hostClientVersion := challenge.hostClientVersion
  hostIdentityPublicKeyB64 := challenge.hostIdentityPublicKeyB64
  hostKeySha256 := compatibilityBindingHash prims.crypto entitlementId (ascii "host")
  androidClientVersion := challenge.androidClientVersion
  androidIdentityPublicKeyB64 := challenge.androidIdentityPublicKeyB64
  androidKeySha256 := compatibilityBindingHash prims.crypto entitlementId (ascii "android")
  remainingSeconds := creditedSeconds card
  totalCreditedSeconds := creditedSeconds card
  totalConsumedSeconds := 0
  status := .active
  revocationVersion := 1
  authorizationKind := card.authorizationKind
  productKey := card.productKey
  sourceLicenseCodeId := some card.id

def createEntitlement (challenge : ActivationChallengeRow) (card : LicenseCodeRow)
    (ids : ActivationIds) : Statement Bytes := do
  require (isTermAuthorization card.authorizationKind = true)
    (.service "dual_machine_product_unavailable" 409)
  LicenseRepository.createEntitlement (newEntitlement prims challenge card ids.entitlementId)
  bindDevice (bindingFromChallenge challenge ids.entitlementId ids.bindingId)
  return ids.entitlementId

/-- The entitlement that a card is credited to: a new one, or the exhausted one of the pair. -/
def creditEntitlement (challenge : ActivationChallengeRow) (card : LicenseCodeRow)
    (ids : ActivationIds) : Statement Bytes := do
  let existing ← entitlementByPairId challenge.pairId
  if challenge.activationMode = .reactivate then
    let row ← unwrap
      (existing.filter (fun row => row.entitlementId == challenge.targetEntitlementId))
      (.service "activation_entitlement_already_exists" 409)
    requireSameOrUnboundAndroidDevice prims row challenge
    let done ← reactivateExhaustedEntitlement challenge.targetEntitlementId
      (bindingFromChallenge challenge challenge.targetEntitlementId ids.bindingId) card
    require (done = true) (.service "activation_entitlement_already_exists" 409)
    return challenge.targetEntitlementId
  else
    require (existing = none) (.service "activation_entitlement_already_exists" 409)
    createEntitlement prims challenge card ids

def identityConflict (error : ServerException) : ServerException :=
  if error = .integrityError then .service "activation_identity_binding_conflict" 409 else error

def confirmCredit (challenge : ActivationChallengeRow) (ids : ActivationIds)
    (pairSecurity : Option ServerException) (now : Nat) : Statement ActivationResponse := do
  let found ← codeForActivationById challenge.licenseCodeId
  let card ← unwrap (found.filter (cardIsAvailable now)) LICENSE_UNAVAILABLE
  let entitlementId ← recast identityConflict (creditEntitlement prims challenge card ids)
  commitPairSecurityBinding pairSecurity
  let consumedCode ← consumeCode card.id now
  require (consumedCode = true) LICENSE_UNAVAILABLE
  let consumedChallenge ← consumeChallenge challenge.challengeId now
  require (consumedChallenge = true) (.service "activation_challenge_invalid" 409)
  createActivation
    { activationId := ids.activationId
      licenseCodeId := card.id
      entitlementId := entitlementId
      challengeId := challenge.challengeId
      creditedSeconds := creditedSeconds card }
  let activation ← activationByChallenge challenge.challengeId
  let (activation, entitlement) ← unwrap activation (.runtimeError "activation insert missing")
  return activationResponse activation entitlement challenge.activationMode

def confirmDeviceBinding (challenge : ActivationChallengeRow) (ids : ActivationIds)
    (pairSecurity : Option ServerException) (now : Nat) : Statement ActivationResponse := do
  let entitlementId := challenge.targetEntitlementId
  let found ← entitlementById entitlementId
  let activation ← activationByCodeId challenge.licenseCodeId
  let row ← unwrap (found.filter (fun row => decide (row.status ≠ .revoked))) LICENSE_UNAVAILABLE
  let (activation, _) ← unwrap (activation.filter (fun pair =>
    pair.1.entitlementId == entitlementId)) LICENSE_UNAVAILABLE
  requireSameOrUnboundAndroidDevice prims row challenge
  recast identityConflict
    (rebindEntitlement (bindingFromChallenge challenge entitlementId ids.bindingId))
  commitPairSecurityBinding pairSecurity
  let consumed ← consumeChallenge challenge.challengeId now
  require (consumed = true) (.service "activation_challenge_invalid" 409)
  expireStartChallengesWhere (fun row => row.entitlementId == entitlementId)
  endSessionsOf entitlementId .ended now "device_rebound"
  let after ← entitlementById entitlementId
  let row ← unwrap after (.runtimeError "rebound entitlement missing")
  return bindingResponse row activation

def confirmationReplay (challenge : ActivationChallengeRow) : Statement ActivationResponse := do
  if challenge.activationMode = .bindDevice then
    let found ← entitlementById challenge.targetEntitlementId
    let row ← unwrap found (.runtimeError "consumed binding challenge has no entitlement")
    let activation ← activationByCodeId challenge.licenseCodeId
    let (activation, _) ← unwrap activation
      (.runtimeError "consumed binding challenge has no activation")
    return bindingResponse row activation
  else
    let activation ← activationByChallenge challenge.challengeId
    let (activation, entitlement) ← unwrap activation
      (.runtimeError "consumed activation challenge has no activation")
    return activationResponse activation entitlement challenge.activationMode

def confirmActivationChecks (command : ConfirmCommand) (now : Nat) :
    Statement ActivationChallengeRow := do
  let found ← challengeById command.challengeId
  verifyConfirmation settings prims found command now

def confirmActivationTransaction (command : ConfirmCommand) (ids : ActivationIds)
    (pairSecurity : Option ServerException) (now : Nat) : Statement ActivationResponse := do
  let challenge ← confirmActivationChecks settings prims command now
  if challenge.status = .consumed then confirmationReplay challenge
  else if challenge.activationMode = .bindDevice then
    confirmDeviceBinding prims challenge ids pairSecurity now
  else
    confirmCredit prims challenge ids pairSecurity now

/-- `seen` is the database of the checks before the transaction. -/
def confirmActivation (seen : Database) (command : ConfirmCommand) (ids : ActivationIds)
    (pairSecurity : Option ServerException) (now : Nat) : Statement ActivationResponse := do
  let _ ← reading seen (confirmActivationChecks settings prims command now)
  confirmActivationTransaction settings prims command ids pairSecurity now

/-! ### Creating a challenge

`request` is a row with what a request brings, the card of its code, and the random members of
the challenge. The service chooses the mode, the target, the status and the expiry itself. -/

def ACTIVATION_CHALLENGE_TTL_SECONDS : Nat := 120

variable (request : ActivationChallengeRow)

def requireSupportedClientVersions : Statement Unit := do
  let host ← unwrap
    (clientVersionAtLeast request.hostClientVersion settings.minimumHostClientVersion)
    (.valueError "client_version_invalid")
  require (host = true) (.service "dual_machine_client_update_required" 426)
  let android ← unwrap
    (clientVersionAtLeast request.androidClientVersion settings.minimumAndroidClientVersion)
    (.valueError "client_version_invalid")
  require (android = true) (.service "dual_machine_client_update_required" 426)

/-- An unused card activates, and an activated one binds the devices of its entitlement. -/
def activationTarget (now : Nat) : Statement (ActivationMode × Bytes) := do
  let found ← codeForActivationById request.licenseCodeId
  let card ← unwrap found LICENSE_UNAVAILABLE
  if cardIsAvailable now card then return (.activate, [])
  else
    require (card.status = .activated) LICENSE_UNAVAILABLE
    let found ← activationByCodeId card.id
    let (_, row) ← unwrap (found.filter (fun pair => decide (pair.2.status ≠ .revoked)))
      LICENSE_UNAVAILABLE
    requireSameOrUnboundAndroidDevice prims row request
    return (.bindDevice, row.entitlementId)

/-- The exhausted entitlement that a new card may replace. -/
def newCardTarget (pairId : Bytes) : Statement (Option EntitlementRow) := do
  let existing ← entitlementByPairId pairId
  match existing with
  | none => return none
  | some row =>
    require (row.status = .exhausted ∧ row.remainingSeconds = 0 ∧
        row.totalConsumedSeconds = row.totalCreditedSeconds)
      (.service "activation_entitlement_already_exists" 409)
    return some row

/-- The mode and the target of the challenge for a new card. -/
def newCardActivationTarget : Statement (ActivationMode × Bytes) := do
  let existing ← newCardTarget request.pairId
  match existing with
  | none => return (.activate, [])
  | some row =>
    requireSameOrUnboundAndroidDevice prims row request
    return (.reactivate, row.entitlementId)

def challengeTarget (now : Nat) : Statement (ActivationMode × Bytes) := do
  let chosen ← activationTarget prims request now
  if chosen.1 = .activate then newCardActivationTarget prims request else return chosen

def newChallenge (target : ActivationMode × Bytes) (now : Nat) : ActivationChallengeRow :=
  { request with
    status := .issued
    expiresAtEpoch := now + ACTIVATION_CHALLENGE_TTL_SECONDS
    activationMode := target.1
    targetEntitlementId := target.2 }

/-- What the hash of a request is about. -/
def samePayload (old : ActivationChallengeRow) : Bool :=
  old == { request with
    challengeId := old.challengeId
    tokenDigest := old.tokenDigest
    hostIdentityPublicKeyB64 := old.hostIdentityPublicKeyB64
    androidIdentityPublicKeyB64 := old.androidIdentityPublicKeyB64
    status := old.status
    expiresAtEpoch := old.expiresAtEpoch }

/-- A request that was answered before is answered again as long as its challenge is open. -/
def requireReusable (now : Nat) (old : ActivationChallengeRow) : Statement Unit := do
  require (samePayload request old = true) (.service "activation_request_conflict" 409)
  require (old.status = .issued ∧ now < old.expiresAtEpoch)
    (.service "activation_request_not_reusable" 409)

/-- Earlier challenges expire first. -/
def createChallengeTransaction (now : Nat) : Statement ActivationChallengeRow := do
  requireSupportedClientVersions settings request
  expireChallengesWhere (fun row => decide (row.expiresAtEpoch ≤ now))
  let target ← challengeTarget prims request now
  let row := newChallenge request target now
  let existing ← challengeByRequest request.requestId
  match existing with
  | some old =>
    requireReusable row now old
    return old
  | none =>
    recast (fun error =>
        if error = .integrityError then .service "activation_already_in_progress" 409 else error)
      (createChallenge row)
    return row

end CardService

end VisionForge.Server
