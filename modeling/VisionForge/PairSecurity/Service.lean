import VisionForge.Server.System

/-! # The security states of device pairs

Every pair of devices that was bound to an entitlement has a row of its own, which is
never deleted. Triggers keep the identity of a row, the order of its clock and the
transitions between its states. The rows refer to entitlements and bindings that are
never deleted either, so the foreign keys are left out.
-/

namespace VisionForge.PairSecurity

open Lib.Ascii Lib.Table Lib.Transaction Server UsageRepository

inductive AssuranceState where
  | legacyBlocked
  | pending
  | active
  | rotated
  | revoked
  | recoveryPending
  deriving DecidableEq

structure PairSecurityRow where
  pairId : Bytes
  entitlementId : Bytes
  bindingId : Bytes
  bindingRevision : Nat
  revocationVersion : Nat
  hostKeySha256 : Bytes
  androidKeySha256 : Bytes
  assuranceState : AssuranceState := .pending
  generationHighWater : Nat := 0
  predecessorPairId : Option Bytes := none
  createdAtEpoch : Nat
  updatedAtEpoch : Nat
  deriving DecidableEq

structure PairSecurityRow.Checks (row : PairSecurityRow) : Prop where
  pairId : 1 ≤ row.pairId.length ∧ row.pairId.length ≤ 128
  revisions : 1 ≤ row.bindingRevision ∧ 1 ≤ row.revocationVersion
  hashes : isLowerHex row.hostKeySha256 64 = true ∧ isLowerHex row.androidKeySha256 64 = true ∧
    row.hostKeySha256 ≠ row.androidKeySha256
  predecessor : row.predecessorPairId ≠ some row.pairId
  integers : fitsInteger row.bindingRevision = true ∧ fitsInteger row.revocationVersion = true ∧
    fitsInteger row.generationHighWater = true ∧ fitsInteger row.createdAtEpoch = true ∧
    fitsInteger row.updatedAtEpoch = true

instance (row : PairSecurityRow) : Decidable row.Checks :=
  decidable_of_iff
    ((1 ≤ row.pairId.length ∧ row.pairId.length ≤ 128) ∧
      (1 ≤ row.bindingRevision ∧ 1 ≤ row.revocationVersion) ∧
      (isLowerHex row.hostKeySha256 64 = true ∧ isLowerHex row.androidKeySha256 64 = true ∧
        row.hostKeySha256 ≠ row.androidKeySha256) ∧
      row.predecessorPairId ≠ some row.pairId ∧
      fitsInteger row.bindingRevision = true ∧ fitsInteger row.revocationVersion = true ∧
      fitsInteger row.generationHighWater = true ∧ fitsInteger row.createdAtEpoch = true ∧
      fitsInteger row.updatedAtEpoch = true)
    ⟨fun ⟨a, b, c, d, e⟩ => ⟨a, b, c, d, e⟩, fun h => ⟨h.1, h.2, h.3, h.4, h.5⟩⟩

def transitionValid (old new : AssuranceState) : Bool :=
  decide (new = old) ||
    match old with
    | .legacyBlocked => [.recoveryPending, .revoked].contains new
    | .pending => [.active, .rotated, .revoked].contains new
    | .active => [.rotated, .revoked, .recoveryPending].contains new
    | .recoveryPending => [.active, .rotated, .revoked].contains new
    | .rotated | .revoked => false

def identityKept (old new : PairSecurityRow) : Bool :=
  new.pairId == old.pairId && new.entitlementId == old.entitlementId &&
    new.bindingId == old.bindingId && new.bindingRevision == old.bindingRevision &&
    (new.revocationVersion == old.revocationVersion ||
      (decide (old.assuranceState = .recoveryPending) && decide (new.assuranceState = .active) &&
        decide (old.revocationVersion < 2 ^ 63 - 1) &&
        new.revocationVersion == old.revocationVersion + 1)) &&
    new.hostKeySha256 == old.hostKeySha256 && new.androidKeySha256 == old.androidKeySha256 &&
    decide (new.predecessorPairId = old.predecessorPairId) &&
    new.createdAtEpoch == old.createdAtEpoch

def notRolledBack (old new : PairSecurityRow) : Bool :=
  decide (old.generationHighWater ≤ new.generationHighWater) &&
    decide (old.updatedAtEpoch ≤ new.updatedAtEpoch) &&
    (decide (new.generationHighWater ≤ old.generationHighWater) ||
      (decide (old.assuranceState = .active) && decide (new.assuranceState = .active)))

def updateAccepted (old new : PairSecurityRow) : Bool :=
  identityKept old new && notRolledBack old new &&
    transitionValid old.assuranceState new.assuranceState

theorem no_bindingRevisions : (([] : List PairSecurityRow).map
    (fun row => (row.entitlementId, row.bindingRevision))).Nodup := List.nodup_nil

/-- The tables of the service and the states of the pairs. -/
structure SecuredDatabase where
  tables : Database := {}
  pairs : List PairSecurityRow := []
  pairChecks : ∀ row ∈ pairs, row.Checks := by
    first | exact List.forall_mem_nil _ | simp
  pairKeys : (pairs.map PairSecurityRow.pairId).Nodup := by
    first | exact List.nodup_nil | simp
  bindingRevisions :
      (pairs.map (fun row => (row.entitlementId, row.bindingRevision))).Nodup := by
    first | exact no_bindingRevisions | simp

abbrev SecuredStatement (α : Type) := Transaction SecuredDatabase ServerException α

/-- Statements on the other tables. -/
def onTables {α : Type} (body : Statement α) : SecuredStatement α :=
  onPart SecuredDatabase.tables (fun database tables => { database with tables := tables }) body

def writePairs (rows : List PairSecurityRow) : SecuredStatement Unit := do
  let database ← get
  if holds : (∀ row ∈ rows, row.Checks) ∧ (rows.map PairSecurityRow.pairId).Nodup ∧
      (rows.map (fun row => (row.entitlementId, row.bindingRevision))).Nodup then
    set { database with
      pairs := rows
      pairChecks := holds.1
      pairKeys := holds.2.1
      bindingRevisions := holds.2.2 }
  else raise .integrityError

/-- Rewrite the selected rows, as far as the triggers let it, and count them. -/
def updatePairs (condition : PairSecurityRow → Bool) (change : PairSecurityRow → PairSecurityRow) :
    SecuredStatement Nat := do
  let database ← get
  require (∀ row ∈ database.pairs, condition row = true → updateAccepted row (change row) = true)
    .integrityError
  writePairs (update condition change database.pairs)
  return rowcount condition database.pairs

def stateRow (pairId : Bytes) : SecuredStatement (Option PairSecurityRow) := do
  return lookup PairSecurityRow.pairId pairId (← get).pairs

/-- An error of the pair-security module, as the card service passes it on. -/
def bootstrapError (code : String) : ServerException := .service code 409

/-- The repository's own errors all become this one. -/
def bootstrapConflict : ServerException := bootstrapError "pair_security_bootstrap_conflict"

structure VerifiedActivationBindingProof where
  challengeId : Bytes
  activationMode : ActivationMode
  targetEntitlementId : Bytes
  pairId : Bytes
  hostKeySha256 : Bytes
  androidKeySha256 : Bytes

def verifiedActivationBindingProof (challenge : ActivationChallengeRow) :
    SecuredStatement VerifiedActivationBindingProof := do
  require (isNonzeroLowerHex challenge.challengeId 32 = true ∧
      isNonzeroLowerHex challenge.pairId 32 = true ∧
      isNonzeroLowerHex challenge.hostKeySha256 64 = true ∧
      isNonzeroLowerHex challenge.androidKeySha256 64 = true ∧
      challenge.hostKeySha256 ≠ challenge.androidKeySha256 ∧
      (challenge.activationMode = .activate → challenge.targetEntitlementId = []) ∧
      (challenge.activationMode ≠ .activate →
        isNonzeroLowerHex challenge.targetEntitlementId 32 = true))
    (.runtimeError "pair_security_activation_proof_invalid")
  return {
    challengeId := challenge.challengeId
    activationMode := challenge.activationMode
    targetEntitlementId := challenge.targetEntitlementId
    pairId := challenge.pairId
    hostKeySha256 := challenge.hostKeySha256
    androidKeySha256 := challenge.androidKeySha256 }

/-- An entitlement and the devices it is bound to. -/
structure LiveBinding where
  entitlement : EntitlementRow
  binding : DeviceBindingRow

def liveBindings (database : Database) (entitlementId : Bytes) : List LiveBinding :=
  (database.entitlements.filter (fun row => row.entitlementId == entitlementId)).flatMap (fun row =>
    (database.deviceBindings.filter (fun binding =>
      binding.entitlementId == entitlementId && binding.isCurrent)).map (fun binding =>
        ⟨row, binding⟩))

def liveBinding (entitlementId : Bytes) : SecuredStatement LiveBinding := do
  let database ← get
  match liveBindings database.tables entitlementId with
  | [live] => do
      require (live.entitlement.status = .active)
        (bootstrapError "pair_security_bootstrap_live_binding_invalid")
      return live
  | _ => raise (bootstrapError "pair_security_bootstrap_live_binding_invalid")

def requireProofMatchesLiveBinding (live : LiveBinding) (proof : VerifiedActivationBindingProof) :
    SecuredStatement Unit :=
  require (live.entitlement.pairId = proof.pairId ∧ live.binding.pairId = proof.pairId ∧
      live.binding.hostKeySha256 = proof.hostKeySha256 ∧
      live.binding.androidKeySha256 = proof.androidKeySha256)
    (bootstrapError "pair_security_bootstrap_binding_mismatch")

/-- The pairs of an entitlement, the latest binding first. -/
def entitlementStates (database : SecuredDatabase) (entitlementId : Bytes) : List PairSecurityRow :=
  (database.pairs.filter (fun row => row.entitlementId == entitlementId)).insertionSort
    (fun first second => second.bindingRevision ≤ first.bindingRevision)

variable (state : PairSecurityRow)

def requireStateMatchesLive (live : LiveBinding) : SecuredStatement Unit :=
  require (state.bindingId = live.binding.bindingId ∧
      state.revocationVersion = live.entitlement.revocationVersion ∧
      state.hostKeySha256 = live.binding.hostKeySha256 ∧
      state.androidKeySha256 = live.binding.androidKeySha256)
    (bootstrapError "pair_security_bootstrap_state_mismatch")

def predecessorForNewBinding (activationMode : ActivationMode) (states : List PairSecurityRow) :
    SecuredStatement (Option PairSecurityRow) :=
  match activationMode, states with
  | .activate, [] => pure none
  | .activate, _ :: _ => raise (bootstrapError "pair_security_bootstrap_unexpected_predecessor")
  | .bindDevice, latest :: _ => pure (some latest)
  | .bindDevice, [] | .reactivate, _ =>
    raise (bootstrapError "pair_security_bootstrap_predecessor_missing")

def requiredState (pairId : Bytes) : SecuredStatement PairSecurityRow := do
  let found ← stateRow pairId
  unwrap found bootstrapConflict

/-- The row is as it was read. -/
def asRead (row : PairSecurityRow) : Bool :=
  row.pairId == state.pairId && decide (row.assuranceState = state.assuranceState) &&
    row.bindingRevision == state.bindingRevision &&
    row.revocationVersion == state.revocationVersion &&
    row.generationHighWater == state.generationHighWater

def transitionState (target : AssuranceState) (now : Nat) :
    SecuredStatement PairSecurityRow := do
  let count ← updatePairs (asRead state) (fun row =>
    { row with assuranceState := target, updatedAtEpoch := max now state.updatedAtEpoch })
  require (count = 1) (bootstrapError "pair_security_bootstrap_transition_cas_failed")
  requiredState state.pairId

/-- A pair that an older schema blocked is suspended before anything else. -/
def unblock (now : Nat) : SecuredStatement PairSecurityRow :=
  if state.assuranceState = .legacyBlocked then transitionState state .recoveryPending now
  else pure state

def activateExistingState (now : Nat) :
    SecuredStatement PairSecurityRow := do
  if state.assuranceState = .active then return state
  else
    let current ← unblock state now
    require (current.assuranceState = .pending ∨ current.assuranceState = .recoveryPending)
      (bootstrapError "pair_security_bootstrap_state_not_activatable")
    transitionState current .active now

def transitionToRecovery (now : Nat) :
    SecuredStatement PairSecurityRow := do
  if state.assuranceState = .recoveryPending then return state
  else
    require (state.assuranceState = .active ∨ state.assuranceState = .legacyBlocked)
      (bootstrapError "pair_security_bootstrap_recovery_not_allowed")
    transitionState state .recoveryPending now

def rotatePredecessor (now : Nat) : SecuredStatement PairSecurityRow := do
  if state.assuranceState = .rotated ∨ state.assuranceState = .revoked then return state
  else
    let current ← unblock state now
    require (current.assuranceState = .active ∨ current.assuranceState = .pending ∨
        current.assuranceState = .recoveryPending)
      (bootstrapError "pair_security_bootstrap_predecessor_not_rotatable")
    transitionState current .rotated now

def commitReactivation (current : Option PairSecurityRow) (live : LiveBinding) (now : Nat) :
    SecuredStatement PairSecurityRow := do
  let state ← unwrap current
    (bootstrapError "pair_security_bootstrap_reactivation_state_missing")
  require (state.bindingId = live.binding.bindingId ∧
      state.hostKeySha256 = live.binding.hostKeySha256 ∧
      state.androidKeySha256 = live.binding.androidKeySha256)
    (bootstrapError "pair_security_bootstrap_reactivation_binding_mismatch")
  require (live.entitlement.revocationVersion = state.revocationVersion + 1)
    (bootstrapError "pair_security_bootstrap_reactivation_revision_invalid")
  let recovery ← transitionToRecovery state now
  let count ← updatePairs (fun row => row.pairId == recovery.pairId &&
      decide (row.assuranceState = .recoveryPending) &&
      row.revocationVersion == recovery.revocationVersion &&
      row.generationHighWater == recovery.generationHighWater)
    (fun row => { row with
      assuranceState := .active
      revocationVersion := live.entitlement.revocationVersion
      updatedAtEpoch := max now recovery.updatedAtEpoch })
  require (count = 1) (bootstrapError "pair_security_bootstrap_reactivation_cas_failed")
  requiredState recovery.pairId

structure PairIdentity where
  pairId : Bytes
  entitlementId : Bytes
  bindingId : Bytes
  revocationVersion : Nat
  hostKeySha256 : Bytes
  androidKeySha256 : Bytes

def isIdentifier (value : Bytes) : Bool :=
  (decodeStr value).any (fun text =>
    strip text == text && !text.isEmpty && decide (text.length ≤ 128))

variable (identity : PairIdentity)

def PairIdentity.normalized : Bool :=
  isNonzeroLowerHex identity.hostKeySha256 64 && isNonzeroLowerHex identity.androidKeySha256 64 &&
    identity.hostKeySha256 != identity.androidKeySha256 && isIdentifier identity.pairId &&
    isIdentifier identity.entitlementId && isIdentifier identity.bindingId &&
    decide (1 ≤ identity.revocationVersion) && fitsInteger identity.revocationVersion

def isLiveBinding (database : Database) (identity : PairIdentity) : Bool :=
  database.entitlements.any (fun row => row.entitlementId == identity.entitlementId &&
    decide (row.status = .active) && row.revocationVersion == identity.revocationVersion) &&
  (database.deviceBindings.find? (fun binding =>
      binding.entitlementId == identity.entitlementId &&
        binding.bindingId == identity.bindingId)).any (fun binding =>
    binding.isCurrent && binding.pairId == identity.pairId &&
      binding.hostKeySha256 == identity.hostKeySha256 &&
      binding.androidKeySha256 == identity.androidKeySha256)

def requireLiveBinding : SecuredStatement Unit := do
  let database ← get
  require (isLiveBinding database.tables identity = true) bootstrapConflict

def exactPendingRetry (predecessorPairId : Option Bytes) (row : PairSecurityRow) : Bool :=
  row.entitlementId == identity.entitlementId && row.bindingId == identity.bindingId &&
    row.revocationVersion == identity.revocationVersion &&
    row.hostKeySha256 == identity.hostKeySha256 &&
    row.androidKeySha256 == identity.androidKeySha256 &&
    decide (row.assuranceState = .pending) && decide (row.predecessorPairId = predecessorPairId)

/-- The highest revision of an entitlement's bindings. -/
def highestBindingRevision (database : SecuredDatabase) (entitlementId : Bytes) : Nat :=
  ((database.pairs.filter (fun row => row.entitlementId == entitlementId)).map
    PairSecurityRow.bindingRevision).foldr max 0

def registerPending (predecessorPairId : Option Bytes) (now : Nat) :
    SecuredStatement PairSecurityRow := do
  let existing ← stateRow identity.pairId
  match existing with
  | some row => do
      require (exactPendingRetry identity predecessorPairId row = true) bootstrapConflict
      requireLiveBinding identity
      return row
  | none => do
      requireLiveBinding identity
      let database ← get
      let highWater := highestBindingRevision database identity.entitlementId
      require (highWater < 2 ^ 63 - 1) bootstrapConflict
      recast (fun error => if error = .integrityError then bootstrapConflict else error)
        (writePairs (database.pairs ++ [
          { pairId := identity.pairId
            entitlementId := identity.entitlementId
            bindingId := identity.bindingId
            bindingRevision := highWater + 1
            revocationVersion := identity.revocationVersion
            hostKeySha256 := identity.hostKeySha256
            androidKeySha256 := identity.androidKeySha256
            predecessorPairId := predecessorPairId
            createdAtEpoch := now
            updatedAtEpoch := now }]))
      requiredState identity.pairId

def rotateOut (predecessor : Option PairSecurityRow) (now : Nat) : SecuredStatement Unit :=
  match predecessor with
  | some state => (fun _ => ()) <$> rotatePredecessor state now
  | none => pure ()

/-- A pair without a state gets one; the pair before it is rotated out. -/
def commitNewBinding (proof : VerifiedActivationBindingProof) (live : LiveBinding)
    (entitlementId : Bytes) (states : List PairSecurityRow) (now : Nat) :
    SecuredStatement PairSecurityRow := do
  let predecessor ← predecessorForNewBinding proof.activationMode states
  rotateOut predecessor now
  let identity : PairIdentity :=
    { pairId := proof.pairId
      entitlementId := entitlementId
      bindingId := live.binding.bindingId
      revocationVersion := live.entitlement.revocationVersion
      hostKeySha256 := proof.hostKeySha256
      androidKeySha256 := proof.androidKeySha256 }
  require (identity.normalized = true) bootstrapConflict
  let pending ← registerPending identity (predecessor.map PairSecurityRow.pairId) now
  activateExistingState pending now

/-- The state of the pair after both devices have proved themselves. -/
def commitVerifiedBinding (proof : VerifiedActivationBindingProof) (entitlementId : Bytes)
    (now : Nat) : SecuredStatement PairSecurityRow := do
  require (isNonzeroLowerHex entitlementId 32 = true ∧ 1 ≤ now ∧ fitsInteger now = true)
    (bootstrapError "pair_security_bootstrap_input_invalid")
  require (proof.activationMode = .activate ∨ proof.targetEntitlementId = entitlementId)
    (bootstrapError "pair_security_bootstrap_entitlement_mismatch")
  let live ← liveBinding entitlementId
  requireProofMatchesLiveBinding live proof
  let database ← get
  let states := entitlementStates database entitlementId
  let current := states.find? (fun state => state.pairId == proof.pairId)
  if proof.activationMode = .reactivate then commitReactivation current live now
  else
    match current with
    | some state => do
        requireStateMatchesLive state live
        activateExistingState state now
    | none => commitNewBinding proof live entitlementId states now

/-! ## The service with the states of its pairs

Confirming an activation, revoking an entitlement and unbinding its devices also change
the states of pairs, in the middle of their transactions. Every other request leaves
these states alone. Requests are those of the service; the outcome of pair security that
some of them carry is not read here but found out.
-/

open LicenseRepository

section

variable (settings : DualMachineSettings) (prims : ServicePrimitives)

def verifyConfirmation (command : ConfirmCommand) (now : Nat) :
    SecuredStatement (ActivationChallengeRow × VerifiedActivationBindingProof) := do
  let challenge ← onTables (CardService.confirmActivationChecks settings prims command now)
  let proof ← verifiedActivationBindingProof challenge
  return (challenge, proof)

/-- The part of a confirmed credit before its pair is secured. -/
def creditCard (challenge : ActivationChallengeRow) (ids : ActivationIds) (now : Nat) :
    Statement (LicenseCodeRow × Bytes) := do
  let found ← codeForActivationById challenge.licenseCodeId
  let card ← unwrap (found.filter (cardIsAvailable now)) LICENSE_UNAVAILABLE
  let entitlementId ← recast CardService.identityConflict
    (CardService.creditEntitlement prims challenge card ids)
  return (card, entitlementId)

def recordCredit (challenge : ActivationChallengeRow) (ids : ActivationIds) (now : Nat)
    (card : LicenseCodeRow) (entitlementId : Bytes) : Statement ActivationResponse := do
  let consumedCode ← consumeCode card.id now
  require (consumedCode = true) LICENSE_UNAVAILABLE
  let consumedChallenge ← consumeChallenge challenge.challengeId now
  require (consumedChallenge = true) (.service "activation_challenge_invalid" 409)
  createActivation
    { activationId := ids.activationId
      licenseCodeId := card.id
      entitlementId := entitlementId
      challengeId := challenge.challengeId
      creditedSeconds := creditedSeconds card }
  let activation ← activationByChallenge challenge.challengeId
  let (activation, entitlement) ← unwrap activation (.runtimeError "activation insert missing")
  return CardService.activationResponse activation entitlement challenge.activationMode

def confirmCredit (challenge : ActivationChallengeRow) (proof : VerifiedActivationBindingProof)
    (ids : ActivationIds) (now : Nat) : SecuredStatement ActivationResponse := do
  let (card, entitlementId) ← onTables (creditCard prims challenge ids now)
  let _ ← commitVerifiedBinding proof entitlementId now
  onTables (recordCredit challenge ids now card entitlementId)

/-- The part of a confirmed binding before its pair is secured. -/
def rebindDevices (challenge : ActivationChallengeRow) (ids : ActivationIds) :
    Statement LicenseActivationRow := do
  let found ← entitlementById challenge.targetEntitlementId
  let activation ← activationByCodeId challenge.licenseCodeId
  let row ← unwrap (found.filter (fun row => decide (row.status ≠ .revoked))) LICENSE_UNAVAILABLE
  let (activation, _) ← unwrap (activation.filter (fun pair =>
    pair.1.entitlementId == challenge.targetEntitlementId)) LICENSE_UNAVAILABLE
  CardService.requireSameOrUnboundAndroidDevice prims row challenge
  recast CardService.identityConflict (rebindEntitlement
    (bindingFromChallenge challenge challenge.targetEntitlementId ids.bindingId))
  return activation

def recordBinding (challenge : ActivationChallengeRow) (now : Nat)
    (activation : LicenseActivationRow) : Statement ActivationResponse := do
  let consumed ← consumeChallenge challenge.challengeId now
  require (consumed = true) (.service "activation_challenge_invalid" 409)
  expireStartChallengesWhere (fun row => row.entitlementId == challenge.targetEntitlementId)
  endSessionsOf challenge.targetEntitlementId .ended now "device_rebound"
  let after ← entitlementById challenge.targetEntitlementId
  let row ← unwrap after (.runtimeError "rebound entitlement missing")
  return CardService.bindingResponse row activation

def confirmDeviceBinding (challenge : ActivationChallengeRow)
    (proof : VerifiedActivationBindingProof) (ids : ActivationIds) (now : Nat) :
    SecuredStatement ActivationResponse := do
  let activation ← onTables (rebindDevices prims challenge ids)
  let _ ← commitVerifiedBinding proof challenge.targetEntitlementId now
  onTables (recordBinding challenge now activation)

def confirmActivationTransaction (command : ConfirmCommand) (ids : ActivationIds) (now : Nat) :
    SecuredStatement ActivationResponse := do
  let (challenge, proof) ← verifyConfirmation settings prims command now
  if challenge.status = .consumed then onTables (CardService.confirmationReplay challenge)
  else if challenge.activationMode = .bindDevice then
    confirmDeviceBinding prims challenge proof ids now
  else confirmCredit prims challenge proof ids now

/-- `seen` is the database of the checks before the transaction. -/
def confirmActivation (seen : Database) (command : ConfirmCommand) (ids : ActivationIds)
    (now : Nat) : SecuredStatement ActivationResponse := do
  let _ ← reading { tables := seen } (verifyConfirmation settings prims command now)
  confirmActivationTransaction settings prims command ids now

end

/-- The states that a revocation ends. -/
def AssuranceState.isRevocable : AssuranceState → Bool
  | .legacyBlocked | .pending | .active | .recoveryPending => true
  | .rotated | .revoked => false

def revokePair (entitlementId pairId : Bytes) (now : Nat) : SecuredStatement Unit := do
  let count ← updatePairs (fun row => row.entitlementId == entitlementId &&
      row.pairId == pairId && row.assuranceState.isRevocable)
    (fun row => { row with assuranceState := .revoked, updatedAtEpoch := now })
  require (count = 1) (.service "pair_security_revoke_state_invalid" 409)

/-- The part of a revocation before the pair is revoked. -/
def revokeTables (entitlementId : Bytes) (now : Nat) : Statement Unit := do
  AdminService.updateEntitlement entitlementId AdminService.revoked
  endSessionsOf entitlementId .revoked now "entitlement_revoked"

def recordRevocation (entitlementId : Bytes) (row : EntitlementRow) :
    Statement AdminService.RevokeResponse := do
  AdminService.expireChallengesOf entitlementId
  let updated ← AdminService.requireEntitlement entitlementId
  return {
    entitlementId := entitlementId
    status := updated.status
    revocationVersion := updated.revocationVersion
    changed := decide (row.status ≠ .revoked) }

def revokeEntitlement (entitlementId : Bytes) (now : Nat) :
    SecuredStatement AdminService.RevokeResponse := do
  let row ← onTables (AdminService.requireEntitlement entitlementId)
  if row.status ≠ .revoked then
    onTables (revokeTables entitlementId now)
    revokePair entitlementId row.pairId now
  onTables (recordRevocation entitlementId row)

/-- The part of an unbinding before the pair is suspended. -/
def clearDevices (entitlementId bindingId : Bytes) : Statement Unit := do
  let _ ← AdminService.requireEntitlement entitlementId
  let database ← get
  let binding ← unwrap
    (database.deviceBindings.find? (fun row =>
      row.entitlementId = entitlementId ∧ row.bindingId = bindingId))
    (.service "dual_machine_device_binding_not_found" 404)
  require (binding.isCurrent = true) (.service "dual_machine_device_binding_not_current" 409)
  AdminService.clearBinding entitlementId bindingId

def suspendPair (entitlementId bindingId : Bytes) (now : Nat) : SecuredStatement Unit := do
  let database ← get
  let state ← unwrap (database.pairs.find? (fun row =>
      row.entitlementId == entitlementId && row.bindingId == bindingId))
    (.service "pair_security_unbind_state_invalid" 409)
  if state.assuranceState = .active ∨ state.assuranceState = .legacyBlocked then
    let count ← updatePairs (fun row => row.pairId == state.pairId &&
        decide (row.assuranceState = state.assuranceState))
      (fun row => { row with
        assuranceState := .recoveryPending
        updatedAtEpoch := max now state.updatedAtEpoch })
    require (count = 1) (.service "pair_security_unbind_state_invalid" 409)
  else
    require (state.assuranceState = .recoveryPending ∨ state.assuranceState = .revoked)
      (.service "pair_security_unbind_state_invalid" 409)

def recordUnbinding (entitlementId pairId : Bytes) (now : Nat) :
    Statement AdminService.RevokeResponse := do
  AdminService.updateEntitlement entitlementId (AdminService.unbound pairId)
  endSessionsOf entitlementId .ended now "admin_device_unbound"
  AdminService.expireChallengesOf entitlementId
  let updated ← AdminService.requireEntitlement entitlementId
  return {
    entitlementId := entitlementId
    status := updated.status
    revocationVersion := updated.revocationVersion
    changed := true }

def unbindEntitlementDevice (entitlementId bindingId pairId : Bytes) (now : Nat) :
    SecuredStatement AdminService.RevokeResponse := do
  onTables (clearDevices entitlementId bindingId)
  suspendPair entitlementId bindingId now
  onTables (recordUnbinding entitlementId pairId now)

section

variable (service : UsageService) (prims : ServicePrimitives)

def securedBody : ServerOp → SecuredStatement ServerReply
  | .confirmActivation seen command ids _ now =>
    .activation <$> confirmActivation service.settings prims seen command ids now
  | .revokeEntitlement entitlementId _ now => .revoked <$> revokeEntitlement entitlementId now
  | .unbindEntitlementDevice entitlementId bindingId pairId _ now =>
    .revoked <$> unbindEntitlementDevice entitlementId bindingId pairId now
  | op => onTables (op.body service prims)

def securedStep (database : SecuredDatabase) (op : ServerOp) : SecuredDatabase × ServerAnswer :=
  match op with
  | .heartbeatUsage .. => transact (securedBody service prims op) database
  | _ => atomically (securedBody service prims op) database

end

end VisionForge.PairSecurity
