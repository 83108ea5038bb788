import VisionForge.Server.CardService

/-! # Administering entitlements

Revoking, restoring and unbinding entitlements, revoking those of a batch, and the
summary of one. As for cards, whether the state of pair security lets an operation
pass is an argument, and the answers are given without `pair_assurance_state`.
-/

namespace VisionForge.Server.AdminService

open Lib.Ascii Lib.Table Lib.Transaction LicenseRepository UsageRepository

structure RevokeResponse where
  entitlementId : Bytes
  status : EntitlementStatus
  revocationVersion : Nat
  changed : Bool
  deriving DecidableEq

structure RestoreResponse where
  entitlementId : Bytes
  status : EntitlementStatus
  revocationVersion : Nat
  remainingSeconds : Nat
  totalCreditedSeconds : Nat
  totalConsumedSeconds : Nat
  deriving DecidableEq

variable (entId : Bytes)

def updateEntitlement (change : EntitlementRow → EntitlementRow) :
    Statement Unit := do
  let database ← get
  writeEntitlements
    (update (fun row => row.entitlementId == entId) change database.entitlements)

def revoked (row : EntitlementRow) : EntitlementRow :=
  { row with status := .revoked, revocationVersion := row.revocationVersion + 1 }

def expireChallengesOf : Statement Unit := do
  expireStartChallengesWhere (fun row => row.entitlementId == entId)
  expireChallengesWhere (fun row => row.targetEntitlementId == entId)

def requireEntitlement : Statement EntitlementRow := do
  let found ← entitlementById entId
  unwrap found (.service "dual_machine_entitlement_not_found" 404)

def revokeEntitlement (pairSecurity : Option ServerException) (now : Nat) :
    Statement RevokeResponse := do
  let row ← requireEntitlement entId
  if row.status ≠ .revoked then
    updateEntitlement entId revoked
    endSessionsOf entId .revoked now "entitlement_revoked"
    CardService.commitPairSecurityBinding pairSecurity
  expireChallengesOf entId
  let updated ← requireEntitlement entId
  return {
    entitlementId := entId
    status := updated.status
    revocationVersion := updated.revocationVersion
    changed := decide (row.status ≠ .revoked) }

def restored (row : EntitlementRow) : EntitlementRow :=
  { row with
    status := if row.authorizationKind = .permanent ∨ 0 < row.remainingSeconds then .active
      else .exhausted
    revocationVersion := row.revocationVersion + 1 }

/-- The card an entitlement was last credited with is activated and its batch is active. -/
def sourceAvailable (database : Database) (row : EntitlementRow) : Bool :=
  (row.sourceLicenseCodeId.bind (fun id => lookup LicenseCodeRow.id id database.licenseCodes)).any
    (fun card => decide (card.status = .activated) && card.batchActive)

def restoreEntitlement : Statement RestoreResponse := do
  let row ← requireEntitlement entId
  let database ← get
  require (row.status = .revoked) (.service "dual_machine_entitlement_not_revoked" 409)
  require (sourceAvailable database row = true)
    (.service "dual_machine_entitlement_source_unavailable" 409)
  updateEntitlement entId restored
  let updated ← requireEntitlement entId
  return {
    entitlementId := entId
    status := updated.status
    revocationVersion := updated.revocationVersion
    remainingSeconds := updated.remainingSeconds
    totalCreditedSeconds := updated.totalCreditedSeconds
    totalConsumedSeconds := updated.totalConsumedSeconds }

/-- An entitlement that no devices hold; `pairId` is drawn at random. -/
def unbound (pairId : Bytes) (row : EntitlementRow) : EntitlementRow :=
  { row with
    pairId := pairId
    hostIdentityPublicKeyB64 := []
    androidIdentityPublicKeyB64 := []
    revocationVersion := row.revocationVersion + 1 }

def clearBinding (bindingId : Bytes) : Statement Unit := do
  let database ← get
  set { database with
    deviceBindings := update
      (fun row => row.entitlementId == entId && row.bindingId == bindingId)
      (fun row => { row with isCurrent := false }) database.deviceBindings }

def unbindEntitlementDevice (bindingId pairId : Bytes) (pairSecurity : Option ServerException)
    (now : Nat) : Statement RevokeResponse := do
  let _ ← requireEntitlement entId
  let database ← get
  let binding ← unwrap
    (database.deviceBindings.find? (fun row =>
      row.entitlementId = entId ∧ row.bindingId = bindingId))
    (.service "dual_machine_device_binding_not_found" 404)
  require (binding.isCurrent = true) (.service "dual_machine_device_binding_not_current" 409)
  clearBinding entId bindingId
  CardService.commitPairSecurityBinding pairSecurity
  updateEntitlement entId (unbound pairId)
  endSessionsOf entId .ended now "admin_device_unbound"
  expireChallengesOf entId
  let updated ← requireEntitlement entId
  return {
    entitlementId := entId
    status := updated.status
    revocationVersion := updated.revocationVersion
    changed := true }

/-- The entitlements that were last credited with a card of a batch, or that have no source and
    were once credited with one. -/
def batchEntitlements (database : Database) (batchId : Nat) : List EntitlementRow :=
  let inBatch := fun (id : Nat) =>
    (lookup LicenseCodeRow.id id database.licenseCodes).any (fun card => card.batchId == batchId)
  database.entitlements.filter (fun row =>
    match row.sourceLicenseCodeId with
    | some id => inBatch id
    | none => database.licenseActivations.any (fun activation =>
      activation.entitlementId == row.entitlementId && inBatch activation.licenseCodeId))

def revokeBatchEntitlement (now : Nat) (row : EntitlementRow) : Statement Unit := do
  expireChallengesWhere (fun challenge => challenge.targetEntitlementId == row.entitlementId)
  if row.status ≠ .revoked then
    updateEntitlement row.entitlementId revoked
  endSessionsOf row.entitlementId .revoked now "license_batch_revoked"
  expireStartChallengesWhere (fun challenge => challenge.entitlementId == row.entitlementId)

def revokeEach (now : Nat) : List EntitlementRow → Statement Unit
  | [] => pure ()
  | row :: rows => do
      revokeBatchEntitlement now row
      revokeEach now rows

/-- Cards of the batch that are issued are revoked; the batch is not active any more. -/
def revokeBatch (batchId : Nat) (revokeActivatedEntitlements : Bool) (now : Nat) :
    Statement Unit := do
  let database ← get
  expireChallengesWhere (fun row =>
    (lookup LicenseCodeRow.id row.licenseCodeId database.licenseCodes).any (fun card =>
      card.batchId == batchId && decide (card.status ≠ .activated)))
  let expired ← get
  set { expired with
    licenseCodes := update (fun card =>
        card.batchId == batchId && decide (card.status = CodeStatus.issued) && !card.deleted)
      (fun card => { card with status := .revoked }) expired.licenseCodes }
  if revokeActivatedEntitlements then
    let current ← get
    revokeEach now (batchEntitlements current batchId)
  let revokedCards ← get
  set { revokedCards with
    licenseCodes := update (fun card => card.batchId == batchId)
      (fun card => { card with batchActive := false }) revokedCards.licenseCodes }

/-- A summary ends the sessions whose lease has expired. -/
def entitlementSummary (now : Nat) : Statement EntitlementRow := do
  let _ ← expireStaleSessions entId now
  requireEntitlement entId

end VisionForge.Server.AdminService
