import VisionForge.Server.CardService

/-! # Administering card codes

A code is issued, activated, revoked or expired, and it may be archived in any of these.
Both the administration of one code and that of its batch write these columns, and a flag
beside each says which of them did. The entitlements that a revoked batch may take with
it are not part of the stock.
-/

namespace VisionForge.Server.CodeLifecycle

open Lib.Ascii Lib.Table Lib.Transaction UsageRepository

inductive BatchStatus where
  | active
  | revoked
  deriving DecidableEq

structure LicenseBatch where
  id : Nat
  note : Str := []
  expiresAtEpoch : Option Nat := none
  status : BatchStatus := .active
  revokedAt : Option Nat := none
  revokeReason : Str := []
  deletedAt : Option Nat := none
  deleteReason : Str := []
  deriving DecidableEq

structure LicenseCode where
  id : Nat
  batchId : Nat
  status : CodeStatus := .issued
  expiresAtEpoch : Option Nat := none
  adminNote : Str := []
  activatedAtEpoch : Option Nat := none
  revokedAt : Option Nat := none
  revokeReason : Str := []
  revokedByBatch : Bool := false
  deletedAt : Option Nat := none
  deleteReason : Str := []
  deletedByBatch : Bool := false
  deriving DecidableEq

def LicenseCode.Checks (code : LicenseCode) : Prop :=
  code.status = .activated ↔ code.activatedAtEpoch.isSome = true

instance (code : LicenseCode) : Decidable code.Checks :=
  inferInstanceAs (Decidable (_ ↔ _))

structure StockDatabase where
  batches : List LicenseBatch := []
  codes : List LicenseCode := []
  challenges : List ActivationChallengeRow := []
  batchKeys : (batches.map LicenseBatch.id).Nodup := by simp
  codeKeys : (codes.map LicenseCode.id).Nodup := by simp
  codeChecks : ∀ code ∈ codes, code.Checks := by simp

abbrev StockStatement (α : Type) := Transaction StockDatabase ServerException α

def writeBatches (rows : List LicenseBatch) : StockStatement Unit := do
  let database ← get
  if holds : (rows.map LicenseBatch.id).Nodup then
    set { database with batches := rows, batchKeys := holds }
  else raise .integrityError

def writeCodes (rows : List LicenseCode) : StockStatement Unit := do
  let database ← get
  if holds : (rows.map LicenseCode.id).Nodup ∧ ∀ code ∈ rows, code.Checks then
    set { database with codes := rows, codeKeys := holds.1, codeChecks := holds.2 }
  else raise .integrityError

def updateBatches (batchId : Nat) (change : LicenseBatch → LicenseBatch) : StockStatement Unit := do
  let database ← get
  writeBatches (update (fun row => row.id == batchId) change database.batches)

def updateCodes (condition : LicenseCode → Bool) (change : LicenseCode → LicenseCode) :
    StockStatement Nat := do
  let database ← get
  writeCodes (update condition change database.codes)
  return rowcount condition database.codes

def isUnexpired (now : Nat) (code : LicenseCode) : Bool := code.expiresAtEpoch.all (now < ·)

/-- The code takes an expiry, and is issued again if the old one had passed. -/
def rescheduled (expiresAtEpoch : Option Nat) (code : LicenseCode) : LicenseCode :=
  { code with
    expiresAtEpoch := expiresAtEpoch
    status := if code.status = .expired then .issued else code.status }

def revoked (reason : Str) (byBatch : Bool) (now : Nat) (code : LicenseCode) : LicenseCode :=
  { code with
    status := .revoked
    revokedAt := some now
    revokeReason := reason
    revokedByBatch := byBatch }

def restored (code : LicenseCode) : LicenseCode :=
  { code with
    status := .issued
    revokedAt := none
    revokeReason := []
    revokedByBatch := false }

/-- An archived code is not left issued. -/
def archived (reason : Str) (byBatch : Bool) (now : Nat) (code : LicenseCode) : LicenseCode :=
  { (if code.status = .issued then revoked reason byBatch now code else code) with
    deletedAt := some now
    deleteReason := reason
    deletedByBatch := byBatch }

def unarchived (code : LicenseCode) : LicenseCode :=
  { code with
    deletedAt := none
    deleteReason := []
    deletedByBatch := false }

def requirePositiveId (id : Nat) : StockStatement Unit :=
  require (0 < id) (.valueError "id must be positive")

def safeReason (reason : Str) : StockStatement Str := do
  require (2 ≤ (strip reason).length ∧ (strip reason).length ≤ 200)
    (.valueError "reason must contain 2 to 200 characters")
  return strip reason

def safeNote (note : Str) : StockStatement Str := do
  require ((strip note).length ≤ 500) (.valueError "note must contain at most 500 characters")
  return strip note

def MAX_CODE_EXPIRY_SECONDS : Nat := 10 * 365 * 24 * 60 * 60

def requireExpiry (expiresAtEpoch : Option Nat) (now : Nat) : StockStatement Unit :=
  require (expiresAtEpoch.all (fun expiry =>
      decide (now < expiry) && decide (expiry ≤ now + MAX_CODE_EXPIRY_SECONDS)) = true)
    (.valueError "expires_at_epoch is invalid")

def batchRow (batchId : Nat) : StockStatement LicenseBatch := do
  let database ← get
  unwrap (lookup LicenseBatch.id batchId database.batches)
    (.service "dual_machine_batch_not_found" 404)

def codeRow (codeId : Nat) : StockStatement LicenseCode := do
  let database ← get
  unwrap (lookup LicenseCode.id codeId database.codes) (.service "dual_machine_code_not_found" 404)

def requireNotDeleted (deletedAt : Option Nat) (subject : String) : StockStatement Unit :=
  require (deletedAt = none) (.service ("dual_machine_" ++ subject ++ "_archived") 409)

def requireNotActivated (code : LicenseCode) : StockStatement Unit :=
  require (code.status ≠ .activated) (.service "dual_machine_code_already_activated" 409)

/-- Challenges that are issued and satisfy a condition expire. -/
def invalidateActivationChallenges (condition : ActivationChallengeRow → Bool) :
    StockStatement Nat := do
  let database ← get
  let selected := fun (row : ActivationChallengeRow) =>
    decide (row.status = .issued) && condition row
  set { database with
    challenges := update selected (fun row => { row with status := .expired }) database.challenges }
  return rowcount selected database.challenges

def ofCode (codeId : Nat) (row : ActivationChallengeRow) : Bool := row.licenseCodeId == codeId

/-- The challenge is for a code of the batch that is not activated. -/
def ofBatch (codes : List LicenseCode) (batchId : Nat) (row : ActivationChallengeRow) : Bool :=
  codes.any (fun code => code.id == row.licenseCodeId && code.batchId == batchId &&
    decide (code.status ≠ .activated))

inductive StockReply where
  | issued (batchId : Nat)
  | consumed (done : Bool)
  | expired (codes : Nat)
  | updatedBatch (batchId : Nat) (changed : Bool) (note : Str) (expiresAtEpoch : Option Nat)
      (updatedUnusedCodes : Nat)
  | revokedCode (codeId : Nat) (changed : Bool) (invalidatedChallenges : Nat)
  | updatedCode (codeId : Nat) (changed : Bool) (status : CodeStatus) (adminNote : Str)
      (expiresAtEpoch : Option Nat) (invalidatedChallenges : Nat)
  | restoredCode (codeId : Nat)
  | deletedCode (codeId : Nat) (changed activatedHistoryPreserved : Bool)
  | unarchivedCode (codeId : Nat) (status : CodeStatus) (requiresRestore : Bool)
  | revokedBatch (batchId revokedIssuedCodes invalidatedChallenges : Nat)
  | restoredBatch (batchId : Nat) (changed : Bool) (restoredUnusedCodes : Nat)
  | deletedBatch (batchId : Nat) (changed : Bool) (archivedCodes activatedHistoryPreserved : Nat)
  | unarchivedBatch (batchId : Nat) (status : BatchStatus) (requiresRestore : Bool)
      (unarchivedCodes : Nat)
  | challenges
  deriving DecidableEq

def revokeCode (codeId : Nat) (reason : Str) (now : Nat) : StockStatement StockReply := do
  requirePositiveId codeId
  let reason ← safeReason reason
  let code ← codeRow codeId
  requireNotDeleted code.deletedAt "code"
  requireNotActivated code
  let _ ← updateCodes (fun row => row.id == codeId) (revoked reason false now)
  let invalidated ← invalidateActivationChallenges (ofCode codeId)
  return .revokedCode codeId (decide (code.status ≠ .revoked) || code.revokedByBatch) invalidated

def updateCode (codeId : Nat) (adminNote : Str) (expiresAtEpoch : Option Nat) (reason : Str)
    (now : Nat) : StockStatement StockReply := do
  requirePositiveId codeId
  let note ← safeNote adminNote
  requireExpiry expiresAtEpoch now
  let _ ← safeReason reason
  let code ← codeRow codeId
  requireNotDeleted code.deletedAt "code"
  requireNotActivated code
  let _ ← updateCodes (fun row => row.id == codeId)
    (fun row => { rescheduled expiresAtEpoch row with adminNote := note })
  let invalidated ← invalidateActivationChallenges (ofCode codeId)
  let updated ← codeRow codeId
  return .updatedCode codeId
    (decide (code.adminNote ≠ note) || decide (code.expiresAtEpoch ≠ expiresAtEpoch))
    updated.status note expiresAtEpoch invalidated

def restoreCode (codeId : Nat) (reason : Str) (now : Nat) : StockStatement StockReply := do
  requirePositiveId codeId
  let _ ← safeReason reason
  let code ← codeRow codeId
  requireNotDeleted code.deletedAt "code"
  let batch ← batchRow code.batchId
  requireNotDeleted batch.deletedAt "batch"
  require (batch.status = .active) (.service "dual_machine_batch_not_active" 409)
  require (code.status = .revoked) (.service "dual_machine_code_not_revoked" 409)
  require (isUnexpired now code = true) (.service "dual_machine_code_expired" 409)
  let _ ← updateCodes (fun row => row.id == codeId) restored
  return .restoredCode codeId

def deleteCode (codeId : Nat) (reason : Str) (now : Nat) : StockStatement StockReply := do
  requirePositiveId codeId
  let reason ← safeReason reason
  let code ← codeRow codeId
  if code.deletedAt = none then
    let _ ← updateCodes (fun row => row.id == codeId) (archived reason false now)
  if code.status ≠ .activated then
    let _ ← invalidateActivationChallenges (ofCode codeId)
  return .deletedCode codeId (decide (code.deletedAt = none)) (decide (code.status = .activated))

def unarchiveCode (codeId : Nat) (reason : Str) : StockStatement StockReply := do
  requirePositiveId codeId
  let _ ← safeReason reason
  let code ← codeRow codeId
  require (code.deletedAt ≠ none) (.service "dual_machine_code_not_archived" 409)
  let batch ← batchRow code.batchId
  require (batch.deletedAt = none) (.service "dual_machine_batch_archived" 409)
  let _ ← updateCodes (fun row => row.id == codeId) unarchived
  return .unarchivedCode codeId code.status (decide (code.status = .revoked))

def updateBatch (batchId : Nat) (note : Str) (expiresAtEpoch : Option Nat) (reason : Str)
    (now : Nat) : StockStatement StockReply := do
  requirePositiveId batchId
  let note ← safeNote note
  requireExpiry expiresAtEpoch now
  let _ ← safeReason reason
  let batch ← batchRow batchId
  requireNotDeleted batch.deletedAt "batch"
  let database ← get
  require (rowcount (fun code => code.batchId == batchId && decide (code.status = .activated))
    database.codes = 0) (.service "dual_machine_batch_has_activated_codes" 409)
  updateBatches batchId (fun row => { row with note := note, expiresAtEpoch := expiresAtEpoch })
  let updated ← updateCodes (fun code => code.batchId == batchId &&
    decide (code.status ≠ .activated) && code.deletedAt.isNone) (rescheduled expiresAtEpoch)
  return .updatedBatch batchId
    (decide (batch.note ≠ note) || decide (batch.expiresAtEpoch ≠ expiresAtEpoch))
    note expiresAtEpoch updated

def revokeBatch (batchId : Nat) (reason : Str) (now : Nat) : StockStatement StockReply := do
  requirePositiveId batchId
  let reason ← safeReason reason
  let batch ← batchRow batchId
  requireNotDeleted batch.deletedAt "batch"
  let database ← get
  let invalidated ← invalidateActivationChallenges (ofBatch database.codes batchId)
  let codes ← updateCodes (fun code => code.batchId == batchId &&
    decide (code.status = .issued) && code.deletedAt.isNone) (revoked reason true now)
  updateBatches batchId (fun row => { row with
    status := .revoked
    revokedAt := some now
    revokeReason := reason })
  return .revokedBatch batchId codes invalidated

def restoreBatch (batchId : Nat) (reason : Str) (now : Nat) : StockStatement StockReply := do
  requirePositiveId batchId
  let _ ← safeReason reason
  let batch ← batchRow batchId
  requireNotDeleted batch.deletedAt "batch"
  let codes ← updateCodes (fun code => code.batchId == batchId &&
    decide (code.status = .revoked) && code.revokedByBatch && code.deletedAt.isNone &&
      isUnexpired now code) restored
  updateBatches batchId (fun row => { row with
    status := .active
    revokedAt := none
    revokeReason := [] })
  return .restoredBatch batchId (decide (batch.status ≠ .active) || codes != 0) codes

def deleteBatch (batchId : Nat) (reason : Str) (now : Nat) : StockStatement StockReply := do
  requirePositiveId batchId
  let reason ← safeReason reason
  let batch ← batchRow batchId
  let database ← get
  let _ ← invalidateActivationChallenges (ofBatch database.codes batchId)
  let codes ← if batch.deletedAt = none then do
      let codes ← updateCodes (fun code => code.batchId == batchId && code.deletedAt.isNone)
        (archived reason true now)
      updateBatches batchId (fun row => { row with
        status := .revoked
        revokedAt := some now
        revokeReason := reason
        deletedAt := some now
        deleteReason := reason })
      pure codes
    else pure 0
  let current ← get
  return .deletedBatch batchId (decide (batch.deletedAt = none)) codes
    (rowcount (fun code => code.batchId == batchId && decide (code.status = .activated))
      current.codes)

def unarchiveBatch (batchId : Nat) (reason : Str) : StockStatement StockReply := do
  requirePositiveId batchId
  let _ ← safeReason reason
  let batch ← batchRow batchId
  require (batch.deletedAt ≠ none) (.service "dual_machine_batch_not_archived" 409)
  let codes ← updateCodes (fun code => code.batchId == batchId && code.deletedByBatch) unarchived
  updateBatches batchId (fun row => { row with deletedAt := none, deleteReason := [] })
  return .unarchivedBatch batchId batch.status (decide (batch.status = .revoked)) codes

def nextId (ids : List Nat) : Nat := ids.foldr max 0 + 1

/-- A batch with its codes, whose products and secrets are not represented. -/
def issueBatch (note : Str) (expiresAtEpoch : Option Nat) (quantity : Nat) :
    StockStatement StockReply := do
  let database ← get
  let batchId := nextId (database.batches.map LicenseBatch.id)
  writeBatches (database.batches ++ [{ id := batchId, note := note, expiresAtEpoch := expiresAtEpoch }])
  let first := nextId (database.codes.map LicenseCode.id)
  writeCodes (database.codes ++ (List.range quantity).map (fun ordinal =>
    { id := first + ordinal, batchId := batchId, expiresAtEpoch := expiresAtEpoch }))
  return .issued batchId

def consumeCode (codeId now : Nat) : StockStatement StockReply := do
  let count ← updateCodes (fun code => code.id == codeId && decide (code.status = .issued) &&
    isUnexpired now code)
    (fun code => { code with status := .activated, activatedAtEpoch := some now })
  return .consumed (count == 1)

def expireCode (codeId : Nat) : StockStatement StockReply := do
  let count ← updateCodes (fun code => code.id == codeId && decide (code.status = .issued))
    (fun code => { code with status := .expired })
  return .expired count

def normalizeExpiredCodes (batchId : Option Nat) (now : Nat) : StockStatement StockReply := do
  let inScope := fun (code : LicenseCode) => batchId.all (· == code.batchId)
  let count ← updateCodes (fun code => decide (code.status = .issued) &&
    code.expiresAtEpoch.any (· ≤ now) && inScope code) (fun code => { code with status := .expired })
  let database ← get
  let _ ← invalidateActivationChallenges (fun row => database.codes.any (fun code =>
    code.id == row.licenseCodeId && decide (code.status = .expired) &&
      code.expiresAtEpoch.any (· ≤ now) && inScope code))
  return .expired count

/-- The challenges of activations come and go. -/
def changeChallenges (rows : List ActivationChallengeRow) : StockStatement StockReply := do
  let database ← get
  set { database with challenges := rows }
  return .challenges

inductive StockOp where
  | issueBatch (note : Str) (expiresAtEpoch : Option Nat) (quantity : Nat)
  | consumeCode (codeId now : Nat)
  | expireCode (codeId : Nat)
  | normalizeExpiredCodes (batchId : Option Nat) (now : Nat)
  | changeChallenges (rows : List ActivationChallengeRow)
  | revokeCode (codeId : Nat) (reason : Str) (now : Nat)
  | updateCode (codeId : Nat) (adminNote : Str) (expiresAtEpoch : Option Nat) (reason : Str)
      (now : Nat)
  | restoreCode (codeId : Nat) (reason : Str) (now : Nat)
  | deleteCode (codeId : Nat) (reason : Str) (now : Nat)
  | unarchiveCode (codeId : Nat) (reason : Str)
  | updateBatch (batchId : Nat) (note : Str) (expiresAtEpoch : Option Nat) (reason : Str)
      (now : Nat)
  | revokeBatch (batchId : Nat) (reason : Str) (now : Nat)
  | restoreBatch (batchId : Nat) (reason : Str) (now : Nat)
  | deleteBatch (batchId : Nat) (reason : Str) (now : Nat)
  | unarchiveBatch (batchId : Nat) (reason : Str)

def StockOp.body : StockOp → StockStatement StockReply
  | .issueBatch note expiresAtEpoch quantity =>
    CodeLifecycle.issueBatch note expiresAtEpoch quantity
  | .consumeCode codeId now => CodeLifecycle.consumeCode codeId now
  | .expireCode codeId => CodeLifecycle.expireCode codeId
  | .normalizeExpiredCodes batchId now => CodeLifecycle.normalizeExpiredCodes batchId now
  | .changeChallenges rows => CodeLifecycle.changeChallenges rows
  | .revokeCode codeId reason now => CodeLifecycle.revokeCode codeId reason now
  | .updateCode codeId adminNote expiresAtEpoch reason now =>
    CodeLifecycle.updateCode codeId adminNote expiresAtEpoch reason now
  | .restoreCode codeId reason now => CodeLifecycle.restoreCode codeId reason now
  | .deleteCode codeId reason now => CodeLifecycle.deleteCode codeId reason now
  | .unarchiveCode codeId reason => CodeLifecycle.unarchiveCode codeId reason
  | .updateBatch batchId note expiresAtEpoch reason now =>
    CodeLifecycle.updateBatch batchId note expiresAtEpoch reason now
  | .revokeBatch batchId reason now => CodeLifecycle.revokeBatch batchId reason now
  | .restoreBatch batchId reason now => CodeLifecycle.restoreBatch batchId reason now
  | .deleteBatch batchId reason now => CodeLifecycle.deleteBatch batchId reason now
  | .unarchiveBatch batchId reason => CodeLifecycle.unarchiveBatch batchId reason

def stockStep (database : StockDatabase) (op : StockOp) :
    StockDatabase × Except ServerException StockReply := atomically op.body database

end VisionForge.Server.CodeLifecycle
