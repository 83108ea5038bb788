import VisionForge.PairSecurity.Service

/-! # Generations of connections

Both devices of an active pair ask for a challenge, and a consumed challenge gives the
pair the next generation. A generation is allocated in one unit of work, which other
steps may make fail; they append to the audit log and the credential journal, which no
step here reads.
-/

namespace VisionForge.PairSecurity

open Lib.Ascii Lib.Table Lib.Transaction Server UsageRepository

inductive GenerationChallengeStatus where
  | issued
  | consumed
  | expired
  | revoked
  deriving DecidableEq

structure PairGenerationChallenge where
  challengeId : Bytes
  requestId : Bytes
  requestPayloadSha256 : Bytes
  pairId : Bytes
  bindingRevision : Nat
  serverNonceSha256 : Bytes
  status : GenerationChallengeStatus := .issued
  expiresAtEpoch : Nat
  consumedAtEpoch : Option Nat := none
  createdAtEpoch : Nat
  deriving DecidableEq

def PairGenerationChallenge.isIssued (row : PairGenerationChallenge) : Bool :=
  decide (row.status = .issued)

structure PairGenerationChallenge.Checks (row : PairGenerationChallenge) : Prop where
  hashes : isLowerHex row.requestPayloadSha256 64 = true ∧
    isLowerHex row.serverNonceSha256 64 = true
  revision : 1 ≤ row.bindingRevision
  integers : fitsInteger row.bindingRevision = true ∧ fitsInteger row.expiresAtEpoch = true ∧
    row.consumedAtEpoch.all fitsInteger = true ∧ fitsInteger row.createdAtEpoch = true
  consumed : row.consumedAtEpoch.isSome = true ↔ row.status = .consumed

instance (row : PairGenerationChallenge) : Decidable row.Checks :=
  decidable_of_iff
    ((isLowerHex row.requestPayloadSha256 64 = true ∧ isLowerHex row.serverNonceSha256 64 = true) ∧
      1 ≤ row.bindingRevision ∧
      (fitsInteger row.bindingRevision = true ∧ fitsInteger row.expiresAtEpoch = true ∧
        row.consumedAtEpoch.all fitsInteger = true ∧ fitsInteger row.createdAtEpoch = true) ∧
      (row.consumedAtEpoch.isSome = true ↔ row.status = .consumed))
    ⟨fun ⟨a, b, c, d⟩ => ⟨a, b, c, d⟩, fun h => ⟨h.1, h.2, h.3, h.4⟩⟩

structure PairGenerationAllocation where
  allocationRequestId : Bytes
  requestPayloadSha256 : Bytes
  challengeId : Bytes
  pairId : Bytes
  bindingRevision : Nat
  generation : Nat
  connectionId : Nat
  transcriptProposalSha256 : Bytes
  allocatedAtEpoch : Nat
  deriving DecidableEq

structure PairGenerationAllocation.Checks (row : PairGenerationAllocation) : Prop where
  hashes : isLowerHex row.requestPayloadSha256 64 = true ∧
    isLowerHex row.transcriptProposalSha256 64 = true
  positive : 1 ≤ row.bindingRevision ∧ 1 ≤ row.generation ∧ 1 ≤ row.connectionId
  integers : fitsInteger row.bindingRevision = true ∧ fitsInteger row.generation = true ∧
    fitsInteger row.connectionId = true ∧ fitsInteger row.allocatedAtEpoch = true

instance (row : PairGenerationAllocation) : Decidable row.Checks :=
  decidable_of_iff
    ((isLowerHex row.requestPayloadSha256 64 = true ∧
        isLowerHex row.transcriptProposalSha256 64 = true) ∧
      (1 ≤ row.bindingRevision ∧ 1 ≤ row.generation ∧ 1 ≤ row.connectionId) ∧
      fitsInteger row.bindingRevision = true ∧ fitsInteger row.generation = true ∧
      fitsInteger row.connectionId = true ∧ fitsInteger row.allocatedAtEpoch = true)
    ⟨fun ⟨a, b, c⟩ => ⟨a, b, c⟩, fun h => ⟨h.1, h.2, h.3⟩⟩

/-- A pair has one issued challenge at most. -/
structure ChallengeKeys (rows : List PairGenerationChallenge) : Prop where
  checks : ∀ row ∈ rows, row.Checks
  challengeIds : (rows.map PairGenerationChallenge.challengeId).Nodup
  requestIds : (rows.map PairGenerationChallenge.requestId).Nodup
  serverNonces : (rows.map PairGenerationChallenge.serverNonceSha256).Nodup
  oneIssued : ((rows.filter PairGenerationChallenge.isIssued).map
    PairGenerationChallenge.pairId).Nodup

instance (rows : List PairGenerationChallenge) : Decidable (ChallengeKeys rows) :=
  decidable_of_iff
    ((∀ row ∈ rows, row.Checks) ∧ (rows.map PairGenerationChallenge.challengeId).Nodup ∧
      (rows.map PairGenerationChallenge.requestId).Nodup ∧
      (rows.map PairGenerationChallenge.serverNonceSha256).Nodup ∧
      ((rows.filter PairGenerationChallenge.isIssued).map PairGenerationChallenge.pairId).Nodup)
    ⟨fun ⟨a, b, c, d, e⟩ => ⟨a, b, c, d, e⟩, fun h => ⟨h.1, h.2, h.3, h.4, h.5⟩⟩

structure AllocationKeys (rows : List PairGenerationAllocation) : Prop where
  checks : ∀ row ∈ rows, row.Checks
  requestIds : (rows.map PairGenerationAllocation.allocationRequestId).Nodup
  challengeIds : (rows.map PairGenerationAllocation.challengeId).Nodup
  generations : (rows.map (fun row => (row.pairId, row.generation))).Nodup
  connectionIds : (rows.map (fun row => (row.pairId, row.connectionId))).Nodup

instance (rows : List PairGenerationAllocation) : Decidable (AllocationKeys rows) :=
  decidable_of_iff
    ((∀ row ∈ rows, row.Checks) ∧
      (rows.map PairGenerationAllocation.allocationRequestId).Nodup ∧
      (rows.map PairGenerationAllocation.challengeId).Nodup ∧
      (rows.map (fun row => (row.pairId, row.generation))).Nodup ∧
      (rows.map (fun row => (row.pairId, row.connectionId))).Nodup)
    ⟨fun ⟨a, b, c, d, e⟩ => ⟨a, b, c, d, e⟩, fun h => ⟨h.1, h.2, h.3, h.4, h.5⟩⟩

theorem challengeKeys_nil : ChallengeKeys [] := by constructor <;> simp

theorem allocationKeys_nil : AllocationKeys [] := by constructor <;> simp

structure GenerationDatabase where
  secured : SecuredDatabase := {}
  challenges : List PairGenerationChallenge := []
  allocations : List PairGenerationAllocation := []
  challengeKeys : ChallengeKeys challenges := by exact challengeKeys_nil
  allocationKeys : AllocationKeys allocations := by exact allocationKeys_nil

abbrev GenerationStatement (α : Type) := Transaction GenerationDatabase ServerException α

/-- Statements on the states of pairs. -/
def onPairs {α : Type} (body : SecuredStatement α) : GenerationStatement α :=
  onPart GenerationDatabase.secured (fun database secured => { database with secured := secured })
    body

def writeGenerationChallenges (rows : List PairGenerationChallenge) : GenerationStatement Unit := do
  let database ← get
  if holds : ChallengeKeys rows then
    set { database with challenges := rows, challengeKeys := holds }
  else raise .integrityError

/-- `dm_pair_challenge_reject_content_update` and `dm_pair_challenge_reject_terminal_update` -/
def challengeUpdateAccepted (old new : PairGenerationChallenge) : Bool :=
  new.challengeId == old.challengeId && new.requestId == old.requestId &&
    new.requestPayloadSha256 == old.requestPayloadSha256 && new.pairId == old.pairId &&
    new.bindingRevision == old.bindingRevision &&
    new.serverNonceSha256 == old.serverNonceSha256 &&
    new.expiresAtEpoch == old.expiresAtEpoch && new.createdAtEpoch == old.createdAtEpoch &&
    (old.isIssued ||
      (decide (new.status = old.status) && decide (new.consumedAtEpoch = old.consumedAtEpoch)))

/-- Rewrite the selected challenges, as far as the triggers let it, and count them. -/
def updateGenerationChallenges (condition : PairGenerationChallenge → Bool)
    (change : PairGenerationChallenge → PairGenerationChallenge) : GenerationStatement Nat := do
  let database ← get
  require (∀ row ∈ database.challenges, condition row = true →
    challengeUpdateAccepted row (change row) = true) .integrityError
  writeGenerationChallenges (update condition change database.challenges)
  return rowcount condition database.challenges

def allocationAuthorized (database : GenerationDatabase) (row : PairGenerationAllocation) : Bool :=
  database.challenges.any (fun challenge => challenge.challengeId == row.challengeId &&
    challenge.requestPayloadSha256 == row.requestPayloadSha256 &&
    challenge.pairId == row.pairId && challenge.bindingRevision == row.bindingRevision &&
    decide (challenge.status = .consumed) &&
    decide (challenge.consumedAtEpoch = some row.allocatedAtEpoch) &&
    database.secured.pairs.any (fun state => state.pairId == challenge.pairId &&
      decide (state.assuranceState = .active) && state.bindingRevision == row.bindingRevision &&
      state.generationHighWater == row.generation))

def createAllocation (row : PairGenerationAllocation) : GenerationStatement Unit := do
  let database ← get
  require (allocationAuthorized database row = true) .integrityError
  if holds : AllocationKeys (database.allocations ++ [row]) then
    set { database with allocations := database.allocations ++ [row], allocationKeys := holds }
  else raise .integrityError

def repositoryError (code : String) : ServerException := .runtimeError code

def requireSha256 (value : Bytes) (field : String) : GenerationStatement Unit :=
  require (isNonzeroLowerHex value 64 = true) (repositoryError (field ++ "_invalid"))

def requireIdentifier (value : Bytes) (field : String) : GenerationStatement Unit :=
  require (isIdentifier value = true) (repositoryError (field ++ "_invalid"))

def requireSigned64 (value : Nat) (field : String) (allowZero : Bool) : GenerationStatement Unit :=
  require ((allowZero = true ∨ 1 ≤ value) ∧ fitsInteger value = true)
    (repositoryError (field ++ "_invalid"))

structure ExpectedPair where
  pairId : Bytes
  bindingId : Bytes
  bindingRevision : Nat
  revocationVersion : Nat
  hostKeySha256 : Bytes
  androidKeySha256 : Bytes

variable (want : ExpectedPair)

def ExpectedPair.normalize : GenerationStatement Unit := do
  requireSha256 want.hostKeySha256 "host_key_sha256"
  requireSha256 want.androidKeySha256 "android_key_sha256"
  require (want.hostKeySha256 ≠ want.androidKeySha256)
    (repositoryError "pair_identity_hashes_equal")
  requireIdentifier want.pairId "pair_id"
  requireIdentifier want.bindingId "binding_id"
  requireSigned64 want.bindingRevision "binding_revision" false
  requireSigned64 want.revocationVersion "revocation_version" false

structure ChallengeProposal where
  challengeId : Bytes
  requestId : Bytes
  requestPayloadSha256 : Bytes
  serverNonceSha256 : Bytes
  expiresAtEpoch : Nat
  nowEpoch : Nat

def ChallengeProposal.normalize (proposal : ChallengeProposal) : GenerationStatement Unit := do
  requireSigned64 proposal.nowEpoch "now_epoch" true
  requireSigned64 proposal.expiresAtEpoch "expires_at_epoch" true
  require (proposal.nowEpoch < proposal.expiresAtEpoch)
    (repositoryError "pair_generation_challenge_expiry_invalid")
  requireIdentifier proposal.challengeId "challenge_id"
  requireIdentifier proposal.requestId "request_id"
  requireSha256 proposal.requestPayloadSha256 "request_payload_sha256"
  requireSha256 proposal.serverNonceSha256 "server_nonce_sha256"

structure AllocationProposal where
  allocationRequestId : Bytes
  requestPayloadSha256 : Bytes
  challengeId : Bytes
  connectionId : Nat
  transcriptProposalSha256 : Bytes
  nowEpoch : Nat

def AllocationProposal.normalize (proposal : AllocationProposal) : GenerationStatement Unit := do
  requireIdentifier proposal.allocationRequestId "allocation_request_id"
  requireSha256 proposal.requestPayloadSha256 "request_payload_sha256"
  requireIdentifier proposal.challengeId "challenge_id"
  requireSigned64 proposal.connectionId "connection_id" false
  requireSha256 proposal.transcriptProposalSha256 "transcript_proposal_sha256"
  requireSigned64 proposal.nowEpoch "now_epoch" true

structure PairContextRow where
  state : PairSecurityRow
  entitlement : EntitlementRow
  binding : DeviceBindingRow

def pairContextRow (database : SecuredDatabase) (pairId : Bytes) : Option PairContextRow := do
  let state ← lookup PairSecurityRow.pairId pairId database.pairs
  let entitlement ← lookup EntitlementRow.entitlementId state.entitlementId
    database.tables.entitlements
  let binding ← database.tables.deviceBindings.find? (fun row =>
    row.bindingId == state.bindingId && row.entitlementId == state.entitlementId)
  return { state := state, entitlement := entitlement, binding := binding }

def checkStateRow (row : PairContextRow) (want : ExpectedPair) : GenerationStatement Unit := do
  require (row.state.bindingId = want.bindingId)
    (repositoryError "pair_security_binding_mismatch")
  require (row.state.bindingRevision = want.bindingRevision)
    (repositoryError "pair_security_binding_mismatch")
  require (row.state.revocationVersion = want.revocationVersion ∧
      row.entitlement.revocationVersion = want.revocationVersion)
    (repositoryError "pair_security_revocation_mismatch")
  require (row.entitlement.status = .active) (repositoryError "pair_entitlement_not_active")
  require (row.binding.isCurrent = true) (repositoryError "pair_security_binding_not_current")
  require (row.binding.pairId = want.pairId)
    (repositoryError "pair_security_binding_mismatch")
  require (row.state.hostKeySha256 = row.binding.hostKeySha256 ∧
      row.state.androidKeySha256 = row.binding.androidKeySha256 ∧
      row.state.hostKeySha256 = want.hostKeySha256 ∧
      row.state.androidKeySha256 = want.androidKeySha256)
    (repositoryError "pair_security_identity_mismatch")

def requireActivePairContext : GenerationStatement PairSecurityRow := do
  let database ← get
  let row ← unwrap (pairContextRow database.secured want.pairId)
    (repositoryError "pair_security_state_not_found")
  checkStateRow row want
  require (row.state.assuranceState = .active) (repositoryError "pair_security_state_not_active")
  return row.state

def requiredChallenge (challengeId : Bytes) : GenerationStatement PairGenerationChallenge := do
  let database ← get
  unwrap (lookup PairGenerationChallenge.challengeId challengeId database.challenges)
    (repositoryError "pair_challenge_missing_after_write")

/-- `stable`: whether the original expiry counts, or the retry names the same. -/
def challengeRetry (stable : Bool) (row : PairGenerationChallenge) (want : ExpectedPair)
    (proposal : ChallengeProposal) : GenerationStatement PairGenerationChallenge := do
  require (row.challengeId = proposal.challengeId ∧
      row.requestPayloadSha256 = proposal.requestPayloadSha256 ∧
      row.pairId = want.pairId ∧ row.bindingRevision = want.bindingRevision ∧
      row.serverNonceSha256 = proposal.serverNonceSha256 ∧
      (stable = true ∨ row.expiresAtEpoch = proposal.expiresAtEpoch))
    (repositoryError "pair_generation_request_payload_mismatch")
  require (row.status = .issued) (repositoryError "pair_generation_challenge_not_issued")
  require (proposal.nowEpoch < row.expiresAtEpoch)
    (repositoryError "pair_generation_challenge_expired")
  return row

def issueChallenge (proposal : ChallengeProposal) :
    GenerationStatement PairGenerationChallenge := do
  let database ← get
  match lookup PairGenerationChallenge.requestId proposal.requestId database.challenges with
  | some row => challengeRetry false row want proposal
  | none => do
      let _ ← updateGenerationChallenges (fun row => row.pairId == want.pairId &&
          row.isIssued && decide (row.expiresAtEpoch ≤ proposal.nowEpoch))
        (fun row => { row with status := .expired })
      let expired ← get
      recast (fun error => if error = .integrityError then
          repositoryError "pair_generation_challenge_conflict" else error)
        (writeGenerationChallenges (expired.challenges ++ [
          { challengeId := proposal.challengeId
            requestId := proposal.requestId
            requestPayloadSha256 := proposal.requestPayloadSha256
            pairId := want.pairId
            bindingRevision := want.bindingRevision
            serverNonceSha256 := proposal.serverNonceSha256
            expiresAtEpoch := proposal.expiresAtEpoch
            createdAtEpoch := proposal.nowEpoch }]))
      requiredChallenge proposal.challengeId

/-- What the unit of work does besides, and whether that fails. -/
def besides (outcome : Option ServerException) : GenerationStatement Unit :=
  match outcome with
  | none => pure ()
  | some error => raise error

def issueGenerationChallenge (proposal : ChallengeProposal) (outcome : Option ServerException) :
    GenerationStatement PairGenerationChallenge := do
  want.normalize
  proposal.normalize
  let _ ← requireActivePairContext want
  let challenge ← issueChallenge want proposal
  besides outcome
  return challenge

def MAX_GENERATION_CHALLENGE_TTL_SECONDS : Nat := 120

def issueOrReplayGenerationChallenge (proposal : ChallengeProposal) (challengeTtlSeconds : Nat) :
    GenerationStatement PairGenerationChallenge := do
  want.normalize
  requireSigned64 proposal.nowEpoch "now_epoch" false
  require ((1 ≤ challengeTtlSeconds ∧
      challengeTtlSeconds ≤ MAX_GENERATION_CHALLENGE_TTL_SECONDS) ∧
      proposal.nowEpoch ≤ 2 ^ 63 - 1 - challengeTtlSeconds)
    (repositoryError "pair_generation_challenge_ttl_invalid")
  let proposal := { proposal with expiresAtEpoch := proposal.nowEpoch + challengeTtlSeconds }
  proposal.normalize
  let _ ← requireActivePairContext want
  let database ← get
  match lookup PairGenerationChallenge.requestId proposal.requestId database.challenges with
  | some row => challengeRetry true row want proposal
  | none => issueChallenge want proposal

def requireIssuedChallenge (proposal : AllocationProposal) :
    GenerationStatement PairGenerationChallenge := do
  let database ← get
  let row ← unwrap
    (lookup PairGenerationChallenge.challengeId proposal.challengeId database.challenges)
    (repositoryError "pair_generation_challenge_not_found")
  require (row.status = .issued) (repositoryError "pair_generation_challenge_not_issued")
  require (proposal.nowEpoch < row.expiresAtEpoch)
    (repositoryError "pair_generation_challenge_expired")
  require (row.pairId = want.pairId ∧ row.bindingRevision = want.bindingRevision)
    (repositoryError "pair_generation_challenge_mismatch")
  require (row.requestPayloadSha256 = proposal.requestPayloadSha256)
    (repositoryError "pair_generation_request_payload_mismatch")
  return row

def advanceGenerationHighWater (context : PairSecurityRow) (now : Nat) : GenerationStatement Nat := do
  require (context.generationHighWater < 2 ^ 63 - 1) (repositoryError "pair_generation_exhausted")
  let count ← onPairs (updatePairs (fun row => row.pairId == context.pairId &&
      decide (row.assuranceState = .active) &&
      row.generationHighWater == context.generationHighWater &&
      row.bindingId == context.bindingId && row.bindingRevision == context.bindingRevision &&
      row.revocationVersion == context.revocationVersion &&
      row.hostKeySha256 == context.hostKeySha256 &&
      row.androidKeySha256 == context.androidKeySha256)
    (fun row => { row with
      generationHighWater := row.generationHighWater + 1
      updatedAtEpoch := now }))
  require (count = 1) (repositoryError "pair_generation_high_water_conflict")
  return context.generationHighWater + 1

def consumeGenerationChallenge (challenge : PairGenerationChallenge) (now : Nat) :
    GenerationStatement Unit := do
  let count ← updateGenerationChallenges (fun row => row.challengeId == challenge.challengeId &&
      row.isIssued && decide (now < row.expiresAtEpoch) &&
      row.pairId == challenge.pairId && row.bindingRevision == challenge.bindingRevision &&
      row.requestPayloadSha256 == challenge.requestPayloadSha256)
    (fun row => { row with status := .consumed, consumedAtEpoch := some now })
  require (count = 1) (repositoryError "pair_generation_challenge_cas_failed")

def insertAllocation (proposal : AllocationProposal) (generation : Nat) :
    GenerationStatement Unit :=
  recast (fun error => if error = .integrityError then
      repositoryError "pair_generation_allocation_conflict" else error)
    (createAllocation
      { allocationRequestId := proposal.allocationRequestId
        requestPayloadSha256 := proposal.requestPayloadSha256
        challengeId := proposal.challengeId
        pairId := want.pairId
        bindingRevision := want.bindingRevision
        generation := generation
        connectionId := proposal.connectionId
        transcriptProposalSha256 := proposal.transcriptProposalSha256
        allocatedAtEpoch := proposal.nowEpoch })

def allocationRow (requestId : Bytes) : GenerationStatement (Option PairGenerationAllocation) := do
  return lookup PairGenerationAllocation.allocationRequestId requestId (← get).allocations

/-- An allocation is the one that a request asks for. -/
def exactAllocationRetry (row : PairGenerationAllocation) (want : ExpectedPair)
    (proposal : AllocationProposal) : Bool :=
  row.requestPayloadSha256 == proposal.requestPayloadSha256 &&
    row.challengeId == proposal.challengeId && row.pairId == want.pairId &&
    row.bindingRevision == want.bindingRevision &&
    row.connectionId == proposal.connectionId &&
    row.transcriptProposalSha256 == proposal.transcriptProposalSha256

def allocate (proposal : AllocationProposal) :
    GenerationStatement PairGenerationAllocation := do
  let existing ← allocationRow proposal.allocationRequestId
  let context ← requireActivePairContext want
  match existing with
  | some row => do
      require (exactAllocationRetry row want proposal = true)
        (repositoryError "pair_generation_request_payload_mismatch")
      return row
  | none => do
      let challenge ← requireIssuedChallenge want proposal
      let generation ← advanceGenerationHighWater context proposal.nowEpoch
      consumeGenerationChallenge challenge proposal.nowEpoch
      insertAllocation want proposal generation
      let row ← allocationRow proposal.allocationRequestId
      unwrap row (repositoryError "pair_allocation_missing_after_write")

def allocateGeneration (proposal : AllocationProposal) (outcome : Option ServerException) :
    GenerationStatement PairGenerationAllocation := do
  want.normalize
  proposal.normalize
  let allocation ← allocate want proposal
  besides outcome
  return allocation

inductive GenerationOp where
  | service (op : ServerOp)
  | issueGenerationChallenge (expected : ExpectedPair) (proposal : ChallengeProposal)
      (outcome : Option ServerException)
  | issueOrReplayGenerationChallenge (expected : ExpectedPair) (proposal : ChallengeProposal)
      (challengeTtlSeconds : Nat)
  | allocateGeneration (expected : ExpectedPair) (proposal : AllocationProposal)
      (outcome : Option ServerException)

inductive GenerationReply where
  | service (reply : ServerReply)
  | challenge (challenge : PairGenerationChallenge)
  | allocation (allocation : PairGenerationAllocation)

abbrev GenerationAnswer := Except ServerException GenerationReply

def generationStep (service : UsageService) (prims : ServicePrimitives)
    (database : GenerationDatabase) : GenerationOp → GenerationDatabase × GenerationAnswer
  | .service op =>
    let (secured, answer) := securedStep service prims database.secured op
    ({ database with secured := secured }, answer.map .service)
  | .issueGenerationChallenge want proposal outcome =>
    atomically (.challenge <$> issueGenerationChallenge want proposal outcome) database
  | .issueOrReplayGenerationChallenge want proposal challengeTtlSeconds =>
    atomically (.challenge <$>
      issueOrReplayGenerationChallenge want proposal challengeTtlSeconds) database
  | .allocateGeneration want proposal outcome =>
    atomically (.allocation <$> allocateGeneration want proposal outcome) database

end VisionForge.PairSecurity
