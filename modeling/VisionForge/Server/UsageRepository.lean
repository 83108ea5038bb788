import VisionForge.Server.Database

/-! # Data access for formal usage

The queries and statements of the repository.
A write that would break a uniqueness constraint raises an integrity error, as a
write that breaks a check does. Foreign keys are not represented: the rows they
refer to are read before each write.
-/

namespace VisionForge.Server.UsageRepository

open Lib.Ascii Lib.Table Lib.Transaction

/-- An entitlement with the devices it is currently bound to. -/
def boundTo (row : EntitlementRow) (binding : DeviceBindingRow) : EntitlementRow :=
  { row with
    pairId := binding.pairId
    hostClientVersion := binding.hostClientVersion
    hostIdentityPublicKeyB64 := binding.hostIdentityPublicKeyB64
    hostKeySha256 := binding.hostKeySha256
    androidClientVersion := binding.androidClientVersion
    androidIdentityPublicKeyB64 := binding.androidIdentityPublicKeyB64
    androidKeySha256 := binding.androidKeySha256 }

def currentBinding (database : Database) (entId : Bytes) : Option DeviceBindingRow :=
  database.deviceBindings.find? (fun binding =>
    binding.entitlementId = entId ∧ binding.isCurrent)

def withBinding (database : Database) (row : EntitlementRow) : EntitlementRow :=
  match currentBinding database row.entitlementId with
  | none => row
  | some binding => boundTo row binding

def entitlementIn (database : Database) (entId : Bytes) : Option EntitlementRow :=
  (lookup EntitlementRow.entitlementId entId database.entitlements).map
    (withBinding database)

def sessionIn (database : Database) (sessionId : Bytes) : Option UsageSessionRow :=
  lookup UsageSessionRow.sessionId sessionId database.usageSessions

variable (entId : Bytes)

def entitlement : Statement (Option EntitlementRow) := do
  return entitlementIn (← get) entId

variable (sessionId : Bytes)

def session : Statement (Option UsageSessionRow) := do
  return sessionIn (← get) sessionId

def activeSession : Statement (Option UsageSessionRow) := do
  return (← get).usageSessions.find? (fun row =>
    row.entitlementId = entId ∧ row.status = .active)

def sessionByStartRequest (requestId : Bytes) :
    Statement (Option UsageSessionRow) := do
  return (← get).usageSessions.find? (fun row =>
    row.entitlementId = entId ∧ row.startRequestId = requestId)

def startCancellation (startRequestId : Bytes) :
    Statement (Option StartCancellationRow) := do
  return (← get).usageStartCancellations.find? (fun row =>
    row.entitlementId = entId ∧ row.startRequestId = startRequestId)

def startCancellationByCancelRequest (cancelRequestId : Bytes) :
    Statement (Option StartCancellationRow) := do
  return (← get).usageStartCancellations.find? (fun row =>
    row.entitlementId = entId ∧ row.cancelRequestId = cancelRequestId)

def entitlementBindingsForPair (pairId : Bytes) :
    Statement (List DeviceBindingRow) := do
  return (← get).deviceBindings.filter (fun row =>
    row.entitlementId = entId ∧ row.pairId = pairId)

def startChallengeByRequest (requestId : Bytes) : Statement (Option StartChallengeRow) := do
  return (← get).usageStartChallenges.find? (fun row => row.requestId = requestId)

def startChallenge (challengeId : Bytes) : Statement (Option StartChallengeRow) := do
  return lookup StartChallengeRow.challengeId challengeId (← get).usageStartChallenges

def ledgerCharge (sequence : Nat) : Statement (Option LedgerRow) := do
  return (← get).usageLedger.find? (fun row =>
    row.sessionId = sessionId ∧ row.sequence = sequence)

/-- The number of rows a statement would change. -/
def rowcount {ρ : Type} (condition : ρ → Bool) (rows : List ρ) : Nat := rows.countP condition

/-- Cancelled requests are told apart by their start requests and by their cancel requests. -/
def createStartCancellation (row : StartCancellationRow) : Statement Unit := do
  let database ← get
  require (database.usageStartCancellations.all (fun other =>
    !(other.entitlementId == row.entitlementId && other.startRequestId == row.startRequestId) &&
      !(other.entitlementId == row.entitlementId &&
        other.cancelRequestId == row.cancelRequestId)) = true) .integrityError
  require (row.startRequestId.length = 32 ∧ row.cancelRequestId.length = 32 ∧
      row.cancelRequestHash.length = 64 ∧
      (row.authenticatedRequestHash = [] ∨ row.authenticatedRequestHash.length = 64) ∧
      row.channelBindingSha256.length = 64) .integrityError
  set { database with usageStartCancellations := database.usageStartCancellations ++ [row] }

/-- A cancellation of the older schema that equals a given one. -/
def isLegacyCancellation (cancellation row : StartCancellationRow) : Bool :=
  row.entitlementId == cancellation.entitlementId &&
  row.startRequestId == cancellation.startRequestId &&
  row.cancelRequestId == cancellation.cancelRequestId &&
  row.cancelRequestHash == cancellation.cancelRequestHash &&
  row.channelBindingSha256 == cancellation.channelBindingSha256 &&
  row.authenticatedRequestHash == [] && row.responseJson == []

def backfillStartCancellationReplay (cancellation : StartCancellationRow)
    (authenticatedRequestHash responseJson : Bytes) : Statement Bool := do
  let database ← get
  set { database with
    usageStartCancellations := update (isLegacyCancellation cancellation)
      (fun row => { row with
        authenticatedRequestHash := authenticatedRequestHash
        responseJson := responseJson })
      database.usageStartCancellations }
  return rowcount (isLegacyCancellation cancellation) database.usageStartCancellations == 1

/-- Start challenges that are issued and satisfy a condition expire. -/
def expireStartChallengesWhere (condition : StartChallengeRow → Bool) : Statement Unit := do
  let database ← get
  set { database with
    usageStartChallenges :=
      update (fun row => decide (row.status = ChallengeStatus.issued) && condition row)
        (fun row => { row with status := .expired }) database.usageStartChallenges }

def expireStartChallenges (now : Nat) : Statement Unit :=
  expireStartChallengesWhere (fun row => decide (row.expiresAtEpoch ≤ now))

def createStartChallenge (row : StartChallengeRow) : Statement Unit := do
  let database ← get
  require (database.usageStartChallenges.all (fun other =>
    other.challengeId != row.challengeId && other.requestId != row.requestId &&
      other.tokenDigest != row.tokenDigest &&
      !(other.entitlementId == row.entitlementId && decide (other.status = .issued) &&
        decide (row.status = .issued))) = true) .integrityError
  require (row.channelBindingSha256.length = 64) .integrityError
  set { database with usageStartChallenges := database.usageStartChallenges ++ [row] }

def consumeStartChallenge (challengeId : Bytes) (now : Nat) : Statement Bool := do
  let database ← get
  let condition := fun (row : StartChallengeRow) => decide
    (row.challengeId = challengeId ∧ row.status = .issued ∧ now < row.expiresAtEpoch)
  set { database with
    usageStartChallenges := update condition
      (fun row => { row with status := .consumed, consumedAtEpoch := some now })
      database.usageStartChallenges }
  return rowcount condition database.usageStartChallenges == 1

def ended (now : Nat) (reason : String) (row : UsageSessionRow) : UsageSessionRow :=
  { row with status := .ended, endedAtEpoch := some now, endedReason := reason }

def expireStaleSessions (now : Nat) : Statement Nat := do
  let database ← get
  let condition := fun (row : UsageSessionRow) => decide
    (row.entitlementId = entId ∧ row.status = .active ∧ row.leaseExpiresAtEpoch ≤ now)
  Database.writeSessions (update condition (ended now "usage_lease_expired") database.usageSessions)
  return rowcount condition database.usageSessions

def createSession (row : UsageSessionRow) : Statement Unit := do
  let database ← get
  require (database.usageSessions.all (fun other =>
    !(other.entitlementId == row.entitlementId && other.startRequestId == row.startRequestId) &&
      !(other.entitlementId == row.entitlementId && decide (other.status = .active) &&
        decide (row.status = .active))) = true) .integrityError
  Database.writeSessions (database.usageSessions ++ [row])

/-- Whether the nonce was new; nonces that have expired are forgotten first. -/
def consumeNonce (scope : NonceScope) (subjectId nonceDigest : Bytes) (now expiresAt : Nat) :
    Statement Bool := do
  let database ← get
  let kept := database.authNonces.filter (fun row => decide (now < row.expiresAtEpoch))
  if kept.any (fun row =>
      decide (row.scope = scope) && row.subjectId == subjectId &&
        row.nonceDigest == nonceDigest) then
    set { database with authNonces := kept }
    return false
  else
    let fresh : NonceRow := ⟨scope, subjectId, nonceDigest, expiresAt⟩
    set { database with authNonces := kept ++ [fresh] }
    return true

def canDebit (chargedSeconds : Nat) (row : EntitlementRow) : Bool :=
  row.entitlementId == entId && decide (row.status = .active) &&
    decide (chargedSeconds ≤ row.remainingSeconds)

def debit (chargedSeconds : Nat) (row : EntitlementRow) : EntitlementRow :=
  { row with
    remainingSeconds := row.remainingSeconds - chargedSeconds
    totalConsumedSeconds := row.totalConsumedSeconds + chargedSeconds
    status := if row.remainingSeconds - chargedSeconds = 0 then .exhausted else row.status }

def debitEntitlement (chargedSeconds : Nat) :
    Statement EntitlementRow := do
  let database ← get
  Database.writeEntitlements
    (update (canDebit entId chargedSeconds) (debit chargedSeconds) database.entitlements)
  require (rowcount (canDebit entId chargedSeconds) database.entitlements = 1)
    (.lookupError "dual_machine_entitlement_debit_failed")
  let debited ← entitlement entId
  unwrap debited (.runtimeError "debited entitlement missing")

def addLedgerCharge (row : LedgerRow) : Statement Unit := do
  let database ← get
  require (database.usageLedger.all (fun other =>
    other.chargeId != row.chargeId &&
      !(other.sessionId == row.sessionId && other.sequence == row.sequence)) = true)
    .integrityError
  Database.writeLedger (database.usageLedger ++ [row])

/-- The columns a heartbeat changes. -/
structure Heartbeat where
  requestId : Bytes
  requestHash : Bytes
  sequence : Nat
  hostFramesTotal : Nat
  androidFramesTotal : Nat
  leaseSha256 : Bytes
  previousLeaseSha256 : Bytes
  heartbeatAtEpoch : Nat
  leaseIssuedAtEpoch : Nat
  leaseNotBeforeEpoch : Nat
  leaseExpiresAtEpoch : Nat
  leasePhase : Bytes
  leaseRemainingSeconds : Nat
  chargedSeconds : Nat

def Heartbeat.apply (heartbeat : Heartbeat) (row : UsageSessionRow) : UsageSessionRow :=
  { row with
    lastHeartbeatAtEpoch := heartbeat.heartbeatAtEpoch
    lastHeartbeatSequence := heartbeat.sequence
    lastRequestId := heartbeat.requestId
    lastRequestHash := heartbeat.requestHash
    lastHostFramesTotal := heartbeat.hostFramesTotal
    lastAndroidFramesTotal := heartbeat.androidFramesTotal
    currentLeaseSha256 := heartbeat.leaseSha256
    previousLeaseSha256 := heartbeat.previousLeaseSha256
    leaseIssuedAtEpoch := heartbeat.leaseIssuedAtEpoch
    leaseNotBeforeEpoch := heartbeat.leaseNotBeforeEpoch
    leaseExpiresAtEpoch := heartbeat.leaseExpiresAtEpoch
    leasePhase := heartbeat.leasePhase
    leaseRemainingSeconds := heartbeat.leaseRemainingSeconds
    secondsConsumed := row.secondsConsumed + heartbeat.chargedSeconds }

def isActiveSession (row : UsageSessionRow) : Bool :=
  row.sessionId == sessionId && decide (row.status = .active)

def recordHeartbeat (heartbeat : Heartbeat) : Statement Unit := do
  let database ← get
  Database.writeSessions
    (update (isActiveSession sessionId) heartbeat.apply database.usageSessions)
  require (rowcount (isActiveSession sessionId) database.usageSessions = 1)
    (.lookupError "dual_machine_usage_session_update_failed")

def endSession (now : Nat) (reason : String) : Statement Bool := do
  let database ← get
  Database.writeSessions
    (update (isActiveSession sessionId) (ended now reason) database.usageSessions)
  return rowcount (isActiveSession sessionId) database.usageSessions == 1

/-- The tables of entitlements, device bindings and sessions are the same. -/
structure KeepsUsage (s t : Database) : Prop where
  entitlements : t.entitlements = s.entitlements
  deviceBindings : t.deviceBindings = s.deviceBindings
  usageSessions : t.usageSessions = s.usageSessions

section

variable {s t u : Database}

theorem KeepsUsage.refl (s : Database) : KeepsUsage s s := ⟨rfl, rfl, rfl⟩

theorem KeepsUsage.trans (first : KeepsUsage s t) (snd : KeepsUsage t u) : KeepsUsage s u :=
  ⟨snd.1.trans first.1, snd.2.trans first.2, snd.3.trans first.3⟩

theorem currentBinding_congr (same : t.deviceBindings = s.deviceBindings) (id : Bytes) :
    currentBinding t id = currentBinding s id := by
  unfold currentBinding
  rw [same]

theorem withBinding_congr (same : t.deviceBindings = s.deviceBindings) :
    withBinding t = withBinding s := by
  funext row
  unfold withBinding
  rw [currentBinding_congr same]

theorem entitlementIn_congr (entitlements : t.entitlements = s.entitlements)
    (deviceBindings : t.deviceBindings = s.deviceBindings) (id : Bytes) :
    entitlementIn t id = entitlementIn s id := by
  unfold entitlementIn
  rw [entitlements, withBinding_congr deviceBindings]

theorem entitlementIn_checks {id : Bytes} {row : EntitlementRow}
    (h : entitlementIn s id = some row) : row.Checks := by
  obtain ⟨base, found, rfl⟩ := Option.map_eq_some_iff.mp h
  have hc := s.entitlementChecks base (lookup_key found).1
  unfold withBinding
  cases currentBinding s base.entitlementId with
  | none => exact hc
  | some binding => exact ⟨hc.1, hc.2, hc.3, hc.4, hc.5⟩

variable {row : UsageSessionRow}

theorem sessionIn_checks {id : Bytes} (h : sessionIn s id = some row) :
    row.Checks := s.sessionChecks row (lookup_key h).1

theorem sessionIn_congr (same : t.usageSessions = s.usageSessions) (id : Bytes) :
    sessionIn t id = sessionIn s id := by
  unfold sessionIn
  rw [same]

theorem consumeNonce_keeps {scope : NonceScope} {subjectId digest : Bytes} {now expiresAt : Nat}
    {fresh : Bool} (h : (consumeNonce scope subjectId digest now expiresAt).run s = .ok (fresh, t)) :
    KeepsUsage s t := by
  unfold consumeNonce at h
  rw [get_ok] at h
  dsimp only at h
  split at h
  · cases h
    exact ⟨rfl, rfl, rfl⟩
  · cases h
    exact ⟨rfl, rfl, rfl⟩

theorem consumeStartChallenge_keeps {challengeId : Bytes} {now : Nat} {used : Bool}
    (h : (consumeStartChallenge challengeId now).run s = .ok (used, t)) : KeepsUsage s t := by
  cases h
  exact ⟨rfl, rfl, rfl⟩

theorem writeSessions_eq_ok {rows : List UsageSessionRow} {res : Unit × Database} :
    (Database.writeSessions rows).run s = .ok res ↔
      ∃ holds : (∀ row ∈ rows, row.Checks) ∧ (rows.map UsageSessionRow.sessionId).Nodup,
        res = ((), { s with
          usageSessions := rows
          sessionChecks := holds.1
          sessionKeys := holds.2 }) :=
  Database.writeChecked_eq_ok

theorem sessionId_ended (now : Nat) (reason : String) (row : UsageSessionRow) :
    (ended now reason row).sessionId = row.sessionId := rfl

theorem expireStaleSessions_keeps {entId : Bytes} {now count : Nat}
    (h : (expireStaleSessions entId now).run s = .ok (count, t)) :
    t.entitlements = s.entitlements ∧ t.deviceBindings = s.deviceBindings ∧
      ∀ id, sessionIn t id = none ↔ sessionIn s id = none := by
  unfold expireStaleSessions at h
  rw [get_ok, bind_ok] at h
  obtain ⟨_, _, written, last⟩ := h
  obtain ⟨holds, same⟩ := writeSessions_eq_ok.mp written
  cases same
  cases last
  refine ⟨rfl, rfl, ?_⟩
  intro id
  unfold sessionIn
  rw [lookup_update (sessionId_ended now _), Option.map_eq_none_iff]

theorem createSession_table (h : (createSession row).run s = .ok ((), t)) :
    ∃ holds : (∀ other ∈ s.usageSessions ++ [row], other.Checks) ∧
        ((s.usageSessions ++ [row]).map UsageSessionRow.sessionId).Nodup,
      t = { s with
        usageSessions := s.usageSessions ++ [row]
        sessionChecks := holds.1
        sessionKeys := holds.2 } := by
  unfold createSession at h
  rw [get_ok, require_ok] at h
  obtain ⟨holds, same⟩ := writeSessions_eq_ok.mp h.2
  cases same
  exact ⟨holds, rfl⟩

theorem createSession_eq_ok (h : (createSession row).run s = .ok ((), t)) :
    t.entitlements = s.entitlements ∧ t.deviceBindings = s.deviceBindings ∧ row.Checks ∧
      sessionIn t row.sessionId = some row := by
  obtain ⟨holds, rfl⟩ := createSession_table h
  refine ⟨rfl, rfl, holds.1 row (by simp), ?_⟩
  apply lookup_append
  apply List.find?_eq_none.mpr
  intro other mem
  have dist := holds.2
  rw [List.map_append, List.nodup_append] at dist
  simpa using dist.2.2 other.sessionId (List.mem_map_of_mem mem) row.sessionId (by simp)

theorem entitlementId_debit (hchg : Nat) (row : EntitlementRow) :
    (debit hchg row).entitlementId = row.entitlementId := rfl

theorem sessionId_apply (heartbeat : Heartbeat) (row : UsageSessionRow) :
    (heartbeat.apply row).sessionId = row.sessionId := rfl

theorem withBinding_debit (hchg : Nat) (row : EntitlementRow) :
    withBinding s (debit hchg row) = debit hchg (withBinding s row) := by
  unfold withBinding
  rw [entitlementId_debit]
  cases currentBinding s row.entitlementId <;> rfl

theorem debitEntitlement_table {entId : Bytes} {hchg : Nat} {debited : EntitlementRow}
    (h : (debitEntitlement entId hchg).run s = .ok (debited, t)) :
    (∃ row ∈ s.entitlements, canDebit entId hchg row = true) ∧
      entitlementIn t entId = some debited ∧
      ∃ hc keys, t = { s with
        entitlements :=
          update (canDebit entId hchg) (debit hchg) s.entitlements
        entitlementChecks := hc
        entitlementKeys := keys } := by
  unfold debitEntitlement at h
  rw [get_ok, bind_ok] at h
  obtain ⟨_, _, written, rest⟩ := h
  obtain ⟨holds, same⟩ := Database.writeChecked_eq_ok.mp written
  cases same
  rw [require_ok, bind_ok] at rest
  obtain ⟨one, found, _, read, last⟩ := rest
  cases read
  rw [← bind_pure (unwrap _ _), unwrap_ok] at last
  obtain ⟨a, isSome, done⟩ := last
  cases done
  have some : 0 < rowcount (canDebit entId hchg) s.entitlements := one ▸ Nat.one_pos
  exact ⟨List.countP_pos_iff.mp some, isSome, holds.1, holds.2, rfl⟩

theorem debitEntitlement_eq_ok {entId : Bytes} {hchg : Nat} {row debited : EntitlementRow}
    (pre : entitlementIn s entId = some row)
    (h : (debitEntitlement entId hchg).run s = .ok (debited, t)) :
    t.deviceBindings = s.deviceBindings ∧ t.usageSessions = s.usageSessions ∧
      row.status = .active ∧ hchg ≤ row.remainingSeconds ∧ debited = debit hchg row ∧
      entitlementIn t entId = some debited := by
  obtain ⟨⟨other, mem, can⟩, isSome, _, _, rfl⟩ := debitEntitlement_table h
  obtain ⟨base, hBase, rfl⟩ := Option.map_eq_some_iff.mp pre
  have debitable : canDebit entId hchg base = true := by
    have sameKey : other.entitlementId = entId := by
      simp only [canDebit, Bool.and_eq_true, beq_iff_eq] at can
      exact can.1.1
    have isBase := lookup_of_mem s.entitlementKeys mem
    rw [sameKey, hBase] at isBase
    cases isBase
    exact can
  have after : lookup EntitlementRow.entitlementId entId
      (update (canDebit entId hchg) (debit hchg) s.entitlements) =
      some (debit hchg base) := by
    rw [lookup_update (entitlementId_debit hchg), hBase, Option.map_some, if_pos debitable]
  have res : debited = debit hchg (withBinding s base) := by
    rw [← withBinding_debit]
    have unfolded := isSome
    unfold entitlementIn at unfolded
    rw [after, Option.map_some, Option.some.injEq] at unfolded
    exact unfolded.symm
  have fields : (withBinding s base).status = base.status ∧
      (withBinding s base).remainingSeconds = base.remainingSeconds := by
    unfold withBinding
    cases currentBinding s base.entitlementId <;> exact ⟨rfl, rfl⟩
  simp only [canDebit, Bool.and_eq_true, decide_eq_true_eq] at debitable
  exact ⟨rfl, rfl, fields.1 ▸ debitable.1.2, fields.2 ▸ debitable.2, res, isSome⟩

theorem addLedgerCharge_table {row : LedgerRow} (h : (addLedgerCharge row).run s = .ok ((), t)) :
    ∃ hc, t = { s with usageLedger := s.usageLedger ++ [row], ledgerChecks := hc } := by
  unfold addLedgerCharge at h
  rw [get_ok, require_ok] at h
  obtain ⟨holds, same⟩ := Database.writeChecked_eq_ok.mp h.2
  cases same
  exact ⟨holds, rfl⟩

theorem recordHeartbeat_table {sessionId : Bytes} {heartbeat : Heartbeat}
    (h : (recordHeartbeat sessionId heartbeat).run s = .ok ((), t)) :
    ∃ hc keys, t = { s with
      usageSessions := update (isActiveSession sessionId) heartbeat.apply s.usageSessions
      sessionChecks := hc
      sessionKeys := keys } := by
  unfold recordHeartbeat at h
  rw [get_ok, bind_ok] at h
  obtain ⟨_, _, written, last⟩ := h
  obtain ⟨holds, same⟩ := writeSessions_eq_ok.mp written
  cases same
  rw [← bind_pure (require _ _), require_ok] at last
  cases last.2
  exact ⟨holds.1, holds.2, rfl⟩

theorem recordHeartbeat_eq_ok {sessionId : Bytes} {heartbeat : Heartbeat}
    (pre : sessionIn s sessionId = some row) (on : row.status = .active)
    (h : (recordHeartbeat sessionId heartbeat).run s = .ok ((), t)) :
    t.entitlements = s.entitlements ∧ t.deviceBindings = s.deviceBindings ∧
      sessionIn t sessionId = some (heartbeat.apply row) := by
  obtain ⟨_, _, rfl⟩ := recordHeartbeat_table h
  refine ⟨rfl, rfl, ?_⟩
  have key := (lookup_key pre).2
  have held : isActiveSession sessionId row = true := by simp [isActiveSession, key, on]
  unfold sessionIn at pre ⊢
  rw [lookup_update (sessionId_apply heartbeat), pre, Option.map_some, if_pos held]

end

end VisionForge.Server.UsageRepository
