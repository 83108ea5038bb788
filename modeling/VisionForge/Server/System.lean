import VisionForge.Lib.Run
import VisionForge.Server.AdminService
import VisionForge.Server.UsageRuns

/-! # The service as a machine

Every request is one transaction, and transactions are serialised. The checks that a
request makes before its transaction may see any database (`seen`), so a run of this
machine covers every interleaving of requests. Cards come and go at will. The answer to a
request for a card is its challenge, of which the token and the text to sign are made.
-/

namespace VisionForge.Server

open Lib.Ascii Lib.Transaction UsageLease

inductive ServerOp where
  | createStartChallenge (seen : Database) (command : StartChallengeCommand) (challengeId : Bytes)
      (now : Nat)
  | startUsage (seen : Database) (command : StartCommand) (sessionId : Bytes) (now : Nat)
  | heartbeatUsage (seen : Database) (command : HeartbeatCommand) (now : Nat)
  | stopUsage (seen : Database) (command : StopCommand) (now : Nat)
  | cancelStartUsage (seen : Database) (command : StartCancelCommand) (now : Nat)
  | entitlementStatus (seen : Database) (command : StatusCommand) (now : Nat)
  | changeCards (cards : List LicenseCodeRow) (expired : ActivationChallengeRow → Bool)
  | createActivationChallenge (request : ActivationChallengeRow) (now : Nat)
  | confirmActivation (seen : Database) (command : ConfirmCommand) (ids : ActivationIds)
      (pairSecurity : Option ServerException) (now : Nat)
  | revokeEntitlement (entitlementId : Bytes) (pairSecurity : Option ServerException) (now : Nat)
  | restoreEntitlement (entitlementId : Bytes)
  | unbindEntitlementDevice (entitlementId bindingId pairId : Bytes)
      (pairSecurity : Option ServerException) (now : Nat)
  | revokeBatch (batchId : Nat) (revokeActivatedEntitlements : Bool) (now : Nat)
  | entitlementSummary (entitlementId : Bytes) (now : Nat)

inductive ServerReply where
  | done
  | startChallenge (response : StartChallengeResponse)
  | usage (response : UsageResponse)
  | stopped (response : StopResponse)
  | cancelled (response : StartCancellationResponse)
  | status (response : StatusResponse)
  | activationChallenge (row : ActivationChallengeRow)
  | activation (response : ActivationResponse)
  | revoked (response : AdminService.RevokeResponse)
  | restored (response : AdminService.RestoreResponse)
  | summary (row : EntitlementRow)
  deriving DecidableEq

abbrev ServerAnswer := Except ServerException ServerReply

/-- Administration of the card stock: the cards become any others, and challenges that are
    issued may expire. -/
def administerCards (cards : List LicenseCodeRow) (expired : ActivationChallengeRow → Bool) :
    Statement Unit := do
  let database ← get
  set { database with licenseCodes := cards }
  LicenseRepository.expireChallengesWhere expired

section

variable (service : UsageService) (prims : ServicePrimitives)

def ServerOp.body : ServerOp → Statement ServerReply
  | .createStartChallenge seen command challengeId now =>
    .startChallenge <$>
      service.createStartChallenge prims.toPrimitives seen command challengeId now
  | .startUsage seen command sessionId now =>
    .usage <$> service.requestStart prims.toPrimitives seen command sessionId now
  | .heartbeatUsage seen command now =>
    .usage <$> service.requestHeartbeat prims.toPrimitives seen command now
  | .stopUsage seen command now =>
    .stopped <$> service.stopUsage prims.toPrimitives seen command now
  | .cancelStartUsage seen command now =>
    .cancelled <$> service.cancelStartUsage prims.toPrimitives seen command now
  | .entitlementStatus seen command now =>
    .status <$> service.entitlementStatus prims.toPrimitives seen command now
  | .changeCards cards expired => (fun _ => .done) <$> administerCards cards expired
  | .createActivationChallenge request now =>
    .activationChallenge <$>
      CardService.createChallengeTransaction service.settings prims request now
  | .confirmActivation seen command ids pairSecurity now =>
    .activation <$>
      CardService.confirmActivation service.settings prims seen command ids pairSecurity now
  | .revokeEntitlement entitlementId pairSecurity now =>
    .revoked <$> AdminService.revokeEntitlement entitlementId pairSecurity now
  | .restoreEntitlement entitlementId =>
    .restored <$> AdminService.restoreEntitlement entitlementId
  | .unbindEntitlementDevice entitlementId bindingId pairId pairSecurity now =>
    .revoked <$>
      AdminService.unbindEntitlementDevice entitlementId bindingId pairId pairSecurity now
  | .revokeBatch batchId revokeActivatedEntitlements now =>
    (fun _ => .done) <$> AdminService.revokeBatch batchId revokeActivatedEntitlements now
  | .entitlementSummary entitlementId now =>
    .summary <$> AdminService.entitlementSummary entitlementId now

/-- An exception undoes its transaction; a heartbeat alone may commit before it raises. -/
def serverStep (database : Database) (op : ServerOp) : Database × ServerAnswer :=
  match op with
  | .heartbeatUsage .. => transact (op.body service prims) database
  | _ => atomically (op.body service prims) database

end

/-! ## What one transaction can do

Every transaction of the service amends entitlements without touching their balances,
credits one, opens a session or renews one. Sessions only go on or end, and ended
sessions stay as they are.
-/

open Lib.Table UsageRepository UsageService

/-- A session that stays as it is, or that ends. -/
inductive Rests : UsageSessionRow → UsageSessionRow → Prop where
  | same (row : UsageSessionRow) : Rests row row
  | ended {row : UsageSessionRow} {status : SessionStatus} {endedAt : Option Nat}
      {reason : String} : row.status = .active → status ≠ .active →
      Rests row { row with status := status, endedAtEpoch := endedAt, endedReason := reason }

abbrev Settles (before after : List UsageSessionRow) : Prop := List.Forall₂ Rests before after

structure Follows (old new : UsageSessionRow) : Prop where
  sessionId : new.sessionId = old.sessionId
  entitlementId : new.entitlementId = old.entitlementId
  startRequestId : new.startRequestId = old.startRequestId
  startRequestHash : new.startRequestHash = old.startRequestHash
  sequence : old.lastHeartbeatSequence ≤ new.lastHeartbeatSequence
  final : old.status ≠ .active → new = old

/-- Sessions go on in their places, and new ones come after them. -/
def Grows (before after : List UsageSessionRow) : Prop :=
  ∃ kept fresh, List.Forall₂ Follows before kept ∧ after = kept ++ fresh

theorem Follows.refl (row : UsageSessionRow) : Follows row row :=
  ⟨rfl, rfl, rfl, rfl, le_rfl, fun _ => rfl⟩

theorem Follows.trans {a b c : UsageSessionRow} (first : Follows a b) (snd : Follows b c) :
    Follows a c where
  sessionId := snd.sessionId.trans first.sessionId
  entitlementId := snd.entitlementId.trans first.entitlementId
  startRequestId := snd.startRequestId.trans first.startRequestId
  startRequestHash := snd.startRequestHash.trans first.startRequestHash
  sequence := first.sequence.trans snd.sequence
  final := fun isOver => by
    have same := first.final isOver
    subst same
    exact snd.final isOver

theorem Rests.follows {old new : UsageSessionRow} (h : Rests old new) : Follows old new := by
  cases h with
  | same => exact .refl old
  | ended on _ => exact ⟨rfl, rfl, rfl, rfl, le_rfl, fun isOver => absurd on isOver⟩

theorem Rests.of_active {old new : UsageSessionRow} (h : Rests old new)
    (on : new.status = .active) : new = old := by
  cases h with
  | same => rfl
  | ended _ isOver => exact absurd on isOver

theorem Rests.trans {a b c : UsageSessionRow} (first : Rests a b) (snd : Rests b c) :
    Rests a c := by
  cases first with
  | same => exact snd
  | ended on isOver =>
    cases snd with
    | same => exact .ended on isOver
    | ended again _ => exact absurd again isOver

theorem Settles.refl (rows : List UsageSessionRow) : Settles rows rows :=
  List.forall₂_same.mpr (fun row _ => .same row)

theorem Settles.trans {a b c : List UsageSessionRow} (first : Settles a b) (snd : Settles b c) :
    Settles a c := forall₂_trans (fun _ _ _ step next => Rests.trans step next) first snd

theorem Settles.grows {pre after : List UsageSessionRow} (h : Settles pre after) :
    Grows pre after :=
  ⟨after, [], h.imp (fun _ _ => Rests.follows), by simp⟩

def Idle (database : Database) (entitlementId : Bytes) : Prop :=
  ∀ row ∈ database.usageSessions, row.entitlementId = entitlementId → row.status ≠ .active

theorem Idle.settles {s t : Database} {entId : Bytes} (idle : Idle s entId)
    (h : Settles s.usageSessions t.usageSessions) : Idle t entId := by
  intro row mem owner on
  obtain ⟨old, inOld, rests⟩ := exists_of_mem_after h mem
  have same := rests.of_active on
  subst same
  exact idle row inOld owner on

section

variable {s t : Database} {row : UsageSessionRow}

theorem session_unique {other : UsageSessionRow} (mem : row ∈ s.usageSessions)
    (htab : other ∈ s.usageSessions) (same : row.sessionId = other.sessionId) : row = other := by
  have first := lookup_of_mem s.sessionKeys mem
  rw [same, lookup_of_mem s.sessionKeys htab] at first
  exact (Option.some.inj first).symm

section

variable {kept : List UsageSessionRow} {new : UsageSessionRow}
  (sessions : t.usageSessions = kept ++ [new])

include sessions

theorem mem_opened (settles : Settles s.usageSessions kept) (mem : row ∈ t.usageSessions) :
    (row ∈ kept ∧ ∃ old ∈ s.usageSessions, Rests old row) ∨ row = new := by
  rw [sessions] at mem
  cases List.mem_append.mp mem with
  | inl earlier => exact .inl ⟨earlier, exists_of_mem_after settles earlier⟩
  | inr last => exact .inr (List.mem_singleton.mp last)

theorem mem_opened_of_active (settles : Settles s.usageSessions kept)
    (mem : row ∈ t.usageSessions) (on : row.status = .active) :
    row ∈ s.usageSessions ∧ row ∈ kept ∨ row = new := by
  cases mem_opened sessions settles mem with
  | inl earlier =>
    obtain ⟨inKept, old, inOld, rests⟩ := earlier
    have same := rests.of_active on
    subst same
    exact .inl ⟨inOld, inKept⟩
  | inr last => exact .inr last

theorem opened_mem : new ∈ t.usageSessions :=
  sessions ▸ List.mem_append_right _ List.mem_cons_self

theorem opened_apart (mem : row ∈ kept) : row.sessionId ≠ new.sessionId := by
  have dist := t.sessionKeys
  rw [sessions, List.map_append, List.nodup_append] at dist
  exact dist.2.2 _ (List.mem_map_of_mem mem) _ (List.mem_singleton.mpr rfl)

end

section

variable {change : UsageSessionRow → UsageSessionRow} (held : sessionIn s row.sessionId = some row)
  (on : row.status = .active)
  (sessions : t.usageSessions = update (isActiveSession row.sessionId) change s.usageSessions)

include held on sessions

theorem mem_renewed {new : UsageSessionRow} (mem : new ∈ t.usageSessions) :
    new ∈ s.usageSessions ∧ new.sessionId ≠ row.sessionId ∨ new = change row := by
  rw [sessions] at mem
  cases mem_update mem with
  | inl kept =>
    refine .inl ⟨kept.1, fun same => ?_⟩
    have isRow := session_unique kept.1 (lookup_key held).1 same
    subst isRow
    simp [isActiveSession, on] at kept
  | inr replaced =>
    obtain ⟨old, inOld, hact, rfl⟩ := replaced
    simp only [isActiveSession, Bool.and_eq_true, beq_iff_eq] at hact
    exact .inr (congrArg _ (session_unique inOld (lookup_key held).1 hact.1))

theorem renewed_mem : change row ∈ t.usageSessions := by
  rw [sessions]
  exact List.mem_map.mpr ⟨row, (lookup_key held).1, if_pos (by simp [isActiveSession, on])⟩

end

theorem Grows.find? {cond : UsageSessionRow → Bool}
    (agrees : ∀ old new, Follows old new → cond new = cond old)
    (h : Grows s.usageSessions t.usageSessions)
    (found : s.usageSessions.find? cond = some row) :
    ∃ new, t.usageSessions.find? cond = some new ∧ Follows row new := by
  obtain ⟨kept, fresh, evolves, same⟩ := h
  obtain ⟨new, inKept, follows⟩ := find?_forall₂ agrees evolves found
  refine ⟨new, ?_, follows⟩
  rw [same, List.find?_append, inKept]
  rfl

theorem Grows.sessionIn {sid : Bytes} (h : Grows s.usageSessions t.usageSessions)
    (found : sessionIn s sid = some row) :
    ∃ new, UsageRepository.sessionIn t sid = some new ∧ Follows row new := by
  apply h.find? _ found
  intro old new follows
  rw [follows.sessionId]

/-- The session that a start request opened. -/
def startedBy (database : Database) (entitlementId requestId : Bytes) : Option UsageSessionRow :=
  database.usageSessions.find? (fun row =>
    row.entitlementId = entitlementId ∧ row.startRequestId = requestId)

theorem Grows.startedBy {entId requestId : Bytes}
    (h : Grows s.usageSessions t.usageSessions)
    (found : startedBy s entId requestId = some row) :
    ∃ new, Server.startedBy t entId requestId = some new ∧ Follows row new := by
  apply h.find? _ found
  intro old new follows
  rw [follows.entitlementId, follows.startRequestId]

end

/-- The balance of an entitlement is the same. -/
structure SameAccount (before after : EntitlementRow) : Prop where
  entitlementId : after.entitlementId = before.entitlementId
  remainingSeconds : after.remainingSeconds = before.remainingSeconds

/-- A start request that was not cancelled before and is cancelled now has no active session. -/
def Buries (s t : Database) : Prop :=
  ∀ cancellation ∈ t.usageStartCancellations,
    (∃ old ∈ s.usageStartCancellations, old.entitlementId = cancellation.entitlementId ∧
      old.startRequestId = cancellation.startRequestId) ∨
    ∀ row ∈ t.usageSessions, row.entitlementId = cancellation.entitlementId →
      row.startRequestId = cancellation.startRequestId → row.status ≠ .active

/-- The selected entitlements change in all but their balance and have no active session. -/
structure Amends (selected : Bytes → Prop) (s t : Database) : Prop where
  entitlements : ∃ change : EntitlementRow → EntitlementRow,
    t.entitlements = s.entitlements.map change ∧
    (∀ row ∈ s.entitlements, SameAccount row (change row)) ∧
    ∀ row ∈ s.entitlements, ¬selected row.entitlementId → change row = row
  bindings : ∀ id, ¬selected id → currentBinding t id = currentBinding s id
  ledger : t.usageLedger = s.usageLedger
  activations : t.licenseActivations = s.licenseActivations
  sessions : Settles s.usageSessions t.usageSessions
  idle : ∀ id, selected id → Idle t id
  buries : Buries s t

/-- The entitlements after one was credited: a new one, or one that nothing was left of and
    whose account begins again. -/
inductive Credits (s : Database) (entitlementId : Bytes) (seconds : Nat) :
    List EntitlementRow → Prop where
  | created {row : EntitlementRow} : row.entitlementId = entitlementId →
      row.remainingSeconds = seconds → row.status ≠ .revoked ∧ row.totalConsumedSeconds = 0 →
      (∀ other ∈ s.entitlements, other.entitlementId ≠ entitlementId) →
      Credits s entitlementId seconds (s.entitlements ++ [row])
  | reactivated {condition : EntitlementRow → Bool} {change : EntitlementRow → EntitlementRow} :
      (∀ row, condition row = true →
        row.entitlementId = entitlementId ∧ row.remainingSeconds = 0) →
      (∀ row, (change row).entitlementId = row.entitlementId ∧
        (change row).remainingSeconds = seconds ∧ (change row).status ≠ .revoked ∧
        (change row).totalConsumedSeconds = 0) →
      (∃ row ∈ s.entitlements, condition row = true) → Idle s entitlementId →
      Credits s entitlementId seconds (update condition change s.entitlements)

/-- Both versions are at least the admitted ones. -/
structure Supported (settings : DualMachineSettings) (row : EntitlementRow) : Prop where
  host : clientVersionAtLeast row.hostClientVersion settings.minimumHostClientVersion = some true
  android :
    clientVersionAtLeast row.androidClientVersion settings.minimumAndroidClientVersion = some true

/-- What one transaction does, and the lease it gives out. -/
inductive Move (service : UsageService) (prims : Primitives) :
    Database → Database → Option Grant → Prop where
  | amended {s t : Database} {selected : Bytes → Prop} : Amends selected s t →
      Move service prims s t none
  | credited {s t : Database} {activation : LicenseActivationRow} :
      t.licenseActivations = s.licenseActivations ++ [activation] →
      Credits s activation.entitlementId activation.creditedSeconds t.entitlements →
      (∀ id, id ≠ activation.entitlementId → currentBinding t id = currentBinding s id) →
      t.usageLedger = s.usageLedger → t.usageSessions = s.usageSessions →
      t.usageStartCancellations = s.usageStartCancellations →
      Move service prims s t none
  | opened {s t : Database} {command : StartCommand} {requestHash sessionId : Bytes} {now : Nat}
      {before after : EntitlementRow} {charged : Nat} {lease : IssuedLease}
      {kept : List UsageSessionRow} :
      Settles s.usageSessions kept →
      (∀ row ∈ kept, row.entitlementId = command.entitlementId → row.status ≠ .active) →
      (∀ row ∈ kept, row.entitlementId = command.entitlementId →
        row.startRequestId ≠ command.requestId) →
      t.usageSessions = kept ++ [newSession command requestHash sessionId lease
        after.remainingSeconds charged now] →
      (∀ cancellation ∈ s.usageStartCancellations,
        ¬(cancellation.entitlementId = command.entitlementId ∧
          cancellation.startRequestId = command.requestId)) →
      t.usageStartCancellations = s.usageStartCancellations →
      t.deviceBindings = s.deviceBindings → t.licenseActivations = s.licenseActivations →
      entitlementIn s command.entitlementId = some before → before.status = .active →
      before.entitlementId = command.entitlementId →
      Supported service.settings before →
      entitlementIn t command.entitlementId = some after →
      Issues service prims before after sessionId command.channelBindingSha256 0
        EMPTY_LEASE_SHA256 now now charged lease →
      Pays s t command.entitlementId before ⟨sessionId, now, lease⟩ 0 charged →
      Move service prims s t (some ⟨sessionId, now, lease⟩)
  | renewed {s t : Database} {command : HeartbeatCommand} {requestHash : Bytes} {now : Nat}
      {before after : EntitlementRow} {row : UsageSessionRow} {charged : Nat}
      {lease : IssuedLease} :
      sessionIn s row.sessionId = some row → row.status = .active →
      command.sequence = row.lastHeartbeatSequence + 1 →
      row.leaseExpiresAtEpoch ≤ now + service.settings.usageRenewalWindowSeconds →
      t.usageSessions = update (isActiveSession row.sessionId)
        (newHeartbeat command requestHash lease row.currentLeaseSha256 after.remainingSeconds
          charged now).apply s.usageSessions →
      t.usageStartCancellations = s.usageStartCancellations →
      t.deviceBindings = s.deviceBindings → t.licenseActivations = s.licenseActivations →
      entitlementIn s row.entitlementId = some before →
      Supported service.settings before →
      entitlementIn t row.entitlementId = some after →
      Issues service prims before after row.sessionId row.channelBindingSha256
        command.sequence row.currentLeaseSha256 now (max now row.leaseExpiresAtEpoch) charged
        lease →
      Pays s t row.entitlementId before ⟨row.sessionId, now, lease⟩ command.sequence charged →
      Move service prims s t (some ⟨row.sessionId, now, lease⟩)

end VisionForge.Server
