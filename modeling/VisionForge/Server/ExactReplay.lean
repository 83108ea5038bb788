import VisionForge.Server.Conservation
import VisionForge.Server.ChargedTime

/-! # Repeated requests are answered again

While the session of a start or a heartbeat is active and its lease has not expired,
repeating the request gives the lease that the session was last given or is refused,
and changes nothing.
-/

namespace VisionForge.Server

open Lib.Ascii Lib.FlatJson Lib.Run Lib.Table Lib.Transaction UsageLease UsageRepository UsageService

section

variable {service : UsageService} {prims : Primitives} {s : Database}
  {answered : List (ServerOp × ServerAnswer)} {row : UsageSessionRow}
  {ent : EntitlementRow} {lease : IssuedLease}

def Refused (error : ServerException) : Prop :=
  ∃ code statusCode, error = .service code statusCode

theorem requireSupportedEntitlementVersions_supported {settings : DualMachineSettings}
    (supported : Supported settings ent) :
    (requireSupportedEntitlementVersions (some ent) settings).run s = .ok ((), s) := by
  unfold requireSupportedEntitlementVersions
  rw [unwrap_ok]
  refine ⟨true, supported.host, ?_⟩
  simp only [Bool.not_true, Bool.false_eq_true, if_false]
  rw [unwrap_ok]
  exact ⟨true, supported.android, rfl⟩

theorem requireEntitlementBinding_ensures (cmd : UsageCommon) :
    Ensures (requireEntitlementBinding (some ent) cmd) s
      (fun bound t => t = s ∧ bound = ent) Refused := by
  unfold requireEntitlementBinding
  cases found : (some ent).filter (entitlementBinds cmd) with
  | none => exact Ensures.raise ⟨_, _, rfl⟩
  | some bound =>
    have same := (Option.filter_eq_some_iff.mp found).1
    cases same
    exact Ensures.pure ⟨rfl, rfl⟩

theorem verifyEntitlementCommand_ensures (cmd : UsageCommon) (payload : Bytes) :
    Ensures (verifyEntitlementCommand prims (some ent) cmd payload) s
      (fun bound t => t = s ∧ bound = ent) Refused := by
  apply Ensures.bind (requireEntitlementBinding_ensures cmd)
  rintro bound t ⟨rfl, rfl⟩
  exact Ensures.require_bind (fun _ => ⟨_, _, rfl⟩) (fun _ => Ensures.pure ⟨rfl, rfl⟩)

theorem requireSessionBinding_ensures (cmd : HeartbeatCommand) :
    Ensures (requireSessionBinding (some row) (some ent) cmd) s
      (fun bound t => t = s ∧ bound = row ∧ sessionBinds cmd row = true) Refused := by
  apply Ensures.bind (requireEntitlementBinding_ensures cmd.toUsageCommon)
  rintro bound t ⟨rfl, rfl⟩
  cases found : (some row).filter (sessionBinds cmd) with
  | none => exact Ensures.raise ⟨_, _, rfl⟩
  | some bound =>
    obtain ⟨same, binds⟩ := Option.filter_eq_some_iff.mp found
    cases same
    exact Ensures.pure ⟨rfl, rfl, binds⟩

/-- The session's lease is signed again with the digest that was stored. -/
theorem Holds.sessionResponse (holds : Holds service prims answered s row ent lease)
    (on : row.status = .active) (hchg : Nat) :
    (service.sessionResponse prims ent row hchg).run s =
      .ok (usageResponse ent row hchg (some lease), s) := by
  have present : row.currentLeaseSha256 ≠ [] := by
    intro empty
    have digest := holds.digest
    rw [empty, issueUsageLease_digest holds.resigned] at digest
    have length := isLowerHex_length
      (@Cryptography.isLowerHex_sha256Hex prims.crypto lease.usageLease)
    rw [digest] at length
    cases length
  unfold UsageService.sessionResponse
  rw [if_neg (by simp [on, present]), ofExcept_ok]
  refine ⟨lease, holds.resigned, ?_⟩
  rw [require_ok]
  exact ⟨holds.digest, rfl⟩

variable {now : Nat} {cmd : HeartbeatCommand}

/-- The session of an active row and an unexpired lease is not stale, and no other is. -/
theorem expireStaleSessions_unexpired (ord : Orderly s) (mem : row ∈ s.usageSessions)
    (on : row.status = .active) (unexpired : now < row.leaseExpiresAtEpoch) :
    ∃ count, (expireStaleSessions row.entitlementId now).run s = .ok (count, s) := by
  have none : ∀ other ∈ s.usageSessions, ¬(other.entitlementId = row.entitlementId ∧
      other.status = .active ∧ other.leaseExpiresAtEpoch ≤ now) := by
    intro other htab stale
    have same := ord.single other htab row mem stale.1 stale.2.1 on
    subst same
    omega
  have unchanged : update (fun other => decide (other.entitlementId = row.entitlementId ∧
      other.status = .active ∧ other.leaseExpiresAtEpoch ≤ now))
      (ended now "usage_lease_expired") s.usageSessions = s.usageSessions := by
    conv_rhs => rw [← List.map_id s.usageSessions]
    apply List.map_congr_left
    intro other htab
    rw [if_neg (by simpa using none other htab)]
    rfl
  have written : (Database.writeSessions (update (fun other => decide
      (other.entitlementId = row.entitlementId ∧ other.status = .active ∧
        other.leaseExpiresAtEpoch ≤ now)) (ended now "usage_lease_expired") s.usageSessions)).run
      s = .ok ((), s) := by
    rw [unchanged]
    exact writeSessions_eq_ok.mpr ⟨⟨s.sessionChecks, s.sessionKeys⟩, rfl⟩
  exact ⟨_, get_ok.mpr (bind_ok.mpr ⟨(), s, written, rfl⟩)⟩

theorem startUsageChecks_ensures {cmd : StartCommand}
    (held : entitlementIn s cmd.entitlementId = some ent)
    (supported : Supported service.settings ent) :
    Ensures (service.startUsageChecks prims cmd) s (fun _ _ => True) Refused := by
  refine Ensures.read_bind ?_
  rw [held]
  refine Ensures.run_bind (requireSupportedEntitlementVersions_supported supported) ?_
  apply Ensures.bind (verifyEntitlementCommand_ensures _ _)
  rintro bound t -
  exact Ensures.pure trivial

theorem startUsageTransaction_ensures {cmd : StartCommand} {sid : Bytes}
    (ord : Orderly s) (found : startedBy s cmd.entitlementId cmd.requestId = some row)
    (on : row.status = .active) (unexpired : now < row.leaseExpiresAtEpoch)
    (holds : Holds service prims answered s row ent lease) :
    Ensures (service.startUsageTransaction prims cmd sid now) s
      (fun resp t => t = s ∧ resp.lease = some lease) Refused := by
  have keys := List.find?_some found
  simp only [decide_eq_true_eq] at keys
  obtain ⟨count, expiring⟩ := expireStaleSessions_unexpired ord
    (List.mem_of_find?_eq_some found) on unexpired
  have held := holds.held
  rw [keys.1] at expiring held
  refine Ensures.read_bind (Ensures.require_bind (fun _ => ⟨_, _, rfl⟩) (fun _ => ?_))
  refine Ensures.run_bind expiring ?_
  refine Ensures.read_bind ?_
  rw [held]
  refine Ensures.run_bind (requireSupportedEntitlementVersions_supported holds.supported) ?_
  apply Ensures.bind (verifyEntitlementCommand_ensures _ _)
  rintro bound t ⟨rfl, rfl⟩
  refine Ensures.read_bind ?_
  unfold startedBy at found
  rw [found]
  refine Ensures.require_bind (fun _ => ⟨_, _, rfl⟩) (fun _ => Ensures.read_bind ?_)
  exact Ensures.of_run (holds.sessionResponse on _) ⟨rfl, rfl⟩

theorem heartbeatUsageChecks_ensures (sess : sessionIn s cmd.sessionId = some row)
    (supported : ∀ bound, entitlementIn s cmd.entitlementId = some bound →
      Supported service.settings bound) :
    Ensures (service.heartbeatUsageChecks prims cmd now) s (fun _ _ => True) Refused := by
  refine Ensures.unwrap_bind (fun _ => ⟨_, _, rfl⟩) (fun claims _ => Ensures.read_bind ?_)
  cases held : entitlementIn s cmd.entitlementId with
  | none =>
    refine Ensures.run_bind rfl (Ensures.read_bind ?_)
    exact Ensures.raise ⟨_, _, rfl⟩
  | some ent =>
    refine Ensures.run_bind
      (requireSupportedEntitlementVersions_supported (supported ent held)) ?_
    refine Ensures.read_bind ?_
    rw [sess]
    apply Ensures.bind (verifyEntitlementCommand_ensures _ _)
    rintro bound t ⟨rfl, rfl⟩
    apply Ensures.bind (requireSessionBinding_ensures cmd)
    rintro bound t -
    exact Ensures.pure trivial

theorem consumeNonce_ensures (scope : NonceScope) (subjectId digest : Bytes) (now expiresAt : Nat) :
    Ensures (consumeNonce scope subjectId digest now expiresAt) s (fun _ _ => True) Refused := by
  refine Ensures.get_bind ?_
  dsimp only
  split
  · exact trivial
  · exact trivial

theorem heartbeatAnew_ensures {claims : Members} {post : UsageResponse → Database → Prop}
    (past : cmd.sequence ≤ row.lastHeartbeatSequence) :
    Ensures (service.heartbeatAnew prims claims ent row cmd now) s post
      Refused := by
  refine Ensures.require_bind (fun _ => ⟨_, _, rfl⟩) (fun _ => ?_)
  apply Ensures.bind (consumeNonce_ensures _ _ _ _ _)
  intro fresh t _
  refine Ensures.require_bind (fun _ => ⟨_, _, rfl⟩) (fun _ => ?_)
  apply Ensures.bind (requireEntitlementBinding_ensures cmd.toUsageCommon)
  rintro bound u ⟨rfl, rfl⟩
  refine Ensures.require_bind (fun _ => ⟨_, _, rfl⟩) (fun next => ?_)
  omega

theorem duplicateHeartbeatResponse_ensures
    (holds : Holds service prims answered s row ent lease)
    (on : row.status = .active) (cmd : HeartbeatCommand) (requestHash : Bytes) :
    Ensures (service.duplicateHeartbeatResponse prims ent row cmd requestHash) s
      (fun given t => t = s ∧ (given = none ∨
        ∃ resp, given = some resp ∧ resp.lease = some lease)) Refused := by
  unfold duplicateHeartbeatResponse
  split
  · exact Ensures.pure ⟨rfl, .inl rfl⟩
  · refine Ensures.require_bind (fun _ => ⟨_, _, rfl⟩) (fun _ => Ensures.read_bind ?_)
    refine Ensures.run_bind (holds.sessionResponse on _) ?_
    exact Ensures.pure ⟨rfl, .inr ⟨_, rfl, rfl⟩⟩

theorem heartbeatUsageTransaction_ensures {claims : Members}
    (sess : sessionIn s cmd.sessionId = some row)
    (past : cmd.sequence ≤ row.lastHeartbeatSequence) (on : row.status = .active)
    (holds : Holds service prims answered s row ent lease)
    (supported : ∀ bound, entitlementIn s cmd.entitlementId = some bound →
      Supported service.settings bound) :
    Ensures (service.heartbeatUsageTransaction prims claims cmd now) s
      (fun resp t => t = s ∧ resp.lease = some lease) Refused := by
  refine Ensures.read_bind ?_
  cases held : entitlementIn s cmd.entitlementId with
  | none =>
    refine Ensures.run_bind rfl (Ensures.read_bind ?_)
    exact Ensures.raise ⟨_, _, rfl⟩
  | some offered =>
    refine Ensures.run_bind
      (requireSupportedEntitlementVersions_supported (supported offered held)) ?_
    refine Ensures.read_bind ?_
    rw [sess]
    apply Ensures.bind (requireSessionBinding_ensures cmd)
    rintro bound t ⟨rfl, rfl, binds⟩
    have same : offered = ent := by
      simp only [sessionBinds, Bool.and_eq_true, beq_iff_eq] at binds
      have owner := holds.held
      rw [binds.1.1.2, held] at owner
      exact Option.some.inj owner
    subst same
    apply Ensures.bind (requireEntitlementBinding_ensures cmd.toUsageCommon)
    rintro other t' ⟨rfl, rfl⟩
    apply Ensures.bind (duplicateHeartbeatResponse_ensures holds on cmd _)
    rintro given u ⟨rfl, none | again⟩
    · subst none
      exact heartbeatAnew_ensures past
    · obtain ⟨resp, rfl, signed⟩ := again
      exact Ensures.pure ⟨rfl, signed⟩

theorem requestStart_ensures {seen : Database} {cmd : StartCommand} {sid : Bytes}
    {bound : EntitlementRow} (pos : 0 < now) (ord : Orderly s)
    (held : entitlementIn seen cmd.entitlementId = some bound)
    (supported : Supported service.settings bound)
    (found : startedBy s cmd.entitlementId cmd.requestId = some row)
    (on : row.status = .active) (unexpired : now < row.leaseExpiresAtEpoch)
    (holds : Holds service prims answered s row ent lease) :
    Ensures (service.requestStart prims seen cmd sid now) s
      (fun resp t => t = s ∧ resp.lease = some lease) Refused := by
  refine Ensures.require_bind (fun zero => absurd pos zero) (fun _ => ?_)
  apply Ensures.reading_bind (startUsageChecks_ensures held supported)
  intro _ _ _
  exact startUsageTransaction_ensures ord found on unexpired holds

theorem requestHeartbeat_ensures {seen : Database} {old : UsageSessionRow} (pos : 0 < now)
    (seenSession : sessionIn seen cmd.sessionId = some old)
    (seenSupported : ∀ bound, entitlementIn seen cmd.entitlementId = some bound →
      Supported service.settings bound) (sess : sessionIn s cmd.sessionId = some row)
    (owner : row.entitlementId = cmd.entitlementId)
    (past : cmd.sequence ≤ row.lastHeartbeatSequence) (on : row.status = .active)
    (holds : Holds service prims answered s row ent lease) :
    Ensures (service.requestHeartbeat prims seen cmd now) s
      (fun resp t => t = s ∧ resp.lease = some lease) Refused := by
  refine Ensures.require_bind (fun zero => absurd pos zero) (fun _ => ?_)
  apply Ensures.reading_bind (heartbeatUsageChecks_ensures seenSession seenSupported)
  intro claims _ _
  refine heartbeatUsageTransaction_ensures sess past on holds ?_
  intro bound found
  rw [← owner, holds.held] at found
  cases found
  exact holds.supported

end

section

variable {service : UsageService} {prims : ServicePrimitives}

/-- A start or a heartbeat is sent again; `seen` is the database of the checks before its
    transaction. -/
inductive Resends (seen : Database) (now : Nat) : ServerOp → ServerOp → Prop where
  | startUsage {seen₀ command sessionId sessionId' now₀} :
      Resends seen now (.startUsage seen₀ command sessionId now₀)
        (.startUsage seen command sessionId' now)
  | heartbeatUsage {seen₀ command now₀} :
      Resends seen now (.heartbeatUsage seen₀ command now₀) (.heartbeatUsage seen command now)

/-- The lease is given again or the request is refused, and nothing changes. -/
def AnswersAgain (s : Database) (outcome : Database × ServerAnswer) (last : Option IssuedLease) :
    Prop :=
  outcome.1 = s ∧
    ((∃ response lease, outcome.2 = .ok (.usage response) ∧ response.lease = some lease ∧
        last = some lease) ∨
      ∃ code statusCode, outcome.2 = .error (.service code statusCode))

section

variable {s : Database} {body : Statement UsageResponse} {lease : IssuedLease}

/-- The reply of a request whose response carries a lease. -/
def RepliesAgain (s : Database) (lease : IssuedLease) (reply : ServerReply) (t : Database) : Prop :=
  t = s ∧ ∃ response, reply = .usage response ∧ response.lease = some lease

theorem ensures_repliesAgain
    (h : Ensures body s (fun resp t => t = s ∧ resp.lease = some lease) Refused) :
    Ensures (ServerReply.usage <$> body) s (RepliesAgain s lease) Refused := by
  apply Ensures.map
  exact h.mono (fun resp t holds => ⟨holds.1, resp, rfl, holds.2⟩)

theorem answersAgain_of_cases {outcome : Database × ServerAnswer}
    (h : (∃ reply t, outcome = (t, .ok reply) ∧ RepliesAgain s lease reply t) ∨
      ∃ error, outcome = (s, .error error) ∧ Refused error) :
    AnswersAgain s outcome (some lease) := by
  cases h with
  | inl done =>
    obtain ⟨reply, t, rfl, rfl, resp, rfl, signed⟩ := done
    exact ⟨rfl, .inl ⟨resp, lease, rfl, signed, rfl⟩⟩
  | inr failed =>
    obtain ⟨error, rfl, code, status, rfl⟩ := failed
    exact ⟨rfl, .inr ⟨code, status, rfl⟩⟩

end

theorem startedBy_eq {s : Database} {cmd : StartCommand} {row : UsageSessionRow}
    (started : StartedFor s cmd row.sessionId) (found : sessionIn s row.sessionId = some row) :
    startedBy s cmd.entitlementId cmd.requestId = some row ∧
      row.entitlementId = cmd.entitlementId := by
  obtain ⟨new, isNew, same⟩ := started
  have isRow := session_unique (List.mem_of_find?_eq_some isNew) (lookup_key found).1 same
  subst isRow
  have keys := List.find?_some isNew
  simp only [decide_eq_true_eq] at keys
  exact ⟨isNew, keys.1⟩

theorem sessionIn_of_startedFor {s : Database} {cmd : StartCommand} {sid : Bytes}
    (started : StartedFor s cmd sid) :
    ∃ row, sessionIn s sid = some row ∧ row.sessionId = sid := by
  obtain ⟨row, isRow, same⟩ := started
  refine ⟨row, ?_, same⟩
  rw [← same]
  exact lookup_of_mem s.sessionKeys (List.mem_of_find?_eq_some isRow)

/-- While its session is active and its lease has not expired, a start or heartbeat that
    succeeded is answered with the lease the session was last given, or refused, and nothing
    changes; and the rows of an active session are always signed again with the digest that
    was stored. -/
theorem exact_replay_idempotent (service : UsageService) (prims : ServicePrimitives)
    (ops later : List ServerOp) :
    (∀ op resp again now row,
      (op, .ok (.usage resp)) ∈ history service prims ops →
      Resends (served service prims ops) now op again → 0 < now →
      sessionIn (served service prims (ops ++ later)) resp.sessionId = some row →
      row.status = .active → now < row.leaseExpiresAtEpoch →
      AnswersAgain (served service prims (ops ++ later))
        (serverStep service prims (served service prims (ops ++ later)) again)
        (lastLease (history service prims (ops ++ later)) resp.sessionId)) ∧
    ∀ row ∈ (served service prims ops).usageSessions, row.status = .active →
      ∃ ent lease,
        entitlementIn (served service prims ops) row.entitlementId = some ent ∧
        lastLease (history service prims ops) row.sessionId = some lease ∧
        ∀ charged, (service.sessionResponse prims.toPrimitives ent row charged).run
          (served service prims ops) =
            .ok (usageResponse ent row charged (some lease), served service prims ops) := by
  constructor
  · intro op resp again now row answered resends positive found active unexpired
    obtain ⟨s, done, sooner⟩ := later_of_mem_history answered
    have goesOn := @later_served service prims ops later
    obtain ⟨inTable, sameId⟩ := lookup_key found
    obtain ⟨ent, lease, holds⟩ :=
      @renewable_served service prims (ops ++ later) row inTable active
    rw [← sameId, holds.last]
    cases resends with
    | startUsage =>
      obtain ⟨given, isGiven, started⟩ := serverStep_start_eq_ok done
      cases isGiven
      have startedSeen := sooner.startedFor started
      obtain ⟨old, isEarlier, key⟩ := sessionIn_of_startedFor startedSeen
      obtain ⟨bound, lease', held⟩ := @renewable_served service prims ops old
        (lookup_key isEarlier).1 (goesOn.active isEarlier found active)
      rw [← key] at startedSeen isEarlier
      have ownerSeen := (startedBy_eq startedSeen isEarlier).2
      have startedNow := goesOn.startedFor (sooner.startedFor started)
      rw [← sameId] at startedNow found
      refine answersAgain_of_cases (ensures_repliesAgain ?_).atomically
      exact requestStart_ensures positive (orderly_served _) (ownerSeen ▸ held.held)
        held.supported (startedBy_eq startedNow found).1 active unexpired holds
    | heartbeatUsage =>
      obtain ⟨given, isGiven, sameSession, counted⟩ := serverStep_heartbeat_eq_ok done
      cases isGiven
      have countedSeen := sooner.counted counted
      obtain ⟨old, isEarlier, ownerSeen, -⟩ := countedSeen
      obtain ⟨current, isCurrent, owner, past⟩ := goesOn.counted (sooner.counted counted)
      rw [sameSession] at found
      have wasActive := goesOn.active isEarlier found active
      rw [found] at isCurrent
      cases isCurrent
      refine answersAgain_of_cases (ensures_repliesAgain ?_).transact
      refine requestHeartbeat_ensures positive isEarlier ?_ found owner past active holds
      intro bound heldSeen
      obtain ⟨other, lease', held⟩ := @renewable_served service prims ops old
        (lookup_key isEarlier).1 wasActive
      rw [← ownerSeen, held.held] at heldSeen
      cases heldSeen
      exact held.supported
  · intro row member active
    obtain ⟨ent, lease, holds⟩ := @renewable_served service prims ops row member active
    exact ⟨ent, lease, holds.held, holds.last, holds.sessionResponse active⟩

end

end VisionForge.Server
