import VisionForge.Server.Conservation

/-! # Who opens a session

An entitlement without an active session gets one by a start alone, and the start is
signed by the devices that the entitlement is bound to at that moment. An answer with a
lease names a session that is active.
-/

namespace VisionForge.Server

open Lib.Ascii Lib.Table Lib.Transaction UsageLease UsageRepository UsageService

theorem isChallengeTokenCharacter_of_value {char : UInt8}
    (h : (Lib.Base64Url.value char).isSome = true) :
    isChallengeTokenCharacter char = true := by
  unfold Lib.Base64Url.value at h
  unfold isChallengeTokenCharacter
  split_ifs at h <;> simp_all

/-- The token of a challenge has the form that starts are normalised to. -/
theorem startChallengeToken_text (service : UsageService) (primitives : ServicePrimitives)
    (chal : StartChallengeRow) :
    (service.startChallengeToken primitives.toPrimitives chal).length = 43 ∧
      (service.startChallengeToken primitives.toPrimitives chal).all
        isChallengeTokenCharacter = true := by
  constructor
  · unfold startChallengeToken
    rw [Lib.Base64Url.length_encode, primitives.hmacSha256_length]
  · rw [List.all_eq_true]
    intro char mem
    exact isChallengeTokenCharacter_of_value (Lib.Base64Url.value_encode mem)

def ServerOp.leased : ServerOp → Option Bytes
  | .startUsage _ command _ _ => some command.entitlementId
  | .heartbeatUsage _ command _ => some command.entitlementId
  | _ => none

section

variable {srv : UsageService} {prims : Primitives} {s t : Database} {entId : Bytes}

theorem Move.active {given : Grant} (h : Move srv prims s t (some given)) :
    ∃ row, sessionIn t given.sessionId = some row ∧ row.status = .active := by
  cases h with
  | @opened cmd requestHash sid now pre after hchg lease kept _ _ _ sessions =>
    exact ⟨_, lookup_of_mem t.sessionKeys (opened_mem sessions), rfl⟩
  | @renewed cmd requestHash now pre after row hchg lease held on _ _ sessions =>
    have key := lookup_of_mem t.sessionKeys (renewed_mem held on sessions)
    exact ⟨_, key, on⟩

theorem Performs.active {grant : Option Grant} {ans : ServerAnswer} {sid : Bytes}
    {lease : IssuedLease} (h : Performs srv prims s t grant ans)
    (leased : leaseOf ans = some (sid, lease)) :
    ∃ row, sessionIn t sid = some row ∧ row.status = .active := by
  cases grant with
  | none =>
    obtain ⟨row, ent, found, on, -⟩ := h.repeated rfl sid lease leased
    exact ⟨row, found, on⟩
  | some given =>
    have same := h.granted given rfl
    rw [leased] at same
    cases same
    exact h.move.active

theorem Move.opens {grant : Option Grant} (h : Move srv prims s t grant)
    (idle : Idle s entId) (busy : ¬Idle t entId) :
    ∃ given before row, grant = some given ∧ sessionIn t given.sessionId = some row ∧
      row.entitlementId = entId ∧ entitlementIn s entId = some before ∧
      before.status = .active := by
  cases h with
  | amended amends => exact absurd (idle.settles amends.sessions) busy
  | credited _ _ _ _ sessions _ =>
    refine absurd ?_ busy
    unfold Idle
    rw [sessions]
    exact idle
  | @opened cmd requestHash sid now before after hchg lease kept settles _ _ sessions
      _ _ _ _ held active =>
      have htab := opened_mem sessions
      by_cases owner : cmd.entitlementId = entId
      · subst owner
        exact ⟨_, before, _, rfl, lookup_of_mem t.sessionKeys htab, rfl, held, active⟩
      · refine absurd ?_ busy
        intro row mem isOwner hact
        cases mem_opened_of_active sessions settles mem hact with
        | inl earlier => exact idle row earlier.1 isOwner hact
        | inr isNew =>
          subst isNew
          exact owner isOwner
  | @renewed cmd requestHash now pre after row hchg lease held on _ _ sessions =>
    refine absurd ?_ busy
    intro new mem isOwner hact
    cases mem_renewed held on sessions mem with
    | inl kept => exact idle new kept.1 isOwner hact
    | inr isNew =>
      subst isNew
      exact idle row (lookup_key held).1 isOwner hact

/-- The devices of an entitlement sign the start of a session. -/
theorem requestStart_signed {seen : Database} {cmd : StartCommand} {sid : Bytes}
    {now : Nat} {resp : UsageResponse}
    (h : (srv.requestStart prims seen cmd sid now).run s = .ok (resp, t)) :
    ∃ row, entitlementIn s cmd.entitlementId = some row ∧
      prims.p256SignatureValid row.hostIdentityPublicKeyB64 cmd.hostSignatureB64
        (usageStartPayload prims.crypto cmd) = true := by
  unfold requestStart at h
  rw [require_ok, reading_ok] at h
  obtain ⟨-, -, -, -, h⟩ := h
  replace h := read_ok h rfl
  rw [require_ok, bind_ok] at h
  obtain ⟨-, _, u, expiring, h⟩ := h
  have calm := expireStaleSessions_calm expiring
  replace h := offered_ok h
  obtain ⟨versions, h⟩ := h
  rw [bind_ok] at h
  obtain ⟨row, _, verifying, -⟩ := h
  unfold verifyEntitlementCommand at verifying
  rw [bind_ok] at verifying
  obtain ⟨found, _, binding, verifying⟩ := verifying
  obtain ⟨rfl, held, -⟩ := requireEntitlementBinding_eq_ok binding
  unfold verifyDeviceSignatures at verifying
  rw [require_ok] at verifying
  refine ⟨found, ?_, verifying.1.1⟩
  rw [← entitlementIn_congr calm.entitlements calm.deviceBindings]
  exact held

end

section

variable {srv : UsageService} {prims : ServicePrimitives} {s : Database}
  {entId : Bytes}

theorem serverStep_start_ran {seen : Database} {cmd : StartCommand} {sid : Bytes}
    {now : Nat} {lease : Bytes × IssuedLease}
    (leased : leaseOf (serverStep srv prims s (.startUsage seen cmd sid now)).2 = some lease) :
    ∃ resp, (serverStep srv prims s (.startUsage seen cmd sid now)).2 =
        .ok (.usage resp) ∧ lease.1 = resp.sessionId ∧
      (srv.requestStart prims.toPrimitives seen cmd sid now).run s =
        .ok (resp, (serverStep srv prims s (.startUsage seen cmd sid now)).1) := by
  cases ans : (serverStep srv prims s (.startUsage seen cmd sid now)).2 with
  | error error =>
    rw [ans] at leased
    cases leased
  | ok reply =>
    obtain ⟨resp, rfl, ran⟩ := atomically_map_eq_ok ans
    rw [ans] at leased
    obtain ⟨given, -, rfl⟩ := Option.map_eq_some_iff.mp leased
    exact ⟨resp, rfl, rfl, ran⟩

theorem serverStep_heartbeat_ran {seen : Database} {cmd : HeartbeatCommand} {now : Nat}
    {lease : Bytes × IssuedLease}
    (leased : leaseOf (serverStep srv prims s (.heartbeatUsage seen cmd now)).2 = some lease) :
    ∃ resp, (serverStep srv prims s (.heartbeatUsage seen cmd now)).2 =
        .ok (.usage resp) ∧ lease.1 = resp.sessionId ∧
      (srv.requestHeartbeat prims.toPrimitives seen cmd now).run s =
        .ok (resp, (serverStep srv prims s (.heartbeatUsage seen cmd now)).1) := by
  cases serverStep_heartbeat_cases srv prims s seen cmd now with
  | inl done =>
    obtain ⟨resp, ran, ans⟩ := done
    rw [ans] at leased ⊢
    obtain ⟨given, -, rfl⟩ := Option.map_eq_some_iff.mp leased
    exact ⟨resp, rfl, rfl, ran⟩
  | inr failed =>
    obtain ⟨-, error, ans⟩ := failed
    rw [ans] at leased
    cases leased

/-- An answer with a lease is about an active session of the entitlement. -/
theorem serverStep_leased {op : ServerOp} (asked : op.leased = some entId)
    {lease : Bytes × IssuedLease}
    (leased : leaseOf (serverStep srv prims s op).2 = some lease) :
    ∃ row, sessionIn (serverStep srv prims s op).1 lease.1 = some row ∧
      row.entitlementId = entId ∧ row.status = .active := by
  cases op with
  | startUsage seen cmd sid now =>
    cases asked
    obtain ⟨resp, ans, isSession, ran⟩ := serverStep_start_ran leased
    obtain ⟨grant, performs, -, row, found, isRow⟩ := requestStart_performs ran
    rw [ans] at leased
    obtain ⟨active, held, hact⟩ := performs.active leased
    have htab := List.mem_of_find?_eq_some found
    have owner := List.find?_some found
    have same : active = row := session_unique (lookup_key held).1 htab
      ((lookup_key held).2.trans (isSession.trans isRow.symm))
    subst same
    simp only [decide_eq_true_eq] at owner
    exact ⟨active, held, owner.1, hact⟩
  | heartbeatUsage seen cmd now =>
    cases asked
    obtain ⟨resp, ans, isSession, ran⟩ := serverStep_heartbeat_ran leased
    obtain ⟨grant, performs, -, ⟨row, found, owner, -⟩, isRow⟩ := requestHeartbeat_performs ran
    rw [ans] at leased
    obtain ⟨active, held, hact⟩ := performs.active leased
    have sameRow : row = active := by
      rw [isSession, isRow, found] at held
      exact Option.some.inj held
    subst sameRow
    exact ⟨row, held, owner, hact⟩
  | _ => cases asked

/-- Only a start with the signature of its host opens a session. -/
theorem serverStep_opens (inv : Orderly s) {op : ServerOp} (idle : Idle s entId)
    (busy : ¬Idle (serverStep srv prims s op).1 entId) :
    ∃ cmd row, op.leased = some entId ∧
      entitlementIn s entId = some row ∧ row.status = .active ∧
      prims.p256SignatureValid row.hostIdentityPublicKeyB64 cmd.hostSignatureB64
        (usageStartPayload prims.crypto cmd) = true := by
  obtain ⟨grant, performs, time⟩ := @serverStep_serves srv prims s inv op
  obtain ⟨given, pre, opened, rfl, htab, owner, held, on⟩ := performs.move.opens idle busy
  have leased := performs.granted given rfl
  cases op with
  | startUsage seen cmd sid now =>
    obtain ⟨sess, found, isOwner, -⟩ := @serverStep_leased _ _ _
      cmd.entitlementId _ rfl _ leased
    rw [htab] at found
    cases found
    have same := isOwner.symm.trans owner
    subst same
    obtain ⟨resp, -, -, ran⟩ := serverStep_start_ran leased
    obtain ⟨row, isRow, signed⟩ := requestStart_signed ran
    rw [held] at isRow
    cases isRow
    exact ⟨cmd, pre, rfl, held, on, signed⟩
  | heartbeatUsage seen cmd now =>
    exfalso
    obtain ⟨sess, found, isOwner, hact⟩ := @serverStep_leased _ _ _
      cmd.entitlementId _ rfl _ leased
    rw [htab] at found
    cases found
    obtain ⟨resp, -, isSession, ran⟩ := serverStep_heartbeat_ran leased
    obtain ⟨-, -, row, -, -, inSessions, binds, -⟩ := requestHeartbeat_eq_ok ran
    obtain ⟨-, -, -, -, isCommand⟩ := requestHeartbeat_performs ran
    have same : given.sessionId = cmd.sessionId := isSession.trans isCommand
    rw [same] at htab
    have wasActive := performs.later.active inSessions htab hact
    simp only [sessionBinds, Bool.and_eq_true, beq_iff_eq] at binds
    exact idle row (lookup_key inSessions).1
      (binds.1.1.2.trans (isOwner.symm.trans owner)) wasActive
  | _ => cases time given rfl

end

end VisionForge.Server
