import VisionForge.Server.Transactions

/-! # Starts, heartbeats and cancellations as moves -/

namespace VisionForge.Server

open Lib.Ascii Lib.FlatJson Lib.Table Lib.Transaction UsageLease UsageRepository UsageService

variable {srv : UsageService} {prims : Primitives} {s t u : Database}

theorem supported_of_eq_ok {row : EntitlementRow} {settings : DualMachineSettings} {res : Unit}
    (h : (requireSupportedEntitlementVersions (some row) settings).run s = .ok (res, t)) :
    Supported settings row := by
  unfold requireSupportedEntitlementVersions at h
  obtain ⟨host, hostAtLeast, h⟩ := unwrap_ok.mp h
  split at h
  · cases h
  rename_i hostSupported
  obtain ⟨android, androidAtLeast, h⟩ := unwrap_ok.mp h
  split at h
  · cases h
  rename_i androidSupported
  simp only [Bool.not_eq_true, Bool.not_eq_false'] at hostSupported androidSupported
  exact ⟨hostSupported ▸ hostAtLeast, androidSupported ▸ androidAtLeast⟩

variable {row : UsageSessionRow} {resp : UsageResponse}

theorem sessionResponse_lease {ent : EntitlementRow} {hchg : Nat}
    (h : (srv.sessionResponse prims ent row hchg).run s = .ok (resp, t)) :
    t = s ∧ resp.sessionId = row.sessionId ∧ ∀ lease, resp.lease = some lease →
      row.status = .active ∧ resign srv prims ent row = .ok lease := by
  unfold sessionResponse at h
  split at h
  · cases h
    refine ⟨rfl, rfl, ?_⟩
    intro lease no
    cases no
  · rename_i hact
    obtain ⟨lease, signed, h⟩ := ofExcept_ok.mp h
    rw [require_ok] at h
    cases h.2
    refine ⟨rfl, rfl, ?_⟩
    intro given same
    cases same
    simp only [not_or, not_not] at hact
    exact ⟨hact.1, signed⟩

/-- An answer that signs again gives out nothing. -/
theorem performs_of_repeated {ent : EntitlementRow} (calm : Calm s t)
    (found : sessionIn t row.sessionId = some row)
    (held : entitlementIn t row.entitlementId = some ent)
    (sameSession : resp.sessionId = row.sessionId)
    (signed : ∀ lease, resp.lease = some lease →
      row.status = .active ∧ resign srv prims ent row = .ok lease) :
    Performs srv prims s t none (.ok (.usage resp)) where
  move := .amended calm.amends
  remembers := calm.remembers
  granted := fun _ no => by cases no
  repeated := by
    intro _ sessionId lease ans
    obtain ⟨given, hasLease, same⟩ := Option.map_eq_some_iff.mp ans
    cases same
    obtain ⟨active, resigned⟩ := signed lease hasLease
    rw [sameSession]
    exact ⟨row, ent, found, active, held, resigned⟩

variable {before : EntitlementRow}

theorem UsageService.Pays.of_same {entId : Bytes} {grant : Grant} {seq charged : Nat}
    (h : Pays u t entId before grant seq charged)
    (entitlements : u.entitlements = s.entitlements) (ledger : u.usageLedger = s.usageLedger) :
    Pays s t entId before grant seq charged := by
  cases h with
  | permanent isPermanent same books =>
    exact .permanent isPermanent (same.trans entitlements) (books.trans ledger)
  | metered isMetered pos duration found table books owner sess number seconds start stop =>
    rw [entitlements] at found table
    rw [ledger] at books
    exact .metered isMetered pos duration found table books owner sess number seconds
      start stop

/-- The session of an answer is the one that its start request opened. -/
def StartedFor (database : Database) (cmd : StartCommand) (sessionId : Bytes) : Prop :=
  ∃ row, startedBy database cmd.entitlementId cmd.requestId = some row ∧
    row.sessionId = sessionId

theorem requireActiveEntitlement_active {offered : Option EntitlementRow} {cmd : UsageCommon}
    {row : EntitlementRow} (h : (requireActiveEntitlement offered cmd).run s = .ok (row, t)) :
    row.status = .active := by
  obtain ⟨found, t1, binding, h⟩ := bind_ok.mp h
  rw [require_ok] at h
  cases h.2
  exact h.1.1

theorem startReplay_performs {cmd : StartCommand} {row : EntitlementRow}
    {existing : UsageSessionRow} (calm : Calm s u)
    (held : entitlementIn u cmd.entitlementId = some row)
    (found : startedBy u cmd.entitlementId cmd.requestId = some existing)
    (h : (srv.startReplay prims cmd row existing).run u = .ok (resp, t)) :
    Performs srv prims s t none (.ok (.usage resp)) ∧
      StartedFor t cmd resp.sessionId := by
  unfold startReplay at h
  rw [require_ok] at h
  replace h := read_ok h.2 rfl
  obtain ⟨rfl, sameSession, signed⟩ := sessionResponse_lease h
  have keys := List.find?_some found
  simp only [decide_eq_true_eq] at keys
  refine ⟨performs_of_repeated calm ?_ ?_ sameSession signed, existing, found, sameSession.symm⟩
  · exact lookup_of_mem (Database.sessionKeys _) (List.mem_of_find?_eq_some found)
  · rw [keys.1]
    exact held

variable {sessionId : Bytes} {now : Nat}

theorem startAnew_performs {cmd : StartCommand} (calm : Calm s u)
    (held : entitlementIn u cmd.entitlementId = some before)
    (binds : entitlementBinds cmd.toUsageCommon before = true)
    (supported : Supported srv.settings before)
    (uncancelled : cancellationIn s cmd.entitlementId cmd.requestId = none)
    (unused : startedBy u cmd.entitlementId cmd.requestId = none)
    (h : (srv.startAnew prims cmd (entitlementIn u cmd.entitlementId) sessionId
      now).run u = .ok (resp, t)) :
    ∃ given, Performs srv prims s t (some given) (.ok (.usage resp)) ∧
      given.now = now ∧ StartedFor t cmd resp.sessionId := by
  obtain ⟨row, _, requiring, h⟩ := bind_ok.mp h
  have on := requireActiveEntitlement_active requiring
  obtain ⟨rfl, same⟩ := requireActiveEntitlement_eq_ok requiring
  rw [held] at same
  cases same
  replace h := read_ok h rfl
  rw [require_ok, bind_ok] at h
  obtain ⟨idle, chal, _, checking, h⟩ := h
  obtain rfl := (verifyStartChallenge_eq_ok checking).symm
  obtain ⟨fresh, t2, consuming, h⟩ := bind_ok.mp h
  rw [require_ok, bind_ok] at h
  obtain ⟨-, used, t3, marking, h⟩ := h
  rw [require_ok] at h
  have quiet := (consumeNonce_quiet consuming).trans (consumeStartChallenge_quiet marking)
  have held3 : entitlementIn t3 cmd.entitlementId = some before := by
    rw [entitlementIn_congr quiet.entitlements quiet.deviceBindings]
    exact held
  obtain ⟨after, hchg, lease, issues, rfl, found, -, sessions, pays, others⟩ :=
    openSession_eq_ok held3 h.2
  refine ⟨⟨sessionId, now, lease⟩, ⟨?_, ?_, ?_, ?_⟩, rfl, ?_⟩
  · refine .opened calm.usageSessions ?_ ?_ (quiet.usageSessions ▸ sessions) ?_
      (others.usageStartCancellations.trans
        (quiet.usageStartCancellations.trans calm.usageStartCancellations))
      (others.deviceBindings.trans (quiet.deviceBindings.trans calm.deviceBindings))
      (others.licenseActivations.trans (quiet.licenseActivations.trans calm.licenseActivations))
      ?_ on ?_ supported found issues
      (pays.of_same (quiet.entitlements.trans calm.entitlements)
        (quiet.usageLedger.trans calm.usageLedger))
    · intro other mem owner hact
      have none := List.find?_eq_none.mp idle other mem
      simp [owner, hact] at none
    · intro other mem owner same
      have none := List.find?_eq_none.mp unused other mem
      simp [owner, same] at none
    · intro cancel mem same
      have none := List.find?_eq_none.mp uncancelled cancel mem
      simp [same] at none
    · rw [← entitlementIn_congr calm.entitlements calm.deviceBindings]
      exact held
    · simp only [entitlementBinds, Bool.and_eq_true, beq_iff_eq] at binds
      exact binds.1.1.1
  · apply (calm.trans quiet.calm).remembers.trans
    apply Remembers.of_same others.usageStartCancellations
    intro challengeId row found used
    unfold LicenseRepository.challengeIn at found ⊢
    rw [others.activationChallenges]
    exact found
  · intro given same
    cases same
    rfl
  · intro no
    cases no
  · refine ⟨_, ?_, rfl⟩
    unfold startedBy at unused ⊢
    rw [sessions, quiet.usageSessions, List.find?_append, unused, Option.none_or]
    exact List.find?_cons_of_pos (by simp [newSession])

variable {seen : Database}

/-- A start that succeeds: stale sessions end first, then an earlier session answers or a new
    one is opened. -/
theorem requestStart_eq_ok {cmd : StartCommand}
    (h : (srv.requestStart prims seen cmd sessionId now).run s = .ok (resp, t)) :
    cancellationIn s cmd.entitlementId cmd.requestId = none ∧
    ∃ u before, Calm s u ∧ entitlementIn u cmd.entitlementId = some before ∧
      entitlementBinds cmd.toUsageCommon before = true ∧ Supported srv.settings before ∧
      ((∃ existing, startedBy u cmd.entitlementId cmd.requestId = some existing ∧
          (srv.startReplay prims cmd before existing).run u = .ok (resp, t)) ∨
        (startedBy u cmd.entitlementId cmd.requestId = none ∧
          (srv.startAnew prims cmd (entitlementIn u cmd.entitlementId) sessionId
            now).run u = .ok (resp, t))) := by
  unfold requestStart at h
  rw [require_ok, reading_ok] at h
  obtain ⟨-, -, -, -, h⟩ := h
  replace h := read_ok h rfl
  rw [require_ok, bind_ok] at h
  obtain ⟨uncancelled, _, u, expiring, h⟩ := h
  have calm := expireStaleSessions_calm expiring
  replace h := offered_ok h
  obtain ⟨versions, h⟩ := h
  obtain ⟨before, _, verifying, h⟩ := bind_ok.mp h
  obtain ⟨rfl, held, binds⟩ := verifyEntitlementCommand_eq_ok verifying
  have supported : Supported srv.settings before := by
    rw [held] at versions
    exact supported_of_eq_ok versions
  replace h := read_ok h rfl
  refine ⟨uncancelled, _, before, calm, held, binds, supported, ?_⟩
  split at h
  · rename_i row found
    exact .inl ⟨row, found, h⟩
  · rename_i unused
    exact .inr ⟨unused, h⟩

theorem requestStart_performs {cmd : StartCommand}
    (h : (srv.requestStart prims seen cmd sessionId now).run s = .ok (resp, t)) :
    ∃ grant, Performs srv prims s t grant (.ok (.usage resp)) ∧
      (∀ given, grant = some given → given.now = now) ∧
      StartedFor t cmd resp.sessionId := by
  obtain ⟨uncancelled, u, before, calm, held, binds, supported, ans⟩ := requestStart_eq_ok h
  cases ans with
  | inl replay =>
    obtain ⟨existing, found, replaying⟩ := replay
    obtain ⟨performs, started⟩ := startReplay_performs calm held found replaying
    refine ⟨none, performs, ?_, started⟩
    intro given no
    cases no
  | inr anew =>
    obtain ⟨given, performs, time, started⟩ :=
      startAnew_performs calm held binds supported uncancelled anew.1 anew.2
    refine ⟨some given, performs, ?_, started⟩
    rintro _ ⟨⟩
    exact time

theorem startReplay_calm {cmd : StartCommand} {row : EntitlementRow}
    {existing : UsageSessionRow} (calm : Calm s u)
    (h : (srv.startReplay prims cmd row existing).run u = .ok (resp, t)) :
    Calm s t := by
  unfold startReplay at h
  rw [require_ok] at h
  have answering := read_ok h.2 rfl
  obtain ⟨rfl, -⟩ := sessionResponse_eq_ok answering
  exact calm

theorem requestStart_cases {cmd : StartCommand}
    (h : (srv.requestStart prims seen cmd sessionId now).run s = .ok (resp, t)) :
    Calm s t ∨ ∃ given, Move srv prims s t (some given) := by
  obtain ⟨uncancelled, u, before, calm, held, binds, supported, ans⟩ := requestStart_eq_ok h
  cases ans with
  | inl replay =>
    obtain ⟨existing, -, replaying⟩ := replay
    exact .inl (startReplay_calm calm replaying)
  | inr anew =>
    obtain ⟨given, performs, -, -⟩ :=
      startAnew_performs calm held binds supported uncancelled anew.1 anew.2
    exact .inr ⟨given, performs.move⟩

theorem requestStart_started {cmd : StartCommand} {other : Bytes}
    (started : StartedFor s cmd other)
    (h : (srv.requestStart prims seen cmd sessionId now).run s = .ok (resp, t)) :
    Calm s t := by
  obtain ⟨-, u, before, calm, -, -, -, ans⟩ := requestStart_eq_ok h
  cases ans with
  | inl replay =>
    obtain ⟨existing, -, replaying⟩ := replay
    exact startReplay_calm calm replaying
  | inr anew =>
    obtain ⟨row, found, -⟩ := started
    obtain ⟨new, isNew, -⟩ := (Settles.grows calm.usageSessions).startedBy found
    rw [anew.1] at isNew
    cases isNew

/-- A heartbeat that its session is past. -/
def Counted (database : Database) (cmd : HeartbeatCommand) : Prop :=
  ∃ row, sessionIn database cmd.sessionId = some row ∧
    row.entitlementId = cmd.entitlementId ∧ cmd.sequence ≤ row.lastHeartbeatSequence

variable {cmd : HeartbeatCommand}

theorem duplicateHeartbeatResponse_lease {ent : EntitlementRow} {requestHash : Bytes}
    (h : (srv.duplicateHeartbeatResponse prims ent row cmd requestHash).run s =
      .ok (some resp, t)) :
    resp.sessionId = row.sessionId ∧ ∀ lease, resp.lease = some lease →
      row.status = .active ∧ resign srv prims ent row = .ok lease := by
  unfold duplicateHeartbeatResponse at h
  split at h
  · cases h
  · rw [require_ok] at h
    replace h := read_ok h.2 rfl
    obtain ⟨given, _, answering, last⟩ := bind_ok.mp h
    cases last
    exact (sessionResponse_lease answering).2

theorem heartbeatAnew_eq_ok {claims : Members}
    (h : (srv.heartbeatAnew prims claims before row cmd now).run s = .ok (resp, t)) :
    ∃ u, Quiet s u ∧ (srv.applyHeartbeat prims before row cmd
      (prims.crypto.sha256Hex (usageHeartbeatPayload prims.crypto cmd)) now).run u =
        .ok (resp, t) := by
  unfold heartbeatAnew at h
  rw [require_ok, bind_ok] at h
  obtain ⟨-, fresh, u, consuming, h⟩ := h
  rw [require_ok] at h
  exact ⟨u, consumeNonce_quiet consuming, h.2⟩

theorem heartbeatAnew_performs {claims : Members}
    (held : entitlementIn s cmd.entitlementId = some before)
    (bound : entitlementBinds cmd.toUsageCommon before = true)
    (sess : sessionIn s cmd.sessionId = some row) (binds : sessionBinds cmd row = true)
    (supported : Supported srv.settings before)
    (h : (srv.heartbeatAnew prims claims before row cmd now).run s = .ok (resp, t)) :
    ∃ given, Performs srv prims s t (some given) (.ok (.usage resp)) ∧
      given.now = now ∧ Counted t cmd ∧ resp.sessionId = cmd.sessionId := by
  obtain ⟨u, quiet, applying⟩ := heartbeatAnew_eq_ok h
  obtain ⟨active, next, window, renewing⟩ := applyHeartbeat_eq_ok applying
  have ids : before.entitlementId = cmd.entitlementId ∧
      row.sessionId = cmd.sessionId ∧ row.entitlementId = cmd.entitlementId := by
    simp only [entitlementBinds, sessionBinds, Bool.and_eq_true, beq_iff_eq] at bound binds
    exact ⟨bound.1.1.1, binds.1.1.1, binds.1.1.2⟩
  have owner : before.entitlementId = row.entitlementId := ids.1.trans ids.2.2.symm
  have heldU : entitlementIn u before.entitlementId = some before := by
    rw [entitlementIn_congr quiet.entitlements quiet.deviceBindings, ids.1]
    exact held
  have sessionU : sessionIn u row.sessionId = some row := by
    rw [sessionIn_congr quiet.usageSessions, ids.2.1]
    exact sess
  obtain ⟨after, hchg, lease, issues, rfl, found, updated, sessions, pays, others⟩ :=
    renewLease_eq_ok heldU sessionU active renewing
  have counted : Counted t cmd := by
    rw [ids.2.1] at updated
    exact ⟨_, updated, ids.2.2, le_rfl⟩
  refine ⟨⟨row.sessionId, now, lease⟩, ⟨?_, ?_, ?_, ?_⟩, rfl, counted, ids.2.1⟩
  · refine .renewed (ids.2.1 ▸ sess) active next window (quiet.usageSessions ▸ sessions)
      (others.usageStartCancellations.trans quiet.usageStartCancellations)
      (others.deviceBindings.trans quiet.deviceBindings)
      (others.licenseActivations.trans quiet.licenseActivations) (ids.2.2 ▸ held) supported
      (owner ▸ found) issues ?_
    rw [← owner]
    exact pays.of_same quiet.entitlements quiet.usageLedger
  · apply quiet.calm.remembers.trans
    apply Remembers.of_same others.usageStartCancellations
    intro challengeId row found used
    unfold LicenseRepository.challengeIn at found ⊢
    rw [others.activationChallenges]
    exact found
  · intro given same
    cases same
    rfl
  · intro no
    cases no

/-- A heartbeat that succeeds repeats the last one or is the next. -/
theorem requestHeartbeat_eq_ok
    (h : (srv.requestHeartbeat prims seen cmd now).run s = .ok (resp, t)) :
    ∃ claims before row, entitlementIn s cmd.entitlementId = some before ∧
      entitlementBinds cmd.toUsageCommon before = true ∧
      sessionIn s cmd.sessionId = some row ∧ sessionBinds cmd row = true ∧
      Supported srv.settings before ∧
      ((cmd.sequence = row.lastHeartbeatSequence ∧ t = s ∧
          (srv.duplicateHeartbeatResponse prims before row cmd
            (prims.crypto.sha256Hex (usageHeartbeatPayload prims.crypto cmd))).run s =
            .ok (some resp, t)) ∨
        (srv.heartbeatAnew prims claims before row cmd now).run s = .ok (resp, t)) := by
  unfold requestHeartbeat at h
  rw [require_ok, reading_ok] at h
  obtain ⟨-, claims, -, -, h⟩ := h
  replace h := offered_ok h
  obtain ⟨versions, h⟩ := h
  replace h := read_ok h rfl
  rw [bind_ok] at h
  obtain ⟨row, _, binding, h⟩ := h
  obtain ⟨rfl, sess, binds⟩ := requireSessionBinding_eq_ok binding
  rw [bind_ok] at h
  obtain ⟨before, _, binding, h⟩ := h
  obtain ⟨rfl, held, bound⟩ := requireEntitlementBinding_eq_ok binding
  have supported : Supported srv.settings before := by
    rw [held] at versions
    exact supported_of_eq_ok versions
  rw [bind_ok] at h
  obtain ⟨duplicate, _, repeating, h⟩ := h
  obtain ⟨rfl, isNew⟩ := duplicateHeartbeatResponse_eq_ok repeating
  refine ⟨claims, before, row, held, bound, sess, binds, supported, ?_⟩
  cases duplicate with
  | some ans =>
    cases h
    have last : cmd.sequence = row.lastHeartbeatSequence := by
      by_contra other
      cases isNew.mpr other
    exact .inl ⟨last, rfl, repeating⟩
  | none => exact .inr h

theorem requestHeartbeat_performs
    (h : (srv.requestHeartbeat prims seen cmd now).run s = .ok (resp, t)) :
    ∃ grant, Performs srv prims s t grant (.ok (.usage resp)) ∧
      (∀ given, grant = some given → given.now = now) ∧ Counted t cmd ∧
      resp.sessionId = cmd.sessionId := by
  obtain ⟨claims, before, row, held, bound, sess, binds, supported, ans⟩ :=
    requestHeartbeat_eq_ok h
  cases ans with
  | inr anew =>
    obtain ⟨given, performs, time, counted⟩ :=
      heartbeatAnew_performs held bound sess binds supported anew
    refine ⟨some given, performs, ?_, counted⟩
    rintro _ ⟨⟩
    exact time
  | inl repeats =>
    obtain ⟨last, rfl, repeating⟩ := repeats
    obtain ⟨sameSession, signed⟩ := duplicateHeartbeatResponse_lease repeating
    have ids : row.sessionId = cmd.sessionId ∧
        row.entitlementId = cmd.entitlementId := by
      simp only [sessionBinds, Bool.and_eq_true, beq_iff_eq] at binds
      exact ⟨binds.1.1.1, binds.1.1.2⟩
    refine ⟨none, performs_of_repeated (.refl _) (ids.1 ▸ sess) (ids.2 ▸ held) sameSession
      signed, ?_, ⟨row, sess, ids.2, last.le⟩, sameSession.trans ids.1⟩
    intro given no
    cases no

theorem requestHeartbeat_cases
    (h : (srv.requestHeartbeat prims seen cmd now).run s = .ok (resp, t)) :
    Calm s t ∨ ∃ given, Move srv prims s t (some given) := by
  obtain ⟨claims, before, row, held, bound, sess, binds, supported, ans⟩ :=
    requestHeartbeat_eq_ok h
  cases ans with
  | inl repeats =>
    obtain ⟨-, rfl, -⟩ := repeats
    exact .inl (.refl _)
  | inr anew =>
    obtain ⟨given, performs, -, -⟩ :=
      heartbeatAnew_performs held bound sess binds supported anew
    exact .inr ⟨given, performs.move⟩

theorem requestHeartbeat_counted (counted : Counted s cmd)
    (h : (srv.requestHeartbeat prims seen cmd now).run s = .ok (resp, t)) :
    t = s := by
  obtain ⟨claims, before, row, -, -, sess, -, -, ans⟩ := requestHeartbeat_eq_ok h
  obtain ⟨found, isFound, -, past⟩ := counted
  rw [sess] at isFound
  cases isFound
  cases ans with
  | inl repeats => exact repeats.2.1
  | inr anew =>
    obtain ⟨u, -, applying⟩ := heartbeatAnew_eq_ok anew
    obtain ⟨-, next, -, -⟩ := applyHeartbeat_eq_ok applying
    omega

theorem endThenRaise_commit {α : Type} {reason code : String} {error : ServerException}
    (h : (endThenRaise sessionId now reason code : Statement α).run s = .error (.commit error t)) :
    Calm s t := by
  have rolls : RollsBack (endSession sessionId now reason) := by
    apply RollsBack.bind .get
    intro db
    exact .bind (rollsBack_writeChecked _ _) (fun _ => .pure _)
  replace h := rolls.bind_eq_commit h
  obtain ⟨_, u, ending, last⟩ := h
  cases last
  exact endSession_calm ending

theorem applyHeartbeat_commit {requestHash : Bytes} {error : ServerException}
    (h : (srv.applyHeartbeat prims before row cmd requestHash now).run s =
      .error (.commit error t)) : Calm s t := by
  replace h := (rollsBack_requireEntitlementBinding _ _).bind_eq_commit h
  obtain ⟨_, _, binding, h⟩ := h
  obtain ⟨rfl, -, -⟩ := requireEntitlementBinding_eq_ok binding
  replace h := (RollsBack.require _ _).bind_eq_commit h
  obtain ⟨_, _, requiring, h⟩ := h
  rw [← bind_pure (require _ _), require_ok] at requiring
  cases requiring.2
  replace h := (RollsBack.require _ _).bind_eq_commit h
  obtain ⟨_, _, requiring, h⟩ := h
  rw [← bind_pure (require _ _), require_ok] at requiring
  cases requiring.2
  split at h
  · exact endThenRaise_commit h
  split at h
  · exact endThenRaise_commit h
  split at h
  · exact endThenRaise_commit h
  · exact absurd h (rollsBack_renewLease _ _ _ _ _ _ _ _ _ _)

/-- A heartbeat that raises keeps at most the end of its session. -/
theorem requestHeartbeat_commit {error : ServerException}
    (h : (srv.requestHeartbeat prims seen cmd now).run s =
      .error (.commit error t)) : Calm s t := by
  replace h := (RollsBack.require _ _).bind_eq_commit h
  obtain ⟨_, _, requiring, h⟩ := h
  rw [← bind_pure (require _ _), require_ok] at requiring
  cases requiring.2
  replace h := (RollsBack.reading _ _).bind_eq_commit h
  obtain ⟨claims, _, checking, h⟩ := h
  rw [← bind_pure (Lib.Transaction.reading _ _), reading_ok] at checking
  obtain ⟨_, _, _, last⟩ := checking
  cases last
  replace h := (RollsBack.bind .get (fun _ => .pure _)).bind_eq_commit h
  obtain ⟨_, _, reading, h⟩ := h
  cases reading
  replace h := (rollsBack_requireSupportedEntitlementVersions _ _).bind_eq_commit h
  obtain ⟨_, _, versions, h⟩ := h
  obtain rfl := (requireSupportedEntitlementVersions_eq_ok versions).symm
  replace h := (RollsBack.bind .get (fun _ => .pure _)).bind_eq_commit h
  obtain ⟨_, _, reading, h⟩ := h
  cases reading
  replace h := (rollsBack_requireSessionBinding _ _ _).bind_eq_commit h
  obtain ⟨row, _, binding, h⟩ := h
  obtain ⟨rfl, -, -⟩ := requireSessionBinding_eq_ok binding
  replace h := (rollsBack_requireEntitlementBinding _ _).bind_eq_commit h
  obtain ⟨before, _, binding, h⟩ := h
  obtain ⟨rfl, -, -⟩ := requireEntitlementBinding_eq_ok binding
  replace h := (rollsBack_duplicateHeartbeatResponse _ _ _ _ _ _).bind_eq_commit h
  obtain ⟨duplicate, _, repeating, h⟩ := h
  obtain ⟨rfl, -⟩ := duplicateHeartbeatResponse_eq_ok repeating
  cases duplicate with
  | some ans => exact absurd h (RollsBack.pure _ _ _ _)
  | none =>
    replace h := (RollsBack.require _ _).bind_eq_commit h
    obtain ⟨_, _, requiring, h⟩ := h
    rw [← bind_pure (require _ _), require_ok] at requiring
    cases requiring.2
    replace h := (rollsBack_consumeNonce _ _ _ _ _).bind_eq_commit h
    obtain ⟨_, _, consuming, h⟩ := h
    have quiet := consumeNonce_quiet consuming
    replace h := (RollsBack.require _ _).bind_eq_commit h
    obtain ⟨_, _, requiring, h⟩ := h
    rw [← bind_pure (require _ _), require_ok] at requiring
    cases requiring.2
    apply quiet.calm.trans
    exact applyHeartbeat_commit h

end VisionForge.Server
