import VisionForge.Server.UsageService

/-! # Sessions of the usage service

What a successful start and a successful heartbeat do, and the runs of one session:
one start and any number of successful heartbeats at non-decreasing times.
-/

namespace VisionForge.Server.UsageService

open Lib.Ascii Lib.FlatJson Lib.Table Lib.Transaction UsageLease UsageRepository

variable {service : UsageService} {prims : Primitives} {s t : Database}

/-- The entitlement after a lease was paid for, the seconds charged and the length of the
    lease. -/
inductive Charges (service : UsageService) (before : EntitlementRow) :
    EntitlementRow → Nat → Nat → Prop where
  | permanent : isPermanent before = true →
      Charges service before before 0 service.settings.usageLeaseTtlSeconds
  | metered {seconds : Nat} : isPermanent before = false → before.status = .active →
      seconds = min service.settings.usageLeaseTtlSeconds before.remainingSeconds →
      Charges service before (debit seconds before) seconds seconds

/-- The identity of an entitlement that its leases carry. -/
structure SameIdentity (before after : EntitlementRow) : Prop where
  entitlementId : after.entitlementId = before.entitlementId
  pairId : after.pairId = before.pairId
  protocolVersion : after.protocolVersion = before.protocolVersion
  revocationVersion : after.revocationVersion = before.revocationVersion
  hostKeySha256 : after.hostKeySha256 = before.hostKeySha256
  androidKeySha256 : after.androidKeySha256 = before.androidKeySha256
  authorizationKind : after.authorizationKind = before.authorizationKind

variable {before after : EntitlementRow}

theorem Charges.sameIdentity {hchg duration : Nat}
    (h : Charges service before after hchg duration) : SameIdentity before after := by
  cases h with
  | permanent _ => exact ⟨rfl, rfl, rfl, rfl, rfl, rfl, rfl⟩
  | metered _ _ _ => exact ⟨rfl, rfl, rfl, rfl, rfl, rfl, rfl⟩

theorem chargeEntitlement_eq_ok {entId : Bytes}
    (held : entitlementIn s entId = some before)
    (h : (service.chargeEntitlement entId before).run s = .ok (after, t)) :
    Charges service before after (service.chargedSeconds before)
      (service.leaseDurationSeconds before) ∧
    t.deviceBindings = s.deviceBindings ∧ t.usageSessions = s.usageSessions ∧
      entitlementIn t entId = some after := by
  unfold chargeEntitlement at h
  unfold leaseDurationSeconds
  cases permanent : isPermanent before with
  | true =>
    simp only [permanent, if_true] at h ⊢
    cases h
    have free : service.chargedSeconds before = 0 := by
      unfold chargedSeconds
      rw [if_pos permanent]
    rw [free]
    exact ⟨.permanent permanent, rfl, rfl, held⟩
  | false =>
    simp only [permanent, Bool.false_eq_true, if_false] at h ⊢
    obtain ⟨bindings, sessions, on, -, rfl, found⟩ := debitEntitlement_eq_ok held h
    have metered : service.chargedSeconds before =
        min service.settings.usageLeaseTtlSeconds before.remainingSeconds := by
      unfold chargedSeconds
      rw [if_neg (by simp [permanent])]
    exact ⟨.metered permanent on metered, bindings, sessions, found⟩

/-- A lease that was given out: for which session and when. -/
structure Grant where
  sessionId : Bytes
  now : Nat
  lease : IssuedLease

/-- The books after a lease was paid for: nothing for a permanent entitlement, one charge for
    the window of the lease otherwise. -/
inductive Pays (s t : Database) (entitlementId : Bytes) (before : EntitlementRow)
    (grant : Grant) (sequence : Nat) : Nat → Prop where
  | permanent : isPermanent before = true → t.entitlements = s.entitlements →
      t.usageLedger = s.usageLedger → Pays s t entitlementId before grant sequence 0
  | metered {charged : Nat} {charge : LedgerRow} : isPermanent before = false → 0 < charged →
      grant.lease.usageLeaseTtlSeconds = charged →
      (∃ row ∈ s.entitlements, canDebit entitlementId charged row = true) →
      t.entitlements = update (canDebit entitlementId charged) (debit charged) s.entitlements →
      t.usageLedger = s.usageLedger ++ [charge] →
      charge.entitlementId = entitlementId → charge.sessionId = grant.sessionId →
      charge.sequence = sequence → charge.chargedSeconds = charged →
      charge.intervalStartedAtEpoch = grant.lease.usageLeaseNotBeforeEpoch →
      charge.intervalEndedAtEpoch = grant.lease.usageLeaseExpiresAtEpoch →
      Pays s t entitlementId before grant sequence charged

/-- The tables that neither a start nor a heartbeat touches. -/
structure KeepsOthers (s t : Database) : Prop where
  deviceBindings : t.deviceBindings = s.deviceBindings
  usageStartCancellations : t.usageStartCancellations = s.usageStartCancellations
  activationChallenges : t.activationChallenges = s.activationChallenges
  licenseActivations : t.licenseActivations = s.licenseActivations

theorem KeepsOthers.trans {u : Database} (first : KeepsOthers s t) (snd : KeepsOthers t u) :
    KeepsOthers s u :=
  ⟨snd.1.trans first.1, snd.2.trans first.2, snd.3.trans first.3, snd.4.trans first.4⟩

theorem chargeEntitlement_others {entId : Bytes}
    (h : (service.chargeEntitlement entId before).run s = .ok (after, t)) :
    KeepsOthers s t ∧ t.usageLedger = s.usageLedger := by
  unfold chargeEntitlement at h
  split at h
  · cases h
    exact ⟨⟨rfl, rfl, rfl, rfl⟩, rfl⟩
  · obtain ⟨-, -, _, _, rfl⟩ := debitEntitlement_table h
    exact ⟨⟨rfl, rfl, rfl, rfl⟩, rfl⟩

theorem recordCharge_keeps {row : LedgerRow} (h : (recordCharge before row).run s = .ok ((), t)) :
    KeepsUsage s t ∧ KeepsOthers s t := by
  unfold recordCharge at h
  split at h
  · cases h
    exact ⟨.refl s, rfl, rfl, rfl, rfl⟩
  · obtain ⟨_, rfl⟩ := addLedgerCharge_table h
    exact ⟨⟨rfl, rfl, rfl⟩, rfl, rfl, rfl, rfl⟩

/-- An entitlement is debited in one statement and its charge written down in a later one. -/
theorem pays_of_charge {entId : Bytes} {grant : Grant} {seq : Nat} {charge : LedgerRow}
    {s₁ u v : Database}
    (charging : (service.chargeEntitlement entId before).run s = .ok (after, s₁))
    (recording : (recordCharge before charge).run u = .ok ((), v))
    (between : u.entitlements = s₁.entitlements) (betweenLedger : u.usageLedger = s₁.usageLedger)
    (later : t.entitlements = v.entitlements) (laterLedger : t.usageLedger = v.usageLedger)
    (pos : 0 < grant.lease.usageLeaseTtlSeconds)
    (duration : grant.lease.usageLeaseTtlSeconds = service.leaseDurationSeconds before)
    (owner : charge.entitlementId = entId) (sess : charge.sessionId = grant.sessionId)
    (number : charge.sequence = seq)
    (seconds : charge.chargedSeconds = service.chargedSeconds before)
    (start : charge.intervalStartedAtEpoch = grant.lease.usageLeaseNotBeforeEpoch)
    (stop : charge.intervalEndedAtEpoch = grant.lease.usageLeaseExpiresAtEpoch) :
    Pays s t entId before grant seq (service.chargedSeconds before) := by
  unfold chargeEntitlement at charging
  unfold recordCharge at recording
  cases permanent : isPermanent before with
  | true =>
    simp only [permanent, if_true] at charging recording
    cases charging
    cases recording
    have free : service.chargedSeconds before = 0 := by
      unfold chargedSeconds
      rw [if_pos permanent]
    rw [free]
    exact .permanent permanent (later.trans between) (laterLedger.trans betweenLedger)
  | false =>
    simp only [permanent, Bool.false_eq_true, if_false] at charging recording
    have paid : service.leaseDurationSeconds before = service.chargedSeconds before := by
      unfold leaseDurationSeconds
      rw [if_neg (by simp [permanent])]
    obtain ⟨found, -, _, _, rfl⟩ := debitEntitlement_table charging
    obtain ⟨_, rfl⟩ := addLedgerCharge_table recording
    refine .metered permanent ?_ (duration.trans paid) found (later.trans between) ?_ owner
      sess number seconds start stop
    · rw [← paid, ← duration]
      exact pos
    · rw [laterLedger]
      dsimp only
      rw [betweenLedger]

variable {resp : UsageResponse}

structure Issues (service : UsageService) (prims : Primitives) (before after : EntitlementRow)
    (sessionId channelBindingSha256 : Bytes) (sequence : Nat) (previousLeaseSha256 : Bytes)
    (now notBefore charged : Nat) (lease : IssuedLease) : Prop where
  charges : Charges service before after charged lease.usageLeaseTtlSeconds
  signed : service.tokenCodec.issueUsageLease prims.crypto after sessionId channelBindingSha256
    sequence (ascii "active") lease.usageLeaseTtlSeconds previousLeaseSha256 now notBefore =
      .ok lease

variable {sessionId : Bytes} {now : Nat}

theorem issueUsageLease_window {codec : RsaTokenCodec} {crypto : Cryptography}
    {ent : EntitlementRow} {channelBindingSha256 : Bytes} {seq : Nat} {phase : Bytes}
    {duration : Nat} {previousLeaseSha256 : Bytes} {notBefore : Nat} {lease : IssuedLease}
    (h : codec.issueUsageLease crypto ent sessionId
      channelBindingSha256 seq phase duration previousLeaseSha256 now notBefore = .ok lease) :
    lease.usageLeaseTtlSeconds = duration ∧ lease.usageLeaseNotBeforeEpoch = notBefore ∧
      lease.usageLeaseExpiresAtEpoch = notBefore + duration := by
  obtain ⟨-, rfl⟩ := RsaTokenCodec.issueUsageLease_eq_ok.mp h
  exact ⟨rfl, rfl, rfl⟩

theorem issueUsageLease_digest {codec : RsaTokenCodec} {crypto : Cryptography}
    {ent : EntitlementRow} {channelBindingSha256 : Bytes} {seq : Nat} {phase : Bytes}
    {duration : Nat} {previousLeaseSha256 : Bytes} {notBefore : Nat} {lease : IssuedLease}
    (h : codec.issueUsageLease crypto ent sessionId
      channelBindingSha256 seq phase duration previousLeaseSha256 now notBefore = .ok lease) :
    lease.usageLeaseSha256 = crypto.sha256Hex lease.usageLease := by
  obtain ⟨-, rfl⟩ := RsaTokenCodec.issueUsageLease_eq_ok.mp h
  rfl

theorem openSession_eq_ok {cmd : StartCommand} {requestHash : Bytes}
    (held : entitlementIn s cmd.entitlementId = some before)
    (h : (service.openSession prims cmd requestHash sessionId before now).run s = .ok (resp, t)) :
    ∃ after hchg lease,
      Issues service prims before after sessionId cmd.channelBindingSha256 0
        EMPTY_LEASE_SHA256 now now hchg lease ∧
      resp = usageResponse after (newSession cmd requestHash sessionId lease
        after.remainingSeconds hchg now) hchg (some lease) ∧
      entitlementIn t cmd.entitlementId = some after ∧
      sessionIn t sessionId = some (newSession cmd requestHash sessionId lease
        after.remainingSeconds hchg now) ∧
      t.usageSessions = s.usageSessions ++ [newSession cmd requestHash sessionId lease
        after.remainingSeconds hchg now] ∧
      Pays s t cmd.entitlementId before ⟨sessionId, now, lease⟩ 0 hchg ∧
      KeepsOthers s t := by
  unfold openSession at h
  rw [require_ok, bind_ok] at h
  obtain ⟨-, after, t1, charging, h⟩ := h
  obtain ⟨charges, bindings1, sessions1, found1⟩ := chargeEntitlement_eq_ok held charging
  obtain ⟨others1, ledger1⟩ := chargeEntitlement_others charging
  obtain ⟨lease, signed, h⟩ := ofExcept_ok.mp h
  obtain ⟨⟨⟩, t2, creating, h⟩ := bind_ok.mp h
  obtain ⟨entitlements2, bindings2, -, created⟩ := createSession_eq_ok creating
  obtain ⟨⟨⟩, t3, recording, h⟩ := bind_ok.mp h
  obtain ⟨kept, others3⟩ := recordCharge_keeps recording
  obtain ⟨found, t4, reading, h⟩ := bind_ok.mp h
  cases reading
  have row : sessionIn t3 sessionId = some (newSession cmd requestHash sessionId lease
      after.remainingSeconds (service.chargedSeconds before) now) := by
    rw [sessionIn_congr kept.usageSessions]
    exact created
  rw [row, unwrap_ok] at h
  obtain ⟨_, same, last⟩ := h
  cases same
  cases last
  have duration := (issueUsageLease_window signed).1
  have pos := (RsaTokenCodec.issueUsageLease_eq_ok.mp signed).1.positive
  obtain ⟨_, table⟩ := createSession_table creating
  refine ⟨after, service.chargedSeconds before, lease, ⟨duration ▸ charges, duration ▸ signed⟩, rfl,
    ?_, row, ?_, ?_, ?_⟩
  · rw [entitlementIn_congr (kept.entitlements.trans entitlements2)
      (kept.deviceBindings.trans bindings2)]
    exact found1
  · rw [kept.usageSessions, table, ← sessions1]
  · exact pays_of_charge charging recording entitlements2 (by rw [table]) rfl rfl
      (by rw [duration]; exact pos) duration rfl rfl rfl rfl rfl rfl
  · apply others1.trans (.trans _ others3)
    subst table
    exact ⟨rfl, rfl, rfl, rfl⟩

variable {offered : Option EntitlementRow}

theorem requireSupportedEntitlementVersions_eq_ok {settings : DualMachineSettings} {res : Unit}
    (h : (requireSupportedEntitlementVersions offered settings).run s = .ok (res, t)) :
    t = s := by
  unfold requireSupportedEntitlementVersions at h
  cases offered with
  | none =>
    cases h
    rfl
  | some row =>
    obtain ⟨host, -, h⟩ := unwrap_ok.mp h
    split at h
    · cases h
    obtain ⟨android, -, h⟩ := unwrap_ok.mp h
    split at h
    · cases h
    · cases h
      rfl

theorem offered_ok {α : Type} {id : Bytes} {settings : DualMachineSettings}
    {next : Option EntitlementRow → Unit → Statement α} {result : α}
    (h : (entitlement id >>= fun offered =>
      requireSupportedEntitlementVersions offered settings >>= next offered).run s =
        .ok (result, t)) :
    (requireSupportedEntitlementVersions (entitlementIn s id) settings).run s = .ok ((), s) ∧
      (next (entitlementIn s id) ()).run s = .ok (result, t) := by
  replace h := read_ok h rfl
  obtain ⟨⟨⟩, _, versions, h⟩ := bind_ok.mp h
  obtain rfl := (requireSupportedEntitlementVersions_eq_ok versions).symm
  exact ⟨versions, h⟩

theorem requireEntitlementBinding_eq_ok {cmd : UsageCommon} {row : EntitlementRow}
    (h : (requireEntitlementBinding offered cmd).run s = .ok (row, t)) :
    t = s ∧ offered = some row ∧ entitlementBinds cmd row = true := by
  unfold requireEntitlementBinding at h
  rw [← bind_pure (unwrap _ _), unwrap_ok] at h
  obtain ⟨found, isSome, last⟩ := h
  cases last
  obtain ⟨same, binds⟩ := Option.filter_eq_some_iff.mp isSome
  exact ⟨rfl, same, binds⟩

theorem verifyEntitlementCommand_eq_ok {cmd : UsageCommon} {payload : Bytes}
    {row : EntitlementRow}
    (h : (verifyEntitlementCommand prims offered cmd payload).run s = .ok (row, t)) :
    t = s ∧ offered = some row ∧ entitlementBinds cmd row = true := by
  unfold verifyEntitlementCommand at h
  rw [bind_ok] at h
  obtain ⟨found, t1, binding, h⟩ := h
  obtain ⟨rfl, same, binds⟩ := requireEntitlementBinding_eq_ok binding
  unfold verifyDeviceSignatures at h
  rw [require_ok] at h
  cases h.2
  exact ⟨rfl, same, binds⟩

theorem requireActiveEntitlement_eq_ok {cmd : UsageCommon} {row : EntitlementRow}
    (h : (requireActiveEntitlement offered cmd).run s = .ok (row, t)) :
    t = s ∧ offered = some row := by
  unfold requireActiveEntitlement at h
  rw [bind_ok] at h
  obtain ⟨found, t1, binding, h⟩ := h
  obtain ⟨rfl, same, -⟩ := requireEntitlementBinding_eq_ok binding
  rw [require_ok] at h
  cases h.2
  exact ⟨rfl, same⟩

variable {row : UsageSessionRow}

theorem sessionResponse_eq_ok {ent : EntitlementRow} {hchg : Nat}
    (h : (service.sessionResponse prims ent row hchg).run s = .ok (resp, t)) :
    t = s ∧ resp.sessionId = row.sessionId := by
  unfold sessionResponse at h
  split at h
  · cases h
    exact ⟨rfl, rfl⟩
  · obtain ⟨lease, -, h⟩ := ofExcept_ok.mp h
    rw [require_ok] at h
    cases h.2
    exact ⟨rfl, rfl⟩

theorem verifyStartChallenge_eq_ok {cmd : StartCommand} {row : StartChallengeRow}
    (h : (service.verifyStartChallenge prims cmd now).run s = .ok (row, t)) : t = s := by
  replace h := read_ok h rfl
  rw [← bind_pure (unwrap _ _), unwrap_ok] at h
  obtain ⟨_, -, last⟩ := h
  cases last
  rfl

variable {cmd : HeartbeatCommand}

/-- A successful start either answers for a session that exists or opens a new one. -/
theorem startUsage_eq_ok {cmd : StartCommand}
    (h : (service.startUsage prims cmd sessionId now).run s = .ok (resp, t)) :
    0 < now ∧ (sessionIn s resp.sessionId ≠ none ∨
      ∃ before after hchg lease requestHash,
        entitlementIn s cmd.entitlementId = some before ∧
        entitlementBinds cmd.toUsageCommon before = true ∧
        Issues service prims before after sessionId cmd.channelBindingSha256 0
          EMPTY_LEASE_SHA256 now now hchg lease ∧
        resp = usageResponse after (newSession cmd requestHash sessionId lease
          after.remainingSeconds hchg now) hchg (some lease) ∧
        entitlementIn t cmd.entitlementId = some after ∧
        sessionIn t sessionId = some (newSession cmd requestHash sessionId lease
          after.remainingSeconds hchg now)) := by
  unfold startUsage at h
  rw [require_ok] at h
  obtain ⟨positive, h⟩ := h
  replace h := offered_ok h
  obtain ⟨versions, h⟩ := h
  rw [bind_ok] at h
  obtain ⟨_, _, verifying, h⟩ := h
  obtain ⟨rfl, -, -⟩ := verifyEntitlementCommand_eq_ok verifying
  replace h := read_ok h rfl
  rw [require_ok, bind_ok] at h
  obtain ⟨-, _, t1, expiring, h⟩ := h
  obtain ⟨entitlements1, bindings1, sessions1⟩ := expireStaleSessions_keeps expiring
  replace h := offered_ok h
  obtain ⟨versions, h⟩ := h
  rw [bind_ok] at h
  obtain ⟨before, _, verifying, h⟩ := h
  obtain ⟨rfl, held, binds⟩ := verifyEntitlementCommand_eq_ok verifying
  replace h := read_ok h rfl
  refine ⟨positive, ?_⟩
  split at h
  · rename_i row found
    left
    rw [require_ok] at h
    replace h := read_ok h.2 rfl
    obtain ⟨-, same⟩ := sessionResponse_eq_ok h
    intro absent
    have isRow : sessionIn _ row.sessionId = some row :=
      Lib.Table.lookup_of_mem (Database.sessionKeys _) (List.mem_of_find?_eq_some found)
    rw [same, ← sessions1, isRow] at absent
    cases absent
  · right
    rw [bind_ok] at h
    obtain ⟨_, _, requiring, h⟩ := h
    obtain ⟨rfl, same⟩ := requireActiveEntitlement_eq_ok requiring
    rw [held] at same
    cases same
    replace h := read_ok h rfl
    rw [require_ok, bind_ok] at h
    obtain ⟨-, chal, _, checking, h⟩ := h
    obtain rfl := (verifyStartChallenge_eq_ok checking).symm
    rw [bind_ok] at h
    obtain ⟨fresh, t2, consuming, h⟩ := h
    rw [require_ok, bind_ok] at h
    obtain ⟨-, used, t3, marking, h⟩ := h
    rw [require_ok] at h
    have kept := (consumeNonce_keeps consuming).trans (consumeStartChallenge_keeps marking)
    have held3 : entitlementIn t3 cmd.entitlementId = some before := by
      rw [entitlementIn_congr kept.entitlements kept.deviceBindings]
      exact held
    obtain ⟨after, hchg, lease, issues, ans, found, row, -⟩ := openSession_eq_ok held3 h.2
    rw [entitlementIn_congr entitlements1 bindings1] at held
    exact ⟨before, after, hchg, lease, _, held, binds, issues, ans, found, row⟩

theorem renewLease_eq_ok {requestHash : Bytes}
    (held : entitlementIn s before.entitlementId = some before)
    (sess : sessionIn s row.sessionId = some row) (on : row.status = .active)
    (h : (service.renewLease prims before row cmd requestHash now).run s = .ok (resp, t)) :
    ∃ after hchg lease,
      Issues service prims before after row.sessionId row.channelBindingSha256
        cmd.sequence row.currentLeaseSha256 now (max now row.leaseExpiresAtEpoch) hchg
        lease ∧
      resp = usageResponse after ((newHeartbeat cmd requestHash lease
        row.currentLeaseSha256 after.remainingSeconds hchg now).apply row) hchg
        (some lease) ∧
      entitlementIn t before.entitlementId = some after ∧
      sessionIn t row.sessionId = some ((newHeartbeat cmd requestHash lease
        row.currentLeaseSha256 after.remainingSeconds hchg now).apply row) ∧
      t.usageSessions = update (isActiveSession row.sessionId) (newHeartbeat cmd requestHash
        lease row.currentLeaseSha256 after.remainingSeconds hchg now).apply s.usageSessions ∧
      Pays s t before.entitlementId before ⟨row.sessionId, now, lease⟩ cmd.sequence hchg ∧
      KeepsOthers s t := by
  unfold renewLease at h
  obtain ⟨after, t1, charging, h⟩ := bind_ok.mp h
  obtain ⟨charges, bindings1, sessions1, found1⟩ := chargeEntitlement_eq_ok held charging
  obtain ⟨others1, ledger1⟩ := chargeEntitlement_others charging
  obtain ⟨lease, signed, h⟩ := ofExcept_ok.mp h
  obtain ⟨⟨⟩, t2, recording, h⟩ := bind_ok.mp h
  obtain ⟨kept, others2⟩ := recordCharge_keeps recording
  obtain ⟨⟨⟩, t3, writing, h⟩ := bind_ok.mp h
  have session2 : sessionIn t2 row.sessionId = some row := by
    rw [sessionIn_congr (kept.usageSessions.trans sessions1)]
    exact sess
  obtain ⟨entitlements3, bindings3, session3⟩ := recordHeartbeat_eq_ok session2 on writing
  replace h := read_ok h rfl
  rw [session3, unwrap_ok] at h
  obtain ⟨_, same, last⟩ := h
  cases same
  cases last
  have duration := (issueUsageLease_window signed).1
  have pos := (RsaTokenCodec.issueUsageLease_eq_ok.mp signed).1.positive
  obtain ⟨_, _, table⟩ := recordHeartbeat_table writing
  refine ⟨after, service.chargedSeconds before, lease, ⟨duration ▸ charges, duration ▸ signed⟩, rfl,
    ?_, session3, ?_, ?_, ?_⟩
  · rw [entitlementIn_congr (entitlements3.trans kept.entitlements)
      (bindings3.trans kept.deviceBindings)]
    exact found1
  · rw [table, ← sessions1, ← kept.usageSessions]
  · exact pays_of_charge charging recording rfl rfl entitlements3 (by rw [table])
      (by rw [duration]; exact pos) duration charges.sameIdentity.entitlementId rfl rfl rfl
      rfl rfl
  · apply (others1.trans others2).trans
    subst table
    exact ⟨rfl, rfl, rfl, rfl⟩

theorem endThenRaise_eq_ok {α : Type} {reason code : String} {result : α} :
    ¬(endThenRaise sessionId now reason code).run s = .ok (result, t) := by
  intro h
  obtain ⟨_, _, _, last⟩ := bind_ok.mp h
  exact commitThenRaise_eq_ok last

theorem applyHeartbeat_eq_ok {requestHash : Bytes}
    (h : (service.applyHeartbeat prims before row cmd requestHash now).run s = .ok (resp, t)) :
    row.status = .active ∧ cmd.sequence = row.lastHeartbeatSequence + 1 ∧
      row.leaseExpiresAtEpoch ≤ now + service.settings.usageRenewalWindowSeconds ∧
      (service.renewLease prims before row cmd requestHash now).run s = .ok (resp, t) := by
  obtain ⟨_, _, binding, h⟩ := bind_ok.mp h
  obtain ⟨rfl, same, -⟩ := requireEntitlementBinding_eq_ok binding
  cases same
  rw [require_ok, require_ok] at h
  obtain ⟨⟨active, next, -⟩, open_, h⟩ := h
  split at h
  · exact absurd h endThenRaise_eq_ok
  split at h
  · exact absurd h endThenRaise_eq_ok
  split at h
  · exact absurd h endThenRaise_eq_ok
  · exact ⟨active, next, open_, h⟩

theorem requireSessionBinding_eq_ok {found : Option UsageSessionRow}
    (h : (requireSessionBinding found offered cmd).run s = .ok (row, t)) :
    t = s ∧ found = some row ∧ sessionBinds cmd row = true := by
  unfold requireSessionBinding at h
  rw [bind_ok] at h
  obtain ⟨_, _, binding, h⟩ := h
  obtain ⟨rfl, -, -⟩ := requireEntitlementBinding_eq_ok binding
  rw [← bind_pure (unwrap _ _), unwrap_ok] at h
  obtain ⟨_, isSome, last⟩ := h
  cases last
  obtain ⟨same, binds⟩ := Option.filter_eq_some_iff.mp isSome
  exact ⟨rfl, same, binds⟩

theorem duplicateHeartbeatResponse_eq_ok {ent : EntitlementRow} {requestHash : Bytes}
    {answer : Option UsageResponse}
    (h : (service.duplicateHeartbeatResponse prims ent row cmd requestHash).run s =
      .ok (answer, t)) :
    t = s ∧ (answer = none ↔ cmd.sequence ≠ row.lastHeartbeatSequence) := by
  unfold duplicateHeartbeatResponse at h
  split at h
  · rename_i other
    cases h
    exact ⟨rfl, by simp [other]⟩
  · rename_i repeated
    rw [require_ok] at h
    replace h := read_ok h.2 rfl
    obtain ⟨resp, _, answering, last⟩ := bind_ok.mp h
    obtain ⟨rfl, -⟩ := sessionResponse_eq_ok answering
    cases last
    exact ⟨rfl, by simpa using repeated⟩

/-- A successful heartbeat either repeats the last one or issues the next lease of its
    session. -/
theorem heartbeatUsage_eq_ok
    (h : (service.heartbeatUsage prims cmd now).run s = .ok (resp, t)) :
    0 < now ∧ ∃ claims before row,
      service.verifyPreviousLease prims cmd.previousLease now = some claims ∧
      entitlementIn s cmd.entitlementId = some before ∧
      entitlementBinds cmd.toUsageCommon before = true ∧
      sessionIn s cmd.sessionId = some row ∧ sessionBinds cmd row = true ∧
      ((cmd.sequence = row.lastHeartbeatSequence ∧ t = s) ∨
        (leaseBinds claims before row (cmd.sequence - 1) = true ∧ row.status = .active ∧
          cmd.sequence = row.lastHeartbeatSequence + 1 ∧
          row.leaseExpiresAtEpoch ≤ now + service.settings.usageRenewalWindowSeconds ∧
          ∃ after hchg lease requestHash,
            Issues service prims before after row.sessionId row.channelBindingSha256
              cmd.sequence row.currentLeaseSha256 now (max now row.leaseExpiresAtEpoch)
              hchg lease ∧
            resp.lease = some lease ∧
            entitlementIn t cmd.entitlementId = some after ∧
            sessionIn t cmd.sessionId = some ((newHeartbeat cmd requestHash lease
              row.currentLeaseSha256 after.remainingSeconds hchg now).apply row))) := by
  unfold heartbeatUsage at h
  rw [require_ok] at h
  obtain ⟨positive, h⟩ := h
  rw [unwrap_ok] at h
  obtain ⟨claims, verified, h⟩ := h
  replace h := offered_ok h
  obtain ⟨versions, h⟩ := h
  replace h := read_ok h rfl
  rw [bind_ok] at h
  obtain ⟨_, _, verifying, h⟩ := h
  obtain ⟨rfl, -, -⟩ := verifyEntitlementCommand_eq_ok verifying
  rw [bind_ok] at h
  obtain ⟨_, _, binding, h⟩ := h
  obtain ⟨rfl, -, -⟩ := requireSessionBinding_eq_ok binding
  replace h := offered_ok h
  obtain ⟨versions, h⟩ := h
  replace h := read_ok h rfl
  rw [bind_ok] at h
  obtain ⟨row, _, binding, h⟩ := h
  obtain ⟨rfl, sess, sessionBound⟩ := requireSessionBinding_eq_ok binding
  rw [bind_ok] at h
  obtain ⟨before, _, binding, h⟩ := h
  obtain ⟨rfl, held, bound⟩ := requireEntitlementBinding_eq_ok binding
  rw [bind_ok] at h
  obtain ⟨duplicate, _, repeating, h⟩ := h
  obtain ⟨rfl, isNew⟩ := duplicateHeartbeatResponse_eq_ok repeating
  refine ⟨positive, claims, before, row, verified, held, bound, sess, sessionBound, ?_⟩
  cases duplicate with
  | some ans =>
    left
    cases h
    exact ⟨by simpa using isNew, rfl⟩
  | none =>
    right
    rw [require_ok, bind_ok] at h
    obtain ⟨leaseBound, fresh, t1, consuming, h⟩ := h
    rw [require_ok] at h
    have kept := consumeNonce_keeps consuming
    obtain ⟨active, next, win, renewing⟩ := applyHeartbeat_eq_ok h.2
    have ids : before.entitlementId = cmd.entitlementId ∧
        row.sessionId = cmd.sessionId := by
      simp only [entitlementBinds, sessionBinds, Bool.and_eq_true, beq_iff_eq]
        at bound sessionBound
      exact ⟨bound.1.1.1, sessionBound.1.1.1⟩
    have held1 : entitlementIn t1 before.entitlementId = some before := by
      rw [entitlementIn_congr kept.entitlements kept.deviceBindings, ids.1]
      exact held
    have session1 : sessionIn t1 row.sessionId = some row := by
      rw [sessionIn_congr kept.usageSessions, ids.2]
      exact sess
    obtain ⟨after, hchg, lease, issues, ans, found, written, -⟩ :=
      renewLease_eq_ok held1 session1 active renewing
    rw [ids.1] at found
    rw [ids.2] at written
    exact ⟨leaseBound, active, next, win, after, hchg, lease, _, issues,
      by rw [ans]; rfl, found, written⟩

def sessionIdentities (database : Database) (sessionId : Bytes) : Option UsageLeaseBinding := do
  let row ← sessionIn database sessionId
  let entitlement ← entitlementIn database row.entitlementId
  return {
    entitlementId := entitlement.entitlementId
    pairId := entitlement.pairId
    sessionId := row.sessionId
    protocolVersion := entitlement.protocolVersion
    revocationVersion := entitlement.revocationVersion
    hostKeySha256 := entitlement.hostKeySha256
    androidKeySha256 := entitlement.androidKeySha256
    channelBindingSha256 := row.channelBindingSha256 }

/-- The start of a session and successful heartbeats at non-decreasing times: the
    database reached, the time of the last call and the leases issued so far. A
    heartbeat that repeats the last one is answered with the lease already issued. -/
inductive SessionRun (service : UsageService) (prims : Primitives) (sessionId : Bytes) :
    Database → Nat → List (Nat × IssuedLease) → Prop where
  | start {s t : Database} {command : StartCommand} {now : Nat} {response : UsageResponse}
      {lease : IssuedLease} :
      transact (service.startUsage prims command sessionId now) s = (t, .ok response) →
      sessionIn s response.sessionId = none → response.lease = some lease →
      SessionRun service prims sessionId t now [(now, lease)]
  | heartbeat {s t : Database} {last now : Nat} {leases : List (Nat × IssuedLease)}
      {command : HeartbeatCommand} {response : UsageResponse} {row : UsageSessionRow}
      {lease : IssuedLease} :
      SessionRun service prims sessionId s last leases → last ≤ now →
      command.sessionId = sessionId →
      transact (service.heartbeatUsage prims command now) s = (t, .ok response) →
      sessionIn s sessionId = some row → command.sequence ≠ row.lastHeartbeatSequence →
      response.lease = some lease →
      SessionRun service prims sessionId t now (leases ++ [(now, lease)])
  | repeated {s t : Database} {last now : Nat} {leases : List (Nat × IssuedLease)}
      {command : HeartbeatCommand} {response : UsageResponse} {row : UsageSessionRow} :
      SessionRun service prims sessionId s last leases → last ≤ now →
      command.sessionId = sessionId →
      transact (service.heartbeatUsage prims command now) s = (t, .ok response) →
      sessionIn s sessionId = some row → command.sequence = row.lastHeartbeatSequence →
      SessionRun service prims sessionId t now leases

theorem begun_of_leaseBinds {claims : Members} {token : Bytes} {ent : EntitlementRow}
    {seq : Nat} (verified : service.verifyPreviousLease prims token now = some claims)
    (binds : leaseBinds claims ent row seq = true) :
    row.leaseNotBeforeEpoch ≤ now := by
  obtain ⟨notBefore, found, begun⟩ :=
    validateUsageClaims_begun (RsaTokenCodec.verifyUsageLease_valid verified)
  simp only [leaseBinds, found, Option.getD_some, Bool.and_eq_true, beq_iff_eq] at binds
  omega

end VisionForge.Server.UsageService
