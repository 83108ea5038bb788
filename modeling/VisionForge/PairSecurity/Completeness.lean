import VisionForge.PairSecurity.Revocation
import VisionForge.Server.CancelWins

/-! # When an entitlement can be revoked

A revocation that succeeds is complete. It succeeds exactly when the current pair of the
entitlement has a state that can still be revoked: not after its devices were unbound, for
then the entitlement has the name of no pair, and not after it was restored, for then its
pair stays revoked. Revoking a whole batch never looks at pairs.
-/

namespace VisionForge.PairSecurity

open Agreement Lib.Ascii Lib.Run Lib.Table Lib.Transaction Server LicenseRepository UsageRepository

section

variable {s : Database} {owner : Bytes} {now : Nat}

theorem requireEntitlement_succeeds {row : EntitlementRow} (mem : row ∈ s.entitlements) :
    (AdminService.requireEntitlement row.entitlementId).run s = .ok (row, s) := by
  unfold AdminService.requireEntitlement entitlementById
  rw [bind_ok]
  refine ⟨_, s, rfl, ?_⟩
  rw [lookup_of_mem s.entitlementKeys mem]
  rfl

theorem writeEntitlements_succeeds {rows : List EntitlementRow} (dist : Distinct rows)
    (hc : ∀ row ∈ rows, row.Checks) (keys : (rows.map EntitlementRow.entitlementId).Nodup) :
    ∃ t, (LicenseRepository.writeEntitlements rows).run s = .ok ((), t) := by
  unfold LicenseRepository.writeEntitlements Database.writeEntitlements
  simp only [require_ok, Database.writeChecked_eq_ok]
  exact ⟨_, ⟨dist.pairs, dist.hashes⟩, ⟨hc, keys⟩, rfl⟩

theorem endSessionsOf_succeeds (s : Database) (now : Nat) (owner : Bytes) (status : SessionStatus) (reason : String) :
    ∃ t, (endSessionsOf owner status now reason).run s = .ok ((), t) := by
  unfold endSessionsOf
  simp only [get_ok]
  have hc : ∀ row ∈ update (fun row => row.entitlementId == owner && decide (row.status = .active))
      (fun row => { row with status := status, endedAtEpoch := some now, endedReason := reason })
      s.usageSessions, row.Checks := by
    intro row mem
    cases mem_update mem with
    | inl kept => exact s.sessionChecks row kept.1
    | inr ended =>
      obtain ⟨old, inOld, -, rfl⟩ := ended
      have old := s.sessionChecks old inOld
      exact ⟨old.1, old.2, old.3, old.4, old.5, old.6⟩
  have keys : ((update (fun row => row.entitlementId == owner && decide (row.status = .active))
      (fun row => { row with status := status, endedAtEpoch := some now, endedReason := reason })
      s.usageSessions).map UsageSessionRow.sessionId).Nodup := by
    rw [map_update (fun _ _ _ => by rfl)]
    exact s.sessionKeys
  exact ⟨_, Database.writeChecked_eq_ok.mpr ⟨⟨hc, keys⟩, rfl⟩⟩

theorem updateEntitlement_succeeds (dist : Distinct s.entitlements)
    (fits : ∀ row ∈ s.entitlements, row.entitlementId = owner →
      fitsInteger (row.revocationVersion + 1) = true) :
    ∃ t, (AdminService.updateEntitlement owner AdminService.revoked).run s = .ok ((), t) := by
  unfold AdminService.updateEntitlement
  apply writeEntitlements_succeeds
  · constructor
    · rw [map_update (fun _ _ _ => by rfl)]
      exact dist.pairs
    · rw [map_update (fun _ _ _ => by rfl)]
      exact dist.hashes
  · intro row mem
    cases mem_update mem with
    | inl kept => exact s.entitlementChecks row kept.1
    | inr revoked =>
      obtain ⟨old, inOld, sel, rfl⟩ := revoked
      have hc := s.entitlementChecks old inOld
      exact ⟨hc.protocolVersion, Nat.succ_pos _, hc.balance,
        EntitlementStatus.noConfusion, hc.integers.1, fits old inOld (by simpa using sel)⟩
  · rw [map_update (fun _ _ _ => by rfl)]
    exact s.entitlementKeys

theorem recordRevocation_succeeds {row given : EntitlementRow} (mem : given ∈ s.entitlements)
    (isOwner : given.entitlementId = owner) :
    ∃ resp t, (recordRevocation owner row).run s = .ok (resp, t) := by
  subst isOwner
  unfold recordRevocation AdminService.expireChallengesOf
  simp only [bind_ok]
  exact ⟨_, _, (), _, ⟨(), _, rfl, rfl⟩, given, _, requireEntitlement_succeeds mem, rfl⟩

end

section

variable {s : SecuredDatabase} {row : EntitlementRow} {now : Nat}

/-- The condition under which an entitlement that is not revoked can be. -/
structure Revocable (s : SecuredDatabase) (row : EntitlementRow) (now : Nat) : Prop where
  pair : ∃ pair, HasRevocablePair s row now pair
  time : fitsInteger now = true
  version : fitsInteger (row.revocationVersion + 1) = true

theorem revokeEntitlement_succeeds (inv : Secured s) (mem : row ∈ s.tables.entitlements)
    (unrevoked : row.status ≠ .revoked) (h : Revocable s row now) :
    ∃ resp t, (revokeEntitlement row.entitlementId now).run s = .ok (resp, t) := by
  obtain ⟨pair, found⟩ := h.pair
  obtain ⟨tables, updating⟩ := @updateEntitlement_succeeds s.tables row.entitlementId inv.distinct
    (fun other hrow same => by
      rw [entitlement_unique mem hrow same]
      exact h.version)
  obtain ⟨tables', ending⟩ :=
    endSessionsOf_succeeds tables now row.entitlementId .revoked "entitlement_revoked"
  have revoking : (revokeTables row.entitlementId now).run s.tables = .ok ((), tables') := by
    unfold revokeTables
    rw [bind_ok]
    exact ⟨(), tables, updating, ending⟩
  obtain ⟨u, revokingPair⟩ := @revokePair_succeeds { s with tables := tables' } now pair found.member
    found.revocable found.order h.time
  rw [found.owner, found.pairId] at revokingPair
  obtain ⟨-, -, entitlements⟩ := revokeTables_eq_ok revoking
  obtain ⟨_, -, -, -, -, -, -, replaces⟩ := revokePair_replaces revokingPair
  have kept : AdminService.revoked row ∈ u.tables.entitlements := by
    rw [replaces.tables]
    rw [entitlements]
    have htab := @mem_update_of_mem _ _ _ (fun other => other.entitlementId == row.entitlementId)
      AdminService.revoked mem
    rwa [if_pos (by simp)] at htab
  obtain ⟨resp, tables'', recording⟩ := @recordRevocation_succeeds u.tables row.entitlementId row
    _ kept rfl
  refine ⟨resp, { u with tables := tables'' }, ?_⟩
  unfold revokeEntitlement
  rw [onTables_bind]
  refine ⟨row, s.tables, requireEntitlement_succeeds mem, ?_⟩
  simp only [unrevoked, ne_eq, not_false_eq_true, if_true]
  rw [onTables_bind]
  refine ⟨(), tables', revoking, ?_⟩
  rw [bind_ok]
  exact ⟨(), u, revokingPair, onTables_eq_ok.mpr ⟨tables'', recording, rfl⟩⟩

end

/-- A revocation that succeeds and leaves nothing of the entitlement in force. -/
structure RevokesCompletely (service : UsageService) (prims : ServicePrimitives)
    (s : SecuredDatabase) (row : EntitlementRow) (now : Nat) : Prop where
  succeeds : ∃ response, (securedStep service prims s
    (.revokeEntitlement row.entitlementId none now)).2 = .ok (.revoked response)
  revoked : ∃ new ∈ (securedStep service prims s
      (.revokeEntitlement row.entitlementId none now)).1.tables.entitlements,
    new.entitlementId = row.entitlementId ∧ new.status = .revoked ∧
      row.revocationVersion < new.revocationVersion
  sessions : Idle (securedStep service prims s
    (.revokeEntitlement row.entitlementId none now)).1.tables row.entitlementId
  startChallenges : ∀ challenge ∈ (securedStep service prims s
      (.revokeEntitlement row.entitlementId none now)).1.tables.usageStartChallenges,
    challenge.entitlementId = row.entitlementId → challenge.status ≠ .issued
  activationChallenges : ∀ challenge ∈ (securedStep service prims s
      (.revokeEntitlement row.entitlementId none now)).1.tables.activationChallenges,
    challenge.targetEntitlementId = row.entitlementId → challenge.status ≠ .issued
  pairs : ∀ pair ∈ (securedStep service prims s
      (.revokeEntitlement row.entitlementId none now)).1.pairs,
    pair.entitlementId = row.entitlementId → pair.assuranceState ≠ .active

section

variable {service : UsageService} {prims : ServicePrimitives} {s t : SecuredDatabase}
  {row : EntitlementRow} {now : Nat}

theorem securedStep_revoke_eq {resp : AdminService.RevokeResponse}
    (ran : (revokeEntitlement row.entitlementId now).run s = .ok (resp, t)) :
    securedStep service prims s (.revokeEntitlement row.entitlementId none now) =
      (t, .ok (.revoked resp)) := by
  exact atomically_of_ok (map_eq_ok.mpr ⟨resp, t, ran, rfl⟩)

variable {resp : AdminService.RevokeResponse}

theorem run_of_securedStep_revoke
    (done : (securedStep service prims s
      (.revokeEntitlement row.entitlementId none now)).2 = .ok (.revoked resp)) :
    ∃ t, (revokeEntitlement row.entitlementId now).run s = .ok (resp, t) := by
  obtain ⟨value, isReply, ran⟩ := atomically_map_eq_ok done
  cases isReply
  exact ⟨_, ran⟩

theorem revokes_of_ok (inv : Secured s) (mem : row ∈ s.tables.entitlements)
    (unrevoked : row.status ≠ .revoked)
    (ran : (revokeEntitlement row.entitlementId now).run s = .ok (resp, t)) :
    (AdminService.revokeEntitlement row.entitlementId none now).run s.tables =
      .ok (resp, t.tables) ∧ ∃ pair, Revokes s t row now pair := by
  obtain ⟨outer, found, hrow, owner, done⟩ := revokeEntitlement_revokes inv ran
  have same := entitlement_unique mem hrow owner
  subst same
  exact ⟨outer, (done.resolve_left (fun again => unrevoked again.1)).2⟩

theorem Revokes.revocable {pair : PairSecurityRow} (h : Revokes s t row now pair)
    (mem : row ∈ s.tables.entitlements) : Revocable s row now := by
  refine ⟨⟨pair, h.found⟩, h.fits, ?_⟩
  have htab := @mem_update_of_mem _ _ _ (fun other => other.entitlementId == row.entitlementId)
    AdminService.revoked mem
  rw [if_pos (by simp), ← h.entitlements] at htab
  exact (t.tables.entitlementChecks _ htab).integers.2

theorem not_issued_of_settled {ρ σ : Type} [DecidableEq σ] {owned name : ρ → Bytes} {status : ρ → σ}
    {rows : List ρ} {old new : σ} {statuses : List (Bytes × σ)} (dist : new ≠ old) {owner : Bytes}
    (h : statusesOf owned name status owner rows = settle old new statuses) {row : ρ}
    (mem : row ∈ rows) (isOwner : owned row = owner) : status row ≠ old := by
  subst isOwner
  have inStatuses := @mem_statusesOf _ _ _ _ _ _ _ owned name status mem
  rw [h] at inStatuses
  exact ne_of_mem_settle dist inStatuses

theorem revokesCompletely_of_ok (ord : Orderly s.tables) (inv : Secured s)
    (mem : row ∈ s.tables.entitlements) (unrevoked : row.status ≠ .revoked)
    (ran : (revokeEntitlement row.entitlementId now).run s = .ok (resp, t)) :
    RevokesCompletely service prims s row now := by
  obtain ⟨outer, pair, revokes⟩ := revokes_of_ok inv mem unrevoked ran
  have affects := revokeEntitlement_affects ord outer
  have step := @securedStep_revoke_eq service prims _ _ _ _ _ ran
  refine ⟨⟨resp, ?_⟩, ⟨AdminService.revoked row, ?_, rfl, rfl, Nat.lt_succ_self _⟩, ?_, ?_, ?_, ?_⟩
  all_goals rw [step]
  · rw [revokes.entitlements]
    have htab := @mem_update_of_mem _ _ _ (fun other => other.entitlementId == row.entitlementId)
      AdminService.revoked mem
    rwa [if_pos (by simp)] at htab
  · intro sess hrow isOwner
    exact not_issued_of_settled (by decide) (congrArg SecurityState.sessions affects.own) hrow isOwner
  · intro chal hrow isOwner
    exact not_issued_of_settled (by decide) (congrArg SecurityState.startChallenges affects.own) hrow
      isOwner
  · intro chal hrow isOwner
    exact not_issued_of_settled (by decide)
      (congrArg SecurityState.activationChallenges affects.own) hrow isOwner
  · intro other inPairs isOwner hact
    cases (revokes.pairs other).mp inPairs with
    | inl isPair =>
      subst isPair
      cases hact
    | inr kept =>
      apply kept.2
      rw [revokes.found.pairId]
      exact inv.active_pairId mem kept.1 isOwner hact

theorem revokesCompletely_iff (ord : Orderly s.tables) (inv : Secured s)
    (mem : row ∈ s.tables.entitlements) (unrevoked : row.status ≠ .revoked) :
    RevokesCompletely service prims s row now ↔ Revocable s row now := by
  constructor
  · intro whole
    obtain ⟨resp, done⟩ := whole.succeeds
    obtain ⟨t, ran⟩ := run_of_securedStep_revoke done
    obtain ⟨-, pair, revokes⟩ := revokes_of_ok inv mem unrevoked ran
    exact revokes.revocable mem
  · intro revocable
    obtain ⟨resp, t, ran⟩ := revokeEntitlement_succeeds inv mem unrevoked revocable
    exact revokesCompletely_of_ok ord inv mem unrevoked ran

/-- An entitlement can be revoked, and completely, exactly when its current pair can be. In runs
    that neither unbind devices nor take revocations back this is always so. -/
theorem revocation_complete_iff (service : UsageService) (prims : ServicePrimitives) :
    (∀ ops now, ∀ row ∈ (secured service prims ops).tables.entitlements,
      row.status ≠ .revoked →
      (RevokesCompletely service prims (secured service prims ops) row now ↔
        Revocable (secured service prims ops) row now)) ∧
    ∀ ops now, (∀ op ∈ ops, regular now op) → fitsInteger now = true →
      ∀ row ∈ (secured service prims ops).tables.entitlements, row.status ≠ .revoked →
        fitsInteger (row.revocationVersion + 1) = true →
        RevokesCompletely service prims (secured service prims ops) row now := by
  constructor
  · intro ops now row member unrevoked
    exact revokesCompletely_iff (secured_orderly ops) (secured_spec ops).1 member unrevoked
  · intro ops now isRegular time row member unrevoked version
    apply (revokesCompletely_iff (secured_orderly ops) (secured_spec ops).1 member unrevoked).mpr
    exact ⟨(secured_guarded isRegular).paired row member unrevoked, time, version⟩

/-- An activated entitlement can be revoked, and it is after a run with no other request. -/
theorem revocation_complete_activated :
    ∃ row ∈ (secured concreteService concreteServicePrimitives activationOps).tables.entitlements,
      row.status ≠ .revoked ∧
      Revocable (secured concreteService concreteServicePrimitives activationOps) row 2000 ∧
      RevokesCompletely concreteService concreteServicePrimitives
        (secured concreteService concreteServicePrimitives activationOps) row 2000 := by
  have found : ∃ row ∈ (secured concreteService concreteServicePrimitives
      activationOps).tables.entitlements, row.status ≠ .revoked ∧
      fitsInteger (row.revocationVersion + 1) = true := by decide +kernel
  obtain ⟨row, member, unrevoked, version⟩ := found
  have isRegular : ∀ op ∈ activationOps, regular 2000 op := by
    simp [activationOps, cardOps, regular]
  obtain ⟨exact, always⟩ := revocation_complete_iff concreteService concreteServicePrimitives
  have complete := always activationOps 2000 isRegular rfl row member unrevoked version
  exact ⟨row, member, unrevoked, (exact activationOps 2000 row member unrevoked).mp complete, complete⟩

def unbindingOps : List ServerOp :=
  activationOps ++ [.unbindEntitlementDevice (List.replicate 32 97) (List.replicate 32 102)
    (List.replicate 32 101) none 1000]

def restoringOps : List ServerOp :=
  activationOps ++ [.revokeEntitlement (List.replicate 32 97) none 1000,
    .restoreEntitlement (List.replicate 32 97)]

/-- After its devices were unbound, or after it was restored, an entitlement is in force and cannot
    be revoked. -/
theorem revocation_refused :
    (∃ row ∈ (secured concreteService concreteServicePrimitives unbindingOps).tables.entitlements,
      row.status = .active ∧ ¬RevokesCompletely concreteService concreteServicePrimitives
        (secured concreteService concreteServicePrimitives unbindingOps) row 2000) ∧
    ∃ row ∈ (secured concreteService concreteServicePrimitives restoringOps).tables.entitlements,
      row.status = .active ∧ ¬RevokesCompletely concreteService concreteServicePrimitives
        (secured concreteService concreteServicePrimitives restoringOps) row 2000 := by
  have failing : ∀ ops ∈ [unbindingOps, restoringOps], ∃ row ∈ (secured concreteService
      concreteServicePrimitives ops).tables.entitlements, row.status = .active ∧
      (securedStep concreteService concreteServicePrimitives
        (secured concreteService concreteServicePrimitives ops)
        (.revokeEntitlement row.entitlementId none 2000)).2 =
        .error (.service "pair_security_revoke_state_invalid" 409) := by decide +kernel
  have refused (ops : List ServerOp) (mem : ops ∈ [unbindingOps, restoringOps]) :
      ∃ row ∈ (secured concreteService concreteServicePrimitives ops).tables.entitlements,
        row.status = .active ∧ ¬RevokesCompletely concreteService concreteServicePrimitives
          (secured concreteService concreteServicePrimitives ops) row 2000 := by
    obtain ⟨row, member, active, failed⟩ := failing ops mem
    refine ⟨row, member, active, ?_⟩
    intro complete
    obtain ⟨resp, done⟩ := complete.succeeds
    rw [failed] at done
    cases done
  exact ⟨refused unbindingOps (by simp), refused restoringOps (by simp)⟩

end

/-- A batch that was revoked leaves each of its entitlements as a revocation of its own would. -/
def BatchEqualsIndividual (service : UsageService) (prims : ServicePrimitives)
    (s : SecuredDatabase) (batchId now : Nat) : Prop :=
  ∀ row ∈ AdminService.batchEntitlements s.tables batchId,
    securityState (securedStep service prims s (.revokeBatch batchId true now)).1.tables
        row.entitlementId =
      securityState (securedStep service prims s
        (.revokeEntitlement row.entitlementId none now)).1.tables row.entitlementId ∧
    pairStates (securedStep service prims s (.revokeBatch batchId true now)).1
        row.entitlementId =
      pairStates (securedStep service prims s
        (.revokeEntitlement row.entitlementId none now)).1 row.entitlementId

section

variable {service : UsageService} {prims : ServicePrimitives} {s t : SecuredDatabase}
  {row : EntitlementRow} {batchId now : Nat}

theorem securedStep_batch (done : (securedStep service prims s
      (.revokeBatch batchId true now)).2 = .ok .done) :
    (AdminService.revokeBatch batchId true now).run s.tables =
        .ok ((), (securedStep service prims s (.revokeBatch batchId true now)).1.tables) ∧
      (securedStep service prims s (.revokeBatch batchId true now)).1.pairs = s.pairs := by
  rw [securedStep_plain rfl] at done ⊢
  refine ⟨?_, rfl⟩
  obtain ⟨value, -, ran⟩ := atomically_map_eq_ok done
  exact ran

theorem mem_of_mem_batch (mem : row ∈ AdminService.batchEntitlements s.tables batchId) :
    row ∈ s.tables.entitlements := List.mem_of_mem_filter mem

theorem batch_state_eq (ord : Orderly s.tables) (inv : Secured s)
    (done : (securedStep service prims s (.revokeBatch batchId true now)).2 = .ok .done)
    (mem : row ∈ AdminService.batchEntitlements s.tables batchId)
    (ran : (revokeEntitlement row.entitlementId now).run s = .ok (resp, t)) :
    securityState (securedStep service prims s (.revokeBatch batchId true now)).1.tables
      row.entitlementId = securityState t.tables row.entitlementId := by
  rw [revokeBatch_revoked (securedStep_batch done).1 mem]
  exact (revokeEntitlement_affects ord (revokeEntitlement_revokes inv ran).1).own.symm

theorem Revokes.pairStates_ne {pair : PairSecurityRow} (h : Revokes s t row now pair) :
    pairStates s row.entitlementId ≠ pairStates t row.entitlementId := by
  intro same
  have pre : (pair.pairId, pair.assuranceState) ∈ pairStates s row.entitlementId := by
    rw [← h.found.owner]
    exact mem_statusesOf h.found.member
  rw [same] at pre
  obtain ⟨other, inPairs, entry⟩ := List.mem_map.mp pre
  obtain ⟨key, state⟩ := Prod.mk.inj entry
  cases (h.pairs other).mp (List.mem_of_mem_filter inPairs) with
  | inl isPair =>
    subst isPair
    have revocable := h.found.revocable
    rw [← state] at revocable
    cases revocable
  | inr kept => exact kept.2 key

theorem revokeEntitlement_again (mem : row ∈ s.tables.entitlements)
    (isRevoked : row.status = .revoked) :
    ∃ resp tables, (revokeEntitlement row.entitlementId now).run s =
      .ok (resp, { s with tables := tables }) := by
  obtain ⟨resp, tables, recording⟩ := @recordRevocation_succeeds s.tables row.entitlementId row
    row mem rfl
  refine ⟨resp, tables, ?_⟩
  unfold revokeEntitlement
  rw [onTables_bind]
  refine ⟨row, s.tables, requireEntitlement_succeeds mem, ?_⟩
  simp only [isRevoked, ne_eq, not_true_eq_false, if_false]
  exact onTables_eq_ok.mpr ⟨tables, recording, rfl⟩

theorem batch_differs (inv : Secured s)
    (done : (securedStep service prims s (.revokeBatch batchId true now)).2 = .ok .done)
    (mem : row ∈ AdminService.batchEntitlements s.tables batchId)
    (same : BatchEqualsIndividual service prims s batchId now) : row.status = .revoked := by
  by_contra unrevoked
  obtain ⟨states, pairs⟩ := same row mem
  obtain ⟨ran, untouched⟩ := securedStep_batch done
  cases outcome : (revokeEntitlement row.entitlementId now).run s with
  | ok res =>
    -- its pair is revoked by one of the two alone
    obtain ⟨-, pair, revokes⟩ := revokes_of_ok inv (mem_of_mem_batch mem) unrevoked outcome
    rw [securedStep_revoke_eq outcome] at pairs
    apply revokes.pairStates_ne
    rw [← pairs]
    unfold pairStates
    rw [untouched]
  | error abort =>
    -- it is revoked with its batch and not by itself
    have unchanged : (securedStep service prims s
        (.revokeEntitlement row.entitlementId none now)).1 = s := by
      apply atomically_map_invariant (P := (· = s)) rfl
      intro resp t no
      rw [outcome] at no
      cases no
    rw [unchanged, revokeBatch_revoked ran mem] at states
    have held := securityState_entitlement (mem_of_mem_batch mem)
    have ent := congrArg SecurityState.entitlement states
    simp only [SecurityState.revoked, SecurityState.revokeEntitlement, SecurityState.endSessions,
      SecurityState.expireStartChallenges, SecurityState.expireActivationChallenges, held,
      Option.map_some, Option.some.injEq, Prod.mk.injEq] at ent
    exact unrevoked ent.1.symm

/-- A batch never touches the states of pairs. Apart from these it leaves an entitlement as a
    revocation of its own does; with them, only where there was nothing to revoke. -/
theorem batch_equals_individual_iff (service : UsageService) (prims : ServicePrimitives)
    (ops : List ServerOp) (batchId now : Nat)
    (done : (securedStep service prims (secured service prims ops)
      (.revokeBatch batchId true now)).2 = .ok .done) :
    (BatchEqualsIndividual service prims (secured service prims ops) batchId now ↔
      ∀ row ∈ AdminService.batchEntitlements (secured service prims ops).tables batchId,
        row.status = .revoked) ∧
    ∀ row ∈ AdminService.batchEntitlements (secured service prims ops).tables batchId,
      ∀ resp, (securedStep service prims (secured service prims ops)
          (.revokeEntitlement row.entitlementId none now)).2 = .ok (.revoked resp) →
        securityState (securedStep service prims (secured service prims ops)
          (.revokeBatch batchId true now)).1.tables row.entitlementId =
        securityState (securedStep service prims (secured service prims ops)
          (.revokeEntitlement row.entitlementId none now)).1.tables row.entitlementId := by
  have orderly := @secured_orderly service prims ops
  have inv := (@secured_spec service prims ops).1
  refine ⟨⟨?_, ?_⟩, ?_⟩
  · intro same row member
    exact batch_differs inv done member same
  · intro revoked row member
    obtain ⟨resp, tables, ran⟩ :=
      revokeEntitlement_again (mem_of_mem_batch member) (revoked row member)
    rw [securedStep_revoke_eq ran]
    refine ⟨batch_state_eq orderly inv done member ran, ?_⟩
    unfold pairStates
    rw [(securedStep_batch done).2]
  · intro row member resp succeeded
    obtain ⟨t, ran⟩ := run_of_securedStep_revoke succeeded
    rw [securedStep_revoke_eq ran]
    exact batch_state_eq orderly inv done member ran

def revokingOps : List ServerOp :=
  activationOps ++ [.revokeEntitlement (List.replicate 32 97) none 1000]

theorem batch_equals_individual_revoked :
    (securedStep concreteService concreteServicePrimitives
      (secured concreteService concreteServicePrimitives revokingOps)
      (.revokeBatch 1 true 2000)).2 = .ok .done ∧
    BatchEqualsIndividual concreteService concreteServicePrimitives
      (secured concreteService concreteServicePrimitives revokingOps) 1 2000 := by
  have done : (securedStep concreteService concreteServicePrimitives
      (secured concreteService concreteServicePrimitives revokingOps)
      (.revokeBatch 1 true 2000)).2 = .ok .done ∧
      ∀ row ∈ AdminService.batchEntitlements
        (secured concreteService concreteServicePrimitives revokingOps).tables 1,
        row.status = .revoked := by decide +kernel
  exact ⟨done.1, (batch_equals_individual_iff concreteService concreteServicePrimitives revokingOps
    1 2000 done.1).1.mpr done.2⟩

/-- The pair of an activated entitlement stays active when its batch is revoked. -/
theorem batch_leaves_pairs :
    (securedStep concreteService concreteServicePrimitives
      (secured concreteService concreteServicePrimitives activationOps)
      (.revokeBatch 1 true 2000)).2 = .ok .done ∧
    ¬BatchEqualsIndividual concreteService concreteServicePrimitives
      (secured concreteService concreteServicePrimitives activationOps) 1 2000 := by
  have differs : (securedStep concreteService concreteServicePrimitives
      (secured concreteService concreteServicePrimitives activationOps)
      (.revokeBatch 1 true 2000)).2 = .ok .done ∧ ∃ row ∈ AdminService.batchEntitlements
      (secured concreteService concreteServicePrimitives activationOps).tables 1,
      pairStates (securedStep concreteService concreteServicePrimitives
        (secured concreteService concreteServicePrimitives activationOps)
        (.revokeBatch 1 true 2000)).1 row.entitlementId =
        [(List.replicate 32 98, .active)] ∧
      pairStates (securedStep concreteService concreteServicePrimitives
        (secured concreteService concreteServicePrimitives activationOps)
        (.revokeEntitlement row.entitlementId none 2000)).1 row.entitlementId =
        [(List.replicate 32 98, .revoked)] := by decide +kernel
  obtain ⟨done, row, member, batch, individual⟩ := differs
  refine ⟨done, ?_⟩
  intro same
  have pairs := (same row member).2
  rw [batch, individual] at pairs
  cases pairs

end

end VisionForge.PairSecurity
