import VisionForge.Server.System

/-! # The books balance

What was credited to an entitlement is what was charged to it and what remains, and
what a session consumed is what was charged for it.
-/

namespace VisionForge.Server

open Lib.Ascii Lib.Table UsageLease UsageRepository UsageService

def creditedTo (database : Database) (entitlementId : Bytes) : Nat :=
  total LicenseActivationRow.entitlementId entitlementId LicenseActivationRow.creditedSeconds
    database.licenseActivations

def chargedTo (database : Database) (entitlementId : Bytes) : Nat :=
  total LedgerRow.entitlementId entitlementId LedgerRow.chargedSeconds database.usageLedger

def chargedFor (database : Database) (sessionId : Bytes) : Nat :=
  total LedgerRow.sessionId sessionId LedgerRow.chargedSeconds database.usageLedger

structure Conserved (database : Database) : Prop where
  activations : ∀ row ∈ database.licenseActivations,
    ∃ owner ∈ database.entitlements, owner.entitlementId = row.entitlementId
  sessions : ∀ row ∈ database.usageSessions,
    ∃ owner ∈ database.entitlements, owner.entitlementId = row.entitlementId
  charges : ∀ charge ∈ database.usageLedger, ∃ row ∈ database.usageSessions,
    row.sessionId = charge.sessionId ∧ row.entitlementId = charge.entitlementId
  balance : ∀ row ∈ database.entitlements,
    creditedTo database row.entitlementId =
      chargedTo database row.entitlementId + row.remainingSeconds
  consumed : ∀ row ∈ database.usageSessions,
    row.secondsConsumed = chargedFor database row.sessionId

theorem Conserved.empty : Conserved {} := by
  constructor <;> simp

section

variable {s t : Database}

/-- Every entitlement is still there. -/
def KeepsOwners (s t : Database) : Prop :=
  ∀ row ∈ s.entitlements, ∃ owner ∈ t.entitlements, owner.entitlementId = row.entitlementId

theorem keepsOwners_map {change : EntitlementRow → EntitlementRow}
    (same : t.entitlements = s.entitlements.map change)
    (keys : ∀ row ∈ s.entitlements, (change row).entitlementId = row.entitlementId) :
    KeepsOwners s t := by
  intro row mem
  exact ⟨change row, same ▸ List.mem_map_of_mem mem, keys row mem⟩

theorem keepsOwners_update {cond : EntitlementRow → Bool}
    {change : EntitlementRow → EntitlementRow}
    (same : t.entitlements = update cond change s.entitlements)
    (keys : ∀ row, (change row).entitlementId = row.entitlementId) : KeepsOwners s t := by
  apply keepsOwners_map same
  intro row _
  split
  · exact keys row
  · rfl

variable {entitlementId : Bytes}

theorem KeepsOwners.owner (keeps : KeepsOwners s t)
    (h : ∃ owner ∈ s.entitlements, owner.entitlementId = entitlementId) :
    ∃ owner ∈ t.entitlements, owner.entitlementId = entitlementId := by
  obtain ⟨owner, mem, key⟩ := h
  obtain ⟨kept, htab, same⟩ := keeps owner mem
  exact ⟨kept, htab, same.trans key⟩

theorem Credits.keepsOwners {seconds : Nat} (h : Credits s entitlementId seconds t.entitlements) :
    KeepsOwners s t := by
  generalize same : t.entitlements = rows at h
  cases h with
  | created _ _ _ _ =>
    intro row mem
    exact ⟨row, same ▸ List.mem_append_left _ mem, rfl⟩
  | reactivated _ changed _ _ => exact keepsOwners_update same (fun row => (changed row).1)

variable {before : EntitlementRow}

theorem UsageService.Pays.keepsOwners {grant : Grant} {seq hchg : Nat}
    (h : Pays s t entitlementId before grant seq hchg) : KeepsOwners s t := by
  cases h with
  | permanent _ same _ =>
    intro row mem
    exact ⟨row, same ▸ mem, rfl⟩
  | metered _ _ _ _ same _ _ _ _ _ _ _ => exact keepsOwners_update same (fun _ => rfl)

theorem entitlement_unique {row other : EntitlementRow} (mem : row ∈ s.entitlements)
    (htab : other ∈ s.entitlements) (same : row.entitlementId = other.entitlementId) :
    row = other := by
  have first := lookup_of_mem s.entitlementKeys mem
  rw [same, lookup_of_mem s.entitlementKeys htab] at first
  exact (Option.some.inj first).symm

end

theorem Rests.metered {old new : UsageSessionRow} (h : Rests old new) :
    new.secondsConsumed = old.secondsConsumed ∧
      new.leaseExpiresAtEpoch = old.leaseExpiresAtEpoch ∧
      new.lastHeartbeatSequence = old.lastHeartbeatSequence := by
  cases h with
  | same => exact ⟨rfl, rfl, rfl⟩
  | ended _ _ => exact ⟨rfl, rfl, rfl⟩

section

variable {srv : UsageService} {prims : Primitives} {s t : Database}

theorem Conserved.amends {sel : Bytes → Prop} (inv : Conserved s) (h : Amends sel s t) :
    Conserved t := by
  obtain ⟨change, same, accounts, -⟩ := h.entitlements
  have keeps := keepsOwners_map same (fun row mem => (accounts row mem).entitlementId)
  constructor
  · intro row mem
    rw [h.activations] at mem
    exact keeps.owner (inv.activations row mem)
  · intro row mem
    obtain ⟨old, inOld, rests⟩ := exists_of_mem_after h.sessions mem
    rw [rests.follows.entitlementId]
    exact keeps.owner (inv.sessions old inOld)
  · intro charge mem
    rw [h.ledger] at mem
    obtain ⟨old, inOld, sess, owner⟩ := inv.charges charge mem
    obtain ⟨row, htab, rests⟩ := exists_of_mem_before h.sessions inOld
    exact ⟨row, htab, rests.follows.sessionId.trans sess, rests.follows.entitlementId.trans owner⟩
  · intro row mem
    rw [same] at mem
    obtain ⟨old, inOld, rfl⟩ := List.mem_map.mp mem
    have account := accounts old inOld
    have balance := inv.balance old inOld
    unfold creditedTo chargedTo at balance ⊢
    rw [h.activations, h.ledger, account.entitlementId, account.remainingSeconds]
    exact balance
  · intro row mem
    obtain ⟨old, inOld, rests⟩ := exists_of_mem_after h.sessions mem
    have used := inv.consumed old inOld
    unfold chargedFor at used ⊢
    rw [h.ledger, rests.metered.1, rests.follows.sessionId]
    exact used

theorem Conserved.credits {act : LicenseActivationRow} (inv : Conserved s)
    (activations : t.licenseActivations = s.licenseActivations ++ [act])
    (credits : Credits s act.entitlementId act.creditedSeconds t.entitlements)
    (ledger : t.usageLedger = s.usageLedger) (sessions : t.usageSessions = s.usageSessions) :
    Conserved t := by
  have keeps := credits.keepsOwners
  have others : ∀ id, id ≠ act.entitlementId → creditedTo t id = creditedTo s id := by
    intro id other
    unfold creditedTo
    rw [activations, total_append_of_ne (Ne.symm other)]
  have own : creditedTo t act.entitlementId =
      creditedTo s act.entitlementId + act.creditedSeconds := by
    unfold creditedTo
    rw [activations, total_append_of_eq rfl]
  have hchg : ∀ id, chargedTo t id = chargedTo s id := by
    intro id
    unfold chargedTo
    rw [ledger]
  refine ⟨?_, ?_, ?_, ?_, ?_⟩
  · intro row mem
    rw [activations] at mem
    cases List.mem_append.mp mem with
    | inl earlier => exact keeps.owner (inv.activations row earlier)
    | inr last =>
      have isRow := List.mem_singleton.mp last
      subst isRow
      generalize same : t.entitlements = rows at credits ⊢
      cases credits with
      | created key _ _ _ => exact ⟨_, List.mem_append_right _ (List.mem_singleton.mpr rfl), key⟩
      | reactivated holds changed found _ =>
        obtain ⟨old, inOld, can⟩ := found
        rw [← same]
        apply keeps.owner
        exact ⟨old, inOld, (holds old can).1⟩
  · intro row mem
    rw [sessions] at mem
    exact keeps.owner (inv.sessions row mem)
  · intro charge mem
    rw [ledger] at mem
    rw [sessions]
    exact inv.charges charge mem
  · intro row mem
    rw [hchg]
    generalize t.entitlements = rows at credits mem
    cases credits with
    | @created new key seconds _ fresh =>
      cases List.mem_append.mp mem with
      | inl earlier =>
        rw [others _ (fresh row earlier)]
        exact inv.balance row earlier
      | inr last =>
        have isNew := List.mem_singleton.mp last
        subst isNew
        -- nothing was credited or hchg to an entitlement that did not exist
        have noCredit : creditedTo s row.entitlementId = 0 := by
          apply total_eq_zero
          intro old inOld same
          obtain ⟨owner, inOwners, owned⟩ := inv.activations old inOld
          exact fresh owner inOwners (owned.trans (same.trans key))
        have noCharge : chargedTo s row.entitlementId = 0 := by
          apply total_eq_zero
          intro charge inLedger same
          obtain ⟨sess, inSessions, -, owns⟩ := inv.charges charge inLedger
          obtain ⟨owner, inOwners, owned⟩ := inv.sessions sess inSessions
          exact fresh owner inOwners (owned.trans (owns.trans (same.trans key)))
        rw [key] at noCredit noCharge ⊢
        rw [own, noCredit, noCharge, seconds]
    | reactivated holds changed found _ =>
      obtain ⟨target, inTarget, can⟩ := found
      cases mem_update mem with
      | inl kept =>
        have other : row.entitlementId ≠ act.entitlementId := by
          intro same
          have isTarget := entitlement_unique kept.1 inTarget
            (same.trans (holds target can).1.symm)
          rw [isTarget, can] at kept
          cases kept.2
        rw [others _ other]
        exact inv.balance row kept.1
      | inr replaced =>
        obtain ⟨old, inOld, holdsOld, rfl⟩ := replaced
        obtain ⟨key, empty⟩ := holds old holdsOld
        obtain ⟨sameKey, seconds, -⟩ := changed old
        have balance := inv.balance old inOld
        rw [sameKey, seconds, key, own]
        rw [key, empty] at balance
        omega
  · intro row mem
    rw [sessions] at mem
    have used := inv.consumed row mem
    unfold chargedFor at used ⊢
    rw [ledger]
    exact used

theorem UsageService.Pays.totals {grant : Grant} {seq hchg : Nat}
    (h : Pays s t entitlementId before grant seq hchg) :
    chargedFor t grant.sessionId = chargedFor s grant.sessionId + hchg ∧
      ∀ id, id ≠ grant.sessionId → chargedFor t id = chargedFor s id := by
  unfold chargedFor
  cases h with
  | permanent _ _ ledger =>
    rw [ledger]
    exact ⟨rfl, fun _ _ => rfl⟩
  | metered _ _ _ _ _ ledger _ sess _ seconds _ _ =>
    rw [ledger]
    constructor
    · rw [total_append_of_eq sess, seconds]
    · intro id other
      rw [total_append_of_ne (fun same => other (same.symm.trans sess))]

theorem UsageService.Pays.balance {grant : Grant} {seq hchg : Nat}
    (h : Pays s t entitlementId before grant seq hchg)
    (activations : t.licenseActivations = s.licenseActivations) (inv : Conserved s) :
    ∀ row ∈ t.entitlements, creditedTo t row.entitlementId =
      chargedTo t row.entitlementId + row.remainingSeconds := by
  intro row mem
  unfold creditedTo chargedTo
  rw [activations]
  cases h with
  | permanent _ entitlements ledger =>
    rw [ledger]
    rw [entitlements] at mem
    exact inv.balance row mem
  | metered _ pos _ found entitlements ledger owner _ _ seconds _ _ =>
    rw [ledger]
    rw [entitlements] at mem
    obtain ⟨target, inTarget, can⟩ := found
    have key : target.entitlementId = entitlementId := by
      simp only [canDebit, Bool.and_eq_true, beq_iff_eq] at can
      exact can.1.1
    cases mem_update mem with
    | inl kept =>
      have other : row.entitlementId ≠ entitlementId := by
        intro same
        have isTarget := entitlement_unique kept.1 inTarget (same.trans key.symm)
        rw [isTarget, can] at kept
        cases kept.2
      rw [total_append_of_ne (fun same => other (same.symm.trans owner))]
      exact inv.balance row kept.1
    | inr replaced =>
      obtain ⟨old, inOld, canOld, rfl⟩ := replaced
      have balance := inv.balance old inOld
      simp only [canDebit, Bool.and_eq_true, beq_iff_eq, decide_eq_true_eq] at canOld
      rw [entitlementId_debit, canOld.1.1, total_append_of_eq owner, seconds]
      unfold creditedTo chargedTo at balance
      rw [canOld.1.1] at balance
      simp only [debit]
      omega

theorem UsageService.Pays.charges {grant : Grant} {seq hchg : Nat}
    (h : Pays s t entitlementId before grant seq hchg) {charge : LedgerRow}
    (mem : charge ∈ t.usageLedger) :
    charge ∈ s.usageLedger ∨
      (charge.sessionId = grant.sessionId ∧ charge.entitlementId = entitlementId) := by
  cases h with
  | permanent _ _ ledger => exact .inl (ledger ▸ mem)
  | metered _ _ _ _ _ ledger owner sess _ _ _ _ =>
    rw [ledger] at mem
    cases List.mem_append.mp mem with
    | inl old => exact .inl old
    | inr last =>
      have isCharge := List.mem_singleton.mp last
      subst isCharge
      exact .inr ⟨sess, owner⟩

theorem owner_of_entitlementIn {id : Bytes} {row : EntitlementRow}
    (h : entitlementIn s id = some row) : ∃ owner ∈ s.entitlements, owner.entitlementId = id := by
  obtain ⟨base, found, -⟩ := Option.map_eq_some_iff.mp h
  exact ⟨base, lookup_key found⟩

/-- Every transaction keeps the books balanced. -/
theorem Conserved.move {grant : Option Grant} (inv : Conserved s)
    (h : Move srv prims s t grant) : Conserved t := by
  cases h with
  | amended amends => exact inv.amends amends
  | credited activations credits _ ledger sessions _ =>
    exact inv.credits activations credits ledger sessions
  | @opened cmd requestHash sessionId now before after hchg lease kept settles _ _
      sessions _ _ _ activations held _ _ _ _ issues pays =>
      have keeps := pays.keepsOwners
      have fresh : ∀ row ∈ s.usageSessions, row.sessionId ≠ sessionId := by
        intro row mem same
        obtain ⟨new, inKept, rests⟩ := exists_of_mem_before settles mem
        exact opened_apart sessions inKept (rests.follows.sessionId.trans same)
      refine ⟨?_, ?_, ?_, pays.balance activations inv, ?_⟩
      · intro row mem
        rw [activations] at mem
        exact keeps.owner (inv.activations row mem)
      · intro row mem
        cases mem_opened sessions settles mem with
        | inl earlier =>
          obtain ⟨-, old, inOld, rests⟩ := earlier
          rw [rests.follows.entitlementId]
          exact keeps.owner (inv.sessions old inOld)
        | inr isRow =>
          subst isRow
          exact keeps.owner (owner_of_entitlementIn held)
      · intro charge mem
        cases pays.charges mem with
        | inl earlier =>
          obtain ⟨old, inOld, sess, owner⟩ := inv.charges charge earlier
          obtain ⟨row, inKept, rests⟩ := exists_of_mem_before settles inOld
          exact ⟨row, sessions ▸ List.mem_append_left _ inKept,
            rests.follows.sessionId.trans sess, rests.follows.entitlementId.trans owner⟩
        | inr last => exact ⟨_, opened_mem sessions, last.1.symm, last.2.symm⟩
      · intro row mem
        cases mem_opened sessions settles mem with
        | inl earlier =>
          obtain ⟨-, old, inOld, rests⟩ := earlier
          rw [rests.metered.1, rests.follows.sessionId, pays.totals.2 _ (fresh old inOld)]
          exact inv.consumed old inOld
        | inr isRow =>
          subst isRow
          have none : chargedFor s sessionId = 0 := by
            apply total_eq_zero
            intro charge inLedger same
            obtain ⟨old, inOld, sess, -⟩ := inv.charges charge inLedger
            exact fresh old inOld (sess.trans same)
          have total := pays.totals.1
          rw [none, Nat.zero_add] at total
          exact total.symm
  | @renewed cmd requestHash now before after row hchg lease held on _ _ sessions
      _ _ activations _ _ _ _ pays =>
      have keeps := pays.keepsOwners
      have htab := (lookup_key held).1
      refine ⟨?_, ?_, ?_, pays.balance activations inv, ?_⟩
      · intro old mem
        rw [activations] at mem
        exact keeps.owner (inv.activations old mem)
      · intro new mem
        cases mem_renewed held on sessions mem with
        | inl kept => exact keeps.owner (inv.sessions new kept.1)
        | inr isNew =>
          subst isNew
          exact keeps.owner (inv.sessions row htab)
      · intro charge mem
        have followers : ∀ old ∈ s.usageSessions, ∃ new ∈ t.usageSessions,
            new.sessionId = old.sessionId ∧ new.entitlementId = old.entitlementId := by
          intro old inOld
          rw [sessions]
          refine ⟨_, List.mem_map_of_mem inOld, ?_⟩
          split
          · exact ⟨rfl, rfl⟩
          · exact ⟨rfl, rfl⟩
        cases pays.charges mem with
        | inl earlier =>
          obtain ⟨old, inOld, sess, owner⟩ := inv.charges charge earlier
          obtain ⟨new, inNew, sameSession, sameOwner⟩ := followers old inOld
          exact ⟨new, inNew, sameSession.trans sess, sameOwner.trans owner⟩
        | inr last =>
          obtain ⟨new, inNew, sameSession, sameOwner⟩ := followers row htab
          exact ⟨new, inNew, sameSession.trans last.1.symm, sameOwner.trans last.2.symm⟩
      · intro new mem
        cases mem_renewed held on sessions mem with
        | inl kept =>
          rw [pays.totals.2 _ kept.2]
          exact inv.consumed new kept.1
        | inr isNew =>
          subst isNew
          have total := pays.totals.1
          have used := inv.consumed row htab
          change row.secondsConsumed + hchg = chargedFor t row.sessionId
          rw [total, used]

end

/-! ## Sessions in order

An entitlement has at most one active session and a revoked one has none, a start
request opens at most one session, and a start that was cancelled has no active one.
-/

variable {srv : UsageService} {prims : Primitives} {s t : Database}

/-- What tells the sessions of start requests apart. -/
def startKey (row : UsageSessionRow) : Bytes × Bytes := (row.entitlementId, row.startRequestId)

structure Orderly (database : Database) : Prop where
  revoked : ∀ row ∈ database.entitlements, row.status = .revoked → Idle database row.entitlementId
  starts : (database.usageSessions.map startKey).Nodup
  single : ∀ row ∈ database.usageSessions, ∀ other ∈ database.usageSessions,
    row.entitlementId = other.entitlementId → row.status = .active → other.status = .active →
    row = other
  sessionIds : ∀ row ∈ database.usageSessions, isNonzeroLowerHex row.sessionId 32 = true
  buried : ∀ cancellation ∈ database.usageStartCancellations, ∀ row ∈ database.usageSessions,
    row.entitlementId = cancellation.entitlementId →
    row.startRequestId = cancellation.startRequestId → row.status ≠ .active

theorem Orderly.empty : Orderly {} := by
  constructor <;> simp

/-- Sessions of one start request are one session. -/
theorem Orderly.start_unique (inv : Orderly s) {row other : UsageSessionRow}
    (mem : row ∈ s.usageSessions) (htab : other ∈ s.usageSessions)
    (same : startKey row = startKey other) : row = other := by
  have first := lookup_of_mem inv.starts mem
  rw [same, lookup_of_mem inv.starts htab] at first
  exact (Option.some.inj first).symm

theorem startKeys_settles {pre after : List UsageSessionRow} (h : Settles pre after) :
    after.map startKey = pre.map startKey := by
  apply map_eq_of_forall₂ h
  intro old new rests
  unfold startKey
  rw [rests.follows.entitlementId, rests.follows.startRequestId]

theorem UsageService.Pays.revoked {entId : Bytes} {pre : EntitlementRow}
    {grant : Grant} {seq hchg : Nat}
    (h : Pays s t entId pre grant seq hchg) {row : EntitlementRow}
    (mem : row ∈ t.entitlements) (isOver : row.status = .revoked) : row ∈ s.entitlements := by
  cases h with
  | permanent _ same _ => exact same ▸ mem
  | metered _ _ _ _ table _ _ _ _ _ _ _ =>
    rw [table] at mem
    cases mem_update mem with
    | inl kept => exact kept.1
    | inr replaced =>
      obtain ⟨old, -, can, rfl⟩ := replaced
      simp only [canDebit, Bool.and_eq_true, decide_eq_true_eq] at can
      simp only [debit, can.1.2] at isOver
      split at isOver
      · cases isOver
      · cases isOver

theorem status_of_entitlementIn {id : Bytes} {row : EntitlementRow}
    (h : entitlementIn s id = some row) {base : EntitlementRow} (mem : base ∈ s.entitlements)
    (key : base.entitlementId = id) : base.status = row.status := by
  obtain ⟨found, held, rfl⟩ := Option.map_eq_some_iff.mp h
  obtain ⟨inTable, sameKey⟩ := lookup_key held
  have isBase := entitlement_unique mem inTable (key.trans sameKey.symm)
  subst isBase
  unfold withBinding
  cases currentBinding s base.entitlementId <;> rfl

/-- Settled sessions stay in order, whatever becomes of the entitlements. -/
theorem Orderly.amends {sel : Bytes → Prop} (inv : Orderly s) (h : Amends sel s t) : Orderly t := by
  obtain ⟨change, table, accounts, others⟩ := h.entitlements
  constructor
  · intro row mem isOver
    rw [table] at mem
    obtain ⟨old, inOld, rfl⟩ := List.mem_map.mp mem
    rw [(accounts old inOld).entitlementId]
    by_cases touched : sel old.entitlementId
    · exact h.idle _ touched
    · rw [others old inOld touched] at isOver
      exact (inv.revoked old inOld isOver).settles h.sessions
  · rw [startKeys_settles h.sessions]
    exact inv.starts
  · intro row mem other htab owner on otherActive
    obtain ⟨old, inOld, rests⟩ := exists_of_mem_after h.sessions mem
    obtain ⟨old', inOld', rests'⟩ := exists_of_mem_after h.sessions htab
    have same := rests.of_active on
    have same' := rests'.of_active otherActive
    subst same same'
    exact inv.single row inOld other inOld' owner on otherActive
  · intro row mem
    obtain ⟨old, inOld, rests⟩ := exists_of_mem_after h.sessions mem
    rw [rests.follows.sessionId]
    exact inv.sessionIds old inOld
  · intro cancel mem row htab owner req on
    cases h.buries cancel mem with
    | inr none => exact none row htab owner req on
    | inl earlier =>
      obtain ⟨old, inOld, sameOwner, sameRequest⟩ := earlier
      obtain ⟨before, inBefore, rests⟩ := exists_of_mem_after h.sessions htab
      have same := rests.of_active on
      subst same
      exact inv.buried old inOld row inBefore (owner.trans sameOwner.symm)
        (req.trans sameRequest.symm) on

theorem Credits.revoked {entId : Bytes} {seconds : Nat} {rows : List EntitlementRow}
    (h : Credits s entId seconds rows) {row : EntitlementRow} (mem : row ∈ rows)
    (isOver : row.status = .revoked) : row ∈ s.entitlements := by
  cases h with
  | created _ _ alive _ =>
    cases List.mem_append.mp mem with
    | inl earlier => exact earlier
    | inr last =>
      have isRow := List.mem_singleton.mp last
      subst isRow
      exact absurd isOver alive.1
  | reactivated _ changed _ _ =>
    cases mem_update mem with
    | inl kept => exact kept.1
    | inr replaced =>
      obtain ⟨old, -, -, rfl⟩ := replaced
      exact absurd isOver (changed old).2.2.1

theorem Orderly.move {grant : Option Grant} (inv : Orderly s)
    (h : Move srv prims s t grant) : Orderly t := by
  cases h with
  | amended amends => exact inv.amends amends
  | credited _ credits _ _ sessions cancellations =>
    have idle : ∀ row ∈ t.entitlements, row.status = .revoked → Idle t row.entitlementId := by
      intro row mem isOver
      unfold Idle
      rw [sessions]
      exact inv.revoked row (credits.revoked mem isOver) isOver
    refine ⟨idle, ?_, ?_, ?_, ?_⟩
    · rw [sessions]
      exact inv.starts
    · rw [sessions]
      exact inv.single
    · rw [sessions]
      exact inv.sessionIds
    · rw [sessions, cancellations]
      exact inv.buried
  | @opened cmd requestHash sid now pre after hchg lease kept settles none unused
      sessions uncancelled cancellations _ _ held on _ _ _ issues pays =>
      refine ⟨?_, ?_, ?_, ?_, ?_⟩
      · intro row mem isOver other htab owner hact
        have inOld := pays.revoked mem isOver
        have idle := (inv.revoked row inOld isOver)
        cases mem_opened_of_active sessions settles htab hact with
        | inl earlier => exact idle other earlier.1 owner hact
        | inr isNew =>
          subst isNew
          have status := status_of_entitlementIn held inOld owner.symm
          rw [isOver, on] at status
          cases status
      · rw [sessions, List.map_append, startKeys_settles settles, List.nodup_append]
        refine ⟨inv.starts, by simp, ?_⟩
        intro key inKeys other isNew same
        have isKey := List.mem_singleton.mp isNew
        subst same isKey
        rw [← startKeys_settles settles] at inKeys
        obtain ⟨row, mem, sameKey⟩ := List.mem_map.mp inKeys
        cases Prod.mk.inj sameKey with
        | intro owner req => exact unused row mem owner req
      · intro row mem other htab owner hact otherActive
        cases mem_opened_of_active sessions settles mem hact with
        | inl earlier =>
          cases mem_opened_of_active sessions settles htab otherActive with
          | inl earlier' => exact inv.single row earlier.1 other earlier'.1 owner hact otherActive
          | inr isNew =>
            subst isNew
            exact absurd hact (none row earlier.2 owner)
        | inr isNew =>
          subst isNew
          cases mem_opened_of_active sessions settles htab otherActive with
          | inl earlier => exact absurd otherActive (none other earlier.2 owner.symm)
          | inr last => exact last.symm
      · intro row mem
        cases mem_opened sessions settles mem with
        | inl earlier =>
          obtain ⟨-, old, inOld, rests⟩ := earlier
          rw [rests.follows.sessionId]
          exact inv.sessionIds old inOld
        | inr isNew =>
          subst isNew
          exact (RsaTokenCodec.issueUsageLease_eq_ok.mp issues.signed).1.sessionId
      · intro cancel mem row htab owner req hact
        rw [cancellations] at mem
        cases mem_opened_of_active sessions settles htab hact with
        | inl earlier => exact inv.buried cancel mem row earlier.1 owner req hact
        | inr isNew =>
          subst isNew
          exact uncancelled cancel mem ⟨owner.symm, req.symm⟩
  | @renewed cmd requestHash now pre after row hchg lease held on _ _ sessions
      cancellations _ _ _ _ _ _ pays =>
      -- every session is one from pre, with the same keys and the same status
      have origin : ∀ new ∈ t.usageSessions, ∃ old ∈ s.usageSessions,
          new.entitlementId = old.entitlementId ∧ new.sessionId = old.sessionId ∧
          new.startRequestId = old.startRequestId ∧ new.status = old.status := by
        intro new mem
        cases mem_renewed held on sessions mem with
        | inl kept => exact ⟨new, kept.1, rfl, rfl, rfl, rfl⟩
        | inr isNew =>
          subst isNew
          exact ⟨row, (lookup_key held).1, rfl, rfl, rfl, rfl⟩
      refine ⟨?_, ?_, ?_, ?_, ?_⟩
      · intro ent mem isOver new htab owner hact
        obtain ⟨old, inOld, sameOwner, -, -, sameStatus⟩ := origin new htab
        exact inv.revoked ent (pays.revoked mem isOver) isOver old inOld
          (sameOwner.symm.trans owner) (sameStatus.symm.trans hact)
      · have keys : t.usageSessions.map startKey = s.usageSessions.map startKey := by
          rw [sessions]
          unfold update
          rw [List.map_map]
          apply List.map_congr_left
          intro old _
          simp only [Function.comp_apply]
          split
          · rfl
          · rfl
        rw [keys]
        exact inv.starts
      · intro new mem other htab owner hact otherActive
        obtain ⟨old, inOld, sameOwner, sameId, -, sameStatus⟩ := origin new mem
        obtain ⟨old', inOld', sameOwner', sameId', -, sameStatus'⟩ := origin other htab
        have same := inv.single old inOld old' inOld'
          (sameOwner.symm.trans (owner.trans sameOwner')) (sameStatus.symm.trans hact)
          (sameStatus'.symm.trans otherActive)
        apply session_unique mem htab
        rw [sameId, sameId', same]
      · intro new mem
        obtain ⟨old, inOld, -, sameId, -, -⟩ := origin new mem
        rw [sameId]
        exact inv.sessionIds old inOld
      · intro cancel mem new htab owner req hact
        rw [cancellations] at mem
        obtain ⟨old, inOld, sameOwner, -, sameRequest, sameStatus⟩ := origin new htab
        exact inv.buried cancel mem old inOld (sameOwner.symm.trans owner)
          (sameRequest.symm.trans req) (sameStatus.symm.trans hact)

theorem Move.grows {grant : Option Grant} (h : Move srv prims s t grant) :
    Grows s.usageSessions t.usageSessions := by
  cases h with
  | amended amends => exact Settles.grows amends.sessions
  | credited _ _ _ _ sessions _ =>
    rw [sessions]
    exact (Settles.refl _).grows
  | opened settles _ _ sessions _ _ _ _ _ _ _ _ _ _ _ =>
    exact ⟨_, _, settles.imp (fun _ _ => Rests.follows), sessions⟩
  | @renewed cmd _ _ _ _ row _ _ held on next _ sessions _ _ _ _ _ _ _ _ =>
    refine ⟨_, [], ?_, by rw [sessions, List.append_nil]⟩
    apply forall₂_update Follows.refl
    intro old mem sel
    simp only [isActiveSession, Bool.and_eq_true, beq_iff_eq, decide_eq_true_eq] at sel
    have isRow := session_unique mem (lookup_key held).1 sel.1
    subst isRow
    refine ⟨rfl, rfl, rfl, rfl, ?_, fun isOver => absurd on isOver⟩
    change old.lastHeartbeatSequence ≤ cmd.sequence
    omega

end VisionForge.Server
