import VisionForge.Server.Conservation

/-! # The last lease of a session

The service does not store its leases. Signing the rows of an active session again
gives the lease that the session was last given, after any run.
-/

namespace VisionForge.Server

open Lib.Ascii Lib.Run Lib.Table UsageLease UsageRepository UsageService

section

variable {service : UsageService} {prims : Primitives} {s t : Database}

theorem entitlementIn_of_same {id : Bytes}
    (row : lookup EntitlementRow.entitlementId id t.entitlements =
      lookup EntitlementRow.entitlementId id s.entitlements)
    (binding : currentBinding t id = currentBinding s id) :
    entitlementIn t id = entitlementIn s id := by
  unfold entitlementIn
  rw [row]
  cases found : lookup EntitlementRow.entitlementId id s.entitlements with
  | none => rfl
  | some base =>
    have key := (lookup_key found).2
    simp only [Option.map_some, withBinding, key, binding]

theorem Amends.entitlementIn_eq {sel : Bytes → Prop} (h : Amends sel s t) {id : Bytes}
    (out : ¬sel id) : entitlementIn t id = entitlementIn s id := by
  obtain ⟨change, table, accounts, others⟩ := h.entitlements
  refine entitlementIn_of_same ?_ (h.bindings id out)
  rw [table]
  cases found : lookup EntitlementRow.entitlementId id s.entitlements with
  | some row =>
    obtain ⟨member, key⟩ := lookup_key found
    have same := others row member (key ▸ out)
    have kept : row ∈ t.entitlements := by
      rw [table, ← same]
      exact List.mem_map_of_mem member
    rw [← table, ← key]
    exact lookup_of_mem t.entitlementKeys kept
  | none =>
    apply List.find?_eq_none.mpr
    intro row member
    obtain ⟨old, inOld, rfl⟩ := List.mem_map.mp member
    have other := List.find?_eq_none.mp found old inOld
    rw [(accounts old inOld).entitlementId]
    exact other

theorem Credits.lookup_eq {entId : Bytes} {seconds : Nat} {rows : List EntitlementRow}
    (h : Credits s entId seconds rows) {id : Bytes} (other : id ≠ entId) :
    lookup EntitlementRow.entitlementId id rows =
      lookup EntitlementRow.entitlementId id s.entitlements := by
  cases h with
  | created key _ _ _ =>
    apply lookup_append_of_ne
    rw [key]
    exact Ne.symm other
  | @reactivated cond _ holds changed _ _ =>
    rw [lookup_update (fun row => (changed row).1)]
    cases found : lookup EntitlementRow.entitlementId id s.entitlements with
    | none => rfl
    | some row =>
      have out : ¬cond row = true := by
        intro can
        exact other ((lookup_key found).2.symm.trans (holds row can).1)
      rw [Option.map_some, if_neg out]

theorem UsageService.Pays.lookup_eq {entId : Bytes} {pre : EntitlementRow}
    {grant : Grant} {seq hchg : Nat}
    (h : Pays s t entId pre grant seq hchg) {id : Bytes}
    (other : id ≠ entId) :
    lookup EntitlementRow.entitlementId id t.entitlements =
      lookup EntitlementRow.entitlementId id s.entitlements := by
  cases h with
  | permanent _ same _ => rw [same]
  | metered _ _ _ _ table _ _ _ _ _ _ _ =>
    rw [table, lookup_update (entitlementId_debit hchg)]
    cases found : lookup EntitlementRow.entitlementId id s.entitlements with
    | none => rfl
    | some row =>
      have out : ¬canDebit entId hchg row = true := by
        intro can
        simp only [canDebit, Bool.and_eq_true, beq_iff_eq] at can
        exact other ((lookup_key found).2.symm.trans can.1.1)
      rw [Option.map_some, if_neg out]

/-- A transaction that gives out nothing leaves active sessions and their entitlements alone. -/
theorem Move.undisturbed (h : Move service prims s t none) (conserved : Conserved s)
    {row : UsageSessionRow} (mem : row ∈ t.usageSessions) (on : row.status = .active) :
    row ∈ s.usageSessions ∧
      entitlementIn t row.entitlementId = entitlementIn s row.entitlementId := by
  cases h with
  | amended amends =>
    obtain ⟨old, inOld, rests⟩ := exists_of_mem_after amends.sessions mem
    have same := rests.of_active on
    subst same
    refine ⟨inOld, amends.entitlementIn_eq ?_⟩
    intro hin
    exact amends.idle _ hin row mem rfl on
  | @credited act _ credits bindings _ sessions _ =>
    rw [sessions] at mem
    have other : row.entitlementId ≠ act.entitlementId := by
      intro same
      generalize t.entitlements = rows at credits
      cases credits with
      | created _ _ _ fresh =>
        obtain ⟨owner, htab, owns⟩ := conserved.sessions row mem
        exact fresh owner htab (owns.trans same)
      | reactivated _ _ _ idle => exact idle row mem same on
    exact ⟨mem, entitlementIn_of_same (credits.lookup_eq other) (bindings _ other)⟩

end

/-- The lease that a session was last given. -/
def lastLease (answered : List (ServerOp × ServerAnswer)) (sessionId : Bytes) :
    Option IssuedLease :=
  ((answered.filterMap (fun entry => leaseOf entry.2)).reverse.find?
    (fun given => given.1 = sessionId)).map Prod.snd

section

variable {answered : List (ServerOp × ServerAnswer)} {op : ServerOp} {ans : ServerAnswer}
  {sessionId : Bytes} {lease : IssuedLease}

theorem lastLease_silent (silent : leaseOf ans = none) :
    lastLease (answered ++ [(op, ans)]) sessionId = lastLease answered sessionId := by
  simp [lastLease, List.filterMap_append, silent]

theorem lastLease_given (given : leaseOf ans = some (sessionId, lease)) :
    lastLease (answered ++ [(op, ans)]) sessionId = some lease := by
  simp [lastLease, List.filterMap_append, given]

theorem lastLease_other {other : Bytes} (given : leaseOf ans = some (other, lease))
    (apart : other ≠ sessionId) :
    lastLease (answered ++ [(op, ans)]) sessionId = lastLease answered sessionId := by
  simp [lastLease, List.filterMap_append, given, apart]

theorem mem_of_lastLease (h : lastLease answered sessionId = some lease) :
    ∃ entry ∈ answered, leaseOf entry.2 = some (sessionId, lease) := by
  obtain ⟨given, found, rfl⟩ := Option.map_eq_some_iff.mp h
  have key := List.find?_some found
  have mem := List.mem_reverse.mp (List.mem_of_find?_eq_some found)
  obtain ⟨entry, inHistory, same⟩ := List.mem_filterMap.mp mem
  simp only [decide_eq_true_eq] at key
  refine ⟨entry, inHistory, ?_⟩
  rw [same, ← key]

end

section

variable (service : UsageService) (prims : Primitives)

/-- Signing the rows of a session again gives its last lease. -/
structure Holds (answered : List (ServerOp × ServerAnswer)) (database : Database)
    (row : UsageSessionRow) (entitlement : EntitlementRow) (lease : IssuedLease) : Prop where
  held : entitlementIn database row.entitlementId = some entitlement
  supported : Supported service.settings entitlement
  resigned : resign service prims entitlement row = .ok lease
  digest : lease.usageLeaseSha256 = row.currentLeaseSha256
  last : lastLease answered row.sessionId = some lease

def Renewable (answered : List (ServerOp × ServerAnswer)) (database : Database) : Prop :=
  ∀ row ∈ database.usageSessions, row.status = .active →
    ∃ entitlement lease, Holds service prims answered database row entitlement lease

variable {service prims} {answered : List (ServerOp × ServerAnswer)} {s t : Database}

theorem sameIdentity_supported {settings : DualMachineSettings} {pre after : EntitlementRow}
    {hchg duration : Nat} {service : UsageService}
    (charges : Charges service pre after hchg duration) (h : Supported settings pre) :
    Supported settings after := by
  cases charges with
  | permanent _ => exact h
  | metered _ _ _ => exact ⟨h.host, h.android⟩

theorem UsageService.Issues.resigned {pre after : EntitlementRow} {row : UsageSessionRow}
    {previousLeaseSha256 : Bytes} {seq now notBefore hchg : Nat} {lease : IssuedLease}
    (h : Issues service prims pre after row.sessionId row.channelBindingSha256 seq
      previousLeaseSha256 now notBefore hchg lease)
    (number : row.lastHeartbeatSequence = seq) (phase : row.leasePhase = ascii "active")
    (previous : row.previousLeaseSha256 = previousLeaseSha256)
    (issued : row.leaseIssuedAtEpoch = now)
    (start : row.leaseNotBeforeEpoch = lease.usageLeaseNotBeforeEpoch)
    (stop : row.leaseExpiresAtEpoch = lease.usageLeaseExpiresAtEpoch)
    (rem : row.leaseRemainingSeconds = after.remainingSeconds) :
    resign service prims after row = .ok lease := by
  obtain ⟨-, begins, expires⟩ := issueUsageLease_window h.signed
  have duration : row.leaseExpiresAtEpoch - row.leaseNotBeforeEpoch =
      lease.usageLeaseTtlSeconds := by
    omega
  unfold resign
  rw [number, phase, previous, issued, duration, rem, start, begins]
  exact h.signed

theorem Holds.of_other {row : UsageSessionRow} {ent : EntitlementRow}
    {lease other : IssuedLease} {op : ServerOp} {ans : ServerAnswer} {sessionId : Bytes}
    (h : Holds service prims answered s row ent lease)
    (same : entitlementIn t row.entitlementId = entitlementIn s row.entitlementId)
    (given : leaseOf ans = some (sessionId, other)) (apart : sessionId ≠ row.sessionId) :
    Holds service prims (answered ++ [(op, ans)]) t row ent lease :=
  ⟨same.trans h.held, h.supported, h.resigned, h.digest, (lastLease_other given apart).trans h.last⟩

theorem Renewable.step {grant : Option Grant} {op : ServerOp} {ans : ServerAnswer}
    (inv : Renewable service prims answered s) (ord : Orderly s)
    (conserved : Conserved s) (h : Performs service prims s t grant ans) :
    Renewable service prims (answered ++ [(op, ans)]) t := by
  intro row mem on
  cases grant with
  | none =>
    obtain ⟨inOld, same⟩ := h.move.undisturbed conserved mem on
    obtain ⟨ent, lease, holds⟩ := inv row inOld on
    refine ⟨ent, lease, same.trans holds.held, holds.supported, holds.resigned, holds.digest, ?_⟩
    cases given : leaseOf ans with
    | none => exact (lastLease_silent given).trans holds.last
    | some pair =>
      obtain ⟨sessionId, repeated⟩ := pair
      by_cases apart : sessionId = row.sessionId
      · -- a lease that is repeated is the one the session holds
        subst apart
        obtain ⟨found, owner, isFound, -, held, signed⟩ := h.repeated rfl _ _ given
        have isRow := session_unique (lookup_key isFound).1 mem (lookup_key isFound).2
        subst isRow
        rw [same.trans holds.held] at held
        cases held
        rw [holds.resigned] at signed
        cases signed
        exact lastLease_given given
      · exact (lastLease_other given apart).trans holds.last
  | some given =>
    have answers := h.granted given rfl
    generalize isGrant : some given = grant at h
    cases h.move with
    | amended _ => cases isGrant
    | credited _ _ _ _ _ _ => cases isGrant
    | @opened cmd requestHash sessionId now pre after hchg lease kept settles idle _
        sessions _ _ bindings _ held _ _ supported found issues pays =>
        cases isGrant
        cases mem_opened_of_active sessions settles mem on with
        | inl earlier =>
          obtain ⟨ent, lease', holds⟩ := inv row earlier.1 on
          have other : row.entitlementId ≠ cmd.entitlementId := fun owner =>
            idle row earlier.2 owner on
          refine ⟨ent, lease', holds.of_other (entitlementIn_of_same
            (pays.lookup_eq other) (currentBinding_congr bindings _)) answers ?_⟩
          exact (opened_apart sessions earlier.2).symm
        | inr isNew =>
          subst isNew
          exact ⟨after, lease, found, sameIdentity_supported issues.charges supported,
            issues.resigned rfl rfl rfl rfl rfl rfl rfl, rfl, lastLease_given answers⟩
    | @renewed cmd requestHash now pre after old hchg lease isOld wasActive _ _
        sessions _ bindings _ held supported found issues pays =>
        cases isGrant
        cases mem_renewed isOld wasActive sessions mem with
        | inl kept =>
          obtain ⟨ent, lease', holds⟩ := inv row kept.1 on
          have apart := kept.2.symm
          have other : row.entitlementId ≠ old.entitlementId := by
            intro owner
            have same := ord.single row kept.1 old (lookup_key isOld).1 owner on
              wasActive
            exact apart (congrArg UsageSessionRow.sessionId same.symm)
          exact ⟨ent, lease', holds.of_other (entitlementIn_of_same
            (pays.lookup_eq other) (currentBinding_congr bindings _)) answers apart⟩
        | inr isNew =>
          subst isNew
          have resigned := @UsageService.Issues.resigned service prims pre after
            ((newHeartbeat cmd requestHash lease old.currentLeaseSha256
              after.remainingSeconds hchg now).apply old) _ _ _ _ _ _ issues rfl rfl rfl rfl
            rfl rfl rfl
          exact ⟨after, lease, found, sameIdentity_supported issues.charges supported,
            resigned, rfl, lastLease_given answers⟩

end

section

variable {service : UsageService} {prims : ServicePrimitives}

theorem history_concat (ops : List ServerOp) (op : ServerOp) :
    history service prims (ops ++ [op]) = history service prims ops ++
      [(op, (serverStep service prims (served service prims ops) op).2)] :=
  trace_append _ _ ops [op]

theorem renewable_served (ops : List ServerOp) :
    Renewable service prims.toPrimitives (history service prims ops)
      (served service prims ops) := by
  induction ops using List.reverseRecOn with
  | nil =>
    intro row mem
    cases mem
  | append_singleton ops op ih =>
    obtain ⟨grant, performs, -⟩ := serverStep_serves (orderly_served ops) op
    rw [history_concat, served_concat]
    exact ih.step (orderly_served ops) (conserved_served ops) performs

end

/-! ## Charged time is authorised time

The charges of a session follow each other without overlap, every charge is for the
window of the lease that was issued with it, and no lease reaches further than one
renewal window and one lease beyond the time it was issued at.
-/

/-- One charge comes before another of the same session. -/
def Precedes (first second : LedgerRow) : Prop :=
  first.sequence < second.sequence ∧
    first.intervalEndedAtEpoch ≤ second.intervalStartedAtEpoch

structure Metered (database : Database) : Prop where
  order : database.usageLedger.Pairwise
    (fun first second => first.sessionId = second.sessionId → Precedes first second)
  reach : ∀ charge ∈ database.usageLedger, ∀ row ∈ database.usageSessions,
    row.sessionId = charge.sessionId → charge.sequence ≤ row.lastHeartbeatSequence ∧
      charge.intervalEndedAtEpoch ≤ row.leaseExpiresAtEpoch
  length : ∀ charge ∈ database.usageLedger,
    charge.intervalEndedAtEpoch = charge.intervalStartedAtEpoch + charge.chargedSeconds

theorem Metered.empty : Metered {} := by
  constructor <;> simp

section

variable {service : UsageService} {prims : Primitives} {s t : Database}

theorem Metered.of_same (inv : Metered s) (ledger : t.usageLedger = s.usageLedger)
    (sessions : ∀ row ∈ t.usageSessions, (∀ charge ∈ s.usageLedger,
      charge.sessionId ≠ row.sessionId) ∨ ∃ old ∈ s.usageSessions,
        row.sessionId = old.sessionId ∧ old.lastHeartbeatSequence ≤ row.lastHeartbeatSequence ∧
        old.leaseExpiresAtEpoch ≤ row.leaseExpiresAtEpoch) : Metered t := by
  refine ⟨ledger ▸ inv.order, ?_, ledger ▸ inv.length⟩
  intro charge mem row htab same
  rw [ledger] at mem
  cases sessions row htab with
  | inl fresh => exact absurd same.symm (fresh charge mem)
  | inr known =>
    obtain ⟨old, inOld, sameId, seq, expires⟩ := known
    have reach := inv.reach charge mem old inOld (sameId.symm.trans same)
    omega

/-- A charge is written for a lease that begins after everything its session was charged
    for. -/
theorem Metered.charge {charge : LedgerRow} (inv : Metered s)
    (ledger : t.usageLedger = s.usageLedger ++ [charge])
    (length : charge.intervalEndedAtEpoch = charge.intervalStartedAtEpoch + charge.chargedSeconds)
    (earlier : ∀ old ∈ s.usageLedger, old.sessionId = charge.sessionId → Precedes old charge)
    (sessions : ∀ row ∈ t.usageSessions, row.sessionId = charge.sessionId →
      charge.sequence ≤ row.lastHeartbeatSequence ∧
        charge.intervalEndedAtEpoch ≤ row.leaseExpiresAtEpoch)
    (others : ∀ row ∈ t.usageSessions, row.sessionId ≠ charge.sessionId →
      ∃ old ∈ s.usageSessions, row.sessionId = old.sessionId ∧
        old.lastHeartbeatSequence ≤ row.lastHeartbeatSequence ∧
        old.leaseExpiresAtEpoch ≤ row.leaseExpiresAtEpoch) : Metered t := by
  refine ⟨?_, ?_, ?_⟩
  · rw [ledger, List.pairwise_append]
    refine ⟨inv.order, List.pairwise_singleton _ _, ?_⟩
    intro old mem new isNew same
    have isCharge := List.mem_singleton.mp isNew
    subst isCharge
    exact earlier old mem same
  · intro old mem row htab same
    rw [ledger] at mem
    cases List.mem_append.mp mem with
    | inr last =>
      have isCharge := List.mem_singleton.mp last
      subst isCharge
      exact sessions row htab same
    | inl inOld =>
      by_cases own : row.sessionId = charge.sessionId
      · obtain ⟨before, starts⟩ := earlier old inOld (same.symm.trans own)
        obtain ⟨sequence, expires⟩ := sessions row htab own
        omega
      · obtain ⟨known, inKnown, sameId, sequence, expires⟩ := others row htab own
        have reach := inv.reach old inOld known inKnown (sameId.symm.trans same)
        omega
  · intro old mem
    rw [ledger] at mem
    cases List.mem_append.mp mem with
    | inl earlier => exact inv.length old earlier
    | inr last =>
      have isCharge := List.mem_singleton.mp last
      subst isCharge
      exact length

/-- Every transaction keeps the charges of a session apart. -/
theorem Metered.move {grant : Option Grant} (inv : Metered s) (conserved : Conserved s)
    (h : Move service prims s t grant) : Metered t := by
  have settled : ∀ {kept : List UsageSessionRow}, Settles s.usageSessions kept →
      ∀ row ∈ kept, ∃ old ∈ s.usageSessions, row.sessionId = old.sessionId ∧
        old.lastHeartbeatSequence ≤ row.lastHeartbeatSequence ∧
        old.leaseExpiresAtEpoch ≤ row.leaseExpiresAtEpoch := by
    intro kept settles row mem
    obtain ⟨old, inOld, rests⟩ := exists_of_mem_after settles mem
    exact ⟨old, inOld, rests.follows.sessionId, rests.metered.2.2.ge, rests.metered.2.1.ge⟩
  cases h with
  | amended amends =>
    apply inv.of_same amends.ledger
    intro row mem
    exact .inr (settled amends.sessions row mem)
  | credited _ _ _ ledger sessions _ =>
    apply inv.of_same ledger
    intro row mem
    rw [sessions] at mem
    exact .inr ⟨row, mem, rfl, le_rfl, le_rfl⟩
  | @opened cmd requestHash sessionId now pre after hchg lease kept settles _ _
      sessions _ _ _ _ _ _ _ _ _ issues pays =>
      have apart : ∀ row ∈ kept, row.sessionId ≠ sessionId := fun row mem =>
        opened_apart sessions mem
      -- a sess that did not exist was hchg for nothing
      have fresh : ∀ charge ∈ s.usageLedger, charge.sessionId ≠ sessionId := by
        intro charge mem same
        obtain ⟨old, inOld, sess, -⟩ := conserved.charges charge mem
        obtain ⟨row, inKept, rests⟩ := exists_of_mem_before settles inOld
        exact apart row inKept (rests.follows.sessionId.trans (sess.trans same))
      have known : ∀ row ∈ t.usageSessions, row.sessionId ≠ sessionId → row ∈ kept := by
        intro row mem other
        cases mem_opened sessions settles mem with
        | inl earlier => exact earlier.1
        | inr isNew => exact absurd (congrArg _ isNew) other
      have win := issueUsageLease_window issues.signed
      cases pays with
      | permanent _ _ ledger =>
        apply inv.of_same ledger
        intro row mem
        by_cases own : row.sessionId = sessionId
        · exact .inl (fun charge inLedger same => fresh charge inLedger (same.trans own))
        · exact .inr (settled settles row (known row mem own))
      | @metered _ charge _ _ duration _ _ ledger _ sess number seconds start stop =>
        dsimp only at sess start stop duration
        refine inv.charge ledger (by omega) ?_ ?_ ?_
        · intro old mem same
          exact absurd (same.trans sess) (fresh old mem)
        · intro row mem own
          cases mem_opened sessions settles mem with
          | inl earlier => exact absurd (own.trans sess) (apart row earlier.1)
          | inr isNew =>
            subst isNew
            exact ⟨number.le, stop.le⟩
        · intro row mem other
          exact settled settles row (known row mem (sess ▸ other))
  | @renewed cmd requestHash now pre after row hchg lease held on next _ sessions
      _ _ _ _ _ _ issues pays =>
      have htab := (lookup_key held).1
      have win := issueUsageLease_window issues.signed
      have forward : ∀ new ∈ t.usageSessions, ∃ old ∈ s.usageSessions,
          new.sessionId = old.sessionId ∧
          old.lastHeartbeatSequence ≤ new.lastHeartbeatSequence ∧
          old.leaseExpiresAtEpoch ≤ new.leaseExpiresAtEpoch ∧
          (new.sessionId = row.sessionId → new.lastHeartbeatSequence = cmd.sequence ∧
            new.leaseExpiresAtEpoch = lease.usageLeaseExpiresAtEpoch) := by
        intro new mem
        cases mem_renewed held on sessions mem with
        | inl kept => exact ⟨new, kept.1, rfl, le_rfl, le_rfl, fun same => absurd same kept.2⟩
        | inr isNew =>
          subst isNew
          refine ⟨row, htab, rfl, ?_, ?_, fun _ => ⟨rfl, rfl⟩⟩
          · change row.lastHeartbeatSequence ≤ cmd.sequence
            omega
          · change row.leaseExpiresAtEpoch ≤ lease.usageLeaseExpiresAtEpoch
            omega
      cases pays with
      | permanent _ _ ledger =>
        apply inv.of_same ledger
        intro new mem
        obtain ⟨old, inOld, sameId, sequence, expires, -⟩ := forward new mem
        exact .inr ⟨old, inOld, sameId, sequence, expires⟩
      | @metered _ charge _ _ duration _ _ ledger _ sess number seconds start stop =>
        dsimp only at sess start stop duration
        refine inv.charge ledger (by omega) ?_ ?_ ?_
        · intro old mem same
          have reach := inv.reach old mem row htab (same.trans sess).symm
          constructor
          · omega
          · omega
        · intro new mem own
          obtain ⟨_, _, _, _, _, exact_⟩ := forward new mem
          obtain ⟨sequence, expires⟩ := exact_ (own.trans sess)
          omega
        · intro new mem _
          obtain ⟨old, inOld, sameId, sequence, expires, -⟩ := forward new mem
          exact ⟨old, inOld, sameId, sequence, expires⟩

end

/-- What the window of a lease that was issued at a time admits. -/
structure Admissible (service : UsageService) (now : Nat) (lease : IssuedLease) : Prop where
  positive : 1 ≤ lease.usageLeaseExpiresAtEpoch - lease.usageLeaseNotBeforeEpoch
  ttl : lease.usageLeaseExpiresAtEpoch - lease.usageLeaseNotBeforeEpoch ≤
    service.settings.usageLeaseTtlSeconds
  reach : lease.usageLeaseExpiresAtEpoch ≤
    now + service.settings.usageRenewalWindowSeconds + service.settings.usageLeaseTtlSeconds

/-- What a request does to the ledger, and the lease in its answer: none, one that its session
    already had, one that is charged for, or one of a permanent entitlement. -/
inductive Metering (s t : Database) (answered : List (ServerOp × ServerAnswer)) :
    Option (Bytes × IssuedLease) → Prop where
  | silent : t.usageLedger = s.usageLedger → Metering s t answered none
  | repeated {sessionId : Bytes} {lease : IssuedLease} : t.usageLedger = s.usageLedger →
      lastLease answered sessionId = some lease →
      Metering s t answered (some (sessionId, lease))
  | charged {charge : LedgerRow} {lease : IssuedLease} :
      t.usageLedger = s.usageLedger ++ [charge] →
      charge.intervalStartedAtEpoch = lease.usageLeaseNotBeforeEpoch →
      charge.intervalEndedAtEpoch = lease.usageLeaseExpiresAtEpoch →
      Metering s t answered (some (charge.sessionId, lease))
  | permanent {row : UsageSessionRow} {entitlement : EntitlementRow} {lease : IssuedLease} :
      t.usageLedger = s.usageLedger → row ∈ t.usageSessions →
      entitlementIn t row.entitlementId = some entitlement → isPermanent entitlement = true →
      Metering s t answered (some (row.sessionId, lease))

section

variable {service : UsageService} {prims : Primitives} {s t : Database}
  {answered : List (ServerOp × ServerAnswer)}

theorem admissible_of_signed {ent : EntitlementRow}
    {sid channelBindingSha256 : Bytes} {seq : Nat} {previousLeaseSha256 : Bytes}
    {now notBefore duration : Nat} {lease : IssuedLease}
    (signed : service.tokenCodec.issueUsageLease prims.crypto ent sid
      channelBindingSha256 seq (ascii "active") duration previousLeaseSha256 now notBefore =
        .ok lease) (soon : notBefore ≤ now + service.settings.usageRenewalWindowSeconds) :
    Admissible service now lease := by
  obtain ⟨-, begins, expires⟩ := issueUsageLease_window signed
  have issuable := (RsaTokenCodec.issueUsageLease_eq_ok.mp signed).1
  have pos := issuable.positive
  have ttl := issuable.ttl
  rw [service.sameTtl] at ttl
  constructor
  · omega
  · omega
  · omega

theorem Move.admissible {given : Grant} (h : Move service prims s t (some given)) :
    Admissible service given.now given.lease := by
  cases h with
  | opened _ _ _ _ _ _ _ _ _ _ _ _ _ issues _ =>
    exact admissible_of_signed issues.signed (Nat.le_add_right _ _)
  | renewed _ _ _ window _ _ _ _ _ _ _ issues _ =>
    exact admissible_of_signed issues.signed (max_le (Nat.le_add_right _ _) window)

theorem Move.ledger_eq (h : Move service prims s t none) : t.usageLedger = s.usageLedger := by
  cases h with
  | amended amends => exact amends.ledger
  | credited _ _ _ ledger _ _ => exact ledger

theorem charges_permanent {before after : EntitlementRow} {hchg duration : Nat}
    (h : Charges service before after hchg duration) (free : isPermanent before = true) :
    after = before := by
  cases h with
  | permanent _ => rfl
  | metered metered _ _ =>
    rw [free] at metered
    cases metered

/-- A lease that is given out is charged for, unless its entitlement is permanent. -/
theorem Move.metering {given : Grant} (h : Move service prims s t (some given)) :
    Metering s t answered (some (given.sessionId, given.lease)) := by
  cases h with
  | @opened cmd requestHash sid now pre after hchg lease kept _ _ _ sessions _ _ _
      _ _ _ _ _ found issues pays =>
      cases pays with
      | metered _ _ _ _ _ ledger _ sess _ _ start stop =>
        rw [← sess]
        exact .charged ledger start stop
      | permanent isPermanent _ ledger =>
        have same := charges_permanent issues.charges isPermanent
        exact .permanent ledger (opened_mem sessions) found (same ▸ isPermanent)
  | @renewed cmd requestHash now pre after row hchg lease held on _ _ sessions _ _ _ _ _
      found issues pays =>
      cases pays with
      | metered _ _ _ _ _ ledger _ sess _ _ start stop =>
        rw [← sess]
        exact .charged ledger start stop
      | permanent isPermanent _ ledger =>
        have same := charges_permanent issues.charges isPermanent
        have permanent := @Metering.permanent s t answered _ after lease ledger
          (renewed_mem held on sessions) found (same ▸ isPermanent)
        exact permanent

/-- A lease that a request repeats was the last one of its session. -/
theorem Performs.repeats {ans : ServerAnswer} {sid : Bytes} {lease : IssuedLease}
    (h : Performs service prims s t none ans) (conserved : Conserved s)
    (renewable : Renewable service prims answered s)
    (given : leaseOf ans = some (sid, lease)) :
    lastLease answered sid = some lease := by
  obtain ⟨row, ent, found, on, held, signed⟩ := h.repeated rfl _ _ given
  obtain ⟨member, key⟩ := lookup_key found
  obtain ⟨inOld, same⟩ := h.move.undisturbed conserved member on
  obtain ⟨owner, last, holds⟩ := renewable row inOld on
  rw [same, holds.held] at held
  cases held
  rw [holds.resigned] at signed
  cases signed
  rw [← key]
  exact holds.last

theorem Performs.metering {grant : Option Grant} {ans : ServerAnswer}
    (h : Performs service prims s t grant ans) (conserved : Conserved s)
    (renewable : Renewable service prims answered s) :
    Metering s t answered (leaseOf ans) := by
  cases grant with
  | some given =>
    rw [h.granted given rfl]
    exact h.move.metering
  | none =>
    cases given : leaseOf ans with
    | none => exact .silent h.move.ledger_eq
    | some pair => exact .repeated h.move.ledger_eq (h.repeats conserved renewable given)

/-- Every lease in an answer was issued by a request and is admissible at its time. -/
def AllIssued (service : UsageService) (answered : List (ServerOp × ServerAnswer)) : Prop :=
  ∀ entry ∈ answered, ∀ sessionId lease, leaseOf entry.2 = some (sessionId, lease) →
    ∃ issuing ∈ answered, ∃ now, issuing.1.issueTime = some now ∧
      leaseOf issuing.2 = some (sessionId, lease) ∧ Admissible service now lease

theorem AllIssued.step {grant : Option Grant} {op : ServerOp} {ans : ServerAnswer}
    (inv : AllIssued service answered) (h : Performs service prims s t grant ans)
    (time : ∀ given, grant = some given → op.issueTime = some given.now)
    (conserved : Conserved s) (renewable : Renewable service prims answered s) :
    AllIssued service (answered ++ [(op, ans)]) := by
  -- a lease that was issued old was issued in the longer history too
  have widen : ∀ sessionId lease, (∃ issuing ∈ answered, ∃ now, issuing.1.issueTime = some now ∧
        leaseOf issuing.2 = some (sessionId, lease) ∧ Admissible service now lease) →
      ∃ issuing ∈ answered ++ [(op, ans)], ∃ now, issuing.1.issueTime = some now ∧
        leaseOf issuing.2 = some (sessionId, lease) ∧ Admissible service now lease := by
    intro sessionId lease issued
    obtain ⟨issuing, mem, rest⟩ := issued
    exact ⟨issuing, List.mem_append_left _ mem, rest⟩
  intro entry mem sessionId lease given
  cases List.mem_append.mp mem with
  | inl old => exact widen _ _ (inv entry old sessionId lease given)
  | inr last =>
    have isEntry := List.mem_singleton.mp last
    subst isEntry
    cases grant with
    | some granted =>
      have answers := h.granted granted rfl
      rw [given] at answers
      cases answers
      exact ⟨_, mem, granted.now, time granted rfl, given, h.move.admissible⟩
    | none =>
      obtain ⟨entry, inHistory, same⟩ :=
        mem_of_lastLease (h.repeats conserved renewable given)
      exact widen _ _ (inv entry inHistory sessionId lease same)

end

section

variable {service : UsageService} {prims : ServicePrimitives}

theorem metered_served (ops : List ServerOp) : Metered (served service prims ops) := by
  induction ops using List.reverseRecOn with
  | nil => exact Metered.empty
  | append_singleton ops op ih =>
    obtain ⟨grant, performs, -⟩ := serverStep_serves (orderly_served ops) op
    rw [served_concat]
    exact ih.move (conserved_served ops) performs.move

theorem allIssued_history (ops : List ServerOp) :
    AllIssued service (history service prims ops) := by
  induction ops using List.reverseRecOn with
  | nil =>
    intro entry mem
    cases mem
  | append_singleton ops op ih =>
    obtain ⟨grant, performs, time⟩ := serverStep_serves (orderly_served ops) op
    rw [history_concat]
    exact ih.step performs time (conserved_served ops) (renewable_served ops)

/-- In every run the charges of a session, in the order in which they were written, have
    increasing sequences and disjoint, increasing intervals whose lengths are the seconds
    charged; a charge is for the window of the lease issued with it; and every lease in an
    answer was issued by a request at whose time it is admissible. -/
theorem charged_time_is_authorised_time (service : UsageService) (prims : ServicePrimitives)
    (ops : List ServerOp) :
    (∀ sessionId, ((served service prims ops).usageLedger.filter
      (fun charge => charge.sessionId = sessionId)).Pairwise Precedes) ∧
    (∀ charge ∈ (served service prims ops).usageLedger, 0 < charge.chargedSeconds ∧
      charge.intervalEndedAtEpoch = charge.intervalStartedAtEpoch + charge.chargedSeconds) ∧
    (∀ op, Metering (served service prims ops) (served service prims (ops ++ [op]))
      (history service prims ops)
      (leaseOf (serverStep service prims (served service prims ops) op).2)) ∧
    ∀ entry ∈ history service prims ops, ∀ sessionId lease,
      leaseOf entry.2 = some (sessionId, lease) →
      ∃ issuing ∈ history service prims ops, ∃ now, issuing.1.issueTime = some now ∧
        leaseOf issuing.2 = some (sessionId, lease) ∧ Admissible service now lease := by
  have metered := @metered_served service prims ops
  refine ⟨?_, ?_, ?_, allIssued_history ops⟩
  · intro sessionId
    rw [List.pairwise_filter]
    apply metered.order.imp
    intro first second apart isFirst isSecond
    simp only [decide_eq_true_eq] at isFirst isSecond
    exact apart (isFirst.trans isSecond.symm)
  · intro charge member
    exact ⟨((served service prims ops).ledgerChecks charge member).chargedSeconds,
      metered.length charge member⟩
  · intro op
    obtain ⟨grant, performs, -⟩ := serverStep_serves (orderly_served ops) op
    rw [served_concat]
    exact performs.metering (conserved_served ops) (renewable_served ops)

end

end VisionForge.Server
