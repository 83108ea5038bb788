import VisionForge.Server.Orderly
import VisionForge.Server.Transactions

/-! # Cards and administration as moves -/

namespace VisionForge.Server

open Lib.Ascii Lib.Table Lib.Transaction UsageLease UsageRepository LicenseRepository

/-- The tables change for the selected entitlements alone, and not in their balances. -/
structure Touches (selected : Bytes → Prop) (s t : Database) : Prop where
  entitlements : ∃ change : EntitlementRow → EntitlementRow,
    t.entitlements = s.entitlements.map change ∧
    (∀ row ∈ s.entitlements, SameAccount row (change row)) ∧
    ∀ row ∈ s.entitlements, ¬selected row.entitlementId → change row = row
  bindings : ∀ id, ¬selected id → currentBinding t id = currentBinding s id
  ledger : t.usageLedger = s.usageLedger
  activations : t.licenseActivations = s.licenseActivations
  sessions : Settles s.usageSessions t.usageSessions
  cancellations : t.usageStartCancellations = s.usageStartCancellations
  challenges : ∀ challengeId row, challengeIn s challengeId = some row → row.status = .consumed →
    challengeIn t challengeId = some row

section

variable {s t u : Database} {selected : Bytes → Prop}

theorem Calm.touches (h : Calm s t) : Touches selected s t where
  entitlements := ⟨id, by simp [h.entitlements], fun _ _ => ⟨rfl, rfl⟩, fun _ _ _ => rfl⟩
  bindings := fun id _ => currentBinding_congr h.deviceBindings id
  ledger := h.usageLedger
  activations := h.licenseActivations
  sessions := h.usageSessions
  cancellations := h.usageStartCancellations
  challenges := h.challenges

theorem Touches.mono {more : Bytes → Prop} (h : Touches selected s t)
    (implies : ∀ id, selected id → more id) : Touches more s t := by
  obtain ⟨change, table, accounts, others⟩ := h.entitlements
  exact ⟨⟨change, table, accounts, fun row mem out =>
      others row mem (fun hin => out (implies _ hin))⟩,
    fun id out => h.bindings id (fun hin => out (implies _ hin)), h.ledger,
    h.activations, h.sessions, h.cancellations, h.challenges⟩

theorem Touches.trans (first : Touches selected s t) (snd : Touches selected t u) :
    Touches selected s u := by
  obtain ⟨change, table, accounts, others⟩ := first.entitlements
  obtain ⟨change', table', accounts', others'⟩ := snd.entitlements
  refine ⟨⟨change' ∘ change, ?_, ?_, ?_⟩, ?_, snd.ledger.trans first.ledger,
    snd.activations.trans first.activations, first.sessions.trans snd.sessions,
    snd.cancellations.trans first.cancellations, ?_⟩
  · rw [table', table, List.map_map]
  · intro row mem
    have here := accounts row mem
    have there := accounts' (change row) (table ▸ List.mem_map_of_mem mem)
    exact ⟨there.entitlementId.trans here.entitlementId,
      there.remainingSeconds.trans here.remainingSeconds⟩
  · intro row mem out
    have same := others row mem out
    have htab : change row ∈ t.entitlements := table ▸ List.mem_map_of_mem mem
    rw [same] at htab
    rw [Function.comp_apply, same]
    exact others' row htab out
  · intro id out
    exact (snd.bindings id out).trans (first.bindings id out)
  · intro id row found used
    exact snd.challenges id row (first.challenges id row found used) used

theorem Touches.amends (h : Touches selected s t) (idle : ∀ id, selected id → Idle t id) :
    Amends selected s t :=
  ⟨h.entitlements, h.bindings, h.ledger, h.activations, h.sessions, idle, .of_same h.cancellations⟩

theorem Touches.remembers (h : Touches selected s t) : Remembers s t :=
  .of_same h.cancellations h.challenges

theorem Touches.performs {srv : UsageService} {prims : Primitives} {answer : ServerAnswer}
    (h : Touches selected s t) (idle : ∀ id, selected id → Idle t id)
    (silent : leaseOf answer = none) : Performs srv prims s t none answer :=
  (h.amends idle).performs h.remembers silent

end

section

variable {s t : Database}

theorem writeEntitlements_eq_ok {rows : List EntitlementRow}
    (h : (LicenseRepository.writeEntitlements rows).run s = .ok ((), t)) :
    ∃ hc keys, t =
      { s with entitlements := rows, entitlementChecks := hc, entitlementKeys := keys } := by
  unfold LicenseRepository.writeEntitlements at h
  rw [require_ok] at h
  obtain ⟨holds, same⟩ := Database.writeChecked_eq_ok.mp h.2
  cases same
  exact ⟨holds.1, holds.2, rfl⟩

variable {entId : Bytes}

theorem updateEntitlements_touches {change : EntitlementRow → EntitlementRow}
    (same : ∀ row, SameAccount row (change row))
    (h : (LicenseRepository.writeEntitlements
      (update (fun row => row.entitlementId == entId) change s.entitlements)).run s =
        .ok ((), t)) : Touches (· = entId) s t := by
  obtain ⟨_, _, rfl⟩ := writeEntitlements_eq_ok h
  refine ⟨⟨_, rfl, ?_, ?_⟩, fun _ _ => rfl, rfl, rfl, Settles.refl _, rfl, fun _ _ found _ => found⟩
  · intro row _
    split
    · exact same row
    · exact ⟨rfl, rfl⟩
  · intro row _ other
    rw [if_neg (by simpa using other)]

theorem updateEntitlement_touches {change : EntitlementRow → EntitlementRow}
    (same : ∀ row, SameAccount row (change row))
    (h : (AdminService.updateEntitlement entId change).run s = .ok ((), t)) :
    Touches (· = entId) s t := by
  unfold AdminService.updateEntitlement at h
  exact updateEntitlements_touches same h

theorem currentBinding_update {cond : DeviceBindingRow → Bool}
    {change : DeviceBindingRow → DeviceBindingRow} {id : Bytes} {rows : List DeviceBindingRow}
    (other : id ≠ entId)
    (pre : ∀ row, cond row = true → row.entitlementId = entId)
    (after : ∀ row, cond row = true → (change row).entitlementId = entId) :
    (update cond change rows).find? (fun binding =>
      binding.entitlementId = id ∧ binding.isCurrent) =
      rows.find? (fun binding => binding.entitlementId = id ∧ binding.isCurrent) := by
  apply find?_update_of_not
  · intro row holds
    simp [pre row holds, Ne.symm other]
  · intro row holds
    simp [after row holds, Ne.symm other]

variable {binding : DeviceBindingRow}

theorem bindDevice_table (h : (bindDevice binding).run s = .ok ((), t)) :
    (∃ bindings, t = { s with deviceBindings := bindings }) ∧
      ∀ id, id ≠ binding.entitlementId → currentBinding t id = currentBinding s id := by
  unfold bindDevice at h
  rw [get_ok] at h
  dsimp only at h
  have cleared : ∀ id, id ≠ binding.entitlementId →
      (update (fun row => row.entitlementId == binding.entitlementId)
        (fun row => { row with isCurrent := false }) s.deviceBindings).find? (fun row =>
          row.entitlementId = id ∧ row.isCurrent) = currentBinding s id := by
    intro id other
    exact currentBinding_update other (fun row holds => by simpa using holds)
      (fun row holds => by simpa using holds)
  split at h
  · cases h
    refine ⟨⟨_, rfl⟩, ?_⟩
    intro id other
    rw [← cleared id other]
    apply currentBinding_update other
    · intro row holds
      simp only [sameDevices, Bool.and_eq_true, beq_iff_eq] at holds
      exact holds.1.1.1
    · intro row _
      rfl
  · rw [require_ok] at h
    cases h.2
    refine ⟨⟨_, rfl⟩, ?_⟩
    intro id other
    rw [← cleared id other]
    unfold currentBinding
    simp [Ne.symm other]

theorem bindDevice_touches (h : (bindDevice binding).run s = .ok ((), t)) :
    Touches (· = binding.entitlementId) s t := by
  obtain ⟨⟨_, rfl⟩, others⟩ := bindDevice_table h
  exact ⟨⟨id, by simp, fun _ _ => ⟨rfl, rfl⟩, fun _ _ _ => rfl⟩, others, rfl, rfl,
    Settles.refl _, rfl, fun _ _ found _ => found⟩

theorem clearBinding_touches {bindingId : Bytes}
    (h : (AdminService.clearBinding entId bindingId).run s = .ok ((), t)) :
    Touches (· = entId) s t := by
  cases h
  refine ⟨⟨id, by simp, fun _ _ => ⟨rfl, rfl⟩, fun _ _ _ => rfl⟩, ?_, rfl, rfl, Settles.refl _, rfl,
    fun _ _ found _ => found⟩
  intro id other
  apply currentBinding_update other
  · intro row holds
    simp only [Bool.and_eq_true, beq_iff_eq] at holds
    exact holds.1
  · intro row holds
    simp only [Bool.and_eq_true, beq_iff_eq] at holds
    exact holds.1

theorem commitPairSecurityBinding_eq_ok {outcome : Option ServerException}
    (h : (CardService.commitPairSecurityBinding outcome).run s = .ok ((), t)) : t = s := by
  cases outcome with
  | none =>
    cases h
    rfl
  | some error => cases h

variable {row : EntitlementRow}

theorem requireEntitlement_eq_ok
    (h : (AdminService.requireEntitlement entId).run s = .ok (row, t)) :
    t = s ∧ row ∈ s.entitlements ∧ row.entitlementId = entId := by
  replace h := read_ok h rfl
  rw [← bind_pure (unwrap _ _), unwrap_ok] at h
  obtain ⟨given, isGiven, last⟩ := h
  cases last
  exact ⟨rfl, lookup_key isGiven⟩

theorem expireChallengesOf_calm
    (h : (AdminService.expireChallengesOf entId).run s = .ok ((), t)) : Calm s t := by
  obtain ⟨⟨⟩, u, starting, activating⟩ := bind_ok.mp h
  exact ((expireStartChallengesWhere_quiet starting).trans
    (expireChallengesWhere_quiet activating)).calm

theorem administerCards_calm {cards : List LicenseCodeRow} {expired : ActivationChallengeRow → Bool}
    (h : (administerCards cards expired).run s = .ok ((), t)) : Calm s t := by
  unfold administerCards at h
  have quiet := expireChallengesWhere_quiet h
  exact ⟨quiet.entitlements, quiet.deviceBindings, quiet.usageSessions ▸ Settles.refl _,
    quiet.usageLedger, quiet.usageStartCancellations, quiet.licenseActivations, quiet.challenges⟩

end

section

variable {s t : Database} {entId : Bytes} {now : Nat}

theorem sameAccount_revoked (row : EntitlementRow) : SameAccount row (AdminService.revoked row) :=
  ⟨rfl, rfl⟩

theorem sameAccount_restored (row : EntitlementRow) : SameAccount row (AdminService.restored row) :=
  ⟨rfl, rfl⟩

theorem sameAccount_unbound (pairId : Bytes) (row : EntitlementRow) :
    SameAccount row (AdminService.unbound pairId row) :=
  ⟨rfl, rfl⟩

theorem revokeEntitlement_touches {pairSecurity : Option ServerException}
    {resp : AdminService.RevokeResponse} (inv : Orderly s)
    (h : (AdminService.revokeEntitlement entId pairSecurity now).run s =
      .ok (resp, t)) : Touches (· = entId) s t ∧ Idle t entId := by
  unfold AdminService.revokeEntitlement at h
  rw [bind_ok] at h
  obtain ⟨row, _, requiring, h⟩ := h
  obtain ⟨rfl, mem, key⟩ := requireEntitlement_eq_ok requiring
  split at h
  · rw [bind_ok] at h
    obtain ⟨⟨⟩, s1, revoking, h⟩ := h
    have touched := updateEntitlement_touches sameAccount_revoked revoking
    rw [bind_ok] at h
    obtain ⟨⟨⟩, s2, ending, h⟩ := h
    obtain ⟨settled, idle⟩ := endSessionsOf_calm (by decide) ending
    rw [bind_ok] at h
    obtain ⟨⟨⟩, _, securing, h⟩ := h
    obtain rfl := (commitPairSecurityBinding_eq_ok securing).symm
    rw [bind_ok] at h
    obtain ⟨⟨⟩, s3, expiring, h⟩ := h
    have expired := expireChallengesOf_calm expiring
    rw [bind_ok] at h
    obtain ⟨_, _, reading, last⟩ := h
    obtain ⟨rfl, -, -⟩ := requireEntitlement_eq_ok reading
    cases last
    exact ⟨touched.trans (settled.trans expired).touches, idle.settles expired.usageSessions⟩
  · rename_i isOver
    rw [not_not] at isOver
    rw [bind_ok] at h
    obtain ⟨⟨⟩, s3, expiring, h⟩ := h
    have expired := expireChallengesOf_calm expiring
    rw [bind_ok] at h
    obtain ⟨_, _, reading, last⟩ := h
    obtain ⟨rfl, -, -⟩ := requireEntitlement_eq_ok reading
    cases last
    refine ⟨expired.touches, ?_⟩
    rw [← key]
    exact (inv.revoked row mem isOver).settles expired.usageSessions

theorem restoreEntitlement_touches {resp : AdminService.RestoreResponse} (inv : Orderly s)
    (h : (AdminService.restoreEntitlement entId).run s = .ok (resp, t)) :
    Touches (· = entId) s t ∧ Idle t entId := by
  unfold AdminService.restoreEntitlement at h
  rw [bind_ok] at h
  obtain ⟨row, _, requiring, h⟩ := h
  obtain ⟨rfl, mem, key⟩ := requireEntitlement_eq_ok requiring
  rw [get_ok, require_ok, require_ok, bind_ok] at h
  obtain ⟨isOver, -, ⟨⟩, s1, restoring, h⟩ := h
  have touched := updateEntitlement_touches sameAccount_restored restoring
  rw [bind_ok] at h
  obtain ⟨_, _, reading, last⟩ := h
  obtain ⟨rfl, -, -⟩ := requireEntitlement_eq_ok reading
  cases last
  refine ⟨touched, ?_⟩
  rw [← key]
  exact (inv.revoked row mem isOver).settles touched.sessions

theorem unbindEntitlementDevice_touches {bindingId pairId : Bytes}
    {pairSecurity : Option ServerException} {resp : AdminService.RevokeResponse}
    (h : (AdminService.unbindEntitlementDevice entId bindingId pairId pairSecurity now).run
      s = .ok (resp, t)) : Touches (· = entId) s t ∧ Idle t entId := by
  unfold AdminService.unbindEntitlementDevice at h
  rw [bind_ok] at h
  obtain ⟨row, _, requiring, h⟩ := h
  obtain ⟨rfl, -, -⟩ := requireEntitlement_eq_ok requiring
  rw [get_ok, unwrap_ok] at h
  obtain ⟨binding, -, h⟩ := h
  rw [require_ok, bind_ok] at h
  obtain ⟨-, ⟨⟩, s1, clearing, h⟩ := h
  have cleared := clearBinding_touches clearing
  rw [bind_ok] at h
  obtain ⟨⟨⟩, _, securing, h⟩ := h
  obtain rfl := (commitPairSecurityBinding_eq_ok securing).symm
  rw [bind_ok] at h
  obtain ⟨⟨⟩, s2, unbinding, h⟩ := h
  have unbound := updateEntitlement_touches (sameAccount_unbound pairId) unbinding
  rw [bind_ok] at h
  obtain ⟨⟨⟩, s3, ending, h⟩ := h
  obtain ⟨settled, idle⟩ := endSessionsOf_calm (by decide) ending
  rw [bind_ok] at h
  obtain ⟨⟨⟩, s4, expiring, h⟩ := h
  have expired := expireChallengesOf_calm expiring
  rw [bind_ok] at h
  obtain ⟨_, _, reading, last⟩ := h
  obtain ⟨rfl, -, -⟩ := requireEntitlement_eq_ok reading
  cases last
  exact ⟨(cleared.trans unbound).trans (settled.trans expired).touches,
    idle.settles expired.usageSessions⟩

theorem entitlementSummary_calm
    (h : (AdminService.entitlementSummary entId now).run s = .ok (row, t)) : Calm s t := by
  obtain ⟨_, u, expiring, reading⟩ := bind_ok.mp h
  obtain ⟨rfl, -, -⟩ := requireEntitlement_eq_ok reading
  exact expireStaleSessions_calm expiring

/-- The statements for one entitlement of a batch. -/
theorem revokeBatchEntitlement_eq_ok
    (h : (AdminService.revokeBatchEntitlement now row).run s = .ok ((), t)) :
    ∃ s1 s2 s3,
      (expireChallengesWhere (fun chal =>
        chal.targetEntitlementId == row.entitlementId)).run s = .ok ((), s1) ∧
      ((row.status ≠ .revoked ∧
          (AdminService.updateEntitlement row.entitlementId AdminService.revoked).run s1 =
            .ok ((), s2)) ∨
        (row.status = .revoked ∧ s2 = s1)) ∧
      (endSessionsOf row.entitlementId .revoked now "license_batch_revoked").run s2 = .ok ((), s3) ∧
      (expireStartChallengesWhere (fun chal =>
        chal.entitlementId == row.entitlementId)).run s3 = .ok ((), t) := by
  obtain ⟨⟨⟩, s1, expiring, h⟩ := bind_ok.mp h
  split at h
  · rename_i unrevoked
    obtain ⟨⟨⟩, s2, revoking, h⟩ := bind_ok.mp h
    obtain ⟨⟨⟩, s3, ending, last⟩ := bind_ok.mp h
    exact ⟨s1, s2, s3, expiring, .inl ⟨unrevoked, revoking⟩, ending, last⟩
  · rename_i isOver
    obtain ⟨⟨⟩, s3, ending, last⟩ := bind_ok.mp h
    exact ⟨s1, s1, s3, expiring, .inr ⟨not_not.mp isOver, rfl⟩, ending, last⟩

theorem revokeBatchEntitlement_touches
    (h : (AdminService.revokeBatchEntitlement now row).run s = .ok ((), t)) :
    Touches (· = row.entitlementId) s t ∧ Idle t row.entitlementId := by
  obtain ⟨s1, s2, s3, expiring, revoking, ending, last⟩ := revokeBatchEntitlement_eq_ok h
  have expired := (expireChallengesWhere_quiet expiring).calm
  have touched : Touches (· = row.entitlementId) s1 s2 := by
    cases revoking with
    | inl updating => exact updateEntitlement_touches sameAccount_revoked updating.2
    | inr already =>
      rw [already.2]
      exact (Calm.refl s1).touches
  obtain ⟨settled, idle⟩ := endSessionsOf_calm (by decide) ending
  have quiet := expireStartChallengesWhere_quiet last
  exact ⟨(expired.touches.trans touched).trans (settled.trans quiet.calm).touches,
    idle.settles quiet.calm.usageSessions⟩

theorem revokeEach_touches {rows : List EntitlementRow}
    (h : (AdminService.revokeEach now rows).run s = .ok ((), t)) :
    Touches (· ∈ rows.map EntitlementRow.entitlementId) s t ∧
      ∀ id ∈ rows.map EntitlementRow.entitlementId, Idle t id := by
  induction rows generalizing s with
  | nil =>
    cases h
    refine ⟨(Calm.refl _).touches, ?_⟩
    intro id no
    cases no
  | cons row rows ih =>
    obtain ⟨⟨⟩, u, revoking, rest⟩ := bind_ok.mp h
    obtain ⟨first, idle⟩ := revokeBatchEntitlement_touches revoking
    obtain ⟨others, idleOthers⟩ := ih rest
    refine ⟨(first.mono ?_).trans (others.mono ?_), ?_⟩
    · rintro id rfl
      exact List.mem_cons_self
    · intro id mem
      exact List.mem_cons_of_mem _ mem
    · intro id mem
      cases List.mem_cons.mp mem with
      | inl same =>
        subst same
        exact idle.settles others.sessions
      | inr later => exact idleOthers id later

theorem touches_of_cards {selected : Bytes → Prop} {cards : List LicenseCodeRow}
    (same : t = { s with licenseCodes := cards }) : Touches selected s t := by
  subst same
  exact Calm.touches ⟨rfl, rfl, Settles.refl _, rfl, rfl, rfl, fun _ _ found _ => found⟩

theorem revokeBatch_touches {batchId : Nat} {revokeActivatedEntitlements : Bool}
    (h : (AdminService.revokeBatch batchId revokeActivatedEntitlements now).run s = .ok ((), t)) :
    ∃ selected, Touches selected s t ∧ ∀ id, selected id → Idle t id := by
  unfold AdminService.revokeBatch at h
  rw [get_ok, bind_ok] at h
  obtain ⟨⟨⟩, s1, expiring, h⟩ := h
  have expired := (expireChallengesWhere_quiet expiring).calm
  rw [get_ok, set_ok] at h
  split at h
  · rw [get_ok, bind_ok] at h
    obtain ⟨⟨⟩, s2, revoking, h⟩ := h
    obtain ⟨touched, idle⟩ := revokeEach_touches revoking
    cases h
    refine ⟨_, (expired.touches.trans (touches_of_cards rfl)).trans
      (touched.trans (touches_of_cards rfl)), idle⟩
  · cases h
    refine ⟨fun _ => False, (expired.touches.trans (touches_of_cards rfl)).trans
      (touches_of_cards rfl), fun _ => False.elim⟩

end

section

variable {srv : UsageService} {prims : ServicePrimitives} {s t : Database} {now : Nat}
  {chal : ActivationChallengeRow} {card : LicenseCodeRow} {ids : ActivationIds}
  {pairSecurity : Option ServerException}

/-- The tables after an entitlement was credited and before that is written down. -/
structure Funds (s t : Database) (entitlementId : Bytes) (seconds : Nat) : Prop where
  credits : Credits s entitlementId seconds t.entitlements
  bindings : ∀ id, id ≠ entitlementId → currentBinding t id = currentBinding s id
  usageLedger : t.usageLedger = s.usageLedger
  usageSessions : t.usageSessions = s.usageSessions
  usageStartCancellations : t.usageStartCancellations = s.usageStartCancellations
  activationChallenges : t.activationChallenges = s.activationChallenges
  licenseActivations : t.licenseActivations = s.licenseActivations

theorem createEntitlement_eq_ok
    (h : (CardService.createEntitlement prims chal card ids).run s = .ok (entId, t)) :
    entId = ids.entitlementId ∧ ∃ u, (writeEntitlements (s.entitlements ++
        [CardService.newEntitlement prims chal card ids.entitlementId])).run s = .ok ((), u) ∧
      (bindDevice (bindingFromChallenge chal ids.entitlementId ids.bindingId)).run u =
        .ok ((), t) := by
  unfold CardService.createEntitlement at h
  rw [require_ok, bind_ok] at h
  obtain ⟨-, ⟨⟩, u, creating, h⟩ := h
  unfold LicenseRepository.createEntitlement at creating
  obtain ⟨⟨⟩, v, binding, last⟩ := bind_ok.mp h
  cases last
  exact ⟨rfl, u, creating, binding⟩

theorem createEntitlement_funds
    (h : (CardService.createEntitlement prims chal card ids).run s =
      .ok (entId, t)) : Funds s t entId (creditedSeconds card) := by
  obtain ⟨rfl, u, writing, binding⟩ := createEntitlement_eq_ok h
  obtain ⟨_, keys, rfl⟩ := writeEntitlements_eq_ok writing
  obtain ⟨⟨_, rfl⟩, others⟩ := bindDevice_table binding
  refine ⟨.created rfl rfl ⟨?_, rfl⟩ ?_, others, rfl, rfl, rfl, rfl, rfl⟩
  · intro isOver
    cases isOver
  · rw [List.map_append, List.nodup_append] at keys
    intro other mem same
    exact keys.2.2 other.entitlementId (List.mem_map_of_mem mem) _ (by simp; rfl) same

theorem reactivateExhaustedEntitlement_eq_ok
    (h : (reactivateExhaustedEntitlement entId binding card).run s = .ok (true, t)) :
    (∃ row ∈ s.entitlements, canReactivate s entId binding.pairId row = true) ∧
      ∃ u, (writeEntitlements (update (canReactivate s entId binding.pairId)
          (reactivated binding card) s.entitlements)).run s = .ok ((), u) ∧
        (bindDevice binding).run u = .ok ((), t) := by
  unfold reactivateExhaustedEntitlement at h
  rw [get_ok] at h
  obtain ⟨⟨⟩, u, writing, h⟩ := bind_ok.mp h
  split at h
  · cases h
  rename_i one
  obtain ⟨⟨⟩, v, binding, last⟩ := bind_ok.mp h
  cases last
  unfold rowcount at one
  exact ⟨List.countP_pos_iff.mp (by omega), u, writing, binding⟩

theorem reactivateExhaustedEntitlement_funds (owner : binding.entitlementId = entId)
    (h : (reactivateExhaustedEntitlement entId binding card).run s = .ok (true, t)) :
    Funds s t entId (creditedSeconds card) := by
  obtain ⟨⟨row, mem, can⟩, u, writing, binding⟩ := reactivateExhaustedEntitlement_eq_ok h
  obtain ⟨_, _, rfl⟩ := writeEntitlements_eq_ok writing
  obtain ⟨⟨_, rfl⟩, others⟩ := bindDevice_table binding
  rw [owner] at others
  refine ⟨.reactivated ?_ ?_ ⟨row, mem, can⟩ ?_, others, rfl, rfl, rfl, rfl, rfl⟩
  · intro row can
    simp only [canReactivate, Bool.and_eq_true, beq_iff_eq] at can
    exact ⟨can.1.1.1.1.1, can.1.1.2⟩
  · intro row
    refine ⟨rfl, rfl, ?_, rfl⟩
    intro isOver
    cases isOver
  · simp only [canReactivate, hasActiveSession, Bool.and_eq_true, beq_iff_eq,
      Bool.not_eq_true', List.any_eq_false, decide_eq_true_eq, not_and] at can
    intro sess htab owner
    exact can.2 sess htab (owner.trans can.1.1.1.1.1.symm)

theorem requireSameOrUnboundAndroidDevice_eq_ok
    (h : (CardService.requireSameOrUnboundAndroidDevice prims row chal).run s =
      .ok ((), t)) : t = s := by
  unfold CardService.requireSameOrUnboundAndroidDevice at h
  rw [get_ok] at h
  split at h
  · rw [← bind_pure (require _ _), require_ok] at h
    cases h.2
    rfl
  · rw [require_ok, require_ok, ← bind_pure (require _ _), require_ok] at h
    cases h.2.2.2
    rfl

theorem activationTarget_eq_ok {target : ActivationMode × Bytes}
    (h : (CardService.activationTarget prims chal now).run s = .ok (target, t)) : t = s := by
  replace h := read_ok h rfl
  obtain ⟨card, -, h⟩ := unwrap_ok.mp h
  split at h
  · cases h
    rfl
  · rw [require_ok] at h
    replace h := read_ok h.2 rfl
    obtain ⟨found, -, h⟩ := unwrap_ok.mp h
    obtain ⟨⟨⟩, _, requiring, last⟩ := bind_ok.mp h
    cases last
    exact requireSameOrUnboundAndroidDevice_eq_ok requiring

theorem newCardActivationTarget_eq_ok {target : ActivationMode × Bytes}
    (h : (CardService.newCardActivationTarget prims chal).run s = .ok (target, t)) :
    t = s := by
  unfold CardService.newCardActivationTarget at h
  rw [bind_ok] at h
  obtain ⟨existing, u, finding, h⟩ := h
  have unchanged : u = s := by
    replace finding := read_ok finding rfl
    split at finding
    · cases finding
      rfl
    · rw [require_ok] at finding
      cases finding.2
      rfl
  subst unchanged
  split at h
  · cases h
    rfl
  · obtain ⟨⟨⟩, _, requiring, last⟩ := bind_ok.mp h
    cases last
    exact requireSameOrUnboundAndroidDevice_eq_ok requiring

theorem challengeTarget_eq_ok {target : ActivationMode × Bytes}
    (h : (CardService.challengeTarget prims chal now).run s = .ok (target, t)) : t = s := by
  obtain ⟨chosen, _, choosing, h⟩ := bind_ok.mp h
  obtain rfl := (activationTarget_eq_ok choosing).symm
  split at h
  · exact newCardActivationTarget_eq_ok h
  · cases h
    rfl

theorem createChallengeTransaction_calm {settings : DualMachineSettings}
    {created : ActivationChallengeRow}
    (h : (CardService.createChallengeTransaction settings prims chal now).run s =
      .ok (created, t)) : Calm s t := by
  unfold CardService.createChallengeTransaction CardService.requireSupportedClientVersions at h
  simp only [bind_assoc] at h
  rw [unwrap_ok] at h
  obtain ⟨host, -, h⟩ := h
  rw [require_ok, unwrap_ok] at h
  obtain ⟨-, android, -, h⟩ := h
  rw [require_ok] at h
  obtain ⟨⟨⟩, u, expiring, h⟩ := bind_ok.mp h.2
  obtain ⟨target, _, choosing, h⟩ := bind_ok.mp h
  obtain rfl := (challengeTarget_eq_ok choosing).symm
  replace h := read_ok h rfl
  have expires := expireChallengesWhere_quiet expiring
  split at h
  · unfold CardService.requireReusable at h
    rw [bind_assoc, require_ok, require_ok] at h
    cases h.2.2
    exact expires.calm
  · obtain ⟨⟨⟩, _, creating, last⟩ := bind_ok.mp h
    cases last
    exact (expires.trans (createChallenge_quiet (recast_eq_ok.mp creating))).calm

/-- A card is credited to the exhausted entitlement of the pair or to a new one. -/
theorem creditEntitlement_cases
    (h : (CardService.creditEntitlement prims chal card ids).run s = .ok (entId, t)) :
    (chal.activationMode = .reactivate ∧ entId = chal.targetEntitlementId ∧
        (∃ row ∈ lookup EntitlementRow.pairId chal.pairId s.entitlements,
          row.entitlementId = chal.targetEntitlementId ∧
          (CardService.requireSameOrUnboundAndroidDevice prims row chal).run s = .ok ((), s)) ∧
        (reactivateExhaustedEntitlement chal.targetEntitlementId
          (bindingFromChallenge chal chal.targetEntitlementId ids.bindingId)
          card).run s = .ok (true, t)) ∨
      (chal.activationMode ≠ .reactivate ∧
        (CardService.createEntitlement prims chal card ids).run s = .ok (entId, t)) := by
  replace h := read_ok h rfl
  split at h
  · rename_i again
    obtain ⟨row, filtered, h⟩ := unwrap_ok.mp h
    obtain ⟨found, isTarget⟩ := Option.filter_eq_some_iff.mp filtered
    obtain ⟨⟨⟩, _, requiring, h⟩ := bind_ok.mp h
    obtain rfl := (requireSameOrUnboundAndroidDevice_eq_ok requiring).symm
    obtain ⟨done, u, reactivating, h⟩ := bind_ok.mp h
    obtain ⟨rfl, last⟩ := require_ok.mp h
    cases last
    exact .inl ⟨again, rfl, ⟨row, found, beq_iff_eq.mp isTarget, requiring⟩, reactivating⟩
  · rename_i first
    rw [require_ok] at h
    exact .inr ⟨first, h.2⟩

theorem creditEntitlement_funds
    (h : (CardService.creditEntitlement prims chal card ids).run s =
      .ok (entId, t)) : Funds s t entId (creditedSeconds card) := by
  obtain ⟨-, rfl, -, reactivating⟩ | ⟨-, creating⟩ := creditEntitlement_cases h
  · exact reactivateExhaustedEntitlement_funds rfl reactivating
  · exact createEntitlement_funds creating

def ChallengeConsumed (database : Database) (challengeId : Bytes) : Prop :=
  ∃ row, challengeIn database challengeId = some row ∧ row.status = .consumed

theorem ChallengeConsumed.remembers {challengeId : Bytes} (h : ChallengeConsumed s challengeId)
    (remembers : Remembers s t) : ChallengeConsumed t challengeId := by
  obtain ⟨row, found, used⟩ := h
  exact ⟨row, remembers.challenges _ row found used, used⟩

theorem consumeChallenge_consumes {challengeId : Bytes} {used : Bool}
    (found : challengeIn s challengeId = some chal) (issued : chal.status = .issued)
    (unexpired : now < chal.expiresAtEpoch)
    (h : (consumeChallenge challengeId now).run s = .ok (used, t)) :
    challengeIn t challengeId = some { chal with status := .consumed } := by
  have key := (lookup_key found).2
  cases h
  have can : canConsumeChallenge challengeId now chal = true := by
    simp [canConsumeChallenge, key, issued, unexpired]
  unfold challengeIn at found ⊢
  refine (lookup_update ?_).trans ?_
  · intro row
    rfl
  · rw [found, Option.map_some, if_pos can]

variable {resp : ActivationResponse}

theorem confirmCredit_performs {challengeId : Bytes}
    (found : challengeIn s challengeId = some chal) (issued : chal.status = .issued)
    (unexpired : now < chal.expiresAtEpoch)
    (h : (CardService.confirmCredit prims chal ids pairSecurity now).run s = .ok (resp, t)) :
    Performs srv prims.toPrimitives s t none (.ok (.activation resp)) ∧
      challengeIn t challengeId = some { chal with status := .consumed } := by
  have key := (lookup_key found).2
  replace h := read_ok h rfl
  obtain ⟨card, -, h⟩ := unwrap_ok.mp h
  obtain ⟨entId, s1, crediting, h⟩ := bind_ok.mp h
  have funds := creditEntitlement_funds (recast_eq_ok.mp crediting)
  obtain ⟨⟨⟩, _, securing, h⟩ := bind_ok.mp h
  obtain rfl := (commitPairSecurityBinding_eq_ok securing).symm
  obtain ⟨consumedCode, s2, spending, h⟩ := bind_ok.mp h
  have spent := consumeCode_quiet spending
  rw [require_ok, bind_ok] at h
  obtain ⟨-, consumedChallenge, s3, consuming, h⟩ := h
  have quiet := spent.trans (consumeChallenge_quiet consuming)
  rw [require_ok, bind_ok] at h
  obtain ⟨-, ⟨⟩, s4, creating, h⟩ := h
  unfold createActivation at creating
  rw [get_ok, require_ok] at creating
  cases creating.2
  replace h := read_ok h rfl
  obtain ⟨pair, -, last⟩ := unwrap_ok.mp h
  cases last
  have used : challengeIn s3 challengeId = some { chal with status := .consumed } := by
    rw [← key] at found ⊢
    refine consumeChallenge_consumes ?_ issued unexpired consuming
    cases spending
    rw [funds.activationChallenges]
    exact found
  have activations := quiet.licenseActivations.trans funds.licenseActivations
  refine ⟨⟨.credited (congrArg (· ++ [_]) activations) (quiet.entitlements ▸ funds.credits)
    ?_ ?_ ?_ ?_, ?_, ?_, ?_⟩, used⟩
  · intro id other
    rw [← funds.bindings id other]
    exact currentBinding_congr quiet.deviceBindings id
  · exact quiet.usageLedger.trans funds.usageLedger
  · exact quiet.usageSessions.trans funds.usageSessions
  · exact quiet.usageStartCancellations.trans funds.usageStartCancellations
  · refine .of_same (quiet.usageStartCancellations.trans funds.usageStartCancellations) ?_
    intro challengeId row htab isConsumed
    refine quiet.challenges challengeId row ?_ isConsumed
    unfold challengeIn at htab ⊢
    rw [funds.activationChallenges]
    exact htab
  · intro given no
    cases no
  · intro _ sid lease no
    cases no

theorem sameAccount_rebound (binding : DeviceBindingRow) (row : EntitlementRow) :
    SameAccount row (rebound binding row) :=
  ⟨rfl, rfl⟩

theorem confirmDeviceBinding_performs {challengeId : Bytes}
    (found : challengeIn s challengeId = some chal) (issued : chal.status = .issued)
    (unexpired : now < chal.expiresAtEpoch)
    (h : (CardService.confirmDeviceBinding prims chal ids pairSecurity now).run s = .ok (resp, t)) :
    Performs srv prims.toPrimitives s t none (.ok (.activation resp)) ∧
      challengeIn t challengeId = some { chal with status := .consumed } := by
  have key := (lookup_key found).2
  unfold CardService.confirmDeviceBinding at h
  replace h := read_ok h rfl
  replace h := read_ok h rfl
  obtain ⟨row, -, h⟩ := unwrap_ok.mp h
  obtain ⟨pair, -, h⟩ := unwrap_ok.mp h
  obtain ⟨⟨⟩, _, requiring, h⟩ := bind_ok.mp h
  obtain rfl := (requireSameOrUnboundAndroidDevice_eq_ok requiring).symm
  obtain ⟨⟨⟩, s2, rebinding, h⟩ := bind_ok.mp h
  replace rebinding := recast_eq_ok.mp rebinding
  unfold rebindEntitlement at rebinding
  rw [get_ok, bind_ok] at rebinding
  obtain ⟨⟨⟩, s1, writing, binding⟩ := rebinding
  have rebound := (updateEntitlements_touches (sameAccount_rebound _) writing).trans
    (bindDevice_touches binding)
  obtain ⟨⟨⟩, _, securing, h⟩ := bind_ok.mp h
  obtain rfl := (commitPairSecurityBinding_eq_ok securing).symm
  obtain ⟨consumedChallenge, s3, consuming, h⟩ := bind_ok.mp h
  rw [require_ok, bind_ok] at h
  obtain ⟨-, ⟨⟩, s4, expiring, h⟩ := h
  have quiet := (consumeChallenge_quiet consuming).trans (expireStartChallengesWhere_quiet expiring)
  obtain ⟨⟨⟩, s5, ending, h⟩ := bind_ok.mp h
  obtain ⟨settled, idle⟩ := endSessionsOf_calm (by decide) ending
  replace h := read_ok h rfl
  obtain ⟨last, -, done⟩ := unwrap_ok.mp h
  cases done
  have touched := rebound.trans (quiet.calm.trans settled).touches
  refine ⟨touched.performs (fun id same => by subst same; exact idle) rfl, ?_⟩
  have used : challengeIn s3 challengeId = some { chal with status := .consumed } := by
    rw [← key] at found ⊢
    refine consumeChallenge_consumes ?_ issued unexpired consuming
    obtain ⟨_, _, rfl⟩ := writeEntitlements_eq_ok writing
    obtain ⟨⟨_, rfl⟩, -⟩ := bindDevice_table binding
    exact found
  exact ((expireStartChallengesWhere_quiet expiring).calm.trans settled).challenges _ _ used rfl

theorem confirmationReplay_eq_ok
    (h : (CardService.confirmationReplay chal).run s = .ok (resp, t)) : t = s := by
  unfold CardService.confirmationReplay at h
  split at h
  · replace h := read_ok h rfl
    obtain ⟨_, -, h⟩ := unwrap_ok.mp h
    replace h := read_ok h rfl
    obtain ⟨_, -, last⟩ := unwrap_ok.mp h
    cases last
    rfl
  · replace h := read_ok h rfl
    obtain ⟨_, -, last⟩ := unwrap_ok.mp h
    cases last
    rfl

variable {cmd : ConfirmCommand}

theorem confirmActivationChecks_eq_ok {settings : DualMachineSettings}
    (h : (CardService.confirmActivationChecks settings prims cmd now).run s = .ok (chal, t)) :
    t = s ∧ challengeIn s cmd.challengeId = some chal ∧
      (chal.status = .consumed ∨
        chal.status = .issued ∧ now < chal.expiresAtEpoch) := by
  replace h := read_ok h rfl
  obtain ⟨row, filtered, h⟩ := unwrap_ok.mp h
  obtain ⟨payload, -, h⟩ := unwrap_ok.mp h
  rw [require_ok] at h
  cases h.2
  obtain ⟨isRow, holds⟩ := Option.filter_eq_some_iff.mp filtered
  simp only [Bool.and_eq_true, Bool.or_eq_true, decide_eq_true_eq] at holds
  exact ⟨rfl, isRow, holds.1⟩

/-- A confirmation repeats an answer, or it is the first of an open challenge. -/
theorem confirmActivation_cases {settings : DualMachineSettings} {seen : Database}
    (h : (CardService.confirmActivation settings prims seen cmd ids pairSecurity now).run s =
      .ok (resp, t)) :
    ∃ chal, challengeIn s cmd.challengeId = some chal ∧
      (chal.status = .consumed ∧
          (CardService.confirmationReplay chal).run s = .ok (resp, t) ∨
        chal.status = .issued ∧ now < chal.expiresAtEpoch ∧
          (chal.activationMode = .bindDevice ∧ (CardService.confirmDeviceBinding prims
              chal ids pairSecurity now).run s = .ok (resp, t) ∨
            chal.activationMode ≠ .bindDevice ∧ (CardService.confirmCredit prims
              chal ids pairSecurity now).run s = .ok (resp, t))) := by
  unfold CardService.confirmActivation at h
  rw [reading_ok] at h
  obtain ⟨-, -, -, h⟩ := h
  unfold CardService.confirmActivationTransaction at h
  rw [bind_ok] at h
  obtain ⟨chal, _, checking, h⟩ := h
  obtain ⟨rfl, found, state⟩ := confirmActivationChecks_eq_ok checking
  refine ⟨chal, found, ?_⟩
  split at h
  · rename_i used
    exact .inl ⟨used, h⟩
  rename_i fresh
  obtain ⟨issued, unexpired⟩ := state.resolve_left fresh
  split at h
  · rename_i binds
    exact .inr ⟨issued, unexpired, .inl ⟨binds, h⟩⟩
  · rename_i credits
    exact .inr ⟨issued, unexpired, .inr ⟨credits, h⟩⟩

theorem confirmActivation_performs {seen : Database}
    (h : (CardService.confirmActivation srv.settings prims seen cmd ids pairSecurity
      now).run s = .ok (resp, t)) :
    Performs srv prims.toPrimitives s t none (.ok (.activation resp)) ∧
      ChallengeConsumed t cmd.challengeId := by
  obtain ⟨chal, found, ⟨consumed, h⟩ | ⟨issued, unexpired, ⟨-, h⟩ | ⟨-, h⟩⟩⟩ :=
    confirmActivation_cases h
  · obtain rfl := (confirmationReplay_eq_ok h).symm
    exact ⟨(Calm.refl _).performs rfl, chal, found, consumed⟩
  · obtain ⟨performs, consumed⟩ := confirmDeviceBinding_performs found issued unexpired h
    exact ⟨performs, _, consumed, rfl⟩
  · obtain ⟨performs, consumed⟩ := confirmCredit_performs found issued unexpired h
    exact ⟨performs, _, consumed, rfl⟩

theorem confirmActivation_repeated {seen : Database}
    (used : ChallengeConsumed s cmd.challengeId)
    (h : (CardService.confirmActivation srv.settings prims seen cmd ids pairSecurity
      now).run s = .ok (resp, t)) : t = s := by
  obtain ⟨chal, found, ⟨-, h⟩ | ⟨issued, -⟩⟩ := confirmActivation_cases h
  · exact confirmationReplay_eq_ok h
  · obtain ⟨row, isRow, isOver⟩ := used
    rw [found] at isRow
    cases isRow
    rw [issued] at isOver
    cases isOver

end

end VisionForge.Server
