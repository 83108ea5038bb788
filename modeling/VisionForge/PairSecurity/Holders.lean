import VisionForge.PairSecurity.Statements
import VisionForge.Server.Conservation

/-! # The states of pairs only restrict the service

Whatever the service with its pair states does to the other tables, the service without
them can do too: an operation on pairs that succeeds lets the transaction pass, and one
that fails undoes it.
-/

namespace VisionForge.PairSecurity

open Lib.Ascii Lib.Run Lib.Table Lib.Transaction Server LicenseRepository UsageRepository

section

variable {prims : ServicePrimitives} {chal : ActivationChallengeRow} {ids : ActivationIds}
  {now : Nat}

theorem confirmCredit_parts :
    CardService.confirmCredit prims chal ids none now =
      (creditCard prims chal ids now >>= fun credited =>
        recordCredit chal ids now credited.1 credited.2) := by
  simp only [CardService.confirmCredit, creditCard, recordCredit, bind_assoc, pure_bind,
    CardService.commitPairSecurityBinding]

theorem confirmDeviceBinding_parts :
    CardService.confirmDeviceBinding prims chal ids none now =
      (rebindDevices prims chal ids >>= recordBinding chal now) := by
  simp only [CardService.confirmDeviceBinding, rebindDevices, bind_assoc, pure_bind,
    CardService.commitPairSecurityBinding]
  rfl

theorem revokeEntitlement_parts {entId : Bytes} :
    AdminService.revokeEntitlement entId none now =
      (AdminService.requireEntitlement entId >>= fun row =>
        (if row.status ≠ .revoked then revokeTables entId now else pure ()) >>= fun _ =>
          recordRevocation entId row) := by
  unfold AdminService.revokeEntitlement
  congr 1
  funext row
  by_cases isOver : row.status = .revoked
  · simp only [isOver, ne_eq, not_true_eq_false, if_false, pure_bind, recordRevocation]
  · simp only [isOver, ne_eq, not_false_eq_true, if_true, bind_assoc, revokeTables,
      recordRevocation, CardService.commitPairSecurityBinding, pure_bind]

theorem unbindEntitlementDevice_parts {entId bindingId pairId : Bytes} :
    AdminService.unbindEntitlementDevice entId bindingId pairId none now =
      (clearDevices entId bindingId >>= fun _ =>
        recordUnbinding entId pairId now) := by
  simp only [AdminService.unbindEntitlementDevice, clearDevices, recordUnbinding, bind_assoc,
    pure_bind, CardService.commitPairSecurityBinding]

end

/-! ## Entitlements and the devices that hold them

What the card and administration services do to entitlements and device bindings, as far
as pairs are concerned: a request changes those of one entitlement, keeps the identity of
its bindings and raises its revocation version.
-/

/-- Entitlements are told apart by their pairs and by their hashes. -/
structure Distinct (rows : List EntitlementRow) : Prop where
  pairs : (rows.map EntitlementRow.pairId).Nodup
  hashes : (rows.map (fun row => (row.hostKeySha256, row.androidKeySha256))).Nodup

/-- One entitlement may change, with a revocation version that does not fall. -/
structure Reassigns (owner : Bytes) (before after : List EntitlementRow) : Prop where
  others : ∀ row, row.entitlementId ≠ owner → (row ∈ after ↔ row ∈ before)
  kept : ∀ row ∈ before, ∃ new ∈ after, new.entitlementId = row.entitlementId ∧
    row.revocationVersion ≤ new.revocationVersion

/-- The bindings of one entitlement may change, but not their identity. -/
structure Rebinds (owner : Bytes) (before after : List DeviceBindingRow) : Prop where
  others : ∀ row, row.entitlementId ≠ owner → (row ∈ after ↔ row ∈ before)
  kept : ∀ row ∈ before, ∃ new ∈ after, new.bindingId = row.bindingId ∧
    new.entitlementId = row.entitlementId ∧ new.pairId = row.pairId

theorem Rebinds.refl (owner : Bytes) (rows : List DeviceBindingRow) : Rebinds owner rows rows :=
  ⟨fun _ _ => Iff.rfl, fun row mem => ⟨row, mem, rfl, rfl, rfl⟩⟩

section

variable {owner : Bytes}

variable {chg : EntitlementRow → EntitlementRow}

theorem reassigns_update {cond : EntitlementRow → Bool} {rows : List EntitlementRow}
    (selects : ∀ row, cond row = true → row.entitlementId = owner)
    (keeps : ∀ row, (chg row).entitlementId = row.entitlementId ∧
      row.revocationVersion ≤ (chg row).revocationVersion) :
    Reassigns owner rows (update cond chg rows) := by
  constructor
  · intro row other
    apply mem_update_iff
    · by_contra sel
      exact other (selects row (Bool.not_eq_false _ ▸ sel))
    · rintro old - sel rfl
      exact other ((keeps old).1.trans (selects old sel))
  · intro row mem
    refine ⟨_, mem_update_of_mem mem, ?_⟩
    split
    · exact keeps row
    · exact ⟨rfl, le_rfl⟩

theorem rebinds_update {cond : DeviceBindingRow → Bool}
    {chg : DeviceBindingRow → DeviceBindingRow} {rows : List DeviceBindingRow}
    (selects : ∀ row, cond row = true → row.entitlementId = owner)
    (keeps : ∀ row, cond row = true → (chg row).bindingId = row.bindingId ∧
      (chg row).entitlementId = row.entitlementId ∧ (chg row).pairId = row.pairId) :
    Rebinds owner rows (update cond chg rows) := by
  constructor
  · intro row other
    apply mem_update_iff
    · by_contra sel
      exact other (selects row (Bool.not_eq_false _ ▸ sel))
    · rintro old - sel rfl
      exact other ((keeps old sel).2.1.trans (selects old sel))
  · intro row mem
    refine ⟨_, mem_update_of_mem mem, ?_⟩
    split
    · rename_i sel
      exact keeps row sel
    · exact ⟨rfl, rfl, rfl⟩

theorem Rebinds.trans {first snd third : List DeviceBindingRow} (h : Rebinds owner first snd)
    (h' : Rebinds owner snd third) : Rebinds owner first third := by
  constructor
  · intro row other
    rw [h'.others row other, h.others row other]
  · intro row mem
    obtain ⟨middle, inSecond, id, owned, pair⟩ := h.kept row mem
    obtain ⟨last, inThird, id', owned', pair'⟩ := h'.kept middle inSecond
    exact ⟨last, inThird, id'.trans id, owned'.trans owned, pair'.trans pair⟩

end

section

variable {s t : Database}

theorem distinct_of_write {rows : List EntitlementRow}
    (h : (LicenseRepository.writeEntitlements rows).run s = .ok ((), t)) : Distinct rows := by
  unfold LicenseRepository.writeEntitlements at h
  rw [require_ok] at h
  exact ⟨h.1.1, h.1.2⟩

theorem bindDevice_rebinds {binding : DeviceBindingRow}
    (h : (bindDevice binding).run s = .ok ((), t)) :
    t.entitlements = s.entitlements ∧
      Rebinds binding.entitlementId s.deviceBindings t.deviceBindings ∧
      ((s.deviceBindings.map DeviceBindingRow.bindingId).Nodup →
        (t.deviceBindings.map DeviceBindingRow.bindingId).Nodup) := by
  unfold bindDevice at h
  rw [get_ok] at h
  dsimp only at h
  have cleared : Rebinds binding.entitlementId s.deviceBindings
      (update (fun row => row.entitlementId == binding.entitlementId)
        (fun row => { row with isCurrent := false }) s.deviceBindings) :=
    rebinds_update (fun row sel => by simpa using sel) (fun row _ => ⟨rfl, rfl, rfl⟩)
  have ids : (update (fun row => row.entitlementId == binding.entitlementId)
      (fun row => { row with isCurrent := false }) s.deviceBindings).map DeviceBindingRow.bindingId =
        s.deviceBindings.map DeviceBindingRow.bindingId := map_update (fun _ _ _ => rfl)
  split at h
  · cases h
    refine ⟨rfl, cleared.trans (rebinds_update ?_ ?_), ?_⟩
    · intro row sel
      simp only [sameDevices, Bool.and_eq_true, beq_iff_eq] at sel
      exact sel.1.1.1
    · intro row sel
      simp only [sameDevices, Bool.and_eq_true, beq_iff_eq] at sel
      exact ⟨rfl, sel.1.1.1.symm, sel.1.1.2.symm⟩
    · intro dist
      rw [map_update (fun _ _ _ => by rfl), ids]
      exact dist
  · obtain ⟨fresh, last⟩ := require_ok.mp h
    cases last
    refine ⟨rfl, cleared.trans ⟨?_, ?_⟩, ?_⟩
    · intro row other
      rw [List.mem_append, List.mem_singleton]
      refine or_iff_left ?_
      rintro rfl
      exact other rfl
    · intro row mem
      exact ⟨row, List.mem_append_left _ mem, rfl, rfl, rfl⟩
    · intro dist
      rw [List.map_append, List.map_singleton, List.nodup_append, ids]
      refine ⟨dist, List.nodup_singleton _, ?_⟩
      intro id hrow other isLast
      rw [List.mem_singleton] at isLast
      subst isLast
      rw [← ids] at hrow
      obtain ⟨row, mem, rfl⟩ := List.mem_map.mp hrow
      have apart := List.all_eq_true.mp fresh row mem
      simpa using apart

theorem clearBinding_rebinds {entitlementId bindingId : Bytes}
    (h : (AdminService.clearBinding entitlementId bindingId).run s = .ok ((), t)) :
    t.entitlements = s.entitlements ∧
      Rebinds entitlementId s.deviceBindings t.deviceBindings ∧
      t.deviceBindings = update
        (fun row => row.entitlementId == entitlementId && row.bindingId == bindingId)
        (fun row => { row with isCurrent := false }) s.deviceBindings := by
  cases h
  refine ⟨rfl, rebinds_update ?_ (fun row _ => ⟨rfl, rfl, rfl⟩), rfl⟩
  intro row sel
  simp only [Bool.and_eq_true, beq_iff_eq] at sel
  exact sel.1

end

section

variable {s t : Database} {prims : ServicePrimitives} {chal : ActivationChallengeRow}
  {ids : ActivationIds} {now : Nat}

/-- The tables before the pair of an entitlement is secured: it has new devices. -/
structure Prepares (owner : Bytes) (s t : Database) : Prop where
  entitlements : Reassigns owner s.entitlements t.entitlements
  distinct : Distinct t.entitlements
  bindings : Rebinds owner s.deviceBindings t.deviceBindings
  bindingIds : (s.deviceBindings.map DeviceBindingRow.bindingId).Nodup →
    (t.deviceBindings.map DeviceBindingRow.bindingId).Nodup

theorem updateEntitlements_prepares {owner : Bytes} {cond : EntitlementRow → Bool}
    {binding : DeviceBindingRow} {u : Database} (isOwner : binding.entitlementId = owner)
    (selects : ∀ row, cond row = true → row.entitlementId = owner)
    (keeps : ∀ row, (chg row).entitlementId = row.entitlementId ∧
      row.revocationVersion ≤ (chg row).revocationVersion)
    (writing : (LicenseRepository.writeEntitlements (update cond chg s.entitlements)).run s =
      .ok ((), u)) (rebinding : (bindDevice binding).run u = .ok ((), t)) :
    Prepares owner s t ∧ t.entitlements = update cond chg s.entitlements := by
  have dist := distinct_of_write writing
  obtain ⟨_, _, rfl⟩ := writeEntitlements_eq_ok writing
  obtain ⟨same, binds, fresh⟩ := bindDevice_rebinds rebinding
  rw [isOwner] at binds
  refine ⟨⟨?_, ?_, binds, fresh⟩, same⟩
  · rw [same]
    exact reassigns_update selects keeps
  · rw [same]
    exact dist

theorem createEntitlement_prepares {card : LicenseCodeRow} {entitlementId : Bytes}
    (h : (CardService.createEntitlement prims chal card ids).run s = .ok (entitlementId, t)) :
    Prepares entitlementId s t ∧ ∀ row ∈ s.entitlements, row.entitlementId ≠ entitlementId := by
  obtain ⟨rfl, u, creating, rebinding⟩ := createEntitlement_eq_ok h
  have dist := distinct_of_write creating
  obtain ⟨_, keys, rfl⟩ := writeEntitlements_eq_ok creating
  obtain ⟨same, binds, fresh⟩ := bindDevice_rebinds rebinding
  have new : ∀ row ∈ s.entitlements, row.entitlementId ≠ ids.entitlementId := by
    rw [List.map_append, List.nodup_append] at keys
    intro row mem
    exact keys.2.2 _ (List.mem_map_of_mem mem) _ List.mem_cons_self
  refine ⟨⟨⟨?_, ?_⟩, ?_, binds, fresh⟩, new⟩
  · intro row other
    rw [same, List.mem_append, List.mem_singleton]
    refine or_iff_left ?_
    rintro rfl
    exact other rfl
  · intro row mem
    rw [same]
    exact ⟨row, List.mem_append_left _ mem, rfl, le_rfl⟩
  · rw [same]
    exact dist

theorem creditEntitlement_prepares {card : LicenseCodeRow} {entitlementId : Bytes}
    (h : (CardService.creditEntitlement prims chal card ids).run s = .ok (entitlementId, t)) :
    Prepares entitlementId s t ∧ (chal.activationMode ≠ .reactivate →
      ∀ row ∈ s.entitlements, row.entitlementId ≠ entitlementId) := by
  obtain ⟨again, rfl, -, reactivating⟩ | ⟨-, creating⟩ := creditEntitlement_cases h
  · obtain ⟨-, u, writing, rebinding⟩ := reactivateExhaustedEntitlement_eq_ok reactivating
    refine ⟨(updateEntitlements_prepares rfl ?_ ?_ writing rebinding).1,
      fun first => absurd again first⟩
    · intro other sel
      simp only [canReactivate, Bool.and_eq_true, beq_iff_eq] at sel
      exact sel.1.1.1.1.1
    · intro other
      exact ⟨rfl, Nat.le_succ _⟩
  · obtain ⟨prepares, new⟩ := createEntitlement_prepares creating
    exact ⟨prepares, fun _ => new⟩

variable {credited : LicenseCodeRow × Bytes}

theorem creditCard_eq_ok (h : (creditCard prims chal ids now).run s = .ok (credited, t)) :
    s.licenseCodes.find? (fun row => row.id == chal.licenseCodeId) = some credited.1 ∧
      cardIsAvailable now credited.1 = true ∧
      (CardService.creditEntitlement prims chal credited.1 ids).run s = .ok (credited.2, t) := by
  replace h := read_ok h rfl
  obtain ⟨card, filtered, h⟩ := unwrap_ok.mp h
  obtain ⟨isCard, available⟩ := Option.filter_eq_some_iff.mp filtered
  obtain ⟨entitlementId, u, crediting, last⟩ := bind_ok.mp h
  cases last
  exact ⟨isCard, available, recast_eq_ok.mp crediting⟩

theorem creditCard_prepares
    (h : (creditCard prims chal ids now).run s = .ok (credited, t)) :
    Prepares credited.2 s t ∧ (chal.activationMode ≠ .reactivate →
      ∀ row ∈ s.entitlements, row.entitlementId ≠ credited.2) := by
  exact creditEntitlement_prepares (creditCard_eq_ok h).2.2

/-- The entitlement that a confirmation is for: a new one, or the target of its challenge. -/
def IsFor (database : Database) (chal : ActivationChallengeRow) (owner : Bytes) : Prop :=
  (∀ row ∈ database.entitlements, row.entitlementId ≠ owner) ∨
    (chal.activationMode ≠ .activate ∧ owner = chal.targetEntitlementId)

theorem creditCard_isFor (h : (creditCard prims chal ids now).run s = .ok (credited, t)) :
    IsFor s chal credited.2 := by
  obtain ⟨again, target, -⟩ | ⟨first, -⟩ := creditEntitlement_cases (creditCard_eq_ok h).2.2
  · right
    refine ⟨?_, target⟩
    rw [again]
    exact ActivationMode.noConfusion
  · exact .inl ((creditCard_prepares h).2 first)

variable {act : LicenseActivationRow}

/-- The target of a challenge is found and unlocked; its row is written and its devices are
    bound. -/
theorem rebindDevices_cases
    (h : (rebindDevices prims chal ids).run s = .ok (act, t)) :
    (∃ row, row.entitlementId = chal.targetEntitlementId ∧
        (CardService.requireSameOrUnboundAndroidDevice prims row chal).run s = .ok ((), s)) ∧
      s.licenseActivations.find? (fun row => row.licenseCodeId == chal.licenseCodeId) =
        some act ∧
      ∃ u, (writeEntitlements (update
          (fun row => row.entitlementId == chal.targetEntitlementId)
          (rebound (bindingFromChallenge chal chal.targetEntitlementId ids.bindingId))
          s.entitlements)).run s = .ok ((), u) ∧
        (bindDevice (bindingFromChallenge chal chal.targetEntitlementId
          ids.bindingId)).run u = .ok ((), t) := by
  replace h := read_ok h rfl
  replace h := read_ok h rfl
  obtain ⟨row, filtered, h⟩ := unwrap_ok.mp h
  obtain ⟨isFound, -⟩ := Option.filter_eq_some_iff.mp filtered
  obtain ⟨⟨recorded, ent⟩, filtered, h⟩ := unwrap_ok.mp h
  obtain ⟨isGiven, -⟩ := Option.filter_eq_some_iff.mp filtered
  obtain ⟨isRecorded, found, joined⟩ := Option.bind_eq_some_iff.mp isGiven
  obtain ⟨held, -, both⟩ := Option.map_eq_some_iff.mp joined
  obtain ⟨⟨⟩, _, requiring, h⟩ := bind_ok.mp h
  obtain rfl := (requireSameOrUnboundAndroidDevice_eq_ok requiring).symm
  obtain ⟨⟨⟩, u, rebinding, last⟩ := bind_ok.mp h
  cases last
  cases both
  replace rebinding := recast_eq_ok.mp rebinding
  unfold rebindEntitlement at rebinding
  rw [get_ok, bind_ok] at rebinding
  obtain ⟨⟨⟩, v, writing, binding⟩ := rebinding
  exact ⟨⟨row, (lookup_key isFound).2, requiring⟩, found, v, writing, binding⟩

/-- The version of an entitlement that is bound to other devices rises by one. -/
theorem rebindDevices_prepares
    (h : (rebindDevices prims chal ids).run s = .ok (act, t)) :
    Prepares chal.targetEntitlementId s t ∧
      ∀ new ∈ t.entitlements, new.entitlementId = chal.targetEntitlementId →
        ∃ row ∈ s.entitlements, row.entitlementId = chal.targetEntitlementId ∧
          row.revocationVersion < new.revocationVersion := by
  obtain ⟨-, -, u, writing, binding⟩ := rebindDevices_cases h
  have prepared : Prepares chal.targetEntitlementId s t ∧ t.entitlements = update
      (fun row => row.entitlementId == chal.targetEntitlementId)
      (rebound (bindingFromChallenge chal chal.targetEntitlementId ids.bindingId))
      s.entitlements := by
    refine updateEntitlements_prepares rfl ?_ ?_ writing binding
    · intro row sel
      simpa using sel
    · intro row
      exact ⟨rfl, Nat.le_succ _⟩
  obtain ⟨prepares, same⟩ := prepared
  refine ⟨prepares, ?_⟩
  intro new hrow owner
  rw [same] at hrow
  cases mem_update hrow with
  | inl kept => simp [owner] at kept
  | inr replaced =>
    obtain ⟨old, inOld, -, rfl⟩ := replaced
    exact ⟨old, inOld, owner, Nat.lt_succ_self _⟩

end

section

variable {s t : Database} {chal : ActivationChallengeRow} {ids : ActivationIds} {now : Nat}
  {entitlementId : Bytes}

/-- Entitlements and bindings are the same. -/
structure SameHolders (s t : Database) : Prop where
  entitlements : t.entitlements = s.entitlements
  deviceBindings : t.deviceBindings = s.deviceBindings

theorem sameHolders_of_calm (h : Calm s t) : SameHolders s t := ⟨h.entitlements, h.deviceBindings⟩

theorem recordCredit_same {card : LicenseCodeRow} {resp : ActivationResponse}
    (h : (recordCredit chal ids now card entitlementId).run s = .ok (resp, t)) :
    SameHolders s t := by
  obtain ⟨consumedCode, s1, spending, h⟩ := bind_ok.mp h
  rw [require_ok, bind_ok] at h
  obtain ⟨-, consumedChallenge, s2, consuming, h⟩ := h
  have quiet := (consumeCode_quiet spending).trans (consumeChallenge_quiet consuming)
  rw [require_ok, bind_ok] at h
  obtain ⟨-, ⟨⟩, s3, creating, h⟩ := h
  unfold createActivation at creating
  rw [get_ok, require_ok] at creating
  cases creating.2
  replace h := read_ok h rfl
  obtain ⟨pair, -, last⟩ := unwrap_ok.mp h
  cases last
  exact ⟨quiet.entitlements, quiet.deviceBindings⟩

theorem recordBinding_same {resp : ActivationResponse}
    (h : (recordBinding chal now act).run s = .ok (resp, t)) : SameHolders s t := by
  obtain ⟨consumed, s1, consuming, h⟩ := bind_ok.mp h
  rw [require_ok, bind_ok] at h
  obtain ⟨-, ⟨⟩, s2, expiring, h⟩ := h
  have quiet := (consumeChallenge_quiet consuming).trans (expireStartChallengesWhere_quiet expiring)
  obtain ⟨⟨⟩, s3, ending, h⟩ := bind_ok.mp h
  obtain ⟨settled, -⟩ := endSessionsOf_calm (by decide) ending
  replace h := read_ok h rfl
  obtain ⟨row, -, last⟩ := unwrap_ok.mp h
  cases last
  exact sameHolders_of_calm (quiet.calm.trans settled)

theorem recordRevocation_calm {row : EntitlementRow} {resp : AdminService.RevokeResponse}
    (h : (recordRevocation entitlementId row).run s = .ok (resp, t)) : Calm s t := by
  obtain ⟨⟨⟩, s1, expiring, h⟩ := bind_ok.mp h
  obtain ⟨updated, _, reading, last⟩ := bind_ok.mp h
  obtain ⟨rfl, -, -⟩ := requireEntitlement_eq_ok reading
  cases last
  exact expireChallengesOf_calm expiring

theorem updateEntitlement_eq_ok
    (h : (AdminService.updateEntitlement entitlementId chg).run s = .ok ((), t)) :
    Distinct t.entitlements ∧ t.deviceBindings = s.deviceBindings ∧ t.entitlements = update
      (fun row => row.entitlementId == entitlementId) chg s.entitlements := by
  unfold AdminService.updateEntitlement at h
  have dist := distinct_of_write h
  obtain ⟨_, _, rfl⟩ := writeEntitlements_eq_ok h
  exact ⟨dist, rfl, rfl⟩

theorem revokeTables_eq_ok (h : (revokeTables entitlementId now).run s = .ok ((), t)) :
    Distinct t.entitlements ∧ t.deviceBindings = s.deviceBindings ∧ t.entitlements = update
      (fun row => row.entitlementId == entitlementId) AdminService.revoked s.entitlements := by
  obtain ⟨⟨⟩, u, updating, ending⟩ := bind_ok.mp h
  obtain ⟨distinct, bindings, entitlements⟩ := updateEntitlement_eq_ok updating
  obtain ⟨settled, -⟩ := endSessionsOf_calm (by decide) ending
  rw [settled.entitlements, settled.deviceBindings]
  exact ⟨distinct, bindings, entitlements⟩

theorem recordUnbinding_eq_ok {pairId : Bytes} {resp : AdminService.RevokeResponse}
    (h : (recordUnbinding entitlementId pairId now).run s = .ok (resp, t)) :
    Distinct t.entitlements ∧ t.deviceBindings = s.deviceBindings ∧ t.entitlements = update
      (fun row => row.entitlementId == entitlementId) (AdminService.unbound pairId)
      s.entitlements := by
  obtain ⟨⟨⟩, s1, updating, h⟩ := bind_ok.mp h
  obtain ⟨distinct, bindings, entitlements⟩ := updateEntitlement_eq_ok updating
  obtain ⟨⟨⟩, s2, ending, h⟩ := bind_ok.mp h
  obtain ⟨settled, -⟩ := endSessionsOf_calm (by decide) ending
  obtain ⟨⟨⟩, s3, expiring, h⟩ := bind_ok.mp h
  have calm := settled.trans (expireChallengesOf_calm expiring)
  obtain ⟨updated, _, reading, last⟩ := bind_ok.mp h
  obtain ⟨rfl, -, -⟩ := requireEntitlement_eq_ok reading
  cases last
  rw [calm.entitlements, calm.deviceBindings]
  exact ⟨distinct, bindings, entitlements⟩

theorem clearDevices_eq_ok {bindingId : Bytes}
    (h : (clearDevices entitlementId bindingId).run s = .ok ((), t)) :
    t.entitlements = s.entitlements ∧ Rebinds entitlementId s.deviceBindings t.deviceBindings ∧
      t.deviceBindings = update
        (fun row => row.entitlementId == entitlementId && row.bindingId == bindingId)
        (fun row => { row with isCurrent := false }) s.deviceBindings ∧
      ∃ binding ∈ s.deviceBindings, binding.entitlementId = entitlementId ∧
        binding.bindingId = bindingId ∧ binding.isCurrent = true := by
  obtain ⟨row, _, requiring, h⟩ := bind_ok.mp h
  obtain ⟨same, -, -⟩ := requireEntitlement_eq_ok requiring
  obtain rfl := same.symm
  rw [get_ok, unwrap_ok] at h
  obtain ⟨binding, isFound, h⟩ := h
  rw [require_ok] at h
  have keys := List.find?_some isFound
  simp only [decide_eq_true_eq] at keys
  obtain ⟨entitlements, binds, table⟩ := clearBinding_rebinds h.2
  exact ⟨entitlements, binds, table, binding, List.mem_of_find?_eq_some isFound, keys.1, keys.2, h.1⟩

end

end VisionForge.PairSecurity
