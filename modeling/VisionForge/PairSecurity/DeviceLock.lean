import VisionForge.PairSecurity.Completeness

/-! # The device lock

Only an administrator takes an entitlement away from its devices. Until then a confirmed
challenge binds devices to it only if the host is the one bound before, and another phone
key only if both phones show the same fingerprint.
-/

namespace VisionForge.PairSecurity

open Agreement Lib.Ascii Lib.Run Lib.Table Lib.Transaction Server LicenseRepository UsageRepository

/-- Devices take the place of others: the host stays, and the phone stays or shows the fingerprint
    that is stored. -/
structure Succeeds (prims : ServicePrimitives) (challenge : ActivationChallengeRow)
    (old new : DeviceBindingRow) : Prop where
  hostKey : new.hostKeySha256 = old.hostKeySha256
  androidKey : new.androidKeySha256 = challenge.androidKeySha256
  fingerprint : new.androidKeySha256 = old.androidKeySha256 ∨
    prims.deviceProfileFingerprint old.androidDeviceProfileJson ≠ [] ∧
      prims.deviceProfileFingerprint challenge.androidDeviceProfileJson ≠ [] ∧
      prims.deviceProfileFingerprint old.androidDeviceProfileJson =
        prims.deviceProfileFingerprint challenge.androidDeviceProfileJson

/-- A challenge binds devices to one entitlement at most, which passes from the current ones. -/
structure Locks (prims : ServicePrimitives) (challenge : ActivationChallengeRow) (owner : Bytes)
    (s t : Database) : Prop where
  others : ∀ id, id ≠ owner → currentBinding t id = currentBinding s id
  owner : ∀ old, currentBinding s owner = some old →
    ∃ new, currentBinding t owner = some new ∧ Succeeds prims challenge old new

/-- Devices are bound to entitlements that exist. -/
def Owned (database : Database) : Prop := ∀ binding ∈ database.deviceBindings,
  ∃ row ∈ database.entitlements, row.entitlementId = binding.entitlementId

section

variable {s t : Database} {prims : ServicePrimitives} {chal : ActivationChallengeRow}
  {ids : ActivationIds} {now : Nat}

variable {entId : Bytes}

theorem currentBinding_owner {binding : DeviceBindingRow}
    (h : currentBinding s entId = some binding) :
    binding ∈ s.deviceBindings ∧ binding.entitlementId = entId := by
  have holds := List.find?_some h
  simp only [decide_eq_true_eq] at holds
  exact ⟨List.mem_of_find?_eq_some h, holds.1⟩

theorem requireSameOrUnboundAndroidDevice_locks {row : EntitlementRow} {cur : DeviceBindingRow}
    (bound : currentBinding s row.entitlementId = some cur)
    (h : (CardService.requireSameOrUnboundAndroidDevice prims row chal).run s = .ok ((), t)) :
    cur.hostKeySha256 = chal.hostKeySha256 ∧
      (cur.androidKeySha256 = chal.androidKeySha256 ∨
        prims.deviceProfileFingerprint cur.androidDeviceProfileJson ≠ [] ∧
          prims.deviceProfileFingerprint chal.androidDeviceProfileJson ≠ [] ∧
          prims.deviceProfileFingerprint cur.androidDeviceProfileJson =
            prims.deviceProfileFingerprint chal.androidDeviceProfileJson) := by
  unfold CardService.requireSameOrUnboundAndroidDevice at h
  rw [get_ok, bound] at h
  rw [require_ok, require_ok, ← bind_pure (require _ _), require_ok] at h
  exact ⟨h.1, h.2.2.1⟩

/-- The devices that are bound are the only current ones afterwards. -/
theorem bindDevice_only {binding : DeviceBindingRow} (cur : binding.isCurrent = true)
    (h : (bindDevice binding).run s = .ok ((), t)) :
    (∃ row ∈ t.deviceBindings, row.entitlementId = binding.entitlementId ∧ row.isCurrent = true) ∧
      ∀ row ∈ t.deviceBindings, row.entitlementId = binding.entitlementId → row.isCurrent = true →
        sameDevices binding row = true := by
  unfold bindDevice at h
  rw [get_ok] at h
  dsimp only at h
  generalize isCleared : update (fun row => row.entitlementId == binding.entitlementId)
    (fun row => { row with isCurrent := false }) s.deviceBindings = cleared at h
  have isOver : ∀ row ∈ cleared, row.entitlementId = binding.entitlementId →
      row.isCurrent ≠ true := by
    intro row mem owner
    subst isCleared
    cases mem_update mem with
    | inl kept => simp [owner] at kept
    | inr replaced =>
      obtain ⟨old, -, -, rfl⟩ := replaced
      exact Bool.false_ne_true
  split at h
  · rename_i again
    cases h
    constructor
    · obtain ⟨row, mem, same⟩ := List.any_eq_true.mp again
      refine ⟨_, mem_update_of_mem mem, ?_⟩
      rw [if_pos same]
      exact ⟨rfl, cur⟩
    · intro row mem owner isCurrent
      cases mem_update mem with
      | inl kept => exact absurd isCurrent (isOver row kept.1 owner)
      | inr replaced =>
        obtain ⟨old, -, -, rfl⟩ := replaced
        simp [sameDevices]
  · rw [require_ok] at h
    cases h.2
    constructor
    · exact ⟨binding, by simp, rfl, cur⟩
    · intro row mem owner isCurrent
      cases List.mem_append.mp mem with
      | inl kept => exact absurd isCurrent (isOver row kept owner)
      | inr last =>
        rw [List.mem_singleton.mp last]
        simp [sameDevices]

theorem bindDevice_current {binding : DeviceBindingRow} (cur : binding.isCurrent = true)
    (h : (bindDevice binding).run s = .ok ((), t)) :
    ∃ new, currentBinding t binding.entitlementId = some new ∧
      new.hostKeySha256 = binding.hostKeySha256 ∧ new.androidKeySha256 = binding.androidKeySha256 := by
  obtain ⟨⟨row, mem, owner, isCurrent⟩, only⟩ := bindDevice_only cur h
  have found : (currentBinding t binding.entitlementId).isSome := by
    unfold currentBinding
    rw [List.find?_isSome]
    exact ⟨row, mem, by simp [owner, isCurrent]⟩
  obtain ⟨new, isNew⟩ := Option.isSome_iff_exists.mp found
  have holds := List.find?_some isNew
  simp only [decide_eq_true_eq] at holds
  have same := only new (List.mem_of_find?_eq_some isNew) holds.1 holds.2
  simp only [sameDevices, Bool.and_eq_true, beq_iff_eq] at same
  exact ⟨new, isNew, same.1.2, same.2⟩

theorem bindDevice_locks {u : Database} {row : EntitlementRow} {owner bindingId : Bytes}
    (isOwner : row.entitlementId = owner)
    (checked : (CardService.requireSameOrUnboundAndroidDevice prims row chal).run s =
      .ok ((), s)) (same : u.deviceBindings = s.deviceBindings)
    (h : (bindDevice (bindingFromChallenge chal owner bindingId)).run u = .ok ((), t)) :
    Locks prims chal owner s t := by
  subst isOwner
  obtain ⟨-, others⟩ := bindDevice_table h
  obtain ⟨new, isNew, hostKey, androidKey⟩ := bindDevice_current rfl h
  constructor
  · intro id other
    rw [others id other]
    exact currentBinding_congr same id
  · intro old bound
    obtain ⟨host, phone⟩ := requireSameOrUnboundAndroidDevice_locks bound checked
    refine ⟨new, isNew, hostKey.trans host.symm, androidKey, ?_⟩
    exact phone.imp (fun isSame => androidKey.trans isSame.symm) id

theorem Locks.congr {owner : Bytes} {u : Database} (h : Locks prims chal owner s t)
    (same : u.deviceBindings = t.deviceBindings) : Locks prims chal owner s u := by
  constructor
  · intro id other
    rw [currentBinding_congr same id]
    exact h.others id other
  · intro old bound
    rw [currentBinding_congr same owner]
    exact h.owner old bound

theorem creditEntitlement_locks {card : LicenseCodeRow} (owned : Owned s)
    (h : (CardService.creditEntitlement prims chal card ids).run s =
      .ok (entId, t)) : Locks prims chal entId s t := by
  have funds := creditEntitlement_funds h
  obtain ⟨-, new⟩ := creditEntitlement_prepares h
  obtain ⟨-, rfl, ⟨row, -, isTarget, requiring⟩, reactivating⟩ | ⟨again, -⟩ :=
    creditEntitlement_cases h
  · obtain ⟨-, u, writing, rebinding⟩ := reactivateExhaustedEntitlement_eq_ok reactivating
    obtain ⟨_, _, isWritten⟩ := writeEntitlements_eq_ok writing
    have same : u.deviceBindings = s.deviceBindings := by rw [isWritten]
    exact bindDevice_locks isTarget requiring same rebinding
  · refine ⟨funds.bindings, ?_⟩
    intro old bound
    obtain ⟨member, owner⟩ := currentBinding_owner bound
    obtain ⟨row, hrow, isOwner⟩ := owned old member
    exact absurd (isOwner.trans owner) (new again row hrow)

theorem rebindDevices_locks {act : LicenseActivationRow}
    (h : (rebindDevices prims chal ids).run s = .ok (act, t)) :
    Locks prims chal chal.targetEntitlementId s t := by
  obtain ⟨⟨row, isTarget, requiring⟩, -, u, writing, binding⟩ := rebindDevices_cases h
  obtain ⟨_, _, isWritten⟩ := writeEntitlements_eq_ok writing
  have same : u.deviceBindings = s.deviceBindings := by rw [isWritten]
  exact bindDevice_locks isTarget requiring same binding

theorem confirmCredit_locks {resp : ActivationResponse} (owned : Owned s)
    (h : (CardService.confirmCredit prims chal ids none now).run s = .ok (resp, t)) :
    ∃ owner, Locks prims chal owner s t := by
  rw [confirmCredit_parts, bind_ok] at h
  obtain ⟨⟨card, entId⟩, u, crediting, recording⟩ := h
  have locks := creditEntitlement_locks owned (creditCard_eq_ok crediting).2.2
  exact ⟨entId, locks.congr (recordCredit_same recording).deviceBindings⟩

theorem confirmDeviceBinding_locks {resp : ActivationResponse}
    (h : (CardService.confirmDeviceBinding prims chal ids none now).run s =
      .ok (resp, t)) : ∃ owner, Locks prims chal owner s t := by
  rw [confirmDeviceBinding_parts, bind_ok] at h
  obtain ⟨act, u, rebinding, recording⟩ := h
  exact ⟨_, (rebindDevices_locks rebinding).congr (recordBinding_same recording).deviceBindings⟩

/-- A confirmation repeats an answer or passes the lock. -/
theorem confirmActivation_locks {settings : DualMachineSettings} {seen : Database}
    {cmd : ConfirmCommand} {resp : ActivationResponse} (owned : Owned s)
    (h : (CardService.confirmActivation settings prims seen cmd ids none now).run s =
      .ok (resp, t)) :
    t = s ∨ ∃ chal owner, challengeIn s cmd.challengeId = some chal ∧
      Locks prims chal owner s t := by
  obtain ⟨chal, found, ⟨-, h⟩ | ⟨-, -, ⟨-, h⟩ | ⟨-, h⟩⟩⟩ := confirmActivation_cases h
  · exact .inl (confirmationReplay_eq_ok h)
  · obtain ⟨owner, locks⟩ := confirmDeviceBinding_locks h
    exact .inr ⟨chal, owner, found, locks⟩
  · obtain ⟨owner, locks⟩ := confirmCredit_locks owned h
    exact .inr ⟨chal, owner, found, locks⟩

end

/-- Requests by which an administrator takes an entitlement away from its devices. -/
def unbindsDevices : ServerOp → Bool
  | .unbindEntitlementDevice .. => true
  | _ => false

/-- What a request that unbinds no devices does to those that are bound. -/
inductive LockedMove (prims : ServicePrimitives) (s t : SecuredDatabase) : ServerOp → Prop where
  | keeps {op : ServerOp} : t.tables.deviceBindings = s.tables.deviceBindings →
      LockedMove prims s t op
  | confirms {seen : Database} {command : ConfirmCommand} {ids : ActivationIds}
      {outcome : Option ServerException} {now : Nat} {challenge : ActivationChallengeRow}
      {owner : Bytes} : challengeIn s.tables command.challengeId = some challenge →
      Locks prims challenge owner s.tables t.tables →
      LockedMove prims s t (.confirmActivation seen command ids outcome now)

section

variable {service : UsageService} {prims : ServicePrimitives} {s t : SecuredDatabase}

theorem revokeEntitlement_bindings {tables tables' : Database} {now : Nat}
    {resp : AdminService.RevokeResponse}
    (h : (AdminService.revokeEntitlement entId none now).run tables =
      .ok (resp, tables')) : tables'.deviceBindings = tables.deviceBindings := by
  rw [revokeEntitlement_parts, bind_ok] at h
  obtain ⟨row, _, requiring, h⟩ := h
  obtain ⟨same, -⟩ := requireEntitlement_eq_ok requiring
  subst same
  obtain ⟨⟨⟩, u, revoking, recording⟩ := bind_ok.mp h
  rw [(recordRevocation_calm recording).deviceBindings]
  split at revoking
  · exact (revokeTables_eq_ok revoking).2.1
  · cases revoking
    rfl

theorem securedStep_locks (ord : Orderly s.tables) (inv : Secured s) (owned : Owned s.tables)
    {op : ServerOp} (noUnbind : unbindsDevices op = false) :
    LockedMove prims s (securedStep service prims s op).1 op := by
  by_cases plain : changesPairs op = false
  · rw [securedStep_plain plain]
    exact .keeps (serverStep_keeps ord plain).deviceBindings
  · cases op with
    | confirmActivation seen cmd ids outcome now =>
      refine atomically_map_invariant (P := fun t => LockedMove prims s t _) (.keeps rfl) ?_
      intro resp t ran
      obtain ⟨plain, -⟩ := confirmActivation_secures inv ran
      cases confirmActivation_locks owned plain with
      | inl same => exact .keeps (congrArg Database.deviceBindings same)
      | inr locked =>
        obtain ⟨chal, owner, found, locks⟩ := locked
        exact .confirms found locks
    | revokeEntitlement entId outcome now =>
      refine atomically_map_invariant (P := fun t => LockedMove prims s t _) (.keeps rfl) ?_
      intro resp t ran
      obtain ⟨plain, -⟩ := revokeEntitlement_revokes inv ran
      exact .keeps (revokeEntitlement_bindings plain)
    | unbindEntitlementDevice => cases noUnbind
    | _ => exact absurd rfl plain

theorem Owned.changes {owner : Bytes} (owned : Owned s.tables) (h : Changes owner s t)
    (isHeld : ∃ row ∈ t.tables.entitlements, row.entitlementId = owner) : Owned t.tables := by
  intro binding mem
  by_cases isOwner : binding.entitlementId = owner
  · rw [isOwner]
    exact isHeld
  · obtain ⟨row, hrow, same⟩ := owned binding ((h.bindings.others binding isOwner).mp mem)
    refine ⟨row, (h.entitlements.others row ?_).mpr hrow, same⟩
    rw [same]
    exact isOwner

theorem Secures.owned {owner : Bytes} {now : Nat} (h : Secures owner now s t) (inv : Secured t)
    (owned : Owned s.tables) : Owned t.tables := by
  obtain ⟨pair, mem, -, isOwner, -⟩ := h.row
  obtain ⟨row, hrow, holder, -⟩ := (inv.sound pair mem).held
  exact owned.changes h.changes ⟨row, hrow, holder.trans isOwner⟩

theorem LockedMove.hostKey {op : ServerOp} {old : DeviceBindingRow}
    (h : LockedMove prims s t op) (bound : currentBinding s.tables entId = some old) :
    ∃ new, currentBinding t.tables entId = some new ∧
      new.hostKeySha256 = old.hostKeySha256 := by
  cases h with
  | keeps same => exact ⟨old, (currentBinding_congr same entId).trans bound, rfl⟩
  | @confirms _ _ _ _ _ _ owner _ locks =>
    by_cases isOwner : entId = owner
    · subst isOwner
      obtain ⟨new, isNew, succeeds⟩ := locks.owner old bound
      exact ⟨new, isNew, succeeds.hostKey⟩
    · exact ⟨old, (locks.others entId isOwner).trans bound, rfl⟩

end

end VisionForge.PairSecurity
