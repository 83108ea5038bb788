import VisionForge.PairSecurity.Restart

/-! # Pairs and devices over the life of the service

Starts of the service are operations among the requests, so what is said here of every run
holds across any number of them.
-/

namespace VisionForge.PairSecurity

open Agreement Lib.Ascii Lib.Run Lib.Table Lib.Transaction Server LicenseRepository UsageRepository

section

variable {service : UsageService} {prims : ServicePrimitives}

/-- An active pair is the pair of its entitlement and not ahead of it, and its devices are the only
    current ones. -/
theorem active_pairs_are_current (service : UsageService) (prims : ServicePrimitives)
    (ops : List ServiceOp) :
    let s := (installed service prims ops).database
    (∀ entId, OneCurrent s.tables.deviceBindings entId) ∧
    ∀ pair ∈ s.pairs, pair.assuranceState = .active →
      (∃ row ∈ s.tables.entitlements, row.entitlementId = pair.entitlementId ∧
        row.pairId = pair.pairId ∧ pair.revocationVersion ≤ row.revocationVersion) ∧
      ∃ binding ∈ s.tables.deviceBindings, binding.bindingId = pair.bindingId ∧
        binding.isCurrent = true := by
  have inv := (@installed_sane service prims ops).secured
  refine ⟨inv.oneCurrent, fun pair mem on => ?_⟩
  obtain ⟨⟨row, inTable, owner, same⟩, binding⟩ := (inv.sound pair mem).live on
  obtain ⟨held, isHeld, holder, le⟩ := (inv.sound pair mem).held
  have isRow := entitlement_unique inTable isHeld (holder.trans owner.symm)
  exact ⟨⟨row, inTable, owner, same, isRow ▸ le⟩, binding⟩

theorem installed_chained (ops : List ServiceOp) :
    Chained (lineages (installed service prims ops).database) := by
  induction ops using List.reverseRecOn with
  | nil =>
    intro later mem
    cases mem
  | append_singleton ops op ih =>
    rw [installed_concat]
    cases op with
    | request op => exact securedStep_chained ih op
    | restart bindingIds =>
      refine restart_keeps (P := fun t => Chained (lineages t)) (installed_sane ops) ih ?_
      intro t initializes
      have line : lineages t = lineages (installed service prims ops).database := by
        rw [lineages, initializes.pairs, lineages]
      rw [line]
      exact ih

/-- Of the pairs of an entitlement at most one is neither rotated out nor revoked, and it is the
    latest; revisions tell pairs apart, and every pair comes after its predecessor. -/
theorem pairs_of_entitlement_form_line (service : UsageService) (prims : ServicePrimitives)
    (ops : List ServiceOp) :
    let pairs := (installed service prims ops).database.pairs
    let retired := fun (pair : PairSecurityRow) =>
      pair.assuranceState = .rotated ∨ pair.assuranceState = .revoked
    (∀ pair ∈ pairs, ∀ other ∈ pairs, other.entitlementId = pair.entitlementId →
        ¬retired pair → ¬retired other → other = pair) ∧
      (∀ pair ∈ pairs, ∀ other ∈ pairs, other.entitlementId = pair.entitlementId →
        ¬retired pair → other.bindingRevision ≤ pair.bindingRevision) ∧
      (pairs.map (fun pair => (pair.entitlementId, pair.bindingRevision))).Nodup ∧
      ∀ pair ∈ pairs, ∀ pairId, pair.predecessorPairId = some pairId →
        ∃ other ∈ pairs, other.pairId = pairId ∧ other.entitlementId = pair.entitlementId ∧
          other.bindingRevision < pair.bindingRevision := by
  intro pairs retired
  have inv := (@installed_sane service prims ops).secured
  have newest : ∀ pair ∈ pairs, ∀ other ∈ pairs, other.entitlementId = pair.entitlementId →
      ¬retired pair → other.bindingRevision ≤ pair.bindingRevision := by
    intro pair member other inRows owner current
    refine (inv.sound pair member).newest ?_ other inRows owner
    cases state : pair.assuranceState with
    | rotated => exact absurd (.inl state) current
    | revoked => exact absurd (.inr state) current
    | _ => rfl
  refine ⟨?_, newest, (installed service prims ops).database.bindingRevisions, ?_⟩
  · intro pair member other inRows owner current current'
    refine revision_unique member inRows owner ?_
    exact (newest pair member other inRows owner current).antisymm
      (newest other inRows pair member owner.symm current')
  · intro pair member pairId isPredecessor
    obtain ⟨entry, inLine, id, owner, old⟩ :=
      installed_chained ops (lineage pair) (List.mem_map_of_mem member) pairId isPredecessor
    obtain ⟨other, inRows, rfl⟩ := exists_of_mem_lineages inLine
    exact ⟨other, inRows, id, owner, old⟩

/-- As long as no administrator unbinds devices, an entitlement stays with the host that it was
    first bound to, and another phone takes the place of its phone only in the confirmation of a
    challenge whose phone shows the stored fingerprint. -/
theorem devices_stay_locked (service : UsageService) (prims : ServicePrimitives)
    (ops : List ServiceOp) (noUnbind : ∀ op ∈ ops, op.keepsDevices = true) (entId : Bytes) :
    (∀ earlier later, ops = earlier ++ later → ∀ first,
      currentBinding (installed service prims earlier).database.tables entId = some first →
      ∃ last, currentBinding (installed service prims ops).database.tables entId = some last ∧
        last.hostKeySha256 = first.hostKeySha256) ∧
    ∀ earlier op later, ops = earlier ++ op :: later → ∀ old new,
      currentBinding (installed service prims earlier).database.tables entId = some old →
      currentBinding (installed service prims (earlier ++ [op])).database.tables entId =
        some new →
      new.androidKeySha256 ≠ old.androidKeySha256 →
      ∃ seen cmd ids outcome now chal,
        op = .request (.confirmActivation seen cmd ids outcome now) ∧
        challengeIn (installed service prims earlier).database.tables cmd.challengeId =
          some chal ∧
        new.androidKeySha256 = chal.androidKeySha256 ∧
        prims.deviceProfileFingerprint old.androidDeviceProfileJson ≠ [] ∧
        prims.deviceProfileFingerprint chal.androidDeviceProfileJson ≠ [] ∧
        prims.deviceProfileFingerprint old.androidDeviceProfileJson =
          prims.deviceProfileFingerprint chal.androidDeviceProfileJson := by
  constructor
  · intro earlier later split first bound
    subst split
    exact installed_hostKey (fun op member => noUnbind op (List.mem_append_right _ member)) bound
  · intro earlier op later split old new bound bound' changed
    have inv := @installed_sane service prims earlier
    rw [installed_concat] at bound'
    cases op with
    | request op =>
      have keeps : unbindsDevices op = false := by
        simpa [split, ServiceOp.keepsDevices] using noUnbind (.request op)
      have locked := @securedStep_locks service prims _ inv.orderly inv.secured inv.owned op keeps
      cases locked with
      | keeps same =>
        rw [← currentBinding_congr same] at bound
        cases bound.symm.trans bound'
        exact absurd rfl changed
      | @confirms seen cmd ids outcome now chal owner found locks =>
        by_cases isOwner : entId = owner
        · subst isOwner
          obtain ⟨other, isNew, succeeds⟩ := locks.owner old bound
          cases isNew.symm.trans bound'
          exact ⟨seen, cmd, ids, outcome, now, chal, rfl, found, succeeds.androidKey,
            succeeds.fingerprint.resolve_left changed⟩
        · rw [← locks.others entId isOwner] at bound
          cases bound.symm.trans bound'
          exact absurd rfl changed
    | restart bindingIds =>
      have kept := @restart_keeps service prims bindingIds _ inv
        (fun t => currentBinding t.tables entId = some old) bound
        fun t initializes => initializes.currentBinding bound
      cases kept.symm.trans bound'
      exact absurd rfl changed

end

/-! ## A new phone key

The host of an activated card binds another key of its phone, which shows the same fingerprint.
The service starts again in between. -/

def fingerprintPrimitives : ServicePrimitives :=
  { concreteServicePrimitives with deviceProfileFingerprint := fun _ => ascii "phone" }

def newKeyConfirmation : ConfirmCommand :=
  { dayConfirmation with
    challengeId := List.replicate 32 53
    challengeToken := List.replicate 43 67 }

def newKeyRequest : ActivationChallengeRow :=
  { dayChallenge with
    challengeId := List.replicate 32 53
    requestId := List.replicate 32 54
    tokenDigest := CardService.challengeTokenDigest concreteService.settings
      concreteServicePrimitives newKeyConfirmation.challengeToken
    pairId := List.replicate 32 57
    androidIdentityPublicKeyB64 := ascii "bmV3"
    androidKeySha256 := List.replicate 64 102 }

def newKeyIds : ActivationIds := { activationIds with bindingId := List.replicate 32 105 }

def newKeyRequestOps : List ServiceOp :=
  cardOps.map .request ++ [.request (.confirmActivation
      (secured concreteService fingerprintPrimitives cardOps).tables dayConfirmation activationIds
        none 950),
    .restart fun _ => List.replicate 32 110,
    .request (.createActivationChallenge newKeyRequest 960)]

def newKeyOp : ServiceOp :=
  .request (.confirmActivation
    (installed concreteService fingerprintPrimitives newKeyRequestOps).database.tables
      newKeyConfirmation newKeyIds none 970)

/-- The current devices of the entitlement after a run. -/
def newKeyBinding (ops : List ServiceOp) : Option DeviceBindingRow :=
  currentBinding (installed concreteService fingerprintPrimitives ops).database.tables
    (List.replicate 32 97)

theorem devices_stay_locked_new_key :
    ∃ old new, newKeyBinding newKeyRequestOps = some old ∧
      newKeyBinding (newKeyRequestOps ++ [newKeyOp]) = some new ∧
      new.hostKeySha256 = old.hostKeySha256 ∧ new.androidKeySha256 ≠ old.androidKeySha256 ∧
      fingerprintPrimitives.deviceProfileFingerprint old.androidDeviceProfileJson ≠ [] := by
  have keys : (newKeyBinding newKeyRequestOps).map DeviceBindingRow.androidKeySha256 =
        some (List.replicate 64 101) ∧
      (newKeyBinding (newKeyRequestOps ++ [newKeyOp])).map DeviceBindingRow.androidKeySha256 =
        some (List.replicate 64 102) := by decide +kernel
  obtain ⟨old, isOld, oldKey⟩ := Option.map_eq_some_iff.mp keys.1
  obtain ⟨new, isNew, newKey⟩ := Option.map_eq_some_iff.mp keys.2
  have changed : new.androidKeySha256 ≠ old.androidKeySha256 := by
    rw [oldKey, newKey]
    decide
  obtain ⟨hosts, phones⟩ := devices_stay_locked concreteService fingerprintPrimitives
    (newKeyRequestOps ++ [newKeyOp])
    (by simp [newKeyRequestOps, newKeyOp, cardOps, ServiceOp.keepsDevices, unbindsDevices])
    (List.replicate 32 97)
  obtain ⟨last, isLast, host⟩ := hosts newKeyRequestOps [newKeyOp] rfl old isOld
  obtain ⟨-, -, -, -, -, -, -, -, -, shown, -⟩ :=
    phones newKeyRequestOps newKeyOp [] rfl old new isOld isNew changed
  cases isNew.symm.trans isLast
  exact ⟨old, new, isOld, isNew, host, changed, shown⟩

end VisionForge.PairSecurity
