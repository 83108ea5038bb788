import VisionForge.PairSecurity.Holders

/-! # The invariant of pair security

A pair that is active is the pair of its entitlement, its devices are the current ones,
and no later pair of that entitlement exists. Versions of pairs never run ahead of their
entitlements, which is why a pair that was left cannot be taken up again.
-/

namespace VisionForge.PairSecurity

open Lib.Ascii Lib.Run Lib.Table Lib.Transaction Server LicenseRepository UsageRepository

/-- What the row of a pair means for the other tables. -/
structure Sound (s : SecuredDatabase) (pair : PairSecurityRow) : Prop where
  /-- The devices of the pair were bound to its entitlement. -/
  bound : ∃ binding ∈ s.tables.deviceBindings, binding.bindingId = pair.bindingId ∧
    binding.entitlementId = pair.entitlementId ∧ binding.pairId = pair.pairId
  held : ∃ row ∈ s.tables.entitlements, row.entitlementId = pair.entitlementId ∧
    pair.revocationVersion ≤ row.revocationVersion
  newest : pair.assuranceState.isRevocable = true → ∀ other ∈ s.pairs,
    other.entitlementId = pair.entitlementId → other.bindingRevision ≤ pair.bindingRevision
  live : pair.assuranceState = .active →
    (∃ row ∈ s.tables.entitlements, row.entitlementId = pair.entitlementId ∧
      row.pairId = pair.pairId) ∧
    ∃ binding ∈ s.tables.deviceBindings, binding.bindingId = pair.bindingId ∧
      binding.isCurrent = true

/-- At most one pair of devices is bound to an entitlement at a time. -/
def OneCurrent (bindings : List DeviceBindingRow) (entitlementId : Bytes) : Prop :=
  ∀ first ∈ bindings, ∀ second ∈ bindings, first.entitlementId = entitlementId →
    second.entitlementId = entitlementId → first.isCurrent = true → second.isCurrent = true →
    first = second

structure Secured (s : SecuredDatabase) : Prop where
  distinct : Distinct s.tables.entitlements
  bindingIds : (s.tables.deviceBindings.map DeviceBindingRow.bindingId).Nodup
  oneCurrent : ∀ entitlementId, OneCurrent s.tables.deviceBindings entitlementId
  sound : ∀ pair ∈ s.pairs, Sound s pair

theorem Secured.empty : Secured {} := by
  refine ⟨⟨List.nodup_nil, List.nodup_nil⟩, List.nodup_nil, ?_, ?_⟩
  · intro entId first mem
    cases mem
  · intro pair mem
    cases mem

section

variable {s t : SecuredDatabase}

theorem Secured.newestFirst (inv : Secured s) (entId : Bytes) : NewestFirst s.pairs entId := by
  intro pair mem owner revocable other hrow isOwner
  exact (inv.sound pair mem).newest revocable other hrow (isOwner.trans owner.symm)

/-- An entitlement keeps its pair, its revocation version does not fall, and it stays revoked
    unless it may be restored. -/
structure Kept (restores : Prop) (before after : EntitlementRow) : Prop where
  entitlementId : after.entitlementId = before.entitlementId
  pairId : after.pairId = before.pairId
  hostKeySha256 : after.hostKeySha256 = before.hostKeySha256
  androidKeySha256 : after.androidKeySha256 = before.androidKeySha256
  revocationVersion : before.revocationVersion ≤ after.revocationVersion
  revoked : before.status = .revoked → after.status = .revoked ∨ restores

section

variable {restores : Prop}

theorem Kept.refl (row : EntitlementRow) : Kept restores row row :=
  ⟨rfl, rfl, rfl, rfl, le_rfl, .inl⟩

theorem Kept.trans {a b c : EntitlementRow} (first : Kept restores a b) (snd : Kept restores b c) :
    Kept restores a c where
  entitlementId := snd.entitlementId.trans first.entitlementId
  pairId := snd.pairId.trans first.pairId
  hostKeySha256 := snd.hostKeySha256.trans first.hostKeySha256
  androidKeySha256 := snd.androidKeySha256.trans first.androidKeySha256
  revocationVersion := first.revocationVersion.trans snd.revocationVersion
  revoked := fun isRevoked => (first.revoked isRevoked).elim snd.revoked .inr

theorem kept_revoked (row : EntitlementRow) : Kept restores row (AdminService.revoked row) :=
  ⟨rfl, rfl, rfl, rfl, Nat.le_succ _, fun _ => .inl rfl⟩

theorem kept_restored (isBack : restores) (row : EntitlementRow) :
    Kept restores row (AdminService.restored row) :=
  ⟨rfl, rfl, rfl, rfl, Nat.le_succ _, fun _ => .inr isBack⟩

theorem kept_debit {entId : Bytes} {hchg : Nat} {row : EntitlementRow}
    (sel : canDebit entId hchg row = true) : Kept restores row (debit hchg row) := by
  refine ⟨rfl, rfl, rfl, rfl, le_rfl, ?_⟩
  intro isRevoked
  simp [canDebit, isRevoked] at sel

end

/-- The holders of entitlements stay. -/
structure Keeps (restores : Prop) (s t : Database) : Prop where
  entitlements : List.Forall₂ (Kept restores) s.entitlements t.entitlements
  deviceBindings : t.deviceBindings = s.deviceBindings

theorem SameHolders.keeps {restores : Prop} {s t : Database} (h : SameHolders s t) :
    Keeps restores s t := by
  refine ⟨?_, h.deviceBindings⟩
  rw [h.entitlements]
  exact List.forall₂_same.mpr (fun row _ => .refl row)

theorem Secured.keeps {restores : Prop} (inv : Secured s)
    (tables : Keeps restores s.tables t.tables) (pairs : t.pairs = s.pairs) : Secured t := by
  refine ⟨⟨?_, ?_⟩, ?_, ?_, ?_⟩
  · rw [map_eq_of_forall₂ tables.entitlements (fun _ _ kept => kept.pairId)]
    exact inv.distinct.pairs
  · rw [map_eq_of_forall₂ tables.entitlements (fun _ _ kept => by
      rw [kept.hostKeySha256, kept.androidKeySha256])]
    exact inv.distinct.hashes
  · rw [tables.deviceBindings]
    exact inv.bindingIds
  · rw [tables.deviceBindings]
    exact inv.oneCurrent
  · intro pair mem
    rw [pairs] at mem
    obtain ⟨bound, ⟨row, hrow, owner, version⟩, newest, live⟩ := inv.sound pair mem
    refine ⟨?_, ?_, ?_, ?_⟩
    · rw [tables.deviceBindings]
      exact bound
    · obtain ⟨new, inNew, kept⟩ := exists_of_mem_before tables.entitlements hrow
      exact ⟨new, inNew, kept.entitlementId.trans owner, version.trans kept.revocationVersion⟩
    · rw [pairs]
      exact newest
    · intro on
      obtain ⟨⟨row, hrow, owner, pairId⟩, cur⟩ := live on
      obtain ⟨new, inNew, kept⟩ := exists_of_mem_before tables.entitlements hrow
      rw [tables.deviceBindings]
      exact ⟨⟨new, inNew, kept.entitlementId.trans owner, kept.pairId.trans pairId⟩, cur⟩

structure Changes (owner : Bytes) (s t : SecuredDatabase) : Prop where
  entitlements : Reassigns owner s.tables.entitlements t.tables.entitlements
  distinct : Distinct t.tables.entitlements
  bindings : Rebinds owner s.tables.deviceBindings t.tables.deviceBindings
  bindingIds : (t.tables.deviceBindings.map DeviceBindingRow.bindingId).Nodup
  oneCurrent : OneCurrent t.tables.deviceBindings owner
  others : ∀ pair, pair.entitlementId ≠ owner → (pair ∈ t.pairs ↔ pair ∈ s.pairs)
  sound : ∀ pair ∈ t.pairs, pair.entitlementId = owner → Sound t pair

theorem Secured.changes {owner : Bytes} (inv : Secured s) (h : Changes owner s t) : Secured t := by
  refine ⟨h.distinct, h.bindingIds, ?_, ?_⟩
  · intro entId
    by_cases isOwner : entId = owner
    · rw [isOwner]
      exact h.oneCurrent
    · intro first inFirst snd inSecond ownsFirst ownsSecond
      refine inv.oneCurrent entId first ?_ snd ?_ ownsFirst ownsSecond
      · exact (h.bindings.others first (by rw [ownsFirst]; exact isOwner)).mp inFirst
      · exact (h.bindings.others snd (by rw [ownsSecond]; exact isOwner)).mp inSecond
  · intro pair mem
    by_cases isOwner : pair.entitlementId = owner
    · exact h.sound pair mem isOwner
    · obtain ⟨⟨binding, inBindings, id, owned, bindingPair⟩, ⟨row, hrow, holder, version⟩, newest,
        live⟩ := inv.sound pair ((h.others pair isOwner).mp mem)
      refine ⟨?_, ?_, ?_, ?_⟩
      · obtain ⟨new, inNew, id', owned', pair'⟩ := h.bindings.kept binding inBindings
        exact ⟨new, inNew, id'.trans id, owned'.trans owned, pair'.trans bindingPair⟩
      · obtain ⟨new, inNew, holder', version'⟩ := h.entitlements.kept row hrow
        exact ⟨new, inNew, holder'.trans holder, version.trans version'⟩
      · intro revocable other inOthers same
        exact newest revocable other
          ((h.others other (by rw [same]; exact isOwner)).mp inOthers) same
      · intro on
        obtain ⟨⟨row, hrow, holder, pairId⟩, binding', inBindings', id', cur⟩ := live on
        refine ⟨⟨row, ?_, holder, pairId⟩, binding', ?_, id', cur⟩
        · exact (h.entitlements.others row (by rw [holder]; exact isOwner)).mpr hrow
        · refine (h.bindings.others binding' ?_).mpr inBindings'
          have same := List.inj_on_of_nodup_map inv.bindingIds inBindings' inBindings
            (id'.trans id.symm)
          rw [same, owned]
          exact isOwner

/-- A row that only evolved is still bound and held. -/
theorem Sound.evolves {owner : Bytes} {now : Nat} {old new : PairSecurityRow} (sound : Sound s old)
    (evolves : Evolves now old new)
    (entitlements : Reassigns owner s.tables.entitlements t.tables.entitlements)
    (bindings : Rebinds owner s.tables.deviceBindings t.tables.deviceBindings)
    (newest : new.assuranceState.isRevocable = true → ∀ other ∈ t.pairs,
      other.entitlementId = new.entitlementId → other.bindingRevision ≤ new.bindingRevision)
    (inactive : new.assuranceState ≠ .active) : Sound t new := by
  obtain ⟨⟨binding, inBindings, id, owned, bindingPair⟩, ⟨row, hrow, holder, version⟩, -, -⟩ := sound
  refine ⟨?_, ?_, newest, fun on => absurd on inactive⟩
  · obtain ⟨new', inNew, id', owned', pair'⟩ := bindings.kept binding inBindings
    exact ⟨new', inNew, (id'.trans id).trans evolves.bindingId.symm,
      (owned'.trans owned).trans evolves.entitlementId.symm,
      (pair'.trans bindingPair).trans evolves.pairId.symm⟩
  · obtain ⟨new', inNew, holder', version'⟩ := entitlements.kept row hrow
    refine ⟨new', inNew, (holder'.trans holder).trans evolves.entitlementId.symm, ?_⟩
    rw [evolves.revocationVersion]
    exact version.trans version'

end

/-! ## Requests keep the invariant

A request that changes pairs changes those of one entitlement, and what it leaves behind
is sound. Each lemma also says what the request does to the other tables: what the service
without pair states does.
-/

section

variable {s t : SecuredDatabase} {prims : ServicePrimitives}
  {chal : ActivationChallengeRow} {ids : ActivationIds} {now : Nat}
  {proof : VerifiedActivationBindingProof} {resp : ActivationResponse}

/-- A pair was secured after the tables were prepared for it. -/
structure Secures (owner : Bytes) (now : Nat) (s t : SecuredDatabase) : Prop where
  changes : Changes owner s t
  row : ∃ row ∈ t.pairs, row.assuranceState = .active ∧ row.entitlementId = owner ∧
    ∀ entitlement ∈ t.tables.entitlements, entitlement.entitlementId = owner →
      entitlement.pairId = row.pairId
  clocks : ∀ row ∈ t.pairs, row.updatedAtEpoch ≤ now ∨
    ∃ old ∈ s.pairs, row.updatedAtEpoch ≤ old.updatedAtEpoch

theorem entitlement_unique {db : Database} {row other : EntitlementRow}
    (hrow : row ∈ db.entitlements) (inRows' : other ∈ db.entitlements)
    (same : other.entitlementId = row.entitlementId) : other = row :=
  List.inj_on_of_nodup_map db.entitlementKeys inRows' hrow same

theorem Activates.secures {owner : Bytes} {live : LiveBinding} {row : PairSecurityRow}
    {tables : Database} {u : SecuredDatabase} (inv : Secured s)
    (prepares : Prepares owner s.tables tables) (isLive : IsLive tables owner live)
    (binding : live.binding.pairId = live.entitlement.pairId)
    (activates : Activates owner live now row { s with tables := tables } u)
    (holders : SameHolders u.tables t.tables) (pairs : t.pairs = u.pairs) :
    Secures owner now s t := by
  have entitlements : t.tables.entitlements = tables.entitlements := by
    rw [holders.entitlements, activates.tables]
  have bindings : t.tables.deviceBindings = tables.deviceBindings := by
    rw [holders.deviceBindings, activates.tables]
  have reassigns : Reassigns owner s.tables.entitlements t.tables.entitlements := by
    rw [entitlements]
    exact prepares.entitlements
  have rebinds : Rebinds owner s.tables.deviceBindings t.tables.deviceBindings := by
    rw [bindings]
    exact prepares.bindings
  have htab : row ∈ t.pairs := by
    rw [pairs]
    exact activates.member
  refine ⟨⟨reassigns, ?_, rebinds, ?_, ?_, ?_, ?_⟩, ⟨row, htab, activates.active,
    activates.owner, ?_⟩, ?_⟩
  · rw [entitlements]
    exact prepares.distinct
  · rw [bindings]
    exact prepares.bindingIds inv.bindingIds
  · rw [bindings]
    intro first inFirst snd inSecond ownsFirst ownsSecond isCurrent isCurrent'
    rw [isLive.only first inFirst ownsFirst isCurrent,
      isLive.only snd inSecond ownsSecond isCurrent']
  · intro pair out
    rw [pairs]
    exact activates.others pair out
  · intro pair mem isOwner
    rw [pairs] at mem
    by_cases isRow : pair = row
    · subst isRow
      refine ⟨⟨live.binding, ?_, ?_, ?_, ?_⟩, ⟨live.entitlement, ?_, ?_, ?_⟩, ?_, ?_⟩
      · rw [bindings]
        exact isLive.binding
      · exact activates.bindingId.symm
      · exact isLive.bound.trans activates.owner.symm
      · exact binding.trans activates.pairId.symm
      · rw [entitlements]
        exact isLive.entitlement
      · exact isLive.owner.trans activates.owner.symm
      · exact activates.revocationVersion.le
      · intro _ other hrow same
        rw [pairs] at hrow
        by_cases isRow : other = pair
        · rw [isRow]
        · exact (activates.rest other hrow (same.trans activates.owner) isRow).2.1
      · intro _
        rw [entitlements, bindings]
        exact ⟨⟨live.entitlement, isLive.entitlement, isLive.owner.trans activates.owner.symm,
          activates.pairId.symm⟩, live.binding, isLive.binding, activates.bindingId.symm,
          isLive.current⟩
    · obtain ⟨retired, -, old, inOld, evolves⟩ := activates.rest pair mem isOwner isRow
      refine (inv.sound old inOld).evolves evolves reassigns rebinds ?_ ?_
      · intro revocable
        rw [retired] at revocable
        cases revocable
      · intro on
        rw [on] at retired
        cases retired
  · intro ent hrow isOwner
    rw [entitlements] at hrow
    rw [entitlement_unique isLive.entitlement hrow (isOwner.trans isLive.owner.symm)]
    exact activates.pairId.symm
  · intro pair mem
    rw [pairs] at mem
    by_cases isOwner : pair.entitlementId = owner
    · by_cases isRow : pair = row
      · subst isRow
        exact activates.updatedAtEpoch
      · obtain ⟨-, -, old, inOld, evolves⟩ := activates.rest pair mem isOwner isRow
        cases le_max_iff.mp evolves.updatedAtEpoch with
        | inl early => exact .inl early
        | inr late => exact .inr ⟨old, inOld, late⟩
    · exact .inr ⟨pair, (activates.others pair isOwner).mp mem, le_rfl⟩

theorem confirmCredit_secures (inv : Secured s) (mode : proof.activationMode = chal.activationMode)
    (h : (confirmCredit prims chal proof ids now).run s = .ok (resp, t)) :
    (CardService.confirmCredit prims chal ids none now).run s.tables = .ok (resp, t.tables) ∧
      ∃ owner, Secures owner now s t ∧ IsFor s.tables chal owner := by
  obtain ⟨⟨card, entId⟩, tables, crediting, h⟩ := onTables_bind.mp h
  obtain ⟨row, u, committing, h⟩ := bind_ok.mp h
  obtain ⟨tables', recording, rfl⟩ := onTables_eq_ok.mp h
  obtain ⟨prepares, new⟩ := creditCard_prepares crediting
  obtain ⟨live, isLive, pair, binding, activates⟩ :=
    commitVerifiedBinding_activates (s := { s with tables := tables })
      (inv.newestFirst entId) (by
      intro first other mem owner
      rw [mode] at first
      obtain ⟨row, hrow, isOwner, -⟩ := (inv.sound other mem).held
      exact absurd (isOwner.trans owner) (new first row hrow)) committing
  constructor
  · rw [confirmCredit_parts, bind_ok]
    refine ⟨(card, entId), tables, crediting, ?_⟩
    rw [activates.tables] at recording
    exact recording
  · exact ⟨entId, activates.secures inv prepares isLive (binding.trans pair.symm)
      (recordCredit_same recording) rfl, creditCard_isFor crediting⟩

theorem confirmDeviceBinding_secures (inv : Secured s)
    (isBinding : chal.activationMode = .bindDevice)
    (h : (confirmDeviceBinding prims chal proof ids now).run s = .ok (resp, t)) :
    (CardService.confirmDeviceBinding prims chal ids none now).run s.tables = .ok (resp, t.tables) ∧
      ∃ owner, Secures owner now s t ∧ IsFor s.tables chal owner := by
  obtain ⟨act, tables, rebinding, h⟩ := onTables_bind.mp h
  obtain ⟨row, u, committing, h⟩ := bind_ok.mp h
  obtain ⟨tables', recording, rfl⟩ := onTables_eq_ok.mp h
  obtain ⟨prepares, raised⟩ := rebindDevices_prepares rebinding
  -- the version of the ent has just risen above that of each of its pairs
  obtain ⟨live, isLive, pair, binding, activates⟩ :=
    commitVerifiedBinding_activates (s := { s with tables := tables })
      (inv.newestFirst chal.targetEntitlementId) (by
      intro _ other mem owner ent hrow isOwner same
      obtain ⟨row, inOld, holder, version⟩ := (inv.sound other mem).held
      obtain ⟨old, inOld', holder', less⟩ := raised ent hrow isOwner
      rw [entitlement_unique inOld' inOld
        ((holder.trans owner).trans holder'.symm)] at version
      omega) committing
  constructor
  · rw [confirmDeviceBinding_parts, bind_ok]
    refine ⟨act, tables, rebinding, ?_⟩
    rw [activates.tables] at recording
    exact recording
  · refine ⟨_, activates.secures inv prepares isLive (binding.trans pair.symm)
      (recordBinding_same recording) rfl, .inr ⟨?_, rfl⟩⟩
    rw [isBinding]
    exact ActivationMode.noConfusion

variable {settings : DualMachineSettings} {cmd : ConfirmCommand}

theorem verifyConfirmation_eq_ok
    (h : (verifyConfirmation settings prims cmd now).run s = .ok ((chal, proof), t)) :
    (CardService.confirmActivationChecks settings prims cmd now).run s.tables =
      .ok (chal, t.tables) ∧ t = s ∧ proof.activationMode = chal.activationMode := by
  obtain ⟨found, tables, checking, h⟩ := onTables_bind.mp h
  obtain ⟨rfl, -⟩ := confirmActivationChecks_eq_ok checking
  unfold verifiedActivationBindingProof at h
  simp only [bind_assoc, pure_bind] at h
  rw [require_ok] at h
  cases h.2
  exact ⟨checking, rfl, rfl⟩

/-- What changes of the tables and commits of a pair keep is kept by a confirmation. -/
theorem confirmActivation_preserves {P : SecuredDatabase → Prop}
    (tables : ∀ {α : Type} (body : Statement α), Preserves P (onTables body))
    (commits : ∀ proof entId, Preserves P (commitVerifiedBinding proof entId now))
    {seen : Database} :
    Preserves P (confirmActivation settings prims seen cmd ids now) := by
  intro s resp t h holds
  unfold confirmActivation at h
  rw [reading_ok] at h
  obtain ⟨-, -, -, h⟩ := h
  unfold confirmActivationTransaction at h
  rw [bind_ok] at h
  obtain ⟨⟨chal, proof⟩, u, verifying, h⟩ := h
  obtain ⟨-, rfl, -⟩ := verifyConfirmation_eq_ok verifying
  dsimp only at h
  split at h
  · exact tables _ _ _ _ h holds
  split at h
  · have body : Preserves P (confirmDeviceBinding prims chal proof ids now) :=
      (tables _).bind fun _ => (commits proof _).bind fun _ => tables _
    exact body _ _ _ h holds
  · have body : Preserves P (confirmCredit prims chal proof ids now) :=
      (tables _).bind fun _ => (commits proof _).bind fun _ => tables _
    exact body _ _ _ h holds

/-- A confirmation repeats an answer, or it secures a pair of the entitlement it is for. -/
theorem confirmActivation_secures_for {seen : Database} (inv : Secured s)
    (h : (confirmActivation settings prims seen cmd ids now).run s = .ok (resp, t)) :
    (CardService.confirmActivation settings prims seen cmd ids none now).run s.tables =
        .ok (resp, t.tables) ∧
      (t = s ∨ ∃ chal owner, challengeIn s.tables cmd.challengeId = some chal ∧
        chal.status = .issued ∧ IsFor s.tables chal owner ∧ Secures owner now s t) := by
  unfold confirmActivation at h
  rw [reading_ok] at h
  obtain ⟨⟨read, given⟩, seen', checking, h⟩ := h
  obtain ⟨checked, -, -⟩ := verifyConfirmation_eq_ok checking
  unfold confirmActivationTransaction at h
  rw [bind_ok] at h
  obtain ⟨⟨chal, proof⟩, u, verifying, h⟩ := h
  obtain ⟨verified, same, mode⟩ := verifyConfirmation_eq_ok verifying
  subst same
  obtain ⟨-, found, state⟩ := confirmActivationChecks_eq_ok verified
  dsimp only at h
  unfold CardService.confirmActivation CardService.confirmActivationTransaction
  rw [reading_ok]
  simp only [bind_ok]
  split at h
  · rename_i used
    obtain ⟨tables, replaying, rfl⟩ := onTables_eq_ok.mp h
    obtain rfl := (confirmationReplay_eq_ok replaying).symm
    refine ⟨⟨read, _, checked, chal, _, verified, ?_⟩, .inl rfl⟩
    rw [if_pos used]
    exact replaying
  · rename_i fresh
    have issued := (state.resolve_left fresh).1
    split at h
    · rename_i isBinding
      obtain ⟨ran, owner, secures, isFor⟩ := confirmDeviceBinding_secures inv isBinding h
      refine ⟨⟨read, _, checked, chal, _, verified, ?_⟩,
        .inr ⟨chal, owner, found, issued, isFor, secures⟩⟩
      rw [if_neg fresh, if_pos isBinding]
      exact ran
    · rename_i isCredit
      obtain ⟨ran, owner, secures, isFor⟩ := confirmCredit_secures inv mode h
      refine ⟨⟨read, _, checked, chal, _, verified, ?_⟩,
        .inr ⟨chal, owner, found, issued, isFor, secures⟩⟩
      rw [if_neg fresh, if_neg isCredit]
      exact ran

theorem confirmActivation_secures {seen : Database} (inv : Secured s)
    (h : (confirmActivation settings prims seen cmd ids now).run s = .ok (resp, t)) :
    (CardService.confirmActivation settings prims seen cmd ids none now).run s.tables =
        .ok (resp, t.tables) ∧ (t = s ∨ ∃ owner, Secures owner now s t) := by
  obtain ⟨ran, done⟩ := confirmActivation_secures_for inv h
  refine ⟨ran, done.imp_right ?_⟩
  rintro ⟨-, owner, -, -, -, secures⟩
  exact ⟨owner, secures⟩

end

section

variable {s t : SecuredDatabase} {entId : Bytes} {now : Nat}
  {resp : AdminService.RevokeResponse}

/-- One pair of an entitlement was changed, the only one that may have been active. -/
theorem Secured.replaces {owner : Bytes} {old new : PairSecurityRow} (inv : Secured s)
    (mem : old ∈ s.pairs) (isOwner : old.entitlementId = owner) (evolves : Evolves now old new)
    (inactive : new.assuranceState ≠ .active)
    (revocable : new.assuranceState.isRevocable = true → old.assuranceState.isRevocable = true)
    (only : ∀ other ∈ s.pairs, other.entitlementId = owner → other.assuranceState = .active →
      other.pairId = old.pairId)
    (pairs : ∀ row, row ∈ t.pairs ↔ row = new ∨ (row ∈ s.pairs ∧ row.pairId ≠ old.pairId))
    (entitlements : Reassigns owner s.tables.entitlements t.tables.entitlements)
    (dist : Distinct t.tables.entitlements)
    (bindings : Rebinds owner s.tables.deviceBindings t.tables.deviceBindings)
    (bindingIds : (t.tables.deviceBindings.map DeviceBindingRow.bindingId).Nodup)
    (oneCurrent : OneCurrent t.tables.deviceBindings owner) : Changes owner s t := by
  have pre (row : PairSecurityRow) (hrow : row ∈ t.pairs) : ∃ earlier ∈ s.pairs,
      earlier.entitlementId = row.entitlementId ∧ earlier.bindingRevision = row.bindingRevision := by
    cases (pairs row).mp hrow with
    | inl isNew =>
      subst isNew
      exact ⟨old, mem, evolves.entitlementId.symm, evolves.bindingRevision.symm⟩
    | inr kept => exact ⟨row, kept.1, rfl, rfl⟩
  refine ⟨entitlements, dist, bindings, bindingIds, oneCurrent, ?_, ?_⟩
  · intro pair out
    rw [pairs]
    constructor
    · rintro (rfl | kept)
      · exact absurd (evolves.entitlementId.trans isOwner) out
      · exact kept.1
    · intro hrow
      refine .inr ⟨hrow, ?_⟩
      intro same
      rw [pair_unique mem hrow same] at out
      exact out isOwner
  · intro pair hrow ownsPair
    cases (pairs pair).mp hrow with
    | inl isNew =>
      subst isNew
      refine (inv.sound old mem).evolves evolves entitlements bindings ?_ inactive
      intro isRevocable other inOthers same
      obtain ⟨earlier, inEarlier, holder, revision⟩ := pre other inOthers
      rw [← revision, evolves.bindingRevision]
      exact (inv.sound old mem).newest (revocable isRevocable) earlier inEarlier
        ((holder.trans same).trans evolves.entitlementId)
    | inr kept =>
      refine (inv.sound pair kept.1).evolves (.refl now pair) entitlements bindings ?_ ?_
      · intro isRevocable other inOthers same
        obtain ⟨earlier, inEarlier, holder, revision⟩ := pre other inOthers
        rw [← revision]
        exact (inv.sound pair kept.1).newest isRevocable earlier inEarlier (holder.trans same)
      · intro hact
        exact kept.2 (only pair kept.1 ownsPair hact)

/-- The pair of an entitlement, as far as it can be revoked at a time. -/
structure HasRevocablePair (s : SecuredDatabase) (row : EntitlementRow) (now : Nat)
    (pair : PairSecurityRow) : Prop where
  member : pair ∈ s.pairs
  owner : pair.entitlementId = row.entitlementId
  pairId : pair.pairId = row.pairId
  revocable : pair.assuranceState.isRevocable = true
  order : pair.updatedAtEpoch ≤ now

/-- What a revocation of an entitlement that is not revoked does. -/
structure Revokes (s t : SecuredDatabase) (row : EntitlementRow) (now : Nat)
    (pair : PairSecurityRow) : Prop where
  changes : Changes row.entitlementId s t
  found : HasRevocablePair s row now pair
  fits : fitsInteger now = true
  entitlements : t.tables.entitlements = update
    (fun other => other.entitlementId == row.entitlementId) AdminService.revoked
    s.tables.entitlements
  pairs : ∀ other, other ∈ t.pairs ↔
    other = revokedAt now pair ∨ (other ∈ s.pairs ∧ other.pairId ≠ pair.pairId)

theorem Secured.active_pairId (inv : Secured s) {row : EntitlementRow}
    (hrow : row ∈ s.tables.entitlements) {pair : PairSecurityRow} (mem : pair ∈ s.pairs)
    (owner : pair.entitlementId = row.entitlementId) (on : pair.assuranceState = .active) :
    pair.pairId = row.pairId := by
  obtain ⟨⟨other, inOthers, holder, same⟩, -⟩ := (inv.sound pair mem).live on
  rw [← same, entitlement_unique hrow inOthers (holder.trans owner)]

theorem revokeEntitlement_revokes (inv : Secured s)
    (h : (revokeEntitlement entId now).run s = .ok (resp, t)) :
    (AdminService.revokeEntitlement entId none now).run s.tables = .ok (resp, t.tables) ∧
      ∃ row ∈ s.tables.entitlements, row.entitlementId = entId ∧
        ((row.status = .revoked ∧ SameHolders s.tables t.tables ∧ t.pairs = s.pairs) ∨
          (row.status ≠ .revoked ∧ ∃ pair, Revokes s t row now pair)) := by
  obtain ⟨row, tables, requiring, h⟩ := onTables_bind.mp h
  obtain ⟨rfl, hrow, owner⟩ := requireEntitlement_eq_ok requiring
  rw [revokeEntitlement_parts, bind_ok]
  by_cases isOver : row.status = .revoked
  · simp only [isOver, ne_eq, not_true_eq_false, if_false] at h
    obtain ⟨tables, recording, rfl⟩ := onTables_eq_ok.mp h
    refine ⟨⟨row, _, requiring, ?_⟩, row, hrow, owner,
      .inl ⟨isOver, sameHolders_of_calm (recordRevocation_calm recording), rfl⟩⟩
    simp only [isOver, ne_eq, not_true_eq_false, if_false, pure_bind]
    exact recording
  · simp only [isOver, ne_eq, not_false_eq_true, if_true] at h
    obtain ⟨⟨⟩, tables, revoking, h⟩ := onTables_bind.mp h
    obtain ⟨⟨⟩, u, revokingPair, h⟩ := bind_ok.mp h
    obtain ⟨tables', recording, rfl⟩ := onTables_eq_ok.mp h
    obtain ⟨pair, mem, holder, key, revocable, order, fits, replaces⟩ :=
      revokePair_replaces revokingPair
    have isTables : u.tables = tables := replaces.tables
    rw [isTables] at recording
    obtain ⟨distinct, bindings, entitlements⟩ := revokeTables_eq_ok revoking
    have calm := recordRevocation_calm recording
    have same : tables'.deviceBindings = s.tables.deviceBindings :=
      calm.deviceBindings.trans bindings
    have changed := calm.entitlements.trans entitlements
    rw [← owner] at changed
    refine ⟨⟨row, _, requiring, ?_⟩, row, hrow, owner,
      .inr ⟨isOver, pair, ?_, ?_, fits, changed, ?_⟩⟩
    · simp only [isOver, ne_eq, not_false_eq_true, if_true]
      rw [bind_ok]
      exact ⟨(), tables, revoking, recording⟩
    · rw [owner] at changed ⊢
      have evolves : Evolves now pair (revokedAt now pair) :=
        ⟨⟨rfl, rfl, rfl, rfl⟩, rfl, le_max_left _ _⟩
      refine inv.replaces mem holder evolves AssuranceState.noConfusion ?_ ?_ replaces.pairs
        ?_ ?_ ?_ ?_ ?_
      · intro no
        cases no
      · intro other inOthers ownsOther hact
        rw [key]
        exact inv.active_pairId hrow inOthers (ownsOther.trans owner.symm) hact
      · rw [changed]
        exact reassigns_update (fun _ sel => by simpa using sel)
          (fun _ => ⟨rfl, Nat.le_succ _⟩)
      · rw [calm.entitlements]
        exact distinct
      · rw [same]
        exact .refl _ _
      · rw [same]
        exact inv.bindingIds
      · rw [same]
        exact inv.oneCurrent entId
    · exact ⟨mem, holder.trans owner.symm, key, revocable, order⟩
    · exact replaces.pairs

/-- The devices that are unbound are those of the pair that is suspended. -/
theorem unbindEntitlementDevice_changes {bindingId pairId : Bytes} (inv : Secured s)
    (h : (unbindEntitlementDevice entId bindingId pairId now).run s = .ok (resp, t)) :
    (AdminService.unbindEntitlementDevice entId bindingId pairId none now).run s.tables =
        .ok (resp, t.tables) ∧ Changes entId s t := by
  obtain ⟨⟨⟩, tables, clearing, h⟩ := onTables_bind.mp h
  obtain ⟨⟨⟩, u, suspending, h⟩ := bind_ok.mp h
  obtain ⟨tables', recording, rfl⟩ := onTables_eq_ok.mp h
  obtain ⟨state, new, owner, bound, replaces, evolves, inactive, revocable⟩ :=
    suspendPair_replaces suspending
  have isTables : u.tables = tables := replaces.tables
  rw [isTables] at recording
  constructor
  · rw [unbindEntitlementDevice_parts, bind_ok]
    exact ⟨(), tables, clearing, recording⟩
  obtain ⟨entitlements, binds, table, current, inBindings, holds, isBinding, isCurrent⟩ :=
    clearDevices_eq_ok clearing
  obtain ⟨distinct, bindings, changed⟩ := recordUnbinding_eq_ok recording
  rw [entitlements] at changed
  have mem : state ∈ s.pairs := replaces.member
  obtain ⟨held, inHeld, heldId, -, heldPair⟩ := (inv.sound state mem).bound
  refine inv.replaces mem owner evolves inactive revocable ?_ replaces.pairs ?_ distinct ?_ ?_ ?_
  · intro other inOthers ownsOther hact
    obtain ⟨own, inOwn, ownId, ownOwner, ownPair⟩ := (inv.sound other inOthers).bound
    obtain ⟨-, live, inLive, liveId, isLive⟩ := (inv.sound other inOthers).live hact
    have sameOwn : live = own :=
      List.inj_on_of_nodup_map inv.bindingIds inLive inOwn (liveId.trans ownId.symm)
    have sameCurrent : own = current := by
      subst sameOwn
      exact inv.oneCurrent entId live inOwn current inBindings
        (ownOwner.trans ownsOther) holds isLive isCurrent
    have sameHeld : held = current := List.inj_on_of_nodup_map inv.bindingIds inHeld inBindings
      ((heldId.trans bound).trans isBinding.symm)
    rw [← ownPair, ← heldPair, sameCurrent, sameHeld]
  · rw [changed]
    exact reassigns_update (fun _ sel => by simpa using sel)
      (fun _ => ⟨rfl, Nat.le_succ _⟩)
  · rw [bindings]
    exact binds
  · rw [bindings, table, map_update (fun _ _ _ => by rfl)]
    exact inv.bindingIds
  · rw [bindings, table]
    intro first inFirst snd inSecond ownsFirst ownsSecond currentFirst currentSecond
    have pre (row : DeviceBindingRow) (hrow : row ∈ update
        (fun row => row.entitlementId == entId && row.bindingId == bindingId)
        (fun row => { row with isCurrent := false }) s.tables.deviceBindings)
        (isCurrent : row.isCurrent = true) : row ∈ s.tables.deviceBindings := by
      cases mem_update hrow with
      | inl kept => exact kept.1
      | inr cleared =>
        obtain ⟨old, -, -, rfl⟩ := cleared
        cases isCurrent
    exact inv.oneCurrent entId first (pre first inFirst currentFirst) snd
      (pre snd inSecond currentSecond) ownsFirst ownsSecond currentFirst currentSecond

end

end VisionForge.PairSecurity
