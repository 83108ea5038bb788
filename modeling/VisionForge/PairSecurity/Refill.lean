import VisionForge.PairSecurity.Restart

/-! # Refilling an exhausted entitlement

A new card replaces the credit of an entitlement that is exhausted. It does so only when no
session of the entitlement has the status of an active one, whatever became of its lease, and
when the pair of its devices still stands at the version of the entitlement.
-/

namespace VisionForge.PairSecurity

open Agreement Lib.Ascii Lib.Run Lib.Table Lib.Transaction Server LicenseRepository UsageRepository

/-- Keys that the schema declares. -/
structure Keyed (database : Database) : Prop where
  licenseCodes : (database.licenseCodes.map LicenseCodeRow.id).Nodup
  activationChallenges :
    (database.activationChallenges.map ActivationChallengeRow.challengeId).Nodup
  deviceBindings : (database.deviceBindings.map (fun row =>
    (row.entitlementId, row.pairId, row.hostKeySha256, row.androidKeySha256))).Nodup

structure RefillRequest where
  command : ConfirmCommand
  ids : ActivationIds
  challenge : ActivationChallengeRow
  card : LicenseCodeRow
  current : DeviceBindingRow
  now : Nat

/-- The devices that an entitlement is bound to ask to refill it: their challenge is open and they
    have both signed it, and its card was never used. -/
structure Refill (settings : DualMachineSettings) (prims : ServicePrimitives) (s : Database)
    (row : EntitlementRow) (request : RefillRequest) : Prop where
  keyed : Keyed s
  checked : (CardService.confirmActivationChecks settings prims request.command
    request.now).run s = .ok (request.challenge, s)
  issued : request.challenge.status = .issued
  reactivates : request.challenge.activationMode = .reactivate
  target : request.challenge.targetEntitlementId = row.entitlementId
  /-- The keys of the two devices differ, as the request for the challenge checks. -/
  devices : request.challenge.hostKeySha256 ≠ request.challenge.androidKeySha256
  pair : request.challenge.pairId = row.pairId
  bound : currentBinding s row.entitlementId = some request.current
  boundPair : request.current.pairId = row.pairId
  hostKey : request.current.hostKeySha256 = request.challenge.hostKeySha256
  androidKey : request.current.androidKeySha256 = request.challenge.androidKeySha256
  profile : prims.deviceProfileFingerprint request.current.androidDeviceProfileJson =
    prims.deviceProfileFingerprint request.challenge.androidDeviceProfileJson
  card : lookup LicenseCodeRow.id request.challenge.licenseCodeId s.licenseCodes = some request.card
  available : cardIsAvailable request.now request.card = true
  unused : ∀ activation ∈ s.licenseActivations, activation.licenseCodeId ≠ request.card.id
  /-- The identifier of the new activation is a fresh one. -/
  fresh : ∀ activation ∈ s.licenseActivations, activation.activationId ≠ request.ids.activationId
  seconds : fitsInteger (creditedSeconds request.card) = true
  version : fitsInteger (row.revocationVersion + 1) = true
  time : 1 ≤ request.now ∧ fitsInteger request.now = true

/-- The pair of the current devices can take up a new credit: it is neither rotated nor revoked, and
    stands at the version of its entitlement. -/
def Resumable (s : SecuredDatabase) (row : EntitlementRow) (current : DeviceBindingRow) : Prop :=
  ∃ state ∈ s.pairs, state.pairId = row.pairId ∧ state.entitlementId = row.entitlementId ∧
    (state.bindingId = current.bindingId ∧ state.hostKeySha256 = current.hostKeySha256 ∧
      state.androidKeySha256 = current.androidKeySha256) ∧
    row.revocationVersion = state.revocationVersion ∧
    (state.assuranceState = .recoveryPending ∨ state.assuranceState = .active ∨
      state.assuranceState = .legacyBlocked)

section

variable {settings : DualMachineSettings} {prims : ServicePrimitives} {s t : Database}
  {row : EntitlementRow} {request : RefillRequest}

def refilled (request : RefillRequest) (row : EntitlementRow) : EntitlementRow :=
  reactivated (bindingFromChallenge request.challenge row.entitlementId request.ids.bindingId)
    request.card row

/-- Its devices, which stay the same. -/
def resumed (request : RefillRequest) (row : EntitlementRow) : DeviceBindingRow :=
  { bindingFromChallenge request.challenge row.entitlementId request.ids.bindingId with
    bindingId := request.current.bindingId }

theorem requireSameOrUnboundAndroidDevice_same {cur : DeviceBindingRow}
    {chal : ActivationChallengeRow} (bound : currentBinding s row.entitlementId = some cur)
    (hostKey : cur.hostKeySha256 = chal.hostKeySha256)
    (androidKey : cur.androidKeySha256 = chal.androidKeySha256)
    (profile : prims.deviceProfileFingerprint cur.androidDeviceProfileJson =
      prims.deviceProfileFingerprint chal.androidDeviceProfileJson) :
    (CardService.requireSameOrUnboundAndroidDevice prims row chal).run s = .ok ((), s) := by
  unfold CardService.requireSameOrUnboundAndroidDevice
  rw [get_ok, bound]
  rw [require_ok, require_ok, ← bind_pure (require _ _), require_ok]
  exact ⟨hostKey, .inr (.inr profile), .inl androidKey, rfl⟩

theorem Refill.sameDevices (h : Refill settings prims s row request) :
    (CardService.requireSameOrUnboundAndroidDevice prims row request.challenge).run s =
      .ok ((), s) :=
  requireSameOrUnboundAndroidDevice_same h.bound h.hostKey h.androidKey h.profile

theorem Refill.current_mem (h : Refill settings prims s row request) :
    request.current ∈ s.deviceBindings ∧ request.current.entitlementId = row.entitlementId :=
  currentBinding_owner h.bound

/-- A new card asks to reactivate the entitlement of its pair exactly if that is exhausted. -/
theorem newCardActivationTarget_iff {chal : ActivationChallengeRow}
    (htab : row ∈ s.entitlements) (dist : Distinct s.entitlements)
    (pair : chal.pairId = row.pairId)
    (same : (CardService.requireSameOrUnboundAndroidDevice prims row chal).run s = .ok ((), s)) :
    (CardService.newCardActivationTarget prims chal).run s =
      .ok ((.reactivate, row.entitlementId), s) ↔ row.status = .exhausted := by
  unfold CardService.newCardActivationTarget CardService.newCardTarget
    LicenseRepository.entitlementByPairId
  have found : (lookup EntitlementRow.pairId chal.pairId s.entitlements) = some row := by
    rw [pair]
    exact lookup_of_mem dist.pairs htab
  constructor
  · intro chosen
    obtain ⟨existing, _, reading, -⟩ := bind_ok.mp chosen
    obtain ⟨first, _, looking, reading⟩ := bind_ok.mp reading
    cases looking
    rw [found] at reading
    rw [require_ok] at reading
    exact reading.1.1
  · intro hexh
    have hc := s.entitlementChecks row htab
    have empty := hc.exhausted hexh
    have balance := hc.balance
    rw [empty, Nat.zero_add] at balance
    rw [bind_ok]
    refine ⟨some row, s, ?_, ?_⟩
    · rw [bind_ok]
      refine ⟨_, s, rfl, ?_⟩
      rw [found]
      rw [require_ok]
      exact ⟨⟨hexh, empty, balance.symm⟩, rfl⟩
    · rw [bind_ok]
      exact ⟨(), s, same, rfl⟩

theorem canReactivate_iff {entId pairId : Bytes} :
    canReactivate s entId pairId row = true ↔
      row.entitlementId = entId ∧ row.pairId = pairId ∧ row.status = .exhausted ∧
        row.remainingSeconds = 0 ∧ row.totalConsumedSeconds = row.totalCreditedSeconds ∧
        hasActiveSession s row.entitlementId = false := by
  simp only [canReactivate, Bool.and_eq_true, beq_iff_eq, decide_eq_true_eq, Bool.not_eq_true',
    and_assoc]

/-- An entitlement that is exhausted has used up its credit. -/
theorem canReactivate_of_exhausted (mem : row ∈ s.entitlements) (hexh : row.status = .exhausted)
    (idle : hasActiveSession s row.entitlementId = false) :
    canReactivate s row.entitlementId row.pairId row = true := by
  have hc := s.entitlementChecks row mem
  have empty := hc.exhausted hexh
  have balance := hc.balance
  rw [empty, Nat.zero_add] at balance
  exact canReactivate_iff.mpr ⟨rfl, rfl, hexh, empty, balance.symm, idle⟩

/-- The tables after a card was credited to an exhausted entitlement. -/
structure Refilled (s t : Database) (row : EntitlementRow) (request : RefillRequest) : Prop where
  entitlement : refilled request row ∈ t.entitlements
  /-- The devices are bound once more, and no others. -/
  bound : resumed request row ∈ t.deviceBindings
  only : ∀ binding ∈ t.deviceBindings, binding.entitlementId = row.entitlementId →
    binding.isCurrent = true → binding = resumed request row
  deviceBindings : t.deviceBindings.Nodup
  licenseCodes : t.licenseCodes = s.licenseCodes
  activationChallenges : t.activationChallenges = s.activationChallenges
  licenseActivations : t.licenseActivations = s.licenseActivations

variable (h : Refill settings prims s row request)

include h

/-- Binding the current devices again leaves them the only current ones. -/
theorem Refill.bindDevice (same : t.deviceBindings = s.deviceBindings) :
    ∃ bindings, (LicenseRepository.bindDevice (bindingFromChallenge request.challenge
        row.entitlementId request.ids.bindingId)).run t =
          .ok ((), { t with deviceBindings := bindings }) ∧
      resumed request row ∈ bindings ∧
      (∀ binding ∈ bindings, binding.entitlementId = row.entitlementId → binding.isCurrent = true →
        binding = resumed request row) ∧ bindings.Nodup := by
  obtain ⟨inBindings, owner⟩ := h.current_mem
  let binding := bindingFromChallenge request.challenge row.entitlementId request.ids.bindingId
  let cleared := update (fun other => other.entitlementId == row.entitlementId)
    (fun other => { other with isCurrent := false }) s.deviceBindings
  have isSame : LicenseRepository.sameDevices binding
      { request.current with isCurrent := false } = true := by
    simp [binding, LicenseRepository.sameDevices, bindingFromChallenge, owner, h.boundPair, h.pair,
      h.hostKey, h.androidKey]
  have inCleared : { request.current with isCurrent := false } ∈ cleared := by
    have mem := @mem_update_of_mem _ _ _ (fun other : DeviceBindingRow =>
      other.entitlementId == row.entitlementId)
      (fun other => { other with isCurrent := false }) inBindings
    rw [if_pos (by simp [owner])] at mem
    exact mem
  have again : cleared.any (LicenseRepository.sameDevices binding) = true :=
    List.any_eq_true.mpr ⟨_, inCleared, isSame⟩
  refine ⟨update (LicenseRepository.sameDevices binding)
    (fun other => { binding with bindingId := other.bindingId }) cleared, ?_, ?_, ?_, ?_⟩
  · unfold LicenseRepository.bindDevice
    rw [get_ok, same]
    change StateT.run (if cleared.any (LicenseRepository.sameDevices binding) = true then _ else _)
      t = _
    rw [if_pos again]
    rfl
  · have mem := @mem_update_of_mem _ _ _ (LicenseRepository.sameDevices binding)
      (fun other => { binding with bindingId := other.bindingId }) inCleared
    rw [if_pos isSame] at mem
    exact mem
  · intro other mem isOwner isCurrent
    cases mem_update mem with
    | inl kept =>
      cases mem_update kept.1 with
      | inl untouched => simp [isOwner] at untouched
      | inr settled =>
        obtain ⟨old, -, -, isOld⟩ := settled
        rw [isOld] at isCurrent
        cases isCurrent
    | inr replaced =>
      obtain ⟨old, inOld, sel, isOld⟩ := replaced
      subst isOld
      have src : ∃ first ∈ s.deviceBindings, LicenseRepository.sameDevices binding first = true ∧
          first.bindingId = old.bindingId := by
        cases mem_update inOld with
        | inl untouched => exact ⟨old, untouched.1, sel, rfl⟩
        | inr settled =>
          obtain ⟨first, inFirst, -, isFirst⟩ := settled
          subst isFirst
          exact ⟨first, inFirst, sel, rfl⟩
      obtain ⟨first, inFirst, isFirst, sameId⟩ := src
      have isBound : first = request.current := by
        apply List.inj_on_of_nodup_map h.keyed.deviceBindings inFirst inBindings
        simp only [LicenseRepository.sameDevices, Bool.and_eq_true, beq_iff_eq] at isFirst isSame
        simp only [isFirst, ← isSame]
      rw [← sameId, isBound]
      rfl
  · apply List.Nodup.of_map (fun other : DeviceBindingRow =>
      (other.entitlementId, other.pairId, other.hostKeySha256, other.androidKeySha256))
    rw [map_update, map_update]
    · exact h.keyed.deviceBindings
    · intro other _ _
      rfl
    · intro other _ sel
      simp only [LicenseRepository.sameDevices, Bool.and_eq_true, beq_iff_eq] at sel
      simp [sel]

theorem Refill.writeEntitlements (htab : row ∈ s.entitlements)
    (dist : Distinct s.entitlements) (pairId : Bytes) :
    ∃ t, (LicenseRepository.writeEntitlements (update
      (canReactivate s row.entitlementId pairId)
      (reactivated (bindingFromChallenge request.challenge row.entitlementId request.ids.bindingId)
        request.card) s.entitlements)).run s = .ok ((), t) := by
  apply writeEntitlements_succeeds
  · constructor
    · rw [map_update]
      · exact dist.pairs
      · intro other _ _
        rfl
    · rw [map_update]
      · exact dist.hashes
      · intro other _ _
        rfl
  · intro other mem
    cases mem_update mem with
    | inl kept => exact s.entitlementChecks other kept.1
    | inr replaced =>
      obtain ⟨old, inOld, sel, isOld⟩ := replaced
      have isRow := entitlement_unique htab inOld (canReactivate_iff.mp sel).1
      subst isOld isRow
      have hc := s.entitlementChecks old inOld
      exact ⟨hc.protocolVersion, Nat.succ_pos _, rfl, nofun, h.seconds, h.version⟩
  · rw [map_update]
    · exact s.entitlementKeys
    · intro other _ _
      rfl

theorem Refill.reactivateExhaustedEntitlement (htab : row ∈ s.entitlements)
    (dist : Distinct s.entitlements)
    (can : canReactivate s row.entitlementId row.pairId row = true) :
    ∃ t, (LicenseRepository.reactivateExhaustedEntitlement row.entitlementId
      (bindingFromChallenge request.challenge row.entitlementId request.ids.bindingId)
      request.card).run s = .ok (true, t) ∧ Refilled s t row request := by
  obtain ⟨u, writing⟩ := h.writeEntitlements htab dist request.challenge.pairId
  obtain ⟨checks, keys, isWritten⟩ := writeEntitlements_eq_ok writing
  have bindings : u.deviceBindings = s.deviceBindings := by rw [isWritten]
  obtain ⟨bindings, binds, bound, only, nodup⟩ := h.bindDevice bindings
  rw [← h.pair] at can
  have counted : rowcount (canReactivate s row.entitlementId request.challenge.pairId)
      s.entitlements = 1 := by
    refine countP_eq_one (List.Nodup.of_map _ s.entitlementKeys) htab can ?_
    intro other inOthers sel
    exact entitlement_unique htab inOthers (canReactivate_iff.mp sel).1
  refine ⟨{ u with deviceBindings := bindings }, ?_, ?_⟩
  · unfold LicenseRepository.reactivateExhaustedEntitlement
    rw [get_ok, bind_ok]
    refine ⟨(), u, writing, ?_⟩
    change StateT.run (if rowcount (canReactivate s row.entitlementId request.challenge.pairId)
      s.entitlements ≠ 1 then _ else _) u = _
    rw [if_neg (by simp [counted]), bind_ok]
    exact ⟨(), _, binds, rfl⟩
  · subst isWritten
    refine ⟨?_, bound, only, nodup, rfl, rfl, rfl⟩
    have mem := @mem_update_of_mem _ _ _
      (canReactivate s row.entitlementId request.challenge.pairId)
      (reactivated (bindingFromChallenge request.challenge row.entitlementId request.ids.bindingId)
        request.card) htab
    rw [if_pos can] at mem
    exact mem

theorem Refill.entitlementByPairId (htab : row ∈ s.entitlements)
    (dist : Distinct s.entitlements) :
    (lookup EntitlementRow.pairId request.challenge.pairId s.entitlements).filter
      (fun other => other.entitlementId == request.challenge.targetEntitlementId) = some row := by
  rw [h.pair, lookup_of_mem dist.pairs htab]
  simp [h.target]

/-- An entitlement that can be reactivated is credited with the card. -/
theorem Refill.creditCard (htab : row ∈ s.entitlements) (dist : Distinct s.entitlements)
    (can : canReactivate s row.entitlementId row.pairId row = true) :
    ∃ t, (creditCard prims request.challenge request.ids request.now).run s =
      .ok ((request.card, row.entitlementId), t) ∧ Refilled s t row request := by
  obtain ⟨t, reactivating, refills⟩ := h.reactivateExhaustedEntitlement htab dist can
  refine ⟨t, ?_, refills⟩
  have crediting : (CardService.creditEntitlement prims request.challenge request.card
      request.ids).run s = .ok (row.entitlementId, t) := by
    unfold CardService.creditEntitlement
    rw [bind_ok]
    refine ⟨_, s, rfl, ?_⟩
    rw [if_pos h.reactivates, h.entitlementByPairId htab dist, unwrap_ok]
    refine ⟨row, rfl, ?_⟩
    rw [bind_ok]
    refine ⟨(), s, h.sameDevices, ?_⟩
    rw [h.target, bind_ok]
    refine ⟨true, t, reactivating, ?_⟩
    rw [require_ok]
    exact ⟨rfl, rfl⟩
  unfold PairSecurity.creditCard
  rw [bind_ok]
  refine ⟨_, s, rfl, ?_⟩
  rw [h.card, Option.filter_some_pos h.available, unwrap_ok]
  refine ⟨request.card, rfl, ?_⟩
  rw [bind_ok]
  exact ⟨_, t, recast_eq_ok.mpr crediting, rfl⟩

theorem Refill.creditCard_eq_ok (htab : row ∈ s.entitlements)
    {res : LicenseCodeRow × Bytes}
    (ran : (PairSecurity.creditCard prims request.challenge request.ids request.now).run s =
      .ok (res, t)) : canReactivate s row.entitlementId row.pairId row = true := by
  obtain ⟨-, -, -, reactivating⟩ | ⟨first, -⟩ :=
    creditEntitlement_cases (PairSecurity.creditCard_eq_ok ran).2.2
  · rw [h.target] at reactivating
    obtain ⟨⟨other, inOthers, sel⟩, -⟩ := reactivateExhaustedEntitlement_eq_ok reactivating
    rw [entitlement_unique htab inOthers (canReactivate_iff.mp sel).1] at sel
    rw [← h.pair]
    exact sel
  · exact absurd h.reactivates first

theorem Refill.valid : payloadValid request.challenge request.command.challengeToken = true := by
  have checked := h.checked
  replace checked := read_ok checked rfl
  obtain ⟨chal, -, checked⟩ := unwrap_ok.mp checked
  obtain ⟨payload, isPayload, checked⟩ := unwrap_ok.mp checked
  rw [require_ok] at checked
  cases checked.2
  unfold activationConfirmationPayload at isPayload
  by_contra invalid
  rw [if_pos (by simpa using invalid)] at isPayload
  cases isPayload

theorem Refill.entitlementId : isNonzeroLowerHex row.entitlementId 32 = true := by
  have valid := h.valid
  simp only [payloadValid, h.reactivates, h.target, Bool.and_eq_true] at valid
  exact valid.1.1.1.1.1.1

omit h

/-- What the two devices proved. -/
def refillProof (challenge : ActivationChallengeRow) : VerifiedActivationBindingProof where
  challengeId := challenge.challengeId
  activationMode := challenge.activationMode
  targetEntitlementId := challenge.targetEntitlementId
  pairId := challenge.pairId
  hostKeySha256 := challenge.hostKeySha256
  androidKeySha256 := challenge.androidKeySha256

theorem Refill.verifiedActivationBindingProof {secured : SecuredDatabase}
    (h : Refill settings prims s row request) :
    (PairSecurity.verifiedActivationBindingProof request.challenge).run secured =
      .ok (refillProof request.challenge, secured) := by
  have valid := h.valid
  simp only [payloadValid, h.reactivates, h.target, Bool.and_eq_true, List.all_cons, List.all_nil,
    and_true] at valid
  obtain ⟨⟨⟨⟨⟨⟨target, -⟩, -, pairId, challengeId⟩, hostKey, androidKey⟩, -⟩, -⟩, -⟩ := valid
  unfold PairSecurity.verifiedActivationBindingProof
  rw [require_ok]
  refine ⟨⟨challengeId, pairId, hostKey, androidKey, h.devices, ?_, ?_⟩, rfl⟩
  · intro activates
    rw [h.reactivates] at activates
    cases activates
  · intro _
    rw [h.target]
    exact target

end

section

variable {s t : SecuredDatabase} {now : Nat}

variable {state : PairSecurityRow}

theorem requiredState_succeeds (mem : state ∈ s.pairs) :
    (requiredState state.pairId).run s = .ok (state, s) := by
  unfold requiredState stateRow
  rw [bind_ok]
  refine ⟨_, s, rfl, ?_⟩
  rw [lookup_of_mem s.pairKeys mem]
  rfl

theorem checks_later (hc : state.Checks) (target : AssuranceState) {version : Nat}
    (pos : 1 ≤ version) (fits : fitsInteger version = true) (time : fitsInteger now = true) :
    { state with
      assuranceState := target
      revocationVersion := version
      updatedAtEpoch := max now state.updatedAtEpoch }.Checks := by
  obtain ⟨revision, -, gen, created, updated⟩ := hc.integers
  refine ⟨hc.pairId, ⟨hc.revisions.1, pos⟩, hc.hashes, hc.predecessor, revision,
    fits, gen, created, ?_⟩
  simp only [fitsInteger, decide_eq_true_eq] at time updated ⊢
  exact max_lt time updated

/-- One row is rewritten, as the triggers let it, and read back. -/
theorem updatePairs_one {cond : PairSecurityRow → Bool}
    {change : PairSecurityRow → PairSecurityRow} {state : PairSecurityRow} (mem : state ∈ s.pairs)
    (holds : cond state = true) (only : ∀ row, cond row = true → row.pairId = state.pairId)
    (ok : updateAccepted state (change state) = true) (hc : (change state).Checks) :
    ∃ t, (updatePairs cond change).run s = .ok (1, t) ∧ change state ∈ t.pairs := by
  have isState : ∀ row ∈ s.pairs, cond row = true → row = state :=
    fun row hrow sel => pair_unique mem hrow (only row sel)
  obtain ⟨t, updated⟩ := @updatePairs_succeeds s cond change
    (fun row hrow sel => by rw [isState row hrow sel]; exact ok)
    (fun row hrow sel => by rw [isState row hrow sel]; exact hc)
  have one : rowcount cond s.pairs = 1 :=
    countP_eq_one (List.Nodup.of_map _ s.pairKeys) mem holds isState
  rw [one] at updated
  refine ⟨t, updated, ?_⟩
  rw [(updatePairs_eq_ok updated).2.1]
  have htab := @mem_update_of_mem _ _ _ cond change mem
  rw [if_pos holds] at htab
  exact htab

theorem transitionState_succeeds {target : AssuranceState} (mem : state ∈ s.pairs)
    (valid : transitionValid state.assuranceState target = true) (time : fitsInteger now = true) :
    ∃ t, (transitionState state target now).run s = .ok (moved state target now, t) ∧
      moved state target now ∈ t.pairs := by
  have hc := s.pairChecks state mem
  obtain ⟨t, updated, htab⟩ := @updatePairs_one s (asRead state) (fun row =>
      { row with assuranceState := target, updatedAtEpoch := max now state.updatedAtEpoch })
    state mem (asRead_self state)
    (fun row sel => by
      simp only [asRead, Bool.and_eq_true, beq_iff_eq] at sel
      exact sel.1.1.1.1)
    (by simp [updateAccepted, identityKept, notRolledBack, valid])
    (checks_later hc target hc.revisions.2 hc.integers.2.1 time)
  refine ⟨t, ?_, htab⟩
  unfold transitionState
  rw [bind_ok]
  refine ⟨1, t, updated, ?_⟩
  rw [require_ok]
  exact ⟨rfl, requiredState_succeeds htab⟩

/-- States from which a pair is taken up again. -/
theorem transitionToRecovery_succeeds (mem : state ∈ s.pairs)
    (resumable : state.assuranceState = .recoveryPending ∨ state.assuranceState = .active ∨
      state.assuranceState = .legacyBlocked) (time : fitsInteger now = true) :
    ∃ recovery t, (transitionToRecovery state now).run s = .ok (recovery, t) ∧
      recovery ∈ t.pairs ∧ recovery.assuranceState = .recoveryPending ∧
      recovery.revocationVersion = state.revocationVersion ∧ recovery.pairId = state.pairId := by
  unfold transitionToRecovery
  cases resumable with
  | inl suspended =>
    rw [if_pos suspended]
    exact ⟨state, s, rfl, mem, suspended, rfl, rfl⟩
  | inr bound =>
    have other : state.assuranceState ≠ .recoveryPending := by
      cases bound with
      | inl hact => simp [hact]
      | inr blocked => simp [blocked]
    have valid : transitionValid state.assuranceState .recoveryPending = true := by
      cases bound with
      | inl hact => simp [hact, transitionValid]
      | inr blocked => simp [blocked, transitionValid]
    obtain ⟨t, moving, htab⟩ := transitionState_succeeds mem valid time
    rw [if_neg other]
    refine ⟨moved state .recoveryPending now, t, ?_, htab, rfl, rfl, rfl⟩
    rw [require_ok]
    exact ⟨bound, moving⟩

/-- A pair is reactivated exactly when it is the pair of the live devices, stands one version behind
    their entitlement and is neither rotated nor revoked. -/
theorem commitReactivation_succeeds_iff {cur : Option PairSecurityRow} {live : LiveBinding}
    (htab : ∀ state, cur = some state → state ∈ s.pairs)
    (version : fitsInteger live.entitlement.revocationVersion = true)
    (time : fitsInteger now = true) :
    (∃ row t, (commitReactivation cur live now).run s = .ok (row, t)) ↔
      ∃ state, cur = some state ∧ (state.bindingId = live.binding.bindingId ∧
        state.hostKeySha256 = live.binding.hostKeySha256 ∧
        state.androidKeySha256 = live.binding.androidKeySha256) ∧
        live.entitlement.revocationVersion = state.revocationVersion + 1 ∧
        (state.assuranceState = .recoveryPending ∨ state.assuranceState = .active ∨
          state.assuranceState = .legacyBlocked) := by
  unfold commitReactivation
  constructor
  · rintro ⟨row, t, ran⟩
    obtain ⟨state, isState, ran⟩ := unwrap_ok.mp ran
    rw [require_ok, require_ok, bind_ok] at ran
    obtain ⟨devices, behind, recovery, u, suspending, -⟩ := ran
    refine ⟨state, isState, devices, behind, ?_⟩
    unfold transitionToRecovery at suspending
    split at suspending
    · rename_i suspended
      exact .inl suspended
    · rw [require_ok] at suspending
      exact .inr suspending.1
  · rintro ⟨state, isState, devices, behind, resumable⟩
    have mem := htab state isState
    obtain ⟨recovery, u, suspending, hrow, suspended, sameVersion, samePair⟩ :=
      transitionToRecovery_succeeds mem resumable time
    rw [← sameVersion] at behind
    have hc := u.pairChecks recovery hrow
    have room : recovery.revocationVersion < 2 ^ 63 - 1 := by
      simp only [behind, fitsInteger, decide_eq_true_eq] at version
      omega
    obtain ⟨t, updated, inTable'⟩ := @updatePairs_one u (fun row =>
        row.pairId == recovery.pairId && decide (row.assuranceState = .recoveryPending) &&
          row.revocationVersion == recovery.revocationVersion &&
          row.generationHighWater == recovery.generationHighWater)
      (fun row => { row with
        assuranceState := .active
        revocationVersion := live.entitlement.revocationVersion
        updatedAtEpoch := max now recovery.updatedAtEpoch })
      recovery hrow (by simp [suspended])
      (fun row sel => by
        simp only [Bool.and_eq_true, beq_iff_eq] at sel
        exact sel.1.1.1)
      (by
        simp only [updateAccepted, identityKept, notRolledBack, transitionValid, suspended, behind,
          decide_eq_true room]
        simp)
      (checks_later hc .active (by omega) version time)
    refine ⟨{ recovery with
      assuranceState := .active
      revocationVersion := live.entitlement.revocationVersion
      updatedAtEpoch := max now recovery.updatedAtEpoch }, t, ?_⟩
    rw [unwrap_ok]
    refine ⟨state, isState, ?_⟩
    rw [require_ok, require_ok, bind_ok]
    refine ⟨devices, by rw [behind, sameVersion], recovery, u, suspending, ?_⟩
    rw [bind_ok]
    refine ⟨1, t, updated, ?_⟩
    rw [require_ok]
    exact ⟨rfl, requiredState_succeeds inTable'⟩

theorem liveBinding_succeeds {entId : Bytes} {live : LiveBinding}
    (isLive : IsLive s.tables entId live) (dist : s.tables.deviceBindings.Nodup) :
    (liveBinding entId).run s = .ok (live, s) := by
  have rows : s.tables.entitlements.filter (fun row => row.entitlementId == entId) =
      [live.entitlement] := by
    refine filter_eq_singleton (List.Nodup.of_map _ s.tables.entitlementKeys) isLive.entitlement
      (by simp [isLive.owner]) ?_
    intro other htab sel
    exact entitlement_unique isLive.entitlement htab (by simpa [isLive.owner] using sel)
  have bindings : s.tables.deviceBindings.filter (fun binding =>
      binding.entitlementId == entId && binding.isCurrent) = [live.binding] := by
    refine filter_eq_singleton dist isLive.binding (by simp [isLive.bound, isLive.current]) ?_
    intro other htab sel
    simp only [Bool.and_eq_true, beq_iff_eq] at sel
    exact isLive.only other htab sel.1 sel.2
  have alone : liveBindings s.tables entId = [live] := by
    unfold liveBindings
    rw [rows, bindings]
    rfl
  unfold liveBinding
  rw [get_ok, alone]
  rw [require_ok]
  exact ⟨isLive.active, rfl⟩

theorem find?_entitlementStates {entId pairId : Bytes} :
    (entitlementStates s entId).find? (fun state => state.pairId == pairId) = some state ↔
      state ∈ s.pairs ∧ state.entitlementId = entId ∧ state.pairId = pairId := by
  constructor
  · intro isFound
    obtain ⟨member, owner⟩ := mem_entitlementStates.mp (List.mem_of_find?_eq_some isFound)
    exact ⟨member, owner, by simpa using List.find?_some isFound⟩
  · rintro ⟨member, owner, isPair⟩
    have inStates := mem_entitlementStates.mpr ⟨member, owner⟩
    cases isFound : (entitlementStates s entId).find? (fun state => state.pairId == pairId) with
    | none =>
      have other := List.find?_eq_none.mp isFound state inStates
      simp [isPair] at other
    | some found =>
      obtain ⟨inTable, -⟩ := mem_entitlementStates.mp (List.mem_of_find?_eq_some isFound)
      have same : found.pairId = pairId := by simpa using List.find?_some isFound
      rw [pair_unique member inTable (same.trans isPair.symm)]

variable {settings : DualMachineSettings} {prims : ServicePrimitives} {before : Database}
  {row : EntitlementRow} {request : RefillRequest}

/-- After the credit, the pair is secured exactly when it could be taken up again. -/
theorem Refill.commitVerifiedBinding_iff (h : Refill settings prims before row request)
    (refills : Refilled before s.tables row request) :
    (∃ state t, (commitVerifiedBinding (refillProof request.challenge) row.entitlementId
      request.now).run s = .ok (state, t)) ↔ Resumable s row request.current := by
  have isLive : IsLive s.tables row.entitlementId ⟨refilled request row, resumed request row⟩ :=
    ⟨refills.entitlement, rfl, rfl, refills.bound, rfl, rfl, refills.only⟩
  have reads := liveBinding_succeeds isLive refills.deviceBindings
  have matching : (requireProofMatchesLiveBinding ⟨refilled request row, resumed request row⟩
      (refillProof request.challenge)).run s = .ok ((), s) := by
    unfold requireProofMatchesLiveBinding
    rw [← bind_pure (require _ _), require_ok]
    exact ⟨⟨h.pair.symm, rfl, rfl, rfl⟩, rfl⟩
  generalize isFound : (entitlementStates s row.entitlementId).find? (fun state =>
    state.pairId == (refillProof request.challenge).pairId) = found
  have again : (refillProof request.challenge).activationMode = .reactivate := h.reactivates
  have reactivation (state : PairSecurityRow) (t : SecuredDatabase) :
      (commitVerifiedBinding (refillProof request.challenge) row.entitlementId
        request.now).run s = .ok (state, t) ↔
      (commitReactivation found ⟨refilled request row, resumed request row⟩ request.now).run s =
        .ok (state, t) := by
    unfold commitVerifiedBinding
    rw [require_ok, require_ok]
    constructor
    · rintro ⟨-, -, ran⟩
      obtain ⟨live, u, reading, ran⟩ := bind_ok.mp ran
      rw [reads] at reading
      cases reading
      obtain ⟨⟨⟩, v, checking, ran⟩ := bind_ok.mp ran
      rw [matching] at checking
      cases checking
      rw [get_ok] at ran
      dsimp only at ran
      rw [isFound, if_pos again] at ran
      exact ran
    · intro ran
      refine ⟨⟨h.entitlementId, h.time⟩, .inr h.target, ?_⟩
      rw [bind_ok]
      refine ⟨_, s, reads, ?_⟩
      rw [bind_ok]
      refine ⟨(), s, matching, ?_⟩
      rw [get_ok]
      dsimp only
      rw [isFound, if_pos again]
      exact ran
  simp only [reactivation]
  rw [commitReactivation_succeeds_iff _ h.version h.time.2]
  · subst isFound
    simp only [find?_entitlementStates, Resumable]
    constructor
    · rintro ⟨state, ⟨mem, owner, isPair⟩, ⟨bindingId, hostKey, androidKey⟩, behind, resumable⟩
      exact ⟨state, mem, isPair.trans h.pair, owner, ⟨bindingId, hostKey.trans h.hostKey.symm,
        androidKey.trans h.androidKey.symm⟩, Nat.succ.inj behind, resumable⟩
    · rintro ⟨state, mem, isPair, owner, ⟨bindingId, hostKey, androidKey⟩, behind, resumable⟩
      exact ⟨state, ⟨mem, owner, isPair.trans h.pair.symm⟩, ⟨bindingId, hostKey.trans h.hostKey,
        androidKey.trans h.androidKey⟩, congrArg Nat.succ behind, resumable⟩
  · intro state isState
    rw [← isFound] at isState
    exact (find?_entitlementStates.mp isState).1

end

section

variable {settings : DualMachineSettings} {prims : ServicePrimitives} {s t : Database}
  {row : EntitlementRow} {request : RefillRequest}

def Recorded (database : Database) : Prop := ∀ activation ∈ database.licenseActivations,
  ∃ challenge, challengeIn database activation.challengeId = some challenge ∧
    challenge.status = .consumed

theorem Refill.challengeIn (h : Refill settings prims s row request) :
    LicenseRepository.challengeIn s request.challenge.challengeId = some request.challenge ∧
      request.now < request.challenge.expiresAtEpoch := by
  obtain ⟨-, found, open'⟩ := confirmActivationChecks_eq_ok h.checked
  have key : request.challenge.challengeId = request.command.challengeId := (lookup_key found).2
  refine ⟨by rw [key]; exact found, ?_⟩
  cases open' with
  | inl used =>
    rw [h.issued] at used
    cases used
  | inr issued => exact issued.2

def refillActivation (request : RefillRequest) (row : EntitlementRow) : LicenseActivationRow where
  activationId := request.ids.activationId
  licenseCodeId := request.card.id
  entitlementId := row.entitlementId
  challengeId := request.challenge.challengeId
  creditedSeconds := creditedSeconds request.card

def refillResponse (request : RefillRequest) (row : EntitlementRow) : ActivationResponse :=
  CardService.activationResponse (refillActivation request row) (refilled request row) .reactivate

theorem Refill.consumeCode (h : Refill settings prims s row request)
    (same : t.licenseCodes = s.licenseCodes) :
    ∃ cards, (LicenseRepository.consumeCode request.card.id request.now).run t =
      .ok (true, { t with licenseCodes := cards }) := by
  have mem : request.card ∈ t.licenseCodes := by
    rw [same]
    exact (lookup_key h.card).1
  have keys := h.keyed.licenseCodes
  rw [← same] at keys
  have counted : rowcount (canConsumeCode request.card.id request.now) t.licenseCodes = 1 := by
    refine countP_eq_one (List.Nodup.of_map _ keys) mem ?_ ?_
    · have available := h.available
      simp only [cardIsAvailable, Bool.and_eq_true] at available
      simp [canConsumeCode, available]
    · intro other inCodes sel
      simp only [canConsumeCode, Bool.and_eq_true, beq_iff_eq] at sel
      exact List.inj_on_of_nodup_map keys inCodes mem sel.1.1
  let cards := update (canConsumeCode request.card.id request.now)
    (fun card => { card with status := .activated }) t.licenseCodes
  refine ⟨cards, ?_⟩
  have ans : (true, { t with licenseCodes := cards }) =
      (rowcount (canConsumeCode request.card.id request.now) t.licenseCodes == 1,
        { t with licenseCodes := cards }) := by
    rw [counted]
    rfl
  rw [ans]
  rfl

theorem Refill.consumeChallenge (h : Refill settings prims s row request)
    (same : t.activationChallenges = s.activationChallenges) :
    ∃ challenges, (LicenseRepository.consumeChallenge request.challenge.challengeId
      request.now).run t = .ok (true, { t with activationChallenges := challenges }) := by
  obtain ⟨found, early⟩ := h.challengeIn
  have mem : request.challenge ∈ t.activationChallenges := by
    rw [same]
    exact (lookup_key found).1
  have keys := h.keyed.activationChallenges
  rw [← same] at keys
  have counted : rowcount (canConsumeChallenge request.challenge.challengeId request.now)
      t.activationChallenges = 1 := by
    refine countP_eq_one (List.Nodup.of_map _ keys) mem ?_ ?_
    · simp [canConsumeChallenge, h.issued, early]
    · intro other inChallenges sel
      simp only [canConsumeChallenge, Bool.and_eq_true, beq_iff_eq] at sel
      exact List.inj_on_of_nodup_map keys inChallenges mem sel.1.1
  let challenges := update (canConsumeChallenge request.challenge.challengeId request.now)
    (fun row => { row with status := .consumed }) t.activationChallenges
  refine ⟨challenges, ?_⟩
  have ans : (true, { t with activationChallenges := challenges }) =
      (rowcount (canConsumeChallenge request.challenge.challengeId request.now)
        t.activationChallenges == 1, { t with activationChallenges := challenges }) := by
    rw [counted]
    rfl
  rw [ans]
  rfl

theorem Refill.recordCredit (h : Refill settings prims s row request) (recorded : Recorded s)
    (refills : Refilled s t row request) :
    ∃ u, (PairSecurity.recordCredit request.challenge request.ids request.now request.card
      row.entitlementId).run t = .ok (refillResponse request row, u) ∧
        refilled request row ∈ u.entitlements := by
  obtain ⟨cards, spending⟩ := h.consumeCode refills.licenseCodes
  obtain ⟨challenges, consuming⟩ := @Refill.consumeChallenge _ _ _ { t with licenseCodes := cards } _ _
    h refills.activationChallenges
  have apart : ∀ other ∈ t.licenseActivations,
      other.challengeId ≠ request.challenge.challengeId := by
    intro other mem same
    rw [refills.licenseActivations] at mem
    obtain ⟨chal, found, used⟩ := recorded other mem
    rw [same, h.challengeIn.1] at found
    cases found
    rw [h.issued] at used
    cases used
  let u : Database := { t with
    licenseCodes := cards
    activationChallenges := challenges
    licenseActivations := t.licenseActivations ++ [refillActivation request row] }
  refine ⟨u, ?_, refills.entitlement⟩
  unfold PairSecurity.recordCredit
  rw [bind_ok]
  refine ⟨true, _, spending, ?_⟩
  rw [require_ok, bind_ok]
  refine ⟨rfl, true, _, consuming, ?_⟩
  rw [require_ok, bind_ok]
  refine ⟨rfl, (), u, ?_, ?_⟩
  · unfold createActivation
    rw [get_ok, require_ok]
    refine ⟨List.all_eq_true.mpr ?_, rfl⟩
    intro other mem
    have isOther := apart other mem
    replace mem : other ∈ t.licenseActivations := mem
    rw [refills.licenseActivations] at mem
    simp [h.fresh other mem, h.unused other mem, isOther]
  · have ans : (activationByChallenge request.challenge.challengeId).run u =
        .ok (some (refillActivation request row, refilled request row), u) := by
      have none : t.licenseActivations.find? (fun row =>
          row.challengeId == request.challenge.challengeId) = none := by
        rw [List.find?_eq_none]
        intro other mem
        simpa using apart other mem
      have isLast : u.licenseActivations.find? (fun row =>
          row.challengeId == request.challenge.challengeId) = some (refillActivation request row) := by
        rw [List.find?_append, none]
        simp [refillActivation]
      unfold activationByChallenge activationWhere
      rw [get_ok, isLast, Option.bind_some]
      have found : lookup EntitlementRow.entitlementId row.entitlementId u.entitlements =
        some (refilled request row) := lookup_of_mem t.entitlementKeys refills.entitlement
      change StateT.run (pure ((lookup EntitlementRow.entitlementId row.entitlementId
        u.entitlements).map _)) u = _
      rw [found]
      rfl
    rw [bind_ok]
    refine ⟨_, u, ans, ?_⟩
    rw [unwrap_ok]
    refine ⟨_, rfl, ?_⟩
    rw [h.reactivates]
    rfl

end

section

variable {settings : DualMachineSettings} {prims : ServicePrimitives} {s t : SecuredDatabase}
  {row : EntitlementRow} {request : RefillRequest} {resp : ActivationResponse}

/-- An entitlement is refilled exactly in such a state. -/
structure Refillable (s : SecuredDatabase) (row : EntitlementRow) (current : DeviceBindingRow) :
    Prop where
  exhausted : row.status = .exhausted
  idle : hasActiveSession s.tables row.entitlementId = false
  resumable : Resumable s row current

theorem Refill.verifyConfirmation (h : Refill settings prims s.tables row request)
    (pairs : SecuredDatabase) (same : pairs.tables = s.tables) :
    (PairSecurity.verifyConfirmation settings prims request.command request.now).run pairs =
      .ok ((request.challenge, refillProof request.challenge), pairs) := by
  unfold PairSecurity.verifyConfirmation
  rw [onTables_bind]
  refine ⟨request.challenge, pairs.tables, ?_, ?_⟩
  · rw [same]
    exact h.checked
  · rw [bind_ok]
    exact ⟨_, pairs, h.verifiedActivationBindingProof, rfl⟩

theorem Refill.confirmActivation_eq (h : Refill settings prims s.tables row request) :
    (PairSecurity.confirmActivation settings prims s.tables request.command request.ids
        request.now).run s = .ok (resp, t) ↔
      (PairSecurity.confirmCredit prims request.challenge (refillProof request.challenge)
        request.ids request.now).run s = .ok (resp, t) := by
  have unconsumed : ¬request.challenge.status = .consumed := by simp [h.issued]
  have credits : ¬request.challenge.activationMode = .bindDevice := by simp [h.reactivates]
  unfold PairSecurity.confirmActivation
  rw [reading_ok]
  unfold PairSecurity.confirmActivationTransaction
  constructor
  · rintro ⟨-, -, -, ran⟩
    obtain ⟨checked, u, verifying, ran⟩ := bind_ok.mp ran
    rw [h.verifyConfirmation s rfl] at verifying
    cases verifying
    dsimp only at ran
    rw [if_neg unconsumed, if_neg credits] at ran
    exact ran
  · intro ran
    refine ⟨_, _, h.verifyConfirmation { tables := s.tables } rfl, ?_⟩
    rw [bind_ok]
    refine ⟨_, s, h.verifyConfirmation s rfl, ?_⟩
    dsimp only
    rw [if_neg unconsumed, if_neg credits]
    exact ran

theorem Refill.confirmCredit_eq_ok (inv : Secured s) (recorded : Recorded s.tables)
    (htab : row ∈ s.tables.entitlements) (h : Refill settings prims s.tables row request)
    (ran : (PairSecurity.confirmCredit prims request.challenge (refillProof request.challenge)
      request.ids request.now).run s = .ok (resp, t)) :
    Refillable s row request.current ∧ resp = refillResponse request row ∧
      refilled request row ∈ t.tables.entitlements := by
  obtain ⟨result, tables, crediting, ran⟩ := onTables_bind.mp ran
  have can := h.creditCard_eq_ok htab crediting
  obtain ⟨-, -, hexh, -, -, idle⟩ := canReactivate_iff.mp can
  obtain ⟨tables', credited, refills⟩ := h.creditCard htab inv.distinct can
  rw [credited] at crediting
  cases crediting
  obtain ⟨state, u, securing, recording⟩ := bind_ok.mp ran
  have resumable := (@Refill.commitVerifiedBinding_iff { s with tables := tables } _ _ _ _ _ h
    refills).mp ⟨state, u, securing⟩
  obtain ⟨live, -, -, -, activates⟩ := commitVerifiedBinding_activates
    (s := { s with tables := tables }) (inv.newestFirst row.entitlementId)
    (fun other => absurd h.reactivates other) securing
  obtain ⟨tables'', recording, isLast⟩ := onTables_eq_ok.mp recording
  have kept : u.tables = tables := activates.tables
  rw [kept] at recording
  obtain ⟨v, recorded, mem⟩ := h.recordCredit recorded refills
  rw [recorded] at recording
  cases recording
  subst isLast
  exact ⟨⟨hexh, idle, resumable⟩, rfl, mem⟩

theorem Refill.confirmCredit_succeeds (inv : Secured s) (recorded : Recorded s.tables)
    (htab : row ∈ s.tables.entitlements) (h : Refill settings prims s.tables row request)
    (refillable : Refillable s row request.current) :
    ∃ t, (PairSecurity.confirmCredit prims request.challenge (refillProof request.challenge)
      request.ids request.now).run s = .ok (refillResponse request row, t) := by
  have can := canReactivate_of_exhausted htab refillable.exhausted refillable.idle
  obtain ⟨tables, credited, refills⟩ := h.creditCard htab inv.distinct can
  obtain ⟨state, u, securing⟩ := (@Refill.commitVerifiedBinding_iff { s with tables := tables } _ _ _
    _ _ h refills).mpr refillable.resumable
  obtain ⟨live, -, -, -, activates⟩ := commitVerifiedBinding_activates
    (s := { s with tables := tables }) (inv.newestFirst row.entitlementId)
    (fun other => absurd h.reactivates other) securing
  have kept : u.tables = tables := activates.tables
  obtain ⟨v, recorded, -⟩ := h.recordCredit recorded refills
  refine ⟨{ u with tables := v }, ?_⟩
  unfold PairSecurity.confirmCredit
  rw [onTables_bind]
  refine ⟨_, tables, credited, ?_⟩
  rw [bind_ok]
  refine ⟨state, u, securing, onTables_eq_ok.mpr ⟨v, ?_, rfl⟩⟩
  rw [kept]
  exact recorded

end

end VisionForge.PairSecurity
