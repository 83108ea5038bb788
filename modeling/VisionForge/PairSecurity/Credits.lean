import VisionForge.PairSecurity.Runs

/-! # What cards are credited to

Only a confirmed challenge credits a card, to one entitlement, and it records the credit in
an activation of its own. Activations stay, and no two are of one card, so that no card is
credited twice. A challenge that was answered is answered again from its activation.
-/

namespace VisionForge.PairSecurity

open Lib.Ascii Lib.Run Lib.Table Lib.Transaction Server LicenseRepository UsageRepository

structure Credit where
  entitlementId : Bytes
  totalCreditedSeconds : Nat
  sourceLicenseCodeId : Option Nat
  authorizationKind : AuthorizationKind
  productKey : Bytes
  deriving DecidableEq

def creditOf (row : EntitlementRow) : Credit :=
  ⟨row.entitlementId, row.totalCreditedSeconds, row.sourceLicenseCodeId, row.authorizationKind,
    row.productKey⟩

def credits (database : Database) : List Credit := database.entitlements.map creditOf

def cardCredit (card : LicenseCodeRow) (entId : Bytes) : Credit :=
  ⟨entId, creditedSeconds card, some card.id, card.authorizationKind, card.productKey⟩

/-- A card is credited to one entitlement, and an activation records it. -/
structure CreditsCard (s t : Database) (card : LicenseCodeRow) (activation : LicenseActivationRow) :
    Prop where
  found : lookup LicenseCodeRow.id activation.licenseCodeId s.licenseCodes = some card
  issued : card.status = .issued
  recorded : t.licenseActivations = s.licenseActivations ++ [activation]
  fresh : ∀ other ∈ s.licenseActivations, other.licenseCodeId ≠ activation.licenseCodeId ∧
    other.challengeId ≠ activation.challengeId
  seconds : activation.creditedSeconds = creditedSeconds card
  credited : cardCredit card activation.entitlementId ∈ credits t
  others : ∀ entry : Credit, entry.entitlementId ≠ activation.entitlementId →
    (entry ∈ credits t ↔ entry ∈ credits s)

structure CreditsNothing (s t : Database) : Prop where
  activations : t.licenseActivations = s.licenseActivations
  credits : credits t = credits s

/-- No two activations are of one card or of one challenge. -/
structure DistinctActivations (rows : List LicenseActivationRow) : Prop where
  licenseCodeIds : (rows.map LicenseActivationRow.licenseCodeId).Nodup
  challengeIds : (rows.map LicenseActivationRow.challengeId).Nodup

/-- The activation from which a challenge is answered: the one it made, or the one of its card when
    it binds other devices. -/
def answering (database : Database) (chal : ActivationChallengeRow) :
    Option LicenseActivationRow :=
  if chal.activationMode = .bindDevice then
    database.licenseActivations.find? (fun row => row.licenseCodeId == chal.licenseCodeId)
  else database.licenseActivations.find? (fun row => row.challengeId == chal.challengeId)

/-- The answer to a challenge, and the entitlement it is about. -/
inductive Answer (challenge : ActivationChallengeRow) (activation : LicenseActivationRow)
    (entitlement : EntitlementRow) : ActivationResponse → Prop where
  | bound : challenge.activationMode = .bindDevice →
      entitlement.entitlementId = challenge.targetEntitlementId →
      Answer challenge activation entitlement (CardService.bindingResponse entitlement activation)
  | credited : challenge.activationMode ≠ .bindDevice →
      entitlement.entitlementId = activation.entitlementId →
      Answer challenge activation entitlement
        (CardService.activationResponse activation entitlement challenge.activationMode)

/-- A response is made of the activation that answers a challenge and of its entitlement. -/
def Answers (database : Database) (chal : ActivationChallengeRow)
    (resp : ActivationResponse) : Prop :=
  ∃ act entitlement, answering database chal = some act ∧
    entitlement ∈ database.entitlements ∧ Answer chal act entitlement resp

section

variable {s t : Database} {prims : ServicePrimitives} {chal : ActivationChallengeRow}
  {ids : ActivationIds} {now : Nat} {resp : ActivationResponse}

theorem credits_of_reassigns {owner : Bytes} (h : Reassigns owner s.entitlements t.entitlements)
    {entry : Credit} (other : entry.entitlementId ≠ owner) :
    entry ∈ credits t ↔ entry ∈ credits s := by
  unfold credits
  simp only [List.mem_map]
  constructor
  · rintro ⟨row, mem, rfl⟩
    exact ⟨row, (h.others row other).mp mem, rfl⟩
  · rintro ⟨row, mem, rfl⟩
    exact ⟨row, (h.others row other).mpr mem, rfl⟩

variable {entId : Bytes}

theorem reactivateExhaustedEntitlement_credited {binding : DeviceBindingRow} {card : LicenseCodeRow}
    (h : (reactivateExhaustedEntitlement entId binding card).run s = .ok (true, t)) :
    cardCredit card entId ∈ credits t := by
  obtain ⟨⟨row, mem, sel⟩, u, writing, rebinding⟩ := reactivateExhaustedEntitlement_eq_ok h
  obtain ⟨_, _, isWritten⟩ := writeEntitlements_eq_ok writing
  obtain ⟨same, -, -⟩ := bindDevice_rebinds rebinding
  have htab := @mem_update_of_mem _ _ _ (canReactivate s entId binding.pairId)
    (reactivated binding card) mem
  rw [if_pos sel] at htab
  have owner : row.entitlementId = entId := by
    simp only [canReactivate, Bool.and_eq_true, beq_iff_eq] at sel
    exact sel.1.1.1.1.1
  unfold credits
  rw [same, isWritten]
  refine List.mem_map.mpr ⟨_, htab, ?_⟩
  simp only [creditOf, reactivated, cardCredit, owner]

theorem creditEntitlement_credited {card : LicenseCodeRow}
    (h : (CardService.creditEntitlement prims chal card ids).run s =
      .ok (entId, t)) : cardCredit card entId ∈ credits t := by
  obtain ⟨-, rfl, -, reactivating⟩ | ⟨-, creating⟩ := creditEntitlement_cases h
  · exact reactivateExhaustedEntitlement_credited reactivating
  · obtain ⟨rfl, u, writing, binding⟩ := createEntitlement_eq_ok creating
    obtain ⟨_, _, isWritten⟩ := writeEntitlements_eq_ok writing
    obtain ⟨same, -, -⟩ := bindDevice_rebinds binding
    unfold credits
    rw [same, isWritten]
    exact List.mem_map.mpr ⟨_, List.mem_append_right _ List.mem_cons_self, rfl⟩

/-- What a recorded credit leaves behind: the activation that answers it. -/
theorem recordCredit_eq_ok {card : LicenseCodeRow}
    (h : (recordCredit chal ids now card entId).run s = .ok (resp, t)) :
    ∃ act ent, t.licenseActivations = s.licenseActivations ++ [act] ∧
      act = ⟨ids.activationId, card.id, entId, chal.challengeId, creditedSeconds card⟩ ∧
      (∀ other ∈ s.licenseActivations, other.licenseCodeId ≠ card.id ∧
        other.challengeId ≠ chal.challengeId) ∧
      ent ∈ t.entitlements ∧ ent.entitlementId = entId ∧
      resp = CardService.activationResponse act ent chal.activationMode := by
  obtain ⟨consumedCode, s1, spending, h⟩ := bind_ok.mp h
  rw [require_ok, bind_ok] at h
  obtain ⟨-, consumedChallenge, s2, consuming, h⟩ := h
  have same := ((consumeCode_quiet spending).trans
    (consumeChallenge_quiet consuming)).licenseActivations
  rw [require_ok, bind_ok] at h
  obtain ⟨-, ⟨⟩, s3, creating, h⟩ := h
  unfold createActivation at creating
  rw [get_ok, require_ok, same] at creating
  obtain ⟨fresh, last⟩ := creating
  cases last
  have apart : ∀ other ∈ s.licenseActivations, other.licenseCodeId ≠ card.id ∧
      other.challengeId ≠ chal.challengeId := by
    intro other mem
    have differs := List.all_eq_true.mp fresh other mem
    simp only [Bool.and_eq_true, bne_iff_ne] at differs
    exact ⟨differs.1.2, differs.2⟩
  replace h := read_ok h rfl
  obtain ⟨⟨act, ent⟩, isFound, last⟩ := unwrap_ok.mp h
  cases last
  have none : s.licenseActivations.find? (fun row => row.challengeId == chal.challengeId) =
      none := by
    rw [List.find?_eq_none]
    intro other mem
    simpa using (apart other mem).2
  rw [List.find?_append, none] at isFound
  simp only [Option.none_or, List.find?_cons, beq_self_eq_true, Option.bind_some] at isFound
  obtain ⟨row, isRow, both⟩ := Option.map_eq_some_iff.mp isFound
  cases both
  exact ⟨_, _, rfl, rfl, apart, (lookup_key isRow).1, (lookup_key isRow).2, rfl⟩

theorem confirmCredit_credits
    (h : (CardService.confirmCredit prims chal ids none now).run s = .ok (resp, t)) :
    ∃ card act, CreditsCard s t card act ∧
      act.challengeId = chal.challengeId ∧
      ∃ ent ∈ t.entitlements, ent.entitlementId = act.entitlementId ∧
        resp = CardService.activationResponse act ent chal.activationMode := by
  rw [confirmCredit_parts, bind_ok] at h
  obtain ⟨⟨card, entId⟩, u, crediting, recording⟩ := h
  obtain ⟨prepares, -⟩ := creditCard_prepares crediting
  obtain ⟨isCard, available, crediting⟩ := creditCard_eq_ok crediting
  have funds := creditEntitlement_funds crediting
  have credited := creditEntitlement_credited crediting
  have same := recordCredit_same recording
  obtain ⟨act, ent, recorded, rfl, fresh, mem, isOwner, ans⟩ :=
    recordCredit_eq_ok recording
  have table : credits t = credits u := by
    unfold credits
    rw [same.entitlements]
  have key : card.id = chal.licenseCodeId := (lookup_key isCard).2
  refine ⟨card, _, ⟨?_, ?_, recorded.trans (by rw [funds.licenseActivations]), ?_, rfl, ?_, ?_⟩, rfl,
    ent, mem, isOwner, ans⟩
  · rw [← key] at isCard
    exact isCard
  · simp only [cardIsAvailable, Bool.and_eq_true, decide_eq_true_eq] at available
    exact available.1.1.1
  · rw [← funds.licenseActivations]
    exact fresh
  · rw [table]
    exact credited
  · intro entry other
    rw [table]
    exact credits_of_reassigns prepares.entitlements other

variable {act : LicenseActivationRow}

theorem rebindDevices_eq_ok
    (h : (rebindDevices prims chal ids).run s = .ok (act, t)) :
    s.licenseActivations.find? (fun row => row.licenseCodeId == chal.licenseCodeId) =
        some act ∧
      t.licenseActivations = s.licenseActivations ∧ credits t = credits s := by
  obtain ⟨-, found, u, writing, binding⟩ := rebindDevices_cases h
  obtain ⟨_, _, rfl⟩ := writeEntitlements_eq_ok writing
  obtain ⟨⟨_, rfl⟩, -⟩ := bindDevice_table binding
  exact ⟨found, rfl, map_update (fun _ _ _ => rfl)⟩

theorem recordBinding_eq_ok (h : (recordBinding chal now act).run s = .ok (resp, t)) :
    t.licenseActivations = s.licenseActivations ∧
      ∃ ent ∈ t.entitlements, ent.entitlementId = chal.targetEntitlementId ∧
        resp = CardService.bindingResponse ent act := by
  obtain ⟨consumed, s1, consuming, h⟩ := bind_ok.mp h
  rw [require_ok, bind_ok] at h
  obtain ⟨-, ⟨⟩, s2, expiring, h⟩ := h
  have quiet := (consumeChallenge_quiet consuming).trans (expireStartChallengesWhere_quiet expiring)
  obtain ⟨⟨⟩, s3, ending, h⟩ := bind_ok.mp h
  obtain ⟨settled, -⟩ := endSessionsOf_calm (by decide) ending
  replace h := read_ok h rfl
  obtain ⟨row, isRow, last⟩ := unwrap_ok.mp h
  cases last
  exact ⟨settled.licenseActivations.trans quiet.licenseActivations, row, (lookup_key isRow).1,
    (lookup_key isRow).2, rfl⟩

theorem confirmationReplay_answers
    (h : (CardService.confirmationReplay chal).run s = .ok (resp, t)) :
    Answers s chal resp := by
  unfold CardService.confirmationReplay at h
  split at h
  · rename_i isBinding
    replace h := read_ok h rfl
    obtain ⟨row, isRow, h⟩ := unwrap_ok.mp h
    replace h := read_ok h rfl
    obtain ⟨⟨act, ent⟩, isGiven, last⟩ := unwrap_ok.mp h
    cases last
    obtain ⟨recorded, isRecorded, joined⟩ := Option.bind_eq_some_iff.mp isGiven
    obtain ⟨held, -, both⟩ := Option.map_eq_some_iff.mp joined
    cases both
    refine ⟨act, row, ?_, (lookup_key isRow).1, .bound isBinding (lookup_key isRow).2⟩
    unfold answering
    rw [if_pos isBinding]
    exact isRecorded
  · rename_i isCredit
    replace h := read_ok h rfl
    obtain ⟨⟨act, ent⟩, isGiven, last⟩ := unwrap_ok.mp h
    cases last
    obtain ⟨recorded, isRecorded, joined⟩ := Option.bind_eq_some_iff.mp isGiven
    obtain ⟨held, isHeld, both⟩ := Option.map_eq_some_iff.mp joined
    cases both
    refine ⟨act, ent, ?_, (lookup_key isHeld).1, .credited isCredit
      (lookup_key isHeld).2⟩
    unfold answering
    rw [if_neg isCredit]
    exact isRecorded

/-- The entitlement with an id is in its table. -/
def Held (database : Database) (entId : Bytes) : Prop :=
  ∃ row ∈ database.entitlements, row.entitlementId = entId

theorem Held.lookup (held : Held s entId) :
    ∃ row, lookup EntitlementRow.entitlementId entId s.entitlements = some row := by
  obtain ⟨row, mem, rfl⟩ := held
  exact ⟨row, lookup_of_mem s.entitlementKeys mem⟩

/-- A challenge whose activation and entitlements are in their tables is answered from them. -/
theorem confirmationReplay_succeeds (isAnswer : answering s chal = some act)
    (owner : Held s act.entitlementId)
    (target : chal.activationMode = .bindDevice → Held s chal.targetEntitlementId) :
    ∃ resp, (CardService.confirmationReplay chal).run s = .ok (resp, s) := by
  obtain ⟨ent, isEnt⟩ := owner.lookup
  unfold answering at isAnswer
  unfold CardService.confirmationReplay
  split at isAnswer
  · rename_i isBinding
    obtain ⟨row, isRow⟩ := (target isBinding).lookup
    refine ⟨CardService.bindingResponse row act, ?_⟩
    rw [if_pos isBinding, bind_ok]
    refine ⟨_, s, rfl, unwrap_ok.mpr ⟨row, isRow, bind_ok.mpr ⟨_, s, rfl, unwrap_ok.mpr
      ⟨(act, ent), ?_, rfl⟩⟩⟩⟩
    simp [isAnswer, isEnt]
  · rename_i isCredit
    refine ⟨CardService.activationResponse act ent chal.activationMode, ?_⟩
    rw [if_neg isCredit, bind_ok]
    refine ⟨_, s, rfl, unwrap_ok.mpr ⟨(act, ent), ?_, rfl⟩⟩
    simp [isAnswer, isEnt]

/-- What a confirmation leaves behind: the challenge is consumed and answered, and a card is credited
    at most if the challenge was issued. -/
structure Confirms (s t : Database) (challengeId : Bytes) (response : ActivationResponse) : Prop where
  answered : ∃ challenge, challengeIn t challengeId = some challenge ∧ challenge.status = .consumed ∧
    Answers t challenge response
  credits : CreditsNothing s t ∨ ∃ card activation, CreditsCard s t card activation

theorem confirmDeviceBinding_confirms {challengeId : Bytes}
    (used : challengeIn t challengeId = some { chal with status := .consumed })
    (isBinding : chal.activationMode = .bindDevice)
    (h : (CardService.confirmDeviceBinding prims chal ids none now).run s =
      .ok (resp, t)) : Confirms s t challengeId resp := by
  rw [confirmDeviceBinding_parts, bind_ok] at h
  obtain ⟨act, u, rebinding, recording⟩ := h
  obtain ⟨isFound, activations, same⟩ := rebindDevices_eq_ok rebinding
  obtain ⟨kept, ent, mem, isTarget, isResponse⟩ := recordBinding_eq_ok recording
  have table : credits t = credits u := by
    unfold credits
    rw [(recordBinding_same recording).entitlements]
  refine ⟨⟨_, used, rfl, act, ent, ?_, mem, ?_⟩,
    .inl ⟨kept.trans activations, table.trans same⟩⟩
  · unfold answering
    rw [if_pos isBinding, kept, activations]
    exact isFound
  · rw [isResponse]
    exact .bound isBinding isTarget

theorem confirmCredit_confirms {challengeId : Bytes}
    (used : challengeIn t challengeId = some { chal with status := .consumed })
    (isCredit : chal.activationMode ≠ .bindDevice)
    (h : (CardService.confirmCredit prims chal ids none now).run s = .ok (resp, t)) :
    Confirms s t challengeId resp := by
  obtain ⟨card, act, credits, isChallenge, ent, mem, isOwner, isResponse⟩ :=
    confirmCredit_credits h
  refine ⟨⟨_, used, rfl, act, ent, ?_, mem, ?_⟩, .inr ⟨card, act, credits⟩⟩
  · unfold answering
    rw [if_neg isCredit, credits.recorded, List.find?_append]
    have none : s.licenseActivations.find? (fun row => row.challengeId == chal.challengeId) =
        none := by
      rw [List.find?_eq_none]
      intro other hrow
      simpa [← isChallenge] using (credits.fresh other hrow).2
    rw [none]
    simp [isChallenge]
  · rw [isResponse]
    exact .credited isCredit isOwner

theorem confirmActivation_confirms {service : UsageService} {seen : Database}
    {cmd : ConfirmCommand}
    (h : (CardService.confirmActivation service.settings prims seen cmd ids none now).run s =
      .ok (resp, t)) : Confirms s t cmd.challengeId resp := by
  obtain ⟨chal, found, ⟨consumed, h⟩ | ⟨issued, unexpired, ⟨isBinding, h⟩ | ⟨isCredit, h⟩⟩⟩ :=
    confirmActivation_cases h
  · have answers := confirmationReplay_answers h
    obtain rfl := (confirmationReplay_eq_ok h).symm
    exact ⟨⟨chal, found, consumed, answers⟩, .inl ⟨rfl, rfl⟩⟩
  · obtain ⟨-, consumed⟩ : Performs service prims.toPrimitives _ t none _ ∧ _ :=
      confirmDeviceBinding_performs found issued unexpired h
    exact confirmDeviceBinding_confirms consumed isBinding h
  · obtain ⟨-, consumed⟩ : Performs service prims.toPrimitives _ t none _ ∧ _ :=
      confirmCredit_performs found issued unexpired h
    exact confirmCredit_confirms consumed isCredit h

end

section

variable {service : UsageService} {prims : ServicePrimitives} {s t : SecuredDatabase}

theorem versions_credited (back : Prop) :
    Versions back (fun old new => creditOf new = creditOf old) where
  refl := fun _ => rfl
  trans := fun _ _ _ first snd => snd.trans first
  debited := fun _ => rfl
  revoked := fun _ => rfl
  restored := fun _ _ => rfl

variable {tables tables' : Database}

theorem CreditsNothing.of_tracks
    (h : Tracks (fun old new => creditOf new = creditOf old) tables tables') :
    CreditsNothing tables tables' :=
  ⟨h.licenseActivations, map_eq_of_forall₂ h.entitlements (fun _ _ same => same)⟩

theorem CreditsNothing.trans {first snd third : Database} (h : CreditsNothing first snd)
    (h' : CreditsNothing snd third) : CreditsNothing first third :=
  ⟨h'.activations.trans h.activations, h'.credits.trans h.credits⟩

theorem CreditsNothing.of_calm (h : Calm tables tables') : CreditsNothing tables tables' :=
  .of_tracks (.of_calm (versions_credited True) h)

theorem updateEntitlement_credits {change : EntitlementRow → EntitlementRow}
    (same : ∀ row, creditOf (change row) = creditOf row)
    (h : (AdminService.updateEntitlement entId change).run tables = .ok ((), tables')) :
    CreditsNothing tables tables' :=
  .of_tracks (tracks_of_updateEntitlement (versions_credited True) same h)

theorem creditOf_revoked (row : EntitlementRow) :
    creditOf (AdminService.revoked row) = creditOf row := rfl

theorem creditOf_unbound (pairId : Bytes) (row : EntitlementRow) :
    creditOf (AdminService.unbound pairId row) = creditOf row := rfl

theorem revokeEntitlement_credits {now : Nat} {resp : AdminService.RevokeResponse}
    (h : (AdminService.revokeEntitlement entId none now).run tables =
      .ok (resp, tables')) : CreditsNothing tables tables' := by
  rw [revokeEntitlement_parts, bind_ok] at h
  obtain ⟨row, _, requiring, h⟩ := h
  obtain ⟨rfl, -⟩ := requireEntitlement_eq_ok requiring
  obtain ⟨⟨⟩, u, revoking, recording⟩ := bind_ok.mp h
  refine .trans ?_ (.of_calm (recordRevocation_calm recording))
  split at revoking
  · obtain ⟨⟨⟩, v, updating, ending⟩ := bind_ok.mp revoking
    obtain ⟨settled, -⟩ := endSessionsOf_calm (by decide) ending
    exact (updateEntitlement_credits creditOf_revoked updating).trans (.of_calm settled)
  · cases revoking
    exact ⟨rfl, rfl⟩

theorem unbindEntitlementDevice_credits {bindingId pairId : Bytes} {now : Nat}
    {resp : AdminService.RevokeResponse}
    (h : (AdminService.unbindEntitlementDevice entId bindingId pairId none now).run tables =
      .ok (resp, tables')) : CreditsNothing tables tables' := by
  rw [unbindEntitlementDevice_parts, bind_ok] at h
  obtain ⟨⟨⟩, u, clearing, recording⟩ := h
  have cleared : CreditsNothing tables u := by
    unfold clearDevices at clearing
    rw [bind_ok] at clearing
    obtain ⟨row, _, requiring, clearing⟩ := clearing
    obtain ⟨rfl, -⟩ := requireEntitlement_eq_ok requiring
    rw [get_ok, unwrap_ok] at clearing
    obtain ⟨binding, -, clearing⟩ := clearing
    rw [require_ok] at clearing
    cases clearing.2
    exact ⟨rfl, rfl⟩
  unfold recordUnbinding at recording
  rw [bind_ok] at recording
  obtain ⟨⟨⟩, v, updating, h⟩ := recording
  rw [bind_ok] at h
  obtain ⟨⟨⟩, w, ending, h⟩ := h
  obtain ⟨settled, -⟩ := endSessionsOf_calm (by decide) ending
  rw [bind_ok] at h
  obtain ⟨⟨⟩, x, expiring, h⟩ := h
  rw [bind_ok] at h
  obtain ⟨updated, _, reading, last⟩ := h
  obtain ⟨rfl, -, -⟩ := requireEntitlement_eq_ok reading
  cases last
  exact (cleared.trans (updateEntitlement_credits (creditOf_unbound pairId) updating)).trans
    (.of_calm (settled.trans (expireChallengesOf_calm expiring)))

inductive CreditMove (s t : Database) : ServerOp → Prop where
  | nothing {op : ServerOp} : CreditsNothing s t → CreditMove s t op
  | card {seen : Database} {command : ConfirmCommand} {ids : ActivationIds}
      {outcome : Option ServerException} {now : Nat} {card : LicenseCodeRow}
      {activation : LicenseActivationRow} : CreditsCard s t card activation →
      CreditMove s t (.confirmActivation seen command ids outcome now)

theorem securedStep_credits (ord : Orderly s.tables) (inv : Secured s) (op : ServerOp) :
    CreditMove s.tables (securedStep service prims s op).1.tables op := by
  by_cases plain : changesPairs op = false
  · rw [securedStep_plain plain]
    exact .nothing (.of_tracks (serverStep_tracks ord plain (versions_credited _)))
  · have failed : CreditMove s.tables s.tables op := .nothing ⟨rfl, rfl⟩
    cases op with
    | confirmActivation seen cmd ids outcome now =>
      refine atomically_map_invariant (P := fun t : SecuredDatabase => CreditMove s.tables t.tables _) failed ?_
      intro resp t ran
      obtain ⟨plain, -⟩ := confirmActivation_secures inv ran
      cases (confirmActivation_confirms plain).credits with
      | inl nothing => exact .nothing nothing
      | inr credited =>
        obtain ⟨card, act, credits⟩ := credited
        exact .card credits
    | revokeEntitlement entId outcome now =>
      refine atomically_map_invariant (P := fun t : SecuredDatabase => CreditMove s.tables t.tables _) failed ?_
      intro resp t ran
      exact .nothing (revokeEntitlement_credits (revokeEntitlement_revokes inv ran).1)
    | unbindEntitlementDevice entId bindingId pairId outcome now =>
      refine atomically_map_invariant (P := fun t : SecuredDatabase => CreditMove s.tables t.tables _) failed ?_
      intro resp t ran
      exact .nothing (unbindEntitlementDevice_credits (unbindEntitlementDevice_changes inv ran).1)
    | _ => exact absurd rfl plain

theorem DistinctActivations.move {op : ServerOp}
    (dist : DistinctActivations tables.licenseActivations) (h : CreditMove tables tables' op) :
    DistinctActivations tables'.licenseActivations := by
  cases h with
  | nothing nothing =>
    rw [nothing.activations]
    exact dist
  | card credits =>
    have apart {κ : Type} (key : LicenseActivationRow → κ)
        (nodup : (tables.licenseActivations.map key).Nodup) (act : LicenseActivationRow)
        (fresh : ∀ other ∈ tables.licenseActivations, key other ≠ key act) :
        ((tables.licenseActivations ++ [act]).map key).Nodup := by
      rw [List.map_append, List.map_singleton, List.nodup_append]
      refine ⟨nodup, List.nodup_singleton _, ?_⟩
      intro k hrow other isLast
      obtain ⟨row, mem, rfl⟩ := List.mem_map.mp hrow
      rw [List.mem_singleton.mp isLast]
      exact fresh row mem
    rw [credits.recorded]
    exact ⟨apart _ dist.licenseCodeIds _ (fun other mem => (credits.fresh other mem).1),
      apart _ dist.challengeIds _ (fun other mem => (credits.fresh other mem).2)⟩

theorem confirmActivation_replayed {settings : DualMachineSettings} {seen : Database}
    {cmd : ConfirmCommand} {ids : ActivationIds} {now : Nat} {resp : ActivationResponse}
    (used : ChallengeConsumed s.tables cmd.challengeId)
    (h : (confirmActivation settings prims seen cmd ids now).run s = .ok (resp, t)) :
    t = s := by
  unfold confirmActivation at h
  rw [reading_ok] at h
  obtain ⟨-, -, -, h⟩ := h
  unfold confirmActivationTransaction at h
  rw [bind_ok] at h
  obtain ⟨⟨chal, proof⟩, u, verifying, h⟩ := h
  obtain ⟨verified, same, -⟩ := verifyConfirmation_eq_ok verifying
  subst same
  obtain ⟨-, found, -⟩ := confirmActivationChecks_eq_ok verified
  obtain ⟨row, isRow, isOver⟩ := used
  rw [found] at isRow
  cases isRow
  dsimp only at h
  rw [if_pos isOver] at h
  obtain ⟨tables, replaying, rfl⟩ := onTables_eq_ok.mp h
  obtain rfl := (confirmationReplay_eq_ok replaying).symm
  rfl

def confirms (challengeId : Bytes) : ServerOp → Prop
  | .confirmActivation _ command _ _ _ => command.challengeId = challengeId
  | _ => False

theorem securedStep_confirmed {challengeId : Bytes} {op : ServerOp} {resp : ActivationResponse}
    (inv : Secured s) (isConfirmation : confirms challengeId op)
    (h : (securedStep service prims s op).2 = .ok (.activation resp)) :
    Confirms s.tables (securedStep service prims s op).1.tables challengeId resp ∧
      (ChallengeConsumed s.tables challengeId → (securedStep service prims s op).1 = s) := by
  cases op with
  | confirmActivation seen cmd ids outcome now =>
    obtain ⟨value, same, ran⟩ := atomically_map_eq_ok h
    cases same
    cases isConfirmation
    refine ⟨confirmActivation_confirms (confirmActivation_secures inv ran).1, ?_⟩
    intro used
    exact confirmActivation_replayed used ran
  | _ => cases isConfirmation

/-- Two answers to a challenge are about one activation. -/
structure SameActivation (first second : ActivationResponse) : Prop where
  activationMode : second.activationMode = first.activationMode
  activationId : second.activationId = first.activationId
  entitlementId : second.entitlementId = first.entitlementId

theorem answering_lasts {chal : ActivationChallengeRow}
    (lasts : tables.licenseActivations <+: tables'.licenseActivations)
    (h : answering tables chal = some act) :
    answering tables' chal = some act := by
  obtain ⟨more, same⟩ := lasts
  unfold answering at h ⊢
  rw [← same]
  split at h
  · rename_i isBinding
    rw [if_pos isBinding, List.find?_append, h, Option.some_or]
  · rename_i isCredit
    rw [if_neg isCredit, List.find?_append, h, Option.some_or]

theorem Answers.same {chal : ActivationChallengeRow} {first second : ActivationResponse}
    (h : Answers tables chal first)
    (lasts : tables.licenseActivations <+: tables'.licenseActivations)
    (h' : Answers tables' chal second) : SameActivation first second := by
  obtain ⟨act, ent, isAnswer, -, ans⟩ := h
  obtain ⟨activation', entitlement', isAnswer', -, answer'⟩ := h'
  rw [answering_lasts lasts isAnswer] at isAnswer'
  cases isAnswer'
  cases ans with
  | bound isBinding owner =>
    cases answer' with
    | bound _ owner' => exact ⟨rfl, rfl, owner'.trans owner.symm⟩
    | credited isCredit _ => exact absurd isBinding isCredit
  | credited isCredit owner =>
    cases answer' with
    | bound isBinding _ => exact absurd isBinding isCredit
    | credited _ owner' => exact ⟨rfl, rfl, rfl⟩

structure Lasts (s t : Database) : Prop where
  remembers : Remembers s t
  activations : s.licenseActivations <+: t.licenseActivations
  held : ∀ entitlementId, Held s entitlementId → Held t entitlementId

theorem CreditMove.lasts {op : ServerOp} (h : CreditMove tables tables' op) :
    tables.licenseActivations <+: tables'.licenseActivations := by
  cases h with
  | nothing nothing => rw [nothing.activations]
  | card credits =>
    rw [credits.recorded]
    exact List.prefix_append _ _

theorem held_of_credit {entry : Credit} (mem : entry ∈ credits tables) :
    Held tables entry.entitlementId := by
  obtain ⟨row, inTable, rfl⟩ := List.mem_map.mp mem
  exact ⟨row, inTable, rfl⟩

theorem CreditMove.held {op : ServerOp} (h : CreditMove tables tables' op) {entId : Bytes}
    (held : Held tables entId) : Held tables' entId := by
  obtain ⟨row, mem, rfl⟩ := held
  have credited : creditOf row ∈ credits tables := List.mem_map_of_mem mem
  cases h with
  | nothing nothing =>
    rw [← nothing.credits] at credited
    exact held_of_credit credited
  | @card _ _ _ _ _ card act credits =>
    by_cases own : row.entitlementId = act.entitlementId
    · rw [own]
      exact held_of_credit credits.credited
    · exact held_of_credit ((credits.others _ own).mpr credited)

/-- Every activation is of an entitlement in the table. -/
def Sourced (database : Database) : Prop :=
  ∀ act ∈ database.licenseActivations, Held database act.entitlementId

theorem Sourced.move {op : ServerOp} (owned : Sourced tables) (h : CreditMove tables tables' op) :
    Sourced tables' := by
  intro act mem
  have old (inOld : act ∈ tables.licenseActivations) := h.held (owned act inOld)
  cases h with
  | nothing nothing =>
    rw [nothing.activations] at mem
    exact old mem
  | card credits =>
    rw [credits.recorded, List.mem_append, List.mem_singleton] at mem
    cases mem with
    | inl inOld => exact old inOld
    | inr isNew =>
      subst isNew
      exact held_of_credit credits.credited

theorem securedStep_lasts (ord : Orderly s.tables) (inv : Secured s) (op : ServerOp) :
    Lasts s.tables (securedStep service prims s op).1.tables := by
  have move := @securedStep_credits service prims s ord inv op
  refine ⟨?_, move.lasts, fun _ => move.held⟩
  cases (@securedStep_spec service prims s ord inv op).1 with
  | inl failed =>
    obtain ⟨error, same⟩ := failed
    rw [same]
    exact .refl _
  | inr done =>
    obtain ⟨grant, performs, -⟩ :=
      @serverStep_serves service prims s.tables ord (unhindered op)
    have tables : (securedStep service prims s op).1.tables = _ := congrArg Prod.fst done
    rw [tables]
    exact performs.remembers

theorem secured_lasts (ops later : List ServerOp) :
    Lasts (secured service prims ops).tables (secured service prims (ops ++ later)).tables := by
  induction later using List.reverseRecOn with
  | nil =>
    rw [List.append_nil]
    exact ⟨.refl _, List.prefix_rfl, fun _ => id⟩
  | append_singleton later op ih =>
    rw [← List.append_assoc, secured_concat]
    have next := @securedStep_lasts service prims (secured service prims (ops ++ later))
      (secured_orderly (ops ++ later)) (secured_spec (ops ++ later)).1 op
    exact ⟨ih.remembers.trans next.remembers, ih.activations.trans next.activations,
      fun id held => next.held id (ih.held id held)⟩

theorem secured_activations (ops : List ServerOp) :
    DistinctActivations (secured service prims ops).tables.licenseActivations := by
  induction ops using List.reverseRecOn with
  | nil => exact ⟨List.nodup_nil, List.nodup_nil⟩
  | append_singleton ops op ih =>
    rw [secured_concat]
    exact ih.move (securedStep_credits (secured_orderly ops) (secured_spec ops).1 op)

theorem secured_sourced (ops : List ServerOp) : Sourced (secured service prims ops).tables := by
  induction ops using List.reverseRecOn with
  | nil =>
    intro act mem
    cases mem
  | append_singleton ops op ih =>
    rw [secured_concat]
    exact ih.move (securedStep_credits (secured_orderly ops) (secured_spec ops).1 op)

/-- The checks of a confirmation pass, before its transaction and in it. -/
def Passes (settings : DualMachineSettings) (prims : ServicePrimitives) (s : SecuredDatabase)
    (seen : Database) (command : ConfirmCommand) (now : Nat) : Prop :=
  ∃ before within, (verifyConfirmation settings prims command now).run { tables := seen } =
      .ok (before, { tables := seen }) ∧
    (verifyConfirmation settings prims command now).run s = .ok (within, s)

/-- A challenge that was answered is answered again when the checks of the confirmation pass. -/
theorem Answers.replayed {seen : Database} {cmd : ConfirmCommand} {ids : ActivationIds}
    {outcome : Option ServerException} {now : Nat} {chal : ActivationChallengeRow}
    {resp : ActivationResponse} (ans : Answers tables chal resp)
    (lasts : Lasts tables s.tables) (owned : Sourced s.tables)
    (found : challengeIn s.tables cmd.challengeId = some chal)
    (used : chal.status = .consumed)
    (passes : Passes service.settings prims s seen cmd now) :
    ∃ again, securedStep service prims s (.confirmActivation seen cmd ids outcome now) =
      (s, .ok (.activation again)) := by
  obtain ⟨pre, ⟨row, proof⟩, checks, verifies⟩ := passes
  obtain ⟨verified, -, -⟩ := verifyConfirmation_eq_ok verifies
  obtain ⟨-, isRow, -⟩ := confirmActivationChecks_eq_ok verified
  rw [found] at isRow
  cases isRow
  obtain ⟨act, ent, isAnswer, inTable, about⟩ := ans
  have answers := answering_lasts lasts.activations isAnswer
  have recorded : act ∈ s.tables.licenseActivations := by
    unfold answering at answers
    split at answers <;> exact List.mem_of_find?_eq_some answers
  have target (isBinding : chal.activationMode = .bindDevice) :
      Held s.tables chal.targetEntitlementId := by
    cases about with
    | bound _ owner => exact lasts.held _ ⟨ent, inTable, owner⟩
    | credited isCredit => exact absurd isBinding isCredit
  obtain ⟨again, replays⟩ := confirmationReplay_succeeds answers (owned act recorded) target
  refine ⟨again, atomically_of_ok (map_eq_ok.mpr ⟨again, s, ?_, rfl⟩)⟩
  unfold confirmActivation
  rw [reading_ok]
  refine ⟨_, _, checks, ?_⟩
  unfold confirmActivationTransaction
  rw [bind_ok]
  refine ⟨_, s, verifies, ?_⟩
  dsimp only
  rw [if_pos used]
  exact onTables_eq_ok.mpr ⟨_, replays, rfl⟩

/-- A card is credited once in a run: every credit is recorded, and no record is made again. -/
theorem cards_are_credited_once (service : UsageService) (prims : ServicePrimitives)
    (ops : List ServerOp) :
    let db := secured service prims
    let step := fun ops op => securedStep service prims (db ops) op
    ((db ops).tables.licenseActivations.map LicenseActivationRow.licenseCodeId).Nodup ∧
      (∀ op, CreditMove (db ops).tables (db (ops ++ [op])).tables op) ∧
      (∀ first between second card card' act activation',
        CreditsCard (db ops).tables (db (ops ++ [first])).tables card act →
        CreditsCard (db (ops ++ first :: between)).tables
          (db (ops ++ first :: between ++ [second])).tables card' activation' →
        card'.id ≠ card.id) ∧
      (∀ op challengeId error, confirms challengeId op → (step ops op).2 = .error error →
        (step ops op).1 = db ops) ∧
      (∀ op challengeId chal resp, confirms challengeId op →
        challengeIn (db ops).tables challengeId = some chal →
        chal.status = .consumed → (step ops op).2 = .ok (.activation resp) →
        (step ops op).1 = db ops ∧ Answers (db ops).tables chal resp) ∧
      (∀ first between challengeId resp, confirms challengeId first →
        (step ops first).2 = .ok (.activation resp) →
        ∀ seen cmd ids outcome now, cmd.challengeId = challengeId →
        Passes service.settings prims (db (ops ++ first :: between)) seen cmd now →
        ∃ again, step (ops ++ first :: between)
            (.confirmActivation seen cmd ids outcome now) =
          (db (ops ++ first :: between), .ok (.activation again)) ∧
          SameActivation resp again) ∧
      ∀ first between second challengeId resp response', confirms challengeId first →
        confirms challengeId second → (step ops first).2 = .ok (.activation resp) →
        (step (ops ++ first :: between) second).2 = .ok (.activation response') →
        (step (ops ++ first :: between) second).1 = db (ops ++ first :: between) ∧
          SameActivation resp response' := by
  intro db step
  have inv (ops : List ServerOp) : Secured (db ops) := (secured_spec ops).1
  have repeated (first between second) (challengeId resp response')
      (isFirst : confirms challengeId first) (isSecond : confirms challengeId second)
      (answered : (step ops first).2 = .ok (.activation resp))
      (answered' : (step (ops ++ first :: between) second).2 = .ok (.activation response')) :
      (step (ops ++ first :: between) second).1 = db (ops ++ first :: between) ∧
        SameActivation resp response' := by
    obtain ⟨confirmed, -⟩ := securedStep_confirmed (inv ops) isFirst answered
    obtain ⟨confirmed', replayed⟩ := securedStep_confirmed (inv _) isSecond answered'
    have lasts := @secured_lasts service prims (ops ++ [first]) between
    rw [List.append_assoc, List.singleton_append, secured_concat] at lasts
    obtain ⟨row, isRow, consumed, answers⟩ := confirmed.answered
    have later := lasts.remembers.challenges _ row isRow consumed
    have same := replayed ⟨row, later, consumed⟩
    refine ⟨same, ?_⟩
    obtain ⟨row', isRow', -, answers'⟩ := confirmed'.answered
    rw [same, later] at isRow'
    cases isRow'
    rw [same] at answers'
    exact answers.same lasts.activations answers'
  refine ⟨(secured_activations ops).licenseCodeIds, ?_, ?_, ?_, ?_, ?_, repeated⟩
  · intro op
    have move := @securedStep_credits service prims _ (secured_orderly ops) (inv ops) op
    rw [← secured_concat] at move
    exact move
  · intro first between second card card' act activation' credits credits'
    have recorded : act ∈ (db (ops ++ first :: between)).tables.licenseActivations := by
      have lasts := (@secured_lasts service prims (ops ++ [first]) between).activations
      rw [List.append_assoc, List.singleton_append] at lasts
      refine lasts.subset ?_
      rw [credits.recorded]
      exact List.mem_append_right _ List.mem_cons_self
    rw [(lookup_key credits.found).2, (lookup_key credits'.found).2]
    exact (credits'.fresh act recorded).1.symm
  · intro op challengeId error isConfirmation failed
    cases op with
    | confirmActivation => exact atomically_of_error failed
    | _ => cases isConfirmation
  · intro op challengeId chal resp isConfirmation found consumed answered
    obtain ⟨confirmed, replayed⟩ := securedStep_confirmed (inv ops) isConfirmation answered
    have same := replayed ⟨chal, found, consumed⟩
    obtain ⟨row, isRow, -, answers⟩ := confirmed.answered
    rw [same, found] at isRow
    cases isRow
    rw [same] at answers
    exact ⟨same, answers⟩
  · intro first between challengeId resp isFirst answered seen cmd ids outcome now same passes
    obtain ⟨confirmed, -⟩ := securedStep_confirmed (inv ops) isFirst answered
    have lasts := @secured_lasts service prims (ops ++ [first]) between
    rw [List.append_assoc, List.singleton_append, secured_concat] at lasts
    obtain ⟨row, isRow, consumed, answers⟩ := confirmed.answered
    have later := lasts.remembers.challenges _ row isRow consumed
    obtain ⟨again, replays⟩ := @Answers.replayed service prims _ _ seen cmd ids outcome now
      row resp answers lasts (secured_sourced _) (by rw [same]; exact later) consumed passes
    exact ⟨again, replays, (repeated first between (.confirmActivation seen cmd ids outcome now)
      challengeId resp again isFirst same answered (congrArg Prod.snd replays)).2⟩

end

end VisionForge.PairSecurity
