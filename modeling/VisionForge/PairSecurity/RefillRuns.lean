import VisionForge.PairSecurity.Refill
import VisionForge.PairSecurity.RestoredLock

/-! # When an exhausted entitlement is refilled

Sessions keep the status of active ones until a request commits that their leases expired. A
refill waits for that, and only the entitlements that are exhausted are refilled: a permanent
one never is.
-/

namespace VisionForge.PairSecurity

open Agreement Lib.Ascii Lib.Run Lib.Table Lib.Transaction Server LicenseRepository UsageRepository

section

variable {s t : Database} {service : UsageService} {prims : Primitives}

/-- The last leases of all sessions of an entitlement have expired. -/
def LeasesExpired (database : Database) (entitlementId : Bytes) (now : Nat) : Prop :=
  ∀ row ∈ database.usageSessions, row.entitlementId = entitlementId → row.leaseExpiresAtEpoch ≤ now

theorem expireStaleSessions_idle {entId : Bytes} {now count : Nat}
    (expired : LeasesExpired s entId now)
    (h : (expireStaleSessions entId now).run s = .ok (count, t)) :
    hasActiveSession t entId = false := by
  unfold expireStaleSessions at h
  rw [get_ok, bind_ok] at h
  obtain ⟨⟨⟩, u, written, last⟩ := h
  cases last
  obtain ⟨holds, same⟩ := Database.writeChecked_eq_ok.mp written
  cases same
  unfold hasActiveSession
  rw [List.any_eq_false]
  intro row mem hact
  simp only [Bool.and_eq_true, beq_iff_eq, decide_eq_true_eq] at hact
  cases mem_update mem with
  | inl kept =>
    have isOver := expired row kept.1 hact.1
    simp [hact, isOver] at kept
  | inr settled =>
    obtain ⟨old, -, -, isOld⟩ := settled
    rw [isOld] at hact
    cases hact.2

theorem entitlementStatus_idle {seen : Database} {cmd : StatusCommand} {now : Nat}
    {resp : StatusResponse} (expired : LeasesExpired s cmd.entitlementId now)
    (h : (service.entitlementStatus prims seen cmd now).run s = .ok (resp, t)) :
    hasActiveSession t cmd.entitlementId = false := by
  unfold UsageService.entitlementStatus at h
  rw [require_ok, reading_ok] at h
  obtain ⟨-, -, -, -, h⟩ := h
  obtain ⟨row, _, checking, h⟩ := bind_ok.mp h
  replace checking := read_ok checking rfl
  rw [← bind_pure (ofExcept _), ofExcept_ok] at checking
  obtain ⟨_, -, last⟩ := checking
  cases last
  obtain ⟨_, u, expiring, h⟩ := bind_ok.mp h
  have idle := expireStaleSessions_idle expired expiring
  obtain ⟨_, v, consuming, h⟩ := bind_ok.mp h
  rw [require_ok] at h
  have last := read_ok h.2 rfl
  cases last
  unfold hasActiveSession at idle ⊢
  rw [(consumeNonce_quiet consuming).usageSessions]
  exact idle

end

section

variable {service : UsageService} {prims : ServicePrimitives} {s t : SecuredDatabase}

theorem Recorded.of_same {tables tables' : Database} (recorded : Recorded tables)
    (activations : tables'.licenseActivations = tables.licenseActivations)
    (remembers : Remembers tables tables') : Recorded tables' := by
  intro act mem
  rw [activations] at mem
  obtain ⟨chal, found, used⟩ := recorded act mem
  exact ⟨chal, remembers.challenges _ chal found used, used⟩

/-- A confirmation records the activation of the challenge that it consumes. -/
theorem confirmActivation_recorded {seen tables tables' : Database}
    {cmd : ConfirmCommand} {ids : ActivationIds} {now : Nat} {resp : ActivationResponse}
    (h : (CardService.confirmActivation service.settings prims seen cmd ids none now).run
      tables = .ok (resp, tables')) :
    tables'.licenseActivations = tables.licenseActivations ∨
      ∃ act chal, tables'.licenseActivations = tables.licenseActivations ++ [act] ∧
        challengeIn tables' act.challengeId = some chal ∧ chal.status = .consumed := by
  obtain ⟨chal, found, ⟨-, h⟩ | ⟨issued, unexpired, ⟨-, h⟩ | ⟨-, h⟩⟩⟩ :=
    confirmActivation_cases h
  · exact .inl (congrArg Database.licenseActivations (confirmationReplay_eq_ok h))
  · rw [confirmDeviceBinding_parts, bind_ok] at h
    obtain ⟨act, u, rebinding, recording⟩ := h
    exact .inl ((recordBinding_eq_ok recording).1.trans (rebindDevices_eq_ok rebinding).2.1)
  · obtain ⟨-, used⟩ : Performs service prims.toPrimitives _ tables' none _ ∧ _ :=
      confirmCredit_performs found issued unexpired h
    obtain ⟨card, act, credits, isChallenge, -⟩ := confirmCredit_credits h
    have key : act.challengeId = cmd.challengeId := isChallenge.trans (lookup_key found).2
    exact .inr ⟨act, { chal with status := .consumed }, credits.recorded,
      by rw [key]; exact used, rfl⟩

theorem securedStep_recorded (ord : Orderly s.tables) (inv : Secured s)
    (recorded : Recorded s.tables) (op : ServerOp) :
    Recorded (securedStep service prims s op).1.tables := by
  have lasts := @securedStep_lasts service prims s ord inv op
  have move := @securedStep_credits service prims s ord inv op
  cases op with
  | confirmActivation seen cmd ids outcome now =>
    cases @atomically_map_cases _ _ _ _ ServerReply.activation (confirmActivation service.settings
        prims seen cmd ids now) s with
    | inl done =>
      obtain ⟨resp, t, ran, same⟩ := done
      have isNext : (securedStep service prims s
        (.confirmActivation seen cmd ids outcome now)).1 = t := congrArg Prod.fst same
      rw [isNext] at lasts ⊢
      cases confirmActivation_recorded (confirmActivation_secures inv ran).1 with
      | inl kept => exact recorded.of_same kept lasts.remembers
      | inr added =>
        obtain ⟨act, chal, table, found, used⟩ := added
        intro other mem
        rw [table, List.mem_append, List.mem_singleton] at mem
        cases mem with
        | inl pre =>
          obtain ⟨old, isOld, isOver⟩ := recorded other pre
          exact ⟨old, lasts.remembers.challenges _ old isOld isOver, isOver⟩
        | inr isLast =>
          subst isLast
          exact ⟨chal, found, used⟩
    | inr failed =>
      obtain ⟨-, error, same⟩ := failed
      have isNext : (securedStep service prims s
        (.confirmActivation seen cmd ids outcome now)).1 = s := congrArg Prod.fst same
      rw [isNext]
      exact recorded
  | _ =>
    cases move with
    | nothing nothing => exact recorded.of_same nothing.activations lasts.remembers

theorem installed_recorded (ops : List ServiceOp) :
    Recorded (installed service prims ops).database.tables := by
  induction ops using List.reverseRecOn with
  | nil =>
    intro act mem
    cases mem
  | append_singleton ops op ih =>
    have inv := @installed_sane service prims ops
    rw [installed_concat]
    cases op with
    | request op => exact securedStep_recorded inv.orderly inv.secured ih op
    | restart bindingIds =>
      cases @installationStep_restart service prims _ inv bindingIds with
      | inl done =>
        obtain ⟨t, same, initializes, -⟩ := done
        rw [same]
        intro act mem
        rw [initializes.licenseActivations] at mem
        obtain ⟨chal, found, used⟩ := ih act mem
        refine ⟨chal, ?_, used⟩
        unfold challengeIn
        rw [initializes.activationChallenges]
        exact found
      | inr failed =>
        obtain ⟨error, -, same⟩ := failed
        rw [same]
        exact ih

/-- The confirmation of a request to refill. -/
def RefillRequest.op (request : RefillRequest) (seen : Database) : ServerOp :=
  .confirmActivation seen request.command request.ids none request.now

theorem Refill.securedStep_eq_ok {row : EntitlementRow} {request : RefillRequest}
    {resp : ActivationResponse} (inv : Secured s) (recorded : Recorded s.tables)
    (htab : row ∈ s.tables.entitlements)
    (h : Refill service.settings prims s.tables row request)
    (ans : (securedStep service prims s (request.op s.tables)).2 = .ok (.activation resp)) :
    Refillable s row request.current ∧ resp = refillResponse request row ∧
      refilled request row ∈
        (securedStep service prims s (request.op s.tables)).1.tables.entitlements := by
  obtain ⟨value, same, ran⟩ := atomically_map_eq_ok ans
  cases same
  exact h.confirmCredit_eq_ok inv recorded htab (h.confirmActivation_eq.mp ran)

theorem Refill.securedStep_succeeds {row : EntitlementRow} {req : RefillRequest}
    (inv : Secured s) (recorded : Recorded s.tables) (htab : row ∈ s.tables.entitlements)
    (h : Refill service.settings prims s.tables row req)
    (refillable : Refillable s row req.current) :
    (securedStep service prims s (req.op s.tables)).2 =
      .ok (.activation (refillResponse req row)) := by
  obtain ⟨t, ran⟩ := h.confirmCredit_succeeds inv recorded htab refillable
  have confirmed := h.confirmActivation_eq.mpr ran
  have done := @atomically_of_ok _ _ _ _ s t (ServerReply.activation (refillResponse req row))
    (map_eq_ok.mpr ⟨_, t, confirmed, rfl⟩)
  exact congrArg Prod.snd done

theorem securedStep_status {seen : Database} {cmd : StatusCommand} {now : Nat}
    {resp : StatusResponse} (expired : LeasesExpired s.tables cmd.entitlementId now)
    (ans : (securedStep service prims s (.entitlementStatus seen cmd now)).2 = .ok (.status resp)) :
    let t := (securedStep service prims s (.entitlementStatus seen cmd now)).1
    hasActiveSession t.tables cmd.entitlementId = false ∧
      t.tables.entitlements = s.tables.entitlements ∧ t.pairs = s.pairs := by
  rw [securedStep_plain rfl] at ans ⊢
  obtain ⟨value, -, ran⟩ := atomically_map_eq_ok ans
  exact ⟨entitlementStatus_idle expired ran, (entitlementStatus_calm ran).entitlements, rfl⟩

/-- The devices of an entitlement refill it with a card they never used exactly if the entitlement
    is exhausted, none of its sessions has the status of an active one, and its pair stands at its
    version. Where only the sessions are in the way, and their leases have expired, an answered
    question for the status of the entitlement ends them. -/
theorem exhausted_refilled_iff (service : UsageService) (prims : ServicePrimitives)
    (ops : List ServiceOp) :
    let s := (installed service prims ops).database
    let answer := securedStep service prims s
    (∀ row ∈ s.tables.entitlements, ∀ request,
      Refill service.settings prims s.tables row request →
        ((CardService.newCardActivationTarget prims request.challenge).run s.tables =
          .ok ((.reactivate, row.entitlementId), s.tables) ↔ row.status = .exhausted) ∧
        ((∃ resp, (answer (request.op s.tables)).2 = .ok (.activation resp)) ↔
          Refillable s row request.current) ∧
        ∀ resp, (answer (request.op s.tables)).2 = .ok (.activation resp) →
          resp = refillResponse request row ∧
            refilled request row ∈ (answer (request.op s.tables)).1.tables.entitlements) ∧
    ∀ seen cmd now resp,
      (answer (.entitlementStatus seen cmd now)).2 = .ok (.status resp) →
      LeasesExpired s.tables cmd.entitlementId now →
      ∀ row ∈ s.tables.entitlements, row.entitlementId = cmd.entitlementId →
        row.status = .exhausted → ∀ current, Resumable s row current →
          row ∈ (answer (.entitlementStatus seen cmd now)).1.tables.entitlements ∧
            Refillable (answer (.entitlementStatus seen cmd now)).1 row current := by
  intro s answer
  have inv : Secured s := (installed_sane ops).secured
  have recorded : Recorded s.tables := installed_recorded ops
  constructor
  · intro row inTable request refill
    refine ⟨newCardActivationTarget_iff inTable inv.distinct refill.pair refill.sameDevices, ⟨?_, ?_⟩,
      ?_⟩
    · intro answered
      obtain ⟨resp, answered⟩ := answered
      exact (refill.securedStep_eq_ok inv recorded inTable answered).1
    · intro refillable
      exact ⟨_, refill.securedStep_succeeds inv recorded inTable refillable⟩
    · intro resp answered
      exact (refill.securedStep_eq_ok inv recorded inTable answered).2
  · intro seen cmd now resp answered expired row inTable owner exhausted current resumable
    obtain ⟨idle, entitlements, pairs⟩ := securedStep_status expired answered
    refine ⟨by rw [entitlements]; exact inTable, exhausted, by rw [owner]; exact idle, ?_⟩
    unfold Resumable
    rw [pairs]
    exact resumable

end

/-! ## A refill that is refused

A card whose credit is one lease is activated at 950 and used up at 1000. Its entitlement is revoked
and restored, which leaves it exhausted, and a new card is to refill it. -/

def leaseCard : LicenseCodeRow := { dayCard with durationSeconds := 5 }

def refillCard : LicenseCodeRow := { dayCard with id := 2 }

def refillConfirmation : ConfirmCommand :=
  { dayConfirmation with
    challengeId := List.replicate 32 53
    challengeToken := List.replicate 43 67 }

/-- The challenge that is created at 1020. -/
def refillChallenge : ActivationChallengeRow :=
  { dayChallenge with
    challengeId := List.replicate 32 53
    requestId := List.replicate 32 54
    tokenDigest := CardService.challengeTokenDigest concreteService.settings
      concreteServicePrimitives refillConfirmation.challengeToken
    licenseCodeId := 2
    expiresAtEpoch := 1140
    activationMode := .reactivate
    targetEntitlementId := dayEntitlementId }

def refillIds : ActivationIds :=
  { activationIds with activationId := List.replicate 32 104, bindingId := List.replicate 32 105 }

def refillRequest (current : DeviceBindingRow) : RefillRequest where
  command := refillConfirmation
  ids := refillIds
  challenge := refillChallenge
  card := refillCard
  current := current
  now := 1030

def leaseCardOps : List ServerOp :=
  [.changeCards [leaseCard, refillCard] (fun _ => false),
    .createActivationChallenge dayChallenge 900]

def leaseActivationOps : List ServerOp :=
  leaseCardOps ++ [.confirmActivation
    (secured concreteService concreteServicePrimitives leaseCardOps).tables dayConfirmation
      activationIds none 950]

def exhaustingOps : List ServerOp :=
  let activated := (secured concreteService concreteServicePrimitives leaseActivationOps).tables
  leaseActivationOps ++
    [.createStartChallenge activated startingCommand (List.replicate 32 52) 1000,
      .startUsage activated startingCall (List.replicate 32 99) 1000]

def restoringExhaustedOps : List ServerOp :=
  exhaustingOps ++ [.revokeEntitlement dayEntitlementId none 1010,
    .restoreEntitlement dayEntitlementId, .createActivationChallenge refillChallenge 1020]

def lockedOutOps : List ServiceOp := restoringExhaustedOps.map .request

/-- What the request to refill meets. -/
def MeetsExhausted (s : SecuredDatabase) : Prop :=
  (∃ row ∈ s.tables.entitlements, row.entitlementId = dayEntitlementId ∧
    row.pairId = List.replicate 32 98 ∧ row.remainingSeconds = 0 ∧ row.revocationVersion = 3) ∧
  (∃ row ∈ s.tables.deviceBindings, currentBinding s.tables dayEntitlementId = some row ∧
    row.pairId = List.replicate 32 98 ∧ row.hostKeySha256 = List.replicate 64 100 ∧
    row.androidKeySha256 = List.replicate 64 101) ∧
  s.tables.usageSessions.map UsageSessionRow.leaseExpiresAtEpoch = [1005] ∧
  (∀ pair ∈ s.pairs, pair.assuranceState = .revoked) ∧
  s.tables.licenseCodes.map LicenseCodeRow.id = [1, 2] ∧
  lookup LicenseCodeRow.id 2 s.tables.licenseCodes = some refillCard ∧
  s.tables.activationChallenges.map ActivationChallengeRow.challengeId =
    [List.replicate 32 55, List.replicate 32 53] ∧
  challengeIn s.tables (List.replicate 32 53) = some refillChallenge ∧
  s.tables.deviceBindings.length = 1 ∧
  s.tables.licenseActivations.map (fun row => (row.licenseCodeId, row.activationId)) =
    [(1, List.replicate 32 99)]

instance (s : SecuredDatabase) : Decidable (MeetsExhausted s) := by
  unfold MeetsExhausted
  infer_instance

theorem lockedOutOps_meets : MeetsExhausted
    (installed concreteService concreteServicePrimitives lockedOutOps).database := by
  decide +kernel

theorem refillConfirmation_checked {db : Database}
    (found : challengeIn db (List.replicate 32 53) = some refillChallenge) :
    (CardService.confirmActivationChecks concreteService.settings concreteServicePrimitives
      refillConfirmation 1030).run db = .ok (refillChallenge, db) := by
  have signed : (activationConfirmationPayload concreteServicePrimitives.crypto refillChallenge
      refillConfirmation.challengeToken).isSome = true := by decide +kernel
  obtain ⟨payload, isPayload⟩ := Option.isSome_iff_exists.mp signed
  have isChallenge : challengeIn db refillConfirmation.challengeId = some refillChallenge :=
    found
  unfold CardService.confirmActivationChecks
  rw [bind_ok]
  refine ⟨_, db, rfl, ?_⟩
  unfold CardService.verifyConfirmation
  rw [isChallenge, Option.filter_some_pos (by simp [refillChallenge, dayChallenge]), unwrap_ok]
  refine ⟨_, rfl, ?_⟩
  rw [unwrap_ok]
  refine ⟨payload, isPayload, ?_⟩
  rw [require_ok]
  exact ⟨⟨beq_self_eq_true _, beq_self_eq_true _⟩, rfl⟩

/-- The devices of an entitlement that was revoked and restored while it was exhausted cannot refill
    it. -/
theorem restored_not_refilled :
    ¬∀ ops row request,
      row ∈ (installed concreteService concreteServicePrimitives ops).database.tables.entitlements →
      row.remainingSeconds = 0 →
      LeasesExpired (installed concreteService concreteServicePrimitives ops).database.tables
        row.entitlementId request.now →
      Refill concreteService.settings concreteServicePrimitives
        (installed concreteService concreteServicePrimitives ops).database.tables row request →
      ∃ resp, (securedStep concreteService concreteServicePrimitives
        (installed concreteService concreteServicePrimitives ops).database
        (request.op (installed concreteService concreteServicePrimitives ops).database.tables)).2 =
          .ok (.activation resp) := by
  intro always
  have inv := (@installed_sane concreteService concreteServicePrimitives lockedOutOps).secured
  have recorded := @installed_recorded concreteService concreteServicePrimitives lockedOutOps
  obtain ⟨⟨row, inTable, owner, pair, empty, version⟩, ⟨current, inBindings, bound, boundPair,
    hostKey, androidKey⟩, sessions, revoked, codes, card, challenges, challenge, single,
    activations⟩ := lockedOutOps_meets
  have always := always lockedOutOps
  generalize (installed concreteService concreteServicePrimitives lockedOutOps).database = s at *
  have activated (act : LicenseActivationRow)
      (member : act ∈ s.tables.licenseActivations) :
      act.licenseCodeId = 1 ∧ act.activationId = List.replicate 32 99 := by
    have inList := List.mem_map_of_mem (f := fun row : LicenseActivationRow =>
      (row.licenseCodeId, row.activationId)) member
    rw [activations, List.mem_singleton] at inList
    exact Prod.ext_iff.mp inList
  have refill : Refill concreteService.settings concreteServicePrimitives s.tables row
      (refillRequest current) := by
    refine ⟨⟨?_, ?_, ?_⟩, refillConfirmation_checked challenge, rfl, rfl, owner.symm, ?_, pair.symm,
      by rw [owner]; exact bound, boundPair.trans pair.symm, hostKey, androidKey, rfl, card, ?_, ?_,
      ?_, ?_, ?_, ?_⟩
    · rw [codes]
      decide
    · rw [challenges]
      decide
    · obtain ⟨only, isOnly⟩ := List.length_eq_one_iff.mp single
      rw [isOnly]
      simp
    · change List.replicate 64 100 ≠ List.replicate 64 101
      decide
    · change cardIsAvailable 1030 refillCard = true
      decide
    · intro act member
      simp [(activated act member).1, refillRequest, refillCard]
    · intro act member
      rw [(activated act member).2]
      change List.replicate 32 99 ≠ List.replicate 32 104
      decide
    · change fitsInteger 86400 = true
      decide
    · rw [version]
      decide
    · change 1 ≤ 1030 ∧ fitsInteger 1030 = true
      decide
  have expired : LeasesExpired s.tables row.entitlementId (refillRequest current).now := by
    intro sess member _
    have inList := List.mem_map_of_mem (f := UsageSessionRow.leaseExpiresAtEpoch) member
    rw [sessions, List.mem_singleton] at inList
    rw [inList]
    change 1005 ≤ 1030
    decide
  obtain ⟨resp, answered⟩ := always row (refillRequest current) inTable empty expired refill
  have refillable := (refill.securedStep_eq_ok inv recorded inTable answered).1
  obtain ⟨state, inPairs, -, -, -, -, resumes⟩ := refillable.resumable
  simp [revoked state inPairs] at resumes

end VisionForge.PairSecurity
