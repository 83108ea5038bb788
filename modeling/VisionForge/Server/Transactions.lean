import VisionForge.Server.System

/-! # Every transaction is a move

What the statements of the service do to the tables that matter to the books, and
from that what every transaction does. Two things are never forgotten: a start that
was cancelled, and an activation challenge that was consumed.
-/

namespace VisionForge.Server

open Lib.Ascii Lib.Table Lib.Transaction UsageLease UsageRepository UsageService LicenseRepository

def cancellationIn (database : Database) (entitlementId startRequestId : Bytes) :
    Option StartCancellationRow :=
  database.usageStartCancellations.find? (fun row =>
    row.entitlementId = entitlementId ∧ row.startRequestId = startRequestId)

structure Remembers (s t : Database) : Prop where
  cancellations : ∀ entitlementId startRequestId row,
    cancellationIn s entitlementId startRequestId = some row →
    ∃ new, cancellationIn t entitlementId startRequestId = some new ∧
      (row.authenticatedRequestHash ≠ [] → new = row)
  challenges : ∀ challengeId row, challengeIn s challengeId = some row → row.status = .consumed →
    challengeIn t challengeId = some row

theorem Remembers.refl (s : Database) : Remembers s s :=
  ⟨fun _ _ row found => ⟨row, found, fun _ => rfl⟩, fun _ _ found _ => found⟩

theorem Remembers.trans {s t u : Database} (first : Remembers s t) (snd : Remembers t u) :
    Remembers s u := by
  constructor
  · intro entId startRequestId row found
    obtain ⟨middle, inMiddle, same⟩ := first.cancellations _ _ row found
    obtain ⟨last, inLast, still⟩ := snd.cancellations _ _ middle inMiddle
    refine ⟨last, inLast, ?_⟩
    intro whole
    have isRow := same whole
    subst isRow
    exact still whole
  · intro challengeId row found used
    exact snd.challenges _ row (first.challenges _ row found used) used

/-- Tables that are the same, apart from challenges that are not consumed. -/
structure Quiet (s t : Database) : Prop where
  entitlements : t.entitlements = s.entitlements
  deviceBindings : t.deviceBindings = s.deviceBindings
  usageSessions : t.usageSessions = s.usageSessions
  usageLedger : t.usageLedger = s.usageLedger
  usageStartCancellations : t.usageStartCancellations = s.usageStartCancellations
  licenseActivations : t.licenseActivations = s.licenseActivations
  challenges : ∀ challengeId row, challengeIn s challengeId = some row → row.status = .consumed →
    challengeIn t challengeId = some row

/-- Tables that are the same, apart from sessions that end. -/
structure Calm (s t : Database) : Prop where
  entitlements : t.entitlements = s.entitlements
  deviceBindings : t.deviceBindings = s.deviceBindings
  usageSessions : Settles s.usageSessions t.usageSessions
  usageLedger : t.usageLedger = s.usageLedger
  usageStartCancellations : t.usageStartCancellations = s.usageStartCancellations
  licenseActivations : t.licenseActivations = s.licenseActivations
  challenges : ∀ challengeId row, challengeIn s challengeId = some row → row.status = .consumed →
    challengeIn t challengeId = some row

section

variable {s t u : Database}

theorem Quiet.refl (s : Database) : Quiet s s :=
  ⟨rfl, rfl, rfl, rfl, rfl, rfl, fun _ _ found _ => found⟩

theorem Quiet.trans (first : Quiet s t) (snd : Quiet t u) : Quiet s u where
  entitlements := snd.entitlements.trans first.entitlements
  deviceBindings := snd.deviceBindings.trans first.deviceBindings
  usageSessions := snd.usageSessions.trans first.usageSessions
  usageLedger := snd.usageLedger.trans first.usageLedger
  usageStartCancellations := snd.usageStartCancellations.trans first.usageStartCancellations
  licenseActivations := snd.licenseActivations.trans first.licenseActivations
  challenges := fun id row found used =>
    snd.challenges id row (first.challenges id row found used) used

theorem Quiet.calm (h : Quiet s t) : Calm s t :=
  ⟨h.entitlements, h.deviceBindings, h.usageSessions ▸ Settles.refl _, h.usageLedger,
    h.usageStartCancellations, h.licenseActivations, h.challenges⟩

theorem Calm.refl (s : Database) : Calm s s := (Quiet.refl s).calm

theorem Calm.trans (first : Calm s t) (snd : Calm t u) : Calm s u where
  entitlements := snd.entitlements.trans first.entitlements
  deviceBindings := snd.deviceBindings.trans first.deviceBindings
  usageSessions := first.usageSessions.trans snd.usageSessions
  usageLedger := snd.usageLedger.trans first.usageLedger
  usageStartCancellations := snd.usageStartCancellations.trans first.usageStartCancellations
  licenseActivations := snd.licenseActivations.trans first.licenseActivations
  challenges := fun id row found used =>
    snd.challenges id row (first.challenges id row found used) used

theorem Remembers.of_same (cancellations : t.usageStartCancellations = s.usageStartCancellations)
    (challenges : ∀ challengeId row, challengeIn s challengeId = some row →
      row.status = .consumed → challengeIn t challengeId = some row) : Remembers s t := by
  refine ⟨?_, challenges⟩
  intro entId startRequestId row found
  refine ⟨row, ?_, fun _ => rfl⟩
  unfold cancellationIn at found ⊢
  rw [cancellations]
  exact found

theorem Calm.remembers (h : Calm s t) : Remembers s t :=
  .of_same h.usageStartCancellations h.challenges

theorem Buries.of_same (cancellations : t.usageStartCancellations = s.usageStartCancellations) :
    Buries s t := by
  intro cancel mem
  rw [cancellations] at mem
  exact .inl ⟨cancel, mem, rfl, rfl⟩

theorem Calm.amends (h : Calm s t) : Amends (fun _ => False) s t where
  entitlements := ⟨id, by simp [h.entitlements], fun _ _ => ⟨rfl, rfl⟩, fun _ _ _ => rfl⟩
  bindings := fun id _ => currentBinding_congr h.deviceBindings id
  ledger := h.usageLedger
  activations := h.licenseActivations
  sessions := h.usageSessions
  idle := fun _ => False.elim
  buries := .of_same h.usageStartCancellations

end

section

variable {s t : Database}

variable {now : Nat}

theorem consumeNonce_quiet {scope : NonceScope} {subjectId digest : Bytes} {expiresAt : Nat}
    {fresh : Bool} (h : (consumeNonce scope subjectId digest now expiresAt).run s = .ok (fresh, t)) :
    Quiet s t := by
  unfold consumeNonce at h
  rw [get_ok] at h
  dsimp only at h
  split at h
  · cases h
    exact ⟨rfl, rfl, rfl, rfl, rfl, rfl, fun _ _ found _ => found⟩
  · cases h
    exact ⟨rfl, rfl, rfl, rfl, rfl, rfl, fun _ _ found _ => found⟩

theorem consumeStartChallenge_quiet {challengeId : Bytes} {used : Bool}
    (h : (consumeStartChallenge challengeId now).run s = .ok (used, t)) : Quiet s t := by
  cases h
  exact ⟨rfl, rfl, rfl, rfl, rfl, rfl, fun _ _ found _ => found⟩

theorem expireStartChallengesWhere_quiet {cond : StartChallengeRow → Bool}
    (h : (expireStartChallengesWhere cond).run s = .ok ((), t)) : Quiet s t := by
  cases h
  exact ⟨rfl, rfl, rfl, rfl, rfl, rfl, fun _ _ found _ => found⟩

theorem createStartChallenge_quiet {row : StartChallengeRow}
    (h : (UsageRepository.createStartChallenge row).run s = .ok ((), t)) : Quiet s t := by
  unfold UsageRepository.createStartChallenge at h
  rw [get_ok, require_ok, require_ok] at h
  cases h.2.2
  exact ⟨rfl, rfl, rfl, rfl, rfl, rfl, fun _ _ found _ => found⟩

/-- Rewriting challenges that are issued keeps those that are consumed. -/
theorem challengeIn_update {cond : ActivationChallengeRow → Bool}
    {change : ActivationChallengeRow → ActivationChallengeRow}
    (keys : ∀ row, (change row).challengeId = row.challengeId)
    (issued : ∀ row, cond row = true → row.status = .issued) {challengeId : Bytes}
    {row : ActivationChallengeRow} (found : challengeIn s challengeId = some row)
    (used : row.status = .consumed) :
    lookup ActivationChallengeRow.challengeId challengeId
      (update cond change s.activationChallenges) = some row := by
  unfold challengeIn at found
  rw [lookup_update keys, found, Option.map_some]
  have other : ¬cond row = true := by
    intro holds
    rw [issued row holds] at used
    cases used
  rw [if_neg other]

theorem expireChallengesWhere_quiet {cond : ActivationChallengeRow → Bool}
    (h : (expireChallengesWhere cond).run s = .ok ((), t)) : Quiet s t := by
  cases h
  refine ⟨rfl, rfl, rfl, rfl, rfl, rfl, ?_⟩
  intro challengeId row found used
  refine challengeIn_update ?_ ?_ found used
  · intro row
    rfl
  intro row holds
  simp only [Bool.and_eq_true, decide_eq_true_eq] at holds
  exact holds.1

theorem consumeChallenge_quiet {challengeId : Bytes} {used : Bool}
    (h : (consumeChallenge challengeId now).run s = .ok (used, t)) : Quiet s t := by
  cases h
  refine ⟨rfl, rfl, rfl, rfl, rfl, rfl, ?_⟩
  intro id row found done
  refine challengeIn_update ?_ ?_ found done
  · intro row
    rfl
  intro row holds
  simp only [canConsumeChallenge, Bool.and_eq_true, decide_eq_true_eq] at holds
  exact holds.1.2

theorem createChallenge_quiet {row : ActivationChallengeRow}
    (h : (createChallenge row).run s = .ok ((), t)) : Quiet s t := by
  unfold createChallenge at h
  rw [get_ok, require_ok] at h
  cases h.2
  refine ⟨rfl, rfl, rfl, rfl, rfl, rfl, ?_⟩
  intro challengeId old found _
  unfold challengeIn lookup at found ⊢
  rw [List.find?_append, found]
  rfl

theorem consumeCode_quiet {codeId : Nat} {used : Bool}
    (h : (consumeCode codeId now).run s = .ok (used, t)) : Quiet s t := by
  cases h
  exact ⟨rfl, rfl, rfl, rfl, rfl, rfl, fun _ _ found _ => found⟩

theorem writeSessions_calm {cond : UsageSessionRow → Bool} {status : SessionStatus}
    {endedAt : Option Nat} {reason : String}
    (on : ∀ row, cond row = true → row.status = .active) (isOver : status ≠ .active)
    (h : (Database.writeSessions (update cond
      (fun row => { row with status := status, endedAtEpoch := endedAt, endedReason := reason })
      s.usageSessions)).run s = .ok ((), t)) : Calm s t ∧ t.usageSessions = update cond
      (fun row => { row with status := status, endedAtEpoch := endedAt, endedReason := reason })
      s.usageSessions := by
  obtain ⟨holds, same⟩ := writeSessions_eq_ok.mp h
  cases same
  refine ⟨⟨rfl, rfl, ?_, rfl, rfl, rfl, fun _ _ found _ => found⟩, rfl⟩
  exact forall₂_update Rests.same (fun row _ sel => .ended (on row sel) isOver)

theorem expireStaleSessions_calm {entId : Bytes} {count : Nat}
    (h : (expireStaleSessions entId now).run s = .ok (count, t)) : Calm s t := by
  unfold expireStaleSessions at h
  rw [get_ok, bind_ok] at h
  obtain ⟨⟨⟩, _, written, last⟩ := h
  cases last
  refine (writeSessions_calm ?_ (by decide) written).1
  intro row holds
  simp only [decide_eq_true_eq] at holds
  exact holds.2.1

theorem endSession_calm {sid : Bytes} {reason : String} {stopped : Bool}
    (h : (endSession sid now reason).run s = .ok (stopped, t)) : Calm s t := by
  unfold endSession at h
  rw [get_ok, bind_ok] at h
  obtain ⟨⟨⟩, _, written, last⟩ := h
  cases last
  refine (writeSessions_calm ?_ (by decide) written).1
  intro row holds
  simp only [isActiveSession, Bool.and_eq_true, decide_eq_true_eq] at holds
  exact holds.2

theorem endSessionsOf_calm {entId : Bytes} {status : SessionStatus} {reason : String}
    (isOver : status ≠ .active)
    (h : (endSessionsOf entId status now reason).run s = .ok ((), t)) :
    Calm s t ∧ Idle t entId := by
  unfold endSessionsOf at h
  obtain ⟨calm, same⟩ := writeSessions_calm
    (fun row holds => by simpa using (Bool.and_eq_true_iff.mp holds).2) isOver h
  refine ⟨calm, ?_⟩
  intro row mem owner on
  rw [same] at mem
  cases mem_update mem with
  | inl kept => simp [owner, on] at kept
  | inr replaced =>
    obtain ⟨old, -, -, rfl⟩ := replaced
    exact isOver on

end

theorem rollsBack_writeChecked (hc : Prop) [Decidable hc]
    (write : hc → Database → Database) : RollsBack (Database.writeChecked hc write) := by
  apply RollsBack.bind RollsBack.get
  intro db
  split
  · exact .set _
  · exact .raise _

theorem rollsBack_requireSupportedEntitlementVersions (offered : Option EntitlementRow)
    (settings : DualMachineSettings) :
    RollsBack (requireSupportedEntitlementVersions offered settings) := by
  unfold requireSupportedEntitlementVersions
  split
  · exact .pure _
  · apply RollsBack.bind (.unwrap _ _)
    intro host
    split
    · exact .raise _
    · apply RollsBack.bind (.unwrap _ _)
      intro android
      split
      · exact .raise _
      · exact .pure _

theorem rollsBack_requireEntitlementBinding (offered : Option EntitlementRow)
    (cmd : UsageCommon) : RollsBack (requireEntitlementBinding offered cmd) :=
  .unwrap _ _

theorem rollsBack_requireSessionBinding (found : Option UsageSessionRow)
    (offered : Option EntitlementRow) (cmd : HeartbeatCommand) :
    RollsBack (requireSessionBinding found offered cmd) :=
  .bind (rollsBack_requireEntitlementBinding _ _) (fun _ => .unwrap _ _)

theorem rollsBack_consumeNonce (scope : NonceScope) (subjectId digest : Bytes)
    (now expiresAt : Nat) : RollsBack (consumeNonce scope subjectId digest now expiresAt) := by
  apply RollsBack.bind .get
  intro db
  dsimp only
  split
  · exact .bind (.set _) (fun _ => .pure _)
  · exact .bind (.set _) (fun _ => .pure _)

theorem rollsBack_sessionResponse (service : UsageService) (prims : Primitives)
    (ent : EntitlementRow) (row : UsageSessionRow) (hchg : Nat) :
    RollsBack (service.sessionResponse prims ent row hchg) := by
  unfold sessionResponse
  split
  · exact .pure _
  · apply RollsBack.bind (.ofExcept _)
    intro lease
    exact .bind (.require _ _) (fun _ => .pure _)

theorem rollsBack_duplicateHeartbeatResponse (service : UsageService) (prims : Primitives)
    (ent : EntitlementRow) (row : UsageSessionRow) (cmd : HeartbeatCommand)
    (requestHash : Bytes) :
    RollsBack (service.duplicateHeartbeatResponse prims ent row cmd
      requestHash) := by
  unfold duplicateHeartbeatResponse
  split
  · exact .pure _
  · apply RollsBack.bind (.require _ _)
    intro _
    apply RollsBack.bind (.bind .get (fun _ => .pure _))
    intro charge
    exact .bind (rollsBack_sessionResponse _ _ _ _ _) (fun _ => .pure _)

theorem rollsBack_renewLease (service : UsageService) (prims : Primitives)
    (pre : EntitlementRow) (row : UsageSessionRow) (cmd : HeartbeatCommand)
    (requestHash : Bytes) (now : Nat) :
    RollsBack (service.renewLease prims pre row cmd requestHash now) := by
  unfold renewLease chargeEntitlement recordCharge
  apply RollsBack.bind
  · split
    · exact .pure _
    · apply RollsBack.bind .get
      intro db
      apply RollsBack.bind (rollsBack_writeChecked _ _)
      intro _
      apply RollsBack.bind (.require _ _)
      intro _
      exact .bind (.bind .get (fun _ => .pure _)) (fun _ => .unwrap _ _)
  intro after
  apply RollsBack.bind (.ofExcept _)
  intro lease
  apply RollsBack.bind
  · split
    · exact .pure _
    · apply RollsBack.bind .get
      intro db
      exact .bind (.require _ _) (fun _ => rollsBack_writeChecked _ _)
  intro _
  apply RollsBack.bind
  · apply RollsBack.bind .get
    intro db
    exact .bind (rollsBack_writeChecked _ _) (fun _ => .require _ _)
  intro _
  apply RollsBack.bind (.bind .get (fun _ => .pure _))
  intro updated
  exact .bind (.unwrap _ _) (fun _ => .pure _)
section

variable (service : UsageService) (prims : Primitives)

/-- The current lease of a session, signed again. -/
def resign (entitlement : EntitlementRow) (row : UsageSessionRow) :
    Except ServerException IssuedLease :=
  service.tokenCodec.issueUsageLease prims.crypto
    { entitlement with remainingSeconds := row.leaseRemainingSeconds } row.sessionId
    row.channelBindingSha256 row.lastHeartbeatSequence row.leasePhase
    (row.leaseExpiresAtEpoch - row.leaseNotBeforeEpoch) row.previousLeaseSha256
    row.leaseIssuedAtEpoch row.leaseNotBeforeEpoch

/-- A lease that an active session already has. -/
def Resigned (database : Database) (sessionId : Bytes) (lease : IssuedLease) : Prop :=
  ∃ row entitlement, sessionIn database sessionId = some row ∧ row.status = .active ∧
    entitlementIn database row.entitlementId = some entitlement ∧
    resign service prims entitlement row = .ok lease

def leaseOf : ServerAnswer → Option (Bytes × IssuedLease)
  | .ok (.usage response) => response.lease.map (fun lease => (response.sessionId, lease))
  | _ => none

/-- A transaction is a move, it remembers, and the lease in its answer is the one it gave out
    or, if it gave out none, one that a session already has. -/
structure Performs (s t : Database) (grant : Option Grant) (answer : ServerAnswer) : Prop where
  move : Move service prims s t grant
  remembers : Remembers s t
  granted : ∀ given, grant = some given → leaseOf answer = some (given.sessionId, given.lease)
  repeated : grant = none → ∀ sessionId lease, leaseOf answer = some (sessionId, lease) →
    Resigned service prims t sessionId lease

end

section

variable {service : UsageService} {prims : Primitives} {s t u : Database}

theorem Amends.performs {sel : Bytes → Prop} {ans : ServerAnswer}
    (amends : Amends sel s t) (remembers : Remembers s t) (silent : leaseOf ans = none) :
    Performs service prims s t none ans where
  move := .amended amends
  remembers := remembers
  granted := fun _ no => by cases no
  repeated := fun _ sid lease found => by rw [silent] at found; cases found

theorem Calm.performs {answer : ServerAnswer} (calm : Calm s t) (silent : leaseOf answer = none) :
    Performs service prims s t none answer :=
  calm.amends.performs calm.remembers silent

theorem startChallengeResponse_eq_ok {row : StartChallengeRow} {resp : StartChallengeResponse}
    (h : (service.startChallengeResponse prims row).run s = .ok (resp, t)) : t = s := by
  unfold startChallengeResponse at h
  rw [require_ok] at h
  cases h.2
  rfl

theorem createStartChallenge_calm {seen : Database} {cmd : StartChallengeCommand}
    {challengeId : Bytes} {resp : StartChallengeResponse}
    (h : (service.createStartChallenge prims seen cmd challengeId now).run s =
      .ok (resp, t)) : Calm s t := by
  unfold UsageService.createStartChallenge at h
  rw [require_ok, reading_ok] at h
  obtain ⟨-, -, -, -, h⟩ := h
  unfold createStartChallengeTransaction at h
  rw [bind_ok] at h
  obtain ⟨⟨⟩, _, expiring, h⟩ := h
  have expired := expireStartChallengesWhere_quiet expiring
  replace h := offered_ok h
  obtain ⟨versions, h⟩ := h
  rw [bind_ok] at h
  obtain ⟨_, _, requiring, h⟩ := h
  obtain ⟨rfl, -⟩ := requireActiveEntitlement_eq_ok requiring
  replace h := read_ok h rfl
  split at h
  · rw [require_ok, require_ok] at h
    obtain rfl := (startChallengeResponse_eq_ok h.2.2).symm
    exact expired.calm
  · rw [bind_ok] at h
    obtain ⟨⟨⟩, _, creating, h⟩ := h
    obtain rfl := (startChallengeResponse_eq_ok h).symm
    exact (expired.trans (createStartChallenge_quiet (recast_eq_ok.mp creating))).calm

theorem entitlementStatus_calm {seen : Database} {cmd : StatusCommand}
    {resp : StatusResponse}
    (h : (service.entitlementStatus prims seen cmd now).run s = .ok (resp, t)) :
    Calm s t := by
  unfold entitlementStatus at h
  rw [require_ok, reading_ok] at h
  obtain ⟨-, -, -, -, h⟩ := h
  obtain ⟨row, _, checking, h⟩ := bind_ok.mp h
  replace checking := read_ok checking rfl
  rw [← bind_pure (ofExcept _), ofExcept_ok] at checking
  obtain ⟨_, -, last⟩ := checking
  cases last
  obtain ⟨_, _, expiring, h⟩ := bind_ok.mp h
  have expired := expireStaleSessions_calm expiring
  obtain ⟨_, _, consuming, h⟩ := bind_ok.mp h
  have used := consumeNonce_quiet consuming
  rw [require_ok] at h
  have last := read_ok h.2 rfl
  cases last
  exact expired.trans used.calm

theorem stopResponse_eq_ok {ent : EntitlementRow} {sid : Bytes}
    {resp : StopResponse}
    (h : (stopResponse ent sid).run s = .ok (resp, t)) : t = s := by
  replace h := read_ok h rfl
  obtain ⟨_, -, last⟩ := unwrap_ok.mp h
  cases last
  rfl

theorem stopUsage_calm {seen : Database} {cmd : StopCommand} {resp : StopResponse}
    (h : (service.stopUsage prims seen cmd now).run s = .ok (resp, t)) : Calm s t := by
  unfold stopUsage at h
  rw [require_ok, reading_ok] at h
  obtain ⟨-, ent, -, -, h⟩ := h
  replace h := read_ok h rfl
  obtain ⟨row, -, h⟩ := unwrap_ok.mp h
  split at h
  · rw [require_ok, bind_ok] at h
    obtain ⟨-, _, _, ending, h⟩ := h
    obtain rfl := (stopResponse_eq_ok h).symm
    exact endSession_calm ending
  · obtain rfl := (stopResponse_eq_ok h).symm
    exact .refl s

end

end VisionForge.Server
