import VisionForge.PairSecurity.Runs

/-! # What a revocation means

The security state of an entitlement is all that decides whether it can be used. Revoking
is one function of that state; revoking an entitlement and revoking its batch both compute
it on the tables they share.
-/

namespace VisionForge.PairSecurity

open Lib.Ascii Lib.Run Lib.Table Lib.Transaction Server LicenseRepository UsageRepository

/-- The status and the revocation version of an entitlement, and the statuses of its sessions and
    of the challenges that would use it. -/
structure SecurityState where
  entitlement : Option (EntitlementStatus × Nat)
  sessions : List (Bytes × SessionStatus)
  startChallenges : List (Bytes × ChallengeStatus)
  activationChallenges : List (Bytes × ActivationChallengeStatus)
  deriving DecidableEq

namespace SecurityState

def revokeEntitlement (state : SecurityState) : SecurityState :=
  { state with
    entitlement := state.entitlement.map (fun held =>
      (.revoked, if held.1 = .revoked then held.2 else held.2 + 1)) }

def endSessions (state : SecurityState) : SecurityState :=
  { state with sessions := settle .active .revoked state.sessions }

def expireStartChallenges (state : SecurityState) : SecurityState :=
  { state with startChallenges := settle .issued .expired state.startChallenges }

def expireActivationChallenges (state : SecurityState) : SecurityState :=
  { state with activationChallenges := settle .issued .expired state.activationChallenges }

def revoked (state : SecurityState) : SecurityState :=
  state.revokeEntitlement.endSessions.expireStartChallenges.expireActivationChallenges

theorem revokeEntitlement_eq_self {state : SecurityState}
    (isRevoked : ∀ held, state.entitlement = some held → held.1 = .revoked) :
    state.revokeEntitlement = state := by
  obtain ⟨ent, _, _, _⟩ := state
  cases ent with
  | none => rfl
  | some held =>
    have same := isRevoked held rfl
    simp only [revokeEntitlement, Option.map_some, same, if_true, SecurityState.mk.injEq, and_self,
      and_true, Option.some.injEq]
    exact Prod.ext same.symm rfl

theorem endSessions_eq_self {state : SecurityState}
    (idle : ∀ sess ∈ state.sessions, sess.2 ≠ .active) : state.endSessions = state := by
  unfold endSessions
  rw [settle_eq_self idle]

end SecurityState

def securityState (database : Database) (entitlementId : Bytes) : SecurityState where
  entitlement := (lookup EntitlementRow.entitlementId entitlementId database.entitlements).map
    (fun row => (row.status, row.revocationVersion))
  sessions := statusesOf UsageSessionRow.entitlementId UsageSessionRow.sessionId
    UsageSessionRow.status entitlementId database.usageSessions
  startChallenges := statusesOf StartChallengeRow.entitlementId StartChallengeRow.challengeId
    StartChallengeRow.status entitlementId database.usageStartChallenges
  activationChallenges := statusesOf ActivationChallengeRow.targetEntitlementId
    ActivationChallengeRow.challengeId ActivationChallengeRow.status entitlementId
    database.activationChallenges

def pairStates (database : SecuredDatabase) (entitlementId : Bytes) :
    List (Bytes × AssuranceState) :=
  statusesOf PairSecurityRow.entitlementId PairSecurityRow.pairId PairSecurityRow.assuranceState
    entitlementId database.pairs

/-- The security state of one entitlement is changed by a function. -/
structure Affects (owner : Bytes) (change : SecurityState → SecurityState) (s t : Database) : Prop where
  own : securityState t owner = change (securityState s owner)
  others : ∀ other, other ≠ owner → securityState t other = securityState s other

section

variable {s t u : Database} {owner : Bytes} {now : Nat}

theorem Affects.trans {f g : SecurityState → SecurityState} (first : Affects owner f s t)
    (snd : Affects owner g t u) : Affects owner (g ∘ f) s u := by
  constructor
  · rw [snd.own, first.own]
    rfl
  · intro other apart
    rw [snd.others other apart, first.others other apart]

theorem expireChallengesWhere_affects
    (h : (expireChallengesWhere (fun row => row.targetEntitlementId == owner)).run s =
      .ok ((), t)) : Affects owner SecurityState.expireActivationChallenges s t := by
  cases h
  constructor
  · simp only [securityState, SecurityState.expireActivationChallenges]
    congr 1
    apply statusesOf_update
    · intro row owned
      simp [owned]
    · intro row
      exact ⟨rfl, rfl, rfl⟩
  · intro other apart
    simp only [securityState]
    congr 1
    apply statusesOf_update_of_ne
    · intro row holds same
      simp [same, apart] at holds
    · intro row
      rfl

theorem expireStartChallengesWhere_affects
    (h : (expireStartChallengesWhere (fun row => row.entitlementId == owner)).run s =
      .ok ((), t)) : Affects owner SecurityState.expireStartChallenges s t := by
  cases h
  constructor
  · simp only [securityState, SecurityState.expireStartChallenges]
    congr 1
    apply statusesOf_update
    · intro row owned
      simp [owned]
    · intro row
      exact ⟨rfl, rfl, rfl⟩
  · intro other apart
    simp only [securityState]
    congr 1
    apply statusesOf_update_of_ne
    · intro row holds same
      simp [same, apart] at holds
    · intro row
      rfl

theorem endSessionsOf_affects {reason : String}
    (h : (endSessionsOf owner .revoked now reason).run s = .ok ((), t)) :
    Affects owner SecurityState.endSessions s t := by
  unfold endSessionsOf at h
  rw [get_ok, Database.writeSessions, Database.writeChecked_eq_ok] at h
  obtain ⟨_, res⟩ := h
  cases res
  constructor
  · simp only [securityState, SecurityState.endSessions]
    congr 1
    apply statusesOf_update
    · intro row owned
      simp [owned]
    · intro row
      exact ⟨rfl, rfl, rfl⟩
  · intro other apart
    simp only [securityState]
    congr 1
    apply statusesOf_update_of_ne
    · intro row holds same
      simp [same, apart] at holds
    · intro row
      rfl

theorem updateEntitlement_affects
    (unrevoked : ∀ row ∈ s.entitlements, row.entitlementId = owner → row.status ≠ .revoked)
    (h : (AdminService.updateEntitlement owner AdminService.revoked).run s = .ok ((), t)) :
    Affects owner SecurityState.revokeEntitlement s t := by
  unfold AdminService.updateEntitlement at h
  obtain ⟨_, _, rfl⟩ := writeEntitlements_eq_ok h
  constructor
  · simp only [securityState, SecurityState.revokeEntitlement]
    congr 1
    rw [lookup_update (fun _ => by rfl)]
    cases found : lookup EntitlementRow.entitlementId owner s.entitlements with
    | none => rfl
    | some row =>
      obtain ⟨member, isOwner⟩ := lookup_key found
      simp [isOwner, AdminService.revoked, unrevoked row member isOwner]
  · intro other apart
    simp only [securityState]
    congr 1
    rw [lookup_update (fun _ => by rfl)]
    cases found : lookup EntitlementRow.entitlementId other s.entitlements with
    | none => rfl
    | some row =>
      have isOther := (lookup_key found).2
      simp [isOther, apart]

end

section

variable {s : Database} {row : EntitlementRow}

theorem securityState_entitlement (mem : row ∈ s.entitlements) :
    (securityState s row.entitlementId).entitlement = some (row.status, row.revocationVersion) := by
  simp only [securityState, lookup_of_mem s.entitlementKeys mem, Option.map_some]

theorem status_of_securityState {owner : Bytes} {held : EntitlementStatus × Nat}
    (h : (securityState s owner).entitlement = some held) (mem : row ∈ s.entitlements)
    (isOwner : row.entitlementId = owner) : row.status = held.1 := by
  rw [← isOwner, securityState_entitlement mem] at h
  cases h
  rfl

theorem idle_iff {owner : Bytes} :
    Idle s owner ↔ ∀ sess ∈ (securityState s owner).sessions, sess.2 ≠ .active := by
  constructor
  · intro idle sess mem
    obtain ⟨row, hrow, rfl⟩ := List.mem_map.mp mem
    rw [List.mem_filter, decide_eq_true_eq] at hrow
    exact idle row hrow.1 hrow.2
  · intro none row mem isOwner
    subst isOwner
    exact none _ (mem_statusesOf mem)

end

section

variable {s t : Database} {owner : Bytes} {now : Nat}

theorem expireChallengesOf_affects (h : (AdminService.expireChallengesOf owner).run s = .ok ((), t)) :
    Affects owner (SecurityState.expireActivationChallenges ∘ SecurityState.expireStartChallenges)
      s t := by
  obtain ⟨⟨⟩, u, starts, activations⟩ := bind_ok.mp h
  exact (expireStartChallengesWhere_affects starts).trans (expireChallengesWhere_affects activations)

theorem recordRevocation_affects {row : EntitlementRow} {resp : AdminService.RevokeResponse}
    (h : (recordRevocation owner row).run s = .ok (resp, t)) :
    Affects owner (SecurityState.expireActivationChallenges ∘ SecurityState.expireStartChallenges)
      s t := by
  obtain ⟨⟨⟩, u, expiring, h⟩ := bind_ok.mp h
  obtain ⟨updated, _, reading, last⟩ := bind_ok.mp h
  obtain ⟨rfl, -, -⟩ := requireEntitlement_eq_ok reading
  cases last
  exact expireChallengesOf_affects expiring

theorem revokeEntitlement_affects {resp : AdminService.RevokeResponse} (ord : Orderly s)
    (h : (AdminService.revokeEntitlement owner none now).run s = .ok (resp, t)) :
    Affects owner SecurityState.revoked s t := by
  rw [revokeEntitlement_parts, bind_ok] at h
  obtain ⟨row, _, requiring, h⟩ := h
  obtain ⟨rfl, mem, isOwner⟩ := requireEntitlement_eq_ok requiring
  obtain ⟨⟨⟩, u, revoking, recording⟩ := bind_ok.mp h
  have recorded := recordRevocation_affects recording
  split at revoking
  · rename_i unrevoked
    obtain ⟨⟨⟩, v, updating, ending⟩ := bind_ok.mp revoking
    have updated := updateEntitlement_affects (fun other hrow same => by
      rw [entitlement_unique mem hrow (same.trans isOwner.symm)]
      exact unrevoked) updating
    exact (updated.trans (endSessionsOf_affects ending)).trans recorded
  · rename_i isOver
    rw [not_not] at isOver
    cases revoking
    -- nothing is left to revoke but challenges
    refine ⟨?_, recorded.others⟩
    have held := securityState_entitlement mem
    have idle := ord.revoked row mem isOver
    rw [isOwner] at held idle
    rw [recorded.own, SecurityState.revoked, SecurityState.revokeEntitlement_eq_self,
      SecurityState.endSessions_eq_self (idle_iff.mp idle)]
    · rfl
    · intro given same
      rw [held] at same
      cases same
      exact isOver

theorem revokeBatchEntitlement_affects {row : EntitlementRow}
    (held : (securityState s row.entitlementId).entitlement =
      some (row.status, row.revocationVersion))
    (h : (AdminService.revokeBatchEntitlement now row).run s = .ok ((), t)) :
    Affects row.entitlementId SecurityState.revoked s t := by
  obtain ⟨s1, s2, s3, expiring, revoking, ending, last⟩ := revokeBatchEntitlement_eq_ok h
  have expired := expireChallengesWhere_affects expiring
  have held1 : (securityState s1 row.entitlementId).entitlement =
      some (row.status, row.revocationVersion) := by
    rw [expired.own]
    exact held
  have updated : Affects row.entitlementId SecurityState.revokeEntitlement s1 s2 := by
    cases revoking with
    | inl updating =>
      refine updateEntitlement_affects ?_ updating.2
      intro other hrow same
      rw [status_of_securityState held1 hrow same]
      exact updating.1
    | inr already =>
      obtain ⟨isOver, rfl⟩ := already
      refine ⟨?_, fun _ _ => rfl⟩
      rw [SecurityState.revokeEntitlement_eq_self]
      intro given same
      rw [held1] at same
      cases same
      exact isOver
  exact ((expired.trans updated).trans (endSessionsOf_affects ending)).trans
    (expireStartChallengesWhere_affects last)

theorem revokeEach_affects {rows : List EntitlementRow}
    (dist : (rows.map EntitlementRow.entitlementId).Nodup)
    (held : ∀ row ∈ rows, (securityState s row.entitlementId).entitlement =
      some (row.status, row.revocationVersion))
    (h : (AdminService.revokeEach now rows).run s = .ok ((), t)) :
    (∀ row ∈ rows, securityState t row.entitlementId =
      (securityState s row.entitlementId).revoked) ∧
    ∀ other ∉ rows.map EntitlementRow.entitlementId,
      securityState t other = securityState s other := by
  induction rows generalizing s with
  | nil =>
    cases h
    constructor
    · intro row no
      cases no
    · intro other _
      rfl
  | cons row rows ih =>
    rw [List.map_cons, List.nodup_cons] at dist
    obtain ⟨⟨⟩, u, revoking, rest⟩ := bind_ok.mp h
    have affects := revokeBatchEntitlement_affects (held row List.mem_cons_self) revoking
    have apart (other : EntitlementRow) (mem : other ∈ rows) :
        other.entitlementId ≠ row.entitlementId := by
      intro same
      apply dist.1
      rw [← same]
      exact List.mem_map_of_mem mem
    obtain ⟨own, others⟩ := ih dist.2 (fun other mem => by
      rw [affects.others _ (apart other mem)]
      exact held other (List.mem_cons_of_mem _ mem)) rest
    constructor
    · intro other mem
      cases List.mem_cons.mp mem with
      | inl same =>
        rw [same, others _ dist.1, affects.own]
      | inr later => rw [own other later, affects.others _ (apart other later)]
    · intro other out
      rw [List.map_cons, List.mem_cons, not_or] at out
      rw [others other out.2, affects.others other out.1]

theorem batchEntitlements_congr {batchId : Nat} {cond : LicenseCodeRow → Bool}
    {status : CodeStatus} (entitlements : t.entitlements = s.entitlements)
    (activations : t.licenseActivations = s.licenseActivations)
    (cards : t.licenseCodes =
      update cond (fun card => { card with status := status }) s.licenseCodes) :
    AdminService.batchEntitlements t batchId = AdminService.batchEntitlements s batchId := by
  have same (id : Nat) :
      (lookup LicenseCodeRow.id id t.licenseCodes).any (fun card => card.batchId == batchId) =
      (lookup LicenseCodeRow.id id s.licenseCodes).any (fun card => card.batchId == batchId) := by
    rw [cards, lookup_update (fun _ => by rfl), Option.any_map]
    congr 1
    funext card
    split <;> rfl
  unfold AdminService.batchEntitlements
  simp only [same, entitlements, activations]

/-- The entitlements of a batch are revoked as each of them would be, even if some challenges have
    expired with the cards of the batch. -/
theorem revokeEach_batch {m : Database} {batchId : Nat} {row : EntitlementRow}
    {expired : ActivationChallengeRow → Bool} {cond : LicenseCodeRow → Bool}
    {status : CodeStatus}
    (h : (AdminService.revokeEach now (AdminService.batchEntitlements m batchId)).run m =
      .ok ((), t)) (mem : row ∈ AdminService.batchEntitlements s batchId)
    (entitlements : m.entitlements = s.entitlements) (sessions : m.usageSessions = s.usageSessions)
    (starts : m.usageStartChallenges = s.usageStartChallenges)
    (challenges : m.activationChallenges = update
      (fun row => decide (row.status = ActivationChallengeStatus.issued) && expired row)
      (fun row => { row with status := .expired }) s.activationChallenges)
    (activations : m.licenseActivations = s.licenseActivations)
    (cards : m.licenseCodes =
      update cond (fun card => { card with status := status }) s.licenseCodes) :
    securityState t row.entitlementId = (securityState s row.entitlementId).revoked := by
  have dist : ((AdminService.batchEntitlements m batchId).map
      EntitlementRow.entitlementId).Nodup := (List.filter_sublist.map _).nodup m.entitlementKeys
  obtain ⟨own, -⟩ := revokeEach_affects dist (fun other inBatch =>
    securityState_entitlement (List.mem_of_mem_filter inBatch)) h
  rw [← batchEntitlements_congr entitlements activations cards] at mem
  rw [own row mem]
  have expires : settle .issued .expired (securityState m row.entitlementId).activationChallenges =
      settle .issued .expired (securityState s row.entitlementId).activationChallenges := by
    simp only [securityState, challenges]
    apply settle_statusesOf_update (by decide)
    · intro other holds
      rw [Bool.and_eq_true, decide_eq_true_eq] at holds
      exact holds.1
    · intro other
      exact ⟨rfl, rfl, rfl⟩
  simp only [SecurityState.revoked, SecurityState.revokeEntitlement, SecurityState.endSessions,
    SecurityState.expireStartChallenges, SecurityState.expireActivationChallenges, expires]
  simp only [securityState, entitlements, sessions, starts]

theorem revokeBatch_revoked {batchId : Nat} {row : EntitlementRow}
    (h : (AdminService.revokeBatch batchId true now).run s = .ok ((), t))
    (mem : row ∈ AdminService.batchEntitlements s batchId) :
    securityState t row.entitlementId = (securityState s row.entitlementId).revoked := by
  unfold AdminService.revokeBatch at h
  rw [get_ok, bind_ok] at h
  obtain ⟨⟨⟩, s1, expiring, h⟩ := h
  cases expiring
  rw [get_ok, set_ok] at h
  rw [if_pos rfl, get_ok, bind_ok] at h
  obtain ⟨⟨⟩, s2, revoking, h⟩ := h
  cases h
  have revoked : securityState s2 row.entitlementId = (securityState s row.entitlementId).revoked :=
    revokeEach_batch revoking mem rfl rfl rfl rfl rfl rfl
  exact revoked

end

end VisionForge.PairSecurity
