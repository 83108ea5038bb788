import VisionForge.FormalUsage.UsageStateEffects
import VisionForge.Lib.Histories

/-! # Safety of the user-rights state machine

The data plane is permitted only in an active, billed session of a bound entitlement, a
revocation lasts, and a status refresh is settled by its own token only. The sequence of a
lease is a plain 64-bit number; it is not negative as long as it does not wrap around.
-/

namespace VisionForge.FormalUsage.DualMachineFormalUsageStateMachine

open Lib.Histories Lib.Long Lib.Run Lib.Utf

def LONG_MAX : Int := 2 ^ 63 - 1
def LONG_MIN : Int := -2 ^ 63

def new : DualMachineFormalUsageStateMachine := {}

def machineAfter (operations : List Operation) : DualMachineFormalUsageStateMachine :=
  exec step new operations

theorem machineAfter_append (ops : List Operation) (op : Operation) :
    machineAfter (ops ++ [op]) = ((machineAfter ops).step op).1 :=
  exec_append step new ops [op]

/-- The session is active and billed, and its entitlement is bound. -/
structure Justified (machine : DualMachineFormalUsageStateMachine) : Prop where
  active : machine.state = .active
  billed : machine.billingStarted = true
  session : machine.sessionId ≠ []
  sequence : 0 ≤ machine.leaseSequence
  bound : machine.entitlement.isSome = true

structure Consistent (machine : DualMachineFormalUsageStateMachine) : Prop where
  permit : machine.permitsDataPlane = true → machine.state = .active
  session : machine.state = .active ∨ machine.state = .renewalGap →
    machine.billingStarted = true ∧ machine.sessionId ≠ []
  bound : machine.state ≠ .unactivated → machine.state ≠ .activating → machine.state ≠ .revoked →
    machine.entitlement.isSome = true
  activation : machine.state = .activating → machine.stateBeforeActivation = some .unactivated
  refresh : machine.state = .statusRefreshing → ∃ earlier,
    machine.stateBeforeStatusRefresh = some earlier ∧
      (earlier = .activatedIdle ∨ earlier = .exhausted ∨ earlier = .revoked)

section

variable {before next : DualMachineFormalUsageStateMachine} {op : Operation}
  {answer : Answer}

theorem authorized_cases (ent : DualMachineEntitlementRecord) (rem : Int) :
    authorized ent rem = .activatedIdle ∨
      authorized ent rem = .exhausted := by
  unfold authorized
  split
  · exact .inl rfl
  · exact .inr rfl

theorem canRefreshStatus_iff :
    before.snapshot.canRefreshStatus = true ↔ before.state = .activatedIdle ∨
      before.state = .exhausted ∨ before.state = .revoked := by
  simp [Snapshot.canRefreshStatus, snapshot, or_assoc]

theorem consistent_of_settled (closed : next.permitsDataPlane = false)
    (settled : next.state = .unactivated ∨ next.state = .revoked ∨
      (next.entitlement.isSome = true ∧ (next.state = .activatedIdle ∨ next.state = .exhausted ∨
        next.state = .starting ∨ next.state = .stopping))) : Consistent next := by
  constructor
  · simp [closed]
  · rcases settled with is | is | ⟨-, is | is | is | is⟩ <;> simp [is]
  · rcases settled with is | is | ⟨bound, -⟩
    · simp [is]
    · simp [is]
    · simp [bound]
  · rcases settled with is | is | ⟨-, is | is | is | is⟩ <;> simp [is]
  · rcases settled with is | is | ⟨-, is | is | is | is⟩ <;> simp [is]

theorem Consistent.closed (cons : Consistent before) (inactive : before.state ≠ .active) :
    before.permitsDataPlane = false := by
  by_contra permits
  exact inactive (cons.permit (by simpa using permits))

theorem Effect.consistent (effect : Effect before op answer next)
    (cons : Consistent before) : Consistent next := by
  cases effect with
  | refused => exact cons
  | restores restored =>
    apply consistent_of_settled rfl
    cases revoked : restored.revoked <;> simp
  | reserves _ unactivated =>
    have closed := cons.closed (by simp [unactivated])
    exact ⟨by simp [closed], by simp, by simp, by simp [unactivated], by simp⟩
  | resumes activating | pends activating =>
    exact ⟨cons.permit, cons.session, cons.bound, cons.activation, cons.refresh⟩
  | releasesActivation activating old =>
    have closed := cons.closed (by simp [activating])
    have isUnactivated := Option.some.inj (old.symm.trans (cons.activation activating))
    exact consistent_of_settled closed (.inl isUnactivated)
  | activates =>
    rename_i activated rem _ _ _ _
    apply consistent_of_settled rfl
    rcases authorized_cases activated rem with is | is <;> simp [is]
  | refreshes refreshable bound =>
    rw [canRefreshStatus_iff] at refreshable
    have closed := cons.closed (by rcases refreshable with is | is | is <;> simp [is])
    exact ⟨by simp [closed], by simp, by simp [bound], by simp, by simpa using refreshable⟩
  | exhaustsTokens refreshable =>
    rw [canRefreshStatus_iff] at refreshable
    refine ⟨cons.permit, cons.session, cons.bound, cons.activation, ?_⟩
    rcases refreshable with is | is | is <;> simp [is]
  | @rollsBack _ _ _ state settles cur old =>
    obtain ⟨refreshing, -⟩ := (isCurrentStatusRefreshToken_iff before).mp cur
    have closed := cons.closed (by simp [refreshing])
    have bound := cons.bound (by simp [refreshing]) (by simp [refreshing])
      (by simp [refreshing])
    obtain ⟨_, isEarlier, which⟩ := cons.refresh refreshing
    obtain rfl := Option.some.inj (old.symm.trans isEarlier)
    apply consistent_of_settled
    · exact closed
    · rcases which with is | is | is <;> simp [is, clearStatusRefresh, bound]
  | @settles _ _ _ _ confirmed rem _ state _ _ _ _ allowed =>
    apply consistent_of_settled rfl
    rcases allowed with is | ⟨is, -⟩
    · simp [is]
    · rcases authorized_cases confirmed rem with named | named <;> simp [is, named]
  | releases => exact consistent_of_settled rfl (.inl rfl)
  | starts _ bound => exact consistent_of_settled rfl (by simp [clearSession, bound])
  | @startFails ent _ bound =>
    apply consistent_of_settled rfl
    rcases authorized_cases ent before.remainingSeconds with is | is <;>
      simp [is, clearSession, bound]
  | startFailsUnbound starting unbound =>
    have bound := cons.bound (by simp [starting]) (by simp [starting]) (by simp [starting])
    simp [unbound] at bound
  | installs starting someSession =>
    have bound := cons.bound (by simp [starting]) (by simp [starting]) (by simp [starting])
    exact ⟨by simp, by simp [someSession], by simp [bound], by simp, by simp⟩
  | expires on =>
    have bound := cons.bound (by simp [on]) (by simp [on]) (by simp [on])
    exact ⟨by simp, by simpa using cons.session (.inl on), by simp [bound], by simp, by simp⟩
  | renews renewable =>
    have bound := cons.bound (by rcases renewable with is | is <;> simp [is])
      (by rcases renewable with is | is <;> simp [is])
      (by rcases renewable with is | is <;> simp [is])
    exact ⟨by simp, by simp [(cons.session renewable).2], by simp [bound], by simp, by simp⟩
  | stages renewable =>
    refine ⟨cons.permit, fun running => ⟨rfl, (cons.session running).2⟩,
      cons.bound, cons.activation, cons.refresh⟩
  | activatesStaged renewable =>
    have bound := cons.bound (by rcases renewable with is | is <;> simp [is])
      (by rcases renewable with is | is <;> simp [is])
      (by rcases renewable with is | is <;> simp [is])
    exact ⟨by simp, by simpa using cons.session renewable, by simp [bound], by simp, by simp⟩
  | closes running =>
    have bound := cons.bound (by rcases running with is | is | is <;> simp [is])
      (by rcases running with is | is | is <;> simp [is])
      (by rcases running with is | is | is <;> simp [is])
    exact consistent_of_settled rfl (by simp [bound])
  | @stops rem ent _ bound =>
    apply consistent_of_settled rfl
    rcases authorized_cases ent rem with is | is <;>
      simp [is, clearSession, bound]
  | stopsUnbound stopping unbound =>
    have bound := cons.bound (by simp [stopping]) (by simp [stopping]) (by simp [stopping])
    simp [unbound] at bound
  | revokes => exact consistent_of_settled rfl (by simp)

end

theorem machineAfter_consistent (ops : List Operation) : Consistent (machineAfter ops) := by
  apply exec_invariant step
  · exact consistent_of_settled rfl (.inl rfl)
  · intro machine op cons
    exact (step_hasEffect machine op).consistent cons

def Operation.renewal? : Operation → Option Int
  | .verifiedRenewalInstalled verifiedSequence _ _ _ => some verifiedSequence
  | .verifiedFutureRenewalStaged verifiedSequence _ _ _ => some verifiedSequence
  | _ => none

def Operation.leases : Operation → Bool
  | .verifiedInitialLeaseInstalled .. | .verifiedRenewalInstalled ..
  | .verifiedFutureRenewalStaged .. => true
  | _ => false

theorem Settles.leases {token : Int} {op : Operation} {answer : Answer}
    (settles : Settles token op answer) : op.leases = false := by
  cases settles <;> rfl

/-- The sequence of a session's lease is one that renewals count up to. -/
def Counted (machine : DualMachineFormalUsageStateMachine) : Prop :=
  machine.state = .active ∨ machine.state = .renewalGap →
    0 ≤ machine.leaseSequence ∧ machine.leaseSequence ≤ LONG_MAX

theorem wrap_next {sequence : Int} (counted : 0 ≤ sequence ∧ sequence ≤ LONG_MAX) :
    (sequence = LONG_MAX ∧ wrap (sequence + 1) = LONG_MIN) ∨
      (sequence < LONG_MAX ∧ wrap (sequence + 1) = sequence + 1) := by
  rcases eq_or_lt_of_le counted.2 with last | before
  · left
    rw [last]
    exact ⟨rfl, by decide⟩
  · right
    refine ⟨before, wrap_of_fits ?_⟩
    unfold LONG_MAX at before
    constructor <;> omega

section

variable {before next : DualMachineFormalUsageStateMachine} {op : Operation}
  {answer : Answer}

/-- What can happen to a session that goes on, or begins. -/
inductive SessionEffect (before next : DualMachineFormalUsageStateMachine) :
    Operation → Answer → Prop where
  | keeps {operation : Operation} {answer : Answer} (state : next.state = before.state)
      (sequence : next.leaseSequence = before.leaseSequence)
      (permit : next.permitsDataPlane = before.permitsDataPlane)
      (idle : operation.leases = false ∨ answer ≠ .done) : SessionEffect before next operation answer
  | begins {sessionId : Option Units} {chargedSeconds remaining totalConsumed : Int}
      {started : Bool} (starting : before.state = .starting) (active : next.state = .active)
      (sequence : next.leaseSequence = 0) (permit : next.permitsDataPlane = true) :
      SessionEffect before next (.verifiedInitialLeaseInstalled sessionId 0 chargedSeconds
        remaining totalConsumed started) .done
  | expires (active : before.state = .active) (gap : next.state = .renewalGap)
      (sequence : next.leaseSequence = before.leaseSequence) :
      SessionEffect before next .leaseExpiredLocally .done
  | renews {chargedSeconds remaining totalConsumed : Int}
      (renewable : before.state = .active ∨ before.state = .renewalGap)
      (active : next.state = .active)
      (sequence : next.leaseSequence = wrap (before.leaseSequence + 1))
      (permit : next.permitsDataPlane = true) :
      SessionEffect before next (.verifiedRenewalInstalled (wrap (before.leaseSequence + 1))
        chargedSeconds remaining totalConsumed) .done
  | stages {chargedSeconds remaining totalConsumed : Int}
      (renewable : before.state = .active ∨ before.state = .renewalGap)
      (state : next.state = before.state)
      (sequence : next.leaseSequence = wrap (before.leaseSequence + 1))
      (permit : next.permitsDataPlane = before.permitsDataPlane) :
      SessionEffect before next (.verifiedFutureRenewalStaged (wrap (before.leaseSequence + 1))
        chargedSeconds remaining totalConsumed) .done
  | activates (renewable : before.state = .active ∨ before.state = .renewalGap)
      (active : next.state = .active) (sequence : next.leaseSequence = before.leaseSequence)
      (permit : next.permitsDataPlane = true) :
      SessionEffect before next (.stagedRenewalActivated before.leaseSequence) .done

def outside (state : State) : Prop := state ≠ .active ∧ state ≠ .renewalGap

theorem outside_authorized (ent : DualMachineEntitlementRecord) (rem : Int) :
    outside (authorized ent rem) := by
  rcases authorized_cases ent rem with is | is <;> simp [outside, is]

theorem Effect.session (effect : Effect before op answer next)
    (cons : Consistent before) :
    SessionEffect before next op answer ∨
      (outside next.state ∧ (op.leases = false ∨ answer ≠ .done)) := by
  cases effect with
  | refused refused =>
    refine .inl (.keeps rfl rfl rfl (.inr ?_))
    rintro rfl
    exact refused
  | resumes | pends | exhaustsTokens => exact .inl (.keeps rfl rfl rfl (.inl rfl))
  | installs starting => exact .inl (.begins starting rfl rfl rfl)
  | expires on => exact .inl (.expires on rfl rfl)
  | renews renewable => exact .inl (.renews renewable rfl rfl rfl)
  | stages renewable => exact .inl (.stages renewable rfl rfl rfl)
  | activatesStaged renewable => exact .inl (.activates renewable rfl rfl rfl)
  | restores restored =>
    refine .inr ⟨?_, .inl rfl⟩
    cases restored.revoked <;> simp [outside]
  | reserves operation_eq =>
    refine .inr ⟨by simp [outside], .inl ?_⟩
    rcases operation_eq with rfl | rfl <;> rfl
  | refreshes | releases | starts | closes | revokes =>
    exact .inr ⟨by simp [outside], .inl rfl⟩
  | releasesActivation activating old =>
    have isUnactivated := Option.some.inj (old.symm.trans (cons.activation activating))
    exact .inr ⟨by simp [outside, isUnactivated], .inl rfl⟩
  | activates => exact .inr ⟨outside_authorized _ _, .inl rfl⟩
  | @rollsBack _ _ _ state settles cur old =>
    obtain ⟨refreshing, -⟩ := (isCurrentStatusRefreshToken_iff before).mp cur
    obtain ⟨_, isEarlier, which⟩ := cons.refresh refreshing
    obtain rfl := Option.some.inj (old.symm.trans isEarlier)
    refine .inr ⟨?_, .inl settles.leases⟩
    rcases which with is | is | is <;> simp [outside, is]
  | settles settles _ _ _ allowed =>
    refine .inr ⟨?_, .inl settles.leases⟩
    rcases allowed with is | ⟨is, -⟩
    · simp [outside, is]
    · rw [is]
      exact outside_authorized _ _
  | startFails => exact .inr ⟨outside_authorized _ _, .inl rfl⟩
  | startFailsUnbound starting => exact .inr ⟨by simp [outside, clearSession, starting], .inl rfl⟩
  | stops => exact .inr ⟨outside_authorized _ _, .inl rfl⟩
  | stopsUnbound stopping => exact .inr ⟨by simp [outside, clearSession, stopping], .inl rfl⟩

theorem counted_next (counted : Counted before)
    (renewable : before.state = .active ∨ before.state = .renewalGap)
    (unwrapped : wrap (before.leaseSequence + 1) = LONG_MIN → before.leaseSequence ≠ LONG_MAX) :
    0 ≤ wrap (before.leaseSequence + 1) ∧ wrap (before.leaseSequence + 1) ≤ LONG_MAX := by
  have current := counted renewable
  rcases wrap_next current with ⟨last, wraps⟩ | ⟨old, counts⟩
  · exact absurd last (unwrapped wraps)
  · exact ⟨by omega, by omega⟩

theorem Effect.counted (effect : Effect before op answer next)
    (cons : Consistent before) (counted : Counted before)
    (unwrapped : op.renewal? = some LONG_MIN → before.leaseSequence ≠ LONG_MAX) :
    Counted next := by
  rcases effect.session cons with sess | ⟨out, -⟩
  · intro running
    cases sess with
    | keeps state seq =>
      rw [seq]
      exact counted (state ▸ running)
    | begins _ _ seq =>
      rw [seq]
      exact ⟨le_rfl, by decide⟩
    | expires on _ seq =>
      rw [seq]
      exact counted (.inl on)
    | renews renewable _ seq | stages renewable _ seq =>
      rw [seq]
      exact counted_next counted renewable fun wraps =>
        unwrapped (by rw [Operation.renewal?, wraps])
    | activates renewable _ seq =>
      rw [seq]
      exact counted renewable
  · intro running
    simp [out.1, out.2] at running

theorem Effect.starting (effect : Effect before op answer next)
    (cons : Consistent before) (entered : next.state = .starting)
    (out : before.state ≠ .starting) : op = .runtimeRequestedFormalStart true := by
  cases effect with
  | starts => rfl
  | refused | resumes | pends | exhaustsTokens | startFailsUnbound | stopsUnbound =>
    exact absurd entered out
  | restores restored => cases isRevoked : restored.revoked <;> simp [isRevoked] at entered
  | reserves | refreshes | releases | installs | expires | renews | activatesStaged | closes
  | revokes => simp at entered
  | stages renewable => exact absurd entered out
  | releasesActivation activating old =>
    have isUnactivated := Option.some.inj (old.symm.trans (cons.activation activating))
    simp [isUnactivated] at entered
  | @activates activated rem =>
    rcases authorized_cases activated rem with is | is <;> simp [is] at entered
  | @rollsBack _ _ _ state _ cur old =>
    obtain ⟨refreshing, -⟩ := (isCurrentStatusRefreshToken_iff before).mp cur
    obtain ⟨_, isEarlier, which⟩ := cons.refresh refreshing
    obtain rfl := Option.some.inj (old.symm.trans isEarlier)
    rcases which with is | is | is <;> simp [is] at entered
  | @settles _ _ _ _ confirmed rem _ state _ _ _ _ allowed =>
    rcases allowed with is | ⟨is, -⟩
    · simp [is] at entered
    · rcases authorized_cases confirmed rem with named | named <;>
        simp [is, named] at entered
  | @startFails ent =>
    rcases authorized_cases ent before.remainingSeconds with is | is <;>
      simp [is] at entered
  | @stops rem ent =>
    rcases authorized_cases ent rem with is | is <;> simp [is] at entered

/-- A revoked machine, or one that will be revoked again when its refresh fails. -/
def StaysRevoked (machine : DualMachineFormalUsageStateMachine) : Prop :=
  machine.state = .revoked ∨
    (machine.state = .statusRefreshing ∧ machine.stateBeforeStatusRefresh = some .revoked)

theorem Effect.staysRevoked (effect : Effect before op answer next)
    (revoked : StaysRevoked before)
    (unrestored : ∀ restored, op ≠ .restoreBoundEntitlement (some restored)) :
    StaysRevoked next := by
  have out {state : State} (other : state ≠ .revoked ∧ state ≠ .statusRefreshing) :
      before.state ≠ state := by
    rintro rfl
    simp [StaysRevoked, other] at revoked
  cases effect with
  | refused => exact revoked
  | restores restored => exact absurd rfl (unrestored restored)
  | revokes => exact .inl rfl
  | refreshes refreshable =>
    rw [canRefreshStatus_iff] at refreshable
    have isRevoked := (refreshable.resolve_left (out (by simp))).resolve_left
      (out (by simp))
    exact .inr ⟨rfl, congrArg some isRevoked⟩
  | exhaustsTokens refreshable =>
    rw [canRefreshStatus_iff] at refreshable
    exact .inl ((refreshable.resolve_left (out (by simp))).resolve_left
      (out (by simp)))
  | @rollsBack _ _ _ state _ cur old =>
    obtain ⟨refreshing, -⟩ := (isCurrentStatusRefreshToken_iff before).mp cur
    rcases revoked with is | ⟨-, isEarlier⟩
    · simp [is] at refreshing
    · exact .inl (Option.some.inj (old.symm.trans isEarlier))
  | settles _ cur _ _ allowed =>
    obtain ⟨refreshing, -⟩ := (isCurrentStatusRefreshToken_iff before).mp cur
    rcases allowed with is | ⟨-, unrevoked⟩
    · exact .inl is
    · rcases revoked with is | ⟨-, isEarlier⟩
      · simp [is] at refreshing
      · exact absurd isEarlier unrevoked
  | reserves _ is | resumes is | pends is | releasesActivation is | activates is | releases is
  | starts is | startFails is | startFailsUnbound is | installs is | expires is | stops is
  | stopsUnbound is => exact absurd is (out (by simp))
  | renews is | stages is | activatesStaged is =>
    rcases is with is | is <;> exact absurd is (out (by simp))
  | closes is => rcases is with is | is | is <;> exact absurd is (out (by simp))

abbrev UsageHistory := List (Operation × Answer)

/-- The binding was restored, or released and then activated anew. -/
def Rebound (hist : UsageHistory) : Prop :=
  (∃ restored, (.restoreBoundEntitlement restored, .done) ∈ hist) ∨
    ∃ released activated, hist = released ++ activated ∧
      (.releaseConfirmedExhaustedEntitlement, .done) ∈ released ∧
      ∃ entitlement remaining totalConsumed startedBilling,
        (.activationConfirmed entitlement remaining totalConsumed startedBilling, .done) ∈ activated

variable {hist : UsageHistory}

theorem Rebound.append {entry : Operation × Answer} (rebound : Rebound hist) :
    Rebound (hist ++ [entry]) := by
  rcases rebound with ⟨restored, mem⟩ | ⟨released, activated, rfl, wasReleased,
    entitlement, remaining, totalConsumed, startedBilling, mem⟩
  · exact .inl ⟨restored, List.mem_append_left _ mem⟩
  · exact .inr ⟨released, activated ++ [entry], by simp, wasReleased, entitlement, remaining,
      totalConsumed, startedBilling, List.mem_append_left _ mem⟩

/-- Since a version was in force: it has not decreased, or the entitlement has been released,
or the binding is a new one. -/
def VersionKept (version : Int) (hist : UsageHistory)
    (machine : DualMachineFormalUsageStateMachine) : Prop :=
  Rebound hist ∨
    (∃ entitlement, machine.entitlement = some entitlement ∧
      version ≤ entitlement.revocationVersion) ∨
    (machine.entitlement = none ∧ (.releaseConfirmedExhaustedEntitlement, .done) ∈ hist)

theorem VersionKept.same {version : Int} (kept : VersionKept version hist before)
    (same : next.entitlement = before.entitlement) (entry : Operation × Answer) :
    VersionKept version (hist ++ [entry]) next := by
  rcases kept with rebound | ⟨ent, bound, newer⟩ | ⟨unbound, released⟩
  · exact .inl rebound.append
  · exact .inr (.inl ⟨ent, same.trans bound, newer⟩)
  · exact .inr (.inr ⟨same.trans unbound, List.mem_append_left _ released⟩)

theorem Effect.versionKept {version : Int} (effect : Effect before op answer next)
    (kept : VersionKept version hist before) :
    VersionKept version (hist ++ [(op, answer)]) next := by
  cases effect with
  | restores restored =>
    exact .inl (.inl ⟨_, List.mem_append_right _ (List.mem_singleton_self _)⟩)
  | activates _ unbound =>
    rcases kept with rebound | ⟨ent, bound, -⟩ | ⟨-, released⟩
    · exact .inl rebound.append
    · simp [unbound] at bound
    · exact .inl (.inr ⟨hist, _, rfl, released, _, _, _, _, List.mem_singleton_self _⟩)
  | settles _ _ bound newer =>
    rcases kept with rebound | ⟨ent, isBound, kept⟩ | ⟨unbound, -⟩
    · exact .inl rebound.append
    · obtain rfl := Option.some.inj (bound.symm.trans isBound)
      exact .inr (.inl ⟨_, rfl, kept.trans newer⟩)
    · simp [unbound] at bound
  | releases =>
    rcases kept with rebound | - | -
    · exact .inl rebound.append
    · exact .inr (.inr ⟨rfl, List.mem_append_right _ (List.mem_singleton_self _)⟩)
    · exact .inr (.inr ⟨rfl, List.mem_append_right _ (List.mem_singleton_self _)⟩)
  | refused | reserves | resumes | pends | releasesActivation | refreshes | exhaustsTokens
  | rollsBack | starts | startFails | startFailsUnbound | installs | expires | renews | stages
  | activatesStaged | closes | stops | stopsUnbound | revokes => exact kept.same rfl _

def issuedToken : Operation × Answer → Option Int
  | (_, .token operationToken) => some operationToken
  | _ => none

def latestToken (hist : UsageHistory) : Option Int := (hist.filterMap issuedToken).getLast?

/-- A refresh is settled by the latest token, for the first time. -/
def SettledOnce (before : UsageHistory) (entry : Operation × Answer) : Prop :=
  ∀ operationToken, Settles operationToken entry.1 entry.2 →
    latestToken before = some operationToken ∧
      ∀ earlier ∈ before, ¬ Settles operationToken earlier.1 earlier.2

structure Tokens (history : UsageHistory) (machine : DualMachineFormalUsageStateMachine) :
    Prop where
  once : Each SettledOnce history
  settled : ∀ entry ∈ history, ∀ operationToken, Settles operationToken entry.1 entry.2 →
    operationToken ≤ machine.statusRefreshGeneration
  current : machine.activeStatusRefreshToken ≠ 0 →
    latestToken history = some machine.activeStatusRefreshToken ∧
      machine.activeStatusRefreshToken = machine.statusRefreshGeneration ∧
      ∀ entry ∈ history, ¬ Settles machine.activeStatusRefreshToken entry.1 entry.2

theorem latestToken_append {entry : Operation × Answer} (silent : issuedToken entry = none) :
    latestToken (hist ++ [entry]) = latestToken hist := by
  simp [latestToken, silent]

theorem Tokens.idle (tokens : Tokens hist before)
    (silent : issuedToken (op, answer) = none)
    (unsettled : ∀ operationToken, ¬ Settles operationToken op answer)
    (gen : next.statusRefreshGeneration = before.statusRefreshGeneration)
    (token : next.activeStatusRefreshToken = before.activeStatusRefreshToken ∨
      next.activeStatusRefreshToken = 0) : Tokens (hist ++ [(op, answer)]) next where
  once := each_append.mpr ⟨tokens.once, fun operationToken settles =>
    absurd settles (unsettled operationToken)⟩
  settled := by
    intro entry mem operationToken settles
    rw [gen]
    rcases List.mem_append.mp mem with old | new
    · exact tokens.settled entry old operationToken settles
    · obtain rfl := List.mem_singleton.mp new
      exact absurd settles (unsettled operationToken)
  current := by
    intro on
    rcases token with same | cleared
    · rw [same] at on ⊢
      obtain ⟨latest, isGeneration, fresh⟩ := tokens.current on
      refine ⟨(latestToken_append silent).trans latest, isGeneration.trans gen.symm, ?_⟩
      intro entry mem
      rcases List.mem_append.mp mem with old | new
      · exact fresh entry old
      · obtain rfl := List.mem_singleton.mp new
        exact unsettled _
    · exact absurd cleared on

theorem Settles.unique {token other : Int}
    (settles : Settles token op answer) (again : Settles other op answer) :
    other = token := by
  cases settles <;> cases again <;> rfl

theorem Tokens.settle {token : Int} (tokens : Tokens hist before)
    (settles : Settles token op answer)
    (cur : before.isCurrentStatusRefreshToken token = true)
    (gen : next.statusRefreshGeneration = before.statusRefreshGeneration)
    (cleared : next.activeStatusRefreshToken = 0) :
    Tokens (hist ++ [(op, answer)]) next := by
  obtain ⟨-, on, rfl, -⟩ := (isCurrentStatusRefreshToken_iff before).mp cur
  obtain ⟨latest, isGeneration, fresh⟩ := tokens.current on
  refine ⟨each_append.mpr ⟨tokens.once, ?_⟩, ?_, fun still => absurd cleared still⟩
  · intro other otherSettles
    obtain rfl := settles.unique otherSettles
    exact ⟨latest, fresh⟩
  · intro entry mem other otherSettles
    rw [gen]
    rcases List.mem_append.mp mem with old | new
    · exact tokens.settled entry old other otherSettles
    · obtain rfl := List.mem_singleton.mp new
      rw [settles.unique otherSettles, isGeneration]

theorem Effect.tokens (effect : Effect before op answer next)
    (tokens : Tokens hist before) : Tokens (hist ++ [(op, answer)]) next := by
  cases effect with
  | refused refused =>
    refine tokens.idle ?_ ?_ rfl (.inl rfl)
    · cases answer with
      | token => exact refused.elim
      | done | flag | thrown => rfl
    · intro operationToken settles
      cases settles <;> simp [Refused] at refused
  | rollsBack settles cur | settles settles cur =>
    exact tokens.settle settles cur rfl rfl
  | refreshes =>
    refine ⟨each_append.mpr ⟨tokens.once, by rintro _ ⟨⟩⟩, ?_, fun _ => ⟨?_, rfl, ?_⟩⟩
    · intro entry mem operationToken settles
      rcases List.mem_append.mp mem with old | new
      · have earlier := tokens.settled entry old operationToken settles
        dsimp only
        omega
      · obtain rfl := List.mem_singleton.mp new
        cases settles
    · simp [latestToken, issuedToken]
    · intro entry mem settles
      rcases List.mem_append.mp mem with old | new
      · have earlier := tokens.settled entry old _ settles
        dsimp only at earlier
        omega
      · obtain rfl := List.mem_singleton.mp new
        cases settles
  | reserves operation_eq =>
    refine tokens.idle rfl ?_ rfl (.inl rfl)
    rcases operation_eq with rfl | rfl <;> rintro _ ⟨⟩
  | restores | releases | revokes =>
    exact tokens.idle rfl (by rintro _ ⟨⟩) rfl (.inr rfl)
  | resumes | pends | releasesActivation | activates | exhaustsTokens | starts
  | startFails | startFailsUnbound | installs | expires | renews | stages | activatesStaged
  | closes | stops | stopsUnbound => exact tokens.idle rfl (by rintro _ ⟨⟩) rfl (.inl rfl)

theorem Effect.thrown {error : Throwable} (effect : Effect before op (.thrown error) next)
    (cons : Consistent before) : next.snapshot = before.snapshot := by
  cases effect with
  | refused => rfl
  | exhaustsTokens => rfl
  | rollsBack settles => cases settles
  | settles settles => cases settles
  | startFailsUnbound starting unbound =>
    have bound := cons.bound (by simp [starting]) (by simp [starting]) (by simp [starting])
    simp [unbound] at bound
  | stopsUnbound stopping unbound =>
    have bound := cons.bound (by simp [stopping]) (by simp [stopping]) (by simp [stopping])
    simp [unbound] at bound

end

/-- No renewal carries on from the last number of the type. -/
def Unwrapped (earlier : List Operation) (op : Operation) : Prop :=
  op.renewal? = some LONG_MIN → (machineAfter earlier).leaseSequence ≠ LONG_MAX

theorem machineAfter_counted {ops : List Operation} (unwrapped : Each Unwrapped ops) :
    Counted (machineAfter ops) := by
  induction ops using List.reverseRecOn with
  | nil => exact fun running => by simp [machineAfter, new] at running
  | append_singleton ops op ih =>
    obtain ⟨old, last⟩ := each_append.mp unwrapped
    rw [machineAfter_append]
    exact (step_hasEffect _ op).counted (machineAfter_consistent ops)
      (ih old) last

theorem machineAfter_justified {ops : List Operation} (unwrapped : Each Unwrapped ops)
    (permits : (machineAfter ops).permitsDataPlane = true) :
    Justified (machineAfter ops) := by
  have cons := machineAfter_consistent ops
  have on := cons.permit permits
  obtain ⟨billed, sess⟩ := cons.session (.inl on)
  have counted := machineAfter_counted unwrapped (.inl on)
  exact ⟨on, billed, sess, counted.1, cons.bound (by simp [on]) (by simp [on]) (by simp [on])⟩

theorem machineAfter_staysRevoked {old later : List Operation}
    (revoked : (machineAfter old).state = .revoked)
    (unrestored : ∀ restored, .restoreBoundEntitlement (some restored) ∉ later) :
    StaysRevoked (machineAfter (old ++ later)) := by
  induction later using List.reverseRecOn with
  | nil => exact .inl (by simpa using revoked)
  | append_singleton later op ih =>
    rw [← List.append_assoc, machineAfter_append]
    apply (step_hasEffect _ op).staysRevoked
    · exact ih fun restored mem => unrestored restored (List.mem_append_left _ mem)
    · rintro restored rfl
      exact unrestored restored (List.mem_append_right _ (List.mem_singleton_self _))

theorem machineAfter_versionKept {old later : List Operation}
    {ent : DualMachineEntitlementRecord}
    (bound : (machineAfter old).entitlement = some ent) :
    VersionKept ent.revocationVersion (trace step (machineAfter old) later)
      (machineAfter (old ++ later)) := by
  unfold machineAfter
  rw [exec_append]
  apply history_invariant step
  · exact .inr (.inl ⟨ent, bound, le_rfl⟩)
  · intro hist machine op kept
    exact (step_hasEffect machine op).versionKept kept

theorem machineAfter_tokens (ops : List Operation) :
    Tokens (trace step new ops) (machineAfter ops) := by
  apply history_invariant step
  · exact ⟨each_nil, by simp, by simp [new]⟩
  · intro hist machine op tokens
    exact (step_hasEffect machine op).tokens tokens

/-- In every run whose lease sequence does not wrap around: the data plane is permitted only in
an active, billed session; STARTING is entered on request only; revocations last; the version
does not decrease unless the binding is a new one; a token settles its refresh once, while it
is the latest; and what throws changes nothing that a snapshot shows. -/
theorem formal_usage_is_safe (ops : List Operation) (unwrapped : Each Unwrapped ops) :
    ((machineAfter ops).permitsDataPlane = true → Justified (machineAfter ops)) ∧
    (∀ old op later, ops = old ++ op :: later →
      (machineAfter old).state ≠ .starting →
      ((machineAfter old).step op).1.state = .starting →
      op = .runtimeRequestedFormalStart true) ∧
    (∀ old later, ops = old ++ later →
      (machineAfter old).state = .revoked →
      (∀ restored, .restoreBoundEntitlement (some restored) ∉ later) →
      (machineAfter ops).state = .revoked ∨
        (machineAfter ops).state = .statusRefreshing) ∧
    (∀ old later first last, ops = old ++ later →
      (machineAfter old).entitlement = some first →
      (machineAfter ops).entitlement = some last →
      first.revocationVersion ≤ last.revocationVersion ∨
        Rebound (trace step (machineAfter old) later)) ∧
    Each SettledOnce (trace step new ops) ∧
    (∀ old op later error, ops = old ++ op :: later →
      ((machineAfter old).step op).2 = .thrown error →
      ((machineAfter old).step op).1.snapshot = (machineAfter old).snapshot) := by
  refine ⟨machineAfter_justified unwrapped, ?_, ?_, ?_, (machineAfter_tokens ops).once, ?_⟩
  · intro old op later _ outside entered
    exact (step_hasEffect _ op).starting (machineAfter_consistent old) entered outside
  · rintro old later rfl revoked unrestored
    rcases machineAfter_staysRevoked revoked unrestored with isRevoked | ⟨refreshing, -⟩
    · exact .inl isRevoked
    · exact .inr refreshing
  · rintro old later first last rfl wasBound isBound
    rcases @machineAfter_versionKept old later first wasBound with
      rebound | ⟨entitlement, bound, newer⟩ | ⟨unbound, -⟩
    · exact .inr rebound
    · obtain rfl := Option.some.inj (isBound.symm.trans bound)
      exact .inl newer
    · simp [unbound] at isBound
  · intro old op later error _ thrown
    have effect := step_hasEffect (machineAfter old) op
    unfold HasEffect at effect
    rw [thrown] at effect
    exact effect.thrown (machineAfter_consistent old)

def permanentEntitlement : DualMachineEntitlementRecord where
  entitlementId := List.replicate 32 97
  pairId := List.replicate 32 98
  protocolVersion := 2
  revocationVersion := 1
  hostKeySha256 := List.replicate 64 99
  hostIdentityPublicKeyBase64 := text "host"
  androidKeySha256 := List.replicate 64 100
  androidIdentityAlias := text "android"
  authorizationKind := text "permanent"
  productKey := text "permanent"
  permanent := true
  revoked := false

def startedSession : List Operation :=
  [.restoreBoundEntitlement (some permanentEntitlement), .runtimeRequestedFormalStart true,
    .verifiedInitialLeaseInstalled (some (List.replicate 32 97)) 0 0 0 0 true]

theorem startedSession_is_safe :
    Justified (machineAfter startedSession) ∧
      Each SettledOnce (trace step new startedSession) := by
  have unwrapped : Each Unwrapped startedSession := by
    intro old op later split renewal
    have member : op ∈ startedSession := by simp [split]
    simp only [startedSession, List.mem_cons, List.not_mem_nil, or_false] at member
    rcases member with rfl | rfl | rfl <;> simp [Operation.renewal?] at renewal
  have safe := formal_usage_is_safe startedSession unwrapped
  exact ⟨safe.1 (by decide), safe.2.2.2.2.1⟩

def renewals (count : Nat) : List Operation :=
  (List.range count).map
    (fun earlier : Nat => .verifiedRenewalInstalled ((earlier : Int) + 1) 0 0 0)

/-- Every number of the type is renewed to, and then the first one. -/
def wrappedSession : List Operation :=
  startedSession ++ renewals (2 ^ 63 - 1) ++ [.verifiedRenewalInstalled LONG_MIN 0 0 0]

/-- An active session of a permanent entitlement. -/
structure Permanent (machine : DualMachineFormalUsageStateMachine) (sequence : Int) : Prop where
  active : machine.state = .active
  entitlement : machine.entitlement = some permanentEntitlement
  sequence : machine.leaseSequence = sequence

theorem Permanent.renew {machine : DualMachineFormalUsageStateMachine} {seq next : Int}
    (permanent : Permanent machine seq) (isNext : next = wrap (seq + 1)) :
    Permanent (machine.step (.verifiedRenewalInstalled next 0 0 0)).1 next ∧
      (machine.step (.verifiedRenewalInstalled next 0 0 0)).1.permitsDataPlane = true := by
  have charge : machine.validLeaseCharge 0 = true := by
    simp [validLeaseCharge, permanent.entitlement, permanentEntitlement]
  have renewed : (machine.step (.verifiedRenewalInstalled next 0 0 0)).1 =
      { machine with
        leaseSequence := next
        remainingSeconds := 0
        totalConsumedSeconds := 0
        balanceKnown := true
        billingStarted := true
        permitsDataPlane := true
        state := .active } := by
    unfold step
    simp only [perform, verifiedRenewalInstalled, requireRenewal, account, permit, bind_assoc,
      get_bind, require_bind, requireBalances_bind, modify_bind, pure_run]
    rw [if_pos (by simp [permanent.active]), if_pos (by simp [isNext, permanent.sequence, charge]),
      if_neg (by simp)]
    rfl
  rw [renewed]
  exact ⟨⟨rfl, permanent.entitlement, rfl⟩, rfl⟩

theorem permanent_renewals {count : Nat} (small : count < 2 ^ 63) :
    Permanent (machineAfter (startedSession ++ renewals count)) count := by
  induction count with
  | zero => exact ⟨by decide, by decide, by decide⟩
  | succ count ih =>
    have old := ih (by omega)
    have fits : wrap ((count : Int) + 1) = count + 1 := wrap_of_fits (by constructor <;> omega)
    rw [renewals, List.range_succ, List.map_append, ← List.append_assoc]
    have renewed := (old.renew fits.symm).1
    rw [← machineAfter_append] at renewed
    exact_mod_cast renewed

/-- After the last number the sequence is negative, and the data plane is still permitted. -/
theorem wrappedSession_unjustified :
    (machineAfter wrappedSession).permitsDataPlane = true ∧
      ¬ Justified (machineAfter wrappedSession) := by
  have last := @permanent_renewals (2 ^ 63 - 1) (by omega)
  have wraps : LONG_MIN = wrap (((2 ^ 63 - 1 : Nat) : Int) + 1) := by decide
  have renewed := last.renew wraps
  rw [← machineAfter_append] at renewed
  refine ⟨renewed.2, fun justified => ?_⟩
  have sequence := justified.sequence
  unfold wrappedSession at sequence
  rw [renewed.1.sequence] at sequence
  exact absurd sequence (by decide)

/-! ## Offered actions and accepted actions

A snapshot says which actions to offer, and the machine checks an action again.
-/

def accepts {α : Type} (machine : DualMachineFormalUsageStateMachine) (method : Method α) : Bool :=
  match method.run machine with
  | .ok _ _ => true
  | .error _ _ => false

/-- What a snapshot offers is what the machine accepts. -/
structure OfferedAccepted (machine : DualMachineFormalUsageStateMachine) : Prop where
  activation : machine.snapshot.canActivate = machine.accepts beginCardActivation
  refresh : machine.snapshot.canRefreshStatus = machine.accepts beginStatusRefresh
  start : machine.snapshot.canFormalStart = machine.accepts (runtimeRequestedFormalStart true)
  stop : machine.snapshot.canFormalStop = machine.accepts closeLocalForRuntimeStop

/-- A revocation left an entitlement to ask about, refreshes can be counted, and the balance
    of an idle entitlement is known. -/
structure Answerable (machine : DualMachineFormalUsageStateMachine) : Prop where
  bound : machine.state = .revoked → machine.entitlement.isSome = true
  counted : machine.snapshot.canRefreshStatus = true → machine.entitlement.isSome = true →
    (addExact machine.statusRefreshGeneration 1).isSome = true
  balance : machine.state = .activatedIdle →
    machine.entitlement.any (fun entitlement =>
      entitlement.permanent || decide (0 < machine.remainingSeconds)) = true →
    machine.balanceKnown = true

section

variable (machine : DualMachineFormalUsageStateMachine)

theorem accepts_beginCardActivation :
    machine.accepts beginCardActivation = machine.snapshot.canActivate := by
  simp only [accepts, beginCardActivation, get_bind, require_bind]
  cases machine.snapshot.canActivate <;> rfl

theorem accepts_beginStatusRefresh :
    machine.accepts beginStatusRefresh =
      (machine.snapshot.canRefreshStatus && machine.entitlement.isSome &&
        (addExact machine.statusRefreshGeneration 1).isSome) := by
  simp only [accepts, beginStatusRefresh, get_bind, require_bind, modify_bind]
  cases machine.snapshot.canRefreshStatus && machine.entitlement.isSome with
  | false => rfl
  | true => cases addExact machine.statusRefreshGeneration 1 <;> rfl

theorem accepts_runtimeRequestedFormalStart :
    machine.accepts (runtimeRequestedFormalStart true) =
      (machine.state == .activatedIdle && machine.entitlement.any (fun ent =>
        ent.permanent || decide (0 < machine.remainingSeconds))) := by
  simp only [accepts, runtimeRequestedFormalStart, get_bind, require_bind]
  cases machine.state == .activatedIdle && machine.entitlement.any (fun ent =>
    ent.permanent || decide (0 < machine.remainingSeconds)) <;> rfl

theorem accepts_closeLocalForRuntimeStop :
    machine.accepts closeLocalForRuntimeStop = machine.snapshot.canFormalStop := by
  simp only [accepts, closeLocalForRuntimeStop, get_bind, require_bind, Snapshot.canFormalStop,
    snapshot]
  cases machine.state == .starting || machine.state == .active ||
    machine.state == .renewalGap <;> rfl

end

/-- In every state reached, the offers are right exactly when the machine is answerable. -/
theorem offered_accepted_iff (ops : List Operation) :
    OfferedAccepted (machineAfter ops) ↔ Answerable (machineAfter ops) := by
  have consistent := machineAfter_consistent ops
  generalize machineAfter ops = machine at *
  constructor
  · rintro ⟨-, refresh, start, -⟩
    rw [accepts_beginStatusRefresh] at refresh
    rw [accepts_runtimeRequestedFormalStart, Snapshot.canFormalStart] at start
    refine ⟨fun revoked => ?_, fun offered bound => ?_, fun idle entitled => ?_⟩
    · rw [canRefreshStatus_iff.mpr (.inr (.inr revoked))] at refresh
      grind
    · simpa [offered, bound] using refresh
    · simp only [snapshot] at start
      grind
  · rintro ⟨bound, counted, balance⟩
    refine ⟨(accepts_beginCardActivation machine).symm, ?_, ?_,
      (accepts_closeLocalForRuntimeStop machine).symm⟩
    · rw [accepts_beginStatusRefresh]
      cases offered : machine.snapshot.canRefreshStatus with
      | false => rfl
      | true =>
        have present : machine.entitlement.isSome = true := by
          cases canRefreshStatus_iff.mp offered with
          | inl idle => exact consistent.bound (by simp [idle]) (by simp [idle]) (by simp [idle])
          | inr later =>
            cases later with
            | inl spent =>
              exact consistent.bound (by simp [spent]) (by simp [spent]) (by simp [spent])
            | inr revoked => exact bound revoked
        simp [present, counted offered present]
    · rw [accepts_runtimeRequestedFormalStart, Snapshot.canFormalStart]
      simp only [snapshot]
      grind

/-- A restored permanent entitlement may start before its balance is known. -/
theorem restored_starts_unoffered : ¬ ∀ ops, OfferedAccepted (machineAfter ops) :=
  fun always => absurd (always [.restoreBoundEntitlement (some permanentEntitlement)]).start
    (by decide)

end VisionForge.FormalUsage.DualMachineFormalUsageStateMachine
