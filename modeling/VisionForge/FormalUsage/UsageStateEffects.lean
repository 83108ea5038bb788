import VisionForge.FormalUsage.UsageStateMachine

/-! # What the user-rights state machine can do

Each public method, with whatever arguments, has one of the effects below. Later proofs use
only them.
-/

namespace VisionForge.FormalUsage.DualMachineFormalUsageStateMachine

open Lib.Long Lib.Methods Lib.Utf

inductive Operation where
  | restoreBoundEntitlement (restored : Option DualMachineEntitlementRecord)
  | beginCardActivation
  | beginPendingCardActivationResume
  | markCardActivationPending
  | activationFailedBeforeConfirmation
  | activationConfirmed (activated : Option DualMachineEntitlementRecord)
      (remaining totalConsumed : Int) (activationStartedBilling : Bool)
  | beginStatusRefresh
  | statusRefreshFailed (operationToken : Int)
  | statusRefreshFailedIfCurrent (operationToken : Int)
  | failClosedFromAuthenticatedRevocationIfCurrent (operationToken : Int)
      (revokedEntitlement : Option DualMachineEntitlementRecord) (remaining totalConsumed : Int)
  | statusConfirmed (operationToken : Int)
      (confirmedEntitlement : Option DualMachineEntitlementRecord)
      (entitlementStatus : Option Units) (remaining totalConsumed : Int)
  | releaseConfirmedExhaustedEntitlement
  | runtimeRequestedFormalStart (bothRuntimesAndChannelReady : Bool)
  | formalStartFailed
  | verifiedInitialLeaseInstalled (verifiedSessionId : Option Units)
      (verifiedSequence chargedSeconds remaining totalConsumed : Int)
      (serverBillingStarted : Bool)
  | leaseExpiredLocally
  | verifiedRenewalInstalled (verifiedSequence chargedSeconds remaining totalConsumed : Int)
  | verifiedFutureRenewalStaged (verifiedSequence chargedSeconds remaining totalConsumed : Int)
  | stagedRenewalActivated (verifiedSequence : Int)
  | closeLocalForRuntimeStop
  | stopFinished (remaining : Int)
  | revoke
  deriving DecidableEq

inductive Answer where
  | done
  | token (operationToken : Int)
  | flag (value : Bool)
  | thrown (error : Throwable)
  deriving DecidableEq

def perform : Operation → Method Answer
  | .restoreBoundEntitlement restored => do
      restoreBoundEntitlement restored
      return .done
  | .beginCardActivation => do
      beginCardActivation
      return .done
  | .beginPendingCardActivationResume => do
      beginPendingCardActivationResume
      return .done
  | .markCardActivationPending => do
      markCardActivationPending
      return .done
  | .activationFailedBeforeConfirmation => do
      activationFailedBeforeConfirmation
      return .done
  | .activationConfirmed activated remaining totalConsumed activationStartedBilling => do
      activationConfirmed activated remaining totalConsumed activationStartedBilling
      return .done
  | .beginStatusRefresh => do
      let operationToken ← beginStatusRefresh
      return .token operationToken
  | .statusRefreshFailed operationToken => do
      statusRefreshFailed operationToken
      return .done
  | .statusRefreshFailedIfCurrent operationToken => do
      let value ← statusRefreshFailedIfCurrent operationToken
      return .flag value
  | .failClosedFromAuthenticatedRevocationIfCurrent operationToken revokedEntitlement remaining
      totalConsumed => do
      let value ← failClosedFromAuthenticatedRevocationIfCurrent operationToken
        revokedEntitlement remaining totalConsumed
      return .flag value
  | .statusConfirmed operationToken confirmedEntitlement entitlementStatus remaining
      totalConsumed => do
      statusConfirmed operationToken confirmedEntitlement entitlementStatus remaining totalConsumed
      return .done
  | .releaseConfirmedExhaustedEntitlement => do
      releaseConfirmedExhaustedEntitlement
      return .done
  | .runtimeRequestedFormalStart bothRuntimesAndChannelReady => do
      runtimeRequestedFormalStart bothRuntimesAndChannelReady
      return .done
  | .formalStartFailed => do
      formalStartFailed
      return .done
  | .verifiedInitialLeaseInstalled verifiedSessionId verifiedSequence chargedSeconds remaining
      totalConsumed serverBillingStarted => do
      verifiedInitialLeaseInstalled verifiedSessionId verifiedSequence chargedSeconds remaining
        totalConsumed serverBillingStarted
      return .done
  | .leaseExpiredLocally => do
      leaseExpiredLocally
      return .done
  | .verifiedRenewalInstalled verifiedSequence chargedSeconds remaining totalConsumed => do
      verifiedRenewalInstalled verifiedSequence chargedSeconds remaining totalConsumed
      return .done
  | .verifiedFutureRenewalStaged verifiedSequence chargedSeconds remaining totalConsumed => do
      verifiedFutureRenewalStaged verifiedSequence chargedSeconds remaining totalConsumed
      return .done
  | .stagedRenewalActivated verifiedSequence => do
      stagedRenewalActivated verifiedSequence
      return .done
  | .closeLocalForRuntimeStop => do
      closeLocalForRuntimeStop
      return .done
  | .stopFinished remaining => do
      stopFinished remaining
      return .done
  | .revoke => do
      revoke
      return .done

def finished : EStateM.Result Throwable DualMachineFormalUsageStateMachine Answer →
    DualMachineFormalUsageStateMachine × Answer
  | .ok answer machine => (machine, answer)
  | .error error machine => (machine, .thrown error)

def step (machine : DualMachineFormalUsageStateMachine) (op : Operation) :
    DualMachineFormalUsageStateMachine × Answer :=
  finished ((perform op).run machine)

def authorized (entitlement : DualMachineEntitlementRecord) (remainingSeconds : Int) : State :=
  if entitlement.permanent ∨ 0 < remainingSeconds then .activatedIdle else .exhausted

/-- An operation settles the status refresh of a token. -/
inductive Settles (operationToken : Int) : Operation → Answer → Prop where
  | failed : Settles operationToken (.statusRefreshFailed operationToken) .done
  | failedIfCurrent :
      Settles operationToken (.statusRefreshFailedIfCurrent operationToken) (.flag true)
  | revoked {revokedEntitlement : Option DualMachineEntitlementRecord}
      {remaining totalConsumed : Int} :
      Settles operationToken (.failClosedFromAuthenticatedRevocationIfCurrent operationToken
        revokedEntitlement remaining totalConsumed) (.flag true)
  | confirmed {confirmedEntitlement : Option DualMachineEntitlementRecord}
      {entitlementStatus : Option Units} {remaining totalConsumed : Int} :
      Settles operationToken (.statusConfirmed operationToken confirmedEntitlement
        entitlementStatus remaining totalConsumed) .done

def Refused : Answer → Prop
  | .flag value => value = false
  | .thrown _ => True
  | _ => False

inductive Effect (before : DualMachineFormalUsageStateMachine) :
    Operation → Answer → DualMachineFormalUsageStateMachine → Prop where
  | refused {operation : Operation} {answer : Answer} (refused : Refused answer) :
      Effect before operation answer before
  | restores (restored : DualMachineEntitlementRecord) :
      Effect before (.restoreBoundEntitlement (some restored)) .done
        { before.clearSession.clearStatusRefresh with
          entitlement := some restored
          remainingSeconds := 0
          totalConsumedSeconds := 0
          balanceKnown := false
          stateBeforeActivation := none
          activationOperationInFlight := false
          state := if restored.revoked then .revoked else .activatedIdle }
  | reserves {operation : Operation} (operation_eq : operation = .beginCardActivation ∨
      operation = .beginPendingCardActivationResume) (unactivated : before.state = .unactivated) :
      Effect before operation .done
        { before with
          stateBeforeActivation := some before.state
          activationOperationInFlight := true
          state := .activating }
  | resumes (activating : before.state = .activating) :
      Effect before .beginPendingCardActivationResume .done
        { before with activationOperationInFlight := true }
  | pends (activating : before.state = .activating) :
      Effect before .markCardActivationPending .done
        { before with activationOperationInFlight := false }
  | releasesActivation {state : State} (activating : before.state = .activating)
      (earlier : before.stateBeforeActivation = some state) :
      Effect before .activationFailedBeforeConfirmation .done
        { before with
          state := state
          stateBeforeActivation := none
          activationOperationInFlight := false }
  | activates {activated : DualMachineEntitlementRecord} {remaining totalConsumed : Int}
      {startedBilling : Bool} (activating : before.state = .activating)
      (unbound : before.entitlement = none) :
      Effect before
        (.activationConfirmed (some activated) remaining totalConsumed startedBilling) .done
        { before.clearSession with
          entitlement := some activated
          remainingSeconds := remaining
          totalConsumedSeconds := totalConsumed
          balanceKnown := true
          stateBeforeActivation := none
          activationOperationInFlight := false
          state := authorized activated remaining }
  | refreshes (refreshable : before.snapshot.canRefreshStatus = true)
      (bound : before.entitlement.isSome = true) :
      Effect before .beginStatusRefresh (.token (before.statusRefreshGeneration + 1))
        { before with
          stateBeforeStatusRefresh := some before.state
          statusRefreshGeneration := before.statusRefreshGeneration + 1
          activeStatusRefreshToken := before.statusRefreshGeneration + 1
          state := .statusRefreshing }
  | exhaustsTokens (refreshable : before.snapshot.canRefreshStatus = true) :
      Effect before .beginStatusRefresh (.thrown .arithmetic)
        { before with stateBeforeStatusRefresh := some before.state }
  | rollsBack {operation : Operation} {answer : Answer} {operationToken : Int} {state : State}
      (settles : Settles operationToken operation answer)
      (current : before.isCurrentStatusRefreshToken operationToken = true)
      (earlier : before.stateBeforeStatusRefresh = some state) :
      Effect before operation answer { before.clearStatusRefresh with state := state }
  | settles {operation : Operation} {answer : Answer} {operationToken : Int}
      {entitlement confirmed : DualMachineEntitlementRecord} {remaining totalConsumed : Int}
      {state : State} (settles : Settles operationToken operation answer)
      (current : before.isCurrentStatusRefreshToken operationToken = true)
      (bound : before.entitlement = some entitlement)
      (version : entitlement.revocationVersion ≤ confirmed.revocationVersion)
      (allowed : state = .revoked ∨ (state = authorized confirmed remaining ∧
        before.stateBeforeStatusRefresh ≠ some .revoked)) :
      Effect before operation answer
        { before.clearSession.clearStatusRefresh with
          entitlement := some confirmed
          remainingSeconds := remaining
          totalConsumedSeconds := totalConsumed
          balanceKnown := true
          state := state }
  | releases (exhausted : before.state = .exhausted) :
      Effect before .releaseConfirmedExhaustedEntitlement .done
        { before.clearSession.clearStatusRefresh with
          entitlement := none
          remainingSeconds := 0
          totalConsumedSeconds := 0
          balanceKnown := false
          stateBeforeActivation := none
          activationOperationInFlight := false
          state := .unactivated }
  | starts (idle : before.state = .activatedIdle) (bound : before.entitlement.isSome = true) :
      Effect before (.runtimeRequestedFormalStart true) .done
        { before.clearSession with state := .starting }
  | startFails {entitlement : DualMachineEntitlementRecord} (starting : before.state = .starting)
      (bound : before.entitlement = some entitlement) :
      Effect before .formalStartFailed .done
        { before.clearSession with state := authorized entitlement before.remainingSeconds }
  | startFailsUnbound {error : Throwable} (starting : before.state = .starting)
      (unbound : before.entitlement = none) :
      Effect before .formalStartFailed (.thrown error) before.clearSession
  | installs {sessionId : Units} {chargedSeconds remaining totalConsumed : Int} {started : Bool}
      (starting : before.state = .starting) (someSession : sessionId ≠ []) :
      Effect before (.verifiedInitialLeaseInstalled (some sessionId) 0 chargedSeconds remaining
          totalConsumed started) .done
        { before with
          sessionId := sessionId
          leaseSequence := 0
          remainingSeconds := remaining
          totalConsumedSeconds := totalConsumed
          balanceKnown := true
          billingStarted := true
          permitsDataPlane := true
          state := .active }
  | expires (active : before.state = .active) :
      Effect before .leaseExpiredLocally .done
        { before with permitsDataPlane := false, state := .renewalGap }
  | renews {chargedSeconds remaining totalConsumed : Int}
      (renewable : before.state = .active ∨ before.state = .renewalGap) :
      Effect before (.verifiedRenewalInstalled (wrap (before.leaseSequence + 1)) chargedSeconds
          remaining totalConsumed) .done
        { before with
          leaseSequence := wrap (before.leaseSequence + 1)
          remainingSeconds := remaining
          totalConsumedSeconds := totalConsumed
          balanceKnown := true
          billingStarted := true
          permitsDataPlane := true
          state := .active }
  | stages {chargedSeconds remaining totalConsumed : Int}
      (renewable : before.state = .active ∨ before.state = .renewalGap) :
      Effect before (.verifiedFutureRenewalStaged (wrap (before.leaseSequence + 1))
          chargedSeconds remaining totalConsumed) .done
        { before with
          leaseSequence := wrap (before.leaseSequence + 1)
          remainingSeconds := remaining
          totalConsumedSeconds := totalConsumed
          balanceKnown := true
          billingStarted := true }
  | activatesStaged (renewable : before.state = .active ∨ before.state = .renewalGap) :
      Effect before (.stagedRenewalActivated before.leaseSequence) .done
        { before with permitsDataPlane := true, state := .active }
  | closes (running : before.state = .starting ∨ before.state = .active ∨
      before.state = .renewalGap) :
      Effect before .closeLocalForRuntimeStop .done
        { before with permitsDataPlane := false, state := .stopping }
  | stops {remaining : Int} {entitlement : DualMachineEntitlementRecord}
      (stopping : before.state = .stopping) (bound : before.entitlement = some entitlement) :
      Effect before (.stopFinished remaining) .done
        { before.clearSession with
          remainingSeconds := remaining
          state := authorized entitlement remaining }
  | stopsUnbound {remaining : Int} {error : Throwable} (stopping : before.state = .stopping)
      (unbound : before.entitlement = none) :
      Effect before (.stopFinished remaining) (.thrown error)
        { before.clearSession with remainingSeconds := remaining }
  | revokes :
      Effect before .revoke .done
        { before.clearSession.clearStatusRefresh with
          stateBeforeActivation := none
          activationOperationInFlight := false
          state := .revoked }

section

variable {α β : Type} (machine : DualMachineFormalUsageStateMachine)

theorem get_bind (next : DualMachineFormalUsageStateMachine → Method β) :
    (get >>= next).run machine = (next machine).run machine := rfl

theorem modify_bind (update : DualMachineFormalUsageStateMachine →
    DualMachineFormalUsageStateMachine) (next : PUnit → Method β) :
    (modify update >>= next).run machine = (next ⟨⟩).run (update machine) := rfl

theorem pure_run (value : α) : (pure value : Method α).run machine = .ok value machine := rfl

theorem given_ok (value : α) (next : α → Method β) :
    (given (.ok value) >>= next).run machine = (next value).run machine := rfl

theorem require_bind (cond : Bool) (error : Throwable) (next : Unit → Method β) :
    (require cond error >>= next).run machine =
      if cond then (next ()).run machine else .error error machine := by
  cases cond <;> rfl

end

section

-- every proof below computes one operation
attribute [local simp] perform

variable (machine : DualMachineFormalUsageStateMachine)

def HasEffect (op : Operation) : Prop :=
  Effect machine op (machine.step op).2 (machine.step op).1

variable {op : Operation}

theorem hasEffect_of_error {error : Throwable}
    (thrown : (perform op).run machine = .error error machine) :
    HasEffect machine op := by
  unfold HasEffect step
  rw [thrown]
  exact .refused trivial

theorem hasEffect_of_ok {ans : Answer} {next : DualMachineFormalUsageStateMachine}
    (ok : (perform op).run machine = .ok ans next)
    (effect : Effect machine op ans next) : HasEffect machine op := by
  unfold HasEffect step
  rw [ok]
  exact effect

theorem restoreBoundEntitlement_hasEffect (restored : Option DualMachineEntitlementRecord) :
    HasEffect machine (.restoreBoundEntitlement restored) := by
  cases restored with
  | none => exact hasEffect_of_error machine rfl
  | some restored => exact hasEffect_of_ok machine rfl (.restores restored)

theorem beginCardActivation_hasEffect : HasEffect machine .beginCardActivation := by
  unfold HasEffect step
  simp only [perform, beginCardActivation, reserveActivation, bind_assoc, get_bind, require_bind,
    modify_bind, pure_run]
  split
  · rename_i unactivated
    exact .reserves (.inl rfl) (by simpa [Snapshot.canActivate, snapshot] using unactivated)
  · exact .refused trivial

theorem beginPendingCardActivationResume_hasEffect :
    HasEffect machine .beginPendingCardActivationResume := by
  unfold HasEffect step
  simp only [perform, beginPendingCardActivationResume, reserveActivation, bind_assoc, get_bind]
  by_cases activating : machine.state = .activating
  · rw [if_neg (not_not.mpr activating)]
    simp only [bind_assoc, require_bind, modify_bind, pure_run]
    split
    · exact .resumes activating
    · exact .refused trivial
  · rw [if_pos activating]
    simp only [bind_assoc, require_bind, modify_bind, pure_run]
    split
    · exact .reserves (.inr rfl) (beq_iff_eq.mp ‹_›)
    · exact .refused trivial

theorem markCardActivationPending_hasEffect : HasEffect machine .markCardActivationPending := by
  unfold HasEffect step
  simp only [perform, markCardActivationPending, bind_assoc, get_bind, require_bind, modify_bind,
    pure_run]
  split
  · rename_i pend
    rw [Bool.and_eq_true, beq_iff_eq] at pend
    exact .pends pend.1
  · exact .refused trivial

theorem activationFailedBeforeConfirmation_hasEffect :
    HasEffect machine .activationFailedBeforeConfirmation := by
  unfold HasEffect step
  simp only [perform, activationFailedBeforeConfirmation, bind_assoc, get_bind]
  cases old : machine.stateBeforeActivation with
  | none => exact .refused trivial
  | some state =>
    simp only [bind_assoc, require_bind, modify_bind, pure_run]
    split
    · rename_i reserved
      rw [Bool.and_eq_true, beq_iff_eq] at reserved
      exact .releasesActivation reserved.1 old
    · exact .refused trivial

theorem authorizationState_some (ent : DualMachineEntitlementRecord) (rem : Int) :
    authorizationState (some ent) rem = .ok (authorized ent rem) := rfl

theorem requireBalances_bind {β : Type} (rem total : Int) (next : Unit → Method β) :
    (given (requireBalances rem total) >>= next).run machine =
      if rem < 0 ∨ total < 0 then
        .error (.illegalArgument "balances must not be negative") machine
      else (next ()).run machine := by
  unfold requireBalances
  split <;> rfl

theorem activationConfirmed_hasEffect (activated : Option DualMachineEntitlementRecord)
    (rem total : Int) (startedBilling : Bool) :
    HasEffect machine (.activationConfirmed activated rem total startedBilling) := by
  cases activated with
  | none => exact hasEffect_of_error machine rfl
  | some activated =>
    unfold HasEffect step
    simp only [perform, activationConfirmed, requireEntitlement, authorizationState_some,
      bind_assoc, given_ok, requireBalances_bind, get_bind, require_bind, modify_bind, pure_run]
    split
    · exact .refused trivial
    split
    · rename_i activating
      rw [Bool.and_eq_true, beq_iff_eq] at activating
      split
      · rename_i unbound
        rw [Bool.and_eq_true, Option.isNone_iff_eq_none] at unbound
        split
        · exact .activates activating.1 unbound.2
        · exact .refused trivial
      · exact .refused trivial
    · exact .refused trivial

theorem beginStatusRefresh_hasEffect : HasEffect machine .beginStatusRefresh := by
  unfold HasEffect step
  simp only [perform, beginStatusRefresh, bind_assoc, get_bind, require_bind, modify_bind,
    pure_bind]
  split
  · rename_i refreshable
    rw [Bool.and_eq_true] at refreshable
    cases next : addExact machine.statusRefreshGeneration 1 with
    | none => exact .exhaustsTokens refreshable.1
    | some gen =>
      obtain ⟨-, rfl⟩ := exact_eq_some.mp next
      exact .refreshes refreshable.1 refreshable.2
  · exact .refused trivial

theorem isCurrentStatusRefreshToken_iff {token : Int} :
    machine.isCurrentStatusRefreshToken token = true ↔
      machine.state = .statusRefreshing ∧ machine.activeStatusRefreshToken ≠ 0 ∧
        token = machine.activeStatusRefreshToken ∧
        ∃ state, machine.stateBeforeStatusRefresh = some state := by
  simp [isCurrentStatusRefreshToken, Option.isSome_iff_exists, and_assoc]

theorem requireStatusRefreshToken_bind {β : Type} (token : Int) (next : Unit → Method β) :
    (requireStatusRefreshToken token >>= next).run machine =
      if machine.isCurrentStatusRefreshToken token then (next ()).run machine
      else .error (.illegalState "status refresh operation is not current") machine := by
  simp only [requireStatusRefreshToken, bind_assoc, get_bind, require_bind]

theorem rollback_effect {ans : Answer} {token : Int}
    (settles : Settles token op ans)
    (cur : machine.isCurrentStatusRefreshToken token = true) :
    Effect machine op ans
      { machine.clearStatusRefresh with
        state := machine.stateBeforeStatusRefresh.getD machine.state } := by
  obtain ⟨-, -, -, state, old⟩ := (isCurrentStatusRefreshToken_iff machine).mp cur
  rw [old]
  exact .rollsBack settles cur old

theorem statusRefreshFailed_hasEffect (token : Int) :
    HasEffect machine (.statusRefreshFailed token) := by
  unfold HasEffect step
  simp only [perform, statusRefreshFailed, rollbackStatusRefresh, bind_assoc,
    requireStatusRefreshToken_bind, modify_bind, pure_run]
  split
  · exact rollback_effect machine .failed ‹_›
  · exact .refused trivial

theorem statusRefreshFailedIfCurrent_hasEffect (token : Int) :
    HasEffect machine (.statusRefreshFailedIfCurrent token) := by
  unfold HasEffect step
  simp only [perform, statusRefreshFailedIfCurrent, rollbackStatusRefresh, bind_assoc, get_bind]
  by_cases cur : machine.isCurrentStatusRefreshToken token = true
  · rw [if_pos cur]
    exact rollback_effect machine .failedIfCurrent cur
  · rw [if_neg cur]
    exact .refused rfl

theorem requireSameEntitlementBinding_eq_ok
    {ent confirmed : Option DualMachineEntitlementRecord}
    {both : DualMachineEntitlementRecord × DualMachineEntitlementRecord}
    (same : requireSameEntitlementBinding ent confirmed = .ok both) :
    ent = some both.1 ∧ confirmed = some both.2 := by
  cases confirmed with
  | none => cases same
  | some confirmed =>
    cases ent with
    | none => cases same
    | some ent =>
      dsimp only [requireSameEntitlementBinding, requireEntitlement, bind, Except.bind] at same
      split at same
      · cases same
        exact ⟨rfl, rfl⟩
      · cases same

theorem failClosed_hasEffect (token : Int)
    (revokedEntitlement : Option DualMachineEntitlementRecord) (rem total : Int) :
    HasEffect machine (.failClosedFromAuthenticatedRevocationIfCurrent token
      revokedEntitlement rem total) := by
  unfold HasEffect step
  simp only [perform, failClosedFromAuthenticatedRevocationIfCurrent, settle, bind_assoc, get_bind]
  by_cases cur : machine.isCurrentStatusRefreshToken token = true
  · rw [if_pos cur]
    simp only [bind_assoc, requireBalances_bind]
    split
    · exact .refused trivial
    cases same : requireSameEntitlementBinding machine.entitlement revokedEntitlement with
    | error error => exact .refused trivial
    | ok both =>
      obtain ⟨bound, rfl⟩ := requireSameEntitlementBinding_eq_ok same
      simp only [given_ok, require_bind, modify_bind]
      split
      · rename_i version
        rw [Bool.and_eq_true, decide_eq_true_eq] at version
        exact .settles .revoked cur bound version.2 (.inl rfl)
      · exact .refused trivial
  · rw [if_neg cur]
    exact .refused rfl

theorem statusConfirmed_hasEffect (token : Int)
    (confirmedEntitlement : Option DualMachineEntitlementRecord)
    (entitlementStatus : Option Units) (remaining total : Int) :
    HasEffect machine (.statusConfirmed token confirmedEntitlement entitlementStatus
      remaining total) := by
  unfold HasEffect step
  simp only [perform, statusConfirmed, settle, bind_assoc, requireBalances_bind,
    requireStatusRefreshToken_bind, get_bind]
  split
  · exact .refused trivial
  split
  · rename_i cur
    cases same : requireSameEntitlementBinding machine.entitlement confirmedEntitlement with
    | error error => exact .refused trivial
    | ok both =>
      obtain ⟨bound, rfl⟩ := requireSameEntitlementBinding_eq_ok same
      simp only [given_ok, require_bind]
      split
      · rename_i version
        rw [decide_eq_true_eq] at version
        by_cases revoked : entitlementStatus = some (text "revoked")
        · simp only [if_pos revoked, bind_assoc, require_bind, modify_bind, pure_run]
          split
          · exact .settles .confirmed cur bound version (.inl rfl)
          · exact .refused trivial
        · simp only [if_neg revoked, bind_assoc, require_bind, authorizationState_some, given_ok,
            modify_bind, pure_run]
          split
          · split
            · rename_i unrevoked
              rw [Bool.and_eq_true, Bool.and_eq_true, Bool.not_eq_true', Bool.or_eq_false_iff,
                beq_eq_false_iff_ne] at unrevoked
              exact .settles .confirmed cur bound version (.inr ⟨rfl, unrevoked.1.1.2⟩)
            · exact .refused trivial
          · exact .refused trivial
      · exact .refused trivial
  · exact .refused trivial

theorem releaseConfirmedExhaustedEntitlement_hasEffect :
    HasEffect machine .releaseConfirmedExhaustedEntitlement := by
  unfold HasEffect step
  simp only [perform, releaseConfirmedExhaustedEntitlement, bind_assoc, get_bind, require_bind,
    modify_bind, pure_run]
  split
  · rename_i released
    simp only [Bool.and_eq_true, beq_iff_eq] at released
    exact .releases released.1.1.1.1.1.1
  · exact .refused trivial

theorem runtimeRequestedFormalStart_hasEffect (ready : Bool) :
    HasEffect machine (.runtimeRequestedFormalStart ready) := by
  unfold HasEffect step
  simp only [perform, runtimeRequestedFormalStart, bind_assoc, get_bind, require_bind,
    modify_bind, pure_run]
  split
  · rename_i available
    rw [Bool.and_eq_true, beq_iff_eq] at available
    cases ready with
    | false => exact .refused trivial
    | true =>
      have bound : machine.entitlement.isSome = true := by
        obtain ⟨ent, isBound, -⟩ := (Option.any_eq_true _ _).mp available.2
        rw [isBound]
        rfl
      exact .starts available.1 bound
  · exact .refused trivial

theorem formalStartFailed_hasEffect : HasEffect machine .formalStartFailed := by
  unfold HasEffect step
  simp only [perform, formalStartFailed, bind_assoc, get_bind, require_bind, modify_bind]
  split
  · rename_i starting
    rw [beq_iff_eq] at starting
    cases bound : machine.entitlement with
    | none => exact .startFailsUnbound starting bound
    | some ent => exact .startFails starting bound
  · exact .refused trivial

theorem requireIdentifier_eq_ok {value : Option Units} {name : String} {identifier : Units}
    (isOk : requireIdentifier value name = .ok identifier) :
    value = some identifier ∧ identifier ≠ [] := by
  cases value with
  | none => cases isOk
  | some value =>
    dsimp only [requireIdentifier] at isOk
    split at isOk
    · cases isOk
    rename_i long
    split at isOk
    · cases isOk
      refine ⟨rfl, ?_⟩
      rintro rfl
      simp at long
    · cases isOk

theorem verifiedInitialLeaseInstalled_hasEffect (sessionId : Option Units)
    (seq chargedSeconds remaining total : Int) (started : Bool) :
    HasEffect machine (.verifiedInitialLeaseInstalled sessionId seq chargedSeconds
      remaining total started) := by
  unfold HasEffect step
  simp only [perform, verifiedInitialLeaseInstalled, account, permit, bind_assoc, get_bind,
    require_bind, requireBalances_bind]
  split
  · rename_i starting
    rw [beq_iff_eq] at starting
    split
    · rename_i initial
      rw [Bool.and_eq_true, Bool.and_eq_true, beq_iff_eq] at initial
      obtain rfl := initial.1.1
      split
      · exact .refused trivial
      cases required : requireIdentifier sessionId "sessionId" with
      | error error => exact .refused trivial
      | ok identifier =>
        obtain ⟨rfl, someSession⟩ := requireIdentifier_eq_ok required
        exact .installs starting someSession
    · exact .refused trivial
  · exact .refused trivial

theorem leaseExpiredLocally_hasEffect : HasEffect machine .leaseExpiredLocally := by
  unfold HasEffect step
  simp only [perform, leaseExpiredLocally, bind_assoc, get_bind, require_bind, modify_bind,
    pure_run]
  split
  · exact .expires (beq_iff_eq.mp ‹_›)
  · exact .refused trivial

theorem requireRenewal_effect {next : Unit → Method Answer}
    {seq chargedSeconds rem total : Int}
    (effect : (machine.state = .active ∨ machine.state = .renewalGap) →
      seq = wrap (machine.leaseSequence + 1) →
      Effect machine op (finished ((next ()).run machine)).2
        (finished ((next ()).run machine)).1) :
    Effect machine op
      (finished ((requireRenewal seq chargedSeconds rem total >>= next).run machine)).2
      (finished ((requireRenewal seq chargedSeconds rem total >>= next).run machine)).1 := by
  simp only [requireRenewal, bind_assoc, get_bind, require_bind, requireBalances_bind]
  split
  · rename_i renewable
    rw [Bool.or_eq_true, beq_iff_eq, beq_iff_eq] at renewable
    split
    · rename_i following
      rw [Bool.and_eq_true, beq_iff_eq] at following
      split
      · exact .refused trivial
      · exact effect renewable following.1
    · exact .refused trivial
  · exact .refused trivial

theorem verifiedRenewalInstalled_hasEffect (seq chargedSeconds rem total : Int) :
    HasEffect machine (.verifiedRenewalInstalled seq chargedSeconds rem
      total) := by
  unfold HasEffect step
  simp only [perform, verifiedRenewalInstalled, bind_assoc]
  apply requireRenewal_effect
  rintro renewable rfl
  exact .renews renewable

theorem verifiedFutureRenewalStaged_hasEffect
    (seq chargedSeconds rem total : Int) :
    HasEffect machine (.verifiedFutureRenewalStaged seq chargedSeconds rem
      total) := by
  unfold HasEffect step
  simp only [perform, verifiedFutureRenewalStaged, bind_assoc]
  apply requireRenewal_effect
  rintro renewable rfl
  exact .stages renewable

theorem stagedRenewalActivated_hasEffect (seq : Int) :
    HasEffect machine (.stagedRenewalActivated seq) := by
  unfold HasEffect step
  simp only [perform, stagedRenewalActivated, permit, bind_assoc, get_bind, require_bind,
    modify_bind, pure_run]
  split
  · rename_i staged
    rw [Bool.and_eq_true, Bool.or_eq_true, beq_iff_eq, beq_iff_eq, beq_iff_eq] at staged
    obtain ⟨renewable, rfl⟩ := staged
    exact .activatesStaged renewable
  · exact .refused trivial

theorem closeLocalForRuntimeStop_hasEffect : HasEffect machine .closeLocalForRuntimeStop := by
  unfold HasEffect step
  simp only [perform, closeLocalForRuntimeStop, bind_assoc, get_bind, require_bind, modify_bind,
    pure_run]
  split
  · rename_i running
    simp only [Bool.or_eq_true, beq_iff_eq, or_assoc] at running
    exact .closes running
  · exact .refused trivial

theorem stopFinished_hasEffect (rem : Int) : HasEffect machine (.stopFinished rem) := by
  unfold HasEffect step
  simp only [perform, stopFinished, bind_assoc, get_bind, require_bind, modify_bind]
  split
  · rename_i stopping
    rw [beq_iff_eq] at stopping
    split
    · cases bound : machine.entitlement with
      | none => exact .stopsUnbound stopping bound
      | some ent => exact .stops stopping bound
    · exact .refused trivial
  · exact .refused trivial

theorem step_hasEffect (op : Operation) : HasEffect machine op := by
  cases op with
  | restoreBoundEntitlement restored => exact restoreBoundEntitlement_hasEffect machine restored
  | beginCardActivation => exact beginCardActivation_hasEffect machine
  | beginPendingCardActivationResume => exact beginPendingCardActivationResume_hasEffect machine
  | markCardActivationPending => exact markCardActivationPending_hasEffect machine
  | activationFailedBeforeConfirmation =>
    exact activationFailedBeforeConfirmation_hasEffect machine
  | activationConfirmed => exact activationConfirmed_hasEffect machine _ _ _ _
  | beginStatusRefresh => exact beginStatusRefresh_hasEffect machine
  | statusRefreshFailed => exact statusRefreshFailed_hasEffect machine _
  | statusRefreshFailedIfCurrent => exact statusRefreshFailedIfCurrent_hasEffect machine _
  | failClosedFromAuthenticatedRevocationIfCurrent => exact failClosed_hasEffect machine _ _ _ _
  | statusConfirmed => exact statusConfirmed_hasEffect machine _ _ _ _ _
  | releaseConfirmedExhaustedEntitlement =>
    exact releaseConfirmedExhaustedEntitlement_hasEffect machine
  | runtimeRequestedFormalStart => exact runtimeRequestedFormalStart_hasEffect machine _
  | formalStartFailed => exact formalStartFailed_hasEffect machine
  | verifiedInitialLeaseInstalled =>
    exact verifiedInitialLeaseInstalled_hasEffect machine _ _ _ _ _ _
  | leaseExpiredLocally => exact leaseExpiredLocally_hasEffect machine
  | verifiedRenewalInstalled => exact verifiedRenewalInstalled_hasEffect machine _ _ _ _
  | verifiedFutureRenewalStaged => exact verifiedFutureRenewalStaged_hasEffect machine _ _ _ _
  | stagedRenewalActivated => exact stagedRenewalActivated_hasEffect machine _
  | closeLocalForRuntimeStop => exact closeLocalForRuntimeStop_hasEffect machine
  | stopFinished => exact stopFinished_hasEffect machine _
  | revoke => exact hasEffect_of_ok machine rfl .revokes

end

end VisionForge.FormalUsage.DualMachineFormalUsageStateMachine
