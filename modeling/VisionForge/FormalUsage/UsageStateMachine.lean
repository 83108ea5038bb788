import VisionForge.FormalUsage.SessionGuard
import VisionForge.Lib.Long
import VisionForge.Lib.Methods

/-! # The user-rights state machine

Activation of a card, refreshes of its status and paid sessions share one state. The machine
has no network and no storage; every method holds its monitor. What a method has written
before it throws stays written.
-/

namespace VisionForge.FormalUsage

open Lib.Long Lib.Methods Lib.Utf

/-- The bound entitlement, as far as the machine compares it. -/
structure DualMachineEntitlementRecord where
  entitlementId : Units
  pairId : Units
  protocolVersion : Int
  revocationVersion : Int
  hostKeySha256 : Units
  hostIdentityPublicKeyBase64 : Units
  androidKeySha256 : Units
  androidIdentityAlias : Units
  authorizationKind : Units
  productKey : Units
  permanent : Bool
  revoked : Bool
  deriving DecidableEq

def DualMachineEntitlementRecord.isSupportedAuthorizationKind (value : Units) : Bool :=
  value == text "legacy_balance" || value == text "day" || value == text "week" ||
    value == text "month" || value == text "permanent"

namespace DualMachineFormalUsageStateMachine

inductive State where
  | unactivated
  | activating
  | activatedIdle
  | statusRefreshing
  | starting
  | active
  | renewalGap
  | stopping
  | exhausted
  | revoked
  deriving DecidableEq

structure Snapshot where
  state : State
  entitlement : Option DualMachineEntitlementRecord
  remainingSeconds : Int
  totalConsumedSeconds : Int
  balanceKnown : Bool
  sessionId : Units
  leaseSequence : Int
  billingStarted : Bool
  permitsDataPlane : Bool
  activationOperationInFlight : Bool
  activationConfirmationPending : Bool
  deriving DecidableEq

def Snapshot.canActivate (snapshot : Snapshot) : Bool := snapshot.state == .unactivated

def Snapshot.canRefreshStatus (snapshot : Snapshot) : Bool :=
  snapshot.state == .activatedIdle || snapshot.state == .exhausted || snapshot.state == .revoked

def Snapshot.canFormalStart (snapshot : Snapshot) : Bool :=
  snapshot.state == .activatedIdle && snapshot.balanceKnown &&
    snapshot.entitlement.any (fun entitlement =>
      entitlement.permanent || decide (0 < snapshot.remainingSeconds))

def Snapshot.canFormalStop (snapshot : Snapshot) : Bool :=
  snapshot.state == .starting || snapshot.state == .active || snapshot.state == .renewalGap

end DualMachineFormalUsageStateMachine

open DualMachineFormalUsageStateMachine

structure DualMachineFormalUsageStateMachine where
  state : State := .unactivated
  entitlement : Option DualMachineEntitlementRecord := none
  remainingSeconds : Int := 0
  totalConsumedSeconds : Int := 0
  balanceKnown : Bool := false
  sessionId : Units := []
  leaseSequence : Int := -1
  billingStarted : Bool := false
  permitsDataPlane : Bool := false
  stateBeforeActivation : Option State := none
  activationOperationInFlight : Bool := false
  stateBeforeStatusRefresh : Option State := none
  statusRefreshGeneration : Int := 0
  activeStatusRefreshToken : Int := 0
  deriving DecidableEq

namespace DualMachineFormalUsageStateMachine

abbrev Method := EStateM Throwable DualMachineFormalUsageStateMachine

/-- A check reads the machine and does not change it. -/
def given {α : Type} (outcome : Except Throwable α) : Method α := fun machine =>
  match outcome with
  | .ok value => .ok value machine
  | .error error => .error error machine

def require (condition : Bool) (error : Throwable) : Method Unit :=
  given (if condition then .ok () else .error error)

section

variable (machine : DualMachineFormalUsageStateMachine)

def snapshot : Snapshot where
  state := machine.state
  entitlement := machine.entitlement
  remainingSeconds := machine.remainingSeconds
  totalConsumedSeconds := machine.totalConsumedSeconds
  balanceKnown := machine.balanceKnown
  sessionId := machine.sessionId
  leaseSequence := machine.leaseSequence
  billingStarted := machine.billingStarted
  permitsDataPlane := machine.permitsDataPlane
  activationOperationInFlight := machine.activationOperationInFlight
  activationConfirmationPending :=
    machine.state == .activating && !machine.activationOperationInFlight

def clearSession : DualMachineFormalUsageStateMachine :=
  { machine with
    sessionId := []
    leaseSequence := -1
    billingStarted := false
    permitsDataPlane := false }

def clearStatusRefresh : DualMachineFormalUsageStateMachine :=
  { machine with stateBeforeStatusRefresh := none, activeStatusRefreshToken := 0 }

def isCurrentStatusRefreshToken (operationToken : Int) : Bool :=
  machine.state == .statusRefreshing && machine.activeStatusRefreshToken != 0 &&
    operationToken == machine.activeStatusRefreshToken && machine.stateBeforeStatusRefresh.isSome

def validLeaseCharge (chargedSeconds : Int) : Bool :=
  match machine.entitlement with
  | some entitlement =>
    if entitlement.permanent then chargedSeconds == 0 else decide (0 < chargedSeconds)
  | none => false

end

def requireEntitlement :
    Option DualMachineEntitlementRecord → Except Throwable DualMachineEntitlementRecord
  | some value => .ok value
  | none => .error (.illegalArgument "entitlement is required")

def authorizationState (entitlement : Option DualMachineEntitlementRecord)
    (remainingSeconds : Int) : Except Throwable State :=
  match entitlement with
  | none => .error (.illegalState "entitlement is unavailable")
  | some entitlement =>
    .ok (if entitlement.permanent ∨ 0 < remainingSeconds then .activatedIdle else .exhausted)

def requireBalances (remaining totalConsumed : Int) : Except Throwable Unit :=
  if remaining < 0 ∨ totalConsumed < 0 then
    .error (.illegalArgument "balances must not be negative")
  else .ok ()

def isLowerHexUnit (character : UInt16) : Bool :=
  (decide (48 ≤ character) && decide (character ≤ 57)) ||
    (decide (97 ≤ character) && decide (character ≤ 102))

def requireIdentifier (value : Option Units) (name : String) : Except Throwable Units :=
  match value with
  | none => .error (.illegalArgument (name ++ " has invalid length"))
  | some value =>
    if value.length ≠ 32 then .error (.illegalArgument (name ++ " has invalid length"))
    else if value.all isLowerHexUnit then .ok value
    else .error (.illegalArgument (name ++ " is not lowercase hex"))

/-- The confirmed record names the same binding; only a legacy balance may become a card. -/
def sameEntitlementBinding (entitlement confirmed : DualMachineEntitlementRecord) : Bool :=
  let authorizationUnchanged :=
    entitlement.authorizationKind == confirmed.authorizationKind &&
      entitlement.productKey == confirmed.productKey &&
      entitlement.permanent == confirmed.permanent
  let legacyAuthorizationUpgraded :=
    entitlement.authorizationKind == text "legacy_balance" &&
      confirmed.authorizationKind != text "legacy_balance" &&
      DualMachineEntitlementRecord.isSupportedAuthorizationKind confirmed.authorizationKind
  entitlement.entitlementId == confirmed.entitlementId &&
    entitlement.pairId == confirmed.pairId &&
    entitlement.protocolVersion == confirmed.protocolVersion &&
    entitlement.hostKeySha256 == confirmed.hostKeySha256 &&
    entitlement.hostIdentityPublicKeyBase64 == confirmed.hostIdentityPublicKeyBase64 &&
    entitlement.androidKeySha256 == confirmed.androidKeySha256 &&
    entitlement.androidIdentityAlias == confirmed.androidIdentityAlias &&
    (authorizationUnchanged || legacyAuthorizationUpgraded)

def requireSameEntitlementBinding (entitlement confirmed : Option DualMachineEntitlementRecord) :
    Except Throwable (DualMachineEntitlementRecord × DualMachineEntitlementRecord) := do
  let confirmed ← requireEntitlement confirmed
  match entitlement with
  | none => .error (.security "status response changed entitlement binding")
  | some entitlement =>
    if sameEntitlementBinding entitlement confirmed then .ok (entitlement, confirmed)
    else .error (.security "status response changed entitlement binding")

def restoreBoundEntitlement (restored : Option DualMachineEntitlementRecord) : Method Unit := do
  let restored ← given (requireEntitlement restored)
  modify fun machine =>
    { machine.clearSession.clearStatusRefresh with
      entitlement := some restored
      remainingSeconds := 0
      totalConsumedSeconds := 0
      balanceKnown := false
      stateBeforeActivation := none
      activationOperationInFlight := false
      state := if restored.revoked then .revoked else .activatedIdle }

def reserveActivation : Method Unit :=
  modify fun machine =>
    { machine with
      stateBeforeActivation := some machine.state
      activationOperationInFlight := true
      state := .activating }

def beginCardActivation : Method Unit := do
  let machine ← get
  require machine.snapshot.canActivate
    (.illegalState "card activation is unavailable during formal use")
  reserveActivation

def beginPendingCardActivationResume : Method Unit := do
  let machine ← get
  if machine.state ≠ .activating then
    require (machine.state == .unactivated)
      (.illegalState "pending card activation cannot be resumed now")
    reserveActivation
  else
    require (!machine.activationOperationInFlight)
      (.illegalState "another card activation operation is in flight")
    modify fun machine => { machine with activationOperationInFlight := true }

def markCardActivationPending : Method Unit := do
  let machine ← get
  require (machine.state == .activating && machine.activationOperationInFlight)
    (.illegalState "card activation operation is not in flight")
  modify fun machine => { machine with activationOperationInFlight := false }

def activationFailedBeforeConfirmation : Method Unit := do
  let machine ← get
  match machine.stateBeforeActivation with
  | none => throw (.illegalState "card activation is not reserved")
  | some stateBeforeActivation =>
    require (machine.state == .activating && machine.activationOperationInFlight)
      (.illegalState "card activation is not reserved")
    modify fun machine =>
      { machine with
        state := stateBeforeActivation
        stateBeforeActivation := none
        activationOperationInFlight := false }

def activationConfirmed (activated : Option DualMachineEntitlementRecord)
    (remaining totalConsumed : Int) (activationStartedBilling : Bool) : Method Unit := do
  let activated ← given (requireEntitlement activated)
  given (requireBalances remaining totalConsumed)
  let machine ← get
  require (machine.state == .activating && machine.activationOperationInFlight)
    (.illegalState "card activation was not reserved")
  require (machine.stateBeforeActivation == some .unactivated && machine.entitlement.isNone)
    (.security "an activated entitlement cannot accept another card")
  require (!activationStartedBilling) (.security "card activation must never start billing")
  modify fun machine =>
    { machine.clearSession with
      entitlement := some activated
      remainingSeconds := remaining
      totalConsumedSeconds := totalConsumed
      balanceKnown := true
      stateBeforeActivation := none
      activationOperationInFlight := false }
  let state ← given (authorizationState (some activated) remaining)
  modify fun machine => { machine with state := state }

def beginStatusRefresh : Method Int := do
  let machine ← get
  require (machine.snapshot.canRefreshStatus && machine.entitlement.isSome)
    (.illegalState "status refresh is unavailable")
  modify fun machine => { machine with stateBeforeStatusRefresh := some machine.state }
  let generation ← given ((addExact machine.statusRefreshGeneration 1).elim
    (.error .arithmetic) .ok)
  modify fun machine =>
    { machine with
      statusRefreshGeneration := generation
      activeStatusRefreshToken := generation
      state := .statusRefreshing }
  return generation

/-- A token is current only while there is a state to go back to. -/
def rollbackStatusRefresh : Method Unit :=
  modify fun machine =>
    { machine.clearStatusRefresh with
      state := machine.stateBeforeStatusRefresh.getD machine.state }

def requireStatusRefreshToken (operationToken : Int) : Method Unit := do
  let machine ← get
  require (machine.isCurrentStatusRefreshToken operationToken)
    (.illegalState "status refresh operation is not current")

def statusRefreshFailed (operationToken : Int) : Method Unit := do
  requireStatusRefreshToken operationToken
  rollbackStatusRefresh

def statusRefreshFailedIfCurrent (operationToken : Int) : Method Bool := do
  let machine ← get
  if machine.isCurrentStatusRefreshToken operationToken then
    rollbackStatusRefresh
    return true
  else
    return false

def settle (confirmed : DualMachineEntitlementRecord) (remaining totalConsumed : Int)
    (state : State) : Method Unit :=
  modify fun machine =>
    { machine.clearSession.clearStatusRefresh with
      entitlement := some confirmed
      remainingSeconds := remaining
      totalConsumedSeconds := totalConsumed
      balanceKnown := true
      state := state }

def failClosedFromAuthenticatedRevocationIfCurrent (operationToken : Int)
    (revokedEntitlement : Option DualMachineEntitlementRecord) (remaining totalConsumed : Int) :
    Method Bool := do
  let machine ← get
  if machine.isCurrentStatusRefreshToken operationToken then
    given (requireBalances remaining totalConsumed)
    let (entitlement, confirmed) ←
      given (requireSameEntitlementBinding machine.entitlement revokedEntitlement)
    require (confirmed.revoked &&
        decide (entitlement.revocationVersion ≤ confirmed.revocationVersion))
      (.security "authenticated revocation marker is invalid")
    settle confirmed remaining totalConsumed .revoked
    return true
  else
    return false

def statusConfirmed (operationToken : Int)
    (confirmedEntitlement : Option DualMachineEntitlementRecord)
    (entitlementStatus : Option Units) (remaining totalConsumed : Int) : Method Unit := do
  given (requireBalances remaining totalConsumed)
  requireStatusRefreshToken operationToken
  let machine ← get
  let (entitlement, confirmed) ←
    given (requireSameEntitlementBinding machine.entitlement confirmedEntitlement)
  require (decide (entitlement.revocationVersion ≤ confirmed.revocationVersion))
    (.security "revocationVersion must not decrease")
  if entitlementStatus = some (text "revoked") then
    require confirmed.revoked (.security "revoked status must persist its marker")
    settle confirmed remaining totalConsumed .revoked
  else
    require (entitlementStatus == some (text "active") ||
        entitlementStatus == some (text "exhausted"))
      (.illegalArgument "unsupported entitlement status")
    require (!(entitlement.revoked || machine.stateBeforeStatusRefresh == some .revoked) &&
        !confirmed.revoked && confirmed.revocationVersion == entitlement.revocationVersion)
      (.security "non-revoked status cannot clear revocation")
    let state ← given (authorizationState (some confirmed) remaining)
    settle confirmed remaining totalConsumed state

def releaseConfirmedExhaustedEntitlement : Method Unit := do
  let machine ← get
  require (machine.state == .exhausted && machine.entitlement.any (!·.permanent) &&
      machine.balanceKnown && machine.remainingSeconds == 0 && !machine.billingStarted &&
      !machine.permitsDataPlane && machine.sessionId.isEmpty)
    (.illegalState "confirmed exhausted entitlement cannot be released")
  modify fun machine =>
    { machine.clearSession.clearStatusRefresh with
      entitlement := none
      remainingSeconds := 0
      totalConsumedSeconds := 0
      balanceKnown := false
      stateBeforeActivation := none
      activationOperationInFlight := false
      state := .unactivated }

def runtimeRequestedFormalStart (bothRuntimesAndChannelReady : Bool) : Method Unit := do
  let machine ← get
  require (machine.state == .activatedIdle &&
      machine.entitlement.any (fun entitlement =>
        entitlement.permanent || decide (0 < machine.remainingSeconds)))
    (.illegalState "formal start is unavailable")
  require bothRuntimesAndChannelReady
    (.illegalState "both runtimes and secure channel must be ready")
  modify fun machine => { machine.clearSession with state := .starting }

def formalStartFailed : Method Unit := do
  let machine ← get
  require (machine.state == .starting) (.illegalState "no formal start is in flight")
  modify clearSession
  let state ← given (authorizationState machine.entitlement machine.remainingSeconds)
  modify fun machine => { machine with state := state }

def account (verifiedSequence remaining totalConsumed : Int) : Method Unit :=
  modify fun machine =>
    { machine with
      leaseSequence := verifiedSequence
      remainingSeconds := remaining
      totalConsumedSeconds := totalConsumed
      balanceKnown := true
      billingStarted := true }

def permit : Method Unit :=
  modify fun machine => { machine with permitsDataPlane := true, state := .active }

def verifiedInitialLeaseInstalled (verifiedSessionId : Option Units)
    (verifiedSequence chargedSeconds remaining totalConsumed : Int)
    (serverBillingStarted : Bool) : Method Unit := do
  let machine ← get
  require (machine.state == .starting) (.illegalState "formal start was not requested")
  require (verifiedSequence == 0 && machine.validLeaseCharge chargedSeconds &&
      serverBillingStarted)
    (.security "initial paid lease is invalid")
  given (requireBalances remaining totalConsumed)
  let sessionId ← given (requireIdentifier verifiedSessionId "sessionId")
  modify fun machine => { machine with sessionId := sessionId }
  account verifiedSequence remaining totalConsumed
  permit

def leaseExpiredLocally : Method Unit := do
  let machine ← get
  require (machine.state == .active) (.illegalState "no active lease")
  modify fun machine => { machine with permitsDataPlane := false, state := .renewalGap }

def requireRenewal (verifiedSequence chargedSeconds remaining totalConsumed : Int) :
    Method Unit := do
  let machine ← get
  require (machine.state == .active || machine.state == .renewalGap)
    (.illegalState "no renewable session")
  require (verifiedSequence == wrap (machine.leaseSequence + 1) &&
      machine.validLeaseCharge chargedSeconds)
    (.security "renewal sequence or charge is invalid")
  given (requireBalances remaining totalConsumed)

def verifiedRenewalInstalled (verifiedSequence chargedSeconds remaining totalConsumed : Int) :
    Method Unit := do
  requireRenewal verifiedSequence chargedSeconds remaining totalConsumed
  account verifiedSequence remaining totalConsumed
  permit

def verifiedFutureRenewalStaged (verifiedSequence chargedSeconds remaining totalConsumed : Int) :
    Method Unit := do
  requireRenewal verifiedSequence chargedSeconds remaining totalConsumed
  account verifiedSequence remaining totalConsumed

def stagedRenewalActivated (verifiedSequence : Int) : Method Unit := do
  let machine ← get
  require ((machine.state == .active || machine.state == .renewalGap) &&
      verifiedSequence == machine.leaseSequence)
    (.illegalState "staged renewal is not current")
  permit

def closeLocalForRuntimeStop : Method Unit := do
  let machine ← get
  require (machine.state == .starting || machine.state == .active ||
      machine.state == .renewalGap)
    (.illegalState "formal usage is not running")
  modify fun machine => { machine with permitsDataPlane := false, state := .stopping }

def stopFinished (remaining : Int) : Method Unit := do
  let machine ← get
  require (machine.state == .stopping) (.illegalState "formal stop was not requested")
  require (decide (0 ≤ remaining)) (.illegalArgument "remaining must not be negative")
  modify fun machine => { machine.clearSession with remainingSeconds := remaining }
  let state ← given (authorizationState machine.entitlement remaining)
  modify fun machine => { machine with state := state }

def revoke : Method Unit :=
  modify fun machine =>
    { machine.clearSession.clearStatusRefresh with
      stateBeforeActivation := none
      activationOperationInFlight := false
      state := .revoked }

end DualMachineFormalUsageStateMachine

end VisionForge.FormalUsage
