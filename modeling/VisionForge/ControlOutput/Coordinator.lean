import VisionForge.Lib.Long
import VisionForge.Lib.Methods

/-! # The coordinator of the output

The output is on while the runtime, the native authorization and the transport are healthy.
The coordinator opens and closes two gates, that of the transport and that of the native
profile. What the ports answer is not known; every call comes with the answers it will get.
-/

namespace VisionForge.ControlOutput

open Lib.Long Lib.Methods

inductive ControlTrigger where
  | always
  | rightMouse
  | sideButton1
  | sideButton2
  deriving DecidableEq

namespace ControlTrigger

def buttonMask : ControlTrigger → Nat
  | .always => 0
  | .rightMouse => 0x02
  | .sideButton1 => 0x08
  | .sideButton2 => 0x10

def requiresButtonStream (trigger : ControlTrigger) : Bool := trigger.buttonMask != 0

def isSatisfiedBy (trigger : ControlTrigger) (currentButtonMask : BitVec 32) : Bool :=
  !trigger.requiresButtonStream ||
    (currentButtonMask &&& BitVec.ofNat 32 trigger.buttonMask) != 0

end ControlTrigger

structure MakcuDeliveryState where
  usbWriteCompletionCount : Int
  failureCount : Int
  circuitTripCount : Int
  circuitOpen : Bool
  deriving DecidableEq

/-- What the ports answer, each at its turn among the calls of one method. -/
structure PortAnswers where
  isReady : Nat → Bool
  deliveryState : Nat → MakcuDeliveryState
  setOutputDeliveryAllowed : Nat → Bool
  apply : Nat → Bool
  controlTrigger : Nat → ControlTrigger
  currentButtonMask : Nat → BitVec 32
  isButtonStreamReady : Nat → Bool
  importPersonalTrajectory : Nat → Bool
  nanoTime : Nat → Int

/-- The settings of the profile; their values are for the port alone. -/
inductive ProfileSetting where
  | targetProfile
  | gain
  | deadzone
  | maximumAxisDelta
  | switchConfirmationMillis
  | values
  | personalTrajectory
  | personalTrajectoryEnabled
  | personalTrajectoryScales
  deriving DecidableEq

inductive PortCall where
  | setOutputDeliveryAllowed (allowed accepted : Bool)
  | apply (outputEnabled accepted : Bool)
  | connectFirstSupportedDevice
  | setReconnectListener (present : Bool)
  | setButtonStateListener (present : Bool)
  | setRequiredTriggerMask (requiredButtonMask : Nat)
  | setControlTrigger (trigger : ControlTrigger)
  | change (setting : ProfileSetting)
  | write (event : String)
  deriving DecidableEq

structure ControlOutputCoordinator where
  hasButtonInput : Bool
  runtimeHealthy : Bool := false
  nativeStateKnown : Bool := false
  nativeRequested : Bool := false
  nativeEffective : Bool := false
  nativeRecoverySuspended : Bool := false
  automaticOutputRequested : Bool := false
  outputEnabled : Bool := false
  outputRecoverySuspended : Bool := false
  usbWriteCompletedSinceEnable : Bool := false
  automaticRetryDeferred : Bool := false
  outputCloseConfirmed : Bool := false
  lockReasonsReportedWhileClosed : List String := []
  lastUsbWriteCompletions : Int := 0
  lastDeliveryFailures : Int := 0
  lastDeliveryCircuitTrips : Int := 0
  nextOutputReconnectAttemptNanos : Int := 0
  consecutiveReconnectFailures : Int := 0
  deriving DecidableEq

/-- The coordinator, the calls it has made and the answers to those it makes next. -/
structure Turn where
  coordinator : ControlOutputCoordinator
  calls : List PortCall
  answers : PortAnswers
  asked : Nat

abbrev Control := EStateM Empty Turn

def OUTPUT_RECONNECT_RETRY_NANOS : Int := 1000000000
def MAXIMUM_OUTPUT_RECONNECT_RETRY_NANOS : Int := 30000000000
def INT_MAX : Int := 2 ^ 31 - 1

def current : Control ControlOutputCoordinator := fun turn => .ok turn.coordinator turn

def change (update : ControlOutputCoordinator → ControlOutputCoordinator) : Control Unit :=
  fun turn => .ok () { turn with coordinator := update turn.coordinator }

def ask {α : Type} (answer : PortAnswers → Nat → α) : Control α := fun turn =>
  .ok (answer turn.answers turn.asked) { turn with asked := turn.asked + 1 }

def tell (call : PortCall) : Control Unit := fun turn =>
  .ok () { turn with calls := turn.calls ++ [call] }

def write (event : String) : Control Unit := tell (.write event)

def setOutputDeliveryAllowed (allowed : Bool) : Control Bool := do
  let accepted ← ask PortAnswers.setOutputDeliveryAllowed
  tell (.setOutputDeliveryAllowed allowed accepted)
  return accepted

def applyProfile (outputEnabled : Bool) : Control Bool := do
  let accepted ← ask PortAnswers.apply
  tell (.apply outputEnabled accepted)
  return accepted

def setRequiredTriggerMask (requiredButtonMask : Nat) : Control Unit :=
  tell (.setRequiredTriggerMask requiredButtonMask)

namespace ControlOutputCoordinator

def closeEffectiveOutput : Control Unit := do
  change fun self =>
    { self with
      outputEnabled := false
      outputRecoverySuspended := false
      usbWriteCompletedSinceEnable := false }
  let transportClosed ← setOutputDeliveryAllowed false
  let nativeClosed ← applyProfile false
  change fun self => { self with outputCloseConfirmed := transportClosed && nativeClosed }

def reportLock (reason : String) (stateChanged : Bool) : Control Unit := do
  if stateChanged then
    change fun self => { self with lockReasonsReportedWhileClosed := [] }
  let self ← current
  if reason ∉ self.lockReasonsReportedWhileClosed then
    change fun self =>
      { self with
        lockReasonsReportedWhileClosed := reason :: self.lockReasonsReportedWhileClosed }
    write "control_output_auto_locked"

def closeAutomaticGate (reason : String) (forceClose : Bool) : Control Unit := do
  let self ← current
  let stateChanged :=
    self.automaticOutputRequested || self.outputEnabled || self.outputRecoverySuspended
  change fun self => { self with automaticOutputRequested := false }
  if forceClose || stateChanged || !self.outputCloseConfirmed then
    closeEffectiveOutput
  else
    change fun self =>
      { self with
        outputEnabled := false
        outputRecoverySuspended := false
        usbWriteCompletedSinceEnable := false }
  reportLock reason stateChanged

def connectOutputTransportIfDue : Control Unit := do
  let nowNanos ← ask PortAnswers.nanoTime
  let self ← current
  if self.nextOutputReconnectAttemptNanos ≤ nowNanos then
    change fun self =>
      { self with
        nextOutputReconnectAttemptNanos := wrap (nowNanos + OUTPUT_RECONNECT_RETRY_NANOS) }
    tell .connectFirstSupportedDevice

def triggerPrerequisiteSatisfied : Control Bool := do
  let trigger ← ask PortAnswers.controlTrigger
  let self ← current
  if trigger.requiresButtonStream = false then
    return true
  else if self.hasButtonInput = false then
    closeAutomaticGate "activation_trigger_source_unavailable" false
    return false
  else
    setRequiredTriggerMask trigger.buttonMask
    if (← ask PortAnswers.isButtonStreamReady) = false then
      closeAutomaticGate "activation_trigger_stream_not_ready" false
      return false
    else if trigger.isSatisfiedBy (← ask PortAnswers.currentButtonMask) = false then
      closeAutomaticGate "activation_trigger_released" false
      return false
    else
      return true

/-- The checks that come before the native state is looked at; one that fails closes the
gate. -/
def prerequisitesSatisfied : Control Bool := do
  let delivery ← ask PortAnswers.deliveryState
  let self ← current
  if (← ask PortAnswers.isReady) = false then
    closeAutomaticGate
      (if self.runtimeHealthy then "output_transport_not_ready" else "runtime_unhealthy") false
    connectOutputTransportIfDue
    return false
  else if self.runtimeHealthy = false then
    closeAutomaticGate "runtime_unhealthy" false
    return false
  else if delivery.circuitOpen then
    closeAutomaticGate "delivery_circuit_open" false
    return false
  else if (← triggerPrerequisiteSatisfied) = false then
    return false
  else if self.nativeStateKnown = false then
    closeAutomaticGate "native_authorization_unknown" false
    return false
  else
    return true

def reconcileNativeState (nativeRequested nativeEffective recoverySuspended : Bool) :
    Control Unit := do
  let self ← current
  if recoverySuspended then
    if nativeRequested = false ∨ nativeEffective = true then
      closeAutomaticGate "invalid_native_recovery_state" false
    else
      if self.outputRecoverySuspended = false then
        write "control_output_recovery_suspended"
      change fun self => { self with outputEnabled := false, outputRecoverySuspended := true }
  else if nativeRequested ∧ nativeEffective then
    if self.outputRecoverySuspended then
      write "control_output_recovery_resumed"
    change fun self =>
      { self with
        outputEnabled := true
        outputRecoverySuspended := false
        outputCloseConfirmed := false }
  else
    closeAutomaticGate
      (if nativeRequested ∨ nativeEffective then "unexpected_native_authorization"
        else "native_request_cleared") false

def openGates : Control Unit := do
  change fun self => { self with outputCloseConfirmed := false }
  if (← applyProfile true) = false then
    closeAutomaticGate "native_profile_rejected" false
  else if (← setOutputDeliveryAllowed true) = false then
    let delivery ← ask PortAnswers.deliveryState
    closeAutomaticGate
      (if delivery.circuitOpen then "delivery_circuit_open" else "delivery_gate_unavailable")
      false
  else
    change fun self =>
      { self with
        automaticOutputRequested := true
        outputEnabled := true
        outputRecoverySuspended := false
        usbWriteCompletedSinceEnable := false
        lockReasonsReportedWhileClosed := [] }
    write "control_output_auto_ready"

def enableAutomatically : Control Unit := do
  let self ← current
  if self.runtimeHealthy then
    if ← ask PortAnswers.isReady then
      let delivery ← ask PortAnswers.deliveryState
      if delivery.circuitOpen = false then
        openGates

def reconcileCachedState : Control Unit := do
  if ← prerequisitesSatisfied then
    let self ← current
    if self.automaticOutputRequested then
      reconcileNativeState self.nativeRequested self.nativeEffective self.nativeRecoverySuspended
    else if self.automaticRetryDeferred then
      change fun self => { self with automaticRetryDeferred := false }
      write "control_output_retry_deferred"
    else
      enableAutomatically

def reconcileAutomaticState (runtimeHealthy nativeStateKnown nativeRequested nativeEffective
    recoverySuspended : Bool) : Control Unit := do
  change fun self =>
    { self with
      runtimeHealthy
      nativeStateKnown
      nativeRequested
      nativeEffective
      nativeRecoverySuspended := recoverySuspended }
  reconcileCachedState

def disable : Control Unit := do
  change fun self => { self with runtimeHealthy := false }
  closeAutomaticGate "runtime_stopped" false

def dispose : Control Unit := do
  disable
  tell (.setReconnectListener false)
  let self ← current
  if self.hasButtonInput then
    tell (.setButtonStateListener false)

def failClosed (reason : String) : Control Unit := do
  change fun self => { self with runtimeHealthy := false }
  closeAutomaticGate reason false

def reconfigureActiveProfile : Control Bool := do
  change fun self =>
    { self with
      outputEnabled := false
      usbWriteCompletedSinceEnable := false
      outputCloseConfirmed := false }
  if (← setOutputDeliveryAllowed false) = false then return false
  else if (← applyProfile false) = false then return false
  else if (← applyProfile true) = false then return false
  else if (← setOutputDeliveryAllowed true) = false then return false
  else
    change fun self => { self with outputEnabled := true }
    return true

def applyDisabledProfile : Control Bool := do
  let applied ← applyProfile false
  if applied = false then
    change fun self => { self with outputCloseConfirmed := false }
  return applied

def applyCurrentProfile : Control Unit := do
  let self ← current
  if self.outputRecoverySuspended then
    closeAutomaticGate "profile_changed_during_recovery" false
    write "control_profile_applied"
  else
    let applied ←
      if self.automaticOutputRequested then reconfigureActiveProfile else applyDisabledProfile
    if applied = false then
      closeAutomaticGate "native_profile_rejected" false
      write "control_profile_rejected"
    else
      write "control_profile_applied"

def selectTargetProfile : Control Unit := do
  closeAutomaticGate "game_target_profile_changed" false
  tell (.change .targetProfile)
  applyCurrentProfile

/-- The setters hand their values to the profile and apply it. -/
def setProfileValue (setting : ProfileSetting) : Control Unit := do
  tell (.change setting)
  applyCurrentProfile

def setGain : Control Unit := setProfileValue .gain
def setDeadzone : Control Unit := setProfileValue .deadzone
def setMaximumAxisDelta : Control Unit := setProfileValue .maximumAxisDelta
def setSwitchConfirmationMillis : Control Unit := setProfileValue .switchConfirmationMillis
def setProfile : Control Unit := setProfileValue .values
def setPersonalTrajectoryEnabled : Control Unit := setProfileValue .personalTrajectoryEnabled
def setPersonalTrajectoryScales : Control Unit := setProfileValue .personalTrajectoryScales

def importPersonalTrajectory : Control Bool := do
  let imported ← ask PortAnswers.importPersonalTrajectory
  setProfileValue .personalTrajectory
  return imported

def changeTrigger (selected : ControlTrigger) : Control Unit := do
  closeAutomaticGate "activation_trigger_changed" false
  tell (.setControlTrigger selected)
  let self ← current
  if self.hasButtonInput then
    setRequiredTriggerMask selected.buttonMask
  write "control_trigger_applied"

def setControlTrigger : Option ControlTrigger → Control Unit
  | none => write "control_trigger_rejected"
  | some trigger => do
      changeTrigger trigger
      reconcileCachedState

def onButtonMaskChanged : Control Unit := do
  let _ ← ask PortAnswers.controlTrigger
  write "control_trigger_state"
  reconcileCachedState

def reconnectRetryDelayNanos (consecutiveFailures : Int) : Int :=
  min MAXIMUM_OUTPUT_RECONNECT_RETRY_NANOS
    (OUTPUT_RECONNECT_RETRY_NANOS * 2 ^ (max 0 (min 5 (consecutiveFailures - 1))).toNat)

def closeForReconnect (succeeded : Bool) : Control Unit := do
  let self ← current
  if succeeded = false ∧
      (self.automaticOutputRequested ∨ self.outputEnabled ∨ self.outputRecoverySuspended) then
    change fun self => { self with automaticRetryDeferred := true }
  let failures :=
    if succeeded then 0
    else if self.consecutiveReconnectFailures = INT_MAX then INT_MAX
    else self.consecutiveReconnectFailures + 1
  change fun self => { self with consecutiveReconnectFailures := failures }
  if succeeded then
    change fun self => { self with nextOutputReconnectAttemptNanos := 0 }
  else
    let nowNanos ← ask PortAnswers.nanoTime
    change fun self =>
      { self with
        nextOutputReconnectAttemptNanos := wrap (nowNanos + reconnectRetryDelayNanos failures) }
  closeAutomaticGate (if succeeded then "device_reconnected" else "device_reconnect_failed") true
  let self ← current
  if succeeded ∧ self.hasButtonInput then
    let trigger ← ask PortAnswers.controlTrigger
    setRequiredTriggerMask trigger.buttonMask

def onReconnectResult (succeeded : Bool) : Control Unit := do
  closeForReconnect succeeded
  let self ← current
  if succeeded = false then
    write "control_output_reconnect_failed"
  else if self.runtimeHealthy then
    reconcileCachedState
  else
    write "control_output_reconnected_waiting_runtime"

/-- What a delivery state says apart from new failures. -/
def recordDelivery (delivery : MakcuDeliveryState) : Control Unit := do
  let self ← current
  if self.outputEnabled ∧ self.usbWriteCompletedSinceEnable = false ∧
      self.lastUsbWriteCompletions < delivery.usbWriteCompletionCount then
    change fun self => { self with usbWriteCompletedSinceEnable := true }
    write "control_output_usb_write_completed"
  if self.lastDeliveryCircuitTrips < delivery.circuitTripCount ∨ delivery.circuitOpen then
    closeAutomaticGate "delivery_circuit_open" false
    if self.lastDeliveryCircuitTrips < delivery.circuitTripCount then
      write "control_output_delivery_circuit_open"
  change fun self =>
    { self with
      lastUsbWriteCompletions := delivery.usbWriteCompletionCount
      lastDeliveryFailures := delivery.failureCount
      lastDeliveryCircuitTrips := delivery.circuitTripCount }

def reconcileDeliveryState : Control Unit := do
  let delivery ← ask PortAnswers.deliveryState
  let self ← current
  if self.lastDeliveryFailures < delivery.failureCount then
    change fun self => { self with automaticRetryDeferred := true }
    closeAutomaticGate "delivery_failure" false
    write "control_output_delivery_failed"
  recordDelivery delivery

def construct : Control Unit := do
  tell (.setReconnectListener true)
  let self ← current
  if self.hasButtonInput then
    tell (.setButtonStateListener true)
    let trigger ← ask PortAnswers.controlTrigger
    setRequiredTriggerMask trigger.buttonMask
  closeEffectiveOutput
  let delivery ← ask PortAnswers.deliveryState
  change fun self =>
    { self with
      lastUsbWriteCompletions := delivery.usbWriteCompletionCount
      lastDeliveryFailures := delivery.failureCount
      lastDeliveryCircuitTrips := delivery.circuitTripCount }

inductive Operation where
  | reconcileAutomaticState (runtimeHealthy nativeStateKnown nativeRequested nativeEffective
      recoverySuspended : Bool)
  | disable
  | dispose
  | failClosed (reason : String)
  | selectTargetProfile
  | setGain
  | setDeadzone
  | setMaximumAxisDelta
  | setSwitchConfirmationMillis
  | setProfile
  | importPersonalTrajectory
  | setPersonalTrajectoryEnabled
  | setPersonalTrajectoryScales
  | setControlTrigger (trigger : Option ControlTrigger)
  | onButtonMaskChanged
  | onReconnectResult (succeeded : Bool)
  | reconcileDeliveryState
  deriving DecidableEq

def perform : Operation → Control Unit
  | .reconcileAutomaticState runtimeHealthy nativeStateKnown nativeRequested nativeEffective
      recoverySuspended =>
      reconcileAutomaticState runtimeHealthy nativeStateKnown nativeRequested nativeEffective
        recoverySuspended
  | .disable => disable
  | .dispose => dispose
  | .failClosed reason => failClosed reason
  | .selectTargetProfile => selectTargetProfile
  | .setGain => setGain
  | .setDeadzone => setDeadzone
  | .setMaximumAxisDelta => setMaximumAxisDelta
  | .setSwitchConfirmationMillis => setSwitchConfirmationMillis
  | .setProfile => setProfile
  | .importPersonalTrajectory => do
      let _ ← importPersonalTrajectory
  | .setPersonalTrajectoryEnabled => setPersonalTrajectoryEnabled
  | .setPersonalTrajectoryScales => setPersonalTrajectoryScales
  | .setControlTrigger trigger => setControlTrigger trigger
  | .onButtonMaskChanged => onButtonMaskChanged
  | .onReconnectResult succeeded => onReconnectResult succeeded
  | .reconcileDeliveryState => reconcileDeliveryState

end ControlOutputCoordinator

end VisionForge.ControlOutput
