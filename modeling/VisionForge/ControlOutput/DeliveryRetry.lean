import Mathlib.Data.List.Induction
import VisionForge.ControlOutput.GateConsistency

/-! # Retries after a delivery failure

A delivery failure closes both gates and defers the retry to a fresh report. A button, a
trigger or a reconnection reconciles with the cached report, and the first reconciliation
consumes the deferral, whichever report it uses.
-/

namespace VisionForge.ControlOutput

open Lib.Methods ControlOutputCoordinator

section

variable (turn : Turn)

@[simp] theorem run_current : current.run turn = .ok turn.coordinator turn := rfl

@[simp] theorem run_change (update : ControlOutputCoordinator → ControlOutputCoordinator) :
    (change update).run turn = .ok () { turn with coordinator := update turn.coordinator } := rfl

@[simp] theorem run_ask {α : Type} (answer : PortAnswers → Nat → α) :
    (ask answer).run turn =
      .ok (answer turn.answers turn.asked) { turn with asked := turn.asked + 1 } := rfl

@[simp] theorem run_tell (call : PortCall) :
    (tell call).run turn = .ok () { turn with calls := turn.calls ++ [call] } := rfl

@[simp] theorem run_applyProfile (outputEnabled : Bool) :
    (applyProfile outputEnabled).run turn =
      .ok (turn.answers.apply turn.asked)
        { turn with
          asked := turn.asked + 1
          calls := turn.calls ++ [.apply outputEnabled (turn.answers.apply turn.asked)] } := rfl

@[simp] theorem run_setOutputDeliveryAllowed (allowed : Bool) :
    (setOutputDeliveryAllowed allowed).run turn =
      .ok (turn.answers.setOutputDeliveryAllowed turn.asked)
        { turn with
          asked := turn.asked + 1
          calls := turn.calls ++
            [.setOutputDeliveryAllowed allowed
              (turn.answers.setOutputDeliveryAllowed turn.asked)] } := rfl

end

namespace Turn

/-- Whether the cached report and the answers of the ports let a reconciliation go on. -/
def meetsPrerequisites (turn : Turn) : Bool :=
  let trigger := turn.answers.controlTrigger (turn.asked + 2)
  turn.answers.isReady (turn.asked + 1) && turn.coordinator.runtimeHealthy &&
    !(turn.answers.deliveryState turn.asked).circuitOpen &&
    (!trigger.requiresButtonStream ||
      turn.coordinator.hasButtonInput && turn.answers.isButtonStreamReady (turn.asked + 3) &&
        trigger.isSatisfiedBy (turn.answers.currentButtonMask (turn.asked + 4))) &&
    turn.coordinator.nativeStateKnown

def pastPrerequisites (turn : Turn) : Turn :=
  let trigger := turn.answers.controlTrigger (turn.asked + 2)
  if trigger.requiresButtonStream then
    { turn with
      asked := turn.asked + 5
      calls := turn.calls ++ [.setRequiredTriggerMask trigger.buttonMask] }
  else
    { turn with asked := turn.asked + 3 }

def letsOpen (turn : Turn) : Bool :=
  turn.answers.isReady turn.asked && !(turn.answers.deliveryState (turn.asked + 1)).circuitOpen &&
    turn.answers.apply (turn.asked + 2) && turn.answers.setOutputDeliveryAllowed (turn.asked + 3)

/-- A reconciliation with the cached report opens a closed output. -/
def reopens (turn : Turn) : Bool :=
  turn.meetsPrerequisites && !turn.coordinator.automaticRetryDeferred &&
    turn.pastPrerequisites.letsOpen

@[simp] theorem pastPrerequisites_coordinator (turn : Turn) :
    turn.pastPrerequisites.coordinator = turn.coordinator := by
  dsimp only [pastPrerequisites]
  split <;> rfl

end Turn

variable {turn : Turn}

theorem prerequisitesSatisfied_passes (met : turn.meetsPrerequisites = true) :
    prerequisitesSatisfied.run turn = .ok true turn.pastPrerequisites := by
  simp only [Turn.meetsPrerequisites, Bool.and_eq_true, Bool.or_eq_true, Bool.not_eq_true'] at met
  obtain ⟨⟨⟨⟨ready, healthy⟩, circuitClosed⟩, trigger⟩, known⟩ := met
  cases required : (turn.answers.controlTrigger (turn.asked + 2)).requiresButtonStream with
  | false =>
    simp [-bind_pure_comp, prerequisitesSatisfied, triggerPrerequisiteSatisfied,
      EStateM.run_bind, Turn.pastPrerequisites, ready, healthy, circuitClosed, known, required]
  | true =>
    obtain ⟨⟨source, stream⟩, pressed⟩ := trigger.resolve_left (by simp [required])
    simp [prerequisitesSatisfied, triggerPrerequisiteSatisfied, EStateM.run_bind,
      setRequiredTriggerMask, Turn.pastPrerequisites, ready, healthy, circuitClosed, known,
      required, source, stream, pressed]

def Refuses (check : Control Bool) : Prop :=
  ∀ turn turn', check.run turn ≠ .ok true turn'

namespace Refuses

theorem pure : Refuses (pure false) := by
  intro turn turn' ran
  cases ran

theorem bind {α : Type} {method : Control α} {next : α → Control Bool}
    (rest : ∀ value, Refuses (next value)) : Refuses (method >>= next) := by
  intro turn turn' ran
  rw [EStateM.run_bind] at ran
  cases outcome : method.run turn with
  | ok value middle =>
    rw [outcome] at ran
    exact rest value middle turn' ran
  | error error _ => exact error.elim

theorem skipped {cond : Prop} [Decidable cond] {check rest : Control Bool}
    (refuses : Refuses check) {turn' : Turn}
    (ran : (if cond then check else rest).run turn = .ok true turn') :
    ¬cond ∧ rest.run turn = .ok true turn' := by
  split at ran
  · exact absurd ran (refuses turn turn')
  · exact ⟨‹_›, ran⟩

end Refuses

theorem closed_refuses (reason : String) (forceClose : Bool) :
    Refuses (do
      closeAutomaticGate reason forceClose
      return false) :=
  Refuses.bind fun _ => Refuses.pure

theorem trigger_of_passes {turn' : Turn}
    (ran : triggerPrerequisiteSatisfied.run turn = .ok true turn') :
    (turn.answers.controlTrigger turn.asked).requiresButtonStream = false ∨
      (turn.coordinator.hasButtonInput = true ∧
        turn.answers.isButtonStreamReady (turn.asked + 1) = true) ∧
          (turn.answers.controlTrigger turn.asked).isSatisfiedBy
            (turn.answers.currentButtonMask (turn.asked + 2)) = true := by
  simp only [triggerPrerequisiteSatisfied, EStateM.run_bind, run_ask, run_current] at ran
  split at ran
  · cases ran
    exact Or.inl ‹_›
  · obtain ⟨source, ran⟩ := Refuses.skipped (closed_refuses _ _) ran
    obtain ⟨stream, ran⟩ := Refuses.skipped (closed_refuses _ _) ran
    obtain ⟨pressed, ran⟩ := Refuses.skipped (closed_refuses _ _) ran
    cases ran
    refine Or.inr ⟨⟨?_, ?_⟩, ?_⟩
    · simpa using source
    · simpa using stream
    · simpa using pressed

theorem met_of_passes {turn' : Turn} (ran : prerequisitesSatisfied.run turn = .ok true turn') :
    turn.meetsPrerequisites = true := by
  obtain ⟨ready, ran⟩ := Refuses.skipped
    (Refuses.bind fun _ => Refuses.bind fun _ => Refuses.pure) ran
  obtain ⟨healthy, ran⟩ := Refuses.skipped (closed_refuses _ _) ran
  obtain ⟨circuitClosed, ran⟩ := Refuses.skipped (closed_refuses _ _) ran
  rw [EStateM.run_bind] at ran
  cases outcome : triggerPrerequisiteSatisfied.run
      { turn with asked := turn.asked + 1 + 1 } with
  | error error _ => exact error.elim
  | ok passed middle =>
    rw [outcome] at ran
    obtain ⟨passes, ran⟩ := Refuses.skipped Refuses.pure ran
    obtain rfl : passed = true := by simpa using passes
    obtain ⟨known, ran⟩ := Refuses.skipped (closed_refuses _ _) ran
    have trigger := trigger_of_passes outcome
    simp only [Turn.meetsPrerequisites, Bool.and_eq_true, Bool.or_eq_true, Bool.not_eq_true']
    refine ⟨⟨⟨⟨?_, ?_⟩, ?_⟩, trigger⟩, ?_⟩
    · simpa using ready
    · simpa using healthy
    · simpa using circuitClosed
    · simpa using known

theorem prerequisitesSatisfied_refuses (unmet : turn.meetsPrerequisites = false)
    (cons : turn.gates.Consistent) :
    ∃ turn', prerequisitesSatisfied.run turn = .ok false turn' ∧ turn'.gates.Shut := by
  obtain ⟨passed, turn', ran, left⟩ :=
    prerequisitesSatisfied_checks turn.gates cons.truthful turn rfl
  cases passed with
  | false => exact ⟨turn', ran, left⟩
  | true => simp [met_of_passes ran] at unmet

@[simp] theorem Turn.pastPrerequisites_gates (turn : Turn) :
    turn.pastPrerequisites.gates = turn.gates := by
  dsimp only [Turn.pastPrerequisites]
  split <;> simp [Turn.gates, allowance, application]

/-- The output is on, or both gates are closed as before. -/
def Turn.OpenedIff (turn : Turn) (opens : Bool) : Prop :=
  if opens then turn.coordinator.outputEnabled = true else turn.gates.Shut

theorem closeAutomaticGate_unconfirmed (reason : String)
    (unconfirmed : turn.coordinator.outputCloseConfirmed = false) :
    (after ((closeAutomaticGate reason false).run turn)).gates.Shut :=
  (closeAutomaticGate_shuts reason false).after (Gates.truthful_of_unconfirmed unconfirmed)

theorem openGates_opens (turn : Turn) :
    (after (openGates.run turn)).OpenedIff
      (turn.answers.apply turn.asked && turn.answers.setOutputDeliveryAllowed (turn.asked + 1)) := by
  simp only [openGates, EStateM.run_bind, run_change, run_applyProfile]
  cases native : turn.answers.apply turn.asked with
  | false => exact closeAutomaticGate_unconfirmed _ rfl
  | true =>
    simp only [EStateM.run_bind, run_setOutputDeliveryAllowed, Bool.true_eq_false, if_false]
    cases transport : turn.answers.setOutputDeliveryAllowed (turn.asked + 1) with
    | false => exact closeAutomaticGate_unconfirmed _ rfl
    | true => rfl

theorem enableAutomatically_opens (shut : turn.gates.Shut)
    (healthy : turn.coordinator.runtimeHealthy = true) :
    (after (enableAutomatically.run turn)).OpenedIff turn.letsOpen := by
  simp only [enableAutomatically, EStateM.run_bind, run_current, run_ask, healthy, if_true]
  cases ready : turn.answers.isReady turn.asked with
  | false =>
    simp only [Turn.letsOpen, ready, Bool.false_and]
    exact shut
  | true =>
    simp only [EStateM.run_bind, run_ask, if_true]
    cases circuit : (turn.answers.deliveryState (turn.asked + 1)).circuitOpen with
    | true =>
      simp only [Turn.letsOpen, circuit, Bool.not_true, Bool.and_false, Bool.false_and]
      exact shut
    | false =>
      simp only [Turn.letsOpen, ready, circuit, Bool.not_false, Bool.and_true, Bool.true_and]
      exact openGates_opens { turn with asked := turn.asked + 1 + 1 }

/-- From closed gates a reconciliation with the cached report opens the output or leaves them
closed. -/
theorem reconcileCachedState_opens (shut : turn.gates.Shut) :
    (after (reconcileCachedState.run turn)).OpenedIff turn.reopens := by
  cases met : turn.meetsPrerequisites with
  | false =>
    obtain ⟨turn', ran, left⟩ := prerequisitesSatisfied_refuses met (Or.inl shut)
    simp only [reconcileCachedState, EStateM.run_bind, ran, Turn.reopens, met, Bool.false_and]
    exact left
  | true =>
    have still : turn.pastPrerequisites.gates.Shut := by
      rw [Turn.pastPrerequisites_gates]
      exact shut
    have healthy : turn.pastPrerequisites.coordinator.runtimeHealthy = true := by
      simp only [Turn.meetsPrerequisites, Bool.and_eq_true] at met
      simpa using met.1.1.1.2
    have unrequested : turn.coordinator.automaticOutputRequested = false := shut.requested
    simp only [reconcileCachedState, EStateM.run_bind, prerequisitesSatisfied_passes met,
      Turn.reopens, met, run_current, Turn.pastPrerequisites_coordinator, unrequested,
      if_true, Bool.true_and]
    cases deferred : turn.coordinator.automaticRetryDeferred with
    | true =>
      exact ((deferRetry_lowers false).bind fun _ =>
        Lowers.of_quiet (Quiet.write "control_output_retry_deferred")).shut.after still
    | false => exact enableAutomatically_opens still healthy

def Turn.given (turn : Turn) (input : Input) : Turn :=
  { turn with answers := input.answers, asked := 0 }

/-- The input reconciles with the cached report, and that opens the output. -/
def Turn.RetriesOnCachedReport (turn : Turn) (input : Input) : Prop :=
  ∃ first, beforeCachedReport input.operation = some first ∧
    (after (first.run (turn.given input))).reopens = true

/-- The input looks at the delivery and finds that failures have grown. -/
def Turn.FailureGrows (turn : Turn) (input : Input) : Prop :=
  input.operation = .reconcileDeliveryState ∧
    turn.coordinator.lastDeliveryFailures < (input.answers.deliveryState 0).failureCount

/-- A delivery failure was seen, and no report has come from outside since. -/
def AwaitsReport (start : Turn) (inputs : List Input) : Prop :=
  ∃ before failure later, inputs = before ++ failure :: later ∧
    (start.takeAll before).FailureGrows failure ∧
      ∀ input ∈ later, isFreshReport input.operation = false

theorem Turn.takeAll_append (turn : Turn) (inputs : List Input) (input : Input) :
    turn.takeAll (inputs ++ [input]) = (turn.takeAll inputs).take input := by
  simp [Turn.takeAll]

theorem Turn.take_of_failure (cons : turn.gates.Consistent) {input : Input}
    (grows : turn.FailureGrows input) : (turn.take input).gates.Shut := by
  obtain ⟨isDelivery, grew⟩ := grows
  have ready : (turn.given input).coordinator.lastDeliveryFailures <
      ((turn.given input).answers.deliveryState (turn.given input).asked).failureCount := grew
  show (after ((perform input.operation).run (turn.given input))).gates.Shut
  rw [isDelivery]
  dsimp only [perform, reconcileDeliveryState]
  rw [EStateM.run_bind, run_ask]
  dsimp only
  rw [EStateM.run_bind, run_current]
  dsimp only
  rw [if_pos ready]
  exact (deliveryFailure_shuts _).after cons

theorem Turn.take_of_cachedReport {input : Input} {first : Control Unit}
    (begins : beforeCachedReport input.operation = some first) (shut : turn.gates.Shut) :
    (turn.take input).OpenedIff (after (first.run (turn.given input))).reopens := by
  show (after ((perform input.operation).run (turn.given input))).OpenedIff _
  have given : (turn.given input).gates.Shut := shut
  match op : input.operation, begins with
  | .setControlTrigger (some trigger), rfl =>
    obtain ⟨_, turn', ran, still⟩ := (changeTrigger_lowers trigger).shut _ given
    dsimp only [perform, setControlTrigger]
    rw [EStateM.run_bind, ran]
    exact reconcileCachedState_opens still
  | .onButtonMaskChanged, rfl =>
    have reports : Quiet (do
        let _ ← ask PortAnswers.controlTrigger
        write "control_trigger_state") := (Quiet.ask _).bind fun _ => Quiet.write _
    exact reconcileCachedState_opens ((reports.keeps Gates.Shut).after given)
  | .onReconnectResult true, rfl =>
    obtain ⟨_, turn', ran, still⟩ := (closeForReconnect_lowers true).shut _ given
    dsimp only [perform, onReconnectResult]
    rw [EStateM.run_bind, ran]
    dsimp only
    rw [EStateM.run_bind, run_current]
    cases healthy : turn'.coordinator.runtimeHealthy with
    | true => simpa [healthy] using reconcileCachedState_opens still
    | false =>
      have unmet : turn'.reopens = false := by
        simp [Turn.reopens, Turn.meetsPrerequisites, healthy]
      simp only [after_ok, unmet, healthy, Bool.true_eq_false, Bool.false_eq_true, if_false]
      exact ((Quiet.write _).keeps Gates.Shut).after still

/-- While a report is awaited an input leaves the gates closed, or retries on the cached report
and opens the output. -/
theorem Turn.take_awaiting (shut : turn.gates.Shut) {input : Input}
    (cached : isFreshReport input.operation = false) :
    (turn.RetriesOnCachedReport input → (turn.take input).coordinator.outputEnabled = true) ∧
      (¬turn.RetriesOnCachedReport input → (turn.take input).gates.Shut) := by
  cases begins : beforeCachedReport input.operation with
  | none =>
    refine ⟨fun ⟨first, begun, _⟩ => ?_, fun _ =>
      (perform_lowers cached begins).shut.after shut⟩
    simp [begins] at begun
  | some first =>
    have opened := Turn.take_of_cachedReport begins shut
    refine ⟨fun ⟨other, begun, reopens⟩ => ?_, fun calm => ?_⟩
    · obtain rfl : first = other := by simpa [begins] using begun
      rw [reopens] at opened
      exact opened
    · cases reopens : (after (first.run (turn.given input))).reopens with
      | true => exact absurd ⟨first, begins, reopens⟩ calm
      | false =>
        rw [reopens] at opened
        exact opened

theorem awaitsReport_append {start : Turn} {inputs : List Input} {input : Input} :
    AwaitsReport start (inputs ++ [input]) ↔
      (start.takeAll inputs).FailureGrows input ∨
        AwaitsReport start inputs ∧ isFreshReport input.operation = false := by
  constructor
  · rintro ⟨pre, failure, later, is, grows, unreported⟩
    rcases List.eq_nil_or_concat later with rfl | ⟨old, last, rfl⟩
    · obtain ⟨rfl, rfl⟩ : inputs = pre ∧ input = failure := by simpa using is
      exact Or.inl grows
    · have split : inputs ++ [input] = (pre ++ failure :: old) ++ [last] := by
        rw [is]
        simp
      obtain ⟨rfl, same⟩ := List.append_inj' split rfl
      obtain rfl : input = last := by simpa using same
      refine Or.inr ⟨⟨pre, failure, old, rfl, grows, fun other among => ?_⟩, ?_⟩
      · exact unreported other (by simp [among])
      · exact unreported input (by simp)
  · rintro (grows | ⟨⟨pre, failure, later, rfl, grows, unreported⟩, cached⟩)
    · exact ⟨inputs, input, [], rfl, grows, by simp⟩
    · refine ⟨pre, failure, later ++ [input], by simp, grows, fun other among => ?_⟩
      rcases List.mem_append.mp among with old | last
      · exact unreported other old
      · rw [List.mem_singleton.mp last]
        exact cached

theorem shut_of_awaits {start : Turn} (cons : start.gates.Consistent) {inputs : List Input}
    (calm : ∀ before input, before ++ [input] <+: inputs → AwaitsReport start before →
      ¬(start.takeAll before).RetriesOnCachedReport input)
    (awaits : AwaitsReport start inputs) : (start.takeAll inputs).gates.Shut := by
  induction inputs using List.reverseRecOn with
  | nil =>
    obtain ⟨before, failure, later, is, _⟩ := awaits
    simp at is
  | append_singleton inputs input hypothesis =>
    rw [Turn.takeAll_append]
    rcases awaitsReport_append.mp awaits with grows | ⟨awaited, cached⟩
    · exact Turn.take_of_failure (Turn.takeAll_consistent cons inputs) grows
    · have shut := hypothesis (fun before other old =>
        calm before other (old.trans (List.prefix_append inputs [input]))) awaited
      exact (Turn.take_awaiting shut cached).2 (calm inputs input (List.prefix_rfl) awaited)

/-- The first retry on a cached report opens the output. -/
theorem enabled_of_retry {start : Turn} (cons : start.gates.Consistent)
    {before : List Input} {input : Input}
    (calm : ∀ old other, old ++ [other] <+: before → AwaitsReport start old →
      ¬(start.takeAll old).RetriesOnCachedReport other) (awaits : AwaitsReport start before)
    (retries : (start.takeAll before).RetriesOnCachedReport input) :
    AwaitsReport start (before ++ [input]) ∧
      (start.takeAll (before ++ [input])).coordinator.outputEnabled = true := by
  have cached : isFreshReport input.operation = false := by
    obtain ⟨first, begins, _⟩ := retries
    cases op : input.operation <;> simp_all [isFreshReport, beforeCachedReport]
  rw [Turn.takeAll_append]
  exact ⟨awaitsReport_append.mpr (Or.inr ⟨awaits, cached⟩),
    (Turn.take_awaiting (shut_of_awaits cons calm awaits) cached).1 retries⟩

/-- The output stays off from a delivery failure to the next report from outside exactly when
nothing retries on the cached report in between. -/
theorem failure_awaits_report_iff (hasButtonInput : Bool) (answers : PortAnswers)
    (inputs : List Input) :
    let start := constructed hasButtonInput answers
    (∀ before, before <+: inputs → AwaitsReport start before →
        (start.takeAll before).coordinator.outputEnabled = false) ↔
      ∀ before input, before ++ [input] <+: inputs → AwaitsReport start before →
        ¬(start.takeAll before).RetriesOnCachedReport input := by
  intro start
  have consistent : start.gates.Consistent := constructed_consistent hasButtonInput answers
  constructor
  · intro off
    suffices calm : ∀ run, run <+: inputs → ∀ before input, before ++ [input] <+: run →
        AwaitsReport start before → ¬(start.takeAll before).RetriesOnCachedReport input from
      calm inputs List.prefix_rfl
    intro run
    induction run using List.reverseRecOn with
    | nil =>
      intro _ before input within
      simp at within
    | append_singleton run last hypothesis =>
      intro whole before input within awaits retries
      have shorter : run <+: inputs := (List.prefix_append run [last]).trans whole
      rcases List.prefix_concat_iff.mp within with is | within
      · obtain ⟨rfl, same⟩ := List.append_inj' is rfl
        obtain rfl : input = last := by simpa using same
        obtain ⟨awaits', enabled⟩ :=
          enabled_of_retry consistent (hypothesis shorter) awaits retries
        simp [off _ whole awaits'] at enabled
      · exact hypothesis shorter before input within awaits retries
  · intro calm before within awaits
    exact (shut_of_awaits consistent
      (fun old other shorter => calm old other (shorter.trans within)) awaits).enabled

def acceptingPorts (failureCount : Int) : PortAnswers where
  isReady _ := true
  deliveryState _ :=
    { usbWriteCompletionCount := 0, failureCount, circuitTripCount := 0, circuitOpen := false }
  setOutputDeliveryAllowed _ := true
  apply _ := true
  controlTrigger _ := .rightMouse
  currentButtonMask _ := 0x02
  isButtonStreamReady _ := true
  importPersonalTrajectory _ := true
  nanoTime _ := 0

/-- The output is on, a delivery fails, and the buttons change twice. -/
def failureAndTwoButtons : List Input :=
  [⟨.reconcileAutomaticState true true false false false, acceptingPorts 0⟩,
    ⟨.reconcileDeliveryState, acceptingPorts 1⟩,
    ⟨.onButtonMaskChanged, acceptingPorts 1⟩,
    ⟨.onButtonMaskChanged, acceptingPorts 1⟩]

theorem second_button_retries :
    ¬∀ (hasButtonInput : Bool) (answers : PortAnswers) (inputs : List Input),
      AwaitsReport (constructed hasButtonInput answers) inputs →
        ((constructed hasButtonInput answers).takeAll inputs).coordinator.outputEnabled
          = false := by
  intro claim
  have awaits : AwaitsReport (constructed true (acceptingPorts 0)) failureAndTwoButtons := by
    refine ⟨failureAndTwoButtons.take 1, ⟨.reconcileDeliveryState, acceptingPorts 1⟩,
      failureAndTwoButtons.drop 2, rfl, ⟨rfl, by decide⟩, ?_⟩
    simp [failureAndTwoButtons, isFreshReport]
  have off := claim true (acceptingPorts 0) failureAndTwoButtons awaits
  have on : ((constructed true (acceptingPorts 0)).takeAll
      failureAndTwoButtons).coordinator.outputEnabled = true := by decide
  rw [on] at off
  cases off

end VisionForge.ControlOutput
