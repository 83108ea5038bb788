import VisionForge.Lib.Holds
import VisionForge.Lib.Long

/-! # The gates of the output

Two gates keep the user's authorization apart from the hold of a decoder recovery: one on the
native side, one before the serial port. A recovery that is over restores the output only when
nothing has revoked it.
-/

namespace VisionForge.ControlOutput

open Lib.Histories Lib.Holds Lib.Long Lib.Run

structure MakcuRecoveryCompletion where
  matched : Bool := false
  outputEnabled : Bool := false
  deriving DecidableEq

structure MakcuOutputGate where
  forceDisabled : Bool := true
  userRequested : Bool := false
  recoverySuspended : Bool := false
  recoveryResumeEligible : Bool := false
  recoveryGeneration : UInt64 := 0
  deriving DecidableEq

namespace MakcuOutputGate

inductive Operation where
  | setUserRequested (requested : Bool)
  | revokeImmediately
  | suspendForRecovery (generation : UInt64)
  | completeAfterValidFrame (generation : UInt64)
  | failClosed
  deriving DecidableEq

inductive Answer where
  | done
  | flag (value : Bool)
  | completion (completion : MakcuRecoveryCompletion)
  deriving DecidableEq

variable (gate : MakcuOutputGate)

def setUserRequested (requested : Bool) : Bool × MakcuOutputGate :=
  if requested ∧ gate.recoverySuspended then (false, gate)
  else
    (true,
      { gate with
        userRequested := requested
        recoveryResumeEligible := requested && gate.recoveryResumeEligible
        forceDisabled := !requested })

def revokeImmediately : MakcuOutputGate := { gate with forceDisabled := true }

def suspendForRecovery (generation : UInt64) : MakcuOutputGate :=
  { gate with
    recoveryResumeEligible :=
      if gate.recoverySuspended then gate.recoveryResumeEligible else gate.userRequested
    recoveryGeneration := generation
    recoverySuspended := true }

def completeAfterValidFrame (generation : UInt64) : MakcuRecoveryCompletion × MakcuOutputGate :=
  if gate.recoveryGeneration ≠ generation ∨ gate.recoverySuspended = false then ({}, gate)
  else
    ({ matched := true
       outputEnabled := !gate.forceDisabled && gate.recoveryResumeEligible && gate.userRequested },
      { gate with recoverySuspended := false, recoveryResumeEligible := false })

def cancelRecovery : MakcuOutputGate :=
  { gate with
    recoveryGeneration := gate.recoveryGeneration + 1
    recoverySuspended := false
    recoveryResumeEligible := false }

def failClosed : MakcuOutputGate :=
  { gate.revokeImmediately with userRequested := false }.cancelRecovery

/-- `execute_if_enabled` runs its action under the same condition. -/
def outputEnabled : Bool := !gate.forceDisabled && gate.userRequested && !gate.recoverySuspended

def step : Operation → MakcuOutputGate × Answer
  | .setUserRequested requested =>
    let (accepted, next) := gate.setUserRequested requested
    (next, .flag accepted)
  | .revokeImmediately => (gate.revokeImmediately, .done)
  | .suspendForRecovery generation => (gate.suspendForRecovery generation, .done)
  | .completeAfterValidFrame generation =>
    let (completion, next) := gate.completeAfterValidFrame generation
    (next, .completion completion)
  | .failClosed => (gate.failClosed, .done)

/-- The gate after a sequence of operations. -/
def gateAfter (ops : List Operation) : MakcuOutputGate := exec step {} ops

/-- The gate as a permission that can be held. -/
def permission : Permission UInt64 where
  granted := !gate.forceDisabled && gate.userRequested
  held := if gate.recoverySuspended then some gate.recoveryGeneration else none

def event : Operation → Event UInt64
  | .setUserRequested true => if gate.recoverySuspended then .idle else .grant
  | .setUserRequested false => .withdraw
  | .revokeImmediately => .withdraw
  | .suspendForRecovery generation => .hold generation
  | .completeAfterValidFrame generation => .finish generation
  | .failClosed => .cancel

theorem step_permission (op : Operation) :
    (gate.step op).1.permission = gate.permission.react (gate.event op) := by
  cases op with
  | setUserRequested requested =>
    cases requested with
    | true =>
      cases suspended : gate.recoverySuspended with
      | true => simp [step, setUserRequested, event, suspended, Permission.react]
      | false => simp [step, setUserRequested, event, suspended, Permission.react, permission]
    | false => simp [step, setUserRequested, event, Permission.react, permission]
  | revokeImmediately => rfl
  | suspendForRecovery gen =>
    simp [step, suspendForRecovery, event, Permission.react, permission]
  | completeAfterValidFrame gen =>
    cases suspended : gate.recoverySuspended with
    | false =>
      simp [step, completeAfterValidFrame, event, Permission.react, permission, suspended]
    | true =>
      by_cases same : gate.recoveryGeneration = gen
      · simp [step, completeAfterValidFrame, event, Permission.react, permission, suspended, same]
      · simp [step, completeAfterValidFrame, event, Permission.react, permission, suspended, same]
  | failClosed =>
    simp [step, failClosed, cancelRecovery, revokeImmediately, event, Permission.react, permission]

theorem acts : Acts step ({} : MakcuOutputGate) event permission :=
  ⟨rfl, step_permission⟩

theorem event_setUserRequested (requested : Bool) :
    gate.event (.setUserRequested requested) = .idle ∨
      gate.event (.setUserRequested requested) = .grant ∨
      gate.event (.setUserRequested requested) = .withdraw := by
  cases requested with
  | true =>
    dsimp only [event]
    split <;> simp
  | false => exact .inr (.inr rfl)

theorem event_spells (op : Operation) :
    (∀ gen, gate.event op = .hold gen ↔
      op = .suspendForRecovery gen) ∧
    (∀ gen, gate.event op = .finish gen ↔
      op = .completeAfterValidFrame gen) ∧
    (gate.event op = .cancel ↔ op = .failClosed) := by
  cases op with
  | setUserRequested requested =>
    rcases gate.event_setUserRequested requested with is | is | is <;> simp [is]
  | revokeImmediately | suspendForRecovery | completeAfterValidFrame | failClosed =>
    simp [event]

theorem spells : Acts.Spells event .suspendForRecovery .completeAfterValidFrame .failClosed where
  hold := fun gate op => (gate.event_spells op).1
  finish := fun gate op => (gate.event_spells op).2.1
  cancel := fun gate op => (gate.event_spells op).2.2

theorem event_grant_iff {op : Operation} : gate.event op = .grant ↔
    op = .setUserRequested true ∧ (gate.step op).2 = .flag true := by
  cases op with
  | setUserRequested requested =>
    cases requested with
    | true =>
      cases suspended : gate.recoverySuspended <;>
        simp [event, step, setUserRequested, suspended]
    | false => simp [event]
  | revokeImmediately | suspendForRecovery | completeAfterValidFrame | failClosed => simp [event]

theorem outputEnabled_iff : gate.outputEnabled = true ↔
    gate.permission.granted = true ∧ gate.permission.held = none := by
  cases suspended : gate.recoverySuspended <;> simp [outputEnabled, permission, suspended]

theorem completeAfterValidFrame_unheld {gen : UInt64}
    (unheld : gate.permission.held ≠ some gen) :
    gate.completeAfterValidFrame gen = ({}, gate) := by
  have stale : gate.recoveryGeneration ≠ gen ∨ gate.recoverySuspended = false := by
    cases suspended : gate.recoverySuspended with
    | false => exact .inr rfl
    | true => exact .inl (by simpa [permission, suspended] using unheld)
  rw [completeAfterValidFrame, if_pos stale]

/-- The user has enabled the output, nothing has revoked it since, and each recovery since has
been completed by its own generation. -/
def EnabledSince (ops : List Operation) : Prop :=
  ∃ earlier later, ops = earlier ++ .setUserRequested true :: later ∧
    ((gateAfter earlier).step (.setUserRequested true)).2 = .flag true ∧
    (∀ middle rest, later = middle ++ .setUserRequested true :: rest →
      ((gateAfter (earlier ++ .setUserRequested true :: middle)).step
        (.setUserRequested true)).2 ≠ .flag true) ∧
    .setUserRequested false ∉ later ∧ .revokeImmediately ∉ later ∧ .failClosed ∉ later ∧
    ∀ middle generation rest, later = middle ++ .suspendForRecovery generation :: rest →
      (∀ other, .suspendForRecovery other ∉ rest) → .completeAfterValidFrame generation ∈ rest

variable {ops : List Operation}

theorem enabledSince (enabled : (gateAfter ops).outputEnabled = true) : EnabledSince ops := by
  obtain ⟨granted, unheld⟩ := (outputEnabled_iff _).mp enabled
  obtain ⟨old, op, later, rfl, grants, still, -⟩ := acts.granted_by granted
  obtain ⟨rfl, ok⟩ := (event_grant_iff _).mp grants
  have open' : .failClosed ∉ later := still.not_mem fun _ => .inr rfl
  refine ⟨old, later, rfl, ok, ?_, still.not_mem fun _ => .inl rfl,
    still.not_mem fun _ => .inl rfl, open', fun middle gen rest split latest =>
      acts.completed_of_unheld spells unheld open' split latest⟩
  intro middle rest split again
  exact (still.of_split split).1 ((event_grant_iff _).mpr ⟨rfl, again⟩)

/-- A completion for another generation than that of the latest hold, or one whose hold was
cancelled, changes nothing. -/
theorem stale_completion {gen : UInt64}
    (stale : ¬ Acts.Awaited .suspendForRecovery .failClosed ops gen) :
    (gateAfter ops).step (.completeAfterValidFrame gen) = (gateAfter ops, .completion {}) := by
  have unheld : (gateAfter ops).permission.held ≠ some gen :=
    fun held => stale (acts.awaited_of_held spells held)
  rw [step, completeAfterValidFrame_unheld _ unheld]

end MakcuOutputGate

/-- The one move that waits for the serial port; none is spelled with zeros. -/
structure MakcuPendingMoveSlot where
  packed : Int := 0
  ticket : Int := 0
  deadlineNanos : Int := 0
  deriving DecidableEq

structure MakcuDeliveryGate where
  pendingMoveSlot : MakcuPendingMoveSlot := {}
  requiredPhysicalButtonMask : Nat := 0
  lastPhysicalButtonMask : Nat := 0
  userAllowed : Bool := false
  recoverySuspended : Bool := false
  recoveryResumeEligible : Bool := false
  recoveryGeneration : Int := 0
  deriving DecidableEq

namespace MakcuDeliveryGate

inductive Operation where
  | setUserAllowed (allowed : Bool)
  | suspendForRecovery (generation : Int)
  | resumeAfterRecovery (generation : Int)
  | failClosed
  | setRequiredPhysicalButtonMask (requiredMask : Int)
  | updatePhysicalButtonMask (completeMask : Int)
  /-- The writer shares the slot with the gate. -/
  | offer (packed ticket deadlineNanos : Int)
  | takeInto
  deriving DecidableEq

inductive Answer where
  | done
  | flag (value : Bool)
  | ticket (ticket : Int)
  deriving DecidableEq

variable (gate : MakcuDeliveryGate)

def isPhysicalTriggerSatisfied : Bool :=
  gate.requiredPhysicalButtonMask == 0 ||
    (gate.lastPhysicalButtonMask &&& gate.requiredPhysicalButtonMask) != 0

def drainPendingAndAwaitSerialIdle : MakcuDeliveryGate := { gate with pendingMoveSlot := {} }

def setUserAllowed (allowed : Bool) : Bool × MakcuDeliveryGate :=
  if allowed ∧ gate.isPhysicalTriggerSatisfied = false then (false, gate)
  else if allowed ∧ gate.recoverySuspended then (false, gate)
  else
    let next :=
      { gate with
        userAllowed := allowed
        recoveryResumeEligible := allowed && gate.recoveryResumeEligible }
    (true, if allowed then next else next.drainPendingAndAwaitSerialIdle)

def suspendForRecovery (generation : Int) : MakcuDeliveryGate :=
  { gate with
    recoveryResumeEligible :=
      if gate.recoverySuspended then gate.recoveryResumeEligible else gate.userAllowed
    recoveryGeneration := generation
    recoverySuspended := true }.drainPendingAndAwaitSerialIdle

def resumeAfterRecovery (generation : Int) : Bool × MakcuDeliveryGate :=
  if gate.recoveryGeneration ≠ generation ∨ gate.recoverySuspended = false then (false, gate)
  else
    (gate.recoveryResumeEligible && gate.userAllowed,
      { gate with recoverySuspended := false, recoveryResumeEligible := false })

def cancelRecovery : MakcuDeliveryGate :=
  { gate with
    recoveryGeneration := wrap (gate.recoveryGeneration + 1)
    recoverySuspended := false
    recoveryResumeEligible := false }

def failClosed : MakcuDeliveryGate :=
  { gate with userAllowed := false }.cancelRecovery.drainPendingAndAwaitSerialIdle

def isDeliveryAllowed : Bool :=
  gate.userAllowed && !gate.recoverySuspended && gate.isPhysicalTriggerSatisfied

/-- The ticket of a move that the release rejects, or zero. -/
def revokeImmediatelyIfPhysicalTriggerReleased : Int × MakcuDeliveryGate :=
  if gate.isPhysicalTriggerSatisfied then (0, gate)
  else
    (gate.pendingMoveSlot.ticket,
      { gate with
        userAllowed := false
        recoveryResumeEligible := false
        pendingMoveSlot := {} })

def setRequiredPhysicalButtonMask (requiredMask : Int) : Int × MakcuDeliveryGate :=
  { gate with
    requiredPhysicalButtonMask :=
      requiredMask.toNat }.revokeImmediatelyIfPhysicalTriggerReleased

def updatePhysicalButtonMask (completeMask : Int) : Int × MakcuDeliveryGate :=
  { gate with
    lastPhysicalButtonMask :=
      completeMask.toNat }.revokeImmediatelyIfPhysicalTriggerReleased

/-- An offer that throws changes nothing. -/
def offer (packed ticket deadlineNanos : Int) : MakcuDeliveryGate :=
  if packed = 0 ∨ ticket ≤ 0 ∨ deadlineNanos ≤ 0 then gate
  else { gate with pendingMoveSlot := ⟨packed, ticket, deadlineNanos⟩ }

def step : Operation → MakcuDeliveryGate × Answer
  | .setUserAllowed allowed =>
    let (accepted, next) := gate.setUserAllowed allowed
    (next, .flag accepted)
  | .suspendForRecovery generation => (gate.suspendForRecovery generation, .done)
  | .resumeAfterRecovery generation =>
    let (outputEnabled, next) := gate.resumeAfterRecovery generation
    (next, .flag outputEnabled)
  | .failClosed => (gate.failClosed, .done)
  | .setRequiredPhysicalButtonMask requiredMask =>
    let (rejectedTicket, next) := gate.setRequiredPhysicalButtonMask requiredMask
    (next, .ticket rejectedTicket)
  | .updatePhysicalButtonMask completeMask =>
    let (rejectedTicket, next) := gate.updatePhysicalButtonMask completeMask
    (next, .ticket rejectedTicket)
  | .offer packed ticket deadlineNanos => (gate.offer packed ticket deadlineNanos, .done)
  | .takeInto => ({ gate with pendingMoveSlot := {} }, .done)

/-- The gate after a sequence of operations. -/
def gateAfter (ops : List Operation) : MakcuDeliveryGate := exec step {} ops

/-- The gate as a permission that can be held. -/
def permission : Permission Int where
  granted := gate.userAllowed
  held := if gate.recoverySuspended then some gate.recoveryGeneration else none

def event : Operation → Event Int
  | .setUserAllowed true =>
    if gate.isPhysicalTriggerSatisfied = false ∨ gate.recoverySuspended then .idle else .grant
  | .setUserAllowed false => .withdraw
  | .suspendForRecovery generation => .hold generation
  | .resumeAfterRecovery generation => .finish generation
  | .failClosed => .cancel
  | .setRequiredPhysicalButtonMask requiredMask =>
    if (gate.setRequiredPhysicalButtonMask requiredMask).2.isPhysicalTriggerSatisfied then .idle
    else .withdraw
  | .updatePhysicalButtonMask completeMask =>
    if (gate.updatePhysicalButtonMask completeMask).2.isPhysicalTriggerSatisfied then .idle
    else .withdraw
  | .offer .. => .idle
  | .takeInto => .idle

theorem revokeImmediately_permission :
    gate.revokeImmediatelyIfPhysicalTriggerReleased.2.permission = gate.permission.react
      (if gate.revokeImmediatelyIfPhysicalTriggerReleased.2.isPhysicalTriggerSatisfied then .idle
        else .withdraw) := by
  unfold revokeImmediatelyIfPhysicalTriggerReleased
  cases satisfied : gate.isPhysicalTriggerSatisfied with
  | true => simp [satisfied, Permission.react]
  | false =>
    have still : { gate with
        userAllowed := false
        recoveryResumeEligible := false
        pendingMoveSlot := {} }.isPhysicalTriggerSatisfied = false := satisfied
    simp [still, Permission.react, permission]

theorem step_permission (op : Operation) :
    (gate.step op).1.permission = gate.permission.react (gate.event op) := by
  cases op with
  | setUserAllowed allowed =>
    cases allowed with
    | true =>
      cases satisfied : gate.isPhysicalTriggerSatisfied with
      | false => simp [step, setUserAllowed, event, satisfied, Permission.react]
      | true =>
        cases suspended : gate.recoverySuspended with
        | true => simp [step, setUserAllowed, event, satisfied, suspended, Permission.react]
        | false =>
          simp [step, setUserAllowed, event, satisfied, suspended, Permission.react, permission]
    | false =>
      simp [step, setUserAllowed, event, Permission.react, permission,
        drainPendingAndAwaitSerialIdle]
  | suspendForRecovery gen =>
    simp [step, suspendForRecovery, event, Permission.react, permission,
      drainPendingAndAwaitSerialIdle]
  | resumeAfterRecovery gen =>
    cases suspended : gate.recoverySuspended with
    | false =>
      simp [step, resumeAfterRecovery, event, Permission.react, permission, suspended]
    | true =>
      by_cases same : gate.recoveryGeneration = gen
      · simp [step, resumeAfterRecovery, event, Permission.react, permission, suspended, same]
      · simp [step, resumeAfterRecovery, event, Permission.react, permission, suspended, same]
  | failClosed =>
    simp [step, failClosed, cancelRecovery, event, Permission.react, permission,
      drainPendingAndAwaitSerialIdle]
  | setRequiredPhysicalButtonMask requiredMask => exact revokeImmediately_permission _
  | updatePhysicalButtonMask completeMask => exact revokeImmediately_permission _
  | offer packed ticket deadlineNanos =>
    dsimp only [step, offer, event]
    split <;> rfl
  | takeInto => rfl

theorem acts : Acts step ({} : MakcuDeliveryGate) event permission :=
  ⟨rfl, step_permission⟩

/-- The user's authorization ends with the release of the trigger. -/
def Triggered : Prop := gate.userAllowed = true → gate.isPhysicalTriggerSatisfied = true

theorem step_triggered (op : Operation) (triggered : gate.Triggered) :
    (gate.step op).1.Triggered := by
  have revoked (gate : MakcuDeliveryGate) :
      gate.revokeImmediatelyIfPhysicalTriggerReleased.2.Triggered := by
    unfold revokeImmediatelyIfPhysicalTriggerReleased
    split
    · exact fun _ => ‹_›
    · exact fun allowed => by simp at allowed
  cases op with
  | setUserAllowed allowed =>
    dsimp only [step, setUserAllowed]
    split
    · exact triggered
    split
    · exact triggered
    rename_i refused _
    cases allowed with
    | true =>
      have satisfied : gate.isPhysicalTriggerSatisfied = true := by simpa using refused
      exact fun _ => satisfied
    | false => exact fun allowed => by simp [drainPendingAndAwaitSerialIdle] at allowed
  | suspendForRecovery gen => exact triggered
  | resumeAfterRecovery gen =>
    dsimp only [step, resumeAfterRecovery]
    split <;> exact triggered
  | failClosed => exact fun allowed => by simp [step, failClosed, cancelRecovery,
      drainPendingAndAwaitSerialIdle] at allowed
  | setRequiredPhysicalButtonMask requiredMask => exact revoked _
  | updatePhysicalButtonMask completeMask => exact revoked _
  | offer packed ticket deadlineNanos =>
    dsimp only [step, offer]
    split <;> exact triggered
  | takeInto => exact triggered

theorem gateAfter_triggered (ops : List Operation) : (gateAfter ops).Triggered :=
  exec_invariant step (fun allowed => by simp at allowed)
    (fun gate op triggered => gate.step_triggered op triggered) ops

theorem isDeliveryAllowed_iff : gate.isDeliveryAllowed = true ↔
    gate.permission.granted = true ∧ gate.permission.held = none ∧
      gate.isPhysicalTriggerSatisfied = true := by
  cases suspended : gate.recoverySuspended <;> simp [isDeliveryAllowed, permission, suspended]

theorem resumeAfterRecovery_unheld {gen : Int}
    (unheld : gate.permission.held ≠ some gen) :
    gate.resumeAfterRecovery gen = (false, gate) := by
  have stale : gate.recoveryGeneration ≠ gen ∨ gate.recoverySuspended = false := by
    cases suspended : gate.recoverySuspended with
    | false => exact .inr rfl
    | true => exact .inl (by simpa [permission, suspended] using unheld)
  rw [resumeAfterRecovery, if_pos stale]

def Plain (event : Event Int) : Prop := event = .idle ∨ event = .grant ∨ event = .withdraw

theorem event_setUserAllowed (allowed : Bool) : Plain (gate.event (.setUserAllowed allowed)) := by
  cases allowed with
  | true =>
    dsimp only [event]
    split <;> simp [Plain]
  | false => exact .inr (.inr rfl)

theorem event_setRequiredPhysicalButtonMask (requiredMask : Int) :
    Plain (gate.event (.setRequiredPhysicalButtonMask requiredMask)) := by
  dsimp only [event]
  split <;> simp [Plain]

theorem event_updatePhysicalButtonMask (completeMask : Int) :
    Plain (gate.event (.updatePhysicalButtonMask completeMask)) := by
  dsimp only [event]
  split <;> simp [Plain]

theorem Plain.spells {event : Event Int} (plain : Plain event) :
    (∀ gen, event ≠ .hold gen) ∧ (∀ gen, event ≠ .finish gen) ∧
      event ≠ .cancel := by
  rcases plain with rfl | rfl | rfl <;> simp

theorem event_spells (op : Operation) :
    (∀ gen, gate.event op = .hold gen ↔
      op = .suspendForRecovery gen) ∧
    (∀ gen, gate.event op = .finish gen ↔
      op = .resumeAfterRecovery gen) ∧
    (gate.event op = .cancel ↔ op = .failClosed) := by
  cases op with
  | setUserAllowed allowed => simp [(gate.event_setUserAllowed allowed).spells]
  | setRequiredPhysicalButtonMask requiredMask =>
    simp [(gate.event_setRequiredPhysicalButtonMask requiredMask).spells]
  | updatePhysicalButtonMask completeMask =>
    simp [(gate.event_updatePhysicalButtonMask completeMask).spells]
  | suspendForRecovery | resumeAfterRecovery | failClosed | offer | takeInto => simp [event]

theorem spells : Acts.Spells event .suspendForRecovery .resumeAfterRecovery .failClosed where
  hold := fun gate op => (gate.event_spells op).1
  finish := fun gate op => (gate.event_spells op).2.1
  cancel := fun gate op => (gate.event_spells op).2.2

theorem event_grant_iff {op : Operation} : gate.event op = .grant ↔
    op = .setUserAllowed true ∧ (gate.step op).2 = .flag true := by
  cases op with
  | setUserAllowed allowed =>
    cases allowed with
    | true =>
      cases satisfied : gate.isPhysicalTriggerSatisfied <;>
        cases suspended : gate.recoverySuspended <;>
          simp [event, step, setUserAllowed, satisfied, suspended]
    | false => simp [event]
  | setRequiredPhysicalButtonMask | updatePhysicalButtonMask =>
    dsimp only [event]
    split <;> simp
  | suspendForRecovery | resumeAfterRecovery | failClosed | offer | takeInto => simp [event]

/-- The user has allowed the delivery, nothing has revoked it since, the trigger has been held
ever since, and each recovery since has been completed by its own generation. -/
def AllowedSince (ops : List Operation) : Prop :=
  ∃ earlier later, ops = earlier ++ .setUserAllowed true :: later ∧
    ((gateAfter earlier).step (.setUserAllowed true)).2 = .flag true ∧
    (∀ middle rest, later = middle ++ .setUserAllowed true :: rest →
      ((gateAfter (earlier ++ .setUserAllowed true :: middle)).step
        (.setUserAllowed true)).2 ≠ .flag true) ∧
    .setUserAllowed false ∉ later ∧ .failClosed ∉ later ∧
    (∀ moment, moment <+: later →
      (gateAfter (earlier ++ .setUserAllowed true :: moment)).isPhysicalTriggerSatisfied = true) ∧
    ∀ middle generation rest, later = middle ++ .suspendForRecovery generation :: rest →
      (∀ other, .suspendForRecovery other ∉ rest) → .resumeAfterRecovery generation ∈ rest

theorem allowedSince (allowed : (gateAfter ops).isDeliveryAllowed = true) : AllowedSince ops := by
  obtain ⟨granted, unheld, -⟩ := (isDeliveryAllowed_iff _).mp allowed
  obtain ⟨old, op, later, rfl, grants, still, moments⟩ := acts.granted_by granted
  obtain ⟨rfl, ok⟩ := (event_grant_iff _).mp grants
  have open' : .failClosed ∉ later := still.not_mem fun _ => .inr rfl
  refine ⟨old, later, rfl, ok, ?_, still.not_mem fun _ => .inl rfl, open',
    fun moment isBefore => gateAfter_triggered _ (moments moment isBefore),
    fun middle gen rest split latest =>
      acts.completed_of_unheld spells unheld open' split latest⟩
  intro middle rest split again
  exact (still.of_split split).1 ((event_grant_iff _).mpr ⟨rfl, again⟩)

theorem stale_resumption {gen : Int}
    (stale : ¬ Acts.Awaited .suspendForRecovery .failClosed ops gen) :
    (gateAfter ops).step (.resumeAfterRecovery gen) = (gateAfter ops, .flag false) := by
  have unheld : (gateAfter ops).permission.held ≠ some gen :=
    fun held => stale (acts.awaited_of_held spells held)
  rw [step, resumeAfterRecovery_unheld _ unheld]

end MakcuDeliveryGate

/-- In every run of either gate the output is on only since the user enabled it, with nothing
revoked and no recovery open since; and a completion that is not of the latest hold, or whose
hold was cancelled, changes nothing and reports the output off. -/
theorem completion_never_reopens_output (ops : List MakcuOutputGate.Operation)
    (deliveries : List MakcuDeliveryGate.Operation) :
    ((MakcuOutputGate.gateAfter ops).outputEnabled = true →
      MakcuOutputGate.EnabledSince ops) ∧
    (∀ old gen later, ops = old ++ .completeAfterValidFrame gen :: later →
      ¬ Acts.Awaited .suspendForRecovery .failClosed old gen →
      (MakcuOutputGate.gateAfter old).step (.completeAfterValidFrame gen) =
        (MakcuOutputGate.gateAfter old,
          .completion { matched := false, outputEnabled := false })) ∧
    ((MakcuDeliveryGate.gateAfter deliveries).isDeliveryAllowed = true →
      MakcuDeliveryGate.AllowedSince deliveries) ∧
    (∀ old gen later, deliveries = old ++ .resumeAfterRecovery gen :: later →
      ¬ Acts.Awaited .suspendForRecovery .failClosed old gen →
      (MakcuDeliveryGate.gateAfter old).step (.resumeAfterRecovery gen) =
        (MakcuDeliveryGate.gateAfter old, .flag false)) :=
  ⟨MakcuOutputGate.enabledSince, fun _ _ _ _ stale => MakcuOutputGate.stale_completion stale,
    MakcuDeliveryGate.allowedSince, fun _ _ _ _ stale => MakcuDeliveryGate.stale_resumption stale⟩

/-- A recovery held and completed while the trigger stays pressed. -/
theorem completion_after_hold :
    MakcuOutputGate.EnabledSince
        [.setUserRequested true, .suspendForRecovery 7, .completeAfterValidFrame 7] ∧
      MakcuDeliveryGate.AllowedSince
        [.updatePhysicalButtonMask 2, .setRequiredPhysicalButtonMask 2, .setUserAllowed true,
          .suspendForRecovery 7, .resumeAfterRecovery 7] := by
  have both := completion_never_reopens_output
    [.setUserRequested true, .suspendForRecovery 7, .completeAfterValidFrame 7]
    [.updatePhysicalButtonMask 2, .setRequiredPhysicalButtonMask 2, .setUserAllowed true,
      .suspendForRecovery 7, .resumeAfterRecovery 7]
  exact ⟨both.1 (by decide), both.2.2.1 (by decide)⟩

end VisionForge.ControlOutput
