import Mathlib.Algebra.Order.Ring.Int
import VisionForge.Lib.Run
import VisionForge.Lib.Utf

/-! # The guard of automatic paid sessions

A paid session opens only while the guard is armed. A guard that is blocked is armed again by
an authenticated start intent of the Host, once the Host has been seen absent for long enough.
-/

namespace VisionForge.FormalUsage

open Lib.Run Lib.Utf

inductive Throwable where
  | illegalArgument (message : String)
  | illegalState (message : String)
  | security (message : String)
  | arithmetic
  deriving DecidableEq

namespace AutomaticFormalUsageSessionGuard

inductive State where
  | armed
  | startReserved
  | active
  | blockedUntilHostProgressResumes
  | blockedUntilNewHostStream
  deriving DecidableEq

inductive HostFrameOutcome where
  | recorded
  | sameStreamBlocked
  | invalidIgnored
  deriving DecidableEq

inductive HostStartIntentOutcome where
  | newStartIntentRearmed
  | hostAbsenceNotConfirmed
  | duplicateIgnored
  | stateIgnored
  | invalidIgnored
  deriving DecidableEq

end AutomaticFormalUsageSessionGuard

open AutomaticFormalUsageSessionGuard

structure AutomaticFormalUsageSessionGuard where
  state : State
  startRequestId : Units
  channelBindingSha256 : Units
  lastHostFrameSequence : Int
  progressObserved : Bool
  noProgressSinceElapsedMillis : Int
  automaticStopSignalled : Bool
  hostAbsentSinceElapsedMillis : Int
  hostAbsenceConfirmed : Bool
  restartCandidateSequence : Int
  restartCandidateConfirmations : Int
  lastHostStartIntentConnectionId : Int
  lastHostStartIntentToken : Int
  deriving DecidableEq

namespace AutomaticFormalUsageSessionGuard

def MAX_LOGICAL_FRAME_SEQUENCE : Int := 0x7fffffff

def isValidFrameSequence (value : Int) : Bool :=
  decide (0 ≤ value) && decide (value ≤ MAX_LOGICAL_FRAME_SEQUENCE)

def new : AutomaticFormalUsageSessionGuard where
  state := .armed
  startRequestId := []
  channelBindingSha256 := []
  lastHostFrameSequence := -1
  progressObserved := false
  noProgressSinceElapsedMillis := -1
  automaticStopSignalled := false
  hostAbsentSinceElapsedMillis := -1
  hostAbsenceConfirmed := false
  restartCandidateSequence := -1
  restartCandidateConfirmations := 0
  lastHostStartIntentConnectionId := 0
  lastHostStartIntentToken := 0

variable (guard : AutomaticFormalUsageSessionGuard)

def isAutomaticStartAllowed : Bool := guard.state == .armed

def requiresHostRearmProbe : Bool :=
  guard.state == .blockedUntilHostProgressResumes || guard.state == .blockedUntilNewHostStream

def resetProgressWatchdog : AutomaticFormalUsageSessionGuard :=
  { guard with
    progressObserved := false
    noProgressSinceElapsedMillis := -1
    automaticStopSignalled := false }

def resetHostRestartEvidence : AutomaticFormalUsageSessionGuard :=
  { guard with
    hostAbsentSinceElapsedMillis := -1
    hostAbsenceConfirmed := false
    restartCandidateSequence := -1
    restartCandidateConfirmations := 0 }

variable (expectedStartRequestId : Option Units)

def isOwnedBy (expectedChannelBindingSha256 : Option Units) : Bool :=
  expectedStartRequestId == some guard.startRequestId &&
    expectedChannelBindingSha256 == some guard.channelBindingSha256

def clearOwner : AutomaticFormalUsageSessionGuard :=
  { guard with startRequestId := [], channelBindingSha256 := [] }

/-- The state that an owner's operation leads to; what was observed before is forgotten. -/
def enter (state : State) : AutomaticFormalUsageSessionGuard :=
  ({ guard with state := state } : AutomaticFormalUsageSessionGuard).resetProgressWatchdog
    |>.resetHostRestartEvidence

def recordHostFrame (logicalFrameSequence : Int) :
    HostFrameOutcome × AutomaticFormalUsageSessionGuard :=
  if isValidFrameSequence logicalFrameSequence = false then (.invalidIgnored, guard)
  else
    let recorded :=
      { guard with lastHostFrameSequence := logicalFrameSequence }.resetHostRestartEvidence
    (if guard.requiresHostRearmProbe then .sameStreamBlocked else .recorded, recorded)

def recordAuthenticatedHostStartIntent (connectionId intentToken : Int) :
    HostStartIntentOutcome × AutomaticFormalUsageSessionGuard :=
  if connectionId = 0 ∨ intentToken ≤ 0 then (.invalidIgnored, guard)
  else if guard.requiresHostRearmProbe = false then (.stateIgnored, guard)
  else if connectionId = guard.lastHostStartIntentConnectionId ∧
      intentToken = guard.lastHostStartIntentToken then
    (.duplicateIgnored, guard)
  else if guard.hostAbsenceConfirmed = false then (.hostAbsenceNotConfirmed, guard)
  else
    (.newStartIntentRearmed,
      { (guard.enter .armed).clearOwner with
        lastHostStartIntentConnectionId := connectionId
        lastHostStartIntentToken := intentToken })

def requireOwner (expectedChannelBindingSha256 : Option Units) : Except Throwable (Units × Units) :=
  match expectedStartRequestId, expectedChannelBindingSha256 with
  | some (first :: startRequestId), some (first' :: channelBindingSha256) =>
    .ok (first :: startRequestId, first' :: channelBindingSha256)
  | _, _ => .error (.illegalArgument "automatic formal usage owner is required")

def reserveFormalStart (expectedChannelBindingSha256 : Option Units) :
    Except Throwable (Bool × AutomaticFormalUsageSessionGuard) := do
  let owner ← requireOwner expectedStartRequestId expectedChannelBindingSha256
  if guard.state = .startReserved ∧
      guard.isOwnedBy expectedStartRequestId expectedChannelBindingSha256 then
    .ok (false, guard)
  else if guard.state ≠ .armed then
    .error (.illegalState "automatic formal usage is not armed")
  else
    .ok (true,
      { guard.enter .startReserved with
        startRequestId := owner.1
        channelBindingSha256 := owner.2 })

def cancelUnbilledStartReservation (expectedChannelBindingSha256 : Option Units) :
    Bool × AutomaticFormalUsageSessionGuard :=
  if guard.state ≠ .startReserved ∨
      guard.isOwnedBy expectedStartRequestId expectedChannelBindingSha256 = false then
    (false, guard)
  else (true, (guard.enter .armed).clearOwner)

def markFormalSessionOpened (expectedChannelBindingSha256 : Option Units) :
    Except Throwable AutomaticFormalUsageSessionGuard :=
  if guard.state ≠ .startReserved ∨
      guard.isOwnedBy expectedStartRequestId expectedChannelBindingSha256 = false then
    .error (.illegalState "automatic formal usage start owner does not match")
  else .ok (guard.enter .active)

def markFormalSessionClosed (expectedChannelBindingSha256 : Option Units) :
    Bool × AutomaticFormalUsageSessionGuard :=
  if guard.state ≠ .active ∨
      guard.isOwnedBy expectedStartRequestId expectedChannelBindingSha256 = false then
    (false, guard)
  else (true, (guard.enter .blockedUntilHostProgressResumes).clearOwner)

def blockPotentiallyBilledGeneration (expectedChannelBindingSha256 : Option Units) :
    Bool × AutomaticFormalUsageSessionGuard :=
  if (guard.state ≠ .active ∧ guard.state ≠ .startReserved) ∨
      guard.isOwnedBy expectedStartRequestId expectedChannelBindingSha256 = false then
    (false, guard)
  else (true, (guard.enter .blockedUntilNewHostStream).clearOwner)

/-- The source's one-argument form passes `false`. -/
def restoreBlocked (logicalFrameSequence : Int) (hostProgressMayResume : Bool) :
    AutomaticFormalUsageSessionGuard :=
  { (guard.enter (if hostProgressMayResume then .blockedUntilHostProgressResumes
      else .blockedUntilNewHostStream)).clearOwner with
    lastHostFrameSequence :=
      if isValidFrameSequence logicalFrameSequence then logicalFrameSequence else -1 }

/-- Neither time is negative, so their difference does not overflow. -/
def recordHostAbsent (nowElapsedMillis requiredAbsenceMillis : Int) :
    Except Throwable (Bool × AutomaticFormalUsageSessionGuard) :=
  if nowElapsedMillis < 0 ∨ requiredAbsenceMillis ≤ 0 then
    .error (.illegalArgument "valid monotonic time and absence threshold are required")
  else if guard.state ≠ .blockedUntilNewHostStream ∧
      guard.state ≠ .blockedUntilHostProgressResumes then
    .ok (false, guard.resetHostRestartEvidence)
  else if guard.hostAbsentSinceElapsedMillis < 0 then
    .ok (false, { guard with hostAbsentSinceElapsedMillis := nowElapsedMillis })
  else if nowElapsedMillis - guard.hostAbsentSinceElapsedMillis < requiredAbsenceMillis then
    .ok (false, guard)
  else .ok (true, { guard with hostAbsenceConfirmed := true })

def markProgressRenewed : AutomaticFormalUsageSessionGuard :=
  if guard.state ≠ .active then guard
  else
    { guard with
      progressObserved := true
      noProgressSinceElapsedMillis := -1
      automaticStopSignalled := false }

def shouldStopAfterNoProgress (nowElapsedMillis sustainedNoProgressMillis : Int) :
    Except Throwable (Bool × AutomaticFormalUsageSessionGuard) :=
  if nowElapsedMillis < 0 ∨ sustainedNoProgressMillis ≤ 0 then
    .error (.illegalArgument "valid monotonic time and threshold are required")
  else if guard.state ≠ .active ∨ guard.progressObserved = false ∨ guard.automaticStopSignalled then
    .ok (false, { guard with noProgressSinceElapsedMillis := -1 })
  else if guard.noProgressSinceElapsedMillis < 0 then
    .ok (false, { guard with noProgressSinceElapsedMillis := nowElapsedMillis })
  else if nowElapsedMillis - guard.noProgressSinceElapsedMillis < sustainedNoProgressMillis then
    .ok (false, guard)
  else .ok (true, { guard with automaticStopSignalled := true })

inductive Operation where
  | recordHostFrame (logicalFrameSequence : Int)
  | recordAuthenticatedHostStartIntent (connectionId intentToken : Int)
  | reserveFormalStart (expectedStartRequestId expectedChannelBindingSha256 : Option Units)
  | cancelUnbilledStartReservation
      (expectedStartRequestId expectedChannelBindingSha256 : Option Units)
  | markFormalSessionOpened (expectedStartRequestId expectedChannelBindingSha256 : Option Units)
  | markFormalSessionClosed (expectedStartRequestId expectedChannelBindingSha256 : Option Units)
  | blockPotentiallyBilledGeneration
      (expectedStartRequestId expectedChannelBindingSha256 : Option Units)
  | restoreBlocked (logicalFrameSequence : Int) (hostProgressMayResume : Bool)
  | recordHostAbsent (nowElapsedMillis requiredAbsenceMillis : Int)
  | markProgressRenewed
  | shouldStopAfterNoProgress (nowElapsedMillis sustainedNoProgressMillis : Int)
  deriving DecidableEq

inductive Answer where
  | done
  | flag (value : Bool)
  | frame (outcome : HostFrameOutcome)
  | intent (outcome : HostStartIntentOutcome)
  | thrown (error : Throwable)
  deriving DecidableEq

def answered : Except Throwable (Bool × AutomaticFormalUsageSessionGuard) →
    AutomaticFormalUsageSessionGuard × Answer
  | .ok (value, next) => (next, .flag value)
  | .error error => (guard, .thrown error)

def step : Operation → AutomaticFormalUsageSessionGuard × Answer
  | .recordHostFrame sequence =>
    let (outcome, next) := guard.recordHostFrame sequence
    (next, .frame outcome)
  | .recordAuthenticatedHostStartIntent connectionId intentToken =>
    let (outcome, next) := guard.recordAuthenticatedHostStartIntent connectionId intentToken
    (next, .intent outcome)
  | .reserveFormalStart startRequestId channel =>
    guard.answered (guard.reserveFormalStart startRequestId channel)
  | .cancelUnbilledStartReservation startRequestId channel =>
    guard.answered (.ok (guard.cancelUnbilledStartReservation startRequestId channel))
  | .markFormalSessionOpened startRequestId channel =>
    match guard.markFormalSessionOpened startRequestId channel with
    | .ok next => (next, .done)
    | .error error => (guard, .thrown error)
  | .markFormalSessionClosed startRequestId channel =>
    guard.answered (.ok (guard.markFormalSessionClosed startRequestId channel))
  | .blockPotentiallyBilledGeneration startRequestId channel =>
    guard.answered (.ok (guard.blockPotentiallyBilledGeneration startRequestId channel))
  | .restoreBlocked sequence mayResume => (guard.restoreBlocked sequence mayResume, .done)
  | .recordHostAbsent now required => guard.answered (guard.recordHostAbsent now required)
  | .markProgressRenewed => (guard.markProgressRenewed, .done)
  | .shouldStopAfterNoProgress now sustained =>
    guard.answered (guard.shouldStopAfterNoProgress now sustained)

/-- What decides about a new paid session. -/
structure Decisive where
  state : State
  owner : Units × Units
  absentSince : Int
  absenceConfirmed : Bool

def decisive : Decisive :=
  ⟨guard.state, (guard.startRequestId, guard.channelBindingSha256),
    guard.hostAbsentSinceElapsedMillis, guard.hostAbsenceConfirmed⟩

def Decisive.blocked (decisive : Decisive) : Prop :=
  decisive.state = .blockedUntilHostProgressResumes ∨ decisive.state = .blockedUntilNewHostStream

def Idle : Operation → Answer → Prop
  | .recordHostFrame sequence, _ => isValidFrameSequence sequence = false
  | .recordAuthenticatedHostStartIntent _ _, answer => answer ≠ .intent .newStartIntentRearmed
  | .reserveFormalStart _ _, answer => answer ≠ .flag true
  | .cancelUnbilledStartReservation _ _, answer => answer ≠ .flag true
  | .restoreBlocked _ _, _ => False
  | _, _ => True

inductive Effect (before : Decisive) : Operation → Answer → Decisive → Prop where
  | idle {operation : Operation} {answer : Answer} (idle : Idle operation answer) :
      Effect before operation answer before
  | frame {sequence : Int} {outcome : HostFrameOutcome} :
      Effect before (.recordHostFrame sequence) (.frame outcome)
        ⟨before.state, before.owner, -1, false⟩
  | rearms {connectionId intentToken : Int} (blocked : before.blocked)
      (confirmed : before.absenceConfirmed = true) :
      Effect before (.recordAuthenticatedHostStartIntent connectionId intentToken)
        (.intent .newStartIntentRearmed) ⟨.armed, ([], []), -1, false⟩
  | reserves {startRequestId channel : Units} (armed : before.state = .armed)
      (someRequest : startRequestId ≠ []) (someChannel : channel ≠ []) :
      Effect before (.reserveFormalStart (some startRequestId) (some channel)) (.flag true)
        ⟨.startReserved, (startRequestId, channel), -1, false⟩
  | cancels (reserved : before.state = .startReserved) :
      Effect before (.cancelUnbilledStartReservation (some before.owner.1) (some before.owner.2))
        (.flag true) ⟨.armed, ([], []), -1, false⟩
  | opens {startRequestId channel : Option Units} (reserved : before.state = .startReserved) :
      Effect before (.markFormalSessionOpened startRequestId channel) .done
        ⟨.active, before.owner, -1, false⟩
  | closes {startRequestId channel : Option Units} :
      Effect before (.markFormalSessionClosed startRequestId channel) (.flag true)
        ⟨.blockedUntilHostProgressResumes, ([], []), -1, false⟩
  | blocks {startRequestId channel : Option Units} :
      Effect before (.blockPotentiallyBilledGeneration startRequestId channel) (.flag true)
        ⟨.blockedUntilNewHostStream, ([], []), -1, false⟩
  | restores {sequence : Int} {mayResume : Bool} :
      Effect before (.restoreBlocked sequence mayResume) .done
        ⟨if mayResume then .blockedUntilHostProgressResumes else .blockedUntilNewHostStream,
          ([], []), -1, false⟩
  | absentUnblocked {now required : Int} :
      Effect before (.recordHostAbsent now required) (.flag false)
        ⟨before.state, before.owner, -1, false⟩
  | absentFirst {now required : Int} (blocked : before.blocked) (time : 0 ≤ now)
      (first : before.absentSince < 0) :
      Effect before (.recordHostAbsent now required) (.flag false)
        { before with absentSince := now }
  | absentLong {now required : Int} (blocked : before.blocked) (threshold : 0 < required)
      (since : 0 ≤ before.absentSince) (long : required ≤ now - before.absentSince) :
      Effect before (.recordHostAbsent now required) (.flag true)
        { before with absenceConfirmed := true }

section

variable {guard}

theorem requiresHostRearmProbe_iff :
    guard.requiresHostRearmProbe = true ↔ guard.decisive.blocked := by
  simp [requiresHostRearmProbe, Decisive.blocked, decisive]

theorem isOwnedBy_iff {startRequestId channel : Option Units} :
    guard.isOwnedBy startRequestId channel = true ↔
      startRequestId = some guard.decisive.owner.1 ∧ channel = some guard.decisive.owner.2 := by
  simp [isOwnedBy, decisive]

theorem recordHostFrame_effect (seq : Int) :
    Effect guard.decisive (.recordHostFrame seq)
      (guard.step (.recordHostFrame seq)).2
      (guard.step (.recordHostFrame seq)).1.decisive := by
  dsimp only [step, recordHostFrame]
  split
  · exact .idle ‹_›
  · exact .frame

theorem recordAuthenticatedHostStartIntent_effect (connectionId intentToken : Int) :
    Effect guard.decisive (.recordAuthenticatedHostStartIntent connectionId intentToken)
      (guard.step (.recordAuthenticatedHostStartIntent connectionId intentToken)).2
      (guard.step (.recordAuthenticatedHostStartIntent connectionId intentToken)).1.decisive := by
  dsimp only [step, recordAuthenticatedHostStartIntent]
  split
  · exact .idle (by simp [Idle])
  split
  · exact .idle (by simp [Idle])
  split
  · exact .idle (by simp [Idle])
  split
  · exact .idle (by simp [Idle])
  rename_i _ probing _ confirmed
  exact .rearms (requiresHostRearmProbe_iff.mp (by simpa using probing))
    (by simpa [decisive] using confirmed)

theorem requireOwner_eq_ok {startRequestId channel : Option Units} {owner : Units × Units} :
    requireOwner startRequestId channel = .ok owner ↔
      startRequestId = some owner.1 ∧ channel = some owner.2 ∧ owner.1 ≠ [] ∧ owner.2 ≠ [] := by
  obtain ⟨first, snd⟩ := owner
  unfold requireOwner
  constructor
  · intro isOk
    split at isOk
    · cases isOk
      simp
    · cases isOk
  · rintro ⟨rfl, rfl, someFirst, someSecond⟩
    cases first with
    | nil => exact absurd rfl someFirst
    | cons =>
      cases snd with
      | nil => exact absurd rfl someSecond
      | cons => rfl

variable (startRequestId : Option Units)

theorem reserveFormalStart_effect (channel : Option Units) :
    Effect guard.decisive (.reserveFormalStart startRequestId channel)
      (guard.step (.reserveFormalStart startRequestId channel)).2
      (guard.step (.reserveFormalStart startRequestId channel)).1.decisive := by
  dsimp only [step, reserveFormalStart]
  cases required : requireOwner startRequestId channel with
  | error error => exact .idle (by simp [Idle, answered, bind, Except.bind])
  | ok owner =>
    obtain ⟨rfl, rfl, someRequest, someChannel⟩ := requireOwner_eq_ok.mp required
    dsimp only [bind, Except.bind]
    split
    · exact .idle (by simp [Idle, answered])
    split
    · exact .idle (by simp [Idle, answered])
    rename_i _ armed
    exact .reserves (not_not.mp armed) someRequest someChannel

theorem cancelUnbilledStartReservation_effect (channel : Option Units) :
    Effect guard.decisive (.cancelUnbilledStartReservation startRequestId channel)
      (guard.step (.cancelUnbilledStartReservation startRequestId channel)).2
      (guard.step (.cancelUnbilledStartReservation startRequestId channel)).1.decisive := by
  dsimp only [step, cancelUnbilledStartReservation]
  split
  · exact .idle (by simp [Idle, answered])
  rename_i mine
  rw [not_or, not_not, Bool.not_eq_false, isOwnedBy_iff] at mine
  obtain ⟨reserved, rfl, rfl⟩ := mine
  exact .cancels reserved

theorem markFormalSessionOpened_effect (channel : Option Units) :
    Effect guard.decisive (.markFormalSessionOpened startRequestId channel)
      (guard.step (.markFormalSessionOpened startRequestId channel)).2
      (guard.step (.markFormalSessionOpened startRequestId channel)).1.decisive := by
  dsimp only [step, markFormalSessionOpened]
  by_cases refused : guard.state ≠ .startReserved ∨
      guard.isOwnedBy startRequestId channel = false
  · rw [if_pos refused]
    exact .idle trivial
  · rw [if_neg refused]
    rw [not_or, not_not] at refused
    exact .opens refused.1

theorem markFormalSessionClosed_effect (channel : Option Units) :
    Effect guard.decisive (.markFormalSessionClosed startRequestId channel)
      (guard.step (.markFormalSessionClosed startRequestId channel)).2
      (guard.step (.markFormalSessionClosed startRequestId channel)).1.decisive := by
  dsimp only [step, markFormalSessionClosed]
  split
  · exact .idle trivial
  · exact .closes

theorem blockPotentiallyBilledGeneration_effect (channel : Option Units) :
    Effect guard.decisive (.blockPotentiallyBilledGeneration startRequestId channel)
      (guard.step (.blockPotentiallyBilledGeneration startRequestId channel)).2
      (guard.step (.blockPotentiallyBilledGeneration startRequestId channel)).1.decisive := by
  dsimp only [step, blockPotentiallyBilledGeneration]
  split
  · exact .idle trivial
  · exact .blocks

theorem recordHostAbsent_effect (now required : Int) :
    Effect guard.decisive (.recordHostAbsent now required)
      (guard.step (.recordHostAbsent now required)).2
      (guard.step (.recordHostAbsent now required)).1.decisive := by
  dsimp only [step, recordHostAbsent]
  split
  · exact .idle trivial
  rename_i valid
  rw [not_or, not_lt, not_le] at valid
  split
  · exact .absentUnblocked
  have isBlocked : guard.decisive.blocked := by
    unfold Decisive.blocked decisive
    tauto
  split
  · exact .absentFirst isBlocked valid.1 ‹_›
  rename_i seen
  split
  · exact .idle trivial
  rename_i long
  exact .absentLong isBlocked valid.2 (not_lt.mp seen) (not_lt.mp long)

theorem shouldStopAfterNoProgress_effect (now sustained : Int) :
    Effect guard.decisive (.shouldStopAfterNoProgress now sustained)
      (guard.step (.shouldStopAfterNoProgress now sustained)).2
      (guard.step (.shouldStopAfterNoProgress now sustained)).1.decisive := by
  have same : (guard.step (.shouldStopAfterNoProgress now sustained)).1.decisive =
      guard.decisive := by
    dsimp only [step, shouldStopAfterNoProgress]
    split_ifs <;> rfl
  rw [same]
  exact .idle trivial

theorem step_effect (op : Operation) :
    Effect guard.decisive op (guard.step op).2
      (guard.step op).1.decisive := by
  cases op with
  | recordHostFrame seq => exact recordHostFrame_effect seq
  | recordAuthenticatedHostStartIntent connectionId intentToken =>
    exact recordAuthenticatedHostStartIntent_effect connectionId intentToken
  | reserveFormalStart startRequestId channel => exact reserveFormalStart_effect _ _
  | cancelUnbilledStartReservation startRequestId channel =>
    exact cancelUnbilledStartReservation_effect _ _
  | markFormalSessionOpened startRequestId channel => exact markFormalSessionOpened_effect _ _
  | markFormalSessionClosed startRequestId channel => exact markFormalSessionClosed_effect _ _
  | blockPotentiallyBilledGeneration startRequestId channel =>
    exact blockPotentiallyBilledGeneration_effect _ _
  | restoreBlocked seq mayResume => exact .restores
  | recordHostAbsent now required => exact recordHostAbsent_effect now required
  | markProgressRenewed =>
    have same : guard.markProgressRenewed.decisive = guard.decisive := by
      unfold markProgressRenewed
      split_ifs <;> rfl
    dsimp only [step]
    rw [same]
    exact .idle trivial
  | shouldStopAfterNoProgress now sustained => exact shouldStopAfterNoProgress_effect now sustained

end

end AutomaticFormalUsageSessionGuard

end VisionForge.FormalUsage
