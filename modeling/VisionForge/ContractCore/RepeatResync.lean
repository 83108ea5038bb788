import VisionForge.ContractCore.ControlCommandCoordinator
import VisionForge.Lib.Histories
import VisionForge.Lib.Run

/-! # Waiting for a fresh keyframe after a repeat

The retries are counted in a 32-bit word that only success sets back. After the budget is spent a
rebuilt session still waits, so the word can go round.
-/

namespace VisionForge.ContractCore

open Lib.Histories Lib.Run

inductive RecoveryPhase where
  | running
  | waitingFreshIdr
  | recoveryRequired
  | exhausted
  deriving DecidableEq

inductive RecoveryAction where
  | none
  | requestIdr
  | rebuildSession
  deriving DecidableEq

/-- What a policy can be constructed with: at most an hour and a thousand retries. -/
structure ResyncLimits where
  waitTimeout : Nat
  maxRetries : Nat
  timeout_pos : 0 < waitTimeout
  timeout_le : waitTimeout ≤ 3600000
  retries_pos : 0 < maxRetries
  retries_le : maxRetries ≤ 1000

structure ReceiverRepeatResyncPolicy where
  limits : ResyncLimits
  retries : Nat := 0
  phase : RecoveryPhase := .running
  deadline : Option Int := none

inductive ResyncCall where
  | onRepeat (now : Int)
  | shouldAccept (isIdr isRepeat contentUpdated : Bool) (now : Int)
  | pollAction (now : Int)
  | onSessionRebuilt (now : Int)

inductive ResyncReply where
  | done
  | accepted (accepted : Bool)
  | action (action : RecoveryAction)
  deriving DecidableEq

namespace ReceiverRepeatResyncPolicy

def new (limits : ResyncLimits) : ReceiverRepeatResyncPolicy where
  limits := limits

def wait (pol : ReceiverRepeatResyncPolicy) (now : Int) : ReceiverRepeatResyncPolicy :=
  { pol with
    phase := .waitingFreshIdr
    deadline := some (now + nanosOfMilliseconds pol.limits.waitTimeout) }

def onRepeat (pol : ReceiverRepeatResyncPolicy) (now : Int) : ReceiverRepeatResyncPolicy :=
  if pol.phase = .running then pol.wait now else pol

def updateTimeout (pol : ReceiverRepeatResyncPolicy) (now : Int) : ReceiverRepeatResyncPolicy :=
  if pol.phase = .waitingFreshIdr ∧ pol.deadline.any (· ≤ now) = true then
    { pol with phase := .recoveryRequired }
  else pol

def shouldAccept (pol : ReceiverRepeatResyncPolicy) (isIdr isRepeat contentUpdated : Bool)
    (now : Int) : ReceiverRepeatResyncPolicy × Bool :=
  let pol := pol.updateTimeout now
  if pol.phase = .running then (pol, contentUpdated && !isRepeat)
  else if pol.phase ≠ .waitingFreshIdr then (pol, false)
  else if isIdr && !isRepeat && contentUpdated then
    ({ pol with phase := .running, retries := 0, deadline := none }, true)
  else (pol, false)

def pollAction (pol : ReceiverRepeatResyncPolicy) (now : Int) :
    ReceiverRepeatResyncPolicy × RecoveryAction :=
  let pol := pol.updateTimeout now
  if pol.phase ≠ .recoveryRequired then (pol, .none)
  else
    let pol := { pol with retries := (pol.retries + 1) % 2 ^ 32 }
    if pol.retries < pol.limits.maxRetries then (pol.wait now, .requestIdr)
    else if pol.retries = pol.limits.maxRetries then (pol.wait now, .rebuildSession)
    else ({ pol with phase := .exhausted, deadline := none }, .none)

def onSessionRebuilt (pol : ReceiverRepeatResyncPolicy) (now : Int) :
    ReceiverRepeatResyncPolicy := pol.wait now

def call (pol : ReceiverRepeatResyncPolicy) :
    ResyncCall → ReceiverRepeatResyncPolicy × ResyncReply
  | .onRepeat now => (pol.onRepeat now, .done)
  | .shouldAccept isIdr isRepeat contentUpdated now =>
    ((pol.shouldAccept isIdr isRepeat contentUpdated now).1,
      .accepted (pol.shouldAccept isIdr isRepeat contentUpdated now).2)
  | .pollAction now => ((pol.pollAction now).1, .action (pol.pollAction now).2)
  | .onSessionRebuilt now => (pol.onSessionRebuilt now, .done)

def Recovers (pol : ReceiverRepeatResyncPolicy) (made : ResyncCall) : Prop :=
  pol.phase ≠ .running ∧ (pol.call made).2 = .accepted true

/-- No frame is accepted out of another phase than running in a run. -/
def Unrecovered (pol : ReceiverRepeatResyncPolicy) (calls : List ResyncCall) : Prop :=
  ∀ before made behind, calls = before ++ made :: behind →
    ¬ (exec call pol before).Recovers made

/-- The word of the retries goes round. -/
def Wraps (pol : ReceiverRepeatResyncPolicy) : ResyncCall → Prop
  | .pollAction now =>
    (pol.updateTimeout now).phase = .recoveryRequired ∧ pol.retries = 2 ^ 32 - 1
  | _ => False

/-- No poll of a run finds the word full. -/
def NeverWraps (pol : ReceiverRepeatResyncPolicy) (calls : List ResyncCall) : Prop :=
  ∀ before made behind, calls = before ++ made :: behind →
    ¬ (exec call pol before).Wraps made

def actions (pol : ReceiverRepeatResyncPolicy) (calls : List ResyncCall)
    (action : RecoveryAction) : Nat :=
  (trace call pol calls).countP (fun answered => answered.2 = .action action)

/-- The requests that the budget has paid for, and the rebuilds. -/
def requestsSpent (pol : ReceiverRepeatResyncPolicy) : Nat :=
  min pol.retries (pol.limits.maxRetries - 1)

def rebuildsSpent (pol : ReceiverRepeatResyncPolicy) : Nat :=
  if pol.limits.maxRetries ≤ pol.retries then 1 else 0

section

variable {pol : ReceiverRepeatResyncPolicy} {made : ResyncCall} {now : Int}

@[simp] theorem wait_limits : (pol.wait now).limits = pol.limits := rfl

@[simp] theorem wait_retries : (pol.wait now).retries = pol.retries := rfl

@[simp] theorem updateTimeout_limits : (pol.updateTimeout now).limits = pol.limits := by
  unfold updateTimeout
  split <;> rfl

@[simp] theorem updateTimeout_retries : (pol.updateTimeout now).retries = pol.retries := by
  unfold updateTimeout
  split <;> rfl

theorem updateTimeout_running : (pol.updateTimeout now).phase = .running ↔ pol.phase = .running := by
  unfold updateTimeout
  split
  · next late => simp [late.1]
  · rfl

theorem call_limits (pol : ReceiverRepeatResyncPolicy) (made : ResyncCall) :
    (pol.call made).1.limits = pol.limits := by
  cases made with
  | onRepeat now =>
    simp only [call, onRepeat]
    split <;> simp
  | shouldAccept isIdr isRepeat contentUpdated now =>
    simp only [call, shouldAccept]
    split_ifs <;> simp
  | pollAction now =>
    simp only [call, pollAction]
    split_ifs <;> simp
  | onSessionRebuilt now => rfl

theorem returns_by_fresh_idr (out : pol.phase ≠ .running)
    (back : (pol.call made).1.phase = .running ∨ (pol.call made).2 = .accepted true) :
    (pol.call made).1.phase = .running ∧ (pol.call made).2 = .accepted true ∧
      ∃ now, made = .shouldAccept true false true now := by
  cases made with
  | onRepeat now => simp [call, onRepeat, out] at back
  | shouldAccept isIdr isRepeat contentUpdated now =>
    have stillOut : (pol.updateTimeout now).phase ≠ .running := by
      rwa [ne_eq, updateTimeout_running]
    simp only [call, shouldAccept, stillOut, if_false] at back ⊢
    split_ifs at back ⊢ with late fresh
    · simp [stillOut] at back
    · simp only [Bool.and_eq_true, Bool.not_eq_true'] at fresh
      obtain ⟨⟨rfl, rfl⟩, rfl⟩ := fresh
      exact ⟨rfl, rfl, now, rfl⟩
    · simp [stillOut] at back
  | pollAction now =>
    have stillOut : (pol.updateTimeout now).phase ≠ .running := by
      rwa [ne_eq, updateTimeout_running]
    simp only [call, pollAction] at back
    split_ifs at back <;> simp [wait, stillOut] at back
  | onSessionRebuilt now => simp [call, onSessionRebuilt, wait] at back

def actionFor (limits : ResyncLimits) (retries : Nat) : RecoveryAction :=
  if retries < limits.maxRetries then .requestIdr
  else if retries = limits.maxRetries then .rebuildSession
  else .none

theorem poll_required (required : (pol.updateTimeout now).phase = .recoveryRequired) :
    (pol.pollAction now).1.retries = (pol.retries + 1) % 2 ^ 32 ∧
      (pol.pollAction now).2 = actionFor pol.limits ((pol.retries + 1) % 2 ^ 32) := by
  simp only [pollAction, required, ne_eq, not_true_eq_false, if_false, actionFor,
    updateTimeout_retries, updateTimeout_limits]
  split_ifs <;> exact ⟨rfl, rfl⟩

/-- A call counts a retry, or leaves the count alone and asks for nothing. -/
theorem call_cases (still : ¬ pol.Recovers made) :
    (∃ now, made = .pollAction now ∧ (pol.updateTimeout now).phase = .recoveryRequired) ∨
      (pol.call made).1.retries = pol.retries ∧
        ∀ action, (pol.call made).2 = .action action → action = .none := by
  cases made with
  | onRepeat now =>
    right
    simp only [call, onRepeat]
    split <;> simp
  | shouldAccept isIdr isRepeat contentUpdated now =>
    right
    refine ⟨?_, by simp [call]⟩
    simp only [call, shouldAccept]
    split_ifs with running late fresh
    · simp
    · simp
    · exfalso
      rw [updateTimeout_running] at running
      apply still ⟨running, _⟩
      simp only [call, shouldAccept, updateTimeout_running, running, late, fresh, if_false, if_true]
    · simp
  | pollAction now =>
    by_cases required : (pol.updateTimeout now).phase = .recoveryRequired
    · exact .inl ⟨now, rfl, required⟩
    · simp [call, pollAction, required]
  | onSessionRebuilt now => simp [call, onSessionRebuilt]

theorem call_spends (still : ¬ pol.Recovers made) (small : ¬ pol.Wraps made)
    (fits : pol.retries < 2 ^ 32) :
    (pol.call made).1.retries < 2 ^ 32 ∧
      pol.actions [made] .requestIdr + pol.requestsSpent =
        (pol.call made).1.requestsSpent ∧
      pol.actions [made] .rebuildSession + pol.rebuildsSpent =
        (pol.call made).1.rebuildsSpent := by
  simp only [requestsSpent, rebuildsSpent, actions, trace_cons, trace_nil, List.countP_cons,
    List.countP_nil, zero_add, decide_eq_true_eq, call_limits]
  rcases call_cases still with ⟨now, rfl, required⟩ | ⟨same, nothing⟩
  · obtain ⟨counted, ans⟩ := poll_required required
    have unfilled : pol.retries ≠ 2 ^ 32 - 1 := fun full => small ⟨required, full⟩
    simp only [call, counted, ans, actionFor]
    refine ⟨by omega, ?_, ?_⟩
    · split_ifs <;> simp_all <;> omega
    · split_ifs <;> simp_all <;> omega
  · rw [same, if_neg (fun asked => by cases nothing _ asked),
      if_neg (fun asked => by cases nothing _ asked), zero_add, zero_add]
    exact ⟨fits, rfl, rfl⟩

end

theorem exec_limits (pol : ReceiverRepeatResyncPolicy) (calls : List ResyncCall) :
    (exec call pol calls).limits = pol.limits := by
  induction calls generalizing pol with
  | nil => rfl
  | cons made calls ih => rw [exec_cons, ih, call_limits]

theorem actions_cons (pol : ReceiverRepeatResyncPolicy) (made : ResyncCall)
    (calls : List ResyncCall) (action : RecoveryAction) :
    pol.actions (made :: calls) action =
      (pol.call made).1.actions calls action + pol.actions [made] action := by
  simp only [actions, trace_cons, trace_nil, List.countP_cons, List.countP_nil, zero_add]

theorem run_spends {pol : ReceiverRepeatResyncPolicy} {calls : List ResyncCall}
    (still : pol.Unrecovered calls) (small : pol.NeverWraps calls)
    (fits : pol.retries < 2 ^ 32) :
    (exec call pol calls).retries < 2 ^ 32 ∧
      pol.actions calls .requestIdr + pol.requestsSpent =
        (exec call pol calls).requestsSpent ∧
      pol.actions calls .rebuildSession + pol.rebuildsSpent =
        (exec call pol calls).rebuildsSpent := by
  induction calls generalizing pol with
  | nil => exact ⟨fits, by simp [actions], by simp [actions]⟩
  | cons made calls ih =>
    obtain ⟨stays, still⟩ := each_cons.mp still
    obtain ⟨fit, small⟩ := each_cons.mp small
    have first := call_spends stays fit fits
    simp only [exec_nil] at first
    have rest := @ih (pol.call made).1 still small first.1
    rw [exec_cons, actions_cons _ _ _ .requestIdr, actions_cons _ _ _ .rebuildSession]
    omega

theorem retries_lt {pol : ReceiverRepeatResyncPolicy} (fits : pol.retries < 2 ^ 32)
    (calls : List ResyncCall) : (exec call pol calls).retries < 2 ^ 32 := by
  refine exec_invariant call (P := fun pol => pol.retries < 2 ^ 32) fits ?_ calls
  intro pol made fits
  by_cases recovers : pol.Recovers made
  · obtain ⟨-, -, now, rfl⟩ := returns_by_fresh_idr recovers.1 (.inr recovers.2)
    simp only [call, shouldAccept]
    split_ifs <;> simp <;> omega
  · rcases call_cases recovers with ⟨now, rfl, required⟩ | ⟨same, -⟩
    · simp only [call, (poll_required required).1]
      exact Nat.mod_lt _ (by decide)
    · rwa [same]

/-- Recovery is bounded while the word does not go round, and only a fresh keyframe ends it. -/
theorem resync_is_bounded (limits : ResyncLimits) {before calls : List ResyncCall}
    (small : (exec call (new limits) before).NeverWraps calls) :
    let pol := exec call (new limits) before
    (pol.Unrecovered calls →
      pol.actions calls .requestIdr ≤ limits.maxRetries - 1 ∧
        pol.actions calls .rebuildSession ≤ 1) ∧
    ∀ made, pol.phase ≠ .running →
      (pol.call made).1.phase = .running ∨ (pol.call made).2 = .accepted true →
      (pol.call made).2 = .accepted true ∧ ∃ now, made = .shouldAccept true false true now := by
  intro pol
  have isLimits : (exec call pol calls).limits = limits := by
    rw [exec_limits, exec_limits]
    rfl
  constructor
  · intro still
    have fits : pol.retries < 2 ^ 32 := retries_lt (by simp [new]) before
    obtain ⟨-, requests, rebuilds⟩ := run_spends still small fits
    have most : (exec call pol calls).requestsSpent ≤ limits.maxRetries - 1 := by
      rw [requestsSpent, isLimits]
      exact min_le_right _ _
    have once : (exec call pol calls).rebuildsSpent ≤ 1 := by
      unfold rebuildsSpent
      split <;> omega
    omega
  · intro made out back
    exact (returns_by_fresh_idr out back).2

/-- The shortest wait and the smallest budget. -/
def smallestResyncLimits : ResyncLimits where
  waitTimeout := 1
  maxRetries := 1
  timeout_pos := by decide
  timeout_le := by decide
  retries_pos := by decide
  retries_le := by decide

/-- A session is rebuilt and no keyframe comes in time. -/
def rebuildCycle (start : Int) : List ResyncCall :=
  [.onSessionRebuilt start, .pollAction (start + nanosOfMilliseconds 1)]

/-- The session is rebuilt again and again, once each millisecond. -/
def rebuildCycles : Nat → List ResyncCall
  | 0 => []
  | cycles + 1 => rebuildCycles cycles ++ rebuildCycle (nanosOfMilliseconds cycles)

section

variable {pol : ReceiverRepeatResyncPolicy}

theorem actions_append (first snd : List ResyncCall) (action : RecoveryAction) :
    pol.actions (first ++ snd) action =
      pol.actions first action + (exec call pol first).actions snd action := by
  simp only [actions, trace_append, List.countP_append]

theorem wait_required (start : Int) :
    ((pol.wait start).updateTimeout
      (start + nanosOfMilliseconds pol.limits.waitTimeout)).phase = .recoveryRequired := by
  simp [updateTimeout, wait]

theorem cycle_counts (small : pol.limits = smallestResyncLimits) (start : Int) :
    (exec call pol (rebuildCycle start)).retries = (pol.retries + 1) % 2 ^ 32 ∧
      ((pol.retries + 1) % 2 ^ 32 = 1 →
        pol.actions (rebuildCycle start) .rebuildSession = 1) := by
  have required := @wait_required pol start
  have waits : (pol.limits.waitTimeout : Int) = 1 := by rw [small]; rfl
  have tries : pol.limits.maxRetries = 1 := by rw [small]; rfl
  rw [waits] at required
  obtain ⟨counted, ans⟩ := poll_required required
  rw [wait_retries] at counted ans
  constructor
  · simp only [rebuildCycle, exec_cons, exec_nil, call, onSessionRebuilt, counted]
  · intro again
    rw [again] at ans
    simp only [actionFor, wait_limits, tries, lt_irrefl, if_false, if_true] at ans
    simp [actions, rebuildCycle, call, onSessionRebuilt, ans]

theorem cycles_count (small : pol.limits = smallestResyncLimits)
    (fits : pol.retries < 2 ^ 32) (cycles : Nat) :
    (exec call pol (rebuildCycles cycles)).retries = (pol.retries + cycles) % 2 ^ 32 := by
  induction cycles with
  | zero => rw [rebuildCycles, exec_nil, Nat.add_zero, Nat.mod_eq_of_lt fits]
  | succ cycles ih =>
    rw [rebuildCycles, exec_append, (cycle_counts (by rw [exec_limits, small]) _).1, ih]
    omega

theorem cycles_unrecovered (cycles : Nat) : pol.Unrecovered (rebuildCycles cycles) := by
  have plain : ∀ made ∈ rebuildCycles cycles, ∀ pol, ¬ Recovers pol made := by
    induction cycles with
    | zero => simp [rebuildCycles]
    | succ cycles ih =>
      intro made mem
      rcases List.mem_append.mp mem with old | last
      · exact ih made old
      · simp only [rebuildCycle, List.mem_cons, List.not_mem_nil, or_false] at last
        rcases last with rfl | rfl <;> simp [Recovers, call]
  intro pre made behind split
  exact plain made (by simp [split]) _

theorem cycle_rebuilds (small : pol.limits = smallestResyncLimits)
    (unspent : pol.retries = 0) {cycles : Nat} (round : cycles % 2 ^ 32 = 0) :
    pol.actions (rebuildCycles (cycles + 1)) .rebuildSession =
      pol.actions (rebuildCycles cycles) .rebuildSession + 1 := by
  have counted := cycles_count small (by omega) cycles
  have last := (@cycle_counts (exec call pol (rebuildCycles cycles))
    (by rw [exec_limits, small]) (nanosOfMilliseconds cycles)).2
  rw [counted, unspent, zero_add, round] at last
  rw [rebuildCycles, actions_append, last (Nat.mod_eq_of_lt (by omega))]

/-- A session that has been told to be rebuilt is told so again when the word has gone round. -/
theorem rebuilds_again (small : pol.limits = smallestResyncLimits) (unspent : pol.retries = 0)
    {cycles : Nat} (round : cycles % 2 ^ 32 = 0) (pos : 0 < cycles) :
    1 < pol.actions (rebuildCycles (cycles + 1)) .rebuildSession := by
  have once (more : Nat) : 1 ≤ pol.actions (rebuildCycles (more + 1)) .rebuildSession := by
    induction more with
    | zero => rw [cycle_rebuilds small unspent rfl]; exact Nat.le_add_left _ _
    | succ more ih =>
      rw [rebuildCycles, actions_append]
      exact ih.trans (Nat.le_add_right _ _)
  have pre := once (cycles - 1)
  rw [Nat.sub_add_cancel pos] at pre
  rw [cycle_rebuilds small unspent round]
  omega

end

/-- After 2 ^ 32 rebuilt sessions without a keyframe the session is to be rebuilt once more. -/
theorem retries_go_round :
    (exec call (new smallestResyncLimits) [.onRepeat 0]).Unrecovered
        (rebuildCycles (UInt32.size + 1)) ∧
      1 < (exec call (new smallestResyncLimits) [.onRepeat 0]).actions
        (rebuildCycles (UInt32.size + 1)) .rebuildSession := by
  have small : (exec call (new smallestResyncLimits) [.onRepeat 0]).limits = smallestResyncLimits :=
    exec_limits _ _
  have unspent : (exec call (new smallestResyncLimits) [.onRepeat 0]).retries = 0 := rfl
  have round : UInt32.size % 2 ^ 32 = 0 := by simp
  exact ⟨cycles_unrecovered _, rebuilds_again small unspent round (by simp)⟩

instance (pol : ReceiverRepeatResyncPolicy) (made : ResyncCall) :
    Decidable (pol.Recovers made) := inferInstanceAs (Decidable (_ ∧ _))

instance (pol : ReceiverRepeatResyncPolicy) (made : ResyncCall) :
    Decidable (pol.Wraps made) :=
  match made with
  | .pollAction _ => inferInstanceAs (Decidable (_ ∧ _))
  | .onRepeat _ | .shouldAccept .. | .onSessionRebuilt _ => inferInstanceAs (Decidable False)

/-- One request and one rebuild. -/
def twoRetries : ResyncLimits :=
  { smallestResyncLimits with maxRetries := 2, retries_pos := by decide, retries_le := by decide }

/-- Both waits of the budget time out, a repeated keyframe is refused between them, and the session
    is rebuilt. -/
def missedKeyframes : List ResyncCall :=
  [.pollAction (nanosOfMilliseconds 1), .shouldAccept true true true (nanosOfMilliseconds 1),
    .pollAction (nanosOfMilliseconds 2), .onSessionRebuilt (nanosOfMilliseconds 2)]

theorem missedKeyframes_spend :
    let pol := exec call (new twoRetries) [.onRepeat 0]
    pol.NeverWraps missedKeyframes ∧ pol.Unrecovered missedKeyframes ∧
      pol.actions missedKeyframes .requestIdr = 1 ∧
      pol.actions missedKeyframes .rebuildSession = 1 := by
  refine ⟨?_, ?_, by decide, by decide⟩
  · simp only [NeverWraps, missedKeyframes]
    change Each _ _
    simp only [each_cons, each_nil, and_true]
    decide
  · simp only [Unrecovered, missedKeyframes]
    change Each _ _
    simp only [each_cons, each_nil, and_true]
    decide

/-- The budget is spent, and a fresh keyframe is accepted after all. -/
theorem waiting_is_bounded :
    let pol := exec call (new twoRetries) [.onRepeat 0]
    (pol.actions missedKeyframes .requestIdr = 1 ∧
        pol.actions missedKeyframes .requestIdr ≤ 2 - 1) ∧
      (pol.actions missedKeyframes .rebuildSession = 1 ∧
        pol.actions missedKeyframes .rebuildSession ≤ 1) ∧
      ((exec call (new twoRetries) (.onRepeat 0 :: missedKeyframes)).call
        (.shouldAccept true false true 2000000)).2 = .accepted true := by
  obtain ⟨small, still, requests, rebuilds⟩ := missedKeyframes_spend
  obtain ⟨bounds, -⟩ := @resync_is_bounded twoRetries [.onRepeat 0] missedKeyframes small
  have empty : (exec call (new twoRetries) (.onRepeat 0 :: missedKeyframes)).NeverWraps [] := by
    simp [NeverWraps]
  have fresh := (resync_is_bounded twoRetries empty).2 (.shouldAccept true false true 2000000)
    (by decide) (.inr (by decide))
  exact ⟨⟨requests, (bounds still).1⟩, ⟨rebuilds, (bounds still).2⟩, fresh.1⟩

end ReceiverRepeatResyncPolicy

end VisionForge.ContractCore
