import VisionForge.Lib.Run
import VisionForge.Video.Protocol

/-! # The epochs of a receiver

A new epoch is a candidate until it is committed. Two receivers keep the same three
epochs, each with code of its own; what is retired is one bound that only grows.
-/

namespace VisionForge.Video

/-- What either receiver is asked. -/
inductive EpochEvent where
  | observe (streamEpoch : Nat)
  | commitCandidate (streamEpoch : Nat)
  | rejectCandidate (streamEpoch : Nat)

inductive VideoEpochObservation where
  | invalid
  | active
  | candidate
  | candidateReplaced
  | retired
  deriving DecidableEq

structure VideoEpochCoordinator where
  activeEpoch : Option Nat := none
  candidateEpoch : Option Nat := none
  retiredThrough : Option Nat := none
  retirementAdvances : Nat := 0

namespace VideoEpochCoordinator

def isRetired (coord : VideoEpochCoordinator) (streamEpoch : Nat) : Bool :=
  match coord.retiredThrough with
  | none => false
  | some retired => decide (streamEpoch ≤ retired)

def retire (coord : VideoEpochCoordinator) (streamEpoch : Nat) : VideoEpochCoordinator :=
  if !validVideoStreamEpoch streamEpoch then coord
  else if coord.retiredThrough.all (fun retired => decide (retired < streamEpoch)) then
    { coord with
      retiredThrough := some streamEpoch
      retirementAdvances := coord.retirementAdvances + 1 }
  else coord

def observe (coord : VideoEpochCoordinator) (streamEpoch : Nat) :
    VideoEpochCoordinator × VideoEpochObservation :=
  if !validVideoStreamEpoch streamEpoch then (coord, .invalid)
  else if coord.activeEpoch = some streamEpoch then (coord, .active)
  else if coord.isRetired streamEpoch then (coord, .retired)
  else
    match coord.candidateEpoch with
    | some candidate =>
      if candidate = streamEpoch then (coord, .candidate)
      else if streamEpoch < candidate then (coord, .retired)
      else
        ({ coord.retire candidate with candidateEpoch := some streamEpoch }, .candidateReplaced)
    | none =>
      if coord.activeEpoch.any (fun active => decide (streamEpoch < active)) then
        (coord, .retired)
      else
        let coord :=
          if coord.activeEpoch.isNone && decide (1 < streamEpoch) then
            coord.retire (streamEpoch - 1)
          else coord
        ({ coord with candidateEpoch := some streamEpoch }, .candidate)

def commitCandidate (coord : VideoEpochCoordinator) (streamEpoch : Nat) :
    VideoEpochCoordinator × Bool :=
  if coord.candidateEpoch ≠ some streamEpoch ∨ coord.isRetired streamEpoch = true ∨
      coord.activeEpoch.any (fun active => decide (streamEpoch ≤ active)) = true then
    (coord, false)
  else
    let coord :=
      match coord.activeEpoch with
      | some active => coord.retire active
      | none => coord
    ({ coord with activeEpoch := some streamEpoch, candidateEpoch := none }, true)

def rejectCandidate (coord : VideoEpochCoordinator) (streamEpoch : Nat) :
    VideoEpochCoordinator :=
  if coord.candidateEpoch = some streamEpoch then
    { coord.retire streamEpoch with candidateEpoch := none }
  else coord

end VideoEpochCoordinator

inductive CoordinatorAnswer where
  | observed (observation : VideoEpochObservation)
  | committed (accepted : Bool)
  | rejected

def coordinatorStep (coord : VideoEpochCoordinator) :
    EpochEvent → VideoEpochCoordinator × CoordinatorAnswer
  | .observe streamEpoch =>
    let (coord, observation) := coord.observe streamEpoch
    (coord, .observed observation)
  | .commitCandidate streamEpoch =>
    let (coord, accepted) := coord.commitCandidate streamEpoch
    (coord, .committed accepted)
  | .rejectCandidate streamEpoch => (coord.rejectCandidate streamEpoch, .rejected)

inductive ReceiverEpochDecision where
  | active
  | candidate
  | retired
  | invalid
  deriving DecidableEq

structure ReceiverEpochSession where
  activeEpoch : Option Nat := none
  candidateEpoch : Option Nat := none
  retiredThrough : Option Nat := none

namespace ReceiverEpochSession

variable (sess : ReceiverEpochSession)

def isRetired (streamEpoch : Nat) : Bool :=
  match sess.retiredThrough with
  | none => false
  | some retired => decide (streamEpoch ≤ retired)

def retireThrough (streamEpoch : Nat) : ReceiverEpochSession :=
  if !validVideoStreamEpoch streamEpoch then sess
  else if sess.retiredThrough.all (fun retired => decide (retired < streamEpoch)) then
    { sess with retiredThrough := some streamEpoch }
  else sess

def becomeCandidate (streamEpoch : Nat) : ReceiverEpochSession × ReceiverEpochDecision :=
  ({ sess with candidateEpoch := some streamEpoch }, .candidate)

def observe (streamEpoch : Nat) : ReceiverEpochSession × ReceiverEpochDecision :=
  if !validVideoStreamEpoch streamEpoch then (sess, .invalid)
  else if sess.activeEpoch = some streamEpoch then (sess, .active)
  else if sess.isRetired streamEpoch then (sess, .retired)
  else
    match sess.candidateEpoch, sess.activeEpoch with
    | some candidate, _ =>
      if candidate = streamEpoch then (sess, .candidate)
      else if streamEpoch < candidate then (sess, .retired)
      else (sess.retireThrough candidate).becomeCandidate streamEpoch
    | none, some active =>
      if streamEpoch < active then (sess, .retired)
      else sess.becomeCandidate streamEpoch
    | none, none =>
      if 1 < streamEpoch then
        (sess.retireThrough (streamEpoch - 1)).becomeCandidate streamEpoch
      else sess.becomeCandidate streamEpoch

def commitCandidate (streamEpoch : Nat) (completeRealIdr : Bool) : ReceiverEpochSession × Bool :=
  if completeRealIdr = false ∨ sess.candidateEpoch ≠ some streamEpoch ∨
      sess.isRetired streamEpoch = true ∨
      sess.activeEpoch.any (fun active => decide (streamEpoch ≤ active)) = true then
    (sess, false)
  else
    let sess :=
      match sess.activeEpoch with
      | some active => sess.retireThrough active
      | none => sess
    ({ sess with activeEpoch := some streamEpoch, candidateEpoch := none }, true)

def rejectCandidate (streamEpoch : Nat) : ReceiverEpochSession :=
  if sess.candidateEpoch = some streamEpoch then
    { sess.retireThrough streamEpoch with candidateEpoch := none }
  else sess

end ReceiverEpochSession

inductive SessionAnswer where
  | observed (decision : ReceiverEpochDecision)
  | committed (accepted : Bool)
  | rejected

/-- The session with every commit after a complete real IDR. -/
def sessionStep (sess : ReceiverEpochSession) :
    EpochEvent → ReceiverEpochSession × SessionAnswer
  | .observe streamEpoch =>
    let (sess, decision) := sess.observe streamEpoch
    (sess, .observed decision)
  | .commitCandidate streamEpoch =>
    let (sess, accepted) := sess.commitCandidate streamEpoch true
    (sess, .committed accepted)
  | .rejectCandidate streamEpoch => (sess.rejectCandidate streamEpoch, .rejected)

/-- What the session keeps of a coordinator. -/
def VideoEpochCoordinator.session (coord : VideoEpochCoordinator) : ReceiverEpochSession where
  activeEpoch := coord.activeEpoch
  candidateEpoch := coord.candidateEpoch
  retiredThrough := coord.retiredThrough

/-- The session does not tell a replaced candidate from a first one. -/
def VideoEpochObservation.decision : VideoEpochObservation → ReceiverEpochDecision
  | .invalid => .invalid
  | .active => .active
  | .candidate => .candidate
  | .candidateReplaced => .candidate
  | .retired => .retired

def CoordinatorAnswer.session : CoordinatorAnswer → SessionAnswer
  | .observed observation => .observed observation.decision
  | .committed accepted => .committed accepted
  | .rejected => .rejected

section

variable (coord : VideoEpochCoordinator) (streamEpoch : Nat)

@[simp] theorem session_activeEpoch :
    coord.session.activeEpoch = coord.activeEpoch := rfl

@[simp] theorem session_candidateEpoch :
    coord.session.candidateEpoch = coord.candidateEpoch := rfl

@[simp] theorem session_isRetired :
    coord.session.isRetired streamEpoch = coord.isRetired streamEpoch := rfl

theorem session_retire :
    (coord.retire streamEpoch).session = coord.session.retireThrough streamEpoch := by
  unfold VideoEpochCoordinator.retire ReceiverEpochSession.retireThrough
  split
  · rfl
  by_cases grows : coord.retiredThrough.all (fun retired => decide (retired < streamEpoch))
  · rw [if_pos grows, if_pos (show coord.session.retiredThrough.all _ = true from grows)]
    rfl
  · rw [if_neg grows, if_neg (show ¬ coord.session.retiredThrough.all _ = true from grows)]

theorem session_retire_candidate (retired : Nat) (cand : Option Nat) :
    ({ coord.retire retired with candidateEpoch := cand }).session =
      { coord.session.retireThrough retired with candidateEpoch := cand } := by
  rw [← session_retire]
  rfl

theorem session_observe :
    coord.session.observe streamEpoch =
      ((coord.observe streamEpoch).1.session, (coord.observe streamEpoch).2.decision) := by
  unfold ReceiverEpochSession.observe VideoEpochCoordinator.observe
  simp only [session_activeEpoch, session_candidateEpoch, session_isRetired]
  split
  · rfl
  by_cases hact : coord.activeEpoch = some streamEpoch
  · simp only [hact, if_true, VideoEpochObservation.decision]
  by_cases retired : coord.isRetired streamEpoch = true
  · simp only [hact, retired, if_true, if_false, VideoEpochObservation.decision]
  simp only [hact, retired, Bool.false_eq_true, if_false]
  cases cand : coord.candidateEpoch with
  | some cur =>
    dsimp only
    split
    · rfl
    split
    · rfl
    · exact Prod.ext (session_retire_candidate coord cur _).symm rfl
  | none =>
    cases on : coord.activeEpoch with
    | some cur =>
      simp only [Option.any_some, decide_eq_true_eq, Option.isNone_some, Bool.false_and,
        Bool.false_eq_true, if_false]
      split <;> rfl
    | none =>
      simp only [Option.any_none, Bool.false_eq_true, if_false, Option.isNone_none,
        Bool.true_and, decide_eq_true_eq]
      split
      · exact Prod.ext (session_retire_candidate coord _ _).symm rfl
      · rfl

theorem session_commitCandidate :
    coord.session.commitCandidate streamEpoch true =
      ((coord.commitCandidate streamEpoch).1.session, (coord.commitCandidate streamEpoch).2) := by
  unfold ReceiverEpochSession.commitCandidate VideoEpochCoordinator.commitCandidate
  simp only [session_activeEpoch, session_candidateEpoch, session_isRetired,
    Bool.true_eq_false, false_or]
  by_cases refused : coord.candidateEpoch ≠ some streamEpoch ∨
      coord.isRetired streamEpoch = true ∨
      coord.activeEpoch.any (fun on => decide (streamEpoch ≤ on)) = true
  · simp only [refused, if_true]
  · simp only [refused, if_false]
    cases on : coord.activeEpoch with
    | none => rfl
    | some cur =>
      simp only [← session_retire]
      rfl

theorem session_rejectCandidate :
    coord.session.rejectCandidate streamEpoch = (coord.rejectCandidate streamEpoch).session := by
  unfold ReceiverEpochSession.rejectCandidate VideoEpochCoordinator.rejectCandidate
  simp only [session_candidateEpoch]
  by_cases isCandidate : coord.candidateEpoch = some streamEpoch
  · simp only [isCandidate, if_true, session_retire_candidate]
  · simp only [isCandidate, if_false]

end

theorem sessionStep_eq (coord : VideoEpochCoordinator) (event : EpochEvent) :
    sessionStep coord.session event =
      ((coordinatorStep coord event).1.session, (coordinatorStep coord event).2.session) := by
  cases event with
  | observe streamEpoch => simp only [sessionStep, coordinatorStep, session_observe,
      CoordinatorAnswer.session]
  | commitCandidate streamEpoch => simp only [sessionStep, coordinatorStep,
      session_commitCandidate, CoordinatorAnswer.session]
  | rejectCandidate streamEpoch => simp only [sessionStep, coordinatorStep,
      session_rejectCandidate, CoordinatorAnswer.session]

/-- Through any events, from empty: the same three epochs, and the same answers. -/
theorem receiver_epoch_machines_agree (events : List EpochEvent) :
    (Lib.Run.exec sessionStep {} events = (Lib.Run.exec coordinatorStep {} events).session) ∧
      (Lib.Run.trace coordinatorStep {} events).map
          (fun answered => (answered.1, answered.2.session)) =
        Lib.Run.trace sessionStep {} events := by
  have keeps : ∀ coord sess event, sess = VideoEpochCoordinator.session coord →
      (sessionStep sess event).1 = (coordinatorStep coord event).1.session ∧
        (coordinatorStep coord event).2.session = (sessionStep sess event).2 := by
    intro coord sess event same
    rw [same, sessionStep_eq]
    exact ⟨rfl, rfl⟩
  have init : ({} : ReceiverEpochSession) = VideoEpochCoordinator.session {} := rfl
  exact Lib.Run.simulation (R := fun coord sess =>
    sess = VideoEpochCoordinator.session coord) CoordinatorAnswer.session keeps init events

namespace VideoEpochCoordinator

/-- The candidate is ahead of the active and of every retired epoch. -/
structure CandidateAhead (coord : VideoEpochCoordinator) : Prop where
  active : ∀ candidate active, coord.candidateEpoch = some candidate →
    coord.activeEpoch = some active → active < candidate
  retired : ∀ candidate bound, coord.candidateEpoch = some candidate →
    coord.retiredThrough = some bound → bound < candidate

/-- Only valid epochs are kept. -/
structure Orderly (coord : VideoEpochCoordinator) : Prop
    extends CandidateAhead coord where
  validCandidate : ∀ candidate, coord.candidateEpoch = some candidate →
    validVideoStreamEpoch candidate = true
  validActive : ∀ active, coord.activeEpoch = some active →
    validVideoStreamEpoch active = true

/-- Nothing is taken back. -/
structure Advances (before after : VideoEpochCoordinator) : Prop where
  active : ∀ epoch, before.activeEpoch = some epoch →
    ∃ later, after.activeEpoch = some later ∧ epoch ≤ later
  retired : ∀ bound, before.retiredThrough = some bound →
    ∃ later, after.retiredThrough = some later ∧ bound ≤ later

/-- An epoch that is in neither place, with an epoch at or past it in one of the three. -/
structure Passed (coord : VideoEpochCoordinator) (streamEpoch : Nat) : Prop where
  notActive : coord.activeEpoch ≠ some streamEpoch
  notCandidate : coord.candidateEpoch ≠ some streamEpoch
  reached : ∃ bound, streamEpoch ≤ bound ∧ (coord.activeEpoch = some bound ∨
    coord.candidateEpoch = some bound ∨ coord.retiredThrough = some bound)

theorem Advances.refl (coord : VideoEpochCoordinator) : Advances coord coord :=
  ⟨fun epoch h => ⟨epoch, h, le_rfl⟩, fun bound h => ⟨bound, h, le_rfl⟩⟩

theorem Advances.trans {first snd third : VideoEpochCoordinator} (h : Advances first snd)
    (k : Advances snd third) : Advances first third := by
  constructor
  · intro epoch hact
    obtain ⟨middle, isMiddle, le⟩ := h.active epoch hact
    obtain ⟨later, isLater, le'⟩ := k.active middle isMiddle
    exact ⟨later, isLater, le.trans le'⟩
  · intro bound isBound
    obtain ⟨middle, isMiddle, le⟩ := h.retired bound isBound
    obtain ⟨later, isLater, le'⟩ := k.retired middle isMiddle
    exact ⟨later, isLater, le.trans le'⟩

/-- What retiring leaves as the bound. -/
inductive Retires (before : VideoEpochCoordinator) (streamEpoch : Nat) :
    VideoEpochCoordinator → Prop
  | invalid (h : validVideoStreamEpoch streamEpoch = false) : Retires before streamEpoch before
  | kept {bound : Nat} (h : before.retiredThrough = some bound) (le : streamEpoch ≤ bound) :
      Retires before streamEpoch before
  | raised (h : ∀ bound, before.retiredThrough = some bound → bound < streamEpoch) :
      Retires before streamEpoch
        { before with
          retiredThrough := some streamEpoch
          retirementAdvances := before.retirementAdvances + 1 }

theorem retire_retires (coord : VideoEpochCoordinator) (streamEpoch : Nat) :
    Retires coord streamEpoch (coord.retire streamEpoch) := by
  unfold retire
  split
  · rename_i invalid
    exact .invalid (by simpa using invalid)
  cases retired : coord.retiredThrough with
  | none =>
    exact .raised (fun bound isBound => by rw [retired] at isBound; cases isBound)
  | some bound =>
    simp only [Option.all_some, decide_eq_true_eq]
    split
    · rename_i less
      refine .raised (fun other isOther => ?_)
      rw [retired] at isOther
      cases isOther
      exact less
    · rename_i notLess
      exact .kept retired (Nat.not_lt.mp notLess)

namespace Retires

variable {before after : VideoEpochCoordinator} {streamEpoch : Nat}

theorem activeEpoch (h : Retires before streamEpoch after) :
    after.activeEpoch = before.activeEpoch := by
  cases h <;> rfl

theorem reaches (h : Retires before streamEpoch after)
    (valid : validVideoStreamEpoch streamEpoch = true) :
    ∃ bound, after.retiredThrough = some bound ∧ streamEpoch ≤ bound := by
  cases h with
  | invalid invalid =>
    rw [valid] at invalid
    cases invalid
  | kept h le => exact ⟨_, h, le⟩
  | raised h => exact ⟨_, rfl, le_rfl⟩

theorem mono (h : Retires before streamEpoch after) {bound : Nat}
    (isBound : before.retiredThrough = some bound) :
    ∃ later, after.retiredThrough = some later ∧ bound ≤ later := by
  cases h with
  | invalid _ => exact ⟨bound, isBound, le_rfl⟩
  | kept _ _ => exact ⟨bound, isBound, le_rfl⟩
  | raised h => exact ⟨streamEpoch, rfl, (h bound isBound).le⟩

theorem below (h : Retires before streamEpoch after) {limit : Nat} (less : streamEpoch < limit)
    (old : ∀ bound, before.retiredThrough = some bound → bound < limit) (bound : Nat)
    (isBound : after.retiredThrough = some bound) : bound < limit := by
  cases h with
  | invalid _ => exact old bound isBound
  | kept _ _ => exact old bound isBound
  | raised _ =>
    cases isBound
    exact less

end Retires

inductive Moves (before : VideoEpochCoordinator) : VideoEpochCoordinator → Prop
  | stays : Moves before before
  | proposed {streamEpoch : Nat} {after : VideoEpochCoordinator}
      (valid : validVideoStreamEpoch streamEpoch = true)
      (newer : ∀ active, before.activeEpoch = some active → active < streamEpoch)
      (replaces : ∀ candidate, before.candidateEpoch = some candidate → candidate < streamEpoch ∧
        ∃ bound, after.retiredThrough = some bound ∧ candidate ≤ bound)
      (active : after.activeEpoch = before.activeEpoch)
      (candidate : after.candidateEpoch = some streamEpoch)
      (grows : ∀ bound, before.retiredThrough = some bound →
        bound < streamEpoch ∧ ∃ later, after.retiredThrough = some later ∧ bound ≤ later)
      (fresh : ∀ bound, after.retiredThrough = some bound → bound < streamEpoch) :
      Moves before after
  | rejected {candidate bound : Nat} {after : VideoEpochCoordinator}
      (isCandidate : before.candidateEpoch = some candidate)
      (active : after.activeEpoch = before.activeEpoch) (free : after.candidateEpoch = none)
      (retired : after.retiredThrough = some bound) (le : candidate ≤ bound)
      (grows : ∀ old, before.retiredThrough = some old → old ≤ bound) :
      Moves before after
  | committed {candidate : Nat} {after : VideoEpochCoordinator}
      (isCandidate : before.candidateEpoch = some candidate)
      (newer : ∀ active, before.activeEpoch = some active → active < candidate ∧
        ∃ bound, after.retiredThrough = some bound ∧ active ≤ bound)
      (active : after.activeEpoch = some candidate) (free : after.candidateEpoch = none)
      (grows : ∀ old, before.retiredThrough = some old →
        ∃ later, after.retiredThrough = some later ∧ old ≤ later) :
      Moves before after

section

variable {coord before after : VideoEpochCoordinator} {streamEpoch : Nat}

theorem observe_moves (h : coord.Orderly) (streamEpoch : Nat) :
    Moves coord (coord.observe streamEpoch).1 := by
  unfold observe
  split
  · exact .stays
  rename_i valid
  simp only [Bool.not_eq_true', Bool.not_eq_false] at valid
  split
  · exact .stays
  rename_i notActive
  split
  · exact .stays
  rename_i notRetired
  have fresh : ∀ bound, coord.retiredThrough = some bound → bound < streamEpoch := by
    intro bound isBound
    simpa [isRetired, isBound] using notRetired
  cases isCandidate : coord.candidateEpoch with
  | some cand =>
    dsimp only
    split
    · exact .stays
    split
    · exact .stays
    have newer : cand < streamEpoch := by omega
    have retires := coord.retire_retires cand
    refine .proposed valid ?_ ?_ retires.activeEpoch rfl ?_ (retires.below newer fresh)
    · intro on hact
      exact (h.active cand on isCandidate hact).trans newer
    · intro other isOther
      rw [isCandidate] at isOther
      cases isOther
      exact ⟨newer, retires.reaches (h.validCandidate cand isCandidate)⟩
    · intro bound isBound
      exact ⟨fresh bound isBound, retires.mono isBound⟩
  | none =>
    have replaces : ∀ cand, coord.candidateEpoch = some cand →
        cand < streamEpoch ∧ ∃ bound, coord.retiredThrough = some bound ∧
          cand ≤ bound := by
      intro cand no
      rw [isCandidate] at no
      cases no
    cases hact : coord.activeEpoch with
    | some on =>
      simp only [Option.any_some, decide_eq_true_eq, Option.isNone_some, Bool.false_and,
        Bool.false_eq_true, if_false]
      split
      · exact .stays
      refine .proposed valid ?_ replaces rfl rfl (fun bound isBound =>
        ⟨fresh bound isBound, bound, isBound, le_rfl⟩) fresh
      intro other isOther
      rw [hact] at isOther notActive
      cases isOther
      rw [Option.some.injEq] at notActive
      omega
    | none =>
      have newer : ∀ on, coord.activeEpoch = some on → on < streamEpoch := by
        intro on no
        rw [hact] at no
        cases no
      simp only [Option.any_none, Bool.false_eq_true, if_false, Option.isNone_none,
        Bool.true_and, decide_eq_true_eq]
      split
      · have retires := coord.retire_retires (streamEpoch - 1)
        refine .proposed valid newer ?_ retires.activeEpoch rfl ?_
          (retires.below (by omega) fresh)
        · intro cand no
          rw [isCandidate] at no
          cases no
        · intro bound isBound
          exact ⟨fresh bound isBound, retires.mono isBound⟩
      · exact .proposed valid newer replaces rfl rfl (fun bound isBound =>
          ⟨fresh bound isBound, bound, isBound, le_rfl⟩) fresh

theorem commitCandidate_moves (h : coord.Orderly) (streamEpoch : Nat) :
    Moves coord (coord.commitCandidate streamEpoch).1 := by
  unfold commitCandidate
  split
  · exact .stays
  rename_i ok
  simp only [not_or, not_not, Bool.not_eq_true] at ok
  obtain ⟨isCandidate, -, -⟩ := ok
  cases hact : coord.activeEpoch with
  | none =>
    refine .committed isCandidate ?_ rfl rfl (fun old isOld => ⟨old, isOld, le_rfl⟩)
    intro on no
    rw [hact] at no
    cases no
  | some on =>
    have retires := coord.retire_retires on
    refine .committed isCandidate ?_ rfl rfl (fun old isOld => retires.mono isOld)
    intro other isOther
    rw [hact] at isOther
    cases isOther
    exact ⟨h.active streamEpoch on isCandidate hact, retires.reaches (h.validActive on hact)⟩

theorem rejectCandidate_moves (h : coord.Orderly) (streamEpoch : Nat) :
    Moves coord (coord.rejectCandidate streamEpoch) := by
  unfold rejectCandidate
  split
  · rename_i isCandidate
    have retires := coord.retire_retires streamEpoch
    obtain ⟨bound, isBound, le⟩ := retires.reaches (h.validCandidate streamEpoch isCandidate)
    refine .rejected isCandidate retires.activeEpoch rfl isBound le ?_
    intro old isOld
    obtain ⟨later, isLater, le'⟩ := retires.mono isOld
    rw [isBound] at isLater
    cases isLater
    exact le'
  · exact .stays

end

variable {coord : VideoEpochCoordinator}

theorem Orderly.of_free (free : coord.candidateEpoch = none)
    (valid : ∀ on, coord.activeEpoch = some on →
      validVideoStreamEpoch on = true) : coord.Orderly := by
  refine ⟨⟨?_, ?_⟩, ?_, valid⟩
  · intro cand on isCandidate
    rw [free] at isCandidate
    cases isCandidate
  · intro cand bound isCandidate
    rw [free] at isCandidate
    cases isCandidate
  · intro cand isCandidate
    rw [free] at isCandidate
    cases isCandidate

namespace Moves

variable {before after : VideoEpochCoordinator}

theorem orderly (moves : Moves before after) (h : before.Orderly) : after.Orderly := by
  cases moves with
  | stays => exact h
  | proposed valid newer _ on cand _ fresh =>
    refine ⟨⟨?_, ?_⟩, ?_, ?_⟩
    · intro other cur isOther isCurrent
      rw [cand] at isOther
      rw [on] at isCurrent
      cases isOther
      exact newer cur isCurrent
    · intro other bound isOther isBound
      rw [cand] at isOther
      cases isOther
      exact fresh bound isBound
    · intro other isOther
      rw [cand] at isOther
      cases isOther
      exact valid
    · intro cur isCurrent
      rw [on] at isCurrent
      exact h.validActive cur isCurrent
  | rejected _ on free _ _ _ =>
    refine .of_free free ?_
    intro cur isCurrent
    rw [on] at isCurrent
    exact h.validActive cur isCurrent
  | committed isCandidate _ on free _ =>
    refine .of_free free ?_
    intro cur isCurrent
    rw [on] at isCurrent
    cases isCurrent
    exact h.validCandidate _ isCandidate

theorem advances (moves : Moves before after) : Advances before after := by
  cases moves with
  | stays => exact .refl before
  | proposed _ _ _ on _ grows _ =>
    refine ⟨fun epoch hact => ⟨epoch, on.trans hact, le_rfl⟩, ?_⟩
    intro bound isBound
    exact (grows bound isBound).2
  | rejected _ on _ retired _ grows =>
    refine ⟨fun epoch hact => ⟨epoch, on.trans hact, le_rfl⟩, ?_⟩
    intro bound isBound
    exact ⟨_, retired, grows bound isBound⟩
  | committed _ newer on _ grows =>
    refine ⟨?_, grows⟩
    intro epoch hact
    exact ⟨_, on, (newer epoch hact).1.le⟩

theorem passed (moves : Moves before after) {streamEpoch : Nat} (h : before.Passed streamEpoch) :
    after.Passed streamEpoch := by
  obtain ⟨notActive, notCandidate, bound, le, hr⟩ := h
  cases moves with
  | stays => exact ⟨notActive, notCandidate, bound, le, hr⟩
  | @proposed newest _ _ newer replaces on cand grows _ =>
    have less : bound < newest := by
      rcases hr with hact | isCandidate | isRetired
      · exact newer bound hact
      · exact (replaces bound isCandidate).1
      · exact (grows bound isRetired).1
    refine ⟨fun same => notActive (on.symm.trans same), ?_, newest, by omega, ?_⟩
    · intro same
      rw [cand, Option.some.injEq] at same
      omega
    · exact .inr (.inl cand)
  | @rejected cand limit _ isCandidate on free retired past grows =>
    refine ⟨fun same => notActive (on.symm.trans same), ?_, ?_⟩
    · rw [free]
      exact Option.some_ne_none _ ∘ Eq.symm
    · rcases hr with hact | isThis | isRetired
      · exact ⟨bound, le, .inl (on.trans hact)⟩
      · rw [isCandidate] at isThis
        cases isThis
        exact ⟨limit, le.trans past, .inr (.inr retired)⟩
      · exact ⟨limit, le.trans (grows bound isRetired), .inr (.inr retired)⟩
  | @committed cand _ isCandidate newer on free grows =>
    refine ⟨?_, ?_, ?_⟩
    · intro same
      rw [on] at same
      exact notCandidate (isCandidate.trans same)
    · rw [free]
      exact Option.some_ne_none _ ∘ Eq.symm
    · rcases hr with hact | isThis | isRetired
      · exact ⟨cand, le.trans (newer bound hact).1.le, .inl on⟩
      · rw [isCandidate] at isThis
        cases isThis
        exact ⟨_, le, .inl on⟩
      · obtain ⟨later, isLater, past⟩ := grows bound isRetired
        exact ⟨later, le.trans past, .inr (.inr isLater)⟩

end Moves

/-- An epoch is only called retired when it is passed. -/
theorem passed_of_observed_retired {streamEpoch : Nat} (h : coord.Orderly)
    (retired : (coord.observe streamEpoch).2 = .retired) :
    (coord.observe streamEpoch).1.Passed streamEpoch := by
  unfold observe at retired ⊢
  split at retired
  · cases retired
  rename_i valid
  rw [if_neg valid]
  split at retired
  · cases retired
  rename_i notActive
  rw [if_neg notActive]
  split at retired
  · rename_i isRetired
    rw [if_pos isRetired]
    unfold VideoEpochCoordinator.isRetired at isRetired
    split at isRetired
    · cases isRetired
    rename_i bound isBound
    have le := of_decide_eq_true isRetired
    refine ⟨notActive, ?_, bound, le, .inr (.inr isBound)⟩
    intro isCandidate
    have less := h.retired streamEpoch bound isCandidate isBound
    omega
  rename_i notRetired
  rw [if_neg notRetired]
  cases isCandidate : coord.candidateEpoch with
  | some cand =>
    simp only [isCandidate] at retired ⊢
    split at retired
    · cases retired
    rename_i different
    rw [if_neg different]
    split at retired
    · rename_i less
      rw [if_pos less]
      refine ⟨notActive, ?_, cand, less.le, .inr (.inl isCandidate)⟩
      rw [isCandidate, Ne, Option.some.injEq]
      exact different
    · cases retired
  | none =>
    simp only [isCandidate] at retired ⊢
    split at retired
    · rename_i older
      rw [if_pos older]
      rw [Option.any_eq_true] at older
      obtain ⟨active, hact, less⟩ := older
      refine ⟨notActive, ?_, active, (of_decide_eq_true less).le, .inl hact⟩
      rw [isCandidate]
      exact Option.some_ne_none _ ∘ Eq.symm
    · cases retired

theorem passed_of_superseded {streamEpoch active : Nat} (h : coord.Orderly)
    (hact : coord.activeEpoch = some active)
    (ok : (coord.commitCandidate streamEpoch).2 = true) :
    (coord.commitCandidate streamEpoch).1.Passed active := by
  unfold commitCandidate at ok ⊢
  split at ok
  · cases ok
  rename_i goesOn
  rw [if_neg goesOn]
  simp only [not_or, not_not, Bool.not_eq_true] at goesOn
  have newer := h.active streamEpoch active goesOn.1 hact
  refine ⟨?_, Option.some_ne_none _ ∘ Eq.symm, streamEpoch, newer.le, .inl rfl⟩
  rw [Ne, Option.some.injEq]
  omega

theorem step_moves (h : coord.Orderly) (event : EpochEvent) :
    Moves coord (coordinatorStep coord event).1 := by
  cases event with
  | observe streamEpoch => exact observe_moves h streamEpoch
  | commitCandidate streamEpoch => exact commitCandidate_moves h streamEpoch
  | rejectCandidate streamEpoch => exact rejectCandidate_moves h streamEpoch

theorem run_orderly (events : List EpochEvent) : (Lib.Run.exec coordinatorStep {} events).Orderly :=
  Lib.Run.exec_invariant (P := Orderly) coordinatorStep
    (.of_free rfl (fun _ hact => by cases hact))
    (fun _ event h => (step_moves h event).orderly h) events

theorem run_advances (h : coord.Orderly) (events : List EpochEvent) :
    Advances coord (Lib.Run.exec coordinatorStep coord events) := by
  induction events generalizing coord with
  | nil => exact .refl coord
  | cons event events ih =>
    have moves := step_moves h event
    exact moves.advances.trans (ih (moves.orderly h))

theorem run_passed (h : coord.Orderly) {streamEpoch : Nat}
    (passed : coord.Passed streamEpoch) (events : List EpochEvent) :
    (Lib.Run.exec coordinatorStep coord events).Passed streamEpoch := by
  induction events generalizing coord with
  | nil => exact passed
  | cons event events ih =>
    have moves := step_moves h event
    exact ih (moves.orderly h) (moves.passed passed)

end VideoEpochCoordinator

/-- What a run without a reset leaves, seen from every earlier moment of it. -/
structure EpochsAdvance (events : List EpochEvent) : Prop where
  advances : ∀ earlier later, events = earlier ++ later →
    VideoEpochCoordinator.Advances (Lib.Run.exec coordinatorStep {} earlier)
      (Lib.Run.exec coordinatorStep {} events)
  ahead : (Lib.Run.exec coordinatorStep {} events).CandidateAhead
  observedRetired : ∀ earlier streamEpoch later, events = earlier ++ .observe streamEpoch :: later →
    ((Lib.Run.exec coordinatorStep {} earlier).observe streamEpoch).2 = .retired →
    (Lib.Run.exec coordinatorStep {} events).candidateEpoch ≠ some streamEpoch ∧
      (Lib.Run.exec coordinatorStep {} events).activeEpoch ≠ some streamEpoch
  isRetired : ∀ earlier streamEpoch later, events = earlier ++ later →
    (Lib.Run.exec coordinatorStep {} earlier).isRetired streamEpoch = true →
    (Lib.Run.exec coordinatorStep {} events).candidateEpoch ≠ some streamEpoch ∧
      ((Lib.Run.exec coordinatorStep {} events).activeEpoch = some streamEpoch →
        (Lib.Run.exec coordinatorStep {} earlier).activeEpoch = some streamEpoch)
  superseded : ∀ earlier streamEpoch later active,
    events = earlier ++ .commitCandidate streamEpoch :: later →
    (Lib.Run.exec coordinatorStep {} earlier).activeEpoch = some active →
    ((Lib.Run.exec coordinatorStep {} earlier).commitCandidate streamEpoch).2 = true →
    (Lib.Run.exec coordinatorStep {} events).candidateEpoch ≠ some active ∧
      (Lib.Run.exec coordinatorStep {} events).activeEpoch ≠ some active

/-- Through any events: the active epoch and the retired bound only grow, a candidate is
    ahead of both, and an epoch that was reported retired, or was superseded, is never the
    candidate nor made active again. -/
theorem epochs_only_advance (events : List EpochEvent) : EpochsAdvance events := by
  have orderly := VideoEpochCoordinator.run_orderly
  refine ⟨?_, (orderly events).toCandidateAhead, ?_, ?_, ?_⟩
  · rintro old later rfl
    rw [Lib.Run.exec_append]
    exact VideoEpochCoordinator.run_advances (orderly old) later
  · rintro old streamEpoch later rfl retired
    rw [Lib.Run.exec_append, Lib.Run.exec_cons]
    have passed := VideoEpochCoordinator.passed_of_observed_retired (orderly old) retired
    have moves := VideoEpochCoordinator.observe_moves (orderly old) streamEpoch
    have final := VideoEpochCoordinator.run_passed (moves.orderly (orderly old)) passed later
    exact ⟨final.notCandidate, final.notActive⟩
  · rintro old streamEpoch later rfl retired
    have final := orderly (old ++ later)
    rw [Lib.Run.exec_append] at final ⊢
    have advances := VideoEpochCoordinator.run_advances (orderly old) later
    unfold VideoEpochCoordinator.isRetired at retired
    split at retired
    · cases retired
    rename_i bound isBound
    have le := of_decide_eq_true retired
    obtain ⟨grown, isGrown, more⟩ := advances.retired bound isBound
    constructor
    · intro isCandidate
      have less := final.retired streamEpoch grown isCandidate isGrown
      omega
    · intro isActive
      by_contra notActive
      have notCandidate : (Lib.Run.exec coordinatorStep {} old).candidateEpoch ≠
          some streamEpoch := by
        intro isCandidate
        have less := (orderly old).retired streamEpoch bound isCandidate isBound
        omega
      exact (VideoEpochCoordinator.run_passed (orderly old)
        ⟨notActive, notCandidate, bound, le, .inr (.inr isBound)⟩ later).notActive isActive
  · rintro old streamEpoch later active rfl isActive accepted
    rw [Lib.Run.exec_append, Lib.Run.exec_cons]
    have passed := VideoEpochCoordinator.passed_of_superseded (orderly old) isActive accepted
    have moves := VideoEpochCoordinator.commitCandidate_moves (orderly old) streamEpoch
    have final := VideoEpochCoordinator.run_passed (moves.orderly (orderly old)) passed later
    exact ⟨final.notCandidate, final.notActive⟩

end VisionForge.Video
