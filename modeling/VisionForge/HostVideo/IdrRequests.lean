import Mathlib.Data.List.Infix
import VisionForge.Lib.Histories

/-! # Requests for an IDR

The direct path keeps a request as a flag, which it takes down before it encodes. The hybrid path
counts requests, and its worker takes a count over once a keyframe is out whole.
-/

namespace VisionForge.HostVideo

open Lib.Histories

def kPeriodicIdrIntervalUs : UInt64 := 1000000

/-- What is on record, oldest first; the source keeps no such record. -/
inductive IdrEvent where
  | requested
  /-- An encode call begins; in the hybrid path it has read the count of requests. -/
  | encodeBegan (forced : Bool)
  /-- The keyframe of the last encode call is completely published. -/
  | keyframePublished
  deriving DecidableEq

inductive H264EncoderBackend where
  | none
  | nvenc
  | windowsHardware
  | softwareCpu
  deriving DecidableEq

/-- What an encoder gives: whether it was a keyframe, or a failure. -/
abbrev EncodeOutcome := Option Bool

inductive PublishOutcome where
  | complete
  | authorizationClosed
  | incomplete
  deriving DecidableEq

/-- What one call of `publish_next` meets. -/
structure StepOutcome where
  permitted : Bool
  frameReady : Bool
  bridged : Bool
  encodeStarted : UInt64
  encoded : EncodeOutcome
  published : PublishOutcome
  deriving DecidableEq

/-- Between its load of the count and the end of its publication the worker keeps the count. -/
inductive EncodePoint where
  | idle
  | encoding (requestedGeneration : UInt64) (encodeStarted : UInt64)
  | ended
  deriving DecidableEq

/-- An initialised agent has chosen an encoder. -/
structure IdrAgent where
  hybridPipelineActive : Bool
  encoderBackend : H264EncoderBackend
  backend_chosen : encoderBackend ≠ .none
  forceIdrNext : Bool := false
  lastIdrUs : UInt64 := 0
  nextFrameSequence : UInt32 := 0
  idrRequestGeneration : UInt64 := 0
  consumedIdrGeneration : UInt64 := 0
  lastKeyframeUs : UInt64 := 0
  workerFrameSequence : UInt32 := 0
  worker : EncodePoint := .idle
  log : List IdrEvent := []
  deriving DecidableEq

namespace IdrAgent

variable (agent : IdrAgent)

def record (event : IdrEvent) : IdrAgent := { agent with log := agent.log ++ [event] }

/-- The difference of two times wraps. -/
def periodicIdr (lastUs encodeStarted : UInt64) : Bool :=
  lastUs == 0 || decide (kPeriodicIdrIntervalUs ≤ encodeStarted - lastUs)

def lastSequence : UInt32 := 0xffffffff

def requestIdr : IdrAgent :=
  if agent.hybridPipelineActive then
    { agent.record .requested with idrRequestGeneration := agent.idrRequestGeneration + 1 }
  else { agent.record .requested with forceIdrNext := true }

def publishDirect (explicitRecoveryIdr keyframe : Bool) (encodeStarted : UInt64)
    (published : PublishOutcome) : IdrAgent :=
  let agent := { agent with nextFrameSequence := agent.nextFrameSequence + 1 }
  if published = .complete ∧ keyframe then
    { agent.record .keyframePublished with lastIdrUs := encodeStarted }
  else if explicitRecoveryIdr || keyframe then { agent with forceIdrNext := true }
  else agent

def encodeDirect (outcome : StepOutcome) : IdrAgent :=
  let explicitRecoveryIdr := agent.forceIdrNext
  let forceIdr := explicitRecoveryIdr || periodicIdr agent.lastIdrUs outcome.encodeStarted
  let agent := { agent with forceIdrNext := false }
  if agent.encoderBackend = .none then agent
  else
    let agent := agent.record (.encodeBegan forceIdr)
    match outcome.encoded with
    | none => agent
    | some keyframe =>
      agent.publishDirect explicitRecoveryIdr keyframe outcome.encodeStarted outcome.published

/-- The hybrid path only submits the frame. -/
def publishNext (outcome : StepOutcome) : IdrAgent :=
  if !outcome.permitted || !outcome.frameReady then agent
  else if agent.hybridPipelineActive then agent
  else if !outcome.bridged then agent
  else if agent.nextFrameSequence = lastSequence then { agent with forceIdrNext := true }
  else agent.encodeDirect outcome

def beginEncode (encodeStarted : UInt64) : IdrAgent :=
  if agent.workerFrameSequence = lastSequence then { agent with worker := .ended }
  else
    let requestedGeneration := agent.idrRequestGeneration
    let explicitIdr := decide (agent.consumedIdrGeneration < requestedGeneration)
    { agent.record (.encodeBegan (explicitIdr || periodicIdr agent.lastKeyframeUs encodeStarted)) with
      worker := .encoding requestedGeneration encodeStarted }

/-- A failure other than a closed data plane ends the worker. -/
def finishEncode (requestedGeneration encodeStarted : UInt64) (encoded : EncodeOutcome)
    (published : PublishOutcome) : IdrAgent :=
  match encoded with
  | none => { agent with worker := .ended }
  | some keyframe =>
    let explicitIdr := decide (agent.consumedIdrGeneration < requestedGeneration)
    let agent := { agent with workerFrameSequence := agent.workerFrameSequence + 1 }
    match published with
    | .complete =>
      if keyframe then
        { agent.record .keyframePublished with
          lastKeyframeUs := encodeStarted
          consumedIdrGeneration :=
            if explicitIdr then requestedGeneration else agent.consumedIdrGeneration
          worker := .idle }
      else { agent with worker := .idle }
    | .authorizationClosed => { agent with worker := .idle }
    | .incomplete => { agent with worker := .ended }

def work (encodeStarted : UInt64) (encoded : EncodeOutcome) (published : PublishOutcome) :
    IdrAgent :=
  if agent.hybridPipelineActive then
    match agent.worker with
    | .idle => agent.beginEncode encodeStarted
    | .encoding requestedGeneration encodeStarted =>
      agent.finishEncode requestedGeneration encodeStarted encoded published
    | .ended => agent
  else agent

end IdrAgent

inductive IdrMove where
  | requestIdr
  | publishNext (outcome : StepOutcome)
  | work (encodeStarted : UInt64) (encoded : EncodeOutcome) (published : PublishOutcome)
  deriving DecidableEq

namespace IdrAgent

def step (agent : IdrAgent) : IdrMove → IdrAgent
  | .requestIdr => agent.requestIdr
  | .publishNext outcome => agent.publishNext outcome
  | .work encodeStarted encoded published => agent.work encodeStarted encoded published

def fresh (hybridPipelineActive : Bool)
    (backend : { backend : H264EncoderBackend // backend ≠ .none }) : IdrAgent where
  hybridPipelineActive := hybridPipelineActive
  encoderBackend := backend
  backend_chosen := backend.property

def run (start : IdrAgent) (moves : List IdrMove) : IdrAgent := moves.foldl step start

end IdrAgent

/-- A keyframe is out whole whose encode began after the beginning of the record. -/
def Answered (events : List IdrEvent) : Prop :=
  ∃ earlier forced later, events = earlier ++ .encodeBegan forced :: later ∧
    .keyframePublished ∈ later

def Pending (log : List IdrEvent) : Prop :=
  ∃ earlier later, log = earlier ++ .requested :: later ∧ ¬ Answered later

def Honoured (log : List IdrEvent) : Prop :=
  Each (fun before event => ∀ forced, event = .encodeBegan forced → Pending before → forced = true) log

/-- A request came after the last encode call began. -/
def RequestedSince (log : List IdrEvent) : Prop :=
  ∃ earlier later, log = earlier ++ .requested :: later ∧ ∀ forced, .encodeBegan forced ∉ later

variable {log : List IdrEvent} {event : IdrEvent}

/-- A request splits the record before an event that is none. -/
theorem split_before {old later : List IdrEvent} (other : event ≠ .requested)
    (split : log ++ [event] = old ++ .requested :: later) :
    ∃ rest, later = rest ++ [event] ∧ log = old ++ .requested :: rest := by
  rcases List.eq_nil_or_concat later with rfl | ⟨rest, last, rfl⟩
  · obtain ⟨-, isLast⟩ := List.append_inj' split rfl
    exact absurd (List.singleton_inj.mp isLast) other
  · rw [List.concat_eq_append, ← List.cons_append, ← List.append_assoc] at split
    obtain ⟨rfl, isLast⟩ := List.append_inj' split rfl
    exact ⟨rest, by rw [List.concat_eq_append, List.singleton_inj.mp isLast], rfl⟩

theorem Answered.append {events : List IdrEvent} (ans : Answered events) :
    Answered (events ++ [event]) := by
  obtain ⟨old, forced, later, rfl, published⟩ := ans
  exact ⟨old, forced, later ++ [event], by simp, by simp [published]⟩

theorem Pending.of_append (pend : Pending (log ++ [event])) (other : event ≠ .requested) :
    Pending log := by
  obtain ⟨old, later, split, unanswered⟩ := pend
  obtain ⟨rest, rfl, same⟩ := split_before other split
  exact ⟨old, rest, same, fun ans => unanswered ans.append⟩

/-- A keyframe leaves only the requests that came after its encode began. -/
theorem Pending.after_keyframe (pend : Pending (log ++ [.keyframePublished])) :
    RequestedSince log := by
  obtain ⟨old, later, split, unanswered⟩ := pend
  obtain ⟨rest, rfl, same⟩ := split_before (by simp) split
  refine ⟨old, rest, same, fun forced began => unanswered ?_⟩
  obtain ⟨before, behind, rfl⟩ := List.append_of_mem began
  exact ⟨before, forced, behind ++ [.keyframePublished], by simp, by simp⟩

theorem RequestedSince.of_append (since : RequestedSince (log ++ [event]))
    (other : event ≠ .requested) : RequestedSince log ∧ ∀ forced, event ≠ .encodeBegan forced := by
  obtain ⟨old, later, split, none⟩ := since
  obtain ⟨rest, rfl, same⟩ := split_before other split
  refine ⟨⟨old, rest, same, fun forced began => none forced (by simp [began])⟩, ?_⟩
  rintro forced rfl
  exact none forced (by simp)

theorem Honoured.began (honoured : Honoured log) {forced : Bool}
    (obeys : Pending log → forced = true) : Honoured (log ++ [.encodeBegan forced]) := by
  refine each_append.mpr ⟨honoured, ?_⟩
  rintro _ ⟨⟩
  exact obeys

theorem Honoured.published (honoured : Honoured log) :
    Honoured (log ++ [.keyframePublished]) := each_append.mpr ⟨honoured, by simp⟩

theorem not_pending_direct {forced : Bool} :
    ¬ Pending (log ++ [.encodeBegan forced] ++ [.keyframePublished]) := by
  intro pend
  exact (pend.after_keyframe.of_append (by simp)).2 forced rfl

namespace IdrAgent

def reachesEncoder (agent : IdrAgent) (outcome : StepOutcome) : Bool :=
  outcome.permitted && outcome.frameReady && !agent.hybridPipelineActive && outcome.bridged &&
    agent.nextFrameSequence != lastSequence

/-- A direct encode fails while a request is pending, or the count of requests wraps. -/
def Loses (agent : IdrAgent) : IdrMove → Prop
  | .publishNext outcome =>
    agent.reachesEncoder outcome = true ∧ outcome.encoded = none ∧ Pending agent.log
  | .requestIdr => agent.hybridPipelineActive = true ∧ agent.idrRequestGeneration = 0xffffffffffffffff
  | .work .. => False

/-- The flag of the direct path stands for its pending requests, the count of the hybrid path for
those of that path. -/
structure Remembers (agent : IdrAgent) : Prop where
  honoured : Honoured agent.log
  direct : agent.hybridPipelineActive = false → Pending agent.log → agent.forceIdrNext = true
  hybrid : agent.hybridPipelineActive = true → Pending agent.log →
    agent.consumedIdrGeneration < agent.idrRequestGeneration
  consumed : agent.consumedIdrGeneration ≤ agent.idrRequestGeneration
  since : agent.hybridPipelineActive = true → ∀ requested started,
    agent.worker = .encoding requested started →
    requested ≤ agent.idrRequestGeneration ∧
      (RequestedSince agent.log → requested < agent.idrRequestGeneration)

variable {agent : IdrAgent}

theorem fresh_remembers (hybridPipelineActive : Bool)
    (backend : { backend : H264EncoderBackend // backend ≠ .none }) :
    Remembers (fresh hybridPipelineActive backend) where
  honoured := each_nil
  direct _ := by simp [fresh, Pending]
  hybrid _ := by simp [fresh, Pending]
  consumed := UInt64.le_refl 0
  since := by simp [fresh]

theorem Remembers.requestIdr (remembers : Remembers agent) (kept : ¬ agent.Loses .requestIdr) :
    Remembers agent.requestIdr := by
  have ⟨honoured, direct, hybrid, used, since⟩ := remembers
  have recorded : Honoured (agent.log ++ [.requested]) :=
    each_append.mpr ⟨honoured, by simp⟩
  unfold IdrAgent.requestIdr
  split
  next active =>
    have more : agent.idrRequestGeneration < agent.idrRequestGeneration + 1 := by
      have room : agent.idrRequestGeneration ≠ 0xffffffffffffffff := fun last => kept ⟨active, last⟩
      grind
    refine ⟨recorded, by simp [record, active], fun _ _ => ?_, ?_, fun _ requested started point => ?_⟩
    · exact UInt64.lt_of_le_of_lt used more
    · exact UInt64.le_of_lt (UInt64.lt_of_le_of_lt used more)
    · have atMost := (since active requested started point).1
      exact ⟨UInt64.le_of_lt (UInt64.lt_of_le_of_lt atMost more),
        fun _ => UInt64.lt_of_le_of_lt atMost more⟩
  next inactive =>
    exact ⟨recorded, fun _ _ => rfl, fun active => absurd active inactive, used,
      fun active => absurd active inactive⟩

theorem Remembers.publishNext (remembers : Remembers agent) {outcome : StepOutcome}
    (kept : ¬ agent.Loses (.publishNext outcome)) : Remembers (agent.publishNext outcome) := by
  have ⟨honoured, direct, hybrid, used, since⟩ := remembers
  unfold IdrAgent.publishNext
  split
  · exact remembers
  next met =>
  split
  · exact remembers
  next inactive =>
  split
  · exact remembers
  next bridged =>
  split
  · exact ⟨honoured, fun _ _ => rfl, hybrid, used, since⟩
  next sequence =>
  have hr : agent.reachesEncoder outcome = true := by
    simp_all [reachesEncoder]
  rw [Bool.not_eq_true] at inactive
  have began := honoured.began (fun pend =>
    show (agent.forceIdrNext || periodicIdr agent.lastIdrUs outcome.encodeStarted) = true by
      rw [direct inactive pend, Bool.true_or])
  unfold encodeDirect
  simp only [agent.backend_chosen, if_false]
  cases enc : outcome.encoded with
  | none =>
    refine ⟨began, fun _ pend => ?_, by simp [record, inactive], used, by simp [record, inactive]⟩
    exact absurd ⟨hr, enc, pend.of_append (by simp)⟩ kept
  | some keyframe =>
    simp only [publishDirect]
    split
    · exact ⟨began.published, fun _ pend => absurd pend not_pending_direct,
        by simp [record, inactive], used, by simp [record, inactive]⟩
    split
    · exact ⟨began, fun _ _ => rfl, by simp [record, inactive], used, by simp [record, inactive]⟩
    next unforced =>
      refine ⟨began, fun _ pend => ?_, by simp [record, inactive], used, by simp [record, inactive]⟩
      have forced := direct inactive (pend.of_append (by simp))
      simp [forced] at unforced

theorem Remembers.work (remembers : Remembers agent) (encodeStarted : UInt64)
    (enc : EncodeOutcome) (published : PublishOutcome) :
    Remembers (agent.work encodeStarted enc published) := by
  have ⟨honoured, direct, hybrid, used, since⟩ := remembers
  unfold IdrAgent.work
  split
  next active =>
    have inactive : agent.hybridPipelineActive = false → False := by simp [active]
    split
    next point =>
      unfold beginEncode
      split
      · exact ⟨honoured, direct, hybrid, used, by simp⟩
      · refine ⟨honoured.began fun pend => ?_, fun off => (inactive off).elim,
          fun _ pend => hybrid active (pend.of_append (by simp)), used, ?_⟩
        · simp [hybrid active pend]
        · rintro _ _ _ ⟨⟩
          exact ⟨UInt64.le_refl _, fun since => absurd rfl ((since.of_append (by simp)).2 _)⟩
    next requested started point =>
      unfold finishEncode
      obtain ⟨atMost, older⟩ := since active requested started point
      split
      · exact ⟨honoured, direct, hybrid, used, by simp⟩
      next keyframe =>
        split
        · split
          · refine ⟨honoured.published, fun off => (inactive off).elim, fun _ pend => ?_, ?_,
              by simp⟩
            · dsimp only [record] at pend ⊢
              split
              · exact older pend.after_keyframe
              · exact hybrid active (pend.of_append (by simp))
            · dsimp only [record]
              split
              · exact atMost
              · exact used
          · exact ⟨honoured, direct, hybrid, used, by simp⟩
        · exact ⟨honoured, direct, hybrid, used, by simp⟩
        · exact ⟨honoured, direct, hybrid, used, by simp⟩
    · exact remembers
  · exact remembers

theorem Remembers.step (remembers : Remembers agent) {move : IdrMove} (kept : ¬ agent.Loses move) :
    Remembers (agent.step move) := by
  cases move with
  | requestIdr => exact remembers.requestIdr kept
  | publishNext outcome => exact remembers.publishNext kept
  | work encodeStarted enc published => exact remembers.work encodeStarted enc published

/-- In every run that loses no request, requests are honoured. -/
theorem requests_honoured (hybridPipelineActive : Bool)
    (backend : { backend : H264EncoderBackend // backend ≠ .none }) (moves : List IdrMove)
    (kept : Each (fun before move =>
      ¬ ((fresh hybridPipelineActive backend).run before).Loses move) moves) :
    Honoured ((fresh hybridPipelineActive backend).run moves).log :=
  (@foldl_invariant _ moves _ step (fresh hybridPipelineActive backend) Remembers
    (fun agent move => ¬ agent.Loses move) (fresh_remembers hybridPipelineActive backend)
    (fun _ _ remembers kept => remembers.step kept) kept).honoured

def nvenc : { backend : H264EncoderBackend // backend ≠ .none } := ⟨.nvenc, by decide⟩

def encodeAt (encodeStarted : UInt64) (encoded : EncodeOutcome) : IdrMove :=
  .publishNext
    { permitted := true
      frameReady := true
      bridged := true
      encodeStarted := encodeStarted
      encoded := encoded
      published := .complete }

/-- A keyframe, a request, an encode that fails, and the next encode soon after. -/
def failedEncode : List IdrMove :=
  [encodeAt 1000000 (some true), .requestIdr, encodeAt 1100000 none, encodeAt 1200000 (some false)]

theorem request_lost_by_failed_encode : ¬ Honoured ((fresh false nvenc).run failedEncode).log := by
  have log : ((fresh false nvenc).run failedEncode).log =
      [.encodeBegan true, .keyframePublished, .requested, .encodeBegan true] ++
        .encodeBegan false :: [] := by decide
  intro honoured
  rw [log] at honoured
  have forced := honoured _ _ [] rfl false rfl ⟨[.encodeBegan true, .keyframePublished],
    [.encodeBegan true], rfl, ?_⟩
  · simp at forced
  · rintro ⟨old, forced, later, split, published⟩
    have member : IdrEvent.keyframePublished ∈ [IdrEvent.encodeBegan true] := by
      rw [split]
      simp [published]
    simp at member

/-- In the hybrid path the request waits for a whole keyframe. -/
def closedThenKeyframe : List IdrMove :=
  [.work 1000000 none .complete, .work 0 (some true) .complete, .requestIdr,
    .work 1100000 none .complete, .work 0 (some true) .authorizationClosed,
    .work 1200000 none .complete, .work 0 (some true) .complete]

theorem closedThenKeyframe_honoured : Honoured ((fresh true nvenc).run closedThenKeyframe).log := by
  refine requests_honoured true nvenc closedThenKeyframe ?_
  intro before move behind split loses
  cases move with
  | work => exact loses
  | publishNext outcome =>
    have member : IdrMove.publishNext outcome ∈ closedThenKeyframe := by
      rw [split]
      simp
    simp [closedThenKeyframe] at member
  | requestIdr =>
    have few : ∀ moves ∈ closedThenKeyframe.inits,
        ((fresh true nvenc).run moves).idrRequestGeneration ≠ 0xffffffffffffffff := by decide
    exact few before ((List.mem_inits _ _).mpr ⟨_, split.symm⟩) loses.2

end IdrAgent

end VisionForge.HostVideo
