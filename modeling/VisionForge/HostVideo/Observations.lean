import Mathlib.Data.List.Infix
import VisionForge.HostVideo.CpuObservations
import VisionForge.HostVideo.HandoffSound

/-! # Observations in the shared-texture mode

`publish_next` labels a frame, hands it to the pipeline, and takes note of its content once the
pipeline has accepted it. The frames that are on their way form a line: those encoded, the one in
the worker's hands, the mailbox, and the one that the producer writes.
-/

namespace VisionForge.HostVideo

open Function (update)
open Lib.Echoes Lib.Histories

structure SharedHost (slotCount : Nat) where
  agent : DesktopVideoAgent := {}
  /-- The frame of the call of `publish_next` that is under way. -/
  frame : FrameMetadata := {}
  pipeline : SharedPipeline slotCount := {}

inductive SharedHostMove where
  | publishNext (outcome : CaptureOutcome)
  | produce (acquired : Bool)
  | work (acquired : Bool)
  deriving DecidableEq

namespace SharedHost

variable {slotCount : Nat}

def publishNext (host : SharedHost slotCount) (outcome : CaptureOutcome) : SharedHost slotCount :=
  if host.pipeline.producer = .idle then
    match host.agent.capture outcome with
    | (agent, none) => { host with agent }
    | (agent, some frame) => { agent, frame, pipeline := host.pipeline.submit frame }
  else host

/-- The last step of a submit is its acceptance. -/
def produce (host : SharedHost slotCount) (got : Bool) : SharedHost slotCount :=
  match host.pipeline.producer with
  | .signalling _ =>
    { host with
      agent := host.agent.accepted host.frame
      pipeline := host.pipeline.produce got }
  | _ => { host with pipeline := host.pipeline.produce got }

def step (host : SharedHost slotCount) : SharedHostMove → SharedHost slotCount
  | .publishNext outcome => host.publishNext outcome
  | .produce got => host.produce got
  | .work got => { host with pipeline := host.pipeline.work got }

def run (moves : List SharedHostMove) : SharedHost slotCount := moves.foldl step {}

end SharedHost

namespace SharedPipeline

variable {slotCount : Nat}

/-- The frame that the worker has taken, before it is encoded. -/
def inHand (pipe : SharedPipeline slotCount) : List FrameMetadata :=
  match pipe.worker with
  | .acquiring .latest index | .timedOut .latest index => [(pipe.slots index).metadata]
  | .encoding _ => [pipe.currentFrame]
  | _ => []

def inMailbox (pipe : SharedPipeline slotCount) : List FrameMetadata :=
  match pipe.sharedPolicy.mailbox with
  | some index => [(pipe.slots index).metadata]
  | none => []

/-- The frame that the producer writes, until it is published. -/
def inProducer (pipe : SharedPipeline slotCount) : List FrameMetadata :=
  match pipe.producer with
  | .acquiring _ input | .copying _ input => [input]
  | .publishing index => [(pipe.slots index).metadata]
  | _ => []

/-- The frames that are encoded or may be without the producer. -/
def queued (pipe : SharedPipeline slotCount) : List FrameMetadata :=
  pipe.encoded ++ (pipe.inHand ++ pipe.inMailbox)

def taken (pipe : SharedPipeline slotCount) : List FrameMetadata :=
  pipe.encoded ++ match pipe.worker with
    | .encoding _ => [pipe.currentFrame]
    | _ => []

theorem taken_sublist (pipe : SharedPipeline slotCount) : pipe.taken.Sublist pipe.queued := by
  refine (List.Sublist.refl _).append ?_
  unfold inHand
  cases point : pipe.worker with
  | encoding index => simp
  | _ => simp

/-- A repeat is about to take the place of a real observation: in the mailbox when it is published,
or behind it when that times out. -/
def Displaces (pipe : SharedPipeline slotCount) : SharedHostMove → Prop
  | .publishNext _ => False
  | .produce _ => ∃ index pending, pipe.producer = .publishing index ∧
      pipe.sharedPolicy.mailbox = some pending ∧
      ¬ Displaceable (pipe.slots pending).metadata (pipe.slots index).metadata
  | .work _ => ∃ index newer, pipe.worker = .timedOut .latest index ∧
      pipe.sharedPolicy.mailbox = some newer ∧
      ¬ Displaceable (pipe.slots index).metadata (pipe.slots newer).metadata

variable {pipe : SharedPipeline slotCount}

/-- Writing a slot of the producer changes neither the mailbox nor what the worker holds. -/
theorem Orderly.queued_update (ord : Orderly pipe) {written : Fin slotCount}
    (writes : pipe.producer.writes = some written) (slot : SourceSharedSlot)
    (producer : ProducerPoint slotCount) :
    ({ pipe with slots := update pipe.slots written slot, producer } :
      SharedPipeline slotCount).queued = pipe.queued := by
  have hand : ({ pipe with slots := update pipe.slots written slot, producer } :
      SharedPipeline slotCount).inHand = pipe.inHand := by
    unfold inHand
    dsimp only
    split
    next index point =>
      rw [Function.update_of_ne (ord.apart writes (by rw [point]; rfl))]
    next index point =>
      rw [Function.update_of_ne (ord.apart writes (by rw [point]; rfl))]
    · rfl
    · rfl
  have mailbox : ({ pipe with slots := update pipe.slots written slot, producer } :
      SharedPipeline slotCount).inMailbox = pipe.inMailbox := by
    unfold inMailbox
    dsimp only
    split
    next index full =>
      have isMailbox := (ord.owned.mailbox index).mpr full
      have isWriting := (ord.owned.writing written).mpr writes
      rw [Function.update_of_ne (by rintro rfl; simp [isMailbox] at isWriting)]
    · rfl
  unfold queued
  rw [hand, mailbox]

@[simp] theorem setMutex_metadata (index other : Fin slotCount) (mutex : KeyedMutex) :
    (pipe.setMutex index mutex other).metadata = (pipe.slots other).metadata := by
  unfold setMutex
  by_cases same : other = index
  · subst same
    simp
  · rw [Function.update_of_ne same]

theorem work_producer (pipe : SharedPipeline slotCount) (got : Bool) :
    (pipe.work got).producer = pipe.producer := by
  unfold SharedPipeline.work
  split
  · unfold SharedPipeline.wake
    split
    · rfl
    · rfl
  · unfold SharedPipeline.takeRetired
    split
    · rfl
    · rfl
  · unfold SharedPipeline.takeLatest
    split
    · rfl
    · rfl
  next purpose index point =>
    unfold SharedPipeline.acquireWorkerKey
    split
    · cases purpose with
      | reclaim | latest => rfl
    · rfl
  next purpose index point =>
    cases purpose with
    | reclaim | latest => rfl
  · rfl
  · rfl
  · rfl

/-- What a step of the worker does to the line: nothing, or it gives up the frame in its hands for
the one in the mailbox. -/
inductive WorkLine (pipe next : SharedPipeline slotCount) : Prop where
  | same (queued : next.queued = pipe.queued)
  | gaveUp {index newer : Fin slotCount} (point : pipe.worker = .timedOut .latest index)
      (mailbox : pipe.sharedPolicy.mailbox = some newer)
      (before : pipe.queued = pipe.encoded ++
        (pipe.slots index).metadata :: [(pipe.slots newer).metadata])
      (after : next.queued = pipe.encoded ++ [(pipe.slots newer).metadata])

theorem Orderly.work_line (ord : Orderly pipe) (got : Bool) :
    (pipe.work got).inProducer = pipe.inProducer ∧
      WorkLine pipe (pipe.work got) := by
  unfold SharedPipeline.work
  split
  next point =>
    unfold SharedPipeline.wake
    split
    · exact ⟨rfl, .same (by simp [queued, inHand, inMailbox, point])⟩
    · exact ⟨rfl, .same rfl⟩
  next point =>
    unfold SharedPipeline.takeRetired
    split
    · exact ⟨rfl, .same (by simp [queued, inHand, inMailbox, point])⟩
    next retired =>
      obtain ⟨-, -, mailbox⟩ := SharedTextureMailboxPolicy.takeRetired_some retired
      exact ⟨rfl, .same (by simp [queued, inHand, inMailbox, point, mailbox])⟩
  next point =>
    unfold SharedPipeline.takeLatest
    split
    · exact ⟨rfl, .same (by simp [queued, inHand, inMailbox, point])⟩
    next latest =>
      obtain ⟨was, -, mailbox⟩ := SharedTextureMailboxPolicy.takeLatest_some latest
      exact ⟨rfl, .same (by simp [queued, inHand, inMailbox, point, was, mailbox])⟩
  next purpose index point =>
    unfold SharedPipeline.acquireWorkerKey
    split
    · cases purpose with
      | reclaim =>
        exact ⟨by simp [inProducer], .same (by simp [queued, inHand, inMailbox, point])⟩
      | latest =>
        exact ⟨by simp [inProducer], .same (by simp [queued, inHand, inMailbox, point])⟩
    · cases purpose with
      | reclaim => exact ⟨rfl, .same (by simp [queued, inHand, inMailbox, point])⟩
      | latest => exact ⟨rfl, .same (by simp [queued, inHand, inMailbox, point])⟩
  next purpose index point =>
    have working := (ord.owned.working index).mpr (by rw [point]; rfl)
    cases purpose with
    | reclaim =>
      refine ⟨rfl, .same ?_⟩
      simp [queued, inHand, inMailbox, point, putBack, SharedTextureMailboxPolicy.retireWorker,
        working]
    | latest =>
      cases newer : pipe.sharedPolicy.mailbox with
      | none =>
        refine ⟨rfl, .same ?_⟩
        simp [queued, inHand, inMailbox, point, putBack,
          SharedTextureMailboxPolicy.deferWorker, working, newer]
      | some newest =>
        refine ⟨rfl, .gaveUp point newer ?_ ?_⟩
        · simp [queued, inHand, inMailbox, point, newer]
        · simp [queued, inHand, inMailbox, putBack, SharedTextureMailboxPolicy.deferWorker,
            working, newer]
  next index point => exact ⟨rfl, .same (by simp [queued, inHand, inMailbox, point])⟩
  next purpose index point =>
    refine ⟨by simp [inProducer], .same ?_⟩
    cases purpose with
    | reclaim | latest => simp [queued, inHand, inMailbox, point]
  next purpose index point =>
    have working := (ord.owned.working index).mpr (by rw [point]; rfl)
    refine ⟨rfl, .same ?_⟩
    cases purpose with
    | reclaim | latest =>
      simp [queued, inHand, inMailbox, point, SharedTextureMailboxPolicy.releaseWorker, working]

/-- Up to the publication nothing happens to the line, unless its last frame is given up. -/
theorem Orderly.write_line (ord : Orderly pipe) (got : Bool)
    (unpublished : ∀ index, pipe.producer ≠ .publishing index)
    (unsignalled : ∀ index, pipe.producer ≠ .signalling index) :
    (pipe.produce got).queued = pipe.queued ∧
      ((pipe.produce got).inProducer = pipe.inProducer ∨
        (pipe.produce got).inProducer = []) ∧
      ∀ index, (pipe.produce got).producer ≠ .signalling index := by
  unfold SharedPipeline.produce
  split
  next point => exact ⟨rfl, .inl rfl, by simp [point]⟩
  next index input point =>
    have writes : pipe.producer.writes = some index := by rw [point]; rfl
    split
    · exact ⟨ord.queued_update writes _ _, .inl (by simp [inProducer, point]), by simp⟩
    · exact ⟨rfl, .inr rfl, by simp⟩
  next index point =>
    refine ⟨?_, .inr rfl, by simp⟩
    simp only [queued, inMailbox, SharedTextureMailboxPolicy.cancelCopy_mailbox]
    rfl
  next index input point =>
    have writes : pipe.producer.writes = some index := by rw [point]; rfl
    exact ⟨ord.queued_update writes _ _, .inl (by simp [inProducer, point]), by simp⟩
  next index point => exact absurd point (unpublished index)
  next index point => exact absurd point (unsignalled index)

end SharedPipeline

namespace SharedHost

variable {slotCount : Nat}

structure Sighted (host : SharedHost slotCount) : Prop where
  orderly : host.pipeline.Orderly
  submitted : host.agent.Submitted (host.pipeline.queued ++ host.pipeline.inProducer)
  shown : host.agent.lastSubmittedContentSequence ≠ 0 →
    Shown host.pipeline.queued host.agent.lastSubmittedContentSequence
  own : ∀ frame ∈ host.pipeline.inProducer, frame = host.frame
  accepted : ∀ index, host.pipeline.producer = .signalling index →
    Shown host.pipeline.queued host.frame.contentSequence

/-- A step that displaces an observation, or a capture with a number at its last value. -/
def Spoils (host : SharedHost slotCount) (move : SharedHostMove) : Prop :=
  host.pipeline.Displaces move ∨ ∃ outcome, move = .publishNext outcome ∧ ¬ host.agent.HasNumbers

variable {host : SharedHost slotCount}

variable {got : Bool}

theorem Sighted.work (sighted : Sighted host) (keeps : ¬ host.pipeline.Displaces (.work got)) :
    Sighted { host with pipeline := host.pipeline.work got } := by
  have ⟨orderly, hsub, shown, own, ok⟩ := sighted
  obtain ⟨producing, line⟩ := orderly.work_line got
  have same := host.pipeline.work_producer got
  cases line with
  | same queued =>
    exact ⟨orderly.work got, by rw [queued, producing]; exact hsub, by rw [queued]; exact shown,
      by rw [producing]; exact own, by rw [queued, same]; exact ok⟩
  | @gaveUp index newer point mailbox pre after =>
    have displaceable : Displaceable (host.pipeline.slots index).metadata
        (host.pipeline.slots newer).metadata := by
      by_contra displaced
      exact keeps ⟨index, newer, point, mailbox, displaced⟩
    rw [pre] at hsub shown ok
    have line : host.agent.Submitted (host.pipeline.encoded ++ (host.pipeline.slots index).metadata
        :: (host.pipeline.slots newer).metadata :: host.pipeline.inProducer) := by
      simpa using hsub
    have replaceable := line.replaceable displaceable
    refine ⟨orderly.work got, ?_, fun some => ?_, by rw [producing]; exact own,
      fun other point => ?_⟩
    · rw [after, producing]
      simpa using line.drop replaceable
    · rw [after]
      exact (shown some).drop replaceable
    · rw [after]
      exact (ok other (same ▸ point)).drop replaceable

theorem Sighted.accept (sighted : Sighted host) {index : Fin slotCount}
    (point : host.pipeline.producer = .signalling index) : Sighted (host.produce got) := by
  have ⟨orderly, hsub, shown, own, ok⟩ := sighted
  have next := orderly.produce got
  unfold SharedHost.produce
  simp only [SharedPipeline.produce, point] at next ⊢
  rw [SharedPipeline.inProducer, point, List.append_nil] at hsub
  have line : (host.agent.accepted host.frame).Submitted (host.pipeline.queued ++ []) := by
    rw [List.append_nil]
    exact ⟨hsub.seen, hsub.inOrder, hsub.sequences, hsub.contents⟩
  exact ⟨next, line, fun _ => ok index point, by simp [SharedPipeline.inProducer],
    fun _ signalling => by simp at signalling⟩

/-- A frame is published behind the line, or takes the place of the last one. -/
theorem Sighted.publish (sighted : Sighted host) {index : Fin slotCount}
    (point : host.pipeline.producer = .publishing index)
    (keeps : ¬ host.pipeline.Displaces (.produce got)) : Sighted (host.produce got) := by
  have ⟨orderly, hsub, shown, own, ok⟩ := sighted
  have writing := (orderly.owned.writing index).mpr (by rw [point]; rfl)
  have producing : host.pipeline.inProducer = [(host.pipeline.slots index).metadata] := by
    rw [SharedPipeline.inProducer, point]
  have isFrame := own _ (by rw [producing]; exact List.mem_singleton_self _)
  have published : host.produce got =
      { host with
        pipeline :=
          { host.pipeline with
            sharedPolicy := (host.pipeline.sharedPolicy.publishLatest index).1
            producer := .signalling index } } := by
    simp [SharedHost.produce, SharedPipeline.produce, point]
  have next : (host.produce got).pipeline.Orderly := by
    have produced := orderly.produce got
    simpa [SharedHost.produce, SharedPipeline.produce, point] using produced
  have queued : (host.produce got).pipeline.queued =
      host.pipeline.encoded ++ host.pipeline.inHand ++ [host.frame] := by
    rw [published]
    simp only [SharedPipeline.queued, SharedPipeline.inMailbox,
      SharedTextureMailboxPolicy.publishLatest_mailbox writing, isFrame, List.append_assoc]
    rfl
  have longer : host.agent.Submitted (host.pipeline.queued ++ [host.frame]) := by
    rw [producing, isFrame] at hsub
    exact hsub
  have behind : Shown (host.pipeline.queued ++ [host.frame]) host.frame.contentSequence :=
    longer.seen.original (by simp)
  -- Either nothing is in the mailbox, or the frame displaces what is.
  have line : host.agent.Submitted (host.pipeline.encoded ++ host.pipeline.inHand ++ [host.frame]) ∧
      ∀ content, Shown (host.pipeline.queued ++ [host.frame]) content →
        Shown (host.pipeline.encoded ++ host.pipeline.inHand ++ [host.frame]) content := by
    unfold SharedPipeline.queued SharedPipeline.inMailbox at longer ⊢
    cases old : host.pipeline.sharedPolicy.mailbox with
    | none =>
      simp only [old, List.append_nil] at longer
      simp only [List.append_nil]
      exact ⟨longer, fun _ => id⟩
    | some pend =>
      have displaceable : Displaceable (host.pipeline.slots pend).metadata host.frame := by
        by_contra displaced
        exact keeps ⟨index, pend, point, old, by rw [isFrame]; exact displaced⟩
      simp only [old, ← List.append_assoc] at longer
      rw [List.append_assoc] at longer
      have replaceable := longer.replaceable displaceable
      refine ⟨longer.drop replaceable, fun content found => ?_⟩
      simp only [← List.append_assoc] at found
      rw [List.append_assoc] at found
      exact found.drop replaceable
  rw [published] at queued next ⊢
  refine ⟨next, ?_, fun some => ?_, by simp [SharedPipeline.inProducer], fun _ _ => ?_⟩
  · rw [queued]
    simpa [SharedPipeline.inProducer] using line.1
  · rw [queued]
    exact line.2 _ (shown some).append_left
  · rw [queued]
    exact line.2 _ behind

theorem Sighted.write (sighted : Sighted host)
    (unpublished : ∀ index, host.pipeline.producer ≠ .publishing index)
    (unsignalled : ∀ index, host.pipeline.producer ≠ .signalling index) :
    Sighted (host.produce got) := by
  have ⟨orderly, hsub, shown, own, ok⟩ := sighted
  obtain ⟨queued, producing, silent⟩ := orderly.write_line got unpublished unsignalled
  have same : host.produce got = { host with pipeline := host.pipeline.produce got } := by
    unfold SharedHost.produce
    split
    next index point => exact absurd point (unsignalled index)
    · rfl
  rw [same]
  refine ⟨orderly.produce got, ?_, by rw [queued]; exact shown, ?_,
    fun index signalling => absurd signalling (silent index)⟩
  · rcases producing with still | gone
    · rw [queued, still]
      exact hsub
    · rw [queued, gone, List.append_nil]
      exact hsub.of_append
  · rcases producing with still | gone
    · rw [still]
      exact own
    · simp [gone]

theorem Sighted.produce (sighted : Sighted host)
    (keeps : ¬ host.pipeline.Displaces (.produce got)) : Sighted (host.produce got) := by
  by_cases publishing : ∃ index, host.pipeline.producer = .publishing index
  · obtain ⟨index, point⟩ := publishing
    exact sighted.publish point keeps
  by_cases signalling : ∃ index, host.pipeline.producer = .signalling index
  · obtain ⟨index, point⟩ := signalling
    exact sighted.accept point
  exact sighted.write (fun index point => publishing ⟨index, point⟩)
    (fun index point => signalling ⟨index, point⟩)

theorem Sighted.publishNext (sighted : Sighted host) {outcome : CaptureOutcome}
    (numbers : host.agent.HasNumbers) : Sighted (host.publishNext outcome) := by
  have ⟨orderly, hsub, shown, own, ok⟩ := sighted
  unfold SharedHost.publishNext
  split
  next idle =>
    have line : host.agent.Submitted host.pipeline.queued := by
      simpa [SharedPipeline.inProducer, idle] using hsub
    split
    next agent captured =>
      obtain ⟨submittedNext, last⟩ := line.capture_none numbers captured
      refine ⟨orderly, ?_, by rw [last]; exact shown, by simp [SharedPipeline.inProducer, idle],
        fun _ signalling => by simp [idle] at signalling⟩
      simpa [SharedPipeline.inProducer, idle] using submittedNext
    next agent frame captured =>
      have labelled := DesktopVideoAgent.capture_labelled numbers captured
      have longer := line.label shown labelled
      have submittedOrderly := orderly.submit frame
      unfold SharedPipeline.submit at submittedOrderly ⊢
      rw [if_pos idle] at submittedOrderly ⊢
      split
      · refine ⟨orderly, ?_, by rw [labelled.last]; exact shown,
          by simp [SharedPipeline.inProducer, idle], fun _ signalling => by simp [idle] at signalling⟩
        simpa [SharedPipeline.inProducer, idle] using longer.of_append
      next policy index got =>
        obtain ⟨-, -, mailbox⟩ := SharedTextureMailboxPolicy.acquireForCopy_some got
        simp only [got] at submittedOrderly
        have queued : ({ host.pipeline with
            sharedPolicy := policy, producer := .acquiring index frame } :
            SharedPipeline slotCount).queued = host.pipeline.queued := by
          simp only [SharedPipeline.queued, SharedPipeline.inMailbox, mailbox]
          rfl
        refine ⟨submittedOrderly, ?_, ?_, ?_, fun _ signalling => by simp at signalling⟩
        · rw [queued]
          exact longer
        · rw [queued, labelled.last]
          exact shown
        · simp [SharedPipeline.inProducer]
  · exact sighted

theorem fresh_sighted (some : 0 < slotCount) : Sighted ({} : SharedHost slotCount) where
  orderly := SharedPipeline.fresh_orderly some
  submitted := ⟨told_nil, List.Pairwise.nil, by simp [SharedPipeline.queued, SharedPipeline.inHand,
    SharedPipeline.inMailbox, SharedPipeline.inProducer], by simp [SharedPipeline.queued,
    SharedPipeline.inHand, SharedPipeline.inMailbox, SharedPipeline.inProducer]⟩
  shown := by simp
  own := by simp [SharedPipeline.inProducer]
  accepted := by simp

theorem Sighted.step (sighted : Sighted host) {move : SharedHostMove} (kept : ¬ host.Spoils move) :
    Sighted (host.step move) := by
  cases move with
  | publishNext outcome =>
    by_cases numbers : host.agent.HasNumbers
    · exact sighted.publishNext numbers
    · exact absurd (.inr ⟨outcome, rfl, numbers⟩) kept
  | produce got => exact sighted.produce fun displaces => kept (.inl displaces)
  | work got => exact sighted.work fun displaces => kept (.inl displaces)

/-- Repeats are seen after their originals, and frames are taken in order, in every run in which
nothing displaces an observation. -/
theorem shared_observations (some : 0 < slotCount) (moves : List SharedHostMove)
    (kept : Each (fun pre move => ¬ (run pre : SharedHost slotCount).Spoils move) moves) :
    Seen (run moves : SharedHost slotCount).pipeline.encoded ∧
      InOrder (run moves : SharedHost slotCount).pipeline.taken := by
  have sighted := @foldl_invariant _ moves _ step ({} : SharedHost slotCount) Sighted
    (fun host move => ¬ host.Spoils move) (fresh_sighted some)
    (fun _ _ sighted kept => sighted.step kept) kept
  refine ⟨sighted.submitted.of_append.seen.of_append, ?_⟩
  exact sighted.submitted.of_append.inOrder.sublist (SharedPipeline.taken_sublist _)

end SharedHost

/-! ## Observations in both modes

With CPU readback a repeat never displaces a real observation that has not been seen. With shared
textures that is only so in the runs in which no repeat is published over one, or left to be taken
instead of one.
-/

open Lib.Echoes Lib.Histories

/-- Repeats are seen after their originals, and frames are taken in order: with shared textures
where nothing displaces an observation, and with CPU readback as long as there are numbers. -/
theorem observations_kept (slotCount : Nat) (some : 0 < slotCount) :
    (∀ moves : List SharedHostMove,
      Each (fun before move => ¬ (SharedHost.run before : SharedHost slotCount).Spoils move) moves →
        Seen (SharedHost.run moves : SharedHost slotCount).pipeline.encoded ∧
          InOrder (SharedHost.run moves : SharedHost slotCount).pipeline.taken) ∧
      ∀ moves : List (CpuHostMove slotCount),
        Each (fun before move => ¬ (CpuHost.run before).Exhausts move) moves →
          Seen (CpuHost.run moves).pipeline.encoded ∧
            InOrder (CpuHost.run moves).pipeline.taken :=
  ⟨SharedHost.shared_observations some, CpuHost.cpu_observations⟩

namespace SharedHost

/-- Whether a step spoils anything can be seen. -/
instance {slotCount : Nat} (host : SharedHost slotCount) :
    (move : SharedHostMove) → Decidable (host.Spoils move)
  | .publishNext outcome => decidable_of_iff (¬ host.agent.HasNumbers)
      (by simp [Spoils, SharedPipeline.Displaces])
  | .produce got => decidable_of_iff (∃ index pending,
      host.pipeline.producer = .publishing index ∧
      host.pipeline.sharedPolicy.mailbox = some pending ∧
      ¬ Displaceable (host.pipeline.slots pending).metadata (host.pipeline.slots index).metadata)
      (by simp [Spoils, SharedPipeline.Displaces])
  | .work got => decidable_of_iff (∃ index newer,
      host.pipeline.worker = .timedOut .latest index ∧
      host.pipeline.sharedPolicy.mailbox = some newer ∧
      ¬ Displaceable (host.pipeline.slots index).metadata (host.pipeline.slots newer).metadata)
      (by simp [Spoils, SharedPipeline.Displaces])

def accept : List SharedHostMove := List.replicate 4 (.produce true)

/-- An image is published, and the retained one again before the worker wakes. -/
def repeatOverImage : List SharedHostMove :=
  .publishNext .image :: accept ++ .publishNext .retained :: accept ++
    List.replicate 10 (.work true)

/-- The repeat is encoded first. -/
theorem repeat_displaces_image :
    ¬ (Seen (run repeatOverImage : SharedHost 3).pipeline.encoded ∧
      InOrder (run repeatOverImage : SharedHost 3).pipeline.taken) := by
  rintro ⟨seen, -⟩
  have encoded : (run repeatOverImage : SharedHost 3).pipeline.encoded = [] ++ [⟨2, true, 1⟩] := by
    decide +kernel
  rw [encoded] at seen
  obtain ⟨original, member, -⟩ := (told_append.mp seen).2 rfl
  simp at member

/-- The worker encodes an image before the repeat comes. -/
def imageThenRepeat : List SharedHostMove :=
  .publishNext .image :: accept ++ List.replicate 8 (.work true) ++
    .publishNext .retained :: accept ++ List.replicate 8 (.work true)

theorem imageThenRepeat_keeps :
    Each (fun pre move => ¬ (run pre : SharedHost 3).Spoils move) imageThenRepeat := by
  intro pre move behind split
  have few : ∀ pre ∈ imageThenRepeat.inits, ∀ move ∈ imageThenRepeat,
      ¬ (run pre : SharedHost 3).Spoils move := by decide +kernel
  refine few pre ((List.mem_inits _ _).mpr ⟨_, split.symm⟩) move ?_
  simp [split]

end SharedHost

namespace CpuHost

def imageRead : List (CpuHostMove 3) :=
  [.publishNext .image fun _ => false, .goOn, .publishNext .retained fun _ => true, .goOn, .goOn,
    .work false, .work false, .work false]

theorem imageRead_keeps : Each (fun pre move => ¬ (run pre).Exhausts move) imageRead := by
  rintro pre move behind split ⟨outcome, ready, -, numbers⟩
  have few : ∀ pre ∈ imageRead.inits, (run pre).agent.HasNumbers := by decide +kernel
  exact numbers (few pre ((List.mem_inits _ _).mpr ⟨_, split.symm⟩))

end CpuHost

theorem imageRead_and_repeated_kept :
    (Seen (SharedHost.run SharedHost.imageThenRepeat : SharedHost 3).pipeline.encoded ∧
      InOrder (SharedHost.run SharedHost.imageThenRepeat : SharedHost 3).pipeline.taken) ∧
    Seen (CpuHost.run CpuHost.imageRead).pipeline.encoded ∧
      InOrder (CpuHost.run CpuHost.imageRead).pipeline.taken :=
  ⟨(observations_kept 3 (by decide)).1 _ SharedHost.imageThenRepeat_keeps,
    (observations_kept 3 (by decide)).2 _ CpuHost.imageRead_keeps⟩

example : (SharedHost.run SharedHost.imageThenRepeat : SharedHost 3).pipeline.encoded =
    [⟨1, false, 1⟩, ⟨2, true, 1⟩] := by decide +kernel

example : (CpuHost.run CpuHost.imageRead).pipeline.encoded = [⟨1, false, 1⟩] := by decide +kernel

end VisionForge.HostVideo
