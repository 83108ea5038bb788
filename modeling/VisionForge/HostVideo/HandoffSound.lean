import VisionForge.HostVideo.SharedHandoff

/-! # Slots and wake-ups of the hand-off

No slot is ever lost. The worker can be left waiting for an event that nobody can signal any more,
but only by a step that puts back a timed-out mailbox slot while every slot is taken.
-/

namespace VisionForge.HostVideo

open Function (update)
open Lib.Histories Lib.Slots

namespace SharedPipeline

variable {slotCount : Nat}

/-- A later submit finds a slot, or one is under way: a slot is being written until its submit has
signalled. -/
def HasRoom (pipe : SharedPipeline slotCount) : Prop :=
  ∃ index, pipe.sharedPolicy.states index = .available ∨
    pipe.sharedPolicy.states index = .writing ∨ pipe.producer = .signalling index

/-- The step gives back a slot whose key it returned, or whose copy was cancelled. -/
def GivesBack (pipe : SharedPipeline slotCount) (move : HandoffMove) (index : Fin slotCount) :
    Prop :=
  (∃ acquired purpose, move = .work acquired ∧ pipe.worker = .returning purpose index ∧
      (pipe.slots index).keyedMutex = .released .producer) ∨
    ∃ acquired, move = .produce acquired ∧ pipe.producer = .timedOut index

/-- The mailbox names the slot that is in it, one slot is written and one is with the worker, slots
    come back only from those that had them, and a worker that waits without an event has room. -/
structure HandoffSound (pipe : SharedPipeline slotCount) : Prop where
  mailbox : ∀ index, pipe.sharedPolicy.mailbox = some index ↔
    pipe.sharedPolicy.states index = .mailbox
  oneWriting : ∀ first second, pipe.sharedPolicy.states first = .writing →
    pipe.sharedPolicy.states second = .writing → first = second
  oneWorker : ∀ first second, pipe.sharedPolicy.states first = .worker →
    pipe.sharedPolicy.states second = .worker → first = second
  givenBack : ∀ move index, pipe.sharedPolicy.states index ≠ .available →
    (pipe.step move).sharedPolicy.states index = .available → pipe.GivesBack move index
  responsive : pipe.worker = .waiting → pipe.wakeEvent = false → pipe.HasRoom

/-- The pass ends with the mailbox slot timed out, every slot taken, and no event to come. -/
def Stalls (pipe : SharedPipeline slotCount) (move : HandoffMove) : Prop :=
  ∃ acquired index, move = .work acquired ∧ pipe.worker = .timedOut .latest index ∧
    pipe.wakeEvent = false ∧ ¬ pipe.HasRoom

structure Orderly (pipe : SharedPipeline slotCount) : Prop where
  owned : pipe.sharedPolicy.Owned pipe.producer.writes pipe.worker.holds
  returned : ∀ purpose index, pipe.worker = .returning purpose index →
    (pipe.slots index).keyedMutex = .released .producer
  /-- A mailbox is only empty while a slot can be filled or the worker has its frame. -/
  supplied : pipe.sharedPolicy.mailbox = none →
    (∃ index, pipe.sharedPolicy.states index = .available) ∨
      pipe.producer.writes ≠ none ∨ pipe.worker.hasLatest = true

/-- While the worker waits, a submit can wake it. -/
def Responsive (pipe : SharedPipeline slotCount) : Prop :=
  pipe.worker = .waiting → pipe.wakeEvent = false → pipe.HasRoom

variable {pipe : SharedPipeline slotCount}

theorem fresh_orderly (some : 0 < slotCount) : Orderly ({} : SharedPipeline slotCount) where
  owned := ⟨tracks_none (by simp), tracks_none (by simp), tracks_none (by simp)⟩
  returned := by simp
  supplied _ := .inl ⟨⟨0, some⟩, rfl⟩

theorem Orderly.submit (ord : Orderly pipe) (input : FrameMetadata) :
    Orderly (pipe.submit input) := by
  have ⟨owned, returned, supplied⟩ := ord
  unfold SharedPipeline.submit
  split
  next idle =>
    split
    · exact ord
    next acquired =>
      rw [idle] at owned
      refine ⟨owned.acquireForCopy acquired, returned, fun _ => .inr (.inl ?_)⟩
      simp [ProducerPoint.writes]
  · exact ord

theorem Orderly.apart (ord : Orderly pipe) {written held : Fin slotCount}
    (writes : pipe.producer.writes = some written) (holds : pipe.worker.holds = some held) :
    held ≠ written := by
  have owned := ord.owned
  rw [writes, holds] at owned
  exact owned.working.apart owned.writing (by simp)

theorem Orderly.returned_update (ord : Orderly pipe) {written : Fin slotCount}
    (writes : pipe.producer.writes = some written) (slot : SourceSharedSlot) (purpose : Purpose)
    (index : Fin slotCount) (returning : pipe.worker = .returning purpose index) :
    (update pipe.slots written slot index).keyedMutex = .released .producer := by
  have apart := ord.apart writes (by rw [returning]; rfl)
  rw [Function.update_of_ne apart]
  exact ord.returned purpose index returning

theorem Orderly.produce (ord : Orderly pipe) (got : Bool) :
    Orderly (pipe.produce got) := by
  have ⟨owned, returned, supplied⟩ := ord
  unfold SharedPipeline.produce
  split
  · exact ord
  next index input point =>
    have writes : pipe.producer.writes = some index := by rw [point]; rfl
    rw [writes] at owned
    split
    · exact ⟨owned, ord.returned_update writes _, fun _ => .inr (.inl (by simp [ProducerPoint.writes]))⟩
    · exact ⟨owned, returned, fun _ => .inr (.inl (by simp [ProducerPoint.writes]))⟩
  next index point =>
    have writes : pipe.producer.writes = some index := by rw [point]; rfl
    rw [writes] at owned
    refine ⟨owned.cancelCopy, returned, fun _ => .inl ⟨index, ?_⟩⟩
    simp [SharedTextureMailboxPolicy.cancelCopy, owned.writing.held]
  next index input point =>
    have writes : pipe.producer.writes = some index := by rw [point]; rfl
    rw [writes] at owned
    exact ⟨owned, ord.returned_update writes _, fun _ => .inr (.inl (by simp [ProducerPoint.writes]))⟩
  next index point =>
    have writes : pipe.producer.writes = some index := by rw [point]; rfl
    rw [writes] at owned
    refine ⟨owned.publishLatest, returned, fun empty => ?_⟩
    simp [SharedTextureMailboxPolicy.publishLatest, owned.writing.held] at empty
  next index point =>
    have writes : pipe.producer.writes = none := by rw [point]; rfl
    rw [writes] at owned supplied
    exact ⟨owned, returned, supplied⟩

theorem Orderly.work (ord : Orderly pipe) (got : Bool) : Orderly (pipe.work got) := by
  have ⟨owned, returned, supplied⟩ := ord
  unfold SharedPipeline.work
  split
  next point =>
    unfold SharedPipeline.wake
    rw [point] at owned supplied
    split
    · exact ⟨owned, by simp, supplied⟩
    · exact ord
  next point =>
    unfold SharedPipeline.takeRetired
    rw [point] at owned supplied
    split
    next taken =>
      exact ⟨owned, by simp, supplied⟩
    next next index taken =>
      have ⟨was, states, mailbox⟩ := SharedTextureMailboxPolicy.takeRetired_some taken
      refine ⟨owned.takeRetired taken, by simp, fun empty => ?_⟩
      rw [mailbox] at empty
      rcases supplied empty with ⟨other, free⟩ | writes | latest
      · refine .inl ⟨other, ?_⟩
        rw [states, Function.update_of_ne (by rintro rfl; simp [was] at free)]
        exact free
      · exact .inr (.inl writes)
      · simp [WorkerPoint.hasLatest] at latest
  next point =>
    unfold SharedPipeline.takeLatest
    rw [point] at owned supplied
    split
    next taken => exact ⟨owned, by simp, supplied⟩
    next next index taken =>
      exact ⟨owned.takeLatest taken, by simp, fun _ => .inr (.inr rfl)⟩
  next purpose index point =>
    unfold SharedPipeline.acquireWorkerKey
    rw [point] at owned supplied
    split
    · cases purpose with
      | reclaim => exact ⟨owned, by simp, supplied⟩
      | latest => exact ⟨owned, by simp, supplied⟩
    · cases purpose with
      | reclaim => exact ⟨owned, by simp, supplied⟩
      | latest => exact ⟨owned, by simp, supplied⟩
  next purpose index point =>
    rw [point] at owned supplied
    have working := owned.working.held
    cases purpose with
    | reclaim =>
      refine ⟨owned.retireWorker, by simp [putBack], fun empty => ?_⟩
      simp only [putBack, SharedTextureMailboxPolicy.retireWorker, working, if_true] at empty ⊢
      rcases supplied empty with ⟨other, free⟩ | writes | latest
      · refine .inl ⟨other, ?_⟩
        rw [Function.update_of_ne (by rintro rfl; simp [working] at free)]
        exact free
      · exact .inr (.inl writes)
      · simp [WorkerPoint.hasLatest] at latest
    | latest =>
      refine ⟨owned.deferWorker, by simp [putBack], fun empty => ?_⟩
      simp only [putBack, SharedTextureMailboxPolicy.deferWorker, working, ne_eq,
        not_true_eq_false, if_false] at empty
      split at empty
      · simp at empty
      next full => simp [full] at empty
  next index point =>
    rw [point] at owned supplied
    exact ⟨owned, by simp, supplied⟩
  next purpose index point =>
    rw [point] at owned supplied
    refine ⟨owned, ?_, ?_⟩
    · rintro _ _ ⟨⟩
      simp [setMutex]
    · cases purpose with
      | reclaim => exact supplied
      | latest => exact supplied
  next purpose index point =>
    rw [point] at owned
    have working := owned.working.held
    refine ⟨?_, by cases purpose <;> simp, fun _ => .inl ⟨index, ?_⟩⟩
    · cases purpose with
      | reclaim => exact owned.releaseWorker
      | latest => exact owned.releaseWorker
    · simp [SharedTextureMailboxPolicy.releaseWorker, working]

theorem Orderly.step (ord : Orderly pipe) (move : HandoffMove) : Orderly (pipe.step move) := by
  cases move with
  | submit input => exact ord.submit input
  | produce acquired => exact ord.produce acquired
  | work acquired => exact ord.work acquired

theorem hasRoom_putBack {index : Fin slotCount}
    (working : pipe.sharedPolicy.states index = .worker) :
    (pipe.putBack index .latest).HasRoom ↔ pipe.HasRoom := by
  refine exists_congr fun other => ?_
  by_cases same : other = index
  · subst same
    cases newer : pipe.sharedPolicy.mailbox with
    | none | some _ => simp [putBack, SharedTextureMailboxPolicy.deferWorker, working, newer]
  · simp only [putBack, SharedTextureMailboxPolicy.deferWorker_other same]

theorem Responsive.submit (responsive : Responsive pipe) (input : FrameMetadata) :
    Responsive (pipe.submit input) := by
  unfold SharedPipeline.submit
  split
  next idle =>
    split
    · exact responsive
    next policy index got =>
      obtain ⟨-, states, -⟩ := SharedTextureMailboxPolicy.acquireForCopy_some got
      intro _ _
      exact ⟨index, .inr (.inl (by simp [states]))⟩
  · exact responsive

theorem Responsive.produce (ord : Orderly pipe) (responsive : Responsive pipe)
    (got : Bool) : Responsive (pipe.produce got) := by
  unfold SharedPipeline.produce
  have held : ∀ index, pipe.producer.writes = some index →
      pipe.sharedPolicy.states index = .writing := fun index => (ord.owned.writing index).mpr
  split
  · exact responsive
  next index input point =>
    have writing := held index (by rw [point]; rfl)
    split
    · exact fun _ _ => ⟨index, .inr (.inl writing)⟩
    · exact fun _ _ => ⟨index, .inr (.inl writing)⟩
  next index point =>
    have writing := held index (by rw [point]; rfl)
    exact fun _ _ => ⟨index, .inl (by simp [SharedTextureMailboxPolicy.cancelCopy, writing])⟩
  next index input point => exact fun _ _ => ⟨index, .inr (.inl (held index (by rw [point]; rfl)))⟩
  next index point => exact fun _ _ => ⟨index, .inr (.inr rfl)⟩
  next index point => exact fun _ unsignalled => absurd unsignalled (by simp)

/-- The worker only lies down while there is room, unless the step stalls. -/
theorem Responsive.work (ord : Orderly pipe) (responsive : Responsive pipe)
    {got : Bool} (goes : ¬ pipe.Stalls (.work got)) :
    Responsive (pipe.work got) := by
  unfold SharedPipeline.work
  split
  next point =>
    unfold SharedPipeline.wake
    split
    · exact fun waiting => by simp at waiting
    · exact responsive
  next point =>
    unfold SharedPipeline.takeRetired
    split
    · exact fun waiting => by simp at waiting
    · exact fun waiting => by simp at waiting
  next point =>
    unfold SharedPipeline.takeLatest
    split
    next taken =>
      intro _ _
      obtain ⟨-, empty⟩ := SharedTextureMailboxPolicy.takeLatest_none taken
      rcases ord.supplied empty with ⟨index, free⟩ | writes | latest
      · exact ⟨index, .inl free⟩
      · obtain ⟨index, writes⟩ := Option.ne_none_iff_exists'.mp writes
        exact ⟨index, .inr (.inl ((ord.owned.writing index).mpr writes))⟩
      · simp [point, WorkerPoint.hasLatest] at latest
    · exact fun waiting => by simp at waiting
  next purpose index point =>
    unfold SharedPipeline.acquireWorkerKey
    split
    · cases purpose with
      | reclaim => exact fun waiting => by simp at waiting
      | latest => exact fun waiting => by simp at waiting
    · exact fun waiting => by simp at waiting
  next purpose index point =>
    cases purpose with
    | reclaim => exact fun waiting => by simp [putBack] at waiting
    | latest =>
      intro _ unsignalled
      by_contra full
      have working := (ord.owned.working index).mpr (by rw [point]; rfl)
      exact goes ⟨got, index, rfl, point, unsignalled,
        fun room => full ((hasRoom_putBack working).mpr room)⟩
  next index point => exact fun waiting => by simp at waiting
  next purpose index point => exact fun waiting => by simp at waiting
  next purpose index point =>
    intro _ _
    have working := (ord.owned.working index).mpr (by rw [point]; rfl)
    exact ⟨index, .inl (by simp [SharedTextureMailboxPolicy.releaseWorker, working])⟩

theorem Responsive.step (responsive : Responsive pipe) (ord : Orderly pipe)
    {move : HandoffMove} (goes : ¬ pipe.Stalls move) : Responsive (pipe.step move) := by
  cases move with
  | submit input => exact responsive.submit input
  | produce acquired => exact responsive.produce ord acquired
  | work acquired => exact responsive.work ord goes

theorem Stalls.not_responsive {move : HandoffMove} (ord : Orderly pipe)
    (stalls : pipe.Stalls move) : ¬ Responsive (pipe.step move) := by
  obtain ⟨got, index, rfl, point, unsignalled, full⟩ := stalls
  have working := (ord.owned.working index).mpr (by rw [point]; rfl)
  have same : pipe.step (.work got) = pipe.putBack index .latest := by
    simp [SharedPipeline.step, SharedPipeline.work, point]
  rw [same]
  exact fun responsive => full ((hasRoom_putBack working).mp (responsive rfl unsignalled))

theorem Orderly.givenBack (ord : Orderly pipe) (move : HandoffMove) (index : Fin slotCount)
    (taken : pipe.sharedPolicy.states index ≠ .available)
    (free : (pipe.step move).sharedPolicy.states index = .available) :
    pipe.GivesBack move index := by
  cases move with
  | submit input =>
    simp only [SharedPipeline.step, SharedPipeline.submit] at free
    split at free
    · split at free
      · exact absurd free taken
      next policy acquiredIndex acquired =>
        have back := @SharedTextureMailboxPolicy.acquireForCopy_available _ pipe.sharedPolicy index
        rw [acquired] at back
        exact absurd (back free) taken
    · exact absurd free taken
  | produce acquired =>
    simp only [SharedPipeline.step, SharedPipeline.produce] at free
    split at free
    · exact absurd free taken
    · split at free
      · exact absurd free taken
      · exact absurd free taken
    next other point =>
      rcases SharedTextureMailboxPolicy.cancelCopy_available free with same | rfl
      · exact absurd same taken
      · exact .inr ⟨acquired, rfl, point⟩
    · exact absurd free taken
    · exact absurd (SharedTextureMailboxPolicy.publishLatest_available free) taken
    · exact absurd free taken
  | work acquired =>
    simp only [SharedPipeline.step, SharedPipeline.work] at free
    split at free
    · unfold SharedPipeline.wake at free
      split at free
      · exact absurd free taken
      · exact absurd free taken
    · unfold SharedPipeline.takeRetired at free
      split at free
      · exact absurd free taken
      next policy other retired =>
        have back := @SharedTextureMailboxPolicy.takeRetired_available _ pipe.sharedPolicy index
        rw [retired] at back
        exact absurd (back free) taken
    · unfold SharedPipeline.takeLatest at free
      split at free
      · exact absurd free taken
      next policy other latest =>
        have back := @SharedTextureMailboxPolicy.takeLatest_available _ pipe.sharedPolicy index
        rw [latest] at back
        exact absurd (back free) taken
    · unfold SharedPipeline.acquireWorkerKey at free
      split at free
      · split at free
        · exact absurd free taken
        · exact absurd free taken
      · exact absurd free taken
    next purpose other point =>
      cases purpose with
      | reclaim => exact absurd (SharedTextureMailboxPolicy.retireWorker_available free) taken
      | latest => exact absurd (SharedTextureMailboxPolicy.deferWorker_available free) taken
    · exact absurd free taken
    · exact absurd free taken
    next purpose other point =>
      rcases SharedTextureMailboxPolicy.releaseWorker_available free with same | rfl
      · exact absurd same taken
      · exact .inl ⟨acquired, purpose, rfl, point, ord.returned purpose _ point⟩

theorem Orderly.sound (ord : Orderly pipe) (responsive : Responsive pipe) : HandoffSound pipe where
  mailbox index := (ord.owned.mailbox index).symm
  oneWriting _ _ := ord.owned.writing.unique
  oneWorker _ _ := ord.owned.working.unique
  givenBack := ord.givenBack
  responsive := responsive

theorem run_orderly (some : 0 < slotCount) (moves : List HandoffMove) :
    Orderly (run moves : SharedPipeline slotCount) := by
  induction moves using List.reverseRecOn with
  | nil => exact fresh_orderly some
  | append_singleton moves move ih =>
    rw [run, List.foldl_append]
    exact ih.step move

/-- The hand-off is sound after every beginning of a run if and only if no step of it stalls. -/
theorem handoff_sound_iff (some : 0 < slotCount) (moves : List HandoffMove) :
    (∀ before, before <+: moves → HandoffSound (run before : SharedPipeline slotCount)) ↔
      Each (fun before move => ¬ (run before : SharedPipeline slotCount).Stalls move) moves := by
  constructor
  · rintro sound before move behind rfl stalls
    have next := (sound (before ++ [move]) ⟨behind, by simp⟩).responsive
    rw [run, List.foldl_append] at next
    exact stalls.not_responsive (run_orderly some before) next
  · rintro goes before ⟨behind, rfl⟩
    have fresh : Responsive ({} : SharedPipeline slotCount) := fun _ _ => ⟨⟨0, some⟩, .inl rfl⟩
    have reached := @foldl_invariant _ before _ _ _
      (fun state : SharedPipeline slotCount => Orderly state ∧ Responsive state)
      (fun state move => ¬ state.Stalls move) ⟨fresh_orderly some, fresh⟩
      (fun _ move held go => ⟨held.1.step move, held.2.step held.1 go⟩) goes.of_append
    exact reached.1.sound reached.2

def submitted : List HandoffMove :=
  [.submit {}, .produce true, .produce true, .produce true, .produce true]

/-- Three frames fill the slots, and then both acquisitions of the worker time out: for the slot
that was retired first, and for the mailbox slot. -/
def bothTimeOut : List HandoffMove :=
  submitted ++ submitted ++ submitted ++ [.work true, .work true, .work false, .work true, .work true,
    .work false, .work true]

def seen (pipe : SharedPipeline 3) :
    Bool × Bool × List SharedTextureSlotState × Bool :=
  (pipe.worker = .waiting, pipe.wakeEvent,
    (List.finRange 3).map pipe.sharedPolicy.states, pipe.producer = .idle)

theorem worker_left_waiting : ¬ HandoffSound (run bothTimeOut : SharedPipeline 3) := by
  intro sound
  have shown : seen (run bothTimeOut) = (true, false, [.retired, .retired, .mailbox], true) := by
    decide +kernel
  simp only [seen, Prod.mk.injEq, decide_eq_true_eq] at shown
  obtain ⟨waiting, unsignalled, states, idle⟩ := shown
  obtain ⟨index, room⟩ := sound.responsive waiting unsignalled
  have listed : (run bothTimeOut : SharedPipeline 3).sharedPolicy.states index ∈
      (List.finRange 3).map (run bothTimeOut : SharedPipeline 3).sharedPolicy.states :=
    List.mem_map_of_mem (List.mem_finRange index)
  rw [states] at listed
  rcases room with free | writing | signalling
  · simp [free] at listed
  · simp [writing] at listed
  · simp [idle] at signalling

/-- The worker times out at the first frame, which the second one displaces. It takes back the slot
of the first and encodes the second. -/
def timedOutOnce : List HandoffMove :=
  submitted ++ [.work true, .work true, .work true, .work false, .work true] ++ submitted ++
    List.replicate 10 (.work true)

def hasSlot (pipe : SharedPipeline 3) : Bool :=
  (List.finRange 3).any (fun index => pipe.sharedPolicy.states index = .available)

theorem timedOutOnce_sound : HandoffSound (run timedOutOnce : SharedPipeline 3) ∧
    (run timedOutOnce : SharedPipeline 3).encoded.length = 1 := by
  have slots : ∀ n < 26, hasSlot (run (timedOutOnce.take n)) = true := by decide +kernel
  refine ⟨(handoff_sound_iff (by decide) timedOutOnce).mpr ?_ timedOutOnce (List.prefix_refl _),
    by decide +kernel⟩
  rintro before move behind split ⟨got, index, -, -, -, full⟩
  have short : before.length < 26 := by
    have length := congrArg List.length split
    rw [show timedOutOnce.length = 25 from rfl, List.length_append, List.length_cons] at length
    omega
  have isBefore : timedOutOnce.take before.length = before := by
    rw [split, List.take_left]
  have slot := slots before.length short
  rw [isBefore, hasSlot, List.any_eq_true] at slot
  obtain ⟨free, -, isFree⟩ := slot
  exact full ⟨free, .inl (of_decide_eq_true isFree)⟩

end SharedPipeline

end VisionForge.HostVideo
