import Mathlib.Data.Fintype.Pi
import Mathlib.Data.List.FinRange
import VisionForge.HostVideo.Frames
import VisionForge.Lib.Slots

/-! # The mailbox of the shared textures

Each slot is in one state. A mailbox slot that is replaced becomes retired: only the worker may
acquire its key and give the slot back.
-/

namespace VisionForge.HostVideo

inductive SharedTextureSlotState where
  | available
  | writing
  | mailbox
  | retired
  | worker
  deriving DecidableEq

structure SharedTextureMailboxPolicy (slotCount : Nat) where
  states : Fin slotCount → SharedTextureSlotState := fun _ => .available
  mailbox : Option (Fin slotCount) := none
  next : Nat := 0

namespace SharedTextureMailboxPolicy

open Function (update)
open Lib.Slots

variable {slotCount : Nat} (pol : SharedTextureMailboxPolicy slotCount) (index : Fin slotCount)

def probe (offset : Fin slotCount) : Fin slotCount :=
  ⟨(pol.next + offset) % slotCount, Nat.mod_lt _ offset.pos⟩

def acquireForCopy : SharedTextureMailboxPolicy slotCount × Option (Fin slotCount) :=
  match ((List.finRange slotCount).map pol.probe).find? (pol.states · = .available) with
  | none => (pol, none)
  | some index =>
    ({ pol with
        states := update pol.states index .writing
        next := (index + 1) % slotCount }, some index)

def cancelCopy : SharedTextureMailboxPolicy slotCount :=
  if pol.states index = .writing then
    { pol with states := update pol.states index .available }
  else pol

def publishLatest : SharedTextureMailboxPolicy slotCount × Option (Fin slotCount) :=
  if pol.states index ≠ .writing then (pol, none)
  else
    let states := match pol.mailbox with
      | none => pol.states
      | some replaced => update pol.states replaced .retired
    ({ pol with states := update states index .mailbox, mailbox := some index }, pol.mailbox)

def takeLatest : SharedTextureMailboxPolicy slotCount × Option (Fin slotCount) :=
  match pol.mailbox with
  | none => (pol, none)
  | some index =>
    ({ pol with states := update pol.states index .worker, mailbox := none }, some index)

def takeRetired : SharedTextureMailboxPolicy slotCount × Option (Fin slotCount) :=
  match (List.finRange slotCount).find? (pol.states · = .retired) with
  | none => (pol, none)
  | some index => ({ pol with states := update pol.states index .worker }, some index)

/-- A slot whose key timed out goes back, but not over a newer one. -/
def deferWorker : SharedTextureMailboxPolicy slotCount :=
  if pol.states index ≠ .worker then pol
  else
    match pol.mailbox with
    | none =>
      { pol with states := update pol.states index .mailbox, mailbox := some index }
    | some _ => { pol with states := update pol.states index .retired }

def retireWorker : SharedTextureMailboxPolicy slotCount :=
  if pol.states index = .worker then
    { pol with states := update pol.states index .retired }
  else pol

/-- Only after the key went back to the producer. -/
def releaseWorker : SharedTextureMailboxPolicy slotCount :=
  if pol.states index = .worker then
    { pol with states := update pol.states index .available }
  else pol

/-- The mailbox is the one it names, and producer and worker hold what they think they hold. -/
structure Owned (policy : SharedTextureMailboxPolicy slotCount)
    (writer worker : Option (Fin slotCount)) : Prop where
  mailbox : Tracks policy.states .mailbox policy.mailbox
  writing : Tracks policy.states .writing writer
  working : Tracks policy.states .worker worker

variable {pol index} {writer worker : Option (Fin slotCount)}
  {next : SharedTextureMailboxPolicy slotCount}

theorem acquireForCopy_some (got : pol.acquireForCopy = (next, some index)) :
    pol.states index = .available ∧ next.states = update pol.states index .writing ∧
      next.mailbox = pol.mailbox := by
  unfold acquireForCopy at got
  split at got
  · simp at got
  next found =>
  obtain ⟨rfl, rfl⟩ := got
  exact ⟨by simpa using List.find?_some found, rfl, rfl⟩

theorem publishLatest_mailbox (writing : pol.states index = .writing) :
    (pol.publishLatest index).1.mailbox = some index := by
  simp [publishLatest, writing]

theorem cancelCopy_mailbox : (pol.cancelCopy index).mailbox = pol.mailbox := by
  unfold cancelCopy
  split <;> rfl

theorem takeRetired_some (taken : pol.takeRetired = (next, some index)) :
    pol.states index = .retired ∧ next.states = update pol.states index .worker ∧
      next.mailbox = pol.mailbox := by
  unfold takeRetired at taken
  split at taken
  · simp at taken
  next found =>
  obtain ⟨rfl, rfl⟩ := taken
  exact ⟨by simpa using List.find?_some found, rfl, rfl⟩

theorem takeLatest_some (taken : pol.takeLatest = (next, some index)) :
    pol.mailbox = some index ∧ next.states = update pol.states index .worker ∧
      next.mailbox = none := by
  unfold takeLatest at taken
  split at taken
  · simp at taken
  next found =>
  obtain ⟨rfl, rfl⟩ := taken
  exact ⟨found, rfl, rfl⟩

theorem takeLatest_none (taken : pol.takeLatest = (next, none)) :
    next = pol ∧ pol.mailbox = none := by
  unfold takeLatest at taken
  split at taken
  next found => exact ⟨by simpa using taken.symm, found⟩
  · simp at taken

namespace Owned

theorem acquireForCopy (owned : pol.Owned none worker)
    (got : pol.acquireForCopy = (next, some index)) : next.Owned (some index) worker := by
  obtain ⟨free, states, mailbox⟩ := acquireForCopy_some got
  obtain ⟨isMailbox, isWriting, isWorker⟩ := owned
  constructor
  · rw [states, mailbox]
    exact isMailbox.keep (by simp [free]) (by simp)
  · rw [states]
    exact isWriting.take
  · rw [states]
    exact isWorker.keep (by simp [free]) (by simp)

theorem cancelCopy (owned : pol.Owned (some index) worker) :
    (pol.cancelCopy index).Owned none worker := by
  obtain ⟨isMailbox, isWriting, isWorker⟩ := owned
  have writing := isWriting.held
  rw [SharedTextureMailboxPolicy.cancelCopy, if_pos writing]
  exact ⟨isMailbox.keep (by simp [writing]) (by simp), isWriting.leave (by simp),
    isWorker.keep (by simp [writing]) (by simp)⟩

theorem publishLatest (owned : pol.Owned (some index) worker) :
    (pol.publishLatest index).1.Owned none worker := by
  obtain ⟨isMailbox, isWriting, isWorker⟩ := owned
  have writing := isWriting.held
  simp only [SharedTextureMailboxPolicy.publishLatest, writing, ne_eq, not_true_eq_false, if_false]
  cases replaced : pol.mailbox with
  | none =>
    rw [replaced] at isMailbox
    exact ⟨isMailbox.take, isWriting.leave (by simp), isWorker.keep (by simp [writing]) (by simp)⟩
  | some old =>
    rw [replaced] at isMailbox
    have wasMailbox := isMailbox.held
    have stillWriting : Tracks (update pol.states old .retired) .writing (some index) :=
      isWriting.keep (by simp [wasMailbox]) (by simp)
    exact ⟨(isMailbox.leave (by simp)).take, stillWriting.leave (by simp),
      (isWorker.keep (by simp [wasMailbox]) (by simp)).keep (by simp [stillWriting.held]) (by simp)⟩

theorem takeLatest (owned : pol.Owned writer none)
    (taken : pol.takeLatest = (next, some index)) : next.Owned writer (some index) := by
  obtain ⟨was, states, mailbox⟩ := takeLatest_some taken
  obtain ⟨isMailbox, isWriting, isWorker⟩ := owned
  rw [was] at isMailbox
  have wasMailbox := isMailbox.held
  constructor
  · rw [states, mailbox]
    exact isMailbox.leave (by simp)
  · rw [states]
    exact isWriting.keep (by simp [wasMailbox]) (by simp)
  · rw [states]
    exact isWorker.take

theorem takeRetired (owned : pol.Owned writer none)
    (taken : pol.takeRetired = (next, some index)) : next.Owned writer (some index) := by
  obtain ⟨wasRetired, states, mailbox⟩ := takeRetired_some taken
  obtain ⟨isMailbox, isWriting, isWorker⟩ := owned
  constructor
  · rw [states, mailbox]
    exact isMailbox.keep (by simp [wasRetired]) (by simp)
  · rw [states]
    exact isWriting.keep (by simp [wasRetired]) (by simp)
  · rw [states]
    exact isWorker.take

theorem deferWorker (owned : pol.Owned writer (some index)) :
    (pol.deferWorker index).Owned writer none := by
  obtain ⟨isMailbox, isWriting, isWorker⟩ := owned
  have working := isWorker.held
  simp only [SharedTextureMailboxPolicy.deferWorker, working, ne_eq, not_true_eq_false, if_false]
  cases newer : pol.mailbox with
  | none =>
    rw [newer] at isMailbox
    exact ⟨isMailbox.take, isWriting.keep (by simp [working]) (by simp), isWorker.leave (by simp)⟩
  | some _ =>
    rw [newer] at isMailbox
    exact ⟨isMailbox.keep (by simp [working]) (by simp),
      isWriting.keep (by simp [working]) (by simp), isWorker.leave (by simp)⟩

theorem retireWorker (owned : pol.Owned writer (some index)) :
    (pol.retireWorker index).Owned writer none := by
  obtain ⟨isMailbox, isWriting, isWorker⟩ := owned
  have working := isWorker.held
  rw [SharedTextureMailboxPolicy.retireWorker, if_pos working]
  exact ⟨isMailbox.keep (by simp [working]) (by simp), isWriting.keep (by simp [working]) (by simp),
    isWorker.leave (by simp)⟩

theorem releaseWorker (owned : pol.Owned writer (some index)) :
    (pol.releaseWorker index).Owned writer none := by
  obtain ⟨isMailbox, isWriting, isWorker⟩ := owned
  have working := isWorker.held
  rw [SharedTextureMailboxPolicy.releaseWorker, if_pos working]
  exact ⟨isMailbox.keep (by simp [working]) (by simp), isWriting.keep (by simp [working]) (by simp),
    isWorker.leave (by simp)⟩

end Owned

theorem acquireForCopy_available (free : pol.acquireForCopy.1.states index = .available) :
    pol.states index = .available := by
  unfold SharedTextureMailboxPolicy.acquireForCopy at free
  split at free
  · exact free
  · grind

variable {other : Fin slotCount}

theorem cancelCopy_available (free : (pol.cancelCopy index).states other = .available) :
    pol.states other = .available ∨ other = index := by
  unfold SharedTextureMailboxPolicy.cancelCopy at free
  split at free
  · grind
  · exact .inl free

theorem publishLatest_available (free : (pol.publishLatest index).1.states other = .available) :
    pol.states other = .available := by
  unfold SharedTextureMailboxPolicy.publishLatest at free
  split at free
  · exact free
  · split at free
    · grind
    · grind

theorem takeLatest_available (free : pol.takeLatest.1.states index = .available) :
    pol.states index = .available := by
  unfold SharedTextureMailboxPolicy.takeLatest at free
  split at free
  · exact free
  · grind

theorem takeRetired_available (free : pol.takeRetired.1.states index = .available) :
    pol.states index = .available := by
  unfold SharedTextureMailboxPolicy.takeRetired at free
  split at free
  · exact free
  · grind

theorem deferWorker_available (free : (pol.deferWorker index).states other = .available) :
    pol.states other = .available := by
  unfold SharedTextureMailboxPolicy.deferWorker at free
  split at free
  · exact free
  · split at free
    · grind
    · grind

theorem deferWorker_other (apart : other ≠ index) :
    (pol.deferWorker index).states other = pol.states other := by
  unfold SharedTextureMailboxPolicy.deferWorker
  split
  · rfl
  · split
    · exact Function.update_of_ne apart _ _
    · exact Function.update_of_ne apart _ _

theorem retireWorker_available (free : (pol.retireWorker index).states other = .available) :
    pol.states other = .available := by
  unfold SharedTextureMailboxPolicy.retireWorker at free
  split at free
  · grind
  · exact free

theorem releaseWorker_available (free : (pol.releaseWorker index).states other = .available) :
    pol.states other = .available ∨ other = index := by
  unfold SharedTextureMailboxPolicy.releaseWorker at free
  split at free
  · grind
  · exact .inl free

end SharedTextureMailboxPolicy

/-! ## The hand-off of shared textures

A producer and a worker share the slots, their keyed mutexes and a wake event. A step is one
section under the lock, one call on a keyed mutex or one on the event; a mutex may time out at any
call.
-/

open Function (update)

inductive TextureKey where
  | producer
  | worker
  deriving DecidableEq

inductive KeyedMutex where
  | released (key : TextureKey)
  | held
  deriving DecidableEq

structure SourceSharedSlot where
  keyedMutex : KeyedMutex := .released .producer
  metadata : FrameMetadata := {}
  deriving DecidableEq

/-- Where the producer is in `submit_shared_unlocked`. -/
inductive ProducerPoint (slotCount : Nat) where
  | idle
  | acquiring (index : Fin slotCount) (input : FrameMetadata)
  | timedOut (index : Fin slotCount)
  | copying (index : Fin slotCount) (input : FrameMetadata)
  | publishing (index : Fin slotCount)
  | signalling (index : Fin slotCount)
  deriving DecidableEq

/-- What the worker wants a slot for. -/
inductive Purpose where
  | reclaim
  | latest
  deriving DecidableEq

/-- Where the worker is in `run_shared_worker`. -/
inductive WorkerPoint (slotCount : Nat) where
  | waiting
  | reclaiming
  | taking
  | acquiring (purpose : Purpose) (index : Fin slotCount)
  | timedOut (purpose : Purpose) (index : Fin slotCount)
  | encoding (index : Fin slotCount)
  | releasing (purpose : Purpose) (index : Fin slotCount)
  | returning (purpose : Purpose) (index : Fin slotCount)
  deriving DecidableEq

namespace ProducerPoint

variable {slotCount : Nat}

def writes : ProducerPoint slotCount → Option (Fin slotCount)
  | .acquiring index _ | .timedOut index | .copying index _ | .publishing index => some index
  | .idle | .signalling _ => none

end ProducerPoint

namespace WorkerPoint

variable {slotCount : Nat}

def holds : WorkerPoint slotCount → Option (Fin slotCount)
  | .acquiring _ index | .timedOut _ index | .encoding index | .releasing _ index
  | .returning _ index => some index
  | .waiting | .reclaiming | .taking => none

def hasLatest : WorkerPoint slotCount → Bool
  | .acquiring .latest _ | .timedOut .latest _ | .encoding _ | .releasing .latest _
  | .returning .latest _ => true
  | _ => false

end WorkerPoint

structure SharedPipeline (slotCount : Nat) where
  sharedPolicy : SharedTextureMailboxPolicy slotCount := {}
  slots : Fin slotCount → SourceSharedSlot := fun _ => {}
  wakeEvent : Bool := false
  producer : ProducerPoint slotCount := .idle
  worker : WorkerPoint slotCount := .waiting
  currentFrame : FrameMetadata := {}
  /-- The frames that were taken and encoded, oldest first. -/
  encoded : List FrameMetadata := []

namespace SharedPipeline

variable {slotCount : Nat} (pipe : SharedPipeline slotCount)

/-- What the mutex of a slot becomes. -/
def setMutex (index : Fin slotCount) (mutex : KeyedMutex) : Fin slotCount → SourceSharedSlot :=
  update pipe.slots index { pipe.slots index with keyedMutex := mutex }

/-- A submit that finds no slot is busy and leaves everything as it is. -/
def submit (input : FrameMetadata) : SharedPipeline slotCount :=
  if pipe.producer = .idle then
    match pipe.sharedPolicy.acquireForCopy with
    | (_, none) => pipe
    | (sharedPolicy, some index) => { pipe with sharedPolicy, producer := .acquiring index input }
  else pipe

def produce (acquired : Bool) : SharedPipeline slotCount :=
  match pipe.producer with
  | .idle => pipe
  | .acquiring index input =>
    if acquired ∧ (pipe.slots index).keyedMutex = .released .producer then
      { pipe with slots := pipe.setMutex index .held, producer := .copying index input }
    else { pipe with producer := .timedOut index }
  | .timedOut index =>
    { pipe with sharedPolicy := pipe.sharedPolicy.cancelCopy index, producer := .idle }
  | .copying index input =>
    { pipe with
      slots := update pipe.slots index ⟨.released .worker, input⟩
      producer := .publishing index }
  | .publishing index =>
    { pipe with
      sharedPolicy := (pipe.sharedPolicy.publishLatest index).1
      producer := .signalling index }
  | .signalling _ => { pipe with wakeEvent := true, producer := .idle }

def wake : SharedPipeline slotCount :=
  if pipe.wakeEvent then { pipe with wakeEvent := false, worker := .reclaiming }
  else pipe

def takeRetired : SharedPipeline slotCount :=
  match pipe.sharedPolicy.takeRetired with
  | (_, none) => { pipe with worker := .taking }
  | (sharedPolicy, some index) => { pipe with sharedPolicy, worker := .acquiring .reclaim index }

def takeLatest : SharedPipeline slotCount :=
  match pipe.sharedPolicy.takeLatest with
  | (_, none) => { pipe with worker := .waiting }
  | (sharedPolicy, some index) => { pipe with sharedPolicy, worker := .acquiring .latest index }

def acquireWorkerKey (acquired : Bool) (purpose : Purpose) (index : Fin slotCount) :
    SharedPipeline slotCount :=
  if acquired ∧ (pipe.slots index).keyedMutex = .released .worker then
    match purpose with
    | .reclaim =>
      { pipe with slots := pipe.setMutex index .held, worker := .releasing .reclaim index }
    | .latest =>
      { pipe with
        slots := pipe.setMutex index .held
        currentFrame := (pipe.slots index).metadata
        worker := .encoding index }
  else { pipe with worker := .timedOut purpose index }

/-- A retired slot ends the reclaiming; the latest one ends the pass. -/
def putBack (index : Fin slotCount) : Purpose → SharedPipeline slotCount
  | .reclaim =>
    { pipe with
      sharedPolicy := pipe.sharedPolicy.retireWorker index
      worker := .taking }
  | .latest =>
    { pipe with
      sharedPolicy := pipe.sharedPolicy.deferWorker index
      worker := .waiting }

def work (acquired : Bool) : SharedPipeline slotCount :=
  match pipe.worker with
  | .waiting => pipe.wake
  | .reclaiming => pipe.takeRetired
  | .taking => pipe.takeLatest
  | .acquiring purpose index => pipe.acquireWorkerKey acquired purpose index
  | .timedOut purpose index => pipe.putBack index purpose
  | .encoding index =>
    { pipe with
      encoded := pipe.encoded ++ [pipe.currentFrame]
      worker := .releasing .latest index }
  | .releasing purpose index =>
    { pipe with
      slots := pipe.setMutex index (.released .producer)
      worker := .returning purpose index }
  | .returning purpose index =>
    { pipe with
      sharedPolicy := pipe.sharedPolicy.releaseWorker index
      worker := match purpose with
        | .reclaim => .reclaiming
        | .latest => .waiting }

end SharedPipeline

/-- Who goes on; whoever is at a mutex acquires it or times out. -/
inductive HandoffMove where
  | submit (input : FrameMetadata)
  | produce (acquired : Bool)
  | work (acquired : Bool)
  deriving DecidableEq

namespace SharedPipeline

variable {slotCount : Nat} (pipe : SharedPipeline slotCount)

def step : HandoffMove → SharedPipeline slotCount
  | .submit input => pipe.submit input
  | .produce acquired => pipe.produce acquired
  | .work acquired => pipe.work acquired

def run (moves : List HandoffMove) : SharedPipeline slotCount := moves.foldl step {}

end SharedPipeline

end VisionForge.HostVideo
