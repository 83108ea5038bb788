import Mathlib.Data.List.FinRange
import Mathlib.Data.List.Sort
import VisionForge.HostVideo.Frames
import VisionForge.Lib.Slots

/-! # The readback of frames through the CPU

Submitted frames wait in staging slots until they can be read. A pump folds the readable ones into
one CPU slot, and publishes that to a mailbox unless a real observation is in it. The worker encodes
what it takes, and the last frame again when nothing comes.
-/

namespace VisionForge.HostVideo

open Function (update)
open Lib.Slots

structure PendingSlotPolicy (slotCount : Nat) where
  pending : Fin slotCount → Bool := fun _ => false
  next : Nat := 0

namespace PendingSlotPolicy

variable {slotCount : Nat} (pol : PendingSlotPolicy slotCount)

def acquire : PendingSlotPolicy slotCount × Option (Fin slotCount) :=
  let probe (offset : Fin slotCount) : Fin slotCount :=
    ⟨(pol.next + offset) % slotCount, Nat.mod_lt _ offset.pos⟩
  match ((List.finRange slotCount).map probe).find? (!pol.pending ·) with
  | none => (pol, none)
  | some index =>
    ({ pending := update pol.pending index true, next := (index + 1) % slotCount }, some index)

def release (index : Fin slotCount) : PendingSlotPolicy slotCount :=
  { pol with pending := update pol.pending index false }

def pendingCount : Nat := (List.finRange slotCount).countP pol.pending

end PendingSlotPolicy

inductive CpuFrameSlotState where
  | available
  | writing
  | mailbox
  | worker
  deriving DecidableEq

structure LatestOnlySlotPolicy (slotCount : Nat) where
  states : Fin slotCount → CpuFrameSlotState := fun _ => .available
  mailbox : Option (Fin slotCount) := none

namespace LatestOnlySlotPolicy

variable {slotCount : Nat} (pol : LatestOnlySlotPolicy slotCount) (index : Fin slotCount)

def acquireForWrite : LatestOnlySlotPolicy slotCount × Option (Fin slotCount) :=
  match (List.finRange slotCount).find? (pol.states · = .available) with
  | none => (pol, none)
  | some index => ({ pol with states := update pol.states index .writing }, some index)

/-- A superseded slot is available at once. -/
def publishLatest : LatestOnlySlotPolicy slotCount :=
  if pol.states index ≠ .writing then pol
  else
    let states := match pol.mailbox with
      | none => pol.states
      | some superseded => update pol.states superseded .available
    { states := update states index .mailbox, mailbox := some index }

def takeLatest : LatestOnlySlotPolicy slotCount × Option (Fin slotCount) :=
  match pol.mailbox with
  | none => (pol, none)
  | some index => ({ states := update pol.states index .worker, mailbox := none }, some index)

def cancelWrite : LatestOnlySlotPolicy slotCount :=
  if pol.states index = .writing then
    { pol with states := update pol.states index .available }
  else pol

def releaseWorker : LatestOnlySlotPolicy slotCount :=
  if pol.states index = .worker then
    { pol with states := update pol.states index .available }
  else pol

/-- The mailbox is the one it names, and the batch and the worker hold what they think they hold. -/
structure Owned (policy : LatestOnlySlotPolicy slotCount) (batch worker : Option (Fin slotCount)) :
    Prop where
  mailbox : Tracks policy.states .mailbox policy.mailbox
  writing : Tracks policy.states .writing batch
  working : Tracks policy.states .worker worker

variable {pol index} {batch worker : Option (Fin slotCount)}
  {next : LatestOnlySlotPolicy slotCount}

theorem acquireForWrite_some (got : pol.acquireForWrite = (next, some index)) :
    pol.states index = .available ∧
      next = { pol with states := update pol.states index .writing } := by
  unfold acquireForWrite at got
  split at got
  · simp at got
  next found =>
  obtain ⟨rfl, rfl⟩ := got
  exact ⟨by simpa using List.find?_some found, rfl⟩

theorem takeLatest_some (taken : pol.takeLatest = (next, some index)) :
    pol.mailbox = some index ∧
      next = { states := update pol.states index .worker, mailbox := none } := by
  unfold takeLatest at taken
  split at taken
  · simp at taken
  next found =>
  obtain ⟨rfl, rfl⟩ := taken
  exact ⟨found, rfl⟩

namespace Owned

theorem acquireForWrite (owned : pol.Owned none worker)
    (got : pol.acquireForWrite = (next, some index)) : next.Owned (some index) worker := by
  obtain ⟨free, rfl⟩ := acquireForWrite_some got
  exact ⟨owned.mailbox.keep (by simp [free]) (by simp), owned.writing.take,
    owned.working.keep (by simp [free]) (by simp)⟩

theorem publishLatest (owned : pol.Owned (some index) worker) :
    (pol.publishLatest index).Owned none worker := by
  obtain ⟨isMailbox, isWriting, isWorker⟩ := owned
  have writing := isWriting.held
  simp only [LatestOnlySlotPolicy.publishLatest, writing, ne_eq, not_true_eq_false, if_false]
  cases superseded : pol.mailbox with
  | none =>
    rw [superseded] at isMailbox
    exact ⟨isMailbox.take, isWriting.leave (by simp), isWorker.keep (by simp [writing]) (by simp)⟩
  | some old =>
    rw [superseded] at isMailbox
    have wasMailbox := isMailbox.held
    have stillWriting : Tracks (update pol.states old .available) .writing (some index) :=
      isWriting.keep (by simp [wasMailbox]) (by simp)
    exact ⟨(isMailbox.leave (by simp)).take, stillWriting.leave (by simp),
      (isWorker.keep (by simp [wasMailbox]) (by simp)).keep (by simp [stillWriting.held]) (by simp)⟩

theorem cancelWrite (owned : pol.Owned (some index) worker) :
    (pol.cancelWrite index).Owned none worker := by
  obtain ⟨isMailbox, isWriting, isWorker⟩ := owned
  have writing := isWriting.held
  rw [LatestOnlySlotPolicy.cancelWrite, if_pos writing]
  exact ⟨isMailbox.keep (by simp [writing]) (by simp), isWriting.leave (by simp),
    isWorker.keep (by simp [writing]) (by simp)⟩

theorem takeLatest (owned : pol.Owned batch none)
    (taken : pol.takeLatest = (next, some index)) : next.Owned batch (some index) := by
  obtain ⟨was, rfl⟩ := takeLatest_some taken
  obtain ⟨isMailbox, isWriting, isWorker⟩ := owned
  rw [was] at isMailbox
  have wasMailbox := isMailbox.held
  exact ⟨isMailbox.leave (by simp), isWriting.keep (by simp [wasMailbox]) (by simp), isWorker.take⟩

theorem releaseWorker (owned : pol.Owned batch (some index)) :
    (pol.releaseWorker index).Owned batch none := by
  obtain ⟨isMailbox, isWriting, isWorker⟩ := owned
  have working := isWorker.held
  rw [LatestOnlySlotPolicy.releaseWorker, if_pos working]
  exact ⟨isMailbox.keep (by simp [working]) (by simp), isWriting.keep (by simp [working]) (by simp),
    isWorker.leave (by simp)⟩

end Owned

end LatestOnlySlotPolicy

structure StagingSlot where
  metadata : FrameMetadata := {}
  submissionTicket : Nat := 0
  deriving DecidableEq

/-- Where the worker is in `run_cpu_worker`. -/
inductive CpuWorkerPoint (slotCount : Nat) where
  | waiting
  /-- The mailbox was empty. -/
  | idle
  | uploading (index : Fin slotCount)
  | encoding (cadenceRepeat : Bool)
  deriving DecidableEq

structure CpuPipeline (slotCount : Nat) where
  stagingPolicy : PendingSlotPolicy slotCount := {}
  stagingSlots : Fin slotCount → StagingSlot := fun _ => {}
  nextSubmissionTicket : Nat := 0
  cpuPolicy : LatestOnlySlotPolicy slotCount := {}
  cpuSlots : Fin slotCount → FrameMetadata := fun _ => {}
  sourceReadbackPending : Bool := false
  worker : CpuWorkerPoint slotCount := .waiting
  currentFrame : Option FrameMetadata := none
  /-- The frames taken from the mailbox, oldest first. -/
  taken : List FrameMetadata := []
  /-- The frames encoded, each with the label it was encoded with. -/
  encoded : List FrameMetadata := []

namespace CpuPipeline

variable {slotCount : Nat} (pipe : CpuPipeline slotCount)

/-- Pending slots come first, and among them the older tickets. -/
def readBefore (left right : Fin slotCount) : Bool :=
  if pipe.stagingPolicy.pending left != pipe.stagingPolicy.pending right then
    pipe.stagingPolicy.pending left
  else
    decide ((pipe.stagingSlots left).submissionTicket < (pipe.stagingSlots right).submissionTicket)

def oldestPendingReadbackOrder : List (Fin slotCount) :=
  (List.finRange slotCount).insertionSort fun left right => !pipe.readBefore right left

def copyToBatch (batch index : Fin slotCount) : CpuPipeline slotCount :=
  { pipe with
    cpuSlots := update pipe.cpuSlots batch (pipe.stagingSlots index).metadata
    stagingPolicy := pipe.stagingPolicy.release index }

/-- A later one only if it may supersede what is there. -/
def foldIntoBatch (batch index : Fin slotCount) : CpuPipeline slotCount :=
  if repeatedFrameCanSupersedeMailbox (pipe.cpuSlots batch).repeatedContent
      (pipe.stagingSlots index).metadata.repeatedContent then
    pipe.copyToBatch batch index
  else { pipe with stagingPolicy := pipe.stagingPolicy.release index }

/-- The loop over the staging slots; it ends at the first copy that is still being drawn, or when
no slot is left for the batch. -/
def collect (ready : Fin slotCount → Bool) : List (Fin slotCount) → CpuPipeline slotCount →
    Option (Fin slotCount) → CpuPipeline slotCount × Option (Fin slotCount)
  | [], pipe, batch => (pipe, batch)
  | index :: order, pipe, batch =>
    if !pipe.stagingPolicy.pending index then collect ready order pipe batch
    else if !ready index then (pipe, batch)
    else
      match batch with
      | some batch => collect ready order (pipe.foldIntoBatch batch index) (some batch)
      | none =>
        match pipe.cpuPolicy.acquireForWrite with
        | (_, none) => (pipe, none)
        | (cpuPolicy, some batch) =>
          collect ready order ({ pipe with cpuPolicy }.copyToBatch batch index) (some batch)

def notePending : CpuPipeline slotCount :=
  { pipe with sourceReadbackPending := pipe.stagingPolicy.pendingCount != 0 }

/-- The section under the lock that ends a pump. -/
def publishBatch (batch : Fin slotCount) : CpuPipeline slotCount :=
  let maySupersede := match pipe.cpuPolicy.mailbox with
    | none => true
    | some pending => repeatedFrameCanSupersedeMailbox (pipe.cpuSlots pending).repeatedContent
        (pipe.cpuSlots batch).repeatedContent
  if maySupersede then { pipe with cpuPolicy := pipe.cpuPolicy.publishLatest batch }
  else { pipe with cpuPolicy := pipe.cpuPolicy.cancelWrite batch }

/-- A submit that finds no staging slot is busy. -/
def stage (frame : FrameMetadata) : CpuPipeline slotCount × Bool :=
  match pipe.stagingPolicy.acquire with
  | (_, none) => (pipe, false)
  | (stagingPolicy, some index) =>
    ({ pipe with
        stagingPolicy
        sourceReadbackPending := true
        stagingSlots := update pipe.stagingSlots index ⟨frame, pipe.nextSubmissionTicket⟩
        nextSubmissionTicket := nextNumber pipe.nextSubmissionTicket }, true)

def takeLatest : CpuPipeline slotCount :=
  match pipe.cpuPolicy.takeLatest with
  | (_, none) => { pipe with worker := .idle }
  | (cpuPolicy, some index) => { pipe with cpuPolicy, worker := .uploading index }

/-- The last frame is only repeated when it is due and nothing is on its way. -/
def repeatIdle (due : Bool) : CpuPipeline slotCount :=
  if idleRepeatMustDeferToSource false pipe.sourceReadbackPending then
    { pipe with worker := .waiting }
  else if !due then { pipe with worker := .waiting }
  else if pipe.currentFrame.isNone then { pipe with worker := .waiting }
  else { pipe with worker := .encoding true }

def upload (index : Fin slotCount) : CpuPipeline slotCount :=
  { pipe with
    currentFrame := some (pipe.cpuSlots index)
    cpuPolicy := pipe.cpuPolicy.releaseWorker index
    taken := pipe.taken ++ [pipe.cpuSlots index]
    worker := .encoding false }

def encode (cadenceRepeat : Bool) : CpuPipeline slotCount :=
  match pipe.currentFrame with
  | none => { pipe with worker := .waiting }
  | some frame =>
    { pipe with
      encoded := pipe.encoded ++
        [{ frame with repeatedContent := frame.repeatedContent || cadenceRepeat }]
      worker := .waiting }

/-- Woken by the event or by the timer, the worker looks for a frame in either case. -/
def work (due : Bool) : CpuPipeline slotCount :=
  match pipe.worker with
  | .waiting => pipe.takeLatest
  | .idle => pipe.repeatIdle due
  | .uploading index => pipe.upload index
  | .encoding cadenceRepeat => pipe.encode cadenceRepeat

end CpuPipeline

inductive CapturePoint (slotCount : Nat) where
  | idle
  | publishing (batch : Fin slotCount) (frame : Option FrameMetadata)
  | staging (frame : FrameMetadata)
  deriving DecidableEq

structure CpuHost (slotCount : Nat) where
  agent : DesktopVideoAgent := {}
  capture : CapturePoint slotCount := .idle
  pipeline : CpuPipeline slotCount := {}

inductive CpuHostMove (slotCount : Nat) where
  | publishNext (outcome : CaptureOutcome) (ready : Fin slotCount → Bool)
  | goOn
  | work (due : Bool)

namespace CpuHost

variable {slotCount : Nat} (host : CpuHost slotCount)

def thenStage : Option FrameMetadata → CapturePoint slotCount
  | none => .idle
  | some frame => .staging frame

/-- A frame is labelled first; with a frame or without one the pipeline is pumped. -/
def publishNext (outcome : CaptureOutcome) (ready : Fin slotCount → Bool) : CpuHost slotCount :=
  if host.capture = .idle then
    let (agent, frame) := host.agent.capture outcome
    let (pipe, batch) := CpuPipeline.collect ready host.pipeline.oldestPendingReadbackOrder
      host.pipeline none
    { agent
      capture := match batch with
        | none => thenStage frame
        | some batch => .publishing batch frame
      pipeline := pipe.notePending }
  else host

def goOn : CpuHost slotCount :=
  match host.capture with
  | .idle => host
  | .publishing batch frame =>
    { host with capture := thenStage frame, pipeline := host.pipeline.publishBatch batch }
  | .staging frame =>
    match host.pipeline.stage frame with
    | (_, false) => { host with capture := .idle }
    | (pipe, true) => { agent := host.agent.accepted frame, capture := .idle, pipeline := pipe }

def step (host : CpuHost slotCount) : CpuHostMove slotCount → CpuHost slotCount
  | .publishNext outcome ready => host.publishNext outcome ready
  | .goOn => host.goOn
  | .work due => { host with pipeline := host.pipeline.work due }

def run (moves : List (CpuHostMove slotCount)) : CpuHost slotCount := moves.foldl step {}

def Exhausts (host : CpuHost slotCount) (move : CpuHostMove slotCount) : Prop :=
  ∃ outcome ready, move = .publishNext outcome ready ∧ ¬ host.agent.HasNumbers

end CpuHost

end VisionForge.HostVideo
