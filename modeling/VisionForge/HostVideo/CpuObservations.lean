import VisionForge.HostVideo.CpuReadback

/-! # Observations in the CPU-readback mode

The frames that are on their way form a line here too: those taken, the one in the worker's hands,
the mailbox, the batch, the staging slots in the order of their tickets, and the frame that is about
to be staged.
-/

namespace VisionForge.HostVideo

open Function (update)
open Lib.Echoes Lib.Histories Lib.Slots

variable {slotCount : Nat}

def CpuWorkerPoint.holds : CpuWorkerPoint slotCount → Option (Fin slotCount)
  | .uploading index => some index
  | _ => none

namespace CpuPipeline

def inHand (pipe : CpuPipeline slotCount) : List FrameMetadata :=
  match pipe.worker with
  | .uploading index => [pipe.cpuSlots index]
  | _ => []

def inSlot (pipe : CpuPipeline slotCount) : Option (Fin slotCount) → List FrameMetadata
  | some index => [pipe.cpuSlots index]
  | none => []

/-- The frames that the worker has taken or can take. -/
def front (pipe : CpuPipeline slotCount) : List FrameMetadata :=
  pipe.taken ++ (pipe.inHand ++ pipe.inSlot pipe.cpuPolicy.mailbox)

/-- With those that only the capture thread has seen. -/
def queued (pipe : CpuPipeline slotCount) (batch : Option (Fin slotCount))
    (staged : List (Fin slotCount)) : List FrameMetadata :=
  pipe.front ++ (pipe.inSlot batch ++ staged.map fun index => (pipe.stagingSlots index).metadata)

structure Staged (pipe : CpuPipeline slotCount) (staged : List (Fin slotCount)) : Prop where
  pending : ∀ index, pipe.stagingPolicy.pending index = true ↔ index ∈ staged
  tickets : staged.Pairwise fun first second =>
    (pipe.stagingSlots first).submissionTicket < (pipe.stagingSlots second).submissionTicket
  issued : ∀ index ∈ staged,
    (pipe.stagingSlots index).submissionTicket < pipe.nextSubmissionTicket

variable {pipe next : CpuPipeline slotCount} {staged rest : List (Fin slotCount)}
  {batch index : Fin slotCount}

theorem Staged.nodup (inOrder : pipe.Staged staged) : staged.Nodup :=
  inOrder.tickets.imp fun {first snd} pre same => by simp [same] at pre

theorem Staged.ticket_inj (inOrder : pipe.Staged staged) {first second : Fin slotCount}
    (isFirst : first ∈ staged) (isSecond : second ∈ staged)
    (same : (pipe.stagingSlots first).submissionTicket =
      (pipe.stagingSlots second).submissionTicket) : first = second := by
  have dist : (staged.map fun index => (pipe.stagingSlots index).submissionTicket).Nodup :=
    List.pairwise_map.mpr (inOrder.tickets.imp Nat.ne_of_lt)
  exact List.inj_on_of_nodup_map dist isFirst isSecond same

/-- The pump reads the pending slots in their order. -/
theorem Staged.order (inOrder : pipe.Staged staged) :
    pipe.oldestPendingReadbackOrder.filter pipe.stagingPolicy.pending = staged := by
  -- Tickets order the pending slots, and nothing else is left of the order.
  have total : Std.Total fun left right => (!pipe.readBefore right left) = true :=
    ⟨fun left right => by grind [readBefore]⟩
  have transitive : IsTrans (Fin slotCount) fun left right =>
      (!pipe.readBefore right left) = true := ⟨fun first snd third => by grind [readBefore]⟩
  have sorted := List.pairwise_insertionSort
    (fun left right => (!pipe.readBefore right left) = true) (List.finRange slotCount)
  have older : (pipe.oldestPendingReadbackOrder.filter pipe.stagingPolicy.pending).Pairwise
      fun first snd => (pipe.stagingSlots first).submissionTicket ≤
        (pipe.stagingSlots snd).submissionTicket := by
    refine (sorted.filter pipe.stagingPolicy.pending).imp_of_mem
      fun {first snd} isFirst isSecond pre => ?_
    have firstPending := (List.mem_filter.mp isFirst).2
    have secondPending := (List.mem_filter.mp isSecond).2
    simpa [readBefore, firstPending, secondPending] using pre
  have dist : (pipe.oldestPendingReadbackOrder.filter pipe.stagingPolicy.pending).Nodup :=
    ((List.perm_insertionSort _ _).nodup_iff.mpr (List.nodup_finRange slotCount)).filter _
  have same : (pipe.oldestPendingReadbackOrder.filter pipe.stagingPolicy.pending).Perm
      staged := by
    refine (List.perm_ext_iff_of_nodup dist inOrder.nodup).mpr fun index => ?_
    simp [oldestPendingReadbackOrder, inOrder.pending]
  exact same.eq_of_pairwise (fun first snd isFirst isSecond pre after =>
    inOrder.ticket_inj (same.subset isFirst) isSecond (Nat.le_antisymm pre after)) older
    (inOrder.tickets.imp Nat.le_of_lt)

theorem Staged.release (inOrder : pipe.Staged (index :: rest)) :
    ({ pipe with stagingPolicy := pipe.stagingPolicy.release index } :
      CpuPipeline slotCount).Staged rest := by
  have apart := (List.nodup_cons.mp inOrder.nodup).1
  refine ⟨fun other => ?_, (List.pairwise_cons.mp inOrder.tickets).2,
    fun other mem => inOrder.issued other (List.mem_cons_of_mem index mem)⟩
  simp only [PendingSlotPolicy.release]
  by_cases same : other = index
  · subst same
    simp [apart]
  · rw [Function.update_of_ne same, inOrder.pending other, List.mem_cons]
    simp [same]

/-- The batch is none of the slots of the worker, so writing it changes nothing in front. -/
theorem front_update (owned : pipe.cpuPolicy.Owned (some batch) pipe.worker.holds)
    (frame : FrameMetadata) :
    ({ pipe with cpuSlots := update pipe.cpuSlots batch frame } :
      CpuPipeline slotCount).front = pipe.front := by
  have hand : ({ pipe with cpuSlots := update pipe.cpuSlots batch frame } :
      CpuPipeline slotCount).inHand = pipe.inHand := by
    unfold inHand
    dsimp only
    split
    next held point =>
      have working := owned.working
      rw [point] at working
      rw [Function.update_of_ne (working.apart owned.writing (by simp))]
    · rfl
  have mailbox : ({ pipe with cpuSlots := update pipe.cpuSlots batch frame } :
      CpuPipeline slotCount).inSlot pipe.cpuPolicy.mailbox =
        pipe.inSlot pipe.cpuPolicy.mailbox := by
    have isMailbox := owned.mailbox
    cases full : pipe.cpuPolicy.mailbox with
    | none => rfl
    | some pend =>
      rw [full] at isMailbox
      simp only [inSlot]
      rw [Function.update_of_ne (isMailbox.apart owned.writing (by simp))]
  unfold front
  rw [hand]
  exact congrArg _ (congrArg _ mailbox)

structure SameWorker (pipe next : CpuPipeline slotCount) : Prop where
  worker : next.worker = pipe.worker
  currentFrame : next.currentFrame = pipe.currentFrame
  taken : next.taken = pipe.taken
  encoded : next.encoded = pipe.encoded

/-- What a part of a pump does: the worker's side is as it was, and the line is kept. -/
structure Pumped (pipe : CpuPipeline slotCount) (batch : Option (Fin slotCount))
    (staged : List (Fin slotCount)) (next : CpuPipeline slotCount)
    (nextBatch : Option (Fin slotCount)) (nextStaged : List (Fin slotCount)) : Prop where
  same : SameWorker pipe next
  ticket : next.nextSubmissionTicket = pipe.nextSubmissionTicket
  inOrder : next.Staged nextStaged
  owned : next.cpuPolicy.Owned nextBatch next.worker.holds
  line : LineKept (pipe.queued batch staged) (next.queued nextBatch nextStaged)

variable {holder between last : Option (Fin slotCount)} {later : List (Fin slotCount)}

theorem SameWorker.trans {final : CpuPipeline slotCount} (first : SameWorker pipe next)
    (snd : SameWorker next final) : SameWorker pipe final where
  worker := snd.worker.trans first.worker
  currentFrame := snd.currentFrame.trans first.currentFrame
  taken := snd.taken.trans first.taken
  encoded := snd.encoded.trans first.encoded

theorem Pumped.refl (inOrder : pipe.Staged staged)
    (owned : pipe.cpuPolicy.Owned holder pipe.worker.holds) :
    Pumped pipe holder staged pipe holder staged :=
  ⟨⟨rfl, rfl, rfl, rfl⟩, rfl, inOrder, owned, LineKept.refl _⟩

theorem Pumped.trans {final : CpuPipeline slotCount} {lastStaged : List (Fin slotCount)}
    (first : Pumped pipe holder staged next between later)
    (snd : Pumped next between later final last lastStaged) :
    Pumped pipe holder staged final last lastStaged where
  same := first.same.trans snd.same
  ticket := snd.ticket.trans first.ticket
  inOrder := snd.inOrder
  owned := snd.owned
  line := first.line.trans snd.line

theorem queued_cons :
    pipe.queued holder (index :: rest) = pipe.front ++ (pipe.inSlot holder ++
      (pipe.stagingSlots index).metadata ::
        rest.map fun index => (pipe.stagingSlots index).metadata) := rfl

theorem copyToBatch_queued (owned : pipe.cpuPolicy.Owned (some batch) pipe.worker.holds) :
    (pipe.copyToBatch batch index).queued (some batch) rest =
      pipe.front ++ (pipe.stagingSlots index).metadata ::
        rest.map fun index => (pipe.stagingSlots index).metadata := by
  have front := front_update owned (pipe.stagingSlots index).metadata
  change ({ pipe with
    cpuSlots := update pipe.cpuSlots batch (pipe.stagingSlots index).metadata } :
      CpuPipeline slotCount).front ++ _ = _
  rw [front]
  simp [inSlot, copyToBatch]

theorem foldIntoBatch_policy :
    (pipe.foldIntoBatch batch index).stagingPolicy = pipe.stagingPolicy.release index := by
  unfold foldIntoBatch
  split
  · rfl
  · rfl

theorem copyToBatch_pumped (inOrder : pipe.Staged (index :: rest))
    (owned : pipe.cpuPolicy.Owned none pipe.worker.holds)
    {cpuPolicy : LatestOnlySlotPolicy slotCount}
    (got : pipe.cpuPolicy.acquireForWrite = (cpuPolicy, some batch)) :
    Pumped pipe none (index :: rest) ({ pipe with cpuPolicy }.copyToBatch batch index)
      (some batch) rest := by
  have writing := owned.acquireForWrite got
  obtain ⟨-, same⟩ := LatestOnlySlotPolicy.acquireForWrite_some got
  have front : ({ pipe with cpuPolicy } : CpuPipeline slotCount).front = pipe.front := by
    rw [same]
    rfl
  have queued : ({ pipe with cpuPolicy }.copyToBatch batch index).queued (some batch) rest =
      pipe.queued none (index :: rest) := by
    have line : ({ pipe with cpuPolicy }.copyToBatch batch index).queued (some batch) rest =
        ({ pipe with cpuPolicy } : CpuPipeline slotCount).front ++
          (pipe.stagingSlots index).metadata ::
            rest.map fun index => (pipe.stagingSlots index).metadata := copyToBatch_queued writing
    rw [line, front, queued_cons]
    rfl
  refine ⟨⟨rfl, rfl, rfl, rfl⟩, rfl, ?_, writing, ?_⟩
  · have ⟨pending, tickets, issued⟩ := inOrder.release
    exact ⟨pending, tickets, issued⟩
  · rw [queued]
    exact LineKept.refl _

theorem foldIntoBatch_pumped (inOrder : pipe.Staged (index :: rest))
    (owned : pipe.cpuPolicy.Owned (some batch) pipe.worker.holds) :
    Pumped pipe (some batch) (index :: rest) (pipe.foldIntoBatch batch index) (some batch)
      rest := by
  have ⟨pending, tickets, issued⟩ := inOrder.release
  unfold foldIntoBatch
  split
  next supersedes =>
    refine ⟨⟨rfl, rfl, rfl, rfl⟩, rfl, ⟨pending, tickets, issued⟩, owned, ?_⟩
    rw [copyToBatch_queued owned, queued_cons]
    exact LineKept.displace supersedes
  next stays =>
    refine ⟨⟨rfl, rfl, rfl, rfl⟩, rfl, ⟨pending, tickets, issued⟩, owned, ?_⟩
    simp only [repeatedFrameCanSupersedeMailbox, Bool.or_eq_true, Bool.not_eq_true', not_or,
      Bool.not_eq_false] at stays
    have line : LineKept (pipe.front ++ pipe.inSlot (some batch) ++
        (pipe.stagingSlots index).metadata ::
          rest.map fun index => (pipe.stagingSlots index).metadata)
        (pipe.front ++ pipe.inSlot (some batch) ++
          rest.map fun index => (pipe.stagingSlots index).metadata) := LineKept.drop_repeat stays.1
    rw [List.append_assoc, List.append_assoc] at line
    exact line

theorem filter_release {order : List (Fin slotCount)} {pol : PendingSlotPolicy slotCount}
    (apart : index ∉ order) :
    order.filter (pol.release index).pending = order.filter pol.pending := by
  refine List.filter_congr fun other mem => ?_
  simp only [PendingSlotPolicy.release]
  rw [Function.update_of_ne (by rintro rfl; exact apart mem)]

/-- The loop reads the pending slots in their order, up to where it ends. -/
theorem collect_pumped {ready : Fin slotCount → Bool} {order : List (Fin slotCount)}
    (dist : order.Nodup)
    (inOrder : pipe.Staged (order.filter pipe.stagingPolicy.pending))
    (owned : pipe.cpuPolicy.Owned holder pipe.worker.holds) :
    ∃ rest, Pumped pipe holder (order.filter pipe.stagingPolicy.pending)
      (collect ready order pipe holder).1 (collect ready order pipe holder).2 rest := by
  induction order generalizing pipe holder with
  | nil => exact ⟨_, Pumped.refl inOrder owned⟩
  | cons index order ih =>
    obtain ⟨apart, distinctOrder⟩ := List.nodup_cons.mp dist
    unfold collect
    cases pend : pipe.stagingPolicy.pending index with
    | false =>
      simp only [List.filter_cons, pend, Bool.false_eq_true, if_false] at inOrder ⊢
      exact ih distinctOrder inOrder owned
    | true =>
      simp only [List.filter_cons, pend, if_true] at inOrder ⊢
      cases ready index with
      | false => exact ⟨_, Pumped.refl inOrder owned⟩
      | true =>
        cases holder with
        | some batch =>
          have folded := foldIntoBatch_pumped inOrder owned
          have same : order.filter (pipe.foldIntoBatch batch index).stagingPolicy.pending =
              order.filter pipe.stagingPolicy.pending := by
            rw [foldIntoBatch_policy, filter_release apart]
          obtain ⟨rest, others⟩ := ih distinctOrder (same ▸ folded.inOrder) folded.owned
          rw [same] at others
          exact ⟨rest, folded.trans others⟩
        | none =>
          cases got : pipe.cpuPolicy.acquireForWrite with
          | mk cpuPolicy batch =>
            cases batch with
            | none => exact ⟨_, Pumped.refl inOrder owned⟩
            | some batch =>
              have copied := copyToBatch_pumped inOrder owned got
              have same : order.filter ({ pipe with cpuPolicy }.copyToBatch batch
                  index).stagingPolicy.pending =
                    order.filter pipe.stagingPolicy.pending := filter_release apart
              obtain ⟨rest, others⟩ := ih distinctOrder (same ▸ copied.inOrder) copied.owned
              rw [same] at others
              exact ⟨rest, copied.trans others⟩

theorem pump_pumped (inOrder : pipe.Staged staged)
    (owned : pipe.cpuPolicy.Owned none pipe.worker.holds) {ready : Fin slotCount → Bool}
    (collected : collect ready pipe.oldestPendingReadbackOrder pipe none = (next, between)) :
    ∃ later, Pumped pipe none staged next.notePending between later := by
  have dist : pipe.oldestPendingReadbackOrder.Nodup :=
    (List.perm_insertionSort _ _).nodup_iff.mpr (List.nodup_finRange slotCount)
  have pumped := @collect_pumped _ pipe none ready _ dist
    (inOrder.order.symm ▸ inOrder) owned
  rw [inOrder.order, collected] at pumped
  obtain ⟨later, ⟨worker, currentFrame, taken, enc⟩, ticket, ⟨pend, tickets, issued⟩,
    nextOwned, line⟩ := pumped
  exact ⟨later, ⟨worker, currentFrame, taken, enc⟩, ticket, ⟨pend, tickets, issued⟩,
    nextOwned, line⟩

theorem publishLatest_pumped (inOrder : pipe.Staged staged)
    (owned : pipe.cpuPolicy.Owned (some batch) pipe.worker.holds)
    (line : LineKept (pipe.queued (some batch) staged)
      (pipe.taken ++ pipe.inHand ++ pipe.cpuSlots batch ::
        staged.map fun index => (pipe.stagingSlots index).metadata)) :
    Pumped pipe (some batch) staged
      { pipe with cpuPolicy := pipe.cpuPolicy.publishLatest batch } none staged := by
  have ⟨pending, tickets, issued⟩ := inOrder
  have published : (pipe.cpuPolicy.publishLatest batch).mailbox = some batch := by
    simp [LatestOnlySlotPolicy.publishLatest, owned.writing.held]
  refine ⟨⟨rfl, rfl, rfl, rfl⟩, rfl, ⟨pending, tickets, issued⟩, owned.publishLatest, ?_⟩
  have after : ({ pipe with cpuPolicy := pipe.cpuPolicy.publishLatest batch } :
      CpuPipeline slotCount).queued none staged = pipe.taken ++ pipe.inHand ++
        pipe.cpuSlots batch :: staged.map fun index =>
          (pipe.stagingSlots index).metadata := by
    simp [queued, front, inSlot, inHand, published]
  rw [after]
  exact line

theorem cancelWrite_pumped (inOrder : pipe.Staged staged)
    (owned : pipe.cpuPolicy.Owned (some batch) pipe.worker.holds)
    (isRepeat : (pipe.cpuSlots batch).repeatedContent = true) :
    Pumped pipe (some batch) staged
      { pipe with cpuPolicy := pipe.cpuPolicy.cancelWrite batch } none staged := by
  have ⟨pending, tickets, issued⟩ := inOrder
  have kept : (pipe.cpuPolicy.cancelWrite batch).mailbox = pipe.cpuPolicy.mailbox := by
    simp [LatestOnlySlotPolicy.cancelWrite, owned.writing.held]
  refine ⟨⟨rfl, rfl, rfl, rfl⟩, rfl, ⟨pending, tickets, issued⟩, owned.cancelWrite, ?_⟩
  have after : ({ pipe with cpuPolicy := pipe.cpuPolicy.cancelWrite batch } :
      CpuPipeline slotCount).queued none staged = pipe.front ++
        staged.map fun index => (pipe.stagingSlots index).metadata := by
    simp only [queued, front, inHand, kept]
    rfl
  rw [after]
  exact LineKept.drop_repeat isRepeat

theorem publishBatch_pumped (inOrder : pipe.Staged staged)
    (owned : pipe.cpuPolicy.Owned (some batch) pipe.worker.holds) :
    Pumped pipe (some batch) staged (pipe.publishBatch batch) none staged := by
  unfold publishBatch
  cases full : pipe.cpuPolicy.mailbox with
  | none =>
    refine publishLatest_pumped inOrder owned ?_
    have pre : pipe.queued (some batch) staged = pipe.taken ++ pipe.inHand ++
        pipe.cpuSlots batch :: staged.map fun index =>
          (pipe.stagingSlots index).metadata := by
      simp [queued, front, inSlot, full]
    rw [pre]
    exact LineKept.refl _
  | some old =>
    dsimp only
    split
    next supersedes =>
      refine publishLatest_pumped inOrder owned ?_
      have pre : pipe.queued (some batch) staged = pipe.taken ++ pipe.inHand ++
          pipe.cpuSlots old :: pipe.cpuSlots batch :: staged.map fun index =>
            (pipe.stagingSlots index).metadata := by
        simp [queued, front, inSlot, full]
      rw [pre]
      exact LineKept.displace supersedes
    next stays =>
      simp only [repeatedFrameCanSupersedeMailbox, Bool.or_eq_true, Bool.not_eq_true', not_or,
        Bool.not_eq_false] at stays
      exact cancelWrite_pumped inOrder owned stays.1

theorem acquire_some {pol next : PendingSlotPolicy slotCount}
    (got : pol.acquire = (next, some index)) :
    pol.pending index = false ∧ next.pending = update pol.pending index true := by
  unfold PendingSlotPolicy.acquire at got
  dsimp only at got
  split at got
  · simp at got
  next found =>
  obtain ⟨rfl, rfl⟩ := got
  exact ⟨by simpa using List.find?_some found, rfl⟩

theorem stage_queued (inOrder : pipe.Staged staged)
    (room : pipe.nextSubmissionTicket < 2 ^ 64 - 1) {frame : FrameMetadata}
    (ok : pipe.stage frame = (next, true)) :
    ∃ later, Staged next later ∧ next.queued none later = pipe.queued none staged ++ [frame] ∧
      SameWorker pipe next ∧ next.cpuPolicy = pipe.cpuPolicy ∧
      next.nextSubmissionTicket = pipe.nextSubmissionTicket + 1 := by
  unfold stage at ok
  split at ok
  · simp at ok
  next policy index got =>
  obtain ⟨free, pend⟩ := acquire_some got
  simp only [Prod.mk.injEq, and_true] at ok
  subst ok
  have apart : index ∉ staged := fun mem => by
    simpa [free] using (inOrder.pending index).mpr mem
  have others : ∀ other ∈ staged, update pipe.stagingSlots index
      ⟨frame, pipe.nextSubmissionTicket⟩ other = pipe.stagingSlots other := by
    intro other mem
    rw [Function.update_of_ne (by rintro rfl; exact apart mem)]
  refine ⟨staged ++ [index], ⟨fun other => ?_, ?_, ?_⟩, ?_, ⟨rfl, rfl, rfl, rfl⟩, rfl,
    DesktopVideoAgent.nextNumber_eq room⟩
  · rw [pend]
    by_cases same : other = index
    · subst same
      simp
    · rw [Function.update_of_ne same, inOrder.pending other]
      simp [same]
  · refine List.pairwise_append.mpr ⟨inOrder.tickets.imp_of_mem fun isFirst isSecond pre => ?_,
      List.pairwise_singleton _ _, fun other mem latest isLatest => ?_⟩
    · dsimp only
      rw [others _ isFirst, others _ isSecond]
      exact pre
    · obtain rfl := List.mem_singleton.mp isLatest
      dsimp only
      rw [others other mem, Function.update_self]
      exact inOrder.issued other mem
  · intro other mem
    rw [DesktopVideoAgent.nextNumber_eq room]
    rcases List.mem_append.mp mem with old | isLatest
    · dsimp only
      rw [others other old]
      exact Nat.lt_succ_of_lt (inOrder.issued other old)
    · obtain rfl := List.mem_singleton.mp isLatest
      dsimp only
      rw [Function.update_self]
      exact Nat.lt_succ_self _
  · have same : staged.map (fun other => (update pipe.stagingSlots index
        ⟨frame, pipe.nextSubmissionTicket⟩ other).metadata) =
          staged.map fun other => (pipe.stagingSlots other).metadata :=
      List.map_congr_left fun other mem => by rw [others other mem]
    unfold queued
    rw [List.map_append, same]
    simp [front, inHand, inSlot]

/-- What is encoded keeps up with what is taken. -/
structure Worked (pipe : CpuPipeline slotCount) : Prop where
  seen : Seen pipe.encoded
  current : ∀ frame, pipe.currentFrame = some frame → frame ∈ pipe.taken
  /-- The frame that was taken last may be missing until it is encoded. -/
  fresh : pipe.worker = .encoding false → ∃ earlier frame,
    pipe.currentFrame = some frame ∧ pipe.taken = earlier ++ [frame] ∧
      ∀ content, Shown earlier content → Shown pipe.encoded content
  caught : pipe.worker ≠ .encoding false →
    ∀ content, Shown pipe.taken content → Shown pipe.encoded content

theorem Worked.same (worked : Worked pipe) (same : SameWorker pipe next) : Worked next := by
  obtain ⟨worker, currentFrame, taken, enc⟩ := same
  obtain ⟨seen, cur, fresh, caught⟩ := worked
  exact ⟨by rw [enc]; exact seen, by rw [currentFrame, taken]; exact cur,
    by rw [worker, currentFrame, taken, enc]; exact fresh,
    by rw [worker, taken, enc]; exact caught⟩

structure SameStaging (pipe next : CpuPipeline slotCount) : Prop where
  stagingPolicy : next.stagingPolicy = pipe.stagingPolicy
  stagingSlots : next.stagingSlots = pipe.stagingSlots
  ticket : next.nextSubmissionTicket = pipe.nextSubmissionTicket
  cpuSlots : next.cpuSlots = pipe.cpuSlots

/-- A step of the worker leaves the line as it is. -/
structure WorkStep (pipe : CpuPipeline slotCount) (holder : Option (Fin slotCount))
    (next : CpuPipeline slotCount) : Prop where
  same : SameStaging pipe next
  front : next.front = pipe.front
  owned : next.cpuPolicy.Owned holder next.worker.holds

theorem work_step (owned : pipe.cpuPolicy.Owned holder pipe.worker.holds) (due : Bool) :
    WorkStep pipe holder (pipe.work due) := by
  unfold work
  cases point : pipe.worker with
  | waiting =>
    rw [point] at owned
    dsimp only
    unfold takeLatest
    split
    · exact ⟨⟨rfl, rfl, rfl, rfl⟩, by simp [front, inHand, inSlot, point], owned⟩
    next taken =>
      obtain ⟨was, same⟩ := LatestOnlySlotPolicy.takeLatest_some taken
      exact ⟨⟨rfl, rfl, rfl, rfl⟩, by simp [front, inHand, inSlot, point, was, same],
        owned.takeLatest taken⟩
  | idle =>
    rw [point] at owned
    dsimp only
    unfold repeatIdle
    split
    · exact ⟨⟨rfl, rfl, rfl, rfl⟩, by simp [front, inHand, inSlot, point], owned⟩
    split
    · exact ⟨⟨rfl, rfl, rfl, rfl⟩, by simp [front, inHand, inSlot, point], owned⟩
    split
    · exact ⟨⟨rfl, rfl, rfl, rfl⟩, by simp [front, inHand, inSlot, point], owned⟩
    · exact ⟨⟨rfl, rfl, rfl, rfl⟩, by simp [front, inHand, inSlot, point], owned⟩
  | uploading index =>
    rw [point] at owned
    have working := owned.working.held
    refine ⟨⟨rfl, rfl, rfl, rfl⟩, ?_, owned.releaseWorker⟩
    simp [upload, front, inHand, inSlot, point, LatestOnlySlotPolicy.releaseWorker, working]
  | encoding cadenceRepeat =>
    rw [point] at owned
    dsimp only
    unfold encode
    split
    · exact ⟨⟨rfl, rfl, rfl, rfl⟩, by simp [front, inHand, inSlot, point], owned⟩
    · exact ⟨⟨rfl, rfl, rfl, rfl⟩, by simp [front, inHand, inSlot, point], owned⟩

theorem Worked.work (worked : Worked pipe) (told : Seen pipe.taken) (due : Bool) :
    Worked (pipe.work due) := by
  have ⟨seen, cur, fresh, caught⟩ := worked
  unfold CpuPipeline.work
  cases point : pipe.worker with
  | waiting =>
    rw [point] at caught
    dsimp only
    unfold takeLatest
    split
    · exact ⟨seen, cur, by simp, fun _ => caught (by simp)⟩
    · exact ⟨seen, cur, by simp, fun _ => caught (by simp)⟩
  | idle =>
    rw [point] at caught
    dsimp only
    unfold repeatIdle
    split
    · exact ⟨seen, cur, by simp, fun _ => caught (by simp)⟩
    split
    · exact ⟨seen, cur, by simp, fun _ => caught (by simp)⟩
    split
    · exact ⟨seen, cur, by simp, fun _ => caught (by simp)⟩
    · exact ⟨seen, cur, by simp, fun _ => caught (by simp)⟩
  | uploading index =>
    rw [point] at caught
    exact ⟨seen, by simp [upload],
      fun _ => ⟨pipe.taken, pipe.cpuSlots index, rfl, rfl, caught (by simp)⟩, by simp [upload]⟩
  | encoding cadenceRepeat =>
    dsimp only
    unfold encode
    split
    next missing =>
      cases cadenceRepeat with
      | true => exact ⟨seen, cur, by simp, fun _ => caught (by simp [point])⟩
      | false =>
        obtain ⟨_, frame, is, -⟩ := fresh point
        simp [missing] at is
    next frame isFrame =>
      cases cadenceRepeat with
      | true =>
        -- The frame repeats itself, and it or its original has been encoded.
        have original := caught (by simp [point]) _ (told.original (cur frame isFrame))
        exact ⟨told_append.mpr ⟨seen, fun _ => original⟩, cur, by simp,
          fun _ content shown => (caught (by simp [point]) content shown).append_left⟩
      | false =>
        obtain ⟨old, last, is, taken, shown⟩ := fresh point
        obtain rfl : frame = last := by simpa [isFrame] using is
        have isTold := (told_append.mp (taken ▸ told)).2
        simp only [Bool.or_false]
        refine ⟨told_append.mpr ⟨seen, fun isRepeat => shown _ (isTold isRepeat)⟩, cur,
          by simp, fun _ content found => ?_⟩
        rw [taken] at found
        obtain ⟨original, mem, isOriginal, enough⟩ := found
        rcases List.mem_append.mp mem with pre | isLast
        · exact (shown content ⟨original, pre, isOriginal, enough⟩).append_left
        · obtain rfl := List.mem_singleton.mp isLast
          exact ⟨original, List.mem_append_right _ (List.mem_singleton_self _), isOriginal, enough⟩

end CpuPipeline

def CapturePoint.batch : CapturePoint slotCount → Option (Fin slotCount)
  | .publishing batch _ => some batch
  | _ => none

def CapturePoint.frames : CapturePoint slotCount → List FrameMetadata
  | .idle => []
  | .publishing _ frame => frame.toList
  | .staging frame => [frame]

theorem thenStage_batch (frame : Option FrameMetadata) :
    (CpuHost.thenStage frame : CapturePoint slotCount).batch = none := by
  cases frame with
  | none | some => rfl

theorem thenStage_frames (frame : Option FrameMetadata) :
    (CpuHost.thenStage frame : CapturePoint slotCount).frames = frame.toList := by
  cases frame with
  | none | some => rfl

namespace DesktopVideoAgent

variable {agent next : DesktopVideoAgent} {line : List FrameMetadata} {outcome : CaptureOutcome}
  {frame : Option FrameMetadata}

theorem capture_room (numbers : agent.HasNumbers) (captured : agent.capture outcome = (next, frame)) :
    agent.nextSourceSequence + frame.toList.length ≤ next.nextSourceSequence ∧
      next.nextSourceSequence < 2 ^ 64 := by
  have room := numbers.2
  have seq := nextNumber_eq room
  cases outcome with
  | image | lost | refused | nothing =>
    simp only [capture, label, copyImage, Prod.mk.injEq] at captured
    obtain ⟨rfl, rfl⟩ := captured
    simp only [Option.toList_some, Option.toList_none, List.length_singleton, List.length_nil]
    omega
  | retained =>
    simp only [capture] at captured
    split at captured
    · obtain ⟨rfl, rfl⟩ := captured
      simp only [Option.toList_none, List.length_nil]
      omega
    · simp only [label, Prod.mk.injEq] at captured
      obtain ⟨rfl, rfl⟩ := captured
      simp only [Option.toList_some, List.length_singleton]
      omega

theorem Submitted.capture (hsub : agent.Submitted line) (numbers : agent.HasNumbers)
    (shown : agent.lastSubmittedContentSequence ≠ 0 → Shown line agent.lastSubmittedContentSequence)
    (captured : agent.capture outcome = (next, frame)) :
    next.Submitted (line ++ frame.toList) ∧
      next.lastSubmittedContentSequence = agent.lastSubmittedContentSequence := by
  cases frame with
  | none =>
    rw [Option.toList_none, List.append_nil]
    exact hsub.capture_none numbers captured
  | some frame =>
    have labelled := capture_labelled numbers captured
    exact ⟨hsub.label shown labelled, labelled.last⟩

end DesktopVideoAgent

namespace CpuHost

structure Sighted (host : CpuHost slotCount) (staged : List (Fin slotCount)) : Prop where
  owned : host.pipeline.cpuPolicy.Owned host.capture.batch host.pipeline.worker.holds
  inOrder : host.pipeline.Staged staged
  submitted : host.agent.Submitted
    (host.pipeline.queued host.capture.batch staged ++ host.capture.frames)
  shown : host.agent.lastSubmittedContentSequence ≠ 0 →
    Shown (host.pipeline.queued host.capture.batch staged) host.agent.lastSubmittedContentSequence
  tickets : host.pipeline.nextSubmissionTicket + host.capture.frames.length ≤
    host.agent.nextSourceSequence
  room : host.agent.nextSourceSequence < 2 ^ 64
  worked : host.pipeline.Worked

variable {host : CpuHost slotCount} {staged : List (Fin slotCount)}

theorem Sighted.front (sighted : host.Sighted staged) : host.agent.Submitted host.pipeline.front :=
  sighted.submitted.of_append.of_append

theorem Sighted.work (sighted : host.Sighted staged) (due : Bool) :
    ({ host with pipeline := host.pipeline.work due } : CpuHost slotCount).Sighted staged := by
  obtain ⟨⟨pol, slots, ticket, cpuSlots⟩, front, owned⟩ :=
    CpuPipeline.work_step sighted.owned due
  have told := sighted.front.of_append.seen
  obtain ⟨-, ⟨pending, tickets, issued⟩, hsub, shown, inFlight, room, worked⟩ := sighted
  have queued : (host.pipeline.work due).queued host.capture.batch staged =
      host.pipeline.queued host.capture.batch staged := by
    unfold CpuPipeline.queued CpuPipeline.inSlot
    rw [front, slots, cpuSlots]
  refine ⟨owned, ⟨?_, ?_, ?_⟩, ?_, ?_, ?_, room, worked.work told due⟩
  · rw [pol]
    exact pending
  · rw [slots]
    exact tickets
  · rw [slots, ticket]
    exact issued
  · rw [queued]
    exact hsub
  · rw [queued]
    exact shown
  · rw [ticket]
    exact inFlight

/-- A part of a pump, whatever the capture thread does next. -/
theorem Sighted.pumped {agent : DesktopVideoAgent} {capture : CapturePoint slotCount}
    {pipe : CpuPipeline slotCount} {batch : Option (Fin slotCount)}
    {later : List (Fin slotCount)}
    (pumped : CpuPipeline.Pumped host.pipeline batch staged pipe capture.batch later)
    (submitted : agent.Submitted (host.pipeline.queued batch staged ++ capture.frames))
    (shown : agent.lastSubmittedContentSequence ≠ 0 →
      Shown (host.pipeline.queued batch staged) agent.lastSubmittedContentSequence)
    (tickets : host.pipeline.nextSubmissionTicket + capture.frames.length ≤
      agent.nextSourceSequence)
    (room : agent.nextSourceSequence < 2 ^ 64) (worked : host.pipeline.Worked) :
    ({ agent, capture, pipeline := pipe } : CpuHost slotCount).Sighted later where
  owned := pumped.owned
  inOrder := pumped.inOrder
  submitted := pumped.line.1 agent _ submitted
  shown := fun some => pumped.line.2 agent submitted.of_append _ (shown some)
  tickets := by
    rw [pumped.ticket]
    exact tickets
  room := room
  worked := worked.same pumped.same

theorem Sighted.publishNext (sighted : host.Sighted staged) {outcome : CaptureOutcome}
    {ready : Fin slotCount → Bool} (numbers : host.agent.HasNumbers) :
    ∃ later, (host.publishNext outcome ready).Sighted later := by
  unfold CpuHost.publishNext
  split
  next idle =>
    obtain ⟨owned, inOrder, hsub, shown, tickets, room, worked⟩ := sighted
    rw [idle] at owned hsub shown tickets
    rw [CapturePoint.frames, List.append_nil] at hsub
    cases captured : host.agent.capture outcome with
    | mk agent frame =>
      obtain ⟨longer, last⟩ := hsub.capture numbers shown captured
      obtain ⟨sequences, roomNext⟩ := DesktopVideoAgent.capture_room numbers captured
      have inFlight : host.pipeline.nextSubmissionTicket + frame.toList.length ≤
          agent.nextSourceSequence := Nat.le_trans (Nat.add_le_add_right tickets _) sequences
      cases collected : CpuPipeline.collect ready host.pipeline.oldestPendingReadbackOrder
          host.pipeline none with
      | mk pipe batch =>
        obtain ⟨later, pumped⟩ := CpuPipeline.pump_pumped inOrder owned collected
        refine ⟨later, ?_⟩
        cases batch with
        | none =>
          have staging : CpuPipeline.Pumped host.pipeline none staged pipe.notePending
              (thenStage frame).batch later := by
            rw [thenStage_batch]
            exact pumped
          refine Sighted.pumped staging ?_ ?_ ?_ roomNext worked
          · rw [thenStage_frames]
            exact longer
          · rw [last]
            exact shown
          · rw [thenStage_frames]
            exact inFlight
        | some batch =>
          refine Sighted.pumped pumped longer ?_ inFlight roomNext worked
          rw [last]
          exact shown
  · exact ⟨staged, sighted⟩

theorem Sighted.goOn (sighted : host.Sighted staged) : ∃ later, host.goOn.Sighted later := by
  have ⟨owned, inOrder, hsub, shown, tickets, room, worked⟩ := sighted
  unfold CpuHost.goOn
  split
  · exact ⟨staged, sighted⟩
  next batch frame point =>
    rw [point] at owned hsub shown tickets
    have pumped := CpuPipeline.publishBatch_pumped inOrder owned
    refine ⟨staged, Sighted.pumped ?_ ?_ shown ?_ room worked⟩
    · rw [thenStage_batch]
      exact pumped
    · rw [thenStage_frames]
      exact hsub
    · rw [thenStage_frames]
      exact tickets
  next frame point =>
    rw [point] at owned hsub shown tickets
    simp only [CapturePoint.batch, CapturePoint.frames] at owned hsub shown tickets
    rw [List.length_singleton] at tickets
    split
    · refine ⟨staged, owned, inOrder, ?_, shown, Nat.le_of_succ_le tickets, room, worked⟩
      rw [CapturePoint.frames, List.append_nil]
      exact hsub.of_append
    next pipe ok =>
      obtain ⟨later, laterOrder, queued, same, pol, ticket⟩ :=
        CpuPipeline.stage_queued inOrder (by omega) ok
      refine ⟨later, ?_, laterOrder, ?_, fun _ => ?_, ?_, room, worked.same same⟩
      · rw [pol, same.worker]
        exact owned
      · change (host.agent.accepted frame).Submitted (pipe.queued none later ++ [])
        rw [List.append_nil, queued]
        exact ⟨hsub.seen, hsub.inOrder, hsub.sequences, hsub.contents⟩
      · change Shown (pipe.queued none later) frame.contentSequence
        rw [queued]
        exact hsub.seen.original (by simp)
      · rw [ticket]
        exact tickets

theorem fresh_sighted : ({} : CpuHost slotCount).Sighted [] where
  owned := ⟨tracks_none (by simp), tracks_none (by simp), tracks_none (by simp)⟩
  inOrder := ⟨by simp, List.Pairwise.nil, by simp⟩
  submitted := ⟨told_nil, List.Pairwise.nil, by simp [CpuPipeline.queued, CpuPipeline.front,
    CpuPipeline.inHand, CpuPipeline.inSlot, CapturePoint.batch, CapturePoint.frames], by
    simp [CpuPipeline.queued, CpuPipeline.front, CpuPipeline.inHand, CpuPipeline.inSlot,
      CapturePoint.batch, CapturePoint.frames]⟩
  shown := by simp
  tickets := by simp [CapturePoint.frames]
  room := by simp
  worked := ⟨told_nil, by simp, by simp, fun _ _ => id⟩

theorem Sighted.step (sighted : host.Sighted staged) {move : CpuHostMove slotCount}
    (kept : ¬ host.Exhausts move) : ∃ later, (host.step move).Sighted later := by
  cases move with
  | publishNext outcome ready =>
    by_cases numbers : host.agent.HasNumbers
    · exact sighted.publishNext numbers
    · exact absurd ⟨outcome, ready, rfl, numbers⟩ kept
  | goOn => exact sighted.goOn
  | work due => exact ⟨staged, sighted.work due⟩

/-- Repeats are seen after their originals, and frames are taken in order, in every run that has
numbers for its frames. -/
theorem cpu_observations (moves : List (CpuHostMove slotCount))
    (kept : Each (fun pre move => ¬ (run pre : CpuHost slotCount).Exhausts move) moves) :
    Seen (run moves : CpuHost slotCount).pipeline.encoded ∧
      InOrder (run moves : CpuHost slotCount).pipeline.taken := by
  obtain ⟨staged, sighted⟩ := @foldl_invariant _ moves _ step ({} : CpuHost slotCount)
    (fun host => ∃ staged, host.Sighted staged) (fun host move => ¬ host.Exhausts move)
    ⟨[], fresh_sighted⟩ (fun _ _ ⟨_, sighted⟩ kept => sighted.step kept) kept
  exact ⟨sighted.worked.seen, sighted.front.of_append.inOrder⟩

end CpuHost

end VisionForge.HostVideo
