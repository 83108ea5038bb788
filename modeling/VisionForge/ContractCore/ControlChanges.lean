import VisionForge.ContractCore.ControlCommandCoordinator

/-! # What a call does to the coordinator of control commands

Each call does one of a few things. The invariant is what makes the others impossible: a command
keeps a valid source frame until its effect was seen.
-/

namespace VisionForge.ContractCore.ControlCommandCoordinator

open Lib.Methods

def terminal (result : TicketResult) : Bool :=
  result == .completed || result == .expired || result == .cancelled

structure Orderly (coord : ControlCommandCoordinator) : Prop where
  source_valid : ∀ source, coord.sourceFrame = some source → source.valid = true
  pending_source : coord.ticket.pending = true → ∃ source,
    coord.sourceFrame = some source ∧ ⟨coord.ticket.ticketId, source⟩ ∈ coord.commands
  /-- Every command has ended, in their order, but for the pending one. -/
  begun : coord.commands.map (·.ticketId) = coord.ticket.ended.map (·.1) ++
    (if coord.ticket.pending then [coord.ticket.ticketId] else [])
  increasing : (coord.commands.map (·.ticketId)).Pairwise (· < ·)
  bounded : ∀ command ∈ coord.commands, command.ticketId ≤ coord.ticket.highestTicketId
  terminal : ∀ entry ∈ coord.ticket.ended, terminal entry.2 = true

/-- The frame is good and the gate, if it is armed, lets it pass. -/
def confirms (coord : ControlCommandCoordinator) : ControlCall → Bool
  | .observeFrame frame contentUpdated observedAt now =>
    frame.valid && decide (observedAt ≤ now) && !coord.ticket.pending &&
      (!coord.visibility.armed ||
        !coord.visibility.recoveryRequired && decide (now < coord.visibility.deadline) &&
          contentUpdated &&
          coord.visibility.identityAdvanced frame.streamEpoch frame.frameSequence &&
          coord.visibility.timestampValid observedAt now)
  | _ => false

variable {frame : FrameIdentity}

inductive Change (coord : ControlCommandCoordinator) :
    ControlCall → ControlCommandCoordinator → Prop where
  | nothing {call} (noRecovery : ∀ now, call ≠ .onRecoveryVerified now)
      (noInvalid : ∀ frame updated observedAt now, call = .observeFrame frame updated observedAt now →
        frame.valid = true ∧ observedAt ≤ now) : Change coord call coord
  | begun {ticketId source deadline now ticket} (valid : source.valid = true)
      (unarmed : coord.visibility.armed = false)
      (accepted : coord.ticket.begin ticketId deadline = .ok ticket) :
      Change coord (.begin ticketId source deadline now) ({ coord with
        ticket := ticket
        sourceFrame := some source
        commandStartedAt := some now
        commands := coord.commands ++ [Command.mk ticketId source] }.block .ticketPending now)
  | expired {call} (pending : coord.ticket.pending = true)
      (noRecovery : ∀ now, call ≠ .onRecoveryVerified now) :
      Change coord call
        ({ coord with ticket := coord.ticket.finish .expired }.block
          .ticketDeadlineExpired call.now)
  | acknowledged {source acknowledgedAt now} (pending : coord.ticket.pending = true)
      (owned : coord.sourceFrame = some source) :
      Change coord (.onAck coord.ticket.ticketId acknowledgedAt now)
        ({ coord with
          ticket := coord.ticket.finish .completed
          visibility := { coord.visibility with
            sourceEpoch := source.streamEpoch
            sourceSequence := source.frameSequence
            ackTime := acknowledgedAt
            deadline := max now acknowledgedAt + nanosOfMilliseconds coord.visibility.timeout
            recoveryRequired := false
            armed := true }
          sourceFrame := some source }.block .waitingPostAckVisibility now)
  | invalidFrame {frame updated observedAt now} (invalid : frame.valid = false ∨ now < observedAt) :
      Change coord (.observeFrame frame updated observedAt now)
        (coord.block .recoveryExhausted now)
  | confirmed {frame updated observedAt now visibility}
      (passes : coord.confirms (.observeFrame frame updated observedAt now) = true)
      (unarmed : visibility.armed = false) :
      Change coord (.observeFrame frame updated observedAt now)
        { coord.block .runnable now with
          visibility := visibility
          sourceFrame := none
          commandStartedAt := none }
  | waiting {call} (armed : coord.visibility.armed = true)
      (noRecovery : ∀ now, call ≠ .onRecoveryVerified now) :
      Change coord call (coord.block .waitingPostAckVisibility call.now)
  | timedOut {call} (armed : coord.visibility.armed = true)
      (noRecovery : ∀ now, call ≠ .onRecoveryVerified now) :
      Change coord call
        ({ coord with visibility := { coord.visibility with recoveryRequired := true } }.block
          .postAckVisibilityTimeout call.now)
  | recovered {now} :
      Change coord (.onRecoveryVerified now) ({ coord with
        ticket := coord.ticket.cancel.2
        visibility := coord.visibility.reset
        sourceFrame := none
        commandStartedAt := none }.block .runnable now)

variable {coord : ControlCommandCoordinator}

theorem validateIdentity_ok (valid : frame.valid = true) :
    PostAckVisibilityGate.validateIdentity frame.streamEpoch frame.frameSequence.toUInt64 =
      .ok () := by
  have inRange : 0 < frame.streamEpoch ∧ frame.streamEpoch.toNat ≤ kMaxStreamEpoch := by
    simpa [FrameIdentity.valid] using valid
  have narrow : frame.frameSequence.toNat ≤ 0xffffffff := by
    have := frame.frameSequence.toNat_lt
    omega
  have nonzero : frame.streamEpoch ≠ 0 := by
    rintro zero
    simp [zero] at inRange
  simp [PostAckVisibilityGate.validateIdentity, nonzero, inRange.2, narrow]

theorem arm_ok (gate : PostAckVisibilityGate) (valid : frame.valid = true) (ackTime now : Int) :
    gate.arm frame.streamEpoch frame.frameSequence ackTime now = .ok { gate with
      sourceEpoch := frame.streamEpoch
      sourceSequence := frame.frameSequence
      ackTime := ackTime
      deadline := max now ackTime + nanosOfMilliseconds gate.timeout
      recoveryRequired := false
      armed := true } := by
  have later : ¬ max now ackTime + nanosOfMilliseconds gate.timeout ≤ ackTime := by
    have := gate.timeout_pos
    unfold nanosOfMilliseconds
    omega
  simp [PostAckVisibilityGate.arm, PostAckVisibilityGate.armUntil, validateIdentity_ok valid, later]

theorem evaluate_cases (gate : PostAckVisibilityGate) (valid : frame.valid = true)
    (contentUpdated : Bool) (observedAt now : Int) :
    (gate.armed = false ∧ gate.evaluate contentUpdated frame.streamEpoch frame.frameSequence
      observedAt now = .ok (.allowed, gate)) ∨
    (gate.armed = true ∧ gate.evaluate contentUpdated frame.streamEpoch frame.frameSequence
      observedAt now = .ok (.recoveryRequired, { gate with recoveryRequired := true })) ∨
    (gate.armed = true ∧ gate.recoveryRequired = false ∧ now < gate.deadline ∧
      contentUpdated = true ∧ gate.identityAdvanced frame.streamEpoch frame.frameSequence = true ∧
      gate.timestampValid observedAt now = true ∧
      gate.evaluate contentUpdated frame.streamEpoch frame.frameSequence observedAt now =
        .ok (.allowed, gate.reset)) ∨
    (gate.armed = true ∧ gate.evaluate contentUpdated frame.streamEpoch frame.frameSequence
      observedAt now = .ok (.blocked, gate)) := by
  simp only [PostAckVisibilityGate.evaluate, validateIdentity_ok valid]
  cases armed : gate.armed with
  | false => exact .inl ⟨rfl, rfl⟩
  | true =>
    by_cases late : gate.recoveryRequired ∨ gate.deadline ≤ now
    · exact .inr (.inl ⟨rfl, by simp [late]⟩)
    by_cases passes : contentUpdated ∧
        gate.identityAdvanced frame.streamEpoch frame.frameSequence ∧
        gate.timestampValid observedAt now
    · have early : gate.recoveryRequired = false ∧ now < gate.deadline := by
        simpa [not_or] using late
      exact .inr (.inr (.inl ⟨rfl, early.1, early.2, passes.1, passes.2.1, passes.2.2,
        by simp [late, passes]⟩))
    · exact .inr (.inr (.inr ⟨rfl, by simp [late, passes]⟩))

theorem begin_change (ticketId : UInt64) (src : FrameIdentity) (deadline now : Int) :
    Change coord (.begin ticketId src deadline now)
      (after ((begin ticketId src deadline now).run coord)) := by
  have nothing : Change coord (.begin ticketId src deadline now) coord :=
    .nothing (by simp) (by simp)
  change Change _ _ (after (begin ticketId src deadline now coord))
  unfold begin
  split
  · exact nothing
  · next free =>
      simp only [not_or, Bool.not_eq_true, Bool.not_eq_false', Decidable.not_not] at free
      cases accepted : coord.ticket.begin ticketId deadline with
      | error exception => exact nothing
      | ok ticket => exact .begun free.1 free.2.2.1 accepted

theorem observeFrame_change {updated : Bool} {observedAt now : Int} :
    Change coord (.observeFrame frame updated observedAt now)
      (after ((observeFrame frame updated observedAt now).run coord)) := by
  change Change _ _ (after (observeFrame frame updated observedAt now coord))
  unfold observeFrame
  split
  · next invalid => exact .invalidFrame (by simpa using invalid)
  · next good =>
      simp only [not_or, Bool.not_eq_true, Bool.not_eq_false', Int.not_lt] at good
      cases pend : coord.ticket.pending with
      | true =>
        refine .nothing (by simp) ?_
        rintro _ _ _ _ ⟨⟩
        exact good
      | false =>
        rcases evaluate_cases coord.visibility good.1 updated observedAt now with
          ⟨unarmed, ans⟩ | ⟨armed, ans⟩ |
          ⟨armed, unfailed, early, isUpdated, advanced, timely, ans⟩ | ⟨armed, ans⟩
        · simp only [ans]
          exact .confirmed (by simp [confirms, good, pend, unarmed]) unarmed
        · simp only [ans]
          exact .timedOut armed (by simp)
        · simp only [ans]
          exact .confirmed (by simp [confirms, good, pend, unfailed, early, isUpdated, advanced,
            timely]) rfl
        · simp only [ans]
          exact .waiting armed (by simp)

theorem onAck_change (ord : Orderly coord) (ticketId : UInt64) (acknowledgedAt now : Int) :
    Change coord (.onAck ticketId acknowledgedAt now)
      (after ((onAck ticketId acknowledgedAt now).run coord)) := by
  have nothing : Change coord (.onAck ticketId acknowledgedAt now) coord :=
    .nothing (by simp) (by simp)
  change Change _ _ (after (onAck ticketId acknowledgedAt now coord))
  unfold onAck
  split
  · exact nothing
  cases pend : coord.ticket.pending with
  | false => simpa [ExactTicket.complete, pend] using nothing
  | true =>
    by_cases same : ticketId = coord.ticket.ticketId
    · subst same
      by_cases late : coord.ticket.deadline ≤ now
      · simp only [ExactTicket.complete, pend, late, ne_eq, not_true_eq_false, Bool.not_true,
          Bool.false_eq_true, if_false, if_true]
        exact .expired pend (by simp)
      · obtain ⟨source, owned, -⟩ := ord.pending_source pend
        have armed := arm_ok coord.visibility (ord.source_valid source owned)
          acknowledgedAt now
        simp only [ExactTicket.complete, pend, late, ne_eq, not_true_eq_false, Bool.not_true,
          Bool.false_eq_true, if_false, awaitVisibility, owned, armed]
        exact .acknowledged pend owned
    · simpa [ExactTicket.complete, pend, same] using nothing

theorem poll_change (ord : Orderly coord) (now : Int) :
    Change coord (.poll now) (after ((poll now).run coord)) := by
  have nothing : Change coord (.poll now) coord := .nothing (by simp) (by simp)
  change Change _ _ (after (poll now coord))
  unfold poll
  cases pend : coord.ticket.pending with
  | true =>
    by_cases early : now < coord.ticket.deadline
    · simpa [ExactTicket.expire, pend, early] using nothing
    · simp only [ExactTicket.expire, pend, early, Bool.not_true, Bool.false_eq_true, if_false,
        if_true]
      exact .expired pend (by simp)
  | false =>
    cases armed : coord.visibility.armed with
    | false => exact nothing
    | true =>
      cases owned : coord.sourceFrame with
      | none => exact nothing
      | some src =>
        have valid := ord.source_valid src owned
        rcases evaluate_cases coord.visibility valid false now now with
          ⟨unarmed, -⟩ | ⟨-, ans⟩ | ⟨-, -, -, isUpdated, -⟩ | ⟨-, ans⟩
        · simp [armed] at unarmed
        · simp only [observeFrame, valid, pend, ans, lt_irrefl, Bool.not_true,
            Bool.false_eq_true, or_self, if_false]
          exact .timedOut armed (by simp)
        · simp at isUpdated
        · simp only [observeFrame, valid, pend, ans, lt_irrefl, Bool.not_true,
            Bool.false_eq_true, or_self, if_false]
          exact .waiting armed (by simp)

theorem step_change (ord : Orderly coord) (call : ControlCall) :
    Change coord call (coord.step call) := by
  cases call with
  | begin ticketId src deadline now => exact begin_change ticketId src deadline now
  | onAck ticketId acknowledgedAt now => exact onAck_change ord ticketId acknowledgedAt now
  | observeFrame frame updated observedAt now => exact observeFrame_change
  | poll now => exact poll_change ord now
  | onRecoveryVerified now => exact .recovered

@[simp] theorem block_ticket (blocker : ControlBlocker) (now : Int) :
    (coord.block blocker now).ticket = coord.ticket := rfl

@[simp] theorem block_visibility (blocker : ControlBlocker) (now : Int) :
    (coord.block blocker now).visibility = coord.visibility := rfl

@[simp] theorem block_sourceFrame (blocker : ControlBlocker) (now : Int) :
    (coord.block blocker now).sourceFrame = coord.sourceFrame := rfl

@[simp] theorem block_commands (blocker : ControlBlocker) (now : Int) :
    (coord.block blocker now).commands = coord.commands := rfl

@[simp] theorem block_blockers_current (blocker : ControlBlocker) (now : Int) :
    (coord.block blocker now).blockers.current = blocker := by
  simp [block]

theorem Orderly.of_same {next : ControlCommandCoordinator} (ord : Orderly coord)
    (ticket : next.ticket = coord.ticket)
    (src : next.sourceFrame = coord.sourceFrame ∨
      next.sourceFrame = none ∧ coord.ticket.pending = false)
    (commands : next.commands = coord.commands) : Orderly next := by
  obtain ⟨source_valid, pending_source, begun, increasing, bounded, terminal⟩ := ord
  refine ⟨?_, ?_, by simpa [ticket, commands] using begun, by simpa [commands] using increasing,
    by simpa [ticket, commands] using bounded, by simpa [ticket] using terminal⟩
  · rcases src with same | ⟨gone, -⟩
    · simpa [same] using source_valid
    · simp [gone]
  · rcases src with same | ⟨-, idle⟩
    · simpa [ticket, same, commands] using pending_source
    · simp [ticket, idle]

/-- The pending ticket ends with a result of its own. -/
theorem Orderly.finish {next : ControlCommandCoordinator} {res : TicketResult}
    (ord : Orderly coord) (pend : coord.ticket.pending = true)
    (isTerminal : ControlCommandCoordinator.terminal res = true)
    (ticket : next.ticket = coord.ticket.finish res)
    (src : next.sourceFrame = coord.sourceFrame ∨ next.sourceFrame = none)
    (commands : next.commands = coord.commands) : Orderly next where
  source_valid := by
    rcases src with same | gone
    · simpa [same] using ord.source_valid
    · simp [gone]
  pending_source := by simp [ticket, ExactTicket.finish]
  begun := by simpa [ticket, commands, ExactTicket.finish, pend] using ord.begun
  increasing := by simpa [commands] using ord.increasing
  bounded := by simpa [ticket, commands, ExactTicket.finish] using ord.bounded
  terminal := by
    intro entry mem
    simp only [ticket, ExactTicket.finish, List.mem_append, List.mem_singleton] at mem
    rcases mem with old | rfl
    · exact ord.terminal entry old
    · exact isTerminal

theorem Orderly.begun_next {ticketId : UInt64} {src : FrameIdentity} {deadline now : Int}
    {ticket : ExactTicket} (ord : Orderly coord) (valid : src.valid = true)
    (ok : coord.ticket.begin ticketId deadline = .ok ticket) :
    Orderly ({ coord with
      ticket := ticket
      sourceFrame := some src
      commandStartedAt := some now
      commands := coord.commands ++ [Command.mk ticketId src] }.block .ticketPending now) := by
  unfold ExactTicket.begin at ok
  split at ok
  · cases ok
  split at ok
  · cases ok
  next idle =>
  split at ok
  · cases ok
  next newer =>
  split at ok
  · cases ok
  injection ok with ok
  subst ok
  rw [UInt64.not_le] at newer
  constructor
  · rintro other ⟨⟩
    exact valid
  · exact fun _ => ⟨src, rfl, by simp⟩
  · simpa [idle] using ord.begun
  · simp only [block_commands, List.map_append, List.map_cons, List.map_nil, List.pairwise_append,
      List.pairwise_singleton, List.mem_singleton, List.mem_map, true_and, forall_eq]
    refine ⟨ord.increasing, ?_⟩
    rintro _ ⟨cmd, mem, rfl⟩
    exact UInt64.lt_of_le_of_lt (ord.bounded cmd mem) newer
  · intro cmd mem
    simp only [block_commands, List.mem_append, List.mem_singleton] at mem
    rcases mem with old | rfl
    · exact UInt64.le_of_lt (UInt64.lt_of_le_of_lt (ord.bounded cmd old) newer)
    · exact UInt64.le_refl _
  · exact ord.terminal

theorem step_orderly (ord : Orderly coord) (call : ControlCall) : Orderly (coord.step call) := by
  have change := step_change ord call
  generalize coord.step call = next at change
  cases change with
  | nothing => exact ord
  | begun valid unarmed ok => exact ord.begun_next valid ok
  | expired pend => exact ord.finish pend rfl rfl (.inl rfl) rfl
  | acknowledged pend owned => exact ord.finish pend rfl rfl (.inl owned.symm) rfl
  | invalidFrame => exact ord.of_same rfl (.inl rfl) rfl
  | confirmed passes =>
    have idle : coord.ticket.pending = false := by
      simp only [confirms, Bool.and_eq_true, Bool.not_eq_true'] at passes
      exact passes.1.2
    exact ord.of_same rfl (.inr ⟨rfl, idle⟩) rfl
  | waiting => exact ord.of_same rfl (.inl rfl) rfl
  | timedOut => exact ord.of_same rfl (.inl rfl) rfl
  | recovered =>
    cases pend : coord.ticket.pending with
    | true =>
      exact ord.finish pend rfl (by simp [ExactTicket.cancel, pend]; rfl) (.inr rfl) rfl
    | false =>
      exact ord.of_same (by simp [ExactTicket.cancel, pend]) (.inr ⟨rfl, pend⟩) rfl

theorem runCalls_orderly (calls : List ControlCall) (ord : Orderly coord) :
    Orderly (coord.runCalls calls) := by
  induction calls generalizing coord with
  | nil => exact ord
  | cons call calls ih => exact ih (step_orderly ord call)

theorem fresh_orderly (visibilityTimeout : { milliseconds : Int // 0 < milliseconds }) (now : Int) :
    Orderly (fresh visibilityTimeout now) := by
  constructor <;> simp [fresh]

end VisionForge.ContractCore.ControlCommandCoordinator
