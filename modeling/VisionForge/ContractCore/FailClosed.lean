import VisionForge.ContractCore.ControlChanges
import VisionForge.Lib.Histories

/-! # What releases output after a failure

A failure is a ticket that expired, a visibility deadline that has passed or an invalid frame.
Recovery is to be the only way out of it; the coordinator forgets a failure when it confirms a
frame.
-/

namespace VisionForge.ContractCore.ControlCommandCoordinator

open Lib.Histories

/-- The call finds the ticket expired, the visibility deadline passed or the frame invalid. -/
def fails (coord : ControlCommandCoordinator) (call : ControlCall) : Prop :=
  (coord.step call).ticket.ended = coord.ticket.ended ++ [(coord.ticket.ticketId, .expired)] ∨
    (coord.visibility.armed = true ∧ coord.visibility.deadline ≤ call.now) ∨
    ∃ frame updated observedAt now, call = .observeFrame frame updated observedAt now ∧
      (frame.valid = false ∨ now < observedAt)

def Failed (start : ControlCommandCoordinator) (calls : List ControlCall) : Prop :=
  ∃ earlier call later, calls = earlier ++ call :: later ∧
    (start.runCalls earlier).fails call ∧
    ∀ other ∈ call :: later, ∀ now, other ≠ .onRecoveryVerified now

/-- Output is closed, and no command begins. -/
structure ShutOut (coord : ControlCommandCoordinator) : Prop where
  closed : coord.outputAllowed = false
  refused : ∀ ticketId source deadline now, ∃ exception,
    (begin ticketId source deadline now).run coord = .error exception coord

/-- Once a call has failed, output stays closed and no command begins until recovery. -/
def FailClosed (start : ControlCommandCoordinator) (calls : List ControlCall) : Prop :=
  ∀ earlier, earlier <+: calls → Failed start earlier → ShutOut (start.runCalls earlier)

/-- What may release output after an acknowledgement that was accepted from the given state. -/
def Releases (coord : ControlCommandCoordinator) (ticketId : UInt64) (acknowledgedAt ackNow : Int) :
    ControlCall → Prop
  | .onRecoveryVerified _ => True
  | .observeFrame frame contentUpdated observedAt now =>
    contentUpdated = true ∧ acknowledgedAt ≤ observedAt ∧ observedAt ≤ now ∧
      now < max ackNow acknowledgedAt + nanosOfMilliseconds coord.visibility.timeout ∧
      ∃ source, ⟨ticketId, source⟩ ∈ coord.commands ∧ frame.newerThan source = true
  | _ => False

/-- The first call that opens output after an accepted acknowledgement may do so. -/
def ReleasedBySight (start : ControlCommandCoordinator) (calls : List ControlCall) : Prop :=
  ∀ earlier ticketId acknowledgedAt ackNow between call,
    earlier ++ .onAck ticketId acknowledgedAt ackNow :: (between ++ [call]) <+: calls →
    (∃ next, (onAck ticketId acknowledgedAt ackNow).run (start.runCalls earlier) =
      .ok .ackAccepted next) →
    (∀ part, part <+: between →
      (start.runCalls (earlier ++ .onAck ticketId acknowledgedAt ackNow :: part)).outputAllowed =
        false) →
    (start.runCalls
      (earlier ++ .onAck ticketId acknowledgedAt ackNow :: (between ++ [call]))).outputAllowed = true →
    (start.runCalls earlier).Releases ticketId acknowledgedAt ackNow call

/-- Every ticket that was begun has ended once, with a terminal result, or is the pending one. -/
structure TicketsEndOnce (coord : ControlCommandCoordinator) : Prop where
  distinct : (coord.commands.map (·.ticketId)).Nodup
  once : ∀ command ∈ coord.commands,
    (coord.ticket.ended.map (·.1)).count command.ticketId =
      if coord.ticket.pending = true ∧ coord.ticket.ticketId = command.ticketId then 0
      else 1
  begun : ∀ entry ∈ coord.ticket.ended, ∃ command ∈ coord.commands,
    command.ticketId = entry.1
  terminal : ∀ entry ∈ coord.ticket.ended, terminal entry.2 = true

variable {coord start : ControlCommandCoordinator} {calls : List ControlCall}
  {call : ControlCall}

theorem runCalls_append (first snd : List ControlCall) :
    start.runCalls (first ++ snd) = (start.runCalls first).runCalls snd :=
  List.foldl_append ..

@[simp] theorem runCalls_concat :
    start.runCalls (calls ++ [call]) = (start.runCalls calls).step call := by
  simp [runCalls]

theorem shutOut_of_closed (closed : coord.outputAllowed = false) : ShutOut coord := by
  refine ⟨closed, fun ticketId source deadline now => ?_⟩
  change ∃ exception, begin ticketId source deadline now coord = .error exception coord
  unfold begin
  split
  · exact ⟨_, rfl⟩
  next free =>
  have pend : coord.ticket.pending = true := by
    simp only [not_or, Bool.not_eq_true, Decidable.not_not] at free
    simpa [outputAllowed, free] using closed
  cases accepted : coord.ticket.begin ticketId deadline with
  | error exception => exact ⟨exception, rfl⟩
  | ok ticket =>
    unfold ExactTicket.begin at accepted
    split at accepted
    · cases accepted
    · simp at accepted

theorem failed_append :
    Failed start (calls ++ [call]) ↔ (∀ now, call ≠ .onRecoveryVerified now) ∧
      ((start.runCalls calls).fails call ∨ Failed start calls) := by
  constructor
  · rintro ⟨earlier, other, later, split, failed, noRecovery⟩
    rcases List.eq_nil_or_concat later with rfl | ⟨later, last, rfl⟩
    · obtain ⟨rfl, same⟩ := List.append_inj' split rfl
      obtain rfl := List.singleton_inj.mp same
      exact ⟨noRecovery _ (by simp), .inl failed⟩
    · rw [List.concat_eq_append, ← List.cons_append, ← List.append_assoc] at split
      obtain ⟨rfl, same⟩ := List.append_inj' split rfl
      obtain rfl := List.singleton_inj.mp same
      exact ⟨noRecovery _ (by simp), .inr ⟨earlier, other, later, rfl, failed,
        fun next member => noRecovery next (by simp at member ⊢; tauto)⟩⟩
  · rintro ⟨noRecovery, now | ⟨earlier, other, later, rfl, failed, others⟩⟩
    · exact ⟨calls, call, [], rfl, now, by simpa using noRecovery⟩
    · refine ⟨earlier, other, later ++ [call], by simp, failed, ?_⟩
      intro next member
      rw [← List.cons_append, List.mem_append, List.mem_singleton] at member
      rcases member with old | rfl
      · exact others next old
      · exact noRecovery

theorem opens (ord : Orderly coord) (closed : coord.outputAllowed = false)
    (opened : (coord.step call).outputAllowed = true) :
    (∃ now, call = .onRecoveryVerified now) ∨ coord.confirms call = true := by
  have change := step_change ord call
  generalize coord.step call = next at change opened
  cases change with
  | nothing => simp [closed] at opened
  | confirmed passes => exact .inr passes
  | recovered => exact .inl ⟨_, rfl⟩
  | begun | expired | acknowledged | invalidFrame | waiting | timedOut =>
    simp [outputAllowed] at opened

theorem fails_closes (ord : Orderly coord) (failed : coord.fails call)
    (noRecovery : ∀ now, call ≠ .onRecoveryVerified now) :
    (coord.step call).outputAllowed = false := by
  have change := step_change ord call
  unfold fails at failed
  generalize coord.step call = next at change failed
  cases change with
  | nothing _ noInvalid =>
    rcases failed with expired | ⟨armed, -⟩ | ⟨frame, updated, observedAt, now, same, invalid⟩
    · simp at expired
    · simp [outputAllowed, armed]
    · obtain ⟨valid, past⟩ := noInvalid frame updated observedAt now same
      simp [valid, Int.not_lt.mpr past] at invalid
  | confirmed passes =>
    simp only [confirms, Bool.and_eq_true, Bool.or_eq_true, Bool.not_eq_true',
      decide_eq_true_eq] at passes
    rcases failed with expired | ⟨armed, passed⟩ | ⟨frame, updated, observedAt, now, same, invalid⟩
    · simp at expired
    · simp only [armed, Bool.true_eq_false, false_or] at passes
      exact absurd passed (Int.not_le.mpr passes.2.1.1.1.2)
    · cases same
      simp [passes.1.1.1, Int.not_lt.mpr passes.1.1.2] at invalid
  | recovered => exact absurd rfl (noRecovery _)
  | begun | expired | acknowledged | invalidFrame | waiting | timedOut => simp [outputAllowed]

theorem confirms_opens (passes : coord.confirms call = true) :
    (coord.step call).outputAllowed = true := by
  cases call with
  | observeFrame frame updated observedAt now =>
    simp only [confirms, Bool.and_eq_true, Bool.not_eq_true', decide_eq_true_eq] at passes
    obtain ⟨⟨⟨valid, past⟩, idle⟩, passes⟩ := passes
    have ans : ∃ visibility, visibility.armed = false ∧
        coord.visibility.evaluate updated frame.streamEpoch frame.frameSequence observedAt
          now = .ok (.allowed, visibility) := by
      simp only [PostAckVisibilityGate.evaluate, validateIdentity_ok valid]
      cases armed : coord.visibility.armed with
      | false => exact ⟨_, armed, rfl⟩
      | true =>
        simp only [armed, Bool.not_true, Bool.false_or, Bool.and_eq_true, Bool.not_eq_true',
          decide_eq_true_eq] at passes
        refine ⟨coord.visibility.reset, rfl, ?_⟩
        simp [passes, Int.not_le.mpr passes.1.1.1.2]
    obtain ⟨visibility, unarmed, ans⟩ := ans
    change (Lib.Methods.after (observeFrame frame updated observedAt now coord)).outputAllowed = true
    simp [observeFrame, valid, idle, Int.not_lt.mpr past, ans, outputAllowed, unarmed]
  | begin | onAck | poll | onRecoveryVerified => simp [confirms] at passes

theorem closed_of_failed (ord : Orderly start)
    (unconfirmed : Each (fun pre call => Failed start pre →
      (start.runCalls pre).confirms call = false) calls)
    (failed : Failed start calls) : (start.runCalls calls).outputAllowed = false := by
  induction calls using List.reverseRecOn with
  | nil =>
    obtain ⟨old, call, later, split, -⟩ := failed
    simp at split
  | append_singleton calls call ih =>
    obtain ⟨noRecovery, failed⟩ := failed_append.mp failed
    obtain ⟨unconfirmed, last⟩ := each_append.mp unconfirmed
    have hr := runCalls_orderly calls ord
    rw [runCalls_concat]
    by_cases now : (start.runCalls calls).fails call
    · exact fails_closes hr now noRecovery
    · have pre : Failed start calls := failed.resolve_left now
      by_contra opened
      rcases opens hr (ih unconfirmed pre) (by simpa using opened) with ⟨now, recovery⟩ | passes
      · exact noRecovery now recovery
      · simp [last pre] at passes

theorem failClosed_iff (ord : Orderly start) :
    FailClosed start calls ↔ Each (fun pre call => Failed start pre →
      (start.runCalls pre).confirms call = false) calls := by
  constructor
  · rintro closed pre call behind rfl failed
    by_contra passes
    have noRecovery : ∀ now, call ≠ .onRecoveryVerified now := by
      rintro now rfl
      simp [confirms] at passes
    have shut := closed (pre ++ [call]) ⟨behind, by simp⟩
      (failed_append.mpr ⟨noRecovery, .inr failed⟩)
    have opened := confirms_opens (by simpa using passes)
    simpa [opened] using shut.closed
  · rintro unconfirmed old ⟨behind, rfl⟩ failed
    exact shutOut_of_closed (closed_of_failed ord unconfirmed.of_append failed)

structure Awaiting (source : FrameIdentity) (acknowledgedAt deadline : Int)
    (coord : ControlCommandCoordinator) : Prop where
  armed : coord.visibility.armed = true
  idle : coord.ticket.pending = false
  epoch : coord.visibility.sourceEpoch = source.streamEpoch
  sequence : coord.visibility.sourceSequence = source.frameSequence
  ackTime : coord.visibility.ackTime = acknowledgedAt
  deadline : coord.visibility.deadline = deadline

variable {source : FrameIdentity} {acknowledgedAt deadline ackNow : Int} {ticketId : UInt64}

theorem onAck_accepted {next : ControlCommandCoordinator} (ord : Orderly coord)
    (ok : (onAck ticketId acknowledgedAt ackNow).run coord = .ok .ackAccepted next) :
    ∃ source, ⟨ticketId, source⟩ ∈ coord.commands ∧ Awaiting source acknowledgedAt
      (max ackNow acknowledgedAt + nanosOfMilliseconds coord.visibility.timeout) next := by
  change onAck ticketId acknowledgedAt ackNow coord = .ok .ackAccepted next at ok
  unfold onAck at ok
  split at ok
  · simp at ok
  cases pend : coord.ticket.pending with
  | false => simp [ExactTicket.complete, pend] at ok
  | true =>
    obtain ⟨source, owned, begun⟩ := ord.pending_source pend
    have armed := arm_ok coord.visibility (ord.source_valid source owned)
      acknowledgedAt ackNow
    by_cases same : ticketId = coord.ticket.ticketId
    · by_cases late : coord.ticket.deadline ≤ ackNow
      · simp [ExactTicket.complete, pend, same, late] at ok
      · simp [ExactTicket.complete, pend, same, late, awaitVisibility, owned, armed] at ok
        refine ⟨source, same ▸ begun, ?_⟩
        rw [← ok]
        exact ⟨rfl, rfl, rfl, rfl, rfl, rfl⟩
    · simp [ExactTicket.complete, pend, same] at ok

theorem Awaiting.step (ord : Orderly coord)
    (awaiting : Awaiting source acknowledgedAt deadline coord)
    (closed : (coord.step call).outputAllowed = false) :
    Awaiting source acknowledgedAt deadline (coord.step call) := by
  have change := step_change ord call
  obtain ⟨armed, idle, epoch, seq, ackTime, deadline⟩ := awaiting
  generalize coord.step call = next at change closed
  cases change with
  | nothing => exact ⟨armed, idle, epoch, seq, ackTime, deadline⟩
  | begun valid unarmed => simp [armed] at unarmed
  | expired pend | acknowledged pend => simp [idle] at pend
  | invalidFrame | waiting | timedOut => exact ⟨armed, idle, epoch, seq, ackTime, deadline⟩
  | confirmed passes unarmed => simp [outputAllowed, idle, unarmed] at closed
  | recovered => simp [outputAllowed, ExactTicket.cancel, idle, PostAckVisibilityGate.reset] at closed

theorem Awaiting.runCalls (ord : Orderly coord)
    (awaiting : Awaiting source acknowledgedAt deadline coord)
    (closed : ∀ part, part <+: calls → (coord.runCalls part).outputAllowed = false) :
    Awaiting source acknowledgedAt deadline (coord.runCalls calls) := by
  induction calls using List.reverseRecOn with
  | nil => exact awaiting
  | append_singleton calls call ih =>
    have pre := ih fun part hin => closed part (hin.trans (List.prefix_append ..))
    have now := closed (calls ++ [call]) (List.prefix_refl _)
    rw [runCalls_concat] at now ⊢
    exact pre.step (runCalls_orderly calls ord) now

theorem releasedBySight (ord : Orderly start) (calls : List ControlCall) :
    ReleasedBySight start calls := by
  rintro old ticketId acknowledgedAt ackNow between call - ⟨next, ok⟩ closed opened
  have hr := runCalls_orderly old ord
  obtain ⟨source, begun, awaiting⟩ := onAck_accepted hr ok
  have stepped : (start.runCalls old).step (.onAck ticketId acknowledgedAt ackNow) = next := by
    simp [step, ok]
  have next_orderly : Orderly next := stepped ▸ step_orderly hr _
  have onwards : ∀ part, start.runCalls (old ++ .onAck ticketId acknowledgedAt ackNow :: part) =
      next.runCalls part := by
    intro part
    rw [runCalls_append, ← stepped]
    rfl
  simp only [onwards] at closed opened
  have waiting := awaiting.runCalls next_orderly closed
  have last := closed between (List.prefix_refl _)
  rw [runCalls_concat] at opened
  rcases opens (runCalls_orderly between next_orderly) last opened with ⟨now, rfl⟩ | passes
  · trivial
  cases call with
  | observeFrame frame updated observedAt now =>
    obtain ⟨armed, idle, epoch, seq, ackTime, deadline⟩ := waiting
    simp only [confirms, armed, Bool.not_true, Bool.false_or, Bool.and_eq_true, Bool.not_eq_true',
      decide_eq_true_eq, PostAckVisibilityGate.timestampValid, ackTime, deadline,
      PostAckVisibilityGate.identityAdvanced, epoch, seq] at passes
    obtain ⟨-, ⟨⟨⟨-, early⟩, isUpdated⟩, advanced⟩, timely⟩ := passes
    exact ⟨isUpdated, timely.1, timely.2, early, source, begun,
      by simpa [FrameIdentity.newerThan] using advanced⟩
  | begin | onAck | poll | onRecoveryVerified => simp [confirms] at passes

theorem Orderly.ticketsEndOnce (ord : Orderly coord) : TicketsEndOnce coord where
  distinct := ord.increasing.imp fun less => UInt64.ne_of_lt less
  once := by
    intro cmd mem
    have distinct : (coord.commands.map (·.ticketId)).Nodup :=
      ord.increasing.imp fun less => UInt64.ne_of_lt less
    have whole := List.count_eq_one_of_mem distinct (List.mem_map_of_mem mem)
    rw [ord.begun, List.count_append] at whole
    cases pend : coord.ticket.pending with
    | false => simpa [pend] using whole
    | true =>
      by_cases same : coord.ticket.ticketId = cmd.ticketId
      · simpa [pend, same] using whole
      · simpa [pend, same] using whole
  begun := by
    intro entry mem
    have hin : entry.1 ∈ coord.commands.map (·.ticketId) := by
      rw [ord.begun]
      exact List.mem_append_left _ (List.mem_map_of_mem mem)
    obtain ⟨cmd, begun, same⟩ := List.mem_map.mp hin
    exact ⟨cmd, begun, same⟩
  terminal := ord.terminal

/-- Failing closed is what a confirmed frame breaks; the other two laws hold in every run. -/
theorem fail_closed_iff (visibilityTimeout : { milliseconds : Int // 0 < milliseconds }) (now : Int)
    (calls : List ControlCall) :
    (FailClosed (fresh visibilityTimeout now) calls ∧
      ReleasedBySight (fresh visibilityTimeout now) calls ∧
      TicketsEndOnce ((fresh visibilityTimeout now).runCalls calls)) ↔
    Each (fun before call => Failed (fresh visibilityTimeout now) before →
      ((fresh visibilityTimeout now).runCalls before).confirms call = false) calls := by
  have orderly := fresh_orderly visibilityTimeout now
  rw [← failClosed_iff orderly]
  exact ⟨And.left, fun closed => ⟨closed, releasedBySight orderly calls,
    (runCalls_orderly calls orderly).ticketsEndOnce⟩⟩

def expireThenObserve : List ControlCall :=
  [.begin 1 ⟨7, 10⟩ 20000000 0, .poll 20000000, .observeFrame ⟨7, 11⟩ true 21000000 21000000]

theorem output_released_without_recovery :
    ¬ FailClosed (fresh ⟨10, by decide⟩ 0) expireThenObserve := by
  intro closed
  have failed : Failed (fresh ⟨10, by decide⟩ 0) expireThenObserve :=
    ⟨[.begin 1 ⟨7, 10⟩ 20000000 0], .poll 20000000,
      [.observeFrame ⟨7, 11⟩ true 21000000 21000000], rfl, .inl (by decide), by simp⟩
  exact absurd (closed expireThenObserve (List.prefix_refl _) failed).closed (by decide)

end VisionForge.ContractCore.ControlCommandCoordinator
