import Mathlib
import VisionForge.Bootstrap.Records
import VisionForge.Lib.Run

/-! # The order of the bootstrap messages

Both sides follow one script of nine messages, each in its own role. A side that sees
anything else, or an abort, stops for good. The two sides are joined by two channels that
keep the order. A message enters a channel when its sender's own sequence let it pass, or
whatever the sequences say: a side may meet any message at any position.
-/

namespace VisionForge.Bootstrap

structure BootstrapSequenceEvent where
  direction : ControlBootstrapDirectionV1
  messageType : ControlBootstrapMessageTypeV1
  deriving DecidableEq

def kBootstrapSequence : List BootstrapSequenceEvent :=
  [⟨.hostToAndroid, .hostHello⟩, ⟨.androidToHost, .androidChallengeRequest⟩,
    ⟨.hostToAndroid, .hostChallengeProof⟩, ⟨.androidToHost, .serverChallenge⟩,
    ⟨.hostToAndroid, .hostFinalProof⟩, ⟨.androidToHost, .pairGenerationCredential⟩,
    ⟨.hostToAndroid, .hostHandshakeSignature⟩, ⟨.androidToHost, .androidHandshakeConfirmation⟩,
    ⟨.hostToAndroid, .hostFinished⟩]

inductive ControlBootstrapRoleV1 where
  | invalid
  | host
  | android
  deriving DecidableEq

inductive ControlBootstrapFlowV1 where
  | invalid
  | outbound
  | inbound
  deriving DecidableEq

inductive ControlBootstrapSequencePhaseV1 where
  | inProgress
  | completed
  | aborted
  | failed
  deriving DecidableEq

inductive ControlBootstrapAdvanceStatusV1 where
  | advanced
  | completed
  | aborted
  | unexpectedMessage
  | wrongFlow
  | alreadyTerminal
  deriving DecidableEq

def validRole (role : ControlBootstrapRoleV1) : Bool := role == .host || role == .android

def flowForRole (role : ControlBootstrapRoleV1) (direction : ControlBootstrapDirectionV1) :
    ControlBootstrapFlowV1 :=
  if !validRole role || !validDirection direction then .invalid
  else if role == .host && direction == .hostToAndroid ||
      role == .android && direction == .androidToHost then .outbound
  else .inbound

structure ControlBootstrapExpectedEventV1 where
  flow : ControlBootstrapFlowV1
  messageType : ControlBootstrapMessageTypeV1
  deriving DecidableEq

structure ControlBootstrapSequenceV1 where
  localRole : ControlBootstrapRoleV1
  phase : ControlBootstrapSequencePhaseV1
  nextEventIndex : Nat := 0
  deriving DecidableEq

namespace ControlBootstrapSequenceV1

def new (localRole : ControlBootstrapRoleV1) : ControlBootstrapSequenceV1 where
  localRole := localRole
  phase := if validRole localRole then .inProgress else .failed

def expectedNext (sequence : ControlBootstrapSequenceV1) :
    Option ControlBootstrapExpectedEventV1 :=
  if sequence.phase ≠ .inProgress then none
  else
    kBootstrapSequence[sequence.nextEventIndex]?.map (fun event =>
      { flow := flowForRole sequence.localRole event.direction
        messageType := event.messageType })

def advance (sequence : ControlBootstrapSequenceV1) (flow : ControlBootstrapFlowV1)
    (messageType : ControlBootstrapMessageTypeV1) :
    ControlBootstrapSequenceV1 × ControlBootstrapAdvanceStatusV1 :=
  if sequence.phase ≠ .inProgress then (sequence, .alreadyTerminal)
  else if (flow = .outbound ∨ flow = .inbound) ∧ messageType = .abort then
    ({ sequence with phase := .aborted }, .aborted)
  else
    match sequence.expectedNext with
    | none => ({ sequence with phase := .failed }, .wrongFlow)
    | some expected =>
      if flow ≠ expected.flow then ({ sequence with phase := .failed }, .wrongFlow)
      else if messageType ≠ expected.messageType then
        ({ sequence with phase := .failed }, .unexpectedMessage)
      else if sequence.nextEventIndex + 1 = kBootstrapSequence.length then
        ({ sequence with nextEventIndex := sequence.nextEventIndex + 1, phase := .completed },
          .completed)
      else ({ sequence with nextEventIndex := sequence.nextEventIndex + 1 }, .advanced)

def advanceOutbound (sequence : ControlBootstrapSequenceV1)
    (messageType : ControlBootstrapMessageTypeV1) :
    ControlBootstrapSequenceV1 × ControlBootstrapAdvanceStatusV1 :=
  sequence.advance .outbound messageType

def advanceInbound (sequence : ControlBootstrapSequenceV1)
    (messageType : ControlBootstrapMessageTypeV1) :
    ControlBootstrapSequenceV1 × ControlBootstrapAdvanceStatusV1 :=
  sequence.advance .inbound messageType

end ControlBootstrapSequenceV1

/-- The message was the next one of the script. -/
def ControlBootstrapAdvanceStatusV1.accepts (status : ControlBootstrapAdvanceStatusV1) : Bool :=
  status == .advanced || status == .completed

@[simp] theorem accepts_aborted : ControlBootstrapAdvanceStatusV1.aborted.accepts = false := rfl

theorem position_of_message {position other : Nat} {event event' : BootstrapSequenceEvent}
    (isNext : kBootstrapSequence[position]? = some event)
    (isOther : kBootstrapSequence[other]? = some event')
    (same : event.messageType = event'.messageType) : position = other := by
  have distinct : (kBootstrapSequence.map (·.messageType)).Nodup := by decide
  have bound := (List.getElem?_eq_some_iff.mp isNext).1
  apply (List.getElem?_inj (by rw [List.length_map]; exact bound) distinct).mp
  simp only [List.getElem?_map, isNext, isOther, Option.map_some, same]

theorem abort_not_scripted {position : Nat} {event : BootstrapSequenceEvent}
    (isNext : kBootstrapSequence[position]? = some event) : event.messageType ≠ .abort := by
  have all : ∀ event ∈ kBootstrapSequence, event.messageType ≠ .abort := by decide
  exact all event (List.mem_of_getElem? isNext)

namespace ControlBootstrapSequenceV1

/-- Everything a message can do to a side. -/
inductive Advances (sequence : ControlBootstrapSequenceV1) (flow : ControlBootstrapFlowV1)
    (messageType : ControlBootstrapMessageTypeV1) :
    ControlBootstrapSequenceV1 × ControlBootstrapAdvanceStatusV1 → Prop
  | terminal (ended : sequence.phase ≠ .inProgress) :
      Advances sequence flow messageType (sequence, .alreadyTerminal)
  | aborted (running : sequence.phase = .inProgress) (isAbort : messageType = .abort) :
      Advances sequence flow messageType ({ sequence with phase := .aborted }, .aborted)
  | wrongFlow (running : sequence.phase = .inProgress)
      (noAbort : ¬ ((flow = .outbound ∨ flow = .inbound) ∧ messageType = .abort))
      (otherFlow : ∀ event, kBootstrapSequence[sequence.nextEventIndex]? = some event →
        flow ≠ flowForRole sequence.localRole event.direction) :
      Advances sequence flow messageType ({ sequence with phase := .failed }, .wrongFlow)
  | unexpectedMessage {event : BootstrapSequenceEvent} (running : sequence.phase = .inProgress)
      (noAbort : ¬ ((flow = .outbound ∨ flow = .inbound) ∧ messageType = .abort))
      (isNext : kBootstrapSequence[sequence.nextEventIndex]? = some event)
      (isFlow : flow = flowForRole sequence.localRole event.direction)
      (otherMessage : messageType ≠ event.messageType) :
      Advances sequence flow messageType ({ sequence with phase := .failed }, .unexpectedMessage)
  | accepted {after : ControlBootstrapSequenceV1} {status : ControlBootstrapAdvanceStatusV1}
      {event : BootstrapSequenceEvent}
      (running : sequence.phase = .inProgress)
      (isNext : kBootstrapSequence[sequence.nextEventIndex]? = some event)
      (isFlow : flow = flowForRole sequence.localRole event.direction)
      (isMessage : messageType = event.messageType)
      (role : after.localRole = sequence.localRole)
      (position : after.nextEventIndex = sequence.nextEventIndex + 1)
      (phase : after.phase = if after.nextEventIndex = kBootstrapSequence.length then .completed
        else .inProgress)
      (accepts : status.accepts = true) :
      Advances sequence flow messageType (after, status)

theorem advance_advances (sequence : ControlBootstrapSequenceV1) (flow : ControlBootstrapFlowV1)
    (messageType : ControlBootstrapMessageTypeV1) :
    Advances sequence flow messageType (sequence.advance flow messageType) := by
  unfold advance
  split
  · rename_i ended
    exact .terminal ended
  rename_i running
  rw [not_not] at running
  split
  · rename_i abort
    exact .aborted running abort.2
  rename_i noAbort
  unfold expectedNext
  rw [if_neg (not_not.mpr running)]
  cases isNext : kBootstrapSequence[sequence.nextEventIndex]? with
  | none => exact .wrongFlow running noAbort (fun event isEvent => by simp [isNext] at isEvent)
  | some event =>
    simp only [Option.map_some]
    split
    · rename_i otherFlow
      refine .wrongFlow running noAbort (fun event' isEvent => ?_)
      obtain rfl : event = event' := Option.some.inj (isNext.symm.trans isEvent)
      exact otherFlow
    rename_i isFlow
    rw [not_not] at isFlow
    split
    · rename_i otherMessage
      exact .unexpectedMessage running noAbort isNext isFlow otherMessage
    rename_i isMessage
    rw [not_not] at isMessage
    split
    · rename_i last
      exact .accepted running isNext isFlow isMessage rfl rfl (by rw [if_pos last]) rfl
    · rename_i more
      exact .accepted running isNext isFlow isMessage rfl rfl (by rw [if_neg more, running]) rfl

section

variable {sequence after : ControlBootstrapSequenceV1} {flow : ControlBootstrapFlowV1}
  {messageType : ControlBootstrapMessageTypeV1} {status : ControlBootstrapAdvanceStatusV1}

/-- A side that refuses a message has stopped where it was. -/
theorem Advances.stopped (advances : sequence.Advances flow messageType (after, status))
    (refuses : status.accepts = false) :
    after.localRole = sequence.localRole ∧ after.nextEventIndex = sequence.nextEventIndex ∧
      after.phase ≠ .inProgress ∧ (after.phase = .completed → sequence.phase = .completed) := by
  cases advances with
  | terminal ended => exact ⟨rfl, rfl, ended, id⟩
  | aborted | wrongFlow | unexpectedMessage =>
    refine ⟨rfl, rfl, ?_, ?_⟩ <;> (intro phase; cases phase)
  | accepted _ _ _ _ _ _ _ accepts =>
    rw [accepts] at refuses
    cases refuses

theorem Advances.goesOn (advances : sequence.Advances flow messageType (after, status))
    (accepts : status.accepts = true) :
    ∃ event, kBootstrapSequence[sequence.nextEventIndex]? = some event ∧
      flow = flowForRole sequence.localRole event.direction ∧ messageType = event.messageType ∧
      after.localRole = sequence.localRole ∧
      after.nextEventIndex = sequence.nextEventIndex + 1 ∧
      after.phase = if after.nextEventIndex = kBootstrapSequence.length then .completed
        else .inProgress := by
  cases advances with
  | accepted _ isNext isFlow isMessage role position phase =>
    exact ⟨_, isNext, isFlow, isMessage, role, position, phase⟩
  | terminal | aborted | wrongFlow | unexpectedMessage => cases accepts

theorem Advances.scripted (advances : sequence.Advances flow messageType (after, status))
    (accepts : status.accepts = true) : messageType ≠ .abort := by
  obtain ⟨event, isNext, _, isMessage, _⟩ := advances.goesOn accepts
  rw [isMessage]
  exact abort_not_scripted isNext

theorem Advances.isAbort (advances : sequence.Advances flow messageType (after, status))
    (aborted : status = .aborted) : messageType = .abort := by
  cases advances with
  | aborted _ isAbort => exact isAbort
  | terminal | wrongFlow | unexpectedMessage => cases aborted
  | accepted _ _ _ _ _ _ _ accepts =>
    subst aborted
    cases accepts

/-- What a side makes of a message, told by where the side stands in the script. A message of
    another place, early or repeated, is `misplaced`. -/
structure Judges (sequence after : ControlBootstrapSequenceV1) (flow : ControlBootstrapFlowV1)
    (messageType : ControlBootstrapMessageTypeV1) (status : ControlBootstrapAdvanceStatusV1) :
    Prop where
  accepted : status.accepts = true ↔ sequence.phase = .inProgress ∧
    ∃ event, kBootstrapSequence[sequence.nextEventIndex]? = some event ∧
      flow = flowForRole sequence.localRole event.direction ∧ messageType = event.messageType
  misplaced : ∀ position event, kBootstrapSequence[position]? = some event →
    messageType = event.messageType → position ≠ sequence.nextEventIndex →
    status.accepts = false
  wrongDirection : sequence.phase = .inProgress → messageType ≠ .abort →
    (∀ event, kBootstrapSequence[sequence.nextEventIndex]? = some event →
      flow ≠ flowForRole sequence.localRole event.direction) →
    status = .wrongFlow ∧ after = { sequence with phase := .failed }
  wrongMessage : ∀ event, sequence.phase = .inProgress → messageType ≠ .abort →
    kBootstrapSequence[sequence.nextEventIndex]? = some event →
    flow = flowForRole sequence.localRole event.direction → messageType ≠ event.messageType →
    status = .unexpectedMessage ∧ after = { sequence with phase := .failed }
  abort : sequence.phase = .inProgress → messageType = .abort →
    status = .aborted ∧ after = { sequence with phase := .aborted }
  terminal : sequence.phase ≠ .inProgress → status = .alreadyTerminal ∧ after = sequence

theorem Advances.accepts_iff (advances : sequence.Advances flow messageType (after, status)) :
    status.accepts = true ↔ sequence.phase = .inProgress ∧
      ∃ event, kBootstrapSequence[sequence.nextEventIndex]? = some event ∧
        flow = flowForRole sequence.localRole event.direction ∧
        messageType = event.messageType := by
  cases advances with
  | terminal ended => exact iff_of_false (by decide) (fun next => ended next.1)
  | aborted _ isAbort =>
    refine iff_of_false (by decide) ?_
    rintro ⟨_, event, isNext, _, isMessage⟩
    exact abort_not_scripted isNext (isMessage.symm.trans isAbort)
  | wrongFlow _ _ otherFlow =>
    refine iff_of_false (by decide) ?_
    rintro ⟨_, event, isNext, isFlow, _⟩
    exact otherFlow event isNext isFlow
  | unexpectedMessage _ _ isNext _ otherMessage =>
    refine iff_of_false (by decide) ?_
    rintro ⟨_, event', isEvent, _, isMessage⟩
    obtain rfl := Option.some.inj (isNext.symm.trans isEvent)
    exact otherMessage isMessage
  | accepted running isNext isFlow isMessage _ _ _ accepts =>
    exact iff_of_true accepts ⟨running, _, isNext, isFlow, isMessage⟩

theorem Advances.judges (directed : flow = .outbound ∨ flow = .inbound)
    (advances : sequence.Advances flow messageType (after, status)) :
    Judges sequence after flow messageType status where
  accepted := advances.accepts_iff
  misplaced := by
    intro position event isEvent isMessage elsewhere
    rw [Bool.eq_false_iff]
    intro accepts
    obtain ⟨_, event', isNext, _, isNextMessage⟩ := advances.accepts_iff.mp accepts
    exact elsewhere (position_of_message isEvent isNext (isMessage.symm.trans isNextMessage))
  wrongDirection := by
    intro running noAbort otherFlow
    cases advances with
    | wrongFlow => exact ⟨rfl, rfl⟩
    | terminal ended => exact absurd running ended
    | aborted _ isAbort => exact absurd isAbort noAbort
    | unexpectedMessage _ _ isNext isFlow | accepted _ isNext isFlow =>
      exact absurd isFlow (otherFlow _ isNext)
  wrongMessage := by
    intro event running noAbort isNext isFlow otherMessage
    cases advances with
    | unexpectedMessage => exact ⟨rfl, rfl⟩
    | terminal ended => exact absurd running ended
    | aborted _ isAbort => exact absurd isAbort noAbort
    | wrongFlow _ _ otherFlow => exact absurd isFlow (otherFlow event isNext)
    | accepted _ isEvent _ isMessage =>
      obtain rfl := Option.some.inj (isNext.symm.trans isEvent)
      exact absurd isMessage otherMessage
  abort := by
    intro running isAbort
    cases advances with
    | aborted => exact ⟨rfl, rfl⟩
    | terminal ended => exact absurd running ended
    | wrongFlow _ noAbort | unexpectedMessage _ noAbort =>
      exact absurd ⟨directed, isAbort⟩ noAbort
    | accepted _ isNext _ isMessage =>
      exact absurd (isMessage.symm.trans isAbort) (abort_not_scripted isNext)
  terminal := by
    intro ended
    cases advances with
    | terminal => exact ⟨rfl, rfl⟩
    | aborted running | wrongFlow running | unexpectedMessage running | accepted running =>
      exact absurd running ended

end

end ControlBootstrapSequenceV1

inductive Side where
  | host
  | android
  deriving DecidableEq

def Side.role : Side → ControlBootstrapRoleV1
  | .host => .host
  | .android => .android

def Side.peer : Side → Side
  | .host => .android
  | .android => .host

structure BootstrapLink where
  sequence : Side → ControlBootstrapSequenceV1 := fun side => .new side.role
  inbox : Side → List ControlBootstrapMessageTypeV1 := fun _ => []

inductive LinkOp where
  | send (side : Side) (messageType : ControlBootstrapMessageTypeV1)
  | receive (side : Side)
  | inject (side : Side) (messageType : ControlBootstrapMessageTypeV1)

inductive LinkAnswer where
  | sent (status : ControlBootstrapAdvanceStatusV1)
  | received (messageType : ControlBootstrapMessageTypeV1)
      (status : ControlBootstrapAdvanceStatusV1)
  | empty
  | injected

/-- A sender puts nothing on the channel that its own sequence refused. What is injected
    reaches a side all the same. -/
def bootstrapStep (link : BootstrapLink) : LinkOp → BootstrapLink × LinkAnswer
  | .send side messageType =>
    let (sequence, status) := (link.sequence side).advanceOutbound messageType
    ({ sequence := Function.update link.sequence side sequence
       inbox :=
         if status.accepts || status == .aborted then
           Function.update link.inbox side.peer (link.inbox side.peer ++ [messageType])
         else link.inbox }, .sent status)
  | .receive side =>
    match link.inbox side with
    | [] => (link, .empty)
    | messageType :: rest =>
      let (sequence, status) := (link.sequence side).advanceInbound messageType
      ({ sequence := Function.update link.sequence side sequence
         inbox := Function.update link.inbox side rest }, .received messageType status)
  | .inject side messageType =>
    ({ link with inbox := Function.update link.inbox side (link.inbox side ++ [messageType]) },
      .injected)

def acceptedBy (side : Side) : LinkOp × LinkAnswer →
    Option (ControlBootstrapFlowV1 × ControlBootstrapMessageTypeV1)
  | (.send sender messageType, .sent status) =>
    if sender = side ∧ status.accepts = true then some (.outbound, messageType) else none
  | (.receive receiver, .received messageType status) =>
    if receiver = side ∧ status.accepts = true then some (.inbound, messageType) else none
  | _ => none

def refusedBy (side : Side) : LinkOp × LinkAnswer → Option ControlBootstrapMessageTypeV1
  | (.receive receiver, .received messageType status) =>
    if receiver = side ∧ status.accepts = false then some messageType else none
  | _ => none

def injectedTo (side : Side) : LinkOp × LinkAnswer → Option ControlBootstrapMessageTypeV1
  | (.inject receiver messageType, _) => if receiver = side then some messageType else none
  | _ => none

/-- What a side has accepted once it is at a position of the script. -/
def scriptTo (side : Side) (position : Nat) :
    List (ControlBootstrapFlowV1 × ControlBootstrapMessageTypeV1) :=
  (kBootstrapSequence.take position).map (fun event =>
    (flowForRole side.role event.direction, event.messageType))

section

variable {hist : List (LinkOp × LinkAnswer)} {link : BootstrapLink} {side other : Side}

def sent (side : Side) (hist : List (LinkOp × LinkAnswer)) : Nat :=
  (hist.filterMap (acceptedBy side)).countP (fun accepted => accepted.1 == .outbound)

def received (side : Side) (hist : List (LinkOp × LinkAnswer)) : Nat :=
  (hist.filterMap (acceptedBy side)).countP (fun accepted => accepted.1 == .inbound)

/-- The messages a side has taken off its channel and not accepted. -/
def discarded (side : Side) (hist : List (LinkOp × LinkAnswer)) : Nat :=
  (hist.filterMap (refusedBy side)).length

/-- The messages put on a side's channel whatever the sequences said. -/
def injected (side : Side) (hist : List (LinkOp × LinkAnswer)) : Nat :=
  (hist.filterMap (injectedTo side)).length

/-- The script messages among those on their way. -/
def underway (messages : List ControlBootstrapMessageTypeV1) : Nat :=
  messages.countP (fun messageType => messageType != .abort)

structure FollowsScript (side : Side) (history : List (LinkOp × LinkAnswer))
    (sequence : ControlBootstrapSequenceV1) : Prop where
  role : sequence.localRole = side.role
  log : history.filterMap (acceptedBy side) = scriptTo side sequence.nextEventIndex
  inside : sequence.nextEventIndex ≤ kBootstrapSequence.length
  completed : sequence.phase = .completed → sequence.nextEventIndex = kBootstrapSequence.length

/-- The messages one side sent, with those injected, are those the other one accepted, discarded
    or still awaits. -/
structure Balances (side : Side) (history : List (LinkOp × LinkAnswer)) (link : BootstrapLink) :
    Prop where
  upper : sent side.peer history + injected side history ≤ received side history +
    discarded side history + (link.inbox side).length
  lower : received side history + underway (link.inbox side) ≤
    sent side.peer history + injected side history

theorem scriptTo_succ {position : Nat} {event : BootstrapSequenceEvent}
    (isNext : kBootstrapSequence[position]? = some event) :
    scriptTo side (position + 1) = scriptTo side position ++
      [(flowForRole side.role event.direction, event.messageType)] := by
  unfold scriptTo
  rw [List.take_add_one, isNext]
  simp

variable {sequence : ControlBootstrapSequenceV1} {answered : LinkOp × LinkAnswer}

theorem FollowsScript.refused {after : ControlBootstrapSequenceV1}
    (h : FollowsScript side hist sequence) (role : after.localRole = sequence.localRole)
    (position : after.nextEventIndex = sequence.nextEventIndex)
    (notCompleted : after.phase = .completed → sequence.phase = .completed)
    (nothing : acceptedBy side answered = none) :
    FollowsScript side (hist ++ [answered]) after where
  role := role.trans h.role
  log := by rw [Lib.Run.filterMap_concat, nothing, position, h.log]; exact List.append_nil _
  inside := by rw [position]; exact h.inside
  completed := fun isCompleted => by rw [position]; exact h.completed (notCompleted isCompleted)

theorem FollowsScript.advances {after : ControlBootstrapSequenceV1} {flow : ControlBootstrapFlowV1}
    {messageType : ControlBootstrapMessageTypeV1} {status : ControlBootstrapAdvanceStatusV1}
    (h : FollowsScript side hist sequence)
    (advances : sequence.Advances flow messageType (after, status))
    (accepted : acceptedBy side answered =
      if status.accepts = true then some (flow, messageType) else none) :
    FollowsScript side (hist ++ [answered]) after := by
  cases refuses : status.accepts with
  | false =>
    rw [refuses, if_neg Bool.false_ne_true] at accepted
    obtain ⟨role, position, _, notCompleted⟩ := advances.stopped refuses
    exact h.refused role position notCompleted accepted
  | true =>
    rw [if_pos refuses] at accepted
    obtain ⟨event, isNext, isFlow, isMessage, role, position, phase⟩ := advances.goesOn refuses
    have bound := (List.getElem?_eq_some_iff.mp isNext).1
    refine ⟨role.trans h.role, ?_, by rw [position]; exact bound, ?_⟩
    · rw [Lib.Run.filterMap_concat, accepted, position, scriptTo_succ isNext, h.log, isMessage,
        isFlow, h.role]
      rfl
    · intro isCompleted
      rw [phase] at isCompleted
      split at isCompleted
      · assumption
      · cases isCompleted

theorem sent_concat (answered : LinkOp × LinkAnswer) :
    sent side (hist ++ [answered]) = sent side hist +
      (acceptedBy side answered).toList.countP (fun ok => ok.1 == .outbound) := by
  unfold sent
  rw [Lib.Run.filterMap_concat, List.countP_append]

theorem received_concat (answered : LinkOp × LinkAnswer) :
    received side (hist ++ [answered]) = received side hist +
      (acceptedBy side answered).toList.countP (fun ok => ok.1 == .inbound) := by
  unfold received
  rw [Lib.Run.filterMap_concat, List.countP_append]

theorem discarded_concat (answered : LinkOp × LinkAnswer) :
    discarded side (hist ++ [answered]) =
      discarded side hist + (refusedBy side answered).toList.length := by
  unfold discarded
  rw [Lib.Run.filterMap_concat, List.length_append]

theorem injected_concat (answered : LinkOp × LinkAnswer) :
    injected side (hist ++ [answered]) =
      injected side hist + (injectedTo side answered).toList.length := by
  unfold injected
  rw [Lib.Run.filterMap_concat, List.length_append]

theorem peer_ne (side : Side) : side.peer ≠ side := by cases side <;> decide

theorem peer_peer (side : Side) : side.peer.peer = side := by cases side <;> rfl

theorem acceptedBy_send (sender side : Side) (messageType : ControlBootstrapMessageTypeV1)
    (status : ControlBootstrapAdvanceStatusV1) :
    acceptedBy side (.send sender messageType, .sent status) =
      if sender = side ∧ status.accepts = true then some (.outbound, messageType) else none := rfl

theorem acceptedBy_receive (recv side : Side) (messageType : ControlBootstrapMessageTypeV1)
    (status : ControlBootstrapAdvanceStatusV1) :
    acceptedBy side (.receive recv, .received messageType status) =
      if recv = side ∧ status.accepts = true then some (.inbound, messageType) else none := rfl

structure LinkHolds (history : List (LinkOp × LinkAnswer)) (link : BootstrapLink) : Prop where
  follows : ∀ side, FollowsScript side history (link.sequence side)
  balances : ∀ side, Balances side history link

theorem underway_concat (messages : List ControlBootstrapMessageTypeV1)
    (messageType : ControlBootstrapMessageTypeV1) :
    underway (messages ++ [messageType]) =
      underway messages + if messageType = .abort then 0 else 1 := by
  unfold underway
  by_cases abort : messageType = .abort <;> simp [abort]

theorem Balances.concat {after : BootstrapLink} (h : Balances side hist link)
    (upper : (acceptedBy side.peer answered).toList.countP (fun ok => ok.1 == .outbound) +
        (injectedTo side answered).toList.length + (link.inbox side).length ≤
      (acceptedBy side answered).toList.countP (fun ok => ok.1 == .inbound) +
        (refusedBy side answered).toList.length + (after.inbox side).length)
    (lower : (acceptedBy side answered).toList.countP (fun ok => ok.1 == .inbound) +
        underway (after.inbox side) ≤
      (acceptedBy side.peer answered).toList.countP (fun ok => ok.1 == .outbound) +
        (injectedTo side answered).toList.length + underway (link.inbox side)) :
    Balances side (hist ++ [answered]) after := by
  have oldUpper := h.upper
  have oldLower := h.lower
  constructor
  · rw [sent_concat, received_concat, discarded_concat, injected_concat]
    omega
  · rw [sent_concat, received_concat, injected_concat]
    omega

theorem LinkHolds.follows_step {after : BootstrapLink} {own : Side} {flow : ControlBootstrapFlowV1}
    {messageType : ControlBootstrapMessageTypeV1} {status : ControlBootstrapAdvanceStatusV1}
    (h : LinkHolds hist link)
    (advances : (link.sequence own).Advances flow messageType (sequence, status))
    (isAfter : after.sequence = Function.update link.sequence own sequence)
    (ok : ∀ side, acceptedBy side answered =
      if own = side ∧ status.accepts = true then some (flow, messageType) else none) (side : Side) :
    FollowsScript side (hist ++ [answered]) (after.sequence side) := by
  rw [isAfter]
  by_cases isOwn : own = side
  · subst isOwn
    rw [Function.update_self]
    exact (h.follows own).advances advances (by simp [ok])
  · rw [Function.update_of_ne (Ne.symm isOwn)]
    exact (h.follows side).refused rfl rfl id (by simp [ok, isOwn])

/-- A message that was let pass is one more of the sender, and one more on its way. -/
theorem LinkHolds.send (h : LinkHolds hist link) (sender : Side)
    (messageType : ControlBootstrapMessageTypeV1) :
    LinkHolds (hist ++ [(.send sender messageType,
      (bootstrapStep link (.send sender messageType)).2)])
      (bootstrapStep link (.send sender messageType)).1 := by
  have advances := (link.sequence sender).advance_advances .outbound messageType
  cases outcome : (link.sequence sender).advance .outbound messageType with
  | mk sequence status =>
    rw [outcome] at advances
    have step : bootstrapStep link (.send sender messageType) =
        ({ sequence := Function.update link.sequence sender sequence
           inbox :=
             if status.accepts || status == .aborted then
               Function.update link.inbox sender.peer (link.inbox sender.peer ++ [messageType])
             else link.inbox }, .sent status) := by
      simp only [bootstrapStep, ControlBootstrapSequenceV1.advanceOutbound, outcome]
    rw [step]
    refine ⟨h.follows_step advances rfl (fun side => rfl), ?_⟩
    intro side
    have other : ¬ sender = sender.peer := Ne.symm (peer_ne sender)
    by_cases toward : sender.peer = side
    · subst toward
      apply (h.balances sender.peer).concat
      · cases accepts : status.accepts with
        | false =>
          by_cases aborts : status = .aborted <;>
            simp [acceptedBy_send, refusedBy, injectedTo, peer_peer, other, accepts, aborts]
        | true =>
          simp [acceptedBy_send, refusedBy, injectedTo, peer_peer, other, accepts]
          omega
      · cases accepts : status.accepts with
        | false =>
          by_cases aborts : status = .aborted
          · simp [acceptedBy_send, injectedTo, peer_peer, other, aborts, advances.isAbort aborts,
              underway_concat]
          · simp [acceptedBy_send, injectedTo, peer_peer, other, accepts, aborts]
        | true =>
          have scripted := advances.scripted accepts
          simp [acceptedBy_send, injectedTo, peer_peer, other, accepts, underway_concat, scripted]
    · have own : sender = side := by
        cases sender <;> cases side <;> first | rfl | exact absurd rfl toward
      subst own
      have kept : (if status.accepts || status == .aborted then
          Function.update link.inbox sender.peer (link.inbox sender.peer ++ [messageType])
          else link.inbox) sender = link.inbox sender := by
        split
        · exact Function.update_of_ne other _ _
        · rfl
      have nothing : acceptedBy sender.peer (.send sender messageType, .sent status) = none := by
        simp [acceptedBy_send, other]
      have outward : (acceptedBy sender (.send sender messageType, .sent status)).toList.countP
          (fun accepted => accepted.1 == .inbound) = 0 := by
        cases accepts : status.accepts <;> simp [acceptedBy_send, accepts]
      apply (h.balances sender).concat
      · dsimp only
        rw [nothing, outward, kept]
        simp [injectedTo]
      · dsimp only
        rw [nothing, outward, kept]
        simp [injectedTo]

/-- A message taken off a channel is accepted or refused. -/
theorem LinkHolds.receive (h : LinkHolds hist link) (recv : Side) :
    LinkHolds (hist ++ [(.receive recv, (bootstrapStep link (.receive recv)).2)])
      (bootstrapStep link (.receive recv)).1 := by
  cases inbox : link.inbox recv with
  | nil =>
    have step : bootstrapStep link (.receive recv) = (link, .empty) := by
      simp only [bootstrapStep, inbox]
    rw [step]
    refine ⟨fun side => (h.follows side).refused rfl rfl id rfl, fun side => ?_⟩
    exact (h.balances side).concat (by simp [acceptedBy, refusedBy, injectedTo])
      (by simp [acceptedBy, injectedTo])
  | cons messageType rest =>
    have advances := (link.sequence recv).advance_advances .inbound messageType
    cases outcome : (link.sequence recv).advance .inbound messageType with
    | mk sequence status =>
      rw [outcome] at advances
      have step : bootstrapStep link (.receive recv) =
          ({ sequence := Function.update link.sequence recv sequence
             inbox := Function.update link.inbox recv rest },
            .received messageType status) := by
        simp only [bootstrapStep, ControlBootstrapSequenceV1.advanceInbound, inbox, outcome]
      rw [step]
      refine ⟨h.follows_step advances rfl (fun side => rfl), ?_⟩
      intro side
      by_cases own : recv = side
      · subst own
        have other : ¬ recv = recv.peer := Ne.symm (peer_ne recv)
        apply (h.balances recv).concat
        · cases accepts : status.accepts <;>
            simp [acceptedBy_receive, refusedBy, injectedTo, other, accepts, inbox]
        · cases accepts : status.accepts with
          | false =>
            simp [acceptedBy_receive, injectedTo, accepts, inbox, underway, List.countP_cons]
          | true =>
            have scripted := advances.scripted accepts
            simp [acceptedBy_receive, injectedTo, other, accepts, inbox, underway, scripted]
            omega
      · have inward : (acceptedBy side.peer
            (.receive recv, .received messageType status)).toList.countP
            (fun accepted => accepted.1 == .outbound) = 0 := by
          rw [acceptedBy_receive]
          split <;> simp
        apply (h.balances side).concat
        · dsimp only
          rw [inward, Function.update_of_ne (Ne.symm own)]
          simp [injectedTo]
        · dsimp only
          rw [inward, Function.update_of_ne (Ne.symm own)]
          simp [acceptedBy_receive, injectedTo, own]

/-- What is injected is on its way until the side takes it. -/
theorem LinkHolds.inject (h : LinkHolds hist link) (recv : Side)
    (messageType : ControlBootstrapMessageTypeV1) :
    LinkHolds (hist ++ [(.inject recv messageType, .injected)])
      (bootstrapStep link (.inject recv messageType)).1 := by
  refine ⟨fun side => (h.follows side).refused rfl rfl id rfl, fun side => ?_⟩
  by_cases own : recv = side
  · subst own
    apply (h.balances recv).concat
    · simp [bootstrapStep, acceptedBy, refusedBy, injectedTo]
      omega
    · simp only [bootstrapStep, acceptedBy, injectedTo, Function.update_self, underway_concat]
      split <;> simp [Nat.add_comm]
  · apply (h.balances side).concat <;>
      simp [bootstrapStep, acceptedBy, refusedBy, injectedTo, own, Ne.symm own]

theorem linkHolds_start : LinkHolds [] {} where
  follows := by
    intro side
    cases side with
    | host => exact ⟨rfl, rfl, Nat.zero_le _, fun no => by cases no⟩
    | android => exact ⟨rfl, rfl, Nat.zero_le _, fun no => by cases no⟩
  balances := fun _ => ⟨le_rfl, le_rfl⟩

end

theorem linkHolds_run (ops : List LinkOp) :
    LinkHolds (Lib.Run.trace bootstrapStep {} ops) (Lib.Run.exec bootstrapStep {} ops) := by
  refine Lib.Run.history_invariant bootstrapStep linkHolds_start ?_ ops
  intro hist link op h
  cases op with
  | send sender messageType => exact h.send sender messageType
  | receive receiver => exact h.receive receiver
  | inject receiver messageType => exact h.inject receiver messageType

/-- A side that is no longer in progress keeps its position and accepts nothing. -/
theorem bootstrapStep_terminal {link : BootstrapLink} {side : Side}
    (terminal : (link.sequence side).phase ≠ .inProgress) (op : LinkOp) :
    (bootstrapStep link op).1.sequence side = link.sequence side ∧
      acceptedBy side (op, (bootstrapStep link op).2) = none := by
  have stays (flow : ControlBootstrapFlowV1) (messageType : ControlBootstrapMessageTypeV1) :
      (link.sequence side).advance flow messageType = (link.sequence side, .alreadyTerminal) :=
    if_pos terminal
  cases op with
  | send sender messageType =>
    by_cases own : sender = side
    · subst own
      simp [bootstrapStep, ControlBootstrapSequenceV1.advanceOutbound, stays, acceptedBy_send,
        ControlBootstrapAdvanceStatusV1.accepts]
    · simp [bootstrapStep, acceptedBy_send, own, Function.update_of_ne (Ne.symm own)]
  | receive recv =>
    cases inbox : link.inbox recv with
    | nil => simp [bootstrapStep, inbox, acceptedBy]
    | cons messageType rest =>
      by_cases own : recv = side
      · subst own
        simp [bootstrapStep, inbox, ControlBootstrapSequenceV1.advanceInbound, stays,
          acceptedBy_receive, ControlBootstrapAdvanceStatusV1.accepts]
      · simp [bootstrapStep, inbox, acceptedBy_receive, own, Function.update_of_ne (Ne.symm own)]
  | inject recv messageType => exact ⟨rfl, rfl⟩

theorem terminal_run {link : BootstrapLink} {side : Side}
    (terminal : (link.sequence side).phase ≠ .inProgress) (ops : List LinkOp) :
    (Lib.Run.exec bootstrapStep link ops).sequence side = link.sequence side ∧
      (Lib.Run.trace bootstrapStep link ops).filterMap (acceptedBy side) = [] := by
  induction ops generalizing link with
  | nil => exact ⟨rfl, rfl⟩
  | cons op ops ih =>
    obtain ⟨same, nothing⟩ := bootstrapStep_terminal terminal op
    have still : ((bootstrapStep link op).1.sequence side).phase ≠ .inProgress := by
      rw [same]
      exact terminal
    obtain ⟨final, none⟩ := ih still
    rw [Lib.Run.exec_cons, Lib.Run.trace_cons, List.filterMap_cons, nothing]
    exact ⟨final.trans same, none⟩

/-- What a side was asked to pass and what its sequence answered. -/
def answeredBy (side : Side) : LinkOp × LinkAnswer → Option
    (ControlBootstrapFlowV1 × ControlBootstrapMessageTypeV1 × ControlBootstrapAdvanceStatusV1)
  | (.send sender messageType, .sent status) =>
    if sender = side then some (.outbound, messageType, status) else none
  | (.receive receiver, .received messageType status) =>
    if receiver = side then some (.inbound, messageType, status) else none
  | _ => none

/-- Whatever a side answers, its sequence was asked about that message in that direction. -/
theorem advances_of_answered {link : BootstrapLink} {side : Side} {op : LinkOp}
    {flow : ControlBootstrapFlowV1} {messageType : ControlBootstrapMessageTypeV1}
    {status : ControlBootstrapAdvanceStatusV1}
    (answered : answeredBy side (op, (bootstrapStep link op).2) =
      some (flow, messageType, status)) :
    (flow = .outbound ∨ flow = .inbound) ∧ (link.sequence side).Advances flow messageType
      ((bootstrapStep link op).1.sequence side, status) := by
  cases op with
  | send sender sentType =>
    have advances := (link.sequence sender).advance_advances .outbound sentType
    simp only [bootstrapStep, ControlBootstrapSequenceV1.advanceOutbound, answeredBy,
      Option.ite_none_right_eq_some, Option.some.injEq, Prod.mk.injEq] at answered ⊢
    obtain ⟨rfl, rfl, rfl, rfl⟩ := answered
    rw [Function.update_self]
    exact ⟨.inl rfl, advances⟩
  | receive recv =>
    cases inbox : link.inbox recv with
    | nil => simp [bootstrapStep, inbox, answeredBy] at answered
    | cons receivedType rest =>
      have advances := (link.sequence recv).advance_advances .inbound receivedType
      simp only [bootstrapStep, inbox, ControlBootstrapSequenceV1.advanceInbound, answeredBy,
        Option.ite_none_right_eq_some, Option.some.injEq, Prod.mk.injEq] at answered ⊢
      obtain ⟨rfl, rfl, rfl, rfl⟩ := answered
      rw [Function.update_self]
      exact ⟨.inr rfl, advances⟩
  | inject recv injectedType => simp [answeredBy] at answered

theorem countP_flows (accepted : List (ControlBootstrapFlowV1 × ControlBootstrapMessageTypeV1))
    (directed : ∀ entry ∈ accepted, entry.1 = .outbound ∨ entry.1 = .inbound) :
    accepted.countP (fun entry => entry.1 == .outbound) +
      accepted.countP (fun entry => entry.1 == .inbound) = accepted.length := by
  induction accepted with
  | nil => rfl
  | cons entry rest ih =>
    have tail := ih (fun other mem => directed other (List.mem_cons_of_mem _ mem))
    cases directed entry List.mem_cons_self with
    | inl outbound =>
      simp only [List.countP_cons, outbound, List.length_cons]
      simp
      omega
    | inr inbound =>
      simp only [List.countP_cons, inbound, List.length_cons]
      simp
      omega

theorem flows_of_scriptTo (side : Side) (position : Nat) :
    ∀ entry ∈ scriptTo side position, entry.1 = .outbound ∨ entry.1 = .inbound := by
  have all : ∀ event ∈ kBootstrapSequence, flowForRole side.role event.direction = .outbound ∨
      flowForRole side.role event.direction = .inbound := by
    cases side <;> decide
  intro entry mem
  obtain ⟨event, inScript, rfl⟩ := List.mem_map.mp mem
  exact all event (List.mem_of_mem_take inScript)

theorem FollowsScript.position {side : Side} {hist : List (LinkOp × LinkAnswer)}
    {sequence : ControlBootstrapSequenceV1} (h : FollowsScript side hist sequence) :
    sent side hist + received side hist = sequence.nextEventIndex := by
  unfold sent received
  rw [h.log, countP_flows _ (flows_of_scriptTo side _), scriptTo, List.length_map, List.length_take]
  exact Nat.min_eq_left h.inside

/-- A side is ahead of the other by no more than the other has yet to take or has discarded, and
    what was injected towards itself. -/
theorem LinkHolds.ahead {hist : List (LinkOp × LinkAnswer)} {link : BootstrapLink}
    (h : LinkHolds hist link) (side : Side) :
    (link.sequence side.peer).nextEventIndex ≤ (link.sequence side).nextEventIndex +
      (link.inbox side).length + discarded side hist + injected side.peer hist := by
  have own := (h.follows side).position
  have other := (h.follows side.peer).position
  have toward := (h.balances side).upper
  have back := (h.balances side.peer).lower
  rw [peer_peer] at back
  omega

/-- What holds of the two sides after any sends, receives and injected messages: each accepted
    the script as far as it is, answers every message by the script, and keeps what it has
    accepted for good once it refused one. -/
structure FollowsBootstrap (ops : List LinkOp) : Prop where
  inOrder : ∀ side, (Lib.Run.trace bootstrapStep {} ops).filterMap (acceptedBy side) =
    scriptTo side ((Lib.Run.exec bootstrapStep {} ops).sequence side).nextEventIndex
  together : ∀ side, ((Lib.Run.exec bootstrapStep {} ops).sequence side.peer).nextEventIndex ≤
    ((Lib.Run.exec bootstrapStep {} ops).sequence side).nextEventIndex +
      ((Lib.Run.exec bootstrapStep {} ops).inbox side).length +
      discarded side (Lib.Run.trace bootstrapStep {} ops) +
      injected side.peer (Lib.Run.trace bootstrapStep {} ops)
  complete : ∀ side, ((Lib.Run.exec bootstrapStep {} ops).sequence side).phase = .completed →
    (Lib.Run.trace bootstrapStep {} ops).filterMap (acceptedBy side) =
      kBootstrapSequence.map (fun event =>
        (flowForRole side.role event.direction, event.messageType))
  judged : ∀ side earlier op later, ops = earlier ++ op :: later →
    ∀ flow messageType status,
    answeredBy side (op, (bootstrapStep (Lib.Run.exec bootstrapStep {} earlier) op).2) =
      some (flow, messageType, status) →
    ((Lib.Run.exec bootstrapStep {} earlier).sequence side).Judges
      ((Lib.Run.exec bootstrapStep {} (earlier ++ [op])).sequence side) flow messageType status
  final : ∀ side earlier op later, ops = earlier ++ op :: later →
    ∀ flow messageType status,
    answeredBy side (op, (bootstrapStep (Lib.Run.exec bootstrapStep {} earlier) op).2) =
      some (flow, messageType, status) → status.accepts = false →
    (Lib.Run.trace bootstrapStep {} ops).filterMap (acceptedBy side) =
      (Lib.Run.trace bootstrapStep {} earlier).filterMap (acceptedBy side)

/-- A side accepts the script, one message after the other, refuses whatever else reaches it, and
    accepts nothing after a deviation; the two sides are apart by what is on its way, what was
    discarded and what was injected. -/
theorem bootstrap_follows_script (ops : List LinkOp) : FollowsBootstrap ops := by
  have holds := linkHolds_run ops
  refine ⟨fun side => (holds.follows side).log, holds.ahead, ?_, ?_, ?_⟩
  · intro side completed
    rw [(holds.follows side).log, (holds.follows side).completed completed, scriptTo,
      List.take_length]
  · intro side old op later split flow messageType status answered
    obtain ⟨directed, advances⟩ := advances_of_answered answered
    rw [Lib.Run.exec_append, Lib.Run.exec_cons, Lib.Run.exec_nil]
    exact advances.judges directed
  · intro side old op later split flow messageType status answered refuses
    obtain ⟨_, advances⟩ := advances_of_answered answered
    obtain ⟨_, position, terminal, _⟩ := advances.stopped refuses
    have whole := (holds.follows side).log
    subst split
    rw [Lib.Run.exec_append, Lib.Run.exec_cons, (terminal_run terminal later).1, position] at whole
    rw [whole, ((linkHolds_run old).follows side).log]

/-- A side that stopped discards what the other one sent it. -/
theorem stopped_side_falls_behind :
    ¬ ∀ (ops : List LinkOp) (side : Side),
      ((Lib.Run.exec bootstrapStep {} ops).sequence side.peer).nextEventIndex ≤
        ((Lib.Run.exec bootstrapStep {} ops).sequence side).nextEventIndex +
          (((Lib.Run.exec bootstrapStep {} ops).inbox side).length +
            ((Lib.Run.exec bootstrapStep {} ops).inbox side.peer).length) := by
  intro together
  have apart := together
    [.send .host .hostHello, .send .android .serverChallenge, .receive .android] .android
  revert apart
  decide

end VisionForge.Bootstrap
