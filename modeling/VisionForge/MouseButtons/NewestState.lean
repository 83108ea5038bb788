import VisionForge.DataPlane.Channel
import VisionForge.DataPlane.PacketV2

/-! # The physical buttons of the Host, as the phone receives them

A datagram is opened, its mask is decoded, and the mask replaces the one before it under a
lease of 200 milliseconds. The cipher of the platform is not part of the program.
-/

namespace VisionForge.MouseButtons

open DataPlane DataPlane.PacketV2 Lib.Ascii Lib.BigEndian

inductive Reason where
  | authenticationFailed
  | closed
  | counterLimitExceeded
  | cryptoUnavailable
  | domainMismatch
  | malformedEnvelope
  | payloadTooLarge
  | replayDuplicate
  | replayTooOld
  | unauthenticatedPacket
  | unsupportedVersion
  deriving DecidableEq

/-- What the cipher answers: the plaintext, a tag that does not verify, or a failure. -/
inductive CipherAnswer where
  | plaintext (octets : Bytes)
  | badTag
  | unavailable
  deriving DecidableEq

structure AuthenticatedDataPlaneV2Receiver where
  /-- `none` once closed. -/
  key : Option Bytes
  noncePrefix : Bytes
  expectedDomain : AuthenticatedPacketTuple
  maxPayloadBytes : Nat
  replayWindow : UnsignedReplayWindow

structure ParsedEnvelope where
  counter : Nat
  payloadLength : Nat

def requireContainerLength (envelope : Bytes) (maxPayloadBytes : Nat) : Except Reason Unit :=
  if envelope.length < kMinimumPacketBytes then .error .malformedEnvelope
  else if kAuthenticatedPacketHeaderBytes + maxPayloadBytes + kGcmTagBytes < envelope.length then
    .error .payloadTooLarge
  else .ok ()

def parse (envelope : Bytes) (expectedDomain : AuthenticatedPacketTuple) (maxPayloadBytes : Nat) :
    Except Reason ParsedEnvelope := do
  requireContainerLength envelope maxPayloadBytes
  let direction := DataPlaneDirection.ofOctet (octetAt envelope kDirectionOffset)
  let messageType := AuthenticatedPacketType.ofOctet (octetAt envelope kPacketTypeOffset)
  let payloadLength := loadAt envelope kPayloadLengthOffset 4
  if envelope.take 4 ≠ kPacketMagic then .error .malformedEnvelope
  else if octetAt envelope kVersionOffset ≠ kAuthenticatedDataPlaneVersion then
    .error .unsupportedVersion
  else if (octetAt envelope kHeaderSizeOffset).toNat ≠ kAuthenticatedPacketHeaderBytes then
    .error .malformedEnvelope
  else if direction = .invalid ∨ messageType = .invalid then .error .malformedEnvelope
  else if BitVec.ofNat 64 (loadAt envelope kConnectionIdOffset 8) ≠ expectedDomain.connectionId ∨
      BitVec.ofNat 32 (loadAt envelope kKeyEpochOffset 4) ≠ expectedDomain.keyEpoch ∨
      direction ≠ expectedDomain.direction ∨ messageType ≠ expectedDomain.packetType then
    .error .domainMismatch
  else if maxPayloadBytes < payloadLength then .error .payloadTooLarge
  else if kAuthenticatedPacketHeaderBytes + payloadLength + kGcmTagBytes ≠ envelope.length then
    .error .malformedEnvelope
  else .ok { counter := loadAt envelope kCounterOffset 8, payloadLength := payloadLength }

namespace AuthenticatedDataPlaneV2Receiver

variable (recv : AuthenticatedDataPlaneV2Receiver)

def requireReplayAcceptable (counter : BitVec 64) : Except Reason Unit :=
  match recv.replayWindow.inspect counter with
  | .duplicate => .error .replayDuplicate
  | .tooOld => .error .replayTooOld
  | .accept => .ok ()

def decryptCall (key envelope : Bytes) (parsed : ParsedEnvelope) : DecryptCall where
  key := key
  nonce := composeNonce recv.noncePrefix parsed.counter
  authenticatedData := envelope.take kAuthenticatedPacketHeaderBytes
  ciphertext := (envelope.drop kAuthenticatedPacketHeaderBytes).take parsed.payloadLength
  tag := envelope.drop (kAuthenticatedPacketHeaderBytes + parsed.payloadLength)

def decrypt (cipher : DecryptCall → CipherAnswer) (call : DecryptCall) (payloadLength : Nat) :
    Except Reason Bytes :=
  match cipher call with
  | .badTag => .error .authenticationFailed
  | .unavailable => .error .cryptoUnavailable
  | .plaintext octets =>
    if octets.length = payloadLength then .ok octets else .error .cryptoUnavailable

/-- The checks that come before the counter is committed. -/
def authenticate (cipher : DecryptCall → CipherAnswer) (envelope : Bytes) :
    Except Reason (Nat × Bytes) :=
  match recv.key with
  | none => .error .closed
  | some key => do
      requireContainerLength envelope recv.maxPayloadBytes
      let parsed ← parse envelope recv.expectedDomain recv.maxPayloadBytes
      if kMaximumAuthenticatedPacketCounter < parsed.counter then .error .counterLimitExceeded
      else
        recv.requireReplayAcceptable (BitVec.ofNat 64 parsed.counter)
        let plaintext ←
          decrypt cipher (recv.decryptCall key envelope parsed) parsed.payloadLength
        .ok (parsed.counter, plaintext)

def openUntrustedEnvelope (cipher : DecryptCall → CipherAnswer) (envelope : Bytes) :
    AuthenticatedDataPlaneV2Receiver × Except Reason Bytes :=
  match recv.authenticate cipher envelope with
  | .error reason => (recv, .error reason)
  | .ok (counter, plaintext) =>
    match recv.replayWindow.commitAuthenticated (BitVec.ofNat 64 counter) with
    | (replayWindow, true) => ({ recv with replayWindow }, .ok plaintext)
    | (replayWindow, false) => ({ recv with replayWindow }, .error .cryptoUnavailable)

/-- No detail of a packet crosses the public boundary. -/
def «open» (cipher : DecryptCall → CipherAnswer) (envelope : Bytes) :
    AuthenticatedDataPlaneV2Receiver × Except Reason Bytes :=
  let (recv, opened) := recv.openUntrustedEnvelope cipher envelope
  match opened with
  | .ok plaintext => (recv, .ok plaintext)
  | .error reason =>
    if reason = .closed ∨ reason = .cryptoUnavailable then (recv, .error reason)
    else (recv, .error .unauthenticatedPacket)

end AuthenticatedDataPlaneV2Receiver

def KEY_EPOCH_V1 : BitVec 32 := 1
def PAYLOAD_BYTES : Nat := 1
def VALID_BUTTON_MASK : UInt8 := 0x1f
def DEFAULT_REPLAY_WINDOW_SIZE : Nat := 1024

def createHostToAndroidDomain (connectionId : BitVec 64) : AuthenticatedPacketTuple where
  connectionId := connectionId
  keyEpoch := KEY_EPOCH_V1
  direction := .hostToAndroid
  packetType := .mouseButton

def newReplayWindow : UnsignedReplayWindow where
  windowSize := DEFAULT_REPLAY_WINDOW_SIZE
  admitted := by decide
  seenWords := Lib.BitWords.zeros _

def newReceiver (trafficKey noncePrefix : Bytes) (connectionId : BitVec 64) :
    AuthenticatedDataPlaneV2Receiver where
  key := some trafficKey
  noncePrefix := noncePrefix
  expectedDomain := createHostToAndroidDomain connectionId
  maxPayloadBytes := PAYLOAD_BYTES
  replayWindow := newReplayWindow

/-- `none` where the plaintext is not canonical. -/
def decodeButtonMask (plaintext : Bytes) : Option UInt8 :=
  if plaintext.length ≠ PAYLOAD_BYTES then none
  else
    let buttonMask := plaintext.getD 0 0
    if buttonMask &&& ~~~VALID_BUTTON_MASK = 0 then some buttonMask else none

def MAX_ENVELOPE_BYTES : Nat := kAuthenticatedPacketHeaderBytes + PAYLOAD_BYTES + kGcmTagBytes
def RECEIVE_BUFFER_BYTES : Nat := MAX_ENVELOPE_BYTES + 1

structure Cat6MouseButtonProtocol where
  receiver : Option AuthenticatedDataPlaneV2Receiver := none
  activeConnectionId : BitVec 64 := 0
  sessionRevision : BitVec 64 := 0

structure Packet where
  buttonMask : UInt8
  sessionRevision : BitVec 64
  deriving DecidableEq

namespace Cat6MouseButtonProtocol

variable (protocol : Cat6MouseButtonProtocol)

def advanceSessionRevision : Cat6MouseButtonProtocol :=
  let next := protocol.sessionRevision + 1
  { protocol with sessionRevision := if next = 0 then 1 else next }

def clearConfirmedSession : Cat6MouseButtonProtocol :=
  advanceSessionRevision { protocol with receiver := none, activeConnectionId := 0 }

/-- Installing the active connection again keeps its receiver. -/
def installConfirmedMaterial (trafficMaterial : Bytes) (connectionId : BitVec 64) :
    Cat6MouseButtonProtocol × Bool :=
  if trafficMaterial.length ≠ kAes256KeyBytes + kGcmNoncePrefixBytes ∨ connectionId = 0 then
    (protocol.clearConfirmedSession, false)
  else if protocol.receiver.isSome ∧ protocol.activeConnectionId = connectionId then
    (protocol, true)
  else
    (advanceSessionRevision
      { protocol with
        receiver := some (newReceiver (trafficMaterial.take kAes256KeyBytes)
          (trafficMaterial.drop kAes256KeyBytes) connectionId)
        activeConnectionId := connectionId }, true)

def isCurrentSessionRevision (candidateRevision : BitVec 64) : Bool :=
  protocol.receiver.isSome && protocol.sessionRevision == candidateRevision

/-- The packet that is answered has lost its counter. -/
def decode (cipher : DecryptCall → CipherAnswer) (datagram : Bytes) :
    Cat6MouseButtonProtocol × Option Packet :=
  match protocol.receiver with
  | none => (protocol, none)
  | some recv =>
    if datagram.length ≠ MAX_ENVELOPE_BYTES then (protocol, none)
    else
      match recv.open cipher datagram with
      | (recv, .ok plaintext) =>
        ({ protocol with receiver := some recv },
          (decodeButtonMask plaintext).map fun buttonMask =>
            { buttonMask, sessionRevision := protocol.sessionRevision })
      | (recv, .error reason) =>
        let protocol := { protocol with receiver := some recv }
        if reason = .closed ∨ reason = .cryptoUnavailable then
          (protocol.clearConfirmedSession, none)
        else (protocol, none)

end Cat6MouseButtonProtocol

def STREAM_LEASE_NANOS : Nat := 200000000

structure Cat6MouseButtonLeaseState where
  lastPacketNanos : Nat := 0
  revision : Nat := 0
  buttonMask : UInt8 := 0
  streamReady : Bool := false
  deriving DecidableEq

structure PacketUpdate where
  readyEventRequired : Bool
  listenerNotificationRequired : Bool
  revision : Nat
  buttonMask : UInt8
  deriving DecidableEq

namespace Cat6MouseButtonLeaseState

def acceptPacket (state : Cat6MouseButtonLeaseState) (acceptedButtonMask : UInt8)
    (receivedAtNanos : Nat) (newSession : Bool) : Cat6MouseButtonLeaseState × PacketUpdate :=
  let listenerNotificationRequired :=
    !state.streamReady || state.buttonMask != acceptedButtonMask
  let revision := if listenerNotificationRequired then state.revision + 1 else state.revision
  ({ lastPacketNanos := receivedAtNanos
     revision := revision
     buttonMask := acceptedButtonMask
     streamReady := true },
    { readyEventRequired := !state.streamReady || newSession
      listenerNotificationRequired := listenerNotificationRequired
      revision := revision
      buttonMask := acceptedButtonMask })

def clear (state : Cat6MouseButtonLeaseState) : Cat6MouseButtonLeaseState :=
  let changed := state.streamReady || state.buttonMask != 0
  { lastPacketNanos := 0
    revision := if changed then state.revision + 1 else state.revision
    buttonMask := 0
    streamReady := false }

def expireIfStale (state : Cat6MouseButtonLeaseState) (observedAtNanos leaseNanos : Nat) :
    Cat6MouseButtonLeaseState :=
  if state.streamReady = false ∨ observedAtNanos < state.lastPacketNanos ∨
      observedAtNanos - state.lastPacketNanos ≤ leaseNanos then state
  else state.clear

end Cat6MouseButtonLeaseState

structure Cat6MouseButtonInput where
  protocol : Cat6MouseButtonProtocol := {}
  buttonState : Cat6MouseButtonLeaseState := {}
  /-- Of the worker that receives. -/
  sessionKnown : Bool := false
  activeSessionRevision : BitVec 64 := 0
  acceptedPackets : Nat := 0
  rejectedPackets : Nat := 0

namespace Cat6MouseButtonInput

variable (input : Cat6MouseButtonInput)

def reject : Cat6MouseButtonInput := { input with rejectedPackets := input.rejectedPackets + 1 }

def acceptPacket (packet : Packet) (newSession : Bool) (nowNanos : Nat) :
    Cat6MouseButtonInput × Option PacketUpdate :=
  if input.protocol.isCurrentSessionRevision packet.sessionRevision = false then
    (input.reject, none)
  else
    let (buttonState, update) :=
      input.buttonState.acceptPacket packet.buttonMask nowNanos newSession
    ({ input with buttonState, acceptedPackets := input.acceptedPackets + 1 }, some update)

/-- One datagram of the loop of the worker. -/
def receivePacket (fromHost : Bool) (payload : Bytes) (cipher : DecryptCall → CipherAnswer)
    (nowNanos : Nat) : Cat6MouseButtonInput × Option PacketUpdate :=
  if fromHost = false then (input.reject, none)
  else
    match input.protocol.decode cipher (payload.take RECEIVE_BUFFER_BYTES) with
    | (protocol, none) => ({ input with protocol }.reject, none)
    | (protocol, some packet) =>
      let newSession :=
        !input.sessionKnown || packet.sessionRevision != input.activeSessionRevision
      acceptPacket
        { input with
          protocol
          sessionKnown := true
          activeSessionRevision := packet.sessionRevision } packet newSession nowNanos

def expireLeaseIfNeeded (nowNanos : Nat) : Cat6MouseButtonInput :=
  { input with buttonState := input.buttonState.expireIfStale nowNanos STREAM_LEASE_NANOS }

def expireStream : Cat6MouseButtonInput := { input with buttonState := input.buttonState.clear }

def restartWorker : Cat6MouseButtonInput :=
  { input.expireStream with sessionKnown := false, activeSessionRevision := 0 }

def currentButtonMask (nowNanos : Nat) : UInt8 :=
  (input.expireLeaseIfNeeded nowNanos).buttonState.buttonMask

def isButtonStreamReady (nowNanos : Nat) : Bool :=
  (input.expireLeaseIfNeeded nowNanos).buttonState.streamReady

def installConfirmedSession (trafficMaterial : Bytes) (connectionId : BitVec 64) :
    Cat6MouseButtonInput :=
  match input.protocol.installConfirmedMaterial trafficMaterial connectionId with
  | (protocol, true) => { input with protocol }.expireStream
  | (protocol, false) => { input with protocol := protocol.clearConfirmedSession }

end Cat6MouseButtonInput

/-! ## The newest button state

The replay window admits counters out of order, and a decoded packet has lost its counter. So
the mask that is kept is that of the datagram accepted last, which is the newest one only while
the datagrams arrive in the order in which the Host has sealed them.
-/

open Lib.BitWords Lib.ReplayLaw Lib.Run

/-- The Host's sealer, what the provider has produced for it, and the phone's input. -/
structure Session where
  sealer : AuthenticatedPacketSealer
  produced : ProviderLog
  phone : Cat6MouseButtonInput

/-- What happens in a session: a button state is published, a datagram arrives, whichever it is
and as often as the network likes, the lease is looked at, the stream is cleared. -/
inductive Operation where
  | publish (buttonMask : UInt8) (allocates : Bool) (output : Option (Nat → UInt8))
  | receive (fromHost : Bool) (payload : Bytes) (unavailable : Bool) (nowNanos : Nat)
  | expireLease (nowNanos : Nat)
  | expireStream
  | restartWorker

structure AcceptedDatagram where
  counter : Nat
  buttonMask : UInt8
  deriving DecidableEq

/-- The cipher opens what the Host's provider has produced, and may be unavailable. -/
def platformCipher (produced : ProviderLog) (unavailable : Bool) (call : DecryptCall) :
    CipherAnswer :=
  if unavailable then .unavailable
  else
    match idealDecrypt produced false call with
    | some octets => .plaintext octets
    | none => .badTag

/-- The Host refuses a mask with unsupported bits. -/
def publish (session : Session) (buttonMask : UInt8) (allocates : Bool)
    (output : Option (Nat → UInt8)) : Session × PacketSealResult :=
  if buttonMask &&& ~~~VALID_BUTTON_MASK ≠ 0 then (session, {})
  else
    let (sealer, result, call) :=
      AuthenticatedPacketSealer.seal session.sealer ⟨[buttonMask], allocates, output⟩
    ({ session with sealer, produced := session.produced ++ producedBy call output }, result)

/-- The next state, and the datagram that was accepted. -/
def step (session : Session) : Operation → Session × Option AcceptedDatagram
  | .publish buttonMask allocates output =>
    ((publish session buttonMask allocates output).1, none)
  | .receive fromHost payload unavailable nowNanos =>
    let (phone, update) :=
      session.phone.receivePacket fromHost payload
        (platformCipher session.produced unavailable) nowNanos
    ({ session with phone },
      update.map fun update =>
        { counter := loadAt (payload.take RECEIVE_BUFFER_BYTES) kCounterOffset 8
          buttonMask := update.buttonMask })
  | .expireLease nowNanos =>
    ({ session with phone := session.phone.expireLeaseIfNeeded nowNanos }, none)
  | .expireStream => ({ session with phone := session.phone.expireStream }, none)
  | .restartWorker => ({ session with phone := session.phone.restartWorker }, none)

/-- The phone after a confirmed session was installed, and the Host's sealer for it. -/
def newSession (trafficKey : TrafficKey AuthenticatedPacketTuple) (connectionId : BitVec 64)
    (imports : Bool) : Session where
  sealer :=
    AuthenticatedPacketSealer.new
      { trafficKey with tuple := createHostToAndroidDomain connectionId } imports
  produced := []
  phone :=
    Cat6MouseButtonInput.installConfirmedSession {}
      (trafficKey.aes256Key ++ trafficKey.noncePrefix) connectionId

/-- The datagrams that were accepted, in the order of their arrival. -/
def accepted (session : Session) (operations : List Operation) : List AcceptedDatagram :=
  (trace step session operations).filterMap Prod.snd

def Newest (datagrams : List AcceptedDatagram) (datagram : AcceptedDatagram) : Prop :=
  datagram ∈ datagrams ∧ ∀ other ∈ datagrams, other.counter ≤ datagram.counter

theorem streamReady_of_expire {state : Cat6MouseButtonLeaseState} {now lease : Nat}
    (ready : (state.expireIfStale now lease).streamReady = true) :
    state.expireIfStale now lease = state := by
  unfold Cat6MouseButtonLeaseState.expireIfStale at ready ⊢
  split at ready
  · rw [if_pos ‹_›]
  · cases ready

theorem receivePacket_keeps (input : Cat6MouseButtonInput) (fromHost : Bool) (payload : Bytes)
    (cipher : DecryptCall → CipherAnswer) (now : Nat) :
    match input.receivePacket fromHost payload cipher now with
    | (after, none) => after.buttonState = input.buttonState
    | (after, some update) =>
      after.buttonState.streamReady = true ∧ after.buttonState.buttonMask = update.buttonMask := by
  unfold Cat6MouseButtonInput.receivePacket
  cases fromHost with
  | false => rfl
  | true =>
    cases decoded : input.protocol.decode cipher (payload.take RECEIVE_BUFFER_BYTES) with
    | mk protocol packet =>
      cases packet with
      | none => rfl
      | some packet =>
        dsimp only [Cat6MouseButtonInput.acceptPacket]
        cases cur : protocol.isCurrentSessionRevision packet.sessionRevision with
        | false => rfl
        | true => exact ⟨rfl, rfl⟩

theorem step_keeps (sess : Session) (op : Operation) :
    match step sess op with
    | (after, none) => after.phone.buttonState.streamReady = true →
        after.phone.buttonState = sess.phone.buttonState
    | (after, some dgram) => after.phone.buttonState.streamReady = true ∧
        after.phone.buttonState.buttonMask = dgram.buttonMask := by
  cases op with
  | publish buttonMask allocates output =>
    intro _
    unfold publish
    split <;> rfl
  | receive fromHost payload unavailable now =>
    have kept := receivePacket_keeps sess.phone fromHost payload
      (platformCipher sess.produced unavailable) now
    dsimp only [step]
    cases received : sess.phone.receivePacket fromHost payload
        (platformCipher sess.produced unavailable) now with
    | mk phone update =>
      rw [received] at kept
      cases update with
      | none => exact fun _ => kept
      | some update => exact kept
  | expireLease now => exact fun ready => streamReady_of_expire ready
  | expireStream => exact fun ready => by cases ready
  | restartWorker => exact fun ready => by cases ready

/-- While the stream is ready the mask is that of the datagram accepted last. -/
def Follows (datagrams : List AcceptedDatagram) (state : Cat6MouseButtonLeaseState) : Prop :=
  state.streamReady = true →
    ∃ earlier last, datagrams = earlier ++ [last] ∧ state.buttonMask = last.buttonMask

theorem accepted_append (sess : Session) (ops : List Operation) (op : Operation) :
    accepted sess (ops ++ [op]) =
      accepted sess ops ++ (step (exec step sess ops) op).2.toList := by
  unfold accepted
  rw [trace_append, List.filterMap_append]
  cases ans : (step (exec step sess ops) op).2 <;> simp [ans]

theorem accepted_follows {sess : Session}
    (unready : sess.phone.buttonState.streamReady = false) (ops : List Operation) :
    Follows (accepted sess ops) (exec step sess ops).phone.buttonState := by
  induction ops using List.reverseRecOn with
  | nil =>
    intro ready
    rw [exec_nil, unready] at ready
    cases ready
  | append_singleton ops op hypothesis =>
    have kept := step_keeps (exec step sess ops) op
    rw [accepted_append, exec_append]
    show Follows _ (step (exec step sess ops) op).1.phone.buttonState
    cases stepped : step (exec step sess ops) op with
    | mk after dgram =>
      rw [stepped] at kept
      cases dgram with
      | none =>
        intro ready
        have same : after.phone.buttonState = _ := kept ready
        rw [same] at ready ⊢
        simpa using hypothesis ready
      | some dgram => exact fun _ => ⟨_, dgram, rfl, kept.2⟩

/-- Each accepted datagram was accepted by an operation, after those accepted before it. -/
theorem accepted_split {sess : Session} {ops : List Operation}
    {old later : List AcceptedDatagram} {datagram : AcceptedDatagram}
    (split : accepted sess ops = old ++ datagram :: later) :
    ∃ before op, before ++ [op] <+: ops ∧ accepted sess before = old ∧
      (step (exec step sess before) op).2 = some datagram := by
  induction ops using List.reverseRecOn generalizing later with
  | nil => simp [accepted] at split
  | append_singleton ops op hypothesis =>
    rw [accepted_append] at split
    cases answered : (step (exec step sess ops) op).2 with
    | none =>
      rw [answered, Option.toList_none, List.append_nil] at split
      obtain ⟨before, other, within, isEarlier, accepts⟩ := hypothesis split
      exact ⟨before, other, within.trans (List.prefix_append _ _), isEarlier, accepts⟩
    | some last =>
      rw [answered, Option.toList_some] at split
      rcases List.eq_nil_or_concat later with rfl | ⟨others, other, rfl⟩
      · obtain ⟨same, isLast⟩ := List.append_inj' split rfl
        obtain rfl : last = datagram := by simpa using isLast
        exact ⟨ops, op, List.prefix_rfl, same, answered⟩
      · rw [List.concat_eq_append, ← List.cons_append, ← List.append_assoc] at split
        obtain ⟨same, _⟩ := List.append_inj' split rfl
        obtain ⟨before, other, within, isEarlier, accepts⟩ := hypothesis same
        exact ⟨before, other, within.trans (List.prefix_append _ _), isEarlier, accepts⟩

/-- The datagrams that are accepted come in the order of their counters, apart from late ones
that carry the mask of the newest. -/
def Ordered (datagrams : List AcceptedDatagram) : Prop :=
  ∀ earlier datagram later, datagrams = earlier ++ datagram :: later →
    ∀ newest, Newest earlier newest →
      newest.counter < datagram.counter ∨ newest.buttonMask = datagram.buttonMask

theorem Newest.of_late {datagrams : List AcceptedDatagram} {newest late : AcceptedDatagram}
    (isNewest : Newest datagrams newest) (isLate : late.counter ≤ newest.counter) :
    Newest (datagrams ++ [late]) newest := by
  refine ⟨List.mem_append_left _ isNewest.1, fun other among => ?_⟩
  rcases List.mem_append.mp among with old | last
  · exact isNewest.2 other old
  · rw [List.mem_singleton.mp last]
    exact isLate

theorem Newest.last_or {datagrams : List AcceptedDatagram} {newest last : AcceptedDatagram}
    (isNewest : Newest (datagrams ++ [last]) newest) :
    newest = last ∨ Newest datagrams newest ∧ last.counter ≤ newest.counter := by
  obtain ⟨among, highest⟩ := isNewest
  rcases List.mem_append.mp among with old | isLast
  · exact Or.inr ⟨⟨old, fun other mem => highest other (List.mem_append_left _ mem)⟩,
      highest last (by simp)⟩
  · exact Or.inl (List.mem_singleton.mp isLast)

theorem newSession_unready (trafficKey : TrafficKey AuthenticatedPacketTuple)
    (connectionId : BitVec 64) (imports : Bool) :
    (newSession trafficKey connectionId imports).phone.buttonState.streamReady = false := by
  dsimp only [newSession, Cat6MouseButtonInput.installConfirmedSession]
  split <;> rfl

/-- While the lease lasts the mask is that of the newest accepted datagram, in every state that
is reached, exactly when the accepted datagrams are ordered. -/
theorem newest_state_wins_iff (trafficKey : TrafficKey AuthenticatedPacketTuple)
    (connectionId : BitVec 64) (imports : Bool) (ops : List Operation) :
    let start := newSession trafficKey connectionId imports
    (∀ before, before <+: ops →
        (exec step start before).phone.buttonState.streamReady = true →
          ∀ newest, Newest (accepted start before) newest →
            (exec step start before).phone.buttonState.buttonMask = newest.buttonMask) ↔
      Ordered (accepted start ops) := by
  intro start
  constructor
  · intro wins old datagram later split newest isNewest
    by_cases inOrder : newest.counter < datagram.counter
    · exact Or.inl inOrder
    · right
      obtain ⟨before, op, within, rfl, accepts⟩ := accepted_split split
      have kept := step_keeps (exec step start before) op
      have isNow : exec step start (before ++ [op]) = (step (exec step start before) op).1 := by
        rw [exec_append]
        rfl
      have accepted' := accepted_append start before op
      rw [accepts, Option.toList_some] at accepted'
      have newest' : Newest (accepted start (before ++ [op])) newest := by
        rw [accepted']
        exact isNewest.of_late (by omega)
      cases stepped : step (exec step start before) op with
      | mk after answer =>
        rw [stepped] at kept accepts isNow
        obtain rfl : answer = some datagram := accepts
        have mask := wins _ within (by rw [isNow]; exact kept.1) newest newest'
        rw [isNow] at mask
        exact mask.symm.trans kept.2
  · intro ordered before within ready newest isNewest
    have unready := newSession_unready trafficKey connectionId imports
    obtain ⟨old, last, split, mask⟩ := accepted_follows unready before ready
    rw [mask]
    rw [show accepted start before = _ from split] at isNewest
    rcases isNewest.last_or with rfl | ⟨isNewest, isLate⟩
    · rfl
    · obtain ⟨rest, rfl⟩ := within
      have whole : accepted start (before ++ rest) = old ++ last ::
          (trace step (exec step start before) rest).filterMap Prod.snd := by
        have front : (trace step start before).filterMap Prod.snd = old ++ [last] := split
        unfold accepted
        rw [trace_append, List.filterMap_append, front]
        simp
      rcases ordered _ _ _ whole newest isNewest with above | same
      · omega
      · exact same.symm

/-- The two datagrams of a press and a release arrive in the other order. -/
def pressAndRelease : List Operation :=
  let datagram (counter : Nat) : Bytes :=
    PacketV2.encodeHeader (createHostToAndroidDomain 1) counter 1 ++
      List.replicate 17 (UInt8.ofNat counter)
  [.publish 0x02 true (some fun _ => 0),
    .publish 0x00 true (some fun _ => 1),
    .receive true (datagram 1) false 1000,
    .receive true (datagram 0) false 2000]

def sessionKey : TrafficKey AuthenticatedPacketTuple where
  tuple := createHostToAndroidDomain 1
  aes256Key := List.replicate 32 0
  noncePrefix := List.replicate 4 0
  keyBytes := rfl
  prefixBytes := rfl

theorem late_press_overrides_release :
    ¬∀ (trafficKey : TrafficKey AuthenticatedPacketTuple) (connectionId : BitVec 64)
      (imports : Bool) (ops : List Operation) (newest : AcceptedDatagram),
      let start := newSession trafficKey connectionId imports
      (exec step start ops).phone.buttonState.streamReady = true →
        Newest (accepted start ops) newest →
          (exec step start ops).phone.buttonState.buttonMask = newest.buttonMask := by
  intro claim
  have acceptedBoth : accepted (newSession sessionKey 1 true) pressAndRelease =
      [⟨1, 0x00⟩, ⟨0, 0x02⟩] := by
    decide +kernel
  have newest : Newest (accepted (newSession sessionKey 1 true) pressAndRelease) ⟨1, 0x00⟩ := by
    rw [acceptedBoth]
    simp [Newest]
  have released := claim sessionKey 1 true pressAndRelease ⟨1, 0x00⟩ (by decide +kernel) newest
  have pressed : (exec step (newSession sessionKey 1 true)
      pressAndRelease).phone.buttonState.buttonMask = 0x02 := by
    decide +kernel
  rw [pressed] at released
  cases released

end VisionForge.MouseButtons
