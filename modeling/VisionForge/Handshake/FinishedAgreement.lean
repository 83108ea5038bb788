import Mathlib.Data.Set.Basic
import Mathlib.Logic.Function.Basic
import VisionForge.Handshake.KeySchedule
import VisionForge.Lib.BigEndian
import VisionForge.Lib.Run
import VisionForge.Lib.Sha256

/-! # Agreement through the Finished messages

The host and the Android device each derive their keys, make a Finished and confirm what
the channel brings them. The channel belongs to an attacker: it brings any Finished that
was ever made, to either side and as often as it likes, or anything the attacker can make
without the Finished keys of the two sessions.
-/

namespace VisionForge.Handshake

open Lib.Ascii

/-- The MAC and the key derivation, as injective keyed functions. -/
structure PlatformCryptography.Idealised (crypto : PlatformCryptography) : Prop where
  hmac : ∀ {key input key' input' : Bytes},
    crypto.hmacSha256Bytes key input = crypto.hmacSha256Bytes key' input' →
      key = key' ∧ input = input'
  hkdf : ∀ {prk asciiInfo prk' asciiInfo' : Bytes} {size : Nat}, 0 < size →
    crypto.hkdfExpandSha256 prk asciiInfo size = crypto.hkdfExpandSha256 prk' asciiInfo' size →
      prk = prk' ∧ asciiInfo = asciiInfo'

/-! ## One call -/

inductive Endpoint where
  | host
  | android
  deriving DecidableEq

def Endpoint.role : Endpoint → PeerHandshakeRole
  | .host => .host
  | .android => .android

def Endpoint.peer : Endpoint → Endpoint
  | .host => .android
  | .android => .host

theorem peer_ne_self (endpoint : Endpoint) : endpoint.peer ≠ endpoint := by
  cases endpoint <;> decide

theorem role_injective {first second : Endpoint} (same : first.role.value = second.role.value) :
    first = second := by
  cases first <;> cases second <;> first | rfl | exact absurd same (by decide)

theorem peerRole_eq (endpoint : Endpoint) :
    (if endpoint.role = .host then .android else .host : PeerHandshakeRole) =
      endpoint.peer.role := by
  cases endpoint <;> rfl

def finishedKey (session : ConfirmedPeerHandshakeSessionV1) : Endpoint → Bytes
  | .host => session.finishedHost
  | .android => session.finishedAndroid

section

variable (crypto : PlatformCryptography)

def finishedMac (session : ConfirmedPeerHandshakeSessionV1) (endpoint : Endpoint) : Bytes :=
  crypto.hmacSha256Bytes (finishedKey session endpoint)
    (finishedMessage endpoint.role session.binding.transcriptSha256)

theorem createFinishedMacForRole_eq (session : ConfirmedPeerHandshakeSessionV1)
    (endpoint : Endpoint) (failure : Option PeerHandshakeError) :
    session.createFinishedMacForRole crypto endpoint.role failure =
      match failure with
      | some error => .error error
      | none => .ok (finishedMac crypto session endpoint) := by
  cases endpoint <;> cases failure <;> rfl

theorem foldl_or_eq_zero (pairs : List (UInt8 × UInt8)) (start : UInt8) :
    pairs.foldl (fun difference pair => difference ||| (pair.1 ^^^ pair.2)) start = 0 ↔
      start = 0 ∧ ∀ pair ∈ pairs, pair.1 = pair.2 := by
  induction pairs generalizing start with
  | nil => simp
  | cons pair pairs ih =>
    simp only [List.foldl_cons, ih, List.forall_mem_cons]
    rw [UInt8.or_eq_zero_iff, UInt8.xor_eq_zero_iff, and_assoc]

theorem constantTimeEqual_iff (left right : Bytes) :
    constantTimeEqual left right = true ↔ left = right := by
  unfold constantTimeEqual
  split
  · rename_i differ
    constructor
    · intro no
      cases no
    · intro same
      exact absurd (congrArg List.length same) differ
  · rename_i sameLength
    rw [not_not] at sameLength
    rw [beq_iff_eq, foldl_or_eq_zero]
    constructor
    · rintro ⟨-, pairs⟩
      apply List.ext_getElem sameLength
      intro index inLeft inRight
      have inZip : index < (left.zip right).length := by
        rw [List.length_zip]
        omega
      have same := pairs _ (List.getElem_mem inZip)
      rwa [List.getElem_zip] at same
    · rintro rfl
      refine ⟨rfl, fun pair mem => ?_⟩
      obtain ⟨index, hin, rfl⟩ := List.mem_iff_getElem.mp mem
      rw [List.getElem_zip]

theorem verifyFinishedMacForRole_eq_ok {session : ConfirmedPeerHandshakeSessionV1}
    {endpoint : Endpoint} {mac : Bytes} {failure : Option PeerHandshakeError}
    (ok : session.verifyFinishedMacForRole crypto endpoint.role mac failure = .ok ()) :
    mac = finishedMac crypto session endpoint := by
  unfold ConfirmedPeerHandshakeSessionV1.verifyFinishedMacForRole at ok
  rw [createFinishedMacForRole_eq] at ok
  cases failure with
  | some error => cases ok
  | none =>
    simp only [bind, Except.bind] at ok
    split at ok
    · rename_i same
      exact ((constantTimeEqual_iff _ _).mp same).symm
    · cases ok

theorem createLocalFinishedMac_cases {pending : PendingPeerHandshakeConfirmationV1}
    {endpoint : Endpoint} (isLocal : pending.localRole = endpoint.role)
    (failure : Option PeerHandshakeError) :
    (∃ session, pending.unconfirmedSession = some session ∧
      pending.createLocalFinishedMac crypto failure =
        ({ pending with localFinishedGenerated := true },
          .ok (finishedMac crypto session endpoint))) ∨
    (∃ error, pending.createLocalFinishedMac crypto failure = (pending.close, .error error)) ∨
    ∃ error, pending.createLocalFinishedMac crypto failure = (pending, .error error) := by
  unfold PendingPeerHandshakeConfirmationV1.createLocalFinishedMac
  split
  · rename_i session _ isSession
    rw [isLocal, createFinishedMacForRole_eq]
    cases failure with
    | some error => exact .inr (.inl ⟨error, rfl⟩)
    | none => exact .inl ⟨session, isSession, rfl⟩
  · exact .inr (.inr ⟨_, rfl⟩)

theorem confirmPeerFinishedAndConsume_cases {pending : PendingPeerHandshakeConfirmationV1}
    {endpoint : Endpoint} (isLocal : pending.localRole = endpoint.role) (mac : Bytes)
    (failure : Option PeerHandshakeError) :
    (∃ session, pending.unconfirmedSession = some session ∧
      pending.localFinishedGenerated = true ∧ mac = finishedMac crypto session endpoint.peer ∧
      pending.confirmPeerFinishedAndConsume crypto mac failure =
        (pending.close, .ok (session.confirmed endpoint.role))) ∨
    ∃ error, pending.confirmPeerFinishedAndConsume crypto mac failure =
      (pending.close, .error error) := by
  unfold PendingPeerHandshakeConfirmationV1.confirmPeerFinishedAndConsume
  split
  · rename_i session _ isSession
    split
    · exact .inr ⟨_, rfl⟩
    · rename_i generated
      simp only [isLocal, peerRole_eq]
      cases verified : session.verifyFinishedMacForRole crypto endpoint.peer.role mac failure with
      | error error => exact .inr ⟨error, rfl⟩
      | ok accepted =>
        exact .inl ⟨session, isSession, by simpa using generated,
          verifyFinishedMacForRole_eq_ok crypto verified, rfl⟩
  · exact .inr ⟨_, rfl⟩

theorem derivePending_cases (agreement : PlatformP256EphemeralKeyAgreementV1)
    (role : PeerHandshakeRole) (transcript : CanonicalPeerHandshakeTranscriptV1)
    (failure : Option PeerHandshakeError) :
    (∃ secret, agreement.privateKey ≠ none ∧
      agreement.derivePendingAfterPeerIdentityVerified crypto role transcript failure =
        ({ agreement with privateKey := none },
          .ok (.new role (some (deriveSecrets crypto role transcript secret))))) ∨
    ∃ error, agreement.derivePendingAfterPeerIdentityVerified crypto role transcript failure =
      ({ agreement with privateKey := none }, .error error) := by
  unfold PlatformP256EphemeralKeyAgreementV1.derivePendingAfterPeerIdentityVerified
  cases isKey : agreement.privateKey with
  | none => exact .inr ⟨_, rfl⟩
  | some privateKey =>
    cases keys : transcriptKeys role transcript.fields with
    | error error => exact .inr ⟨error, rfl⟩
    | ok pair =>
      simp only [bind, Except.bind]
      split
      · exact .inr ⟨_, rfl⟩
      split
      · exact .inr ⟨_, rfl⟩
      cases crypto.secretAgreement privateKey pair.2 with
      | error error => exact .inr ⟨error, rfl⟩
      | ok secret =>
        cases failure with
        | some error => exact .inr ⟨error, rfl⟩
        | none => exact .inl ⟨secret.reverse, by simp, rfl⟩

end

/-! ## Two endpoints -/

structure HandshakeLink where
  agreement : Endpoint → PlatformP256EphemeralKeyAgreementV1
  pending : Endpoint → Option PendingPeerHandshakeConfirmationV1 := fun _ => none

inductive HandshakeOp where
  | derivePending (endpoint : Endpoint) (transcript : CanonicalPeerHandshakeTranscriptV1)
      (failure : Option PeerHandshakeError)
  | createLocalFinished (endpoint : Endpoint) (failure : Option PeerHandshakeError)
  | confirmPeerFinished (endpoint : Endpoint) (mac : Bytes) (failure : Option PeerHandshakeError)
  | close (endpoint : Endpoint)

inductive HandshakeAnswer where
  | derived (result : Except PeerHandshakeError PendingPeerHandshakeConfirmationV1)
  | finished (result : Except PeerHandshakeError Bytes)
  | confirmed (result : Except PeerHandshakeError ConfirmedPeerHandshakeSessionV1)
  | closed
  | notPending

def handshakeStep (crypto : PlatformCryptography) (link : HandshakeLink) :
    HandshakeOp → HandshakeLink × HandshakeAnswer
  | .derivePending endpoint transcript failure =>
    let (agreement, result) := (link.agreement endpoint).derivePendingAfterPeerIdentityVerified
      crypto endpoint.role transcript failure
    ({ agreement := Function.update link.agreement endpoint agreement
       pending := match result with
         | .ok pending => Function.update link.pending endpoint (some pending)
         | .error _ => link.pending }, .derived result)
  | .createLocalFinished endpoint failure =>
    match link.pending endpoint with
    | none => (link, .notPending)
    | some pending =>
      let (after, result) := pending.createLocalFinishedMac crypto failure
      ({ link with pending := Function.update link.pending endpoint (some after) },
        .finished result)
  | .confirmPeerFinished endpoint mac failure =>
    match link.pending endpoint with
    | none => (link, .notPending)
    | some pending =>
      let (after, result) := pending.confirmPeerFinishedAndConsume crypto mac failure
      ({ link with pending := Function.update link.pending endpoint (some after) },
        .confirmed result)
  | .close endpoint =>
    ({ link with
       pending := Function.update link.pending endpoint ((link.pending endpoint).map (·.close)) },
      .closed)

def derivedBy (endpoint : Endpoint) :
    HandshakeOp × HandshakeAnswer → Option ConfirmedPeerHandshakeSessionV1
  | (.derivePending caller _ _, .derived (.ok pending)) =>
    if caller = endpoint then pending.unconfirmedSession else none
  | _ => none

def finishedBy (endpoint : Endpoint) : HandshakeOp × HandshakeAnswer → Option Bytes
  | (.createLocalFinished caller _, .finished (.ok mac)) =>
    if caller = endpoint then some mac else none
  | _ => none

def confirmedBy (endpoint : Endpoint) :
    HandshakeOp × HandshakeAnswer → Option ConfirmedPeerHandshakeSessionV1
  | (.confirmPeerFinished caller _ _, .confirmed (.ok session)) =>
    if caller = endpoint then some session else none
  | _ => none

/-! ## What a run has done so far -/

/-- What is known of an endpoint, with the sessions it derived, the Finished values it made
    and the sessions that were released to it: where they and its pending state come from,
    and that nothing is pending any more once a session was released. -/
structure EndpointHolds (crypto : PlatformCryptography) (endpoint : Endpoint)
    (derived : List ConfirmedPeerHandshakeSessionV1) (finished : List Bytes)
    (confirmed : List ConfirmedPeerHandshakeSessionV1)
    (agreement : PlatformP256EphemeralKeyAgreementV1)
    (pending : Option PendingPeerHandshakeConfirmationV1) : Prop where
  unused : agreement.privateKey ≠ none → pending = none ∧ derived = [] ∧ confirmed = []
  single : derived.length ≤ 1
  isDerived : ∀ session ∈ derived, ∃ transcript secret,
    session = deriveSecrets crypto endpoint.role transcript secret
  isFinished : ∀ mac ∈ finished, ∃ session ∈ derived, mac = finishedMac crypto session endpoint
  isLocal : ∀ state, pending = some state → state.localRole = endpoint.role
  unreleased : ∀ state session, pending = some state → state.unconfirmedSession = some session →
    session ∈ derived ∧ confirmed = []
  generated : ∀ state, pending = some state → state.localFinishedGenerated = true → finished ≠ []
  once : confirmed.length ≤ 1

section

variable {crypto : PlatformCryptography} {endpoint : Endpoint}
  {derived confirmed : List ConfirmedPeerHandshakeSessionV1} {finished : List Bytes}
  {agreement : PlatformP256EphemeralKeyAgreementV1}
  {pending : Option PendingPeerHandshakeConfirmationV1}
  {state : PendingPeerHandshakeConfirmationV1} {session : ConfirmedPeerHandshakeSessionV1}

theorem EndpointHolds.consumed
    (h : EndpointHolds crypto endpoint derived finished confirmed agreement pending) :
    EndpointHolds crypto endpoint derived finished confirmed { agreement with privateKey := none }
      pending :=
  { h with unused := fun present => absurd rfl present }

theorem EndpointHolds.derives
    (h : EndpointHolds crypto endpoint derived finished confirmed agreement pending)
    (present : agreement.privateKey ≠ none) (transcript : CanonicalPeerHandshakeTranscriptV1)
    (secret : Bytes) :
    EndpointHolds crypto endpoint
      (derived ++ [deriveSecrets crypto endpoint.role transcript secret]) finished confirmed
      { agreement with privateKey := none }
      (some (.new endpoint.role (some (deriveSecrets crypto endpoint.role transcript secret)))) where
  unused := fun no => absurd rfl no
  single := by
    rw [(h.unused present).2.1]
    exact le_rfl
  isDerived := by
    intro session mem
    cases List.mem_append.mp mem with
    | inl old => exact h.isDerived session old
    | inr last => exact ⟨transcript, secret, List.mem_singleton.mp last⟩
  isFinished := by
    intro mac mem
    obtain ⟨session, isDerived, isMac⟩ := h.isFinished mac mem
    exact ⟨session, List.mem_append_left _ isDerived, isMac⟩
  isLocal := by
    intro state isState
    cases isState
    rfl
  unreleased := by
    intro state session isState isSession
    cases isState
    cases isSession
    exact ⟨List.mem_append_right _ List.mem_cons_self, (h.unused present).2.2⟩
  generated := by
    intro state isState generated
    cases isState
    cases generated
  once := h.once

theorem EndpointHolds.finishes
    (h : EndpointHolds crypto endpoint derived finished confirmed agreement (some state))
    (isSession : state.unconfirmedSession = some session) :
    EndpointHolds crypto endpoint derived (finished ++ [finishedMac crypto session endpoint])
      confirmed agreement (some { state with localFinishedGenerated := true }) where
  unused := fun present => absurd (h.unused present).1 (by simp)
  single := h.single
  isDerived := h.isDerived
  isFinished := by
    intro mac mem
    cases List.mem_append.mp mem with
    | inl old => exact h.isFinished mac old
    | inr last =>
      exact ⟨session, (h.unreleased state session rfl isSession).1, List.mem_singleton.mp last⟩
  isLocal := by
    intro after isAfter
    cases isAfter
    exact h.isLocal state rfl
  unreleased := by
    intro after held isAfter isHeld
    cases isAfter
    exact h.unreleased state held rfl isHeld
  generated := fun _ _ _ => List.append_ne_nil_of_right_ne_nil _ (List.cons_ne_nil _ _)
  once := h.once

theorem EndpointHolds.closed
    (h : EndpointHolds crypto endpoint derived finished confirmed agreement (some state))
    (released : List ConfirmedPeerHandshakeSessionV1) (once : released.length ≤ 1) :
    EndpointHolds crypto endpoint derived finished released agreement (some state.close) where
  unused := fun present => absurd (h.unused present).1 (by simp)
  single := h.single
  isDerived := h.isDerived
  isFinished := h.isFinished
  isLocal := by
    intro after isAfter
    cases isAfter
    exact h.isLocal state rfl
  unreleased := by
    intro after held isAfter isHeld
    cases isAfter
    cases isHeld
  generated := by
    intro after isAfter generated
    cases isAfter
    cases generated
  once := once

end

/-- What is known of an endpoint after the calls of a history. -/
def EndpointInRun (crypto : PlatformCryptography) (endpoint : Endpoint)
    (hist : List (HandshakeOp × HandshakeAnswer)) (link : HandshakeLink) : Prop :=
  EndpointHolds crypto endpoint (hist.filterMap (derivedBy endpoint))
    (hist.filterMap (finishedBy endpoint)) (hist.filterMap (confirmedBy endpoint))
    (link.agreement endpoint) (link.pending endpoint)

section

variable {crypto : PlatformCryptography} {endpoint : Endpoint}
  {hist : List (HandshakeOp × HandshakeAnswer)} {link : HandshakeLink}

theorem endpointInRun_concat {ans : HandshakeOp × HandshakeAnswer} {after : HandshakeLink}
    (holds : EndpointHolds crypto endpoint
      (hist.filterMap (derivedBy endpoint) ++ (derivedBy endpoint ans).toList)
      (hist.filterMap (finishedBy endpoint) ++ (finishedBy endpoint ans).toList)
      (hist.filterMap (confirmedBy endpoint) ++ (confirmedBy endpoint ans).toList)
      (after.agreement endpoint) (after.pending endpoint)) :
    EndpointInRun crypto endpoint (hist ++ [ans]) after := by
  unfold EndpointInRun
  rw [Lib.Run.filterMap_concat, Lib.Run.filterMap_concat, Lib.Run.filterMap_concat]
  exact holds

def HandshakeOp.caller : HandshakeOp → Endpoint
  | .derivePending caller _ _ => caller
  | .createLocalFinished caller _ => caller
  | .confirmPeerFinished caller _ _ => caller
  | .close caller => caller

theorem nothing_of_other {op : HandshakeOp} (other : op.caller ≠ endpoint)
    (ans : HandshakeAnswer) :
    derivedBy endpoint (op, ans) = none ∧ finishedBy endpoint (op, ans) = none ∧
      confirmedBy endpoint (op, ans) = none := by
  cases op with
  | derivePending caller transcript failure =>
    refine ⟨?_, rfl, rfl⟩
    cases ans with
    | derived res =>
      cases res with
      | ok pending => exact if_neg other
      | error error => rfl
    | finished | confirmed | closed | notPending => rfl
  | createLocalFinished caller failure =>
    refine ⟨rfl, ?_, rfl⟩
    cases ans with
    | finished res =>
      cases res with
      | ok mac => exact if_neg other
      | error error => rfl
    | derived | confirmed | closed | notPending => rfl
  | confirmPeerFinished caller mac failure =>
    refine ⟨rfl, rfl, ?_⟩
    cases ans with
    | confirmed res =>
      cases res with
      | ok session => exact if_neg other
      | error error => rfl
    | derived | finished | closed | notPending => rfl
  | close caller => exact ⟨rfl, rfl, rfl⟩

theorem step_of_other {op : HandshakeOp} (other : op.caller ≠ endpoint) :
    (handshakeStep crypto link op).1.agreement endpoint = link.agreement endpoint ∧
      (handshakeStep crypto link op).1.pending endpoint = link.pending endpoint := by
  have apart : endpoint ≠ op.caller := Ne.symm other
  cases op with
  | derivePending caller transcript failure =>
    refine ⟨Function.update_of_ne apart _ _, ?_⟩
    simp only [handshakeStep]
    cases ((link.agreement caller).derivePendingAfterPeerIdentityVerified crypto caller.role
      transcript failure).2 with
    | ok pending => exact Function.update_of_ne apart _ _
    | error error => rfl
  | createLocalFinished caller failure =>
    simp only [handshakeStep]
    split
    · exact ⟨rfl, rfl⟩
    · exact ⟨rfl, Function.update_of_ne apart _ _⟩
  | confirmPeerFinished caller mac failure =>
    simp only [handshakeStep]
    split
    · exact ⟨rfl, rfl⟩
    · exact ⟨rfl, Function.update_of_ne apart _ _⟩
  | close caller => exact ⟨rfl, Function.update_of_ne apart _ _⟩

variable (h : EndpointInRun crypto endpoint hist link)

include h

theorem EndpointInRun.other {op : HandshakeOp} (other : op.caller ≠ endpoint) :
    EndpointInRun crypto endpoint (hist ++ [(op, (handshakeStep crypto link op).2)])
      (handshakeStep crypto link op).1 := by
  obtain ⟨derived, finished, confirmed⟩ :=
    nothing_of_other other (handshakeStep crypto link op).2
  apply endpointInRun_concat
  rw [derived, finished, confirmed, (step_of_other other).1, (step_of_other other).2]
  simp only [Option.toList_none, List.append_nil]
  exact h

theorem EndpointInRun.derive (transcript : CanonicalPeerHandshakeTranscriptV1)
    (failure : Option PeerHandshakeError) :
    EndpointInRun crypto endpoint
      (hist ++ [(.derivePending endpoint transcript failure,
        (handshakeStep crypto link (.derivePending endpoint transcript failure)).2)])
      (handshakeStep crypto link (.derivePending endpoint transcript failure)).1 := by
  apply endpointInRun_concat
  obtain ⟨secret, present, outcome⟩ | ⟨error, outcome⟩ :=
    derivePending_cases crypto (link.agreement endpoint) endpoint.role transcript failure
  · simp only [handshakeStep, outcome, derivedBy, finishedBy, confirmedBy, Function.update_self,
      Option.toList_none, List.append_nil]
    exact EndpointHolds.derives h present transcript secret
  · simp only [handshakeStep, outcome, derivedBy, finishedBy, confirmedBy, Function.update_self,
      Option.toList_none, List.append_nil]
    exact EndpointHolds.consumed h

theorem EndpointInRun.createLocalFinished (failure : Option PeerHandshakeError) :
    EndpointInRun crypto endpoint
      (hist ++ [(.createLocalFinished endpoint failure,
        (handshakeStep crypto link (.createLocalFinished endpoint failure)).2)])
      (handshakeStep crypto link (.createLocalFinished endpoint failure)).1 := by
  apply endpointInRun_concat
  unfold EndpointInRun at h
  cases pending : link.pending endpoint with
  | none =>
    simp only [handshakeStep, pending, derivedBy, finishedBy, confirmedBy, Option.toList_none,
      List.append_nil]
    rwa [pending] at h
  | some state =>
    rw [pending] at h
    obtain ⟨session, isSession, outcome⟩ | ⟨error, outcome⟩ | ⟨error, outcome⟩ :=
      createLocalFinishedMac_cases crypto (h.isLocal state rfl) failure
    · simp only [handshakeStep, pending, outcome, derivedBy, finishedBy, confirmedBy,
        Function.update_self, Option.toList_none, List.append_nil]
      exact h.finishes isSession
    · simp only [handshakeStep, pending, outcome, derivedBy, finishedBy, confirmedBy,
        Function.update_self, Option.toList_none, List.append_nil]
      exact h.closed _ h.once
    · simp only [handshakeStep, pending, outcome, derivedBy, finishedBy, confirmedBy,
        Function.update_self, Option.toList_none, List.append_nil]
      exact h

theorem EndpointInRun.confirmPeerFinished (mac : Bytes) (failure : Option PeerHandshakeError) :
    EndpointInRun crypto endpoint
      (hist ++ [(.confirmPeerFinished endpoint mac failure,
        (handshakeStep crypto link (.confirmPeerFinished endpoint mac failure)).2)])
      (handshakeStep crypto link (.confirmPeerFinished endpoint mac failure)).1 := by
  apply endpointInRun_concat
  unfold EndpointInRun at h
  cases pending : link.pending endpoint with
  | none =>
    simp only [handshakeStep, pending, derivedBy, finishedBy, confirmedBy, Option.toList_none,
      List.append_nil]
    rwa [pending] at h
  | some state =>
    rw [pending] at h
    obtain ⟨session, isSession, -, -, outcome⟩ | ⟨error, outcome⟩ :=
      confirmPeerFinishedAndConsume_cases crypto (h.isLocal state rfl) mac failure
    · simp only [handshakeStep, pending, outcome, derivedBy, finishedBy, confirmedBy,
        Function.update_self, Option.toList_none, List.append_nil]
      refine h.closed _ ?_
      rw [(h.unreleased state session rfl isSession).2]
      exact le_rfl
    · simp only [handshakeStep, pending, outcome, derivedBy, finishedBy, confirmedBy,
        Function.update_self, Option.toList_none, List.append_nil]
      exact h.closed _ h.once

theorem EndpointInRun.close :
    EndpointInRun crypto endpoint
      (hist ++ [(.close endpoint, (handshakeStep crypto link (.close endpoint)).2)])
      (handshakeStep crypto link (.close endpoint)).1 := by
  apply endpointInRun_concat
  unfold EndpointInRun at h
  simp only [handshakeStep, derivedBy, finishedBy, confirmedBy, Function.update_self,
    Option.toList_none, List.append_nil]
  cases pending : link.pending endpoint with
  | none => rwa [pending] at h
  | some state =>
    rw [pending] at h
    exact h.closed _ h.once

end

theorem endpointInRun_run (crypto : PlatformCryptography)
    (agreement : Endpoint → PlatformP256EphemeralKeyAgreementV1) (ops : List HandshakeOp)
    (endpoint : Endpoint) :
    EndpointInRun crypto endpoint
      (Lib.Run.trace (handshakeStep crypto) { agreement := agreement } ops)
      (Lib.Run.exec (handshakeStep crypto) { agreement := agreement } ops) := by
  have start : EndpointInRun crypto endpoint [] { agreement := agreement } := by
    constructor <;> simp
  refine Lib.Run.history_invariant (handshakeStep crypto) start ?_ ops
  intro hist link op h
  by_cases own : op.caller = endpoint
  · subst own
    cases op with
    | derivePending caller transcript failure => exact h.derive transcript failure
    | createLocalFinished caller failure => exact h.createLocalFinished failure
    | confirmPeerFinished caller mac failure => exact h.confirmPeerFinished mac failure
    | close caller => exact h.close
  · exact h.other own

/-! ## The attacker -/

/-- What an attacker makes by itself: the MAC of any message under a key it holds, and
    anything that is no MAC at all. -/
inductive AttackerMakes (crypto : PlatformCryptography) (held : Set Bytes) : Bytes → Prop
  | mac {key : Bytes} (message : Bytes) (holds : key ∈ held) :
      AttackerMakes crypto held (crypto.hmacSha256Bytes key message)
  | octets {value : Bytes} (noMac : ∀ key message, value ≠ crypto.hmacSha256Bytes key message) :
      AttackerMakes crypto held value

/-- The attacker holds no Finished key of a session of the run, and brings to either side
    what either side made before or what it makes by itself. -/
structure ControlsChannel (crypto : PlatformCryptography)
    (agreement : Endpoint → PlatformP256EphemeralKeyAgreementV1) (ops : List HandshakeOp)
    (held : Set Bytes) : Prop where
  secret : ∀ endpoint sender session,
    session ∈ (Lib.Run.trace (handshakeStep crypto) { agreement := agreement } ops).filterMap
      (derivedBy endpoint) → finishedKey session sender ∉ held
  brings : ∀ earlier endpoint mac failure later,
    ops = earlier ++ .confirmPeerFinished endpoint mac failure :: later →
    (∃ sender, mac ∈ (Lib.Run.trace (handshakeStep crypto) { agreement := agreement }
      earlier).filterMap (finishedBy sender)) ∨ AttackerMakes crypto held mac

/-- The two sides hold one session: the same transcript and channel binding, and the same
    keys for each direction of each channel. -/
structure SameSession (host android : ConfirmedPeerHandshakeSessionV1) : Prop where
  transcript : host.binding.transcriptSha256 = android.binding.transcriptSha256
  channelBinding : host.binding.channelBindingSha256 = android.binding.channelBindingSha256
  controlHostToAndroid : host.controlHostToAndroid = android.controlHostToAndroid
  controlAndroidToHost : host.controlAndroidToHost = android.controlAndroidToHost
  presenceHostToAndroid : host.presenceHostToAndroid = android.presenceHostToAndroid
  videoHostToAndroid : host.videoHostToAndroid = android.videoHostToAndroid
  idrAndroidToHost : host.idrAndroidToHost = android.idrAndroidToHost
  mouseHostToAndroid : host.mouseHostToAndroid = android.mouseHostToAndroid

section

variable {crypto : PlatformCryptography}

/-- The role of its sender is part of what a Finished proves. -/
theorem finishedMac_ne_peer (ideal : crypto.Idealised)
    (first snd : ConfirmedPeerHandshakeSessionV1) (endpoint : Endpoint) :
    finishedMac crypto first endpoint.peer ≠ finishedMac crypto snd endpoint := by
  intro same
  have messages := List.append_cancel_left (ideal.hmac same).2
  exact peer_ne_self endpoint (role_injective (List.cons.inj messages).1)

/-- One Finished of two sessions: they were derived from one secret and one transcript. -/
theorem sameSession_of_finishedMac (ideal : crypto.Idealised) {endpoint first snd : Endpoint}
    {transcript transcript' : CanonicalPeerHandshakeTranscriptV1} {secret secret' : Bytes}
    (same : finishedMac crypto (deriveSecrets crypto first.role transcript secret) endpoint =
      finishedMac crypto (deriveSecrets crypto snd.role transcript' secret') endpoint)
    (role role' : PeerHandshakeRole) :
    SameSession ((deriveSecrets crypto first.role transcript secret).confirmed role)
      ((deriveSecrets crypto snd.role transcript' secret').confirmed role') := by
  have keys := (ideal.hmac same).1
  have prks : derivePrk crypto transcript.transcriptSha256 secret =
      derivePrk crypto transcript'.transcriptSha256 secret' := by
    cases endpoint with
    | host => exact (ideal.hkdf (by decide) keys).1
    | android => exact (ideal.hkdf (by decide) keys).1
  obtain ⟨hashes, secrets⟩ := ideal.hmac prks
  constructor <;>
    simp only [ConfirmedPeerHandshakeSessionV1.confirmed, deriveSecrets, secrets, hashes]

variable {agreement : Endpoint → PlatformP256EphemeralKeyAgreementV1}

/-- What a side confirmed: the Finished of its peer, for a session that it derived and for
    which it had made its own. -/
theorem confirmed_step {old : List HandshakeOp} {endpoint : Endpoint} {mac : Bytes}
    {failure : Option PeerHandshakeError} {released : ConfirmedPeerHandshakeSessionV1}
    (ok : (handshakeStep crypto
      (Lib.Run.exec (handshakeStep crypto) { agreement := agreement } old)
      (.confirmPeerFinished endpoint mac failure)).2 = .confirmed (.ok released)) :
    ∃ session ∈ (Lib.Run.trace (handshakeStep crypto) { agreement := agreement }
        old).filterMap (derivedBy endpoint),
      mac = finishedMac crypto session endpoint.peer ∧
      released = session.confirmed endpoint.role ∧
      (Lib.Run.trace (handshakeStep crypto) { agreement := agreement } old).filterMap
        (finishedBy endpoint) ≠ [] := by
  have holds := endpointInRun_run crypto agreement old endpoint
  unfold EndpointInRun at holds
  simp only [handshakeStep] at ok
  split at ok
  · cases ok
  rename_i state pending
  rw [pending] at holds
  obtain ⟨session, isSession, generated, isMac, outcome⟩ | ⟨error, outcome⟩ :=
    confirmPeerFinishedAndConsume_cases crypto (holds.isLocal state rfl) mac failure
  · simp only [outcome, HandshakeAnswer.confirmed.injEq, Except.ok.injEq] at ok
    exact ⟨session, (holds.unreleased state session rfl isSession).1, isMac, ok.symm,
      holds.generated state rfl generated⟩
  · simp only [outcome, HandshakeAnswer.confirmed.injEq, reduceCtorEq] at ok

theorem mem_filterMap_append {β : Type} {f : HandshakeOp × HandshakeAnswer → Option β}
    {old later : List HandshakeOp} {link : HandshakeLink} {value : β}
    (mem : value ∈ (Lib.Run.trace (handshakeStep crypto) link old).filterMap f) :
    value ∈ (Lib.Run.trace (handshakeStep crypto) link (old ++ later)).filterMap f := by
  rw [Lib.Run.trace_append, List.filterMap_append]
  exact List.mem_append_left _ mem

/-- A confirmed Finished was made by the peer. -/
theorem made_by_peer (ideal : crypto.Idealised) {old later : List HandshakeOp}
    {endpoint : Endpoint} {mac : Bytes} {failure : Option PeerHandshakeError}
    {held : Set Bytes} {session : ConfirmedPeerHandshakeSessionV1}
    (attack : ControlsChannel crypto agreement
      (old ++ .confirmPeerFinished endpoint mac failure :: later) held)
    (derived : session ∈ (Lib.Run.trace (handshakeStep crypto) { agreement := agreement }
      old).filterMap (derivedBy endpoint))
    (isMac : mac = finishedMac crypto session endpoint.peer) :
    mac ∈ (Lib.Run.trace (handshakeStep crypto) { agreement := agreement } old).filterMap
      (finishedBy endpoint.peer) := by
  cases attack.brings old endpoint mac failure later rfl with
  | inl replayed =>
    obtain ⟨sender, mem⟩ := replayed
    by_cases isPeer : sender = endpoint.peer
    · exact isPeer ▸ mem
    have own : sender = endpoint := by
      cases sender <;> cases endpoint <;> first | rfl | exact absurd rfl isPeer
    subst own
    obtain ⟨ownSession, -, isOwn⟩ :=
      (endpointInRun_run crypto agreement old sender).isFinished mac mem
    exact absurd (isMac.symm.trans isOwn) (finishedMac_ne_peer ideal _ _ _)
  | inr forged =>
    have secret := attack.secret endpoint endpoint.peer session (mem_filterMap_append derived)
    cases forged with
    | mac message holds => exact absurd ((ideal.hmac isMac).1 ▸ holds) secret
    | octets noMac => exact absurd isMac (noMac _ _)

theorem EndpointHolds.unique {endpoint : Endpoint}
    {derived confirmed : List ConfirmedPeerHandshakeSessionV1} {finished : List Bytes}
    {agreement : PlatformP256EphemeralKeyAgreementV1}
    {pending : Option PendingPeerHandshakeConfirmationV1}
    {first second : ConfirmedPeerHandshakeSessionV1}
    (h : EndpointHolds crypto endpoint derived finished confirmed agreement pending)
    (isFirst : first ∈ derived) (isSecond : second ∈ derived) : first = second := by
  match derived, h.single, isFirst, isSecond with
  | [only], _, isFirst, isSecond =>
    exact (List.mem_singleton.mp isFirst).trans (List.mem_singleton.mp isSecond).symm

theorem confirm_of_mem {ops : List HandshakeOp} {endpoint : Endpoint}
    {released : ConfirmedPeerHandshakeSessionV1} {link : HandshakeLink}
    (mem : released ∈
      (Lib.Run.trace (handshakeStep crypto) link ops).filterMap (confirmedBy endpoint)) :
    ∃ old mac failure later,
      ops = old ++ .confirmPeerFinished endpoint mac failure :: later ∧
      (handshakeStep crypto (Lib.Run.exec (handshakeStep crypto) link old)
        (.confirmPeerFinished endpoint mac failure)).2 = .confirmed (.ok released) := by
  obtain ⟨⟨op, answer⟩, inTrace, isConfirmed⟩ := List.mem_filterMap.mp mem
  obtain ⟨old, later, split, ans⟩ := Lib.Run.mem_trace (handshakeStep crypto) inTrace
  unfold confirmedBy at isConfirmed
  split at isConfirmed
  · rename_i caller mac failure session isPair
    cases isPair
    simp only [Option.ite_none_right_eq_some, Option.some.injEq] at isConfirmed
    obtain ⟨rfl, rfl⟩ := isConfirmed
    exact ⟨old, mac, failure, later, split, ans.symm⟩
  · cases isConfirmed

end

structure FinishedAgrees (crypto : PlatformCryptography)
    (agreement : Endpoint → PlatformP256EphemeralKeyAgreementV1) (ops : List HandshakeOp) :
    Prop where
  once : ∀ endpoint, ((Lib.Run.trace (handshakeStep crypto) { agreement := agreement }
    ops).filterMap (confirmedBy endpoint)).length ≤ 1
  afterOwn : ∀ earlier endpoint mac failure later session,
    ops = earlier ++ .confirmPeerFinished endpoint mac failure :: later →
    (handshakeStep crypto (Lib.Run.exec (handshakeStep crypto) { agreement := agreement } earlier)
      (.confirmPeerFinished endpoint mac failure)).2 = .confirmed (.ok session) →
    (Lib.Run.trace (handshakeStep crypto) { agreement := agreement } earlier).filterMap
      (finishedBy endpoint) ≠ []
  notReflected : ∀ earlier endpoint mac failure later session,
    ops = earlier ++ .confirmPeerFinished endpoint mac failure :: later →
    mac ∈ (Lib.Run.trace (handshakeStep crypto) { agreement := agreement } ops).filterMap
      (finishedBy endpoint) →
    (handshakeStep crypto (Lib.Run.exec (handshakeStep crypto) { agreement := agreement } earlier)
      (.confirmPeerFinished endpoint mac failure)).2 ≠ .confirmed (.ok session)
  agree : ∀ held, ControlsChannel crypto agreement ops held →
    ∀ host ∈ (Lib.Run.trace (handshakeStep crypto) { agreement := agreement } ops).filterMap
      (confirmedBy .host),
    ∀ android ∈ (Lib.Run.trace (handshakeStep crypto) { agreement := agreement } ops).filterMap
      (confirmedBy .android), SameSession host android

theorem finished_messages_agree {crypto : PlatformCryptography} (ideal : crypto.Idealised)
    (agreement : Endpoint → PlatformP256EphemeralKeyAgreementV1) (ops : List HandshakeOp) :
    FinishedAgrees crypto agreement ops where
  once := fun endpoint => (endpointInRun_run crypto agreement ops endpoint).once
  afterOwn := by
    intro old endpoint mac failure later session _ accepted
    obtain ⟨_, _, _, _, own⟩ := confirmed_step accepted
    exact own
  notReflected := by
    intro old endpoint mac failure later session split member accepted
    obtain ⟨derived, _, isMac, _, _⟩ := confirmed_step accepted
    obtain ⟨own, -, isOwn⟩ :=
      (endpointInRun_run crypto agreement ops endpoint).isFinished mac member
    exact finishedMac_ne_peer ideal _ _ _ (isMac.symm.trans isOwn)
  agree := by
    intro held attack host isHost android isAndroid
    obtain ⟨old, mac, failure, later, rfl, accepted⟩ := confirm_of_mem isHost
    obtain ⟨hostSession, hostDerived, isMac, rfl, -⟩ := confirmed_step accepted
    obtain ⟨earlier', mac', failure', later', split, accepted'⟩ := confirm_of_mem isAndroid
    obtain ⟨androidSession, androidDerived, -, rfl, -⟩ := confirmed_step accepted'
    -- what the host confirmed was made for the one session that Android derived
    obtain ⟨made, isMade, isFinished⟩ := (endpointInRun_run crypto agreement old
      .android).isFinished mac (made_by_peer ideal attack hostDerived isMac)
    have whole := endpointInRun_run crypto agreement
      (old ++ .confirmPeerFinished .host mac failure :: later) .android
    have inWhole : androidSession ∈ (Lib.Run.trace (handshakeStep crypto)
        { agreement := agreement }
        (old ++ .confirmPeerFinished .host mac failure :: later)).filterMap
        (derivedBy .android) := by
      rw [split]
      exact mem_filterMap_append androidDerived
    obtain rfl := whole.unique (mem_filterMap_append isMade) inWhole
    obtain ⟨transcript, secret, rfl⟩ :=
      (endpointInRun_run crypto agreement old .host).isDerived hostSession hostDerived
    obtain ⟨transcript', secret', rfl⟩ := whole.isDerived made inWhole
    exact sameSession_of_finishedMac ideal (isMac.symm.trans isFinished) _ _

/-! ## The vectors of both implementations -/

/-- A function that is known at a few inputs, and told apart everywhere else. -/
def tabulated {α : Type} [DecidableEq α] (table : List (α × Bytes)) (code : α → Bytes)
    (input : α) : Bytes :=
  ((table.find? (fun entry => entry.1 = input)).map Prod.snd).getD (code input)

theorem tabulated_cases {α : Type} [DecidableEq α] (table : List (α × Bytes)) (code : α → Bytes)
    (input : α) :
    (input, tabulated table code input) ∈ table ∨ tabulated table code input = code input := by
  unfold tabulated
  cases found : table.find? (fun entry => entry.1 = input) with
  | none => exact .inr rfl
  | some entry =>
    have isInput := List.find?_some found
    simp only [decide_eq_true_eq] at isInput
    left
    rw [← isInput]
    exact List.mem_of_find?_eq_some found

theorem tabulated_injective {α : Type} [DecidableEq α] {table : List (α × Bytes)}
    {code : α → Bytes} (dist : ∀ first ∈ table, ∀ snd ∈ table, first.2 = snd.2 →
      first.1 = snd.1) (apart : ∀ entry ∈ table, ∀ input, entry.2 ≠ code input)
    (injective : Function.Injective code) : Function.Injective (tabulated table code) := by
  intro first snd same
  cases tabulated_cases table code first with
  | inl htab =>
    cases tabulated_cases table code snd with
    | inl inTable' => exact dist _ htab _ inTable' same
    | inr coded => exact absurd (same.trans coded) (apart _ htab snd)
  | inr coded =>
    cases tabulated_cases table code snd with
    | inl htab => exact absurd (same.symm.trans coded) (apart _ htab first)
    | inr coded' => exact injective (coded.symm.trans (same.trans coded'))

def joined : Bytes → Bytes → Bytes
  | [], second => 0 :: second
  | octet :: first, second => 1 :: octet :: joined first second

theorem joined_injective {first snd first' second' : Bytes}
    (same : joined first snd = joined first' second') : first = first' ∧ snd = second' := by
  induction first generalizing first' with
  | nil =>
    cases first' with
    | nil => exact ⟨rfl, (List.cons.inj same).2⟩
    | cons => exact absurd (List.cons.inj same).1 (by decide)
  | cons octet first ih =>
    cases first' with
    | nil => exact absurd (List.cons.inj same).1 (by decide)
    | cons octet' first' =>
      obtain ⟨octets, rest⟩ := List.cons.inj (List.cons.inj same).2
      obtain ⟨isFirst, isSecond⟩ := ih rest
      exact ⟨by rw [octets, isFirst], isSecond⟩

/-- Longer than any output of the tables. -/
def longCode (input : Bytes × Bytes) : Bytes :=
  List.replicate 64 0 ++ joined input.1 input.2

theorem longCode_injective : Function.Injective longCode := by
  intro first snd same
  obtain ⟨isFirst, isSecond⟩ := joined_injective (List.append_cancel_left same)
  exact Prod.ext isFirst isSecond

theorem ne_longCode {value : Bytes} (short : value.length < 64) (input : Bytes × Bytes) :
    value ≠ longCode input := by
  rintro rfl
  simp [longCode] at short
  omega

namespace Vectors

open Lib.BigEndian

def hostPublic : Bytes :=
  0x04 :: store 32 0x6b17d1f2e12c4247f8bce6e563a440f277037d812deb33a0f4a13945d898c296 ++
    store 32 0x4fe342e2fe1a7f9b8ee7eb4a7c0f9e162bce33576b315ececbb6406837bf51f5

def androidPublic : Bytes :=
  0x04 :: store 32 0x7cf27b188d034f7e8a52380304b51ac3c08969e277f21b35a60b48fc47669978 ++
    store 32 0x07775510db8ed040293d9ac69f7430dbba7dade63ce982299e04b79d227873d1

def transcriptHash : Bytes :=
  store 32 0xe90e31ad0d9399f36274e42248064fa3ef9f3f0d73e9e73f0ea0ce8aabd24117

def ecdhShared : Bytes :=
  store 32 0x7cf27b188d034f7e8a52380304b51ac3c08969e277f21b35a60b48fc47669978

def prk : Bytes := store 32 0xaa864bd95772a3a4a544ccd5fa23b5881dab0462e1439d23d04b5a19dac4e7e0

def finishedHostKey : Bytes :=
  store 32 0x51391a6d16c2a0d15e2a6d0d41647091627d9d1035f6df979c18131ad552dddb

def finishedAndroidKey : Bytes :=
  store 32 0x943c2f631e1f2e862d059ba0b19e228314a149ab6076ea36aac179afe5ce6eaa

def finishedHost : Bytes :=
  store 32 0xc55b5a1bb27b4d841cd71e246c57dd166c90fbd10703be001e1ae8367e360f2e

def finishedAndroid : Bytes :=
  store 32 0x4eaa3269be3d699c74458b4ecf2336ac67b6275f504f03d24a5180c31622ded6

def hmacTable : List ((Bytes × Bytes) × Bytes) :=
  [((transcriptHash, ecdhShared), prk),
    ((finishedHostKey, finishedMessage .host transcriptHash), finishedHost),
    ((finishedAndroidKey, finishedMessage .android transcriptHash), finishedAndroid)]

def hkdfTable : List ((Bytes × Bytes) × Bytes) :=
  [((prk, kControlHostToAndroidLabel),
      store 36 0x0f4714afae44c3000fe5fcdca61f2a42094e5d7b75ae35e7b0b8ddefd5e7a2ffcd8ec73d),
    ((prk, kControlAndroidToHostLabel),
      store 36 0x7e5d8ae1483a45162434aa0b7d125e71e5785c1a961b4796e5495d1329ee23d277bb26ac),
    ((prk, kPresenceHostToAndroidLabel),
      store 36 0x172a609bf56696232b79bed3a13373ce79a7aa33a24878c427923a421b5425ec69865a7e),
    ((prk, kVideoHostToAndroidLabel),
      store 36 0x5abce1e7877c4894688bf65e5ad0df08b6a1ab597155df19ae049222de2fe2a8a9a2618c),
    ((prk, kIdrAndroidToHostLabel),
      store 36 0x857be929d83a3e3fd56f8c21dec1db5b07e9d46b1550376b36042f4622519dee0b9cb385),
    ((prk, kMouseHostToAndroidLabel),
      store 36 0x521dd222ba6d023752df2704eefb5d82b4218705922f70d81238d68c984cb6ec17b59d00),
    ((prk, kFinishedHostLabel), finishedHostKey),
    ((prk, kFinishedAndroidLabel), finishedAndroidKey),
    ((prk, kChannelBindingExporterLabel),
      store 32 0x226bd61eff3f8a9c097beefca9bcd9c43c4b28019f16c8e99c03f70d0a0e33d2)]

/-- The platform at the scalars 1 and 2, with their public keys. -/
def crypto : PlatformCryptography where
  sha256Bytes := Lib.Sha256.sha256
  hmacSha256Bytes := fun key input => tabulated hmacTable longCode (key, input)
  hkdfExpandSha256 := fun prk asciiInfo _ => tabulated hkdfTable longCode (prk, asciiInfo)
  secretAgreement := fun privateKey publicKey =>
    if privateKey = store 32 1 ∧ publicKey = androidPublic ∨
        privateKey = store 32 2 ∧ publicKey = hostPublic then .ok ecdhShared.reverse
    else .error (protocolError .cryptoOperationFailed "perform_ephemeral_p256_ecdh")

theorem crypto_idealised : crypto.Idealised where
  hmac := by
    intro key input key' input' same
    have injective := tabulated_injective
      (show ∀ first ∈ hmacTable, ∀ snd ∈ hmacTable, first.2 = snd.2 → first.1 = snd.1 by
        decide +kernel)
      (fun entry mem => ne_longCode
        ((show ∀ entry ∈ hmacTable, entry.2.length < 64 by decide +kernel) entry mem))
      longCode_injective
    exact Prod.mk.inj (injective same)
  hkdf := by
    intro prk asciiInfo prk' asciiInfo' size _ same
    have injective := tabulated_injective
      (show ∀ first ∈ hkdfTable, ∀ snd ∈ hkdfTable, first.2 = snd.2 → first.1 = snd.1 by
        decide +kernel)
      (fun entry mem => ne_longCode
        ((show ∀ entry ∈ hkdfTable, entry.2.length < 64 by decide +kernel) entry mem))
      longCode_injective
    exact Prod.mk.inj (injective same)

def transcript : CanonicalPeerHandshakeTranscriptV1 where
  fields :=
    { hostIdentitySpkiSha256 := (List.range 32).map UInt8.ofNat
      androidIdentitySpkiSha256 := (List.range 32).map (fun index => UInt8.ofNat (0x20 + index))
      hostEphemeralPublicKey := hostPublic
      androidEphemeralPublicKey := androidPublic
      connectionId := 0x1020304050607080
      sessionGeneration := 0x0102030405060708
      pairId := ascii "PAIR-2026_08.04" }
  transcriptSha256 := transcriptHash

def agreement : Endpoint → PlatformP256EphemeralKeyAgreementV1
  | .host => ⟨some (store 32 1), hostPublic⟩
  | .android => ⟨some (store 32 2), androidPublic⟩

def ops : List HandshakeOp :=
  [.derivePending .host transcript none, .derivePending .android transcript none,
    .createLocalFinished .host none, .createLocalFinished .android none,
    .confirmPeerFinished .android finishedHost none,
    .confirmPeerFinished .host finishedAndroid none]

theorem controlsChannel : ControlsChannel crypto agreement ops ∅ where
  secret := fun _ _ _ _ => Set.notMem_empty _
  brings := by
    intro old endpoint mac failure later split
    have position : ops[old.length]? = some (.confirmPeerFinished endpoint mac failure) := by
      rw [split]
      simp
    have front : old = ops.take old.length := by
      rw [split]
      simp
    rw [front]
    left
    match old.length, position with
    | 4, position =>
      cases position
      exact ⟨.host, by decide +kernel⟩
    | 5, position =>
      cases position
      exact ⟨.android, by decide +kernel⟩

def session : ConfirmedPeerHandshakeSessionV1 :=
  deriveSecrets crypto .host transcript ecdhShared

theorem confirmed_ops :
    (Lib.Run.trace (handshakeStep crypto) { agreement := agreement } ops).filterMap
        (confirmedBy .host) = [session.confirmed .host] ∧
      (Lib.Run.trace (handshakeStep crypto) { agreement := agreement } ops).filterMap
        (confirmedBy .android) = [session.confirmed .android] := by
  decide +kernel

end Vectors

/-- Both sides confirm in the run of the vectors. -/
theorem vectors_agree : ∃ host android,
    (Lib.Run.trace (handshakeStep Vectors.crypto) { agreement := Vectors.agreement }
      Vectors.ops).filterMap (confirmedBy .host) = [host] ∧
    (Lib.Run.trace (handshakeStep Vectors.crypto) { agreement := Vectors.agreement }
      Vectors.ops).filterMap (confirmedBy .android) = [android] ∧ SameSession host android := by
  have agrees := finished_messages_agree Vectors.crypto_idealised Vectors.agreement Vectors.ops
  obtain ⟨host, android⟩ := Vectors.confirmed_ops
  refine ⟨_, _, host, android, agrees.agree ∅ Vectors.controlsChannel _ ?_ _ ?_⟩
  · rw [host]
    exact List.mem_cons_self
  · rw [android]
    exact List.mem_cons_self

end VisionForge.Handshake
