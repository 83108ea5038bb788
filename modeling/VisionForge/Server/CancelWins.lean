import VisionForge.Agreement.SessionLeases
import VisionForge.Server.ExactReplay
import VisionForge.Server.SignedStarts

/-! # Cancel wins

After a cancellation of a start request nothing that the request did or could do goes
on, whatever the order of starts, heartbeats and cancellations.
-/

namespace VisionForge.Server

open Lib.Ascii Lib.Run Lib.Table Lib.Transaction UsageLease UsageRepository UsageService
  Agreement

variable {service : UsageService} {prims : ServicePrimitives} {s t : Database}

variable {cmd : StartCancelCommand} {resp : StartCancellationResponse}

theorem AnsweredIn.cancelled (h : AnsweredIn service prims.toPrimitives s cmd resp)
    (ord : Orderly s) : Cancelled s cmd.entitlementId cmd.startRequestId := by
  obtain ⟨row, found, -⟩ := h
  have keys := List.find?_some found
  simp only [decide_eq_true_eq] at keys
  intro sess mem owner req
  exact ord.buried row (List.mem_of_find?_eq_some found) sess mem
    (owner.trans keys.1.symm) (req.trans keys.2.symm)

theorem start_refused (h : AnsweredIn service prims.toPrimitives s cmd resp)
    {start : StartCommand} (owner : start.entitlementId = cmd.entitlementId)
    (req : start.requestId = cmd.startRequestId) (seen : Database) (sid : Bytes)
    (now : Nat) :
    ∃ error, serverStep service prims s (.startUsage seen start sid now) = (s, .error error) := by
  cases atomically_map_cases (f := ServerReply.usage)
      (service.requestStart prims.toPrimitives seen start sid now) s with
  | inr failed => exact failed.2
  | inl done =>
    obtain ⟨given, t, ran, -⟩ := done
    obtain ⟨row, found, -⟩ := h
    have none := (requestStart_eq_ok ran).1
    rw [owner, req, found] at none
    cases none

/-- A heartbeat for a session that is over gives out no lease and changes nothing in the
    books. -/
theorem heartbeat_over {cmd : HeartbeatCommand} {row : UsageSessionRow}
    (sess : sessionIn s cmd.sessionId = some row) (isOver : row.status ≠ .active)
    (seen : Database) (now : Nat) :
    leaseOf (serverStep service prims s (.heartbeatUsage seen cmd now)).2 = none ∧
      SameBooks s (serverStep service prims s (.heartbeatUsage seen cmd now)).1 := by
  cases serverStep_heartbeat_cases service prims s seen cmd now with
  | inr failed =>
    obtain ⟨calm, error, ans⟩ := failed
    rw [ans]
    exact ⟨rfl, calm.sameBooks⟩
  | inl done =>
    obtain ⟨resp, ran, ans⟩ := done
    obtain ⟨claims, pre, found, -, -, isFound, -, -, outcome⟩ := requestHeartbeat_eq_ok ran
    rw [sess] at isFound
    cases isFound
    cases outcome with
    | inl repeats =>
      obtain ⟨-, same, repeating⟩ := repeats
      have signed := (duplicateHeartbeatResponse_lease repeating).2
      rw [ans, same]
      refine ⟨?_, .refl s⟩
      cases given : resp.lease with
      | none => simp [leaseOf, given]
      | some lease => exact absurd (signed lease given).1 isOver
    | inr anew =>
      obtain ⟨u, -, applying⟩ := heartbeatAnew_eq_ok anew
      exact absurd (applyHeartbeat_eq_ok applying).1 isOver

/-- A retry whose row is there is answered from a row and changes nothing. -/
theorem cancelStartUsage_answered {given : StartCancellationResponse} {seen : Database} {now : Nat}
    (ans : AnsweredIn service prims.toPrimitives s cmd resp)
    (h : (service.cancelStartUsage prims.toPrimitives seen cmd now).run s = .ok (given, t)) :
    t = s ∧ (given = resp ∨
      AnsweredIn service prims.toPrimitives seen cmd given) := by
  unfold UsageService.cancelStartUsage at h
  rw [require_ok, reading_ok] at h
  obtain ⟨-, replay, _, checking, h⟩ := h
  cases replay with
  | some repeated =>
    cases h
    unfold cancelStartUsageChecks at checking
    obtain ⟨replay, _, replaying, checking⟩ := bind_ok.mp checking
    obtain ⟨rfl, isAnswered⟩ := exactStartCancellationReplay_eq_ok replaying
    refine ⟨rfl, .inr ?_⟩
    cases replay with
    | some other =>
      cases checking
      exact isAnswered _ rfl
    | none =>
      replace checking := read_ok checking rfl
      obtain ⟨_, _, -, last⟩ := bind_ok.mp checking
      cases last
  | none =>
    obtain ⟨replay, u, replaying, h⟩ := bind_ok.mp h
    rw [ans.replay] at replaying
    cases replaying
    cases h
    exact ⟨rfl, .inl rfl⟩

theorem retry_cases {seen : Database}
    (ans : AnsweredIn service prims.toPrimitives s cmd resp)
    (later : Later seen s) (now : Nat) :
    serverStep service prims s (.cancelStartUsage seen cmd now) = (s, .ok (.cancelled resp)) ∨
      ∃ error, serverStep service prims s (.cancelStartUsage seen cmd now) = (s, .error error) := by
  cases atomically_map_cases (f := ServerReply.cancelled)
      (service.cancelStartUsage prims.toPrimitives seen cmd now) s with
  | inr failed => exact .inr failed.2
  | inl done =>
    obtain ⟨given, t, ran, same⟩ := done
    obtain ⟨rfl, isResponse⟩ := cancelStartUsage_answered ans ran
    have isGiven : given = resp := by
      cases isResponse with
      | inl same => exact same
      | inr inSeen => exact ans.unique (inSeen.remembers later.remembers)
    subst isGiven
    exact .inl same

theorem retry_answered {seen : Database}
    (ans : AnsweredIn service prims.toPrimitives seen cmd resp) {now : Nat}
    (pos : 0 < now) :
    serverStep service prims s (.cancelStartUsage seen cmd now) = (s, .ok (.cancelled resp)) := by
  change atomically (ServerReply.cancelled <$>
    service.cancelStartUsage prims.toPrimitives seen cmd now) s = _
  have ran : (ServerReply.cancelled <$>
      service.cancelStartUsage prims.toPrimitives seen cmd now).run s =
      .ok (.cancelled resp, s) :=
    map_eq_ok.mpr ⟨resp, s, ans.cancelStartUsage pos, rfl⟩
  unfold atomically
  rw [ran]

/-- A cancellation that succeeds is answered from its row from then on. -/
theorem answeredIn_of_cancelled {old pre : List ServerOp} {now : Nat}
    (sooner : ∃ rest, pre = old ++ rest)
    (done : (serverStep service prims (served service prims pre)
      (.cancelStartUsage (served service prims old) cmd now)).2 = .ok (.cancelled resp)) :
    AnsweredIn service prims.toPrimitives (served service prims (pre ++
      [.cancelStartUsage (served service prims old) cmd now])) cmd resp := by
  obtain ⟨given, isGiven, ran⟩ := atomically_map_eq_ok done
  cases isGiven
  rw [served_concat]
  cases cancelStartUsage_eq_ok (orderly_served pre) ran with
  | inr cancels => exact cancels.answered
  | inl same =>
    obtain ⟨stays, ans⟩ := same
    obtain ⟨rest, rfl⟩ := sooner
    have stay : (serverStep service prims (served service prims (old ++ rest))
        (.cancelStartUsage (served service prims old) cmd now)).1 =
        served service prims (old ++ rest) := stays
    rw [stay]
    cases ans with
    | inl inSeen => exact inSeen.remembers (later_served old rest).remembers
    | inr here => exact here

/-- After a cancellation that succeeded, no session that its start request opened is active,
    a start with that request is refused, a heartbeat for its session gives out no lease and
    changes nothing in the books, and a retry of the cancellation is answered in the same
    way (one that was sent before the first was committed may also be refused). -/
theorem cancel_wins (service : UsageService) (prims : ServicePrimitives)
    (old between after : List ServerOp) (cmd : StartCancelCommand) (now : Nat)
    (resp : StartCancellationResponse)
    (done : (serverStep service prims (served service prims (old ++ between))
      (.cancelStartUsage (served service prims old) cmd now)).2 = .ok (.cancelled resp)) :
    let cancel := ServerOp.cancelStartUsage (served service prims old) cmd now
    let s := served service prims (old ++ between ++ [cancel] ++ after)
    Cancelled s cmd.entitlementId cmd.startRequestId ∧
    (∀ start : StartCommand, start.entitlementId = cmd.entitlementId →
      start.requestId = cmd.startRequestId → ∀ seen sessionId later,
      ∃ error, serverStep service prims s (.startUsage seen start sessionId later) =
        (s, .error error)) ∧
    (∀ (heartbeat : HeartbeatCommand) row, sessionIn s heartbeat.sessionId = some row →
      row.entitlementId = cmd.entitlementId → row.startRequestId = cmd.startRequestId →
      ∀ seen later,
      leaseOf (serverStep service prims s (.heartbeatUsage seen heartbeat later)).2 = none ∧
        SameBooks s (serverStep service prims s (.heartbeatUsage seen heartbeat later)).1) ∧
    (∀ middle rest, after = middle ++ rest → ∀ later, 0 < later →
      serverStep service prims s (.cancelStartUsage
          (served service prims (old ++ between ++ [cancel] ++ middle)) cmd later) =
        (s, .ok (.cancelled resp))) ∧
    ∀ first rest, old ++ between = first ++ rest → ∀ later,
      serverStep service prims s
          (.cancelStartUsage (served service prims first) cmd later) =
        (s, .ok (.cancelled resp)) ∨
      ∃ error, serverStep service prims s
          (.cancelStartUsage (served service prims first) cmd later) =
        (s, .error error) := by
  intro cancel s
  have answered := answeredIn_of_cancelled ⟨between, rfl⟩ done
  have here : AnsweredIn service prims.toPrimitives s cmd resp :=
    answered.remembers (later_served _ after).remembers
  have orderly : Orderly s := orderly_served _
  refine ⟨here.cancelled orderly, ?_, ?_, ?_, ?_⟩
  · intro start owner request seen sessionId later
    exact start_refused here owner request seen sessionId later
  · intro heartbeat row sess owner request seen later
    apply heartbeat_over sess
    exact here.cancelled orderly row (lookup_key sess).1 owner request
  · intro middle rest split later positive
    exact retry_answered (answered.remembers (later_served _ middle).remembers) positive
  · intro first rest split later
    apply retry_cases here
    have whole := @later_served service prims first (rest ++ [cancel] ++ after)
    rw [← List.append_assoc, ← List.append_assoc, ← split] at whole
    exact whole

/-! ## A concrete cancellation

A card is activated at 950, and a start that has not been sent is cancelled at 1000. -/

def concreteServicePrimitives : ServicePrimitives where
  toPrimitives := concretePrimitives
  hmacSha256_length := fun _ _ => Lib.Sha256.length_sha256 _
  deviceProfileFingerprint := fun _ => []

/-- A card of one day. -/
def dayCard : LicenseCodeRow where
  id := 1
  batchId := 1
  productKey := ascii "day"
  durationSeconds := 86400
  authorizationKind := .day
  status := .issued
  expiresAtEpoch := none
  batchActive := true
  productEnabled := true

def dayConfirmation : ConfirmCommand where
  challengeId := List.replicate 32 55
  challengeToken := List.replicate 43 66
  hostSignatureB64 := ascii "c2lnbmF0dXJl"
  androidSignatureB64 := ascii "c2lnbmF0dXJl"
  signatures := concreteCommon.signatures

def dayChallenge : ActivationChallengeRow where
  challengeId := List.replicate 32 55
  requestId := List.replicate 32 56
  tokenDigest := CardService.challengeTokenDigest concreteService.settings concreteServicePrimitives
    dayConfirmation.challengeToken
  licenseCodeId := 1
  pairId := List.replicate 32 98
  protocolVersion := 2
  hostDeviceCode := ascii "host"
  hostClientVersion := ascii "1.0"
  hostIdentityPublicKeyB64 := ascii "aG9zdA"
  hostKeySha256 := List.replicate 64 100
  androidDeviceCode := ascii "phone"
  androidClientVersion := ascii "1.0"
  androidIdentityPublicKeyB64 := ascii "cGhvbmU"
  androidKeySha256 := List.replicate 64 101
  androidDeviceProfileJson := []
  status := .issued
  expiresAtEpoch := 1020
  activationMode := .activate
  targetEntitlementId := []

def cardOps : List ServerOp :=
  [.changeCards [dayCard] (fun _ => false), .createActivationChallenge dayChallenge 900]

def activationIds : ActivationIds where
  entitlementId := List.replicate 32 97
  bindingId := List.replicate 32 102
  activationId := List.replicate 32 99

def activationOps : List ServerOp :=
  cardOps ++ [.confirmActivation (served concreteService concreteServicePrimitives cardOps)
    dayConfirmation activationIds none 950]

theorem concreteNonce_hex : isNonzeroLowerHex (List.replicate 32 49) 32 = true := by decide

theorem concreteBinding_hex : isNonzeroLowerHex (List.replicate 64 51) 64 = true := by decide

def concreteCancel : StartCancelCommand where
  toUsageCommon := concreteCommon
  requestId := List.replicate 32 57
  requestNonce := List.replicate 32 49
  channelBindingSha256 := List.replicate 64 51
  startRequestId := List.replicate 32 49
  requestNonceHex := concreteNonce_hex
  channelBindingHex := concreteBinding_hex
  startRequestIdHex := concreteNonce_hex

def concreteCancellation : StartCancellationResponse where
  startRequestId := List.replicate 32 49
  sessionId := []
  sessionStatus := .notStarted
  remainingSeconds := 86400
  billingStarted := false
  authorizationKind := ascii "day"
  isPermanent := false

theorem concreteCancel_answered :
    (serverStep concreteService concreteServicePrimitives
      (served concreteService concreteServicePrimitives activationOps)
      (.cancelStartUsage (served concreteService concreteServicePrimitives activationOps)
        concreteCancel 1000)).2 = .ok (.cancelled concreteCancellation) := by
  decide +kernel

theorem cancel_wins_concrete :
    (serverStep concreteService concreteServicePrimitives
      (served concreteService concreteServicePrimitives activationOps)
      (.cancelStartUsage (served concreteService concreteServicePrimitives activationOps)
        concreteCancel 1000)).2 = .ok (.cancelled concreteCancellation) ∧
    ∃ error, (serverStep concreteService concreteServicePrimitives
      (served concreteService concreteServicePrimitives (activationOps ++
        [.cancelStartUsage (served concreteService concreteServicePrimitives activationOps)
          concreteCancel 1000]))
      (.startUsage {} concreteStart (List.replicate 32 99) 1001)).2 = .error error := by
  have done := concreteCancel_answered
  have wins := cancel_wins concreteService concreteServicePrimitives activationOps [] []
    concreteCancel 1000 concreteCancellation (by rw [List.append_nil]; exact done)
  simp only [List.append_nil] at wins
  obtain ⟨error, refused⟩ := wins.2.1 concreteStart rfl rfl {} (List.replicate 32 99) 1001
  exact ⟨done, error, congrArg Prod.snd refused⟩

/-! ## A concrete start that is sent again

The day begins with a session at 1000, and its start is sent again at 1003 while its lease lasts. -/

def startingCommand : StartChallengeCommand where
  toUsageCommon := concreteCommon
  requestId := List.replicate 32 53
  requestNonce := List.replicate 32 54
  channelBindingSha256 := List.replicate 64 51
  channelBindingHex := concreteBinding_hex

/-- The token of the challenge that is created at 1000. -/
def challengeToken (prims : ServicePrimitives) (command : StartChallengeCommand) : Bytes :=
  concreteService.startChallengeToken prims.toPrimitives
    (concreteService.newStartChallenge prims.toPrimitives command
      (concreteCryptography.sha256Hex (usageStartChallengePayload command))
      (List.replicate 32 52) 1000)

def startingOps : List ServerOp :=
  activationOps ++ [.createStartChallenge (served concreteService concreteServicePrimitives
    activationOps) startingCommand (List.replicate 32 52) 1000]

def startingCall : StartCommand :=
  { concreteStart with
    startChallengeToken := challengeToken concreteServicePrimitives startingCommand
    startChallengeTokenText := startChallengeToken_text concreteService concreteServicePrimitives _ }

def startedOps : List ServerOp :=
  startingOps ++ [.startUsage (served concreteService concreteServicePrimitives startingOps)
    startingCall (List.replicate 32 99) 1000]

/-- The start again, after other checks and with another session identifier at hand. -/
def resentStart : ServerOp :=
  .startUsage (served concreteService concreteServicePrimitives startedOps) startingCall
    (List.replicate 32 100) 1003

theorem startedOps_leased :
    (leaseOf (serverStep concreteService concreteServicePrimitives
      (served concreteService concreteServicePrimitives startingOps)
      (.startUsage (served concreteService concreteServicePrimitives startingOps) startingCall
        (List.replicate 32 99) 1000)).2).map Prod.fst = some (List.replicate 32 99) ∧
    ∀ row ∈ (served concreteService concreteServicePrimitives startedOps).usageSessions,
      1003 < row.leaseExpiresAtEpoch := by
  decide +kernel

theorem startedOps_answered :
    ∃ resp row, (.startUsage (served concreteService concreteServicePrimitives startingOps)
        startingCall (List.replicate 32 99) 1000, .ok (.usage resp)) ∈
          history concreteService concreteServicePrimitives startedOps ∧
      resp.sessionId = List.replicate 32 99 ∧
      sessionIn (served concreteService concreteServicePrimitives startedOps) resp.sessionId =
        some row ∧ row.status = .active ∧ 1003 < row.leaseExpiresAtEpoch := by
  obtain ⟨⟨sid, lease⟩, leased, isSession⟩ := Option.map_eq_some_iff.mp startedOps_leased.1
  obtain ⟨resp, ans, same, -⟩ := serverStep_start_ran leased
  obtain ⟨row, found, -, on⟩ := serverStep_leased rfl leased
  rw [← served_concat] at found
  refine ⟨resp, row, ?_, same.symm.trans isSession, same ▸ found, on,
    startedOps_leased.2 row (lookup_key found).1⟩
  rw [startedOps, history_concat, ans]
  exact List.mem_append_right _ List.mem_cons_self

theorem resent_start_is_answered_again :
    AnswersAgain (served concreteService concreteServicePrimitives startedOps)
      (serverStep concreteService concreteServicePrimitives
        (served concreteService concreteServicePrimitives startedOps) resentStart)
      (lastLease (history concreteService concreteServicePrimitives startedOps)
        (List.replicate 32 99)) := by
  obtain ⟨resp, row, answered, isSession, found, active, unexpired⟩ := startedOps_answered
  have again := (exact_replay_idempotent concreteService concreteServicePrimitives startedOps []).1
    _ resp resentStart 1003 row answered .startUsage (by decide)
  simp only [List.append_nil, isSession] at again found
  exact again found active unexpired

theorem resent_start_keeps_books :
    SameBooks (served concreteService concreteServicePrimitives startedOps)
      (served concreteService concreteServicePrimitives (startedOps ++ [resentStart])) := by
  obtain ⟨resp, row, answered, -⟩ := startedOps_answered
  exact (metering_conserved concreteService concreteServicePrimitives startedOps).2.2.2 _ _ _
    answered .startUsage

end VisionForge.Server
