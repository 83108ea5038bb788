import VisionForge.Lib.Checks
import VisionForge.SignedPayload.Proofs
import VisionForge.UsageLease.Cryptography

/-! # The builders of the server

The server has the token, the lease and the device profile themselves and signs their
digests. Its texts are sequences of characters; an object is written in canonical form.
-/

namespace VisionForge.SignedPayload

open Lib.Ascii Lib.Checks Lib.FlatJson Lib.Utf UsageLease

section

variable (τ ν : Type)

structure ActivationChallenge where
  activationMode : τ
  androidClientVersion : τ
  androidDeviceCode : τ
  androidDeviceProfileJson : τ
  androidKeySha256 : τ
  challengeId : τ
  challengeToken : τ
  hostClientVersion : τ
  hostDeviceCode : τ
  hostKeySha256 : τ
  pairId : τ
  protocolVersion : ν
  requestId : τ
  targetEntitlementId : τ
  deriving DecidableEq

structure UsageStartCommand where
  androidFramesTotal : ν
  androidRuntimeReady : Bool
  channelBindingSha256 : τ
  entitlementId : τ
  hostFramesTotal : ν
  hostRuntimeReady : Bool
  pairId : τ
  protocolVersion : ν
  requestId : τ
  requestNonce : τ
  revocationVersion : ν
  startChallengeId : τ
  startChallengeToken : τ
  deriving DecidableEq

structure UsageHeartbeatCommand where
  androidFramesTotal : ν
  channelBindingSha256 : τ
  entitlementId : τ
  hostFramesTotal : ν
  pairId : τ
  previousLease : τ
  protocolVersion : ν
  requestId : τ
  requestNonce : τ
  revocationVersion : ν
  sequence : ν
  sessionId : τ
  deriving DecidableEq

structure UsageStopCommand where
  channelBindingSha256 : τ
  entitlementId : τ
  pairId : τ
  previousLease : τ
  protocolVersion : ν
  requestId : τ
  requestNonce : τ
  revocationVersion : ν
  sessionId : τ
  deriving DecidableEq

/-- The seven commands, as the server has them. -/
inductive SignedCommand where
  | activationConfirmation (command : ActivationChallenge τ ν)
  | usageStartChallenge (command : UsageStartChallengeProof τ ν)
  | usageStart (command : UsageStartCommand τ ν)
  | usageStartCancel (command : UsageStartCancelProof τ ν)
  | usageHeartbeat (command : UsageHeartbeatCommand τ ν)
  | usageStop (command : UsageStopCommand τ ν)
  | entitlementStatus (command : EntitlementStatusProof τ ν)
  deriving DecidableEq

end

section

variable {τ ν ν' : Type} (number : ν → ν')

def ActivationChallenge.map (command : ActivationChallenge τ ν) : ActivationChallenge τ ν' where
  activationMode := command.activationMode
  androidClientVersion := command.androidClientVersion
  androidDeviceCode := command.androidDeviceCode
  androidDeviceProfileJson := command.androidDeviceProfileJson
  androidKeySha256 := command.androidKeySha256
  challengeId := command.challengeId
  challengeToken := command.challengeToken
  hostClientVersion := command.hostClientVersion
  hostDeviceCode := command.hostDeviceCode
  hostKeySha256 := command.hostKeySha256
  pairId := command.pairId
  protocolVersion := number command.protocolVersion
  requestId := command.requestId
  targetEntitlementId := command.targetEntitlementId

def UsageStartCommand.map (command : UsageStartCommand τ ν) : UsageStartCommand τ ν' where
  androidFramesTotal := number command.androidFramesTotal
  androidRuntimeReady := command.androidRuntimeReady
  channelBindingSha256 := command.channelBindingSha256
  entitlementId := command.entitlementId
  hostFramesTotal := number command.hostFramesTotal
  hostRuntimeReady := command.hostRuntimeReady
  pairId := command.pairId
  protocolVersion := number command.protocolVersion
  requestId := command.requestId
  requestNonce := command.requestNonce
  revocationVersion := number command.revocationVersion
  startChallengeId := command.startChallengeId
  startChallengeToken := command.startChallengeToken

def UsageHeartbeatCommand.map (command : UsageHeartbeatCommand τ ν) : UsageHeartbeatCommand τ ν' where
  androidFramesTotal := number command.androidFramesTotal
  channelBindingSha256 := command.channelBindingSha256
  entitlementId := command.entitlementId
  hostFramesTotal := number command.hostFramesTotal
  pairId := command.pairId
  previousLease := command.previousLease
  protocolVersion := number command.protocolVersion
  requestId := command.requestId
  requestNonce := command.requestNonce
  revocationVersion := number command.revocationVersion
  sequence := number command.sequence
  sessionId := command.sessionId

def UsageStopCommand.map (command : UsageStopCommand τ ν) : UsageStopCommand τ ν' where
  channelBindingSha256 := command.channelBindingSha256
  entitlementId := command.entitlementId
  pairId := command.pairId
  previousLease := command.previousLease
  protocolVersion := number command.protocolVersion
  requestId := command.requestId
  requestNonce := command.requestNonce
  revocationVersion := number command.revocationVersion
  sessionId := command.sessionId

def SignedCommand.map : SignedCommand τ ν → SignedCommand τ ν'
  | .activationConfirmation command => .activationConfirmation (command.map number)
  | .usageStartChallenge command => .usageStartChallenge (command.map id number)
  | .usageStart command => .usageStart (command.map number)
  | .usageStartCancel command => .usageStartCancel (command.map id number)
  | .usageHeartbeat command => .usageHeartbeat (command.map number)
  | .usageStop command => .usageStop (command.map number)
  | .entitlementStatus command => .entitlementStatus (command.map id number)

def SignedCommand.kind : SignedCommand τ ν → Kind
  | .activationConfirmation _ => .activationConfirmation
  | .usageStartChallenge _ => .usageStartChallenge
  | .usageStart _ => .usageStart
  | .usageStartCancel _ => .usageStartCancel
  | .usageHeartbeat _ => .usageHeartbeat
  | .usageStop _ => .usageStop
  | .entitlementStatus _ => .entitlementStatus

end

abbrev Text := List Char

namespace Python

def PROTOCOL_VERSION : Int := 2
def ACTIVATION_MODE_ACTIVATE : Text := "activate".toList
def ACTIVATION_MODE_REACTIVATE : Text := "reactivate".toList
def ACTIVATION_MODE_BIND_DEVICE : Text := "bind_device".toList

def failure : String := "dual_machine_signed_payload_invalid"

def isNonzeroLowerHex (value : Text) (length : Nat) : Bool :=
  value.length == length && value.any (· != '0') &&
    value.all (fun character => "0123456789abcdef".toList.contains character)

def requireHex (value : Text) (length : Nat) : Except String Unit :=
  check (isNonzeroLowerHex value length = true) failure

def requireCounter (value : Int) : Except String Unit :=
  check (¬(value < 0 ∨ (2 ^ 63 - 1 : Int) < value)) failure

def requirePositiveInteger (value : Int) : Except String Unit := do
  requireCounter value
  check (¬value = 0) failure

def requireExactTrue (value : Bool) : Except String Unit := check (value = true) failure

def requireText (value : Text) (minimum maximum : Nat) : Except String Unit :=
  check (minimum ≤ value.length ∧ value.length ≤ maximum) failure

def requireUsageProtocol (protocolVersion : Int) : Except String Unit :=
  check (¬protocolVersion ≠ PROTOCOL_VERSION) failure

def requireUsageCommon (entitlementId pairId : Text) (protocolVersion revocationVersion : Int) :
    Except String Unit := do
  requireHex entitlementId 32
  requireHex pairId 32
  requireUsageProtocol protocolVersion
  requirePositiveInteger revocationVersion

/-- `value or default` of a text. -/
def orDefault (value default : Text) : Text := if value.isEmpty then default else value

section

variable (crypto : Cryptography)

/-- The hexadecimal digest of the UTF-8 form of a text. -/
def textSha256 (value : Text) : Text :=
  (crypto.sha256Hex (utf8 value)).map (fun octet => Char.ofNat octet.toNat)

def requireActivationTarget (activationMode targetEntitlementId : Text) : Except String Unit :=
  if activationMode = ACTIVATION_MODE_ACTIVATE then
    check (targetEntitlementId.isEmpty = true) failure
  else if activationMode = ACTIVATION_MODE_REACTIVATE ∨
      activationMode = ACTIVATION_MODE_BIND_DEVICE then requireHex targetEntitlementId 32
  else .error failure

def text (value : Text) : Scalar := .text (utf8 value)

def activationConfirmationPayload (command : ActivationChallenge Text Int) :
    Except String Bytes := do
  let activationMode := orDefault command.activationMode ACTIVATION_MODE_ACTIVATE
  requireActivationTarget activationMode command.targetEntitlementId
  requireUsageProtocol command.protocolVersion
  requireHex command.requestId 32
  requireHex command.pairId 32
  requireHex command.challengeId 32
  requireHex command.hostKeySha256 64
  requireHex command.androidKeySha256 64
  requireText command.hostClientVersion 1 80
  requireText command.androidClientVersion 1 80
  requireText command.hostDeviceCode 1 128
  requireText command.androidDeviceCode 1 128
  requireText command.challengeToken 1 256
  return canonical
    [(ascii "activation_mode", text activationMode),
      (ascii "android_client_version", text command.androidClientVersion),
      (ascii "android_device_code", text command.androidDeviceCode),
      (ascii "android_device_profile_sha256", text (textSha256 crypto
        (orDefault command.androidDeviceProfileJson ['\x7b', '\x7d']))),
      (ascii "android_key_sha256", text command.androidKeySha256),
      (ascii "challenge_id", text command.challengeId),
      (ascii "challenge_token_sha256", text (textSha256 crypto command.challengeToken)),
      (ascii "domain", .text kActivationConfirmDomain),
      (ascii "host_client_version", text command.hostClientVersion),
      (ascii "host_device_code", text command.hostDeviceCode),
      (ascii "host_key_sha256", text command.hostKeySha256),
      (ascii "pair_id", text command.pairId),
      (ascii "protocol_version", .number command.protocolVersion),
      (ascii "request_id", text command.requestId),
      (ascii "target_entitlement_id", text command.targetEntitlementId)]

def usageStartChallengePayload (command : UsageStartChallengeProof Text Int) :
    Except String Bytes := do
  requireUsageCommon command.entitlementId command.pairId command.protocolVersion
    command.revocationVersion
  requireHex command.requestId 32
  requireHex command.requestNonce 32
  requireHex command.channelBindingSha256 64
  return canonical
    [(ascii "channel_binding_sha256", text command.channelBindingSha256),
      (ascii "domain", .text kUsageStartChallengeDomain),
      (ascii "entitlement_id", text command.entitlementId),
      (ascii "pair_id", text command.pairId),
      (ascii "protocol_version", .number command.protocolVersion),
      (ascii "request_id", text command.requestId),
      (ascii "request_nonce", text command.requestNonce),
      (ascii "revocation_version", .number command.revocationVersion)]

def usageStartPayload (command : UsageStartCommand Text Int) : Except String Bytes := do
  requireUsageCommon command.entitlementId command.pairId command.protocolVersion
    command.revocationVersion
  requireHex command.requestId 32
  requireHex command.requestNonce 32
  requireHex command.channelBindingSha256 64
  requireHex command.startChallengeId 32
  requireExactTrue command.hostRuntimeReady
  requireExactTrue command.androidRuntimeReady
  requireCounter command.hostFramesTotal
  requireCounter command.androidFramesTotal
  requireText command.startChallengeToken 1 256
  return canonical
    [(ascii "android_frames_total", .number command.androidFramesTotal),
      (ascii "android_runtime_ready", .flag command.androidRuntimeReady),
      (ascii "channel_binding_sha256", text command.channelBindingSha256),
      (ascii "domain", .text kUsageStartDomain),
      (ascii "entitlement_id", text command.entitlementId),
      (ascii "host_frames_total", .number command.hostFramesTotal),
      (ascii "host_runtime_ready", .flag command.hostRuntimeReady),
      (ascii "pair_id", text command.pairId),
      (ascii "protocol_version", .number command.protocolVersion),
      (ascii "request_id", text command.requestId),
      (ascii "request_nonce", text command.requestNonce),
      (ascii "revocation_version", .number command.revocationVersion),
      (ascii "start_challenge_id", text command.startChallengeId),
      (ascii "start_challenge_token_sha256", text (textSha256 crypto command.startChallengeToken))]

def usageStartCancelPayload (command : UsageStartCancelProof Text Int) : Except String Bytes := do
  requireUsageCommon command.entitlementId command.pairId command.protocolVersion
    command.revocationVersion
  requireHex command.requestId 32
  requireHex command.requestNonce 32
  requireHex command.startRequestId 32
  requireHex command.channelBindingSha256 64
  return canonical
    [(ascii "channel_binding_sha256", text command.channelBindingSha256),
      (ascii "domain", .text kUsageStartCancelDomain),
      (ascii "entitlement_id", text command.entitlementId),
      (ascii "pair_id", text command.pairId),
      (ascii "protocol_version", .number command.protocolVersion),
      (ascii "request_id", text command.requestId),
      (ascii "request_nonce", text command.requestNonce),
      (ascii "revocation_version", .number command.revocationVersion),
      (ascii "start_request_id", text command.startRequestId)]

def usageHeartbeatPayload (command : UsageHeartbeatCommand Text Int) : Except String Bytes := do
  requireUsageCommon command.entitlementId command.pairId command.protocolVersion
    command.revocationVersion
  requireHex command.sessionId 32
  requireHex command.requestId 32
  requireHex command.requestNonce 32
  requireHex command.channelBindingSha256 64
  requirePositiveInteger command.sequence
  requireCounter command.hostFramesTotal
  requireCounter command.androidFramesTotal
  requireText command.previousLease 1 8192
  return canonical
    [(ascii "android_frames_total", .number command.androidFramesTotal),
      (ascii "channel_binding_sha256", text command.channelBindingSha256),
      (ascii "domain", .text kUsageHeartbeatDomain),
      (ascii "entitlement_id", text command.entitlementId),
      (ascii "host_frames_total", .number command.hostFramesTotal),
      (ascii "pair_id", text command.pairId),
      (ascii "previous_lease_sha256", text (textSha256 crypto command.previousLease)),
      (ascii "protocol_version", .number command.protocolVersion),
      (ascii "request_id", text command.requestId),
      (ascii "request_nonce", text command.requestNonce),
      (ascii "revocation_version", .number command.revocationVersion),
      (ascii "sequence", .number command.sequence),
      (ascii "session_id", text command.sessionId)]

def usageStopPayload (command : UsageStopCommand Text Int) : Except String Bytes := do
  requireUsageCommon command.entitlementId command.pairId command.protocolVersion
    command.revocationVersion
  requireHex command.sessionId 32
  requireHex command.requestId 32
  requireHex command.requestNonce 32
  requireHex command.channelBindingSha256 64
  requireText command.previousLease 1 8192
  return canonical
    [(ascii "channel_binding_sha256", text command.channelBindingSha256),
      (ascii "domain", .text kUsageStopDomain),
      (ascii "entitlement_id", text command.entitlementId),
      (ascii "pair_id", text command.pairId),
      (ascii "previous_lease_sha256", text (textSha256 crypto command.previousLease)),
      (ascii "protocol_version", .number command.protocolVersion),
      (ascii "request_id", text command.requestId),
      (ascii "request_nonce", text command.requestNonce),
      (ascii "revocation_version", .number command.revocationVersion),
      (ascii "session_id", text command.sessionId)]

def entitlementStatusPayload (command : EntitlementStatusProof Text Int) : Except String Bytes := do
  requireUsageCommon command.entitlementId command.pairId command.protocolVersion
    command.revocationVersion
  requireHex command.requestNonce 32
  return canonical
    [(ascii "domain", .text kEntitlementStatusDomain),
      (ascii "entitlement_id", text command.entitlementId),
      (ascii "pair_id", text command.pairId),
      (ascii "protocol_version", .number command.protocolVersion),
      (ascii "request_nonce", text command.requestNonce),
      (ascii "revocation_version", .number command.revocationVersion)]

def build : SignedCommand Text Int → Except String Bytes
  | .activationConfirmation command => activationConfirmationPayload crypto command
  | .usageStartChallenge command => usageStartChallengePayload command
  | .usageStart command => usageStartPayload crypto command
  | .usageStartCancel command => usageStartCancelPayload command
  | .usageHeartbeat command => usageHeartbeatPayload crypto command
  | .usageStop command => usageStopPayload crypto command
  | .entitlementStatus command => entitlementStatusPayload command

/-- The proof of a command: what it signs for the token, the lease and the profile. An empty
    profile counts as the empty object. -/
def proofOf {ν : Type} : SignedCommand Text ν → SignedProof Text ν
  | .activationConfirmation command => .activationConfirmation
      { activationMode := command.activationMode
        androidClientVersion := command.androidClientVersion
        androidDeviceCode := command.androidDeviceCode
        androidDeviceProfileSha256 := textSha256 crypto
            (orDefault command.androidDeviceProfileJson ['\x7b', '\x7d'])
        androidKeySha256 := command.androidKeySha256
        challengeId := command.challengeId
        challengeTokenSha256 := textSha256 crypto command.challengeToken
        hostClientVersion := command.hostClientVersion
        hostDeviceCode := command.hostDeviceCode
        hostKeySha256 := command.hostKeySha256
        pairId := command.pairId
        protocolVersion := command.protocolVersion
        requestId := command.requestId
        targetEntitlementId := command.targetEntitlementId }
  | .usageStartChallenge command => .usageStartChallenge command
  | .usageStart command => .usageStart
      { androidFramesTotal := command.androidFramesTotal
        androidRuntimeReady := command.androidRuntimeReady
        channelBindingSha256 := command.channelBindingSha256
        entitlementId := command.entitlementId
        hostFramesTotal := command.hostFramesTotal
        hostRuntimeReady := command.hostRuntimeReady
        pairId := command.pairId
        protocolVersion := command.protocolVersion
        requestId := command.requestId
        requestNonce := command.requestNonce
        revocationVersion := command.revocationVersion
        startChallengeId := command.startChallengeId
        startChallengeTokenSha256 := textSha256 crypto command.startChallengeToken }
  | .usageStartCancel command => .usageStartCancel command
  | .usageHeartbeat command => .usageHeartbeat
      { androidFramesTotal := command.androidFramesTotal
        channelBindingSha256 := command.channelBindingSha256
        entitlementId := command.entitlementId
        hostFramesTotal := command.hostFramesTotal
        pairId := command.pairId
        previousLeaseSha256 := textSha256 crypto command.previousLease
        protocolVersion := command.protocolVersion
        requestId := command.requestId
        requestNonce := command.requestNonce
        revocationVersion := command.revocationVersion
        sequence := command.sequence
        sessionId := command.sessionId }
  | .usageStop command => .usageStop
      { channelBindingSha256 := command.channelBindingSha256
        entitlementId := command.entitlementId
        pairId := command.pairId
        previousLeaseSha256 := textSha256 crypto command.previousLease
        protocolVersion := command.protocolVersion
        requestId := command.requestId
        requestNonce := command.requestNonce
        revocationVersion := command.revocationVersion
        sessionId := command.sessionId }
  | .entitlementStatus command => .entitlementStatus command

/-- An empty mode stands for the first activation. -/
def withDefaultMode {ν : Type} : SignedProof Text ν → SignedProof Text ν
  | .activationConfirmation proof => .activationConfirmation
      { proof with activationMode := orDefault proof.activationMode ACTIVATION_MODE_ACTIVATE }
  | proof => proof

variable {crypto} {payload : Bytes}

theorem canonical_membersOf (proof : SignedProof Bytes Int) :
    canonical (membersOf proof) = render (membersOf proof) := by
  have sorted := keysOf_sorted (kindOf proof)
  rw [← keys_membersOf] at sorted
  exact canonical_of_sorted sorted

def signedMembers (crypto : Cryptography) (command : SignedCommand Text Int) : Members :=
  membersOf ((withDefaultMode (proofOf crypto command)).map utf8 id)

theorem payload_eq {cmd : SignedCommand Text Int} (built : build crypto cmd = .ok payload) :
    payload = render (signedMembers crypto cmd) := by
  rw [signedMembers, ← canonical_membersOf]
  cases cmd
  all_goals
    simp only [build, activationConfirmationPayload, usageStartChallengePayload, usageStartPayload,
      usageStartCancelPayload, usageHeartbeatPayload, usageStopPayload, entitlementStatusPayload,
      bind_unit_eq_ok] at built
    repeat replace built := built.2
    exact (Except.ok.inj built).symm

theorem signed_of_build {first snd : SignedCommand Text Int}
    (builtFirst : build crypto first = .ok payload)
    (builtSecond : build crypto snd = .ok payload) :
    withDefaultMode (proofOf crypto first) = withDefaultMode (proofOf crypto snd) := by
  have same := (payload_eq builtFirst).symm.trans (payload_eq builtSecond)
  exact SignedProof.map_injective utf8_injective Function.injective_id
    (membersOf_injective (render_injective same))

end

end Python

end VisionForge.SignedPayload
