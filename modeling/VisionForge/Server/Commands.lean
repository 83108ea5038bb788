import VisionForge.Lib.FlatJson
import VisionForge.Lib.Utf
import VisionForge.UsageLease.Cryptography

/-! # Usage commands and the texts the devices sign

A command is what its normalisation returns: identifiers are nonzero lowercase
hexadecimal, counters fit 63 bits and the texts have the admitted lengths, so a
command that normalisation refuses cannot be built.
-/

namespace VisionForge.Server

open Lib.Ascii Lib.FlatJson UsageLease

def PROTOCOL_VERSION : Nat := 2
def USAGE_START_DOMAIN : Bytes := ascii "visionforge-dual-machine-usage-start-v1"
def USAGE_HEARTBEAT_DOMAIN : Bytes := ascii "visionforge-dual-machine-usage-heartbeat-v1"
def USAGE_START_CHALLENGE_DOMAIN : Bytes :=
  ascii "visionforge-dual-machine-usage-start-challenge-v1"
def USAGE_START_CANCEL_DOMAIN : Bytes := ascii "visionforge-dual-machine-usage-start-cancel-v1"
def USAGE_STOP_DOMAIN : Bytes := ascii "visionforge-dual-machine-usage-stop-v1"
def ENTITLEMENT_STATUS_DOMAIN : Bytes := ascii "visionforge-dual-machine-entitlement-status-v1"

/-- The members every usage command has. -/
structure UsageCommon where
  entitlementId : Bytes
  pairId : Bytes
  protocolVersion : Nat
  revocationVersion : Nat
  hostSignatureB64 : Bytes
  androidSignatureB64 : Bytes
  entitlementIdHex : isNonzeroLowerHex entitlementId 32 = true := by decide
  pairIdHex : isNonzeroLowerHex pairId 32 = true := by decide
  protocol : protocolVersion = PROTOCOL_VERSION := by decide
  revocation : 0 < revocationVersion ∧ revocationVersion < 2 ^ 63 := by decide
  signatures : (8 ≤ hostSignatureB64.length ∧ hostSignatureB64.length ≤ 256) ∧
    8 ≤ androidSignatureB64.length ∧ androidSignatureB64.length ≤ 256 := by decide

structure ProgressCommand extends UsageCommon where
  requestId : Bytes
  requestNonce : Bytes
  channelBindingSha256 : Bytes
  hostFramesTotal : Nat
  androidFramesTotal : Nat
  requestIdHex : isNonzeroLowerHex requestId 32 = true := by decide
  requestNonceHex : isNonzeroLowerHex requestNonce 32 = true := by decide
  channelBindingHex : isNonzeroLowerHex channelBindingSha256 64 = true := by decide
  counters : hostFramesTotal < 2 ^ 63 ∧ androidFramesTotal < 2 ^ 63 := by decide

def isChallengeTokenCharacter (character : UInt8) : Bool :=
  (48 ≤ character && character ≤ 57) || (65 ≤ character && character ≤ 90) ||
    (97 ≤ character && character ≤ 122) || character == 45 || character == 95

/-- Both runtimes are ready in every command that normalisation returns. -/
structure StartCommand extends ProgressCommand where
  startChallengeId : Bytes
  startChallengeToken : Bytes
  startChallengeIdHex : isNonzeroLowerHex startChallengeId 32 = true := by decide
  startChallengeTokenText : startChallengeToken.length = 43 ∧
    startChallengeToken.all isChallengeTokenCharacter = true := by decide

structure HeartbeatCommand extends ProgressCommand where
  sessionId : Bytes
  sequence : Nat
  previousLease : Bytes
  sessionIdHex : isNonzeroLowerHex sessionId 32 = true := by decide
  positive : 0 < sequence ∧ sequence < 2 ^ 63 := by decide
  previousLeaseText : 256 ≤ previousLease.length ∧ previousLease.length ≤ 8192 := by decide

structure StartChallengeCommand extends UsageCommon where
  requestId : Bytes
  requestNonce : Bytes
  channelBindingSha256 : Bytes
  requestIdHex : isNonzeroLowerHex requestId 32 = true := by decide
  requestNonceHex : isNonzeroLowerHex requestNonce 32 = true := by decide
  channelBindingHex : isNonzeroLowerHex channelBindingSha256 64 = true := by decide

structure StartCancelCommand extends StartChallengeCommand where
  startRequestId : Bytes
  startRequestIdHex : isNonzeroLowerHex startRequestId 32 = true := by decide

structure StopCommand extends StartChallengeCommand where
  sessionId : Bytes
  previousLease : Bytes
  sessionIdHex : isNonzeroLowerHex sessionId 32 = true := by decide
  previousLeaseText : 256 ≤ previousLease.length ∧ previousLease.length ≤ 8192 := by decide

structure StatusCommand extends UsageCommon where
  requestNonce : Bytes
  requestNonceHex : isNonzeroLowerHex requestNonce 32 = true := by decide

def usageStartPayload (crypto : Cryptography) (command : StartCommand) : Bytes :=
  canonical
    [(ascii "android_frames_total", .number command.androidFramesTotal),
      (ascii "android_runtime_ready", .flag true),
      (ascii "channel_binding_sha256", .text command.channelBindingSha256),
      (ascii "domain", .text USAGE_START_DOMAIN),
      (ascii "entitlement_id", .text command.entitlementId),
      (ascii "host_frames_total", .number command.hostFramesTotal),
      (ascii "host_runtime_ready", .flag true),
      (ascii "pair_id", .text command.pairId),
      (ascii "protocol_version", .number command.protocolVersion),
      (ascii "request_id", .text command.requestId),
      (ascii "request_nonce", .text command.requestNonce),
      (ascii "revocation_version", .number command.revocationVersion),
      (ascii "start_challenge_id", .text command.startChallengeId),
      (ascii "start_challenge_token_sha256", .text (crypto.sha256Hex command.startChallengeToken))]

def usageHeartbeatPayload (crypto : Cryptography) (command : HeartbeatCommand) : Bytes :=
  canonical
    [(ascii "android_frames_total", .number command.androidFramesTotal),
      (ascii "channel_binding_sha256", .text command.channelBindingSha256),
      (ascii "domain", .text USAGE_HEARTBEAT_DOMAIN),
      (ascii "entitlement_id", .text command.entitlementId),
      (ascii "host_frames_total", .number command.hostFramesTotal),
      (ascii "pair_id", .text command.pairId),
      (ascii "previous_lease_sha256", .text (crypto.sha256Hex command.previousLease)),
      (ascii "protocol_version", .number command.protocolVersion),
      (ascii "request_id", .text command.requestId),
      (ascii "request_nonce", .text command.requestNonce),
      (ascii "revocation_version", .number command.revocationVersion),
      (ascii "sequence", .number command.sequence),
      (ascii "session_id", .text command.sessionId)]

def usageStartChallengePayload (command : StartChallengeCommand) : Bytes :=
  canonical
    [(ascii "channel_binding_sha256", .text command.channelBindingSha256),
      (ascii "domain", .text USAGE_START_CHALLENGE_DOMAIN),
      (ascii "entitlement_id", .text command.entitlementId),
      (ascii "pair_id", .text command.pairId),
      (ascii "protocol_version", .number command.protocolVersion),
      (ascii "request_id", .text command.requestId),
      (ascii "request_nonce", .text command.requestNonce),
      (ascii "revocation_version", .number command.revocationVersion)]

def usageStartCancelPayload (command : StartCancelCommand) : Bytes :=
  canonical
    [(ascii "channel_binding_sha256", .text command.channelBindingSha256),
      (ascii "domain", .text USAGE_START_CANCEL_DOMAIN),
      (ascii "entitlement_id", .text command.entitlementId),
      (ascii "pair_id", .text command.pairId),
      (ascii "protocol_version", .number command.protocolVersion),
      (ascii "request_id", .text command.requestId),
      (ascii "request_nonce", .text command.requestNonce),
      (ascii "revocation_version", .number command.revocationVersion),
      (ascii "start_request_id", .text command.startRequestId)]

def usageStopPayload (crypto : Cryptography) (command : StopCommand) : Bytes :=
  canonical
    [(ascii "channel_binding_sha256", .text command.channelBindingSha256),
      (ascii "domain", .text USAGE_STOP_DOMAIN),
      (ascii "entitlement_id", .text command.entitlementId),
      (ascii "pair_id", .text command.pairId),
      (ascii "previous_lease_sha256", .text (crypto.sha256Hex command.previousLease)),
      (ascii "protocol_version", .number command.protocolVersion),
      (ascii "request_id", .text command.requestId),
      (ascii "request_nonce", .text command.requestNonce),
      (ascii "revocation_version", .number command.revocationVersion),
      (ascii "session_id", .text command.sessionId)]

def entitlementStatusPayload (command : StatusCommand) : Bytes :=
  canonical
    [(ascii "domain", .text ENTITLEMENT_STATUS_DOMAIN),
      (ascii "entitlement_id", .text command.entitlementId),
      (ascii "pair_id", .text command.pairId),
      (ascii "protocol_version", .number command.protocolVersion),
      (ascii "request_nonce", .text command.requestNonce),
      (ascii "revocation_version", .number command.revocationVersion)]

/-- A text as its code points. -/
abbrev Str := List Nat

def decodeStr (octets : Bytes) : Option Str := (Lib.Utf.decodeUtf8 octets).map Lib.Utf.codePoints

/-- The white space of Unicode and the separators of ASCII. -/
def isSpace (point : Nat) : Bool :=
  decide (9 ≤ point ∧ point ≤ 13) || decide (28 ≤ point ∧ point ≤ 32) ||
    decide (0x2000 ≤ point ∧ point ≤ 0x200a) ||
    [0x85, 0xa0, 0x1680, 0x2028, 0x2029, 0x202f, 0x205f, 0x3000].contains point

def strip (text : Str) : Str := ((text.dropWhile isSpace).reverse.dropWhile isSpace).reverse

example : strip [0x3000, 32, 0x4e2d, 32, 0x6587, 0xa0] = [0x4e2d, 32, 0x6587] := by decide

/-- The components of a version of two to four numbers, padded to four. -/
def paddedVersion (value : Bytes) : Option (List Nat) := do
  let text ← decodeStr value
  let components := ((strip text).flatMap Lib.Utf.encodeCodePoint).splitOn 46
  if ¬(2 ≤ components.length ∧ components.length ≤ 4) then none
  else if components.any (fun part => part.isEmpty || !part.all Lib.Decimal.isDigit) then none
  else
    let numbers := components.map (Lib.Decimal.valueFrom 0)
    if numbers.any (fun number => decide (999999 < number)) then none
    else some (numbers ++ List.replicate (4 - numbers.length) 0)

/-- `none` where the comparison raises. -/
def clientVersionAtLeast (actual minimum : Bytes) : Option Bool := do
  let actualParts ← paddedVersion actual
  let minimumParts ← paddedVersion minimum
  return !decide (actualParts < minimumParts)

example : clientVersionAtLeast (ascii "1.10") (ascii "1.9.3") = some true := by decide

end VisionForge.Server
