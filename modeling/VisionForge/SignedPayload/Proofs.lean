import VisionForge.Lib.FlatJson

/-! # What the devices sign

A proof is the record of one signed command. The programs keep its texts and counters in
the types of their own languages, so a proof is generic in both. The signed text is the
flat object of its fields with the domain of the command, in the order of the keys.
-/

namespace VisionForge.SignedPayload

open Lib.Ascii Lib.FlatJson Lib.Utf

def kUsageAuthorizationProtocolVersion : Nat := 2

def kActivationConfirmDomain : Bytes := ascii "visionforge-dual-machine-card-activate-v1"
def kUsageStartChallengeDomain : Bytes := ascii "visionforge-dual-machine-usage-start-challenge-v1"
def kUsageStartDomain : Bytes := ascii "visionforge-dual-machine-usage-start-v1"
def kUsageStartCancelDomain : Bytes := ascii "visionforge-dual-machine-usage-start-cancel-v1"
def kUsageHeartbeatDomain : Bytes := ascii "visionforge-dual-machine-usage-heartbeat-v1"
def kUsageStopDomain : Bytes := ascii "visionforge-dual-machine-usage-stop-v1"
def kEntitlementStatusDomain : Bytes := ascii "visionforge-dual-machine-entitlement-status-v1"

section

variable (τ ν : Type)

structure ActivationConfirmationProof where
  activationMode : τ
  androidClientVersion : τ
  androidDeviceCode : τ
  androidDeviceProfileSha256 : τ
  androidKeySha256 : τ
  challengeId : τ
  challengeTokenSha256 : τ
  hostClientVersion : τ
  hostDeviceCode : τ
  hostKeySha256 : τ
  pairId : τ
  protocolVersion : ν
  requestId : τ
  targetEntitlementId : τ
  deriving DecidableEq

structure UsageStartChallengeProof where
  channelBindingSha256 : τ
  entitlementId : τ
  pairId : τ
  protocolVersion : ν
  requestId : τ
  requestNonce : τ
  revocationVersion : ν
  deriving DecidableEq

structure UsageStartProof where
  androidFramesTotal : ν
  androidRuntimeReady : Bool
  channelBindingSha256 : τ
  entitlementId : τ
  hostFramesTotal : ν
  hostRuntimeReady : Bool
  pairId : τ
  protocolVersion : ν
  requestId : τ
  requestNonce : τ
  revocationVersion : ν
  startChallengeId : τ
  startChallengeTokenSha256 : τ
  deriving DecidableEq

structure UsageStartCancelProof where
  channelBindingSha256 : τ
  entitlementId : τ
  pairId : τ
  protocolVersion : ν
  requestId : τ
  requestNonce : τ
  revocationVersion : ν
  startRequestId : τ
  deriving DecidableEq

structure UsageHeartbeatProof where
  androidFramesTotal : ν
  channelBindingSha256 : τ
  entitlementId : τ
  hostFramesTotal : ν
  pairId : τ
  previousLeaseSha256 : τ
  protocolVersion : ν
  requestId : τ
  requestNonce : τ
  revocationVersion : ν
  sequence : ν
  sessionId : τ
  deriving DecidableEq

structure UsageStopProof where
  channelBindingSha256 : τ
  entitlementId : τ
  pairId : τ
  previousLeaseSha256 : τ
  protocolVersion : ν
  requestId : τ
  requestNonce : τ
  revocationVersion : ν
  sessionId : τ
  deriving DecidableEq

structure EntitlementStatusProof where
  entitlementId : τ
  pairId : τ
  protocolVersion : ν
  requestNonce : τ
  revocationVersion : ν
  deriving DecidableEq

/-- The seven signed commands. -/
inductive SignedProof where
  | activationConfirmation (proof : ActivationConfirmationProof τ ν)
  | usageStartChallenge (proof : UsageStartChallengeProof τ ν)
  | usageStart (proof : UsageStartProof τ ν)
  | usageStartCancel (proof : UsageStartCancelProof τ ν)
  | usageHeartbeat (proof : UsageHeartbeatProof τ ν)
  | usageStop (proof : UsageStopProof τ ν)
  | entitlementStatus (proof : EntitlementStatusProof τ ν)
  deriving DecidableEq

end

section

variable {τ τ' ν ν' : Type} (text : τ → τ') (number : ν → ν')

def ActivationConfirmationProof.map (proof : ActivationConfirmationProof τ ν) :
    ActivationConfirmationProof τ' ν' where
  activationMode := text proof.activationMode
  androidClientVersion := text proof.androidClientVersion
  androidDeviceCode := text proof.androidDeviceCode
  androidDeviceProfileSha256 := text proof.androidDeviceProfileSha256
  androidKeySha256 := text proof.androidKeySha256
  challengeId := text proof.challengeId
  challengeTokenSha256 := text proof.challengeTokenSha256
  hostClientVersion := text proof.hostClientVersion
  hostDeviceCode := text proof.hostDeviceCode
  hostKeySha256 := text proof.hostKeySha256
  pairId := text proof.pairId
  protocolVersion := number proof.protocolVersion
  requestId := text proof.requestId
  targetEntitlementId := text proof.targetEntitlementId

def UsageStartChallengeProof.map (proof : UsageStartChallengeProof τ ν) :
    UsageStartChallengeProof τ' ν' where
  channelBindingSha256 := text proof.channelBindingSha256
  entitlementId := text proof.entitlementId
  pairId := text proof.pairId
  protocolVersion := number proof.protocolVersion
  requestId := text proof.requestId
  requestNonce := text proof.requestNonce
  revocationVersion := number proof.revocationVersion

def UsageStartProof.map (proof : UsageStartProof τ ν) : UsageStartProof τ' ν' where
  androidFramesTotal := number proof.androidFramesTotal
  androidRuntimeReady := proof.androidRuntimeReady
  channelBindingSha256 := text proof.channelBindingSha256
  entitlementId := text proof.entitlementId
  hostFramesTotal := number proof.hostFramesTotal
  hostRuntimeReady := proof.hostRuntimeReady
  pairId := text proof.pairId
  protocolVersion := number proof.protocolVersion
  requestId := text proof.requestId
  requestNonce := text proof.requestNonce
  revocationVersion := number proof.revocationVersion
  startChallengeId := text proof.startChallengeId
  startChallengeTokenSha256 := text proof.startChallengeTokenSha256

def UsageStartCancelProof.map (proof : UsageStartCancelProof τ ν) :
    UsageStartCancelProof τ' ν' where
  channelBindingSha256 := text proof.channelBindingSha256
  entitlementId := text proof.entitlementId
  pairId := text proof.pairId
  protocolVersion := number proof.protocolVersion
  requestId := text proof.requestId
  requestNonce := text proof.requestNonce
  revocationVersion := number proof.revocationVersion
  startRequestId := text proof.startRequestId

def UsageHeartbeatProof.map (proof : UsageHeartbeatProof τ ν) : UsageHeartbeatProof τ' ν' where
  androidFramesTotal := number proof.androidFramesTotal
  channelBindingSha256 := text proof.channelBindingSha256
  entitlementId := text proof.entitlementId
  hostFramesTotal := number proof.hostFramesTotal
  pairId := text proof.pairId
  previousLeaseSha256 := text proof.previousLeaseSha256
  protocolVersion := number proof.protocolVersion
  requestId := text proof.requestId
  requestNonce := text proof.requestNonce
  revocationVersion := number proof.revocationVersion
  sequence := number proof.sequence
  sessionId := text proof.sessionId

def UsageStopProof.map (proof : UsageStopProof τ ν) : UsageStopProof τ' ν' where
  channelBindingSha256 := text proof.channelBindingSha256
  entitlementId := text proof.entitlementId
  pairId := text proof.pairId
  previousLeaseSha256 := text proof.previousLeaseSha256
  protocolVersion := number proof.protocolVersion
  requestId := text proof.requestId
  requestNonce := text proof.requestNonce
  revocationVersion := number proof.revocationVersion
  sessionId := text proof.sessionId

def EntitlementStatusProof.map (proof : EntitlementStatusProof τ ν) :
    EntitlementStatusProof τ' ν' where
  entitlementId := text proof.entitlementId
  pairId := text proof.pairId
  protocolVersion := number proof.protocolVersion
  requestNonce := text proof.requestNonce
  revocationVersion := number proof.revocationVersion

def SignedProof.map : SignedProof τ ν → SignedProof τ' ν'
  | .activationConfirmation proof => .activationConfirmation (proof.map text number)
  | .usageStartChallenge proof => .usageStartChallenge (proof.map text number)
  | .usageStart proof => .usageStart (proof.map text number)
  | .usageStartCancel proof => .usageStartCancel (proof.map text number)
  | .usageHeartbeat proof => .usageHeartbeat (proof.map text number)
  | .usageStop proof => .usageStop (proof.map text number)
  | .entitlementStatus proof => .entitlementStatus (proof.map text number)
def SignedProof.texts : SignedProof τ ν → List τ
  | .activationConfirmation proof =>
    [proof.activationMode, proof.androidClientVersion, proof.androidDeviceCode,
      proof.androidDeviceProfileSha256, proof.androidKeySha256, proof.challengeId,
      proof.challengeTokenSha256, proof.hostClientVersion, proof.hostDeviceCode,
      proof.hostKeySha256, proof.pairId, proof.requestId, proof.targetEntitlementId]
  | .usageStartChallenge proof =>
    [proof.channelBindingSha256, proof.entitlementId, proof.pairId, proof.requestId,
      proof.requestNonce]
  | .usageStart proof =>
    [proof.channelBindingSha256, proof.entitlementId, proof.pairId, proof.requestId,
      proof.requestNonce, proof.startChallengeId, proof.startChallengeTokenSha256]
  | .usageStartCancel proof =>
    [proof.channelBindingSha256, proof.entitlementId, proof.pairId, proof.requestId,
      proof.requestNonce, proof.startRequestId]
  | .usageHeartbeat proof =>
    [proof.channelBindingSha256, proof.entitlementId, proof.pairId, proof.previousLeaseSha256,
      proof.requestId, proof.requestNonce, proof.sessionId]
  | .usageStop proof =>
    [proof.channelBindingSha256, proof.entitlementId, proof.pairId, proof.previousLeaseSha256,
      proof.requestId, proof.requestNonce, proof.sessionId]
  | .entitlementStatus proof =>
    [proof.entitlementId, proof.pairId, proof.requestNonce]

theorem SignedProof.texts_map (proof : SignedProof τ ν) :
    (proof.map text number).texts = proof.texts.map text := by
  cases proof <;> rfl

theorem SignedProof.map_congr {text text' : τ → τ'} {number : ν → ν'} {proof : SignedProof τ ν}
    (same : ∀ value ∈ proof.texts, text value = text' value) :
    proof.map text number = proof.map text' number := by
  cases proof
  all_goals
    simp only [SignedProof.texts, List.forall_mem_cons] at same
    simp only [SignedProof.map, ActivationConfirmationProof.map, UsageStartChallengeProof.map,
      UsageStartProof.map, UsageStartCancelProof.map, UsageHeartbeatProof.map, UsageStopProof.map,
      EntitlementStatusProof.map, same]

theorem SignedProof.map_injective {text : τ → τ'} {number : ν → ν'}
    (texts : Function.Injective text) (numbers : Function.Injective number) :
    Function.Injective (SignedProof.map text number) := by
  intro first snd same
  cases first <;> cases snd <;> simp only [SignedProof.map, reduceCtorEq] at same
  all_goals
    rename_i first snd
    cases first
    cases snd
    simpa [ActivationConfirmationProof.map, UsageStartChallengeProof.map, UsageStartProof.map,
      UsageStartCancelProof.map, UsageHeartbeatProof.map, UsageStopProof.map,
      EntitlementStatusProof.map, texts.eq_iff, numbers.eq_iff] using same

theorem SignedProof.map_map {τ'' ν'' : Type} (text' : τ' → τ'') (number' : ν' → ν'')
    (proof : SignedProof τ ν) :
    (proof.map text number).map text' number' =
      proof.map (fun value => text' (text value)) (fun value => number' (number value)) := by
  cases proof <;> rfl

end

inductive Kind where
  | activationConfirmation
  | usageStartChallenge
  | usageStart
  | usageStartCancel
  | usageHeartbeat
  | usageStop
  | entitlementStatus
  deriving DecidableEq

def kindOf {τ ν : Type} : SignedProof τ ν → Kind
  | .activationConfirmation _ => .activationConfirmation
  | .usageStartChallenge _ => .usageStartChallenge
  | .usageStart _ => .usageStart
  | .usageStartCancel _ => .usageStartCancel
  | .usageHeartbeat _ => .usageHeartbeat
  | .usageStop _ => .usageStop
  | .entitlementStatus _ => .entitlementStatus

def domain : Kind → Bytes
  | .activationConfirmation => kActivationConfirmDomain
  | .usageStartChallenge => kUsageStartChallengeDomain
  | .usageStart => kUsageStartDomain
  | .usageStartCancel => kUsageStartCancelDomain
  | .usageHeartbeat => kUsageHeartbeatDomain
  | .usageStop => kUsageStopDomain
  | .entitlementStatus => kEntitlementStatusDomain

def kinds : List Kind :=
  [.activationConfirmation, .usageStartChallenge, .usageStart, .usageStartCancel, .usageHeartbeat,
    .usageStop, .entitlementStatus]

theorem domain_injective : Function.Injective domain := by
  intro first snd same
  have listed (kind : Kind) : kind ∈ kinds := by cases kind <;> decide
  have dist : (kinds.map domain).Nodup := by decide +kernel
  exact List.inj_on_of_nodup_map dist (listed first) (listed snd) same

def membersOf : SignedProof Bytes Int → Members
  | .activationConfirmation proof =>
    [(ascii "activation_mode", .text proof.activationMode),
      (ascii "android_client_version", .text proof.androidClientVersion),
      (ascii "android_device_code", .text proof.androidDeviceCode),
      (ascii "android_device_profile_sha256", .text proof.androidDeviceProfileSha256),
      (ascii "android_key_sha256", .text proof.androidKeySha256),
      (ascii "challenge_id", .text proof.challengeId),
      (ascii "challenge_token_sha256", .text proof.challengeTokenSha256),
      (ascii "domain", .text kActivationConfirmDomain),
      (ascii "host_client_version", .text proof.hostClientVersion),
      (ascii "host_device_code", .text proof.hostDeviceCode),
      (ascii "host_key_sha256", .text proof.hostKeySha256),
      (ascii "pair_id", .text proof.pairId),
      (ascii "protocol_version", .number proof.protocolVersion),
      (ascii "request_id", .text proof.requestId),
      (ascii "target_entitlement_id", .text proof.targetEntitlementId)]
  | .usageStartChallenge proof =>
    [(ascii "channel_binding_sha256", .text proof.channelBindingSha256),
      (ascii "domain", .text kUsageStartChallengeDomain),
      (ascii "entitlement_id", .text proof.entitlementId),
      (ascii "pair_id", .text proof.pairId),
      (ascii "protocol_version", .number proof.protocolVersion),
      (ascii "request_id", .text proof.requestId),
      (ascii "request_nonce", .text proof.requestNonce),
      (ascii "revocation_version", .number proof.revocationVersion)]
  | .usageStart proof =>
    [(ascii "android_frames_total", .number proof.androidFramesTotal),
      (ascii "android_runtime_ready", .flag proof.androidRuntimeReady),
      (ascii "channel_binding_sha256", .text proof.channelBindingSha256),
      (ascii "domain", .text kUsageStartDomain),
      (ascii "entitlement_id", .text proof.entitlementId),
      (ascii "host_frames_total", .number proof.hostFramesTotal),
      (ascii "host_runtime_ready", .flag proof.hostRuntimeReady),
      (ascii "pair_id", .text proof.pairId),
      (ascii "protocol_version", .number proof.protocolVersion),
      (ascii "request_id", .text proof.requestId),
      (ascii "request_nonce", .text proof.requestNonce),
      (ascii "revocation_version", .number proof.revocationVersion),
      (ascii "start_challenge_id", .text proof.startChallengeId),
      (ascii "start_challenge_token_sha256", .text proof.startChallengeTokenSha256)]
  | .usageStartCancel proof =>
    [(ascii "channel_binding_sha256", .text proof.channelBindingSha256),
      (ascii "domain", .text kUsageStartCancelDomain),
      (ascii "entitlement_id", .text proof.entitlementId),
      (ascii "pair_id", .text proof.pairId),
      (ascii "protocol_version", .number proof.protocolVersion),
      (ascii "request_id", .text proof.requestId),
      (ascii "request_nonce", .text proof.requestNonce),
      (ascii "revocation_version", .number proof.revocationVersion),
      (ascii "start_request_id", .text proof.startRequestId)]
  | .usageHeartbeat proof =>
    [(ascii "android_frames_total", .number proof.androidFramesTotal),
      (ascii "channel_binding_sha256", .text proof.channelBindingSha256),
      (ascii "domain", .text kUsageHeartbeatDomain),
      (ascii "entitlement_id", .text proof.entitlementId),
      (ascii "host_frames_total", .number proof.hostFramesTotal),
      (ascii "pair_id", .text proof.pairId),
      (ascii "previous_lease_sha256", .text proof.previousLeaseSha256),
      (ascii "protocol_version", .number proof.protocolVersion),
      (ascii "request_id", .text proof.requestId),
      (ascii "request_nonce", .text proof.requestNonce),
      (ascii "revocation_version", .number proof.revocationVersion),
      (ascii "sequence", .number proof.sequence),
      (ascii "session_id", .text proof.sessionId)]
  | .usageStop proof =>
    [(ascii "channel_binding_sha256", .text proof.channelBindingSha256),
      (ascii "domain", .text kUsageStopDomain),
      (ascii "entitlement_id", .text proof.entitlementId),
      (ascii "pair_id", .text proof.pairId),
      (ascii "previous_lease_sha256", .text proof.previousLeaseSha256),
      (ascii "protocol_version", .number proof.protocolVersion),
      (ascii "request_id", .text proof.requestId),
      (ascii "request_nonce", .text proof.requestNonce),
      (ascii "revocation_version", .number proof.revocationVersion),
      (ascii "session_id", .text proof.sessionId)]
  | .entitlementStatus proof =>
    [(ascii "domain", .text kEntitlementStatusDomain),
      (ascii "entitlement_id", .text proof.entitlementId),
      (ascii "pair_id", .text proof.pairId),
      (ascii "protocol_version", .number proof.protocolVersion),
      (ascii "request_nonce", .text proof.requestNonce),
      (ascii "revocation_version", .number proof.revocationVersion)]

/-- The keys of a command, which do not depend on its fields. -/
def keysOf : Kind → List Bytes
  | .activationConfirmation =>
    [ascii "activation_mode", ascii "android_client_version", ascii "android_device_code",
      ascii "android_device_profile_sha256", ascii "android_key_sha256", ascii "challenge_id",
      ascii "challenge_token_sha256", ascii "domain", ascii "host_client_version",
      ascii "host_device_code", ascii "host_key_sha256", ascii "pair_id",
      ascii "protocol_version", ascii "request_id", ascii "target_entitlement_id"]
  | .usageStartChallenge =>
    [ascii "channel_binding_sha256", ascii "domain", ascii "entitlement_id", ascii "pair_id",
      ascii "protocol_version", ascii "request_id", ascii "request_nonce",
      ascii "revocation_version"]
  | .usageStart =>
    [ascii "android_frames_total", ascii "android_runtime_ready", ascii "channel_binding_sha256",
      ascii "domain", ascii "entitlement_id", ascii "host_frames_total",
      ascii "host_runtime_ready", ascii "pair_id", ascii "protocol_version", ascii "request_id",
      ascii "request_nonce", ascii "revocation_version", ascii "start_challenge_id",
      ascii "start_challenge_token_sha256"]
  | .usageStartCancel =>
    [ascii "channel_binding_sha256", ascii "domain", ascii "entitlement_id", ascii "pair_id",
      ascii "protocol_version", ascii "request_id", ascii "request_nonce",
      ascii "revocation_version", ascii "start_request_id"]
  | .usageHeartbeat =>
    [ascii "android_frames_total", ascii "channel_binding_sha256", ascii "domain",
      ascii "entitlement_id", ascii "host_frames_total", ascii "pair_id",
      ascii "previous_lease_sha256", ascii "protocol_version", ascii "request_id",
      ascii "request_nonce", ascii "revocation_version", ascii "sequence", ascii "session_id"]
  | .usageStop =>
    [ascii "channel_binding_sha256", ascii "domain", ascii "entitlement_id", ascii "pair_id",
      ascii "previous_lease_sha256", ascii "protocol_version", ascii "request_id",
      ascii "request_nonce", ascii "revocation_version", ascii "session_id"]
  | .entitlementStatus =>
    [ascii "domain", ascii "entitlement_id", ascii "pair_id", ascii "protocol_version",
      ascii "request_nonce", ascii "revocation_version"]

theorem keys_membersOf (proof : SignedProof Bytes Int) :
    (membersOf proof).map Prod.fst = keysOf (kindOf proof) := by
  cases proof <;> rfl

theorem keysOf_spec (kind : Kind) :
    (keysOf kind).Pairwise (fun first snd => octetRank first < octetRank snd) ∧
      (∀ key ∈ keysOf kind, IsAscii key) ∧ IsAscii (domain kind) := by
  cases kind <;> decide +kernel

theorem keysOf_sorted (kind : Kind) :
    (keysOf kind).Pairwise (fun first snd => octetRank first < octetRank snd) :=
  (keysOf_spec kind).1

theorem keysOf_ascii (kind : Kind) : ∀ key ∈ keysOf kind, IsAscii key := (keysOf_spec kind).2.1

theorem domain_ascii (kind : Kind) : IsAscii (domain kind) := (keysOf_spec kind).2.2

theorem texts_of_members {proof : SignedProof Bytes Int} {key value : Bytes}
    (mem : (key, .text value) ∈ membersOf proof) :
    value = domain (kindOf proof) ∨ value ∈ proof.texts := by
  cases proof
  all_goals
    simp only [membersOf, List.mem_cons, Prod.mk.injEq, Scalar.text.injEq, reduceCtorEq, and_false,
      false_or, List.not_mem_nil, or_false] at mem
    simp only [SignedProof.texts, domain, kindOf, List.mem_cons, List.not_mem_nil, or_false]
    tauto

theorem isAscii_membersOf {proof : SignedProof Bytes Int}
    (h : ∀ value ∈ proof.texts, IsAscii value) : IsAscii (render (membersOf proof)) := by
  apply isAscii_render
  rintro ⟨key, scalar⟩ mem
  constructor
  · apply keysOf_ascii (kindOf proof)
    rw [← keys_membersOf]
    exact List.mem_map_of_mem mem
  · rintro value rfl
    cases texts_of_members mem with
    | inl isDomain =>
      rw [isDomain]
      exact domain_ascii _
    | inr isText => exact h value isText

theorem lookup_domain (proof : SignedProof Bytes Int) :
    (membersOf proof).lookup (ascii "domain") = some (.text (domain (kindOf proof))) := by
  cases proof <;> rfl

theorem kindOf_eq {first second : SignedProof Bytes Int}
    (same : membersOf first = membersOf second) : kindOf first = kindOf second := by
  have found := lookup_domain first
  rw [same, lookup_domain second, Option.some.injEq, Scalar.text.injEq] at found
  exact (domain_injective found).symm

theorem membersOf_injective : Function.Injective membersOf := by
  intro first snd same
  have kinds := kindOf_eq same
  cases first <;> cases snd <;> simp only [kindOf, reduceCtorEq] at kinds
  all_goals
    rename_i first snd
    cases first
    cases snd
    simp only [membersOf, List.cons.injEq, Prod.mk.injEq, Scalar.text.injEq, Scalar.number.injEq,
      Scalar.flag.injEq, true_and, and_true] at same
    simp only [same]

end VisionForge.SignedPayload
