import VisionForge.SignedPayload.Proofs

/-! # The builders of the host

A payload is built by appending one field after the other. A proof with a field outside
of the contract gives none.
-/

namespace VisionForge.SignedPayload.Cpp

open Lib.Ascii Lib.Decimal Lib.FlatJson Lib.Utf

def kHex128Characters : Nat := 32
def kSha256Characters : Nat := 64
def kMaximumDeviceCodeCharacters : Nat := 128
def kMaximumClientVersionCharacters : Nat := 80
def kInitialActivationMode : Bytes := ascii "activate"
def kReactivationMode : Bytes := ascii "reactivate"
def kDeviceBindingActivationMode : Bytes := ascii "bind_device"

def isActivationTargetValid (activationMode targetEntitlementId : Bytes) : Bool :=
  if activationMode == kInitialActivationMode then targetEntitlementId.isEmpty
  else
    (activationMode == kReactivationMode || activationMode == kDeviceBindingActivationMode) &&
      isNonzeroLowerHex targetEntitlementId kHex128Characters

def isDeviceCodeCharacter (character : UInt8) : Bool :=
  (65 ≤ character && character ≤ 90) || (48 ≤ character && character ≤ 57) || character == 46 ||
    character == 95 || character == 58 || character == 45

def isDeviceCode (value : Bytes) : Bool :=
  !value.isEmpty && decide (value.length ≤ kMaximumDeviceCodeCharacters) &&
    value.all isDeviceCodeCharacter

def isClientVersionCharacter (character : UInt8) : Bool :=
  isDigit character || character == 46 || character == 45 || character == 43 || character == 95 ||
    (65 ≤ character && character ≤ 90) || (97 ≤ character && character ≤ 122)

def isClientVersion (value : Bytes) : Bool :=
  !value.isEmpty && decide (value.length ≤ kMaximumClientVersionCharacters) &&
    value.all isClientVersionCharacter && value.any isDigit

def commonUsageFieldsValid (entitlementId pairId : Bytes)
    (protocolVersion revocationVersion : Nat) : Bool :=
  isNonzeroLowerHex entitlementId kHex128Characters &&
    isNonzeroLowerHex pairId kHex128Characters &&
    protocolVersion == kUsageAuthorizationProtocolVersion && decide (0 < revocationVersion)

def separator (first : Bool) : Bytes := if first then [] else [44]

def appendStringField (destination : Bytes) (key : String) (value : Bytes)
    (first : Bool := false) : Bytes :=
  destination ++ separator first ++ quote (ascii key) ++ [58] ++ quote value

def appendUnsignedField (destination : Bytes) (key : String) (value : Nat)
    (first : Bool := false) : Bytes :=
  destination ++ separator first ++ quote (ascii key) ++ [58] ++ decimal value

def appendBooleanField (destination : Bytes) (key : String) (value : Bool)
    (first : Bool := false) : Bytes :=
  destination ++ separator first ++ quote (ascii key) ++ [58] ++
    if value then ascii "true" else ascii "false"

def activationConfirmationValid (proof : ActivationConfirmationProof Bytes Nat) : Bool :=
  isActivationTargetValid proof.activationMode proof.targetEntitlementId &&
    isClientVersion proof.androidClientVersion &&
    isDeviceCode proof.androidDeviceCode &&
    isNonzeroLowerHex proof.androidDeviceProfileSha256 kSha256Characters &&
    isNonzeroLowerHex proof.androidKeySha256 kSha256Characters &&
    isNonzeroLowerHex proof.challengeId kHex128Characters &&
    isNonzeroLowerHex proof.challengeTokenSha256 kSha256Characters &&
    isClientVersion proof.hostClientVersion &&
    isDeviceCode proof.hostDeviceCode &&
    isNonzeroLowerHex proof.hostKeySha256 kSha256Characters &&
    isNonzeroLowerHex proof.pairId kHex128Characters &&
    proof.protocolVersion == kUsageAuthorizationProtocolVersion &&
    isNonzeroLowerHex proof.requestId kHex128Characters

def buildActivationConfirmationPayload (proof : ActivationConfirmationProof Bytes Nat) :
    Option Bytes :=
  if !activationConfirmationValid proof then none
  else
    let payload : Bytes := [123]
    let payload := appendStringField payload "activation_mode" proof.activationMode true
    let payload := appendStringField payload "android_client_version" proof.androidClientVersion
    let payload := appendStringField payload "android_device_code" proof.androidDeviceCode
    let payload := appendStringField payload "android_device_profile_sha256"
      proof.androidDeviceProfileSha256
    let payload := appendStringField payload "android_key_sha256" proof.androidKeySha256
    let payload := appendStringField payload "challenge_id" proof.challengeId
    let payload := appendStringField payload "challenge_token_sha256" proof.challengeTokenSha256
    let payload := appendStringField payload "domain" kActivationConfirmDomain
    let payload := appendStringField payload "host_client_version" proof.hostClientVersion
    let payload := appendStringField payload "host_device_code" proof.hostDeviceCode
    let payload := appendStringField payload "host_key_sha256" proof.hostKeySha256
    let payload := appendStringField payload "pair_id" proof.pairId
    let payload := appendUnsignedField payload "protocol_version" proof.protocolVersion
    let payload := appendStringField payload "request_id" proof.requestId
    let payload := appendStringField payload "target_entitlement_id" proof.targetEntitlementId
    some (payload ++ [125])

def usageStartChallengeValid (proof : UsageStartChallengeProof Bytes Nat) : Bool :=
  commonUsageFieldsValid proof.entitlementId proof.pairId proof.protocolVersion
      proof.revocationVersion &&
    isNonzeroLowerHex proof.channelBindingSha256 kSha256Characters &&
    isNonzeroLowerHex proof.requestId kHex128Characters &&
    isNonzeroLowerHex proof.requestNonce kHex128Characters

def buildUsageStartChallengePayload (proof : UsageStartChallengeProof Bytes Nat) : Option Bytes :=
  if !usageStartChallengeValid proof then none
  else
    let payload : Bytes := [123]
    let payload := appendStringField payload "channel_binding_sha256"
      proof.channelBindingSha256 true
    let payload := appendStringField payload "domain" kUsageStartChallengeDomain
    let payload := appendStringField payload "entitlement_id" proof.entitlementId
    let payload := appendStringField payload "pair_id" proof.pairId
    let payload := appendUnsignedField payload "protocol_version" proof.protocolVersion
    let payload := appendStringField payload "request_id" proof.requestId
    let payload := appendStringField payload "request_nonce" proof.requestNonce
    let payload := appendUnsignedField payload "revocation_version" proof.revocationVersion
    some (payload ++ [125])

def usageStartValid (proof : UsageStartProof Bytes Nat) : Bool :=
  commonUsageFieldsValid proof.entitlementId proof.pairId proof.protocolVersion
      proof.revocationVersion &&
    proof.androidRuntimeReady &&
    proof.hostRuntimeReady &&
    isNonzeroLowerHex proof.channelBindingSha256 kSha256Characters &&
    isNonzeroLowerHex proof.requestId kHex128Characters &&
    isNonzeroLowerHex proof.requestNonce kHex128Characters &&
    isNonzeroLowerHex proof.startChallengeId kHex128Characters &&
    isNonzeroLowerHex proof.startChallengeTokenSha256 kSha256Characters

def buildUsageStartPayload (proof : UsageStartProof Bytes Nat) : Option Bytes :=
  if !usageStartValid proof then none
  else
    let payload : Bytes := [123]
    let payload := appendUnsignedField payload "android_frames_total" proof.androidFramesTotal true
    let payload := appendBooleanField payload "android_runtime_ready" proof.androidRuntimeReady
    let payload := appendStringField payload "channel_binding_sha256" proof.channelBindingSha256
    let payload := appendStringField payload "domain" kUsageStartDomain
    let payload := appendStringField payload "entitlement_id" proof.entitlementId
    let payload := appendUnsignedField payload "host_frames_total" proof.hostFramesTotal
    let payload := appendBooleanField payload "host_runtime_ready" proof.hostRuntimeReady
    let payload := appendStringField payload "pair_id" proof.pairId
    let payload := appendUnsignedField payload "protocol_version" proof.protocolVersion
    let payload := appendStringField payload "request_id" proof.requestId
    let payload := appendStringField payload "request_nonce" proof.requestNonce
    let payload := appendUnsignedField payload "revocation_version" proof.revocationVersion
    let payload := appendStringField payload "start_challenge_id" proof.startChallengeId
    let payload := appendStringField payload "start_challenge_token_sha256"
      proof.startChallengeTokenSha256
    some (payload ++ [125])

def usageStartCancelValid (proof : UsageStartCancelProof Bytes Nat) : Bool :=
  commonUsageFieldsValid proof.entitlementId proof.pairId proof.protocolVersion
      proof.revocationVersion &&
    isNonzeroLowerHex proof.channelBindingSha256 kSha256Characters &&
    isNonzeroLowerHex proof.requestId kHex128Characters &&
    isNonzeroLowerHex proof.requestNonce kHex128Characters &&
    isNonzeroLowerHex proof.startRequestId kHex128Characters

def buildUsageStartCancelPayload (proof : UsageStartCancelProof Bytes Nat) : Option Bytes :=
  if !usageStartCancelValid proof then none
  else
    let payload : Bytes := [123]
    let payload := appendStringField payload "channel_binding_sha256"
      proof.channelBindingSha256 true
    let payload := appendStringField payload "domain" kUsageStartCancelDomain
    let payload := appendStringField payload "entitlement_id" proof.entitlementId
    let payload := appendStringField payload "pair_id" proof.pairId
    let payload := appendUnsignedField payload "protocol_version" proof.protocolVersion
    let payload := appendStringField payload "request_id" proof.requestId
    let payload := appendStringField payload "request_nonce" proof.requestNonce
    let payload := appendUnsignedField payload "revocation_version" proof.revocationVersion
    let payload := appendStringField payload "start_request_id" proof.startRequestId
    some (payload ++ [125])

def usageHeartbeatValid (proof : UsageHeartbeatProof Bytes Nat) : Bool :=
  commonUsageFieldsValid proof.entitlementId proof.pairId proof.protocolVersion
      proof.revocationVersion &&
    proof.sequence != 0 &&
    isNonzeroLowerHex proof.channelBindingSha256 kSha256Characters &&
    isNonzeroLowerHex proof.previousLeaseSha256 kSha256Characters &&
    isNonzeroLowerHex proof.requestId kHex128Characters &&
    isNonzeroLowerHex proof.requestNonce kHex128Characters &&
    isNonzeroLowerHex proof.sessionId kHex128Characters

def buildUsageHeartbeatPayload (proof : UsageHeartbeatProof Bytes Nat) : Option Bytes :=
  if !usageHeartbeatValid proof then none
  else
    let payload : Bytes := [123]
    let payload := appendUnsignedField payload "android_frames_total" proof.androidFramesTotal true
    let payload := appendStringField payload "channel_binding_sha256" proof.channelBindingSha256
    let payload := appendStringField payload "domain" kUsageHeartbeatDomain
    let payload := appendStringField payload "entitlement_id" proof.entitlementId
    let payload := appendUnsignedField payload "host_frames_total" proof.hostFramesTotal
    let payload := appendStringField payload "pair_id" proof.pairId
    let payload := appendStringField payload "previous_lease_sha256" proof.previousLeaseSha256
    let payload := appendUnsignedField payload "protocol_version" proof.protocolVersion
    let payload := appendStringField payload "request_id" proof.requestId
    let payload := appendStringField payload "request_nonce" proof.requestNonce
    let payload := appendUnsignedField payload "revocation_version" proof.revocationVersion
    let payload := appendUnsignedField payload "sequence" proof.sequence
    let payload := appendStringField payload "session_id" proof.sessionId
    some (payload ++ [125])

def usageStopValid (proof : UsageStopProof Bytes Nat) : Bool :=
  commonUsageFieldsValid proof.entitlementId proof.pairId proof.protocolVersion
      proof.revocationVersion &&
    isNonzeroLowerHex proof.channelBindingSha256 kSha256Characters &&
    isNonzeroLowerHex proof.previousLeaseSha256 kSha256Characters &&
    isNonzeroLowerHex proof.requestId kHex128Characters &&
    isNonzeroLowerHex proof.requestNonce kHex128Characters &&
    isNonzeroLowerHex proof.sessionId kHex128Characters

def buildUsageStopPayload (proof : UsageStopProof Bytes Nat) : Option Bytes :=
  if !usageStopValid proof then none
  else
    let payload : Bytes := [123]
    let payload := appendStringField payload "channel_binding_sha256"
      proof.channelBindingSha256 true
    let payload := appendStringField payload "domain" kUsageStopDomain
    let payload := appendStringField payload "entitlement_id" proof.entitlementId
    let payload := appendStringField payload "pair_id" proof.pairId
    let payload := appendStringField payload "previous_lease_sha256" proof.previousLeaseSha256
    let payload := appendUnsignedField payload "protocol_version" proof.protocolVersion
    let payload := appendStringField payload "request_id" proof.requestId
    let payload := appendStringField payload "request_nonce" proof.requestNonce
    let payload := appendUnsignedField payload "revocation_version" proof.revocationVersion
    let payload := appendStringField payload "session_id" proof.sessionId
    some (payload ++ [125])

def entitlementStatusValid (proof : EntitlementStatusProof Bytes Nat) : Bool :=
  commonUsageFieldsValid proof.entitlementId proof.pairId proof.protocolVersion
      proof.revocationVersion &&
    isNonzeroLowerHex proof.requestNonce kHex128Characters

def buildEntitlementStatusPayload (proof : EntitlementStatusProof Bytes Nat) : Option Bytes :=
  if !entitlementStatusValid proof then none
  else
    let payload : Bytes := [123]
    let payload := appendStringField payload "domain" kEntitlementStatusDomain true
    let payload := appendStringField payload "entitlement_id" proof.entitlementId
    let payload := appendStringField payload "pair_id" proof.pairId
    let payload := appendUnsignedField payload "protocol_version" proof.protocolVersion
    let payload := appendStringField payload "request_nonce" proof.requestNonce
    let payload := appendUnsignedField payload "revocation_version" proof.revocationVersion
    some (payload ++ [125])

def build : SignedProof Bytes Nat → Option Bytes
  | .activationConfirmation proof => buildActivationConfirmationPayload proof
  | .usageStartChallenge proof => buildUsageStartChallengePayload proof
  | .usageStart proof => buildUsageStartPayload proof
  | .usageStartCancel proof => buildUsageStartCancelPayload proof
  | .usageHeartbeat proof => buildUsageHeartbeatPayload proof
  | .usageStop proof => buildUsageStopPayload proof
  | .entitlementStatus proof => buildEntitlementStatusPayload proof

def valid : SignedProof Bytes Nat → Bool
  | .activationConfirmation proof => activationConfirmationValid proof
  | .usageStartChallenge proof => usageStartChallengeValid proof
  | .usageStart proof => usageStartValid proof
  | .usageStartCancel proof => usageStartCancelValid proof
  | .usageHeartbeat proof => usageHeartbeatValid proof
  | .usageStop proof => usageStopValid proof
  | .entitlementStatus proof => entitlementStatusValid proof

theorem appendStringField_eq (dest : Bytes) (key : String) (value : Bytes) (first : Bool) :
    appendStringField dest key value first =
      dest ++ (separator first ++ memberText (ascii key, .text value)) := by
  simp [appendStringField, memberText]

theorem appendUnsignedField_eq (dest : Bytes) (key : String) (value : Nat) (first : Bool) :
    appendUnsignedField dest key value first =
      dest ++ (separator first ++ memberText (ascii key, .number value)) := by
  simp [appendUnsignedField, memberText]

theorem appendBooleanField_eq (dest : Bytes) (key : String) (value first : Bool) :
    appendBooleanField dest key value first =
      dest ++ (separator first ++ memberText (ascii key, .flag value)) := by
  simp [appendBooleanField, memberText, flagText]

theorem build_eq (proof : SignedProof Bytes Nat) :
    build proof =
      if valid proof then some (render (membersOf (proof.map id Int.ofNat))) else none := by
  cases isValid : valid proof
  all_goals
    cases proof
    all_goals
      simp only [valid] at isValid
      simp [build, buildActivationConfirmationPayload, buildUsageStartChallengePayload,
        buildUsageStartPayload, buildUsageStartCancelPayload, buildUsageHeartbeatPayload,
        buildUsageStopPayload, buildEntitlementStatusPayload, isValid, appendStringField_eq,
        appendUnsignedField_eq, appendBooleanField_eq, separator, membersOf, SignedProof.map,
        ActivationConfirmationProof.map, UsageStartChallengeProof.map, UsageStartProof.map,
        UsageStartCancelProof.map, UsageHeartbeatProof.map, UsageStopProof.map,
        EntitlementStatusProof.map, render, tailText]

theorem isAscii_of_class {isCharacter : UInt8 → Bool} {value : Bytes}
    (small : ∀ octet, isCharacter octet = true → octet.toNat < 0x80)
    (all : value.all isCharacter = true) : IsAscii value :=
  fun octet mem => small octet (List.all_eq_true.mp all octet mem)

theorem isAscii_of_hex {value : Bytes} {length : Nat} (h : isNonzeroLowerHex value length = true) :
    IsAscii value := isAscii_of_plain (plain_of_nonzeroHex h)

theorem isAscii_of_deviceCode {value : Bytes} (h : isDeviceCode value = true) : IsAscii value := by
  simp only [isDeviceCode, Bool.and_eq_true] at h
  refine isAscii_of_class (fun octet isCode => ?_) h.2
  simp only [isDeviceCodeCharacter, Bool.or_eq_true, Bool.and_eq_true, decide_eq_true_eq,
    beq_iff_eq, UInt8.le_iff_toNat_le, ← UInt8.toNat_inj, UInt8.reduceToNat] at isCode
  omega

theorem isAscii_of_clientVersion {value : Bytes} (h : isClientVersion value = true) :
    IsAscii value := by
  simp only [isClientVersion, Bool.and_eq_true] at h
  refine isAscii_of_class (fun octet isVersion => ?_) h.1.2
  simp only [isClientVersionCharacter, isDigit, Bool.or_eq_true, Bool.and_eq_true,
    decide_eq_true_eq, beq_iff_eq, UInt8.le_iff_toNat_le, ← UInt8.toNat_inj,
    UInt8.reduceToNat] at isVersion
  omega

theorem isAscii_of_target {activationMode targetEntitlementId : Bytes}
    (h : isActivationTargetValid activationMode targetEntitlementId = true) :
    IsAscii activationMode ∧ IsAscii targetEntitlementId := by
  unfold isActivationTargetValid at h
  split at h
  · rename_i initial
    rw [beq_iff_eq] at initial
    rw [initial, List.isEmpty_iff.mp h]
    decide
  · simp only [Bool.and_eq_true, Bool.or_eq_true, beq_iff_eq] at h
    refine ⟨?_, isAscii_of_hex h.2⟩
    cases h.1 with
    | inl reactivate =>
      rw [reactivate]
      decide
    | inr bindDevice =>
      rw [bindDevice]
      decide

theorem isAscii_of_common {entId pairId : Bytes} {protocolVersion revocationVersion : Nat}
    (h : commonUsageFieldsValid entId pairId protocolVersion revocationVersion = true) :
    IsAscii entId ∧ IsAscii pairId := by
  simp only [commonUsageFieldsValid, Bool.and_eq_true] at h
  exact ⟨isAscii_of_hex h.1.1.1, isAscii_of_hex h.1.1.2⟩

theorem isAscii_texts {proof : SignedProof Bytes Nat} (h : valid proof = true) :
    ∀ value ∈ proof.texts, IsAscii value := by
  cases proof
  all_goals
    simp only [valid, activationConfirmationValid, usageStartChallengeValid, usageStartValid,
      usageStartCancelValid, usageHeartbeatValid, usageStopValid, entitlementStatusValid,
      Bool.and_eq_true] at h
    simp only [SignedProof.texts, List.forall_mem_cons, List.not_mem_nil, false_implies,
      implies_true, and_true]
    grind [isAscii_of_target, isAscii_of_clientVersion, isAscii_of_deviceCode, isAscii_of_hex,
      isAscii_of_common]

theorem valid_of_build {proof : SignedProof Bytes Nat} {payload : Bytes}
    (built : build proof = some payload) :
    valid proof = true ∧ payload = render (membersOf (proof.map id Int.ofNat)) := by
  rw [build_eq, Option.ite_none_right_eq_some, Option.some.injEq] at built
  exact ⟨built.1, built.2.symm⟩

theorem isAscii_build {proof : SignedProof Bytes Nat} {payload : Bytes}
    (built : build proof = some payload) : IsAscii payload := by
  obtain ⟨isValid, rfl⟩ := valid_of_build built
  apply isAscii_membersOf
  rw [SignedProof.texts_map, List.map_id]
  exact isAscii_texts isValid

theorem build_injective {first second : SignedProof Bytes Nat} {payload : Bytes}
    (builtFirst : build first = some payload) (builtSecond : build second = some payload) :
    first = second := by
  have same := (valid_of_build builtFirst).2.symm.trans (valid_of_build builtSecond).2
  exact SignedProof.map_injective Function.injective_id (fun _ _ => Int.ofNat.inj)
    (membersOf_injective (render_injective same))

end VisionForge.SignedPayload.Cpp
