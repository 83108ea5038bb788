import VisionForge.Lib.Checks
import VisionForge.SignedPayload.CppBuilders

/-! # The builders of the phone

The phone keeps texts as 16-bit units and raises where a field is outside of the contract.
The text is written as UTF-8 at the end.
-/

namespace VisionForge.SignedPayload.Java

open Lib.Ascii Lib.Checks Lib.Decimal Lib.FlatJson Lib.Hex Lib.Utf

def PROTOCOL_VERSION : Int := 2
def ACTIVATION_MODE_ACTIVATE : Units := text "activate"
def ACTIVATION_MODE_REACTIVATE : Units := text "reactivate"
def ACTIVATION_MODE_BIND_DEVICE : Units := text "bind_device"
def ACTIVATION_CONFIRM_DOMAIN : Units := text "visionforge-dual-machine-card-activate-v1"
def USAGE_START_CHALLENGE_DOMAIN : Units := text "visionforge-dual-machine-usage-start-challenge-v1"
def USAGE_START_DOMAIN : Units := text "visionforge-dual-machine-usage-start-v1"
def USAGE_START_CANCEL_DOMAIN : Units := text "visionforge-dual-machine-usage-start-cancel-v1"
def USAGE_HEARTBEAT_DOMAIN : Units := text "visionforge-dual-machine-usage-heartbeat-v1"
def USAGE_STOP_DOMAIN : Units := text "visionforge-dual-machine-usage-stop-v1"
def ENTITLEMENT_STATUS_DOMAIN : Units := text "visionforge-dual-machine-entitlement-status-v1"
def HEX_128_CHARACTERS : Nat := 32
def SHA256_CHARACTERS : Nat := 64
def MAXIMUM_DEVICE_CODE_CHARACTERS : Nat := 128
def MAXIMUM_CLIENT_VERSION_CHARACTERS : Nat := 80

def isLowerHexUnit (character : UInt16) : Bool :=
  (48 ≤ character && character ≤ 57) || (97 ≤ character && character ≤ 102)

def requireHex (value : Units) (length : Nat) (name : String) : Except String Unit := do
  check (value.length = length) (name ++ " has invalid length")
  check (value.all isLowerHexUnit = true) (name ++ " is not lowercase hex")
  check (value.any (· != 48) = true) (name ++ " must not be all zero")

def isDeviceCodeUnit (character : UInt16) : Bool :=
  (65 ≤ character && character ≤ 90) || (48 ≤ character && character ≤ 57) || character == 46 ||
    character == 95 || character == 58 || character == 45

def requireDeviceCode (value : Units) (name : String) : Except String Unit := do
  check (¬(value.isEmpty || decide (MAXIMUM_DEVICE_CODE_CHARACTERS < value.length)))
    (name ++ " has invalid length")
  check (value.all isDeviceCodeUnit = true) (name ++ " has invalid characters")

def isDigitUnit (character : UInt16) : Bool := 48 ≤ character && character ≤ 57

def isClientVersionUnit (character : UInt16) : Bool :=
  isDigitUnit character || character == 46 || character == 45 || character == 43 ||
    character == 95 || (65 ≤ character && character ≤ 90) || (97 ≤ character && character ≤ 122)

def requireClientVersion (value : Units) (name : String) : Except String Unit := do
  check (¬(value.isEmpty || decide (MAXIMUM_CLIENT_VERSION_CHARACTERS < value.length)))
    (name ++ " has invalid length")
  check (value.all isClientVersionUnit = true) (name ++ " has invalid characters")
  check (value.any isDigitUnit = true) (name ++ " must contain a digit")

def requireActivationMode (activationMode targetEntitlementId : Units) : Except String Unit :=
  if ACTIVATION_MODE_ACTIVATE = activationMode then
    check (targetEntitlementId.isEmpty = true) "initial activation target must be empty"
  else do
    check (ACTIVATION_MODE_REACTIVATE = activationMode ∨
      ACTIVATION_MODE_BIND_DEVICE = activationMode) "activationMode is invalid"
    requireHex targetEntitlementId HEX_128_CHARACTERS "targetEntitlementId"

def requireProtocolVersion (protocolVersion : Int) : Except String Unit :=
  check (protocolVersion = PROTOCOL_VERSION) "unsupported protocol version"

def requireCommonUsage (entitlementId pairId : Units) (protocolVersion revocationVersion : Int) :
    Except String Unit := do
  requireHex entitlementId HEX_128_CHARACTERS "entitlementId"
  requireHex pairId HEX_128_CHARACTERS "pairId"
  requireProtocolVersion protocolVersion
  check (0 < revocationVersion) "revocationVersion must be positive"

def escapeUnit (character : UInt16) : Units :=
  if character = 34 then [92, 34]
  else if character = 92 then [92, 92]
  else if character = 8 then [92, 98]
  else if character = 12 then [92, 102]
  else if character = 10 then [92, 110]
  else if character = 13 then [92, 114]
  else if character = 9 then [92, 116]
  else if character < 32 then
    [92, 117] ++ widen [48, 48, hexDigit (character.toNat / 16), hexDigit (character.toNat % 16)]
  else [character]

def quoted (destination value : Units) : Units :=
  destination ++ [34] ++ value.flatMap escapeUnit ++ [34]

def separator (destination : Units) (first : Bool) : Units :=
  if !first then destination ++ [44] else destination

def stringField (destination : Units) (key : String) (value : Units) (first : Bool) : Units :=
  quoted (quoted (separator destination first) (text key) ++ [58]) value

def longText (value : Int) : Units := widen (numeral value)

def numberField (destination : Units) (key : String) (value : Int) (first : Bool) :
    Except String Units :=
  if value < 0 then .error (key ++ " must not be negative")
  else .ok (quoted (separator destination first) (text key) ++ [58] ++ longText value)

def booleanField (destination : Units) (key : String) (value first : Bool) : Units :=
  quoted (separator destination first) (text key) ++ [58] ++
    if value then text "true" else text "false"

def openObject : Units := [123]

def finish (payload : Units) : Bytes := encodeUtf8 (payload ++ [125])

def activationConfirmation (proof : ActivationConfirmationProof Units Int) :
    Except String Bytes := do
  requireActivationMode proof.activationMode proof.targetEntitlementId
  requireClientVersion proof.androidClientVersion "androidClientVersion"
  requireDeviceCode proof.androidDeviceCode "androidDeviceCode"
  requireHex proof.androidDeviceProfileSha256 SHA256_CHARACTERS "androidDeviceProfileSha256"
  requireHex proof.androidKeySha256 SHA256_CHARACTERS "androidKeySha256"
  requireHex proof.challengeId HEX_128_CHARACTERS "challengeId"
  requireHex proof.challengeTokenSha256 SHA256_CHARACTERS "challengeTokenSha256"
  requireClientVersion proof.hostClientVersion "hostClientVersion"
  requireDeviceCode proof.hostDeviceCode "hostDeviceCode"
  requireHex proof.hostKeySha256 SHA256_CHARACTERS "hostKeySha256"
  requireHex proof.pairId HEX_128_CHARACTERS "pairId"
  requireProtocolVersion proof.protocolVersion
  requireHex proof.requestId HEX_128_CHARACTERS "requestId"
  let payload := openObject
  let payload := stringField payload "activation_mode" proof.activationMode true
  let payload := stringField payload "android_client_version" proof.androidClientVersion false
  let payload := stringField payload "android_device_code" proof.androidDeviceCode false
  let payload := stringField payload "android_device_profile_sha256"
    proof.androidDeviceProfileSha256 false
  let payload := stringField payload "android_key_sha256" proof.androidKeySha256 false
  let payload := stringField payload "challenge_id" proof.challengeId false
  let payload := stringField payload "challenge_token_sha256" proof.challengeTokenSha256 false
  let payload := stringField payload "domain" ACTIVATION_CONFIRM_DOMAIN false
  let payload := stringField payload "host_client_version" proof.hostClientVersion false
  let payload := stringField payload "host_device_code" proof.hostDeviceCode false
  let payload := stringField payload "host_key_sha256" proof.hostKeySha256 false
  let payload := stringField payload "pair_id" proof.pairId false
  let payload ← numberField payload "protocol_version" proof.protocolVersion false
  let payload := stringField payload "request_id" proof.requestId false
  let payload := stringField payload "target_entitlement_id" proof.targetEntitlementId false
  return finish payload

def usageStartChallenge (proof : UsageStartChallengeProof Units Int) : Except String Bytes := do
  requireCommonUsage proof.entitlementId proof.pairId proof.protocolVersion
    proof.revocationVersion
  requireHex proof.channelBindingSha256 SHA256_CHARACTERS "channelBindingSha256"
  requireHex proof.requestId HEX_128_CHARACTERS "requestId"
  requireHex proof.requestNonce HEX_128_CHARACTERS "requestNonce"
  let payload := openObject
  let payload := stringField payload "channel_binding_sha256" proof.channelBindingSha256 true
  let payload := stringField payload "domain" USAGE_START_CHALLENGE_DOMAIN false
  let payload := stringField payload "entitlement_id" proof.entitlementId false
  let payload := stringField payload "pair_id" proof.pairId false
  let payload ← numberField payload "protocol_version" proof.protocolVersion false
  let payload := stringField payload "request_id" proof.requestId false
  let payload := stringField payload "request_nonce" proof.requestNonce false
  let payload ← numberField payload "revocation_version" proof.revocationVersion false
  return finish payload

def usageStart (proof : UsageStartProof Units Int) : Except String Bytes := do
  requireCommonUsage proof.entitlementId proof.pairId proof.protocolVersion
    proof.revocationVersion
  check (¬(!proof.androidRuntimeReady || !proof.hostRuntimeReady ||
      decide (proof.androidFramesTotal < 0) || decide (proof.hostFramesTotal < 0)))
    "both runtimes must be ready with non-negative baselines"
  requireHex proof.channelBindingSha256 SHA256_CHARACTERS "channelBindingSha256"
  requireHex proof.requestId HEX_128_CHARACTERS "requestId"
  requireHex proof.requestNonce HEX_128_CHARACTERS "requestNonce"
  requireHex proof.startChallengeId HEX_128_CHARACTERS "startChallengeId"
  requireHex proof.startChallengeTokenSha256 SHA256_CHARACTERS "startChallengeTokenSha256"
  let payload := openObject
  let payload ← numberField payload "android_frames_total" proof.androidFramesTotal true
  let payload := booleanField payload "android_runtime_ready" proof.androidRuntimeReady false
  let payload := stringField payload "channel_binding_sha256" proof.channelBindingSha256 false
  let payload := stringField payload "domain" USAGE_START_DOMAIN false
  let payload := stringField payload "entitlement_id" proof.entitlementId false
  let payload ← numberField payload "host_frames_total" proof.hostFramesTotal false
  let payload := booleanField payload "host_runtime_ready" proof.hostRuntimeReady false
  let payload := stringField payload "pair_id" proof.pairId false
  let payload ← numberField payload "protocol_version" proof.protocolVersion false
  let payload := stringField payload "request_id" proof.requestId false
  let payload := stringField payload "request_nonce" proof.requestNonce false
  let payload ← numberField payload "revocation_version" proof.revocationVersion false
  let payload := stringField payload "start_challenge_id" proof.startChallengeId false
  let payload := stringField payload "start_challenge_token_sha256"
    proof.startChallengeTokenSha256 false
  return finish payload

def usageStartCancel (proof : UsageStartCancelProof Units Int) : Except String Bytes := do
  requireCommonUsage proof.entitlementId proof.pairId proof.protocolVersion
    proof.revocationVersion
  requireHex proof.channelBindingSha256 SHA256_CHARACTERS "channelBindingSha256"
  requireHex proof.requestId HEX_128_CHARACTERS "requestId"
  requireHex proof.requestNonce HEX_128_CHARACTERS "requestNonce"
  requireHex proof.startRequestId HEX_128_CHARACTERS "startRequestId"
  let payload := openObject
  let payload := stringField payload "channel_binding_sha256" proof.channelBindingSha256 true
  let payload := stringField payload "domain" USAGE_START_CANCEL_DOMAIN false
  let payload := stringField payload "entitlement_id" proof.entitlementId false
  let payload := stringField payload "pair_id" proof.pairId false
  let payload ← numberField payload "protocol_version" proof.protocolVersion false
  let payload := stringField payload "request_id" proof.requestId false
  let payload := stringField payload "request_nonce" proof.requestNonce false
  let payload ← numberField payload "revocation_version" proof.revocationVersion false
  let payload := stringField payload "start_request_id" proof.startRequestId false
  return finish payload

def usageHeartbeat (proof : UsageHeartbeatProof Units Int) : Except String Bytes := do
  requireCommonUsage proof.entitlementId proof.pairId proof.protocolVersion
    proof.revocationVersion
  check (¬(decide (proof.androidFramesTotal < 0) || decide (proof.hostFramesTotal < 0) ||
      decide (proof.sequence ≤ 0))) "heartbeat counters are invalid"
  requireHex proof.channelBindingSha256 SHA256_CHARACTERS "channelBindingSha256"
  requireHex proof.previousLeaseSha256 SHA256_CHARACTERS "previousLeaseSha256"
  requireHex proof.requestId HEX_128_CHARACTERS "requestId"
  requireHex proof.requestNonce HEX_128_CHARACTERS "requestNonce"
  requireHex proof.sessionId HEX_128_CHARACTERS "sessionId"
  let payload := openObject
  let payload ← numberField payload "android_frames_total" proof.androidFramesTotal true
  let payload := stringField payload "channel_binding_sha256" proof.channelBindingSha256 false
  let payload := stringField payload "domain" USAGE_HEARTBEAT_DOMAIN false
  let payload := stringField payload "entitlement_id" proof.entitlementId false
  let payload ← numberField payload "host_frames_total" proof.hostFramesTotal false
  let payload := stringField payload "pair_id" proof.pairId false
  let payload := stringField payload "previous_lease_sha256" proof.previousLeaseSha256 false
  let payload ← numberField payload "protocol_version" proof.protocolVersion false
  let payload := stringField payload "request_id" proof.requestId false
  let payload := stringField payload "request_nonce" proof.requestNonce false
  let payload ← numberField payload "revocation_version" proof.revocationVersion false
  let payload ← numberField payload "sequence" proof.sequence false
  let payload := stringField payload "session_id" proof.sessionId false
  return finish payload

def usageStop (proof : UsageStopProof Units Int) : Except String Bytes := do
  requireCommonUsage proof.entitlementId proof.pairId proof.protocolVersion
    proof.revocationVersion
  requireHex proof.channelBindingSha256 SHA256_CHARACTERS "channelBindingSha256"
  requireHex proof.previousLeaseSha256 SHA256_CHARACTERS "previousLeaseSha256"
  requireHex proof.requestId HEX_128_CHARACTERS "requestId"
  requireHex proof.requestNonce HEX_128_CHARACTERS "requestNonce"
  requireHex proof.sessionId HEX_128_CHARACTERS "sessionId"
  let payload := openObject
  let payload := stringField payload "channel_binding_sha256" proof.channelBindingSha256 true
  let payload := stringField payload "domain" USAGE_STOP_DOMAIN false
  let payload := stringField payload "entitlement_id" proof.entitlementId false
  let payload := stringField payload "pair_id" proof.pairId false
  let payload := stringField payload "previous_lease_sha256" proof.previousLeaseSha256 false
  let payload ← numberField payload "protocol_version" proof.protocolVersion false
  let payload := stringField payload "request_id" proof.requestId false
  let payload := stringField payload "request_nonce" proof.requestNonce false
  let payload ← numberField payload "revocation_version" proof.revocationVersion false
  let payload := stringField payload "session_id" proof.sessionId false
  return finish payload

def entitlementStatus (proof : EntitlementStatusProof Units Int) : Except String Bytes := do
  requireCommonUsage proof.entitlementId proof.pairId proof.protocolVersion
    proof.revocationVersion
  requireHex proof.requestNonce HEX_128_CHARACTERS "requestNonce"
  let payload := openObject
  let payload := stringField payload "domain" ENTITLEMENT_STATUS_DOMAIN true
  let payload := stringField payload "entitlement_id" proof.entitlementId false
  let payload := stringField payload "pair_id" proof.pairId false
  let payload ← numberField payload "protocol_version" proof.protocolVersion false
  let payload := stringField payload "request_nonce" proof.requestNonce false
  let payload ← numberField payload "revocation_version" proof.revocationVersion false
  return finish payload

def build : SignedProof Units Int → Except String Bytes
  | .activationConfirmation proof => activationConfirmation proof
  | .usageStartChallenge proof => usageStartChallenge proof
  | .usageStart proof => usageStart proof
  | .usageStartCancel proof => usageStartCancel proof
  | .usageHeartbeat proof => usageHeartbeat proof
  | .usageStop proof => usageStop proof
  | .entitlementStatus proof => entitlementStatus proof

/-- The low octet of every unit. -/
def narrow (units : Units) : Bytes := units.map UInt16.toUInt8

theorem narrow_widen (bs : Bytes) : narrow (widen bs) = bs := by
  unfold narrow widen
  rw [List.map_map]
  exact (List.map_congr_left (fun octet _ => UInt8.toUInt8_toUInt16 octet)).trans (List.map_id _)

theorem length_narrow (units : Units) : (narrow units).length = units.length := List.length_map _

theorem widen_narrow {units : Units} (small : ∀ unit ∈ units, unit.toNat < 256) :
    widen (narrow units) = units := by
  induction units with
  | nil => rfl
  | cons unit units ih =>
    have first : unit.toUInt8.toUInt16 = unit := by
      apply UInt16.toNat_inj.mp
      exact Nat.mod_eq_of_lt (small unit List.mem_cons_self)
    change unit.toUInt8.toUInt16 :: widen (narrow units) = unit :: units
    rw [first, ih (fun other mem => small other (List.mem_cons_of_mem _ mem))]

theorem forall_octet {P : UInt8 → Prop} (h : ∀ value : Fin 256, P (UInt8.ofNat value))
    (octet : UInt8) : P octet := by
  have holds := h ⟨octet.toNat, octet.toNat_lt⟩
  rwa [UInt8.ofNat_toNat] at holds

/-- A class of characters that is checked unit by unit is one of octets. -/
structure SameClass (ofUnit : UInt16 → Bool) (ofOctet : UInt8 → Bool) : Prop where
  agrees : ∀ octet : UInt8, ofUnit octet.toUInt16 = ofOctet octet
  small : ∀ unit, ofUnit unit = true → unit.toNat < 256

theorem SameClass.all {ofUnit : UInt16 → Bool} {ofOctet : UInt8 → Bool}
    (same : SameClass ofUnit ofOctet) (units : Units) :
    units.all ofUnit = true ↔
      widen (narrow units) = units ∧ (narrow units).all ofOctet = true := by
  have widened (bs : Bytes) : (widen bs).all ofUnit = bs.all ofOctet := by
    unfold widen
    rw [List.all_map]
    exact congrArg bs.all (funext same.agrees)
  constructor
  · intro all
    have back : widen (narrow units) = units :=
      widen_narrow (fun unit mem => same.small unit (List.all_eq_true.mp all unit mem))
    rw [← back, widened] at all
    exact ⟨back, all⟩
  · rintro ⟨back, all⟩
    rwa [← back, widened]

theorem any_widen {ofUnit : UInt16 → Bool} {ofOctet : UInt8 → Bool}
    (agrees : ∀ octet : UInt8, ofUnit octet.toUInt16 = ofOctet octet) (bs : Bytes) :
    (widen bs).any ofUnit = bs.any ofOctet := by
  unfold widen
  rw [List.any_map]
  exact congrArg bs.any (funext agrees)

theorem sameClass_lowerHex : SameClass isLowerHexUnit isLowerHexDigit where
  agrees := by
    intro octet
    simp [isLowerHexUnit, isLowerHexDigit, UInt16.le_iff_toNat_le, UInt8.le_iff_toNat_le]
  small := by
    intro unit isHex
    simp only [isLowerHexUnit, Bool.or_eq_true, Bool.and_eq_true, decide_eq_true_eq,
      UInt16.le_iff_toNat_le, UInt16.reduceToNat] at isHex
    omega

theorem sameClass_deviceCode : SameClass isDeviceCodeUnit Cpp.isDeviceCodeCharacter where
  agrees := by
    intro octet
    rw [Bool.eq_iff_iff]
    simp [isDeviceCodeUnit, Cpp.isDeviceCodeCharacter, UInt16.le_iff_toNat_le,
      UInt8.le_iff_toNat_le, ← UInt16.toNat_inj, ← UInt8.toNat_inj]
  small := by
    intro unit isCode
    simp only [isDeviceCodeUnit, Bool.or_eq_true, Bool.and_eq_true, decide_eq_true_eq, beq_iff_eq,
      UInt16.le_iff_toNat_le, ← UInt16.toNat_inj, UInt16.reduceToNat] at isCode
    omega

theorem sameClass_clientVersion : SameClass isClientVersionUnit Cpp.isClientVersionCharacter where
  agrees := by
    intro octet
    rw [Bool.eq_iff_iff]
    simp [isClientVersionUnit, isDigitUnit, Cpp.isClientVersionCharacter, isDigit,
      UInt16.le_iff_toNat_le, UInt8.le_iff_toNat_le, ← UInt16.toNat_inj, ← UInt8.toNat_inj]
  small := by
    intro unit isVersion
    simp only [isClientVersionUnit, isDigitUnit, Bool.or_eq_true, Bool.and_eq_true,
      decide_eq_true_eq, beq_iff_eq, UInt16.le_iff_toNat_le, ← UInt16.toNat_inj,
      UInt16.reduceToNat] at isVersion
    omega

theorem any_nonzero (bs : Bytes) : (widen bs).any (· != 48) = bs.any (· != 48) := by
  apply any_widen
  intro octet
  rw [Bool.eq_iff_iff]
  simp [← UInt16.toNat_inj, ← UInt8.toNat_inj]

theorem any_digit (bs : Bytes) : (widen bs).any isDigitUnit = bs.any isDigit := by
  apply any_widen
  intro octet
  simp [isDigitUnit, isDigit, UInt16.le_iff_toNat_le, UInt8.le_iff_toNat_le]

theorem requireHex_eq_ok {value : Units} {length : Nat} {name : String} :
    requireHex value length name = .ok ⟨⟩ ↔
      widen (narrow value) = value ∧ isNonzeroLowerHex (narrow value) length = true := by
  unfold requireHex
  rw [check_bind, check_bind, check_eq_ok, sameClass_lowerHex.all]
  simp only [isNonzeroLowerHex, isLowerHex, Bool.and_eq_true, beq_iff_eq, length_narrow]
  constructor
  · rintro ⟨isLength, ⟨back, all⟩, nonzero⟩
    rw [← back, any_nonzero] at nonzero
    exact ⟨back, ⟨isLength, all⟩, nonzero⟩
  · rintro ⟨back, ⟨isLength, all⟩, nonzero⟩
    rw [← any_nonzero, back] at nonzero
    exact ⟨isLength, ⟨back, all⟩, nonzero⟩

theorem within_length {value : Units} {maximum : Nat} :
    ¬(value.isEmpty || decide (maximum < value.length)) = true ↔
      (!(narrow value).isEmpty) = true ∧ decide ((narrow value).length ≤ maximum) = true := by
  have empty : (narrow value).isEmpty = value.isEmpty := List.isEmpty_map
  rw [empty, length_narrow, Bool.or_eq_true, not_or, decide_eq_true_eq, decide_eq_true_eq, not_lt,
    Bool.not_eq_true', Bool.not_eq_true]

theorem requireDeviceCode_eq_ok {value : Units} {name : String} :
    requireDeviceCode value name = .ok ⟨⟩ ↔
      widen (narrow value) = value ∧ Cpp.isDeviceCode (narrow value) = true := by
  unfold requireDeviceCode
  rw [check_bind, check_eq_ok, sameClass_deviceCode.all, within_length]
  simp only [Cpp.isDeviceCode, Bool.and_eq_true]
  constructor
  · rintro ⟨isLength, back, all⟩
    exact ⟨back, isLength, all⟩
  · rintro ⟨back, isLength, all⟩
    exact ⟨isLength, back, all⟩

theorem requireClientVersion_eq_ok {value : Units} {name : String} :
    requireClientVersion value name = .ok ⟨⟩ ↔
      widen (narrow value) = value ∧ Cpp.isClientVersion (narrow value) = true := by
  unfold requireClientVersion
  rw [check_bind, check_bind, check_eq_ok, sameClass_clientVersion.all, within_length]
  simp only [Cpp.isClientVersion, Bool.and_eq_true]
  constructor
  · rintro ⟨isLength, ⟨back, all⟩, digit⟩
    rw [← back, any_digit] at digit
    exact ⟨back, ⟨isLength, all⟩, digit⟩
  · rintro ⟨back, ⟨isLength, all⟩, digit⟩
    rw [← any_digit, back] at digit
    exact ⟨isLength, ⟨back, all⟩, digit⟩

theorem eq_text_iff {literal : String} {value : Units} :
    text literal = value ↔ widen (narrow value) = value ∧ narrow value = ascii literal := by
  constructor
  · rintro rfl
    exact ⟨by rw [text, narrow_widen], narrow_widen _⟩
  · rintro ⟨back, same⟩
    rw [text, ← same, back]

theorem requireActivationMode_eq_ok {activationMode targetEntitlementId : Units} :
    requireActivationMode activationMode targetEntitlementId = .ok ⟨⟩ ↔
      (widen (narrow activationMode) = activationMode ∧
        widen (narrow targetEntitlementId) = targetEntitlementId) ∧
      Cpp.isActivationTargetValid (narrow activationMode) (narrow targetEntitlementId) = true := by
  have empty : (narrow targetEntitlementId).isEmpty = targetEntitlementId.isEmpty :=
    List.isEmpty_map
  unfold requireActivationMode Cpp.isActivationTargetValid
  by_cases initial : ACTIVATION_MODE_ACTIVATE = activationMode
  · obtain ⟨-, isMode⟩ := eq_text_iff.mp initial
    rw [if_pos initial, check_eq_ok, isMode]
    simp only [Cpp.kInitialActivationMode, beq_self_eq_true, if_true, empty]
    constructor
    · intro isEmpty
      rw [List.isEmpty_iff.mp isEmpty]
      exact ⟨⟨initial, rfl⟩, rfl⟩
    · exact And.right
  · rw [if_neg initial, check_bind, requireHex_eq_ok]
    simp only [ACTIVATION_MODE_REACTIVATE, ACTIVATION_MODE_BIND_DEVICE, eq_text_iff]
    have other (back : widen (narrow activationMode) = activationMode) :
        (narrow activationMode == Cpp.kInitialActivationMode) = false := by
      rw [beq_eq_false_iff_ne]
      intro same
      exact initial (eq_text_iff.mpr ⟨back, same⟩)
    constructor
    · rintro ⟨mode, back, hex⟩
      have backMode : widen (narrow activationMode) = activationMode :=
        mode.elim And.left And.left
      rw [other backMode]
      refine ⟨⟨backMode, back⟩, ?_⟩
      simp only [Bool.false_eq_true, if_false, Bool.and_eq_true, Bool.or_eq_true, beq_iff_eq]
      exact ⟨mode.imp And.right And.right, hex⟩
    · rintro ⟨⟨backMode, back⟩, valid⟩
      rw [other backMode] at valid
      simp only [Bool.false_eq_true, if_false, Bool.and_eq_true, Bool.or_eq_true,
        beq_iff_eq] at valid
      exact ⟨valid.1.imp (fun same => ⟨backMode, same⟩) (fun same => ⟨backMode, same⟩), back,
        valid.2⟩

theorem requireProtocolVersion_eq_ok {protocolVersion : Int} :
    requireProtocolVersion protocolVersion = .ok ⟨⟩ ↔
      Int.ofNat protocolVersion.toNat = protocolVersion ∧
        (protocolVersion.toNat == kUsageAuthorizationProtocolVersion) = true := by
  unfold requireProtocolVersion
  rw [check_eq_ok, beq_iff_eq]
  simp only [PROTOCOL_VERSION, kUsageAuthorizationProtocolVersion, Int.ofNat_eq_natCast]
  omega

theorem requireCommonUsage_eq_ok {entId pairId : Units}
    {protocolVersion revocationVersion : Int} :
    requireCommonUsage entId pairId protocolVersion revocationVersion = .ok ⟨⟩ ↔
      (widen (narrow entId) = entId ∧ widen (narrow pairId) = pairId ∧
        Int.ofNat protocolVersion.toNat = protocolVersion ∧
        Int.ofNat revocationVersion.toNat = revocationVersion) ∧
      Cpp.commonUsageFieldsValid (narrow entId) (narrow pairId) protocolVersion.toNat
        revocationVersion.toNat = true := by
  unfold requireCommonUsage Cpp.commonUsageFieldsValid
  rw [bind_unit_eq_ok, bind_unit_eq_ok, bind_unit_eq_ok, check_eq_ok, requireHex_eq_ok,
    requireHex_eq_ok, requireProtocolVersion_eq_ok]
  simp only [Bool.and_eq_true, decide_eq_true_eq]
  constructor
  · rintro ⟨⟨backE, hexE⟩, ⟨backP, hexP⟩, ⟨backV, isV⟩, pos⟩
    refine ⟨⟨backE, backP, backV, ?_⟩, ⟨⟨hexE, hexP⟩, isV⟩, ?_⟩
    · rw [Int.ofNat_eq_natCast]
      omega
    · omega
  · rintro ⟨⟨backE, backP, backV, _⟩, ⟨⟨hexE, hexP⟩, isV⟩, pos⟩
    exact ⟨⟨backE, hexE⟩, ⟨backP, hexP⟩, ⟨backV, isV⟩, by omega⟩

theorem baselines_iff {android host : Bool} {androidFrames hostFrames : Int} :
    ¬(!android || !host || decide (androidFrames < 0) || decide (hostFrames < 0)) = true ↔
      android = true ∧ host = true ∧ Int.ofNat androidFrames.toNat = androidFrames ∧
        Int.ofNat hostFrames.toNat = hostFrames := by
  simp only [Bool.or_eq_true, Bool.not_eq_true', decide_eq_true_eq, not_or, Bool.not_eq_false,
    Int.ofNat_eq_natCast, and_assoc]
  constructor
  · rintro ⟨android, host, androidFrames, hostFrames⟩
    exact ⟨android, host, by omega, by omega⟩
  · rintro ⟨android, host, androidFrames, hostFrames⟩
    exact ⟨android, host, by omega, by omega⟩

theorem counters_iff {androidFrames hostFrames seq : Int} :
    ¬(decide (androidFrames < 0) || decide (hostFrames < 0) || decide (seq ≤ 0)) = true ↔
      seq.toNat ≠ 0 ∧ Int.ofNat androidFrames.toNat = androidFrames ∧
        Int.ofNat hostFrames.toNat = hostFrames ∧ Int.ofNat seq.toNat = seq := by
  simp only [Bool.or_eq_true, decide_eq_true_eq, not_or, Int.ofNat_eq_natCast, and_assoc]
  omega

/-- What the phone accepts is within ASCII and valid for the host. -/
theorem valid_of_build {proof : SignedProof Units Int} {payload : Bytes}
    (ok : build proof = .ok payload) :
    (proof.map narrow Int.toNat).map widen Int.ofNat = proof ∧
      Cpp.valid (proof.map narrow Int.toNat) = true := by
  cases proof
  all_goals
    rename_i proof
    cases proof
    simp only [build, activationConfirmation, usageStartChallenge, usageStart, usageStartCancel,
      usageHeartbeat, usageStop, entitlementStatus, bind_unit_eq_ok, requireActivationMode_eq_ok,
      requireClientVersion_eq_ok, requireDeviceCode_eq_ok, requireHex_eq_ok,
      requireProtocolVersion_eq_ok, requireCommonUsage_eq_ok, check_eq_ok, baselines_iff,
      counters_iff, HEX_128_CHARACTERS, SHA256_CHARACTERS] at ok
    constructor
    · simp only [SignedProof.map, ActivationConfirmationProof.map, UsageStartChallengeProof.map,
        UsageStartProof.map, UsageStartCancelProof.map, UsageHeartbeatProof.map, UsageStopProof.map,
        EntitlementStatusProof.map, ok]
    · simp only [Cpp.valid, Cpp.activationConfirmationValid, Cpp.usageStartChallengeValid,
        Cpp.usageStartValid, Cpp.usageStartCancelValid, Cpp.usageHeartbeatValid,
        Cpp.usageStopValid, Cpp.entitlementStatusValid, SignedProof.map,
        ActivationConfirmationProof.map, UsageStartChallengeProof.map, UsageStartProof.map,
        UsageStartCancelProof.map, UsageHeartbeatProof.map, UsageStopProof.map,
        EntitlementStatusProof.map, Bool.and_eq_true, bne_iff_ne, Cpp.kHex128Characters,
        Cpp.kSha256Characters, ok, and_self, ne_eq, not_false_eq_true]

theorem escapeUnit_widen (octet : UInt8) : escapeUnit octet.toUInt16 = widen (escape octet) :=
  forall_octet (P := fun octet => escapeUnit octet.toUInt16 = widen (escape octet))
    (by decide +kernel) octet

theorem quoted_widen (dst value : Bytes) :
    quoted (widen dst) (widen value) = widen (dst ++ quote value) := by
  have flat : (widen value).flatMap escapeUnit = widen (value.flatMap escape) := by
    induction value with
    | nil => rfl
    | cons octet value ih =>
      rw [widen_cons, List.flatMap_cons, List.flatMap_cons, escapeUnit_widen, ih, widen_append]
  rw [quoted, flat, quote]
  simp

theorem separator_widen (dst : Bytes) (first : Bool) :
    separator (widen dst) first = widen (dst ++ Cpp.separator first) := by
  cases first <;> simp [separator, Cpp.separator]

theorem stringField_widen (dst : Bytes) (key : String) (value : Bytes) (first : Bool) :
    stringField (widen dst) key (widen value) first =
      widen (Cpp.appendStringField dst key value first) := by
  have colon (bs : Bytes) : widen bs ++ [58] = widen (bs ++ [58]) := by simp
  rw [stringField, separator_widen, text, quoted_widen, colon, quoted_widen]
  rfl

theorem numberField_widen (dst : Bytes) (key : String) (value : Nat) (first : Bool) :
    numberField (widen dst) key (Int.ofNat value) first =
      .ok (widen (Cpp.appendUnsignedField dst key value first)) := by
  rw [numberField, if_neg (by simp), separator_widen, text, quoted_widen]
  simp [Cpp.appendUnsignedField, longText, numeral]

theorem booleanField_widen (dst : Bytes) (key : String) (value first : Bool) :
    booleanField (widen dst) key value first =
      widen (Cpp.appendBooleanField dst key value first) := by
  rw [booleanField, separator_widen, text, quoted_widen]
  cases value <;> simp [Cpp.appendBooleanField, text]

theorem openObject_widen : openObject = widen [123] := rfl

theorem requireHex128_widen {value : Bytes} (name : String)
    (h : isNonzeroLowerHex value Cpp.kHex128Characters = true) :
    requireHex (widen value) HEX_128_CHARACTERS name = .ok ⟨⟩ :=
  requireHex_eq_ok.mpr ⟨by rw [narrow_widen], by rw [narrow_widen]; exact h⟩

theorem requireSha256_widen {value : Bytes} (name : String)
    (h : isNonzeroLowerHex value Cpp.kSha256Characters = true) :
    requireHex (widen value) SHA256_CHARACTERS name = .ok ⟨⟩ :=
  requireHex_eq_ok.mpr ⟨by rw [narrow_widen], by rw [narrow_widen]; exact h⟩

theorem requireDeviceCode_widen {value : Bytes} (name : String)
    (h : Cpp.isDeviceCode value = true) : requireDeviceCode (widen value) name = .ok ⟨⟩ :=
  requireDeviceCode_eq_ok.mpr ⟨by rw [narrow_widen], by rw [narrow_widen]; exact h⟩

theorem requireClientVersion_widen {value : Bytes} (name : String)
    (h : Cpp.isClientVersion value = true) : requireClientVersion (widen value) name = .ok ⟨⟩ :=
  requireClientVersion_eq_ok.mpr ⟨by rw [narrow_widen], by rw [narrow_widen]; exact h⟩

theorem requireActivationMode_widen {activationMode targetEntitlementId : Bytes}
    (h : Cpp.isActivationTargetValid activationMode targetEntitlementId = true) :
    requireActivationMode (widen activationMode) (widen targetEntitlementId) = .ok ⟨⟩ :=
  requireActivationMode_eq_ok.mpr ⟨by simp only [narrow_widen, and_self],
    by rw [narrow_widen, narrow_widen]; exact h⟩

theorem requireProtocolVersion_ofNat {protocolVersion : Nat}
    (h : (protocolVersion == kUsageAuthorizationProtocolVersion) = true) :
    requireProtocolVersion (Int.ofNat protocolVersion) = .ok ⟨⟩ :=
  requireProtocolVersion_eq_ok.mpr ⟨rfl, h⟩

theorem requireCommonUsage_widen {entId pairId : Bytes}
    {protocolVersion revocationVersion : Nat}
    (h : Cpp.commonUsageFieldsValid entId pairId protocolVersion revocationVersion = true) :
    requireCommonUsage (widen entId) (widen pairId) (Int.ofNat protocolVersion)
      (Int.ofNat revocationVersion) = .ok ⟨⟩ :=
  requireCommonUsage_eq_ok.mpr ⟨⟨by rw [narrow_widen], by rw [narrow_widen], rfl, rfl⟩,
    by rw [narrow_widen, narrow_widen]; exact h⟩

theorem baselines_ofNat {android host : Bool} {androidFrames hostFrames : Nat} {error : String}
    (isAndroid : android = true) (isHost : host = true) :
    check (¬(!android || !host || decide (Int.ofNat androidFrames < 0) ||
      decide (Int.ofNat hostFrames < 0))) error = .ok ⟨⟩ :=
  if_pos (baselines_iff.mpr ⟨isAndroid, isHost, rfl, rfl⟩)

theorem counters_ofNat {androidFrames hostFrames seq : Nat} {error : String}
    (pos : seq ≠ 0) :
    check (¬(decide (Int.ofNat androidFrames < 0) || decide (Int.ofNat hostFrames < 0) ||
      decide (Int.ofNat seq ≤ 0))) error = .ok ⟨⟩ :=
  if_pos ((@counters_iff (Int.ofNat androidFrames) (Int.ofNat hostFrames)
    (Int.ofNat seq)).mpr ⟨pos, rfl, rfl, rfl⟩)

theorem ok_bind {α β : Type} (value : α) (next : α → Except String β) :
    ((.ok value : Except String α) >>= next) = next value := rfl

/-- What the host builds, the phone builds from the same fields. -/
theorem build_widen {proof : SignedProof Bytes Nat} {payload : Bytes}
    (built : Cpp.build proof = some payload) :
    build (proof.map widen Int.ofNat) = .ok (encodeUtf8 (widen payload)) := by
  cases proof
  all_goals
    simp only [Cpp.build, Cpp.buildActivationConfirmationPayload,
      Cpp.buildUsageStartChallengePayload, Cpp.buildUsageStartPayload,
      Cpp.buildUsageStartCancelPayload, Cpp.buildUsageHeartbeatPayload, Cpp.buildUsageStopPayload,
      Cpp.buildEntitlementStatusPayload] at built
    split at built
    · cases built
    rename_i isValid
    simp only [Cpp.activationConfirmationValid, Cpp.usageStartChallengeValid, Cpp.usageStartValid,
      Cpp.usageStartCancelValid, Cpp.usageHeartbeatValid, Cpp.usageStopValid,
      Cpp.entitlementStatusValid, Bool.not_eq_true', Bool.not_eq_false, Bool.and_eq_true,
      bne_iff_ne] at isValid
    rw [← Option.some.inj built]
    -- every check of the phone is one that the host has made
    simp only [build, activationConfirmation, usageStartChallenge, usageStart, usageStartCancel,
      usageHeartbeat, usageStop, entitlementStatus, SignedProof.map,
      ActivationConfirmationProof.map, UsageStartChallengeProof.map, UsageStartProof.map,
      UsageStartCancelProof.map, UsageHeartbeatProof.map, UsageStopProof.map,
      EntitlementStatusProof.map, requireActivationMode_widen, requireClientVersion_widen,
      requireDeviceCode_widen, requireSha256_widen, requireHex128_widen,
      requireProtocolVersion_ofNat, requireCommonUsage_widen, baselines_ofNat, counters_ofNat,
      isValid, ne_eq, not_false_eq_true, ok_bind]
    -- and the text is the host's, octet by octet
    simp only [ACTIVATION_CONFIRM_DOMAIN, USAGE_START_CHALLENGE_DOMAIN, USAGE_START_DOMAIN,
      USAGE_START_CANCEL_DOMAIN, USAGE_HEARTBEAT_DOMAIN, USAGE_STOP_DOMAIN,
      ENTITLEMENT_STATUS_DOMAIN, text, openObject_widen, stringField_widen, numberField_widen,
      booleanField_widen, ok_bind, finish, widen_append]
    rfl

theorem build_iff {proof : SignedProof Units Int} {payload : Bytes} :
    build proof = .ok payload ↔
      ∃ host, proof = host.map widen Int.ofNat ∧ Cpp.build host = some payload := by
  have ofHost {host : SignedProof Bytes Nat} {payload : Bytes}
      (built : Cpp.build host = some payload) :
      build (host.map widen Int.ofNat) = .ok payload := by
    rw [build_widen built, encodeUtf8_widen (Cpp.isAscii_build built)]
  constructor
  · intro ok
    obtain ⟨back, isValid⟩ := valid_of_build ok
    have built := Cpp.build_eq (proof.map narrow Int.toNat)
    rw [if_pos isValid] at built
    have ans := ofHost built
    rw [back, ok] at ans
    rw [← Except.ok.inj ans] at built
    exact ⟨proof.map narrow Int.toNat, back.symm, built⟩
  · rintro ⟨host, rfl, built⟩
    exact ofHost built

theorem build_injective {first second : SignedProof Units Int} {payload : Bytes}
    (builtFirst : build first = .ok payload) (builtSecond : build second = .ok payload) :
    first = second := by
  obtain ⟨host, rfl, built⟩ := build_iff.mp builtFirst
  obtain ⟨host', rfl, built'⟩ := build_iff.mp builtSecond
  rw [Cpp.build_injective built built']

end VisionForge.SignedPayload.Java
