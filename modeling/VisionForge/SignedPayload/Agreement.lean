import VisionForge.SignedPayload.JavaBuilders
import VisionForge.SignedPayload.PythonBuilders

/-! # One payload for every command

The Host, the phone and the server each build the octets that are signed. The Host and the
phone take the proof of a command, the server the command itself; a text is in UTF-8 for
the Host, in UTF-16 for the phone.
-/

namespace VisionForge.SignedPayload

open Lib.Ascii Lib.Checks Lib.FlatJson Lib.Utf UsageLease

inductive Language where
  | cpp
  | java
  | python

/-- What a program signs for a command, if it accepts it. -/
def payloadIn (crypto : Cryptography) (command : SignedCommand Text Nat) : Language → Option Bytes
  | .cpp => Cpp.build ((Python.proofOf crypto command).map utf8 id)
  | .java => (Java.build ((Python.proofOf crypto command).map utf16 Int.ofNat)).toOption
  | .python => (Python.build crypto (command.map Int.ofNat)).toOption

inductive Built (crypto : Cryptography) : Kind → Bytes → Prop where
  | cpp {proof : SignedProof Bytes Nat} {payload : Bytes}
      (built : Cpp.build proof = some payload) : Built crypto (kindOf proof) payload
  | java {proof : SignedProof Units Int} {payload : Bytes}
      (built : Java.build proof = .ok payload) : Built crypto (kindOf proof) payload
  | python {command : SignedCommand Text Int} {payload : Bytes}
      (built : Python.build crypto command = .ok payload) : Built crypto command.kind payload

section

variable {proof : SignedProof Text Nat} {payload : Bytes}

theorem utf16_eq_widen (isAscii : ∀ value ∈ proof.texts, IsAscii (utf8 value)) :
    proof.map utf16 Int.ofNat = (proof.map utf8 id).map widen Int.ofNat := by
  rw [SignedProof.map_map]
  apply SignedProof.map_congr
  intro value mem
  exact utf16_of_ascii (isAscii value mem)

theorem host_eq {host : SignedProof Bytes Nat} (isAscii : ∀ value ∈ host.texts, IsAscii value)
    (same : proof.map utf16 Int.ofNat = host.map widen Int.ofNat) : host = proof.map utf8 id := by
  have narrowed : host = (proof.map utf16 Int.ofNat).map Java.narrow Int.toNat := by
    rw [same, SignedProof.map_map]
    simp only [Java.narrow_widen]
    cases host <;> rfl
  rw [narrowed, SignedProof.map_map]
  apply SignedProof.map_congr
  intro value mem
  have units : utf16 value ∈ (host.map widen Int.ofNat).texts := by
    rw [← same, SignedProof.texts_map]
    exact List.mem_map_of_mem mem
  rw [SignedProof.texts_map] at units
  obtain ⟨octets, isText, isWidened⟩ := List.mem_map.mp units
  rw [← isWidened, Java.narrow_widen, utf8_of_ascii (isAscii octets isText) isWidened.symm]

theorem cpp_iff_java :
    Cpp.build (proof.map utf8 id) = some payload ↔
      Java.build (proof.map utf16 Int.ofNat) = .ok payload := by
  rw [Java.build_iff]
  constructor
  · intro built
    have isAscii := Cpp.isAscii_texts (Cpp.valid_of_build built).1
    rw [SignedProof.texts_map, List.forall_mem_map] at isAscii
    exact ⟨_, utf16_eq_widen isAscii, built⟩
  · rintro ⟨host, same, built⟩
    rw [← host_eq (Cpp.isAscii_texts (Cpp.valid_of_build built).1) same]
    exact built

end

section

variable {crypto : Cryptography} {payload : Bytes}

theorem isActivationTargetValid_nil (targetEntitlementId : Bytes) :
    Cpp.isActivationTargetValid [] targetEntitlementId = false := by
  have first : (([] : Bytes) == Cpp.kInitialActivationMode) = false := by decide
  have snd : (([] : Bytes) == Cpp.kReactivationMode) = false := by decide
  have third : (([] : Bytes) == Cpp.kDeviceBindingActivationMode) = false := by decide
  simp [Cpp.isActivationTargetValid, first, snd, third]

theorem withDefaultMode_of_valid {proof : SignedProof Text Nat}
    (isValid : Cpp.valid (proof.map utf8 id) = true) : Python.withDefaultMode proof = proof := by
  cases proof with
  | activationConfirmation proof =>
    cases mode : proof.activationMode with
    | nil =>
      simp [SignedProof.map, ActivationConfirmationProof.map, Cpp.valid,
        Cpp.activationConfirmationValid, mode, utf8, isActivationTargetValid_nil] at isValid
    | cons c rest =>
      have nonempty : proof.activationMode.isEmpty = false := by rw [mode, List.isEmpty_cons]
      simp [Python.withDefaultMode, Python.orDefault, nonempty]
  | usageStartChallenge | usageStart | usageStartCancel | usageHeartbeat | usageStop
  | entitlementStatus => rfl

theorem signed_map (cmd : SignedCommand Text Nat) :
    (Python.withDefaultMode (Python.proofOf crypto (cmd.map Int.ofNat))).map utf8 id =
      ((Python.withDefaultMode (Python.proofOf crypto cmd)).map utf8 id).map id Int.ofNat := by
  cases cmd <;> rfl

theorem cpp_eq_python {cmd : SignedCommand Text Nat} {serverPayload : Bytes}
    (built : Cpp.build ((Python.proofOf crypto cmd).map utf8 id) = some payload)
    (serverBuilt : Python.build crypto (cmd.map Int.ofNat) = .ok serverPayload) :
    payload = serverPayload := by
  obtain ⟨isValid, isRendered⟩ := Cpp.valid_of_build built
  rw [Python.payload_eq serverBuilt, Python.signedMembers, signed_map,
    withDefaultMode_of_valid isValid, isRendered]

theorem kindOf_signed (cmd : SignedCommand Text Int) :
    kindOf ((Python.withDefaultMode (Python.proofOf crypto cmd)).map utf8 id) = cmd.kind := by
  cases cmd <;> rfl

theorem kindOf_map {τ τ' ν ν' : Type} (text : τ → τ') (number : ν → ν') (proof : SignedProof τ ν) :
    kindOf (proof.map text number) = kindOf proof := by
  cases proof <;> rfl

theorem Built.members {kind : Kind} (built : Built crypto kind payload) :
    ∃ proof, payload = render (membersOf proof) ∧ kindOf proof = kind := by
  cases built with
  | cpp built => exact ⟨_, (Cpp.valid_of_build built).2, kindOf_map _ _ _⟩
  | java built =>
    obtain ⟨host, rfl, hostBuilt⟩ := Java.build_iff.mp built
    refine ⟨_, (Cpp.valid_of_build hostBuilt).2, ?_⟩
    rw [kindOf_map, kindOf_map]
  | python built => exact ⟨_, Python.payload_eq built, kindOf_signed _⟩

theorem Built.kind_eq {kind kind' : Kind} (built : Built crypto kind payload)
    (built' : Built crypto kind' payload) : kind = kind' := by
  obtain ⟨proof, isRendered, rfl⟩ := built.members
  obtain ⟨proof', isRendered', rfl⟩ := built'.members
  exact kindOf_eq (render_injective (isRendered.symm.trans isRendered'))

theorem payloadIn_java {cmd : SignedCommand Text Nat} :
    payloadIn crypto cmd .java = payloadIn crypto cmd .cpp := by
  apply Option.ext
  intro payload
  rw [payloadIn, payloadIn, toOption_eq_some]
  exact cpp_iff_java.symm

theorem payloadIn_eq {cmd : SignedCommand Text Nat} {language : Language} {serverPayload : Bytes}
    (built : payloadIn crypto cmd language = some payload)
    (serverBuilt : payloadIn crypto cmd .python = some serverPayload) :
    payload = serverPayload := by
  cases language with
  | cpp => exact cpp_eq_python built (toOption_eq_some.mp serverBuilt)
  | java =>
    rw [payloadIn_java] at built
    exact cpp_eq_python built (toOption_eq_some.mp serverBuilt)
  | python => exact Option.some.inj (built.symm.trans serverBuilt)

end

/-- The builders agree, and a payload tells what was signed and by which command. -/
structure PayloadsAgree (crypto : Cryptography) : Prop where
  /-- The Host and the phone accept the same proofs. -/
  sameAcceptance : ∀ (proof : SignedProof Text Nat) (payload : Bytes),
    Cpp.build (proof.map utf8 id) = some payload ↔
      Java.build (proof.map utf16 Int.ofNat) = .ok payload
  /-- Of all units and numbers the phone can hold, it accepts those of a proof of the Host. -/
  sameProofs : ∀ (proof : SignedProof Units Int) (payload : Bytes),
    Java.build proof = .ok payload ↔
      ∃ host, proof = host.map widen Int.ofNat ∧ Cpp.build host = some payload
  sameBytes : ∀ (command : SignedCommand Text Nat) (first second : Language)
    (payload payload' : Bytes), payloadIn crypto command first = some payload →
      payloadIn crypto command second = some payload' → payload = payload'
  cppInjective : ∀ (first second : SignedProof Bytes Nat) (payload : Bytes),
    Cpp.build first = some payload → Cpp.build second = some payload → first = second
  javaInjective : ∀ (first second : SignedProof Units Int) (payload : Bytes),
    Java.build first = .ok payload → Java.build second = .ok payload → first = second
  /-- The server's payload tells the proof it signs, where an empty mode is `activate`. -/
  pythonInjective : ∀ (first second : SignedCommand Text Int) (payload : Bytes),
    Python.build crypto first = .ok payload → Python.build crypto second = .ok payload →
      Python.withDefaultMode (Python.proofOf crypto first) =
        Python.withDefaultMode (Python.proofOf crypto second)
  distinctKinds : ∀ (kind kind' : Kind) (payload : Bytes),
    Built crypto kind payload → Built crypto kind' payload → kind = kind'

theorem payloads_agree (crypto : Cryptography) : PayloadsAgree crypto where
  sameAcceptance := fun _ _ => cpp_iff_java
  sameProofs := fun _ _ => Java.build_iff
  sameBytes := by
    intro cmd first second payload payload' built built'
    cases second with
    | python => exact payloadIn_eq built built'
    | cpp =>
      cases first with
      | python => exact (payloadIn_eq built' built).symm
      | cpp => exact Option.some.inj (built.symm.trans built')
      | java => exact Option.some.inj (built.symm.trans (payloadIn_java.trans built'))
    | java =>
      cases first with
      | python => exact (payloadIn_eq built' built).symm
      | cpp => exact Option.some.inj (built.symm.trans (payloadIn_java.symm.trans built'))
      | java => exact Option.some.inj (built.symm.trans built')
  cppInjective := fun _ _ _ => Cpp.build_injective
  javaInjective := fun _ _ _ => Java.build_injective
  pythonInjective := fun _ _ _ => Python.signed_of_build
  distinctKinds := fun _ _ _ => Built.kind_eq

/-- A challenge for the first activation, with its mode written out or left empty. -/
def firstActivation (activationMode : Text) : SignedCommand Text Int :=
  .activationConfirmation
    { activationMode := activationMode
      androidClientVersion := "1.0.0".toList
      androidDeviceCode := "PHONE-1".toList
      androidDeviceProfileJson := ['\x7b', '\x7d']
      androidKeySha256 := List.replicate 64 'b'
      challengeId := List.replicate 32 'c'
      challengeToken := "token".toList
      hostClientVersion := "1.0.0".toList
      hostDeviceCode := "HOST-1".toList
      hostKeySha256 := List.replicate 64 'a'
      pairId := List.replicate 32 'd'
      protocolVersion := 2
      requestId := List.replicate 32 'e'
      targetEntitlementId := [] }

theorem server_builder_not_injective :
    ¬ ∀ (first second : SignedCommand Text Int) (payload : Bytes),
      Python.build concreteCryptography first = .ok payload →
        Python.build concreteCryptography second = .ok payload → first = second := by
  intro injective
  have accepted : (Python.build concreteCryptography (firstActivation [])).toOption.isSome = true := by
    decide +kernel
  obtain ⟨payload, isPayload⟩ := Option.isSome_iff_exists.mp accepted
  have built := toOption_eq_some.mp isPayload
  -- the empty mode is replaced before the checks
  have builtToo : Python.build concreteCryptography (firstActivation "activate".toList) =
      .ok payload := built
  have same := injective _ _ payload built builtToo
  exact absurd same (by decide)

end VisionForge.SignedPayload
