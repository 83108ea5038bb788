import VisionForge.Lib.Ascii
import VisionForge.Lib.Sha256

/-! # Key schedule and key confirmation of the peer handshake, version 1

The traffic keys, the two Finished keys and the exporter are expanded from one secret that
is bound to the transcript. They are released only once the Finished of the peer was
verified. The platform's primitives are a parameter; a call may fail, and then the caller
hands in the error of the platform as `failure`.
-/

namespace VisionForge.Handshake

open Lib.Ascii

def kPeerHandshakeSha256Bytes : Nat := 32
def kPeerHandshakeDataPlaneMaterialBytes : Nat := 36

def kFinishedProofDomain : Bytes := ascii "VFDUAL/PEER-HS/V1/finished-proof"
def kChannelBindingDomain : Bytes := ascii "visionforge-peer-channel-binding-v1"
def kControlHostToAndroidLabel : Bytes := ascii "VFDUAL/PEER-HS/V1/control/host-to-android"
def kControlAndroidToHostLabel : Bytes := ascii "VFDUAL/PEER-HS/V1/control/android-to-host"
def kPresenceHostToAndroidLabel : Bytes := ascii "VFDUAL/PEER-HS/V1/presence/host-to-android"
def kVideoHostToAndroidLabel : Bytes := ascii "VFDUAL/PEER-HS/V1/video/host-to-android"
def kIdrAndroidToHostLabel : Bytes := ascii "VFDUAL/PEER-HS/V1/idr/android-to-host"
def kMouseHostToAndroidLabel : Bytes := ascii "VFDUAL/PEER-HS/V1/mouse/host-to-android"
def kFinishedHostLabel : Bytes := ascii "VFDUAL/PEER-HS/V1/finished/host"
def kFinishedAndroidLabel : Bytes := ascii "VFDUAL/PEER-HS/V1/finished/android"
def kChannelBindingExporterLabel : Bytes := ascii "VFDUAL/PEER-HS/V1/channel-binding-exporter"

inductive PeerHandshakeRole where
  | host
  | android
  | unrecognised (value : UInt8)
  deriving DecidableEq

def PeerHandshakeRole.value : PeerHandshakeRole → UInt8
  | .host => 1
  | .android => 2
  | .unrecognised value => value

inductive PeerHandshakeErrorCode where
  | allocationFailed
  | invalidEphemeralPublicKey
  | invalidRole
  | pairBindingRequiredForKeyDerivation
  | ephemeralPrivateKeyAlreadyConsumed
  | localEphemeralKeyMismatch
  | pendingConfirmationClosed
  | localFinishedNotGenerated
  | peerFinishedAuthenticationFailed
  | platformCryptoUnavailable
  | cryptoProviderFailed
  | cryptoOperationFailed
  | hkdfOutputTooLarge
  deriving DecidableEq

inductive PeerHandshakeNativeStatusDomain where
  | none
  | bcryptNtstatus
  deriving DecidableEq

structure PeerHandshakeError where
  code : PeerHandshakeErrorCode
  nativeDomain : PeerHandshakeNativeStatusDomain := .none
  nativeStatus : UInt32 := 0
  fieldTag : UInt8 := 0xff
  operation : String
  deriving DecidableEq

def protocolError (code : PeerHandshakeErrorCode) (operation : String)
    (fieldTag : UInt8 := 0xff) : PeerHandshakeError where
  code := code
  fieldTag := fieldTag
  operation := operation

structure PlatformCryptography where
  sha256Bytes : Bytes → Bytes
  hmacSha256Bytes : (key input : Bytes) → Bytes
  hkdfExpandSha256 : (prk asciiInfo : Bytes) → (size : Nat) → Bytes
  /-- The raw secret of a private key and a public one, least significant octet first. -/
  secretAgreement : (privateKey publicKey : Bytes) → Except PeerHandshakeError Bytes

/-- The fields of a canonical transcript that the key schedule reads. -/
structure PeerHandshakeTranscriptFields where
  hostIdentitySpkiSha256 : Bytes
  androidIdentitySpkiSha256 : Bytes
  hostEphemeralPublicKey : Bytes
  androidEphemeralPublicKey : Bytes
  connectionId : UInt64
  sessionGeneration : UInt64
  pairId : Bytes

structure CanonicalPeerHandshakeTranscriptV1 where
  fields : PeerHandshakeTranscriptFields
  transcriptSha256 : Bytes

structure ConfirmedPeerHandshakeBindingV1 where
  pairId : Bytes
  hostIdentitySpkiSha256 : Bytes
  androidIdentitySpkiSha256 : Bytes
  connectionId : UInt64
  sessionGeneration : UInt64
  transcriptSha256 : Bytes
  channelBindingSha256 : Bytes
  deriving DecidableEq

structure ConfirmedPeerHandshakeSessionV1 where
  localRole : PeerHandshakeRole
  binding : ConfirmedPeerHandshakeBindingV1
  controlHostToAndroid : Bytes
  controlAndroidToHost : Bytes
  presenceHostToAndroid : Bytes
  videoHostToAndroid : Bytes
  idrAndroidToHost : Bytes
  mouseHostToAndroid : Bytes
  finishedHost : Bytes
  finishedAndroid : Bytes
  channelBindingExporter : Bytes
  deriving DecidableEq

def constantTimeEqual (left right : Bytes) : Bool :=
  if left.length ≠ right.length then false
  else ((left.zip right).foldl (fun difference pair => difference ||| (pair.1 ^^^ pair.2)) 0) == 0

section

variable (crypto : PlatformCryptography)

def derivePrk (transcriptSha256 sharedSecretBe : Bytes) : Bytes :=
  crypto.hmacSha256Bytes transcriptSha256 sharedSecretBe

/-- The secrets of a session, from the hash of its transcript and the agreed secret. -/
def deriveSecrets (localRole : PeerHandshakeRole) (transcript : CanonicalPeerHandshakeTranscriptV1)
    (sharedSecretBe : Bytes) : ConfirmedPeerHandshakeSessionV1 :=
  let prk := derivePrk crypto transcript.transcriptSha256 sharedSecretBe
  let expand := crypto.hkdfExpandSha256 prk
  let exporter := expand kChannelBindingExporterLabel kPeerHandshakeSha256Bytes
  { localRole := localRole
    binding :=
      { pairId := transcript.fields.pairId
        hostIdentitySpkiSha256 := transcript.fields.hostIdentitySpkiSha256
        androidIdentitySpkiSha256 := transcript.fields.androidIdentitySpkiSha256
        connectionId := transcript.fields.connectionId
        sessionGeneration := transcript.fields.sessionGeneration
        transcriptSha256 := transcript.transcriptSha256
        channelBindingSha256 := crypto.sha256Bytes
          (kChannelBindingDomain ++ transcript.transcriptSha256 ++ exporter) }
    controlHostToAndroid := expand kControlHostToAndroidLabel kPeerHandshakeDataPlaneMaterialBytes
    controlAndroidToHost := expand kControlAndroidToHostLabel kPeerHandshakeDataPlaneMaterialBytes
    presenceHostToAndroid :=
      expand kPresenceHostToAndroidLabel kPeerHandshakeDataPlaneMaterialBytes
    videoHostToAndroid := expand kVideoHostToAndroidLabel kPeerHandshakeDataPlaneMaterialBytes
    idrAndroidToHost := expand kIdrAndroidToHostLabel kPeerHandshakeDataPlaneMaterialBytes
    mouseHostToAndroid := expand kMouseHostToAndroidLabel kPeerHandshakeDataPlaneMaterialBytes
    finishedHost := expand kFinishedHostLabel kPeerHandshakeSha256Bytes
    finishedAndroid := expand kFinishedAndroidLabel kPeerHandshakeSha256Bytes
    channelBindingExporter := exporter }

/-- What a Finished proves: the role of its sender and the transcript. -/
def finishedMessage (role : PeerHandshakeRole) (transcriptSha256 : Bytes) : Bytes :=
  kFinishedProofDomain ++ role.value :: transcriptSha256

namespace ConfirmedPeerHandshakeSessionV1

def createFinishedMacForRole (session : ConfirmedPeerHandshakeSessionV1) (role : PeerHandshakeRole)
    (failure : Option PeerHandshakeError) : Except PeerHandshakeError Bytes := do
  let key ← match role with
    | .host => .ok session.finishedHost
    | .android => .ok session.finishedAndroid
    | .unrecognised _ => .error (protocolError .invalidRole "create_finished_validate_role")
  match failure with
  | some error => .error error
  | none =>
    .ok (crypto.hmacSha256Bytes key (finishedMessage role session.binding.transcriptSha256))

def verifyFinishedMacForRole (session : ConfirmedPeerHandshakeSessionV1) (role : PeerHandshakeRole)
    (candidateMac : Bytes) (failure : Option PeerHandshakeError) :
    Except PeerHandshakeError Unit := do
  let expected ← session.createFinishedMacForRole crypto role failure
  if constantTimeEqual expected candidateMac then .ok ()
  else .error (protocolError .peerFinishedAuthenticationFailed "verify_peer_finished_hmac_sha256")

/-- The keys that have no use after the confirmation are erased. -/
def confirmed (session : ConfirmedPeerHandshakeSessionV1) (localRole : PeerHandshakeRole) :
    ConfirmedPeerHandshakeSessionV1 :=
  { session with
    localRole := localRole
    finishedHost := List.replicate kPeerHandshakeSha256Bytes 0
    finishedAndroid := List.replicate kPeerHandshakeSha256Bytes 0
    channelBindingExporter := List.replicate kPeerHandshakeSha256Bytes 0 }

end ConfirmedPeerHandshakeSessionV1

structure PendingPeerHandshakeConfirmationV1 where
  localRole : PeerHandshakeRole
  unconfirmedSession : Option ConfirmedPeerHandshakeSessionV1
  closed : Bool
  localFinishedGenerated : Bool := false

namespace PendingPeerHandshakeConfirmationV1

def new (localRole : PeerHandshakeRole)
    (unconfirmedSession : Option ConfirmedPeerHandshakeSessionV1) :
    PendingPeerHandshakeConfirmationV1 where
  localRole := localRole
  unconfirmedSession := unconfirmedSession
  closed := unconfirmedSession.isNone

def close (pending : PendingPeerHandshakeConfirmationV1) : PendingPeerHandshakeConfirmationV1 :=
  { pending with unconfirmedSession := none, closed := true, localFinishedGenerated := false }

def createLocalFinishedMac (pending : PendingPeerHandshakeConfirmationV1)
    (failure : Option PeerHandshakeError) :
    PendingPeerHandshakeConfirmationV1 × Except PeerHandshakeError Bytes :=
  match pending.closed, pending.unconfirmedSession with
  | false, some session =>
    match session.createFinishedMacForRole crypto pending.localRole failure with
    | .error error => (pending.close, .error error)
    | .ok mac => ({ pending with localFinishedGenerated := true }, .ok mac)
  | _, _ =>
    (pending, .error (protocolError .pendingConfirmationClosed
      "create_local_finished_on_closed_pending_state"))

def confirmPeerFinishedAndConsume (pending : PendingPeerHandshakeConfirmationV1)
    (peerFinishedMac : Bytes) (failure : Option PeerHandshakeError) :
    PendingPeerHandshakeConfirmationV1 ×
      Except PeerHandshakeError ConfirmedPeerHandshakeSessionV1 :=
  match pending.closed, pending.unconfirmedSession with
  | false, some session =>
    if !pending.localFinishedGenerated then
      (pending.close, .error (protocolError .localFinishedNotGenerated
        "require_local_finished_before_peer_confirmation"))
    else
      let peerRole : PeerHandshakeRole := if pending.localRole = .host then .android else .host
      match session.verifyFinishedMacForRole crypto peerRole peerFinishedMac failure with
      | .error error => (pending.close, .error error)
      | .ok () => (pending.close, .ok (session.confirmed pending.localRole))
  | _, _ =>
    (pending.close, .error (protocolError .pendingConfirmationClosed
      "confirm_peer_finished_on_closed_pending_state"))

end PendingPeerHandshakeConfirmationV1

/-- The private key is gone after its first use. -/
structure PlatformP256EphemeralKeyAgreementV1 where
  privateKey : Option Bytes
  publicKey : Bytes

def pairIdTag : UInt8 := 15

def transcriptKeys (localRole : PeerHandshakeRole) (fields : PeerHandshakeTranscriptFields) :
    Except PeerHandshakeError (Bytes × Bytes) :=
  match localRole with
  | .host => .ok (fields.hostEphemeralPublicKey, fields.androidEphemeralPublicKey)
  | .android => .ok (fields.androidEphemeralPublicKey, fields.hostEphemeralPublicKey)
  | .unrecognised _ => .error (protocolError .invalidRole "derive_pending_validate_local_role")

def PlatformP256EphemeralKeyAgreementV1.derivePendingAfterPeerIdentityVerified
    (agreement : PlatformP256EphemeralKeyAgreementV1) (localRole : PeerHandshakeRole)
    (transcript : CanonicalPeerHandshakeTranscriptV1) (failure : Option PeerHandshakeError) :
    PlatformP256EphemeralKeyAgreementV1 ×
      Except PeerHandshakeError PendingPeerHandshakeConfirmationV1 :=
  ({ agreement with privateKey := none }, do
    let privateKey ← match agreement.privateKey with
      | none => .error (protocolError .ephemeralPrivateKeyAlreadyConsumed
          "reject_reused_ephemeral_private_key")
      | some privateKey => .ok privateKey
    let (localKey, peerKey) ← transcriptKeys localRole transcript.fields
    if transcript.fields.pairId = [] then
      .error (protocolError .pairBindingRequiredForKeyDerivation
        "require_bound_pair_before_key_derivation" pairIdTag)
    else if agreement.publicKey ≠ localKey then
      .error (protocolError .localEphemeralKeyMismatch "bind_local_ephemeral_key_to_transcript")
    else
      let rawSecret ← crypto.secretAgreement privateKey peerKey
      match failure with
      | some error => .error error
      | none =>
        .ok (.new localRole (some (deriveSecrets crypto localRole transcript rawSecret.reverse))))

end

/-! ## Expanding a key

The expansion of RFC 5869. The program hashes the previous block, the info and a counter, and
copies what is still missing.
-/

def kHkdfSha256MaximumOutputBytes : Nat := 255 * 32
def kMaximumHkdfInfoBytes : Nat := 96

abbrev PeerHandshakeSha256 := { octets : Bytes // octets.length = kPeerHandshakeSha256Bytes }

section

variable (hmacSha256Bytes : (key input : Bytes) → Except PeerHandshakeError PeerHandshakeSha256)
  (prk asciiInfo : Bytes) (size : Nat)

def expandBlocks : Nat → Bytes → Bytes → UInt16 → Except PeerHandshakeError Bytes
  | 0, _, written, _ => .ok written
  | turns + 1, previous, written, blockIndex =>
    if size ≤ written.length then .ok written
    else
      match hmacSha256Bytes prk (previous ++ asciiInfo ++ [blockIndex.toUInt8]) with
      | .error error => .error error
      | .ok next =>
        expandBlocks turns next.1 (written ++ next.1.take (size - written.length))
          (blockIndex + 1)

def hkdfExpandSha256 : Except PeerHandshakeError Bytes :=
  if kHkdfSha256MaximumOutputBytes < size then
    .error (protocolError .hkdfOutputTooLarge "validate_hkdf_output_length")
  else if asciiInfo.isEmpty ∨ kMaximumHkdfInfoBytes < asciiInfo.length then
    .error (protocolError .cryptoOperationFailed "validate_hkdf_info")
  else expandBlocks hmacSha256Bytes prk asciiInfo size size [] [] 1

end

section

variable (hmac : Bytes → PeerHandshakeSha256) (info : Bytes)

/-- The block of a number, under a keyed hash. Before the first block stands nothing. -/
def block : Nat → Bytes
  | 0 => []
  | number + 1 => (hmac (block number ++ info ++ [UInt8.ofNat (number + 1)])).1

def blocksUpTo (count : Nat) : Bytes := (List.range count).flatMap fun i => block hmac info (i + 1)

theorem blocksUpTo_succ (count : Nat) :
    blocksUpTo hmac info (count + 1) =
      blocksUpTo hmac info count ++ block hmac info (count + 1) := by
  simp [blocksUpTo, List.range_succ]

@[simp] theorem length_blocksUpTo (count : Nat) :
    (blocksUpTo hmac info count).length = 32 * count := by
  induction count with
  | zero => rfl
  | succ count ih =>
    rw [blocksUpTo_succ, List.length_append, ih, block, (hmac _).2]
    rfl

theorem take_blocksUpTo {count size : Nat} (h : size ≤ 32 * count) (more : Nat) :
    (blocksUpTo hmac info (count + more)).take size = (blocksUpTo hmac info count).take size := by
  induction more with
  | zero => rfl
  | succ more ih =>
    rw [← Nat.add_assoc, blocksUpTo_succ, List.take_append_of_le_length, ih]
    rw [length_blocksUpTo]
    omega

variable {hmacSha256Bytes : (key input : Bytes) → Except PeerHandshakeError PeerHandshakeSha256}
  {prk : Bytes} {hmac info}

/-- After so many blocks, the loop writes what is missing of the output. -/
theorem expandBlocks_eq {size turns count : Nat} (works : ∀ input, hmacSha256Bytes prk input =
      .ok (hmac input)) (bounded : size ≤ kHkdfSha256MaximumOutputBytes)
    (inRange : count ≤ 255) (enough : size ≤ turns + 32 * count) :
    expandBlocks hmacSha256Bytes prk info size turns (block hmac info count)
        ((blocksUpTo hmac info count).take size) (UInt16.ofNat (count + 1)) =
      .ok ((blocksUpTo hmac info 255).take size) := by
  have complete : size ≤ 32 * count → (blocksUpTo hmac info 255).take size =
      (blocksUpTo hmac info count).take size := by
    intro all
    rw [← Nat.add_sub_cancel' inRange, take_blocksUpTo hmac info all]
  induction turns generalizing count with
  | zero => rw [expandBlocks, complete (by omega)]
  | succ turns ih =>
    rw [expandBlocks]
    split
    · rename_i written
      rw [List.length_take, length_blocksUpTo] at written
      rw [complete (by omega)]
    · rename_i missing
      rw [List.length_take, length_blocksUpTo] at missing
      have size_lt : size ≤ 255 * 32 := bounded
      have ctr : (UInt16.ofNat (count + 1)).toUInt8 = UInt8.ofNat (count + 1) := by
        apply UInt8.toNat_inj.mp
        simp
      have next : (UInt16.ofNat (count + 1)) + 1 = UInt16.ofNat (count + 1 + 1) := by
        apply UInt16.toNat_inj.mp
        simp
      have written : (blocksUpTo hmac info count).take size = blocksUpTo hmac info count :=
        List.take_of_length_le (by rw [length_blocksUpTo]; omega)
      have following : (blocksUpTo hmac info count).take size ++ (block hmac info (count + 1)).take
          (size - ((blocksUpTo hmac info count).take size).length) =
          (blocksUpTo hmac info (count + 1)).take size := by
        rw [blocksUpTo_succ, List.take_append, written]
      rw [works, ctr, next]
      change expandBlocks _ _ _ _ _ (block hmac info (count + 1)) (_ ++
        (block hmac info (count + 1)).take _) _ = _
      rw [following]
      exact ih (by omega) (by omega) fun all => by
        rw [← Nat.add_sub_cancel' (show count + 1 ≤ 255 by omega), take_blocksUpTo hmac info all]

end

/-- The output is the start of the blocks of RFC 5869; nothing is expanded without an info, or
    with a long one. -/
theorem hkdfExpandSha256_expands {hmac : Bytes → PeerHandshakeSha256}
    {hmacSha256Bytes : (key input : Bytes) → Except PeerHandshakeError PeerHandshakeSha256}
    (prk info : Bytes) (size : Nat)
    (works : ∀ input, hmacSha256Bytes prk input = .ok (hmac input)) :
    hkdfExpandSha256 hmacSha256Bytes prk info size =
      if 255 * 32 < size then .error (protocolError .hkdfOutputTooLarge "validate_hkdf_output_length")
      else if info = [] ∨ 96 < info.length then
        .error (protocolError .cryptoOperationFailed "validate_hkdf_info")
      else .ok ((blocksUpTo hmac info 255).take size) := by
  unfold hkdfExpandSha256
  simp only [List.isEmpty_iff, kHkdfSha256MaximumOutputBytes, kMaximumHkdfInfoBytes]
  split
  · rfl
  rename_i bounded
  split
  · rfl
  have expands := @expandBlocks_eq hmac info hmacSha256Bytes prk size size 0 works
    (Nat.not_lt.mp bounded) (Nat.zero_le _) (Nat.le_refl _)
  rwa [show (blocksUpTo hmac info 0).take size = [] from List.take_nil] at expands

def standardHmac (key input : Bytes) : PeerHandshakeSha256 := ⟨Lib.Sha256.hmacSha256 key input, rfl⟩

theorem test_info_expands :
    hkdfExpandSha256 (fun key input => .ok (standardHmac key input)) (List.replicate 32 0x0b)
        (ascii "VFDUAL/PEER-HS/V1/test") 42 =
      .ok ((blocksUpTo (standardHmac (List.replicate 32 0x0b))
        (ascii "VFDUAL/PEER-HS/V1/test") 255).take 42) :=
  hkdfExpandSha256_expands _ _ 42 fun _ => rfl

/-- No output at all is not refused, but an empty info is. -/
theorem empty_output_succeeds :
    hkdfExpandSha256 (fun key input => .ok (standardHmac key input)) (List.replicate 32 0x0b)
        (ascii "VFDUAL/PEER-HS/V1/test") 0 = .ok [] ∧
      hkdfExpandSha256 (fun key input => .ok (standardHmac key input)) (List.replicate 32 0x0b) [] 1 =
        .error (protocolError .cryptoOperationFailed "validate_hkdf_info") :=
  ⟨rfl, rfl⟩

end VisionForge.Handshake
