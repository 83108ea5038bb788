import VisionForge.Agreement.IssuedLeases
import VisionForge.PhoneLease.Acceptance
import VisionForge.Server.IssuedTokens

/-! # The two verifiers

The Host reads a token with a cursor over the one spelling it knows, the phone with
a general parser and a comparison with the canonical form. Given one key they accept
the same tokens, as far as the phone can express the lease's window on its clock.
-/

namespace VisionForge.Agreement

open Lib.Ascii Lib.Base64Url Lib.FlatJson Lib.Hex Lib.Long Lib.Utf UsageLease HostLease PhoneLease Server

/-- PKCS #1 v1.5: a signature of another length than the modulus does not verify. -/
def SignatureLengths (crypto : Cryptography) : Prop :=
  ∀ key bits, crypto.rsaModulusBits key = some bits →
    ∀ input signature, crypto.rsaVerify key input signature = true →
      signature.length = (bits + 7) / 8

/-- The phone expects a lease of this binding; sequence, previous lease and kind are
    its own. -/
structure ForBinding (expected : ExpectedBinding) (binding : UsageLeaseBinding) : Prop where
  entitlementId : expected.entitlementId = widen binding.entitlementId
  pairId : expected.pairId = widen binding.pairId
  sessionId : expected.sessionId = widen binding.sessionId
  protocolVersion : expected.protocolVersion = binding.protocolVersion
  revocationVersion : expected.revocationVersion = binding.revocationVersion
  hostKeySha256 : expected.hostKeySha256 = widen binding.hostKeySha256
  androidKeySha256 : expected.androidKeySha256 = widen binding.androidKeySha256
  channelTranscriptSha256 : expected.channelTranscriptSha256 = widen binding.channelBindingSha256

/-- The lease of the Host as the phone writes it, with a window on the phone's clock. -/
def phoneLease (lease : VerifiedUsageLease) (notBeforeMonotonicNanos expiresAtMonotonicNanos : Int) :
    VerifiedLease where
  tokenSha256 := widen lease.ticketSha256
  entitlementId := widen lease.claims.entitlementId
  pairId := widen lease.claims.pairId
  sessionId := widen lease.claims.sessionId
  protocolVersion := lease.claims.protocolVersion
  revocationVersion := lease.claims.revocationVersion
  hostKeySha256 := widen lease.claims.hostKeySha256
  androidKeySha256 := widen lease.claims.androidKeySha256
  channelTranscriptSha256 := widen lease.claims.channelBindingSha256
  previousLeaseSha256 := widen lease.claims.previousTicketSha256
  sequence := lease.claims.sequence
  authorizationKind := widen lease.claims.authorizationKind
  permanent := lease.claims.isPermanent
  remainingSeconds := lease.claims.remainingSeconds
  issuedAtEpochSeconds := lease.claims.issuedAtEpoch
  notBeforeEpochSeconds := lease.claims.notBeforeEpoch
  expiresAtEpochSeconds := lease.claims.expiresAtEpoch
  notBeforeMonotonicNanos := notBeforeMonotonicNanos
  expiresAtMonotonicNanos := expiresAtMonotonicNanos

theorem isAuthorizationKind_widen (value : Bytes) :
    isAuthorizationKind (widen value) = authorizationKindValid value := by
  rw [Bool.eq_iff_iff]
  simp only [isAuthorizationKind, authorizationKindValid, Bool.or_eq_true, beq_iff_eq,
    widen_eq_text]

theorem previousLeaseSha256Valid_widen (value : Bytes) (seq : Nat) :
    previousLeaseSha256Valid (widen value) seq = previousTicketValid value seq := by
  unfold previousLeaseSha256Valid previousTicketValid
  rw [matchesHex_widen, containsNonzero_widen]
  by_cases first : seq = 0
  · subst first
    rw [if_pos rfl, if_pos Int.natCast_zero, Bool.eq_iff_iff, Bool.and_eq_true, beq_iff_eq,
      beq_iff_eq]
    constructor
    · rintro ⟨-, same⟩
      exact widen_injective same
    · rintro rfl
      exact ⟨by decide, rfl⟩
  · rw [if_neg first, if_neg (by omega)]
    rfl

section

variable {crypto : Cryptography} {claims : VerifiedUsageLeaseClaims} {now : Nat}

theorem verifierClaims_iff (bounded : now + kHostUsageLeaseServerAheadGraceSecondsV1 < 2 ^ 63) :
    VerifierClaims crypto claims now ↔
      PhoneClaims 10 claims now ∧ claims.hostKeySha256 ≠ claims.androidKeySha256 ∧
      claims.leaseId = (crypto.sha256Hex (render claims.membersWithoutLeaseId)).take 32 := by
  have grace : wrap ((now : Int) + SERVER_CLOCK_AHEAD_GRACE_SECONDS) =
      (now + kHostUsageLeaseServerAheadGraceSecondsV1 : Nat) := by
    have fits := wrap_of_fits (show Fits ((now : Int) + 2) from ⟨by omega, by
      simp only [kHostUsageLeaseServerAheadGraceSecondsV1] at bounded
      omega⟩)
    exact fits
  have leaseId (plain : claims.PlainTexts) :
      lowercaseHex ((crypto.sha256 (canonicalClaimsWithoutLeaseId claims)).take 16) =
        (crypto.sha256Hex (render claims.membersWithoutLeaseId)).take 32 := by
    rw [canonicalClaimsWithoutLeaseId_eq plain, lowercaseHex_take]
    rfl
  constructor
  · intro h
    have ahead := h.serverAhead
    have ttl := h.ttl
    have unexpired := h.unexpired
    simp only [kHostUsageLeaseMaximumTtlSecondsV1] at ttl
    refine ⟨⟨h.type, h.issuer, h.audience, h.phase, ?_, h.entitlementId, h.pairId, h.sessionId,
      h.hostKeySha256, h.androidKeySha256, h.channelBindingSha256, ?_, h.leaseIdHex,
      h.protocolVersion, h.revocationVersion, h.issued, ?_, h.issuedBeforeStart, h.window,
      by omega, by omega, ?_, h.remainingSeconds⟩, h.distinctKeys, ?_⟩
    · rw [isAuthorizationKind_widen]
      exact h.authorizationKind
    · rw [previousLeaseSha256Valid_widen]
      exact h.previousTicketSha256
    · rw [grace]
      exact_mod_cast ahead
    · rw [h.isPermanent, Bool.eq_iff_iff, beq_iff_eq, beq_iff_eq, widen_eq_text]
    · rw [← leaseId h.plainTexts]
      exact h.leaseId
  · rintro ⟨h, dist, sameId⟩
    have ahead := h.serverAhead
    have ttl := h.ttl
    have unexpired := h.unexpired
    refine ⟨h.type, h.issuer, h.audience, h.phase, ?_, ?_, h.remainingSeconds, h.entitlementId,
      h.pairId, h.sessionId, h.hostKeySha256, h.androidKeySha256, h.channelBindingSha256, dist,
      h.protocolVersion, h.revocationVersion, ?_, h.issued, h.issuedBeforeStart, h.window, ?_,
      by omega, by omega, h.leaseIdHex, ?_⟩
    · rw [← isAuthorizationKind_widen]
      exact h.authorizationKind
    · rw [h.isPermanent, Bool.eq_iff_iff, beq_iff_eq, beq_iff_eq, widen_eq_text]
    · rw [← previousLeaseSha256Valid_widen]
      exact h.previousTicketSha256
    · simp only [kHostUsageLeaseMaximumTtlSecondsV1]
      omega
    · rw [leaseId h.plainTexts]
      exact sameId

end

theorem mark_not_mem_encode (octets : Bytes) : (63 : UInt8) ∉ encode octets := by
  intro mem
  have no := value_encode mem
  exact absurd no (by decide)

theorem mark_not_mem_compactToken (keyId : Bytes) (claims : VerifiedUsageLeaseClaims)
    (signature : Bytes) : (63 : UInt8) ∉ compactToken keyId claims signature := by
  simp only [compactToken, signingText, List.mem_append, List.mem_cons, mark_not_mem_encode]
  decide

variable {claims : VerifiedUsageLeaseClaims}

theorem eq_widen_of_token {token : Units} {keyId : Bytes} {signature : Bytes}
    (h : encodeUtf8 token = compactToken keyId claims signature) :
    token = widen (compactToken keyId claims signature) := by
  have same := @eq_widen_of_encodeUtf8 token
  rw [h] at same
  exact same (isAscii_compactToken _ _ _) (mark_not_mem_compactToken _ _ _)

theorem members_injective : Function.Injective VerifiedUsageLeaseClaims.members := by
  intro first snd same
  obtain ⟨⟩ := snd
  obtain ⟨rfl, rfl, rfl, rfl, rfl, rfl, rfl, rfl, rfl, rfl, rfl, rfl, rfl, rfl, rfl, rfl, rfl,
    rfl, rfl, rfl, rfl⟩ := same
  rfl

theorem compactToken_members {keyId otherId signature other : Bytes}
    {first second : VerifiedUsageLeaseClaims} (someSignature : signature ≠ []) (someOther : other ≠ [])
    (plainFirst : first.PlainTexts) (plainSecond : second.PlainTexts)
    (same : compactToken keyId first signature = compactToken otherId second other) :
    first = second := by
  have segments := @compactToken_segments keyId signature first someSignature
  rw [same, compactToken_segments someOther, Option.some.injEq, Prod.mk.injEq, Prod.mk.injEq]
    at segments
  have payloads := congrArg decode segments.2.1
  rw [decode_encode, decode_encode, Option.some.injEq] at payloads
  have loaded := congrArg loads payloads
  rw [loads_render (plainMembers_claims plainFirst) (nodup_of_sorted (sorted_members first)),
    loads_render (plainMembers_claims plainSecond) (nodup_of_sorted (sorted_members second)),
    Option.some.injEq] at loaded
  exact members_injective loaded.symm

theorem createFromCanonicalSpkiDer_single {crypto : Cryptography} {src : Bytes}
    {verifier : HostUsageLeaseVerifierV1}
    (h : createFromCanonicalSpkiDer crypto [src] = .ok verifier) :
    ∃ key, importVerificationKey crypto src = some key ∧ verifier.verificationKeys = [key] := by
  unfold createFromCanonicalSpkiDer at h
  rw [if_neg (by simp), List.foldl_cons, List.foldl_nil] at h
  cases imported : importVerificationKey crypto src with
  | none =>
    rw [addKey, imported] at h
    cases h
  | some key =>
    simp only [addKey, imported, Option.bind_eq_bind, Option.bind_some, List.any_nil,
      Bool.false_eq_true, if_false, List.nil_append] at h
    cases h
    exact ⟨key, rfl, rfl⟩

section

variable {crypto : Cryptography} {key : Bytes} {host : HostUsageLeaseVerifierV1}
  {phone : DualMachineUsageLeaseVerifier} {token : Units} {binding : UsageLeaseBinding}
  {now : Nat} {monotonic : Int} {lease : VerifiedLease}

theorem expects_forBinding {want : ExpectedBinding} (expects : Expects want claims)
    (same : ForBinding want binding) : binding = claims.binding := by
  have text {a b : Bytes} {c : Units} (h : c = widen a) (k : c = widen b) : a = b :=
    widen_injective (h.symm.trans k)
  obtain ⟨entId, pairId, sid, protocolVersion, revocationVersion, hostKeySha256,
    androidKeySha256, channelBindingSha256⟩ := binding
  simp only [VerifiedUsageLeaseClaims.binding, UsageLeaseBinding.mk.injEq]
  exact ⟨text same.entitlementId expects.entitlementId, text same.pairId expects.pairId,
    text same.sessionId expects.sessionId,
    Int.ofNat_inj.mp (same.protocolVersion.symm.trans expects.protocolVersion),
    Int.ofNat_inj.mp (same.revocationVersion.symm.trans expects.revocationVersion),
    text same.hostKeySha256 expects.hostKeySha256,
    text same.androidKeySha256 expects.androidKeySha256,
    text same.channelTranscriptSha256 expects.channelTranscriptSha256⟩

/-- Claims that pass the checks can be expected. -/
theorem exists_expects {ttl wall : Int} (h : PhoneClaims ttl claims wall) :
    ∃ want, ForBinding want claims.binding ∧ Expects want claims := by
  have hex {value : Bytes} {digits : Nat} (nonzero : isNonzeroLowerHex value digits = true) :
      matchesNonzero digits (widen value) = true := by
    rw [matchesNonzero_widen, nonzero]
  exact ⟨
    { entitlementId := widen claims.entitlementId
      pairId := widen claims.pairId
      sessionId := widen claims.sessionId
      protocolVersion := claims.protocolVersion
      revocationVersion := claims.revocationVersion
      hostKeySha256 := widen claims.hostKeySha256
      androidKeySha256 := widen claims.androidKeySha256
      channelTranscriptSha256 := widen claims.channelBindingSha256
      sequence := claims.sequence
      previousLeaseSha256 := widen claims.previousTicketSha256
      authorizationKind := widen claims.authorizationKind
      permanent := claims.isPermanent
      entitlementIdHex := hex h.entitlementId
      pairIdHex := hex h.pairId
      sessionIdHex := hex h.sessionId
      hostKeyHex := hex h.hostKeySha256
      androidKeyHex := hex h.androidKeySha256
      channelHex := hex h.channelBindingSha256
      previousLease := h.previousTicketSha256
      protocol := by rw [h.protocolVersion]; rfl
      revocation := Int.natCast_pos.mpr h.revocationVersion
      sequenceNonnegative := Int.natCast_nonneg _
      kind := h.authorizationKind
      permanentKind := h.isPermanent },
    ⟨rfl, rfl, rfl, rfl, rfl, rfl, rfl, rfl⟩,
    ⟨rfl, rfl, rfl, rfl, rfl, rfl, rfl, rfl, rfl, rfl, rfl, rfl⟩⟩

theorem claimsMatchExpected_binding :
    claimsMatchExpected claims binding false = true ↔ binding = claims.binding := by
  obtain ⟨entId, pairId, sid, protocolVersion, revocationVersion, hostKeySha256,
    androidKeySha256, channelBindingSha256⟩ := binding
  simp only [claimsMatchExpected, VerifiedUsageLeaseClaims.binding, UsageLeaseBinding.mk.injEq,
    Bool.and_eq_true, Bool.false_or, beq_iff_eq, and_assoc]
  constructor
  · rintro ⟨h1, h2, h3, h4, h5, h6, h7, h8⟩
    exact ⟨h1.symm, h2.symm, h3.symm, h4.symm, h5.symm, h6.symm, h7.symm, h8.symm⟩
  · rintro ⟨h1, h2, h3, h4, h5, h6, h7, h8⟩
    exact ⟨h1.symm, h2.symm, h3.symm, h4.symm, h5.symm, h6.symm, h7.symm, h8.symm⟩

theorem host_of_phone (lengths : SignatureLengths crypto)
    (hostCreated : createFromCanonicalSpkiDer crypto [key] = .ok host)
    (isKey : phone.publicKey = key) (ttl : phone.maximumTtlSeconds = 10)
    (keyId : isNonzeroLowerHex (crypto.keyId key) 16 = true)
    (dist : binding.hostKeySha256 ≠ binding.androidKeySha256)
    (bounded : now + kHostUsageLeaseServerAheadGraceSecondsV1 < 2 ^ 63) {want : ExpectedBinding}
    (same : ForBinding want binding) {signature : Bytes}
    (h : PhoneLease.Accepted crypto phone token want now monotonic claims signature lease) :
    host.verify crypto (encodeUtf8 token) binding now =
      .ok
        { claims := claims
          ticketSha256 :=
            crypto.sha256Hex (compactToken (crypto.keyId key) claims signature) } := by
  subst isKey
  have isBinding := expects_forBinding h.bound same
  have checked : VerifierClaims crypto claims now := by
    apply (verifierClaims_iff bounded).mpr
    rw [← ttl]
    refine ⟨h.checked, ?_, h.leaseId⟩
    rw [isBinding] at dist
    exact dist
  have bs : encodeUtf8 token = compactToken (crypto.keyId phone.publicKey) claims signature := by
    rw [h.spelled, encodeUtf8_widen (isAscii_compactToken _ _ _)]
  obtain ⟨imported, isImported, selected⟩ :=
    createFromCanonicalSpkiDer_selects hostCreated (List.mem_singleton.mpr rfl)
  obtain ⟨bits, modulus, -, -, whole, rfl⟩ := importVerificationKey_eq_some isImported
  apply HostUsageLeaseVerifierV1.verify_eq_ok.mpr
  refine ⟨by rw [isBinding]; exact checked.expectedBindingValid, by rw [bs],
    ⟨crypto.keyId phone.publicKey, phone.publicKey, bits / 8⟩, signature, ?_⟩
  exact
    { positive := by
        have positive := h.positive
        omega
      short := by
        have short := h.short
        rw [h.spelled, length_widen] at short
        rw [bs]
        exact short
      spelled := bs
      keyId := keyId
      selected := selected
      signatureBytes := by
        rw [lengths _ _ modulus _ _ h.verifies]
        dsimp only
        omega
      nonempty := h.nonempty
      verifies := h.verifies
      numbers := h.numbers.mono (by decide)
      checked := checked
      bound := claimsMatchExpected_binding.mpr isBinding }

/-- What the Host accepts, the phone accepts if it can express the window. -/
theorem phone_of_host (hostCreated : createFromCanonicalSpkiDer crypto [key] = .ok host)
    (isKey : phone.publicKey = key) (isKeyId : phone.expectedKeyId = widen (crypto.keyId key))
    (ttl : phone.maximumTtlSeconds = 10)
    (bounded : now + kHostUsageLeaseServerAheadGraceSecondsV1 < 2 ^ 63)
    {hostLease : VerifiedUsageLease}
    (h : host.verify crypto (encodeUtf8 token) binding now = .ok hostLease)
    (numbers : hostLease.claims.NumbersUpTo (2 ^ 63 - 1))
    (mapped : Mapped hostLease.claims now monotonic lease)
    (isLease : lease = phoneLease hostLease lease.notBeforeMonotonicNanos
      lease.expiresAtMonotonicNanos) :
    ∃ want, ForBinding want binding ∧
      phone.verify crypto token want now monotonic = .ok lease := by
  subst isKey
  obtain ⟨-, ticket, selectedKey, signature, ok⟩ :=
    HostUsageLeaseVerifierV1.verify_eq_ok.mp h
  obtain ⟨imported, isImported, keys⟩ := createFromCanonicalSpkiDer_single hostCreated
  obtain ⟨bits, -, -, -, -, rfl⟩ := importVerificationKey_eq_some isImported
  have onlyKey : selectedKey = ⟨crypto.keyId phone.publicKey, phone.publicKey, bits / 8⟩ := by
    have mem := (selectKey_keyId ok.selected).1
    rw [keys] at mem
    exact List.mem_singleton.mp mem
  subst onlyKey
  obtain ⟨checked, -, leaseId⟩ := (verifierClaims_iff bounded).mp ok.checked
  have token_eq := eq_widen_of_token ok.spelled
  have isBinding := claimsMatchExpected_binding.mp ok.bound
  obtain ⟨want, same, expects⟩ := exists_expects checked
  refine ⟨want, by rw [isBinding]; exact same,
    @DualMachineUsageLeaseVerifier.verify_of_accepted _ _ _ _ _ _ _ isKeyId hostLease.claims
      signature ?_⟩
  exact
    { positive := Int.natCast_pos.mpr ok.positive
      short := by
        have short := ok.short
        rw [ok.spelled] at short
        rw [token_eq, length_widen]
        exact short
      spelled := token_eq
      nonempty := ok.nonempty
      verifies := ok.verifies
      numbers := numbers
      checked := by rw [ttl]; exact checked
      leaseId := leaseId
      bound := expects
      mapped := mapped
      signed := by
        rw [isLease, phoneLease, ticket, ok.spelled]
        rfl }

end

/-- Host and phone accept the same tokens of one key, with equal claims and equal token
    hashes, where the lease's window is expressible on the phone's monotonic clock. -/
theorem verifiers_accept_same_tokens (crypto : Cryptography) (lengths : SignatureLengths crypto)
    (key : Bytes) (keyId : isNonzeroLowerHex (crypto.keyId key) 16 = true)
    (host : HostUsageLeaseVerifierV1)
    (hostCreated : createFromCanonicalSpkiDer crypto [key] = .ok host)
    (phone : DualMachineUsageLeaseVerifier)
    (phoneCreated : DualMachineUsageLeaseVerifier.create crypto key 10 = some phone)
    (token : Units) (binding : UsageLeaseBinding)
    (distinct : binding.hostKeySha256 ≠ binding.androidKeySha256) (now : Nat)
    (bounded : now + kHostUsageLeaseServerAheadGraceSecondsV1 < 2 ^ 63) (monotonic : Int)
    (lease : VerifiedLease) :
    (∃ want, ForBinding want binding ∧
        phone.verify crypto token want now monotonic = .ok lease) ↔
      ∃ hostLease, host.verify crypto (encodeUtf8 token) binding now = .ok hostLease ∧
        hostLease.claims.NumbersUpTo (2 ^ 63 - 1) ∧ Mapped hostLease.claims now monotonic lease ∧
        lease = phoneLease hostLease lease.notBeforeMonotonicNanos
          lease.expiresAtMonotonicNanos := by
  obtain ⟨-, -, -, rfl⟩ := DualMachineUsageLeaseVerifier.create_eq_some.mp phoneCreated
  constructor
  · rintro ⟨want, same, verified⟩
    obtain ⟨claims, signature, accepted⟩ :=
      DualMachineUsageLeaseVerifier.accepted_of_verify rfl verified
    exact ⟨_, host_of_phone lengths hostCreated rfl rfl keyId distinct bounded same accepted,
      accepted.numbers, accepted.mapped, accepted.signed⟩
  · rintro ⟨hostLease, verified, numbers, mapped, isLease⟩
    exact phone_of_host hostCreated rfl rfl rfl bounded verified numbers mapped isLease

def concretePhone : DualMachineUsageLeaseVerifier where
  publicKey := signingKey
  expectedKeyId := widen (concreteCryptography.keyId signingKey)
  maximumTtlSeconds := 10

theorem concretePhone_created :
    DualMachineUsageLeaseVerifier.create concreteCryptography signingKey 10 =
      some concretePhone := by
  apply DualMachineUsageLeaseVerifier.create_eq_some.mpr
  exact ⟨⟨3072, by simp [concreteCryptography], by decide⟩, by decide, by decide, rfl⟩

theorem concrete_signatureLengths : SignatureLengths concreteCryptography := by
  intro key bits modulus input signature verifies
  simp only [concreteCryptography, Bool.and_eq_true, beq_iff_eq] at modulus verifies
  rw [if_pos verifies.1] at modulus
  cases modulus
  rw [verifies.2, length_signWithKey]

/-- The claims of a first lease of five seconds, signed at 1000 for a window at
    `notBefore`. -/
def windowClaims (notBefore : Nat) : VerifiedUsageLeaseClaims :=
  signedClaims concreteCryptography concreteEntitlement (List.replicate 32 99)
    (List.replicate 64 51) 0 kZeroSha256 1000 notBefore (notBefore + 5)

def windowToken (notBefore : Nat) : Bytes :=
  concreteCodec.signedToken concreteCryptography (windowClaims notBefore)

def windowLease (notBefore : Nat) : VerifiedUsageLease where
  claims := windowClaims notBefore
  ticketSha256 := concreteCryptography.sha256Hex (windowToken notBefore)

/-- Far enough ahead that its nanoseconds do not fit. -/
def distantEpoch : Nat := 10000000000

theorem windowDigests_nonzero :
    isNonzeroLowerHex (concreteCryptography.keyId signingKey) 16 = true ∧
      isNonzeroLowerHex (windowClaims 1000).leaseId 32 = true ∧
      isNonzeroLowerHex (windowClaims distantEpoch).leaseId 32 = true := by
  decide +kernel

theorem windowClaims_numbers {notBefore : Nat} (small : notBefore ≤ distantEpoch) :
    (windowClaims notBefore).NumbersUpTo (2 ^ 63 - 1) where
  protocolVersion := show 2 ≤ _ by decide
  revocationVersion := show 1 ≤ _ by decide
  sequence := show 0 ≤ _ by decide
  remainingSeconds := show 3595 ≤ _ by decide
  issuedAtEpoch := show 1000 ≤ _ by decide
  notBeforeEpoch := small.trans (by decide)
  expiresAtEpoch := (Nat.add_le_add_right small 5).trans (by decide)

theorem windowLease_verified {notBefore : Nat} (later : 1000 ≤ notBefore)
    (small : notBefore ≤ distantEpoch)
    (leaseId : isNonzeroLowerHex (windowClaims notBefore).leaseId 32 = true) :
    concreteVerifier.verify concreteCryptography (windowToken notBefore)
        (windowClaims notBefore).binding 1000 = .ok (windowLease notBefore) := by
  have issued : concreteCodec.issueUsageLease concreteCryptography concreteEntitlement
      (List.replicate 32 99) (List.replicate 64 51) 0 (ascii "active") 5 kZeroSha256 1000
      notBefore = .ok
        { usageLease := windowToken notBefore
          usageLeaseSha256 := concreteCryptography.sha256Hex (windowToken notBefore)
          usageLeaseExpiresAtEpoch := notBefore + 5
          usageLeaseNotBeforeEpoch := notBefore
          usageLeaseTtlSeconds := 5 } := by
    apply RsaTokenCodec.issueUsageLease_eq_ok.mpr
    exact ⟨⟨by decide, by decide, later, rfl, by decide, by decide, by decide, by decide,
      by decide, by decide, by decide⟩, rfl⟩
  have formed : WellFormed concreteCryptography concreteCodec concreteEntitlement
      (windowClaims notBefore) :=
    { checks := by decide
      distinctKeys := by decide
      permanent := by decide
      numbers := (windowClaims_numbers small).mono (by decide)
      issued := show 0 < 1000 by decide
      keyId := windowDigests_nonzero.1
      leaseId := leaseId }
  have verified := @verify_issued _ _ _ _ _ _ _ _ _ _ _ _ _ _ 1000 concreteCodec_signs
    concreteVerifier_created (by simp [concreteCodec]) issued formed (by decide) (by decide)
    (by omega)
  exact verified

theorem encodeUtf8_windowToken (notBefore : Nat) :
    encodeUtf8 (widen (windowToken notBefore)) = windowToken notBefore :=
  encodeUtf8_widen (isAscii_compactToken _ _ _)

/-- A lease of the current five seconds is accepted by both. -/
theorem current_window_is_accepted_by_both :
    ∃ want, ForBinding want (windowClaims 1000).binding ∧
      concretePhone.verify concreteCryptography (widen (windowToken 1000)) want 1000 7 =
        .ok (phoneLease (windowLease 1000) 7 5000000007) := by
  have same := verifiers_accept_same_tokens concreteCryptography concrete_signatureLengths
    signingKey windowDigests_nonzero.1 concreteVerifier concreteVerifier_created concretePhone
    concretePhone_created (widen (windowToken 1000)) (windowClaims 1000).binding (by decide) 1000
    (by decide) 7 (phoneLease (windowLease 1000) 7 5000000007)
  have small : 1000 ≤ distantEpoch := by decide
  apply same.mpr
  rw [encodeUtf8_windowToken]
  exact ⟨windowLease 1000, windowLease_verified le_rfl small windowDigests_nonzero.2.1,
    windowClaims_numbers small, ⟨by rfl, by rfl⟩, rfl⟩

/-- A lease whose window lies centuries ahead is accepted by the Host; the phone refuses
    it at every reading of its monotonic clock. -/
theorem distant_window_divides_verifiers :
    SignatureLengths concreteCryptography ∧
      isNonzeroLowerHex (concreteCryptography.keyId signingKey) 16 = true ∧
      createFromCanonicalSpkiDer concreteCryptography [signingKey] = .ok concreteVerifier ∧
      DualMachineUsageLeaseVerifier.create concreteCryptography signingKey 10 = some concretePhone ∧
      (windowClaims distantEpoch).binding.hostKeySha256 ≠
        (windowClaims distantEpoch).binding.androidKeySha256 ∧
      concreteVerifier.verify concreteCryptography
        (encodeUtf8 (widen (windowToken distantEpoch))) (windowClaims distantEpoch).binding 1000 =
        .ok (windowLease distantEpoch) ∧
      (windowLease distantEpoch).claims.NumbersUpTo (2 ^ 63 - 1) ∧
      ∀ want monotonic lease, concretePhone.verify concreteCryptography
        (widen (windowToken distantEpoch)) want 1000 monotonic ≠ .ok lease := by
  have verified := windowLease_verified (by decide) le_rfl windowDigests_nonzero.2.2
  refine ⟨concrete_signatureLengths, windowDigests_nonzero.1, concreteVerifier_created,
    concretePhone_created, by decide, ?_, windowClaims_numbers le_rfl, ?_⟩
  · rw [encodeUtf8_windowToken]
    exact verified
  · intro want monotonic lease accepts
    obtain ⟨claims, signature, accepted⟩ :=
      DualMachineUsageLeaseVerifier.accepted_of_verify
        (DualMachineUsageLeaseVerifier.expectedKeyId_of_create concretePhone_created) accepts
    obtain ⟨-, -, key, hostSignature, hostAccepted⟩ :=
      HostUsageLeaseVerifierV1.verify_eq_ok.mp verified
    have spelled := hostAccepted.spelled
    rw [widen_injective accepted.spelled] at spelled
    have same := compactToken_members accepted.nonempty hostAccepted.nonempty
      accepted.checked.plainTexts hostAccepted.checked.plainTexts spelled
    have issued : claims.issuedAtEpoch = 1000 := congrArg (·.issuedAtEpoch) same
    have expires : claims.expiresAtEpoch = distantEpoch + 5 := congrArg (·.expiresAtEpoch) same
    have fits := (addSeconds_eq_ok.mp accepted.mapped.expiresAt).1.2
    rw [mappingEpoch, issued, expires] at fits
    exact absurd fits (by decide)

end VisionForge.Agreement
