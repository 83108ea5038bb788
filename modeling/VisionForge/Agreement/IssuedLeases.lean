import VisionForge.HostLease.Acceptance
import VisionForge.Server.TokenService
import VisionForge.UsageLease.GateRuns

/-! # Leases of the service at the Host

What the service signs, the Host's verifier accepts, and what the verifier returns,
the gate admits by its own claim and binding checks.
-/

namespace VisionForge.Agreement

open Lib.Ascii Lib.Base64Url Lib.FlatJson Lib.Decimal Lib.Hex UsageLease HostLease Server

/-- RSA as the programs rely on it: verification succeeds exactly on what the key
    signed, and a signature is as long as the modulus. -/
structure SignsWith (crypto : Cryptography) (codec : RsaTokenCodec) : Prop where
  exactly : ∀ input signature,
    crypto.rsaVerify codec.publicKey input signature = true ↔ signature = codec.sign input
  modulus : ∀ bits, crypto.rsaModulusBits codec.publicKey = some bits →
    ∀ input, (codec.sign input).length = bits / 8

def DistinctIds (keys : List VerificationKey) : Prop :=
  keys.Pairwise (fun first second => first.keyId ≠ second.keyId)

theorem selectKey_of_mem {keys : List VerificationKey} {key : VerificationKey}
    (dist : DistinctIds keys) (mem : key ∈ keys) : selectKey keys key.keyId = some key := by
  unfold selectKey
  induction keys using List.reverseRecOn with
  | nil => cases mem
  | append_singleton front last ih =>
    rw [List.foldl_append, List.foldl_cons, List.foldl_nil]
    obtain ⟨frontDistinct, -, apart⟩ := List.pairwise_append.mp dist
    rcases List.mem_append.mp mem with inFront | isLast
    · rw [if_neg (Ne.symm (apart key inFront last (by simp)))]
      exact ih frontDistinct inFront
    · rw [List.mem_singleton.mp isLast, if_pos rfl]

theorem foldl_addKey_none (crypto : Cryptography) (sources : List Bytes) :
    sources.foldl (addKey crypto) none = none := by
  induction sources with
  | nil => rfl
  | cons src rest ih => exact ih

variable {crypto : Cryptography}

theorem foldl_addKey {sources : List Bytes} {existing keys : List VerificationKey}
    (dist : DistinctIds existing)
    (h : sources.foldl (addKey crypto) (some existing) = some keys) :
    DistinctIds keys ∧ (∀ key ∈ existing, key ∈ keys) ∧
      ∀ src ∈ sources, ∃ key ∈ keys, importVerificationKey crypto src = some key := by
  induction sources generalizing existing with
  | nil =>
    cases h
    exact ⟨dist, fun _ mem => mem, by simp⟩
  | cons src rest ih =>
    rw [List.foldl_cons] at h
    cases imported : importVerificationKey crypto src with
    | none =>
      rw [addKey, imported] at h
      exact absurd h (by simp [foldl_addKey_none])
    | some key =>
      simp only [addKey, imported, Option.bind_eq_bind, Option.bind_some] at h
      split at h
      · exact absurd h (by simp [foldl_addKey_none])
      rename_i fresh
      have apart : DistinctIds (existing ++ [key]) := by
        refine List.pairwise_append.mpr ⟨dist, List.pairwise_singleton _ _, ?_⟩
        intro other mem last isLast same
        rw [List.mem_singleton.mp isLast] at same
        apply fresh
        exact List.any_eq_true.mpr ⟨other, mem, by simp [same]⟩
      obtain ⟨distinctKeys, kept, found⟩ := ih apart h
      refine ⟨distinctKeys, fun old mem => kept old (List.mem_append_left _ mem), ?_⟩
      intro wanted mem
      rcases List.mem_cons.mp mem with rfl | later
      · exact ⟨key, kept key (by simp), imported⟩
      · exact found wanted later

theorem createFromCanonicalSpkiDer_selects {sources : List Bytes}
    {verifier : HostUsageLeaseVerifierV1} {src : Bytes}
    (h : createFromCanonicalSpkiDer crypto sources = .ok verifier) (mem : src ∈ sources) :
    ∃ key, importVerificationKey crypto src = some key ∧
      selectKey verifier.verificationKeys key.keyId = some key := by
  unfold createFromCanonicalSpkiDer at h
  split at h
  · cases h
  split at h
  · cases h
  rename_i keys built
  cases h
  obtain ⟨distinct, -, found⟩ := foldl_addKey List.Pairwise.nil built
  obtain ⟨key, inKeys, imported⟩ := found src mem
  exact ⟨key, imported, selectKey_of_mem distinct inKeys⟩

theorem importVerificationKey_eq_some {src : Bytes} {key : VerificationKey}
    (h : importVerificationKey crypto src = some key) :
    ∃ bits, crypto.rsaModulusBits src = some bits ∧ kMinimumRsaBits ≤ bits ∧
      bits ≤ kMaximumRsaBits ∧ bits % 8 = 0 ∧
      key = ⟨crypto.keyId src, src, bits / 8⟩ := by
  unfold importVerificationKey at h
  split at h
  · cases h
  split at h
  · cases h
  rename_i bits known
  split at h
  · cases h
  rename_i size
  simp only [not_or, not_lt, not_not, ne_eq] at size
  cases h
  exact ⟨bits, known, size.1, size.2.1, size.2.2, rfl⟩

/-- A member whose key takes at most 20 octets and whose value at most 66. -/
def ShortMember (member : Bytes × Scalar) : Prop :=
  (quote member.1).length ≤ 20 ∧ (scalarText member.2).length ≤ 66

theorem length_tailText {mems : Members} (h : ∀ mem ∈ mems, ShortMember mem) :
    (tailText mems).length ≤ 88 * mems.length := by
  induction mems with
  | nil => simp [tailText]
  | cons mem rest ih =>
    obtain ⟨key, value⟩ := h mem (by simp)
    have restShort := ih (fun other later => h other (List.mem_cons_of_mem _ later))
    have front : (tailText (mem :: rest)).length =
        (memberText mem).length + 1 + (tailText rest).length := by
      simp only [tailText, List.flatMap_cons, List.length_append, List.length_cons]
    simp only [front, memberText, List.length_append, List.length_cons]
    omega

theorem length_render {mems : Members} (h : ∀ mem ∈ mems, ShortMember mem) :
    (render mems).length ≤ 88 * mems.length + 2 := by
  cases mems with
  | nil => simp [render]
  | cons mem rest =>
    obtain ⟨key, value⟩ := h mem (by simp)
    have restShort := length_tailText (fun other later => h other (List.mem_cons_of_mem _ later))
    simp only [render, List.length_append, List.length_cons, memberText, List.length_nil]
    omega

theorem shortMember_text {key value : Bytes} (short : (quote key).length ≤ 20)
    (plain : Plain value) (length : value.length ≤ 64) : ShortMember (key, .text value) := by
  refine ⟨short, ?_⟩
  rw [scalarText_text, quote_plain plain]
  simp
  omega

theorem shortMember_hex {key value : Bytes} {digits : Nat} (short : (quote key).length ≤ 20)
    (hex : isLowerHex value digits = true) (length : digits ≤ 64) :
    ShortMember (key, .text value) :=
  shortMember_text short (plain_of_lowerHex hex) (by rw [isLowerHex_length hex]; exact length)

theorem shortMember_number {key : Bytes} {n : Nat} (short : (quote key).length ≤ 20)
    (fits : n ≤ kMaximumUint64) : ShortMember (key, .number n) := by
  have digits : (decimal n).length ≤ 20 :=
    length_decimal_le (by omega) (lt_of_le_of_lt fits (by decide))
  refine ⟨short, ?_⟩
  rw [scalarText_number]
  omega

theorem shortMember_flag {key : Bytes} (short : (quote key).length ≤ 20) (value : Bool) :
    ShortMember (key, .flag value) := by
  have texts : ∀ value, (flagText value).length ≤ 66 := by decide
  exact ⟨short, texts value⟩

theorem length_authorizationKind {value : Bytes} (h : authorizationKindValid value = true) :
    value.length ≤ 64 := by
  simp only [authorizationKindValid, Bool.or_eq_true, beq_iff_eq] at h
  rcases h with (((rfl | rfl) | rfl) | rfl) | rfl <;> decide

theorem shortMembers {claims : ParsedClaims} {now : Nat} (h : VerifierClaims crypto claims now)
    (numbers : claims.NumbersUpTo kMaximumUint64) :
    ∀ mem ∈ claims.members, ShortMember mem := by
  have plain := h.plainTexts
  have type : ShortMember (ascii "typ", .text claims.type) :=
    shortMember_text (by decide) plain.type (by rw [h.type]; decide)
  have issuer : ShortMember (ascii "iss", .text claims.issuer) :=
    shortMember_text (by decide) plain.issuer (by rw [h.issuer]; decide)
  have audience : ShortMember (ascii "aud", .text claims.audience) :=
    shortMember_text (by decide) plain.audience (by rw [h.audience]; decide)
  have phase : ShortMember (ascii "phase", .text claims.phase) :=
    shortMember_text (by decide) plain.phase (by rw [h.phase]; decide)
  have kind : ShortMember (ascii "authorization_kind", .text claims.authorizationKind) :=
    shortMember_text (by decide) plain.authorizationKind
      (length_authorizationKind h.authorizationKind)
  have nonzero {key value : Bytes} {digits : Nat} (short : (quote key).length ≤ 20)
      (hex : isNonzeroLowerHex value digits = true) (length : digits ≤ 64) :
      ShortMember (key, .text value) := shortMember_hex short (isLowerHex_of_nonzero hex) length
  have previous : ShortMember (ascii "pth", .text claims.previousTicketSha256) :=
    shortMember_hex (by decide) (isLowerHex_of_previousTicketValid h.previousTicketSha256) le_rfl
  simp only [VerifiedUsageLeaseClaims.members, VerifiedUsageLeaseClaims.leadingMembers,
    VerifiedUsageLeaseClaims.trailingMembers, List.cons_append, List.nil_append,
    List.forall_mem_cons]
  exact ⟨nonzero (by decide) h.androidKeySha256 le_rfl, audience, kind,
    nonzero (by decide) h.channelBindingSha256 le_rfl,
    shortMember_number (by decide) numbers.expiresAtEpoch,
    nonzero (by decide) h.hostKeySha256 le_rfl,
    shortMember_number (by decide) numbers.issuedAtEpoch,
    shortMember_flag (by decide) _, issuer, nonzero (by decide) h.leaseIdHex (by omega),
    shortMember_number (by decide) numbers.notBeforeEpoch, phase,
    nonzero (by decide) h.pairId (by omega), previous,
    shortMember_number (by decide) numbers.protocolVersion,
    shortMember_number (by decide) numbers.remainingSeconds,
    shortMember_number (by decide) numbers.revocationVersion,
    shortMember_number (by decide) numbers.sequence,
    nonzero (by decide) h.sessionId (by omega), nonzero (by decide) h.entitlementId (by omega),
    type, by simp⟩

theorem shortHeader {keyId : Bytes} (hex : isLowerHex keyId 16 = true) :
    ∀ mem ∈ headerMembers keyId, ShortMember mem := by
  simp only [headerMembers, List.forall_mem_cons]
  exact ⟨by unfold ShortMember; decide, shortMember_hex (by decide) hex (by omega),
    by unfold ShortMember; decide, by simp⟩

theorem length_compactToken {claims : ParsedClaims} {now : Nat} {keyId signature : Bytes}
    (h : VerifierClaims crypto claims now) (numbers : claims.NumbersUpTo kMaximumUint64)
    (hex : isLowerHex keyId 16 = true) (short : signature.length ≤ kMaximumRsaBits / 8) :
    (compactToken keyId claims signature).length ≤ kHostUsageLeaseMaximumTokenBytesV1 := by
  have hdr : (render (headerMembers keyId)).length ≤ 88 * 3 + 2 := length_render (shortHeader hex)
  have payload : (render claims.members).length ≤ 88 * 21 + 2 :=
    length_render (shortMembers h numbers)
  simp only [compactToken, signingText, List.length_append, List.length_cons, length_encode]
  simp only [kMaximumRsaBits, kHostUsageLeaseMaximumTokenBytesV1] at short ⊢
  omega

/-- A session whose leases the Host has to accept: identities and numbers are well
    formed, and the two digests that name the key and the lease are not all zero. -/
structure WellFormed (crypto : Cryptography) (codec : RsaTokenCodec) (entitlement : EntitlementRow)
    (claims : VerifiedUsageLeaseClaims) : Prop where
  checks : entitlement.Checks
  distinctKeys : entitlement.hostKeySha256 ≠ entitlement.androidKeySha256
  permanent : entitlement.authorizationKind = .permanent → entitlement.remainingSeconds = 0
  numbers : claims.NumbersUpTo kMaximumUint64
  issued : 0 < claims.issuedAtEpoch
  keyId : isNonzeroLowerHex (crypto.keyId codec.publicKey) 16 = true
  leaseId : isNonzeroLowerHex claims.leaseId 32 = true

theorem authorizationKindValid_text (kind : AuthorizationKind) :
    authorizationKindValid kind.text = true := by
  cases kind <;> decide

theorem isPermanent_iff (ent : EntitlementRow) :
    isPermanent ent = true ↔ ent.authorizationKind = .permanent := by
  unfold isPermanent
  cases ent.authorizationKind <;> decide

theorem previousTicketValid_of_issuable {value : Bytes} {sequence : Nat}
    (h : validPreviousLeaseSha256 value sequence = true) :
    previousTicketValid value sequence = true := by
  unfold validPreviousLeaseSha256 at h
  unfold previousTicketValid
  split at h
  · cases h
  split at h
  · rename_i zero
    rw [if_pos zero]
    exact h
  · rename_i pos
    rw [if_neg pos]
    exact h

section

variable {crypto : Cryptography} {codec : RsaTokenCodec} {ent : EntitlementRow}
  {sessionId channelBindingSha256 : Bytes} {sequence : Nat} {phase : Bytes} {duration : Nat}
  {previousLeaseSha256 : Bytes} {now notBefore : Nat}

theorem signedClaims_plainTexts
    (h : Issuable codec ent sessionId channelBindingSha256 sequence phase duration
      previousLeaseSha256 now notBefore) :
    (signedClaims crypto ent sessionId channelBindingSha256 sequence previousLeaseSha256
      now notBefore (notBefore + duration)).PlainTexts where
  type := show Plain USAGE_LEASE_TYPE by decide
  issuer := show Plain USAGE_LEASE_ISSUER by decide
  audience := show Plain USAGE_LEASE_AUDIENCE by decide
  entitlementId := plain_of_nonzeroHex h.entitlementId
  pairId := plain_of_nonzeroHex h.pairId
  sessionId := plain_of_nonzeroHex h.sessionId
  hostKeySha256 := plain_of_nonzeroHex h.hostKeySha256
  androidKeySha256 := plain_of_nonzeroHex h.androidKeySha256
  channelBindingSha256 := plain_of_nonzeroHex h.channelBindingSha256
  previousTicketSha256 := plain_of_lowerHex
    (isLowerHex_of_previousTicketValid (previousTicketValid_of_issuable h.previousLeaseSha256))
  phase := show Plain (ascii "active") by decide
  authorizationKind := plain_of_authorizationKindValid (authorizationKindValid_text _)
  leaseId := plain_of_lowerHex (Cryptography.isLowerHex_take
    (Cryptography.isLowerHex_sha256Hex _) (by decide))

theorem signedClaims_checked {trustedNow : Nat}
    (h : Issuable codec ent sessionId channelBindingSha256 sequence phase duration
      previousLeaseSha256 now notBefore)
    (formed : WellFormed crypto codec ent (signedClaims crypto ent sessionId
      channelBindingSha256 sequence previousLeaseSha256 now notBefore (notBefore + duration)))
    (ahead : now ≤ trustedNow + kUsageLeaseServerAheadGraceSeconds)
    (unexpired : trustedNow < notBefore + duration) :
    VerifierClaims crypto (signedClaims crypto ent sessionId channelBindingSha256 sequence
      previousLeaseSha256 now notBefore (notBefore + duration)) trustedNow where
  type := rfl
  issuer := rfl
  audience := rfl
  phase := rfl
  authorizationKind := authorizationKindValid_text _
  isPermanent := rfl
  remainingSeconds := fun permanent =>
    formed.permanent ((isPermanent_iff ent).mp permanent)
  entitlementId := h.entitlementId
  pairId := h.pairId
  sessionId := h.sessionId
  hostKeySha256 := h.hostKeySha256
  androidKeySha256 := h.androidKeySha256
  channelBindingSha256 := h.channelBindingSha256
  distinctKeys := formed.distinctKeys
  protocolVersion := formed.checks.protocolVersion
  revocationVersion := formed.checks.revocationVersion
  previousTicketSha256 := previousTicketValid_of_issuable h.previousLeaseSha256
  issued := formed.issued
  issuedBeforeStart := h.notBefore
  window := Nat.lt_add_of_pos_right h.positive
  ttl := by
    have bound := h.ttl.trans codec.ttl.2
    simpa [signedClaims, kHostUsageLeaseMaximumTtlSecondsV1] using bound
  unexpired := unexpired
  serverAhead := ahead
  leaseIdHex := formed.leaseId
  leaseId := by
    rw [canonicalClaimsWithoutLeaseId_eq (signedClaims_plainTexts h),
      lowercaseHex_take, ← canonical_unsignedPayload]
    rfl

theorem verify_issued {sources : List Bytes} {verifier : HostUsageLeaseVerifierV1}
    {lease : IssuedLease} {trustedNow : Nat} (signs : SignsWith crypto codec)
    (created : createFromCanonicalSpkiDer crypto sources = .ok verifier)
    (held : codec.publicKey ∈ sources)
    (issued : codec.issueUsageLease crypto ent sessionId channelBindingSha256 sequence phase
      duration previousLeaseSha256 now notBefore = .ok lease)
    (formed : WellFormed crypto codec ent (signedClaims crypto ent sessionId
      channelBindingSha256 sequence previousLeaseSha256 now notBefore (notBefore + duration)))
    (positive : 0 < trustedNow) (ahead : now ≤ trustedNow + kUsageLeaseServerAheadGraceSeconds)
    (unexpired : trustedNow < notBefore + duration) :
    verifier.verify crypto lease.usageLease
        (signedClaims crypto ent sessionId channelBindingSha256 sequence
          previousLeaseSha256 now notBefore (notBefore + duration)).binding trustedNow =
      .ok
        { claims := signedClaims crypto ent sessionId channelBindingSha256 sequence
            previousLeaseSha256 now notBefore (notBefore + duration)
          ticketSha256 := crypto.sha256Hex lease.usageLease } := by
  obtain ⟨issuable, rfl⟩ := RsaTokenCodec.issueUsageLease_eq_ok.mp issued
  have checked := signedClaims_checked issuable formed ahead unexpired
  obtain ⟨key, imported, selected⟩ := createFromCanonicalSpkiDer_selects created held
  obtain ⟨bits, modulus, large, size, -, rfl⟩ := importVerificationKey_eq_some imported
  have length := signs.modulus bits modulus
  refine HostUsageLeaseVerifierV1.verify_eq_ok.mpr ⟨checked.expectedBindingValid, rfl,
    ⟨crypto.keyId codec.publicKey, codec.publicKey, bits / 8⟩,
    codec.sign (signingText (crypto.keyId codec.publicKey) (signedClaims crypto ent
      sessionId channelBindingSha256 sequence previousLeaseSha256 now notBefore
      (notBefore + duration))), ?_⟩
  exact
    { positive := positive
      short := length_compactToken checked formed.numbers (isLowerHex_of_nonzero formed.keyId)
        (by rw [length]; exact Nat.div_le_div_right size)
      spelled := rfl
      keyId := formed.keyId
      selected := selected
      signatureBytes := length _
      nonempty := by
        have long := length (signingText (crypto.keyId codec.publicKey) (signedClaims crypto
          ent sessionId channelBindingSha256 sequence previousLeaseSha256 now notBefore
          (notBefore + duration)))
        apply List.ne_nil_of_length_pos
        simp only [kMinimumRsaBits] at large
        omega
      verifies := (signs.exactly _ _).mpr rfl
      numbers := formed.numbers
      checked := checked
      bound := by simp [claimsMatchExpected, VerifiedUsageLeaseClaims.binding] }

end

section

variable {crypto : Cryptography} {verifier : HostUsageLeaseVerifierV1} {token : Bytes}
  {binding : UsageLeaseBinding} {now : Nat} {lease : VerifiedUsageLease}

theorem verified_claimsValid (h : verifier.verify crypto token binding now = .ok lease)
    (digest : isNonzeroLowerHex (crypto.sha256Hex token) 64 = true) :
    UsageLease.claimsValid lease now = true := by
  obtain ⟨-, sameDigest, key, signature, ok⟩ := HostUsageLeaseVerifierV1.verify_eq_ok.mp h
  have checked := ok.checked
  exact UsageLease.claimsValid_iff.mpr
    { now := ok.positive
      type := checked.type
      issuer := checked.issuer
      audience := checked.audience
      entitlementId := checked.entitlementId
      pairId := checked.pairId
      sessionId := checked.sessionId
      protocolVersion := checked.protocolVersion
      revocationVersion := checked.revocationVersion
      hostKeySha256 := checked.hostKeySha256
      androidKeySha256 := checked.androidKeySha256
      channelBindingSha256 := checked.channelBindingSha256
      previousTicketSha256 := isLowerHex_of_previousTicketValid checked.previousTicketSha256
      ticketSha256 := sameDigest ▸ digest
      phase := checked.phase
      issued := checked.issued
      issuedBeforeStart := checked.issuedBeforeStart
      serverAhead := checked.serverAhead
      window := checked.window
      ttl := checked.ttl }

theorem verified_bindingMatches (h : verifier.verify crypto token binding now = .ok lease) :
    bindingMatches binding lease.claims = true := by
  obtain ⟨-, -, key, signature, ok⟩ := HostUsageLeaseVerifierV1.verify_eq_ok.mp h
  have bound := ok.bound
  simpa only [claimsMatchExpected, bindingMatches, Bool.false_or] using bound

def IllFormed (admission : UsageLeaseAdmission) : Prop :=
  admission = .rejectedClaims ∨ admission = .rejectedBinding

theorem submitInitial_answer (gate : UsageLeaseGate) (ticket : VerifiedUsageLease) (now : Nat) :
    ¬IllFormed (gate.submitInitial ticket now).2 := by
  unfold UsageLeaseGate.submitInitial IllFormed
  grind

theorem submitSuccessor_answer (gate : UsageLeaseGate) (cur ticket : VerifiedUsageLease)
    (now : Nat) : ¬IllFormed (gate.submitSuccessor cur ticket now).2 := by
  unfold UsageLeaseGate.submitSuccessor IllFormed
  grind

theorem submit_answer {gate : UsageLeaseGate} {ticket : VerifiedUsageLease}
    (valid : UsageLease.claimsValid ticket now = true)
    (matching : bindingMatches gate.binding ticket.claims = true) :
    ¬IllFormed (gate.submitVerifiedTicket ticket now).2 := by
  have kept := (UsageLeaseGate.evaluateLocked_evaluates gate now).binding_eq
  unfold UsageLeaseGate.submitVerifiedTicket
  simp only [valid, kept, matching, Bool.not_true, Bool.false_eq_true, if_false]
  split
  · simp [IllFormed]
  split
  · apply submitInitial_answer
  split
  · simp [IllFormed]
  split
  · simp [IllFormed]
  split
  · simp [IllFormed]
  apply submitSuccessor_answer

end

/-- Every lease the service signs for a well-formed session is accepted by a verifier
    that holds the key, with the signed claims and the digest of the token; and
    every lease the verifier returns passes the checks of the gate. -/
theorem issued_lease_reaches_gate (crypto : Cryptography) :
    (∀ (codec : RsaTokenCodec) (sources : List Bytes) (verifier : HostUsageLeaseVerifierV1)
        (ent : EntitlementRow) (sessionId channelBindingSha256 : Bytes) (sequence : Nat)
        (phase : Bytes) (duration : Nat) (previousLeaseSha256 : Bytes)
        (now notBefore trustedNow : Nat) (lease : IssuedLease),
      let claims := signedClaims crypto ent sessionId channelBindingSha256 sequence
        previousLeaseSha256 now notBefore (notBefore + duration)
      SignsWith crypto codec → createFromCanonicalSpkiDer crypto sources = .ok verifier →
      codec.publicKey ∈ sources →
      codec.issueUsageLease crypto ent sessionId channelBindingSha256 sequence phase
        duration previousLeaseSha256 now notBefore = .ok lease →
      WellFormed crypto codec ent claims →
      0 < trustedNow → now ≤ trustedNow + kUsageLeaseServerAheadGraceSeconds →
      trustedNow < lease.usageLeaseExpiresAtEpoch →
      verifier.verify crypto lease.usageLease claims.binding trustedNow =
        .ok { claims := claims, ticketSha256 := crypto.sha256Hex lease.usageLease }) ∧
    (∀ (verifier : HostUsageLeaseVerifierV1) (token : Bytes) (binding : UsageLeaseBinding)
        (now : Nat) (lease : VerifiedUsageLease),
      verifier.verify crypto token binding now = .ok lease →
      isNonzeroLowerHex (crypto.sha256Hex token) 64 = true →
      UsageLease.claimsValid lease now = true ∧ bindingMatches binding lease.claims = true ∧
      ∀ gate : UsageLeaseGate, gate.binding = binding →
        (gate.submitVerifiedTicket lease now).2 ≠ .rejectedClaims ∧
          (gate.submitVerifiedTicket lease now).2 ≠ .rejectedBinding) := by
  refine ⟨?_, ?_⟩
  · intro codec sources verifier ent sessionId channelBindingSha256 sequence phase
      duration previousLeaseSha256 now notBefore trustedNow lease claims signs created held issued
      formed positive ahead unexpired
    have expires : lease.usageLeaseExpiresAtEpoch = notBefore + duration := by
      obtain ⟨-, rfl⟩ := RsaTokenCodec.issueUsageLease_eq_ok.mp issued
      rfl
    rw [expires] at unexpired
    exact verify_issued signs created held issued formed positive ahead unexpired
  · intro verifier token binding now lease verified digest
    have valid := verified_claimsValid verified digest
    have matching := verified_bindingMatches verified
    refine ⟨valid, matching, ?_⟩
    intro gate bound
    subst bound
    exact not_or.mp (submit_answer valid matching)

def concreteCodec : RsaTokenCodec where
  publicKey := signingKey
  sign := signWithKey
  leaseTtlSeconds := 5
  ttl := by decide

theorem concreteCodec_signs : SignsWith concreteCryptography concreteCodec where
  exactly := by
    intro input signature
    simp [concreteCryptography, concreteCodec]
  modulus := by
    intro bits modulus input
    simp only [concreteCryptography, concreteCodec, if_true, Option.some.injEq] at modulus
    subst modulus
    exact length_signWithKey input

def concreteVerifier : HostUsageLeaseVerifierV1 where
  verificationKeys := [⟨concreteCryptography.keyId signingKey, signingKey, 384⟩]

theorem concreteVerifier_created :
    createFromCanonicalSpkiDer concreteCryptography [signingKey] = .ok concreteVerifier := by
  have modulus : concreteCryptography.rsaModulusBits signingKey = some 3072 := by
    simp [concreteCryptography]
  have enc : ¬(signingKey = [] ∨ kMaximumSpkiDerBytes < signingKey.length) := by
    decide +kernel
  have imported : importVerificationKey concreteCryptography signingKey =
      some ⟨concreteCryptography.keyId signingKey, signingKey, 384⟩ := by
    simp only [importVerificationKey, if_neg enc, modulus]
    rfl
  simp [createFromCanonicalSpkiDer, addKey, imported, concreteVerifier]

def concreteEntitlement : EntitlementRow where
  entitlementId := List.replicate 32 97
  pairId := List.replicate 32 98
  protocolVersion := 2
  hostClientVersion := ascii "1.0.0"
  hostIdentityPublicKeyB64 := []
  hostKeySha256 := List.replicate 64 49
  androidClientVersion := ascii "1.0.0"
  androidIdentityPublicKeyB64 := []
  androidKeySha256 := List.replicate 64 50
  remainingSeconds := 3595
  totalCreditedSeconds := 3600
  totalConsumedSeconds := 5
  status := .active
  revocationVersion := 1
  authorizationKind := .legacyBalance
  productKey := []

/-- The claims of a first lease of five seconds, signed at `now`. -/
def concreteClaims (now : Nat) : VerifiedUsageLeaseClaims :=
  signedClaims concreteCryptography concreteEntitlement (List.replicate 32 99)
    (List.replicate 64 51) 0 kZeroSha256 now now (now + 5)

def concreteLease (now : Nat) : IssuedLease :=
  let token := concreteCodec.signedToken concreteCryptography (concreteClaims now)
  { usageLease := token
    usageLeaseSha256 := concreteCryptography.sha256Hex token
    usageLeaseExpiresAtEpoch := now + 5
    usageLeaseNotBeforeEpoch := now
    usageLeaseTtlSeconds := 5 }

theorem concreteLease_issued (now : Nat) :
    concreteCodec.issueUsageLease concreteCryptography concreteEntitlement (List.replicate 32 99)
      (List.replicate 64 51) 0 (ascii "active") 5 kZeroSha256 now now = .ok (concreteLease now) := by
  apply RsaTokenCodec.issueUsageLease_eq_ok.mpr
  refine ⟨⟨by decide, by decide, le_rfl, rfl, by decide, by decide, by decide, by decide,
    by decide, by decide, by decide⟩, rfl⟩

/-- A lease signed at 1000 and verified by a Host clock two seconds behind. -/
theorem concrete_lease_reaches_gate :
    concreteVerifier.verify concreteCryptography (concreteLease 1000).usageLease
        (concreteClaims 1000).binding 998 =
      .ok
        { claims := concreteClaims 1000
          ticketSha256 := concreteCryptography.sha256Hex (concreteLease 1000).usageLease } ∧
      UsageLease.claimsValid
        { claims := concreteClaims 1000
          ticketSha256 := concreteCryptography.sha256Hex (concreteLease 1000).usageLease }
        998 = true := by
  have formed : WellFormed concreteCryptography concreteCodec concreteEntitlement
      (concreteClaims 1000) :=
    { checks := by decide
      distinctKeys := by decide
      permanent := by decide
      numbers := ⟨by decide, by decide, by decide, by decide, by decide, by decide, by decide⟩
      issued := by decide
      keyId := by decide +kernel
      leaseId := by decide +kernel }
  have results := issued_lease_reaches_gate concreteCryptography
  have verified := results.1 concreteCodec [signingKey] concreteVerifier concreteEntitlement
    (List.replicate 32 99) (List.replicate 64 51) 0 (ascii "active") 5 kZeroSha256 1000 1000 998
    (concreteLease 1000) concreteCodec_signs concreteVerifier_created (by simp [concreteCodec])
    (concreteLease_issued 1000) formed (by decide) (by decide) (by decide)
  have digest : isNonzeroLowerHex
      (concreteCryptography.sha256Hex (concreteLease 1000).usageLease) 64 = true := by
    decide +kernel
  exact ⟨verified, (results.2 concreteVerifier _ _ _ _ verified digest).1⟩

/-- A lease of the first two seconds of the epoch, shown to a Host without a trusted
    time, is refused although its issue time is within the grace. -/
theorem zero_trusted_time_refuses_lease :
    SignsWith concreteCryptography concreteCodec ∧
      createFromCanonicalSpkiDer concreteCryptography [concreteCodec.publicKey] =
        .ok concreteVerifier ∧
      concreteCodec.issueUsageLease concreteCryptography concreteEntitlement
        (List.replicate 32 99) (List.replicate 64 51) 0 (ascii "active") 5 kZeroSha256 1 1 =
        .ok (concreteLease 1) ∧
      concreteEntitlement.Checks ∧
      concreteEntitlement.hostKeySha256 ≠ concreteEntitlement.androidKeySha256 ∧
      (concreteClaims 1).issuedAtEpoch ≤ 0 + kUsageLeaseServerAheadGraceSeconds ∧
      0 < (concreteLease 1).usageLeaseExpiresAtEpoch ∧
      concreteVerifier.verify concreteCryptography (concreteLease 1).usageLease
        (concreteClaims 1).binding 0 = .error .tokenInvalid := by
  refine ⟨concreteCodec_signs, concreteVerifier_created, concreteLease_issued 1, by decide,
    by decide, by decide, by decide, ?_⟩
  have valid : expectedBindingValid (concreteClaims 1).binding = true := by decide
  unfold HostUsageLeaseVerifierV1.verify HostUsageLeaseVerifierV1.verifyInternal
  simp [valid]

end VisionForge.Agreement
