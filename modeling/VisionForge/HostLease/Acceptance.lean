import VisionForge.HostLease.Verifier
import VisionForge.UsageLease.Contract

/-! # What the Host verifier accepts

Every stage of the verifier succeeds exactly on the canonical spelling of its
result, so an accepted token is the compact token of its claims and, conversely,
the compact token of claims that pass the checks is accepted.
-/

namespace VisionForge.HostLease

open Lib.Ascii Lib.Base64Url Lib.Decimal Lib.FlatJson Lib.Hex Lib.Segments UsageLease
  CanonicalJsonCursor

theorem firstOctet_shift {x y : Nat} (hy : y < 64) :
    UInt8.ofNat ((x <<< 2) ||| (y >>> 4)) = firstOctet x y := by
  have small : y >>> 4 < 2 ^ 2 := by
    omega
  rw [← Nat.shiftLeft_add_eq_or_of_lt small, Nat.shiftRight_eq_div_pow, Nat.shiftLeft_eq]
  rfl

theorem secondOctet_shift {y z : Nat} (hz : z < 64) :
    UInt8.ofNat ((y <<< 4) ||| (z >>> 2)) = secondOctet y z := by
  have small : z >>> 2 < 2 ^ 4 := by
    omega
  rw [← Nat.shiftLeft_add_eq_or_of_lt small, Nat.shiftRight_eq_div_pow, Nat.shiftLeft_eq]
  apply UInt8.toNat_inj.mp
  rw [toNat_secondOctet hz, UInt8.toNat_ofNat']
  omega

theorem thirdOctet_shift {z w : Nat} (hw : w < 64) :
    UInt8.ofNat ((z <<< 6) ||| w) = thirdOctet z w := by
  have small : w < 2 ^ 6 := by omega
  rw [← Nat.shiftLeft_add_eq_or_of_lt small, Nat.shiftLeft_eq]
  apply UInt8.toNat_inj.mp
  rw [toNat_thirdOctet hw, UInt8.toNat_ofNat']
  omega

theorem decodeGroups_encode (bs : Bytes) : decodeGroups (encode bs) = some bs := by
  have decoded := decode_encode bs
  induction bs using encode.induct with
  | case1 => rfl
  | case2 a =>
    have bound := a.toNat_lt
    have unused : a.toNat % 4 * 16 &&& 0x0f = 0 := by
      rw [show (0x0f : Nat) = 2 ^ 4 - 1 by rfl, Nat.and_two_pow_sub_one_eq_mod]
      omega
    simp only [encode, decode, decodeGroups] at decoded ⊢
    rw [value_symbol (by omega), value_symbol (by omega)] at decoded ⊢
    simp only [Option.bind_eq_bind, Option.bind_some, unused, ne_eq, not_true_eq_false, if_false,
      firstOctet_shift (show a.toNat % 4 * 16 < 64 by omega)]
    exact decoded
  | case3 a b =>
    have boundA := a.toNat_lt
    have boundB := b.toNat_lt
    have unused : b.toNat % 16 * 4 &&& 0x03 = 0 := by
      rw [show (0x03 : Nat) = 2 ^ 2 - 1 by rfl, Nat.and_two_pow_sub_one_eq_mod]
      omega
    simp only [encode, decode, decodeGroups] at decoded ⊢
    rw [value_symbol (by omega), value_symbol (by omega), value_symbol (by omega)] at decoded ⊢
    simp only [Option.bind_eq_bind, Option.bind_some, unused, ne_eq, not_true_eq_false, if_false,
      firstOctet_shift (show a.toNat % 4 * 16 + b.toNat / 16 < 64 by omega),
      secondOctet_shift (show b.toNat % 16 * 4 < 64 by omega)]
    exact decoded
  | case4 a b c rest ih =>
    have boundA := a.toNat_lt
    have boundB := b.toNat_lt
    have boundC := c.toNat_lt
    simp only [encode, decode, decodeGroups, decode_encode, ih (decode_encode rest)] at decoded ⊢
    rw [value_symbol (by omega), value_symbol (by omega), value_symbol (by omega),
      value_symbol (by omega)] at decoded ⊢
    simp only [Option.bind_eq_bind, Option.bind_some,
      firstOctet_shift (show a.toNat % 4 * 16 + b.toNat / 16 < 64 by omega),
      secondOctet_shift (show b.toNat % 16 * 4 + c.toNat / 64 < 64 by omega),
      thirdOctet_shift (show c.toNat % 64 < 64 by omega)]
    exact decoded

theorem of_decodeGroups {encoded octets : Bytes} (h : decodeGroups encoded = some octets) :
    encoded = encode octets := by
  induction encoded using decodeGroups.induct generalizing octets with
  | case1 =>
    cases h
    rfl
  | case2 => simp [decodeGroups] at h
  | case3 a b =>
    simp only [decodeGroups, Option.bind_eq_bind, Option.bind_eq_some_iff] at h
    obtain ⟨x, hx, y, hy, last⟩ := h
    obtain ⟨boundX, isX⟩ := symbol_value hx
    obtain ⟨boundY, isY⟩ := symbol_value hy
    split at last
    · cases last
    rename_i unused
    rw [not_not, show (0x0f : Nat) = 2 ^ 4 - 1 by rfl, Nat.and_two_pow_sub_one_eq_mod] at unused
    cases last
    rw [firstOctet_shift boundY, encode_pair boundX boundY (by simpa using unused), isX, isY]
  | case4 a b c =>
    simp only [decodeGroups, Option.bind_eq_bind, Option.bind_eq_some_iff] at h
    obtain ⟨x, hx, y, hy, z, hz, last⟩ := h
    obtain ⟨boundX, isX⟩ := symbol_value hx
    obtain ⟨boundY, isY⟩ := symbol_value hy
    obtain ⟨boundZ, isZ⟩ := symbol_value hz
    split at last
    · cases last
    rename_i unused
    rw [not_not, show (0x03 : Nat) = 2 ^ 2 - 1 by rfl, Nat.and_two_pow_sub_one_eq_mod] at unused
    cases last
    rw [firstOctet_shift boundY, secondOctet_shift boundZ,
      encode_triple boundX boundY boundZ (by simpa using unused), isX, isY, isZ]
  | case5 a b c d rest ih =>
    simp only [decodeGroups, Option.bind_eq_bind, Option.bind_eq_some_iff] at h
    obtain ⟨x, hx, y, hy, z, hz, w, hw, tail, htail, last⟩ := h
    obtain ⟨boundX, isX⟩ := symbol_value hx
    obtain ⟨boundY, isY⟩ := symbol_value hy
    obtain ⟨boundZ, isZ⟩ := symbol_value hz
    obtain ⟨boundW, isW⟩ := symbol_value hw
    cases last
    rw [firstOctet_shift boundY, secondOctet_shift boundZ, thirdOctet_shift boundW,
      encode_quad boundX boundY boundZ boundW, isX, isY, isZ, isW, ih htail]

theorem decodeBase64urlCanonical_eq_some {enc bs : Bytes} :
    decodeBase64urlCanonical enc = some bs ↔ enc = encode bs ∧ bs ≠ [] := by
  constructor
  · intro h
    unfold decodeBase64urlCanonical at h
    split at h
    · cases h
    rename_i some
    have known := of_decodeGroups h
    refine ⟨known, ?_⟩
    rintro rfl
    exact some (.inl known)
  · rintro ⟨rfl, nonempty⟩
    have length := length_encode bs
    unfold decodeBase64urlCanonical
    rw [if_neg, decodeGroups_encode]
    rintro (none | odd)
    · exact encode_ne_nil nonempty none
    · omega

theorem opening_eq {key : Bytes} (plain : Plain key) :
    opening key = 123 :: (quote key ++ [58]) := by
  rw [quote_plain plain, opening, List.append_assoc, show ascii "\x7b\"" = [123, 34] by decide,
    show ascii "\":" = [34, 58] by decide]
  simp

theorem separator_eq {key : Bytes} (plain : Plain key) :
    separator key = 44 :: (quote key ++ [58]) := by
  rw [quote_plain plain, separator, List.append_assoc, show ascii ",\"" = [44, 34] by decide,
    show ascii "\":" = [34, 58] by decide]
  simp

theorem quoted_eq {value : Bytes} (plain : Plain value) : quoted value = quote value := by
  rw [quote_plain plain, quoted]
  rfl

theorem render_cons {key : Bytes} (plain : Plain key) (value : Scalar) (mems : Members) :
    render ((key, value) :: mems) =
      opening key ++ (scalarText value ++ (tailText mems ++ closing)) := by
  rw [opening_eq plain]
  simp only [render, memberText, List.cons_append, List.append_assoc, List.nil_append]
  rfl

theorem tailText_cons {key : Bytes} (plain : Plain key) (value : Scalar) (mems : Members)
    (rest : Bytes) :
    tailText ((key, value) :: mems) ++ rest =
      separator key ++ (scalarText value ++ (tailText mems ++ rest)) := by
  rw [separator_eq plain]
  simp [tailText, memberText]

@[simp] theorem tailText_nil (rest : Bytes) : tailText [] ++ rest = rest := rfl

theorem parseCanonicalHeader_eq_some {raw keyId : Bytes} :
    parseCanonicalHeader raw = some keyId ↔
      raw = render (headerMembers keyId) ∧ isNonzeroLowerHex keyId 16 = true := by
  have text : render (headerMembers keyId) =
      opening (ascii "alg") ++ (quote (ascii "RS256") ++ (separator (ascii "kid") ++
        (quote keyId ++ (separator (ascii "typ") ++ (quote (ascii "JWT") ++ closing))))) := by
    rw [headerMembers, render_cons (by decide), tailText_cons (by decide),
      tailText_cons (by decide), tailText_nil]
    rfl
  rw [text, parseCanonicalHeader, Option.map_eq_some_iff]
  constructor
  · rintro ⟨⟨_, rest⟩, h, rfl⟩
    obtain ⟨algorithm, _, rfl, -, h⟩ := bind_text.mp h
    obtain ⟨rfl, h⟩ := bind_guard.mp h
    obtain ⟨keyId, _, rfl, -, h⟩ := bind_text.mp h
    obtain ⟨hex, h⟩ := bind_guard.mp h
    obtain ⟨tokenType, _, rfl, -, h⟩ := bind_text.mp h
    obtain ⟨rfl, h⟩ := bind_guard.mp h
    obtain ⟨rfl, same⟩ := close_object.mp h
    cases same
    exact ⟨rfl, hex⟩
  · rintro ⟨rfl, hex⟩
    refine ⟨(keyId, []), ?_, rfl⟩
    refine bind_text.mpr ⟨_, _, rfl, by decide, ?_⟩
    refine bind_guard.mpr ⟨rfl, ?_⟩
    refine bind_text.mpr ⟨_, _, rfl, plain_of_nonzeroHex hex, ?_⟩
    refine bind_guard.mpr ⟨hex, ?_⟩
    refine bind_text.mpr ⟨_, _, rfl, by decide, ?_⟩
    refine bind_guard.mpr ⟨rfl, ?_⟩
    exact close_object.mpr ⟨rfl, rfl⟩

/-- The text of the claims, cut where the parser reads it. -/
theorem render_members (claims : ParsedClaims) :
    render claims.members =
      opening (ascii "akh") ++ (quote claims.androidKeySha256 ++ (
      separator (ascii "aud") ++ (quote claims.audience ++ (
      separator (ascii "authorization_kind") ++ (quote claims.authorizationKind ++ (
      separator (ascii "cbh") ++ (quote claims.channelBindingSha256 ++ (
      separator (ascii "exp") ++ (decimal claims.expiresAtEpoch ++ (
      separator (ascii "hkh") ++ (quote claims.hostKeySha256 ++ (
      separator (ascii "iat") ++ (decimal claims.issuedAtEpoch ++ (
      separator (ascii "is_permanent") ++ (flagText claims.isPermanent ++ (
      separator (ascii "iss") ++ (quote claims.issuer ++ (
      separator (ascii "jti") ++ (quote claims.leaseId ++ (
      separator (ascii "nbf") ++ (decimal claims.notBeforeEpoch ++ (
      separator (ascii "phase") ++ (quote claims.phase ++ (
      separator (ascii "pid") ++ (quote claims.pairId ++ (
      separator (ascii "pth") ++ (quote claims.previousTicketSha256 ++ (
      separator (ascii "pv") ++ (decimal claims.protocolVersion ++ (
      separator (ascii "remaining") ++ (decimal claims.remainingSeconds ++ (
      separator (ascii "rv") ++ (decimal claims.revocationVersion ++ (
      separator (ascii "seq") ++ (decimal claims.sequence ++ (
      separator (ascii "sid") ++ (quote claims.sessionId ++ (
      separator (ascii "sub") ++ (quote claims.entitlementId ++ (
      separator (ascii "typ") ++ (quote claims.type ++ (
      closing)))))))))))))))))))))))))))))))))))))))))) := by
  simp only [VerifiedUsageLeaseClaims.members, VerifiedUsageLeaseClaims.leadingMembers,
    VerifiedUsageLeaseClaims.trailingMembers, List.cons_append, List.nil_append]
  rw [render_cons (by decide)]
  iterate 20 rw [tailText_cons (by decide)]
  rw [tailText_nil]
  simp only [scalarText_text, scalarText_number, scalarText_flag]

variable {claims : ParsedClaims}

theorem parseCanonicalPayload_eq_some {raw : Bytes} :
    parseCanonicalPayload raw = some claims ↔
      raw = render claims.members ∧ claims.PlainTexts ∧ claims.NumbersUpTo kMaximumUint64 := by
  rw [render_members, parseCanonicalPayload, Option.map_eq_some_iff]
  constructor
  · rintro ⟨⟨_, rest⟩, h, rfl⟩
    obtain ⟨androidKeySha256, _, rfl, androidKeySha256Plain, h⟩ := bind_text.mp h
    obtain ⟨audience, _, rfl, audiencePlain, h⟩ := bind_text.mp h
    obtain ⟨authorizationKind, _, rfl, authorizationKindPlain, h⟩ := bind_text.mp h
    obtain ⟨channelBindingSha256, _, rfl, channelBindingSha256Plain, h⟩ := bind_text.mp h
    obtain ⟨expiresAtEpoch, _, rfl, -, expiresAtEpochFits, h⟩ := bind_number.mp h
    obtain ⟨hostKeySha256, _, rfl, hostKeySha256Plain, h⟩ := bind_text.mp h
    obtain ⟨issuedAtEpoch, _, rfl, -, issuedAtEpochFits, h⟩ := bind_number.mp h
    obtain ⟨isPermanent, _, rfl, later⟩ := bind_flag.mp h
    obtain ⟨issuer, _, rfl, issuerPlain, h⟩ := bind_text.mp later
    obtain ⟨leaseId, _, rfl, leaseIdPlain, h⟩ := bind_text.mp h
    obtain ⟨notBeforeEpoch, _, rfl, -, notBeforeEpochFits, h⟩ := bind_number.mp h
    obtain ⟨phase, _, rfl, phasePlain, h⟩ := bind_text.mp h
    obtain ⟨pairId, _, rfl, pairIdPlain, h⟩ := bind_text.mp h
    obtain ⟨previousTicketSha256, _, rfl, previousTicketSha256Plain, h⟩ := bind_text.mp h
    obtain ⟨protocolVersion, _, rfl, -, protocolVersionFits, h⟩ := bind_number.mp h
    obtain ⟨remainingSeconds, _, rfl, -, remainingSecondsFits, h⟩ := bind_number.mp h
    obtain ⟨revocationVersion, _, rfl, -, revocationVersionFits, h⟩ := bind_number.mp h
    obtain ⟨sequence, _, rfl, -, sequenceFits, h⟩ := bind_number.mp h
    obtain ⟨sessionId, _, rfl, sessionIdPlain, h⟩ := bind_text.mp h
    obtain ⟨entId, _, rfl, entitlementIdPlain, h⟩ := bind_text.mp h
    obtain ⟨type, _, rfl, typePlain, h⟩ := bind_text.mp h
    obtain ⟨rfl, same⟩ := close_object.mp h
    cases same
    exact ⟨rfl, by constructor <;> assumption, by constructor <;> assumption⟩
  · rintro ⟨rfl, plain, fits⟩
    refine ⟨(claims, []), ?_, rfl⟩
    refine bind_text.mpr ⟨_, _, rfl, plain.androidKeySha256, ?_⟩
    refine bind_text.mpr ⟨_, _, rfl, plain.audience, ?_⟩
    refine bind_text.mpr ⟨_, _, rfl, plain.authorizationKind, ?_⟩
    refine bind_text.mpr ⟨_, _, rfl, plain.channelBindingSha256, ?_⟩
    refine bind_number.mpr ⟨_, _, rfl, rfl, fits.expiresAtEpoch, ?_⟩
    refine bind_text.mpr ⟨_, _, rfl, plain.hostKeySha256, ?_⟩
    refine bind_number.mpr ⟨_, _, rfl, rfl, fits.issuedAtEpoch, ?_⟩
    refine bind_flag.mpr ⟨_, _, rfl, ?_⟩
    refine bind_text.mpr ⟨_, _, rfl, plain.issuer, ?_⟩
    refine bind_text.mpr ⟨_, _, rfl, plain.leaseId, ?_⟩
    refine bind_number.mpr ⟨_, _, rfl, rfl, fits.notBeforeEpoch, ?_⟩
    refine bind_text.mpr ⟨_, _, rfl, plain.phase, ?_⟩
    refine bind_text.mpr ⟨_, _, rfl, plain.pairId, ?_⟩
    refine bind_text.mpr ⟨_, _, rfl, plain.previousTicketSha256, ?_⟩
    refine bind_number.mpr ⟨_, _, rfl, rfl, fits.protocolVersion, ?_⟩
    refine bind_number.mpr ⟨_, _, rfl, rfl, fits.remainingSeconds, ?_⟩
    refine bind_number.mpr ⟨_, _, rfl, rfl, fits.revocationVersion, ?_⟩
    refine bind_number.mpr ⟨_, _, rfl, rfl, fits.sequence, ?_⟩
    refine bind_text.mpr ⟨_, _, rfl, plain.sessionId, ?_⟩
    refine bind_text.mpr ⟨_, _, rfl, plain.entitlementId, ?_⟩
    refine bind_text.mpr ⟨_, _, rfl, plain.type, ?_⟩
    exact close_object.mpr ⟨rfl, rfl⟩

theorem canonicalClaimsWithoutLeaseId_eq (plain : claims.PlainTexts) :
    canonicalClaimsWithoutLeaseId claims = render claims.membersWithoutLeaseId := by
  simp only [VerifiedUsageLeaseClaims.membersWithoutLeaseId,
    VerifiedUsageLeaseClaims.leadingMembers, VerifiedUsageLeaseClaims.trailingMembers,
    List.cons_append, List.nil_append]
  rw [render_cons (by decide)]
  iterate 19 rw [tailText_cons (by decide)]
  rw [tailText_nil]
  unfold canonicalClaimsWithoutLeaseId
  simp only [List.append_assoc, scalarText_text, scalarText_number, scalarText_flag]
  rw [quoted_eq plain.androidKeySha256, quoted_eq plain.audience,
    quoted_eq plain.authorizationKind, quoted_eq plain.channelBindingSha256,
    quoted_eq plain.hostKeySha256, quoted_eq plain.issuer, quoted_eq plain.phase,
    quoted_eq plain.pairId, quoted_eq plain.previousTicketSha256, quoted_eq plain.sessionId,
    quoted_eq plain.entitlementId, quoted_eq plain.type]

structure VerifierClaims (crypto : Cryptography) (claims : ParsedClaims) (trustedNowEpoch : Nat) :
    Prop where
  type : claims.type = kUsageLeaseType
  issuer : claims.issuer = kUsageLeaseIssuer
  audience : claims.audience = kUsageLeaseAudience
  phase : claims.phase = kUsageLeaseActivePhase
  authorizationKind : authorizationKindValid claims.authorizationKind = true
  isPermanent : claims.isPermanent = (claims.authorizationKind == ascii "permanent")
  remainingSeconds : claims.isPermanent = true → claims.remainingSeconds = 0
  entitlementId : isNonzeroLowerHex claims.entitlementId 32 = true
  pairId : isNonzeroLowerHex claims.pairId 32 = true
  sessionId : isNonzeroLowerHex claims.sessionId 32 = true
  hostKeySha256 : isNonzeroLowerHex claims.hostKeySha256 64 = true
  androidKeySha256 : isNonzeroLowerHex claims.androidKeySha256 64 = true
  channelBindingSha256 : isNonzeroLowerHex claims.channelBindingSha256 64 = true
  distinctKeys : claims.hostKeySha256 ≠ claims.androidKeySha256
  protocolVersion : claims.protocolVersion = kUsageLeaseProtocolVersion
  revocationVersion : 0 < claims.revocationVersion
  previousTicketSha256 : previousTicketValid claims.previousTicketSha256 claims.sequence = true
  issued : 0 < claims.issuedAtEpoch
  issuedBeforeStart : claims.issuedAtEpoch ≤ claims.notBeforeEpoch
  window : claims.notBeforeEpoch < claims.expiresAtEpoch
  ttl : claims.expiresAtEpoch - claims.notBeforeEpoch ≤ kHostUsageLeaseMaximumTtlSecondsV1
  unexpired : trustedNowEpoch < claims.expiresAtEpoch
  serverAhead :
    claims.issuedAtEpoch ≤ trustedNowEpoch + kHostUsageLeaseServerAheadGraceSecondsV1
  leaseIdHex : isNonzeroLowerHex claims.leaseId 32 = true
  leaseId : claims.leaseId =
    lowercaseHex ((crypto.sha256 (canonicalClaimsWithoutLeaseId claims)).take 16)

theorem claimsValid_iff {crypto : Cryptography} {now : Nat} :
    claimsValid crypto claims now = true ↔ VerifierClaims crypto claims now := by
  unfold claimsValid leaseIdValid
  simp only [Bool.if_false_left, Bool.and_eq_true, Bool.not_eq_true, Bool.not_eq_true',
    Bool.or_eq_false_iff, bne_eq_false_iff_eq, Bool.not_eq_false', beq_eq_false_iff_ne,
    decide_eq_false_iff_not, decide_eq_true_eq, Bool.and_eq_false_imp, beq_iff_eq]
  constructor
  · rintro ⟨⟨⟨⟨⟨⟨⟨⟨⟨⟨⟨⟨⟨⟨⟨⟨⟨⟨⟨⟨⟨⟨h1, h2⟩, h3⟩, h4⟩, h5⟩, h6⟩, h7⟩, h8⟩, h9⟩, h10⟩, h11⟩, h12⟩,
      h13⟩, h14⟩, h15⟩, h16⟩, h17⟩, h18⟩, h19⟩, h20⟩, h21⟩, h22⟩, ahead, hex, same⟩
    have serverAhead : claims.issuedAtEpoch ≤ now + kHostUsageLeaseServerAheadGraceSecondsV1 := by
      by_contra far
      exact ahead ⟨by omega, by omega⟩
    exact ⟨h1, h2, h3, h4, h5, h6, h7, h8, h9, h10, h11, h12, h13, h14, h15, Nat.pos_of_ne_zero h16,
      h17, Nat.pos_of_ne_zero h18, not_lt.mp h19, not_le.mp h20, not_lt.mp h21, not_le.mp h22,
      serverAhead, hex, same⟩
  · intro h
    have ahead := h.serverAhead
    exact ⟨⟨⟨⟨⟨⟨⟨⟨⟨⟨⟨⟨⟨⟨⟨⟨⟨⟨⟨⟨⟨⟨h.type, h.issuer⟩, h.audience⟩, h.phase⟩, h.authorizationKind⟩,
      h.isPermanent⟩, h.remainingSeconds⟩, h.entitlementId⟩, h.pairId⟩, h.sessionId⟩,
      h.hostKeySha256⟩, h.androidKeySha256⟩, h.channelBindingSha256⟩, h.distinctKeys⟩,
      h.protocolVersion⟩, h.revocationVersion.ne'⟩, h.previousTicketSha256⟩, h.issued.ne'⟩,
      not_lt.mpr h.issuedBeforeStart⟩, not_le.mpr h.window⟩, not_lt.mpr h.ttl⟩,
      not_le.mpr h.unexpired⟩, fun far => by omega, h.leaseIdHex, h.leaseId⟩

theorem plain_of_authorizationKindValid {value : Bytes} (h : authorizationKindValid value = true) :
    Plain value := by
  simp only [authorizationKindValid, Bool.or_eq_true, beq_iff_eq] at h
  rcases h with (((rfl | rfl) | rfl) | rfl) | rfl <;> decide

theorem isLowerHex_of_previousTicketValid {value : Bytes} {seq : Nat}
    (h : previousTicketValid value seq = true) : isLowerHex value 64 = true := by
  unfold previousTicketValid at h
  split at h
  · rw [beq_iff_eq] at h
    rw [h]
    decide
  · exact isLowerHex_of_nonzero h

theorem VerifierClaims.plainTexts {crypto : Cryptography} {now : Nat}
    (h : VerifierClaims crypto claims now) : claims.PlainTexts where
  type := h.type ▸ by decide
  issuer := h.issuer ▸ by decide
  audience := h.audience ▸ by decide
  entitlementId := plain_of_nonzeroHex h.entitlementId
  pairId := plain_of_nonzeroHex h.pairId
  sessionId := plain_of_nonzeroHex h.sessionId
  hostKeySha256 := plain_of_nonzeroHex h.hostKeySha256
  androidKeySha256 := plain_of_nonzeroHex h.androidKeySha256
  channelBindingSha256 := plain_of_nonzeroHex h.channelBindingSha256
  previousTicketSha256 :=
    plain_of_lowerHex (isLowerHex_of_previousTicketValid h.previousTicketSha256)
  phase := h.phase ▸ by decide
  authorizationKind := plain_of_authorizationKindValid h.authorizationKind
  leaseId := plain_of_nonzeroHex h.leaseIdHex

theorem VerifierClaims.expectedBindingValid {crypto : Cryptography} {now : Nat}
    (h : VerifierClaims crypto claims now) : expectedBindingValid claims.binding = true := by
  simp only [HostLease.expectedBindingValid, peerBindingValid, VerifiedUsageLeaseClaims.binding,
    Bool.and_eq_true, beq_iff_eq, bne_iff_ne]
  exact ⟨h.sessionId, ⟨⟨⟨⟨⟨⟨h.entitlementId, h.pairId⟩, h.protocolVersion⟩,
    decide_eq_true h.revocationVersion⟩, h.hostKeySha256⟩, h.androidKeySha256⟩, h.channelBindingSha256⟩, h.distinctKeys⟩

/-- A token the verifier takes for the lease with these claims, with the key and the
    signature it was checked with. -/
structure Accepted (crypto : Cryptography) (verifier : HostUsageLeaseVerifierV1) (token : Bytes)
    (expected : UsageLeaseBinding) (now : Nat) (acceptSignedSessionId : Bool)
    (claims : ParsedClaims) (key : VerificationKey) (signature : Bytes) : Prop where
  positive : 0 < now
  short : token.length ≤ kHostUsageLeaseMaximumTokenBytesV1
  spelled : token = compactToken key.keyId claims signature
  keyId : isNonzeroLowerHex key.keyId 16 = true
  selected : selectKey verifier.verificationKeys key.keyId = some key
  signatureBytes : signature.length = key.signatureBytes
  nonempty : signature ≠ []
  verifies : crypto.rsaVerify key.canonicalSpkiDer (signingText key.keyId claims) signature = true
  numbers : claims.NumbersUpTo kMaximumUint64
  checked : VerifierClaims crypto claims now
  bound : claimsMatchExpected claims expected acceptSignedSessionId = true

theorem selectKey_keyId {keys : List VerificationKey} {keyId : Bytes} {key : VerificationKey}
    (h : selectKey keys keyId = some key) : key ∈ keys ∧ key.keyId = keyId := by
  unfold selectKey at h
  induction keys using List.reverseRecOn with
  | nil => cases h
  | append_singleton front last ih =>
    rw [List.foldl_append, List.foldl_cons, List.foldl_nil] at h
    split at h
    · rename_i same
      cases h
      exact ⟨by simp, same⟩
    · obtain ⟨member, same⟩ := ih h
      exact ⟨List.mem_append_left _ member, same⟩

namespace HostUsageLeaseVerifierV1

variable {crypto : Cryptography} {verifier : HostUsageLeaseVerifierV1} {token : Bytes}
  {want : UsageLeaseBinding} {now : Nat} {acceptSignedSessionId : Bool}
  {lease : VerifiedUsageLease}

theorem of_verifyToken
    (h : verifier.verifyToken crypto token want now acceptSignedSessionId = some lease)
    (pos : 0 < now) (short : token.length ≤ kHostUsageLeaseMaximumTokenBytesV1) :
    ∃ key signature, Accepted crypto verifier token want now acceptSignedSessionId
      lease.claims key signature ∧ lease.ticketSha256 = crypto.sha256Hex token := by
  simp only [verifyToken, Option.bind_eq_bind, Option.bind_eq_some_iff, Prod.exists] at h
  obtain ⟨hdr, payload, last, split, headerRaw, hHeader, payloadRaw, hPayload, signature,
    hSignature, keyId, hKeyId, key, hKey, h⟩ := h
  split at h
  · simp at h
  rename_i verifies
  simp only [Option.bind_eq_some_iff, Option.pure_def] at h
  obtain ⟨parsed, hParsed, h⟩ := h
  split at h
  · simp at h
  rename_i hc
  simp only [Option.some.injEq] at h
  simp only [Bool.not_eq_true', Bool.not_eq_false, Bool.or_eq_true, not_or] at verifies hc
  obtain ⟨rfl, headerSome⟩ := decodeBase64urlCanonical_eq_some.mp hHeader
  obtain ⟨rfl, payloadSome⟩ := decodeBase64urlCanonical_eq_some.mp hPayload
  obtain ⟨rfl, signatureSome⟩ := decodeBase64urlCanonical_eq_some.mp hSignature
  obtain ⟨rfl, keyHex⟩ := parseCanonicalHeader_eq_some.mp hKeyId
  obtain ⟨rfl, plain, numbers⟩ := parseCanonicalPayload_eq_some.mp hParsed
  obtain ⟨tokenText, -⟩ := splitThree_eq_some.mp split
  obtain ⟨-, isKey⟩ := selectKey_keyId hKey
  have claims := claimsValid_iff.mp hc.1
  have sameClaims : lease.claims = parsed := by
    rw [← h]
    have version : parsed.protocolVersion % 2 ^ 32 = parsed.protocolVersion := by
      rw [claims.protocolVersion]
      rfl
    simp only [version]
  rw [rsaPkcs1Sha256SignatureValid, Bool.and_eq_true, beq_iff_eq] at verifies
  subst isKey
  refine ⟨key, signature, ?_, by rw [← h]⟩
  rw [sameClaims]
  exact
    { positive := pos
      short := short
      spelled := by rw [tokenText, compactToken, signingText]; simp
      keyId := keyHex
      selected := hKey
      signatureBytes := verifies.1
      nonempty := signatureSome
      verifies := verifies.2
      numbers := numbers
      checked := claims
      bound := hc.2 }

theorem verifyToken_accepted {key : VerificationKey} {signature : Bytes}
    (h : Accepted crypto verifier token want now acceptSignedSessionId claims key signature) :
    verifier.verifyToken crypto token want now acceptSignedSessionId =
      some { claims := claims, ticketSha256 := crypto.sha256Hex token } := by
  have segments : splitThree 46 token = some (encode (render (headerMembers key.keyId)),
      encode (render claims.members), encode signature) := by
    rw [h.spelled]
    exact compactToken_segments h.nonempty
  have hdr : decodeBase64urlCanonical (encode (render (headerMembers key.keyId))) =
      some (render (headerMembers key.keyId)) :=
    decodeBase64urlCanonical_eq_some.mpr ⟨rfl, render_ne_nil _⟩
  have payload : decodeBase64urlCanonical (encode (render claims.members)) =
      some (render claims.members) :=
    decodeBase64urlCanonical_eq_some.mpr ⟨rfl, render_ne_nil _⟩
  have last : decodeBase64urlCanonical (encode signature) = some signature :=
    decodeBase64urlCanonical_eq_some.mpr ⟨rfl, h.nonempty⟩
  have keyId : parseCanonicalHeader (render (headerMembers key.keyId)) = some key.keyId :=
    parseCanonicalHeader_eq_some.mpr ⟨rfl, h.keyId⟩
  have parsed : parseCanonicalPayload (render claims.members) = some claims :=
    parseCanonicalPayload_eq_some.mpr ⟨rfl, h.checked.plainTexts, h.numbers⟩
  have verifies : rsaPkcs1Sha256SignatureValid crypto key
      (encode (render (headerMembers key.keyId)) ++ 46 :: encode (render claims.members))
      signature = true := by
    rw [rsaPkcs1Sha256SignatureValid, Bool.and_eq_true, beq_iff_eq]
    exact ⟨h.signatureBytes, h.verifies⟩
  have version : claims.protocolVersion % 2 ^ 32 = claims.protocolVersion := by
    rw [h.checked.protocolVersion]
    rfl
  simp only [verifyToken, segments, hdr, payload, last, keyId, h.selected, verifies, parsed,
    claimsValid_iff.mpr h.checked, h.bound, version, Option.bind_eq_bind, Option.bind_some,
    Bool.not_true, Bool.false_eq_true, Bool.or_self, if_false, Option.pure_def]

/-- The verifier accepts exactly the compact tokens of the leases that pass its
    checks, and returns the signed claims with the digest of the token. -/
theorem verifyInternal_eq_ok
    (valid : (if acceptSignedSessionId then expectedConfirmedPeerBindingValid want
      else expectedBindingValid want) = true) :
    verifier.verifyInternal crypto token want now acceptSignedSessionId = .ok lease ↔
      lease.ticketSha256 = crypto.sha256Hex token ∧ ∃ key signature,
        Accepted crypto verifier token want now acceptSignedSessionId lease.claims key
          signature := by
  simp only [verifyInternal, valid, Bool.not_true, Bool.false_eq_true, if_false]
  constructor
  · intro h
    split at h
    · cases h
    rename_i fine
    simp only [not_or, not_lt] at fine
    split at h
    · cases h
    rename_i found read
    cases h
    obtain ⟨key, signature, ok, digest⟩ :=
      of_verifyToken read (Nat.pos_of_ne_zero fine.1) fine.2.2
    exact ⟨digest, key, signature, ok⟩
  · rintro ⟨digest, key, signature, ok⟩
    have fine : ¬(now = 0 ∨ token = [] ∨ kHostUsageLeaseMaximumTokenBytesV1 < token.length) := by
      rintro (zero | none | long)
      · exact absurd ok.positive (by omega)
      · have text := ok.spelled
        rw [none] at text
        simp [compactToken] at text
      · exact absurd ok.short (by omega)
    rw [if_neg fine, verifyToken_accepted ok, ← digest]

theorem verifyInternal_ok_binding
    (h : verifier.verifyInternal crypto token want now acceptSignedSessionId = .ok lease) :
    (if acceptSignedSessionId then expectedConfirmedPeerBindingValid want
      else expectedBindingValid want) = true := by
  by_contra invalid
  simp only [verifyInternal, Bool.eq_false_iff.mpr invalid, Bool.not_false, if_true] at h
  cases h

theorem verify_eq_ok :
    verifier.verify crypto token want now = .ok lease ↔
      expectedBindingValid want = true ∧ lease.ticketSha256 = crypto.sha256Hex token ∧
        ∃ key signature, Accepted crypto verifier token want now false lease.claims key
          signature := by
  constructor
  · intro h
    have valid := verifyInternal_ok_binding h
    exact ⟨valid, (verifyInternal_eq_ok valid).mp h⟩
  · rintro ⟨valid, ok⟩
    exact (@verifyInternal_eq_ok _ _ _ _ _ false _ valid).mpr ok

end HostUsageLeaseVerifierV1

end VisionForge.HostLease
