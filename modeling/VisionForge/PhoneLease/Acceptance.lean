import VisionForge.PhoneLease.Verifier
import VisionForge.UsageLease.Contract

/-! # What the phone's verifier accepts

The liberal parser and the comparison with the canonical form together leave one
spelling of every lease, the one it was signed in.
-/

namespace VisionForge.PhoneLease

open Lib.Ascii Lib.Base64Url Lib.Checks Lib.FlatJson Lib.Long Lib.Segments Lib.Utf UsageLease

/-! ## Segments -/

theorem map_toUInt8_widen (bs : Bytes) : (widen bs).map UInt16.toUInt8 = bs := by
  induction bs with
  | nil => rfl
  | cons octet bs ih =>
    rw [widen_cons, List.map_cons, ih, UInt8.toUInt8_toUInt16]

theorem isBase64UrlCharacter_of_value {c : UInt8} (h : (value c).isSome = true) :
    isBase64UrlCharacter c.toUInt16 = true ∧ c ≠ 61 ∧ c.toNat < 0x80 := by
  unfold value at h
  simp only [isBase64UrlCharacter, Bool.or_eq_true, Bool.and_eq_true, decide_eq_true_eq,
    beq_iff_eq, ne_eq, ← UInt16.toNat_inj, ← UInt8.toNat_inj, UInt16.le_iff_toNat_le,
    UInt8.le_iff_toNat_le, UInt8.toNat_toUInt16, UInt16.reduceToNat, UInt8.reduceToNat] at h ⊢
  split at h
  · omega
  split at h
  · omega
  split at h
  · omega
  split at h
  · omega
  split at h
  · omega
  · cases h

theorem isAscii_encode (bs : Bytes) : IsAscii (encode bs) := by
  intro octet mem
  exact (isBase64UrlCharacter_of_value (value_encode mem)).2.2

theorem decodeCanonicalBase64Url_eq_ok {encoded : Units} {bs : Bytes} :
    decodeCanonicalBase64Url encoded = .ok bs ↔
      encoded = widen (encode bs) ∧ bs ≠ [] := by
  unfold decodeCanonicalBase64Url
  rw [check_bind, check_bind]
  constructor
  · rintro ⟨nonempty, -, h⟩
    split at h
    · cases h
    obtain ⟨canonical, last⟩ := check_bind.mp h
    cases last
    refine ⟨canonical.symm, ?_⟩
    rintro rfl
    exact nonempty.1 canonical.symm
  · rintro ⟨rfl, nonempty⟩
    have symbols : ∀ char ∈ encode bs,
        isBase64UrlCharacter char.toUInt16 = true ∧ char ≠ 61 ∧
          char.toNat < 0x80 :=
      fun char mem => isBase64UrlCharacter_of_value (value_encode mem)
    refine ⟨⟨?_, ?_⟩, ?_, ?_⟩
    · intro nothing
      exact encode_ne_nil nonempty (List.map_eq_nil_iff.mp nothing)
    · intro padded
      obtain ⟨char, mem, isPad⟩ := List.mem_map.mp padded
      exact (symbols char mem).2.1 (toUInt16_inj.mp isPad)
    · apply List.all_eq_true.mpr
      intro unit mem
      obtain ⟨char, isCharacter, rfl⟩ := List.mem_map.mp mem
      exact (symbols char isCharacter).1
    · rw [map_toUInt8_widen, decode_encode]
      rw [check_bind]
      exact ⟨rfl, rfl⟩

theorem decodeToken_eq_ok {token : Units} {segments : TokenSegments} :
    decodeToken token = .ok segments ↔
      token.length ≤ MAXIMUM_TOKEN_CHARACTERS ∧
      token = widen (encode segments.headerBytes ++
        46 :: (encode segments.payloadBytes ++ 46 :: encode segments.signatureBytes)) ∧
      segments.signingInput = encode segments.headerBytes ++ 46 :: encode segments.payloadBytes ∧
      segments.headerBytes ≠ [] ∧ segments.payloadBytes ≠ [] ∧ segments.signatureBytes ≠ [] := by
  have signing (hdr payload : Bytes) :
      encodeAscii (widen (encode hdr) ++ 46 :: widen (encode payload)) =
        encode hdr ++ 46 :: encode payload := by
    have ascii : IsAscii (encode hdr ++ 46 :: encode payload) := by
      apply isAscii_append.mpr
      exact ⟨isAscii_encode hdr, (@isAscii_append [46] _).mpr
        ⟨by decide, isAscii_encode payload⟩⟩
    have same := encodeAscii_widen ascii
    rw [widen_append, widen_cons] at same
    exact same
  unfold decodeToken
  rw [check_bind]
  constructor
  · rintro ⟨size, h⟩
    split at h
    · cases h
    rename_i hdr payload signature split
    obtain ⟨headerBytes, decodedHeader, h⟩ := bind_ok.mp h
    obtain ⟨payloadBytes, decodedPayload, h⟩ := bind_ok.mp h
    obtain ⟨signatureBytes, decodedSignature, last⟩ := bind_ok.mp h
    cases last
    obtain ⟨rfl, someHeader⟩ := decodeCanonicalBase64Url_eq_ok.mp decodedHeader
    obtain ⟨rfl, somePayload⟩ := decodeCanonicalBase64Url_eq_ok.mp decodedPayload
    obtain ⟨rfl, someSignature⟩ := decodeCanonicalBase64Url_eq_ok.mp decodedSignature
    obtain ⟨spelled, -⟩ := splitThree_eq_some.mp split
    refine ⟨size.2, ?_, signing _ _, someHeader, somePayload, someSignature⟩
    rw [spelled]
    simp
  · rintro ⟨size, spelled, input, someHeader, somePayload, someSignature⟩
    have noDot (bs : Bytes) : (46 : UInt16) ∉ widen (encode bs) := by
      intro dotted
      obtain ⟨char, mem, isDot⟩ := List.mem_map.mp dotted
      have same : char = 46 := toUInt16_inj.mp isDot
      exact dot_not_mem_encode bs (same ▸ mem)
    have nonempty {bs : Bytes} (someOctets : bs ≠ []) : widen (encode bs) ≠ [] :=
      fun nothing => encode_ne_nil someOctets (List.map_eq_nil_iff.mp nothing)
    have split : splitThree 46 token = some (widen (encode segments.headerBytes),
        widen (encode segments.payloadBytes), widen (encode segments.signatureBytes)) := by
      apply splitThree_eq_some.mpr
      refine ⟨by rw [spelled]; simp, ⟨noDot _, noDot _, noDot _⟩, nonempty someHeader,
        nonempty somePayload, nonempty someSignature⟩
    have isSome : token ≠ [] := by
      rw [spelled]
      simp
    refine ⟨⟨isSome, size⟩, ?_⟩
    rw [split]
    simp only [decodeCanonicalBase64Url_eq_ok.mpr ⟨rfl, someHeader⟩,
      decodeCanonicalBase64Url_eq_ok.mpr ⟨rfl, somePayload⟩,
      decodeCanonicalBase64Url_eq_ok.mpr ⟨rfl, someSignature⟩, signing, ← input]
    rfl

/-! ## Objects -/

theorem JsonMap.get_of_mem {map : JsonMap} {entry : Units × JsonValue} (mem : entry ∈ map.entries) :
    map.get entry.1 = some entry.2 := by
  obtain ⟨entries, dist⟩ := map
  unfold JsonMap.get
  induction entries with
  | nil => cases mem
  | cons first rest ih =>
    rw [List.map_cons, List.nodup_cons] at dist
    cases List.mem_cons.mp mem with
    | inl same => simp [same]
    | inr later =>
      have apart : first.1 ≠ entry.1 := by
        intro same
        apply dist.1
        rw [same]
        exact List.mem_map_of_mem later
      rw [List.find?_cons_of_neg (by simpa using apart)]
      exact ih dist.2 later

theorem unitRank_injective : Function.Injective unitRank :=
  List.map_injective_iff.mpr (fun _ _ => UInt16.toNat_inj.mp)

variable {map : JsonMap}

theorem sortEntries_of_get {mems : Members}
    (sorted : (mems.map (fun mem => widen mem.1)).Pairwise
      (fun a b => unitRank a < unitRank b))
    (keys : ∀ key, key ∈ map.keys ↔ key ∈ mems.map (fun mem => widen mem.1))
    (values : ∀ mem ∈ mems, map.get (widen mem.1) = some (widenScalar mem.2)) :
    sortEntries unitRank map.entries = mems.map widenEntry := by
  have listed := sortEntries_eq unitRank_injective map.distinct sorted keys
    (fun key => (map.get key).getD (.boolean false))
    (fun entry mem => by rw [JsonMap.get_of_mem mem, Option.getD_some])
  rw [listed, List.map_map]
  apply List.map_congr_left
  intro mem isMember
  simp only [Function.comp_apply, values mem isMember, Option.getD_some, widenEntry]

variable {exactKeys : List Units}

theorem parseCanonicalObject_eq_ok {enc : Bytes} {error : LeaseVerificationError} :
    parseCanonicalObject enc exactKeys error = .ok map ↔
      (decodeUtf8 enc).bind JsonObjectParser.parse = some map ∧
      (∀ key, key ∈ map.keys ↔ key ∈ exactKeys) ∧ enc = canonicalJson map := by
  unfold parseCanonicalObject
  constructor
  · intro h
    split at h
    · cases h
    rename_i parsed found
    obtain ⟨⟨inside, all, same⟩, last⟩ := check_bind.mp h
    cases last
    exact ⟨found, fun key => ⟨inside key, all key⟩, same⟩
  · rintro ⟨found, keys, same⟩
    rw [found]
    rw [check_bind]
    exact ⟨⟨fun key => (keys key).mp, fun key => (keys key).mpr, same⟩, rfl⟩

theorem parse_render {mems : Members} (plain : ∀ mem ∈ mems, PlainMember mem)
    (fits : ∀ mem ∈ mems, ∀ n : Nat, mem.2 = .number n → n < 2 ^ 63)
    (dist : (mems.map Prod.fst).Nodup) :
    ∃ map, (decodeUtf8 (render mems)).bind JsonObjectParser.parse = some map ∧
      map.entries = mems.map widenEntry := by
  rw [decodeUtf8_ascii (isAscii_render (fun mem isMember => (plain mem isMember).ascii)),
    Option.bind_some]
  exact JsonObjectParser.parse_widen plain fits dist

/-! ## Texts of hexadecimal digits -/

theorem isHexUnit_widen {c : UInt8} : isHexUnit c.toUInt16 = isLowerHexDigit c := by
  simp only [isHexUnit, isLowerHexDigit, UInt16.le_iff_toNat_le, UInt8.le_iff_toNat_le,
    UInt8.toNat_toUInt16, UInt16.reduceToNat, UInt8.reduceToNat]

variable {value : Bytes}

theorem matchesHex_widen {digits : Nat} :
    matchesHex digits (widen value) = isLowerHex value digits := by
  have digit : isHexUnit ∘ UInt8.toUInt16 = isLowerHexDigit := funext (fun _ => isHexUnit_widen)
  unfold matchesHex isLowerHex
  rw [length_widen, widen, List.all_map, digit]

theorem containsNonzero_widen (value : Bytes) :
    containsNonzero (widen value) = value.any (· != 48) := by
  have digit : ((· != 48) : UInt16 → Bool) ∘ UInt8.toUInt16 = (· != 48) := by
    funext character
    rw [Bool.eq_iff_iff]
    simp only [Function.comp_apply, bne_iff_ne, ne_eq]
    exact not_congr (@toUInt16_inj character 48)
  rw [containsNonzero, widen, List.any_map, digit]

theorem matchesNonzero_widen {digits : Nat} :
    matchesNonzero digits (widen value) = isNonzeroLowerHex value digits := by
  rw [matchesNonzero, isNonzeroLowerHex, matchesHex_widen, containsNonzero_widen]

variable {key : Units}

theorem eq_widen_of_matchesHex {digits : Nat} {value : Units} (h : matchesHex digits value = true) :
    ∃ bs, value = widen bs := by
  unfold matchesHex at h
  rw [Bool.and_eq_true] at h
  refine ⟨value.map UInt16.toUInt8, ?_⟩
  have all := List.all_eq_true.mp h.2
  unfold widen
  rw [List.map_map]
  conv_lhs => rw [← List.map_id value]
  apply List.map_congr_left
  intro unit mem
  have hex := all unit mem
  simp only [isHexUnit, Bool.or_eq_true, Bool.and_eq_true, decide_eq_true_eq,
    UInt16.le_iff_toNat_le, UInt16.reduceToNat] at hex
  apply UInt16.toNat_inj.mp
  rw [id_eq, Function.comp_apply, UInt8.toNat_toUInt16, UInt16.toNat_toUInt8]
  omega

/-! ## Claims -/

theorem typedClaim_eq_ok {α : Type} {select : JsonValue → Option α} {value : α} :
    typedClaim select map key = .ok value ↔
      ∃ held, map.get key = some held ∧ select held = some value := by
  unfold typedClaim
  rw [← Option.bind_eq_some_iff]
  cases (map.get key).bind select with
  | none => simp
  | some found => simp

theorem stringClaim_eq_ok {value : Units} :
    stringClaim map key = .ok value ↔ map.get key = some (.string value) := by
  rw [stringClaim, typedClaim_eq_ok]
  constructor
  · rintro ⟨held, found, sel⟩
    cases held <;> cases sel
    exact found
  · intro found
    exact ⟨_, found, rfl⟩

theorem integerClaim_eq_ok {value : Int} :
    integerClaim map key = .ok value ↔ map.get key = some (.long value) := by
  rw [integerClaim, typedClaim_eq_ok]
  constructor
  · rintro ⟨held, found, sel⟩
    cases held <;> cases sel
    exact found
  · intro found
    exact ⟨_, found, rfl⟩

theorem booleanClaim_eq_ok {value : Bool} :
    booleanClaim map key = .ok value ↔ map.get key = some (.boolean value) := by
  rw [booleanClaim, typedClaim_eq_ok]
  constructor
  · rintro ⟨held, found, sel⟩
    cases held <;> cases sel
    exact found
  · intro found
    exact ⟨_, found, rfl⟩

theorem stringClaimFails_eq_false {cond : Units → Bool} :
    stringClaimFails map key cond = .ok false ↔
      ∃ value, stringClaim map key = .ok value ∧ cond value = true := by
  unfold stringClaimFails
  cases stringClaim map key with
  | error error => simp [Except.map]
  | ok value => simp [Except.map]

/-- The claims an object holds. -/
structure Reads (map : JsonMap) (claims : VerifiedUsageLeaseClaims) : Prop where
  type : stringClaim map (text "typ") = .ok (widen claims.type)
  issuer : stringClaim map (text "iss") = .ok (widen claims.issuer)
  audience : stringClaim map (text "aud") = .ok (widen claims.audience)
  entitlementId : stringClaim map (text "sub") = .ok (widen claims.entitlementId)
  pairId : stringClaim map (text "pid") = .ok (widen claims.pairId)
  sessionId : stringClaim map (text "sid") = .ok (widen claims.sessionId)
  protocolVersion : integerClaim map (text "pv") = .ok claims.protocolVersion
  revocationVersion : integerClaim map (text "rv") = .ok claims.revocationVersion
  hostKeySha256 : stringClaim map (text "hkh") = .ok (widen claims.hostKeySha256)
  androidKeySha256 : stringClaim map (text "akh") = .ok (widen claims.androidKeySha256)
  channelBindingSha256 : stringClaim map (text "cbh") = .ok (widen claims.channelBindingSha256)
  previousTicketSha256 : stringClaim map (text "pth") = .ok (widen claims.previousTicketSha256)
  sequence : integerClaim map (text "seq") = .ok claims.sequence
  phase : stringClaim map (text "phase") = .ok (widen claims.phase)
  authorizationKind :
    stringClaim map (text "authorization_kind") = .ok (widen claims.authorizationKind)
  isPermanent : booleanClaim map (text "is_permanent") = .ok claims.isPermanent
  remainingSeconds : integerClaim map (text "remaining") = .ok claims.remainingSeconds
  leaseId : stringClaim map (text "jti") = .ok (widen claims.leaseId)
  issuedAtEpoch : integerClaim map (text "iat") = .ok claims.issuedAtEpoch
  notBeforeEpoch : integerClaim map (text "nbf") = .ok claims.notBeforeEpoch
  expiresAtEpoch : integerClaim map (text "exp") = .ok claims.expiresAtEpoch

/-- The claims the phone accepts, their lease id and their binding apart. -/
structure PhoneClaims (maximumTtlSeconds : Int) (claims : VerifiedUsageLeaseClaims)
    (trustedWallTimeEpochSeconds : Int) : Prop where
  type : claims.type = kUsageLeaseType
  issuer : claims.issuer = kUsageLeaseIssuer
  audience : claims.audience = kUsageLeaseAudience
  phase : claims.phase = kUsageLeaseActivePhase
  authorizationKind : isAuthorizationKind (widen claims.authorizationKind) = true
  entitlementId : isNonzeroLowerHex claims.entitlementId 32 = true
  pairId : isNonzeroLowerHex claims.pairId 32 = true
  sessionId : isNonzeroLowerHex claims.sessionId 32 = true
  hostKeySha256 : isNonzeroLowerHex claims.hostKeySha256 64 = true
  androidKeySha256 : isNonzeroLowerHex claims.androidKeySha256 64 = true
  channelBindingSha256 : isNonzeroLowerHex claims.channelBindingSha256 64 = true
  previousTicketSha256 :
    previousLeaseSha256Valid (widen claims.previousTicketSha256) claims.sequence = true
  leaseIdHex : isNonzeroLowerHex claims.leaseId 32 = true
  protocolVersion : claims.protocolVersion = kUsageLeaseProtocolVersion
  revocationVersion : 0 < claims.revocationVersion
  issued : 0 < claims.issuedAtEpoch
  serverAhead : claims.issuedAtEpoch ≤
    wrap (trustedWallTimeEpochSeconds + SERVER_CLOCK_AHEAD_GRACE_SECONDS)
  issuedBeforeStart : claims.issuedAtEpoch ≤ claims.notBeforeEpoch
  window : claims.notBeforeEpoch < claims.expiresAtEpoch
  unexpired : trustedWallTimeEpochSeconds < claims.expiresAtEpoch
  ttl : (claims.expiresAtEpoch : Int) - claims.notBeforeEpoch ≤ maximumTtlSeconds
  isPermanent : claims.isPermanent = (widen claims.authorizationKind == text "permanent")
  remainingSeconds : claims.isPermanent = true → claims.remainingSeconds = 0

/-- The lease is the expected one. -/
structure Expects (expected : ExpectedBinding) (claims : VerifiedUsageLeaseClaims) : Prop where
  entitlementId : expected.entitlementId = widen claims.entitlementId
  pairId : expected.pairId = widen claims.pairId
  sessionId : expected.sessionId = widen claims.sessionId
  protocolVersion : expected.protocolVersion = claims.protocolVersion
  revocationVersion : expected.revocationVersion = claims.revocationVersion
  hostKeySha256 : expected.hostKeySha256 = widen claims.hostKeySha256
  androidKeySha256 : expected.androidKeySha256 = widen claims.androidKeySha256
  channelTranscriptSha256 : expected.channelTranscriptSha256 = widen claims.channelBindingSha256
  sequence : expected.sequence = claims.sequence
  previousLeaseSha256 : expected.previousLeaseSha256 = widen claims.previousTicketSha256
  authorizationKind : expected.authorizationKind = widen claims.authorizationKind
  permanent : expected.permanent = claims.isPermanent

variable {claims : VerifiedUsageLeaseClaims}

theorem Reads.matches (reads : Reads map claims) (want : ExpectedBinding) :
    want.matches map = .ok true ↔ Expects want claims := by
  unfold ExpectedBinding.matches
  rw [allTrue_eq_true]
  simp only [List.forall_mem_cons, List.not_mem_nil, false_implies, implies_true, and_true,
    reads.entitlementId, reads.pairId, reads.sessionId, reads.protocolVersion,
    reads.revocationVersion, reads.hostKeySha256, reads.androidKeySha256,
    reads.channelBindingSha256, reads.sequence, reads.previousTicketSha256,
    reads.authorizationKind, reads.isPermanent, Except.map, Except.ok.injEq, beq_iff_eq]
  constructor
  · rintro ⟨h1, h2, h3, h4, h5, h6, h7, h8, h9, h10, h11, h12⟩
    exact ⟨h1.symm, h2.symm, h3.symm, h4.symm, h5.symm, h6.symm, h7.symm, h8.symm, h9.symm,
      h10.symm, h11.symm, h12.symm⟩
  · intro h
    exact ⟨h.1.symm, h.2.symm, h.3.symm, h.4.symm, h.5.symm, h.6.symm, h.7.symm, h.8.symm,
      h.9.symm, h.10.symm, h.11.symm, h.12.symm⟩

theorem widen_eq_text {literal : String} : widen value = text literal ↔ value = ascii literal :=
  widen_injective.eq_iff

theorem Reads.requireStringFormats (reads : Reads map claims) :
    DualMachineUsageLeaseVerifier.requireStringFormats map = .ok ⟨⟩ ↔
      claims.type = kUsageLeaseType ∧ claims.issuer = kUsageLeaseIssuer ∧
      claims.audience = kUsageLeaseAudience ∧ claims.phase = kUsageLeaseActivePhase ∧
      isAuthorizationKind (widen claims.authorizationKind) = true ∧
      isNonzeroLowerHex claims.entitlementId 32 = true ∧
      isNonzeroLowerHex claims.pairId 32 = true ∧
      isNonzeroLowerHex claims.sessionId 32 = true ∧
      isNonzeroLowerHex claims.hostKeySha256 64 = true ∧
      isNonzeroLowerHex claims.androidKeySha256 64 = true ∧
      isNonzeroLowerHex claims.channelBindingSha256 64 = true ∧
      previousLeaseSha256Valid (widen claims.previousTicketSha256) claims.sequence = true ∧
      isNonzeroLowerHex claims.leaseId 32 = true := by
  unfold DualMachineUsageLeaseVerifier.requireStringFormats
  rw [reads.sequence]
  simp only [bind_ok, check_eq_ok, Except.ok.injEq, exists_eq_left', exists_eq_right,
    anyTrue_eq_false, List.forall_mem_cons, List.not_mem_nil, false_implies, implies_true,
    and_true, stringClaimFails_eq_false, reads.type, reads.issuer, reads.audience, reads.phase,
    reads.authorizationKind, reads.entitlementId, reads.pairId, reads.sessionId,
    reads.hostKeySha256, reads.androidKeySha256, reads.channelBindingSha256,
    reads.previousTicketSha256, reads.leaseId, beq_iff_eq, matchesNonzero_widen, LEASE_TYPE,
    LEASE_ISSUER, LEASE_AUDIENCE, widen_eq_text]
  rfl

variable {verifier : DualMachineUsageLeaseVerifier}

theorem Reads.requireClaims (reads : Reads map claims) (numbers : claims.NumbersUpTo (2 ^ 63 - 1))
    {want : ExpectedBinding} {now : Int} :
    verifier.requireClaims map want now = .ok ⟨⟩ ↔
      PhoneClaims verifier.maximumTtlSeconds claims now ∧ Expects want claims := by
  have span : (claims.notBeforeEpoch : Int) < claims.expiresAtEpoch →
      wrap ((claims.expiresAtEpoch : Int) - claims.notBeforeEpoch) =
        claims.expiresAtEpoch - claims.notBeforeEpoch := by
    intro win
    have bound := numbers.expiresAtEpoch
    exact wrap_of_fits ⟨by omega, by omega⟩
  unfold DualMachineUsageLeaseVerifier.requireClaims
  simp only [bind_ok, check_eq_ok, Except.ok.injEq, exists_eq_left', exists_eq_right,
    reads.protocolVersion, reads.revocationVersion, reads.sequence,
    reads.remainingSeconds, reads.issuedAtEpoch, reads.notBeforeEpoch, reads.expiresAtEpoch,
    reads.authorizationKind, reads.isPermanent, reads.matches, reads.requireStringFormats,
    DualMachineUsageLeaseVerifier.numericClaimInvalid, not_or, not_lt, not_le, not_not, ne_eq,
    not_and, PROTOCOL_VERSION]
  constructor
  · rintro ⟨_, ⟨h1, h2, h3, h4, h5, h6, h7, h8, h9, h10, h11, h12, h13⟩, _,
      ⟨pv, rv, -, -, iat, ahead, start, win, unexpired, ttl, permanent, remaining⟩, bound⟩
    rw [span win] at ttl
    refine ⟨⟨h1, h2, h3, h4, h5, h6, h7, h8, h9, h10, h11, h12, h13, ?_, by omega, by omega, ahead,
      by omega, by omega, unexpired, ttl, permanent, ?_⟩, bound⟩
    · exact Int.ofNat_inj.mp pv
    · intro isPermanent
      exact Int.ofNat_inj.mp (remaining isPermanent)
  · rintro ⟨h, bound⟩
    have win : (claims.notBeforeEpoch : Int) < claims.expiresAtEpoch := by
      have lt := h.window
      omega
    have revocation := h.revocationVersion
    have issued := h.issued
    have start := h.issuedBeforeStart
    refine ⟨⟨⟩, ⟨h.type, h.issuer, h.audience, h.phase, h.authorizationKind, h.entitlementId,
      h.pairId, h.sessionId, h.hostKeySha256, h.androidKeySha256, h.channelBindingSha256,
      h.previousTicketSha256, h.leaseIdHex⟩, ⟨⟩, ⟨?_, by omega, by omega, by omega, by omega,
      h.serverAhead, by omega, win, h.unexpired, ?_, h.isPermanent, ?_⟩, bound⟩
    · rw [h.protocolVersion]
      rfl
    · rw [span win]
      exact h.ttl
    · intro isPermanent
      rw [h.remainingSeconds isPermanent]
      rfl

theorem eq_widen_of_isAuthorizationKind {value : Units} (h : isAuthorizationKind value = true) :
    ∃ bs, value = widen bs := by
  simp only [isAuthorizationKind, Bool.or_eq_true, beq_iff_eq] at h
  rcases h with (((rfl | rfl) | rfl) | rfl) | rfl <;> exact ⟨_, rfl⟩

theorem eq_widen_of_matchesNonzero {digits : Nat} {value : Units}
    (h : matchesNonzero digits value = true) : ∃ bs, value = widen bs := by
  rw [matchesNonzero, Bool.and_eq_true] at h
  exact eq_widen_of_matchesHex h.1

theorem reads_of_requireClaims {want : ExpectedBinding} {now : Int}
    (h : verifier.requireClaims map want now = .ok ⟨⟩) : ∃ claims, Reads map claims := by
  unfold DualMachineUsageLeaseVerifier.requireClaims
    DualMachineUsageLeaseVerifier.requireStringFormats at h
  simp only [bind_ok, check_eq_ok, exists_eq_right, anyTrue_eq_false, List.forall_mem_cons,
    List.not_mem_nil, false_implies, implies_true, and_true, stringClaimFails_eq_false,
    beq_iff_eq] at h
  obtain ⟨_, ⟨_, -, type, issuer, audience, phase, ⟨_, kind, isKind⟩, ⟨_, sub, subHex⟩,
    ⟨_, pid, pidHex⟩, ⟨_, sid, sidHex⟩, ⟨_, hkh, hkhHex⟩, ⟨_, akh, akhHex⟩, ⟨_, cbh, cbhHex⟩,
    ⟨_, pth, pthValid⟩, ⟨_, jti, jtiHex⟩⟩, protocolVersion, pv, revocationVersion, rv, sequence, seq,
    remaining, hasRemaining, issuedAt, iat, notBefore, nbf, expiresAt, exp, _, sameKind, permanent,
    isPermanent, _, numbers, -⟩ := h
  obtain ⟨kindOctets, rfl⟩ := eq_widen_of_isAuthorizationKind isKind
  obtain ⟨subOctets, rfl⟩ := eq_widen_of_matchesNonzero subHex
  obtain ⟨pidOctets, rfl⟩ := eq_widen_of_matchesNonzero pidHex
  obtain ⟨sidOctets, rfl⟩ := eq_widen_of_matchesNonzero sidHex
  obtain ⟨hkhOctets, rfl⟩ := eq_widen_of_matchesNonzero hkhHex
  obtain ⟨akhOctets, rfl⟩ := eq_widen_of_matchesNonzero akhHex
  obtain ⟨cbhOctets, rfl⟩ := eq_widen_of_matchesNonzero cbhHex
  obtain ⟨jtiOctets, rfl⟩ := eq_widen_of_matchesNonzero jtiHex
  rw [previousLeaseSha256Valid, Bool.and_eq_true] at pthValid
  obtain ⟨pthOctets, rfl⟩ := eq_widen_of_matchesHex pthValid.1
  simp only [DualMachineUsageLeaseVerifier.numericClaimInvalid, not_or, not_lt, not_le, ne_eq,
    not_not, PROTOCOL_VERSION] at numbers
  obtain ⟨isProtocol, isRevocation, isSequence, isRemaining, isIssued, -, isStart, isEnd, -⟩ :=
    numbers
  have nonnegative {value : Int} (le : 0 ≤ value) : value = (value.toNat : Int) :=
    (Int.toNat_of_nonneg le).symm
  exact ⟨
    { type := kUsageLeaseType
      issuer := kUsageLeaseIssuer
      audience := kUsageLeaseAudience
      entitlementId := subOctets
      pairId := pidOctets
      sessionId := sidOctets
      protocolVersion := protocolVersion.toNat
      revocationVersion := revocationVersion.toNat
      hostKeySha256 := hkhOctets
      androidKeySha256 := akhOctets
      channelBindingSha256 := cbhOctets
      previousTicketSha256 := pthOctets
      sequence := sequence.toNat
      phase := kUsageLeaseActivePhase
      authorizationKind := kindOctets
      isPermanent := permanent
      remainingSeconds := remaining.toNat
      leaseId := jtiOctets
      issuedAtEpoch := issuedAt.toNat
      notBeforeEpoch := notBefore.toNat
      expiresAtEpoch := expiresAt.toNat },
    { type := type
      issuer := issuer
      audience := audience
      entitlementId := sub
      pairId := pid
      sessionId := sid
      protocolVersion := by rw [pv, ← nonnegative (by omega)]
      revocationVersion := by rw [rv, ← nonnegative (by omega)]
      hostKeySha256 := hkh
      androidKeySha256 := akh
      channelBindingSha256 := cbh
      previousTicketSha256 := pth
      sequence := by rw [seq, ← nonnegative isSequence]
      phase := phase
      authorizationKind := kind
      isPermanent := isPermanent
      remainingSeconds := by rw [hasRemaining, ← nonnegative isRemaining]
      leaseId := jti
      issuedAtEpoch := by rw [iat, ← nonnegative (by omega)]
      notBeforeEpoch := by rw [nbf, ← nonnegative (by omega)]
      expiresAtEpoch := by rw [exp, ← nonnegative (by omega)] }⟩

theorem reads_iff :
    Reads map claims ↔
      ∀ mem ∈ claims.members, map.get (widen mem.1) = some (widenScalar mem.2) := by
  simp only [VerifiedUsageLeaseClaims.members, VerifiedUsageLeaseClaims.leadingMembers,
    VerifiedUsageLeaseClaims.trailingMembers, List.cons_append, List.nil_append,
    List.forall_mem_cons, List.not_mem_nil, false_implies, implies_true, and_true, widenScalar,
    ← stringClaim_eq_ok, ← integerClaim_eq_ok, ← booleanClaim_eq_ok]
  constructor
  · intro h
    exact ⟨h.androidKeySha256, h.audience, h.authorizationKind, h.channelBindingSha256,
      h.expiresAtEpoch, h.hostKeySha256, h.issuedAtEpoch, h.isPermanent, h.issuer, h.leaseId,
      h.notBeforeEpoch, h.phase, h.pairId, h.previousTicketSha256, h.protocolVersion,
      h.remainingSeconds, h.revocationVersion, h.sequence, h.sessionId, h.entitlementId, h.type⟩
  · rintro ⟨akh, aud, kind, cbh, exp, hkh, iat, permanent, iss, jti, nbf, phase, pid, pth, pv,
      remaining, rv, seq, sid, sub, typ⟩
    exact ⟨typ, iss, aud, sub, pid, sid, pv, rv, hkh, akh, cbh, pth, seq, phase, kind, permanent,
      remaining, jti, iat, nbf, exp⟩

/-! ## Objects in canonical form -/

theorem parseCanonicalObject_members {encoded : Bytes} {error : LeaseVerificationError}
    {members : Members} (h : parseCanonicalObject encoded exactKeys error = .ok map)
    (keys : members.map (fun mem => widen mem.1) = exactKeys)
    (sorted : exactKeys.Pairwise (fun a b => unitRank a < unitRank b))
    (plain : ∀ mem ∈ members, PlainMember mem)
    (values : ∀ mem ∈ members, map.get (widen mem.1) = some (widenScalar mem.2)) :
    encoded = render members := by
  obtain ⟨-, sameKeys, canonical⟩ := parseCanonicalObject_eq_ok.mp h
  rw [canonical]
  apply canonicalJson_eq_render _ plain
  apply sortEntries_of_get
  · rw [keys]
    exact sorted
  · rw [keys]
    exact sameKeys
  · exact values

theorem parseCanonicalObject_render {members : Members}
    (keys : members.map (fun mem => widen mem.1) = exactKeys)
    (sorted : exactKeys.Pairwise (fun a b => unitRank a < unitRank b))
    (plain : ∀ mem ∈ members, PlainMember mem)
    (fits : ∀ mem ∈ members, ∀ n : Nat, mem.2 = .number n → n < 2 ^ 63)
    (error : LeaseVerificationError) :
    ∃ map, parseCanonicalObject (render members) exactKeys error = .ok map ∧
      (∀ key, key ∈ map.keys ↔ key ∈ exactKeys) ∧
      ∀ mem ∈ members, map.get (widen mem.1) = some (widenScalar mem.2) := by
  have dist : (members.map Prod.fst).Nodup := by
    have nodup : (members.map (fun mem => widen mem.1)).Nodup := by
      rw [keys]
      exact sorted.imp (fun less same => absurd less (by rw [same]; exact lt_irrefl _))
    rw [show (fun mem : Bytes × Scalar => widen mem.1) = widen ∘ Prod.fst from rfl,
      ← List.map_map] at nodup
    exact nodup.of_map _
  obtain ⟨map, parsed, entries⟩ := parse_render plain fits dist
  have sameKeys : map.keys = exactKeys := by
    rw [JsonMap.keys, entries, List.map_map]
    exact keys
  have values : ∀ mem ∈ members, map.get (widen mem.1) = some (widenScalar mem.2) := by
    intro mem isMember
    apply @JsonMap.get_of_mem map (widenEntry mem)
    rw [entries]
    exact List.mem_map_of_mem isMember
  refine ⟨map, parseCanonicalObject_eq_ok.mpr ⟨parsed, fun key => by rw [sameKeys], ?_⟩,
    fun key => by rw [sameKeys], values⟩
  symm
  apply canonicalJson_eq_render _ plain
  apply sortEntries_of_get
  · rw [keys]
    exact sorted
  · rw [keys, sameKeys]
    simp
  · exact values

theorem claimKeys (claims : VerifiedUsageLeaseClaims) :
    claims.members.map (fun mem => widen mem.1) = CLAIM_KEYS := rfl

theorem headerKeys (keyId : Bytes) :
    (headerMembers keyId).map (fun mem => widen mem.1) = HEADER_KEYS := rfl

theorem claimKeys_sorted : CLAIM_KEYS.Pairwise (fun a b => unitRank a < unitRank b) := by
  decide

theorem headerKeys_sorted : HEADER_KEYS.Pairwise (fun a b => unitRank a < unitRank b) := by
  decide

theorem get_remove {removed : Units} (other : key ≠ removed) :
    (map.remove removed).get key = map.get key := by
  unfold JsonMap.get JsonMap.remove
  dsimp only
  congr 1
  induction map.entries with
  | nil => rfl
  | cons entry entries ih =>
    by_cases isKey : entry.1 = key
    · have kept : entry.1 ≠ removed := isKey ▸ other
      rw [List.filter_cons_of_pos (by simpa using kept), List.find?_cons_of_pos (by simpa using isKey),
        List.find?_cons_of_pos (by simpa using isKey)]
    · rw [@List.find?_cons_of_neg _ _ entry entries (by simpa using isKey), List.filter_cons]
      split
      · rw [List.find?_cons_of_neg (by simpa using isKey), ih]
      · exact ih

theorem mem_keys_remove {removed : Units} :
    key ∈ (map.remove removed).keys ↔ key ∈ map.keys ∧ key ≠ removed := by
  unfold JsonMap.keys JsonMap.remove
  simp only [List.mem_map, List.mem_filter, decide_eq_true_eq]
  constructor
  · rintro ⟨entry, ⟨mem, kept⟩, rfl⟩
    exact ⟨⟨entry, mem, rfl⟩, kept⟩
  · rintro ⟨⟨entry, mem, rfl⟩, kept⟩
    exact ⟨entry, ⟨mem, kept⟩, rfl⟩

theorem Reads.canonicalJson_remove (reads : Reads map claims)
    (keys : ∀ key, key ∈ map.keys ↔ key ∈ CLAIM_KEYS) (plain : claims.PlainTexts) :
    canonicalJson (map.remove (text "jti")) = render claims.membersWithoutLeaseId := by
  have without : claims.membersWithoutLeaseId.Sublist claims.members :=
    List.Sublist.append_left (List.sublist_cons_self _ _) _
  have sublist : (claims.membersWithoutLeaseId.map (fun mem => widen mem.1)).Sublist
      CLAIM_KEYS := by
    exact without.map _
  have others : ∀ key, key ∈ claims.membersWithoutLeaseId.map (fun mem => widen mem.1) ↔
      key ∈ CLAIM_KEYS ∧ key ≠ text "jti" := by
    have listed : claims.membersWithoutLeaseId.map (fun mem => widen mem.1) =
        CLAIM_KEYS.filter (· ≠ text "jti") := rfl
    intro key
    rw [listed]
    simp
  apply canonicalJson_eq_render _ (fun mem isMember =>
    plainMembers_claims plain mem (without.subset isMember))
  apply sortEntries_of_get
  · exact claimKeys_sorted.sublist sublist
  · intro key
    rw [mem_keys_remove, keys, others]
  · intro mem isMember
    have other := ((others _).mp (List.mem_map_of_mem isMember)).2
    rw [get_remove other]
    exact reads_iff.mp reads mem (without.subset isMember)

theorem isAscii_of_lowerHex {digits : Nat} (h : isLowerHex value digits = true) : IsAscii value :=
  isAscii_of_plain (plain_of_lowerHex h)

variable {crypto : Cryptography}

theorem Reads.requireJti (reads : Reads map claims)
    (keys : ∀ key, key ∈ map.keys ↔ key ∈ CLAIM_KEYS) (plain : claims.PlainTexts)
    (hex : isNonzeroLowerHex claims.leaseId 32 = true) :
    DualMachineUsageLeaseVerifier.requireJti crypto map = .ok ⟨⟩ ↔
      claims.leaseId = (crypto.sha256Hex (render claims.membersWithoutLeaseId)).take 32 := by
  have digits : isLowerHex ((crypto.sha256Hex (render claims.membersWithoutLeaseId)).take 32) 32 =
      true := Cryptography.isLowerHex_take (Cryptography.isLowerHex_sha256Hex _) (by omega)
  unfold DualMachineUsageLeaseVerifier.requireJti
  rw [reads.leaseId, reads.canonicalJson_remove keys plain]
  change check _ _ = _ ↔ _
  rw [check_eq_ok, encodeAscii_widen (isAscii_of_lowerHex (isLowerHex_of_nonzero hex)),
    encodeAscii_widen (isAscii_of_lowerHex digits)]

theorem isLowerHex_of_previousLeaseSha256Valid {seq : Int}
    (h : previousLeaseSha256Valid (widen value) seq = true) : isLowerHex value 64 = true := by
  rw [previousLeaseSha256Valid, Bool.and_eq_true, matchesHex_widen] at h
  exact h.1

theorem plain_of_isAuthorizationKind (h : isAuthorizationKind (widen value) = true) :
    Plain value := by
  simp only [isAuthorizationKind, Bool.or_eq_true, beq_iff_eq, widen_eq_text] at h
  rcases h with (((rfl | rfl) | rfl) | rfl) | rfl <;> decide

theorem PhoneClaims.plainTexts {ttl now : Int} (h : PhoneClaims ttl claims now) :
    claims.PlainTexts where
  type := h.type ▸ by decide
  issuer := h.issuer ▸ by decide
  audience := h.audience ▸ by decide
  entitlementId := plain_of_nonzeroHex h.entitlementId
  pairId := plain_of_nonzeroHex h.pairId
  sessionId := plain_of_nonzeroHex h.sessionId
  hostKeySha256 := plain_of_nonzeroHex h.hostKeySha256
  androidKeySha256 := plain_of_nonzeroHex h.androidKeySha256
  channelBindingSha256 := plain_of_nonzeroHex h.channelBindingSha256
  previousTicketSha256 :=
    plain_of_lowerHex (isLowerHex_of_previousLeaseSha256Valid h.previousTicketSha256)
  phase := h.phase ▸ by decide
  authorizationKind := plain_of_isAuthorizationKind h.authorizationKind
  leaseId := plain_of_nonzeroHex h.leaseIdHex

theorem Reads.numbersUpTo (reads : Reads map claims) (fit : JsonObjectParser.LongsFit map) :
    claims.NumbersUpTo (2 ^ 63 - 1) := by
  have bounded {key : Units} {value : Nat} (h : integerClaim map key = .ok (value : Int)) :
      value ≤ 2 ^ 63 - 1 := by
    rw [integerClaim_eq_ok, JsonMap.get, Option.map_eq_some_iff] at h
    obtain ⟨entry, found, held⟩ := h
    have fits := (fit entry (List.mem_of_find?_eq_some found) _ held).2
    omega
  exact ⟨bounded reads.protocolVersion, bounded reads.revocationVersion, bounded reads.sequence,
    bounded reads.remainingSeconds, bounded reads.issuedAtEpoch, bounded reads.notBeforeEpoch,
    bounded reads.expiresAtEpoch⟩

theorem parseCanonicalObject_fits {enc : Bytes} {error : LeaseVerificationError}
    (h : parseCanonicalObject enc exactKeys error = .ok map) :
    JsonObjectParser.LongsFit map := by
  obtain ⟨parsed, -⟩ := parseCanonicalObject_eq_ok.mp h
  obtain ⟨source, -, parsed⟩ := Option.bind_eq_some_iff.mp parsed
  exact JsonObjectParser.parse_fits parsed

/-! ## Headers -/

theorem requireHeader_eq_ok {hdr : JsonMap} {keyId : Bytes}
    (isKeyId : verifier.expectedKeyId = widen keyId) (hex : isLowerHex keyId 16 = true) :
    verifier.requireHeader hdr = .ok ⟨⟩ ↔
      ∀ mem ∈ headerMembers keyId, hdr.get (widen mem.1) = some (widenScalar mem.2) := by
  unfold DualMachineUsageLeaseVerifier.requireHeader
  simp only [bind_ok, check_eq_ok, exists_eq_right, anyTrue_eq_false, List.forall_mem_cons,
    List.not_mem_nil, false_implies, implies_true, and_true, stringClaimFails_eq_false,
    beq_iff_eq, isKeyId, headerMembers, widenScalar, ← stringClaim_eq_ok]
  constructor
  · rintro ⟨alg, typ, -, kid⟩
    exact ⟨alg, kid, typ⟩
  · rintro ⟨alg, kid, typ⟩
    exact ⟨alg, typ, ⟨_, kid, by rw [matchesHex_widen, hex]⟩, kid⟩

/-! ## Leases -/

theorem addSeconds_eq_ok {monotonicNowNanos seconds deadline : Int} :
    addSeconds monotonicNowNanos seconds = .ok deadline ↔
      Fits (seconds * NANOS_PER_SECOND) ∧ Fits deadline ∧
        deadline = monotonicNowNanos + seconds * NANOS_PER_SECOND := by
  have sum : (multiplyExact seconds NANOS_PER_SECOND).bind (addExact monotonicNowNanos) =
      some deadline ↔ Fits (seconds * NANOS_PER_SECOND) ∧ Fits deadline ∧
        deadline = monotonicNowNanos + seconds * NANOS_PER_SECOND := by
    simp only [multiplyExact, addExact, Option.bind_eq_some_iff, exact_eq_some]
    constructor
    · rintro ⟨_, ⟨fits, rfl⟩, last, rfl⟩
      exact ⟨fits, last, rfl⟩
    · rintro ⟨fits, last, rfl⟩
      exact ⟨_, ⟨fits, rfl⟩, last, rfl⟩
  rw [← sum]
  unfold addSeconds
  cases (multiplyExact seconds NANOS_PER_SECOND).bind (addExact monotonicNowNanos) with
  | none => simp
  | some found => simp

/-- The second that a monotonic reading is mapped to. -/
def mappingEpoch (claims : VerifiedUsageLeaseClaims) (trustedWallTimeEpochSeconds : Int) : Int :=
  max trustedWallTimeEpochSeconds claims.issuedAtEpoch

/-- The window of a lease on the monotonic clock. -/
structure Mapped (claims : VerifiedUsageLeaseClaims)
    (trustedWallTimeEpochSeconds monotonicNowNanos : Int) (lease : VerifiedLease) : Prop where
  notBefore : addSeconds monotonicNowNanos
    (max 0 (claims.notBeforeEpoch - mappingEpoch claims trustedWallTimeEpochSeconds)) =
      .ok lease.notBeforeMonotonicNanos
  expiresAt : addSeconds monotonicNowNanos
    (claims.expiresAtEpoch - mappingEpoch claims trustedWallTimeEpochSeconds) =
      .ok lease.expiresAtMonotonicNanos

/-- The signed part of a lease. -/
def verifiedLease (crypto : Cryptography) (token : Bytes) (claims : VerifiedUsageLeaseClaims)
    (notBeforeMonotonicNanos expiresAtMonotonicNanos : Int) : VerifiedLease where
  tokenSha256 := widen (crypto.sha256Hex token)
  entitlementId := widen claims.entitlementId
  pairId := widen claims.pairId
  sessionId := widen claims.sessionId
  protocolVersion := claims.protocolVersion
  revocationVersion := claims.revocationVersion
  hostKeySha256 := widen claims.hostKeySha256
  androidKeySha256 := widen claims.androidKeySha256
  channelTranscriptSha256 := widen claims.channelBindingSha256
  previousLeaseSha256 := widen claims.previousTicketSha256
  sequence := claims.sequence
  authorizationKind := widen claims.authorizationKind
  permanent := claims.isPermanent
  remainingSeconds := claims.remainingSeconds
  issuedAtEpochSeconds := claims.issuedAtEpoch
  notBeforeEpochSeconds := claims.notBeforeEpoch
  expiresAtEpochSeconds := claims.expiresAtEpoch
  notBeforeMonotonicNanos := notBeforeMonotonicNanos
  expiresAtMonotonicNanos := expiresAtMonotonicNanos

theorem Reads.mapLease (reads : Reads map claims) (numbers : claims.NumbersUpTo (2 ^ 63 - 1))
    {token : Bytes} (ascii : IsAscii token) {now monotonic : Int} (pos : 0 < now)
    (unexpired : now < claims.expiresAtEpoch) {lease : VerifiedLease} :
    DualMachineUsageLeaseVerifier.mapLease crypto (widen token) map now monotonic = .ok lease ↔
      Mapped claims now monotonic lease ∧
      lease = verifiedLease crypto token claims lease.notBeforeMonotonicNanos
        lease.expiresAtMonotonicNanos := by
  have difference {value : Nat} (le : value ≤ 2 ^ 63 - 1) :
      wrap (value - mappingEpoch claims now) = value - mappingEpoch claims now := by
    have bound := numbers.issuedAtEpoch
    have last := numbers.expiresAtEpoch
    apply wrap_of_fits
    unfold mappingEpoch Fits
    omega
  unfold DualMachineUsageLeaseVerifier.mapLease
  simp only [reads.issuedAtEpoch, reads.notBeforeEpoch, reads.expiresAtEpoch, reads.entitlementId,
    reads.pairId, reads.sessionId, reads.protocolVersion, reads.revocationVersion,
    reads.hostKeySha256, reads.androidKeySha256, reads.channelBindingSha256,
    reads.previousTicketSha256, reads.sequence, reads.authorizationKind, reads.isPermanent,
    reads.remainingSeconds, bind_ok, Except.ok.injEq, exists_eq_left', encodeAscii_widen ascii]
  rw [← mappingEpoch, difference numbers.notBeforeEpoch, difference numbers.expiresAtEpoch]
  constructor
  · rintro ⟨notBefore, starts, expiresAt, ends, last⟩
    cases last
    exact ⟨⟨starts, ends⟩, rfl⟩
  · rintro ⟨⟨starts, ends⟩, same⟩
    refine ⟨_, starts, _, ends, ?_⟩
    rw [same]
    rfl

/-- A token the verifier takes for the lease with these claims. -/
structure Accepted (crypto : Cryptography) (verifier : DualMachineUsageLeaseVerifier)
    (token : Units) (expected : ExpectedBinding)
    (trustedWallTimeEpochSeconds monotonicNowNanos : Int) (claims : VerifiedUsageLeaseClaims)
    (signature : Bytes) (lease : VerifiedLease) : Prop where
  positive : 0 < trustedWallTimeEpochSeconds
  short : token.length ≤ MAXIMUM_TOKEN_CHARACTERS
  spelled : token = widen (compactToken (crypto.keyId verifier.publicKey) claims signature)
  nonempty : signature ≠ []
  verifies : crypto.rsaVerify verifier.publicKey
    (signingText (crypto.keyId verifier.publicKey) claims) signature = true
  numbers : claims.NumbersUpTo (2 ^ 63 - 1)
  checked : PhoneClaims verifier.maximumTtlSeconds claims trustedWallTimeEpochSeconds
  leaseId : claims.leaseId = (crypto.sha256Hex (render claims.membersWithoutLeaseId)).take 32
  bound : Expects expected claims
  mapped : Mapped claims trustedWallTimeEpochSeconds monotonicNowNanos lease
  signed : lease = verifiedLease crypto
    (compactToken (crypto.keyId verifier.publicKey) claims signature) claims
    lease.notBeforeMonotonicNanos lease.expiresAtMonotonicNanos

theorem numbers_members (numbers : claims.NumbersUpTo (2 ^ 63 - 1)) :
    ∀ mem ∈ claims.members, ∀ n : Nat, mem.2 = .number n → n < 2 ^ 63 := by
  have below {value n : Nat} (le : value ≤ 2 ^ 63 - 1) (same : Scalar.number value = .number n) :
      n < 2 ^ 63 := by
    cases same
    omega
  simp only [VerifiedUsageLeaseClaims.members, VerifiedUsageLeaseClaims.leadingMembers,
    VerifiedUsageLeaseClaims.trailingMembers, List.cons_append, List.nil_append,
    List.forall_mem_cons, List.not_mem_nil, false_implies, implies_true, and_true, reduceCtorEq,
    true_and]
  exact ⟨fun _ => below numbers.expiresAtEpoch, fun _ => below numbers.issuedAtEpoch,
    fun _ => below numbers.notBeforeEpoch, fun _ => below numbers.protocolVersion,
    fun _ => below numbers.remainingSeconds, fun _ => below numbers.revocationVersion,
    fun _ => below numbers.sequence⟩

theorem isAscii_compactToken (keyId : Bytes) (claims : VerifiedUsageLeaseClaims)
    (signature : Bytes) : IsAscii (compactToken keyId claims signature) := by
  have dotted {first snd : Bytes} (h : IsAscii first) (k : IsAscii snd) :
      IsAscii (first ++ 46 :: snd) :=
    isAscii_append.mpr ⟨h, (@isAscii_append [46] _).mpr ⟨by decide, k⟩⟩
  exact dotted (dotted (isAscii_encode _) (isAscii_encode _)) (isAscii_encode _)

namespace DualMachineUsageLeaseVerifier

theorem create_eq_some {publicKey : Bytes} {maximumTtlSeconds : Int} :
    create crypto publicKey maximumTtlSeconds = some verifier ↔
      (∃ bits, crypto.rsaModulusBits publicKey = some bits ∧ MINIMUM_RSA_BITS ≤ bits) ∧
      1 ≤ maximumTtlSeconds ∧ maximumTtlSeconds ≤ ABSOLUTE_MAXIMUM_TTL_SECONDS ∧
      verifier =
        { publicKey := publicKey
          expectedKeyId := widen (crypto.keyId publicKey)
          maximumTtlSeconds := maximumTtlSeconds } := by
  unfold create
  cases crypto.rsaModulusBits publicKey with
  | none => simp
  | some bits =>
    simp only [Option.some.injEq, exists_eq_left']
    split
    · rename_i small
      simp [small]
    · split
      · constructor
        · intro no
          cases no
        · rintro ⟨-, low, high, -⟩
          omega
      · rw [Option.some.injEq]
        constructor
        · rintro rfl
          exact ⟨by omega, by omega, by omega, rfl⟩
        · rintro ⟨-, -, -, rfl⟩
          rfl

theorem expectedKeyId_of_create {publicKey : Bytes} {maximumTtlSeconds : Int}
    (h : create crypto publicKey maximumTtlSeconds = some verifier) :
    verifier.expectedKeyId = widen (crypto.keyId verifier.publicKey) := by
  obtain ⟨-, -, -, rfl⟩ := create_eq_some.mp h
  rfl

variable {crypto : Cryptography} {verifier : DualMachineUsageLeaseVerifier} {token : Units}
  {want : ExpectedBinding} {now monotonic : Int} {lease : VerifiedLease}

theorem accepted_of_verify
    (isKeyId : verifier.expectedKeyId = widen (crypto.keyId verifier.publicKey))
    (h : verifier.verify crypto token want now monotonic = .ok lease) :
    ∃ claims signature, Accepted crypto verifier token want now monotonic claims signature
      lease := by
  unfold verify at h
  simp only [bind_ok, check_eq_ok] at h
  obtain ⟨_, pos, segments, decoded, hdr, headerParsed, _, headerChecked, _, verified, map,
    parsed, _, claimsChecked, _, jtiChecked, mapped⟩ := h
  obtain ⟨short, spelled, input, -, -, nonempty⟩ := decodeToken_eq_ok.mp decoded
  obtain ⟨claims, reads⟩ := reads_of_requireClaims claimsChecked
  have numbers := reads.numbersUpTo (parseCanonicalObject_fits parsed)
  obtain ⟨checked, bound⟩ := (reads.requireClaims numbers).mp claimsChecked
  have plain := checked.plainTexts
  have hexKey := @Cryptography.isLowerHex_keyId crypto verifier.publicKey
  have headerBytes := parseCanonicalObject_members headerParsed (headerKeys _) headerKeys_sorted
    (plainMembers_header (plain_of_lowerHex hexKey))
    ((requireHeader_eq_ok isKeyId hexKey).mp headerChecked)
  have payloadBytes := parseCanonicalObject_members parsed (claimKeys claims) claimKeys_sorted
    (plainMembers_claims plain) (reads_iff.mp reads)
  have keys := (parseCanonicalObject_eq_ok.mp parsed).2.1
  have token_eq : token = widen (compactToken (crypto.keyId verifier.publicKey) claims
      segments.signatureBytes) := by
    rw [spelled, headerBytes, payloadBytes]
    simp [compactToken, signingText]
  rw [token_eq, reads.mapLease numbers (isAscii_compactToken _ _ _) pos checked.unexpired]
    at mapped
  rw [verifySignature, check_eq_ok, input, headerBytes, payloadBytes] at verified
  exact ⟨claims, segments.signatureBytes, pos, short, token_eq, nonempty, verified, numbers,
    checked, (reads.requireJti keys plain checked.leaseIdHex).mp jtiChecked, bound, mapped.1,
    mapped.2⟩

theorem verify_of_accepted
    (isKeyId : verifier.expectedKeyId = widen (crypto.keyId verifier.publicKey))
    {claims : VerifiedUsageLeaseClaims} {signature : Bytes}
    (h : Accepted crypto verifier token want now monotonic claims signature lease) :
    verifier.verify crypto token want now monotonic = .ok lease := by
  have plain := h.checked.plainTexts
  have hexKey := @Cryptography.isLowerHex_keyId crypto verifier.publicKey
  have decoded : decodeToken token = .ok
      { headerBytes := render (headerMembers (crypto.keyId verifier.publicKey))
        payloadBytes := render claims.members
        signatureBytes := signature
        signingInput := signingText (crypto.keyId verifier.publicKey) claims } := by
    apply decodeToken_eq_ok.mpr
    refine ⟨h.short, ?_, rfl, render_ne_nil (headerMembers _), render_ne_nil claims.members,
      h.nonempty⟩
    rw [h.spelled]
    simp [compactToken, signingText]
  obtain ⟨hdr, headerParsed, -, headerValues⟩ := parseCanonicalObject_render
    (headerKeys (crypto.keyId verifier.publicKey)) headerKeys_sorted
    (plainMembers_header (plain_of_lowerHex hexKey)) (by simp [headerMembers]) .headerInvalid
  obtain ⟨map, parsed, keys, values⟩ := parseCanonicalObject_render (claimKeys claims)
    claimKeys_sorted (plainMembers_claims plain) (numbers_members h.numbers) .claimsInvalid
  have reads := reads_iff.mpr values
  unfold verify
  simp only [bind_ok, check_eq_ok]
  refine ⟨⟨⟩, h.positive, _, decoded, hdr, headerParsed, ⟨⟩,
    (requireHeader_eq_ok isKeyId hexKey).mpr headerValues, ⟨⟩, check_eq_ok.mpr h.verifies, map,
    parsed, ⟨⟩, (reads.requireClaims h.numbers).mpr ⟨h.checked, h.bound⟩, ⟨⟩,
    (reads.requireJti keys plain h.checked.leaseIdHex).mpr h.leaseId, ?_⟩
  rw [h.spelled, reads.mapLease h.numbers (isAscii_compactToken _ _ _) h.positive
    h.checked.unexpired]
  exact ⟨h.mapped, h.signed⟩

end DualMachineUsageLeaseVerifier

end VisionForge.PhoneLease
