import VisionForge.Server.TokenService

/-! # The service reads its own leases

What the service signs it decodes to the claims it signed, and it verifies a lease
as long as the lease has begun and is not past its grace.
-/

namespace VisionForge.Server

open Lib.Ascii Lib.Base64Url Lib.Decimal Lib.FlatJson Lib.Hex Lib.Segments UsageLease

theorem loadText_plain {value : Bytes} (plain : Plain value) (rest : Bytes) :
    loadText (value ++ 34 :: rest) = some (value, rest) := by
  induction value with
  | nil =>
    rw [List.nil_append]
    unfold loadText
    rw [if_pos rfl]
  | cons char value ih =>
    have isChar := plain char List.mem_cons_self
    simp only [isPlain, Bool.and_eq_true, decide_eq_true_eq, bne_iff_ne, ne_eq] at isChar
    obtain ⟨⟨⟨low, high⟩, notQuote⟩, notEscape⟩ := isChar
    have printable : ¬(char < 32 ∨ 127 < char) := by
      simp only [UInt8.lt_iff_toNat_lt, UInt8.le_iff_toNat_le, UInt8.reduceToNat] at *
      omega
    rw [List.cons_append]
    unfold loadText
    rw [if_neg notQuote, if_neg notEscape, if_neg printable,
      ih (fun c mem => plain c (List.mem_cons_of_mem char mem))]
    rfl

theorem loadDigits_append {digits : Bytes} (all : ∀ c ∈ digits, isDigit c = true) (start : Nat)
    {rest : Bytes} (ends : EndsDigits rest) :
    loadDigits start (digits ++ rest) = (valueFrom start digits, rest) := by
  induction digits generalizing start with
  | nil =>
    cases rest with
    | nil => rfl
    | cons char rest =>
      rw [List.nil_append, loadDigits, if_neg (by simp [ends char rest rfl])]
      rfl
  | cons char digits ih =>
    rw [List.cons_append, loadDigits, if_pos (all char List.mem_cons_self),
      ih (fun c mem => all c (List.mem_cons_of_mem char mem))]
    rfl

theorem loadScalar_numeral (value : Nat) {rest : Bytes} (ends : EndsDigits rest) :
    loadScalar (decimal value ++ rest) = some (.number value, rest) := by
  have digits := fun c => @isDigit_of_mem_decimal value c
  have read := loadDigits_append digits 0 ends
  rw [valueFrom_decimal] at read
  cases spelled : decimal value with
  | nil => exact absurd spelled (decimal_ne_nil value)
  | cons char tail =>
    rw [spelled] at read digits
    have isDigit_head := digits char List.mem_cons_self
    have bounds := isDigit_iff.mp isDigit_head
    have notQuote : char ≠ 34 := by
      rintro rfl
      exact absurd bounds.1 (by decide)
    have notMinus : char ≠ 45 := by
      rintro rfl
      exact absurd bounds.1 (by decide)
    rw [List.cons_append] at read ⊢
    simp only [loadScalar, if_neg notQuote, if_neg notMinus, isDigit_head, if_true, read]

theorem loadScalar_scalarText {mem : Bytes × Scalar} (plain : PlainMember mem)
    {rest : Bytes} (ends : EndsDigits rest) :
    loadScalar (scalarText mem.2 ++ rest) = some (mem.2, rest) := by
  cases plain with
  | text _ value =>
    rw [scalarText_text, quote_plain value, List.cons_append, List.append_assoc]
    simp only [loadScalar, if_true, List.singleton_append, loadText_plain value, Option.map_some]
  | number value _ =>
    exact loadScalar_numeral value ends
  | flag value _ => cases value <;> rfl

theorem endsDigits_tail (mems : Members) : EndsDigits (tailText mems ++ [125]) := by
  intro c rest same
  cases mems with
  | nil =>
    cases same
    rfl
  | cons mem mems =>
    cases same
    rfl

theorem loadMembers_member {mem : Bytes × Scalar} (plain : PlainMember mem) {rest : Bytes}
    (ends : EndsDigits rest) (bound : Nat) :
    loadMembers (bound + 1) (memberText mem ++ rest) =
      if rest = [125] then some [mem]
      else if rest.head? = some 44 then (loadMembers bound rest.tail).map (mem :: ·)
      else none := by
  have key := plain.key
  rw [loadMembers, memberText, quote_plain key]
  simp only [List.cons_append, List.append_assoc, List.nil_append, List.head?_cons, if_true,
    List.tail_cons, loadText_plain key, Option.bind_eq_bind, Option.bind_some,
    loadScalar_scalarText plain ends]
  split
  · rfl
  split
  · cases loadMembers bound rest.tail <;> rfl
  · rfl

theorem loadMembers_members {mem : Bytes × Scalar} {members : Members}
    (plain : ∀ entry ∈ mem :: members, PlainMember entry) {bound : Nat}
    (enough : members.length < bound) :
    loadMembers bound (memberText mem ++ (tailText members ++ [125])) = some (mem :: members) := by
  induction members generalizing mem bound with
  | nil =>
    obtain ⟨bound, rfl⟩ := Nat.exists_eq_succ_of_ne_zero (Nat.ne_of_gt enough)
    rw [loadMembers_member (plain mem List.mem_cons_self) (endsDigits_tail [])]
    rfl
  | cons next members ih =>
    obtain ⟨bound, rfl⟩ := Nat.exists_eq_succ_of_ne_zero (Nat.ne_of_gt (Nat.zero_lt_of_lt enough))
    have rest := @ih next (fun entry isEntry => plain entry (List.mem_cons_of_mem _ isEntry))
      bound (by simpa using enough)
    have tail : (tailText (next :: members) ++ [125]).tail =
        memberText next ++ (tailText members ++ [125]) := by
      simp [tailText]
    have head : (tailText (next :: members) ++ [125]).head? = some 44 := by
      simp [tailText]
    have more : tailText (next :: members) ++ [125] ≠ [125] := by
      intro same
      rw [same] at head
      cases head
    rw [loadMembers_member (plain mem List.mem_cons_self) (endsDigits_tail _), if_neg more,
      if_pos head, tail, rest]
    rfl

theorem loads_render {mems : Members} (plain : ∀ entry ∈ mems, PlainMember entry)
    (dist : (mems.map Prod.fst).Nodup) : loads (render mems) = some mems := by
  cases mems with
  | nil => rfl
  | cons mem mems =>
    have enough : mems.length < (render (mem :: mems)).length := by
      have few := length_tailText_ge mems
      simp only [render, List.length_cons, List.length_append]
      omega
    have loaded := congrArg (Option.map lastMembers) (loadMembers_members plain enough)
    rw [Option.map_some, lastMembers_of_nodup dist] at loaded
    exact loaded

theorem sorted_headerMembers (keyId : Bytes) : ((headerMembers keyId).map Prod.fst).Pairwise
    (fun a b => octetRank a < octetRank b) := by
  change [ascii "alg", ascii "kid", ascii "typ"].Pairwise _
  decide

theorem sorted_members (claims : VerifiedUsageLeaseClaims) : (claims.members.map Prod.fst).Pairwise
    (fun a b => octetRank a < octetRank b) := by
  change [ascii "akh", ascii "aud", ascii "authorization_kind", ascii "cbh", ascii "exp",
    ascii "hkh", ascii "iat", ascii "is_permanent", ascii "iss", ascii "jti", ascii "nbf",
    ascii "phase", ascii "pid", ascii "pth", ascii "pv", ascii "remaining", ascii "rv",
    ascii "seq", ascii "sid", ascii "sub", ascii "typ"].Pairwise _
  decide

theorem canonical_membersWithoutLeaseId (claims : VerifiedUsageLeaseClaims) :
    canonical claims.membersWithoutLeaseId = render claims.membersWithoutLeaseId := by
  apply canonical_of_sorted
  change [ascii "akh", ascii "aud", ascii "authorization_kind", ascii "cbh", ascii "exp",
    ascii "hkh", ascii "iat", ascii "is_permanent", ascii "iss", ascii "nbf", ascii "phase",
    ascii "pid", ascii "pth", ascii "pv", ascii "remaining", ascii "rv", ascii "seq",
    ascii "sid", ascii "sub", ascii "typ"].Pairwise _
  decide

theorem b64uDecode_encode {bs : Bytes} (nonempty : bs ≠ []) : b64uDecode (encode bs) = some bs := by
  unfold b64uDecode
  rw [if_neg (encode_ne_nil nonempty), decode_encode]
  simp

theorem decodeToken_compactToken {keyId signature : Bytes} {claims : VerifiedUsageLeaseClaims}
    (plainKey : Plain keyId) (plain : claims.PlainTexts) (signed : signature ≠ [])
    (short : (compactToken keyId claims signature).length ≤ MAX_TOKEN_CHARACTERS) :
    decodeToken (compactToken keyId claims signature) =
      some
        { header := headerMembers keyId
          payload := claims.members
          signingInput := signingText keyId claims
          signature := signature } := by
  have nonempty : 1 ≤ (compactToken keyId claims signature).length := by
    simp only [compactToken, List.length_append, List.length_cons]
    omega
  have hdr := sorted_headerMembers keyId
  have payload := sorted_members claims
  unfold decodeToken decodeTokenWith
  simp only [guard, if_pos (And.intro nonempty short), compactToken_segments signed,
    b64uDecode_encode (render_ne_nil _), b64uDecode_encode signed,
    loads_render (plainMembers_header plainKey) (nodup_of_sorted hdr),
    loads_render (plainMembers_claims plain) (nodup_of_sorted payload),
    canonical_of_sorted hdr, canonical_of_sorted payload, Option.bind_eq_bind,
    Option.bind_some, and_self, if_true, Option.pure_def, Option.map_some, signingText]

section

variable {crypto : Cryptography} {codec : RsaTokenCodec} {ent : EntitlementRow}
  {sessionId binding : Bytes} {seq : Nat} {phase : Bytes} {dur : Nat}
  {previousLeaseSha256 : Bytes} {now notBefore : Nat}

theorem authorizationKind_listed (kind : AuthorizationKind) :
    [ascii "legacy_balance", ascii "day", ascii "week", ascii "month", ascii "permanent"].contains
      kind.text = true := by
  cases kind <;> decide

theorem leaseId_signed (expiresAt : Nat) :
    (signedClaims crypto ent sessionId binding seq previousLeaseSha256
      now notBefore expiresAt).leaseId =
    (crypto.sha256Hex (canonical ((signedClaims crypto ent sessionId binding
      seq previousLeaseSha256 now notBefore expiresAt).members.filter
        (fun entry => entry.1 ≠ ascii "jti")))).take 32 := by
  have others (claims : VerifiedUsageLeaseClaims) :
      claims.members.filter (fun entry => entry.1 ≠ ascii "jti") =
        claims.membersWithoutLeaseId := rfl
  rw [others, canonical_membersWithoutLeaseId, ← canonical_unsignedPayload]
  rfl

/-- The checks on a lease find what was signed. -/
theorem validateUsageClaims_signed {later grace : Nat}
    (issuable : Issuable codec ent sessionId binding seq phase dur
      previousLeaseSha256 now notBefore) (hc : ent.Checks) (pos : 0 < now)
    (leaseId : isNonzeroLowerHex (signedClaims crypto ent sessionId binding
      seq previousLeaseSha256 now notBefore (notBefore + dur)).leaseId 32 = true)
    (begun : notBefore ≤ later) (recent : later < notBefore + dur + grace) :
    validateUsageClaims crypto (signedClaims crypto ent sessionId binding
      seq previousLeaseSha256 now notBefore (notBefore + dur)).members later grace 0
      codec.leaseTtlSeconds false = true := by
  have sameId := @leaseId_signed crypto ent sessionId binding seq
    previousLeaseSha256 now notBefore (notBefore + dur)
  have kind := authorizationKind_listed ent.authorizationKind
  have protocol := hc.protocolVersion
  have revocation := hc.revocationVersion
  have duration_pos := issuable.positive
  have ttl := issuable.ttl
  have start := issuable.notBefore
  have ids : [ascii "sub", ascii "pid", ascii "sid", ascii "jti"].all (hexMember
      (signedClaims crypto ent sessionId binding seq
        previousLeaseSha256 now notBefore (notBefore + dur)).members 32) = true := by
    change (isNonzeroLowerHex ent.entitlementId 32 &&
      (isNonzeroLowerHex ent.pairId 32 && (isNonzeroLowerHex sessionId 32 &&
        (isNonzeroLowerHex _ 32 && true)))) = true
    rw [issuable.entitlementId, issuable.pairId, issuable.sessionId, leaseId]
    rfl
  have hashes : [ascii "hkh", ascii "akh", ascii "cbh"].all (hexMember
      (signedClaims crypto ent sessionId binding seq
        previousLeaseSha256 now notBefore (notBefore + dur)).members 64) = true := by
    change (isNonzeroLowerHex ent.hostKeySha256 64 &&
      (isNonzeroLowerHex ent.androidKeySha256 64 &&
        (isNonzeroLowerHex binding 64 && true))) = true
    rw [issuable.hostKeySha256, issuable.androidKeySha256, issuable.channelBindingSha256]
    rfl
  have lookupId : textMember (signedClaims crypto ent sessionId binding
      seq previousLeaseSha256 now notBefore (notBefore + dur)).members (ascii "jti") =
      some (signedClaims crypto ent sessionId binding seq
        previousLeaseSha256 now notBefore (notBefore + dur)).leaseId := rfl
  unfold validateUsageClaims
  rw [ids, hashes, lookupId, ← sameId]
  change (true && true && true && true && true && ((ent.protocolVersion : Int) == 2) &&
    decide (0 < (ent.revocationVersion : Int)) && decide (0 ≤ (seq : Int)) &&
    validPreviousLeaseSha256 previousLeaseSha256 seq && true &&
    ([ascii "legacy_balance", ascii "day", ascii "week", ascii "month",
      ascii "permanent"].contains ent.authorizationKind.text &&
      (some (isPermanent ent) == some (isPermanent ent))) &&
    decide (0 ≤ (ent.remainingSeconds : Int)) && decide (0 < (now : Int)) &&
    decide ((now : Int) ≤ notBefore) && decide ((notBefore : Int) < (notBefore + dur : Nat)) &&
    decide (((notBefore + dur : Nat) : Int) - notBefore ≤ codec.leaseTtlSeconds) &&
    decide ((notBefore : Int) ≤ later + (0 : Nat)) &&
    (false || decide ((later : Int) < (notBefore + dur : Nat) + grace)) && _) = true
  simp only [issuable.previousLeaseSha256, kind, protocol, beq_self_eq_true, Bool.and_eq_true,
    Bool.or_eq_true, decide_eq_true_eq, and_true, true_and, Bool.false_eq_true, false_or, beq_iff_eq]
  omega

/-- The service verifies every lease it signed, from the time the lease begins until
    its grace is over. -/
theorem RsaTokenCodec.verifyUsageLease_signedToken {later grace : Nat}
    (issuable : Issuable codec ent sessionId binding seq phase dur
      previousLeaseSha256 now notBefore)
    (plain : (signedClaims crypto ent sessionId binding seq
      previousLeaseSha256 now notBefore (notBefore + dur)).PlainTexts)
    (signs : ∀ input, crypto.rsaVerify codec.publicKey input (codec.sign input) = true)
    (signed : ∀ input, codec.sign input ≠ [])
    (short : (codec.signedToken crypto (signedClaims crypto ent sessionId
      binding seq previousLeaseSha256 now notBefore
      (notBefore + dur))).length ≤ MAX_TOKEN_CHARACTERS)
    (hc : ent.Checks) (pos : 0 < now)
    (leaseId : isNonzeroLowerHex (signedClaims crypto ent sessionId binding
      seq previousLeaseSha256 now notBefore (notBefore + dur)).leaseId 32 = true)
    (begun : notBefore ≤ later) (recent : later < notBefore + dur + grace) :
    codec.verifyUsageLease crypto (codec.signedToken crypto (signedClaims crypto ent
        sessionId binding seq previousLeaseSha256 now notBefore
        (notBefore + dur))) later grace 0 false =
      some (signedClaims crypto ent sessionId binding seq
        previousLeaseSha256 now notBefore (notBefore + dur)).members := by
  have decoded := decodeToken_compactToken
    (plain_of_lowerHex (Cryptography.isLowerHex_keyId codec.publicKey)) plain (signed _) short
  have valid := validateUsageClaims_signed issuable hc pos leaseId begun recent
  have sel : codec.verificationKey crypto (crypto.keyId codec.publicKey) =
      some codec.publicKey := by
    simp [verificationKey]
  have hdr (keyId : Bytes) :
      textMember (headerMembers keyId) (ascii "alg") = some (ascii "RS256") ∧
        textMember (headerMembers keyId) (ascii "typ") = some (ascii "JWT") ∧
        textMember (headerMembers keyId) (ascii "kid") = some keyId := ⟨rfl, rfl, rfl⟩
  unfold verifyUsageLease signedToken
  simp only [decoded, hdr, Option.bind_eq_bind, Option.bind_some, ne_eq, not_true_eq_false,
    or_self, if_false, Option.getD_some, sel, signs, valid, Bool.not_true, Bool.false_eq_true,
    Option.pure_def]

end

end VisionForge.Server
