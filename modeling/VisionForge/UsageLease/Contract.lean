import VisionForge.Lib.Ascii
import VisionForge.Lib.Base64Url
import VisionForge.Lib.FlatJson
import VisionForge.Lib.HashChain
import VisionForge.Lib.Segments

/-! # The usage-lease contract of the Host

Typed claims of a verified lease, the peer binding they are compared with and the
checks the gate repeats before it opens the data plane. Epochs, sequence numbers
and versions are 64-bit in the source and natural numbers here: the contract only
compares them and subtracts a smaller one from a larger one.
-/

namespace VisionForge.UsageLease

open Lib.Ascii

def kUsageLeaseProtocolVersion : Nat := 2
def kMaximumUsageLeaseTtlSeconds : Nat := 10
def kUsageLeaseServerAheadGraceSeconds : Nat := 2
def kUsageLeaseType : Bytes := ascii "vf-dual-machine-usage-lease-v1"
def kUsageLeaseIssuer : Bytes := ascii "visionforge-dual-machine-service"
def kUsageLeaseAudience : Bytes := ascii "visionforge-dual-machine-data-plane"
def kUsageLeaseActivePhase : Bytes := ascii "active"

def kIdentifierCharacters : Nat := 32
def kSha256Characters : Nat := 64
def kEmptyPreviousTicketSha256 : Bytes := List.replicate 64 48

structure UsageLeaseBinding where
  entitlementId : Bytes
  pairId : Bytes
  sessionId : Bytes
  protocolVersion : Nat
  revocationVersion : Nat
  hostKeySha256 : Bytes
  androidKeySha256 : Bytes
  channelBindingSha256 : Bytes
  deriving DecidableEq

structure VerifiedUsageLeaseClaims where
  type : Bytes
  issuer : Bytes
  audience : Bytes
  entitlementId : Bytes
  pairId : Bytes
  sessionId : Bytes
  protocolVersion : Nat
  revocationVersion : Nat
  hostKeySha256 : Bytes
  androidKeySha256 : Bytes
  channelBindingSha256 : Bytes
  previousTicketSha256 : Bytes
  sequence : Nat
  phase : Bytes
  authorizationKind : Bytes
  isPermanent : Bool
  remainingSeconds : Nat
  leaseId : Bytes
  issuedAtEpoch : Nat
  notBeforeEpoch : Nat
  expiresAtEpoch : Nat
  deriving DecidableEq

/-- A verified lease; `ticketSha256` digests the exact compact token and is what
    the successor's `previousTicketSha256` has to name. -/
structure VerifiedUsageLease where
  claims : VerifiedUsageLeaseClaims
  ticketSha256 : Bytes
  deriving DecidableEq

def bindingValid (binding : UsageLeaseBinding) : Bool :=
  isNonzeroLowerHex binding.entitlementId kIdentifierCharacters &&
  isNonzeroLowerHex binding.pairId kIdentifierCharacters &&
  isNonzeroLowerHex binding.sessionId kIdentifierCharacters &&
  binding.protocolVersion == kUsageLeaseProtocolVersion &&
  decide (0 < binding.revocationVersion) &&
  isNonzeroLowerHex binding.hostKeySha256 kSha256Characters &&
  isNonzeroLowerHex binding.androidKeySha256 kSha256Characters &&
  isNonzeroLowerHex binding.channelBindingSha256 kSha256Characters

def claimsValid (ticket : VerifiedUsageLease) (trustedNowEpoch : Nat) : Bool :=
  let claims := ticket.claims
  if trustedNowEpoch == 0 ||
      claims.type != kUsageLeaseType ||
      claims.issuer != kUsageLeaseIssuer ||
      claims.audience != kUsageLeaseAudience ||
      !isNonzeroLowerHex claims.entitlementId kIdentifierCharacters ||
      !isNonzeroLowerHex claims.pairId kIdentifierCharacters ||
      !isNonzeroLowerHex claims.sessionId kIdentifierCharacters ||
      claims.protocolVersion != kUsageLeaseProtocolVersion ||
      claims.revocationVersion == 0 ||
      !isNonzeroLowerHex claims.hostKeySha256 kSha256Characters ||
      !isNonzeroLowerHex claims.androidKeySha256 kSha256Characters ||
      !isNonzeroLowerHex claims.channelBindingSha256 kSha256Characters ||
      !isLowerHex claims.previousTicketSha256 kSha256Characters ||
      !isNonzeroLowerHex ticket.ticketSha256 kSha256Characters ||
      claims.phase != kUsageLeaseActivePhase ||
      claims.issuedAtEpoch == 0 ||
      decide (claims.notBeforeEpoch < claims.issuedAtEpoch) ||
      (decide (trustedNowEpoch < claims.issuedAtEpoch) &&
        decide (kUsageLeaseServerAheadGraceSeconds < claims.issuedAtEpoch - trustedNowEpoch)) ||
      decide (claims.expiresAtEpoch ≤ claims.notBeforeEpoch) then
    false
  else
    decide (claims.expiresAtEpoch - claims.notBeforeEpoch ≤ kMaximumUsageLeaseTtlSeconds)

def bindingMatches (binding : UsageLeaseBinding) (claims : VerifiedUsageLeaseClaims) : Bool :=
  claims.entitlementId == binding.entitlementId &&
  claims.pairId == binding.pairId &&
  claims.sessionId == binding.sessionId &&
  claims.protocolVersion == binding.protocolVersion &&
  claims.revocationVersion == binding.revocationVersion &&
  claims.hostKeySha256 == binding.hostKeySha256 &&
  claims.androidKeySha256 == binding.androidKeySha256 &&
  claims.channelBindingSha256 == binding.channelBindingSha256

/-- The eight bound fields of a lease, read as a binding. -/
def VerifiedUsageLeaseClaims.binding (claims : VerifiedUsageLeaseClaims) : UsageLeaseBinding where
  entitlementId := claims.entitlementId
  pairId := claims.pairId
  sessionId := claims.sessionId
  protocolVersion := claims.protocolVersion
  revocationVersion := claims.revocationVersion
  hostKeySha256 := claims.hostKeySha256
  androidKeySha256 := claims.androidKeySha256
  channelBindingSha256 := claims.channelBindingSha256

theorem bindingMatches_iff {binding : UsageLeaseBinding} {claims : VerifiedUsageLeaseClaims} :
    bindingMatches binding claims = true ↔ claims.binding = binding := by
  cases binding
  simp only [bindingMatches, VerifiedUsageLeaseClaims.binding, Bool.and_eq_true, beq_iff_eq,
    UsageLeaseBinding.mk.injEq, and_assoc]

/-- What the gate's own claim check guarantees about a ticket. -/
structure ClaimsValid (ticket : VerifiedUsageLease) (trustedNowEpoch : Nat) : Prop where
  now : 0 < trustedNowEpoch
  type : ticket.claims.type = kUsageLeaseType
  issuer : ticket.claims.issuer = kUsageLeaseIssuer
  audience : ticket.claims.audience = kUsageLeaseAudience
  entitlementId : isNonzeroLowerHex ticket.claims.entitlementId kIdentifierCharacters = true
  pairId : isNonzeroLowerHex ticket.claims.pairId kIdentifierCharacters = true
  sessionId : isNonzeroLowerHex ticket.claims.sessionId kIdentifierCharacters = true
  protocolVersion : ticket.claims.protocolVersion = kUsageLeaseProtocolVersion
  revocationVersion : 0 < ticket.claims.revocationVersion
  hostKeySha256 : isNonzeroLowerHex ticket.claims.hostKeySha256 kSha256Characters = true
  androidKeySha256 : isNonzeroLowerHex ticket.claims.androidKeySha256 kSha256Characters = true
  channelBindingSha256 :
    isNonzeroLowerHex ticket.claims.channelBindingSha256 kSha256Characters = true
  previousTicketSha256 : isLowerHex ticket.claims.previousTicketSha256 kSha256Characters = true
  ticketSha256 : isNonzeroLowerHex ticket.ticketSha256 kSha256Characters = true
  phase : ticket.claims.phase = kUsageLeaseActivePhase
  issued : 0 < ticket.claims.issuedAtEpoch
  issuedBeforeStart : ticket.claims.issuedAtEpoch ≤ ticket.claims.notBeforeEpoch
  serverAhead :
    ticket.claims.issuedAtEpoch ≤ trustedNowEpoch + kUsageLeaseServerAheadGraceSeconds
  window : ticket.claims.notBeforeEpoch < ticket.claims.expiresAtEpoch
  ttl : ticket.claims.expiresAtEpoch - ticket.claims.notBeforeEpoch ≤ kMaximumUsageLeaseTtlSeconds

theorem claimsValid_iff {ticket : VerifiedUsageLease} {now : Nat} :
    claimsValid ticket now = true ↔ ClaimsValid ticket now := by
  unfold claimsValid
  simp only [Bool.if_false_left, Bool.and_eq_true, Bool.not_eq_true, Bool.not_eq_true', Bool.or_eq_false_iff,
    bne_eq_false_iff_eq, Bool.not_eq_false', beq_eq_false_iff_ne, decide_eq_false_iff_not,
    decide_eq_true_eq, Bool.and_eq_false_imp]
  constructor
  · rintro ⟨⟨⟨⟨⟨⟨⟨⟨⟨⟨⟨⟨⟨⟨⟨⟨⟨⟨⟨h1, h2⟩, h3⟩, h4⟩, h5⟩, h6⟩, h7⟩, h8⟩, h9⟩, h10⟩, h11⟩, h12⟩, h13⟩,
      h14⟩, h15⟩, h16⟩, h17⟩, h18⟩, h19⟩, h20⟩
    have serverAhead : ticket.claims.issuedAtEpoch ≤ now + kUsageLeaseServerAheadGraceSeconds := by
      by_cases ahead : now < ticket.claims.issuedAtEpoch
      · omega
      · omega
    exact ⟨Nat.pos_of_ne_zero h1, h2, h3, h4, h5, h6, h7, h8, Nat.pos_of_ne_zero h9, h10, h11, h12,
      h13, h14, h15, Nat.pos_of_ne_zero h16, not_lt.mp h17, serverAhead, not_le.mp h19, h20⟩
  · intro h
    have ahead := h.serverAhead
    exact ⟨⟨⟨⟨⟨⟨⟨⟨⟨⟨⟨⟨⟨⟨⟨⟨⟨⟨⟨h.now.ne', h.type⟩, h.issuer⟩, h.audience⟩, h.entitlementId⟩, h.pairId⟩,
      h.sessionId⟩, h.protocolVersion⟩, h.revocationVersion.ne'⟩, h.hostKeySha256⟩,
      h.androidKeySha256⟩, h.channelBindingSha256⟩, h.previousTicketSha256⟩, h.ticketSha256⟩,
      h.phase⟩, h.issued.ne'⟩, not_lt.mpr h.issuedBeforeStart⟩, fun _ => by omega⟩,
      not_le.mpr h.window⟩, h.ttl⟩

theorem ClaimsValid.bindingValid {ticket : VerifiedUsageLease} {now : Nat}
    (h : ClaimsValid ticket now) : bindingValid ticket.claims.binding = true := by
  simp only [UsageLease.bindingValid, VerifiedUsageLeaseClaims.binding, Bool.and_eq_true,
    beq_iff_eq]
  exact ⟨⟨⟨⟨⟨⟨⟨h.entitlementId, h.pairId⟩, h.sessionId⟩, h.protocolVersion⟩,
    decide_eq_true h.revocationVersion⟩, h.hostKeySha256⟩, h.androidKeySha256⟩,
    h.channelBindingSha256⟩

/-- Leases of one session as links of a hash chain over their signed windows. -/
def leaseChain : Lib.HashChain.Labels VerifiedUsageLease Bytes where
  sequence := fun lease => lease.claims.sequence
  digest := fun lease => lease.ticketSha256
  previous := fun lease => lease.claims.previousTicketSha256
  opens := fun lease => lease.claims.notBeforeEpoch
  closes := fun lease => lease.claims.expiresAtEpoch
  genesis := kEmptyPreviousTicketSha256

/-! ## The text of a lease token

The one spelling of a lease that issuer and verifiers have to agree on: a header
and a payload in canonical JSON and a signature, all in unpadded base64url. What
follows is a specification; the programs' own builders and parsers are compared
with it.
-/

open Lib.Base64Url Lib.FlatJson Lib.Segments

def headerMembers (keyId : Bytes) : Members :=
  [(ascii "alg", .text (ascii "RS256")), (ascii "kid", .text keyId),
    (ascii "typ", .text (ascii "JWT"))]

namespace VerifiedUsageLeaseClaims

def leadingMembers (claims : VerifiedUsageLeaseClaims) : Members :=
  [(ascii "akh", .text claims.androidKeySha256),
    (ascii "aud", .text claims.audience),
    (ascii "authorization_kind", .text claims.authorizationKind),
    (ascii "cbh", .text claims.channelBindingSha256),
    (ascii "exp", .number claims.expiresAtEpoch),
    (ascii "hkh", .text claims.hostKeySha256),
    (ascii "iat", .number claims.issuedAtEpoch),
    (ascii "is_permanent", .flag claims.isPermanent),
    (ascii "iss", .text claims.issuer)]

def trailingMembers (claims : VerifiedUsageLeaseClaims) : Members :=
  [(ascii "nbf", .number claims.notBeforeEpoch),
    (ascii "phase", .text claims.phase),
    (ascii "pid", .text claims.pairId),
    (ascii "pth", .text claims.previousTicketSha256),
    (ascii "pv", .number claims.protocolVersion),
    (ascii "remaining", .number claims.remainingSeconds),
    (ascii "rv", .number claims.revocationVersion),
    (ascii "seq", .number claims.sequence),
    (ascii "sid", .text claims.sessionId),
    (ascii "sub", .text claims.entitlementId),
    (ascii "typ", .text claims.type)]

def membersWithoutLeaseId (claims : VerifiedUsageLeaseClaims) : Members :=
  claims.leadingMembers ++ claims.trailingMembers

def members (claims : VerifiedUsageLeaseClaims) : Members :=
  claims.leadingMembers ++ (ascii "jti", .text claims.leaseId) :: claims.trailingMembers

/-- The texts of the claims need no escape. -/
structure PlainTexts (claims : VerifiedUsageLeaseClaims) : Prop where
  type : Plain claims.type
  issuer : Plain claims.issuer
  audience : Plain claims.audience
  entitlementId : Plain claims.entitlementId
  pairId : Plain claims.pairId
  sessionId : Plain claims.sessionId
  hostKeySha256 : Plain claims.hostKeySha256
  androidKeySha256 : Plain claims.androidKeySha256
  channelBindingSha256 : Plain claims.channelBindingSha256
  previousTicketSha256 : Plain claims.previousTicketSha256
  phase : Plain claims.phase
  authorizationKind : Plain claims.authorizationKind
  leaseId : Plain claims.leaseId

/-- All numbers of the claims are at most `bound`. -/
structure NumbersUpTo (bound : Nat) (claims : VerifiedUsageLeaseClaims) : Prop where
  protocolVersion : claims.protocolVersion ≤ bound
  revocationVersion : claims.revocationVersion ≤ bound
  sequence : claims.sequence ≤ bound
  remainingSeconds : claims.remainingSeconds ≤ bound
  issuedAtEpoch : claims.issuedAtEpoch ≤ bound
  notBeforeEpoch : claims.notBeforeEpoch ≤ bound
  expiresAtEpoch : claims.expiresAtEpoch ≤ bound

theorem NumbersUpTo.mono {bound larger : Nat} {claims : VerifiedUsageLeaseClaims}
    (h : claims.NumbersUpTo bound) (le : bound ≤ larger) : claims.NumbersUpTo larger :=
  ⟨h.1.trans le, h.2.trans le, h.3.trans le, h.4.trans le, h.5.trans le, h.6.trans le, h.7.trans le⟩

end VerifiedUsageLeaseClaims

theorem plainMembers_header {keyId : Bytes} (plain : Plain keyId) :
    ∀ entry ∈ headerMembers keyId, PlainMember entry := by
  simp only [headerMembers, List.forall_mem_cons, List.not_mem_nil, false_implies, implies_true,
    and_true]
  exact ⟨.text (by decide) (by decide), .text (by decide) plain, .text (by decide) (by decide)⟩

theorem plainMembers_claims {claims : VerifiedUsageLeaseClaims} (plain : claims.PlainTexts) :
    ∀ entry ∈ claims.members, PlainMember entry := by
  simp only [VerifiedUsageLeaseClaims.members, VerifiedUsageLeaseClaims.leadingMembers,
    VerifiedUsageLeaseClaims.trailingMembers, List.cons_append, List.nil_append,
    List.forall_mem_cons, List.not_mem_nil, false_implies, implies_true, and_true]
  exact ⟨.text (by decide) plain.androidKeySha256, .text (by decide) plain.audience,
    .text (by decide) plain.authorizationKind, .text (by decide) plain.channelBindingSha256,
    .number _ (by decide), .text (by decide) plain.hostKeySha256, .number _ (by decide),
    .flag _ (by decide), .text (by decide) plain.issuer, .text (by decide) plain.leaseId,
    .number _ (by decide), .text (by decide) plain.phase, .text (by decide) plain.pairId,
    .text (by decide) plain.previousTicketSha256, .number _ (by decide), .number _ (by decide),
    .number _ (by decide), .number _ (by decide), .text (by decide) plain.sessionId,
    .text (by decide) plain.entitlementId, .text (by decide) plain.type⟩

def signingText (keyId : Bytes) (claims : VerifiedUsageLeaseClaims) : Bytes :=
  encode (render (headerMembers keyId)) ++ 46 :: encode (render claims.members)

def compactToken (keyId : Bytes) (claims : VerifiedUsageLeaseClaims) (signature : Bytes) : Bytes :=
  signingText keyId claims ++ 46 :: encode signature

theorem compactToken_segments {keyId signature : Bytes} {claims : VerifiedUsageLeaseClaims}
    (nonempty : signature ≠ []) :
    splitThree 46 (compactToken keyId claims signature) =
      some (encode (render (headerMembers keyId)), encode (render claims.members),
        encode signature) := by
  rw [splitThree_eq_some]
  refine ⟨by simp [compactToken, signingText], ⟨dot_not_mem_encode _, dot_not_mem_encode _,
    dot_not_mem_encode _⟩, encode_ne_nil (render_ne_nil _), encode_ne_nil (render_ne_nil _),
    encode_ne_nil nonempty⟩

end VisionForge.UsageLease
