import VisionForge.Agreement.IssuedLeases
import VisionForge.Server.IssuedTokens
import VisionForge.Server.UsageRuns
import VisionForge.UsageLease.Renewals

/-! # The leases of a session at the Host's gate

The runs of the usage service are sessions in the sense of the abstract issuer, so
what holds of that issuer's leases at a gate holds of the service's.
-/

namespace VisionForge.Agreement

open Lib.Ascii Lib.Base64Url Lib.FlatJson Lib.Run Lib.Segments Lib.Transaction
open UsageLease HostLease Server Server.UsageService Server.UsageRepository

def readTicket (crypto : Cryptography) (token : Bytes) : Option VerifiedUsageLease := do
  let (_, rest) ← cut 46 token
  let (payload, _) ← cut 46 rest
  let raw ← decodeBase64urlCanonical payload
  let claims ← parseCanonicalPayload raw
  return { claims := claims, ticketSha256 := crypto.sha256Hex token }

def Carries (crypto : Cryptography) (issued : List (Nat × IssuedLease))
    (tickets : List (Nat × VerifiedUsageLease)) : Prop :=
  List.Forall₂ (fun lease ticket =>
    ticket.1 = lease.1 ∧ readTicket crypto lease.2.usageLease = some ticket.2) issued tickets

theorem readTicket_signedToken {crypto : Cryptography} {codec : RsaTokenCodec}
    {claims : VerifiedUsageLeaseClaims} (plain : claims.PlainTexts)
    (numbers : claims.NumbersUpTo kMaximumUint64) :
    readTicket crypto (codec.signedToken crypto claims) =
      some
        { claims := claims
          ticketSha256 := crypto.sha256Hex (codec.signedToken crypto claims) } := by
  have first : cut 46 (codec.signedToken crypto claims) =
      some (encode (render (headerMembers (crypto.keyId codec.publicKey))),
        encode (render claims.members) ++ 46 :: encode (codec.sign
          (signingText (crypto.keyId codec.publicKey) claims))) := by
    rw [← cut_append (dot_not_mem_encode _)]
    simp [RsaTokenCodec.signedToken, compactToken, signingText]
  have payload : decodeBase64urlCanonical (encode (render claims.members)) =
      some (render claims.members) :=
    decodeBase64urlCanonical_eq_some.mpr ⟨rfl, render_ne_nil _⟩
  have parsed : parseCanonicalPayload (render claims.members) = some claims :=
    parseCanonicalPayload_eq_some.mpr ⟨rfl, plain, numbers⟩
  simp only [readTicket, first, cut_append (dot_not_mem_encode _), payload, parsed,
    Option.bind_eq_bind, Option.bind_some, Option.pure_def]

section

variable {crypto : Cryptography} {codec : RsaTokenCodec} {ent : EntitlementRow}
  {sessionId channelBindingSha256 : Bytes} {sequence : Nat} {dur : Nat}
  {previousLeaseSha256 : Bytes} {now notBefore : Nat} {lease : IssuedLease}

theorem issued_ticket
    (issued : codec.issueUsageLease crypto ent sessionId channelBindingSha256 sequence
      (ascii "active") dur previousLeaseSha256 now notBefore = .ok lease)
    (hc : ent.Checks) (pos : 0 < now) (bounded : sequence < 2 ^ 63)
    (fits : notBefore + dur < 2 ^ 63)
    (digest : isNonzeroLowerHex lease.usageLeaseSha256 64 = true) :
    ∃ ticket : VerifiedUsageLease, readTicket crypto lease.usageLease = some ticket ∧
      ticket.ticketSha256 = lease.usageLeaseSha256 ∧
      ticket.claims = signedClaims crypto ent sessionId channelBindingSha256 sequence
        previousLeaseSha256 now notBefore (notBefore + dur) ∧
      ClaimsValid ticket now := by
  obtain ⟨issuable, rfl⟩ := RsaTokenCodec.issueUsageLease_eq_ok.mp issued
  obtain ⟨credited, revocation⟩ := hc.integers
  simp only [fitsInteger, decide_eq_true_eq] at credited revocation
  have balance := hc.balance
  have protocol := hc.protocolVersion
  have start := issuable.notBefore
  have ttl := issuable.ttl.trans codec.ttl.2
  have maximum : kMaximumUint64 = 2 ^ 64 - 1 := rfl
  refine ⟨_, readTicket_signedToken (signedClaims_plainTexts issuable) ?_, rfl, rfl, ?_⟩
  · constructor <;> simp only [signedClaims] <;> omega
  · exact
      { now := pos
        type := rfl
        issuer := rfl
        audience := rfl
        entitlementId := issuable.entitlementId
        pairId := issuable.pairId
        sessionId := issuable.sessionId
        protocolVersion := hc.protocolVersion
        revocationVersion := hc.revocationVersion
        hostKeySha256 := issuable.hostKeySha256
        androidKeySha256 := issuable.androidKeySha256
        channelBindingSha256 := issuable.channelBindingSha256
        previousTicketSha256 := isLowerHex_of_previousTicketValid
          (previousTicketValid_of_issuable issuable.previousLeaseSha256)
        ticketSha256 := digest
        phase := rfl
        issued := pos
        issuedBeforeStart := issuable.notBefore
        serverAhead := Nat.le_add_right _ _
        window := Nat.lt_add_of_pos_right issuable.positive
        ttl := by simpa [signedClaims, kMaximumUsageLeaseTtlSeconds] using ttl }

end

/-- The database knows the last lease of a session and its identities. -/
structure Tracks (sessionId : Bytes) (binding : UsageLeaseBinding) (t : Database) (last : Nat)
    (tickets : List (Nat × VerifiedUsageLease)) : Prop where
  leases : SessionLeases binding tickets
  identities : sessionIdentities t sessionId = some binding
  recorded : ∃ front earlier ticket row, tickets = front ++ [(earlier, ticket)] ∧
    earlier ≤ last ∧ sessionIn t sessionId = some row ∧
    ticket.claims.sequence = row.lastHeartbeatSequence ∧
    ticket.ticketSha256 = row.currentLeaseSha256 ∧
    ticket.claims.notBeforeEpoch = row.leaseNotBeforeEpoch ∧
    ticket.claims.expiresAtEpoch = row.leaseExpiresAtEpoch

section

variable {service : UsageService} {prims : Primitives} {sessionId : Bytes} {s t : Database}

theorem sessionIdentities_eq_some {row : UsageSessionRow} {ent : EntitlementRow}
    (sess : sessionIn t sessionId = some row)
    (held : entitlementIn t row.entitlementId = some ent) :
    sessionIdentities t sessionId = some
      { entitlementId := ent.entitlementId
        pairId := ent.pairId
        sessionId := row.sessionId
        protocolVersion := ent.protocolVersion
        revocationVersion := ent.revocationVersion
        hostKeySha256 := ent.hostKeySha256
        androidKeySha256 := ent.androidKeySha256
        channelBindingSha256 := row.channelBindingSha256 } := by
  simp only [sessionIdentities, sess, held, Option.bind_eq_bind, Option.bind_some, Option.pure_def]

theorem Tracks.start {cmd : StartCommand} {now : Nat} {resp : UsageResponse}
    {lease : IssuedLease}
    (h : transact (service.startUsage prims cmd sessionId now) s = (t, .ok resp))
    (fresh : sessionIn s resp.sessionId = none) (ans : resp.lease = some lease)
    (digest : isNonzeroLowerHex lease.usageLeaseSha256 64 = true) :
    ∃ binding ticket, readTicket prims.crypto lease.usageLease = some ticket ∧
      Tracks sessionId binding t now [(now, ticket)] := by
  obtain ⟨positive, known | opened⟩ := startUsage_eq_ok (transact_eq_ok.mp h)
  · exact absurd fresh known
  obtain ⟨before, after, hchg, _, requestHash, held, -, issues, rfl, found, sess⟩ := opened
  cases ans
  obtain ⟨-, starts, expires⟩ := issueUsageLease_window issues.signed
  have fits := (sessionIn_checks sess).integers.2.2.2.1
  simp only [newSession, expires, fitsInteger, decide_eq_true_eq] at fits
  obtain ⟨ticket, read, sameDigest, claims, valid⟩ := issued_ticket issues.signed
    (entitlementIn_checks found) positive (by decide) fits digest
  refine ⟨ticket.claims.binding, ticket, read, ?_⟩
  refine ⟨.first ⟨valid, rfl, ⟨?_, ?_⟩, ?_, ?_⟩, ?_, [], now, ticket, _, rfl, le_rfl, sess, ?_,
    sameDigest, ?_, ?_⟩
  · exact congrArg (·.sequence) claims
  · exact congrArg (·.previousTicketSha256) claims
  · exact congrArg (·.issuedAtEpoch) claims
  · exact congrArg (·.notBeforeEpoch) claims
  · rw [sessionIdentities_eq_some sess found, claims]
    rfl
  · exact congrArg (·.sequence) claims
  · rw [claims]
    exact starts.symm
  · rw [claims]
    exact expires.symm

theorem Tracks.heartbeat {binding : UsageLeaseBinding} {last now : Nat}
    {tickets : List (Nat × VerifiedUsageLease)} {cmd : HeartbeatCommand}
    {resp : UsageResponse} {row : UsageSessionRow} {lease : IssuedLease}
    (tracks : Tracks sessionId binding s last tickets) (later : last ≤ now)
    (same : cmd.sessionId = sessionId)
    (h : transact (service.heartbeatUsage prims cmd now) s = (t, .ok resp))
    (sess : sessionIn s sessionId = some row)
    (isNew : cmd.sequence ≠ row.lastHeartbeatSequence) (ans : resp.lease = some lease)
    (digest : isNonzeroLowerHex lease.usageLeaseSha256 64 = true) :
    ∃ ticket, readTicket prims.crypto lease.usageLease = some ticket ∧
      Tracks sessionId binding t now (tickets ++ [(now, ticket)]) := by
  subst same
  obtain ⟨positive, claims, pre, _, verified, held, -, found, bound, renewal⟩ :=
    heartbeatUsage_eq_ok (transact_eq_ok.mp h)
  rw [sess] at found
  cases found
  rcases renewal with ⟨repeated, -⟩ | renewal
  · exact absurd repeated isNew
  obtain ⟨binds, on, next, -, after, hchg, _, requestHash, issues, isLease, found,
    written⟩ := renewal
  rw [ans] at isLease
  cases isLease
  have sameEntitlement : row.entitlementId = cmd.entitlementId := by
    simp only [sessionBinds, Bool.and_eq_true, beq_iff_eq] at bound
    exact bound.1.1.2
  obtain ⟨-, starts, expires⟩ := issueUsageLease_window issues.signed
  have fits := (sessionIn_checks written).integers.2.2.2.1
  simp only [newHeartbeat, Heartbeat.apply, expires, fitsInteger, decide_eq_true_eq] at fits
  obtain ⟨ticket, read, sameDigest, signed, valid⟩ := issued_ticket issues.signed
    (entitlementIn_checks found) positive cmd.positive.2 fits digest
  obtain ⟨leases, identities, front, old, previous, _, rfl, notLater, found', sequence, sha,
    begins, ends⟩ := tracks
  rw [sess] at found'
  cases found'
  rw [sessionIdentities_eq_some sess (sameEntitlement ▸ held), Option.some.injEq] at identities
  have sameIdentity := issues.charges.sameIdentity
  have ticketBinding : ticket.claims.binding = binding := by
    rw [signed, ← identities]
    simp only [signedClaims, VerifiedUsageLeaseClaims.binding, sameIdentity.entitlementId,
      sameIdentity.pairId, sameIdentity.protocolVersion, sameIdentity.revocationVersion,
      sameIdentity.hostKeySha256, sameIdentity.androidKeySha256]
  have sequenceBound := (sessionIn_checks sess).integers.1
  simp only [fitsInteger, decide_eq_true_eq] at sequenceBound
  have renews : Renews binding previous now ticket :=
    { valid := valid
      binding := ticketBinding
      sequence := by
        rw [signed, sequence]
        exact next
      bounded := by
        rw [sequence, kMaximumSequence]
        omega
      link := by
        rw [signed, sha]
        rfl
      issued := congrArg (·.issuedAtEpoch) signed
      begun := begins ▸ begun_of_leaseBinds verified binds
      start := by
        rw [signed, ends]
        rfl }
  refine ⟨ticket, read, .next leases (notLater.trans later) renews, ?_, _, now, ticket, _, rfl,
    le_rfl, written, congrArg (·.sequence) signed, sameDigest, ?_, ?_⟩
  · have identitiesAfter := sessionIdentities_eq_some written
      (show entitlementIn t row.entitlementId = some after from sameEntitlement ▸ found)
    rw [identitiesAfter, ← identities]
    simp only [Heartbeat.apply, sameIdentity.entitlementId, sameIdentity.pairId,
      sameIdentity.protocolVersion, sameIdentity.revocationVersion, sameIdentity.hostKeySha256,
      sameIdentity.androidKeySha256]
  · rw [signed]
    exact starts.symm
  · rw [signed]
    exact expires.symm

theorem Tracks.repeated {binding : UsageLeaseBinding} {last now : Nat}
    {tickets : List (Nat × VerifiedUsageLease)} {cmd : HeartbeatCommand}
    {resp : UsageResponse} {row : UsageSessionRow}
    (tracks : Tracks sessionId binding s last tickets) (later : last ≤ now)
    (same : cmd.sessionId = sessionId)
    (h : transact (service.heartbeatUsage prims cmd now) s = (t, .ok resp))
    (sess : sessionIn s sessionId = some row)
    (repeats : cmd.sequence = row.lastHeartbeatSequence) :
    Tracks sessionId binding t now tickets := by
  subst same
  obtain ⟨-, _, _, _, -, -, -, found, -, renewal⟩ := heartbeatUsage_eq_ok (transact_eq_ok.mp h)
  rw [sess] at found
  cases found
  rcases renewal with ⟨-, rfl⟩ | ⟨-, -, next, -⟩
  · obtain ⟨leases, identities, front, old, ticket, row, isLast, notLater, rest⟩ := tracks
    exact ⟨leases, identities, front, old, ticket, row, isLast, notLater.trans later, rest⟩
  · omega

/-- The leases of every run are a session of the abstract issuer. -/
theorem SessionRun.tracks {last : Nat} {issued : List (Nat × IssuedLease)}
    (run : SessionRun service prims sessionId t last issued)
    (digests : ∀ lease ∈ issued, isNonzeroLowerHex lease.2.usageLeaseSha256 64 = true) :
    ∃ binding tickets, Carries prims.crypto issued tickets ∧
      Tracks sessionId binding t last tickets := by
  induction run with
  | start h fresh ans =>
    obtain ⟨binding, ticket, read, tracks⟩ :=
      Tracks.start h fresh ans (digests _ (List.mem_singleton_self _))
    exact ⟨binding, [(_, ticket)], .cons ⟨rfl, read⟩ .nil, tracks⟩
  | heartbeat run later same h sess isNew ans ih =>
    obtain ⟨binding, tickets, carries, tracks⟩ :=
      ih (fun lease mem => digests lease (List.mem_append_left _ mem))
    obtain ⟨ticket, read, tracks⟩ := tracks.heartbeat later same h sess isNew ans
      (digests _ (List.mem_append_right _ (List.mem_singleton_self _)))
    exact ⟨binding, _, List.rel_append carries (.cons ⟨rfl, read⟩ .nil), tracks⟩
  | repeated run later same h sess repeats ih =>
    obtain ⟨binding, tickets, carries, tracks⟩ := ih digests
    exact ⟨binding, tickets, carries, tracks.repeated later same h sess repeats⟩

/-- The gate of the session's identities, on the service's clock, stores every lease of
    every run. -/
theorem issued_leases_are_stored {last : Nat} {issued : List (Nat × IssuedLease)}
    (run : SessionRun service prims sessionId t last issued)
    (digests : ∀ lease ∈ issued, isNonzeroLowerHex lease.2.usageLeaseSha256 64 = true) :
    ∃ binding tickets, sessionIdentities t sessionId = some binding ∧
      Carries prims.crypto issued tickets ∧
      allStored (UsageLeaseGate.new binding)
        (tickets.map (fun ticket => .submit ticket.2 ticket.1)) := by
  obtain ⟨binding, tickets, carries, tracks⟩ := SessionRun.tracks run digests
  exact ⟨binding, tickets, tracks.identities, carries, tracks.leases.allStored_zero⟩

end

/-! ## A concrete session

A permanent entitlement with leases of five seconds, started at 1000 and renewed at
1006, one second after the first lease ended. -/

/-- The P-256 signature of the devices is the same text in every command. -/
def concretePrimitives : Primitives where
  crypto := concreteCryptography
  hmacSha256 := Lib.Sha256.hmacSha256
  p256SignatureValid := fun _ signature _ => signature == ascii "c2lnbmF0dXJl"

def concreteService : UsageService where
  settings :=
    { usageLeaseTtlSeconds := 5
      usageRenewalWindowSeconds := 2
      minimumHostClientVersion := ascii "1.0"
      minimumAndroidClientVersion := ascii "1.0"
      tokenSecret := List.replicate 32 120
      ttl := concreteCodec.ttl }
  tokenCodec := concreteCodec
  sameTtl := rfl

def permanentEntitlement : EntitlementRow :=
  { concreteEntitlement with
    remainingSeconds := 0
    totalCreditedSeconds := 0
    totalConsumedSeconds := 0
    authorizationKind := .permanent }

def concreteCommon : UsageCommon where
  entitlementId := List.replicate 32 97
  pairId := List.replicate 32 98
  protocolVersion := 2
  revocationVersion := 1
  hostSignatureB64 := ascii "c2lnbmF0dXJl"
  androidSignatureB64 := ascii "c2lnbmF0dXJl"

def concreteStart : StartCommand where
  toUsageCommon := concreteCommon
  requestId := List.replicate 32 49
  requestNonce := List.replicate 32 50
  channelBindingSha256 := List.replicate 64 51
  hostFramesTotal := 1
  androidFramesTotal := 1
  startChallengeId := List.replicate 32 52
  startChallengeToken := List.replicate 43 65

def concreteChallenge : StartChallengeRow where
  challengeId := List.replicate 32 52
  requestId := List.replicate 32 53
  requestPayloadHash := List.replicate 64 54
  tokenDigest := concreteService.startChallengeTokenDigest concretePrimitives
    concreteStart.startChallengeToken
  entitlementId := List.replicate 32 97
  pairId := List.replicate 32 98
  channelBindingSha256 := List.replicate 64 51
  status := .issued
  expiresAtEpoch := 1060
  consumedAtEpoch := none

def concreteDatabase : Database where
  entitlements := [permanentEntitlement]
  usageStartChallenges := [concreteChallenge]
  entitlementChecks := by decide
  entitlementKeys := by decide

def firstLease : IssuedLease :=
  let token := concreteCodec.signedToken concreteCryptography (signedClaims concreteCryptography
    permanentEntitlement (List.replicate 32 99) (List.replicate 64 51) 0 EMPTY_LEASE_SHA256 1000
    1000 1005)
  { usageLease := token
    usageLeaseSha256 := concreteCryptography.sha256Hex token
    usageLeaseExpiresAtEpoch := 1005
    usageLeaseNotBeforeEpoch := 1000
    usageLeaseTtlSeconds := 5 }

theorem firstLease_issued :
    concreteCodec.issueUsageLease concreteCryptography permanentEntitlement (List.replicate 32 99)
      (List.replicate 64 51) 0 (ascii "active") 5 EMPTY_LEASE_SHA256 1000 1000 =
      .ok firstLease := by
  apply RsaTokenCodec.issueUsageLease_eq_ok.mpr
  refine ⟨⟨by decide, by decide, le_rfl, rfl, by decide, by decide, by decide, by decide,
    by decide, by decide, by decide⟩, rfl⟩

def firstRow : UsageSessionRow :=
  newSession concreteStart
    (concreteCryptography.sha256Hex (usageStartPayload concreteCryptography concreteStart))
    (List.replicate 32 99) firstLease 0 0 1000

theorem firstRow_checks : firstRow.Checks where
  channelBindingSha256 := by decide
  previousLeaseSha256 := by decide
  leasePhase := rfl
  issuedBeforeStart := by decide
  window := by decide
  integers := by decide

def startedDatabase : Database where
  entitlements := [permanentEntitlement]
  usageStartChallenges :=
    [{ concreteChallenge with status := .consumed, consumedAtEpoch := some 1000 }]
  usageSessions := [firstRow]
  authNonces :=
    [{ scope := .usageStart
       subjectId := List.replicate 32 97
       nonceDigest := concreteService.nonceDigest concretePrimitives (List.replicate 32 50)
       expiresAtEpoch := 1000 + USAGE_NONCE_TTL_SECONDS }]
  entitlementChecks := by decide
  entitlementKeys := by decide
  sessionChecks := by
    intro row member
    rw [List.mem_singleton.mp member]
    exact firstRow_checks

theorem versions_supported (s : Database) :
    (requireSupportedEntitlementVersions (some permanentEntitlement) concreteService.settings).run
      s = .ok ((), s) := by
  rfl

theorem command_verified (s : Database) (payload : Bytes) :
    (verifyEntitlementCommand concretePrimitives (some permanentEntitlement) concreteCommon
      payload).run s = .ok (permanentEntitlement, s) := by
  rfl

theorem challenge_verified :
    (concreteService.verifyStartChallenge concretePrimitives concreteStart 1000).run
      concreteDatabase = .ok (concreteChallenge, concreteDatabase) := by
  unfold verifyStartChallenge
  rw [bind_ok]
  refine ⟨some concreteChallenge, concreteDatabase, rfl, ?_⟩
  rw [← bind_pure (unwrap _ _), unwrap_ok]
  refine ⟨concreteChallenge, ?_, rfl⟩
  rw [Option.filter_eq_some_iff]
  refine ⟨rfl, ?_⟩
  have digest : concreteChallenge.tokenDigest =
      concreteService.startChallengeTokenDigest concretePrimitives
        concreteStart.startChallengeToken := rfl
  rw [digest, beq_self_eq_true]
  decide

theorem concreteStart_answered :
    (concreteService.startUsage concretePrimitives concreteStart (List.replicate 32 99) 1000).run
        concreteDatabase =
      .ok (usageResponse permanentEntitlement firstRow 0 (some firstLease), startedDatabase) := by
  unfold startUsage
  rw [require_ok]
  refine ⟨by decide, ?_⟩
  rw [bind_ok]
  refine ⟨_, _, rfl, ?_⟩
  rw [bind_ok]
  refine ⟨_, _, versions_supported _, ?_⟩
  rw [bind_ok]
  refine ⟨_, _, command_verified _ _, ?_⟩
  rw [bind_ok]
  refine ⟨_, _, rfl, ?_⟩
  rw [require_ok]
  refine ⟨rfl, ?_⟩
  rw [bind_ok]
  refine ⟨0, concreteDatabase, rfl, ?_⟩
  rw [bind_ok]
  refine ⟨_, _, rfl, ?_⟩
  rw [bind_ok]
  refine ⟨_, _, versions_supported _, ?_⟩
  rw [bind_ok]
  refine ⟨_, _, command_verified _ _, ?_⟩
  rw [bind_ok]
  refine ⟨none, concreteDatabase, rfl, ?_⟩
  rw [bind_ok]
  refine ⟨permanentEntitlement, concreteDatabase, rfl, ?_⟩
  rw [bind_ok]
  refine ⟨none, concreteDatabase, rfl, ?_⟩
  rw [require_ok]
  refine ⟨rfl, ?_⟩
  rw [bind_ok]
  refine ⟨concreteChallenge, concreteDatabase, challenge_verified, ?_⟩
  rw [bind_ok]
  refine ⟨true, _, rfl, ?_⟩
  rw [require_ok]
  refine ⟨rfl, ?_⟩
  rw [bind_ok]
  refine ⟨true, _, rfl, ?_⟩
  rw [require_ok]
  refine ⟨rfl, ?_⟩
  unfold openSession
  rw [require_ok]
  refine ⟨.inl rfl, ?_⟩
  rw [bind_ok]
  refine ⟨permanentEntitlement, _, rfl, ?_⟩
  rw [ofExcept_ok]
  refine ⟨firstLease, firstLease_issued, ?_⟩
  rw [bind_ok]
  refine ⟨⟨⟩, startedDatabase, ?_, rfl⟩
  unfold createSession
  rw [get_ok, require_ok]
  refine ⟨rfl, ?_⟩
  apply writeSessions_eq_ok.mpr
  exact ⟨⟨startedDatabase.sessionChecks, startedDatabase.sessionKeys⟩, rfl⟩

/-- A renewal two seconds before the first lease ends, or one second after. -/
def renewalTime (late : Bool) : Nat := if late then 1006 else 1003

def secondLease (late : Bool) : IssuedLease :=
  let notBefore := max (renewalTime late) 1005
  let token := concreteCodec.signedToken concreteCryptography (signedClaims concreteCryptography
    permanentEntitlement (List.replicate 32 99) (List.replicate 64 51) 1
    firstLease.usageLeaseSha256 (renewalTime late) notBefore (notBefore + 5))
  { usageLease := token
    usageLeaseSha256 := concreteCryptography.sha256Hex token
    usageLeaseExpiresAtEpoch := notBefore + 5
    usageLeaseNotBeforeEpoch := notBefore
    usageLeaseTtlSeconds := 5 }

theorem firstDigest_eq : firstLease.usageLeaseSha256 =
    ascii "50ed017aec097233e80f40561988c820347a2b5af702d276015c63263d6a712c" := by decide +kernel

theorem firstDigest_nonzero : isNonzeroLowerHex firstLease.usageLeaseSha256 64 = true := by
  rw [firstDigest_eq]
  decide

theorem hashes_nonzero :
    isNonzeroLowerHex (concreteCryptography.keyId signingKey) 16 = true ∧
      isNonzeroLowerHex (signedClaims concreteCryptography permanentEntitlement
        (List.replicate 32 99) (List.replicate 64 51) 0 EMPTY_LEASE_SHA256 1000 1000
        1005).leaseId 32 = true ∧
      ∀ late, isNonzeroLowerHex (secondLease late).usageLeaseSha256 64 = true := by
  refine ⟨by decide +kernel, by decide +kernel, ?_⟩
  unfold secondLease
  rw [firstDigest_eq]
  decide +kernel

theorem firstClaims_issuable : Issuable concreteCodec permanentEntitlement (List.replicate 32 99)
    (List.replicate 64 51) 0 (ascii "active") 5 EMPTY_LEASE_SHA256 1000 1000 :=
  ⟨by decide, by decide, le_rfl, rfl, by decide, by decide, by decide, by decide, by decide,
    by decide, by decide⟩

theorem firstLease_length :
    256 ≤ firstLease.usageLease.length ∧ firstLease.usageLease.length ≤ 8192 := by
  have formed : WellFormed concreteCryptography concreteCodec permanentEntitlement
      (signedClaims concreteCryptography permanentEntitlement (List.replicate 32 99)
        (List.replicate 64 51) 0 EMPTY_LEASE_SHA256 1000 1000 1005) :=
    { checks := by decide
      distinctKeys := by decide
      permanent := by decide
      numbers := ⟨by decide, by decide, by decide, by decide, by decide, by decide, by decide⟩
      issued := by decide
      keyId := hashes_nonzero.1
      leaseId := hashes_nonzero.2.1 }
  have checked : VerifierClaims concreteCryptography _ 1000 :=
    signedClaims_checked firstClaims_issuable formed (by decide) (by decide)
  have signature (input : Bytes) : (concreteCodec.sign input).length = 384 :=
    length_signWithKey input
  refine ⟨?_, length_compactToken checked formed.numbers (Cryptography.isLowerHex_keyId _) ?_⟩
  · simp only [firstLease, RsaTokenCodec.signedToken, compactToken, List.length_append,
      List.length_cons, length_encode, signature]
    omega
  · rw [signature]
    decide

def concreteHeartbeat : HeartbeatCommand where
  toUsageCommon := concreteCommon
  requestId := List.replicate 32 49
  requestNonce := List.replicate 32 51
  channelBindingSha256 := List.replicate 64 51
  hostFramesTotal := 2
  androidFramesTotal := 2
  sessionId := List.replicate 32 99
  sequence := 1
  previousLease := firstLease.usageLease
  previousLeaseText := firstLease_length

theorem firstLease_verified (late : Bool) :
    concreteService.verifyPreviousLease concretePrimitives firstLease.usageLease
        (renewalTime late) =
      some (signedClaims concreteCryptography permanentEntitlement (List.replicate 32 99)
        (List.replicate 64 51) 0 EMPTY_LEASE_SHA256 1000 1000 1005).members := by
  apply @RsaTokenCodec.verifyUsageLease_signedToken concreteCryptography concreteCodec
    permanentEntitlement _ _ 0 (ascii "active") 5 _ 1000 1000
  · exact firstClaims_issuable
  · exact signedClaims_plainTexts firstClaims_issuable
  · intro input
    exact (concreteCodec_signs.exactly _ _).mpr rfl
  · intro input nothing
    have signature : (concreteCodec.sign input).length = 384 := length_signWithKey input
    rw [nothing] at signature
    cases signature
  · exact firstLease_length.2
  · decide
  · decide
  · exact hashes_nonzero.2.1
  · cases late <;> decide
  · cases late <;> decide

def secondRow (late : Bool) : UsageSessionRow :=
  (newHeartbeat concreteHeartbeat
    (concreteCryptography.sha256Hex (usageHeartbeatPayload concreteCryptography concreteHeartbeat))
    (secondLease late) firstLease.usageLeaseSha256 0 0 (renewalTime late)).apply firstRow

theorem length_sha256Hex (crypto : Cryptography) (input : Bytes) :
    (crypto.sha256Hex input).length = 64 :=
  isLowerHex_length (Cryptography.isLowerHex_sha256Hex input)

theorem secondRow_checks (late : Bool) : (secondRow late).Checks where
  channelBindingSha256 := by cases late <;> decide
  previousLeaseSha256 := length_sha256Hex _ _
  leasePhase := rfl
  issuedBeforeStart := by cases late <;> decide
  window := by cases late <;> decide
  integers := by cases late <;> decide

def renewedDatabase (late : Bool) : Database :=
  { startedDatabase with
    usageSessions := [secondRow late]
    authNonces := startedDatabase.authNonces ++
      [{ scope := .usageHeartbeat
         subjectId := List.replicate 32 99
         nonceDigest := concreteService.nonceDigest concretePrimitives (List.replicate 32 51)
         expiresAtEpoch := renewalTime late + USAGE_NONCE_TTL_SECONDS }]
    sessionChecks := by
      intro row member
      rw [List.mem_singleton.mp member]
      exact secondRow_checks late
    sessionKeys := by simp }

theorem secondLease_issued (late : Bool) :
    concreteCodec.issueUsageLease concreteCryptography permanentEntitlement (List.replicate 32 99)
      (List.replicate 64 51) 1 (ascii "active") 5 firstLease.usageLeaseSha256 (renewalTime late)
      (max (renewalTime late) 1005) = .ok (secondLease late) := by
  apply RsaTokenCodec.issueUsageLease_eq_ok.mpr
  refine ⟨⟨by decide, by decide, le_max_left _ _, rfl, by decide, by decide, by decide, by decide,
    by decide, by decide, ?_⟩, rfl⟩
  unfold validPreviousLeaseSha256
  exact firstDigest_nonzero

theorem firstLease_digest :
    firstLease.usageLeaseSha256 = concreteCryptography.sha256Hex firstLease.usageLease :=
  issueUsageLease_digest firstLease_issued

theorem concreteHeartbeat_answered (late : Bool) :
    (concreteService.heartbeatUsage concretePrimitives concreteHeartbeat (renewalTime late)).run
        startedDatabase =
      .ok (usageResponse permanentEntitlement (secondRow late) 0 (some (secondLease late)),
        renewedDatabase late) := by
  unfold heartbeatUsage
  rw [require_ok]
  refine ⟨by cases late <;> decide, ?_⟩
  rw [unwrap_ok]
  refine ⟨_, firstLease_verified late, ?_⟩
  rw [bind_ok]
  refine ⟨_, _, rfl, ?_⟩
  rw [bind_ok]
  refine ⟨_, _, versions_supported _, ?_⟩
  rw [bind_ok]
  refine ⟨some firstRow, startedDatabase, rfl, ?_⟩
  rw [bind_ok]
  refine ⟨_, _, command_verified _ _, ?_⟩
  rw [bind_ok]
  refine ⟨firstRow, startedDatabase, rfl, ?_⟩
  rw [bind_ok]
  refine ⟨_, _, rfl, ?_⟩
  rw [bind_ok]
  refine ⟨_, _, versions_supported _, ?_⟩
  rw [bind_ok]
  refine ⟨some firstRow, startedDatabase, rfl, ?_⟩
  rw [bind_ok]
  refine ⟨firstRow, startedDatabase, rfl, ?_⟩
  rw [bind_ok]
  refine ⟨permanentEntitlement, startedDatabase, rfl, ?_⟩
  rw [bind_ok]
  refine ⟨none, startedDatabase, rfl, ?_⟩
  rw [require_ok]
  refine ⟨rfl, ?_⟩
  rw [bind_ok]
  refine ⟨true, { startedDatabase with authNonces := (renewedDatabase late).authNonces },
    by cases late <;> rfl, ?_⟩
  rw [require_ok]
  refine ⟨rfl, ?_⟩
  unfold applyHeartbeat
  rw [bind_ok]
  refine ⟨permanentEntitlement, _, rfl, ?_⟩
  rw [require_ok]
  refine ⟨⟨rfl, rfl, firstLease_digest⟩, ?_⟩
  rw [require_ok]
  refine ⟨by cases late <;> decide, ?_⟩
  rw [if_neg (by decide), if_neg (by decide), if_neg (by decide)]
  unfold renewLease
  rw [bind_ok]
  refine ⟨permanentEntitlement, _, rfl, ?_⟩
  rw [ofExcept_ok]
  refine ⟨secondLease late, secondLease_issued late, ?_⟩
  rw [bind_ok]
  refine ⟨⟨⟩, _, rfl, ?_⟩
  rw [bind_ok]
  refine ⟨⟨⟩, renewedDatabase late, ?_, rfl⟩
  unfold recordHeartbeat
  rw [get_ok, bind_ok]
  refine ⟨⟨⟩, renewedDatabase late, ?_, rfl⟩
  apply writeSessions_eq_ok.mpr
  exact ⟨⟨(renewedDatabase late).sessionChecks, (renewedDatabase late).sessionKeys⟩, rfl⟩

theorem concreteRun (late : Bool) :
    SessionRun concreteService concretePrimitives (List.replicate 32 99) (renewedDatabase late)
      (renewalTime late) [(1000, firstLease), (renewalTime late, secondLease late)] :=
  .heartbeat (.start (transact_eq_ok.mpr concreteStart_answered) rfl rfl)
    (by cases late <;> decide) rfl (transact_eq_ok.mpr (concreteHeartbeat_answered late))
    (show _ = some firstRow from rfl) (by decide) rfl

theorem concreteRun_digests (late : Bool) :
    ∀ lease ∈ [(1000, firstLease), (renewalTime late, secondLease late)],
      isNonzeroLowerHex lease.2.usageLeaseSha256 64 = true := by
  simp only [List.forall_mem_cons, List.not_mem_nil, false_implies, implies_true, and_true]
  exact ⟨firstDigest_nonzero, hashes_nonzero.2.2 late⟩

theorem concrete_session_is_stored :
    ∃ binding tickets,
      sessionIdentities (renewedDatabase true) (List.replicate 32 99) = some binding ∧
      Carries concreteCryptography [(1000, firstLease), (1006, secondLease true)] tickets ∧
      allStored (UsageLeaseGate.new binding)
        (tickets.map (fun ticket => .submit ticket.2 ticket.1)) :=
  issued_leases_are_stored (concreteRun true) (concreteRun_digests true)

/-! ## A Host clock behind the service

The gate grants a first lease that is not valid yet the seconds by which the service
may be ahead. It does not grant them to a renewal: neither to one that replaces an
ended lease nor to one that follows a lease still waiting for its turn.
-/

open Lib.Ascii Lib.Run UsageLease HostLease Server Server.UsageService Server.UsageRepository

/-- A gate `lag` seconds behind stores every lease of a run exactly when its clock knows
    the time of the start and every renewal is punctual: it comes before the lease it
    renews ends, and that lease has begun on the gate's clock unless it is the first. -/
theorem lagging_gate_stores_iff {service : UsageService} {prims : Primitives}
    {sessionId : Bytes} {t : Database} {last lag : Nat} {issued : List (Nat × IssuedLease)}
    (run : SessionRun service prims sessionId t last issued)
    (digests : ∀ lease ∈ issued, isNonzeroLowerHex lease.2.usageLeaseSha256 64 = true)
    (lagBound : lag ≤ kUsageLeaseServerAheadGraceSeconds) :
    ∃ binding tickets, sessionIdentities t sessionId = some binding ∧
      Carries prims.crypto issued tickets ∧
      (allStored (UsageLeaseGate.new binding) (submissions lag tickets) ↔
        (∀ first ∈ tickets.head?, lag < first.1) ∧ AllPunctual lag tickets) := by
  obtain ⟨binding, tickets, carries, tracks⟩ := SessionRun.tracks run digests
  exact ⟨binding, tickets, tracks.identities, carries, tracks.leases.allStored_iff lagBound⟩

theorem carries_singleton {crypto : Cryptography} {now : Nat} {lease : IssuedLease}
    {tickets : List (Nat × VerifiedUsageLease)} (h : Carries crypto [(now, lease)] tickets) :
    ∃ ticket, tickets = [(now, ticket)] := by
  obtain ⟨ticket, rest, same, nothing, rfl⟩ := List.forall₂_cons_left_iff.mp h
  cases nothing
  obtain ⟨time, ticket⟩ := ticket
  cases same.1
  exact ⟨ticket, rfl⟩

theorem concreteRun_carries {late : Bool} {tickets : List (Nat × VerifiedUsageLease)}
    (h : Carries concreteCryptography [(1000, firstLease), (renewalTime late, secondLease late)]
      tickets) : ∃ first second, tickets = [(1000, first), (renewalTime late, second)] ∧
      first.claims.expiresAtEpoch = 1005 := by
  obtain ⟨⟨time, first⟩, rest, ⟨same, read⟩, later, rfl⟩ := List.forall₂_cons_left_iff.mp h
  obtain ⟨second, rfl⟩ := carries_singleton later
  cases same
  obtain ⟨ticket, isTicket, -, claims, -⟩ := issued_ticket firstLease_issued (by decide)
    (by decide) (by decide) (by decide) firstDigest_nonzero
  cases isTicket.symm.trans read
  exact ⟨first, second, rfl, congrArg (·.expiresAtEpoch) claims⟩

/-- A start and a renewal while its lease lasts, shown to a gate two seconds behind. -/
theorem punctual_renewal_is_stored :
    ∃ binding tickets,
      sessionIdentities (renewedDatabase false) (List.replicate 32 99) = some binding ∧
      Carries concreteCryptography [(1000, firstLease), (1003, secondLease false)] tickets ∧
      allStored (UsageLeaseGate.new binding) (submissions 2 tickets) := by
  obtain ⟨binding, tickets, identities, carries, stored⟩ :=
    @lagging_gate_stores_iff _ _ _ _ _ 2 _ (concreteRun false) (concreteRun_digests false)
      (by decide)
  obtain ⟨first, second, rfl, expires⟩ := concreteRun_carries carries
  refine ⟨binding, _, identities, carries, stored.mpr ⟨?_, ⟨?_, .inl trivial⟩, trivial⟩⟩
  · intro head isHead
    cases isHead
    exact show 2 < 1000 by decide
  · rw [expires]
    decide

/-- A renewal one second late, shown to a gate one second behind. -/
theorem late_renewal_is_rejected :
    SessionRun concreteService concretePrimitives (List.replicate 32 99) (renewedDatabase true) 1006
        [(1000, firstLease), (1006, secondLease true)] ∧
      1 ≤ kUsageLeaseServerAheadGraceSeconds ∧
      ∃ binding tickets,
        sessionIdentities (renewedDatabase true) (List.replicate 32 99) = some binding ∧
        Carries concreteCryptography [(1000, firstLease), (1006, secondLease true)] tickets ∧
        ¬allStored (UsageLeaseGate.new binding) (submissions 1 tickets) := by
  refine ⟨concreteRun true, by decide, ?_⟩
  obtain ⟨binding, tickets, carries, tracks⟩ :=
    SessionRun.tracks (concreteRun true) (concreteRun_digests true)
  refine ⟨binding, tickets, tracks.identities, carries, ?_⟩
  intro stored
  have punctual := ((tracks.leases.allStored_iff (by decide)).mp stored).2
  obtain ⟨first, second, rfl, expires⟩ := concreteRun_carries carries
  obtain ⟨⟨early, -⟩, -⟩ := punctual
  have isLate : renewalTime true = 1006 := rfl
  omega

end VisionForge.Agreement
