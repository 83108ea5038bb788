import VisionForge.Lib.Base64Url
import VisionForge.Lib.FlatJson
import VisionForge.Lib.Segments
import VisionForge.UsageLease.Contract
import VisionForge.UsageLease.Cryptography

/-! # The canonical JSON cursor of the Host

A cursor is the input it has not read yet; reading operations pass it on and may
fail. The lemmas say on which inputs each of them succeeds: exactly on the
canonical spelling of what it returns.
-/

namespace VisionForge.HostLease

open Lib.Ascii Lib.Decimal Lib.FlatJson

abbrev CanonicalJsonCursor := Bytes

abbrev Reads (α : Type) := StateT CanonicalJsonCursor Option α

def kMaximumUint64 : Nat := 2 ^ 64 - 1

namespace CanonicalJsonCursor

def consume (literal : Bytes) : Reads Unit := fun cursor =>
  if cursor.take literal.length = literal then some ((), cursor.drop literal.length) else none

def stringTail : CanonicalJsonCursor → Option (Bytes × CanonicalJsonCursor)
  | [] => none
  | character :: rest =>
    if character = 34 then some ([], rest)
    else if character < 0x20 ∨ 0x7e < character ∨ character = 92 then none
    else (stringTail rest).map (fun read => (character :: read.1, read.2))

def parseString : Reads Bytes := fun cursor =>
  match cursor with
  | [] => none
  | character :: rest => if character = 34 then stringTail rest else none

def digitsTail (value : Nat) : CanonicalJsonCursor → Option (Nat × CanonicalJsonCursor)
  | [] => some (value, [])
  | character :: rest =>
    if isDigit character then
      if (kMaximumUint64 - (character.toNat - 48)) / 10 < value then none
      else digitsTail (value * 10 + (character.toNat - 48)) rest
    else some (value, character :: rest)

def startsWithDigit : CanonicalJsonCursor → Bool
  | [] => false
  | character :: _ => isDigit character

def parseNonnegativeUint64 : Reads Nat := fun cursor =>
  match cursor with
  | [] => none
  | character :: rest =>
    if !isDigit character then none
    else if character = 48 then
      if startsWithDigit rest then none else some (0, rest)
    else digitsTail 0 (character :: rest)

def parseBoolean : Reads Bool := fun cursor =>
  match (consume (ascii "true")).run cursor with
  | some (_, rest) => some (true, rest)
  | none => ((consume (ascii "false")).run cursor).map (fun read => (false, read.2))

def atEnd : Reads Unit := fun cursor => if cursor = [] then some ((), cursor) else none

variable {cursor : CanonicalJsonCursor}

theorem run_bind_eq_some {α β : Type} {reads : Reads α} {next : α → Reads β}
    {result : β × CanonicalJsonCursor} :
    (reads >>= next).run cursor = some result ↔
      ∃ value rest, reads.run cursor = some (value, rest) ∧ (next value).run rest = some result := by
  simp only [StateT.run_bind, Option.bind_eq_bind, Option.bind_eq_some_iff, Prod.exists]

theorem run_consume (literal : Bytes) (cursor : CanonicalJsonCursor) :
    (consume literal).run cursor =
      if cursor.take literal.length = literal then some ((), cursor.drop literal.length)
      else none := rfl

theorem run_parseString_cons (c : UInt8) (rest : CanonicalJsonCursor) :
    parseString.run (c :: rest) = if c = 34 then stringTail rest else none := rfl

theorem run_parseNonnegativeUint64_cons (c : UInt8) (rest : CanonicalJsonCursor) :
    parseNonnegativeUint64.run (c :: rest) =
      if !isDigit c then none
      else if c = 48 then
        if startsWithDigit rest then none else some (0, rest)
      else digitsTail 0 (c :: rest) := rfl

theorem run_parseBoolean (cursor : CanonicalJsonCursor) :
    parseBoolean.run cursor =
      match (consume (ascii "true")).run cursor with
      | some (_, rest) => some (true, rest)
      | none => ((consume (ascii "false")).run cursor).map (fun read => (false, read.2)) := rfl

@[simp] theorem consume_append (literal rest : Bytes) :
    (consume literal).run (literal ++ rest) = some ((), rest) := by
  simp [run_consume]

variable {rest : CanonicalJsonCursor}

theorem consume_eq_some {literal : Bytes} :
    (consume literal).run cursor = some ((), rest) ↔ cursor = literal ++ rest := by
  constructor
  · intro h
    rw [run_consume] at h
    split at h
    · rename_i same
      cases h
      conv_lhs => rw [← List.take_append_drop literal.length cursor, same]
    · cases h
  · rintro rfl
    exact consume_append literal rest

theorem isPlain_iff {char : UInt8} :
    isPlain char = true ↔
      char ≠ 34 ∧ ¬(char < 0x20 ∨ 0x7e < char ∨ char = 92) := by
  simp only [isPlain, Bool.and_eq_true, decide_eq_true_eq, bne_iff_ne, ne_eq, not_or, UInt8.not_lt]
  constructor
  · rintro ⟨⟨⟨low, high⟩, quote⟩, backslash⟩
    exact ⟨quote, low, high, backslash⟩
  · rintro ⟨quote, low, high, backslash⟩
    exact ⟨⟨⟨low, high⟩, quote⟩, backslash⟩

theorem stringTail_append {value : Bytes} (plain : Plain value) (rest : Bytes) :
    stringTail (value ++ 34 :: rest) = some (value, rest) := by
  induction value with
  | nil => simp [stringTail]
  | cons char value ih =>
    obtain ⟨quote, safe⟩ := isPlain_iff.mp (plain char (by simp))
    rw [List.cons_append, stringTail, if_neg quote, if_neg safe,
      ih (fun c mem => plain c (by simp [mem]))]
    rfl

theorem of_stringTail {value : Bytes} (h : stringTail cursor = some (value, rest)) :
    cursor = value ++ 34 :: rest ∧ Plain value := by
  induction cursor generalizing value with
  | nil => cases h
  | cons character tail ih =>
    rw [stringTail] at h
    split at h
    · rename_i quote
      cases h
      exact ⟨by rw [quote]; rfl, by simp [Plain]⟩
    split at h
    · cases h
    rename_i quote safe
    obtain ⟨⟨tailValue, tailRest⟩, read, same⟩ := Option.map_eq_some_iff.mp h
    cases same
    obtain ⟨known, plain⟩ := ih read
    refine ⟨by rw [known]; rfl, ?_⟩
    intro c mem
    rcases List.mem_cons.mp mem with rfl | later
    · exact isPlain_iff.mpr ⟨quote, safe⟩
    · exact plain c later

theorem parseString_eq_some {value : Bytes} :
    parseString.run cursor = some (value, rest) ↔ cursor = quote value ++ rest ∧ Plain value := by
  constructor
  · intro h
    cases cursor with
    | nil => cases h
    | cons c tail =>
      rw [run_parseString_cons] at h
      split at h
      · rename_i isQuote
        obtain ⟨known, plain⟩ := of_stringTail h
        refine ⟨?_, plain⟩
        rw [quote_plain plain, known, isQuote]
        simp
      · cases h
  · rintro ⟨rfl, plain⟩
    rw [quote_plain plain, List.cons_append, List.append_assoc, run_parseString_cons, if_pos rfl]
    exact stringTail_append plain rest

theorem digitsTail_append {digits : Bytes} (all : ∀ c ∈ digits, isDigit c = true) {rest : Bytes}
    (stops : startsWithDigit rest = false) (value : Nat)
    (fits : valueFrom value digits ≤ kMaximumUint64) :
    digitsTail value (digits ++ rest) = some (valueFrom value digits, rest) := by
  induction digits generalizing value with
  | nil =>
    cases rest with
    | nil => rfl
    | cons char tail =>
      rw [startsWithDigit] at stops
      simp [digitsTail, stops, valueFrom]
  | cons char digits ih =>
    have isADigit := all char (by simp)
    have grows := le_valueFrom (value * 10 + (char.toNat - 48)) digits
    have same : valueFrom value (char :: digits) =
        valueFrom (value * 10 + (char.toNat - 48)) digits := rfl
    have room : ¬(kMaximumUint64 - (char.toNat - 48)) / 10 < value := by
      omega
    rw [List.cons_append, digitsTail, if_pos isADigit, if_neg room,
      ih (fun c mem => all c (by simp [mem])) _ (same ▸ fits), same]

theorem of_digitsTail {value n : Nat} (h : digitsTail value cursor = some (n, rest))
    (fits : value ≤ kMaximumUint64) :
    ∃ digits, cursor = digits ++ rest ∧ (∀ c ∈ digits, isDigit c = true) ∧
      startsWithDigit rest = false ∧ n = valueFrom value digits ∧ n ≤ kMaximumUint64 := by
  induction cursor generalizing value with
  | nil =>
    cases h
    exact ⟨[], rfl, by simp, rfl, rfl, fits⟩
  | cons char tail ih =>
    rw [digitsTail] at h
    split at h
    · rename_i isADigit
      split at h
      · cases h
      rename_i room
      have bounds := isDigit_iff.mp isADigit
      have next : value * 10 + (char.toNat - 48) ≤ kMaximumUint64 := by
        unfold kMaximumUint64 at fits room ⊢
        omega
      obtain ⟨digits, known, all, stops, same, small⟩ := ih h next
      refine ⟨char :: digits, by rw [known]; rfl, ?_, stops, same, small⟩
      intro c mem
      rcases List.mem_cons.mp mem with rfl | later
      · exact isADigit
      · exact all c later
    · rename_i notDigit
      cases h
      exact ⟨[], rfl, by simp, by simpa [startsWithDigit] using notDigit, rfl, fits⟩

theorem parseNonnegativeUint64_eq_some {n : Nat} :
    parseNonnegativeUint64.run cursor = some (n, rest) ↔
      cursor = decimal n ++ rest ∧ startsWithDigit rest = false ∧ n ≤ kMaximumUint64 := by
  constructor
  · intro h
    cases cursor with
    | nil => cases h
    | cons char tail =>
      rw [run_parseNonnegativeUint64_cons] at h
      split at h
      · cases h
      rename_i isADigit
      simp only [Bool.not_eq_true', Bool.not_eq_false] at isADigit
      split at h
      · rename_i zero
        split at h
        · cases h
        rename_i stops
        cases h
        exact ⟨by rw [zero]; rfl, Bool.not_eq_true _ ▸ stops, Nat.zero_le _⟩
      · rename_i nonzero
        obtain ⟨digits, known, all, stops, same, small⟩ := of_digitsTail h (Nat.zero_le _)
        refine ⟨?_, stops, small⟩
        cases digits with
        | nil =>
          rw [List.nil_append] at known
          rw [← known, startsWithDigit, isADigit] at stops
          cases stops
        | cons head others =>
          have sameHead : head = char := by
            exact (List.cons.inj known).1.symm
          rw [known, same, decimal_valueFrom all rfl (sameHead ▸ nonzero)]
  · rintro ⟨rfl, stops, small⟩
    rcases Nat.eq_zero_or_pos n with rfl | pos
    · have zero : decimal 0 = [48] := rfl
      rw [zero, List.cons_append, List.nil_append, run_parseNonnegativeUint64_cons]
      simp [isDigit, stops]
    · cases numeral : decimal n with
      | nil => exact absurd numeral (decimal_ne_nil n)
      | cons head others =>
        have isADigit : isDigit head = true :=
          isDigit_of_mem_decimal (n := n) (by rw [numeral]; simp)
        have read := digitsTail_append (fun c mem => isDigit_of_mem_decimal mem) stops 0
          (show valueFrom 0 (decimal n) ≤ kMaximumUint64 by rw [valueFrom_decimal]; exact small)
        rw [valueFrom_decimal, numeral] at read
        rw [List.cons_append, run_parseNonnegativeUint64_cons, if_neg (by simp [isADigit]),
          if_neg (decimal_head pos numeral)]
        exact read

theorem parseBoolean_eq_some {b : Bool} :
    parseBoolean.run cursor = some (b, rest) ↔ cursor = flagText b ++ rest := by
  constructor
  · intro h
    rw [run_parseBoolean] at h
    split at h
    · rename_i tail read
      cases h
      exact consume_eq_some.mp read
    · obtain ⟨⟨_, tail⟩, read, same⟩ := Option.map_eq_some_iff.mp h
      cases same
      exact consume_eq_some.mp read
  · rintro rfl
    cases b with
    | true => simp [run_parseBoolean, flagText]
    | false =>
      have notTrue : (consume (ascii "true")).run (ascii "false" ++ rest) = none := by
        rw [run_consume]
        apply if_neg
        intro same
        have heads : some (102 : UInt8) = some 116 := congrArg List.head? same
        cases heads
      simp [run_parseBoolean, flagText, notTrue]

theorem atEnd_eq_some : atEnd.run cursor = some ((), rest) ↔ cursor = [] ∧ rest = [] := by
  change (if cursor = [] then some ((), cursor) else none) = some ((), rest) ↔ _
  split
  · rename_i none
    rw [none]
    simp [eq_comm]
  · rename_i some
    simp [some]

section

variable {β : Type} {literal : Bytes} {cursor : CanonicalJsonCursor}
  {result : β × CanonicalJsonCursor}

theorem bind_consume {next : Unit → Reads β} :
    (consume literal >>= next).run cursor = some result ↔
      ∃ rest, cursor = literal ++ rest ∧ (next ()).run rest = some result := by
  rw [run_bind_eq_some]
  constructor
  · rintro ⟨⟨⟩, rest, read, last⟩
    exact ⟨rest, consume_eq_some.mp read, last⟩
  · rintro ⟨rest, known, last⟩
    exact ⟨(), rest, consume_eq_some.mpr known, last⟩

theorem bind_text {next : Bytes → Reads β} :
    (consume literal >>= fun _ => parseString >>= next).run cursor = some result ↔
      ∃ value rest, cursor = literal ++ (quote value ++ rest) ∧ Plain value ∧
        (next value).run rest = some result := by
  rw [bind_consume]
  constructor
  · rintro ⟨tail, rfl, h⟩
    obtain ⟨value, rest, read, last⟩ := run_bind_eq_some.mp h
    obtain ⟨rfl, plain⟩ := parseString_eq_some.mp read
    exact ⟨value, rest, rfl, plain, last⟩
  · rintro ⟨value, rest, rfl, plain, last⟩
    exact ⟨_, rfl, run_bind_eq_some.mpr ⟨value, rest, parseString_eq_some.mpr ⟨rfl, plain⟩, last⟩⟩

theorem bind_number {next : Nat → Reads β} :
    (consume literal >>= fun _ => parseNonnegativeUint64 >>= next).run cursor = some result ↔
      ∃ n rest, cursor = literal ++ (decimal n ++ rest) ∧ startsWithDigit rest = false ∧
        n ≤ kMaximumUint64 ∧ (next n).run rest = some result := by
  rw [bind_consume]
  constructor
  · rintro ⟨tail, rfl, h⟩
    obtain ⟨n, rest, read, last⟩ := run_bind_eq_some.mp h
    obtain ⟨rfl, stops, fits⟩ := parseNonnegativeUint64_eq_some.mp read
    exact ⟨n, rest, rfl, stops, fits, last⟩
  · rintro ⟨n, rest, rfl, stops, fits, last⟩
    exact ⟨_, rfl, run_bind_eq_some.mpr
      ⟨n, rest, parseNonnegativeUint64_eq_some.mpr ⟨rfl, stops, fits⟩, last⟩⟩

theorem bind_flag {next : Bool → Reads β} :
    (consume literal >>= fun _ => parseBoolean >>= next).run cursor = some result ↔
      ∃ b rest, cursor = literal ++ (flagText b ++ rest) ∧ (next b).run rest = some result := by
  rw [bind_consume]
  constructor
  · rintro ⟨tail, rfl, h⟩
    obtain ⟨b, rest, read, last⟩ := run_bind_eq_some.mp h
    rw [parseBoolean_eq_some] at read
    exact ⟨b, rest, by rw [read], last⟩
  · rintro ⟨b, rest, rfl, last⟩
    exact ⟨_, rfl, run_bind_eq_some.mpr ⟨b, rest, parseBoolean_eq_some.mpr rfl, last⟩⟩

theorem bind_guard {condition : Prop} [Decidable condition] {next : Unit → Reads β} :
    ((guard condition : Reads Unit) >>= next).run cursor = some result ↔
      condition ∧ (next ()).run cursor = some result := by
  by_cases holds : condition
  · simp [guard, holds]
  · simp only [guard, holds, if_false, false_and, iff_false]
    intro h
    cases h

theorem close_object {value : β} :
    (consume literal >>= fun _ => atEnd >>= fun _ => (pure value : Reads β)).run cursor =
      some result ↔ cursor = literal ∧ result = (value, []) := by
  rw [bind_consume]
  constructor
  · rintro ⟨tail, rfl, h⟩
    obtain ⟨⟨⟩, rest, ends, last⟩ := run_bind_eq_some.mp h
    obtain ⟨rfl, rfl⟩ := atEnd_eq_some.mp ends
    cases last
    exact ⟨List.append_nil literal, rfl⟩
  · rintro ⟨rfl, rfl⟩
    exact ⟨[], (List.append_nil _).symm,
      run_bind_eq_some.mpr ⟨(), [], atEnd_eq_some.mpr ⟨rfl, rfl⟩, rfl⟩⟩

end

end CanonicalJsonCursor

/-! ## The usage-lease verifier of the Host

Strict parsing and signature verification of a compact lease token. Parsed claims
have the members of verified claims; the protocol version is narrowed to 32 bits
when the verified lease is built. Digests and signatures are computed by the
platform's primitives, which here never fail.
-/

open Lib.Base64Url Lib.Hex Lib.Segments UsageLease CanonicalJsonCursor

def kMinimumRsaBits : Nat := 3072
def kMaximumRsaBits : Nat := 16384
def kMaximumSpkiDerBytes : Nat := 4096
def kHostUsageLeaseMaximumTokenBytesV1 : Nat := 8192
def kHostUsageLeaseMaximumTtlSecondsV1 : Nat := 10
def kHostUsageLeaseServerAheadGraceSecondsV1 : Nat := 2
def kZeroSha256 : Bytes := List.replicate 64 48

inductive HostUsageLeaseVerificationErrorCodeV1 where
  | keyInvalid
  | sourceInvalid
  | tokenInvalid
  deriving DecidableEq

abbrev ParsedClaims := VerifiedUsageLeaseClaims

/-- A public key is identified by its canonical encoding. -/
structure VerificationKey where
  keyId : Bytes
  canonicalSpkiDer : Bytes
  signatureBytes : Nat
  deriving DecidableEq

structure HostUsageLeaseVerifierV1 where
  verificationKeys : List VerificationKey
  deriving DecidableEq

def importVerificationKey (crypto : Cryptography) (canonicalSpkiDer : Bytes) :
    Option VerificationKey :=
  if canonicalSpkiDer = [] ∨ kMaximumSpkiDerBytes < canonicalSpkiDer.length then none
  else
    match crypto.rsaModulusBits canonicalSpkiDer with
    | none => none
    | some keyBits =>
      if keyBits < kMinimumRsaBits ∨ kMaximumRsaBits < keyBits ∨ keyBits % 8 ≠ 0 then none
      else
        some
          { keyId := crypto.keyId canonicalSpkiDer
            canonicalSpkiDer := canonicalSpkiDer
            signatureBytes := keyBits / 8 }

/-- Adds one imported key unless its encoding or its id is already present. -/
def addKey (crypto : Cryptography) (keys : Option (List VerificationKey)) (source : Bytes) :
    Option (List VerificationKey) := do
  let existing ← keys
  let key ← importVerificationKey crypto source
  if existing.any (fun other =>
      other.canonicalSpkiDer == key.canonicalSpkiDer || other.keyId == key.keyId) then none
  else some (existing ++ [key])

def createFromCanonicalSpkiDer (crypto : Cryptography) (keys : List Bytes) :
    Except HostUsageLeaseVerificationErrorCodeV1 HostUsageLeaseVerifierV1 :=
  if keys = [] ∨ 3 < keys.length then .error .keyInvalid
  else
    match keys.foldl (addKey crypto) (some []) with
    | none => .error .keyInvalid
    | some verificationKeys => .ok { verificationKeys := verificationKeys }

def selectKey (keys : List VerificationKey) (keyId : Bytes) : Option VerificationKey :=
  keys.foldl (fun selected key => if key.keyId = keyId then some key else selected) none

def rsaPkcs1Sha256SignatureValid (crypto : Cryptography) (key : VerificationKey)
    (signingInput signature : Bytes) : Bool :=
  signature.length == key.signatureBytes &&
    crypto.rsaVerify key.canonicalSpkiDer signingInput signature

def decodeGroups : Bytes → Option Bytes
  | [] => some []
  | [_] => none
  | [a, b] => do
      let first ← value a
      let second ← value b
      if second &&& 0x0f ≠ 0 then none
      return [UInt8.ofNat ((first <<< 2) ||| (second >>> 4))]
  | [a, b, c] => do
      let first ← value a
      let second ← value b
      let third ← value c
      if third &&& 0x03 ≠ 0 then none
      return [UInt8.ofNat ((first <<< 2) ||| (second >>> 4)),
        UInt8.ofNat ((second <<< 4) ||| (third >>> 2))]
  | a :: b :: c :: d :: rest => do
      let first ← value a
      let second ← value b
      let third ← value c
      let fourth ← value d
      let decoded ← decodeGroups rest
      return (UInt8.ofNat ((first <<< 2) ||| (second >>> 4)) ::
        UInt8.ofNat ((second <<< 4) ||| (third >>> 2)) ::
        UInt8.ofNat ((third <<< 6) ||| fourth) :: decoded)

def decodeBase64urlCanonical (encoded : Bytes) : Option Bytes :=
  if encoded = [] ∨ encoded.length % 4 = 1 then none else decodeGroups encoded

def opening (key : Bytes) : Bytes := ascii "\x7b\"" ++ key ++ ascii "\":"

def separator (key : Bytes) : Bytes := ascii ",\"" ++ key ++ ascii "\":"

def closing : Bytes := ascii "\x7d"

def quoted (value : Bytes) : Bytes := ascii "\"" ++ value ++ ascii "\""

def readCanonicalHeader : Reads Bytes := do
  consume (opening (ascii "alg"))
  let algorithm ← parseString
  guard (algorithm = ascii "RS256")
  consume (separator (ascii "kid"))
  let keyId ← parseString
  guard (isNonzeroLowerHex keyId 16 = true)
  consume (separator (ascii "typ"))
  let tokenType ← parseString
  guard (tokenType = ascii "JWT")
  consume closing
  atEnd
  return keyId

def parseCanonicalHeader (raw : Bytes) : Option Bytes := (readCanonicalHeader.run raw).map Prod.fst

def readCanonicalPayload : Reads ParsedClaims := do
  consume (opening (ascii "akh"))
  let androidKeySha256 ← parseString
  consume (separator (ascii "aud"))
  let audience ← parseString
  consume (separator (ascii "authorization_kind"))
  let authorizationKind ← parseString
  consume (separator (ascii "cbh"))
  let channelBindingSha256 ← parseString
  consume (separator (ascii "exp"))
  let expiresAtEpoch ← parseNonnegativeUint64
  consume (separator (ascii "hkh"))
  let hostKeySha256 ← parseString
  consume (separator (ascii "iat"))
  let issuedAtEpoch ← parseNonnegativeUint64
  consume (separator (ascii "is_permanent"))
  let isPermanent ← parseBoolean
  consume (separator (ascii "iss"))
  let issuer ← parseString
  consume (separator (ascii "jti"))
  let leaseId ← parseString
  consume (separator (ascii "nbf"))
  let notBeforeEpoch ← parseNonnegativeUint64
  consume (separator (ascii "phase"))
  let phase ← parseString
  consume (separator (ascii "pid"))
  let pairId ← parseString
  consume (separator (ascii "pth"))
  let previousTicketSha256 ← parseString
  consume (separator (ascii "pv"))
  let protocolVersion ← parseNonnegativeUint64
  consume (separator (ascii "remaining"))
  let remainingSeconds ← parseNonnegativeUint64
  consume (separator (ascii "rv"))
  let revocationVersion ← parseNonnegativeUint64
  consume (separator (ascii "seq"))
  let sequence ← parseNonnegativeUint64
  consume (separator (ascii "sid"))
  let sessionId ← parseString
  consume (separator (ascii "sub"))
  let entitlementId ← parseString
  consume (separator (ascii "typ"))
  let type ← parseString
  consume closing
  atEnd
  return {
    type := type
    issuer := issuer
    audience := audience
    entitlementId := entitlementId
    pairId := pairId
    sessionId := sessionId
    protocolVersion := protocolVersion
    revocationVersion := revocationVersion
    hostKeySha256 := hostKeySha256
    androidKeySha256 := androidKeySha256
    channelBindingSha256 := channelBindingSha256
    previousTicketSha256 := previousTicketSha256
    sequence := sequence
    phase := phase
    authorizationKind := authorizationKind
    isPermanent := isPermanent
    remainingSeconds := remainingSeconds
    leaseId := leaseId
    issuedAtEpoch := issuedAtEpoch
    notBeforeEpoch := notBeforeEpoch
    expiresAtEpoch := expiresAtEpoch }

def parseCanonicalPayload (raw : Bytes) : Option ParsedClaims :=
  (readCanonicalPayload.run raw).map Prod.fst

def authorizationKindValid (value : Bytes) : Bool :=
  value == ascii "legacy_balance" || value == ascii "day" || value == ascii "week" ||
    value == ascii "month" || value == ascii "permanent"

def previousTicketValid (value : Bytes) (sequence : Nat) : Bool :=
  if sequence = 0 then value == kZeroSha256 else isNonzeroLowerHex value 64

def canonicalClaimsWithoutLeaseId (claims : ParsedClaims) : Bytes :=
  opening (ascii "akh") ++ quoted claims.androidKeySha256 ++
  separator (ascii "aud") ++ quoted claims.audience ++
  separator (ascii "authorization_kind") ++ quoted claims.authorizationKind ++
  separator (ascii "cbh") ++ quoted claims.channelBindingSha256 ++
  separator (ascii "exp") ++ Lib.Decimal.decimal claims.expiresAtEpoch ++
  separator (ascii "hkh") ++ quoted claims.hostKeySha256 ++
  separator (ascii "iat") ++ Lib.Decimal.decimal claims.issuedAtEpoch ++
  separator (ascii "is_permanent") ++ flagText claims.isPermanent ++
  separator (ascii "iss") ++ quoted claims.issuer ++
  separator (ascii "nbf") ++ Lib.Decimal.decimal claims.notBeforeEpoch ++
  separator (ascii "phase") ++ quoted claims.phase ++
  separator (ascii "pid") ++ quoted claims.pairId ++
  separator (ascii "pth") ++ quoted claims.previousTicketSha256 ++
  separator (ascii "pv") ++ Lib.Decimal.decimal claims.protocolVersion ++
  separator (ascii "remaining") ++ Lib.Decimal.decimal claims.remainingSeconds ++
  separator (ascii "rv") ++ Lib.Decimal.decimal claims.revocationVersion ++
  separator (ascii "seq") ++ Lib.Decimal.decimal claims.sequence ++
  separator (ascii "sid") ++ quoted claims.sessionId ++
  separator (ascii "sub") ++ quoted claims.entitlementId ++
  separator (ascii "typ") ++ quoted claims.type ++ closing

def leaseIdValid (crypto : Cryptography) (claims : ParsedClaims) : Bool :=
  isNonzeroLowerHex claims.leaseId 32 &&
    claims.leaseId == lowercaseHex ((crypto.sha256 (canonicalClaimsWithoutLeaseId claims)).take 16)

def peerBindingValid (binding : UsageLeaseBinding) : Bool :=
  isNonzeroLowerHex binding.entitlementId 32 &&
  isNonzeroLowerHex binding.pairId 32 &&
  binding.protocolVersion == kUsageLeaseProtocolVersion &&
  decide (0 < binding.revocationVersion) &&
  isNonzeroLowerHex binding.hostKeySha256 64 &&
  isNonzeroLowerHex binding.androidKeySha256 64 &&
  isNonzeroLowerHex binding.channelBindingSha256 64 &&
  binding.hostKeySha256 != binding.androidKeySha256

def expectedBindingValid (binding : UsageLeaseBinding) : Bool :=
  isNonzeroLowerHex binding.sessionId 32 && peerBindingValid binding

def expectedConfirmedPeerBindingValid (binding : UsageLeaseBinding) : Bool :=
  binding.sessionId.isEmpty && peerBindingValid binding

def claimsValid (crypto : Cryptography) (claims : ParsedClaims) (trustedNowEpoch : Nat) : Bool :=
  if claims.type != kUsageLeaseType ||
      claims.issuer != kUsageLeaseIssuer ||
      claims.audience != kUsageLeaseAudience ||
      claims.phase != kUsageLeaseActivePhase ||
      !authorizationKindValid claims.authorizationKind ||
      claims.isPermanent != (claims.authorizationKind == ascii "permanent") ||
      (claims.isPermanent && claims.remainingSeconds != 0) ||
      !isNonzeroLowerHex claims.entitlementId 32 ||
      !isNonzeroLowerHex claims.pairId 32 ||
      !isNonzeroLowerHex claims.sessionId 32 ||
      !isNonzeroLowerHex claims.hostKeySha256 64 ||
      !isNonzeroLowerHex claims.androidKeySha256 64 ||
      !isNonzeroLowerHex claims.channelBindingSha256 64 ||
      claims.hostKeySha256 == claims.androidKeySha256 ||
      claims.protocolVersion != kUsageLeaseProtocolVersion ||
      claims.revocationVersion == 0 ||
      !previousTicketValid claims.previousTicketSha256 claims.sequence ||
      claims.issuedAtEpoch == 0 ||
      decide (claims.notBeforeEpoch < claims.issuedAtEpoch) ||
      decide (claims.expiresAtEpoch ≤ claims.notBeforeEpoch) ||
      decide (kHostUsageLeaseMaximumTtlSecondsV1 < claims.expiresAtEpoch - claims.notBeforeEpoch) ||
      decide (claims.expiresAtEpoch ≤ trustedNowEpoch) then
    false
  else if decide (trustedNowEpoch < claims.issuedAtEpoch) &&
      decide (kHostUsageLeaseServerAheadGraceSecondsV1 <
        claims.issuedAtEpoch - trustedNowEpoch) then
    false
  else
    leaseIdValid crypto claims

def claimsMatchExpected (claims : ParsedClaims) (expected : UsageLeaseBinding)
    (acceptSignedSessionId : Bool) : Bool :=
  claims.entitlementId == expected.entitlementId &&
  claims.pairId == expected.pairId &&
  (acceptSignedSessionId || claims.sessionId == expected.sessionId) &&
  claims.protocolVersion == expected.protocolVersion &&
  claims.revocationVersion == expected.revocationVersion &&
  claims.hostKeySha256 == expected.hostKeySha256 &&
  claims.androidKeySha256 == expected.androidKeySha256 &&
  claims.channelBindingSha256 == expected.channelBindingSha256

namespace HostUsageLeaseVerifierV1

/-- The part of `verifyInternal` whose failures are all reported as an invalid token. -/
def verifyToken (crypto : Cryptography) (verifier : HostUsageLeaseVerifierV1)
    (compactTokenAscii : Bytes) (expectedBinding : UsageLeaseBinding) (trustedNowEpoch : Nat)
    (acceptSignedSessionId : Bool) : Option VerifiedUsageLease := do
  let (headerSegment, payloadSegment, signatureSegment) ← splitThree 46 compactTokenAscii
  let headerRaw ← decodeBase64urlCanonical headerSegment
  let payloadRaw ← decodeBase64urlCanonical payloadSegment
  let signature ← decodeBase64urlCanonical signatureSegment
  let keyId ← parseCanonicalHeader headerRaw
  let key ← selectKey verifier.verificationKeys keyId
  let signingInput := headerSegment ++ 46 :: payloadSegment
  if !rsaPkcs1Sha256SignatureValid crypto key signingInput signature then none
  let parsed ← parseCanonicalPayload payloadRaw
  if !claimsValid crypto parsed trustedNowEpoch ||
      !claimsMatchExpected parsed expectedBinding acceptSignedSessionId then none
  return {
    claims := { parsed with protocolVersion := parsed.protocolVersion % 2 ^ 32 }
    ticketSha256 := crypto.sha256Hex compactTokenAscii }

def verifyInternal (crypto : Cryptography) (verifier : HostUsageLeaseVerifierV1)
    (compactTokenAscii : Bytes) (expectedBinding : UsageLeaseBinding) (trustedNowEpoch : Nat)
    (acceptSignedSessionId : Bool) :
    Except HostUsageLeaseVerificationErrorCodeV1 VerifiedUsageLease :=
  let bindingValid :=
    if acceptSignedSessionId then expectedConfirmedPeerBindingValid expectedBinding
    else expectedBindingValid expectedBinding
  if !bindingValid then .error .sourceInvalid
  else if trustedNowEpoch = 0 ∨ compactTokenAscii = [] ∨
      kHostUsageLeaseMaximumTokenBytesV1 < compactTokenAscii.length then
    .error .tokenInvalid
  else
    match verifier.verifyToken crypto compactTokenAscii expectedBinding trustedNowEpoch
        acceptSignedSessionId with
    | none => .error .tokenInvalid
    | some lease => .ok lease

def verify (crypto : Cryptography) (verifier : HostUsageLeaseVerifierV1)
    (compactTokenAscii : Bytes) (expectedBinding : UsageLeaseBinding) (trustedNowEpoch : Nat) :
    Except HostUsageLeaseVerificationErrorCodeV1 VerifiedUsageLease :=
  verifier.verifyInternal crypto compactTokenAscii expectedBinding trustedNowEpoch false

def verifyForConfirmedPeerWithSignedSession (crypto : Cryptography)
    (verifier : HostUsageLeaseVerifierV1) (compactTokenAscii : Bytes)
    (expectedPeerBinding : UsageLeaseBinding) (trustedNowEpoch : Nat) :
    Except HostUsageLeaseVerificationErrorCodeV1 VerifiedUsageLease :=
  verifier.verifyInternal crypto compactTokenAscii expectedPeerBinding trustedNowEpoch true

end HostUsageLeaseVerifierV1

end VisionForge.HostLease
