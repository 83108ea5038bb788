import Mathlib.Logic.Relation
import VisionForge.Lib.BigEndian
import VisionForge.Lib.Chunks
import VisionForge.Lib.Decimal
import VisionForge.Lib.Hex
import VisionForge.Lib.Sha256
import VisionForge.Lib.Utf

/-! # Card codes

A code is derived from a reference and ends in a checksum. What a person types is normalized
before it is checked or looked up.
-/

namespace VisionForge.Server.LicenseCodes

open Lib.Ascii Lib.BigEndian Lib.Chunks Lib.Decimal Lib.Hex Lib.Sha256 Lib.Utf

/-- A text as its code points. -/
abbrev Text := List Nat

def points (literal : String) : Text := literal.toList.map Char.toNat

def CARD_PREFIX : Text := points "VFD2"

def CARD_ALPHABET : Text := points "23456789ABCDEFGHJKLMNPQRSTUVWXYZ"

def CARD_PAYLOAD_CHARACTERS : Nat := 28

def CARD_CHECKSUM_CHARACTERS : Nat := 2

def CARD_BODY_CHARACTERS : Nat := CARD_PAYLOAD_CHARACTERS + CARD_CHECKSUM_CHARACTERS

def DERIVE_DOMAIN : Bytes := ascii "visionforge:dual-machine:card:derive:v1" ++ [0]

def LOOKUP_DOMAIN : Bytes := ascii "visionforge:dual-machine:card:lookup:v1" ++ [0]

structure Unicode where
  upper : Nat → Text
  isalnum : Nat → Bool
  upper_ascii : ∀ point < 128,
    upper point = [if 97 ≤ point ∧ point ≤ 122 then point - 32 else point]
  isalnum_ascii : ∀ point < 128, isalnum point = decide
    (48 ≤ point ∧ point ≤ 57 ∨ 65 ≤ point ∧ point ≤ 90 ∨ 97 ≤ point ∧ point ≤ 122)

/-- Tables that know ASCII alone. -/
def asciiUnicode : Unicode where
  upper := fun point => [if 97 ≤ point ∧ point ≤ 122 then point - 32 else point]
  isalnum := fun point => decide
    (48 ≤ point ∧ point ≤ 57 ∨ 65 ≤ point ∧ point ≤ 90 ∨ 97 ≤ point ∧ point ≤ 122)
  upper_ascii := fun _ _ => rfl
  isalnum_ascii := fun _ _ => rfl

def domainKey (secret domain : Bytes) : Except String Bytes :=
  if secret.length < 32 then .error "dual_machine_license_secret_too_short"
  else .ok (hmacSha256 secret domain)

def encodeBits (material : Bytes) (characters : Nat) : Except String Text :=
  let requiredBits := characters * 5
  let availableBits := material.length * 8
  if availableBits < requiredBits then .error "insufficient_card_entropy"
  else
    let value := load material >>> (availableBits - requiredBits)
    .ok ((List.range characters).reverse.map fun place =>
      CARD_ALPHABET.getD ((value >>> (5 * place)) &&& 0x1f) 0)

def checksum (payload : Text) : Except String Text :=
  encodeBits (sha256 (payload.map UInt8.ofNat)) CARD_CHECKSUM_CHARACTERS

def deriveCardCode (secret : Bytes) (derivationRef : List Char) : Except String Text := do
  let key ← domainKey secret DERIVE_DOMAIN
  let payload ← encodeBits (hmacSha256 key (utf8 derivationRef)) CARD_PAYLOAD_CHARACTERS
  let body := payload ++ (← checksum payload)
  let groups := (List.range (chunks 5 body.length)).map (chunk 5 body)
  return CARD_PREFIX ++ points "-" ++ (points "-").intercalate groups

variable (unicode : Unicode)

def normalizeCardCode (rawCode : Text) : Text :=
  (rawCode.flatMap unicode.upper).filter unicode.isalnum

def isValidCardCode (rawCode : Text) : Except String Bool :=
  let normalized := normalizeCardCode unicode rawCode
  if normalized.length ≠ CARD_PREFIX.length + CARD_BODY_CHARACTERS then .ok false
  else if !CARD_PREFIX.isPrefixOf normalized then .ok false
  else
    let body := normalized.drop CARD_PREFIX.length
    if body.any (!CARD_ALPHABET.contains ·) then .ok false
    else do
      let check ← checksum (body.take CARD_PAYLOAD_CHARACTERS)
      return body.drop CARD_PAYLOAD_CHARACTERS == check

/-- The octets that the digest is made of. -/
def digestInput (rawCode : Text) : Bytes :=
  ((normalizeCardCode unicode rawCode).filter (· < 128)).map UInt8.ofNat

def cardCodeDigest (secret : Bytes) (rawCode : Text) (keyVersion : Int) : Except String Bytes :=
  if keyVersion ≤ 0 then .error "dual_machine_license_key_version_invalid"
  else do
    let key ← domainKey secret LOOKUP_DOMAIN
    return ascii "hmac-sha256:v" ++ decimal keyVersion.toNat ++ ascii ":" ++
      lowercaseHex (hmacSha256 key (digestInput unicode rawCode))

/-- Another case of an ASCII letter, or one more character that is not alphanumeric. -/
inductive Retyped : Text → Text → Prop where
  | changeCase {front back : Text} {letter : Nat} : 65 ≤ letter → letter ≤ 90 →
      Retyped (front ++ letter :: back) (front ++ (letter + 32) :: back)
  | insert {front back : Text} {noise : Nat} : unicode.isalnum noise = false →
      (∀ point ∈ unicode.upper noise, unicode.isalnum point = false) →
      Retyped (front ++ back) (front ++ noise :: back)

variable {unicode : Unicode} {first second : Text}

theorem normalizeCardCode_append (front back : Text) :
    normalizeCardCode unicode (front ++ back) =
      normalizeCardCode unicode front ++ normalizeCardCode unicode back := by
  simp [normalizeCardCode]

theorem Retyped.normalizeCardCode (retyped : Retyped unicode first second) :
    normalizeCardCode unicode first = normalizeCardCode unicode second := by
  cases retyped with
  | @changeCase front back letter least most =>
    simp [LicenseCodes.normalizeCardCode, unicode.upper_ascii letter (by omega),
      unicode.upper_ascii (letter + 32) (by omega), show ¬97 ≤ letter by omega,
      show 65 ≤ letter ∧ letter ≤ 90 from ⟨least, most⟩]
  | insert _ unseen => simpa [LicenseCodes.normalizeCardCode] using unseen

example : normalizeCardCode asciiUnicode (points "vfd2-2a b") = points "VFD22AB" := by decide

theorem card_characters : ∀ point ∈ CARD_PREFIX ++ CARD_ALPHABET, point < 128 ∧
    ¬(97 ≤ point ∧ point ≤ 122) ∧ (48 ≤ point ∧ point ≤ 57 ∨ 65 ≤ point ∧ point ≤ 90) := by
  decide

theorem normalizeCardCode_card {code : Text}
    (isCard : ∀ point ∈ code, point ∈ CARD_PREFIX ++ CARD_ALPHABET) :
    normalizeCardCode unicode code = code := by
  induction code with
  | nil => rfl
  | cons point code ih =>
    obtain ⟨ascii, noLower, alnum⟩ := card_characters point (isCard point (.head _))
    have rest := ih fun point mem => isCard point (.tail _ mem)
    have kept : unicode.isalnum point = true := by
      rw [unicode.isalnum_ascii point ascii]
      exact decide_eq_true (by omega)
    rw [← List.singleton_append, normalizeCardCode_append, rest]
    simp [normalizeCardCode, unicode.upper_ascii point ascii, noLower, kept]

theorem normalizeCardCode_dash : normalizeCardCode unicode (points "-") = [] := by
  simp [normalizeCardCode, points, unicode.upper_ascii, unicode.isalnum_ascii]

theorem normalizeCardCode_groups (groups : List Text) :
    normalizeCardCode unicode ((points "-").intercalate groups) =
      normalizeCardCode unicode groups.flatten := by
  induction groups with
  | nil => rfl
  | cons group groups ih =>
    cases groups with
    | nil => simp
    | cons next rest =>
      rw [List.intercalate_cons_cons, normalizeCardCode_append, normalizeCardCode_append,
        normalizeCardCode_dash, ih, List.append_nil, ← normalizeCardCode_append]
      rfl

theorem encodeBits_eq_ok {material : Bytes} {characters : Nat}
    (enough : characters * 5 ≤ material.length * 8) :
    ∃ code, encodeBits material characters = .ok code ∧ code.length = characters ∧
      ∀ point ∈ code, point ∈ CARD_ALPHABET := by
  refine ⟨_, if_neg (Nat.not_lt.mpr enough), by simp, fun point mem => ?_⟩
  obtain ⟨place, -, rfl⟩ := List.mem_map.mp mem
  have hin {index : Nat} : index &&& 0x1f < CARD_ALPHABET.length :=
    Nat.lt_of_le_of_lt Nat.and_le_right (by decide)
  rw [List.getD_eq_getElem?_getD, List.getElem?_eq_getElem hin]
  exact List.getElem_mem hin

theorem checksum_eq_ok (payload : Text) : ∃ code, checksum payload = .ok code ∧
    code.length = CARD_CHECKSUM_CHARACTERS ∧ ∀ point ∈ code, point ∈ CARD_ALPHABET :=
  encodeBits_eq_ok (by rw [length_sha256]; decide)

theorem deriveCardCode_valid {secret : Bytes} (long : 32 ≤ secret.length)
    (derivationRef : List Char) :
    ∃ code, deriveCardCode secret derivationRef = .ok code ∧
      isValidCardCode unicode code = .ok true := by
  have key : domainKey secret DERIVE_DOMAIN = .ok (hmacSha256 secret DERIVE_DOMAIN) :=
    if_neg (Nat.not_lt.mpr long)
  obtain ⟨payload, isPayload, length, card⟩ := @encodeBits_eq_ok
    (hmacSha256 (hmacSha256 secret DERIVE_DOMAIN) (utf8 derivationRef)) CARD_PAYLOAD_CHARACTERS
    (show 28 * 5 ≤ 32 * 8 by decide)
  obtain ⟨check, isCheck, checkLength, checkCard⟩ := checksum_eq_ok payload
  have bodyCard : ∀ point ∈ payload ++ check, point ∈ CARD_ALPHABET := by
    intro point mem
    exact (List.mem_append.mp mem).elim (card point) (checkCard point)
  refine ⟨CARD_PREFIX ++ points "-" ++ (points "-").intercalate
    ((List.range (chunks 5 (payload ++ check).length)).map (chunk 5 (payload ++ check))), ?_, ?_⟩
  · simp [deriveCardCode, key, isPayload, isCheck, bind, Except.bind, pure, Except.pure]
  have normalized : normalizeCardCode unicode (CARD_PREFIX ++ points "-" ++
      (points "-").intercalate ((List.range (chunks 5 (payload ++ check).length)).map
        (chunk 5 (payload ++ check)))) = CARD_PREFIX ++ (payload ++ check) := by
    rw [normalizeCardCode_append, normalizeCardCode_append, normalizeCardCode_dash,
      normalizeCardCode_groups, flatten_all_chunks (by decide), List.append_nil,
      normalizeCardCode_card fun point mem => List.mem_append_left _ mem,
      normalizeCardCode_card fun point mem => List.mem_append_right _ (bodyCard point mem)]
  have size : (CARD_PREFIX ++ (payload ++ check)).length =
      CARD_PREFIX.length + CARD_BODY_CHARACTERS := by
    rw [List.length_append, List.length_append, length, checkLength, CARD_BODY_CHARACTERS]
  have inAlphabet : ¬(payload ++ check).any (!CARD_ALPHABET.contains ·) = true := by
    simpa using ⟨card, checkCard⟩
  unfold isValidCardCode
  simp only [normalized]
  rw [if_neg (not_not.mpr size), if_neg (by simp), List.drop_left, if_neg inAlphabet,
    List.take_left' length, isCheck, List.drop_left' length]
  simp [bind, Except.bind, pure, Except.pure]

theorem card_of_valid {rawCode : Text} (valid : isValidCardCode unicode rawCode = .ok true) :
    ∀ point ∈ normalizeCardCode unicode rawCode, point ∈ CARD_PREFIX ++ CARD_ALPHABET := by
  unfold isValidCardCode at valid
  dsimp only at valid
  split at valid
  · cases valid
  split at valid
  · cases valid
  rename_i begins
  split at valid
  · cases valid
  rename_i isBody
  obtain ⟨body, split⟩ : CARD_PREFIX <+: normalizeCardCode unicode rawCode := by
    simpa using begins
  rw [← split, List.drop_left] at isBody
  have bodyCard : ∀ point ∈ body, point ∈ CARD_ALPHABET := by simpa using isBody
  intro point mem
  rw [← split] at mem
  cases List.mem_append.mp mem with
  | inl inPrefix => exact List.mem_append_left _ inPrefix
  | inr inBody => exact List.mem_append_right _ (bodyCard point inBody)

/-- A valid code is ASCII when it is normalized, so that its digest loses nothing. -/
theorem digestInput_of_valid {rawCode : Text} (valid : isValidCardCode unicode rawCode = .ok true) :
    (digestInput unicode rawCode).map UInt8.toNat = normalizeCardCode unicode rawCode := by
  have ascii : ∀ point ∈ normalizeCardCode unicode rawCode, point < 128 := fun point mem =>
    (card_characters point (card_of_valid valid point mem)).1
  unfold digestInput
  rw [List.filter_eq_self.mpr (by simpa using ascii), List.map_map]
  refine (List.map_congr_left fun point mem => ?_).trans (List.map_id _)
  exact UInt8.toNat_ofNat_of_lt (Nat.lt_trans (ascii point mem) (by decide))

/-- Derived codes are valid, retyping changes neither the verdict nor the digest, and valid codes
    have one digest exactly when they are one code. -/
theorem card_codes_survive_transcription (unicode : Unicode) :
    (∀ (secret : Bytes) derivationRef, 32 ≤ secret.length →
      ∃ code, deriveCardCode secret derivationRef = .ok code ∧
        isValidCardCode unicode code = .ok true) ∧
    (∀ first second, Relation.EqvGen (Retyped unicode) first second →
      isValidCardCode unicode first = isValidCardCode unicode second ∧
        ∀ secret keyVersion, cardCodeDigest unicode secret first keyVersion =
          cardCodeDigest unicode secret second keyVersion) ∧
    ∀ first second, isValidCardCode unicode first = .ok true →
      isValidCardCode unicode second = .ok true →
      (digestInput unicode first = digestInput unicode second ↔
        normalizeCardCode unicode first = normalizeCardCode unicode second) := by
  refine ⟨fun secret derivationRef long => deriveCardCode_valid long derivationRef, ?_, ?_⟩
  · intro first second retyped
    have same : normalizeCardCode unicode first = normalizeCardCode unicode second := by
      induction retyped with
      | rel _ _ step => exact step.normalizeCardCode
      | refl => rfl
      | symm _ _ _ ih => exact ih.symm
      | trans _ _ _ _ _ ih ih' => exact ih.trans ih'
    simp only [isValidCardCode, cardCodeDigest, digestInput, same, implies_true, and_self]
  · intro first second valid valid'
    constructor
    · intro same
      rw [← digestInput_of_valid valid, ← digestInput_of_valid valid', same]
    · intro same
      rw [digestInput, digestInput, same]

end VisionForge.Server.LicenseCodes
