import VisionForge.Lib.FlatJson
import VisionForge.Lib.Long

/-! # The JSON objects of the phone's verifier

A parser for flat objects of texts, 64-bit integers and flags, and the canonical
form an object is compared with. The parser is more liberal than the canonical
form: it admits white space, escapes and any order of members.
-/

namespace VisionForge.PhoneLease

open Lib.Ascii Lib.Decimal Lib.FlatJson Lib.Hex Lib.Long Lib.Utf

inductive JsonValue where
  | string (value : Units)
  | long (value : Int)
  | boolean (value : Bool)
  deriving DecidableEq

/-- A map that remembers the order of insertion. -/
@[ext] structure JsonMap where
  entries : List (Units × JsonValue) := []
  distinct : (entries.map Prod.fst).Nodup := by simp

namespace JsonMap

def keys (map : JsonMap) : List Units := map.entries.map Prod.fst

def get (map : JsonMap) (key : Units) : Option JsonValue :=
  (map.entries.find? (fun entry => entry.1 = key)).map Prod.snd

/-- Adds an entry whose key is new. -/
def put (map : JsonMap) (key : Units) (value : JsonValue) : Option JsonMap :=
  if fresh : key ∉ map.keys then
    some
      { entries := map.entries ++ [(key, value)]
        distinct := by
          rw [List.map_append]
          exact List.nodup_append.mpr ⟨map.distinct, by simp, fun a old b new =>
            fun same => fresh (by simp_all [keys])⟩ }
  else none

def remove (map : JsonMap) (key : Units) : JsonMap where
  entries := map.entries.filter (fun entry => entry.1 ≠ key)
  distinct := map.distinct.sublist (List.filter_sublist.map _)

end JsonMap

/-- The zeros of the decimal digits of the basic plane. -/
def digitZeros : List Nat :=
  [0x0030, 0x0660, 0x06f0, 0x07c0, 0x0966, 0x09e6, 0x0a66, 0x0ae6, 0x0b66, 0x0be6, 0x0c66, 0x0ce6,
    0x0d66, 0x0de6, 0x0e50, 0x0ed0, 0x0f20, 0x1040, 0x1090, 0x17e0, 0x1810, 0x1946, 0x19d0, 0x1a80,
    0x1a90, 0x1b50, 0x1bb0, 0x1c40, 0x1c50, 0xa620, 0xa8d0, 0xa900, 0xa9d0, 0xa9f0, 0xaa50, 0xabf0,
    0xff10]

variable (char : UInt16)

/-- `Character.digit` with radix ten. -/
def digitValue : Option Nat :=
  (digitZeros.find? (fun first => first ≤ char.toNat ∧ char.toNat < first + 10)).map
    (char.toNat - ·)

/-- `Character.isDigit`. -/
def isUnicodeDigit : Bool := (digitValue char).isSome

/-- The firsts of the letters that `Character.digit` takes for ten to fifteen. -/
def hexLetters : List Nat := [0x0041, 0x0061, 0xff21, 0xff41]

/-- `Character.digit` with radix sixteen. -/
def hexDigitValue : Option Nat :=
  match digitValue char with
  | some value => some value
  | none =>
    (hexLetters.find? (fun first => first ≤ char.toNat ∧ char.toNat < first + 6)).map
      (char.toNat - · + 10)

/-- `Character.isWhitespace`: separators that break a line, and some controls. -/
def isWhitespace : Bool :=
  let code := char.toNat
  decide (9 ≤ code ∧ code ≤ 13) || decide (28 ≤ code ∧ code ≤ 32) || code == 0x1680 ||
    decide (0x2000 ≤ code ∧ code ≤ 0x200a ∧ code ≠ 0x2007) || code == 0x2028 || code == 0x2029 ||
    code == 0x205f || code == 0x3000

/-! ## Parsing

The position is the rest of the source. -/

namespace JsonObjectParser

variable (source : Units)

def skipWhitespace : Units := source.dropWhile isWhitespace

/-- The rest after an expected character. -/
def require (expected : UInt16) : Units → Option Units
  | [] => none
  | char :: rest => if char = expected then some rest else none

def requireEnd : Option Unit :=
  if skipWhitespace source = [] then some () else none

def simpleEscape (escape : UInt16) : Option UInt16 :=
  if escape = 34 then some 34
  else if escape = 92 then some 92
  else if escape = 47 then some 47
  else if escape = 98 then some 8
  else if escape = 102 then some 12
  else if escape = 110 then some 10
  else if escape = 114 then some 13
  else if escape = 116 then some 9
  else none

def parseUnicodeEscape (a b c d : UInt16) : Option UInt16 := do
  let first ← hexDigitValue a
  let second ← hexDigitValue b
  let third ← hexDigitValue c
  let fourth ← hexDigitValue d
  return UInt16.ofNat (((first * 16 + second) * 16 + third) * 16 + fourth)

/-- The rest of a string after its opening quote. -/
def parseStringRest : Units → Option (Units × Units)
  | [] => none
  | char :: rest =>
    if char = 34 then some ([], rest)
    else if char < 0x20 then none
    else if char ≠ 92 then
      (parseStringRest rest).map (fun read => (char :: read.1, read.2))
    else
      match rest with
      | [] => none
      | escape :: rest =>
        match simpleEscape escape with
        | some plain => (parseStringRest rest).map (fun read => (plain :: read.1, read.2))
        | none =>
          match rest with
          | a :: b :: c :: d :: rest =>
            if escape = 117 then
              match parseUnicodeEscape a b c d with
              | some plain =>
                (parseStringRest rest).map (fun read => (plain :: read.1, read.2))
              | none => none
            else none
          | _ => none

def parseString : Option (Units × Units) := do
  let rest ← require 34 source
  parseStringRest rest

def isAsciiDigit : Bool := 48 ≤ char && char ≤ 57

/-- `Long.parseLong` on ASCII digits after an optional minus. -/
def parseLong (negative : Bool) (digits : Units) : Option Int :=
  let magnitude : Nat :=
    digits.foldl (fun value char => value * 10 + (char.toNat - 48)) 0
  exact (if negative then -(magnitude : Int) else magnitude)

/-- The digits of a number and the rest, unless it has none or a leading zero. -/
def numberDigits : Option (Units × Units) :=
  match source with
  | [] => none
  | first :: rest =>
    if first = 48 then
      if rest.head?.any isUnicodeDigit then none else some ([first], rest)
    else if first < 49 ∨ 57 < first then none
    else some (source.takeWhile isAsciiDigit, source.dropWhile isAsciiDigit)

/-- A mark of a number that is not an integer. -/
def isNumberSuffix : Bool :=
  char == 46 || char == 101 || char == 69 || char == 43

def parseInteger : Option (Int × Units) := do
  let negative := decide (source.head? = some 45)
  let (digits, rest) ← numberDigits (if negative then source.tail else source)
  guard (rest.head?.any isNumberSuffix = false)
  let value ← parseLong negative digits
  return (value, rest)

def parseBoolean : Option (Bool × Units) :=
  if source.take 4 = text "true" then some (true, source.drop 4)
  else if source.take 5 = text "false" then some (false, source.drop 5)
  else none

def parseValue : Option (JsonValue × Units) :=
  match source.head? with
  | none => none
  | some token =>
    if token = 34 then (parseString source).map (fun read => (.string read.1, read.2))
    else if token = 116 ∨ token = 102 then
      (parseBoolean source).map (fun read => (.boolean read.1, read.2))
    else (parseInteger source).map (fun read => (.long read.1, read.2))

/-- One member and the rest after it. -/
def parseMember : Option (Units × JsonValue × Units) := do
  let (key, rest) ← parseString (skipWhitespace source)
  let rest ← require 58 (skipWhitespace rest)
  let (value, rest) ← parseValue (skipWhitespace rest)
  return (key, value, skipWhitespace rest)

/-- The members up to the closing brace; `bound` is more than their number. -/
def parseMembers : Nat → JsonMap → Units → Option JsonMap
  | 0, _, _ => none
  | bound + 1, values, source => do
      let (key, value, rest) ← parseMember source
      let values ← values.put key value
      match require 125 rest with
      | some rest =>
        requireEnd rest
        return values
      | none =>
        let rest ← require 44 rest
        parseMembers bound values rest

def parse : Option JsonMap := do
  let rest ← require 123 (skipWhitespace source)
  match require 125 (skipWhitespace rest) with
  | some rest =>
    requireEnd rest
    return {}
  | none => parseMembers (rest.length + 1) {} rest

end JsonObjectParser

def escapeCharacter : Units :=
  if char = 34 then [92, 34]
  else if char = 92 then [92, 92]
  else if char = 8 then [92, 98]
  else if char = 12 then [92, 102]
  else if char = 10 then [92, 110]
  else if char = 13 then [92, 114]
  else if char = 9 then [92, 116]
  else if char < 0x20 then
    [92, 117, 48, 48, (hexDigit (char.toNat / 16)).toUInt16, (hexDigit (char.toNat % 16)).toUInt16]
  else [char]

def jsonString (value : Units) : Units := 34 :: (value.flatMap escapeCharacter ++ [34])

def jsonScalar : JsonValue → Units
  | .string value => jsonString value
  | .long value => widen (numeral value)
  | .boolean value => widen (flagText value)

def jsonMember (entry : Units × JsonValue) : Units :=
  jsonString entry.1 ++ 58 :: jsonScalar entry.2

def jsonObject : List (Units × JsonValue) → Units
  | [] => [123, 125]
  | entry :: entries =>
    123 :: (jsonMember entry ++ (entries.flatMap (fun next => 44 :: jsonMember next) ++ [125]))

/-- Strings are compared unit by unit. -/
def unitRank (key : Units) : List Nat := key.map UInt16.toNat

def canonicalJson (source : JsonMap) : Bytes :=
  encodeUtf8 (jsonObject (sortEntries unitRank source.entries))

def widenScalar : Scalar → JsonValue
  | .text value => .string (widen value)
  | .number value => .long value
  | .flag value => .boolean value

def widenEntry (member : Bytes × Scalar) : Units × JsonValue :=
  (widen member.1, widenScalar member.2)

theorem escapeCharacter_plain {char : UInt8} (h : isPlain char = true) :
    escapeCharacter char.toUInt16 = [char.toUInt16] := by
  have bounds := plain_bounds h
  have apart : ∀ other : UInt16, other.toNat < 32 ∨ other = 34 ∨ other = 92 →
      char.toUInt16 ≠ other := by
    rintro other low rfl
    simp only [← UInt16.toNat_inj, UInt8.toNat_toUInt16, UInt16.reduceToNat] at low
    omega
  have printable : ¬char.toUInt16 < 0x20 := by
    simp only [UInt16.lt_iff_toNat_lt, UInt8.toNat_toUInt16, UInt16.reduceToNat]
    omega
  unfold escapeCharacter
  rw [if_neg (apart 34 (by simp)), if_neg (apart 92 (by simp)), if_neg (apart 8 (by decide)),
    if_neg (apart 12 (by decide)), if_neg (apart 10 (by decide)), if_neg (apart 13 (by decide)),
    if_neg (apart 9 (by decide)), if_neg printable]

theorem jsonString_widen {value : Bytes} (plain : Plain value) :
    jsonString (widen value) = widen (quote value) := by
  have flat : (widen value).flatMap escapeCharacter = widen value := by
    induction value with
    | nil => rfl
    | cons char value ih =>
      rw [widen_cons, List.flatMap_cons, escapeCharacter_plain (plain _ List.mem_cons_self),
        ih (fun c member => plain c (List.mem_cons_of_mem char member))]
      rfl
  rw [jsonString, flat, quote_plain plain, widen_cons, widen_append]
  rfl

variable {member : Bytes × Scalar}

theorem jsonMember_widen (plain : PlainMember member) :
    jsonMember (widenEntry member) = widen (memberText member) := by
  have value : jsonScalar (widenScalar member.2) = widen (scalarText member.2) := by
    cases plain with
    | text _ value => exact jsonString_widen value
    | number value _ => rfl
    | flag value _ => rfl
  rw [jsonMember, widenEntry, jsonString_widen plain.key, value, memberText, widen_append,
    widen_cons]
  rfl

theorem jsonObject_widen {members : Members} (plain : ∀ member ∈ members, PlainMember member) :
    jsonObject (members.map widenEntry) = widen (render members) := by
  have tail : ∀ rest : Members, (∀ member ∈ rest, PlainMember member) →
      (rest.map widenEntry).flatMap (fun next => 44 :: jsonMember next) =
        widen (tailText rest) := by
    intro rest plainRest
    induction rest with
    | nil => rfl
    | cons member rest ih =>
      rw [List.map_cons, List.flatMap_cons, jsonMember_widen (plainRest _ List.mem_cons_self),
        ih (fun other isMember => plainRest other (List.mem_cons_of_mem member isMember))]
      simp [tailText]
  cases members with
  | nil => rfl
  | cons member members =>
    rw [List.map_cons, jsonObject, jsonMember_widen (plain _ List.mem_cons_self),
      tail _ (fun other isMember => plain other (List.mem_cons_of_mem member isMember)), render]
    simp

theorem canonicalJson_eq_render {source : JsonMap} {members : Members}
    (sorted : sortEntries unitRank source.entries = members.map widenEntry)
    (plain : ∀ member ∈ members, PlainMember member) : canonicalJson source = render members := by
  rw [canonicalJson, sorted, jsonObject_widen plain, encodeUtf8_widen (isAscii_render (fun member isMember => (plain member isMember).ascii))]

namespace JsonObjectParser

/-- What follows a value. -/
def Delimited (rest : Units) : Prop := ∃ tail, rest = 44 :: tail ∨ rest = 125 :: tail

theorem parseStringRest_widen {value : Bytes} (plain : Plain value) (rest : Units) :
    parseStringRest (widen value ++ 34 :: rest) = some (widen value, rest) := by
  induction value with
  | nil =>
    rw [widen_nil, List.nil_append]
    unfold parseStringRest
    rw [if_pos rfl]
  | cons char value ih =>
    have bounds := plain_bounds (plain char List.mem_cons_self)
    have notQuote : char.toUInt16 ≠ 34 := by
      intro same
      have code := congrArg UInt16.toNat same
      simp only [UInt8.toNat_toUInt16, UInt16.reduceToNat] at code
      omega
    have notEscape : char.toUInt16 ≠ 92 := by
      intro same
      have code := congrArg UInt16.toNat same
      simp only [UInt8.toNat_toUInt16, UInt16.reduceToNat] at code
      omega
    have printable : ¬char.toUInt16 < 0x20 := by
      simp only [UInt16.lt_iff_toNat_lt, UInt8.toNat_toUInt16, UInt16.reduceToNat]
      omega
    rw [widen_cons, List.cons_append]
    unfold parseStringRest
    rw [if_neg notQuote, if_neg printable, if_pos notEscape,
      ih (fun c member => plain c (List.mem_cons_of_mem char member))]
    rfl

theorem parseString_widen {value : Bytes} (plain : Plain value) (rest : Units) :
    parseString (widen (quote value) ++ rest) = some (widen value, rest) := by
  have opened : widen (quote value) ++ rest = 34 :: (widen value ++ 34 :: rest) := by
    rw [quote_plain plain]
    simp
  rw [opened, parseString, require, if_pos rfl, Option.bind_eq_bind, Option.bind_some,
    parseStringRest_widen plain]

variable {rest : Units}

theorem Delimited.head (h : Delimited rest) :
    rest.head?.any isUnicodeDigit = false ∧ rest.head?.any isNumberSuffix = false ∧
      rest.head?.any isAsciiDigit = false := by
  obtain ⟨tail, rfl | rfl⟩ := h
  · exact ⟨rfl, rfl, rfl⟩
  · exact ⟨rfl, rfl, rfl⟩

theorem takeWhile_digits {digits : Bytes} (all : ∀ c ∈ digits, isDigit c = true)
    (ends : rest.head?.any isAsciiDigit = false) :
    (widen digits ++ rest).takeWhile isAsciiDigit = widen digits ∧
      (widen digits ++ rest).dropWhile isAsciiDigit = rest := by
  have hin : ∀ c ∈ widen digits, isAsciiDigit c = true := by
    intro c member
    obtain ⟨octet, isOctet, rfl⟩ := List.mem_map.mp member
    exact all octet isOctet
  rw [List.takeWhile_append_of_pos hin, List.dropWhile_append_of_pos hin]
  cases rest with
  | nil => simp
  | cons char rest =>
    have other : isAsciiDigit char = false := by simpa using ends
    simp [other]

theorem parseLong_widen {digits : Bytes} (fits : valueFrom 0 digits < 2 ^ 63) :
    parseLong false (widen digits) = some (valueFrom 0 digits : Int) := by
  have value : ∀ start, (widen digits).foldl
      (fun value char => value * 10 + (char.toNat - 48)) start = valueFrom start digits := by
    intro start
    unfold widen valueFrom
    rw [List.foldl_map]
    simp only [UInt8.toNat_toUInt16]
  have long : Fits (valueFrom 0 digits : Int) := ⟨by omega, by omega⟩
  simp only [parseLong, value, Bool.false_eq_true, if_false]
  exact exact_eq_some.mpr ⟨long, rfl⟩

theorem numberDigits_decimal (n : Nat) (ends : Delimited rest) :
    numberDigits (widen (decimal n) ++ rest) = some (widen (decimal n), rest) := by
  obtain ⟨noDigit, -, noAscii⟩ := ends.head
  rcases Nat.eq_zero_or_pos n with rfl | positive
  · change numberDigits (48 :: rest) = some ([48], rest)
    simp only [numberDigits, if_true, noDigit, Bool.false_eq_true, if_false]
  · have digits := fun c => @isDigit_of_mem_decimal n c
    obtain ⟨taken, dropped⟩ := takeWhile_digits digits noAscii
    cases spelled : decimal n with
    | nil => exact absurd spelled (decimal_ne_nil n)
    | cons first others =>
      rw [spelled] at taken dropped digits
      have nonzero := decimal_head positive spelled
      have bounds := isDigit_iff.mp (digits first List.mem_cons_self)
      have notZero : first.toUInt16 ≠ 48 := fun same => nonzero (toUInt16_inj.mp same)
      have inRange : ¬(first.toUInt16 < 49 ∨ 57 < first.toUInt16) := by
        have notCode : first.toNat ≠ 48 := fun same => nonzero (UInt8.toNat_inj.mp same)
        simp only [UInt16.lt_iff_toNat_lt, UInt8.toNat_toUInt16, UInt16.reduceToNat]
        omega
      rw [widen_cons, List.cons_append] at *
      simp only [numberDigits, if_neg notZero, if_neg inRange, taken, dropped]

theorem parseInteger_decimal {n : Nat} (fits : n < 2 ^ 63) (ends : Delimited rest) :
    parseInteger (widen (decimal n) ++ rest) = some ((n : Int), rest) := by
  have notMinus : (widen (decimal n) ++ rest).head? ≠ some 45 := by
    cases spelled : decimal n with
    | nil => exact absurd spelled (decimal_ne_nil n)
    | cons first others =>
      have bounds := isDigit_iff.mp (isDigit_of_mem_decimal (spelled ▸ List.mem_cons_self))
      intro same
      have code := congrArg UInt16.toNat (Option.some.inj same)
      simp only [UInt8.toNat_toUInt16, UInt16.reduceToNat] at code
      omega
  have value := valueFrom_decimal n
  have long := @parseLong_widen (decimal n) (by rw [value]; exact fits)
  rw [value] at long
  unfold parseInteger
  simp only [notMinus, decide_false, Bool.false_eq_true, if_false, numberDigits_decimal n ends,
    ends.head.2.1, guard_true, long, Option.bind_eq_bind, Option.bind_some, Option.pure_def]

theorem parseValue_widen (plain : PlainMember member)
    (fits : ∀ n : Nat, member.2 = .number n → n < 2 ^ 63) (ends : Delimited rest) :
    parseValue (widen (scalarText member.2) ++ rest) = some (widenScalar member.2, rest) := by
  cases plain with
  | text key value =>
    have read := parseString_widen value rest
    rw [scalarText_text]
    rw [quote_plain value, widen_cons, List.cons_append] at *
    have quoted : UInt8.toUInt16 34 = 34 := rfl
    rw [quoted] at read ⊢
    simp only [parseValue, List.head?_cons, if_true, read, Option.map_some, widenScalar]
  | number value key =>
    have read := parseInteger_decimal (fits value rfl) ends
    cases spelled : decimal value with
    | nil => exact absurd spelled (decimal_ne_nil value)
    | cons first others =>
      have bounds := isDigit_iff.mp (isDigit_of_mem_decimal (spelled ▸ List.mem_cons_self))
      have code : ∀ other : UInt16, 57 < other.toNat ∨ other.toNat < 48 →
          first.toUInt16 ≠ other := by
        rintro other out rfl
        rw [UInt8.toNat_toUInt16] at out
        omega
      rw [scalarText_number]
      rw [spelled, widen_cons, List.cons_append] at read ⊢
      simp only [parseValue, List.head?_cons, code 34 (by decide), code 116 (by decide),
        code 102 (by decide), or_self, if_false, read, Option.map_some, widenScalar]
  | flag value key => cases value <;> rfl

theorem skipWhitespace_cons {char : UInt16} (mark : isWhitespace char = false)
    (rest : Units) : skipWhitespace (char :: rest) = char :: rest := by
  rw [skipWhitespace, List.dropWhile_cons_of_neg (by simp [mark])]

theorem skipWhitespace_delimited (h : Delimited rest) : skipWhitespace rest = rest := by
  obtain ⟨tail, rfl | rfl⟩ := h
  · exact skipWhitespace_cons (by decide) tail
  · exact skipWhitespace_cons (by decide) tail

theorem skipWhitespace_scalar (plain : PlainMember member) (rest : Units) :
    skipWhitespace (widen (scalarText member.2) ++ rest) = widen (scalarText member.2) ++ rest := by
  cases plain with
  | text _ value =>
    exact skipWhitespace_cons (by decide) _
  | number value _ =>
    rw [scalarText_number]
    cases spelled : decimal value with
    | nil => exact absurd spelled (decimal_ne_nil value)
    | cons first others =>
      have bounds := isDigit_iff.mp (isDigit_of_mem_decimal (spelled ▸ List.mem_cons_self))
      apply skipWhitespace_cons
      simp only [isWhitespace, UInt8.toNat_toUInt16, Bool.or_eq_false_iff, beq_eq_false_iff_ne,
        decide_eq_false_iff_not]
      omega
  | flag value _ =>
    cases value
    · exact skipWhitespace_cons (by decide) _
    · exact skipWhitespace_cons (by decide) _

theorem parseMember_widen (plain : PlainMember member)
    (fits : ∀ n : Nat, member.2 = .number n → n < 2 ^ 63) (ends : Delimited rest) :
    parseMember (widen (memberText member) ++ rest) =
      some (widen member.1, widenScalar member.2, rest) := by
  have text : widen (memberText member) ++ rest =
      widen (quote member.1) ++ 58 :: (widen (scalarText member.2) ++ rest) := by
    rw [memberText]
    simp
  have start : skipWhitespace (widen (quote member.1) ++ 58 ::
      (widen (scalarText member.2) ++ rest)) =
      widen (quote member.1) ++ 58 :: (widen (scalarText member.2) ++ rest) := by
    exact skipWhitespace_cons (by decide) _
  have colon : skipWhitespace (58 :: (widen (scalarText member.2) ++ rest)) =
      58 :: (widen (scalarText member.2) ++ rest) := skipWhitespace_cons (by decide) _
  rw [text]
  simp only [parseMember, start, parseString_widen plain.key, colon, require, if_true,
    skipWhitespace_scalar plain, parseValue_widen plain fits ends, skipWhitespace_delimited ends,
    Option.bind_eq_bind, Option.bind_some, Option.pure_def]

theorem put_fresh {map : JsonMap} {key : Units} {value : JsonValue} (fresh : key ∉ map.keys) :
    ∃ next, map.put key value = some next ∧ next.entries = map.entries ++ [(key, value)] := by
  unfold JsonMap.put
  rw [dif_pos fresh]
  exact ⟨_, rfl, rfl⟩

theorem delimited_tail (mems : Members) : Delimited (widen (tailText mems ++ [125])) := by
  cases mems with
  | nil => exact ⟨[], .inr rfl⟩
  | cons member mems => exact ⟨_, .inl rfl⟩

theorem parseMembers_widen {mems : Members}
    (plain : ∀ entry ∈ member :: mems, PlainMember entry)
    (fits : ∀ entry ∈ member :: mems, ∀ n : Nat, entry.2 = .number n → n < 2 ^ 63)
    {values : JsonMap}
    (fresh : (values.keys ++ (member :: mems).map (fun entry => widen entry.1)).Nodup)
    {bound : Nat} (enough : mems.length < bound) :
    ∃ result, parseMembers bound values
        (widen (memberText member ++ (tailText mems ++ [125]))) = some result ∧
      result.entries = values.entries ++ (member :: mems).map widenEntry := by
  induction mems generalizing member values bound with
  | nil =>
    obtain ⟨bound, rfl⟩ := Nat.exists_eq_succ_of_ne_zero (Nat.ne_of_gt enough)
    have isFresh : widen member.1 ∉ values.keys := by
      intro old
      exact (List.nodup_append.mp fresh).2.2 _ old _ List.mem_cons_self rfl
    obtain ⟨next, added, entries⟩ := @put_fresh _ _ (widenScalar member.2) isFresh
    refine ⟨next, ?_, by rw [entries]; rfl⟩
    have read := parseMember_widen (plain member List.mem_cons_self)
      (fits member List.mem_cons_self) (delimited_tail [])
    rw [widen_append]
    simp only [parseMembers, read, added, Option.bind_eq_bind, Option.bind_some]
    rfl
  | cons snd mems ih =>
    obtain ⟨bound, rfl⟩ := Nat.exists_eq_succ_of_ne_zero (Nat.ne_of_gt (Nat.zero_lt_of_lt enough))
    have isFresh : widen member.1 ∉ values.keys := by
      intro old
      exact (List.nodup_append.mp fresh).2.2 _ old _ List.mem_cons_self rfl
    obtain ⟨next, added, entries⟩ := @put_fresh _ _ (widenScalar member.2) isFresh
    have keys : next.keys = values.keys ++ [widen member.1] := by
      unfold JsonMap.keys
      rw [entries, List.map_append]
      rfl
    obtain ⟨result, parsed, isResult⟩ := @ih snd
      (fun entry isEntry => plain entry (List.mem_cons_of_mem _ isEntry))
      (fun entry isEntry => fits entry (List.mem_cons_of_mem _ isEntry)) next
      (by rw [keys, List.append_assoc]; exact fresh) bound (by simpa using enough)
    refine ⟨result, ?_, by rw [isResult, entries, List.append_assoc]; rfl⟩
    have read := parseMember_widen (plain member List.mem_cons_self)
      (fits member List.mem_cons_self) (delimited_tail (snd :: mems))
    have tail : widen (tailText (snd :: mems) ++ [125]) =
        44 :: widen (memberText snd ++ (tailText mems ++ [125])) := by
      simp [tailText]
    rw [tail] at read
    rw [widen_append, tail]
    simp only [parseMembers, read, added, Option.bind_eq_bind, Option.bind_some]
    exact parsed

/-- The parser reads an object without escapes as it was written. -/
theorem parse_widen {mems : Members} (plain : ∀ entry ∈ mems, PlainMember entry)
    (fits : ∀ entry ∈ mems, ∀ n : Nat, entry.2 = .number n → n < 2 ^ 63)
    (dist : (mems.map Prod.fst).Nodup) :
    ∃ result, parse (widen (render mems)) = some result ∧
      result.entries = mems.map widenEntry := by
  cases mems with
  | nil => exact ⟨{}, rfl, rfl⟩
  | cons member mems =>
    have fresh : (({} : JsonMap).keys ++
        (member :: mems).map (fun entry => widen entry.1)).Nodup := by
      have injective := dist.map widen_injective
      rw [List.map_map] at injective
      exact injective
    obtain ⟨result, parsed, isResult⟩ := parseMembers_widen plain fits fresh
      (show mems.length < (widen (memberText member ++
        (tailText mems ++ [125]))).length + 1 by
        have few : mems.length ≤ (tailText mems).length := length_tailText_ge mems
        simp only [length_widen, List.length_append]
        omega)
    refine ⟨result, ?_, isResult⟩
    have opened : widen (render (member :: mems)) =
        123 :: widen (memberText member ++ (tailText mems ++ [125])) := by
      rfl
    have opening : require 123 (123 :: widen (memberText member ++ (tailText mems ++ [125]))) =
        some (widen (memberText member ++ (tailText mems ++ [125]))) := rfl
    rw [opened, parse, skipWhitespace_cons (by decide), opening]
    exact parsed

/-- The integers of an object are 64-bit. -/
def LongsFit (map : JsonMap) : Prop :=
  ∀ entry ∈ map.entries, ∀ value, entry.2 = .long value → Fits value

theorem parseInteger_fits {source : Units} {value : Int}
    (h : parseInteger source = some (value, rest)) : Fits value := by
  simp only [parseInteger, Option.bind_eq_bind, Option.bind_eq_some_iff, Option.pure_def,
    Option.some.injEq, Prod.mk.injEq, Prod.exists, parseLong] at h
  obtain ⟨_, _, _, _, _, _, read, rfl, -⟩ := h
  obtain ⟨fits, rfl⟩ := exact_eq_some.mp read
  exact fits

theorem parseValue_fits {source : Units} {value : Int}
    (h : parseValue source = some (.long value, rest)) : Fits value := by
  unfold parseValue at h
  split at h
  · cases h
  · split at h
    · simp at h
    · split at h
      · simp at h
      · obtain ⟨⟨read, after⟩, parsed, same⟩ := Option.map_eq_some_iff.mp h
        cases same
        exact parseInteger_fits parsed

theorem parseMember_fits {source key : Units} {value : Int}
    (h : parseMember source = some (key, .long value, rest)) : Fits value := by
  simp only [parseMember, Option.bind_eq_bind, Option.bind_eq_some_iff, Option.pure_def,
    Option.some.injEq, Prod.mk.injEq, Prod.exists] at h
  obtain ⟨_, _, _, _, _, _, _, parsed, _, rfl, _⟩ := h
  exact parseValue_fits parsed

theorem longsFit_put {map next : JsonMap} {key : Units} {value : JsonValue} (fit : LongsFit map)
    (fits : ∀ number, value = .long number → Fits number) (h : map.put key value = some next) :
    LongsFit next := by
  unfold JsonMap.put at h
  split at h
  · cases h
    intro entry member
    cases List.mem_append.mp member with
    | inl old => exact fit entry old
    | inr new =>
      rw [List.mem_singleton.mp new]
      exact fits
  · cases h

theorem parseMembers_fits {bound : Nat} {values result : JsonMap} {source : Units}
    (fit : LongsFit values) (h : parseMembers bound values source = some result) :
    LongsFit result := by
  induction bound generalizing values source with
  | zero => cases h
  | succ bound ih =>
    simp only [parseMembers, Option.bind_eq_bind, Option.bind_eq_some_iff, Prod.exists] at h
    obtain ⟨key, value, rest, member, next, added, h⟩ := h
    have nextFit : LongsFit next := by
      refine longsFit_put fit ?_ added
      rintro number rfl
      exact parseMember_fits member
    split at h
    · obtain ⟨_, _, last⟩ := Option.bind_eq_some_iff.mp h
      cases last
      exact nextFit
    · obtain ⟨_, _, more⟩ := Option.bind_eq_some_iff.mp h
      exact ih nextFit more

theorem parse_fits {source : Units} {result : JsonMap} (h : parse source = some result) :
    LongsFit result := by
  have empty : LongsFit {} := by
    intro entry member
    cases member
  simp only [parse, Option.bind_eq_bind, Option.bind_eq_some_iff] at h
  obtain ⟨rest, -, h⟩ := h
  split at h
  · obtain ⟨_, _, last⟩ := Option.bind_eq_some_iff.mp h
    cases last
    exact empty
  · exact parseMembers_fits empty h

end JsonObjectParser

end VisionForge.PhoneLease
