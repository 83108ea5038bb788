import VisionForge.Lib.Ascii

/-! # UTF-16 text and its UTF-8 form

A text of a managed runtime is a list of 16-bit units. Writing it as UTF-8 replaces
a surrogate without its partner by a question mark; reading UTF-8 fails on every
malformed sequence. ASCII is the same in both forms.
-/

namespace VisionForge.Lib.Utf

open Ascii

abbrev Units := List UInt16

instance : LawfulBEq Units := List.instLawfulBEq

def widen (octets : Bytes) : Units := octets.map UInt8.toUInt16

def text (literal : String) : Units := widen (ascii literal)

def isHighSurrogate (unit : UInt16) : Bool := 0xd800 ≤ unit && unit < 0xdc00

def isLowSurrogate (unit : UInt16) : Bool := 0xdc00 ≤ unit && unit < 0xe000

/-- A continuation octet that carries the low six bits of a code point. -/
def continuation (bits : Nat) : UInt8 := UInt8.ofNat (0x80 + bits % 64)

/-- The code point of a unit that is not part of a pair. -/
def loneCodePoint (unit : UInt16) : Nat :=
  if isHighSurrogate unit || isLowSurrogate unit then 63 else unit.toNat

def codePoints : Units → List Nat
  | [] => []
  | [unit] => [loneCodePoint unit]
  | high :: low :: rest =>
    if isHighSurrogate high && isLowSurrogate low then
      (0x10000 + (high.toNat - 0xd800) * 1024 + (low.toNat - 0xdc00)) :: codePoints rest
    else loneCodePoint high :: codePoints (low :: rest)

def encodeCodePoint (point : Nat) : Bytes :=
  if point < 0x80 then [UInt8.ofNat point]
  else if point < 0x800 then [UInt8.ofNat (0xc0 + point / 64), continuation point]
  else if point < 0x10000 then
    [UInt8.ofNat (0xe0 + point / 4096), continuation (point / 64), continuation point]
  else
    [UInt8.ofNat (0xf0 + point / 262144), continuation (point / 4096), continuation (point / 64),
      continuation point]

def encodeUtf8 (units : Units) : Bytes := (codePoints units).flatMap encodeCodePoint

/-- ASCII octets, with a question mark for every other unit. -/
def encodeAscii (units : Units) : Bytes :=
  units.map (fun unit => if unit < 0x80 then unit.toUInt8 else 63)

def isContinuation (octet : UInt8) : Bool := 0x80 ≤ octet && octet < 0xc0

def decodeUtf8 : Bytes → Option Units
  | [] => some []
  | lead :: rest =>
    let code := lead.toNat
    if code < 0x80 then (decodeUtf8 rest).map (lead.toUInt16 :: ·)
    else if code < 0xc2 then none
    else if code < 0xe0 then
      match rest with
      | second :: after =>
        if isContinuation second then
          (decodeUtf8 after).map (UInt16.ofNat ((code - 0xc0) * 64 + second.toNat % 64) :: ·)
        else none
      | _ => none
    else if code < 0xf0 then
      match rest with
      | second :: third :: after =>
        let point := (code - 0xe0) * 4096 + second.toNat % 64 * 64 + third.toNat % 64
        if isContinuation second && isContinuation third && decide (0x800 ≤ point) &&
            !decide (0xd800 ≤ point ∧ point < 0xe000) then
          (decodeUtf8 after).map (UInt16.ofNat point :: ·)
        else none
      | _ => none
    else
      match rest with
      | second :: third :: fourth :: after =>
        let point := (code - 0xf0) * 262144 + second.toNat % 64 * 4096 +
          third.toNat % 64 * 64 + fourth.toNat % 64
        if isContinuation second && isContinuation third && isContinuation fourth &&
            decide (0x10000 ≤ point) && decide (point < 0x110000) then
          (decodeUtf8 after).map (fun units =>
            UInt16.ofNat (0xd800 + (point - 0x10000) / 1024) ::
              UInt16.ofNat (0xdc00 + (point - 0x10000) % 1024) :: units)
        else none
      | _ => none

def IsAscii (octets : Bytes) : Prop := ∀ octet ∈ octets, octet.toNat < 0x80

instance (octets : Bytes) : Decidable (IsAscii octets) :=
  List.decidableBAll (fun octet : UInt8 => octet.toNat < 0x80) octets

variable {octets : Bytes}

theorem isAscii_cons {octet : UInt8} :
    IsAscii (octet :: octets) ↔ octet.toNat < 0x80 ∧ IsAscii octets := List.forall_mem_cons

theorem isAscii_append {first snd : Bytes} :
    IsAscii (first ++ snd) ↔ IsAscii first ∧ IsAscii snd := List.forall_mem_append

@[simp] theorem widen_nil : widen [] = [] := rfl

@[simp] theorem widen_cons (octet : UInt8) (octets : Bytes) :
    widen (octet :: octets) = octet.toUInt16 :: widen octets := rfl

@[simp] theorem widen_append (first snd : Bytes) :
    widen (first ++ snd) = widen first ++ widen snd := List.map_append

@[simp] theorem length_widen (octets : Bytes) : (widen octets).length = octets.length :=
  List.length_map _

theorem toUInt16_inj {a b : UInt8} : a.toUInt16 = b.toUInt16 ↔ a = b := by
  rw [← UInt16.toNat_inj, UInt8.toNat_toUInt16, UInt8.toNat_toUInt16, UInt8.toNat_inj]

theorem widen_injective : Function.Injective widen :=
  List.map_injective_iff.mpr (fun _ _ => toUInt16_inj.mp)

theorem loneCodePoint_widen {octet : UInt8} (small : octet.toNat < 0x80) :
    loneCodePoint octet.toUInt16 = octet.toNat ∧ isHighSurrogate octet.toUInt16 = false := by
  have noHigh : isHighSurrogate octet.toUInt16 = false := by
    simp only [isHighSurrogate, Bool.and_eq_false_iff, decide_eq_false_iff_not,
      UInt16.le_iff_toNat_le, UInt8.toNat_toUInt16]
    exact .inl (by simp only [UInt16.reduceToNat]; omega)
  have noLow : isLowSurrogate octet.toUInt16 = false := by
    simp only [isLowSurrogate, Bool.and_eq_false_iff, decide_eq_false_iff_not,
      UInt16.le_iff_toNat_le, UInt8.toNat_toUInt16]
    exact .inl (by simp only [UInt16.reduceToNat]; omega)
  unfold loneCodePoint
  rw [noHigh, noLow]
  exact ⟨UInt8.toNat_toUInt16 octet, rfl⟩

theorem codePoints_widen (h : IsAscii octets) :
    codePoints (widen octets) = octets.map UInt8.toNat := by
  induction octets with
  | nil => rfl
  | cons octet octets ih =>
    obtain ⟨point, noHigh⟩ := loneCodePoint_widen (h octet List.mem_cons_self)
    have rest := ih (fun other mem => h other (List.mem_cons_of_mem octet mem))
    cases octets with
    | nil => simp [codePoints, point]
    | cons next octets =>
      rw [widen_cons, widen_cons] at *
      rw [codePoints, noHigh, Bool.false_and, if_neg Bool.false_ne_true, rest, point]
      rfl

theorem encodeUtf8_widen (h : IsAscii octets) : encodeUtf8 (widen octets) = octets := by
  rw [encodeUtf8, codePoints_widen h]
  induction octets with
  | nil => rfl
  | cons octet octets ih =>
    have small := h octet List.mem_cons_self
    rw [List.map_cons, List.flatMap_cons, encodeCodePoint, if_pos small, UInt8.ofNat_toNat,
      ih (fun other mem => h other (List.mem_cons_of_mem octet mem))]
    rfl

theorem encodeAscii_widen (h : IsAscii octets) : encodeAscii (widen octets) = octets := by
  induction octets with
  | nil => rfl
  | cons octet octets ih =>
    have small : octet.toUInt16 < 0x80 := by
      exact h octet List.mem_cons_self
    have rest := ih (fun other mem => h other (List.mem_cons_of_mem octet mem))
    simp only [encodeAscii, widen_cons, List.map_cons, if_pos small] at rest ⊢
    rw [rest, UInt8.toUInt8_toUInt16]

theorem decodeUtf8_ascii (h : IsAscii octets) : decodeUtf8 octets = some (widen octets) := by
  induction octets with
  | nil => rfl
  | cons octet octets ih =>
    have small := h octet List.mem_cons_self
    unfold decodeUtf8
    rw [if_pos small, ih (fun other mem => h other (List.mem_cons_of_mem octet mem))]
    rfl

theorem toNat_continuation (bits : Nat) : 0x80 ≤ (continuation bits).toNat := by
  simp only [continuation, UInt8.toNat_ofNat']
  omega

theorem lt_of_encodeCodePoint {point : Nat} (h : IsAscii (encodeCodePoint point)) :
    point < 0x80 := by
  by_contra large
  have last : continuation point ∈ encodeCodePoint point := by
    unfold encodeCodePoint
    rw [if_neg large]
    split
    · simp
    split <;> simp
  have small := h _ last
  have big := toNat_continuation point
  omega

theorem codePoints_small {units : Units} (small : IsAscii (encodeUtf8 units))
    (noMark : (63 : UInt8) ∉ encodeUtf8 units) :
    ∀ point ∈ codePoints units, point < 0x80 ∧ point ≠ 63 := by
  intro point mem
  have part : ∀ octet ∈ encodeCodePoint point, octet ∈ encodeUtf8 units :=
    fun octet isOctet => List.mem_flatMap.mpr ⟨point, mem, isOctet⟩
  have lt := lt_of_encodeCodePoint (fun octet isOctet => small octet (part octet isOctet))
  refine ⟨lt, ?_⟩
  rintro rfl
  exact noMark (part 63 (by decide))

theorem eq_toUInt16_of_lone {unit : UInt16} (small : loneCodePoint unit < 0x80)
    (noMark : loneCodePoint unit ≠ 63) : unit = (UInt8.ofNat (loneCodePoint unit)).toUInt16 := by
  unfold loneCodePoint at *
  split
  · rename_i surrogate
    rw [if_pos surrogate] at noMark
    exact absurd rfl noMark
  · rename_i plain
    rw [if_neg plain] at small
    apply UInt16.toNat_inj.mp
    rw [UInt8.toNat_toUInt16, UInt8.toNat_ofNat', Nat.mod_eq_of_lt (by omega)]

theorem eq_widen_of_codePoints {units : Units}
    (h : ∀ point ∈ codePoints units, point < 0x80 ∧ point ≠ 63) :
    units = widen ((codePoints units).map UInt8.ofNat) := by
  induction units using codePoints.induct with
  | case1 => rfl
  | case2 unit =>
    have lone := h (loneCodePoint unit) (by simp [codePoints])
    rw [codePoints, List.map_singleton, widen_cons, ← eq_toUInt16_of_lone lone.1 lone.2]
    rfl
  | case3 high low rest pair ih =>
    have large := (h _ (by rw [codePoints, if_pos pair]; exact List.mem_cons_self)).1
    omega
  | case4 high low rest single ih =>
    rw [codePoints, if_neg single] at h ⊢
    have lone := h (loneCodePoint high) List.mem_cons_self
    rw [List.map_cons, widen_cons, ← eq_toUInt16_of_lone lone.1 lone.2,
      ← ih (fun point mem => h point (List.mem_cons_of_mem _ mem))]

/-- Text whose UTF-8 form is ASCII without a question mark is ASCII itself. -/
theorem eq_widen_of_encodeUtf8 {units : Units} (small : IsAscii (encodeUtf8 units))
    (noMark : (63 : UInt8) ∉ encodeUtf8 units) : units = widen (encodeUtf8 units) := by
  have points := codePoints_small small noMark
  have same := eq_widen_of_codePoints points
  have ascii : IsAscii ((codePoints units).map UInt8.ofNat) := by
    intro octet mem
    obtain ⟨point, isPoint, rfl⟩ := List.mem_map.mp mem
    exact lt_of_le_of_lt (Nat.mod_le _ _) (points point isPoint).1
  have enc := encodeUtf8_widen ascii
  rw [← same] at enc
  rw [enc]
  exact same

def utf8 (text : List Char) : Bytes := text.flatMap String.utf8EncodeChar

def utf16Units (character : Char) : Units :=
  if character.toNat < 0x10000 then [UInt16.ofNat character.toNat]
  else
    [UInt16.ofNat (0xd800 + (character.toNat - 0x10000) / 1024),
      UInt16.ofNat (0xdc00 + (character.toNat - 0x10000) % 1024)]

def utf16 (text : List Char) : Units := text.flatMap utf16Units

theorem utf8_injective : Function.Injective utf8 := by
  intro first snd same
  have arrays : first.utf8Encode = snd.utf8Encode := congrArg List.toByteArray same
  have decoded := congrArg ByteArray.utf8Decode? arrays
  rw [List.utf8Decode?_utf8Encode, List.utf8Decode?_utf8Encode, Option.some.injEq] at decoded
  exact List.toArray_inj decoded

theorem utf8EncodeChar_small {c : Char} (small : c.toNat < 0x80) :
    String.utf8EncodeChar c = [UInt8.ofNat c.toNat] := by
  exact if_pos (Nat.le_of_lt_succ small)

/-- A character outside of ASCII starts with an octet outside of ASCII. -/
theorem utf8EncodeChar_large {c : Char} (large : ¬ c.toNat < 0x80) :
    ∃ first others, String.utf8EncodeChar c = first :: others ∧ 0x80 ≤ first.toNat := by
  have above : ¬ c.val.toNat ≤ 0x7f := fun le => large (Nat.lt_succ_of_le le)
  unfold String.utf8EncodeChar
  simp only [if_neg above]
  split
  · refine ⟨_, _, rfl, ?_⟩
    rw [UInt8.toNat_ofNat']
    omega
  split
  · refine ⟨_, _, rfl, ?_⟩
    rw [UInt8.toNat_ofNat']
    omega
  · refine ⟨_, _, rfl, ?_⟩
    rw [UInt8.toNat_ofNat']
    omega

theorem utf16Units_small {c : Char} (small : c.toNat < 0x80) :
    utf16Units c = [(UInt8.ofNat c.toNat).toUInt16] := by
  rw [utf16Units, if_pos (by omega)]
  congr 1
  apply UInt16.toNat_inj.mp
  rw [UInt8.toNat_toUInt16, UInt16.toNat_ofNat', UInt8.toNat_ofNat']
  omega

theorem utf16Units_large {c : Char} (large : ¬ c.toNat < 0x80) :
    ∃ first others, utf16Units c = first :: others ∧ 0x80 ≤ first.toNat := by
  have top : c.toNat < 0x110000 := by
    have valid := c.valid
    have same : c.toNat = c.val.toNat := rfl
    omega
  unfold utf16Units
  split
  · refine ⟨_, _, rfl, ?_⟩
    rw [UInt16.toNat_ofNat']
    omega
  · refine ⟨_, _, rfl, ?_⟩
    rw [UInt16.toNat_ofNat']
    omega

theorem utf16_of_ascii {text : List Char} (h : IsAscii (utf8 text)) :
    utf16 text = widen (utf8 text) := by
  induction text with
  | nil => rfl
  | cons c text ih =>
    rw [utf8, List.flatMap_cons, isAscii_append] at h
    by_cases small : c.toNat < 0x80
    · have rest := ih h.2
      rw [utf16, List.flatMap_cons, utf16Units_small small, utf8, List.flatMap_cons,
        utf8EncodeChar_small small, widen_append]
      exact congrArg _ rest
    · obtain ⟨first, others, isForm, out⟩ := utf8EncodeChar_large small
      have hin := h.1 first (by rw [isForm]; exact List.mem_cons_self)
      omega

theorem utf8_of_ascii {text : List Char} (h : IsAscii octets) (units : utf16 text = widen octets) :
    utf8 text = octets := by
  induction text generalizing octets with
  | nil =>
    cases octets with
    | nil => rfl
    | cons => cases units
  | cons c text ih =>
    rw [utf16, List.flatMap_cons] at units
    by_cases small : c.toNat < 0x80
    · rw [utf16Units_small small] at units
      cases octets with
      | nil => cases units
      | cons octet octets =>
        obtain ⟨first, rest⟩ := List.cons.inj units
        rw [utf8, List.flatMap_cons, utf8EncodeChar_small small, toUInt16_inj.mp first]
        exact congrArg _ (ih (isAscii_cons.mp h).2 rest)
    · obtain ⟨first, others, isForm, out⟩ := utf16Units_large small
      rw [isForm] at units
      cases octets with
      | nil => cases units
      | cons octet octets =>
        have same := congrArg UInt16.toNat (List.cons.inj units).1
        rw [UInt8.toNat_toUInt16] at same
        have hin := (isAscii_cons.mp h).1
        omega

end VisionForge.Lib.Utf
