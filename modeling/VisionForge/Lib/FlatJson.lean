import Mathlib.Data.List.Lex
import Mathlib.Data.List.Pairwise
import Mathlib.Data.List.Sort
import VisionForge.Lib.Decimal
import VisionForge.Lib.Hex
import VisionForge.Lib.Utf

/-! # Flat JSON objects

An object whose members are texts, integers and flags, written without
whitespace. The canonical form sorts its members by key. Texts of printable ASCII
without quote and backslash are written as they stand.
-/

namespace VisionForge.Lib.FlatJson

open Ascii Decimal Hex Utf

inductive Scalar where
  | text (value : Bytes)
  | number (value : Int)
  | flag (value : Bool)
  deriving DecidableEq

abbrev Members := List (Bytes × Scalar)

def escape (char : UInt8) : Bytes :=
  if char = 34 then [92, 34]
  else if char = 92 then [92, 92]
  else if char = 8 then [92, 98]
  else if char = 12 then [92, 102]
  else if char = 10 then [92, 110]
  else if char = 13 then [92, 114]
  else if char = 9 then [92, 116]
  else if char < 32 then
    [92, 117, 48, 48, hexDigit (char.toNat / 16), hexDigit (char.toNat % 16)]
  else [char]

def quote (value : Bytes) : Bytes := 34 :: (value.flatMap escape ++ [34])

def numeral : Int → Bytes
  | .ofNat n => decimal n
  | .negSucc n => 45 :: decimal (n + 1)

def flagText (value : Bool) : Bytes := if value then ascii "true" else ascii "false"

def scalarText : Scalar → Bytes
  | .text value => quote value
  | .number value => numeral value
  | .flag value => flagText value

def memberText (member : Bytes × Scalar) : Bytes :=
  quote member.1 ++ 58 :: scalarText member.2

@[simp] theorem scalarText_text (value : Bytes) : scalarText (.text value) = quote value := rfl

@[simp] theorem scalarText_number (n : Nat) : scalarText (.number n) = decimal n := rfl

@[simp] theorem scalarText_flag (value : Bool) : scalarText (.flag value) = flagText value := rfl

def tailText (members : Members) : Bytes :=
  members.flatMap (fun member => 44 :: memberText member)

def render : Members → Bytes
  | [] => [123, 125]
  | member :: members => 123 :: (memberText member ++ (tailText members ++ [125]))

theorem length_tailText_ge (mems : Members) : mems.length ≤ (tailText mems).length := by
  induction mems with
  | nil => exact le_rfl
  | cons member mems ih =>
    simp only [tailText, List.flatMap_cons, List.length_cons, List.length_append] at ih ⊢
    omega

theorem length_tailText_le {bound : Nat} {mems : Members}
    (short : ∀ member ∈ mems, (memberText member).length ≤ bound) :
    (tailText mems).length ≤ (bound + 1) * mems.length := by
  induction mems with
  | nil => exact Nat.zero_le _
  | cons member mems ih =>
    have first := short member List.mem_cons_self
    have rest := ih (fun other later => short other (List.mem_cons_of_mem _ later))
    simp only [tailText, List.flatMap_cons, List.length_cons, List.length_append,
      Nat.mul_succ] at rest ⊢
    omega

theorem length_render_le {bound : Nat} {mems : Members}
    (short : ∀ member ∈ mems, (memberText member).length ≤ bound) :
    (render mems).length ≤ (bound + 1) * mems.length + 2 := by
  cases mems with
  | nil => exact le_rfl
  | cons member mems =>
    have first := short member List.mem_cons_self
    have rest := length_tailText_le
      (fun other later => short other (List.mem_cons_of_mem _ later))
    simp only [render, List.length_cons, List.length_append, List.length_nil,
      Nat.mul_succ] at rest ⊢
    omega

theorem render_ne_nil (mems : Members) : render mems ≠ [] := by
  cases mems <;> simp [render]

section

universe u v

variable {κ : Type u} {ν : Type v} (rank : κ → List Nat)

/-- Entries in increasing order of their keys' ranks. -/
def sortEntries (entries : List (κ × ν)) : List (κ × ν) :=
  entries.insertionSort (fun a b => rank a.1 ≤ rank b.1)

variable {rank} {entries : List (κ × ν)} {keys : List κ}

theorem pairwise_sortEntries (entries : List (κ × ν)) :
    (sortEntries rank entries).Pairwise (fun a b => rank a.1 ≤ rank b.1) := by
  exact List.pairwise_insertionSort _ entries

theorem sortEntries_keys (injective : Function.Injective rank)
    (dist : (entries.map Prod.fst).Nodup) (sorted : keys.Pairwise (fun a b => rank a < rank b))
    (same : ∀ key, key ∈ entries.map Prod.fst ↔ key ∈ keys) :
    (sortEntries rank entries).map Prod.fst = keys := by
  have perm : (sortEntries rank entries).Perm entries := List.perm_insertionSort _ _
  have ordered : ((sortEntries rank entries).map Prod.fst).Pairwise
      (fun a b => rank a ≤ rank b) := List.pairwise_map.mpr (pairwise_sortEntries entries)
  have distinctKeys : keys.Nodup :=
    sorted.imp (fun less equal => absurd less (by rw [equal]; exact lt_irrefl _))
  refine List.Perm.eq_of_pairwise (fun a b _ _ h₁ h₂ => injective (le_antisymm h₁ h₂)) ordered
    (sorted.imp le_of_lt) ?_
  have samePerm : (entries.map Prod.fst).Perm keys :=
    (List.perm_ext_iff_of_nodup dist distinctKeys).mpr same
  exact (perm.map Prod.fst).trans samePerm

/-- Sorting entries with known keys lists the keys in order with their values. -/
theorem sortEntries_eq (injective : Function.Injective rank)
    (dist : (entries.map Prod.fst).Nodup) (sorted : keys.Pairwise (fun a b => rank a < rank b))
    (same : ∀ key, key ∈ entries.map Prod.fst ↔ key ∈ keys) (value : κ → ν)
    (holds : ∀ entry ∈ entries, entry.2 = value entry.1) :
    sortEntries rank entries = keys.map (fun key => (key, value key)) := by
  have perm : (sortEntries rank entries).Perm entries := List.perm_insertionSort _ _
  rw [← sortEntries_keys injective dist sorted same, List.map_map]
  conv_lhs => rw [← List.map_id (sortEntries rank entries)]
  apply List.map_congr_left
  intro entry member
  have value_eq := holds entry (perm.mem_iff.mp member)
  simp only [id_eq, Function.comp_apply, ← value_eq]

theorem sortEntries_of_perm {increasing : List (κ × ν)} (perm : entries.Perm increasing)
    (sorted : (increasing.map Prod.fst).Pairwise (fun a b => rank a < rank b)) :
    sortEntries rank entries = increasing := by
  rw [List.pairwise_map] at sorted
  have sortedPerm : (sortEntries rank entries).Perm increasing :=
    (List.perm_insertionSort _ _).trans perm
  refine List.Perm.eq_of_pairwise ?_ (pairwise_sortEntries entries) (sorted.imp le_of_lt) sortedPerm
  intro a b memberA memberB le ge
  by_contra different
  have apart : rank a.1 ≠ rank b.1 := by
    have dist : increasing.Pairwise (fun a b => rank a.1 ≠ rank b.1) := sorted.imp ne_of_lt
    have symmetric : Std.Symm (fun a b : κ × ν => rank a.1 ≠ rank b.1) := ⟨fun _ _ h => h.symm⟩
    exact dist.forall (sortedPerm.mem_iff.mp memberA) memberB different
  exact apart (le_antisymm le ge)

theorem perm_of_positions {α : Type u} {l picked : List α} (d : α) (positions : List Nat)
    (all : positions.Perm (List.range l.length)) (h : picked = positions.map (l.getD · d)) :
    picked.Perm l := by
  have identity : (List.range l.length).map (l.getD · d) = l := by
    apply List.ext_getElem
    · simp
    · intro i hin _
      simp only [List.length_map, List.length_range] at hin
      simp [hin]
  rw [h]
  conv_rhs => rw [← identity]
  exact all.map _

end

def octetRank (key : Bytes) : List Nat := key.map UInt8.toNat

def canonical (members : Members) : Bytes := render (sortEntries octetRank members)

/-- Members in an order of their own are canonical once they are put in that of their keys. -/
theorem canonical_of_positions {mems sorted : Members} {keys : List Bytes} (positions : List Nat)
    (increasing : keys.Pairwise (fun a b => octetRank a < octetRank b))
    (isKeys : sorted.map Prod.fst = keys) (all : positions.Perm (List.range sorted.length))
    (picked : mems = positions.map (sorted.getD · ([], .flag false))) :
    canonical mems = render sorted := by
  rw [canonical, sortEntries_of_perm (perm_of_positions _ positions all picked)
    (isKeys ▸ increasing)]

theorem nodup_of_sorted {mems : Members}
    (sorted : (mems.map Prod.fst).Pairwise (fun a b => octetRank a < octetRank b)) :
    (mems.map Prod.fst).Nodup :=
  sorted.imp (fun less same => (ne_of_lt less) (congrArg octetRank same))

theorem canonical_of_sorted {mems : Members}
    (sorted : (mems.map Prod.fst).Pairwise (fun a b => octetRank a < octetRank b)) :
    canonical mems = render mems := by
  rw [canonical, sortEntries_of_perm (List.Perm.refl mems) sorted]

def isPlain (char : UInt8) : Bool :=
  32 ≤ char && char ≤ 126 && char != 34 && char != 92

def Plain (value : Bytes) : Prop := ∀ char ∈ value, isPlain char = true

instance (value : Bytes) : Decidable (Plain value) :=
  List.decidableBAll (fun char => isPlain char = true) value

variable {char : UInt8}

theorem escape_large (noQuote : char ≠ 34) (noBackslash : char ≠ 92)
    (large : ¬char < 32) : escape char = [char] := by
  have other (octet : UInt8) (small : octet < 32) : char ≠ octet := by
    rintro rfl
    exact large small
  unfold escape
  rw [if_neg noQuote, if_neg noBackslash, if_neg (other 8 (by decide)),
    if_neg (other 12 (by decide)), if_neg (other 10 (by decide)), if_neg (other 13 (by decide)),
    if_neg (other 9 (by decide)), if_neg large]

theorem escape_plain (h : isPlain char = true) : escape char = [char] := by
  simp only [isPlain, Bool.and_eq_true, decide_eq_true_eq, bne_iff_ne] at h
  obtain ⟨⟨⟨printable, -⟩, noQuote⟩, noBackslash⟩ := h
  exact escape_large noQuote noBackslash (UInt8.not_lt.mpr printable)

variable {value : Bytes}

theorem quote_plain (h : Plain value) : quote value = 34 :: (value ++ [34]) := by
  have flat : value.flatMap escape = value := by
    induction value with
    | nil => rfl
    | cons char rest ih =>
      rw [List.flatMap_cons, escape_plain (h char (by simp)), ih (fun c hc => h c (by simp [hc]))]
      rfl
  rw [quote, flat]

/-- A member that is written without an escape or a sign. -/
inductive PlainMember : Bytes × Scalar → Prop where
  | text {key value : Bytes} : Plain key → Plain value → PlainMember (key, .text value)
  | number {key : Bytes} (value : Nat) : Plain key → PlainMember (key, .number value)
  | flag {key : Bytes} (value : Bool) : Plain key → PlainMember (key, .flag value)

variable {member : Bytes × Scalar}

theorem PlainMember.key (h : PlainMember member) : Plain member.1 := by
  cases h with
  | text key _ => exact key
  | number _ key => exact key
  | flag _ key => exact key

theorem length_memberText_text {key : Bytes} (plainKey : Plain key) (plain : Plain value) :
    (memberText (key, .text value)).length = key.length + value.length + 5 := by
  simp only [memberText, scalarText_text, quote_plain plainKey, quote_plain plain,
    List.length_append, List.length_cons, List.length_nil]
  omega

theorem length_memberText_number {key : Bytes} {value digits : Nat} (plainKey : Plain key)
    (pos : 0 < digits) (fits : value < 10 ^ digits) :
    (memberText (key, .number value)).length ≤ key.length + digits + 3 := by
  have short := length_decimal_le pos fits
  simp only [memberText, scalarText_number, quote_plain plainKey, List.length_append,
    List.length_cons, List.length_nil]
  omega

theorem length_memberText_flag {key : Bytes} (value : Bool) (plainKey : Plain key) :
    (memberText (key, .flag value)).length ≤ key.length + 8 := by
  have short : (flagText value).length ≤ 5 := by cases value <;> decide
  simp only [memberText, scalarText_flag, quote_plain plainKey, List.length_append,
    List.length_cons, List.length_nil]
  omega

theorem plain_of_lowerHex {want : Nat} (h : isLowerHex value want = true) : Plain value := by
  simp only [isLowerHex, Bool.and_eq_true, List.all_eq_true] at h
  intro char member
  have hex := h.2 char member
  simp only [isLowerHexDigit, isPlain, Bool.or_eq_true, Bool.and_eq_true, decide_eq_true_eq,
    bne_iff_ne, ne_eq, UInt8.le_iff_toNat_le, ← UInt8.toNat_inj] at hex ⊢
  simp only [UInt8.reduceToNat] at hex ⊢
  omega

theorem plain_of_nonzeroHex {want : Nat} (h : isNonzeroLowerHex value want = true) : Plain value :=
  plain_of_lowerHex (isLowerHex_of_nonzero h)

theorem plain_bounds (h : isPlain char = true) :
    32 ≤ char.toNat ∧ char.toNat ≤ 126 ∧ char.toNat ≠ 34 ∧
      char.toNat ≠ 92 := by
  simp only [isPlain, Bool.and_eq_true, decide_eq_true_eq, bne_iff_ne, ne_eq,
    UInt8.le_iff_toNat_le, ← UInt8.toNat_inj, UInt8.reduceToNat] at h
  omega

theorem isAscii_of_plain (plain : Plain value) : IsAscii value := by
  intro octet member
  have bounds := plain_bounds (plain octet member)
  omega

def AsciiMember (member : Bytes × Scalar) : Prop :=
  IsAscii member.1 ∧ ∀ value, member.2 = .text value → IsAscii value

theorem isAscii_escape : ∀ value : Fin 256, value.val < 128 →
    IsAscii (escape (UInt8.ofNat value)) := by
  decide +kernel

theorem isAscii_quote (h : IsAscii value) : IsAscii (quote value) := by
  rw [quote, isAscii_cons, isAscii_append]
  refine ⟨by decide, ?_, by decide⟩
  intro octet member
  obtain ⟨char, isCharacter, isOctet⟩ := List.mem_flatMap.mp member
  have escaped := isAscii_escape ⟨char.toNat, char.toNat_lt⟩ (h char isCharacter)
  rw [UInt8.ofNat_toNat] at escaped
  exact escaped octet isOctet

theorem isAscii_decimal (n : Nat) : IsAscii (decimal n) := by
  intro octet member
  have bounds := isDigit_iff.mp (isDigit_of_mem_decimal member)
  omega

theorem isAscii_memberText (h : AsciiMember member) : IsAscii (memberText member) := by
  rw [memberText, isAscii_append, isAscii_cons]
  refine ⟨isAscii_quote h.1, by decide, ?_⟩
  cases value : member.2 with
  | text value' => exact isAscii_quote (h.2 value' value)
  | number number =>
    cases number with
    | ofNat n => exact isAscii_decimal n
    | negSucc n => exact isAscii_cons.mpr ⟨by decide, isAscii_decimal _⟩
  | flag flag => cases flag <;> decide

theorem isAscii_render {mems : Members} (h : ∀ member ∈ mems, AsciiMember member) :
    IsAscii (render mems) := by
  cases mems with
  | nil => decide
  | cons member mems =>
    rw [render, isAscii_cons, isAscii_append, isAscii_append]
    refine ⟨by decide, isAscii_memberText (h member List.mem_cons_self), ?_, by decide⟩
    intro octet isOctet
    obtain ⟨other, later, inText⟩ := List.mem_flatMap.mp isOctet
    have ascii := isAscii_memberText (h other (List.mem_cons_of_mem _ later))
    exact isAscii_cons.mpr ⟨by decide, ascii⟩ octet inText

theorem PlainMember.ascii (h : PlainMember member) : AsciiMember member := by
  refine ⟨isAscii_of_plain h.key, ?_⟩
  rintro value isText
  cases h with
  | text _ plain =>
    cases isText
    exact isAscii_of_plain plain
  | number => cases isText
  | flag => cases isText

def escapedOctets : Bytes := 34 :: 92 :: (List.range 32).map UInt8.ofNat

theorem mem_escapedOctets : char ∈ escapedOctets ↔ char = 34 ∨ char = 92 ∨ char < 32 := by
  rw [escapedOctets, List.mem_cons, List.mem_cons, List.mem_map]
  have small : (∃ n ∈ List.range 32, UInt8.ofNat n = char) ↔ char < 32 := by
    constructor
    · rintro ⟨n, inRange, rfl⟩
      rw [List.mem_range] at inRange
      exact lt_of_le_of_lt (Nat.mod_le n _) inRange
    · intro less
      exact ⟨char.toNat, List.mem_range.mpr less, UInt8.ofNat_toNat⟩
  rw [small]

theorem escape_unescaped (h : char ∉ escapedOctets) : escape char = [char] := by
  rw [mem_escapedOctets, not_or, not_or] at h
  exact escape_large h.1 h.2.1 h.2.2

theorem escape_escaped : ∀ char ∈ escapedOctets,
    (escape char).head? = some 92 ∧ 2 ≤ (escape char).length := by
  decide +kernel

theorem escape_apart : ∀ first ∈ escapedOctets, ∀ snd ∈ escapedOctets,
    (escape first).isPrefixOf (escape snd) = true → first = snd := by
  decide +kernel

/-- No written octet is the beginning of another one. -/
theorem eq_of_escape_begins {first second : UInt8} (h : escape first <+: escape second) :
    first = second := by
  by_cases escapedFirst : first ∈ escapedOctets
  · by_cases escapedSecond : second ∈ escapedOctets
    · exact escape_apart first escapedFirst second escapedSecond (List.isPrefixOf_iff_prefix.mpr h)
    · have long := (escape_escaped first escapedFirst).2
      have short := h.length_le
      rw [escape_unescaped escapedSecond, List.length_singleton] at short
      omega
  · rw [escape_unescaped escapedFirst] at h
    obtain ⟨rest, same⟩ := h
    by_cases escapedSecond : second ∈ escapedOctets
    · have head := (escape_escaped second escapedSecond).1
      rw [← same, List.singleton_append, List.head?_cons, Option.some.injEq] at head
      exact absurd (mem_escapedOctets.mpr (.inr (.inl head))) escapedFirst
    · rw [escape_unescaped escapedSecond, List.singleton_append] at same
      exact (List.cons.inj same).1

variable {rest rest' : Bytes}

theorem escape_append_inj {first second : UInt8}
    (same : escape first ++ rest = escape second ++ rest') : first = second ∧ rest = rest' := by
  have equal : first = second := by
    cases List.prefix_or_prefix_of_prefix ⟨rest, rfl⟩ ⟨rest', same.symm⟩ with
    | inl pre => exact eq_of_escape_begins pre
    | inr pre => exact (eq_of_escape_begins pre).symm
  subst equal
  exact ⟨rfl, List.append_cancel_left same⟩

theorem escape_ne_quote (char : UInt8) (rest rest' : Bytes) :
    escape char ++ rest ≠ 34 :: rest' := by
  intro same
  have head := congrArg List.head? same
  by_cases escaped : char ∈ escapedOctets
  · have first := (escape_escaped char escaped).1
    rw [List.head?_append, first] at head
    cases head
  · rw [escape_unescaped escaped] at head
    rw [List.singleton_append, List.head?_cons, List.head?_cons, Option.some.injEq] at head
    exact escaped (mem_escapedOctets.mpr (.inl head))

theorem quoted_append_inj {value' : Bytes}
    (same : value.flatMap escape ++ 34 :: rest = value'.flatMap escape ++ 34 :: rest') :
    value = value' ∧ rest = rest' := by
  induction value generalizing value' with
  | nil =>
    cases value' with
    | nil => exact ⟨rfl, (List.cons.inj same).2⟩
    | cons char value' =>
      rw [List.flatMap_cons, List.append_assoc] at same
      exact absurd same.symm (escape_ne_quote _ _ _)
  | cons char value ih =>
    cases value' with
    | nil =>
      rw [List.flatMap_cons, List.append_assoc] at same
      exact absurd same (escape_ne_quote _ _ _)
    | cons character' value' =>
      simp only [List.flatMap_cons, List.append_assoc] at same
      obtain ⟨rfl, later⟩ := escape_append_inj same
      obtain ⟨rfl, equal⟩ := ih later
      exact ⟨rfl, equal⟩

/-- A quoted text determines the text and where it ends. -/
theorem quote_append_inj {value' : Bytes} (same : quote value ++ rest = quote value' ++ rest') :
    value = value' ∧ rest = rest' := by
  simp only [quote, List.cons_append, List.append_assoc, List.nil_append, List.cons.injEq,
    true_and] at same
  exact quoted_append_inj same

theorem numeral_append_inj {n m : Int} (ends : EndsDigits rest) (ends' : EndsDigits rest')
    (same : numeral n ++ rest = numeral m ++ rest') : n = m ∧ rest = rest' := by
  have noSign (n : Nat) (rest rest' : Bytes) : decimal n ++ rest ≠ 45 :: rest' := by
    intro same
    cases digits : decimal n with
    | nil => exact decimal_ne_nil n digits
    | cons first others =>
      rw [digits, List.cons_append] at same
      have isFirst : isDigit first = true := isDigit_of_mem_decimal (n := n) (by simp [digits])
      rw [(List.cons.inj same).1] at isFirst
      cases isFirst
  cases n with
  | ofNat n =>
    cases m with
    | ofNat m =>
      obtain ⟨rfl, equal⟩ := decimal_append_inj ends ends' same
      exact ⟨rfl, equal⟩
    | negSucc m => exact absurd same (noSign n rest _)
  | negSucc n =>
    cases m with
    | ofNat m => exact absurd same.symm (noSign m rest' _)
    | negSucc m =>
      obtain ⟨values, equal⟩ := decimal_append_inj ends ends' (List.cons.inj same).2
      exact ⟨by rw [Nat.succ.inj values], equal⟩

def numberMark : Bytes := 45 :: (List.range 10).map digit

def flagMark : Bytes := [116, 102]

/-- The first octet of a member's value tells its kind. -/
def scalarMark : Scalar → Bytes
  | .text _ => [34]
  | .number _ => numberMark
  | .flag _ => flagMark

theorem marks_apart : (34 : UInt8) ∉ numberMark ∧ (34 : UInt8) ∉ flagMark ∧
    ∀ first ∈ flagMark, first ∉ numberMark := by
  decide +kernel

theorem scalarText_head (value : Scalar) :
    ∃ first others, scalarText value = first :: others ∧ first ∈ scalarMark value := by
  cases value with
  | text value => exact ⟨34, _, rfl, List.mem_singleton.mpr rfl⟩
  | number value =>
    cases value with
    | ofNat n =>
      change ∃ first others, decimal n = first :: others ∧ _
      cases digits : decimal n with
      | nil => exact absurd digits (decimal_ne_nil n)
      | cons first others =>
        have isFirst : isDigit first = true :=
          isDigit_of_mem_decimal (n := n) (by simp [digits])
        have bounds := isDigit_iff.mp isFirst
        refine ⟨first, others, rfl, List.mem_cons_of_mem _ (List.mem_map.mpr ?_)⟩
        exact ⟨first.toNat - 48, List.mem_range.mpr (by omega), digit_toNat isFirst⟩
    | negSucc n => exact ⟨45, _, rfl, List.mem_cons_self⟩
  | flag value =>
    cases value with
    | true => exact ⟨116, _, rfl, by decide⟩
    | false => exact ⟨102, _, rfl, by decide⟩

theorem shared_mark {value value' : Scalar}
    (same : scalarText value ++ rest = scalarText value' ++ rest') :
    ∃ first, first ∈ scalarMark value ∧ first ∈ scalarMark value' := by
  obtain ⟨first, others, isText, isFirst⟩ := scalarText_head value
  obtain ⟨first', others', isText', isFirst'⟩ := scalarText_head value'
  rw [isText, isText'] at same
  exact ⟨first, isFirst, (List.cons.inj same).1 ▸ isFirst'⟩

theorem scalarText_append_inj {value value' : Scalar} (ends : EndsDigits rest)
    (ends' : EndsDigits rest') (same : scalarText value ++ rest = scalarText value' ++ rest') :
    value = value' ∧ rest = rest' := by
  obtain ⟨first, mark, mark'⟩ := shared_mark same
  cases value with
  | text value =>
    cases value' with
    | text value' =>
      obtain ⟨rfl, equal⟩ := quote_append_inj same
      exact ⟨rfl, equal⟩
    | number => exact absurd (List.mem_singleton.mp mark ▸ mark') marks_apart.1
    | flag => exact absurd (List.mem_singleton.mp mark ▸ mark') marks_apart.2.1
  | number value =>
    cases value' with
    | text => exact absurd (List.mem_singleton.mp mark' ▸ mark) marks_apart.1
    | number value' =>
      obtain ⟨rfl, equal⟩ := numeral_append_inj ends ends' same
      exact ⟨rfl, equal⟩
    | flag => exact absurd mark (marks_apart.2.2 first mark')
  | flag value =>
    cases value' with
    | text => exact absurd (List.mem_singleton.mp mark' ▸ mark) marks_apart.2.1
    | number => exact absurd mark' (marks_apart.2.2 first mark)
    | flag value' =>
      cases value <;> cases value'
      · exact ⟨rfl, List.append_cancel_left same⟩
      · exact absurd (List.cons.inj same).1 (by decide)
      · exact absurd (List.cons.inj same).1 (by decide)
      · exact ⟨rfl, List.append_cancel_left same⟩

theorem memberText_append_inj {member' : Bytes × Scalar} (ends : EndsDigits rest)
    (ends' : EndsDigits rest') (same : memberText member ++ rest = memberText member' ++ rest') :
    member = member' ∧ rest = rest' := by
  simp only [memberText, List.append_assoc, List.cons_append] at same
  obtain ⟨keys, later⟩ := quote_append_inj same
  obtain ⟨values, equal⟩ := scalarText_append_inj ends ends' (List.cons.inj later).2
  exact ⟨Prod.ext keys values, equal⟩

theorem endsDigits_tail (mems : Members) : EndsDigits (tailText mems ++ [125]) := by
  intro char tail same
  cases mems with
  | nil =>
    rw [← (List.cons.inj same).1]
    rfl
  | cons member mems =>
    rw [← (List.cons.inj same).1]
    rfl

theorem tailText_inj {mems members' : Members}
    (same : tailText mems ++ [125] = tailText members' ++ [125]) : mems = members' := by
  induction mems generalizing members' with
  | nil =>
    cases members' with
    | nil => rfl
    | cons => exact absurd (List.cons.inj same).1 (by decide)
  | cons member mems ih =>
    cases members' with
    | nil => exact absurd (List.cons.inj same).1 (by decide)
    | cons member' members' =>
      simp only [tailText, List.flatMap_cons, List.cons_append, List.append_assoc] at same
      obtain ⟨rfl, later⟩ := memberText_append_inj (endsDigits_tail mems)
        (endsDigits_tail members') (List.cons.inj same).2
      rw [ih later]

theorem render_injective : Function.Injective render := by
  intro mems members' same
  cases mems with
  | nil =>
    cases members' with
    | nil => rfl
    | cons => exact absurd (List.cons.inj (List.cons.inj same).2).1 (by decide)
  | cons member mems =>
    cases members' with
    | nil => exact absurd (List.cons.inj (List.cons.inj same).2).1 (by decide)
    | cons member' members' =>
      obtain ⟨rfl, later⟩ := memberText_append_inj (endsDigits_tail mems)
        (endsDigits_tail members') (List.cons.inj same).2
      rw [tailText_inj later]

end VisionForge.Lib.FlatJson
