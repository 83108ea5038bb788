import Mathlib.Data.List.Induction
import Mathlib.Data.Nat.Digits.Defs
import VisionForge.Lib.Ascii

/-! # Decimal numerals

The numeral of a natural number has no leading zero. A nonempty run of digits
without a leading zero is the numeral of its value, so reading and writing
numerals are inverse to each other.
-/

namespace VisionForge.Lib.Decimal

open Ascii

def isDigit (character : UInt8) : Bool := 48 ≤ character && character ≤ 57

def digit (value : Nat) : UInt8 := UInt8.ofNat (48 + value)

def decimal (n : Nat) : Bytes :=
  if n = 0 then [48] else (Nat.digits 10 n).reverse.map digit

/-- The value of a run of digits, read after a prefix of value `start`. -/
def valueFrom (start : Nat) (digits : Bytes) : Nat :=
  digits.foldl (fun value character => value * 10 + (character.toNat - 48)) start

/-- Text that cannot continue a run of digits. -/
def EndsDigits (rest : Bytes) : Prop := ∀ character tail, rest = character :: tail →
  isDigit character = false

theorem isDigit_iff {c : UInt8} : isDigit c = true ↔ 48 ≤ c.toNat ∧ c.toNat ≤ 57 := by
  simp only [isDigit, Bool.and_eq_true, decide_eq_true_eq, UInt8.le_iff_toNat_le]
  rfl

theorem toNat_digit {d : Nat} (h : d < 10) : (digit d).toNat = 48 + d := by
  simp only [digit, UInt8.toNat_ofNat']
  omega

theorem isDigit_digit {d : Nat} (h : d < 10) : isDigit (digit d) = true := by
  rw [isDigit_iff, toNat_digit h]
  omega

theorem digit_toNat {char : UInt8} (h : isDigit char = true) : digit (char.toNat - 48) = char := by
  have bounds := isDigit_iff.mp h
  apply UInt8.toNat_inj.mp
  rw [toNat_digit (by omega)]
  omega

theorem decimal_eq (n : Nat) :
    decimal n = if n < 10 then [digit n] else decimal (n / 10) ++ [digit (n % 10)] := by
  unfold decimal
  by_cases small : n < 10
  · rw [if_pos small]
    by_cases zero : n = 0
    · rw [if_pos zero, zero]
      rfl
    · rw [if_neg zero, Nat.digits_of_lt 10 n zero small]
      rfl
  · rw [if_neg small, if_neg (by omega), if_neg (by omega),
      Nat.digits_def' (by omega) (by omega), List.reverse_cons, List.map_append]
    rfl

theorem decimal_ne_nil (n : Nat) : decimal n ≠ [] := by
  rw [decimal_eq]
  split <;> simp

theorem isDigit_of_mem_decimal {n : Nat} {c : UInt8} (h : c ∈ decimal n) : isDigit c = true := by
  induction n using Nat.strong_induction_on with
  | _ n ih =>
    rw [decimal_eq] at h
    split at h
    · rw [List.mem_singleton.mp h]
      exact isDigit_digit (by omega)
    · rcases List.mem_append.mp h with front | last
      · exact ih (n / 10) (by omega) front
      · rw [List.mem_singleton.mp last]
        exact isDigit_digit (by omega)

theorem valueFrom_append (start : Nat) (first snd : Bytes) :
    valueFrom start (first ++ snd) = valueFrom (valueFrom start first) snd := by
  simp only [valueFrom, List.foldl_append]

theorem valueFrom_decimal (n : Nat) : valueFrom 0 (decimal n) = n := by
  induction n using Nat.strong_induction_on with
  | _ n ih =>
    rw [decimal_eq]
    split
    · simp only [valueFrom, List.foldl_cons, List.foldl_nil]
      rw [toNat_digit (by omega)]
      omega
    · rw [valueFrom_append, ih (n / 10) (by omega)]
      simp only [valueFrom, List.foldl_cons, List.foldl_nil]
      rw [toNat_digit (by omega)]
      omega

theorem le_valueFrom (start : Nat) (digits : Bytes) : start ≤ valueFrom start digits := by
  induction digits generalizing start with
  | nil => exact le_rfl
  | cons c rest ih =>
    have step := ih (start * 10 + (c.toNat - 48))
    change start ≤ valueFrom (start * 10 + (c.toNat - 48)) rest
    omega

theorem decimal_head {n : Nat} (pos : 0 < n) {char : UInt8} {rest : Bytes}
    (h : decimal n = char :: rest) : char ≠ 48 := by
  induction n using Nat.strong_induction_on generalizing rest with
  | _ n ih =>
    rw [decimal_eq] at h
    split at h
    · have isDigit : char = digit n := (List.cons.inj h).1.symm
      intro zero
      have value := toNat_digit (d := n) (by omega)
      rw [← isDigit, zero] at value
      simp at value
      omega
    · cases front : decimal (n / 10) with
      | nil => exact absurd front (decimal_ne_nil _)
      | cons head tail =>
        rw [front, List.cons_append] at h
        have same : head = char := (List.cons.inj h).1
        exact ih (n / 10) (by omega) (by omega) (same ▸ front)

/-- A run of digits without a leading zero is the numeral of its value. -/
theorem decimal_valueFrom {digits : Bytes} (all : ∀ c ∈ digits, isDigit c = true)
    {head : UInt8} {rest : Bytes} (starts : digits = head :: rest) (nonzero : head ≠ 48) :
    decimal (valueFrom 0 digits) = digits := by
  induction digits using List.reverseRecOn generalizing rest with
  | nil => cases starts
  | append_singleton front last ih =>
    have lastDigit := isDigit_iff.mp (all last (by simp))
    have value : valueFrom 0 (front ++ [last]) = valueFrom 0 front * 10 + (last.toNat - 48) := by
      rw [valueFrom_append]
      rfl
    have remainder : (valueFrom 0 front * 10 + (last.toNat - 48)) % 10 = last.toNat - 48 := by
      omega
    have quotient : (valueFrom 0 front * 10 + (last.toNat - 48)) / 10 = valueFrom 0 front := by
      omega
    cases front with
    | nil =>
      rw [value, decimal_eq, if_pos (by simp [valueFrom]; omega)]
      simp only [valueFrom, List.foldl_nil, Nat.zero_mul, Nat.zero_add]
      rw [digit_toNat (all last (by simp))]
      rfl
    | cons first others =>
      have sameHead : first = head := by
        exact (List.cons.inj starts).1
      have firstDigit := isDigit_iff.mp (all first (by simp))
      have pos : 0 < valueFrom 0 (first :: others) := by
        have grows := le_valueFrom (0 * 10 + (first.toNat - 48)) others
        have nonzeroFirst : first.toNat ≠ 48 := by
          intro zero
          exact nonzero (sameHead ▸ UInt8.toNat_inj.mp zero)
        change 0 < valueFrom (0 * 10 + (first.toNat - 48)) others
        omega
      rw [value, decimal_eq, if_neg (by omega), remainder, quotient,
        ih (fun c hc => all c (List.mem_append_left _ hc))
          (show first :: others = head :: others by rw [sameHead]),
        digit_toNat (all last (by simp))]

theorem length_decimal_le {n k : Nat} (pos : 0 < k) (h : n < 10 ^ k) : (decimal n).length ≤ k := by
  induction k generalizing n with
  | zero => omega
  | succ k ih =>
    rw [decimal_eq]
    split
    · simp
    · have smaller : n / 10 < 10 ^ k := by omega
      have positive : 0 < k := by
        rcases Nat.eq_zero_or_pos k with zero | pos
        · subst zero
          omega
        · exact pos
      have shorter := ih positive smaller
      rw [List.length_append, List.length_singleton]
      omega

theorem takeWhile_digits {digits rest : Bytes} (all : ∀ c ∈ digits, isDigit c = true)
    (ends : EndsDigits rest) : (digits ++ rest).takeWhile isDigit = digits := by
  rw [List.takeWhile_append_of_pos all]
  cases rest with
  | nil => simp
  | cons character tail => rw [List.takeWhile_cons_of_neg (by simp [ends character tail rfl]),
      List.append_nil]

/-- A numeral determines its value and where it ends. -/
theorem decimal_append_inj {n m : Nat} {rest rest' : Bytes} (ends : EndsDigits rest)
    (ends' : EndsDigits rest') (same : decimal n ++ rest = decimal m ++ rest') :
    n = m ∧ rest = rest' := by
  have digits : decimal n = decimal m := by
    rw [← takeWhile_digits (fun _ => isDigit_of_mem_decimal) ends, same,
      takeWhile_digits (fun _ => isDigit_of_mem_decimal) ends']
  rw [digits] at same
  exact ⟨by rw [← valueFrom_decimal n, digits, valueFrom_decimal], List.append_cancel_left same⟩

end VisionForge.Lib.Decimal
