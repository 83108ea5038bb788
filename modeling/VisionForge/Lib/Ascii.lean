import Mathlib.Data.List.Basic
import Mathlib.Data.Nat.Basic
import Mathlib.Order.Basic
import Mathlib.Tactic.Common

/-! # Octet strings

Program text is kept as its octets. Literals are ASCII, so an octet is a
character there; hexadecimal text is the lowercase form without a prefix mark.
-/

namespace VisionForge.Lib.Ascii

abbrev Bytes := List UInt8

def ascii (text : String) : Bytes := text.toByteArray.data.toList

def isLowerHexDigit (character : UInt8) : Bool :=
  (48 ≤ character && character ≤ 57) || (97 ≤ character && character ≤ 102)

def isLowerHex (value : Bytes) (expected : Nat) : Bool :=
  value.length == expected && value.all isLowerHexDigit

/-- Lowercase hexadecimal digits that are not all `0`. -/
def isNonzeroLowerHex (value : Bytes) (expected : Nat) : Bool :=
  isLowerHex value expected && value.any (· != 48)

theorem isLowerHex_of_nonzero {value : Bytes} {want : Nat}
    (h : isNonzeroLowerHex value want = true) : isLowerHex value want = true :=
  (Bool.and_eq_true_iff.mp h).1

theorem isLowerHex_length {value : Bytes} {want : Nat} (h : isLowerHex value want = true) :
    value.length = want := by
  simp only [isLowerHex, Bool.and_eq_true, beq_iff_eq] at h
  exact h.1

end VisionForge.Lib.Ascii
