import VisionForge.Lib.Ascii

/-! # Hexadecimal spelling of octets -/

namespace VisionForge.Lib.Hex

open Ascii

def hexDigit (value : Nat) : UInt8 :=
  if value < 10 then UInt8.ofNat (48 + value) else UInt8.ofNat (87 + value)

def lowercaseHex (octets : Bytes) : Bytes :=
  octets.flatMap (fun octet => [hexDigit (octet.toNat / 16), hexDigit (octet.toNat % 16)])

theorem isLowerHexDigit_hexDigit_all : ∀ n : Fin 16, isLowerHexDigit (hexDigit n) = true := by
  decide

theorem length_lowercaseHex (octets : Bytes) : (lowercaseHex octets).length = 2 * octets.length := by
  induction octets with
  | nil => rfl
  | cons octet octets ih =>
    have unfolds : lowercaseHex (octet :: octets) =
        hexDigit (octet.toNat / 16) :: hexDigit (octet.toNat % 16) :: lowercaseHex octets := rfl
    rw [unfolds, List.length_cons, List.length_cons, ih, List.length_cons]
    omega

theorem lowercaseHex_take (octets : Bytes) (n : Nat) :
    lowercaseHex (octets.take n) = (lowercaseHex octets).take (2 * n) := by
  induction octets generalizing n with
  | nil => simp [lowercaseHex]
  | cons octet rest ih =>
    cases n with
    | zero => simp [lowercaseHex]
    | succ n => simpa [lowercaseHex, Nat.mul_succ] using ih n

theorem isLowerHex_lowercaseHex {bs : Bytes} {n : Nat} (h : n = 2 * bs.length) :
    isLowerHex (lowercaseHex bs) n = true := by
  simp only [isLowerHex, Bool.and_eq_true, beq_iff_eq, List.all_eq_true]
  refine ⟨by rw [length_lowercaseHex, h], ?_⟩
  intro c mem
  simp only [lowercaseHex, List.mem_flatMap, List.mem_cons, List.not_mem_nil, or_false] at mem
  obtain ⟨octet, -, high | low⟩ := mem
  · have bound := octet.toNat_lt
    rw [high]
    exact isLowerHexDigit_hexDigit_all ⟨octet.toNat / 16, by omega⟩
  · rw [low]
    exact isLowerHexDigit_hexDigit_all ⟨octet.toNat % 16, by omega⟩

end VisionForge.Lib.Hex
