import VisionForge.Lib.Ascii

/-! # Unpadded base64url

Groups of three octets are written as four symbols of the URL-safe alphabet, the
last group without padding. `decode` accepts any unused trailing bits; `encode` is
the only spelling that leaves them zero.
-/

namespace VisionForge.Lib.Base64Url

open Ascii

def symbol (value : Nat) : UInt8 :=
  if value < 26 then UInt8.ofNat (65 + value)
  else if value < 52 then UInt8.ofNat (97 + (value - 26))
  else if value < 62 then UInt8.ofNat (48 + (value - 52))
  else if value = 62 then 45
  else 95

def value (character : UInt8) : Option Nat :=
  if 65 ≤ character ∧ character ≤ 90 then some (character.toNat - 65)
  else if 97 ≤ character ∧ character ≤ 122 then some (character.toNat - 97 + 26)
  else if 48 ≤ character ∧ character ≤ 57 then some (character.toNat - 48 + 52)
  else if character = 45 then some 62
  else if character = 95 then some 63
  else none

def encode : Bytes → Bytes
  | [] => []
  | [a] => [symbol (a.toNat / 4), symbol (a.toNat % 4 * 16)]
  | [a, b] =>
    [symbol (a.toNat / 4), symbol (a.toNat % 4 * 16 + b.toNat / 16), symbol (b.toNat % 16 * 4)]
  | a :: b :: c :: rest =>
    symbol (a.toNat / 4) :: symbol (a.toNat % 4 * 16 + b.toNat / 16) ::
      symbol (b.toNat % 16 * 4 + c.toNat / 64) :: symbol (c.toNat % 64) :: encode rest

/-- The first octet of a group with its first two values. -/
def firstOctet (x y : Nat) : UInt8 := UInt8.ofNat (x * 4 + y / 16)

def secondOctet (y z : Nat) : UInt8 := UInt8.ofNat (y % 16 * 16 + z / 4)

def thirdOctet (z w : Nat) : UInt8 := UInt8.ofNat (z % 4 * 64 + w)

def decode : Bytes → Option Bytes
  | [] => some []
  | [_] => none
  | [a, b] => do
      let x ← value a
      let y ← value b
      return [firstOctet x y]
  | [a, b, c] => do
      let x ← value a
      let y ← value b
      let z ← value c
      return [firstOctet x y, secondOctet y z]
  | a :: b :: c :: d :: rest => do
      let x ← value a
      let y ← value b
      let z ← value c
      let w ← value d
      let octets ← decode rest
      return firstOctet x y :: secondOctet y z :: thirdOctet z w :: octets

attribute [local simp] encode decode

theorem value_symbol_all : ∀ n : Fin 64, value (symbol n) = some n.val := by decide

theorem value_symbol {n : Nat} (h : n < 64) : value (symbol n) = some n :=
  value_symbol_all ⟨n, h⟩

theorem symbol_value_all : ∀ c : Fin 256,
    (value (UInt8.ofNat c)).all (fun n => decide (n < 64) && symbol n == UInt8.ofNat c) = true := by
  decide +kernel

theorem symbol_value {c : UInt8} {n : Nat} (h : value c = some n) : n < 64 ∧ symbol n = c := by
  have all := symbol_value_all ⟨c.toNat, c.toNat_lt⟩
  simp only [UInt8.ofNat_toNat, h, Option.all_some, Bool.and_eq_true, decide_eq_true_eq,
    beq_iff_eq] at all
  exact all

theorem ofNat_eq {n : Nat} {a : UInt8} (h : n = a.toNat) : UInt8.ofNat n = a := by
  rw [h, UInt8.ofNat_toNat]

theorem toNat_firstOctet {x y : Nat} (hx : x < 64) (hy : y < 64) :
    (firstOctet x y).toNat = x * 4 + y / 16 := by
  simp only [firstOctet, UInt8.toNat_ofNat']
  omega

theorem toNat_secondOctet {y z : Nat} (hz : z < 64) :
    (secondOctet y z).toNat = y % 16 * 16 + z / 4 := by
  simp only [secondOctet, UInt8.toNat_ofNat']
  omega

theorem toNat_thirdOctet {z w : Nat} (hw : w < 64) : (thirdOctet z w).toNat = z % 4 * 64 + w := by
  simp only [thirdOctet, UInt8.toNat_ofNat']
  omega

theorem decode_encode (bs : Bytes) : decode (encode bs) = some bs := by
  induction bs using encode.induct with
  | case1 => rfl
  | case2 a =>
    have bound := a.toNat_lt
    simp only [encode, decode]
    rw [value_symbol (by omega), value_symbol (by omega)]
    have first : firstOctet (a.toNat / 4) (a.toNat % 4 * 16) = a := ofNat_eq (by omega)
    simp [first]
  | case3 a b =>
    have boundA := a.toNat_lt
    have boundB := b.toNat_lt
    simp only [encode, decode]
    rw [value_symbol (by omega), value_symbol (by omega), value_symbol (by omega)]
    have first : firstOctet (a.toNat / 4) (a.toNat % 4 * 16 + b.toNat / 16) = a :=
      ofNat_eq (by omega)
    have snd : secondOctet (a.toNat % 4 * 16 + b.toNat / 16) (b.toNat % 16 * 4) = b :=
      ofNat_eq (by omega)
    simp [first, snd]
  | case4 a b c rest ih =>
    have boundA := a.toNat_lt
    have boundB := b.toNat_lt
    have boundC := c.toNat_lt
    simp only [encode, decode]
    rw [value_symbol (by omega), value_symbol (by omega), value_symbol (by omega),
      value_symbol (by omega), ih]
    have first : firstOctet (a.toNat / 4) (a.toNat % 4 * 16 + b.toNat / 16) = a :=
      ofNat_eq (by omega)
    have snd : secondOctet (a.toNat % 4 * 16 + b.toNat / 16)
        (b.toNat % 16 * 4 + c.toNat / 64) = b := ofNat_eq (by omega)
    have third : thirdOctet (b.toNat % 16 * 4 + c.toNat / 64) (c.toNat % 64) = c :=
      ofNat_eq (by omega)
    simp [first, snd, third]

theorem encode_pair {x y : Nat} (hx : x < 64) (hy : y < 64) (unused : y % 16 = 0) :
    encode [firstOctet x y] = [symbol x, symbol y] := by
  simp only [encode, toNat_firstOctet hx hy]
  have first : (x * 4 + y / 16) / 4 = x := by omega
  have snd : (x * 4 + y / 16) % 4 * 16 = y := by omega
  rw [first, snd]

theorem encode_triple {x y z : Nat} (hx : x < 64) (hy : y < 64) (hz : z < 64) (unused : z % 4 = 0) :
    encode [firstOctet x y, secondOctet y z] = [symbol x, symbol y, symbol z] := by
  simp only [encode, toNat_firstOctet hx hy, toNat_secondOctet hz]
  have first : (x * 4 + y / 16) / 4 = x := by omega
  have snd : (x * 4 + y / 16) % 4 * 16 + (y % 16 * 16 + z / 4) / 16 = y := by omega
  have third : (y % 16 * 16 + z / 4) % 16 * 4 = z := by omega
  rw [first, snd, third]

theorem encode_quad {x y z w : Nat} (hx : x < 64) (hy : y < 64) (hz : z < 64) (hw : w < 64)
    (rest : Bytes) :
    encode (firstOctet x y :: secondOctet y z :: thirdOctet z w :: rest) =
      symbol x :: symbol y :: symbol z :: symbol w :: encode rest := by
  simp only [encode, toNat_firstOctet hx hy, toNat_secondOctet hz, toNat_thirdOctet hw]
  have first : (x * 4 + y / 16) / 4 = x := by omega
  have snd : (x * 4 + y / 16) % 4 * 16 + (y % 16 * 16 + z / 4) / 16 = y := by omega
  have third : (y % 16 * 16 + z / 4) % 16 * 4 + (z % 4 * 64 + w) / 64 = z := by omega
  have fourth : (z % 4 * 64 + w) % 64 = w := by omega
  rw [first, snd, third, fourth]

theorem length_encode (bs : Bytes) : (encode bs).length = (4 * bs.length + 2) / 3 := by
  induction bs using encode.induct with
  | case1 => rfl
  | case2 => simp [encode]
  | case3 => simp [encode]
  | case4 a b c rest ih =>
    simp only [encode, List.length_cons, ih]
    omega

theorem encode_ne_nil {bs : Bytes} (h : bs ≠ []) : encode bs ≠ [] := by
  intro none
  have long := length_encode bs
  have some := List.length_pos_of_ne_nil h
  rw [none, List.length_nil] at long
  omega

theorem value_encode {bs : Bytes} {c : UInt8} (h : c ∈ encode bs) : (value c).isSome = true := by
  induction bs using encode.induct with
  | case1 => simp [encode] at h
  | case2 a =>
    have bound := a.toNat_lt
    simp only [encode, List.mem_cons, List.not_mem_nil, or_false] at h
    rcases h with rfl | rfl <;> rw [value_symbol (by omega)] <;> rfl
  | case3 a b =>
    have boundA := a.toNat_lt
    have boundB := b.toNat_lt
    simp only [encode, List.mem_cons, List.not_mem_nil, or_false] at h
    rcases h with rfl | rfl | rfl <;> rw [value_symbol (by omega)] <;> rfl
  | case4 a b c rest ih =>
    have boundA := a.toNat_lt
    have boundB := b.toNat_lt
    have boundC := c.toNat_lt
    simp only [encode, List.mem_cons] at h
    rcases h with rfl | rfl | rfl | rfl | later
    · rw [value_symbol (by omega)]; rfl
    · rw [value_symbol (by omega)]; rfl
    · rw [value_symbol (by omega)]; rfl
    · rw [value_symbol (by omega)]; rfl
    · exact ih later

theorem dot_not_mem_encode (octets : Bytes) : (46 : UInt8) ∉ encode octets := by
  intro mem
  have symbol := value_encode mem
  revert symbol
  decide

end VisionForge.Lib.Base64Url
