import Mathlib.Tactic.Ring
import VisionForge.Lib.Ascii

/-! # Numbers in network byte order -/

namespace VisionForge.Lib.BigEndian

open Ascii

def store : Nat → Nat → Bytes
  | 0, _ => []
  | width + 1, value => UInt8.ofNat (value / 256 ^ width) :: store width value

def load (octets : Bytes) : Nat := octets.foldl (fun value octet => value * 256 + octet.toNat) 0

def loadAt (octets : Bytes) (offset width : Nat) : Nat := load ((octets.drop offset).take width)

@[simp] theorem length_store (width value : Nat) : (store width value).length = width := by
  induction width with
  | zero => rfl
  | succ width ih => rw [store, List.length_cons, ih]

theorem foldl_store (width value start : Nat) :
    (store width value).foldl (fun value octet => value * 256 + octet.toNat) start =
      start * 256 ^ width + value % 256 ^ width := by
  induction width generalizing start with
  | zero => simp [store, Nat.mod_one]
  | succ width ih =>
    have digit : (UInt8.ofNat (value / 256 ^ width)).toNat = value / 256 ^ width % 256 :=
      UInt8.toNat_ofNat'
    have split : value % 256 ^ (width + 1) =
        value % 256 ^ width + 256 ^ width * (value / 256 ^ width % 256) := by
      rw [Nat.pow_succ, Nat.mod_mul]
    rw [store, List.foldl_cons, ih, digit, split, Nat.pow_succ]
    ring

theorem load_store {width value : Nat} (fits : value < 256 ^ width) :
    load (store width value) = value := by
  rw [load, foldl_store, Nat.zero_mul, Nat.zero_add, Nat.mod_eq_of_lt fits]

theorem store_injective {width first second : Nat} (fitsFirst : first < 256 ^ width)
    (fitsSecond : second < 256 ^ width) (same : store width first = store width second) :
    first = second := by
  rw [← load_store fitsFirst, same, load_store fitsSecond]

theorem loadAt_store {front back : Bytes} {offset width value : Nat}
    (position : front.length = offset) (fits : value < 256 ^ width) :
    loadAt (front ++ (store width value ++ back)) offset width = value := by
  unfold loadAt
  rw [← position, List.drop_left, List.take_left' (length_store width value), load_store fits]

theorem store_add_mul (width value high : Nat) :
    store width (value + high * 256 ^ width) = store width value := by
  induction width generalizing high with
  | zero => rfl
  | succ width ih =>
    have regroup : value + high * 256 ^ (width + 1) = value + high * 256 * 256 ^ width := by ring
    have digit : (value + high * 256 * 256 ^ width) / 256 ^ width =
        value / 256 ^ width + high * 256 :=
      Nat.add_mul_div_right value _ (Nat.pow_pos (by decide))
    have octet : UInt8.ofNat (value / 256 ^ width + high * 256) =
        UInt8.ofNat (value / 256 ^ width) := by
      apply UInt8.toNat_inj.mp
      simp
    simp only [store, regroup, digit, octet, ih (high * 256)]

theorem foldl_load (bs : Bytes) (start : Nat) :
    bs.foldl (fun value octet => value * 256 + octet.toNat) start =
      load bs + start * 256 ^ bs.length := by
  induction bs generalizing start with
  | nil => simp [load]
  | cons octet bs ih =>
    simp only [load, List.foldl_cons, List.length_cons] at ih ⊢
    rw [ih, ih (0 * 256 + octet.toNat), Nat.pow_succ]
    ring

theorem load_cons (octet : UInt8) (bs : Bytes) :
    load (octet :: bs) = load bs + octet.toNat * 256 ^ bs.length := by
  simpa [load] using foldl_load bs octet.toNat

theorem load_lt (bs : Bytes) : load bs < 256 ^ bs.length := by
  induction bs with
  | nil => simp [load]
  | cons octet bs ih =>
    have digit := octet.toNat_lt
    have bound : (octet.toNat + 1) * 256 ^ bs.length ≤ 256 * 256 ^ bs.length :=
      Nat.mul_le_mul_right _ digit
    rw [load_cons, List.length_cons, Nat.pow_succ]
    grind

theorem store_load (bs : Bytes) : store bs.length (load bs) = bs := by
  induction bs with
  | nil => rfl
  | cons octet bs ih =>
    have high : (load bs + octet.toNat * 256 ^ bs.length) / 256 ^ bs.length = octet.toNat := by
      rw [Nat.add_mul_div_right _ _ (Nat.pow_pos (by decide)), Nat.div_eq_of_lt (load_lt bs),
        Nat.zero_add]
    simp only [load_cons, List.length_cons, store, high, store_add_mul, ih]
    simp

/-- What stands at an offset, taken apart into an octet and the rest. -/
theorem drop_eq_octet {bytes : Bytes} {offset : Nat} (h : offset < bytes.length) :
    bytes.drop offset = bytes.getD offset 0 :: bytes.drop (offset + 1) := by
  rw [List.drop_eq_getElem_cons h, List.getD_eq_getElem?_getD, List.getElem?_eq_getElem h,
    Option.getD_some]

theorem drop_eq_store {bytes : Bytes} {offset width : Nat} (h : offset + width ≤ bytes.length) :
    bytes.drop offset = store width (loadAt bytes offset width) ++ bytes.drop (offset + width) := by
  have size : ((bytes.drop offset).take width).length = width := by
    rw [List.length_take, List.length_drop]
    omega
  have stored := store_load ((bytes.drop offset).take width)
  rw [size] at stored
  rw [loadAt, stored, ← List.drop_drop, List.take_append_drop]

end VisionForge.Lib.BigEndian
