import Mathlib.Tactic.Common

/-! # Bitmaps of 64-bit words

Bit `i` of a bitmap is bit `i % 64` of word `i / 64`. A bitmap is shifted towards
higher indices word by word, either by adding every source word to its two
destinations or by computing every destination in place from its two sources.
-/

namespace VisionForge.Lib.BitWords

abbrev Words (n : Nat) := Vector (BitVec 64) n

variable {n : Nat}

variable (words : Words n)

def word (index : Nat) : BitVec 64 :=
  if inside : index < n then words[index] else 0

/-- Replaces a word; an index outside changes nothing. -/
def setWord (index : Nat) (value : BitVec 64) : Words n :=
  words.setIfInBounds index value

def orWord (index : Nat) (value : BitVec 64) : Words n :=
  setWord words index (word words index ||| value)

def zeros (n : Nat) : Words n := Vector.replicate n 0

def bit (index : Nat) : Bool := (word words (index / 64)).getLsbD (index % 64)

def isSet (index : Nat) : Bool := (word words (index / 64) &&& (1#64 <<< (index % 64))) != 0

def set (index : Nat) : Words n :=
  orWord words (index / 64) (1#64 <<< (index % 64))

theorem word_setWord (index other : Nat) (value : BitVec 64) :
    word (setWord words index value) other =
      if other = index ∧ index < n then value else word words other := by
  unfold word setWord
  by_cases hin : other < n
  · by_cases same : other = index
    · subst same
      simp [hin]
    · simp [same, Ne.symm same]
  · simp only [dif_neg hin]
    split
    · omega
    · rfl

theorem word_orWord (index other : Nat) (value : BitVec 64) :
    word (orWord words index value) other =
      if other = index ∧ index < n then word words other ||| value else word words other := by
  rw [orWord, word_setWord]
  split
  · rename_i same
    rw [same.1]
  · rfl

@[simp] theorem word_zeros (index : Nat) : word (zeros n) index = 0 := by
  unfold word zeros
  split
  · simp
  · rfl

@[simp] theorem bit_zeros (index : Nat) : bit (zeros n) index = false := by
  simp [bit]

theorem isSet_eq_bit (index : Nat) : isSet words index = bit words index := by
  have small : index % 64 < 64 := Nat.mod_lt _ (by decide)
  rw [Bool.eq_iff_iff]
  unfold isSet bit
  rw [bne_iff_ne]
  constructor
  · intro nonzero
    by_contra clear
    apply nonzero
    apply BitVec.eq_of_getLsbD_eq
    intro i _
    by_cases same : i = index % 64
    · subst same
      simp [clear]
    · have apart : (i < index % 64) ∨ i - index % 64 ≠ 0 := by omega
      cases apart with
      | inl below => simp [below]
      | inr above => simp [above]
  · intro isBit zero
    have bits := congrArg (fun value => value.getLsbD (index % 64)) zero
    simp only [BitVec.getLsbD_and, isBit, BitVec.getLsbD_shiftLeft, small, BitVec.getLsbD_one,
      BitVec.ofNat_eq_ofNat, BitVec.getLsbD_zero] at bits
    simp at bits

theorem bit_set {words : Words n} {index : Nat} (hin : index < 64 * n) (other : Nat) :
    bit (set words index) other = (bit words other || decide (other = index)) := by
  have small : other % 64 < 64 := Nat.mod_lt _ (by decide)
  unfold bit set
  rw [word_orWord]
  by_cases sameWord : other / 64 = index / 64
  · rw [if_pos ⟨sameWord, by omega⟩, BitVec.getLsbD_or]
    congr 1
    by_cases same : other = index
    · subst same
      simp [small]
    · have apart : other % 64 < index % 64 ∨ other % 64 - index % 64 ≠ 0 := by omega
      cases apart with
      | inl below => simp [below, same]
      | inr above => simp [above, same]
  · have apart : other ≠ index := by
      rintro rfl
      exact sameWord rfl
    rw [if_neg (fun both => sameWord both.1)]
    simp [apart]

/-- The word at `destination` of a bitmap shifted by `wordShift` words and `bitShift`
    bits. -/
def shiftedWord (wordShift bitShift destination : Nat) : BitVec 64 :=
  (if wordShift ≤ destination then word words (destination - wordShift) <<< bitShift else 0) |||
    (if bitShift ≠ 0 ∧ wordShift < destination then
      word words (destination - wordShift - 1) >>> (64 - bitShift)
    else 0)

theorem getLsbD_shiftedWord {bitShift : Nat} (small : bitShift < 64) (wordShift : Nat) {index : Nat} :
    (shiftedWord words wordShift bitShift (index / 64)).getLsbD (index % 64) =
      (decide (64 * wordShift + bitShift ≤ index) &&
        bit words (index - (64 * wordShift + bitShift))) := by
  have least : index % 64 < 64 := Nat.mod_lt _ (by decide)
  unfold shiftedWord bit
  rw [BitVec.getLsbD_or]
  by_cases low : bitShift ≤ index % 64
  · have upper : (if bitShift ≠ 0 ∧ wordShift < index / 64 then
        word words (index / 64 - wordShift - 1) >>> (64 - bitShift)
      else 0).getLsbD (index % 64) = false := by
      split
      · rw [BitVec.getLsbD_ushiftRight]
        apply BitVec.getLsbD_of_ge
        omega
      · simp
    rw [upper, Bool.or_false]
    by_cases reach : wordShift ≤ index / 64
    · have whole : 64 * wordShift + bitShift ≤ index := by omega
      have quotient : (index - (64 * wordShift + bitShift)) / 64 = index / 64 - wordShift := by
        omega
      have remainder : (index - (64 * wordShift + bitShift)) % 64 = index % 64 - bitShift := by
        omega
      rw [if_pos reach, quotient, remainder, BitVec.getLsbD_shiftLeft]
      simp [least, low, whole]
    · have short : ¬64 * wordShift + bitShift ≤ index := by omega
      simp [reach, short]
  · have lower : (if wordShift ≤ index / 64 then
        word words (index / 64 - wordShift) <<< bitShift else 0).getLsbD (index % 64) = false := by
      split
      · simp [Nat.not_le.mp low]
      · simp
    rw [lower, Bool.false_or]
    by_cases reach : wordShift < index / 64
    · have whole : 64 * wordShift + bitShift ≤ index := by omega
      have quotient : (index - (64 * wordShift + bitShift)) / 64 = index / 64 - wordShift - 1 := by
        omega
      have remainder : (index - (64 * wordShift + bitShift)) % 64 = 64 - bitShift + index % 64 := by
        omega
      rw [if_pos ⟨by omega, reach⟩, quotient, remainder, BitVec.getLsbD_ushiftRight]
      simp [whole]
    · have short : ¬64 * wordShift + bitShift ≤ index := by omega
      simp [reach, short]

end VisionForge.Lib.BitWords
