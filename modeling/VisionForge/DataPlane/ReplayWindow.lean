import VisionForge.Lib.BitWords
import VisionForge.Lib.ReplayLaw
import VisionForge.Lib.Run

/-! # The replay windows of the two ends

The Host keeps sixteen words and builds a shifted copy, the phone shifts in place a
bitmap of any size up to 1024. Counters are 64-bit patterns compared without sign.
-/

namespace VisionForge.DataPlane

open Lib.BitWords Lib.ReplayLaw

def kReplayWindowBits : Nat := 1024

inductive ReplayDisposition where
  | fresh
  | duplicate
  | tooOld
  deriving DecidableEq

structure SlidingReplayWindow1024 where
  seen : Words (kReplayWindowBits / 64) := zeros _
  highestCounter : BitVec 64 := 0
  initialized : Bool := false
  deriving DecidableEq

def shiftFrom {n : Nat} (seen : Words n) (wordShift bitShift : Nat) : Nat → Words n → Words n
  | 0, shifted => shifted
  | remaining + 1, shifted =>
    let source := n - (remaining + 1)
    let destination := source + wordShift
    if n ≤ destination then shifted
    else
      let shifted := orWord shifted destination (word seen source <<< bitShift)
      let shifted :=
        if bitShift ≠ 0 ∧ destination + 1 < n then
          orWord shifted (destination + 1) (word seen source >>> (64 - bitShift))
        else shifted
      shiftFrom seen wordShift bitShift remaining shifted

namespace SlidingReplayWindow1024

def classify (win : SlidingReplayWindow1024) (ctr : BitVec 64) : ReplayDisposition :=
  if !win.initialized || decide (win.highestCounter < ctr) then .fresh
  else
    let distance := win.highestCounter - ctr
    if kReplayWindowBits ≤ distance.toNat then .tooOld
    else if isSet win.seen distance.toNat then .duplicate
    else .fresh

def commitAuthenticated (win : SlidingReplayWindow1024) (ctr : BitVec 64) :
    SlidingReplayWindow1024 × Bool :=
  if win.classify ctr ≠ .fresh then (win, false)
  else if !win.initialized then
    ({ seen := setWord (zeros _) 0 1
       highestCounter := ctr
       initialized := true }, true)
  else if ctr ≤ win.highestCounter then
    let distance := win.highestCounter - ctr
    ({ win with seen := set win.seen distance.toNat }, true)
  else
    let advance := ctr - win.highestCounter
    let seen :=
      if kReplayWindowBits ≤ advance.toNat then zeros _
      else
        shiftFrom win.seen (advance.toNat / 64) (advance.toNat % 64) (kReplayWindowBits / 64)
          (zeros _)
    ({ win with seen := orWord seen 0 1, highestCounter := ctr }, true)

end SlidingReplayWindow1024

def MAX_WINDOW_SIZE : Nat := 1024

inductive Decision where
  | accept
  | duplicate
  | tooOld
  deriving DecidableEq

structure UnsignedReplayWindow where
  windowSize : Nat
  admitted : 1 ≤ windowSize ∧ windowSize ≤ MAX_WINDOW_SIZE
  seenWords : Words ((windowSize + 64 - 1) / 64)
  initialized : Bool := false
  highestCounter : BitVec 64 := 0

def shiftWord {n : Nat} (wordShift bitShift : Nat) (words : Words n) (destination : Nat) :
    Words n :=
  let shiftedValue :=
    if wordShift ≤ destination then
      let source := destination - wordShift
      let value := word words source <<< bitShift
      if bitShift ≠ 0 ∧ 0 < source then
        value ||| (word words (source - 1) >>> (64 - bitShift))
      else value
    else 0
  setWord words destination shiftedValue

/-- The loop over the destinations below a bound, from the highest down. -/
def shiftDown {n : Nat} (wordShift bitShift : Nat) : Nat → Words n → Words n
  | 0, words => words
  | destination + 1, words =>
    shiftDown wordShift bitShift destination (shiftWord wordShift bitShift words destination)

def maskUnusedHighBits {n : Nat} (windowSize : Nat) (words : Words n) : Words n :=
  let usedBitsInLastWord := windowSize % 64
  if usedBitsInLastWord = 0 then words
  else setWord words (n - 1) (word words (n - 1) &&& ((1#64 <<< usedBitsInLastWord) - 1))

def shiftSeenCounters {n : Nat} (windowSize : Nat) (words : Words n) (advance : Nat) : Words n :=
  maskUnusedHighBits windowSize (shiftDown (advance / 64) (advance % 64) n words)

namespace UnsignedReplayWindow

/-- `none` where the constructor raises. -/
def create (windowSize : Int) : Option UnsignedReplayWindow :=
  if admitted : 1 ≤ windowSize ∧ windowSize ≤ MAX_WINDOW_SIZE then
    some
      { windowSize := windowSize.toNat
        admitted := by omega
        seenWords := zeros _ }
  else none

/-- The comparisons of the source are unsigned; a distance below the window size is
    the same as an `int`. -/
def inspect (win : UnsignedReplayWindow) (ctr : BitVec 64) : Decision :=
  if !win.initialized || decide (win.highestCounter < ctr) then .accept
  else
    let distance := win.highestCounter - ctr
    if win.windowSize ≤ distance.toNat then .tooOld
    else if isSet win.seenWords distance.toNat then .duplicate
    else .accept

def commitNewHighest (win : UnsignedReplayWindow) (ctr : BitVec 64) :
    UnsignedReplayWindow :=
  let advance := ctr - win.highestCounter
  let seenWords :=
    if win.windowSize ≤ advance.toNat then zeros _
    else shiftSeenCounters win.windowSize win.seenWords advance.toNat
  { win with seenWords := set seenWords 0, highestCounter := ctr }

def commitAuthenticated (win : UnsignedReplayWindow) (ctr : BitVec 64) :
    UnsignedReplayWindow × Bool :=
  if win.inspect ctr ≠ .accept then (win, false)
  else if !win.initialized then
    ({ win with
        initialized := true
        highestCounter := ctr
        seenWords := set win.seenWords 0 }, true)
  else if win.highestCounter < ctr then (win.commitNewHighest ctr, true)
  else
    let distance := win.highestCounter - ctr
    ({ win with seenWords := set win.seenWords distance.toNat }, true)

end UnsignedReplayWindow

section

variable {n : Nat} {wordShift bitShift : Nat}

def partialWord (seen : Words n) (wordShift bitShift source destination : Nat) : BitVec 64 :=
  (if wordShift ≤ destination ∧ destination - wordShift < source then
    word seen (destination - wordShift) <<< bitShift
  else 0) |||
    (if bitShift ≠ 0 ∧ wordShift < destination ∧ destination - wordShift - 1 < source then
      word seen (destination - wordShift - 1) >>> (64 - bitShift)
    else 0)

theorem partialWord_zero (seen : Words n) (dst : Nat) :
    partialWord seen wordShift bitShift 0 dst = 0 := by
  simp [partialWord]

theorem partialWord_done {seen : Words n} {source dest : Nat} (hin : dest < n)
    (done : n ≤ source + wordShift) :
    partialWord seen wordShift bitShift source dest = shiftedWord seen wordShift bitShift dest := by
  have hr : wordShift ≤ dest → dest - wordShift < source := by omega
  have pre : wordShift < dest → dest - wordShift - 1 < source := by omega
  unfold partialWord shiftedWord
  congr 1
  · by_cases reach : wordShift ≤ dest
    · simp [reach, hr reach]
    · simp [reach]
  · by_cases reach : bitShift ≠ 0 ∧ wordShift < dest
    · simp [reach.1, reach.2, pre reach.2]
    · simp only [← and_assoc, reach, false_and, if_false]

theorem partialWord_succ (seen : Words n) (source dst : Nat) :
    partialWord seen wordShift bitShift (source + 1) dst =
      partialWord seen wordShift bitShift source dst |||
        ((if dst = source + wordShift then word seen source <<< bitShift else 0) |||
          (if bitShift ≠ 0 ∧ dst = source + wordShift + 1 then
            word seen source >>> (64 - bitShift)
          else 0)) := by
  unfold partialWord
  by_cases here : dst = source + wordShift
  · subst here
    have first : source + wordShift - wordShift = source := by omega
    simp only [first, Nat.le_add_left, true_and, Nat.lt_succ_self, lt_irrefl, if_true, if_false]
    by_cases pre : wordShift < source + wordShift
    · have previous : source - 1 < source := by omega
      have next : source - 1 < source + 1 := by omega
      have apart : ¬source + wordShift = source + wordShift + 1 := by omega
      simp only [pre, previous, next, and_true, apart, and_false, if_false]
      rw [BitVec.or_comm]
      simp
    · simp [pre]
  · by_cases above : dst = source + wordShift + 1
    · subst above
      have first : ¬source + wordShift + 1 - wordShift < source + 1 := by omega
      have early : ¬source + wordShift + 1 - wordShift < source := by omega
      have snd : source + wordShift + 1 - wordShift - 1 = source := by omega
      have reach : wordShift < source + wordShift + 1 := by omega
      by_cases whole : bitShift = 0
      · simp [first, early, whole]
      · simp [first, early, snd, reach, whole]
    · have same : (wordShift ≤ dst ∧ dst - wordShift < source + 1) ↔
          (wordShift ≤ dst ∧ dst - wordShift < source) := by omega
      have sameNext : (bitShift ≠ 0 ∧ wordShift < dst ∧
          dst - wordShift - 1 < source + 1) ↔
          (bitShift ≠ 0 ∧ wordShift < dst ∧ dst - wordShift - 1 < source) := by
        omega
      simp only [same, sameNext, here, above, and_false, if_false]
      simp

theorem word_shiftFrom (seen : Words n) {remaining : Nat} (few : remaining ≤ n) {shifted : Words n}
    (sofar : ∀ dest < n, word shifted dest =
      partialWord seen wordShift bitShift (n - remaining) dest)
    {dest : Nat} (hin : dest < n) :
    word (shiftFrom seen wordShift bitShift remaining shifted) dest =
      shiftedWord seen wordShift bitShift dest := by
  induction remaining generalizing shifted with
  | zero =>
    rw [shiftFrom, sofar dest hin]
    exact partialWord_done hin (by omega)
  | succ remaining ih =>
    have next : n - remaining = n - (remaining + 1) + 1 := by omega
    unfold shiftFrom
    dsimp only
    split
    · rename_i past
      rw [sofar dest hin]
      exact partialWord_done hin past
    apply ih (by omega)
    intro other otherInside
    rw [next, partialWord_succ, ← sofar other otherInside]
    have lands : n - (remaining + 1) + wordShift < n := by omega
    split
    · rename_i carries
      rw [word_orWord, word_orWord]
      by_cases here : other = n - (remaining + 1) + wordShift
      · simp [here, lands]
      · by_cases above : other = n - (remaining + 1) + wordShift + 1
        · simp [above, carries.1, carries.2]
        · simp [here, above]
    · rename_i last
      have silent : ¬(bitShift ≠ 0 ∧ other = n - (remaining + 1) + wordShift + 1) := by
        rintro ⟨nonzero, above⟩
        exact last ⟨nonzero, by omega⟩
      rw [word_orWord, if_neg silent]
      by_cases here : other = n - (remaining + 1) + wordShift
      · simp [here, lands]
      · simp [here]

theorem word_shiftWord (words : Words n) {dest : Nat} (hin : dest < n)
    (other : Nat) :
    word (shiftWord wordShift bitShift words dest) other =
      if other = dest then shiftedWord words wordShift bitShift dest
      else word words other := by
  unfold shiftWord
  rw [word_setWord]
  by_cases here : other = dest
  · rw [if_pos ⟨here, hin⟩, if_pos here]
    unfold shiftedWord
    by_cases reach : wordShift ≤ dest
    · have src : 0 < dest - wordShift ↔ wordShift < dest := by omega
      simp only [reach, src, if_true]
      by_cases carries : bitShift ≠ 0 ∧ wordShift < dest
      · rw [if_pos carries, if_pos carries]
      · rw [if_neg carries, if_neg carries]
        simp
    · have short : ¬wordShift < dest := by omega
      simp [reach, short]
  · rw [if_neg (fun both => here both.1), if_neg here]

/-- In place, every destination is written before its sources are. -/
theorem word_shiftDown (words : Words n) {bound : Nat} (hin : bound ≤ n) (dest : Nat) :
    word (shiftDown wordShift bitShift bound words) dest =
      if dest < bound then shiftedWord words wordShift bitShift dest
      else word words dest := by
  induction bound generalizing words with
  | zero => rfl
  | succ bound ih =>
    have written := @word_shiftWord n wordShift bitShift words bound (by omega)
    unfold shiftDown
    rw [ih _ (by omega)]
    by_cases below : dest < bound
    · have kept : ∀ other, other ≤ dest →
          word (shiftWord wordShift bitShift words bound) other = word words other := by
        intro other le
        rw [written, if_neg (by omega)]
      rw [if_pos below, if_pos (by omega)]
      unfold shiftedWord
      rw [kept _ (by omega), kept _ (by omega)]
    · rw [if_neg below, written]
      by_cases here : dest = bound
      · rw [if_pos here, if_pos (by omega), here]
      · rw [if_neg here, if_neg (by omega)]

/-- The copy of the Host is the bitmap shifted by `advance`. -/
theorem bit_shiftFrom (seen : Words n) (advance : Nat) {index : Nat} (hin : index < 64 * n) :
    bit (shiftFrom seen (advance / 64) (advance % 64) n (zeros n)) index =
      (decide (advance ≤ index) && bit seen (index - advance)) := by
  have whole : 64 * (advance / 64) + advance % 64 = advance := Nat.div_add_mod advance 64
  have shifted := @word_shiftFrom n (advance / 64) (advance % 64) seen n le_rfl (zeros n)
    (fun dst _ => by rw [Nat.sub_self, partialWord_zero, word_zeros]) (index / 64)
    (by omega)
  unfold bit
  rw [shifted, getLsbD_shiftedWord seen (Nat.mod_lt _ (by decide)), whole]
  rfl

theorem getLsbD_lowMask {used index : Nat} (hin : index < 64) :
    ((1#64 <<< used) - 1).getLsbD index = decide (index < used) := by
  have pos : 0 < 2 ^ used := Nat.two_pow_pos used
  have value : (1#64 <<< used) - 1 = BitVec.ofNat 64 (2 ^ used - 1) := by
    apply BitVec.eq_of_toNat_eq
    simp only [BitVec.toNat_sub, BitVec.toNat_shiftLeft, BitVec.toNat_ofNat, Nat.shiftLeft_eq,
      BitVec.ofNat_eq_ofNat]
    omega
  rw [value, BitVec.getLsbD_ofNat, Nat.testBit_two_pow_sub_one]
  simp [hin]

theorem bit_maskUnusedHighBits {windowSize : Nat} {words : Words ((windowSize + 64 - 1) / 64)}
    {index : Nat} (hin : index < windowSize) :
    bit (maskUnusedHighBits windowSize words) index = bit words index := by
  unfold maskUnusedHighBits
  dsimp only
  split
  · rfl
  unfold bit
  rw [word_setWord]
  split
  · rename_i last
    rw [BitVec.getLsbD_and, getLsbD_lowMask (Nat.mod_lt _ (by decide)),
      ← last.1]
    have low : index % 64 < windowSize % 64 := by omega
    simp [low]
  · rfl

/-- The phone's bitmap, shifted in place by `advance`. -/
theorem bit_shiftSeenCounters {windowSize : Nat} (words : Words ((windowSize + 64 - 1) / 64))
    (advance : Nat) {index : Nat} (hin : index < windowSize) :
    bit (shiftSeenCounters windowSize words advance) index =
      (decide (advance ≤ index) && bit words (index - advance)) := by
  have whole : 64 * (advance / 64) + advance % 64 = advance := Nat.div_add_mod advance 64
  unfold shiftSeenCounters
  rw [bit_maskUnusedHighBits hin]
  unfold bit
  rw [word_shiftDown words le_rfl, if_pos (by omega),
    getLsbD_shiftedWord words (Nat.mod_lt _ (by decide)), whole]
  rfl

end

theorem toNat_distance {highest ctr : BitVec 64} (below : ctr ≤ highest) :
    (highest - ctr).toNat = highest.toNat - ctr.toNat :=
  BitVec.toNat_sub_of_le below

section

variable {size n : Nat} {committed : Finset Nat} {initialized : Bool} {top ctr : BitVec 64}
  {words moved : Words n}

theorem verdict_eq_ite (h : Keeps size committed initialized top.toNat (bit words))
    (pos : 0 < size) (ctr : BitVec 64) :
    (if (!initialized || decide (top < ctr)) = true then Verdict.fresh
      else if size ≤ (top - ctr).toNat then .tooOld
      else if isSet words (top - ctr).toNat = true then .duplicate
      else .fresh) =
      verdict size committed ctr.toNat := by
  cases initialized with
  | false =>
    rw [h.fresh_uninitialized ctr.toNat]
    rfl
  | true =>
    by_cases above : top < ctr
    · rw [h.fresh_above pos above]
      simp [above]
    · have below : ctr.toNat ≤ top.toNat := Nat.not_lt.mp above
      simp only [Bool.not_true, Bool.false_or, decide_eq_true_eq, if_neg above,
        toNat_distance (BitVec.le_def.mpr below), isSet_eq_bit]
      by_cases far : size ≤ top.toNat - ctr.toNat
      · rw [if_pos far, h.tooOld (by omega)]
      · rw [if_neg far, h.inside below (by omega)]

theorem keeps_start (h : Keeps size committed false top.toNat (bit words)) (fits : size ≤ 64 * n)
    (ctr : BitVec 64) :
    Keeps size (insert ctr.toNat committed) true ctr.toNat (bit (set words 0)) := by
  apply h.first
  intro distance hin
  rw [bit_set (by omega), h.clear hin, Bool.false_or]

theorem keeps_mark (h : Keeps size committed true top.toNat (bit words)) (fits : size ≤ 64 * n)
    (isFresh : verdict size committed ctr.toNat = .fresh) (below : ctr ≤ top) :
    Keeps size (insert ctr.toNat committed) true top.toNat
      (bit (set words (top - ctr).toNat)) := by
  have isBelow : ctr.toNat ≤ top.toNat := BitVec.le_def.mp below
  have near : top.toNat - ctr.toNat < size := by
    by_contra far
    have old := @Keeps.tooOld _ _ _ ctr.toNat _ h (by omega)
    rw [isFresh] at old
    cases old
  apply h.fill isBelow
  intro distance hin
  rw [toNat_distance below, bit_set (by omega)]

theorem keeps_shift (h : Keeps size committed true top.toNat (bit words)) (fits : size ≤ 64 * n)
    (above : top < ctr)
    (moves : ∀ index < size, bit moved index =
      (decide ((ctr - top).toNat ≤ index) && bit words (index - (ctr - top).toNat))) :
    Keeps size (insert ctr.toNat committed) true ctr.toNat
      (bit (set (if size ≤ (ctr - top).toNat then zeros n else moved) 0)) := by
  apply h.advance above
  intro distance hin
  rw [bit_set (by omega), ← toNat_distance (BitVec.le_of_lt above)]
  congr 1
  by_cases far : size ≤ (ctr - top).toNat
  · rw [if_pos far, bit_zeros, decide_eq_false (by omega), Bool.false_and]
  · rw [if_neg far]
    exact moves distance hin

end

def ReplayDisposition.verdict : ReplayDisposition → Verdict
  | .fresh => .fresh
  | .duplicate => .duplicate
  | .tooOld => .tooOld

def Decision.verdict : Decision → Verdict
  | .accept => .fresh
  | .duplicate => .duplicate
  | .tooOld => .tooOld

namespace SlidingReplayWindow1024

/-- The window remembers these counters. -/
def Remembers (win : SlidingReplayWindow1024) (committed : Finset Nat) : Prop :=
  Keeps kReplayWindowBits committed win.initialized win.highestCounter.toNat
    (bit win.seen)

theorem remembers_empty : ({} : SlidingReplayWindow1024).Remembers ∅ := by
  have empty := keeps_empty kReplayWindowBits 0
  have clear : bit (zeros (kReplayWindowBits / 64)) = fun _ => false := funext bit_zeros
  rw [← clear] at empty
  exact empty

variable {win : SlidingReplayWindow1024} {committed : Finset Nat}

theorem Remembers.classify (h : win.Remembers committed) (ctr : BitVec 64) :
    (win.classify ctr).verdict = verdict kReplayWindowBits committed ctr.toNat := by
  rw [← verdict_eq_ite h (by decide)]
  unfold SlidingReplayWindow1024.classify
  simp only [apply_ite ReplayDisposition.verdict]
  rfl

theorem classify_eq_fresh {ctr : BitVec 64} :
    win.classify ctr = .fresh ↔ (win.classify ctr).verdict = .fresh := by
  cases win.classify ctr <;> decide

theorem commit_of_fresh {ctr : BitVec 64} (fresh : win.classify ctr = .fresh) :
    win.commitAuthenticated ctr = ((win.commitAuthenticated ctr).1, true) := by
  unfold commitAuthenticated
  rw [if_neg (not_not.mpr fresh)]
  split
  · rfl
  split <;> rfl

/-- A commit is accepted exactly for a fresh counter, and then adds it. -/
theorem Remembers.commit (h : win.Remembers committed) (ctr : BitVec 64) :
    ((win.commitAuthenticated ctr).2 =
      decide (verdict kReplayWindowBits committed ctr.toNat = .fresh)) ∧
    ((win.commitAuthenticated ctr).2 = true →
      (win.commitAuthenticated ctr).1.Remembers (insert ctr.toNat committed)) ∧
    ((win.commitAuthenticated ctr).2 = false →
      (win.commitAuthenticated ctr).1 = win) := by
  have isVerdict := h.classify ctr
  unfold commitAuthenticated
  by_cases fresh : win.classify ctr = .fresh
  · rw [if_neg (not_not.mpr fresh)]
    have isFresh : verdict kReplayWindowBits committed ctr.toNat = .fresh := by
      rw [← isVerdict, fresh]
      rfl
    obtain ⟨seen, top, initialized⟩ := win
    dsimp only at h ⊢
    cases initialized with
    | false =>
      have blank : Keeps kReplayWindowBits committed false top.toNat
          (bit (zeros (kReplayWindowBits / 64))) := by
        rw [not_mem_of_uninitialized h, show bit (zeros _) = fun _ => false from funext bit_zeros]
        exact keeps_empty _ _
      exact ⟨by simp [isFresh], fun _ => keeps_start blank (by decide) ctr, by simp⟩
    | true =>
      by_cases below : ctr ≤ top
      · rw [if_pos below]
        exact ⟨by simp [isFresh], fun _ => keeps_mark h (by decide) isFresh below, by simp⟩
      · rw [if_neg below]
        exact ⟨by simp [isFresh], fun _ => keeps_shift h (by decide) (BitVec.not_le.mp below)
          (fun _ hin => bit_shiftFrom seen _ hin), by simp⟩
  · have notFresh : verdict kReplayWindowBits committed ctr.toNat ≠ .fresh := by
      rw [← isVerdict]
      exact fun same => fresh (classify_eq_fresh.mpr same)
    rw [if_pos fresh]
    exact ⟨by simp [notFresh], by simp, fun _ => rfl⟩

end SlidingReplayWindow1024

namespace UnsignedReplayWindow

/-- The window remembers these counters. -/
def Remembers (win : UnsignedReplayWindow) (committed : Finset Nat) : Prop :=
  Keeps win.windowSize committed win.initialized win.highestCounter.toNat
    (bit win.seenWords)

variable {win : UnsignedReplayWindow} {committed : Finset Nat}

theorem Remembers.inspect (h : win.Remembers committed) (ctr : BitVec 64) :
    (win.inspect ctr).verdict = verdict win.windowSize committed ctr.toNat := by
  rw [← verdict_eq_ite h win.admitted.1]
  unfold UnsignedReplayWindow.inspect
  simp only [apply_ite Decision.verdict]
  rfl

theorem inspect_eq_accept {ctr : BitVec 64} :
    win.inspect ctr = .accept ↔ (win.inspect ctr).verdict = .fresh := by
  cases win.inspect ctr <;> decide

theorem commitAuthenticated_windowSize (ctr : BitVec 64) :
    (win.commitAuthenticated ctr).1.windowSize = win.windowSize := by
  unfold commitAuthenticated
  split
  · rfl
  split
  · rfl
  split <;> rfl

theorem Remembers.commit (h : win.Remembers committed) (ctr : BitVec 64) :
    ((win.commitAuthenticated ctr).2 =
      decide (verdict win.windowSize committed ctr.toNat = .fresh)) ∧
    ((win.commitAuthenticated ctr).2 = true →
      (win.commitAuthenticated ctr).1.Remembers (insert ctr.toNat committed)) ∧
    ((win.commitAuthenticated ctr).2 = false →
      (win.commitAuthenticated ctr).1 = win) := by
  have isVerdict := h.inspect ctr
  unfold commitAuthenticated
  by_cases fresh : win.inspect ctr = .accept
  · rw [if_neg (not_not.mpr fresh)]
    have isFresh : verdict win.windowSize committed ctr.toNat = .fresh := by
      rw [← isVerdict, fresh]
      rfl
    obtain ⟨size, admitted, seen, initialized, top⟩ := win
    dsimp only at h isFresh ⊢
    cases initialized with
    | false =>
      exact ⟨by simp [isFresh], fun _ => keeps_start h (by omega) ctr, by simp⟩
    | true =>
      by_cases above : top < ctr
      · rw [if_pos above]
        exact ⟨by simp [isFresh], fun _ => keeps_shift h (by omega) above
          (fun _ hin => bit_shiftSeenCounters seen _ hin), by simp⟩
      · rw [if_neg above]
        exact ⟨by simp [isFresh], fun _ => keeps_mark h (by omega) isFresh (BitVec.not_lt.mp above),
          by simp⟩
  · have notFresh : verdict win.windowSize committed ctr.toNat ≠ .fresh := by
      rw [← isVerdict]
      exact fun same => fresh (inspect_eq_accept.mpr same)
    rw [if_pos fresh]
    exact ⟨by simp [notFresh], by simp, fun _ => rfl⟩

end UnsignedReplayWindow

abbrev WindowHistory := List (WindowOp (BitVec 64) × WindowAnswer)

def hostWindowStep (win : SlidingReplayWindow1024) :
    WindowOp (BitVec 64) → SlidingReplayWindow1024 × WindowAnswer
  | .classify ctr => (win, .verdict (win.classify ctr).verdict)
  | .commit ctr =>
    ((win.commitAuthenticated ctr).1, .committed (win.commitAuthenticated ctr).2)

def phoneWindowStep (win : UnsignedReplayWindow) :
    WindowOp (BitVec 64) → UnsignedReplayWindow × WindowAnswer
  | .classify ctr => (win, .verdict (win.inspect ctr).verdict)
  | .commit ctr =>
    ((win.commitAuthenticated ctr).1, .committed (win.commitAuthenticated ctr).2)

theorem committedCounters_classify (history : WindowHistory) (ctr : BitVec 64)
    (ans : WindowAnswer) :
    committedCounters BitVec.toNat (history ++ [(.classify ctr, ans)]) =
      committedCounters BitVec.toNat history := by
  have silent : List.filterMap (addedCounter BitVec.toNat) [(.classify ctr, ans)] = [] := rfl
  rw [committedCounters, List.filterMap_append, silent, List.append_nil]
  rfl

theorem committedCounters_commit (history : WindowHistory) (ctr : BitVec 64) (ok : Bool) :
    committedCounters BitVec.toNat (history ++ [(.commit ctr, .committed ok)]) =
      if ok then insert ctr.toNat (committedCounters BitVec.toNat history)
      else committedCounters BitVec.toNat history := by
  unfold committedCounters
  rw [List.filterMap_append]
  cases ok with
  | false =>
    have silent : List.filterMap (addedCounter BitVec.toNat)
        [(.commit ctr, .committed false)] = [] := rfl
    rw [silent, List.append_nil]
    rfl
  | true =>
    ext other
    simp [addedCounter]

theorem hostWindow_remembers (ops : List (WindowOp (BitVec 64))) :
    (Lib.Run.exec hostWindowStep {} ops).Remembers
      (committedCounters BitVec.toNat (Lib.Run.trace hostWindowStep {} ops)) := by
  refine @Lib.Run.history_invariant _ _ _ hostWindowStep
    (fun history win => win.Remembers (committedCounters BitVec.toNat history)) _ ?_ ?_ ops
  · exact SlidingReplayWindow1024.remembers_empty
  · intro history win op remembers
    cases op with
    | classify ctr =>
      rw [committedCounters_classify]
      exact remembers
    | commit ctr =>
      obtain ⟨-, adds, keeps⟩ := remembers.commit ctr
      simp only [hostWindowStep]
      rw [committedCounters_commit]
      cases ok : (win.commitAuthenticated ctr).2 with
      | false =>
        rw [keeps ok]
        exact remembers
      | true => exact adds ok

/-- The size stays, and the window remembers what was committed. -/
theorem phoneWindow_remembers {windowSize : Int} {win : UnsignedReplayWindow}
    (created : UnsignedReplayWindow.create windowSize = some win)
    (ops : List (WindowOp (BitVec 64))) :
    (Lib.Run.exec phoneWindowStep win ops).windowSize = windowSize ∧
      (Lib.Run.exec phoneWindowStep win ops).Remembers
        (committedCounters BitVec.toNat (Lib.Run.trace phoneWindowStep win ops)) := by
  refine @Lib.Run.history_invariant _ _ _ phoneWindowStep
    (fun history win => win.windowSize = windowSize ∧
      win.Remembers (committedCounters BitVec.toNat history)) _ ?_ ?_ ops
  · unfold UnsignedReplayWindow.create at created
    split at created
    · cases created
      refine ⟨by dsimp only; omega, ?_⟩
      have empty := keeps_empty windowSize.toNat 0
      have clear : bit (zeros ((windowSize.toNat + 64 - 1) / 64)) = fun _ => false :=
        funext bit_zeros
      rw [← clear] at empty
      exact empty
    · cases created
  · rintro history win op ⟨size, remembers⟩
    cases op with
    | classify ctr =>
      rw [committedCounters_classify]
      exact ⟨size, remembers⟩
    | commit ctr =>
      obtain ⟨-, adds, keeps⟩ := remembers.commit ctr
      simp only [phoneWindowStep]
      rw [committedCounters_commit]
      refine ⟨by rw [UnsignedReplayWindow.commitAuthenticated_windowSize, size], ?_⟩
      cases ok : (win.commitAuthenticated ctr).2 with
      | false =>
        rw [keeps ok]
        exact remembers
      | true => exact adds ok

/-- What a window answers at some point of a run is decided by the counters committed
    so far. -/
structure Refines (size : Nat) (committed : Finset Nat) (initialized : Bool)
    (highestCounter : BitVec 64) (classify : BitVec 64 → Verdict) (commit : BitVec 64 → Bool)
    (after : BitVec 64 → Finset Nat) (unchanged : BitVec 64 → Prop) : Prop where
  initialized_iff : initialized = true ↔ committed.Nonempty
  highest_eq : initialized = true → highestCounter.toNat = highest committed
  obeys : ∀ counter, Obeys size committed counter.toNat (classify counter) (commit counter)
    (after counter)
  refused : ∀ counter, commit counter = false → unchanged counter

theorem hostWindow_obeys (ops : List (WindowOp (BitVec 64))) (ctr : BitVec 64) :
    Obeys kReplayWindowBits (committedCounters BitVec.toNat (Lib.Run.trace hostWindowStep {} ops))
      ctr.toNat ((Lib.Run.exec hostWindowStep {} ops).classify ctr).verdict
      ((Lib.Run.exec hostWindowStep {} ops).commitAuthenticated ctr).2
      (committedCounters BitVec.toNat
        (Lib.Run.trace hostWindowStep {} (ops ++ [.commit ctr]))) := by
  have remembers := hostWindow_remembers ops
  rw [remembers.classify ctr, Lib.Run.trace_append]
  exact obeys_verdict (remembers.commit ctr).1 (committedCounters_commit _ ctr _)

theorem phoneWindow_obeys {windowSize : Int} {start : UnsignedReplayWindow}
    (created : UnsignedReplayWindow.create windowSize = some start)
    (ops : List (WindowOp (BitVec 64))) (ctr : BitVec 64) :
    Obeys windowSize.toNat
      (committedCounters BitVec.toNat (Lib.Run.trace phoneWindowStep start ops)) ctr.toNat
      ((Lib.Run.exec phoneWindowStep start ops).inspect ctr).verdict
      ((Lib.Run.exec phoneWindowStep start ops).commitAuthenticated ctr).2
      (committedCounters BitVec.toNat
        (Lib.Run.trace phoneWindowStep start (ops ++ [.commit ctr]))) := by
  obtain ⟨size, remembers⟩ := phoneWindow_remembers created ops
  have accepts := (remembers.commit ctr).1
  have isSize : windowSize.toNat = (Lib.Run.exec phoneWindowStep start ops).windowSize := by
    omega
  rw [remembers.inspect ctr, Lib.Run.trace_append, isSize]
  exact obeys_verdict accepts (committedCounters_commit _ ctr _)

theorem windows_agree {start : UnsignedReplayWindow}
    (created : UnsignedReplayWindow.create 1024 = some start) (ops : List (WindowOp (BitVec 64))) :
    Lib.Run.trace hostWindowStep {} ops = Lib.Run.trace phoneWindowStep start ops := by
  induction ops using List.reverseRecOn with
  | nil => rfl
  | append_singleton ops op same =>
    have host := hostWindow_remembers ops
    obtain ⟨size, phone⟩ := phoneWindow_remembers created ops
    have isSize : (Lib.Run.exec phoneWindowStep start ops).windowSize = kReplayWindowBits := by
      simp only [kReplayWindowBits]
      omega
    rw [same] at host
    rw [Lib.Run.trace_append, Lib.Run.trace_append, same]
    congr 1
    cases op with
    | classify ctr =>
      simp only [Lib.Run.trace_cons, Lib.Run.trace_nil, hostWindowStep, phoneWindowStep,
        host.classify ctr, phone.inspect ctr, isSize]
    | commit ctr =>
      simp only [Lib.Run.trace_cons, Lib.Run.trace_nil, hostWindowStep, phoneWindowStep,
        (host.commit ctr).1, (phone.commit ctr).1, isSize]

/-- Both windows answer by the set of committed counters, each with its own size, and
    with equal sizes they answer alike. -/
theorem replay_windows_refine_committed_counters (ops : List (WindowOp (BitVec 64))) :
    (let history := Lib.Run.trace hostWindowStep {} ops
     let win := Lib.Run.exec hostWindowStep {} ops
     Refines 1024 (committedCounters BitVec.toNat history) win.initialized win.highestCounter
       (fun ctr => (win.classify ctr).verdict)
       (fun ctr => (win.commitAuthenticated ctr).2)
       (fun ctr => committedCounters BitVec.toNat
         (Lib.Run.trace hostWindowStep {} (ops ++ [.commit ctr])))
       (fun ctr => (win.commitAuthenticated ctr).1 = win)) ∧
    (∀ (windowSize : Int) (start : UnsignedReplayWindow),
      UnsignedReplayWindow.create windowSize = some start →
      (let history := Lib.Run.trace phoneWindowStep start ops
       let win := Lib.Run.exec phoneWindowStep start ops
       Refines windowSize.toNat (committedCounters BitVec.toNat history) win.initialized
         win.highestCounter (fun ctr => (win.inspect ctr).verdict)
         (fun ctr => (win.commitAuthenticated ctr).2)
         (fun ctr => committedCounters BitVec.toNat
           (Lib.Run.trace phoneWindowStep start (ops ++ [.commit ctr])))
         (fun ctr => (win.commitAuthenticated ctr).1 = win))) ∧
    (∀ start : UnsignedReplayWindow, UnsignedReplayWindow.create 1024 = some start →
      Lib.Run.trace hostWindowStep {} ops = Lib.Run.trace phoneWindowStep start ops) := by
  refine ⟨?_, ?_, ?_⟩
  · intro history win
    have remembers := hostWindow_remembers ops
    exact
      { initialized_iff := remembers.nonempty
        highest_eq := remembers.isTop
        obeys := fun ctr => hostWindow_obeys ops ctr
        refused := fun ctr => (remembers.commit ctr).2.2 }
  · intro windowSize start created history win
    obtain ⟨-, remembers⟩ := phoneWindow_remembers created ops
    exact
      { initialized_iff := remembers.nonempty
        highest_eq := remembers.isTop
        obeys := fun ctr => phoneWindow_obeys created ops ctr
        refused := fun ctr => (remembers.commit ctr).2.2 }
  · intro start created
    exact windows_agree created ops

def largestWindow : UnsignedReplayWindow where
  windowSize := 1024
  admitted := by decide
  seenWords := zeros _

/-- Counters above 2^63, moved up by more than a word: both ends remember the first. -/
theorem windows_agree_past_the_sign : let ops : List (WindowOp (BitVec 64)) :=
      [.commit 0x8000000000000005, .commit 0x8000000000000075, .classify 0x8000000000000005]
    Lib.Run.trace hostWindowStep {} ops = Lib.Run.trace phoneWindowStep largestWindow ops ∧
      ((Lib.Run.exec hostWindowStep {} ops).classify 0x8000000000000005).verdict = .duplicate := by
  intro ops
  have refines := replay_windows_refine_committed_counters ops
  exact ⟨refines.2.2 largestWindow rfl, by decide +kernel⟩

end VisionForge.DataPlane
