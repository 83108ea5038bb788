import VisionForge.Lib.Ascii
import VisionForge.Lib.BigEndian

/-! # H.264 byte streams

The NAL units of a byte stream stand between start codes of three or four octets.
-/

namespace VisionForge.Video

open Lib.Ascii

/-- The size of the start code that octets begin with. -/
def startCodeSize (bytes : Bytes) : Option Nat :=
  if [0, 0, 1].isPrefixOf bytes then some 3
  else if [0, 0, 0, 1].isPrefixOf bytes then some 4
  else none

/-- The octets before the next start code, and those from it on. -/
def untilStartCode : Bytes → Bytes × Bytes
  | [] => ([], [])
  | octet :: rest =>
    if (startCodeSize (octet :: rest)).isSome then ([], octet :: rest)
    else (octet :: (untilStartCode rest).1, (untilStartCode rest).2)

def nalType (hdr : UInt8) : Nat := (hdr &&& 0x1f).toNat

section

variable {bytes : Bytes}

theorem startCodeSize_cases {size : Nat} (found : startCodeSize bytes = some size) :
    ∃ rest, (size = 3 ∧ bytes = [0, 0, 1] ++ rest) ∨ (size = 4 ∧ bytes = [0, 0, 0, 1] ++ rest) := by
  unfold startCodeSize at found
  split at found
  · rename_i short
    obtain ⟨rest, rfl⟩ := List.isPrefixOf_iff_prefix.mp short
    cases found
    exact ⟨rest, .inl ⟨rfl, rfl⟩⟩
  · split at found
    · rename_i long
      obtain ⟨rest, rfl⟩ := List.isPrefixOf_iff_prefix.mp long
      cases found
      exact ⟨rest, .inr ⟨rfl, rfl⟩⟩
    · cases found

theorem untilStartCode_append (bytes : Bytes) :
    (untilStartCode bytes).1 ++ (untilStartCode bytes).2 = bytes := by
  induction bytes with
  | nil => rfl
  | cons octet rest ih =>
    unfold untilStartCode
    split
    · rfl
    · rw [List.cons_append, ih]

theorem untilStartCode_next (bytes : Bytes) :
    (untilStartCode bytes).2 = [] ∨ (startCodeSize (untilStartCode bytes).2).isSome = true := by
  induction bytes with
  | nil => exact .inl rfl
  | cons octet rest ih =>
    unfold untilStartCode
    split
    · rename_i found
      exact .inr found
    · exact ih

end

/-! ## Finding an IDR picture

The runtime looks for an IDR slice behind start codes, and behind lengths as well. The phone
classifies access units with start codes only.
-/

open Lib.BigEndian

/-- The header behind a start code that stands at the front. -/
def nalHeader (accessUnit : Bytes) : Option UInt8 :=
  let fourByteStart := [0, 0, 0, 1].isPrefixOf accessUnit && decide (4 < accessUnit.length)
  let threeByteStart := !fourByteStart && [0, 0, 1].isPrefixOf accessUnit
  if fourByteStart then accessUnit[4]?
  else if threeByteStart then accessUnit[3]?
  else none

def h264AnnexBNalTypeMask : Bytes → BitVec 32
  | [] => 0
  | octet :: rest =>
    (match nalHeader (octet :: rest) with
      | some hdr => 1#32 <<< nalType hdr
      | none => 0) ||| h264AnnexBNalTypeMask rest

def avccContainsIdr : Nat → Bytes → Bool
  | 0, _ => false
  | turns + 1, accessUnit =>
    if accessUnit.length < 4 then false
    else
      let length := load (accessUnit.take 4)
      let unit := accessUnit.drop 4
      if length = 0 ∨ unit.length < length then false
      else if nalType (unit.headD 0) = 5 then true
      else avccContainsIdr turns (unit.drop length)

def h264AvccContainsIdr (accessUnit : Bytes) : Bool := avccContainsIdr accessUnit.length accessUnit

def h264AccessUnitContainsIdr (accessUnit : Bytes) : Bool :=
  (h264AnnexBNalTypeMask accessUnit &&& (1#32 <<< 5)) != 0 || h264AvccContainsIdr accessUnit

structure Classification where
  malformed : Bool
  containsIdr : Bool := false
  containsSps : Bool := false
  containsPps : Bool := false
  nalUnitCount : Nat
  deriving DecidableEq

def classifyFrom : Nat → Bytes → Classification → Classification
  | 0, _, found => found
  | turns + 1, start, found =>
    match start.drop ((startCodeSize start).getD 0) with
    | [] => { malformed := true, nalUnitCount := found.nalUnitCount }
    | hdr :: body =>
      if hdr &&& 0x80 ≠ 0 ∨ nalType hdr = 0 ∨ 23 < nalType hdr then
        { malformed := true, nalUnitCount := found.nalUnitCount }
      else
        let (unit, next) := untilStartCode body
        if unit.isEmpty then { malformed := true, nalUnitCount := found.nalUnitCount }
        else
          let found :=
            { found with
              containsIdr := found.containsIdr || nalType hdr == 5
              containsSps := found.containsSps || nalType hdr == 7
              containsPps := found.containsPps || nalType hdr == 8
              nalUnitCount := found.nalUnitCount + 1 }
          if next.isEmpty then found else classifyFrom turns next found

def classify (accessUnit : Bytes) : Classification :=
  let (leading, start) := untilStartCode accessUnit
  if start.isEmpty || leading.any (· != 0) then { malformed := true, nalUnitCount := 0 }
  else classifyFrom start.length start { malformed := false, nalUnitCount := 0 }

def ContainsNal (type : Nat) (bytes : Bytes) : Prop :=
  ∃ before hdr after, bytes = before ++ ([0, 0, 1] ++ hdr :: after) ∧ nalType hdr = type

section

variable {type : Nat} {octet hdr : UInt8} {rest body : Bytes}

theorem containsNal_cons : ContainsNal type (octet :: rest) ↔
    (∃ hdr after, octet :: rest = [0, 0, 1] ++ hdr :: after ∧ nalType hdr = type) ∨
      ContainsNal type rest := by
  constructor
  · rintro ⟨pre, hdr, after, split, isType⟩
    cases pre with
    | nil => exact .inl ⟨hdr, after, split, isType⟩
    | cons first pre =>
      rw [List.cons_append, List.cons.injEq] at split
      exact .inr ⟨pre, hdr, after, split.2, isType⟩
  · rintro (⟨hdr, after, split, isType⟩ | ⟨pre, hdr, after, split, isType⟩)
    · exact ⟨[], hdr, after, split, isType⟩
    · exact ⟨octet :: pre, hdr, after, congrArg (octet :: ·) split, isType⟩

theorem not_containsNal_nil : ¬ContainsNal type [] := by
  rintro ⟨pre, hdr, after, split, -⟩
  simp at split

/-- Octets without a start code contain no NAL unit, and those after them contain the same. -/
theorem containsNal_untilStartCode (bytes : Bytes) :
    ContainsNal type bytes ↔ ContainsNal type (untilStartCode bytes).2 := by
  induction bytes with
  | nil => rfl
  | cons octet rest ih =>
    unfold untilStartCode
    split
    · rfl
    · rename_i none
      rw [containsNal_cons, ih, or_iff_right]
      rintro ⟨hdr, after, split, -⟩
      rw [split] at none
      exact none rfl

/-- A NAL unit with a header that is not zero is found where its start code is. -/
theorem containsNal_unit {startCode : Bytes} (nonzero : hdr ≠ 0)
    (isStart : startCode = [0, 0, 1] ∨ startCode = [0, 0, 0, 1]) :
    ContainsNal type (startCode ++ hdr :: body) ↔
      nalType hdr = type ∨ ContainsNal type body := by
  have short : ContainsNal type ([0, 0, 1] ++ hdr :: body) ↔
      nalType hdr = type ∨ ContainsNal type body := by
    simp only [List.cons_append, List.nil_append]
    rw [containsNal_cons, containsNal_cons, containsNal_cons, containsNal_cons]
    simp [nonzero]
  cases isStart with
  | inl same => rw [same, short]
  | inr same =>
    rw [same, ← short]
    simp only [List.cons_append, List.nil_append]
    rw [containsNal_cons]
    simp

theorem nalHeader_eq_some {bytes : Bytes} (found : nalHeader bytes = some hdr) :
    ∃ after, bytes = [0, 0, 1] ++ hdr :: after ∨ bytes = 0 :: ([0, 0, 1] ++ hdr :: after) := by
  unfold nalHeader at found
  dsimp only at found
  split at found
  · rename_i four
    obtain ⟨after, rfl⟩ := List.isPrefixOf_iff_prefix.mp (Bool.and_eq_true_iff.mp four).1
    cases after with
    | nil => cases found
    | cons first after =>
      cases found
      exact ⟨after, .inr rfl⟩
  · split at found
    · rename_i three
      obtain ⟨after, rfl⟩ := List.isPrefixOf_iff_prefix.mp (Bool.and_eq_true_iff.mp three).2
      cases after with
      | nil => cases found
      | cons first after =>
        cases found
        exact ⟨after, .inl rfl⟩
    · cases found

theorem getLsbD_nalType : (1#32 <<< nalType hdr).getLsbD type = decide (nalType hdr = type) := by
  have small : nalType hdr < 32 := by
    have le : nalType hdr ≤ (0x1f : UInt8).toNat := Nat.and_le_right
    exact Nat.lt_succ_of_le le
  grind

/-- Each bit of the mask is a type of NAL unit. -/
theorem getLsbD_mask (bytes : Bytes) :
    (h264AnnexBNalTypeMask bytes).getLsbD type = true ↔ ContainsNal type bytes := by
  induction bytes with
  | nil => simp [h264AnnexBNalTypeMask, not_containsNal_nil]
  | cons octet rest ih =>
    rw [h264AnnexBNalTypeMask, BitVec.getLsbD_or, Bool.or_eq_true, ih, containsNal_cons]
    cases found : nalHeader (octet :: rest) with
    | none =>
      have apart : ¬∃ hdr after, octet :: rest = [0, 0, 1] ++ hdr :: after ∧
          nalType hdr = type := by
        rintro ⟨hdr, after, split, -⟩
        rw [split] at found
        cases found
      rw [or_iff_right apart]
      simp
    | some hdr =>
      rw [getLsbD_nalType, decide_eq_true_eq]
      constructor
      · rintro (isType | inRest)
        · obtain ⟨after, split | split⟩ := nalHeader_eq_some found
          · exact .inl ⟨hdr, after, split, isType⟩
          · exact .inr ⟨[], hdr, after, (List.cons.inj split).2, isType⟩
        · exact .inr inRest
      · rintro (⟨other, after, split, isType⟩ | inRest)
        · rw [split] at found
          cases found
          exact .inl isType
        · exact .inr inRest

/-- A well-formed access unit is searched to its end. -/
theorem classifyFrom_containsIdr {turns : Nat} {start : Bytes} {found : Classification}
    (enough : start.length ≤ turns) (isStart : (startCodeSize start).isSome = true)
    (wellFormed : (classifyFrom turns start found).malformed = false) :
    (classifyFrom turns start found).containsIdr = true ↔
      found.containsIdr = true ∨ ContainsNal 5 start := by
  induction turns generalizing start found with
  | zero =>
    cases List.length_eq_zero_iff.mp (Nat.le_zero.mp enough)
    cases isStart
  | succ turns ih =>
    obtain ⟨size, isSize⟩ := Option.isSome_iff_exists.mp isStart
    obtain ⟨rest, split⟩ := startCodeSize_cases isSize
    have dropped : start.drop size = rest := by
      obtain ⟨rfl, rfl⟩ | ⟨rfl, rfl⟩ := split <;> rfl
    unfold classifyFrom at wellFormed ⊢
    rw [isSize, Option.getD_some, dropped] at wellFormed ⊢
    cases rest with
    | nil => cases wellFormed
    | cons hdr body =>
      dsimp only at wellFormed ⊢
      split at wellFormed
      · cases wellFormed
      rename_i valid
      rw [if_neg valid]
      split at wellFormed
      · cases wellFormed
      rename_i full
      rw [if_neg full]
      have nonzero : hdr ≠ 0 := by
        rintro rfl
        exact valid (.inr (.inl rfl))
      have unit : ContainsNal 5 start ↔
          nalType hdr = 5 ∨ ContainsNal 5 (untilStartCode body).2 := by
        rw [← containsNal_untilStartCode]
        obtain ⟨-, rfl⟩ | ⟨-, rfl⟩ := split
        · exact containsNal_unit nonzero (.inl rfl)
        · exact containsNal_unit nonzero (.inr rfl)
      rw [unit]
      split at wellFormed
      · rename_i last
        rw [if_pos last, List.isEmpty_iff.mp last]
        simp [not_containsNal_nil]
      · rename_i more
        rw [if_neg more, ih _ _ wellFormed]
        · simp [or_assoc]
        · have length := congrArg List.length (untilStartCode_append body)
          have used := congrArg List.length dropped
          simp only [List.length_append, List.length_drop, List.length_cons] at length used
          omega
        · exact (untilStartCode_next body).resolve_left (by simpa using more)

theorem classify_containsIdr {bytes : Bytes} (annexB : (startCodeSize bytes).isSome = true)
    (wellFormed : (classify bytes).malformed = false) :
    (classify bytes).containsIdr = true ↔ ContainsNal 5 bytes := by
  have front : untilStartCode bytes = ([], bytes) := by
    cases bytes with
    | nil => rfl
    | cons octet rest => rw [untilStartCode, if_pos annexB]
  unfold classify at wellFormed ⊢
  rw [front] at wellFormed ⊢
  dsimp only at wellFormed ⊢
  split at wellFormed
  · cases wellFormed
  rename_i present
  rw [if_neg present, classifyFrom_containsIdr le_rfl annexB wellFormed]
  simp

/-- The mask finds the IDR slices, so that the runtime is right, and agrees with the phone,
    exactly where the lengths that it reads as well do not lead to another one. -/
theorem idr_detection_exact_iff (bytes : Bytes) (annexB : (startCodeSize bytes).isSome = true) :
    ((h264AccessUnitContainsIdr bytes = true ↔ ContainsNal 5 bytes) ∧
        ((classify bytes).malformed = false →
          h264AccessUnitContainsIdr bytes = (classify bytes).containsIdr)) ↔
      (h264AvccContainsIdr bytes = true → ContainsNal 5 bytes) := by
  have mask : ((h264AnnexBNalTypeMask bytes &&& (1#32 <<< 5)) != 0) = true ↔
      ContainsNal 5 bytes := by
    rw [← getLsbD_mask, ← BitVec.twoPow_eq, BitVec.and_twoPow]
    cases (h264AnnexBNalTypeMask bytes).getLsbD 5 with
    | false => simp
    | true => decide
  have finds : h264AccessUnitContainsIdr bytes = true ↔
      ContainsNal 5 bytes ∨ h264AvccContainsIdr bytes = true := by
    rw [h264AccessUnitContainsIdr, Bool.or_eq_true, mask]
  rw [finds]
  constructor
  · rintro ⟨exact, -⟩ lengths
    exact exact.mp (.inr lengths)
  · intro lengths
    have exact : ContainsNal 5 bytes ∨ h264AvccContainsIdr bytes = true ↔ ContainsNal 5 bytes :=
      or_iff_left_of_imp lengths
    refine ⟨exact, fun wellFormed => ?_⟩
    rw [Bool.eq_iff_iff, finds, exact, classify_containsIdr annexB wellFormed]

/-- Two parameter sets and an IDR slice, after start codes of both lengths. -/
def parametersAndIdr : Bytes :=
  [0, 0, 0, 1, 0x67, 0x42, 0, 0, 1, 0x68, 0xce, 0, 0, 0, 1, 0x65, 0x88]

theorem idr_slice_detected :
    (h264AccessUnitContainsIdr parametersAndIdr = true ↔ ContainsNal 5 parametersAndIdr) ∧
      ((classify parametersAndIdr).malformed = false →
        h264AccessUnitContainsIdr parametersAndIdr = (classify parametersAndIdr).containsIdr) :=
  (idr_detection_exact_iff _ rfl).mpr fun _ =>
    ⟨[0, 0, 0, 1, 0x67, 0x42, 0, 0, 1, 0x68, 0xce, 0], 0x65, [0x88], rfl, rfl⟩

/-- A slice without IDR, of which the lengths lead to an IDR slice. -/
def lengthPrefixedSlice : Bytes := [0, 0, 0, 1, 0x41, 0, 0, 0, 2, 0x65, 0x88]

theorem lengths_mistaken_for_idr :
    (startCodeSize lengthPrefixedSlice).isSome = true ∧
      h264AccessUnitContainsIdr lengthPrefixedSlice = true ∧ ¬ContainsNal 5 lengthPrefixedSlice ∧
      (classify lengthPrefixedSlice).malformed = false ∧
      (classify lengthPrefixedSlice).containsIdr = false := by
  have unseen : (h264AnnexBNalTypeMask lengthPrefixedSlice).getLsbD 5 = false := by decide
  refine ⟨by decide, by decide, ?_, by decide, by decide⟩
  rw [← getLsbD_mask, unseen]
  exact Bool.false_ne_true

end

end VisionForge.Video
