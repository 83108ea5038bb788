import VisionForge.Lib.Table
import VisionForge.MobileRuntime.VideoFragmentHeader

/-! # Access units on their way to the decoder

A completed frame is read for its NAL units and waits in the ordered hand-off. The hand-off
opens with an IDR and gives its units away in sequence; whatever it cannot keep in order
closes it until the next IDR.
-/

namespace VisionForge.MobileRuntime

open Lib.Ascii Lib.Table

structure Classification where
  malformed : Bool
  containsIdr : Bool
  containsSps : Bool
  containsPps : Bool
  nalUnitCount : Nat
  deriving DecidableEq

namespace H264AccessUnitClassifier

def malformed (count : Nat) : Classification where
  malformed := true
  containsIdr := false
  containsSps := false
  containsPps := false
  nalUnitCount := count

def scan : Bytes → Nat → Option Nat
  | 0 :: 0 :: 1 :: _, index => some index
  | 0 :: 0 :: 0 :: 1 :: _, index => some index
  | _ :: octets, index => scan octets (index + 1)
  | [], _ => none

def findStartCode (bytes : Bytes) (start : Nat) : Option Nat := scan (bytes.drop start) start

def startCodeLength (bytes : Bytes) (start : Nat) : Except Throwable Nat :=
  match bytes[start + 2]? with
  | none => .error .arrayIndexOutOfBounds
  | some octet => .ok (if octet = 1 then 3 else 4)

/-- The loop over the NAL units; every start code lies behind the one before. -/
def classifyFrom (accessUnit : Bytes) :
    Nat → Option Nat → Classification → Except Throwable Classification
  | _, none, seen => .ok seen
  | 0, some _, seen => .ok (malformed seen.nalUnitCount)
  | fuel + 1, some start, seen =>
    match startCodeLength accessUnit start with
    | .error error => .error error
    | .ok startCode =>
      let headerIndex := start + startCode
      match accessUnit[headerIndex]? with
      | none => .ok (malformed seen.nalUnitCount)
      | some header =>
        let nalType := header.toNat % 32
        if 128 ≤ header.toNat ∨ nalType = 0 ∨ 23 < nalType then
          .ok (malformed seen.nalUnitCount)
        else
          let next := findStartCode accessUnit (headerIndex + 1)
          if next.getD accessUnit.length ≤ headerIndex + 1 then
            .ok (malformed seen.nalUnitCount)
          else
            classifyFrom accessUnit fuel next
              { malformed := false
                containsIdr := seen.containsIdr || nalType == 5
                containsSps := seen.containsSps || nalType == 7
                containsPps := seen.containsPps || nalType == 8
                nalUnitCount := seen.nalUnitCount + 1 }

def classify (accessUnit : Bytes) : Except Throwable Classification :=
  match findStartCode accessUnit 0 with
  | none => .ok (malformed 0)
  | some firstStart =>
    if !(accessUnit.take firstStart).all (· == 0) then .ok (malformed 0)
    else
      classifyFrom accessUnit accessUnit.length (some firstStart)
        { malformed := false
          containsIdr := false
          containsSps := false
          containsPps := false
          nalUnitCount := 0 }

theorem scan_bounds {bs : Bytes} {index start : Nat} (found : scan bs index = some start) :
    index ≤ start ∧ start + 2 < index + bs.length := by
  fun_induction scan bs index with
  | case1 bs index =>
    obtain rfl : index = start := by simpa using found
    simp
  | case2 bs index =>
    obtain rfl : index = start := by simpa using found
    simp
  | case3 octet bs index _ _ ih =>
    have bounds := ih found
    simp only [List.length_cons]
    omega
  | case4 index => simp at found

theorem findStartCode_bounds {bytes : Bytes} {start next : Nat}
    (found : findStartCode bytes start = some next) : start ≤ next ∧ next + 2 < bytes.length := by
  have bounds := scan_bounds found
  rw [List.length_drop] at bounds
  omega

theorem startCodeLength_ok {bytes : Bytes} {start : Nat} (hin : start + 2 < bytes.length) :
    ∃ startCode, startCodeLength bytes start = .ok startCode ∧ 3 ≤ startCode := by
  refine ⟨if bytes[start + 2] = 1 then 3 else 4, ?_, ?_⟩
  · simp [startCodeLength, List.getElem?_eq_getElem hin]
  · split <;> omega

/-- Fuel for each octet behind a start code is enough, and no read is out of bounds. -/
theorem classifyFrom_ok {unit : Bytes} {fuel : Nat} {start : Option Nat} (seen : Classification)
    (hin : ∀ index ∈ start, index + 2 < unit.length ∧ unit.length ≤ index + fuel) :
    ∃ classification, classifyFrom unit fuel start seen = .ok classification ∧
      classifyFrom unit (fuel + 1) start seen = .ok classification := by
  induction fuel generalizing start seen with
  | zero =>
    cases start with
    | none => exact ⟨seen, by simp [classifyFrom], by simp [classifyFrom]⟩
    | some index =>
      have bounds := hin index rfl
      omega
  | succ fuel ih =>
    cases start with
    | none => exact ⟨seen, by simp [classifyFrom], by simp [classifyFrom]⟩
    | some index =>
      have bounds := hin index rfl
      obtain ⟨startCode, isLength, long⟩ := startCodeLength_ok bounds.1
      simp only [classifyFrom, isLength]
      cases read : unit[index + startCode]? with
      | none => exact ⟨_, rfl, rfl⟩
      | some header =>
        simp only
        split_ifs
        · exact ⟨_, rfl, rfl⟩
        · exact ⟨_, rfl, rfl⟩
        · apply ih
          intro next found
          have behind := findStartCode_bounds found
          omega

theorem classify_ok (unit : Bytes) : ∃ classification, classify unit = .ok classification := by
  unfold classify
  cases found : findStartCode unit 0 with
  | none => exact ⟨_, rfl⟩
  | some firstStart =>
    simp only
    split_ifs
    · exact ⟨_, rfl⟩
    · have bounds := findStartCode_bounds found
      obtain ⟨classification, classified, -⟩ := @classifyFrom_ok unit unit.length
        (some firstStart) _ (by intro index isFirst; obtain rfl := Option.some.inj isFirst; omega)
      exact ⟨classification, classified⟩

end H264AccessUnitClassifier

structure AccessUnit where
  streamEpoch : Nat
  frameSequence : Nat
  idr : Bool
  repeatedContent : Bool
  bytes : Bytes
  epoch_pos : 0 < streamEpoch
  sequence_le : frameSequence ≤ UINT32_MAX
  bytes_ne : bytes ≠ []
  deriving DecidableEq

def AccessUnit.new (streamEpoch frameSequence : Nat) (idr repeatedContent : Bool) (bytes : Bytes) :
    Except Throwable AccessUnit :=
  if identity : 0 < streamEpoch ∧ frameSequence ≤ UINT32_MAX then
    if filled : bytes ≠ [] then
      .ok
        { streamEpoch
          frameSequence
          idr
          repeatedContent
          bytes
          epoch_pos := identity.1
          sequence_le := identity.2
          bytes_ne := filled }
    else .error .illegalArgument
  else .error .illegalArgument

inductive HandoffState where
  | waitingIdr
  | running
  | overflowWaitingIdr
  | epochExhausted
  deriving DecidableEq

inductive OfferDecision where
  | accepted
  | stale
  | duplicate
  | conflict
  | needIdr
  | overflow
  | epochAdvanced
  | epochExhausted
  deriving DecidableEq

/-- The units that wait are told apart by their sequences. -/
structure OrderedAccessUnitHandoff where
  capacity : Nat
  capacity_pos : 0 < capacity
  pending : List AccessUnit := []
  state : HandoffState := .waitingIdr
  epoch : Nat := 0
  nextSequence : Option Nat := none
  deriving DecidableEq

namespace OrderedAccessUnitHandoff

def new (capacity : Int) : Except Throwable OrderedAccessUnitHandoff :=
  if positive : 0 < capacity then .ok { capacity := capacity.toNat, capacity_pos := by omega }
  else .error .illegalArgument

def requireFreshIdr (handoff : OrderedAccessUnitHandoff) : OrderedAccessUnitHandoff :=
  { handoff with
    pending := []
    nextSequence := none
    state := if handoff.state = .epochExhausted then .epochExhausted else .waitingIdr }

def insert (handoff : OrderedAccessUnitHandoff) (unit : AccessUnit) (epochAdvanced : Bool) :
    OfferDecision × OrderedAccessUnitHandoff :=
  if handoff.nextSequence.any (unit.frameSequence < ·) then (.stale, handoff)
  else
    match lookup AccessUnit.frameSequence unit.frameSequence handoff.pending with
    | some existing =>
      if existing.idr = unit.idr ∧ existing.repeatedContent = unit.repeatedContent ∧
          existing.bytes = unit.bytes then (.duplicate, handoff)
      else (.conflict, handoff.requireFreshIdr)
    | none =>
      if handoff.capacity ≤ handoff.pending.length then
        (.overflow,
          { handoff with pending := [], nextSequence := none, state := .overflowWaitingIdr })
      else
        (if epochAdvanced then .epochAdvanced else .accepted,
          { handoff with pending := handoff.pending ++ [unit] })

/-- Only an IDR opens a hand-off that is not running. -/
def enter (handoff : OrderedAccessUnitHandoff) (unit : AccessUnit) (epochAdvanced : Bool) :
    OfferDecision × OrderedAccessUnitHandoff :=
  if handoff.state = .running then handoff.insert unit epochAdvanced
  else if unit.idr = false then (.needIdr, handoff)
  else
    { handoff with state := .running, nextSequence := some unit.frameSequence }.insert unit
      epochAdvanced

def offer (handoff : OrderedAccessUnitHandoff) (unit : AccessUnit) :
    OfferDecision × OrderedAccessUnitHandoff :=
  if handoff.epoch = 0 ∨ handoff.epoch < unit.streamEpoch then
    { handoff with
      epoch := unit.streamEpoch
      pending := []
      nextSequence := none
      state := .waitingIdr }.enter unit true
  else if unit.streamEpoch < handoff.epoch then (.stale, handoff)
  else if handoff.state = .epochExhausted then (.epochExhausted, handoff)
  else handoff.enter unit false

/-- The unit that is next, if it is here; the last sequence ends the epoch. -/
def pollReady (handoff : OrderedAccessUnitHandoff) :
    Option AccessUnit × OrderedAccessUnitHandoff :=
  match handoff.nextSequence with
  | none => (none, handoff)
  | some nextSequence =>
    if handoff.state ≠ .running then (none, handoff)
    else
      match lookup AccessUnit.frameSequence nextSequence handoff.pending with
      | none => (none, handoff)
      | some unit =>
        (some unit,
          if nextSequence = UINT32_MAX then
            { handoff with pending := [], nextSequence := none, state := .epochExhausted }
          else
            { handoff with
              pending := handoff.pending.filter (·.frameSequence ≠ nextSequence)
              nextSequence := some (nextSequence + 1) })

def pendingCount (handoff : OrderedAccessUnitHandoff) : Nat := handoff.pending.length

def currentEpoch (handoff : OrderedAccessUnitHandoff) : Nat := handoff.epoch

theorem exhausted_fresh {handoff : OrderedAccessUnitHandoff}
    (hexh : handoff.requireFreshIdr.state = .epochExhausted) :
    handoff.state = .epochExhausted := by
  by_contra other
  simp [requireFreshIdr, other] at hexh

section

variable (handoff : OrderedAccessUnitHandoff) (unit : AccessUnit)

/-- Everything that can become of a unit in a hand-off that runs. -/
theorem insert_cases (epochAdvanced : Bool) :
    handoff.insert unit epochAdvanced = (.stale, handoff) ∨
      handoff.insert unit epochAdvanced = (.duplicate, handoff) ∨
      handoff.insert unit epochAdvanced = (.conflict, handoff.requireFreshIdr) ∨
      (handoff.insert unit epochAdvanced = (.overflow,
          { handoff with pending := [], nextSequence := none, state := .overflowWaitingIdr }) ∧
        handoff.capacity ≤ handoff.pending.length) ∨
      (handoff.insert unit epochAdvanced = (if epochAdvanced then .epochAdvanced else .accepted,
          { handoff with pending := handoff.pending ++ [unit] }) ∧
        lookup AccessUnit.frameSequence unit.frameSequence handoff.pending = none) := by
  unfold insert
  split
  · exact .inl rfl
  · split
    · split
      · exact .inr (.inl rfl)
      · exact .inr (.inr (.inl rfl))
    · next missing =>
        split
        · next full => exact .inr (.inr (.inr (.inl ⟨rfl, full⟩)))
        · exact .inr (.inr (.inr (.inr ⟨rfl, missing⟩)))

theorem epoch_insert (epochAdvanced : Bool) :
    (handoff.insert unit epochAdvanced).2.epoch = handoff.epoch := by
  rcases handoff.insert_cases unit epochAdvanced with is | is | is | ⟨is, -⟩ | ⟨is, -⟩ <;>
    simp [is, requireFreshIdr]

theorem epoch_enter (epochAdvanced : Bool) :
    (handoff.enter unit epochAdvanced).2.epoch = handoff.epoch := by
  unfold enter
  split_ifs
  · exact epoch_insert handoff unit epochAdvanced
  · rfl
  · exact epoch_insert _ unit epochAdvanced

theorem epoch_offer : handoff.epoch ≤ (handoff.offer unit).2.epoch := by
  unfold offer
  split_ifs with advances
  · rw [epoch_enter]
    simp only
    omega
  · exact le_refl _
  · exact le_refl _
  · exact (epoch_enter handoff unit false).ge

theorem running_insert {epochAdvanced : Bool} (running : handoff.state = .running)
    (taken : (handoff.insert unit epochAdvanced).1 ∈
      [OfferDecision.accepted, .epochAdvanced]) :
    (handoff.insert unit epochAdvanced).2.state = .running := by
  rcases handoff.insert_cases unit epochAdvanced with is | is | is | ⟨is, -⟩ | ⟨is, -⟩ <;>
    rw [is] at taken ⊢
  · exact running
  · exact running
  · simp at taken
  · simp at taken
  · exact running

theorem running_enter {epochAdvanced : Bool}
    (taken : (handoff.enter unit epochAdvanced).1 ∈ [OfferDecision.accepted, .epochAdvanced]) :
    (handoff.enter unit epochAdvanced).2.state = .running := by
  unfold enter at taken ⊢
  split_ifs at taken ⊢ with running fresh
  · exact running_insert handoff unit running taken
  · simp at taken
  · exact running_insert _ unit rfl taken

theorem running_offer (taken : (handoff.offer unit).1 ∈ [OfferDecision.accepted, .epochAdvanced]) :
    (handoff.offer unit).2.state = .running := by
  unfold offer at taken ⊢
  split_ifs at taken ⊢
  · exact running_enter _ unit taken
  · simp at taken
  · simp at taken
  · exact running_enter _ unit taken

theorem exhausted_insert {epochAdvanced : Bool}
    (hexh : (handoff.insert unit epochAdvanced).2.state = .epochExhausted) :
    handoff.state = .epochExhausted := by
  rcases handoff.insert_cases unit epochAdvanced with is | is | is | ⟨is, -⟩ | ⟨is, -⟩ <;>
    rw [is] at hexh
  · exact hexh
  · exact hexh
  · exact exhausted_fresh hexh
  · cases hexh
  · exact hexh

theorem exhausted_enter {epochAdvanced : Bool}
    (hexh : (handoff.enter unit epochAdvanced).2.state = .epochExhausted) :
    handoff.state = .epochExhausted := by
  unfold enter at hexh
  split_ifs at hexh
  · exact exhausted_insert handoff unit hexh
  · exact hexh
  · exact absurd (exhausted_insert _ unit hexh) (by simp)

theorem exhausted_offer (hexh : (handoff.offer unit).2.state = .epochExhausted) :
    handoff.state = .epochExhausted := by
  unfold offer at hexh
  split_ifs at hexh with _ _ ended
  · exact absurd (exhausted_enter _ unit hexh) (by simp)
  · exact hexh
  · exact ended
  · exact exhausted_enter handoff unit hexh

theorem insert_ne_exhausted (epochAdvanced : Bool) :
    (handoff.insert unit epochAdvanced).1 ≠ .epochExhausted := by
  rcases handoff.insert_cases unit epochAdvanced with is | is | is | ⟨is, -⟩ | ⟨is, -⟩ <;>
    rw [is]
  · simp
  · simp
  · simp
  · simp
  · cases epochAdvanced <;> simp

theorem enter_ne_exhausted (epochAdvanced : Bool) :
    (handoff.enter unit epochAdvanced).1 ≠ .epochExhausted := by
  unfold enter
  split_ifs
  · exact insert_ne_exhausted handoff unit epochAdvanced
  · simp
  · exact insert_ne_exhausted _ unit epochAdvanced

theorem offer_exhausted (refused : (handoff.offer unit).1 = .epochExhausted) :
    handoff.state = .epochExhausted := by
  unfold offer at refused
  split_ifs at refused with _ _ ended
  · exact absurd refused (enter_ne_exhausted _ unit true)
  · exact ended
  · exact absurd refused (enter_ne_exhausted handoff unit false)

end

end OrderedAccessUnitHandoff

end VisionForge.MobileRuntime
