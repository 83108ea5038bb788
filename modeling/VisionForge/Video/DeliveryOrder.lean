import Mathlib.Data.List.Chain
import VisionForge.Video.Stream

/-! # The order of delivery

A call first arranges the frames, and most calls then look for a completed one. Only
this second part returns anything, and only activation and it move the cursor. What a
run returns is followed together with the seeds that activation gives the cursor.
-/

namespace VisionForge.Video

open Lib.Ascii Lib.Weights

namespace AccessUnitReassembler

variable {reasm : AccessUnitReassembler}

/-! ## What the first part can do -/

structure Shrinks (before after : AccessUnitReassembler) : Prop where
  activeEpoch : after.activeEpoch = before.activeEpoch
  retiredThrough : after.retiredThrough = before.retiredThrough
  lastDeliveredSequence : after.lastDeliveredSequence = before.lastDeliveredSequence
  entries : ∀ entry ∈ after.pending.entries, entry ∈ before.pending.entries

theorem Shrinks.refl (reasm : AccessUnitReassembler) : Shrinks reasm reasm :=
  ⟨rfl, rfl, rfl, fun _ mem => mem⟩

theorem Shrinks.trans {first snd third : AccessUnitReassembler} (h : Shrinks first snd)
    (k : Shrinks snd third) : Shrinks first third :=
  ⟨k.activeEpoch.trans h.activeEpoch, k.retiredThrough.trans h.retiredThrough,
    k.lastDeliveredSequence.trans h.lastDeliveredSequence,
    fun entry mem => h.entries entry (k.entries entry mem)⟩

theorem shrinks_erasePending (reasm : AccessUnitReassembler) (seq : Nat)
    (countAsLoss : Bool) : Shrinks reasm (reasm.erasePending seq countAsLoss) := by
  unfold erasePending
  split
  · exact .refl reasm
  · exact ⟨rfl, rfl, rfl, fun entry mem => mem_erase mem⟩

theorem shrinks_countAvoided (reasm : AccessUnitReassembler) (view : Bool) (size : Nat) :
    Shrinks reasm (reasm.countAvoided view size) := by
  unfold countAvoided
  split <;> exact ⟨rfl, rfl, rfl, fun _ mem => mem⟩

theorem shrinks_discardWhileOverBudget (turns : Nat) (reasm : AccessUnitReassembler) :
    Shrinks reasm (discardWhileOverBudget turns reasm) := by
  induction turns generalizing reasm with
  | zero => exact .refl reasm
  | succ turns ih =>
    unfold discardWhileOverBudget
    split
    · have first : Shrinks reasm reasm.discardOldest := by
        unfold discardOldest
        split
        · exact .refl reasm
        · exact shrinks_erasePending _ _ _
      exact first.trans (ih _)
    · exact .refl reasm

theorem shrinks_discardExpired (reasm : AccessUnitReassembler) (nowUs ttlUs : Nat) :
    Shrinks reasm (reasm.discardExpired nowUs ttlUs).1 := by
  unfold discardExpired
  generalize reasm.pending.entries = entries
  generalize 0 = discarded
  induction entries generalizing reasm discarded with
  | nil => exact .refl reasm
  | cons entry entries ih =>
    rw [List.foldl_cons]
    dsimp only
    split
    · exact (shrinks_erasePending _ _ _).trans (ih _ _)
    · exact ih _ _

/-- The frame a fragment has just been stored in. -/
structure StoredFrom (fragment : VideoFragment) (before : AccessUnitReassembler)
    (entry : Σ _ : Nat, PendingFrame) : Prop where
  sequence : entry.1 = fragment.identity.frameSequence
  frame : ∃ frame : PendingFrame, entry.2 = frame.store fragment.fragmentIndex fragment.accessUnitPart ∧
    frame.expectedFragments = fragment.fragmentCount ∧
    frame.repeatedContent = fragment.repeatedContent ∧
    (⟨entry.1, frame⟩ ∈ before.pending.entries ∨
      (∀ index, frame.received.getD index false = false) ∧
        frame.parts.length = frame.expectedFragments)

/-- Epoch and cursor stay, and a frame that was not there holds the fragment. -/
structure Receives (fragment : VideoFragment) (before after : AccessUnitReassembler) : Prop where
  activeEpoch : after.activeEpoch = before.activeEpoch
  retiredThrough : after.retiredThrough = before.retiredThrough
  lastDeliveredSequence : after.lastDeliveredSequence = before.lastDeliveredSequence
  entries : ∀ entry ∈ after.pending.entries,
    entry ∈ before.pending.entries ∨ StoredFrom fragment before entry

theorem Shrinks.receives {before after : AccessUnitReassembler} (h : Shrinks before after)
    (frag : VideoFragment) : Receives frag before after :=
  ⟨h.activeEpoch, h.retiredThrough, h.lastDeliveredSequence,
    fun entry mem => .inl (h.entries entry mem)⟩

theorem Receives.shrinks {frag : VideoFragment} {first snd third : AccessUnitReassembler}
    (h : Receives frag first snd) (k : Shrinks snd third) :
    Receives frag first third :=
  ⟨k.activeEpoch.trans h.activeEpoch, k.retiredThrough.trans h.retiredThrough,
    k.lastDeliveredSequence.trans h.lastDeliveredSequence,
    fun entry mem => h.entries entry (k.entries entry mem)⟩

/-- The frame of a fragment was there or is new, and nothing else was made. -/
theorem emplace_spec (reasm : AccessUnitReassembler) (frag : VideoFragment)
    (nowUs : Nat) {after : AccessUnitReassembler} {frame : PendingFrame}
    (h : reasm.emplace frag nowUs = (after, frame)) :
    (after.activeEpoch = reasm.activeEpoch ∧
      after.retiredThrough = reasm.retiredThrough ∧
      after.lastDeliveredSequence = reasm.lastDeliveredSequence) ∧
    (∀ entry ∈ (after.pending.erase frag.identity.frameSequence).entries,
      entry ∈ reasm.pending.entries) ∧
    (⟨frag.identity.frameSequence, frame⟩ ∈ reasm.pending.entries ∧
        after = reasm ∨
      (∀ index, frame.received.getD index false = false) ∧
        frame.parts.length = frame.expectedFragments) := by
  unfold emplace at h
  split at h
  · rename_i found there
    cases h
    exact ⟨⟨rfl, rfl, rfl⟩, fun entry mem => mem_erase mem, .inl ⟨mem_entries_of_lookup there, rfl⟩⟩
  · cases h
    refine ⟨⟨rfl, rfl, rfl⟩, ?_, .inr ⟨?_, List.length_replicate⟩⟩
    · intro entry mem
      rw [erase_insert] at mem
      exact mem_erase mem
    · intro index
      simp [PendingFrame.new, List.getD_eq_getElem?_getD, List.getElem?_replicate]
      split <;> rfl

theorem receivePending_receives (reasm : AccessUnitReassembler) (frag : VideoFragment)
    (view : Bool) (nowUs : Nat) :
    Receives frag reasm (reasm.receivePending frag view nowUs).1 := by
  unfold receivePending
  generalize isOutcome : reasm.emplace frag nowUs = outcome
  obtain ⟨after, frame⟩ := outcome
  obtain ⟨⟨epoch, retired, cursor⟩, others, origin⟩ := emplace_spec _ _ _ isOutcome
  have dropped : Receives frag reasm
      (after.erasePending frag.identity.frameSequence true) := by
    have kept := shrinks_erasePending after frag.identity.frameSequence true
    refine ⟨kept.activeEpoch.trans epoch, kept.retiredThrough.trans retired,
      kept.lastDeliveredSequence.trans cursor, ?_⟩
    intro entry mem
    rw [erasePending_pending] at mem
    exact .inl (others entry mem)
  dsimp only
  split
  · exact ⟨dropped.activeEpoch, dropped.retiredThrough, dropped.lastDeliveredSequence,
      dropped.entries⟩
  rename_i agrees
  rw [not_or, not_not, not_not] at agrees
  split
  · rename_i present
    split
    · exact ⟨dropped.activeEpoch, dropped.retiredThrough, dropped.lastDeliveredSequence,
        dropped.entries⟩
    · cases origin with
      | inl old =>
        rw [old.2]
        exact (shrinks_countAvoided _ _ _).receives frag
      | inr new =>
        rw [new.1] at present
        cases present
  split
  · exact dropped
  · refine Receives.shrinks ?_ (shrinks_discardWhileOverBudget _ _)
    refine ⟨epoch, retired, cursor, ?_⟩
    intro entry mem
    cases mem_insert mem with
    | inl isNew =>
      rw [isNew]
      refine .inr ⟨rfl, frame, rfl, agrees.1, agrees.2, ?_⟩
      cases origin with
      | inl old => exact .inl old.1
      | inr new => exact .inr new
    | inr isOld => exact .inl (others entry isOld)

/-! ## Activation -/

inductive Activates (before : AccessUnitReassembler) (streamEpoch : Nat) (seed : Option Nat) :
    AccessUnitReassembler × Bool → Prop
  | rejected : Activates before streamEpoch seed (before, false)
  | kept (active : before.activeEpoch = some streamEpoch)
      (unseeded : seed.isSome = true → before.lastDeliveredSequence = none →
        before.pending.entries ≠ []) :
      Activates before streamEpoch seed (before, true)
  | seeded (given : seed.isSome = true) (active : before.activeEpoch = some streamEpoch)
      (cursor : before.lastDeliveredSequence = none) (empty : before.pending.entries = []) :
      Activates before streamEpoch seed ({ before with lastDeliveredSequence := seed }, true)
  | switched {after : AccessUnitReassembler}
      (newer : ∀ active, before.activeEpoch = some active → active < streamEpoch)
      (active : after.activeEpoch = some streamEpoch)
      (cursor : after.lastDeliveredSequence = seed) (empty : after.pending.entries = [])
      (retired : ∀ bound, after.retiredThrough = some bound → bound < streamEpoch) :
      Activates before streamEpoch seed (after, true)

theorem retiredThrough_rememberRetiredEpoch {epoch bound limit : Nat}
    (below : epoch < limit) (h : ∀ bound, reasm.retiredThrough = some bound → bound < limit)
    (after : (reasm.rememberRetiredEpoch epoch).retiredThrough = some bound) :
    bound < limit := by
  unfold rememberRetiredEpoch at after
  split at after
  · exact h bound after
  split at after
  · cases after
    exact below
  split at after
  · cases after
    exact below
  · exact h bound after

theorem activateEpoch_activates (reasm : AccessUnitReassembler) (epoch : Nat)
    (seed : Option Nat) :
    Activates reasm epoch seed (reasm.activateEpoch epoch seed) := by
  unfold activateEpoch
  split
  · exact .rejected
  rename_i ok
  simp only [Bool.or_eq_true, not_or, Option.any_eq_true, decide_eq_true_eq, not_exists,
    not_and, Nat.not_lt] at ok
  obtain ⟨⟨-, notRetired⟩, notOlder⟩ := ok
  split
  · rename_i on
    split
    · rename_i fresh
      simp only [Bool.and_eq_true, Option.isNone_iff_eq_none, List.isEmpty_iff] at fresh
      exact .seeded fresh.1.1 on fresh.1.2 fresh.2
    · rename_i stale
      simp only [Bool.and_eq_true, Option.isNone_iff_eq_none, List.isEmpty_iff, not_and,
        and_imp] at stale
      exact .kept on stale
  rename_i other
  have bounded : ∀ bound, reasm.retiredThrough = some bound → bound < epoch := by
    intro bound isBound
    unfold isRetiredEpoch at notRetired
    rw [isBound] at notRetired
    simpa using notRetired
  have newer : ∀ on, reasm.activeEpoch = some on → on < epoch := by
    intro on hact
    have le := notOlder on hact
    have ne : on ≠ epoch := by
      rintro rfl
      exact other hact
    omega
  refine .switched newer rfl rfl rfl ?_
  intro bound isBound
  cases hact : reasm.activeEpoch with
  | some on =>
    simp only [hact] at isBound
    exact retiredThrough_rememberRetiredEpoch (newer on hact) bounded isBound
  | none =>
    simp only [hact] at isBound
    by_cases first : 1 < epoch
    · rw [if_pos first] at isBound
      exact retiredThrough_rememberRetiredEpoch (show epoch - 1 < epoch by omega)
        bounded isBound
    · rw [if_neg first] at isBound
      exact bounded bound isBound

/-! ## Delivery -/

inductive Pops (before : AccessUnitReassembler) :
    AccessUnitReassembler × Option CompletedAccessUnit → Prop
  | nothing : Pops before (before, none)
  | delivers {epoch sequence : Nat} {frame : PendingFrame}
      (active : before.activeEpoch = some epoch)
      (pending : ⟨sequence, frame⟩ ∈ before.pending.entries)
      (next : ∀ last, before.lastDeliveredSequence = some last → sequence = last + 1)
      (first : before.lastDeliveredSequence = none → before.oldest = some ⟨sequence, frame⟩)
      (complete : frame.receivedFragments = frame.expectedFragments) :
      Pops before
        (({ before with lastDeliveredSequence := some sequence }).erasePending sequence false,
          some ⟨⟨epoch, sequence⟩, frame.repeatedContent, frame.parts.flatten⟩)

theorem popCompleted_pops (reasm : AccessUnitReassembler) : Pops reasm reasm.popCompleted := by
  unfold popCompleted
  split
  · rename_i epoch seq frame on isNext
    split
    · exact .nothing
    · rename_i whole
      rw [not_not] at whole
      unfold nextFrame at isNext
      split at isNext
      · rename_i last cursor
        obtain ⟨want, advanced, found⟩ := Option.bind_eq_some_iff.mp isNext
        obtain ⟨held, isHeld, same⟩ := Option.map_eq_some_iff.mp found
        cases same
        unfold advanceVideoFrameSequence at advanced
        split at advanced
        · cases advanced
        · cases advanced
          refine .delivers on (mem_entries_of_lookup isHeld) ?_ ?_ whole
          · intro other isOther
            rw [cursor] at isOther
            cases isOther
            rfl
          · intro missing
            rw [cursor] at missing
            cases missing
      · rename_i cursor
        refine .delivers on (oldest_mem isNext) ?_ (fun _ => isNext) whole
        intro last isLast
        rw [cursor] at isLast
        cases isLast
  · exact .nothing

end AccessUnitReassembler

/-! ## Fragments a frame was made of -/

/-- Every part a frame has received is a pushed fragment of its identity. -/
def PendingFrame.MadeOf (pushed : List VideoFragment) (identity : VideoFrameIdentity)
    (frame : PendingFrame) : Prop :=
  ∀ index, frame.received.getD index false = true → ∃ fragment ∈ pushed,
    fragment.identity = identity ∧ fragment.fragmentIndex = index ∧
      fragment.fragmentCount = frame.expectedFragments ∧
      fragment.repeatedContent = frame.repeatedContent ∧
      fragment.accessUnitPart = frame.parts.getD index []

theorem PendingFrame.MadeOf.mono {pushed more : List VideoFragment} {identity : VideoFrameIdentity}
    {frame : PendingFrame} (h : frame.MadeOf pushed identity)
    (subset : ∀ frag ∈ pushed, frag ∈ more) : frame.MadeOf more identity := by
  intro index received
  obtain ⟨frag, mem, facts⟩ := h index received
  exact ⟨frag, subset frag mem, facts⟩

theorem PendingFrame.MadeOf.store {pushed : List VideoFragment} {frag : VideoFragment}
    {frame : PendingFrame} (h : frame.MadeOf pushed frag.identity)
    (mem : frag ∈ pushed) (slots : frag.fragmentIndex < frame.parts.length)
    (count : frame.expectedFragments = frag.fragmentCount)
    (repeated : frame.repeatedContent = frag.repeatedContent) :
    (frame.store frag.fragmentIndex frag.accessUnitPart).MadeOf pushed
      frag.identity := by
  intro index received
  unfold PendingFrame.store at received ⊢
  by_cases same : frag.fragmentIndex = index
  · refine ⟨frag, mem, rfl, same, count.symm, repeated.symm, ?_⟩
    rw [← same, getD_set_self slots]
  · rw [getD_set_of_ne same] at received ⊢
    exact h index received

theorem getD_of_count_eq_length {flags : List Bool} (all : flags.count true = flags.length)
    {index : Nat} (hin : index < flags.length) : flags.getD index false = true := by
  rw [List.getD_eq_getElem _ _ hin]
  exact (List.count_eq_length.mp all _ (List.getElem_mem hin)).symm

/-- The index-order concatenation of pushed fragments of one identity. -/
def CompletedAccessUnit.ConcatenationOf (accessUnit : CompletedAccessUnit)
    (pushed : List VideoFragment) : Prop :=
  ∃ fragments : List VideoFragment, fragments ≠ [] ∧
    accessUnit.bytes = (fragments.map VideoFragment.accessUnitPart).flatten ∧
    ∀ index (inside : index < fragments.length),
      fragments[index] ∈ pushed ∧ fragments[index].identity = accessUnit.identity ∧
        fragments[index].fragmentIndex = index ∧
        fragments[index].fragmentCount = fragments.length ∧
        fragments[index].repeatedContent = accessUnit.repeatedContent

theorem PendingFrame.MadeOf.flatten {pushed : List VideoFragment} {identity : VideoFrameIdentity}
    {frame : PendingFrame} (h : frame.MadeOf pushed identity) (sound : frame.Sound)
    (begun : 1 ≤ frame.receivedFragments)
    (whole : frame.receivedFragments = frame.expectedFragments) :
    CompletedAccessUnit.ConcatenationOf ⟨identity, frame.repeatedContent, frame.parts.flatten⟩
      pushed := by
  have all : frame.received.count true = frame.received.length := by
    rw [← sound.counted, whole, sound.flags]
  have has (index : Fin frame.expectedFragments) : frame.received.getD index false = true :=
    getD_of_count_eq_length all (by rw [sound.flags]; exact index.isLt)
  choose frag mem facts using fun index : Fin frame.expectedFragments =>
    h index (has index)
  have parts : frame.parts = (List.ofFn frag).map VideoFragment.accessUnitPart := by
    apply List.ext_getElem
    · rw [List.length_map, List.length_ofFn, sound.slots]
    · intro index first snd
      rw [List.getElem_map, List.getElem_ofFn, (facts _).2.2.2.2, List.getD_eq_getElem _ _ first]
  refine ⟨List.ofFn frag, ?_, by rw [parts], ?_⟩
  · rw [← List.length_pos_iff, List.length_ofFn]
    omega
  · intro index hin
    rw [List.length_ofFn] at hin
    obtain ⟨isIdentity, isIndex, isCount, isRepeated, -⟩ := facts ⟨index, hin⟩
    rw [List.getElem_ofFn, List.length_ofFn]
    exact ⟨mem _, isIdentity, isIndex, isCount, isRepeated⟩

/-! ## Runs and their cursor -/

def ReassemblerAnswer.accessUnit : ReassemblerAnswer → Option CompletedAccessUnit
  | .completed accessUnit => accessUnit
  | .activated _ => none
  | .discarded _ => none

def arrange (reasm : AccessUnitReassembler) : ReassemblerOp → AccessUnitReassembler × Bool
  | .activateEpoch streamEpoch seed => ((reasm.activateEpoch streamEpoch seed).1, false)
  | .push fragment nowUs => reasm.receivePayload fragment false nowUs
  | .pushView fragment nowUs => reasm.receivePayload fragment true nowUs
  | .popCompleted => (reasm, true)
  | .discardExpired nowUs ttlUs => ((reasm.discardExpired nowUs ttlUs).1, false)

theorem reassemblerStep_eq_look (reasm : AccessUnitReassembler) (op : ReassemblerOp) :
    ((reassemblerStep reasm op).1, (reassemblerStep reasm op).2.accessUnit) =
      AccessUnitReassembler.look (arrange reasm op) := by
  cases op with
  | activateEpoch streamEpoch seed => rfl
  | push frag nowUs => rfl
  | pushView frag nowUs => rfl
  | popCompleted => rfl
  | discardExpired nowUs ttlUs => rfl

def ReassemblerOp.fragment : ReassemblerOp → Option VideoFragment
  | .push fragment _ => some fragment
  | .pushView fragment _ => some fragment
  | .activateEpoch _ _ => none
  | .popCompleted => none
  | .discardExpired _ _ => none

def pushed (ops : List ReassemblerOp) : List VideoFragment := ops.filterMap ReassemblerOp.fragment

/-- A seed is taken by a fresh epoch, or by the active one while it is empty. -/
def seedOf (reasm : AccessUnitReassembler) : ReassemblerOp → Option VideoFrameIdentity
  | .activateEpoch streamEpoch (some sequence) =>
    if (reasm.activateEpoch streamEpoch (some sequence)).2 ∧
        (reasm.activeEpoch ≠ some streamEpoch ∨
          reasm.lastDeliveredSequence = none ∧ reasm.pending.entries = []) then
      some ⟨streamEpoch, sequence⟩
    else none
  | _ => none

/-- What moves the cursor. -/
inductive CursorEvent where
  | seeded (identity : VideoFrameIdentity)
  | returned (accessUnit : CompletedAccessUnit)

def CursorEvent.identity : CursorEvent → VideoFrameIdentity
  | .seeded identity => identity
  | .returned accessUnit => accessUnit.identity

def CursorEvent.accessUnit : CursorEvent → Option CompletedAccessUnit
  | .seeded _ => none
  | .returned accessUnit => some accessUnit

def cursorEvent (reasm : AccessUnitReassembler) (op : ReassemblerOp) : Option CursorEvent :=
  match (reassemblerStep reasm op).2.accessUnit with
  | some accessUnit => some (.returned accessUnit)
  | none => (seedOf reasm op).map .seeded

def watchedStep (reasm : AccessUnitReassembler) (op : ReassemblerOp) :
    AccessUnitReassembler × Option CursorEvent :=
  ((reassemblerStep reasm op).1, cursorEvent reasm op)

def cursorEvents (reasm : AccessUnitReassembler) (ops : List ReassemblerOp) :
    List CursorEvent :=
  (Lib.Run.trace watchedStep reasm ops).filterMap Prod.snd

def returnedUnits (reasm : AccessUnitReassembler) (ops : List ReassemblerOp) :
    List CompletedAccessUnit :=
  (Lib.Run.trace reassemblerStep reasm ops).filterMap (fun answered => answered.2.accessUnit)

theorem returnedUnits_eq (reasm : AccessUnitReassembler) (ops : List ReassemblerOp) :
    returnedUnits reasm ops = (cursorEvents reasm ops).filterMap CursorEvent.accessUnit := by
  unfold returnedUnits cursorEvents
  rw [List.filterMap_filterMap]
  induction ops generalizing reasm with
  | nil => rfl
  | cons op ops ih =>
    simp only [Lib.Run.trace_cons, List.filterMap_cons]
    have rest := ih (reassemblerStep reasm op).1
    have event : ((watchedStep reasm op).2.bind CursorEvent.accessUnit) =
        (reassemblerStep reasm op).2.accessUnit := by
      unfold watchedStep cursorEvent
      cases (reassemblerStep reasm op).2.accessUnit with
      | some accessUnit => rfl
      | none => cases seedOf reasm op <;> rfl
    rw [event, rest]
    rfl

def VideoFrameIdentity.Before (first second : VideoFrameIdentity) : Prop :=
  first.streamEpoch < second.streamEpoch ∨
    first.streamEpoch = second.streamEpoch ∧ first.frameSequence < second.frameSequence

/-- Within an epoch the cursor moves by a returned access unit, to the successor. -/
def CursorEvent.Continues (first second : CursorEvent) : Prop :=
  first.identity.streamEpoch = second.identity.streamEpoch →
    second.accessUnit.isSome = true ∧
      second.identity.frameSequence = first.identity.frameSequence + 1

/-- The cursor is at the last event of its epoch. -/
structure CursorAt (events : List CursorEvent) (reasm : AccessUnitReassembler) : Prop where
  idle : reasm.activeEpoch = none → events = []
  retired : ∀ epoch bound, reasm.activeEpoch = some epoch →
    reasm.retiredThrough = some bound → bound < epoch
  bounded : ∀ epoch, reasm.activeEpoch = some epoch → ∀ event ∈ events,
    event.identity.streamEpoch < epoch ∨
      event.identity.streamEpoch = epoch ∧ ∃ last,
        reasm.lastDeliveredSequence = some last ∧ event.identity.frameSequence ≤ last
  cursor : ∀ epoch last, reasm.activeEpoch = some epoch →
    reasm.lastDeliveredSequence = some last →
    ∃ event, events.getLast? = some event ∧ event.identity = ⟨epoch, last⟩
  increasing : events.Pairwise (fun first second => first.identity.Before second.identity)
  successive : events.IsChain CursorEvent.Continues

namespace CursorAt

variable {events : List CursorEvent} {before after : AccessUnitReassembler}

theorem same (h : CursorAt events before) (epoch : after.activeEpoch = before.activeEpoch)
    (retired : after.retiredThrough = before.retiredThrough)
    (cursor : after.lastDeliveredSequence = before.lastDeliveredSequence) :
    CursorAt events after where
  idle := epoch ▸ h.idle
  retired := epoch ▸ retired ▸ h.retired
  bounded := epoch ▸ cursor ▸ h.bounded
  cursor := epoch ▸ cursor ▸ h.cursor
  increasing := h.increasing
  successive := h.successive

theorem older (h : CursorAt events before) {epoch : Nat}
    (newer : ∀ on, before.activeEpoch = some on → on < epoch) :
    ∀ event ∈ events, event.identity.streamEpoch < epoch := by
  intro event mem
  cases on : before.activeEpoch with
  | none =>
    rw [h.idle on] at mem
    cases mem
  | some cur =>
    have less := newer cur on
    cases h.bounded cur on event mem with
    | inl less' => omega
    | inr same => omega

theorem switch (h : CursorAt events before) {epoch : Nat}
    (newer : ∀ on, before.activeEpoch = some on → on < epoch)
    (on : after.activeEpoch = some epoch) (cursor : after.lastDeliveredSequence = none)
    (retired : ∀ bound, after.retiredThrough = some bound → bound < epoch) :
    CursorAt events after where
  idle := by
    intro inactive
    rw [on] at inactive
    cases inactive
  retired := by
    intro other bound hact isBound
    rw [on] at hact
    cases hact
    exact retired bound isBound
  bounded := by
    intro other hact event mem
    rw [on] at hact
    cases hact
    exact .inl (h.older newer event mem)
  cursor := by
    intro other last _ isLast
    rw [cursor] at isLast
    cases isLast
  increasing := h.increasing
  successive := h.successive

/-- The cursor moves to a new event: of a newer epoch, the first one of its epoch, or the
    return of the successor. -/
theorem extend (h : CursorAt events before) {event : CursorEvent} {epoch sequence : Nat}
    (isEvent : event.identity = ⟨epoch, sequence⟩)
    (older : ∀ earlier ∈ events, earlier.identity.streamEpoch < epoch ∨
      before.activeEpoch = some epoch ∧ event.accessUnit.isSome = true ∧
        ∀ last, before.lastDeliveredSequence = some last → sequence = last + 1)
    (on : after.activeEpoch = some epoch) (cursor : after.lastDeliveredSequence = some sequence)
    (retired : ∀ bound, after.retiredThrough = some bound → bound < epoch) :
    CursorAt (events ++ [event]) after := by
  have below : ∀ earlier ∈ events, earlier.identity.streamEpoch < epoch ∨
      earlier.identity.streamEpoch = epoch ∧ earlier.identity.frameSequence < sequence := by
    intro earlier mem
    cases older earlier mem with
    | inl less => exact .inl less
    | inr next =>
      cases h.bounded epoch next.1 earlier mem with
      | inl less => exact .inl less
      | inr same =>
        obtain ⟨last, isLast, le⟩ := same.2
        have := next.2.2 last isLast
        exact .inr ⟨same.1, by omega⟩
  refine ⟨?_, ?_, ?_, ?_, ?_, ?_⟩
  · intro inactive
    rw [on] at inactive
    cases inactive
  · intro other bound hact isBound
    rw [on] at hact
    cases hact
    exact retired bound isBound
  · intro other hact earlier mem
    rw [on] at hact
    cases hact
    cases List.mem_append.mp mem with
    | inl old =>
      cases below earlier old with
      | inl less => exact .inl less
      | inr same => exact .inr ⟨same.1, sequence, cursor, same.2.le⟩
    | inr new =>
      rw [List.mem_singleton.mp new, isEvent]
      exact .inr ⟨rfl, sequence, cursor, le_rfl⟩
  · intro other last hact isLast
    rw [on] at hact
    rw [cursor] at isLast
    cases hact
    cases isLast
    exact ⟨event, by simp, isEvent⟩
  · refine List.pairwise_append.mpr ⟨h.increasing, List.pairwise_singleton _ _, ?_⟩
    intro earlier mem new isNew
    rw [List.mem_singleton.mp isNew]
    rw [isEvent]
    exact below earlier mem
  · refine List.isChain_append.mpr ⟨h.successive, List.isChain_singleton _, ?_⟩
    intro last isLast new isNew sameEpoch
    rw [List.head?_cons, Option.mem_def, Option.some.injEq] at isNew
    subst isNew
    rw [isEvent] at sameEpoch ⊢
    have mem := List.mem_of_getLast? isLast
    cases older last mem with
    | inl less => exact absurd sameEpoch (Nat.ne_of_lt less)
    | inr next =>
      refine ⟨next.2.1, ?_⟩
      -- the last event of the epoch is where the cursor is
      cases h.bounded epoch next.1 last mem with
      | inl less => exact absurd sameEpoch (Nat.ne_of_lt less)
      | inr here =>
        obtain ⟨cursorAt, isCursor, -⟩ := here.2
        obtain ⟨found, isFound, identity⟩ := h.cursor epoch cursorAt next.1 isCursor
        rw [isLast] at isFound
        cases isFound
        rw [identity]
        exact next.2.2 cursorAt isCursor

end CursorAt

theorem cursorAt_activateEpoch {events : List CursorEvent} {reasm : AccessUnitReassembler}
    (h : CursorAt events reasm) (epoch : Nat) (seed : Option Nat) :
    CursorAt (events ++ ((seedOf reasm (.activateEpoch epoch seed)).map
      CursorEvent.seeded).toList) (reasm.activateEpoch epoch seed).1 := by
  have activates := reasm.activateEpoch_activates epoch seed
  cases seed with
  | none =>
    have nothing : seedOf reasm (.activateEpoch epoch none) = none := rfl
    rw [nothing, Option.map_none, Option.toList_none, List.append_nil]
    generalize reasm.activateEpoch epoch none = outcome at activates
    cases activates with
    | rejected => exact h
    | kept on _ => exact h
    | seeded given _ _ _ => cases given
    | switched newer on cursor _ retired => exact h.switch newer on cursor retired
  | some seq =>
    simp only [seedOf]
    generalize reasm.activateEpoch epoch (some seq) = outcome at activates
    cases activates with
    | rejected => simpa using h
    | kept on unseeded =>
      have stays : ¬ (reasm.activeEpoch ≠ some epoch ∨
          reasm.lastDeliveredSequence = none ∧ reasm.pending.entries = []) := by
        rintro (other | ⟨cursor, empty⟩)
        · exact other on
        · exact unseeded rfl cursor empty
      rw [if_neg (fun both => stays both.2), Option.map_none, Option.toList_none, List.append_nil]
      exact h
    | seeded _ on cursor empty =>
      rw [if_pos ⟨rfl, .inr ⟨cursor, empty⟩⟩]
      refine h.extend rfl ?_ on rfl (fun bound => h.retired epoch bound on)
      intro old mem
      cases h.bounded epoch on old mem with
      | inl less => exact .inl less
      | inr same =>
        obtain ⟨last, isLast, -⟩ := same.2
        rw [cursor] at isLast
        cases isLast
    | switched newer on cursor _ retired =>
      have fresh : reasm.activeEpoch ≠ some epoch := by
        intro same
        exact Nat.lt_irrefl _ (newer epoch same)
      rw [if_pos ⟨rfl, .inl fresh⟩]
      exact h.extend rfl (fun old mem => .inl (h.older newer old mem)) on
        cursor retired

/-- Every frame is made of fragments that were pushed with its identity. -/
def Assembled (pushed : List VideoFragment) (reasm : AccessUnitReassembler) : Prop :=
  ∀ entry ∈ reasm.pending.entries, ∃ epoch, reasm.activeEpoch = some epoch ∧
    entry.2.MadeOf pushed ⟨epoch, entry.1⟩

namespace Assembled

variable {pushed more : List VideoFragment} {before after : AccessUnitReassembler}

theorem mono (h : Assembled pushed before) (subset : ∀ frag ∈ pushed, frag ∈ more) :
    Assembled more before := by
  intro entry mem
  obtain ⟨epoch, on, made⟩ := h entry mem
  exact ⟨epoch, on, made.mono subset⟩

theorem shrinks (h : Assembled pushed before) (k : AccessUnitReassembler.Shrinks before after) :
    Assembled pushed after := by
  intro entry mem
  rw [k.activeEpoch]
  exact h entry (k.entries entry mem)

theorem empty (none : after.pending.entries = []) : Assembled pushed after := by
  intro entry mem
  rw [none] at mem
  cases mem

theorem receives {frameLimit byteLimit : Nat} {frag : VideoFragment}
    (h : Assembled pushed before) (sound : before.Sound frameLimit byteLimit)
    (k : AccessUnitReassembler.Receives frag before after) (mem : frag ∈ pushed)
    (on : before.activeEpoch = some frag.identity.streamEpoch)
    (hin : frag.fragmentIndex < frag.fragmentCount) : Assembled pushed after := by
  intro entry isEntry
  rw [k.activeEpoch]
  cases k.entries entry isEntry with
  | inl old => exact h entry old
  | inr stored =>
    obtain ⟨frame, isFrame, count, repeated, origin⟩ := stored.frame
    have identity : (⟨frag.identity.streamEpoch, entry.1⟩ : VideoFrameIdentity) =
        frag.identity := by rw [stored.sequence]
    refine ⟨_, on, ?_⟩
    rw [isFrame, identity]
    have slots : frame.parts.length = frame.expectedFragments := by
      cases origin with
      | inl old => exact (sound.frames _ old).slots
      | inr new => exact new.2
    refine PendingFrame.MadeOf.store ?_ mem (by omega) count repeated
    cases origin with
    | inl old =>
      obtain ⟨epoch, hact, made⟩ := h _ old
      rw [on] at hact
      cases hact
      exact identity ▸ made
    | inr new =>
      intro index received
      rw [new.1] at received
      cases received

end Assembled

theorem assembled_activateEpoch {pushed : List VideoFragment} {reasm : AccessUnitReassembler}
    (h : Assembled pushed reasm) (epoch : Nat) (seed : Option Nat) :
    Assembled pushed (reasm.activateEpoch epoch seed).1 := by
  have activates := reasm.activateEpoch_activates epoch seed
  generalize reasm.activateEpoch epoch seed = outcome at activates
  cases activates with
  | rejected => exact h
  | kept _ _ => exact h
  | seeded _ _ _ empty => exact .empty empty
  | switched _ _ _ empty _ => exact .empty empty

/-! ## The run -/

/-- The state stands on the events and the fragments of the run so far. -/
structure Watched (frameLimit byteLimit : Nat) (events : List CursorEvent)
    (pushed : List VideoFragment) (reasm : AccessUnitReassembler) : Prop where
  sound : reasm.Sound frameLimit byteLimit
  cursor : CursorAt events reasm
  assembled : Assembled pushed reasm

section

variable {frameLimit byteLimit : Nat} {events : List CursorEvent} {fragments : List VideoFragment}
  {reasm : AccessUnitReassembler}

theorem watched_new (maxInflightFrames maxInflightBytes : Nat) :
    Watched (max 1 maxInflightFrames) (max kVideoPacketPayloadBytes maxInflightBytes) [] []
      (AccessUnitReassembler.new maxInflightFrames maxInflightBytes) where
  sound := AccessUnitReassembler.new_sound _ _
  cursor := {
    idle := fun _ => rfl
    retired := fun _ _ on => by cases on
    bounded := fun _ on => by cases on
    cursor := fun _ _ on => by cases on
    increasing := List.Pairwise.nil
    successive := List.isChain_nil }
  assembled := .empty rfl

variable (h : Watched frameLimit byteLimit events fragments reasm)

include h

theorem Watched.shrinks {after : AccessUnitReassembler} (sound : after.Sound frameLimit byteLimit)
    (k : AccessUnitReassembler.Shrinks reasm after) :
    Watched frameLimit byteLimit events fragments after :=
  ⟨sound, h.cursor.same k.activeEpoch k.retiredThrough k.lastDeliveredSequence,
    h.assembled.shrinks k⟩

theorem Watched.activateFirstEpoch (epoch : Nat) :
    Watched frameLimit byteLimit events fragments
      (reasm.activateFirstEpoch epoch).1 := by
  refine ⟨h.sound.activateFirstEpoch epoch, ?_, ?_⟩
  · unfold AccessUnitReassembler.activateFirstEpoch
    split
    · exact h.cursor
    · simpa [seedOf] using cursorAt_activateEpoch h.cursor epoch none
  · unfold AccessUnitReassembler.activateFirstEpoch
    split
    · exact h.assembled
    · exact assembled_activateEpoch h.assembled epoch none

theorem Watched.receivePayload (frag : VideoFragment) (view : Bool) (nowUs : Nat) :
    Watched frameLimit byteLimit events (fragments ++ [frag])
      (reasm.receivePayload frag view nowUs).1 := by
  have more : Watched frameLimit byteLimit events (fragments ++ [frag]) reasm :=
    ⟨h.sound, h.cursor, h.assembled.mono (fun _ mem => List.mem_append_left _ mem)⟩
  have sound := h.sound.receivePayload frag view nowUs
  have admitted := more.activateFirstEpoch frag.identity.streamEpoch
  unfold AccessUnitReassembler.receivePayload at sound ⊢
  split
  · exact more
  rename_i wellFormed
  simp only [Bool.or_eq_true, decide_eq_true_eq, not_or, Nat.not_le] at wellFormed
  generalize reasm.activateFirstEpoch frag.identity.streamEpoch = outcome
    at admitted sound ⊢
  obtain ⟨after, isAdmitted⟩ := outcome
  dsimp only at admitted sound ⊢
  split
  · exact admitted
  rename_i goesOn
  split
  · exact admitted.shrinks (admitted.sound.congr rfl rfl rfl rfl rfl)
      ⟨rfl, rfl, rfl, fun _ mem => mem⟩
  rename_i on
  rw [not_not] at on
  split
  · exact admitted.shrinks (admitted.sound.countAvoided _ _)
      (AccessUnitReassembler.shrinks_countAvoided _ _ _)
  · have received := after.receivePending_receives frag view nowUs
    exact ⟨admitted.sound.receivePending frag view nowUs wellFormed.1.1.2,
      admitted.cursor.same received.activeEpoch received.retiredThrough
        received.lastDeliveredSequence,
      admitted.assembled.receives admitted.sound received (List.mem_append_right _ (by simp))
        on wellFormed.1.1.2⟩

/-- The first part of a call adds at most a seed to the events. -/
theorem Watched.arrange (op : ReassemblerOp) :
    Watched frameLimit byteLimit
      (events ++ ((seedOf reasm op).map CursorEvent.seeded).toList)
      (fragments ++ op.fragment.toList) (Video.arrange reasm op).1 := by
  cases op with
  | activateEpoch streamEpoch seed =>
    refine ⟨h.sound.activateEpoch _ _, cursorAt_activateEpoch h.cursor streamEpoch seed, ?_⟩
    simpa [ReassemblerOp.fragment, Video.arrange] using
      assembled_activateEpoch h.assembled streamEpoch seed
  | push frag nowUs =>
    simpa [seedOf, ReassemblerOp.fragment, Video.arrange] using
      h.receivePayload frag false nowUs
  | pushView frag nowUs =>
    simpa [seedOf, ReassemblerOp.fragment, Video.arrange] using
      h.receivePayload frag true nowUs
  | popCompleted => simpa [seedOf, ReassemblerOp.fragment, Video.arrange] using h
  | discardExpired nowUs ttlUs =>
    simpa [seedOf, ReassemblerOp.fragment, Video.arrange] using
      h.shrinks (h.sound.discardExpired nowUs ttlUs)
        (reasm.shrinks_discardExpired nowUs ttlUs)

omit h

/-- A returned access unit is of an epoch that is not retired, and made of pushed fragments. -/
structure Genuine (fragments : List VideoFragment) (after : AccessUnitReassembler)
    (accessUnit : CompletedAccessUnit) : Prop where
  notRetired : after.isRetiredEpoch accessUnit.identity.streamEpoch = false
  concatenation : accessUnit.ConcatenationOf fragments

theorem Watched.popCompleted (h : Watched frameLimit byteLimit events fragments reasm) :
    Watched frameLimit byteLimit
        (events ++ (reasm.popCompleted.2.map CursorEvent.returned).toList) fragments
        reasm.popCompleted.1 ∧
      ∀ unit, reasm.popCompleted.2 = some unit →
        Genuine fragments reasm.popCompleted.1 unit := by
  have sound := h.sound.popCompleted
  have pops := reasm.popCompleted_pops
  generalize reasm.popCompleted = outcome at sound pops ⊢
  cases pops with
  | nothing => exact ⟨by simpa using h, fun _ no => by cases no⟩
  | @delivers epoch seq frame on pend next first whole =>
    have shrunk := AccessUnitReassembler.shrinks_erasePending
      { reasm with lastDeliveredSequence := some seq } seq false
    obtain ⟨_, hact, made⟩ := h.assembled _ pend
    rw [on] at hact
    cases hact
    have bound : ∀ bound, reasm.retiredThrough = some bound → bound < epoch :=
      fun bound => h.cursor.retired epoch bound on
    refine ⟨⟨sound, ?_, ?_⟩, ?_⟩
    · refine h.cursor.extend rfl ?_ (shrunk.activeEpoch.trans on)
        shrunk.lastDeliveredSequence (fun limit isLimit => bound limit ?_)
      · exact fun _ _ => .inr ⟨on, rfl, next⟩
      · exact shrunk.retiredThrough.symm.trans isLimit
    · exact (show Assembled fragments
        { reasm with lastDeliveredSequence := some seq } from h.assembled).shrinks
        shrunk
    · intro unit isUnit
      cases isUnit
      constructor
      · unfold AccessUnitReassembler.isRetiredEpoch
        rw [shrunk.retiredThrough]
        cases retired : reasm.retiredThrough with
        | none => rfl
        | some limit => simpa using bound limit retired
      · exact made.flatten (h.sound.frames _ pend) (h.sound.begun _ pend) whole

theorem seedOf_of_looks {op : ReassemblerOp} (looks : (Video.arrange reasm op).2 = true) :
    seedOf reasm op = none := by
  cases op with
  | activateEpoch streamEpoch seed => cases looks
  | push frag nowUs => rfl
  | pushView frag nowUs => rfl
  | popCompleted => rfl
  | discardExpired nowUs ttlUs => rfl

theorem Watched.step (h : Watched frameLimit byteLimit events fragments reasm)
    (op : ReassemblerOp) :
    Watched frameLimit byteLimit (events ++ (cursorEvent reasm op).toList)
        (fragments ++ op.fragment.toList) (reassemblerStep reasm op).1 ∧
      ∀ accessUnit, (reassemblerStep reasm op).2.accessUnit = some accessUnit →
        Genuine (fragments ++ op.fragment.toList) (reassemblerStep reasm op).1
          accessUnit := by
  have arranged := h.arrange op
  have look := reassemblerStep_eq_look reasm op
  unfold AccessUnitReassembler.look at look
  unfold cursorEvent
  cases looks : (Video.arrange reasm op).2 with
  | true =>
    rw [looks, if_pos rfl, Prod.ext_iff] at look
    obtain ⟨state, ans⟩ := look
    dsimp only at state ans
    rw [seedOf_of_looks looks, Option.map_none, Option.toList_none, List.append_nil] at arranged
    have popped := arranged.popCompleted
    rw [state, ans, seedOf_of_looks looks]
    cases isUnit : (Video.arrange reasm op).1.popCompleted.2 with
    | none =>
      rw [isUnit] at popped
      exact popped
    | some accessUnit =>
      rw [isUnit] at popped
      exact popped
  | false =>
    rw [looks, if_neg Bool.false_ne_true, Prod.ext_iff] at look
    obtain ⟨state, ans⟩ := look
    dsimp only at state ans
    rw [state, ans]
    exact ⟨arranged, fun _ no => by cases no⟩

end

def WatchedHistory (frameLimit byteLimit : Nat)
    (history : List (ReassemblerOp × Option CursorEvent)) (reasm : AccessUnitReassembler) :
    Prop :=
  Watched frameLimit byteLimit (history.filterMap Prod.snd) (pushed (history.map Prod.fst))
    reasm

theorem watched_run (maxInflightFrames maxInflightBytes : Nat) (ops : List ReassemblerOp) :
    Watched (max 1 maxInflightFrames) (max kVideoPacketPayloadBytes maxInflightBytes)
      (cursorEvents (AccessUnitReassembler.new maxInflightFrames maxInflightBytes) ops)
      (pushed ops)
      (Lib.Run.exec reassemblerStep
        (AccessUnitReassembler.new maxInflightFrames maxInflightBytes) ops) := by
  have run : WatchedHistory (max 1 maxInflightFrames)
      (max kVideoPacketPayloadBytes maxInflightBytes) (Lib.Run.trace watchedStep _ ops)
      (Lib.Run.exec watchedStep _ ops) :=
    Lib.Run.history_invariant watchedStep (watched_new maxInflightFrames maxInflightBytes)
      (fun history reasm op h => by
        unfold WatchedHistory pushed at h ⊢
        rw [Lib.Run.filterMap_concat, List.map_append, List.map_singleton, Lib.Run.filterMap_concat]
        exact (h.step op).1) ops
  unfold WatchedHistory at run
  rw [Lib.Run.map_fst_trace] at run
  exact run

/-- Access units are returned with growing identities, each next to the one that was returned or
    seeded before it in its epoch, and made of what was pushed. -/
structure DeliversInOrder (start : AccessUnitReassembler) (ops : List ReassemblerOp) : Prop where
  increasing : (returnedUnits start ops).Pairwise
    (fun first second => first.identity.Before second.identity)
  successive : (cursorEvents start ops).IsChain CursorEvent.Continues
  genuine : ∀ earlier op later accessUnit, ops = earlier ++ op :: later →
    (reassemblerStep (Lib.Run.exec reassemblerStep start earlier) op).2.accessUnit =
      some accessUnit →
    Genuine (pushed (earlier ++ [op])) (Lib.Run.exec reassemblerStep start (earlier ++ [op]))
      accessUnit

/-- Through any calls: identities only grow, within an epoch by one from what was returned
    or seeded before, no retired epoch is returned, and what is returned are the pushed
    fragments of that identity in the order of their indices. -/
theorem access_units_are_delivered_in_order (maxInflightFrames maxInflightBytes : Nat)
    (ops : List ReassemblerOp) :
    DeliversInOrder (AccessUnitReassembler.new maxInflightFrames maxInflightBytes) ops := by
  have run := watched_run maxInflightFrames maxInflightBytes
  refine ⟨?_, (run ops).cursor.successive, ?_⟩
  · rw [returnedUnits_eq]
    refine List.Pairwise.filterMap CursorEvent.accessUnit ?_ (run ops).cursor.increasing
    intro first second before unit isUnit other isOther
    cases first with
    | seeded identity => cases isUnit
    | returned firstUnit =>
      cases second with
      | seeded identity => cases isOther
      | returned secondUnit =>
        cases isUnit
        cases isOther
        exact before
  · intro old op later accessUnit _ isUnit
    have genuine := ((run old).step op).2 accessUnit isUnit
    rw [Lib.Run.exec_append, pushed, Lib.Run.filterMap_concat]
    exact genuine

end VisionForge.Video
