import VisionForge.Lib.Histories
import VisionForge.MobileRuntime.Effects

/-! # The chain of references

A unit that is not an IDR needs the unit before it. The decoder is handed no unit whose
reference it has not been handed, in any run and whatever the ports throw.
-/

namespace VisionForge.MobileRuntime

open Lib.Ascii Lib.Histories Lib.Table Lib.Utf MobileRuntimeCompositionRoot

/-- The epoch and the sequence of a unit that the decoder is handed. -/
def submittedUnit : RuntimeEvent → Option (Nat × Nat)
  | .called (.submit streamEpoch frameSequence _ _) _ => some (streamEpoch, frameSequence)
  | _ => none

/-- Requests for an IDR close the hand-off unless they are for a candidate. -/
def closesHandoff : RuntimeEvent → Bool
  | .called (.requestIdr _ reason) _ => decide (reason ∉ candidateReasons)
  | .called (.requestSessionRebuild _ _) _ => true
  | _ => false

def submitted (events : List RuntimeEvent) : List (Nat × Nat) := events.filterMap submittedUnit

def extendStretch (units : List (Nat × Nat)) (event : RuntimeEvent) : List (Nat × Nat) :=
  if closesHandoff event then [] else units ++ (submittedUnit event).toList

/-- The units that the decoder is handed since the hand-off was last closed. -/
def stretch (events : List RuntimeEvent) : List (Nat × Nat) := events.foldl extendStretch []

def Precedes (unit other : Nat × Nat) : Prop :=
  unit.1 < other.1 ∨ unit.1 = other.1 ∧ unit.2 < other.2

structure Linked (before : List RuntimeEvent) (unit : Nat × Nat) (idr : Bool) : Prop where
  opens : stretch before = [] → idr = true
  follows : idr = true ∨
    ∃ previous, (submitted before).getLast? = some previous ∧ unit = (previous.1, previous.2 + 1)
  rises : ∀ previous ∈ stretch before, Precedes previous unit
  epochs : ∀ previous ∈ submitted before, previous.1 ≤ unit.1

def ReferenceChain (events : List RuntimeEvent) : Prop :=
  Each (fun before event => ∀ streamEpoch frameSequence idr accessUnit thrown,
    event = .called (.submit streamEpoch frameSequence idr accessUnit) thrown →
      Linked before (streamEpoch, frameSequence) idr) events

section

variable {events : List RuntimeEvent} {event : RuntimeEvent}

theorem stretch_append (event : RuntimeEvent) :
    stretch (events ++ [event]) = extendStretch (stretch events) event := by
  simp [stretch]

theorem submitted_append (event : RuntimeEvent) :
    submitted (events ++ [event]) = submitted events ++ (submittedUnit event).toList := by
  cases isUnit : submittedUnit event with
  | none => simp [submitted, isUnit]
  | some unit => simp [submitted, isUnit]

theorem stretch_suffix (events : List RuntimeEvent) : stretch events <:+ submitted events := by
  induction events using List.reverseRecOn with
  | nil => exact List.suffix_rfl
  | append_singleton events event ih =>
    rw [stretch_append, submitted_append]
    unfold extendStretch
    split
    · exact List.nil_suffix
    · obtain ⟨front, isFront⟩ := ih
      exact ⟨front, by rw [← isFront, List.append_assoc]⟩

end

namespace OrderedAccessUnitHandoff

/-- Units wait under the epoch of the hand-off, and only while it runs. -/
structure Ordered (handoff : OrderedAccessUnitHandoff) : Prop where
  own : ∀ unit ∈ handoff.pending, unit.streamEpoch = handoff.epoch
  waiting : handoff.state ≠ .running → handoff.pending = [] ∧ handoff.nextSequence = none
  running : handoff.state = .running → handoff.nextSequence ≠ none

theorem ordered_requireFreshIdr (handoff : OrderedAccessUnitHandoff) :
    handoff.requireFreshIdr.Ordered where
  own := by simp [requireFreshIdr]
  waiting := by simp [requireFreshIdr]
  running := by
    intro running
    simp only [requireFreshIdr] at running
    split at running <;> cases running

/-- What a unit that is taken does to the hand-off. -/
inductive Takes (handoff : OrderedAccessUnitHandoff) (unit : AccessUnit) :
    OrderedAccessUnitHandoff → Prop where
  | nothing : Takes handoff unit handoff
  | opened (idr : unit.idr = true)
      (later : handoff.epoch < unit.streamEpoch ∨ handoff.epoch = unit.streamEpoch ∧
        handoff.nextSequence = none ∧ handoff.state ≠ .epochExhausted) :
      Takes handoff unit
        { handoff with
          epoch := unit.streamEpoch
          pending := [unit]
          nextSequence := some unit.frameSequence
          state := .running }
  | queued (running : handoff.state = .running) (same : handoff.epoch = unit.streamEpoch) :
      Takes handoff unit { handoff with pending := handoff.pending ++ [unit] }

theorem insert_opened (handoff : OrderedAccessUnitHandoff) (unit : AccessUnit) (epochAdvanced : Bool)
    (empty : handoff.pending = []) (next : handoff.nextSequence = some unit.frameSequence) :
    (handoff.insert unit epochAdvanced).2 = { handoff with pending := [unit] } := by
  have room := handoff.capacity_pos
  unfold insert
  rw [if_neg (by simp [next]), empty]
  simp [lookup, room.ne']

variable {handoff : OrderedAccessUnitHandoff}

theorem takes_offer (ordered : handoff.Ordered) (unit : AccessUnit)
    (taken : (handoff.offer unit).1 ∈
      [OfferDecision.accepted, .stale, .duplicate, .epochAdvanced]) :
    Takes handoff unit (handoff.offer unit).2 := by
  unfold offer at taken ⊢
  split_ifs at taken ⊢ with advances behind ended
  · have later : handoff.epoch < unit.streamEpoch := by
      have pos := unit.epoch_pos
      omega
    unfold enter at taken ⊢
    simp only [reduceCtorEq, if_false] at taken ⊢
    split_ifs at taken ⊢ with idr
    · simp at taken
    · rw [insert_opened _ unit true rfl rfl]
      exact .opened (by simpa using idr) (.inl later)
  · exact .nothing
  · simp at taken
  · have same : handoff.epoch = unit.streamEpoch := by omega
    unfold enter at taken ⊢
    split_ifs at taken ⊢ with running idr
    · rcases handoff.insert_cases unit false with is | is | is | ⟨is, -⟩ | ⟨is, -⟩ <;>
        rw [is] at taken ⊢
      · exact .nothing
      · exact .nothing
      · simp at taken
      · simp at taken
      · exact .queued running same
    · simp at taken
    · obtain ⟨empty, stopped⟩ := ordered.waiting running
      have opened := insert_opened
        { handoff with state := .running, nextSequence := some unit.frameSequence } unit false empty
        rfl
      rw [opened, same]
      exact .opened (by simpa using idr) (.inr ⟨same, stopped, ended⟩)

variable {handoff' : OrderedAccessUnitHandoff}

theorem Ordered.takes {unit : AccessUnit} (ordered : handoff.Ordered)
    (takes : Takes handoff unit handoff') : handoff'.Ordered := by
  cases takes with
  | nothing => exact ordered
  | opened idr later => exact ⟨by simp, by simp, by simp⟩
  | queued running same =>
    refine ⟨?_, fun stopped => absurd running stopped, ordered.running⟩
    intro other mem
    rcases List.mem_append.mp mem with old | new
    · exact ordered.own other old
    · obtain rfl := List.mem_singleton.mp new
      exact same.symm

/-- What the hand-off gives away is the unit that is next, and it moves on behind it. -/
theorem pollReady_some {unit : AccessUnit} (ready : handoff.pollReady = (some unit, handoff')) :
    handoff.nextSequence = some unit.frameSequence ∧
      lookup AccessUnit.frameSequence unit.frameSequence handoff.pending = some unit ∧
      handoff'.epoch = handoff.epoch ∧ (∀ other ∈ handoff'.pending, other ∈ handoff.pending) ∧
      (handoff'.nextSequence = some (unit.frameSequence + 1) ∧ handoff'.state = .running ∨
        handoff'.nextSequence = none ∧ handoff'.state = .epochExhausted ∧ handoff'.pending = []) := by
  unfold pollReady at ready
  cases next : handoff.nextSequence with
  | none => simp [next] at ready
  | some seq =>
    simp only [next] at ready
    split at ready
    · simp at ready
    · next running =>
        cases found : lookup AccessUnit.frameSequence seq handoff.pending with
        | none => simp [found] at ready
        | some found' =>
          simp only [found, Prod.mk.injEq, Option.some.injEq] at ready
          obtain ⟨rfl, rfl⟩ := ready
          obtain rfl := (lookup_key found).2
          refine ⟨rfl, found, ?_⟩
          split
          · exact ⟨rfl, by simp, .inr ⟨rfl, rfl, rfl⟩⟩
          · exact ⟨rfl, fun other mem => (List.mem_filter.mp mem).1, .inl ⟨rfl, not_not.mp running⟩⟩

theorem Ordered.poll {unit : AccessUnit} (ordered : handoff.Ordered)
    (ready : handoff.pollReady = (some unit, handoff')) : handoff'.Ordered := by
  obtain ⟨-, -, sameEpoch, fewer, moved⟩ := pollReady_some ready
  refine ⟨?_, ?_, ?_⟩
  · intro other mem
    rw [sameEpoch]
    exact ordered.own other (fewer other mem)
  · intro stopped
    rcases moved with ⟨-, running⟩ | ⟨none, -, empty⟩
    · exact absurd running stopped
    · exact ⟨empty, none⟩
  · intro running
    rcases moved with ⟨next, -⟩ | ⟨-, hexh, -⟩
    · simp [next]
    · simp [hexh] at running

end OrderedAccessUnitHandoff

/-- Whatever the hand-off gives away next is linked to what was submitted. -/
structure InChain (events : List RuntimeEvent) (handoff : OrderedAccessUnitHandoff) : Prop where
  chain : ReferenceChain events
  ordered : handoff.Ordered
  behind : ∀ unit ∈ submitted events, unit.1 ≤ handoff.epoch
  next : ∀ sequence, handoff.nextSequence = some sequence →
    ((∃ last, (stretch events).getLast? = some last ∧ last.1 = handoff.epoch ∧
        last.2 + 1 = sequence) ∧ ∀ unit ∈ stretch events, Precedes unit (handoff.epoch, sequence)) ∨
      ((∃ unit, lookup AccessUnit.frameSequence sequence handoff.pending = some unit ∧
        unit.idr = true) ∧ ∀ unit ∈ stretch events, unit.1 < handoff.epoch)
  stopped : handoff.nextSequence = none → handoff.state = .epochExhausted ∨
    ∀ unit ∈ stretch events, unit.1 < handoff.epoch

namespace InChain

variable {events : List RuntimeEvent} {event : RuntimeEvent}
  {handoff handoff' : OrderedAccessUnitHandoff} {unit : AccessUnit}

theorem neutral (inChain : InChain events handoff) (noUnit : submittedUnit event = none)
    (pending : closesHandoff event = false) : InChain (events ++ [event]) handoff := by
  have sameStretch : stretch (events ++ [event]) = stretch events := by
    simp [stretch_append, extendStretch, pending, noUnit]
  have sameUnits : submitted (events ++ [event]) = submitted events := by
    simp [submitted_append, noUnit]
  refine ⟨each_append.mpr ⟨inChain.chain, ?_⟩, inChain.ordered, ?_, ?_, ?_⟩
  · rintro _ _ _ _ _ rfl
    cases noUnit
  · rw [sameUnits]
    exact inChain.behind
  · rw [sameStretch]
    exact inChain.next
  · rw [sameStretch]
    exact inChain.stopped

theorem close (inChain : InChain events handoff) (closes : closesHandoff event = true)
    (later : handoff.epoch ≤ handoff'.epoch) :
    InChain (events ++ [event]) handoff'.requireFreshIdr := by
  have noUnit : submittedUnit event = none := by
    unfold closesHandoff at closes
    split at closes <;> first | rfl | cases closes
  have ended : stretch (events ++ [event]) = [] := by simp [stretch_append, extendStretch, closes]
  refine ⟨each_append.mpr ⟨inChain.chain, ?_⟩, OrderedAccessUnitHandoff.ordered_requireFreshIdr handoff', ?_,
    ?_, ?_⟩
  · rintro _ _ _ _ _ rfl
    cases noUnit
  · intro other mem
    simp only [submitted_append, noUnit, Option.toList_none, List.append_nil] at mem
    exact (inChain.behind other mem).trans later
  · simp [OrderedAccessUnitHandoff.requireFreshIdr]
  · simp [ended]

theorem take (inChain : InChain events handoff) (takes : handoff.Takes unit handoff') :
    InChain events handoff' := by
  have ordered := inChain.ordered.takes takes
  cases takes with
  | nothing => exact inChain
  | opened idr later =>
    have below : ∀ other ∈ stretch events, other.1 < unit.streamEpoch := by
      intro other mem
      have hsub := inChain.behind other ((stretch_suffix events).subset mem)
      rcases later with later | ⟨same, none, unended⟩
      · exact hsub.trans_lt later
      · rw [← same]
        exact (inChain.stopped none).resolve_left unended other mem
    refine ⟨inChain.chain, ordered, ?_, ?_, by simp⟩
    · intro other mem
      have hsub := inChain.behind other mem
      simp only
      rcases later with later | ⟨same, -⟩ <;> omega
    · intro sequence next
      obtain rfl := Option.some.inj next
      exact .inr ⟨⟨unit, by simp [lookup], idr⟩, below⟩
  | queued running same =>
    refine ⟨inChain.chain, ordered, inChain.behind, ?_, inChain.stopped⟩
    intro sequence next
    rcases inChain.next sequence next with linked | ⟨⟨first, found, idr⟩, below⟩
    · exact .inl linked
    · refine .inr ⟨⟨first, ?_, idr⟩, below⟩
      unfold lookup at found ⊢
      simp [List.find?_append, found]

/-- The unit that is next is linked, and the unit behind it is next then. -/
theorem submit (inChain : InChain events handoff)
    (ready : handoff.pollReady = (some unit, handoff')) (thrown : Option Units) :
    InChain (events ++ [.called
      (.submit unit.streamEpoch unit.frameSequence unit.idr unit.bytes) thrown]) handoff' := by
  obtain ⟨next, found, sameEpoch, fewer, moved⟩ := OrderedAccessUnitHandoff.pollReady_some ready
  have own : unit.streamEpoch = handoff.epoch := inChain.ordered.own unit (lookup_key found).1
  have extended : stretch (events ++ [.called
      (.submit unit.streamEpoch unit.frameSequence unit.idr unit.bytes) thrown]) =
        stretch events ++ [(unit.streamEpoch, unit.frameSequence)] := by
    simp [stretch_append, extendStretch, closesHandoff, submittedUnit]
  have rises : ∀ other ∈ stretch events, Precedes other (unit.streamEpoch, unit.frameSequence) := by
    intro other mem
    rw [own]
    rcases inChain.next _ next with ⟨-, below⟩ | ⟨-, below⟩
    · exact below other mem
    · exact .inl (below other mem)
  refine ⟨each_append.mpr ⟨inChain.chain, ?_⟩, inChain.ordered.poll ready, ?_, ?_, ?_⟩
  · intro streamEpoch frameSequence idr accessUnit thrown' same
    obtain ⟨⟨rfl, rfl, rfl, rfl⟩, rfl⟩ := by simpa using same
    refine ⟨?_, ?_, rises, ?_⟩
    · intro ended
      rcases inChain.next _ next with ⟨⟨last, isLast, -⟩, -⟩ | ⟨⟨first, isFirst, idr⟩, -⟩
      · simp [ended] at isLast
      · obtain rfl := Option.some.inj (isFirst.symm.trans found)
        exact idr
    · rcases inChain.next _ next with ⟨⟨last, isLast, epoch, seq⟩, -⟩ | ⟨⟨first, isFirst, idr⟩, -⟩
      · refine .inr ⟨last, ?_, ?_⟩
        · obtain ⟨front, isFront⟩ := stretch_suffix events
          rw [← isFront, List.getLast?_append, isLast]
          rfl
        · rw [epoch, seq, own]
      · obtain rfl := Option.some.inj (isFirst.symm.trans found)
        exact .inl idr
    · intro other mem
      rw [own]
      exact inChain.behind other mem
  · intro other mem
    rw [submitted_append] at mem
    rcases List.mem_append.mp mem with old | new
    · rw [sameEpoch]
      exact inChain.behind other old
    · obtain rfl : other = (unit.streamEpoch, unit.frameSequence) := by
        simpa [submittedUnit] using new
      exact (own.trans sameEpoch.symm).le
  · intro seq isNext
    rcases moved with ⟨isSuccessor, -⟩ | ⟨none, -⟩
    · obtain rfl := Option.some.inj (isSuccessor.symm.trans isNext)
      refine .inl ⟨⟨(unit.streamEpoch, unit.frameSequence), by simp [extended], ?_, rfl⟩, ?_⟩
      · exact own.trans sameEpoch.symm
      · intro other mem
        rw [extended] at mem
        rcases List.mem_append.mp mem with old | new
        · rcases rises other old with below | ⟨same, below⟩
          · exact .inl (by simp only at below ⊢; omega)
          · exact .inr (by simp only at same below ⊢; omega)
        · obtain rfl := List.mem_singleton.mp new
          exact .inr ⟨own.trans sameEpoch.symm, Nat.lt_succ_self _⟩
    · simp [none] at isNext
  · intro isNone
    rcases moved with ⟨isSuccessor, -⟩ | ⟨-, hexh, -⟩
    · simp [isSuccessor] at isNone
    · exact .inl hexh

theorem effect {callback : Option Int} {turn turn' : Turn} (effect : Effect callback turn turn')
    (inChain : InChain turn.events turn.root.handoff) :
    InChain turn'.events turn'.root.handoff := by
  cases effect with
  | quiet root same =>
    rw [same.handoff]
    exact inChain
  | recorded code detail => exact inChain.neutral rfl rfl
  | candidateAsked epoch reason keeps =>
    exact inChain.neutral rfl (by simp [closesHandoff, keeps])
  | offered unit taken =>
    exact inChain.take (OrderedAccessUnitHandoff.takes_offer inChain.ordered unit taken)
  | closed handoff epoch reason closes later hexh ans =>
    exact inChain.close (by simp [closesHandoff, closes]) later
  | refused handoff epoch reason error code detail rebuild closes later refusal =>
    have asked : InChain (turn.events ++ [.called (.requestIdr epoch reason)
        (turn.answers turn.asked)]) handoff.requireFreshIdr :=
      inChain.close (by simp [closesHandoff, closes]) later
    exact (asked.neutral rfl rfl).close rfl le_rfl
  | rebuilt handoff epoch reason later idle => exact inChain.close rfl later
  | submitted unit handoff idle ready decodes => exact inChain.submit ready _
  | started epoch restarts requested req running committed => exact inChain.neutral rfl rfl
  | retargeted epoch decision restarts req waits => exact inChain
  | restarted epoch next restarts reported whole => exact inChain.neutral rfl rfl
  | settled epoch restarts reported whole => exact inChain.neutral rfl rfl
  | aborted epoch restarts reported abort => exact inChain

theorem init (handoff : OrderedAccessUnitHandoff) (waiting : handoff.state = .waitingIdr)
    (empty : handoff.pending = []) (none : handoff.nextSequence = none) : InChain [] handoff where
  chain := each_nil
  ordered := ⟨by simp [empty], fun _ => ⟨empty, none⟩, by simp [waiting]⟩
  behind := by simp [submitted]
  next := by simp [none]
  stopped := by simp [stretch]

end InChain

/-- In every run of a new runtime each unit follows what it refers to. -/
theorem runs_keep_reference_chain {reassemblyConfig : Config} {compressedHandoffCapacity : Int}
    {correlationId : Units} {root : MobileRuntimeCompositionRoot}
    (created : MobileRuntimeCompositionRoot.new reassemblyConfig compressedHandoffCapacity
      correlationId = .ok root) (steps : List Step) :
    ReferenceChain (({ root } : Turn).takeAll steps).events := by
  have fresh := new_fresh created
  have begins : InChain [] root.handoff :=
    .init root.handoff fresh.waiting fresh.pending fresh.next
  exact (@takeAll_keeps (fun root events => InChain events root.handoff)
    (fun _ _ _ one => InChain.effect one) steps { root } begins).chain

theorem phone_keeps_reference_chain :
    ∃ root, MobileRuntimeCompositionRoot.new .productionDefaults 8 (text "phone") = .ok root ∧
      ∀ steps, ReferenceChain (({ root } : Turn).takeAll steps).events :=
  ⟨_, rfl, @runs_keep_reference_chain .productionDefaults 8 (text "phone") _ rfl⟩

/-- Whether the first unit after each recovery request is an IDR. -/
def recoversWithIdr : Bool → List RuntimeEvent → Bool
  | _, [] => true
  | waiting, .called (.submit _ _ idr _) _ :: events =>
    (!waiting || idr) && recoversWithIdr false events
  | _, .called (.requestIdr _ _) _ :: events => recoversWithIdr true events
  | _, .called (.requestSessionRebuild _ _) _ :: events => recoversWithIdr true events
  | waiting, _ :: events => recoversWithIdr waiting events

instance : DecidableRel Precedes := fun _ _ => inferInstanceAs (Decidable (_ ∨ _))

/-- An IDR that is sent again after a recovery is handed to the decoder again, and a candidate
that asks for its IDR leaves the current stream running. -/
theorem repeated_idr_is_submitted_again :
    ∃ root, MobileRuntimeCompositionRoot.new .productionDefaults 8 (text "phone") = .ok root ∧
      (¬ ∀ steps, (submitted (({ root } : Turn).takeAll steps).events).Pairwise Precedes) ∧
      ¬ ∀ steps, recoversWithIdr false (({ root } : Turn).takeAll steps).events = true := by
  refine ⟨_, rfl, fun all => ?_, fun all => ?_⟩
  · refine absurd (all [⟨.datagram (frameDatagram 1 0 idrUnit) 0, fun _ => none⟩,
      ⟨.restartComplete 1 none, fun _ => none⟩,
      ⟨.datagram (frameDatagram 1 1 predictedUnit) 1, fun _ => none⟩,
      ⟨.datagram (frameDatagram 1 2 []) 2, fun _ => none⟩,
      ⟨.datagram (frameDatagram 1 0 idrUnit) 3, fun _ => none⟩]) ?_
    decide +kernel
  · refine absurd (all [⟨.datagram (frameDatagram 1 0 idrUnit) 0, fun _ => none⟩,
      ⟨.restartComplete 1 none, fun _ => none⟩,
      ⟨.datagram (frameDatagram 2 0 predictedUnit) 1, fun _ => none⟩,
      ⟨.datagram (frameDatagram 1 1 predictedUnit) 2, fun _ => none⟩]) ?_
    decide +kernel

end VisionForge.MobileRuntime
