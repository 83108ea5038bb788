import VisionForge.FormalUsage.SessionGuard
import VisionForge.Lib.Histories

/-! # Paid generations that follow one another

A reservation is outstanding until its owner cancels it or the guard is armed again. While one
is outstanding no other is made, and the guard is armed again only on evidence that the Host
was absent.
-/

namespace VisionForge.FormalUsage.AutomaticFormalUsageSessionGuard

open Lib.Run Lib.Utf

abbrev GuardHistory := List (Operation × Answer)

def guardAfter (operations : List Operation) : AutomaticFormalUsageSessionGuard :=
  exec step new operations

def isRearm : Operation × Answer → Prop
  | (.recordAuthenticatedHostStartIntent _ _, .intent .newStartIntentRearmed) => True
  | _ => False

/-- Something in a history frees a reservation: its owner's cancellation, or a re-arm. -/
def Freed (startRequestId channel : Option Units) (history : GuardHistory) : Prop :=
  (.cancelUnbilledStartReservation startRequestId channel, .flag true) ∈ history ∨
    ∃ entry ∈ history, isRearm entry

def Outstanding (startRequestId channel : Option Units) (history : GuardHistory) : Prop :=
  ∃ before behind, history =
    before ++ (.reserveFormalStart startRequestId channel, .flag true) :: behind ∧
      ¬ Freed startRequestId channel behind

/-- While operations are made the guard stays blocked, is not blocked anew and sees no valid
Host frame. -/
structure Quiet (before between : List Operation) : Prop where
  blocked : ∀ moment, moment <+: between →
    (guardAfter (before ++ moment)).requiresHostRearmProbe = true
  frames : ∀ sequence, .recordHostFrame sequence ∈ between → isValidFrameSequence sequence = false
  restores : ∀ sequence mayResume, .restoreBlocked sequence mayResume ∉ between

/-- The Host was reported absent twice, as far apart as the second report requires. -/
def AbsenceSeen (operations : List Operation) : Prop :=
  ∃ before first firstRequired between second required behind,
    operations = before ++ .recordHostAbsent first firstRequired ::
      (between ++ .recordHostAbsent second required :: behind) ∧
    0 < required ∧ required ≤ second - first ∧
    Quiet before (.recordHostAbsent first firstRequired ::
      (between ++ .recordHostAbsent second required :: behind))

/-- The owner is known exactly while a session is reserved or active. -/
def Owned (decisive : Decisive) : Prop :=
  (decisive.owner.1 ≠ [] ↔ decisive.state = .startReserved ∨ decisive.state = .active) ∧
    (decisive.owner.2 ≠ [] ↔ decisive.state = .startReserved ∨ decisive.state = .active)

theorem owned_unowned {state : State} {absentSince : Int} {confirmed : Bool}
    (notReserved : state ≠ .startReserved) (notActive : state ≠ .active) :
    Owned ⟨state, ([], []), absentSince, confirmed⟩ := by
  simp [Owned, notReserved, notActive]

theorem Effect.owned {pre next : Decisive} {operation : Operation} {ans : Answer}
    (effect : Effect pre operation ans next) (owned : Owned pre) : Owned next := by
  cases effect with
  | idle | frame | absentUnblocked | absentFirst | absentLong => exact owned
  | rearms | cancels | closes | blocks => exact owned_unowned (by simp) (by simp)
  | restores => exact owned_unowned (by split <;> simp) (by split <;> simp)
  | reserves _ someRequest someChannel => simp [Owned, someRequest, someChannel]
  | opens reserved => simpa [Owned, reserved] using owned

theorem guardAfter_owned (operations : List Operation) : Owned (guardAfter operations).decisive :=
  @exec_invariant _ _ _ step (fun guard => Owned guard.decisive) new (by simp [Owned, new, decisive])
    (fun _ operation owned => (step_effect operation).owned owned) operations

theorem Outstanding.of_append {startRequestId channel : Option Units} {hist : GuardHistory}
    {entry : Operation × Answer} (outstanding : Outstanding startRequestId channel (hist ++ [entry])) :
    (Outstanding startRequestId channel hist ∧ ¬ Freed startRequestId channel [entry]) ∨
      entry = (.reserveFormalStart startRequestId channel, .flag true) := by
  obtain ⟨before, behind, split, notFreed⟩ := outstanding
  rcases List.eq_nil_or_concat behind with rfl | ⟨behind, last, rfl⟩
  · right
    obtain ⟨-, same⟩ := List.append_inj' split rfl
    simpa using same
  · left
    rw [List.concat_eq_append] at notFreed
    rw [List.concat_eq_append, ← List.cons_append, ← List.append_assoc] at split
    obtain ⟨rfl, same⟩ := List.append_inj' split rfl
    obtain rfl := List.singleton_inj.mp same
    constructor
    · refine ⟨before, behind, rfl, fun freed => notFreed ?_⟩
      rcases freed with cancelled | ⟨rearm, mem, isRearm⟩
      · exact .inl (by simp [cancelled])
      · exact .inr ⟨rearm, by simp [mem], isRearm⟩
    · intro freed
      apply notFreed
      rcases freed with cancelled | ⟨rearm, mem, isRearm⟩
      · exact .inl (List.mem_append_right behind cancelled)
      · exact .inr ⟨rearm, List.mem_append_right behind mem, isRearm⟩

/-- While a reservation is outstanding the guard is not armed, and a reserved start is that
reservation's. -/
structure Holds (history : GuardHistory) (decisive : Decisive) : Prop where
  unarmed : ∀ startRequestId channel, Outstanding startRequestId channel history →
    decisive.state ≠ .armed
  owner : ∀ startRequestId channel, Outstanding startRequestId channel history →
    decisive.state = .startReserved →
      startRequestId = some decisive.owner.1 ∧ channel = some decisive.owner.2

theorem holds_of_none {hist : GuardHistory} {decisive : Decisive}
    (none : ∀ startRequestId channel, ¬ Outstanding startRequestId channel hist) :
    Holds hist decisive :=
  ⟨fun _ _ outstanding => absurd outstanding (none _ _),
    fun _ _ outstanding => absurd outstanding (none _ _)⟩

theorem Effect.holds {pre next : Decisive} {operation : Operation} {ans : Answer}
    {hist : GuardHistory} (effect : Effect pre operation ans next)
    (holds : Holds hist pre) : Holds (hist ++ [(operation, ans)]) next := by
  -- an outstanding reservation is an old one, or the one just made
  have old {startRequestId channel : Option Units}
      (outstanding : Outstanding startRequestId channel (hist ++ [(operation, ans)]))
      (other : operation ≠ .reserveFormalStart startRequestId channel ∨ ans ≠ .flag true) :
      Outstanding startRequestId channel hist := by
    rcases outstanding.of_append with ⟨old, -⟩ | same
    · exact old
    · obtain ⟨rfl, rfl⟩ := Prod.mk.inj same
      simp at other
  cases effect with
  | idle idle =>
    have other (startRequestId channel : Option Units) :
        operation ≠ .reserveFormalStart startRequestId channel ∨ ans ≠ .flag true := by
      by_contra both
      rw [not_or, not_not, not_not] at both
      obtain ⟨rfl, rfl⟩ := both
      exact idle rfl
    exact ⟨fun _ _ outstanding => holds.unarmed _ _ (old outstanding (other _ _)),
      fun _ _ outstanding => holds.owner _ _ (old outstanding (other _ _))⟩
  | frame | absentUnblocked | absentFirst | absentLong =>
    exact ⟨fun _ _ outstanding => holds.unarmed _ _ (old outstanding (.inl (by simp))),
      fun _ _ outstanding => holds.owner _ _ (old outstanding (.inl (by simp)))⟩
  | rearms =>
    apply holds_of_none
    intro startRequestId channel outstanding
    rcases outstanding.of_append with ⟨-, notFreed⟩ | same
    · exact notFreed (.inr ⟨_, List.mem_singleton_self _, trivial⟩)
    · simp at same
  | cancels reserved =>
    apply holds_of_none
    intro startRequestId channel outstanding
    rcases outstanding.of_append with ⟨old, notFreed⟩ | same
    · obtain ⟨rfl, rfl⟩ := holds.owner _ _ old reserved
      exact notFreed (.inl (List.mem_singleton_self _))
    · simp at same
  | reserves armed =>
    refine ⟨by simp, fun startRequestId channel outstanding _ => ?_⟩
    rcases outstanding.of_append with ⟨old, -⟩ | same
    · exact absurd armed (holds.unarmed _ _ old)
    · simp only [Prod.mk.injEq, Operation.reserveFormalStart.injEq, and_true] at same
      exact ⟨same.1.symm, same.2.symm⟩
  | opens | closes | blocks => exact ⟨by simp, by simp⟩
  | restores => exact ⟨fun _ _ _ => by split <;> simp, fun _ _ _ => by split <;> simp⟩

theorem guardAfter_holds (operations : List Operation) :
    Holds (trace step new operations) (guardAfter operations).decisive := by
  apply @history_invariant _ _ _ step (fun hist guard => Holds hist guard.decisive)
  · exact ⟨fun _ _ outstanding => by simp [Outstanding] at outstanding,
      fun _ _ outstanding => by simp [Outstanding] at outstanding⟩
  · intro hist guard operation holds
    exact (step_effect operation).holds holds

theorem guardAfter_append (operations : List Operation) (operation : Operation) :
    guardAfter (operations ++ [operation]) = ((guardAfter operations).step operation).1 :=
  exec_append step new operations [operation]

theorem Quiet.append {pre between : List Operation} {operation : Operation}
    (quiet : Quiet pre between)
    (blocked : (guardAfter (pre ++ (between ++ [operation]))).requiresHostRearmProbe = true)
    (frame : ∀ seq, operation = .recordHostFrame seq →
      isValidFrameSequence seq = false)
    (restore : ∀ seq mayResume, operation ≠ .restoreBlocked seq mayResume) :
    Quiet pre (between ++ [operation]) where
  blocked := by
    intro moment isBefore
    rcases List.prefix_concat_iff.mp isBefore with rfl | earlier
    · simpa using blocked
    · exact quiet.blocked moment earlier
  frames := by
    intro seq mem
    rcases List.mem_append.mp mem with old | new
    · exact quiet.frames seq old
    · exact frame seq (List.mem_singleton.mp new).symm
  restores := by
    intro seq mayResume mem
    rcases List.mem_append.mp mem with old | new
    · exact quiet.restores seq mayResume old
    · exact restore seq mayResume (List.mem_singleton.mp new).symm

/-- The evidence that the guard holds is that of the operations made. -/
structure Evidence (operations : List Operation) (decisive : Decisive) : Prop where
  blocked : 0 ≤ decisive.absentSince → decisive.blocked
  first : 0 ≤ decisive.absentSince → ∃ before required between,
    operations = before ++ .recordHostAbsent decisive.absentSince required :: between ∧
      Quiet before (.recordHostAbsent decisive.absentSince required :: between)
  confirmed : decisive.absenceConfirmed = true → 0 ≤ decisive.absentSince ∧ AbsenceSeen operations

variable {operations : List Operation}

theorem evidence_reset {state : State} {owner : Units × Units} :
    Evidence operations ⟨state, owner, -1, false⟩ :=
  ⟨by simp, by simp, by simp⟩

section

variable {operations : List Operation} {operation : Operation} {guard : Decisive}

theorem Evidence.continued (evidence : Evidence operations guard)
    (blocked : guard.blocked → (guardAfter (operations ++ [operation])).decisive.blocked)
    (frame : ∀ seq, operation = .recordHostFrame seq →
      isValidFrameSequence seq = false)
    (restore : ∀ seq mayResume, operation ≠ .restoreBlocked seq mayResume) :
    Evidence (operations ++ [operation]) guard where
  blocked := evidence.blocked
  first := by
    intro since
    obtain ⟨before, required, between, rfl, quiet⟩ := evidence.first since
    refine ⟨before, required, between ++ [operation], by simp, ?_⟩
    have still := requiresHostRearmProbe_iff.mpr (blocked (evidence.blocked since))
    exact quiet.append (by simpa using still) frame restore
  confirmed := by
    intro confirmed
    obtain ⟨since, before, first, firstRequired, between, snd, required, behind, rfl, pos,
      long, quiet⟩ := evidence.confirmed confirmed
    refine ⟨since, before, first, firstRequired, between, snd, required,
      behind ++ [operation], by simp, pos, long, ?_⟩
    have still := requiresHostRearmProbe_iff.mpr (blocked (evidence.blocked since))
    have longer := quiet.append (by simpa using still) frame restore
    simpa using longer

end

theorem Effect.evidence {operation : Operation} {ans : Answer} {cur next : Decisive}
    (effect : Effect cur operation ans next)
    (isCurrent : (guardAfter operations).decisive = cur)
    (isNext : (guardAfter (operations ++ [operation])).decisive = next)
    (evidence : Evidence operations cur) : Evidence (operations ++ [operation]) next := by
  cases effect with
  | frame | rearms | reserves | cancels | opens | closes | blocks | restores | absentUnblocked =>
    exact evidence_reset
  | idle idle =>
    apply evidence.continued
    · intro blocked
      rwa [isNext]
    · rintro seq rfl
      exact idle
    · rintro seq mayResume rfl
      exact idle
  | @absentFirst now required blocked time first =>
    have still : (guardAfter (operations ++ [.recordHostAbsent now required])).decisive.blocked := by
      rw [isNext]
      exact blocked
    refine ⟨fun _ => blocked, fun _ => ⟨operations, required, [], rfl, ?_⟩, fun confirmed => ?_⟩
    · have quiet : Quiet operations [] := by
        refine ⟨fun moment isBefore => ?_, by simp, by simp⟩
        obtain rfl := List.prefix_nil.mp isBefore
        rw [List.append_nil, requiresHostRearmProbe_iff, isCurrent]
        exact blocked
      exact quiet.append (requiresHostRearmProbe_iff.mpr still) (by simp) (by simp)
    · exact absurd (evidence.confirmed confirmed).1 (not_le.mpr first)
  | @absentLong now required blocked threshold since long =>
    have still : (guardAfter (operations ++ [.recordHostAbsent now required])).decisive.blocked := by
      rw [isNext]
      exact blocked
    have continued := @evidence.continued _ (.recordHostAbsent now required) _
      (fun _ => still) (by simp) (by simp)
    refine ⟨continued.blocked, continued.first, fun _ => ⟨since, ?_⟩⟩
    obtain ⟨before, firstRequired, between, rfl, quiet⟩ := evidence.first since
    refine ⟨before, _, firstRequired, between, now, required, [], by simp, threshold, long, ?_⟩
    have probing := requiresHostRearmProbe_iff.mpr still
    exact quiet.append (by simpa using probing) (by simp) (by simp)

theorem guardAfter_evidence (operations : List Operation) :
    Evidence operations (guardAfter operations).decisive := by
  induction operations using List.reverseRecOn with
  | nil => exact evidence_reset
  | append_singleton operations operation ih =>
    have effect := @step_effect (guardAfter operations) operation
    rw [← guardAfter_append] at effect
    exact effect.evidence rfl rfl ih

/-- Of two reservations that are made the first was freed in between. -/
theorem reservation_freed {pre middle behind : GuardHistory}
    {startRequestId channel startRequestId' channel' : Option Units}
    (split : trace step new operations =
      pre ++ (.reserveFormalStart startRequestId channel, .flag true) ::
        (middle ++ (.reserveFormalStart startRequestId' channel', .flag true) :: behind)) :
    Freed startRequestId channel middle := by
  rw [← List.cons_append, ← List.append_assoc] at split
  obtain ⟨old, isEarlier, reserved⟩ := trace_split step split
  by_contra notFreed
  have outstanding : Outstanding startRequestId channel (trace step new old) :=
    ⟨pre, middle, isEarlier.symm, notFreed⟩
  have effect := @step_effect (guardAfter old) (.reserveFormalStart startRequestId' channel')
  have ans : ((guardAfter old).step
      (.reserveFormalStart startRequestId' channel')).2 = .flag true := reserved.symm
  rw [ans] at effect
  generalize ((guardAfter old).step
    (.reserveFormalStart startRequestId' channel')).1.decisive = next at effect
  cases effect with
  | idle idle => exact idle rfl
  | reserves armed => exact (guardAfter_holds old).unarmed _ _ outstanding armed

theorem rearm_absenceSeen {connectionId intentToken : Int}
    (rearmed : ((guardAfter operations).step
      (.recordAuthenticatedHostStartIntent connectionId intentToken)).2 =
        .intent .newStartIntentRearmed) : AbsenceSeen operations := by
  have effect := @step_effect (guardAfter operations)
    (.recordAuthenticatedHostStartIntent connectionId intentToken)
  rw [rearmed] at effect
  generalize ((guardAfter operations).step
    (.recordAuthenticatedHostStartIntent connectionId intentToken)).1.decisive = next at effect
  cases effect with
  | idle idle => exact absurd rfl idle
  | rearms _ confirmed => exact ((guardAfter_evidence operations).confirmed confirmed).2

/-- Over every sequence of operations: two reservations are told apart by a cancellation of
the first by its owner or by a re-arm, a re-arm follows evidence of absence, and the owner is
known exactly while a session is reserved or active. -/
theorem no_silent_paid_generation (operations : List Operation) :
    (∀ before middle behind startRequestId channel startRequestId' channel',
      trace step new operations =
        before ++ (.reserveFormalStart startRequestId channel, .flag true) ::
          (middle ++ (.reserveFormalStart startRequestId' channel', .flag true) :: behind) →
      (.cancelUnbilledStartReservation startRequestId channel, .flag true) ∈ middle ∨
        ∃ connectionId intentToken,
          (.recordAuthenticatedHostStartIntent connectionId intentToken,
            .intent .newStartIntentRearmed) ∈ middle) ∧
    (∀ old later connectionId intentToken,
      operations =
        old ++ .recordAuthenticatedHostStartIntent connectionId intentToken :: later →
      ((guardAfter old).step
        (.recordAuthenticatedHostStartIntent connectionId intentToken)).2 =
          .intent .newStartIntentRearmed →
      AbsenceSeen old) ∧
    ((guardAfter operations).startRequestId ≠ [] ↔
      (guardAfter operations).state = .startReserved ∨ (guardAfter operations).state = .active) ∧
    ((guardAfter operations).channelBindingSha256 ≠ [] ↔
      (guardAfter operations).state = .startReserved ∨
        (guardAfter operations).state = .active) := by
  refine ⟨?_, ?_, ?_⟩
  · intro before middle behind startRequestId channel startRequestId' channel' split
    rcases reservation_freed split with cancelled | ⟨⟨operation, answer⟩, member, rearm⟩
    · exact .inl cancelled
    · right
      unfold isRearm at rearm
      split at rearm
      · rename_i same
        obtain ⟨rfl, rfl⟩ := Prod.mk.inj same
        exact ⟨_, _, member⟩
      · exact rearm.elim
  · intro old later connectionId intentToken _ rearmed
    exact rearm_absenceSeen rearmed
  · exact guardAfter_owned operations

/-- A session that was billed, and the evidence on which the next one may start. -/
def billedThenAbsent : List Operation :=
  [.reserveFormalStart (some [1]) (some [2]), .markFormalSessionOpened (some [1]) (some [2]),
    .markFormalSessionClosed (some [1]) (some [2]), .recordHostAbsent 100 50,
    .recordHostAbsent 150 50]

theorem billedThenAbsent_rearms :
    AbsenceSeen billedThenAbsent ∧
      ((.cancelUnbilledStartReservation (some [1]) (some [2]), .flag true) ∈
          (trace step new (billedThenAbsent ++ [.recordAuthenticatedHostStartIntent 7 9])).tail ∨
        ∃ connectionId intentToken,
          (.recordAuthenticatedHostStartIntent connectionId intentToken,
            .intent .newStartIntentRearmed) ∈
          (trace step new
            (billedThenAbsent ++ [.recordAuthenticatedHostStartIntent 7 9])).tail) := by
  constructor
  · exact (no_silent_paid_generation (billedThenAbsent ++
      [.recordAuthenticatedHostStartIntent 7 9])).2.1 _ [] 7 9 rfl (by decide)
  · exact (no_silent_paid_generation (billedThenAbsent ++
      [.recordAuthenticatedHostStartIntent 7 9,
        .reserveFormalStart (some [3]) (some [2])])).1 [] _ [] _ _ (some [3]) (some [2]) rfl

/-! ## Start intents that re-arm the guard

The guard remembers the intent that has re-armed it last. It is to re-arm once for each intent,
whatever other intents come between.
-/

open Lib.Histories

def rearmIntent : Operation × Answer → Option (Int × Int)
  | (.recordAuthenticatedHostStartIntent connectionId intentToken,
      .intent .newStartIntentRearmed) => some (connectionId, intentToken)
  | _ => none

/-- The intents that have re-armed the guard, oldest first. -/
def rearmIntents (operations : List Operation) : List (Int × Int) :=
  (trace step new operations).filterMap rearmIntent

def lastIntent (guard : AutomaticFormalUsageSessionGuard) : Int × Int :=
  (guard.lastHostStartIntentConnectionId, guard.lastHostStartIntentToken)

/-- The guard would be re-armed by an intent that it does not remember. -/
def awaitsIntent (guard : AutomaticFormalUsageSessionGuard) : Bool :=
  guard.requiresHostRearmProbe && guard.hostAbsenceConfirmed

/-- An intent that has re-armed the guard before, but not as the last one, is offered while the
guard waits for an intent. -/
def ReplaysForgotten (earlier : List Operation) (operation : Operation) : Prop :=
  ∃ connectionId intentToken,
    operation = .recordAuthenticatedHostStartIntent connectionId intentToken ∧
      (connectionId, intentToken) ∈ rearmIntents earlier ∧
      (connectionId, intentToken) ≠ (guardAfter earlier).lastIntent ∧
      (guardAfter earlier).awaitsIntent = true

section

variable {guard : AutomaticFormalUsageSessionGuard}

/-- A guard is re-armed by a valid intent that it does not remember, while it waits for one. -/
theorem rearmIntent_step_iff {op : Operation} {intent : Int × Int} :
    rearmIntent (op, (guard.step op).2) = some intent ↔
      op = .recordAuthenticatedHostStartIntent intent.1 intent.2 ∧ intent.1 ≠ 0 ∧
        0 < intent.2 ∧ intent ≠ guard.lastIntent ∧ guard.awaitsIntent = true := by
  cases op with
  | recordAuthenticatedHostStartIntent offeredId offeredToken =>
    dsimp only [step, recordAuthenticatedHostStartIntent, lastIntent, awaitsIntent]
    split_ifs <;> simp [rearmIntent] <;> grind
  | _ => simp [rearmIntent]

end

theorem rearmIntents_append (ops : List Operation) (operation : Operation) :
    rearmIntents (ops ++ [operation]) = rearmIntents ops ++
      (rearmIntent (operation, ((guardAfter ops).step operation).2)).toList := by
  unfold rearmIntents guardAfter
  rw [trace_append, trace_cons, trace_nil, filterMap_concat]

theorem valid_of_rearmIntents {ops : List Operation} {intent : Int × Int}
    (mem : intent ∈ rearmIntents ops) : intent.1 ≠ 0 ∧ 0 < intent.2 := by
  induction ops using List.reverseRecOn with
  | nil => cases mem
  | append_singleton ops op ih =>
    rw [rearmIntents_append, List.mem_append, Option.mem_toList] at mem
    cases mem with
    | inl old => exact ih old
    | inr new =>
      obtain ⟨-, connection, token, -⟩ := rearmIntent_step_iff.mp new
      exact ⟨connection, token⟩

/-- One more operation re-arms the guard for an intent again exactly if it replays one that the
guard has forgotten. -/
theorem replaysForgotten_iff {old : List Operation} {operation : Operation} :
    ReplaysForgotten old operation ↔
      ∃ intent ∈ rearmIntents old,
        rearmIntent (operation, ((guardAfter old).step operation).2) = some intent := by
  constructor
  · rintro ⟨connectionId, intentToken, rfl, known, forgotten, waits⟩
    obtain ⟨connection, token⟩ := valid_of_rearmIntents known
    exact ⟨_, known, rearmIntent_step_iff.mpr ⟨rfl, connection, token, forgotten, waits⟩⟩
  · rintro ⟨intent, known, rearms⟩
    obtain ⟨rfl, -, -, forgotten, waits⟩ := rearmIntent_step_iff.mp rearms
    exact ⟨intent.1, intent.2, rfl, known, forgotten, waits⟩

/-- Each intent re-arms the guard once at most exactly if none that the guard has forgotten is
offered again while it waits for an intent. -/
theorem intents_rearm_once_iff (operations : List Operation) :
    (rearmIntents operations).Nodup ↔
      Each (fun old operation => ¬ ReplaysForgotten old operation) operations := by
  induction operations using List.reverseRecOn with
  | nil => exact ⟨fun _ => each_nil, fun _ => List.nodup_nil⟩
  | append_singleton operations operation ih =>
    rw [each_append, ← ih, rearmIntents_append, List.nodup_append]
    rw [replaysForgotten_iff]
    cases rearmIntent (operation, ((guardAfter operations).step operation).2) with
    | none => simp
    | some intent =>
      simp only [Option.toList_some, List.mem_singleton, Option.some.injEq, exists_eq_right',
        and_congr_right_iff]
      intro _
      constructor
      · rintro ⟨-, fresh⟩ known
        exact fresh intent known intent rfl rfl
      · intro unknown
        refine ⟨by simp, ?_⟩
        rintro other member _ rfl rfl
        exact unknown member

/-- A paid session from its start to its close, and the intent that re-arms the guard after the
Host was absent for a second from `now` on. -/
def sessionAndIntent (now connectionId intentToken : Int) : List Operation :=
  [.reserveFormalStart (some [49]) (some [50]), .markFormalSessionOpened (some [49]) (some [50]),
    .markFormalSessionClosed (some [49]) (some [50]), .recordHostAbsent now 1000,
    .recordHostAbsent (now + 1000) 1000,
    .recordAuthenticatedHostStartIntent connectionId intentToken]

/-- An intent re-arms the guard, another one does, and then the first does so again. -/
def forgottenIntent : List Operation :=
  sessionAndIntent 0 5 7 ++ sessionAndIntent 10000 5 8 ++ sessionAndIntent 20000 5 7

theorem forgotten_intent_rearms_again : ¬ ∀ operations, (rearmIntents operations).Nodup := by
  intro once
  exact absurd (once forgottenIntent) (by decide)

end VisionForge.FormalUsage.AutomaticFormalUsageSessionGuard
