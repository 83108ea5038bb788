import VisionForge.Lib.Histories
import VisionForge.MobileRuntime.Effects

/-! # One restart at a time

The decoder tells the end of each restart that it has begun, once and at any later time. The
coordinator knows restarts by their epochs only and forgets the one in flight when the
runtime asks for a new session, so what is forgotten may still be under way.
-/

namespace VisionForge.MobileRuntime

open Lib.Ascii Lib.Histories Lib.Methods Lib.Utf MobileRuntimeCompositionRoot

def startedRestart : RuntimeEvent → Option Int
  | .called (.restartForEpoch streamEpoch) none => some streamEpoch
  | _ => none

/-- The epochs of the restarts that the decoder has begun, in order. -/
def startedEpochs (events : List RuntimeEvent) : List Int := events.filterMap startedRestart

def reportedRestart : RuntimeEvent → Option Nat
  | .reported restart => some restart
  | _ => none

/-- The restart whose end was told last. -/
def lastReport (events : List RuntimeEvent) : Option Nat :=
  (events.filterMap reportedRestart).getLast?

/-- A restart that has begun and has neither completed nor failed. -/
def Underway (events : List RuntimeEvent) (restart : Nat) : Prop :=
  restart < (startedEpochs events).length ∧ .reported restart ∉ events

instance (events : List RuntimeEvent) (restart : Nat) : Decidable (Underway events restart) :=
  inferInstanceAs (Decidable (_ ∧ _))

/-- What an event may not do while a restart is under way. -/
structure Alone (before : List RuntimeEvent) (event : RuntimeEvent) : Prop where
  restarts : ∀ streamEpoch thrown, event = .called (.restartForEpoch streamEpoch) thrown →
    ∀ restart, ¬ Underway before restart
  submits : ∀ streamEpoch frameSequence idr accessUnit thrown,
    event = .called (.submit streamEpoch frameSequence idr accessUnit) thrown →
    ∀ restart, ¬ Underway before restart
  settles : ∀ completedEpoch, event = .settled completedEpoch →
    ∃ restart, lastReport before = some restart ∧
      restart + 1 = (startedEpochs before).length ∧
      (startedEpochs before)[restart]? = some completedEpoch

/-- The hand-off is not refused its IDR while a restart is under way. -/
def Unrefused (before : List RuntimeEvent) (event : RuntimeEvent) : Prop :=
  ∀ streamEpoch reason error, event = .called (.requestIdr streamEpoch reason) (some error) →
    reason ∉ candidateReasons → ∀ restart, ¬ Underway before restart

def Turn.report (turn : Turn) (restart : Nat) : Turn :=
  { turn with events := turn.events ++ [.reported restart] }

inductive DecoderStep : Turn → Turn → Prop where
  | datagram (turn : Turn) (datagram : Bytes) (nowNanos : Int) (answers : Nat → Option Units) :
      DecoderStep turn (turn.take ⟨.datagram datagram nowNanos, answers⟩)
  | completed (turn : Turn) (restart : Nat) (epoch : Int) (nowNanos : Option Int)
      (answers : Nat → Option Units) (isStarted : (startedEpochs turn.events)[restart]? = some epoch)
      (unreported : RuntimeEvent.reported restart ∉ turn.events) :
      DecoderStep turn ((turn.report restart).take
        ⟨.restartComplete epoch nowNanos, answers⟩)
  | failed (turn : Turn) (restart : Nat) (epoch : Int) (reason : Option Units)
      (nowNanos : Option Int) (answers : Nat → Option Units)
      (isStarted : (startedEpochs turn.events)[restart]? = some epoch)
      (unreported : RuntimeEvent.reported restart ∉ turn.events) :
      DecoderStep turn ((turn.report restart).take
        ⟨.restartFailed epoch reason nowNanos, answers⟩)

section

variable {events : List RuntimeEvent} {event : RuntimeEvent}

theorem startedEpochs_append (event : RuntimeEvent) :
    startedEpochs (events ++ [event]) = startedEpochs events ++ (startedRestart event).toList := by
  cases isStarted : startedRestart event with
  | none => simp [startedEpochs, isStarted]
  | some epoch => simp [startedEpochs, isStarted]

theorem underway_append {restart : Nat} (underway : Underway (events ++ [event]) restart) :
    Underway events restart ∨
      ∃ epoch, startedRestart event = some epoch ∧ restart = (startedEpochs events).length := by
  obtain ⟨bound, unreported⟩ := underway
  have old : .reported restart ∉ events := fun mem => unreported (by simp [mem])
  rw [startedEpochs_append] at bound
  cases isStarted : startedRestart event with
  | none => exact .inl ⟨by simpa [isStarted] using bound, old⟩
  | some epoch =>
    rcases Nat.lt_or_ge restart (startedEpochs events).length with pre | behind
    · exact .inl ⟨pre, old⟩
    · refine .inr ⟨epoch, rfl, ?_⟩
      simp [isStarted] at bound
      omega

end

/-- The coordinator waits for the only restart under way. While a callback is handled, the
restart that it reports is the last one, or a later one has begun since. -/
structure Single (callback : Option Int) (events : List RuntimeEvent)
    (root : MobileRuntimeCompositionRoot) : Prop where
  law : Each Alone events
  awaited : ∀ restart, Underway events restart → restart + 1 = (startedEpochs events).length ∧
    root.restarts.inFlight = true ∧
      (startedEpochs events)[restart]? = some root.restarts.activeEpoch
  flying : root.restarts.inFlight = true →
    root.handoff.state ≠ .epochExhausted ∧ root.reassembly.currentEpoch.isSome = true
  reported : ∀ epoch ∈ callback, root.restarts.inFlight = true →
    epoch < root.restarts.activeEpoch ∨
      (epoch = root.restarts.activeEpoch ∧ (∀ restart, ¬ Underway events restart) ∧
        ∃ restart, lastReport events = some restart ∧
          restart + 1 = (startedEpochs events).length ∧
          (startedEpochs events)[restart]? = some epoch)

namespace Single

variable {callback : Option Int} {events : List RuntimeEvent} {event : RuntimeEvent}
  {root root' : MobileRuntimeCompositionRoot}

variable (single : Single callback events root)

include single

theorem idle (idle : root.restarts.inFlight = false) (restart : Nat) :
    ¬ Underway events restart := by
  intro underway
  have flying := (single.awaited restart underway).2.1
  exact absurd (idle.symm.trans flying) (by decide)

theorem same (inFlight : root'.restarts.inFlight = root.restarts.inFlight)
    (on : root'.restarts.activeEpoch = root.restarts.activeEpoch)
    (flying : root.restarts.inFlight = true →
      root'.handoff.state ≠ .epochExhausted ∧ root'.reassembly.currentEpoch.isSome = true) :
    Single callback events root' where
  law := single.law
  awaited := by
    rw [inFlight, on]
    exact single.awaited
  flying := by
    rw [inFlight]
    exact flying
  reported := by
    rw [inFlight, on]
    exact single.reported

/-- An event that begins no restart and tells no end. -/
theorem neutral (alone : Alone events event) (starts : startedRestart event = none)
    (reports : reportedRestart event = none) : Single callback (events ++ [event]) root := by
  have sameStarted : startedEpochs (events ++ [event]) = startedEpochs events := by
    simp [startedEpochs_append, starts]
  have sameReport : lastReport (events ++ [event]) = lastReport events := by
    simp [lastReport, reports]
  have fewer : ∀ restart, Underway (events ++ [event]) restart → Underway events restart := by
    intro restart underway
    rcases underway_append underway with old | ⟨epoch, isStarted, -⟩
    · exact old
    · simp [starts] at isStarted
  refine ⟨each_append.mpr ⟨single.law, alone⟩, ?_, single.flying, ?_⟩
  · intro restart underway
    rw [sameStarted]
    exact single.awaited restart (fewer restart underway)
  · intro epoch isCallback flying
    rw [sameStarted, sameReport]
    rcases single.reported epoch isCallback flying with earlier | ⟨hact, none, last⟩
    · exact .inl earlier
    · exact .inr ⟨hact, fun restart underway => none restart (fewer restart underway), last⟩

theorem call {call : PortCall} (thrown : Option Units)
    (restarts : ∀ epoch, call ≠ .restartForEpoch epoch)
    (submits : ∀ epoch seq idr unit, call ≠ .submit epoch seq idr unit) :
    Single callback (events ++ [.called call thrown]) root := by
  refine single.neutral ⟨?_, ?_, ?_⟩ ?_ rfl
  · intro epoch thrown same
    exact absurd (RuntimeEvent.called.inj same).1 (restarts epoch)
  · intro epoch seq idr unit thrown same
    exact absurd (RuntimeEvent.called.inj same).1 (submits epoch seq idr unit)
  · intro epoch same
    cases same
  · unfold startedRestart
    split
    · next same => exact absurd (RuntimeEvent.called.inj same).1 (restarts _)
    · rfl

theorem rest (none : ∀ restart, ¬ Underway events restart) (idle : root'.restarts.inFlight = false) :
    Single callback events root' where
  law := single.law
  awaited := fun restart underway => absurd underway (none restart)
  flying := fun flying => absurd (idle.symm.trans flying) (by decide)
  reported := fun _ _ flying => absurd (idle.symm.trans flying) (by decide)

theorem start {epoch : Int} {thrown : Option Units} {restarts : DecoderRestartCoordinator}
    (none : ∀ restart, ¬ Underway events restart)
    (waits : root'.restarts = if thrown.isSome then .clear else restarts)
    (inFlight : restarts.inFlight = true) (on : restarts.activeEpoch = epoch)
    (flying : root'.handoff.state ≠ .epochExhausted ∧ root'.reassembly.currentEpoch.isSome = true)
    (later : ∀ reported ∈ callback, reported < epoch) :
    Single callback (events ++ [.called (.restartForEpoch epoch) thrown]) root' := by
  have alone : Alone events (.called (.restartForEpoch epoch) thrown) := by
    refine ⟨fun _ _ _ => none, ?_, ?_⟩
    · intro _ _ _ _ _ same
      cases same
    · intro _ same
      cases same
  cases thrown with
  | some error =>
    have kept := single.neutral alone rfl rfl
    refine kept.rest ?_ (by rw [waits]; rfl)
    intro restart underway
    rcases underway_append underway with old | ⟨other, isStarted, -⟩
    · exact none restart old
    · cases isStarted
  | none =>
    have isRestarts : root'.restarts = restarts := waits
    refine ⟨each_append.mpr ⟨single.law, alone⟩, ?_, fun _ => flying, ?_⟩
    · intro restart underway
      rcases underway_append underway with old | ⟨other, -, isNew⟩
      · exact absurd old (none restart)
      · rw [startedEpochs_append, isRestarts, isNew]
        simp [startedRestart, on, inFlight]
    · intro reported isCallback _
      rw [isRestarts, on]
      exact .inl (later reported isCallback)

theorem none_underway {epoch : Int} (isCallback : callback = some epoch)
    (flying : root.restarts.inFlight = true) (on : epoch = root.restarts.activeEpoch) :
    (∀ restart, ¬ Underway events restart) ∧
      ∃ restart, lastReport events = some restart ∧ restart + 1 = (startedEpochs events).length ∧
        (startedEpochs events)[restart]? = some epoch := by
  rcases single.reported epoch isCallback flying with old | ⟨-, none, last⟩
  · omega
  · exact ⟨none, last⟩

omit single

/-- One effect of a run in which the hand-off is not refused too early. -/
theorem effect {turn turn' : Turn} (effect : Effect callback turn turn')
    (single : Single callback turn.events turn.root) (unrefused : Each Unrefused turn'.events) :
    Single callback turn'.events turn'.root := by
  cases effect with
  | quiet root same =>
    refine single.same (by rw [same.restarts]) (by rw [same.restarts]) fun flying => ?_
    rw [same.handoff]
    exact ⟨(single.flying flying).1, same.committed (single.flying flying).2⟩
  | recorded code detail => exact single.call _ (by simp) (by simp)
  | candidateAsked epoch reason keeps => exact single.call _ (by simp) (by simp)
  | offered unit taken =>
    refine single.same rfl rfl fun flying => ⟨?_, (single.flying flying).2⟩
    intro hexh
    exact (single.flying flying).1 (turn.root.handoff.exhausted_offer unit hexh)
  | closed handoff epoch reason closes later hexh ans =>
    refine (single.call _ (by simp) (by simp)).same rfl rfl fun flying =>
      ⟨?_, (single.flying flying).2⟩
    intro ended
    exact (single.flying flying).1 (hexh (OrderedAccessUnitHandoff.exhausted_fresh ended))
  | refused handoff epoch reason error code detail rebuild closes later refusal =>
    have asked : Unrefused turn.events
        (.called (.requestIdr epoch reason) (turn.answers turn.asked)) :=
      (each_append.mp unrefused.of_append.of_append).2
    have none := asked epoch reason error (by rw [refusal]) closes
    have rested : Single callback turn.events
        (((((turn.withHandoff handoff.requireFreshIdr).call (.requestIdr epoch reason)).call
          (.record code detail)).rebuilt epoch rebuild).root) :=
      single.rest none (DecoderRestartCoordinator.idle_forget turn.root.restarts)
    exact ((rested.call _ (by simp) (by simp)).call _ (by simp) (by simp)).call _ (by simp)
      (by simp)
  | rebuilt handoff epoch reason later idle =>
    have none : ∀ restart, ¬ Underway turn.events restart := by
      intro restart underway
      have flying := (single.awaited restart underway).2.1
      rcases idle flying with hexh | missing | ⟨reported, isCallback, future⟩
      · exact (single.flying flying).1 hexh
      · simpa [missing] using (single.flying flying).2
      · rcases single.reported reported isCallback flying with old | ⟨on, -⟩ <;> omega
    exact (single.rest none (DecoderRestartCoordinator.idle_forget turn.root.restarts)).call _
      (by simp) (by simp)
  | submitted unit handoff idle ready decodes =>
    have none := single.idle idle
    have alone : Alone turn.events (.called (.submit unit.streamEpoch unit.frameSequence unit.idr
        unit.bytes) (turn.answers turn.asked)) := ⟨by simp, fun _ _ _ _ _ _ => none, by simp⟩
    exact (single.neutral alone rfl rfl).same rfl rfl fun flying => absurd (idle.symm.trans flying) (by decide)
  | started epoch restarts requested req running committed =>
    obtain ⟨idle, -, inFlight, on⟩ := DecoderRestartCoordinator.request_startNow req
    refine single.start (single.idle idle) rfl inFlight on ⟨?_, committed⟩ (by simp [requested])
    change turn.root.handoff.state ≠ _
    simp [running]
  | retargeted epoch decision restarts req waits =>
    obtain ⟨inFlight, on⟩ := DecoderRestartCoordinator.request_waits req waits
    exact single.same inFlight on single.flying
  | restarted epoch next restarts reported whole =>
    obtain ⟨flying, hact, old, inFlight, on⟩ :=
      DecoderRestartCoordinator.complete_startNext whole
    have none := (single.none_underway reported flying hact).1
    refine single.start none rfl inFlight on (single.flying flying) ?_
    intro other isCallback
    obtain rfl := Option.some.inj (reported.symm.trans isCallback)
    exact old
  | settled epoch restarts reported whole =>
    obtain ⟨flying, hact, rfl⟩ := DecoderRestartCoordinator.complete_settled whole
    obtain ⟨none, last⟩ := single.none_underway reported flying hact
    have alone : Alone turn.events (.settled epoch) := by
      refine ⟨by simp, by simp, ?_⟩
      intro completedEpoch same
      obtain rfl := RuntimeEvent.settled.inj same
      exact last
    refine (single.rest none ?_).neutral alone rfl rfl
    rfl
  | aborted epoch restarts reported abort =>
    obtain ⟨flying, hact, rfl⟩ := DecoderRestartCoordinator.abort_active_only abort
    exact single.rest (single.none_underway reported flying hact).1 rfl

/-- A restart that is under way tells its end to the coordinator that waits for it. -/
theorem report (single : Single none events root) {restart : Nat} {epoch : Int}
    (isStarted : (startedEpochs events)[restart]? = some epoch)
    (unreported : RuntimeEvent.reported restart ∉ events) :
    Single (some epoch) (events ++ [.reported restart]) root := by
  have bound := (List.getElem?_eq_some_iff.mp isStarted).1
  obtain ⟨isLast, flying, on⟩ := single.awaited restart ⟨bound, unreported⟩
  have hact : epoch = root.restarts.activeEpoch := by simpa [isStarted] using on
  have sameStarted : startedEpochs (events ++ [.reported restart]) = startedEpochs events := by
    simp [startedEpochs_append, startedRestart]
  have noneUnderway : ∀ other, ¬ Underway (events ++ [.reported restart]) other := by
    intro other underway
    have unreported' := underway.2
    rcases underway_append underway with old | ⟨_, isStarted, -⟩
    · have isLast' := (single.awaited other old).1
      obtain rfl : other = restart := by omega
      simp at unreported'
    · cases isStarted
  refine ⟨each_append.mpr ⟨single.law, by simp, by simp, by simp⟩, ?_, single.flying, ?_⟩
  · exact fun other underway => absurd underway (noneUnderway other)
  · intro other isCallback _
    obtain rfl := Option.some.inj isCallback
    refine .inr ⟨hact, noneUnderway, restart, by simp [lastReport, reportedRestart], ?_, ?_⟩
    · rw [sameStarted]
      exact isLast
    · rw [sameStarted]
      exact isStarted

theorem forget (single : Single callback events root) : Single none events root :=
  ⟨single.law, single.awaited, single.flying, by simp⟩

end Single

theorem take_single {turn : Turn} {step : Step}
    (single : Single step.operation.callback turn.events turn.root)
    (unrefused : Each Unrefused (turn.take step).events) :
    Single none (turn.take step).events (turn.take step).root := by
  have kept : ∀ turn', Effects step.operation.callback
      { turn with answers := step.answers, asked := 0 } turn' → Each Unrefused turn'.events →
        Single step.operation.callback turn'.events turn'.root := by
    intro turn' effects
    induction effects with
    | refl => exact fun _ => single
    | tail old effect ih =>
      intro unrefused
      obtain ⟨more, isMore⟩ := effects_grow (.single effect)
      have pre := isMore ▸ unrefused
      exact (ih pre.of_append).effect effect unrefused
  exact (kept _ (take_effects turn step) unrefused).forget

theorem step_grows {turn turn' : Turn} (step : DecoderStep turn turn') :
    ∃ more, turn'.events = turn.events ++ more := by
  cases step with
  | datagram datagram nowNanos answers => exact take_grows turn _
  | completed restart epoch nowNanos answers isStarted unreported =>
    obtain ⟨more, isMore⟩ := take_grows (turn.report restart)
      ⟨.restartComplete epoch nowNanos, answers⟩
    exact ⟨.reported restart :: more, by rw [isMore, Turn.report, List.append_assoc]; rfl⟩
  | failed restart epoch reason nowNanos answers isStarted unreported =>
    obtain ⟨more, isMore⟩ := take_grows (turn.report restart)
      ⟨.restartFailed epoch reason nowNanos, answers⟩
    exact ⟨.reported restart :: more, by rw [isMore, Turn.report, List.append_assoc]; rfl⟩

theorem step_single {turn turn' : Turn} (step : DecoderStep turn turn')
    (single : Single none turn.events turn.root) (unrefused : Each Unrefused turn'.events) :
    Single none turn'.events turn'.root := by
  cases step with
  | datagram datagram nowNanos answers => exact take_single single unrefused
  | completed restart epoch nowNanos answers isStarted unreported =>
    exact take_single (single.report isStarted unreported) unrefused
  | failed restart epoch reason nowNanos answers isStarted unreported =>
    exact take_single (single.report isStarted unreported) unrefused

/-- As long as the hand-off is refused no IDR while a restart is under way, restarts come one at
a time, and nothing is decoded meanwhile. -/
theorem restarts_come_one_at_a_time {reassemblyConfig : Config} {compressedHandoffCapacity : Int}
    {correlationId : Units} {root : MobileRuntimeCompositionRoot} {turn : Turn}
    (created : MobileRuntimeCompositionRoot.new reassemblyConfig compressedHandoffCapacity
      correlationId = .ok root) (run : Relation.ReflTransGen DecoderStep { root } turn)
    (unrefused : Each Unrefused turn.events) : Each Alone turn.events := by
  have fresh := new_fresh created
  have begins : Single none [] root := by
    refine ⟨each_nil, ?_, ?_, by simp⟩
    · intro restart underway
      simp [Underway, startedEpochs] at underway
    · simp [fresh.restarts, DecoderRestartCoordinator.clear]
  suffices kept : Single none turn.events turn.root from kept.law
  revert unrefused
  induction run with
  | refl => exact fun _ => begins
  | tail _ step ih =>
    intro unrefused
    obtain ⟨more, isMore⟩ := step_grows step
    have before := isMore ▸ unrefused
    exact step_single step (ih before.of_append) unrefused

def refusesIdr : RuntimeEvent → Bool
  | .called (.requestIdr _ _) (some _) => true
  | _ => false

theorem unrefused_of_answered {events : List RuntimeEvent}
    (ans : events.all (!refusesIdr ·) = true) : Each Unrefused events := by
  rintro pre event behind rfl epoch reason error rfl
  have refused := List.all_eq_true.mp ans (.called (.requestIdr epoch reason) (some error))
    (by simp)
  simp [refusesIdr] at refused

theorem first_restart_settles_alone :
    ∃ root, MobileRuntimeCompositionRoot.new .productionDefaults 8 (text "phone") = .ok root ∧
      Each Alone (((({ root } : Turn).take ⟨.datagram (frameDatagram 1 0 idrUnit) 0,
        fun _ => none⟩).report 0).take ⟨.restartComplete 1 none, fun _ => none⟩).events := by
  refine ⟨_, rfl, @restarts_come_one_at_a_time .productionDefaults 8 (text "phone") _ _ rfl
    ((Relation.ReflTransGen.single (.datagram _ _ 0 _)).tail
      (.completed _ 0 1 none _ (by decide +kernel) (by decide +kernel)))
    (unrefused_of_answered (by decide +kernel))⟩

/-- The IDR is refused while the first restart is under way, so the runtime forgets it and the
next IDR begins a second one beside it. -/
theorem forgotten_restart_runs_beside_the_next :
    ∃ root, MobileRuntimeCompositionRoot.new .productionDefaults 8 (text "phone") = .ok root ∧
      ¬ ∀ turn, Relation.ReflTransGen DecoderStep { root } turn → Each Alone turn.events := by
  refine ⟨_, rfl, fun all => ?_⟩
  have law := all _ (((Relation.ReflTransGen.single
    (.datagram _ (frameDatagram 1 0 idrUnit) 0 fun _ => none)).tail
    (.datagram _ (frameDatagram 1 1 []) 1 fun asked =>
      if asked = 0 then some (text "IllegalStateException") else none)).tail
    (.datagram _ (frameDatagram 1 0 idrUnit) 2 fun _ => none))
  have alone := @Each.of_getElem? _ _ _ (.called (.restartForEpoch 1) none) law 4
    (by decide +kernel)
  exact alone.restarts 1 none rfl 0 (by decide +kernel)

end VisionForge.MobileRuntime
