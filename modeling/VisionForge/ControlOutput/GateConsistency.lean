import VisionForge.ControlOutput.Coordinator

/-! # The coordinator and its two gates

After every call either both gates have been told to close, or both are open and have said so.
What each method does to the gates is proved of the few flags that decide about them; everything
else it does is quiet.
-/

namespace VisionForge.ControlOutput

open Lib.Methods ControlOutputCoordinator

def allowance : PortCall → Option (Bool × Bool)
  | .setOutputDeliveryAllowed allowed accepted => some (allowed, accepted)
  | _ => none

def application : PortCall → Option (Bool × Bool)
  | .apply outputEnabled accepted => some (outputEnabled, accepted)
  | _ => none

def lastAllowed (calls : List PortCall) : Option (Bool × Bool) :=
  (calls.filterMap allowance).getLast?

def lastApplied (calls : List PortCall) : Option (Bool × Bool) :=
  (calls.filterMap application).getLast?

theorem lastAllowed_append (calls : List PortCall) (call : PortCall) :
    lastAllowed (calls ++ [call]) = (allowance call <|> lastAllowed calls) := by
  cases said : allowance call <;> simp [lastAllowed, said]

theorem lastApplied_append (calls : List PortCall) (call : PortCall) :
    lastApplied (calls ++ [call]) = (application call <|> lastApplied calls) := by
  cases said : application call <;> simp [lastApplied, said]

attribute [simp] lastAllowed_append lastApplied_append

/-- The flags that decide about the gates, and the last call on each gate. -/
structure Gates where
  requested : Bool
  enabled : Bool
  suspended : Bool
  confirmed : Bool
  deferred : Bool
  allowed : Option (Bool × Bool)
  applied : Option (Bool × Bool)

def Turn.gates (turn : Turn) : Gates where
  requested := turn.coordinator.automaticOutputRequested
  enabled := turn.coordinator.outputEnabled
  suspended := turn.coordinator.outputRecoverySuspended
  confirmed := turn.coordinator.outputCloseConfirmed
  deferred := turn.coordinator.automaticRetryDeferred
  allowed := lastAllowed turn.calls
  applied := lastApplied turn.calls

/-- From every turn whose gates meet the first condition a method answers, and its answer and
the gates it leaves meet the second. -/
def Leads {α : Type} (pre : Gates → Prop) (method : Control α) (post : α → Gates → Prop) : Prop :=
  Returns (fun turn => pre turn.gates) method (fun value turn => post value turn.gates)

namespace Leads

variable {α β : Type} {pre : Gates → Prop} {post : α → Gates → Prop} {finish : β → Gates → Prop}
  {method : Control α} {next : α → Control β}

theorem pure {value : α} (holds : ∀ gates, pre gates → post value gates) :
    Leads pre (Pure.pure value) post :=
  Returns.pure fun turn before => holds turn.gates before

theorem bind (middle : α → Gates → Prop) (first : Leads pre method middle)
    (rest : ∀ value, Leads (middle value) (next value) finish) :
    Leads pre (method >>= next) finish :=
  Returns.bind first rest

theorem strengthen {stronger : Gates → Prop} (leads : Leads pre method post)
    (holds : ∀ gates, stronger gates → pre gates) : Leads stronger method post :=
  fun turn before => leads turn (holds turn.gates before)

theorem weaken {weaker : α → Gates → Prop} (leads : Leads pre method post)
    (holds : ∀ value gates, post value gates → weaker value gates) : Leads pre method weaker :=
  Returns.weaken leads fun value turn => holds value turn.gates

theorem given {fact : Prop} (leads : fact → Leads pre method post) :
    Leads (fun gates => pre gates ∧ fact) method post :=
  fun turn before => leads before.2 turn before.1

theorem ite {cond : Prop} [Decidable cond] {other : Control α}
    (yes : cond → Leads pre method post) (no : ¬cond → Leads pre other post) :
    Leads pre (if cond then method else other) post := by
  split
  · exact yes ‹_›
  · exact no ‹_›

theorem current {post : ControlOutputCoordinator → Gates → Prop}
    (holds : ∀ turn : Turn, pre turn.gates → post turn.coordinator turn.gates) :
    Leads pre current post :=
  fun turn before => ⟨_, turn, rfl, holds turn before⟩

theorem change {update : ControlOutputCoordinator → ControlOutputCoordinator}
    {post : Unit → Gates → Prop}
    (holds : ∀ turn : Turn, pre turn.gates →
      post () { turn with coordinator := update turn.coordinator }.gates) :
    Leads pre (change update) post :=
  fun turn before => ⟨(), _, rfl, holds turn before⟩

theorem setOutputDeliveryAllowed {allowed : Bool} {post : Bool → Gates → Prop}
    (holds : ∀ gates ok, pre gates →
      post ok { gates with allowed := some (allowed, ok) }) :
    Leads pre (setOutputDeliveryAllowed allowed) post := by
  intro turn before
  have after := holds turn.gates (turn.answers.setOutputDeliveryAllowed turn.asked) before
  refine ⟨_, _, rfl, ?_⟩
  simpa [Turn.gates, allowance, application] using after

theorem applyProfile {outputEnabled : Bool} {post : Bool → Gates → Prop}
    (holds : ∀ gates ok, pre gates →
      post ok { gates with applied := some (outputEnabled, ok) }) :
    Leads pre (applyProfile outputEnabled) post := by
  intro turn before
  have after := holds turn.gates (turn.answers.apply turn.asked) before
  refine ⟨_, _, rfl, ?_⟩
  simpa [Turn.gates, allowance, application] using after

end Leads

def Quiet {α : Type} (method : Control α) : Prop :=
  ∀ gates, Leads (fun before => before = gates) method (fun _ after => after = gates)

namespace Quiet

variable {α β : Type} {method : Control α} {next : α → Control β}

theorem pure (value : α) : Quiet (Pure.pure value) :=
  fun _ => Leads.pure fun _ same => same

theorem bind (first : Quiet method) (rest : ∀ value, Quiet (next value)) :
    Quiet (method >>= next) :=
  fun gates => Leads.bind _ (first gates) fun value => rest value gates

theorem current : Quiet current :=
  fun _ turn same => ⟨_, turn, rfl, same⟩

theorem ask (ans : PortAnswers → Nat → α) : Quiet (ask ans) :=
  fun _ _ same => ⟨_, _, rfl, same⟩

theorem tell {call : PortCall} (noAllowance : allowance call = none)
    (noApplication : application call = none) : Quiet (tell call) := by
  intro gates turn same
  refine ⟨(), _, rfl, ?_⟩
  rw [← same]
  simp [Turn.gates, noAllowance, noApplication]

theorem write (event : String) : Quiet (write event) := tell rfl rfl

theorem change {update : ControlOutputCoordinator → ControlOutputCoordinator}
    (same : ∀ turn : Turn, { turn with coordinator := update turn.coordinator }.gates = turn.gates) :
    Quiet (change update) :=
  fun _ turn pre => ⟨(), _, rfl, (same turn).trans pre⟩

theorem ite {cond : Prop} [Decidable cond] {other : Control α} (yes : Quiet method)
    (no : Quiet other) : Quiet (if cond then method else other) := by
  split
  · exact yes
  · exact no

theorem keeps (quiet : Quiet method) (holds : Gates → Prop) :
    Leads holds method (fun _ => holds) := by
  intro turn pre
  obtain ⟨value, turn', ran, same⟩ := quiet turn.gates turn rfl
  refine ⟨value, turn', ran, ?_⟩
  show holds turn'.gates
  rw [same]
  exact pre

theorem andThen {pre : Gates → Prop} {post : β → Gates → Prop} (quiet : Quiet method)
    (rest : ∀ value, Leads pre (next value) post) : Leads pre (method >>= next) post :=
  Leads.bind _ (quiet.keeps pre) rest

end Quiet

def Gates.Truthful (gates : Gates) : Prop :=
  gates.confirmed = true →
    gates.allowed = some (false, true) ∧ gates.applied = some (false, true)

structure Gates.Shut (gates : Gates) : Prop where
  requested : gates.requested = false
  enabled : gates.enabled = false
  allowed : ∃ accepted, gates.allowed = some (false, accepted)
  applied : ∃ accepted, gates.applied = some (false, accepted)
  truthful : gates.Truthful

structure Gates.Opened (gates : Gates) : Prop where
  requested : gates.requested = true
  allowed : gates.allowed = some (true, true)
  applied : gates.applied = some (true, true)
  unconfirmed : gates.confirmed = false

def Gates.Consistent (gates : Gates) : Prop := gates.Shut ∨ gates.Opened

variable {gates : Gates}

theorem Gates.Opened.truthful (opened : gates.Opened) : gates.Truthful := by
  intro confirmed
  simp [opened.unconfirmed] at confirmed

theorem Gates.Consistent.truthful (cons : gates.Consistent) : gates.Truthful := by
  rcases cons with shut | opened
  · exact shut.truthful
  · exact opened.truthful

theorem Gates.Consistent.shut (cons : gates.Consistent)
    (unrequested : gates.requested = false) : gates.Shut := by
  rcases cons with shut | opened
  · exact shut
  · simp [opened.requested] at unrequested

theorem Gates.Consistent.opened {gates : Gates} (cons : gates.Consistent)
    (requested : gates.requested = true) : gates.Opened := by
  rcases cons with shut | opened
  · simp [shut.requested] at requested
  · exact opened

theorem closeEffectiveOutput_shuts :
    Leads (fun gates => gates.requested = false) closeEffectiveOutput
      (fun _ gates => gates.Shut) := by
  refine Leads.bind (fun _ gates => gates.requested = false ∧ gates.enabled = false)
    (Leads.change fun _ requested => ⟨requested, rfl⟩) fun _ => ?_
  refine Leads.bind (fun transportClosed gates =>
    (gates.requested = false ∧ gates.enabled = false) ∧
      gates.allowed = some (false, transportClosed))
    (Leads.setOutputDeliveryAllowed fun _ _ lowered => ⟨lowered, rfl⟩) fun transportClosed => ?_
  refine Leads.bind (fun nativeClosed gates =>
    ((gates.requested = false ∧ gates.enabled = false) ∧
      gates.allowed = some (false, transportClosed)) ∧
        gates.applied = some (false, nativeClosed))
    (Leads.applyProfile fun _ _ told => ⟨told, rfl⟩) fun nativeClosed => ?_
  refine Leads.change fun turn ⟨⟨⟨requested, enabled⟩, allowed⟩, applied⟩ =>
    ⟨requested, enabled, ⟨_, allowed⟩, ⟨_, applied⟩, ?_⟩
  intro confirmed
  obtain ⟨rfl, rfl⟩ : transportClosed = true ∧ nativeClosed = true := by
    simpa [Turn.gates] using confirmed
  exact ⟨allowed, applied⟩

theorem reportLock_quiet (reason : String) (stateChanged : Bool) :
    Quiet (reportLock reason stateChanged) := by
  have rest : Quiet (do
      let self ← current
      if reason ∉ self.lockReasonsReportedWhileClosed then
        change fun self =>
          { self with
            lockReasonsReportedWhileClosed := reason :: self.lockReasonsReportedWhileClosed }
        write "control_output_auto_locked") :=
    Quiet.current.bind fun self => Quiet.ite
      ((Quiet.change fun _ => rfl).bind fun _ => Quiet.write _) (Quiet.pure ())
  exact Quiet.ite ((Quiet.change fun _ => rfl).bind fun _ => rest) rest

theorem Gates.Truthful.shut (truthful : gates.Truthful) (confirmed : gates.confirmed = true)
    (requested : gates.requested = false) (enabled : gates.enabled = false) : gates.Shut where
  requested := requested
  enabled := enabled
  allowed := ⟨true, (truthful confirmed).1⟩
  applied := ⟨true, (truthful confirmed).2⟩
  truthful := truthful

theorem closeAutomaticGate_shuts (reason : String) (forceClose : Bool) :
    Leads Gates.Truthful (closeAutomaticGate reason forceClose) (fun _ => Gates.Shut) := by
  refine Leads.bind (fun self gates =>
    gates.Truthful ∧ gates.confirmed = self.outputCloseConfirmed)
    (Leads.current fun _ truthful => ⟨truthful, rfl⟩) fun self => ?_
  refine Leads.bind (fun _ gates =>
    (gates.Truthful ∧ gates.confirmed = self.outputCloseConfirmed) ∧ gates.requested = false)
    (Leads.change fun _ truthful => ⟨truthful, rfl⟩) fun _ => ?_
  have report : ∀ _ : Unit, Leads Gates.Shut
      (reportLock reason (self.automaticOutputRequested || self.outputEnabled ||
        self.outputRecoverySuspended)) (fun _ => Gates.Shut) :=
    fun _ => (reportLock_quiet _ _).keeps _
  refine Leads.ite (fun _ => ?_) fun skipped => ?_
  · exact Leads.bind _ (closeEffectiveOutput_shuts.strengthen fun _ pre => pre.2) report
  · have closed : self.outputCloseConfirmed = true := by simp_all
    refine Leads.bind _ (Leads.change ?_) report
    intro turn ⟨⟨truthful, confirmed⟩, requested⟩
    exact Gates.Truthful.shut truthful (confirmed.trans closed) requested rfl

/-- What a method leaves that opens no gates. -/
def Gates.Lowered (before after : Gates) : Prop :=
  after.Consistent ∧ (after.requested = true → before.requested = true)

def Lowers {α : Type} (method : Control α) : Prop :=
  ∀ before, before.Consistent →
    Leads (fun gates => gates = before) method (fun _ after => before.Lowered after)

namespace Lowers

variable {α β : Type} {method : Control α} {next : α → Control β}

theorem of_quiet (quiet : Quiet method) : Lowers method :=
  fun pre cons => (quiet pre).weaken fun _ after same => by
    subst same
    exact ⟨cons, id⟩

theorem bind (first : Lowers method) (rest : ∀ value, Lowers (next value)) :
    Lowers (method >>= next) := by
  intro pre cons turn is
  obtain ⟨value, turn', ran, left, requested⟩ := first pre cons turn is
  obtain ⟨value', turn'', ran', left', requested'⟩ := rest value turn'.gates left turn' rfl
  refine ⟨value', turn'', ?_, left', fun still => requested (requested' still)⟩
  rw [EStateM.run_bind, ran]
  exact ran'

theorem ite {cond : Prop} [Decidable cond] {other : Control α}
    (yes : cond → Lowers method) (no : ¬cond → Lowers other) :
    Lowers (if cond then method else other) := by
  split
  · exact yes ‹_›
  · exact no ‹_›

theorem joined {rest : β → Control α} {branches : (β → Control α) → Control α}
    (last : ∀ value, Lowers (rest value))
    (first : ∀ join : β → Control α, (∀ value, Lowers (join value)) → Lowers (branches join)) :
    Lowers (have join := rest; branches join) :=
  first rest last

theorem keeps (lowers : Lowers method) :
    Leads Gates.Consistent method (fun _ => Gates.Consistent) := by
  intro turn cons
  obtain ⟨value, turn', ran, left, _⟩ := lowers turn.gates cons turn rfl
  exact ⟨value, turn', ran, left⟩

theorem shut (lowers : Lowers method) : Leads Gates.Shut method (fun _ => Gates.Shut) := by
  intro turn pre
  obtain ⟨value, turn', ran, left, requested⟩ := lowers turn.gates (Or.inl pre) turn rfl
  refine ⟨value, turn', ran, left.shut ?_⟩
  simpa [pre.requested] using requested

theorem of_shuts {holds : Gates → Prop} (shuts : Leads holds method (fun _ => Gates.Shut))
    (ready : ∀ gates : Gates, gates.Consistent → holds gates) : Lowers method := by
  intro pre cons
  refine (shuts.strengthen ?_).weaken ?_
  · rintro gates rfl
    exact ready gates cons
  · intro _ after shut
    exact ⟨Or.inl shut, fun requested => by simp [shut.requested] at requested⟩

end Lowers

theorem closeAutomaticGate_lowers (reason : String) (forceClose : Bool) :
    Lowers (closeAutomaticGate reason forceClose) :=
  Lowers.of_shuts (closeAutomaticGate_shuts reason forceClose) fun _ => Gates.Consistent.truthful

/-- A check leaves the gates alone where it passes and closes them where it fails. -/
def Checks (check : Control Bool) : Prop :=
  ∀ before : Gates, before.Truthful →
    Leads (fun gates => gates = before) check
      (fun passed after => if passed then after = before else after.Shut)

namespace Checks

variable {α : Type} {method : Control α} {next : α → Control Bool} {check : Control Bool}

theorem passed : Checks (pure true) :=
  fun _ _ => Leads.pure fun _ same => same

theorem failed (shuts : Leads Gates.Truthful check
    (fun passed gates => passed = false ∧ gates.Shut)) : Checks check := by
  intro pre truthful
  refine (shuts.strengthen ?_).weaken ?_
  · rintro gates rfl
    exact truthful
  · rintro _ after ⟨rfl, shut⟩
    exact shut

theorem closed (reason : String) (forceClose : Bool) :
    Checks (do
      closeAutomaticGate reason forceClose
      return false) :=
  failed (Leads.bind _ (closeAutomaticGate_shuts reason forceClose) fun _ =>
    Leads.pure fun _ shut => ⟨rfl, shut⟩)

theorem andThen (quiet : Quiet method) (rest : ∀ value, Checks (next value)) :
    Checks (method >>= next) :=
  fun pre truthful => (quiet.andThen fun value => rest value pre truthful)

theorem ite {cond : Prop} [Decidable cond] {other : Control Bool}
    (yes : Checks check) (no : Checks other) : Checks (if cond then check else other) := by
  split
  · exact yes
  · exact no

theorem and {rest : Control Bool} (first : Checks check) (snd : Checks rest) :
    Checks (do
      if (← check) = false then
        return false
      else
        rest) := by
  intro pre truthful
  refine Leads.bind _ (first pre truthful) fun passed => ?_
  cases passed with
  | false => exact Leads.pure fun _ shut => shut
  | true => exact snd pre truthful

end Checks

theorem connectOutputTransportIfDue_quiet : Quiet connectOutputTransportIfDue :=
  (Quiet.ask _).bind fun _ => Quiet.current.bind fun _ => Quiet.ite
    ((Quiet.change fun _ => rfl).bind fun _ => Quiet.tell rfl rfl) (Quiet.pure ())

theorem triggerPrerequisiteSatisfied_checks : Checks triggerPrerequisiteSatisfied := by
  refine Checks.andThen (Quiet.ask _) fun trigger => ?_
  refine Checks.andThen Quiet.current fun self => ?_
  refine Checks.ite Checks.passed ?_
  refine Checks.ite (Checks.closed _ _) ?_
  refine Checks.andThen (Quiet.tell rfl rfl) fun _ => ?_
  refine Checks.andThen (Quiet.ask _) fun streamReady => ?_
  refine Checks.ite (Checks.closed _ _) ?_
  refine Checks.andThen (Quiet.ask _) fun mask => ?_
  exact Checks.ite (Checks.closed _ _) Checks.passed

theorem prerequisitesSatisfied_checks : Checks prerequisitesSatisfied := by
  refine Checks.andThen (Quiet.ask _) fun delivery => ?_
  refine Checks.andThen Quiet.current fun self => ?_
  refine Checks.andThen (Quiet.ask _) fun isReady => ?_
  refine Checks.ite ?_ ?_
  · refine Checks.failed (Leads.bind _ (closeAutomaticGate_shuts _ _) fun _ => ?_)
    refine Leads.bind _ (connectOutputTransportIfDue_quiet.keeps Gates.Shut) fun _ => ?_
    exact Leads.pure fun _ shut => ⟨rfl, shut⟩
  · refine Checks.ite (Checks.closed _ _) (Checks.ite (Checks.closed _ _) ?_)
    refine Checks.and triggerPrerequisiteSatisfied_checks ?_
    exact Checks.ite (Checks.closed _ _) Checks.passed

theorem Gates.Consistent.deferring (cons : gates.Consistent) (deferred : Bool) :
    { gates with deferred := deferred }.Consistent := by
  rcases cons with shut | opened
  · exact Or.inl ⟨shut.requested, shut.enabled, shut.allowed, shut.applied, shut.truthful⟩
  · exact Or.inr ⟨opened.requested, opened.allowed, opened.applied, opened.unconfirmed⟩

theorem deferRetry_lowers (deferred : Bool) :
    Lowers (change fun self => { self with automaticRetryDeferred := deferred }) := by
  intro pre cons
  refine Leads.change ?_
  rintro turn rfl
  exact ⟨cons.deferring deferred, id⟩

theorem closeAutomaticGate_of_unconfirmed {pre : Gates → Prop} (reason : String)
    (unconfirmed : ∀ gates, pre gates → gates.confirmed = false) :
    Leads pre (closeAutomaticGate reason false) (fun _ => Gates.Consistent) := by
  refine ((closeAutomaticGate_shuts reason false).strengthen ?_).weaken fun _ _ => Or.inl
  intro gates before confirmed
  simp [unconfirmed gates before] at confirmed

theorem openGates_consistent : Leads (fun _ => True) openGates (fun _ => Gates.Consistent) := by
  refine Leads.bind (fun _ gates => gates.confirmed = false)
    (Leads.change fun _ _ => rfl) fun _ => ?_
  refine Leads.bind (fun nativeOpened gates =>
    gates.confirmed = false ∧ gates.applied = some (true, nativeOpened))
    (Leads.applyProfile fun _ _ unconfirmed => ⟨unconfirmed, rfl⟩) fun nativeOpened => ?_
  refine Leads.ite (fun _ => closeAutomaticGate_of_unconfirmed _ fun _ pre => pre.1)
    fun native => ?_
  refine Leads.bind (fun transportOpened gates =>
    (gates.confirmed = false ∧ gates.applied = some (true, nativeOpened)) ∧
      gates.allowed = some (true, transportOpened))
    (Leads.setOutputDeliveryAllowed fun _ _ opened => ⟨opened, rfl⟩) fun transportOpened => ?_
  refine Leads.ite (fun _ => (Quiet.ask _).andThen fun _ =>
    closeAutomaticGate_of_unconfirmed _ fun _ pre => pre.1.1) fun transport => ?_
  refine Leads.bind (fun _ => Gates.Consistent) (Leads.change ?_)
    fun _ => (Quiet.write _).keeps _
  intro turn ⟨⟨unconfirmed, applied⟩, allowed⟩
  obtain rfl : nativeOpened = true := by simpa using native
  obtain rfl : transportOpened = true := by simpa using transport
  exact Or.inr ⟨rfl, allowed, applied, unconfirmed⟩

theorem enableAutomatically_consistent :
    Leads Gates.Consistent enableAutomatically (fun _ => Gates.Consistent) := by
  refine Quiet.current.andThen fun self => Leads.ite (fun _ => ?_)
    fun _ => Leads.pure fun _ => id
  refine (Quiet.ask _).andThen fun isReady => Leads.ite (fun _ => ?_)
    fun _ => Leads.pure fun _ => id
  refine (Quiet.ask _).andThen fun delivery => Leads.ite (fun _ => ?_)
    fun _ => Leads.pure fun _ => id
  exact openGates_consistent.strengthen fun _ _ => trivial

/-- The native state is looked at only while the output is requested. -/
theorem reconcileNativeState_consistent (nativeRequested nativeEffective recoverySuspended : Bool) :
    Leads Gates.Opened (reconcileNativeState nativeRequested nativeEffective recoverySuspended)
      (fun _ => Gates.Consistent) := by
  have closes : ∀ reason, Leads Gates.Opened (closeAutomaticGate reason false)
      (fun _ => Gates.Consistent) := fun reason =>
    closeAutomaticGate_of_unconfirmed reason fun _ opened => opened.unconfirmed
  refine Quiet.current.andThen fun self => Leads.ite (fun _ => ?_) fun _ => ?_
  · refine Leads.ite (fun _ => closes _) fun _ => ?_
    have suspend : ∀ _ : Unit, Leads Gates.Opened
        (change fun self =>
          { self with outputEnabled := false, outputRecoverySuspended := true })
        (fun _ => Gates.Consistent) := fun _ =>
      Leads.change fun _ opened =>
        Or.inr ⟨opened.requested, opened.allowed, opened.applied, opened.unconfirmed⟩
    exact Leads.ite (fun _ => (Quiet.write _).andThen suspend) fun _ => suspend ()
  · refine Leads.ite (fun _ => ?_) fun _ => closes _
    have resume : ∀ _ : Unit, Leads Gates.Opened
        (change fun self =>
          { self with
            outputEnabled := true
            outputRecoverySuspended := false
            outputCloseConfirmed := false })
        (fun _ => Gates.Consistent) := fun _ =>
      Leads.change fun _ opened => Or.inr ⟨opened.requested, opened.allowed, opened.applied, rfl⟩
    exact Leads.ite (fun _ => (Quiet.write _).andThen resume) fun _ => resume ()

theorem Checks.lowers {check : Control Bool} (hc : Checks check) : Lowers check := by
  intro before cons
  refine (hc before cons.truthful).weaken fun passed after left => ?_
  cases passed with
  | true =>
    obtain rfl : after = before := left
    exact ⟨cons, id⟩
  | false =>
    have shut : after.Shut := left
    exact ⟨Or.inl shut, fun requested => by simp [shut.requested] at requested⟩

theorem reconcileCachedState_consistent :
    Leads Gates.Consistent reconcileCachedState (fun _ => Gates.Consistent) := by
  refine Leads.bind _ prerequisitesSatisfied_checks.lowers.keeps fun passed => ?_
  refine Leads.ite (fun _ => ?_) fun _ => Leads.pure fun _ => id
  refine Leads.bind (fun self gates =>
    gates.Consistent ∧ gates.requested = self.automaticOutputRequested)
    (Leads.current fun _ cons => ⟨cons, rfl⟩) fun self => ?_
  refine Leads.ite (fun requested => ?_) fun _ => ?_
  · refine (reconcileNativeState_consistent _ _ _).strengthen ?_
    exact fun gates ⟨cons, is⟩ => cons.opened (is.trans requested)
  · refine Leads.strengthen (show Leads Gates.Consistent _ _ from ?_) fun _ pre => pre.1
    refine Leads.ite (fun _ => ?_) fun _ => enableAutomatically_consistent
    exact Leads.bind _ (deferRetry_lowers false).keeps fun _ => (Quiet.write _).keeps _

theorem reconfigureActiveProfile_leads :
    Leads Gates.Opened reconfigureActiveProfile
      (fun applied gates => if applied then gates.Opened else gates.confirmed = false) := by
  refine Leads.bind (fun _ gates => gates.confirmed = false ∧ gates.requested = true)
    (Leads.change fun _ opened => ⟨rfl, opened.requested⟩) fun _ => ?_
  have refused : ∀ {pre : Gates → Prop}, (∀ gates, pre gates → gates.confirmed = false) →
      Leads pre (pure false)
        (fun applied gates => if applied then gates.Opened else gates.confirmed = false) :=
    fun unconfirmed => Leads.pure fun gates before => by simpa using unconfirmed gates before
  refine Leads.bind (fun _ gates => gates.confirmed = false ∧ gates.requested = true)
    (Leads.setOutputDeliveryAllowed fun _ _ lowered => lowered) fun _ =>
      Leads.ite (fun _ => refused fun _ before => before.1) fun _ => ?_
  refine Leads.bind (fun _ gates => gates.confirmed = false ∧ gates.requested = true)
    (Leads.applyProfile fun _ _ lowered => lowered) fun _ =>
      Leads.ite (fun _ => refused fun _ before => before.1) fun _ => ?_
  refine Leads.bind (fun nativeOpened gates =>
    (gates.confirmed = false ∧ gates.requested = true) ∧ gates.applied = some (true, nativeOpened))
    (Leads.applyProfile fun _ _ lowered => ⟨lowered, rfl⟩) fun nativeOpened =>
      Leads.ite (fun _ => refused fun _ before => before.1.1) fun native => ?_
  refine Leads.bind (fun transportOpened gates =>
    ((gates.confirmed = false ∧ gates.requested = true) ∧
      gates.applied = some (true, nativeOpened)) ∧ gates.allowed = some (true, transportOpened))
    (Leads.setOutputDeliveryAllowed fun _ _ lowered => ⟨lowered, rfl⟩) fun transportOpened =>
      Leads.ite (fun _ => refused fun _ before => before.1.1.1) fun transport => ?_
  obtain rfl : nativeOpened = true := by simpa using native
  obtain rfl : transportOpened = true := by simpa using transport
  refine Leads.bind (fun _ => Gates.Opened) (Leads.change ?_) fun _ =>
    Leads.pure fun _ opened => by simpa using opened
  exact fun turn ⟨⟨⟨unconfirmed, requested⟩, applied⟩, allowed⟩ =>
    ⟨requested, allowed, applied, unconfirmed⟩

theorem applyDisabledProfile_leads :
    Leads Gates.Shut applyDisabledProfile
      (fun applied gates => if applied then gates.Shut else gates.confirmed = false) := by
  refine Leads.bind (fun applied gates => applied = true → gates.Shut)
    (Leads.applyProfile fun gates ok shut applied => ?_) fun applied => ?_
  · subst applied
    exact ⟨shut.requested, shut.enabled, shut.allowed, ⟨true, rfl⟩,
      fun confirmed => ⟨(shut.truthful confirmed).1, rfl⟩⟩
  · refine Leads.ite (fun rejected => ?_) fun ok => ?_
    · refine Leads.bind (fun _ gates => gates.confirmed = false) (Leads.change fun _ _ => rfl)
        fun _ => Leads.pure fun _ unconfirmed => ?_
      simpa [rejected] using unconfirmed
    · exact Leads.pure fun gates shut => by simp_all

theorem Gates.Shut.lowered {pre after : Gates} (shut : after.Shut) : pre.Lowered after :=
  ⟨Or.inl shut, fun requested => by simp [shut.requested] at requested⟩

theorem Gates.truthful_of_unconfirmed (unconfirmed : gates.confirmed = false) : gates.Truthful :=
  fun confirmed => by simp [unconfirmed] at confirmed

theorem applyCurrentProfile_lowers : Lowers applyCurrentProfile := by
  intro pre cons
  refine Leads.bind (fun self gates =>
    gates = pre ∧ pre.requested = self.automaticOutputRequested)
    (Leads.current fun turn is => ⟨is, by rw [← is]; rfl⟩) fun self => Leads.given fun is => ?_
  have finish : ∀ applied : Bool,
      Leads (fun gates => if applied then pre.Lowered gates else gates.Truthful)
        (if applied = false then do
          closeAutomaticGate "native_profile_rejected" false
          write "control_profile_rejected"
        else
          write "control_profile_applied")
        (fun _ gates => pre.Lowered gates) := by
    intro applied
    cases applied with
    | false =>
      refine Leads.bind _ (closeAutomaticGate_shuts _ _) fun _ => ?_
      exact ((Quiet.write _).keeps Gates.Shut).weaken fun _ _ => Gates.Shut.lowered
    | true => exact (Quiet.write _).keeps _
  refine Leads.ite (fun _ => ?_) fun _ => Leads.ite (fun requested => ?_) fun unrequested => ?_
  · exact (closeAutomaticGate_lowers "profile_changed_during_recovery" false).bind
      (fun _ => Lowers.of_quiet (Quiet.write "control_profile_applied")) pre cons
  · refine Leads.bind _ ((reconfigureActiveProfile_leads.strengthen ?_).weaken
      fun applied gates left => ?_) finish
    · rintro gates rfl
      exact cons.opened (is.trans requested)
    · cases applied with
      | true => exact ⟨Or.inr left, fun _ => is.trans requested⟩
      | false => exact Gates.truthful_of_unconfirmed left
  · refine Leads.bind _ ((applyDisabledProfile_leads.strengthen ?_).weaken
      fun applied gates left => ?_) finish
    · rintro gates rfl
      exact cons.shut (is.trans (by simpa using unrequested))
    · cases applied with
      | true => exact Gates.Shut.lowered left
      | false => exact Gates.truthful_of_unconfirmed left

theorem setProfileValue_lowers (setting : ProfileSetting) : Lowers (setProfileValue setting) :=
  (Lowers.of_quiet (Quiet.tell rfl rfl)).bind fun _ => applyCurrentProfile_lowers

theorem selectTargetProfile_lowers : Lowers selectTargetProfile :=
  (closeAutomaticGate_lowers _ _).bind fun _ =>
    (Lowers.of_quiet (Quiet.tell rfl rfl)).bind fun _ => applyCurrentProfile_lowers

theorem disable_lowers : Lowers disable :=
  (Lowers.of_quiet (Quiet.change fun _ => rfl)).bind fun _ => closeAutomaticGate_lowers _ _

theorem failClosed_lowers (reason : String) : Lowers (failClosed reason) :=
  (Lowers.of_quiet (Quiet.change fun _ => rfl)).bind fun _ => closeAutomaticGate_lowers _ _

theorem dispose_lowers : Lowers dispose := by
  refine disable_lowers.bind fun _ => Lowers.of_quiet ?_
  exact (Quiet.tell rfl rfl).bind fun _ => Quiet.current.bind fun self =>
    Quiet.ite (Quiet.tell rfl rfl) (Quiet.pure ())

theorem changeTrigger_lowers (sel : ControlTrigger) : Lowers (changeTrigger sel) := by
  refine (closeAutomaticGate_lowers _ _).bind fun _ => Lowers.of_quiet ?_
  exact (Quiet.tell rfl rfl).bind fun _ => Quiet.current.bind fun self =>
    Quiet.ite ((Quiet.tell rfl rfl).bind fun _ => Quiet.write _) (Quiet.write _)

theorem closeForReconnect_lowers (succeeded : Bool) : Lowers (closeForReconnect succeeded) := by
  refine (Lowers.of_quiet Quiet.current).bind fun self => ?_
  refine Lowers.joined (fun _ => ?_) fun _ count => Lowers.ite
    (fun _ => (deferRetry_lowers true).bind count) fun _ => count ()
  refine (Lowers.of_quiet (Quiet.change fun _ => rfl)).bind fun _ => ?_
  have close : ∀ _ : Unit, Lowers (do
      closeAutomaticGate
        (if succeeded then "device_reconnected" else "device_reconnect_failed") true
      let self ← current
      if succeeded ∧ self.hasButtonInput then
        let trigger ← ask PortAnswers.controlTrigger
        setRequiredTriggerMask trigger.buttonMask) := by
    refine fun _ => (closeAutomaticGate_lowers _ _).bind fun _ => Lowers.of_quiet ?_
    exact Quiet.current.bind fun self => Quiet.ite
      ((Quiet.ask _).bind fun trigger => Quiet.tell rfl rfl) (Quiet.pure ())
  refine Lowers.ite (fun _ => ?_) fun _ => (Lowers.of_quiet (Quiet.ask _)).bind fun _ => ?_
  · exact (Lowers.of_quiet (Quiet.change fun _ => rfl)).bind close
  · exact (Lowers.of_quiet (Quiet.change fun _ => rfl)).bind close

theorem recordDelivery_lowers (delivery : MakcuDeliveryState) :
    Lowers (recordDelivery delivery) := by
  refine (Lowers.of_quiet Quiet.current).bind fun self => ?_
  refine Lowers.joined (fun _ => ?_) fun _ trip => Lowers.ite
    (fun _ => (Lowers.of_quiet (Quiet.change fun _ => rfl)).bind fun _ =>
      (Lowers.of_quiet (Quiet.write _)).bind trip) fun _ => trip ()
  refine Lowers.joined (fun _ => Lowers.of_quiet (Quiet.change fun _ => rfl)) fun _ count =>
    Lowers.ite (fun _ => (closeAutomaticGate_lowers _ _).bind fun _ => Lowers.ite
      (fun _ => (Lowers.of_quiet (Quiet.write _)).bind count) fun _ => count ()) fun _ => count ()

theorem deliveryFailure_shuts (delivery : MakcuDeliveryState) :
    Leads Gates.Consistent
      (do
        change fun self => { self with automaticRetryDeferred := true }
        closeAutomaticGate "delivery_failure" false
        write "control_output_delivery_failed"
        recordDelivery delivery)
      (fun _ => Gates.Shut) := by
  refine Leads.bind _ (deferRetry_lowers true).keeps fun _ => ?_
  refine Leads.bind _ ((closeAutomaticGate_shuts _ _).strengthen fun _ => Gates.Consistent.truthful)
    fun _ => ?_
  exact Leads.bind _ ((Quiet.write _).keeps _) fun _ => (recordDelivery_lowers delivery).shut

theorem reconcileDeliveryState_lowers : Lowers reconcileDeliveryState := by
  refine (Lowers.of_quiet (Quiet.ask _)).bind fun delivery => ?_
  refine (Lowers.of_quiet Quiet.current).bind fun self => ?_
  refine Lowers.ite (fun _ => ?_) fun _ => recordDelivery_lowers delivery
  exact Lowers.of_shuts (deliveryFailure_shuts delivery) fun _ => id

theorem construct_shuts :
    Leads (fun gates => gates.requested = false) construct (fun _ gates => gates.Shut) := by
  have close : Leads (fun gates => gates.requested = false)
      (do
        closeEffectiveOutput
        let delivery ← ask PortAnswers.deliveryState
        change fun self =>
          { self with
            lastUsbWriteCompletions := delivery.usbWriteCompletionCount
            lastDeliveryFailures := delivery.failureCount
            lastDeliveryCircuitTrips := delivery.circuitTripCount })
      (fun _ gates => gates.Shut) :=
    Leads.bind _ closeEffectiveOutput_shuts fun _ => (Quiet.ask _).andThen fun delivery =>
      (Quiet.change fun _ => rfl).keeps _
  refine (Quiet.tell rfl rfl).andThen fun _ => Quiet.current.andThen fun self => ?_
  refine Leads.ite (fun _ => ?_) fun _ => close
  exact (Quiet.tell rfl rfl).andThen fun _ => (Quiet.ask _).andThen fun trigger =>
    (Quiet.tell rfl rfl).andThen fun _ => close

def isFreshReport : Operation → Bool
  | .reconcileAutomaticState .. => true
  | _ => false

/-- What a call or callback does before it reconciles with the cached report. -/
def beforeCachedReport : Operation → Option (Control Unit)
  | .setControlTrigger (some trigger) => some (changeTrigger trigger)
  | .onButtonMaskChanged => some do
      let _ ← ask PortAnswers.controlTrigger
      write "control_trigger_state"
  | .onReconnectResult true => some (closeForReconnect true)
  | _ => none

theorem importPersonalTrajectory_lowers : Lowers importPersonalTrajectory :=
  (Lowers.of_quiet (Quiet.ask _)).bind fun _ => (setProfileValue_lowers _).bind
    fun _ => Lowers.of_quiet (Quiet.pure _)

/-- What reconciles with no report opens no gates. -/
theorem perform_lowers {op : Operation} (unreported : isFreshReport op = false)
    (uncached : beforeCachedReport op = none) : Lowers (perform op) := by
  cases op with
  | reconcileAutomaticState => simp [isFreshReport] at unreported
  | disable => exact disable_lowers
  | dispose => exact dispose_lowers
  | failClosed reason => exact failClosed_lowers reason
  | selectTargetProfile => exact selectTargetProfile_lowers
  | importPersonalTrajectory =>
    exact importPersonalTrajectory_lowers.bind fun _ => Lowers.of_quiet (Quiet.pure _)
  | setControlTrigger trigger =>
    cases trigger with
    | none => exact Lowers.of_quiet (Quiet.write _)
    | some sel => simp [beforeCachedReport] at uncached
  | onButtonMaskChanged => simp [beforeCachedReport] at uncached
  | onReconnectResult succeeded =>
    cases succeeded with
    | false =>
      exact (closeForReconnect_lowers false).bind fun _ =>
        (Lowers.of_quiet Quiet.current).bind fun _ => Lowers.of_quiet (Quiet.write _)
    | true => simp [beforeCachedReport] at uncached
  | reconcileDeliveryState => exact reconcileDeliveryState_lowers
  | _ => exact setProfileValue_lowers _

theorem perform_consistent (op : Operation) :
    Leads Gates.Consistent (perform op) (fun _ => Gates.Consistent) := by
  cases op with
  | reconcileAutomaticState =>
    exact (Quiet.change fun _ => rfl).andThen fun _ => reconcileCachedState_consistent
  | setControlTrigger trigger =>
    cases trigger with
    | none => exact (perform_lowers rfl rfl).keeps
    | some sel =>
      exact Leads.bind _ (changeTrigger_lowers sel).keeps fun _ =>
        reconcileCachedState_consistent
  | onButtonMaskChanged =>
    exact (Quiet.ask _).andThen fun _ => (Quiet.write _).andThen fun _ =>
      reconcileCachedState_consistent
  | onReconnectResult succeeded =>
    refine Leads.bind _ (closeForReconnect_lowers succeeded).keeps fun _ =>
      Quiet.current.andThen fun self => ?_
    exact Leads.ite (fun _ => (Quiet.write _).keeps _) fun _ =>
      Leads.ite (fun _ => reconcileCachedState_consistent) fun _ => (Quiet.write _).keeps _
  | _ => exact (perform_lowers rfl rfl).keeps

/-- A call or callback, with the answers of the ports during it. -/
structure Input where
  operation : Operation
  answers : PortAnswers

def Turn.take (turn : Turn) (input : Input) : Turn :=
  after ((perform input.operation).run { turn with answers := input.answers, asked := 0 })

def constructed (hasButtonInput : Bool) (answers : PortAnswers) : Turn :=
  after (construct.run
    { coordinator := { hasButtonInput := hasButtonInput }, calls := [], answers, asked := 0 })

def Turn.takeAll (turn : Turn) (inputs : List Input) : Turn :=
  inputs.foldl Turn.take turn

theorem Leads.after {α : Type} {pre : Gates → Prop} {method : Control α} {post : Gates → Prop}
    (leads : Leads pre method (fun _ => post)) {turn : Turn} (before : pre turn.gates) :
    post (after (method.run turn)).gates := by
  obtain ⟨value, turn', ran, left⟩ := leads turn before
  rw [ran]
  exact left

theorem constructed_consistent (hasButtonInput : Bool) (answers : PortAnswers) :
    (constructed hasButtonInput answers).gates.Consistent :=
  Or.inl (construct_shuts.after rfl)

theorem Turn.take_consistent {turn : Turn} (cons : turn.gates.Consistent) (input : Input) :
    (turn.take input).gates.Consistent :=
  (perform_consistent input.operation).after cons

theorem Turn.takeAll_consistent {turn : Turn} (consistent : turn.gates.Consistent)
    (inputs : List Input) : (turn.takeAll inputs).gates.Consistent := by
  induction inputs generalizing turn with
  | nil => exact consistent
  | cons input inputs hypothesis => exact hypothesis (turn.take_consistent consistent input)

/-- The output is on only where both gates were told to open last and have accepted it; without
a request both were told to close last; a confirmed closing was accepted by both. -/
theorem gates_follow_output (hasButtonInput : Bool) (answers : PortAnswers) (inputs : List Input) :
    let turn := (constructed hasButtonInput answers).takeAll inputs
    (turn.coordinator.outputEnabled = true →
        lastAllowed turn.calls = some (true, true) ∧
          lastApplied turn.calls = some (true, true)) ∧
      (turn.coordinator.automaticOutputRequested = false →
        (∃ accepted, lastAllowed turn.calls = some (false, accepted)) ∧
          ∃ accepted, lastApplied turn.calls = some (false, accepted)) ∧
      (turn.coordinator.outputCloseConfirmed = true →
        lastAllowed turn.calls = some (false, true) ∧
          lastApplied turn.calls = some (false, true)) := by
  intro turn
  have consistent : turn.gates.Consistent :=
    Turn.takeAll_consistent (constructed_consistent hasButtonInput answers) inputs
  refine ⟨fun enabled => ?_, fun unrequested => ?_, consistent.truthful⟩
  · rcases consistent with shut | opened
    · have disabled : turn.coordinator.outputEnabled = false := shut.enabled
      simp [enabled] at disabled
    · exact ⟨opened.allowed, opened.applied⟩
  · have shut := consistent.shut unrequested
    exact ⟨shut.allowed, shut.applied⟩

end VisionForge.ControlOutput
