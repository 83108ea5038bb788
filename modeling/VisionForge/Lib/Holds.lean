import VisionForge.Lib.Histories
import VisionForge.Lib.Run

/-! # Permissions that can be held

A permission is granted and withdrawn. A hold suspends it until the hold is finished by its own
generation; a newer hold takes the place of an older one. A machine whose steps act on such a
permission is told here by the operations that have led to its state.
-/

namespace VisionForge.Lib.Holds

open Histories Run

universe u v w

inductive Event (γ : Type v) where
  | grant
  | withdraw
  /-- Withdraws the permission and forgets the hold. -/
  | cancel
  | hold (generation : γ)
  | finish (generation : γ)
  | idle

structure Permission (γ : Type v) where
  granted : Bool
  held : Option γ

variable {σ ι ο : Type u} {γ : Type v} [DecidableEq γ]

def Permission.react (permission : Permission γ) : Event γ → Permission γ
  | .grant => { permission with granted := true }
  | .withdraw => { permission with granted := false }
  | .cancel => ⟨false, none⟩
  | .hold generation => { permission with held := some generation }
  | .finish generation =>
    if permission.held = some generation then { permission with held := none } else permission
  | .idle => permission

/-- Events that leave a grant as it is. -/
def Event.Lasts (event : Event γ) : Prop :=
  event ≠ .grant ∧ event ≠ .withdraw ∧ event ≠ .cancel

/-- Events that leave the hold of a generation as it is. -/
def Event.Awaits (generation : γ) (event : Event γ) : Prop :=
  (∀ other, event ≠ .hold other) ∧ event ≠ .cancel ∧ event ≠ .finish generation

omit [DecidableEq γ] in
theorem Event.lasts_or (event : Event γ) :
    event.Lasts ∨ event = .grant ∨ event = .withdraw ∨ event = .cancel := by
  cases event <;> simp [Event.Lasts]

theorem granted_of_lasts {permission : Permission γ} {event : Event γ} (lasts : event.Lasts) :
    (permission.react event).granted = permission.granted := by
  obtain ⟨noGrant, noWithdraw, noCancel⟩ := lasts
  cases event with
  | grant => exact absurd rfl noGrant
  | withdraw => exact absurd rfl noWithdraw
  | cancel => exact absurd rfl noCancel
  | hold | idle => rfl
  | finish gen =>
    dsimp only [Permission.react]
    split <;> rfl

/-- A hold is the one of an event, or it was there and the event leaves it. -/
theorem held_react_iff {permission : Permission γ} {event : Event γ} {gen : γ} :
    (permission.react event).held = some gen ↔
      event = .hold gen ∨ (permission.held = some gen ∧ event.Awaits gen) := by
  cases event with
  | grant | withdraw | cancel | idle => simp [Permission.react, Event.Awaits]
  | hold newer => simp [Permission.react, Event.Awaits]
  | finish finished =>
    dsimp only [Permission.react, Event.Awaits]
    split
    · rename_i held
      simp [held, eq_comm]
    · rename_i unheld
      simp only [reduceCtorEq, ne_eq, not_false_eq_true, implies_true, Event.finish.injEq,
        true_and, false_or, iff_self_and]
      rintro held rfl
      exact unheld held

/-- A machine acts on a permission: each of its steps is an event for it. -/
structure Acts (step : σ → ι → σ × ο) (start : σ) (kind : σ → ι → Event γ)
    (view : σ → Permission γ) : Prop where
  start : view start = ⟨false, none⟩
  step : ∀ state operation,
    view (step state operation).1 = (view state).react (kind state operation)

namespace Acts

variable {step : σ → ι → σ × ο} {start : σ} {kind : σ → ι → Event γ} {view : σ → Permission γ}
  {ops : List ι}

/-- The events of the operations that follow an operation have a property. -/
def Throughout (step : σ → ι → σ × ο) (start : σ) (kind : σ → ι → Event γ)
    (property : Event γ → Prop) (earlier : List ι) (operation : ι) (later : List ι) : Prop :=
  Each (fun middle next =>
    property (kind (exec step start (earlier ++ operation :: middle)) next)) later

omit [DecidableEq γ] in
theorem Throughout.of_split {property : Event γ → Prop} {old later middle rest : List ι}
    {op next : ι} (throughout : Throughout step start kind property old op later)
    (split : later = middle ++ next :: rest) :
    property (kind (exec step start (old ++ op :: middle)) next) :=
  throughout middle next rest split

omit [DecidableEq γ] in
/-- What ends a grant has not happened since. -/
theorem Throughout.not_mem {old later : List ι} {op next : ι}
    (lasts : Throughout step start kind Event.Lasts old op later)
    (ends : ∀ state, kind state next = .withdraw ∨ kind state next = .cancel) : next ∉ later := by
  intro mem
  obtain ⟨middle, rest, split⟩ := List.append_of_mem mem
  have lasting := lasts.of_split split
  exact (ends _).elim lasting.2.1 lasting.2.2

theorem view_append (acts : Acts step start kind view) (op : ι) :
    view (exec step start (ops ++ [op])) =
      (view (exec step start ops)).react (kind (exec step start ops) op) := by
  rw [exec_append]
  exact acts.step _ op

/-- A permission that is granted was granted by some operation, and has been ever since. -/
theorem granted_by (acts : Acts step start kind view)
    (granted : (view (exec step start ops)).granted = true) :
    ∃ old op later, ops = old ++ op :: later ∧
      kind (exec step start old) op = .grant ∧
      Throughout step start kind Event.Lasts old op later ∧
      ∀ moment, moment <+: later →
        (view (exec step start (old ++ op :: moment))).granted = true := by
  induction ops using List.reverseRecOn with
  | nil => simp [acts.start] at granted
  | append_singleton ops last ih =>
    have cur := granted
    rw [acts.view_append] at granted
    rcases (kind (exec step start ops) last).lasts_or with lasts | grants | ends
    · rw [granted_of_lasts lasts] at granted
      obtain ⟨old, op, later, rfl, grants, still, moments⟩ := ih granted
      refine ⟨old, op, later ++ [last], by simp, grants,
        each_append.mpr ⟨still, by simpa using lasts⟩, fun moment isBefore => ?_⟩
      rcases List.prefix_concat_iff.mp isBefore with rfl | before
      · simpa using cur
      · exact moments moment before
    · refine ⟨ops, last, [], rfl, grants, each_nil, fun moment isBefore => ?_⟩
      rwa [List.prefix_nil.mp isBefore]
    · rcases ends with withdraws | cancels
      · simp [withdraws, Permission.react] at granted
      · simp [cancels, Permission.react] at granted

/-- What is held is the latest hold, if nothing has finished or cancelled it. -/
theorem held_iff (acts : Acts step start kind view) {gen : γ} :
    (view (exec step start ops)).held = some gen ↔
      ∃ old op later, ops = old ++ op :: later ∧
        kind (exec step start old) op = .hold gen ∧
        Throughout step start kind (Event.Awaits gen) old op later := by
  constructor
  · intro held
    induction ops using List.reverseRecOn with
    | nil => simp [acts.start] at held
    | append_singleton ops last ih =>
      rw [acts.view_append, held_react_iff] at held
      rcases held with holds | ⟨held, awaits⟩
      · exact ⟨ops, last, [], rfl, holds, each_nil⟩
      · obtain ⟨old, op, later, rfl, holds, still⟩ := ih held
        exact ⟨old, op, later ++ [last], by simp, holds,
          each_append.mpr ⟨still, by simpa using awaits⟩⟩
  · rintro ⟨old, op, later, rfl, holds, still⟩
    induction later using List.reverseRecOn with
    | nil =>
      rw [acts.view_append, held_react_iff]
      exact .inl holds
    | append_singleton later last ih =>
      obtain ⟨still, awaits⟩ := each_append.mp still
      rw [← List.cons_append, ← List.append_assoc, acts.view_append, held_react_iff]
      exact .inr ⟨ih still, by simpa using awaits⟩

/-- When nothing is held, the latest hold has been finished by its own generation. -/
theorem finished_of_unheld (acts : Acts step start kind view) {old later : List ι}
    {op : ι} {gen : γ}
    (unheld : (view (exec step start (old ++ op :: later))).held = none)
    (holds : kind (exec step start old) op = .hold gen)
    (latest : Throughout step start kind (fun event => ∀ other, event ≠ .hold other)
      old op later)
    (uncancelled : Throughout step start kind (· ≠ .cancel) old op later) :
    ∃ middle next rest, later = middle ++ next :: rest ∧
      kind (exec step start (old ++ op :: middle)) next = .finish gen := by
  by_contra unfinished
  have awaited : (view (exec step start (old ++ op :: later))).held = some gen := by
    rw [acts.held_iff]
    refine ⟨old, op, later, rfl, holds, fun middle next rest split => ?_⟩
    exact ⟨latest middle next rest split, uncancelled middle next rest split,
      fun finishes => unfinished ⟨middle, next, rest, split, finishes⟩⟩
  simp [unheld] at awaited

/-- The operations that hold, finish and cancel can be told without the state. -/
structure Spells (kind : σ → ι → Event γ) (suspend complete : γ → ι) (cancelled : ι) : Prop where
  hold : ∀ state operation generation,
    kind state operation = .hold generation ↔ operation = suspend generation
  finish : ∀ state operation generation,
    kind state operation = .finish generation ↔ operation = complete generation
  cancel : ∀ state operation, kind state operation = .cancel ↔ operation = cancelled

variable {suspend complete : γ → ι} {cancelled : ι}

/-- Of the operations, the latest one to suspend was for a generation, and none has cancelled
it. -/
def Awaited (suspend : γ → ι) (cancelled : ι) (ops : List ι) (generation : γ) : Prop :=
  ∃ before behind, ops = before ++ suspend generation :: behind ∧
    (∀ other, suspend other ∉ behind) ∧ cancelled ∉ behind

theorem awaited_of_held (acts : Acts step start kind view)
    (spells : Spells kind suspend complete cancelled) {gen : γ}
    (held : (view (exec step start ops)).held = some gen) :
    Awaited suspend cancelled ops gen := by
  obtain ⟨old, op, later, rfl, holds, still⟩ := acts.held_iff.mp held
  rw [spells.hold] at holds
  subst holds
  refine ⟨old, later, rfl, fun other mem => ?_, fun mem => ?_⟩
  · obtain ⟨middle, rest, split⟩ := List.append_of_mem mem
    exact (still.of_split split).1 other ((spells.hold _ _ _).mpr rfl)
  · obtain ⟨middle, rest, split⟩ := List.append_of_mem mem
    exact (still.of_split split).2.1 ((spells.cancel _ _).mpr rfl)

/-- When nothing is held, the latest hold was completed by its own generation. -/
theorem completed_of_unheld (acts : Acts step start kind view)
    (spells : Spells kind suspend complete cancelled) {old later middle rest : List ι}
    {op : ι} {gen : γ}
    (unheld : (view (exec step start (old ++ op :: later))).held = none)
    (uncancelled : cancelled ∉ later) (split : later = middle ++ suspend gen :: rest)
    (latest : ∀ other, suspend other ∉ rest) : complete gen ∈ rest := by
  have sorted : old ++ op :: later = (old ++ op :: middle) ++ suspend gen :: rest := by simp [split]
  rw [sorted] at unheld
  obtain ⟨_, next, _, rfl, finishes⟩ :=
    acts.finished_of_unheld unheld ((spells.hold _ _ _).mpr rfl)
      (fun middle next rest split other holds => latest other (by
        rw [split, (spells.hold _ _ _).mp holds]
        simp))
      (fun middle next rest split' cancels => uncancelled (by
        rw [split, split', (spells.cancel _ _).mp cancels]
        simp))
  rw [(spells.finish _ _ _).mp finishes]
  simp

end Acts

end VisionForge.Lib.Holds
