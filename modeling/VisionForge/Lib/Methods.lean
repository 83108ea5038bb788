import Mathlib.Logic.Basic
import Mathlib.Tactic.Common

/-! # Methods that may throw

A method changes a state and answers or throws; what it has changed before it throws stays
changed. `Ensures` is about a run of a method, `Returns` about one that does not throw.
-/

namespace VisionForge.Lib.Methods

universe u

variable {ε σ α β : Type u}

def after : EStateM.Result ε σ α → σ
  | .ok _ state => state
  | .error _ state => state

@[simp] theorem after_ok (value : α) (state : σ) :
    after (.ok value state : EStateM.Result ε σ α) = state := rfl

@[simp] theorem after_error (error : ε) (state : σ) :
    after (.error error state : EStateM.Result ε σ α) = state := rfl

theorem run_tryCatch (method : EStateM ε σ α) (handler : ε → EStateM ε σ α) (state : σ) :
    (tryCatch method handler).run state =
      match method.run state with
      | .ok value state => .ok value state
      | .error error state => (handler error).run state := by
  change EStateM.tryCatch method handler state = _
  unfold EStateM.tryCatch EStateM.run
  cases method state <;> rfl

/-- What a method does from every state that meets a condition. -/
def Ensures (pre : σ → Prop) (method : EStateM ε σ α) (post : EStateM.Result ε σ α → Prop) : Prop :=
  ∀ state, pre state → post (method.run state)

namespace Ensures

variable {pre : σ → Prop} {post : EStateM.Result ε σ α → Prop}
  {finish : EStateM.Result ε σ β → Prop} {method : EStateM ε σ α} {next : α → EStateM ε σ β}

theorem bind (first : Ensures pre method post)
    (error : ∀ error state, post (.error error state) → finish (.error error state))
    (rest : ∀ value, Ensures (fun state => post (.ok value state)) (next value) finish) :
    Ensures pre (method >>= next) finish := by
  intro state holds
  have ended := first state holds
  rw [EStateM.run_bind]
  cases outcome : method.run state with
  | ok value state =>
    rw [outcome] at ended
    exact rest value state ended
  | error thrown state =>
    rw [outcome] at ended
    exact error thrown state ended

end Ensures

/-- An invariant of a method holds after it, whether it answers or throws. -/
def Keeps (invariant : σ → Prop) (method : EStateM ε σ α) : Prop :=
  Ensures invariant method (fun result => invariant (after result))

namespace Keeps

variable {invariant : σ → Prop} {method : EStateM ε σ α} {next : α → EStateM ε σ β}

theorem pure (value : α) : Keeps invariant (Pure.pure value : EStateM ε σ α) :=
  fun _ holds => holds

theorem throw (error : ε) : Keeps invariant (throw error : EStateM ε σ α) :=
  fun _ holds => holds

theorem get : Keeps invariant (get : EStateM ε σ σ) :=
  fun _ holds => holds

theorem bind (first : Keeps invariant method) (rest : ∀ value, Keeps invariant (next value)) :
    Keeps invariant (method >>= next) :=
  Ensures.bind first (fun _ _ holds => holds) rest

theorem modify {change : σ → σ} (holds : ∀ state, invariant state → invariant (change state)) :
    Keeps invariant (modify change : EStateM ε σ PUnit) :=
  fun state held => holds state held

theorem tryCatch {handler : ε → EStateM ε σ α} (body : Keeps invariant method)
    (caught : ∀ error, Keeps invariant (handler error)) :
    Keeps invariant (tryCatch method handler) := by
  intro state holds
  have left := body state holds
  rw [run_tryCatch]
  cases outcome : method.run state with
  | ok value state => simpa only [outcome] using left
  | error error state => exact caught error state (by simpa [outcome] using left)

/-- What a method leaves is kept by whatever is done next. -/
theorem after_bind {state : σ} (first : invariant (after (method.run state)))
    (rest : ∀ value, Keeps invariant (next value)) :
    invariant (after ((method >>= next).run state)) := by
  rw [EStateM.run_bind]
  cases outcome : method.run state with
  | ok value state => exact rest value state (by simpa [outcome] using first)
  | error error state => simpa [outcome] using first

end Keeps

/-- From every state that meets the first condition a method answers, and what it answers and
leaves meets the second. -/
def Returns (pre : σ → Prop) (method : EStateM ε σ α) (post : α → σ → Prop) : Prop :=
  ∀ state, pre state → ∃ value state', method.run state = .ok value state' ∧ post value state'

namespace Returns

variable {pre : σ → Prop} {post : α → σ → Prop} {finish : β → σ → Prop}
  {method : EStateM ε σ α} {next : α → EStateM ε σ β}

theorem pure {value : α} (holds : ∀ state, pre state → post value state) :
    Returns pre (Pure.pure value : EStateM ε σ α) post :=
  fun state ready => ⟨value, state, rfl, holds state ready⟩

theorem bind (first : Returns pre method post)
    (rest : ∀ value, Returns (post value) (next value) finish) :
    Returns pre (method >>= next) finish := by
  intro state ready
  obtain ⟨value, state', ans, left⟩ := first state ready
  rw [EStateM.run_bind, ans]
  exact rest value state' left

/-- A method that answers with a value of its own at the end. -/
theorem then_pure {left : σ → Prop} (first : Returns pre method fun _ => left) (value : β) :
    Returns pre (method >>= fun _ => Pure.pure value) fun _ => left :=
  first.bind fun _ => pure fun _ holds => holds

theorem modify {left : σ → Prop} {change : σ → σ} (holds : ∀ state, pre state → left (change state)) :
    Returns pre (modify change : EStateM ε σ PUnit) fun _ => left :=
  fun state ready => ⟨_, _, rfl, holds state ready⟩

/-- A method that handles whatever its block throws. -/
theorem caught {invariant : σ → Prop} (body : Keeps invariant method) (value : α) :
    Returns invariant (tryCatch method fun _ => Pure.pure value) fun _ => invariant := by
  intro state holds
  have left := body state holds
  rw [run_tryCatch]
  cases outcome : method.run state with
  | ok value state => exact ⟨value, state, rfl, by simpa [outcome] using left⟩
  | error error state => exact ⟨value, state, rfl, by simpa [outcome] using left⟩

theorem keeps {invariant : σ → Prop} (first : Returns invariant method fun _ => invariant) :
    Keeps invariant method := by
  intro state holds
  obtain ⟨value, state', ans, left⟩ := first state holds
  rw [ans]
  exact left

/-- A method that does not throw hands on to whatever is done next. -/
theorem ensures {last : EStateM.Result ε σ β → Prop} (first : Returns pre method post)
    (rest : ∀ value, Ensures (post value) (next value) last) :
    Ensures pre (method >>= next) last := by
  intro state ready
  obtain ⟨value, state', ans, left⟩ := first state ready
  rw [EStateM.run_bind, ans]
  exact rest value state' left

theorem weaken {weaker : α → σ → Prop} (first : Returns pre method post)
    (holds : ∀ value state, post value state → weaker value state) : Returns pre method weaker := by
  intro state ready
  obtain ⟨value, state', ans, left⟩ := first state ready
  exact ⟨value, state', ans, holds value state' left⟩

end Returns

end VisionForge.Lib.Methods
