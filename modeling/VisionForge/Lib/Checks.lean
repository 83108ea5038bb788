import Mathlib.Tactic.Common

/-! # Checks that raise

A computation that may raise, and the conditions it goes through from left to right:
a later condition is not looked at once the answer is known.
-/

namespace VisionForge.Lib.Checks

universe u v

variable {ε : Type u} {α β : Type v}

def check (condition : Prop) [Decidable condition] (error : ε) : Except ε PUnit :=
  if condition then .ok ⟨⟩ else .error error

def anyTrue : List (Except ε Bool) → Except ε Bool
  | [] => .ok false
  | .error error :: _ => .error error
  | .ok true :: _ => .ok true
  | .ok false :: rest => anyTrue rest

def allTrue : List (Except ε Bool) → Except ε Bool
  | [] => .ok true
  | .error error :: _ => .error error
  | .ok false :: _ => .ok false
  | .ok true :: rest => allTrue rest

theorem bind_ok {body : Except ε α} {next : α → Except ε β} {res : β} :
    (body >>= next) = .ok res ↔ ∃ value, body = .ok value ∧ next value = .ok res := by
  cases body with
  | error error =>
    constructor
    · intro no
      cases no
    · rintro ⟨_, no, _⟩
      cases no
  | ok value =>
    constructor
    · intro last
      exact ⟨value, rfl, last⟩
    · rintro ⟨_, same, last⟩
      cases same
      exact last

theorem bind_unit_eq_ok {body : Except ε PUnit} {next : PUnit → Except ε β} {res : β} :
    (body >>= next) = .ok res ↔ body = .ok ⟨⟩ ∧ next ⟨⟩ = .ok res := by
  rw [bind_ok]
  constructor
  · rintro ⟨⟨⟩, passed, last⟩
    exact ⟨passed, last⟩
  · rintro ⟨passed, last⟩
    exact ⟨⟨⟩, passed, last⟩

theorem check_eq_ok {cond : Prop} [Decidable cond] {error : ε} {res : PUnit} :
    check cond error = .ok res ↔ cond := by
  unfold check
  by_cases holds : cond
  · simp [holds]
  · simp [holds]

theorem check_bind {cond : Prop} [Decidable cond] {error : ε}
    {next : PUnit → Except ε β} {res : β} :
    (check cond error >>= next) = .ok res ↔ cond ∧ next ⟨⟩ = .ok res := by
  rw [bind_unit_eq_ok, check_eq_ok]

/-- A guard that raises, and what stands behind it. -/
theorem ite_error_eq_ok {cond : Prop} [Decidable cond] {error : ε} {rest : Except ε α} {res : α} :
    (if cond then .error error else rest) = .ok res ↔ ¬cond ∧ rest = .ok res := by
  by_cases holds : cond
  · simp [holds]
  · simp [holds]

theorem toOption_eq_some {body : Except ε α} {value : α} :
    body.toOption = some value ↔ body = .ok value := by
  cases body with
  | error error => simp [Except.toOption]
  | ok res => simp [Except.toOption]

theorem anyTrue_eq_false {conditions : List (Except ε Bool)} :
    anyTrue conditions = .ok false ↔ ∀ cond ∈ conditions, cond = .ok false := by
  induction conditions with
  | nil => simp [anyTrue]
  | cons cond rest ih =>
    rcases cond with error | _ | _
    · simp [anyTrue]
    · simp [anyTrue, ih]
    · simp [anyTrue]

theorem allTrue_eq_true {conditions : List (Except ε Bool)} :
    allTrue conditions = .ok true ↔ ∀ cond ∈ conditions, cond = .ok true := by
  induction conditions with
  | nil => simp [allTrue]
  | cons cond rest ih =>
    rcases cond with error | _ | _
    · simp [allTrue]
    · simp [allTrue]
    · simp [allTrue, ih]

theorem mapM_ok {ε α β : Type} {items : List α} {step : α → Except ε β} {value : α → β}
    (answers : ∀ item ∈ items, step item = .ok (value item)) :
    items.mapM step = .ok (items.map value) := by
  induction items with
  | nil => rfl
  | cons item items ih =>
    have first := answers item (by simp)
    have rest := ih fun other mem => answers other (by simp [mem])
    simp [first, rest]
    rfl

end VisionForge.Lib.Checks
