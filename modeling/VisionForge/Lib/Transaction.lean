import Mathlib.Tactic.Common

/-! # Transactions

A transaction works on a private copy of the database and may abort. An abort
either undoes everything or commits what was done so far and then raises. Running
a transaction leaves the database it committed.
-/

namespace VisionForge.Lib.Transaction

universe u

variable {δ ε α β : Type u}

inductive Abort (δ ε : Type u) where
  | rollback (error : ε)
  | commit (error : ε) (database : δ)

abbrev Transaction (δ ε α : Type u) := StateT δ (Except (Abort δ ε)) α

def raise (error : ε) : Transaction δ ε α := fun _ => .error (.rollback error)

def commitThenRaise (error : ε) : Transaction δ ε α := fun database =>
  .error (.commit error database)

def require (condition : Prop) [Decidable condition] (error : ε) : Transaction δ ε PUnit :=
  if condition then pure ⟨⟩ else raise error

def unwrap (value : Option α) (error : ε) : Transaction δ ε α :=
  match value with
  | some a => pure a
  | none => raise error

def ofExcept (value : Except ε α) : Transaction δ ε α :=
  match value with
  | .ok a => pure a
  | .error error => raise error

def transact (body : Transaction δ ε α) (database : δ) : δ × Except ε α :=
  match body.run database with
  | .ok (value, next) => (next, .ok value)
  | .error (.rollback error) => (database, .error error)
  | .error (.commit error next) => (next, .error error)

/-- The database and the result when every exception undoes the transaction. -/
def atomically (body : Transaction δ ε α) (database : δ) : δ × Except ε α :=
  match body.run database with
  | .ok (value, next) => (next, .ok value)
  | .error (.rollback error) => (database, .error error)
  | .error (.commit error _) => (database, .error error)

/-- Reads made on another database, before the transaction begins. -/
def reading (seen : δ) (checks : Transaction δ ε α) : Transaction δ ε α := fun database =>
  match checks.run seen with
  | .ok (value, _) => .ok (value, database)
  | .error (.rollback error) => .error (.rollback error)
  | .error (.commit error _) => .error (.rollback error)

def recast (change : ε → ε) (body : Transaction δ ε α) : Transaction δ ε α := fun database =>
  match body.run database with
  | .ok result => .ok result
  | .error (.rollback error) => .error (.rollback (change error))
  | .error (.commit error next) => .error (.commit (change error) next)

def onPart {γ : Type u} (part : δ → γ) (put : δ → γ → δ) (body : Transaction γ ε α) :
    Transaction δ ε α := fun database =>
  match body.run (part database) with
  | .ok (value, next) => .ok (value, put database next)
  | .error (.rollback error) => .error (.rollback error)
  | .error (.commit error next) => .error (.commit error (put database next))

section

variable {s : δ} {result : β × δ}

variable {body : Transaction δ ε α} {next : α → Transaction δ ε β}

theorem bind_ok :
    (body >>= next).run s = .ok result ↔
      ∃ value t, body.run s = .ok (value, t) ∧ (next value).run t = .ok result := by
  rw [StateT.run_bind]
  cases h : body.run s with
  | error abort =>
    constructor
    · intro no
      cases no
    · rintro ⟨_, _, no, _⟩
      cases no
  | ok pair =>
    obtain ⟨value, t⟩ := pair
    constructor
    · intro last
      exact ⟨value, t, rfl, last⟩
    · rintro ⟨_, _, same, last⟩
      cases same
      exact last

variable {error : ε}

theorem require_ok {condition : Prop} [Decidable condition]
    {next : PUnit → Transaction δ ε β} :
    (require condition error >>= next).run s = .ok result ↔
      condition ∧ (next ⟨⟩).run s = .ok result := by
  rw [bind_ok]
  unfold require
  by_cases holds : condition
  · simp only [holds, if_true, true_and]
    constructor
    · rintro ⟨⟨⟩, t, same, last⟩
      cases same
      exact last
    · intro last
      exact ⟨⟨⟩, s, rfl, last⟩
  · simp only [holds, if_false, false_and, iff_false]
    rintro ⟨_, _, no, _⟩
    cases no

theorem unwrap_ok {value : Option α} :
    (unwrap value error >>= next).run s = .ok result ↔
      ∃ a, value = some a ∧ (next a).run s = .ok result := by
  rw [bind_ok]
  cases value with
  | none =>
    constructor
    · rintro ⟨_, _, no, _⟩
      cases no
    · rintro ⟨_, no, _⟩
      cases no
  | some a =>
    constructor
    · rintro ⟨_, _, same, last⟩
      cases same
      exact ⟨a, rfl, last⟩
    · rintro ⟨_, same, last⟩
      cases same
      exact ⟨a, s, rfl, last⟩

theorem ofExcept_ok {value : Except ε α} :
    (ofExcept value >>= next).run s = .ok result ↔
      ∃ a, value = .ok a ∧ (next a).run s = .ok result := by
  rw [bind_ok]
  cases value with
  | error _ =>
    constructor
    · rintro ⟨_, _, no, _⟩
      cases no
    · rintro ⟨_, no, _⟩
      cases no
  | ok a =>
    constructor
    · rintro ⟨_, _, same, last⟩
      cases same
      exact ⟨a, rfl, last⟩
    · rintro ⟨_, same, last⟩
      cases same
      exact ⟨a, s, rfl, last⟩

theorem raise_eq_ok : ¬(raise error : Transaction δ ε β).run s = .ok result := by
  intro no
  cases no

theorem commitThenRaise_eq_ok :
    ¬(commitThenRaise error : Transaction δ ε β).run s = .ok result := by
  intro no
  cases no

/-- What only reads the state hands on what it read. -/
theorem read_ok {value : α} (h : (body >>= next).run s = .ok result)
    (reads : body.run s = .ok (value, s)) : (next value).run s = .ok result := by
  rw [StateT.run_bind, reads] at h
  exact h

theorem get_ok {next : δ → Transaction δ ε β} :
    ((get : Transaction δ ε δ) >>= next).run s = .ok result ↔ (next s).run s = .ok result :=
  Iff.rfl

theorem set_ok {t : δ} {next : PUnit → Transaction δ ε β} :
    ((set t : Transaction δ ε PUnit) >>= next).run s = .ok result ↔
      (next ⟨⟩).run t = .ok result :=
  Iff.rfl

theorem pure_eq_ok {value : β} :
    (pure value : Transaction δ ε β).run s = .ok result ↔ result = (value, s) := by
  constructor
  · intro same
    cases same
    rfl
  · rintro rfl
    rfl

theorem reading_ok {seen : δ} {hc : Transaction δ ε α} :
    (reading seen hc >>= next).run s = .ok result ↔
      ∃ value t, hc.run seen = .ok (value, t) ∧ (next value).run s = .ok result := by
  rw [bind_ok]
  unfold reading
  cases h : hc.run seen with
  | error abort =>
    cases abort <;>
    · constructor
      · rintro ⟨_, _, no, _⟩
        cases no
      · rintro ⟨_, _, no, _⟩
        cases no
  | ok pair =>
    obtain ⟨value, t⟩ := pair
    constructor
    · rintro ⟨_, _, same, last⟩
      cases same
      exact ⟨value, t, rfl, last⟩
    · rintro ⟨_, _, same, last⟩
      cases same
      exact ⟨value, s, rfl, last⟩

theorem recast_eq_ok {change : ε → ε} {body : Transaction δ ε β} :
    (recast change body).run s = .ok result ↔ body.run s = .ok result := by
  change recast change body s = .ok result ↔ _
  unfold recast
  cases h : body.run s with
  | error abort => cases abort <;> simp
  | ok pair => simp

theorem map_eq_ok {f : α → β} :
    (f <$> body).run s = .ok result ↔
      ∃ value t, body.run s = .ok (value, t) ∧ result = (f value, t) := by
  rw [map_eq_pure_bind, bind_ok]
  constructor
  · rintro ⟨value, t, ran, last⟩
    cases last
    exact ⟨value, t, ran, rfl⟩
  · rintro ⟨value, t, ran, rfl⟩
    exact ⟨value, t, ran, rfl⟩

theorem onPart_run {γ : Type u} (part : δ → γ) (put : δ → γ → δ) (body : Transaction γ ε β) (s : δ) :
    (onPart part put body).run s = match body.run (part s) with
      | .ok (value, next) => .ok (value, put s next)
      | .error (.rollback error) => .error (.rollback error)
      | .error (.commit error next) => .error (.commit error (put s next)) := rfl

theorem onPart_eq_ok {γ : Type u} {part : δ → γ} {put : δ → γ → δ} {body : Transaction γ ε β} :
    (onPart part put body).run s = .ok result ↔
      ∃ next, body.run (part s) = .ok (result.1, next) ∧ result.2 = put s next := by
  rw [onPart_run]
  cases body.run (part s) with
  | ok pair => simp [Prod.ext_iff, eq_comm]
  | error abort => cases abort <;> simp

theorem transact_eq_ok {body : Transaction δ ε β} {t : δ} {value : β} :
    transact body s = (t, .ok value) ↔ body.run s = .ok (value, t) := by
  unfold transact
  cases h : body.run s with
  | error abort => cases abort <;> simp
  | ok pair =>
    obtain ⟨a, next⟩ := pair
    simp only [Prod.mk.injEq, Except.ok.injEq]
    exact ⟨fun ⟨x, y⟩ => ⟨y, x⟩, fun ⟨x, y⟩ => ⟨y, x⟩⟩

end

theorem atomically_cases (body : Transaction δ ε α) (s : δ) :
    (∃ value t, body.run s = .ok (value, t) ∧ atomically body s = (t, .ok value)) ∨
      ∃ error, atomically body s = (s, .error error) := by
  unfold atomically
  cases ran : body.run s with
  | ok pair => exact .inl ⟨pair.1, pair.2, rfl, rfl⟩
  | error abort =>
    cases abort with
    | rollback error => exact .inr ⟨error, rfl⟩
    | commit error t => exact .inr ⟨error, rfl⟩

theorem atomically_of_ok {body : Transaction δ ε α} {s t : δ} {value : α}
    (ran : body.run s = .ok (value, t)) : atomically body s = (t, .ok value) := by
  unfold atomically
  rw [ran]

theorem atomically_of_error {s : δ} (h : (atomically body s).2 = .error error) :
    (atomically body s).1 = s := by
  cases atomically_cases body s with
  | inl done =>
    obtain ⟨value, t, -, same⟩ := done
    rw [same] at h
    cases h
  | inr failed =>
    obtain ⟨other, same⟩ := failed
    rw [same]

theorem atomically_map_cases {f : α → β} (body : Transaction δ ε α) (s : δ) :
    (∃ value t, body.run s = .ok (value, t) ∧ atomically (f <$> body) s = (t, .ok (f value))) ∨
      (∀ result, body.run s ≠ .ok result) ∧
        ∃ error, atomically (f <$> body) s = (s, .error error) := by
  cases ran : body.run s with
  | ok pair =>
    exact .inl ⟨pair.1, pair.2, rfl, atomically_of_ok (map_eq_ok.mpr ⟨pair.1, pair.2, ran, rfl⟩)⟩
  | error abort =>
    refine .inr ⟨fun _ => (by simp), ?_⟩
    cases atomically_cases (f <$> body) s with
    | inl done =>
      obtain ⟨_, _, mapped, -⟩ := done
      obtain ⟨_, _, inner, -⟩ := map_eq_ok.mp mapped
      rw [ran] at inner
      cases inner
    | inr failed => exact failed

theorem atomically_map_invariant {f : α → β} {body : Transaction δ ε α} {s : δ} {P : δ → Prop}
    (unchanged : P s) (changed : ∀ value t, body.run s = .ok (value, t) → P t) :
    P (atomically (f <$> body) s).1 := by
  cases atomically_map_cases (f := f) body s with
  | inl done =>
    obtain ⟨value, t, ran, same⟩ := done
    rw [same]
    exact changed value t ran
  | inr failed =>
    obtain ⟨-, error, same⟩ := failed
    rw [same]
    exact unchanged

theorem atomically_map_eq_ok {f : α → β} {s : δ} {result : β}
    (h : (atomically (f <$> body) s).2 = .ok result) :
    ∃ value, result = f value ∧ body.run s = .ok (value, (atomically (f <$> body) s).1) := by
  cases atomically_map_cases (f := f) body s with
  | inl done =>
    obtain ⟨value, t, ran, same⟩ := done
    rw [same] at h ⊢
    cases h
    exact ⟨value, rfl, ran⟩
  | inr failed =>
    obtain ⟨-, error, same⟩ := failed
    rw [same] at h
    cases h

theorem atomically_onPart {γ : Type u} {part : δ → γ} {put : δ → γ → δ} (s : δ)
    (same : put s (part s) = s) (body : Transaction γ ε α) :
    atomically (onPart part put body) s =
      (put s (atomically body (part s)).1, (atomically body (part s)).2) := by
  unfold atomically
  rw [onPart_run]
  cases body.run (part s) with
  | ok pair => rfl
  | error abort => cases abort <;> simp [same]

theorem transact_onPart {γ : Type u} {part : δ → γ} {put : δ → γ → δ} (s : δ)
    (same : put s (part s) = s) (body : Transaction γ ε α) :
    transact (onPart part put body) s =
      (put s (transact body (part s)).1, (transact body (part s)).2) := by
  unfold transact
  rw [onPart_run]
  cases body.run (part s) with
  | ok pair => rfl
  | error abort => cases abort <;> simp [same]

theorem transact_cases (body : Transaction δ ε α) (s : δ) :
    (∃ value t, body.run s = .ok (value, t) ∧ transact body s = (t, .ok value)) ∨
      (∃ error, transact body s = (s, .error error)) ∨
      ∃ error t, body.run s = .error (.commit error t) ∧ transact body s = (t, .error error) := by
  unfold transact
  cases ran : body.run s with
  | ok pair => exact .inl ⟨pair.1, pair.2, rfl, rfl⟩
  | error abort =>
    cases abort with
    | rollback error => exact .inr (.inl ⟨error, rfl⟩)
    | commit error t => exact .inr (.inr ⟨error, t, rfl, rfl⟩)

/-! ## What a transaction ensures

The result and the database satisfy `post`, or everything is undone and the exception
satisfies `fail`. -/

def Ensures (body : Transaction δ ε α) (s : δ) (post : α → δ → Prop) (fail : ε → Prop) : Prop :=
  match body.run s with
  | .ok (value, t) => post value t
  | .error (.rollback error) => fail error
  | .error (.commit _ _) => False

section

variable {s : δ} {fail : ε → Prop} {body : Transaction δ ε α} {post : β → δ → Prop}
  {next : α → Transaction δ ε β}

theorem Ensures.bind {middle : α → δ → Prop} (first : Ensures body s middle fail)
    (rest : ∀ value t, middle value t → Ensures (next value) t post fail) :
    Ensures (body >>= next) s post fail := by
  unfold Ensures at first ⊢
  rw [StateT.run_bind]
  cases ran : body.run s with
  | error abort =>
    rw [ran] at first
    cases abort with
    | rollback error => exact first
    | commit error t => exact first.elim
  | ok pair =>
    obtain ⟨value, t⟩ := pair
    rw [ran] at first
    exact rest value t first

theorem Ensures.of_run {value : α} {t : δ} {post : α → δ → Prop}
    (ran : body.run s = .ok (value, t)) (holds : post value t) : Ensures body s post fail := by
  unfold Ensures
  rw [ran]
  exact holds

theorem Ensures.run_bind {value : α} {t : δ} (ran : body.run s = .ok (value, t))
    (rest : Ensures (next value) t post fail) : Ensures (body >>= next) s post fail := by
  apply Ensures.bind (@Ensures.of_run _ _ _ _ _ _ _ _ (fun a u => a = value ∧ u = t) ran ⟨rfl, rfl⟩)
  rintro a u ⟨rfl, rfl⟩
  exact rest

theorem Ensures.require_bind {cond : Prop} [Decidable cond]
    {next : PUnit → Transaction δ ε β} (bad : ¬cond → fail error)
    (rest : cond → Ensures (next ⟨⟩) s post fail) :
    Ensures (require cond error >>= next) s post fail := by
  unfold require
  by_cases holds : cond
  · rw [if_pos holds]
    exact rest holds
  · rw [if_neg holds]
    exact bad holds

theorem Ensures.unwrap_bind {value : Option α} (bad : value = none → fail error)
    (rest : ∀ a, value = some a → Ensures (next a) s post fail) :
    Ensures (unwrap value error >>= next) s post fail := by
  cases value with
  | none => exact bad rfl
  | some a => exact rest a rfl

theorem Ensures.get_bind {next : δ → Transaction δ ε β} (rest : Ensures (next s) s post fail) :
    Ensures (get >>= next) s post fail := rest

theorem Ensures.read_bind {f : δ → α} (rest : Ensures (next (f s)) s post fail) :
    Ensures ((do return f (← get)) >>= next) s post fail := rest

theorem Ensures.pure {value : β} (holds : post value s) :
    Ensures (pure value : Transaction δ ε β) s post fail := holds

theorem Ensures.raise (holds : fail error) :
    Ensures (raise error : Transaction δ ε β) s post fail := holds

theorem Ensures.map {f : α → β} (h : Ensures body s (fun a t => post (f a) t) fail) :
    Ensures (f <$> body) s post fail := by
  rw [map_eq_pure_bind]
  apply Ensures.bind h
  intro value t holds
  exact holds

theorem Ensures.mono {first snd : α → δ → Prop} (h : Ensures body s first fail)
    (implies : ∀ value t, first value t → snd value t) : Ensures body s snd fail := by
  unfold Ensures at h ⊢
  cases ran : body.run s with
  | error abort =>
    rw [ran] at h
    cases abort with
    | rollback error => exact h
    | commit error t => exact h.elim
  | ok pair =>
    rw [ran] at h
    exact implies pair.1 pair.2 h

/-- Checks on another database either fail or change nothing. -/
theorem Ensures.reading_bind {seen : δ} {hc : Transaction δ ε α} {middle : α → δ → Prop}
    (first : Ensures hc seen middle fail)
    (rest : ∀ value t, middle value t → Ensures (next value) s post fail) :
    Ensures (reading seen hc >>= next) s post fail := by
  have read : Ensures (reading seen hc) s (fun value t => t = s ∧ ∃ u, middle value u)
      fail := by
    unfold Ensures at first ⊢
    change match reading seen hc s with
      | .ok (value, t) => t = s ∧ ∃ u, middle value u
      | .error (.rollback error) => fail error
      | .error (.commit _ _) => False
    unfold reading
    cases ran : hc.run seen with
    | error abort =>
      rw [ran] at first
      cases abort with
      | rollback error => exact first
      | commit error t => exact first.elim
    | ok pair =>
      rw [ran] at first
      exact ⟨rfl, pair.2, first⟩
  apply read.bind
  rintro value t ⟨rfl, u, holds⟩
  exact rest value u holds

theorem Ensures.transact {post : α → δ → Prop} (h : Ensures body s post fail) :
    (∃ value t, transact body s = (t, .ok value) ∧ post value t) ∨
      ∃ error, transact body s = (s, .error error) ∧ fail error := by
  unfold Ensures at h
  unfold Transaction.transact
  cases ran : body.run s with
  | error abort =>
    rw [ran] at h
    cases abort with
    | rollback error => exact .inr ⟨error, rfl, h⟩
    | commit error t => exact h.elim
  | ok pair =>
    rw [ran] at h
    exact .inl ⟨pair.1, pair.2, rfl, h⟩

theorem Ensures.atomically {post : α → δ → Prop} (h : Ensures body s post fail) :
    (∃ value t, atomically body s = (t, .ok value) ∧ post value t) ∨
      ∃ error, atomically body s = (s, .error error) ∧ fail error := by
  unfold Ensures at h
  unfold Transaction.atomically
  cases ran : body.run s with
  | error abort =>
    rw [ran] at h
    cases abort with
    | rollback error => exact .inr ⟨error, rfl, h⟩
    | commit error t => exact h.elim
  | ok pair =>
    rw [ran] at h
    exact .inl ⟨pair.1, pair.2, rfl, h⟩

end

def RollsBack (body : Transaction δ ε α) : Prop :=
  ∀ s error t, body.run s ≠ .error (.commit error t)

section

variable {body : Transaction δ ε α} {next : α → Transaction δ ε β}

/-- After such a part, what is kept is what the rest keeps. -/
theorem RollsBack.bind_eq_commit (first : RollsBack body) {s : δ} {t : δ}
    (h : (body >>= next).run s = .error (.commit error t)) :
    ∃ value u, body.run s = .ok (value, u) ∧ (next value).run u = .error (.commit error t) := by
  rw [StateT.run_bind] at h
  cases ran : body.run s with
  | error abort =>
    rw [ran] at h
    cases h
    exact absurd ran (first s error t)
  | ok pair =>
    rw [ran] at h
    exact ⟨pair.1, pair.2, rfl, h⟩

theorem RollsBack.bind (first : RollsBack body) (rest : ∀ value, RollsBack (next value)) :
    RollsBack (body >>= next) := by
  intro s error t h
  obtain ⟨value, u, -, last⟩ := first.bind_eq_commit h
  exact rest value u error t last

theorem RollsBack.pure (value : α) : RollsBack (pure value : Transaction δ ε α) := by
  intro s error t h
  cases h

theorem RollsBack.raise (error : ε) : RollsBack (raise error : Transaction δ ε α) := by
  intro s error t h
  cases h

theorem RollsBack.get : RollsBack (get : Transaction δ ε δ) := by
  intro s error t h
  cases h

theorem RollsBack.set (next : δ) : RollsBack (set next : Transaction δ ε PUnit) := by
  intro s error t h
  cases h

theorem RollsBack.require (cond : Prop) [Decidable cond] (error : ε) :
    RollsBack (require cond error : Transaction δ ε PUnit) := by
  unfold Transaction.require
  split
  · exact .pure _
  · exact .raise _

theorem RollsBack.unwrap (value : Option α) (error : ε) :
    RollsBack (unwrap value error : Transaction δ ε α) := by
  cases value with
  | none => exact .raise _
  | some a => exact .pure _

theorem RollsBack.ofExcept (value : Except ε α) :
    RollsBack (ofExcept value : Transaction δ ε α) := by
  cases value with
  | error error => exact .raise _
  | ok a => exact .pure _

theorem RollsBack.reading (seen : δ) (hc : Transaction δ ε α) : RollsBack (reading seen hc) := by
  intro s error t h
  unfold Transaction.reading at h
  cases ran : hc.run seen with
  | error abort =>
    rw [ran] at h
    cases abort <;> cases h
  | ok pair =>
    rw [ran] at h
    cases h

end

/-- When it succeeds, a property of the database still holds. -/
def Preserves (P : δ → Prop) (body : Transaction δ ε α) : Prop :=
  ∀ s value t, body.run s = .ok (value, t) → P s → P t

section

variable {P : δ → Prop} {body : Transaction δ ε α} {next : α → Transaction δ ε β}

theorem Preserves.bind (first : Preserves P body) (rest : ∀ value, Preserves P (next value)) :
    Preserves P (body >>= next) := by
  intro s value t h holds
  obtain ⟨middle, u, ran, last⟩ := bind_ok.mp h
  exact rest middle u value t last (first s middle u ran holds)

theorem Preserves.pure (value : α) : Preserves P (pure value : Transaction δ ε α) := by
  intro s given t h holds
  cases h
  exact holds

theorem Preserves.raise (error : ε) : Preserves P (raise error : Transaction δ ε α) := by
  intro s value t h
  cases h

theorem Preserves.get : Preserves P (get : Transaction δ ε δ) := by
  intro s value t h holds
  cases h
  exact holds

theorem Preserves.require (cond : Prop) [Decidable cond] (error : ε) :
    Preserves P (require cond error : Transaction δ ε PUnit) := by
  unfold Transaction.require
  split
  · exact .pure _
  · exact .raise _

theorem Preserves.unwrap (value : Option α) (error : ε) :
    Preserves P (unwrap value error : Transaction δ ε α) := by
  cases value with
  | none => exact .raise _
  | some a => exact .pure _

theorem Preserves.map {f : α → β} (inner : Preserves P body) : Preserves P (f <$> body) := by
  intro s value t h
  obtain ⟨a, u, ran, same⟩ := map_eq_ok.mp h
  cases same
  exact inner s a t ran

/-- What succeeds or not, the property still holds. -/
theorem Preserves.atomically {s : δ} (inner : Preserves P body) (holds : P s) :
    P (atomically body s).1 := by
  cases atomically_cases body s with
  | inl done =>
    obtain ⟨value, t, ran, same⟩ := done
    rw [same]
    exact inner s value t ran holds
  | inr failed =>
    obtain ⟨error, same⟩ := failed
    rw [same]
    exact holds

end

end VisionForge.Lib.Transaction
