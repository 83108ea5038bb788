import Mathlib.Logic.Function.Basic
import Mathlib.Tactic.Common

/-! # Slots with one holder a state

Slots are in states. Of a state that only one slot may be in at a time, the holder is that slot, if
there is one.
-/

namespace VisionForge.Lib.Slots

open Function (update)

universe u v

variable {ι : Type u} {σ : Type v}

/-- The holder is the one slot in the state. -/
def Tracks (states : ι → σ) (state : σ) (holder : Option ι) : Prop :=
  ∀ index, states index = state ↔ holder = some index

variable {states : ι → σ} {state other : σ} {holder : Option ι} {index : ι}

theorem tracks_none (differ : other ≠ state) : Tracks (fun _ : ι => other) state none :=
  fun _ => ⟨fun is => absurd is differ, fun is => by simp at is⟩

theorem Tracks.held (tracks : Tracks states state (some index)) : states index = state :=
  (tracks index).mpr rfl

theorem Tracks.apart {second : ι} (tracks : Tracks states state (some index))
    (others : Tracks states other (some second)) (differ : state ≠ other) : index ≠ second := by
  rintro rfl
  exact differ (tracks.held.symm.trans others.held)

theorem Tracks.unique (tracks : Tracks states state holder) {first second : ι}
    (one : states first = state) (another : states second = state) : first = second :=
  Option.some.inj (((tracks first).mp one).symm.trans ((tracks second).mp another))

variable [DecidableEq ι]

theorem Tracks.keep (tracks : Tracks states state holder) (was : states index ≠ state)
    (becomes : other ≠ state) : Tracks (update states index other) state holder := by
  intro slot
  by_cases same : slot = index
  · subst same
    rw [Function.update_self]
    exact ⟨fun is => absurd is becomes, fun holds => absurd ((tracks slot).mpr holds) was⟩
  · rw [Function.update_of_ne same]
    exact tracks slot

theorem Tracks.take (tracks : Tracks states state none) :
    Tracks (update states index state) state (some index) := by
  intro slot
  by_cases same : slot = index
  · subst same
    simp
  · rw [Function.update_of_ne same]
    exact ⟨fun is => by simpa using (tracks slot).mp is, fun is => absurd (Option.some.inj is).symm same⟩

theorem Tracks.leave (tracks : Tracks states state (some index)) (becomes : other ≠ state) :
    Tracks (update states index other) state none := by
  intro slot
  by_cases same : slot = index
  · subst same
    simp [becomes]
  · rw [Function.update_of_ne same]
    exact ⟨fun is => absurd (Option.some.inj ((tracks slot).mp is)).symm same, fun is => by simp at is⟩

end VisionForge.Lib.Slots
