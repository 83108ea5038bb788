import Mathlib.Data.List.Induction
import Mathlib.Tactic.Common

/-! # Histories

A history is the list of its events, oldest first. Laws of a history say of each event what
holds of it after the events before it.
-/

namespace VisionForge.Lib.Histories

universe u

variable {ε : Type u}

/-- Each event obeys a law that may look back at the events before it. -/
def Each (law : List ε → ε → Prop) (hist : List ε) : Prop :=
  ∀ before event behind, hist = before ++ event :: behind → law before event

variable {law : List ε → ε → Prop} {hist : List ε} {event : ε}

theorem each_nil : Each law [] := by
  intro pre event behind split
  simp at split

theorem each_cons : Each law (event :: hist) ↔
    law [] event ∧ Each (fun before => law (event :: before)) hist := by
  constructor
  · intro all
    refine ⟨all [] event hist rfl, ?_⟩
    rintro pre other behind rfl
    exact all (event :: pre) other behind rfl
  · rintro ⟨first, rest⟩ pre other behind split
    rcases List.cons_eq_append_iff.mp split with ⟨rfl, isFirst⟩ | ⟨pre', rfl, isRest⟩
    · obtain ⟨rfl, -⟩ := List.cons.inj isFirst
      exact first
    · exact rest pre' other behind isRest

/-- One more event has to obey the law, and the others are not affected. -/
theorem each_append : Each law (hist ++ [event]) ↔ Each law hist ∧ law hist event := by
  constructor
  · intro all
    refine ⟨?_, all hist event [] rfl⟩
    rintro pre other behind rfl
    exact all pre other (behind ++ [event]) (by simp)
  · rintro ⟨old, new⟩ pre other behind split
    rcases List.eq_nil_or_concat behind with rfl | ⟨behind, last, rfl⟩
    · obtain ⟨rfl, isLast⟩ := List.append_inj' split rfl
      obtain rfl := List.singleton_inj.mp isLast
      exact new
    · rw [List.concat_eq_append, ← List.cons_append, ← List.append_assoc] at split
      obtain ⟨rfl, -⟩ := List.append_inj' split rfl
      exact old pre other behind rfl

/-- What every event of a history obeys, every event of its beginning obeys. -/
theorem Each.of_append {more : List ε} (all : Each law (hist ++ more)) : Each law hist := by
  rintro pre event behind rfl
  exact all pre event (behind ++ more) (by simp)

theorem Each.of_getElem? (all : Each law hist) {index : Nat}
    (found : hist[index]? = some event) : law (hist.take index) event := by
  obtain ⟨inside, rfl⟩ := List.getElem?_eq_some_iff.mp found
  exact all _ _ (hist.drop (index + 1)) (by simp)

/-- What holds at the start and is kept by every event that obeys a law of its state holds at the
end of every history that obeys it. -/
theorem foldl_invariant {σ : Type*} {step : σ → ε → σ} {start : σ} {holds : σ → Prop}
    {allowed : σ → ε → Prop} (init : holds start)
    (keeps : ∀ state event, holds state → allowed state event → holds (step state event))
    (obeyed : Each (fun pre event => allowed (pre.foldl step start) event) hist) :
    holds (hist.foldl step start) := by
  induction hist using List.reverseRecOn with
  | nil => exact init
  | append_singleton hist event ih =>
    obtain ⟨old, new⟩ := each_append.mp obeyed
    rw [List.foldl_append]
    exact keeps _ _ (ih old) new

end VisionForge.Lib.Histories
