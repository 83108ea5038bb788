import Mathlib.Data.List.Basic
import Mathlib.Tactic.Common

/-! # Dotted tokens

A compact token is three nonempty segments separated by a mark that occurs in none
of them.
-/

namespace VisionForge.Lib.Segments

universe u v

variable {α : Type u} [DecidableEq α]

def cut (mark : α) : List α → Option (List α × List α)
  | [] => none
  | a :: rest => if a = mark then some ([], rest) else (cut mark rest).map (fun p => (a :: p.1, p.2))

def splitThree (mark : α) (token : List α) : Option (List α × List α × List α) := do
  let (first, rest) ← cut mark token
  let (second, third) ← cut mark rest
  if first = [] ∨ second = [] ∨ third = [] ∨ mark ∈ third then none
  else some (first, second, third)

theorem cut_append {mark : α} {before : List α} (absent : mark ∉ before) (after : List α) :
    cut mark (before ++ mark :: after) = some (before, after) := by
  induction before with
  | nil => simp [cut]
  | cons a before ih =>
    have other : a ≠ mark := fun same => absent (by simp [same])
    rw [List.cons_append, cut, if_neg other, ih (fun mem => absent (List.mem_cons_of_mem a mem))]
    rfl

theorem of_cut {mark : α} {token before after : List α} (h : cut mark token = some (before, after)) :
    token = before ++ mark :: after ∧ mark ∉ before := by
  induction token generalizing before with
  | nil => cases h
  | cons a rest ih =>
    rw [cut] at h
    split at h
    · rename_i isMark
      cases h
      exact ⟨by rw [isMark]; rfl, List.not_mem_nil⟩
    · rename_i notMark
      obtain ⟨⟨front, tail⟩, found, same⟩ := Option.map_eq_some_iff.mp h
      cases same
      obtain ⟨known, absent⟩ := ih found
      refine ⟨by rw [known]; rfl, ?_⟩
      intro mem
      rcases List.mem_cons.mp mem with isHead | later
      · exact notMark isHead.symm
      · exact absent later

theorem splitThree_eq_some {mark : α} {token first snd third : List α} :
    splitThree mark token = some (first, snd, third) ↔
      token = first ++ mark :: (snd ++ mark :: third) ∧
        (mark ∉ first ∧ mark ∉ snd ∧ mark ∉ third) ∧
        first ≠ [] ∧ snd ≠ [] ∧ third ≠ [] := by
  constructor
  · intro h
    simp only [splitThree, Option.bind_eq_bind, Option.bind_eq_some_iff, Prod.exists] at h
    obtain ⟨one, rest, firstCut, two, three, secondCut, last⟩ := h
    split at last
    · cases last
    rename_i fine
    cases last
    obtain ⟨known, absent⟩ := of_cut firstCut
    obtain ⟨knownRest, absentRest⟩ := of_cut secondCut
    simp only [not_or] at fine
    exact ⟨by rw [known, knownRest], ⟨absent, absentRest, fine.2.2.2⟩, fine.1, fine.2.1, fine.2.2.1⟩
  · rintro ⟨rfl, ⟨absent, absentRest, absentLast⟩, some₁, some₂, some₃⟩
    simp only [splitThree, cut_append absent, cut_append absentRest, Option.bind_eq_bind,
      Option.bind_some]
    rw [if_neg (by simp [some₁, some₂, some₃, absentLast])]

end VisionForge.Lib.Segments
