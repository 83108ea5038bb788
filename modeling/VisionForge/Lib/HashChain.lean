import Mathlib.Data.List.Induction
import Mathlib.Data.Finset.Card
import Mathlib.Data.Finset.Union
import Mathlib.Order.Interval.Finset.Nat
import Mathlib.Algebra.Order.BigOperators.Group.Finset

/-! # Hash-linked chains of validity windows

Every link carries a sequence number, its own digest, the digest of the link
before it and a half-open window. A list is linked when it could have been built
by appending successors only; the laws below are what that construction buys.
-/

namespace VisionForge.Lib.HashChain

universe u v

variable {α : Type u} {η : Type v}

/-- How a link is read: its number, digests and window. -/
structure Labels (α : Type u) (η : Type v) where
  sequence : α → Nat
  digest : α → η
  previous : α → η
  opens : α → Nat
  closes : α → Nat
  genesis : η

structure Labels.Follows (L : Labels α η) (last next : α) : Prop where
  sequence : L.sequence next = L.sequence last + 1
  previous : L.previous next = L.digest last
  windows : L.closes last ≤ L.opens next

/-- `a` may open a chain. -/
structure Labels.Genesis (L : Labels α η) (a : α) : Prop where
  sequence : L.sequence a = 0
  previous : L.previous a = L.genesis

inductive Linked (L : Labels α η) : List α → Prop where
  | nil : Linked L []
  | first {a} : L.Genesis a → Linked L [a]
  | next {l a b} : Linked L (l ++ [a]) → L.Follows a b → Linked L (l ++ [a] ++ [b])

variable {L : Labels α η}

theorem Linked.concat {l : List α} {a b : α} (h : Linked L l) (last : l.getLast? = some a)
    (follows : L.Follows a b) : Linked L (l ++ [b]) := by
  obtain ⟨front, rfl⟩ := List.getLast?_eq_some_iff.mp last
  exact .next h follows

/-- Positions and sequence numbers coincide, so no number is skipped or repeated. -/
theorem Linked.sequence_eq {l : List α} (h : Linked L l) (i : Nat) {a : α}
    (at_i : l[i]? = some a) : L.sequence a = i := by
  induction h generalizing i a with
  | nil => simp at at_i
  | @first b genesis =>
    cases i with
    | zero =>
      simp only [List.getElem?_cons_zero, Option.some.injEq] at at_i
      exact at_i ▸ genesis.sequence
    | succ i => simp at at_i
  | @next l a₁ b prior follows ih =>
    by_cases hin : i < (l ++ [a₁]).length
    · rw [List.getElem?_append_left hin] at at_i
      exact ih i at_i
    · have atEnd : i = (l ++ [a₁]).length := by
        have bound := (List.getElem?_eq_some_iff.mp at_i).1
        simp only [List.length_append, List.length_singleton] at bound hin ⊢
        omega
      subst atEnd
      simp only [List.getElem?_concat_length, Option.some.injEq] at at_i
      subst at_i
      have lastSequence : L.sequence a₁ = l.length := ih l.length (by simp)
      rw [follows.sequence, lastSequence, List.length_append, List.length_singleton]

theorem Linked.follows {l : List α} (h : Linked L l) (i : Nat) {a b : α}
    (at_i : l[i]? = some a) (at_next : l[i + 1]? = some b) : L.Follows a b := by
  induction h generalizing i a b with
  | nil => simp at at_i
  | first _ => simp at at_next
  | @next l a₁ b₁ prior step ih =>
    by_cases hin : i + 1 < (l ++ [a₁]).length
    · rw [List.getElem?_append_left (by omega)] at at_i
      rw [List.getElem?_append_left hin] at at_next
      exact ih i at_i at_next
    · have bound := (List.getElem?_eq_some_iff.mp at_next).1
      have atEnd : i = l.length := by
        simp only [List.length_append, List.length_singleton] at bound hin
        omega
      subst atEnd
      have first : a = a₁ := by simpa using at_i.symm
      have snd : b = b₁ := by simpa using at_next.symm
      exact first ▸ snd ▸ step

theorem Linked.genesis {l : List α} {a : α} (h : Linked L l) (head : l.head? = some a) :
    L.Genesis a := by
  induction h with
  | nil => simp at head
  | first g => simp only [List.head?_cons, Option.some.injEq] at head; exact head ▸ g
  | next _ _ ih => exact ih (by simpa [List.head?_append] using head)

theorem Linked.windows {l : List α} (h : Linked L l) (proper : ∀ a ∈ l, L.opens a ≤ L.closes a) :
    l.Pairwise (fun a b => L.closes a ≤ L.opens b) := by
  induction h with
  | nil => exact .nil
  | first _ => exact List.pairwise_singleton _ _
  | @next l a b prior step ih =>
    have pre : (l ++ [a]).Pairwise (fun a b => L.closes a ≤ L.opens b) :=
      ih (fun c hc => proper c (List.mem_append_left _ hc))
    rw [List.pairwise_append]
    refine ⟨pre, List.pairwise_singleton _ _, ?_⟩
    intro c hc d hd
    rw [List.mem_singleton.mp hd]
    rcases List.mem_append.mp hc with inFront | isLast
    · have reaches : L.closes c ≤ L.opens a :=
        (List.pairwise_append.mp pre).2.2 c inFront a (List.mem_singleton_self a)
      have opened : L.opens a ≤ L.closes a := proper a (by simp)
      exact reaches.trans (opened.trans step.windows)
    · exact List.mem_singleton.mp isLast ▸ step.windows

/-- Points covered by windows of bounded length are few. -/
theorem card_covered_le {l : List α} {points : Finset Nat} {length : Nat}
    (short : ∀ a ∈ l, L.closes a - L.opens a ≤ length)
    (covered : ∀ t ∈ points, ∃ a ∈ l, L.opens a ≤ t ∧ t < L.closes a) :
    points.card ≤ length * l.length := by
  classical
  induction l generalizing points with
  | nil =>
    have empty : points = ∅ := Finset.eq_empty_of_forall_notMem (fun t ht => by
      obtain ⟨a, ha, -⟩ := covered t ht
      exact absurd ha List.not_mem_nil)
    simp [empty]
  | cons a l ih =>
    let hin := points.filter (fun t => L.opens a ≤ t ∧ t < L.closes a)
    let out := points.filter (fun t => ¬(L.opens a ≤ t ∧ t < L.closes a))
    have insideCard : hin.card ≤ length := by
      have sub : hin ⊆ Finset.Ico (L.opens a) (L.closes a) := fun t ht =>
        Finset.mem_Ico.mpr (Finset.mem_filter.mp ht).2
      calc hin.card ≤ (Finset.Ico (L.opens a) (L.closes a)).card := Finset.card_le_card sub
        _ = L.closes a - L.opens a := Nat.card_Ico _ _
        _ ≤ length := short a List.mem_cons_self
    have outsideCard : out.card ≤ length * l.length := by
      refine ih (fun b hb => short b (List.mem_cons_of_mem a hb)) (fun t ht => ?_)
      obtain ⟨member, notHere⟩ := Finset.mem_filter.mp ht
      obtain ⟨b, hb, win⟩ := covered t member
      rcases List.mem_cons.mp hb with rfl | hb
      · exact absurd win notHere
      · exact ⟨b, hb, win⟩
    have split : hin.card + out.card = points.card :=
      Finset.card_filter_add_card_filter_not _
    rw [List.length_cons, Nat.mul_succ]
    omega

end VisionForge.Lib.HashChain
