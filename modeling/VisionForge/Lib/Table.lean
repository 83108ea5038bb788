import Mathlib.Algebra.BigOperators.Group.List.Basic
import Mathlib.Algebra.GroupWithZero.Nat
import Mathlib.Data.List.Basic
import Mathlib.Data.List.Forall2
import Mathlib.Tactic.Common

/-! # Tables

A table is its list of rows in insertion order. Rows are looked up by a key that
updates do not change.
-/

namespace VisionForge.Lib.Table

universe u v

variable {ρ : Type u} {κ : Type v} [DecidableEq κ]

def lookup (key : ρ → κ) (k : κ) (rows : List ρ) : Option ρ := rows.find? (fun row => key row = k)

def update (cond : ρ → Bool) (change : ρ → ρ) (rows : List ρ) : List ρ :=
  rows.map (fun row => if cond row then change row else row)

variable {key : ρ → κ} {k : κ} {rows : List ρ} {row : ρ}

theorem lookup_key (h : lookup key k rows = some row) : row ∈ rows ∧ key row = k := by
  exact ⟨List.mem_of_find?_eq_some h, by simpa using List.find?_some h⟩

theorem lookup_of_mem (dist : (rows.map key).Nodup) (mem : row ∈ rows) :
    lookup key (key row) rows = some row := by
  unfold lookup
  induction rows with
  | nil => cases mem
  | cons first rest ih =>
    rw [List.map_cons, List.nodup_cons] at dist
    cases List.mem_cons.mp mem with
    | inl same => simp [same]
    | inr later =>
      have apart : key first ≠ key row := by
        intro same
        apply dist.1
        rw [same]
        exact List.mem_map_of_mem later
      rw [List.find?_cons_of_neg (by simpa using apart)]
      exact ih dist.2 later

theorem lookup_append (fresh : lookup key (key row) rows = none) :
    lookup key (key row) (rows ++ [row]) = some row := by
  unfold lookup at fresh ⊢
  rw [List.find?_append, fresh]
  simp

theorem lookup_append_of_ne (other : key row ≠ k) :
    lookup key k (rows ++ [row]) = lookup key k rows := by
  unfold lookup
  simp [other]

variable {cond : ρ → Bool} {change : ρ → ρ}

theorem lookup_update (keeps : ∀ row, key (change row) = key row) :
    lookup key k (update cond change rows) =
      (lookup key k rows).map (fun row => if cond row then change row else row) := by
  unfold lookup update
  rw [List.find?_map]
  congr 2
  funext row
  simp only [Function.comp_apply]
  split
  · rw [keeps]
  · rfl

theorem mem_update (h : row ∈ update cond change rows) :
    (row ∈ rows ∧ cond row = false) ∨ ∃ old ∈ rows, cond old = true ∧ row = change old := by
  obtain ⟨old, mem, same⟩ := List.mem_map.mp h
  by_cases holds : cond old = true
  · rw [if_pos holds] at same
    exact .inr ⟨old, mem, holds, same.symm⟩
  · rw [if_neg holds] at same
    subst same
    exact .inl ⟨mem, Bool.eq_false_iff.mpr holds⟩

/-- Rewriting rows that a search does not stop at, before or after, does not disturb it. -/
theorem find?_update_of_not {search : ρ → Bool}
    (before : ∀ row, cond row = true → search row = false)
    (after : ∀ row, cond row = true → search (change row) = false) :
    (update cond change rows).find? search = rows.find? search := by
  unfold update
  induction rows with
  | nil => rfl
  | cons row rows ih =>
    rw [List.map_cons]
    by_cases holds : cond row = true
    · rw [if_pos holds, List.find?_cons_of_neg (by simp [after row holds]),
        List.find?_cons_of_neg (by simp [before row holds]), ih]
    · rw [if_neg holds]
      cases found : search row with
      | true => rw [List.find?_cons_of_pos found, List.find?_cons_of_pos found]
      | false =>
        rw [List.find?_cons_of_neg (by simp [found]), List.find?_cons_of_neg (by simp [found]), ih]

omit [DecidableEq κ] in
theorem map_update (same : ∀ row ∈ rows, cond row = true → key (change row) = key row) :
    (update cond change rows).map key = rows.map key := by
  unfold update
  rw [List.map_map]
  apply List.map_congr_left
  intro row mem
  rw [Function.comp_apply]
  split
  · rename_i sel
    exact same row mem sel
  · rfl

omit [DecidableEq κ] in
theorem update_congr {condition' : ρ → Bool} (same : ∀ row ∈ rows, cond row = condition' row) :
    update cond change rows = update condition' change rows := by
  apply List.map_congr_left
  intro row mem
  rw [same row mem]

omit [DecidableEq κ] in
theorem update_of_none (none : ∀ row ∈ rows, cond row = false) :
    update cond change rows = rows := by
  unfold update
  have unchanged : ∀ row ∈ rows, (if cond row = true then change row else row) = id row := by
    intro row mem
    simp [none row mem]
  rw [List.map_congr_left unchanged, List.map_id]

theorem mem_update_iff (before : cond row = false)
    (after : ∀ other ∈ rows, cond other = true → change other ≠ row) :
    row ∈ update cond change rows ↔ row ∈ rows := by
  constructor
  · intro mem
    cases mem_update mem with
    | inl kept => exact kept.1
    | inr replaced =>
      obtain ⟨old, inOld, sel, same⟩ := replaced
      exact absurd same.symm (after old inOld sel)
  · intro mem
    exact List.mem_map.mpr ⟨row, mem, if_neg (by simp [before])⟩

theorem mem_update_of_mem {cond : ρ → Bool} {change : ρ → ρ} (mem : row ∈ rows) :
    (if cond row = true then change row else row) ∈ update cond change rows := by
  exact List.mem_map_of_mem mem

theorem countP_eq_one (dist : rows.Nodup) (mem : row ∈ rows) (holds : cond row = true)
    (only : ∀ other ∈ rows, cond other = true → other = row) : rows.countP cond = 1 := by
  induction rows with
  | nil => cases mem
  | cons first rest ih =>
    rw [List.nodup_cons] at dist
    cases List.mem_cons.mp mem with
    | inl same =>
      subst same
      have none : rest.countP cond = 0 := by
        rw [List.countP_eq_zero]
        intro other later sel
        have isRow := only other (List.mem_cons_of_mem _ later) sel
        subst isRow
        exact dist.1 later
      rw [List.countP_cons_of_pos holds, none]
    | inr later =>
      have unselected : ¬cond first = true := by
        intro sel
        have isRow := only first List.mem_cons_self sel
        subst isRow
        exact dist.1 later
      rw [List.countP_cons_of_neg unselected]
      exact ih dist.2 later (fun other inRest => only other (List.mem_cons_of_mem _ inRest))

omit [DecidableEq κ] in
theorem filter_eq_singleton (dist : rows.Nodup) (mem : row ∈ rows)
    (holds : cond row = true) (only : ∀ other ∈ rows, cond other = true → other = row) :
    rows.filter cond = [row] := by
  rw [← List.perm_singleton, List.perm_ext_iff_of_nodup (dist.filter _) (by simp)]
  intro other
  rw [List.mem_filter, List.mem_singleton]
  constructor
  · intro sel
    exact only other sel.1 sel.2
  · intro same
    subst same
    exact ⟨mem, holds⟩

section

variable {later : ρ → ρ → Prop} {before after : List ρ}

theorem forall₂_update (same : ∀ row, later row row)
    (changed : ∀ row ∈ rows, cond row = true → later row (change row)) :
    List.Forall₂ later rows (update cond change rows) := by
  unfold update
  rw [List.forall₂_map_right_iff, List.forall₂_same]
  intro row mem
  cases holds : cond row with
  | true => exact changed row mem holds
  | false => exact same row

theorem forall₂_trans {last : List ρ} (trans : ∀ a b c, later a b → later b c → later a c)
    (first : List.Forall₂ later before after) (snd : List.Forall₂ later after last) :
    List.Forall₂ later before last := by
  induction first generalizing last with
  | nil => exact snd
  | cons step _ ih =>
    cases snd with
    | cons step' rest => exact .cons (trans _ _ _ step step') (ih rest)

omit [DecidableEq κ] in
theorem map_eq_of_forall₂ (evolves : List.Forall₂ later before after)
    (same : ∀ old new, later old new → key new = key old) : after.map key = before.map key := by
  induction evolves with
  | nil => rfl
  | cons step _ ih => rw [List.map_cons, List.map_cons, same _ _ step, ih]

theorem exists_of_mem_after (evolves : List.Forall₂ later before after) (mem : row ∈ after) :
    ∃ old ∈ before, later old row := by
  induction evolves with
  | nil => cases mem
  | @cons old new before after step _ ih =>
    cases List.mem_cons.mp mem with
    | inl same =>
      subst same
      exact ⟨old, List.mem_cons_self, step⟩
    | inr rest =>
      obtain ⟨first, inRest, follows⟩ := ih rest
      exact ⟨first, List.mem_cons_of_mem _ inRest, follows⟩

theorem exists_of_mem_before (evolves : List.Forall₂ later before after) (mem : row ∈ before) :
    ∃ new ∈ after, later row new := by
  induction evolves with
  | nil => cases mem
  | @cons old new before after step _ ih =>
    cases List.mem_cons.mp mem with
    | inl same =>
      subst same
      exact ⟨new, List.mem_cons_self, step⟩
    | inr rest =>
      obtain ⟨last, inRest, follows⟩ := ih rest
      exact ⟨last, List.mem_cons_of_mem _ inRest, follows⟩

theorem find?_forall₂ (agrees : ∀ old new, later old new → cond new = cond old)
    (evolves : List.Forall₂ later before after) (found : before.find? cond = some row) :
    ∃ new, after.find? cond = some new ∧ later row new := by
  induction evolves with
  | nil => cases found
  | @cons old new before after step _ ih =>
    cases holds : cond old with
    | true =>
      rw [List.find?_cons_of_pos holds] at found
      cases found
      exact ⟨new, List.find?_cons_of_pos ((agrees _ new step).trans holds), step⟩
    | false =>
      rw [List.find?_cons_of_neg (by simp [holds])] at found
      have other : ¬cond new = true := by simp [agrees old new step, holds]
      rw [List.find?_cons_of_neg other]
      exact ih found

end

section

variable {ι σ : Type*} {owned : ρ → κ} {name : ρ → ι} {status : ρ → σ}

/-- The statuses of the rows of an owner, with the names of the rows. -/
def statusesOf (owned : ρ → κ) (name : ρ → ι) (status : ρ → σ) (owner : κ) (rows : List ρ) :
    List (ι × σ) :=
  (rows.filter (fun row => owned row = owner)).map (fun row => (name row, status row))

def settle [DecidableEq σ] (old new : σ) (statuses : List (ι × σ)) : List (ι × σ) :=
  statuses.map (fun entry => (entry.1, if entry.2 = old then new else entry.2))

theorem settle_eq_self [DecidableEq σ] {old new : σ} {statuses : List (ι × σ)}
    (none : ∀ entry ∈ statuses, entry.2 ≠ old) : settle old new statuses = statuses := by
  unfold settle
  rw [List.map_congr_left (fun entry mem => by rw [if_neg (none entry mem)]), List.map_id']

theorem ne_of_mem_settle [DecidableEq σ] {old new : σ} {statuses : List (ι × σ)} {entry : ι × σ}
    (dist : new ≠ old) (mem : entry ∈ settle old new statuses) : entry.2 ≠ old := by
  obtain ⟨before, -, rfl⟩ := List.mem_map.mp mem
  split
  · exact dist
  · assumption

theorem mem_statusesOf (mem : row ∈ rows) :
    (name row, status row) ∈ statusesOf owned name status (owned row) rows :=
  List.mem_map.mpr ⟨row, List.mem_filter.mpr ⟨mem, by simp⟩, rfl⟩

theorem statusesOf_update_of_ne {owner : κ}
    (others : ∀ row, cond row = true → owned row ≠ owner)
    (keeps : ∀ row, owned (change row) = owned row) :
    statusesOf owned name status owner (update cond change rows) =
      statusesOf owned name status owner rows := by
  unfold statusesOf update
  induction rows with
  | nil => rfl
  | cons row rows ih =>
    rw [List.map_cons]
    by_cases holds : cond row = true
    · rw [if_pos holds, List.filter_cons_of_neg (by simpa [keeps] using others row holds),
        List.filter_cons_of_neg (by simpa using others row holds), ih]
    · rw [if_neg holds, List.filter_cons, List.filter_cons]
      split
      · rw [List.map_cons, List.map_cons, ih]
      · exact ih

theorem statusesOf_update [DecidableEq σ] {owner : κ} {old new : σ}
    (selects : ∀ row, owned row = owner → (cond row = true ↔ status row = old))
    (keeps : ∀ row, owned (change row) = owned row ∧ name (change row) = name row ∧
      status (change row) = new) :
    statusesOf owned name status owner (update cond change rows) =
      settle old new (statusesOf owned name status owner rows) := by
  unfold statusesOf settle update
  induction rows with
  | nil => rfl
  | cons row rows ih =>
    rw [List.map_cons]
    have same : owned (if cond row = true then change row else row) = owned row := by
      split
      · exact (keeps row).1
      · rfl
    by_cases isOwned : owned row = owner
    · rw [List.filter_cons_of_pos (by simpa using same.trans isOwned),
        List.filter_cons_of_pos (by simpa using isOwned), List.map_cons, List.map_cons,
        List.map_cons, ih]
      congr 1
      by_cases holds : cond row = true
      · rw [if_pos holds, if_pos ((selects row isOwned).mp holds), (keeps row).2.1, (keeps row).2.2]
      · rw [if_neg holds, if_neg (fun isOld => holds ((selects row isOwned).mpr isOld))]
    · rw [List.filter_cons_of_neg (by simpa [same] using isOwned),
        List.filter_cons_of_neg (by simpa using isOwned), ih]

/-- Giving some of the rows with a status another one first makes no difference. -/
theorem settle_statusesOf_update [DecidableEq σ] {owner : κ} {old new : σ} (dist : new ≠ old)
    (selects : ∀ row, cond row = true → status row = old)
    (keeps : ∀ row, owned (change row) = owned row ∧ name (change row) = name row ∧
      status (change row) = new) :
    settle old new (statusesOf owned name status owner (update cond change rows)) =
      settle old new (statusesOf owned name status owner rows) := by
  unfold statusesOf settle update
  induction rows with
  | nil => rfl
  | cons row rows ih =>
    rw [List.map_cons, List.filter_cons, List.filter_cons]
    by_cases holds : cond row = true
    · rw [if_pos holds, (keeps row).1]
      split
      · rw [List.map_cons, List.map_cons, List.map_cons, List.map_cons, ih, (keeps row).2.1,
          (keeps row).2.2, if_neg dist, if_pos (selects row holds)]
      · exact ih
    · rw [if_neg holds]
      split
      · rw [List.map_cons, List.map_cons, List.map_cons, List.map_cons, ih]
      · exact ih

end

def total (key : ρ → κ) (k : κ) (amount : ρ → Nat) (rows : List ρ) : Nat :=
  ((rows.filter (fun row => key row = k)).map amount).sum

variable {amount : ρ → Nat}

theorem total_append_of_eq (same : key row = k) :
    total key k amount (rows ++ [row]) = total key k amount rows + amount row := by
  simp [total, List.filter_append, same]

theorem total_append_of_ne (other : key row ≠ k) :
    total key k amount (rows ++ [row]) = total key k amount rows := by
  simp [total, List.filter_append, other]

theorem total_eq_zero (none : ∀ row ∈ rows, key row ≠ k) : total key k amount rows = 0 := by
  have empty : rows.filter (fun row => key row = k) = [] := by simpa using none
  rw [total, empty]
  rfl

end VisionForge.Lib.Table
