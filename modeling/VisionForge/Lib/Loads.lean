import Mathlib.Data.List.Nodup
import VisionForge.Lib.Table

/-! # Loads of tables

Each row of a table has a weight, and the load is the sum of them. A program that keeps
the load beside the table takes off what it erases and puts on what it adds. The order of
the rows does not matter, only that their keys are distinct.
-/

namespace VisionForge.Lib.Loads

open Table

universe u v

variable {ρ : Type u} {κ : Type v} {key : ρ → κ} {weight : ρ → Nat} {rows rows' : List ρ}
  {row : ρ} {k : κ}

def load (weight : ρ → Nat) (rows : List ρ) : Nat := (rows.map weight).sum

@[simp] theorem load_nil : load weight ([] : List ρ) = 0 := rfl

@[simp] theorem load_cons : load weight (row :: rows) = weight row + load weight rows := by
  simp [load]

@[simp] theorem load_append : load weight (rows ++ rows') = load weight rows + load weight rows' := by
  simp [load]

theorem load_perm (same : rows.Perm rows') : load weight rows = load weight rows' :=
  (same.map weight).sum_eq

theorem load_map {σ : Type*} (f : σ → ρ) (rows : List σ) :
    load weight (rows.map f) = load (fun row => weight (f row)) rows := by
  simp [load, Function.comp_def]

/-- What meets a condition and what does not make up the whole. -/
theorem load_split (weight : ρ → Nat) (cond : ρ → Bool) (rows : List ρ) :
    load weight rows = load weight (rows.filter cond) + load weight (rows.filter (!cond ·)) := by
  rw [← load_append]
  exact load_perm (List.filter_append_perm cond rows).symm

theorem load_filter_le (weight : ρ → Nat) (cond : ρ → Bool) (rows : List ρ) :
    load weight (rows.filter cond) ≤ load weight rows := by
  have split := load_split weight cond rows
  omega

section

variable [DecidableEq κ]

theorem filter_key (dist : (rows.map key).Nodup) (found : lookup key k rows = some row) :
    rows.filter (fun row => decide (key row = k)) = [row] := by
  obtain ⟨member, same⟩ := lookup_key found
  apply filter_eq_singleton (List.Nodup.of_map key dist) member (by simpa using same)
  intro other hin sel
  exact List.inj_on_of_nodup_map dist hin member (by simpa [same] using sel)

theorem filter_key_none (missing : lookup key k rows = none) :
    rows.filter (fun row => decide (key row = k)) = [] := by
  rw [List.filter_eq_nil_iff]
  intro row mem
  simpa using List.find?_eq_none.mp missing row mem

theorem lookup_perm (same : rows.Perm rows') (dist : (rows.map key).Nodup) :
    lookup key k rows = lookup key k rows' := by
  cases found : lookup key k rows with
  | none =>
    symm
    apply List.find?_eq_none.mpr
    intro row member
    exact List.find?_eq_none.mp found row (same.mem_iff.mpr member)
  | some row =>
    obtain ⟨member, rfl⟩ := lookup_key found
    exact (lookup_of_mem ((same.map key).nodup_iff.mp dist) (same.mem_iff.mp member)).symm

omit [DecidableEq κ] in
theorem distinct_filter (dist : (rows.map key).Nodup) (cond : ρ → Bool) :
    ((rows.filter cond).map key).Nodup :=
  (List.filter_sublist.map key).nodup dist

theorem lookup_filter {cond : ρ → Bool} (dist : (rows.map key).Nodup)
    (found : lookup key k rows = some row) (holds : cond row = true) :
    lookup key k (rows.filter cond) = some row := by
  obtain ⟨member, rfl⟩ := lookup_key found
  exact lookup_of_mem (distinct_filter dist cond) (List.mem_filter.mpr ⟨member, holds⟩)

theorem load_update (weight : ρ → Nat) {change : ρ → ρ} (dist : (rows.map key).Nodup)
    (found : lookup key k rows = some row) :
    load weight (update (fun row => decide (key row = k)) change rows) + weight row =
      load weight rows + weight (change row) := by
  have split := load_split weight (fun row => decide (key row = k)) rows
  rw [filter_key dist found] at split
  have changed : load weight (update (fun row => decide (key row = k)) change rows) =
      load (fun row => weight (if decide (key row = k) = true then change row else row)) rows := load_map _ _
  have splitChanged := load_split
    (fun row => weight (if decide (key row = k) = true then change row else row)) (fun row => decide (key row = k)) rows
  have rest : load (fun row => weight (if decide (key row = k) = true then change row else row))
      (rows.filter (fun row => !decide (key row = k))) =
        load weight (rows.filter (fun row => !decide (key row = k))) := by
    apply congrArg List.sum
    apply List.map_congr_left
    intro other mem
    have kept : decide (key other = k) = false := by simpa using (List.mem_filter.mp mem).2
    simp [kept]
  rw [filter_key dist found, rest] at splitChanged
  have sel : decide (key row = k) = true := by simpa using (lookup_key found).2
  simp only [load_cons, load_nil, sel, if_true] at split splitChanged
  omega

end

end VisionForge.Lib.Loads
