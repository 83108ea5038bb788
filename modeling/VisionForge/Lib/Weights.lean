import Mathlib.Algebra.GroupWithZero.Nat
import Mathlib.Data.List.AList
import Mathlib.Tactic.Common

/-! # Totals over an association list -/

namespace VisionForge.Lib.Weights

universe u v

variable {κ : Type u} {α : Type v} [DecidableEq κ]

def total (weight : α → Nat) (map : AList (fun _ : κ => α)) : Nat :=
  (map.entries.map (fun entry => weight entry.2)).sum

variable {weight : α → Nat} {map : AList (fun _ : κ => α)} {key : κ} {value : α}

theorem mem_entries_of_lookup (found : map.lookup key = some value) : ⟨key, value⟩ ∈ map.entries :=
  AList.mem_lookup_iff.mp found

theorem total_erase (found : map.lookup key = some value) :
    total weight map = weight value + total weight (map.erase key) := by
  have mem : key ∈ map.entries.keys := AList.lookup_isSome.mp (by rw [found]; rfl)
  obtain ⟨held, front, back, -, split, erased⟩ := List.exists_of_kerase mem
  have isHeld : held = value := by
    have hin : (⟨key, held⟩ : Sigma fun _ : κ => α) ∈ map.entries := by
      rw [split]
      exact List.mem_append_right _ List.mem_cons_self
    have again := AList.mem_lookup_iff.mpr hin
    rw [found] at again
    exact (Option.some.inj again).symm
  have erasedEntries : (map.erase key).entries = front ++ back := erased
  unfold total
  rw [erasedEntries, split, isHeld]
  simp only [List.map_append, List.map_cons, List.sum_append, List.sum_cons]
  omega

theorem total_insert : total weight (map.insert key value) =
    weight value + total weight (map.erase key) := by
  unfold total
  rfl

theorem erase_of_lookup_eq_none (missing : map.lookup key = none) : map.erase key = map := by
  apply AList.ext
  exact List.kerase_of_notMem_keys (AList.lookup_eq_none.mp missing)

theorem erase_insert : (map.insert key value).erase key = map.erase key := by
  apply AList.ext
  show (map.insert key value).entries.kerase key = map.entries.kerase key
  exact List.kerase_cons_eq rfl

omit [DecidableEq κ] in
theorem length_entries : map.entries.length = total (fun _ => 1) map := by
  unfold total
  simp

theorem mem_erase {entry : Sigma fun _ : κ => α} (mem : entry ∈ (map.erase key).entries) :
    entry ∈ map.entries :=
  (List.kerase_sublist key map.entries).subset mem

theorem mem_insert {entry : Sigma fun _ : κ => α}
    (mem : entry ∈ (map.insert key value).entries) :
    entry = ⟨key, value⟩ ∨ entry ∈ (map.erase key).entries := by
  rw [AList.entries_insert, List.mem_cons] at mem
  exact mem

end VisionForge.Lib.Weights
