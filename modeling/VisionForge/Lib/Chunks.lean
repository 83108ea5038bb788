import Mathlib.Data.List.Basic
import Mathlib.Tactic.Common

/-! # A list in chunks of one size -/

namespace VisionForge.Lib.Chunks

universe u

variable {α : Type u}

def chunk (size : Nat) (items : List α) (index : Nat) : List α :=
  (items.drop (index * size)).take size

def chunks (size length : Nat) : Nat := (length + size - 1) / size

variable {size : Nat} {items : List α}

theorem length_chunk (index : Nat) :
    (chunk size items index).length = min size (items.length - index * size) := by
  unfold chunk
  rw [List.length_take, List.length_drop]

theorem lt_chunks_iff (pos : 0 < size) {index length : Nat} :
    index < chunks size length ↔ index * size < length := by
  unfold chunks
  rw [Nat.lt_iff_add_one_le, Nat.le_div_iff_mul_le pos, Nat.add_mul, Nat.one_mul]
  omega

theorem chunk_ne_nil (pos : 0 < size) {index : Nat}
    (hin : index < chunks size items.length) : chunk size items index ≠ [] := by
  rw [lt_chunks_iff pos] at hin
  intro empty
  have length := @length_chunk _ size items index
  rw [empty, List.length_nil] at length
  omega

theorem flatten_chunks (count : Nat) :
    ((List.range count).map (chunk size items)).flatten = items.take (count * size) := by
  induction count with
  | zero => simp
  | succ count ih =>
    rw [List.range_succ, List.map_append, List.flatten_append, ih, Nat.add_mul, Nat.one_mul,
      List.take_add]
    simp [chunk]

theorem flatten_all_chunks (pos : 0 < size) :
    ((List.range (chunks size items.length)).map (chunk size items)).flatten = items := by
  rw [flatten_chunks, List.take_of_length_le]
  by_contra short
  have hin := (lt_chunks_iff pos).mpr (Nat.not_le.mp short)
  exact Nat.lt_irrefl _ hin

end VisionForge.Lib.Chunks
