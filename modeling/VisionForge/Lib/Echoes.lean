import VisionForge.Lib.Histories

/-! # Echoes

A line of items holds originals and echoes. An echo wants an original before it that is not older
than the echo is. An echo may always leave the line, and an original may leave it in favour of the
next item, if that is an original and no older.
-/

namespace VisionForge.Lib.Echoes

open Histories

universe u

variable {α : Type u} (echo : α → Bool) (age : α → Nat)

def Original (line : List α) (least : Nat) : Prop :=
  ∃ item ∈ line, echo item = false ∧ least ≤ age item

/-- Every echo has its original before it. -/
def Told (line : List α) : Prop :=
  Each (fun before item => echo item = true → Original echo age before (age item)) line

def Replaceable (item : α) (back : List α) : Prop :=
  echo item = true ∨ ∃ next ∈ back.head?, echo next = false ∧ age item ≤ age next

variable {echo age} {front back line : List α} {item : α} {least : Nat}

theorem Original.append_left (found : Original echo age front least) :
    Original echo age (front ++ back) least := by
  obtain ⟨original, mem, isOriginal, enough⟩ := found
  exact ⟨original, List.mem_append_left back mem, isOriginal, enough⟩

/-- An original can be missed if it is replaced. -/
theorem Original.drop (found : Original echo age (front ++ item :: back) least)
    (replaceable : Replaceable echo age item back) : Original echo age (front ++ back) least := by
  obtain ⟨original, mem, isOriginal, enough⟩ := found
  simp only [List.mem_append, List.mem_cons] at mem
  rcases mem with inFront | rfl | inBack
  · exact ⟨original, List.mem_append_left back inFront, isOriginal, enough⟩
  · rcases replaceable with isEcho | ⟨next, first, nextOriginal, younger⟩
    · simp [isOriginal] at isEcho
    · have inBack : next ∈ back := List.mem_of_mem_head? first
      exact ⟨next, List.mem_append_right front inBack, nextOriginal, Nat.le_trans enough younger⟩
  · exact ⟨original, List.mem_append_right front inBack, isOriginal, enough⟩

theorem told_nil : Told echo age ([] : List α) := each_nil

/-- Another item has to be an original, or to find one. -/
theorem told_append :
    Told echo age (line ++ [item]) ↔
      Told echo age line ∧ (echo item = true → Original echo age line (age item)) := each_append

/-- Whatever is in the line, an original of its age is. -/
theorem Told.original (told : Told echo age line) (mem : item ∈ line) :
    Original echo age line (age item) := by
  obtain ⟨before, behind, rfl⟩ := List.append_of_mem mem
  cases isEcho : echo item with
  | true => exact (told before item behind rfl isEcho).append_left
  | false => exact ⟨item, mem, isEcho, Nat.le_refl _⟩

theorem Replaceable.of_append {last : α} (replaceable : Replaceable echo age item (back ++ [last]))
    (isEcho : echo last = true) : Replaceable echo age item back := by
  rcases replaceable with itemEcho | ⟨next, first, nextOriginal, younger⟩
  · exact .inl itemEcho
  · cases back with
    | nil =>
      simp only [List.nil_append, List.head?_cons, Option.mem_some_iff] at first
      simp [first, nextOriginal] at isEcho
    | cons snd back => exact .inr ⟨next, first, nextOriginal, younger⟩

/-- A line is as good without an item that is replaced. -/
theorem Told.drop (told : Told echo age (front ++ item :: back))
    (replaceable : Replaceable echo age item back) : Told echo age (front ++ back) := by
  induction back using List.reverseRecOn with
  | nil =>
    rw [List.append_nil]
    exact (told_append.mp told).1
  | append_singleton back last ih =>
    rw [← List.cons_append, ← List.append_assoc] at told
    rw [← List.append_assoc]
    obtain ⟨before, found⟩ := told_append.mp told
    have shorter : Told echo age (front ++ back) := by
      cases back with
      | nil =>
        rw [List.append_nil]
        exact (told_append.mp before).1
      | cons next back => exact ih before replaceable
    exact told_append.mpr ⟨shorter, fun isEcho => (found isEcho).drop (replaceable.of_append isEcho)⟩

end VisionForge.Lib.Echoes
