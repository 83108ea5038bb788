import Mathlib.Data.Finset.Lattice.Fold
import Mathlib.Order.Lattice.Nat
import Mathlib.Tactic.Common

/-! # The law of a replay window

A window of a given size remembers a set of counters. It answers by the distance to
the highest one: too far below is too old, a remembered one is a duplicate. An
implementation keeps the highest counter and one flag for every distance.
-/

namespace VisionForge.Lib.ReplayLaw

inductive Verdict where
  | fresh
  | duplicate
  | tooOld
  deriving DecidableEq

def highest (committed : Finset Nat) : Nat := committed.sup id

def TooOld (size : Nat) (committed : Finset Nat) (ctr : Nat) : Prop :=
  committed.Nonempty ∧ ctr + size ≤ highest committed

instance (size : Nat) (committed : Finset Nat) (ctr : Nat) :
    Decidable (TooOld size committed ctr) :=
  inferInstanceAs (Decidable (_ ∧ _))

def verdict (size : Nat) (committed : Finset Nat) (ctr : Nat) : Verdict :=
  if TooOld size committed ctr then .tooOld
  else if ctr ∈ committed then .duplicate
  else .fresh

theorem le_highest {committed : Finset Nat} {ctr : Nat} (mem : ctr ∈ committed) :
    ctr ≤ highest committed :=
  Finset.le_sup (f := id) mem

theorem highest_insert (committed : Finset Nat) (ctr : Nat) :
    highest (insert ctr committed) = max ctr (highest committed) := by
  unfold highest
  rw [Finset.sup_insert, id_eq]

/-- What an implementation keeps of a set of counters: whether there are any, the
    highest, and a flag for each distance below the size. -/
structure Keeps (size : Nat) (committed : Finset Nat) (initialized : Bool) (top : Nat)
    (seen : Nat → Bool) : Prop where
  nonempty : initialized = true ↔ committed.Nonempty
  isTop : initialized = true → top = highest committed
  flags : ∀ distance < size, (seen distance = true ↔ distance ≤ top ∧ top - distance ∈ committed)

variable {size : Nat} {committed : Finset Nat} {top ctr : Nat} {seen : Nat → Bool}
  {initialized : Bool}

theorem keeps_empty (size top : Nat) : Keeps size ∅ false top (fun _ => false) where
  nonempty := by simp
  isTop := by simp
  flags := by simp

theorem not_mem_of_uninitialized (h : Keeps size committed false top seen) : committed = ∅ := by
  by_contra some
  have no := h.nonempty.mpr (Finset.nonempty_iff_ne_empty.mpr some)
  cases no

theorem Keeps.clear (h : Keeps size committed false top seen) {distance : Nat}
    (hin : distance < size) : seen distance = false := by
  by_contra set
  have mem := (h.flags distance hin).mp (Bool.not_eq_false _ ▸ set)
  rw [not_mem_of_uninitialized h] at mem
  simp at mem

theorem Keeps.fresh_uninitialized (h : Keeps size committed false top seen) (ctr : Nat) :
    verdict size committed ctr = .fresh := by
  rw [not_mem_of_uninitialized h]
  simp [verdict, TooOld]

theorem Keeps.fresh_above (h : Keeps size committed true top seen) (pos : 0 < size)
    (above : top < ctr) : verdict size committed ctr = .fresh := by
  have isTop := h.isTop rfl
  have young : ¬TooOld size committed ctr := by
    rintro ⟨-, low⟩
    omega
  have new : ctr ∉ committed := by
    intro mem
    have le := le_highest mem
    omega
  simp [verdict, young, new]

theorem Keeps.tooOld (h : Keeps size committed true top seen) (far : ctr + size ≤ top) :
    verdict size committed ctr = .tooOld := by
  have isTop := h.isTop rfl
  have old : TooOld size committed ctr := ⟨h.nonempty.mp rfl, by omega⟩
  simp [verdict, old]

/-- A counter inside the window is told by its flag. -/
theorem Keeps.inside (h : Keeps size committed true top seen) (below : ctr ≤ top)
    (near : top < ctr + size) :
    verdict size committed ctr = if seen (top - ctr) then .duplicate else .fresh := by
  have isTop := h.isTop rfl
  have young : ¬TooOld size committed ctr := by
    rintro ⟨-, low⟩
    omega
  have flag := h.flags (top - ctr) (by omega)
  rw [Nat.sub_sub_self below] at flag
  unfold verdict
  rw [if_neg young]
  by_cases mem : ctr ∈ committed
  · rw [if_pos mem, if_pos (flag.mpr ⟨by omega, mem⟩)]
  · have clear : ¬seen (top - ctr) = true := fun set => mem (flag.mp set).2
    rw [if_neg mem, if_neg clear]

theorem Keeps.first {later : Nat → Bool} (h : Keeps size committed false top seen)
    (flags : ∀ distance < size, later distance = decide (distance = 0)) :
    Keeps size (insert ctr committed) true ctr later where
  nonempty := by simp
  isTop := by
    intro _
    rw [highest_insert, not_mem_of_uninitialized h]
    simp [highest]
  flags := by
    intro distance hin
    rw [flags distance hin, not_mem_of_uninitialized h]
    simp only [decide_eq_true_eq, insert_empty_eq, Finset.mem_singleton]
    omega

theorem Keeps.fill {later : Nat → Bool} (h : Keeps size committed true top seen)
    (below : ctr ≤ top)
    (flags : ∀ distance < size, later distance = (seen distance || decide (distance = top - ctr))) :
    Keeps size (insert ctr committed) true top later where
  nonempty := by simp
  isTop := by
    intro _
    have isTop := h.isTop rfl
    rw [highest_insert]
    omega
  flags := by
    intro distance hin
    rw [flags distance hin, Bool.or_eq_true, h.flags distance hin, decide_eq_true_eq,
      Finset.mem_insert]
    constructor
    · rintro (⟨le, mem⟩ | same)
      · exact ⟨le, .inr mem⟩
      · exact ⟨by omega, .inl (by omega)⟩
    · rintro ⟨le, same | mem⟩
      · exact .inr (by omega)
      · exact .inl ⟨le, mem⟩

/-- A new highest counter moves every flag up. -/
theorem Keeps.advance {later : Nat → Bool} (h : Keeps size committed true top seen)
    (above : top < ctr)
    (flags : ∀ distance < size, later distance =
      ((decide (ctr - top ≤ distance) && seen (distance - (ctr - top))) ||
        decide (distance = 0))) :
    Keeps size (insert ctr committed) true ctr later where
  nonempty := by simp
  isTop := by
    intro _
    have isTop := h.isTop rfl
    rw [highest_insert]
    omega
  flags := by
    intro distance hin
    rw [flags distance hin, Bool.or_eq_true, Bool.and_eq_true, decide_eq_true_eq,
      decide_eq_true_eq, Finset.mem_insert]
    constructor
    · rintro (⟨le, set⟩ | rfl)
      · obtain ⟨low, mem⟩ := (h.flags _ (by omega)).mp set
        have same : top - (distance - (ctr - top)) = ctr - distance := by omega
        exact ⟨by omega, .inr (same ▸ mem)⟩
      · exact ⟨by omega, .inl (by omega)⟩
    · rintro ⟨le, same | mem⟩
      · exact .inr (by omega)
      · have isTop := h.isTop rfl
        have bounded := le_highest mem
        have same : ctr - distance = top - (distance - (ctr - top)) := by omega
        exact .inl ⟨by omega, (h.flags _ (by omega)).mpr ⟨by omega, same ▸ mem⟩⟩

inductive WindowOp (κ : Type) where
  | classify (counter : κ)
  | commit (counter : κ)
  deriving DecidableEq

inductive WindowAnswer where
  | verdict (verdict : Verdict)
  | committed (accepted : Bool)
  deriving DecidableEq

def addedCounter {κ : Type} (value : κ → Nat) : WindowOp κ × WindowAnswer → Option Nat
  | (.commit ctr, .committed true) => some (value ctr)
  | _ => none

def committedCounters {κ : Type} (value : κ → Nat) (history : List (WindowOp κ × WindowAnswer)) :
    Finset Nat :=
  (history.filterMap (addedCounter value)).toFinset

/-- The answers to a counter and the counters remembered after its commit. -/
structure Obeys (size : Nat) (committed : Finset Nat) (counter : Nat) (answer : Verdict)
    (accepted : Bool) (after : Finset Nat) : Prop where
  tooOld : answer = .tooOld ↔ committed.Nonempty ∧ counter + size ≤ highest committed
  duplicate : answer = .duplicate ↔ counter ∈ committed ∧ answer ≠ .tooOld
  fresh : answer = .fresh ↔ counter ∉ committed ∧ answer ≠ .tooOld
  accepts : accepted = true ↔ answer = .fresh
  remembers : after = if accepted then insert counter committed else committed

theorem obeys_verdict {after : Finset Nat} {ok : Bool}
    (isAccepted : ok = decide (verdict size committed ctr = .fresh))
    (isAfter : after = if ok then insert ctr committed else committed) :
    Obeys size committed ctr (verdict size committed ctr) ok after := by
  refine ⟨?_, ?_, ?_, by rw [isAccepted, decide_eq_true_eq], isAfter⟩
  · unfold verdict TooOld
    grind
  · unfold verdict TooOld
    grind
  · unfold verdict TooOld
    grind

end VisionForge.Lib.ReplayLaw
