import Mathlib.Algebra.Order.Ring.Int
import Mathlib.Tactic.Common

/-! # Signed 64-bit arithmetic

Numbers are integers; plain operators wrap around, exact ones fail instead.
-/

namespace VisionForge.Lib.Long

def Fits (value : Int) : Prop := -2 ^ 63 ≤ value ∧ value < 2 ^ 63

instance (value : Int) : Decidable (Fits value) :=
  inferInstanceAs (Decidable (_ ∧ _))

def wrap (value : Int) : Int := value.bmod (2 ^ 64)

def exact (value : Int) : Option Int := if Fits value then some value else none

def addExact (a b : Int) : Option Int := exact (a + b)

def subtractExact (a b : Int) : Option Int := exact (a - b)

def multiplyExact (a b : Int) : Option Int := exact (a * b)

theorem wrap_of_fits {value : Int} (h : Fits value) : wrap value = value := by
  obtain ⟨low, high⟩ := h
  dsimp only [wrap, Int.bmod]
  split <;> omega

theorem exact_eq_some {value res : Int} : exact value = some res ↔ Fits value ∧ value = res := by
  unfold Long.exact
  by_cases fits : Fits value
  · simp [fits]
  · simp [fits]

end VisionForge.Lib.Long
