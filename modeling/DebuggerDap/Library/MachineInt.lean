import Mathlib.Data.Int.DivMod
import Mathlib.Algebra.Order.Ring.Int

/-!
# Signed machine integers

A signed type of a machine holds the integers from `-half` to `half - 1`.
Conversion to it keeps the value modulo `2 * half`, and a saturating reader
stops at its ends.  Arithmetic on values that stay in the range is arithmetic
of integers.
-/

namespace DebuggerDap.Library.MachineInt

/-- The values of a signed type, given by the size of either half. -/
structure SignedRange where
  half : Nat
  room : 1 < half

namespace SignedRange

variable (range : SignedRange)

def min : Int :=
  -range.half

def max : Int :=
  range.half - 1

/-- The type holds the value. -/
def Contains (value : Int) : Prop :=
  range.min ≤ value ∧ value ≤ range.max

instance (value : Int) : Decidable (range.Contains value) :=
  inferInstanceAs (Decidable (range.min ≤ value ∧ value ≤ range.max))

/-- Conversion to the type. -/
def wrap (value : Int) : Int :=
  value.bmod (2 * range.half)

/-- The value, or the end of the range it lies beyond. -/
def clamp (value : Int) : Int :=
  if range.max < value then range.max
  else if value < range.min then range.min
  else value

variable {range}
variable {value : Int}

theorem contains_wrap (value : Int) : range.Contains (range.wrap value) := by
  have room := range.room
  have lower := Int.le_bmod (x := value) (m := 2 * range.half) (by omega)
  have upper := Int.bmod_lt (x := value) (m := 2 * range.half) (by omega)
  simp only [Contains, min, max, wrap]
  omega

/-- A value the type holds is converted to itself. -/
theorem wrap_of_contains (contains : range.Contains value) :
    range.wrap value = value := by
  simp only [Contains, min, max] at contains
  apply Int.bmod_eq_of_le <;> omega

/-- The conversion does not make a number that is not negative larger. -/
theorem wrap_le (nonneg : 0 ≤ value) : range.wrap value ≤ value := by
  by_cases contains : range.Contains value
  · rw [wrap_of_contains contains]
  · have upper : range.wrap value ≤ range.max := (contains_wrap value).2
    simp only [Contains, min] at contains
    omega

/-- Saturation does not change whether a number is positive. -/
theorem clamp_pos_iff (value : Int) :
    0 < range.clamp value ↔ 0 < value := by
  have room := range.room
  by_cases large : range.max < value
  · rw [clamp, if_pos large]
    simp only [max] at large ⊢
    omega
  · by_cases small : value < range.min
    · rw [clamp, if_neg large, if_pos small]
      simp only [min] at small ⊢
      omega
    · rw [clamp, if_neg large, if_neg small]

/-- A positive number that is not too large is read as it is. -/
theorem clamp_of_pos
    (positive : 0 < value)
    (small : value ≤ range.max) :
    range.clamp value = value := by
  have room := range.room
  rw [clamp, if_neg (Int.not_lt.mpr small), if_neg]
  simp only [min]
  omega

/-- A number that is too large is read as the largest one. -/
theorem clamp_of_large (large : range.max < value) :
    range.clamp value = range.max :=
  if_pos large

/-- What saturation does, by the place of the value. -/
theorem clamp_cases (value : Int) :
    range.max < value ∧ range.clamp value = range.max ∨
      value < range.min ∧ range.clamp value = range.min ∨
      range.Contains value ∧ range.clamp value = value := by
  by_cases large : range.max < value
  · exact .inl ⟨large, if_pos large⟩
  · by_cases small : value < range.min
    · exact .inr (.inl ⟨small, (if_neg large).trans (if_pos small)⟩)
    · refine .inr (.inr ⟨⟨?_, ?_⟩, (if_neg large).trans (if_neg small)⟩)
      · exact Int.not_lt.mp small
      · exact Int.not_lt.mp large

/-- Saturation does not lead to a value next to zero. -/
theorem clamp_eq_neg_one_iff (value : Int) :
    range.clamp value = -1 ↔ value = -1 := by
  have room := range.room
  have cases := @clamp_cases range value
  simp only [Contains, min, max] at cases
  omega

/-- A number that is not negative is kept if it is not too large. -/
theorem clamp_eq_self_iff (nonneg : 0 ≤ value) :
    range.clamp value = value ↔ value ≤ range.max := by
  have room := range.room
  have cases := @clamp_cases range value
  simp only [Contains, min, max] at cases ⊢
  omega

end SignedRange

end DebuggerDap.Library.MachineInt
