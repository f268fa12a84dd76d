import ActionGraph.Clock
import Mathlib.Algebra.Order.Ring.Rat
import Mathlib.Data.Rat.Cast.Defs

/-!
# What times stand for

The times of a clock stand for rational numbers of seconds. A clock compares them as the numbers
compare, but it may round sums and differences. Which of them are exact is a matter of the times at
hand; with rational times all of them are.
-/

namespace ActionGraph

namespace Clock

/-- Whether a time can pass: it is finite and not negative. -/
def IsTime {τ : Type} [Clock τ] (t : τ) : Prop := isFinite t = true ∧ isNegative t = false

/-- A clock whose times stand for numbers of seconds. -/
class Measure (τ : Type) [Clock τ] where
  value : τ → ℚ
  isTime_zero : IsTime (zero : τ)
  value_zero : value zero = 0
  isTime_floor {t : τ} : isFinite t = true → IsTime (floor t)
  value_floor {t : τ} : IsTime t → value (floor t) = value t
  value_nonneg {t : τ} : IsTime t → 0 ≤ value t
  le_iff {s t : τ} : IsTime s → IsTime t → (le s t = true ↔ value s ≤ value t)

section

variable {τ : Type} [Clock τ]

/-- A frame time is admitted where it can pass. -/
theorem orZero_cases (t : τ) : IsTime t ∧ orZero t = t ∨ ¬IsTime t ∧ orZero t = zero := by
  rw [orZero, checkDelta]
  by_cases hrefused : (!isFinite t || isNegative t) = true
  · rw [if_pos hrefused]
    refine .inr ⟨fun ⟨hfinite, hnegative⟩ => ?_, rfl⟩
    simp [hfinite, hnegative] at hrefused
  · rw [if_neg hrefused]
    refine .inl ⟨?_, rfl⟩
    simpa [IsTime] using hrefused

theorem isTime_orZero [Measure τ] (t : τ) : IsTime (orZero t) := by
  rcases orZero_cases t with ⟨htime, heq⟩ | ⟨-, heq⟩
  · rw [heq]
    exact htime
  · rw [heq]
    exact Measure.isTime_zero

variable [Measure τ]

open Clock.Measure

/-- Whether the sum of two times is not rounded. -/
def IsExactSum (s t : τ) : Prop :=
  IsTime s → IsTime t → IsTime (add s t) ∧ value (add s t) = value s + value t

/-- Whether the difference of two times, of which the second is not longer, is not rounded. -/
def IsExactDifference (s t : τ) : Prop :=
  IsTime s → IsTime t → value t ≤ value s →
    IsTime (sub s t) ∧ value (sub s t) = value s - value t

end

/-! ### Rational times -/

/-- What a number in floating point stands for, if it is finite. -/
def exactly : Float.Model.UnpackedFloat → ℚ
  | .finite .positive mantissa exponent _ => mantissa * 2 ^ exponent
  | .finite .negative mantissa exponent _ => -(mantissa * 2 ^ exponent)
  | .zero _ | .infinity _ | .notANumber => 0

/-- Seconds as rational numbers. -/
instance : Clock ℚ where
  zero := 0
  add := (· + ·)
  sub := (· - ·)
  floor t := max t 0
  le s t := s ≤ t
  isFinite _ := true
  isNegative t := t < 0
  ofNumber
    | .integer i => i
    | .real x => exactly x.toModel.unpack
  text := toString

theorem isTime_iff {t : ℚ} : IsTime t ↔ 0 ≤ t := by
  simp [IsTime, isFinite, isNegative]

instance : Measure ℚ where
  value := id
  isTime_zero := isTime_iff.2 (le_refl 0)
  value_zero := rfl
  isTime_floor _ := isTime_iff.2 (le_max_right _ _)
  value_floor ht := max_eq_left (isTime_iff.1 ht)
  value_nonneg ht := isTime_iff.1 ht
  le_iff _ _ := by simp [le]

theorem isExactSum_rat (s t : ℚ) : IsExactSum s t := fun hs ht =>
  ⟨isTime_iff.2 (add_nonneg (isTime_iff.1 hs) (isTime_iff.1 ht)), rfl⟩

theorem isExactDifference_rat (s t : ℚ) : IsExactDifference s t := fun _ _ hle =>
  ⟨isTime_iff.2 (sub_nonneg.2 hle), rfl⟩

end Clock

end ActionGraph
