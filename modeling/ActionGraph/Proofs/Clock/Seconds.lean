import ActionGraph.Proofs.Float.Order
import Mathlib

/-!
# Seconds in floating point

Seconds of 32 bits compare as the numbers that they stand for. So what holds of the players of every
clock with a measure holds of one that runs on these seconds, where its sums and differences are
exact.
-/

namespace ActionGraph.Clock

open Float.Model (UnpackedFloat)

theorem unpack_zero : (0.0 : Float32).toModel.unpack = .zero .positive := rfl

theorem lt_iff_unpack {s t : Float32} :
    s < t ↔ s.toModel.unpack.lt t.toModel.unpack = true := by
  change decide (s.toModel < t.toModel) = true ↔ _
  rw [decide_eq_true_iff]
  rfl

theorem le_iff_unpack {s t : Float32} :
    s ≤ t ↔ s.toModel.unpack.le t.toModel.unpack = true := by
  change decide (s.toModel ≤ t.toModel) = true ↔ _
  rw [decide_eq_true_iff]
  rfl

variable {s t : Float32}

theorem isTime_seconds_iff : IsTime t ↔ t.isFinite = true ∧ ¬t < 0.0 :=
  and_congr_right fun _ => decide_eq_false_iff_not

theorem isTime_iff_unpack :
    IsTime t ↔ t.toModel.unpack.isFinite = true ∧
      ¬t.toModel.unpack.lt (.zero .positive) = true := by
  rw [isTime_seconds_iff, lt_iff_unpack, unpack_zero]
  rfl

/-- A time in floating point is a zero or a positive number. -/
theorem IsTime.unpack (h : IsTime t) :
    (∃ sign, t.toModel.unpack = .zero sign) ∨
      ∃ m e hpos, t.toModel.unpack = .finite .positive m e hpos := by
  obtain ⟨hfinite, hnegative⟩ := isTime_iff_unpack.1 h
  cases hunpack : t.toModel.unpack with
  | zero sign => exact .inl ⟨sign, rfl⟩
  | finite sign m e hpos =>
    cases sign with
    | positive => exact .inr ⟨m, e, hpos, rfl⟩
    | negative => simp [hunpack, UnpackedFloat.lt, UnpackedFloat.compare] at hnegative
  | infinity sign => simp [hunpack, UnpackedFloat.isFinite] at hfinite
  | notANumber => simp [hunpack, UnpackedFloat.isFinite] at hfinite

theorem isTime_zero_seconds : IsTime (0.0 : Float32) := by
  rw [isTime_iff_unpack, unpack_zero]
  decide

theorem isTime_of_pos (hfinite : isFinite t = true) (hpos : 0.0 < t) : IsTime t := by
  rw [isTime_iff_unpack]
  refine ⟨hfinite, fun hnegative => ?_⟩
  rw [lt_iff_unpack, unpack_zero] at hpos
  cases hunpack : t.toModel.unpack with
  | zero sign => simp [hunpack, UnpackedFloat.lt, UnpackedFloat.compare] at hpos
  | finite sign m e hm =>
    cases sign <;> simp [hunpack, UnpackedFloat.lt, UnpackedFloat.compare] at hpos hnegative
  | infinity sign =>
    cases sign <;> simp [hunpack, UnpackedFloat.lt, UnpackedFloat.compare] at hpos hnegative
  | notANumber => simp [hunpack, UnpackedFloat.lt, UnpackedFloat.compare] at hpos

theorem exactly_eq_zero (h : IsTime t) (hzero : ¬0.0 < t) : exactly t.toModel.unpack = 0 := by
  rcases h.unpack with ⟨sign, hunpack⟩ | ⟨m, e, hpos, hunpack⟩
  · rw [hunpack, exactly]
  · rw [lt_iff_unpack, unpack_zero, hunpack] at hzero
    exact absurd rfl hzero

theorem exactly_nonneg (h : IsTime t) : 0 ≤ exactly t.toModel.unpack := by
  rcases h.unpack with ⟨sign, hunpack⟩ | ⟨m, e, hpos, hunpack⟩
  · rw [hunpack, exactly]
  · rw [hunpack]
    exact (Magnitude.exactly_pos hpos).le

theorem IsTime.isNaN_eq_false (h : IsTime t) : t.isNaN = false := by
  change t.toModel.unpack.isNaN = false
  rcases h.unpack with ⟨sign, hunpack⟩ | ⟨m, e, hpos, hunpack⟩ <;> rw [hunpack] <;> rfl

theorem compare_eq_cmp_exactly (hs : IsTime s) (ht : IsTime t) :
    s.toModel.unpack.compare t.toModel.unpack
      = some (cmp (exactly s.toModel.unpack) (exactly t.toModel.unpack)) := by
  have hcanonical (t : Float32) : Magnitude.IsCanonical .binary32 t.toModel.unpack :=
    Magnitude.isCanonical_unpack _
  rw [← Magnitude.cmp_coe]
  exact Magnitude.compare_eq_cmp (hcanonical s) (hcanonical t)
    (Magnitude.place?_of_isFinite (isTime_iff_unpack.1 hs).1)
    (Magnitude.place?_of_isFinite (isTime_iff_unpack.1 ht).1)

theorem le_iff_exactly (hs : IsTime s) (ht : IsTime t) :
    s ≤ t ↔ exactly s.toModel.unpack ≤ exactly t.toModel.unpack := by
  rw [le_iff_unpack, UnpackedFloat.le, compare_eq_cmp_exactly hs ht, Option.any_some,
    ← Ordering.ne_gt_iff_isLE, cmp_eq_gt_iff, not_lt]

theorem beq_iff_exactly (hs : IsTime s) (ht : IsTime t) :
    (s == t) = true ↔ exactly s.toModel.unpack = exactly t.toModel.unpack := by
  change (s.toModel.unpack.compare t.toModel.unpack == some .eq) = true ↔ _
  rw [compare_eq_cmp_exactly hs ht, beq_iff_eq, Option.some_inj, cmp_eq_eq_iff]

instance : Measure Float32 where
  value t := exactly t.toModel.unpack
  isTime_zero := isTime_zero_seconds
  value_zero := exactly_eq_zero isTime_zero_seconds (by decide)
  isTime_floor {t} hfinite := by
    change IsTime (if 0.0 < t then t else 0.0)
    split
    · rename_i hpos
      exact isTime_of_pos hfinite hpos
    · exact isTime_zero_seconds
  value_floor {t} ht := by
    change exactly (if 0.0 < t then t else 0.0 : Float32).toModel.unpack = _
    split
    · rfl
    · rename_i hzero
      rw [exactly_eq_zero ht hzero, unpack_zero, exactly]
  value_nonneg := exactly_nonneg
  le_iff hs ht := decide_eq_true_iff.trans (le_iff_exactly hs ht)

end ActionGraph.Clock
