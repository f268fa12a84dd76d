import ActionGraph.Proofs.Clock.Seconds
import ActionGraph.Proofs.Float.Units

/-!
# Spending time

When some time is spent of another, at least nothing is left, whatever was spent: what is negative
or no number at all counts as nothing. A clock may round what is left; it is fit for a budget if it
rounds so that no time is gained (`NeverGains`). Seconds in floating point are, since a difference
is rounded to a number of the format, and what was there before is one.
-/

namespace ActionGraph

open Float.Model (Format UnpackedFloat)
open Clock (exactly)

/-! ### Differences in floating point -/

namespace Magnitude

variable {spec : Format}

/-- What is a number and not below zero. -/
def IsAmount (x : UnpackedFloat) : Prop := (∃ sign, x = .zero sign) ∨ IsPositive x

theorem IsPositive.cases {x : UnpackedFloat} (h : IsPositive x) :
    x = .infinity .positive ∨ ∃ m e hpos, x = .finite .positive m e hpos := by
  cases x with
  | notANumber | zero => cases h
  | infinity sign =>
    cases sign with
    | positive => exact .inl rfl
    | negative => cases h
  | finite sign m e hpos =>
    cases sign with
    | positive => exact .inr ⟨m, e, hpos, rfl⟩
    | negative => cases h

theorem not_isPositive_round (spec : Format) (m : ℕ) (e : ℤ) :
    ¬IsPositive (UnpackedFloat.round spec .negative m e) := by
  rw [UnpackedFloat.round]
  dsimp only
  rw [Float.Model.UnpackedFloat.roundWithAccuracy]
  dsimp only
  split <;> exact Bool.false_ne_true

/-- A number of the format, with its exponent in range, that does not go beyond `r`. -/
structure IsWithin (spec : Format) (bound : ℤ) (r : ℚ) (x : UnpackedFloat) : Prop where
  isCanonical : IsCanonical spec x
  atMost : AtMost bound x
  exactly_le : exactly x ≤ r

variable {m m' : ℕ} {e e' bound : ℤ}

theorem isWithin_round (hpos : 0 < m) (h' : IsNormal spec m' e') (hbound : e' ≤ bound)
    (hle : (m : ℚ) * 2 ^ e ≤ m' * 2 ^ e') :
    IsWithin spec bound (m' * 2 ^ e') (UnpackedFloat.round spec .positive m e) := by
  have hrounded := exactly_round_le hpos h' hle
  obtain ⟨n, -, hexactly, hfinite, hcanonical⟩ := exists_round spec hpos e
  refine ⟨hcanonical, ?_, hrounded⟩
  have hnonneg : 0 ≤ exactly (UnpackedFloat.round spec .positive m e) := by
    rw [hexactly]
    exact mul_nonneg n.cast_nonneg (zpow_nonneg zero_le_two _)
  cases hround : UnpackedFloat.round spec .positive m e with
  | zero sign => trivial
  | infinity | notANumber =>
    rw [hround] at hfinite
    cases hfinite
  | finite sign k f hk =>
    rw [hround] at hrounded hcanonical hnonneg
    cases sign with
    | positive => exact (IsNormal.exponent_le hcanonical h' hrounded).trans hbound
    | negative => exact absurd (exactly_neg hk) hnonneg.not_gt

theorem isWithin_normalize {d : ℤ} (h' : IsNormal spec m' e') (hbound : e' ≤ bound)
    (hle : (d : ℚ) * 2 ^ e ≤ m' * 2 ^ e')
    (hpos : IsPositive (UnpackedFloat.normalize spec d e .positive)) :
    IsWithin spec bound (m' * 2 ^ e') (UnpackedFloat.normalize spec d e .positive) := by
  rw [UnpackedFloat.normalize] at hpos ⊢
  rcases lt_trichotomy d 0 with hneg | rfl | hd
  · rw [compare_lt_iff_lt.2 hneg] at hpos
    exact absurd hpos (not_isPositive_round spec _ e)
  · cases hpos
  · rw [compare_gt_iff_gt.2 hd]
    lift d to ℕ using hd.le
    exact isWithin_round (Int.natCast_pos.1 hd) h' hbound hle

/-- What is left of a number when another is taken from it, if there is anything left. -/
theorem isWithin_sub {x y : UnpackedFloat} (hcanonical : IsCanonical spec x)
    (hbound : AtMost bound x) (hx : IsAmount x) (hy : IsAmount y)
    (hpos : IsPositive (UnpackedFloat.sub spec x y)) :
    IsWithin spec bound (exactly x) (UnpackedFloat.sub spec x y) := by
  rcases hx with ⟨sign, rfl⟩ | hx
  · -- Nothing can be taken from nothing.
    rcases hy with ⟨sign', rfl⟩ | hy
    · cases sign <;> cases sign' <;> cases hpos
    · rcases hy.cases with rfl | ⟨m', e', hm', rfl⟩ <;> cases hpos
  · rcases hx.cases with rfl | ⟨m, e, hm, rfl⟩
    · exact hbound.elim
    · rcases hy with ⟨sign', rfl⟩ | hy
      · exact ⟨hcanonical, hbound, le_rfl⟩
      · rcases hy.cases with rfl | ⟨m', e', hm', rfl⟩
        · cases hpos
        · refine isWithin_normalize hcanonical hbound ?_ hpos
          have hle :
              (((m <<< (e - min e e').toNat : ℕ) - (m' <<< (e' - min e e').toNat : ℕ) : ℤ) : ℚ)
                ≤ m * 2 ^ (e - min e e').toNat := by
            rw [Nat.shiftLeft_eq]
            push_cast
            exact sub_le_self _ (Nat.cast_nonneg _)
          rw [zpow_eq_mul (min_le_left e e'), ← mul_assoc]
          exact mul_le_mul_of_nonneg_right hle (zpow_nonneg zero_le_two _)

end Magnitude

/-! ### What is left -/

namespace Clock

/-- What is left of a time when some of it is spent. -/
def leftover {τ : Type} [Clock τ] (time spent : τ) : τ := floor (sub time (floor spent))

/-- Whether no time is gained by spending, whatever is spent. -/
def NeverGains (τ : Type) [Clock τ] [Measure τ] : Prop :=
  ∀ time spent : τ, IsTime time →
    IsTime (leftover time spent) ∧ Measure.value (leftover time spent) ≤ Measure.value time

theorem unpack_sub (s t : Float32) :
    (sub s t).toModel.unpack = .unpack .binary32
      (UnpackedFloat.pack .binary32
        (UnpackedFloat.sub .binary32 s.toModel.unpack t.toModel.unpack)) := rfl

theorem floor_of_pos {t : Float32} (hpos : 0.0 < t) : floor t = t := if_pos hpos

theorem floor_of_not_pos {t : Float32} (hnone : ¬0.0 < t) : floor t = 0.0 := if_neg hnone

theorem isPositive_iff {t : Float32} : Magnitude.IsPositive t.toModel.unpack ↔ 0.0 < t := by
  rw [lt_iff_unpack, unpack_zero]
  rfl

theorem IsTime.isAmount {t : Float32} (ht : IsTime t) : Magnitude.IsAmount t.toModel.unpack := by
  rcases ht.unpack with hzero | ⟨m, e, hpos, hunpack⟩
  · exact .inl hzero
  · rw [hunpack]
    exact .inr rfl

theorem isAmount_floor (t : Float32) : Magnitude.IsAmount (floor t).toModel.unpack := by
  by_cases hpos : 0.0 < t
  · rw [floor_of_pos hpos]
    exact .inr (isPositive_iff.2 hpos)
  · rw [floor_of_not_pos hpos]
    exact .inl ⟨.positive, unpack_zero⟩

/-- **No time is gained by spending** in floating point, whatever is spent. -/
theorem neverGains_seconds : NeverGains Float32 := by
  intro time spent htime
  rw [leftover]
  by_cases hpos : 0.0 < sub time (floor spent)
  · rw [floor_of_pos hpos]
    have hcanonical : Magnitude.IsCanonical .binary32 time.toModel.unpack :=
      Magnitude.isCanonical_unpack _
    have hbound : Magnitude.AtMost (Magnitude.greatestExponent .binary32) time.toModel.unpack :=
      Magnitude.atMost_unpack (by decide) (isTime_iff_unpack.1 htime).1
    -- What is positive after it was packed was so before.
    have hsub : Magnitude.IsPositive
        (.sub .binary32 time.toModel.unpack (floor spent).toModel.unpack) := by
      by_contra hnot
      rw [← isPositive_iff, unpack_sub] at hpos
      exact Magnitude.not_isPositive_unpack_pack hnot hpos
    have hwithin :=
      Magnitude.isWithin_sub hcanonical hbound htime.isAmount (isAmount_floor spent) hsub
    have hunpack := (unpack_sub time (floor spent)).trans
      (Magnitude.unpack_pack hwithin.isCanonical hwithin.atMost)
    refine ⟨isTime_of_pos ?_ hpos, ?_⟩
    · change (sub time (floor spent)).toModel.unpack.isFinite = true
      rw [hunpack]
      exact hwithin.atMost.isFinite
    · change exactly (sub time (floor spent)).toModel.unpack ≤ exactly time.toModel.unpack
      rw [hunpack]
      exact hwithin.exactly_le
  · rw [floor_of_not_pos hpos]
    refine ⟨isTime_zero_seconds, ?_⟩
    exact (Measure.value_zero (τ := Float32)).trans_le (Measure.value_nonneg htime)

end Clock

end ActionGraph
