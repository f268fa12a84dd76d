import ActionGraph.Comparison
import ActionGraph.Proofs.Clock.Measure
import Mathlib

/-!
# The order of numbers in floating point

A number in floating point that is a number at all has its place on a line: it stands for a rational
number, or for one of two infinities. It is compared by sign, exponent and mantissa, in this order.
That comes to the same as comparing places, because mantissas are normalized: the first bit is set,
unless the exponent is the least one (`IsNormal`).
-/

namespace ActionGraph.Magnitude

open Float.Model (Format UnpackedFloat)
open Float.Model.UnpackedFloat (Sign)
open Clock (exactly)

structure IsNormal (spec : Format) (mantissa : ℕ) (exponent : ℤ) : Prop where
  mantissa_lt : mantissa < 2 ^ spec.mantissaBits
  le_exponent : spec.minExponent ≤ exponent
  le_mantissa : spec.minExponent < exponent → 2 ^ spec.mantissaBitsWithoutImplicit ≤ mantissa

variable {spec : Format} {m m' : ℕ} {e e' : ℤ}

theorem minExponent_eq (spec : Format) :
    spec.minExponent = 1 - (spec.exponentBias + spec.mantissaBitsWithoutImplicit : ℤ) := by
  have hpos := Nat.two_pow_pos (spec.exponentBits - 1)
  rw [Format.minExponent, Format.exponentBias, Format.mantissaBits, Nat.cast_sub hpos]
  push_cast
  ring

theorem isNormal_of_unpack {b : BitVec spec.numBits} {sign : Sign} {hpos : 0 < m}
    (h : UnpackedFloat.unpack spec b = .finite sign m e hpos) : IsNormal spec m e := by
  have hleast := minExponent_eq spec
  have hbits : spec.mantissaBits = 1 + spec.mantissaBitsWithoutImplicit := rfl
  rw [UnpackedFloat.unpack] at h
  split at h
  · split at h <;> cases h
  · split at h
    · rename_i hzero
      split at h
      · cases h
      · obtain ⟨-, rfl, rfl⟩ := UnpackedFloat.finite.inj h
        have hshort : 2 ^ spec.mantissaBitsWithoutImplicit < 2 ^ spec.mantissaBits :=
          Nat.pow_lt_pow_right Nat.one_lt_two (by omega)
        have hexponent : (UnpackedFloat.unpackExponent b).toNat = 0 := by simp [hzero]
        exact ⟨Nat.lt_trans (BitVec.isLt _) hshort, by omega, fun hlt => by omega⟩
    · rename_i hnonzero
      obtain ⟨-, rfl, rfl⟩ := UnpackedFloat.finite.inj h
      have hexponent := BitVec.toNat_ne.1 hnonzero
      refine ⟨BitVec.isLt _, ?_, fun _ => ?_⟩
      · rw [BitVec.toNat_zero] at hexponent
        omega
      · have hfirst : (1#1).toNat <<< spec.mantissaBitsWithoutImplicit
            = 2 ^ spec.mantissaBitsWithoutImplicit := Nat.one_shiftLeft _
        rw [BitVec.toNat_append, hfirst]
        exact Nat.left_le_or

/-! ### Comparison -/

theorem mul_zpow_lt {k : ℕ} (hm : m < 2 ^ (1 + k)) (hm' : 2 ^ k ≤ m') (hlt : e < e') :
    (m : ℚ) * 2 ^ e < m' * 2 ^ e' := by
  have hcast : (m : ℚ) < 2 ^ (1 + k) := by exact_mod_cast hm
  have hcast' : (2 ^ k : ℚ) ≤ m' := by exact_mod_cast hm'
  calc (m : ℚ) * 2 ^ e < 2 ^ (1 + k) * 2 ^ e := mul_lt_mul_of_pos_right hcast (zpow_pos two_pos e)
    _ = 2 ^ k * 2 ^ (e + 1) := by rw [zpow_add_one₀ two_ne_zero]; ring
    _ ≤ 2 ^ k * 2 ^ e' :=
      mul_le_mul_of_nonneg_left (zpow_le_zpow_right₀ one_le_two hlt) (by positivity)
    _ ≤ m' * 2 ^ e' := mul_le_mul_of_nonneg_right hcast' (zpow_nonneg zero_le_two e')

theorem IsNormal.cmp_eq (h : IsNormal spec m e) (h' : IsNormal spec m' e') :
    cmp ((m : ℚ) * 2 ^ e) (m' * 2 ^ e') = (compare e e').then (compare m m') := by
  rcases lt_trichotomy e e' with hlt | rfl | hgt
  · rw [compare_lt_iff_lt.2 hlt]
    exact (cmp_eq_lt_iff _ _).2
      (mul_zpow_lt h.mantissa_lt (h'.le_mantissa (h.le_exponent.trans_lt hlt)) hlt)
  · rw [compare_eq_iff_eq.2 rfl, cmp_mul_pos_right (zpow_pos two_pos e)]
    exact (Nat.strictMono_cast.cmp_map_eq m m').trans (cmp_eq_compare m m')
  · rw [compare_gt_iff_gt.2 hgt]
    exact (cmp_eq_gt_iff _ _).2
      (mul_zpow_lt h'.mantissa_lt (h.le_mantissa (h'.le_exponent.trans_lt hgt)) hgt)

/-- The rational numbers, between two infinities. -/
abbrev Line := WithBot (WithTop ℚ)

/-- Where a number in floating point lies, if it is a number. -/
def place? : UnpackedFloat → Option Line
  | .notANumber => none
  | .infinity .negative => some ⊥
  | .infinity .positive => some ⊤
  | .zero sign => some (exactly (.zero sign) : ℚ)
  | .finite sign m e hpos => some (exactly (.finite sign m e hpos) : ℚ)

variable {x y : UnpackedFloat} {p q : Line}

theorem place?_of_isFinite (h : x.isFinite = true) : place? x = some ((exactly x : ℚ) : Line) := by
  cases x with
  | zero | finite => rfl
  | infinity | notANumber => cases h

theorem strictMono_coe : StrictMono fun r : ℚ => (r : Line) := by
  intro r s hlt
  exact WithBot.coe_lt_coe.2 (WithTop.coe_lt_coe.2 hlt)

theorem cmp_coe (r s : ℚ) : cmp (r : Line) (s : Line) = cmp r s :=
  strictMono_coe.cmp_map_eq r s

theorem exactly_pos (hpos : 0 < m) : 0 < exactly (.finite .positive m e hpos) :=
  mul_pos (Nat.cast_pos.2 hpos) (zpow_pos two_pos e)

theorem exactly_neg (hpos : 0 < m) : exactly (.finite .negative m e hpos) < 0 :=
  neg_neg_of_pos (exactly_pos hpos)

/-- The mantissa has all its bits, or the exponent is the least one. -/
def IsCanonical (spec : Format) : UnpackedFloat → Prop
  | .finite _ m e _ => IsNormal spec m e
  | .zero _ | .infinity _ | .notANumber => True

theorem isCanonical_unpack (b : BitVec spec.numBits) : IsCanonical spec (.unpack spec b) := by
  cases h : UnpackedFloat.unpack spec b with
  | finite sign m e hpos => exact isNormal_of_unpack h
  | zero | infinity | notANumber => trivial

theorem IsNormal.compare_finite (h : IsNormal spec m e) (h' : IsNormal spec m' e')
    {sign sign' : Sign} (hpos : 0 < m) (hpos' : 0 < m') :
    (UnpackedFloat.finite sign m e hpos).compare (.finite sign' m' e' hpos')
      = some (cmp (exactly (.finite sign m e hpos)) (exactly (.finite sign' m' e' hpos'))) := by
  have hcmp := h.cmp_eq h'
  cases sign with
  | positive =>
    cases sign' with
    | positive => exact congrArg some hcmp.symm
    | negative =>
      rw [(cmp_eq_gt_iff _ _).2 ((exactly_neg hpos').trans (exactly_pos hpos))]
      rfl
  | negative =>
    cases sign' with
    | positive =>
      rw [(cmp_eq_lt_iff _ _).2 ((exactly_neg hpos).trans (exactly_pos hpos'))]
      rfl
    | negative =>
      have hswap : cmp (-((m : ℚ) * 2 ^ e)) (-(m' * 2 ^ e'))
          = ((compare e e').then (compare m m')).swap := by
        rw [← hcmp, cmp_swap]
        exact strictMono_id.neg.cmp_map_eq _ _
      exact congrArg some hswap.symm

theorem compare_eq_cmp (hx : IsCanonical spec x) (hy : IsCanonical spec y)
    (hp : place? x = some p) (hq : place? y = some q) : x.compare y = some (cmp p q) := by
  cases x with
  | notANumber => cases hp
  | infinity sign =>
    cases sign <;> cases hp <;> cases y with
    | notANumber => cases hq
    | infinity sign => cases sign <;> cases hq <;> rfl
    | zero sign => cases hq; rfl
    | finite sign => cases hq; cases sign <;> rfl
  | zero sign =>
    cases hp
    cases y with
    | notANumber => cases hq
    | infinity sign => cases sign <;> cases hq <;> rfl
    | zero sign => cases hq; rfl
    | finite sign m e hpos =>
      cases hq
      rw [cmp_coe]
      cases sign with
      | positive => exact congrArg some ((cmp_eq_lt_iff _ _).2 (exactly_pos hpos)).symm
      | negative => exact congrArg some ((cmp_eq_gt_iff _ _).2 (exactly_neg hpos)).symm
  | finite sign m e hpos =>
    cases hp
    cases y with
    | notANumber => cases hq
    | infinity sign' => cases sign' <;> cases hq <;> cases sign <;> rfl
    | zero sign' =>
      cases hq
      rw [cmp_coe]
      cases sign with
      | positive => exact congrArg some ((cmp_eq_gt_iff _ _).2 (exactly_pos hpos)).symm
      | negative => exact congrArg some ((cmp_eq_lt_iff _ _).2 (exactly_neg hpos)).symm
    | finite sign' m' e' hpos' =>
      cases hq
      rw [cmp_coe]
      exact hx.compare_finite hy hpos hpos'

variable {x y : Float}

theorem place?_eq_none_iff {x : UnpackedFloat} : place? x = none ↔ x = .notANumber := by
  cases x with
  | infinity sign => cases sign <;> simp [place?]
  | notANumber | zero | finite => simp [place?]

theorem lt_iff_compare : x < y ↔ x.toModel.unpack.compare y.toModel.unpack = some .lt := by
  change decide (x.toModel < y.toModel) = true ↔ _
  rw [decide_eq_true_iff]
  exact beq_iff_eq

theorem beq_iff_compare :
    (x == y) = true ↔ x.toModel.unpack.compare y.toModel.unpack = some .eq := by
  change x.toModel.unpack.beq y.toModel.unpack = true ↔ _
  exact beq_iff_eq

theorem orderFloat_of_place (hp : place? x.toModel.unpack = some p)
    (hq : place? y.toModel.unpack = some q) : orderFloat x y = some (cmp p q) := by
  have hcompare (x y : Float) {p q : Line} (hp : place? x.toModel.unpack = some p)
      (hq : place? y.toModel.unpack = some q) :
      x.toModel.unpack.compare y.toModel.unpack = some (cmp p q) :=
    have hcanonical (x : Float) : IsCanonical .binary64 x.toModel.unpack := isCanonical_unpack _
    compare_eq_cmp (hcanonical x) (hcanonical y) hp hq
  rw [orderFloat]
  simp only [lt_iff_compare, beq_iff_compare, hcompare x y hp hq, hcompare y x hq hp,
    ← cmp_swap p q, Option.some.injEq]
  cases cmp p q <;> rfl

theorem orderFloat_of_nan (h : place? x.toModel.unpack = none ∨ place? y.toModel.unpack = none) :
    orderFloat x y = none := by
  have hnone (x y : Float)
      (h : place? x.toModel.unpack = none ∨ place? y.toModel.unpack = none) :
      x.toModel.unpack.compare y.toModel.unpack = none := by
    rcases h with h | h
    · rw [place?_eq_none_iff.1 h]
      rfl
    · rw [place?_eq_none_iff.1 h]
      cases x.toModel.unpack <;> rfl
  rw [orderFloat]
  simp only [lt_iff_compare, beq_iff_compare, hnone x y h, hnone y x h.symm, reduceCtorEq, if_false]

end ActionGraph.Magnitude
