import Mathlib

/-!
# Whole numbers of 64 bits in floating point

Every whole number of 64 bits is near a number in floating point, far from the largest one, so the
conversion never ends in an infinity (`isFinite_ofInt`). The proof follows the exponent through the
steps of the conversion, rounding and packing, and bounds it from above; the bounds are generous.
-/

namespace ActionGraph.Magnitude

open Float.Model Float.Model.UnpackedFloat

/-- Zero, or a finite number with at most this exponent. -/
def AtMost (bound : Int) : UnpackedFloat → Prop
  | .zero _ => True
  | .finite _ _ exponent _ => exponent ≤ bound
  | .infinity _ | .notANumber => False

variable {bound : Int}

theorem AtMost.cases {x : UnpackedFloat} (h : AtMost bound x) :
    (∃ sign, x = .zero sign) ∨
      ∃ sign mantissa exponent hpos, x = .finite sign mantissa exponent hpos ∧
        exponent ≤ bound := by
  cases x with
  | zero sign => exact .inl ⟨sign, rfl⟩
  | finite sign mantissa exponent hpos => exact .inr ⟨sign, mantissa, exponent, hpos, rfl, h⟩
  | infinity sign => exact False.elim h
  | notANumber => exact False.elim h

theorem AtMost.mono {x : UnpackedFloat} {larger : Int} (h : AtMost bound x)
    (hle : bound ≤ larger) : AtMost larger x := by
  rcases h.cases with ⟨sign, rfl⟩ | ⟨sign, mantissa, exponent, hpos, rfl, hexponent⟩
  · trivial
  · exact Int.le_trans hexponent hle

theorem AtMost.isFinite {x : UnpackedFloat} (h : AtMost bound x) : x.isFinite = true := by
  rcases h.cases with ⟨sign, rfl⟩ | ⟨sign, mantissa, exponent, hpos, rfl, -⟩ <;> rfl

theorem AtMost.neg {x : UnpackedFloat} (h : AtMost bound x) : AtMost bound x.neg := by
  rcases h.cases with ⟨sign, rfl⟩ | ⟨sign, mantissa, exponent, hpos, rfl, hexponent⟩
  · trivial
  · exact hexponent

/-! ### Rounding -/

theorem mantissa_shiftRight (em : ExtendedMantissa) (k : Nat) :
    (em >>> k).mantissa = em.mantissa / 2 ^ k := by
  induction k with
  | zero => exact (Nat.div_one _).symm
  | succ k ih =>
    change (em >>> k).mantissa / 2 = _
    rw [ih, Nat.div_div_eq_div_mul, Nat.pow_succ]

theorem mantissa_ofMantissaAndAccuracy (mantissa : Nat) (accuracy : Accuracy) :
    (ExtendedMantissa.ofMantissaAndAccuracy mantissa accuracy).mantissa = mantissa := by
  cases accuracy with
  | exact => rfl
  | inexact order => cases order <;> rfl

theorem roundedMantissa_le (em : ExtendedMantissa) : em.roundedMantissa ≤ em.mantissa + 1 := by
  obtain ⟨mantissa, roundBit, stickyBit⟩ := em
  cases roundBit <;> cases stickyBit <;>
    simp only [ExtendedMantissa.roundedMantissa, ExtendedMantissa.accuracy,
      Accuracy.roundToNearestEven] <;> omega

theorem log2_le {m k : Nat} (h : m ≤ 2 ^ k) : m.log2 ≤ k := by
  by_cases hzero : m = 0
  · subst hzero
    exact Nat.zero_le k
  · have hlt : m < 2 ^ (k + 1) := by
      rw [Nat.pow_succ]
      have := Nat.two_pow_pos k
      omega
    exact Nat.le_of_lt_succ ((Nat.log2_lt hzero).2 hlt)

theorem targetExponent_eq (t : Int) : Format.binary64.targetExponent t = max (t - 53) (-1074) := rfl

/-- The exponent to which a mantissa of at most `k` bits is shifted. -/
theorem exponent_shift_le {m k : Nat} {e : Int} (hm : m ≤ 2 ^ k) (accuracy : Accuracy)
    (hbound : -1074 ≤ bound) (he : e ≤ bound) :
    (shiftToTargetExponent Format.binary64 m e accuracy).2 ≤ bound + k := by
  have hlog := log2_le hm
  change e + ((Format.binary64.targetExponent (totalExponent m e) - e).toNat : Int) ≤ bound + k
  rw [targetExponent_eq, totalExponent]
  omega

theorem roundedMantissa_shift_le {m k : Nat} (e : Int) (hm : m < 2 ^ k) (accuracy : Accuracy) :
    (shiftToTargetExponent Format.binary64 m e accuracy).1.roundedMantissa ≤ 2 ^ k := by
  refine Nat.le_trans (roundedMantissa_le _) ?_
  change ((ExtendedMantissa.ofMantissaAndAccuracy m accuracy) >>> _ : ExtendedMantissa).mantissa + 1
    ≤ 2 ^ k
  rw [mantissa_shiftRight, mantissa_ofMantissaAndAccuracy]
  exact Nat.lt_of_le_of_lt (Nat.div_le_self m _) hm

theorem atMost_roundWithAccuracy {m k : Nat} {e : Int} (hm : m < 2 ^ k) (hbound : -1074 ≤ bound)
    (he : e ≤ bound) (sign : Sign) (accuracy : Accuracy) :
    AtMost (bound + k + k) (roundWithAccuracy Format.binary64 sign m e accuracy) := by
  have hfirst := exponent_shift_le (Nat.le_of_lt hm) accuracy hbound he
  have hrounded := roundedMantissa_shift_le e hm accuracy
  have hsecond := exponent_shift_le hrounded .exact (by omega) hfirst
  rw [roundWithAccuracy]
  dsimp only
  split
  · trivial
  · exact hsecond

theorem atMost_round {n k : Nat} (hn : n < 2 ^ k) (sign : Sign) :
    AtMost (2 * k + 106) (UnpackedFloat.round Format.binary64 sign n 0) := by
  rw [UnpackedFloat.round, decreaseExponent, targetExponent_eq, totalExponent]
  dsimp only
  generalize hshift : (0 - max ((n.log2 : Int) + 1 + 0 - 53) (-1074)).toNat = shift
  have hfew : shift ≤ 53 := by omega
  have hmantissa : n <<< shift < 2 ^ (k + 53) := by
    rw [Nat.shiftLeft_eq, Nat.pow_add]
    exact Nat.mul_lt_mul_of_lt_of_le hn (Nat.pow_le_pow_right Nat.two_pos hfew) (Nat.two_pow_pos _)
  have hexponent : (0 - shift : Int) ≤ 0 := by omega
  have hround := atMost_roundWithAccuracy hmantissa (by omega) hexponent sign .exact
  exact hround.mono (by omega)

theorem atMost_ofNat {n k : Nat} (hn : n < 2 ^ k) :
    AtMost (2 * k + 106) (UnpackedFloat.ofNat Format.binary64 n) := by
  rw [UnpackedFloat.ofNat, UnpackedFloat.ofInt, UnpackedFloat.normalize]
  split
  · rename_i hlt
    rw [Int.compare_eq_lt] at hlt
    omega
  · trivial
  · exact atMost_round hn .positive

/-! ### Packing -/

theorem atMost_unpack_packComponents (sign : Sign) {exponent : BitVec 11} (mantissa : BitVec 52)
    (hfinite : exponent.toNat < 2047) (hleast : -1074 ≤ bound)
    (hexponent : (exponent.toNat : Int) - 1075 ≤ bound) :
    AtMost bound
      (UnpackedFloat.unpack Format.binary64
        (packComponents Format.binary64 sign exponent mantissa)) := by
  have hmantissa : unpackMantissa (packComponents Format.binary64 sign exponent mantissa)
      = mantissa := unpackMantissa_packComponents
  have hexponentVec : unpackExponent (packComponents Format.binary64 sign exponent mantissa)
      = exponent := unpackExponent_packComponents
  have hordinary : exponent ≠ -1#11 := by
    rintro rfl
    exact absurd hfinite (by decide)
  have hbias : Format.binary64.exponentBias = 1023 := rfl
  simp only [UnpackedFloat.unpack, hmantissa, hexponentVec, hbias, if_neg hordinary]
  split
  · rename_i hzero
    have hnat : exponent.toNat = 0 := congrArg BitVec.toNat hzero
    split
    · trivial
    · simp only [AtMost]
      omega
  · simp only [AtMost]
    omega

theorem atMost_unpack_pack {x : UnpackedFloat} (h : AtMost bound x) (hleast : -1074 ≤ bound)
    (hgreatest : bound ≤ 971) : AtMost bound (Float.Model.pack x).unpack := by
  change AtMost bound (UnpackedFloat.unpack Format.binary64 (UnpackedFloat.pack Format.binary64 x))
  have hsubnormal (sign : Sign) (mantissa : BitVec 52) :
      AtMost bound (UnpackedFloat.unpack Format.binary64
        (packComponents Format.binary64 sign 0#11 mantissa)) :=
    atMost_unpack_packComponents sign mantissa (by decide) hleast
      (Int.le_trans (by decide) hleast)
  cases x with
  | zero sign => exact hsubnormal sign 0
  | finite sign m e hpos =>
    have hexponent : e ≤ bound := h
    have hbiased : (e + (Format.binary64.exponentBias : Nat) + (52 : Nat) : Int) = e + 1075 := by
      rw [show Format.binary64.exponentBias = 1023 from rfl]
      omega
    rw [UnpackedFloat.pack]
    dsimp only
    rw [hbiased]
    have hsmall : ¬2 ^ 11 ≤ (e + 1075).toNat + 1 := by omega
    rw [if_neg hsmall]
    split
    · have hsame : (BitVec.ofNat 11 (e + 1075).toNat).toNat = (e + 1075).toNat := by
        rw [BitVec.toNat_ofNat, Nat.mod_eq_of_lt (by omega)]
      exact atMost_unpack_packComponents sign _ (by omega) hleast (by omega)
    · exact hsubnormal sign _
  | infinity sign => exact h.elim
  | notANumber => exact h.elim

theorem mantissa_unpack_lt {x : Float.Model} {sign : Sign} {m : Nat} {e : Int} {hpos : 0 < m}
    (h : x.unpack = .finite sign m e hpos) : m < 2 ^ 53 := by
  rw [Float.Model.unpack, UnpackedFloat.unpack] at h
  dsimp only at h
  split at h
  · split at h <;> cases h
  · split at h
    · split at h
      · cases h
      · obtain ⟨-, rfl, -⟩ := UnpackedFloat.finite.inj h
        exact Nat.lt_trans (BitVec.isLt _) (by decide)
    · obtain ⟨-, rfl, -⟩ := UnpackedFloat.finite.inj h
      exact BitVec.isLt _

theorem atMost_mul {x y : Float.Model} {bound' : Int} (hx : AtMost bound x.unpack)
    (hy : AtMost bound' y.unpack) (hleast : -1074 ≤ bound + bound') :
    AtMost (bound + bound' + 212) (UnpackedFloat.mul Format.binary64 x.unpack y.unpack) := by
  rcases hx.cases with ⟨sign, hx⟩ | ⟨sign, m, e, hpos, hx, he⟩
  · rcases hy.cases with ⟨sign', hy⟩ | ⟨sign', m', e', hpos', hy, -⟩ <;>
      · rw [hx, hy]
        trivial
  · rcases hy.cases with ⟨sign', hy⟩ | ⟨sign', m', e', hpos', hy, he'⟩
    · rw [hx, hy]
      trivial
    · have hproduct : m * m' < 2 ^ 106 := by
        have hm := mantissa_unpack_lt hx
        have hm' := mantissa_unpack_lt hy
        calc m * m' < 2 ^ 53 * 2 ^ 53 := Nat.mul_lt_mul'' hm hm'
          _ = 2 ^ 106 := by decide
      have hexponent : e + e' ≤ bound + bound' := Int.add_le_add he he'
      rw [hx, hy, UnpackedFloat.mul]
      have hround := atMost_roundWithAccuracy hproduct hleast hexponent (sign * sign') .exact
      exact hround.mono (by omega)

/-! ### Conversion -/

theorem atMost_toFloat {n : Nat} (hn : n < 2 ^ 53) :
    AtMost 212 n.toUInt64.toFloat.toModel.unpack := by
  have hword : n.toUInt64.toNat = n := UInt64.toNat_ofNat_of_lt' (Nat.lt_trans hn (by decide))
  change AtMost 212
    (Float.Model.pack (UnpackedFloat.ofNat Format.binary64 n.toUInt64.toNat)).unpack
  rw [hword]
  exact atMost_unpack_pack (atMost_ofNat hn) (by decide) (by decide)

/-- A number of at most 53 bits is multiplied by one. -/
theorem atMost_ofNat_of_lt {n : Nat} (hn : n < 2 ^ 53) :
    AtMost 372 (n.toUInt64.toFloat * Float.exactlyRepresentablePowersOfTen[0]).toModel.unpack := by
  have hone : AtMost (-52) Float.exactlyRepresentablePowersOfTen[0].toModel.unpack :=
    Int.le_refl (-52)
  exact atMost_unpack_pack (atMost_mul (atMost_toFloat hn) hone (by decide)) (by decide) (by decide)

theorem ofScientific_zero {n : Nat} (hpos : n ≠ 0) :
    UnpackedFloat.ofScientific Format.binary64 n 0
      = roundWithAccuracy Format.binary64 (.positive * .positive) (n <<< 53 * 10 ^ 0) (-53 + 0)
          .exact := by
  have hrange : (2 ^ Format.binary64.exponentBits : Int) = 2048 := rfl
  have hlarge : ¬(0 : Int) > 2048 := by decide
  have hsmall : ¬(0 : Int) < -(2048 + (n.log2 : Int)) := by omega
  have hbits : Format.binary64.mantissaBits = 53 := rfl
  simp only [UnpackedFloat.ofScientific, dif_neg hpos, hrange, if_neg hlarge, if_neg hsmall,
    Int.le_refl, if_true, UnpackedFloat.mul, hbits, Int.toNat_zero, Nat.cast_ofNat]

/-- A longer number is widened and then rounded. -/
theorem atMost_ofScientific {n : Nat} (hpos : n ≠ 0) (hn : n < 2 ^ 64) :
    AtMost 181 (UnpackedFloat.ofScientific Format.binary64 n 0) := by
  have hwidened : n <<< 53 * 10 ^ 0 < 2 ^ 117 := by
    rw [Nat.shiftLeft_eq]
    omega
  rw [ofScientific_zero hpos]
  generalize n <<< 53 * 10 ^ 0 = m at hwidened ⊢
  have hleast : (-1074 : Int) ≤ -53 := by decide
  have hexponent : (-53 + 0 : Int) ≤ -53 := by decide
  exact (atMost_roundWithAccuracy hwidened hleast hexponent _ .exact).mono (by decide)

theorem atMost_ofNat_of_lt_word {n : Nat} (hn : n < 2 ^ 64) :
    AtMost 372 (Float.ofNat n).toModel.unpack := by
  change AtMost 372 (Float.ofScientific n false 0).toModel.unpack
  rw [Float.ofScientific]
  split
  · rename_i hshort
    exact atMost_ofNat_of_lt hshort.1
  · rename_i hlong
    have hpos : n ≠ 0 := by
      rintro rfl
      exact hlong ⟨by decide, by decide⟩
    have hbound := atMost_unpack_pack (atMost_ofScientific hpos hn) (by decide) (by decide)
    exact hbound.mono (by decide)

/-- A whole number of 64 bits, with sign or without, is near a finite number. -/
theorem isFinite_ofInt {i : Int} (hleast : -2 ^ 63 ≤ i) (hgreatest : i < 2 ^ 64) :
    (Float.ofInt i).isFinite = true := by
  change (Float.ofInt i).toModel.unpack.isFinite = true
  cases i with
  | ofNat n => exact (atMost_ofNat_of_lt_word (Int.ofNat_lt.1 hgreatest)).isFinite
  | negSucc n =>
    have hword : n + 1 < 2 ^ 64 := by omega
    have hnegated := (atMost_ofNat_of_lt_word hword).neg
    exact (atMost_unpack_pack hnegated (by decide) (by decide)).isFinite

end ActionGraph.Magnitude
