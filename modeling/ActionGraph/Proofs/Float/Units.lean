import ActionGraph.Proofs.Float
import ActionGraph.Proofs.Float.Order

/-!
# Rounding to whole units

In every format a number is rounded to a whole number of units, and its exponent says which units
these are (`unitExponent`). The two bits that are kept when a mantissa is shifted say where the
exact number lies between two whole mantissas (`LiesAt`, which one shift preserves), and so the
rounded mantissa is at most half a unit away. It may have carried a bit; a second shift takes that
away without changing the number, and leaves a mantissa with all its bits.

Two things follow for any format. What is rounded does not go beyond a number of the format that the
exact number does not go beyond (`exactly_round_le`). And packing changes nothing, where the
exponent is in range (`unpack_pack`).
-/

namespace ActionGraph.Magnitude

open Float.Model (Format UnpackedFloat totalExponent)
open Float.Model.UnpackedFloat
open Clock (exactly)

/-! ### Shifting -/

/-- A mantissa with its two further bits says where a number lies: the first bit stands for a half,
and the second for something between nothing and a half. -/
structure LiesAt (em : ExtendedMantissa) (x : ℚ) : Prop where
  ge : (em.mantissa : ℚ) + (if em.roundBit then 1 / 2 else 0) ≤ x
  le : x ≤ em.mantissa + (if em.roundBit then 1 / 2 else 0) + (if em.stickyBit then 1 / 2 else 0)

theorem liesAt_exact (m : ℕ) : LiesAt (.ofMantissaAndAccuracy m .exact) m := by
  constructor <;> simp [ExtendedMantissa.ofMantissaAndAccuracy]

theorem LiesAt.shiftRightOne {em : ExtendedMantissa} {x : ℚ} (h : LiesAt em x) :
    LiesAt em.shiftRightOne (x / 2) := by
  obtain ⟨mantissa, roundBit, stickyBit⟩ := em
  obtain ⟨hge, hle⟩ := h
  -- The last bit of the mantissa becomes the first of the two bits.
  have hhalf : (mantissa : ℚ) / 2
      = (mantissa / 2 : ℕ) + (if mantissa % 2 != 0 then 1 / 2 else 0) := by
    have hcast : (mantissa : ℚ) = 2 * (mantissa / 2 : ℕ) + (mantissa % 2 : ℕ) := by
      exact_mod_cast (Nat.div_add_mod mantissa 2).symm
    rcases Nat.mod_two_eq_zero_or_one mantissa with hmod | hmod <;> simp only [hmod] at hcast ⊢ <;>
      norm_num <;> linarith
  constructor
  · show (mantissa / 2 : ℕ) + (if mantissa % 2 != 0 then 1 / 2 else 0) ≤ x / 2
    rw [← hhalf]
    cases roundBit <;> norm_num at hge <;> linarith
  · show x / 2 ≤ (mantissa / 2 : ℕ) + (if mantissa % 2 != 0 then 1 / 2 else 0)
      + (if roundBit || stickyBit then 1 / 2 else 0)
    rw [← hhalf]
    cases roundBit <;> cases stickyBit <;> norm_num at hle ⊢ <;> linarith

theorem LiesAt.shiftRight {em : ExtendedMantissa} {x : ℚ} (h : LiesAt em x) (k : ℕ) :
    LiesAt (em >>> k) (x / 2 ^ k) := by
  induction k with
  | zero =>
    rw [pow_zero, div_one]
    exact h
  | succ k ih =>
    have hone := ih.shiftRightOne
    rw [div_div, ← pow_succ] at hone
    exact hone

theorem LiesAt.abs_sub_le {em : ExtendedMantissa} {x : ℚ} (h : LiesAt em x) :
    |(em.roundedMantissa : ℚ) - x| ≤ 1 / 2 := by
  obtain ⟨mantissa, roundBit, stickyBit⟩ := em
  obtain ⟨hge, hle⟩ := h
  have heven : mantissa + mantissa % 2 ≤ mantissa + 1 := by omega
  have hcast : ((mantissa + mantissa % 2 : ℕ) : ℚ) ≤ mantissa + 1 := by exact_mod_cast heven
  have hcast' : (mantissa : ℚ) ≤ (mantissa + mantissa % 2 : ℕ) := by
    exact_mod_cast Nat.le_add_right mantissa _
  rw [abs_le]
  cases roundBit <;> cases stickyBit <;>
    simp only [ExtendedMantissa.roundedMantissa, ExtendedMantissa.accuracy,
      Accuracy.roundToNearestEven, Nat.cast_succ, Bool.false_eq_true, if_false, if_true, add_zero]
      at hge hle ⊢ <;>
    constructor <;> linarith

/-! ### Units -/

/-- The exponent of the units to which a number is rounded. -/
def unitExponent (spec : Format) (m : ℕ) (e : ℤ) : ℤ := spec.targetExponent (totalExponent m e)

variable {spec : Format} {m : ℕ} {e : ℤ}

theorem unitExponent_eq (spec : Format) (m : ℕ) (e : ℤ) :
    unitExponent spec m e = max (m.log2 + 1 + e - spec.mantissaBits) spec.minExponent := rfl

theorem mantissaBits_eq (spec : Format) :
    spec.mantissaBits = 1 + spec.mantissaBitsWithoutImplicit := rfl

theorem lt_two_pow_unit (spec : Format) (m : ℕ) (e : ℤ) :
    (m : ℚ) * 2 ^ e < 2 ^ spec.mantissaBits * 2 ^ unitExponent spec m e := by
  have hlog : (m : ℚ) < 2 ^ (m.log2 + 1) := by exact_mod_cast Nat.lt_log2_self
  have hunit : (m.log2 + 1 + e : ℤ) ≤ spec.mantissaBits + unitExponent spec m e := by
    rw [unitExponent_eq]
    omega
  calc (m : ℚ) * 2 ^ e < 2 ^ (m.log2 + 1) * 2 ^ e :=
        mul_lt_mul_of_pos_right hlog (zpow_pos two_pos e)
    _ = 2 ^ (m.log2 + 1 + e : ℤ) := by
      rw [zpow_add₀ two_ne_zero]
      norm_cast
    _ ≤ 2 ^ (spec.mantissaBits + unitExponent spec m e : ℤ) :=
      zpow_le_zpow_right₀ one_le_two hunit
    _ = 2 ^ spec.mantissaBits * 2 ^ unitExponent spec m e := by
      rw [zpow_add₀ two_ne_zero, zpow_natCast]

theorem two_pow_unit_le (hpos : 0 < m) (hlt : spec.minExponent < unitExponent spec m e) :
    2 ^ spec.mantissaBitsWithoutImplicit * 2 ^ unitExponent spec m e ≤ (m : ℚ) * 2 ^ e := by
  have hlog : (2 : ℚ) ^ m.log2 ≤ m := by exact_mod_cast Nat.log2_self_le hpos.ne'
  have hbits := mantissaBits_eq spec
  calc (2 : ℚ) ^ spec.mantissaBitsWithoutImplicit * 2 ^ unitExponent spec m e
      = 2 ^ (spec.mantissaBitsWithoutImplicit + unitExponent spec m e : ℤ) := by
        rw [zpow_add₀ two_ne_zero, zpow_natCast]
    _ = 2 ^ (m.log2 + e : ℤ) := by
      rw [unitExponent_eq] at hlt ⊢
      congr 1
      omega
    _ = 2 ^ m.log2 * 2 ^ e := by
      rw [zpow_add₀ two_ne_zero]
      norm_cast
    _ ≤ m * 2 ^ e := mul_le_mul_of_nonneg_right hlog (zpow_nonneg zero_le_two e)

/-- A power is so many whole units of a smaller one. -/
theorem zpow_eq_mul {t u : ℤ} (hle : t ≤ u) : (2 : ℚ) ^ u = 2 ^ (u - t).toNat * 2 ^ t := by
  have hnat : ((u - t).toNat : ℤ) = u - t := Int.toNat_of_nonneg (by omega)
  rw [← zpow_natCast, hnat, ← zpow_add₀ two_ne_zero, sub_add_cancel]

theorem shiftToTargetExponent_eq (accuracy : Accuracy) (he : e ≤ unitExponent spec m e) :
    shiftToTargetExponent spec m e accuracy
      = (ExtendedMantissa.ofMantissaAndAccuracy m accuracy >>> (unitExponent spec m e - e).toNat,
        unitExponent spec m e) := by
  refine Prod.ext rfl ?_
  show e + ((unitExponent spec m e - e).toNat : ℤ) = unitExponent spec m e
  omega

/-- The first shift leaves a whole number of units, at most half a unit away. -/
theorem abs_rounded_sub_le (he : e ≤ unitExponent spec m e) :
    |((shiftToTargetExponent spec m e .exact).1.roundedMantissa : ℚ)
      - m * 2 ^ e / 2 ^ unitExponent spec m e| ≤ 1 / 2 := by
  have hunits : (m : ℚ) * 2 ^ e / 2 ^ unitExponent spec m e
      = m / 2 ^ (unitExponent spec m e - e).toNat := by
    rw [zpow_eq_mul he, mul_div_mul_right _ _ (zpow_ne_zero e two_ne_zero)]
  rw [shiftToTargetExponent_eq .exact he, hunits]
  exact ((liesAt_exact m).shiftRight _).abs_sub_le

section

variable {n : ℕ} (hnear : |(n : ℚ) - m * 2 ^ e / 2 ^ unitExponent spec m e| ≤ 1 / 2)

include hnear

theorem le_two_pow_of_near : n ≤ 2 ^ spec.mantissaBits := by
  have hbelow := (div_lt_iff₀ (zpow_pos two_pos _)).2 (lt_two_pow_unit spec m e)
  have hcast : (n : ℚ) < 2 ^ spec.mantissaBits + 1 := by linarith [(abs_le.1 hnear).2]
  apply Nat.le_of_lt_succ
  exact_mod_cast hcast

theorem two_pow_le_of_near (hpos : 0 < m) (hlt : spec.minExponent < unitExponent spec m e) :
    2 ^ spec.mantissaBitsWithoutImplicit ≤ n := by
  have habove := (le_div_iff₀ (zpow_pos two_pos _)).2 (two_pow_unit_le hpos hlt)
  have hcast : (2 : ℚ) ^ spec.mantissaBitsWithoutImplicit < n + 1 := by
    linarith [(abs_le.1 hnear).1]
  apply Nat.le_of_lt_succ
  exact_mod_cast hcast

/-- A whole number of units that the exact number does not go beyond stays a bound. -/
theorem le_of_near {k : ℕ} (hle : (m : ℚ) * 2 ^ e ≤ k * 2 ^ unitExponent spec m e) : n ≤ k := by
  have hunits := (div_le_iff₀ (zpow_pos two_pos _)).2 hle
  have hcast : (n : ℚ) < k + 1 := by linarith [(abs_le.1 hnear).2]
  apply Nat.le_of_lt_succ
  exact_mod_cast hcast

end

/-- The second shift only takes away the bit that the first may have carried. -/
theorem carry {n : ℕ} {t : ℤ} (hle : n ≤ 2 ^ spec.mantissaBits) (ht : spec.minExponent ≤ t)
    (hge : spec.minExponent < t → 2 ^ spec.mantissaBitsWithoutImplicit ≤ n) :
    t ≤ unitExponent spec n t ∧
      n / 2 ^ (unitExponent spec n t - t).toNat * 2 ^ (unitExponent spec n t - t).toNat = n ∧
      IsNormal spec (n / 2 ^ (unitExponent spec n t - t).toNat) (unitExponent spec n t) := by
  have hbits := mantissaBits_eq spec
  rcases hle.lt_or_eq with hlt | rfl
  · have hunit : unitExponent spec n t = t := by
      rw [unitExponent_eq]
      by_cases hzero : n = 0
      · have ht : t = spec.minExponent := by
          by_contra hne
          have hpos := Nat.two_pow_pos spec.mantissaBitsWithoutImplicit
          have := hge (by omega)
          omega
        rw [hzero, Nat.log2_zero, ht]
        omega
      · have hupper : n.log2 < spec.mantissaBits := (Nat.log2_lt hzero).2 hlt
        by_cases hleast : t = spec.minExponent
        · omega
        · have hlower : spec.mantissaBitsWithoutImplicit ≤ n.log2 :=
            (Nat.le_log2 hzero).2 (hge (by omega))
          omega
    rw [hunit, sub_self, Int.toNat_zero, pow_zero, Nat.div_one, mul_one]
    exact ⟨le_rfl, rfl, hlt, ht, hge⟩
  · have hlog : Nat.log2 (2 ^ spec.mantissaBits) = spec.mantissaBits := Nat.log2_two_pow
    have hunit : unitExponent spec (2 ^ spec.mantissaBits) t = t + 1 := by
      rw [unitExponent_eq, hlog]
      omega
    have hhalf : 2 ^ spec.mantissaBits / 2 = 2 ^ spec.mantissaBitsWithoutImplicit := by
      rw [hbits, Nat.pow_add, Nat.pow_one, Nat.mul_div_cancel_left _ Nat.two_pos]
    rw [hunit, add_sub_cancel_left, Int.toNat_one, pow_one, hhalf]
    refine ⟨by omega, ?_, ?_, by omega, fun _ => le_rfl⟩
    · rw [hbits, Nat.pow_add, Nat.pow_one, Nat.mul_comm]
    · exact Nat.pow_lt_pow_right Nat.one_lt_two (by omega)

theorem exists_rounded (spec : Format) (hpos : 0 < m) (he : e ≤ unitExponent spec m e) :
    ∃ n : ℕ, |(n : ℚ) - m * 2 ^ e / 2 ^ unitExponent spec m e| ≤ 1 / 2 ∧
      exactly (roundWithAccuracy spec .positive m e .exact) = n * 2 ^ unitExponent spec m e ∧
      (roundWithAccuracy spec .positive m e .exact).isFinite = true ∧
      IsCanonical spec (roundWithAccuracy spec .positive m e .exact) := by
  have hnear := abs_rounded_sub_le he
  have hleast : spec.minExponent ≤ unitExponent spec m e := le_max_right _ _
  rw [roundWithAccuracy]
  dsimp only
  rw [shiftToTargetExponent_eq .exact he] at hnear ⊢
  generalize (ExtendedMantissa.ofMantissaAndAccuracy m .exact
    >>> (unitExponent spec m e - e).toNat : ExtendedMantissa).roundedMantissa = n at hnear ⊢
  obtain ⟨hmore, hexact, hnormal⟩ :=
    carry (le_two_pow_of_near hnear) hleast (two_pow_le_of_near hnear hpos)
  refine ⟨n, hnear, ?_⟩
  rw [shiftToTargetExponent_eq .exact hmore]
  simp only [mantissa_shiftRight, mantissa_ofMantissaAndAccuracy]
  generalize unitExponent spec n (unitExponent spec m e) = t at *
  split
  · rename_i hzero
    rw [hzero, zero_mul] at hexact
    rw [← hexact, Nat.cast_zero, zero_mul]
    exact ⟨rfl, rfl, trivial⟩
  · refine ⟨?_, rfl, hnormal⟩
    show ((n / 2 ^ (t - unitExponent spec m e).toNat : ℕ) : ℚ) * 2 ^ t
      = n * 2 ^ unitExponent spec m e
    rw [zpow_eq_mul hmore, ← mul_assoc]
    exact_mod_cast congrArg (fun k : ℕ => (k : ℚ) * 2 ^ unitExponent spec m e) hexact

theorem log2_mul_two_pow (hpos : 0 < m) (k : ℕ) : (m * 2 ^ k).log2 = m.log2 + k := by
  induction k with
  | zero => rw [Nat.pow_zero, Nat.mul_one, Nat.add_zero]
  | succ k ih =>
    have hmore : m * 2 ^ k ≠ 0 := (Nat.mul_pos hpos (Nat.two_pow_pos k)).ne'
    rw [Nat.pow_succ, ← Nat.mul_assoc, Nat.mul_comm, Nat.log2_two_mul hmore, ih, Nat.add_assoc]

/-- Bits that are added to a mantissa change neither the number nor its units. -/
theorem unitExponent_widened (spec : Format) (hpos : 0 < m) (e : ℤ) (k : ℕ) :
    unitExponent spec (m * 2 ^ k) (e - k) = unitExponent spec m e := by
  rw [unitExponent_eq, unitExponent_eq, log2_mul_two_pow hpos]
  push_cast
  congr 1
  omega

theorem widened_mul_zpow (m : ℕ) (e : ℤ) (k : ℕ) :
    ((m * 2 ^ k : ℕ) : ℚ) * 2 ^ (e - k) = m * 2 ^ e := by
  rw [zpow_sub₀ two_ne_zero, zpow_natCast]
  push_cast
  rw [mul_assoc, mul_div_cancel₀ _ (pow_ne_zero k two_ne_zero)]

theorem exists_round (spec : Format) (hpos : 0 < m) (e : ℤ) :
    ∃ n : ℕ, |(n : ℚ) - m * 2 ^ e / 2 ^ unitExponent spec m e| ≤ 1 / 2 ∧
      exactly (UnpackedFloat.round spec .positive m e) = n * 2 ^ unitExponent spec m e ∧
      (UnpackedFloat.round spec .positive m e).isFinite = true ∧
      IsCanonical spec (UnpackedFloat.round spec .positive m e) := by
  have hfew : e - (e - unitExponent spec m e).toNat ≤ unitExponent spec m e := by omega
  have hround : UnpackedFloat.round spec .positive m e
      = roundWithAccuracy spec .positive (m * 2 ^ (e - unitExponent spec m e).toNat)
        (e - (e - unitExponent spec m e).toNat) .exact := by
    rw [UnpackedFloat.round, decreaseExponent, Nat.shiftLeft_eq]
    rfl
  rw [hround]
  generalize (e - unitExponent spec m e).toNat = k at hfew
  have hunit := unitExponent_widened spec hpos e k
  have hrounded := exists_rounded spec (Nat.mul_pos hpos (Nat.two_pow_pos k)) (hfew.trans hunit.ge)
  rwa [hunit, widened_mul_zpow] at hrounded

/-! ### Rounding from below -/

/-- The smaller of two numbers with all their bits has no greater exponent. -/
theorem IsNormal.exponent_le {m' : ℕ} {e' : ℤ} (h : IsNormal spec m e) (h' : IsNormal spec m' e')
    (hle : (m : ℚ) * 2 ^ e ≤ m' * 2 ^ e') : e ≤ e' := by
  by_contra! hlt
  exact (mul_zpow_lt h'.mantissa_lt (h.le_mantissa (h'.le_exponent.trans_lt hlt)) hlt).not_ge hle

/-- **What is rounded goes beyond no number of the format** that the exact number does not go
beyond. -/
theorem exactly_round_le {m' : ℕ} {e' : ℤ} (hpos : 0 < m) (h' : IsNormal spec m' e')
    (hle : (m : ℚ) * 2 ^ e ≤ m' * 2 ^ e') :
    exactly (UnpackedFloat.round spec .positive m e) ≤ m' * 2 ^ e' := by
  obtain ⟨n, hnear, hexactly, -, -⟩ := exists_round spec hpos e
  rw [hexactly]
  rcases le_or_gt (unitExponent spec m e) e' with hunit | hunit
  · -- The bound is a whole number of units.
    have hwhole : (m' : ℚ) * 2 ^ e'
        = (m' * 2 ^ (e' - unitExponent spec m e).toNat : ℕ) * 2 ^ unitExponent spec m e := by
      push_cast
      rw [zpow_eq_mul hunit, mul_assoc]
    rw [hwhole] at hle ⊢
    exact mul_le_mul_of_nonneg_right (Nat.cast_le.2 (le_of_near hnear hle))
      (zpow_nonneg zero_le_two _)
  · -- The bound would lie below all that is rounded to these units.
    have hbelow : (m' : ℚ) * 2 ^ e'
        < (2 ^ spec.mantissaBitsWithoutImplicit : ℕ) * 2 ^ unitExponent spec m e :=
      mul_zpow_lt h'.mantissa_lt le_rfl hunit
    push_cast at hbelow
    have hfull := two_pow_unit_le hpos (h'.le_exponent.trans_lt hunit)
    exact absurd hle (hbelow.trans_le hfull).not_ge

/-! ### Packing -/

/-- The greatest exponent of a finite number of the format. -/
def greatestExponent (spec : Format) : ℤ :=
  2 ^ spec.exponentBits - 2 - (spec.exponentBias + spec.mantissaBitsWithoutImplicit)

theorem toNat_one_append {k : ℕ} (v : BitVec k) : (1#1 ++ v).toNat = 2 ^ k + v.toNat := by
  rw [BitVec.toNat_append, ← Nat.shiftLeft_add_eq_or_of_lt v.isLt]
  exact congrArg (· + v.toNat) (Nat.one_shiftLeft k)

theorem toNat_neg_one (spec : Format) :
    (-BitVec.ofNat spec.exponentBits 1).toNat = 2 ^ spec.exponentBits - 1 := by
  rw [BitVec.neg_one_eq_allOnes, BitVec.toNat_allOnes]

theorem unpack_packComponents (sign : Sign) {exponent : BitVec spec.exponentBits}
    (mantissa : BitVec spec.mantissaBitsWithoutImplicit)
    (hfinite : exponent.toNat + 1 < 2 ^ spec.exponentBits) (hpositive : 0 < exponent.toNat) :
    UnpackedFloat.unpack spec (packComponents spec sign exponent mantissa)
      = .finite sign (2 ^ spec.mantissaBitsWithoutImplicit + mantissa.toNat)
        (exponent.toNat - (spec.exponentBias + spec.mantissaBitsWithoutImplicit))
        (by positivity) := by
  have hordinary : exponent ≠ -BitVec.ofNat spec.exponentBits 1 := by
    rintro rfl
    rw [toNat_neg_one] at hfinite
    omega
  have hnonzero : exponent ≠ BitVec.ofNat spec.exponentBits 0 := by
    rintro rfl
    rw [BitVec.toNat_zero] at hpositive
    omega
  simp only [UnpackedFloat.unpack, unpackSign_packComponents, Sign.ofBitVec_toBitVec,
    unpackMantissa_packComponents, unpackExponent_packComponents, if_neg hordinary,
    if_neg hnonzero, toNat_one_append]

theorem unpack_packComponents_zero (sign : Sign)
    {mantissa : BitVec spec.mantissaBitsWithoutImplicit} (hpos : 0 < mantissa.toNat) :
    UnpackedFloat.unpack spec
        (packComponents spec sign (BitVec.ofNat spec.exponentBits 0) mantissa)
      = .finite sign mantissa.toNat spec.minExponent hpos := by
  have hnonzero : mantissa ≠ BitVec.ofNat spec.mantissaBitsWithoutImplicit 0 := by
    rintro rfl
    rw [BitVec.toNat_zero] at hpos
    omega
  have hordinary : BitVec.ofNat spec.exponentBits 0 ≠ -BitVec.ofNat spec.exponentBits 1 := by
    intro hsame
    have hone := congrArg BitVec.toNat hsame
    rw [toNat_neg_one, BitVec.toNat_zero] at hone
    have := Nat.one_lt_two_pow spec.he.ne'
    omega
  simp only [UnpackedFloat.unpack, unpackSign_packComponents, Sign.ofBitVec_toBitVec,
    unpackMantissa_packComponents, unpackExponent_packComponents, if_neg hordinary, if_true,
    dif_neg hnonzero, BitVec.toNat_zero, UnpackedFloat.finite.injEq, true_and]
  rw [minExponent_eq]
  omega

/-- What is packed is found again. -/
theorem unpack_pack {x : UnpackedFloat} (hcanonical : IsCanonical spec x)
    (hbound : AtMost (greatestExponent spec) x) :
    UnpackedFloat.unpack spec (UnpackedFloat.pack spec x) = x := by
  cases x with
  | zero sign => exact unpack_packedZero
  | infinity | notANumber => exact hbound.elim
  | finite sign m e hpos =>
    obtain ⟨hlt, hleast, hge⟩ : IsNormal spec m e := hcanonical
    have hbits := mantissaBits_eq spec
    have hgreatest : e ≤ greatestExponent spec := hbound
    rw [greatestExponent] at hgreatest
    rw [minExponent_eq] at hleast hge
    have hrange : ¬2 ^ spec.exponentBits
        ≤ (e + spec.exponentBias + spec.mantissaBitsWithoutImplicit).toNat + 1 := by
      zify
      omega
    rw [UnpackedFloat.pack, if_neg hrange]
    by_cases hfull : 2 ^ spec.mantissaBitsWithoutImplicit ≤ m
    · have hlog : m.log2 + 1 = spec.mantissaBits := by
        have hlower := (Nat.le_log2 hpos.ne').2 hfull
        have hupper := (Nat.log2_lt hpos.ne').2 hlt
        omega
      have hexponent : (BitVec.ofNat spec.exponentBits
          (e + spec.exponentBias + spec.mantissaBitsWithoutImplicit).toNat).toNat
            = (e + spec.exponentBias + spec.mantissaBitsWithoutImplicit).toNat := by
        rw [BitVec.toNat_ofNat, Nat.mod_eq_of_lt (by omega)]
      have hmantissa : 2 ^ spec.mantissaBitsWithoutImplicit
          + (BitVec.ofNat spec.mantissaBitsWithoutImplicit m).toNat = m := by
        rw [BitVec.toNat_ofNat, Nat.mod_eq_sub_mod hfull, Nat.mod_eq_of_lt]
        · exact Nat.add_sub_cancel' hfull
        · rw [hbits, Nat.pow_add, Nat.pow_one] at hlt
          omega
      rw [if_pos hlog]
      refine (unpack_packComponents sign _ (by omega) (by omega)).trans ?_
      rw [UnpackedFloat.finite.injEq]
      exact ⟨rfl, hmantissa, by omega⟩
    · have hlog : m.log2 + 1 ≠ spec.mantissaBits := by
        have hupper := (Nat.log2_lt hpos.ne').2 (Nat.lt_of_not_le hfull)
        omega
      have hmantissa : (BitVec.ofNat spec.mantissaBitsWithoutImplicit m).toNat = m := by
        rw [BitVec.toNat_ofNat, Nat.mod_eq_of_lt (Nat.lt_of_not_le hfull)]
      have hexponent : e = spec.minExponent := by
        have hleastOnly := mt hge hfull
        rw [minExponent_eq]
        omega
      rw [if_neg hlog]
      refine (unpack_packComponents_zero sign (by rwa [hmantissa])).trans ?_
      rw [UnpackedFloat.finite.injEq]
      exact ⟨rfl, hmantissa, hexponent.symm⟩

/-- A finite number that was unpacked has its exponent in range, if a format has finite numbers of
two exponents at least. -/
theorem atMost_unpack (hbits : 1 < spec.exponentBits) {b : BitVec spec.numBits}
    (hfinite : (UnpackedFloat.unpack spec b).isFinite = true) :
    AtMost (greatestExponent spec) (UnpackedFloat.unpack spec b) := by
  have hrange : 2 ^ 2 ≤ 2 ^ spec.exponentBits := Nat.pow_le_pow_right Nat.two_pos hbits
  have hrangeInt : (2 ^ 2 : ℤ) ≤ 2 ^ spec.exponentBits := by exact_mod_cast hrange
  have hexponent := (unpackExponent b).isLt
  have hexponentInt : ((unpackExponent b).toNat : ℤ) < 2 ^ spec.exponentBits := by
    exact_mod_cast hexponent
  rw [UnpackedFloat.unpack] at hfinite ⊢
  split at hfinite
  · split at hfinite <;> cases hfinite
  · rename_i hordinary
    have hinfinite : (unpackExponent b).toNat ≠ 2 ^ spec.exponentBits - 1 := by
      rw [← toNat_neg_one]
      exact BitVec.toNat_ne.1 hordinary
    have hinfiniteInt : ((unpackExponent b).toNat : ℤ) + 1 ≠ 2 ^ spec.exponentBits := by
      intro hlast
      have hlastNat : (unpackExponent b).toNat + 1 = 2 ^ spec.exponentBits := by
        exact_mod_cast hlast
      omega
    rw [if_neg hordinary, greatestExponent]
    split
    · rename_i hzero
      have hnone : (unpackExponent b).toNat = 0 := by rw [hzero, BitVec.toNat_zero]
      split
      · trivial
      · simp only [AtMost]
        omega
    · simp only [AtMost]
      omega

/-- What is above zero, as numbers in floating point are compared. -/
def IsPositive (x : UnpackedFloat) : Prop := (UnpackedFloat.zero .positive).lt x = true

/-- What is packed with the negative sign is not positive. -/
theorem not_isPositive_packComponents (exponent : BitVec spec.exponentBits)
    (mantissa : BitVec spec.mantissaBitsWithoutImplicit) :
    ¬IsPositive (.unpack spec (packComponents spec .negative exponent mantissa)) := by
  simp only [UnpackedFloat.unpack, unpackSign_packComponents, Sign.ofBitVec_toBitVec]
  split
  · split <;> exact Bool.false_ne_true
  · split
    · split <;> exact Bool.false_ne_true
    · exact Bool.false_ne_true

/-- Packing makes nothing positive. -/
theorem not_isPositive_unpack_pack {x : UnpackedFloat} (h : ¬IsPositive x) :
    ¬IsPositive (.unpack spec (UnpackedFloat.pack spec x)) := by
  cases x with
  | notANumber =>
    rw [UnpackedFloat.pack, unpack_packedNaN]
    exact h
  | zero sign =>
    rw [UnpackedFloat.pack, unpack_packedZero]
    exact h
  | infinity sign =>
    cases sign with
    | positive => exact absurd rfl h
    | negative => exact not_isPositive_packComponents _ _
  | finite sign m e hpos =>
    cases sign with
    | positive => exact absurd rfl h
    | negative =>
      rw [UnpackedFloat.pack]
      split
      · exact not_isPositive_packComponents _ _
      · split <;> exact not_isPositive_packComponents _ _

end ActionGraph.Magnitude
