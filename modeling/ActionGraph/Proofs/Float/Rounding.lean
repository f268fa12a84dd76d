import ActionGraph.Proofs.Float.Units

/-!
# Whole numbers go to nearest numbers in floating point

What is rounded is at most half a unit away, and no number of the format comes nearer (`IsNearest`):
it is a whole number of the same units, or lies below all that is rounded to them. Packing then
changes nothing, as the exponents of whole numbers of 64 bits are in range.
-/

namespace ActionGraph.Magnitude

open Float.Model (Format UnpackedFloat totalExponent)
open Float.Model.UnpackedFloat
open Clock (exactly)

/-! ### Rounding is to the nearest -/

/-- A finite number of the format, as near to `r` as any other. -/
structure IsNearest (x : UnpackedFloat) (r : ℚ) : Prop where
  isFinite : x.isFinite = true
  isCanonical : IsCanonical .binary64 x
  abs_sub_le (y : UnpackedFloat) :
    y.isFinite = true → IsCanonical .binary64 y → |exactly x - r| ≤ |exactly y - r|

theorem IsNearest.exactly_eq {x y : UnpackedFloat} (h : IsNearest x (exactly y))
    (hy : y.isFinite = true) (hcanonical : IsCanonical .binary64 y) : exactly x = exactly y := by
  have hle := h.abs_sub_le y hy hcanonical
  rw [sub_self, abs_zero] at hle
  exact sub_eq_zero.1 (abs_eq_zero.1 (le_antisymm hle (abs_nonneg _)))

theorem exactly_neg_eq (x : UnpackedFloat) : exactly x.neg = -exactly x := by
  cases x with
  | finite sign m e hpos =>
    cases sign with
    | positive => rfl
    | negative => exact (neg_neg _).symm
  | zero | infinity | notANumber => exact neg_zero.symm

theorem IsNearest.neg {x : UnpackedFloat} {r : ℚ} (h : IsNearest x r) : IsNearest x.neg (-r) := by
  have hfinite {y : UnpackedFloat} (hy : y.isFinite = true) : y.neg.isFinite = true := by
    cases y <;> exact hy
  have hcanonical {y : UnpackedFloat} (hy : IsCanonical .binary64 y) :
      IsCanonical .binary64 y.neg := by
    cases y <;> exact hy
  refine ⟨hfinite h.isFinite, hcanonical h.isCanonical, fun y hy hyc => ?_⟩
  have hle := h.abs_sub_le y.neg (hfinite hy) (hcanonical hyc)
  rw [exactly_neg_eq] at hle ⊢
  calc |-exactly x - -r| = |exactly x - r| := by rw [← neg_sub', abs_neg]
    _ ≤ |-exactly y - r| := hle
    _ = |exactly y - -r| := by rw [← abs_neg, neg_sub', neg_neg]

section

variable {x y : UnpackedFloat} {r r' : ℚ}

theorem IsNearest.le (h : IsNearest x r) (hfinite : y.isFinite = true)
    (hcanonical : IsCanonical .binary64 y) (hle : r ≤ exactly y) : exactly x ≤ exactly y := by
  have hnear := h.abs_sub_le y hfinite hcanonical
  rw [abs_of_nonneg (sub_nonneg.2 hle)] at hnear
  exact sub_le_sub_iff_right r |>.1 ((le_abs_self _).trans hnear)

theorem IsNearest.ge (h : IsNearest x r) (hfinite : y.isFinite = true)
    (hcanonical : IsCanonical .binary64 y) (hle : exactly y ≤ r) : exactly y ≤ exactly x := by
  have hnear := h.abs_sub_le y hfinite hcanonical
  rw [abs_of_nonpos (sub_nonpos.2 hle), neg_sub, abs_sub_comm] at hnear
  exact sub_le_sub_iff_left r |>.1 ((le_abs_self _).trans hnear)

theorem IsNearest.mono (h : IsNearest x r) (h' : IsNearest y r') (hlt : r < r') :
    exactly x ≤ exactly y := by
  by_contra! hgt
  have hx := h.abs_sub_le y h'.isFinite h'.isCanonical
  have hy := h'.abs_sub_le x h.isFinite h.isCanonical
  -- Both numbers would lie on the middle between the two.
  have hmiddle : exactly x + exactly y ≤ 2 * r := by
    rcases abs_cases (exactly x - r) with hx' | hx' <;>
      rcases abs_cases (exactly y - r) with hy' | hy' <;> linarith
  have hmiddle' : 2 * r' ≤ exactly x + exactly y := by
    rcases abs_cases (exactly x - r') with hx' | hx' <;>
      rcases abs_cases (exactly y - r') with hy' | hy' <;> linarith
  linarith

end

theorem abs_sub_le_of_int {n : ℕ} {x : ℚ} (h : |(n : ℚ) - x| ≤ 1 / 2) (k : ℤ) :
    |(n : ℚ) - x| ≤ |(k : ℚ) - x| := by
  rcases eq_or_ne (n : ℤ) k with rfl | hne
  · rfl
  · have hapart : (1 : ℚ) ≤ |(n : ℚ) - k| := by
      exact_mod_cast Int.one_le_abs (sub_ne_zero.2 hne)
    have htriangle := abs_sub_le (n : ℚ) x k
    rw [abs_sub_comm x] at htriangle
    linarith

/-- The exponent to which a number is rounded. -/
def target (m : ℕ) (e : ℤ) : ℤ := Format.binary64.targetExponent (totalExponent m e)

theorem target_eq (m : ℕ) (e : ℤ) : target m e = max (m.log2 + 1 + e - 53) (-1074) := rfl

variable {m : ℕ} {e : ℤ}

theorem two_pow_target_le (hpos : 0 < m) (hlt : -1074 < target m e) :
    2 ^ 52 * 2 ^ target m e ≤ (m : ℚ) * 2 ^ e :=
  two_pow_unit_le hpos hlt

/-- Every number of the format is a whole number of units, or lies below all that are rounded to
this unit. -/
theorem exists_units {y : UnpackedFloat} (hfinite : y.isFinite = true)
    (hcanonical : IsCanonical .binary64 y) {t : ℤ} (ht : -1074 ≤ t) :
    (∃ k : ℤ, exactly y = k * 2 ^ t) ∨ -1074 < t ∧ exactly y ≤ 2 ^ 52 * 2 ^ t := by
  cases y with
  | infinity | notANumber => cases hfinite
  | zero sign => exact .inl ⟨0, by rw [Int.cast_zero, zero_mul]; rfl⟩
  | finite sign m e hpos =>
    have hnormal : IsNormal .binary64 m e := hcanonical
    rcases le_or_gt t e with hle | hlt
    · have hscale : (m : ℚ) * 2 ^ e = (m * 2 ^ (e - t).toNat : ℤ) * 2 ^ t := by
        push_cast
        rw [zpow_eq_mul hle, mul_assoc]
      cases sign with
      | positive => exact .inl ⟨_, hscale⟩
      | negative =>
        refine .inl ⟨-(m * 2 ^ (e - t).toNat), ?_⟩
        rw [Int.cast_neg, neg_mul, ← hscale]
        rfl
    · have hleast : (-1074 : ℤ) ≤ e := hnormal.le_exponent
      refine .inr ⟨by omega, ?_⟩
      have hbelow : (m : ℚ) * 2 ^ e < (2 ^ 52 : ℕ) * 2 ^ t :=
        mul_zpow_lt (k := 52) hnormal.mantissa_lt le_rfl hlt
      push_cast at hbelow
      cases sign with
      | positive => exact hbelow.le
      | negative => exact (exactly_neg hpos).le.trans (by positivity)

theorem isNearest_roundWithAccuracy (hpos : 0 < m) (he : e ≤ target m e) :
    IsNearest (roundWithAccuracy .binary64 .positive m e .exact) (m * 2 ^ e) := by
  obtain ⟨n, hnear, hexactly, hfinite, hcanonical⟩ := exists_rounded .binary64 hpos he
  change |(n : ℚ) - m * 2 ^ e / 2 ^ target m e| ≤ 1 / 2 at hnear
  change _ = (n : ℚ) * 2 ^ target m e at hexactly
  have hunit : (0 : ℚ) < 2 ^ target m e := zpow_pos two_pos _
  refine ⟨hfinite, hcanonical, fun y hy hyc => ?_⟩
  have hinteger := abs_sub_le_of_int hnear
  have hunits (x : ℚ) : |x - m * 2 ^ e|
      = |x / 2 ^ target m e - m * 2 ^ e / 2 ^ target m e| * 2 ^ target m e := by
    rw [← sub_div, abs_div, abs_of_pos hunit, div_mul_cancel₀ _ hunit.ne']
  rw [hexactly, hunits, hunits (exactly y), mul_div_cancel_right₀ _ hunit.ne']
  apply mul_le_mul_of_nonneg_right ?_ hunit.le
  rcases exists_units hy hyc (t := target m e) (by rw [target_eq]; omega) with
    ⟨k, hk⟩ | ⟨hlt, hbelow⟩
  · rw [hk, mul_div_cancel_right₀ _ hunit.ne']
    exact hinteger k
  · have hlow := (div_le_iff₀ hunit).2 hbelow
    have hhigh := (le_div_iff₀ hunit).2 (two_pow_target_le hpos hlt)
    refine (hinteger (2 ^ 52)).trans ?_
    push_cast
    rw [abs_sub_comm, abs_of_nonneg (by linarith), abs_sub_comm, abs_of_nonneg (by linarith)]
    linarith

/-! ### Conversion -/

/-- What is packed in 64 bits is found again. -/
theorem unpack_pack_double {x : UnpackedFloat} (hcanonical : IsCanonical .binary64 x)
    (hbound : AtMost 971 x) : (Float.Model.pack x).unpack = x :=
  unpack_pack hcanonical hbound

/-- More bits are added to a mantissa before it is rounded. -/
theorem isNearest_widened (hpos : 0 < m) {k : ℕ} (hk : e - k ≤ target m e) :
    IsNearest (roundWithAccuracy .binary64 .positive (m * 2 ^ k) (e - k) .exact) (m * 2 ^ e) := by
  have htarget : target (m * 2 ^ k) (e - k) = target m e := unitExponent_widened .binary64 hpos e k
  rw [← widened_mul_zpow m e k]
  exact isNearest_roundWithAccuracy (Nat.mul_pos hpos (Nat.two_pow_pos k)) (by rwa [htarget])

theorem isNearest_round {n : ℕ} (hpos : 0 < n) :
    IsNearest (UnpackedFloat.round .binary64 .positive n 0) n := by
  have htarget : (0 - (0 - target n 0).toNat : ℤ) ≤ target n 0 := by omega
  have hnearest := isNearest_widened hpos htarget
  rw [zpow_zero, mul_one] at hnearest
  rw [UnpackedFloat.round, decreaseExponent, Nat.shiftLeft_eq]
  exact hnearest

theorem isNearest_ofNat {n : ℕ} (hpos : 0 < n) :
    IsNearest (UnpackedFloat.ofNat .binary64 n) n := by
  have hcompare : Ord.compare (n : ℤ) 0 = .gt := Int.compare_eq_gt.2 (Int.natCast_pos.2 hpos)
  rw [UnpackedFloat.ofNat, UnpackedFloat.ofInt, UnpackedFloat.normalize, hcompare]
  exact isNearest_round hpos

/-- A whole number of at most 53 bits is a number of the format, and so is the next one. -/
theorem exists_canonical {n : ℕ} (hn : n ≤ 2 ^ 53) :
    ∃ y : UnpackedFloat, y.isFinite = true ∧ IsCanonical .binary64 y ∧ exactly y = n := by
  rcases Nat.eq_zero_or_pos n with rfl | hpos
  · exact ⟨.zero .positive, rfl, trivial, Nat.cast_zero.symm⟩
  rcases hn.lt_or_eq with hlt | rfl
  · have hlog : n.log2 ≤ 52 := Nat.le_of_lt_succ ((Nat.log2_lt hpos.ne').2 hlt)
    have hfew : 0 < 2 ^ (52 - n.log2) := Nat.two_pow_pos _
    have hfull := log2_mul_two_pow hpos (52 - n.log2)
    rw [Nat.add_sub_cancel' hlog, Nat.log2_eq_iff (Nat.mul_pos hpos hfew).ne'] at hfull
    refine ⟨.finite .positive (n * 2 ^ (52 - n.log2)) (-(52 - n.log2 : ℕ)) (Nat.mul_pos hpos hfew),
      rfl, ⟨hfull.2, ?_, fun _ => hfull.1⟩, ?_⟩
    · show (-1074 : ℤ) ≤ -(52 - n.log2 : ℕ)
      omega
    · show ((n * 2 ^ (52 - n.log2) : ℕ) : ℚ) * 2 ^ (-(52 - n.log2 : ℕ) : ℤ) = n
      rw [zpow_neg, zpow_natCast]
      push_cast
      exact mul_inv_cancel_right₀ (pow_ne_zero _ two_ne_zero) _
  · refine ⟨.finite .positive (2 ^ 52) 1 (by decide), rfl,
      ⟨by decide, by decide, fun _ => le_rfl⟩, ?_⟩
    show ((2 ^ 52 : ℕ) : ℚ) * 2 ^ (1 : ℤ) = (2 ^ 53 : ℕ)
    norm_num

theorem IsNearest.exactly_eq_natCast {x : UnpackedFloat} {n : ℕ} (h : IsNearest x n)
    (hn : n ≤ 2 ^ 53) : exactly x = n := by
  obtain ⟨y, hfinite, hcanonical, hy⟩ := exists_canonical hn
  rw [← hy] at h ⊢
  exact h.exactly_eq hfinite hcanonical

theorem IsNearest.exactly_eq_intCast {x : UnpackedFloat} {i : ℤ} (h : IsNearest x i)
    (hi : i.natAbs ≤ 2 ^ 53) : exactly x = i := by
  rcases i.natAbs_eq with hnat | hnat
  · rw [hnat, Int.cast_natCast] at h ⊢
    exact h.exactly_eq_natCast hi
  · rw [hnat, Int.cast_neg, Int.cast_natCast] at h ⊢
    have hneg := h.neg
    rw [neg_neg] at hneg
    rw [← hneg.exactly_eq_natCast hi, exactly_neg_eq, neg_neg]

theorem exists_positive {x : UnpackedFloat} (h : 0 < exactly x) :
    ∃ m e hpos, x = .finite .positive m e hpos := by
  cases x with
  | zero | infinity | notANumber => exact absurd h (lt_irrefl 0)
  | finite sign m e hpos =>
    cases sign with
    | positive => exact ⟨m, e, hpos, rfl⟩
    | negative => exact absurd h (exactly_neg hpos).not_gt

theorem isNearest_mul_one {x : UnpackedFloat} (hpositive : 0 < exactly x) :
    IsNearest (UnpackedFloat.mul .binary64 x (.finite .positive (2 ^ 52) (-52) (by decide)))
      (exactly x) := by
  obtain ⟨m, e, hpos, rfl⟩ := exists_positive hpositive
  have htarget : e - (52 : ℕ) ≤ target m e := by
    rw [target_eq]
    omega
  exact isNearest_widened hpos htarget

theorem isNearest_unpack_toFloat {n : ℕ} (hpos : 0 < n) (hn : n < 2 ^ 53) :
    IsNearest (n.toUInt64.toFloat * Float.exactlyRepresentablePowersOfTen[0]).toModel.unpack n := by
  have hword : n.toUInt64.toNat = n := UInt64.toNat_ofNat_of_lt' (Nat.lt_trans hn (by decide))
  have hone : Float.exactlyRepresentablePowersOfTen[0].toModel.unpack
      = .finite .positive (2 ^ 52) (-52) (by decide) := rfl
  have hnearest := isNearest_ofNat hpos
  have hexact := hnearest.exactly_eq_natCast hn.le
  have hunpack : n.toUInt64.toFloat.toModel.unpack = UnpackedFloat.ofNat .binary64 n := by
    change (Float.Model.pack (UnpackedFloat.ofNat .binary64 n.toUInt64.toNat)).unpack = _
    rw [hword]
    exact unpack_pack_double hnearest.isCanonical ((atMost_ofNat hn).mono (by decide))
  have hproduct : IsNearest (UnpackedFloat.mul .binary64 n.toUInt64.toFloat.toModel.unpack
      Float.exactlyRepresentablePowersOfTen[0].toModel.unpack) n := by
    rw [hunpack, hone, ← hexact]
    exact isNearest_mul_one (hexact ▸ Nat.cast_pos.2 hpos)
  have hsmall : AtMost (-52) Float.exactlyRepresentablePowersOfTen[0].toModel.unpack :=
    Int.le_refl (-52)
  have hbound := atMost_mul (atMost_toFloat hn) hsmall (by decide)
  exact (unpack_pack_double hproduct.isCanonical (hbound.mono (by decide))).symm ▸ hproduct

theorem isNearest_ofScientific {n : ℕ} (hpos : 0 < n) :
    IsNearest (UnpackedFloat.ofScientific .binary64 n 0) n := by
  have htarget : (0 - (53 : ℕ) : ℤ) ≤ target n 0 := by
    rw [target_eq]
    omega
  have hnearest := isNearest_widened hpos htarget
  rw [zpow_zero, mul_one] at hnearest
  rw [ofScientific_zero hpos.ne', Nat.shiftLeft_eq, Nat.pow_zero, Nat.mul_one]
  exact hnearest

theorem isNearest_natFloat {n : ℕ} (hn : n < 2 ^ 64) :
    IsNearest (Float.ofNat n).toModel.unpack n := by
  rcases Nat.eq_zero_or_pos n with rfl | hpos
  · have hzero : exactly (Float.ofNat 0).toModel.unpack = 0 := rfl
    refine ⟨rfl, trivial, fun y _ _ => ?_⟩
    rw [hzero, Nat.cast_zero, sub_zero, abs_zero]
    exact abs_nonneg _
  · change IsNearest (Float.ofScientific n false 0).toModel.unpack n
    rw [Float.ofScientific]
    split
    · rename_i hshort
      exact isNearest_unpack_toFloat hpos hshort.1
    · have hnearest := isNearest_ofScientific hpos
      have hbound : AtMost 971 _ := (atMost_ofScientific hpos.ne' hn).mono (by decide)
      exact (unpack_pack_double hnearest.isCanonical hbound).symm ▸ hnearest

/-- A whole number of 64 bits, with sign or without, goes to a nearest number of the format. -/
theorem isNearest_intFloat {i : ℤ} (hleast : -2 ^ 63 ≤ i) (hgreatest : i < 2 ^ 64) :
    IsNearest (Float.ofInt i).toModel.unpack i := by
  cases i with
  | ofNat n => exact isNearest_natFloat (Int.ofNat_lt.1 hgreatest)
  | negSucc n =>
    have hword : n + 1 < 2 ^ 64 := by omega
    have hnegated := (isNearest_natFloat hword).neg
    have hbound : AtMost 971 _ := (atMost_ofNat_of_lt_word hword).neg.mono (by decide)
    have hunpack := unpack_pack_double hnegated.isCanonical hbound
    rw [Int.cast_negSucc]
    exact hunpack.symm ▸ hnegated

end ActionGraph.Magnitude
