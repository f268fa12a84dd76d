import ActionGraph.Proofs.Comparison.Laws
import ActionGraph.Proofs.Float.Rounding

/-!
# Numbers of two kinds on one line

Whole numbers compare with each other exactly, and with a number in floating point as the nearest
number of that kind. Each number has its place on the line of the numbers in floating point
(`Value.place?`), and all comparisons go by places, but those of two whole numbers. These agree with
places too, as rounding keeps the order, only not for whole numbers that round to the same place.
-/

namespace ActionGraph

open Clock (exactly)

namespace Comparison

variable {α : Type} [LinearOrder α] {x y : α}

theorem holds_le_iff : holds .le (some (cmp x y)) = true ↔ x ≤ y := by
  rw [← not_lt, ← cmp_eq_gt_iff]
  exact bne_iff_ne

theorem holds_eq_iff : holds .eq (some (cmp x y)) = true ↔ x = y := by
  rw [← cmp_eq_eq_iff x y]
  exact beq_iff_eq

end Comparison

namespace Value

def IsNumber : Value → Prop
  | .int _ => True
  | .float x => x.isNaN = false
  | .bool _ | .string _ | .entity _ => False

def place? : Value → Option Magnitude.Line
  | .int i => Magnitude.place? (nearestFloat i).toModel.unpack
  | .float x => Magnitude.place? x.toModel.unpack
  | .bool _ | .string _ | .entity _ => none

/-- A number in floating point that both whole numbers compare equal to. -/
def Blurs (b : Value) (i j : Int64) : Prop :=
  ∃ x, b = .float x ∧ (Value.int i).compare .eq b = .ok true ∧ b.compare .eq (.int j) = .ok true

end Value

namespace Magnitude

/-- The number that a finite number in floating point stands for. -/
abbrev rational (x : Float) : ℚ := exactly x.toModel.unpack

theorem isNearest_nearestFloat (i : Int64) :
    IsNearest (nearestFloat i).toModel.unpack (i.toInt : ℚ) :=
  isNearest_intFloat (Int64.le_toInt i) (by have := i.toInt_lt; omega)

theorem nearestFloat_mono {i j : Int64} (hle : i.toInt ≤ j.toInt) :
    rational (nearestFloat i) ≤ rational (nearestFloat j) := by
  rcases hle.lt_or_eq with hlt | heq
  · exact (isNearest_nearestFloat i).mono (isNearest_nearestFloat j) (Int.cast_lt.2 hlt)
  · rw [Int64.toInt_inj.1 heq]

/-- Beside a number in floating point, rounding changes no order but makes equal. -/
theorem cmp_nearestFloat (i : Int64) {x : Float} (hfinite : x.isFinite = true) :
    cmp (rational (nearestFloat i)) (rational x)
      = if rational (nearestFloat i) = rational x then .eq
        else cmp (i.toInt : ℚ) (rational x) := by
  have hcanonical : IsCanonical .binary64 x.toModel.unpack := isCanonical_unpack _
  have hnearest := isNearest_nearestFloat i
  split
  · rename_i heq
    exact cmp_eq_eq_iff _ _ |>.2 heq
  · rename_i hne
    rcases lt_trichotomy (i.toInt : ℚ) (rational x) with hlt | heq | hgt
    · rw [(cmp_eq_lt_iff _ _).2 hlt, cmp_eq_lt_iff]
      exact lt_of_le_of_ne (hnearest.le hfinite hcanonical hlt.le) hne
    · rw [heq] at hnearest
      exact absurd (hnearest.exactly_eq hfinite hcanonical) hne
    · rw [(cmp_eq_gt_iff _ _).2 hgt, cmp_eq_gt_iff]
      exact lt_of_le_of_ne (hnearest.ge hfinite hcanonical hgt.le) (Ne.symm hne)

end Magnitude

namespace Value

open Comparison (holds_eq_iff holds_le_iff)
open Magnitude (rational)

variable {a b c : Value} {p q r : Magnitude.Line}

theorem place?_int (i : Int64) : (Value.int i).place?
    = some ((rational (nearestFloat i) : ℚ) : Magnitude.Line) :=
  Magnitude.place?_of_isFinite (Magnitude.isNearest_nearestFloat i).isFinite

theorem IsNumber.exists_place (h : a.IsNumber) : ∃ p, a.place? = some p := by
  cases a with
  | int i => exact ⟨_, place?_int i⟩
  | float x =>
    refine Option.ne_none_iff_exists'.1 fun hnone => ?_
    exact Bool.noConfusion (h.symm.trans (Magnitude.isNaN_iff.2 hnone))
  | bool | string | entity => exact h.elim

theorem compare_int (i j : Int64) (op : Comparison) :
    (Value.int i).compare op (.int j) = .ok (op.holds (some (cmp i.toInt j.toInt))) := by
  rw [cmp_eq_compare]
  rfl

/-- Numbers compare by places, unless both are whole. -/
theorem compare_of_place (hp : a.place? = some p) (hq : b.place? = some q)
    (hmixed : ¬∃ i j, a = .int i ∧ b = .int j) (op : Comparison) :
    a.compare op b = .ok (op.holds (some (cmp p q))) := by
  have horder {x y : Float} (hp : Magnitude.place? x.toModel.unpack = some p)
      (hq : Magnitude.place? y.toModel.unpack = some q) :
      op.holds (orderFloat x y) = op.holds (some (cmp p q)) := by
    rw [Magnitude.orderFloat_of_place hp hq]
  cases a with
  | bool | string | entity => cases hp
  | int i =>
    cases b with
    | bool | string | entity => cases hq
    | int j => exact absurd ⟨i, j, rfl, rfl⟩ hmixed
    | float y => exact congrArg Except.ok (horder hp hq)
  | float x =>
    cases b with
    | bool | string | entity => cases hq
    | int j => exact congrArg Except.ok (horder hp hq)
    | float y => exact congrArg Except.ok (horder hp hq)

theorem place_mono {i j : Int64} (hp : (Value.int i).place? = some p)
    (hq : (Value.int j).place? = some q) (hle : i.toInt ≤ j.toInt) : p ≤ q := by
  rw [place?_int, Option.some.injEq] at hp hq
  rw [← hp, ← hq]
  exact Magnitude.strictMono_coe.monotone (Magnitude.nearestFloat_mono hle)

theorem place_le (hp : a.place? = some p) (hq : b.place? = some q)
    (hle : a.compare .le b = .ok true) : p ≤ q := by
  by_cases hwhole : ∃ i j, a = .int i ∧ b = .int j
  · obtain ⟨i, j, rfl, rfl⟩ := hwhole
    rw [compare_int, Except.ok.injEq, holds_le_iff] at hle
    exact place_mono hp hq hle
  · rwa [compare_of_place hp hq hwhole, Except.ok.injEq, holds_le_iff] at hle

theorem place_eq (hp : a.place? = some p) (hq : b.place? = some q)
    (heq : a.compare .eq b = .ok true) : p = q := by
  by_cases hwhole : ∃ i j, a = .int i ∧ b = .int j
  · obtain ⟨i, j, rfl, rfl⟩ := hwhole
    rw [compare_int, Except.ok.injEq, holds_eq_iff] at heq
    rw [Int64.toInt_inj.1 heq] at hp
    exact Option.some.inj (hp.symm.trans hq)
  · rwa [compare_of_place hp hq hwhole, Except.ok.injEq, holds_eq_iff] at heq

/-! ### Three numbers -/

/-- What two whole numbers compare equal to is equal to both, or they are the same. -/
theorem blurs_of_eq {i j : Int64} (hb : b.IsNumber) (heq : (Value.int i).compare .eq b = .ok true)
    (heq' : b.compare .eq (.int j) = .ok true) : b.Blurs i j ∨ i = j := by
  cases b with
  | bool | string | entity => exact hb.elim
  | float x => exact .inl ⟨x, rfl, heq, heq'⟩
  | int k =>
    rw [compare_int, Except.ok.injEq, holds_eq_iff, Int64.toInt_inj] at heq heq'
    exact .inr (heq.trans heq')

/-- What lies between two whole numbers that are not in this order is where both round to. -/
theorem blurs_of_le {i j : Int64} (hb : b.IsNumber) (hle : (Value.int i).compare .le b = .ok true)
    (hle' : b.compare .le (.int j) = .ok true) (hgt : j.toInt < i.toInt) : b.Blurs i j := by
  obtain ⟨q, hq⟩ := hb.exists_place
  have hp := place?_int i
  have hr := place?_int j
  have hpq := place_le hp hq hle
  have hqr := place_le hq hr hle'
  have hrp := place_mono hr hp hgt.le
  cases b with
  | bool | string | entity => exact hb.elim
  | int k =>
    rw [compare_int, Except.ok.injEq, holds_le_iff] at hle hle'
    omega
  | float x =>
    refine ⟨x, rfl, ?_, ?_⟩
    · rw [compare_of_place hp hq (by simp), Except.ok.injEq, holds_eq_iff]
      exact le_antisymm hpq (hqr.trans hrp)
    · rw [compare_of_place hq hr (by simp), Except.ok.injEq, holds_eq_iff]
      exact le_antisymm hqr (hrp.trans hpq)

theorem compare_eq_trans_iff (ha : a.IsNumber) (hb : b.IsNumber) (hc : c.IsNumber)
    (hab : a.compare .eq b = .ok true) (hbc : b.compare .eq c = .ok true) :
    a.compare .eq c = .ok true ↔ ¬∃ i j, a = .int i ∧ c = .int j ∧ i ≠ j ∧ b.Blurs i j := by
  by_cases hwhole : ∃ i j, a = .int i ∧ c = .int j
  · obtain ⟨i, j, rfl, rfl⟩ := hwhole
    rw [compare_int, Except.ok.injEq, holds_eq_iff, Int64.toInt_inj]
    constructor
    · rintro rfl ⟨i', j', hi, hj, hne, -⟩
      exact hne (Value.int.inj (hi.symm.trans hj))
    · intro hnone
      by_contra hne
      exact hnone ⟨i, j, rfl, rfl, hne, (blurs_of_eq hb hab hbc).resolve_right hne⟩
  · obtain ⟨p, hp⟩ := ha.exists_place
    obtain ⟨q, hq⟩ := hb.exists_place
    obtain ⟨r, hr⟩ := hc.exists_place
    rw [compare_of_place hp hr hwhole, Except.ok.injEq, holds_eq_iff]
    refine iff_of_true ((place_eq hp hq hab).trans (place_eq hq hr hbc)) ?_
    rintro ⟨i, j, hi, hj, -⟩
    exact hwhole ⟨i, j, hi, hj⟩

theorem compare_le_trans_iff (ha : a.IsNumber) (hb : b.IsNumber) (hc : c.IsNumber)
    (hab : a.compare .le b = .ok true) (hbc : b.compare .le c = .ok true) :
    a.compare .le c = .ok true ↔
      ¬∃ i j, a = .int i ∧ c = .int j ∧ j.toInt < i.toInt ∧ b.Blurs i j := by
  by_cases hwhole : ∃ i j, a = .int i ∧ c = .int j
  · obtain ⟨i, j, rfl, rfl⟩ := hwhole
    rw [compare_int, Except.ok.injEq, holds_le_iff]
    constructor
    · rintro hle ⟨i', j', hi, hj, hlt, -⟩
      rw [Value.int.inj hi, Value.int.inj hj] at hle
      exact hle.not_gt hlt
    · intro hnone
      by_contra! hlt
      exact hnone ⟨i, j, rfl, rfl, hlt, blurs_of_le hb hab hbc hlt⟩
  · obtain ⟨p, hp⟩ := ha.exists_place
    obtain ⟨q, hq⟩ := hb.exists_place
    obtain ⟨r, hr⟩ := hc.exists_place
    rw [compare_of_place hp hr hwhole, Except.ok.injEq, holds_le_iff]
    refine iff_of_true ((place_le hp hq hab).trans (place_le hq hr hbc)) ?_
    rintro ⟨i, j, hi, hj, -⟩
    exact hwhole ⟨i, j, hi, hj⟩

/-! ### Two numbers -/

theorem compare_int_float (i : Int64) {x : Float} (hfinite : x.isFinite = true) (op : Comparison) :
    (Value.int i).compare op (.float x) = .ok (op.holds (some
      (if rational (nearestFloat i) = rational x then .eq
        else cmp (i.toInt : ℚ) (rational x)))) := by
  have hplace : (Value.float x).place? = _ := Magnitude.place?_of_isFinite hfinite
  rw [compare_of_place (place?_int i) hplace (by simp), Magnitude.cmp_coe,
    Magnitude.cmp_nearestFloat i hfinite]

theorem Blurs.eq {i j : Int64} (h : b.Blurs i j) (hb : b.IsNumber)
    (hi : i.toInt.natAbs ≤ 2 ^ 53) (hj : j.toInt.natAbs ≤ 2 ^ 53) : i = j := by
  obtain ⟨x, rfl, hleft, hright⟩ := h
  obtain ⟨q, hq⟩ := hb.exists_place
  have hplaces := (place_eq (place?_int i) hq hleft).trans (place_eq hq (place?_int j) hright)
  have heq := Magnitude.strictMono_coe.injective hplaces
  rw [rational, rational, (Magnitude.isNearest_nearestFloat i).exactly_eq_intCast hi,
    (Magnitude.isNearest_nearestFloat j).exactly_eq_intCast hj] at heq
  exact Int64.toInt_inj.1 (Int.cast_injective heq)

theorem compare_float_int (i : Int64) {x : Float} (hfinite : x.isFinite = true) (op : Comparison) :
    (Value.float x).compare op (.int i) = .ok (op.holds (some
      (if rational (nearestFloat i) = rational x then .eq
        else cmp (rational x) (i.toInt : ℚ)))) := by
  have hplace : (Value.float x).place? = _ := Magnitude.place?_of_isFinite hfinite
  rw [compare_of_place hplace (place?_int i) (by simp), Magnitude.cmp_coe, ← cmp_swap,
    Magnitude.cmp_nearestFloat i hfinite, apply_ite Ordering.swap, cmp_swap]
  rfl

/-- **Numbers compare as exact ones, but for whole numbers that are rounded.** A whole number is
rounded beside one in floating point, to a nearest one, and is then equal to it. -/
theorem numbers_compare_as_nearest (ha : a.IsNumber) (hb : b.IsNumber) (hc : c.IsNumber) :
    (a.compare .eq b = .ok true → b.compare .eq c = .ok true →
      (a.compare .eq c = .ok true ↔
        ¬∃ i j, a = .int i ∧ c = .int j ∧ i ≠ j ∧ b.Blurs i j)) ∧
    (a.compare .le b = .ok true → b.compare .le c = .ok true →
      (a.compare .le c = .ok true ↔
        ¬∃ i j, a = .int i ∧ c = .int j ∧ j.toInt < i.toInt ∧ b.Blurs i j)) ∧
    (∀ i j, b.Blurs i j → i.toInt.natAbs ≤ 2 ^ 53 → j.toInt.natAbs ≤ 2 ^ 53 → i = j) ∧
    ∀ (i : Int64) (x : Float), x.isFinite = true →
      (∀ op : Comparison,
        (Value.int i).compare op (.float x) = .ok (op.holds (some
          (if rational (nearestFloat i) = rational x then .eq
            else cmp (i.toInt : ℚ) (rational x)))) ∧
        (Value.float x).compare op (.int i) = .ok (op.holds (some
          (if rational (nearestFloat i) = rational x then .eq
            else cmp (rational x) (i.toInt : ℚ))))) ∧
      |rational (nearestFloat i) - i.toInt| ≤ |rational x - i.toInt| ∧
      (i.toInt.natAbs ≤ 2 ^ 53 → rational (nearestFloat i) = i.toInt) := by
  refine ⟨compare_eq_trans_iff ha hb hc, compare_le_trans_iff ha hb hc,
    fun i j h => h.eq hb, fun i x hfinite => ⟨fun op => ?_, ?_, ?_⟩⟩
  · exact ⟨compare_int_float i hfinite op, compare_float_int i hfinite op⟩
  · exact (Magnitude.isNearest_nearestFloat i).abs_sub_le _ hfinite (Magnitude.isCanonical_unpack _)
  · exact (Magnitude.isNearest_nearestFloat i).exactly_eq_intCast

/-- Two neighbours beyond the 53 bits of a mantissa are equal to the same number. -/
theorem numbers_compare_as_nearest_beyond_mantissa :
    (Value.float 9007199254740992.0).Blurs 9007199254740993 9007199254740992 ∧
    (Value.int 9007199254740993).compare .eq (.int 9007199254740992) ≠ .ok true ∧
    (Value.int 9007199254740993).compare .le (.int 9007199254740992) ≠ .ok true := by
  have hblurs : (Value.float 9007199254740992.0).Blurs 9007199254740993 9007199254740992 :=
    ⟨_, rfl, rfl, rfl⟩
  obtain ⟨heq, hle, -⟩ := numbers_compare_as_nearest (a := .int 9007199254740993)
    (b := .float 9007199254740992.0) (c := .int 9007199254740992) trivial rfl trivial
  refine ⟨hblurs, fun h => ?_, fun h => ?_⟩
  · exact (heq rfl rfl).1 h ⟨_, _, rfl, rfl, by decide, hblurs⟩
  · exact (hle rfl rfl).1 h ⟨_, _, rfl, rfl, by decide, hblurs⟩

/-- Beyond the 53 bits of a mantissa, neither equality nor order carries over, and a whole number
is equal to another number. -/
theorem order_of_numbers_is_not_exact :
    (Value.int 9007199254740993).compare .eq (.float 9007199254740992.0) = .ok true ∧
    (Value.float 9007199254740992.0).compare .eq (.int 9007199254740992) = .ok true ∧
    (Value.int 9007199254740993).compare .eq (.int 9007199254740992) = .ok false ∧
    (Value.int 9007199254740993).compare .le (.float 9007199254740992.0) = .ok true ∧
    (Value.float 9007199254740992.0).compare .le (.int 9007199254740992) = .ok true ∧
    (Value.int 9007199254740993).compare .le (.int 9007199254740992) = .ok false ∧
    rational 9007199254740992.0 = 9007199254740992 := by
  refine ⟨rfl, rfl, rfl, rfl, rfl, rfl, ?_⟩
  show ((2 ^ 52 : ℕ) : ℚ) * 2 ^ (1 : ℤ) = 9007199254740992
  norm_num

end Value

end ActionGraph
