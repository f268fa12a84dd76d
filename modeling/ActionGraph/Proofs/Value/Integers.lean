import ActionGraph.Proofs.Json.Numerals
import ActionGraph.Value.Form

/-!
# Whole numbers as values

A whole number that fits 64 bits with sign is meant to be read as itself, and any other to be
refused. The reader of JSON text decides first, and what it does not keep as a whole number comes to
a value in floating point. So it goes with minus zero, with the numbers below 64 bits with sign, and
with those above 64 bits without sign, unless the reader refuses them by itself.
-/

namespace ActionGraph.Value

open Json (Number Numeral decodeText)

variable (n : Numeral)

/-- A literal keeps its value where it fits 64 bits with sign, and is refused where it does not. -/
def IsKept : Prop :=
  if -2 ^ 63 ≤ n.value ∧ n.value < 2 ^ 63 then
    ∃ i : Int64, decodeText decoder n.text = .ok (.int i) ∧ i.toInt = n.value
  else ∃ fault, decodeText decoder n.text = .error fault

def IsFloat : Prop := ∃ x, decodeText decoder n.text = .ok (.float x)

theorem fitsInt_iff {i : Int} : fitsInt i = true ↔ -2 ^ 63 ≤ i ∧ i < 2 ^ 63 := by
  have hmin : Int64.minValue.toInt = -2 ^ 63 := rfl
  have hmax : Int64.maxValue.toInt = 2 ^ 63 - 1 := rfl
  rw [fitsInt, Bool.and_eq_true, decide_eq_true_iff, decide_eq_true_iff, hmin, hmax]
  omega

variable {n}

theorem not_isKept_of_isFloat (hfloat : IsFloat n) : ¬IsKept n := by
  obtain ⟨x, hx⟩ := hfloat
  rw [IsKept]
  split
  · rintro ⟨i, hi, -⟩
    simp [hx] at hi
  · rintro ⟨fault, hfault⟩
    simp [hx] at hfault

theorem decodeText_of_integer {i : Int} (hread : n.read = .ok (.integer i)) :
    decodeText decoder n.text = ofLiteral (.number (.integer i)) := by
  rw [Json.decodeText_numeral, hread]
  rfl

theorem isFloat_of_real {x : Float} (hread : n.read = .ok (.real x)) : IsFloat n := by
  refine ⟨x, ?_⟩
  rw [Json.decodeText_numeral, hread]
  rfl

/-- A whole number that the reader keeps as one is read as itself, or refused as out of range. -/
theorem isKept_of_integer (hread : n.read = .ok (.integer n.value)) : IsKept n := by
  rw [IsKept, decodeText_of_integer hread, ofLiteral]
  by_cases hfits : -2 ^ 63 ≤ n.value ∧ n.value < 2 ^ 63
  · rw [if_pos hfits, if_pos (fitsInt_iff.2 hfits)]
    refine ⟨_, rfl, ?_⟩
    exact Int64.toInt_ofInt_of_le (by omega) (by omega)
  · rw [if_neg hfits, if_neg (mt fitsInt_iff.1 hfits)]
    exact ⟨_, rfl⟩

/-- A number that the reader refuses is refused, and it is one of those that ought to be. -/
theorem isKept_of_isRefused (hrefused : n.IsRefused) : IsKept n := by
  have hbeyond : ¬(-2 ^ 63 ≤ n.value ∧ n.value < 2 ^ 63) := by
    have hlarge := hrefused.wordMax_lt
    have hword : Json.wordMax = 2 ^ 64 - 1 := rfl
    rw [Numeral.value]
    split <;> omega
  obtain ⟨fault, hfault⟩ := hrefused
  rw [IsKept, if_neg hbeyond, Json.decodeText_numeral, hfault]
  exact ⟨_, rfl⟩

/-- **A whole number keeps its value or is refused if the reader keeps it whole or refuses it, and
else it becomes a number in floating point.** The reader keeps those whole that lie between the
least number of 64 bits with sign and the greatest one without, but for minus zero. -/
theorem integers_are_kept_iff (n : Numeral) :
    (IsKept n ↔ n.IsWhole ∨ n.IsRefused) ∧ (¬IsKept n → IsFloat n) := by
  by_cases hwhole : n.IsWhole
  · have hkept := isKept_of_integer (Numeral.read_of_isWhole hwhole)
    exact ⟨iff_of_true hkept (.inl hwhole), fun hlost => absurd hkept hlost⟩
  · rcases Numeral.read_of_not_isWhole hwhole with hrefused | ⟨x, hreal⟩
    · have hkept := isKept_of_isRefused hrefused
      exact ⟨iff_of_true hkept (.inr hrefused), fun hlost => absurd hkept hlost⟩
    · have hfloat := isFloat_of_real hreal
      have hrefused : ¬n.IsRefused := by
        rintro ⟨fault, hfault⟩
        simp [hreal] at hfault
      refine ⟨iff_of_false (not_isKept_of_isFloat hfloat) ?_, fun _ => hfloat⟩
      exact fun hexact => hexact.elim hwhole hrefused

/-- The first whole number below 64 bits with sign. -/
def below : Numeral where
  negative := true
  digits := "9223372036854775809".toList
  isDigit := List.all_eq_true.1 (by decide)
  canonical := .inr ⟨_, _, rfl, by decide⟩

def minusZero : Numeral where
  negative := true
  digits := ['0']
  isDigit := List.all_eq_true.1 (by decide)
  canonical := .inl rfl

/-- Neither is the number below refused, nor is minus zero read as zero. -/
theorem integers_are_not_kept_below :
    (below.text = "-9223372036854775809" ∧ below.value = -2 ^ 63 - 1 ∧ ¬IsKept below) ∧
      minusZero.text = "-0" ∧ minusZero.value = 0 ∧ ¬IsKept minusZero :=
  ⟨⟨by decide, by decide, not_isKept_of_isFloat ⟨_, rfl⟩⟩, by decide, by decide,
    not_isKept_of_isFloat ⟨_, rfl⟩⟩

end ActionGraph.Value
