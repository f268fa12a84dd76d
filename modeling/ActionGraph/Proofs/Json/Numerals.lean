import ActionGraph.Decimal.Numeral
import ActionGraph.Json.Decoder
import Mathlib.Algebra.Group.Int.Defs
import Mathlib.Algebra.Group.Nat.Defs
import Mathlib.Data.List.TakeWhile

/-!
# Reading whole numbers

A whole number is written with digits behind an optional minus sign, and without needless zeros in
front. The reader follows the digits and keeps their number as long as it fits a word of 64 bits.
Such a number is whole, if a sign does not take it below the whole numbers of 64 bits. A number that
does not fit a word goes on as a scaled one, which is not whole any more, or is out of range.
-/

namespace ActionGraph.Json

/-- A whole number as it is written. -/
structure Numeral where
  negative : Bool
  digits : List Char
  isDigit : ∀ c ∈ digits, c.isDigit = true
  canonical : digits = ['0'] ∨ ∃ c rest, digits = c :: rest ∧ c ≠ '0'

namespace Numeral

variable (n : Numeral)

def chars : List Char := if n.negative then '-' :: n.digits else n.digits

def text : String := String.ofList n.chars

def magnitude : Nat := Decimal.numberOfDigits n.digits

def value : Int := if n.negative then -n.magnitude else n.magnitude

/-- What the reader makes of the digits. -/
def read : Except SyntaxError Number :=
  if n.magnitude ≤ wordMax then .ok (whole n.negative n.magnitude)
  else scaled n.negative (appendDigits 0 n.digits).1 (appendDigits 0 n.digits).2.length

end Numeral

/-! ### Signs -/

theorem whole_false (significand : Nat) : whole false significand = .integer significand := rfl

theorem whole_true_of_le {significand : Nat} (hpos : significand ≠ 0)
    (hle : significand ≤ 2 ^ 63) : whole true significand = .integer (-significand) := by
  have hwhole : ¬((decide (significand = 0) || decide (1 <<< 63 < significand)) = true) := by
    simpa [hpos] using hle
  rw [whole, if_neg (by decide), if_neg hwhole]

theorem whole_true_of_lt {significand : Nat} (hreal : significand = 0 ∨ 2 ^ 63 < significand) :
    whole true significand = .real (-(Float.ofNat significand)) := by
  have hwhole : (decide (significand = 0) || decide (1 <<< 63 < significand)) = true := by
    simpa using hreal
  rw [whole, if_neg (by decide), if_pos hwhole]

/-! ### Digits -/

/-- The number of the digits behind those of another number. -/
def extend (significand : Nat) (digits : List Char) : Nat :=
  digits.foldl (fun n c => 10 * n + digitValue c) significand

theorem le_extend (significand : Nat) (digits : List Char) :
    significand ≤ extend significand digits := by
  induction digits generalizing significand with
  | nil => exact Nat.le_refl significand
  | cons c rest ih =>
    have hrest := ih (10 * significand + digitValue c)
    rw [extend, List.foldl_cons]
    rw [extend] at hrest
    omega

theorem appendDigits_of_le {significand : Nat} {digits : List Char}
    (hfits : extend significand digits ≤ wordMax) :
    appendDigits significand digits = (extend significand digits, []) := by
  induction digits generalizing significand with
  | nil => rfl
  | cons c rest ih =>
    have hfirst : 10 * significand + digitValue c ≤ wordMax :=
      Nat.le_trans (le_extend _ rest) hfits
    rw [appendDigits, if_pos hfirst, ih hfits]
    rfl

theorem appendDigits_of_lt {significand : Nat} {digits : List Char} (hword : significand ≤ wordMax)
    (hlarge : wordMax < extend significand digits) : (appendDigits significand digits).2 ≠ [] := by
  induction digits generalizing significand with
  | nil => exact absurd hword (Nat.not_le_of_lt hlarge)
  | cons c rest ih =>
    rw [appendDigits]
    split
    · next hfirst => exact ih hfirst hlarge
    · exact List.cons_ne_nil c rest

/-- A digit starts a number. -/
theorem scanValue_of_isDigit {c : Char} (hdigit : c.isDigit = true) (fuel : Nat)
    (rest : List Char) : scanValue (fuel + 1) (c :: rest) = scanNumber false (c :: rest) := by
  have hother (other : Char) (hmark : other.isDigit = false) : c ≠ other := by
    rintro rfl
    simp [hdigit] at hmark
  have hskip : skipSpace (c :: rest) = c :: rest := by
    have hblank : (c == ' ' || c == '\n' || c == '\t' || c == '\r') = false := by
      simp [hother ' ' (by decide), hother '\n' (by decide), hother '\t' (by decide),
        hother '\r' (by decide)]
    rw [skipSpace, List.dropWhile_cons_of_neg (by simp [hblank])]
  rw [scanValue, hskip]
  split
  case h_9 hdefault =>
    obtain ⟨rfl, rfl⟩ := List.cons.inj hdefault
    rw [if_pos hdigit]
  case h_1 hnone => exact nomatch hnone
  -- Every other kind of value starts with a character of its own.
  all_goals
    next hcons => exact absurd (List.cons.inj hcons).1 (hother _ (by decide))

namespace Numeral

variable (n : Numeral)

theorem digits_ne_nil : n.digits ≠ [] := by
  rcases n.canonical with hzero | ⟨c, rest, hdigits, -⟩
  · rw [hzero]
    exact List.cons_ne_nil _ _
  · rw [hdigits]
    exact List.cons_ne_nil _ _

theorem takeWhile_digits : n.digits.takeWhile Char.isDigit = n.digits :=
  List.takeWhile_eq_self_iff.2 n.isDigit

theorem dropWhile_digits : n.digits.dropWhile Char.isDigit = [] :=
  List.dropWhile_eq_nil_iff.2 n.isDigit

theorem scanNumber_digits : scanNumber n.negative n.digits = (.number n.read, some []) := by
  unfold scanNumber
  rw [takeWhile_digits, dropWhile_digits]
  dsimp only
  split
  · next hnone => exact absurd hnone n.digits_ne_nil
  · next hnone _ => exact absurd hnone n.digits_ne_nil
  · next c rest hzeros =>
    rcases n.canonical with hzero | ⟨first, others, hdigits, hfirst⟩
    · simp [hzero] at hzeros
    · simp only [hdigits, List.cons.injEq] at hzeros
      exact absurd hzeros.1 hfirst
  · rw [read]
    by_cases hfits : n.magnitude ≤ wordMax
    · rw [if_pos hfits, appendDigits_of_le hfits]
      rfl
    · have hdropped : (appendDigits 0 n.digits).2 ≠ [] :=
        appendDigits_of_lt (Nat.zero_le _) (Nat.lt_of_not_le hfits)
      rw [if_neg hfits, if_neg (by simpa using hdropped)]

theorem scanValue_chars (fuel : Nat) :
    scanValue (fuel + 1) n.chars = (.number n.read, some []) := by
  have hnumber := n.scanNumber_digits
  rw [chars]
  cases hnegative : n.negative with
  | true =>
    rw [hnegative] at hnumber
    exact hnumber
  | false =>
    rw [hnegative] at hnumber
    obtain ⟨c, rest, hdigits⟩ := List.exists_cons_of_ne_nil n.digits_ne_nil
    have hdigit : c.isDigit = true := n.isDigit c (hdigits ▸ List.mem_cons_self)
    rw [hdigits] at hnumber
    rw [hdigits, if_neg Bool.false_ne_true, ← hnumber]
    exact scanValue_of_isDigit hdigit fuel rest

/-- Whether the reader refuses the number. -/
def IsRefused : Prop := ∃ fault, n.read = .error fault

/-- Whether the reader keeps the number as a whole one. -/
def IsWhole : Prop :=
  ¬(n.negative = true ∧ n.magnitude = 0) ∧ -2 ^ 63 ≤ n.value ∧ n.value < 2 ^ 64

variable {n}

theorem read_of_isWhole (hwhole : n.IsWhole) : n.read = .ok (.integer n.value) := by
  obtain ⟨hsign, hlow, hhigh⟩ := hwhole
  have hword : wordMax = 2 ^ 64 - 1 := rfl
  rw [value] at hlow hhigh ⊢
  rw [read]
  cases hnegative : n.negative with
  | false =>
    rw [hnegative, if_neg Bool.false_ne_true] at hlow hhigh
    rw [if_neg Bool.false_ne_true, if_pos (by omega), whole_false]
  | true =>
    have hpos : n.magnitude ≠ 0 := fun hzero => hsign ⟨hnegative, hzero⟩
    rw [hnegative, if_pos rfl] at hlow hhigh
    rw [if_pos rfl, if_pos (by omega), whole_true_of_le hpos (by omega)]

/-- A number that is not kept as a whole one is refused, or no whole number any more. -/
theorem read_of_not_isWhole (hwhole : ¬n.IsWhole) :
    n.IsRefused ∨ ∃ x, n.read = .ok (.real x) := by
  have hword : wordMax = 2 ^ 64 - 1 := rfl
  rw [IsRefused, read]
  by_cases hfits : n.magnitude ≤ wordMax
  · rw [if_pos hfits]
    rw [IsWhole, value] at hwhole
    cases hnegative : n.negative with
    | false =>
      rw [hnegative, if_neg Bool.false_ne_true] at hwhole
      exact absurd ⟨fun hsign => Bool.false_ne_true hsign.1, by omega, by omega⟩ hwhole
    | true =>
      rw [hnegative, if_pos rfl] at hwhole
      have hreal : n.magnitude = 0 ∨ 2 ^ 63 < n.magnitude := by
        by_contra hexact
        exact hwhole ⟨fun hsign => hexact (.inl hsign.2), by omega, by omega⟩
      exact .inr ⟨_, congrArg _ (whole_true_of_lt hreal)⟩
  · rw [if_neg hfits, scaled]
    cases scale (Float.ofNat (appendDigits 0 n.digits).1) (appendDigits 0 n.digits).2.length 6 with
    | error fault => exact .inl ⟨fault, rfl⟩
    | ok x => exact .inr ⟨_, rfl⟩

/-- Only numbers that do not fit a word of 64 bits are refused. -/
theorem IsRefused.wordMax_lt (hrefused : n.IsRefused) : wordMax < n.magnitude := by
  obtain ⟨fault, hfault⟩ := hrefused
  rw [read] at hfault
  split at hfault
  · exact nomatch hfault
  · next hlarge => exact Nat.lt_of_not_le hlarge

/-- Four hundred nines. -/
example : (⟨false, List.replicate 400 '9', List.all_eq_true.1 (by decide +kernel),
    .inr ⟨'9', List.replicate 399 '9', rfl, by decide⟩⟩ : Numeral).read.isOk = false := by
  decide +kernel

end Numeral

/-- **A decoder meets the number that the reader makes of a numeral.** -/
theorem decodeText_numeral {α : Type} (d : Decoder α) (n : Numeral) :
    decodeText d n.text = d (.text 0) (.number n.read) := by
  have hdocument : Document.ofText n.text = ⟨.number n.read, false⟩ := by
    rw [Document.ofText, Numeral.text, String.toList_ofList, Numeral.scanValue_chars]
    rfl
  rw [decodeText, hdocument]
  cases d (.text 0) (.number n.read) <;> rfl

end ActionGraph.Json
