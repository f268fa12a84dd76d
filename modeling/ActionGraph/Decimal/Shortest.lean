/-!
# The shortest decimal that reads back

A binary number stands for all reals that round to it. Among the decimals in that interval the
shortest is the one with the fewest digits, and of two equally short ones the nearer. The search
tries one digit, two digits, and so on; on each grid only the two neighbours of the number can be
the nearest point of the grid inside the interval, so they alone are tested, in exact arithmetic.
-/

namespace ActionGraph.Decimal

/-- A positive number `mantissa * 2 ^ exponent` as a binary format holds it. Where the mantissa is
the smallest of its binade the gap to the number below is half the gap to the one above, and the
number is `lopsided`. -/
structure Binary where
  mantissa : Nat
  exponent : Int
  lopsided : Bool
  deriving DecidableEq

/-- Which way an exact tie between two shortest decimals goes. -/
inductive Tie where
  /-- To the larger of the two. -/
  | up
  /-- To the one whose last digit is even. -/
  | even
  deriving DecidableEq

/-- A decimal `digits * 10 ^ exponent`. -/
structure Scaled where
  digits : Nat
  exponent : Int
  deriving DecidableEq, Repr

/-- The number and the ends of its interval as integer multiples of one unit, which is
`1 / denominator`. -/
structure Interval where
  low : Nat
  value : Nat
  high : Nat
  denominator : Nat
  closed : Bool

/-- The interval of reals that round to the number; its ends belong to it when the mantissa is
even. -/
def Binary.interval (b : Binary) : Interval :=
  let quarter := b.exponent - 2
  let up := 1 <<< quarter.toNat
  { low := (4 * b.mantissa - if b.lopsided then 1 else 2) * up
    value := 4 * b.mantissa * up
    high := (4 * b.mantissa + 2) * up
    denominator := 1 <<< (-quarter).toNat
    closed := b.mantissa % 2 == 0 }

/-- The number of zeros after the point before the first digit of `num / den`, plus one. -/
def leadingZeros (den : Nat) : (fuel num count : Nat) → Nat
  | 0, _, count => count
  | fuel + 1, num, count =>
    if den ≤ num then count else leadingZeros den fuel (num * 10) (count + 1)

/-- The number of digits before the point; for a number below one, minus the number of zeros that
follow the point. -/
def Interval.magnitude (i : Interval) : Int :=
  if i.denominator ≤ i.value then (Nat.toDigits 10 (i.value / i.denominator)).length
  else 1 - leadingZeros i.denominator 400 i.value 0

/-- The point `digits * 10 ^ exponent` compared with the ends, all brought to whole numbers. -/
def Interval.contains (i : Interval) (p : Scaled) : Bool :=
  let point := p.digits * Nat.pow 10 p.exponent.toNat * i.denominator
  let shift := Nat.pow 10 (-p.exponent).toNat
  let low := i.low * shift
  let high := i.high * shift
  if i.closed then low ≤ point && point ≤ high else low < point && point < high

/-- The best point of the grid of multiples of `10 ^ exponent` inside the interval, if it has
one. -/
def Interval.onGrid? (i : Interval) (tie : Tie) (exponent : Int) : Option Scaled :=
  let step := Nat.pow 10 exponent.toNat * i.denominator
  let value := i.value * Nat.pow 10 (-exponent).toNat
  let below : Scaled := ⟨value / step, exponent⟩
  let above : Scaled := ⟨value / step + 1, exponent⟩
  let rest := value % step
  match i.contains below && below.digits != 0, i.contains above with
  | true, true =>
    if 2 * rest < step then some below
    else if step < 2 * rest then some above
    else match tie with
      | .up => some above
      | .even => if below.digits % 2 == 0 then some below else some above
  | true, false => some below
  | false, true => some above
  | false, false => none

/-- The same decimal without zeros at the end of its digits. -/
def Scaled.trimmed (s : Scaled) : (fuel : Nat) → Scaled
  | 0 => s
  | fuel + 1 =>
    if s.digits % 10 == 0 then Scaled.trimmed ⟨s.digits / 10, s.exponent + 1⟩ fuel else s

/-- The shortest decimal in the interval of the number. Seventeen digits always suffice for the
binary formats of 32 and 64 bits. A neighbour on the grid has a zero at its end only where it is a
power of ten. -/
def shortest (tie : Tie) (b : Binary) : Scaled :=
  let i := b.interval
  let magnitude := i.magnitude
  (((List.range 17).findSome? fun (n : Nat) => i.onGrid? tie (magnitude - (n + 1 : Nat))).getD
    ⟨i.value / i.denominator, 0⟩).trimmed 17

end ActionGraph.Decimal
