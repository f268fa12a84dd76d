/-!
# Decimal numerals

A numeral is written with digits, perhaps a point and perhaps an exponent, behind an optional sign;
or it is a word for infinity or for what is no number, in letters of either case. Its value is the
number of 32 bits that is nearest to it.
-/

namespace ActionGraph.Decimal

/-- A numeral without its sign: the digits in front of the point and behind it, and the exponent. -/
structure Numeral where
  whole : List Char
  fraction : List Char
  exponent : Int

/-- The number that digits denote. -/
def numberOfDigits (cs : List Char) : Nat := cs.foldl (fun n c => 10 * n + (c.toNat - '0'.toNat)) 0

/-- The exponent that the characters behind its mark denote. -/
def exponent? (cs : List Char) : Option Int :=
  let digits? (cs : List Char) : Option Nat :=
    if cs.isEmpty || !cs.all Char.isDigit then none else some (numberOfDigits cs)
  match cs with
  | '-' :: cs => (digits? cs).map fun n => -n
  | '+' :: cs => (digits? cs).map fun n => n
  | cs => (digits? cs).map fun n => n

def Numeral.ofChars? (cs : List Char) : Option Numeral :=
  let whole := cs.takeWhile Char.isDigit
  let rest := cs.dropWhile Char.isDigit
  let (fraction, rest) := match rest with
    | '.' :: rest => (rest.takeWhile Char.isDigit, rest.dropWhile Char.isDigit)
    | rest => ([], rest)
  if whole.isEmpty && fraction.isEmpty then none
  else
    match rest with
    | [] => some ⟨whole, fraction, 0⟩
    | mark :: rest =>
      if mark == 'e' || mark == 'E' then (exponent? rest).map (⟨whole, fraction, ·⟩) else none

/-- The number of 32 bits nearest to a numeral. A numeral whose first digit is far outside the range
of these numbers is not computed. -/
def Numeral.toFloat32 (n : Numeral) : Float32 :=
  let digits := numberOfDigits (n.whole ++ n.fraction)
  let exponent := n.exponent - n.fraction.length
  let top := exponent + (n.whole ++ n.fraction).length
  if digits = 0 || top < -100 then 0.0
  else if (toString digits).length + exponent > 100 then 1.0 / 0.0
  else Float32.ofScientific digits (decide (exponent < 0)) exponent.natAbs

/-- The number that a text without a sign denotes. -/
def magnitude? (cs : List Char) : Option Float32 :=
  let word := String.ofList (cs.map Char.toLower)
  if word = "inf" || word = "infinity" then some (1.0 / 0.0)
  else if word = "nan" then some (0.0 / 0.0)
  else (Numeral.ofChars? cs).map Numeral.toFloat32

def ofText32? (text : String) : Option Float32 :=
  match text.toList with
  | '-' :: cs => (magnitude? cs).map fun x => -x
  | '+' :: cs => magnitude? cs
  | cs => magnitude? cs

end ActionGraph.Decimal
