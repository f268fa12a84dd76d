import ActionGraph.Decimal.Shortest

/-!
# The text of a floating-point number

A finite number is written with its shortest digits, either positionally or with an exponent. The
choices that differ from one written form to the next are the fields of a `Layout`; the forms
themselves are `plain`, `diagnostic` and `inJson`.
-/

namespace ActionGraph.Decimal

/-- A floating-point number, decoded. -/
inductive Number where
  | notANumber
  | infinite (negative : Bool)
  | zero (negative : Bool)
  | finite (negative : Bool) (value : Binary)
  deriving DecidableEq

/-- The number that a format with `bits` bits of fraction and exponents up to `top` holds in the
three parts of its bit pattern. -/
def Number.ofParts (bits top : Nat) (negative : Bool) (biased fraction : Nat) : Number :=
  let least : Int := 2 - (top / 2 + 1 : Nat) - bits
  if biased == top then
    if fraction == 0 then .infinite negative else .notANumber
  else if biased == 0 then
    if fraction == 0 then .zero negative else .finite negative ⟨fraction, least, false⟩
  else
    .finite negative
      ⟨fraction + (1 <<< bits), least + (biased - 1 : Nat), fraction == 0 && biased != 1⟩

def Number.ofFloat (x : Float) : Number :=
  let bits := x.toBits.toNat
  .ofParts 52 2047 ((bits >>> 63) % 2 == 1) ((bits >>> 52) % 2048) (bits % (1 <<< 52))

def Number.ofFloat32 (x : Float32) : Number :=
  let bits := x.toBits.toNat
  .ofParts 23 255 ((bits >>> 31) % 2 == 1) ((bits >>> 23) % 256) (bits % (1 <<< 23))

/-- The choices of a written form. -/
structure Layout where
  /-- The least and the greatest power of ten at the first digit of a number written without an
  exponent, if there are limits. -/
  positional? : Option (Int × Int)
  /-- Whether a whole number ends in `.0` when it has no exponent. -/
  point : Bool
  /-- What stands before an exponent that is not negative. -/
  plus : String
  /-- Which of two equally near shortest decimals is written. -/
  tie : Tie
  /-- The text of what is not a number. -/
  notANumber : String
  /-- The text of an infinity, without its sign. -/
  infinite : String

def zeros (n : Nat) : String := String.ofList (List.replicate n '0')

/-- The digits with the point after the first `whole` of them. -/
def positional (l : Layout) (digits : String) (whole : Int) : String :=
  let n : Int := digits.length
  if whole ≤ 0 then "0." ++ zeros (-whole).toNat ++ digits
  else if n ≤ whole then digits ++ zeros (whole - n).toNat ++ (if l.point then ".0" else "")
  else
    String.ofList (digits.toList.take whole.toNat) ++ "." ++
      String.ofList (digits.toList.drop whole.toNat)

/-- The digits with a point after the first, and an exponent. -/
def scientific (l : Layout) (digits : String) (exponent : Int) : String :=
  let fraction := digits.toList.drop 1
  String.ofList (digits.toList.take 1) ++
    (if fraction.isEmpty then "" else "." ++ String.ofList fraction) ++
    "e" ++ (if 0 ≤ exponent then l.plus else "") ++ toString exponent

def Number.text (l : Layout) : Number → String
  | .notANumber => l.notANumber
  | .infinite negative => (if negative then "-" else "") ++ l.infinite
  | .zero negative => (if negative then "-" else "") ++ (if l.point then "0.0" else "0")
  | .finite negative value =>
    let s := shortest l.tie value
    let digits := toString s.digits
    let whole : Int := digits.length + s.exponent
    (if negative then "-" else "") ++
      if l.positional?.all fun (least, greatest) => least ≤ whole - 1 && whole - 1 ≤ greatest then
        positional l digits whole
      else scientific l digits (whole - 1)

/-- The plain form: never an exponent, and no point in a whole number. -/
def plainLayout : Layout := ⟨none, false, "", .up, "NaN", "inf"⟩

/-- The diagnostic form: exponents below `1e-4` and from `1e16` on, and a point in every
other number. -/
def diagnosticLayout : Layout := ⟨some (-4, 15), true, "", .up, "NaN", "inf"⟩

/-- The form in JSON text, with exponents below `1e-5` and from `1e16` on. It has no infinities and
writes `null` for what it cannot hold. -/
def jsonLayout : Layout := ⟨some (-5, 15), true, "+", .even, "null", "null"⟩

def plain (x : Float) : String := (Number.ofFloat x).text plainLayout

def plain32 (x : Float32) : String := (Number.ofFloat32 x).text plainLayout

def diagnostic (x : Float) : String := (Number.ofFloat x).text diagnosticLayout

/-- The JSON form of a finite number of 64 bits. -/
def inJson (x : Float) : String := (Number.ofFloat x).text jsonLayout

end ActionGraph.Decimal
