import ActionGraph.Script.Error

/-!
# Operators of scripts

What the operators do with values. Whole numbers are computed exactly and refused where the result
does not fit; a whole number beside a floating-point number counts as one itself. Two numbers, one
of which is no whole number, compare by the gap between them, and a gap that is very small is none.
Values of different kinds compare as different and are in no order.
-/

namespace ActionGraph.Script

/-- What an operation yields: a value, or the fault in it, or nothing where no operation is defined
on values of these kinds. -/
abbrev Attempt := Option (Except RunFault Datum)

/-- A whole number, if it fits 64 bits. -/
def fit? (i : Int) : Option Int64 :=
  if Int64.minValue.toInt ≤ i && i ≤ Int64.maxValue.toInt then some (Int64.ofInt i) else none

/-- The result of an operation on whole numbers, or its fault. -/
def checked (fault : Arithmetic) (a b : Int64) (result : Int) : Except RunFault Datum :=
  match fit? result with
  | some i => .ok (.int i)
  | none => .error (.arithmetic fault a.toInt b.toInt)

def toFloat (i : Int64) : Float := Float.ofInt i.toInt

/-! ### Whole numbers -/

/-- A power of a whole number. Exponents from 64 on overflow for every base but `-1`, `0` and
`1`. -/
def power (a b : Int64) : Except RunFault Datum :=
  let base := a.toInt
  let exponent := b.toInt
  if UInt32.size ≤ exponent then .error (.arithmetic .powerOverflow base exponent)
  else if exponent < 0 then .error (.arithmetic .negativePower base exponent)
  else if exponent < 64 then checked .powerOverflow a b (base.pow exponent.toNat)
  else if base = 0 || base = 1 then .ok (.int a)
  else if base = -1 then .ok (.int (if exponent % 2 = 0 then 1 else -1))
  else .error (.arithmetic .powerOverflow base exponent)

/-- The bits of a whole number moved to the left, or to the right by a negative amount; what leaves
the word is lost, and the sign fills the other side. -/
def shift (a : Int64) (amount : Int) : Int64 :=
  if 0 ≤ amount then
    if amount < 64 then Int64.ofInt (a.toInt <<< amount.toNat) else 0
  else
    if -amount < 64 then Int64.ofInt (a.toInt >>> (-amount).toNat)
    else if a.toInt < 0 then -1 else 0

def wholeOperator (op : String) (a b : Int64) : Attempt :=
  let x := a.toInt
  let y := b.toInt
  match op with
  | "+" => some (checked .additionOverflow a b (x + y))
  | "-" => some (checked .subtractionOverflow a b (x - y))
  | "*" => some (checked .multiplicationOverflow a b (x * y))
  | "/" =>
    some (if y = 0 then .error (.arithmetic .divisionByZero x y)
      else checked .divisionOverflow a b (x.tdiv y))
  | "%" =>
    some (if y = 0 || (a = Int64.minValue && y = -1) then .error (.arithmetic .modulo x y)
      else .ok (.int (Int64.ofInt (x.tmod y))))
  | "**" => some (power a b)
  | "<<" => some (.ok (.int (shift a y)))
  | ">>" => some (.ok (.int (shift a (-y))))
  | "&" => some (.ok (.int (a &&& b)))
  | "|" => some (.ok (.int (a ||| b)))
  | "^" => some (.ok (.int (a ^^^ b)))
  | ".." => some (.ok (.range a b false))
  | "..=" => some (.ok (.range a b true))
  | _ => none

/-! ### Floating-point numbers -/

/-- A finite number as a whole multiple of a power of two. -/
def scaledParts (b : Decimal.Binary) (least : Int) : Nat :=
  b.mantissa <<< (b.exponent - least).toNat

/-- The remainder of a division towards zero, which has the sign of the dividend and is exact. -/
def remainder (x y : Float) : Float :=
  match Decimal.Number.ofFloat x, Decimal.Number.ofFloat y with
  | .finite negative a, .finite _ b =>
    let least := min a.exponent b.exponent
    let rest := scaledParts a least % scaledParts b least
    let size := (Float.ofNat rest).scaleB least
    if negative then -size else size
  | .zero _, .finite _ _ | .zero _, .infinite _ | .finite _ _, .infinite _ => x
  | _, _ => 0.0 / 0.0

def floatOperator (op : String) (x y : Float) : Attempt :=
  match op with
  | "+" => some (.ok (.float (x + y)))
  | "-" => some (.ok (.float (x - y)))
  | "*" => some (.ok (.float (x * y)))
  | "/" => some (.ok (.float (x / y)))
  | "%" => some (.ok (.float (remainder x y)))
  | "**" => some (.ok (.float (x.pow y)))
  | _ => none

/-! ### Comparisons -/

def comparisons : List String := ["==", "!=", "<", "<=", ">", ">="]

/-- The gap that is too small to count: the distance from one to the next number. -/
def smallestGap : Float := 2.220446049250313e-16

/-- The gap between two numbers, in units of the larger one by size; none if that is very small
itself. -/
def gap (x y : Float) : Float :=
  let scale := (if y * y < x * x then x else y).abs
  if scale < smallestGap then 0 else (x - y) / scale

/-- A comparison of floating-point numbers. All comparisons with what is no number fail. -/
def compareFloat (op : String) (x y : Float) : Bool :=
  let g := gap x y
  match op with
  | "==" => g.abs ≤ smallestGap
  | "!=" => smallestGap < g.abs
  | "<" => g < -smallestGap
  | "<=" => g ≤ smallestGap
  | ">" => smallestGap < g
  | ">=" => -smallestGap ≤ g
  | _ => false

def satisfies (op : String) (o : Ordering) : Bool :=
  match op with
  | "==" => o.isEq
  | "!=" => o.isNe
  | "<" => o.isLT
  | "<=" => o.isLE
  | ">" => o.isGT
  | ">=" => o.isGE
  | _ => false

def orderText (s t : String) : Ordering := if s < t then .lt else if s = t then .eq else .gt

/-- The order of two truth values, false before true. -/
def orderBool (a b : Bool) : Ordering := compare a.toNat b.toNat

/-- Whether a comparison of two values is made by their order, and what it yields. -/
def compareOrdered (op : String) (o : Ordering) : Attempt :=
  if comparisons.contains op then some (.ok (.bool (satisfies op o))) else none

/-- What a comparison of two values yields that are only equal or not. -/
def compareEqual (op : String) (same : Bool) : Attempt :=
  match op with
  | "==" => some (.ok (.bool same))
  | "!=" => some (.ok (.bool !same))
  | _ => none

/-- What a comparison of values of different kinds yields. -/
def compareApart (op : String) : Attempt :=
  if comparisons.contains op then some (.ok (.bool (op == "!="))) else none

/-! ### Texts -/

/-- A text without every place where another one stands in it. -/
def without (s t : String) : String := if t.isEmpty then s else s.replace t ""

/-- The difference of two texts. Nothing less a text is that text. -/
def difference (s t : String) : String := if s.isEmpty then t else without s t

def textOperator (op : String) (s t : String) : Attempt :=
  match op with
  | "+" => some (.ok (.string (s ++ t)))
  | "-" => some (.ok (.string (difference s t)))
  | op => compareOrdered op (orderText s t)

/-! ### All operators -/

/-- An operator between numbers that are not both whole. -/
def numberOperator (op : String) (x y : Float) : Attempt :=
  if comparisons.contains op then some (.ok (.bool (compareFloat op x y)))
  else floatOperator op x y

/-- An operator between two values. Lists have none of their own. -/
def builtin (op : String) (a b : Datum) : Attempt :=
  match a, b with
  | .int a, .int b =>
    if comparisons.contains op then compareOrdered op (compare a.toInt b.toInt)
    else wholeOperator op a b
  | .int a, .float y => numberOperator op (toFloat a) y
  | .float x, .int b => numberOperator op x (toFloat b)
  | .float x, .float y => numberOperator op x y
  | .bool a, .bool b =>
    match op with
    | "&" => some (.ok (.bool (a && b)))
    | "|" => some (.ok (.bool (a || b)))
    | "^" => some (.ok (.bool (a != b)))
    | op => compareOrdered op (orderBool a b)
  | .unit, .unit =>
    if comparisons.contains op then some (.ok (.bool (op == "=="))) else none
  | .string s, .string t => textOperator op s t
  | .string s, .char c =>
    if op == "-" then some (.ok (.string (without s c.toString)))
    else textOperator op s c.toString
  | .char c, .string t => if op == "-" then none else textOperator op c.toString t
  | .char a, .char b => if op == "-" then none else textOperator op a.toString b.toString
  | .array _, .array _ => none
  | .range a b c, .range d e f => compareEqual op (a = d && b = e && c = f)
  | _, _ => compareApart op

/-- An operator in front of a value. -/
def signed (op : String) (a : Datum) : Attempt :=
  match op, a with
  | "-", .int i =>
    some (match fit? (-i.toInt) with
      | some j => .ok (.int j)
      | none => .error (.negation i.toInt))
  | "-", .float x => some (.ok (.float (-x)))
  | "+", .int i => some (.ok (.int i))
  | "+", .float x => some (.ok (.float x))
  | "!", .bool b => some (.ok (.bool !b))
  | _, _ => none

end ActionGraph.Script
