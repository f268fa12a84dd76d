import ActionGraph.Value
import ActionGraph.Text.Blank

/-!
# Comparing values

Whole and floating-point numbers compare with each other, a whole number as the nearest
floating-point number. Texts compare by their code points. Truth values and references are only
equal or not. What is not a number differs from everything, itself included, and stands in no other
relation. All other pairs of types cannot be compared.
-/

namespace ActionGraph

inductive Comparison where
  | lt
  | le
  | gt
  | ge
  | eq
  | ne
  deriving DecidableEq, Repr

/-- Why two values cannot be compared. -/
inductive ComparisonFault where
  /-- The two types are neither ordered nor equal. -/
  | incomparable (left right : ValueType)
  /-- The two types can only be equal or not. -/
  | unsupported (op : Comparison) (left right : ValueType)
  deriving DecidableEq, Repr

namespace Comparison

def symbol : Comparison → String
  | .lt => "<"
  | .le => "<="
  | .gt => ">"
  | .ge => ">="
  | .eq => "=="
  | .ne => "!="

def word : Comparison → String
  | .lt => "lt"
  | .le => "le"
  | .gt => "gt"
  | .ge => "ge"
  | .eq => "eq"
  | .ne => "ne"

def all : List Comparison := [.lt, .le, .gt, .ge, .eq, .ne]

/-- The operator with this symbol or name, blanks around it aside. -/
def ofText? (s : String) : Option Comparison :=
  all.find? fun op => op.symbol == Text.trim s || op.word == Text.trim s

/-- What is said of a text that names no operator. -/
def unknownText (s : String) : String := "unknown comparison operator `" ++ Text.trim s ++ "`"

/-- Whether two values in this order are in the relation; values without an order only differ. -/
def holds (op : Comparison) : Option Ordering → Bool
  | some o =>
    match op with
    | .lt => o == .lt
    | .le => o != .gt
    | .gt => o == .gt
    | .ge => o != .lt
    | .eq => o == .eq
    | .ne => o != .eq
  | none => op == .ne

end Comparison

def orderFloat (x y : Float) : Option Ordering :=
  if x < y then some .lt
  else if y < x then some .gt
  else if x == y then some .eq
  else none

def orderText (s t : String) : Ordering :=
  if s < t then .lt else if s = t then .eq else .gt

/-- A whole number as the nearest floating-point number. -/
def nearestFloat (i : Int64) : Float := Float.ofInt i.toInt

namespace Value

/-- Compares where only equality is defined. -/
def compareEqual (op : Comparison) (type : ValueType) (equal : Bool) :
    Except ComparisonFault Bool :=
  match op with
  | .eq => .ok equal
  | .ne => .ok !equal
  | op => .error (.unsupported op type type)

def compare (left : Value) (op : Comparison) (right : Value) : Except ComparisonFault Bool :=
  match left, right with
  | .bool a, .bool b => compareEqual op .bool (a == b)
  | .int a, .int b => .ok (op.holds (some (Ord.compare a.toInt b.toInt)))
  | .int a, .float b => .ok (op.holds (orderFloat (nearestFloat a) b))
  | .float a, .float b => .ok (op.holds (orderFloat a b))
  | .float a, .int b => .ok (op.holds (orderFloat a (nearestFloat b)))
  | .string a, .string b => .ok (op.holds (some (orderText a b)))
  | .entity a, .entity b => compareEqual op .entity (a == b)
  | left, right => .error (.incomparable left.type right.type)

end Value

def ComparisonFault.message : ComparisonFault → String
  | .incomparable left right => "cannot compare " ++ left.name ++ " with " ++ right.name
  | .unsupported op left right =>
    "operator `" ++ op.symbol ++ "` is not supported between " ++ left.name ++ " and " ++ right.name

end ActionGraph
