import ActionGraph.Script.Operator
import ActionGraph.Text.LetterCase

/-!
# Functions of scripts

What the functions do with values, among them the operators on lists, and the operator that joins
any value to a text. What takes a text for a pattern takes a character as well.
-/

namespace ActionGraph.Script

/-! ### Lists -/

mutual

/-- Whether two values are equal as the operator `==` says. -/
def equal : Datum → Datum → Bool
  | .array as, .array bs => equalItems as bs
  | a, b =>
    match builtin "==" a b with
    | some (.ok (.bool same)) => same
    | _ => false

def equalItems : List Datum → List Datum → Bool
  | [], [] => true
  | a :: as, b :: bs => equal a b && equalItems as bs
  | _, _ => false

end

/-! ### Numbers -/

/-- The order of two numbers, exactly. -/
def orderFloat (x y : Float) : Option Ordering :=
  if x < y then some .lt
  else if y < x then some .gt
  else if x == y then some .eq
  else none

/-- The larger or the smaller of two values of a kind, the first one if they are equal. -/
def extreme (larger : Bool) (a b : Datum) : Attempt :=
  let pick (o : Option Ordering) (a b : Datum) : Attempt :=
    match o with
    | some .eq => some (.ok a)
    | some .lt => some (.ok (if larger then b else a))
    | some .gt => some (.ok (if larger then a else b))
    | none => some (.ok b)
  match a, b with
  | .int x, .int y => pick (some (compare x.toInt y.toInt)) a b
  | .int x, .float y => pick (orderFloat (toFloat x) y) (.float (toFloat x)) b
  | .float x, .int y => pick (orderFloat x (toFloat y)) a (.float (toFloat y))
  | .float x, .float y => pick (orderFloat x y) a b
  | .char c, .char d => pick (some (orderText c.toString d.toString)) a b
  | .string s, .string t => pick (some (orderText s t)) a b
  | _, _ => none

def inRange (first last : Int64) (closed : Bool) (i : Int64) : Bool :=
  first.toInt ≤ i.toInt && (if closed then i.toInt ≤ last.toInt else i.toInt < last.toInt)

/-! ### Texts -/

/-- Whether a text stands somewhere in another one. -/
def occurs (t s : String) : Bool := t.isEmpty || (s.splitOn t).length != 1

/-- The text that a pattern is. -/
def pattern? : Datum → Option String
  | .string t => some t
  | .char c => some c.toString
  | _ => none

/-- A character in another case, if that is one character. -/
def recased (change : String → String) (c : Char) : Char :=
  match (change c.toString).toList with
  | [d] => d
  | _ => c

/-- A function of a text and a pattern. -/
def patternFunction (name : String) (s t : String) : Attempt :=
  match name with
  | "contains" => some (.ok (.bool (occurs t s)))
  | "starts_with" => some (.ok (.bool (t.toList.isPrefixOf s.toList)))
  | "ends_with" => some (.ok (.bool (t.toList.isSuffixOf s.toList)))
  | _ => none

/-! ### All functions -/

def functionOfOne (name : String) (a : Datum) : Attempt :=
  match name, a with
  | "len", .string s => some (.ok (.int (Int64.ofNat s.length)))
  | "len", .array items => some (.ok (.int (Int64.ofNat items.length)))
  | "to_upper", .string s => some (.ok (.string (Text.upper s)))
  | "to_upper", .char c => some (.ok (.char (recased Text.upper c)))
  | "to_lower", .string s => some (.ok (.string (Text.lower s)))
  | "to_lower", .char c => some (.ok (.char (recased Text.lower c)))
  | "abs", .int i =>
    some (match fit? i.toInt.natAbs with
      | some j => .ok (.int j)
      | none => .error (.negation i.toInt))
  | "abs", .float x => some (.ok (.float x.abs))
  | op, a => signed op a

def functionOfTwo (name : String) (a b : Datum) : Attempt :=
  match name, a, b with
  | "contains", .array items, d => some (.ok (.bool (items.any fun item => equal item d)))
  | "contains", .range first last closed, .int i =>
    some (.ok (.bool (inRange first last closed i)))
  | "min", a, b => extreme false a b
  | "max", a, b => extreme true a b
  | "==", .array as, .array bs => some (.ok (.bool (equalItems as bs)))
  | "!=", .array as, .array bs => some (.ok (.bool !(equalItems as bs)))
  | "+", .array as, .array bs => some (.ok (.array (as ++ bs)))
  | "+", .string s, d => some (.ok (.string (s ++ d.joined)))
  | "+", d, .string s => some (.ok (.string (d.joined ++ s)))
  | name, .string s, d => (pattern? d).bind (patternFunction name s)
  | _, _, _ => none

def function (name : String) (arguments : List Datum) : Attempt :=
  match arguments with
  | [a] => functionOfOne name a
  | [a, b] => functionOfTwo name a b
  | _ => none

def property (name : String) (d : Datum) : Attempt :=
  if name == "len" then functionOfOne name d else none

end ActionGraph.Script
