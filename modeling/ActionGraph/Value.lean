import ActionGraph.Decimal.Layout
import ActionGraph.Text.Quoted

/-!
# Variable values

A variable holds a truth value, a whole number, a floating-point number, a text, or a reference to
an entity, which may be empty. The type of a variable is that of the value it holds.
-/

namespace ActionGraph

inductive ValueType where
  | bool
  | int
  | float
  | string
  | entity
  deriving DecidableEq, Repr

def ValueType.name : ValueType → String
  | .bool => "bool"
  | .int => "int"
  | .float => "float"
  | .string => "string"
  | .entity => "entity"

def ValueType.all : List ValueType := [.bool, .int, .float, .string, .entity]

def ValueType.ofName? (name : String) : Option ValueType := all.find? (·.name == name)

/-- What identifies an entity. -/
abbrev EntityId := UInt64

/-- A value. Two values are equal as numbers and texts are: zeros of both signs are equal, and what
is not a number differs from itself. -/
inductive Value where
  | bool (b : Bool)
  | int (i : Int64)
  | float (x : Float)
  | string (s : String)
  | entity (id : Option EntityId)
  deriving BEq

namespace Value

def type : Value → ValueType
  | .bool _ => .bool
  | .int _ => .int
  | .float _ => .float
  | .string _ => .string
  | .entity _ => .entity

def entityText : Option EntityId → String
  | some id => "#" ++ toString id.toNat
  | none => "#none"

def text : Value → String
  | .bool b => toString b
  | .int i => toString i.toInt
  | .float x => Decimal.plain x
  | .string s => Text.quoted s
  | .entity id => entityText id

/-- A value with its type, as diagnostics show it. -/
def diagnostic : Value → String
  | .bool b => "Bool(" ++ toString b ++ ")"
  | .int i => "Int(" ++ toString i.toInt ++ ")"
  | .float x => "Float(" ++ Decimal.diagnostic x ++ ")"
  | .string s => "String(" ++ Text.quoted s ++ ")"
  | .entity (some id) => "Entity(Some(EntityId(" ++ toString id.toNat ++ ")))"
  | .entity none => "Entity(None)"

end Value

end ActionGraph
