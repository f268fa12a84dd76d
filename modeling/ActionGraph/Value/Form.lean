import ActionGraph.Value
import ActionGraph.Json.Decoder

/-!
# The written form of a value

A value is written as an object with its `type` and its `value`. It is read from that form, from the
pair of both in an array, or from a plain literal, whose JSON type decides. An entity has no literal
form, and a literal whole number that does not fit 64 bits with sign is refused.
-/

namespace ActionGraph.Value

open Json (DecodeError Members)

/-- The type that a tag names; the tag may also be an object whose only member has that name. -/
def tag? : Json → Option ValueType
  | .string name => ValueType.ofName? name
  | .object [(name, .null)] => ValueType.ofName? name
  | _ => none

/-- Whether a whole number fits 64 bits with sign. -/
def fitsInt (i : Int) : Bool := Int64.minValue.toInt ≤ i && i ≤ Int64.maxValue.toInt

def ofContent? : ValueType → Json → Option Value
  | .bool, .bool b => some (.bool b)
  | .int, .number (.integer i) => if fitsInt i then some (.int (Int64.ofInt i)) else none
  | .float, .number (.integer i) => some (.float (Float.ofInt i))
  | .float, .number (.real x) => some (.float x)
  | .string, .string s => some (.string s)
  | .entity, .null => some (.entity none)
  | .entity, .number (.integer i) =>
    if 0 ≤ i then some (.entity (some (UInt64.ofNat i.toNat))) else none
  | _, _ => none

/-- What a value of the given type is where nothing is written: only a reference may be absent. -/
def ofAbsent? : ValueType → Option Value
  | .entity => some (.entity none)
  | _ => none

/-- The values of the members with this name. -/
def named (name : String) (members : Members) : List Json :=
  (members.filter (·.1 == name)).map (·.2)

def ofTagged? : Json → Option Value
  | .object members =>
    match named "type" members, named "value" members with
    | [tag], [content] => do ofContent? (← tag? tag) content
    | [tag], [] => do ofAbsent? (← tag? tag)
    | _, _ => none
  | .array [tag, content] => do ofContent? (← tag? tag) content
  | _ => none

def ofLiteral : Json → Except DecodeError Value
  | .bool b => .ok (.bool b)
  | .number (.integer i) =>
    if fitsInt i then .ok (.int (Int64.ofInt i)) else .error (.integerOutOfRange i)
  | .number (.real x) => .ok (.float x)
  | .string s => .ok (.string s)
  | _ => .error .noVariableValue

def ofJson (form : Json) : Except DecodeError Value :=
  match ofTagged? form with
  | some v => .ok v
  | none => ofLiteral form

/-- Decodes a value; the whole form is read before it is judged. -/
def decoder : Json.Decoder Value := fun origin r => do ofJson (← Json.anyValue origin r)

def content : Value → Json
  | .bool b => .bool b
  | .int i => .ofInt i.toInt
  | .float x => .ofFloat x
  | .string s => .string s
  | .entity (some id) => .ofInt id.toNat
  | .entity none => .null

def toJson (v : Value) : Json := .object [("type", .string v.type.name), ("value", v.content)]

end ActionGraph.Value
