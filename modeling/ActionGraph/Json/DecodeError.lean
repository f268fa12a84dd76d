import ActionGraph.Json.SyntaxError
import ActionGraph.Decimal.Layout
import ActionGraph.Text.Quoted

/-!
# Why a JSON value does not describe what is wanted

A value is refused with what was found and what was expected in its place. The wording of each
cause is `DecodeError.message`.
-/

namespace ActionGraph.Json

/-- What stands where something else is expected. -/
inductive Found where
  | null
  | bool (b : Bool)
  | integer (i : Int)
  | real (x : Float)
  | string (s : String)
  | sequence
  | map
  | unitVariant

def Found.text : Found → String
  | .null => "null"
  | .bool b => "boolean `" ++ toString b ++ "`"
  | .integer i => "integer `" ++ toString i ++ "`"
  | .real x => "floating point `" ++ Decimal.inJson x ++ "`"
  | .string s => "string " ++ Text.quoted s
  | .sequence => "sequence"
  | .map => "map"
  | .unitVariant => "unit variant"

/-- Why a JSON value, or JSON text, is refused. -/
inductive DecodeError where
  | malformed (fault : SyntaxError)
  | wrongType (found : Found) (expected : String)
  | wrongValue (found : Found) (expected : String)
  /-- An array has `length` items. -/
  | wrongLength (length : Nat) (expected : String)
  | missingField (name : String)
  | duplicateField (name : String)
  | unknownVariant (name : String) (expected : List String)
  /-- A value is neither a plain nor a tagged variable value. -/
  | noVariableValue
  /-- A plain whole number does not fit 64 bits with sign. -/
  | integerOutOfRange (i : Int)

def DecodeError.message : DecodeError → String
  | .malformed fault => fault.message
  | .wrongType found expected => "invalid type: " ++ found.text ++ ", expected " ++ expected
  | .wrongValue found expected => "invalid value: " ++ found.text ++ ", expected " ++ expected
  | .wrongLength length expected =>
    "invalid length " ++ toString length ++ ", expected " ++ expected
  | .missingField name => "missing field `" ++ name ++ "`"
  | .duplicateField name => "duplicate field `" ++ name ++ "`"
  | .unknownVariant name expected =>
    "unknown variant `" ++ name ++ "`, expected one of " ++
      ", ".intercalate (expected.map fun e => "`" ++ e ++ "`")
  | .noVariableValue => "data did not match any variant of untagged enum VarValueRepr"
  | .integerOutOfRange i => "integer " ++ toString i ++ " is out of range for an int variable"

end ActionGraph.Json
