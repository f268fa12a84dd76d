import ActionGraph.Script.Datum

/-!
# Script errors

A script is refused before it runs, when its text is no program, or it fails while it runs. Either
way the error says where in the text it arose.
-/

namespace ActionGraph.Script

/-- A place in the text of a script; lines and columns count from one. -/
structure Position where
  line : Nat
  column : Nat
  deriving DecidableEq, Repr

/-- Why a text is no program. -/
inductive SyntaxFault where
  | incomplete
  | unexpected (token : String)
  | reserved (token : String)
  | unknownOperator (token : String)
  | openString
  | badNumber (token : String)
  | badChar (token : String)
  | badEscape (token : String)
  | badName (token : String)
  /-- A token is missing, for a purpose. -/
  | missing (token purpose : String)
  | variableExpected
  | propertyExpected
  | expressionExpected (kind : String)
  | mismatch (expected actual : String)
  /-- A literal that is no index, where an index of another kind is needed. -/
  | badIndex (expected actual : String)
  | notIndexed
  /-- An assignment to a constant, by its name if it has one. -/
  | assignedConstant (name : String)
  | assignedExpression
  | assignedGuard
  | breakOutsideLoop
  | receiverOutsideFunction
  | tooDeep
  deriving DecidableEq

/-- What is wrong with an arithmetic operation. -/
inductive Arithmetic where
  | additionOverflow
  | subtractionOverflow
  | multiplicationOverflow
  | divisionByZero
  | divisionOverflow
  | modulo
  | powerOverflow
  | negativePower
  deriving DecidableEq

/-- Why a program fails. -/
inductive RunFault where
  | variableNotFound (name : String)
  /-- No function takes arguments of these types. -/
  | functionNotFound (name : String) (arguments : List String)
  | propertyNotFound (name type : String)
  /-- A property of this type cannot be given a value of that type. -/
  | propertyFixed (name type value : String)
  | arrayIndex (index : Int) (length : Nat)
  | stringIndex (index : Int) (length : Nat)
  | bitIndex (index : Int)
  /-- A value of this type has no elements, to read or to give a value of a type. -/
  | notIndexable (type index : String) (value : Option String)
  | notIterable
  | wrongType (actual expected : String)
  | arithmetic (fault : Arithmetic) (left right : Int)
  | negation (operand : Int)
  | thrown (value : String)
  | tooManyOperations
  deriving DecidableEq

inductive Error where
  | syntactic (fault : SyntaxFault) (position : Position)
  | running (fault : RunFault) (position : Position)
  deriving DecidableEq

def isNameLike (token : String) : Bool :=
  token.toList.all fun c => c.isAlphanum || c == '_'

def SyntaxFault.message : SyntaxFault → String
  | .incomplete => "Script is incomplete"
  | .unexpected token => "Unexpected '" ++ token ++ "'"
  | .reserved token =>
    "'" ++ token ++ "' is a reserved " ++ if isNameLike token then "keyword" else "symbol"
  | .unknownOperator token => "Unknown operator: '" ++ token ++ "'"
  | .openString => "Open string is not terminated"
  | .badNumber token => "Invalid number: '" ++ token ++ "'"
  | .badChar token => "Invalid character: '" ++ token ++ "'"
  | .badEscape token => "Invalid escape sequence: '" ++ token ++ "'"
  | .badName token => "Variable name is not proper: '" ++ token ++ "'"
  | .missing token purpose => "Expecting '" ++ token ++ "' " ++ purpose
  | .variableExpected => "Expecting name of a variable"
  | .propertyExpected => "Expecting name of a property"
  | .expressionExpected kind => "Expecting " ++ kind ++ " expression"
  | .mismatch expected actual => "Expecting " ++ expected ++ ", not " ++ actual
  | .badIndex expected actual =>
    "Array, string or bit-field expects " ++ expected ++ " index, not " ++ actual
  | .notIndexed => "Only arrays, object maps and strings can be indexed"
  | .assignedConstant name =>
    if name.isEmpty then "Cannot assign to a constant value"
    else "Cannot assign to constant " ++ name
  | .assignedExpression => "Expression cannot be assigned to"
  | .assignedGuard => "Possibly a typo of '=='?"
  | .breakOutsideLoop => "Break statement should only be used inside a loop"
  | .receiverOutsideFunction => "'this' can only be used in functions"
  | .tooDeep => "Expression exceeds maximum complexity"

/-- The wording of an arithmetic fault, up to its operands, and the operator between them. -/
def Arithmetic.words : Arithmetic → String × String
  | .additionOverflow => ("Addition overflow", "+")
  | .subtractionOverflow => ("Subtraction overflow", "-")
  | .multiplicationOverflow => ("Multiplication overflow", "*")
  | .divisionByZero => ("Division by zero", "/")
  | .divisionOverflow => ("Division overflow", "/")
  | .modulo => ("Modulo division by zero or overflow", "%")
  | .powerOverflow => ("Exponential overflow", "**")
  | .negativePower => ("Integer raised to a negative power", "**")

/-- What is said of an index outside of `length` units of `whole`. -/
def boundsText (title : String) (index : Int) (length : Nat) (unit whole : String) : String :=
  title ++ " index " ++ toString index ++ " out of bounds: " ++
    if length = 0 then whole ++ " is empty"
    else "only " ++ toString length ++ " " ++ unit ++ (if length = 1 then "" else "s") ++ " in " ++
      whole

def RunFault.message : RunFault → String
  | .variableNotFound name => "Variable not found: " ++ name
  | .functionNotFound name arguments =>
    "Function not found: " ++ name ++ " (" ++ ", ".intercalate arguments ++ ")"
  | .propertyNotFound name type =>
    "Unknown property '" ++ name ++ "' - a getter is not registered for type '" ++ type ++ "'"
  | .propertyFixed name type value =>
    "No writable property '" ++ name ++ "' - a setter is not registered for type '" ++ type ++
      "' to handle '" ++ value ++ "'"
  | .arrayIndex index length => boundsText "Array" index length "element" "array"
  | .stringIndex index length => boundsText "String" index length "character" "string"
  | .bitIndex index => boundsText "Bit-field" index 64 "bit" "bit-field"
  | .notIndexable type index value =>
    "Indexer unavailable: " ++ type ++ " [" ++ index ++ "]" ++
      match value with
      | some value => " = " ++ value
      | none => ""
  | .notIterable => "For loop expects iterable type"
  | .wrongType actual expected =>
    "Data type incorrect: " ++ actual ++ " (expecting " ++ expected ++ ")"
  | .arithmetic fault left right =>
    let (title, op) := fault.words
    title ++ ": " ++ toString left ++ " " ++ op ++ " " ++ toString right
  | .negation operand => "Negation overflow: -" ++ toString operand
  | .thrown value => if value.isEmpty then "Runtime error" else "Runtime error: " ++ value
  | .tooManyOperations => "Too many operations"

def Position.text (p : Position) : String :=
  " (line " ++ toString p.line ++ ", position " ++ toString p.column ++ ")"

def Error.message : Error → String
  | .syntactic fault p => "Syntax error: " ++ fault.message ++ p.text
  | .running fault p => fault.message ++ p.text

end ActionGraph.Script
