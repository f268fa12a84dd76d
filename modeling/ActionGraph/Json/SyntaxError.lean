/-!
# What can be wrong with JSON text

The reader stops at the first fault. A few faults have one wording where the value is wanted and
another where it is only passed over, because its place is not one that anybody asked for.
-/

namespace ActionGraph.Json

inductive SyntaxError where
  /-- The text ends inside an array. -/
  | openArray
  /-- The text ends inside an object. -/
  | openObject
  /-- The text ends after the comma between two members. -/
  | openMember
  /-- The text ends inside a string. -/
  | openString
  /-- The text ends where a value should start, or inside a literal. -/
  | openValue
  /-- The text ends inside a number. -/
  | openNumber
  | expectedColon
  | expectedArrayEnd
  | expectedObjectEnd
  | expectedIdentifier
  | expectedValue
  | invalidEscape
  | invalidNumber
  | numberOutOfRange
  | controlCharacter
  | nameNotString
  | loneSurrogate
  | brokenSurrogatePair
  | trailingArrayComma
  | trailingObjectComma
  | trailingCharacters
  | tooDeep
  /-- An escape for half a character, in a string that ends at another fault behind it. -/
  | brokenString (half behind : SyntaxError)
  deriving DecidableEq, Repr

def SyntaxError.message : SyntaxError → String
  | .openArray => "EOF while parsing a list"
  | .openObject => "EOF while parsing an object"
  | .openString => "EOF while parsing a string"
  | .openMember | .openValue | .openNumber => "EOF while parsing a value"
  | .expectedColon => "expected `:`"
  | .expectedArrayEnd => "expected `,` or `]`"
  | .expectedObjectEnd => "expected `,` or `\x7d`"
  | .expectedIdentifier => "expected ident"
  | .expectedValue => "expected value"
  | .invalidEscape => "invalid escape"
  | .invalidNumber => "invalid number"
  | .numberOutOfRange => "number out of range"
  | .controlCharacter => "control character (\\u0000-\\u001F) found while parsing a string"
  | .nameNotString => "key must be a string"
  | .loneSurrogate => "lone leading surrogate in hex escape"
  | .brokenSurrogatePair => "unexpected end of hex escape"
  | .trailingArrayComma | .trailingObjectComma => "trailing comma"
  | .trailingCharacters => "trailing characters"
  | .tooDeep => "recursion limit exceeded"
  | .brokenString half _ => half.message

/-- The fault that is reported where the value is only passed over. -/
def SyntaxError.passedOver : SyntaxError → SyntaxError
  | .openMember => .openObject
  | .openNumber => .invalidNumber
  | .trailingArrayComma => .expectedValue
  | .trailingObjectComma => .nameNotString
  | .brokenString _ behind => behind
  | e => e

/-- The fault that is reported behind the last item of an array of fixed length. -/
def SyntaxError.behindLast : SyntaxError → SyntaxError
  | .expectedArrayEnd => .trailingCharacters
  | e => e

end ActionGraph.Json
