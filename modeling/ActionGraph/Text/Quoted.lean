import ActionGraph.Text.Hidden
import ActionGraph.Text.Combining

/-!
# Quoted text

A text between double quotes, as diagnostics show it. The quote and the backslash are escaped, the
common control characters have short escapes, and every character that would not show, or would
attach to its neighbour, is written by its code point in hexadecimal.
-/

namespace ActionGraph.Text

/-- The escape of a code point: its hexadecimal digits between braces. -/
def codePointEscape (c : Char) : List Char :=
  ['\\', 'u', '\x7b'] ++ Nat.toDigits 16 c.toNat ++ ['\x7d']

def quotedChar (c : Char) : List Char :=
  match c with
  | '"' => ['\\', '"']
  | '\\' => ['\\', '\\']
  | '\n' => ['\\', 'n']
  | '\r' => ['\\', 'r']
  | '\t' => ['\\', 't']
  | '\x00' => ['\\', '0']
  | c =>
    if c.toNat < 127 && 32 ≤ c.toNat then [c]
    else if isCombining c || isHidden c then codePointEscape c
    else [c]

def quoted (s : String) : String :=
  String.ofList (['"'] ++ s.toList.flatMap quotedChar ++ ['"'])

/-- An optional text, marked as present or absent. -/
def quotedOption : Option String → String
  | some s => "Some(" ++ quoted s ++ ")"
  | none => "None"

end ActionGraph.Text
