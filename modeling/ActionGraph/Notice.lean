import ActionGraph.Session
import ActionGraph.Text.Quoted

/-!
# Notices

A notice tells someone who traces a program what it does: a message with named details. On a line a
notice is its level, its message and its details in order; what would steer a terminal is escaped in
the message.
-/

namespace ActionGraph

/-- What is told to someone who traces the program. -/
structure Notice where
  level : LogLevel
  message : String
  details : List (String × String)
  deriving DecidableEq, Repr

def LogLevel.mark : LogLevel → String
  | .error => "ERROR"
  | .warn => "WARN"
  | .info => "INFO"
  | .debug => "DEBUG"

/-- A character of a message on a line. -/
def lineChar (c : Char) : List Char :=
  match c with
  | '\x1b' => ['\\', 'x', '1', 'b']
  | '\x07' => ['\\', 'x', '0', '7']
  | '\x08' => ['\\', 'x', '0', '8']
  | '\x0c' => ['\\', 'x', '0', 'c']
  | '\x7f' => ['\\', 'x', '7', 'f']
  | c => if '\u0080' ≤ c && c ≤ '\u009f' then Text.codePointEscape c else [c]

def Notice.line (n : Notice) : String :=
  " ".intercalate
    (n.level.mark :: String.ofList (n.message.toList.flatMap lineChar) ::
      n.details.map fun (name, text) => name ++ "=" ++ text)

end ActionGraph
