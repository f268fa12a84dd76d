import ActionGraph.Error
import ActionGraph.Scope

/-!
# Sessions

A session gives a player its scopes and evaluates its expressions. What is said to a session on the
way is a list of remarks: messages, and the expressions that were evaluated.
-/

namespace ActionGraph

/-- The weight of a message. -/
inductive LogLevel where
  | error
  | warn
  | info
  | debug
  deriving DecidableEq, Repr

namespace LogLevel

def name : LogLevel → String
  | .error => "error"
  | .warn => "warn"
  | .info => "info"
  | .debug => "debug"

def all : List LogLevel := [.error, .warn, .info, .debug]

def ofName? (name : String) : Option LogLevel := all.find? (·.name == name)

end LogLevel

/-- What is said to a session. -/
inductive Remark where
  | message (level : LogLevel) (text : String)
  /-- An expression was evaluated in view of a store of this size. -/
  | evaluated (expression : String) (size : Nat)
  deriving DecidableEq, Repr

/-- The scopes of a session and what evaluates its expressions. -/
structure Session where
  scopes : Scopes
  bridge : Bridge

namespace Session

/-- A session without scopes that evaluates scripts. -/
def new : Session := ⟨[], .standard⟩

def setScoped (s : Session) (kind : ScopeKind) (name : String) (value : Value) : Session :=
  { s with scopes := s.scopes.set kind name value }

/-- The value of a variable in the fallback scopes. -/
def resolve? (s : Session) (name : String) : Option Value := s.scopes.resolve? name searchOrder

def diagnostic (s : Session) : String :=
  "Session \x7b scopes: SessionScopes \x7b kinds: [" ++
    ", ".intercalate (s.scopes.map fun (kind, _) => kind.diagnostic) ++ "] \x7d, .. \x7d"

end Session

end ActionGraph
