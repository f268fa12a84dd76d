import ActionGraph.Store
import ActionGraph.Json.Decoder

/-!
# Session scopes

Beside the variables of a player a session holds stores of its own, one for each scope in use: the
scope of the current run, the scope that outlives runs, and scopes under free names. A scope comes
into being when something is first written to it.
-/

namespace ActionGraph

open Json (DecodeError Members)

inductive ScopeKind where
  | runtime
  | persistent
  | custom (name : String)
  deriving DecidableEq, Repr

namespace ScopeKind

def name : ScopeKind → String
  | .runtime => "runtime"
  | .persistent => "persistent"
  | .custom name => name

def diagnostic : ScopeKind → String
  | .runtime => "Runtime"
  | .persistent => "Persistent"
  | .custom name => "Custom(" ++ Text.quoted name ++ ")"

def toJson : ScopeKind → Json
  | .runtime => .string "runtime"
  | .persistent => .string "persistent"
  | .custom name => .object [("custom", .string name)]

/-- The scope that a name and a content describe; a name that stands alone has no content. -/
def ofTag (tag : String) (content : Option Json) : Except DecodeError ScopeKind :=
  let unit (kind : ScopeKind) : Except DecodeError ScopeKind :=
    match content with
    | none | some .null => .ok kind
    | some other => Json.refuse "unit" (.ofJson other)
  if tag = "runtime" then unit .runtime
  else if tag = "persistent" then unit .persistent
  else if tag = "custom" then
    match content with
    | none => .error (.wrongType .unitVariant "newtype variant")
    | some content => (Json.Decoder.string .value (.ofJson content)).map .custom
  else .error (.unknownVariant tag ["runtime", "persistent", "custom"])

def ofJson : Json → Except DecodeError ScopeKind
  | .string tag => ofTag tag none
  | .object [(tag, content)] => ofTag tag (some content)
  | .object _ => .error (.wrongValue .map "map with a single key")
  | other => Json.refuse "string or map" (.ofJson other)

def decoder : Json.Decoder ScopeKind := fun origin r => do ofJson (← Json.anyValue origin r)

end ScopeKind

/-- The scopes in which a variable is looked up when a player has none of that name. -/
def searchOrder : List ScopeKind := [.runtime, .persistent]

/-- The scopes of a session, in the order in which they came into being. -/
abbrev Scopes := List (ScopeKind × Store)

namespace Scopes

def store? (scopes : Scopes) (kind : ScopeKind) : Option Store := scopes.lookup kind

/-- Applies a function to the store of a scope, which comes into being if it is not there. -/
def modify (scopes : Scopes) (kind : ScopeKind) (f : Store → Store) : Scopes :=
  match scopes with
  | [] => [(kind, f .empty)]
  | (other, s) :: rest =>
    if other = kind then (other, f s) :: rest else (other, s) :: Scopes.modify rest kind f

def set (scopes : Scopes) (kind : ScopeKind) (name : String) (value : Value) : Scopes :=
  scopes.modify kind (·.set name value)

def get? (scopes : Scopes) (kind : ScopeKind) (name : String) : Option Value :=
  (scopes.store? kind).bind (·.get? name)

/-- The value of a variable in the first of some scopes that has it. -/
def resolve? (scopes : Scopes) (name : String) (kinds : List ScopeKind) : Option Value :=
  kinds.findSome? fun kind => scopes.get? kind name

def clear (scopes : Scopes) (kind : ScopeKind) : Scopes := scopes.filter (·.1 != kind)

end Scopes

end ActionGraph
