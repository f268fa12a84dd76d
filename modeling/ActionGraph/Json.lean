import ActionGraph.Table

/-!
# JSON values

A JSON value keeps whole numbers apart from the others, and keeps the members of an object in
order, names that occur twice included. A value is `sorted` when the members of each of its objects
stand in increasing order of their names and no name occurs twice; where a name is repeated the
last member is the one that counts.
-/

namespace ActionGraph

namespace Json

/-- A number: a whole one from `-2 ^ 63` up to `2 ^ 64 - 1`, or any finite number of 64 bits. -/
inductive Number where
  | integer (i : Int)
  | real (x : Float)
  deriving BEq

end Json

inductive Json where
  | null
  | bool (b : Bool)
  | number (n : Json.Number)
  | string (s : String)
  | array (items : List Json)
  | object (members : List (String × Json))

namespace Json

abbrev Members := List (String × Json)

def ofInt (i : Int) : Json := .number (.integer i)

/-- A number of 64 bits; what JSON cannot hold is null. -/
def ofFloat (x : Float) : Json := if x.isFinite then .number (.real x) else .null

def ofOption : Option String → Json
  | some s => .string s
  | none => .null

namespace Members

/-- Adds a member to sorted members, in place of one with the same name. -/
def insert (members : Members) (name : String) (value : Json) : Members :=
  Table.insert members name value

def get? (members : Members) (name : String) : Option Json := List.lookup name members

/-- The text of the member with this name, if it is a string. -/
def string? (members : Members) (name : String) : Option String :=
  match members.get? name with
  | some (.string s) => some s
  | _ => none

end Members

mutual

/-- The same value with the members of every object sorted. -/
def sorted : Json → Json
  | .array items => .array (sortedItems items)
  | .object members => .object (sortedMembers [] members)
  | .null => .null
  | .bool b => .bool b
  | .number n => .number n
  | .string s => .string s

def sortedItems : List Json → List Json
  | [] => []
  | item :: rest => sorted item :: sortedItems rest

/-- The members, each sorted, added one after the other to those before. -/
def sortedMembers (before : Members) : List (String × Json) → Members
  | [] => before
  | (name, value) :: rest => sortedMembers (before.insert name (sorted value)) rest

end

end Json

end ActionGraph
