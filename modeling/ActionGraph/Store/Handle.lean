import ActionGraph.Store

/-!
# Handles

A store in use has an identity, which copies of it do not share. A handle names a slot of one store
and is refused by every other. Stores are kept under labels in a `Depot`, which gives out the
identities in turn, as numbers of 64 bits: no store has an identity that another one ever had, as
long as there are no more stores than identities.
-/

namespace ActionGraph

/-- A slot of one store. -/
structure Handle where
  store : UInt64
  slot : Nat
  deriving DecidableEq, Repr

/-- Why a variable cannot be read. -/
inductive ReadError where
  | unknownVariable (name : String)
  | typeMismatch (expected found : ValueType)
  | foreignHandle
  deriving DecidableEq, Repr

def ReadError.message : ReadError → String
  | .unknownVariable name => "variable `" ++ name ++ "` not found"
  | .typeMismatch expected found =>
    "variable type mismatch: expected " ++ expected.name ++ ", found " ++ found.name
  | .foreignHandle => "variable handle does not belong to this store"

/-- A value, if it has the expected type. -/
def Value.expect (v : Value) (expected : ValueType) : Except ReadError Value :=
  if v.type = expected then .ok v else .error (.typeMismatch expected v.type)

/-- The value bound to a name, if it has the expected type. -/
def Store.read (s : Store) (name : String) (expected : ValueType) : Except ReadError Value :=
  match s.get? name with
  | some v => v.expect expected
  | none => .error (.unknownVariable name)

/-- A store with its identity. -/
structure KeptStore where
  id : UInt64
  contents : Store

namespace KeptStore

def find? (s : KeptStore) (name : String) : Option Handle :=
  (s.contents.slotOf? name).map (⟨s.id, ·⟩)

/-- The store with a value written to a name, and the handle of the slot that was written: that of
the name, or else the one behind all others. -/
def set (s : KeptStore) (name : String) (value : Value) : KeptStore × Handle :=
  ({ s with contents := s.contents.set name value },
    ⟨s.id, (s.contents.slotOf? name).getD s.contents.size⟩)

def merge (s other : KeptStore) : KeptStore :=
  { s with contents := s.contents.merge other.contents }

def value (s : KeptStore) (h : Handle) : Except ReadError Value :=
  if h.store = s.id then
    match s.contents.inSlot? h.slot with
    | some v => .ok v
    | none => .error .foreignHandle
  else .error .foreignHandle

def type (s : KeptStore) (h : Handle) : Except ReadError ValueType := (s.value h).map Value.type

/-- The value in the slot of a handle, if it has the expected type. -/
def read (s : KeptStore) (h : Handle) (expected : ValueType) : Except ReadError Value := do
  (← s.value h).expect expected

end KeptStore

/-- Stores under labels, and the next identity. -/
structure Depot where
  next : UInt64
  stores : List (String × KeptStore)

namespace Depot

def empty : Depot := ⟨1, []⟩

def get? (d : Depot) (label : String) : Option KeptStore := d.stores.lookup label

/-- Puts a store under a label in place of the one that was there. -/
def put (d : Depot) (label : String) (s : KeptStore) : Depot :=
  { d with stores := (label, s) :: d.stores.filter (·.1 != label) }

/-- Puts contents with a new identity under a label. -/
def create (d : Depot) (label : String) (contents : Store) : Depot :=
  ({ d with next := d.next + 1 } : Depot).put label ⟨d.next, contents⟩

/-- Applies a function to the store under a label. -/
def update (d : Depot) (label : String) (f : KeptStore → KeptStore) : Depot :=
  match d.get? label with
  | some s => d.put label (f s)
  | none => d

/-- What can happen to the stores of a depot. -/
inductive Command where
  | create (label : String)
  | ofList (label : String) (bindings : List (String × Value))
  | copy (label source : String)
  | merge (label source : String)
  | set (label name : String) (value : Value)

/-- Carries out a command. A label without a store stands for nothing. -/
def run (d : Depot) : Command → Depot
  | .create label => d.create label .empty
  | .ofList label bindings => d.create label (.ofList bindings)
  | .copy label source =>
    match d.get? source with
    | some s => d.create label s.contents
    | none => d
  | .merge label source =>
    match d.get? source with
    | some other => d.update label (·.merge other)
    | none => d
  | .set label name value => d.update label fun s => (s.set name value).1

end Depot

end ActionGraph
