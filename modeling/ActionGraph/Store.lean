import ActionGraph.Table
import ActionGraph.Value

/-!
# Variable stores

A store binds names to values. The values stand in slots, each with its name, in the order in which
the names first came; an index says which slot a name has. A name keeps its slot, whatever is
written to it later. Merging another store writes its bindings one after the other.

Index and slots always fit together: from each name the index leads to the slot that carries it,
and to no other. So nothing is ever looked for behind the last slot.
-/

namespace ActionGraph

/-- Slots, each with the name that it carries. -/
abbrev Slots := List (String × Value)

namespace Slots

def names (slots : Slots) : List String := slots.map (·.1)

/-- Writes a value into a slot, which keeps its name. -/
def put (slots : Slots) (slot : Nat) (value : Value) : Slots :=
  slots.modify slot fun entry => (entry.1, value)

theorem names_put (slots : Slots) (slot : Nat) (value : Value) :
    (slots.put slot value).names = slots.names := by
  apply List.ext_getElem?
  intro i
  simp only [names, put, List.getElem?_map, List.getElem?_modify]
  split <;> simp [Function.comp_def]

end Slots

/-- Slots and the index of their names. -/
structure Register where
  /-- The slot of each name, in the order of the names. -/
  index : List (String × Nat)
  slots : Slots

namespace Register

/-- From each name the index leads to the slot that carries it. -/
def IsConsistent (r : Register) : Prop := Table.IsIndexOf r.index r.slots.names

/-- Writes a value to a name: into its slot if it has one, otherwise into a new slot at the end. -/
def set (r : Register) (name : String) (value : Value) : Register :=
  match r.index.lookup name with
  | some slot => { r with slots := r.slots.put slot value }
  | none => ⟨Table.insert r.index name r.slots.length, r.slots ++ [(name, value)]⟩

theorem IsConsistent.set {r : Register} (h : r.IsConsistent) (name : String) (value : Value) :
    (r.set name value).IsConsistent := by
  rw [Register.set]
  split
  · intro other slot
    rw [Slots.names_put]
    exact h other slot
  · rename_i hnone
    have hnames : (r.slots ++ [(name, value)] : Slots).names = r.slots.names ++ [name] := by
      simp [Slots.names]
    have hlength : r.slots.names.length = r.slots.length := by simp [Slots.names]
    rw [IsConsistent, hnames, ← hlength]
    exact Table.IsIndexOf.insert h hnone

end Register

/-- A store: slots with an index that fits them. -/
structure Store extends Register where
  consistent : toRegister.IsConsistent

namespace Store

def empty : Store := ⟨⟨[], []⟩, Table.isIndexOf_nil⟩

def toList (s : Store) : List (String × Value) := s.slots

def size (s : Store) : Nat := s.slots.length

def slotOf? (s : Store) (name : String) : Option Nat := s.index.lookup name

def inSlot? (s : Store) (slot : Nat) : Option Value := s.slots[slot]?.map (·.2)

def get? (s : Store) (name : String) : Option Value := (s.slotOf? name).bind s.inSlot?

def contains (s : Store) (name : String) : Bool := (s.slotOf? name).isSome

def set (s : Store) (name : String) (value : Value) : Store :=
  ⟨s.toRegister.set name value, s.consistent.set name value⟩

/-- Binds names to values one after the other. -/
def setAll (s : Store) (bindings : List (String × Value)) : Store :=
  bindings.foldl (fun s (name, value) => s.set name value) s

/-- The store in which the bindings of another one have been written over this one. -/
def merge (s other : Store) : Store := s.setAll other.toList

/-- The store that results from writing the bindings one after the other. -/
def ofList (bindings : List (String × Value)) : Store := empty.setAll bindings

def diagnostic (s : Store) : String :=
  "\x7b" ++ ", ".intercalate (s.slots.map fun (name, value) =>
    Text.quoted name ++ ": " ++ value.diagnostic) ++ "\x7d"

end Store

end ActionGraph
