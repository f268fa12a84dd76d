import ActionGraph.Condition
import ActionGraph.Notice

/-!
# Flow assets

A flow is a graph of actions. An action has an id, a type that says what it does, parameters for
that type, and links to the actions that may follow it. The ids of an asset are distinct, so that an
id names one action. An asset may also say where it starts and which variables it starts with.
-/

namespace ActionGraph

/-- A link to the action that may follow. -/
structure Link where
  target : ActionId
  condition : Condition := .always
  /-- Whether the target waits for the next frame. -/
  yields : Bool := false

/-- An action as an asset describes it. -/
structure Descriptor where
  id : ActionId
  type : String
  links : List Link := []
  params : Json := .null

/-- A flow. From each id the index leads to the place of the action that has it. -/
structure Asset where
  name : String
  actions : List Descriptor
  /-- The place of each action, in the order of the ids. -/
  index : List (ActionId × Nat)
  start? : Option ActionId
  bindings : Store
  consistent : Table.IsIndexOf index (actions.map Descriptor.id)

namespace Asset

/-- Enters actions into an index, the first of them under this place; no id may stand twice. -/
def indexFrom (index : List (ActionId × Nat)) (place : Nat) :
    List Descriptor → Except FlowFault (List (ActionId × Nat))
  | [] => .ok index
  | action :: rest =>
    if (index.lookup action.id).isSome then .error (.duplicateAction action.id)
    else indexFrom (Table.insert index action.id place) (place + 1) rest

def indexOf (actions : List Descriptor) : Except FlowFault (List (ActionId × Nat)) :=
  indexFrom [] 0 actions

theorem isIndexOf_indexFrom {index out : List (ActionId × Nat)} {ids : List ActionId}
    {actions : List Descriptor} (h : Table.IsIndexOf index ids)
    (hout : indexFrom index ids.length actions = .ok out) :
    Table.IsIndexOf out (ids ++ actions.map Descriptor.id) := by
  induction actions generalizing index ids with
  | nil =>
    obtain rfl := Except.ok.inj hout
    rwa [List.map_nil, List.append_nil]
  | cons action rest ih =>
    rw [indexFrom] at hout
    split at hout
    · exact nomatch hout
    · rename_i hnew
      have hlength : (ids ++ [action.id]).length = ids.length + 1 := by simp
      rw [← hlength] at hout
      have hrest := ih (h.insert (Option.not_isSome_iff_eq_none.1 hnew)) hout
      rwa [List.append_assoc] at hrest

theorem isIndexOf_indexOf {index : List (ActionId × Nat)} {actions : List Descriptor}
    (h : indexOf actions = .ok index) : Table.IsIndexOf index (actions.map Descriptor.id) :=
  isIndexOf_indexFrom Table.isIndexOf_nil h

/-- The asset with these parts; no id may stand twice. -/
def ofParts (name : String) (actions : List Descriptor) (start? : Option ActionId)
    (bindings : Store) : Except FlowFault Asset :=
  match h : indexOf actions with
  | .error fault => .error fault
  | .ok index => .ok ⟨name, actions, index, start?, bindings, isIndexOf_indexOf h⟩

def find? (a : Asset) (id : ActionId) : Option Descriptor :=
  (a.index.lookup id).bind (a.actions[·]?)

/-- Under an id the index leads to the action that has it, and to no other. -/
theorem find?_eq_some_iff {a : Asset} {id : ActionId} {d : Descriptor} :
    a.find? id = some d ↔ d ∈ a.actions ∧ d.id = id := by
  rw [find?, Option.bind_eq_some_iff]
  constructor
  · rintro ⟨place, hplace, hd⟩
    have hid := (a.consistent id place).1 hplace
    rw [List.getElem?_map, hd] at hid
    exact ⟨List.mem_of_getElem? hd, Option.some.inj hid⟩
  · rintro ⟨hmem, rfl⟩
    obtain ⟨place, hplace⟩ := List.mem_iff_getElem?.1 hmem
    refine ⟨place, (a.consistent d.id place).2 ?_, hplace⟩
    rw [List.getElem?_map, hplace, Option.map_some]

theorem id_of_find? {a : Asset} {id : ActionId} {d : Descriptor} (h : a.find? id = some d) :
    d.id = id := (find?_eq_some_iff.1 h).2

theorem mem_of_find? {a : Asset} {id : ActionId} {d : Descriptor} (h : a.find? id = some d) :
    d ∈ a.actions := (find?_eq_some_iff.1 h).1

def size (a : Asset) : Nat := a.actions.length

/-- What is told of an asset that was loaded. -/
def loadedNotice (a : Asset) : Notice :=
  ⟨.debug, "flow asset loaded", [("flow", a.name), ("actions", toString a.size)]⟩

end Asset

end ActionGraph
