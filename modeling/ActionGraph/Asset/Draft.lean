import ActionGraph.Asset

/-!
# Drafts

A draft collects the parts of an asset in any order: a link may be drawn before the actions at its
ends are there. Only `build` judges the whole, part by part: the name of the flow, its actions, its
variables, its links and its start.
-/

namespace ActionGraph

/-- An action without its links. -/
structure Declaration where
  id : ActionId
  type : String
  params : Json

/-- The parts of an asset to be. -/
structure Draft where
  name : String
  start? : Option ActionId := none
  actions : List Declaration := []
  /-- The links in order, each with the id of the action where it starts. -/
  links : List (ActionId × Link) := []
  bindings : Store := .empty

namespace Draft

def new (name : String) : Draft := { name := name }

def addAction (d : Draft) (id : ActionId) (type : String) (params : Json) : Draft :=
  { d with actions := d.actions ++ [⟨id, type, params⟩] }

def setStart (d : Draft) (id : ActionId) : Draft := { d with start? := some id }

/-- Binds a variable with which the flow starts. -/
def setVariable (d : Draft) (name : String) (value : Value) : Draft :=
  { d with bindings := d.bindings.set name value }

def addLink (d : Draft) (source : ActionId) (link : Link) : Draft :=
  { d with links := d.links ++ [(source, link)] }

/-- Checks actions in order; `seen` are the ids of those before. -/
def checkActions (seen : List ActionId) : List Declaration → Except FlowFault Unit
  | [] => .ok ()
  | action :: rest => do
    (Naming.checkActionId action.id).mapError FlowFault.refused
    if (Text.trim action.type).isEmpty then .error (.asset (.untypedAction action.id))
    else if action.id ∈ seen then .error (.duplicateAction action.id)
    else checkActions (action.id :: seen) rest

def checkVariables : List String → Except FlowFault Unit
  | [] => .ok ()
  | name :: rest => do
    (Naming.checkVariableName name).mapError FlowFault.refused
    checkVariables rest

/-- Refuses an id that no action has. -/
def checkDeclared (ids : List ActionId) (id : ActionId) : Except FlowFault Unit :=
  if id ∈ ids then .ok () else .error (.unknownAction id)

/-- The action of a declaration, as yet without links. -/
def unlinked (action : Declaration) : Descriptor :=
  { id := action.id, type := action.type, params := action.params }

/-- Adds a link to the first action that has the id of its source, if there is one. -/
def attach (source : ActionId) (link : Link) : List Descriptor → Option (List Descriptor)
  | [] => none
  | action :: rest =>
    if action.id = source then some ({ action with links := action.links ++ [link] } :: rest)
    else (attach source link rest).map (action :: ·)

/-- Adds links in order to the actions where they start; the ends of each have to be there. -/
def attachAll (ids : List ActionId) (actions : List Descriptor) :
    List (ActionId × Link) → Except FlowFault (List Descriptor)
  | [] => .ok actions
  | (source, link) :: rest => do
    checkDeclared ids link.target
    match attach source link actions with
    | none => .error (.unknownAction source)
    | some actions => attachAll ids actions rest

def build (d : Draft) : Except FlowFault Asset := do
  let ids := d.actions.map Declaration.id
  (Naming.checkFlowName d.name).mapError FlowFault.refused
  checkActions [] d.actions
  checkVariables d.bindings.slots.names
  let actions ← attachAll ids (d.actions.map unlinked) d.links
  d.start?.forM (checkDeclared ids)
  Asset.ofParts d.name actions d.start? d.bindings

end Draft

end ActionGraph
