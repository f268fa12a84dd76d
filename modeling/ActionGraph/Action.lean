import ActionGraph.Selection
import ActionGraph.UpdateContext

/-!
# Actions

What the actions of a type do is the business of a `Repertoire`, which makes an instance for a
descriptor and says what an instance does when it starts and when it is updated. An instance may
look at its descriptor and at the session; it may change the stage, which holds the variables of the
player, the scopes of the session and the generator of random words; and it may remark things.
-/

namespace ActionGraph

variable {ι τ α : Type}

/-- What an action may change. -/
structure Stage where
  bindings : Store
  scopes : Scopes
  rng : Rng

/-- What is noted while an action runs. -/
inductive Note (τ : Type) where
  | remark (remark : Remark)
  /-- The context as the action sees it. -/
  | context (context : UpdateContext τ)

/-- What comes of a part of an action: a result, the stage behind it, and notes. -/
structure Performance (τ α : Type) where
  result : α
  stage : Stage
  notes : List (Note τ)

namespace Performance

def quiet (stage : Stage) (result : α) : Performance τ α := ⟨result, stage, []⟩

/-- The performance with notes that were made before. -/
def after (p : Performance τ α) (notes : List (Note τ)) : Performance τ α :=
  { p with notes := notes ++ p.notes }

end Performance

namespace Stage

/-- The session as an action on the stage sees it. -/
def session (stage : Stage) (bridge : Bridge) : Session := ⟨stage.scopes, bridge⟩

/-- What is found among links, on this stage. -/
def search (stage : Stage) (s : Search α) : Performance τ α :=
  ⟨s.result, stage, s.remarks.map .remark⟩

def firstValid (stage : Stage) (bridge : Bridge) (d : Descriptor) : Performance τ (Option Link) :=
  stage.search (Link.firstValid (stage.session bridge) stage.bindings d.links)

def lastValid (stage : Stage) (bridge : Bridge) (d : Descriptor) : Performance τ (Option Link) :=
  stage.search
    (Link.eachValid (stage.session bridge) stage.bindings (fun _ link => .yield (some link)) none
      d.links)

/-- One of the links of an action whose conditions hold, by chance. -/
def randomValid (stage : Stage) (bridge : Bridge) (d : Descriptor) :
    Performance τ (Option Link) :=
  let found := Link.randomValid (stage.session bridge) stage.bindings stage.rng d.links
  { stage with rng := found.result.2 }.search (found.map Prod.fst)

end Stage

/-- The types of action that are known; `ι` is the type of their instances. -/
structure Repertoire (ι τ : Type) where
  /-- What makes an instance, under each type of action. -/
  makers : List (String × (Descriptor → Except FlowFault ι))
  start : Bridge → Descriptor → ι → Stage → Performance τ ι
  /-- What an instance does when it is updated. -/
  update : Bridge → Descriptor → ι → Stage → UpdateContext τ → Performance τ (ι × UpdateContext τ)

namespace Repertoire

def knows (r : Repertoire ι τ) (type : String) : Bool := r.makers.any (·.1 == type)

def types (r : Repertoire ι τ) : List String := r.makers.map (·.1)

def make (r : Repertoire ι τ) (type : String) (d : Descriptor) : Except FlowFault ι :=
  match r.makers.lookup type with
  | some maker => maker d
  | none => .error (.unregistered type)

end Repertoire

end ActionGraph
