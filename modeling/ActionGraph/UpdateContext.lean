import ActionGraph.Asset
import ActionGraph.Clock

/-!
# The context of an update

An action that is updated learns how much of the frame time is left and leaves its decision in the
context. It may change its mind as often as it likes; `UpdateContext.decision` is what the player
makes of the context in the end.
-/

namespace ActionGraph

variable {τ : Type}

/-- What an update knows and leaves behind. -/
structure UpdateContext (τ : Type) where
  /-- What is left of the frame time. -/
  remaining : τ
  next? : Option ActionId := none
  error? : Option String := none
  finished : Bool := false
  yields : Bool := false

/-- What an action decides. -/
inductive Decision where
  /-- It stays, perhaps with a complaint. -/
  | stay (complaint? : Option String)
  | finish
  /-- The flow ends with an error. -/
  | fail (message : String)
  /-- An action follows, perhaps only in the next frame. -/
  | go (next : ActionId) (yields : Bool)
  deriving DecidableEq, Repr

/-- A call by which an action decides. -/
inductive UpdateCall (τ : Type) where
  | keepActive
  | breakFlow
  | throw (message : String) (retry : Bool)
  | goto (link? : Option Link) (consumed : τ)

namespace UpdateContext

/-- The context at the start of an update. -/
def new [Clock τ] (remaining : τ) : UpdateContext τ := { remaining := Clock.floor remaining }

def keepActive (c : UpdateContext τ) : UpdateContext τ :=
  { c with error? := none, finished := false }

def breakFlow (c : UpdateContext τ) : UpdateContext τ :=
  { c with next? := none, error? := none, finished := true }

/-- The action has failed; it stays if it may try again. -/
def throw (c : UpdateContext τ) (message : String) (retry : Bool) : UpdateContext τ :=
  { c with error? := some message, finished := !retry }

/-- The flow follows a link and spends some of the time, of which never less than nothing is left.
Without a link the flow ends. -/
def goto [Clock τ] (c : UpdateContext τ) (link? : Option Link) (consumed : τ) : UpdateContext τ :=
  match link? with
  | none => c.breakFlow
  | some link =>
    { remaining := Clock.floor (Clock.sub c.remaining (Clock.floor consumed))
      next? := some link.target
      error? := none
      finished := true
      yields := link.yields }

def call [Clock τ] (c : UpdateContext τ) : UpdateCall τ → UpdateContext τ
  | .keepActive => c.keepActive
  | .breakFlow => c.breakFlow
  | .throw message retry => c.throw message retry
  | .goto link? consumed => c.goto link? consumed

def decision (c : UpdateContext τ) : Decision :=
  if c.finished then
    match c.error?, c.next? with
    | some message, _ => .fail message
    | none, some next => .go next c.yields
    | none, none => .finish
  else .stay c.error?

end UpdateContext

end ActionGraph
