import ActionGraph.Action

/-!
# What happens in a player

The calls of a player are told as events in the order in which they happen: what observers hear,
what becomes of the instances of actions, what is said to the session, and what someone who traces
the program is told.
-/

namespace ActionGraph

variable {τ : Type}

/-- How a run ended. -/
structure RunReport where
  flow : String
  /-- Where the run was. -/
  last? : Option ActionId
  withError : Bool
  deriving DecidableEq, Repr

def RunReport.toJson (report : RunReport) : Json :=
  .object [("flow", .string report.flow), ("last_action_id", .ofOption report.last?),
    ("with_error", .bool report.withError)]

/-- What a player says to the session on its own account. -/
inductive Complaint where
  /-- The action that is due is not in the flow. -/
  | unknown (id : ActionId) (flow : String)
  /-- The action that is live is not in the flow. -/
  | vanished (id : ActionId) (flow : String)
  /-- The action that is due cannot be made. -/
  | unmade (id : ActionId) (error : FlowFault)
  /-- An action failed and may try again. -/
  | troubled (id : ActionId) (message : String)
  /-- An action failed, and the flow with it. -/
  | failed (id : ActionId) (message : String)
  /-- An update made all the transitions that it may. -/
  | exhausted (flow : String) (limit : Nat) (next : ActionId)

namespace Complaint

/-- The weight of a complaint: what does not end the run is a warning. -/
def level : Complaint → LogLevel
  | .troubled _ _ | .exhausted _ _ _ => .warn
  | .unknown _ _ | .vanished _ _ | .unmade _ _ | .failed _ _ => .error

def text : Complaint → String
  | .unknown id flow => "unknown action `" ++ id ++ "` in flow `" ++ flow ++ "`"
  | .vanished id flow => "action `" ++ id ++ "` vanished from flow `" ++ flow ++ "`"
  | .unmade id error => "cannot create action `" ++ id ++ "`: " ++ error.message
  | .troubled id message | .failed id message => "action `" ++ id ++ "` failed: " ++ message
  | .exhausted flow limit next =>
    "flow `" ++ flow ++ "` reached " ++ toString limit ++
      " transitions in one update, resuming `" ++ next ++ "` next update"

end Complaint

/-- Something that happens in a call of a player. -/
inductive Event (τ : Type) where
  /-- Observers hear that a run starts. -/
  | runStarted (flow : String)
  /-- Observers hear that a run is over. -/
  | runFinished (report : RunReport)
  /-- The player sets out to make an instance for an id. -/
  | attempted (id : ActionId)
  /-- An instance was made, while this was on the stage. -/
  | made (d : Descriptor) (stage : Stage)
  | started (d : Descriptor)
  /-- An instance is updated with this much time left. -/
  | updated (d : Descriptor) (remaining : τ)
  /-- The update of an instance came to this decision. -/
  | decided (id : ActionId) (decision : Decision)
  | cancelled (id : ActionId)
  /-- The player says something to the session. -/
  | said (complaint : Complaint)
  /-- An action notes something. -/
  | noted (note : Note τ)
  /-- Someone who traces the program is told something. -/
  | notice (notice : Notice)

/-- What an event says to the session. -/
def Event.message? : Event τ → Option (LogLevel × String)
  | .said complaint => some (complaint.level, complaint.text)
  | .noted (.remark (.message level text)) => some (level, text)
  | _ => none

/-- What someone who traces the program is told of an event, when the session passes on what is said
to it. -/
def Event.notice? (e : Event τ) : Option Notice :=
  match e with
  | .notice n => some n
  | e => e.message?.map fun (level, text) => ⟨level, text, []⟩

end ActionGraph
