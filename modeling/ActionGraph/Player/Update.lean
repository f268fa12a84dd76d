import ActionGraph.Player

/-!
# Updating a player

An update drives a player by one frame. It makes the action that is due, updates it, and follows its
decision to the next action with what is left of the frame time, until an action stays, the flow
ends, a link waits for the next frame, or the limit of transitions is reached. In the last two cases
the next update goes on with the action that is due.
-/

namespace ActionGraph

variable {ι τ : Type}

/-- What comes of a part of an update: the player and the scopes behind it, and what happened. -/
structure Outcome (ι τ : Type) where
  player : Player ι
  scopes : Scopes
  events : List (Event τ)

/-- The outcome after events that happened before. -/
def Outcome.after (o : Outcome ι τ) (events : List (Event τ)) : Outcome ι τ :=
  { o with events := events ++ o.events }

namespace Player

/-- The stage on which the player lets an action run. -/
def stage (p : Player ι) (scopes : Scopes) : Stage := ⟨p.bindings, scopes, p.rng⟩

/-- The player behind what an action did on the stage. -/
def behind (p : Player ι) (stage : Stage) : Player ι :=
  { p with bindings := stage.bindings, rng := stage.rng }

/-- Ends the run with an error that the session is told. -/
def abort (p : Player ι) (scopes : Scopes) (complaint : Complaint) : Outcome ι τ :=
  let (p, events) := p.finish true
  ⟨p, scopes, .said complaint :: events⟩

/-- Makes the action that is due and starts it. -/
def begin (r : Repertoire ι τ) (bridge : Bridge) (p : Player ι) (scopes : Scopes) (asset : Asset)
    (next : ActionId) : Outcome ι τ :=
  match asset.find? next with
  | none => (p.abort scopes (.unknown next asset.name)).after [.attempted next]
  | some d =>
    match r.make d.type d with
    | .error e => (p.abort scopes (.unmade next e)).after [.attempted next]
    | .ok made =>
      let played := r.start bridge d made (p.stage scopes)
      ⟨{ p.behind played.stage with phase := .active asset next played.result },
        played.stage.scopes,
        [.attempted next, .made d (p.stage scopes),
          .notice ⟨.debug, "action started", [("action", next), ("kind", d.type)]⟩, .started d] ++
          played.notes.map .noted⟩

/-- What the session is told of a decision. -/
def complaints (id : ActionId) : Decision → List (Event τ)
  | .stay (some message) => [.said (.troubled id message)]
  | .fail message => [.said (.failed id message)]
  | _ => []

/-- What is told of a transition. -/
def transitionNotice (id next : ActionId) (yields : Bool) : Notice :=
  ⟨.debug, "transition", [("from", id), ("to", next), ("yielded", toString yields)]⟩

/-- Updates the live instance, if there is one, and those that follow it in this frame; `more` is
how many transitions may still be followed by another action in this update. -/
def run [Clock τ] (r : Repertoire ι τ) (bridge : Bridge) :
    (more : Nat) → (remaining : τ) → Player ι → Scopes → Outcome ι τ
  | more, remaining, p, scopes =>
    match p.phase with
    | .idle | .finished | .poised _ _ _ => ⟨p, scopes, []⟩
    | .active asset id live =>
      match asset.find? id with
      | none => p.abort scopes (.vanished id asset.name)
      | some d =>
        let context := UpdateContext.new remaining
        let played := r.update bridge d live (p.stage scopes) context
        let decision := played.result.2.decision
        let scopes := played.stage.scopes
        let events := .updated d context.remaining :: played.notes.map .noted ++
          .decided d.id decision :: complaints d.id decision
        let p := { p.behind played.stage with phase := .active asset id played.result.1 }
        match decision with
        | .stay _ => ⟨p, scopes, events⟩
        | .finish =>
          let (p, ending) := p.finish false
          ⟨p, scopes, events ++ ending⟩
        | .fail _ =>
          let (p, ending) := p.finish true
          ⟨p, scopes, events ++ ending⟩
        | .go next yields =>
          let p := { p with phase := .poised asset next (some id) }
          let events := events ++ [.notice (transitionNotice d.id next yields)]
          if yields then ⟨p, scopes, events⟩
          else
            match more with
            | 0 =>
              ⟨p, scopes, events ++ [.said (.exhausted asset.name p.config.limit next)]⟩
            | more + 1 =>
              let begun := begin r bridge p scopes asset next
              (run r bridge more played.result.2.remaining begun.player begun.scopes).after
                (events ++ begun.events)

/-- What is told of a frame time. -/
def deltaNotices [Clock τ] (delta : τ) : List (Event τ) :=
  match Clock.checkDelta delta with
  | .ok _ => []
  | .error refusal =>
    [.notice ⟨.warn, "invalid tick delta, using zero",
      [("error", (FlowFault.refused refusal).message)]⟩]

/-- Drives the player by one frame. A frame time that is not admitted counts as zero. -/
def update [Clock τ] (r : Repertoire ι τ) (p : Player ι) (session : Session) (delta : τ) :
    Outcome ι τ :=
  let more := p.config.limit - 1
  let remaining := Clock.orZero delta
  match p.phase with
  | .idle | .finished => ⟨p, session.scopes, []⟩
  | .poised asset next _ =>
    let begun := begin r session.bridge p session.scopes asset next
    (run r session.bridge more remaining begun.player begun.scopes).after
      (deltaNotices delta ++ begun.events)
  | .active _ _ _ =>
    (run r session.bridge more remaining p session.scopes).after (deltaNotices delta)

end Player

end ActionGraph
