import ActionGraph.Player.Update

/-!
# The fields of a player

A player keeps what it knows of a run in fields of their own: its asset, its live action, the action
that is due, the action that was live last, and the state that it shows. Nothing in these fields
says that they fit together. It is the calls that have to see to it, and they write the fields one
by one on every way out: where a run ends, where an instance cannot be made, where a link waits for
the next frame, where the limit of transitions is reached.

A `Deck` is a player in this form. Its functions write the fields in the order in which a call
writes them, and read what an action decided from the fields of the context.
-/

namespace ActionGraph

variable {ι τ : Type}

/-- An action with the instance that is alive for it. -/
structure LiveAction (ι : Type) where
  id : ActionId
  actor : ι

/-- A player as its fields; each may hold anything, whatever the others hold. -/
structure Deck (ι : Type) where
  config : PlayerConfig
  asset? : Option Asset
  current? : Option (LiveAction ι)
  /-- The action that the next update makes. -/
  pending? : Option ActionId
  /-- The action that was live last in this run. -/
  last? : Option ActionId
  report? : Option RunReport
  state : PlayerState
  bindings : Store
  rng : Rng

namespace Deck

/-- What comes of a part of an update: the deck and the scopes behind it, and what happened. -/
structure Outcome (ι τ : Type) where
  deck : Deck ι
  scopes : Scopes
  events : List (Event τ)

/-- The outcome after events that happened before. -/
def Outcome.after (o : Outcome ι τ) (events : List (Event τ)) : Outcome ι τ :=
  { o with events := events ++ o.events }

/-- A deck without a flow; where the configuration has no seed, the given one is used. -/
def new (config : PlayerConfig) (seed : UInt64) : Deck ι where
  config := config
  asset? := none
  current? := none
  pending? := none
  last? := none
  report? := none
  state := .idle
  bindings := .empty
  rng := .ofSeed (config.seed?.getD seed)

def isPlaying (d : Deck ι) : Bool := d.current?.isSome || d.pending?.isSome

/-! ### The end of a run -/

/-- Ends the run. The run was at its live action, else at the one that was live last, else at the
one that is due. Observers hear of the end when the state says that it has come. -/
def finish (d : Deck ι) (withError : Bool) : Deck ι × List (Event τ) :=
  let last? := (d.current?.map LiveAction.id).or (d.last?.or d.pending?)
  let d := { d with current? := none }
  let d := { d with pending? := none }
  let d := { d with last? := none }
  let d := { d with state := .finished }
  let report : RunReport := ⟨(d.asset?.map Asset.name).getD "", last?, withError⟩
  let d := { d with asset? := none }
  let d := { d with report? := some report }
  let d := { d with state := .idle }
  (d, [.notice (Player.finishNotice report), .runFinished report])

/-- Stops the run, if there is one; a live instance is cancelled. -/
def stop (d : Deck ι) : Deck ι × List (Event τ) :=
  match d.asset? with
  | none => (d, [])
  | some _ =>
    match d.current? with
    | none => d.finish false
    | some live =>
      let d := { d with current? := none }
      let d := { d with last? := some live.id }
      let (d, events) := d.finish false
      (d, .notice ⟨.debug, "cancelling live action", [("action", live.id)]⟩ ::
        .cancelled live.id :: events)

/-! ### The start of a run -/

/-- Sets a run up; the fields of the run before are written over. -/
def poise (d : Deck ι) (asset : Asset) (options : StartOptions) (id : ActionId) : Deck ι :=
  let d := { d with report? := none }
  let d := { d with bindings := asset.bindings.merge options.bindings }
  let d := match options.seed? with
    | some seed => { d with rng := .ofSeed seed }
    | none => d
  let d := { d with asset? := some asset }
  let d := { d with pending? := some id }
  let d := { d with last? := none }
  { d with state := .pendingStart }

/-- Starts a run, in place of the one that is played. Nothing is written before it is clear where to
start. -/
def start (d : Deck ι) (asset : Asset) (options : StartOptions) :
    Except FlowFault (Deck ι × List (Event τ)) := do
  let id ← Player.resolveStart asset options
  let (stopped, events) := d.stop
  return (stopped.poise asset options id,
    events ++ [.notice ⟨.info, "flow started", [("flow", asset.name), ("start", id)]⟩,
      .runStarted asset.name])

/-! ### Updates -/

/-- The stage on which the player lets an action run. -/
def stage (d : Deck ι) (scopes : Scopes) : Stage := ⟨d.bindings, scopes, d.rng⟩

/-- The deck behind what an action did on the stage. -/
def behind (d : Deck ι) (stage : Stage) : Deck ι :=
  { d with bindings := stage.bindings, rng := stage.rng }

/-- Ends the run at an action that cannot be made. -/
def refuse (d : Deck ι) (scopes : Scopes) (id : ActionId) (complaint : Complaint) :
    Bool × Outcome ι τ :=
  let d := { d with pending? := some id }
  let (d, events) := d.finish true
  (false, ⟨d, scopes, .attempted id :: .said complaint :: events⟩)

/-- Makes an action and starts it, and says whether that was possible. The action is not due any
more when this is called. -/
def begin (r : Repertoire ι τ) (bridge : Bridge) (d : Deck ι) (scopes : Scopes) (asset : Asset)
    (id : ActionId) : Bool × Outcome ι τ :=
  match asset.find? id with
  | none => d.refuse scopes id (.unknown id asset.name)
  | some descriptor =>
    match r.make descriptor.type descriptor with
    | .error e => d.refuse scopes id (.unmade id e)
    | .ok made =>
      let played := r.start bridge descriptor made (d.stage scopes)
      let events := [.attempted id, .made descriptor (d.stage scopes),
        .notice ⟨.debug, "action started", [("action", id), ("kind", descriptor.type)]⟩,
        .started descriptor] ++ played.notes.map .noted
      let d := d.behind played.stage
      let d := { d with last? := some id }
      let d := { d with current? := some ⟨id, played.result⟩ }
      let d := { d with state := .active }
      (true, ⟨d, played.stage.scopes, events⟩)

/-- What the session is told of the error that an update left in its context. -/
def complaints (id : ActionId) (context : UpdateContext τ) : List (Event τ) :=
  match context.error? with
  | none => []
  | some message =>
    if context.finished then [.said (.failed id message)] else [.said (.troubled id message)]

/-- Updates the live instance, which stays where it is whatever it decided. -/
def visit [Clock τ] (r : Repertoire ι τ) (bridge : Bridge) (d : Deck ι) (scopes : Scopes)
    (descriptor : Descriptor) (live : LiveAction ι) (remaining : τ) :
    UpdateContext τ × Outcome ι τ :=
  let context := UpdateContext.new remaining
  let played := r.update bridge descriptor live.actor (d.stage scopes) context
  let events := .updated descriptor context.remaining :: played.notes.map .noted ++
    .decided descriptor.id played.result.2.decision :: complaints descriptor.id played.result.2
  let d := d.behind played.stage
  let d := { d with current? := some { live with actor := played.result.1 } }
  (played.result.2, ⟨d, played.stage.scopes, events⟩)

/-- Takes the id out that is due, when its action is about to be made. -/
def takeDue (d : Deck ι) : Deck ι := { d with pending? := none }

/-- Takes the live action out, when it has left for another one. -/
def leave (d : Deck ι) : Deck ι := { d with current? := none }

/-- Leaves an action to the next update. -/
def suspend (d : Deck ι) (next : ActionId) : Deck ι :=
  let d := { d with pending? := some next }
  { d with state := .yielded }

/-- Updates the live instance as long as there is one, and those that follow it in this frame, of
which `transitions` have followed already. -/
def loop [Clock τ] (r : Repertoire ι τ) (bridge : Bridge) (asset : Asset) (limit : Nat)
    (transitions : Nat) (remaining : τ) (d : Deck ι) (scopes : Scopes) : Outcome ι τ :=
  match d.current? with
  | none => ⟨d, scopes, []⟩
  | some live =>
    match asset.find? live.id with
    | none =>
      let (d, ending) := d.finish true
      ⟨d, scopes, .said (.vanished live.id asset.name) :: ending⟩
    | some descriptor =>
      let (context, ⟨d, scopes, events⟩) := d.visit r bridge scopes descriptor live remaining
      if context.finished then
        let failed := context.error?.isSome
        match context.next?.filter fun _ => !failed with
        | none =>
          let (d, ending) := d.finish failed
          ⟨d, scopes, events ++ ending⟩
        | some next =>
          let events := events ++
            [.notice (Player.transitionNotice descriptor.id next context.yields)]
          let d := d.leave
          if context.yields then ⟨d.suspend next, scopes, events⟩
          else if limit ≤ transitions + 1 then
            ⟨d.suspend next, scopes, events ++ [.said (.exhausted asset.name limit next)]⟩
          else
            let (made, begun) := d.begin r bridge scopes asset next
            if made then
              (loop r bridge asset limit (transitions + 1) context.remaining begun.deck
                begun.scopes).after (events ++ begun.events)
            else begun.after events
      else ⟨d, scopes, events⟩
termination_by limit - transitions

/-- Drives the deck by one frame. A frame time that is not admitted counts as zero. -/
def update [Clock τ] (r : Repertoire ι τ) (d : Deck ι) (session : Session) (delta : τ) :
    Outcome ι τ :=
  match d.asset? with
  | none => ⟨d, session.scopes, []⟩
  | some asset =>
    let remaining := Clock.orZero delta
    let notices := Player.deltaNotices delta
    let limit := d.config.limit
    match d.pending? with
    | none => (loop r session.bridge asset limit 0 remaining d session.scopes).after notices
    | some id =>
      let d := d.takeDue
      let (made, begun) := d.begin r session.bridge session.scopes asset id
      if made then
        (loop r session.bridge asset limit 0 remaining begun.deck begun.scopes).after
          (notices ++ begun.events)
      else begun.after notices

end Deck

end ActionGraph
