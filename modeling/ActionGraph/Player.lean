import ActionGraph.Player.Config
import ActionGraph.Player.Event

/-!
# Players

A player takes a flow from action to action. At most one instance of an action is alive in it.
Between two calls it is idle, or it plays: then it either has a live instance, or it only knows the
id of the action that the next update will make, which is so at the start, behind a link that waits
for the next frame, and where an update has made all the transitions that it may.

A start that is refused leaves the player as it was. When a run ends, by itself or by a stop,
observers hear of it once, and the player is idle again.
-/

namespace ActionGraph

variable {ι τ : Type}

/-- What a player is at; `ι` is the type of the instances. -/
inductive Phase (ι : Type) where
  | idle
  /-- The next update makes the action `next`; `last?` is the action that was there before, if there
  was one in this run. -/
  | poised (asset : Asset) (next : ActionId) (last? : Option ActionId)
  | active (asset : Asset) (id : ActionId) (live : ι)
  /-- Observers are hearing that the run is over. -/
  | finished

/-- The state of a player, as it can be seen from outside. -/
inductive PlayerState where
  | idle
  | pendingStart
  | active
  | yielded
  | finished
  deriving DecidableEq, Repr

def PlayerState.name : PlayerState → String
  | .idle => "idle"
  | .pendingStart => "pending_start"
  | .active => "active"
  | .yielded => "yielded"
  | .finished => "finished"

def PlayerState.diagnostic : PlayerState → String
  | .idle => "Idle"
  | .pendingStart => "PendingStart"
  | .active => "Active"
  | .yielded => "Yielded"
  | .finished => "Finished"

namespace Phase

def state : Phase ι → PlayerState
  | .idle => .idle
  | .poised _ _ none => .pendingStart
  | .poised _ _ (some _) => .yielded
  | .active _ _ _ => .active
  | .finished => .finished

def asset? : Phase ι → Option Asset
  | .poised asset _ _ | .active asset _ _ => some asset
  | .idle | .finished => none

def current? : Phase ι → Option ActionId
  | .active _ id _ => some id
  | _ => none

/-- The id of the action that the next update makes. -/
def pending? : Phase ι → Option ActionId
  | .poised _ next _ => some next
  | _ => none

/-- Where a run is that ends in this phase: at its live instance, else at the last one it had, else
at the action that it was to start with. -/
def last? : Phase ι → Option ActionId
  | .active _ id _ => some id
  | .poised _ next before? => some (before?.getD next)
  | .idle | .finished => none

end Phase

structure Player (ι : Type) where
  config : PlayerConfig
  phase : Phase ι
  bindings : Store
  rng : Rng
  /-- The report of the last run, until the next one starts. -/
  report? : Option RunReport

/-- How a run is to start. -/
structure StartOptions where
  /-- Where to start, in place of the start of the asset. -/
  start? : Option ActionId := none
  /-- A seed for the random choices from here on. -/
  seed? : Option UInt64 := none
  /-- Variables that are written over those of the asset. -/
  bindings : Store := .empty

namespace Player

/-- A player without a flow; where the configuration has no seed, the given one is used. -/
def new (config : PlayerConfig) (seed : UInt64) : Player ι :=
  ⟨config, .idle, .empty, .ofSeed (config.seed?.getD seed), none⟩

def state (p : Player ι) : PlayerState := p.phase.state

def asset? (p : Player ι) : Option Asset := p.phase.asset?

def current? (p : Player ι) : Option ActionId := p.phase.current?

def pending? (p : Player ι) : Option ActionId := p.phase.pending?

def isPlaying (p : Player ι) : Bool := p.current?.isSome || p.pending?.isSome

def setVariable (p : Player ι) (name : String) (value : Value) : Player ι :=
  { p with bindings := p.bindings.set name value }

def diagnostic (p : Player ι) : String :=
  "FlowPlayer \x7b state: " ++ p.state.diagnostic ++
    ", flow: " ++ Text.quotedOption (p.asset?.map Asset.name) ++
    ", current: " ++ Text.quotedOption p.current? ++
    ", pending: " ++ Text.quotedOption p.pending? ++
    ", variables: " ++ p.bindings.diagnostic ++ " \x7d"

/-! ### The end of a run -/

def finishNotice (report : RunReport) : Notice :=
  ⟨.info, "flow finished", [("flow", report.flow), ("last_action", Text.quotedOption report.last?),
    ("with_error", toString report.withError)]⟩

/-- Ends the run and lets observers hear of it. -/
def announceEnd (p : Player ι) (withError : Bool) : Player ι × List (Event τ) :=
  let report : RunReport := ⟨((p.asset?.map Asset.name).getD ""), p.phase.last?, withError⟩
  ({ p with phase := .finished, report? := some report },
    [.notice (finishNotice report), .runFinished report])

/-- The player after observers have heard that the run is over. -/
def settle (p : Player ι) : Player ι := { p with phase := .idle }

def finish (p : Player ι) (withError : Bool) : Player ι × List (Event τ) :=
  let (p, events) := p.announceEnd withError
  (p.settle, events)

/-- Stops the run, if there is one; a live instance is cancelled. -/
def stop (p : Player ι) : Player ι × List (Event τ) :=
  match p.phase with
  | .idle | .finished => (p, [])
  | .poised _ _ _ => p.finish false
  | .active _ id _ =>
    let (p, events) := p.finish false
    (p, .notice ⟨.debug, "cancelling live action", [("action", id)]⟩ :: .cancelled id :: events)

/-! ### The start of a run -/

def resolveStart (asset : Asset) (options : StartOptions) : Except FlowFault ActionId :=
  if asset.size = 0 then .error (.emptyAsset asset.name)
  else
    match options.start?.or asset.start? with
    | none => .error (.missingStart asset.name)
    | some id =>
      match asset.find? id with
      | none => .error (.unknownAction id)
      | some _ => .ok id

/-- The player poised at the start of a run. -/
def poise (p : Player ι) (asset : Asset) (options : StartOptions) (id : ActionId) : Player ι :=
  { p with
    phase := .poised asset id none
    bindings := asset.bindings.merge options.bindings
    rng := match options.seed? with
      | some seed => .ofSeed seed
      | none => p.rng
    report? := none }

/-- Starts a run, in place of the one that is played. Nothing happens before it is clear where to
start. -/
def start (p : Player ι) (asset : Asset) (options : StartOptions) :
    Except FlowFault (Player ι × List (Event τ)) := do
  let id ← resolveStart asset options
  let (stopped, events) := p.stop
  return (stopped.poise asset options id,
    events ++ [.notice ⟨.info, "flow started", [("flow", asset.name), ("start", id)]⟩,
      .runStarted asset.name])

end Player

end ActionGraph
