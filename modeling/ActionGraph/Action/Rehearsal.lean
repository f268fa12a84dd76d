import ActionGraph.Action.Builtin

/-!
# Rehearsed actions

To try a flow out before its own actions are there, some can be rehearsed. A `scripted` action plays
the cues on its sheet, a list for its start and one for each update, the last of which repeats. An
`idle` action only stays, and one of the type `refuse` cannot be made. The built-in types are there
as well.
-/

namespace ActionGraph

variable {τ : Type}

/-- One thing that a rehearsed action does. -/
inductive Cue (τ : Type) where
  | keepActive
  | breakFlow
  | throw (message : String) (retry : Bool)
  | first (consumed : τ)
  | random (consumed : τ)
  | last (consumed : τ)
  /-- Follows a link of its own, or none. -/
  | goto (link? : Option Link) (consumed : τ)
  | reset (time : τ)
  | set (name : String) (value : Value)
  | setScoped (kind : ScopeKind) (name : String) (value : Value)
  | log (level : LogLevel) (message : String)
  | record

/-- What a rehearsed action plays. -/
structure CueSheet (τ : Type) where
  start : List (Cue τ)
  updates : List (List (Cue τ))

namespace CueSheet

/-- The cues of an update, counted from zero. -/
def update (sheet : CueSheet τ) (index : Nat) : List (Cue τ) :=
  (sheet.updates[min index (sheet.updates.length - 1)]?).getD []

end CueSheet

namespace Cue

variable [Clock τ]

def follow (c : UpdateContext τ) (consumed : τ) (found : Performance τ (Option Link)) :
    Performance τ (UpdateContext τ) :=
  ⟨c.goto found.result consumed, found.stage, found.notes⟩

def play (bridge : Bridge) (d : Descriptor) (stage : Stage) (c : UpdateContext τ) :
    Cue τ → Performance τ (UpdateContext τ)
  | .keepActive => .quiet stage c.keepActive
  | .breakFlow => .quiet stage c.breakFlow
  | .throw message retry => .quiet stage (c.throw message retry)
  | .first consumed => follow c consumed (stage.firstValid bridge d)
  | .random consumed => follow c consumed (stage.randomValid bridge d)
  | .last consumed => follow c consumed (stage.lastValid bridge d)
  | .goto link? consumed => .quiet stage (c.goto link? consumed)
  | .reset time => .quiet stage (.new time)
  | .set name value => .quiet { stage with bindings := stage.bindings.set name value } c
  | .setScoped kind name value =>
    .quiet { stage with scopes := stage.scopes.set kind name value } c
  | .log level message => ⟨c, stage, [.remark (.message level message)]⟩
  | .record => ⟨c, stage, [.context c]⟩

def playAll (bridge : Bridge) (d : Descriptor) (stage : Stage) (c : UpdateContext τ) :
    List (Cue τ) → Performance τ (UpdateContext τ)
  | [] => .quiet stage c
  | cue :: rest =>
    let played := cue.play bridge d stage c
    (playAll bridge d played.stage played.result rest).after played.notes

end Cue

/-- An instance in a rehearsal. -/
inductive Rehearsal (τ : Type) where
  | builtin (action : Builtin τ)
  | idle
  /-- A sheet, and how many updates have been played. -/
  | scripted (sheet : CueSheet τ) (updates : Nat)

namespace Rehearsal

variable [Clock τ]

/-- What makes instances of each type; `sheetOf` finds the sheet of a scripted action. -/
def makers (sheetOf : Descriptor → CueSheet τ) :
    List (String × (Descriptor → Except FlowFault (Rehearsal τ))) :=
  (Builtin.makers.map fun (type, make) => (type, fun d => (make d).map .builtin)) ++ [
    ("idle", fun _ => .ok .idle),
    ("scripted", fun d => .ok (.scripted (sheetOf d) 0)),
    ("refuse", fun d => .error (.other ("refused " ++ d.id)))]

/-- The start of an instance. What a scripted action decides there comes to nothing. -/
def start (bridge : Bridge) (d : Descriptor) (r : Rehearsal τ) (stage : Stage) :
    Performance τ (Rehearsal τ) :=
  match r with
  | .builtin action => .quiet stage (.builtin action.started)
  | .idle => .quiet stage r
  | .scripted sheet _ =>
    let played := Cue.playAll bridge d stage (.new Clock.zero) sheet.start
    ⟨r, played.stage, played.notes⟩

def update (bridge : Bridge) (d : Descriptor) (r : Rehearsal τ) (stage : Stage)
    (c : UpdateContext τ) : Performance τ (Rehearsal τ × UpdateContext τ) :=
  match r with
  | .builtin action =>
    let p := action.update bridge d stage c
    ⟨(.builtin p.result.1, p.result.2), p.stage, p.notes⟩
  | .idle => .quiet stage (r, c.keepActive)
  | .scripted sheet updates =>
    let p := Cue.playAll bridge d stage c (sheet.update updates)
    ⟨(.scripted sheet (updates + 1), p.result), p.stage, p.notes⟩

def repertoire (sheetOf : Descriptor → CueSheet τ) : Repertoire (Rehearsal τ) τ where
  makers := makers sheetOf
  start := start
  update := update

end Rehearsal

end ActionGraph
