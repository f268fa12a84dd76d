import ActionGraph.Action
import ActionGraph.Value.Form

/-!
# Built-in actions

The types of action that every flow can use. A `branch` follows its first valid link and a
`random_branch` any of them. A `wait` lets time pass, over as many frames as it takes, and leaves
the rest of a frame to what follows. The others end the flow, write a variable, say something to the
session, or fail.
-/

namespace ActionGraph

open Json (Field)

variable {τ : Type}

inductive Builtin (τ : Type) where
  | branch
  | randomBranch
  | finish
  | wait (seconds elapsed : τ)
  /-- Writes a variable of the player, or of a scope of the session. -/
  | setVariable (name : String) (value : Value) (scope? : Option ScopeKind)
  | log (level : LogLevel) (message : String)
  | fail (message : String) (retry : Bool)

/-! ### Parameters -/

structure WaitParams where
  seconds : Json.Number

def WaitParams.form : Json.Record WaitParams where
  title := "struct WaitParams"
  fields := [Field.of "seconds" true (Json.Decoder.number "f32") fun n _ => ⟨n⟩]
  initial := ⟨.integer 0⟩

structure SetVariableParams where
  name : String
  value : Value
  scope? : Option ScopeKind

def SetVariableParams.form : Json.Record SetVariableParams where
  title := "struct SetVariableParams"
  fields := [
    Field.of "name" true Json.Decoder.string fun name p => { p with name := name },
    Field.of "value" true Value.decoder fun value p => { p with value := value },
    Field.of "scope" false ScopeKind.decoder.optional fun scope? p => { p with scope? := scope? }]
  initial := ⟨"", .bool false, none⟩

structure LogParams where
  message : String
  level? : Option String

def LogParams.form : Json.Record LogParams where
  title := "struct LogParams"
  fields := [
    Field.of "message" true Json.Decoder.string fun message p => { p with message := message },
    Field.of "level" false Json.Decoder.string.optional fun level? p => { p with level? := level? }]
  initial := ⟨"", none⟩

structure FailParams where
  message : String
  retry : Bool

def FailParams.form : Json.Record FailParams where
  title := "struct FailParams"
  fields := [
    Field.of "message" false Json.Decoder.string fun message p => { p with message := message },
    Field.of "retry" false Json.Decoder.boolean fun retry p => { p with retry := retry }]
  initial := ⟨"action failed", false⟩

def Descriptor.decodeParams {α : Type} (d : Descriptor) (form : Json.Record α) :
    Except FlowFault α :=
  (Json.decodeValue form.decoder d.params).mapError fun e => .invalidParams d.id (.undecodable e)

namespace Builtin

/-! ### Making an instance -/

/-- A wait of a finite time, which is none if the time is negative. -/
def makeWait [Clock τ] (d : Descriptor) : Except FlowFault (Builtin τ) := do
  let params ← d.decodeParams WaitParams.form
  let seconds : τ := Clock.ofNumber params.seconds
  if Clock.isFinite seconds then .ok (.wait (Clock.floor seconds) Clock.zero)
  else .error (.invalidParams d.id .infiniteSeconds)

def makeSetVariable (d : Descriptor) : Except FlowFault (Builtin τ) := do
  let params ← d.decodeParams SetVariableParams.form
  return .setVariable params.name params.value params.scope?

/-- What says something; without a level it is information. -/
def makeLog (d : Descriptor) : Except FlowFault (Builtin τ) := do
  let params ← d.decodeParams LogParams.form
  let name := params.level?.getD LogLevel.info.name
  match LogLevel.ofName? name with
  | some level => .ok (.log level params.message)
  | none => .error (.invalidParams d.id (.unknownLevel name))

/-- What fails; it needs no parameters. -/
def makeFail (d : Descriptor) : Except FlowFault (Builtin τ) := do
  let params ← match d.params with
    | .null => .ok FailParams.form.initial
    | _ => d.decodeParams FailParams.form
  return .fail params.message params.retry

/-- What makes instances of each type. -/
def makers [Clock τ] : List (String × (Descriptor → Except FlowFault (Builtin τ))) := [
  ("branch", fun _ => .ok .branch),
  ("random_branch", fun _ => .ok .randomBranch),
  ("wait", makeWait),
  ("set_variable", makeSetVariable),
  ("log", makeLog),
  ("end", fun _ => .ok .finish),
  ("fail", makeFail)]

/-! ### Playing an instance -/

/-- The instance when it starts: no time has passed. -/
def started [Clock τ] : Builtin τ → Builtin τ
  | .wait seconds _ => .wait seconds Clock.zero
  | b => b

/-- Follows the first valid link, or ends the flow where there is none. -/
def follow [Clock τ] (bridge : Bridge) (d : Descriptor) (stage : Stage) (c : UpdateContext τ)
    (consumed : τ) : Performance τ (UpdateContext τ) :=
  let found := stage.firstValid bridge d
  ⟨c.goto found.result consumed, found.stage, found.notes⟩

def write (stage : Stage) (name : String) (value : Value) : Option ScopeKind → Stage
  | some kind => { stage with scopes := stage.scopes.set kind name value }
  | none => { stage with bindings := stage.bindings.set name value }

/-- An update of a wait: it is over when the time left reaches what is still to wait. -/
def updateWait [Clock τ] (bridge : Bridge) (d : Descriptor) (seconds elapsed : τ) (stage : Stage)
    (c : UpdateContext τ) : Performance τ (Builtin τ × UpdateContext τ) :=
  let needed := Clock.floor (Clock.sub seconds elapsed)
  if Clock.le needed c.remaining then
    let followed := follow bridge d stage c needed
    ⟨(.wait seconds seconds, followed.result), followed.stage, followed.notes⟩
  else .quiet stage (.wait seconds (Clock.add elapsed c.remaining), c.keepActive)

def update [Clock τ] (bridge : Bridge) (d : Descriptor) (b : Builtin τ) (stage : Stage)
    (c : UpdateContext τ) : Performance τ (Builtin τ × UpdateContext τ) :=
  let same (p : Performance τ (UpdateContext τ)) : Performance τ (Builtin τ × UpdateContext τ) :=
    ⟨(b, p.result), p.stage, p.notes⟩
  match b with
  | .branch => same (follow bridge d stage c Clock.zero)
  | .randomBranch =>
    let found := stage.randomValid bridge d
    same ⟨c.goto found.result Clock.zero, found.stage, found.notes⟩
  | .finish => .quiet stage (b, c.breakFlow)
  | .wait seconds elapsed => updateWait bridge d seconds elapsed stage c
  | .setVariable name value scope? =>
    same (follow bridge d (write stage name value scope?) c Clock.zero)
  | .log level message =>
    same ((follow bridge d stage c Clock.zero).after [.remark (.message level message)])
  | .fail message retry => .quiet stage (b, c.throw message retry)

def repertoire [Clock τ] : Repertoire (Builtin τ) τ where
  makers := makers
  start _ _ action stage := .quiet stage action.started
  update := update

end Builtin

end ActionGraph
