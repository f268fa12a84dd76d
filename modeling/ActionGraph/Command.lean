import ActionGraph.Action.Builtin
import ActionGraph.Asset.Summary
import ActionGraph.Decimal.Numeral
import ActionGraph.Json.Printer
import ActionGraph.Player.Headless
import ActionGraph.Settings

/-!
# The command line

`flowplayer run` plays the flow of a file to its end, or for some frames, and tells how it went.
`flowplayer inspect` prints what is in the file. Options may stand before or behind the path of the
file, each at most once; an option's value may be joined to it by `=`, and has to be if it starts
with a dash.
-/

namespace ActionGraph.Command

/-! ### Requests -/

/-- What is asked of a run. -/
structure RunRequest where
  path : String
  start? : Option String
  seed? : Option UInt64
  delta : Float32
  maxTicks : Nat
  /-- Whether frames take the time that they stand for. -/
  realtime : Bool

/-- What a command line asks for. -/
inductive Request where
  | run (request : RunRequest)
  | inspect (path : String) (compact : Bool)
  | version
  | help

structure OptionSpec where
  name : String
  /-- Which values the option takes, if it takes one. -/
  takes? : Option (String → Bool)

/-- The options of a command line, in order, and its path. -/
structure Arguments where
  options : List (String × String)
  path? : Option String

/-- The arguments with a path; there is one at most, and it is not empty. -/
def Arguments.withPath? (args : Arguments) (path : String) : Option Arguments :=
  if args.path?.isSome || path.isEmpty then none else some { args with path? := some path }

/-- The arguments with an option, which stands there once at most, and its value. -/
def Arguments.withOption? (args : Arguments) (name value : String) : Option Arguments :=
  if args.options.any (·.1 == name) then none
  else some { args with options := args.options ++ [(name, value)] }

/-- The value of an option, read by `read`; nothing if it cannot be read, and `absent` if the option
is not there. -/
def Arguments.value? {α : Type} (args : Arguments) (name : String) (absent : α)
    (read : String → Option α) : Option α :=
  match args.options.lookup name with
  | none => some absent
  | some text => read text

def Arguments.has (args : Arguments) (name : String) : Bool := (args.options.lookup name).isSome

/-- What stands behind the name of a command. -/
inductive Rest where
  | arguments (args : Arguments)
  /-- Help is asked for; what stands behind that does not matter. -/
  | help

/-- The value that stands behind an option: not another option. -/
def isValue (text : String) : Bool := !text.startsWith "-" || text == "-"

def isHelp (text : String) : Bool := text == "--help" || text.startsWith "-h"

/-- The name of an option, and the value that is joined to it. -/
def splitOption (text : String) : String × Option String :=
  let cs := text.toList
  (String.ofList (cs.takeWhile (· != '=')),
    if cs.contains '=' then some (String.ofList ((cs.dropWhile (· != '=')).drop 1)) else none)

/-- Reads what stands behind the name of a command from left to right; nothing if it is no use of
these options. Behind two dashes there are no options. -/
def rest? (specs : List OptionSpec) (past : Arguments) : (plain : Bool) → List String → Option Rest
  | _, [] => some (.arguments past)
  | true, text :: rest => do rest? specs (← past.withPath? text) true rest
  | false, text :: rest =>
    if text = "--" then rest? specs past true rest
    else if isHelp text then some .help
    else if isValue text then do rest? specs (← past.withPath? text) false rest
    else
      let (name, joined) := splitOption text
      match specs.find? (·.name == name) with
      | none => none
      | some spec =>
        match spec.takes?, joined, rest with
        | none, none, rest => do rest? specs (← past.withOption? name "") false rest
        | none, some _, _ => none
        | some takes, some value, rest =>
          if takes value then do rest? specs (← past.withOption? name value) false rest else none
        | some takes, none, value :: rest =>
          if isValue value && takes value then do
            rest? specs (← past.withOption? name value) false rest
          else none
        | some _, none, [] => none

def seed? (text : String) : Option (Option UInt64) := (Settings.word? text).map some

def ticks? (text : String) : Option Nat := (Settings.word? text).map UInt64.toNat

def runOptions : List OptionSpec := [
  ⟨"--start", some fun _ => true⟩, ⟨"--seed", some fun text => (seed? text).isSome⟩,
  ⟨"--dt", some fun text => (Decimal.ofText32? text).isSome⟩,
  ⟨"--max-ticks", some fun text => (ticks? text).isSome⟩, ⟨"--realtime", none⟩]

def inspectOptions : List OptionSpec := [⟨"--compact", none⟩]

def defaultDelta : Float32 := 1.0 / 60.0

/-- The most updates of a run where no number is given. -/
def defaultMaxTicks : Nat := 10000

def runRequest? (args : Arguments) : Option Request := do
  let path ← args.path?
  let start? ← args.value? "--start" none (some ∘ some)
  let seed? ← args.value? "--seed" none seed?
  let delta ← args.value? "--dt" defaultDelta Decimal.ofText32?
  let maxTicks ← args.value? "--max-ticks" defaultMaxTicks ticks?
  return .run ⟨path, start?, seed?, delta, maxTicks, args.has "--realtime"⟩

def inspectRequest? (args : Arguments) : Option Request := do
  return .inspect (← args.path?) (args.has "--compact")

/-- The request that a command makes of what stands behind its name. -/
def commandRequest? (specs : List OptionSpec) (request? : Arguments → Option Request)
    (texts : List String) : Option Request := do
  match ← rest? specs ⟨[], none⟩ false texts with
  | .help => return .help
  | .arguments args => request? args

/-- Whether help can be had for what stands behind `help`. -/
def hasHelp : List String → Bool
  | [] => true
  | [name] => name == "run" || name == "inspect" || name == "help"
  | name :: rest => name == "help" && hasHelp rest

/-- The request of a command line, if it is one. -/
def request? : List String → Option Request
  | "run" :: texts => commandRequest? runOptions runRequest? texts
  | "inspect" :: texts => commandRequest? inspectOptions inspectRequest? texts
  | "help" :: texts => if hasHelp texts then some .help else none
  | text :: _ =>
    if text == "--version" || text.startsWith "-V" then some .version
    else if isHelp text then some .help
    else none
  | [] => none

/-! ### Answers -/

/-- What a command prints, and the error with which it ends, if it does. -/
structure Answer where
  lines : List String
  failure? : Option FlowFault

/-- The line that tells an observer of an event. -/
def observed? : Event Float32 → Option String
  | .runStarted flow => some ("flow `" ++ flow ++ "` started")
  | .runFinished report =>
    some ("flow `" ++ report.flow ++ "` finished at `" ++ report.last?.getD "-" ++ "`" ++
      if report.withError then " with error" else "")
  | _ => none

/-- The line of an event: what an observer sees, and with `logs` also what is traced, apart from
what only helps to look for faults. -/
def lineOf? (logs : Bool) (e : Event Float32) : Option String :=
  match observed? e with
  | some line => some line
  | none =>
    if logs then (e.notice?.filter (·.level != .debug)).map Notice.line else none

/-- The line that tells that a flow goes on behind the last update. -/
def stillRunning (ticks : Nat) : String :=
  "flow still running after " ++ toString ticks ++ " ticks"

/-- A run that is ready to start: its flow, its player and how it starts. -/
structure Prepared where
  asset : Asset
  player : Player (Builtin Float32)
  options : StartOptions

/-- Makes a run ready; `content` is what the file holds, and `entropy` is the seed where no other is
given. -/
def prepare (request : RunRequest) (env : Environment) (content : Except FileFault String)
    (entropy : UInt64) : Except FlowFault Prepared := do
  (Clock.checkDelta request.delta).mapError FlowFault.refused
  let asset ← Asset.ofText (← content.mapError FlowFault.file)
  let config ← PlayerConfig.ofEnvironment env
  return ⟨asset, .new config entropy, { start? := request.start?, seed? := request.seed? }⟩

def answerRun (request : RunRequest) (env : Environment) (content : Except FileFault String)
    (entropy : UInt64) (logs : Bool) : Answer :=
  let result := do
    let run ← prepare request env content entropy
    run.player.runFrames Builtin.repertoire .new run.asset run.options request.delta
      request.maxTicks
  match result with
  | .error e => ⟨[], some e⟩
  | .ok (outcome, o) =>
    let lines := o.events.filterMap (lineOf? logs)
    ⟨match outcome.report? with
      | some _ => lines
      | none => lines ++ [stillRunning outcome.ticks], none⟩

def answerInspect (compact : Bool) (content : Except FileFault String) : Answer :=
  match content.mapError FlowFault.file >>= Asset.ofText with
  | .error e => ⟨[], some e⟩
  | .ok asset => ⟨[if compact then asset.summary.compact else asset.summary.pretty], none⟩

def versionLine : String := "flowplayer 0.1.0"

def usage : List String := [
  "Usage: flowplayer run <ASSET> [--start <ID>] [--seed <N>] [--dt <SECONDS>] [--max-ticks <N>] " ++
    "[--realtime]",
  "       flowplayer inspect <ASSET> [--compact]"]

end ActionGraph.Command
