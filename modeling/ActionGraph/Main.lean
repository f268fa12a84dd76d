import ActionGraph.Command

/-!
# The program

What the command line needs of the system: files, the environment, random seeds, time and output.
-/

namespace ActionGraph

/-- The fault behind an error of the system. -/
def FileFault.ofError : IO.Error → FileFault
  | .noFileOrDirectory _ _ _ => .notFound
  | .inappropriateType _ 20 _ => .notDirectory
  | .inappropriateType _ 21 _ => .isDirectory
  | .permissionDenied _ code details => .system details code.toNat
  | e => .system (toString e) 0

def readText (path : String) : IO (Except FileFault String) := do
  try
    let bytes ← IO.FS.readBinFile path
    match String.fromUTF8? bytes with
    | some text => return .ok text
    | none => return .error .notText
  catch e => return .error (.ofError e)

def readEnvironment : IO Environment := do
  let names := [Settings.debugName, Settings.seedName, Settings.maxTransitionsName]
  let values ← names.mapM fun name => return (name, ← IO.getEnv name)
  return fun name => (values.lookup name).join

/-- A seed that nobody chose. -/
def readEntropy : IO UInt64 := do
  let bytes ← IO.getRandomBytes 8
  return bytes.toList.foldl (fun seed byte => seed * 256 + byte.toUInt64) 0

namespace Command

def report (events : List (Event Float32)) : IO Unit :=
  events.forM fun e => (lineOf? true e).forM IO.println

/-- Ends with an error, if there is one. -/
def exitCode : Option FlowFault → IO UInt32
  | none => return 0
  | some e => do
    IO.eprintln ("Error: " ++ e.message)
    return 1

/-- Runs a flow in frames that take their time, but at least a millisecond each. -/
def performLive (request : RunRequest) (run : Prepared) : IO UInt32 := do
  match run.player.start run.asset run.options with
  | .error e => exitCode (some e)
  | .ok (player, events) =>
    report events
    let pause := (max request.delta 0.001 * 1000).toUInt32
    let mut player := player
    let mut session := Session.new
    let mut ticks := 0
    while player.isPlaying && ticks < request.maxTicks do
      if 0 < ticks then IO.sleep pause
      let o := player.update Builtin.repertoire session request.delta
      report o.events
      player := o.player
      session := { session with scopes := o.scopes }
      ticks := ticks + 1
    if player.isPlaying then IO.println (stillRunning ticks)
    return 0

def performRun (request : RunRequest) : IO UInt32 := do
  let env ← readEnvironment
  let entropy ← readEntropy
  let content ← readText request.path
  if request.realtime then
    match prepare request env content entropy with
    | .error e => exitCode (some e)
    | .ok run => performLive request run
  else
    let answer := answerRun request env content entropy true
    answer.lines.forM IO.println
    exitCode answer.failure?

def handle : Request → IO UInt32
  | .run request => performRun request
  | .inspect path compact => do
    let answer := answerInspect compact (← readText path)
    answer.lines.forM IO.println
    exitCode answer.failure?
  | .version => do
    IO.println versionLine
    return 0
  | .help => do
    usage.forM IO.println
    return 0

end Command

end ActionGraph

/-- The program: an unknown request is answered with how to use it. -/
def main (args : List String) : IO UInt32 := do
  match ActionGraph.Command.request? args with
  | some request => ActionGraph.Command.handle request
  | none =>
    ActionGraph.Command.usage.forM IO.eprintln
    return 2
