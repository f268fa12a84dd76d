import ActionGraph.Error
import ActionGraph.Player.Config
import ActionGraph.Text.Blank

/-!
# Settings of the environment

Players take their defaults from variables of the environment. A setting is a whole number of 64
bits, perhaps with blanks around it; one that is there and is no such number is refused.
-/

namespace ActionGraph

abbrev Environment := String → Option String

namespace Settings

/-- The variable that asks for detailed logs. -/
def debugName : String := "FLOWPLAYER_DEBUG"

/-- The variable with the seed of random choices. -/
def seedName : String := "FLOWPLAYER_SEED"

/-- The variable with the most transitions of one update. -/
def maxTransitionsName : String := "FLOWPLAYER_MAX_TRANSITIONS"

/-- The number that decimal digits denote, if there are any and the number fits 64 bits. -/
def wordOfDigits? (cs : List Char) : Option UInt64 :=
  if cs.isEmpty || !cs.all Char.isDigit then none
  else
    let n := cs.foldl (fun n c => 10 * n + (c.toNat - '0'.toNat)) 0
    if n < UInt64.size then some (UInt64.ofNat n) else none

/-- The number that a text denotes; a plus sign may stand in front. -/
def word? (text : String) : Option UInt64 :=
  match text.toList with
  | '+' :: cs => wordOfDigits? cs
  | cs => wordOfDigits? cs

/-- The setting under a name, if it is there. -/
def number (env : Environment) (name : String) : Except FlowFault (Option UInt64) :=
  match env name with
  | none => .ok none
  | some raw =>
    match word? (Text.trim raw) with
    | some n => .ok (some n)
    | none => .error (.refused (.badSetting name raw))

def isDebug (env : Environment) : Bool := (env debugName).isSome

def seed (env : Environment) : Except FlowFault (Option UInt64) := number env seedName

def maxTransitions (env : Environment) : Except FlowFault (Option UInt64) :=
  number env maxTransitionsName

end Settings

def PlayerConfig.ofEnvironment (env : Environment) : Except FlowFault PlayerConfig := do
  let base : PlayerConfig := {}
  let limited := match ← Settings.maxTransitions env with
    | some limit => base.withMaxTransitions limit
    | none => base
  return { limited with seed? := ← Settings.seed env }

end ActionGraph
