import ActionGraph.Json.DecodeError
import ActionGraph.Naming
import ActionGraph.Script.Result
import ActionGraph.Store.Handle

/-!
# Errors

Everything that can go wrong with flows, each cause with its wording.
-/

namespace ActionGraph

/-- The name of an action in a flow. -/
abbrev ActionId := String

/-- Why the parameters of an action are refused. -/
inductive ParamsFault where
  | undecodable (error : Json.DecodeError)
  | infiniteSeconds
  | unknownLevel (level : String)

def ParamsFault.message : ParamsFault → String
  | .undecodable error => error.message
  | .infiniteSeconds => "`seconds` must be finite"
  | .unknownLevel level => "unknown log level `" ++ level ++ "`"

/-- Why a description is no flow asset. -/
inductive AssetFault where
  | badText (error : Json.DecodeError)
  | badValue (error : Json.DecodeError)
  | untypedAction (id : ActionId)

def AssetFault.message : AssetFault → String
  | .badText error => "failed to parse flow asset: " ++ error.message
  | .badValue error => "failed to parse flow asset value: " ++ error.message
  | .untypedAction id => "action `" ++ id ++ "` has no type"

/-- Why a file cannot be read. -/
inductive FileFault where
  | notFound
  | isDirectory
  | notDirectory
  | notText
  /-- A name in the path is too long. -/
  | longName
  /-- A name in the path cannot be a name. -/
  | badName
  /-- Any other fault of the system, with its code. -/
  | system (text : String) (code : Nat)
  deriving DecidableEq

def FileFault.message : FileFault → String
  | .notFound => "No such file or directory (os error 2)"
  | .isDirectory => "Is a directory (os error 21)"
  | .notDirectory => "Not a directory (os error 20)"
  | .notText => "stream did not contain valid UTF-8"
  | .longName => "File name too long (os error 36)"
  | .badName => "file name contained an unexpected NUL byte"
  | .system text code => text ++ " (os error " ++ toString code ++ ")"

/-- What can go wrong with flows. -/
inductive FlowFault where
  | unknownAction (id : ActionId)
  | duplicateAction (id : ActionId)
  | emptyAsset (flow : String)
  | missingStart (flow : String)
  | unregistered (type : String)
  | invalidParams (action : ActionId) (fault : ParamsFault)
  | variable (error : ReadError)
  | script (fault : ScriptFault)
  | asset (fault : AssetFault)
  | refused (refusal : Refusal)
  | file (fault : FileFault)
  | json (error : Json.DecodeError)
  | other (text : String)

def FlowFault.message : FlowFault → String
  | .unknownAction id => "unknown action `" ++ id ++ "` in flow asset"
  | .duplicateAction id => "duplicate action id `" ++ id ++ "` in flow asset"
  | .emptyAsset flow => "flow asset `" ++ flow ++ "` has no actions"
  | .missingStart flow => "no start action could be resolved for flow asset `" ++ flow ++ "`"
  | .unregistered type => "action type `" ++ type ++ "` not registered"
  | .invalidParams action fault =>
    "invalid parameters for action `" ++ action ++ "`: " ++ fault.message
  | .variable error => error.message
  | .script fault => "script evaluation failed: " ++ fault.message
  | .asset fault => "invalid flow asset: " ++ fault.message
  | .refused refusal => "validation failed: " ++ refusal.message
  | .file fault => fault.message
  | .json error => error.message
  | .other text => text

end ActionGraph
