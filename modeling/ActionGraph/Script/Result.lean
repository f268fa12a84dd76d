import ActionGraph.Script.Evaluation
import ActionGraph.Store

/-!
# Scripts in a session

A session asks a script for a value in view of the variables of a store. The script sees each
variable under its own name and cannot write back. Only nothing and false count as false; zero and
the empty text count as true.
-/

namespace ActionGraph

/-- What a script yields. -/
inductive ScriptValue where
  | unit
  | bool (b : Bool)
  | int (i : Int64)
  | float (x : Float)
  | string (s : String)
  /-- Any other value, by the name of its type and its text. -/
  | other (typeName text : String)
  deriving BEq

namespace ScriptValue

def isTruthy : ScriptValue → Bool
  | .unit | .bool false => false
  | _ => true

def typeName : ScriptValue → String
  | .unit => "()"
  | .bool _ => "bool"
  | .int _ => "int"
  | .float _ => "float"
  | .string _ => "string"
  | .other typeName _ => typeName

def text : ScriptValue → String
  | .unit => "()"
  | .bool b => toString b
  | .int i => toString i.toInt
  | .float x => Decimal.plain x
  | .string s => Text.quoted s
  | .other _ text => text

/-- What a session sees of a value of a script. -/
def ofDatum : Script.Datum → ScriptValue
  | .unit => .unit
  | .bool b => .bool b
  | .int i => .int i
  | .float x => .float x
  | .string s => .string s
  | .char c => .other "char" c.toString
  | d => .other d.typeName d.shown

end ScriptValue

/-- What a script sees of a variable. A reference is its number where that fits a whole number of
scripts, and nothing otherwise. -/
def Value.toDatum : Value → Script.Datum
  | .bool b => .bool b
  | .int i => .int i
  | .float x => .float x
  | .string s => .string s
  | .entity (some id) => if id.toNat < 1 <<< 63 then .int (Int64.ofNat id.toNat) else .unit
  | .entity none => .unit

/-- Why a script yields no value. -/
inductive ScriptFault where
  | failed (expression : String) (error : Script.Error)
  /-- A table of results has none for the expression. -/
  | noEntry (expression : String)
  deriving DecidableEq

def ScriptFault.message : ScriptFault → String
  | .failed expression error => "`" ++ expression ++ "`: " ++ error.message
  | .noEntry expression => "no entry for " ++ expression

/-- What evaluates the expressions of a session. -/
abbrev Bridge := String → Store → Except ScriptFault ScriptValue

namespace Bridge

/-- Evaluates expressions as scripts with at most `limit` operations. -/
def scripts (limit : Nat) : Bridge := fun expression store =>
  match Script.evaluate limit expression (store.toList.map fun (name, v) => (name, v.toDatum)) with
  | .ok d => .ok (.ofDatum d)
  | .error e => .error (.failed expression e)

/-- Evaluates expressions as scripts with the usual limit. -/
def standard : Bridge := scripts Script.operationLimit

def table (entries : List (String × ScriptValue)) : Bridge := fun expression _ =>
  match entries.lookup expression with
  | some v => .ok v
  | none => .error (.noEntry expression)

end Bridge

end ActionGraph
