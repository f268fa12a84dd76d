import ActionGraph.Comparison
import ActionGraph.Session

/-!
# Conditions

A condition is true or false in view of a session and the variables of a player. It is evaluated
from left to right and no further than needed, and reports what it cannot evaluate; a condition that
cannot be evaluated is false. A description that is no condition is kept as `invalid` and reported
whenever it is evaluated.
-/

namespace ActionGraph

inductive Condition where
  | always
  | never
  | all (conditions : List Condition)
  | any (conditions : List Condition)
  | not (condition : Condition)
  | constant (var : String) (op : Comparison) (value : Value)
  | between (left : String) (op : Comparison) (right : String)
  | script (expression : String)
  | invalid (type reason : String)

namespace Condition

mutual

/-- Whether two conditions are equal, as far as the constants in them are. -/
def beq : Condition → Condition → Bool
  | .always, .always => true
  | .never, .never => true
  | .all conditions, .all others => beqAll conditions others
  | .any conditions, .any others => beqAll conditions others
  | .not condition, .not other => beq condition other
  | .constant var op value, .constant var' op' value' => var == var' && op == op' && value == value'
  | .between left op right, .between left' op' right' =>
    left == left' && op == op' && right == right'
  | .script expression, .script other => expression == other
  | .invalid type reason, .invalid type' reason' => type == type' && reason == reason'
  | _, _ => false

/-- Whether two lists of conditions are equal in this sense. -/
def beqAll : List Condition → List Condition → Bool
  | [], [] => true
  | condition :: rest, other :: others => beq condition other && beqAll rest others
  | _, _ => false

end

instance : BEq Condition := ⟨beq⟩

/-- The value that a condition sees for a name: that of the player, else that of the session. -/
def lookup (scopes : Scopes) (store : Store) (name : String) : Option Value :=
  match store.get? name with
  | some v => some v
  | none => scopes.resolve? name searchOrder

/-- What a part of a condition amounts to: its truth, and what it had to remark. -/
structure Verdict where
  holds : Bool
  remarks : List Remark
  deriving DecidableEq, Repr

/-- A verdict without remarks. -/
def Verdict.silent (holds : Bool) : Verdict := ⟨holds, []⟩

/-- What is false because of an error. -/
def Verdict.failed (text : String) : Verdict := ⟨false, [.message .error ("condition" ++ text)]⟩

/-- The verdict behind remarks that were made before. -/
def Verdict.after (v : Verdict) (remarks : List Remark) : Verdict :=
  { v with remarks := remarks ++ v.remarks }

def compareConstant (scopes : Scopes) (store : Store) (var : String) (op : Comparison)
    (value : Value) : Verdict :=
  match lookup scopes store var with
  | none => .failed (": variable `" ++ var ++ "` not found")
  | some left =>
    match left.compare op value with
    | .ok b => .silent b
    | .error e =>
      .failed (": `" ++ var ++ " " ++ op.symbol ++ " " ++ value.text ++ "`: " ++ e.message)

/-- Compares two variables. Variables of different types are in no relation. -/
def compareVariables (scopes : Scopes) (store : Store) (left : String) (op : Comparison)
    (right : String) : Verdict :=
  match lookup scopes store left, lookup scopes store right with
  | some a, some b =>
    if a.type != b.type then .silent false
    else match a.compare op b with
      | .ok b => .silent b
      | .error e =>
        .failed (": `" ++ left ++ " " ++ op.symbol ++ " " ++ right ++ "`: " ++ e.message)
  | _, _ =>
    .failed (": variables `" ++ left ++ "` / `" ++ right ++ "` could not both be resolved")

def evaluateScript (bridge : Bridge) (store : Store) (expression : String) : Verdict :=
  let asked : List Remark := [.evaluated expression store.size]
  match bridge expression store with
  | .ok v => ⟨v.isTruthy, asked⟩
  | .error fault => (Verdict.failed (": " ++ (FlowFault.script fault).message)).after asked

mutual

def evaluate (session : Session) (store : Store) : Condition → Verdict
  | .always => .silent true
  | .never => .silent false
  | .all conditions => evaluateAll session store conditions
  | .any conditions => evaluateAny session store conditions
  | .not condition =>
    let v := evaluate session store condition
    ⟨!v.holds, v.remarks⟩
  | .constant var op value => compareConstant session.scopes store var op value
  | .between left op right => compareVariables session.scopes store left op right
  | .script expression => evaluateScript session.bridge store expression
  | .invalid type reason => .failed (" `" ++ type ++ "`: " ++ reason)

/-- Evaluates conditions up to the first false one. -/
def evaluateAll (session : Session) (store : Store) : List Condition → Verdict
  | [] => .silent true
  | condition :: rest =>
    let v := evaluate session store condition
    if v.holds then (evaluateAll session store rest).after v.remarks else v

/-- Evaluates conditions up to the first true one. -/
def evaluateAny (session : Session) (store : Store) : List Condition → Verdict
  | [] => .silent false
  | condition :: rest =>
    let v := evaluate session store condition
    if v.holds then v else (evaluateAny session store rest).after v.remarks

end

/-- A condition that a variable equals a value. -/
def varEquals (var : String) (value : Value) : Condition := .constant var .eq value

end Condition

end ActionGraph
