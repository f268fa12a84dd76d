import ActionGraph.Condition
import ActionGraph.Value.Form

/-!
# The written form of a condition

A condition is written as an object with a `type` and the parameters of that type. Without a type it
always holds. An object whose type or parameters make no sense is still read, as an invalid
condition that says why; inside a list or a negation the same holds of what is no object at all.
-/

namespace ActionGraph

open Json (DecodeError Members Reading)

/-- The type of a condition and its parameters, which are sorted. -/
structure ConditionForm where
  type : Option String
  params : Members

namespace ConditionForm

def ofType (type : String) : ConditionForm := ⟨some type, []⟩

def withParam (f : ConditionForm) (name : String) (value : Json) : ConditionForm :=
  { f with params := f.params.insert name value }

/-- The members of a form: its type first, then its parameters. -/
def toMembers (f : ConditionForm) : Members :=
  (match f.type with
    | some type => [("type", .string type)]
    | none => []) ++ f.params

def toJson (f : ConditionForm) : Json := .object f.toMembers

/-- Decodes members into a form; `typed` says whether the type has come. -/
def setMembers (origin : Json.Origin) (typed : Bool) (f : ConditionForm) :
    List (Except Json.SyntaxError String × Reading) → Except DecodeError ConditionForm
  | [] => .ok f
  | (name, value) :: rest => do
    let name ← Json.kept name
    if name = "type" then
      if typed then .error (.duplicateField "type")
      else
        let type ← Json.Decoder.optional Json.Decoder.string origin value
        setMembers origin true { f with type := type } rest
    else
      let value ← Json.Decoder.sorted origin value
      setMembers origin typed (f.withParam name value) rest

/-- Decodes a form, which is an object. -/
def decoder : Json.Decoder ConditionForm := fun origin r =>
  match r with
  | .object members fault => do
    let inner ← origin.enter
    let f ← setMembers inner false ⟨none, []⟩ members
    Json.endOf fault
    return f
  | r => Json.refuse "struct ConditionConfig" r

end ConditionForm

namespace Condition

def textParam (type : String) (params : Members) (name : String) : Except Condition String :=
  match params.string? name with
  | some s => .ok s
  | none => .error (.invalid type ("missing string parameter `" ++ name ++ "`"))

/-- The operator of a comparison; what is no text stands for equality. -/
def opParam (type : String) (params : Members) : Except Condition Comparison :=
  let raw := (params.string? "op").getD "=="
  match Comparison.ofText? raw with
  | some op => .ok op
  | none => .error (.invalid type (Comparison.unknownText raw))

/-- The comparison with a constant that the parameters describe. -/
def ofConstantParams (type : String) (params : Members) : Except Condition Condition := do
  let var ← textParam type params "var"
  let op ← opParam type params
  match params.get? "value" with
  | none => .error (.invalid type "missing `value`")
  | some form =>
    match Value.ofJson form with
    | .ok value => .ok (.constant var op value)
    | .error e => .error (.invalid type ("`value`: " ++ e.message))

/-- The comparison of two variables that the parameters describe. -/
def ofVariablesParams (type : String) (params : Members) : Except Condition Condition := do
  let left ← textParam type params "left"
  let right ← textParam type params "right"
  let op ← opParam type params
  return .between left op right

/-- The condition that is not made of others and that a form of this type describes. -/
def ofPlain (type : String) (params : Members) : Except Condition Condition :=
  match type with
  | "" | "true" => .ok .always
  | "false" => .ok .never
  | "var_compare_constant" => ofConstantParams type params
  | "var_compare_variable" => ofVariablesParams type params
  | "script" | "script_expression" => (textParam type params "expression").map .script
  | "invalid" =>
    .error (.invalid ((params.string? "for").getD "invalid")
      ((params.string? "reason").getD "invalid condition"))
  | other => .error (.invalid other "unknown condition type")

/-- A condition, or the invalid one that stands for it. -/
def orInvalid : Except Condition Condition → Condition
  | .ok c => c
  | .error c => c

def typeOf (type : Option String) : String := Text.trim (type.getD "")

/-- The type of a nested form, if it is one: an object whose type is absent, null or a text. -/
def nestedType (members : Members) : Except DecodeError (Option String) :=
  match members.get? "type" with
  | none => .ok none
  | some form => Json.Decoder.optional Json.Decoder.string .value (.ofJson form)

/-- The invalid condition in the place of what is no form. -/
def badNested (type : String) (e : DecodeError) : Condition :=
  .invalid type ("nested condition: " ++ e.message)

mutual

/-- The condition that a nested form describes; `parent` is the type of the condition around
it. -/
def ofNested (parent : String) : Json → Condition
  | .object members =>
    match nestedType members with
    | .error e => badNested parent e
    | .ok type =>
      let type := typeOf type
      if type = "and" then
        match listParam type members with
        | .ok conditions => .all conditions
        | .error c => c
      else if type = "or" then
        match listParam type members with
        | .ok conditions => .any conditions
        | .error c => c
      else if type = "not" then
        match conditionParam type members with
        | some c => .not c
        | none => .invalid type "missing nested `condition`"
      else orInvalid (ofPlain type members)
  | .array _ => badNested parent (.wrongType .sequence "struct ConditionConfig")
  | .null => badNested parent (.wrongType .null "struct ConditionConfig")
  | .bool b => badNested parent (.wrongType (.bool b) "struct ConditionConfig")
  | .number (.integer i) => badNested parent (.wrongType (.integer i) "struct ConditionConfig")
  | .number (.real x) => badNested parent (.wrongType (.real x) "struct ConditionConfig")
  | .string s => badNested parent (.wrongType (.string s) "struct ConditionConfig")

/-- The conditions that the parameter `conditions` lists; none if it is absent. -/
def listParam (type : String) : List (String × Json) → Except Condition (List Condition)
  | [] => .ok []
  | (name, .array items) :: rest =>
    if name = "conditions" then .ok (ofNestedList type items) else listParam type rest
  | (name, _) :: rest =>
    if name = "conditions" then .error (.invalid type "`conditions` must be an array")
    else listParam type rest

def ofNestedList (type : String) : List Json → List Condition
  | [] => []
  | form :: rest => ofNested type form :: ofNestedList type rest

/-- The condition that the parameter `condition` describes, if it is there. -/
def conditionParam (type : String) : List (String × Json) → Option Condition
  | [] => none
  | (name, form) :: rest =>
    if name = "condition" then some (ofNested type form) else conditionParam type rest

end

def ofForm (f : ConditionForm) : Condition :=
  let type := typeOf f.type
  if type = "and" then
    match listParam type f.params with
    | .ok conditions => .all conditions
    | .error c => c
  else if type = "or" then
    match listParam type f.params with
    | .ok conditions => .any conditions
    | .error c => c
  else if type = "not" then
    match conditionParam type f.params with
    | some c => .not c
    | none => .invalid type "missing nested `condition`"
  else orInvalid (ofPlain type f.params)

def decoder : Json.Decoder Condition := fun origin r => (ConditionForm.decoder origin r).map ofForm

mutual

def toForm : Condition → ConditionForm
  | .always => ⟨none, []⟩
  | .never => .ofType "false"
  | .all conditions =>
    (ConditionForm.ofType "and").withParam "conditions" (.array (toValues conditions))
  | .any conditions =>
    (ConditionForm.ofType "or").withParam "conditions" (.array (toValues conditions))
  | .not condition => (ConditionForm.ofType "not").withParam "condition" (toValue condition)
  | .constant var op value =>
    (((ConditionForm.ofType "var_compare_constant").withParam "var" (.string var)).withParam "op"
      (.string op.symbol)).withParam "value" value.toJson
  | .between left op right =>
    (((ConditionForm.ofType "var_compare_variable").withParam "left" (.string left)).withParam "op"
      (.string op.symbol)).withParam "right" (.string right)
  | .script expression =>
    (ConditionForm.ofType "script").withParam "expression" (.string expression)
  | .invalid type reason =>
    ((ConditionForm.ofType "invalid").withParam "for" (.string type)).withParam "reason"
      (.string reason)

/-- A condition inside another value, with all members sorted. -/
def toValue (c : Condition) : Json := (toForm c).toJson.sorted

def toValues : List Condition → List Json
  | [] => []
  | c :: rest => toValue c :: toValues rest

end

/-- The written form of a condition that stands by itself. -/
def toJson (c : Condition) : Json := (toForm c).toJson

end Condition

end ActionGraph
