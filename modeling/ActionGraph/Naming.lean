import ActionGraph.Text.Letter
import ActionGraph.Text.Numeral

/-!
# Names

The rules for the names that a flow asset may use. An action is named by letters, numerals and a few
marks. A variable is named like an identifier. A flow needs a name, of at most a hundred bytes.
-/

namespace ActionGraph

/-- A name or a setting that is refused. -/
inductive Refusal where
  | emptyActionId
  | badActionId (id : String)
  | badVariableName (name : String)
  | emptyFlowName
  | longFlowName
  /-- A frame time, by its text. -/
  | badDelta (delta : String)
  /-- A setting of the environment, by its name and its text. -/
  | badSetting (name raw : String)
  deriving DecidableEq, Repr

def flowNameLimit : Nat := 100

def Refusal.message : Refusal → String
  | .emptyActionId => "动作 ID 不能为空"
  | .badActionId id =>
    "动作 ID '" ++ id ++ "' 包含无效字符，应该只包含字母、数字、下划线、短横线、点和冒号"
  | .badVariableName name => "变量名称 '" ++ name ++ "' 不是合法标识符"
  | .emptyFlowName => "流程名称不能为空"
  | .longFlowName => "流程名称过长（最多 " ++ toString flowNameLimit ++ " 字符）"
  | .badDelta delta => "帧时间增量必须是非负有限值，当前值: " ++ delta
  | .badSetting name raw => "环境变量 '" ++ name ++ "' 的值 '" ++ raw ++ "' 无法解析"

namespace Naming

/-- Letters and numerals of every script. -/
def isWordChar (c : Char) : Bool := Text.isLetter c || Text.isNumeral c

def isActionIdChar (c : Char) : Bool :=
  isWordChar c || c == '_' || c == '-' || c == '.' || c == ':'

def checkActionId (id : String) : Except Refusal Unit :=
  if id.isEmpty then .error .emptyActionId
  else if id.toList.all isActionIdChar then .ok ()
  else .error (.badActionId id)

def isIdentifier : List Char → Bool
  | [] => false
  | c :: rest => (Text.isLetter c || c == '_') && rest.all fun c => isWordChar c || c == '_'

/-- Checks the name of a variable, which scripts read under that name. -/
def checkVariableName (name : String) : Except Refusal Unit :=
  if isIdentifier name.toList then .ok () else .error (.badVariableName name)

def checkFlowName (name : String) : Except Refusal Unit :=
  if name.isEmpty then .error .emptyFlowName
  else if flowNameLimit < name.utf8ByteSize then .error .longFlowName
  else .ok ()

end Naming

end ActionGraph
