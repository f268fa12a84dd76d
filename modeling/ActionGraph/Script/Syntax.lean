import ActionGraph.Script.Error

/-!
# Programs

A script is a list of statements. Expressions and statements are mutually nested, since a block, a
choice or a loop is also an expression. Every node carries the place that an error in it names. What
can be said of a program without running it stands here too: which expressions are literals, and
which parts of a program can be left out because they have no effect.
-/

namespace ActionGraph.Script

mutual

inductive Expr where
  | constant (value : Datum) (pos : Position)
  | variable (name : String) (pos : Position)
  | array (items : List Expr) (pos : Position)
  /-- An operator in front of its operand or between its operands. -/
  | operator (op : String) (operands : List Expr) (pos : Position)
  | call (name : String) (arguments : List Expr) (pos : Position)
  /-- A value, and what is taken from it step by step. -/
  | chain (root : Expr) (first : Link) (rest : List Link)
  | both (left right : Expr) (pos : Position)
  | either (left right : Expr) (pos : Position)
  /-- The value on the left, or the one on the right if that is nothing. -/
  | orElse (left right : Expr) (pos : Position)
  /-- Statements whose last value is the value of the expression. -/
  | statements (body : List Stmt) (pos : Position)

/-- A step from a value to a part of it; `mark` is the place of the bracket or of the point. -/
inductive Link where
  | index (e : Expr) (mark : Position)
  | property (name : String) (pos mark : Position)
  /-- A call of a function on the value in front. -/
  | method (name : String) (arguments : List Expr) (pos mark : Position)

inductive Stmt where
  | nothing (pos : Position)
  | evaluate (e : Expr)
  /-- A call or an operator by itself, which counts as one operation. -/
  | perform (e : Expr)
  | define (name : String) (value : Expr) (constant : Bool) (pos : Position)
  /-- An assignment, with the operator that joins the old value and the new one, if there is
  one. -/
  | assign (target : Expr) (op : Option String) (value : Expr) (opPos : Position)
  | block (body : List Stmt) (pos : Position)
  | choice (guard : Expr) (yes no : List Stmt) (pos yesPos noPos : Position)
  /-- A loop while the guard holds, or without end. -/
  | loop (guard : Option Expr) (body : List Stmt) (pos bodyPos : Position)
  | each (name : String) (source : Expr) (body : List Stmt) (pos bodyPos : Position)
  | leave (value : Option Expr) (pos : Position)
  | proceed (pos : Position)
  | finish (value : Option Expr) (pos : Position)
  | raise (value : Option Expr) (pos : Position)

end

instance : Inhabited Expr := ⟨.constant .unit ⟨1, 1⟩⟩

instance : Inhabited Stmt := ⟨.nothing ⟨1, 1⟩⟩

/-! ### Places -/

/-- The place of the bracket or of the point of a step. -/
def Link.mark : Link → Position
  | .index _ mark | .property _ _ mark | .method _ _ _ mark => mark

/-- The place that an error about the value of an expression names. -/
def Expr.pos : Expr → Position
  | .constant _ p | .variable _ p | .array _ p | .operator _ _ p | .call _ _ p | .both _ _ p
  | .either _ _ p | .orElse _ _ p | .statements _ p => p
  | .chain _ first _ => first.mark

/-- The place where an expression starts; an operator stands for its operands. -/
def Expr.start : Expr → Position
  | .both left _ _ | .either left _ _ | .orElse left _ _ => left.start
  | .chain root _ _ => root.start
  | e => e.pos

/-- The place of what a step takes: of an index, or of a name. -/
def Link.pos : Link → Position
  | .index e _ => e.pos
  | .property _ pos _ | .method _ _ pos _ => pos

/-- The place that an error about a statement names. -/
def Stmt.pos : Stmt → Position
  | .evaluate e => e.start
  | .perform e => e.pos
  | .nothing p | .define _ _ _ p | .assign _ _ _ p | .block _ p | .choice _ _ _ p _ _
  | .loop _ _ p _ | .each _ _ _ p _ | .leave _ p | .proceed p | .finish _ p | .raise _ p => p

def Expr.movedTo (p : Position) : Expr → Expr
  | .constant d _ => .constant d p
  | .variable name _ => .variable name p
  | .array items _ => .array items p
  | .operator op operands _ => .operator op operands p
  | .call name arguments _ => .call name arguments p
  | .both left right _ => .both left right p
  | .either left right _ => .either left right p
  | .orElse left right _ => .orElse left right p
  | .statements body _ => .statements body p
  | .chain root (.index e _) rest => .chain root (.index e p) rest
  | .chain root (.property name pos _) rest => .chain root (.property name pos p) rest
  | .chain root (.method name arguments pos _) rest =>
    .chain root (.method name arguments pos p) rest

/-! ### Literals -/

namespace Expr

mutual

/-- The value of a literal; a list of literals is one. -/
def literal? : Expr → Option Datum
  | .constant d _ => some d
  | .array items _ => (literals? items).map .array
  | _ => none

def literals? : List Expr → Option (List Datum)
  | [] => some []
  | e :: rest => do
    let d ← literal? e
    let ds ← literals? rest
    return d :: ds

end

def isLiteral (e : Expr) : Bool := e.literal?.isSome

def isBool (b : Bool) : Expr → Bool
  | .constant (.bool other) _ => other == b
  | _ => false

/-- The kind of a literal that is no truth value, in words. -/
def untruthKind? : Expr → Option String
  | .constant .unit _ => some "()"
  | .constant (.int _) _ => some "a number"
  | .constant (.float _) _ => some "a floating-point number"
  | .constant (.char _) _ => some "a character"
  | .constant (.string _) _ => some "a string"
  | .array _ _ => some "an array"
  | _ => none

/-- The kind of a literal that cannot be walked through, in words. -/
def unwalkableKind? : Expr → Option String
  | .constant .unit _ => some "()"
  | .constant (.bool _) _ => some "a boolean"
  | .constant (.int _) _ => some "a number"
  | .constant (.float _) _ => some "a floating-point number"
  | .constant (.char _) _ => some "a character"
  | _ => none

/-- Whether a literal has elements: a list, a text, or a whole number with its bits. -/
def hasElements : Expr → Bool
  | .constant (.int _) _ | .constant (.string _) _ | .array _ _ => true
  | _ => false

/-- Whether an expression can be seen to have no elements. -/
def lacksElements : Expr → Bool
  | .constant .unit _ | .constant (.bool _) _ | .constant (.float _) _ | .constant (.char _) _
  | .both _ _ _ | .either _ _ _ => true
  | _ => false

end Expr

/-! ### Effects -/

mutual

/-- Whether an expression has no effect. A variable that is missing does not count as one. -/
def Expr.isPure : Expr → Bool
  | .constant _ _ | .variable _ _ => true
  | .array items _ => pureItems items
  | .both left right _ | .either left right _ | .orElse left right _ =>
    left.isPure && right.isPure
  | .statements body _ => pureBody body
  | .operator _ _ _ | .call _ _ _ | .chain _ _ _ => false

/-- Whether no expression of a list has an effect. -/
def pureItems : List Expr → Bool
  | [] => true
  | e :: rest => e.isPure && pureItems rest

/-- Whether a statement has no effect. A loop that may not end has one, and so has a loop through a
value that may have no elements. -/
def Stmt.isPure : Stmt → Bool
  | .nothing _ => true
  | .evaluate e => e.isPure
  | .choice guard yes no _ _ _ => guard.isPure && pureBody yes && pureBody no
  | .loop (some (.constant (.bool false) _)) _ _ _ => true
  | .each _ source body _ _ => source.isLiteral && pureBody body
  | .block body _ => pureBody body
  | _ => false

/-- Whether no statement of a list has an effect. -/
def pureBody : List Stmt → Bool
  | [] => true
  | s :: rest => s.isPure && pureBody rest

end

mutual

/-- Whether a statement has no effect outside of the block it stands in: a definition has none. -/
def Stmt.isPureInside : Stmt → Bool
  | .define _ value _ _ => value.isPure
  | .evaluate (.statements body _) => pureInside body
  | s => s.isPure

/-- Whether no statement of a list has an effect outside of its block. -/
def pureInside : List Stmt → Bool
  | [] => true
  | s :: rest => s.isPureInside && pureInside rest

end

mutual

/-- Whether a statement can only stand in the block it was written in, as a definition can. -/
def Stmt.needsBlock : Stmt → Bool
  | .define _ _ _ _ => true
  | .evaluate (.statements body _) => allNeedBlock body
  | _ => false

/-- Whether all statements of a list can only stand in their block. -/
def allNeedBlock : List Stmt → Bool
  | [] => true
  | s :: rest => s.needsBlock && allNeedBlock rest

end

namespace Stmt

/-- Whether nothing behind a statement is reached. -/
def endsFlow : Stmt → Bool
  | .leave _ _ | .proceed _ | .finish _ _ | .raise _ _ => true
  | _ => false

/-- Whether a statement has a value of its own. -/
def hasValue : Stmt → Bool
  | .evaluate _ | .perform _ | .block _ _ | .choice _ _ _ _ _ _ => true
  | _ => false

/-- Whether a statement needs no semicolon behind it. -/
def endsItself : Stmt → Bool
  | .block _ _ | .choice _ _ _ _ _ _ | .loop _ _ _ _ | .each _ _ _ _ _ => true
  | _ => false

end Stmt

end ActionGraph.Script
