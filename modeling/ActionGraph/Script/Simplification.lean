import ActionGraph.Script.Element
import ActionGraph.Script.Operator
import ActionGraph.Script.Syntax

/-!
# Simplifying programs

Before a program runs it is made simpler: operators on literals are computed, names of constants are
replaced by their values, choices that are known are made, and statements without an effect are left
out. What is left out can neither fail nor count as an operation, so the simplification is part of
the meaning of a program. A block is simplified again and again until nothing changes.
-/

namespace ActionGraph.Script

/-- What is known while a program is simplified. -/
structure Knowledge where
  changed : Bool
  /-- The names defined so far, the last one first, with the values of those that are literal
  constants. -/
  names : List (String × Option Datum)

abbrev Simplifier := StateM Knowledge

/-- What becomes of the value of a block. -/
inductive BlockUse where
  /-- The block is the whole program. -/
  | program
  /-- The value of the block is used. -/
  | value
  /-- The value of the block is not used. -/
  | effect
  deriving DecidableEq

/-- Whether a statement can be left out of a block, if nothing behind it needs its definitions. -/
def BlockUse.isIdle (use : BlockUse) (s : Stmt) : Bool :=
  match use with
  | .program => s.isPure
  | .value | .effect => s.isPureInside

/-! ### Blocks -/

mutual

/-- The statements in place of a statement: those of a block that defines nothing. -/
def flatStmt : Stmt → List Stmt
  | .block body pos =>
    if body.any Stmt.needsBlock then [.block body pos] else flatBody body
  | s => [s]

/-- The statements with those of inner blocks that define nothing in their places. -/
def flatBody : List Stmt → List Stmt
  | [] => []
  | s :: rest => flatStmt s ++ flatBody rest

end

/-- Whether a statement is a block that defines nothing. -/
def Stmt.isFlat : Stmt → Bool
  | .block body _ => !body.any Stmt.needsBlock
  | _ => false

/-- The statements up to the first that ends the flow. -/
def reachable : List Stmt → List Stmt
  | [] => []
  | s :: rest => if s.endsFlow then [s] else s :: reachable rest

/-- Whether a statement is a literal or defines one. -/
def Stmt.isLiteral : Stmt → Bool
  | .define _ value _ _ => value.isLiteral
  | .evaluate e => e.isLiteral
  | _ => false

/-- How many statements stand in front of the last one that may need a definition. -/
def lastNeed (use : BlockUse) (body : List Stmt) : Nat :=
  body.length - 1 - (body.reverse.takeWhile fun s => use.isIdle s && s.isLiteral).length

/-- Whether the statement at a place of a block of this length is left out. -/
def leavesOut (use : BlockUse) (length need place : Nat) (s : Stmt) : Bool :=
  (use == .effect || place + 1 < length) && (s.isPure || (use.isIdle s && need ≤ place))

/-- The statements of a block without those that have no effect; a value that is used is kept. -/
def withoutIdle (use : BlockUse) (body : List Stmt) : List Stmt :=
  let need := lastNeed use body
  (body.zipIdx.filter fun (s, place) => !leavesOut use body.length need place s).map Prod.fst

/-- The end of a block whose value is used, made simpler by one step, in reverse. -/
def trimValue? (use : BlockUse) : List Stmt → Option (List Stmt)
  | [] => none
  | .finish value pos :: rest =>
    if use != .program then none
    else match value, rest with
      | none, [] => some []
      | none, s :: more => if s.hasValue then some (.nothing pos :: rest) else some (s :: more)
      | some e, rest => some (.evaluate e :: rest)
  | [s] => if !s.hasValue && use.isIdle s then some [] else none
  | last :: s :: more =>
    match last, s.hasValue with
    | .nothing _, true => none
    | last, true =>
      if !last.hasValue && use.isIdle last then some (.nothing last.pos :: s :: more) else none
    | last, false => if !last.hasValue && use.isIdle last then some (s :: more) else none

/-- The end of a block whose value is not used, made simpler by one step, in reverse. -/
def trimEffect? : List Stmt → Option (List Stmt)
  | [] => none
  | s :: rest => if s.isPureInside then some rest else none

/-- Takes steps as long as there is one. -/
def trimAll (step : List Stmt → Option (List Stmt)) : (fuel : Nat) → List Stmt → List Stmt
  | 0, body => body
  | fuel + 1, body =>
    match step body with
    | some shorter => trimAll step fuel shorter
    | none => body

/-- Whether a step can be taken at the end of a block. -/
def trimStep? (use : BlockUse) : List Stmt → Option (List Stmt) :=
  if use == .effect then trimEffect? else trimValue? use

/-- The block with its end made simpler. Each step makes it shorter or turns the last statement into
one that is no return. -/
def trimmed (use : BlockUse) (body : List Stmt) : List Stmt :=
  (trimAll (trimStep? use) (2 * body.length + 2) body.reverse).reverse

/-! ### Expressions -/

/-- The operators that an assignment can carry. -/
def assignable : List String := ["+", "-", "*", "/", "%", "**", "<<", ">>", "&", "|", "^"]

/-- The item of a list, the character of a text or the bit of a number that a literal index takes
from a literal; every item of a list has to be without effect. -/
def literalElement? : Expr → Expr → Option Expr
  | .array items pos, .constant (.int i) _ =>
    if pureItems items then
      ((place? i items.length).bind (items[·]?)).map (Expr.movedTo pos)
    else none
  | .constant (.string s) pos, .constant (.int i) _ =>
    ((place? i s.length).bind (s.toList[·]?)).map fun c => .constant (.char c) pos
  | .constant (.int n) pos, .constant (.int i) _ =>
    (place? i bitCount).map fun p => .constant (.bool (bit n p)) pos
  | _, _ => none

/-- The value of an operator between literals, if there is one. -/
def literalResult? (op : String) (a b : Expr) : Option Datum := do
  let x ← a.literal?
  let y ← b.literal?
  match builtin op x y with
  | some (.ok d) => some d
  | _ => none

namespace Simplifier

def note : Simplifier Unit := modify fun k => { k with changed := true }

/-- The result of a simplification that is one in any case. -/
def simpler {α : Type} (a : Simplifier α) : Simplifier α := do
  note
  a

/-- Keeps in mind what a name stands for. -/
def define (name : String) (value : Option Datum) : Simplifier Unit :=
  modify fun k => { k with names := (name, value) :: k.names }

mutual

def expression : (fuel : Nat) → Expr → Simplifier Expr
  | 0, e => return e
  | fuel + 1, e =>
    match e with
    | .constant _ _ => return e
    | .variable name pos => do
      match (← get).names.lookup name with
      | some (some d) => simpler (return .constant d pos)
      | _ => return e
    | .array items pos =>
      match e.literal? with
      | some d => simpler (return .constant d pos)
      | none => return .array (← expressions fuel items) pos
    | .operator op [a, b] pos =>
      match literalResult? op a b with
      | some d => simpler (return .constant d pos)
      | none => return .operator op (← expressions fuel [a, b]) pos
    | .operator "!" [.constant (.bool b) p] _ => simpler (return .constant (.bool !b) p)
    | .operator op operands pos => return .operator op (← expressions fuel operands) pos
    | .call name arguments pos => return .call name (← expressions fuel arguments) pos
    | .chain root first rest => do
      let taken? := match first, rest with
        | .index i _, [] => literalElement? root i
        | _, _ => none
      match taken? with
      | some taken => simpler (return taken)
      | none =>
        let root ← match root with
          | .variable _ _ => pure root
          | root => expression fuel root
        return .chain root (← link fuel first) (← links fuel rest)
    | .both left right pos =>
      if left.isBool true then simpler (expression fuel right)
      else if left.isBool false then simpler (return left)
      else if right.isBool true then simpler (expression fuel left)
      else return .both (← expression fuel left) (← expression fuel right) pos
    | .either left right pos =>
      if left.isBool false then simpler (expression fuel right)
      else if left.isBool true then simpler (return left)
      else if right.isBool false then simpler (expression fuel left)
      else return .either (← expression fuel left) (← expression fuel right) pos
    | .orElse left right pos =>
      match left.literal? with
      | some .unit => simpler (return right)
      | some _ => simpler (return left)
      | none => return .orElse (← expression fuel left) (← expression fuel right) pos
    | .statements body pos =>
      match body with
      | [] => simpler (return .constant .unit pos)
      | [.evaluate e] => simpler (expression fuel e)
      | body => do
        match ← block fuel .value body with
        | [.evaluate e] => simpler (return e)
        | body => return .statements body pos

def expressions : (fuel : Nat) → List Expr → Simplifier (List Expr)
  | 0, es => return es
  | _, [] => return []
  | fuel + 1, e :: rest => return (← expression fuel e) :: (← expressions fuel rest)

def link : (fuel : Nat) → Link → Simplifier Link
  | 0, l => return l
  | fuel + 1, l =>
    match l with
    | .index e mark => return .index (← expression fuel e) mark
    | .property _ _ _ => return l
    | .method name arguments pos mark =>
      return .method name (← expressions fuel arguments) pos mark

def links : (fuel : Nat) → List Link → Simplifier (List Link)
  | 0, ls => return ls
  | _, [] => return []
  | fuel + 1, l :: rest => return (← link fuel l) :: (← links fuel rest)

/-- A simpler expression, if there is one at all. -/
def optional : (fuel : Nat) → Option Expr → Simplifier (Option Expr)
  | 0, e => return e
  | _, none => return none
  | fuel + 1, some e => return some (← expression fuel e)

def statement : (fuel : Nat) → BlockUse → Stmt → Simplifier Stmt
  | 0, _, s => return s
  | fuel + 1, use, s => do
    let inner : BlockUse := if use == .effect then .effect else .value
    let branch (body : List Stmt) (pos : Position) : Simplifier Stmt := simpler do
      match ← block fuel inner body with
      | [] => return .nothing pos
      | body => return .block body pos
    match s with
    | .define name value constant pos =>
      let value ← expression fuel value
      define name (if constant then value.literal? else none)
      return .define name value constant pos
    | .assign target op value opPos =>
      let carried? := match target, op, value with
        | .variable name _, none, .operator op [.variable other _, operand] pos =>
          if name == other && assignable.contains op then some (op, operand, pos) else none
        | _, _, _ => none
      match carried? with
      | some (op, operand, pos) => simpler (return .assign target (some op) operand pos)
      | none =>
        let target ← match target with
          | .variable _ _ => pure target
          | target => expression fuel target
        return .assign target op (← expression fuel value) opPos
    | .choice guard [] [] _ _ _ =>
      note
      let pos := guard.start
      let guard ← expression fuel guard
      if use == .effect then return .evaluate guard
      else return .block [.evaluate guard, .nothing pos] pos
    | .choice guard yes no pos yesPos noPos =>
      if guard.isBool false then
        if no.isEmpty then simpler (return .nothing guard.pos) else branch no noPos
      else if guard.isBool true then branch yes yesPos
      else
        let guard ← expression fuel guard
        let yes ← block fuel inner yes
        return .choice guard yes (← block fuel inner no) pos yesPos noPos
    | .loop guard body pos bodyPos =>
      match guard with
      | none => return .loop none (← block fuel .effect body) pos bodyPos
      | some guard =>
        if guard.isBool false then simpler (return .nothing guard.pos)
        else
          let guard ← expression fuel guard
          let guard := if guard.isBool true then none else some guard
          return .loop guard (← block fuel .effect body) pos bodyPos
    | .each name source body pos bodyPos =>
      return .each name (← expression fuel source) (← block fuel .effect body) pos bodyPos
    | .block body pos =>
      match ← block fuel inner body with
      | [] => simpler (return .nothing pos)
      | [s] => if s.needsBlock then return .block [s] pos else simpler (return s)
      | body => return .block body pos
    | .evaluate (.statements body pos) => simpler do
      match body with
      | [] => return .nothing pos
      | body => return .block (← block fuel .value body) pos
    | .evaluate (.call name arguments pos) => simpler (return .perform (.call name arguments pos))
    | .evaluate (.operator op operands pos) => simpler (return .perform (.operator op operands pos))
    | .evaluate e => return .evaluate (← expression fuel e)
    | .perform e =>
      match ← expression fuel e with
      | .call name arguments pos => return .perform (.call name arguments pos)
      | .operator op operands pos => return .perform (.operator op operands pos)
      | e => return .evaluate e
    | .leave value pos => return .leave (← optional fuel value) pos
    | .finish value pos => return .finish (← optional fuel value) pos
    | .raise value pos => return .raise (← optional fuel value) pos
    | .nothing _ | .proceed _ => return s

/-- Simpler statements, each by itself. -/
def statements : (fuel : Nat) → BlockUse → List Stmt → Simplifier (List Stmt)
  | 0, _, body => return body
  | _, _, [] => return []
  | fuel + 1, use, s :: rest => return (← statement fuel use s) :: (← statements fuel use rest)

def block : (fuel : Nat) → BlockUse → List Stmt → Simplifier (List Stmt)
  | 0, _, body => return body
  | _, _, [] => return []
  | fuel + 1, use, body => do
    let before := (← get).changed
    let flat := body.any Stmt.isFlat
    let (body, changed) ← passes fuel use (flatBody body)
    modify fun k => { k with changed := before || flat || changed }
    return body

/-- Simplifies a block until nothing changes, and says whether something did. -/
def passes : (fuel : Nat) → BlockUse → List Stmt → Simplifier (List Stmt × Bool)
  | 0, _, body => return (body, false)
  | fuel + 1, use, body => do
    let names := (← get).names
    modify fun k => { k with changed := false }
    let reached := reachable body
    let kept ← statements fuel use reached
    let left := withoutIdle use kept
    let short := trimmed use left
    let cut := reached.length < body.length || left.length < kept.length ||
      (trimStep? use left.reverse).isSome
    let changed := (← get).changed || cut
    modify fun k => { k with names := names }
    if changed then
      let (body, _) ← passes fuel use short
      return (body, true)
    else return (short, false)

end

end Simplifier

/-- The program made simpler; `size` bounds how often a part of it can be made simpler, and how
deeply its parts are nested. -/
def simplified (size : Nat) (body : List Stmt) : List Stmt :=
  ((Simplifier.block ((size + 4) * (size + 16)) .program body).run ⟨false, []⟩).1

end ActionGraph.Script
