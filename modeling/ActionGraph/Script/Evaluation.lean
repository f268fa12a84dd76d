import ActionGraph.Script.Function
import ActionGraph.Script.Parser
import ActionGraph.Script.Simplification

/-!
# Running scripts

A program runs on a machine that holds the variables in view and counts operations: every statement
and every expression is one, and so is every call that is no operator on simple values. A program
that takes more operations than it may is stopped where it stands. The fuel of the evaluator bounds
the depth of its calls, which grows by at most one for each operation and each level of the program.
-/

namespace ActionGraph.Script

/-- The state of a running program. -/
structure Machine where
  /-- The variables in view, the last one first. -/
  bindings : List (String × Datum)
  operations : Nat
  limit : Nat

/-- Why the evaluation of an expression does not go on. -/
inductive Stop where
  | error (e : Error)
  /-- The innermost loop ends with a value. -/
  | leave (d : Datum)
  /-- The innermost loop goes on with its next round. -/
  | proceed
  /-- The program ends with a value. -/
  | finish (d : Datum)

/-- A part of a running program. What was done before a stop stays done. -/
abbrev Run := ExceptT Stop (StateM Machine)

namespace Run

def fail {α : Type} (fault : RunFault) (pos : Position) : Run α :=
  throw (.error (.running fault pos))

def count (pos : Position) : Run Unit := do
  modify fun m => { m with operations := m.operations + 1 }
  let m ← get
  if m.limit < m.operations then fail .tooManyOperations pos

/-- Runs a part and hands on how it ended. -/
def attempt {α : Type} (part : Run α) : Run (Except Stop α) :=
  fun m =>
    let (result, m) := part.run m
    (.ok result, m)

/-- Runs a part and then forgets the variables that it brought into view. -/
def locally {α : Type} (part : Run α) : Run α := fun m =>
  let (result, m') := part.run m
  (result, { m' with
    bindings := m'.bindings.drop (m'.bindings.length - m.bindings.length) })

def fetch (name : String) (pos : Position) : Run Datum := do
  match (← get).bindings.lookup name with
  | some d => return d
  | none => fail (.variableNotFound name) pos

def define (name : String) (d : Datum) : Run Unit :=
  modify fun m => { m with bindings := (name, d) :: m.bindings }

/-- The variables with a new value for the nearest one of this name. -/
def replaced (name : String) (d : Datum) : List (String × Datum) → List (String × Datum)
  | [] => []
  | (other, old) :: rest =>
    if other = name then (other, d) :: rest else (other, old) :: replaced name d rest

/-- Gives a variable in view a new value. -/
def assign (name : String) (d : Datum) : Run Unit :=
  modify fun m => { m with bindings := replaced name d m.bindings }

/-- The result of an attempt that is defined on its arguments, or else of another one. -/
def resultOr (attempt : Attempt) (pos : Position) (other : Run Datum) : Run Datum :=
  match attempt with
  | some (.ok d) => return d
  | some (.error fault) => fail fault pos
  | none => other

/-- The value of a function, which is an operation by itself; where none is defined, the types of
the arguments are named. -/
def apply (name : String) (arguments : List Datum) (pos : Position) : Run Datum := do
  count pos
  resultOr (function name arguments) pos
    (fail (.functionNotFound name (arguments.map Datum.argumentType)) pos)

/-- The value of an operator. An operator between simple values is part of the expression it stands
in. -/
def operate (op : String) (operands : List Datum) (pos : Position) : Run Datum :=
  match op, operands with
  | "!", [.bool b] => return .bool !b
  | op, [a, b] => resultOr (builtin op a b) pos (apply op [a, b] pos)
  | op, operands => apply op operands pos

/-- The value that an assignment with an operator makes of an old value, where there is a rule of
its own for it. A list takes up the items of another list, or any other value as one item. -/
def assigned? (op : String) (old d : Datum) : Attempt :=
  match op, old, d with
  | "+", .array items, .array more => some (.ok (.array (items ++ more)))
  | "+", .array items, d => some (.ok (.array (items ++ [d])))
  | _, .int _, .float _ | _, .char _, _ => none
  | op, old, d => builtin op old d

/-- The value that an assignment makes of an old value. Where there is no rule for the assignment,
the operator is tried by itself. -/
def renewed (op : Option String) (old d : Datum) (opPos : Position) : Run Datum :=
  match op with
  | none => return d
  | some op =>
    resultOr (assigned? op old d) opPos do
      count opPos
      match op, old with
      | "+", .string s => return .string (s ++ d.joined)
      | op, old => resultOr (builtin op old d) opPos (apply op [old, d] opPos)

def truth (d : Datum) (pos : Position) : Run Bool :=
  match d with
  | .bool b => return b
  | d => fail (.wrongType d.typeName "bool") pos

/-- The value of an attempt that fails at this place. -/
def lift {α : Type} (result : Except RunFault α) (pos : Position) : Run α :=
  match result with
  | .ok a => return a
  | .error fault => fail fault pos

/-! ### Steps into a value -/

/-- A step from a value to a part of it, with the values of its index or of its arguments. -/
inductive Step where
  | index (i : Datum) (pos mark : Position)
  | property (name : String) (pos : Position)
  | method (name : String) (arguments : List Datum) (pos : Position)

def propertyOf (d : Datum) (name : String) (pos : Position) : Run Datum := do
  count pos
  resultOr (property name d) pos (fail (.propertyNotFound name d.shortType) pos)

def elementOf (d i : Datum) (pos mark : Position) : Run Datum := do
  count mark
  match element? d i with
  | some result => lift result pos
  | none => fail (.notIndexable d.shortType i.shortType none) mark

/-- The part of a value that steps lead to. -/
def follow (d : Datum) : List Step → Run Datum
  | [] => return d
  | .index i pos mark :: rest => do follow (← elementOf d i pos mark) rest
  | .property name pos :: rest => do follow (← propertyOf d name pos) rest
  | .method name arguments pos :: rest => do follow (← apply name (d :: arguments) pos) rest

/-- A value whose part that steps lead to is given a new value. A part of a property can be given
one too, but the property stays as it is. -/
def replace (op : Option String) (new : Datum) (opPos : Position) (d : Datum) :
    List Step → Run Datum
  | [] => renewed op d new opPos
  | [.index i pos mark] => do
    count mark
    match element? d i with
    | some result =>
      let item ← renewed op (← lift result pos) new opPos
      lift (withElement d i item) opPos
    | none => fail (.notIndexable d.shortType i.shortType (some new.shortType)) mark
  | .index i pos mark :: rest => do
    let item ← replace op new opPos (← elementOf d i pos mark) rest
    match d with
    | .array _ => lift (withElement d i item) opPos
    | d => return d
  | [.property name pos] => do
    let value ← match op with
      | some op => renewed (some op) (← propertyOf d name pos) new opPos
      | none => pure new
    count pos
    fail (.propertyFixed name d.shortType value.shortType) pos
  | .property name pos :: rest => do
    let _ ← replace op new opPos (← propertyOf d name pos) rest
    count pos
    return d
  | .method name arguments pos :: rest => do
    let _ ← replace op new opPos (← apply name (d :: arguments) pos) rest
    return d

/-! ### Expressions and statements -/

mutual

def expression : (fuel : Nat) → Expr → Run Datum
  | 0, e => fail .tooManyOperations e.pos
  | fuel + 1, e => do
    count e.pos
    match e with
    | .constant d _ => return d
    | .variable name pos => fetch name pos
    | .array items _ => return .array (← expressions fuel items)
    | .operator _ _ _ | .call _ _ _ => invocation fuel e
    | .chain root first rest =>
      let steps ← steps fuel first rest
      match root with
      | .variable name pos =>
        count pos
        follow (← fetch name pos) steps
      | root => follow (← expression fuel root) steps
    | .both left right _ =>
      if ← truth (← expression fuel left) left.pos then
        return .bool (← truth (← expression fuel right) right.pos)
      else return .bool false
    | .either left right _ =>
      if ← truth (← expression fuel left) left.pos then return .bool true
      else return .bool (← truth (← expression fuel right) right.pos)
    | .orElse left right _ =>
      match ← expression fuel left with
      | .unit => expression fuel right
      | d => return d
    | .statements body _ => locally (statements fuel body)

/-- The value of a call or of an operator. The first argument of a call is evaluated last if it is a
variable. -/
def invocation : (fuel : Nat) → Expr → Run Datum
  | 0, e => fail .tooManyOperations e.pos
  | fuel + 1, e => do
    match e with
    | .operator op operands pos => operate op (← expressions fuel operands) pos
    | .call name (.variable first place :: others) pos =>
      let others ← expressions fuel others
      count place
      apply name ((← fetch first place) :: others) pos
    | .call name arguments pos => apply name (← expressions fuel arguments) pos
    | e => expression fuel e

def expressions : (fuel : Nat) → List Expr → Run (List Datum)
  | _, [] => return []
  | 0, e :: _ => fail .tooManyOperations e.pos
  | fuel + 1, e :: rest => do
    let d ← expression fuel e
    return d :: (← expressions fuel rest)

/-- The steps of a chain, from the first to the last. A chain of one step is no operation by itself
if there is nothing to evaluate in it. -/
def steps : (fuel : Nat) → Link → List Link → Run (List Step)
  | 0, first, _ => fail .tooManyOperations first.pos
  | fuel + 1, first, rest => do
    match first, rest with
    | .property name pos _, [] => return [.property name pos]
    | .method name [] pos _, [] => return [.method name [] pos]
    | .index e mark, [] =>
      match e.literal? with
      | some d => return [.index d e.start mark]
      | none =>
        count e.pos
        return [← step fuel first]
    | first, rest => stepList fuel first rest

/-- The steps of a chain, each of which is an operation. -/
def stepList : (fuel : Nat) → Link → List Link → Run (List Step)
  | 0, first, _ => fail .tooManyOperations first.pos
  | fuel + 1, first, rest => do
    match rest with
    | [] =>
      count first.pos
      return [← step fuel first]
    | second :: more =>
      count second.mark
      let s ← step fuel first
      return s :: (← stepList fuel second more)

def step : (fuel : Nat) → Link → Run Step
  | 0, l => fail .tooManyOperations l.pos
  | fuel + 1, l => do
    match l with
    | .index e mark => return .index (← expression fuel e) e.start mark
    | .property name pos _ => return .property name pos
    | .method name arguments pos _ => return .method name (← expressions fuel arguments) pos

def optional : (fuel : Nat) → Option Expr → Run Datum
  | _, none => return .unit
  | 0, some e => fail .tooManyOperations e.pos
  | fuel + 1, some e => expression fuel e

def statement : (fuel : Nat) → Stmt → Run Datum
  | 0, s => fail .tooManyOperations s.pos
  | fuel + 1, s => do
    count s.pos
    match s with
    | .nothing _ => return .unit
    | .evaluate e => expression fuel e
    | .perform e => invocation fuel e
    | .define name value _ _ =>
      define name (← expression fuel value)
      return .unit
    | .assign target op value opPos =>
      let d ← expression fuel value
      match target with
      | .variable name pos =>
        count pos
        assign name (← renewed op (← fetch name pos) d opPos)
      | .chain (.variable name pos) first rest =>
        let steps ← steps fuel first rest
        count pos
        assign name (← replace op d opPos (← fetch name pos) steps)
      | _ => pure ()
      return .unit
    | .block body _ => locally (statements fuel body)
    | .choice guard yes no _ _ _ =>
      if ← truth (← expression fuel guard) guard.pos then locally (statements fuel yes)
      else locally (statements fuel no)
    | .loop guard body _ bodyPos => rounds fuel guard body bodyPos
    | .each name source body _ bodyPos =>
      let d ← expression fuel source
      match walk? d with
      | some (places, item) => locally do
        define name .unit
        walk fuel name item 0 places body bodyPos
      | none => fail .notIterable source.start
    | .leave value _ => throw (.leave (← optional fuel value))
    | .proceed _ => throw .proceed
    | .finish value _ => throw (.finish (← optional fuel value))
    | .raise value pos =>
      let d ← optional fuel value
      fail (.thrown d.thrown) pos

/-- The value of the last of some statements. -/
def statements : (fuel : Nat) → List Stmt → Run Datum
  | _, [] => return .unit
  | 0, s :: _ => fail .tooManyOperations s.pos
  | fuel + 1, s :: rest => do
    let d ← statement fuel s
    match rest with
    | [] => return d
    | rest => statements fuel rest

/-- The rounds of a loop while its guard holds. -/
def rounds : (fuel : Nat) → Option Expr → List Stmt → Position → Run Datum
  | 0, _, _, bodyPos => fail .tooManyOperations bodyPos
  | fuel + 1, guard, body, bodyPos => do
    let goes ← match guard with
      | some guard => truth (← expression fuel guard) guard.pos
      | none => pure true
    if !goes then return .unit
    if body.isEmpty then
      if guard.isNone then count bodyPos
      rounds fuel guard body bodyPos
    else
      match ← attempt (locally (statements fuel body)) with
      | .ok _ => rounds fuel guard body bodyPos
      | .error .proceed => rounds fuel guard body bodyPos
      | .error (.leave d) => return d
      | .error other => throw other

/-- The rounds of a loop through values, from one place up to another. -/
def walk : (fuel : Nat) → String → (Nat → Datum) → (place places : Nat) → List Stmt →
    Position → Run Datum
  | 0, _, _, _, _, _, bodyPos => fail .tooManyOperations bodyPos
  | fuel + 1, name, item, place, places, body, bodyPos => do
    if places ≤ place then return .unit
    if body.isEmpty then
      count bodyPos
      walk fuel name item (place + 1) places body bodyPos
    else
      assign name (item place)
      match ← attempt (locally (statements fuel body)) with
      | .ok _ => walk fuel name item (place + 1) places body bodyPos
      | .error .proceed => walk fuel name item (place + 1) places body bodyPos
      | .error (.leave d) => return d
      | .error other => throw other

end

end Run

/-- The most operations of a program, unless it is given another limit. -/
def operationLimit : Nat := 100000

/-- The value of a text as a program, in view of some variables, with at most `limit` operations. -/
def evaluate (limit : Nat) (text : String) (bindings : List (String × Datum)) :
    Except Error Datum := do
  let body := simplified text.length (← program text)
  let fuel := limit + 8 * text.length + 16
  match ((Run.statements fuel body).run ⟨bindings.reverse, 0, limit⟩).1 with
  | .ok d => .ok d
  | .error (.finish d) => .ok d
  | .error (.leave d) => .ok d
  | .error .proceed => .ok .unit
  | .error (.error e) => .error e

end ActionGraph.Script
