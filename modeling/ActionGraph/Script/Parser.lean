import ActionGraph.Script.Syntax
import ActionGraph.Script.Token

/-!
# Parsing scripts

The parser reads the tokens of a script from left to right and stops at the first fault. Operators
bind by their `precedence`; a power binds to the right, all others to the left. The parser keeps the
names that are in view, since an assignment to a constant is no program, and counts the constructs
that are open around a place, since a program that is nested too deeply is refused.

Every function takes fuel and hands on less than it got; `program` starts with more than any script
of that length can use up.
-/

namespace ActionGraph.Script

/-- What the parser works on. -/
structure Input where
  tokens : List Placed
  /-- The names in view, the last one first, and whether each is a constant. -/
  names : List (String × Bool)

abbrev Parser := StateT Input (Except Error)

/-- Where in a program the parser stands. -/
structure Place where
  /-- How many constructs are open around the place. -/
  depth : Nat
  /-- The place in the text that is named if one more is too many. -/
  pos : Position
  inLoop : Bool
  inBlock : Bool

/-- How many constructs may be open around a place. -/
def greatestDepth : Nat := 64

namespace Parser

def fail {α : Type} (fault : SyntaxFault) (pos : Position) : Parser α :=
  throw (.syntactic fault pos)

/-- The place inside one more construct. -/
def deeper (c : Place) : Parser Place :=
  if greatestDepth ≤ c.depth then fail .tooDeep c.pos else return { c with depth := c.depth + 1 }

/-- The next token, which stays. -/
def peek : Parser Placed := fun input =>
  match input.tokens with
  | token :: _ => .ok (token, input)
  | [] => .ok ((.eof, ⟨1, 1⟩), input)

/-- The next token, which is used up. -/
def next : Parser Placed := fun input =>
  match input.tokens with
  | [token] => .ok (token, input)
  | token :: rest => .ok (token, { input with tokens := rest })
  | [] => .ok ((.eof, ⟨1, 1⟩), input)

/-- Uses up the next token if it is this mark. -/
def mark? (s : String) : Parser Bool := do
  match ← peek with
  | (.symbol other, _) =>
    if other == s then
      let _ ← next
      return true
    else return false
  | _ => return false

/-- Uses up the next token if it is this word. -/
def keyword? (s : String) : Parser Bool := do
  match ← peek with
  | (.keyword other, _) =>
    if other == s then
      let _ ← next
      return true
    else return false
  | _ => return false

/-- Refuses the next token where another one is needed; what is no token is refused as such. -/
def missing {α : Type} (token purpose : String) : Parser α := do
  match ← peek with
  | (.bad fault, pos) => fail fault pos
  | (_, pos) => fail (.missing token purpose) pos

/-- Uses up this mark, which is needed for a purpose. -/
def need (s purpose : String) : Parser Position := do
  let (_, pos) ← peek
  if ← mark? s then return pos else missing s purpose

def declare (name : String) (constant : Bool) : Parser Unit :=
  modify fun input => { input with names := (name, constant) :: input.names }

/-- Runs a parser and then forgets the names that it brought into view. -/
def locally {α : Type} (p : Parser α) : Parser α := do
  let names := (← get).names
  let a ← p
  modify fun input => { input with names := names }
  return a

def variableName : Parser (String × Position) := do
  match ← next with
  | (.name s, pos) => return (s, pos)
  | (.reserved s, pos) =>
    if isNameLike s then fail (.reserved s) pos else fail .variableExpected pos
  | (.bad fault, pos) => fail fault pos
  | (_, pos) => fail .variableExpected pos

/-- How strongly a token binds as an operator; zero if it is none. -/
def precedence : Token → Nat
  | .symbol s =>
    if s == "||" || s == "|" || s == "^" then 30
    else if s == "&&" || s == "&" then 60
    else if s == "==" || s == "!=" then 90
    else if s == "!in" then 110
    else if s == "<" || s == "<=" || s == ">" || s == ">=" then 130
    else if s == "??" then 135
    else if s == ".." || s == "..=" then 140
    else if s == "+" || s == "-" then 150
    else if s == "*" || s == "/" || s == "%" then 180
    else if s == "**" then 190
    else if s == "<<" || s == ">>" then 210
    else 0
  | .keyword s => if s == "in" then 110 else 0
  | _ => 0

def bindsRight : Token → Bool
  | .symbol s => s == "**"
  | _ => false

def spelling : Token → String
  | .int i => toString i.toInt
  | .float x => Decimal.plain x
  | .char c => c.toString
  | .string _ => "string"
  | .name s | .keyword s | .symbol s | .reserved s => s
  | .bad _ => ""
  | .eof => "\x7bEOF\x7d"

/-- Refuses a mark without a meaning in the place of an operator. -/
def checkOperator (token : Placed) : Parser Unit :=
  match token with
  | (.reserved s, pos) => if isNameLike s then pure () else fail (.unknownOperator s) pos
  | _ => pure ()

/-- Refuses a literal that is no truth value. -/
def checkBool (e : Expr) : Parser Unit :=
  match e.untruthKind? with
  | some kind => fail (.mismatch "a boolean expression" kind) e.start
  | none => pure ()

/-- Refuses a literal that cannot be walked through. -/
def checkWalkable (e : Expr) : Parser Unit :=
  match e.unwalkableKind? with
  | some kind => fail (.mismatch "an iterable value" kind) e.start
  | none => pure ()

/-- The number that is needed and the kind that an expression is instead, if it can be seen to be no
index of a list, a text or a number. -/
def wrongIndex? : Expr → Option (String × String)
  | .constant (.string _) _ => some ("numeric", "a string")
  | .constant (.float _) _ => some ("integer", "a float")
  | .constant (.char _) _ => some ("integer", "a character")
  | .constant .unit _ => some ("integer", "()")
  | .constant (.bool _) _ | .both _ _ _ | .either _ _ _ => some ("integer", "a boolean")
  | _ => none

/-- Refuses an index that a literal cannot have. -/
def checkIndex (target index : Expr) : Parser Unit :=
  if target.hasElements then
    match wrongIndex? index with
    | some (expected, actual) => fail (.badIndex expected actual) index.start
    | none => pure ()
  else
    match target.lacksElements, index with
    | true, .constant (.int _) _ | true, .constant (.string _) _ => fail .notIndexed target.start
    | _, _ => pure ()

/-- An operator with its operands. -/
def combine (op : Token) (pos : Position) (left right : Expr) : Parser Expr := do
  match op with
  | .symbol "||" =>
    checkBool left
    checkBool right
    return .either left right pos
  | .symbol "&&" =>
    checkBool left
    checkBool right
    return .both left right pos
  | .symbol "??" => return .orElse left right pos
  | .symbol "!in" => return .operator "!" [.call "contains" [right, left] pos] pos
  | .keyword _ => return .call "contains" [right, left] pos
  | op => return .operator (spelling op) [left, right] pos

/-- The assignment operators, with the operator that each one carries. -/
def assignment? : Token → Option (Option String)
  | .symbol "=" => some none
  | .symbol s =>
    if ["+=", "-=", "*=", "/=", "%=", "**=", "<<=", ">>=", "&=", "|=", "^="].contains s then
      some (some (String.ofList s.toList.dropLast))
    else none
  | _ => none

/-- The place of the first call among steps. -/
def methodPos? : List Link → Option Position
  | [] => none
  | .method _ _ pos _ :: _ => some pos
  | _ :: rest => methodPos? rest

/-- Refuses a constant as the target of an assignment. -/
def checkVariable (name : String) (pos : Position) : Parser Unit := do
  match (← get).names.lookup name with
  | some true => fail (.assignedConstant name) pos
  | _ => pure ()

/-- Refuses what cannot be assigned to. -/
def checkTarget (target : Expr) (plain : Bool) (opPos : Position) : Parser Unit :=
  match target with
  | .variable name pos => checkVariable name pos
  | .chain root first rest =>
    match methodPos? (first :: rest), root with
    | some pos, _ => fail .assignedExpression pos
    | none, .variable name pos => checkVariable name pos
    | none, root => fail .assignedExpression root.pos
  | e =>
    if e.isLiteral then fail (.assignedConstant "") e.start
    else match e with
      | .both _ _ pos | .either _ _ pos =>
        if plain then fail .assignedGuard opPos else fail .assignedExpression pos
      | e => fail .assignedExpression e.pos

/-- Refuses a block where a guard is needed. -/
def checkGuard : Parser Unit := do
  match ← peek with
  | (.symbol "\x7b", pos) => fail (.expressionExpected "a boolean") pos
  | _ => pure ()

/-- Refuses an assignment behind a guard. -/
def checkNoAssignment : Parser Unit := do
  match ← peek with
  | (.symbol "=", pos) => fail .assignedGuard pos
  | _ => pure ()

/-- Whether an optional value is absent: the statement ends here, or its block if it stands in
one. -/
def endsHere (inBlock : Bool) : Parser Bool := do
  match ← peek with
  | (.eof, _) | (.symbol ";", _) => return true
  | (.symbol "\x7d", _) => return inBlock
  | _ => return false

/-- Minus in front of an operand; a literal is negated at once. -/
def negate (pos : Position) : Expr → Expr
  | .constant (.int i) _ =>
    if i = Int64.minValue then .constant (.float (-(Float.ofInt i.toInt))) pos
    else .constant (.int (-i)) pos
  | .constant (.float x) _ => .constant (.float (-x)) pos
  | e => .operator "-" [e] pos

/-- Plus in front of an operand; a literal stays. -/
def affirm (pos : Position) : Expr → Expr
  | .constant (.int i) p => .constant (.int i) p
  | .constant (.float x) p => .constant (.float x) p
  | e => .operator "+" [e] pos

/-- Whether the arguments of a call follow a name: nothing if not, and otherwise whether there is
nothing between the parentheses. -/
def opensCall? : Parser (Option Bool) := do
  if ← mark? "()" then return some true
  if ← mark? "(" then return some false
  if ← mark? "!" then
    if ← mark? "()" then return some true
    let (_, pos) ← peek
    if ← mark? "(" then return some false
    fail (.missing "(" "to start arguments list of function call") pos
  return none

/-- Refuses the end of the script, or what is no token, where a call needs to be closed. -/
def checkOpenCall (name : String) : Parser Unit := do
  match ← peek with
  | (.eof, pos) =>
    fail (.missing ")" ("to close the arguments list of this function call '" ++ name ++ "'")) pos
  | (.bad fault, pos) => fail fault pos
  | _ => pure ()

/-- Refuses the end of the script where a list needs to be closed. -/
def checkOpenArray : Parser Unit := do
  match ← peek with
  | (.eof, pos) => fail (.missing "]" "to end this array literal") pos
  | _ => pure ()

mutual

def expression : (fuel : Nat) → Place → Parser Expr
  | 0, _ => do fail .incomplete (← peek).2
  | fuel + 1, c => do
    let c ← deeper { c with pos := (← peek).2 }
    let left ← unary fuel c
    operators fuel { c with pos := left.pos } 1 left

/-- The operators behind an operand that bind more strongly than `least`, or as strongly to the
right. Each one counts as a construct around the next operand. -/
def operators : (fuel : Nat) → Place → (least : Nat) → Expr → Parser Expr
  | 0, _, _, _ => do fail .incomplete (← peek).2
  | fuel + 1, c, least, left => do
    let op ← peek
    checkOperator op
    let strength := precedence op.1
    let right := bindsRight op.1
    if strength < least || (strength == least && !right) || strength == 0 then return left
    let (op, pos) ← next
    let operand ← unary fuel c
    let following ← peek
    checkOperator following
    let after := precedence following.1
    let operand ←
      if strength < after || (strength == after && right) then
        operators fuel { c with pos := operand.pos } strength operand
      else pure operand
    let c ← deeper c
    operators fuel { c with pos := pos } least (← combine op pos left operand)

/-- An operand with the operators in front of it. -/
def unary : (fuel : Nat) → Place → Parser Expr
  | 0, _ => do fail .incomplete (← peek).2
  | fuel + 1, c => do
    let (token, pos) ← peek
    let c := { c with pos := pos }
    match token with
    | .symbol "-" =>
      let _ ← next
      return negate pos (← unary fuel (← deeper c))
    | .symbol "+" =>
      let _ ← next
      return affirm pos (← unary fuel (← deeper c))
    | .symbol "!" =>
      let _ ← next
      return .operator "!" [← unary fuel (← deeper c)] pos
    | _ =>
      let root ← primary fuel c
      match ← links fuel c (some root) with
      | [] => return root
      | first :: rest => return .chain root first rest

def primary : (fuel : Nat) → Place → Parser Expr
  | 0, _ => do fail .incomplete (← peek).2
  | fuel + 1, c => do
    let (token, pos) ← peek
    let literal (d : Datum) : Parser Expr := do
      let _ ← next
      return .constant d pos
    match token with
    | .eof => fail .incomplete pos
    | .bad fault => fail fault pos
    | .reserved s => fail (if s == "this" then .receiverOutsideFunction else .reserved s) pos
    | .int i => literal (.int i)
    | .float x => literal (.float x)
    | .char ch => literal (.char ch)
    | .string s => literal (.string s)
    | .keyword "true" => literal (.bool true)
    | .keyword "false" => literal (.bool false)
    | .symbol "()" => literal .unit
    | .keyword "if" => return .statements [← choice fuel (← deeper c)] pos
    | .keyword "while" | .keyword "loop" =>
      return .statements [← repetition fuel (← deeper c)] pos
    | .keyword "for" => return .statements [← walk fuel (← deeper c)] pos
    | .symbol "\x7b" => return .statements (← block fuel (← deeper c)).2 pos
    | .symbol "(" =>
      let _ ← next
      let e ← expression fuel (← deeper c)
      let _ ← need ")" "for a matching ( in this expression"
      return e
    | .symbol "[" =>
      let c ← deeper c
      let _ ← next
      return .array (← arrayItems fuel c) pos
    | .name s =>
      let _ ← next
      match ← opensCall? with
      | some true => return .call s [] pos
      | some false => return .call s (← arguments fuel c s) pos
      | none => return .variable s pos
    | token => fail (.unexpected (spelling token)) pos

/-- The steps behind an operand. What stands behind a point counts as nested in it. -/
def links : (fuel : Nat) → Place → (target : Option Expr) → Parser (List Link)
  | 0, _, _ => do fail .incomplete (← peek).2
  | fuel + 1, c, target => do
    match ← peek with
    | (.symbol "[", mark) =>
      let indices ← indices fuel { c with pos := mark } target
      return indices ++ (← links fuel c none)
    | (.symbol ".", mark) =>
      let _ ← next
      match ← peek with
      | (.name s, pos) =>
        let c ← deeper { c with pos := mark }
        let c := { c with pos := pos }
        let _ ← next
        let link ← match ← opensCall? with
          | some true => pure (.method s [] pos mark)
          | some false => pure (.method s (← arguments fuel c s) pos mark)
          | none => pure (.property s pos mark)
        return link :: (← links fuel c none)
      | (.reserved s, pos) => fail (.reserved s) pos
      | (_, pos) => fail .propertyExpected pos
    | _ => return []

/-- Indices in a row. Each one counts as nested in the one before. -/
def indices : (fuel : Nat) → Place → (target : Option Expr) → Parser (List Link)
  | 0, _, _ => do fail .incomplete (← peek).2
  | fuel + 1, c, target => do
    let (_, mark) ← next
    let c ← deeper c
    let e ← expression fuel (← deeper c)
    match target with
    | some target => checkIndex target e
    | none => pure ()
    let _ ← need "]" "for a matching [ in this index expression"
    match ← peek with
    | (.symbol "[", following) =>
      return .index e mark :: (← indices fuel { c with pos := following } none)
    | _ => return [.index e mark]

/-- The arguments of a call behind its opening parenthesis. -/
def arguments : (fuel : Nat) → Place → (name : String) → Parser (List Expr)
  | 0, _, _ => do fail .incomplete (← peek).2
  | fuel + 1, c, name => do
    checkOpenCall name
    if ← mark? ")" then return []
    argumentList fuel (← deeper c) name

/-- The arguments of a call up to its closing parenthesis. -/
def argumentList : (fuel : Nat) → Place → (name : String) → Parser (List Expr)
  | 0, _, _ => do fail .incomplete (← peek).2
  | fuel + 1, c, name => do
    if ← mark? ")" then return []
    let e ← expression fuel c
    if ← mark? ")" then return [e]
    checkOpenCall name
    let _ ← need "," ("to separate the arguments to function call '" ++ name ++ "'")
    return e :: (← argumentList fuel c name)

/-- The items of an array behind its opening bracket. -/
def arrayItems : (fuel : Nat) → Place → Parser (List Expr)
  | 0, _ => do fail .incomplete (← peek).2
  | fuel + 1, c => do
    if ← mark? "]" then return []
    checkOpenArray
    let e ← expression fuel (← deeper c)
    if ← mark? "]" then return [e]
    checkOpenArray
    let _ ← need "," "to separate the items of this array literal"
    return e :: (← arrayItems fuel c)

/-- A block with the place of its opening brace. -/
def block : (fuel : Nat) → Place → Parser (Position × List Stmt)
  | 0, _ => do fail .incomplete (← peek).2
  | fuel + 1, c => do
    let pos ← need "\x7b" "to start a statement block"
    let c ← deeper { c with pos := pos }
    return (pos, ← locally (blockBody fuel { c with inBlock := true }))

/-- The statements of a block up to its closing brace. -/
def blockBody : (fuel : Nat) → Place → Parser (List Stmt)
  | 0, _ => do fail .incomplete (← peek).2
  | fuel + 1, c => do
    if ← mark? "\x7d" then return []
    match ← peek with
    | (.eof, pos) => fail (.missing "\x7d" "to terminate this block") pos
    | _ => pure ()
    let s ← statement fuel c
    match s with
    | .nothing _ => blockBody fuel c
    | s =>
      match ← peek with
      | (.symbol "\x7d", _) => return s :: (← blockBody fuel c)
      | (.symbol ";", _) =>
        let _ ← next
        return s :: (← blockBody fuel c)
      | (.bad fault, pos) => fail fault pos
      | (_, pos) =>
        if s.endsItself then return s :: (← blockBody fuel c)
        else fail (.missing ";" "to terminate this statement") pos

def choice : (fuel : Nat) → Place → Parser Stmt
  | 0, _ => do fail .incomplete (← peek).2
  | fuel + 1, c => do
    let (_, pos) ← next
    let c := { c with pos := pos }
    checkGuard
    let guard ← expression fuel (← deeper c)
    checkBool guard
    checkNoAssignment
    let (yesPos, yes) ← block fuel (← deeper c)
    if ← keyword? "else" then
      let c ← deeper c
      match ← peek with
      | (.keyword "if", start) => return .choice guard yes [← choice fuel c] pos yesPos start
      | _ =>
        let (noPos, no) ← block fuel c
        return .choice guard yes no pos yesPos noPos
    else return .choice guard yes [] pos yesPos pos

/-- A loop while a guard holds, or without end. -/
def repetition : (fuel : Nat) → Place → Parser Stmt
  | 0, _ => do fail .incomplete (← peek).2
  | fuel + 1, c => do
    let (word, pos) ← next
    let c := { c with pos := pos }
    let guard ← match word with
      | .keyword "while" => do
        checkGuard
        let guard ← expression fuel (← deeper c)
        checkBool guard
        checkNoAssignment
        pure (some guard)
      | _ => pure none
    let (bodyPos, body) ← block fuel (← deeper { c with inLoop := true })
    return .loop guard body pos bodyPos

/-- A loop through the elements of a value. -/
def walk : (fuel : Nat) → Place → Parser Stmt
  | 0, _ => do fail .incomplete (← peek).2
  | fuel + 1, c => do
    let (_, pos) ← next
    let c := { c with pos := pos }
    let (name, _) ← variableName
    if !(← keyword? "in") then missing "in" "after the iteration variable"
    checkGuard
    let source ← expression fuel (← deeper c)
    checkWalkable source
    let (bodyPos, body) ← locally do
      declare name false
      block fuel (← deeper { c with inLoop := true })
    return .each name source body pos bodyPos

def statement : (fuel : Nat) → Place → Parser Stmt
  | 0, _ => do fail .incomplete (← peek).2
  | fuel + 1, c => do
    let (token, pos) ← peek
    let c := { c with pos := pos }
    let value : Parser (Option Expr) := do
      if ← endsHere c.inBlock then return none
      return some (← expression fuel (← deeper c))
    match token with
    | .eof => return .nothing pos
    | .symbol ";" =>
      let _ ← next
      return .nothing pos
    | .symbol "\x7b" =>
      let (pos, body) ← block fuel (← deeper c)
      return .block body pos
    | .keyword "if" => choice fuel (← deeper c)
    | .keyword "while" | .keyword "loop" => repetition fuel (← deeper c)
    | .keyword "for" => walk fuel (← deeper c)
    | .keyword "break" =>
      if !c.inLoop then fail .breakOutsideLoop pos
      let _ ← next
      return .leave (← value) pos
    | .keyword "continue" =>
      if !c.inLoop then fail .breakOutsideLoop pos
      let _ ← next
      return .proceed pos
    | .keyword "return" =>
      let _ ← next
      return .finish (← value) pos
    | .keyword "throw" =>
      let _ ← next
      return .raise (← value) pos
    | .keyword "let" => definition fuel (← deeper c) false
    | .keyword "const" => definition fuel (← deeper c) true
    | _ =>
      let c ← deeper c
      let e ← expression fuel c
      let (op, opPos) ← peek
      match assignment? op with
      | none => return .evaluate e
      | some carried =>
        let _ ← next
        let value ← expression fuel { c with pos := opPos }
        checkTarget e carried.isNone opPos
        return .assign e carried value opPos

def definition : (fuel : Nat) → Place → (constant : Bool) → Parser Stmt
  | 0, _, _ => do fail .incomplete (← peek).2
  | fuel + 1, c, constant => do
    let (_, pos) ← next
    let c := { c with pos := pos }
    let (name, _) ← variableName
    let value ←
      if ← mark? "=" then expression fuel (← deeper c) else pure (.constant .unit pos)
    declare name constant
    return .define name value constant pos

end

/-- The statements up to the end of the script. -/
def topLevel : (fuel : Nat) → Parser (List Stmt)
  | 0 => do fail .incomplete (← peek).2
  | fuel + 1 => do
    let (token, pos) ← peek
    match token with
    | .eof => return []
    | _ => pure ()
    let s ← statement fuel ⟨0, pos, false, false⟩
    match s with
    | .nothing _ => topLevel fuel
    | s =>
      match ← peek with
      | (.eof, _) => return [s]
      | (.symbol ";", _) =>
        let _ ← next
        return s :: (← topLevel fuel)
      | (.bad fault, pos) => fail fault pos
      | (_, pos) =>
        if s.endsItself then return s :: (← topLevel fuel)
        else fail (.missing ";" "to terminate this statement") pos

end Parser

/-- The program that a text describes. Between two tokens the parser calls itself at most eight
levels deep. -/
def program (text : String) : Except Error (List Stmt) :=
  let tokens := tokens text
  (Parser.topLevel (8 * tokens.length + 16)).run' ⟨tokens, []⟩

end ActionGraph.Script
