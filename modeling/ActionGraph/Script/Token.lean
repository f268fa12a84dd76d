import ActionGraph.Script.Error
import ActionGraph.Text.Blank

/-!
# The tokens of scripts

The text of a script is cut into tokens from left to right, each with the place where it starts.
Text that is no token becomes a token of its own that carries the fault, so that the fault counts
only when the parser comes to it; inside a text its place is the character that is wrong. A minus in
front of a digit belongs to the number where an operand may start.
-/

namespace ActionGraph.Script

inductive Token where
  | int (i : Int64)
  | float (x : Float)
  | char (c : Char)
  | string (s : String)
  | name (s : String)
  /-- A word with a meaning of its own. -/
  | keyword (s : String)
  | symbol (s : String)
  /-- A word or a mark without a meaning that may not be used. -/
  | reserved (s : String)
  | bad (fault : SyntaxFault)
  | eof

/-- A token and the place where it starts. -/
abbrev Placed := Token × Position

/-- The words with a meaning of their own. -/
def keywords : List String :=
  ["true", "false", "let", "const", "if", "else", "switch", "do", "while", "until", "loop", "for",
    "in", "continue", "break", "return", "throw", "try", "catch", "fn", "private", "import",
    "export", "as"]

def reservedWords : List String :=
  ["var", "static", "shared", "goto", "match", "case", "public", "protected", "new", "use", "with",
    "is", "module", "package", "super", "thread", "spawn", "go", "sync", "async", "await",
    "yield", "default", "void", "null", "nil", "print", "debug", "type_of", "eval", "Fn", "call",
    "curry", "is_shared", "is_def_fn", "is_def_var", "this"]

/-- The marks, longer ones before their beginnings. -/
def marks : List String :=
  ["**=", "..=", "<<=", ">>=", "**", "..", "<<", ">>", "==", "!=", "<=", ">=", "=>", "&&", "||",
    "+=", "-=", "*=", "/=", "%=", "|=", "&=", "^=", "::", "??", "?.", "?[", "#\x7b", "()", "+", "-",
    "*", "/", "%", "<", ">", "=", "!", "|", "&", "^", "(", ")", "[", "]", "\x7b", "\x7d", ";", ",",
    ".", ":"]

/-- The marks that may not be used, longer ones before their beginnings. -/
def reservedMarks : List String :=
  ["===", "!==", "::<", "...", "++", "--", "->", "<-", "<|", ":=", ":;", "(*", "*)", "#!", "!.",
    "|>", "#", "~", "@", "$", "?"]

def startsName (c : Char) : Bool := c.isAlpha || c == '_'

def continuesName (c : Char) : Bool := c.isAlphanum || c == '_'

/-- Whether a word is a proper name: its first character that is no underscore is a letter. -/
def isProperName (word : List Char) : Bool :=
  match word.dropWhile (· == '_') with
  | [] => false
  | c :: _ => c.isAlpha

/-! ### Blanks and comments -/

def Position.next (p : Position) (c : Char) : Position :=
  if c = '\n' then ⟨p.line + 1, 1⟩ else ⟨p.line, p.column + 1⟩

def Position.after (p : Position) (cs : List Char) : Position := cs.foldl Position.next p

/-- The text behind a line comment, and its place. A carriage return ends the line too. -/
def skipLine (p : Position) : List Char → Position × List Char
  | [] => (p, [])
  | '\r' :: '\n' :: rest => (⟨p.line + 1, 1⟩, rest)
  | c :: rest =>
    if c == '\r' || c == '\n' then (⟨p.line + 1, 1⟩, rest) else skipLine (p.next c) rest

/-- The text behind a comment between marks, which may nest, and its place. -/
def skipComment : (depth : Nat) → Position → List Char → Position × List Char
  | _, p, [] => (p, [])
  | depth, p, '*' :: '/' :: rest =>
    let p := ⟨p.line, p.column + 2⟩
    if depth ≤ 1 then (p, rest) else skipComment (depth - 1) p rest
  | depth, p, '/' :: '*' :: rest => skipComment (depth + 1) ⟨p.line, p.column + 2⟩ rest
  | depth, p, c :: rest => skipComment depth (p.next c) rest

/-- The text behind white space and comments, and its place. -/
def skipBlank : (fuel : Nat) → Position → List Char → Position × List Char
  | 0, p, cs => (p, cs)
  | fuel + 1, p, cs =>
    match cs with
    | '/' :: '/' :: rest =>
      let (p, rest) := skipLine ⟨p.line, p.column + 2⟩ rest
      skipBlank fuel p rest
    | '/' :: '*' :: rest =>
      let (p, rest) := skipComment 1 ⟨p.line, p.column + 2⟩ rest
      skipBlank fuel p rest
    | c :: rest => if Text.isBlank c then skipBlank fuel (p.next c) rest else (p, cs)
    | [] => (p, [])

/-! ### Numbers -/

/-- The value of a digit in any base up to sixteen. -/
def digitOf (c : Char) : Nat :=
  if c.isDigit then c.toNat - '0'.toNat
  else if 'a' ≤ c then c.toNat - 'a'.toNat + 10
  else c.toNat - 'A'.toNat + 10

def valueOf (base : Nat) (digits : List Char) : Nat :=
  digits.foldl (fun n c => base * n + digitOf c) 0

def isHexDigit (c : Char) : Bool :=
  c.isDigit || ('a' ≤ c && c ≤ 'f') || ('A' ≤ c && c ≤ 'F')

/-- The base that a letter behind a zero stands for, and the characters taken for its digits. -/
def baseOf? (c : Char) : Option (Nat × (Char → Bool)) :=
  if c == 'x' || c == 'X' then some (16, isHexDigit)
  else if c == 'o' || c == 'O' then some (8, Char.isDigit)
  else if c == 'b' || c == 'B' then some (2, Char.isDigit)
  else none

/-- The number `digits * 10 ^ exponent`, correctly rounded. -/
def decimalFloat (digits : Nat) (exponent : Int) : Float :=
  if 0 ≤ exponent then Float.ofScientific digits false (min exponent.toNat 5000)
  else Float.ofScientific digits true (min (-exponent).toNat 5000)

/-- The text of a number at the start, separators left out, and what stands behind it; `valid` says
which characters are its digits. A point belongs to the number when a digit follows, or a character
that cannot start the name of a property, before which a zero is added; an exponent belongs to it
when a digit or a sign follows. Nothing is said here of how often they stand in a number. -/
def takeNumeral (valid : Char → Bool) : List Char → List Char × List Char
  | [] => ([], [])
  | c :: rest =>
    if c == '_' then takeNumeral valid rest
    else if valid c then (takeNumeral valid rest).map (c :: ·) id
    else match rest with
      | [] => ([], [c])
      | d :: more =>
        let stop := ([], c :: d :: more)
        if c == '.' then
          if d.isDigit then (takeNumeral valid (d :: more)).map (c :: ·) id
          else if d == '_' || d == '.' || d.isAlpha then stop
          else (takeNumeral valid (d :: more)).map (c :: '0' :: ·) id
        else if c == 'e' then
          if d.isDigit then (takeNumeral valid (d :: more)).map (c :: ·) id
          else if d == '+' || d == '-' then (takeNumeral valid more).map (c :: d :: ·) id
          else stop
        else stop

/-- A whole number of 64 bits, or the nearest number that is none. -/
def wholeToken (negative : Bool) (n : Nat) : Token :=
  let i : Int := if negative then -n else n
  if Int64.minValue.toInt ≤ i && i ≤ Int64.maxValue.toInt then .int (Int64.ofInt i)
  else .float (if negative then -decimalFloat n 0 else decimalFloat n 0)

/-- The digits behind a point at the start, if there is one, and what stands behind them. -/
def splitFraction : List Char → Option (List Char) × List Char
  | '.' :: rest => (some (rest.takeWhile Char.isDigit), rest.dropWhile Char.isDigit)
  | rest => (none, rest)

/-- The exponent that the end of the text of a number is, if there is one, or nothing if the end is
no exponent. -/
def exponent? (text : List Char) : Option (Option Int) :=
  let read (digits : List Char) : Option Nat :=
    if !digits.isEmpty && digits.all Char.isDigit then some (valueOf 10 digits) else none
  match text with
  | [] => some none
  | 'e' :: '-' :: digits => (read digits).map fun n => some (-(n : Int))
  | 'e' :: '+' :: digits => (read digits).map fun n => some (n : Int)
  | 'e' :: digits => (read digits).map fun n => some (n : Int)
  | _ => none

/-- The number that a text in base ten is. -/
def decimalToken (negative : Bool) (text : List Char) : Token :=
  let whole := text.takeWhile Char.isDigit
  let (fraction, rest) := splitFraction (text.dropWhile Char.isDigit)
  match fraction, exponent? rest with
  | none, some none => wholeToken negative (valueOf 10 whole)
  | fraction, some exponent =>
    let places := fraction.getD []
    let x := decimalFloat (valueOf 10 (whole ++ places)) (exponent.getD 0 - places.length)
    .float (if negative then -x else x)
  | _, none => .bad (.badNumber (String.ofList ((if negative then ['-'] else []) ++ text)))

/-- The number that a text in another base is, behind the zero and the letter of its base. A sign is
refused together with the letter. -/
def basedToken (negative : Bool) (letter : Char) (base : Nat) (text : List Char) : Token :=
  let n := valueOf base text
  let isDigit (c : Char) : Bool := isHexDigit c && digitOf c < base
  if negative then .bad (.badNumber (String.ofList (letter :: text)))
  else if text.isEmpty || !text.all isDigit || UInt64.size ≤ n then
    .bad (.badNumber (String.ofList text))
  else .int (Int64.ofNat n)

/-- A number at the start of the text. -/
def scanNumber (negative : Bool) (cs : List Char) : Token × List Char :=
  let plain : Token × List Char :=
    let (text, rest) := takeNumeral Char.isDigit cs
    (decimalToken negative text, rest)
  match cs with
  | '0' :: rest =>
    match rest.dropWhile (· == '_') with
    | c :: more =>
      match baseOf? c with
      | some (base, valid) =>
        let (text, rest) := takeNumeral valid more
        (basedToken negative c base text, rest)
      | none => plain
    | [] => plain
  | _ => plain

/-! ### Texts -/

/-- A fault in a text, and how many characters there are from the wrong one to the end. -/
abbrev TextFault := SyntaxFault × Nat

/-- The character of a code in `count` hexadecimal digits, and the text behind them; `before` is
what was read of the escape so far, in reverse. -/
def takeCode : (count : Nat) → (before : List Char) → (value : Nat) → List Char →
    Except TextFault (Char × List Char)
  | 0, before, value, rest =>
    if value.isValidChar then .ok (Char.ofNat value, rest)
    else .error (.badEscape (String.ofList before.reverse), rest.length + 1)
  | _ + 1, before, _, [] => .error (.badEscape (String.ofList before.reverse), 1)
  | count + 1, before, value, c :: rest =>
    if isHexDigit c then takeCode count (c :: before) (16 * value + digitOf c) rest
    else .error (.badEscape (String.ofList (c :: before).reverse), rest.length + 1)

/-- The character that an escape stands for, behind its backslash, and the text behind it. -/
def scanEscape (quote : Char) (cs : List Char) : Except TextFault (Char × List Char) :=
  match cs with
  | [] => .error (.openString, 0)
  | 't' :: rest => .ok ('\t', rest)
  | 'r' :: rest => .ok ('\r', rest)
  | 'n' :: rest => .ok ('\n', rest)
  | '\\' :: rest => .ok ('\\', rest)
  | 'x' :: rest => takeCode 2 ['x', '\\'] 0 rest
  | 'u' :: rest => takeCode 4 ['u', '\\'] 0 rest
  | 'U' :: rest => takeCode 8 ['U', '\\'] 0 rest
  | c :: rest =>
    if c == quote then .ok (c, rest)
    else .error (.badEscape (String.ofList ['\\', c]), rest.length + 1)

/-- The text up to the closing quote, which is written twice inside, and the text behind it;
`before` is what was read so far, in reverse. A backslash in front of the end of a line goes on with
the text on the next line, where up to `column` blanks are left out; `blanks` of them may still
come. A line feed takes the place of the pair of a carriage return and a line feed. -/
def scanQuoted (quote : Char) (length column : Nat) : (fuel : Nat) → (escaped : Bool) →
    (blanks : Nat) → (before : List Char) → List Char →
    Except TextFault (List Char × List Char)
  | 0, _, _, _, _ => .error (.openString, length)
  | fuel + 1, escaped, blanks, before, cs =>
    let unclosed : Except TextFault (List Char × List Char) := .error (.openString, length)
    match cs with
    | [] => if escaped && quote == '"' then .ok (before.reverse, []) else unclosed
    | '\r' :: '\n' :: rest =>
      scanQuoted quote length column fuel escaped (blanks - 1) before ('\n' :: rest)
    | '\n' :: rest =>
      if escaped && quote == '"' then scanQuoted quote length column fuel false column before rest
      else unclosed
    | c :: rest =>
      if escaped then
        match scanEscape quote cs with
        | .ok (d, rest) =>
          let blanks := blanks - (cs.length - rest.length)
          scanQuoted quote length column fuel false blanks (d :: before) rest
        | .error fault => .error fault
      else if c == '\\' then scanQuoted quote length column fuel true (blanks - 1) before rest
      else if c == quote then
        match rest with
        | d :: more =>
          if d == quote then scanQuoted quote length column fuel false 0 (quote :: before) more
          else .ok (before.reverse, rest)
        | [] => .ok (before.reverse, [])
      else if Text.isBlank c && 0 < blanks then
        scanQuoted quote length column fuel false (blanks - 1) before rest
      else scanQuoted quote length column fuel false 0 (c :: before) rest

/-- A text or a character at the start of the text, with its opening quote, at this place. -/
def scanText (quote : Char) (p : Position) (cs : List Char) : Token × Position × List Char :=
  match quote, cs.drop 1 with
  | '\'', '\'' :: rest => (.bad (.badChar ""), p, rest)
  | quote, content =>
    match scanQuoted quote cs.length p.column (2 * cs.length + 1) false 0 [] content with
    | .error (fault, remaining) => (.bad fault, p.after (cs.take (cs.length - remaining)), [])
    | .ok (content, rest) =>
      if quote == '"' then (.string (String.ofList content), p, rest)
      else match content with
        | [c] => (.char c, p, rest)
        | _ => (.bad (.badChar (String.ofList content)), p, rest)

/-! ### Tokens -/

/-- A word at the start of the text. A single underscore is a mark. -/
def scanWord (cs : List Char) : Token × List Char :=
  let word := cs.takeWhile continuesName
  let s := String.ofList word
  let token :=
    if keywords.contains s then Token.keyword s
    else if reservedWords.contains s then .reserved s
    else if s == "_" then .symbol s
    else if isProperName word then .name s
    else .bad (.badName s)
  (token, cs.dropWhile continuesName)

/-- The first of the marks that starts the text. -/
def startingMark? (marks : List String) (cs : List Char) : Option String :=
  marks.find? fun mark => mark.toList.isPrefixOf cs

/-- A mark at the start of the text: the longer of a usable and a reserved one. The word `in` behind
an exclamation mark belongs to it. -/
def scanMark (cs : List Char) : Token × List Char :=
  let plain :=
    match startingMark? marks cs, startingMark? reservedMarks cs with
    | some mark, some other =>
      if mark.length < other.length then (.reserved other, cs.drop other.length)
      else (.symbol mark, cs.drop mark.length)
    | some mark, none => (.symbol mark, cs.drop mark.length)
    | none, some other => (.reserved other, cs.drop other.length)
    | none, none => (Token.bad (.unexpected (String.ofList (cs.take 1))), cs.drop 1)
  match cs with
  | '!' :: 'i' :: 'n' :: rest =>
    if (rest.head?.map continuesName).getD false then plain else (.symbol "!in", rest)
  | _ => plain

/-- The token at the start of a text without leading blanks, its place, and the text behind it. -/
def scanToken (signed : Bool) (p : Position) (cs : List Char) : Token × Position × List Char :=
  let here (token : Token × List Char) : Token × Position × List Char := (token.1, p, token.2)
  match cs with
  | [] => (.eof, p, [])
  | '-' :: c :: rest =>
    here (if c.isDigit && signed then scanNumber true (c :: rest) else scanMark cs)
  | c :: _ =>
    if c == '"' || c == '\'' then scanText c p cs
    else if c.isDigit then here (scanNumber false cs)
    else if startsName c then here (scanWord cs)
    else here (scanMark cs)

/-- The marks behind which no operand starts. -/
def closingMarks : List String :=
  [")", "]", "\x7d", ".", "?.", "()", "::", "=>", "#\x7b"]

/-- The words behind which a minus in front of a digit is a sign. -/
def signedKeywords : List String := ["if", "while", "until", "in", "return", "throw"]

/-- Whether a minus in front of a digit is a sign when it follows this token. -/
def Token.precedesSign : Token → Bool
  | .symbol s => !closingMarks.contains s
  | .keyword s => signedKeywords.contains s
  | .bad _ => true
  | _ => false

/-- All tokens of a text that starts at this place; they end with the first that is none. -/
def scanTokens : (fuel : Nat) → Position → (signed : Bool) → List Char → List Placed
  | 0, p, _, _ => [(.eof, p)]
  | fuel + 1, p, signed, cs =>
    match skipBlank (cs.length + 1) p cs with
    | (p, []) => [(.eof, p)]
    | (p, start) =>
      match scanToken signed p start with
      | (.bad fault, place, _) => [(.bad fault, place)]
      | (token, place, rest) =>
        (token, place) ::
          scanTokens fuel (p.after (start.take (start.length - rest.length))) token.precedesSign
            rest

def tokens (text : String) : List Placed :=
  scanTokens (text.length + 1) ⟨1, 1⟩ true text.toList

end ActionGraph.Script
