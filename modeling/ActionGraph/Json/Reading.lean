import ActionGraph.Json
import ActionGraph.Json.SyntaxError

/-!
# Reading JSON text

The text is read once, from left to right, into a `Reading`: a tree that ends at the first fault,
with the fault in the place where it stands. Whoever walks the tree in order therefore meets what
stands before a fault before the fault itself, and two readers that want different things of the
same text each report what they meet first.

Two kinds of fault do not end the reading, since one who passes over the value does not meet them:
a number out of range, and an escape for half a character. They are kept inside the number or the
string.

A number that is no whole number of 64 bits is the value of its first significant digits, as many
as fit a word of 64 bits, scaled by a power of ten in one multiplication or division.
-/

namespace ActionGraph.Json

/-- JSON text as far as it could be read. -/
inductive Reading where
  | null
  | bool (b : Bool)
  | number (n : Except SyntaxError Number)
  | string (s : Except SyntaxError String)
  /-- The items of an array, and the fault that ends it if it is not closed. -/
  | array (items : List Reading) (fault : Option SyntaxError)
  /-- The members of an object in order, and the fault that ends it if it is not closed. -/
  | object (members : List (Except SyntaxError String × Reading)) (fault : Option SyntaxError)
  /-- No value: a fault. -/
  | cut (fault : SyntaxError)

/-- A value together with the text behind it, which is missing when the text has a fault. -/
abbrev Scan (α : Type) := α × Option (List Char)

/-- The text without the white space in front of it. -/
def skipSpace (cs : List Char) : List Char :=
  cs.dropWhile fun c => c == ' ' || c == '\n' || c == '\t' || c == '\r'

/-! ### Numbers -/

def digitValue (c : Char) : Nat := c.toNat - '0'.toNat

def wordMax : Nat := UInt64.size - 1

/-- `10 ^ n` as a number of 64 bits, correctly rounded. -/
def powerOfTen (n : Nat) : Float := Float.ofScientific 1 false n

/-- Scales a number by `10 ^ exponent`, in steps of at most 308. -/
def scale (x : Float) (exponent : Int) : (fuel : Nat) → Except SyntaxError Float
  | 0 => .ok x
  | fuel + 1 =>
    if exponent.natAbs ≤ 308 then
      if 0 ≤ exponent then
        let y := x * powerOfTen exponent.natAbs
        if y.isInf then .error .numberOutOfRange else .ok y
      else .ok (x / powerOfTen exponent.natAbs)
    else if x == 0.0 then .ok x
    else if 0 ≤ exponent then .error .numberOutOfRange
    else scale (x / powerOfTen 308) (exponent + 308) fuel

/-- The number `significand * 10 ^ exponent` with a sign. After five steps of 308 every word has
become zero. -/
def scaled (negative : Bool) (significand : Nat) (exponent : Int) : Except SyntaxError Number :=
  (scale (Float.ofNat significand) exponent 6).map fun x => .real (if negative then -x else x)

/-- The whole number with a sign; a negative one below 64 bits, and minus zero, are not whole. -/
def whole (negative : Bool) (significand : Nat) : Number :=
  if !negative then .integer significand
  else if significand = 0 || 1 <<< 63 < significand then .real (-(Float.ofNat significand))
  else .integer (-significand)

/-- The largest exponent that is read exactly. -/
def exponentMax : Nat := 0x7FFFFFFF

def scanExponentDigits (negative : Bool) (significand : Nat) (start : Int) (minus : Bool)
    (digits : List Char) : Except SyntaxError Number :=
  let exponent := digits.foldl (fun n c => 10 * n + digitValue c) 0
  if exponentMax < exponent then
    if significand != 0 && !minus then .error .numberOutOfRange
    else .ok (.real (if negative then -0.0 else 0.0))
  else scaled negative significand (if minus then start - exponent else start + exponent)

/-- What follows the letter of an exponent. -/
def scanExponent (negative : Bool) (significand : Nat) (start : Int) (cs : List Char) :
    Scan Reading :=
  let (minus, cs) := match cs with
    | '+' :: rest => (false, rest)
    | '-' :: rest => (true, rest)
    | _ => (false, cs)
  match cs with
  | [] => (.cut .openNumber, none)
  | c :: _ =>
    if c.isDigit then
      (.number (scanExponentDigits negative significand start minus (cs.takeWhile Char.isDigit)),
        some (cs.dropWhile Char.isDigit))
    else (.cut .invalidNumber, none)

/-- Appends digits to a significand as long as it fits a word; the rest of the digits is left. -/
def appendDigits (significand : Nat) : List Char → Nat × List Char
  | [] => (significand, [])
  | c :: rest =>
    if 10 * significand + digitValue c ≤ wordMax then
      appendDigits (10 * significand + digitValue c) rest
    else (significand, c :: rest)

/-- What follows the point of a number. Digits that no longer fit the significand are dropped. -/
def scanFraction (negative : Bool) (significand : Nat) (start : Int) (cs : List Char) :
    Scan Reading :=
  let digits := cs.takeWhile Char.isDigit
  let rest := cs.dropWhile Char.isDigit
  let (significand, dropped) := appendDigits significand digits
  let exponent := start - (digits.length - dropped.length : Nat)
  match digits, rest with
  | [], [] => (.cut .openNumber, none)
  | [], _ => (.cut .invalidNumber, none)
  | _, 'e' :: rest | _, 'E' :: rest => scanExponent negative significand exponent rest
  | _, rest => (.number (scaled negative significand exponent), some rest)

/-- A number behind its sign. -/
def scanNumber (negative : Bool) (cs : List Char) : Scan Reading :=
  let digits := cs.takeWhile Char.isDigit
  let rest := cs.dropWhile Char.isDigit
  match digits, cs with
  | [], [] => (.cut .openNumber, none)
  | [], _ => (.cut .invalidNumber, none)
  | '0' :: _ :: _, _ => (.cut .invalidNumber, none)
  | _, _ =>
    let (significand, dropped) := appendDigits 0 digits
    match rest with
    | '.' :: rest => scanFraction negative significand dropped.length rest
    | 'e' :: rest | 'E' :: rest => scanExponent negative significand dropped.length rest
    | rest =>
      if dropped.isEmpty then (.number (.ok (whole negative significand)), some rest)
      else (.number (scaled negative significand dropped.length), some rest)

/-! ### Strings -/

def hexValue? (c : Char) : Option Nat :=
  if c.isDigit then some (digitValue c)
  else if 'a' ≤ c && c ≤ 'f' then some (c.toNat - 'a'.toNat + 10)
  else if 'A' ≤ c && c ≤ 'F' then some (c.toNat - 'A'.toNat + 10)
  else none

/-- Four hexadecimal digits. Fewer than four bytes of text are an open string. -/
def scanHex (cs : List Char) : Except SyntaxError (Nat × List Char) :=
  match cs with
  | a :: b :: c :: d :: rest =>
    match hexValue? a, hexValue? b, hexValue? c, hexValue? d with
    | some a, some b, some c, some d => .ok (((a * 16 + b) * 16 + c) * 16 + d, rest)
    | _, _, _, _ => .error .invalidEscape
  | _ =>
    if (cs.map Char.utf8Size).foldl (· + ·) 0 < 4 then .error .openString
    else .error .invalidEscape

/-- What an escape by code units means: a character, or a fault that is kept in the string, with
the text behind it. -/
def scanUnits (cs : List Char) : Except SyntaxError (Except SyntaxError Char × List Char) := do
  let (first, rest) ← scanHex cs
  if first < 0xD800 || 0xDFFF < first then .ok (.ok (Char.ofNat first), rest)
  else if 0xDC00 ≤ first then .ok (.error .loneSurrogate, rest)
  else match rest with
    | [] => .error .openString
    | ['\\'] => .error .openString
    | '\\' :: 'u' :: more =>
      match scanHex more with
      | .error e => .error e
      | .ok (second, behind) =>
        if 0xDC00 ≤ second && second ≤ 0xDFFF then
          .ok (.ok (Char.ofNat ((first - 0xD800) * 1024 + (second - 0xDC00) + 0x10000)), behind)
        else .ok (.error .loneSurrogate, rest)
    | _ => .ok (.error .brokenSurrogatePair, rest)

/-- The character that a one-letter escape stands for. -/
def shortEscape? : Char → Option Char
  | '"' => some '"'
  | '\\' => some '\\'
  | '/' => some '/'
  | 'b' => some '\x08'
  | 'f' => some '\x0c'
  | 'n' => some '\n'
  | 'r' => some '\r'
  | 't' => some '\t'
  | _ => none

/-- A fault that ends a string, together with the one that was kept in it before. -/
def endString (before : Except SyntaxError (List Char)) (fault : SyntaxError) :
    Except SyntaxError (Except SyntaxError String × List Char) :=
  match before with
  | .ok _ => .error fault
  | .error half => .error (.brokenString half fault)

/-- The rest of a string whose characters so far, in reverse, are `before`. -/
def scanString : (fuel : Nat) → (before : Except SyntaxError (List Char)) → List Char →
    Except SyntaxError (Except SyntaxError String × List Char)
  | 0, before, _ => endString before .openString
  | _ + 1, before, [] => endString before .openString
  | fuel + 1, before, c :: rest =>
    if c = '"' then .ok (before.map fun cs => String.ofList cs.reverse, rest)
    else if c = '\\' then
      match rest with
      | [] => endString before .openString
      | 'u' :: rest =>
        match scanUnits rest with
        | .ok (unit, behind) =>
          scanString fuel (before.bind fun cs => unit.map (· :: cs)) behind
        | .error fault => endString before fault
      | e :: rest =>
        match shortEscape? e with
        | some c => scanString fuel (before.map (c :: ·)) rest
        | none => endString before .invalidEscape
    else if c.toNat < 32 then endString before .controlCharacter
    else scanString fuel (before.map (c :: ·)) rest

/-- A string behind its opening quote. -/
def scanText (cs : List Char) : Except SyntaxError (Except SyntaxError String × List Char) :=
  scanString (cs.length + 1) (.ok []) cs

/-! ### Values -/

/-- The rest of a literal. -/
def scanLiteral (value : Reading) : (expected cs : List Char) → Scan Reading
  | [], cs => (value, some cs)
  | _ :: _, [] => (.cut .openValue, none)
  | e :: expected, c :: cs =>
    if e = c then scanLiteral value expected cs else (.cut .expectedIdentifier, none)

mutual

/-- A value. The fuel is never used up when it exceeds the length of the text. -/
def scanValue : (fuel : Nat) → List Char → Scan Reading
  | 0, _ => (.cut .openValue, none)
  | fuel + 1, cs =>
    match skipSpace cs with
    | [] => (.cut .openValue, none)
    | 'n' :: rest => scanLiteral .null ['u', 'l', 'l'] rest
    | 't' :: rest => scanLiteral (.bool true) ['r', 'u', 'e'] rest
    | 'f' :: rest => scanLiteral (.bool false) ['a', 'l', 's', 'e'] rest
    | '"' :: rest =>
      match scanText rest with
      | .ok (s, rest) => (.string s, some rest)
      | .error e => (.cut e, none)
    | '[' :: rest =>
      let ((items, fault), rest) := scanItems fuel true rest
      (.array items fault, rest)
    | '\x7b' :: rest =>
      let ((members, fault), rest) := scanMembers fuel true rest
      (.object members fault, rest)
    | '-' :: rest => scanNumber true rest
    | c :: rest =>
      if c.isDigit then scanNumber false (c :: rest) else (.cut .expectedValue, none)

/-- The items of an array, the first of them or a later one. -/
def scanItems : (fuel : Nat) → (first : Bool) → List Char →
    Scan (List Reading × Option SyntaxError)
  | 0, _, _ => (([], some .openArray), none)
  | fuel + 1, first, cs =>
    match skipSpace cs with
    | [] => (([], some .openArray), none)
    | ']' :: rest => (([], none), some rest)
    | c :: rest =>
      if first then scanItem fuel (c :: rest)
      else if c = ',' then
        match skipSpace rest with
        | ']' :: _ => (([], some .trailingArrayComma), none)
        | rest => scanItem fuel rest
      else (([], some .expectedArrayEnd), none)

/-- One item and those behind it. -/
def scanItem : (fuel : Nat) → List Char → Scan (List Reading × Option SyntaxError)
  | 0, _ => (([], some .openArray), none)
  | fuel + 1, cs =>
    match scanValue fuel cs with
    | (item, none) => (([item], none), none)
    | (item, some rest) =>
      let ((items, fault), rest) := scanItems fuel false rest
      ((item :: items, fault), rest)

/-- The members of an object, the first of them or a later one. -/
def scanMembers : (fuel : Nat) → (first : Bool) → List Char →
    Scan (List (Except SyntaxError String × Reading) × Option SyntaxError)
  | 0, _, _ => (([], some .openObject), none)
  | fuel + 1, first, cs =>
    match skipSpace cs with
    | [] => (([], some .openObject), none)
    | '\x7d' :: rest => (([], none), some rest)
    | c :: rest =>
      if first then
        if c = '"' then scanMember fuel rest else (([], some .nameNotString), none)
      else if c = ',' then
        match skipSpace rest with
        | [] => (([], some .openMember), none)
        | '"' :: rest => scanMember fuel rest
        | '\x7d' :: _ => (([], some .trailingObjectComma), none)
        | _ => (([], some .nameNotString), none)
      else (([], some .expectedObjectEnd), none)

/-- One member, behind the opening quote of its name, and those behind it. -/
def scanMember : (fuel : Nat) → List Char →
    Scan (List (Except SyntaxError String × Reading) × Option SyntaxError)
  | 0, _ => (([], some .openObject), none)
  | fuel + 1, cs =>
    match scanText cs with
    | .error e => (([], some e), none)
    | .ok (name, rest) =>
      match skipSpace rest with
      | [] => (([(name, .cut .openObject)], none), none)
      | ':' :: rest =>
        match scanValue fuel rest with
        | (value, none) => (([(name, value)], none), none)
        | (value, some rest) =>
          let ((members, fault), rest) := scanMembers fuel false rest
          (((name, value) :: members, fault), rest)
      | _ => (([(name, .cut .expectedColon)], none), none)

end

/-- A whole text: its value, and whether more than white space stands behind it. -/
structure Document where
  root : Reading
  trailing : Bool

/-- Reads a text. Of any four calls that follow one another in the reader one uses up a
character. -/
def Document.ofText (text : String) : Document :=
  let cs := text.toList
  match scanValue (3 * cs.length + 4) cs with
  | (root, some rest) => ⟨root, !(skipSpace rest).isEmpty⟩
  | (root, none) => ⟨root, false⟩

/-! ### Values as readings -/

mutual

/-- A finished value, walked like a text without faults. -/
def Reading.ofJson : Json → Reading
  | .null => .null
  | .bool b => .bool b
  | .number n => .number (.ok n)
  | .string s => .string (.ok s)
  | .array items => .array (ofItems items) none
  | .object members => .object (ofMembers members) none

def Reading.ofItems : List Json → List Reading
  | [] => []
  | item :: rest => Reading.ofJson item :: Reading.ofItems rest

def Reading.ofMembers : List (String × Json) → List (Except SyntaxError String × Reading)
  | [] => []
  | (name, value) :: rest => (.ok name, Reading.ofJson value) :: Reading.ofMembers rest

end

end ActionGraph.Json
