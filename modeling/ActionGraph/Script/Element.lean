import ActionGraph.Script.Error

/-!
# Elements

A list, a text and a whole number have elements: their values, characters and bits. An index counts
from the start, or from the end when it is negative. A range takes a part of a text or of the bits
of a number. Lists, texts and ranges can be walked through.
-/

namespace ActionGraph.Script

/-- The place of an index among `n` elements. -/
def place? (index : Int64) (n : Nat) : Option Nat :=
  let p : Int := if index.toInt < 0 then index.toInt + n else index.toInt
  if 0 ≤ p && p < n then some p.toNat else none

def bitCount : Nat := 64

/-- The bit of a whole number at a place. -/
def bit (i : Int64) (place : Nat) : Bool := i.toBitVec.getLsbD place

/-- A whole number with another bit at a place. -/
def withBit (i : Int64) (place : Nat) (b : Bool) : Int64 :=
  let mask : Int64 := ⟨⟨BitVec.twoPow 64 place⟩⟩
  if b then i ||| mask else i &&& ~~~mask

/-! ### Parts -/

/-- Where a part of a text starts and ends; the end of an open range does not belong to it. A bound
may lie behind the end of the text, and a last bound before its start counts as zero. -/
def textSpan (first last : Int64) (n : Nat) : Except RunFault (Nat × Nat) := do
  let bound (i : Int64) : Option Nat := if i.toInt < 0 then place? i n else some i.toInt.toNat
  match bound first with
  | some start => return (start, (bound last).getD 0)
  | none => throw (.stringIndex first.toInt n)

/-- The part of a text that a range takes. A closed range from a place to itself takes nothing. -/
def textPart (cs : List Char) (first last : Int64) (closed : Bool) : Except RunFault Datum := do
  let (start, stop) ← textSpan first last cs.length
  let count := if closed && start < stop then stop - start + 1 else stop - start
  return .string (String.ofList ((cs.drop start).take count))

/-- A text with another text in the place of the part that a range takes. -/
def withTextPart (cs : List Char) (first last : Int64) (closed : Bool) (part : List Char) :
    Except RunFault Datum := do
  let (start, stop) ← textSpan first last cs.length
  return .string (String.ofList
    (cs.take start ++ part ++ cs.drop (if closed then stop + 1 else stop)))

/-- The bits that a range takes as a mask, and the place of the first one. Both bounds have to be
places of bits. -/
def bitSpan (first last : Int64) (closed : Bool) : Except RunFault (Int64 × Nat) := do
  let bound (i : Int64) : Except RunFault Nat :=
    if 0 ≤ i.toInt && i.toInt < bitCount then .ok i.toInt.toNat else .error (.bitIndex i.toInt)
  let start ← bound first
  let stop ← bound last
  let count := if closed then stop + 1 - start else stop - start
  if count = 0 then return (0, 0)
  else return (Int64.ofNat (((1 <<< count) - 1) <<< start), start)

/-- The bits that a range takes from a whole number, as a whole number. -/
def bitPart (n first last : Int64) (closed : Bool) : Except RunFault Datum := do
  let (mask, start) ← bitSpan first last closed
  return .int (Int64.ofInt ((n &&& mask).toInt >>> start))

/-- A whole number with other bits in the place of those that a range takes. -/
def withBitPart (n first last : Int64) (closed : Bool) (part : Int64) : Except RunFault Datum := do
  let (mask, start) ← bitSpan first last closed
  return .int (n &&& ~~~mask ||| Int64.ofInt (part.toInt <<< start) &&& mask)

/-! ### Elements and parts of values -/

def wholeIndex (index : Datum) : Except RunFault Int64 :=
  match index with
  | .int i => .ok i
  | d => .error (.wrongType d.typeName "i64")

/-- The element of a value at an index, or the part of it that a range takes; nothing if the value
has no elements. -/
def element? (target index : Datum) : Option (Except RunFault Datum) :=
  match target, index with
  | .string s, .range first last closed => some (textPart s.toList first last closed)
  | .int n, .range first last closed => some (bitPart n first last closed)
  | .array items, index => some do
    let i ← wholeIndex index
    match (place? i items.length).bind (items[·]?) with
    | some d => return d
    | none => throw (.arrayIndex i.toInt items.length)
  | .string s, index => some do
    let i ← wholeIndex index
    let cs := s.toList
    match (place? i cs.length).bind (cs[·]?) with
    | some c => return .char c
    | none => throw (.stringIndex i.toInt cs.length)
  | .int n, index => some do
    let i ← wholeIndex index
    match place? i bitCount with
    | some p => return .bool (bit n p)
    | none => throw (.bitIndex i.toInt)
  | _, _ => none

/-- A value with another element at an index that it has. A text takes a character only, and a
character counted from the end is put as far from the start; a whole number takes a truth value. The
part that a range takes gives way to the text of any value, or to the bits of a whole number. -/
def withElement (target : Datum) (index : Datum) (d : Datum) : Except RunFault Datum :=
  match target, index with
  | .array items, .int i =>
    match place? i items.length with
    | some p => .ok (.array (items.set p d))
    | none => .ok target
  | .string s, .int i =>
    match d with
    | .char c => .ok (.string (String.ofList (s.toList.set i.toInt.natAbs c)))
    | d => .error (.wrongType d.typeName "char")
  | .string s, .range first last closed => withTextPart s.toList first last closed d.thrown.toList
  | .int n, .int i =>
    match d, place? i bitCount with
    | .bool b, some p => .ok (.int (withBit n p b))
    | .bool _, none => .ok target
    | d, _ => .error (.wrongType d.typeName "bool")
  | .int n, .range first last closed =>
    match d with
    | .int part => withBitPart n first last closed part
    | d => .error (.wrongType d.typeName "integer")
  | target, _ => .ok target

/-- The values that a loop walks through: how many, and each by its place. -/
def walk? : Datum → Option (Nat × (Nat → Datum))
  | .array items =>
    let items := items.toArray
    some (items.size, fun k => items.getD k .unit)
  | .string s =>
    let cs := s.toList.toArray
    some (cs.size, fun k => .char (cs.getD k ' '))
  | .range first last closed =>
    some ((last.toInt - first.toInt + if closed then 1 else 0).toNat,
      fun k => .int (Int64.ofInt (first.toInt + (k : Int))))
  | _ => none

end ActionGraph.Script
