import ActionGraph.Json.Reading
import ActionGraph.Json.DecodeError

/-!
# Decoding readings

A decoder walks a reading in order and reports what it meets first: a fault of the text, or a value
of the wrong kind. It works alike on text and on finished values; the few differences between the
two, the depth limit of text above all, hang on the `Origin` that it carries along.

A record is described by its `Field`s. It is decoded from an object, whose unknown members are
passed over, or from an array that holds the fields in order.
-/

namespace ActionGraph.Json

/-- Where a reading comes from. -/
inductive Origin where
  /-- A finished value. -/
  | value
  /-- Text, inside as many arrays and objects. -/
  | text (depth : Nat)

/-- The most arrays and objects that text may nest. -/
def depthLimit : Nat := 127

/-- Inside one more array or object. -/
def Origin.enter : Origin → Except DecodeError Origin
  | .value => .ok .value
  | .text depth =>
    if depthLimit ≤ depth then .error (.malformed .tooDeep) else .ok (.text (depth + 1))

/-- What decodes a reading to a value of type `α`. -/
abbrev Decoder (α : Type) := Origin → Reading → Except DecodeError α

/-- The fault that ends a list, if there is one. -/
def endOf : Option SyntaxError → Except DecodeError Unit
  | none => .ok ()
  | some fault => .error (.malformed fault)

/-- A part of a reading that may have kept a fault. -/
def kept {α : Type} : Except SyntaxError α → Except DecodeError α
  | .ok a => .ok a
  | .error fault => .error (.malformed fault)

/-- Refuses a reading that is not what is expected; a fault of the text comes first. -/
def refuse {α : Type} (expected : String) : Reading → Except DecodeError α
  | .cut fault => .error (.malformed fault)
  | .null => .error (.wrongType .null expected)
  | .bool b => .error (.wrongType (.bool b) expected)
  | .number n => do
    match ← kept n with
    | .integer i => .error (.wrongType (.integer i) expected)
    | .real x => .error (.wrongType (.real x) expected)
  | .string s => do .error (.wrongType (.string (← kept s)) expected)
  | .array _ _ => .error (.wrongType .sequence expected)
  | .object _ _ => .error (.wrongType .map expected)

/-! ### Any value -/

mutual

/-- The value itself, its members in order and repeated ones kept. -/
def anyValue (origin : Origin) : Reading → Except DecodeError Json
  | .cut fault => .error (.malformed fault)
  | .null => .ok .null
  | .bool b => .ok (.bool b)
  | .number n => (kept n).map .number
  | .string s => (kept s).map .string
  | .array items fault => do
    let inner ← origin.enter
    let items ← anyItems inner items
    endOf fault
    return .array items
  | .object members fault => do
    let inner ← origin.enter
    let members ← anyMembers inner members
    endOf fault
    return .object members

def anyItems (origin : Origin) : List Reading → Except DecodeError (List Json)
  | [] => .ok []
  | item :: rest => do
    let item ← anyValue origin item
    return item :: (← anyItems origin rest)

def anyMembers (origin : Origin) :
    List (Except SyntaxError String × Reading) → Except DecodeError Members
  | [] => .ok []
  | (name, value) :: rest => do
    let name ← kept name
    let value ← anyValue origin value
    return (name, value) :: (← anyMembers origin rest)

end

def Decoder.sorted : Decoder Json := fun origin r => (anyValue origin r).map Json.sorted

mutual

/-- Passes over a value: only faults that end the reading matter, and depth is not limited. -/
def passOver : Reading → Except DecodeError Unit
  | .cut fault => .error (.malformed fault.passedOver)
  | .array items fault => do
    passItems items
    endOf (fault.map SyntaxError.passedOver)
  | .object members fault => do
    passMembers members
    endOf (fault.map SyntaxError.passedOver)
  | _ => .ok ()

def passItems : List Reading → Except DecodeError Unit
  | [] => .ok ()
  | item :: rest => do
    passOver item
    passItems rest

def passMembers : List (Except SyntaxError String × Reading) → Except DecodeError Unit
  | [] => .ok ()
  | (_, value) :: rest => do
    passOver value
    passMembers rest

end

/-! ### Plain values -/

def Decoder.string : Decoder String := fun _ r =>
  match r with
  | .string s => kept s
  | r => refuse "a string" r

def Decoder.boolean : Decoder Bool := fun _ r =>
  match r with
  | .bool b => .ok b
  | r => refuse "a boolean" r

/-- A whole number of 64 bits without sign, under the name `expected`. -/
def Decoder.word (expected : String) : Decoder UInt64 := fun _ r =>
  match r with
  | .number n => do
    match ← kept n with
    | .integer i =>
      if 0 ≤ i then .ok (UInt64.ofNat i.toNat) else .error (.wrongValue (.integer i) expected)
    | .real x => .error (.wrongType (.real x) expected)
  | r => refuse expected r

/-- Any number, under the name `expected`. -/
def Decoder.number (expected : String) : Decoder Number := fun _ r =>
  match r with
  | .number n => kept n
  | r => refuse expected r

/-- Null, or what the decoder reads. -/
def Decoder.optional {α : Type} (d : Decoder α) : Decoder (Option α) := fun origin r =>
  match r with
  | .null => .ok none
  | r => (d origin r).map some

/-! ### Lists and tables -/

def Decoder.items {α : Type} (d : Decoder α) (origin : Origin) :
    List Reading → Except DecodeError (List α)
  | [] => .ok []
  | item :: rest => do
    let a ← d origin item
    return a :: (← Decoder.items d origin rest)

def Decoder.list {α : Type} (d : Decoder α) : Decoder (List α) := fun origin r =>
  match r with
  | .array readings fault => do
    let inner ← origin.enter
    let as ← Decoder.items d inner readings
    endOf fault
    return as
  | r => refuse "a sequence" r

/-- Decodes members in order and hands each to `add`. -/
def Decoder.entries {α σ : Type} (d : Decoder α) (add : σ → String → α → σ) (origin : Origin)
    (state : σ) :
    List (Except SyntaxError String × Reading) → Except DecodeError σ
  | [] => .ok state
  | (name, value) :: rest => do
    let name ← kept name
    let a ← d origin value
    Decoder.entries d add origin (add state name a) rest

/-- An object whose member names are free. -/
def Decoder.table {α σ : Type} (d : Decoder α) (add : σ → String → α → σ) (empty : σ) : Decoder σ :=
  fun origin r =>
    match r with
    | .object members fault => do
      let inner ← origin.enter
      let state ← Decoder.entries d add inner empty members
      endOf fault
      return state
    | r => refuse "a map" r

/-! ### Records -/

/-- One field of a record of type `σ`. -/
structure Field (σ : Type) where
  name : String
  /-- Whether a record without the field is refused. -/
  required : Bool
  /-- Decodes the field into the record. -/
  set : Origin → Reading → σ → Except DecodeError σ

/-- A field that a decoder reads and `put` stores. -/
def Field.of {α σ : Type} (name : String) (required : Bool) (d : Decoder α) (put : α → σ → σ) :
    Field σ :=
  ⟨name, required, fun origin r record => (d origin r).map (put · record)⟩

/-- A kind of record: what it is called in errors, its fields, and the record whose optional fields
all have their defaults. -/
structure Record (σ : Type) where
  title : String
  fields : List (Field σ)
  initial : σ

/-- Decodes members into a record; `seen` are the names of the fields decoded so far. -/
def Record.setMembers {σ : Type} (k : Record σ) (origin : Origin) (seen : List String)
    (record : σ) :
    List (Except SyntaxError String × Reading) → Except DecodeError (List String × σ)
  | [] => .ok (seen, record)
  | (name, value) :: rest => do
    let name ← kept name
    match k.fields.find? (·.name == name) with
    | none =>
      passOver value
      k.setMembers origin seen record rest
    | some field =>
      if name ∈ seen then .error (.duplicateField name)
      else
        let record ← field.set origin value record
        k.setMembers origin (name :: seen) record rest

/-- Refuses a record that lacks a required field. -/
def Record.checkSeen {σ : Type} (k : Record σ) (seen : List String) : Except DecodeError Unit :=
  match k.fields.find? fun field => field.required && !(seen.contains field.name) with
  | some field => .error (.missingField field.name)
  | none => .ok ()

/-- The number of elements of a record, in words. -/
def elements (n : Nat) : String := toString n ++ (if n = 1 then " element" else " elements")

/-- Decodes items into the fields in order, from the field at `index` on. What is left of the items
is returned. -/
def Record.setItems {σ : Type} (k : Record σ) (origin : Origin) (fault : Option SyntaxError) :
    (index : Nat) → List (Field σ) → List Reading → σ →
      Except DecodeError (List Reading × σ)
  | _, [], rest, record => .ok (rest, record)
  | index, field :: fields, [], record => do
    endOf fault
    if field.required then
      .error (.wrongLength index (k.title ++ " with " ++ elements k.fields.length))
    else k.setItems origin fault (index + 1) fields [] record
  | index, field :: fields, item :: rest, record => do
    let record ← field.set origin item record
    k.setItems origin fault (index + 1) fields rest record

/-- Refuses an array that goes on behind the last field. -/
def endRecord (origin : Origin) (length : Nat) (left : List Reading) (fault : Option SyntaxError) :
    Except DecodeError Unit :=
  match origin, left with
  | _, [] => endOf (fault.map SyntaxError.behindLast)
  | .value, _ :: _ => .error (.wrongLength length "fewer elements in array")
  | .text _, _ :: _ => .error (.malformed .trailingCharacters)

/-- Decodes a record from an object or an array. -/
def Record.decoder {σ : Type} (k : Record σ) : Decoder σ := fun origin r =>
  match r with
  | .object members fault => do
    let inner ← origin.enter
    let (seen, record) ← k.setMembers inner [] k.initial members
    endOf fault
    k.checkSeen seen
    return record
  | .array readings fault => do
    let inner ← origin.enter
    let (left, record) ← k.setItems inner fault 0 k.fields readings k.initial
    endRecord origin readings.length left fault
    return record
  | r => refuse k.title r

/-! ### Entry points -/

def decodeValue {α : Type} (d : Decoder α) (value : Json) : Except DecodeError α :=
  d .value (Reading.ofJson value)

/-- Decodes a whole text; what stands behind the value comes last. -/
def decodeText {α : Type} (d : Decoder α) (text : String) : Except DecodeError α := do
  let document := Document.ofText text
  let a ← d (.text 0) document.root
  if document.trailing then .error (.malformed .trailingCharacters) else .ok a

end ActionGraph.Json
