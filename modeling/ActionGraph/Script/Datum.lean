import ActionGraph.Decimal.Layout
import ActionGraph.Text.Quoted

/-!
# The values of scripts

What an expression of a script can evaluate to, and how such a value is shown: inside a list it is
shown so that its kind can be told, and joined to a text it is shown bare.
-/

namespace ActionGraph.Script

inductive Datum where
  | unit
  | bool (b : Bool)
  | int (i : Int64)
  | float (x : Float)
  | char (c : Char)
  | string (s : String)
  | array (items : List Datum)
  /-- The whole numbers from the first up to the second, which belongs to it when it is closed. -/
  | range (first last : Int64) (closed : Bool)

namespace Datum

/-- The full name of the type of a value. -/
def typeName : Datum → String
  | .unit => "()"
  | .bool _ => "bool"
  | .int _ => "i64"
  | .float _ => "f64"
  | .char _ => "char"
  | .string _ => "string"
  | .array _ => "array"
  | .range _ _ closed =>
    if closed then "core::ops::range::RangeInclusive<i64>" else "core::ops::range::Range<i64>"

/-- The short name of the type of a value. -/
def shortType : Datum → String
  | .range _ _ closed => if closed then "range=" else "range"
  | d => d.typeName

def argumentType : Datum → String
  | .string _ => "&str | ImmutableString | String"
  | d => d.shortType

/-- The greatest number that is joined to a text without an exponent, `1e13` in single precision. -/
def greatestPlain : Float := 9999999827968.0

/-- The least number that is joined to a text without an exponent, `1e-13` in single precision. -/
def leastPlain : Float := 9.9999998245167e-14

/-- A number joined to a text: with at least one place behind the point, or with an exponent when
it is very large or very small. -/
def joinedLayout (x : Float) : Decimal.Layout :=
  ⟨if greatestPlain < x.abs || x.abs < leastPlain then some (1, 0) else none, true, "", .up, "NaN",
    "inf"⟩

def quotedChar (c : Char) : String :=
  let form :=
    match c with
    | '\'' => ['\\', '\'']
    | '"' => ['"']
    | c => Text.quotedChar c
  String.ofList (['\''] ++ form ++ ['\''])

def rangeText (first last : Int64) (closed : Bool) : String :=
  toString first.toInt ++ (if closed then "..=" else "..") ++ toString last.toInt

mutual

/-- A value inside a list. -/
def shown : Datum → String
  | .unit => "()"
  | .bool b => toString b
  | .int i => toString i.toInt
  | .float x => Decimal.diagnostic x
  | .char c => quotedChar c
  | .string s => Text.quoted s
  | .array items => "[" ++ ", ".intercalate (shownItems items) ++ "]"
  | .range first last closed => rangeText first last closed

def shownItems : List Datum → List String
  | [] => []
  | item :: rest => shown item :: shownItems rest

end

mutual

/-- A value inside a list that is joined to a text: like a value inside a list, but a character
stands bare. -/
def joinedItem : Datum → String
  | .char c => c.toString
  | .array items => "[" ++ ", ".intercalate (joinedItems items) ++ "]"
  | d => d.shown

/-- The values inside a list that is joined to a text. -/
def joinedItems : List Datum → List String
  | [] => []
  | item :: rest => joinedItem item :: joinedItems rest

end

/-- A number joined to a text. -/
def joinedFloat (x : Float) : String :=
  match Decimal.Number.ofFloat x with
  | .zero _ => "0.0"
  | n => n.text (joinedLayout x)

/-- A value joined to a text. -/
def joined : Datum → String
  | .unit => ""
  | .float x => joinedFloat x
  | .char c => c.toString
  | .string s => s
  | d => d.joinedItem

/-- A value as an error that was thrown shows it. -/
def thrown : Datum → String
  | .array items => (Datum.array items).shown
  | d => d.joined

end Datum

end ActionGraph.Script
