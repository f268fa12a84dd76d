import ActionGraph.Text.CharClass

/-!
# Blanks

The characters with the Unicode property White_Space, and the text without the blanks around it.
-/

namespace ActionGraph.Text

/-- The edges of the property White_Space. -/
def blanks : CharClass := ⟨[
  9, 14, 32, 33, 133, 134, 160, 161, 5760, 5761, 8192, 8203, 8232, 8234, 8239, 8240, 8287, 8288,
  12288, 12289]⟩

def isBlank (c : Char) : Bool := blanks.contains c

/-- The characters without the blanks in front of the first and after the last other character. -/
def trimChars (cs : List Char) : List Char :=
  ((cs.dropWhile isBlank).reverse.dropWhile isBlank).reverse

def trim (s : String) : String := String.ofList (trimChars s.toList)

end ActionGraph.Text
