/-!
# Classes of characters

A class of characters is kept as the increasing list of code points at which membership changes,
so that a class with many short runs stays one flat list.
-/

namespace ActionGraph.Text

/-- A class of characters: the code points where it begins and ends, in turn, in increasing order.
-/
structure CharClass where
  edges : List Nat

/-- A character belongs to the class exactly when an odd number of edges lie at or below it. -/
def CharClass.contains (k : CharClass) (c : Char) : Bool :=
  (k.edges.takeWhile (· ≤ c.toNat)).length % 2 == 1

end ActionGraph.Text
