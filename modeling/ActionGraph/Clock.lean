import ActionGraph.Json
import ActionGraph.Naming
import ActionGraph.Decimal.Layout

/-!
# Frame times

A player is driven by frame times and hands what is left of one from action to action. It needs
little of their arithmetic, and that little is a `Clock`, so that the same player runs on
floating-point seconds and on exact ones.
-/

namespace ActionGraph

/-- The arithmetic of frame times. -/
class Clock (τ : Type) where
  zero : τ
  add : τ → τ → τ
  sub : τ → τ → τ
  /-- The larger of the time and zero, and zero for what is no number. -/
  floor : τ → τ
  /-- Whether the first time is at most the second. -/
  le : τ → τ → Bool
  isFinite : τ → Bool
  isNegative : τ → Bool
  /-- The time that a number in an asset describes. -/
  ofNumber : Json.Number → τ
  /-- A time as a message shows it. -/
  text : τ → String

namespace Clock

variable {τ : Type} [Clock τ]

/-- Checks a frame time, which has to be finite and not negative. -/
def checkDelta (delta : τ) : Except Refusal Unit :=
  if !isFinite delta || isNegative delta then .error (.badDelta (text delta)) else .ok ()

/-- The frame time itself where it is admitted, and zero otherwise. -/
def orZero (delta : τ) : τ :=
  match checkDelta delta with
  | .ok _ => delta
  | .error _ => zero

end Clock

/-- A number of 32 bits that is nearest to a JSON number. -/
def secondsOfNumber : Json.Number → Float32
  | .integer i => Float32.ofInt i
  | .real x => x.toFloat32

/-- Seconds as numbers of 32 bits. -/
instance : Clock Float32 where
  zero := 0.0
  add := (· + ·)
  sub := (· - ·)
  floor t := if 0.0 < t then t else 0.0
  le s t := s ≤ t
  isFinite t := t.isFinite
  isNegative t := t < 0.0
  ofNumber := secondsOfNumber
  text := Decimal.plain32

end ActionGraph
