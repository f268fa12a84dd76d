import ActionGraph.Json.Decoder

/-!
# The configuration of a player

A player bounds the transitions of one update, so that a flow that runs in a circle cannot hold up
the frame, and may be given a seed for its random choices.
-/

namespace ActionGraph

open Json (Field)

structure PlayerConfig where
  /-- The most transitions of one update; zero counts as one. -/
  maxTransitions : UInt64 := 256
  seed? : Option UInt64 := none
  deriving DecidableEq, Repr

namespace PlayerConfig

def form : Json.Record PlayerConfig where
  title := "struct PlayerConfig"
  fields := [
    Field.of "max_transitions_per_update" false (Json.Decoder.word "usize") fun n config =>
      { config with maxTransitions := n },
    Field.of "seed" false (Json.Decoder.word "u64").optional fun seed? config =>
      { config with seed? := seed? }]
  initial := {}

/-- The configuration with this limit, but at least one. -/
def withMaxTransitions (config : PlayerConfig) (limit : UInt64) : PlayerConfig :=
  { config with maxTransitions := max limit 1 }

def withSeed (config : PlayerConfig) (seed : UInt64) : PlayerConfig :=
  { config with seed? := some seed }

/-- How many transitions one update may make. -/
def limit (config : PlayerConfig) : Nat := max config.maxTransitions.toNat 1

def toJson (config : PlayerConfig) : Json :=
  .object [("max_transitions_per_update", .ofInt config.maxTransitions.toNat),
    ("seed", match config.seed? with
      | some seed => .ofInt seed.toNat
      | none => .null)]

end PlayerConfig

end ActionGraph
