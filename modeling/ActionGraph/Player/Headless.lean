import ActionGraph.Player.Update

/-!
# Running without a screen

A flow can be run to its end by updates with the same frame time, as fast as they come. A number of
updates bounds the run.
-/

namespace ActionGraph

variable {ι τ : Type}

/-- What comes of such a run. -/
structure RunSummary where
  ticks : Nat
  /-- The report, if the run came to its end. -/
  report? : Option RunReport
  deriving DecidableEq, Repr

def RunSummary.toJson (o : RunSummary) : Json :=
  .object [("ticks", .ofInt o.ticks), ("report", match o.report? with
    | some report => report.toJson
    | none => .null)]

namespace Player

variable [Clock τ]

/-- Updates a player as long as it plays, but at most `left` times; `ticks` updates have been made
and `past` has happened before, the latest first. -/
def drive (r : Repertoire ι τ) (bridge : Bridge) (delta : τ) :
    (left ticks : Nat) → Player ι → Scopes → (past : List (Event τ)) → Nat × Outcome ι τ
  | 0, ticks, p, scopes, past => (ticks, ⟨p, scopes, past.reverse⟩)
  | left + 1, ticks, p, scopes, past =>
    if p.isPlaying then
      let o := p.update r ⟨scopes, bridge⟩ delta
      drive r bridge delta left (ticks + 1) o.player o.scopes (o.events.reverse ++ past)
    else (ticks, ⟨p, scopes, past.reverse⟩)

def runFrames (r : Repertoire ι τ) (p : Player ι) (session : Session) (asset : Asset)
    (options : StartOptions) (delta : τ) (maxTicks : Nat) :
    Except FlowFault (RunSummary × Outcome ι τ) := do
  let (started, events) ← p.start asset options
  let (ticks, o) := drive r session.bridge delta maxTicks 0 started session.scopes events.reverse
  return (⟨ticks, if o.player.isPlaying then none else o.player.report?⟩, o)

end Player

end ActionGraph
