import ActionGraph.Proofs.Player.Handover
import ActionGraph.Proofs.Player.Phases
import ActionGraph.Proofs.Player.Schedule

/-!
# Replay from a seed

A start that brings a seed puts an end to all that a player has been through. Of the player before
it only the configuration is left, and no call changes that. So two players of one configuration go
on alike from such a start, whatever they did before, as long as what they are called with is alike.

The calls that follow may use several sessions, and a session keeps what actions write to its
scopes. A `Host` therefore holds the scopes of its sessions next to its player, and a `HostCall`
names a session by its number.
-/

namespace ActionGraph

variable {ι τ : Type}

/-- What is said to the session in these events. -/
def messages (events : List (Event τ)) : List (LogLevel × String) :=
  events.filterMap Event.message?

/-- A player and the scopes of the sessions on which it may be updated. -/
structure Host (ι : Type) where
  player : Player ι
  scopes : Nat → Scopes

/-- A call of the player of a host. -/
inductive HostCall (ι τ : Type) where
  | start (asset : Asset) (options : StartOptions)
  | stop
  | update (repertoire : Repertoire ι τ) (session : Nat) (delta : τ)

namespace Host

variable [Clock τ]

/-- The host behind a call, and what happens in it; each session has a bridge of its own. -/
def serve (bridges : Nat → Bridge) (h : Host ι) : HostCall ι τ → Host ι × List (Event τ)
  | .start asset options =>
    let called := h.player.call (.start asset options : Call ι τ)
    (⟨called.1, h.scopes⟩, called.2)
  | .stop => (⟨(h.player.stop (τ := τ)).1, h.scopes⟩, h.player.stop.2)
  | .update repertoire session delta =>
    let o := h.player.update repertoire ⟨h.scopes session, bridges session⟩ delta
    (⟨o.player, fun other => if other = session then o.scopes else h.scopes other⟩, o.events)

def serveAll (bridges : Nat → Bridge) (h : Host ι) (calls : List (HostCall ι τ)) : Host ι :=
  calls.foldl (fun h c => (h.serve bridges c).1) h

/-- Two hosts on which the same things can happen. -/
structure IsAlike (h₁ h₂ : Host ι) : Prop where
  player_eq : h₁.player = h₂.player
  scopes_eq : ∀ session, h₁.scopes session = h₂.scopes session

variable {bridges₁ bridges₂ : Nat → Bridge} {h₁ h₂ : Host ι}

theorem IsAlike.serve (halike : h₁.IsAlike h₂)
    (hbridges : ∀ session expression store,
      bridges₁ session expression store = bridges₂ session expression store) (c : HostCall ι τ) :
    (h₁.serve bridges₁ c).1.IsAlike (h₂.serve bridges₂ c).1 ∧
      (h₁.serve bridges₁ c).2 = (h₂.serve bridges₂ c).2 := by
  obtain ⟨p₁, scopes₁⟩ := h₁
  obtain ⟨p₂, scopes₂⟩ := h₂
  obtain rfl : p₁ = p₂ := halike.player_eq
  have hscopes : ∀ session, scopes₁ session = scopes₂ session := halike.scopes_eq
  cases c with
  | start asset options => exact ⟨⟨rfl, hscopes⟩, rfl⟩
  | stop => exact ⟨⟨rfl, hscopes⟩, rfl⟩
  | update repertoire session delta =>
    -- The update sees one session only, so nothing is needed of the others but their scopes.
    have hbridge : bridges₁ session = bridges₂ session := by
      funext expression store
      exact hbridges session expression store
    have hsession : (⟨scopes₁ session, bridges₁ session⟩ : Session)
        = ⟨scopes₂ session, bridges₂ session⟩ := by
      rw [hbridge, hscopes session]
    rw [Host.serve, Host.serve, hsession]
    refine ⟨⟨rfl, fun other => ?_⟩, rfl⟩
    by_cases hother : other = session
    · simp only [hother, if_true]
    · simp only [hother, if_false]
      exact hscopes other

theorem IsAlike.serveAll (halike : h₁.IsAlike h₂)
    (hbridges : ∀ session expression store,
      bridges₁ session expression store = bridges₂ session expression store)
    (calls : List (HostCall ι τ)) :
    (h₁.serveAll bridges₁ calls).IsAlike (h₂.serveAll bridges₂ calls) := by
  induction calls generalizing h₁ h₂ with
  | nil => exact halike
  | cons c rest ih => exact ih (halike.serve hbridges c).1

end Host

namespace Player

/-- A start that brings a seed leaves nothing of the player before but its configuration. -/
theorem poise_stop_eq {asset : Asset} {options : StartOptions} {seed : UInt64}
    (hseed : options.seed? = some seed) (p : Player ι) (id : ActionId) :
    (p.stop (τ := τ)).1.poise asset options id =
      ⟨p.config, .poised asset id none, asset.bindings.merge options.bindings, .ofSeed seed,
        none⟩ := by
  rw [poise, hseed, config_stop]

variable [Clock τ]

/-- **What follows a start with a seed does not depend on what was before.** Take two players of one
configuration, which no call changes, whatever they have been through. Where one of them can start
an asset with a seed, so can the other. From then on the same calls, on sessions with equal scopes
and with bridges that answer alike, make both show the same, leave the same in the scopes, and say
the same to the sessions. -/
theorem seeded_start_forgets_history {p₁ p₂ started₁ : Player ι} (hconfig : p₁.config = p₂.config)
    {asset : Asset} {options : StartOptions} {seed : UInt64} (hseed : options.seed? = some seed)
    {told₁ : List (Event τ)} (hstart : p₁.start asset options = .ok (started₁, told₁))
    {scopes₁ scopes₂ : Nat → Scopes} (hscopes : ∀ session, scopes₁ session = scopes₂ session)
    {bridges₁ bridges₂ : Nat → Bridge} (hbridges : ∀ session expression store,
      bridges₁ session expression store = bridges₂ session expression store) :
    ∃ started₂, ∃ told₂ : List (Event τ), p₂.start asset options = .ok (started₂, told₂) ∧
      ∀ calls : List (HostCall ι τ),
        let h₁ := Host.serveAll bridges₁ ⟨started₁, scopes₁⟩ calls
        let h₂ := Host.serveAll bridges₂ ⟨started₂, scopes₂⟩ calls
        h₁.player.state = h₂.player.state ∧ h₁.player.current? = h₂.player.current? ∧
        h₁.player.pending? = h₂.player.pending? ∧ h₁.player.report? = h₂.player.report? ∧
        h₁.player.bindings.toList = h₂.player.bindings.toList ∧
        (∀ session, h₁.scopes session = h₂.scopes session) ∧
        ∀ c : HostCall ι τ,
          messages (h₁.serve bridges₁ c).2 = messages (h₂.serve bridges₂ c).2 := by
  obtain ⟨id, hid, hstarted₁⟩ := exists_poise_of_start hstart
  have hstart₂ : p₂.start asset options = .ok ((p₂.stop (τ := τ)).1.poise asset options id,
      (p₂.stop (τ := τ)).2 ++ greeting asset id) := by
    rw [start_eq, hid]
    rfl
  have hstarted : started₁ = (p₂.stop (τ := τ)).1.poise asset options id := by
    rw [hstarted₁, poise_stop_eq hseed, poise_stop_eq hseed, hconfig]
  refine ⟨_, _, hstart₂, fun calls => ?_⟩
  have halike : Host.IsAlike ⟨started₁, scopes₁⟩
      ⟨(p₂.stop (τ := τ)).1.poise asset options id, scopes₂⟩ := ⟨hstarted, hscopes⟩
  have hafter := halike.serveAll hbridges calls
  have hplayer := hafter.player_eq
  have hbindings := congrArg (fun p : Player ι => p.bindings.toList) hplayer
  refine ⟨congrArg state hplayer, congrArg current? hplayer, congrArg pending? hplayer,
    congrArg report? hplayer, hbindings, hafter.scopes_eq, fun c => ?_⟩
  exact congrArg messages (hafter.serve hbridges c).2

theorem seeded_start_forgets_history_in_toss :
    ∃ (p₁ p₂ started₁ started₂ : Player (Builtin Float32)) (told₁ told₂ : List (Event Float32)),
      p₁ = (new {} 0).after (τ := Float32) [.start relay {}, .stop] ∧
      p₂ = (new {} 1).after (τ := Float32) [.start toss {}] ∧
      p₁.start toss { seed? := some 7 } = .ok (started₁, told₁) ∧
      p₂.start toss { seed? := some 7 } = .ok (started₂, told₂) ∧
      ∀ deltas : List Float32,
        let calls : List (HostCall (Builtin Float32) Float32) :=
          deltas.map (.update Builtin.repertoire 0)
        (Host.serveAll (fun _ => .standard) ⟨started₁, fun _ => []⟩ calls).player.report?
          = (Host.serveAll (fun _ => .standard) ⟨started₂, fun _ => []⟩ calls).player.report? := by
  let p₁ : Player (Builtin Float32) := (new {} 0).after (τ := Float32) [.start relay {}, .stop]
  let p₂ : Player (Builtin Float32) := (new {} 1).after (τ := Float32) [.start toss {}]
  have hconfig : p₁.config = p₂.config :=
    (config_after (isSound_new {} 0) _).trans (config_after (isSound_new {} 1) _).symm
  obtain ⟨started₁, told₁, hstart⟩ : ∃ started told, p₁.start (τ := Float32) toss
      { seed? := some 7 } = .ok (started, told) := ⟨_, _, rfl⟩
  let scopes : Nat → Scopes := fun _ => []
  let bridges : Nat → Bridge := fun _ => .standard
  have hscopes : ∀ session, scopes session = scopes session := fun _ => rfl
  have hbridges : ∀ session expression store,
      bridges session expression store = bridges session expression store := fun _ _ _ => rfl
  obtain ⟨started₂, told₂, hstart₂, halike⟩ :=
    seeded_start_forgets_history hconfig rfl hstart hscopes hbridges
  refine ⟨p₁, p₂, started₁, started₂, told₁, told₂, rfl, rfl, hstart, hstart₂, fun deltas => ?_⟩
  obtain ⟨-, -, -, hreport, -⟩ := halike (deltas.map (.update Builtin.repertoire 0))
  exact hreport

end Player

end ActionGraph
