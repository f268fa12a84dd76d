import ActionGraph.Proofs.Player.Scene

/-!
# Flows and their schedule

With the built-in actions, what a flow does from a seeded start does not depend on how its updates
fall: neither on their number and their frame times, nor on the limit of transitions. Every update
follows the course of the flow for some steps, and stops where time or the limit makes it. Two
players that start alike are on one course, so that one of them has seen what the other has seen,
and perhaps more.
-/

namespace ActionGraph

variable {τ : Type} [Clock τ]

/-! ### Scenes of a player -/

/-- Whether a player is at a spot. -/
def Spot.Fits (p : Player (Builtin τ)) : Spot τ → Prop
  | .due asset next last? => p.phase = .poised asset next last?
  | .live asset d fresh => asset.find? d.id = some d ∧
    ∃ b, p.phase = .active asset d.id b ∧ b.started = fresh
  | .ended report => p.phase = .idle ∧ p.report? = some report

/-- A scene that a player and the scopes of its session show. -/
structure Scene.Fits (s : Scene τ) (p : Player (Builtin τ)) (scopes : Scopes) : Prop where
  spot_fits : s.spot.Fits p
  stage_eq : p.stage scopes = s.stage

theorem Scene.Fits.isSound {s : Scene τ} {p : Player (Builtin τ)} {scopes : Scopes}
    (h : s.Fits p scopes) : p.IsSound := by
  obtain ⟨hspot, -⟩ := h
  cases hs : s.spot with
  | due asset next last? =>
    simp only [hs, Spot.Fits] at hspot
    simp only [Player.IsSound, hspot]
  | live asset d fresh =>
    simp only [hs, Spot.Fits] at hspot
    obtain ⟨hknown, b, hphase, -⟩ := hspot
    simp only [Player.IsSound, hphase, hknown, Option.isSome_some]
  | ended report =>
    simp only [hs, Spot.Fits] at hspot
    simp only [Player.IsSound, hspot.1]

theorem Scene.Fits.eq_of_turn {s : Scene τ} {t : Turn (Builtin τ) τ}
    (h : s.Fits t.player t.scopes) :
    s = ⟨.live t.asset t.descriptor t.live.started, t.player.stage t.scopes⟩ := by
  obtain ⟨spot, stage⟩ := s
  obtain ⟨hspot, hstage⟩ := h
  obtain rfl : t.player.stage t.scopes = stage := hstage
  cases spot with
  | due asset next last? => simp [Spot.Fits, t.phase_eq] at hspot
  | ended report => simp [Spot.Fits, t.phase_eq] at hspot
  | live asset d fresh =>
    obtain ⟨hknown, b, hphase, rfl⟩ := hspot
    obtain ⟨rfl, rfl, rfl⟩ := Player.eq_of_active t.phase_eq t.find?_eq hphase hknown
    rfl

/-! ### Updates follow the course -/

theorem Turn.heir_started {t : Turn (Builtin τ) τ}
    (hrepertoire : t.repertoire = Builtin.repertoire) : t.heir.started = t.live.started := by
  rw [Turn.heir, Turn.played, hrepertoire]
  exact Builtin.started_update ..

theorem Turn.settles {t : Turn (Builtin τ) τ} (hrepertoire : t.repertoire = Builtin.repertoire) :
    (∃ complaint?, t.decision = .stay complaint? ∧
      t.played.stage = t.player.stage t.scopes ∧ t.played.notes = []) ∨
    t.live.started.settle t.bridge t.descriptor (t.player.stage t.scopes)
      = some (t.played.map fun result => result.2.decision) := by
  rw [Turn.decision, Turn.played, hrepertoire, Builtin.settle_started]
  exact Builtin.update_cases ..

theorem Turn.observations_events (t : Turn (Builtin τ) τ) :
    observations t.events = observations
      (t.played.notes.map .noted ++ Player.complaints t.descriptor.id t.decision) := by
  simp [Turn.events, Event.observation?]

theorem Turn.settle_of_closes {t : Turn (Builtin τ) τ}
    (hrepertoire : t.repertoire = Builtin.repertoire) {withError : Bool}
    (hdecision : t.decision.closes? = some withError) :
    t.live.started.settle t.bridge t.descriptor (t.player.stage t.scopes)
      = some (t.played.map fun result => result.2.decision) := by
  rcases t.settles hrepertoire with ⟨complaint?, hstays, -⟩ | hsettle
  · simp [hstays, Decision.closes?] at hdecision
  · exact hsettle

theorem Turn.step_of_go {t : Turn (Builtin τ) τ}
    (hrepertoire : t.repertoire = Builtin.repertoire) {next : ActionId} {yields : Bool}
    (hdecision : t.decision = .go next yields) :
    Scene.Step t.bridge ⟨.live t.asset t.descriptor t.live.started, t.player.stage t.scopes⟩
      (observations (t.departure next yields))
      ⟨.due t.asset next (some t.descriptor.id), t.played.stage⟩ := by
  have hseen : observations (t.departure next yields)
      = observations (t.played.notes.map (.noted (τ := τ))) := by
    simp [Turn.departure, t.observations_events, hdecision, Player.complaints, Event.observation?]
  rw [hseen]
  rcases t.settles hrepertoire with ⟨complaint?, hstays, -⟩ | hsettle
  · simp [hstays] at hdecision
  · exact .leave hsettle hdecision

theorem exists_step_begin (bridge : Bridge) {p : Player (Builtin τ)} (scopes : Scopes)
    {asset : Asset} {next : ActionId} {last? : Option ActionId}
    (hphase : p.phase = .poised asset next last?) :
    let o : Outcome (Builtin τ) τ := p.begin Builtin.repertoire bridge scopes asset next
    ∃ s', Scene.Step bridge ⟨.due asset next last?, p.stage scopes⟩ (observations o.events) s' ∧
      s'.Fits o.player o.scopes := by
  intro o
  have hclosing : p.closing true = ⟨asset.name, some (last?.getD next), true⟩ := by
    simp [Player.closing, Player.asset?, hphase, Phase.asset?, Phase.last?]
  have habort (complaint : Complaint) :
      (⟨.ended ⟨asset.name, some (last?.getD next), true⟩, p.stage scopes⟩ : Scene τ).Fits
        (p.ended true) scopes := ⟨⟨rfl, congrArg some hclosing⟩, rfl⟩
  cases hd : asset.find? next with
  | none =>
    have ho : o = _ := Player.begin_of_unknown Builtin.repertoire bridge p scopes hd
    rw [ho]
    exact ⟨_, .miss hd, habort (.unknown next asset.name)⟩
  | some d =>
    cases hmake : (Builtin.repertoire (τ := τ)).make d.type d with
    | error e =>
      have ho : o = _ := Player.begin_of_unmade Builtin.repertoire bridge p scopes hd hmake
      rw [ho]
      exact ⟨_, .refuse hd hmake, habort (.unmade next e)⟩
    | ok made =>
      have ho : o = _ := Player.begin_of_made Builtin.repertoire bridge p scopes hd hmake
      have hknown : asset.find? d.id = some d := by rwa [Asset.id_of_find? hd]
      rw [ho]
      exact ⟨_, .make hd hmake, ⟨⟨hknown, _, rfl, Builtin.started_started made⟩, rfl⟩⟩

/-- A run of updates is a path, for whatever time and up to whatever limit it goes. -/
theorem Course.exists_path {r : Repertoire (Builtin τ) τ} {bridge : Bridge} {more : Nat}
    {remaining : τ} {p : Player (Builtin τ)} {scopes : Scopes} {o : Outcome (Builtin τ) τ}
    (h : Course r bridge more remaining p scopes o) (hrepertoire : r = Builtin.repertoire)
    {s : Scene τ} (hfits : s.Fits p scopes) :
    ∃ s', Scene.Path bridge s (observations o.events) s' ∧ s'.Fits o.player o.scopes := by
  induction h generalizing s with
  | rest => exact ⟨s, .nil s, hfits⟩
  | stay t hdecision =>
    obtain rfl := hfits.eq_of_turn
    rcases t.settles hrepertoire with ⟨complaint?, -, hstage, hnotes⟩ | hsettle
    · have hnone : observations t.events = [] := by
        rw [t.observations_events, hnotes, hdecision]
        exact observations_complaints_of_stay ..
      rw [hnone]
      refine ⟨_, .nil _, ?_, hstage⟩
      exact ⟨t.find?_eq, t.heir, rfl, t.heir_started hrepertoire⟩
    · exact absurd hdecision (Builtin.result_ne_stay_of_settle hsettle _)
  | close t hdecision =>
    obtain rfl := hfits.eq_of_turn
    have hsettle := t.settle_of_closes hrepertoire hdecision
    rw [observations_append, observations_farewell, List.append_nil, t.observations_events]
    exact ⟨_, (Scene.Step.close hsettle hdecision).path, ⟨rfl, rfl⟩, rfl⟩
  | yield t hdecision =>
    obtain rfl := hfits.eq_of_turn
    exact ⟨_, (t.step_of_go hrepertoire hdecision).path, rfl, rfl⟩
  | exhaust t hdecision =>
    obtain rfl := hfits.eq_of_turn
    rw [observations_append]
    refine ⟨_, (t.step_of_go hrepertoire hdecision).path.append (.nil _), rfl, rfl⟩
  | @go more t next o hdecision hrest ih =>
    obtain rfl := hfits.eq_of_turn
    have harrival : t.arrival next = Player.begin Builtin.repertoire t.bridge (t.departed next)
        t.played.stage.scopes t.asset next := by rw [Turn.arrival, hrepertoire]
    obtain ⟨s₁, hmade, hfits₁⟩ := exists_step_begin t.bridge t.played.stage.scopes
      (rfl : (t.departed next).phase = .poised t.asset next (some t.descriptor.id))
    rw [← harrival] at hmade hfits₁
    obtain ⟨s', hpath, hfits'⟩ := ih hrepertoire hfits₁
    refine ⟨s', ?_, hfits'⟩
    rw [Outcome.after, observations_append, observations_append, List.append_assoc]
    exact .cons (t.step_of_go hrepertoire hdecision) (.cons hmade hpath)

namespace Player

/-- What comes of updates with these frame times, one after the other, on one session. -/
def updates (bridge : Bridge) (p : Player (Builtin τ)) (scopes : Scopes) :
    List τ → Outcome (Builtin τ) τ
  | [] => ⟨p, scopes, []⟩
  | delta :: rest =>
    let o := p.update Builtin.repertoire ⟨scopes, bridge⟩ delta
    (updates bridge o.player o.scopes rest).after o.events

theorem exists_path_update (bridge : Bridge) {p : Player (Builtin τ)} {scopes : Scopes}
    {s : Scene τ} (hfits : s.Fits p scopes) (delta : τ) :
    let o := p.update Builtin.repertoire ⟨scopes, bridge⟩ delta
    ∃ s', Scene.Path bridge s (observations o.events) s' ∧ s'.Fits o.player o.scopes := by
  intro o
  let f : Frame (Builtin τ) τ := ⟨Builtin.repertoire, ⟨scopes, bridge⟩, delta⟩
  have ho : o = p.advance f := rfl
  have hnotices := observations_deltaNotices delta
  obtain ⟨spot, stage⟩ := s
  have hsound := hfits.isSound
  obtain ⟨hspot, rfl⟩ := id hfits
  cases spot with
  | due asset next last? =>
    obtain ⟨rest, hcourse, heq⟩ := advance_of_poised hspot f
    obtain ⟨s₁, hmade, hfits₁⟩ := exists_step_begin bridge scopes hspot
    obtain ⟨s', hpath, hfits'⟩ := hcourse.exists_path rfl hfits₁
    refine ⟨s', ?_, by rwa [ho, heq]⟩
    rw [ho, heq, Outcome.after, observations_append, observations_append, hnotices]
    exact .cons hmade hpath
  | live asset d fresh =>
    obtain ⟨-, b, hphase, -⟩ := id hspot
    obtain ⟨rest, hcourse, heq⟩ := advance_of_active hsound hphase f
    obtain ⟨s', hpath, hfits'⟩ := hcourse.exists_path rfl hfits
    refine ⟨s', ?_, by rwa [ho, heq]⟩
    rw [ho, heq, Outcome.after, observations_append, hnotices]
    exact hpath
  | ended report =>
    rw [ho, advance_of_idle hspot.1]
    exact ⟨_, .nil _, hfits⟩

theorem exists_path_updates (bridge : Bridge) {p : Player (Builtin τ)} {scopes : Scopes}
    {s : Scene τ} (hfits : s.Fits p scopes) (deltas : List τ) :
    let o := p.updates bridge scopes deltas
    ∃ s', Scene.Path bridge s (observations o.events) s' ∧ s'.Fits o.player o.scopes := by
  induction deltas generalizing p scopes s with
  | nil => exact ⟨s, .nil s, hfits⟩
  | cons delta rest ih =>
    obtain ⟨s₁, hpath, hfits₁⟩ := exists_path_update bridge hfits delta
    obtain ⟨s', hmore, hfits'⟩ := ih hfits₁
    refine ⟨s', ?_, hfits'⟩
    rw [updates, Outcome.after, observations_append]
    exact hpath.append hmore

end Player

theorem Scene.Fits.ended {s : Scene τ} {p : Player (Builtin τ)} {scopes : Scopes}
    (h : s.Fits p scopes) (hover : p.isPlaying = false) :
    ∃ report, s.spot = .ended report ∧ p.report? = some report := by
  obtain ⟨hspot, -⟩ := h
  cases hs : s.spot with
  | due asset next last? =>
    simp only [hs, Spot.Fits] at hspot
    rw [Player.isPlaying_of_poised hspot] at hover
    cases hover
  | live asset d fresh =>
    simp only [hs, Spot.Fits] at hspot
    obtain ⟨-, b, hphase, -⟩ := hspot
    rw [Player.isPlaying_of_active hphase] at hover
    cases hover
  | ended report =>
    simp only [hs, Spot.Fits] at hspot
    exact ⟨report, rfl, hspot.2⟩

namespace Player

/-- **What a flow of built-in actions does from a seeded start does not depend on its schedule.**
Two players, each with a limit of its own, start it alike and are updated by any frame times. The
instances that one of them makes, each with the stage on which it is made, and what is said to its
session, begin with those of the other; and if both runs are over, they have ended alike. -/
theorem updates_are_independent_of_schedule {asset : Asset} {options : StartOptions} {seed : UInt64}
    (hseed : options.seed? = some seed) {p₁ p₂ started₁ started₂ : Player (Builtin τ)}
    {told₁ told₂ : List (Event τ)} (hstart₁ : p₁.start asset options = .ok (started₁, told₁))
    (hstart₂ : p₂.start asset options = .ok (started₂, told₂)) (bridge : Bridge) (scopes : Scopes)
    (deltas₁ deltas₂ : List τ) :
    let o₁ := started₁.updates bridge scopes deltas₁
    let o₂ := started₂.updates bridge scopes deltas₂
    (observations o₁.events <+: observations o₂.events ∨
      observations o₂.events <+: observations o₁.events) ∧
    (o₁.player.isPlaying = false → o₂.player.isPlaying = false →
      observations o₁.events = observations o₂.events ∧
      o₁.player.bindings = o₂.player.bindings ∧ o₁.player.report? = o₂.player.report? ∧
      o₁.scopes = o₂.scopes) := by
  intro o₁ o₂
  obtain ⟨id, hid, hpoised₁⟩ := exists_poise_of_start hstart₁
  obtain ⟨id', hid', hpoised₂⟩ := exists_poise_of_start hstart₂
  obtain rfl : id = id' := Except.ok.inj (hid.symm.trans hid')
  -- Nothing but the scopes and the options of the start goes into the first scene.
  let s : Scene τ :=
    ⟨.due asset id none, ⟨asset.bindings.merge options.bindings, scopes, .ofSeed seed⟩⟩
  have hfits {p started : Player (Builtin τ)}
      (hpoised : started = (p.stop (τ := τ)).1.poise asset options id) : s.Fits started scopes := by
    rw [hpoised]
    refine ⟨rfl, ?_⟩
    simp only [stage, poise, hseed, s]
  obtain ⟨s₁, hpath₁, hfits₁⟩ := exists_path_updates bridge (hfits hpoised₁) deltas₁
  obtain ⟨s₂, hpath₂, hfits₂⟩ := exists_path_updates bridge (hfits hpoised₂) deltas₂
  refine ⟨?_, fun hover₁ hover₂ => ?_⟩
  · rcases hpath₁.comparable hpath₂ with ⟨rest, hrest, -⟩ | ⟨rest, hrest, -⟩
    · exact .inl ⟨rest, hrest.symm⟩
    · exact .inr ⟨rest, hrest.symm⟩
  · obtain ⟨report₁, hspot₁, hreport₁⟩ := hfits₁.ended hover₁
    obtain ⟨report₂, hspot₂, hreport₂⟩ := hfits₂.ended hover₂
    obtain ⟨hseen, rfl⟩ := hpath₁.eq_of_both_ended hpath₂ hspot₁ hspot₂
    obtain rfl : report₁ = report₂ := Spot.ended.inj (hspot₁.symm.trans hspot₂)
    have hstage := hfits₁.stage_eq.trans hfits₂.stage_eq.symm
    exact ⟨hseen, congrArg Stage.bindings hstage, hreport₁.trans hreport₂.symm,
      congrArg Stage.scopes hstage⟩

/-- A flow that ends in one of two places by chance. -/
def toss : Asset where
  name := "toss"
  actions := [
    { id := "coin", type := "random_branch"
      links := [{ target := "head" }, { target := "tail" }] },
    { id := "head", type := "end" }, { id := "tail", type := "end" }]
  index := [("coin", 0), ("head", 1), ("tail", 2)]
  start? := some "coin"
  bindings := .empty
  consistent := Asset.isIndexOf_indexOf rfl

theorem updates_are_independent_of_schedule_in_toss :
    ∃ (slow quick : Player (Builtin Float32)) (told₁ told₂ : List (Event Float32)),
      (new { maxTransitions := 1 } 0).start toss { seed? := some 7 } = .ok (slow, told₁) ∧
      (new {} 1).start toss { seed? := some 7 } = .ok (quick, told₂) ∧
      (observations (slow.updates .standard [] [0, 0]).events
          <+: observations (quick.updates .standard [] [0.5]).events ∨
        observations (quick.updates .standard [] [0.5]).events
          <+: observations (slow.updates .standard [] [0, 0]).events) := by
  obtain ⟨slow, told₁, hslow⟩ : ∃ slow told, (new { maxTransitions := 1 } 0 :
      Player (Builtin Float32)).start (τ := Float32) toss { seed? := some 7 } = .ok (slow, told) :=
    ⟨_, _, rfl⟩
  obtain ⟨quick, told₂, hquick⟩ : ∃ quick told, (new {} 1 : Player (Builtin Float32)).start
      (τ := Float32) toss { seed? := some 7 } = .ok (quick, told) := ⟨_, _, rfl⟩
  refine ⟨slow, quick, told₁, told₂, hslow, hquick, ?_⟩
  exact (updates_are_independent_of_schedule rfl hslow hquick .standard [] [0, 0] [0.5]).1

end Player

end ActionGraph
