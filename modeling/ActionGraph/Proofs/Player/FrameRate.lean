import ActionGraph.Proofs.Player.Pacing
import ActionGraph.Proofs.Player.Waits

/-!
# Flows and the frame rate

How far a flow has come depends on the time that it was given, and not on the frames into which the
time was divided. Every way of dividing it goes along the one course of the flow, and there is one
place where the course rests after that time.
-/

namespace ActionGraph

open Clock (Measure)

/-! ### Rational times -/

theorem Turn.isExact_rat (t : Turn (Builtin ℚ) ℚ) : t.IsExact :=
  ⟨fun _ => Clock.isExactDifference_rat _ _, fun _ _ => Clock.isExactSum_rat _ _,
    fun _ => Clock.isExactDifference_rat _ _⟩

theorem Player.isExact_rat {bridge : Bridge} (p : Player (Builtin ℚ)) (scopes : Scopes)
    (deltas : List ℚ) : p.IsExact bridge scopes deltas := by
  induction deltas generalizing p scopes with
  | nil => trivial
  | cons delta rest ih => exact ⟨fun t _ => t.isExact_rat, ih _ _⟩

/-! ### Any frame rate -/

variable {τ : Type} [Clock τ] [Measure τ]

namespace Player

/-- Whether a player was started like this, and no update stops short of its frame time: there is an
update, none reaches the limit of transitions, and all sums and differences are exact. -/
structure KeepsTime (p : Player (Builtin τ)) (asset : Asset) (options : StartOptions)
    (bridge : Bridge) (scopes : Scopes) (deltas : List τ) : Prop where
  start : ∃ (before : Player (Builtin τ)) (told : List (Event τ)),
    before.start asset options = .ok (p, told)
  some : deltas ≠ []
  limit : ¬HitsLimit (p.updates bridge scopes deltas).events
  exact : p.IsExact bridge scopes deltas

/-- Whether two players have come as far as each other: both runs are over, with the same report, or
both have the same action as their current one, and it has waited for the same time in both. -/
def IsAsFarAs (p q : Player (Builtin τ)) : Prop :=
  (∃ report, p.phase = .idle ∧ q.phase = .idle ∧ p.report? = some report ∧
    q.report? = some report) ∨
  ∃ asset id b b', p.phase = .active asset id b ∧ q.phase = .active asset id b' ∧
    b.started = b'.started ∧ b.elapsed = b'.elapsed

variable {bridge : Bridge} {scopes scopes' : Scopes} {p q : Player (Builtin τ)} {s : Scene τ}
  {e : ℚ}

theorem isAsFarAs_of_rests (hp : s.Rests p scopes e) (hq : s.Rests q scopes' e) :
    p.IsAsFarAs q := by
  obtain ⟨spot, stage⟩ := s
  have hspot := hp.spot_shown
  have hspot' := hq.spot_shown
  cases spot with
  | due asset next last? => exact hspot.elim
  | live asset d fresh =>
    obtain ⟨-, b, hphase, hfresh, hpassed⟩ := hspot
    obtain ⟨-, b', hphase', hfresh', hpassed'⟩ := hspot'
    have hsame : b.started = b'.started := hfresh.trans hfresh'.symm
    exact .inr ⟨asset, d.id, b, b', hphase, hphase', hsame, hpassed.elapsed_congr hpassed' hsame⟩
  | ended report => exact .inl ⟨report, hspot.1, hspot'.1, hspot.2.1, hspot'.2.1⟩

/-- **What a flow comes to does not depend on the frame rate.** Two players start the same flow with
random choices from one seed, and are given the same time in frames of any number and length. Then
the one has come as far as the other, and their variables are equal. In a chain of waits the flow is
past the first ones as soon as it has had time for all of them. -/
theorem updates_are_independent_of_frame_rate {asset : Asset} (hyields : asset.NeverYields)
    {options : StartOptions} (hseed : options.seed?.isSome ∨ p.rng = q.rng)
    {deltas deltas' : List τ} (hp : p.KeepsTime asset options bridge scopes deltas)
    (hq : q.KeepsTime asset options bridge scopes deltas') (htime : total deltas = total deltas') :
    let o := p.updates bridge scopes deltas
    let o' := q.updates bridge scopes deltas'
    (o.player.IsAsFarAs o'.player ∧ o.player.bindings = o'.player.bindings ∧
      o.scopes = o'.scopes) ∧
    ∀ (first : Descriptor × τ) (rest : List (Descriptor × τ)), asset.IsChain (first :: rest) →
      resolveStart asset options = .ok first.1.id → ∀ k,
        ((∀ w ∈ (first :: rest).take k, o.player.current? ≠ some w.1.id) ↔
          (((first :: rest).take k).map fun w => Measure.value w.2).sum ≤ total deltas) := by
  intro o o'
  obtain ⟨before, told, hstart⟩ := hp.start
  obtain ⟨before', told', hstart'⟩ := hq.start
  obtain ⟨id, hid, hpoised⟩ := exists_poise_of_start hstart
  obtain ⟨id', hid', hpoised'⟩ := exists_poise_of_start hstart'
  obtain rfl : id = id' := Except.ok.inj (hid.symm.trans hid')
  have hrng : p.rng = q.rng := by
    rcases hseed with hsome | hsame
    · obtain ⟨seed, hseed⟩ := Option.isSome_iff_exists.1 hsome
      rw [hpoised, hpoised']
      simp only [poise, hseed]
    · exact hsame
  have hstage : p.stage scopes = q.stage scopes := by
    rw [stage, stage, hrng, hpoised, hpoised']
    rfl
  have hphase : p.phase = .poised asset id none := by rw [hpoised]; rfl
  have hphase' : q.phase = .poised asset id none := by rw [hpoised']; rfl
  obtain ⟨t, last, e, hlasts, hrests, htotal⟩ :=
    exists_rest_of_start hphase hyields hp.some hp.limit hp.exact
  obtain ⟨t', last', e', hlasts', hrests', htotal'⟩ :=
    exists_rest_of_start hphase' hyields hq.some hq.limit hq.exact
  rw [← hstage] at hlasts'
  obtain ⟨rfl, rfl⟩ := hrests.unique hrests' hlasts hlasts' (by linarith)
  have hsame := hrests.stage_eq.trans hrests'.stage_eq.symm
  refine ⟨⟨isAsFarAs_of_rests hrests hrests', congrArg Stage.bindings hsame,
    congrArg Stage.scopes hsame⟩, fun first rest hchain hfirst k => ?_⟩
  obtain rfl : id = first.1.id := Except.ok.inj (hid.symm.trans hfirst)
  rw [← htotal]
  exact hchain.past_iff hlasts hrests k

def longWait : Descriptor where
  id := "long"
  type := "wait"
  params := .object [("seconds", .ofInt 2)]
  links := [{ target := "short" }]

def shortWait : Descriptor where
  id := "short"
  type := "wait"
  params := .object [("seconds", .ofInt 1)]
  links := [{ target := "done" }]

/-- Two waits and an end. -/
def stroll : Asset where
  name := "stroll"
  actions := [longWait, shortWait, { id := "done", type := "end" }]
  index := [("done", 2), ("long", 0), ("short", 1)]
  start? := some "long"
  bindings := .empty
  consistent := Asset.isIndexOf_indexOf rfl

/-- Every link of the stroll leads nearer to its end. -/
def stepsLeft (id : ActionId) : Nat := if id = "long" then 2 else if id = "short" then 1 else 0

theorem stepsLeft_lt {id next : ActionId} (h : Relation.TransGen stroll.Leads id next) :
    stepsLeft next < stepsLeft id := by
  have hleads {id next : ActionId} (h : stroll.Leads id next) : stepsLeft next < stepsLeft id := by
    obtain ⟨d, hknown, link, hlink, rfl⟩ := h
    obtain rfl := Asset.id_of_find? hknown
    have hd := Asset.mem_of_find? hknown
    simp only [stroll, List.mem_cons, List.not_mem_nil, or_false] at hd
    rcases hd with rfl | rfl | rfl
    · obtain rfl := List.mem_singleton.1 hlink
      decide
    · obtain rfl := List.mem_singleton.1 hlink
      decide
    · exact nomatch hlink
  induction h with
  | single h => exact hleads h
  | tail _ h ih => exact Nat.lt_trans (hleads h) ih

theorem isChain_stroll : stroll.IsChain [(longWait, (2 : ℚ)), (shortWait, 1)] where
  known := by
    intro w hw
    simp only [List.mem_cons, List.not_mem_nil, or_false] at hw
    rcases hw with rfl | rfl <;> rfl
  makes := by
    intro w hw
    simp only [List.mem_cons, List.not_mem_nil, or_false] at hw
    rcases hw with rfl | rfl <;> exact ⟨rfl, rfl⟩
  linked := List.isChain_pair.2 rfl
  forward _ _ h := Nat.lt_irrefl _ (stepsLeft_lt h)

def strollOptions : StartOptions := { seed? := some 7 }

def strolling (config : PlayerConfig) : Player (Builtin ℚ) :=
  (new config 0).poise stroll strollOptions "long"

theorem updates_are_independent_of_frame_rate_in_stroll :
    let slow := strolling { maxTransitions := 3 }
    let quick := strolling {}
    slow.KeepsTime stroll strollOptions .standard [] [1, 3 / 2] ∧
    quick.KeepsTime stroll strollOptions .standard [] [5 / 2] ∧
    (slow.updates .standard [] [1, 3 / 2]).player.IsAsFarAs
      (quick.updates .standard [] [5 / 2]).player ∧
    (slow.updates .standard [] [1, 3 / 2]).player.current? ≠ some "long" := by
  intro slow quick
  have hslow : slow.KeepsTime stroll strollOptions .standard [] [1, 3 / 2] :=
    ⟨⟨new { maxTransitions := 3 } 0, _, rfl⟩, List.cons_ne_nil _ _, by decide +kernel,
      isExact_rat _ _ _⟩
  have hquick : quick.KeepsTime stroll strollOptions .standard [] [5 / 2] :=
    ⟨⟨new {} 0, _, rfl⟩, List.cons_ne_nil _ _, by decide +kernel, isExact_rat _ _ _⟩
  have hyields : stroll.NeverYields := by
    simp [Asset.NeverYields, stroll, longWait, shortWait]
  have htime : total [(1 : ℚ), 3 / 2] = total [(5 / 2 : ℚ)] := by decide +kernel
  obtain ⟨⟨hfar, -⟩, hchain⟩ :=
    updates_are_independent_of_frame_rate hyields (.inl rfl) hslow hquick htime
  -- After two seconds and a half the first wait is over, the second one is not.
  have henough : (([(longWait, (2 : ℚ)), (shortWait, 1)].take 1).map fun w =>
      Measure.value w.2).sum ≤ total [(1 : ℚ), 3 / 2] := by decide +kernel
  have hpast := (hchain _ _ isChain_stroll rfl 1).2 henough
  exact ⟨hslow, hquick, hfar, hpast _ List.mem_cons_self⟩

end Player

end ActionGraph
