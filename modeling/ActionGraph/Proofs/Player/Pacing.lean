import ActionGraph.Proofs.Player.Timing

/-!
# Updates along the course

An update goes along the course of a flow for as long as the frame lasts: what the course takes
until the player comes to rest, and what has passed since, is the time that the player was given.
This is so if the links of the flow do not wait for the next frame, if the limit of transitions is
not reached, and if the sums and differences that the update comes upon are exact.
-/

namespace ActionGraph

open Clock (IsTime Measure)

variable {τ : Type}

/-- Whether an event says that the limit of transitions was reached. -/
def Event.isExhausted : Event τ → Bool
  | .said (.exhausted _ _ _) => true
  | _ => false

def HitsLimit (events : List (Event τ)) : Prop := ∃ e ∈ events, e.isExhausted = true

instance (events : List (Event τ)) : Decidable (HitsLimit events) :=
  inferInstanceAs (Decidable (∃ e ∈ events, e.isExhausted = true))

theorem hitsLimit_append {events more : List (Event τ)} :
    HitsLimit (events ++ more) ↔ HitsLimit events ∨ HitsLimit more := by
  simp only [HitsLimit, List.mem_append, or_and_right, exists_or]

theorem Outcome.hitsLimit_after {ι : Type} {o : Outcome ι τ} {events : List (Event τ)} :
    HitsLimit (o.after events).events ↔ HitsLimit events ∨ HitsLimit o.events :=
  hitsLimit_append

variable [Clock τ] {bridge : Bridge}

theorem Player.started_of_begin {p : Player (Builtin τ)} {scopes : Scopes} {asset asset' : Asset}
    {next id : ActionId} {b : Builtin τ}
    (h : (begin Builtin.repertoire bridge p scopes asset next).player.phase
      = .active asset' id b) : b.started = b := by
  rcases begin_cases Builtin.repertoire bridge p scopes asset next with
    ⟨complaint, -, hbegin⟩ | ⟨d, made, -, -, hbegin⟩
  · rw [hbegin] at h
    exact nomatch h
  · rw [hbegin] at h
    cases h
    exact Builtin.started_started made

/-- A turn of a run: the first one, or one that follows in the same update. -/
inductive Turn.Occurs {ι : Type} (t' : Turn ι τ) :
    Repertoire ι τ → Bridge → Nat → τ → Player ι → Scopes → Prop
  | first {more : Nat} :
    Turn.Occurs t' t'.repertoire t'.bridge more t'.remaining t'.player t'.scopes
  | later (t : Turn ι τ) {more : Nat} {next : ActionId} (hdecision : t.decision = .go next false)
      (hrest : Turn.Occurs t' t.repertoire t.bridge more t.played.result.2.remaining
        (t.arrival next).player (t.arrival next).scopes) :
    Turn.Occurs t' t.repertoire t.bridge (more + 1) t.remaining t.player t.scopes

variable [Measure τ]

/-! ### Turns -/

theorem exists_step_begin_isShown (bridge : Bridge) {p : Player (Builtin τ)} (scopes : Scopes)
    {asset : Asset} {next : ActionId} {last? : Option ActionId}
    (hphase : p.phase = .poised asset next last?) :
    let o : Outcome (Builtin τ) τ := p.begin Builtin.repertoire bridge scopes asset next
    ∃ seen s', Scene.Step bridge ⟨.due asset next last?, p.stage scopes⟩ seen s' ∧
      s'.IsShown o.player o.scopes 0 := by
  intro o
  obtain ⟨s', hstep, hfits⟩ := exists_step_begin bridge scopes hphase
  generalize observations _ = seen at hstep
  refine ⟨seen, s', hstep, ?_, hfits.stage_eq⟩
  obtain ⟨hspot, -⟩ := hfits
  have htimely := hstep.isTimely
  cases hstep with
  | miss | refuse => exact ⟨hspot.1, hspot.2, le_refl 0⟩
  | make hknown hmake =>
    obtain ⟨hd, b, hactive, hfresh⟩ := hspot
    have hstarted := Player.started_of_begin hactive
    rw [Spot.IsTimely, ← hfresh, hstarted] at htimely
    exact ⟨hd, b, hactive, hfresh, hstarted ▸ Builtin.hasPassed_started htimely⟩

namespace Turn

/-- Whether the sums and differences are exact that a turn comes upon. -/
def IsExact (t : Turn (Builtin τ) τ) : Prop := t.live.IsExact t.context t.decision

variable {t : Turn (Builtin τ) τ} {s : Scene τ} {e : ℚ} {next : ActionId}

theorem value_context (h : IsTime t.remaining) :
    IsTime t.context.remaining ∧ Measure.value t.context.remaining = Measure.value t.remaining :=
  ⟨Measure.isTime_floor h.1, Measure.value_floor h⟩

theorem hasPassed (h : s.IsShown t.player t.scopes e) : t.live.HasPassed e := by
  obtain rfl := h.fits.eq_of_turn
  obtain ⟨-, b, hphase, -, hpassed⟩ := h.spot_shown
  have hsame := t.phase_eq.symm.trans hphase
  simp only [Phase.active.injEq, true_and] at hsame
  exact hsame ▸ hpassed

theorem lingers_of_stay {complaint? : Option String}
    (hrepertoire : t.repertoire = Builtin.repertoire) (hdecision : t.decision = .stay complaint?)
    (hexact : t.IsExact) (htime : IsTime t.remaining) (hpassed : t.live.HasPassed e) :
    t.heir.Lingers (e + Measure.value t.remaining) := by
  obtain ⟨hcontext, hvalue⟩ := value_context htime
  rw [IsExact, hdecision] at hexact
  rw [decision, played, hrepertoire] at hdecision
  rw [heir, played, hrepertoire, ← hvalue]
  exact Builtin.lingers_of_stay hpassed hcontext hdecision hexact

theorem elapsed_eq (hrepertoire : t.repertoire = Builtin.repertoire)
    (hleaves : ∀ complaint?, t.decision ≠ .stay complaint?) (hpassed : t.live.HasPassed e) :
    t.live.elapsed = e := by
  refine hpassed.elapsed_eq fun hretrying => ?_
  rcases t.settles hrepertoire with ⟨complaint?, hstays, -⟩ | hsettle
  · exact hleaves complaint? hstays
  · rw [Builtin.settle_started, hretrying.settle_eq] at hsettle
    exact nomatch hsettle

/-- An instance that stays no longer has waited for as long as it should. -/
theorem duration_le (hrepertoire : t.repertoire = Builtin.repertoire)
    (hleaves : ∀ complaint?, t.decision ≠ .stay complaint?) (hexact : t.IsExact)
    (htime : IsTime t.remaining) (hpassed : t.live.HasPassed e) :
    t.live.duration ≤ e + Measure.value t.remaining := by
  obtain ⟨hcontext, hvalue⟩ := value_context htime
  have hdecision : (t.live.update t.bridge t.descriptor (t.player.stage t.scopes)
      t.context).result.2.decision = t.decision := by
    rw [decision, played, hrepertoire]
    rfl
  rw [← elapsed_eq hrepertoire hleaves hpassed, ← hvalue]
  exact Builtin.needed_le hpassed.timely hcontext hdecision hleaves hexact

/-- What is handed on is what is left of the time. -/
theorem value_remaining (hrepertoire : t.repertoire = Builtin.repertoire) {yields : Bool}
    (hdecision : t.decision = .go next yields) (hexact : t.IsExact)
    (htime : IsTime t.remaining) (hpassed : t.live.HasPassed e) :
    IsTime t.played.result.2.remaining ∧
      t.live.duration + Measure.value t.played.result.2.remaining
        = e + Measure.value t.remaining := by
  obtain ⟨hcontext, hvalue⟩ := value_context htime
  have hleaves (complaint? : Option String) : t.decision ≠ .stay complaint? := by simp [hdecision]
  have helapsed := elapsed_eq hrepertoire hleaves hpassed
  rw [IsExact, hdecision] at hexact
  rw [decision, played, hrepertoire] at hdecision
  rw [played, hrepertoire, ← helapsed, ← hvalue]
  exact Builtin.value_remaining_of_go hpassed.timely hcontext hdecision hexact

theorem rests_of_stay (hrepertoire : t.repertoire = Builtin.repertoire)
    {complaint? : Option String} (hdecision : t.decision = .stay complaint?) (hexact : t.IsExact)
    (htime : IsTime t.remaining) (hshown : s.IsShown t.player t.scopes e) :
    s.Rests t.seated t.played.stage.scopes (e + Measure.value t.remaining) := by
  have hlingers := lingers_of_stay hrepertoire hdecision hexact htime (hasPassed hshown)
  obtain rfl := hshown.fits.eq_of_turn
  refine ⟨⟨⟨t.find?_eq, t.heir, rfl, t.heir_started hrepertoire, hlingers.toHasPassed⟩, ?_⟩, ?_⟩
  · rcases t.settles hrepertoire with ⟨_, -, hstage, -⟩ | hsettle
    · exact hstage
    · exact absurd hdecision (Builtin.result_ne_stay_of_settle hsettle _)
  · intro asset id b hphase
    cases hphase
    exact hlingers

theorem exists_rest_of_closes (hrepertoire : t.repertoire = Builtin.repertoire)
    {withError : Bool} (hdecision : t.decision.closes? = some withError) (hexact : t.IsExact)
    (htime : IsTime t.remaining) (hshown : s.IsShown t.player t.scopes e) :
    ∃ last e', Scene.Lasts t.bridge s t.live.duration last ∧
      last.Rests (t.seated.ended withError) t.played.stage.scopes e' ∧
      t.live.duration + e' = e + Measure.value t.remaining := by
  have hleaves (complaint? : Option String) : t.decision ≠ .stay complaint? := by
    intro hstays
    simp [hstays, Decision.closes?] at hdecision
  have hle := duration_le hrepertoire hleaves hexact htime (hasPassed hshown)
  obtain rfl := hshown.fits.eq_of_turn
  have hsettle := t.settle_of_closes hrepertoire hdecision
  have hclose : Scene.Step t.bridge ⟨.live t.asset t.descriptor t.live.started, _⟩ _
      ⟨.ended (t.seated.closing withError), t.played.stage⟩ := .close hsettle hdecision
  have hlasts := hclose.lasts
  rw [Spot.duration, Builtin.duration_started] at hlasts
  refine ⟨_, e + Measure.value t.remaining - t.live.duration, hlasts, ⟨⟨?_, rfl⟩, ?_⟩,
    add_sub_cancel _ _⟩
  · exact ⟨rfl, rfl, sub_nonneg.2 hle⟩
  · intro asset id b hphase
    cases hphase

/-- A turn that goes on leaves its scene, and the rest of the time to the scene that follows. -/
theorem exists_shown_of_go (hrepertoire : t.repertoire = Builtin.repertoire)
    (hdecision : t.decision = .go next false) (hshown : s.IsShown t.player t.scopes e)
    (hyields : s.spot.NeverYields) :
    ∃ s', Scene.Lasts t.bridge s t.live.duration s' ∧
      s'.IsShown (t.arrival next).player (t.arrival next).scopes 0 ∧ s'.spot.NeverYields := by
  obtain rfl := hshown.fits.eq_of_turn
  have hleave := t.step_of_go hrepertoire hdecision
  obtain ⟨seen, s', hmade, hshown'⟩ := exists_step_begin_isShown t.bridge t.played.stage.scopes
    (rfl : (t.departed next).phase = .poised t.asset next (some t.descriptor.id))
  have hlasts := hleave.lasts.append hmade.lasts
  rw [Spot.duration, Spot.duration, add_zero, Builtin.duration_started] at hlasts
  refine ⟨s', hlasts, ?_, hmade.neverYields (hleave.neverYields hyields)⟩
  rw [arrival, hrepertoire]
  exact hshown'

theorem ne_yield (hrepertoire : t.repertoire = Builtin.repertoire)
    (hshown : s.IsShown t.player t.scopes e) (hyields : s.spot.NeverYields) :
    t.decision ≠ .go next true := by
  intro hdecision
  obtain rfl := hshown.fits.eq_of_turn
  rcases t.settles hrepertoire with ⟨complaint?, hstays, -⟩ | hsettle
  · simp [hstays] at hdecision
  · obtain ⟨link, hlink, -, hwaits⟩ := Builtin.exists_link_of_settle hsettle hdecision
    have hnever := hyields t.descriptor (Asset.mem_of_find? t.find?_eq) link hlink
    rw [hwaits] at hnever
    exact nomatch hnever

end Turn

/-! ### Updates -/

/-- **A run goes along the course for as long as it has time, and then it rests.** -/
theorem Course.exists_rest {r : Repertoire (Builtin τ) τ} {more : Nat} {remaining : τ}
    {p : Player (Builtin τ)} {scopes : Scopes} {o : Outcome (Builtin τ) τ}
    (h : Course r bridge more remaining p scopes o) (hrepertoire : r = Builtin.repertoire)
    (hlimit : ¬HitsLimit o.events)
    (hexact : ∀ t : Turn (Builtin τ) τ, t.Occurs r bridge more remaining p scopes → t.IsExact)
    (htime : IsTime remaining) {s : Scene τ} {e : ℚ} (hshown : s.IsShown p scopes e)
    (hyields : s.spot.NeverYields) :
    ∃ t last e', Scene.Lasts bridge s t last ∧ last.Rests o.player o.scopes e' ∧
      t + e' = e + Measure.value remaining := by
  induction h generalizing s e with
  | rest hrest =>
    have hlater : e ≤ e + _ := le_add_of_nonneg_right (Measure.value_nonneg htime)
    exact ⟨0, s, _, .nil s, hshown.rests hrest hlater, zero_add _⟩
  | stay t hdecision =>
    have hrests := t.rests_of_stay hrepertoire hdecision (hexact t .first) htime hshown
    exact ⟨0, s, _, .nil s, hrests, zero_add _⟩
  | close t hdecision =>
    obtain ⟨last, e', hrest⟩ :=
      t.exists_rest_of_closes hrepertoire hdecision (hexact t .first) htime hshown
    exact ⟨_, last, e', hrest⟩
  | yield t hdecision => exact absurd hdecision (t.ne_yield hrepertoire hshown hyields)
  | exhaust t hdecision =>
    exact absurd (hitsLimit_append.2 (.inr ⟨_, List.mem_cons_self, rfl⟩)) hlimit
  | @go more t next o hdecision hrest ih =>
    have hpassed := t.hasPassed hshown
    obtain ⟨hleft, hvalue⟩ :=
      t.value_remaining hrepertoire hdecision (hexact t .first) htime hpassed
    obtain ⟨s', hlasts, hshown', hyields'⟩ :=
      t.exists_shown_of_go hrepertoire hdecision hshown hyields
    have hlimit' : ¬HitsLimit o.events := fun hlater =>
      hlimit (Outcome.hitsLimit_after.2 (.inr hlater))
    obtain ⟨u, last, e', hmore, hrests, htotal⟩ := ih hrepertoire hlimit'
      (fun t' hoccurs => hexact t' (.later t hdecision hoccurs)) hleft hshown' hyields'
    refine ⟨_, last, e', hlasts.append hmore, hrests, ?_⟩
    linarith

namespace Player

/-- A turn of an update. -/
def Undergoes (p : Player (Builtin τ)) (f : Frame (Builtin τ) τ) (t : Turn (Builtin τ) τ) : Prop :=
  let begun : Outcome (Builtin τ) τ := match p.phase with
    | .poised asset next _ => p.embarked asset next f
    | _ => ⟨p, f.session.scopes, []⟩
  t.Occurs f.repertoire f.session.bridge p.spare (Clock.orZero f.delta) begun.player begun.scopes

/-- Whether all sums and differences in these updates are exact. -/
def IsExact (bridge : Bridge) (p : Player (Builtin τ)) (scopes : Scopes) : List τ → Prop
  | [] => True
  | delta :: rest =>
    (∀ t, p.Undergoes ⟨Builtin.repertoire, ⟨scopes, bridge⟩, delta⟩ t → t.IsExact) ∧
      let o := p.update Builtin.repertoire ⟨scopes, bridge⟩ delta
      IsExact bridge o.player o.scopes rest

/-- How much time these updates give to a player. -/
def total (deltas : List τ) : ℚ := (deltas.map fun delta => Measure.value (Clock.orZero delta)).sum

variable {p : Player (Builtin τ)} {scopes : Scopes} {s : Scene τ} {e : ℚ} {delta : τ}

/-- An update that makes the action that is due goes on from there. -/
theorem exists_rest_of_poised {asset : Asset} {next : ActionId} {last? : Option ActionId}
    (hphase : p.phase = .poised asset next last?) (hyields : asset.NeverYields)
    (hlimit : ¬HitsLimit (p.update Builtin.repertoire ⟨scopes, bridge⟩ delta).events)
    (hexact : ∀ t, p.Undergoes ⟨Builtin.repertoire, ⟨scopes, bridge⟩, delta⟩ t → t.IsExact) :
    let o := p.update Builtin.repertoire ⟨scopes, bridge⟩ delta
    ∃ t last e', Scene.Lasts bridge ⟨.due asset next last?, p.stage scopes⟩ t last ∧
      last.Rests o.player o.scopes e' ∧ t + e' = Measure.value (Clock.orZero delta) := by
  intro o
  let f : Frame (Builtin τ) τ := ⟨Builtin.repertoire, ⟨scopes, bridge⟩, delta⟩
  obtain ⟨rest, hcourse, heq⟩ := advance_of_poised hphase f
  have ho : o = rest.after _ := heq
  obtain ⟨seen, s', hmade, hshown⟩ := exists_step_begin_isShown bridge scopes hphase
  change ¬HitsLimit o.events at hlimit
  rw [ho, Outcome.hitsLimit_after, not_or] at hlimit
  simp only [Undergoes, hphase] at hexact
  obtain ⟨t, last, e', hlasts, hrests, htotal⟩ := hcourse.exists_rest rfl hlimit.2 hexact
    (Clock.isTime_orZero delta) hshown (hmade.neverYields hyields)
  have hpath := hmade.lasts.append hlasts
  rw [Spot.duration, zero_add] at hpath
  rw [zero_add] at htotal
  refine ⟨t, last, e', hpath, ?_, htotal⟩
  rw [ho]
  exact hrests

/-- An update goes on from where the player rests. -/
theorem exists_rest_of_rests (hrests : s.Rests p scopes e) (hyields : s.spot.NeverYields)
    (hlimit : ¬HitsLimit (p.update Builtin.repertoire ⟨scopes, bridge⟩ delta).events)
    (hexact : ∀ t, p.Undergoes ⟨Builtin.repertoire, ⟨scopes, bridge⟩, delta⟩ t → t.IsExact) :
    let o := p.update Builtin.repertoire ⟨scopes, bridge⟩ delta
    ∃ t last e', Scene.Lasts bridge s t last ∧ last.Rests o.player o.scopes e' ∧
      t + e' = e + Measure.value (Clock.orZero delta) := by
  intro o
  let f : Frame (Builtin τ) τ := ⟨Builtin.repertoire, ⟨scopes, bridge⟩, delta⟩
  have htime := Clock.isTime_orZero delta
  have hsound := hrests.fits.isSound
  rcases hsound.cases with hphase | ⟨asset, next, last?, hphase⟩ | ⟨asset, d, live, hphase, -⟩
  · have ho : o = ⟨p, scopes, []⟩ := advance_of_idle hphase f
    have hlater : e ≤ e + Measure.value (Clock.orZero delta) :=
      le_add_of_nonneg_right (Measure.value_nonneg htime)
    have hrest : p.current? = none := by simp only [current?, hphase, Phase.current?]
    rw [ho]
    exact ⟨0, s, _, .nil s, hrests.rests hrest hlater, zero_add _⟩
  · exact (hrests.ne_poised hphase).elim
  · obtain ⟨rest, hcourse, heq⟩ := advance_of_active hsound hphase f
    have ho : o = rest.after _ := heq
    change ¬HitsLimit o.events at hlimit
    rw [ho, Outcome.hitsLimit_after, not_or] at hlimit
    simp only [Undergoes, hphase] at hexact
    rw [ho]
    exact hcourse.exists_rest rfl hlimit.2 hexact htime hrests.toIsShown hyields

/-- Updates go on from where the player rests. -/
theorem exists_rest_of_updates (hrests : s.Rests p scopes e) (hyields : s.spot.NeverYields)
    {deltas : List τ} (hlimit : ¬HitsLimit (p.updates bridge scopes deltas).events)
    (hexact : p.IsExact bridge scopes deltas) :
    let o := p.updates bridge scopes deltas
    ∃ t last e', Scene.Lasts bridge s t last ∧ last.Rests o.player o.scopes e' ∧
      t + e' = e + total deltas := by
  induction deltas generalizing p scopes s e with
  | nil => exact ⟨0, s, e, .nil s, hrests, by simp [total]⟩
  | cons delta rest ih =>
    obtain ⟨hfirst, hrest⟩ := hexact
    rw [updates, Outcome.hitsLimit_after, not_or] at hlimit
    obtain ⟨t, s', e', hlasts, hrests', htotal⟩ :=
      exists_rest_of_rests hrests hyields hlimit.1 hfirst
    obtain ⟨u, last, e'', hmore, hrests'', htotal'⟩ :=
      ih hrests' (hlasts.neverYields hyields) hlimit.2 hrest
    refine ⟨_, last, e'', hlasts.append hmore, hrests'', ?_⟩
    rw [total, List.map_cons, List.sum_cons, ← total]
    linarith

/-- **Updates from the start of a flow go along its course for as long as they have time.** -/
theorem exists_rest_of_start {asset : Asset} {next : ActionId} {last? : Option ActionId}
    (hphase : p.phase = .poised asset next last?) (hyields : asset.NeverYields) {deltas : List τ}
    (hsome : deltas ≠ []) (hlimit : ¬HitsLimit (p.updates bridge scopes deltas).events)
    (hexact : p.IsExact bridge scopes deltas) :
    let o := p.updates bridge scopes deltas
    ∃ t last e, Scene.Lasts bridge ⟨.due asset next last?, p.stage scopes⟩ t last ∧
      last.Rests o.player o.scopes e ∧ t + e = total deltas := by
  cases deltas with
  | nil => exact absurd rfl hsome
  | cons delta rest =>
    obtain ⟨hfirst, hrest⟩ := hexact
    rw [updates, Outcome.hitsLimit_after, not_or] at hlimit
    obtain ⟨t, s, e, hlasts, hrests, htotal⟩ :=
      exists_rest_of_poised hphase hyields hlimit.1 hfirst
    obtain ⟨u, last, e', hmore, hrests', htotal'⟩ :=
      exists_rest_of_updates hrests (hlasts.neverYields hyields) hlimit.2 hrest
    refine ⟨_, last, e', hlasts.append hmore, hrests', ?_⟩
    rw [total, List.map_cons, List.sum_cons, ← total]
    linarith

end Player

end ActionGraph
