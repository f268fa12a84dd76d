import ActionGraph.Player.Deck
import ActionGraph.Proofs.Player.Course

/-!
# A player and its fields

A phase of a player stands for the values of several fields. Here it is read back into them
(`Player.deck`), and every call is shown to come to the same on the fields as on the phase: the deck
behind the call is that of the player behind it, and the same happens (`deck_call`). So whatever is
proved of players is proved of decks.

Inside an update the fields lag behind the phase. When an instance is to be made, its id has been
taken out of the field for what is due, and the state may still be that of the action before; both
are written again on every way out, which is why `deck_begin` holds with any state.
-/

namespace ActionGraph

variable {ι τ : Type}

namespace Deck

variable {d : Deck ι}

/-- A live action is the last one of a run that is stopped, whichever field it is found in. -/
theorem stop_of_live {asset : Asset} {live : LiveAction ι} (hasset : d.asset? = some asset)
    (hcurrent : d.current? = some live) :
    d.stop = ((d.finish (τ := τ) false).1,
      .notice ⟨.debug, "cancelling live action", [("action", live.id)]⟩ :: .cancelled live.id ::
        (d.finish (τ := τ) false).2) := by
  cases d
  subst hasset hcurrent
  rfl

theorem stop_of_due {asset : Asset} (hasset : d.asset? = some asset)
    (hcurrent : d.current? = none) : d.stop = d.finish (τ := τ) false := by
  simp only [stop, hasset, hcurrent]

theorem stop_of_rest (hasset : d.asset? = none) : d.stop = (d, ([] : List (Event τ))) := by
  simp only [stop, hasset]

/-- A start is refused, or the run before it ends and the fields are set up for the next one. -/
theorem start_eq (d : Deck ι) (asset : Asset) (options : StartOptions) :
    d.start (τ := τ) asset options = (Player.resolveStart asset options).map fun id =>
      ((d.stop (τ := τ)).1.poise asset options id,
        (d.stop (τ := τ)).2 ++ Player.greeting asset id) := by
  rw [start]
  cases Player.resolveStart asset options <;> rfl

/-! ### Making an instance -/

section

variable (r : Repertoire ι τ) (bridge : Bridge) (d : Deck ι) (scopes : Scopes) {asset : Asset}
  {id : ActionId} {descriptor : Descriptor}

/-- What comes of an instance that is made and started. -/
def embark (descriptor : Descriptor) (made : ι) : Outcome ι τ :=
  let played := r.start bridge descriptor made (d.stage scopes)
  ⟨{ d.behind played.stage with
      last? := some descriptor.id
      current? := some ⟨descriptor.id, played.result⟩
      state := .active },
    played.stage.scopes,
    [.attempted descriptor.id, .made descriptor (d.stage scopes),
      .notice ⟨.debug, "action started", [("action", descriptor.id), ("kind", descriptor.type)]⟩,
      .started descriptor] ++ played.notes.map .noted⟩

theorem begin_of_unknown (hunknown : asset.find? id = none) :
    begin r bridge d scopes asset id = d.refuse scopes id (.unknown id asset.name) := by
  simp only [begin, hunknown]

theorem begin_of_unmade (hfind : asset.find? id = some descriptor) {e : FlowFault}
    (hmake : r.make descriptor.type descriptor = .error e) :
    begin r bridge d scopes asset id = d.refuse scopes id (.unmade id e) := by
  simp only [begin, hfind, hmake]

theorem begin_of_made (hfind : asset.find? id = some descriptor) {made : ι}
    (hmake : r.make descriptor.type descriptor = .ok made) :
    begin r bridge d scopes asset id = (true, d.embark r bridge scopes descriptor made) := by
  obtain rfl : descriptor.id = id := Asset.id_of_find? hfind
  simp only [begin, hfind, hmake]
  rfl

/-- An instance is refused, and the run ends with an error, or it is made and starts. -/
theorem begin_cases (asset : Asset) (id : ActionId) :
    (∃ complaint : Complaint, complaint.IsRefusal ∧
      begin r bridge d scopes asset id = d.refuse scopes id complaint) ∨
    ∃ descriptor made, asset.find? id = some descriptor ∧
      begin r bridge d scopes asset id = (true, d.embark r bridge scopes descriptor made) := by
  cases hfind : asset.find? id with
  | none => exact .inl ⟨.unknown id asset.name, trivial, begin_of_unknown r bridge d scopes hfind⟩
  | some descriptor =>
    cases hmake : r.make descriptor.type descriptor with
    | error e =>
      exact .inl ⟨.unmade id e, trivial, begin_of_unmade r bridge d scopes hfind hmake⟩
    | ok made =>
      exact .inr ⟨descriptor, made, rfl, begin_of_made r bridge d scopes hfind hmake⟩

end

/-! ### Updating the live instance -/

theorem complaints_eq (id : ActionId) (context : UpdateContext τ) :
    complaints id context = Player.complaints id context.decision := by
  obtain ⟨remaining, next?, error?, finished, yields⟩ := context
  cases finished <;> rcases error? with _ | message <;> cases next? <;> rfl

section

variable [Clock τ] {r : Repertoire ι τ} {bridge : Bridge} {asset : Asset} {limit transitions : Nat}
  {remaining : τ} {scopes : Scopes}

theorem loop_of_vanished {live : LiveAction ι} (hcurrent : d.current? = some live)
    (hfind : asset.find? live.id = none) :
    loop r bridge asset limit transitions remaining d scopes
      = ⟨(d.finish (τ := τ) true).1, scopes,
          .said (.vanished live.id asset.name) :: (d.finish (τ := τ) true).2⟩ := by
  rw [loop]
  simp only [hcurrent, hfind]

theorem loop_of_live {live : LiveAction ι} {descriptor : Descriptor} {context : UpdateContext τ}
    {visited : Deck ι} {scopes' : Scopes} {events : List (Event τ)}
    (hcurrent : d.current? = some live) (hfind : asset.find? live.id = some descriptor)
    (hvisit : d.visit r bridge scopes descriptor live remaining
      = (context, ⟨visited, scopes', events⟩)) :
    loop r bridge asset limit transitions remaining d scopes =
      match context.decision with
      | .stay _ => ⟨visited, scopes', events⟩
      | .finish => ⟨(visited.finish (τ := τ) false).1, scopes', events ++ (visited.finish false).2⟩
      | .fail _ => ⟨(visited.finish (τ := τ) true).1, scopes', events ++ (visited.finish true).2⟩
      | .go next yields =>
        let events := events ++ [.notice (Player.transitionNotice descriptor.id next yields)]
        if yields then ⟨visited.leave.suspend next, scopes', events⟩
        else if limit ≤ transitions + 1 then
          ⟨visited.leave.suspend next, scopes',
            events ++ [.said (.exhausted asset.name limit next)]⟩
        else
          let begun := begin r bridge visited.leave scopes' asset next
          if begun.1 then
            (loop r bridge asset limit (transitions + 1) context.remaining begun.2.deck
              begun.2.scopes).after (events ++ begun.2.events)
          else begun.2.after events := by
  rw [loop]
  simp only [hcurrent, hfind, hvisit]
  obtain ⟨remaining, next?, error?, finished, yields⟩ := context
  cases finished <;> rcases error? with _ | message <;> cases next? <;> rfl

end

/-! ### Calls -/

section

variable [Clock τ]

/-- The deck behind a call, and what happens in it. -/
def call (d : Deck ι) : Call ι τ → Deck ι × List (Event τ)
  | .start asset options =>
    match d.start asset options with
    | .ok started => started
    | .error _ => (d, [])
  | .stop => d.stop
  | .update f =>
    let o := d.update f.repertoire f.session f.delta
    (o.deck, o.events)

def after (d : Deck ι) (calls : List (Call ι τ)) : Deck ι :=
  calls.foldl (fun d c => (d.call c).1) d

@[simp] theorem after_cons (d : Deck ι) (c : Call ι τ) (calls : List (Call ι τ)) :
    d.after (c :: calls) = (d.call c).1.after calls := rfl

end

end Deck

/-! ### The fields of a phase -/

namespace Phase

def live? : Phase ι → Option (LiveAction ι)
  | .active _ id live => some ⟨id, live⟩
  | .idle | .poised _ _ _ | .finished => none

/-- The action that was live last in the run. -/
def latest? : Phase ι → Option ActionId
  | .active _ id _ => some id
  | .poised _ _ last? => last?
  | .idle | .finished => none

end Phase

namespace Player

/-- The fields of a player. -/
def deck (p : Player ι) : Deck ι where
  config := p.config
  asset? := p.asset?
  current? := p.phase.live?
  pending? := p.pending?
  last? := p.phase.latest?
  report? := p.report?
  state := p.state
  bindings := p.bindings
  rng := p.rng

theorem map_current?_deck (p : Player ι) : p.deck.current?.map LiveAction.id = p.current? := by
  cases h : p.phase <;> simp [deck, current?, h, Phase.live?, Phase.current?]

theorem deck_new (config : PlayerConfig) (seed : UInt64) :
    (new config seed : Player ι).deck = Deck.new config seed := rfl

section

variable {p : Player ι} {asset : Asset}

theorem asset?_deck_of_rest (h : p.phase = .idle ∨ p.phase = .finished) : p.deck.asset? = none := by
  rcases h with h | h <;> simp only [deck, asset?, h, Phase.asset?]

theorem deck_of_poised {next : ActionId} {last? : Option ActionId}
    (h : p.phase = .poised asset next last?) : p.deck =
      ⟨p.config, some asset, none, some next, last?, p.report?, p.state, p.bindings, p.rng⟩ := by
  simp only [deck, asset?, pending?, h, Phase.asset?, Phase.live?, Phase.pending?, Phase.latest?]

theorem deck_of_active {id : ActionId} {live : ι} (h : p.phase = .active asset id live) : p.deck =
    ⟨p.config, some asset, some ⟨id, live⟩, none, some id, p.report?, .active, p.bindings,
      p.rng⟩ := by
  simp only [deck, asset?, pending?, state, h, Phase.asset?, Phase.live?, Phase.pending?,
    Phase.latest?, Phase.state]

end

end Player

def Outcome.deck (o : Outcome ι τ) : Deck.Outcome ι τ := ⟨o.player.deck, o.scopes, o.events⟩

@[simp] theorem Outcome.deck_after (o : Outcome ι τ) (events : List (Event τ)) :
    (o.after events).deck = o.deck.after events := rfl

namespace Player

/-! ### Starting and stopping -/

theorem deck_finish (p : Player ι) (withError : Bool) :
    p.deck.finish withError = ((p.ended withError).deck, p.farewell (τ := τ) withError) := by
  have hlast : (p.deck.current?.map LiveAction.id).or (p.deck.last?.or p.deck.pending?)
      = p.phase.last? := by
    cases h : p.phase with
    | idle | finished | active =>
      simp [deck, pending?, h, Phase.live?, Phase.latest?, Phase.pending?, Phase.last?]
    | poised asset next last? => cases last? <;> simp [deck_of_poised h, Phase.last?]
  simp only [Deck.finish, hlast]
  rfl

theorem deck_stop (p : Player ι) :
    p.deck.stop = ((p.stop (τ := τ)).1.deck, (p.stop (τ := τ)).2) := by
  cases h : p.phase with
  | idle =>
    rw [Deck.stop_of_rest (asset?_deck_of_rest (.inl h))]
    simp only [stop, h]
  | finished =>
    rw [Deck.stop_of_rest (asset?_deck_of_rest (.inr h))]
    simp only [stop, h]
  | poised asset next last? =>
    have hdeck := deck_of_poised h
    rw [Deck.stop_of_due (by rw [hdeck]) (by rw [hdeck]), deck_finish, stop_of_poised h]
  | active asset id live =>
    have hdeck := deck_of_active h
    rw [Deck.stop_of_live (by rw [hdeck]) (by rw [hdeck]), deck_finish, stop_of_active h]

/-- A run is set up over fields without a live action. -/
theorem deck_poise {p : Player ι} (hrest : p.phase.live? = none) (asset : Asset)
    (options : StartOptions) (id : ActionId) :
    p.deck.poise asset options id = (p.poise asset options id).deck := by
  obtain ⟨start?, seed?, bindings⟩ := options
  simp only [Deck.poise, deck, hrest]
  cases seed? <;> rfl

theorem live?_stop (p : Player ι) : (p.stop (τ := τ)).1.phase.live? = none := by
  cases h : p.phase with
  | idle | finished => simp only [stop, h, Phase.live?]
  | poised | active =>
    simp only [stop, h, finish_eq]
    rfl

theorem deck_start (p : Player ι) (asset : Asset) (options : StartOptions) :
    p.deck.start asset options
      = (p.start (τ := τ) asset options).map fun started => (started.1.deck, started.2) := by
  rw [Deck.start_eq, start_eq]
  cases resolveStart asset options with
  | error e => rfl
  | ok id =>
    simp only [Except.map, deck_stop, deck_poise (live?_stop p)]

/-! ### Making an instance -/

section

variable (r : Repertoire ι τ) (bridge : Bridge) {p : Player ι} (scopes : Scopes) {asset : Asset}
  {next : ActionId} {last? : Option ActionId}

theorem deck_refuse (hpoised : p.phase = .poised asset next last?) (state : PlayerState)
    (complaint : Complaint) :
    ({ p.deck with pending? := none, state := state }).refuse scopes next complaint
      = (false, ((p.abort scopes complaint).after (τ := τ) [.attempted next]).deck) := by
  -- The id that is due is put back, and the state is written in any case.
  have hfinish : ({ p.deck with state := state, pending? := some next }).finish true
      = ((p.ended true).deck, p.farewell (τ := τ) true) := by
    rw [← deck_finish, deck_of_poised hpoised]
    rfl
  simp only [Deck.refuse, hfinish]
  rfl

/-- The state before an instance is made does not matter. -/
theorem deck_begin (hpoised : p.phase = .poised asset next last?) (state : PlayerState) :
    Deck.begin r bridge { p.deck with pending? := none, state := state } scopes asset next
      = ((begin r bridge p scopes asset next).player.current?.isSome,
        (begin r bridge p scopes asset next).deck) := by
  cases hfind : asset.find? next with
  | none =>
    rw [Deck.begin_of_unknown _ _ _ _ hfind, begin_of_unknown _ _ _ _ hfind,
      deck_refuse scopes hpoised]
    rfl
  | some d =>
    cases hmake : r.make d.type d with
    | error e =>
      rw [Deck.begin_of_unmade _ _ _ _ hfind hmake, begin_of_unmade _ _ _ _ hfind hmake,
        deck_refuse scopes hpoised]
      rfl
    | ok made =>
      rw [Deck.begin_of_made _ _ _ _ hfind hmake, begin_of_made _ _ _ _ hfind hmake]
      simp only [deck_of_poised hpoised]
      rfl

theorem exists_phase_of_begin {r : Repertoire ι τ} {bridge : Bridge} {p : Player ι}
    {scopes : Scopes} {asset : Asset} {next : ActionId}
    (hmade : (begin r bridge p scopes asset next).player.current?.isSome) :
    ∃ id live, (begin r bridge p scopes asset next).player.phase = .active asset id live := by
  rcases begin_cases r bridge p scopes asset next with
    ⟨complaint, -, hbegin⟩ | ⟨d, made, -, -, hbegin⟩
  · rw [hbegin] at hmade
    exact nomatch hmade
  · rw [hbegin]
    exact ⟨_, _, rfl⟩

end

/-! ### Updates -/

section

variable [Clock τ]

theorem deck_visit (t : Turn ι τ) :
    t.player.deck.visit t.repertoire t.bridge t.scopes t.descriptor ⟨t.descriptor.id, t.live⟩
        t.remaining
      = (t.played.result.2, ⟨t.seated.deck, t.played.stage.scopes, t.events⟩) := by
  simp only [Deck.visit, Deck.complaints_eq, deck_of_active t.phase_eq]
  rfl

theorem deck_suspend (t : Turn ι τ) (next : ActionId) :
    t.seated.deck.leave.suspend next = (t.departed next).deck := rfl

/-- When the next instance is made at once, the state has not been written yet. -/
theorem deck_arrival (t : Turn ι τ) (next : ActionId) :
    Deck.begin t.repertoire t.bridge t.seated.deck.leave t.played.stage.scopes t.asset next
      = ((t.arrival next).player.current?.isSome, (t.arrival next).deck) :=
  deck_begin t.repertoire t.bridge t.played.stage.scopes (p := t.departed next) rfl .active

/-- What comes behind the making of an instance: the loop, if it was made, and nothing otherwise. -/
theorem deck_after_begin {r : Repertoire ι τ} {bridge : Bridge} {asset : Asset}
    {limit transitions more : Nat} {remaining : τ} {begun : Outcome ι τ}
    (hloop : begun.player.current?.isSome →
      Deck.loop r bridge asset limit transitions remaining begun.player.deck begun.scopes
        = (run r bridge more remaining begun.player begun.scopes).deck)
    (events : List (Event τ)) :
    (if begun.player.current?.isSome then
        (Deck.loop r bridge asset limit transitions remaining begun.deck.deck
          begun.deck.scopes).after (events ++ begun.deck.events)
      else begun.deck.after events)
      = ((run r bridge more remaining begun.player begun.scopes).after
          (events ++ begun.events)).deck := by
  by_cases hmade : begun.player.current?.isSome
  · rw [if_pos hmade, Outcome.deck_after, ← hloop hmade]
    rfl
  · rw [if_neg hmade, run_of_rest r bridge more remaining begun.scopes (by simpa using hmade)]
    simp [Outcome.deck, Outcome.after, Deck.Outcome.after]

/-- **The loop over the fields is the run of the player**, where the transitions that were made and
those that may still be followed add up to the limit. -/
theorem deck_run (r : Repertoire ι τ) (bridge : Bridge) {asset : Asset}
    {limit transitions more : Nat} (remaining : τ) {p : Player ι} (scopes : Scopes) {id : ActionId}
    {live : ι} (hactive : p.phase = .active asset id live) (hlimit : p.config.limit = limit)
    (hmore : transitions + more + 1 = limit) :
    Deck.loop r bridge asset limit transitions remaining p.deck scopes
      = (run r bridge more remaining p scopes).deck := by
  -- As in `run_course`, only a transition that is followed goes round again.
  induction more using Nat.strongRecOn generalizing transitions remaining p scopes id live with
  | ind more ih =>
    have hcurrent : p.deck.current? = some ⟨id, live⟩ := by rw [deck_of_active hactive]
    cases hfind : asset.find? id with
    | none =>
      rw [Deck.loop_of_vanished hcurrent hfind, deck_finish, run]
      simp only [hactive, hfind]
      rfl
    | some d =>
      obtain rfl : d.id = id := Asset.id_of_find? hfind
      let t : Turn ι τ := ⟨r, bridge, p, scopes, remaining, asset, d, live, hactive, hfind⟩
      have hdecided : t.played.result.2.decision = t.decision := rfl
      have hrun := run_turn t more
      rw [Deck.loop_of_live hcurrent hfind (deck_visit t), hdecided]
      change _ = (run t.repertoire t.bridge more t.remaining t.player t.scopes).deck
      rw [hrun]
      cases hdecision : t.decision with
      | stay complaint? => rfl
      | finish | fail message =>
        simp only [deck_finish]
        rfl
      | go next yields =>
        cases yields with
        | true => rfl
        | false =>
          cases more with
          | zero =>
            have hend : limit ≤ transitions + 1 := by omega
            have hsame : t.seated.config.limit = limit := hlimit
            simp only [hend, hsame, if_true, Bool.false_eq_true, if_false, deck_suspend]
            rfl
          | succ more =>
            have hspare : ¬limit ≤ transitions + 1 := by omega
            have hsame : (t.arrival next).player.config.limit = limit :=
              (congrArg PlayerConfig.limit (config_begin ..)).trans hlimit
            have harrival : Deck.begin t.repertoire t.bridge t.seated.deck.leave
                t.played.stage.scopes asset next = _ := deck_arrival t next
            simp only [hspare, Bool.false_eq_true, if_false, harrival]
            refine deck_after_begin (fun hmade => ?_) _
            obtain ⟨id, live, hphase⟩ := exists_phase_of_begin hmade
            exact ih more (Nat.lt_succ_self more) _ _ hphase hsame (by omega)

theorem deck_update (p : Player ι) (f : Frame ι τ) :
    p.deck.update f.repertoire f.session f.delta = (p.advance f).deck := by
  have hone : 1 ≤ p.config.limit := Nat.le_max_right ..
  have hmore : 0 + (p.config.limit - 1) + 1 = p.config.limit := by omega
  rw [Deck.update, advance, update]
  cases hphase : p.phase with
  | idle =>
    rw [asset?_deck_of_rest (.inl hphase)]
    rfl
  | finished =>
    rw [asset?_deck_of_rest (.inr hphase)]
    rfl
  | poised asset next last? =>
    have hasset : p.deck.asset? = some asset := by rw [deck_of_poised hphase]
    have hdue : p.deck.pending? = some next := by rw [deck_of_poised hphase]
    have hbegin : Deck.begin f.repertoire f.session.bridge p.deck.takeDue f.session.scopes asset
        next = _ := deck_begin f.repertoire f.session.bridge f.session.scopes hphase p.state
    simp only [hasset, hdue, hbegin]
    refine deck_after_begin (fun hmade => ?_) _
    obtain ⟨id, live, hactive⟩ := exists_phase_of_begin hmade
    exact deck_run _ _ _ _ hactive (congrArg PlayerConfig.limit (config_begin ..)) hmore
  | active asset id live =>
    have hrun := deck_run f.repertoire f.session.bridge (Clock.orZero f.delta)
      f.session.scopes hphase rfl hmore
    have hdeck := deck_of_active hphase
    rw [hdeck] at hrun
    simp only [hdeck, hrun]
    rfl

/-! ### Calls -/

/-- **Every call comes to the same on the fields as on the phase.** -/
theorem deck_call (p : Player ι) (c : Call ι τ) :
    p.deck.call c = ((p.call c).1.deck, (p.call c).2) := by
  cases c with
  | start asset options =>
    rw [Deck.call, call, deck_start]
    cases p.start (τ := τ) asset options <;> rfl
  | stop => exact deck_stop p
  | update f =>
    rw [Deck.call, call, deck_update]
    rfl

theorem deck_after (p : Player ι) (calls : List (Call ι τ)) :
    p.deck.after calls = (p.after calls).deck := by
  induction calls generalizing p with
  | nil => rfl
  | cons c rest ih => rw [Deck.after_cons, deck_call, ih, after_cons]

end

end Player

end ActionGraph
