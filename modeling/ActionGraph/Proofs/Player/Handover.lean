import ActionGraph.Action.Builtin
import ActionGraph.Proofs.Player.Itinerary
import ActionGraph.Proofs.Split

/-!
# When a destination is attempted

An instance that leaves for another action hands the run over to it. Behind a link that does not
yield, and as long as the update may make more transitions, the destination is attempted at once.
Behind any other the update is over, and the destination is the first thing that the next update
attempts. A stop or the start of another run discards it.

What an update hands over is read off its turns. `ComesTo` names the turn that an update has come to
behind some events, so that it can be said which instance left, and what its context held.
-/

namespace ActionGraph

variable {ι τ : Type}

theorem UpdateContext.decision_eq_go_iff {c : UpdateContext τ} {next : ActionId} {yields : Bool} :
    c.decision = .go next yields ↔
      c.finished = true ∧ c.error? = none ∧ c.next? = some next ∧ c.yields = yields := by
  rw [decision]
  cases hfinished : c.finished with
  | false => simp
  | true =>
    cases herror : c.error? <;> cases hnext : c.next? <;> simp

/-! ### Departures among events -/

def Hop.isDeparture : Hop → Bool
  | .leave _ _ => true
  | .attempt _ | .make _ => false

/-- How many instances leave for another action. -/
def departures (events : List (Event τ)) : Nat := (hops events).countP Hop.isDeparture

@[simp] theorem departures_nil : departures ([] : List (Event τ)) = 0 := rfl

@[simp] theorem departures_append (events more : List (Event τ)) :
    departures (events ++ more) = departures events + departures more := by
  simp [departures]

@[simp] theorem departures_cons (e : Event τ) (events : List (Event τ)) :
    departures (e :: events)
      = e.hop?.toList.countP Hop.isDeparture + departures events := by
  simp [departures]

@[simp] theorem departures_of_isQuiet {events : List (Event τ)} (h : IsQuiet events) :
    departures events = 0 := by
  rw [departures, hops_of_isQuiet h]
  rfl

theorem Player.begin_events (r : Repertoire ι τ) (bridge : Bridge) (p : Player ι) (scopes : Scopes)
    (asset : Asset) (next : ActionId) :
    (∃ rest, (begin r bridge p scopes asset next).events = .attempted next :: rest) ∧
      departures (begin r bridge p scopes asset next).events = 0 := by
  rcases begin_cases r bridge p scopes asset next with
    ⟨complaint, -, hbegin⟩ | ⟨d, made, hd, -, hbegin⟩
  · rw [hbegin]
    exact ⟨⟨_, rfl⟩, rfl⟩
  · obtain rfl : d.id = next := Asset.id_of_find? hd
    rw [hbegin]
    refine ⟨⟨_, rfl⟩, ?_⟩
    simp [embark, Event.hop?, Hop.isDeparture]

theorem Player.config_stop (p : Player ι) : (p.stop (τ := τ)).1.config = p.config := by
  rw [stop]
  split <;> rfl

section

variable {clear events pre post : List (Event τ)} {id next : ActionId} {yields : Bool}

theorem go_notMem_of_departures_eq_zero (hclear : departures clear = 0) :
    .decided id (.go next yields) ∉ clear := by
  intro hmem
  obtain ⟨pre, post, rfl⟩ := List.append_of_mem hmem
  simp [Event.hop?, Hop.isDeparture] at hclear

theorem ne_of_departures_eq_zero (hclear : departures clear = 0) :
    clear ≠ pre ++ .decided id (.go next yields) :: post :=
  ne_of_notMem (go_notMem_of_departures_eq_zero hclear)

theorem exists_split_of_departures_eq_zero (hclear : departures clear = 0)
    (hsplit : clear ++ events = pre ++ .decided id (.go next yields) :: post) :
    ∃ mid, pre = clear ++ mid ∧ events = mid ++ .decided id (.go next yields) :: post :=
  exists_split_of_notMem (go_notMem_of_departures_eq_zero hclear) hsplit

end

/-! ### Handing over -/

/-- What follows the departure of an instance for another one, when `more` departures may be
followed in the same update and the update leaves this player behind. -/
def IsHandedOver (more : Nat) (pre : List (Event τ)) (id next : ActionId) (yields : Bool)
    (post : List (Event τ)) (p : Player ι) : Prop :=
  if yields = false ∧ departures pre < more then
    ∃ rest, post = .notice (Player.transitionNotice id next false) :: .attempted next :: rest
  else IsQuiet post ∧ p.pending? = some next

theorem isHandedOver_of_held {more : Nat} {pre post : List (Event τ)} {id next : ActionId}
    {yields : Bool} {p : Player ι} (hheld : yields = true ∨ more = 0) (hquiet : IsQuiet post)
    (hpending : p.pending? = some next) : IsHandedOver more pre id next yields post p := by
  have hwaits : ¬(yields = false ∧ departures pre < more) := by
    rintro ⟨hnow, hmore⟩
    rcases hheld with hyields | hnone
    · simp [hyields] at hnow
    · omega
  rw [IsHandedOver, if_neg hwaits]
  exact ⟨hquiet, hpending⟩

theorem IsHandedOver.prepend {more n : Nat} {pre post before : List (Event τ)} {id next : ActionId}
    {yields : Bool} {p : Player ι} (h : IsHandedOver more pre id next yields post p)
    (hbefore : departures before = n) :
    IsHandedOver (more + n) (before ++ pre) id next yields post p := by
  have hcount : departures (before ++ pre) < more + n ↔ departures pre < more := by
    rw [departures_append, hbefore]
    omega
  simpa only [IsHandedOver, hcount] using h

section

variable [Clock τ]

/-- What happens in a turn before the instance decides. -/
def Turn.opening (t : Turn ι τ) : List (Event τ) :=
  .updated t.descriptor t.context.remaining :: t.played.notes.map .noted

@[simp] theorem Turn.departures_opening (t : Turn ι τ) : departures t.opening = 0 := by
  simp [opening, Event.hop?]

theorem Turn.departure_eq (t : Turn ι τ) {next : ActionId} {yields : Bool}
    (hdecision : t.decision = .go next yields) :
    t.departure next yields = t.opening ++ [.decided t.descriptor.id (.go next yields),
      .notice (Player.transitionNotice t.descriptor.id next yields)] := by
  simp [departure, events, opening, hdecision, Player.complaints]

theorem Turn.departures_events {t : Turn ι τ}
    (hstays : ∀ next yields, t.decision ≠ .go next yields) : departures t.events = 0 := by
  cases hdecision : t.decision with
  | go next yields => exact absurd hdecision (hstays next yields)
  | stay | finish | fail => simp [events, Event.hop?, hdecision]

theorem Turn.departures_closing {t : Turn ι τ} {withError : Bool}
    (hcloses : t.decision.closes? = some withError) :
    departures (t.events ++ t.seated.farewell withError) = 0 := by
  have hnone : departures t.events = 0 := by
    refine t.departures_events fun next yields hgo => ?_
    simp [hgo, Decision.closes?] at hcloses
  rw [departures_append, hnone, departures_of_isQuiet (Player.isQuiet_farewell _ _)]

/-- A departure that stands behind the begin of a turn is that of the turn, or a later one. -/
theorem Turn.split_departure {t : Turn ι τ} {next : ActionId} {yields : Bool}
    (hdecision : t.decision = .go next yields) {rest pre post : List (Event τ)}
    {id next' : ActionId} {yields' : Bool} (hsplit : t.departure next yields ++ rest
      = pre ++ .decided id (.go next' yields') :: post) :
    (pre = t.opening ∧ id = t.descriptor.id ∧ next' = next ∧ yields' = yields ∧
      post = .notice (Player.transitionNotice id next yields) :: rest) ∨
    ∃ mid, pre = t.departure next yields ++ mid ∧
      rest = mid ++ .decided id (.go next' yields') :: post := by
  rw [t.departure_eq hdecision, List.append_assoc] at hsplit
  obtain ⟨mid, rfl, hmid⟩ := exists_split_of_departures_eq_zero t.departures_opening hsplit
  cases mid with
  | nil =>
    simp only [List.cons_append, List.nil_append, List.cons.injEq, Event.decided.injEq,
      Decision.go.injEq] at hmid
    obtain ⟨⟨rfl, rfl, rfl⟩, rfl⟩ := hmid
    exact .inl ⟨List.append_nil _, rfl, rfl, rfl, rfl⟩
  | cons e mid =>
    simp only [List.cons_append, List.nil_append, List.cons.injEq] at hmid
    obtain ⟨rfl, hmid⟩ := hmid
    have hnotice : departures [(.notice (Player.transitionNotice t.descriptor.id next yields) :
        Event τ)] = 0 := rfl
    obtain ⟨mid, rfl, hrest⟩ := exists_split_of_departures_eq_zero hnotice hmid
    refine .inr ⟨mid, ?_, hrest⟩
    simp [t.departure_eq hdecision]

/-- The turn to which a run of updates comes, behind what happens before it. -/
inductive ComesTo : Repertoire ι τ → Bridge → τ → Player ι → Scopes → List (Event τ) →
    Turn ι τ → Prop
  | now (t : Turn ι τ) : ComesTo t.repertoire t.bridge t.remaining t.player t.scopes [] t
  | later (t : Turn ι τ) {next : ActionId} {before : List (Event τ)} {last : Turn ι τ}
      (hdecision : t.decision = .go next false)
      (hrest : ComesTo t.repertoire t.bridge t.played.result.2.remaining (t.arrival next).player
        (t.arrival next).scopes before last) :
    ComesTo t.repertoire t.bridge t.remaining t.player t.scopes
      (t.departure next false ++ (t.arrival next).events ++ before) last

/-- Every departure in a run of updates is that of a turn, and hands over. -/
theorem Course.handsOver {r : Repertoire ι τ} {bridge : Bridge} {more : Nat} {remaining : τ}
    {p : Player ι} {scopes : Scopes} {o : Outcome ι τ}
    (h : Course r bridge more remaining p scopes o) {pre post : List (Event τ)}
    {id next : ActionId} {yields : Bool}
    (hsplit : o.events = pre ++ .decided id (.go next yields) :: post) :
    (∃ t before, ComesTo r bridge remaining p scopes before t ∧ pre = before ++ t.opening ∧
      t.descriptor.id = id ∧ t.decision = .go next yields) ∧
    IsHandedOver more pre id next yields post o.player := by
  induction h generalizing pre with
  | rest => simp at hsplit
  | stay t hdecision =>
    have hnone := t.departures_events (by simp [hdecision])
    exact absurd hsplit (ne_of_departures_eq_zero hnone)
  | close t hdecision =>
    exact absurd hsplit (ne_of_departures_eq_zero (Turn.departures_closing hdecision))
  | yield t hdecision =>
    rw [← List.append_nil (t.departure _ _)] at hsplit
    rcases t.split_departure hdecision hsplit with ⟨rfl, rfl, rfl, rfl, rfl⟩ | ⟨mid, -, hmid⟩
    · refine ⟨⟨t, [], .now t, rfl, rfl, hdecision⟩, isHandedOver_of_held (.inl rfl) ?_ rfl⟩
      simp [IsQuiet, Event.isTelling]
    · simp at hmid
  | exhaust t hdecision =>
    rcases t.split_departure hdecision hsplit with ⟨rfl, rfl, rfl, rfl, rfl⟩ | ⟨mid, -, hmid⟩
    · refine ⟨⟨t, [], .now t, rfl, rfl, hdecision⟩, isHandedOver_of_held (.inr rfl) ?_ rfl⟩
      simp [IsQuiet, Event.isTelling]
    · exact absurd hmid (ne_of_departures_eq_zero rfl)
  | @go more t after o hdecision hrest ih =>
    obtain ⟨⟨rest, hfirst⟩, hnone⟩ : (∃ rest, (t.arrival after).events = .attempted after :: rest) ∧
        departures (t.arrival after).events = 0 := Player.begin_events ..
    rw [Outcome.after, List.append_assoc] at hsplit
    rcases t.split_departure hdecision hsplit with ⟨rfl, rfl, rfl, rfl, rfl⟩ | ⟨mid, rfl, hmid⟩
    · -- The departure of this turn itself is followed at once.
      refine ⟨⟨t, [], .now t, rfl, rfl, hdecision⟩, ?_⟩
      rw [IsHandedOver, if_pos ⟨rfl, by simp⟩]
      exact ⟨rest ++ o.events, by rw [hfirst, List.cons_append]⟩
    · -- A later one stands behind one that was followed.
      obtain ⟨mid, rfl, hlater⟩ := exists_split_of_departures_eq_zero hnone hmid
      obtain ⟨⟨last, before, hcomes, rfl, hid, hgo⟩, hover⟩ := ih hlater
      refine ⟨⟨last, _, .later t hdecision hcomes, ?_, hid, hgo⟩, ?_⟩
      · simp only [List.append_assoc]
      · rw [← List.append_assoc]
        refine hover.prepend ?_
        rw [departures_append, hnone, t.departure_eq hdecision]
        simp [Event.hop?, Hop.isDeparture]

/-! ### Handing over between updates -/

theorem Course.config_eq {r : Repertoire ι τ} {bridge : Bridge} {more : Nat} {remaining : τ}
    {p : Player ι} {scopes : Scopes} {o : Outcome ι τ}
    (h : Course r bridge more remaining p scopes o) : o.player.config = p.config := by
  induction h with
  | rest | stay | close | yield | exhaust => rfl
  | go t _ _ ih =>
    rw [Outcome.after, ih]
    exact Player.config_begin ..

namespace Player

variable {p : Player ι}

theorem config_advance (hsound : p.IsSound) (f : Frame ι τ) :
    (p.advance f).player.config = p.config := by
  rcases hsound.cases with hphase | ⟨asset, next, last?, hphase⟩ | ⟨asset, d, live, hphase, -⟩
  · rw [advance_of_idle hphase]
  · obtain ⟨o, hcourse, heq⟩ := advance_of_poised hphase f
    rw [heq]
    exact hcourse.config_eq.trans (config_begin ..)
  · obtain ⟨o, hcourse, heq⟩ := advance_of_active hsound hphase f
    rw [heq]
    exact hcourse.config_eq

theorem config_call (hsound : p.IsSound) (c : Call ι τ) : (p.call c).1.config = p.config := by
  cases c with
  | start asset options =>
    cases hstart : resolveStart asset options with
    | error e => rw [call_start_of_error hstart]
    | ok id =>
      rw [call_start_of_ok hstart]
      exact config_stop p
  | stop => exact config_stop p
  | update f => exact config_advance hsound f

theorem config_after (hsound : p.IsSound) (calls : List (Call ι τ)) :
    (p.after calls).config = p.config := by
  induction calls generalizing p with
  | nil => rfl
  | cons c rest ih => exact (ih (isSound_call hsound c)).trans (config_call hsound c)

/-- The turn to which an update comes, behind what happens before it. -/
def ComesTo (p : Player ι) (f : Frame ι τ) (before : List (Event τ)) (t : Turn ι τ) : Prop :=
  match p.phase with
  | .idle | .finished => False
  | .poised asset next _ => ∃ later,
    before = deltaNotices f.delta ++ (p.embarked asset next f).events ++ later ∧
    ActionGraph.ComesTo f.repertoire f.session.bridge (Clock.orZero f.delta)
      (p.embarked asset next f).player (p.embarked asset next f).scopes later t
  | .active _ _ _ => ∃ later, before = deltaNotices f.delta ++ later ∧
    ActionGraph.ComesTo f.repertoire f.session.bridge (Clock.orZero f.delta) p f.session.scopes
      later t

theorem advance_handsOver (hsound : p.IsSound) (f : Frame ι τ) {pre post : List (Event τ)}
    {id next : ActionId} {yields : Bool}
    (hsplit : (p.advance f).events = pre ++ .decided id (.go next yields) :: post) :
    (∃ t before, p.ComesTo f before t ∧ pre = before ++ t.opening ∧ t.descriptor.id = id ∧
      t.decision = .go next yields) ∧
    IsHandedOver p.spare pre id next yields post (p.advance f).player := by
  have hnotices := departures_of_isQuiet (isQuiet_deltaNotices f.delta)
  rcases hsound.cases with hphase | ⟨asset, due, last?, hphase⟩ | ⟨asset, d, live, hphase, -⟩
  · simp [advance_of_idle hphase] at hsplit
  · obtain ⟨o, hcourse, heq⟩ := advance_of_poised hphase f
    have hclear : departures (deltaNotices f.delta ++ (p.embarked asset due f).events) = 0 := by
      rw [departures_append, hnotices, embarked, (begin_events ..).2]
    rw [heq] at hsplit ⊢
    obtain ⟨mid, rfl, hmid⟩ := exists_split_of_departures_eq_zero hclear hsplit
    obtain ⟨⟨t, before, hcomes, rfl, hid, hgo⟩, hover⟩ := hcourse.handsOver hmid
    refine ⟨⟨t, _, ?_, (List.append_assoc ..).symm, hid, hgo⟩, ?_⟩
    · rw [ComesTo, hphase]
      exact ⟨before, rfl, hcomes⟩
    · exact hover.prepend hclear
  · obtain ⟨o, hcourse, heq⟩ := advance_of_active hsound hphase f
    rw [heq] at hsplit ⊢
    obtain ⟨mid, rfl, hmid⟩ := exists_split_of_departures_eq_zero hnotices hsplit
    obtain ⟨⟨t, before, hcomes, rfl, hid, hgo⟩, hover⟩ := hcourse.handsOver hmid
    refine ⟨⟨t, _, ?_, (List.append_assoc ..).symm, hid, hgo⟩, ?_⟩
    · rw [ComesTo, hphase]
      exact ⟨before, rfl, hcomes⟩
    · exact hover.prepend hnotices

end Player

/-- What a call makes of the action that a player stands before: an update attempts it first, and a
stop or the start of another run discards it. -/
def Call.TakesOver (p : Player ι) (next : ActionId) : Call ι τ → Prop
  | .update f => ∃ rest, (p.advance f).events =
      Player.deltaNotices f.delta ++ .attempted next :: rest
  | .stop => hops (p.stop (τ := τ)).2 = [] ∧ (p.stop (τ := τ)).1.phase = .idle
  | .start asset options => hops (p.call (.start asset options : Call ι τ)).2 = [] ∧
      (p.call (.start asset options : Call ι τ)).1.pending? =
        match Player.resolveStart asset options with
        | .ok id => some id
        | .error _ => some next

theorem Player.takesOver_of_pending {p : Player ι} (hsound : p.IsSound) {next : ActionId}
    (hpending : p.pending? = some next) (c : Call ι τ) : c.TakesOver p next := by
  obtain ⟨asset, last?, hphase⟩ : ∃ asset last?, p.phase = .poised asset next last? := by
    rcases hsound.cases with hphase | ⟨asset, id, last?, hphase⟩ | ⟨asset, d, live, hphase, -⟩
    · simp [pending?, hphase, Phase.pending?] at hpending
    · obtain rfl : id = next := by simpa [pending?, hphase, Phase.pending?] using hpending
      exact ⟨asset, last?, hphase⟩
    · simp [pending?, hphase, Phase.pending?] at hpending
  cases c with
  | update f =>
    obtain ⟨o, -, heq⟩ := advance_of_poised hphase f
    obtain ⟨rest, hrest⟩ : ∃ rest, (p.embarked asset next f).events = .attempted next :: rest :=
      (begin_events ..).1
    refine ⟨rest ++ o.events, ?_⟩
    rw [heq, Outcome.after, hrest, List.append_assoc, List.cons_append]
  | stop =>
    refine ⟨hops_stop hsound, ?_⟩
    rw [stop_of_poised hphase]
    rfl
  | start other options =>
    rw [Call.TakesOver]
    cases hstart : resolveStart other options with
    | error e =>
      rw [call_start_of_error hstart]
      exact ⟨rfl, hpending⟩
    | ok id =>
      rw [call_start_of_ok hstart, hops_append, hops_stop hsound,
        hops_of_isQuiet (isQuiet_greeting _ _)]
      exact ⟨rfl, rfl⟩

/-- Whether the context of a turn holds that its instance has finished without an error, and which
action follows. -/
def Turn.Leaves (t : Turn ι τ) (next : ActionId) (yields : Bool) : Prop :=
  let context := t.played.result.2
  context.finished = true ∧ context.error? = none ∧ context.next? = some next ∧
    context.yields = yields

namespace Player

/-- **A run sets out for the action that it starts with, and then for every action that an instance
has left in its context, once and in order.** In the update that comes after any number of others, a
destination is attempted at once where the link does not yield and the limit of transitions is not
reached. Otherwise nothing else is attempted in the same update, and the next call attempts the
destination first, or discards it. -/
theorem transitions_are_followed {p started : Player ι} {asset : Asset} {options : StartOptions}
    {told : List (Event τ)} (hstart : p.start asset options = .ok (started, told))
    (frames : List (Frame ι τ)) :
    let events := (started.chronicle 0 (frames.map .update)).map Prod.snd
    (∃ id w, resolveStart asset options = .ok id ∧ Itinerary id (hops events) w ∧
      w.Fits (started.after (frames.map .update))) ∧
    ∀ f : Frame ι τ,
      let q := started.after (frames.map .update)
      ∀ pre id next yields post,
        (q.advance f).events = pre ++ .decided id (.go next yields) :: post →
        (∃ t before, q.ComesTo f before t ∧ pre = before ++ t.opening ∧ t.descriptor.id = id ∧
          t.Leaves next yields) ∧
        if yields = false ∧ departures pre + 1 < p.config.limit then
          ∃ rest, post = .notice (transitionNotice id next false) :: .attempted next :: rest
        else IsQuiet post ∧ ∀ c : Call ι τ, c.TakesOver (q.advance f).player next := by
  intro events
  obtain ⟨id, hid, hstarted⟩ := exists_poise_of_start hstart
  have hsound : started.IsSound := by
    rw [hstarted]
    trivial
  have hconfig : started.config = p.config := by
    rw [hstarted]
    exact config_stop p
  refine ⟨?_, ?_⟩
  · have hfits : (Whereabouts.due id).Fits started := by
      rw [hstarted]
      rfl
    obtain ⟨w, hway, hw⟩ := exists_itinerary_updates hsound hfits 0 frames
    exact ⟨id, w, hid, hway, hw⟩
  · intro f q pre id next yields post hsplit
    have hq : q.IsSound := isSound_after hsound _
    obtain ⟨⟨t, before, hcomes, hpre, hid, hgo⟩, hover⟩ := advance_handsOver hq f hsplit
    refine ⟨⟨t, before, hcomes, hpre, hid, UpdateContext.decision_eq_go_iff.1 hgo⟩, ?_⟩
    have hlimit : departures pre < q.spare ↔ departures pre + 1 < p.config.limit := by
      rw [spare, config_after hsound, hconfig]
      omega
    simp only [IsHandedOver, hlimit] at hover
    split
    · next hnow => rwa [if_pos hnow] at hover
    · next hwaits =>
      rw [if_neg hwaits] at hover
      exact ⟨hover.1, fun c => takesOver_of_pending (isSound_call hq (.update f)) hover.2 c⟩

end Player

end

namespace Player

/-- A flow with two actions, of which the first leaves for the second. -/
def relay : Asset where
  name := "relay"
  actions := [{ id := "first", type := "branch", links := [{ target := "last" }] },
    { id := "last", type := "end" }]
  index := [("first", 0), ("last", 1)]
  start? := some "first"
  bindings := .empty
  consistent := Asset.isIndexOf_indexOf rfl

theorem transitions_are_followed_in_relay :
    ∃ (started : Player (Builtin Float32)) (told : List (Event Float32)),
      (new {} 0).start relay {} = .ok (started, told) ∧
      ∃ w, Itinerary "first"
          (hops ((started.chronicle 0 [.update ⟨Builtin.repertoire, .new, 0⟩]).map Prod.snd)) w ∧
        w.Fits (started.after [.update ⟨Builtin.repertoire, .new, (0 : Float32)⟩]) := by
  obtain ⟨started, told, hstart⟩ : ∃ started told, (new {} 0 : Player (Builtin Float32)).start
      (τ := Float32) relay {} = .ok (started, told) := ⟨_, _, rfl⟩
  obtain ⟨⟨id, w, hid, hway, hfits⟩, -⟩ :=
    transitions_are_followed hstart [⟨Builtin.repertoire, .new, 0⟩]
  obtain rfl : "first" = id := Except.ok.inj hid
  exact ⟨started, told, hstart, w, hway, hfits⟩

end Player

end ActionGraph
