import ActionGraph.Proofs.Player.Lives

/-!
# The way of a run

A run goes from action to action. It sets out for the action that it starts with, and from then on
for the action that the last instance has left in its context, so that no transition is lost,
repeated or made up. An itinerary is the list of these steps, and `Whereabouts` is where they have
led.

A destination that is neither held up by its link nor by the limit of transitions is attempted at
once. Any other is the first thing that the next update attempts, unless the run is stopped before,
or another one started.
-/

namespace ActionGraph

variable {ι τ : Type}

/-! ### Steps on the way -/

/-- A step of a run on its way through a flow. -/
inductive Hop where
  /-- The player sets out to make an instance. -/
  | attempt (id : ActionId)
  | make (id : ActionId)
  /-- An instance leaves for another action. -/
  | leave (id next : ActionId)
  deriving DecidableEq, Repr

def Event.hop? : Event τ → Option Hop
  | .attempted id => some (.attempt id)
  | .made d _ => some (.make d.id)
  | .decided id (.go next _) => some (.leave id next)
  | _ => none

def hops (events : List (Event τ)) : List Hop := events.filterMap Event.hop?

@[simp] theorem hops_nil : hops ([] : List (Event τ)) = [] := rfl

@[simp] theorem hops_append (events more : List (Event τ)) :
    hops (events ++ more) = hops events ++ hops more := List.filterMap_append

@[simp] theorem hops_cons (e : Event τ) (events : List (Event τ)) :
    hops (e :: events) = e.hop?.toList ++ hops events := pick_cons ..

@[simp] theorem hops_of_isQuiet {events : List (Event τ)} (h : IsQuiet events) :
    hops events = [] := by
  refine h.pick_eq_nil fun e htelling => ?_
  cases e with
  | attempted | made | started | updated | decided | cancelled => cases htelling
  | runStarted | runFinished | said | noted | notice => rfl

theorem hops_abort (p : Player ι) (scopes : Scopes) (complaint : Complaint) (id : ActionId) :
    hops ((p.abort scopes complaint).after [.attempted id] : Outcome ι τ).events
      = [.attempt id] := rfl

theorem hops_embark (r : Repertoire ι τ) (bridge : Bridge) (p : Player ι) (scopes : Scopes)
    (asset : Asset) (d : Descriptor) (made : ι) :
    hops (Player.embark r bridge p scopes asset d made).events = [.attempt d.id, .make d.id] := by
  simp [Player.embark, Event.hop?]

theorem hops_stop {p : Player ι} (hsound : p.IsSound) : hops (p.stop (τ := τ)).2 = [] := by
  rcases hsound.cases with hphase | ⟨asset, next, last?, hphase⟩ | ⟨asset, d, live, hphase, -⟩
  · simp [Player.stop_of_idle hphase]
  · simp [Player.stop_of_poised hphase]
  · simp [Player.stop_of_active hphase, Event.hop?]

/-! ### Itineraries -/

/-- Where a run has come to. -/
inductive Whereabouts where
  /-- The next update sets out for this action. -/
  | due (next : ActionId)
  /-- The run is over, since no instance could be made for this action. -/
  | refused (id : ActionId)
  /-- The last instance is one of this action. -/
  | reached (id : ActionId)

/-- The steps of a run that sets out for an action, up to where it comes to. -/
inductive Itinerary : ActionId → List Hop → Whereabouts → Prop
  | due (id : ActionId) : Itinerary id [] (.due id)
  | refused (id : ActionId) : Itinerary id [.attempt id] (.refused id)
  | reached (id : ActionId) : Itinerary id [.attempt id, .make id] (.reached id)
  | leave (id : ActionId) {next : ActionId} {rest : List Hop} {w : Whereabouts}
      (hrest : Itinerary next rest w) :
    Itinerary id (.attempt id :: .make id :: .leave id next :: rest) w

namespace Whereabouts

/-- Whether a run has come to where a player is. -/
def Fits (p : Player ι) : Whereabouts → Prop
  | .due next => p.pending? = some next
  | .refused _ => p.isPlaying = false
  | .reached id => p.current? = some id ∨ p.isPlaying = false

def id : Whereabouts → ActionId
  | .due id | .refused id | .reached id => id

/-- The steps since then. -/
def past : Whereabouts → List Hop
  | .due _ => []
  | .refused id => [.attempt id]
  | .reached id => [.attempt id, .make id]

end Whereabouts

theorem Itinerary.rest (w : Whereabouts) : Itinerary w.id w.past w := by
  cases w with
  | due id => exact .due id
  | refused id => exact .refused id
  | reached id => exact .reached id

/-- An itinerary goes on from where it has come to. -/
theorem Itinerary.append {id : ActionId} {steps more : List Hop} {w w' : Whereabouts}
    (h : Itinerary id steps w) (hmore : Itinerary w.id (w.past ++ more) w') :
    Itinerary id (steps ++ more) w' := by
  induction h with
  | due | refused | reached => exact hmore
  | leave id _ ih => exact .leave id (ih hmore)

section

variable [Clock τ]

theorem Turn.hops_events_of_stay {t : Turn ι τ} {complaint? : Option String}
    (hdecision : t.decision = .stay complaint?) : hops t.events = [] := by
  simp [Turn.events, Event.hop?, hdecision]

theorem Turn.hops_events_of_closes {t : Turn ι τ} {withError : Bool}
    (hdecision : t.decision.closes? = some withError) : hops t.events = [] := by
  cases h : t.decision with
  | stay | go => simp [h, Decision.closes?] at hdecision
  | finish | fail => simp [Turn.events, Event.hop?, h]

theorem Turn.hops_departure {t : Turn ι τ} {next : ActionId} {yields : Bool}
    (hdecision : t.decision = .go next yields) :
    hops (t.departure next yields) = [.leave t.descriptor.id next] := by
  simp [Turn.departure, Turn.events, Event.hop?, hdecision]

theorem exists_itinerary_begin {r : Repertoire ι τ} {bridge : Bridge} {p : Player ι}
    {scopes : Scopes} {asset : Asset} {next : ActionId} {more : Nat} {remaining : τ}
    {o : Outcome ι τ}
    (hcourse : Course r bridge more remaining (Player.begin r bridge p scopes asset next).player
      (Player.begin r bridge p scopes asset next).scopes o)
    (hlive : (Player.begin r bridge p scopes asset next).player.current? = some next →
      ∃ w, Itinerary next (.attempt next :: .make next :: hops o.events) w ∧ w.Fits o.player) :
    ∃ w, Itinerary next
        (hops ((Player.begin r bridge p scopes asset next).events ++ o.events)) w ∧
      w.Fits o.player := by
  rcases Player.begin_cases r bridge p scopes asset next with
    ⟨complaint, -, hbegin⟩ | ⟨d, made, hd, -, hbegin⟩
  · rw [hbegin] at hcourse ⊢
    rw [hcourse.eq_of_rest rfl, List.append_nil, hops_abort]
    exact ⟨.refused next, .refused next, rfl⟩
  · obtain rfl : d.id = next := Asset.id_of_find? hd
    rw [hbegin] at hlive
    rw [hbegin, hops_append, hops_embark]
    exact hlive rfl

theorem Course.exists_itinerary {r : Repertoire ι τ} {bridge : Bridge} {more : Nat} {remaining : τ}
    {p : Player ι} {scopes : Scopes} {o : Outcome ι τ}
    (h : Course r bridge more remaining p scopes o) {id : ActionId} (hlive : p.current? = some id) :
    ∃ w, Itinerary id (.attempt id :: .make id :: hops o.events) w ∧ w.Fits o.player := by
  induction h generalizing id with
  | rest hrest => simp [hlive] at hrest
  | stay t hdecision =>
    rw [t.hops_events_of_stay hdecision]
    refine ⟨.reached id, .reached id, .inl ?_⟩
    rw [← hlive, Player.current?, Player.current?, t.phase_eq]
    rfl
  | close t hdecision =>
    rw [hops_append, t.hops_events_of_closes hdecision,
      hops_of_isQuiet (Player.isQuiet_farewell _ _)]
    exact ⟨.reached id, .reached id, .inr rfl⟩
  | yield t hdecision =>
    obtain rfl : t.descriptor.id = id := by
      simpa [Player.current?, t.phase_eq, Phase.current?] using hlive
    rw [t.hops_departure hdecision]
    exact ⟨.due _, .leave _ (.due _), rfl⟩
  | exhaust t hdecision =>
    obtain rfl : t.descriptor.id = id := by
      simpa [Player.current?, t.phase_eq, Phase.current?] using hlive
    rw [hops_append, t.hops_departure hdecision]
    exact ⟨.due _, .leave _ (.due _), rfl⟩
  | @go more t next o hdecision hrest ih =>
    obtain rfl : t.descriptor.id = id := by
      simpa [Player.current?, t.phase_eq, Phase.current?] using hlive
    obtain ⟨w, hway, hfits⟩ := exists_itinerary_begin hrest ih
    refine ⟨w, ?_, hfits⟩
    rw [Outcome.after, List.append_assoc, hops_append, t.hops_departure hdecision]
    exact .leave _ hway

/-! ### The way of a run -/

theorem Whereabouts.Fits.cases {p : Player ι} {w : Whereabouts} (h : w.Fits p)
    (hsound : p.IsSound) :
    p.phase = .idle ∨ (∃ asset last?, p.phase = .poised asset w.id last? ∧ w.past = []) ∨
      ∃ asset live, p.phase = .active asset w.id live ∧
        w.past = [.attempt w.id, .make w.id] := by
  rcases hsound.cases with hphase | ⟨asset, next, last?, hphase⟩ | ⟨asset, d, live, hphase, -⟩
  · exact .inl hphase
  · cases w with
    | due id =>
      obtain rfl : next = id := by
        simpa [Fits, Player.pending?, hphase, Phase.pending?] using h
      exact .inr (.inl ⟨asset, last?, hphase, rfl⟩)
    | refused id | reached id =>
      simp [Fits, Player.isPlaying, Player.current?, Player.pending?, hphase, Phase.current?,
        Phase.pending?] at h
  · cases w with
    | due id | refused id =>
      simp [Fits, Player.isPlaying, Player.current?, Player.pending?, hphase, Phase.current?,
        Phase.pending?] at h
    | reached id =>
      obtain rfl : d.id = id := by
        simpa [Fits, Player.isPlaying, Player.current?, Player.pending?, hphase, Phase.current?,
          Phase.pending?] using h
      exact .inr (.inr ⟨asset, live, hphase, rfl⟩)

namespace Player

theorem exists_itinerary_advance {p : Player ι} (hsound : p.IsSound) {w : Whereabouts}
    (hfits : w.Fits p) (f : Frame ι τ) :
    ∃ w', Itinerary w.id (w.past ++ hops (p.advance f).events) w' ∧
      w'.Fits (p.advance f).player := by
  rcases hfits.cases hsound with hphase | ⟨asset, last?, hphase, hpast⟩ |
    ⟨asset, live, hphase, hpast⟩
  · rw [advance_of_idle hphase, hops_nil, List.append_nil]
    exact ⟨w, .rest w, hfits⟩
  · obtain ⟨o, hcourse, heq⟩ := advance_of_poised hphase f
    rw [heq, hpast, List.nil_append, Outcome.after, List.append_assoc, hops_append,
      hops_of_isQuiet (isQuiet_deltaNotices _), List.nil_append]
    exact exists_itinerary_begin hcourse fun hlive => hcourse.exists_itinerary hlive
  · obtain ⟨o, hcourse, heq⟩ := advance_of_active hsound hphase f
    have hlive : p.current? = some w.id := by rw [current?, hphase, Phase.current?]
    rw [heq, hpast, Outcome.after, hops_append, hops_of_isQuiet (isQuiet_deltaNotices _),
      List.nil_append]
    exact hcourse.exists_itinerary hlive

theorem exists_itinerary_updates {p : Player ι} (hsound : p.IsSound) {w : Whereabouts}
    (hfits : w.Fits p) (n : Nat) (frames : List (Frame ι τ)) :
    ∃ w', Itinerary w.id
        (w.past ++ hops ((p.chronicle n (frames.map .update)).map Prod.snd)) w' ∧
      w'.Fits (p.after (frames.map .update)) := by
  induction frames generalizing p w n with
  | nil =>
    rw [List.map_nil, chronicle, List.map_nil, hops_nil, List.append_nil]
    exact ⟨w, .rest w, hfits⟩
  | cons f rest ih =>
    obtain ⟨v, hway, hv⟩ := exists_itinerary_advance hsound hfits f
    obtain ⟨w', hmore, hw'⟩ := ih (isSound_call hsound (.update f)) hv (n + 1)
    refine ⟨w', ?_, hw'⟩
    rw [List.map_cons, map_snd_chronicle_cons, hops_append, ← List.append_assoc]
    exact hway.append hmore

end Player

end

end ActionGraph
