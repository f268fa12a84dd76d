import ActionGraph.Proofs.Player.Complaints

/-!
# How far an update goes

A flow may run in a circle of actions that take no time, and nothing but the limit of transitions
ends an update of it. Each transition that an update follows makes one instance, and each instance
that an update finds or makes is updated in it once. So the turns of an update are counted by the
transitions between them, and there are never more of them than the limit.

An update that has made all the transitions that it may leaves the last destination to the next one,
and warns of it. The transitions that count are those that do not wait for the next frame by
themselves.
-/

namespace ActionGraph

variable {ι τ : Type}

/-! ### Making and updating -/

/-- What is done with an instance. -/
inductive Dealing where
  | make (id : ActionId)
  | update (id : ActionId)
  deriving DecidableEq, Repr

def Event.dealing? : Event τ → Option Dealing
  | .made d _ => some (.make d.id)
  | .updated d _ => some (.update d.id)
  | _ => none

def dealings (events : List (Event τ)) : List Dealing := events.filterMap Event.dealing?

@[simp] theorem dealings_nil : dealings ([] : List (Event τ)) = [] := rfl

@[simp] theorem dealings_append (events more : List (Event τ)) :
    dealings (events ++ more) = dealings events ++ dealings more := List.filterMap_append

@[simp] theorem dealings_cons (e : Event τ) (events : List (Event τ)) :
    dealings (e :: events) = e.dealing?.toList ++ dealings events := pick_cons ..

@[simp] theorem dealings_of_isQuiet {events : List (Event τ)} (h : IsQuiet events) :
    dealings events = [] := by
  refine h.pick_eq_nil fun e htelling => ?_
  cases e with
  | attempted | made | started | updated | decided | cancelled => cases htelling
  | runStarted | runFinished | said | noted | notice => rfl

/-- An instance that is due is made where it is live afterwards, and nothing else is. -/
theorem dealings_begin (r : Repertoire ι τ) (bridge : Bridge) (p : Player ι) (scopes : Scopes)
    (asset : Asset) (next : ActionId) :
    dealings (Player.begin r bridge p scopes asset next).events
      = (Player.begin r bridge p scopes asset next).player.current?.toList.map .make := by
  rcases Player.begin_cases r bridge p scopes asset next with
    ⟨complaint, -, hbegin⟩ | ⟨d, made, -, -, hbegin⟩
  · rw [hbegin]
    rfl
  · rw [hbegin]
    simp [Player.embark, Event.dealing?, Player.current?, Phase.current?]

def Hop.isAttempt : Hop → Bool
  | .attempt _ => true
  | .make _ | .leave _ _ => false

/-- How many instances a player sets out to make. -/
def attempts (events : List (Event τ)) : Nat := (hops events).countP Hop.isAttempt

theorem attempts_append (events more : List (Event τ)) :
    attempts (events ++ more) = attempts events + attempts more := by
  rw [attempts, hops_append, List.countP_append, attempts, attempts]

theorem attempts_of_isQuiet {events : List (Event τ)} (h : IsQuiet events) :
    attempts events = 0 := by
  rw [attempts, hops_of_isQuiet h]
  rfl

theorem attempts_begin (r : Repertoire ι τ) (bridge : Bridge) (p : Player ι) (scopes : Scopes)
    (asset : Asset) (next : ActionId) :
    attempts (Player.begin r bridge p scopes asset next).events = 1 := by
  rcases Player.begin_cases r bridge p scopes asset next with
    ⟨complaint, -, hbegin⟩ | ⟨d, made, -, -, hbegin⟩
  · rw [hbegin]
    rfl
  · rw [hbegin, attempts, hops_embark]
    rfl

/-! ### Transitions that count -/

/-- Whether an instance leaves for an action that need not wait for the next frame. -/
def Event.isPrompt : Event τ → Bool
  | .decided _ (.go _ yields) => !yields
  | _ => false

/-- How many transitions count towards the limit. -/
def promptDepartures (events : List (Event τ)) : Nat := events.countP Event.isPrompt

theorem promptDepartures_append (events more : List (Event τ)) :
    promptDepartures (events ++ more) = promptDepartures events + promptDepartures more :=
  List.countP_append

theorem promptDepartures_le (events : List (Event τ)) :
    promptDepartures events ≤ departures events := by
  induction events with
  | nil => exact Nat.le_refl 0
  | cons e events ih =>
    have hone : (if e.isPrompt then 1 else 0) ≤ e.hop?.toList.countP Hop.isDeparture := by
      rcases e with _ | _ | _ | _ | _ | _ | ⟨id, _ | _ | _ | ⟨next, yields⟩⟩
      case decided.go => cases yields <;> simp [Event.isPrompt, Event.hop?, Hop.isDeparture]
      all_goals simp [Event.isPrompt]
    rw [departures_cons, promptDepartures, List.countP_cons]
    rw [promptDepartures] at ih
    omega

theorem promptDepartures_eq_zero {events : List (Event τ)} (hnone : departures events = 0) :
    promptDepartures events = 0 :=
  Nat.eq_zero_of_le_zero (hnone ▸ promptDepartures_le events)

namespace Turn

variable [Clock τ] {t : Turn ι τ}

@[simp] theorem dealings_events (t : Turn ι τ) :
    ActionGraph.dealings t.events = [.update t.descriptor.id] := by
  simp [events, Event.dealing?]

theorem attempts_events (t : Turn ι τ) : attempts t.events = 0 := by
  cases hdecision : t.decision <;> simp [attempts, events, Event.hop?, hdecision, Hop.isAttempt]

theorem attempts_departure {next : ActionId} {yields : Bool}
    (hdecision : t.decision = .go next yields) : attempts (t.departure next yields) = 0 := by
  rw [attempts, hops_departure hdecision]
  rfl

@[simp] theorem dealings_departure (t : Turn ι τ) (next : ActionId) (yields : Bool) :
    ActionGraph.dealings (t.departure next yields) = [.update t.descriptor.id] := by
  simp [departure, Event.dealing?]

theorem departures_departure {next : ActionId} {yields : Bool}
    (hdecision : t.decision = .go next yields) : departures (t.departure next yields) = 1 := by
  rw [departures, hops_departure hdecision]
  rfl

theorem promptDepartures_departure {next : ActionId} {yields : Bool}
    (hdecision : t.decision = .go next yields) :
    promptDepartures (t.departure next yields) = (!yields).toNat := by
  have hopening := promptDepartures_eq_zero t.departures_opening
  rw [t.departure_eq hdecision, promptDepartures_append, hopening]
  cases yields <;> rfl

end Turn

/-! ### The limit of transitions -/

section

variable {flow : String} {limit more : Nat} {next : ActionId} {p q : Player ι} {o : Outcome ι τ}

/-- What comes of an update that has made all the transitions that it may: the player waits to make
the last destination, and has said nothing but that. -/
structure RunsOut (flow : String) (limit : Nat) (next : ActionId) (o : Outcome ι τ) : Prop where
  state_eq : o.player.state = .yielded
  pending?_eq : o.player.pending? = some next
  last : ∃ pre id post, o.events = pre ++ .decided id (.go next false) :: post ∧
    departures post = 0
  ownEntries_eq : ownEntries o.events = [(.warn, (Complaint.exhausted flow limit next).text)]

theorem RunsOut.after (h : RunsOut flow limit next o) {before : List (Event τ)}
    (hquiet : ownEntries before = []) :
    RunsOut flow limit next (o.after before) where
  state_eq := h.state_eq
  pending?_eq := h.pending?_eq
  last := by
    obtain ⟨pre, id, post, hevents, hlast⟩ := h.last
    exact ⟨before ++ pre, id, post, by rw [Outcome.after, hevents, List.append_assoc], hlast⟩
  ownEntries_eq := by
    rw [Outcome.after, ownEntries_append, hquiet, h.ownEntries_eq]
    rfl

/-- Whether the limit of transitions is spoken of. -/
def SaysExhausted (events : List (Event τ)) : Prop :=
  ∃ flow limit next, .said (.exhausted flow limit next) ∈ events

theorem saysExhausted_append {events more : List (Event τ)} :
    SaysExhausted (events ++ more) ↔ SaysExhausted events ∨ SaysExhausted more := by
  simp only [SaysExhausted, List.mem_append, exists_or]

theorem not_saysExhausted_of_ownEntries {events : List (Event τ)} (hnone : ownEntries events = []) :
    ¬SaysExhausted events := by
  rintro ⟨flow, limit, next, hsaid⟩
  have hentry := List.filterMap_eq_nil_iff.1 hnone _ hsaid
  simp [Event.ownEntry?] at hentry

/-- An instance that is refused leaves a complaint of another kind. -/
theorem not_saysExhausted_refusal {complaint : Complaint} (hrefusal : complaint.IsRefusal)
    (next : ActionId) (p : Player ι) :
    ¬SaysExhausted (.attempted next :: .said complaint :: p.farewell true : List (Event τ)) := by
  rintro ⟨flow, limit, due, hsaid⟩
  obtain rfl : .exhausted flow limit due = complaint := by simpa [Player.farewell] using hsaid
  exact hrefusal

/-- How an update ends that may still follow `more` transitions: it makes no more than these and
says nothing of a limit, or it makes one more and runs out. -/
inductive Ends (more : Nat) (p : Player ι) (o : Outcome ι τ) : Prop
  | within (hcount : promptDepartures o.events ≤ more) (hsilent : ¬SaysExhausted o.events)
  | out {asset : Asset} {next : ActionId} (hcount : promptDepartures o.events = more + 1)
      (hasset : p.asset? = some asset) (hout : RunsOut asset.name p.config.limit next o)

theorem Ends.after (h : Ends more q o) {before : List (Event τ)} {n : Nat}
    (hcount : promptDepartures before = n) (hquiet : ownEntries before = [])
    (hasset : q.asset? = p.asset?) (hconfig : q.config = p.config) :
    Ends (more + n) p (o.after before) := by
  cases h with
  | within hwithin hsilent =>
    refine .within ?_ ?_
    · rw [Outcome.after, promptDepartures_append]
      omega
    · rw [Outcome.after, saysExhausted_append]
      exact fun hsays => hsays.elim (not_saysExhausted_of_ownEntries hquiet) hsilent
  | out hall hknown hout =>
    refine .out ?_ (hasset ▸ hknown) (hconfig ▸ hout.after hquiet)
    rw [Outcome.after, promptDepartures_append]
    omega

end

/-! ### The turns of an update -/

theorem Turn.current?_eq (t : Turn ι τ) : t.player.current? = some t.descriptor.id := by
  rw [Player.current?, t.phase_eq]
  rfl

/-- What is done with the instance of a turn in an update, and it is done once. -/
def Turn.dealings (t : Turn ι τ) : List Dealing :=
  [.make t.descriptor.id, .update t.descriptor.id]

section

variable [Clock τ]

/-- Turns that follow each other. The first is one of the live instance of the player, and every
other one of the instance that is made where the turn before it has led. -/
inductive Succession :
    Repertoire ι τ → Bridge → τ → Player ι → Scopes → List (Turn ι τ) → Prop
  | done {r bridge remaining p scopes} : Succession r bridge remaining p scopes []
  | last (t : Turn ι τ) :
    Succession t.repertoire t.bridge t.remaining t.player t.scopes [t]
  | followed (t : Turn ι τ) {next : ActionId} {turns : List (Turn ι τ)}
      (hdecision : t.decision = .go next false)
      (hrest : Succession t.repertoire t.bridge t.played.result.2.remaining
        (t.arrival next).player (t.arrival next).scopes turns) :
    Succession t.repertoire t.bridge t.remaining t.player t.scopes (t :: turns)

variable {r : Repertoire ι τ} {bridge : Bridge} {more : Nat} {remaining : τ} {p : Player ι}
  {scopes : Scopes} {o : Outcome ι τ}

/-- The instances that are live in a course are updated once each, and made in between. -/
theorem Course.exists_turns (h : Course r bridge more remaining p scopes o) :
    ∃ turns, Succession r bridge remaining p scopes turns ∧ turns.length ≤ more + 1 ∧
      p.current?.toList.map .make ++ dealings o.events = turns.flatMap Turn.dealings ∧
      (turns = [] → p.current? = none) := by
  induction h with
  | rest hrest => exact ⟨[], .done, by simp, by simp [hrest], fun _ => hrest⟩
  | stay t => exact ⟨[t], .last t, by simp, by simp [t.current?_eq, Turn.dealings], by simp⟩
  | close t | yield t | exhaust t =>
    refine ⟨[t], .last t, by simp, ?_, by simp⟩
    simp [t.current?_eq, Turn.dealings, Event.dealing?]
  | @go more t next o hdecision hrest ih =>
    obtain ⟨turns, hturns, hlength, hdealings, -⟩ := ih
    refine ⟨t :: turns, .followed t hdecision hturns, ?_, ?_, by simp⟩
    · rw [List.length_cons]
      omega
    · have hmade : ActionGraph.dealings (t.arrival next).events
          = (t.arrival next).player.current?.toList.map .make := dealings_begin ..
      rw [List.flatMap_cons, ← hdealings, ← hmade, t.current?_eq]
      simp [Outcome.after, Turn.dealings]

theorem Course.attempts_le (h : Course r bridge more remaining p scopes o) :
    attempts o.events ≤ more := by
  induction h with
  | rest => exact Nat.zero_le _
  | stay t => exact t.attempts_events ▸ Nat.zero_le _
  | close t =>
    rw [attempts_append, t.attempts_events, attempts_of_isQuiet (Player.isQuiet_farewell _ _)]
    exact Nat.zero_le _
  | yield t hdecision => exact Turn.attempts_departure hdecision ▸ Nat.zero_le _
  | exhaust t hdecision =>
    rw [attempts_append, Turn.attempts_departure hdecision]
    exact Nat.le_refl 0
  | @go more t next o hdecision hrest ih =>
    have hone : attempts (t.arrival next).events = 1 := attempts_begin ..
    rw [Outcome.after, attempts_append, attempts_append, Turn.attempts_departure hdecision, hone]
    omega

theorem Course.departures_le (h : Course r bridge more remaining p scopes o) :
    departures o.events ≤ more + 1 := by
  induction h with
  | rest => exact Nat.zero_le _
  | stay t hdecision =>
    rw [t.departures_events (by simp [hdecision])]
    exact Nat.zero_le _
  | close t hdecision =>
    rw [Turn.departures_closing hdecision]
    exact Nat.zero_le _
  | yield t hdecision =>
    rw [Turn.departures_departure hdecision]
    omega
  | exhaust t hdecision =>
    rw [departures_append, Turn.departures_departure hdecision]
    exact Nat.le_refl 1
  | @go more t next o hdecision hrest ih =>
    have hnone : departures (t.arrival next).events = 0 := (Player.begin_events ..).2
    rw [Outcome.after, departures_append, departures_append, Turn.departures_departure hdecision,
      hnone]
    omega

/-! ### Where the limit is met -/

theorem Turn.runsOut (t : Turn ι τ) {next : ActionId} (hdecision : t.decision = .go next false) :
    RunsOut t.asset.name t.player.config.limit next
      ⟨t.departed next, t.played.stage.scopes, t.departure next false ++
        [.said (.exhausted t.asset.name t.seated.config.limit next)]⟩ where
  state_eq := rfl
  pending?_eq := rfl
  last := by
    refine ⟨t.opening, t.descriptor.id,
      [.notice (Player.transitionNotice t.descriptor.id next false),
        .said (.exhausted t.asset.name t.seated.config.limit next)], ?_, rfl⟩
    simp [t.departure_eq hdecision]
  ownEntries_eq := by
    rw [ownEntries_append, Turn.ownEntries_departure hdecision]
    rfl

theorem Turn.not_saysExhausted_events (t : Turn ι τ) : ¬SaysExhausted t.events := by
  rintro ⟨flow, limit, next, hsaid⟩
  have hcomplaint : .said (.exhausted flow limit next)
      ∈ (Player.complaints t.descriptor.id t.decision : List (Event τ)) := by
    simpa [events] using hsaid
  rcases hdecision : t.decision with (_ | message) | _ | message | ⟨next, yields⟩ <;>
    simp [hdecision, Player.complaints] at hcomplaint

theorem ends_of_begin {asset : Asset} {next : ActionId}
    (hcourse : Course r bridge more remaining (p.begin r bridge scopes asset next).player
      (p.begin r bridge scopes asset next).scopes o) (hasset : p.asset? = some asset)
    (hends : Ends more (p.begin r bridge scopes asset next).player o) :
    Ends more p (o.after (p.begin r bridge scopes asset next).events) := by
  rcases hcourse.cases_of_begin with ⟨complaint, hrefusal, hrefused⟩ | ⟨d, made, -, -, hbegin⟩
  · rw [hrefused]
    refine .within ?_ (not_saysExhausted_refusal hrefusal next p)
    exact Nat.zero_le _
  · have hnone := promptDepartures_eq_zero (p.begin_events r bridge scopes asset next).2
    rw [hbegin] at hends hnone ⊢
    exact hends.after hnone (ownEntries_embark ..) hasset.symm rfl

theorem Course.ends (h : Course r bridge more remaining p scopes o) : Ends more p o := by
  induction h with
  | rest => exact .within (Nat.zero_le _) (not_saysExhausted_of_ownEntries rfl)
  | stay t hdecision =>
    have hnone := t.departures_events (by simp [hdecision])
    refine .within ?_ t.not_saysExhausted_events
    exact promptDepartures_eq_zero hnone ▸ Nat.zero_le _
  | close t hdecision =>
    have hnone := Turn.departures_closing hdecision
    refine .within ?_ ?_
    · exact promptDepartures_eq_zero hnone ▸ Nat.zero_le _
    · rw [saysExhausted_append]
      exact fun hsays => hsays.elim t.not_saysExhausted_events
        (not_saysExhausted_of_ownEntries (ownEntries_farewell _ _))
  | yield t hdecision =>
    refine .within ?_ (not_saysExhausted_of_ownEntries (Turn.ownEntries_departure hdecision))
    rw [Turn.promptDepartures_departure hdecision]
    exact Nat.zero_le _
  | exhaust t hdecision =>
    have hasset : t.player.asset? = some t.asset := by
      rw [Player.asset?, t.phase_eq]
      rfl
    refine .out ?_ hasset (t.runsOut hdecision)
    rw [promptDepartures_append, Turn.promptDepartures_departure hdecision]
    rfl
  | @go more t next o hdecision hrest ih =>
    have hasset : (t.departed next).asset? = t.player.asset? := by
      rw [Player.asset?, Player.asset?, t.phase_eq]
      rfl
    rw [Outcome.after, List.append_assoc]
    exact (ends_of_begin hrest rfl ih).after (Turn.promptDepartures_departure hdecision)
      (Turn.ownEntries_departure hdecision) hasset rfl

end

/-! ### The turns, from where the player stands -/

namespace Player

variable {p : Player ι}

/-- Where the player stands when the first instance is updated: what is due is made before. -/
def entry (p : Player ι) (f : Frame ι τ) : Outcome ι τ :=
  match p.phase with
  | .poised asset next _ => p.embarked asset next f
  | .idle | .active _ _ _ | .finished => ⟨p, f.session.scopes, []⟩

theorem entry_of_idle (hidle : p.phase = .idle) (f : Frame ι τ) :
    p.entry f = ⟨p, f.session.scopes, []⟩ := by
  simp only [entry, hidle]

theorem entry_of_poised {asset : Asset} {next : ActionId} {last? : Option ActionId}
    (hpoised : p.phase = .poised asset next last?) (f : Frame ι τ) :
    p.entry f = p.embarked asset next f := by
  simp only [entry, hpoised]

theorem entry_of_active {asset : Asset} {id : ActionId} {live : ι}
    (hactive : p.phase = .active asset id live) (f : Frame ι τ) :
    p.entry f = ⟨p, f.session.scopes, []⟩ := by
  simp only [entry, hactive]

/-- What happens until the first instance is updated: one that is due is made, or refused. -/
theorem entry_events (hsound : p.IsSound) (f : Frame ι τ) :
    p.current?.toList.map .make ++ dealings (p.entry f).events
        = (p.entry f).player.current?.toList.map .make ∧
      attempts (p.entry f).events ≤ 1 ∧ departures (p.entry f).events = 0 := by
  rcases hsound.cases with hphase | ⟨asset, next, last?, hphase⟩ | ⟨asset, d, live, hphase, -⟩
  · rw [entry_of_idle hphase]
    exact ⟨by simp, Nat.zero_le 1, rfl⟩
  · have hnone : p.current? = none := by simp only [current?, hphase, Phase.current?]
    rw [entry_of_poised hphase, hnone, embarked]
    refine ⟨dealings_begin .., ?_, (begin_events ..).2⟩
    rw [attempts_begin]
  · rw [entry_of_active hphase]
    exact ⟨by simp, Nat.zero_le 1, rfl⟩

variable [Clock τ]

theorem exists_course (hsound : p.IsSound) (f : Frame ι τ) :
    ∃ notices o, IsQuiet notices ∧ ownEntries notices = [] ∧
      Course f.repertoire f.session.bridge p.spare (Clock.orZero f.delta) (p.entry f).player
        (p.entry f).scopes o ∧
      p.advance f = (o.after (p.entry f).events).after notices := by
  have hquiet : IsQuiet (deltaNotices f.delta) ∧ ownEntries (deltaNotices f.delta) = [] :=
    ⟨isQuiet_deltaNotices _, ownEntries_deltaNotices _⟩
  rcases hsound.cases with hphase | ⟨asset, next, last?, hphase⟩ | ⟨asset, d, live, hphase, -⟩
  · have hrest : p.current? = none := by simp only [current?, hphase, Phase.current?]
    rw [entry_of_idle hphase, advance_of_idle hphase]
    exact ⟨[], _, by simp [IsQuiet], rfl, .rest hrest, rfl⟩
  · obtain ⟨o, hcourse, heq⟩ := advance_of_poised hphase f
    rw [entry_of_poised hphase]
    refine ⟨_, o, hquiet.1, hquiet.2, hcourse, ?_⟩
    rw [heq, Outcome.after, Outcome.after, Outcome.after, List.append_assoc]
  · obtain ⟨o, hcourse, heq⟩ := advance_of_active hsound hphase f
    rw [entry_of_active hphase]
    exact ⟨_, o, hquiet.1, hquiet.2, hcourse, heq⟩

theorem ends_of_entry (hsound : p.IsSound) {f : Frame ι τ} {o : Outcome ι τ}
    (hcourse : Course f.repertoire f.session.bridge p.spare (Clock.orZero f.delta)
      (p.entry f).player (p.entry f).scopes o) :
    Ends p.spare p (o.after (p.entry f).events) := by
  have hends := hcourse.ends
  rcases hsound.cases with hphase | ⟨asset, next, last?, hphase⟩ | ⟨asset, d, live, hphase, -⟩
  · rw [entry_of_idle hphase] at hends ⊢
    exact hends
  · have hasset : p.asset? = some asset := by
      rw [asset?, hphase]
      rfl
    rw [entry_of_poised hphase, embarked] at hcourse hends ⊢
    exact ends_of_begin hcourse hasset hends
  · rw [entry_of_active hphase] at hends ⊢
    exact hends

/-- A player that plays and has no instance to update fails to make the one that is due. -/
theorem failsIn_of_entry (hsound : p.IsSound) {f : Frame ι τ} (hplays : p.isPlaying = true)
    (hnone : (p.entry f).player.current? = none) : p.FailsIn f := by
  rcases hsound.cases with hphase | ⟨asset, next, last?, hphase⟩ | ⟨asset, d, live, hphase, -⟩
  · rw [isPlaying_of_idle hphase] at hplays
    cases hplays
  · obtain ⟨o, hcourse, heq⟩ := advance_of_poised hphase f
    rw [entry_of_poised hphase, embarked] at hnone
    rcases hcourse.cases_of_begin with ⟨complaint, -, hrefused⟩ | ⟨d, made, -, -, hbegin⟩
    · have hend : p.advance f = ⟨p.ended true, f.session.scopes, deltaNotices f.delta ++
          (.attempted next :: .said complaint :: p.farewell true)⟩ := by
        rw [heq, ← List.append_nil (deltaNotices f.delta ++ _), Outcome.after, List.append_nil,
          List.append_assoc]
        exact congrArg (Outcome.after · (deltaNotices f.delta)) hrefused
      refine ⟨hplays, ?_, p.closing true, ?_, ?_, rfl⟩
      · rw [hend]
        rfl
      · simp [hend, farewell]
      · rw [hend]
        rfl
    · simp [hbegin, embark, current?, Phase.current?] at hnone
  · simp [entry_of_active hphase, current?, hphase, Phase.current?] at hnone

/-- The players that a host can have: it makes a new one, calls it, and writes to its variables. -/
inductive IsReachable (τ : Type) [Clock τ] : Player ι → Prop
  | new (config : PlayerConfig) (seed : UInt64) : IsReachable τ (Player.new config seed)
  | call {p : Player ι} (hp : IsReachable τ p) (c : Call ι τ) : IsReachable τ (p.call c).1
  | write {p : Player ι} (hp : IsReachable τ p) (store : Store) :
    IsReachable τ { p with bindings := store }

theorem IsReachable.isSound (h : p.IsReachable τ) : p.IsSound := by
  induction h with
  | new config seed => exact isSound_new config seed
  | call _ c ih => exact isSound_call ih c
  | write _ _ ih => exact ih

/-- **Every update comes to an end, and its work is bounded by the limit of transitions.** Whatever
was called before, and whatever the actions do, the update is a succession of turns of instances, at
most as many as the limit. Each of these instances is live before, or made for its turn, and updated
once. No more instances than that are attempted, and no more transitions made. A player that plays
updates an instance, or its run fails. Where as many transitions as the limit call for another
instance, the player yields before the last destination and warns of it once. Otherwise nothing is
said of the limit. -/
theorem updates_make_bounded_progress (hreach : p.IsReachable τ) (f : Frame ι τ) :
    let o := p.advance f
    let limit := max p.config.maxTransitions.toNat 1
    (∃ turns, Succession f.repertoire f.session.bridge (Clock.orZero f.delta) (p.entry f).player
        (p.entry f).scopes turns ∧
      p.current?.toList.map .make ++ dealings o.events = turns.flatMap Turn.dealings ∧
      turns.length ≤ limit ∧ (p.isPlaying = true → turns ≠ [] ∨ p.FailsIn f)) ∧
    attempts o.events ≤ limit ∧ departures o.events ≤ limit ∧
    (promptDepartures o.events = limit →
      ∃ asset next, p.asset? = some asset ∧ RunsOut asset.name limit next o) ∧
    (promptDepartures o.events ≠ limit → ¬SaysExhausted o.events) := by
  intro o limit
  have hsound := hreach.isSound
  have hspare : p.spare + 1 = limit := by
    rw [spare, PlayerConfig.limit]
    omega
  obtain ⟨notices, rest, hquiet, hsilent, hcourse, heq⟩ := exists_course hsound f
  obtain ⟨hdealings, hattempts, hdepartures⟩ := entry_events hsound f
  have hevents : o.events = notices ++ ((p.entry f).events ++ rest.events) := by
    change (p.advance f).events = _
    rw [heq]
    rfl
  refine ⟨?_, ?_, ?_, ?_⟩
  · obtain ⟨turns, hturns, hlength, hturnDealings, hnone⟩ := hcourse.exists_turns
    refine ⟨turns, hturns, ?_, by omega, fun hplays => ?_⟩
    · rw [← hturnDealings, ← hdealings, hevents]
      simp [dealings_of_isQuiet hquiet]
    · rw [or_iff_not_imp_left, not_not]
      exact fun hempty => failsIn_of_entry hsound hplays (hnone hempty)
  · have hmore := hcourse.attempts_le
    rw [hevents, attempts_append, attempts_append, attempts_of_isQuiet hquiet]
    omega
  · have hmore := hcourse.departures_le
    rw [hevents, departures_append, departures_append, departures_of_isQuiet hquiet, hdepartures]
    omega
  · have hends : Ends (p.spare + 0) p o := by
      have hzero := promptDepartures_eq_zero (departures_of_isQuiet hquiet)
      rw [show o = _ from heq]
      exact (ends_of_entry hsound hcourse).after hzero hsilent rfl rfl
    rw [Nat.add_zero] at hends
    cases hends with
    | within hcount hsays =>
      refine ⟨fun hall => ?_, fun _ => hsays⟩
      omega
    | @out asset next hcount hasset hout =>
      exact ⟨fun _ => ⟨asset, next, hasset, hout⟩, fun hfew => absurd (hcount.trans hspare) hfew⟩

/-- A flow that runs in a circle. -/
def carousel : Asset where
  name := "carousel"
  actions := [{ id := "turn", type := "branch", links := [{ target := "turn" }] }]
  index := [("turn", 0)]
  start? := some "turn"
  bindings := .empty
  consistent := Asset.isIndexOf_indexOf rfl

/-- The flow is started, and may make two transitions in an update. -/
def spinning : Player (Builtin Float32) :=
  ((new { maxTransitions := 2 } 0).call (.start carousel {} : Call (Builtin Float32) Float32)).1

theorem updates_make_bounded_progress_in_carousel :
    let f : Frame (Builtin Float32) Float32 := ⟨Builtin.repertoire, .new, 0⟩
    spinning.IsReachable Float32 ∧ RunsOut "carousel" 2 "turn" (spinning.advance f) := by
  intro f
  have hreach : spinning.IsReachable Float32 := .call (.new _ _) _
  have hcount : promptDepartures (spinning.advance f).events = 2 := by decide +kernel
  have hpending : (spinning.advance f).player.pending? = some "turn" := by decide +kernel
  obtain ⟨-, -, -, hruns, -⟩ := updates_make_bounded_progress hreach f
  obtain ⟨asset, next, hasset, hout⟩ := hruns hcount
  obtain rfl : carousel = asset := Option.some.inj hasset
  obtain rfl : "turn" = next := Option.some.inj (hpending.symm.trans hout.pending?_eq)
  exact ⟨hreach, hout⟩

end Player

end ActionGraph
