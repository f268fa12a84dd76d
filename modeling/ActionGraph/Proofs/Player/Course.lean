import ActionGraph.Proofs.Player.Calls

/-!
# The course of an update

What an update can do, case by case. A `Turn` is an update of a live instance, with all that goes
into it; what comes out is read off the turn. The course of an update is a chain of turns, each but
the last followed by an instance that is made for its destination. `run_course` says that every run
is such a chain, so that a fact about runs is proved by induction on the chain, and no other proof
opens `run`.

A chain has no case for a live instance that its asset does not know. The players that `IsSound`
describes have no such instance, and every call leaves a sound player sound.
-/

namespace ActionGraph

variable {ι τ : Type}

/-- Whether the session is told that an instance cannot be made. -/
def Complaint.IsRefusal : Complaint → Prop
  | .unknown _ _ | .unmade _ _ => True
  | .vanished _ _ | .troubled _ _ | .failed _ _ | .exhausted _ _ _ => False

namespace Player

/-! ### The end of a run -/

/-- What is reported of a run that ends here. -/
def closing (p : Player ι) (withError : Bool) : RunReport :=
  ⟨(p.asset?.map Asset.name).getD "", p.phase.last?, withError⟩

def ended (p : Player ι) (withError : Bool) : Player ι :=
  { p with phase := .idle, report? := some (p.closing withError) }

/-- What is told of the end of a run. -/
def farewell (p : Player ι) (withError : Bool) : List (Event τ) :=
  [.notice (finishNotice (p.closing withError)), .runFinished (p.closing withError)]

theorem finish_eq (p : Player ι) (withError : Bool) :
    p.finish withError = (p.ended withError, p.farewell (τ := τ) withError) := rfl

theorem abort_eq (p : Player ι) (scopes : Scopes) (complaint : Complaint) :
    p.abort scopes complaint
      = (⟨p.ended true, scopes, .said complaint :: p.farewell true⟩ : Outcome ι τ) := rfl

/-! ### Starting and stopping -/

section

variable {p : Player ι}

theorem stop_of_idle (hidle : p.phase = .idle) : p.stop = (p, ([] : List (Event τ))) := by
  simp only [stop, hidle]

theorem stop_of_poised {asset : Asset} {next : ActionId} {last? : Option ActionId}
    (hpoised : p.phase = .poised asset next last?) :
    p.stop = (p.ended false, p.farewell (τ := τ) false) := by
  simp only [stop, hpoised, finish_eq]

theorem stop_of_active {asset : Asset} {id : ActionId} {live : ι}
    (hactive : p.phase = .active asset id live) :
    p.stop = (p.ended false,
      (.notice ⟨.debug, "cancelling live action", [("action", id)]⟩ : Event τ) :: .cancelled id ::
        p.farewell false) := by
  simp only [stop, hactive, finish_eq]

theorem isPlaying_of_idle (hidle : p.phase = .idle) : p.isPlaying = false := by
  simp only [isPlaying, current?, pending?, hidle]
  rfl

theorem isPlaying_of_poised {asset : Asset} {next : ActionId} {last? : Option ActionId}
    (hpoised : p.phase = .poised asset next last?) : p.isPlaying = true := by
  simp only [isPlaying, current?, pending?, hpoised]
  rfl

theorem isPlaying_of_active {asset : Asset} {id : ActionId} {live : ι}
    (hactive : p.phase = .active asset id live) : p.isPlaying = true := by
  simp only [isPlaying, current?, pending?, hactive]
  rfl

def greeting (asset : Asset) (id : ActionId) : List (Event τ) :=
  [.notice ⟨.info, "flow started", [("flow", asset.name), ("start", id)]⟩, .runStarted asset.name]

/-- A start is refused, or the run before it ends and the player stands before its first action. -/
theorem start_eq (p : Player ι) (asset : Asset) (options : StartOptions) :
    p.start (τ := τ) asset options = (resolveStart asset options).map fun id =>
      ((p.stop (τ := τ)).1.poise asset options id, (p.stop (τ := τ)).2 ++ greeting asset id) := by
  rw [start]
  cases resolveStart asset options <;> rfl

theorem exists_poise_of_start {started : Player ι} {asset : Asset} {options : StartOptions}
    {told : List (Event τ)} (hstart : p.start asset options = .ok (started, told)) :
    ∃ id, resolveStart asset options = .ok id ∧
      started = (p.stop (τ := τ)).1.poise asset options id := by
  rw [start_eq] at hstart
  cases hresolve : resolveStart asset options with
  | error e => simp [hresolve, Except.map] at hstart
  | ok id =>
    simp only [hresolve, Except.map, Except.ok.injEq, Prod.mk.injEq] at hstart
    exact ⟨id, rfl, hstart.1.symm⟩

end

end Player

/-! ### Events that only tell something -/

/-- Whether an event only tells something: nothing is done to an instance, and none is attempted. -/
def Event.isTelling : Event τ → Bool
  | .runStarted _ | .runFinished _ | .said _ | .noted _ | .notice _ => true
  | .attempted _ | .made _ _ | .started _ | .updated _ _ | .decided _ _ | .cancelled _ => false

/-- Events that only tell something. -/
def IsQuiet (events : List (Event τ)) : Prop := ∀ e ∈ events, e.isTelling = true

/-- What is picked out of events comes from the first one and then from the others. -/
theorem pick_cons {β : Type} (pick : Event τ → Option β) (e : Event τ) (events : List (Event τ)) :
    (e :: events).filterMap pick = (pick e).toList ++ events.filterMap pick := by
  cases h : pick e <;> simp [h]

theorem IsQuiet.pick_eq_nil {β : Type} {pick : Event τ → Option β} {events : List (Event τ)}
    (h : IsQuiet events) (hpick : ∀ e, e.isTelling = true → pick e = none) :
    events.filterMap pick = [] :=
  List.filterMap_eq_nil_iff.2 fun e he => hpick e (h e he)

@[simp] theorem isQuiet_noted (notes : List (Note τ)) : IsQuiet (notes.map Event.noted) := by
  intro e he
  obtain ⟨note, -, rfl⟩ := List.mem_map.1 he
  rfl

namespace Player

@[simp] theorem isQuiet_farewell (p : Player ι) (withError : Bool) :
    IsQuiet (p.farewell withError : List (Event τ)) := by
  simp [IsQuiet, farewell, Event.isTelling]

@[simp] theorem isQuiet_greeting (asset : Asset) (id : ActionId) :
    IsQuiet (greeting asset id : List (Event τ)) := by
  simp [IsQuiet, greeting, Event.isTelling]

@[simp] theorem isQuiet_complaints (id : ActionId) (decision : Decision) :
    IsQuiet (complaints id decision : List (Event τ)) := by
  rcases decision with (_ | message) | _ | message | next <;>
    simp [IsQuiet, complaints, Event.isTelling]

@[simp] theorem isQuiet_deltaNotices [Clock τ] (delta : τ) : IsQuiet (deltaNotices delta) := by
  rw [deltaNotices]
  split <;> simp [IsQuiet, Event.isTelling]

theorem notMem_deltaNotices [Clock τ] {e : Event τ} (h : ∀ notice, e ≠ .notice notice)
    (delta : τ) : e ∉ deltaNotices delta := by
  rw [deltaNotices]
  split
  · exact List.not_mem_nil
  · exact fun hmem => h _ (List.mem_singleton.1 hmem)

/-! ### Making an instance -/

section

variable (r : Repertoire ι τ) (bridge : Bridge) (p : Player ι) (scopes : Scopes) (asset : Asset)

/-- What comes of an instance that is made and started. -/
def embark (d : Descriptor) (made : ι) : Outcome ι τ :=
  let played := r.start bridge d made (p.stage scopes)
  ⟨{ p.behind played.stage with phase := .active asset d.id played.result }, played.stage.scopes,
    [.attempted d.id, .made d (p.stage scopes),
      .notice ⟨.debug, "action started", [("action", d.id), ("kind", d.type)]⟩, .started d] ++
      played.notes.map .noted⟩

variable {asset} {next : ActionId} {d : Descriptor}

theorem begin_of_unknown (hunknown : asset.find? next = none) :
    begin r bridge p scopes asset next
      = (p.abort scopes (.unknown next asset.name)).after [.attempted next] := by
  simp only [begin, hunknown]

theorem begin_of_unmade (hd : asset.find? next = some d) {e : FlowFault}
    (hmake : r.make d.type d = .error e) :
    begin r bridge p scopes asset next
      = (p.abort scopes (.unmade next e)).after [.attempted next] := by
  simp only [begin, hd, hmake]

theorem begin_of_made (hd : asset.find? next = some d) {made : ι}
    (hmake : r.make d.type d = .ok made) :
    begin r bridge p scopes asset next = embark r bridge p scopes asset d made := by
  obtain rfl : d.id = next := Asset.id_of_find? hd
  simp only [begin, hd, hmake, embark]

/-- An instance that is due is refused, and the run ends with an error, or it is made and starts. -/
theorem begin_cases (asset : Asset) (next : ActionId) :
    (∃ complaint : Complaint, complaint.IsRefusal ∧ begin r bridge p scopes asset next
      = (p.abort scopes complaint).after [.attempted next]) ∨
    ∃ d made, asset.find? next = some d ∧ r.make d.type d = .ok made ∧
      begin r bridge p scopes asset next = embark r bridge p scopes asset d made := by
  cases hd : asset.find? next with
  | none => exact .inl ⟨.unknown next asset.name, trivial, begin_of_unknown r bridge p scopes hd⟩
  | some d =>
    cases hmake : r.make d.type d with
    | error e => exact .inl ⟨.unmade next e, trivial, begin_of_unmade r bridge p scopes hd hmake⟩
    | ok made => exact .inr ⟨d, made, rfl, hmake, begin_of_made r bridge p scopes hd hmake⟩

end

end Player

/-! ### Turns -/

/-- An update of a live instance. -/
structure Turn (ι τ : Type) where
  repertoire : Repertoire ι τ
  bridge : Bridge
  player : Player ι
  scopes : Scopes
  remaining : τ
  asset : Asset
  descriptor : Descriptor
  /-- The instance as it comes to the update. -/
  live : ι
  phase_eq : player.phase = .active asset descriptor.id live
  find?_eq : asset.find? descriptor.id = some descriptor

/-- Whether a run ends by a decision, and then whether with an error. -/
def Decision.closes? : Decision → Option Bool
  | .stay _ | .go _ _ => none
  | .finish => some false
  | .fail _ => some true

namespace Turn

variable [Clock τ] (t : Turn ι τ)

def context : UpdateContext τ := .new t.remaining

def played : Performance τ (ι × UpdateContext τ) :=
  t.repertoire.update t.bridge t.descriptor t.live (t.player.stage t.scopes) t.context

/-- The instance as it comes out of the update. -/
def heir : ι := t.played.result.1

def decision : Decision := t.played.result.2.decision

/-- The player behind the update, when the decision has not been carried out yet. -/
def seated : Player ι :=
  { t.player.behind t.played.stage with phase := .active t.asset t.descriptor.id t.heir }

/-- What happens before the decision is carried out. -/
def events : List (Event τ) :=
  .updated t.descriptor t.context.remaining :: t.played.notes.map .noted ++
    .decided t.descriptor.id t.decision :: Player.complaints t.descriptor.id t.decision

/-- The player on its way to another action. -/
def departed (next : ActionId) : Player ι :=
  { t.seated with phase := .poised t.asset next (some t.descriptor.id) }

/-- What happens until the player is on its way. -/
def departure (next : ActionId) (yields : Bool) : List (Event τ) :=
  t.events ++ [.notice (Player.transitionNotice t.descriptor.id next yields)]

def arrival (next : ActionId) : Outcome ι τ :=
  Player.begin t.repertoire t.bridge (t.departed next) t.played.stage.scopes t.asset next

end Turn

/-- The course that an update takes from a player with a live instance. -/
inductive Course [Clock τ] :
    Repertoire ι τ → Bridge → Nat → τ → Player ι → Scopes → Outcome ι τ → Prop
  | rest {r bridge more remaining p scopes} (hrest : p.current? = none) :
    Course r bridge more remaining p scopes ⟨p, scopes, []⟩
  | stay {more} (t : Turn ι τ) {complaint? : Option String}
      (hdecision : t.decision = .stay complaint?) :
    Course t.repertoire t.bridge more t.remaining t.player t.scopes
      ⟨t.seated, t.played.stage.scopes, t.events⟩
  | close {more} (t : Turn ι τ) {withError : Bool}
      (hdecision : t.decision.closes? = some withError) :
    Course t.repertoire t.bridge more t.remaining t.player t.scopes
      ⟨t.seated.ended withError, t.played.stage.scopes, t.events ++ t.seated.farewell withError⟩
  /-- The destination waits for the next frame. -/
  | yield {more} (t : Turn ι τ) {next : ActionId} (hdecision : t.decision = .go next true) :
    Course t.repertoire t.bridge more t.remaining t.player t.scopes
      ⟨t.departed next, t.played.stage.scopes, t.departure next true⟩
  /-- The limit of transitions is reached. -/
  | exhaust (t : Turn ι τ) {next : ActionId} (hdecision : t.decision = .go next false) :
    Course t.repertoire t.bridge 0 t.remaining t.player t.scopes
      ⟨t.departed next, t.played.stage.scopes, t.departure next false ++
        [.said (.exhausted t.asset.name t.seated.config.limit next)]⟩
  | go {more} (t : Turn ι τ) {next : ActionId} {o : Outcome ι τ}
      (hdecision : t.decision = .go next false)
      (hrest : Course t.repertoire t.bridge more t.played.result.2.remaining
        (t.arrival next).player (t.arrival next).scopes o) :
    Course t.repertoire t.bridge (more + 1) t.remaining t.player t.scopes
      (o.after (t.departure next false ++ (t.arrival next).events))

theorem Course.eq_of_rest [Clock τ] {r : Repertoire ι τ} {bridge : Bridge} {more : Nat}
    {remaining : τ} {p : Player ι} {scopes : Scopes} {o : Outcome ι τ}
    (h : Course r bridge more remaining p scopes o) (hrest : p.current? = none) :
    o = ⟨p, scopes, []⟩ := by
  cases h with
  | rest => rfl
  | stay t | close t | yield t | exhaust t | go t =>
    simp [Player.current?, t.phase_eq, Phase.current?] at hrest

/-- What follows an instance that is due: it is refused and nothing comes of the rest of the update,
or it is made and starts. -/
theorem Course.cases_of_begin [Clock τ] {r : Repertoire ι τ} {bridge : Bridge} {more : Nat}
    {remaining : τ} {p : Player ι} {scopes : Scopes} {asset : Asset} {next : ActionId}
    {o : Outcome ι τ}
    (h : Course r bridge more remaining (p.begin r bridge scopes asset next).player
      (p.begin r bridge scopes asset next).scopes o) :
    (∃ complaint : Complaint, complaint.IsRefusal ∧
      o.after (p.begin r bridge scopes asset next).events
        = ⟨p.ended true, scopes, .attempted next :: .said complaint :: p.farewell true⟩) ∨
    ∃ d made, asset.find? next = some d ∧ r.make d.type d = .ok made ∧
      p.begin r bridge scopes asset next = Player.embark r bridge p scopes asset d made := by
  rcases Player.begin_cases r bridge p scopes asset next with ⟨complaint, hrefusal, hbegin⟩ | hmade
  · rw [hbegin] at h
    rw [h.eq_of_rest rfl, hbegin]
    exact .inl ⟨complaint, hrefusal, by simp [Outcome.after, Player.abort_eq]⟩
  · exact .inr hmade

namespace Player

/-- The asset of a player knows its live instance, and no observer is still hearing of an end. -/
def IsSound (p : Player ι) : Prop :=
  match p.phase with
  | .active asset id _ => (asset.find? id).isSome
  | .finished => False
  | .idle | .poised _ _ _ => True

theorem IsSound.cases {p : Player ι} (hsound : p.IsSound) :
    p.phase = .idle ∨ (∃ asset next last?, p.phase = .poised asset next last?) ∨
      ∃ asset d live, p.phase = .active asset (Descriptor.id d) live ∧
        asset.find? d.id = some d := by
  cases hphase : p.phase with
  | idle => exact .inl rfl
  | poised asset next last? => exact .inr (.inl ⟨asset, next, last?, rfl⟩)
  | active asset id live =>
    simp only [IsSound, hphase] at hsound
    obtain ⟨d, hd⟩ := Option.isSome_iff_exists.1 hsound
    obtain rfl : d.id = id := Asset.id_of_find? hd
    exact .inr (.inr ⟨asset, d, live, rfl, hd⟩)
  | finished => simp only [IsSound, hphase] at hsound

/-- A player has one live instance at most. -/
theorem eq_of_active {p : Player ι} {asset other : Asset} {d d' : Descriptor} {live live' : ι}
    (hphase : p.phase = .active asset d.id live) (hd : asset.find? d.id = some d)
    (hphase' : p.phase = .active other d'.id live') (hd' : other.find? d'.id = some d') :
    asset = other ∧ d = d' ∧ live = live' := by
  have hsame := hphase.symm.trans hphase'
  simp only [Phase.active.injEq] at hsame
  obtain ⟨rfl, hid, rfl⟩ := hsame
  rw [hid] at hd
  exact ⟨rfl, Option.some.inj (hd.symm.trans hd'), rfl⟩

theorem isSound_begin (r : Repertoire ι τ) (bridge : Bridge) (p : Player ι) (scopes : Scopes)
    (asset : Asset) (next : ActionId) : (begin r bridge p scopes asset next).player.IsSound := by
  rcases begin_cases r bridge p scopes asset next with
    ⟨_, -, hbegin⟩ | ⟨d, made, hd, -, hbegin⟩
  · rw [hbegin]
    trivial
  · rw [hbegin]
    have hknown : asset.find? d.id = some d := by rwa [Asset.id_of_find? hd]
    simp only [IsSound, embark, hknown, Option.isSome_some]

theorem config_begin (r : Repertoire ι τ) (bridge : Bridge) (p : Player ι) (scopes : Scopes)
    (asset : Asset) (next : ActionId) :
    (begin r bridge p scopes asset next).player.config = p.config := by
  rcases begin_cases r bridge p scopes asset next with
    ⟨complaint, -, hbegin⟩ | ⟨d, made, -, -, hbegin⟩
  · rw [hbegin]
    rfl
  · rw [hbegin]
    rfl

variable [Clock τ]

theorem run_of_rest (r : Repertoire ι τ) (bridge : Bridge) (more : Nat) (remaining : τ)
    {p : Player ι} (scopes : Scopes) (hrest : p.current? = none) :
    run r bridge more remaining p scopes = ⟨p, scopes, []⟩ := by
  rw [run]
  cases hphase : p.phase with
  | active asset id live => simp [current?, hphase, Phase.current?] at hrest
  | idle | poised | finished => rfl

theorem run_turn (t : Turn ι τ) (more : Nat) :
    run t.repertoire t.bridge more t.remaining t.player t.scopes =
      match t.decision with
      | .stay _ => ⟨t.seated, t.played.stage.scopes, t.events⟩
      | .finish =>
        ⟨t.seated.ended false, t.played.stage.scopes, t.events ++ t.seated.farewell false⟩
      | .fail _ =>
        ⟨t.seated.ended true, t.played.stage.scopes, t.events ++ t.seated.farewell true⟩
      | .go next yields =>
        if yields then ⟨t.departed next, t.played.stage.scopes, t.departure next yields⟩
        else
          match more with
          | 0 => ⟨t.departed next, t.played.stage.scopes, t.departure next yields ++
              [.said (.exhausted t.asset.name t.seated.config.limit next)]⟩
          | more + 1 =>
            (run t.repertoire t.bridge more t.played.result.2.remaining
              (t.arrival next).player (t.arrival next).scopes).after
              (t.departure next yields ++ (t.arrival next).events) := by
  rw [run]
  simp only [t.phase_eq, t.find?_eq]
  rfl

/-- **Every run of a sound player is a chain of turns.** -/
theorem run_course (r : Repertoire ι τ) (bridge : Bridge) (more : Nat) (remaining : τ)
    {p : Player ι} (scopes : Scopes) (hsound : p.IsSound) :
    Course r bridge more remaining p scopes (run r bridge more remaining p scopes) := by
  -- Only a transition that is followed runs again, with one transition less to follow.
  induction more using Nat.strongRecOn generalizing remaining p scopes with
  | ind more ih =>
    rcases hsound.cases with hphase | ⟨asset, next, last?, hphase⟩ | ⟨asset, d, live, hphase, hd⟩
    · have hrest : p.current? = none := by simp only [current?, hphase, Phase.current?]
      rw [run_of_rest r bridge more remaining scopes hrest]
      exact .rest hrest
    · have hrest : p.current? = none := by simp only [current?, hphase, Phase.current?]
      rw [run_of_rest r bridge more remaining scopes hrest]
      exact .rest hrest
    · let t : Turn ι τ := ⟨r, bridge, p, scopes, remaining, asset, d, live, hphase, hd⟩
      change Course t.repertoire t.bridge more t.remaining t.player t.scopes
        (run t.repertoire t.bridge more t.remaining t.player t.scopes)
      rw [run_turn]
      cases hdecision : t.decision with
      | stay complaint? => exact .stay t hdecision
      | finish => exact .close t (by rw [hdecision]; rfl)
      | fail message => exact .close t (by rw [hdecision]; rfl)
      | go next yields =>
        cases yields with
        | true => exact .yield t hdecision
        | false =>
          cases more with
          | zero => exact .exhaust t hdecision
          | succ more =>
            exact .go t hdecision (ih more (Nat.lt_succ_self more) _ _ (isSound_begin ..))

end Player

theorem Course.isSound [Clock τ] {r : Repertoire ι τ} {bridge : Bridge} {more : Nat} {remaining : τ}
    {p : Player ι} {scopes : Scopes} {o : Outcome ι τ}
    (h : Course r bridge more remaining p scopes o) (hsound : p.IsSound) : o.player.IsSound := by
  induction h with
  | rest => exact hsound
  | stay t => simp only [Player.IsSound, Turn.seated, t.find?_eq, Option.isSome_some]
  | close | yield | exhaust => trivial
  | go _ _ _ ih => exact ih (Player.isSound_begin ..)

namespace Player

/-! ### Calls of a sound player -/

variable [Clock τ] {p : Player ι}

/-- How many transitions of an update may be followed by another action in it. -/
def spare (p : Player ι) : Nat := p.config.limit - 1

theorem advance_of_idle (hidle : p.phase = .idle) (f : Frame ι τ) :
    p.advance f = ⟨p, f.session.scopes, []⟩ := by
  simp only [advance, update, hidle]

def embarked (p : Player ι) (asset : Asset) (next : ActionId) (f : Frame ι τ) : Outcome ι τ :=
  begin f.repertoire f.session.bridge p f.session.scopes asset next

theorem advance_of_poised {asset : Asset} {next : ActionId} {last? : Option ActionId}
    (hpoised : p.phase = .poised asset next last?) (f : Frame ι τ) :
    ∃ o, Course f.repertoire f.session.bridge p.spare (Clock.orZero f.delta)
        (p.embarked asset next f).player (p.embarked asset next f).scopes o ∧
      p.advance f = o.after (deltaNotices f.delta ++ (p.embarked asset next f).events) := by
  refine ⟨_, run_course _ _ _ _ _ (isSound_begin ..), ?_⟩
  simp only [advance, update, hpoised, spare, embarked]

theorem advance_of_active (hsound : p.IsSound) {asset : Asset} {id : ActionId} {live : ι}
    (hactive : p.phase = .active asset id live) (f : Frame ι τ) :
    ∃ o, Course f.repertoire f.session.bridge p.spare (Clock.orZero f.delta) p f.session.scopes o ∧
      p.advance f = o.after (deltaNotices f.delta) := by
  refine ⟨_, run_course _ _ _ _ _ hsound, ?_⟩
  simp only [advance, update, hactive, spare]

theorem call_start_of_error {asset : Asset} {options : StartOptions} {e : FlowFault}
    (hstart : resolveStart asset options = .error e) (p : Player ι) :
    p.call (.start asset options : Call ι τ) = (p, []) := by
  rw [call, start_eq, hstart]
  rfl

theorem call_start_of_ok {asset : Asset} {options : StartOptions} {id : ActionId}
    (hstart : resolveStart asset options = .ok id) (p : Player ι) :
    p.call (.start asset options : Call ι τ)
      = ((p.stop (τ := τ)).1.poise asset options id, p.stop.2 ++ greeting asset id) := by
  rw [call, start_eq, hstart]
  rfl

theorem isSound_call (hsound : p.IsSound) (c : Call ι τ) : (p.call c).1.IsSound := by
  cases c with
  | start asset options =>
    cases hstart : resolveStart asset options with
    | error e => rwa [call_start_of_error hstart]
    | ok id =>
      rw [call_start_of_ok hstart]
      trivial
  | stop =>
    rw [call]
    rcases hsound.cases with hphase | ⟨asset, next, last?, hphase⟩ | ⟨asset, d, live, hphase, -⟩
    · rwa [stop_of_idle hphase]
    · rw [stop_of_poised hphase]
      trivial
    · rw [stop_of_active hphase]
      trivial
  | update f =>
    rw [call]
    rcases hsound.cases with hphase | ⟨asset, next, last?, hphase⟩ | ⟨asset, d, live, hphase, -⟩
    · rwa [advance_of_idle hphase]
    · obtain ⟨o, hcourse, heq⟩ := advance_of_poised hphase f
      rw [heq]
      exact hcourse.isSound (isSound_begin ..)
    · obtain ⟨o, hcourse, heq⟩ := advance_of_active hsound hphase f
      rw [heq]
      exact hcourse.isSound hsound

theorem isSound_after (hsound : p.IsSound) (calls : List (Call ι τ)) : (p.after calls).IsSound :=
  after_induction hsound (fun _ c hp => isSound_call hp c) calls

end Player

end ActionGraph
