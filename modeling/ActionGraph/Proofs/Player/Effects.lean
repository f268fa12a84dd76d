import ActionGraph.Proofs.Action.Effect
import ActionGraph.Proofs.Player.Grounded
import ActionGraph.Proofs.Split

/-!
# What runs of built-in actions change

What a run changes can be read off its events. The variables of the player and the scopes of the
session are what has been written by then, in the order of the updates; the generator has made one
choice for each `random_branch` that had something to choose from. An instance that changes
something is updated once, as soon as it is made, and a write comes before the look at the links.
Nothing else that happens changes anything, whichever way the updates fall.

`Unfolds` is the grammar of such events. It is kept by every turn, since an instance that stays is
of a type that changes nothing.
-/

namespace ActionGraph

variable {τ : Type}

/-! ### What events tell of changes -/

/-- What is written by the update of an instance. -/
def Event.write? : Event τ → Option SetVariableParams
  | .updated d _ => d.write?
  | _ => none

def writes (events : List (Event τ)) : List SetVariableParams := events.filterMap Event.write?

/-- What an instance that is made will choose from. -/
def Event.choice? (bridge : Bridge) : Event τ → Option (List Link)
  | .made d stage => d.choice? bridge stage
  | _ => none

def choices (bridge : Bridge) (events : List (Event τ)) : List (List Link) :=
  events.filterMap (Event.choice? bridge)

/-- The stage behind events, if it was this one before. -/
def Stage.replay (stage : Stage) (bridge : Bridge) (events : List (Event τ)) : Stage :=
  stage.amended (writes events) (choices bridge events)

theorem Stage.replay_cons (stage : Stage) (bridge : Bridge) (e : Event τ)
    (events : List (Event τ)) :
    stage.replay bridge (e :: events)
      = (stage.amended e.write?.toList (e.choice? bridge).toList).replay bridge events := by
  have hwrites : writes (e :: events) = e.write?.toList ++ writes events := pick_cons ..
  have hchoices : choices bridge (e :: events)
      = (e.choice? bridge).toList ++ choices bridge events := pick_cons ..
  rw [replay, hwrites, hchoices, amended_append, replay]

/-- An event that tells of no change is left out. -/
theorem Stage.replay_cons_of_none (stage : Stage) {bridge : Bridge} {e : Event τ}
    (hwrite : e.write? = none) (hchoice : e.choice? bridge = none) (events : List (Event τ)) :
    stage.replay bridge (e :: events) = stage.replay bridge events := by
  rw [replay_cons, hwrite, hchoice]
  rfl

theorem Stage.replay_played (stage : Stage) (bridge : Bridge) (d : Descriptor) (notice : Notice)
    (remaining : τ) (rest : List (Event τ)) :
    stage.replay bridge
        (.made d stage :: .notice notice :: .started d :: .updated d remaining :: rest)
      = (stage.behind bridge d).replay bridge rest := by
  have hbehind : stage.behind bridge d
      = (stage.amended [] (d.choice? bridge stage).toList).amended d.write?.toList [] := by
    rw [← amended_append, List.append_nil, List.nil_append]
    rfl
  rw [hbehind, replay_cons, replay_cons_of_none _ rfl rfl, replay_cons_of_none _ rfl rfl,
    replay_cons]
  rfl

/-- An instance that is updated, if it changes something. -/
def Event.updatedActor? : Event τ → Option Descriptor
  | .updated d _ => if d.acts then some d else none
  | _ => none

/-- An instance that is made, if it will change something. -/
def Event.madeActor? : Event τ → Option Descriptor
  | .made d _ => if d.acts then some d else none
  | _ => none

/-- Whether an event is neither the making nor an update of an instance. -/
def Event.isAside : Event τ → Bool
  | .made _ _ | .updated _ _ => false
  | _ => true

namespace Event

variable {e : Event τ}

theorem write?_of_isAside (h : e.isAside = true) : e.write? = none := by
  cases e <;> first | rfl | simp [isAside] at h

theorem choice?_of_isAside (h : e.isAside = true) (bridge : Bridge) : e.choice? bridge = none := by
  cases e <;> first | rfl | simp [isAside] at h

theorem updatedActor?_of_isAside (h : e.isAside = true) : e.updatedActor? = none := by
  cases e <;> first | rfl | simp [isAside] at h

theorem madeActor?_of_isAside (h : e.isAside = true) : e.madeActor? = none := by
  cases e <;> first | rfl | simp [isAside] at h

end Event

/-- What is told of the start of an instance. -/
def Descriptor.startNotice (d : Descriptor) : Notice :=
  ⟨.debug, "action started", [("action", d.id), ("kind", d.type)]⟩

/-- Whether an action that writes goes on with what its links are worth when it has written. -/
def Descriptor.LooksBehindWrite (d : Descriptor) (bridge : Bridge) (stage : Stage)
    (rest : List (Event τ)) : Prop :=
  ∀ w, d.write? = some w →
    let found : Performance τ (Option Link) := (stage.amended [w] []).firstValid bridge d
    ∃ more, rest = found.notes.map .noted ++ .decided d.id (.along found.result) :: more

/-- What an instance does when it has been made on this stage. -/
def Descriptor.IsPlayed (d : Descriptor) (bridge : Bridge) (stage : Stage)
    (events : List (Event τ)) : Prop :=
  ∃ remaining rest, events = .notice d.startNotice :: .started d :: .updated d remaining :: rest ∧
    d.LooksBehindWrite bridge stage rest

theorem Descriptor.LooksBehindWrite.append {d : Descriptor} {bridge : Bridge} {stage : Stage}
    {rest : List (Event τ)} (h : d.LooksBehindWrite bridge stage rest) (more : List (Event τ)) :
    d.LooksBehindWrite bridge stage (rest ++ more) := by
  intro w hw found
  obtain ⟨others, hrest⟩ := h w hw
  exact ⟨others ++ more, by rw [hrest, List.append_assoc, List.cons_append]⟩

/-! ### The grammar of changes -/

/-- Events that take one stage to another. -/
inductive Unfolds (bridge : Bridge) : Stage → List (Event τ) → Stage → Prop
  | nil (stage : Stage) : Unfolds bridge stage [] stage
  | aside {stage last : Stage} {e : Event τ} {rest : List (Event τ)} (haside : e.isAside = true)
      (hrest : Unfolds bridge stage rest last) : Unfolds bridge stage (e :: rest) last
  /-- An instance that changes nothing is updated once more. -/
  | linger {stage last : Stage} {d : Descriptor} {remaining : τ} {rest : List (Event τ)}
      (hacts : d.acts = false) (hrest : Unfolds bridge stage rest last) :
    Unfolds bridge stage (.updated d remaining :: rest) last
  /-- An instance is made and updated for the first time. -/
  | play {stage last : Stage} {d : Descriptor} {remaining : τ} {rest : List (Event τ)}
      (hlooks : d.LooksBehindWrite bridge stage rest)
      (hrest : Unfolds bridge (stage.behind bridge d) rest last) :
    Unfolds bridge stage (.made d stage :: .notice d.startNotice :: .started d ::
      .updated d remaining :: rest) last

namespace Unfolds

variable {bridge : Bridge} {stage next last : Stage} {events more : List (Event τ)}

theorem append (h : Unfolds bridge stage events next) (hmore : Unfolds bridge next more last) :
    Unfolds bridge stage (events ++ more) last := by
  induction h with
  | nil => exact hmore
  | aside haside _ ih => exact .aside haside (ih hmore)
  | linger hacts _ ih => exact .linger hacts (ih hmore)
  | play hlooks _ ih => exact .play (hlooks.append more) (ih hmore)

theorem of_asides (stage : Stage) (h : ∀ e ∈ events, e.isAside = true) :
    Unfolds bridge stage events stage := by
  induction events with
  | nil => exact .nil stage
  | cons e rest ih =>
    obtain ⟨he, hrest⟩ := List.forall_mem_cons.1 h
    exact .aside he (ih hrest)

/-- Nothing but what is written and chosen changes the stage. -/
theorem eq_replay (h : Unfolds bridge stage events last) : last = stage.replay bridge events := by
  induction h with
  | nil => rfl
  | aside haside _ ih =>
    rw [ih, Stage.replay_cons_of_none _ (Event.write?_of_isAside haside)
      (Event.choice?_of_isAside haside bridge)]
  | @linger _ _ d remaining _ hacts _ ih =>
    have hwrite : (.updated d remaining : Event τ).write? = none :=
      Descriptor.write?_of_acts_eq_false hacts
    rw [ih, Stage.replay_cons_of_none _ hwrite rfl]
  | play _ _ ih => rw [ih, Stage.replay_played]

/-- Every instance that changes something is updated once, as soon as it is made. -/
theorem updatedActors_eq (h : Unfolds bridge stage events last) :
    events.filterMap Event.updatedActor? = events.filterMap Event.madeActor? := by
  induction h with
  | nil => rfl
  | aside haside _ ih =>
    rw [List.filterMap_cons_none (Event.updatedActor?_of_isAside haside),
      List.filterMap_cons_none (Event.madeActor?_of_isAside haside), ih]
  | linger hacts _ ih =>
    simp [List.filterMap_cons, Event.updatedActor?, Event.madeActor?, hacts, ih]
  | play _ _ ih => simp [List.filterMap_cons, Event.updatedActor?, Event.madeActor?, ih]

/-- Every instance is made on the stage behind all changes before it, and played at once. -/
theorem split_made (h : Unfolds bridge stage events last) {pre post : List (Event τ)}
    {d : Descriptor} {on : Stage} (hsplit : events = pre ++ .made d on :: post) :
    on = stage.replay bridge pre ∧ d.IsPlayed bridge on post := by
  induction h generalizing pre with
  | nil => simp at hsplit
  | @aside stage last e rest haside hrest ih =>
    cases pre with
    | nil =>
      obtain ⟨rfl, -⟩ := List.cons.inj hsplit
      simp [Event.isAside] at haside
    | cons other pre =>
      obtain ⟨rfl, rfl⟩ := List.cons.inj hsplit
      obtain ⟨hon, hplayed⟩ := ih rfl
      rw [Stage.replay_cons_of_none _ (Event.write?_of_isAside haside)
        (Event.choice?_of_isAside haside bridge)]
      exact ⟨hon, hplayed⟩
  | @linger _ _ other remaining _ hacts _ ih =>
    have hwrite : (.updated other remaining : Event τ).write? = none :=
      Descriptor.write?_of_acts_eq_false hacts
    cases pre with
    | nil => simp at hsplit
    | cons first pre =>
      obtain ⟨rfl, rfl⟩ := List.cons.inj hsplit
      obtain ⟨hon, hplayed⟩ := ih rfl
      rw [Stage.replay_cons_of_none _ hwrite rfl]
      exact ⟨hon, hplayed⟩
  | @play stage _ other remaining rest hlooks _ ih =>
    cases pre with
    | nil =>
      obtain ⟨hmade, rfl⟩ := List.cons.inj hsplit
      obtain ⟨rfl, rfl⟩ := Event.made.inj hmade
      exact ⟨rfl, remaining, rest, rfl, hlooks⟩
    | cons first pre =>
      obtain ⟨rfl, htail⟩ := List.cons.inj hsplit
      -- The next instance is made behind the first update of this one.
      have hclear : (.made d on : Event τ) ∉
          [.notice other.startNotice, .started other, .updated other remaining] := by simp
      obtain ⟨mid, rfl, hmid⟩ := exists_split_of_notMem hclear htail
      obtain ⟨hon, hplayed⟩ := ih hmid
      refine ⟨?_, hplayed⟩
      rw [hon]
      exact (Stage.replay_played ..).symm

end Unfolds

/-! ### Turns and courses unfold -/

variable [Clock τ]

/-- A live instance is one that its maker has made. -/
def Player.HasMade (p : Player (Builtin τ)) : Prop :=
  ∀ asset d live, p.phase = .active asset (Descriptor.id d) live → asset.find? d.id = some d →
    ∃ made, Builtin.repertoire.make d.type d = .ok made ∧ made.started = live.started

theorem Player.hasMade_of_active {p : Player (Builtin τ)} {asset : Asset} {d : Descriptor}
    {live made : Builtin τ} (hphase : p.phase = .active asset d.id live)
    (hd : asset.find? d.id = some d) (hmake : Builtin.repertoire.make d.type d = .ok made)
    (hlive : made.started = live.started) : p.HasMade := by
  intro other d' live' hphase' hd'
  obtain ⟨-, rfl, rfl⟩ := eq_of_active hphase hd hphase' hd'
  exact ⟨made, hmake, hlive⟩

/-- A live instance is of a type that changes nothing. -/
structure Player.Lingers (p : Player (Builtin τ)) : Prop where
  isSound : p.IsSound
  hasMade : p.HasMade
  acts_eq : ∀ asset d live, p.phase = .active asset (Descriptor.id d) live →
    asset.find? d.id = some d → d.acts = false

theorem Player.lingers_of_rest {p : Player (Builtin τ)} (hsound : p.IsSound)
    (hrest : p.current? = none) : p.Lingers := by
  have hnone {asset : Asset} {id : ActionId} {live : Builtin τ} :
      p.phase ≠ .active asset id live := by
    intro hphase
    simp [current?, hphase, Phase.current?] at hrest
  exact ⟨hsound, fun _ _ _ hphase => absurd hphase hnone, fun _ _ _ hphase => absurd hphase hnone⟩

omit [Clock τ] in
theorem isAside_of_isQuiet {events : List (Event τ)} (h : IsQuiet events) :
    ∀ e ∈ events, e.isAside = true := by
  intro e he
  have htelling := h e he
  cases e <;> first | rfl | simp [Event.isTelling] at htelling

namespace Turn

variable {t : Turn (Builtin τ) τ}

/-- What is told of a turn behind its update. -/
def sequel (t : Turn (Builtin τ) τ) : List (Event τ) :=
  t.played.notes.map .noted ++ .decided t.descriptor.id t.decision ::
    Player.complaints t.descriptor.id t.decision

theorem isAside_of_mem_sequel : ∀ e ∈ t.sequel, e.isAside = true := by
  intro e he
  rcases List.mem_append.1 he with hnoted | hdecided
  · exact isAside_of_isQuiet (isQuiet_noted _) e hnoted
  · rcases List.mem_cons.1 hdecided with rfl | hcomplaint
    · rfl
    · exact isAside_of_isQuiet (Player.isQuiet_complaints _ _) e hcomplaint

variable (hrepertoire : t.repertoire = Builtin.repertoire) (hmade : t.player.HasMade)

include hrepertoire hmade

/-- An instance that stays is of a type that changes nothing. -/
theorem lingers_seated {complaint? : Option String} (hstay : t.decision = .stay complaint?) :
    t.descriptor.acts = false ∧ t.seated.Lingers := by
  obtain ⟨made, hmake, hlive⟩ := hmade _ _ _ t.phase_eq t.find?_eq
  have hheir : made.started = t.heir.started := hlive.trans (t.heir_started hrepertoire).symm
  have hacts : t.descriptor.acts = false := by
    rw [decision, played, hrepertoire] at hstay
    exact Builtin.acts_eq_false_of_stay hmake hlive hstay
  refine ⟨hacts, ?_, Player.hasMade_of_active rfl t.find?_eq hmake hheir, ?_⟩
  · simp only [Player.IsSound, seated, t.find?_eq, Option.isSome_some]
  · intro asset d live hphase hd
    have hseated : t.seated.phase = .active t.asset t.descriptor.id t.heir := rfl
    obtain ⟨-, rfl, -⟩ := Player.eq_of_active hseated t.find?_eq hphase hd
    exact hacts

/-- An instance of a type that changes nothing stays, or the instance settles as it was made. -/
theorem settles_as_made :
    (t.descriptor.acts = false ∧ t.played.stage = t.player.stage t.scopes) ∨
    ∃ made, Builtin.repertoire.make t.descriptor.type t.descriptor = .ok made ∧
      Builtin.settle t.bridge t.descriptor (t.player.stage t.scopes) made
        = some (t.played.map fun result => result.2.decision) := by
  rcases t.settles hrepertoire with ⟨complaint?, hstay, hstage, -⟩ | hsettle
  · exact .inl ⟨(lingers_seated hrepertoire hmade hstay).1, hstage⟩
  · obtain ⟨made, hmake, hlive⟩ := hmade _ _ _ t.phase_eq t.find?_eq
    rw [← hlive, Builtin.settle_started] at hsettle
    exact .inr ⟨made, hmake, hsettle⟩

theorem stage_played :
    t.played.stage = (t.player.stage t.scopes).behind t.bridge t.descriptor := by
  rcases settles_as_made hrepertoire hmade with ⟨hacts, hstage⟩ | ⟨made, hmake, hsettle⟩
  · rw [hstage, Stage.behind_of_acts_eq_false hacts]
  · exact Builtin.stage_of_settle hmake hsettle

theorem looksBehindWrite (more : List (Event τ)) :
    t.descriptor.LooksBehindWrite t.bridge (t.player.stage t.scopes) (t.sequel ++ more) := by
  intro w hw found
  rcases settles_as_made hrepertoire hmade with ⟨hacts, -⟩ | ⟨made, hmake, hsettle⟩
  · simp [Descriptor.write?_of_acts_eq_false hacts] at hw
  · have hfound := Builtin.eq_of_settle_of_write hmake hw hsettle
    have hnotes : t.played.notes = found.notes := congrArg Performance.notes hfound
    have hdecision : t.decision = .along found.result := congrArg Performance.result hfound
    refine ⟨Player.complaints t.descriptor.id t.decision ++ more, ?_⟩
    rw [sequel, hnotes, ← hdecision, List.append_assoc, List.cons_append]

end Turn

/-- What comes of an instance of this descriptor that is live on this stage. -/
def Outcome.Plays (o : Outcome (Builtin τ) τ) (bridge : Bridge) (stage : Stage) (d : Descriptor) :
    Prop :=
  o.player.Lingers ∧ ∃ remaining rest, o.events = .updated d remaining :: rest ∧
    d.LooksBehindWrite bridge stage rest ∧
    Unfolds bridge (stage.behind bridge d) rest (o.player.stage o.scopes)

/-- What comes of a player without a live instance that has changed nothing yet. -/
def Outcome.Changes (o : Outcome (Builtin τ) τ) (bridge : Bridge) (stage : Stage) : Prop :=
  o.player.Lingers ∧ Unfolds bridge stage o.events (o.player.stage o.scopes)

theorem Turn.plays {t : Turn (Builtin τ) τ} (hrepertoire : t.repertoire = Builtin.repertoire)
    (hmade : t.player.HasMade) {asset : Asset} {d : Descriptor} {live : Builtin τ}
    (hphase : t.player.phase = .active asset d.id live) (hd : asset.find? d.id = some d)
    {o : Outcome (Builtin τ) τ} (hlingers : o.player.Lingers) {more : List (Event τ)}
    (hevents : o.events = t.events ++ more)
    (hmore : Unfolds t.bridge t.played.stage more (o.player.stage o.scopes)) :
    o.Plays t.bridge (t.player.stage t.scopes) d := by
  obtain ⟨-, rfl, -⟩ := Player.eq_of_active t.phase_eq t.find?_eq hphase hd
  refine ⟨hlingers, t.context.remaining, t.sequel ++ more, ?_,
    looksBehindWrite hrepertoire hmade more, ?_⟩
  · simp [hevents, events, sequel]
  · rw [stage_played hrepertoire hmade] at hmore
    exact (Unfolds.of_asides _ isAside_of_mem_sequel).append hmore

theorem Player.changes_begin {bridge : Bridge} {more : Nat} {remaining : τ}
    {p : Player (Builtin τ)} {scopes : Scopes} {asset : Asset} {next : ActionId}
    {o : Outcome (Builtin τ) τ}
    (hcourse : Course Builtin.repertoire bridge more remaining
      (p.begin Builtin.repertoire bridge scopes asset next).player
      (p.begin Builtin.repertoire bridge scopes asset next).scopes o)
    (hlater : ∀ d live, (p.begin Builtin.repertoire bridge scopes asset next).player.HasMade →
      (p.begin Builtin.repertoire bridge scopes asset next).player.phase
        = .active asset (Descriptor.id d) live → asset.find? d.id = some d →
      o.Plays bridge ((p.begin Builtin.repertoire bridge scopes asset next).player.stage
        (p.begin Builtin.repertoire bridge scopes asset next).scopes) d) :
    (o.after (p.begin Builtin.repertoire bridge scopes asset next).events).Changes bridge
      (p.stage scopes) := by
  rcases hcourse.cases_of_begin with ⟨complaint, -, hrefused⟩ | ⟨d, made, hd, hmake, hbegin⟩
  · rw [hrefused]
    refine ⟨lingers_of_rest trivial rfl, .of_asides _ ?_⟩
    simp [farewell, Event.isAside]
  · rw [hbegin] at hlater ⊢
    have hknown : asset.find? d.id = some d := by rwa [Asset.id_of_find? hd]
    have hmade : (embark Builtin.repertoire bridge p scopes asset d made).player.HasMade :=
      hasMade_of_active rfl hknown hmake (Builtin.started_started made).symm
    obtain ⟨hlingers, remaining, rest, hevents, hlooks, hrest⟩ := hlater d _ hmade rfl hknown
    refine ⟨hlingers, ?_⟩
    rw [Outcome.after, hevents]
    exact .aside rfl (.play hlooks hrest)

theorem Course.plays {r : Repertoire (Builtin τ) τ} {bridge : Bridge} {more : Nat} {remaining : τ}
    {p : Player (Builtin τ)} {scopes : Scopes} {o : Outcome (Builtin τ) τ}
    (h : Course r bridge more remaining p scopes o) (hrepertoire : r = Builtin.repertoire)
    (hmade : p.HasMade) {asset : Asset} {d : Descriptor} {live : Builtin τ}
    (hphase : p.phase = .active asset d.id live) (hd : asset.find? d.id = some d) :
    o.Plays bridge (p.stage scopes) d := by
  induction h generalizing asset d live with
  | rest hrest => simp [Player.current?, hphase, Phase.current?] at hrest
  | stay t hdecision =>
    have hlingers := (Turn.lingers_seated hrepertoire hmade hdecision).2
    exact Turn.plays hrepertoire hmade hphase hd hlingers (List.append_nil _).symm (.nil _)
  | close t =>
    exact Turn.plays hrepertoire hmade hphase hd (Player.lingers_of_rest trivial rfl) rfl
      (.of_asides _ (isAside_of_isQuiet (Player.isQuiet_farewell _ _)))
  | yield t =>
    refine Turn.plays hrepertoire hmade hphase hd (Player.lingers_of_rest trivial rfl) rfl
      (.of_asides _ ?_)
    simp [Event.isAside]
  | exhaust t =>
    refine Turn.plays hrepertoire hmade hphase hd (Player.lingers_of_rest trivial rfl)
      (List.append_assoc ..) (.of_asides _ ?_)
    simp [Event.isAside]
  | @go more t next o hdecision hrest ih =>
    have harrival := t.arrival_eq hrepertoire next
    rw [hrepertoire, harrival] at hrest
    rw [harrival] at ih
    obtain ⟨hlingers, hunfolds⟩ := Player.changes_begin hrest
      fun d live hmade hphase hd => ih hrepertoire hmade hphase hd
    rw [← harrival] at hunfolds
    let notice : Event τ := .notice (Player.transitionNotice t.descriptor.id next false)
    have hmore : Unfolds t.bridge t.played.stage
        (notice :: ((t.arrival next).events ++ o.events)) (o.player.stage o.scopes) :=
      .aside rfl hunfolds
    refine Turn.plays hrepertoire hmade hphase hd hlingers ?_ hmore
    simp [Outcome.after, Turn.departure, notice]

/-! ### Updates -/

namespace Player

omit [Clock τ] in
theorem stage_stop (p : Player (Builtin τ)) (scopes : Scopes) :
    (p.stop (τ := τ)).1.stage scopes = p.stage scopes := by
  rw [stop]
  split <;> rfl

omit [Clock τ] in
theorem stage_poise_stop (p : Player (Builtin τ)) (asset : Asset) (options : StartOptions)
    (id : ActionId) (scopes : Scopes) :
    ((p.stop (τ := τ)).1.poise asset options id).stage scopes
      = ⟨asset.bindings.merge options.bindings, scopes,
          (options.seed?.map Rng.ofSeed).getD p.rng⟩ := by
  have hrng : (p.stop (τ := τ)).1.rng = p.rng := congrArg Stage.rng (p.stage_stop scopes)
  rw [stage, poise, hrng]
  cases options.seed? <;> rfl

theorem changes_update {p : Player (Builtin τ)} (hlingers : p.Lingers) (bridge : Bridge)
    (scopes : Scopes) (delta : τ) :
    (p.update Builtin.repertoire ⟨scopes, bridge⟩ delta).Changes bridge (p.stage scopes) := by
  let f : Frame (Builtin τ) τ := ⟨Builtin.repertoire, ⟨scopes, bridge⟩, delta⟩
  change (p.advance f).Changes bridge (p.stage scopes)
  have hnotices : Unfolds bridge (p.stage scopes) (deltaNotices delta) (p.stage scopes) :=
    .of_asides _ (isAside_of_isQuiet (isQuiet_deltaNotices delta))
  rcases hlingers.isSound.cases with hphase | ⟨asset, next, last?, hphase⟩ |
    ⟨asset, d, live, hphase, hd⟩
  · rw [advance_of_idle hphase]
    exact ⟨hlingers, .nil _⟩
  · obtain ⟨o, hcourse, heq⟩ := advance_of_poised hphase f
    obtain ⟨hafter, hunfolds⟩ := changes_begin hcourse
      fun d live hmade hphase hd => hcourse.plays rfl hmade hphase hd
    refine ⟨by rwa [heq], ?_⟩
    rw [heq, Outcome.after, List.append_assoc]
    exact hnotices.append hunfolds
  · obtain ⟨o, hcourse, heq⟩ := advance_of_active hlingers.isSound hphase f
    obtain ⟨hafter, remaining, rest, hevents, -, hunfolds⟩ :=
      hcourse.plays rfl hlingers.hasMade hphase hd
    have hacts : d.acts = false := hlingers.acts_eq _ _ _ hphase hd
    rw [Stage.behind_of_acts_eq_false hacts] at hunfolds
    refine ⟨by rwa [heq], ?_⟩
    rw [heq, Outcome.after, hevents]
    exact hnotices.append (.linger hacts hunfolds)

theorem changes_updates {p : Player (Builtin τ)} (hlingers : p.Lingers) (bridge : Bridge)
    (scopes : Scopes) (deltas : List τ) :
    (p.updates bridge scopes deltas).Changes bridge (p.stage scopes) := by
  induction deltas generalizing p scopes with
  | nil => exact ⟨hlingers, .nil _⟩
  | cons delta rest ih =>
    obtain ⟨hnext, hfirst⟩ := changes_update hlingers bridge scopes delta
    obtain ⟨hlast, hmore⟩ := ih hnext _
    exact ⟨hlast, hfirst.append hmore⟩

/-- **What a run of built-in actions writes and chooses is all that it changes.** A flow is started
and then updated by any frame times on any session. Behind the updates, the variables of the player
are those of the start with what was written to them, the scopes of the session are what they were
with what was written to them, and the generator has made one choice for each `random_branch` that
had something to choose from. Every instance that changes something is updated once. It is made on
the stage that is behind all changes before it, and what it writes comes before the look at its
links. A stop changes none of this. -/
theorem effects_are_writes_and_choices {p started : Player (Builtin τ)} {asset : Asset}
    {options : StartOptions} {told : List (Event τ)}
    (hstart : p.start asset options = .ok (started, told)) (bridge : Bridge) (scopes : Scopes)
    (deltas : List τ) :
    let o := started.updates bridge scopes deltas
    let first : Stage :=
      ⟨asset.bindings.merge options.bindings, scopes, (options.seed?.map Rng.ofSeed).getD p.rng⟩
    o.player.bindings = first.bindings.setAll ((writes o.events).filterMap SetVariableParams.own?) ∧
    o.scopes = scopes.setAll ((writes o.events).filterMap SetVariableParams.scoped?) ∧
    o.player.rng = first.rng.past (choices bridge o.events) ∧
    o.events.filterMap Event.updatedActor? = o.events.filterMap Event.madeActor? ∧
    (∀ pre d stage post, o.events = pre ++ .made d stage :: post →
      stage = first.replay bridge pre ∧ d.IsPlayed bridge stage post) ∧
    (o.player.stop (τ := τ)).1.stage o.scopes = o.player.stage o.scopes := by
  intro o first
  obtain ⟨id, -, hpoised⟩ := exists_poise_of_start hstart
  have hfirst : started.stage scopes = first := by
    rw [hpoised]
    exact stage_poise_stop ..
  have hlingers : started.Lingers := by
    rw [hpoised]
    exact lingers_of_rest trivial rfl
  obtain ⟨hlast, hunfolds⟩ := changes_updates hlingers bridge scopes deltas
  rw [hfirst] at hunfolds
  have hstage : o.player.stage o.scopes = first.replay bridge o.events := hunfolds.eq_replay
  refine ⟨congrArg Stage.bindings hstage, congrArg Stage.scopes hstage, congrArg Stage.rng hstage,
    hunfolds.updatedActors_eq, fun _ _ _ _ hsplit => hunfolds.split_made hsplit,
    o.player.stage_stop o.scopes⟩

/-- A flow that writes a variable, over and over. -/
def payday : Asset where
  name := "payday"
  actions := [
    { id := "pay", type := "set_variable"
      links := [{ target := "pay", condition := .varEquals "gold" (.int 5), yields := true }]
      params := .object [("name", .string "gold"), ("value", .number (.integer 5))] }]
  index := [("pay", 0)]
  start? := some "pay"
  bindings := .empty
  consistent := Asset.isIndexOf_indexOf rfl

def paydayPlayer : Player (Builtin Float32) := (new {} 0).poise payday {} "pay"

theorem writes_in_payday : writes (paydayPlayer.updates .standard [] [(0 : Float32)]).events
    = [⟨"gold", .int 5, none⟩] := by
  let f : Frame (Builtin Float32) Float32 := ⟨Builtin.repertoire, .new, 0⟩
  let begun := paydayPlayer.embarked payday "pay" f
  have hevents : (paydayPlayer.updates .standard [] [(0 : Float32)]).events
      = ((run Builtin.repertoire .standard 255 (0 : Float32) begun.player []).after
        (deltaNotices 0 ++ begun.events)).events ++ [] := rfl
  -- A run does not compute by itself.
  rw [hevents, run]
  rfl

theorem effects_are_writes_and_choices_in_payday :
    ∃ told : List (Event Float32), (new {} 0).start payday {} = .ok (paydayPlayer, told) ∧
      (paydayPlayer.updates .standard [] [(0 : Float32)]).player.bindings
        = payday.bindings.setAll [("gold", .int 5)] ∧
      (paydayPlayer.updates .standard [] [(0 : Float32)]).scopes = [] := by
  obtain ⟨told, hstart⟩ : ∃ told : List (Event Float32),
      (new {} 0).start payday {} = .ok (paydayPlayer, told) := ⟨_, rfl⟩
  obtain ⟨hbindings, hscopes, -⟩ := effects_are_writes_and_choices hstart .standard [] [0]
  rw [writes_in_payday] at hbindings hscopes
  exact ⟨told, hstart, hbindings, hscopes⟩

end Player

end ActionGraph
