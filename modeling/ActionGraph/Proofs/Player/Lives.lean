import ActionGraph.Proofs.Player.Phases
import Mathlib.Data.List.Chain

/-!
# The lives of instances

What a player does to the instances of actions, over a whole sequence of calls, is one life after
the other. An instance is made and started, and updated at once. It is updated again as long as it
decides to stay, and nothing is done to it after another decision. If the player is stopped while
the instance stays, or starts anew, the instance is cancelled, and that is the last of it. No life
begins before the one in front of it is over.

An instance is a value that is handed on from update to update. A life keeps these values, so that
it can be said that each update takes up the very instance that the last one left.
-/

namespace ActionGraph

variable {ι τ : Type}

/-! ### Events of instances -/

/-- Whether something is done to an instance, or an instance comes to a decision. -/
def Event.isOfInstance : Event τ → Bool
  | .made _ _ | .started _ | .updated _ _ | .decided _ _ | .cancelled _ => true
  | .runStarted _ | .runFinished _ | .attempted _ | .said _ | .noted _ | .notice _ => false

/-- Events of instances, with the number of the call in which they happen. -/
def ofInstances (n : Nat) (events : List (Event τ)) : List (Nat × Event τ) :=
  (events.filter Event.isOfInstance).map (n, ·)

@[simp] theorem ofInstances_nil (n : Nat) : ofInstances n ([] : List (Event τ)) = [] := rfl

@[simp] theorem ofInstances_append (n : Nat) (events more : List (Event τ)) :
    ofInstances n (events ++ more) = ofInstances n events ++ ofInstances n more := by
  simp only [ofInstances, List.filter_append, List.map_append]

@[simp] theorem ofInstances_cons (n : Nat) (e : Event τ) (events : List (Event τ)) :
    ofInstances n (e :: events)
      = (if e.isOfInstance then [(n, e)] else []) ++ ofInstances n events := by
  cases h : e.isOfInstance <;> simp [ofInstances, h]

@[simp] theorem ofInstances_of_isQuiet (n : Nat) {events : List (Event τ)} (h : IsQuiet events) :
    ofInstances n events = [] := by
  have hnone : events.filter Event.isOfInstance = [] := by
    refine List.filter_eq_nil_iff.2 fun e he => ?_
    have htelling := h e he
    cases e with
    | attempted | made | started | updated | decided | cancelled =>
      simp [Event.isTelling] at htelling
    | runStarted | runFinished | said | noted | notice => simp [Event.isOfInstance]
  rw [ofInstances, hnone, List.map_nil]

@[simp] theorem ofInstances_abort (n : Nat) (p : Player ι) (scopes : Scopes)
    (complaint : Complaint) (id : ActionId) :
    ofInstances n ((p.abort scopes complaint).after [.attempted id] : Outcome ι τ).events = [] :=
  rfl

theorem ofInstances_embark (n : Nat) (r : Repertoire ι τ) (bridge : Bridge) (p : Player ι)
    (scopes : Scopes) (asset : Asset) (d : Descriptor) (made : ι) :
    ofInstances n (Player.embark r bridge p scopes asset d made).events
      = [(n, .made d (p.stage scopes)), (n, .started d)] := by
  simp [Player.embark, Event.isOfInstance]

/-! ### Lives -/

structure Life (ι τ : Type) where
  /-- The number of the call in which it is made. -/
  born : Nat
  descriptor : Descriptor
  /-- The stage on which it is made. -/
  stage : Stage
  made : ι
  /-- The instance behind its start. -/
  started : ι
  /-- The updates of the instance, each with the number of the call in which it happens. -/
  turns : List (Nat × Turn ι τ)
  /-- The number of the call in which it is cancelled. -/
  cancelled? : Option Nat

/-- Whether a call puts an end to the run that is played. -/
def Call.EndsRun : Call ι τ → Prop
  | .start asset options => ∃ id, Player.resolveStart asset options = .ok id
  | .stop => True
  | .update _ => False

section

variable [Clock τ]

def Turn.Stays (t : Turn ι τ) : Prop := ∃ complaint?, t.decision = .stay complaint?

/-- What a turn adds to the life of its instance. -/
def Turn.trace (n : Nat) (t : Turn ι τ) : List (Nat × Event τ) :=
  [(n, .updated t.descriptor t.context.remaining), (n, .decided t.descriptor.id t.decision)]

theorem Turn.ofInstances_events (n : Nat) (t : Turn ι τ) : ofInstances n t.events = t.trace n := by
  simp [Turn.events, Turn.trace, Event.isOfInstance]

theorem Turn.ofInstances_departure (n : Nat) (t : Turn ι τ) (next : ActionId) (yields : Bool) :
    ofInstances n (t.departure next yields) = t.trace n := by
  simp [Turn.departure, t.ofInstances_events, Event.isOfInstance]

namespace Life

/-- What is done to an instance in its life, and what it decides. -/
def trace (l : Life ι τ) : List (Nat × Event τ) :=
  (l.born, .made l.descriptor l.stage) :: (l.born, .started l.descriptor) ::
    (l.turns.flatMap fun turn => turn.2.trace turn.1) ++
    l.cancelled?.toList.map (·, .cancelled l.descriptor.id)

/-- The instance as the last thing done to it leaves it. -/
def heir (l : Life ι τ) : ι := (l.turns.getLast?.map fun turn => turn.2.heir).getD l.started

/-- A life is over when the instance is cancelled or does not decide to stay. -/
def IsOver (l : Life ι τ) : Prop := l.cancelled?.isSome ∨ ∃ turn ∈ l.turns, ¬turn.2.Stays

/-- A life as it comes about in a sequence of calls of a player. -/
structure IsLived (p : Player ι) (calls : List (Call ι τ)) (l : Life ι τ) : Prop where
  /-- The instance is made and started in an update of the player. -/
  birth : ∃ f, calls[l.born]? = some (.update f) ∧
    f.repertoire.make l.descriptor.type l.descriptor = .ok l.made ∧
    l.started = (f.repertoire.start f.session.bridge l.descriptor l.made l.stage).result
  /-- The instance that was started is updated first, and in the same call. -/
  first : ∀ turn ∈ l.turns.head?, turn.1 = l.born ∧ turn.2.live = l.started
  /-- Each update takes the instance up as the one before has left it. -/
  handover : l.turns.IsChain fun turn next => next.2.live = turn.2.heir
  /-- Each update of the instance happens in an update of the player. -/
  updates : ∀ turn ∈ l.turns, turn.2.descriptor = l.descriptor ∧
    ∃ f, calls[turn.1]? = some (.update f) ∧ turn.2.repertoire = f.repertoire ∧
      turn.2.bridge = f.session.bridge
  /-- After an update the instance is updated again only if it decided to stay. -/
  stays : ∀ turn ∈ l.turns.dropLast, turn.2.Stays
  /-- The instance is cancelled in a call that ends the run, as the live instance of the player, and
  only if it has always decided to stay. -/
  cancellation : ∀ n ∈ l.cancelled?, (∀ turn ∈ l.turns, turn.2.Stays) ∧
    (∃ c, calls[n]? = some c ∧ c.EndsRun) ∧
    ∃ asset, (p.after (calls.take n)).phase = .active asset l.descriptor.id l.heir

/-- The life of the live instance of a player, which is not over yet. -/
def IsOf (l : Life ι τ) (p : Player ι) : Prop :=
  ¬l.IsOver ∧ ∃ asset, p.phase = .active asset l.descriptor.id l.heir ∧
    asset.find? l.descriptor.id = some l.descriptor

variable {l : Life ι τ} {p : Player ι} {calls : List (Call ι τ)} {n : Nat}

theorem not_isOver_iff : ¬l.IsOver ↔ l.cancelled? = none ∧ ∀ turn ∈ l.turns, turn.2.Stays := by
  simp [IsOver, not_or]

theorem IsOf.turn {t : Turn ι τ} (h : l.IsOf t.player) :
    t.live = l.heir ∧ t.descriptor = l.descriptor := by
  obtain ⟨-, asset, hphase, hfind⟩ := h
  have hsame := t.phase_eq.symm.trans hphase
  simp only [Phase.active.injEq] at hsame
  obtain ⟨rfl, hid, hlive⟩ := hsame
  refine ⟨hlive, Option.some.inj ?_⟩
  rw [← t.find?_eq, ← hfind, hid]

/-! ### How lives go on -/

def extend (l : Life ι τ) (n : Nat) (t : Turn ι τ) : Life ι τ :=
  { l with turns := l.turns ++ [(n, t)] }

def cancel (l : Life ι τ) (n : Nat) : Life ι τ := { l with cancelled? := some n }

theorem trace_extend (hopen : ¬l.IsOver) (n : Nat) (t : Turn ι τ) :
    (l.extend n t).trace = l.trace ++ t.trace n := by
  simp [trace, extend, (not_isOver_iff.1 hopen).1]

theorem trace_cancel (hopen : ¬l.IsOver) (n : Nat) :
    (l.cancel n).trace = l.trace ++ [(n, .cancelled l.descriptor.id)] := by
  simp [trace, cancel, (not_isOver_iff.1 hopen).1]

theorem heir_extend (n : Nat) (t : Turn ι τ) : (l.extend n t).heir = t.heir := by
  simp [heir, extend]

theorem isOver_extend_iff (hopen : ¬l.IsOver) {t : Turn ι τ} :
    (l.extend n t).IsOver ↔ ¬t.Stays := by
  obtain ⟨hcancelled, hstays⟩ := not_isOver_iff.1 hopen
  constructor
  · rintro (hsome | ⟨turn, hturn, hgone⟩)
    · simp [extend, hcancelled] at hsome
    · rcases List.mem_append.1 hturn with hold | hnew
      · exact absurd (hstays turn hold) hgone
      · rwa [List.mem_singleton.1 hnew] at hgone
  · exact fun hgone => .inr ⟨(n, t), by simp [extend], hgone⟩

theorem IsLived.extend (h : l.IsLived p calls) (hopen : ¬l.IsOver) {t : Turn ι τ} {f : Frame ι τ}
    (hcall : calls[n]? = some (.update f)) (hrepertoire : t.repertoire = f.repertoire)
    (hbridge : t.bridge = f.session.bridge) (hdescriptor : t.descriptor = l.descriptor)
    (hlive : t.live = l.heir) (hfresh : l.turns = [] → n = l.born) :
    (l.extend n t).IsLived p calls where
  birth := h.birth
  first := by
    cases hturns : l.turns with
    | nil =>
      intro turn hturn
      simp only [Life.extend, hturns, List.nil_append, List.head?_cons, Option.mem_some] at hturn
      subst hturn
      refine ⟨hfresh hturns, ?_⟩
      change t.live = l.started
      simpa [heir, hturns] using hlive
    | cons turn rest =>
      have hfirst := h.first
      simpa [Life.extend, hturns] using hfirst
  handover := by
    refine List.isChain_append.2 ⟨h.handover, List.isChain_singleton _, ?_⟩
    intro turn hturn next hnext
    simp only [List.head?_cons, Option.mem_some] at hnext
    subst hnext
    rw [hlive, heir, Option.mem_def.1 hturn]
    rfl
  updates := by
    intro turn hturn
    rcases List.mem_append.1 hturn with hold | hnew
    · exact h.updates turn hold
    · rw [List.mem_singleton.1 hnew]
      exact ⟨hdescriptor, f, hcall, hrepertoire, hbridge⟩
  stays := by
    intro turn hturn
    rw [Life.extend, List.dropLast_concat] at hturn
    exact (not_isOver_iff.1 hopen).2 turn hturn
  cancellation := by
    intro k hk
    simp [Life.extend, (not_isOver_iff.1 hopen).1] at hk

theorem IsLived.cancel (h : l.IsLived p calls) (hopen : ¬l.IsOver) {c : Call ι τ}
    (hcall : calls[n]? = some c) (hends : c.EndsRun) {asset : Asset}
    (hphase : (p.after (calls.take n)).phase = .active asset l.descriptor.id l.heir) :
    (l.cancel n).IsLived p calls where
  birth := h.birth
  first := h.first
  handover := h.handover
  updates := h.updates
  stays := h.stays
  cancellation := by
    intro k hk
    obtain rfl : n = k := Option.some.inj hk
    exact ⟨(not_isOver_iff.1 hopen).2, ⟨c, hcall, hends⟩, asset, hphase⟩

def fresh (n : Nat) (d : Descriptor) (stage : Stage) (made started : ι) : Life ι τ :=
  ⟨n, d, stage, made, started, [], none⟩

theorem not_isOver_fresh (n : Nat) (d : Descriptor) (stage : Stage) (made started : ι) :
    ¬(fresh n d stage made started : Life ι τ).IsOver := by
  simp [IsOver, fresh]

theorem isLived_fresh {f : Frame ι τ} (hcall : calls[n]? = some (.update f)) {d : Descriptor}
    {made : ι} (hmake : f.repertoire.make d.type d = .ok made) (stage : Stage) :
    (fresh n d stage made
      (f.repertoire.start f.session.bridge d made stage).result).IsLived p calls where
  birth := ⟨f, hcall, hmake, rfl⟩
  first := by simp [fresh]
  handover := List.isChain_nil
  updates := by simp [fresh]
  stays := by simp [fresh]
  cancellation := by simp [fresh]

end Life

/-! ### Lives up to a player -/

/-- Lives that lead to a player: all are over but for that of its live instance, which is the last
one. -/
inductive LeadTo (p : Player ι) : List (Life ι τ) → Prop
  | live {before : List (Life ι τ)} {l : Life ι τ} (hover : ∀ x ∈ before, x.IsOver)
      (hlast : l.IsOf p) : LeadTo p (before ++ [l])
  | rest {lives : List (Life ι τ)} (hrest : p.current? = none) (hover : ∀ x ∈ lives, x.IsOver) :
      LeadTo p lives

theorem LeadTo.singleton {p : Player ι} {l : Life ι τ} (hlast : l.IsOf p) : LeadTo p [l] := by
  have hnone : ∀ x ∈ ([] : List (Life ι τ)), x.IsOver := by simp
  exact .live hnone hlast

theorem LeadTo.append {p : Player ι} {before lives : List (Life ι τ)}
    (hover : ∀ x ∈ before, x.IsOver) (h : LeadTo p lives) : LeadTo p (before ++ lives) := by
  have hboth {more : List (Life ι τ)} (hmore : ∀ x ∈ more, x.IsOver) :
      ∀ x ∈ before ++ more, x.IsOver := by
    intro x hx
    exact (List.mem_append.1 hx).elim (hover x) (hmore x)
  cases h with
  | live hothers hlast =>
    rw [← List.append_assoc]
    exact .live (hboth hothers) hlast
  | rest hrest hothers => exact .rest hrest (hboth hothers)

/-- Lives that have been lived in calls of a player, and in which the instance was updated. -/
def AllLived (p : Player ι) (calls : List (Call ι τ)) (lives : List (Life ι τ)) : Prop :=
  ∀ l ∈ lives, l.IsLived p calls ∧ l.turns ≠ []

/-- Lives that account for all that was done to instances on the way to a player. -/
structure IsAccount (p₀ : Player ι) (calls : List (Call ι τ)) (trace : List (Nat × Event τ))
    (p : Player ι) (lives : List (Life ι τ)) : Prop where
  trace_eq : trace = lives.flatMap Life.trace
  lived : AllLived p₀ calls lives
  leads : LeadTo p lives

theorem IsAccount.append {p₀ p : Player ι} {calls : List (Call ι τ)}
    {trace : List (Nat × Event τ)} {before lives : List (Life ι τ)}
    (h : IsAccount p₀ calls trace p lives) (hlived : AllLived p₀ calls before)
    (hover : ∀ x ∈ before, x.IsOver) :
    IsAccount p₀ calls (before.flatMap Life.trace ++ trace) p (before ++ lives) where
  trace_eq := by rw [h.trace_eq, List.flatMap_append]
  lived := by
    intro x hx
    exact (List.mem_append.1 hx).elim (hlived x) (h.lived x)
  leads := h.leads.append hover

section

variable {p₀ : Player ι} {calls : List (Call ι τ)} {n : Nat} {f : Frame ι τ} {l : Life ι τ}

theorem Life.IsLived.turn {t : Turn ι τ} (hlived : l.IsLived p₀ calls) (hof : l.IsOf t.player)
    (hcall : calls[n]? = some (.update f)) (hrepertoire : t.repertoire = f.repertoire)
    (hbridge : t.bridge = f.session.bridge) (hfresh : l.turns = [] → n = l.born) :
    AllLived p₀ calls [l.extend n t] := by
  obtain ⟨hlive, hdescriptor⟩ := hof.turn
  intro x hx
  rw [List.mem_singleton.1 hx]
  refine ⟨hlived.extend hof.1 hcall hrepertoire hbridge hdescriptor hlive hfresh, ?_⟩
  exact List.append_ne_nil_of_right_ne_nil _ (List.cons_ne_nil _ _)

theorem Life.IsOf.extend_stay {t : Turn ι τ} (hof : l.IsOf t.player) (hstays : t.Stays) :
    (l.extend n t).IsOf t.seated := by
  have hdescriptor := hof.turn.2
  refine ⟨by rwa [isOver_extend_iff hof.1, not_not], t.asset, ?_, ?_⟩
  · rw [heir_extend]
    change t.seated.phase = .active t.asset l.descriptor.id t.heir
    rw [← hdescriptor, Turn.seated]
  · change t.asset.find? l.descriptor.id = some l.descriptor
    rw [← hdescriptor, t.find?_eq]

theorem Life.IsOf.isOver_extend {t : Turn ι τ} (hof : l.IsOf t.player) (hgone : ¬t.Stays) :
    ∀ x ∈ [l.extend n t], x.IsOver := by
  intro x hx
  rw [List.mem_singleton.1 hx]
  exact (isOver_extend_iff hof.1).2 hgone

theorem Turn.not_stays_of_closes {t : Turn ι τ} {withError : Bool}
    (hdecision : t.decision.closes? = some withError) : ¬t.Stays := by
  rintro ⟨complaint?, hstays⟩
  simp [hstays, Decision.closes?] at hdecision

theorem Turn.not_stays_of_go {t : Turn ι τ} {next : ActionId} {yields : Bool}
    (hdecision : t.decision = .go next yields) : ¬t.Stays := by
  rintro ⟨complaint?, hstays⟩
  simp [hstays] at hdecision

/-- An action that is due adds a life and those that follow in the same update, or nothing. -/
theorem exists_account_begin {r : Repertoire ι τ} {bridge : Bridge} {p : Player ι} {scopes : Scopes}
    {asset : Asset} {next : ActionId} {more : Nat} {remaining : τ} {o : Outcome ι τ}
    (hcall : calls[n]? = some (.update f)) (hrepertoire : r = f.repertoire)
    (hbridge : bridge = f.session.bridge)
    (hcourse : Course r bridge more remaining (Player.begin r bridge p scopes asset next).player
      (Player.begin r bridge p scopes asset next).scopes o)
    (hlives : ∀ l : Life ι τ, l.IsLived p₀ calls →
      l.IsOf (Player.begin r bridge p scopes asset next).player → (l.turns = [] → n = l.born) →
      ∃ lives, IsAccount p₀ calls (l.trace ++ ofInstances n o.events) o.player lives) :
    ∃ lives, IsAccount p₀ calls
      (ofInstances n ((Player.begin r bridge p scopes asset next).events ++ o.events))
      o.player lives := by
  subst hrepertoire hbridge
  rcases Player.begin_cases f.repertoire f.session.bridge p scopes asset next with
    ⟨complaint, -, hbegin⟩ | ⟨d, made, hd, hmake, hbegin⟩
  · rw [hbegin] at hcourse ⊢
    have hend := hcourse.eq_of_rest rfl
    refine ⟨[], ?_, by simp [AllLived], ?_⟩
    · rw [hend, ofInstances_append, ofInstances_abort]
      rfl
    · rw [hend]
      exact .rest rfl (by simp)
  · rw [hbegin] at hlives ⊢
    have hknown : asset.find? d.id = some d := by rwa [Asset.id_of_find? hd]
    have hlife := Life.isLived_fresh (p := p₀) hcall hmake (p.stage scopes)
    obtain ⟨lives, haccount⟩ := hlives _ hlife
      ⟨Life.not_isOver_fresh _ _ _ _ _, asset, rfl, hknown⟩ fun _ => rfl
    refine ⟨lives, ?_, haccount.lived, haccount.leads⟩
    rw [ofInstances_append, ofInstances_embark, ← haccount.trace_eq]
    rfl

/-- A run of updates extends the life of the live instance, and adds the lives of those that
follow. -/
theorem Course.exists_account {r : Repertoire ι τ} {bridge : Bridge} {more : Nat} {remaining : τ}
    {p : Player ι} {scopes : Scopes} {o : Outcome ι τ}
    (h : Course r bridge more remaining p scopes o) (hcall : calls[n]? = some (.update f))
    (hrepertoire : r = f.repertoire) (hbridge : bridge = f.session.bridge)
    (hlived : l.IsLived p₀ calls) (hof : l.IsOf p) (hfresh : l.turns = [] → n = l.born) :
    ∃ lives, IsAccount p₀ calls (l.trace ++ ofInstances n o.events) o.player lives := by
  induction h generalizing l with
  | rest hrest =>
    obtain ⟨-, asset, hphase, -⟩ := hof
    simp [Player.current?, hphase, Phase.current?] at hrest
  | stay t hdecision =>
    refine ⟨[l.extend n t], ?_, hlived.turn hof hcall hrepertoire hbridge hfresh,
      .singleton (hof.extend_stay ⟨_, hdecision⟩)⟩
    simp [Life.trace_extend hof.1, t.ofInstances_events]
  | close t hdecision =>
    refine ⟨[l.extend n t], ?_, hlived.turn hof hcall hrepertoire hbridge hfresh,
      .rest rfl (hof.isOver_extend (Turn.not_stays_of_closes hdecision))⟩
    simp [Life.trace_extend hof.1, t.ofInstances_events]
  | yield t hdecision =>
    refine ⟨[l.extend n t], ?_, hlived.turn hof hcall hrepertoire hbridge hfresh,
      .rest rfl (hof.isOver_extend (Turn.not_stays_of_go hdecision))⟩
    simp [Life.trace_extend hof.1, t.ofInstances_departure]
  | exhaust t hdecision =>
    refine ⟨[l.extend n t], ?_, hlived.turn hof hcall hrepertoire hbridge hfresh,
      .rest rfl (hof.isOver_extend (Turn.not_stays_of_go hdecision))⟩
    simp [Life.trace_extend hof.1, t.ofInstances_departure, Event.isOfInstance]
  | @go more t next o hdecision hrest ih =>
    -- The life at hand is over; what follows is accounted for from the next action on.
    obtain ⟨lives, haccount⟩ := exists_account_begin hcall hrepertoire hbridge hrest
      fun l hlived hof hfresh => ih hrepertoire hbridge hlived hof hfresh
    have hboth := haccount.append (hlived.turn hof hcall hrepertoire hbridge hfresh)
      (hof.isOver_extend (Turn.not_stays_of_go hdecision))
    have htrace : l.trace ++
          ofInstances n (o.after (t.departure next false ++ (t.arrival next).events)).events
        = [l.extend n t].flatMap Life.trace ++
          ofInstances n ((t.arrival next).events ++ o.events) := by
      simp [Outcome.after, Life.trace_extend hof.1, t.ofInstances_departure]
    exact ⟨_, htrace ▸ hboth⟩

/-! ### Lives over a sequence of calls -/

/-- The end that a call puts to a run cancels the live instance, if there is one. -/
theorem exists_account_stop {p : Player ι} (hsound : p.IsSound) {trace : List (Nat × Event τ)}
    {lives : List (Life ι τ)} (haccount : IsAccount p₀ calls trace p lives) {c : Call ι τ}
    (hcall : calls[n]? = some c) (hends : c.EndsRun) (hp : p₀.after (calls.take n) = p) :
    (p.stop (τ := τ)).1.phase = .idle ∧ ∃ lives,
      IsAccount p₀ calls (trace ++ ofInstances n p.stop.2) (p.stop (τ := τ)).1 lives := by
  obtain ⟨htrace, hlived, hleads⟩ := haccount
  cases hleads with
  | rest hrest hover =>
    rcases hsound.cases with hphase | ⟨asset, next, last?, hphase⟩ | ⟨asset, d, live, hphase, -⟩
    · rw [Player.stop_of_idle hphase]
      exact ⟨hphase, lives, by simpa using htrace, hlived, .rest hrest hover⟩
    · rw [Player.stop_of_poised hphase]
      exact ⟨rfl, lives, by simpa using htrace, hlived, .rest rfl hover⟩
    · simp [Player.current?, hphase, Phase.current?] at hrest
  | @live before l hover hlast =>
    obtain ⟨hopen, asset, hphase, -⟩ := hlast
    rw [Player.stop_of_active hphase]
    have hl := hlived l (by simp)
    refine ⟨rfl, before ++ [l.cancel n], ?_, ?_, .rest rfl ?_⟩
    · rw [htrace]
      simp [Life.trace_cancel hopen, Event.isOfInstance]
    · intro x hx
      rcases List.mem_append.1 hx with hold | hnew
      · exact hlived x (List.mem_append_left _ hold)
      · rw [List.mem_singleton.1 hnew]
        exact ⟨hl.1.cancel hopen hcall hends (hp ▸ hphase), hl.2⟩
    · intro x hx
      rcases List.mem_append.1 hx with hold | hnew
      · exact hover x hold
      · rw [List.mem_singleton.1 hnew]
        exact .inl rfl

theorem exists_account_call {p : Player ι} (hsound : p.IsSound) {trace : List (Nat × Event τ)}
    {lives : List (Life ι τ)} (haccount : IsAccount p₀ calls trace p lives) {c : Call ι τ}
    (hcall : calls[n]? = some c) (hp : p₀.after (calls.take n) = p) :
    ∃ lives, IsAccount p₀ calls (trace ++ ofInstances n (p.call c).2) (p.call c).1 lives := by
  cases c with
  | start asset options =>
    cases hstart : Player.resolveStart asset options with
    | error e =>
      rw [Player.call_start_of_error hstart]
      exact ⟨lives, by simpa using haccount⟩
    | ok id =>
      rw [Player.call_start_of_ok hstart]
      obtain ⟨hidle, lives, htrace, hlived, hleads⟩ :=
        exists_account_stop hsound haccount hcall ⟨id, hstart⟩ hp
      refine ⟨lives, ?_, hlived, ?_⟩
      · simpa using htrace
      · cases hleads with
        | live hover hlast =>
          obtain ⟨-, _, hactive, -⟩ := hlast
          simp [hidle] at hactive
        | rest hrest hover => exact .rest rfl hover
  | stop => exact (exists_account_stop hsound haccount hcall trivial hp).2
  | update f =>
    obtain ⟨htrace, hlived, hleads⟩ := haccount
    rw [Player.call]
    cases hleads with
    | @live before l hover hlast =>
      -- The update goes on with the last life, in front of which the others stay as they are.
      obtain ⟨_, asset, hphase, _⟩ := id hlast
      obtain ⟨o, hcourse, heq⟩ := Player.advance_of_active hsound hphase f
      have hl := hlived l (by simp)
      obtain ⟨lives, haccount⟩ := hcourse.exists_account hcall rfl rfl hl.1 hlast
        fun hnil => absurd hnil hl.2
      have hboth := haccount.append (fun x hx => hlived x (List.mem_append_left _ hx)) hover
      have hsplit : trace ++ ofInstances n (o.after (Player.deltaNotices f.delta)).events
          = before.flatMap Life.trace ++ (l.trace ++ ofInstances n o.events) := by
        simp [htrace, Outcome.after]
      rw [heq]
      exact ⟨_, hsplit ▸ hboth⟩
    | rest hrest hover =>
      rcases hsound.cases with hphase | ⟨asset, next, last?, hphase⟩ | ⟨asset, d, live, hphase, -⟩
      · rw [Player.advance_of_idle hphase]
        exact ⟨lives, by simpa using htrace, hlived, .rest hrest hover⟩
      · obtain ⟨o, hcourse, heq⟩ := Player.advance_of_poised hphase f
        obtain ⟨more, haccount⟩ := exists_account_begin hcall rfl rfl hcourse
          fun l hlived hof hfresh => hcourse.exists_account hcall rfl rfl hlived hof hfresh
        have hboth := haccount.append hlived hover
        have hsplit : trace ++ ofInstances n
              (o.after (Player.deltaNotices f.delta ++ (p.embarked asset next f).events)).events
            = lives.flatMap Life.trace ++
              ofInstances n ((p.embarked asset next f).events ++ o.events) := by
          simp [htrace, Outcome.after]
        rw [heq]
        exact ⟨_, hsplit ▸ hboth⟩
      · simp [Player.current?, hphase, Phase.current?] at hrest

/-- What is done to instances in a sequence of calls. -/
def Player.instanceTrace (p : Player ι) (calls : List (Call ι τ)) : List (Nat × Event τ) :=
  (p.chronicle 0 calls).filter fun entry => entry.2.isOfInstance

theorem Player.instanceTrace_concat (p : Player ι) (calls : List (Call ι τ)) (c : Call ι τ) :
    p.instanceTrace (calls ++ [c])
      = p.instanceTrace calls ++ ofInstances calls.length ((p.after calls).call c).2 := by
  simp only [instanceTrace, chronicle_append, List.filter_append, chronicle, Nat.zero_add,
    List.append_nil, ofInstances, List.filter_map]
  rfl

theorem exists_account_take (hsound : p₀.IsSound) (hidle : p₀.phase = .idle)
    (hn : n ≤ calls.length) : ∃ lives,
    IsAccount p₀ calls (p₀.instanceTrace (calls.take n)) (p₀.after (calls.take n)) lives := by
  induction n with
  | zero =>
    refine ⟨[], rfl, by simp [AllLived], .rest ?_ (by simp)⟩
    simp [Player.current?, hidle, Phase.current?]
  | succ n ih =>
    obtain ⟨lives, haccount⟩ := ih (Nat.le_of_succ_le hn)
    have hcall : calls[n]? = some calls[n] := List.getElem?_eq_getElem hn
    have hnext := exists_account_call (Player.isSound_after hsound _) haccount hcall rfl
    have hlength : (calls.take n).length = n := by simp; omega
    have htake : calls.take (n + 1) = calls.take n ++ [calls[n]] := by
      rw [List.take_add_one, hcall, Option.toList_some]
    rw [htake, Player.instanceTrace_concat, hlength, Player.after_append]
    exact hnext

theorem cancelled_mem_call {p : Player ι} {asset : Asset} {id : ActionId} {live : ι}
    (hphase : p.phase = .active asset id live) {c : Call ι τ} (hends : c.EndsRun) :
    .cancelled id ∈ (p.call c).2 := by
  cases c with
  | start asset options =>
    obtain ⟨start, hstart⟩ := hends
    simp [Player.call_start_of_ok hstart, Player.stop_of_active hphase]
  | stop => simp [Player.call, Player.stop_of_active hphase]
  | update f => exact hends.elim

theorem Life.cancelled_mem_trace_iff {id : ActionId} :
    (n, .cancelled id) ∈ l.trace ↔ l.cancelled? = some n ∧ l.descriptor.id = id := by
  simp [Life.trace, Turn.trace, Option.mem_toList]

/-- **What a player does to instances, in every sequence of calls, is one life after the other.**
All lives are over but that of the live instance, which is the last one; and whenever a call ends a
run while an instance is live, the life of this very instance ends with its being cancelled in that
call. -/
theorem Player.instanceTrace_splits_into_lives (config : PlayerConfig) (seed : UInt64)
    (calls : List (Call ι τ)) :
    let p₀ : Player ι := new config seed
    ∃ lives : List (Life ι τ),
      p₀.instanceTrace calls = lives.flatMap Life.trace ∧
      (∀ l ∈ lives, l.IsLived p₀ calls ∧ l.turns ≠ []) ∧
      LeadTo (p₀.after calls) lives ∧
      ∀ n c asset id live, calls[n]? = some c → c.EndsRun →
        (p₀.after (calls.take n)).phase = .active asset id live →
        ∃ l ∈ lives, l.cancelled? = some n ∧ l.descriptor.id = id ∧ l.heir = live := by
  intro p₀
  obtain ⟨lives, htrace, hlived, hleads⟩ :=
    exists_account_take (isSound_new config seed) rfl (Nat.le_refl calls.length)
  rw [List.take_length] at htrace hleads
  refine ⟨lives, htrace, hlived, hleads, ?_⟩
  intro n c asset id live hcall hends hphase
  -- The cancellation stands in the trace, and so in that of one of the lives.
  have hmem : (n, .cancelled id) ∈ p₀.instanceTrace calls := by
    refine List.mem_filter.2 ⟨mem_chronicle_iff.2 ⟨n, c, hcall, by omega, ?_⟩, rfl⟩
    exact cancelled_mem_call hphase hends
  rw [htrace, List.mem_flatMap] at hmem
  obtain ⟨l, hl, hcancelled⟩ := hmem
  obtain ⟨hn, hid⟩ := Life.cancelled_mem_trace_iff.1 hcancelled
  obtain ⟨-, -, asset', hphase'⟩ := (hlived l hl).1.cancellation n hn
  have hsame := hphase.symm.trans hphase'
  simp only [Phase.active.injEq] at hsame
  exact ⟨l, hl, hn, hid, hsame.2.2.symm⟩

end

end

end ActionGraph
