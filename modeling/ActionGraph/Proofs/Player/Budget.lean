import ActionGraph.Proofs.Clock.Spending
import ActionGraph.Proofs.Player.LastWord
import ActionGraph.Proofs.Player.Progress

/-!
# What is left of a frame

The instances that an update comes to share its frame time. Each of them finds what the one before
has left (`budgets`). An instance that only calls upon its context leaves no more than it has found,
whatever times it claims to have spent: one call gains no time (`handsOn_call`), and so no turn
does. By induction on the turns of an update, what they find never grows.
-/

namespace ActionGraph

open Clock (IsTime Measure NeverGains)
open Clock.Measure (value)

variable {ι τ : Type}

/-! ### What is found -/

/-- How much time an instance finds left when it is updated. -/
def Event.budget? : Event τ → Option τ
  | .updated _ remaining => some remaining
  | _ => none

def budgets (events : List (Event τ)) : List τ := events.filterMap Event.budget?

@[simp] theorem budgets_nil : budgets ([] : List (Event τ)) = [] := rfl

@[simp] theorem budgets_append (events more : List (Event τ)) :
    budgets (events ++ more) = budgets events ++ budgets more := List.filterMap_append

@[simp] theorem budgets_cons (e : Event τ) (events : List (Event τ)) :
    budgets (e :: events) = e.budget?.toList ++ budgets events := pick_cons ..

@[simp] theorem budgets_of_isQuiet {events : List (Event τ)} (h : IsQuiet events) :
    budgets events = [] := by
  refine h.pick_eq_nil fun e htelling => ?_
  cases e with
  | attempted | made | started | updated | decided | cancelled => cases htelling
  | runStarted | runFinished | said | noted | notice => rfl

/-- Nothing is updated while an instance is made. -/
@[simp] theorem budgets_begin (r : Repertoire ι τ) (bridge : Bridge) (p : Player ι)
    (scopes : Scopes) (asset : Asset) (next : ActionId) :
    budgets (Player.begin r bridge p scopes asset next).events = [] := by
  rcases Player.begin_cases r bridge p scopes asset next with
    ⟨complaint, -, hbegin⟩ | ⟨d, made, -, -, hbegin⟩
  · rw [hbegin]
    rfl
  · rw [hbegin]
    simp [Player.embark, Event.budget?]

section

variable [Clock τ]

@[simp] theorem Turn.budgets_events (t : Turn ι τ) : budgets t.events = [t.context.remaining] := by
  simp [Turn.events, Event.budget?]

@[simp] theorem Turn.budgets_departure (t : Turn ι τ) (next : ActionId) (yields : Bool) :
    budgets (t.departure next yields) = [t.context.remaining] := by
  simp [Turn.departure, Event.budget?]

variable {r : Repertoire ι τ} {bridge : Bridge} {more : Nat} {remaining : τ} {p : Player ι}
  {scopes : Scopes} {o : Outcome ι τ}

/-- What is found in a course is what its turns have to spend. -/
theorem Course.exists_budgets (h : Course r bridge more remaining p scopes o) :
    ∃ turns, Succession r bridge remaining p scopes turns ∧
      budgets o.events = turns.map fun t => t.context.remaining := by
  induction h with
  | rest => exact ⟨[], .done, rfl⟩
  | stay t => exact ⟨[t], .last t, t.budgets_events⟩
  | close t | yield t => exact ⟨[t], .last t, by simp⟩
  | exhaust t => exact ⟨[t], .last t, by simp [Event.budget?]⟩
  | @go more t next o hdecision hrest ih =>
    obtain ⟨turns, hturns, hbudgets⟩ := ih
    refine ⟨t :: turns, .followed t hdecision hturns, ?_⟩
    have hnone : budgets (t.arrival next).events = [] := budgets_begin ..
    simp [Outcome.after, hbudgets, hnone]

omit [Clock τ] in
theorem Player.budgets_entry (hsound : p.IsSound) (f : Frame ι τ) :
    budgets (p.entry f).events = [] := by
  rcases hsound.cases with hphase | ⟨asset, next, last?, hphase⟩ | ⟨asset, d, live, hphase, -⟩
  · rw [entry_of_idle hphase, budgets_nil]
  · rw [entry_of_poised hphase]
    exact budgets_begin ..
  · rw [entry_of_active hphase, budgets_nil]

theorem Player.exists_budgets (hsound : p.IsSound) (f : Frame ι τ) :
    ∃ turns, Succession f.repertoire f.session.bridge (Clock.orZero f.delta) (p.entry f).player
        (p.entry f).scopes turns ∧
      budgets (p.advance f).events = turns.map fun t => t.context.remaining := by
  obtain ⟨notices, rest, hquiet, -, hcourse, heq⟩ := exists_course hsound f
  obtain ⟨turns, hturns, hbudgets⟩ := hcourse.exists_budgets
  refine ⟨turns, hturns, ?_⟩
  rw [heq, Outcome.after, Outcome.after, budgets_append, budgets_append, budgets_of_isQuiet hquiet,
    budgets_entry hsound, hbudgets]
  rfl

end

/-! ### Calls gain no time -/

section

variable [Clock τ]

/-- Whether an instance has only called upon its context in a turn. -/
def Turn.OnlyCalls (t : Turn ι τ) : Prop :=
  ∃ calls, t.played.result.2 = t.context.callAll calls

/-- Whether the actions of a repertoire only call upon their context. -/
def Repertoire.OnlyCalls (r : Repertoire ι τ) : Prop :=
  ∀ bridge d live stage c, ∃ calls, (r.update bridge d live stage c).result.2 = c.callAll calls

theorem Builtin.onlyCalls : (Builtin.repertoire : Repertoire (Builtin τ) τ).OnlyCalls := by
  intro bridge d live stage c
  cases live with
  | finish => exact ⟨[.breakFlow], rfl⟩
  | fail message retry => exact ⟨[.throw message retry], rfl⟩
  | wait seconds elapsed =>
    simp only [Builtin.repertoire, Builtin.update, Builtin.updateWait]
    split
    · exact ⟨[.goto _ _], rfl⟩
    · exact ⟨[.keepActive], rfl⟩
  | branch | randomBranch | setVariable | log => exact ⟨[.goto _ _], rfl⟩

variable [Measure τ]

/-- Time that is handed on from `s` to `t`: it can pass, and has not become more. -/
structure HandsOn (s t : τ) : Prop where
  isTime : IsTime t
  value_le : value t ≤ value s

theorem HandsOn.refl {t : τ} (ht : IsTime t) : HandsOn t t := ⟨ht, le_rfl⟩

theorem HandsOn.trans {s t u : τ} (h : HandsOn s t) (h' : HandsOn t u) : HandsOn s u :=
  ⟨h'.isTime, h'.value_le.trans h.value_le⟩

theorem handsOn_floor {t : τ} (ht : IsTime t) : HandsOn t (Clock.floor t) :=
  ⟨Measure.isTime_floor ht.1, (Measure.value_floor ht).le⟩

namespace UpdateContext

variable (hgains : NeverGains τ) {c : UpdateContext τ} (htime : IsTime c.remaining)

include hgains htime

theorem handsOn_call (call : UpdateCall τ) : HandsOn c.remaining (c.call call).remaining := by
  cases call with
  | goto link? consumed =>
    cases link? with
    | none => exact .refl htime
    | some link =>
      obtain ⟨hleft, hle⟩ := hgains c.remaining consumed htime
      exact ⟨hleft, hle⟩
  | keepActive | breakFlow | throw => exact .refl htime

theorem handsOn_callAll (calls : List (UpdateCall τ)) :
    HandsOn c.remaining (c.callAll calls).remaining := by
  induction calls generalizing c with
  | nil => exact .refl htime
  | cons call rest ih =>
    have hcall := handsOn_call hgains htime call
    exact hcall.trans (ih hcall.isTime)

end UpdateContext

theorem Turn.handsOn_context (t : Turn ι τ) (htime : IsTime t.remaining) :
    HandsOn t.remaining t.context.remaining :=
  handsOn_floor htime

theorem Turn.handsOn_played (hgains : NeverGains τ) {t : Turn ι τ} (hcalls : t.OnlyCalls)
    (htime : IsTime t.remaining) :
    HandsOn t.context.remaining t.played.result.2.remaining := by
  obtain ⟨calls, hplayed⟩ := hcalls
  rw [hplayed]
  exact UpdateContext.handsOn_callAll hgains (t.handsOn_context htime).isTime calls

/-! ### An update gains no time -/

variable {r : Repertoire ι τ} {bridge : Bridge} {remaining : τ} {p : Player ι} {scopes : Scopes}
  {turns : List (Turn ι τ)}

omit [Measure τ] in
theorem Succession.repertoire_eq (h : Succession r bridge remaining p scopes turns) :
    ∀ t ∈ turns, t.repertoire = r := by
  induction h with
  | done => simp
  | last t => simp
  | followed t hdecision hrest ih =>
    rw [List.forall_mem_cons]
    exact ⟨rfl, ih⟩

omit [Measure τ] in
/-- The first turn has the whole time. -/
theorem Succession.remaining_eq (h : Succession r bridge remaining p scopes turns) :
    ∀ t ∈ turns.head?, t.remaining = remaining := by
  cases h with
  | done => simp
  | last | followed => simp

/-- Each turn hands on to all that come after it. -/
theorem Succession.handsOn (h : Succession r bridge remaining p scopes turns)
    (hgains : NeverGains τ) (hcalls : ∀ t ∈ turns, t.OnlyCalls) (htime : IsTime remaining) :
    (∀ t ∈ turns, HandsOn remaining t.context.remaining) ∧
      turns.Pairwise fun s t => HandsOn s.context.remaining t.context.remaining := by
  induction h with
  | done => exact ⟨by simp, .nil⟩
  | last t =>
    rw [List.forall_mem_singleton]
    exact ⟨t.handsOn_context htime, List.pairwise_singleton _ _⟩
  | followed t hdecision hrest ih =>
    rw [List.forall_mem_cons] at hcalls ⊢
    have hcontext := t.handsOn_context htime
    have hplayed := Turn.handsOn_played hgains hcalls.1 htime
    obtain ⟨hlater, hpairwise⟩ := ih hcalls.2 hplayed.isTime
    have hfrom : ∀ later ∈ _, HandsOn t.context.remaining (Turn.context later).remaining :=
      fun later hmem => hplayed.trans (hlater later hmem)
    exact ⟨⟨hcontext, fun later hmem => hcontext.trans (hfrom later hmem)⟩,
      List.pairwise_cons.2 ⟨hfrom, hpairwise⟩⟩

end

/-! ### Seconds -/

theorem Clock.floor_beq {t : Float32} (ht : IsTime t) : (Clock.floor t == t) = true :=
  (Clock.beq_iff_exactly (Measure.isTime_floor ht.1) ht).2 (Measure.value_floor ht)

/-- With how much of a frame time an update starts. -/
theorem Clock.floor_orZero (delta : Float32) :
    (delta.isFinite = true ∧ ¬delta < 0.0 → (Clock.floor (Clock.orZero delta) == delta) = true) ∧
      (delta.isFinite = false ∨ delta < 0.0 → Clock.floor (Clock.orZero delta) = 0.0) := by
  rcases Clock.orZero_cases delta with ⟨htime, heq⟩ | ⟨hnone, heq⟩
  · rw [heq]
    refine ⟨fun _ => Clock.floor_beq htime, fun hrefused => ?_⟩
    obtain ⟨hfinite, hnegative⟩ := Clock.isTime_seconds_iff.1 htime
    rcases hrefused with hinfinite | hneg
    · exact absurd (hfinite.symm.trans hinfinite) Bool.noConfusion
    · exact absurd hneg hnegative
  · rw [heq]
    refine ⟨fun htime => ?_, fun _ => Clock.floor_of_not_pos (by decide)⟩
    exact absurd (Clock.isTime_seconds_iff.2 htime) hnone

theorem HandsOn.le {s t : Float32} (hs : IsTime s) (h : HandsOn s t) : t ≤ s :=
  (Clock.le_iff_exactly h.isTime hs).2 h.value_le

namespace Player

section

variable [Clock τ]

/-- Whether the instances that this update comes to only call upon their context. -/
def OnlyCalls (p : Player ι) (f : Frame ι τ) : Prop :=
  ∀ turns, Succession f.repertoire f.session.bridge (Clock.orZero f.delta) (p.entry f).player
    (p.entry f).scopes turns → ∀ t ∈ turns, t.OnlyCalls

theorem onlyCalls_of_repertoire {p : Player ι} {f : Frame ι τ} (h : f.repertoire.OnlyCalls) :
    p.OnlyCalls f := by
  intro turns hturns t ht
  rw [← hturns.repertoire_eq t ht] at h
  exact h ..

variable [Measure τ]

/-- What instances that only call upon their context find left of a frame time. -/
theorem handsOn_budgets (hgains : NeverGains τ) {p : Player ι} (hsound : p.IsSound) {f : Frame ι τ}
    (hcalls : p.OnlyCalls f) :
    (∀ t ∈ budgets (p.advance f).events, HandsOn (Clock.orZero f.delta) t) ∧
      (budgets (p.advance f).events).Pairwise HandsOn := by
  obtain ⟨turns, hturns, hfound⟩ := exists_budgets hsound f
  rw [hfound, List.forall_mem_map, List.pairwise_map]
  exact hturns.handsOn hgains (hcalls turns hturns) (Clock.isTime_orZero f.delta)

/-- With built-in actions no update gains time, whatever the clock, if that never gains any. -/
theorem handsOn_budgets_of_builtin (hgains : NeverGains τ) {p : Player (Builtin τ)}
    (hsound : p.IsSound) (session : Session) (delta : τ) :
    let found := budgets (p.advance ⟨Builtin.repertoire, session, delta⟩).events
    (∀ t ∈ found, HandsOn (Clock.orZero delta) t) ∧ found.Pairwise HandsOn :=
  handsOn_budgets hgains hsound (onlyCalls_of_repertoire Builtin.onlyCalls)

end

variable {p : Player ι}

/-- **The budget of an update never grows.** What the instances that an update comes to find left of
its seconds starts with the frame time, or with zero where this is no number, infinite or negative.
It never is negative or no number, and never more than one before has found, whatever times are said
to have been spent. -/
theorem budgets_never_grow (hreach : p.IsReachable Float32) (f : Frame ι Float32)
    (hcalls : p.OnlyCalls f) :
    let found := budgets (p.advance f).events
    (∃ turns, Succession f.repertoire f.session.bridge (Clock.orZero f.delta) (p.entry f).player
        (p.entry f).scopes turns ∧ found = turns.map fun t => t.context.remaining) ∧
    (∀ first ∈ found.head?,
      (f.delta.isFinite = true ∧ ¬f.delta < 0.0 → (first == f.delta) = true) ∧
      (f.delta.isFinite = false ∨ f.delta < 0.0 → first = 0.0)) ∧
    (∀ t ∈ found, t.isFinite = true ∧ t.isNaN = false ∧ ¬t < 0.0) ∧
    found.Pairwise fun earlier later => later ≤ earlier := by
  intro found
  obtain ⟨turns, hturns, hfound⟩ := exists_budgets hreach.isSound f
  obtain ⟨htimes, hpairwise⟩ := handsOn_budgets Clock.neverGains_seconds hreach.isSound hcalls
  refine ⟨⟨turns, hturns, hfound⟩, ?_, fun t ht => ?_, ?_⟩
  · have hfirst : ∀ first ∈ found.head?, first = Clock.floor (Clock.orZero f.delta) := by
      rw [show found = _ from hfound, List.head?_map]
      intro first hmem
      obtain ⟨t, ht, rfl⟩ := Option.mem_map.1 hmem
      exact congrArg Clock.floor (hturns.remaining_eq t ht)
    intro first hmem
    rw [hfirst first hmem]
    exact Clock.floor_orZero f.delta
  · have htime := (htimes t ht).isTime
    exact ⟨htime.1, htime.isNaN_eq_false, (Clock.isTime_seconds_iff.1 htime).2⟩
  · exact hpairwise.imp_of_mem fun hs _ hst => hst.le (htimes _ hs).isTime

/-- Actions that make the same calls in every update. -/
def callers (callsOf : ActionId → List (UpdateCall Float32)) :
    Repertoire (List (UpdateCall Float32)) Float32 where
  makers := [("caller", fun d => .ok (callsOf d.id))]
  start _ _ calls stage := .quiet stage calls
  update _ _ calls stage c := .quiet stage (calls, c.callAll calls)

theorem onlyCalls_callers (callsOf : ActionId → List (UpdateCall Float32)) :
    (callers callsOf).OnlyCalls :=
  fun _ _ calls _ _ => ⟨calls, rfl⟩

/-- A flow of four actions, whose links are of their own making. -/
def errands : Asset where
  name := "errands"
  actions := ["first", "second", "third", "last"].map fun id => { id, type := "caller" }
  index := [("first", 0), ("last", 3), ("second", 1), ("third", 2)]
  start? := some "first"
  bindings := .empty
  consistent := Asset.isIndexOf_indexOf rfl

/-- One action spends time twice, the second time no number of seconds; one spends less than
nothing; and one spends for ever. -/
def errandCalls : ActionId → List (UpdateCall Float32)
  | "first" => [.goto (some { target := "last" }) 0.25, .goto (some { target := "second" }) (0 / 0)]
  | "second" => [.throw "dropped" true, .goto (some { target := "third" }) (-2)]
  | "third" => [.breakFlow, .goto (some { target := "last" }) (1 / 0)]
  | _ => [.keepActive]

theorem budgets_never_grow_in_errands :
    let p : Player (List (UpdateCall Float32)) :=
      ((new {} 0).call (.start errands {} : Call _ Float32)).1
    let f : Frame (List (UpdateCall Float32)) Float32 := ⟨callers errandCalls, .new, 1⟩
    p.IsReachable Float32 ∧ p.OnlyCalls f ∧
      (budgets (p.advance f).events).map Float32.toBits
        = ([1, 0.75, 0.75, 0] : List Float32).map Float32.toBits ∧
      (budgets (p.advance f).events).Pairwise fun earlier later => later ≤ earlier := by
  intro p f
  have hreach : p.IsReachable Float32 := .call (.new _ _) _
  have hcalls : p.OnlyCalls f := onlyCalls_of_repertoire (onlyCalls_callers _)
  refine ⟨hreach, hcalls, by decide +kernel, ?_⟩
  exact (budgets_never_grow hreach f hcalls).2.2.2

end Player

end ActionGraph
