import ActionGraph.Proofs.Player.Handover
import ActionGraph.Proofs.Player.Phases

/-!
# What observers hear

An observer hears that a run starts and that it is over, and nothing else. `news` is what it hears
of some events, and `Alternates` says that the news of a run's end always comes between two starts
and names the flow that was started.

No call breaks the alternation. A start that is accepted first ends the run before it, a refused one
is not heard of; a run ends with a stop, or in an update, and is heard of once; and nothing is heard
of a player that is idle and stays so.
-/

namespace ActionGraph

variable {ι τ : Type}

inductive News where
  | started (flow : String)
  | finished (report : RunReport)
  deriving DecidableEq, Repr

namespace News

def isStart : News → Bool
  | .started _ => true
  | .finished _ => false

def isFinish : News → Bool
  | .started _ => false
  | .finished _ => true

end News

def Event.news? : Event τ → Option News
  | .runStarted flow => some (.started flow)
  | .runFinished report => some (.finished report)
  | _ => none

/-- What observers hear of these events. -/
def news (events : List (Event τ)) : List News := events.filterMap Event.news?

@[simp] theorem news_nil : news ([] : List (Event τ)) = [] := rfl

@[simp] theorem news_append (events more : List (Event τ)) :
    news (events ++ more) = news events ++ news more := List.filterMap_append

@[simp] theorem news_cons (e : Event τ) (events : List (Event τ)) :
    news (e :: events) = e.news?.toList ++ news events := pick_cons ..

@[simp] theorem news_noted (notes : List (Note τ)) : news (notes.map Event.noted) = [] := by
  refine List.filterMap_eq_nil_iff.2 fun e he => ?_
  obtain ⟨note, -, rfl⟩ := List.mem_map.1 he
  rfl

@[simp] theorem news_farewell (p : Player ι) (withError : Bool) :
    news (p.farewell withError : List (Event τ)) = [.finished (p.closing withError)] := rfl

@[simp] theorem news_greeting (asset : Asset) (id : ActionId) :
    news (Player.greeting asset id : List (Event τ)) = [.started asset.name] := rfl

@[simp] theorem news_complaints (id : ActionId) (decision : Decision) :
    news (Player.complaints id decision : List (Event τ)) = [] := by
  rcases decision with (_ | message) | _ | message | next <;> rfl

@[simp] theorem news_deltaNotices [Clock τ] (delta : τ) :
    news (Player.deltaNotices delta) = [] := by
  rw [Player.deltaNotices]
  split <;> rfl

/-! ### Alternation -/

/-- Starts and ends alternate; the flow that is played before the news, and the one behind them. -/
inductive Alternates : Option String → List News → Option String → Prop
  | nil (flow? : Option String) : Alternates flow? [] flow?
  | start (flow : String) {rest : List News} {last? : Option String}
      (hrest : Alternates (some flow) rest last?) : Alternates none (.started flow :: rest) last?
  | finish (report : RunReport) {rest : List News} {last? : Option String}
      (hrest : Alternates none rest last?) :
    Alternates (some report.flow) (.finished report :: rest) last?

namespace Alternates

variable {flow? next? last? : Option String} {heard more : List News}

theorem append (h : Alternates flow? heard next?) (hmore : Alternates next? more last?) :
    Alternates flow? (heard ++ more) last? := by
  induction h with
  | nil => exact hmore
  | start flow _ ih => exact .start flow (ih hmore)
  | finish report _ ih => exact .finish report (ih hmore)

/-- The runs that have started are those that are over and the one that is played, if one is. -/
theorem countP_isStart (h : Alternates flow? heard last?) :
    heard.countP News.isStart + flow?.toList.length
      = heard.countP News.isFinish + last?.toList.length := by
  induction h with
  | nil => simp
  | start flow _ ih =>
    simp only [List.countP_cons, News.isStart, News.isFinish, Option.toList, List.length_cons,
      List.length_nil] at ih ⊢
    simp only [if_true, Bool.false_eq_true, if_false]
    omega
  | finish report _ ih =>
    simp only [List.countP_cons, News.isStart, News.isFinish, Option.toList, List.length_cons,
      List.length_nil] at ih ⊢
    simp only [if_true, Bool.false_eq_true, if_false]
    omega

end Alternates

/-! ### The news of a stop -/

namespace Player

variable {p : Player ι}

/-- The name of the flow that is played. -/
def flow? (p : Player ι) : Option String := p.asset?.map Asset.name

theorem flow_closing {flow : String} (hflow : p.flow? = some flow) (withError : Bool) :
    (p.closing withError).flow = flow := by
  rw [flow?] at hflow
  simp [closing, hflow]

/-- What is heard when the run is stopped, if there is one. -/
def stopNews (p : Player ι) : List News :=
  if p.isPlaying then [.finished (p.closing false)] else []

theorem news_stop (hsound : p.IsSound) : news (p.stop (τ := τ)).2 = p.stopNews := by
  rcases hsound.cases with hphase | ⟨asset, next, last?, hphase⟩ | ⟨asset, d, live, hphase, -⟩
  · simp [stop_of_idle hphase, stopNews, isPlaying_of_idle hphase]
  · simp [stop_of_poised hphase, stopNews, isPlaying_of_poised hphase]
  · simp [stop_of_active hphase, stopNews, isPlaying_of_active hphase, Event.news?]

theorem flow?_stop (hsound : p.IsSound) : (p.stop (τ := τ)).1.flow? = none := by
  rcases hsound.cases with hphase | ⟨asset, next, last?, hphase⟩ | ⟨asset, d, live, hphase, -⟩
  · simp [stop_of_idle hphase, flow?, asset?, hphase, Phase.asset?]
  · rw [stop_of_poised hphase]
    rfl
  · rw [stop_of_active hphase]
    rfl

theorem isPlaying_eq (hsound : p.IsSound) : p.isPlaying = p.flow?.isSome := by
  rw [flow?, Option.isSome_map, Bool.eq_iff_iff]
  exact hsound.isPlaying_iff.1

theorem alternates_stopNews (hsound : p.IsSound) : Alternates p.flow? p.stopNews none := by
  cases hflow : p.flow? with
  | none =>
    have hstill : p.stopNews = [] := by simp [stopNews, isPlaying_eq hsound, hflow]
    rw [hstill]
    exact .nil none
  | some flow =>
    have hplays : p.stopNews = [.finished (p.closing false)] := by
      simp [stopNews, isPlaying_eq hsound, hflow]
    rw [hplays, ← flow_closing hflow false]
    exact .finish _ (.nil none)

end Player

/-! ### The news of a course -/

/-- Nothing is heard and the same flow is played, or it is heard that the run of this flow is
over. -/
def Outcome.TellsAtMostTheEnd (flow? : Option String) (o : Outcome ι τ) : Prop :=
  (news o.events = [] ∧ o.player.flow? = flow?) ∨
    ∃ report, news o.events = [.finished report] ∧ flow? = some report.flow ∧
      o.player.phase = .idle ∧ o.player.report? = some report

namespace Outcome.TellsAtMostTheEnd

variable {flow? : Option String} {o : Outcome ι τ}

theorem after (h : o.TellsAtMostTheEnd flow?) {events : List (Event τ)}
    (hevents : news events = []) : (o.after events).TellsAtMostTheEnd flow? := by
  rcases h with ⟨hnone, hflow⟩ | ⟨report, hnews, hrest⟩
  · exact .inl ⟨by simp [Outcome.after, hevents, hnone], hflow⟩
  · exact .inr ⟨report, by simp [Outcome.after, hevents, hnews], hrest⟩

theorem alternates (h : o.TellsAtMostTheEnd flow?) :
    Alternates flow? (news o.events) o.player.flow? := by
  rcases h with ⟨hnone, hflow⟩ | ⟨report, hnews, rfl, hidle, -⟩
  · rw [hnone, hflow]
    exact .nil flow?
  · have hflow : o.player.flow? = none := by
      simp [Player.flow?, Player.asset?, hidle, Phase.asset?]
    rw [hnews, hflow]
    exact .finish report (.nil none)

end Outcome.TellsAtMostTheEnd

theorem Player.tells_abort {p : Player ι} {flow : String} (hflow : p.flow? = some flow)
    (scopes : Scopes) (complaint : Complaint) :
    (p.abort scopes complaint : Outcome ι τ).TellsAtMostTheEnd (some flow) := by
  have hclosing : (p.closing true).flow = flow := p.flow_closing hflow true
  exact .inr ⟨p.closing true, rfl, congrArg some hclosing.symm, rfl, rfl⟩

theorem Turn.flow?_player (t : Turn ι τ) : t.player.flow? = some t.asset.name := by
  simp [Player.flow?, Player.asset?, t.phase_eq, Phase.asset?]

section

variable [Clock τ]

@[simp] theorem Turn.news_events (t : Turn ι τ) : news t.events = [] := by
  simp [events, Event.news?]

@[simp] theorem Turn.news_departure (t : Turn ι τ) (next : ActionId) (yields : Bool) :
    news (t.departure next yields) = [] := by
  simp [departure, Event.news?]

theorem tells_begin {r : Repertoire ι τ} {bridge : Bridge} {p : Player ι} {scopes : Scopes}
    {asset : Asset} {next : ActionId} {more : Nat} {remaining : τ} {o : Outcome ι τ}
    (hflow : p.flow? = some asset.name)
    (hcourse : Course r bridge more remaining (p.begin r bridge scopes asset next).player
      (p.begin r bridge scopes asset next).scopes o)
    (hlive : (p.begin r bridge scopes asset next).player.flow? = some asset.name →
      o.TellsAtMostTheEnd (some asset.name)) :
    (o.after (p.begin r bridge scopes asset next).events).TellsAtMostTheEnd (some asset.name) := by
  rcases Player.begin_cases r bridge p scopes asset next with
    ⟨complaint, -, hbegin⟩ | ⟨d, made, -, -, hbegin⟩
  · rw [hbegin] at hcourse ⊢
    have hrest := hcourse.eq_of_rest rfl
    have hattempted : news ([.attempted next] : List (Event τ)) = [] := rfl
    rw [hrest, Outcome.after, List.append_nil]
    exact (Player.tells_abort hflow scopes complaint).after hattempted
  · rw [hbegin] at hlive ⊢
    have hnone : news (Player.embark r bridge p scopes asset d made).events = [] := by
      simp [Player.embark, Event.news?]
    exact (hlive rfl).after hnone

/-- In a course nothing is heard but the end of the run, at the end. -/
theorem Course.tells {r : Repertoire ι τ} {bridge : Bridge} {more : Nat} {remaining : τ}
    {p : Player ι} {scopes : Scopes} {o : Outcome ι τ}
    (h : Course r bridge more remaining p scopes o) : o.TellsAtMostTheEnd p.flow? := by
  induction h with
  | rest => exact .inl ⟨rfl, rfl⟩
  | stay t =>
    rw [t.flow?_player]
    exact .inl ⟨t.news_events, rfl⟩
  | close t =>
    rw [t.flow?_player]
    exact .inr ⟨t.seated.closing _, by simp, rfl, rfl, rfl⟩
  | yield t =>
    rw [t.flow?_player]
    exact .inl ⟨t.news_departure _ _, rfl⟩
  | exhaust t =>
    rw [t.flow?_player]
    exact .inl ⟨by simp [Event.news?], rfl⟩
  | @go more t next o hdecision hrest ih =>
    rw [t.flow?_player]
    -- Nothing is heard of the departure, and the flow of the next action is the same one.
    have harrival := tells_begin rfl hrest fun hflow => hflow ▸ ih
    have hafter : o.after (t.departure next false ++ (t.arrival next).events)
        = (o.after (t.arrival next).events).after (t.departure next false) := by
      simp [Outcome.after]
    rw [hafter]
    exact harrival.after (t.news_departure next false)

/-! ### The news of a call -/

namespace Player

variable {p : Player ι}

theorem tells_advance (hsound : p.IsSound) (f : Frame ι τ) :
    (p.advance f).TellsAtMostTheEnd p.flow? := by
  rcases hsound.cases with hphase | ⟨asset, next, last?, hphase⟩ | ⟨asset, d, live, hphase, -⟩
  · rw [advance_of_idle hphase]
    exact .inl ⟨rfl, rfl⟩
  · obtain ⟨o, hcourse, heq⟩ := advance_of_poised hphase f
    have hflow : p.flow? = some asset.name := by simp [flow?, asset?, hphase, Phase.asset?]
    have hafter : o.after (deltaNotices f.delta ++ (p.embarked asset next f).events)
        = (o.after (p.embarked asset next f).events).after (deltaNotices f.delta) := by
      simp [Outcome.after]
    have hbegun := tells_begin hflow hcourse fun hlive => hlive ▸ hcourse.tells
    rw [heq, hflow, hafter]
    exact hbegun.after (news_deltaNotices _)
  · obtain ⟨o, hcourse, heq⟩ := advance_of_active hsound hphase f
    rw [heq]
    exact hcourse.tells.after (news_deltaNotices _)

/-- **No call breaks the alternation.** -/
theorem alternates_call (hsound : p.IsSound) (c : Call ι τ) :
    Alternates p.flow? (news (p.call c).2) (p.call c).1.flow? := by
  cases c with
  | start asset options =>
    cases hstart : resolveStart asset options with
    | error e =>
      rw [call_start_of_error hstart]
      exact .nil _
    | ok id =>
      rw [call_start_of_ok hstart, news_append, news_stop hsound, news_greeting]
      have hstarts : Alternates none [.started asset.name] (some asset.name) := .start _ (.nil _)
      exact (alternates_stopNews hsound).append hstarts
  | stop =>
    rw [call, news_stop hsound, flow?_stop hsound]
    exact alternates_stopNews hsound
  | update f => exact (tells_advance hsound f).alternates

theorem alternates_chronicle (hsound : p.IsSound) (n : Nat) (calls : List (Call ι τ)) :
    Alternates p.flow? (news ((p.chronicle n calls).map Prod.snd)) (p.after calls).flow? := by
  induction calls generalizing p n with
  | nil => exact .nil _
  | cons c rest ih =>
    rw [map_snd_chronicle_cons, news_append]
    exact (alternates_call hsound c).append (ih (isSound_call hsound c) (n + 1))

end Player

/-- What observers hear of a call: the end of the run before and the start, where a start is
accepted; the end of the run, where it is stopped or ends in an update; and nothing of any other. -/
def Call.IsHeard (p : Player ι) : Call ι τ → Prop
  | .start asset options =>
    match p.start (τ := τ) asset options with
    | .ok (_, told) => news told = p.stopNews ++ [.started asset.name]
    | .error _ => news (p.call (.start asset options : Call ι τ)).2 = []
  | .stop => news (p.stop (τ := τ)).2 = p.stopNews
  | .update f =>
    if p.isPlaying ∧ ¬(p.advance f).player.isPlaying then
      ∃ report, news (p.advance f).events = [.finished report] ∧
        (p.advance f).player.report? = some report
    else news (p.advance f).events = []

namespace Player

variable {p : Player ι}

theorem isHeard_update (hsound : p.IsSound) (f : Frame ι τ) : (Call.update f).IsHeard p := by
  have hafter : (p.advance f).player.IsSound := isSound_call hsound (.update f)
  rw [Call.IsHeard, isPlaying_eq hsound, isPlaying_eq hafter]
  rcases tells_advance hsound f with ⟨hnone, hflow⟩ | ⟨report, hnews, hflow, hidle, hreport⟩
  · have hsame : ¬(p.flow?.isSome ∧ ¬(p.advance f).player.flow?.isSome) := by
      rw [hflow]
      exact fun h => h.2 h.1
    rwa [if_neg hsame]
  · have hover : (p.advance f).player.flow? = none := by
      simp [Player.flow?, asset?, hidle, Phase.asset?]
    have hended : p.flow?.isSome ∧ ¬(p.advance f).player.flow?.isSome := by simp [hflow, hover]
    rw [if_pos hended]
    exact ⟨report, hnews, hreport⟩

theorem isHeard_call (hsound : p.IsSound) (c : Call ι τ) : c.IsHeard p := by
  cases c with
  | start asset options =>
    rw [Call.IsHeard, call, start_eq]
    cases hstart : resolveStart asset options with
    | error e => rfl
    | ok id =>
      change news ((p.stop (τ := τ)).2 ++ greeting asset id) = _
      rw [news_append, news_stop hsound, news_greeting]
  | stop => exact news_stop hsound
  | update f => exact isHeard_update hsound f

/-- **Observers hear of every run once when it starts and once when it is over.** Whatever calls
come behind the point where an observer is added, and whatever the actions do, what it hears
alternates; the news of an end names the flow that was started; the runs it has heard to start are
those that it has heard to be over, and one more while the player plays; and of one more call it
hears what `Call.IsHeard` says. -/
theorem news_alternate (config : PlayerConfig) (seed : UInt64) (before : List (Call ι τ))
    (hidle : ((new config seed).after before).state = .idle) (calls : List (Call ι τ)) :
    let p := (new config seed).after before
    let q := p.after calls
    let heard := news ((p.chronicle 0 calls).map Prod.snd)
    Alternates none heard (q.asset?.map Asset.name) ∧
      heard.countP News.isStart = heard.countP News.isFinish + (if q.isPlaying then 1 else 0) ∧
      ∀ c : Call ι τ, c.IsHeard q := by
  intro p q heard
  have hp : p.IsSound := isSound_after (isSound_new config seed) before
  have hq : q.IsSound := isSound_after hp calls
  have hstill : p.isPlaying = false := by
    rw [Bool.eq_false_iff]
    exact fun hplays => hp.isPlaying_iff.2.1 hplays hidle
  have hnone : p.flow? = none := by
    rw [isPlaying_eq hp] at hstill
    simpa using hstill
  have halternate : Alternates none heard q.flow? := hnone ▸ alternates_chronicle hp 0 calls
  refine ⟨halternate, ?_, fun c => isHeard_call hq c⟩
  have hcount := halternate.countP_isStart
  rw [isPlaying_eq hq]
  cases hflow : q.flow? with
  | none => simpa [hflow] using hcount
  | some flow => simpa [hflow] using hcount

end Player

end

namespace Player

/-- An observer that is added between two runs of a flow hears of the second one only. -/
theorem news_alternate_in_relay :
    ∃ before calls : List (Call (Builtin Float32) Float32),
      ((new {} 0).after before).state = .idle ∧
      news ((((new {} 0).after before).chronicle 0 calls).map Prod.snd)
        = [.started "relay", .finished ⟨"relay", some "first", false⟩] ∧
      Alternates none [.started "relay", .finished ⟨"relay", some "first", false⟩] none := by
  let round : List (Call (Builtin Float32) Float32) := [.start relay {}, .stop]
  have hidle : ((new {} 0).after round).state = .idle := rfl
  have halternate := (news_alternate {} 0 round hidle round).1
  exact ⟨round, round, hidle, rfl, halternate⟩

end Player

end ActionGraph
