import ActionGraph.Player.Headless
import ActionGraph.Proofs.Player.Reports
import ActionGraph.Proofs.Player.Restart

/-!
# Runs without a screen

A run without a screen is a start with updates behind it, all with one frame time. What comes of any
number of them is `frames`, where updates go on behind the end of the run and change nothing any
more. The run itself stops counting there: it counts the updates up to the first one behind which
observers have heard that the run is over, if the bound allows so many (`exists_drive_eq`).

Observers hear of one end at most behind a start, and the player then keeps the report of it; as
long as they have heard of none the player is in the run that was started and keeps no report
(`IsIn.runsOn_frames`). So the report that comes of the run is never one that the player had before.
-/

namespace ActionGraph

variable {ι τ : Type}

/-- Whether observers hear that a run is over. -/
def TellsEnd (events : List (Event τ)) : Prop := ∃ report, .finished report ∈ news events

section

variable [Clock τ]

namespace Player

/-- What comes of so many updates with one frame time, on one session. -/
def frames (r : Repertoire ι τ) (bridge : Bridge) (delta : τ) :
    Nat → Player ι → Scopes → Outcome ι τ
  | 0, p, scopes => ⟨p, scopes, []⟩
  | n + 1, p, scopes =>
    let o := p.update r ⟨scopes, bridge⟩ delta
    (frames r bridge delta n o.player o.scopes).after o.events

variable {r : Repertoire ι τ} {bridge : Bridge} {delta : τ} {p : Player ι} {scopes : Scopes}

theorem frames_of_idle (hidle : p.phase = .idle) (n : Nat) :
    frames r bridge delta n p scopes = ⟨p, scopes, []⟩ := by
  induction n with
  | zero => rfl
  | succ n ih =>
    have hupdate : p.update r ⟨scopes, bridge⟩ delta = ⟨p, scopes, []⟩ :=
      advance_of_idle hidle ⟨r, ⟨scopes, bridge⟩, delta⟩
    simp only [frames, hupdate, ih, Outcome.after, List.append_nil]

/-! ### What is heard behind a start -/

variable {asset : Asset} {last : ActionId}

/-- However many updates there are, the run goes on or it has come to its end. -/
theorem IsIn.runsOn_frames (hin : p.IsIn asset last) (hsound : p.IsSound) (n : Nat) :
    RunsOn asset last (frames r bridge delta n p scopes).events
      (frames r bridge delta n p scopes).player := by
  induction n generalizing p scopes last with
  | zero => exact .goesOn rfl hin
  | succ n ih =>
    let f : Frame ι τ := ⟨r, ⟨scopes, bridge⟩, delta⟩
    have hafter : (p.advance f).player.IsSound := isSound_call hsound (.update f)
    have hpart := hin.runsOn_advance hsound f
    change RunsOn asset last
      ((p.advance f).events ++ (frames r bridge delta n (p.advance f).player _).events)
      (frames r bridge delta n (p.advance f).player _).player
    generalize p.advance f = o at hafter hpart
    obtain ⟨p', scopes', events⟩ := o
    cases hpart with
    | goesOn hnews hin' => exact (ih hin' hafter).prepend hnews
    | ends hnews hflow hlast hidle hreport =>
      rw [frames_of_idle hidle, List.append_nil]
      exact .ends hnews hflow hlast hidle hreport

end Player

end

/-! ### Whether the run is over -/

section

variable {p : Player ι} {asset : Asset} {last : ActionId} {events : List (Event τ)}

theorem Player.IsIn.isPlaying (hin : p.IsIn asset last) : p.isPlaying = true := by
  rcases hin.cases with ⟨next, last?, hphase⟩ | ⟨live, hphase⟩
  · exact isPlaying_of_poised hphase
  · exact isPlaying_of_active hphase

/-- The run goes on and observers have heard nothing, or it is over and they have heard its report,
which the player keeps. -/
theorem RunsOn.cases (h : RunsOn asset last events p) :
    (¬TellsEnd events ∧ p.isPlaying = true ∧ p.asset? = some asset) ∨
    (TellsEnd events ∧ p.isPlaying = false ∧ ∃ report, news events = [.finished report] ∧
      report.flow = asset.name ∧ p.report? = some report) := by
  cases h with
  | goesOn hnews hin =>
    refine .inl ⟨?_, hin.isPlaying, hin.asset_eq⟩
    rintro ⟨report, hreport⟩
    rw [hnews] at hreport
    exact List.not_mem_nil hreport
  | @ends before _ report hnews hflow hlast hidle hreport =>
    have hheard : news (before ++ [.runFinished report]) = [.finished report] := by
      rw [news_append, hnews]
      rfl
    refine .inr ⟨⟨report, ?_⟩, Player.isPlaying_of_idle hidle, report, hheard, hflow, hreport⟩
    rw [hheard]
    exact List.mem_singleton_self _

theorem RunsOn.isPlaying_iff (h : RunsOn asset last events p) :
    p.isPlaying = true ↔ ¬TellsEnd events := by
  rcases h.cases with ⟨htells, hplays, -⟩ | ⟨htells, hplays, -⟩
  · exact iff_of_true hplays htells
  · exact iff_of_false (by rw [hplays]; exact Bool.false_ne_true) (fun hnot => hnot htells)

end

/-! ### Counting the updates -/

namespace Player

variable [Clock τ] {r : Repertoire ι τ} {bridge : Bridge} {delta : τ} {bound : Nat} {p : Player ι}
  {scopes : Scopes} {n m : Nat}

/-- The first number of updates behind which the player plays no more, or else the bound. -/
structure CountsTo (r : Repertoire ι τ) (bridge : Bridge) (delta : τ) (bound : Nat) (p : Player ι)
    (scopes : Scopes) (n : Nat) : Prop where
  le : n ≤ bound
  plays : ∀ m < n, (frames r bridge delta m p scopes).player.isPlaying = true
  stops : n < bound → (frames r bridge delta n p scopes).player.isPlaying = false

theorem CountsTo.not_lt (h : CountsTo r bridge delta bound p scopes n)
    (h' : CountsTo r bridge delta bound p scopes m) : ¬n < m := by
  intro hlt
  have hover := h.stops (Nat.lt_of_lt_of_le hlt h'.le)
  rw [h'.plays n hlt] at hover
  cases hover

theorem CountsTo.unique (h : CountsTo r bridge delta bound p scopes n)
    (h' : CountsTo r bridge delta bound p scopes m) : n = m :=
  Nat.le_antisymm (Nat.not_lt.1 (h'.not_lt h)) (Nat.not_lt.1 (h.not_lt h'))

theorem countsTo_zero (h : 0 < bound → p.isPlaying = false) :
    CountsTo r bridge delta bound p scopes 0 :=
  ⟨Nat.zero_le bound, fun m hm => absurd hm (Nat.not_lt_zero m), h⟩

theorem exists_drive_eq (r : Repertoire ι τ) (bridge : Bridge) (delta : τ) (bound ticks : Nat)
    (p : Player ι) (scopes : Scopes) (past : List (Event τ)) :
    ∃ n, CountsTo r bridge delta bound p scopes n ∧ drive r bridge delta bound ticks p scopes past
      = (ticks + n, (frames r bridge delta n p scopes).after past.reverse) := by
  induction bound generalizing ticks p scopes past with
  | zero =>
    refine ⟨0, countsTo_zero fun h => absurd h (Nat.lt_irrefl 0), ?_⟩
    rw [drive, frames, Outcome.after, List.append_nil, Nat.add_zero]
  | succ bound ih =>
    by_cases hplays : p.isPlaying = true
    · let o := p.update r ⟨scopes, bridge⟩ delta
      obtain ⟨n, hcounts, hdrive⟩ := ih (ticks + 1) o.player o.scopes (o.events.reverse ++ past)
      refine ⟨n + 1, ⟨Nat.succ_le_succ hcounts.le, ?_, ?_⟩, ?_⟩
      · rintro (_ | m) hm
        · exact hplays
        · exact hcounts.plays m (Nat.lt_of_succ_lt_succ hm)
      · exact fun h => hcounts.stops (Nat.lt_of_succ_lt_succ h)
      · have hnumber : ticks + 1 + n = ticks + (n + 1) := by omega
        rw [drive, if_pos hplays]
        refine hdrive.trans ?_
        simp only [hnumber, frames, Outcome.after, o, List.reverse_append, List.reverse_reverse,
          List.append_assoc]
    · refine ⟨0, countsTo_zero fun _ => Bool.eq_false_iff.2 hplays, ?_⟩
      rw [drive, if_neg hplays, frames, Outcome.after, List.append_nil, Nat.add_zero]

end Player

/-! ### Running in place -/

namespace Bench

variable [Clock τ] (b : Bench ι τ) (r : Repertoire ι τ) (session : Session) (asset : Asset)
  (options : StartOptions) (delta : τ) (maxTicks : Nat)

/-- Runs a flow on a bench and on the scopes of a session. What a start has done stays done, also
where it is refused. -/
def runFrames : Except FlowFault RunSummary × Bench ι τ × Scopes :=
  match b.start asset options with
  | (.error fault, begun) => (.error fault, begun, session.scopes)
  | (.ok (), begun) =>
    let (ticks, o) := Player.drive r session.bridge delta maxTicks 0 begun.player session.scopes []
    (.ok ⟨ticks, if o.player.isPlaying then none else o.player.report?⟩,
      { begun with player := o.player, events := begun.events ++ o.events }, o.scopes)

theorem runFrames_eq : b.runFrames r session asset options delta maxTicks =
    match b.player.runFrames r session asset options delta maxTicks with
    | .error fault => (.error fault, b, session.scopes)
    | .ok (summary, o) =>
      (.ok summary, ⟨o.player, b.next, b.next + 1, b.events ++ o.events⟩, o.scopes) := by
  rw [runFrames, start_eq, Player.runFrames]
  cases b.player.start (τ := τ) asset options with
  | error fault => rfl
  | ok begun =>
    obtain ⟨started, told⟩ := begun
    obtain ⟨n, hcounts, hdrive⟩ := Player.exists_drive_eq r session.bridge delta maxTicks 0 started
      session.scopes []
    obtain ⟨m, hcounts', hdrive'⟩ := Player.exists_drive_eq r session.bridge delta maxTicks 0
      started session.scopes told.reverse
    obtain rfl := hcounts.unique hcounts'
    simp only [bind, Except.bind, hdrive, hdrive', Outcome.after, List.reverse_nil, List.nil_append,
      List.reverse_reverse, List.append_assoc]
    rfl

variable {b asset options}

theorem runFrames_of_error {fault : FlowFault} (h : (b.start asset options).1 = .error fault) :
    b.runFrames r session asset options delta maxTicks = (.error fault, b, session.scopes) := by
  rw [runFrames, start_of_error (start_refused_iff.1 h)]

omit [Clock τ] in
/-- A player that has just been started is in the run of this asset. -/
theorem exists_isIn_of_start (h : (b.start asset options).1 = .ok ()) :
    ∃ id, (b.start asset options).2.player.IsIn asset id ∧
      (b.start asset options).2.player.IsSound := by
  cases hresolve : Player.resolveStart asset options with
  | error fault =>
    rw [start_of_error hresolve] at h
    cases h
  | ok id =>
    rw [start_of_ok hresolve]
    exact ⟨id, ⟨rfl, rfl, rfl⟩, trivial⟩

theorem exists_runFrames_of_ok (h : (b.start asset options).1 = .ok ()) :
    let begun := (b.start asset options).2
    let o n := Player.frames r session.bridge delta n begun.player session.scopes
    ∃ n, Player.CountsTo r session.bridge delta maxTicks begun.player session.scopes n ∧
      b.runFrames r session asset options delta maxTicks
        = (.ok ⟨n, if (o n).player.isPlaying then none else (o n).player.report?⟩,
          { begun with player := (o n).player, events := begun.events ++ (o n).events },
          (o n).scopes) := by
  intro begun o
  obtain ⟨n, hcounts, hdrive⟩ := Player.exists_drive_eq r session.bridge delta maxTicks 0
    begun.player session.scopes []
  have hbegun : b.start asset options = (.ok (), begun) := Prod.ext h rfl
  refine ⟨n, hcounts, ?_⟩
  rw [runFrames, hbegun]
  simp only [hdrive, Nat.zero_add, List.reverse_nil]
  rfl

variable (b asset options)

/-- **A run without a screen ends with the run that it has started, and tells of no other.** Where
the start is refused it answers why, and nothing has happened to the player. Otherwise it counts the
updates up to the first one behind which observers have heard that the run is over, or up to the
bound if there is none, and leaves the player as the start and that many updates do. There is a
report exactly if the run is over within the bound, and it is the one that observers have heard
since the start, of the flow that was started; without a report the player is still playing the
asset. -/
theorem runs_tell_of_themselves :
    let run := b.runFrames r session asset options delta maxTicks
    let begun := (b.start asset options).2
    let o n := Player.frames r session.bridge delta n begun.player session.scopes
    (run = match b.player.runFrames r session asset options delta maxTicks with
      | .error fault => (.error fault, b, session.scopes)
      | .ok (summary, o) =>
        (.ok summary, ⟨o.player, b.next, b.next + 1, b.events ++ o.events⟩, o.scopes)) ∧
    (∀ fault, (b.start asset options).1 = .error fault →
      run = (.error fault, b, session.scopes)) ∧
    ((b.start asset options).1 = .ok () → ∃ ticks report?,
      run = (.ok ⟨ticks, report?⟩,
        { begun with player := (o ticks).player, events := begun.events ++ (o ticks).events },
        (o ticks).scopes) ∧
      ticks ≤ maxTicks ∧ (∀ n < ticks, ¬TellsEnd (o n).events) ∧
      (ticks < maxTicks → TellsEnd (o ticks).events) ∧
      (report?.isSome ↔ ∃ n ≤ maxTicks, TellsEnd (o n).events) ∧
      (∀ report, report? = some report → report.flow = asset.name ∧
        news (o ticks).events = [.finished report] ∧
        (o ticks).player.report? = some report ∧ (o ticks).player.isPlaying = false) ∧
      (report? = none → ticks = maxTicks ∧ (o ticks).player.isPlaying = true ∧
        (o ticks).player.asset? = some asset)) := by
  intro run begun o
  refine ⟨b.runFrames_eq r session asset options delta maxTicks,
    fun fault h => runFrames_of_error r session delta maxTicks h, fun h => ?_⟩
  obtain ⟨id, hin, hsound⟩ := exists_isIn_of_start h
  have hruns (n : Nat) : RunsOn asset id (o n).events (o n).player := hin.runsOn_frames hsound n
  obtain ⟨ticks, hcounts, hrun⟩ := exists_runFrames_of_ok r session delta maxTicks h
  have hbefore : ∀ n < ticks, ¬TellsEnd (o n).events := fun n hn =>
    (hruns n).isPlaying_iff.1 (hcounts.plays n hn)
  rcases (hruns ticks).cases with ⟨htells, hplays, hasset⟩ |
    ⟨htells, hplays, report, hnews, hflow, hreport⟩
  · have hbound : ticks = maxTicks := by
      refine Nat.le_antisymm hcounts.le (Nat.not_lt.1 fun hlt => ?_)
      exact absurd (hplays.symm.trans (hcounts.stops hlt)) (by decide)
    refine ⟨ticks, none, ?_, hcounts.le, hbefore, fun hlt => absurd hbound (Nat.ne_of_lt hlt), ?_,
      (fun report h => nomatch h), fun _ => ⟨hbound, hplays, hasset⟩⟩
    · rw [if_pos hplays] at hrun
      exact hrun
    · refine iff_of_false Bool.false_ne_true ?_
      rintro ⟨n, hn, hended⟩
      rcases Nat.lt_or_eq_of_le (hbound ▸ hn) with hlt | rfl
      · exact hbefore n hlt hended
      · exact htells hended
  · refine ⟨ticks, some report, ?_, hcounts.le, hbefore, fun _ => htells,
      iff_of_true rfl ⟨ticks, hcounts.le, htells⟩, fun other hother => ?_, fun h => nomatch h⟩
    · rw [if_neg (by rw [hplays]; exact Bool.false_ne_true), hreport] at hrun
      exact hrun
    · obtain rfl : report = other := Option.some.inj hother
      exact ⟨hflow, hnews, hreport, hplays⟩

end Bench

namespace Player

/-- A flow that is refused as soon as it is updated. -/
def ambush : Asset where
  name := "ambush"
  actions := [{ id := "trap", type := "refuse" }]
  index := [("trap", 0)]
  start? := some "trap"
  bindings := .empty
  consistent := Asset.isIndexOf_indexOf rfl

/-- A bench with the player that watches, in the middle of its flow. -/
def watch : Bench (Rehearsal Float32) Float32 := ⟨watched, 1, 2, []⟩

theorem tellsEnd_of_ambush : TellsEnd (frames company Session.new.bridge 1 1
    (watch.start ambush {}).2.player []).events := by
  have hresolve : resolveStart ambush {} = .ok "trap" := rfl
  rw [Bench.start_of_ok hresolve]
  let p := (watch.player.stop (τ := Float32)).1.poise ambush {} "trap"
  have hbegin : p.begin company Session.new.bridge [] ambush "trap"
      = (p.abort [] (.unmade "trap" (.other "refused trap"))).after [.attempted "trap"] :=
    begin_of_unmade company Session.new.bridge p [] rfl rfl
  refine ⟨p.closing true, ?_⟩
  change _ ∈ news ((p.update company ⟨[], Session.new.bridge⟩ 1).events ++ [])
  have hphase : p.phase = .poised ambush "trap" none := rfl
  simp only [update, hphase, hbegin]
  rw [run_of_rest _ _ _ _ _ rfl]
  simp [Outcome.after, abort_eq, Event.news?]

theorem runs_tell_of_themselves_in_ambush :
    watch.runFrames company .new ambush { start? := some "door" } 1 5
      = (.error (.unknownAction "door"), watch, []) ∧
    ∃ report, (watch.runFrames company .new ambush {} 1 1).1 = .ok ⟨1, some report⟩ ∧
      report.flow = "ambush" := by
  obtain ⟨-, hrefused, -⟩ :=
    Bench.runs_tell_of_themselves watch company .new ambush { start? := some "door" } 1 5
  obtain ⟨-, -, hstarted⟩ := Bench.runs_tell_of_themselves watch company .new ambush {} 1 1
  refine ⟨hrefused _ (Bench.start_refused_iff.2 rfl), ?_⟩
  obtain ⟨ticks, report?, hrun, hle, hbefore, hover, hsome, hreport, -⟩ := hstarted rfl
  have hcount : ticks = 1 := by
    refine Nat.le_antisymm hle (Nat.pos_of_ne_zero fun hzero => ?_)
    subst hzero
    obtain ⟨report, hnews⟩ := hover Nat.zero_lt_one
    exact List.not_mem_nil hnews
  obtain ⟨report, rfl⟩ :=
    Option.isSome_iff_exists.1 (hsome.2 ⟨1, Nat.le_refl 1, tellsEnd_of_ambush⟩)
  exact ⟨report, by rw [hrun, hcount], (hreport report rfl).1⟩

end Player

end ActionGraph
