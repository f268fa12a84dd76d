import ActionGraph.Proofs.Player.News

/-!
# Where a run is said to have ended

A run comes from action to action, and a report of its end names the one that it has come to: the
action whose instance was made last in this run, or the action that the run set out for, if there
was no instance at all. `cameTo` reads this off the events of the run.

A player keeps the id in another place in each phase. It is that of the live instance, of the one
before where an action is due, or of the action that is due where there was none before. That it is
always the id which `cameTo` finds is kept by every turn, and by every instance that is made; an
action that is refused changes nothing about it.
-/

namespace ActionGraph

variable {ι τ : Type}

def Event.made? : Event τ → Option ActionId
  | .made d _ => some d.id
  | _ => none

/-- The action whose instance was made last. -/
def lastMade? (events : List (Event τ)) : Option ActionId :=
  (events.filterMap Event.made?).getLast?

/-- Where a run has come to behind these events, if it was at `first` before. -/
def cameTo (first : ActionId) (events : List (Event τ)) : ActionId := (lastMade? events).getD first

@[simp] theorem cameTo_append (first : ActionId) (events more : List (Event τ)) :
    cameTo first (events ++ more) = cameTo (cameTo first events) more := by
  simp only [cameTo, lastMade?, List.filterMap_append, List.getLast?_append]
  cases (more.filterMap Event.made?).getLast? <;> rfl

theorem cameTo_of_forall (first : ActionId) {events : List (Event τ)}
    (h : ∀ e ∈ events, e.made? = none) : cameTo first events = first := by
  rw [cameTo, lastMade?, List.filterMap_eq_nil_iff.2 h]
  rfl

@[simp] theorem cameTo_of_isQuiet (first : ActionId) {events : List (Event τ)}
    (h : IsQuiet events) : cameTo first events = first := by
  refine cameTo_of_forall first fun e he => ?_
  have htelling := h e he
  cases e with
  | made => simp [Event.isTelling] at htelling
  | attempted | started | updated | decided | cancelled => rfl
  | runStarted | runFinished | said | noted | notice => rfl

theorem cameTo_embark (first : ActionId) (r : Repertoire ι τ) (bridge : Bridge) (p : Player ι)
    (scopes : Scopes) (asset : Asset) (d : Descriptor) (made : ι) :
    cameTo first (Player.embark r bridge p scopes asset d made).events = d.id := by
  rw [Player.embark, cameTo_append, cameTo_of_isQuiet _ (isQuiet_noted _)]
  rfl

/-! ### A part of a run -/

/-- A player in a run of an asset that has come to `last`. -/
structure Player.IsIn (p : Player ι) (asset : Asset) (last : ActionId) : Prop where
  asset_eq : p.asset? = some asset
  last_eq : p.phase.last? = some last
  report_eq : p.report? = none

/-- What comes of a part of a run that had come to `last` before: the run goes on, or it ends and
the report says where. -/
inductive RunsOn (asset : Asset) (last : ActionId) : List (Event τ) → Player ι → Prop
  | goesOn {events : List (Event τ)} {p : Player ι} (hnews : news events = [])
      (hin : p.IsIn asset (cameTo last events)) : RunsOn asset last events p
  | ends {before : List (Event τ)} {p : Player ι} {report : RunReport} (hnews : news before = [])
      (hflow : report.flow = asset.name) (hlast : report.last? = some (cameTo last before))
      (hidle : p.phase = .idle) (hreport : p.report? = some report) :
    RunsOn asset last (before ++ [.runFinished report]) p

theorem Turn.isIn_iff {t : Turn ι τ} {asset : Asset} {last : ActionId} :
    t.player.IsIn asset last ↔
      t.asset = asset ∧ t.descriptor.id = last ∧ t.player.report? = none := by
  constructor
  · rintro ⟨hasset, hlast, hreport⟩
    simp only [Player.asset?, t.phase_eq, Phase.asset?, Phase.last?, Option.some.injEq]
      at hasset hlast
    exact ⟨hasset, hlast, hreport⟩
  · rintro ⟨rfl, rfl, hreport⟩
    exact ⟨by rw [Player.asset?, t.phase_eq, Phase.asset?], by rw [t.phase_eq, Phase.last?],
      hreport⟩

section

variable {asset : Asset} {last : ActionId} {events before : List (Event τ)} {p : Player ι}

theorem Player.IsIn.cases (h : p.IsIn asset last) :
    (∃ next last?, p.phase = .poised asset next last?) ∨
      ∃ live, p.phase = .active asset last live := by
  obtain ⟨hasset, hlast, -⟩ := h
  rw [Player.asset?] at hasset
  cases hphase : p.phase with
  | idle | finished => simp [hphase, Phase.asset?] at hasset
  | poised other next last? =>
    obtain rfl : other = asset := by simpa [hphase, Phase.asset?] using hasset
    exact .inl ⟨next, last?, rfl⟩
  | active other id live =>
    obtain rfl : other = asset := by simpa [hphase, Phase.asset?] using hasset
    obtain rfl : id = last := by simpa [hphase, Phase.last?] using hlast
    exact .inr ⟨live, rfl⟩

theorem RunsOn.prepend (h : RunsOn asset (cameTo last before) events p)
    (hnews : news before = []) : RunsOn asset last (before ++ events) p := by
  cases h with
  | goesOn hrest hin =>
    rw [← cameTo_append] at hin
    exact .goesOn (by rw [news_append, hnews, hrest, List.append_nil]) hin
  | ends hrest hflow hlast hidle hreport =>
    rw [← List.append_assoc]
    rw [← cameTo_append] at hlast
    exact .ends (by rw [news_append, hnews, hrest, List.append_nil]) hflow hlast hidle hreport

theorem Player.IsIn.runsOn_farewell (h : p.IsIn asset last) (withError : Bool) :
    RunsOn asset last (p.farewell withError : List (Event τ)) (p.ended withError) := by
  have hflow : (p.closing withError).flow = asset.name := by simp [closing, h.asset_eq]
  have hnotice : news [(.notice (finishNotice (p.closing withError)) : Event τ)] = [] := rfl
  exact .ends hnotice hflow h.last_eq rfl rfl

theorem Player.IsIn.runsOn_stop (h : p.IsIn asset last) :
    RunsOn asset last (p.stop (τ := τ)).2 (p.stop (τ := τ)).1 := by
  rcases h.cases with ⟨next, last?, hphase⟩ | ⟨live, hphase⟩
  · rw [stop_of_poised hphase]
    exact h.runsOn_farewell false
  · rw [stop_of_active hphase]
    let cancelling : List (Event τ) :=
      [.notice ⟨.debug, "cancelling live action", [("action", last)]⟩, .cancelled last]
    have hnone : news cancelling = [] := rfl
    have hended :
        RunsOn (τ := τ) asset (cameTo last cancelling) (p.farewell false) (p.ended false) :=
      h.runsOn_farewell false
    exact hended.prepend hnone

/-- What stands before the end of a run in a part of it. -/
theorem RunsOn.of_split (h : RunsOn asset last events p) {pre post : List (Event τ)}
    {report : RunReport} (hsplit : events = pre ++ .runFinished report :: post) :
    news pre = [] ∧ report.flow = asset.name ∧ report.last? = some (cameTo last pre) := by
  have hclear {clear : List (Event τ)} (hnews : news clear = []) :
      .runFinished report ∉ clear := by
    intro hmem
    exact nomatch List.filterMap_eq_nil_iff.1 hnews _ hmem
  cases h with
  | goesOn hnews => exact absurd hsplit (ne_of_notMem (hclear hnews))
  | @ends before _ report' hnews hflow hlast =>
    obtain ⟨mid, rfl, hmid⟩ := exists_split_of_notMem (hclear hnews) hsplit
    cases mid with
    | nil =>
      obtain ⟨hreport, -⟩ := List.cons.inj hmid
      obtain rfl := Event.runFinished.inj hreport
      rw [List.append_nil]
      exact ⟨hnews, hflow, hlast⟩
    | cons e mid => simp at hmid

end

/-! ### A course as a part of a run -/

section

variable [Clock τ]

theorem Turn.cameTo_events (t : Turn ι τ) (first : ActionId) : cameTo first t.events = first := by
  have hcomplaints : ∀ e ∈ (Player.complaints t.descriptor.id t.decision : List (Event τ)),
      e.made? = none := by
    rcases t.decision with (_ | message) | _ | message | next <;>
      simp [Player.complaints, Event.made?]
  refine cameTo_of_forall first fun e he => ?_
  simp only [Turn.events, List.cons_append, List.mem_cons, List.mem_append, List.mem_map] at he
  rcases he with rfl | ⟨note, -, rfl⟩ | rfl | hcomplaint
  · rfl
  · rfl
  · rfl
  · exact hcomplaints e hcomplaint

theorem Turn.cameTo_departure (t : Turn ι τ) (first next : ActionId) (yields : Bool) :
    cameTo first (t.departure next yields) = first := by
  rw [Turn.departure, cameTo_append, t.cameTo_events]
  rfl

/-- An instance that is due takes the run further, or ends it where it was. -/
theorem Player.IsIn.runsOn_begin {r : Repertoire ι τ} {bridge : Bridge} {more : Nat} {remaining : τ}
    {p : Player ι} {scopes : Scopes} {asset : Asset} {next last : ActionId} {o : Outcome ι τ}
    (h : p.IsIn asset last)
    (hcourse : Course r bridge more remaining (p.begin r bridge scopes asset next).player
      (p.begin r bridge scopes asset next).scopes o)
    (hlater : ∀ last, (p.begin r bridge scopes asset next).player.IsIn asset last →
      RunsOn asset last o.events o.player) :
    RunsOn asset last (o.after (p.begin r bridge scopes asset next).events).events o.player := by
  rcases hcourse.cases_of_begin with ⟨complaint, -, hrefused⟩ | ⟨d, made, -, -, hbegin⟩
  · have hplayer : o.player = p.ended true := congrArg Outcome.player hrefused
    have hnone : news [(.attempted next : Event τ), .said complaint] = [] := rfl
    have hended : RunsOn (τ := τ) asset (cameTo last [(.attempted next : Event τ), .said complaint])
      (p.farewell true) (p.ended true) := h.runsOn_farewell true
    rw [hrefused, hplayer]
    exact hended.prepend hnone
  · have hin : (embark r bridge p scopes asset d made).player.IsIn asset d.id :=
      ⟨rfl, rfl, h.report_eq⟩
    have hnews : news (embark r bridge p scopes asset d made).events = [] := by
      simp [embark, Event.news?]
    rw [hbegin] at hlater ⊢
    refine RunsOn.prepend ?_ hnews
    rw [cameTo_embark]
    exact hlater d.id hin

theorem Course.runsOn {r : Repertoire ι τ} {bridge : Bridge} {more : Nat} {remaining : τ}
    {p : Player ι} {scopes : Scopes} {o : Outcome ι τ}
    (h : Course r bridge more remaining p scopes o) {asset : Asset} {last : ActionId}
    (hin : p.IsIn asset last) : RunsOn asset last o.events o.player := by
  induction h generalizing last with
  | rest => exact .goesOn rfl hin
  | stay t =>
    obtain ⟨rfl, rfl, hreport⟩ := Turn.isIn_iff.1 hin
    refine .goesOn t.news_events ?_
    rw [t.cameTo_events]
    exact ⟨rfl, rfl, hreport⟩
  | close t =>
    obtain ⟨rfl, rfl, hreport⟩ := Turn.isIn_iff.1 hin
    refine RunsOn.prepend ?_ t.news_events
    rw [t.cameTo_events]
    have hseated : t.seated.IsIn t.asset t.descriptor.id := ⟨rfl, rfl, hreport⟩
    exact hseated.runsOn_farewell _
  | yield t =>
    obtain ⟨rfl, rfl, hreport⟩ := Turn.isIn_iff.1 hin
    refine .goesOn (t.news_departure _ _) ?_
    rw [t.cameTo_departure]
    exact ⟨rfl, rfl, hreport⟩
  | exhaust t =>
    obtain ⟨rfl, rfl, hreport⟩ := Turn.isIn_iff.1 hin
    refine .goesOn (by simp [Event.news?]) ?_
    rw [cameTo_append, t.cameTo_departure]
    exact ⟨rfl, rfl, hreport⟩
  | @go more t next o hdecision hrest ih =>
    obtain ⟨rfl, rfl, hreport⟩ := Turn.isIn_iff.1 hin
    have hdeparted : (t.departed next).IsIn t.asset t.descriptor.id := ⟨rfl, rfl, hreport⟩
    rw [Outcome.after, List.append_assoc]
    refine RunsOn.prepend ?_ (t.news_departure next false)
    rw [t.cameTo_departure]
    exact hdeparted.runsOn_begin hrest fun last hin => ih hin

/-! ### Calls as parts of a run -/

namespace Player

variable {p : Player ι} {asset : Asset} {last : ActionId}

theorem IsIn.runsOn_advance (h : p.IsIn asset last) (hsound : p.IsSound) (f : Frame ι τ) :
    RunsOn asset last (p.advance f).events (p.advance f).player := by
  have hnotices := isQuiet_deltaNotices f.delta
  rcases h.cases with ⟨next, last?, hphase⟩ | ⟨live, hphase⟩
  · obtain ⟨o, hcourse, heq⟩ := advance_of_poised hphase f
    rw [heq, Outcome.after, List.append_assoc]
    refine RunsOn.prepend ?_ (news_deltaNotices f.delta)
    rw [cameTo_of_isQuiet _ hnotices]
    exact h.runsOn_begin hcourse fun last hin => hcourse.runsOn hin
  · obtain ⟨o, hcourse, heq⟩ := advance_of_active hsound hphase f
    rw [heq, Outcome.after]
    refine RunsOn.prepend ?_ (news_deltaNotices f.delta)
    rw [cameTo_of_isQuiet _ hnotices]
    exact hcourse.runsOn h

end Player

/-! ### Runs among calls -/

/-- Whether what was told ends with a part of a run, which was started by one of these calls to set
out for `first`. -/
structure IsInRun (calls : List (Call ι τ)) (told : List (Nat × Event τ)) (asset : Asset)
    (first : ActionId) (run : List (Event τ)) : Prop where
  exists_start : ∃ before k since options, told = before ++ (k, .runStarted asset.name) :: since ∧
    since.map Prod.snd = run ∧ calls[k]? = some (.start asset options) ∧
    Player.resolveStart asset options = .ok first
  /-- No run has ended or started since. -/
  news_eq : news run = []

section

variable {calls : List (Call ι τ)} {told : List (Nat × Event τ)} {asset : Asset} {first : ActionId}
  {run : List (Event τ)} {p : Player ι} {n : Nat}

omit [Clock τ] in
theorem IsInRun.append (h : IsInRun calls told asset first run) {more : List (Event τ)}
    (hnews : news more = []) (n : Nat) :
    IsInRun calls (told ++ more.map (n, ·)) asset first (run ++ more) where
  exists_start := by
    obtain ⟨before, k, since, options, rfl, rfl, hcall, hfirst⟩ := h.exists_start
    have hevents : (Prod.snd ∘ fun e : Event τ => (n, e)) = id := rfl
    refine ⟨before, k, since ++ more.map (n, ·), options, by simp, ?_, hcall, hfirst⟩
    rw [List.map_append, List.map_map, hevents, List.map_id]
  news_eq := by rw [news_append, h.news_eq, hnews, List.append_nil]

omit [Clock τ] in
theorem IsInRun.of_more_calls (h : IsInRun calls told asset first run) (c : Call ι τ) :
    IsInRun (calls ++ [c]) told asset first run where
  exists_start := by
    obtain ⟨before, k, since, options, htold, hrun, hcall, hfirst⟩ := h.exists_start
    obtain ⟨hlt, -⟩ := List.getElem?_eq_some_iff.1 hcall
    refine ⟨before, k, since, options, htold, hrun, ?_, hfirst⟩
    rw [List.getElem?_append_left hlt, hcall]
  news_eq := h.news_eq

/-- What a player holds behind these calls: the run that it is in, or the report that was heard
last. -/
inductive Holds (calls : List (Call ι τ)) (told : List (Nat × Event τ)) (p : Player ι) : Prop
  | rests (hidle : p.phase = .idle) (hreport : ∀ report, p.report? = some report →
      ∃ pre n post, told = pre ++ (n, .runFinished report) :: post ∧ news (post.map Prod.snd) = [])
  | plays {asset : Asset} {first : ActionId} {run : List (Event τ)}
      (hrun : IsInRun calls told asset first run) (hin : p.IsIn asset (cameTo first run))

/-- What was told up to a player, when all reports in it are true. -/
structure IsTrueTo (calls : List (Call ι τ)) (told : List (Nat × Event τ)) (p : Player ι) :
    Prop where
  reports : ∀ pre n report post, told = pre ++ (n, .runFinished report) :: post →
    ∃ asset first run, IsInRun calls pre asset first run ∧ report.flow = asset.name ∧
      report.last? = some ((lastMade? run).getD first)
  holds : Holds calls told p

namespace IsTrueTo

omit [Clock τ] in
theorem of_more_calls (h : IsTrueTo calls told p) (c : Call ι τ) :
    IsTrueTo (calls ++ [c]) told p where
  reports pre n report post hsplit := by
    obtain ⟨asset, first, run, hrun, hreport⟩ := h.reports pre n report post hsplit
    exact ⟨asset, first, run, hrun.of_more_calls c, hreport⟩
  holds := by
    cases h.holds with
    | rests hidle hreport => exact .rests hidle hreport
    | plays hrun hin => exact .plays (hrun.of_more_calls c) hin

omit [Clock τ] in
/-- A part of the run that the player is in is told. -/
theorem runsOn (h : IsTrueTo calls told p) (hrun : IsInRun calls told asset first run)
    {events : List (Event τ)} {p' : Player ι} (hpart : RunsOn asset (cameTo first run) events p')
    (n : Nat) : IsTrueTo calls (told ++ events.map (n, ·)) p' where
  reports pre k report post hsplit := by
    rcases split_cases hsplit with ⟨mid, htold, -⟩ | ⟨mid, rfl, hmid⟩
    · exact h.reports pre k report mid htold
    · obtain ⟨before, rest, hevents, rfl, hrest⟩ := List.map_eq_append_iff.1 hmid
      obtain ⟨e, after, rfl, he, -⟩ := List.map_eq_cons_iff.1 hrest
      obtain rfl : e = .runFinished report := congrArg Prod.snd he
      obtain ⟨hnews, hflow, hlast⟩ := hpart.of_split hevents
      rw [← cameTo_append] at hlast
      exact ⟨asset, first, run ++ before, hrun.append hnews n, hflow, hlast⟩
  holds := by
    cases hpart with
    | goesOn hnews hin =>
      rw [← cameTo_append] at hin
      exact .plays (hrun.append hnews n) hin
    | @ends before _ report hnews hflow hlast hidle hreport =>
      refine .rests hidle fun report' hreport' => ?_
      obtain rfl : report = report' := Option.some.inj (hreport.symm.trans hreport')
      exact ⟨told ++ before.map (n, ·), n, [], by simp, rfl⟩

omit [Clock τ] in
/-- Another run is told to start. -/
theorem greet (h : IsTrueTo calls told p) {options : StartOptions}
    (hcall : calls[n]? = some (.start asset options))
    (hfirst : Player.resolveStart asset options = .ok first) :
    IsTrueTo calls (told ++ (Player.greeting asset first).map (n, ·))
      (p.poise asset options first) where
  reports pre k report post hsplit := by
    have hclear :
        (k, (.runFinished report : Event τ)) ∉ (Player.greeting asset first).map (n, ·) := by
      simp [Player.greeting]
    obtain ⟨mid, htold⟩ := exists_split_of_notMem_right hclear hsplit
    exact h.reports pre k report mid htold
  holds := by
    have hsplit : told ++ (Player.greeting asset first).map (n, ·)
        = (told ++ [(n, .notice ⟨.info, "flow started", [("flow", asset.name), ("start", first)]⟩)])
          ++ [(n, .runStarted asset.name)] := by simp [Player.greeting]
    rw [hsplit]
    exact .plays ⟨⟨_, n, [], options, rfl, rfl, hcall, hfirst⟩, rfl⟩ ⟨rfl, rfl, rfl⟩

omit [Clock τ] in
theorem stop (h : IsTrueTo calls told p) (n : Nat) :
    IsTrueTo calls (told ++ (p.stop (τ := τ)).2.map (n, ·)) (p.stop (τ := τ)).1 := by
  cases h.holds with
  | rests hidle =>
    rw [Player.stop_of_idle hidle, List.map_nil, List.append_nil]
    exact h
  | plays hrun hin => exact h.runsOn hrun hin.runsOn_stop n

theorem call (h : IsTrueTo calls told p) (hsound : p.IsSound) (c : Call ι τ) :
    IsTrueTo (calls ++ [c]) (told ++ (p.call c).2.map (calls.length, ·)) (p.call c).1 := by
  have hmore := h.of_more_calls c
  cases c with
  | start asset options =>
    cases hstart : Player.resolveStart asset options with
    | error e =>
      rw [Player.call_start_of_error hstart, List.map_nil, List.append_nil]
      exact hmore
    | ok id =>
      rw [Player.call_start_of_ok hstart, List.map_append, ← List.append_assoc]
      exact (hmore.stop calls.length).greet List.getElem?_concat_length hstart
  | stop => exact hmore.stop calls.length
  | update f =>
    rw [Player.call]
    cases hmore.holds with
    | rests hidle =>
      rw [Player.advance_of_idle hidle, List.map_nil, List.append_nil]
      exact hmore
    | plays hrun hin => exact hmore.runsOn hrun (hin.runsOn_advance hsound f) calls.length

end IsTrueTo

namespace Player

theorem isTrueTo_after {p : Player ι} (hsound : p.IsSound) (hidle : p.phase = .idle)
    (hreport : p.report? = none) (calls : List (Call ι τ)) :
    IsTrueTo calls (p.chronicle 0 calls) (p.after calls) := by
  induction calls using List.reverseRecOn with
  | nil =>
    refine ⟨fun pre n report post hsplit => ?_, .rests hidle fun report h => ?_⟩
    · simp [chronicle] at hsplit
    · simp [hreport] at h
  | append_singleton calls c ih =>
    rw [chronicle_append, after_append, Nat.zero_add]
    simpa only [chronicle, List.append_nil, after_cons, after_nil]
      using ih.call (isSound_after hsound calls) c

/-- **A report names the action whose instance was made last in its run, or else the action that the
run was to start with.** This is so of every report that observers hear, whichever way the run came
to its end; and the report that a player keeps is the one that was heard last. -/
theorem reports_name_last_action (config : PlayerConfig) (seed : UInt64)
    (calls : List (Call ι τ)) :
    let p : Player ι := (new config seed).after calls
    let told : List (Nat × Event τ) := (new config seed : Player ι).chronicle 0 calls
    (∀ pre n report post, told = pre ++ (n, .runFinished report) :: post →
      ∃ asset first run, IsInRun calls pre asset first run ∧ report.flow = asset.name ∧
        report.last? = some ((lastMade? run).getD first)) ∧
    ∀ report, p.report? = some report →
      ∃ pre n post, told = pre ++ (n, .runFinished report) :: post ∧
        news (post.map Prod.snd) = [] := by
  intro p told
  have htrue : IsTrueTo calls told p := isTrueTo_after (isSound_new config seed) rfl rfl calls
  refine ⟨htrue.reports, fun report hreport => ?_⟩
  cases htrue.holds with
  | rests hidle hheard => exact hheard report hreport
  | plays hrun hin =>
    rw [hin.report_eq] at hreport
    exact nomatch hreport

end Player

end

end

end ActionGraph
