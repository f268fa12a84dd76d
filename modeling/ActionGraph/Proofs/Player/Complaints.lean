import ActionGraph.Proofs.Player.News

/-!
# What a player writes into the log of its session

A player writes entries of its own into the log: an error where a run fails, and a warning where it
goes on. Errors and failed runs are counted side by side. Every part of a course adds as many of one
as of the other, and an update ends one run at most, so that it writes one error if the run fails in
it and none if not.

An instance that fails and may try again makes the player write a warning. Its turn is the last one
of the update, and no turn before it has had anything to complain of.
-/

namespace ActionGraph

variable {ι τ : Type}

def Event.ownEntry? : Event τ → Option (LogLevel × String)
  | .said complaint => some (complaint.level, complaint.text)
  | _ => none

/-- What the player itself writes into the log, without what the actions write. -/
def ownEntries (events : List (Event τ)) : List (LogLevel × String) :=
  events.filterMap Event.ownEntry?

@[simp] theorem ownEntries_nil : ownEntries ([] : List (Event τ)) = [] := rfl

@[simp] theorem ownEntries_append (events more : List (Event τ)) :
    ownEntries (events ++ more) = ownEntries events ++ ownEntries more := List.filterMap_append

@[simp] theorem ownEntries_cons (e : Event τ) (events : List (Event τ)) :
    ownEntries (e :: events) = e.ownEntry?.toList ++ ownEntries events := pick_cons ..

@[simp] theorem ownEntries_noted (notes : List (Note τ)) :
    ownEntries (notes.map Event.noted) = [] := by
  refine List.filterMap_eq_nil_iff.2 fun e he => ?_
  obtain ⟨note, -, rfl⟩ := List.mem_map.1 he
  rfl

@[simp] theorem ownEntries_farewell (p : Player ι) (withError : Bool) :
    ownEntries (p.farewell withError : List (Event τ)) = [] := rfl

@[simp] theorem ownEntries_greeting (asset : Asset) (id : ActionId) :
    ownEntries (Player.greeting asset id : List (Event τ)) = [] := rfl

@[simp] theorem ownEntries_deltaNotices [Clock τ] (delta : τ) :
    ownEntries (Player.deltaNotices delta) = [] := by
  rw [Player.deltaNotices]
  split <;> rfl

@[simp] theorem ownEntries_embark (r : Repertoire ι τ) (bridge : Bridge) (p : Player ι)
    (scopes : Scopes) (asset : Asset) (d : Descriptor) (made : ι) :
    ownEntries (Player.embark r bridge p scopes asset d made).events = [] := by
  simp [Player.embark, Event.ownEntry?]

theorem Complaint.level_of_isRefusal {complaint : Complaint} (h : complaint.IsRefusal) :
    complaint.level = .error := by
  cases complaint with
  | unknown | unmade => rfl
  | vanished | troubled | failed | exhausted => exact False.elim h

/-! ### Errors and failed runs -/

/-- How many errors the player writes. -/
def errors (events : List (Event τ)) : Nat := (ownEntries events).countP (·.1 == .error)

def News.isFailure : News → Bool
  | .started _ => false
  | .finished report => report.withError

/-- How many runs are over with an error. -/
def failures (events : List (Event τ)) : Nat := (news events).countP News.isFailure

theorem finished_mem_news_iff {events : List (Event τ)} {report : RunReport} :
    .finished report ∈ news events ↔ .runFinished report ∈ events := by
  rw [news, List.mem_filterMap]
  constructor
  · rintro ⟨e, he, hreport⟩
    cases e with
    | runFinished other =>
      obtain rfl : other = report := by simpa [Event.news?] using hreport
      exact he
    | _ => simp [Event.news?] at hreport
  · exact fun he => ⟨_, he, rfl⟩

theorem failures_of_news {events : List (Event τ)} {report : RunReport}
    (hnews : news events = [.finished report]) : failures events = report.withError.toNat := by
  rw [failures, hnews]
  cases hfails : report.withError <;> simp [News.isFailure, hfails]

/-- There are as many errors as there are runs that are over with one. -/
def IsBalanced (events : List (Event τ)) : Prop := errors events = failures events

theorem isBalanced_of_eq_nil {events : List (Event τ)} (hentries : ownEntries events = [])
    (hnews : news events = []) : IsBalanced events := by
  rw [IsBalanced, errors, failures, hentries, hnews]
  rfl

theorem IsBalanced.append {events more : List (Event τ)} (h : IsBalanced events)
    (hmore : IsBalanced more) : IsBalanced (events ++ more) := by
  simp only [IsBalanced, errors, failures, ownEntries_append, news_append, List.countP_append] at *
  rw [h, hmore]

theorem isBalanced_farewell (p : Player ι) :
    IsBalanced (p.farewell false : List (Event τ)) := rfl

/-- An error is written, and the run is over with one. -/
theorem isBalanced_said_farewell {complaint : Complaint} (hlevel : complaint.level = .error)
    (p : Player ι) : IsBalanced (.said complaint :: p.farewell true : List (Event τ)) := by
  simp [IsBalanced, errors, failures, Event.ownEntry?, Event.news?, News.isFailure, hlevel,
    Player.closing]

section

variable [Clock τ]

theorem Turn.ownEntries_events (t : Turn ι τ) : ownEntries t.events
    = ownEntries (Player.complaints t.descriptor.id t.decision : List (Event τ)) := by
  simp [events, Event.ownEntry?]

/-- What is written of an instance that stays: a warning, if it has failed. -/
theorem Turn.ownEntries_of_stay {t : Turn ι τ} {complaint? : Option String}
    (hdecision : t.decision = .stay complaint?) : ownEntries t.events = complaint?.toList.map
      fun message => (.warn, (Complaint.troubled t.descriptor.id message).text) := by
  rw [t.ownEntries_events, hdecision]
  cases complaint? <;> rfl

theorem Turn.ownEntries_departure {t : Turn ι τ} {next : ActionId} {yields : Bool}
    (hdecision : t.decision = .go next yields) : ownEntries (t.departure next yields) = [] := by
  simp [departure, t.ownEntries_events, hdecision, Player.complaints, Event.ownEntry?]

theorem Turn.isBalanced_stay (t : Turn ι τ) {complaint? : Option String}
    (hdecision : t.decision = .stay complaint?) : IsBalanced t.events := by
  rw [IsBalanced, errors, failures, ownEntries_of_stay hdecision, t.news_events]
  cases complaint? <;> rfl

theorem Turn.isBalanced_departure {t : Turn ι τ} {next : ActionId} {yields : Bool}
    (hdecision : t.decision = .go next yields) : IsBalanced (t.departure next yields) :=
  isBalanced_of_eq_nil (ownEntries_departure hdecision) (t.news_departure next yields)

theorem Turn.isBalanced_close {t : Turn ι τ} {withError : Bool}
    (hdecision : t.decision.closes? = some withError) (p : Player ι) :
    IsBalanced (t.events ++ p.farewell withError) := by
  cases hcloses : t.decision with
  | stay | go => simp [hcloses, Decision.closes?] at hdecision
  | finish =>
    obtain rfl : false = withError := by simpa [hcloses, Decision.closes?] using hdecision
    have hquiet : ownEntries t.events = [] := by
      simp [t.ownEntries_events, hcloses, Player.complaints]
    exact (isBalanced_of_eq_nil hquiet t.news_events).append (isBalanced_farewell p)
  | fail message =>
    obtain rfl : true = withError := by simpa [hcloses, Decision.closes?] using hdecision
    have hentry : ownEntries t.events
        = [(.error, (Complaint.failed t.descriptor.id message).text)] := by
      simp [t.ownEntries_events, hcloses, Player.complaints, Event.ownEntry?, Complaint.level]
    simp [IsBalanced, errors, failures, hentry, News.isFailure, Player.closing]

theorem isBalanced_begin {r : Repertoire ι τ} {bridge : Bridge} {more : Nat} {remaining : τ}
    {p : Player ι} {scopes : Scopes} {asset : Asset} {next : ActionId} {o : Outcome ι τ}
    (hcourse : Course r bridge more remaining (p.begin r bridge scopes asset next).player
      (p.begin r bridge scopes asset next).scopes o) (hrest : IsBalanced o.events) :
    IsBalanced (o.after (p.begin r bridge scopes asset next).events).events := by
  rcases hcourse.cases_of_begin with ⟨complaint, hrefusal, hrefused⟩ | ⟨d, made, -, -, hbegin⟩
  · rw [hrefused]
    have hattempted : IsBalanced [(.attempted next : Event τ)] := rfl
    exact hattempted.append (isBalanced_said_farewell (Complaint.level_of_isRefusal hrefusal) p)
  · have hnews : news (Player.embark r bridge p scopes asset d made).events = [] := by
      simp [Player.embark, Event.news?]
    rw [hbegin]
    exact (isBalanced_of_eq_nil (ownEntries_embark ..) hnews).append hrest

theorem Course.isBalanced {r : Repertoire ι τ} {bridge : Bridge} {more : Nat} {remaining : τ}
    {p : Player ι} {scopes : Scopes} {o : Outcome ι τ}
    (h : Course r bridge more remaining p scopes o) : IsBalanced o.events := by
  induction h with
  | rest => rfl
  | stay t hdecision => exact t.isBalanced_stay hdecision
  | close t hdecision => exact Turn.isBalanced_close hdecision _
  | yield t hdecision => exact Turn.isBalanced_departure hdecision
  | exhaust t hdecision => exact (Turn.isBalanced_departure hdecision).append rfl
  | go t hdecision hrest ih =>
    rw [Outcome.after, List.append_assoc]
    exact (Turn.isBalanced_departure hdecision).append (isBalanced_begin hrest ih)

/-! ### Instances that stay -/

omit [Clock τ] in
theorem UpdateContext.decision_eq_stay_iff {c : UpdateContext τ} {complaint? : Option String} :
    c.decision = .stay complaint? ↔ c.finished = false ∧ c.error? = complaint? := by
  rw [decision]
  cases hfinished : c.finished with
  | false => simp
  | true => cases c.error? <;> cases c.next? <;> simp

theorem Turn.decided_mem_events {t : Turn ι τ} {id : ActionId} {decision : Decision}
    (hmem : .decided id decision ∈ t.events) : id = t.descriptor.id ∧ decision = t.decision := by
  have hquiet :
      .decided id decision ∉ (Player.complaints t.descriptor.id t.decision : List (Event τ)) :=
    fun h => nomatch Player.isQuiet_complaints _ _ _ h
  simpa [events, hquiet] using hmem

theorem Turn.decided_mem_departure {t : Turn ι τ} {id next : ActionId} {yields : Bool}
    {decision : Decision} (hmem : .decided id decision ∈ t.departure next yields) :
    decision = t.decision := by
  rw [departure, List.mem_append] at hmem
  rcases hmem with hmem | hmem
  · exact (decided_mem_events hmem).2
  · simp at hmem

/-- Where an instance decides in what follows a begin, something was made there. -/
theorem Course.decided_mem_of_begin {r : Repertoire ι τ} {bridge : Bridge} {more : Nat}
    {remaining : τ} {p : Player ι} {scopes : Scopes} {asset : Asset} {next : ActionId}
    {o : Outcome ι τ}
    (h : Course r bridge more remaining (p.begin r bridge scopes asset next).player
      (p.begin r bridge scopes asset next).scopes o) {id : ActionId} {decision : Decision}
    (hmem : .decided id decision ∈ (o.after (p.begin r bridge scopes asset next).events).events) :
    .decided id decision ∈ o.events ∧
      ownEntries (p.begin r bridge scopes asset next).events = [] := by
  rcases h.cases_of_begin with ⟨complaint, -, hrefused⟩ | ⟨d, made, -, -, hbegin⟩
  · rw [hrefused] at hmem
    simp [Player.farewell] at hmem
  · rw [hbegin] at hmem ⊢
    refine ⟨?_, ownEntries_embark ..⟩
    simpa [Outcome.after, Player.embark] using hmem

/-- The turn of an instance that stays is the last one, and nothing is written before it. -/
theorem Course.exists_turn_of_stay {r : Repertoire ι τ} {bridge : Bridge} {more : Nat}
    {remaining : τ} {p : Player ι} {scopes : Scopes} {o : Outcome ι τ}
    (h : Course r bridge more remaining p scopes o) {id : ActionId} {complaint? : Option String}
    (hmem : .decided id (.stay complaint?) ∈ o.events) :
    ∃ before t, ComesTo r bridge remaining p scopes before t ∧ ownEntries before = [] ∧
      t.descriptor.id = id ∧ t.decision = .stay complaint? ∧ o.events = before ++ t.events ∧
      o.player = t.seated := by
  induction h with
  | rest => simp at hmem
  | stay t hdecision =>
    obtain ⟨rfl, hstay⟩ := Turn.decided_mem_events hmem
    exact ⟨[], t, .now t, rfl, rfl, hstay.symm, rfl, rfl⟩
  | @close more t withError hdecision =>
    have hquiet : .decided id (.stay complaint?) ∉ (t.seated.farewell withError : List (Event τ)) :=
      fun h => nomatch Player.isQuiet_farewell _ _ _ h
    rcases List.mem_append.1 hmem with hmem | hmem
    · obtain ⟨-, hstay⟩ := Turn.decided_mem_events hmem
      simp [← hstay, Decision.closes?] at hdecision
    · exact absurd hmem hquiet
  | yield t hdecision =>
    have hstay := Turn.decided_mem_departure hmem
    simp [← hstay] at hdecision
  | exhaust t hdecision =>
    have hstay := Turn.decided_mem_departure (by simpa using hmem)
    simp [← hstay] at hdecision
  | @go more t next o hdecision hrest ih =>
    rw [Outcome.after, List.append_assoc] at hmem
    rcases List.mem_append.1 hmem with hmem | hmem
    · have hstay := Turn.decided_mem_departure hmem
      simp [← hstay] at hdecision
    · obtain ⟨hlater, hquiet⟩ := hrest.decided_mem_of_begin hmem
      obtain ⟨before, last, hcomes, hnone, hid, hstay, hevents, hplayer⟩ := ih hlater
      refine ⟨_, last, .later t hdecision hcomes, ?_, hid, hstay, ?_, hplayer⟩
      · rw [ownEntries_append, ownEntries_append, Turn.ownEntries_departure hdecision, hnone,
          Turn.arrival, hquiet]
        rfl
      · simp [Outcome.after, hevents]

/-! ### The entries of a call -/

namespace Player

variable {p : Player ι}

theorem isBalanced_advance (hsound : p.IsSound) (f : Frame ι τ) :
    IsBalanced (p.advance f).events := by
  have hnotices : IsBalanced (deltaNotices f.delta) :=
    isBalanced_of_eq_nil (ownEntries_deltaNotices _) (news_deltaNotices _)
  rcases hsound.cases with hphase | ⟨asset, next, last?, hphase⟩ | ⟨asset, d, live, hphase, -⟩
  · rw [advance_of_idle hphase]
    rfl
  · obtain ⟨o, hcourse, heq⟩ := advance_of_poised hphase f
    rw [heq, Outcome.after, List.append_assoc]
    exact hnotices.append (isBalanced_begin hcourse hcourse.isBalanced)
  · obtain ⟨o, hcourse, heq⟩ := advance_of_active hsound hphase f
    rw [heq]
    exact hnotices.append hcourse.isBalanced

omit [Clock τ] in
theorem ownEntries_stop (hsound : p.IsSound) : ownEntries (p.stop (τ := τ)).2 = [] := by
  rcases hsound.cases with hphase | ⟨asset, next, last?, hphase⟩ | ⟨asset, d, live, hphase, -⟩
  · rw [stop_of_idle hphase]
    rfl
  · rw [stop_of_poised hphase]
    rfl
  · rw [stop_of_active hphase]
    rfl

theorem ownEntries_start (hsound : p.IsSound) (asset : Asset) (options : StartOptions) :
    ownEntries (p.call (.start asset options : Call ι τ)).2 = [] := by
  cases hstart : resolveStart asset options with
  | error e => rw [call_start_of_error hstart, ownEntries_nil]
  | ok id =>
    rw [call_start_of_ok hstart, ownEntries_append, ownEntries_stop hsound, ownEntries_greeting,
      List.append_nil]

/-- Whether the run ends in this update, and with an error. -/
def FailsIn (p : Player ι) (f : Frame ι τ) : Prop :=
  p.isPlaying = true ∧ (p.advance f).player.isPlaying = false ∧
    ∃ report, .runFinished report ∈ (p.advance f).events ∧
      (p.advance f).player.report? = some report ∧ report.withError = true

theorem errors_of_news (hsound : p.IsSound) {f : Frame ι τ} {report : RunReport}
    (hnews : news (p.advance f).events = [.finished report]) :
    errors (p.advance f).events = report.withError.toNat :=
  (isBalanced_advance hsound f).trans (failures_of_news hnews)

/-- **One error is written in an update in which the run fails, and none in any other.** -/
theorem errors_advance (hsound : p.IsSound) (f : Frame ι τ) :
    (p.FailsIn f → errors (p.advance f).events = 1) ∧
      (¬p.FailsIn f → errors (p.advance f).events = 0) := by
  rcases tells_advance hsound f with ⟨hnone, -⟩ | ⟨report, hnews, hflow, hidle, hreport⟩
  · have herrors : errors (p.advance f).events = 0 := by
      rw [isBalanced_advance hsound f, failures, hnone]
      rfl
    refine ⟨?_, fun _ => herrors⟩
    rintro ⟨-, -, report, hheard, -⟩
    have hmem := finished_mem_news_iff.2 hheard
    simp [hnone] at hmem
  · have hover : (p.advance f).player.isPlaying = false := isPlaying_of_idle hidle
    have hplays : p.isPlaying = true := by simp [isPlaying_eq hsound, hflow]
    have hheard : .runFinished report ∈ (p.advance f).events :=
      finished_mem_news_iff.1 (hnews ▸ List.mem_singleton_self _)
    have hfails : p.FailsIn f ↔ report.withError = true := by
      constructor
      · rintro ⟨-, -, other, -, hother, hfailed⟩
        obtain rfl : report = other := Option.some.inj (hreport.symm.trans hother)
        exact hfailed
      · intro hfailed
        exact ⟨hplays, hover, report, hheard, hreport, hfailed⟩
    rw [hfails, errors_of_news hsound hnews]
    cases report.withError <;> simp

/-- The end of a run is reported with an error where one is written in the same call. -/
theorem withError_iff (hsound : p.IsSound) (c : Call ι τ) {report : RunReport}
    (hheard : .runFinished report ∈ (p.call c).2) :
    report.withError = true ↔ ∃ f, c = .update f ∧ errors (p.advance f).events = 1 := by
  have hmem := finished_mem_news_iff.2 hheard
  have hstopped (hmem : .finished report ∈ p.stopNews) : report.withError = false := by
    obtain ⟨-, rfl⟩ : p.isPlaying = true ∧ report = p.closing false := by
      simpa [stopNews] using hmem
    rfl
  cases c with
  | start asset options =>
    have hfine : report.withError = false := by
      cases hstart : resolveStart asset options with
      | error e => simp [call_start_of_error hstart] at hmem
      | ok id =>
        rw [call_start_of_ok hstart, news_append, news_stop hsound, news_greeting] at hmem
        exact hstopped (by simpa using hmem)
    simp [hfine]
  | stop =>
    rw [call, news_stop hsound] at hmem
    simp [hstopped hmem]
  | update f =>
    rcases tells_advance hsound f with ⟨hnone, -⟩ | ⟨other, hnews, -⟩
    · simp [call, hnone] at hmem
    · obtain rfl : report = other := by simpa [call, hnews] using hmem
      have hone := errors_of_news hsound hnews
      constructor
      · intro hfails
        exact ⟨f, rfl, by rw [hone, hfails]; rfl⟩
      · rintro ⟨f', hf, herrors⟩
        obtain rfl := Call.update.inj hf
        rw [hone] at herrors
        exact Bool.toNat_eq_one.1 herrors

/-- What comes of an update that ends with the failure of an instance that may try again: a warning
is written, and the instance stays in the player, as it has come out of the update. -/
def WarnsIn (p : Player ι) (f : Frame ι τ) (id : ActionId) (message : String) : Prop :=
  ownEntries (p.advance f).events = [(.warn, (Complaint.troubled id message).text)] ∧
    ∃ before t, p.ComesTo f before t ∧ (p.advance f).events = before ++ t.events ∧
      t.descriptor.id = id ∧ t.played.result.2.finished = false ∧
      t.played.result.2.error? = some message ∧
      (p.advance f).player.phase = .active t.asset id t.heir

theorem warnsIn_of_decided (hsound : p.IsSound) {f : Frame ι τ} {id : ActionId} {message : String}
    (hmem : .decided id (.stay (some message)) ∈ (p.advance f).events) :
    p.WarnsIn f id message := by
  have hnotices : .decided id (.stay (some message)) ∉ deltaNotices f.delta :=
    notMem_deltaNotices (by simp) f.delta
  obtain ⟨before, t, hcomes, hnone, hid, hstay, hevents, hplayer⟩ : ∃ before t,
      p.ComesTo f before t ∧ ownEntries before = [] ∧ t.descriptor.id = id ∧
      t.decision = .stay (some message) ∧ (p.advance f).events = before ++ t.events ∧
      (p.advance f).player = t.seated := by
    rcases hsound.cases with hphase | ⟨asset, next, last?, hphase⟩ | ⟨asset, d, live, hphase, -⟩
    · simp [advance_of_idle hphase] at hmem
    · obtain ⟨o, hcourse, heq⟩ := advance_of_poised hphase f
      rw [heq, Outcome.after, List.append_assoc, List.mem_append] at hmem
      obtain ⟨hlater, hquiet⟩ := hcourse.decided_mem_of_begin (hmem.resolve_left hnotices)
      obtain ⟨before, t, hcomes, hnone, hid, hstay, hevents, hplayer⟩ :=
        hcourse.exists_turn_of_stay hlater
      refine ⟨deltaNotices f.delta ++ (p.embarked asset next f).events ++ before, t, ?_, ?_, hid,
        hstay, ?_, ?_⟩
      · rw [ComesTo, hphase]
        exact ⟨before, rfl, hcomes⟩
      · rw [ownEntries_append, ownEntries_append, ownEntries_deltaNotices, hnone, embarked, hquiet]
        rfl
      · simp [heq, Outcome.after, hevents]
      · rw [heq, Outcome.after, hplayer]
    · obtain ⟨o, hcourse, heq⟩ := advance_of_active hsound hphase f
      rw [heq, Outcome.after, List.mem_append] at hmem
      obtain ⟨before, t, hcomes, hnone, hid, hstay, hevents, hplayer⟩ :=
        hcourse.exists_turn_of_stay (hmem.resolve_left hnotices)
      refine ⟨deltaNotices f.delta ++ before, t, ?_, ?_, hid, hstay, ?_, ?_⟩
      · rw [ComesTo, hphase]
        exact ⟨before, rfl, hcomes⟩
      · rw [ownEntries_append, ownEntries_deltaNotices, hnone]
        rfl
      · simp [heq, Outcome.after, hevents]
      · rw [heq, Outcome.after, hplayer]
  subst hid
  obtain ⟨hfinished, herror⟩ := UpdateContext.decision_eq_stay_iff.1 hstay
  refine ⟨?_, before, t, hcomes, hevents, rfl, hfinished, herror, ?_⟩
  · rw [hevents, ownEntries_append, hnone, Turn.ownEntries_of_stay hstay]
    rfl
  · rw [hplayer]
    rfl

/-- **A failure is never kept quiet, and an error never a false alarm.** Whatever was called before,
an update writes one error if the run fails in it, and none if not. The end of a run is reported
with an error only by such an update; a stop and a start write nothing at all. An instance that
fails in an update and may try again is warned of once, and stays. -/
theorem failures_are_told (config : PlayerConfig) (seed : UInt64) (calls : List (Call ι τ)) :
    let p : Player ι := (new config seed).after calls
    (∀ f : Frame ι τ, (p.FailsIn f → errors (p.advance f).events = 1) ∧
      (¬p.FailsIn f → errors (p.advance f).events = 0)) ∧
    (∀ (c : Call ι τ) report, .runFinished report ∈ (p.call c).2 →
      (report.withError = true ↔ ∃ f, c = .update f ∧ errors (p.advance f).events = 1)) ∧
    (∀ c : Call ι τ, (∃ f, c = .update f) ∨ ownEntries (p.call c).2 = []) ∧
    ∀ (f : Frame ι τ) id message,
      .decided id (.stay (some message)) ∈ (p.advance f).events → p.WarnsIn f id message := by
  intro p
  have hsound : p.IsSound := isSound_after (isSound_new config seed) calls
  refine ⟨errors_advance hsound, fun c report => withError_iff hsound c, fun c => ?_,
    fun f id message => warnsIn_of_decided hsound⟩
  cases c with
  | update f => exact .inl ⟨f, rfl⟩
  | stop => exact .inr (ownEntries_stop hsound)
  | start asset options => exact .inr (ownEntries_start hsound asset options)

end Player

end

end ActionGraph
