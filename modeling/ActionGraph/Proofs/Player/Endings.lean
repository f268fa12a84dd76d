import ActionGraph.Proofs.Player.Grounded
import ActionGraph.Proofs.Player.Phases
import ActionGraph.Proofs.Split

/-!
# How runs end

A run of a built asset ends with an error for two reasons only. An action is refused when it is
about to be made, or the live instance is a `fail` that does not try again. In every other case a
run that ends has come to an end or has been stopped, and its report says so.
-/

namespace ActionGraph

variable {τ : Type} [Clock τ]

/-- What is told last in a run of an asset, but for the end itself, and whether the run ends with an
error. -/
inductive Ending (asset : Asset) : List (Event τ) → Bool → Prop
  | refused (before : List (Event τ)) {d : Descriptor} {e : FlowFault}
      (hd : asset.find? d.id = some d)
      (hmake : (Builtin.repertoire (τ := τ)).make d.type d = .error e) :
    Ending asset (before ++ [.attempted d.id, .said (.unmade d.id e)]) true
  | failed (before : List (Event τ)) {d : Descriptor} {remaining : τ} {message : String}
      (hd : asset.find? d.id = some d)
      (hmake : (Builtin.repertoire (τ := τ)).make d.type d = .ok (.fail message false)) :
    Ending asset (before ++ [.updated d remaining, .decided d.id (.fail message),
      .said (.failed d.id message)]) true
  | finished (before : List (Event τ)) (id : ActionId) :
    Ending asset (before ++ [.decided id .finish]) false

/-- Whether a run of an asset is over behind these events, the last ones being those of an
ending. -/
def IsEnded (asset : Asset) (pre : List (Event τ)) (report : RunReport) : Prop :=
  ∃ told, pre = told ++ [.notice (Player.finishNotice report)] ∧
    Ending asset told report.withError

section

variable {asset : Asset} {pre post clear events : List (Event τ)} {report : RunReport}

omit [Clock τ] in
/-- What stands before the end of a run. -/
theorem Player.split_farewell {ι : Type} {p : Player ι} {withError : Bool}
    (hclear : .runFinished report ∉ clear)
    (hsplit : clear ++ p.farewell withError = pre ++ .runFinished report :: post) :
    pre = clear ++ [.notice (finishNotice report)] ∧ report = p.closing withError ∧ post = [] := by
  obtain ⟨mid, rfl, hmid⟩ := exists_split_of_notMem hclear hsplit
  have hnotice :
      (.runFinished report : Event τ) ∉ [.notice (finishNotice (p.closing withError))] := by simp
  obtain ⟨last, rfl, hlast⟩ := exists_split_of_notMem hnotice hmid
  cases last with
  | nil =>
    obtain ⟨hreport, rfl⟩ := List.cons.inj hlast
    obtain rfl := Event.runFinished.inj hreport
    exact ⟨rfl, rfl, rfl⟩
  | cons first rest => simp at hlast

theorem Ending.prepend {told : List (Event τ)} {withError : Bool}
    (h : Ending asset told withError) (before : List (Event τ)) :
    Ending asset (before ++ told) withError := by
  cases h with
  | refused before' hd hmake =>
    rw [← List.append_assoc]
    exact .refused _ hd hmake
  | failed before' hd hmake =>
    rw [← List.append_assoc]
    exact .failed _ hd hmake
  | finished before' id =>
    rw [← List.append_assoc]
    exact .finished _ id

theorem IsEnded.prepend (h : IsEnded asset pre report) (before : List (Event τ)) :
    IsEnded asset (before ++ pre) report := by
  obtain ⟨told, rfl, hending⟩ := h
  exact ⟨before ++ told, (List.append_assoc ..).symm, hending.prepend before⟩

theorem Turn.runFinished_notMem_events {t : Turn (Builtin τ) τ} :
    .runFinished report ∉ t.events := by
  rcases hdecision : t.decision with (_ | message) | _ | message | next <;>
    simp [Turn.events, Player.complaints, hdecision]

theorem Turn.ending_of_closes {t : Turn (Builtin τ) τ} (h : t.player.IsGrounded)
    (hrepertoire : t.repertoire = Builtin.repertoire) {withError : Bool}
    (hdecision : t.decision.closes? = some withError) : Ending t.asset t.events withError := by
  cases hhow : t.decision with
  | stay | go => simp [hhow, Decision.closes?] at hdecision
  | finish =>
    obtain rfl : false = withError := by simpa [hhow, Decision.closes?] using hdecision
    have htold : t.events = .updated t.descriptor t.context.remaining ::
        t.played.notes.map .noted ++ [.decided t.descriptor.id .finish] := by
      simp [Turn.events, hhow, Player.complaints]
    rw [htold]
    exact .finished _ _
  | fail message =>
    obtain rfl : true = withError := by simpa [hhow, Decision.closes?] using hdecision
    have hsettle := t.settle_of_closes hrepertoire hdecision
    obtain ⟨hlive, hnotes⟩ := Builtin.eq_fail_of_settle hsettle hhow
    obtain ⟨made, hmake, hmade⟩ := t.exists_made h
    -- An instance that starts as this one is the very same, since time does not matter to it.
    obtain rfl : made = .fail message false := by
      rw [hlive] at hmade
      cases made <;> simp [Builtin.started] at hmade
      simp [hmade]
    have htold : t.events = [] ++ [.updated t.descriptor t.context.remaining,
        .decided t.descriptor.id (.fail message), .said (.failed t.descriptor.id message)] := by
      have hnone : t.played.notes = [] := hnotes
      simp [Turn.events, hhow, Player.complaints, hnone]
    rw [htold]
    exact .failed _ t.find?_eq hmake

end

/-! ### Endings in a course -/

section

variable {p : Player (Builtin τ)} {asset : Asset} {next : ActionId}

/-- A run that ends behind an action that is due has ended with its refusal, or later. -/
theorem Player.isEnded_begin (hknown : (asset.find? next).isSome) {bridge : Bridge}
    {scopes : Scopes} {more : Nat} {remaining : τ} {o : Outcome (Builtin τ) τ}
    {pre post : List (Event τ)} {report : RunReport}
    (hcourse : Course Builtin.repertoire bridge more remaining
      (p.begin Builtin.repertoire bridge scopes asset next).player
      (p.begin Builtin.repertoire bridge scopes asset next).scopes o)
    (hlater : ∀ mid,
      (p.begin Builtin.repertoire bridge scopes asset next).player.asset? = some asset →
      o.events = mid ++ .runFinished report :: post → IsEnded asset mid report)
    (hsplit : (p.begin Builtin.repertoire bridge scopes asset next).events ++ o.events
      = pre ++ .runFinished report :: post) : IsEnded asset pre report := by
  rcases begin_of_known hknown bridge p scopes with
    ⟨d, e, -, hd, hmake, hbegin⟩ | ⟨d, made, -, -, -, hbegin⟩
  · rw [hbegin] at hcourse hsplit
    rw [hcourse.eq_of_rest rfl, List.append_nil] at hsplit
    have hclear : (.runFinished report : Event τ) ∉ [.attempted d.id, .said (.unmade d.id e)] := by
      simp
    obtain ⟨rfl, rfl, -⟩ := split_farewell hclear hsplit
    exact ⟨_, rfl, .refused [] hd hmake⟩
  · rw [hbegin] at hlater hsplit
    have hclear : (.runFinished report : Event τ) ∉
        (embark Builtin.repertoire bridge p scopes asset d made).events := by simp [embark]
    obtain ⟨mid, rfl, hmid⟩ := exists_split_of_notMem hclear hsplit
    exact (hlater mid rfl hmid).prepend _

end

section

variable {r : Repertoire (Builtin τ) τ} {bridge : Bridge} {more : Nat} {remaining : τ}
  {p : Player (Builtin τ)} {scopes : Scopes} {o : Outcome (Builtin τ) τ}

/-- Where a run ends in a course, it ends in one of the ways of its asset. -/
theorem Course.isEnded (h : Course r bridge more remaining p scopes o)
    (hrepertoire : r = Builtin.repertoire) (hp : p.IsGrounded) {asset : Asset}
    (hasset : p.asset? = some asset) {pre post : List (Event τ)} {report : RunReport}
    (hsplit : o.events = pre ++ .runFinished report :: post) : IsEnded asset pre report := by
  have hturn (t : Turn (Builtin τ) τ) (h : t.player.asset? = some asset) : t.asset = asset := by
    simpa [Player.asset?, t.phase_eq, Phase.asset?] using h
  induction h generalizing pre with
  | rest => simp at hsplit
  | stay t => exact absurd hsplit (ne_of_notMem t.runFinished_notMem_events)
  | close t hdecision =>
    obtain rfl := hturn t hasset
    obtain ⟨rfl, rfl, -⟩ := Player.split_farewell t.runFinished_notMem_events hsplit
    exact ⟨t.events, rfl, t.ending_of_closes hp hrepertoire hdecision⟩
  | yield t | exhaust t =>
    refine absurd hsplit (ne_of_notMem ?_)
    simp [Turn.departure, t.runFinished_notMem_events]
  | @go more t next o hdecision hrest ih =>
    obtain rfl := hturn t hasset
    have hgrounded := t.isGrounded_arrival hp hrepertoire hdecision
    have hknown : (t.asset.find? next).isSome :=
      (t.isGrounded_departed hp hrepertoire hdecision).2
    have hclear : .runFinished report ∉ t.departure next false := by
      simp [Turn.departure, t.runFinished_notMem_events]
    -- The end stands behind the departure: with the next action, or in what follows it.
    rw [Outcome.after, List.append_assoc] at hsplit
    obtain ⟨mid, rfl, hmid⟩ := exists_split_of_notMem hclear hsplit
    have harrival := t.arrival_eq hrepertoire next
    rw [hrepertoire] at hrest ih
    rw [harrival] at hrest hmid hgrounded ih
    have hended := Player.isEnded_begin hknown hrest
      (fun _ hasset hlater => ih rfl hgrounded hasset hlater) hmid
    exact hended.prepend _

end

/-! ### Endings in a call -/

/-- Whether the last of these events is that an action of the asset is refused, for its type or for
its parameters. -/
def EndsInRefusal (asset : Asset) (told : List (Event τ)) : Prop :=
  ∃ before d e, told = before ++ [.attempted d.id, .said (.unmade d.id e)] ∧
    asset.find? d.id = some d ∧ (Builtin.repertoire (τ := τ)).make d.type d = .error e ∧
    (((Builtin.repertoire (τ := τ)).knows d.type = false ∧ e = .unregistered d.type) ∨ d.Blames e)

/-- Whether the last of these events is that a `fail` of the asset fails and does not try again. -/
def EndsInFailure (asset : Asset) (told : List (Event τ)) : Prop :=
  ∃ before d remaining message, told = before ++ [.updated d remaining,
      .decided d.id (.fail message), .said (.failed d.id message)] ∧
    asset.find? d.id = some d ∧ d.type = "fail" ∧
    (Builtin.repertoire (τ := τ)).make d.type d = .ok (.fail message false)

section

variable {asset : Asset} {told pre post : List (Event τ)} {report : RunReport} {withError : Bool}

theorem getLast?_of_endsInError (h : EndsInRefusal asset told ∨ EndsInFailure asset told) :
    ∃ complaint, told.getLast? = some (.said complaint) := by
  rcases h with ⟨before, d, e, rfl, -⟩ | ⟨before, d, remaining, message, rfl, -⟩
  · exact ⟨_, by simp; rfl⟩
  · exact ⟨_, by simp; rfl⟩

theorem Ending.withError_iff (h : Ending asset told withError) :
    withError = true ↔ EndsInRefusal asset told ∨ EndsInFailure asset told := by
  cases h with
  | refused before hd hmake =>
    exact iff_of_true rfl (.inl ⟨before, _, _, rfl, hd, hmake, Builtin.refusal_cases hmake⟩)
  | failed before hd hmake =>
    have htype := Builtin.type_eq_fail_of_make hmake
    exact iff_of_true rfl (.inr ⟨before, _, _, _, rfl, hd, htype, hmake⟩)
  | finished before id =>
    refine iff_of_false Bool.false_ne_true fun herror => ?_
    obtain ⟨complaint, hlast⟩ := getLast?_of_endsInError herror
    simp at hlast

/-- Whether a run of an asset ends behind these events, with an error just where it should. -/
def EndsDuly (asset : Asset) (pre : List (Event τ)) (report : RunReport) : Prop :=
  ∃ told, pre = told ++ [.notice (Player.finishNotice report)] ∧
    (report.withError = true ↔ EndsInRefusal asset told ∨ EndsInFailure asset told)

theorem IsEnded.endsDuly (h : IsEnded asset pre report) : EndsDuly asset pre report := by
  obtain ⟨told, hpre, hending⟩ := h
  exact ⟨told, hpre, hending.withError_iff⟩

end

namespace Player

variable {p : Player (Builtin τ)}

section

variable {pre post : List (Event τ)} {report : RunReport}

theorem endsDuly_stop (hp : p.IsGrounded) (hsplit : p.stop.2 = pre ++ .runFinished report :: post) :
    ∃ asset, p.asset? = some asset ∧ EndsDuly asset pre report := by
  -- A run that is stopped has not ended with an error, and no complaint stands before its end.
  have hduly {asset : Asset} {told : List (Event τ)} (hnone : ∀ complaint,
      told.getLast? ≠ some (.said complaint)) (hpre : pre = told ++ [.notice (finishNotice report)])
      (hreport : report = p.closing false) : EndsDuly asset pre report := by
    refine ⟨told, hpre, iff_of_false (by simp [hreport, closing]) fun herror => ?_⟩
    obtain ⟨complaint, hlast⟩ := getLast?_of_endsInError herror
    exact hnone complaint hlast
  rcases hp.cases with hphase | ⟨asset, next, last?, hphase, -⟩ | ⟨asset, id, live, hphase⟩
  · simp [stop_of_idle hphase] at hsplit
  · rw [stop_of_poised hphase] at hsplit
    have hclear : (.runFinished report : Event τ) ∉ [] := List.not_mem_nil
    obtain ⟨hpre, hreport, -⟩ := split_farewell hclear hsplit
    exact ⟨asset, congrArg Phase.asset? hphase, hduly (by simp) hpre hreport⟩
  · rw [stop_of_active hphase] at hsplit
    have hclear : (.runFinished report : Event τ) ∉
        [.notice ⟨.debug, "cancelling live action", [("action", id)]⟩, .cancelled id] := by simp
    obtain ⟨hpre, hreport, -⟩ := split_farewell hclear hsplit
    exact ⟨asset, congrArg Phase.asset? hphase, hduly (by simp) hpre hreport⟩

theorem endsDuly_call (hp : p.IsGrounded) {c : Call (Builtin τ) τ} (hplain : c.IsPlain)
    (hsplit : (p.call c).2 = pre ++ .runFinished report :: post) :
    ∃ asset, p.asset? = some asset ∧ EndsDuly asset pre report := by
  cases c with
  | start asset options =>
    cases hstart : resolveStart asset options with
    | error e => simp [call_start_of_error hstart] at hsplit
    | ok id =>
      rw [call_start_of_ok hstart] at hsplit
      have hgreeting : (.runFinished report : Event τ) ∉ greeting asset id := by simp [greeting]
      obtain ⟨mid, hmid⟩ := exists_split_of_notMem_right hgreeting hsplit
      exact endsDuly_stop hp hmid
  | stop => exact endsDuly_stop hp hsplit
  | update f =>
    have hrepertoire : f.repertoire = Builtin.repertoire := hplain
    have hnotices : .runFinished report ∉ deltaNotices f.delta :=
      notMem_deltaNotices (by simp) f.delta
    rw [call] at hsplit
    rcases hp.cases with hphase | ⟨asset, next, last?, hphase, hclosed, hknown⟩ |
      ⟨asset, id, live, hphase⟩
    · simp [advance_of_idle hphase] at hsplit
    · have hasset : p.asset? = some asset := congrArg Phase.asset? hphase
      obtain ⟨o, hcourse, heq⟩ := advance_of_poised hphase f
      rw [embarked, hrepertoire] at hcourse heq
      have hbegun := isGrounded_begin hclosed hknown f.session.bridge p f.session.scopes
      simp only [heq, Outcome.after, List.append_assoc] at hsplit
      obtain ⟨mid, rfl, hmid⟩ := exists_split_of_notMem hnotices hsplit
      have hended := isEnded_begin hknown hcourse
        (fun _ hasset => hcourse.isEnded rfl hbegun hasset) hmid
      exact ⟨asset, hasset, (hended.prepend _).endsDuly⟩
    · have hasset : p.asset? = some asset := congrArg Phase.asset? hphase
      obtain ⟨o, hcourse, heq⟩ := advance_of_active hp.isSound hphase f
      simp only [heq, Outcome.after] at hsplit
      obtain ⟨mid, rfl, hmid⟩ := exists_split_of_notMem hnotices hsplit
      have hended := hcourse.isEnded hrepertoire hp hasset hmid
      exact ⟨asset, hasset, (hended.prepend _).endsDuly⟩

end

/-- **A player of built assets never comes to an action that is not there, and a run ends with an
error just where an action is refused or fails for good.** This holds in the call that comes behind
any number of others, if all of them keep to built assets and built-in actions. -/
theorem built_assets_are_safe (config : PlayerConfig) (seed : UInt64)
    {calls : List (Call (Builtin τ) τ)} (hcalls : ∀ c ∈ calls, c.IsPlain)
    {c : Call (Builtin τ) τ} (hc : c.IsPlain) :
    let p := (new config seed).after calls
    (∀ id flow, .said (.unknown id flow) ∉ (p.call c).2 ∧
      .said (.vanished id flow) ∉ (p.call c).2) ∧
    (∀ id, p.pending? = some id ∨ p.current? = some id →
      ∃ asset, p.asset? = some asset ∧ (asset.find? id).isSome) ∧
    ∀ pre report post, (p.call c).2 = pre ++ .runFinished report :: post →
      ∃ asset told, p.asset? = some asset ∧ pre = told ++ [.notice (finishNotice report)] ∧
        (report.withError = true ↔ EndsInRefusal asset told ∨ EndsInFailure asset told) := by
  intro p
  have hp : p.IsGrounded := isGrounded_after (isGrounded_new config seed) hcalls
  refine ⟨fun id flow => ⟨unknown_notMem_call hp hc id flow,
    vanished_notMem_call hp.isSound c id flow⟩, fun id hid => hp.exists_asset hid, ?_⟩
  intro pre report post hsplit
  obtain ⟨asset, hasset, told, hpre, hiff⟩ := endsDuly_call hp hc hsplit
  exact ⟨asset, told, hasset, hpre, hiff⟩

/-- A flow that fails at once. -/
def mishap : Asset where
  name := "mishap"
  actions := [{ id := "slip", type := "fail" }]
  index := [("slip", 0)]
  start? := some "slip"
  bindings := .empty
  consistent := Asset.isIndexOf_indexOf rfl

theorem isBuilt_mishap : mishap.IsBuilt := by
  have hbuild : (((Draft.new "mishap").addAction "slip" "fail" .null).setStart "slip").build
      = .ok mishap := rfl
  exact .ofDraft hbuild

def startMishap : List (Call (Builtin Float32) Float32) := [.start mishap {}]

def mishapFrame : Frame (Builtin Float32) Float32 := ⟨Builtin.repertoire, .new, 0⟩

theorem exists_told_of_mishap : ∃ told, (((new {} 0).after startMishap).advance mishapFrame).events
    = (told ++ [.notice (finishNotice ⟨"mishap", some "slip", true⟩)]) ++
      [.runFinished ⟨"mishap", some "slip", true⟩] := by
  let begun := ((new {} 0).after startMishap).embarked mishap "slip" mishapFrame
  have hadvance : ((new {} 0).after startMishap).advance mishapFrame
      = (run Builtin.repertoire .standard 255 (0 : Float32) begun.player []).after
        (deltaNotices 0 ++ begun.events) := rfl
  -- A run does not compute by itself.
  rw [hadvance, run]
  exact ⟨(deltaNotices 0 ++ begun.events) ++ [.updated { id := "slip", type := "fail" } 0,
    .decided "slip" (.fail "action failed"), .said (.failed "slip" "action failed")], rfl⟩

theorem built_assets_are_safe_in_mishap :
    (∀ c ∈ startMishap, c.IsPlain) ∧ (Call.update mishapFrame).IsPlain ∧
    ∃ told report, (((new {} 0).after startMishap).call (.update mishapFrame)).2
        = (told ++ [.notice (finishNotice report)]) ++ [.runFinished report] ∧
      report.withError = true ∧ (EndsInRefusal mishap told ∨ EndsInFailure mishap told) := by
  have hcalls : ∀ c ∈ startMishap, c.IsPlain := by
    intro c hc
    obtain rfl := List.mem_singleton.1 hc
    exact isBuilt_mishap
  have hframe : (Call.update mishapFrame).IsPlain := rfl
  obtain ⟨told, htold⟩ := exists_told_of_mishap
  obtain ⟨-, -, hends⟩ := built_assets_are_safe {} 0 hcalls hframe
  obtain ⟨asset, told', hasset, htold', hiff⟩ := hends _ _ _ htold
  obtain rfl : mishap = asset := Option.some.inj hasset
  obtain rfl : told = told' := List.append_inj_left' htold' rfl
  exact ⟨hcalls, hframe, told, _, htold, rfl, hiff.1 rfl⟩

end Player

end ActionGraph
