import ActionGraph.Proofs.Action.Settlement
import ActionGraph.Proofs.Player.Course

/-!
# The course of a flow

With the built-in actions, a flow has a course of its own, in which an action that is due is made
and then settles. `Scene.Step` describes it without a clock and without a limit of transitions.
There is one way to go on at most, so that of two paths from one scene one goes on where the other
ends.

What can be observed on the way is which instances are made, and on which stage, and what is said to
the session.
-/

namespace ActionGraph

variable {τ : Type}

/-! ### What can be observed of a run -/

/-- What does not depend on the schedule. -/
inductive Observation where
  | made (d : Descriptor) (stage : Stage)
  | message (level : LogLevel) (text : String)

/-- What can be observed of an event. The warnings about an action that may try again, and about the
limit of transitions, are left out. -/
def Event.observation? : Event τ → Option Observation
  | .made d stage => some (.made d stage)
  | .said (.troubled _ _) | .said (.exhausted _ _ _) => none
  | .said complaint => some (.message complaint.level complaint.text)
  | .noted (.remark (.message level text)) => some (.message level text)
  | _ => none

def observations (events : List (Event τ)) : List Observation :=
  events.filterMap Event.observation?

@[simp] theorem observations_nil : observations ([] : List (Event τ)) = [] := rfl

@[simp] theorem observations_append (events more : List (Event τ)) :
    observations (events ++ more) = observations events ++ observations more :=
  List.filterMap_append

@[simp] theorem observations_cons (e : Event τ) (events : List (Event τ)) :
    observations (e :: events) = e.observation?.toList ++ observations events := pick_cons ..

@[simp] theorem observations_farewell {ι : Type} (p : Player ι) (withError : Bool) :
    observations (p.farewell withError : List (Event τ)) = [] := rfl

theorem observations_deltaNotices [Clock τ] (delta : τ) :
    observations (Player.deltaNotices delta) = [] := by
  rw [Player.deltaNotices]
  split <;> rfl

theorem observations_complaints_of_stay (id : ActionId) (complaint? : Option String) :
    observations (Player.complaints id (.stay complaint?) : List (Event τ)) = [] := by
  cases complaint? <;> rfl

/-! ### The course of a flow -/

/-- Where a flow is. -/
inductive Spot (τ : Type) where
  /-- The action `next` is to be made; `last?` is the action before. -/
  | due (asset : Asset) (next : ActionId) (last? : Option ActionId)
  /-- An instance has been made, with no time passed. -/
  | live (asset : Asset) (d : Descriptor) (fresh : Builtin τ)
  | ended (report : RunReport)

structure Scene (τ : Type) where
  spot : Spot τ
  stage : Stage

namespace Scene

variable [Clock τ]

/-- A step of a flow, and what can be observed of it. -/
inductive Step (bridge : Bridge) : Scene τ → List Observation → Scene τ → Prop
  /-- The action that is due is not in the flow. -/
  | miss {asset : Asset} {next : ActionId} {last? : Option ActionId} {stage : Stage}
      (hunknown : asset.find? next = none) :
    Step bridge ⟨.due asset next last?, stage⟩
      [.message .error (Complaint.unknown next asset.name).text]
      ⟨.ended ⟨asset.name, some (last?.getD next), true⟩, stage⟩
  /-- The action that is due cannot be made. -/
  | refuse {asset : Asset} {next : ActionId} {d : Descriptor} {last? : Option ActionId}
      {stage : Stage} {e : FlowFault} (hknown : asset.find? next = some d)
      (hmake : (Builtin.repertoire (τ := τ)).make d.type d = .error e) :
    Step bridge ⟨.due asset next last?, stage⟩
      [.message .error (Complaint.unmade next e).text]
      ⟨.ended ⟨asset.name, some (last?.getD next), true⟩, stage⟩
  | make {asset : Asset} {next : ActionId} {d : Descriptor} {last? : Option ActionId}
      {stage : Stage} {b : Builtin τ} (hknown : asset.find? next = some d)
      (hmake : Builtin.repertoire.make d.type d = .ok b) :
    Step bridge ⟨.due asset next last?, stage⟩ [.made d stage] ⟨.live asset d b.started, stage⟩
  | leave {asset : Asset} {d : Descriptor} {b : Builtin τ} {stage : Stage}
      {played : Performance τ Decision} {next : ActionId} {yields : Bool}
      (hsettle : b.settle bridge d stage = some played) (hgo : played.result = .go next yields) :
    Step bridge ⟨.live asset d b, stage⟩ (observations (played.notes.map (.noted (τ := τ))))
      ⟨.due asset next (some d.id), played.stage⟩
  | close {asset : Asset} {d : Descriptor} {b : Builtin τ} {stage : Stage}
      {played : Performance τ Decision} {withError : Bool}
      (hsettle : b.settle bridge d stage = some played)
      (hcloses : played.result.closes? = some withError) :
    Step bridge ⟨.live asset d b, stage⟩
      (observations (played.notes.map .noted ++ Player.complaints (τ := τ) d.id played.result))
      ⟨.ended ⟨asset.name, some d.id, withError⟩, played.stage⟩

inductive Path (bridge : Bridge) : Scene τ → List Observation → Scene τ → Prop
  | nil (s : Scene τ) : Path bridge s [] s
  | cons {s next last : Scene τ} {seen more : List Observation} (hstep : Step bridge s seen next)
      (hrest : Path bridge next more last) : Path bridge s (seen ++ more) last

variable {bridge : Bridge} {s last other : Scene τ} {seen more : List Observation}

theorem Step.path (h : Step bridge s seen last) : Path bridge s seen last := by
  rw [← List.append_nil seen]
  exact .cons h (.nil last)

theorem Path.append (h : Path bridge s seen last) (hmore : Path bridge last more other) :
    Path bridge s (seen ++ more) other := by
  induction h with
  | nil => exact hmore
  | cons hstep _ ih =>
    rw [List.append_assoc]
    exact .cons hstep (ih hmore)

/-- There is one way to go on. -/
theorem Step.unique (h : Step bridge s seen last) (h' : Step bridge s more other) :
    seen = more ∧ last = other := by
  cases h with
  | miss hunknown =>
    cases h' with
    | miss => exact ⟨rfl, rfl⟩
    | refuse hknown | make hknown => simp [hunknown] at hknown
  | refuse hknown hmake =>
    cases h' with
    | miss hunknown => simp [hunknown] at hknown
    | refuse hknown' hmake' =>
      obtain rfl := Option.some.inj (hknown.symm.trans hknown')
      obtain rfl := Except.error.inj (hmake.symm.trans hmake')
      exact ⟨rfl, rfl⟩
    | make hknown' hmake' =>
      obtain rfl := Option.some.inj (hknown.symm.trans hknown')
      simp [hmake] at hmake'
  | make hknown hmake =>
    cases h' with
    | miss hunknown => simp [hunknown] at hknown
    | refuse hknown' hmake' =>
      obtain rfl := Option.some.inj (hknown.symm.trans hknown')
      simp [hmake] at hmake'
    | make hknown' hmake' =>
      obtain rfl := Option.some.inj (hknown.symm.trans hknown')
      obtain rfl := Except.ok.inj (hmake.symm.trans hmake')
      exact ⟨rfl, rfl⟩
  | leave hsettle hgo =>
    cases h' with
    | leave hsettle' hgo' =>
      obtain rfl := Option.some.inj (hsettle.symm.trans hsettle')
      rw [hgo, Decision.go.injEq] at hgo'
      obtain ⟨rfl, -⟩ := hgo'
      exact ⟨rfl, rfl⟩
    | close hsettle' hcloses =>
      obtain rfl := Option.some.inj (hsettle.symm.trans hsettle')
      simp [hgo, Decision.closes?] at hcloses
  | close hsettle hcloses =>
    cases h' with
    | leave hsettle' hgo =>
      obtain rfl := Option.some.inj (hsettle.symm.trans hsettle')
      simp [hgo, Decision.closes?] at hcloses
    | close hsettle' hcloses' =>
      obtain rfl := Option.some.inj (hsettle.symm.trans hsettle')
      obtain rfl := Option.some.inj (hcloses.symm.trans hcloses')
      exact ⟨rfl, rfl⟩

/-- Of two paths from one scene one goes on where the other ends. -/
theorem Path.comparable (h : Path bridge s seen last) (h' : Path bridge s more other) :
    (∃ rest, more = seen ++ rest ∧ Path bridge last rest other) ∨
      ∃ rest, seen = more ++ rest ∧ Path bridge other rest last := by
  induction h generalizing more with
  | nil s => exact .inl ⟨more, rfl, h'⟩
  | cons hstep hrest ih =>
    cases h' with
    | nil => exact .inr ⟨_, rfl, .cons hstep hrest⟩
    | cons hstep' hrest' =>
      obtain ⟨rfl, rfl⟩ := hstep.unique hstep'
      rcases ih hrest' with ⟨rest, rfl, hpath⟩ | ⟨rest, rfl, hpath⟩
      · exact .inl ⟨rest, (List.append_assoc ..).symm, hpath⟩
      · exact .inr ⟨rest, (List.append_assoc ..).symm, hpath⟩

theorem Path.eq_of_ended {report : RunReport} (hover : s.spot = .ended report)
    (h : Path bridge s seen last) : last = s ∧ seen = [] := by
  cases h with
  | nil => exact ⟨rfl, rfl⟩
  | cons hstep => cases hstep <;> simp at hover

theorem Path.eq_of_both_ended (h : Path bridge s seen last) (h' : Path bridge s more other)
    {report report' : RunReport} (hover : last.spot = .ended report)
    (hover' : other.spot = .ended report') : seen = more ∧ last = other := by
  rcases h.comparable h' with ⟨rest, rfl, hpath⟩ | ⟨rest, rfl, hpath⟩
  · obtain ⟨rfl, rfl⟩ := hpath.eq_of_ended hover
    exact ⟨(List.append_nil _).symm, rfl⟩
  · obtain ⟨rfl, rfl⟩ := hpath.eq_of_ended hover'
    exact ⟨List.append_nil _, rfl⟩

end Scene

end ActionGraph
