import ActionGraph.Action.Builtin

/-!
# What a built-in action comes to

An instance of a built-in action stays for some updates, perhaps for none, and then does what it is
there for, in a single update. While it stays it leaves the stage alone. What it does in the end
depends on the stage that it finds, and not on the frame times nor on how many updates it has seen:
this is `settle`, which knows of no clock. An action that fails and may try again never gets so far.
-/

namespace ActionGraph

variable {τ : Type}

/-- The decision to follow a link, or to end the flow where there is none. -/
def Decision.along : Option Link → Decision
  | none => .finish
  | some link => .go link.target link.yields

theorem Decision.along_ne_stay (link? : Option Link) (complaint? : Option String) :
    Decision.along link? ≠ .stay complaint? := by
  cases link? <;> simp [along]

theorem UpdateContext.decision_goto [Clock τ] (c : UpdateContext τ) (link? : Option Link)
    (consumed : τ) : (c.goto link? consumed).decision = .along link? := by
  cases link? <;> rfl

namespace Performance

variable {α β : Type}

/-- The performance with its result changed. -/
def map (f : α → β) (p : Performance τ α) : Performance τ β := ⟨f p.result, p.stage, p.notes⟩

end Performance

namespace Builtin

/-- What an instance does when it stays no longer. -/
def settle (bridge : Bridge) (d : Descriptor) (stage : Stage) :
    Builtin τ → Option (Performance τ Decision)
  | .branch | .wait _ _ => some ((stage.firstValid bridge d).map .along)
  | .randomBranch => some ((stage.randomValid bridge d).map .along)
  | .finish => some (.quiet stage .finish)
  | .setVariable name value scope? =>
    some (((write stage name value scope?).firstValid bridge d).map .along)
  | .log level message =>
    some (((stage.firstValid bridge d).map .along).after [.remark (.message level message)])
  | .fail message retry => if retry then none else some (.quiet stage (.fail message))

variable {bridge : Bridge} {d : Descriptor} {stage : Stage}

/-- An instance does not settle to stay. -/
theorem result_ne_stay_of_settle {b : Builtin τ} {played : Performance τ Decision}
    (hsettle : b.settle bridge d stage = some played) (complaint? : Option String) :
    played.result ≠ .stay complaint? := by
  cases b with
  | finish =>
    obtain rfl := Option.some.inj hsettle
    simp [Performance.quiet]
  | fail message retry =>
    cases retry with
    | true => simp [settle] at hsettle
    | false =>
      obtain rfl := Option.some.inj hsettle
      simp [Performance.quiet]
  | branch | randomBranch | wait | setVariable | log =>
    obtain rfl := Option.some.inj hsettle
    exact Decision.along_ne_stay _ _

section

variable [Clock τ]

/-- How much time has passed does not matter in the end. -/
theorem settle_started (b : Builtin τ) :
    b.started.settle bridge d stage = b.settle bridge d stage := by
  cases b <;> rfl

theorem started_started (b : Builtin τ) : b.started.started = b.started := by
  cases b <;> rfl

/-- An update changes nothing of an instance but how much time has passed. -/
theorem started_update (b : Builtin τ) (c : UpdateContext τ) :
    (b.update bridge d stage c).result.1.started = b.started := by
  cases b with
  | wait seconds elapsed =>
    rw [update, updateWait]
    split <;> rfl
  | branch | randomBranch | finish | setVariable | log | fail => rfl

/-- **In an update an instance stays and leaves the stage alone, or it settles.** -/
theorem update_cases (b : Builtin τ) (c : UpdateContext τ) :
    (∃ complaint?, (b.update bridge d stage c).result.2.decision = .stay complaint? ∧
      (b.update bridge d stage c).stage = stage ∧ (b.update bridge d stage c).notes = []) ∨
    b.settle bridge d stage
      = some ((b.update bridge d stage c).map fun result => result.2.decision) := by
  cases b with
  | branch | randomBranch | setVariable | log =>
    refine .inr ?_
    simp only [settle, update, follow, Performance.map, Performance.after,
      UpdateContext.decision_goto]
  | finish => exact .inr rfl
  | wait seconds elapsed =>
    -- What is left of the frame time decides only whether the wait is over.
    simp only [update, updateWait]
    split
    · refine .inr ?_
      simp only [settle, follow, Performance.map, UpdateContext.decision_goto]
    · exact .inl ⟨none, rfl, rfl, rfl⟩
  | fail message retry =>
    cases retry with
    | true => exact .inl ⟨some message, rfl, rfl, rfl⟩
    | false => exact .inr rfl

end

end Builtin

end ActionGraph
