import ActionGraph.Proofs.Action.Making

/-!
# What built-in actions change

Of the built-in actions two change the stage on which they settle. A `set_variable` writes a
variable, of the player or of a scope, and only then looks at its links. A `random_branch` draws
from the generator, if the conditions of some of its links hold. An action of another type leaves
the stage as it is; so does every action as long as it stays.
-/

namespace ActionGraph

variable {τ : Type}

/-- Whether actions of this type change something. -/
def Descriptor.acts (d : Descriptor) : Bool :=
  d.type == "set_variable" || d.type == "random_branch"

/-- What an action writes, if it is one that writes. -/
def Descriptor.write? (d : Descriptor) : Option SetVariableParams :=
  if d.type = "set_variable" then (d.decodeParams SetVariableParams.form).toOption else none

/-- The links among which an action chooses by chance, if there are any. -/
def Descriptor.choice? (d : Descriptor) (bridge : Bridge) (stage : Stage) : Option (List Link) :=
  let valid := d.links.filter (Link.isValid (stage.session bridge) stage.bindings)
  if d.type = "random_branch" ∧ valid ≠ [] then some valid else none

namespace SetVariableParams

/-- What is written to the variables of the player. -/
def own? (w : SetVariableParams) : Option (String × Value) :=
  match w.scope? with
  | none => some (w.name, w.value)
  | some _ => none

/-- What is written to a scope. -/
def scoped? (w : SetVariableParams) : Option (ScopeKind × String × Value) :=
  w.scope?.map (·, w.name, w.value)

end SetVariableParams

/-- The scopes behind writes, of which the first one comes first. -/
def Scopes.setAll (scopes : Scopes) (writes : List (ScopeKind × String × Value)) : Scopes :=
  writes.foldl (fun scopes (kind, name, value) => scopes.set kind name value) scopes

/-- The generator behind choices among these items. -/
def Rng.past {α : Type} (g : Rng) (choices : List (List α)) : Rng :=
  choices.foldl (fun g items => (g.choose items).2) g

/-- The stage behind these writes and these choices. -/
def Stage.amended (stage : Stage) (writes : List SetVariableParams)
    (choices : List (List Link)) : Stage where
  bindings := stage.bindings.setAll (writes.filterMap SetVariableParams.own?)
  scopes := stage.scopes.setAll (writes.filterMap SetVariableParams.scoped?)
  rng := stage.rng.past choices

@[simp] theorem Stage.amended_nil (stage : Stage) : stage.amended [] [] = stage := rfl

theorem Stage.amended_append (stage : Stage) (writes more : List SetVariableParams)
    (choices others : List (List Link)) :
    stage.amended (writes ++ more) (choices ++ others)
      = (stage.amended writes choices).amended more others := by
  simp only [amended, Store.setAll, Scopes.setAll, Rng.past, List.filterMap_append,
    List.foldl_append]

/-- The stage behind an action of this descriptor. -/
def Stage.behind (stage : Stage) (bridge : Bridge) (d : Descriptor) : Stage :=
  stage.amended d.write?.toList (d.choice? bridge stage).toList

namespace Descriptor

variable {d : Descriptor}

theorem write?_of_acts_eq_false (hacts : d.acts = false) : d.write? = none := by
  refine if_neg fun htype => ?_
  simp [acts, htype] at hacts

theorem choice?_of_acts_eq_false (hacts : d.acts = false) (bridge : Bridge) (stage : Stage) :
    d.choice? bridge stage = none := by
  refine if_neg fun h => ?_
  simp [acts, h.1] at hacts

end Descriptor

theorem Stage.behind_of_acts_eq_false {d : Descriptor} (hacts : d.acts = false) (stage : Stage)
    (bridge : Bridge) : stage.behind bridge d = stage := by
  rw [behind, Descriptor.write?_of_acts_eq_false hacts, Descriptor.choice?_of_acts_eq_false hacts]
  rfl

/-- A write, as an instance does it, is the first part of what becomes of its stage. -/
theorem Builtin.write_eq (stage : Stage) (w : SetVariableParams) :
    write stage w.name w.value w.scope? = stage.amended [w] [] := by
  obtain ⟨name, value, scope?⟩ := w
  cases scope? <;> rfl

namespace Builtin

/-- Whether an instance leaves the stage alone. -/
def isInert : Builtin τ → Bool
  | .setVariable _ _ _ | .randomBranch => false
  | .branch | .finish | .wait _ _ | .log _ _ | .fail _ _ => true

variable [Clock τ] {bridge : Bridge} {d : Descriptor} {stage : Stage} {made : Builtin τ}

theorem isInert_of_makeWait (h : makeWait d = .ok made) : made.isInert = true := by
  obtain ⟨params, -, hrest⟩ := bind_eq_ok_iff.1 h
  simp only at hrest
  split at hrest
  · obtain rfl := Except.ok.inj hrest
    rfl
  · simp at hrest

omit [Clock τ] in
theorem isInert_of_makeLog (h : makeLog d = .ok made) : made.isInert = true := by
  obtain ⟨params, -, hrest⟩ := bind_eq_ok_iff.1 h
  simp only at hrest
  split at hrest
  · obtain rfl := Except.ok.inj hrest
    rfl
  · simp at hrest

omit [Clock τ] in
theorem isInert_of_makeFail (h : makeFail d = .ok made) : made.isInert = true := by
  obtain ⟨params, hrest⟩ : ∃ params : FailParams, made = .fail params.message params.retry := by
    rw [makeFail] at h
    split at h
    all_goals
      obtain ⟨params, -, hrest⟩ := bind_eq_ok_iff.1 h
      exact ⟨params, (Except.ok.inj hrest).symm⟩
  rw [hrest]
  rfl

/-- What an instance does to the stage can be told from its descriptor. -/
theorem make_cases (h : repertoire.make d.type d = .ok made) :
    (∃ w, d.type = "set_variable" ∧ d.write? = some w ∧
      made = .setVariable w.name w.value w.scope?) ∨
    (d.type = "random_branch" ∧ made = .randomBranch) ∨ (d.acts = false ∧ made.isInert = true) := by
  obtain ⟨maker, hmaker, hmade⟩ := Repertoire.maker_of_make h
  simp only [repertoire, makers, List.mem_cons, Prod.mk.injEq, List.not_mem_nil, or_false] at hmaker
  rcases hmaker with ⟨htype, rfl⟩ | ⟨htype, rfl⟩ | ⟨htype, rfl⟩ | ⟨htype, rfl⟩ | ⟨htype, rfl⟩ |
    ⟨htype, rfl⟩ | ⟨htype, rfl⟩
  · obtain rfl := Except.ok.inj hmade
    exact .inr (.inr ⟨by simp [Descriptor.acts, htype], rfl⟩)
  · exact .inr (.inl ⟨htype, (Except.ok.inj hmade).symm⟩)
  · exact .inr (.inr ⟨by simp [Descriptor.acts, htype], isInert_of_makeWait hmade⟩)
  · obtain ⟨w, hdecode, hrest⟩ := bind_eq_ok_iff.1 hmade
    obtain rfl := Except.ok.inj hrest
    exact .inl ⟨w, htype, by simp [Descriptor.write?, htype, hdecode, Except.toOption], rfl⟩
  · exact .inr (.inr ⟨by simp [Descriptor.acts, htype], isInert_of_makeLog hmade⟩)
  · obtain rfl := Except.ok.inj hmade
    exact .inr (.inr ⟨by simp [Descriptor.acts, htype], rfl⟩)
  · exact .inr (.inr ⟨by simp [Descriptor.acts, htype], isInert_of_makeFail hmade⟩)

omit [Clock τ] in
theorem stage_of_isInert {b : Builtin τ} (hinert : b.isInert = true)
    {played : Performance τ Decision} (hsettle : b.settle bridge d stage = some played) :
    played.stage = stage := by
  cases b with
  | setVariable | randomBranch => simp [isInert] at hinert
  | branch | finish | wait | log =>
    obtain rfl := Option.some.inj hsettle
    rfl
  | fail message retry =>
    cases retry with
    | true => simp [settle] at hsettle
    | false =>
      obtain rfl := Option.some.inj hsettle
      rfl

omit [Clock τ] in
/-- A choice draws from the generator if there is something to choose. -/
theorem stage_randomValid (htype : d.type = "random_branch") :
    (stage.randomValid (τ := τ) bridge d).stage
      = stage.amended [] (d.choice? bridge stage).toList := by
  let valid := d.links.filter (Link.isValid (stage.session bridge) stage.bindings)
  have hrng : (stage.randomValid (τ := τ) bridge d).stage
      = { stage with rng := (stage.rng.choose valid).2 } := by
    have hvalid : (Link.allValid (stage.session bridge) stage.bindings d.links).result = valid :=
      Link.result_allValid ..
    rw [← hvalid]
    rfl
  by_cases hnone : valid = []
  · have hchoice : d.choice? bridge stage = none := if_neg fun h => h.2 hnone
    rw [hrng, hchoice, hnone]
    rfl
  · have hchoice : d.choice? bridge stage = some valid := if_pos ⟨htype, hnone⟩
    rw [hrng, hchoice]
    rfl

/-- **What becomes of the stage on which an instance settles can be told from its descriptor.** -/
theorem stage_of_settle (hmake : repertoire.make d.type d = .ok made)
    {played : Performance τ Decision} (hsettle : made.settle bridge d stage = some played) :
    played.stage = stage.behind bridge d := by
  rcases make_cases hmake with ⟨w, htype, hw, rfl⟩ | ⟨htype, rfl⟩ | ⟨hacts, hinert⟩
  · have hchoice : d.choice? bridge stage = none := if_neg fun h => by simp [htype] at h
    obtain rfl := Option.some.inj hsettle
    rw [Stage.behind, hw, hchoice]
    exact write_eq stage w
  · have hw : d.write? = none := if_neg (by simp [htype])
    obtain rfl := Option.some.inj hsettle
    rw [Stage.behind, hw]
    exact stage_randomValid (τ := τ) htype
  · rw [Stage.behind_of_acts_eq_false hacts]
    exact stage_of_isInert hinert hsettle

/-- What writes looks at its links when it has written. -/
theorem eq_of_settle_of_write (hmake : repertoire.make d.type d = .ok made) {w : SetVariableParams}
    (hw : d.write? = some w) {played : Performance τ Decision}
    (hsettle : made.settle bridge d stage = some played) :
    played = ((stage.amended [w] []).firstValid bridge d).map .along := by
  rcases make_cases hmake with ⟨w', -, hw', rfl⟩ | ⟨htype, -⟩ | ⟨hacts, -⟩
  · obtain rfl : w = w' := Option.some.inj (hw.symm.trans hw')
    rw [← write_eq]
    exact (Option.some.inj hsettle).symm
  · simp [Descriptor.write?, htype] at hw
  · simp [Descriptor.write?_of_acts_eq_false hacts] at hw

theorem isInert_started (b : Builtin τ) : b.started.isInert = b.isInert := by
  cases b <;> rfl

theorem isInert_of_stay {b : Builtin τ} {c : UpdateContext τ} {complaint? : Option String}
    (hstay : (b.update bridge d stage c).result.2.decision = .stay complaint?) :
    b.isInert = true := by
  cases b with
  | setVariable | randomBranch =>
    simp only [update, follow, UpdateContext.decision_goto] at hstay
    exact absurd hstay (Decision.along_ne_stay _ _)
  | branch | finish | wait | log | fail => rfl

/-- What stays is of a type that changes nothing. -/
theorem acts_eq_false_of_stay (hmake : repertoire.make d.type d = .ok made) {b : Builtin τ}
    (hlive : made.started = b.started) {c : UpdateContext τ} {complaint? : Option String}
    (hstay : (b.update bridge d stage c).result.2.decision = .stay complaint?) :
    d.acts = false := by
  have hinert : made.isInert = true := by
    rw [← isInert_started, hlive, isInert_started]
    exact isInert_of_stay hstay
  rcases make_cases hmake with ⟨w, -, -, rfl⟩ | ⟨-, rfl⟩ | ⟨hacts, -⟩
  · simp [isInert] at hinert
  · simp [isInert] at hinert
  · exact hacts

end Builtin

end ActionGraph
