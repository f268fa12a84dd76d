import ActionGraph.Proofs.Action.Choice
import ActionGraph.Proofs.Action.Settlement
import ActionGraph.Proofs.Except

/-!
# Which built-in actions are made, and where they lead

A built-in action is refused for one of two reasons: its type has no maker, or its maker makes
nothing of its parameters. One that is made leads to targets of its own links only, and it ends its
flow with an error only if it is a `fail` that does not try again.
-/

namespace ActionGraph

variable {τ : Type}

namespace Repertoire

variable {ι : Type} {r : Repertoire ι τ} {type : String} {d : Descriptor}

theorem maker_of_make {made : ι} (h : r.make type d = .ok made) :
    ∃ maker, (type, maker) ∈ r.makers ∧ maker d = .ok made := by
  rw [make] at h
  cases hlookup : r.makers.lookup type with
  | none => simp [hlookup] at h
  | some maker =>
    obtain ⟨before, after, hmakers, -⟩ := List.lookup_eq_some_iff.1 hlookup
    rw [hlookup] at h
    exact ⟨maker, by simp [hmakers], h⟩

theorem refusal_of_make {e : FlowFault} (h : r.make type d = .error e) :
    (r.knows type = false ∧ e = .unregistered type) ∨
      ∃ maker, (type, maker) ∈ r.makers ∧ maker d = .error e := by
  rw [make] at h
  cases hlookup : r.makers.lookup type with
  | none =>
    rw [hlookup] at h
    refine .inl ⟨List.any_eq_false.2 fun entry hentry hsame => ?_, (Except.error.inj h).symm⟩
    have hother := List.lookup_eq_none_iff.1 hlookup entry hentry
    simp [eq_of_beq hsame] at hother
  | some maker =>
    obtain ⟨before, after, hmakers, -⟩ := List.lookup_eq_some_iff.1 hlookup
    rw [hlookup] at h
    exact .inr ⟨maker, by simp [hmakers], h⟩

end Repertoire

/-- Whether an action is refused for its parameters. -/
def Descriptor.Blames (d : Descriptor) (e : FlowFault) : Prop :=
  ∃ fault, e = .invalidParams d.id fault

theorem Descriptor.blames_of_decode {α β : Type} {d : Descriptor} {form : Json.Record α}
    {f : α → Except FlowFault β} {e : FlowFault} (h : (d.decodeParams form >>= f) = .error e)
    (hrest : ∀ params, f params = .error e → d.Blames e) : d.Blames e := by
  rcases bind_eq_error_iff.1 h with hdecode | ⟨params, -, hf⟩
  · obtain ⟨undecodable, -, he⟩ := mapError_eq_error_iff.1 hdecode
    exact ⟨_, he.symm⟩
  · exact hrest params hf

theorem Decision.along_eq_go_iff {link? : Option Link} {next : ActionId} {yields : Bool} :
    Decision.along link? = .go next yields ↔
      ∃ link, link? = some link ∧ link.target = next ∧ link.yields = yields := by
  cases link? <;> simp [along]

namespace Builtin

section

variable {d : Descriptor} {e : FlowFault}

theorem blames_of_makeSetVariable (h : makeSetVariable (τ := τ) d = .error e) : d.Blames e :=
  Descriptor.blames_of_decode h fun _ hrest => nomatch hrest

theorem blames_of_makeLog (h : makeLog (τ := τ) d = .error e) : d.Blames e := by
  refine Descriptor.blames_of_decode h fun params hrest => ?_
  simp only at hrest
  split at hrest
  · simp at hrest
  · exact ⟨_, (Except.error.inj hrest).symm⟩

theorem blames_of_makeFail (h : makeFail (τ := τ) d = .error e) : d.Blames e := by
  rw [makeFail] at h
  split at h
  · simp [bind, Except.bind, pure, Except.pure] at h
  · exact Descriptor.blames_of_decode h fun _ hrest => nomatch hrest

variable [Clock τ]

theorem blames_of_makeWait (h : makeWait (τ := τ) d = .error e) : d.Blames e := by
  refine Descriptor.blames_of_decode h fun params hrest => ?_
  simp only at hrest
  split at hrest
  · simp at hrest
  · exact ⟨_, (Except.error.inj hrest).symm⟩

theorem blames_of_maker {type : String} {maker : Descriptor → Except FlowFault (Builtin τ)}
    (hmaker : (type, maker) ∈ makers (τ := τ)) (h : maker d = .error e) : d.Blames e := by
  simp only [makers, List.mem_cons, Prod.mk.injEq, List.not_mem_nil, or_false] at hmaker
  rcases hmaker with ⟨-, rfl⟩ | ⟨-, rfl⟩ | ⟨-, rfl⟩ | ⟨-, rfl⟩ | ⟨-, rfl⟩ | ⟨-, rfl⟩ | ⟨-, rfl⟩
  · simp at h
  · simp at h
  · exact blames_of_makeWait h
  · exact blames_of_makeSetVariable h
  · exact blames_of_makeLog h
  · simp at h
  · exact blames_of_makeFail h

/-- **An action is refused because its type is not known, or for its parameters.** -/
theorem refusal_cases {type : String}
    (h : (repertoire (τ := τ)).make type d = .error e) :
    ((repertoire (τ := τ)).knows type = false ∧ e = .unregistered type) ∨ d.Blames e := by
  rcases Repertoire.refusal_of_make h with hunknown | ⟨maker, hmaker, he⟩
  · exact .inl hunknown
  · exact .inr (blames_of_maker hmaker he)

theorem type_eq_fail_of_make {type message : String} {retry : Bool}
    (h : (repertoire (τ := τ)).make type d = .ok (.fail message retry)) : type = "fail" := by
  obtain ⟨maker, hmaker, hmade⟩ := Repertoire.maker_of_make h
  simp only [repertoire, makers, List.mem_cons, Prod.mk.injEq, List.not_mem_nil, or_false] at hmaker
  rcases hmaker with ⟨-, rfl⟩ | ⟨-, rfl⟩ | ⟨-, rfl⟩ | ⟨-, rfl⟩ | ⟨-, rfl⟩ | ⟨-, rfl⟩ | ⟨htype, -⟩
  · simp at hmade
  · simp at hmade
  · obtain ⟨params, -, hrest⟩ := bind_eq_ok_iff.1 hmade
    simp only at hrest
    split at hrest <;> simp at hrest
  · obtain ⟨params, -, hrest⟩ := bind_eq_ok_iff.1 hmade
    simp [pure, Except.pure] at hrest
  · obtain ⟨params, -, hrest⟩ := bind_eq_ok_iff.1 hmade
    simp only at hrest
    split at hrest <;> simp at hrest
  · simp at hmade
  · exact htype

end

section

variable {bridge : Bridge} {d : Descriptor} {stage : Stage} {b : Builtin τ}
  {played : Performance τ Decision}

theorem exists_link_of_settle (hsettle : b.settle bridge d stage = some played) {next : ActionId}
    {yields : Bool} (hgo : played.result = .go next yields) :
    ∃ link ∈ d.links, link.target = next ∧ link.yields = yields := by
  cases b with
  | branch | wait | setVariable | log =>
    obtain rfl := Option.some.inj hsettle
    obtain ⟨link, hlink, hsame⟩ := Decision.along_eq_go_iff.1 hgo
    exact ⟨link, Stage.mem_of_firstValid hlink, hsame⟩
  | randomBranch =>
    obtain rfl := Option.some.inj hsettle
    obtain ⟨link, hlink, hsame⟩ := Decision.along_eq_go_iff.1 hgo
    exact ⟨link, Stage.mem_of_randomValid hlink, hsame⟩
  | finish =>
    obtain rfl := Option.some.inj hsettle
    simp [Performance.quiet] at hgo
  | fail message retry =>
    cases retry with
    | true => simp [settle] at hsettle
    | false =>
      obtain rfl := Option.some.inj hsettle
      simp [Performance.quiet] at hgo

theorem eq_fail_of_settle (hsettle : b.settle bridge d stage = some played) {message : String}
    (hfail : played.result = .fail message) : b = .fail message false ∧ played.notes = [] := by
  have halong (link? : Option Link) : Decision.along link? ≠ .fail message := by
    cases link? <;> simp [Decision.along]
  cases b with
  | branch | randomBranch | wait | setVariable | log =>
    obtain rfl := Option.some.inj hsettle
    exact absurd hfail (halong _)
  | finish =>
    obtain rfl := Option.some.inj hsettle
    simp [Performance.quiet] at hfail
  | fail message' retry =>
    cases retry with
    | true => simp [settle] at hsettle
    | false =>
      obtain rfl := Option.some.inj hsettle
      obtain rfl := Decision.fail.inj hfail
      exact ⟨rfl, rfl⟩

end

end Builtin

end ActionGraph
