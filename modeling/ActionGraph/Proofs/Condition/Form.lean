import ActionGraph.Condition.Form
import ActionGraph.Proofs.Json.Decoding

/-!
# Forms of conditions

The type of a form is read wherever it stands among the members, and the others as parameters. A
form is proper if its parameters are sorted and none of them has the name of the type. A proper form
that is written reads as itself, whether its type comes first, as it does where the form stands
alone, or in its place among the parameters, as it does inside another form. The parameters of a
condition are looked up by their names, so the type that stands among the members of a nested form
does no harm.
-/

namespace ActionGraph

open Json (Members Reading)

/-! ### Members of the name of the type -/

namespace Value

theorem named_append (name : String) (members more : Members) :
    named name (members ++ more) = named name members ++ named name more := by
  rw [named, List.filter_append, List.map_append, named, named]

theorem named_cons (name other : String) (value : Json) (rest : Members) :
    named name ((other, value) :: rest)
      = if other = name then value :: named name rest else named name rest := by
  by_cases hother : other = name <;> simp [named, hother]

theorem named_eq_nil_iff {name : String} {members : Members} :
    named name members = [] ↔ name ∉ members.map Prod.fst := by
  rw [named, List.map_eq_nil_iff, List.filter_eq_nil_iff, List.mem_map]
  constructor
  · rintro hnone ⟨entry, hentry, hname⟩
    exact hnone entry hentry (beq_iff_eq.2 hname)
  · intro hnone entry hentry hname
    exact hnone ⟨entry, hentry, beq_iff_eq.1 hname⟩

end Value

namespace Json.Members

def untyped (members : Members) : Members := members.filter fun entry => entry.1 != "type"

theorem untyped_of_notMem {members : Members} (h : "type" ∉ members.map Prod.fst) :
    members.untyped = members := by
  refine List.filter_eq_self.2 fun entry hentry => ?_
  have hother : entry.1 ≠ "type" := fun hname => h (List.mem_map.2 ⟨entry, hentry, hname⟩)
  simpa using hother

end Json.Members

namespace ConditionForm

structure IsProper (f : ConditionForm) : Prop where
  sorted : Members.IsSorted f.params
  untyped : "type" ∉ f.params.map Prod.fst

/-- The members of a proper form, all of them sorted. -/
def members (f : ConditionForm) : Members :=
  match f.type with
  | some type => f.params.insert "type" (.string type)
  | none => f.params

variable {f : ConditionForm}

theorem isProper_nil (type : Option String) : IsProper ⟨type, []⟩ := ⟨.nil, by simp⟩

theorem IsProper.withParam (h : f.IsProper) {name : String} (hname : name ≠ "type") {value : Json}
    (hvalue : value.sorted = value) : (f.withParam name value).IsProper := by
  refine ⟨h.sorted.insert name hvalue, fun hmem => ?_⟩
  obtain ⟨entry, hentry, htype⟩ := List.mem_map.1 hmem
  rcases Table.eq_or_mem_of_mem_insert hentry with rfl | hold
  · exact hname htype
  · exact h.untyped (List.mem_map.2 ⟨entry, hold, htype⟩)

theorem IsProper.isSorted_members (h : f.IsProper) : Members.IsSorted f.members := by
  obtain ⟨type?, params⟩ := f
  cases type? with
  | none => exact h.sorted
  | some type => exact h.sorted.insert "type" rfl

theorem IsProper.toJson_sorted (h : f.IsProper) : f.toJson.sorted = .object f.members := by
  obtain ⟨type?, params⟩ := f
  cases type? with
  | none => exact Json.sorted_object h.sorted
  | some type =>
    have hstart : Members.insert [] "type" (Json.string type).sorted
        = [("type", .string type)] := rfl
    have hrest := Json.sortedMembers_of_isSorted h.sorted
    simp only [toJson, toMembers, Json.sorted, List.singleton_append, Json.sortedMembers]
    rw [Json.sortedMembers_insert h.untyped, hrest]
    rfl

@[simp] theorem type_withParam (f : ConditionForm) (name : String) (value : Json) :
    (f.withParam name value).type = f.type := rfl

@[simp] theorem get?_withParam (f : ConditionForm) (name other : String) (value : Json) :
    (f.withParam name value).params.get? other
      = if other = name then some value else f.params.get? other :=
  Table.lookup_insert f.params name other value

/-! ### Reading a form -/

/-- The type of an object with these members; it may be absent or null. -/
def HasType (members : Members) (type? : Option String) : Prop :=
  Value.named "type" members = [Json.ofOption type?] ∨
    Value.named "type" members = [] ∧ type? = none

section

variable {origin : Json.Origin} {members : Members} {type? : Option String}
  {readings : List (Except Json.SyntaxError String × Reading)}

theorem setMembers_eq (huntyped : "type" ∉ members.map Prod.fst) (typed : Bool) (f : ConditionForm)
    (hread : Json.anyMembers origin readings = .ok members) :
    setMembers origin typed f readings
      = .ok { f with params := Json.sortedMembers f.params members } := by
  induction members generalizing f readings with
  | nil =>
    rw [Json.anyMembers_nil hread]
    rfl
  | cons entry rest ih =>
    obtain ⟨name, value⟩ := entry
    obtain ⟨hname, hrest⟩ := List.ne_and_not_mem_of_not_mem_cons huntyped
    have hother : ¬name = "type" := Ne.symm hname
    obtain ⟨r, others, rfl, hvalue, hothers⟩ := Json.anyMembers_cons hread
    simp only [setMembers, Json.kept, ok_bind, if_neg hother,
      Json.Decoder.sorted_reads value _ _ hvalue]
    exact ih hrest _ hothers

/-- The type is read wherever it stands, and the rest as parameters. -/
theorem setMembers_of_named (htype : Value.named "type" members = [Json.ofOption type?])
    (f : ConditionForm) (hread : Json.anyMembers origin readings = .ok members) :
    setMembers origin false f readings
      = .ok ⟨type?, Json.sortedMembers f.params members.untyped⟩ := by
  induction members generalizing f readings with
  | nil => simp [Value.named] at htype
  | cons entry rest ih =>
    obtain ⟨name, value⟩ := entry
    obtain ⟨r, others, rfl, hvalue, hothers⟩ := Json.anyMembers_cons hread
    by_cases hname : name = "type"
    · subst hname
      obtain ⟨rfl, hnone⟩ : value = Json.ofOption type? ∧ Value.named "type" rest = [] := by
        simpa [Value.named] using htype
      have huntyped := Value.named_eq_nil_iff.1 hnone
      have hskip : Members.untyped (("type", Json.ofOption type?) :: rest) = rest :=
        Json.Members.untyped_of_notMem huntyped
      have hoptional := Json.Decoder.optional_reads_ofOption type? origin r hvalue
      -- No member behind the type has its name, so the rest is read as parameters.
      have hrest := setMembers_eq huntyped true { f with type := type? } hothers
      simp only [setMembers, Json.kept, ok_bind, if_true, hoptional, hskip]
      exact hrest
    · have hlater : Value.named "type" rest = [Json.ofOption type?] := by
        simpa [Value.named, hname] using htype
      have hkeep : Members.untyped ((name, value) :: rest)
          = (name, value) :: Members.untyped rest := by
        simp [Json.Members.untyped, hname]
      simp only [setMembers, Json.kept, ok_bind, if_neg hname, hkeep,
        Json.Decoder.sorted_reads value _ _ hvalue]
      exact ih hlater _ hothers

theorem HasType.reads (htype : HasType members type?) :
    decoder.Reads (.object members) ⟨type?, Json.sortedMembers [] members.untyped⟩ := by
  have hset {origin : Json.Origin} {readings : List (Except Json.SyntaxError String × Reading)}
      (hread : Json.anyMembers origin readings = .ok members) :
      setMembers origin false ⟨none, []⟩ readings
        = .ok ⟨type?, Json.sortedMembers [] members.untyped⟩ := by
    rcases htype with hnamed | ⟨hnone, rfl⟩
    · exact setMembers_of_named hnamed _ hread
    · have huntyped := Value.named_eq_nil_iff.1 hnone
      rw [Json.Members.untyped_of_notMem huntyped]
      exact setMembers_eq huntyped false _ hread
  intro origin r hr
  cases Json.standsFor_of_anyValue hr with
  | object hinner hmembers =>
    simp only [decoder, hinner, ok_bind, hset hmembers, Json.endOf]
    rfl

end

theorem IsProper.reads_untyped {params : Members} (h : IsProper ⟨none, params⟩) :
    decoder.Reads (.object params) ⟨none, params⟩ := by
  have htype : HasType params none := .inr ⟨Value.named_eq_nil_iff.2 h.untyped, rfl⟩
  have hreads := htype.reads
  rwa [Json.Members.untyped_of_notMem h.untyped, Json.sortedMembers_of_isSorted h.sorted]
    at hreads

theorem IsProper.reads_split {type : String} (before : Members) {behind : Members}
    (h : IsProper ⟨some type, before ++ behind⟩) :
    decoder.Reads (.object (before ++ ("type", .string type) :: behind))
      ⟨some type, before ++ behind⟩ := by
  have hnamed := Value.named_eq_nil_iff.2 h.untyped
  have huntyped := Json.Members.untyped_of_notMem h.untyped
  have htype : HasType (before ++ ("type", .string type) :: behind) (some type) := by
    rw [Value.named_append, List.append_eq_nil_iff] at hnamed
    rw [HasType, Value.named_append, Value.named_cons, hnamed.1, hnamed.2]
    exact .inl rfl
  have hskip : Members.untyped (before ++ ("type", .string type) :: behind)
      = Members.untyped (before ++ behind) := by
    simp [Json.Members.untyped]
  have hreads := htype.reads
  rwa [hskip, huntyped, Json.sortedMembers_of_isSorted h.sorted] at hreads

theorem IsProper.reads_members (h : f.IsProper) : decoder.Reads (.object f.members) f := by
  obtain ⟨_ | type, params⟩ := f
  · exact h.reads_untyped
  · obtain ⟨before, behind, rfl, hinsert⟩ :=
      Table.exists_split_insert h.untyped (Json.string type)
    have hmembers : members ⟨some type, before ++ behind⟩
        = before ++ ("type", .string type) :: behind := hinsert
    rw [hmembers]
    exact h.reads_split before

theorem IsProper.reads_toJson (h : f.IsProper) : decoder.Reads f.toJson f := by
  obtain ⟨_ | type, params⟩ := f
  · exact h.reads_untyped
  · exact IsProper.reads_split [] h

end ConditionForm

namespace Condition

/-! ### Parameters by their names -/

theorem listParam_eq (type : String) (params : Members) :
    listParam type params = match params.get? "conditions" with
      | none => .ok []
      | some (.array items) => .ok (ofNestedList type items)
      | some _ => .error (.invalid type "`conditions` must be an array") := by
  induction params with
  | nil => rfl
  | cons entry rest ih =>
    obtain ⟨name, value⟩ := entry
    simp only [Members.get?] at ih ⊢
    rw [Table.lookup_cons]
    by_cases hname : name = "conditions"
    · cases value <;> simp [listParam, hname]
    · cases value <;> simp [listParam, hname, Ne.symm hname, ih]

theorem conditionParam_eq (type : String) (params : Members) :
    conditionParam type params = (params.get? "condition").map (ofNested type) := by
  induction params with
  | nil => rfl
  | cons entry rest ih =>
    obtain ⟨name, value⟩ := entry
    simp only [Members.get?] at ih ⊢
    rw [Table.lookup_cons, conditionParam]
    by_cases hname : name = "condition"
    · simp [hname]
    · simp [hname, Ne.symm hname, ih]

/-- The type among the members is no parameter. -/
theorem ofForm_congr {params others : Members}
    (h : ∀ name, name ≠ "type" → params.get? name = others.get? name) (type? : Option String) :
    ofForm ⟨type?, params⟩ = ofForm ⟨type?, others⟩ := by
  have hlist (type : String) : listParam type params = listParam type others := by
    rw [listParam_eq, listParam_eq, h "conditions" (by decide)]
  have hcondition (type : String) : conditionParam type params = conditionParam type others := by
    rw [conditionParam_eq, conditionParam_eq, h "condition" (by decide)]
  have htext (type : String) {name : String} (hname : name ≠ "type") :
      textParam type params name = textParam type others name := by
    simp only [textParam, Members.string?, h name hname]
  have hop (type : String) : opParam type params = opParam type others := by
    simp only [opParam, Members.string?, h "op" (by decide)]
  have hplain (type : String) : ofPlain type params = ofPlain type others := by
    simp only [ofPlain, ofConstantParams, ofVariablesParams, hop, htext, ne_eq,
      not_false_eq_true, String.reduceEq, Members.string?, h]
  simp only [ofForm, hlist, hcondition, hplain]

theorem ofNestedList_eq_map (type : String) (forms : List Json) :
    ofNestedList type forms = forms.map (ofNested type) := by
  induction forms with
  | nil => rfl
  | cons form rest ih => rw [ofNestedList, ih, List.map_cons]

theorem ofForm_of_and (f : ConditionForm) {items : List Json} (htype : typeOf f.type = "and")
    (hitems : f.params.get? "conditions" = some (.array items)) :
    ofForm f = .all (ofNestedList "and" items) := by
  simp only [ofForm, htype, if_true, listParam_eq, hitems]

theorem ofForm_of_or (f : ConditionForm) {items : List Json} (htype : typeOf f.type = "or")
    (hitems : f.params.get? "conditions" = some (.array items)) :
    ofForm f = .any (ofNestedList "or" items) := by
  have hand : "or" ≠ "and" := by decide
  simp only [ofForm, htype, if_neg hand, if_true, listParam_eq, hitems]

theorem ofForm_of_not (f : ConditionForm) {item : Json} (htype : typeOf f.type = "not")
    (hitem : f.params.get? "condition" = some item) :
    ofForm f = .not (ofNested "not" item) := by
  have hand : "not" ≠ "and" := by decide
  have hor : "not" ≠ "or" := by decide
  simp only [ofForm, htype, if_neg hand, if_neg hor, if_true, conditionParam_eq, hitem,
    Option.map_some]

theorem ofNested_object {members : Members} {type? : Option String}
    (htype : nestedType members = .ok type?) (parent : String) :
    ofNested parent (.object members) = ofForm ⟨type?, members⟩ := by
  rw [ofNested]
  simp only [htype]
  rfl

theorem nestedType_members {f : ConditionForm} (h : f.IsProper) :
    nestedType f.members = .ok f.type := by
  obtain ⟨type?, params⟩ := f
  cases type? with
  | none =>
    have hnone : List.lookup "type" params = none := Table.lookup_eq_none_iff.2 h.untyped
    simp only [nestedType, ConditionForm.members, Members.get?, hnone]
  | some type =>
    have hsome : List.lookup "type" (params.insert "type" (.string type))
        = some (.string type) := by
      rw [Members.insert, Table.lookup_insert, if_pos rfl]
    simp only [nestedType, ConditionForm.members, Members.get?, hsome]
    rfl

/-- A proper form describes inside another one what it describes alone. -/
theorem ofNested_members {f : ConditionForm} (h : f.IsProper) (parent : String) :
    ofNested parent (.object f.members) = ofForm f := by
  rw [ofNested_object (nestedType_members h)]
  refine ofForm_congr (fun name hname => ?_) f.type
  obtain ⟨type?, params⟩ := f
  cases type? with
  | none => rfl
  | some type =>
    simp only [ConditionForm.members, Members.get?, Members.insert]
    rw [Table.lookup_insert, if_neg hname]

end Condition

end ActionGraph
