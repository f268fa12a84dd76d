import ActionGraph.Proofs.Condition.Form

/-!
# The grammar of conditions

Which objects describe a condition, and which become an invalid one. The grammar is read off the
type of an object, blanks aside, and its parameters; of a parameter that is repeated the last one
counts. An object that is not in the grammar becomes an invalid condition, with one exception. Where
the operator of a comparison is there but is no text, it is passed over, and the comparison is read
as one for equality.
-/

namespace ActionGraph

open Json (Members Reading)

/-! ### What counts among members -/

namespace Json.Members

variable {members : Members} {name : String}

/-- The value that counts for a name. -/
def last? (members : Members) (name : String) : Option Json :=
  (Value.named name members).getLast?.map Json.sorted

theorem last?_cons (other : String) (value : Json) (rest : Members) (name : String) :
    last? ((other, value) :: rest) name
      = (rest.last? name).or (if name = other then some value.sorted else none) := by
  rw [last?, last?, Value.named_cons]
  by_cases hname : name = other
  · rw [if_pos hname.symm, if_pos hname, List.getLast?_cons]
    cases (Value.named name rest).getLast? <;> rfl
  · rw [if_neg (Ne.symm hname), if_neg hname, Option.or_none]

/-- What is found among sorted members is what counts. -/
theorem get?_sortedMembers (before members : Members) (name : String) :
    (sortedMembers before members).get? name = (members.last? name).or (before.get? name) := by
  induction members generalizing before with
  | nil => rfl
  | cons entry rest ih =>
    obtain ⟨other, value⟩ := entry
    have hinsert : (before.insert other value.sorted).get? name
        = if name = other then some value.sorted else before.get? name :=
      Table.lookup_insert before other name value.sorted
    rw [sortedMembers, ih, hinsert, last?_cons, Option.or_assoc]
    by_cases hname : name = other <;> simp [hname]

theorem last?_untyped (hname : name ≠ "type") (members : Members) :
    members.untyped.last? name = members.last? name := by
  induction members with
  | nil => rfl
  | cons entry rest ih =>
    obtain ⟨other, value⟩ := entry
    have hrest : (untyped rest).last? name = last? rest name := ih
    by_cases hother : other = "type"
    · have hskip : untyped ((other, value) :: rest) = untyped rest := by simp [untyped, hother]
      rw [hskip, hrest, last?_cons, if_neg (hother ▸ hname), Option.or_none]
    · have hkeep : untyped ((other, value) :: rest) = (other, value) :: untyped rest := by
        simp [untyped, hother]
      rw [hkeep, last?_cons, last?_cons, hrest]

end Json.Members

/-! ### Types -/

namespace ConditionForm

theorem HasType.last? {members : Members} {type? : Option String}
    (htype : HasType members type?) :
    Json.Members.last? members "type" = some (Json.ofOption type?) ∨
      Json.Members.last? members "type" = none ∧ type? = none := by
  rcases htype with hnamed | ⟨hnone, rfl⟩
  · refine .inl ?_
    rw [Json.Members.last?, hnamed]
    cases type? <;> rfl
  · refine .inr ⟨?_, rfl⟩
    rw [Json.Members.last?, hnone]
    rfl

end ConditionForm

/-! ### The grammar -/

/-- The operators as they may be written. -/
def Comparison.spellings : List String :=
  ["<", "<=", ">", ">=", "==", "!=", "lt", "le", "gt", "ge", "eq", "ne"]

theorem Comparison.exists_ofText?_iff {s : String} :
    (∃ op, ofText? s = some op) ↔ Text.trim s ∈ spellings := by
  have hspellings : spellings = all.map symbol ++ all.map word := rfl
  rw [← Option.isSome_iff_exists, ofText?, List.find?_isSome, hspellings, List.mem_append,
    List.mem_map, List.mem_map]
  simp only [Bool.or_eq_true, beq_iff_eq, and_or_left, exists_or]

namespace Condition

def IsInvalid : Condition → Prop
  | .invalid _ _ => True
  | _ => False

/-- The rule for an operator: it is absent, or a text that names one. -/
def IsOperator : Option Json → Prop
  | none => True
  | some (.string s) => Text.trim s ∈ Comparison.spellings
  | some _ => False

/-- Something that is there, but is no text. -/
def IsNoText : Option Json → Prop
  | none | some (.string _) => False
  | some _ => True

section

variable (rule : Option Json → Prop) (param : String → Option Json)

/-- The parameter is a text. -/
def IsText (name : String) : Prop := ∃ s, param name = some (.string s)

/-- The parameter is the written form of a value. -/
def IsValue (name : String) : Prop := ∃ form v, param name = some form ∧ Value.ofJson form = .ok v

/-- The parameter is an array if it is there at all. -/
def IsList (name : String) : Prop := ∀ form, param name = some form → ∃ items, form = .array items

/-- The objects of the grammar, by the parameters under their names, a rule for operators, and the
type. -/
def Describes (type : String) : Prop :=
  match type with
  | "" | "true" | "false" => True
  | "and" | "or" => IsList param "conditions"
  | "not" => ∃ form, param "condition" = some form
  | "script" | "script_expression" => IsText param "expression"
  | "var_compare_constant" => IsText param "var" ∧ rule (param "op") ∧ IsValue param "value"
  | "var_compare_variable" => IsText param "left" ∧ IsText param "right" ∧ rule (param "op")
  | _ => False

end

variable {type : String} {params : Members}

theorem textParam_cases (type : String) (params : Members) (name : String) :
    IsText params.get? name ∧ (∃ s, textParam type params name = .ok s) ∨
      ¬IsText params.get? name ∧
        ∃ reason, textParam type params name = .error (.invalid type reason) := by
  rw [textParam, Json.Members.string?, IsText]
  cases hparam : params.get? name with
  | none => exact .inr ⟨by simp, _, rfl⟩
  | some form =>
    cases form with
    | string s => exact .inl ⟨⟨s, rfl⟩, s, rfl⟩
    | _ => exact .inr ⟨by simp, _, rfl⟩

/-- What is taken for the operator of a comparison: one of the grammar, or what is no text. -/
def IsTaken (op? : Option Json) : Prop := IsOperator op? ∨ IsNoText op?

theorem opParam_cases (type : String) (params : Members) :
    IsTaken (params.get? "op") ∧ (∃ op, opParam type params = .ok op) ∨
      ¬IsTaken (params.get? "op") ∧
        ∃ reason, opParam type params = .error (.invalid type reason) := by
  have hequality : Comparison.ofText? "==" = some .eq := by decide
  simp only [opParam, Json.Members.string?]
  cases hparam : params.get? "op" with
  | none => exact .inl ⟨.inl trivial, .eq, by simp [hequality]⟩
  | some form =>
    cases form with
    | string s =>
      simp only [IsTaken, IsOperator, IsNoText, or_false, ← Comparison.exists_ofText?_iff]
      cases hop : Comparison.ofText? s with
      | some op => exact .inl ⟨⟨op, rfl⟩, op, by simp [hop]⟩
      | none => exact .inr ⟨by simp, Comparison.unknownText s, by simp [hop]⟩
    | _ => exact .inl ⟨.inr trivial, .eq, by simp [hequality]⟩

/-- A condition is read where `P` holds, and an invalid one comes of anything else. -/
def Judges (P : Prop) : Except Condition Condition → Prop
  | .ok c => P ∧ ¬c.IsInvalid
  | .error c => ¬P ∧ c.IsInvalid

theorem Judges.iff {P : Prop} {result : Except Condition Condition} (h : Judges P result) :
    ¬(orInvalid result).IsInvalid ↔ P := by
  cases result with
  | ok c => exact iff_of_true h.2 h.1
  | error c => exact iff_of_false (not_not_intro h.2) h.1

theorem judges_constant (type : String) (params : Members) :
    Judges (IsText params.get? "var" ∧ IsTaken (params.get? "op") ∧ IsValue params.get? "value")
      (ofConstantParams type params) := by
  rw [ofConstantParams]
  rcases textParam_cases type params "var" with ⟨hvar, var, htext⟩ | ⟨hvar, reason, htext⟩
  · rcases opParam_cases type params with ⟨hop, op, hread⟩ | ⟨hop, reason, hread⟩
    · rw [htext, ok_bind, hread, ok_bind, IsValue]
      cases hvalue : params.get? "value" with
      | none => exact ⟨by simp, trivial⟩
      | some form =>
        cases hform : Value.ofJson form with
        | ok v =>
          simp only [hform]
          exact ⟨⟨hvar, hop, form, v, rfl, hform⟩, not_false⟩
        | error e =>
          simp only [hform]
          exact ⟨by simp [hform], trivial⟩
    · rw [htext, ok_bind, hread]
      exact ⟨fun hparams => hop hparams.2.1, trivial⟩
  · rw [htext]
    exact ⟨fun hparams => hvar hparams.1, trivial⟩

theorem judges_between (type : String) (params : Members) :
    Judges (IsText params.get? "left" ∧ IsText params.get? "right" ∧ IsTaken (params.get? "op"))
      (ofVariablesParams type params) := by
  rw [ofVariablesParams]
  rcases textParam_cases type params "left" with ⟨hleft, left, htext⟩ | ⟨hleft, reason, htext⟩
  · rcases textParam_cases type params "right" with
      ⟨hright, right, htext'⟩ | ⟨hright, reason, htext'⟩
    · rcases opParam_cases type params with ⟨hop, op, hread⟩ | ⟨hop, reason, hread⟩
      · rw [htext, ok_bind, htext', ok_bind, hread]
        exact ⟨⟨hleft, hright, hop⟩, not_false⟩
      · rw [htext, ok_bind, htext', ok_bind, hread]
        exact ⟨fun hparams => hop hparams.2.2, trivial⟩
    · rw [htext, ok_bind, htext']
      exact ⟨fun hparams => hright hparams.2.1, trivial⟩
  · rw [htext]
    exact ⟨fun hparams => hleft hparams.1, trivial⟩

theorem judges_script (type : String) (params : Members) :
    Judges (IsText params.get? "expression")
      ((textParam type params "expression").map .script) := by
  rcases textParam_cases type params "expression" with ⟨htext, s, hread⟩ | ⟨htext, reason, hread⟩
  · rw [hread]
    exact ⟨htext, not_false⟩
  · rw [hread]
    exact ⟨htext, trivial⟩

theorem listParam_cases (type : String) (params : Members) :
    IsList params.get? "conditions" ∧ (∃ conditions, listParam type params = .ok conditions) ∨
      ¬IsList params.get? "conditions" ∧
        ∃ reason, listParam type params = .error (.invalid type reason) := by
  rw [listParam_eq, IsList]
  cases hparam : params.get? "conditions" with
  | none => exact .inl ⟨by simp, _, rfl⟩
  | some form =>
    cases form with
    | array items => exact .inl ⟨by simp, _, rfl⟩
    | _ => exact .inr ⟨by simp, _, rfl⟩

theorem judges_plain (hand : type ≠ "and") (hor : type ≠ "or") (hnot : type ≠ "not")
    (params : Members) : Judges (Describes IsTaken params.get? type) (ofPlain type params) := by
  unfold ofPlain
  split
  · exact ⟨trivial, not_false⟩
  · exact ⟨trivial, not_false⟩
  · exact ⟨trivial, not_false⟩
  · exact judges_constant _ params
  · exact judges_between _ params
  · exact judges_script _ params
  · exact judges_script _ params
  · exact ⟨not_false, trivial⟩
  · refine ⟨?_, trivial⟩
    rw [Describes]
    · exact not_false
    all_goals assumption

/-- An object that describes a condition by its type and parameters is read as one, and any other
becomes an invalid condition. -/
theorem not_isInvalid_iff (type? : Option String) (params : Members) :
    ¬(ofForm ⟨type?, params⟩).IsInvalid ↔ Describes IsTaken params.get? (typeOf type?) := by
  rw [ofForm]
  generalize typeOf type? = type
  by_cases hlist : type = "and" ∨ type = "or"
  · rcases listParam_cases type params with ⟨hitems, conditions, hread⟩ | ⟨hitems, reason, hread⟩
    · simp only [hread]
      rcases hlist with rfl | rfl <;> exact iff_of_true not_false hitems
    · simp only [hread]
      rcases hlist with rfl | rfl <;> exact iff_of_false (not_not_intro trivial) hitems
  · have hand : type ≠ "and" := fun hand => hlist (.inl hand)
    have hor : type ≠ "or" := fun hor => hlist (.inr hor)
    by_cases hnot : type = "not"
    · subst hnot
      simp only [conditionParam_eq]
      cases hcondition : params.get? "condition" with
      | none => exact iff_of_false (not_not_intro trivial) (by simp [Describes, hcondition])
      | some form => exact iff_of_true not_false ⟨form, hcondition⟩
    · simp only [if_neg hand, if_neg hor, if_neg hnot]
      exact (judges_plain hand hor hnot params).iff

/-- The reader takes what the grammar has, and the comparisons whose operator is no text. -/
theorem describes_isTaken_iff (param : String → Option Json) (type : String) :
    Describes IsTaken param type ↔ Describes IsOperator param type ∨
      IsNoText (param "op") ∧ Describes (fun _ => True) param type := by
  unfold Describes
  split
  -- Only comparisons look at the rule.
  case h_9 | h_10 => grind [IsTaken]
  all_goals exact (or_iff_left_of_imp And.right).symm

/-- **An object is read as a condition if and only if it is in the grammar, or a comparison whose
operator is there but no text.** The operator is passed over then. So it is with an object by
itself, as text or as a finished value, and with one inside another condition. -/
theorem described_iff {members : Members} {type? : Option String}
    (htype : ConditionForm.HasType members type?) :
    ∃ c, decoder.Reads (.object members) c ∧
      (∀ parent, ofNested parent (Json.object members).sorted = c) ∧
      (¬c.IsInvalid ↔ Describes IsOperator members.last? (typeOf type?) ∨
        IsNoText (members.last? "op") ∧
          Describes (fun _ => True) members.last? (typeOf type?)) := by
  have hlast : (Json.sortedMembers [] members).get? = members.last? := by
    funext name
    rw [Json.Members.get?_sortedMembers]
    exact Option.or_none
  have hparams : ofForm ⟨type?, Json.sortedMembers [] members.untyped⟩
      = ofForm ⟨type?, Json.sortedMembers [] members⟩ := by
    refine ofForm_congr (fun name hname => ?_) type?
    rw [Json.Members.get?_sortedMembers, Json.Members.get?_sortedMembers,
      Json.Members.last?_untyped hname]
  refine ⟨ofForm ⟨type?, Json.sortedMembers [] members⟩, ?_, ?_, ?_⟩
  · intro origin r hread
    rw [decoder, htype.reads origin r hread, ← hparams]
    rfl
  · intro parent
    have hnested : nestedType (Json.sortedMembers [] members) = .ok type? := by
      rcases htype.last? with hlast? | ⟨hlast?, rfl⟩
      · simp only [nestedType, hlast, hlast?]
        exact Json.Decoder.optional_reads_ofOption type? _ _ (Json.anyValue_ofJson _)
      · simp only [nestedType, hlast, hlast?]
    rw [Json.sorted]
    exact ofNested_object hnested parent
  · rw [not_isInvalid_iff, describes_isTaken_iff, hlast]

/-- The members of a comparison of a variable with ten, with this operator. -/
def comparison (op : Json) : Members :=
  [("type", .string "var_compare_constant"), ("var", .string "gold"), ("op", op),
    ("value", .ofInt 10)]

theorem described_iff_of_comparison :
    ConditionForm.HasType (comparison (.string "<")) (some "var_compare_constant") ∧
      ∃ c, decoder.Reads (.object (comparison (.string "<"))) c ∧ ¬c.IsInvalid := by
  have htype : ConditionForm.HasType (comparison (.string "<")) (some "var_compare_constant") :=
    .inl rfl
  have hop : Text.trim "<" ∈ Comparison.spellings := by decide
  obtain ⟨c, hreads, -, hiff⟩ := described_iff htype
  exact ⟨htype, c, hreads, hiff.2 (.inl ⟨⟨"gold", rfl⟩, hop, .ofInt 10, .int 10, rfl, rfl⟩)⟩

/-- An operator in an array is none of the grammar, but the comparison is read as one for
equality. -/
theorem comparison_is_read_without_operator :
    let members := comparison (.array [.string "<"])
    ConditionForm.HasType members (some "var_compare_constant") ∧
      ¬Describes IsOperator members.last? (typeOf (some "var_compare_constant")) ∧
      Json.decodeValue decoder (.object members) = .ok (.constant "gold" .eq (.int 10)) :=
  ⟨.inl rfl, fun hdescribes => hdescribes.2.1, rfl⟩

end Condition

end ActionGraph
