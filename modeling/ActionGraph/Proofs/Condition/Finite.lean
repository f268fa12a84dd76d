import ActionGraph.Proofs.Condition.RoundTrip
import ActionGraph.Proofs.Float
import ActionGraph.Proofs.Json.Validity

/-!
# Constants that are read

The numbers of a valid value are finite, so what is read of it as a value or as the constant of a
condition is finite too, at every depth of the condition.
-/

namespace ActionGraph

open Json (Members MembersValid ItemsValid membersValid_iff)

namespace Value

/-! ### Values -/

variable {form : Json} {v : Value}

theorem isFinite_of_ofContent? {type : ValueType} (hvalid : form.IsValid)
    (h : ofContent? type form = some v) : v.isFinite = true := by
  unfold ofContent? at h
  split at h
  case h_3 i =>
    cases h
    exact Magnitude.isFinite_ofInt hvalid.1 hvalid.2
  case h_4 x =>
    cases h
    exact hvalid
  all_goals grind [isFinite]

theorem isValid_of_named {name : String} {members : Members} (hvalid : MembersValid members)
    (h : form ∈ named name members) : form.IsValid := by
  obtain ⟨entry, hentry, rfl⟩ := List.mem_map.1 h
  exact membersValid_iff.1 hvalid entry (List.mem_filter.1 hentry).1

theorem isFinite_of_ofTagged? (hvalid : form.IsValid) (h : ofTagged? form = some v) :
    v.isFinite = true := by
  unfold ofTagged? at h
  split at h
  · rename_i members
    split at h
    · rename_i tag content htag hcontent
      have hmem : content ∈ named "value" members := hcontent ▸ List.mem_singleton_self content
      obtain ⟨type, -, h⟩ := Option.bind_eq_some_iff.1 h
      exact isFinite_of_ofContent? (isValid_of_named hvalid hmem) h
    · obtain ⟨type, -, h⟩ := Option.bind_eq_some_iff.1 h
      cases type <;> cases h
      rfl
    · exact nomatch h
  · rename_i tag content
    obtain ⟨type, -, h⟩ := Option.bind_eq_some_iff.1 h
    exact isFinite_of_ofContent? hvalid.2.1 h
  · exact nomatch h

theorem isFinite_of_ofLiteral (hvalid : form.IsValid) (h : ofLiteral form = .ok v) :
    v.isFinite = true := by
  unfold ofLiteral at h
  split at h
  case h_3 x =>
    cases h
    exact hvalid
  all_goals grind [isFinite]

theorem isFinite_of_ofJson (hvalid : form.IsValid) (h : ofJson form = .ok v) :
    v.isFinite = true := by
  unfold ofJson at h
  split at h
  · rename_i tagged htagged
    cases h
    exact isFinite_of_ofTagged? hvalid htagged
  · exact isFinite_of_ofLiteral hvalid h

theorem decoder_yields : decoder.Yields fun v => v.isFinite = true := by
  intro form hvalid v h
  rw [Json.decodeValue, decoder, Json.anyValue_ofJson, ok_bind] at h
  exact isFinite_of_ofJson hvalid h

end Value

namespace Condition

/-! ### Conditions -/

theorem hasFiniteConstants_of_eq_nil {c : Condition} (h : c.constants = []) :
    c.HasFiniteConstants := by
  intro x hx
  rw [h] at hx
  exact nomatch hx

theorem mem_constantsAll {conditions : List Condition} {v : Value} :
    v ∈ constantsAll conditions ↔ ∃ c ∈ conditions, v ∈ c.constants := by
  induction conditions with
  | nil => simp [constantsAll]
  | cons c rest ih => simp [constantsAll, ih]

theorem hasFiniteConstants_all {conditions : List Condition}
    (h : ∀ c ∈ conditions, c.HasFiniteConstants) : (all conditions).HasFiniteConstants := by
  intro x hx
  rw [constants, mem_constantsAll] at hx
  obtain ⟨c, hc, hx⟩ := hx
  exact h c hc x hx

theorem hasFiniteConstants_any {conditions : List Condition}
    (h : ∀ c ∈ conditions, c.HasFiniteConstants) : (any conditions).HasFiniteConstants := by
  intro x hx
  rw [constants, mem_constantsAll] at hx
  obtain ⟨c, hc, hx⟩ := hx
  exact h c hc x hx

theorem constants_of_textParam {type : String} {params : Members} {name : String} {c : Condition}
    (h : textParam type params name = .error c) : c.constants = [] := by
  unfold textParam at h
  split at h <;> cases h
  rfl

theorem constants_of_opParam {type : String} {params : Members} {c : Condition}
    (h : opParam type params = .error c) : c.constants = [] := by
  simp only [opParam] at h
  split at h <;> cases h
  rfl

theorem ofConstantParams_hasFiniteConstants (type : String) {params : Members}
    (hvalid : MembersValid params) :
    (orInvalid (ofConstantParams type params)).HasFiniteConstants := by
  unfold ofConstantParams
  cases hvar : textParam type params "var" with
  | error c => exact hasFiniteConstants_of_eq_nil (constants_of_textParam hvar)
  | ok var =>
    cases hop : opParam type params with
    | error c => exact hasFiniteConstants_of_eq_nil (constants_of_opParam hop)
    | ok op =>
      simp only [ok_bind]
      cases hform : params.get? "value" with
      | none => exact hasFiniteConstants_of_eq_nil rfl
      | some form =>
        have hmem : ("value", form) ∈ params := Table.mem_of_lookup hform
        have hformValid : form.IsValid := membersValid_iff.1 hvalid _ hmem
        cases hvalue : Value.ofJson form with
        | error e =>
          simp only [hvalue, orInvalid]
          exact hasFiniteConstants_of_eq_nil rfl
        | ok value =>
          have hfinite := Value.isFinite_of_ofJson hformValid hvalue
          simp only [hvalue, orInvalid]
          simpa [hasFiniteConstants_iff, constants] using hfinite

theorem ofVariablesParams_hasFiniteConstants (type : String) (params : Members) :
    (orInvalid (ofVariablesParams type params)).HasFiniteConstants := by
  refine hasFiniteConstants_of_eq_nil ?_
  unfold ofVariablesParams
  cases hleft : textParam type params "left" with
  | error c => exact constants_of_textParam hleft
  | ok left =>
    cases hright : textParam type params "right" with
    | error c => exact constants_of_textParam hright
    | ok right =>
      cases hop : opParam type params with
      | error c => exact constants_of_opParam hop
      | ok op => rfl

theorem ofPlain_hasFiniteConstants (type : String) {params : Members}
    (hvalid : MembersValid params) : (orInvalid (ofPlain type params)).HasFiniteConstants := by
  have hscript :
      (orInvalid ((textParam type params "expression").map .script)).HasFiniteConstants := by
    refine hasFiniteConstants_of_eq_nil ?_
    cases hexpression : textParam type params "expression" with
    | error c => exact constants_of_textParam hexpression
    | ok expression => rfl
  unfold ofPlain
  split
  case h_4 => exact ofConstantParams_hasFiniteConstants _ hvalid
  case h_5 => exact ofVariablesParams_hasFiniteConstants _ params
  case h_6 | h_7 => exact hscript
  all_goals exact hasFiniteConstants_of_eq_nil rfl

theorem constants_of_listParam {type : String} {params : Members} {c : Condition}
    (h : listParam type params = .error c) : c.constants = [] := by
  rw [listParam_eq] at h
  split at h <;> cases h
  rfl

variable {f : ConditionForm}

/-- A form describes a condition with finite constants if the conditions inside it are such. -/
theorem ofForm_hasFiniteConstants_of (hvalid : MembersValid f.params)
    (hlist : ∀ type conditions, listParam type f.params = .ok conditions →
      ∀ c ∈ conditions, c.HasFiniteConstants)
    (hcondition : ∀ type c, conditionParam type f.params = some c → c.HasFiniteConstants) :
    (ofForm f).HasFiniteConstants := by
  simp only [ofForm]
  split
  · cases hconditions : listParam (typeOf f.type) f.params with
    | error c => exact hasFiniteConstants_of_eq_nil (constants_of_listParam hconditions)
    | ok conditions => exact hasFiniteConstants_all (hlist _ conditions hconditions)
  split
  · cases hconditions : listParam (typeOf f.type) f.params with
    | error c => exact hasFiniteConstants_of_eq_nil (constants_of_listParam hconditions)
    | ok conditions => exact hasFiniteConstants_any (hlist _ conditions hconditions)
  split
  · cases hc : conditionParam (typeOf f.type) f.params with
    | none => exact hasFiniteConstants_of_eq_nil rfl
    | some c => exact hcondition _ c hc
  · exact ofPlain_hasFiniteConstants _ hvalid

mutual

theorem ofNested_hasFiniteConstants (parent : String) : (form : Json) → form.IsValid →
    (ofNested parent form).HasFiniteConstants
  | .object members, hvalid => by
    cases htype : nestedType members with
    | error e =>
      rw [ofNested, htype]
      exact hasFiniteConstants_of_eq_nil rfl
    | ok type? =>
      rw [ofNested_object htype]
      exact ofForm_hasFiniteConstants_of hvalid
        (fun type => listParam_hasFiniteConstants type members hvalid)
        (fun type => conditionParam_hasFiniteConstants type members hvalid)
  | .number (.integer _), _ | .number (.real _), _ | .null, _ | .bool _, _ | .string _, _
  | .array _, _ => hasFiniteConstants_of_eq_nil rfl

theorem ofNestedList_hasFiniteConstants (type : String) : (forms : List Json) →
    ItemsValid forms → ∀ c ∈ ofNestedList type forms, c.HasFiniteConstants
  | [], _ => by simp [ofNestedList]
  | form :: rest, hvalid => by
    rw [ofNestedList]
    exact List.forall_mem_cons.2 ⟨ofNested_hasFiniteConstants type form hvalid.1,
      ofNestedList_hasFiniteConstants type rest hvalid.2⟩

theorem listParam_hasFiniteConstants (type : String) : (members : List (String × Json)) →
    MembersValid members → ∀ conditions, listParam type members = .ok conditions →
      ∀ c ∈ conditions, c.HasFiniteConstants
  | [], _, conditions, h => by
    cases h
    simp
  | (name, .array forms) :: rest, hvalid, conditions, h => by
    rw [listParam] at h
    split at h
    · cases h
      exact ofNestedList_hasFiniteConstants type forms hvalid.1
    · exact listParam_hasFiniteConstants type rest hvalid.2 conditions h
  | (name, .null) :: rest, hvalid, conditions, h
  | (name, .bool _) :: rest, hvalid, conditions, h
  | (name, .number _) :: rest, hvalid, conditions, h
  | (name, .string _) :: rest, hvalid, conditions, h
  | (name, .object _) :: rest, hvalid, conditions, h => by
    rw [listParam] at h
    · split at h
      · exact nomatch h
      · exact listParam_hasFiniteConstants type rest hvalid.2 conditions h
    · exact nofun

theorem conditionParam_hasFiniteConstants (type : String) : (members : List (String × Json)) →
    MembersValid members → ∀ c, conditionParam type members = some c → c.HasFiniteConstants
  | [], _, _, h => nomatch h
  | (name, form) :: rest, hvalid, c, h => by
    rw [conditionParam] at h
    split at h
    · cases h
      exact ofNested_hasFiniteConstants type form hvalid.1
    · exact conditionParam_hasFiniteConstants type rest hvalid.2 c h

end

theorem ofForm_hasFiniteConstants (hvalid : MembersValid f.params) :
    (ofForm f).HasFiniteConstants :=
  ofForm_hasFiniteConstants_of hvalid
    (fun type => listParam_hasFiniteConstants type f.params hvalid)
    (fun type => conditionParam_hasFiniteConstants type f.params hvalid)

end Condition

/-! ### Decoding -/

theorem ConditionForm.setMembers_valid : (members : Members) → MembersValid members →
    ∀ typed f result, MembersValid f.params →
      setMembers .value typed f (Json.Reading.ofMembers members) = .ok result →
        MembersValid result.params
  | [], _, _, _, _, hf, h => by
    cases h
    exact hf
  | (name, value) :: rest, hvalid, typed, f, result, hf, h => by
    simp only [Json.Reading.ofMembers, setMembers, Json.kept, ok_bind] at h
    split at h
    · split at h
      · cases h
      · obtain ⟨type, -, h⟩ := bind_eq_ok_iff.1 h
        exact setMembers_valid rest hvalid.2 true { f with type := type } result hf h
    · simp only [Json.Decoder.sorted, Json.anyValue_ofJson] at h
      have hinsert := Json.membersValid_insert hf name (Json.isValid_sorted value hvalid.1)
      exact setMembers_valid rest hvalid.2 typed _ result hinsert h

theorem ConditionForm.decoder_yields : decoder.Yields fun f => MembersValid f.params := by
  intro value hvalid f h
  cases value with
  | object members =>
    simp only [Json.decodeValue, Json.Reading.ofJson, decoder, Json.Origin.enter, Json.endOf,
      ok_bind, bind_eq_ok_iff] at h
    obtain ⟨result, hresult, h⟩ := h
    cases h
    exact setMembers_valid members hvalid false ⟨none, []⟩ f trivial hresult
  | number n => cases n <;> cases h
  | null | bool | string | array => cases h

theorem Condition.decoder_yields : decoder.Yields HasFiniteConstants := by
  intro value hvalid c h
  rw [Json.decodeValue, decoder] at h
  cases hf : ConditionForm.decoder .value (Json.Reading.ofJson value) with
  | error e =>
    rw [hf] at h
    cases h
  | ok f =>
    rw [hf] at h
    cases h
    exact ofForm_hasFiniteConstants (ConditionForm.decoder_yields value hvalid f hf)

end ActionGraph
