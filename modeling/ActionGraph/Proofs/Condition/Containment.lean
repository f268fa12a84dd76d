import ActionGraph.Proofs.Asset.Loading
import ActionGraph.Proofs.Condition.Grammar
import ActionGraph.Proofs.Json.Validity

/-!
# Faults are contained

A value is refused as a condition only for what it is at the top: it has to be an object, and its
type, if it has one, a text or null. Whatever is wrong with a form inside it stays in the place of
that form. There the form is read as it is read alone, and if it is refused alone, an invalid
condition stands in its place under the type of the condition around it. So the condition that is
read has the shape of the value, place by place, at every depth.

The reader works on members that are sorted, as they are in a finished value, so that no name stands
twice and the parts of a finished value are finished themselves.
-/

namespace ActionGraph

open Json (DecodeError Members Reading)

/-! ### Finished values -/

namespace Json

theorem sorted_of_mem_array {items : List Json} (h : (Json.array items).sorted = .array items)
    {item : Json} (hitem : item ∈ items) : item.sorted = item := by
  rw [sorted, sortedItems_eq_map, Json.array.injEq] at h
  obtain ⟨i, hi, rfl⟩ := List.getElem_of_mem hitem
  have hsame := congrArg (·[i]?) h
  simpa [List.getElem?_eq_getElem hi] using hsame

theorem isSorted_of_sorted_object {members : Members}
    (h : (Json.object members).sorted = .object members) : members.IsSorted := by
  rw [sorted, Json.object.injEq] at h
  rw [← h]
  exact isSorted_sortedMembers [] members .nil

theorem Members.IsSorted.sorted_of_get? {members : Members} (h : members.IsSorted) {name : String}
    {value : Json} (hvalue : members.get? name = some value) : value.sorted = value :=
  h.values (name, value) (Table.mem_of_lookup hvalue)

theorem Members.IsSorted.nodup {members : Members} (h : members.IsSorted) :
    (members.map Prod.fst).Nodup := by
  have hordered : (members.map Prod.fst).Pairwise (· < ·) := List.pairwise_map.2 h.names
  apply hordered.imp
  intro name other hlt hsame
  subst hsame
  exact String.lt_irrefl name hlt

end Json

/-! ### The type of a form -/

namespace ConditionForm

/-- Where no name stands twice, a name stands for the one value that is found under it. -/
theorem named_eq {members : Members} (h : (members.map Prod.fst).Nodup) (name : String) :
    Value.named name members = (members.get? name).toList := by
  induction members with
  | nil => rfl
  | cons entry rest ih =>
    obtain ⟨other, value⟩ := entry
    obtain ⟨hother, hrest⟩ := List.nodup_cons.1 h
    have hget : Members.get? ((other, value) :: rest) name
        = if name = other then some value else Members.get? rest name := Table.lookup_cons _
    rw [Value.named_cons, hget]
    by_cases hname : other = name
    · subst hname
      rw [if_pos rfl, if_pos rfl, Value.named_eq_nil_iff.2 hother]
      rfl
    · rw [if_neg hname, if_neg (Ne.symm hname), ih hrest]

/-- A type that is neither null nor a text is refused in whatever place it stands. -/
theorem setMembers_error {members : Members} {type : Json} {e : DecodeError}
    (htype : Value.named "type" members = [type])
    (hrefused : Json.Decoder.optional Json.Decoder.string .value (Reading.ofJson type) = .error e)
    (f : ConditionForm) :
    setMembers .value false f (Reading.ofMembers members) = .error e := by
  induction members generalizing f with
  | nil => simp [Value.named] at htype
  | cons entry rest ih =>
    obtain ⟨name, value⟩ := entry
    by_cases hname : name = "type"
    · subst hname
      obtain ⟨rfl, -⟩ : value = type ∧ Value.named "type" rest = [] := by
        simpa [Value.named] using htype
      simp only [Reading.ofMembers, setMembers, Json.kept, ok_bind, if_true, hrefused]
      rfl
    · -- a parameter is any value, and reading it never fails
      have hlater : Value.named "type" rest = [type] := by
        simpa [Value.named, hname] using htype
      simp only [Reading.ofMembers, setMembers, Json.kept, ok_bind, if_neg hname,
        Json.Decoder.sorted_reads value _ _ (Json.anyValue_ofJson value)]
      exact ih hlater _

end ConditionForm

namespace Condition

/-- What stands in the place of a form inside another one, by what comes of it alone. -/
def contained (parent : String) : Except DecodeError Condition → Condition
  | .ok c => c
  | .error e => badNested parent e

/-- What comes of a value alone. -/
def alone (value : Json) : Except DecodeError Condition := Json.decodeValue decoder value

theorem exists_type_iff (type : Json) :
    (∃ s?, Json.Decoder.optional Json.Decoder.string .value (Reading.ofJson type) = .ok s?)
      ↔ type = .null ∨ ∃ s, type = .string s := by
  cases type with
  | null => exact iff_of_true ⟨none, rfl⟩ (.inl rfl)
  | string s => exact iff_of_true ⟨some s, rfl⟩ (.inr ⟨s, rfl⟩)
  | number n => cases n <;> exact iff_of_false (fun ⟨_, h⟩ => nomatch h) (by simp)
  | bool | array | object => exact iff_of_false (fun ⟨_, h⟩ => nomatch h) (by simp)

theorem hasType_of_nestedType {members : Members} (hsorted : members.IsSorted)
    {type? : Option String} (htype : nestedType members = .ok type?) :
    ConditionForm.HasType members type? := by
  rw [ConditionForm.HasType, ConditionForm.named_eq hsorted.nodup]
  rw [nestedType] at htype
  cases hget : members.get? "type" with
  | none =>
    rw [hget] at htype
    cases htype
    exact .inr ⟨rfl, rfl⟩
  | some type =>
    rw [hget] at htype
    obtain rfl | ⟨s, rfl⟩ := (exists_type_iff type).1 ⟨type?, htype⟩
    · cases htype
      exact .inl rfl
    · cases htype
      exact .inl rfl

theorem alone_of_nestedType {members : Members} (hsorted : members.IsSorted) {type? : Option String}
    (htype : nestedType members = .ok type?) :
    alone (.object members) = .ok (ofForm ⟨type?, members⟩) := by
  have hnamed := hasType_of_nestedType hsorted htype
  have hform : ConditionForm.decoder .value (Reading.ofJson (.object members)) = _ :=
    hnamed.reads.decodeValue
  have hparams : ofForm ⟨type?, Json.sortedMembers [] members.untyped⟩
      = ofForm ⟨type?, members⟩ := by
    refine ofForm_congr (fun name hname => ?_) type?
    have hfound := Json.Members.get?_sortedMembers [] members name
    rw [Json.sortedMembers_of_isSorted hsorted] at hfound
    rw [Json.Members.get?_sortedMembers, Json.Members.last?_untyped hname, hfound]
  rw [alone, Json.decodeValue, decoder, hform, ← hparams]
  rfl

theorem alone_of_refused {members : Members} (hsorted : members.IsSorted) {e : DecodeError}
    (htype : nestedType members = .error e) : alone (.object members) = .error e := by
  obtain ⟨type, hget, hrefused⟩ : ∃ type, members.get? "type" = some type ∧
      Json.Decoder.optional Json.Decoder.string .value (Reading.ofJson type) = .error e := by
    rw [nestedType] at htype
    cases hget : members.get? "type" with
    | none =>
      rw [hget] at htype
      cases htype
    | some type =>
      rw [hget] at htype
      exact ⟨type, rfl, htype⟩
  have hnamed : Value.named "type" members = [type] := by
    rw [ConditionForm.named_eq hsorted.nodup, hget]
    rfl
  rw [alone, Json.decodeValue, decoder, Reading.ofJson, ConditionForm.decoder]
  simp only [Json.Origin.enter, ok_bind, ConditionForm.setMembers_error hnamed hrefused]
  rfl

/-- A form is read in its place as it is read alone, or contained there. -/
theorem ofNested_eq_contained {value : Json} (hsorted : value.sorted = value) (parent : String) :
    ofNested parent value = contained parent (alone value) := by
  cases value with
  | object members =>
    have hmembers := Json.isSorted_of_sorted_object hsorted
    cases htype : nestedType members with
    | ok type? => rw [ofNested_object htype, alone_of_nestedType hmembers htype, contained]
    | error e =>
      rw [alone_of_refused hmembers htype, contained, ofNested]
      simp only [htype]
  | number n => cases n <;> rfl
  | null | bool | string | array => rfl

/-! ### Which values are refused -/

/-- Whether a value is an object whose type, if it has one, is a text or null. -/
def IsForm : Json → Prop
  | .object members => ∀ type, Members.get? members "type" = some type →
    type = .null ∨ ∃ s, type = .string s
  | _ => False

theorem isForm_object_iff {members : Members} :
    IsForm (.object members) ↔ ∃ type?, nestedType members = .ok type? := by
  rw [IsForm, nestedType]
  cases hget : Members.get? members "type" with
  | none => simp
  | some type =>
    rw [exists_type_iff]
    simp

theorem alone_eq_error_iff {value : Json} (hsorted : value.sorted = value) :
    (∃ e, alone value = .error e) ↔ ¬IsForm value := by
  cases value with
  | object members =>
    have hmembers := Json.isSorted_of_sorted_object hsorted
    rw [isForm_object_iff]
    cases htype : nestedType members with
    | ok type? => simp [alone_of_nestedType hmembers htype]
    | error e => simp [alone_of_refused hmembers htype]
  | number n => cases n <;> exact iff_of_true ⟨_, rfl⟩ id
  | null | bool | string | array => exact iff_of_true ⟨_, rfl⟩ id

/-! ### Forms inside forms -/

/-- The type of a form, blanks aside. What is no form has none. -/
def kind : Json → String
  | .object members =>
    match nestedType members with
    | .ok type? => typeOf type?
    | .error _ => ""
  | _ => ""

/-- The forms that a form of this type has inside it. -/
def formsOf (type : String) (members : Members) : List Json :=
  if type = "and" ∨ type = "or" then
    match members.get? "conditions" with
    | some (.array items) => items
    | _ => []
  else if type = "not" then (members.get? "condition").toList
  else []

/-- The forms directly inside a form, in order. -/
def nestedForms : Json → List Json
  | .object members => formsOf (kind (.object members)) members
  | _ => []

/-- The conditions directly inside a condition, in order. -/
def parts : Condition → List Condition
  | .all conditions | .any conditions => conditions
  | .not condition => [condition]
  | _ => []

/-! A description that is not made of others has no parts, whether it is understood or not. -/

theorem parts_of_textParam {type name : String} {params : Members} {c : Condition}
    (h : textParam type params name = .error c) : parts c = [] := by
  rcases textParam_cases type params name with ⟨-, s, htext⟩ | ⟨-, reason, htext⟩
  · rw [htext] at h
    exact nomatch h
  · rw [htext] at h
    cases h
    rfl

theorem parts_of_opParam {type : String} {params : Members} {c : Condition}
    (h : opParam type params = .error c) : parts c = [] := by
  rcases opParam_cases type params with ⟨-, op, hop⟩ | ⟨-, reason, hop⟩
  · rw [hop] at h
    exact nomatch h
  · rw [hop] at h
    cases h
    rfl

theorem parts_bind {α : Type} {x : Except Condition α} {f : α → Except Condition Condition}
    (herror : ∀ c, x = .error c → parts c = []) (hok : ∀ a, parts (orInvalid (f a)) = []) :
    parts (orInvalid (x >>= f)) = [] := by
  cases x with
  | ok a => exact hok a
  | error c => exact herror c rfl

theorem parts_ofConstantParams (type : String) (params : Members) :
    parts (orInvalid (ofConstantParams type params)) = [] := by
  apply parts_bind fun c => parts_of_textParam
  intro var
  apply parts_bind fun c => parts_of_opParam
  intro op
  cases params.get? "value" with
  | none => rfl
  | some form =>
    cases hvalue : Value.ofJson form <;> simp only [hvalue] <;> rfl

theorem parts_ofVariablesParams (type : String) (params : Members) :
    parts (orInvalid (ofVariablesParams type params)) = [] := by
  apply parts_bind fun c => parts_of_textParam
  intro left
  apply parts_bind fun c => parts_of_textParam
  intro right
  apply parts_bind fun c => parts_of_opParam
  intro op
  rfl

theorem parts_ofPlain (type : String) (params : Members) :
    parts (orInvalid (ofPlain type params)) = [] := by
  have hscript :
      parts (orInvalid ((textParam type params "expression").map .script)) = [] := by
    cases htext : textParam type params "expression" with
    | ok expression => rfl
    | error c => exact parts_of_textParam htext
  unfold ofPlain
  split
  case h_4 => exact parts_ofConstantParams _ params
  case h_5 => exact parts_ofVariablesParams _ params
  case h_6 | h_7 => exact hscript
  all_goals rfl

theorem parts_ofForm (type? : Option String) (members : Members) :
    parts (ofForm ⟨type?, members⟩)
      = (formsOf (typeOf type?) members).map (ofNested (typeOf type?)) := by
  rw [ofForm, formsOf]
  generalize typeOf type? = type
  by_cases hlist : type = "and" ∨ type = "or"
  · simp only [if_pos hlist, listParam_eq]
    cases members.get? "conditions" with
    | none => rcases hlist with rfl | rfl <;> rfl
    | some form =>
      cases form with
      | array items => rcases hlist with rfl | rfl <;> exact ofNestedList_eq_map _ items
      | _ => rcases hlist with rfl | rfl <;> rfl
  · have hand : type ≠ "and" := fun hand => hlist (.inl hand)
    have hor : type ≠ "or" := fun hor => hlist (.inr hor)
    simp only [if_neg hlist, if_neg hand, if_neg hor]
    by_cases hnot : type = "not"
    · simp only [if_pos hnot, conditionParam_eq]
      cases members.get? "condition" <;> rfl
    · simp only [if_neg hnot]
      exact parts_ofPlain type members

section

variable {members : Members} {type : String}

theorem alone_of_string (hsorted : (Json.object members).sorted = .object members)
    (htype : members.get? "type" = some (.string type)) :
    alone (.object members) = .ok (ofForm ⟨some type, members⟩) := by
  apply alone_of_nestedType (Json.isSorted_of_sorted_object hsorted)
  rw [nestedType, htype]
  rfl

theorem ofNestedList_eq_contained (hsorted : (Json.object members).sorted = .object members)
    {items : List Json} (hitems : members.get? "conditions" = some (.array items))
    (parent : String) :
    ofNestedList parent items = items.map fun item => contained parent (alone item) := by
  rw [ofNestedList_eq_map]
  refine List.map_congr_left fun item hitem => ?_
  have hmembers := Json.isSorted_of_sorted_object hsorted
  exact ofNested_eq_contained
    (Json.sorted_of_mem_array (hmembers.sorted_of_get? hitems) hitem) parent

theorem alone_and (hsorted : (Json.object members).sorted = .object members)
    (htype : members.get? "type" = some (.string type)) (hand : Text.trim type = "and")
    {items : List Json} (hitems : members.get? "conditions" = some (.array items)) :
    alone (.object members)
      = .ok (.all (items.map fun item => contained "and" (alone item))) := by
  have htypeOf : typeOf (some type) = "and" := by rw [typeOf, Option.getD_some, hand]
  rw [alone_of_string hsorted htype, ofForm_of_and ⟨some type, members⟩ htypeOf hitems,
    ofNestedList_eq_contained hsorted hitems]

theorem alone_or (hsorted : (Json.object members).sorted = .object members)
    (htype : members.get? "type" = some (.string type)) (hor : Text.trim type = "or")
    {items : List Json} (hitems : members.get? "conditions" = some (.array items)) :
    alone (.object members)
      = .ok (.any (items.map fun item => contained "or" (alone item))) := by
  have htypeOf : typeOf (some type) = "or" := by rw [typeOf, Option.getD_some, hor]
  rw [alone_of_string hsorted htype, ofForm_of_or ⟨some type, members⟩ htypeOf hitems,
    ofNestedList_eq_contained hsorted hitems]

theorem alone_not (hsorted : (Json.object members).sorted = .object members)
    (htype : members.get? "type" = some (.string type)) (hnot : Text.trim type = "not")
    {item : Json} (hitem : members.get? "condition" = some item) :
    alone (.object members) = .ok (.not (contained "not" (alone item))) := by
  have htypeOf : typeOf (some type) = "not" := by rw [typeOf, Option.getD_some, hnot]
  have hmembers := Json.isSorted_of_sorted_object hsorted
  rw [alone_of_string hsorted htype, ofForm_of_not ⟨some type, members⟩ htypeOf hitem,
    ofNested_eq_contained (hmembers.sorted_of_get? hitem)]

end

/-! ### Places -/

theorem sorted_of_mem_formsOf {members : Members} (hmembers : members.IsSorted) {type : String}
    {form : Json} (hform : form ∈ formsOf type members) : form.sorted = form := by
  rw [formsOf] at hform
  split at hform
  · split at hform
    · rename_i items hitems
      exact Json.sorted_of_mem_array (hmembers.sorted_of_get? hitems) hform
    · exact nomatch hform
  · split at hform
    · exact hmembers.sorted_of_get? (Option.mem_toList.1 hform)
    · exact nomatch hform

theorem sorted_of_mem_nestedForms {value : Json} (hsorted : value.sorted = value) {form : Json}
    (hform : form ∈ nestedForms value) : form.sorted = form := by
  cases value with
  | object members =>
    exact sorted_of_mem_formsOf (Json.isSorted_of_sorted_object hsorted) hform
  | null | bool | number | string | array => exact nomatch hform

/-- The parts of what stands in a place are read of the forms inside the form in that place. -/
theorem parts_contained_eq_map {value : Json} (hsorted : value.sorted = value) (parent : String) :
    parts (contained parent (alone value)) = (nestedForms value).map (ofNested (kind value)) := by
  cases value with
  | object members =>
    have hmembers := Json.isSorted_of_sorted_object hsorted
    rw [nestedForms]
    cases htype : nestedType members with
    | ok type? =>
      have hkind : kind (.object members) = typeOf type? := by simp only [kind, htype]
      rw [alone_of_nestedType hmembers htype, contained, hkind, parts_ofForm]
    | error e =>
      have hkind : kind (.object members) = "" := by simp only [kind, htype]
      rw [alone_of_refused hmembers htype, hkind]
      rfl
  | number n => cases n <;> rfl
  | null | bool | string | array => rfl

/-- So they are what stands in the places of those forms. -/
theorem parts_contained {value : Json} (hsorted : value.sorted = value) (parent : String) :
    parts (contained parent (alone value))
      = (nestedForms value).map fun form => contained (kind value) (alone form) := by
  rw [parts_contained_eq_map hsorted]
  refine List.map_congr_left fun form hform => ?_
  exact ofNested_eq_contained (sorted_of_mem_nestedForms hsorted hform) (kind value)

/-- The form in a place below a value, with the type of the form around it. A place is given by the
way to it, the number of a form among those directly inside another at each step. -/
def placeIn (parent : String) (value : Json) : List Nat → Option (String × Json)
  | [] => some (parent, value)
  | i :: way => (nestedForms value)[i]?.bind fun form => placeIn (kind value) form way

/-- The condition in a place below another. -/
def partIn (c : Condition) : List Nat → Option Condition
  | [] => some c
  | i :: way => (parts c)[i]?.bind fun part => partIn part way

/-- In every place stands what is read of the form in that place. -/
theorem partIn_contained {value : Json} (hsorted : value.sorted = value) (parent : String)
    (way : List Nat) : partIn (contained parent (alone value)) way
      = (placeIn parent value way).map fun place => contained place.1 (alone place.2) := by
  -- one step leads into a form that is finished as well, with the type of this one around it
  induction way generalizing value parent with
  | nil => rfl
  | cons i way ih =>
    rw [partIn, placeIn, parts_contained hsorted, List.getElem?_map]
    cases hform : (nestedForms value)[i]? with
    | none => rfl
    | some form =>
      have hmem : form ∈ nestedForms value := List.mem_of_getElem? hform
      exact ih (sorted_of_mem_nestedForms hsorted hmem) (kind value)

/-- **Faults are contained.** A finished value is refused as a condition exactly if it is no object,
or its type is there and neither null nor a text. Otherwise the forms listed in a conjunction or
disjunction, and the one in a negation, each come to what they come to alone, or to an invalid
condition under the type around them if they are refused alone, in their order and number; so it is
in every place, at any depth. An asset that has the value for the condition of a link is loaded
exactly if it is loaded with any other condition there. -/
theorem faults_are_contained (raw : Json) :
    let value := raw.sorted
    ((∃ e, alone value = .error e) ↔ ¬IsForm value) ∧
    (∀ (members : Members) (type : String), value = .object members →
      members.get? "type" = some (.string type) →
      (∀ items, members.get? "conditions" = some (.array items) →
        (Text.trim type = "and" →
          alone value = .ok (.all (items.map fun item => contained "and" (alone item)))) ∧
        (Text.trim type = "or" →
          alone value = .ok (.any (items.map fun item => contained "or" (alone item))))) ∧
      ∀ item, members.get? "condition" = some item → Text.trim type = "not" →
        alone value = .ok (.not (contained "not" (alone item)))) ∧
    (∀ c, alone value = .ok c → ∀ parent way, partIn c way
      = (placeIn parent value way).map fun place => contained place.1 (alone place.2)) ∧
    (IsForm value → ∀ other c, alone other = .ok c →
      ∀ asset asset', AssetForm.VaryInCondition value other asset asset' →
        ((∃ a, Asset.ofJson asset = .ok a) ↔ ∃ a, Asset.ofJson asset' = .ok a)) := by
  intro value
  have hsorted : value.sorted = value := Json.sorted_sorted raw
  refine ⟨alone_eq_error_iff hsorted, ?forms, ?places, ?assets⟩
  case forms =>
    intro members type hvalue htype
    rw [hvalue] at hsorted ⊢
    exact ⟨fun items hitems => ⟨fun hand => alone_and hsorted htype hand hitems,
      fun hor => alone_or hsorted htype hor hitems⟩,
      fun item hitem hnot => alone_not hsorted htype hnot hitem⟩
  case places =>
    intro c hc parent way
    have hplaces := partIn_contained hsorted parent way
    rwa [hc] at hplaces
  case assets =>
    intro hform other c hother asset asset' hvary
    cases hvalue : alone value with
    | ok c' => exact Asset.exists_ofJson_of_vary hvalue hother hvary
    | error e => exact absurd hform ((alone_eq_error_iff hsorted).1 ⟨e, hvalue⟩)

end Condition

end ActionGraph
