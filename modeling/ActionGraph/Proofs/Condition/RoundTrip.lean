import ActionGraph.Proofs.Condition.Form

/-!
# Writing conditions and reading them back

A condition that is written and read comes back as it was, but for one thing: a number that is not
finite has no written form, and the comparison with it comes back as an invalid condition. This
holds of a condition that stands by itself, as a form or as a finished value, and of one that
stands inside another one at any depth.
-/

namespace ActionGraph

open Json (DecodeError)

/-! ### Values -/

theorem float_beq_self {x : Float} (hfinite : x.isFinite = true) : (x == x) = true := by
  change (x.toModel.unpack.compare x.toModel.unpack == some .eq) = true
  have hunpacked : x.toModel.unpack.isFinite = true := hfinite
  cases hx : x.toModel.unpack with
  | notANumber | infinity sign =>
    rw [hx] at hunpacked
    exact nomatch hunpacked
  | zero sign => rfl
  | finite sign mantissa exponent hpos =>
    have hsame : (compare exponent exponent).then (compare mantissa mantissa) = .eq := by simp
    cases sign with
    | positive => exact congrArg (some · == some .eq) hsame
    | negative => exact congrArg (some ·.swap == some .eq) hsame

namespace Value

/-- Whether a value can be written: numbers have to be finite. -/
def isFinite : Value → Bool
  | .float x => x.isFinite
  | .bool _ | .int _ | .string _ | .entity _ => true

theorem beq_self {v : Value} (hfinite : v.isFinite = true) : (v == v) = true := by
  cases v with
  | bool b => exact beq_self_eq_true b
  | int i => exact beq_self_eq_true i
  | float x => exact float_beq_self hfinite
  | string s => exact beq_self_eq_true s
  | entity id? => exact beq_self_eq_true id?

theorem fitsInt_toInt (i : Int64) : fitsInt i.toInt = true := by
  have hleast : Int64.minValue.toInt ≤ i.toInt := Int64.minValue_le_toInt i
  have hgreatest : i.toInt ≤ Int64.maxValue.toInt := Int64.toInt_le i
  rw [fitsInt, decide_eq_true hleast, decide_eq_true hgreatest]
  rfl

/-- The content of a value gives it back, unless it is a number that is not finite. -/
theorem ofContent?_content (v : Value) :
    ofContent? v.type v.content = if v.isFinite then some v else none := by
  cases v with
  | bool | string => rfl
  | int i =>
    have hsame : Int64.ofInt i.toInt = i := Int64.ofInt_toInt i
    simp only [type, content, Json.ofInt, ofContent?, fitsInt_toInt, hsame, isFinite, if_true]
  | float x =>
    by_cases hfinite : x.isFinite = true <;>
      simp [type, content, Json.ofFloat, ofContent?, hfinite, isFinite]
  | entity id? =>
    cases id? with
    | none => rfl
    | some id =>
      have hnonneg : (0 : Int) ≤ id.toNat := Int.natCast_nonneg _
      have hsame : UInt64.ofNat (Int.toNat id.toNat) = id := by
        rw [Int.toNat_natCast, UInt64.ofNat_toNat]
      simp only [type, content, Json.ofInt, ofContent?, hnonneg, hsame, isFinite, if_true]

theorem ofTagged?_object (type : ValueType) (content : Json) :
    ofTagged? (.object [("type", .string type.name), ("value", content)])
      = ofContent? type content := by
  cases type <;> rfl

theorem ofJson_toJson (v : Value) :
    ofJson v.toJson = if v.isFinite then .ok v else .error .noVariableValue := by
  rw [ofJson, toJson, ofTagged?_object, ofContent?_content]
  by_cases hfinite : v.isFinite = true <;> simp [hfinite, ofLiteral]

theorem toJson_sorted (v : Value) : v.toJson.sorted = v.toJson := by
  have hcontent : v.content.sorted = v.content := by
    cases v with
    | float x => by_cases hfinite : x.isFinite = true <;> simp [content, Json.ofFloat, hfinite,
        Json.sorted]
    | entity id? => cases id? <;> simp [content, Json.ofInt, Json.sorted]
    | bool | int | string => simp [content, Json.ofInt, Json.sorted]
  have hnames : "type" < "value" := by decide
  refine Json.sorted_object ⟨List.pairwise_pair.2 hnames, ?_⟩
  simp [hcontent, Json.sorted]

end Value

namespace Condition

/-! ### The written form -/

mutual

/-- The constants with which variables are compared anywhere in a condition. -/
def constants : Condition → List Value
  | .all conditions | .any conditions => constantsAll conditions
  | .not condition => constants condition
  | .constant _ _ value => [value]
  | .always | .never | .between _ _ _ | .script _ | .invalid _ _ => []

def constantsAll : List Condition → List Value
  | [] => []
  | condition :: rest => constants condition ++ constantsAll rest

end

mutual

/-- What comes back of a condition that is written and read. -/
def restored : Condition → Condition
  | .all conditions => .all (restoredAll conditions)
  | .any conditions => .any (restoredAll conditions)
  | .not condition => .not (restored condition)
  | .constant var op value =>
    if value.isFinite then .constant var op value
    else .invalid "var_compare_constant" ("`value`: " ++ DecodeError.noVariableValue.message)
  | .always => .always
  | .never => .never
  | .between left op right => .between left op right
  | .script expression => .script expression
  | .invalid type reason => .invalid type reason

def restoredAll : List Condition → List Condition
  | [] => []
  | condition :: rest => restored condition :: restoredAll rest

end

theorem toValue_eq {c : Condition} (h : c.toForm.IsProper) :
    c.toValue = .object c.toForm.members := by
  rw [toValue, h.toJson_sorted]

theorem toValue_sorted {c : Condition} (h : c.toForm.IsProper) : c.toValue.sorted = c.toValue := by
  rw [toValue_eq h, Json.sorted_object h.isSorted_members]

mutual

theorem isProper_toForm : (c : Condition) → c.toForm.IsProper
  | .always => by
    rw [toForm]
    exact ConditionForm.isProper_nil _
  | .never => by
    rw [toForm]
    exact ConditionForm.isProper_nil _
  | .all conditions => by
    have hvalues := sortedItems_toValues conditions
    rw [toForm]
    exact (ConditionForm.isProper_nil _).withParam (by decide) (by rw [Json.sorted, hvalues])
  | .any conditions => by
    have hvalues := sortedItems_toValues conditions
    rw [toForm]
    exact (ConditionForm.isProper_nil _).withParam (by decide) (by rw [Json.sorted, hvalues])
  | .not condition => by
    have hvalue := toValue_sorted (isProper_toForm condition)
    rw [toForm]
    exact (ConditionForm.isProper_nil _).withParam (by decide) hvalue
  | .constant _ _ value => by
    rw [toForm]
    exact (((ConditionForm.isProper_nil _).withParam (by decide) rfl).withParam (by decide)
      rfl).withParam (by decide) value.toJson_sorted
  | .between _ _ _ => by
    rw [toForm]
    exact (((ConditionForm.isProper_nil _).withParam (by decide) rfl).withParam (by decide)
      rfl).withParam (by decide) rfl
  | .script _ => by
    rw [toForm]
    exact (ConditionForm.isProper_nil _).withParam (by decide) rfl
  | .invalid _ _ => by
    rw [toForm]
    exact ((ConditionForm.isProper_nil _).withParam (by decide) rfl).withParam (by decide) rfl

theorem sortedItems_toValues : (conditions : List Condition) →
    Json.sortedItems (toValues conditions) = toValues conditions
  | [] => by
    rw [toValues]
    rfl
  | condition :: rest => by
    have hvalue := toValue_sorted (isProper_toForm condition)
    rw [toValues, Json.sortedItems, hvalue, sortedItems_toValues rest]

end

/-- A condition inside another one is read as it is read alone. -/
theorem ofNested_toValue (c : Condition) (parent : String) :
    ofNested parent c.toValue = ofForm c.toForm := by
  have hproper := isProper_toForm c
  rw [toValue_eq hproper, ofNested_members hproper]

theorem reads_of_form {value : Json} {f : ConditionForm} (h : ConditionForm.decoder.Reads value f) :
    decoder.Reads value (ofForm f) := by
  intro origin r hr
  rw [decoder, h origin r hr]
  rfl

/-- A condition is read from its value and from its form, whatever their origin is. -/
theorem decoder_reads (c : Condition) :
    decoder.Reads c.toValue (ofForm c.toForm) ∧ decoder.Reads c.toJson (ofForm c.toForm) := by
  have hproper := isProper_toForm c
  rw [toValue_eq hproper]
  exact ⟨reads_of_form hproper.reads_members, reads_of_form hproper.reads_toJson⟩

theorem decode_toValue (c : Condition) :
    Json.decodeValue decoder c.toValue = .ok (ofForm c.toForm) :=
  (decoder_reads c).1.decodeValue

/-! ### What comes back -/

theorem ofText?_symbol (op : Comparison) : Comparison.ofText? op.symbol = some op := by
  cases op <;> rfl

theorem ofForm_all (items : List Json) :
    ofForm ((ConditionForm.ofType "and").withParam "conditions" (.array items))
      = .all (ofNestedList "and" items) := by
  have htype : typeOf (some "and") = "and" := rfl
  exact ofForm_of_and _ htype (by simp)

theorem ofForm_any (items : List Json) :
    ofForm ((ConditionForm.ofType "or").withParam "conditions" (.array items))
      = .any (ofNestedList "or" items) := by
  have htype : typeOf (some "or") = "or" := rfl
  exact ofForm_of_or _ htype (by simp)

theorem ofForm_not (item : Json) :
    ofForm ((ConditionForm.ofType "not").withParam "condition" item)
      = .not (ofNested "not" item) := by
  have htype : typeOf (some "not") = "not" := rfl
  exact ofForm_of_not _ htype (by simp)

theorem ofForm_constant (var : String) (op : Comparison) (value : Value) :
    ofForm ((((ConditionForm.ofType "var_compare_constant").withParam "var" (.string var)).withParam
        "op" (.string op.symbol)).withParam "value" value.toJson)
      = match Value.ofJson value.toJson with
        | .ok v => .constant var op v
        | .error e => .invalid "var_compare_constant" ("`value`: " ++ e.message) := by
  have htype : typeOf (some "var_compare_constant") = "var_compare_constant" := rfl
  have hop := ofText?_symbol op
  cases hvalue : Value.ofJson value.toJson <;>
    simp [ofForm, ConditionForm.ofType, htype, ofPlain, ofConstantParams, textParam, opParam,
      Json.Members.string?, hop, hvalue, ok_bind, orInvalid]

theorem ofForm_between (left : String) (op : Comparison) (right : String) :
    ofForm ((((ConditionForm.ofType "var_compare_variable").withParam "left"
        (.string left)).withParam "op" (.string op.symbol)).withParam "right" (.string right))
      = .between left op right := by
  have htype : typeOf (some "var_compare_variable") = "var_compare_variable" := rfl
  have hop := ofText?_symbol op
  simp [ofForm, ConditionForm.ofType, htype, ofPlain, ofVariablesParams, textParam, opParam,
    Json.Members.string?, hop, ok_bind, orInvalid, pure, Except.pure]

theorem ofForm_script (expression : String) :
    ofForm ((ConditionForm.ofType "script").withParam "expression" (.string expression))
      = .script expression := by
  have htype : typeOf (some "script") = "script" := rfl
  simp [ofForm, ConditionForm.ofType, htype, ofPlain, textParam, Json.Members.string?, orInvalid,
    Except.map]

theorem ofForm_invalid (type reason : String) :
    ofForm (((ConditionForm.ofType "invalid").withParam "for" (.string type)).withParam "reason"
        (.string reason)) = .invalid type reason := by
  have htype : typeOf (some "invalid") = "invalid" := rfl
  simp [ofForm, ConditionForm.ofType, htype, ofPlain, Json.Members.string?, orInvalid]

mutual

/-- What comes back of a form that was written. -/
theorem ofForm_toForm : (c : Condition) → ofForm c.toForm = c.restored
  | .always => by
    rw [toForm]
    rfl
  | .never => by
    rw [toForm]
    rfl
  | .all conditions => by rw [toForm, ofForm_all, ofNestedList_toValues, restored]
  | .any conditions => by rw [toForm, ofForm_any, ofNestedList_toValues, restored]
  | .not condition => by
    rw [toForm, ofForm_not, ofNested_toValue, ofForm_toForm condition, restored]
  | .constant var op value => by
    rw [toForm, ofForm_constant, Value.ofJson_toJson, restored]
    by_cases hfinite : value.isFinite = true <;> simp [hfinite]
  | .between left op right => by rw [toForm, ofForm_between, restored]
  | .script expression => by rw [toForm, ofForm_script, restored]
  | .invalid type reason => by rw [toForm, ofForm_invalid, restored]

theorem ofNestedList_toValues (type : String) : (conditions : List Condition) →
    ofNestedList type (toValues conditions) = restoredAll conditions
  | [] => by
    rw [toValues, restoredAll]
    rfl
  | condition :: rest => by
    rw [toValues, ofNestedList, ofNested_toValue, ofForm_toForm condition,
      ofNestedList_toValues type rest, restoredAll]

end

/-! ### When a condition comes back as it was -/

mutual

theorem restored_eq_iff : (c : Condition) →
    (c.restored = c ↔ ∀ v ∈ c.constants, v.isFinite = true)
  | .always | .never | .between _ _ _ | .script _ | .invalid _ _ => by
    simp [restored, constants]
  | .all conditions => by
    have hall := restoredAll_eq_iff conditions
    simpa only [restored, constants, all.injEq] using hall
  | .any conditions => by
    have hall := restoredAll_eq_iff conditions
    simpa only [restored, constants, any.injEq] using hall
  | .not condition => by
    have hcondition := restored_eq_iff condition
    simpa only [restored, constants, not.injEq] using hcondition
  | .constant var op value => by
    by_cases hfinite : value.isFinite = true <;> simp [restored, constants, hfinite]

theorem restoredAll_eq_iff : (conditions : List Condition) →
    (restoredAll conditions = conditions ↔
      ∀ v ∈ constantsAll conditions, v.isFinite = true)
  | [] => by simp [restoredAll, constantsAll]
  | condition :: rest => by
    have hcondition := restored_eq_iff condition
    have hrest := restoredAll_eq_iff rest
    rw [restoredAll, constantsAll, List.cons.injEq, List.forall_mem_append, hcondition, hrest]

end

mutual

theorem beq_restored_iff : (c : Condition) →
    (beq c.restored c = true ↔ ∀ v ∈ c.constants, v.isFinite = true)
  | .always | .never | .between _ _ _ | .script _ | .invalid _ _ => by
    simp [restored, constants, beq]
  | .all conditions => by
    have hall := beqAll_restoredAll_iff conditions
    simpa only [restored, constants, beq] using hall
  | .any conditions => by
    have hall := beqAll_restoredAll_iff conditions
    simpa only [restored, constants, beq] using hall
  | .not condition => by
    have hcondition := beq_restored_iff condition
    simpa only [restored, constants, beq] using hcondition
  | .constant var op value => by
    by_cases hfinite : value.isFinite = true
    · simp [restored, constants, hfinite, beq, Value.beq_self hfinite]
    · simp [restored, constants, hfinite, beq]

theorem beqAll_restoredAll_iff : (conditions : List Condition) →
    (beqAll (restoredAll conditions) conditions = true ↔
      ∀ v ∈ constantsAll conditions, v.isFinite = true)
  | [] => by simp [restoredAll, constantsAll, beqAll]
  | condition :: rest => by
    have hcondition := beq_restored_iff condition
    have hrest := beqAll_restoredAll_iff rest
    rw [restoredAll, constantsAll, beqAll, Bool.and_eq_true, List.forall_mem_append, hcondition,
      hrest]

end

/-- Whether every number that is a constant anywhere in a condition is finite. -/
def HasFiniteConstants (c : Condition) : Prop := ∀ x, .float x ∈ c.constants → x.isFinite = true

theorem hasFiniteConstants_iff {c : Condition} :
    c.HasFiniteConstants ↔ ∀ v ∈ c.constants, v.isFinite = true := by
  constructor
  · intro hfinite v hv
    cases v with
    | float x => exact hfinite x hv
    | bool | int | string | entity => rfl
  · intro hfinite x hx
    exact hfinite (.float x) hx

/-- **A condition that is written and read comes back as it was if and only if all numbers in it are
finite**, whether it is written as a form or as a finished value. This is so of equality proper and
of the equality of constants, for which a number that is not a number differs from itself. -/
theorem comes_back_iff_finite (c : Condition) :
    (ofForm c.toForm = c ↔ c.HasFiniteConstants) ∧
    ((ofForm c.toForm == c) = true ↔ c.HasFiniteConstants) ∧
    ∃ read, Json.decodeValue decoder c.toValue = .ok read ∧
      (read = c ↔ c.HasFiniteConstants) ∧ ((read == c) = true ↔ c.HasFiniteConstants) := by
  have hsame : ofForm c.toForm = c ↔ c.HasFiniteConstants := by
    rw [ofForm_toForm, hasFiniteConstants_iff]
    exact restored_eq_iff c
  have hequal : (ofForm c.toForm == c) = true ↔ c.HasFiniteConstants := by
    rw [ofForm_toForm, hasFiniteConstants_iff]
    exact beq_restored_iff c
  exact ⟨hsame, hequal, _, decode_toValue c, hsame, hequal⟩

end Condition

end ActionGraph
