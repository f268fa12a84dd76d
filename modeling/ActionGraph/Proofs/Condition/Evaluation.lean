import ActionGraph.Condition

/-!
# The laws of evaluation

A verdict is a truth together with remarks. Verdicts are joined from left to right, and once the
truth is settled the rest is not looked at and makes no remarks. Joined in this way they obey the
boolean laws as a whole, remarks included, and lists of conditions inherit these laws from them. A
conjunction is settled by what is false and a disjunction by what is true; all that is said of the
one holds of the other with the truths exchanged, so it is said once, of the truth that settles.
-/

namespace ActionGraph

namespace Condition

/-! ### Joining verdicts -/

namespace Verdict

/-- The verdict on a negation. -/
def negated (v : Verdict) : Verdict := ⟨!v.holds, v.remarks⟩

/-- The verdict on two parts, of which the second one matters only if the first does not settle the
matter. -/
def join (settled : Bool) (v w : Verdict) : Verdict :=
  if v.holds = settled then v else w.after v.remarks

variable (settled : Bool) (u v w : Verdict)

theorem negated_join : (v.join settled w).negated = v.negated.join (!settled) w.negated := by
  obtain ⟨holds, remarks⟩ := v
  cases holds <;> cases settled <;> rfl

theorem join_assoc : (u.join settled v).join settled w = u.join settled (v.join settled w) := by
  by_cases hfirst : u.holds = settled
  · simp only [join, if_pos hfirst]
  · by_cases hsecond : v.holds = settled
    · simp only [join, if_neg hfirst, after, if_pos hsecond]
    · simp only [join, if_neg hfirst, after, if_neg hsecond, List.append_assoc]

theorem silent_join : (silent !settled).join settled w = w := by
  cases settled <;> rfl

end Verdict

/-! ### Conjunctions and disjunctions -/

/-- The list of conditions that this truth settles: a conjunction or a disjunction. -/
def joined (settled : Bool) (conditions : List Condition) : Condition :=
  match settled with
  | false => .all conditions
  | true => .any conditions

section

variable (session : Session) (store : Store) (settled : Bool) (conditions : List Condition)

theorem evaluate_not (c : Condition) :
    evaluate session store (.not c) = (evaluate session store c).negated := by
  rw [evaluate]
  rfl

theorem evaluate_joined_nil :
    evaluate session store (joined settled []) = .silent !settled := by
  cases settled <;> rfl

theorem evaluate_joined_cons (c : Condition) :
    evaluate session store (joined settled (c :: conditions))
      = (evaluate session store c).join settled
        (evaluate session store (joined settled conditions)) := by
  cases settled with
  | false =>
    simp only [joined, evaluate, evaluateAll, Verdict.join]
    cases (evaluate session store c).holds <;> rfl
  | true =>
    simp only [joined, evaluate, evaluateAny, Verdict.join]

theorem evaluate_not_joined : evaluate session store (.not (joined settled conditions))
    = evaluate session store (joined (!settled) (conditions.map .not)) := by
  rw [evaluate_not]
  induction conditions with
  | nil =>
    rw [evaluate_joined_nil, List.map_nil, evaluate_joined_nil]
    rfl
  | cons c rest ih =>
    rw [evaluate_joined_cons, Verdict.negated_join, ih, List.map_cons, evaluate_joined_cons,
      evaluate_not]

theorem evaluate_joined_append (more : List Condition) :
    evaluate session store (joined settled (conditions ++ more))
      = (evaluate session store (joined settled conditions)).join settled
        (evaluate session store (joined settled more)) := by
  induction conditions with
  | nil => rw [List.nil_append, evaluate_joined_nil, Verdict.silent_join]
  | cons c rest ih =>
    rw [List.cons_append, evaluate_joined_cons, ih, evaluate_joined_cons, Verdict.join_assoc]

theorem evaluate_joined_flatten (groups : List (List Condition)) :
    evaluate session store (joined settled (groups.map (joined settled)))
      = evaluate session store (joined settled groups.flatten) := by
  induction groups with
  | nil => rfl
  | cons group rest ih =>
    rw [List.map_cons, evaluate_joined_cons, ih, List.flatten_cons, evaluate_joined_append]

theorem holds_joined_iff : (evaluate session store (joined settled conditions)).holds = settled
    ↔ ∃ c ∈ conditions, (evaluate session store c).holds = settled := by
  induction conditions with
  | nil =>
    rw [evaluate_joined_nil]
    simp [Verdict.silent]
  | cons c rest ih =>
    rw [evaluate_joined_cons, Verdict.join]
    by_cases hsettled : (evaluate session store c).holds = settled
    · simp [hsettled]
    · simp [hsettled, Verdict.after, ih]

/-! ### How far a list is looked at -/

/-- The conditions up to the first one with this truth, and that one too. -/
def upTo : List Condition :=
  conditions.take (conditions.findIdx (fun c => (evaluate session store c).holds == settled) + 1)

theorem upTo_cons (c : Condition) : upTo session store settled (c :: conditions)
    = c :: if (evaluate session store c).holds = settled then []
      else upTo session store settled conditions := by
  rw [upTo, List.findIdx_cons]
  by_cases hsettled : (evaluate session store c).holds = settled
  · simp [hsettled]
  · rw [beq_false_of_ne hsettled, if_neg hsettled]
    rfl

theorem remarks_joined : (evaluate session store (joined settled conditions)).remarks
    = (upTo session store settled conditions).flatMap fun c =>
      (evaluate session store c).remarks := by
  induction conditions with
  | nil =>
    rw [evaluate_joined_nil]
    rfl
  | cons c rest ih =>
    rw [evaluate_joined_cons, upTo_cons, List.flatMap_cons, Verdict.join]
    by_cases hsettled : (evaluate session store c).holds = settled
    · rw [if_pos hsettled, if_pos hsettled, List.flatMap_nil, List.append_nil]
    · rw [if_neg hsettled, if_neg hsettled, ← ih]
      rfl

end

/-- **The boolean laws hold of verdicts as a whole**, of what is remarked as well as of what is
true: the laws of negation for a conjunction and a disjunction, and the laws by which conjunctions
inside a conjunction, and disjunctions inside a disjunction, may be joined to one. A conjunction is
false if one of its parts is, and remarks what they remark up to the first false one. A disjunction
is true if one of its parts is, and remarks what they remark up to the first true one. -/
theorem boolean_laws_keep_remarks (session : Session) (store : Store) :
    (∀ conditions, evaluate session store (.not (.all conditions))
      = evaluate session store (.any (conditions.map .not))) ∧
    (∀ conditions, evaluate session store (.not (.any conditions))
      = evaluate session store (.all (conditions.map .not))) ∧
    (∀ groups : List (List Condition), evaluate session store (.all (groups.map .all))
      = evaluate session store (.all groups.flatten)) ∧
    (∀ groups : List (List Condition), evaluate session store (.any (groups.map .any))
      = evaluate session store (.any groups.flatten)) ∧
    (∀ conditions, ((evaluate session store (.all conditions)).holds = false
        ↔ ∃ c ∈ conditions, (evaluate session store c).holds = false) ∧
      (evaluate session store (.all conditions)).remarks
        = (upTo session store false conditions).flatMap fun c =>
          (evaluate session store c).remarks) ∧
    ∀ conditions, ((evaluate session store (.any conditions)).holds = true
        ↔ ∃ c ∈ conditions, (evaluate session store c).holds = true) ∧
      (evaluate session store (.any conditions)).remarks
        = (upTo session store true conditions).flatMap fun c =>
          (evaluate session store c).remarks := by
  refine ⟨?negated_all, ?negated_any, ?all_of_alls, ?any_of_anys, fun conditions => ⟨?all_holds,
    ?all_remarks⟩, fun conditions => ⟨?any_holds, ?any_remarks⟩⟩
  case negated_all => exact evaluate_not_joined session store false
  case negated_any => exact evaluate_not_joined session store true
  case all_of_alls => exact evaluate_joined_flatten session store false
  case any_of_anys => exact evaluate_joined_flatten session store true
  case all_holds => exact holds_joined_iff session store false conditions
  case all_remarks => exact remarks_joined session store false conditions
  case any_holds => exact holds_joined_iff session store true conditions
  case any_remarks => exact remarks_joined session store true conditions

end Condition

end ActionGraph
