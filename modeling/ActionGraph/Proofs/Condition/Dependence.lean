import ActionGraph.Proofs.Condition.Evaluation
import ActionGraph.Proofs.Scope.History

/-!
# What a condition depends on

A comparison sees the values under the names that stand in it, from whatever layer they come, and a
script sees the variables of the player through a bridge. Nothing else that a session or a store
holds makes a difference, neither to the truth of a condition nor to its remarks.
-/

namespace ActionGraph

/-- Whether two bridges are the same function of an expression and of what a store lists. -/
def Bridge.SameAs (b other : Bridge) : Prop :=
  ∀ expression (store store' : Store), store.toList = store'.toList →
    b expression store = other expression store'

theorem Bridge.sameAs_scripts (limit : Nat) : (scripts limit).SameAs (scripts limit) := by
  intro expression store store' hlist
  simp only [scripts, hlist]

namespace Condition

/-! ### What is mentioned -/

mutual

/-- The names of variables that occur anywhere in a condition. -/
def names : Condition → List String
  | .all conditions | .any conditions => namesAll conditions
  | .not condition => names condition
  | .constant var _ _ => [var]
  | .between left _ right => [left, right]
  | .always | .never | .script _ | .invalid _ _ => []

def namesAll : List Condition → List String
  | [] => []
  | condition :: rest => names condition ++ namesAll rest

end

mutual

/-- The script expressions that occur anywhere in a condition. -/
def expressions : Condition → List String
  | .all conditions | .any conditions => expressionsAll conditions
  | .not condition => expressions condition
  | .script expression => [expression]
  | .always | .never | .constant _ _ _ | .between _ _ _ | .invalid _ _ => []

def expressionsAll : List Condition → List String
  | [] => []
  | condition :: rest => expressions condition ++ expressionsAll rest

end

/-! ### What makes a difference -/

/-- Whether names and expressions stand for the same in view of two sessions and stores. The names
are looked up one by one, and to an expression the listing of the store matters as a whole. -/
structure Agree (session other : Session) (store store' : Store) (names expressions : List String) :
    Prop where
  values : ∀ name ∈ names, lookup session.scopes store name = lookup other.scopes store' name
  scripts : expressions ≠ [] → store.toList = store'.toList ∧ session.bridge.SameAs other.bridge

variable {session other : Session} {store store' : Store}

theorem Agree.of_append {names more expressions further : List String}
    (h : Agree session other store store' (names ++ more) (expressions ++ further)) :
    Agree session other store store' names expressions ∧
      Agree session other store store' more further := by
  obtain ⟨hnames, hmore⟩ := List.forall_mem_append.1 h.values
  constructor
  · refine ⟨hnames, fun hsome => h.scripts ?_⟩
    intro hnone
    exact hsome (List.append_eq_nil_iff.1 hnone).1
  · refine ⟨hmore, fun hsome => h.scripts ?_⟩
    intro hnone
    exact hsome (List.append_eq_nil_iff.1 hnone).2

theorem evaluateScript_congr {bridge bridge' : Bridge} (hbridge : bridge.SameAs bridge')
    (hlist : store.toList = store'.toList) (expression : String) :
    evaluateScript bridge store expression = evaluateScript bridge' store' expression := by
  have hsize : store.size = store'.size := congrArg List.length hlist
  have hanswer : bridge expression store = bridge' expression store' :=
    hbridge expression store store' hlist
  rw [evaluateScript, evaluateScript, hanswer, hsize]

mutual

theorem evaluate_congr : (c : Condition) →
    Agree session other store store' c.names c.expressions →
      evaluate session store c = evaluate other store' c
  | .all conditions, h => by
    rw [names, expressions] at h
    exact evaluate_joined_congr false conditions h
  | .any conditions, h => by
    rw [names, expressions] at h
    exact evaluate_joined_congr true conditions h
  | .not condition, h => by
    rw [names, expressions] at h
    rw [evaluate_not, evaluate_not, evaluate_congr condition h]
  | .constant var op value, h => by
    have hvar := h.values var (by simp [names])
    rw [evaluate, evaluate, compareConstant_congr hvar op value]
  | .between left op right, h => by
    have hleft := h.values left (by simp [names])
    have hright := h.values right (by simp [names])
    rw [evaluate, evaluate, compareVariables_congr hleft hright op]
  | .script expression, h => by
    obtain ⟨hlist, hbridge⟩ := h.scripts (by simp [expressions])
    rw [evaluate, evaluate, evaluateScript_congr hbridge hlist expression]
  | .always, _ | .never, _ | .invalid _ _, _ => by rw [evaluate, evaluate]

/-- The parts of a list are looked at in both views up to the same one. -/
theorem evaluate_joined_congr (settled : Bool) : (conditions : List Condition) →
    Agree session other store store' (namesAll conditions) (expressionsAll conditions) →
      evaluate session store (joined settled conditions)
        = evaluate other store' (joined settled conditions)
  | [], _ => by rw [evaluate_joined_nil, evaluate_joined_nil]
  | condition :: rest, h => by
    rw [namesAll, expressionsAll] at h
    obtain ⟨hcondition, hrest⟩ := h.of_append
    rw [evaluate_joined_cons, evaluate_joined_cons, evaluate_congr condition hcondition,
      evaluate_joined_congr settled rest hrest]

end

/-- **A condition depends on nothing but what it mentions.** Where each name that occurs in it
stands for the same value, or for none, in whatever layers that may be, a condition without scripts
is as true and makes the same remarks. So does one with scripts, if besides the stores list the same
variables in the same order and the bridges are the same function of these. -/
theorem depends_on_what_it_mentions (c : Condition)
    (hnames : ∀ name ∈ c.names,
      lookup session.scopes store name = lookup other.scopes store' name) :
    (c.expressions = [] → evaluate session store c = evaluate other store' c) ∧
    (store.toList = store'.toList → session.bridge.SameAs other.bridge →
      evaluate session store c = evaluate other store' c) := by
  constructor
  · intro hnone
    exact evaluate_congr c ⟨hnames, fun hsome => absurd hnone hsome⟩
  · intro hlist hbridge
    exact evaluate_congr c ⟨hnames, fun _ => ⟨hlist, hbridge⟩⟩

/-- A condition on three variables, one of which nobody has, and on what a script says. -/
def errand : Condition :=
  .any [.not (.between "gold" .ge "debt"), .constant "heir" .eq (.bool true),
    .all [.constant "gold" .ge (.int 5), .script "name == \"Aria\""]]

/-- The gold stands in the scope that outlives runs. -/
def lasting : Session :=
  ⟨[(.persistent, .ofList [("gold", .int 7), ("debt", .int 2)])], .standard⟩

/-- The gold stands in the scope of the run, over another amount that outlives it. -/
def passing : Session :=
  ⟨[(.custom "gold", .ofList [("gold", .int 3), ("heir", .bool true)]),
    (.runtime, .ofList [("gold", .int 7), ("silver", .int 1)]),
    (.persistent, .ofList [("debt", .int 2), ("gold", .int 1)])], .standard⟩

def hero : Store := .ofList [("name", .string "Aria"), ("level", .int 3)]

/-- The same variables, one of them written twice. -/
def renamedHero : Store :=
  .ofList [("name", .string "Bob"), ("level", .int 3), ("name", .string "Aria")]

theorem depends_on_what_it_mentions_in_errand :
    (∀ name ∈ errand.names,
      lookup lasting.scopes hero name = lookup passing.scopes renamedHero name) ∧
    errand.expressions = ["name == \"Aria\""] ∧ hero.toList = renamedHero.toList ∧
    lasting.bridge.SameAs passing.bridge ∧
    evaluate lasting hero errand = evaluate passing renamedHero errand := by
  have hnames : ∀ name ∈ errand.names,
      lookup lasting.scopes hero name = lookup passing.scopes renamedHero name := by
    have hmentioned : errand.names = ["gold", "debt", "heir", "gold"] := rfl
    intro name hname
    rw [hmentioned] at hname
    simp only [List.mem_cons, List.not_mem_nil, or_false] at hname
    rcases hname with rfl | rfl | rfl | rfl <;> rfl
  have hbridge : lasting.bridge.SameAs passing.bridge :=
    Bridge.sameAs_scripts Script.operationLimit
  exact ⟨hnames, rfl, rfl, hbridge, (depends_on_what_it_mentions errand hnames).2 rfl hbridge⟩

end Condition

end ActionGraph
