import ActionGraph.Proofs.Except
import ActionGraph.Proofs.Script.Words
import ActionGraph.Proofs.Store.Writes
import ActionGraph.Proofs.Table
import ActionGraph.Script.Result

/-!
# Variables in scripts

A script that is no more than the name of a variable has the value of the variable, if the name is
one of scripts. Every other name that an asset may use is refused by the parser or means something
else, whatever the store holds (`evaluate_of_not_isName`).
-/

namespace ActionGraph

namespace Script

/-! ### A name as a program -/

theorem program_of_isName {name : String} (h : IsName name) :
    program name = .ok [.evaluate (.variable name ⟨1, 1⟩)] := by
  obtain ⟨q, htokens⟩ := tokens_of_isName h
  rw [program, htokens]
  rfl

/-- There is nothing to simplify. -/
theorem simplified_variable (size : Nat) (name : String) (p : Position) :
    simplified size [.evaluate (.variable name p)] = [.evaluate (.variable name p)] := by
  have hlarge : 4 * 16 ≤ (size + 4) * (size + 16) :=
    Nat.mul_le_mul (Nat.le_add_left 4 size) (Nat.le_add_left 16 size)
  obtain ⟨fuel, hfuel⟩ : ∃ fuel, (size + 4) * (size + 16) = fuel + 5 :=
    ⟨(size + 4) * (size + 16) - 5, by omega⟩
  rw [simplified, hfuel]
  rfl

theorem run_count (p : Position) {m : Machine} (h : m.operations < m.limit) :
    (Run.count p).run m = (.ok (), { m with operations := m.operations + 1 }) := by
  have hallowed : ¬ m.limit < m.operations + 1 := Nat.not_lt.2 h
  change (if m.limit < m.operations + 1 then _ else _ : Run Unit).run _ = _
  rw [if_neg hallowed]
  rfl

theorem run_bind {α β : Type} {part : Run α} {next : α → Run β} {m m' : Machine} {a : α}
    (h : part.run m = (.ok a, m')) : (part >>= next).run m = (next a).run m' := by
  change ExceptT.bindCont next (part.run m).1 (part.run m).2 = _
  rw [h]
  rfl

theorem run_fetch {name : String} {d : Datum} (p : Position) {m : Machine}
    (h : m.bindings.lookup name = some d) : (Run.fetch name p).run m = (.ok d, m) := by
  have hget : (get : Run Machine).run m = (.ok m, m) := rfl
  rw [Run.fetch, run_bind hget, h]
  rfl

/-- A statement and an expression are two operations. -/
theorem run_variable {limit : Nat} (hlimit : 2 ≤ limit) (fuel : Nat) {name : String} {d : Datum}
    (p : Position) {bindings : List (String × Datum)} (hd : bindings.lookup name = some d) :
    ((Run.statements (fuel + 3) [.evaluate (.variable name p)]).run ⟨bindings, 0, limit⟩).1
      = .ok d := by
  have hexpression : (Run.expression (fuel + 1) (.variable name p)).run ⟨bindings, 1, limit⟩
      = (.ok d, ⟨bindings, 2, limit⟩) := by
    rw [Run.expression, run_bind (run_count (m := ⟨bindings, 1, limit⟩) _ hlimit)]
    exact run_fetch p hd
  have hstatement : (Run.statement (fuel + 2) (.evaluate (.variable name p))).run
      ⟨bindings, 0, limit⟩ = (.ok d, ⟨bindings, 2, limit⟩) := by
    rw [Run.statement, run_bind (run_count _ (Nat.lt_of_lt_of_le Nat.two_pos hlimit))]
    exact hexpression
  rw [Run.statements, run_bind hstatement]
  rfl

theorem evaluate_of_isName {limit : Nat} (hlimit : 2 ≤ limit) {name : String} (h : IsName name)
    {bindings : List (String × Datum)} {d : Datum} (hd : bindings.reverse.lookup name = some d) :
    evaluate limit name bindings = .ok d := by
  have hrun := run_variable hlimit (limit + 8 * name.length + 13) ⟨1, 1⟩ hd
  rw [evaluate, program_of_isName h, ok_bind, simplified_variable]
  dsimp only
  rw [hrun]

/-! ### Other names -/

/-- The parser refuses what is broken off behind a word. -/
theorem program_of_broken {name word : String} {token : Token} (h : IsWord word token)
    {fault : SyntaxFault} {p q : Position} (htokens : tokens name = [(token, p), (.bad fault, q)]) :
    ∃ e, program name = .error e := by
  rw [program, htokens]
  cases h with
  | name h => exact ⟨_, rfl⟩
  | keyword h =>
    simp only [keywords, List.mem_cons, List.not_mem_nil, or_false] at h
    rcases h with rfl | rfl | rfl | rfl | rfl | rfl | rfl | rfl | rfl | rfl | rfl | rfl | rfl |
      rfl | rfl | rfl | rfl | rfl | rfl | rfl | rfl | rfl | rfl | rfl <;> exact ⟨_, rfl⟩
  | reserved h => exact ⟨_, rfl⟩
  | underscore h =>
    subst h
    exact ⟨_, rfl⟩

/-- A word with a meaning of its own means the same in view of all variables. -/
theorem evaluate_of_mem_keywords {word : String} (h : word ∈ keywords) :
    ∃ result, ∀ bindings, evaluate operationLimit word bindings = result := by
  simp only [keywords, List.mem_cons, List.not_mem_nil, or_false] at h
  rcases h with rfl | rfl | rfl | rfl | rfl | rfl | rfl | rfl | rfl | rfl | rfl | rfl | rfl | rfl |
    rfl | rfl | rfl | rfl | rfl | rfl | rfl | rfl | rfl | rfl <;> exact ⟨_, fun _ => rfl⟩

theorem evaluate_of_program_error {limit : Nat} {text : String} {e : Error}
    (h : program text = .error e) (bindings : List (String × Datum)) :
    evaluate limit text bindings = .error e := by
  rw [evaluate, h]
  rfl

/-- What is no name of scripts does not mean the variable, whatever its value is. -/
theorem evaluate_of_not_isName {name : String} (h : Naming.isIdentifier name.toList = true)
    (hname : ¬ IsName name) :
    ∃ result, ∀ bindings, evaluate operationLimit name bindings = result := by
  suffices hprogram : (∃ e, program name = .error e) ∨ name ∈ keywords by
    rcases hprogram with ⟨e, he⟩ | hkeyword
    · exact ⟨_, evaluate_of_program_error he⟩
    · exact evaluate_of_mem_keywords hkeyword
  rcases tokens_of_isIdentifier h with
    ⟨fault, p, htokens⟩ | ⟨word, token, fault, p, q, hword, htokens⟩ | ⟨token, p, q, hword, htokens⟩
  · left
    rw [program, htokens]
    exact ⟨_, rfl⟩
  · exact .inl (program_of_broken hword htokens)
  · cases hword with
    | name h => exact absurd h hname
    | keyword h => exact .inr h
    | reserved h =>
      left
      rw [program, htokens]
      exact ⟨_, rfl⟩
    | underscore h =>
      left
      subst h
      exact ⟨_, rfl⟩

end Script

namespace Bridge

/-- A variable as a session gets it back from a script. -/
def seen : Value → ScriptValue
  | .bool b => .bool b
  | .int i => .int i
  | .float x => .float x
  | .string s => .string s
  | .entity (some id) => if id.toNat < 2 ^ 63 then .int (Int64.ofNat id.toNat) else .unit
  | .entity none => .unit

theorem ofDatum_toDatum (v : Value) : ScriptValue.ofDatum v.toDatum = seen v := by
  cases v with
  | entity id =>
    cases id with
    | none => rfl
    | some id =>
      have hbound : 1 <<< 63 = 2 ^ 63 := rfl
      rw [Value.toDatum, seen, hbound]
      split <;> rfl
  | _ => rfl

/-- Scripts read the variables of a store under their own names. -/
theorem standard_of_isName {s : Store} {name : String} (hname : Script.IsName name) {v : Value}
    (hv : s.get? name = some v) : standard name s = .ok (seen v) := by
  have hlookup : ((s.toList.map fun entry => (entry.1, entry.2.toDatum)).reverse).lookup name
      = some v.toDatum := by
    refine Table.lookup_of_mem ?_ ?_
    · rw [List.map_reverse, List.nodup_reverse, List.map_map]
      exact s.nodup_names
    · rw [List.mem_reverse]
      exact List.mem_map.2 ⟨(name, v), Store.get?_eq_some_iff.1 hv, rfl⟩
  rw [standard, scripts, Script.evaluate_of_isName (by decide) hname hlookup]
  exact congrArg _ (ofDatum_toDatum v)

/-- Of the names that an asset may use, scripts can read the ones of their own, and no other. -/
theorem variable_is_read_iff (name : String) (hvalid : Naming.checkVariableName name = .ok ()) :
    (∀ s : Store, (∀ other ∈ s.slots.names, Naming.checkVariableName other = .ok ()) →
      ∀ v, s.get? name = some v → standard name s = .ok (seen v)) ↔ Script.IsName name := by
  constructor
  · intro hread
    by_contra hname
    have hidentifier : Naming.isIdentifier name.toList = true := by
      rw [Naming.checkVariableName] at hvalid
      split at hvalid
      · assumption
      · exact nomatch hvalid
    -- In view of different values the result would have to be different.
    obtain ⟨result, hresult⟩ := Script.evaluate_of_not_isName hidentifier hname
    have hstored (i : Int64) : standard name (Store.empty.set name (.int i)) = .ok (.int i) := by
      refine hread _ ?_ (.int i) ?_
      · intro other hother
        rw [Store.names_set, if_neg (by simp [Store.empty, Slots.names])] at hother
        rw [List.mem_singleton.1 hother]
        exact hvalid
      · rw [Store.get?_set, if_pos rfl]
    have hone := hstored 1
    have htwo := hstored 2
    rw [standard, scripts, hresult] at hone htwo
    exact absurd (hone.symm.trans htwo) (by simp)
  · intro hname s _ v hv
    exact standard_of_isName hname hv

theorem variable_is_read_iff_for_gold :
    Naming.checkVariableName "gold" = .ok () ∧
    standard "gold" (.ofList [("gold", .int 120)]) = .ok (.int 120) := by
  have hvalid : Naming.checkVariableName "gold" = .ok () := by decide +kernel
  have hname : Script.IsName "gold" :=
    ⟨List.all_eq_true.1 (by decide), by decide, by decide, by decide⟩
  refine ⟨hvalid, (variable_is_read_iff "gold" hvalid).2 hname _ ?_ (.int 120) rfl⟩
  intro other hother
  rw [List.mem_singleton.1 hother]
  exact hvalid

/-- Two names that an asset may use: a script cannot have letters like those of the first, and the
second is reserved. -/
theorem variable_is_not_read_for_coins_and_null :
    (Naming.checkVariableName "金币" = .ok () ∧ Naming.checkVariableName "null" = .ok ()) ∧
    let s := Store.ofList [("金币", .int 5), ("null", .int 5)]
    (s.get? "金币" = some (.int 5) ∧ s.get? "null" = some (.int 5)) ∧
    (∃ fault, standard "金币" s = .error fault) ∧ ∃ fault, standard "null" s = .error fault := by
  have hcoins : Naming.checkVariableName "金币" = .ok () := by decide +kernel
  have hnull : Naming.checkVariableName "null" = .ok () := by decide +kernel
  exact ⟨⟨hcoins, hnull⟩, ⟨rfl, rfl⟩, ⟨_, rfl⟩, ⟨_, rfl⟩⟩

end Bridge

end ActionGraph
