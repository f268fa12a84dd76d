import ActionGraph.Condition
import ActionGraph.Proofs.Comparison.Laws

/-!
# Comparing with a variable and with its value

A variable is compared with a constant or with another variable. Both conditions come to the verdict
on the same comparison of values (`Verdict.ofComparison`) and only word their errors differently, if
the two variables are of the same type. If they are not, two variables are in no relation and
nothing is said of it, whereas a constant is compared as far as its type allows.
-/

namespace ActionGraph

namespace Comparison

/-- The operator that holds of two values with an order where this one does not. -/
def opposite : Comparison → Comparison
  | .lt => .ge
  | .le => .gt
  | .gt => .le
  | .ge => .lt
  | .eq => .ne
  | .ne => .eq

theorem holds_opposite (op : Comparison) (o : Ordering) :
    op.opposite.holds (some o) = !op.holds (some o) := by
  cases op <;> cases o <;> rfl

end Comparison

/-- Of two values that are compared, and that are numbers if they should be, an operator holds or
its opposite does. -/
theorem Value.compare_opposite {a b : Value} (hnumber : (a.isNaN || b.isNaN) = false)
    {op : Comparison} {holds : Bool} (h : a.compare op b = .ok holds) :
    a.compare op.opposite b = .ok !holds := by
  cases relation a b with
  | ordered o _ _ hcompare _ hnone =>
    cases o with
    | none => exact absurd (hnumber.symm.trans (hnone.1 rfl)) Bool.false_ne_true
    | some o =>
      rw [hcompare, Except.ok.injEq] at h
      rw [hcompare, Comparison.holds_opposite, h]
  | equal same _ _ hcompare =>
    rw [hcompare] at h ⊢
    cases op with
    | eq | ne => cases h; simp [compareEqual, Comparison.opposite]
    | lt | le | gt | ge => cases h
  | apart _ hcompare =>
    rw [hcompare] at h
    cases h

namespace Condition

namespace Verdict

/-- The verdict on a comparison, which an error quotes as `quoted`. -/
def ofComparison (quoted : String) : Except ComparisonFault Bool → Verdict
  | .ok holds => .silent holds
  | .error e => .failed (": `" ++ quoted ++ "`: " ++ e.message)

/-- Whether all that is remarked is one error. -/
def Complains (v : Verdict) : Prop := ∃ text, v.remarks = [.message .error text]

variable {quoted : String} {result : Except ComparisonFault Bool}

theorem complains_ofComparison_iff :
    (ofComparison quoted result).Complains ↔ ∃ fault, result = .error fault := by
  cases result with
  | ok holds => simp [ofComparison, Complains, silent]
  | error fault => simp [ofComparison, Complains, failed]

theorem remarks_ofComparison (hquiet : ¬(ofComparison quoted result).Complains) :
    (ofComparison quoted result).remarks = [] := by
  cases result with
  | ok holds => rfl
  | error fault => exact absurd (complains_ofComparison_iff.2 ⟨fault, rfl⟩) hquiet

/-- How an error quotes a comparison has no influence on its truth. -/
theorem holds_ofComparison (quoted other : String) (result : Except ComparisonFault Bool) :
    (ofComparison quoted result).holds = (ofComparison other result).holds := by
  cases result <;> rfl

end Verdict

variable {session : Session} {store : Store} {left right : String} {a b : Value}

theorem evaluate_constant (hleft : lookup session.scopes store left = some a) (op : Comparison)
    (value : Value) :
    evaluate session store (.constant left op value)
      = .ofComparison (left ++ " " ++ op.symbol ++ " " ++ value.text) (a.compare op value) := by
  rw [evaluate, compareConstant, hleft]
  dsimp only
  cases a.compare op value with
  | ok holds => rfl
  | error fault => simp only [Verdict.ofComparison, String.append_assoc]

section

variable (hleft : lookup session.scopes store left = some a)
  (hright : lookup session.scopes store right = some b)

include hleft hright

theorem evaluate_between_of_eq (htype : a.type = b.type) (op : Comparison) :
    evaluate session store (.between left op right)
      = .ofComparison (left ++ " " ++ op.symbol ++ " " ++ right) (a.compare op b) := by
  have hsame : ¬(a.type != b.type) = true := by simp [htype]
  rw [evaluate, compareVariables, hleft, hright]
  dsimp only
  rw [if_neg hsame]
  cases a.compare op b with
  | ok holds => rfl
  | error fault => simp only [Verdict.ofComparison, String.append_assoc]

theorem evaluate_between_of_ne (htype : a.type ≠ b.type) (op : Comparison) :
    evaluate session store (.between left op right) = .silent false := by
  have hother : (a.type != b.type) = true := by simp [htype]
  rw [evaluate, compareVariables, hleft, hright]
  exact if_pos hother

/-- Where the types are the same, a comparison goes wrong only because they have no order. -/
theorem complains_between_iff (htype : a.type = b.type) (op : Comparison) :
    (evaluate session store (.between left op right)).Complains
      ↔ op.IsOrdering ∧ a.type.IsUnordered := by
  rw [evaluate_between_of_eq hleft hright htype, Verdict.complains_ofComparison_iff]
  constructor
  · rintro ⟨fault, hfault⟩
    rcases Value.compare_error_iff.1 hfault with ⟨hapart, -⟩ | ⟨hordering, -, hunordered, -⟩
    · exact absurd (.inl htype) hapart
    · exact ⟨hordering, hunordered⟩
  · rintro ⟨hordering, hunordered⟩
    exact ⟨_, Value.compare_error_iff.2 (.inr ⟨hordering, htype, hunordered, rfl⟩)⟩

/-- Of variables of the same type, the opposite operator tells the opposite. -/
theorem evaluate_between_opposite (htype : a.type = b.type)
    (hnumber : (a.isNaN || b.isNaN) = false) {op : Comparison} {holds : Bool}
    (h : evaluate session store (.between left op right) = .silent holds) :
    evaluate session store (.between left op.opposite right) = .silent !holds := by
  rw [evaluate_between_of_eq hleft hright htype] at h ⊢
  cases hcompare : a.compare op b with
  | ok told =>
    rw [hcompare] at h
    obtain rfl : told = holds := congrArg Verdict.holds h
    rw [Value.compare_opposite hnumber hcompare]
    rfl
  | error fault =>
    rw [hcompare] at h
    exact nomatch congrArg Verdict.remarks h

/-- **A variable is compared with another one as it is compared with its value**, where both are of
the same type: the truth is the same, and one of the conditions complains if the other one does.
That is so where the operator asks for an order that the values do not have; otherwise nothing is
said. Where the types are not the same, the variables are in no relation, and so neither in one nor
in the opposite one, and nothing is said. A variable equals its own value unless that is not a
number. -/
theorem comparisons_agree :
    (a.type = b.type → ∀ op,
      let between := evaluate session store (.between left op right)
      let constant := evaluate session store (.constant left op b)
      between.holds = constant.holds ∧ (between.Complains ↔ constant.Complains) ∧
        (between.Complains ↔ op.IsOrdering ∧ a.type.IsUnordered) ∧
        (¬between.Complains → between.remarks = [] ∧ constant.remarks = [])) ∧
    (a.type ≠ b.type → ∀ op,
      evaluate session store (.between left op right) = .silent false ∧
        evaluate session store (.between left op.opposite right) = .silent false) ∧
    (a.isNaN = false → evaluate session store (.constant left .eq a) = .silent true) := by
  refine ⟨fun htype op => ?_, fun htype op => ?_, fun hnumber => ?_⟩
  · intro between constant
    have hwhen : between.Complains ↔ _ := complains_between_iff hleft hright htype op
    have hbetween : between = _ := evaluate_between_of_eq hleft hright htype op
    have hconstant : constant = _ := evaluate_constant hleft op b
    have hboth : between.Complains ↔ constant.Complains := by
      rw [hbetween, hconstant, Verdict.complains_ofComparison_iff,
        Verdict.complains_ofComparison_iff]
    refine ⟨?_, hboth, hwhen, fun hquiet => ⟨?_, ?_⟩⟩
    · rw [hbetween, hconstant]
      exact Verdict.holds_ofComparison ..
    · rw [hbetween] at hquiet ⊢
      exact Verdict.remarks_ofComparison hquiet
    · rw [hboth, hconstant] at hquiet
      rw [hconstant]
      exact Verdict.remarks_ofComparison hquiet
  · exact ⟨evaluate_between_of_ne hleft hright htype op,
      evaluate_between_of_ne hleft hright htype op.opposite⟩
  · rw [evaluate_constant hleft, Value.compare_self, hnumber]
    rfl

end

/-- A session that keeps a record, and a rule that this run plays by. -/
def scoreboard : Session :=
  (Session.new.setScoped .persistent "record" (.int 7)).setScoped .runtime "strict" (.bool true)

/-- What the player has at the moment. -/
def tally : Store := .ofList [("score", .int 3), ("won", .bool false), ("share", .float 3)]

theorem comparisons_agree_on_scoreboard :
    (evaluate scoreboard tally (.between "score" .lt "record")).holds
        = (evaluate scoreboard tally (.constant "score" .lt (.int 7))).holds ∧
      (evaluate scoreboard tally (.between "won" .lt "strict")).Complains ∧
      (evaluate scoreboard tally (.constant "won" .lt (.bool true))).Complains ∧
      evaluate scoreboard tally (.between "score" .ne "share") = .silent false ∧
      evaluate scoreboard tally (.constant "score" .eq (.int 3)) = .silent true := by
  have hscore : lookup scoreboard.scopes tally "score" = some (.int 3) := rfl
  have hrecord : lookup scoreboard.scopes tally "record" = some (.int 7) := rfl
  have hwon : lookup scoreboard.scopes tally "won" = some (.bool false) := rfl
  have hstrict : lookup scoreboard.scopes tally "strict" = some (.bool true) := rfl
  have hshare : lookup scoreboard.scopes tally "share" = some (.float 3) := rfl
  obtain ⟨hsame, -, hself⟩ := comparisons_agree hscore hrecord
  obtain ⟨hunordered, -, -⟩ := comparisons_agree hwon hstrict
  obtain ⟨-, hother, -⟩ := comparisons_agree hscore hshare
  have hcomplains := (hunordered rfl .lt).2.2.1.2 ⟨⟨nofun, nofun⟩, .inl rfl⟩
  exact ⟨(hsame rfl .lt).1, hcomplains, (hunordered rfl .lt).2.1.1 hcomplains,
    (hother nofun .ne).1, hself rfl⟩

end Condition

end ActionGraph
