/-!
# Splitting lists at an element

A list that is made of two parts is split at an element. Where the element does not occur in one of
the parts, the split falls into the other one.
-/

namespace ActionGraph

variable {α : Type} {a : α} {clear other before after : List α}

/-- The element stands in the first part or in the second one. -/
theorem split_cases {first second : List α} (hsplit : first ++ second = before ++ a :: after) :
    (∃ mid, first = before ++ a :: mid ∧ after = mid ++ second) ∨
      ∃ mid, before = first ++ mid ∧ second = mid ++ a :: after := by
  rcases List.append_eq_append_iff.1 hsplit with ⟨mid, hbefore, hsecond⟩ | ⟨mid, hfirst, hrest⟩
  · exact .inr ⟨mid, hbefore, hsecond⟩
  · cases mid with
    | nil => exact .inr ⟨[], by simpa using hfirst.symm, hrest.symm⟩
    | cons other mid =>
      obtain ⟨rfl, rfl⟩ := List.cons.inj hrest
      exact .inl ⟨mid, hfirst, rfl⟩

theorem ne_of_notMem (hclear : a ∉ clear) : clear ≠ before ++ a :: after := by
  rintro rfl
  simp at hclear

theorem exists_split_of_notMem (hclear : a ∉ clear)
    (hsplit : clear ++ other = before ++ a :: after) :
    ∃ mid, before = clear ++ mid ∧ other = mid ++ a :: after := by
  rcases split_cases hsplit with ⟨mid, hfirst, -⟩ | hsecond
  · exact absurd hfirst (ne_of_notMem hclear)
  · exact hsecond

theorem exists_split_of_notMem_right (hclear : a ∉ clear)
    (hsplit : other ++ clear = before ++ a :: after) : ∃ mid, other = before ++ a :: mid := by
  rcases split_cases hsplit with ⟨mid, hfirst, -⟩ | ⟨mid, -, hsecond⟩
  · exact ⟨mid, hfirst⟩
  · exact absurd hsecond (ne_of_notMem hclear)

end ActionGraph
