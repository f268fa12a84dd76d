/-!
# Tables

A table lists values under names in strictly increasing order of the names, so that no name stands
twice. Names are compared by their code points. What is written into a table comes to stand in its
place, instead of what stood there under the same name, and it is what is found there.
-/

namespace ActionGraph.Table

variable {α : Type}

def insert (table : List (String × α)) (name : String) (value : α) : List (String × α) :=
  match table with
  | [] => [(name, value)]
  | (other, old) :: rest =>
    if name < other then (name, value) :: (other, old) :: rest
    else if name = other then (name, value) :: rest
    else (other, old) :: insert rest name value

def IsSorted (table : List (String × α)) : Prop := table.Pairwise fun a b => a.1 < b.1

theorem mem_insert {table : List (String × α)} {name : String} {value : α} {entry : String × α}
    (h : entry ∈ insert table name value) : entry.1 = name ∨ entry ∈ table := by
  induction table with
  | nil => simp_all [insert]
  | cons first rest ih => grind [insert]

theorem isSorted_insert {table : List (String × α)} (h : IsSorted table) (name : String)
    (value : α) : IsSorted (insert table name value) := by
  induction table with
  | nil => simp [insert, IsSorted]
  | cons first rest ih =>
    obtain ⟨other, old⟩ := first
    obtain ⟨least, tail⟩ := List.pairwise_cons.1 h
    simp only [insert]
    split
    · rename_i before
      refine List.pairwise_cons.2 ⟨?_, h⟩
      intro entry hentry
      rcases List.mem_cons.1 hentry with rfl | hentry
      · exact before
      · exact String.lt_trans before (least entry hentry)
    · split
      · rename_i same
        subst same
        exact List.pairwise_cons.2 ⟨least, tail⟩
      · rename_i notBefore notSame
        have behind : other < name := Decidable.byContradiction fun n =>
          notSame (String.le_antisymm (String.not_lt.1 n) (String.not_lt.1 notBefore))
        refine List.pairwise_cons.2 ⟨?_, ih tail⟩
        intro entry hentry
        rcases mem_insert hentry with same | hentry
        · exact same ▸ behind
        · exact least entry hentry

/-! ### What is found -/

variable {table : List (String × α)} {name : String}

theorem lookup_cons (entry : String × α) :
    List.lookup name (entry :: table)
      = if name = entry.1 then some entry.2 else List.lookup name table := by
  obtain ⟨known, value⟩ := entry
  rw [List.lookup_cons]
  by_cases hname : name = known
  · rw [beq_iff_eq.2 hname, if_pos hname]
  · rw [beq_false_of_ne hname, if_neg hname]

theorem lookup_insert (table : List (String × α)) (name other : String) (value : α) :
    List.lookup other (insert table name value)
      = if other = name then some value else List.lookup other table := by
  induction table with
  | nil => simp [insert, lookup_cons]
  | cons first rest ih =>
    obtain ⟨known, old⟩ := first
    by_cases hbefore : name < known
    · simp [insert, hbefore, lookup_cons]
    · by_cases hsame : name = known
      · subst hsame
        by_cases hother : other = name <;> simp [insert, lookup_cons, hother]
      · simp only [insert, if_neg hbefore, if_neg hsame, lookup_cons, ih]
        by_cases hknown : other = known
        · simp [hknown, Ne.symm hsame]
        · simp [hknown]

/-! ### Tables as an index -/

/-- From each name the table leads to the place where the name stands, and from no other name to any
place. -/
def IsIndexOf (table : List (String × Nat)) (names : List String) : Prop :=
  ∀ name place, List.lookup name table = some place ↔ names[place]? = some name

theorem isIndexOf_nil : IsIndexOf [] [] := by simp [IsIndexOf]

variable {table : List (String × Nat)} {names : List String}

theorem IsIndexOf.notMem (h : IsIndexOf table names) (hnone : List.lookup name table = none) :
    name ∉ names := by
  intro hmem
  obtain ⟨place, hplace⟩ := List.mem_iff_getElem?.1 hmem
  rw [(h name place).2 hplace] at hnone
  exact nomatch hnone

/-- A name that is new gets the place behind all others. -/
theorem IsIndexOf.insert (h : IsIndexOf table names) (hnone : List.lookup name table = none) :
    IsIndexOf (insert table name names.length) (names ++ [name]) := by
  have hfresh := h.notMem hnone
  intro other place
  rw [lookup_insert]
  by_cases hother : other = name
  · subst hother
    rw [if_pos rfl, List.getElem?_append, List.getElem?_singleton]
    grind
  · rw [if_neg hother, h other place, List.getElem?_append, List.getElem?_singleton]
    grind

end ActionGraph.Table
