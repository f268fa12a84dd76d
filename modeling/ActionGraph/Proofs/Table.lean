import ActionGraph.Table
import Mathlib.Data.List.Nodup

/-!
# Looking into tables

What a table has under a name, and where an insertion comes to stand. The order in which different
names are inserted does not matter.
-/

namespace ActionGraph.Table

variable {α : Type} {table : List (String × α)} {name other : String}

theorem lookup_eq_none_iff : List.lookup name table = none ↔ name ∉ table.map Prod.fst := by
  induction table with
  | nil => simp
  | cons first rest ih =>
    rw [lookup_cons]
    by_cases hname : name = first.1 <;> simp [hname, ih]

theorem mem_of_lookup {value : α} (h : List.lookup name table = some value) :
    (name, value) ∈ table := by
  obtain ⟨before, behind, htable, -⟩ := List.lookup_eq_some_iff.1 h
  rw [htable]
  exact List.mem_append_right _ List.mem_cons_self

theorem lookup_of_mem {value : α} (hnodup : (table.map Prod.fst).Nodup)
    (hmem : (name, value) ∈ table) : List.lookup name table = some value := by
  induction table with
  | nil => exact nomatch hmem
  | cons first rest ih =>
    rw [List.map_cons, List.nodup_cons] at hnodup
    rw [lookup_cons]
    rcases List.mem_cons.1 hmem with rfl | hrest
    · rw [if_pos rfl]
    · have hne : name ≠ first.1 := by
        rintro rfl
        exact hnodup.1 (List.mem_map.2 ⟨_, hrest, rfl⟩)
      rw [if_neg hne, ih hnodup.2 hrest]

theorem eq_or_mem_of_mem_insert {value : α} {entry : String × α}
    (h : entry ∈ insert table name value) : entry = (name, value) ∨ entry ∈ table := by
  induction table with
  | nil => exact .inl (List.mem_singleton.1 h)
  | cons first rest ih =>
    rw [insert] at h
    split at h
    · exact List.mem_cons.1 h
    · split at h
      · exact (List.mem_cons.1 h).imp_right (List.mem_cons_of_mem _)
      · rcases List.mem_cons.1 h with rfl | hrest
        · exact .inr List.mem_cons_self
        · exact (ih hrest).imp_right (List.mem_cons_of_mem _)

/-- What is inserted under a new name stands between entries that stay as they are. -/
theorem exists_split_insert (hnew : name ∉ table.map Prod.fst) (value : α) :
    ∃ before behind, table = before ++ behind ∧
      insert table name value = before ++ (name, value) :: behind := by
  induction table with
  | nil => exact ⟨[], [], rfl, rfl⟩
  | cons first rest ih =>
    obtain ⟨hfirst, hlater⟩ := List.ne_and_not_mem_of_not_mem_cons hnew
    by_cases hbefore : name < first.1
    · refine ⟨[], first :: rest, rfl, ?_⟩
      simp only [insert, if_pos hbefore, List.nil_append]
    · obtain ⟨before, behind, rfl, hinsert⟩ := ih hlater
      refine ⟨first :: before, behind, rfl, ?_⟩
      simp only [insert, if_neg hbefore, if_neg hfirst, hinsert, List.cons_append]

theorem insert_of_forall_lt (h : ∀ entry ∈ table, entry.1 < name) (value : α) :
    insert table name value = table ++ [(name, value)] := by
  induction table with
  | nil => rfl
  | cons first rest ih =>
    obtain ⟨hfirst, hrest⟩ := List.forall_mem_cons.1 h
    have hbefore : ¬name < first.1 := fun hlt => String.lt_irrefl _ (String.lt_trans hlt hfirst)
    have hsame : ¬name = first.1 := fun heq => String.lt_irrefl _ (heq ▸ hfirst)
    simp only [insert, if_neg hbefore, if_neg hsame, ih hrest, List.cons_append]

theorem insert_comm (hne : name ≠ other) (value value' : α) :
    insert (insert table name value) other value'
      = insert (insert table other value') name value := by
  induction table with
  | nil => grind [insert, String.lt_trans, String.le_antisymm, String.not_lt]
  | cons first rest ih => grind [insert, String.lt_trans, String.le_antisymm, String.not_lt]

/-! ### Tables as an index -/

section

variable {index : List (String × Nat)} {names : List String}

/-- No name stands twice, as one place is all that the index has for it. -/
theorem IsIndexOf.nodup (h : IsIndexOf index names) : names.Nodup := by
  rw [List.nodup_iff_getElem?_ne_getElem?]
  intro i j hij hj hsame
  obtain ⟨name, hname⟩ : ∃ name, names[j]? = some name := ⟨_, List.getElem?_eq_getElem hj⟩
  have hplacej := (h name j).2 hname
  have hplacei := (h name i).2 (hsame.trans hname)
  rw [hplacej, Option.some.injEq] at hplacei
  omega

theorem IsIndexOf.lookup_eq_none_iff (h : IsIndexOf index names) :
    List.lookup name index = none ↔ name ∉ names := by
  refine ⟨h.notMem, fun hfresh => ?_⟩
  cases hplace : List.lookup name index with
  | none => rfl
  | some place => exact absurd (List.mem_of_getElem? ((h name place).1 hplace)) hfresh

end

end ActionGraph.Table
