import ActionGraph.Json.Decoder
import ActionGraph.Proofs.Except
import ActionGraph.Proofs.Table

/-!
# Finished values

A value that is finished reads as itself. Where its members are sorted, sorting leaves it as it is,
and it makes no difference in which place an object had a member.
-/

namespace ActionGraph.Json

/-! ### Reading finished values -/

mutual

theorem anyValue_ofJson : (value : Json) → anyValue .value (Reading.ofJson value) = .ok value
  | .null => rfl
  | .bool _ => rfl
  | .number _ => rfl
  | .string _ => rfl
  | .array items => by
    have hitems := anyItems_ofItems items
    simp only [Reading.ofJson, anyValue, Origin.enter, ok_bind, hitems, endOf]
    rfl
  | .object members => by
    have hmembers := anyMembers_ofMembers members
    simp only [Reading.ofJson, anyValue, Origin.enter, ok_bind, hmembers, endOf]
    rfl

theorem anyItems_ofItems : (items : List Json) →
    anyItems .value (Reading.ofItems items) = .ok items
  | [] => rfl
  | item :: rest => by
    have hitem := anyValue_ofJson item
    have hrest := anyItems_ofItems rest
    simp only [Reading.ofItems, anyItems, hitem, hrest]
    rfl

theorem anyMembers_ofMembers : (members : List (String × Json)) →
    anyMembers .value (Reading.ofMembers members) = .ok members
  | [] => rfl
  | (name, value) :: rest => by
    have hvalue := anyValue_ofJson value
    have hrest := anyMembers_ofMembers rest
    simp only [Reading.ofMembers, anyMembers, kept, hvalue, hrest]
    rfl

end

/-! ### Sorted values -/

/-- Members in order of their names, with nothing left to sort in them. -/
structure Members.IsSorted (members : Members) : Prop where
  names : Table.IsSorted members
  values : ∀ entry ∈ members, entry.2.sorted = entry.2

namespace Members.IsSorted

variable {members : Members} {name : String} {value : Json}

theorem nil : IsSorted [] := ⟨List.Pairwise.nil, by simp⟩

theorem insert (h : members.IsSorted) (name : String) (hvalue : value.sorted = value) :
    (members.insert name value).IsSorted := by
  refine ⟨Table.isSorted_insert h.names name value, fun entry hentry => ?_⟩
  rcases Table.eq_or_mem_of_mem_insert hentry with rfl | hold
  · exact hvalue
  · exact h.values entry hold

end Members.IsSorted

theorem sortedItems_eq_map (items : List Json) : sortedItems items = items.map sorted := by
  induction items with
  | nil => rfl
  | cons item rest ih => rw [sortedItems, ih, List.map_cons]

theorem sortedMembers_eq_append (before : Members) {members : Members}
    (h : (before ++ members : Members).IsSorted) :
    sortedMembers before members = before ++ members := by
  -- Every member comes behind all those before it, so to insert it is to append it.
  induction members generalizing before with
  | nil => rw [sortedMembers, List.append_nil]
  | cons entry rest ih =>
    obtain ⟨name, value⟩ := entry
    have hlast : ∀ entry ∈ before, entry.1 < name := fun entry hentry =>
      (List.pairwise_append.1 h.names).2.2 entry hentry (name, value) List.mem_cons_self
    have hvalue : value.sorted = value := h.values (name, value) (by simp)
    have hsplit : before ++ (name, value) :: rest = (before ++ [(name, value)]) ++ rest := by simp
    rw [sortedMembers, hvalue, Members.insert, Table.insert_of_forall_lt hlast, hsplit]
    exact ih _ (hsplit ▸ h)

theorem sortedMembers_of_isSorted {members : Members} (h : members.IsSorted) :
    sortedMembers [] members = members := sortedMembers_eq_append [] h

theorem sorted_object {members : Members} (h : members.IsSorted) :
    (Json.object members).sorted = .object members := by
  rw [sorted, sortedMembers_of_isSorted h]

/-- A member of another name may as well be inserted at the end. -/
theorem sortedMembers_insert {members : Members} {name : String}
    (hname : name ∉ members.map Prod.fst) (before : Members) (value : Json) :
    sortedMembers (before.insert name value) members
      = (sortedMembers before members).insert name value := by
  induction members generalizing before with
  | nil => simp only [sortedMembers]
  | cons entry rest ih =>
    obtain ⟨other, value'⟩ := entry
    obtain ⟨hother, hrest⟩ := List.ne_and_not_mem_of_not_mem_cons hname
    have hcomm : (before.insert name value).insert other value'.sorted
        = (before.insert other value'.sorted).insert name value := Table.insert_comm hother ..
    rw [sortedMembers, sortedMembers, hcomm]
    exact ih hrest _

end ActionGraph.Json
