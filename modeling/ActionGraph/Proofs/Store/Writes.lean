import ActionGraph.Proofs.Table
import ActionGraph.Store
import Mathlib.Data.List.Induction
import Mathlib.Data.List.Nodup

/-!
# What has been written to a store

A store shows what has been written to it, in whatever way: it lists each name once, in the order in
which the names were first written, and under each name it has the value that was written last. This
is kept by every single write, hence by a list of them and by a merge.

The index plays no part in what is written. That it leads to the slot with the right name is what
makes a lookup find the value that the listing shows.
-/

namespace ActionGraph

/-- Values that were written to names, the first one first. -/
abbrev Writes := List (String × Value)

namespace Writes

/-- The names, in the order in which they were first written. -/
def names (w : Writes) : List String := (w.map Prod.fst).eraseDups

/-- The value that was written last to a name. -/
def latest? (w : Writes) (name : String) : Option Value := w.reverse.lookup name

/-- Each name once, with its last value. -/
def listing (w : Writes) : List (String × Value) :=
  w.names.filterMap fun name => (w.latest? name).map (name, ·)

variable (w : Writes) (name other : String) (value : Value)

theorem latest?_concat : Writes.latest? (w ++ [(name, value)]) other
    = if other = name then some value else w.latest? other := by
  rw [latest?, List.reverse_append, List.reverse_singleton, List.singleton_append,
    Table.lookup_cons]
  rfl

theorem names_concat : Writes.names (w ++ [(name, value)])
    = if name ∈ w.names then w.names else w.names ++ [name] := by
  simp only [names, List.map_append, List.map_cons, List.map_nil, List.eraseDups_append]
  have hsingle : [name].eraseDups = [name] := rfl
  by_cases hmem : name ∈ w.map Prod.fst
  · simp [hmem, List.removeAll]
  · simp [hmem, List.removeAll, hsingle]

theorem names_of_nodup {w : Writes} (h : (w.map Prod.fst).Nodup) : w.names = w.map Prod.fst := by
  induction w using List.reverseRecOn with
  | nil => rfl
  | append_singleton w last ih =>
    rw [List.map_append, List.nodup_append] at h
    obtain ⟨hnodup, -, happart⟩ := h
    obtain ⟨name, value⟩ := last
    have hnew : name ∉ Writes.names w := by
      rw [ih hnodup]
      exact fun hmem => happart name hmem name List.mem_cons_self rfl
    rw [names_concat, if_neg hnew, ih hnodup, List.map_append]
    rfl

/-- Where no name is written twice, what is written is what is listed. -/
theorem listing_of_nodup {w : Writes} (h : (w.map Prod.fst).Nodup) : w.listing = w := by
  have hreverse : (w.reverse.map Prod.fst).Nodup := by
    rwa [List.map_reverse, List.nodup_reverse]
  have hself : ∀ entry ∈ w, (w.latest? entry.1).map (entry.1, ·) = some entry := by
    intro entry hentry
    rw [latest?, Table.lookup_of_mem hreverse (List.mem_reverse.2 hentry), Option.map_some]
  rw [listing, names_of_nodup h, List.filterMap_map]
  exact (List.filterMap_congr hself).trans List.filterMap_some

end Writes

namespace Store

variable {s : Store} {name : String} {slot : Nat} {value : Value}

/-! ### Slots and their index -/

theorem slotOf?_eq_some_iff :
    s.slotOf? name = some slot ↔ ∃ value, s.slots[slot]? = some (name, value) := by
  rw [slotOf?, s.consistent name slot, Slots.names, List.getElem?_map, Option.map_eq_some_iff]
  simp

theorem nodup_names (s : Store) : s.slots.names.Nodup := Table.IsIndexOf.nodup s.consistent

theorem slotOf?_eq_none_iff : s.slotOf? name = none ↔ name ∉ s.slots.names :=
  Table.IsIndexOf.lookup_eq_none_iff s.consistent

/-- A lookup finds the slot that carries the name, so it is never without a value. -/
theorem get?_of_slotOf? (hslot : s.slotOf? name = some slot) :
    ∃ value, s.slots[slot]? = some (name, value) ∧ s.get? name = some value := by
  obtain ⟨value, hentry⟩ := slotOf?_eq_some_iff.1 hslot
  refine ⟨value, hentry, ?_⟩
  rw [get?, hslot, Option.bind_some, inSlot?, hentry, Option.map_some]

theorem get?_eq_some_iff : s.get? name = some value ↔ (name, value) ∈ s.toList := by
  constructor
  · intro hvalue
    obtain ⟨slot, hslot, -⟩ := Option.bind_eq_some_iff.1 hvalue
    obtain ⟨value', hentry, hvalue'⟩ := get?_of_slotOf? hslot
    obtain rfl := Option.some.inj (hvalue.symm.trans hvalue')
    exact List.mem_of_getElem? hentry
  · intro hmem
    obtain ⟨slot, hentry⟩ := List.mem_iff_getElem?.1 hmem
    obtain ⟨value', hentry', hvalue'⟩ := get?_of_slotOf? (slotOf?_eq_some_iff.2 ⟨value, hentry⟩)
    have hsame := hentry.symm.trans hentry'
    simp only [Option.some.injEq, Prod.mk.injEq, true_and] at hsame
    rw [hvalue', hsame]

theorem get?_eq_none_iff : s.get? name = none ↔ name ∉ s.slots.names := by
  rw [← slotOf?_eq_none_iff]
  cases hslot : s.slotOf? name with
  | none => simp [get?, hslot]
  | some slot =>
    obtain ⟨value, -, hvalue⟩ := get?_of_slotOf? hslot
    simp [hvalue]

/-! ### A write -/

theorem names_set (s : Store) (name : String) (value : Value) :
    (s.set name value).slots.names
      = if name ∈ s.slots.names then s.slots.names else s.slots.names ++ [name] := by
  have hnone : s.slotOf? name = none ↔ name ∉ s.slots.names := slotOf?_eq_none_iff
  simp only [set, Register.set]
  split
  · rename_i slot hslot
    have hmem : name ∈ s.slots.names := List.mem_of_getElem? ((s.consistent name slot).1 hslot)
    rw [Slots.names_put, if_pos hmem]
  · rename_i hslot
    rw [if_neg (hnone.1 hslot)]
    simp [Slots.names]

theorem mem_names_set {other : String} :
    other ∈ (s.set name value).slots.names ↔ other = name ∨ other ∈ s.slots.names := by
  rw [names_set]
  split
  · next hmem =>
    constructor
    · exact .inr
    · rintro (rfl | hother)
      · exact hmem
      · exact hother
  · rw [List.mem_append, List.mem_singleton, or_comm]

/-- A name that has a slot keeps it. -/
theorem slotOf?_set_of_some (hslot : s.slotOf? name = some slot) (other : String) (value : Value) :
    (s.set other value).slotOf? name = some slot := by
  have hname := (s.consistent name slot).1 hslot
  refine ((s.set other value).consistent name slot).2 ?_
  rw [names_set]
  split
  · exact hname
  · obtain ⟨hlt, -⟩ := List.getElem?_eq_some_iff.1 hname
    rw [List.getElem?_append_left hlt, hname]

theorem slotOf?_setAll_of_some (hslot : s.slotOf? name = some slot) (bindings : Writes) :
    (s.setAll bindings).slotOf? name = some slot := by
  induction bindings generalizing s with
  | nil => exact hslot
  | cons binding rest ih => exact ih (slotOf?_set_of_some hslot binding.1 binding.2)

theorem slotOf?_set (s : Store) (name : String) (value : Value) :
    (s.set name value).slotOf? name = some ((s.slotOf? name).getD s.size) := by
  cases hslot : s.slotOf? name with
  | some slot => exact slotOf?_set_of_some hslot name value
  | none =>
    have hfresh := slotOf?_eq_none_iff.1 hslot
    refine ((s.set name value).consistent name _).2 ?_
    rw [names_set, if_neg hfresh]
    simp [Slots.names, size]

theorem inSlot?_set (s : Store) (name : String) (value : Value) (slot : Nat) :
    (s.set name value).inSlot? slot
      = if slot = (s.slotOf? name).getD s.size then some value else s.inSlot? slot := by
  cases hslot : s.slotOf? name with
  | some known =>
    obtain ⟨old, hentry⟩ := slotOf?_eq_some_iff.1 hslot
    have hput : (s.set name value).slots = s.slots.put known value := by
      have hindex : s.index.lookup name = some known := hslot
      simp only [set, Register.set, hindex]
    rw [inSlot?, hput, Slots.put, List.getElem?_modify, Option.getD_some]
    by_cases hsame : slot = known
    · simp [hsame, hentry]
    · simp [inSlot?, hsame, Ne.symm hsame]
  | none =>
    have happend : (s.set name value).slots = s.slots ++ [(name, value)] := by
      have hindex : s.index.lookup name = none := hslot
      simp only [set, Register.set, hindex]
    rw [inSlot?, happend, List.getElem?_append, List.getElem?_singleton, Option.getD_none, size,
      inSlot?]
    grind

theorem get?_set (s : Store) (name : String) (value : Value) (other : String) :
    (s.set name value).get? other = if other = name then some value else s.get? other := by
  by_cases hsame : other = name
  · subst hsame
    rw [if_pos rfl, get?, slotOf?_set, Option.bind_some, inSlot?_set, if_pos rfl]
  · rw [if_neg hsame]
    cases hslot : s.slotOf? other with
    | some slot =>
      -- Two names do not share a slot, so the write goes elsewhere.
      have hother := (s.consistent other slot).1 hslot
      have helsewhere : slot ≠ (s.slotOf? name).getD s.size := by
        intro hshared
        have hname := ((s.set name value).consistent name slot).1
          (hshared ▸ slotOf?_set s name value)
        have hkept := ((s.set name value).consistent other slot).1
          (slotOf?_set_of_some hslot name value)
        exact hsame (Option.some.inj (hkept.symm.trans hname))
      rw [get?, slotOf?_set_of_some hslot, Option.bind_some, inSlot?_set, if_neg helsewhere, get?,
        hslot, Option.bind_some]
    | none =>
      have hfresh := slotOf?_eq_none_iff.1 hslot
      have hstill : other ∉ (s.set name value).slots.names := by
        rw [names_set]
        split <;> simp [hfresh, hsame]
      rw [get?_eq_none_iff.2 hstill, get?_eq_none_iff.2 hfresh]

/-! ### Many writes -/

theorem mem_names_setAll {bindings : Writes} :
    name ∈ (s.setAll bindings).slots.names
      ↔ name ∈ bindings.map Prod.fst ∨ name ∈ s.slots.names := by
  induction bindings generalizing s with
  | nil => simp [setAll]
  | cons binding rest ih =>
    have hrest : name ∈ (s.setAll (binding :: rest)).slots.names
        ↔ name ∈ rest.map Prod.fst ∨ name ∈ (s.set binding.1 binding.2).slots.names := ih
    rw [hrest, mem_names_set, List.map_cons, List.mem_cons, or_left_comm, or_assoc]

theorem get?_setAll (s : Store) (ws : Writes) (name : String) :
    (s.setAll ws).get? name = (Writes.latest? ws name).or (s.get? name) := by
  induction ws using List.reverseRecOn with
  | nil => rfl
  | append_singleton ws w ih =>
    obtain ⟨other, value⟩ := w
    have hlast : s.setAll (ws ++ [(other, value)]) = (s.setAll ws).set other value := by
      simp [setAll]
    rw [hlast, get?_set, ih, Writes.latest?_concat]
    by_cases hname : other = name
    · simp [hname]
    · simp [Ne.symm hname]

theorem latest?_toList (s : Store) (name : String) :
    Writes.latest? s.toList name = s.get? name := by
  have hnodup : (s.toList.reverse.map Prod.fst).Nodup := by
    rw [List.map_reverse, List.nodup_reverse]
    exact s.nodup_names
  ext value
  rw [get?_eq_some_iff, ← List.mem_reverse]
  exact ⟨Table.mem_of_lookup, Table.lookup_of_mem hnodup⟩

theorem get?_merge (s other : Store) (name : String) :
    (s.merge other).get? name = (other.get? name).or (s.get? name) := by
  rw [merge, get?_setAll, latest?_toList]

/-- The store lists the names in the order in which they were first written, and has under each
name what was written last. -/
structure Shows (s : Store) (w : Writes) : Prop where
  names_eq : s.slots.names = w.names
  get?_eq : ∀ name, s.get? name = w.latest? name

theorem shows_empty : empty.Shows [] := ⟨rfl, fun _ => rfl⟩

namespace Shows

variable {w : Writes}

theorem set (h : s.Shows w) (name : String) (value : Value) :
    (s.set name value).Shows (w ++ [(name, value)]) where
  names_eq := by rw [names_set, h.names_eq, Writes.names_concat]
  get?_eq other := by rw [get?_set, h.get?_eq, Writes.latest?_concat]

theorem setAll (h : s.Shows w) (bindings : Writes) : (s.setAll bindings).Shows (w ++ bindings) := by
  induction bindings generalizing s w with
  | nil => simpa [Store.setAll] using h
  | cons binding rest ih =>
    obtain ⟨name, value⟩ := binding
    have hrest := ih (h.set name value)
    rw [List.append_assoc] at hrest
    exact hrest

/-- What is iterated over. -/
theorem toList_eq (h : s.Shows w) : s.toList = w.listing := by
  have hself : ∀ entry ∈ s.slots, (w.latest? entry.1).map (entry.1, ·) = some entry := by
    intro entry hentry
    rw [← h.get?_eq, get?_eq_some_iff.2 hentry, Option.map_some]
  rw [Writes.listing, ← h.names_eq, Slots.names, List.filterMap_map, toList]
  exact ((List.filterMap_congr hself).trans List.filterMap_some).symm

theorem merge {more : Writes} {other : Store} (h : s.Shows w) (hother : other.Shows more) :
    (s.merge other).Shows (w ++ more.listing) := by
  rw [Store.merge, hother.toList_eq]
  exact h.setAll more.listing

theorem ofList (bindings : Writes) : (Store.ofList bindings).Shows bindings :=
  shows_empty.setAll bindings

end Shows

end Store

end ActionGraph
