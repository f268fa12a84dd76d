import ActionGraph.Proofs.Json.Values
import Mathlib.Algebra.Group.Int.Defs

/-!
# Valid values

A value is valid if its numbers are such as JSON has: whole ones of 64 bits, and finite ones. A
property of what a decoder makes of valid values is shown part by part (`Decoder.Yields`): for a
list from its items, for a record from what each field does to it.
-/

namespace ActionGraph.Json

/-- Whether a number is one of those that a value can hold. -/
def Number.IsValid : Number → Prop
  | .integer i => -2 ^ 63 ≤ i ∧ i < 2 ^ 64
  | .real x => x.isFinite = true

mutual

def IsValid : Json → Prop
  | .number n => n.IsValid
  | .array items => ItemsValid items
  | .object members => MembersValid members
  | .null | .bool _ | .string _ => True

def ItemsValid : List Json → Prop
  | [] => True
  | item :: rest => item.IsValid ∧ ItemsValid rest

def MembersValid : List (String × Json) → Prop
  | [] => True
  | (_, value) :: rest => value.IsValid ∧ MembersValid rest

end

theorem membersValid_iff {members : Members} :
    MembersValid members ↔ ∀ entry ∈ members, entry.2.IsValid := by
  induction members with
  | nil => simp [MembersValid]
  | cons entry rest ih => rw [MembersValid, ih, List.forall_mem_cons]

theorem membersValid_insert {members : Members} (h : MembersValid members) (name : String)
    {value : Json} (hvalue : value.IsValid) : MembersValid (members.insert name value) := by
  rw [membersValid_iff] at h ⊢
  intro entry hentry
  rcases Table.eq_or_mem_of_mem_insert hentry with rfl | hold
  · exact hvalue
  · exact h entry hold

/-! ### Sorting -/

mutual

theorem isValid_sorted : (value : Json) → value.IsValid → value.sorted.IsValid
  | .null, h | .bool _, h | .number _, h | .string _, h => h
  | .array items, h => by
    rw [IsValid] at h
    rw [sorted, IsValid]
    exact itemsValid_sortedItems items h
  | .object members, h => by
    rw [IsValid] at h
    rw [sorted, IsValid]
    exact membersValid_sortedMembers [] members trivial h

theorem itemsValid_sortedItems : (items : List Json) → ItemsValid items →
    ItemsValid (sortedItems items)
  | [], h => h
  | item :: rest, h => by
    rw [ItemsValid] at h
    rw [sortedItems, ItemsValid]
    exact ⟨isValid_sorted item h.1, itemsValid_sortedItems rest h.2⟩

theorem membersValid_sortedMembers (before : Members) : (members : List (String × Json)) →
    MembersValid before → MembersValid members → MembersValid (sortedMembers before members)
  | [], hbefore, _ => hbefore
  | (name, value) :: rest, hbefore, h => by
    rw [MembersValid] at h
    have hinsert := membersValid_insert hbefore name (isValid_sorted value h.1)
    rw [sortedMembers]
    exact membersValid_sortedMembers _ rest hinsert h.2

end

mutual

/-- There is nothing left to sort. -/
theorem sorted_sorted : (value : Json) → value.sorted.sorted = value.sorted
  | .null | .bool _ | .number _ | .string _ => rfl
  | .array items => by rw [sorted, sorted, sortedItems_sortedItems items]
  | .object members => by
    have hsorted := isSorted_sortedMembers [] members .nil
    rw [sorted, sorted_object hsorted]

theorem sortedItems_sortedItems : (items : List Json) →
    sortedItems (sortedItems items) = sortedItems items
  | [] => rfl
  | item :: rest => by
    rw [sortedItems, sortedItems, sorted_sorted item, sortedItems_sortedItems rest]

theorem isSorted_sortedMembers (before : Members) : (members : List (String × Json)) →
    before.IsSorted → (sortedMembers before members).IsSorted
  | [], hbefore => hbefore
  | (name, value) :: rest, hbefore => by
    rw [sortedMembers]
    exact isSorted_sortedMembers _ rest (hbefore.insert name (sorted_sorted value))

end

/-! ### What decoders make of valid values -/

variable {α σ : Type} {d : Decoder α} {P : α → Prop}

/-- Whatever the decoder makes of a valid value has the property. -/
def Decoder.Yields (d : Decoder α) (P : α → Prop) : Prop :=
  ∀ value, value.IsValid → ∀ a, decodeValue d value = .ok a → P a

namespace Decoder.Yields

theorem trivial : d.Yields fun _ => True := fun _ _ _ _ => True.intro

theorem items (h : d.Yields P) : (values : List Json) → ItemsValid values → ∀ as,
    Decoder.items d .value (Reading.ofItems values) = .ok as → ∀ a ∈ as, P a
  | [], _, as, has => by
    cases has
    simp
  | value :: rest, hvalid, as, has => by
    simp only [Reading.ofItems, Decoder.items, bind_eq_ok_iff] at has
    obtain ⟨a, ha, others, hothers, has⟩ := has
    cases has
    exact List.forall_mem_cons.2 ⟨h value hvalid.1 a ha, items h rest hvalid.2 others hothers⟩

theorem list (h : d.Yields P) : d.list.Yields fun as => ∀ a ∈ as, P a := by
  intro value hvalid as has
  cases value with
  | array values =>
    simp only [decodeValue, Reading.ofJson, Decoder.list, Origin.enter, endOf, ok_bind,
      bind_eq_ok_iff] at has
    obtain ⟨as', has', has⟩ := has
    cases has
    exact items h values hvalid as has'
  | number n => cases n <;> exact nomatch has
  | null | bool | string | object => exact nomatch has

theorem entries (h : d.Yields P) {add : σ → String → α → σ} {Q : σ → Prop}
    (hadd : ∀ state name a, Q state → P a → Q (add state name a)) :
    (members : Members) → MembersValid members → ∀ state result, Q state →
      Decoder.entries d add .value state (Reading.ofMembers members) = .ok result → Q result
  | [], _, state, result, hstate, hresult => by
    cases hresult
    exact hstate
  | (name, value) :: rest, hvalid, state, result, hstate, hresult => by
    simp only [Reading.ofMembers, Decoder.entries, kept, ok_bind, bind_eq_ok_iff] at hresult
    obtain ⟨a, ha, hresult⟩ := hresult
    exact entries h hadd rest hvalid.2 _ result (hadd state name a hstate (h value hvalid.1 a ha))
      hresult

theorem table (h : d.Yields P) {add : σ → String → α → σ} {empty : σ} {Q : σ → Prop}
    (hempty : Q empty) (hadd : ∀ state name a, Q state → P a → Q (add state name a)) :
    (d.table add empty).Yields Q := by
  intro value hvalid result hresult
  cases value with
  | object members =>
    simp only [decodeValue, Reading.ofJson, Decoder.table, Origin.enter, endOf, ok_bind,
      bind_eq_ok_iff] at hresult
    obtain ⟨state, hstate, hresult⟩ := hresult
    cases hresult
    exact entries h hadd members hvalid empty result hempty hstate
  | number n => cases n <;> exact nomatch hresult
  | null | bool | string | array => exact nomatch hresult

end Decoder.Yields

/-! ### Records -/

/-- Setting the field to something valid keeps a property of the record. -/
def Field.Keeps (field : Field σ) (Q : σ → Prop) : Prop :=
  ∀ value record record', value.IsValid → Q record →
    field.set .value (Reading.ofJson value) record = .ok record' → Q record'

theorem Field.keeps_of {name : String} {required : Bool} {put : α → σ → σ} {Q : σ → Prop}
    (h : d.Yields P) (hput : ∀ a record, Q record → P a → Q (put a record)) :
    (Field.of name required d put).Keeps Q := by
  intro value record record' hvalid hrecord hset
  change (d .value (Reading.ofJson value)).map (put · record) = .ok record' at hset
  cases ha : d .value (Reading.ofJson value) with
  | error e =>
    rw [ha] at hset
    exact nomatch hset
  | ok a =>
    rw [ha] at hset
    cases hset
    exact hput a record hrecord (h value hvalid a ha)

namespace Record

variable {k : Record σ} {Q : σ → Prop}

theorem setMembers_keeps (h : ∀ field ∈ k.fields, field.Keeps Q) : (members : Members) →
    MembersValid members → ∀ seen record result, Q record →
      k.setMembers .value seen record (Reading.ofMembers members) = .ok result → Q result.2
  | [], _, seen, record, result, hrecord, hresult => by
    cases hresult
    exact hrecord
  | (name, value) :: rest, hvalid, seen, record, result, hrecord, hresult => by
    simp only [Reading.ofMembers, setMembers, kept, ok_bind] at hresult
    split at hresult
    · obtain ⟨_, _, hresult⟩ := bind_eq_ok_iff.1 hresult
      exact setMembers_keeps h rest hvalid.2 seen record result hrecord hresult
    · rename_i field hfield
      split at hresult
      · exact nomatch hresult
      · obtain ⟨record', hset, hresult⟩ := bind_eq_ok_iff.1 hresult
        have hkept := h field (List.mem_of_find?_eq_some hfield) value record record' hvalid.1
          hrecord hset
        exact setMembers_keeps h rest hvalid.2 _ record' result hkept hresult

theorem setItems_keeps : (fields : List (Field σ)) → (∀ field ∈ fields, field.Keeps Q) →
    ∀ index values record result, ItemsValid values → Q record →
      k.setItems .value none index fields (Reading.ofItems values) record = .ok result →
        Q result.2
  | [], _, index, values, record, result, _, hrecord, hresult => by
    cases values <;> (cases hresult; exact hrecord)
  | field :: fields, h, index, [], record, result, hvalid, hrecord, hresult => by
    simp only [Reading.ofItems, setItems, endOf, ok_bind] at hresult
    split at hresult
    · exact nomatch hresult
    · exact setItems_keeps fields (List.forall_mem_cons.1 h).2 _ [] record result hvalid hrecord
        hresult
  | field :: fields, h, index, value :: rest, record, result, hvalid, hrecord, hresult => by
    obtain ⟨hfield, hfields⟩ := List.forall_mem_cons.1 h
    simp only [Reading.ofItems, setItems] at hresult
    obtain ⟨record', hset, hresult⟩ := bind_eq_ok_iff.1 hresult
    have hkept := hfield value record record' hvalid.1 hrecord hset
    exact setItems_keeps fields hfields _ rest record' result hvalid.2 hkept hresult

/-- What holds of the initial record and is kept by each field holds of every record. -/
theorem decoder_yields (h : ∀ field ∈ k.fields, field.Keeps Q) (hinitial : Q k.initial) :
    k.decoder.Yields Q := by
  intro value hvalid record hrecord
  cases value with
  | array values =>
    simp only [decodeValue, Reading.ofJson, decoder, Origin.enter, ok_bind, bind_eq_ok_iff]
      at hrecord
    obtain ⟨result, hresult, _, _, hrecord⟩ := hrecord
    cases hrecord
    exact setItems_keeps k.fields h 0 values k.initial result hvalid hinitial hresult
  | object members =>
    simp only [decodeValue, Reading.ofJson, decoder, Origin.enter, ok_bind, bind_eq_ok_iff]
      at hrecord
    obtain ⟨result, hresult, _, _, _, _, hrecord⟩ := hrecord
    cases hrecord
    exact setMembers_keeps h members hvalid [] k.initial result hinitial hresult
  | number n => cases n <;> exact nomatch hrecord
  | null | bool | string => exact nomatch hrecord

end Record

end ActionGraph.Json
