import ActionGraph.Proofs.Store.Handles

/-!
# Merging

A merge lays the bindings of one store over those of another. It comes to the same as if all that
was ever written to the second store had been written to the first, repeats included: what a list of
writes amounts to depends on its listing alone (`Shows.of_listing`). So merging obeys the laws of
appending lists, up to repeats, and a store that is merged twice is merged once.
-/

namespace ActionGraph

namespace Writes

theorem names_append (w more : Writes) :
    Writes.names (w ++ more) = w.names ++ more.names.filter (· ∉ w.names) := by
  induction more using List.reverseRecOn with
  | nil => simp [names]
  | append_singleton more last ih =>
    obtain ⟨name, value⟩ := last
    rw [← List.append_assoc, names_concat, names_concat, ih]
    by_cases hold : name ∈ w.names
    · by_cases hmore : name ∈ Writes.names more <;> simp [hold, hmore]
    · by_cases hmore : name ∈ Writes.names more <;> simp [hold, hmore]

theorem latest?_append (w more : Writes) (name : String) :
    Writes.latest? (w ++ more) name = (more.latest? name).or (w.latest? name) := by
  rw [latest?, List.reverse_append, List.lookup_append]
  rfl

end Writes

namespace Store

variable {s other : Store} {w more : Writes}

/-- A store is as if its bindings had been written to it. -/
theorem shows_toList (s : Store) : s.Shows s.toList where
  names_eq := (Writes.names_of_nodup s.nodup_names).symm
  get?_eq name := (s.latest?_toList name).symm

namespace Shows

theorem listing (h : s.Shows w) : s.Shows w.listing := h.toList_eq ▸ s.shows_toList

/-- What was written behind other writes may as well be all that was written, with repeats, as what
it amounts to. -/
theorem of_listing (h : s.Shows (w ++ more.listing)) : s.Shows (w ++ more) := by
  have hmore : (Store.ofList more).Shows more := .ofList more
  have hnames : Writes.names more.listing = more.names :=
    hmore.listing.names_eq.symm.trans hmore.names_eq
  refine ⟨?_, fun name => ?_⟩
  · rw [h.names_eq, Writes.names_append, hnames, ← Writes.names_append]
  · have hlatest : Writes.latest? more.listing name = more.latest? name :=
      (hmore.listing.get?_eq name).symm.trans (hmore.get?_eq name)
    rw [h.get?_eq, Writes.latest?_append, hlatest, ← Writes.latest?_append]

theorem overlay (h : s.Shows w) (hother : other.Shows more) : (s.merge other).Shows (w ++ more) :=
  (h.merge hother).of_listing

theorem of_twice (h : s.Shows (w ++ w)) : s.Shows w where
  names_eq := by
    rw [h.names_eq, Writes.names_append, List.filter_eq_nil_iff.2 (by simp), List.append_nil]
  get?_eq name := by rw [h.get?_eq, Writes.latest?_append, Option.or_self]

end Shows

/-! ### The laws of merging -/

theorem names_merge (s other : Store) : (s.merge other).slots.names
    = s.slots.names ++ other.slots.names.filter (· ∉ s.slots.names) := by
  rw [(s.shows_toList.overlay other.shows_toList).names_eq, Writes.names_append,
    s.shows_toList.names_eq, other.shows_toList.names_eq]

theorem toList_merge_assoc (s other third : Store) :
    ((s.merge other).merge third).toList = (s.merge (other.merge third)).toList := by
  have hleft := (s.shows_toList.overlay other.shows_toList).overlay third.shows_toList
  have hright := s.shows_toList.overlay (other.shows_toList.overlay third.shows_toList)
  rw [hleft.toList_eq, hright.toList_eq, List.append_assoc]

theorem toList_merge_self (s : Store) : (s.merge s).toList = s.toList := by
  rw [(s.shows_toList.overlay s.shows_toList).of_twice.toList_eq, ← s.shows_toList.toList_eq]

theorem toList_merge_twice (s other : Store) :
    ((s.merge other).merge other).toList = (s.merge other).toList := by
  rw [toList_merge_assoc, merge, toList_merge_self, ← merge]

theorem toList_ofList_append (earlier later : Writes) :
    (ofList (earlier ++ later)).toList = ((ofList earlier).merge (ofList later)).toList := by
  rw [(Shows.ofList (earlier ++ later)).toList_eq,
    ((Shows.ofList earlier).overlay (.ofList later)).toList_eq]

end Store

/-! ### Merging in a depot -/

namespace Depot

/-- A handle that a store accepts is that of a name. -/
theorem KeptStore.exists_find?_of_value {s : KeptStore} {handle : Handle} {value : Value}
    (h : s.value handle = .ok value) : ∃ name, s.find? name = some handle := by
  rw [KeptStore.value] at h
  split at h
  · rename_i hid
    cases hslot : s.contents.slots[handle.slot]? with
    | none => simp [Store.inSlot?, hslot] at h
    | some entry =>
      refine ⟨entry.1, ?_⟩
      rw [KeptStore.find?, Store.slotOf?_eq_some_iff.2 ⟨entry.2, hslot⟩, Option.map_some, ← hid]
  · simp at h

/-- A handle is good for a name, and stays so when another store is merged. -/
theorem KeptStore.exists_value_merge {s : KeptStore} {handle : Handle} {value : Value}
    (h : s.value handle = .ok value) (other : KeptStore) :
    ∃ name later, s.find? name = some handle ∧ (s.merge other).find? name = some handle ∧
      (s.merge other).contents.get? name = some later ∧
      (s.merge other).value handle = .ok later := by
  obtain ⟨name, hfind⟩ := exists_find?_of_value h
  obtain ⟨slot, hslot, rfl⟩ := Option.map_eq_some_iff.1 hfind
  have hkept : (s.merge other).contents.slotOf? name = some slot :=
    Store.slotOf?_setAll_of_some hslot other.contents.toList
  have hid : Handle.store ⟨s.id, slot⟩ = (s.merge other).id := rfl
  obtain ⟨later, hlater, hvalue⟩ := exists_value hid hkept
  refine ⟨name, later, hfind, ?_, hlater, hvalue⟩
  rw [KeptStore.find?, hkept, Option.map_some]
  rfl

/-- **Merging lays one store over another.** In a depot nothing changes but the store that is merged
into. There a name has its value in the other store, if it has one in it, and otherwise keeps the
one that it had; the names stay in their order, with the new ones of the other store behind them in
theirs; and every handle that was good is still good for the same name. It does not matter how three
stores are put together, and merging a store with itself, or with another one a second time, adds
nothing. What is written in two parts is the second part laid over the first: each name once, where
it first came, with its last value. -/
theorem merging_is_an_overlay (s other third : KeptStore) :
    (∀ (d : Depot) label source, d.get? label = some s → d.get? source = some other →
        (d.run (.merge label source)).get? label = some (s.merge other) ∧
        ∀ label', label' ≠ label → (d.run (.merge label source)).get? label' = d.get? label') ∧
    (∀ name, (s.merge other).contents.get? name
      = (other.contents.get? name).or (s.contents.get? name)) ∧
    (s.merge other).contents.slots.names = s.contents.slots.names ++
      other.contents.slots.names.filter (· ∉ s.contents.slots.names) ∧
    (∀ handle value, s.value handle = .ok value →
      ∃ name later, s.find? name = some handle ∧ (s.merge other).find? name = some handle ∧
        (s.merge other).contents.get? name = some later ∧
        (s.merge other).value handle = .ok later) ∧
    ((s.merge other).merge third).contents.toList = (s.merge (other.merge third)).contents.toList ∧
    (s.merge s).contents.toList = s.contents.toList ∧
    ((s.merge other).merge other).contents.toList = (s.merge other).contents.toList ∧
    ∀ earlier later : Writes,
      (Store.ofList (earlier ++ later)).toList
        = ((Store.ofList earlier).merge (.ofList later)).toList ∧
      (Store.ofList (earlier ++ later)).toList = Writes.listing (earlier ++ later) := by
  refine ⟨?depot, s.contents.get?_merge other.contents, s.contents.names_merge other.contents,
    fun handle value h => KeptStore.exists_value_merge h other,
    s.contents.toList_merge_assoc other.contents third.contents, s.contents.toList_merge_self,
    s.contents.toList_merge_twice other.contents, fun earlier later =>
      ⟨Store.toList_ofList_append earlier later, (Store.Shows.ofList _).toList_eq⟩⟩
  intro d label source hs hother
  have hrun : d.run (.merge label source) = d.update label (·.merge other) := by
    rw [run, hother]
  refine ⟨?_, fun label' hlabel' => ?_⟩
  · rw [hrun, get?_update, if_pos rfl, hs, Option.map_some]
  · rw [hrun, get?_update, if_neg hlabel']

/-- A hero takes what lies in a chest: the coins there are the new ones, and the handle of the coins
shows them. -/
theorem merging_is_an_overlay_in_chest :
    let hero : KeptStore := ⟨1, .ofList [("coins", .int 1), ("hungry", .bool true)]⟩
    let chest : KeptStore := ⟨2, .ofList [("key", .bool true), ("coins", .int 5)]⟩
    let d : Depot := ⟨3, [("hero", hero), ("chest", chest)]⟩
    (∃ s, (d.run (.merge "hero" "chest")).get? "hero" = some s ∧
      s.contents.slots.names = ["coins", "hungry", "key"] ∧ s.value ⟨1, 0⟩ = .ok (.int 5)) ∧
    (d.run (.merge "hero" "chest")).get? "chest" = some chest := by
  intro hero chest d
  obtain ⟨hdepot, hvalues, hnames, hhandles, -⟩ := merging_is_an_overlay hero chest hero
  obtain ⟨hhero, hothers⟩ := hdepot d "hero" "chest" rfl rfl
  have hcoins : hero.value ⟨1, 0⟩ = .ok (.int 1) := rfl
  obtain ⟨name, later, hfind, -, hlater, hvalue⟩ := hhandles _ _ hcoins
  have hname : name = "coins" := by
    obtain ⟨slot, hslot, hhandle⟩ := Option.map_eq_some_iff.1 hfind
    obtain rfl : slot = 0 := congrArg Handle.slot hhandle
    exact Option.some.inj ((hero.contents.consistent name 0).1 hslot).symm
  subst hname
  obtain rfl : .int 5 = later := Option.some.inj ((hvalues "coins").symm.trans hlater)
  exact ⟨⟨_, hhero, hnames, hvalue⟩, hothers "chest" (by decide)⟩

end Depot

end ActionGraph
