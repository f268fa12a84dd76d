import ActionGraph.Proofs.Store.Annals
import Mathlib.Algebra.Group.Nat.Defs

/-!
# Handles over the life of a store

A handle is good for one birth. Whatever happens afterwards, the store of that birth has the name of
the handle in the same slot (`KeepsSlot.append`), so the handle shows what a lookup finds. A store
of another birth has another identity, as long as there are not too many stores, and refuses it.
-/

namespace ActionGraph

namespace Depot

/-- The store with this birth has the name in this slot, as long as the store is there. -/
def KeepsSlot (birth : Nat) (name : String) (slot : Nat) (a : Annals) (d : Depot) : Prop :=
  ∀ label life s, a.lives label = some life → d.get? label = some s → life.birth = birth →
    s.contents.slotOf? name = some slot

variable {birth : Nat} {name : String} {slot : Nat} {a a' : Annals} {d d' : Depot}

theorem Step.keepsSlot (hstep : Step a d a' d') (hbirth : birth < a.births)
    (h : KeepsSlot birth name slot a d) :
    birth < a'.births ∧ KeepsSlot birth name slot a' d' := by
  cases hstep with
  | idle => exact ⟨hbirth, h⟩
  | bear label hshows =>
    refine ⟨Nat.lt_succ_of_lt hbirth, ?_⟩
    intro other life s hlife hs hsame
    rw [get?_create] at hs
    simp only [Annals.bear] at hlife
    by_cases hother : other = label
    · -- The store that is created has a later birth.
      rw [if_pos hother, Option.some.injEq] at hlife
      subst hlife
      exact absurd hsame (Nat.ne_of_gt hbirth)
    · rw [if_neg hother] at hlife hs
      exact h other life s hlife hs hsame
  | @write label more f hf =>
    refine ⟨hbirth, ?_⟩
    intro other life s hlife hs hsame
    obtain ⟨earlier, hearlier, hsame'⟩ := Annals.exists_of_write hlife
    rw [get?_update] at hs
    by_cases hother : other = label
    · subst hother
      rw [if_pos rfl] at hs
      obtain ⟨s', hs', rfl⟩ := Option.map_eq_some_iff.1 hs
      exact hf.slotOf?_eq s' name slot (h other earlier s' hearlier hs' (hsame'.trans hsame))
    · rw [if_neg hother] at hs
      exact h other earlier s hearlier hs (hsame'.trans hsame)

/-- The slot is kept by whatever comes after. -/
theorem KeepsSlot.append {commands : List Command} (more : List Command)
    (hbirth : birth < (Annals.after commands).births)
    (h : KeepsSlot birth name slot (.after commands) (after commands)) :
    birth < (Annals.after (commands ++ more)).births ∧
      KeepsSlot birth name slot (.after (commands ++ more)) (after (commands ++ more)) := by
  induction more using List.reverseRecOn with
  | nil => exact (List.append_nil commands).symm ▸ ⟨hbirth, h⟩
  | append_singleton more command ih =>
    have hstep := (records_after (commands ++ more)).step command
    rw [← List.append_assoc, Annals.after_concat, after_concat]
    exact hstep.keepsSlot ih.1 ih.2

/-- A handle that the store under a label has given out for a name: it was found there, or the write
that was carried out last has returned it. -/
inductive Obtained (label name : String) : List Command → Handle → Prop where
  | found {commands : List Command} {s : KeptStore} {handle : Handle}
    (hs : (after commands).get? label = some s) (hfind : s.find? name = some handle) :
    Obtained label name commands handle
  | returned {commands : List Command} {s : KeptStore} (value : Value)
    (hs : (after commands).get? label = some s) :
    Obtained label name (commands ++ [.set label name value]) (s.set name value).2

/-- What a write returns is found afterwards. -/
theorem Obtained.exists_find? {label : String} {commands : List Command} {handle : Handle}
    (h : Obtained label name commands handle) :
    ∃ s, (after commands).get? label = some s ∧ s.find? name = some handle := by
  cases h with
  | found hs hfind => exact ⟨_, hs, hfind⟩
  | @returned commands s value hs =>
    refine ⟨(s.set name value).1, ?_, ?_⟩
    · rw [after_concat, run, get?_update, if_pos rfl, hs, Option.map_some]
    · rw [KeptStore.find?, KeptStore.set, Store.slotOf?_set, Option.map_some]

/-- Identities are as different as births. -/
theorem Life.IsOf.id_ne {life life' : Life} {s s' : KeptStore} (h : life.IsOf s)
    (h' : life'.IsOf s') (hbirth : life.birth + 1 < 2 ^ 64) (hbirth' : life'.birth + 1 < 2 ^ 64)
    (hne : life'.birth ≠ life.birth) : s.id ≠ s'.id := by
  intro hsame
  rw [h.id_eq, h'.id_eq] at hsame
  have hnat := congrArg UInt64.toNat hsame
  rw [UInt64.toNat_ofNat_of_lt' hbirth, UInt64.toNat_ofNat_of_lt' hbirth'] at hnat
  omega

/-- A handle of a store that has the name in the slot shows what a lookup finds. -/
theorem KeptStore.exists_value {s : KeptStore} {handle : Handle} (hid : handle.store = s.id)
    (hslot : s.contents.slotOf? name = some handle.slot) :
    ∃ value, s.contents.get? name = some value ∧ s.value handle = .ok value := by
  obtain ⟨value, hentry, hvalue⟩ := Store.get?_of_slotOf? hslot
  refine ⟨value, hvalue, ?_⟩
  rw [KeptStore.value, if_pos hid, Store.inSlot?, hentry]
  rfl

/-- A handle goes with the store of its birth. -/
theorem Obtained.value_eq {label label' : String} {commands more : List Command} {handle : Handle}
    {life life' : Life} {s' : KeptStore} (h : Obtained label name commands handle)
    (hlife : (Annals.after commands).lives label = some life)
    (hlife' : (Annals.after (commands ++ more)).lives label' = some life')
    (hs' : (after (commands ++ more)).get? label' = some s') :
    (life'.birth = life.birth →
      ∃ value, s'.contents.get? name = some value ∧ s'.value handle = .ok value) ∧
    (life'.birth ≠ life.birth → (Annals.after (commands ++ more)).births < 2 ^ 64 →
      s'.value handle = .error .foreignHandle) := by
  obtain ⟨s, hs, hfind⟩ := h.exists_find?
  obtain ⟨slot, hslot, rfl⟩ := Option.map_eq_some_iff.1 hfind
  have hrec := records_after commands
  have hrec' := records_after (commands ++ more)
  have hof := hrec.isOf hlife hs
  have hof' := hrec'.isOf hlife' hs'
  have hkeeps : KeepsSlot life.birth name slot (.after commands) (after commands) := by
    intro other life₂ s₂ hlife₂ hs₂ hsame
    obtain rfl := hrec.birth_inj _ _ _ _ hlife₂ hlife hsame
    rw [hs, Option.some.injEq] at hs₂
    exact hs₂ ▸ hslot
  obtain ⟨hbirth, hkept⟩ := hkeeps.append more (hrec.birth_lt label life hlife)
  constructor
  · intro hsame
    refine KeptStore.exists_value ?_ (hkept label' life' s' hlife' hs' hsame)
    rw [hof'.id_eq, hsame, ← hof.id_eq]
  · intro hne hfew
    have hbirth' := hrec'.birth_lt label' life' hlife'
    have hid := hof.id_ne hof' (by omega) (by omega) hne
    rw [KeptStore.value, if_neg hid]

/-- **A handle goes with the store that it was obtained from.** Whatever was done before, the index
of a store fits its slots both ways, and its names, its listing and its values are those of what was
written in its life. A handle that was obtained from it shows the current value of its name in every
later state of this store. In any other store, a copy or a later one under the same label, it is
foreign, as long as fewer than 2^64 stores were born. -/
theorem handles_follow_their_store (commands : List Command) (label : String) (s : KeptStore)
    (hs : (after commands).get? label = some s) :
    (∀ name slot, s.contents.slotOf? name = some slot ↔ s.contents.slots.names[slot]? = some name) ∧
    (∀ name slot, s.contents.slotOf? name = some slot →
      slot < s.contents.size ∧ s.contents.get? name = s.contents.inSlot? slot) ∧
    ∃ life, (Annals.after commands).lives label = some life ∧
      life.writes.names.Nodup ∧ s.contents.slots.names = life.writes.names ∧
      s.contents.toList = life.writes.listing ∧
      (∀ name, s.contents.get? name = life.writes.latest? name) ∧
      ∀ name handle, Obtained label name commands handle → ∀ more label' s' life',
        (after (commands ++ more)).get? label' = some s' →
        (Annals.after (commands ++ more)).lives label' = some life' →
        (life'.birth = life.birth →
          ∃ value, s'.contents.get? name = some value ∧ s'.value handle = .ok value) ∧
        (life'.birth ≠ life.birth → (Annals.after (commands ++ more)).births < 2 ^ 64 →
          s'.value handle = .error .foreignHandle) := by
  have hrec := records_after commands
  obtain ⟨life, hlife, hof⟩ := hrec.exists_life hs
  have hnames := hof.shows.names_eq
  refine ⟨s.contents.consistent, ?_, life, hlife, hnames ▸ s.contents.nodup_names, hnames,
    hof.shows.toList_eq, hof.shows.get?_eq, ?_⟩
  · intro name slot hslot
    obtain ⟨value, hentry, -⟩ := Store.get?_of_slotOf? hslot
    obtain ⟨hlt, -⟩ := List.getElem?_eq_some_iff.1 hentry
    exact ⟨hlt, by rw [Store.get?, hslot, Option.bind_some]⟩
  · intro name handle hobtained more label' s' life' hs' hlife'
    exact hobtained.value_eq hlife hlife' hs'

/-- A handle for the coins of a hero, whose store then takes over what was written to a copy of it.
The handle shows the new value in the store and is refused by the copy. -/
theorem handles_follow_their_store_in_copy :
    let before : List Command := [.create "hero", .set "hero" "coins" (.int 1)]
    let more : List Command :=
      [.copy "rival" "hero", .set "rival" "coins" (.int 2), .merge "hero" "rival"]
    Obtained "hero" "coins" before ⟨1, 0⟩ ∧
    (∃ s, (after (before ++ more)).get? "hero" = some s ∧ s.value ⟨1, 0⟩ = .ok (.int 2)) ∧
    ∃ s, (after (before ++ more)).get? "rival" = some s ∧
      s.value ⟨1, 0⟩ = .error .foreignHandle := by
  intro before more
  obtain ⟨s, hs⟩ : ∃ s, (after before).get? "hero" = some s := ⟨_, rfl⟩
  have hobtained : Obtained "hero" "coins" before ⟨1, 0⟩ := .found rfl rfl
  obtain ⟨-, -, life, hlife, -, -, -, -, hhandles⟩ :=
    handles_follow_their_store before "hero" s hs
  have hbirth : life.birth = 0 := congrArg Life.birth (Option.some.inj hlife).symm
  refine ⟨hobtained, ⟨_, rfl, ?_⟩, ⟨_, rfl, ?_⟩⟩
  · obtain ⟨value, hvalue, hread⟩ :=
      (hhandles "coins" ⟨1, 0⟩ hobtained more "hero" _ _ rfl rfl).1 hbirth.symm
    exact hread.trans (congrArg _ (Option.some.inj hvalue).symm)
  · exact (hhandles "coins" ⟨1, 0⟩ hobtained more "rival" _ _ rfl rfl).2
      (by rw [hbirth]; decide) (by decide)

end Depot

end ActionGraph
