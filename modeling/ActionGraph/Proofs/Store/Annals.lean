import ActionGraph.Store.Handle
import ActionGraph.Proofs.Store.Writes
import Mathlib.Data.List.Induction

/-!
# What the stores of a depot have been through

The annals of a depot tell of each store which of the created ones it is and what has been written
to it. Numbers of births do not run out, as the identities of stores do, and a history is written
without slots and without an index. One command after the other, the depot does what its annals tell
(`Records.step`).
-/

namespace ActionGraph

namespace Depot

/-- The depot after commands, with no stores before them. -/
def after (commands : List Command) : Depot := commands.foldl run empty

theorem after_concat (commands : List Command) (command : Command) :
    after (commands ++ [command]) = (after commands).run command :=
  List.foldl_concat ..

/-- The number of stores created before a store, and what has been written to it. -/
structure Life where
  birth : Nat
  writes : Writes

/-- How many stores have been created, and the lives of those that are kept. -/
structure Annals where
  births : Nat
  lives : String → Option Life

namespace Annals

def empty : Annals := ⟨0, fun _ => none⟩

/-- A store with these writes is created under a label. -/
def bear (a : Annals) (label : String) (writes : Writes) : Annals :=
  ⟨a.births + 1, fun other => if other = label then some ⟨a.births, writes⟩ else a.lives other⟩

/-- More is written to the store under a label. -/
def write (a : Annals) (label : String) (more : Writes) : Annals :=
  { a with lives := fun other =>
      if other = label then
        (a.lives label).map fun life => { life with writes := life.writes ++ more }
      else a.lives other }

def run (a : Annals) : Command → Annals
  | .create label => a.bear label []
  | .ofList label bindings => a.bear label bindings
  | .copy label source =>
    match a.lives source with
    | some life => a.bear label life.writes
    | none => a
  | .merge label source =>
    match a.lives source with
    | some other => a.write label other.writes.listing
    | none => a
  | .set label name value => a.write label [(name, value)]

def after (commands : List Command) : Annals := commands.foldl run empty

theorem after_concat (commands : List Command) (command : Command) :
    after (commands ++ [command]) = (after commands).run command :=
  List.foldl_concat ..

theorem exists_of_write {a : Annals} {label other : String} {more : Writes} {life : Life}
    (h : (a.write label more).lives other = some life) :
    ∃ earlier, a.lives other = some earlier ∧ earlier.birth = life.birth := by
  rw [write] at h
  by_cases hother : other = label
  · subst hother
    simp only [if_true] at h
    obtain ⟨earlier, hearlier, rfl⟩ := Option.map_eq_some_iff.1 h
    exact ⟨earlier, hearlier, rfl⟩
  · simp only [if_neg hother] at h
    exact ⟨life, h, rfl⟩

end Annals

/-! ### Labels -/

section Labels

variable (d : Depot) (label other : String)

theorem get?_put (s : KeptStore) :
    (d.put label s).get? other = if other = label then some s else d.get? other := by
  have hothers : ∀ stores : List (String × KeptStore), other ≠ label →
      (stores.filter (·.1 != label)).lookup other = stores.lookup other := by
    intro stores hne
    induction stores with
    | nil => rfl
    | cons first rest ih =>
      by_cases hfirst : first.1 = label
      · simp [Table.lookup_cons, hfirst, hne, ih]
      · simp [Table.lookup_cons, hfirst, ih]
  rw [get?, put, Table.lookup_cons]
  by_cases hne : other = label
  · rw [if_pos hne, if_pos hne]
  · rw [if_neg hne, if_neg hne, hothers d.stores hne, get?]

theorem get?_create (contents : Store) : (d.create label contents).get? other
    = if other = label then some ⟨d.next, contents⟩ else d.get? other :=
  get?_put _ label other _

theorem get?_update (f : KeptStore → KeptStore) : (d.update label f).get? other
    = if other = label then (d.get? label).map f else d.get? other := by
  rw [update]
  cases hlabel : d.get? label with
  | some s => simp [get?_put]
  | none =>
    by_cases hother : other = label
    · simp [hother, hlabel]
    · simp [hother]

theorem next_update (f : KeptStore → KeptStore) : (d.update label f).next = d.next := by
  rw [update]
  split <;> rfl

end Labels

/-! ### The annals of a depot -/

/-- A store with a life: its identity is that of its birth, and it shows what has been written. -/
structure Life.IsOf (life : Life) (s : KeptStore) : Prop where
  id_eq : s.id = UInt64.ofNat (life.birth + 1)
  shows : s.contents.Shows life.writes

/-- The annals tell of each store in the depot, and of no other. No two stores have been born at
once. -/
structure Records (a : Annals) (d : Depot) : Prop where
  next_eq : d.next = UInt64.ofNat (a.births + 1)
  lives : ∀ label, Option.Rel Life.IsOf (a.lives label) (d.get? label)
  birth_lt : ∀ label life, a.lives label = some life → life.birth < a.births
  birth_inj : ∀ label other life life', a.lives label = some life → a.lives other = some life' →
    life.birth = life'.birth → label = other

theorem records_empty : Records .empty empty where
  next_eq := rfl
  lives _ := .none
  birth_lt _ _ h := nomatch h
  birth_inj _ _ _ _ h := nomatch h

/-- A function on stores that writes to them. A name that has a slot keeps it. -/
structure IsWriting (more : Writes) (f : KeptStore → KeptStore) : Prop where
  id_eq : ∀ s, (f s).id = s.id
  shows : ∀ s writes, s.contents.Shows writes → (f s).contents.Shows (writes ++ more)
  slotOf?_eq : ∀ s name slot, s.contents.slotOf? name = some slot →
    (f s).contents.slotOf? name = some slot

theorem IsWriting.set (name : String) (value : Value) :
    IsWriting [(name, value)] fun s => (s.set name value).1 where
  id_eq _ := rfl
  shows _ _ hs := hs.set name value
  slotOf?_eq _ _ _ hslot := Store.slotOf?_set_of_some hslot name value

theorem IsWriting.merge {other : KeptStore} {more : Writes} (hother : other.contents.Shows more) :
    IsWriting more.listing fun s => s.merge other where
  id_eq _ := rfl
  shows _ _ hs := hs.merge hother
  slotOf?_eq _ _ _ hslot := Store.slotOf?_setAll_of_some hslot other.contents.toList

/-- What a command does to a depot and to its annals. -/
inductive Step (a : Annals) (d : Depot) : Annals → Depot → Prop where
  | idle : Step a d a d
  | bear (label : String) {contents : Store} {writes : Writes} (hshows : contents.Shows writes) :
    Step a d (a.bear label writes) (d.create label contents)
  | write (label : String) {more : Writes} {f : KeptStore → KeptStore} (hf : IsWriting more f) :
    Step a d (a.write label more) (d.update label f)

namespace Records

variable {a : Annals} {d : Depot}

theorem bear (h : Records a d) (label : String) {contents : Store} {writes : Writes}
    (hshows : contents.Shows writes) : Records (a.bear label writes) (d.create label contents) where
  next_eq := by
    change d.next + 1 = UInt64.ofNat (a.births + 1 + 1)
    rw [h.next_eq, UInt64.ofNat_add (a.births + 1) 1]
    rfl
  lives other := by
    rw [get?_create, Annals.bear]
    by_cases hother : other = label
    · rw [if_pos hother]
      simp only [if_pos hother]
      exact .some ⟨h.next_eq, hshows⟩
    · rw [if_neg hother]
      simp only [if_neg hother]
      exact h.lives other
  birth_lt other life hlife := by
    have := h.birth_lt other
    simp only [Annals.bear] at hlife ⊢
    grind
  birth_inj one other life life' hlife hlife' hsame := by
    have hone := h.birth_lt one
    have hother := h.birth_lt other
    have := h.birth_inj one other
    simp only [Annals.bear] at hlife hlife'
    grind

theorem write (h : Records a d) (label : String) {more : Writes} {f : KeptStore → KeptStore}
    (hf : IsWriting more f) : Records (a.write label more) (d.update label f) where
  next_eq := (next_update d label f).trans h.next_eq
  lives other := by
    rw [get?_update, Annals.write]
    by_cases hother : other = label
    · rw [if_pos hother]
      simp only [if_pos hother]
      have hlabel := h.lives label
      generalize a.lives label = life at hlabel ⊢
      generalize d.get? label = s at hlabel ⊢
      cases hlabel with
      | none => exact .none
      | some hlife => exact .some ⟨(hf.id_eq _).trans hlife.id_eq, hf.shows _ _ hlife.shows⟩
    · rw [if_neg hother]
      simp only [if_neg hother]
      exact h.lives other
  birth_lt other life hlife := by
    obtain ⟨earlier, hearlier, hbirth⟩ := Annals.exists_of_write hlife
    exact hbirth ▸ h.birth_lt other earlier hearlier
  birth_inj one other life life' hlife hlife' hsame := by
    obtain ⟨earlier, hearlier, hbirth⟩ := Annals.exists_of_write hlife
    obtain ⟨earlier', hearlier', hbirth'⟩ := Annals.exists_of_write hlife'
    exact h.birth_inj one other earlier earlier' hearlier hearlier'
      (hbirth.trans (hsame.trans hbirth'.symm))

theorem isOf (h : Records a d) {label : String} {life : Life} {s : KeptStore}
    (hlife : a.lives label = some life) (hs : d.get? label = some s) : life.IsOf s := by
  have hlabel := h.lives label
  rw [hlife, hs] at hlabel
  exact Option.rel_some_some.1 hlabel

theorem exists_life (h : Records a d) {label : String} {s : KeptStore}
    (hs : d.get? label = some s) : ∃ life, a.lives label = some life ∧ life.IsOf s := by
  have hlabel := h.lives label
  rw [hs] at hlabel
  generalize a.lives label = life at hlabel
  cases hlabel with
  | some hof => exact ⟨_, rfl, hof⟩

/-- Every command is one of these steps, in the annals as in the depot. -/
theorem step (h : Records a d) (command : Command) :
    Step a d (a.run command) (d.run command) := by
  cases command with
  | create label => exact .bear label Store.shows_empty
  | ofList label bindings => exact .bear label (Store.Shows.ofList bindings)
  | copy label source =>
    have hsource := h.lives source
    rw [Annals.run, Depot.run]
    generalize a.lives source = life at hsource ⊢
    generalize d.get? source = s at hsource ⊢
    cases hsource with
    | none => exact .idle
    | some hlife => exact .bear label hlife.shows
  | merge label source =>
    have hsource := h.lives source
    rw [Annals.run, Depot.run]
    generalize a.lives source = life at hsource ⊢
    generalize d.get? source = s at hsource ⊢
    cases hsource with
    | none => exact .idle
    | some hlife => exact .write label (IsWriting.merge hlife.shows)
  | set label name value => exact .write label (IsWriting.set name value)

theorem of_step (h : Records a d) {a' : Annals} {d' : Depot} (hstep : Step a d a' d') :
    Records a' d' := by
  cases hstep with
  | idle => exact h
  | bear label hshows => exact h.bear label hshows
  | write label hf => exact h.write label hf

end Records

/-- The history of a depot that was empty at first. -/
theorem records_after (commands : List Command) : Records (.after commands) (after commands) := by
  induction commands using List.reverseRecOn with
  | nil => exact records_empty
  | append_singleton commands command ih =>
    rw [Annals.after_concat, after_concat]
    exact ih.of_step (ih.step command)

end Depot

end ActionGraph
