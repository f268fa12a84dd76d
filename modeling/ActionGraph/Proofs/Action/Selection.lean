import ActionGraph.Proofs.Action.Choice

/-!
# Going through links

Both ways to choose a link go through the links of an action in the same way. The conditions are
evaluated one after the other, each link whose condition holds is visited, and behind a visit that
is the last one nothing is looked at any more (`eachValid_cases`). What is remarked is what the
conditions remark that were evaluated, so an action that takes the first link remarks the beginning
of what a random choice would have remarked.

A random choice draws a place among the valid links, and that is all it knows of them: it hangs on
the generator and on how many there are.
-/

namespace ActionGraph

/-! ### A place by chance -/

namespace Rng

variable {α : Type}

theorem choose_nil (g : Rng) : g.choose ([] : List α) = (none, g) := rfl

theorem choose_eq (g : Rng) {items : List α} (h : items ≠ []) : g.choose items
    = (items[(draw items.length refusals g).1]?, (draw items.length refusals g).2) := by
  have hsome : items.isEmpty = false := List.isEmpty_eq_false_iff.2 h
  simp only [choose, hsome, Bool.false_eq_true, if_false]

/-- The place that is chosen hangs on the generator and on the number of items. -/
theorem exists_place (g : Rng) {items : List α} (h : items ≠ []) : ∃ place later,
    place < items.length ∧ ∀ others : List α, others.length = items.length →
      g.choose others = (others[place]?, later) := by
  have hpos : 0 < items.length := List.length_pos_iff.2 h
  refine ⟨(draw items.length refusals g).1, (draw items.length refusals g).2, draw_lt hpos _ g,
    fun others hlength => ?_⟩
  have hothers : others ≠ [] := List.length_pos_iff.1 (hlength ▸ hpos)
  rw [g.choose_eq hothers, hlength]

end Rng

namespace Link

/-- What is remarked when the conditions of these links are evaluated in turn. -/
def remarksOf (session : Session) (store : Store) (links : List Link) : List Remark :=
  links.flatMap fun link => (link.condition.evaluate session store).remarks

section

variable (session : Session) (store : Store)

theorem remarksOf_singleton (link : Link) : remarksOf session store [link]
    = (link.condition.evaluate session store).remarks := List.flatMap_singleton _ _

theorem remarksOf_append (links more : List Link) : remarksOf session store (links ++ more)
    = remarksOf session store links ++ remarksOf session store more := List.flatMap_append

theorem remarksOf_cons (link : Link) (links : List Link) :
    remarksOf session store (link :: links)
      = remarksOf session store [link] ++ remarksOf session store links :=
  remarksOf_append session store [link] links

/-! ### One link after the other -/

variable {σ : Type} (visit : σ → Link → ForInStep σ)

/-- These links are visited in turn and none of the visits is the last one; what they lead to. -/
inductive GoesOn : σ → List Link → σ → Prop
  | nil (state : σ) : GoesOn state [] state
  | cons {state next last : σ} {link : Link} {rest : List Link}
      (hvisit : visit state link = .yield next) (hrest : GoesOn next rest last) :
    GoesOn state (link :: rest) last

/-- The search goes on behind a link, as it is not visited or the visit is not the last one. -/
inductive Passes (state : σ) (link : Link) : σ → Prop
  | unvisited (hinvalid : ¬link.isValid session store) : Passes state link state
  | visited {next : σ} (hvalid : link.isValid session store)
      (hvisit : visit state link = .yield next) : Passes state link next

/-- All valid links are visited, and none of the visits is the last one. -/
def GoesThrough (state : σ) (links : List Link) : Prop :=
  ∃ last, GoesOn visit state (links.filter (isValid session store)) last ∧
    eachValid session store visit state links = ⟨last, remarksOf session store links⟩

/-- The valid links among those seen are visited, then another valid link for the last time, and
nothing hangs on what stands behind it. -/
def StopsAt (state : σ) (seen : List Link) (link : Link) : Prop :=
  link.isValid session store ∧
    ∃ before last, GoesOn visit state (seen.filter (isValid session store)) before ∧
      visit before link = .done last ∧
      ∀ unseen, eachValid session store visit state (seen ++ link :: unseen)
        = ⟨last, remarksOf session store (seen ++ [link])⟩

variable {session store visit} {state next last : σ} {link stop : Link}
  {links seen : List Link}

theorem Passes.eachValid_cons (h : Passes session store visit state link next)
    (links : List Link) : eachValid session store visit state (link :: links)
      = (eachValid session store visit next links).after (remarksOf session store [link]) := by
  rw [remarksOf_singleton]
  cases h with
  | unvisited hinvalid =>
    rw [isValid] at hinvalid
    rw [eachValid, if_neg hinvalid]
  | visited hvalid hvisit =>
    rw [isValid] at hvalid
    simp only [eachValid, if_pos hvalid, hvisit]

theorem eachValid_of_done (hvalid : link.isValid session store)
    (hvisit : visit state link = .done last) (links : List Link) :
    eachValid session store visit state (link :: links)
      = ⟨last, remarksOf session store [link]⟩ := by
  rw [isValid] at hvalid
  simp only [eachValid, if_pos hvalid, hvisit, remarksOf_singleton]

theorem Passes.goesOn (h : Passes session store visit state link next)
    (hrest : GoesOn visit next (links.filter (isValid session store)) last) :
    GoesOn visit state ((link :: links).filter (isValid session store)) last := by
  cases h with
  | unvisited hinvalid => rwa [List.filter_cons_of_neg hinvalid]
  | visited hvalid hvisit =>
    rw [List.filter_cons_of_pos hvalid]
    exact .cons hvisit hrest

theorem Passes.goesThrough (h : Passes session store visit state link next)
    (hrest : GoesThrough session store visit next links) :
    GoesThrough session store visit state (link :: links) := by
  obtain ⟨last, hgoes, heq⟩ := hrest
  refine ⟨last, h.goesOn hgoes, ?_⟩
  rw [h.eachValid_cons, heq, remarksOf_cons session store link links]
  rfl

theorem Passes.stopsAt (h : Passes session store visit state link next)
    (hrest : StopsAt session store visit next seen stop) :
    StopsAt session store visit state (link :: seen) stop := by
  obtain ⟨hvalid, before, last, hgoes, hvisit, heq⟩ := hrest
  refine ⟨hvalid, before, last, h.goesOn hgoes, hvisit, fun unseen => ?_⟩
  rw [List.cons_append, h.eachValid_cons, heq unseen, List.cons_append,
    remarksOf_cons session store link (seen ++ [stop])]
  rfl

theorem passes_or_done (session : Session) (store : Store) (visit : σ → Link → ForInStep σ)
    (state : σ) (link : Link) : (∃ next, Passes session store visit state link next) ∨
      link.isValid session store ∧ ∃ last, visit state link = .done last := by
  by_cases hvalid : link.isValid session store
  · cases hvisit : visit state link with
    | done last => exact .inr ⟨hvalid, last, rfl⟩
    | yield next => exact .inl ⟨next, .visited hvalid hvisit⟩
  · exact .inl ⟨state, .unvisited hvalid⟩

theorem eachValid_cases (session : Session) (store : Store) (visit : σ → Link → ForInStep σ)
    (state : σ) (links : List Link) : GoesThrough session store visit state links ∨
      ∃ seen link unseen, links = seen ++ link :: unseen ∧
        StopsAt session store visit state seen link := by
  induction links generalizing state with
  | nil => exact .inl ⟨state, .nil state, rfl⟩
  | cons link rest ih =>
    rcases passes_or_done session store visit state link with
      ⟨next, hpasses⟩ | ⟨hvalid, last, hvisit⟩
    · rcases ih next with hgoes | ⟨seen, stop, unseen, rfl, hstops⟩
      · exact .inl (hpasses.goesThrough hgoes)
      · exact .inr ⟨link :: seen, stop, unseen, rfl, hpasses.stopsAt hstops⟩
    · exact .inr ⟨[], link, rest, rfl, hvalid, state, last, .nil state, hvisit,
        eachValid_of_done hvalid hvisit⟩

end

/-! ### The choices -/

section

variable (session : Session) (store : Store) (links : List Link)

/-- All conditions are evaluated before a link is chosen by chance. -/
theorem remarks_allValid :
    (allValid session store links).remarks = remarksOf session store links := by
  rcases eachValid_cases session store (fun found link => .yield (found ++ [link])) [] links with
    ⟨last, -, heq⟩ | ⟨seen, link, unseen, -, -, before, last, -, hvisit, -⟩
  · rw [allValid, heq]
  · cases hvisit

/-- The first choice looks at links up to the first valid one. -/
theorem firstValid_cases :
    (links.filter (isValid session store) = [] ∧
      (firstValid session store links).remarks = remarksOf session store links) ∨
    ∃ seen link unseen, links = seen ++ link :: unseen ∧ link.isValid session store ∧
      (firstValid session store links).remarks = remarksOf session store (seen ++ [link]) := by
  rcases eachValid_cases session store (fun _ link => .done (some link)) none links with
    ⟨last, hgoes, heq⟩ | ⟨seen, link, unseen, rfl, hvalid, before, last, -, -, heq⟩
  · refine .inl ⟨?_, by rw [firstValid, heq]⟩
    -- The first visit would have been the last one.
    cases hvalid : links.filter (isValid session store) with
    | nil => rfl
    | cons link rest =>
      rw [hvalid] at hgoes
      cases hgoes with
      | cons hvisit => cases hvisit
  · exact .inr ⟨seen, link, unseen, rfl, hvalid, by rw [firstValid, heq]⟩

theorem remarks_randomValid (rng : Rng) :
    (randomValid session store rng links).remarks = remarksOf session store links :=
  remarks_allValid session store links

theorem result_randomValid (rng : Rng) : (randomValid session store rng links).result
    = rng.choose (links.filter (isValid session store)) := by
  rw [← result_allValid]
  rfl

theorem remarks_firstValid_prefix (rng : Rng) : (firstValid session store links).remarks
    <+: (randomValid session store rng links).remarks := by
  rw [remarks_randomValid]
  rcases firstValid_cases session store links with ⟨-, heq⟩ | ⟨seen, link, unseen, rfl, -, heq⟩
  · exact heq ▸ List.prefix_refl _
  · refine ⟨remarksOf session store unseen, ?_⟩
    rw [heq, ← remarksOf_append, List.append_assoc]
    rfl

theorem remarks_firstValid_of_none (rng : Rng)
    (hnone : links.filter (isValid session store) = []) : (firstValid session store links).remarks
      = (randomValid session store rng links).remarks := by
  rw [remarks_randomValid]
  rcases firstValid_cases session store links with ⟨-, heq⟩ | ⟨seen, link, unseen, rfl, hvalid, -⟩
  · exact heq
  · exact absurd hvalid (List.filter_eq_nil_iff.1 hnone link (by simp))

/-- A random choice takes a place among the valid links, which hangs on the generator and on how
many of them there are. -/
theorem exists_place_randomValid (rng : Rng) (hsome : links.filter (isValid session store) ≠ []) :
    ∃ place later, place < (links.filter (isValid session store)).length ∧
      ∀ session' store' others, (others.filter (isValid session' store')).length
          = (links.filter (isValid session store)).length →
        (randomValid session' store' rng others).result
          = ((others.filter (isValid session' store'))[place]?, later) := by
  obtain ⟨place, later, hplace, hchoose⟩ := rng.exists_place hsome
  refine ⟨place, later, hplace, fun session' store' others hlength => ?_⟩
  rw [result_randomValid, hchoose _ hlength]

end

/-- **Both choices agree on which links are valid.** A search visits the valid links in their order,
up to the first visit that is the last one, and evaluates no condition behind it. The first choice
is the first valid link. A random choice is one of the valid links, at a place that hangs on the
generator and on their number; where there are none it is nothing, and nothing is drawn. Where only
one link is valid both choices are that link. What the first choice remarks, in messages and in
expressions that are evaluated, is the beginning of what a random choice remarks, and all of it
where no link is valid. -/
theorem choices_agree_on_valid_links (session : Session) (store : Store) (links : List Link) :
    let valid := links.filter (isValid session store)
    let first := firstValid session store links
    (∀ {σ : Type} (visit : σ → Link → ForInStep σ) (state : σ),
      GoesThrough session store visit state links ∨
        ∃ seen link unseen, links = seen ++ link :: unseen ∧
          StopsAt session store visit state seen link) ∧
    first.result = valid.head? ∧
    ∀ rng, let random := randomValid session store rng links
      (random.result.1 = none ↔ valid = []) ∧ (valid = [] → random.result.2 = rng) ∧
      (∀ link, random.result.1 = some link → link ∈ valid) ∧
      (valid ≠ [] → ∃ place later, place < valid.length ∧
        ∀ session' store' others,
          (others.filter (isValid session' store')).length = valid.length →
            (randomValid session' store' rng others).result
              = ((others.filter (isValid session' store'))[place]?, later)) ∧
      (∀ link, valid = [link] → first.result = some link ∧ random.result.1 = some link) ∧
      first.remarks <+: random.remarks ∧ (valid = [] → first.remarks = random.remarks) := by
  intro valid first
  have hfirst : first.result = valid.head? := by
    rw [List.head?_filter]
    exact result_firstValid session store links
  refine ⟨fun visit state => eachValid_cases session store visit state links, hfirst, ?_⟩
  intro rng random
  have hrandom : random.result = rng.choose valid := result_randomValid session store links rng
  have hplace := exists_place_randomValid session store links rng
  have hnone : valid = [] → random.result = (none, rng) := by
    intro hvalid
    rw [hrandom, hvalid, Rng.choose_nil]
  have hsome : valid ≠ [] → ∃ link ∈ valid, random.result.1 = some link := by
    intro hvalid
    obtain ⟨place, later, hlt, hresult⟩ := hplace hvalid
    refine ⟨valid[place], List.getElem_mem hlt, ?_⟩
    rw [hresult session store links rfl]
    exact List.getElem?_eq_getElem hlt
  refine ⟨⟨fun h => ?_, fun h => by rw [hnone h]⟩, fun h => by rw [hnone h], fun link h => ?_,
    hplace, fun link h => ⟨by rw [hfirst, h]; rfl, ?_⟩,
    remarks_firstValid_prefix session store links rng,
    remarks_firstValid_of_none session store links rng⟩
  · refine Classical.byContradiction fun hvalid => ?_
    obtain ⟨link, -, hlink⟩ := hsome hvalid
    exact nomatch h.symm.trans hlink
  · exact Rng.mem_of_choose (hrandom ▸ h)
  · obtain ⟨other, hmem, hother⟩ := hsome (h ▸ List.cons_ne_nil _ _)
    rw [h] at hmem
    rw [hother, List.mem_singleton.1 hmem]

end Link

end ActionGraph
