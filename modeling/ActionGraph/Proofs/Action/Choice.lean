import ActionGraph.Action

/-!
# What is chosen among links

The first valid link of an action is the first one whose condition holds, and a random one is chosen
among all those whose conditions hold. So neither choice leaves the links of the action.
-/

namespace ActionGraph

variable {τ : Type}

theorem Rng.mem_of_choose {α : Type} {g : Rng} {items : List α} {a : α}
    (h : (g.choose items).1 = some a) : a ∈ items := by
  rw [choose] at h
  split at h
  · simp at h
  · exact List.mem_of_getElem? h

namespace Link

variable (session : Session) (store : Store)

/-- Whether the condition of a link holds. -/
def isValid (link : Link) : Bool := (link.condition.evaluate session store).holds

theorem result_eachValid_cons {σ : Type} (visit : σ → Link → ForInStep σ) (state : σ) (link : Link)
    (rest : List Link) :
    (eachValid session store visit state (link :: rest)).result =
      if link.isValid session store then
        match visit state link with
        | .done state => state
        | .yield state => (eachValid session store visit state rest).result
      else (eachValid session store visit state rest).result := by
  rw [eachValid, isValid]
  by_cases hvalid : (link.condition.evaluate session store).holds
  · rw [if_pos hvalid, if_pos hvalid]
    cases visit state link <;> rfl
  · rw [if_neg hvalid, if_neg hvalid]
    rfl

theorem result_firstValid (links : List Link) :
    (firstValid session store links).result = links.find? (isValid session store) := by
  rw [firstValid]
  induction links with
  | nil => rfl
  | cons link rest ih =>
    rw [result_eachValid_cons, ih]
    by_cases hvalid : link.isValid session store <;> simp [hvalid]

theorem result_allValid (links : List Link) :
    (allValid session store links).result = links.filter (isValid session store) := by
  -- The visits carry what was found, so the induction is behind any links found before.
  have hbehind (found : List Link) :
      (eachValid session store (fun found link => .yield (found ++ [link])) found links).result
        = found ++ links.filter (isValid session store) := by
    induction links generalizing found with
    | nil => simp [eachValid]
    | cons link rest ih =>
      rw [result_eachValid_cons]
      by_cases hvalid : link.isValid session store <;> simp [hvalid, ih]
  rw [allValid, hbehind, List.nil_append]

end Link

namespace Stage

variable {stage : Stage} {bridge : Bridge} {d : Descriptor} {link : Link}

theorem mem_of_firstValid
    (h : (stage.firstValid (τ := τ) bridge d).result = some link) : link ∈ d.links := by
  have hfirst := Link.result_firstValid (stage.session bridge) stage.bindings d.links
  exact List.mem_of_find?_eq_some (hfirst.symm.trans h)

theorem mem_of_randomValid
    (h : (stage.randomValid (τ := τ) bridge d).result = some link) : link ∈ d.links := by
  have hchosen := Rng.mem_of_choose h
  rw [Link.result_allValid] at hchosen
  exact (List.mem_filter.1 hchosen).1

end Stage

end ActionGraph
