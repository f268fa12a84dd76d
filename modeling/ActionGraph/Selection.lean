import ActionGraph.Asset
import ActionGraph.Random

/-!
# Choosing a link

The links of an action are gone through in the order in which they stand. Those whose conditions
hold are visited, and what their conditions remark is kept. An action takes the first such link, or
any of them by chance.
-/

namespace ActionGraph

/-- What a search found, and what was remarked on the way. -/
structure Search (α : Type) where
  result : α
  remarks : List Remark

namespace Search

variable {α β : Type}

/-- The search with remarks that were made before. -/
def after (s : Search α) (remarks : List Remark) : Search α :=
  { s with remarks := remarks ++ s.remarks }

def map (f : α → β) (s : Search α) : Search β := ⟨f s.result, s.remarks⟩

end Search

namespace Link

variable {σ : Type}

/-- Visits the links whose conditions hold, until a visit is the last one. -/
def eachValid (session : Session) (store : Store) (visit : σ → Link → ForInStep σ) (state : σ) :
    List Link → Search σ
  | [] => ⟨state, []⟩
  | link :: rest =>
    let verdict := link.condition.evaluate session store
    if verdict.holds then
      match visit state link with
      | .done state => ⟨state, verdict.remarks⟩
      | .yield state => (eachValid session store visit state rest).after verdict.remarks
    else (eachValid session store visit state rest).after verdict.remarks

def firstValid (session : Session) (store : Store) (links : List Link) : Search (Option Link) :=
  eachValid session store (fun _ link => .done (some link)) none links

def allValid (session : Session) (store : Store) (links : List Link) : Search (List Link) :=
  eachValid session store (fun found link => .yield (found ++ [link])) [] links

/-- One of the links whose conditions hold, by chance, and the generator behind the choice. -/
def randomValid (session : Session) (store : Store) (rng : Rng) (links : List Link) :
    Search (Option Link × Rng) :=
  (allValid session store links).map rng.choose

end Link

end ActionGraph
