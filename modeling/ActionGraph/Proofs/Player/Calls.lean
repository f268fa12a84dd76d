import ActionGraph.Player.Update

/-!
# Sequences of calls

A player is called from outside in three ways: to start a flow, to stop it, and to update it. Here
calls are data, so that a statement can speak of every sequence of them. An update carries all that
it is handed, its repertoire and its session included, so that both may differ from one update to
the next.

A chronicle lists what happens in a sequence of calls, each event with the number of the call in
which it happens.
-/

namespace ActionGraph

variable {ι τ : Type}

/-- What an update is handed. -/
structure Frame (ι τ : Type) where
  repertoire : Repertoire ι τ
  session : Session
  delta : τ

inductive Call (ι τ : Type) where
  | start (asset : Asset) (options : StartOptions)
  | stop
  | update (frame : Frame ι τ)

namespace Player

variable [Clock τ]

def advance (p : Player ι) (f : Frame ι τ) : Outcome ι τ :=
  p.update f.repertoire f.session f.delta

/-- The player behind a call, and what happens in it. -/
def call (p : Player ι) : Call ι τ → Player ι × List (Event τ)
  | .start asset options =>
    match p.start asset options with
    | .ok started => started
    | .error _ => (p, [])
  | .stop => p.stop
  | .update f => ((p.advance f).player, (p.advance f).events)

def after (p : Player ι) (calls : List (Call ι τ)) : Player ι :=
  calls.foldl (fun p c => (p.call c).1) p

/-- What happens in a sequence of calls, of which the first has the number `n`. -/
def chronicle (p : Player ι) (n : Nat) : List (Call ι τ) → List (Nat × Event τ)
  | [] => []
  | c :: rest => (p.call c).2.map (n, ·) ++ chronicle (p.call c).1 (n + 1) rest

@[simp] theorem after_nil (p : Player ι) : p.after ([] : List (Call ι τ)) = p := rfl

@[simp] theorem after_cons (p : Player ι) (c : Call ι τ) (calls : List (Call ι τ)) :
    p.after (c :: calls) = (p.call c).1.after calls := rfl

@[simp] theorem after_append (p : Player ι) (calls more : List (Call ι τ)) :
    p.after (calls ++ more) = (p.after calls).after more := by
  simp only [after, List.foldl_append]

theorem map_snd_chronicle_cons (p : Player ι) (n : Nat) (c : Call ι τ) (rest : List (Call ι τ)) :
    (p.chronicle n (c :: rest)).map Prod.snd
      = (p.call c).2 ++ ((p.call c).1.chronicle (n + 1) rest).map Prod.snd := by
  have hevents : (Prod.snd ∘ fun e : Event τ => (n, e)) = id := rfl
  rw [chronicle, List.map_append, List.map_map, hevents, List.map_id]

theorem chronicle_append (p : Player ι) (n : Nat) (calls more : List (Call ι τ)) :
    p.chronicle n (calls ++ more)
      = p.chronicle n calls ++ (p.after calls).chronicle (n + calls.length) more := by
  induction calls generalizing p n with
  | nil => simp [chronicle]
  | cons c rest ih =>
    have hnumber : n + 1 + rest.length = n + (rest.length + 1) := by omega
    simp only [List.cons_append, chronicle, ih, after_cons, List.length_cons, List.append_assoc,
      hnumber]

/-- The events of a chronicle are those of its calls, each of the player behind the calls before. -/
theorem mem_chronicle_iff {p : Player ι} {n k : Nat} {calls : List (Call ι τ)} {e : Event τ} :
    (k, e) ∈ p.chronicle n calls ↔
      ∃ m c, calls[m]? = some c ∧ k = n + m ∧ e ∈ ((p.after (calls.take m)).call c).2 := by
  induction calls generalizing p n with
  | nil => simp [chronicle]
  | cons c rest ih =>
    simp only [chronicle, List.mem_append, List.mem_map, Prod.mk.injEq, exists_eq_right_right, ih]
    constructor
    · rintro (⟨hevent, rfl⟩ | ⟨m, c', hcall, rfl, hevent⟩)
      · exact ⟨0, c, rfl, rfl, hevent⟩
      · exact ⟨m + 1, c', hcall, by omega, hevent⟩
    · rintro ⟨m | m, c', hcall, rfl, hevent⟩
      · obtain rfl : c = c' := Option.some.inj hcall
        exact .inl ⟨hevent, rfl⟩
      · exact .inr ⟨m, c', hcall, by omega, hevent⟩

/-- What is so of a player, and stays so in every call, is so behind every sequence of calls. -/
theorem after_induction {motive : Player ι → Prop} {p : Player ι} (hp : motive p)
    (hcall : ∀ p c, motive p → motive (p.call (c : Call ι τ)).1) (calls : List (Call ι τ)) :
    motive (p.after calls) := by
  induction calls generalizing p with
  | nil => exact hp
  | cons c rest ih => exact ih (hcall p c hp)

end Player

end ActionGraph
