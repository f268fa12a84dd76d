import ActionGraph.Action.Builtin
import ActionGraph.Proofs.Store.Writes
import Mathlib.Data.List.Induction

/-!
# What conditions see after a history of writes

Values are written to three layers that a condition looks at, one over the other: the variables of
the player, the scope of the run, and the scope that outlives runs. Other scopes lie aside. A
history of deeds, through whatever session they are done, is kept as a list of entries, and each
layer has under each name what was written to it last since it was cleared. A condition sees the
first of the three layers that has something.
-/

namespace ActionGraph

variable {τ : Type}

/-! ### Entries -/

/-- What is done to a layer, which is a scope or, where there is none, the variables of a player. -/
inductive Entry where
  | written (scope? : Option ScopeKind) (name : String) (value : Value)
  | cleared (kind : ScopeKind)

namespace Entry

/-- Whether everything in a layer is lost. -/
def clears (layer : Option ScopeKind) : Entry → Bool
  | .written _ _ _ => false
  | .cleared kind => some kind == layer

/-- The value that is written to a name in a layer. -/
def value? (layer : Option ScopeKind) (name : String) : Entry → Option Value
  | .written scope? other value => if scope? = layer ∧ other = name then some value else none
  | .cleared _ => none

/-- The value that was written last to a name in a layer, since the layer was cleared. -/
def latest? (layer : Option ScopeKind) (name : String) (entries : List Entry) : Option Value :=
  (entries.reverse.takeWhile fun e => !e.clears layer).findSome? (value? layer name)

theorem latest?_concat (layer : Option ScopeKind) (name : String) (entries : List Entry)
    (e : Entry) :
    latest? layer name (entries ++ [e])
      = if e.clears layer then none else (e.value? layer name).or (latest? layer name entries) := by
  rw [latest?, List.reverse_append, List.reverse_singleton, List.singleton_append,
    List.takeWhile_cons]
  cases e.clears layer with
  | true => rfl
  | false => cases hvalue : e.value? layer name <;> simp [latest?, hvalue]

theorem latest?_append_written (layer scope? : Option ScopeKind) (name : String)
    (entries : List Entry) (ws : Writes) :
    latest? layer name (entries ++ ws.map fun w => .written scope? w.1 w.2)
      = if scope? = layer then (Writes.latest? ws name).or (latest? layer name entries)
        else latest? layer name entries := by
  induction ws using List.reverseRecOn with
  | nil => simp [Writes.latest?]
  | append_singleton ws w ih =>
    obtain ⟨other, value⟩ := w
    rw [List.map_append, ← List.append_assoc, List.map_singleton, latest?_concat, ih,
      Writes.latest?_concat]
    by_cases hlayer : scope? = layer
    · by_cases hname : name = other <;> simp [clears, value?, hlayer, hname, eq_comm]
    · simp [clears, value?, hlayer]

/-- What a condition sees under a name: what stands in the first layer that has something. -/
def seen? (name : String) (entries : List Entry) : Option Value :=
  ((latest? none name entries).or (latest? (some .runtime) name entries)).or
    (latest? (some .persistent) name entries)

end Entry

/-! ### Scopes -/

namespace Scopes

theorem store?_cons (first : ScopeKind) (s : Store) (rest : Scopes) (kind : ScopeKind) :
    Scopes.store? ((first, s) :: rest) kind
      = if kind = first then some s else rest.store? kind := by
  rw [store?, List.lookup_cons]
  by_cases hkind : kind = first
  · simp [hkind]
  · simp [beq_false_of_ne hkind, hkind, store?]

theorem store?_modify (scopes : Scopes) (kind : ScopeKind) (f : Store → Store) (other : ScopeKind) :
    (scopes.modify kind f).store? other
      = if other = kind then some (f ((scopes.store? kind).getD .empty))
        else scopes.store? other := by
  induction scopes with
  | nil => rw [modify, store?_cons]; rfl
  | cons entry rest ih =>
    obtain ⟨first, s⟩ := entry
    rw [modify]
    by_cases hfirst : first = kind
    · subst hfirst
      rw [if_pos rfl, store?_cons, store?_cons, store?_cons, if_pos rfl]
      by_cases hother : other = first <;> simp [hother]
    · rw [if_neg hfirst, store?_cons, store?_cons, store?_cons, ih, if_neg (Ne.symm hfirst)]
      by_cases hother : other = first
      · simp [hother, hfirst]
      · simp [hother]

theorem store?_clear (scopes : Scopes) (kind other : ScopeKind) :
    (scopes.clear kind).store? other = if other = kind then none else scopes.store? other := by
  induction scopes with
  | nil => simp [clear, store?]
  | cons entry rest ih =>
    obtain ⟨first, s⟩ := entry
    rw [clear] at ih
    by_cases hfirst : first = kind
    · have hdropped : clear ((first, s) :: rest) kind = rest.filter (·.1 != kind) := by
        simp [clear, hfirst]
      rw [hdropped, ih, store?_cons]
      by_cases hother : other = kind <;> simp [hother, hfirst]
    · have hkept : clear ((first, s) :: rest) kind = (first, s) :: rest.filter (·.1 != kind) := by
        simp [clear, hfirst]
      rw [hkept, store?_cons, store?_cons, ih]
      by_cases hother : other = first
      · simp [hother, hfirst]
      · simp [hother]

/-- A scope that is not there holds as little as an empty one. -/
theorem get?_eq (scopes : Scopes) (kind : ScopeKind) (name : String) :
    scopes.get? kind name = ((scopes.store? kind).getD .empty).get? name := by
  rw [get?]
  cases scopes.store? kind <;> rfl

theorem get?_modify (scopes : Scopes) (kind : ScopeKind) (f : Store → Store) (other : ScopeKind)
    (name : String) : (scopes.modify kind f).get? other name
      = if other = kind then (f ((scopes.store? kind).getD .empty)).get? name
        else scopes.get? other name := by
  rw [get?, store?_modify]
  split <;> rfl

theorem get?_clear (scopes : Scopes) (kind other : ScopeKind) (name : String) :
    (scopes.clear kind).get? other name
      = if other = kind then none else scopes.get? other name := by
  rw [get?, store?_clear]
  split <;> rfl

end Scopes

/-! ### Layers -/

namespace Stage

/-- What stands under a name in a layer. -/
def value? (stage : Stage) (name : String) : Option ScopeKind → Option Value
  | none => stage.bindings.get? name
  | some kind => stage.scopes.get? kind name

theorem value?_write (stage : Stage) (scope? : Option ScopeKind) (name : String) (value : Value)
    (layer : Option ScopeKind) (other : String) :
    (Builtin.write stage name value scope?).value? other layer
      = if scope? = layer ∧ name = other then some value else stage.value? other layer := by
  cases scope? with
  | none =>
    cases layer with
    | none =>
      simp only [value?, Builtin.write, Store.get?_set]
      by_cases hname : name = other <;> simp [hname, eq_comm]
    | some kind => simp [value?, Builtin.write]
  | some kind =>
    cases layer with
    | none => simp [value?, Builtin.write]
    | some other' =>
      simp only [value?, Builtin.write, Scopes.set, Scopes.get?_modify, Store.get?_set,
        Option.some.injEq, ← Scopes.get?_eq]
      by_cases hkind : other' = kind
      · subst hkind
        by_cases hname : name = other <;> simp [hname, eq_comm]
      · simp [hkind, Ne.symm hkind]

end Stage

/-! ### Deeds -/

/-- What is done to the variables of a player and to the scopes that sessions share. -/
inductive Deed (τ : Type) where
  /-- A variable of the player is written. -/
  | set (name : String) (value : Value)
  /-- A session with this bridge writes to a scope. -/
  | setScoped (bridge : Bridge) (kind : ScopeKind) (name : String) (value : Value)
  | setIn (kind : ScopeKind) (name : String) (value : Value)
  /-- The store of a scope is handed out, and written to in view of what it holds. -/
  | edit (kind : ScopeKind) (writes : Store → Writes)
  /-- A `set_variable` is updated. -/
  | act (bridge : Bridge) (d : Descriptor) (w : SetVariableParams) (c : UpdateContext τ)
  | clear (kind : ScopeKind)

namespace Deed

def layer : Deed τ → Option ScopeKind
  | .set _ _ => none
  | .setScoped _ kind _ _ | .setIn kind _ _ | .edit kind _ | .clear kind => some kind
  | .act _ _ w _ => w.scope?

def perform [Clock τ] (stage : Stage) : Deed τ → Stage
  | .set name value => { stage with bindings := stage.bindings.set name value }
  | .setScoped bridge kind name value =>
    { stage with scopes := ((stage.session bridge).setScoped kind name value).scopes }
  | .setIn kind name value => { stage with scopes := stage.scopes.set kind name value }
  | .edit kind writes =>
    { stage with scopes := stage.scopes.modify kind fun s => s.setAll (writes s) }
  | .act bridge d w c =>
    (Builtin.update bridge d (.setVariable w.name w.value w.scope?) stage c).stage
  | .clear kind => { stage with scopes := stage.scopes.clear kind }

def entries (stage : Stage) : Deed τ → List Entry
  | .set name value => [.written none name value]
  | .setScoped _ kind name value | .setIn kind name value => [.written (some kind) name value]
  | .edit kind writes => (writes ((stage.scopes.store? kind).getD .empty)).map fun w =>
    .written (some kind) w.1 w.2
  | .act _ _ w _ => [.written w.scope? w.name w.value]
  | .clear kind => [.cleared kind]

end Deed

/-- What deeds leave behind, if they find this stage. -/
def Stage.afterAll [Clock τ] (stage : Stage) (deeds : List (Deed τ)) : Stage :=
  deeds.foldl Deed.perform stage

/-- The entries of deeds of which the first one finds this stage. -/
def Stage.history [Clock τ] (stage : Stage) : List (Deed τ) → List Entry
  | [] => []
  | deed :: rest => deed.entries stage ++ Stage.history (deed.perform stage) rest

/-! ### Layers hold what was written last -/

/-- In every layer stands what was written last to each name. -/
def Stage.Recalls (stage : Stage) (told : List Entry) : Prop :=
  ∀ layer name, stage.value? name layer = Entry.latest? layer name told

theorem Stage.recalls_nil (rng : Rng) : Recalls ⟨.empty, [], rng⟩ [] := by
  intro layer name
  cases layer <;> rfl

namespace Stage.Recalls

variable {stage : Stage} {told : List Entry}

theorem write (h : stage.Recalls told) (scope? : Option ScopeKind) (name : String) (value : Value) :
    (Builtin.write stage name value scope?).Recalls (told ++ [.written scope? name value]) := by
  intro layer other
  rw [value?_write, Entry.latest?_concat, h layer other]
  by_cases hwritten : scope? = layer ∧ name = other <;>
    simp [Entry.clears, Entry.value?, hwritten]

theorem edit (h : stage.Recalls told) (kind : ScopeKind) (writes : Store → Writes) :
    Recalls { stage with scopes := stage.scopes.modify kind fun s => s.setAll (writes s) }
      (told ++ (writes ((stage.scopes.store? kind).getD .empty)).map fun w =>
        .written (some kind) w.1 w.2) := by
  intro layer name
  rw [Entry.latest?_append_written, ← h layer name]
  cases layer with
  | none => rfl
  | some other =>
    simp only [value?, Scopes.get?_modify, Store.get?_setAll, Option.some.injEq, ← Scopes.get?_eq]
    by_cases hother : other = kind
    · simp [hother]
    · simp [hother, Ne.symm hother]

theorem clear (h : stage.Recalls told) (kind : ScopeKind) :
    Recalls { stage with scopes := stage.scopes.clear kind } (told ++ [.cleared kind]) := by
  intro layer name
  rw [Entry.latest?_concat, ← h layer name]
  cases layer with
  | none => rfl
  | some other =>
    simp only [value?, Scopes.get?_clear, Entry.clears]
    by_cases hother : other = kind
    · simp [hother]
    · have hkind : (some kind == some other) = false := by simp [Ne.symm hother]
      simp [hother, hkind, Entry.value?]

variable [Clock τ]

theorem perform (h : stage.Recalls told) (deed : Deed τ) :
    (deed.perform stage).Recalls (told ++ deed.entries stage) := by
  cases deed with
  | set name value => exact h.write none name value
  | setScoped bridge kind name value => exact h.write (some kind) name value
  | setIn kind name value => exact h.write (some kind) name value
  | edit kind writes => exact h.edit kind writes
  | act bridge d w c => exact h.write w.scope? w.name w.value
  | clear kind => exact h.clear kind

theorem afterAll (h : stage.Recalls told) (deeds : List (Deed τ)) :
    (stage.afterAll deeds).Recalls (told ++ stage.history deeds) := by
  induction deeds generalizing stage told with
  | nil => simpa [Stage.afterAll, Stage.history] using h
  | cons deed rest ih =>
    have hrest := ih (h.perform deed)
    rw [List.append_assoc] at hrest
    exact hrest

end Stage.Recalls

/-- A deed leaves every other layer as it is. -/
theorem Deed.value?_perform [Clock τ] (deed : Deed τ) (stage : Stage) {layer : Option ScopeKind}
    (hlayer : layer ≠ deed.layer) (name : String) :
    (deed.perform stage).value? name layer = stage.value? name layer := by
  have hwrite (scope? : Option ScopeKind) (other : String) (value : Value) (hne : layer ≠ scope?) :
      (Builtin.write stage other value scope?).value? name layer = stage.value? name layer := by
    rw [Stage.value?_write, if_neg fun h => hne h.1.symm]
  cases deed with
  | set other value => exact hwrite none other value hlayer
  | setScoped bridge kind other value => exact hwrite (some kind) other value hlayer
  | setIn kind other value => exact hwrite (some kind) other value hlayer
  | act bridge d w c => exact hwrite w.scope? w.name w.value hlayer
  | edit kind writes | clear kind =>
    cases layer with
    | none => rfl
    | some other =>
      have hother : other ≠ kind := fun h => hlayer (congrArg some h)
      simp [perform, Stage.value?, Scopes.get?_modify, Scopes.get?_clear, hother]

/-! ### What conditions see -/

namespace Condition

theorem lookup_eq (stage : Stage) (name : String) :
    lookup stage.scopes stage.bindings name = ((stage.value? name none).or
      (stage.value? name (some .runtime))).or (stage.value? name (some .persistent)) := by
  simp only [lookup, Scopes.resolve?, searchOrder, List.findSome?_cons, List.findSome?_nil,
    Stage.value?]
  cases stage.bindings.get? name <;> cases stage.scopes.get? .runtime name <;>
    cases stage.scopes.get? .persistent name <;> rfl

/-- Nothing of scopes and variables goes into a comparison but what is seen under its names. -/
theorem compareConstant_congr {scopes other : Scopes} {store store' : Store} {var : String}
    (h : lookup scopes store var = lookup other store' var) (op : Comparison) (value : Value) :
    compareConstant scopes store var op value = compareConstant other store' var op value := by
  rw [compareConstant, compareConstant, h]

theorem compareVariables_congr {scopes other : Scopes} {store store' : Store} {left right : String}
    (hleft : lookup scopes store left = lookup other store' left)
    (hright : lookup scopes store right = lookup other store' right) (op : Comparison) :
    compareVariables scopes store left op right = compareVariables other store' left op right := by
  rw [compareVariables, compareVariables, hleft, hright]

end Condition

theorem Writes.latest?_filterMap (f : String → Option Value) (names : List String) (name : String) :
    Writes.latest? (names.filterMap fun name => (f name).map (name, ·)) name
      = if name ∈ names then f name else none := by
  induction names using List.reverseRecOn with
  | nil => rfl
  | append_singleton names last ih =>
    rw [List.filterMap_append]
    cases hlast : f last with
    | none =>
      have hnone : [last].filterMap (fun name => (f name).map (name, ·)) = [] := by simp [hlast]
      rw [hnone, List.append_nil, ih]
      by_cases hname : name = last
      · simp [hname, hlast]
      · simp [hname]
    | some value =>
      have hone : [last].filterMap (fun name => (f name).map (name, ·)) = [(last, value)] := by
        simp [hlast]
      rw [hone, Writes.latest?_concat, ih]
      by_cases hname : name = last
      · simp [hname, hlast]
      · simp [hname]

/-- A store with what is seen under these names, and nothing else. -/
def Entry.sight (names : List String) (entries : List Entry) : Store :=
  .ofList (names.filterMap fun name => (seen? name entries).map (name, ·))

theorem Entry.lookup_sight {names : List String} {name : String} (hmem : name ∈ names)
    (entries : List Entry) :
    Condition.lookup [] (sight names entries) name = seen? name entries := by
  have hget : (sight names entries).get? name = seen? name entries := by
    rw [sight, (Store.Shows.ofList _).get?_eq, Writes.latest?_filterMap, if_pos hmem]
  rw [Condition.lookup, hget]
  cases seen? name entries <;> rfl

/-- **A condition sees under a name what was written last.** Take any history of writes to the
variables of a player and to the scopes that sessions share, and of scopes that are cleared. Under
each name a condition sees the last value that was written to it among the variables of the player;
if there is none, in the scope of the run since it was cleared; and if there is none there either,
in the scope that outlives runs since that was cleared. A comparison amounts to what it does where
this is all there is. Whatever is done to a scope with a name of its own, even if that name is
`runtime` or `persistent`, changes nothing of it, and no deed changes a layer that it is not done
to. -/
theorem conditions_see_latest [Clock τ] (rng : Rng) (deeds : List (Deed τ)) :
    let stage := Stage.afterAll ⟨.empty, [], rng⟩ deeds
    let told := Stage.history ⟨.empty, [], rng⟩ deeds
    (∀ name, Condition.lookup stage.scopes stage.bindings name =
      ((Entry.latest? none name told).or (Entry.latest? (some .runtime) name told)).or
        (Entry.latest? (some .persistent) name told)) ∧
    (∀ bridge var op value,
      (Condition.constant var op value).evaluate (stage.session bridge) stage.bindings
        = (Condition.constant var op value).evaluate ⟨[], bridge⟩ (Entry.sight [var] told)) ∧
    (∀ bridge left op right,
      (Condition.between left op right).evaluate (stage.session bridge) stage.bindings
        = (Condition.between left op right).evaluate ⟨[], bridge⟩
          (Entry.sight [left, right] told)) ∧
    ∀ deed : Deed τ,
      (∀ scope, deed.layer = some (.custom scope) → ∀ name,
        Condition.lookup (deed.perform stage).scopes (deed.perform stage).bindings name
          = Condition.lookup stage.scopes stage.bindings name) ∧
      ∀ layer, layer ≠ deed.layer → ∀ name,
        (deed.perform stage).value? name layer = stage.value? name layer := by
  intro stage told
  have hrecalls : stage.Recalls told := (Stage.recalls_nil rng).afterAll deeds
  have hlookup (name : String) :
      Condition.lookup stage.scopes stage.bindings name = Entry.seen? name told := by
    rw [Condition.lookup_eq, hrecalls, hrecalls, hrecalls]
    rfl
  have hsame (names : List String) (name : String) (hmem : name ∈ names) :
      Condition.lookup stage.scopes stage.bindings name
        = Condition.lookup [] (Entry.sight names told) name := by
    rw [hlookup, Entry.lookup_sight hmem]
  refine ⟨hlookup, ?_, ?_, fun deed => ⟨?_, fun layer hlayer => deed.value?_perform stage hlayer⟩⟩
  · intro bridge var op value
    rw [Condition.evaluate, Condition.evaluate]
    exact Condition.compareConstant_congr (hsame [var] var List.mem_cons_self) op value
  · intro bridge left op right
    rw [Condition.evaluate, Condition.evaluate]
    exact Condition.compareVariables_congr (hsame [left, right] left (by simp))
      (hsame [left, right] right (by simp)) op
  · intro scope hcustom name
    rw [Condition.lookup_eq, Condition.lookup_eq, deed.value?_perform stage (by simp [hcustom]),
      deed.value?_perform stage (by simp [hcustom]), deed.value?_perform stage (by simp [hcustom])]

/-- A scope that is merely named like the one of the run can be cleared without loss to it. -/
example : Entry.seen? "gold" [.written (some .runtime) "gold" (.int 5),
    .cleared (.custom "runtime")] = some (.int 5) := rfl

end ActionGraph
