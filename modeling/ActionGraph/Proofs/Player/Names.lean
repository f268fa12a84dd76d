import ActionGraph.Proofs.Player.Effects
import ActionGraph.Proofs.Player.News
import ActionGraph.Proofs.Store.Writes
import Mathlib.Data.List.DropRight

/-!
# The names in the store of a player

The rules for names are checked where an asset is built, so that the variables with which a flow
starts have names that scripts can read. A start clears the store of everything else. From then on
only a `set_variable` without a scope brings in a name, and the name is one of its parameters, which
nobody checks. So the names in the store are legal as long as these actions write legal ones, and no
longer.
-/

namespace ActionGraph

variable {τ : Type}

/-! ### Stores with legal names -/

namespace Store

/-- Whether a variable may have each of the names. -/
def IsLegal (s : Store) : Prop :=
  ∀ name ∈ s.slots.names, Naming.checkVariableName name = .ok ()

variable {s other : Store}

theorem isLegal_setAll_iff (hs : s.IsLegal) {bindings : List (String × Value)} :
    (s.setAll bindings).IsLegal
      ↔ ∀ binding ∈ bindings, Naming.checkVariableName binding.1 = .ok () := by
  constructor
  · intro hlegal binding hmem
    exact hlegal _ (mem_names_setAll.2 (.inl (List.mem_map_of_mem hmem)))
  · intro hbindings name hname
    rcases mem_names_setAll.1 hname with hnew | hold
    · obtain ⟨binding, hmem, rfl⟩ := List.mem_map.1 hnew
      exact hbindings binding hmem
    · exact hs name hold

theorem IsLegal.merge (hs : s.IsLegal) (hother : other.IsLegal) : (s.merge other).IsLegal := by
  refine (isLegal_setAll_iff hs).2 fun binding hmem => hother _ ?_
  exact List.mem_map_of_mem hmem

theorem isLegal_empty : empty.IsLegal := fun _ hname => nomatch hname

end Store

theorem Asset.IsBuilt.isLegal_bindings {asset : Asset} (hbuilt : asset.IsBuilt) :
    asset.bindings.IsLegal := by
  obtain ⟨draft, hbuild⟩ := hbuilt.exists_draft
  obtain ⟨hsound, -, -, -, hsame⟩ := Draft.isSound_of_build hbuild
  rw [hsame]
  exact hsound.bindings

/-! ### What happens since a start -/

def Event.startsRun : Event τ → Bool
  | .runStarted _ => true
  | _ => false

/-- The events behind the last start of a run, or all if there is none. -/
def sinceStart (events : List (Event τ)) : List (Event τ) :=
  events.rtakeWhile fun e => !e.startsRun

theorem sinceStart_append {events more : List (Event τ)}
    (hmore : ∀ e ∈ more, e.startsRun = false) :
    sinceStart (events ++ more) = sinceStart events ++ more := by
  have hall : ∀ e ∈ more.reverse, (!e.startsRun) = true := by
    intro e he
    simpa using hmore e (List.mem_reverse.1 he)
  rw [sinceStart, sinceStart, List.rtakeWhile, List.rtakeWhile, List.reverse_append,
    List.takeWhile_append_of_pos hall, List.reverse_append, List.reverse_reverse]

theorem sinceStart_concat_runStarted (events : List (Event τ)) (flow : String) :
    sinceStart (events ++ [.runStarted flow]) = [] :=
  List.rtakeWhile_concat_neg (fun e : Event τ => !e.startsRun) events _ (by simp [Event.startsRun])

/-- A run starts where observers hear of it. -/
theorem startsRun_of_news {events : List (Event τ)} (hnews : ∀ n ∈ news events, n.isStart = false) :
    ∀ e ∈ events, e.startsRun = false := by
  intro e he
  cases e with
  | runStarted flow =>
    have hnone := hnews (.started flow) (List.mem_filterMap.2 ⟨_, he, rfl⟩)
    simp [News.isStart] at hnone
  | _ => rfl

/-- What is written to the variables of the player. -/
def ownWrites (events : List (Event τ)) : List (String × Value) :=
  (writes events).filterMap SetVariableParams.own?

theorem ownWrites_append (events more : List (Event τ)) :
    ownWrites (events ++ more) = ownWrites events ++ ownWrites more := by
  rw [ownWrites, writes, List.filterMap_append, List.filterMap_append]
  rfl

theorem mem_ownWrites_iff {events : List (Event τ)} {binding : String × Value} :
    binding ∈ ownWrites events
      ↔ ∃ w ∈ writes events, w.scope? = none ∧ (w.name, w.value) = binding := by
  have hown (w : SetVariableParams) :
      w.own? = some binding ↔ w.scope? = none ∧ (w.name, w.value) = binding := by
    rw [SetVariableParams.own?]
    cases w.scope? <;> simp
  simp only [ownWrites, List.mem_filterMap, hown]

/-! ### Calls -/

/-- Whether a call brings in legal names only, as far as it names variables. -/
def Call.NamesLegally {ι : Type} : Call ι τ → Prop
  | .start _ options => options.bindings.IsLegal
  | .stop | .update _ => True

namespace Player

variable [Clock τ]

/-- The store is what has been written since the last start to a store with legal names. -/
structure StemsFrom (p : Player (Builtin τ)) (told : List (Event τ)) : Prop where
  lingers : p.Lingers
  store : ∃ base : Store, base.IsLegal ∧ p.bindings = base.setAll (ownWrites (sinceStart told))

variable {p : Player (Builtin τ)} {told : List (Event τ)}

/-- What is written where no run starts is added to what was written before. -/
theorem StemsFrom.extend (h : p.StemsFrom told) {q : Player (Builtin τ)} {more : List (Event τ)}
    (hlingers : q.Lingers) (hmore : ∀ e ∈ more, e.startsRun = false)
    (hbindings : q.bindings = p.bindings.setAll (ownWrites more)) : q.StemsFrom (told ++ more) where
  lingers := hlingers
  store := by
    obtain ⟨base, hbase, hstore⟩ := h.store
    refine ⟨base, hbase, ?_⟩
    rw [hbindings, hstore, sinceStart_append hmore, ownWrites_append, Store.setAll, Store.setAll,
      Store.setAll, List.foldl_append]

theorem startsRun_advance (hsound : p.IsSound) (f : Frame (Builtin τ) τ) :
    ∀ e ∈ (p.advance f).events, e.startsRun = false := by
  refine startsRun_of_news fun n hn => ?_
  rcases tells_advance hsound f with ⟨hnone, -⟩ | ⟨report, hnews, -⟩
  · simp [hnone] at hn
  · obtain rfl : n = .finished report := by simpa [hnews] using hn
    rfl

theorem StemsFrom.stop (h : p.StemsFrom told) :
    (p.stop (τ := τ)).1.StemsFrom (told ++ (p.stop (τ := τ)).2) := by
  have hfarewell : ∀ e ∈ (p.farewell false : List (Event τ)), e.startsRun = false := by
    simp [farewell, Event.startsRun]
  rcases h.lingers.isSound.cases with hphase | ⟨asset, next, last?, hphase⟩ |
    ⟨asset, d, live, hphase, -⟩
  · rw [stop_of_idle hphase, List.append_nil]
    exact h
  · rw [stop_of_poised hphase]
    exact h.extend (lingers_of_rest trivial rfl) hfarewell rfl
  · rw [stop_of_active hphase]
    refine h.extend (lingers_of_rest trivial rfl) ?_ rfl
    simpa [Event.startsRun] using hfarewell

theorem StemsFrom.start (h : p.StemsFrom told) {asset : Asset} (hbuilt : asset.IsBuilt)
    {options : StartOptions} (hoptions : options.bindings.IsLegal) :
    (p.call (.start asset options : Call (Builtin τ) τ)).1.StemsFrom
      (told ++ (p.call (.start asset options : Call (Builtin τ) τ)).2) := by
  cases hstart : resolveStart asset options with
  | error e =>
    rw [call_start_of_error hstart, List.append_nil]
    exact h
  | ok id =>
    rw [call_start_of_ok hstart]
    refine ⟨lingers_of_rest trivial rfl, asset.bindings.merge options.bindings,
      hbuilt.isLegal_bindings.merge hoptions, ?_⟩
    -- Nothing has been written since the start, which is told last.
    have hlast : told ++ ((p.stop (τ := τ)).2 ++ greeting asset id)
        = (told ++ (p.stop (τ := τ)).2 ++ [.notice ⟨.info, "flow started",
          [("flow", asset.name), ("start", id)]⟩]) ++ [.runStarted asset.name] := by
      simp [greeting]
    rw [hlast, sinceStart_concat_runStarted]
    rfl

theorem StemsFrom.update (h : p.StemsFrom told) {f : Frame (Builtin τ) τ}
    (hrepertoire : f.repertoire = Builtin.repertoire) :
    (p.advance f).player.StemsFrom (told ++ (p.advance f).events) := by
  obtain ⟨repertoire, ⟨scopes, bridge⟩, delta⟩ := f
  obtain rfl : repertoire = Builtin.repertoire := hrepertoire
  obtain ⟨hlingers, hunfolds⟩ := changes_update h.lingers bridge scopes delta
  have hbindings := congrArg Stage.bindings hunfolds.eq_replay
  exact h.extend hlingers (startsRun_advance h.lingers.isSound _) hbindings

theorem StemsFrom.call (h : p.StemsFrom told) {c : Call (Builtin τ) τ} (hplain : c.IsPlain)
    (hnames : c.NamesLegally) : (p.call c).1.StemsFrom (told ++ (p.call c).2) := by
  cases c with
  | start asset options => exact h.start hplain hnames
  | stop => exact h.stop
  | update f => exact h.update hplain

theorem StemsFrom.after (h : p.StemsFrom told) {calls : List (Call (Builtin τ) τ)}
    (hplain : ∀ c ∈ calls, c.IsPlain) (hnames : ∀ c ∈ calls, c.NamesLegally) (n : Nat) :
    (p.after calls).StemsFrom (told ++ (p.chronicle n calls).map Prod.snd) := by
  induction calls generalizing p told n with
  | nil =>
    rw [chronicle, List.map_nil, List.append_nil]
    exact h
  | cons c rest ih =>
    obtain ⟨hc, hrest⟩ := List.forall_mem_cons.1 hplain
    obtain ⟨hname, hothers⟩ := List.forall_mem_cons.1 hnames
    rw [map_snd_chronicle_cons, ← List.append_assoc]
    exact ih (h.call hc hname) hrest hothers (n + 1)

/-- **All names in the store of a player are legal if and only if every variable that was written
since the last start has a legal name.** The flows are built assets, whose variables have legal
names, the options of each start name legal ones, and all actions are built in. -/
theorem names_are_legal_iff (config : PlayerConfig) (seed : UInt64)
    {calls : List (Call (Builtin τ) τ)} (hplain : ∀ c ∈ calls, c.IsPlain)
    (hnames : ∀ c ∈ calls, c.NamesLegally) :
    let p : Player (Builtin τ) := new config seed
    (p.after calls).bindings.IsLegal ↔
      ∀ w ∈ writes (sinceStart ((p.chronicle 0 calls).map Prod.snd)),
        w.scope? = none → Naming.checkVariableName w.name = .ok () := by
  intro p
  have hfirst : p.StemsFrom ([] : List (Event τ)) :=
    ⟨lingers_of_rest (isSound_new config seed) rfl, .empty, Store.isLegal_empty, rfl⟩
  obtain ⟨-, base, hbase, hstore⟩ := hfirst.after hplain hnames 0
  rw [hstore, List.nil_append, Store.isLegal_setAll_iff hbase]
  constructor
  · intro hlegal w hw hscope
    exact hlegal (w.name, w.value) (mem_ownWrites_iff.2 ⟨w, hw, hscope, rfl⟩)
  · intro hlegal binding hbinding
    obtain ⟨w, hw, hscope, rfl⟩ := mem_ownWrites_iff.1 hbinding
    exact hlegal w hw hscope

theorem isBuilt_payday : payday.IsBuilt := by
  have hbuild : ((((Draft.new "payday").addAction "pay" "set_variable"
      (.object [("name", .string "gold"), ("value", .ofInt 5)])).addLink "pay"
      { target := "pay", condition := .varEquals "gold" (.int 5), yields := true }).setStart
      "pay").build = .ok payday := rfl
  exact .ofDraft hbuild

/-- The flow is started and updated once. -/
def playOnce (asset : Asset) : List (Call (Builtin Float32) Float32) :=
  [.start asset {}, .update ⟨Builtin.repertoire, .new, 0⟩]

theorem names_are_legal_in_payday :
    (∀ c ∈ playOnce payday, c.IsPlain) ∧ (∀ c ∈ playOnce payday, c.NamesLegally) ∧
      ((new {} 0 : Player (Builtin Float32)).after (playOnce payday)).bindings.IsLegal := by
  have hplain : ∀ c ∈ playOnce payday, c.IsPlain :=
    List.forall_mem_cons.2 ⟨isBuilt_payday, List.forall_mem_singleton.2 rfl⟩
  have hnames : ∀ c ∈ playOnce payday, c.NamesLegally :=
    List.forall_mem_cons.2 ⟨Store.isLegal_empty, List.forall_mem_singleton.2 trivial⟩
  have hwritten : (writes (sinceStart (((new {} 0 : Player (Builtin Float32)).chronicle 0
      (playOnce payday)).map Prod.snd))).map SetVariableParams.name = ["gold"] := by
    decide +kernel
  refine ⟨hplain, hnames, (names_are_legal_iff {} 0 hplain hnames).2 fun w hw _ => ?_⟩
  have hgold : w.name ∈ ["gold"] := hwritten ▸ List.mem_map_of_mem hw
  rw [List.mem_singleton.1 hgold]
  decide +kernel

/-- A flow that writes to a name that no variable may have. -/
def misnomer : Asset where
  name := "misnomer"
  actions := [{ id := "pay", type := "set_variable"
                params := .object [("name", .string "gold coins"), ("value", .ofInt 5)] }]
  index := [("pay", 0)]
  start? := some "pay"
  bindings := .empty
  consistent := Asset.isIndexOf_indexOf rfl

theorem name_is_not_legal_in_misnomer :
    (∀ c ∈ playOnce misnomer, c.IsPlain) ∧ (∀ c ∈ playOnce misnomer, c.NamesLegally) ∧
      "gold coins" ∈ ((new {} 0 : Player (Builtin Float32)).after
        (playOnce misnomer)).bindings.slots.names ∧
      Naming.checkVariableName "gold coins" ≠ .ok () := by
  have hloaded : Asset.ofJson (.object [("name", .string "misnomer"), ("start", .string "pay"),
      ("actions", .array [.object [("id", .string "pay"), ("type", .string "set_variable"),
        ("params", .object [("name", .string "gold coins"), ("value", .ofInt 5)])]])])
      = .ok misnomer := rfl
  exact ⟨List.forall_mem_cons.2 ⟨.ofJson hloaded, List.forall_mem_singleton.2 rfl⟩,
    List.forall_mem_cons.2 ⟨Store.isLegal_empty, List.forall_mem_singleton.2 trivial⟩,
    by decide +kernel, by decide +kernel⟩

end Player

end ActionGraph
