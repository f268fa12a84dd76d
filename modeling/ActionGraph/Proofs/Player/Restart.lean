import ActionGraph.Action.Rehearsal
import ActionGraph.Proofs.Asset.Graph
import ActionGraph.Proofs.Player.Progress
import ActionGraph.Proofs.Store.Writes

/-!
# Starts that are refused

A start checks what it is given, and only then ends the run before it and sets the new one up. A
function cannot show that nothing was done before a check failed, as it does not keep what it had
begun. So the same start is written here as a program that works on its player in place and keeps
what it has done when it fails (`startInPlace`). It comes to what `start` says.

Variables that are worked on in place have an identity, and new ones come with a start.
-/

namespace ActionGraph

variable {ι τ : Type}

/-- What a start works on: a player, the identity of its variables, the next one to be given out,
and what has happened. -/
structure Bench (ι τ : Type) where
  player : Player ι
  identity : UInt64
  next : UInt64
  events : List (Event τ)

namespace Bench

variable (b : Bench ι τ)

def stop : Bench ι τ :=
  { b with player := (b.player.stop (τ := τ)).1, events := b.events ++ b.player.stop.2 }

def forgetReport : Bench ι τ := { b with player := { b.player with report? := none } }

/-- Puts a copy of this store in place of the variables. -/
def adopt (store : Store) : Bench ι τ :=
  { b with player := { b.player with bindings := store }, identity := b.next, next := b.next + 1 }

def reseed (seed : UInt64) : Bench ι τ := { b with player := { b.player with rng := .ofSeed seed } }

def greet (asset : Asset) (id : ActionId) : Bench ι τ :=
  { b with events := b.events ++ Player.greeting asset id }

def poise (asset : Asset) (id : ActionId) : Bench ι τ :=
  { b with player := { b.player with phase := .poised asset id none } }

end Bench

/-- Starts a run in place. What was done before a check fails stays done. -/
def startInPlace (asset : Asset) (options : StartOptions) :
    ExceptT FlowFault (StateM (Bench ι τ)) Unit := do
  if asset.size = 0 then throw (.emptyAsset asset.name)
  let some id := options.start?.or asset.start? | throw (.missingStart asset.name)
  if (asset.find? id).isNone then throw (.unknownAction id)
  modify Bench.stop
  modify Bench.forgetReport
  modify (Bench.adopt · (asset.bindings.merge options.bindings))
  if let some seed := options.seed? then modify (Bench.reseed · seed)
  modify (Bench.greet · asset id)
  modify (Bench.poise · asset id)

namespace Bench

variable (b : Bench ι τ)

def start (asset : Asset) (options : StartOptions) : Except FlowFault Unit × Bench ι τ :=
  (startInPlace asset options).run.run b

theorem start_eq (asset : Asset) (options : StartOptions) :
    b.start asset options =
      match b.player.start asset options with
      | .error fault => (.error fault, b)
      | .ok (started, told) => (.ok (), ⟨started, b.next, b.next + 1, b.events ++ told⟩) := by
  obtain ⟨start?, seed?, bindings⟩ := options
  rw [start, startInPlace, Player.start_eq, Player.resolveStart]
  by_cases hempty : asset.size = 0
  · rw [if_pos hempty, if_pos hempty]
    rfl
  rw [if_neg hempty, if_neg hempty]
  dsimp only
  cases start?.or asset.start? with
  | none => rfl
  | some id =>
    dsimp only
    cases hfind : asset.find? id with
    | none => rfl
    | some d =>
      have hevents : b.events ++ (b.player.stop.2 ++ Player.greeting asset id)
          = b.stop.events ++ Player.greeting asset id := (List.append_assoc ..).symm
      dsimp only [Except.map]
      rw [hevents]
      cases seed? <;> rfl

variable {b} {asset : Asset} {options : StartOptions}

theorem start_of_error {fault : FlowFault} (h : Player.resolveStart asset options = .error fault) :
    b.start asset options = (.error fault, b) := by
  rw [start_eq, Player.start_eq, h]
  rfl

theorem start_of_ok {id : ActionId} (h : Player.resolveStart asset options = .ok id) :
    b.start asset options = (.ok (), ⟨(b.player.stop (τ := τ)).1.poise asset options id, b.next,
      b.next + 1, b.events ++ (b.player.stop.2 ++ Player.greeting asset id)⟩) := by
  rw [start_eq, Player.start_eq, h]
  rfl

theorem start_refused_iff {fault : FlowFault} : (b.start asset options).1 = .error fault ↔
    Player.resolveStart asset options = .error fault := by
  cases h : Player.resolveStart asset options with
  | ok id =>
    rw [start_of_ok h]
    exact iff_of_false (fun h => nomatch h) fun h => nomatch h
  | error refusal =>
    rw [start_of_error h, Except.error.injEq, Except.error.injEq]

end Bench

/-! ### The checks -/

section

variable {asset : Asset} {options : StartOptions}

theorem resolveStart_of_mem {id : ActionId} (hid : options.start?.or asset.start? = some id)
    (hknown : id ∈ asset.actions.map Descriptor.id) :
    Player.resolveStart asset options = .ok id := by
  have hsize : asset.size ≠ 0 := by
    intro hempty
    rw [List.length_eq_zero_iff.1 hempty] at hknown
    exact List.not_mem_nil hknown
  obtain ⟨d, hd⟩ := Option.isSome_iff_exists.1 (Asset.isSome_find?_iff.2 hknown)
  rw [Player.resolveStart, if_neg hsize, hid]
  simp only [hd]

/-- Each check is made only where those before it have passed. -/
theorem resolveStart_eq_error_iff {fault : FlowFault} :
    Player.resolveStart asset options = .error fault ↔
      asset.actions = [] ∧ fault = .emptyAsset asset.name ∨
      (asset.actions ≠ [] ∧ options.start?.or asset.start? = none ∧
        fault = .missingStart asset.name) ∨
      ∃ id, asset.actions ≠ [] ∧ options.start?.or asset.start? = some id ∧
        id ∉ asset.actions.map Descriptor.id ∧ fault = .unknownAction id := by
  by_cases hempty : asset.actions = []
  · have hsize : asset.size = 0 := List.length_eq_zero_iff.2 hempty
    rw [Player.resolveStart, if_pos hsize]
    simp [hempty, eq_comm]
  have hsize : asset.size ≠ 0 := mt List.length_eq_zero_iff.1 hempty
  cases hid : options.start?.or asset.start? with
  | none =>
    rw [Player.resolveStart, if_neg hsize, hid]
    simp [hempty, eq_comm]
  | some id =>
    by_cases hknown : id ∈ asset.actions.map Descriptor.id
    · rw [resolveStart_of_mem hid hknown]
      refine iff_of_false (fun h => nomatch h) ?_
      rintro (⟨h, -⟩ | ⟨-, h, -⟩ | ⟨other, -, h, hunknown, -⟩)
      · exact hempty h
      · cases h
      · exact hunknown (Option.some.inj h ▸ hknown)
    · have hnone : asset.find? id = none := by
        rw [← Option.not_isSome_iff_eq_none, Asset.isSome_find?_iff]
        exact hknown
      rw [Player.resolveStart, if_neg hsize, hid]
      simp only [hnone, Except.error.injEq]
      constructor
      · intro h
        exact .inr (.inr ⟨id, hempty, rfl, hknown, h.symm⟩)
      · rintro (⟨h, -⟩ | ⟨-, h, -⟩ | ⟨other, -, h, -, rfl⟩)
        · exact absurd h hempty
        · cases h
        · rw [Option.some.inj h]

end

/-! ### What a start does -/

def Event.isNotice : Event τ → Bool
  | .notice _ => true
  | _ => false

/-- What is done and heard in these events, without what is only traced. -/
def deeds (events : List (Event τ)) : List (Event τ) := events.filter (!·.isNotice)

namespace Player

variable {p : Player ι}

/-- What is done and heard when the run is stopped, if there is one. -/
def ending (p : Player ι) : List (Event τ) :=
  match p.phase with
  | .idle | .finished => []
  | .poised asset next last? => [.runFinished ⟨asset.name, last?.getD next, false⟩]
  | .active asset id _ => [.cancelled id, .runFinished ⟨asset.name, id, false⟩]

theorem deeds_stop (hsound : p.IsSound) : deeds (p.stop (τ := τ)).2 = p.ending := by
  rcases hsound.cases with hphase | ⟨asset, next, last?, hphase⟩ | ⟨asset, d, live, hphase, -⟩
  · rw [stop_of_idle hphase, ending, hphase]
    rfl
  · rw [stop_of_poised hphase, ending, hphase, farewell, closing, asset?, hphase]
    rfl
  · rw [stop_of_active hphase, ending, hphase, farewell, closing, asset?, hphase]
    rfl

theorem rng_stop (p : Player ι) : (p.stop (τ := τ)).1.rng = p.rng := by
  rw [stop]
  split <;> rfl

end Player

/-- How a bench is after a start that is accepted, and what has happened. -/
structure Bench.Begins [Clock τ] (b b' : Bench ι τ) (asset : Asset) (options : StartOptions)
    (id : ActionId) (told : List (Event τ)) : Prop where
  events_eq : b'.events = b.events ++ told
  call_eq : b.player.call (.start asset options : Call ι τ) = (b'.player, told)
  deeds_eq : deeds told = b.player.ending ++ [.runStarted asset.name]
  phase_eq : b'.player.phase = .poised asset id none
  report?_eq : b'.player.report? = none
  get?_eq (name : String) : b'.player.bindings.get? name
    = (options.bindings.get? name).or (asset.bindings.get? name)
  rng_eq : b'.player.rng = (options.seed?.map Rng.ofSeed).getD b.player.rng
  config_eq : b'.player.config = b.player.config
  identity_eq : b'.identity = b.next

namespace Bench

variable [Clock τ] {b : Bench ι τ} {asset : Asset} {options : StartOptions} {id : ActionId}

theorem exists_begins (hsound : b.player.IsSound) (h : Player.resolveStart asset options = .ok id) :
    (b.start asset options).1 = .ok () ∧
      ∃ told, b.Begins (b.start asset options).2 asset options id told := by
  rw [start_of_ok h]
  refine ⟨rfl, b.player.stop.2 ++ Player.greeting asset id, rfl, Player.call_start_of_ok h _, ?_,
    rfl, rfl, asset.bindings.get?_merge options.bindings, ?_, b.player.config_stop, rfl⟩
  · rw [deeds, List.filter_append]
    exact congrArg (· ++ _) (Player.deeds_stop hsound)
  · rw [Player.poise]
    cases options.seed? with
    | none => exact b.player.rng_stop
    | some seed => rfl

/-- **A start that is refused does nothing.** It is refused for one of three reasons, each looked
for after the one before; otherwise the run before it ends and a new one begins. -/
theorem starts_are_atomic (hreach : b.player.IsReachable τ) (asset : Asset)
    (options : StartOptions) :
    ((b.start asset options).1 = .error (.emptyAsset asset.name) ↔ asset.actions = []) ∧
    ((b.start asset options).1 = .error (.missingStart asset.name) ↔
      asset.actions ≠ [] ∧ options.start? = none ∧ asset.start? = none) ∧
    (∀ id, (b.start asset options).1 = .error (.unknownAction id) ↔
      asset.actions ≠ [] ∧ options.start?.or asset.start? = some id ∧
        id ∉ asset.actions.map Descriptor.id) ∧
    (∀ fault, (b.start asset options).1 = .error fault →
      (b.start asset options).2 = b ∧
        b.player.call (.start asset options : Call ι τ) = (b.player, [])) ∧
    ∀ id, options.start?.or asset.start? = some id → id ∈ asset.actions.map Descriptor.id →
      (b.start asset options).1 = .ok () ∧
        ∃ told, b.Begins (b.start asset options).2 asset options id told := by
  simp only [start_refused_iff]
  refine ⟨?_, ?_, fun id => ?_, fun fault h => ?_, fun id hid hknown => ?_⟩
  · rw [resolveStart_eq_error_iff]
    simp
  · rw [resolveStart_eq_error_iff]
    simp
  · rw [resolveStart_eq_error_iff]
    simp
  · rw [start_of_error h]
    exact ⟨rfl, Player.call_start_of_error h b.player⟩
  · exact exists_begins hreach.isSound (resolveStart_of_mem hid hknown)

end Bench

namespace Player

/-- A flow that goes on until it is stopped. -/
def vigil : Asset where
  name := "vigil"
  actions := [{ id := "watch", type := "idle" }]
  index := [("watch", 0)]
  start? := some "watch"
  bindings := .ofList [("hour", .int 0), ("lit", .bool true)]
  consistent := Asset.isIndexOf_indexOf rfl

def company : Repertoire (Rehearsal Float32) Float32 := Rehearsal.repertoire fun _ => ⟨[], []⟩

/-- The player in the middle of the flow. -/
def watched : Player (Rehearsal Float32) :=
  (new {} 0).after [.start vigil {}, .update ⟨company, .new, 1⟩]

theorem phase_watched : watched.phase = .active vigil "watch" .idle := by
  let begun : Outcome (Rehearsal Float32) Float32 :=
    begin company Session.new.bridge ((new {} 0).poise vigil {} "watch") [] vigil "watch"
  let t : Turn (Rehearsal Float32) Float32 :=
    { repertoire := company
      bridge := Session.new.bridge
      player := begun.player
      scopes := begun.scopes
      remaining := Clock.orZero 1
      asset := vigil
      descriptor := { id := "watch", type := "idle" }
      live := .idle
      phase_eq := rfl
      find?_eq := rfl }
  show (run t.repertoire t.bridge 255 t.remaining t.player t.scopes).player.phase = _
  rw [run_turn]
  rfl

theorem starts_are_atomic_in_vigil :
    let b : Bench (Rehearsal Float32) Float32 := ⟨watched, 1, 2, []⟩
    let anew : StartOptions := { bindings := .ofList [("hour", .int 3)] }
    b.start vigil { start? := some "missing" } = (.error (.unknownAction "missing"), b) ∧
      ∃ told, b.Begins (b.start vigil anew).2 vigil anew "watch" told ∧
        deeds told = [.cancelled "watch", .runFinished ⟨"vigil", "watch", false⟩,
          .runStarted "vigil"] ∧
        (b.start vigil anew).2.player.bindings.get? "hour" = some (.int 3) ∧
        (b.start vigil anew).2.player.bindings.get? "lit" = some (.bool true) := by
  intro b anew
  have hreach : watched.IsReachable Float32 := .call (.call (.new {} 0) _) _
  obtain ⟨-, -, hunknown, hrefused, -⟩ :=
    b.starts_are_atomic hreach vigil { start? := some "missing" }
  obtain ⟨-, -, -, -, hbegins⟩ := b.starts_are_atomic hreach vigil anew
  have herror := (hunknown "missing").2 ⟨by decide, rfl, by decide⟩
  obtain ⟨-, told, hbegun⟩ := hbegins "watch" rfl (by decide)
  refine ⟨Prod.ext herror (hrefused _ herror).1, told, hbegun, ?_, ?_, ?_⟩
  · rw [hbegun.deeds_eq, ending, phase_watched]
    rfl
  · rw [hbegun.get?_eq]
    rfl
  · rw [hbegun.get?_eq]
    rfl

end Player

end ActionGraph
