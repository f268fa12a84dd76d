import ActionGraph.Action.Rehearsal
import ActionGraph.Proofs.Action.Settlement
import ActionGraph.Proofs.Clock.Measure
import ActionGraph.Proofs.Player.Complaints
import Mathlib.Algebra.Order.BigOperators.Group.List
import Mathlib.Algebra.Order.Ring.Rat
import Mathlib.Tactic.Linarith

/-!
# Changing one's mind

An action may call upon its context as often as it likes. Each call writes over some of what the
calls before have left and keeps the rest, but what is kept never bears on the decision: this is
`decision_call`, for any context. So the last call decides, and all that the others leave behind is
the time that they have spent.
-/

namespace ActionGraph

variable {ι τ : Type}

namespace UpdateCall

/-- What a call decides, if it is the last one. -/
def decision : UpdateCall τ → Decision
  | .keepActive => .stay none
  | .breakFlow => .finish
  | .throw message true => .stay (some message)
  | .throw message false => .fail message
  | .goto link? _ => .along link?

/-- The time that a call spends, in exact seconds. -/
def spent : UpdateCall ℚ → ℚ
  | .goto (some _) consumed => max consumed 0
  | .goto none _ | .keepActive | .breakFlow | .throw _ _ => 0

theorem spent_nonneg (call : UpdateCall ℚ) : 0 ≤ call.spent := by
  cases call with
  | goto link? consumed =>
    cases link? with
    | none => exact le_rfl
    | some link => exact le_max_right _ _
  | keepActive | breakFlow | throw => exact le_rfl

end UpdateCall

/-- What is decided by these calls: what the last one decides, and to stay where there is none. -/
def lastWord (calls : List (UpdateCall τ)) : Decision :=
  (calls.getLast?.map UpdateCall.decision).getD (.stay none)

namespace UpdateContext

section

variable [Clock τ]

def callAll (c : UpdateContext τ) (calls : List (UpdateCall τ)) : UpdateContext τ :=
  calls.foldl call c

theorem decision_call (c : UpdateContext τ) (call : UpdateCall τ) :
    (c.call call).decision = call.decision := by
  cases call with
  | keepActive | breakFlow => rfl
  | throw message retry => cases retry <;> rfl
  | goto link? consumed => exact c.decision_goto link? consumed

theorem decision_callAll (time : τ) (calls : List (UpdateCall τ)) :
    ((new time).callAll calls).decision = lastWord calls := by
  induction calls using List.reverseRecOn with
  | nil => rfl
  | append_singleton calls last =>
    rw [callAll, List.foldl_append, lastWord, List.getLast?_concat]
    exact decision_call _ last

end

theorem remaining_call {c : UpdateContext ℚ} (hnonneg : 0 ≤ c.remaining) (call : UpdateCall ℚ) :
    (c.call call).remaining = max (c.remaining - call.spent) 0 := by
  have hsame : c.remaining = max (c.remaining - 0) 0 := by rw [sub_zero, max_eq_left hnonneg]
  cases call with
  | goto link? consumed =>
    cases link? with
    | none => exact hsame
    | some link => rfl
  | keepActive | breakFlow | throw => exact hsame

/-- It makes no difference in the end that a budget never falls below nothing on the way. -/
theorem max_max_sub {x spent : ℚ} (hspent : 0 ≤ spent) :
    max (max x 0 - spent) 0 = max (x - spent) 0 := by
  rcases le_total 0 x with hle | hle
  · rw [max_eq_left hle]
  · rw [max_eq_right hle, max_eq_right (by linarith), max_eq_right (by linarith)]

theorem sum_spent_nonneg (calls : List (UpdateCall ℚ)) : 0 ≤ (calls.map UpdateCall.spent).sum := by
  refine List.sum_nonneg fun spent hspent => ?_
  obtain ⟨call, -, rfl⟩ := List.mem_map.1 hspent
  exact call.spent_nonneg

theorem remaining_callAll {c : UpdateContext ℚ} (hnonneg : 0 ≤ c.remaining)
    (calls : List (UpdateCall ℚ)) :
    (c.callAll calls).remaining = max (c.remaining - (calls.map UpdateCall.spent).sum) 0 := by
  induction calls generalizing c with
  | nil =>
    rw [List.map_nil, List.sum_nil, sub_zero, max_eq_left hnonneg]
    rfl
  | cons call rest ih =>
    have hcall := remaining_call hnonneg call
    change ((c.call call).callAll rest).remaining = _
    rw [ih (hcall ▸ le_max_right _ _), hcall, max_max_sub (sum_spent_nonneg rest), sub_sub,
      List.map_cons, List.sum_cons]

end UpdateContext

section

variable [Clock τ]

/-- What comes of a turn when this is decided in it and `leftover` is left of the frame time. -/
def Turn.ComesOf (t : Turn ι τ) (more : Nat) (leftover : τ) (o : Outcome ι τ) : Decision → Prop
  | .stay complaint? =>
    o.player.phase = .active t.asset t.descriptor.id t.heir ∧ news o.events = [] ∧
      ownEntries o.events = complaint?.toList.map fun message =>
        (.warn, "action `" ++ t.descriptor.id ++ "` failed: " ++ message)
  | .finish =>
    o.player.phase = .idle ∧ news o.events = [.finished ⟨t.asset.name, t.descriptor.id, false⟩] ∧
      ownEntries o.events = []
  | .fail message =>
    o.player.phase = .idle ∧ news o.events = [.finished ⟨t.asset.name, t.descriptor.id, true⟩] ∧
      ownEntries o.events = [(.error, "action `" ++ t.descriptor.id ++ "` failed: " ++ message)]
  | .go next true =>
    o.player.phase = .poised t.asset next t.descriptor.id ∧ news o.events = [] ∧
      ownEntries o.events = []
  | .go next false =>
    match more with
    | 0 =>
      o.player.phase = .poised t.asset next t.descriptor.id ∧ news o.events = [] ∧
        ownEntries o.events
          = [(.warn, (Complaint.exhausted t.asset.name t.player.config.limit next).text)]
    | more + 1 =>
      o = (Player.run t.repertoire t.bridge more leftover (t.arrival next).player
        (t.arrival next).scopes).after (t.departure next false ++ (t.arrival next).events)

theorem Turn.comesOf_decision (t : Turn ι τ) (more : Nat) :
    t.ComesOf more t.played.result.2.remaining
      (Player.run t.repertoire t.bridge more t.remaining t.player t.scopes) t.decision := by
  have hclosing (withError : Bool) :
      t.seated.closing withError = ⟨t.asset.name, t.descriptor.id, withError⟩ := rfl
  rw [Player.run_turn]
  cases hdecision : t.decision with
  | stay complaint? => exact ⟨rfl, t.news_events, t.ownEntries_of_stay hdecision⟩
  | finish =>
    refine ⟨rfl, ?_, ?_⟩
    · rw [news_append, t.news_events, news_farewell, hclosing]
      rfl
    · rw [ownEntries_append, t.ownEntries_events, hdecision, ownEntries_farewell]
      rfl
  | fail message =>
    refine ⟨rfl, ?_, ?_⟩
    · rw [news_append, t.news_events, news_farewell, hclosing]
      rfl
    · rw [ownEntries_append, t.ownEntries_events, hdecision, ownEntries_farewell]
      rfl
  | go next yields =>
    cases yields with
    | true => exact ⟨rfl, t.news_departure next true, t.ownEntries_departure hdecision⟩
    | false =>
      cases more with
      | zero =>
        refine ⟨rfl, ?_, ?_⟩
        · show news (t.departure next false ++ _) = []
          rw [news_append, t.news_departure]
          rfl
        · show ownEntries (t.departure next false ++ _) = _
          rw [ownEntries_append, t.ownEntries_departure hdecision]
          rfl
      | succ more => rfl

/-- **The last call decides.** The calls before it have only spent some of the frame time. -/
theorem last_call_decides (t : Turn ι τ) {calls : List (UpdateCall τ)}
    (hcalls : t.played.result.2 = t.context.callAll calls) (more : Nat) :
    t.decision = lastWord calls ∧
    t.decision = (t.context.callAll calls.getLast?.toList).decision ∧
    t.ComesOf more (t.context.callAll calls).remaining
      (Player.run t.repertoire t.bridge more t.remaining t.player t.scopes)
      (lastWord calls) ∧
    ∀ (time : ℚ) (calls : List (UpdateCall ℚ)), ((UpdateContext.new time).callAll calls).remaining
      = max (time - (calls.map UpdateCall.spent).sum) 0 := by
  have hlast : t.decision = lastWord calls := by
    rw [Turn.decision, hcalls]
    exact UpdateContext.decision_callAll t.remaining calls
  refine ⟨hlast, ?_, ?_, fun time calls => ?_⟩
  · rw [hlast, Turn.context, UpdateContext.decision_callAll, lastWord, lastWord]
    cases calls.getLast? <;> rfl
  · rw [← hlast, ← hcalls]
    exact t.comesOf_decision more
  · have hstart : (UpdateContext.new time).remaining = max time 0 := rfl
    rw [UpdateContext.remaining_callAll (hstart ▸ le_max_right _ _), hstart]
    exact UpdateContext.max_max_sub (UpdateContext.sum_spent_nonneg calls)

/-- The cue on which a rehearsed action makes this call. -/
def UpdateCall.cue : UpdateCall τ → Cue τ
  | .keepActive => .keepActive
  | .breakFlow => .breakFlow
  | .throw message retry => .throw message retry
  | .goto link? consumed => .goto link? consumed

/-- Every sequence of calls can be rehearsed. -/
theorem playAll_cues (bridge : Bridge) (d : Descriptor) (stage : Stage) (c : UpdateContext τ)
    (calls : List (UpdateCall τ)) :
    (Cue.playAll bridge d stage c (calls.map UpdateCall.cue)).result = c.callAll calls := by
  induction calls generalizing stage c with
  | nil => rfl
  | cons call rest ih =>
    cases call with
    | keepActive | breakFlow | throw | goto => exact ih _ _

end

namespace Player

/-- A flow with one action, whose links are of its own making. -/
def soliloquy : Asset where
  name := "soliloquy"
  actions := [{ id := "speech", type := "scripted" }]
  index := [("speech", 0)]
  start? := some "speech"
  bindings := .empty
  consistent := Asset.isIndexOf_indexOf rfl

/-- The calls of an action that leaves, changes its mind, and leaves for the next frame at last. -/
def waverings : List (UpdateCall ℚ) :=
  [.goto (some { target := "exit" }) 1, .throw "stage fright" true, .breakFlow,
    .goto (some { target := "speech", yields := true }) (-2), .keepActive,
    .goto (some { target := "wings", yields := true }) 3]

def monologue : CueSheet ℚ := ⟨[], [waverings.map UpdateCall.cue]⟩

def delivery : Turn (Rehearsal ℚ) ℚ where
  repertoire := Rehearsal.repertoire fun _ => monologue
  bridge := Session.new.bridge
  player := ⟨{}, .active soliloquy "speech" (.scripted monologue 0), .empty, .ofSeed 0, none⟩
  scopes := Session.new.scopes
  remaining := 5
  asset := soliloquy
  descriptor := { id := "speech", type := "scripted" }
  live := .scripted monologue 0
  phase_eq := rfl
  find?_eq := rfl

theorem last_call_decides_in_delivery :
    delivery.played.result.2 = delivery.context.callAll waverings ∧
      delivery.decision = .go "wings" true ∧ delivery.played.result.2.remaining = 1 := by
  have hcalls : delivery.played.result.2 = delivery.context.callAll waverings := playAll_cues ..
  obtain ⟨hdecision, -, -, hleft⟩ := last_call_decides delivery hcalls 0
  refine ⟨hcalls, hdecision, ?_⟩
  rw [hcalls, Turn.context, hleft]
  decide +kernel

end Player

end ActionGraph
