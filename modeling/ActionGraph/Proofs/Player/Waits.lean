import ActionGraph.Proofs.Player.Timing
import Mathlib.Algebra.Order.BigOperators.Group.List
import Mathlib.Data.List.Chain
import Mathlib.Logic.Relation

/-!
# Chains of waits

Waits that lead from one to the next divide the time of a flow: it is past the first of them as soon
as the time that it was given reaches the sum of theirs.
-/

namespace ActionGraph

open Clock (Measure)
open Relation (TransGen)

variable {τ : Type}

namespace Asset

/-- Whether an action of the asset has a link to another one. -/
def Leads (a : Asset) (id next : ActionId) : Prop :=
  ∃ d, a.find? id = some d ∧ ∃ link ∈ d.links, link.target = next

/-- Waits with their times, each with a link to the next and no other one, and none of them leads
back to itself. -/
structure IsChain [Clock τ] (a : Asset) (waits : List (Descriptor × τ)) : Prop where
  known : ∀ w ∈ waits, a.find? w.1.id = some w.1
  makes : ∀ w ∈ waits, w.1.type = "wait" ∧ Builtin.makeWait w.1 = .ok (.wait w.2 Clock.zero)
  linked : waits.IsChain fun w next => w.1.links = [{ target := next.1.id }]
  forward : ∀ w ∈ waits, ¬TransGen a.Leads w.1.id w.1.id

theorem IsChain.tail [Clock τ] {a : Asset} {w : Descriptor × τ} {rest : List (Descriptor × τ)}
    (h : a.IsChain (w :: rest)) : a.IsChain rest :=
  ⟨(List.forall_mem_cons.1 h.known).2, (List.forall_mem_cons.1 h.makes).2, h.linked.tail,
    (List.forall_mem_cons.1 h.forward).2⟩

end Asset

/-! ### What comes behind an action -/

/-- Whether a flow can come to the spot from this action, by at least one link. -/
def Spot.IsBehind (asset : Asset) (id : ActionId) : Spot τ → Prop
  | .due a next _ => a = asset ∧ TransGen asset.Leads id next
  | .live a d _ => a = asset ∧ a.find? d.id = some d ∧ TransGen asset.Leads id d.id
  | .ended _ => True

section

variable [Clock τ] {bridge : Bridge} {asset : Asset} {id : ActionId} {s next : Scene τ}
  {seen : List Observation}

theorem Scene.Step.isBehind (h : Step bridge s seen next) (hs : s.spot.IsBehind asset id) :
    next.spot.IsBehind asset id := by
  cases h with
  | miss | refuse | close => trivial
  | make hknown hmake =>
    obtain ⟨rfl, hleads⟩ := hs
    obtain rfl := Asset.id_of_find? hknown
    exact ⟨rfl, hknown, hleads⟩
  | leave hsettle hgo =>
    obtain ⟨rfl, hknown, hleads⟩ := hs
    obtain ⟨link, hlink, htarget, -⟩ := Builtin.exists_link_of_settle hsettle hgo
    exact ⟨rfl, hleads.tail ⟨_, hknown, link, hlink, htarget⟩⟩

theorem Scene.Step.isBehind_of_live {d : Descriptor} {b : Builtin τ} {stage : Stage}
    (hknown : asset.find? d.id = some d)
    (h : Step bridge ⟨.live asset d b, stage⟩ seen next) : next.spot.IsBehind asset d.id := by
  cases h with
  | close => trivial
  | leave hsettle hgo =>
    obtain ⟨link, hlink, htarget, -⟩ := Builtin.exists_link_of_settle hsettle hgo
    exact ⟨rfl, .single ⟨d, hknown, link, hlink, htarget⟩⟩

theorem Scene.step_of_only_link (bridge : Bridge) (asset : Asset) {d : Descriptor}
    {next : ActionId} (hlinks : d.links = [{ target := next }]) (seconds elapsed : τ)
    (stage : Stage) :
    ∃ seen, Step bridge ⟨.live asset d (.wait seconds elapsed), stage⟩ seen
      ⟨.due asset next (some d.id), stage⟩ := by
  have hvalid : Link.isValid (stage.session bridge) stage.bindings { target := next } = true := rfl
  have hfound : (stage.firstValid bridge d : Performance τ _).result = some { target := next } :=
    (Link.result_firstValid (stage.session bridge) stage.bindings d.links).trans
      (by rw [hlinks, List.find?_cons_of_pos hvalid])
  have hsettle : (Builtin.wait seconds elapsed).settle bridge d stage
      = some ((stage.firstValid bridge d).map .along) := rfl
  have hgo : Decision.along (stage.firstValid bridge d : Performance τ _).result
      = .go next false := by
    rw [hfound]
    rfl
  exact ⟨_, Step.leave hsettle hgo⟩

end

/-! ### The time of a chain -/

section

variable [Clock τ] [Measure τ] {bridge : Bridge} {asset : Asset} {d : Descriptor} {seconds : τ}
  {last? : Option ActionId} {stage : Stage} {last : Scene τ} {p : Player (Builtin τ)}
  {scopes : Scopes} {t e : ℚ}

/-- A flow stays in a wait while its time lasts, and then comes to what is behind it. -/
theorem Scene.Rests.wait_cases (hrests : last.Rests p scopes e)
    (hknown : asset.find? d.id = some d) (htype : d.type = "wait")
    (hmake : Builtin.makeWait d = .ok (.wait seconds Clock.zero))
    (hlasts : Lasts bridge ⟨.due asset d.id last?, stage⟩ t last) :
    (t + e < Measure.value seconds ∧ p.current? = some d.id) ∨
      (Measure.value seconds ≤ t + e ∧ ∃ seen next more,
        Step bridge ⟨.live asset d (.wait seconds Clock.zero), stage⟩ seen next ∧
          Lasts bridge next more last ∧ t = Measure.value seconds + more) := by
  have hmade : Builtin.repertoire.make d.type d = .ok (.wait seconds Clock.zero) := by
    rw [htype]
    exact hmake
  cases hlasts with
  | nil => exact hrests.spot_shown.elim
  | cons hfirst hlater =>
    obtain ⟨-, rfl⟩ := hfirst.unique (.make hknown hmade)
    rw [Spot.duration, zero_add]
    cases hlater with
    | nil =>
      obtain ⟨-, b, hphase, hfresh, -⟩ := hrests.spot_shown
      have hlingers := hrests.lingers hphase
      have hwaits : ¬b.IsRetrying := by
        rintro ⟨message, rfl⟩
        exact nomatch hfresh
      have hshorter := hlingers.lt_duration hwaits
      rw [← Builtin.duration_started, hfresh] at hshorter
      rw [zero_add]
      exact .inl ⟨hshorter, by simp only [Player.current?, hphase, Phase.current?]⟩
    | cons hstep hmore =>
      have hpassed := hmore.nonneg hstep.isTimely
      have hnonneg := hrests.nonneg
      refine .inr ⟨?_, _, _, _, hstep, hmore, rfl⟩
      rw [Spot.duration, Builtin.duration_started, Builtin.duration]
      linarith

theorem Scene.Lasts.isBehind {s : Scene τ} {id : ActionId} (h : Lasts bridge s t last)
    (hs : s.spot.IsBehind asset id) : last.spot.IsBehind asset id := by
  induction h with
  | nil => exact hs
  | cons hstep _ ih => exact ih (hstep.isBehind hs)

theorem Scene.Rests.current?_ne {id : ActionId} (hrests : last.Rests p scopes e)
    (hbehind : last.spot.IsBehind asset id) (hforward : ¬TransGen asset.Leads id id) :
    p.current? ≠ some id := by
  obtain ⟨spot, stage⟩ := last
  have hspot := hrests.spot_shown
  intro hcurrent
  cases spot with
  | due asset next last? => exact hspot.elim
  | live asset d fresh =>
    obtain ⟨-, b, hphase, -⟩ := hspot
    obtain ⟨rfl, -, hleads⟩ := hbehind
    simp only [Player.current?, hphase, Phase.current?, Option.some.injEq] at hcurrent
    exact hforward (hcurrent ▸ hleads)
  | ended report => simp [Player.current?, hspot.1, Phase.current?] at hcurrent

theorem Asset.IsChain.sum_nonneg {waits : List (Descriptor × τ)} (h : asset.IsChain waits)
    (k : Nat) : 0 ≤ ((waits.take k).map fun w => Measure.value w.2).sum := by
  refine List.sum_nonneg fun value hvalue => ?_
  obtain ⟨w, hw, rfl⟩ := List.mem_map.1 hvalue
  have hmake := (h.makes w (List.mem_of_mem_take hw)).2
  exact Measure.value_nonneg (Builtin.isTimely_of_makeWait hmake).1

variable {w : Descriptor × τ} {rest : List (Descriptor × τ)}

/-- A flow is in the first wait of a chain, or it is past it and came from it to the next one. -/
theorem Asset.IsChain.cases_of_rests (hchain : asset.IsChain (w :: rest))
    (hlasts : Scene.Lasts bridge ⟨.due asset w.1.id last?, stage⟩ t last)
    (hrests : last.Rests p scopes e) :
    (t + e < Measure.value w.2 ∧ p.current? = some w.1.id) ∨
      (Measure.value w.2 ≤ t + e ∧ p.current? ≠ some w.1.id ∧ ∀ next ∈ rest.head?, ∃ more,
        Scene.Lasts bridge ⟨.due asset next.1.id (some w.1.id), stage⟩ more last ∧
          t = Measure.value w.2 + more) := by
  have hknown := hchain.known w List.mem_cons_self
  obtain ⟨htype, hmake⟩ := hchain.makes w List.mem_cons_self
  rcases hrests.wait_cases hknown htype hmake hlasts with
    hwaits | ⟨hle, seen, s, more, hstep, hmore, htime⟩
  · exact .inl hwaits
  · have hbehind := hmore.isBehind (hstep.isBehind_of_live hknown)
    have hne := hrests.current?_ne hbehind (hchain.forward w List.mem_cons_self)
    refine .inr ⟨hle, hne, fun next hnext => ?_⟩
    have honly := hchain.linked.rel_head? hnext
    obtain ⟨seen', hleave⟩ :=
      Scene.step_of_only_link bridge asset honly w.2 Clock.zero stage
    obtain ⟨-, rfl⟩ := hstep.unique hleave
    exact ⟨more, hmore, htime⟩

/-- **A flow is past the first waits of a chain as soon as it has had time for all of them.** -/
theorem Asset.IsChain.past_iff (hchain : asset.IsChain (w :: rest))
    (hlasts : Scene.Lasts bridge ⟨.due asset w.1.id last?, stage⟩ t last)
    (hrests : last.Rests p scopes e) (k : Nat) :
    (∀ passed ∈ (w :: rest).take k, p.current? ≠ some passed.1.id) ↔
      (((w :: rest).take k).map fun passed => Measure.value passed.2).sum ≤ t + e := by
  have hnonneg : 0 ≤ t + e := add_nonneg (hlasts.nonneg trivial) hrests.nonneg
  induction rest generalizing w last? t k with
  | nil =>
    cases k with
    | zero => simpa using hnonneg
    | succ k =>
      rw [List.take_succ_cons, List.take_nil, List.forall_mem_cons, List.map_cons, List.sum_cons]
      rcases hchain.cases_of_rests hlasts hrests with ⟨hlt, hcurrent⟩ | ⟨hle, hne, -⟩
      · exact iff_of_false (fun h => h.1 hcurrent) (by simpa using hlt)
      · exact iff_of_true ⟨hne, by simp⟩ (by simpa using hle)
  | cons next rest ih =>
    cases k with
    | zero => simpa using hnonneg
    | succ k =>
      have hsum := hchain.tail.sum_nonneg k
      rw [List.take_succ_cons, List.forall_mem_cons, List.map_cons, List.sum_cons]
      rcases hchain.cases_of_rests hlasts hrests with ⟨hlt, hcurrent⟩ | ⟨hle, hne, hnext⟩
      · exact iff_of_false (fun h => h.1 hcurrent) (by linarith)
      · obtain ⟨more, hmore, rfl⟩ := hnext next rfl
        have hmoreNonneg : 0 ≤ more + e := add_nonneg (hmore.nonneg trivial) hrests.nonneg
        refine (and_iff_right hne).trans ((ih hchain.tail hmore k hmoreNonneg).trans ?_)
        rw [add_assoc, add_le_add_iff_left]

end

end ActionGraph
