import ActionGraph.Proofs.Action.Making
import ActionGraph.Proofs.Clock.Measure
import Mathlib.Tactic.Linarith
import Mathlib.Tactic.Ring

/-!
# How long built-in actions take

A wait lasts its seconds, and every other action takes no time. An update of an instance spends what
is still to wait and leaves the rest, or it adds the whole frame time to what has been waited. A
`fail` that tries again is not a matter of time: it stays for ever.
-/

namespace ActionGraph.Builtin

open Clock (IsTime IsExactSum IsExactDifference Measure)

variable {τ : Type}

def IsRetrying (b : Builtin τ) : Prop := ∃ message, b = .fail message true

variable {bridge : Bridge} {d : Descriptor} {stage : Stage} {b : Builtin τ} {c : UpdateContext τ}

theorem IsRetrying.settle_eq (h : b.IsRetrying) : b.settle bridge d stage = none := by
  obtain ⟨message, rfl⟩ := h
  rfl

variable [Clock τ]

theorem isRetrying_started (b : Builtin τ) : b.started.IsRetrying ↔ b.IsRetrying := by
  cases b <;> simp [IsRetrying, started]

/-! ### What an update does with the frame time -/

/-- What an instance spends of the frame time when it stays no longer. -/
def needed : Builtin τ → τ
  | .wait seconds elapsed => Clock.floor (Clock.sub seconds elapsed)
  | _ => Clock.zero

/-- An instance that stays tries again, or waits for longer than the frame takes. -/
theorem update_of_stay {complaint? : Option String}
    (hstay : (b.update bridge d stage c).result.2.decision = .stay complaint?) :
    (b.IsRetrying ∧ (b.update bridge d stage c).result.1 = b) ∨
      ∃ seconds elapsed, b = .wait seconds elapsed ∧ ¬Clock.le b.needed c.remaining ∧
        (b.update bridge d stage c).result.1 = .wait seconds (Clock.add elapsed c.remaining) := by
  cases b with
  | wait seconds elapsed =>
    refine .inr ⟨seconds, elapsed, rfl, ?_⟩
    simp only [update, updateWait, needed] at hstay ⊢
    split at hstay
    · simp only [follow, UpdateContext.decision_goto] at hstay
      exact absurd hstay (Decision.along_ne_stay _ _)
    · rename_i hlonger
      rw [if_neg hlonger]
      exact ⟨hlonger, rfl⟩
  | fail message retry =>
    cases retry with
    | true => exact .inl ⟨⟨message, rfl⟩, rfl⟩
    | false => cases hstay
  | finish => cases hstay
  | branch | randomBranch | setVariable | log =>
    simp only [update, follow, Performance.after, UpdateContext.decision_goto] at hstay
    exact absurd hstay (Decision.along_ne_stay _ _)

theorem remaining_of_go {next : ActionId} {yields : Bool}
    (hgo : (b.update bridge d stage c).result.2.decision = .go next yields) :
    (b.update bridge d stage c).result.2.remaining
      = Clock.floor (Clock.sub c.remaining (Clock.floor b.needed)) := by
  have hgoto {link? : Option Link} {consumed : τ}
      (h : (c.goto link? consumed).decision = .go next yields) :
      (c.goto link? consumed).remaining
        = Clock.floor (Clock.sub c.remaining (Clock.floor consumed)) := by
    cases link? with
    | none => cases h
    | some link => rfl
  cases b with
  | wait seconds elapsed =>
    simp only [update, updateWait, needed] at hgo ⊢
    split at hgo
    · rename_i hle
      rw [if_pos hle]
      exact hgoto hgo
    · cases hgo
  | branch | randomBranch | setVariable | log => exact hgoto hgo
  | finish => cases hgo
  | fail message retry => cases retry <;> cases hgo

/-! ### What an instance waits for -/

variable [Measure τ]

def duration : Builtin τ → ℚ
  | .wait seconds _ => Measure.value seconds
  | _ => 0

/-- How long an instance has waited. -/
def elapsed : Builtin τ → ℚ
  | .wait _ elapsed => Measure.value elapsed
  | _ => 0

/-- Whether an instance has not waited for longer than it should. -/
def IsTimely : Builtin τ → Prop
  | .wait seconds elapsed =>
    IsTime seconds ∧ IsTime elapsed ∧ Measure.value elapsed ≤ Measure.value seconds
  | _ => True

/-- Whether the sums and differences are exact that an update comes upon before this decision. -/
structure IsExact (b : Builtin τ) (c : UpdateContext τ) (decision : Decision) : Prop where
  needed {seconds elapsed : τ} : b = .wait seconds elapsed → IsExactDifference seconds elapsed
  waited {seconds elapsed : τ} {complaint? : Option String} : b = .wait seconds elapsed →
    decision = .stay complaint? → IsExactSum elapsed c.remaining
  left {next : ActionId} {yields : Bool} : decision = .go next yields →
    IsExactDifference c.remaining (Clock.floor b.needed)

/-- Whether an instance may be the same after this time. -/
structure HasPassed (b : Builtin τ) (t : ℚ) : Prop where
  timely : b.IsTimely
  nonneg : 0 ≤ t
  elapsed_eq : ¬b.IsRetrying → b.elapsed = t

/-- Whether an instance is still there after this time. -/
structure Lingers (b : Builtin τ) (t : ℚ) : Prop extends b.HasPassed t where
  lt_duration : ¬b.IsRetrying → t < b.duration

variable {t : ℚ}

theorem duration_started (b : Builtin τ) : b.started.duration = b.duration := by
  cases b <;> rfl

theorem duration_nonneg (h : b.IsTimely) : 0 ≤ b.duration := by
  cases b with
  | wait seconds elapsed => exact Measure.value_nonneg h.1
  | branch | randomBranch | finish | setVariable | log | fail => exact le_refl 0

theorem HasPassed.elapsed_congr {b' : Builtin τ} (h : b.HasPassed t) (h' : b'.HasPassed t)
    (hsame : b.started = b'.started) : b.elapsed = b'.elapsed := by
  have hretrying : b.IsRetrying ↔ b'.IsRetrying := by
    rw [← isRetrying_started, hsame, isRetrying_started]
  by_cases hb : b.IsRetrying
  · obtain ⟨message', rfl⟩ := hretrying.1 hb
    obtain ⟨message, rfl⟩ := hb
    rfl
  · rw [h.elapsed_eq hb, h'.elapsed_eq (hretrying.not.1 hb)]

/-! ### Making an instance -/

theorem isTimely_wait {seconds : τ} (h : IsTime seconds) : (wait seconds Clock.zero).IsTimely := by
  refine ⟨h, Measure.isTime_zero, ?_⟩
  rw [Measure.value_zero]
  exact Measure.value_nonneg h

theorem isTimely_of_makeWait (h : makeWait d = .ok b) : b.IsTimely := by
  obtain ⟨params, -, hrest⟩ := bind_eq_ok_iff.1 h
  simp only at hrest
  split at hrest
  · rename_i hfinite
    cases hrest
    exact isTimely_wait (Measure.isTime_floor hfinite)
  · exact nomatch hrest

theorem isTimely_of_make {type : String} (h : repertoire.make type d = .ok b) : b.IsTimely := by
  obtain ⟨maker, hmaker, hmade⟩ := Repertoire.maker_of_make h
  simp only [repertoire, makers, List.mem_cons, Prod.mk.injEq, List.not_mem_nil, or_false] at hmaker
  rcases hmaker with ⟨-, rfl⟩ | ⟨-, rfl⟩ | ⟨-, rfl⟩ | ⟨-, rfl⟩ | ⟨-, rfl⟩ | ⟨-, rfl⟩ | ⟨-, rfl⟩
  · cases hmade
    trivial
  · cases hmade
    trivial
  · exact isTimely_of_makeWait hmade
  · obtain ⟨params, -, hrest⟩ := bind_eq_ok_iff.1 hmade
    cases hrest
    trivial
  · obtain ⟨params, -, hrest⟩ := bind_eq_ok_iff.1 hmade
    simp only at hrest
    split at hrest <;> cases hrest
    trivial
  · cases hmade
    trivial
  · rw [makeFail] at hmade
    split at hmade
    · cases hmade
      trivial
    · obtain ⟨params, -, hrest⟩ := bind_eq_ok_iff.1 hmade
      cases hrest
      trivial

theorem isTimely_started (h : b.IsTimely) : b.started.IsTimely := by
  cases b with
  | wait seconds elapsed => exact isTimely_wait h.1
  | branch | randomBranch | finish | setVariable | log | fail => trivial

/-- An instance that starts has all its time before it. -/
theorem hasPassed_started (h : b.IsTimely) : b.started.HasPassed 0 := by
  refine ⟨isTimely_started h, le_refl 0, fun _ => ?_⟩
  cases b with
  | wait seconds elapsed => exact Measure.value_zero
  | branch | randomBranch | finish | setVariable | log | fail => rfl

/-! ### Updating an instance -/

theorem needed_of_not_wait (h : ∀ seconds elapsed, b ≠ .wait seconds elapsed) :
    b.needed = Clock.zero ∧ b.duration = 0 ∧ b.elapsed = 0 := by
  cases b with
  | wait seconds elapsed => exact absurd rfl (h seconds elapsed)
  | branch | randomBranch | finish | setVariable | log | fail => exact ⟨rfl, rfl, rfl⟩

theorem value_needed {decision : Decision} (h : b.IsTimely) (hexact : b.IsExact c decision) :
    IsTime b.needed ∧ Measure.value b.needed = b.duration - b.elapsed := by
  by_cases hwait : ∃ seconds elapsed, b = .wait seconds elapsed
  · obtain ⟨seconds, elapsed, rfl⟩ := hwait
    obtain ⟨htime, hvalue⟩ := hexact.needed rfl h.1 h.2.1 h.2.2
    exact ⟨Measure.isTime_floor htime.1, (Measure.value_floor htime).trans hvalue⟩
  · push Not at hwait
    obtain ⟨hneeded, hduration, helapsed⟩ := needed_of_not_wait hwait
    rw [hneeded, hduration, helapsed, sub_self]
    exact ⟨Measure.isTime_zero, Measure.value_zero⟩

/-- What stays is still there when the frame is over. -/
theorem lingers_of_stay {complaint? : Option String} (h : b.HasPassed t) (hc : IsTime c.remaining)
    (hstay : (b.update bridge d stage c).result.2.decision = .stay complaint?)
    (hexact : b.IsExact c (.stay complaint?)) :
    (b.update bridge d stage c).result.1.Lingers (t + Measure.value c.remaining) := by
  have hleft := Measure.value_nonneg hc
  have hnonneg : 0 ≤ t + Measure.value c.remaining := add_nonneg h.nonneg hleft
  rcases update_of_stay hstay with ⟨hretrying, hsame⟩ | ⟨seconds, elapsed, rfl, hlonger, hheir⟩
  · rw [hsame]
    exact ⟨⟨h.timely, hnonneg, fun hnot => absurd hretrying hnot⟩,
      fun hnot => absurd hretrying hnot⟩
  · obtain ⟨hneeded, hvalue⟩ := value_needed h.timely hexact
    obtain ⟨hsum, hsumValue⟩ := hexact.waited rfl rfl h.timely.2.1 hc
    have helapsed : Measure.value elapsed = t := h.elapsed_eq (by simp [IsRetrying])
    rw [Measure.le_iff hneeded hc, not_le, hvalue] at hlonger
    simp only [duration, Builtin.elapsed] at hlonger
    rw [hheir]
    refine ⟨⟨⟨h.timely.1, hsum, ?_⟩, hnonneg, fun _ => ?_⟩, fun _ => ?_⟩
    · linarith
    · rw [Builtin.elapsed, hsumValue, helapsed]
    · rw [duration]
      linarith

/-- What stays no longer has waited long enough. -/
theorem needed_le {decision : Decision} (h : b.IsTimely) (hc : IsTime c.remaining)
    (hdecision : (b.update bridge d stage c).result.2.decision = decision)
    (hleaves : ∀ complaint?, decision ≠ .stay complaint?) (hexact : b.IsExact c decision) :
    b.duration ≤ b.elapsed + Measure.value c.remaining := by
  by_cases hwait : ∃ seconds elapsed, b = .wait seconds elapsed
  · obtain ⟨hneeded, hvalue⟩ := value_needed h hexact
    obtain ⟨seconds, elapsed, rfl⟩ := hwait
    have hle : Clock.le (needed (.wait seconds elapsed)) c.remaining = true := by
      by_contra hlonger
      simp only [update, updateWait] at hdecision
      rw [needed] at hlonger
      rw [if_neg hlonger] at hdecision
      exact hleaves _ hdecision.symm
    rw [Measure.le_iff hneeded hc, hvalue] at hle
    linarith
  · push Not at hwait
    obtain ⟨-, hduration, helapsed⟩ := needed_of_not_wait hwait
    rw [hduration, helapsed, zero_add]
    exact Measure.value_nonneg hc

/-- What is handed on is what the instance has not spent. -/
theorem value_remaining_of_go {next : ActionId} {yields : Bool} (h : b.IsTimely)
    (hc : IsTime c.remaining)
    (hgo : (b.update bridge d stage c).result.2.decision = .go next yields)
    (hexact : b.IsExact c (.go next yields)) :
    IsTime (b.update bridge d stage c).result.2.remaining ∧
      b.duration + Measure.value (b.update bridge d stage c).result.2.remaining
        = b.elapsed + Measure.value c.remaining := by
  obtain ⟨hneeded, hvalue⟩ := value_needed h hexact
  have henough := needed_le h hc hgo nofun hexact
  have hfloor : Measure.value (Clock.floor b.needed) = b.duration - b.elapsed :=
    (Measure.value_floor hneeded).trans hvalue
  obtain ⟨htime, hdifference⟩ :=
    hexact.left rfl hc (Measure.isTime_floor hneeded.1) (by linarith)
  rw [remaining_of_go hgo, Measure.value_floor htime, hdifference, hfloor]
  exact ⟨Measure.isTime_floor htime.1, by ring⟩

end ActionGraph.Builtin
