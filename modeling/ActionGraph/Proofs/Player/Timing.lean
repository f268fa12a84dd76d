import ActionGraph.Proofs.Action.Timing
import ActionGraph.Proofs.Player.Schedule

/-!
# How long the course of a flow takes

The course of a flow takes time where it leaves a wait, and nowhere else. A player rests in a scene
if less time has passed there than the scene takes. Since there is one way to go on, it can rest in
one scene only after the same time.
-/

namespace ActionGraph

open Clock (IsTime Measure)

variable {τ : Type} [Clock τ] {bridge : Bridge}

/-- Whether no link of the asset waits for the next frame. -/
def Asset.NeverYields (a : Asset) : Prop := ∀ d ∈ a.actions, ∀ link ∈ d.links, link.yields = false

namespace Spot

/-- Whether no link of the flow waits for the next frame. -/
def NeverYields : Spot τ → Prop
  | .due asset _ _ | .live asset _ _ => asset.NeverYields
  | .ended _ => True

end Spot

theorem Scene.Step.neverYields {s next : Scene τ} {seen : List Observation}
    (h : Step bridge s seen next) (hs : s.spot.NeverYields) : next.spot.NeverYields := by
  cases h with
  | make | leave => exact hs
  | miss | refuse | close => trivial

variable [Measure τ]

/-! ### The time that a course takes -/

namespace Spot

def duration : Spot τ → ℚ
  | .live _ _ fresh => fresh.duration
  | .due _ _ _ | .ended _ => 0

def IsTimely : Spot τ → Prop
  | .live _ _ fresh => fresh.IsTimely
  | .due _ _ _ | .ended _ => True

theorem duration_nonneg {spot : Spot τ} (h : spot.IsTimely) : 0 ≤ spot.duration := by
  cases spot with
  | live asset d fresh => exact Builtin.duration_nonneg h
  | due | ended => exact le_refl 0

end Spot

namespace Scene

/-- A path and the time that it takes. -/
inductive Lasts (bridge : Bridge) : Scene τ → ℚ → Scene τ → Prop
  | nil (s : Scene τ) : Lasts bridge s 0 s
  | cons {s next last : Scene τ} {seen : List Observation} {t : ℚ}
      (hstep : Step bridge s seen next) (hrest : Lasts bridge next t last) :
    Lasts bridge s (s.spot.duration + t) last

variable {s next last other : Scene τ} {seen : List Observation} {t t' : ℚ}

theorem Step.lasts (h : Step bridge s seen next) : Lasts bridge s s.spot.duration next := by
  rw [← add_zero s.spot.duration]
  exact .cons h (.nil next)

theorem Lasts.append (h : Lasts bridge s t last) (hmore : Lasts bridge last t' other) :
    Lasts bridge s (t + t') other := by
  induction h with
  | nil => rwa [zero_add]
  | cons hstep _ ih =>
    rw [add_assoc]
    exact .cons hstep (ih hmore)

theorem Step.isTimely (h : Step bridge s seen next) : next.spot.IsTimely := by
  cases h with
  | make _ hmake => exact Builtin.isTimely_started (Builtin.isTimely_of_make hmake)
  | miss | refuse | leave | close => trivial

theorem Lasts.neverYields (h : Lasts bridge s t last) (hs : s.spot.NeverYields) :
    last.spot.NeverYields := by
  induction h with
  | nil => exact hs
  | cons hstep _ ih => exact ih (hstep.neverYields hs)

theorem Lasts.nonneg (h : Lasts bridge s t last) (hs : s.spot.IsTimely) : 0 ≤ t := by
  induction h with
  | nil => exact le_refl 0
  | cons hstep _ ih => exact add_nonneg (Spot.duration_nonneg hs) (ih hstep.isTimely)

/-- Of two paths from one scene one goes on where the other ends, and takes the time of both. -/
theorem Lasts.comparable (h : Lasts bridge s t last) (h' : Lasts bridge s t' other) :
    (∃ more, t' = t + more ∧ Lasts bridge last more other) ∨
      ∃ more, t = t' + more ∧ Lasts bridge other more last := by
  induction h generalizing t' with
  | nil s => exact .inl ⟨t', (zero_add t').symm, h'⟩
  | cons hstep hrest ih =>
    cases h' with
    | nil => exact .inr ⟨_, (zero_add _).symm, .cons hstep hrest⟩
    | cons hstep' hrest' =>
      obtain ⟨rfl, rfl⟩ := hstep.unique hstep'
      rcases ih hrest' with ⟨more, rfl, hmore⟩ | ⟨more, rfl, hmore⟩
      · exact .inl ⟨more, (add_assoc ..).symm, hmore⟩
      · exact .inr ⟨more, (add_assoc ..).symm, hmore⟩

end Scene

/-! ### Where a player rests -/

/-- Whether a player is at a spot, where this much time has passed. -/
def Spot.IsShown (p : Player (Builtin τ)) (t : ℚ) : Spot τ → Prop
  | .due _ _ _ => False
  | .live asset d fresh => asset.find? d.id = some d ∧
    ∃ b, p.phase = .active asset d.id b ∧ b.started = fresh ∧ b.HasPassed t
  | .ended report => p.phase = .idle ∧ p.report? = some report ∧ 0 ≤ t

namespace Scene

structure IsShown (s : Scene τ) (p : Player (Builtin τ)) (scopes : Scopes) (t : ℚ) : Prop where
  spot_shown : s.spot.IsShown p t
  stage_eq : p.stage scopes = s.stage

/-- Whether a player stays in a scene, where this much time has passed. -/
structure Rests (s : Scene τ) (p : Player (Builtin τ)) (scopes : Scopes) (t : ℚ) : Prop
    extends s.IsShown p scopes t where
  lingers {asset : Asset} {id : ActionId} {b : Builtin τ} : p.phase = .active asset id b →
    b.Lingers t

variable {s last other : Scene τ} {seen : List Observation} {p q : Player (Builtin τ)}
  {scopes scopes' : Scopes} {t t' e e' : ℚ}

theorem IsShown.fits (h : s.IsShown p scopes t) : s.Fits p scopes := by
  obtain ⟨spot, stage⟩ := s
  obtain ⟨hshown, hstage⟩ := h
  refine ⟨?_, hstage⟩
  cases spot with
  | due asset next last? => exact hshown.elim
  | live asset d fresh =>
    obtain ⟨hknown, b, hphase, hfresh, -⟩ := hshown
    exact ⟨hknown, b, hphase, hfresh⟩
  | ended report => exact ⟨hshown.1, hshown.2.1⟩

theorem IsShown.nonneg (h : s.IsShown p scopes t) : 0 ≤ t := by
  obtain ⟨spot, stage⟩ := s
  obtain ⟨hshown, -⟩ := h
  cases spot with
  | due asset next last? => exact hshown.elim
  | live asset d fresh =>
    obtain ⟨-, b, -, -, hpassed⟩ := hshown
    exact hpassed.nonneg
  | ended report => exact hshown.2.2

theorem IsShown.ne_poised (h : s.IsShown p scopes t) {asset : Asset} {next : ActionId}
    {last? : Option ActionId} : p.phase ≠ .poised asset next last? := by
  obtain ⟨spot, stage⟩ := s
  have hspot := h.spot_shown
  cases spot with
  | due asset next last? => exact hspot.elim
  | live asset d fresh =>
    obtain ⟨-, b, hphase, -⟩ := hspot
    simp [hphase]
  | ended report => simp [hspot.1]

theorem IsShown.rests (h : s.IsShown p scopes t) (hrest : p.current? = none) (hle : t ≤ t') :
    s.Rests p scopes t' := by
  have hidle {asset : Asset} {id : ActionId} {b : Builtin τ} : p.phase ≠ .active asset id b := by
    intro hphase
    simp [Player.current?, hphase, Phase.current?] at hrest
  refine ⟨⟨?_, h.stage_eq⟩, fun hphase => absurd hphase hidle⟩
  obtain ⟨spot, stage⟩ := s
  have hspot := h.spot_shown
  cases spot with
  | due asset next last? => exact hspot.elim
  | live asset d fresh =>
    obtain ⟨-, b, hphase, -⟩ := hspot
    exact absurd hphase hidle
  | ended report => exact ⟨hspot.1, hspot.2.1, le_trans hspot.2.2 hle⟩

/-- The flow goes on from where a player rests only after more time than has passed. -/
theorem Rests.lt_duration (h : s.Rests p scopes t) (hstep : Step bridge s seen last) :
    t < s.spot.duration := by
  have hlive {asset : Asset} {d : Descriptor} {fresh : Builtin τ} {stage : Stage}
      {played : Performance τ Decision}
      (h : Rests ⟨.live asset d fresh, stage⟩ p scopes t)
      (hsettle : fresh.settle bridge d stage = some played) : t < fresh.duration := by
    obtain ⟨-, b, hphase, rfl, -⟩ := h.spot_shown
    rw [Builtin.duration_started]
    refine (h.lingers hphase).lt_duration fun hretrying => ?_
    rw [Builtin.settle_started, hretrying.settle_eq] at hsettle
    exact nomatch hsettle
  cases hstep with
  | miss | refuse | make => exact h.spot_shown.elim
  | leave hsettle hgo => exact hlive h hsettle
  | close hsettle hcloses => exact hlive h hsettle

theorem Rests.eq_of_lasts (h : s.Rests p scopes e) (hlasts : Lasts bridge s t last)
    (hle : t ≤ e) : last = s ∧ t = 0 := by
  cases hlasts with
  | nil => exact ⟨rfl, rfl⟩
  | cons hstep hrest =>
    have hlonger := h.lt_duration hstep
    have hnonneg := hrest.nonneg hstep.isTimely
    linarith

/-- **After the same time a flow rests in one scene only.** -/
theorem Rests.unique (h : last.Rests p scopes e) (h' : other.Rests q scopes' e')
    (hlasts : Lasts bridge s t last) (hlasts' : Lasts bridge s t' other)
    (htime : t + e = t' + e') : last = other ∧ e = e' := by
  have hnonneg := h.nonneg
  have hnonneg' := h'.nonneg
  rcases hlasts.comparable hlasts' with ⟨more, rfl, hmore⟩ | ⟨more, rfl, hmore⟩
  · obtain ⟨rfl, rfl⟩ := h.eq_of_lasts hmore (by linarith)
    exact ⟨rfl, by linarith⟩
  · obtain ⟨rfl, rfl⟩ := h'.eq_of_lasts hmore (by linarith)
    exact ⟨rfl, by linarith⟩

end Scene

end ActionGraph
