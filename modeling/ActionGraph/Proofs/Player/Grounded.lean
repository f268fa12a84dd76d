import ActionGraph.Proofs.Action.Making
import ActionGraph.Proofs.Asset.Graph
import ActionGraph.Proofs.Player.Schedule

/-!
# Players of built assets

The checks that an asset has passed when it was built hold up in every run. Where a player of
built-in actions has an id, whether it is pending or current, the asset that it plays has the
action. The id comes from the start, which looks it up, or from a link of an action, and links are
closed. So it is never said that an action is unknown.
-/

namespace ActionGraph

variable {τ : Type} [Clock τ]

namespace Player

/-- The asset of a player is closed, it knows the id that the player holds, and a live instance is
one that its maker has made. -/
def IsGrounded (p : Player (Builtin τ)) : Prop :=
  match p.phase with
  | .idle => True
  | .poised asset next _ => asset.IsClosed ∧ (asset.find? next).isSome
  | .active asset id live => asset.IsClosed ∧ ∃ d made, asset.find? id = some d ∧
      (Builtin.repertoire (τ := τ)).make d.type d = .ok made ∧ made.started = live.started
  | .finished => False

theorem IsGrounded.isSound {p : Player (Builtin τ)} (h : p.IsGrounded) : p.IsSound := by
  cases hphase : p.phase with
  | idle | poised => simp only [IsSound, hphase]
  | active asset id live =>
    simp only [IsGrounded, hphase] at h
    obtain ⟨-, d, made, hd, -⟩ := h
    simp only [IsSound, hphase, hd, Option.isSome_some]
  | finished => simp only [IsGrounded, hphase] at h

/-- An id that a grounded player holds is found in its asset. -/
theorem IsGrounded.exists_asset {p : Player (Builtin τ)} (h : p.IsGrounded) {id : ActionId}
    (hid : p.pending? = some id ∨ p.current? = some id) :
    ∃ asset, p.asset? = some asset ∧ (asset.find? id).isSome := by
  cases hphase : p.phase with
  | idle | finished =>
    simp [pending?, current?, hphase, Phase.pending?, Phase.current?] at hid
  | poised asset next last? =>
    simp only [IsGrounded, hphase] at h
    obtain rfl : next = id := by
      simpa [pending?, current?, hphase, Phase.pending?, Phase.current?] using hid
    exact ⟨asset, congrArg Phase.asset? hphase, h.2⟩
  | active asset current live =>
    simp only [IsGrounded, hphase] at h
    obtain rfl : current = id := by
      simpa [pending?, current?, hphase, Phase.pending?, Phase.current?] using hid
    obtain ⟨-, d, made, hd, -⟩ := h
    exact ⟨asset, congrArg Phase.asset? hphase, by simp [hd]⟩

end Player

/-! ### Turns of grounded players -/

namespace Turn

variable {t : Turn (Builtin τ) τ}

theorem isClosed_asset (h : t.player.IsGrounded) : t.asset.IsClosed := by
  simp only [Player.IsGrounded, t.phase_eq] at h
  exact h.1

theorem exists_made (h : t.player.IsGrounded) : ∃ made,
    (Builtin.repertoire (τ := τ)).make t.descriptor.type t.descriptor = .ok made ∧
      made.started = t.live.started := by
  simp only [Player.IsGrounded, t.phase_eq] at h
  obtain ⟨-, d, made, hd, hmake, hlive⟩ := h
  obtain rfl : t.descriptor = d := Option.some.inj (t.find?_eq.symm.trans hd)
  exact ⟨made, hmake, hlive⟩

theorem isGrounded_seated (h : t.player.IsGrounded)
    (hrepertoire : t.repertoire = Builtin.repertoire) : t.seated.IsGrounded := by
  obtain ⟨made, hmake, hlive⟩ := t.exists_made h
  have hheir : made.started = t.heir.started := hlive.trans (t.heir_started hrepertoire).symm
  exact ⟨t.isClosed_asset h, t.descriptor, made, t.find?_eq, hmake, hheir⟩

theorem isGrounded_departed (h : t.player.IsGrounded)
    (hrepertoire : t.repertoire = Builtin.repertoire) {next : ActionId} {yields : Bool}
    (hdecision : t.decision = .go next yields) : (t.departed next).IsGrounded := by
  rcases t.settles hrepertoire with ⟨complaint?, hstays, -⟩ | hsettle
  · simp [hdecision] at hstays
  · obtain ⟨link, hlink, rfl, -⟩ := Builtin.exists_link_of_settle hsettle hdecision
    have hclosed := t.isClosed_asset h
    exact ⟨hclosed, hclosed.isSome_find? t.find?_eq hlink⟩

end Turn

/-! ### Updates of grounded players -/

namespace Player

section

variable {p : Player (Builtin τ)} {asset : Asset} {next : ActionId}

/-- An action that a closed asset knows is refused, or it is made and starts. -/
theorem begin_of_known (hknown : (asset.find? next).isSome) (bridge : Bridge)
    (p : Player (Builtin τ)) (scopes : Scopes) :
    (∃ d e, d.id = next ∧ asset.find? d.id = some d ∧
      (Builtin.repertoire (τ := τ)).make d.type d = .error e ∧
      p.begin Builtin.repertoire bridge scopes asset next
        = (p.abort scopes (.unmade d.id e)).after [.attempted d.id]) ∨
    ∃ d made, d.id = next ∧ asset.find? d.id = some d ∧
      (Builtin.repertoire (τ := τ)).make d.type d = .ok made ∧
      p.begin Builtin.repertoire bridge scopes asset next
        = embark Builtin.repertoire bridge p scopes asset d made := by
  obtain ⟨d, hd⟩ := Option.isSome_iff_exists.1 hknown
  obtain rfl : d.id = next := Asset.id_of_find? hd
  cases hmake : (Builtin.repertoire (τ := τ)).make d.type d with
  | error e => exact .inl ⟨d, e, rfl, hd, hmake, begin_of_unmade _ bridge p scopes hd hmake⟩
  | ok made => exact .inr ⟨d, made, rfl, hd, hmake, begin_of_made _ bridge p scopes hd hmake⟩

theorem isGrounded_begin (hclosed : asset.IsClosed) (hknown : (asset.find? next).isSome)
    (bridge : Bridge) (p : Player (Builtin τ)) (scopes : Scopes) :
    (p.begin Builtin.repertoire bridge scopes asset next).player.IsGrounded := by
  rcases begin_of_known hknown bridge p scopes with
    ⟨d, e, -, -, -, hbegin⟩ | ⟨d, made, -, hd, hmake, hbegin⟩
  · rw [hbegin]
    trivial
  · rw [hbegin]
    exact ⟨hclosed, d, made, hd, hmake, (Builtin.started_started made).symm⟩

theorem unknown_notMem_begin (hknown : (asset.find? next).isSome) (bridge : Bridge)
    (p : Player (Builtin τ)) (scopes : Scopes) (id : ActionId) (flow : String) :
    .said (.unknown id flow) ∉ (p.begin Builtin.repertoire bridge scopes asset next).events := by
  rcases begin_of_known hknown bridge p scopes with
    ⟨d, e, -, -, -, hbegin⟩ | ⟨d, made, -, -, -, hbegin⟩
  · simp [hbegin, abort_eq, Outcome.after, farewell]
  · simp [hbegin, embark]

end

end Player

section

variable {r : Repertoire (Builtin τ) τ} {bridge : Bridge} {more : Nat} {remaining : τ}
  {p : Player (Builtin τ)} {scopes : Scopes} {o : Outcome (Builtin τ) τ}

theorem Turn.arrival_eq {t : Turn (Builtin τ) τ} (hrepertoire : t.repertoire = Builtin.repertoire)
    (next : ActionId) : t.arrival next = (t.departed next).begin Builtin.repertoire t.bridge
      t.played.stage.scopes t.asset next := by
  rw [Turn.arrival, hrepertoire]

theorem Turn.isGrounded_arrival {t : Turn (Builtin τ) τ} (h : t.player.IsGrounded)
    (hrepertoire : t.repertoire = Builtin.repertoire) {next : ActionId} {yields : Bool}
    (hdecision : t.decision = .go next yields) : (t.arrival next).player.IsGrounded := by
  obtain ⟨hclosed, hknown⟩ : t.asset.IsClosed ∧ (t.asset.find? next).isSome :=
    t.isGrounded_departed h hrepertoire hdecision
  rw [t.arrival_eq hrepertoire]
  exact Player.isGrounded_begin hclosed hknown ..

theorem Course.isGrounded (h : Course r bridge more remaining p scopes o)
    (hrepertoire : r = Builtin.repertoire) (hp : p.IsGrounded) : o.player.IsGrounded := by
  induction h with
  | rest => exact hp
  | stay t => exact t.isGrounded_seated hp hrepertoire
  | close => trivial
  | yield t hdecision | exhaust t hdecision => exact t.isGrounded_departed hp hrepertoire hdecision
  | go t hdecision _ ih => exact ih hrepertoire (t.isGrounded_arrival hp hrepertoire hdecision)

theorem Turn.unknown_notMem_events (t : Turn (Builtin τ) τ) (id : ActionId) (flow : String) :
    .said (.unknown id flow) ∉ t.events := by
  rcases hdecision : t.decision with (_ | message) | _ | message | next <;>
    simp [Turn.events, Player.complaints, hdecision]

theorem Course.unknown_notMem (h : Course r bridge more remaining p scopes o)
    (hrepertoire : r = Builtin.repertoire) (hp : p.IsGrounded) (id : ActionId) (flow : String) :
    .said (.unknown id flow) ∉ o.events := by
  induction h with
  | rest => simp
  | stay t => exact t.unknown_notMem_events id flow
  | close t => simp [t.unknown_notMem_events, Player.farewell]
  | yield t | exhaust t => simp [Turn.departure, t.unknown_notMem_events]
  | @go more t next o hdecision _ ih =>
    have hrest := ih hrepertoire (t.isGrounded_arrival hp hrepertoire hdecision)
    have hknown : (t.asset.find? next).isSome :=
      (t.isGrounded_departed hp hrepertoire hdecision).2
    have harrival : .said (.unknown id flow) ∉ (t.arrival next).events := by
      rw [t.arrival_eq hrepertoire]
      exact Player.unknown_notMem_begin hknown _ _ _ id flow
    simp [Outcome.after, Turn.departure, t.unknown_notMem_events, harrival, hrest]

end

/-! ### Calls of grounded players -/

/-- Whether a call keeps to built assets and built-in actions. -/
def Call.IsPlain : Call (Builtin τ) τ → Prop
  | .start asset _ => asset.IsBuilt
  | .stop => True
  | .update f => f.repertoire = Builtin.repertoire

namespace Player

variable {p : Player (Builtin τ)}

theorem IsGrounded.cases (h : p.IsGrounded) :
    p.phase = .idle ∨
    (∃ asset next last?, p.phase = .poised asset next last? ∧ asset.IsClosed ∧
      (asset.find? next).isSome) ∨
    ∃ asset id live, p.phase = .active asset id live := by
  cases hphase : p.phase with
  | idle => exact .inl rfl
  | poised asset next last? =>
    simp only [IsGrounded, hphase] at h
    exact .inr (.inl ⟨asset, next, last?, rfl, h⟩)
  | active asset id live => exact .inr (.inr ⟨asset, id, live, rfl⟩)
  | finished => simp only [IsGrounded, hphase] at h

theorem isSome_find?_of_resolveStart {asset : Asset} {options : StartOptions} {id : ActionId}
    (h : resolveStart asset options = .ok id) : (asset.find? id).isSome := by
  rw [resolveStart] at h
  split at h
  · simp at h
  · split at h
    · simp at h
    · next start _ =>
      split at h
      · simp at h
      · next d hd =>
        obtain rfl : start = id := Except.ok.inj h
        simp [hd]

theorem isGrounded_call (hp : p.IsGrounded) {c : Call (Builtin τ) τ} (hplain : c.IsPlain) :
    (p.call c).1.IsGrounded := by
  cases c with
  | start asset options =>
    cases hstart : resolveStart asset options with
    | error e => rwa [call_start_of_error hstart]
    | ok id =>
      rw [call_start_of_ok hstart]
      exact ⟨Asset.IsBuilt.isClosed hplain, isSome_find?_of_resolveStart hstart⟩
  | stop =>
    rw [call]
    rcases hp.cases with hphase | ⟨asset, next, last?, hphase, -⟩ | ⟨asset, id, live, hphase⟩
    · rwa [stop_of_idle hphase]
    · rw [stop_of_poised hphase]
      trivial
    · rw [stop_of_active hphase]
      trivial
  | update f =>
    have hrepertoire : f.repertoire = Builtin.repertoire := hplain
    rw [call]
    rcases hp.cases with hphase | ⟨asset, next, last?, hphase, hclosed, hknown⟩ |
      ⟨asset, id, live, hphase⟩
    · rwa [advance_of_idle hphase]
    · obtain ⟨o, hcourse, heq⟩ := advance_of_poised hphase f
      rw [heq]
      rw [embarked, hrepertoire] at hcourse
      exact hcourse.isGrounded rfl (isGrounded_begin hclosed hknown ..)
    · obtain ⟨o, hcourse, heq⟩ := advance_of_active hp.isSound hphase f
      rw [heq]
      exact hcourse.isGrounded hrepertoire hp

theorem isGrounded_after (hp : p.IsGrounded) {calls : List (Call (Builtin τ) τ)}
    (hplain : ∀ c ∈ calls, c.IsPlain) : (p.after calls).IsGrounded := by
  induction calls generalizing p with
  | nil => exact hp
  | cons c rest ih =>
    obtain ⟨hc, hrest⟩ := List.forall_mem_cons.1 hplain
    exact ih (isGrounded_call hp hc) hrest

theorem unknown_notMem_stop (hp : p.IsGrounded) (id : ActionId) (flow : String) :
    (.said (.unknown id flow) : Event τ) ∉ p.stop.2 := by
  rcases hp.cases with hphase | ⟨asset, next, last?, hphase, -⟩ | ⟨asset, id', live, hphase⟩
  · simp [stop_of_idle hphase]
  · simp [stop_of_poised hphase, farewell]
  · simp [stop_of_active hphase, farewell]

theorem unknown_notMem_call (hp : p.IsGrounded) {c : Call (Builtin τ) τ} (hplain : c.IsPlain)
    (id : ActionId) (flow : String) : .said (.unknown id flow) ∉ (p.call c).2 := by
  cases c with
  | start asset options =>
    cases hstart : resolveStart asset options with
    | error e => simp [call_start_of_error hstart]
    | ok start => simp [call_start_of_ok hstart, greeting, unknown_notMem_stop hp]
  | stop => exact unknown_notMem_stop hp id flow
  | update f =>
    have hrepertoire : f.repertoire = Builtin.repertoire := hplain
    have hnotices : .said (.unknown id flow) ∉ deltaNotices f.delta :=
      notMem_deltaNotices (by simp) f.delta
    rw [call]
    rcases hp.cases with hphase | ⟨asset, next, last?, hphase, hclosed, hknown⟩ |
      ⟨asset, id', live, hphase⟩
    · simp [advance_of_idle hphase]
    · obtain ⟨o, hcourse, heq⟩ := advance_of_poised hphase f
      rw [embarked, hrepertoire] at hcourse heq
      have hbegun := isGrounded_begin hclosed hknown f.session.bridge p f.session.scopes
      have hrest := hcourse.unknown_notMem rfl hbegun id flow
      simp [heq, Outcome.after, hnotices, unknown_notMem_begin hknown, hrest]
    · obtain ⟨o, hcourse, heq⟩ := advance_of_active hp.isSound hphase f
      have hrest := hcourse.unknown_notMem hrepertoire hp id flow
      simp [heq, Outcome.after, hnotices, hrest]

theorem isGrounded_new (config : PlayerConfig) (seed : UInt64) :
    (new config seed : Player (Builtin τ)).IsGrounded := trivial

end Player

end ActionGraph
