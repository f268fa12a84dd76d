import ActionGraph.Proofs.Player.Deck

/-!
# Where a player stands between calls

Between two calls a player is in one of three situations. It is at rest; or it stands before an
action, which the next update makes; or it has a live instance, whose id its asset knows. The
situations are told by fields that are written one by one, so it has to be shown of every way out of
a call that it leaves no field behind: `IsSettled` is what each call finds and leaves. Inside an
update the fields are out of step, and `begin` is what brings them back into step, whatever the
state says (`begin_settles`).

That an action has vanished from its flow is never said, as the loop of an update only goes round
with a live action that the asset knows.
-/

namespace ActionGraph

variable {ι τ : Type}

/-- One of three statements holds, and the other two do not. -/
def ExactlyOne (a b c : Prop) : Prop := a ∧ ¬b ∧ ¬c ∨ ¬a ∧ b ∧ ¬c ∨ ¬a ∧ ¬b ∧ c

/-- Nowhere among the events is it said that a live action is not in its flow. -/
def NeverVanishes (events : List (Event τ)) : Prop :=
  ∀ id flow, .said (.vanished id flow) ∉ events

theorem NeverVanishes.append {events more : List (Event τ)} (h : NeverVanishes events)
    (hmore : NeverVanishes more) : NeverVanishes (events ++ more) := fun id flow hmem =>
  (List.mem_append.1 hmem).elim (h id flow) (hmore id flow)

namespace Deck

/-! ### Situations -/

section

variable (d : Deck ι)

def IsAtRest : Prop :=
  d.state = .idle ∧ d.asset? = none ∧ d.current? = none ∧ d.pending? = none

/-- There is a flow, and an action that the next update makes. -/
def IsWaiting : Prop :=
  (d.state = .pendingStart ∨ d.state = .yielded) ∧ d.asset?.isSome ∧ d.pending?.isSome ∧
    d.current? = none

/-- There is a flow, and a live instance of an action that is in it. -/
def IsLive : Prop :=
  d.state = .active ∧ d.pending? = none ∧
    ∃ asset live, d.asset? = some asset ∧ d.current? = some live ∧ (asset.find? live.id).isSome

def IsSettled : Prop := d.IsAtRest ∨ d.IsWaiting ∨ d.IsLive

end

variable {d : Deck ι}

theorem IsSettled.exactlyOne (h : d.IsSettled) :
    ExactlyOne d.IsAtRest d.IsWaiting d.IsLive := by
  -- The three have different states.
  have hwaiting (h : d.IsAtRest) : ¬d.IsWaiting := fun hwaiting => by
    simp [IsWaiting, h.1] at hwaiting
  have hlive (h : d.IsAtRest) : ¬d.IsLive := fun hlive => by simp [IsLive, h.1] at hlive
  have hboth (h : d.IsWaiting) : ¬d.IsLive := fun hlive => by simp [IsWaiting, hlive.1] at h
  rcases h with h | h | h
  · exact .inl ⟨h, hwaiting h, hlive h⟩
  · exact .inr (.inl ⟨fun hrest => hwaiting hrest h, h, hboth h⟩)
  · exact .inr (.inr ⟨fun hrest => hlive hrest h, fun hwaits => hboth hwaits h, h⟩)

theorem IsSettled.isPlaying_iff (h : d.IsSettled) :
    (d.isPlaying = true ↔ d.asset?.isSome = true) ∧ (d.isPlaying = true ↔ d.state ≠ .idle) := by
  rcases h with ⟨hstate, hasset, hcurrent, hpending⟩ | ⟨hstate, hasset, hpending, -⟩ |
    ⟨hstate, -, asset, live, hasset, hcurrent, -⟩
  · simp [isPlaying, hstate, hasset, hcurrent, hpending]
  · rcases hstate with hstate | hstate <;> simp [isPlaying, hstate, hasset, hpending]
  · simp [isPlaying, hstate, hasset, hcurrent]

theorem IsSettled.state_ne_finished (h : d.IsSettled) : d.state ≠ .finished := by
  rcases h with ⟨hstate, -⟩ | ⟨hstate | hstate, -⟩ | ⟨hstate, -⟩ <;> simp [hstate]

/-! ### Ends and starts -/

/-- Whatever the fields held, nothing of the run is left in them. -/
theorem isAtRest_finish (d : Deck ι) (withError : Bool) :
    (d.finish (τ := τ) withError).1.IsAtRest := ⟨rfl, rfl, rfl, rfl⟩

theorem neverVanishes_finish (d : Deck ι) (withError : Bool) :
    NeverVanishes (d.finish (τ := τ) withError).2 := by
  simp [NeverVanishes, finish]

theorem isAtRest_stop (h : d.IsSettled) : (d.stop (τ := τ)).1.IsAtRest := by
  rcases h with h | ⟨-, hasset, -, hcurrent⟩ | ⟨-, -, asset, live, hasset, hcurrent, -⟩
  · rwa [stop_of_rest h.2.1]
  · obtain ⟨asset, hasset⟩ := Option.isSome_iff_exists.1 hasset
    rw [stop_of_due hasset hcurrent]
    exact d.isAtRest_finish false
  · rw [stop_of_live hasset hcurrent]
    exact d.isAtRest_finish (τ := τ) false

theorem neverVanishes_stop (d : Deck ι) : NeverVanishes (d.stop (τ := τ)).2 := by
  rw [stop]
  split
  · simp [NeverVanishes]
  · split <;> simp [NeverVanishes, finish]

/-- Setting a run up writes every field but the one for the live action. -/
theorem isWaiting_poise (hcurrent : d.current? = none) (asset : Asset) (options : StartOptions)
    (id : ActionId) : (d.poise asset options id).IsWaiting := by
  refine ⟨.inl rfl, rfl, rfl, ?_⟩
  rw [poise]
  cases options.seed? <;> exact hcurrent

/-! ### Updates -/

/-- What a part of an update leaves when it is over. -/
structure Outcome.Settles (o : Outcome ι τ) : Prop where
  isSettled : o.deck.IsSettled
  neverVanishes : NeverVanishes o.events

theorem Outcome.Settles.after {o : Outcome ι τ} (h : o.Settles) {events : List (Event τ)}
    (hevents : NeverVanishes events) : (o.after events).Settles :=
  ⟨h.isSettled, hevents.append h.neverVanishes⟩

/-- The live instance is one that this asset knows, and nothing else is due. -/
structure IsUnderWay (d : Deck ι) (asset : Asset) : Prop where
  state_eq : d.state = .active
  asset?_eq : d.asset? = some asset
  pending?_eq : d.pending? = none
  exists_live : ∃ live, d.current? = some live ∧ (asset.find? live.id).isSome

theorem IsUnderWay.isSettled {asset : Asset} (h : d.IsUnderWay asset) : d.IsSettled := by
  obtain ⟨live, hcurrent, hknown⟩ := h.exists_live
  exact .inr (.inr ⟨h.state_eq, h.pending?_eq, asset, live, h.asset?_eq, hcurrent, hknown⟩)

theorem IsUnderWay.isSettled_suspend {asset : Asset} (h : d.IsUnderWay asset) (next : ActionId) :
    (d.leave.suspend next).IsSettled :=
  .inr (.inl ⟨.inr rfl, by simp [suspend, leave, h.asset?_eq], rfl, rfl⟩)

/-! ### Making an instance -/

section

variable (r : Repertoire ι τ) (bridge : Bridge) (scopes : Scopes) {asset : Asset} (id : ActionId)

theorem begin_settles (hasset : d.asset? = some asset) (hpending : d.pending? = none) :
    ((begin r bridge d scopes asset id).1 = true ∧
        (begin r bridge d scopes asset id).2.deck.IsUnderWay asset ∨
      (begin r bridge d scopes asset id).1 = false ∧
        (begin r bridge d scopes asset id).2.deck.IsAtRest) ∧
      NeverVanishes (begin r bridge d scopes asset id).2.events := by
  rcases begin_cases r bridge d scopes asset id with
    ⟨complaint, hrefusal, hbegin⟩ | ⟨descriptor, made, hfind, hbegin⟩
  · rw [hbegin]
    refine ⟨.inr ⟨rfl, isAtRest_finish (τ := τ) _ true⟩, fun id' flow => ?_⟩
    have hother : Complaint.vanished id' flow ≠ complaint := by
      rintro rfl
      exact hrefusal
    simp [refuse, finish, hother]
  · rw [hbegin]
    have hknown : (asset.find? descriptor.id).isSome := by
      rw [Asset.id_of_find? hfind, hfind]
      rfl
    refine ⟨.inl ⟨rfl, rfl, hasset, hpending, _, rfl, hknown⟩, ?_⟩
    simp [NeverVanishes, embark]

end

/-! ### The loop -/

theorem complaints_neverVanishes (id : ActionId) (context : UpdateContext τ) :
    NeverVanishes (complaints id context) := by
  rw [complaints]
  split
  · simp [NeverVanishes]
  · split <;> simp [NeverVanishes]

section

variable [Clock τ] (r : Repertoire ι τ) (bridge : Bridge) {asset : Asset} (limit : Nat)

/-- What comes behind the making of an instance is settled if the loop settles what is under way. -/
theorem settles_after_begin {transitions : Nat} {remaining : τ} (scopes : Scopes) (id : ActionId)
    (hasset : d.asset? = some asset) (hpending : d.pending? = none)
    (hloop : ∀ (d : Deck ι) scopes, d.IsUnderWay asset →
      (loop r bridge asset limit transitions remaining d scopes).Settles)
    {events : List (Event τ)} (hevents : NeverVanishes events) :
    let begun := begin r bridge d scopes asset id
    (if begun.1 then
        (loop r bridge asset limit transitions remaining begun.2.deck begun.2.scopes).after
          (events ++ begun.2.events)
      else begun.2.after events).Settles := by
  intro begun
  obtain ⟨hsituation, hnever⟩ := begin_settles r bridge scopes id hasset hpending
  rcases hsituation with ⟨hmade, hunderWay⟩ | ⟨hrefused, hrest⟩
  · rw [if_pos hmade]
    exact (hloop _ _ hunderWay).after (hevents.append hnever)
  · rw [if_neg (by rw [hrefused]; exact Bool.false_ne_true)]
    exact Outcome.Settles.after ⟨.inl hrest, hnever⟩ hevents

/-- An update of the live instance changes nothing but the instance and what is on the stage. -/
theorem visit_keeps (descriptor : Descriptor) (remaining : τ) (scopes : Scopes)
    {live : LiveAction ι} (hunderWay : d.IsUnderWay asset) (hcurrent : d.current? = some live) :
    (d.visit r bridge scopes descriptor live remaining).2.deck.IsUnderWay asset ∧
      NeverVanishes (d.visit r bridge scopes descriptor live remaining).2.events := by
  obtain ⟨hstate, hasset, hpending, live', hlive, hknown⟩ := hunderWay
  obtain rfl : live' = live := Option.some.inj (hlive.symm.trans hcurrent)
  refine ⟨⟨hstate, hasset, hpending, _, rfl, hknown⟩, fun id flow hmem => ?_⟩
  simp only [visit, List.cons_append, List.mem_cons, List.mem_append, List.mem_map, reduceCtorEq,
    and_false, exists_false, false_or] at hmem
  exact complaints_neverVanishes _ _ id flow hmem

/-- **The loop of an update settles the fields on every way out.** -/
theorem loop_settles (transitions : Nat) (remaining : τ) (scopes : Scopes)
    (hunderWay : d.IsUnderWay asset) :
    (loop r bridge asset limit transitions remaining d scopes).Settles := by
  -- On the transitions that are left: only one that is followed goes round again.
  induction hleft : limit - transitions using Nat.strongRecOn
    generalizing transitions remaining d scopes with
  | ind left ih =>
    obtain ⟨live, hcurrent, hknown⟩ := hunderWay.exists_live
    obtain ⟨descriptor, hfind⟩ := Option.isSome_iff_exists.1 hknown
    obtain ⟨hvisited, hnever⟩ := visit_keeps r bridge descriptor remaining scopes hunderWay hcurrent
    rcases hvisit : d.visit r bridge scopes descriptor live remaining with
      ⟨context, ⟨visited, scopes', events⟩⟩
    rw [hvisit] at hvisited hnever
    rw [loop_of_live hcurrent hfind hvisit]
    cases context.decision with
    | stay complaint? => exact ⟨hvisited.isSettled, hnever⟩
    | finish =>
      exact ⟨.inl (isAtRest_finish (τ := τ) _ false), hnever.append (neverVanishes_finish _ _)⟩
    | fail message =>
      exact ⟨.inl (isAtRest_finish (τ := τ) _ true), hnever.append (neverVanishes_finish _ _)⟩
    | go next yields =>
      have htold : NeverVanishes
          (events ++ [.notice (Player.transitionNotice descriptor.id next yields)]) :=
        hnever.append (by simp [NeverVanishes])
      cases yields with
      | true => exact ⟨hvisited.isSettled_suspend next, htold⟩
      | false =>
        by_cases hend : limit ≤ transitions + 1
        · simp only [hend, if_true, Bool.false_eq_true, if_false]
          exact ⟨hvisited.isSettled_suspend next, htold.append (by simp [NeverVanishes])⟩
        · simp only [hend, Bool.false_eq_true, if_false]
          exact settles_after_begin (d := visited.leave) r bridge limit scopes' next
            hvisited.asset?_eq hvisited.pending?_eq
            (fun _ _ hnext => ih (limit - (transitions + 1)) (by omega) _ _ _ hnext rfl) htold

theorem update_settles (h : d.IsSettled) (f : Frame ι τ) :
    (d.update f.repertoire f.session f.delta).Settles := by
  have hnotices : NeverVanishes (Player.deltaNotices f.delta) := fun id flow =>
    Player.notMem_deltaNotices (by simp) f.delta
  rw [update]
  rcases h with h | ⟨-, hasset, hpending, -⟩ |
    ⟨hstate, hpending, asset, live, hasset, hcurrent, hknown⟩
  · simp only [h.2.1]
    exact ⟨.inl h, by simp [NeverVanishes]⟩
  · obtain ⟨asset, hasset⟩ := Option.isSome_iff_exists.1 hasset
    obtain ⟨next, hpending⟩ := Option.isSome_iff_exists.1 hpending
    simp only [hasset, hpending]
    exact settles_after_begin (d := d.takeDue) _ _ _ _ next hasset rfl
      (fun _ _ hunderWay => loop_settles _ _ _ _ _ _ hunderWay) hnotices
  · simp only [hasset, hpending]
    exact (loop_settles _ _ _ _ _ _ ⟨hstate, hasset, hpending, live, hcurrent, hknown⟩).after
      hnotices

/-! ### Calls -/

/-- **Every call of settled fields settles them, and says of no action that it has vanished.** -/
theorem call_settles (h : d.IsSettled) (c : Call ι τ) :
    (d.call c).1.IsSettled ∧ NeverVanishes (d.call c).2 := by
  cases c with
  | start asset options =>
    rw [call, start_eq]
    cases Player.resolveStart asset options with
    | error e => exact ⟨h, fun _ _ => List.not_mem_nil⟩
    | ok id =>
      have hrest := isAtRest_stop (τ := τ) h
      refine ⟨.inr (.inl (isWaiting_poise hrest.2.2.1 asset options id)), ?_⟩
      exact (neverVanishes_stop d).append (by simp [NeverVanishes, Player.greeting])
  | stop => exact ⟨.inl (isAtRest_stop h), neverVanishes_stop d⟩
  | update f => exact ⟨(update_settles h f).isSettled, (update_settles h f).neverVanishes⟩

theorem isSettled_new (config : PlayerConfig) (seed : UInt64) :
    (new config seed : Deck ι).IsSettled := .inl ⟨rfl, rfl, rfl, rfl⟩

theorem isSettled_after (h : d.IsSettled) (calls : List (Call ι τ)) :
    (d.after calls).IsSettled := by
  induction calls generalizing d with
  | nil => exact h
  | cons c rest ih => exact ih (call_settles h c).1

/-- **Behind every sequence of calls a player is at rest, or stands before an action, or has a live
instance that its asset knows, and never two of these,** as its fields tell, each of which is
written on its own. So it plays exactly when it has an asset, and when it is not idle; it is not
seen while observers hear of an end; and in no call is it said that an action has vanished. The
fields are those of the player that was called in the same way, and the same happens in it. -/
theorem exactlyOne_after (config : PlayerConfig) (seed : UInt64) (calls : List (Call ι τ)) :
    let d := (new config seed : Deck ι).after calls
    ExactlyOne d.IsAtRest d.IsWaiting d.IsLive ∧
      (d.isPlaying = true ↔ d.asset?.isSome = true) ∧ (d.isPlaying = true ↔ d.state ≠ .idle) ∧
      d.state ≠ .finished ∧
      (∀ (c : Call ι τ) id flow, .said (.vanished id flow) ∉ (d.call c).2) ∧
      let p := (Player.new config seed : Player ι).after calls
      p.deck = d ∧ ∀ c : Call ι τ, (p.call c).2 = (d.call c).2 := by
  intro d
  have hsettled : d.IsSettled := isSettled_after (isSettled_new config seed) calls
  have hdeck : ((Player.new config seed).after calls).deck = d := by
    rw [← Player.deck_after, Player.deck_new]
  refine ⟨hsettled.exactlyOne, hsettled.isPlaying_iff.1, hsettled.isPlaying_iff.2,
    hsettled.state_ne_finished, fun c => (call_settles hsettled c).2, hdeck, fun c => ?_⟩
  rw [← hdeck, Player.deck_call]

end

end Deck

namespace Player

/-! ### Sound players -/

theorem isSettled_deck {p : Player ι} (hsound : p.IsSound) : p.deck.IsSettled := by
  rcases hsound.cases with hphase | ⟨asset, next, last?, hphase⟩ | ⟨asset, d, live, hphase, hd⟩
  · exact .inl (by simp [Deck.IsAtRest, deck, state, asset?, pending?, hphase, Phase.state,
      Phase.asset?, Phase.live?, Phase.pending?])
  · refine .inr (.inl ⟨?_, ?_⟩)
    · cases last? <;> simp [deck, state, hphase, Phase.state]
    · simp [deck_of_poised hphase]
  · refine .inr (.inr ?_)
    simp [Deck.IsLive, deck_of_active hphase, hd]

theorem isSound_new (config : PlayerConfig) (seed : UInt64) :
    (new config seed : Player ι).IsSound := trivial

theorem isPlaying_deck (p : Player ι) : p.deck.isPlaying = p.isPlaying := by
  rw [Deck.isPlaying, isPlaying, ← map_current?_deck, Option.isSome_map]
  rfl

theorem IsSound.isPlaying_iff {p : Player ι} (hsound : p.IsSound) :
    (p.isPlaying = true ↔ p.asset?.isSome = true) ∧ (p.isPlaying = true ↔ p.state ≠ .idle) := by
  rw [← isPlaying_deck]
  exact (isSettled_deck hsound).isPlaying_iff

theorem vanished_notMem_call [Clock τ] {p : Player ι} (hsound : p.IsSound) (c : Call ι τ)
    (id : ActionId) (flow : String) : .said (.vanished id flow) ∉ (p.call c).2 := by
  have hnever := (Deck.call_settles (isSettled_deck hsound) c).2
  rw [deck_call] at hnever
  exact hnever id flow

end Player

end ActionGraph
