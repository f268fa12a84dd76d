import ActionGraph.Asset.Form
import ActionGraph.Proofs.Asset.Drafting
import ActionGraph.Proofs.Json.Variation

/-!
# What a written asset is judged by

The draft of a written asset has its parts in their order, and whether it is sound does not depend
on the conditions of its links. Nor does it depend on them whether the asset can be read, as long as
each condition is read at all. So a value with one condition in the place of another is loaded
exactly if the first one is.
-/

namespace ActionGraph

open Json (Decoder Field Record VaryInField VaryInItem)

/-! ### The draft of a form -/

namespace ActionForm

def declaration (form : ActionForm) : Declaration := ⟨form.id, form.type, form.params⟩

/-- The links with the id of the action where they start. -/
def drawn (form : ActionForm) : List (ActionId × Link) := form.links.map (form.id, ·)

end ActionForm

namespace Draft

theorem foldl_addLink (d : Draft) (id : ActionId) (links : List Link) :
    links.foldl (fun d link => d.addLink id link) d
      = { d with links := d.links ++ links.map (id, ·) } := by
  induction links generalizing d with
  | nil => simp
  | cons link rest ih =>
    rw [List.foldl_cons, ih]
    simp [addLink]

theorem foldl_setVariable (d : Draft) (entries : List (String × Value)) :
    entries.foldl (fun d (name, value) => d.setVariable name value) d
      = { d with bindings := d.bindings.setAll entries } := by
  induction entries generalizing d with
  | nil => rfl
  | cons entry rest ih =>
    rw [List.foldl_cons, ih]
    rfl

theorem foldl_actions (d : Draft) (actions : List ActionForm) :
    actions.foldl (fun d action => action.links.foldl (fun d link => d.addLink action.id link)
        (d.addAction action.id action.type action.params)) d
      = { d with
          actions := d.actions ++ actions.map ActionForm.declaration
          links := d.links ++ actions.flatMap ActionForm.drawn } := by
  induction actions generalizing d with
  | nil => simp
  | cons action rest ih =>
    rw [List.foldl_cons, foldl_addLink, ih]
    simp [addAction, ActionForm.declaration, ActionForm.drawn]

end Draft

theorem AssetForm.toDraft_eq (form : AssetForm) : form.toDraft =
    { name := form.name
      start? := form.start?
      actions := form.actions.map ActionForm.declaration
      links := form.actions.flatMap ActionForm.drawn
      bindings := .ofList form.bindings.entries } := by
  simp only [toDraft]
  rw [Draft.foldl_setVariable, Draft.foldl_actions]
  rfl

/-! ### All but the conditions -/

/-- What shows of a link when its condition is left out. -/
def Link.outline (link : Link) : ActionId × Bool := (link.target, link.yields)

def ActionForm.outline (form : ActionForm) : Declaration × List (ActionId × Bool) :=
  (form.declaration, form.links.map Link.outline)

def AssetForm.outline (form : AssetForm) :
    String × Option ActionId × Bindings × List (Declaration × List (ActionId × Bool)) :=
  (form.name, form.start?, form.bindings, form.actions.map ActionForm.outline)

/-- The links that are the same but for the condition, which is this one and the other one. -/
def Link.VaryInCondition (condition other : Json) : Json → Json → Prop :=
  VaryInField "condition" 1 fun v w => v = condition ∧ w = other

def ActionForm.VaryInCondition (condition other : Json) : Json → Json → Prop :=
  VaryInField "links" 3 (VaryInItem (Link.VaryInCondition condition other))

/-- The assets that are the same but for the condition of one link. -/
def AssetForm.VaryInCondition (condition other : Json) : Json → Json → Prop :=
  VaryInField "actions" 3 (VaryInItem (ActionForm.VaryInCondition condition other))

section

variable {condition other : Json} {c c' : Condition}

theorem Link.decoder_respects (h : Json.decodeValue Condition.decoder condition = .ok c)
    (h' : Json.decodeValue Condition.decoder other = .ok c') :
    form.decoder.Respects (VaryInCondition condition other) outline := by
  have hcondition : Condition.decoder.Respects (fun v w => v = condition ∧ w = other)
      fun _ => () := by
    rintro _ _ ⟨rfl, rfl⟩
    rw [h, h']
    rfl
  refine Record.decoder_respects (fun field hfield => ?_) rfl rfl
    (Field.respects_of hcondition fun _ _ s t _ hst => hst)
  simp only [form, List.mem_cons, List.not_mem_nil, or_false] at hfield
  rcases hfield with rfl | rfl | rfl
  · refine Field.respects_of (Decoder.respects_eq _) fun a b s t hab hst => ?_
    cases hab
    exact congrArg (a, ·) (Prod.mk.inj hst).2
  · exact Field.respects_of (Decoder.respects_eq _) fun _ _ s t _ hst => hst
  · refine Field.respects_of (Decoder.respects_eq _) fun a b s t hab hst => ?_
    cases hab
    exact congrArg (·, a) (Prod.mk.inj hst).1

theorem ActionForm.decoder_respects (h : Json.decodeValue Condition.decoder condition = .ok c)
    (h' : Json.decodeValue Condition.decoder other = .ok c') :
    form.decoder.Respects (VaryInCondition condition other) outline := by
  refine Record.decoder_respects (fun field hfield => ?_) rfl rfl
    (Field.respects_of (Link.decoder_respects h h').list fun _ _ s t hlinks hst => ?_)
  · simp only [form, List.mem_cons, List.not_mem_nil, or_false] at hfield
    rcases hfield with rfl | rfl | rfl | rfl
    all_goals
      refine Field.respects_of (Decoder.respects_eq _) fun a b s t hab hst => ?_
      cases hab
      obtain ⟨hdeclaration, hlinks⟩ := Prod.mk.inj hst
      obtain ⟨hid, htype, hparams⟩ := Declaration.mk.inj hdeclaration
      simp only [outline, declaration, hid, htype, hparams, hlinks]
  · exact congrArg₂ Prod.mk (Prod.mk.inj hst).1 hlinks

theorem AssetForm.decoder_respects (h : Json.decodeValue Condition.decoder condition = .ok c)
    (h' : Json.decodeValue Condition.decoder other = .ok c') :
    form.decoder.Respects (VaryInCondition condition other) outline := by
  refine Record.decoder_respects (fun field hfield => ?_) rfl rfl
    (Field.respects_of (ActionForm.decoder_respects h h').list fun _ _ s t hactions hst => ?_)
  · simp only [form, List.mem_cons, List.not_mem_nil, or_false] at hfield
    rcases hfield with rfl | rfl | rfl | rfl
    all_goals
      refine Field.respects_of (Decoder.respects_eq _) fun a b s t hab hst => ?_
      cases hab
      simp only [outline, Prod.mk.injEq] at hst ⊢
      obtain ⟨hname, hstart, hbindings, hactions⟩ := hst
      simp only [hname, hstart, hbindings, hactions, and_self]
  · simp only [outline, Prod.mk.injEq] at hst ⊢
    exact ⟨hst.1, hst.2.1, hst.2.2.1, hactions⟩

end

/-! ### Loading -/

namespace Draft

/-- Where a link starts and where it leads. -/
def ends (entry : ActionId × Link) : ActionId × ActionId := (entry.1, entry.2.target)

/-- Of the links, only the ends are checked. -/
theorem IsSound.of_ends_eq {d e : Draft} (h : d.IsSound) (hname : e.name = d.name)
    (hstart : e.start? = d.start?) (hactions : e.actions = d.actions)
    (hlinks : e.links.map ends = d.links.map ends) (hbindings : e.bindings = d.bindings) :
    e.IsSound where
  name := hname ▸ h.name
  ids := hactions ▸ h.ids
  types := hactions ▸ h.types
  nodup := hactions ▸ h.nodup
  bindings := hbindings ▸ h.bindings
  links := by
    have hdeclared : ∀ pair ∈ d.links.map ends, pair.1 ∈ d.actions.map Declaration.id ∧
        pair.2 ∈ d.actions.map Declaration.id := List.forall_mem_map.2 h.links
    rw [← hlinks, ← hactions] at hdeclared
    exact List.forall_mem_map.1 hdeclared
  start := hstart ▸ hactions ▸ h.start

end Draft

namespace AssetForm

theorem actions_toDraft (form : AssetForm) :
    form.toDraft.actions = (form.actions.map ActionForm.outline).map Prod.fst := by
  rw [toDraft_eq, List.map_map]
  rfl

theorem ends_toDraft (form : AssetForm) : form.toDraft.links.map Draft.ends
    = (form.actions.map ActionForm.outline).flatMap fun action =>
        action.2.map (action.1.id, ·.1) := by
  rw [toDraft_eq, List.map_flatMap, List.flatMap_map]
  apply List.flatMap_congr
  intro action _
  show (action.links.map (action.id, ·)).map Draft.ends
    = (action.links.map Link.outline).map (action.id, ·.1)
  rw [List.map_map, List.map_map]
  rfl

/-- Whether a form is sound does not depend on the conditions in it. -/
theorem isSound_of_outline_eq {form other : AssetForm} (h : other.outline = form.outline)
    (hsound : form.toDraft.IsSound) : other.toDraft.IsSound := by
  simp only [outline, Prod.mk.injEq] at h
  obtain ⟨hname, hstart, hbindings, hactions⟩ := h
  refine hsound.of_ends_eq ?name ?start ?actions ?links ?bindings
  case actions => rw [actions_toDraft, actions_toDraft, hactions]
  case links => rw [ends_toDraft, ends_toDraft, hactions]
  case name => rw [toDraft_eq, toDraft_eq, hname]
  case start => rw [toDraft_eq, toDraft_eq, hstart]
  case bindings => rw [toDraft_eq, toDraft_eq, hbindings]

end AssetForm

namespace Asset

theorem exists_ofJson_iff {value : Json} : (∃ asset, ofJson value = .ok asset) ↔
    ∃ form, Json.decodeValue AssetForm.form.decoder value = .ok form ∧ form.toDraft.IsSound := by
  constructor
  · rintro ⟨asset, h⟩
    obtain ⟨form, hform, hasset⟩ := bind_eq_ok_iff.1 h
    exact ⟨form, mapError_eq_ok_iff.1 hform, (Draft.isSound_of_build hasset).1⟩
  · rintro ⟨form, hform, hsound⟩
    obtain ⟨asset, hasset⟩ := hsound.exists_build
    exact ⟨asset, bind_eq_ok_iff.2 ⟨form, mapError_eq_ok_iff.2 hform, hasset⟩⟩

theorem exists_ofJson_of_sameUpTo {v w : Json}
    (h : Json.SameUpTo AssetForm.outline (Json.decodeValue AssetForm.form.decoder v)
      (Json.decodeValue AssetForm.form.decoder w))
    (hloaded : ∃ asset, ofJson v = .ok asset) : ∃ asset, ofJson w = .ok asset := by
  obtain ⟨form, hform, hsound⟩ := exists_ofJson_iff.1 hloaded
  obtain ⟨other, hother⟩ := h.exists_ok_iff.1 ⟨form, hform⟩
  rw [hform, hother] at h
  have houtline : other.outline = form.outline := (Except.ok.inj h).symm
  exact exists_ofJson_iff.2 ⟨other, hother, AssetForm.isSound_of_outline_eq houtline hsound⟩

/-- An asset with one condition is loaded exactly if it is with the other, as long as either is
read. -/
theorem exists_ofJson_of_vary {condition other : Json} {c c' : Condition}
    (h : Json.decodeValue Condition.decoder condition = .ok c)
    (h' : Json.decodeValue Condition.decoder other = .ok c') {v w : Json}
    (hvary : AssetForm.VaryInCondition condition other v w) :
    (∃ asset, ofJson v = .ok asset) ↔ ∃ asset, ofJson w = .ok asset := by
  have hsame := AssetForm.decoder_respects h h' v w hvary
  exact ⟨exists_ofJson_of_sameUpTo hsame, exists_ofJson_of_sameUpTo hsame.symm⟩

end Asset

end ActionGraph
