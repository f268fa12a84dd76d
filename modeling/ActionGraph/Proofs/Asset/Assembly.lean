import ActionGraph.Proofs.Asset.Loading
import ActionGraph.Proofs.Text.ByteOrder

/-!
# What is loaded of a written asset

A written asset has its links with its actions, and the draft of it has all links in one list, each
with the id of the action that it was taken from. Building the draft hands them out again by these
ids. As no id stands twice in what is built, every action gets back its own links and no others
(`linksFrom_drawn`); where one does stand twice, nothing is handed out at all, since the actions are
judged before their links.
-/

namespace ActionGraph

open Naming (checkFlowName checkActionId checkVariableName)

/-- The action that is written, with its links. -/
def ActionForm.descriptor (form : ActionForm) : Descriptor :=
  { id := form.id, type := form.type, links := form.links, params := form.params }

/-- Whether a written asset can be loaded. -/
structure AssetForm.IsSound (form : AssetForm) : Prop where
  name : checkFlowName form.name = .ok ()
  ids : ∀ action ∈ form.actions, checkActionId action.id = .ok ()
  types : ∀ action ∈ form.actions, (Text.trim action.type).isEmpty = false
  nodup : (form.actions.map ActionForm.id).Nodup
  bindings : ∀ entry ∈ form.bindings.entries, checkVariableName entry.1 = .ok ()
  links : ∀ action ∈ form.actions, ∀ link ∈ action.links,
    link.target ∈ form.actions.map ActionForm.id
  start : ∀ id ∈ form.start?, id ∈ form.actions.map ActionForm.id

/-! ### Links that are handed out again -/

namespace Draft

theorem linksFrom_append (source : ActionId) (links more : List (ActionId × Link)) :
    linksFrom source (links ++ more) = linksFrom source links ++ linksFrom source more :=
  List.filterMap_append

theorem linksFrom_of_forall_ne {source : ActionId} {links : List (ActionId × Link)}
    (h : ∀ entry ∈ links, entry.1 ≠ source) : linksFrom source links = [] := by
  refine List.filterMap_eq_nil_iff.2 fun entry hentry => ?_
  rw [if_neg (h entry hentry)]

theorem linksFrom_drawn_self (form : ActionForm) : linksFrom form.id form.drawn = form.links := by
  rw [linksFrom, ActionForm.drawn, List.filterMap_map]
  simp

/-- Among the links of actions with distinct ids, those from an action are its own. -/
theorem linksFrom_drawn {actions : List ActionForm} (hnodup : (actions.map ActionForm.id).Nodup)
    {form : ActionForm} (hform : form ∈ actions) :
    linksFrom form.id (actions.flatMap ActionForm.drawn) = form.links := by
  have hsource {other : ActionForm} {entry : ActionId × Link} (h : entry ∈ other.drawn) :
      entry.1 = other.id := by
    obtain ⟨link, -, rfl⟩ := List.mem_map.1 h
    rfl
  induction actions with
  | nil => exact nomatch hform
  | cons first rest ih =>
    obtain ⟨hfirst, hrest⟩ := List.nodup_cons.1 hnodup
    rw [List.flatMap_cons, linksFrom_append]
    rcases List.mem_cons.1 hform with rfl | hlater
    · rw [linksFrom_drawn_self, linksFrom_of_forall_ne, List.append_nil]
      intro entry hentry hsame
      obtain ⟨other, hother, hdrawn⟩ := List.mem_flatMap.1 hentry
      exact hfirst (List.mem_map.2 ⟨other, hother, (hsource hdrawn).symm.trans hsame⟩)
    · rw [ih hrest hlater, linksFrom_of_forall_ne, List.nil_append]
      intro entry hentry hsame
      rw [hsource hentry] at hsame
      exact hfirst (hsame ▸ List.mem_map_of_mem hlater)

end Draft

namespace AssetForm

theorem ids_toDraft (form : AssetForm) :
    form.toDraft.actions.map Declaration.id = form.actions.map ActionForm.id := by
  rw [toDraft_eq, List.map_map]
  rfl

theorem toList_bindings_toDraft (form : AssetForm) :
    form.toDraft.bindings.toList = form.bindings.entries := by
  have hnodup : (form.bindings.entries.map Prod.fst).Nodup := by
    refine List.pairwise_map.2 (form.bindings.sorted.imp ?_)
    intro entry other hlt hsame
    exact String.lt_irrefl _ (hsame ▸ hlt)
  rw [toDraft_eq, (Store.Shows.ofList _).toList_eq, Writes.listing_of_nodup hnodup]

/-- The names that are bound come in the order of their bytes. -/
theorem bytes_sorted (form : AssetForm) :
    form.bindings.entries.Pairwise fun entry other => Text.bytes entry.1 < Text.bytes other.1 :=
  form.bindings.sorted.imp Text.bytes_lt_iff.2

/-- The draft of a written asset is sound exactly if the written asset is. -/
theorem isSound_toDraft_iff {form : AssetForm} : form.toDraft.IsSound ↔ form.IsSound := by
  have hids := form.ids_toDraft
  have hname : form.toDraft.name = form.name := by rw [toDraft_eq]
  have hstart : form.toDraft.start? = form.start? := by rw [toDraft_eq]
  have hactions : form.toDraft.actions = form.actions.map ActionForm.declaration := by
    rw [toDraft_eq]
  have hlinks : form.toDraft.links = form.actions.flatMap ActionForm.drawn := by rw [toDraft_eq]
  have hnames : form.toDraft.bindings.slots.names = form.bindings.entries.map Prod.fst :=
    congrArg (List.map Prod.fst) form.toList_bindings_toDraft
  constructor
  · intro h
    have hdeclared := h.ids
    have htyped := h.types
    have hbound := h.bindings
    have hdrawn := h.links
    rw [hactions] at hdeclared htyped
    rw [hnames] at hbound
    rw [hids, hlinks] at hdrawn
    exact {
      name := hname ▸ h.name
      ids := List.forall_mem_map.1 hdeclared
      types := List.forall_mem_map.1 htyped
      nodup := hids ▸ h.nodup
      bindings := List.forall_mem_map.1 hbound
      links := fun action haction link hlink =>
        (hdrawn (action.id, link) (List.mem_flatMap.2 ⟨action, haction,
          List.mem_map_of_mem hlink⟩)).2
      start := hids ▸ hstart ▸ h.start }
  · intro h
    refine ⟨hname ▸ h.name, ?ids, ?types, hids ▸ h.nodup, ?bindings, ?links, ?start⟩
    case ids =>
      rw [hactions]
      exact List.forall_mem_map.2 h.ids
    case types =>
      rw [hactions]
      exact List.forall_mem_map.2 h.types
    case bindings =>
      rw [hnames]
      exact List.forall_mem_map.2 h.bindings
    case links =>
      rw [hids, hlinks]
      intro entry hentry
      obtain ⟨action, haction, hdrawn⟩ := List.mem_flatMap.1 hentry
      obtain ⟨link, hlink, rfl⟩ := List.mem_map.1 hdrawn
      exact ⟨List.mem_map_of_mem haction, h.links action haction link hlink⟩
    case start =>
      rw [hids, hstart]
      exact h.start

end AssetForm

/-! ### Ids that stand twice -/

namespace Draft

/-- Whether an action is all right on its own. -/
def Passes (action : Declaration) : Prop :=
  checkActionId action.id = .ok () ∧ (Text.trim action.type).isEmpty = false

theorem checkActions_cons {seen : List ActionId} {action : Declaration} (h : Passes action)
    (rest : List Declaration) : checkActions seen (action :: rest) =
      if action.id ∈ seen then .error (.duplicateAction action.id)
      else checkActions (action.id :: seen) rest := by
  rw [checkActions, mapError_eq_ok_iff.2 h.1, ok_bind, h.2]
  rfl

/-- The first id that stands twice is refused, if all actions up to it pass. -/
theorem checkActions_of_repeated {seen : List ActionId} {before : List Declaration}
    {action : Declaration} (hpass : ∀ a ∈ before ++ [action], Passes a)
    (hfirst : (before.map Declaration.id).Nodup) (hfresh : ∀ a ∈ before, a.id ∉ seen)
    (hagain : action.id ∈ before.map Declaration.id ∨ action.id ∈ seen) (after : List Declaration) :
    checkActions seen (before ++ action :: after) = .error (.duplicateAction action.id) := by
  induction before generalizing seen with
  | nil =>
    have hseen : action.id ∈ seen := hagain.resolve_left List.not_mem_nil
    rw [List.nil_append, checkActions_cons (hpass action List.mem_cons_self), if_pos hseen]
  | cons first rest ih =>
    obtain ⟨hpasses, hrest⟩ := List.forall_mem_cons.1 hpass
    obtain ⟨hnew, hfresh⟩ := List.forall_mem_cons.1 hfresh
    obtain ⟨hother, hfirst⟩ := List.nodup_cons.1 hfirst
    have hlater : ∀ a ∈ rest, a.id ∉ first.id :: seen := fun a ha hseen => by
      rcases List.mem_cons.1 hseen with hsame | hold
      · exact hother (List.mem_map.2 ⟨a, ha, hsame⟩)
      · exact hfresh a ha hold
    rw [List.cons_append, checkActions_cons hpasses, if_neg hnew]
    refine ih hrest hfirst hlater ?_
    rw [List.map_cons, List.mem_cons] at hagain
    rw [List.mem_cons]
    tauto

end Draft

namespace Asset

variable {form : AssetForm}

theorem exists_ofForm_iff : (∃ asset, ofForm form = .ok asset) ↔ form.IsSound :=
  Draft.exists_build_iff.trans AssetForm.isSound_toDraft_iff

/-- What an asset has of the form that it was loaded from. -/
structure IsLoadedFrom (asset : Asset) (form : AssetForm) : Prop where
  name_eq : asset.name = form.name
  actions_eq : asset.actions = form.actions.map ActionForm.descriptor
  start?_eq : asset.start? = form.start?
  bindings_eq : asset.bindings.toList = form.bindings.entries

theorem isLoadedFrom_of_ofForm {asset : Asset} (h : ofForm form = .ok asset) :
    asset.IsLoadedFrom form := by
  obtain ⟨hsound, hname, hactions, hstart, hbindings⟩ := Draft.isSound_of_build h
  have hnodup := (AssetForm.isSound_toDraft_iff.1 hsound).nodup
  refine ⟨?_, ?_, ?_, by rw [hbindings, form.toList_bindings_toDraft]⟩
  · rw [hname, AssetForm.toDraft_eq]
  · rw [hactions, AssetForm.toDraft_eq, List.map_map]
    refine List.map_congr_left fun action haction => ?_
    have hlinks := Draft.linksFrom_drawn hnodup haction
    simp only [Function.comp_apply, Draft.linked, Draft.extended, Draft.unlinked,
      ActionForm.declaration, ActionForm.descriptor, List.nil_append, hlinks]
  · rw [hstart, AssetForm.toDraft_eq]

theorem ofForm_of_repeated {before after : List ActionForm} {action : ActionForm}
    (hactions : form.actions = before ++ action :: after)
    (hname : checkFlowName form.name = .ok ())
    (hpass : ∀ a ∈ before ++ [action], Draft.Passes a.declaration)
    (hfirst : (before.map ActionForm.id).Nodup)
    (hagain : action.id ∈ before.map ActionForm.id) :
    ofForm form = .error (.duplicateAction action.id) := by
  have hids : (before.map ActionForm.declaration).map Declaration.id
      = before.map ActionForm.id := List.map_map ..
  have hchecks : Draft.checkActions [] form.toDraft.actions
      = .error (.duplicateAction action.id) := by
    rw [AssetForm.toDraft_eq, hactions, List.map_append, List.map_cons]
    have hdeclared : ∀ a ∈ before.map ActionForm.declaration ++ [action.declaration],
        Draft.Passes a := by
      rw [← List.map_singleton, ← List.map_append]
      exact List.forall_mem_map.2 hpass
    refine Draft.checkActions_of_repeated hdeclared ?_ (fun _ _ => List.not_mem_nil) ?_ _
    · rwa [hids]
    · rw [hids]
      exact .inl hagain
  have hname' : checkFlowName form.toDraft.name = .ok () := by rwa [AssetForm.toDraft_eq]
  rw [ofForm, Draft.build, mapError_eq_ok_iff.2 hname', ok_bind, hchecks]
  rfl

/-- **What is loaded is what was written.** A written asset is loaded exactly if it is sound: its
name, its ids and the names of its variables are legal, no type is blank, no id stands twice, and
its links and its start lead to its actions, wherever these stand. What is loaded has the actions in
their order, each with its own id, type, parameters and links, starts where it was written to start
and binds what was written, in the order of the bytes of the names. Where an id stands twice nothing
is loaded; and if the name of the flow is legal and so are the actions up to the first one with an
id that stood before, it is this id that is refused, whatever else is written. -/
theorem what_is_loaded_was_written (form : AssetForm) :
    ((∃ asset, ofForm form = .ok asset) ↔ form.IsSound) ∧
    (∀ asset, ofForm form = .ok asset → asset.IsLoadedFrom form ∧
      asset.bindings.toList.Pairwise fun entry other =>
        Text.bytes entry.1 < Text.bytes other.1) ∧
    (¬(form.actions.map ActionForm.id).Nodup → ∃ fault, ofForm form = .error fault) ∧
    ∀ before action after, form.actions = before ++ action :: after →
      checkFlowName form.name = .ok () →
      (∀ a ∈ before ++ [action],
        checkActionId a.id = .ok () ∧ (Text.trim a.type).isEmpty = false) →
      (before.map ActionForm.id).Nodup → action.id ∈ before.map ActionForm.id →
        ofForm form = .error (.duplicateAction action.id) := by
  refine ⟨exists_ofForm_iff, fun asset h => ?_, fun hagain => ?_,
    fun before action after hactions hname hpass hfirst hagain =>
      ofForm_of_repeated hactions hname hpass hfirst hagain⟩
  · have hloaded := isLoadedFrom_of_ofForm h
    exact ⟨hloaded, hloaded.bindings_eq ▸ form.bytes_sorted⟩
  · cases h : ofForm form with
    | error fault => exact ⟨fault, rfl⟩
    | ok asset => exact absurd (exists_ofForm_iff.1 ⟨asset, h⟩).nodup hagain

/-- Two doors with one id, of which one leads nowhere, behind a variable with an illegal name. -/
def twinDoors : AssetForm where
  name := "doors"
  start? := some "window"
  bindings := .set .empty "2 keys" (.int 2)
  actions := [⟨"door", "branch", .null, [{ target := "nowhere" }]⟩, ⟨"door", "end", .null, []⟩]

theorem what_is_loaded_was_written_for_twin_doors :
    ofForm twinDoors = .error (.duplicateAction "door") := by
  obtain ⟨-, -, -, hrepeated⟩ := what_is_loaded_was_written twinDoors
  exact hrepeated [⟨"door", "branch", .null, [{ target := "nowhere" }]⟩]
    ⟨"door", "end", .null, []⟩ [] rfl rfl (by decide) (by decide) (by decide)

end Asset

end ActionGraph
