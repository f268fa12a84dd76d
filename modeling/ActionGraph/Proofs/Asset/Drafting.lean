import ActionGraph.Asset.Draft
import ActionGraph.Proofs.Except
import ActionGraph.Proofs.Store.Writes

/-!
# What comes of a draft

An asset comes of a draft exactly if the draft is sound, and then it can be told part by part. The
checks pass over the draft with a list of the ids that they have seen, each link is handed to the
first action that has the id of its source, and the asset enters the ids once more into its index.
All of these come to the same: an id names one action, and an action has the links that were drawn
from it.
-/

namespace ActionGraph

/-! ### Ids -/

namespace Asset

theorem nodup (a : Asset) : (a.actions.map Descriptor.id).Nodup := a.consistent.nodup

theorem exists_indexFrom {index : List (ActionId × Nat)} {ids : List ActionId}
    {actions : List Descriptor} (h : Table.IsIndexOf index ids)
    (hnodup : (ids ++ actions.map Descriptor.id).Nodup) :
    ∃ out, indexFrom index ids.length actions = .ok out := by
  induction actions generalizing index ids with
  | nil => exact ⟨index, rfl⟩
  | cons action rest ih =>
    have hids : ids ++ (action :: rest).map Descriptor.id
        = (ids ++ [action.id]) ++ rest.map Descriptor.id := by simp
    rw [hids] at hnodup
    have hnew : List.lookup action.id index = none := by
      refine h.lookup_eq_none_iff.2 fun hmem => ?_
      exact (List.nodup_append.1 (List.nodup_append.1 hnodup).1).2.2 _ hmem _
        List.mem_cons_self rfl
    have hrest := ih (h.insert hnew) hnodup
    rw [List.length_append, List.length_singleton] at hrest
    rwa [indexFrom, hnew]

theorem exists_ofParts (name : String) {actions : List Descriptor} (start? : Option ActionId)
    (bindings : Store) (hnodup : (actions.map Descriptor.id).Nodup) :
    ∃ a, ofParts name actions start? bindings = .ok a := by
  obtain ⟨index, hindex⟩ : ∃ index, indexOf actions = .ok index :=
    exists_indexFrom Table.isIndexOf_nil hnodup
  rw [ofParts]
  split
  · rename_i fault hfault
    rw [hindex] at hfault
    exact nomatch hfault
  · exact ⟨_, rfl⟩

theorem eq_of_ofParts {name : String} {actions : List Descriptor} {start? : Option ActionId}
    {bindings : Store} {a : Asset} (h : ofParts name actions start? bindings = .ok a) :
    a.name = name ∧ a.actions = actions ∧ a.start? = start? ∧ a.bindings = bindings := by
  rw [ofParts] at h
  split at h
  · simp at h
  · obtain rfl := Except.ok.inj h
    exact ⟨rfl, rfl, rfl, rfl⟩

theorem find?_of_mem {a : Asset} {d : Descriptor} (hd : d ∈ a.actions) :
    a.find? d.id = some d := find?_eq_some_iff.2 ⟨hd, rfl⟩

theorem isSome_find?_iff {a : Asset} {id : ActionId} :
    (a.find? id).isSome ↔ id ∈ a.actions.map Descriptor.id := by
  rw [Option.isSome_iff_exists, List.mem_map]
  exact exists_congr fun _ => find?_eq_some_iff

theorem find?_eq_none_iff {a : Asset} {id : ActionId} :
    a.find? id = none ↔ id ∉ a.actions.map Descriptor.id := by
  rw [← isSome_find?_iff, Option.not_isSome_iff_eq_none]

end Asset

namespace Draft

/-! ### The checks -/

theorem checkDeclared_eq_ok_iff {id : ActionId} : checkDeclared ids id = .ok () ↔ id ∈ ids := by
  rw [checkDeclared]
  split <;> simp_all

theorem checkVariables_eq_ok_iff {names : List String} :
    checkVariables names = .ok () ↔ ∀ name ∈ names, Naming.checkVariableName name = .ok () := by
  induction names with
  | nil => simp [checkVariables]
  | cons name rest ih =>
    rw [checkVariables, bind_eq_ok_iff, List.forall_mem_cons]
    constructor
    · rintro ⟨_, hfirst, hrest⟩
      exact ⟨mapError_eq_ok_iff.1 hfirst, ih.1 hrest⟩
    · rintro ⟨hfirst, hrest⟩
      exact ⟨(), mapError_eq_ok_iff.2 hfirst, ih.2 hrest⟩

theorem checkActions_cons_eq_ok_iff {seen : List ActionId} {action : Declaration}
    {rest : List Declaration} : checkActions seen (action :: rest) = .ok () ↔
      (Naming.checkActionId action.id = .ok () ∧ (Text.trim action.type).isEmpty = false) ∧
        action.id ∉ seen ∧ checkActions (action.id :: seen) rest = .ok () := by
  rw [checkActions, unit_bind_eq_ok_iff, mapError_eq_ok_iff]
  by_cases htype : (Text.trim action.type).isEmpty = true
  · simp [htype]
  · by_cases hseen : action.id ∈ seen
    · simp [htype, hseen]
    · simp [htype, hseen]

theorem checkActions_eq_ok_iff {seen : List ActionId} {actions : List Declaration} :
    checkActions seen actions = .ok () ↔
      (∀ a ∈ actions, Naming.checkActionId a.id = .ok () ∧ (Text.trim a.type).isEmpty = false) ∧
        (actions.map Declaration.id).Nodup ∧ ∀ a ∈ actions, a.id ∉ seen := by
  induction actions generalizing seen with
  | nil => simp [checkActions]
  | cons action rest ih =>
    rw [checkActions_cons_eq_ok_iff, ih, List.forall_mem_cons, List.map_cons, List.nodup_cons,
      List.forall_mem_cons, List.mem_map]
    constructor
    · rintro ⟨hpasses, hnew, hrest, hnodup, hfresh⟩
      refine ⟨⟨hpasses, hrest⟩, ⟨?_, hnodup⟩, hnew, fun a ha hseen => ?_⟩
      · rintro ⟨a, ha, hsame⟩
        exact hfresh a ha (hsame ▸ List.mem_cons_self)
      · exact hfresh a ha (List.mem_cons_of_mem _ hseen)
    · rintro ⟨⟨hpasses, hrest⟩, ⟨hfirst, hnodup⟩, hnew, hfresh⟩
      refine ⟨hpasses, hnew, hrest, hnodup, fun a ha hseen => ?_⟩
      rcases List.mem_cons.1 hseen with hsame | hold
      · exact hfirst ⟨a, ha, hsame⟩
      · exact hfresh a ha hold

/-! ### The links of an action -/

def linksFrom (source : ActionId) (links : List (ActionId × Link)) : List Link :=
  links.filterMap fun entry => if entry.1 = source then some entry.2 else none

/-- The action with those links added that start at it. -/
def extended (links : List (ActionId × Link)) (d : Descriptor) : Descriptor :=
  { d with links := d.links ++ linksFrom d.id links }

theorem attach_eq_none_iff {source : ActionId} {link : Link} {actions : List Descriptor} :
    attach source link actions = none ↔ source ∉ actions.map Descriptor.id := by
  induction actions with
  | nil => simp [attach]
  | cons action rest ih =>
    rw [attach, List.map_cons, List.mem_cons, not_or]
    by_cases hsource : action.id = source
    · simp [hsource]
    · rw [if_neg hsource, Option.map_eq_none_iff, ih, and_iff_right (Ne.symm hsource)]

theorem extended_of_ne {source : ActionId} {d : Descriptor} (h : d.id ≠ source) (link : Link) :
    extended [(source, link)] d = d := by
  simp [extended, linksFrom, Ne.symm h]

/-- Where no id stands twice, the first action with an id is the only one. -/
theorem attach_of_mem {source : ActionId} {link : Link} {actions : List Descriptor}
    (hnodup : (actions.map Descriptor.id).Nodup) (hmem : source ∈ actions.map Descriptor.id) :
    attach source link actions = some (actions.map (extended [(source, link)])) := by
  induction actions with
  | nil => exact nomatch hmem
  | cons action rest ih =>
    obtain ⟨hfirst, hrest⟩ := List.nodup_cons.1 hnodup
    rw [attach]
    by_cases hsource : action.id = source
    · have hothers : rest.map (extended [(source, link)]) = rest := by
        refine (List.map_congr_left fun d hd => ?_).trans (List.map_id rest)
        refine extended_of_ne (fun hsame => hfirst ?_) link
        exact List.mem_map.2 ⟨d, hd, hsame.trans hsource.symm⟩
      rw [if_pos hsource, List.map_cons, hothers]
      simp [extended, linksFrom, hsource]
    · have hlater : source ∈ rest.map Descriptor.id :=
        (List.mem_cons.1 hmem).resolve_left (Ne.symm hsource)
      rw [if_neg hsource, ih hrest hlater, List.map_cons, extended_of_ne hsource]
      rfl

theorem map_id_extended (links : List (ActionId × Link)) (actions : List Descriptor) :
    (actions.map (extended links)).map Descriptor.id = actions.map Descriptor.id := by
  rw [List.map_map]
  rfl

theorem map_extended_cons (entry : ActionId × Link) (rest : List (ActionId × Link))
    (actions : List Descriptor) :
    (actions.map (extended [entry])).map (extended rest)
      = actions.map (extended (entry :: rest)) := by
  rw [List.map_map]
  refine List.map_congr_left fun d _ => ?_
  by_cases hsource : entry.1 = d.id <;> simp [extended, linksFrom, hsource]

theorem attachAll_eq_ok_iff {ids : List ActionId} {actions out : List Descriptor}
    {links : List (ActionId × Link)} (hids : actions.map Descriptor.id = ids)
    (hnodup : ids.Nodup) : attachAll ids actions links = .ok out ↔
      (∀ entry ∈ links, entry.1 ∈ ids ∧ entry.2.target ∈ ids) ∧
        out = actions.map (extended links) := by
  induction links generalizing actions with
  | nil =>
    have hsame : extended [] = id := by
      funext d
      simp [extended, linksFrom]
    simp [attachAll, hsame, eq_comm]
  | cons entry rest ih =>
    obtain ⟨source, link⟩ := entry
    rw [attachAll, unit_bind_eq_ok_iff, checkDeclared_eq_ok_iff, List.forall_mem_cons]
    by_cases hsource : source ∈ ids
    · rw [attach_of_mem (hids ▸ hnodup) (hids ▸ hsource)]
      dsimp only
      rw [ih ((map_id_extended _ _).trans hids), map_extended_cons]
      tauto
    · rw [attach_eq_none_iff.2 (hids ▸ hsource)]
      simp [hsource]

/-! ### Sound drafts -/

/-- The action that is declared, with the links that start at it. -/
def linked (links : List (ActionId × Link)) (action : Declaration) : Descriptor :=
  extended links (unlinked action)

structure IsSound (d : Draft) : Prop where
  name : Naming.checkFlowName d.name = .ok ()
  ids : ∀ action ∈ d.actions, Naming.checkActionId action.id = .ok ()
  types : ∀ action ∈ d.actions, (Text.trim action.type).isEmpty = false
  nodup : (d.actions.map Declaration.id).Nodup
  bindings : ∀ name ∈ d.bindings.slots.names, Naming.checkVariableName name = .ok ()
  links : ∀ entry ∈ d.links, entry.1 ∈ d.actions.map Declaration.id ∧
    entry.2.target ∈ d.actions.map Declaration.id
  start : ∀ id ∈ d.start?, id ∈ d.actions.map Declaration.id

variable {d : Draft}

theorem map_linked (links : List (ActionId × Link)) (actions : List Declaration) :
    (actions.map unlinked).map (extended links) = actions.map (linked links) := by
  rw [List.map_map]
  rfl

theorem map_id_linked (links : List (ActionId × Link)) (actions : List Declaration) :
    (actions.map (linked links)).map Descriptor.id = actions.map Declaration.id := by
  rw [List.map_map]
  rfl

theorem forM_checkDeclared_eq_ok_iff {ids : List ActionId} {start? : Option ActionId} :
    start?.forM (checkDeclared ids) = .ok () ↔ ∀ id ∈ start?, id ∈ ids := by
  cases start? with
  | none => simp [Option.forM, pure, Except.pure]
  | some id => simp [Option.forM, checkDeclared_eq_ok_iff]

theorem map_id_unlinked (actions : List Declaration) :
    (actions.map unlinked).map Descriptor.id = actions.map Declaration.id := by
  rw [List.map_map]
  rfl

/-- What is found when an asset comes of a draft. -/
theorem isSound_of_build {asset : Asset} (h : d.build = .ok asset) : d.IsSound ∧
    asset.name = d.name ∧ asset.actions = d.actions.map (linked d.links) ∧
      asset.start? = d.start? ∧ asset.bindings = d.bindings := by
  obtain ⟨hname, h⟩ := unit_bind_eq_ok_iff.1 h
  obtain ⟨hactions, h⟩ := unit_bind_eq_ok_iff.1 h
  obtain ⟨hvariables, h⟩ := unit_bind_eq_ok_iff.1 h
  obtain ⟨out, hattach, h⟩ := bind_eq_ok_iff.1 h
  obtain ⟨hstart, h⟩ := unit_bind_eq_ok_iff.1 h
  obtain ⟨hchecked, hnodup, -⟩ := checkActions_eq_ok_iff.1 hactions
  obtain ⟨hlinks, rfl⟩ := (attachAll_eq_ok_iff (map_id_unlinked _) hnodup).1 hattach
  rw [map_linked] at h
  exact ⟨{
    name := mapError_eq_ok_iff.1 hname
    ids := fun action haction => (hchecked action haction).1
    types := fun action haction => (hchecked action haction).2
    nodup := hnodup
    bindings := checkVariables_eq_ok_iff.1 hvariables
    links := hlinks
    start := forM_checkDeclared_eq_ok_iff.1 hstart }, Asset.eq_of_ofParts h⟩

/-- Once the actions and links have passed, no id is found to stand twice. -/
theorem exists_ofParts_of_checks {actions : List Descriptor}
    (hactions : checkActions [] d.actions = .ok ())
    (hattach : attachAll (d.actions.map Declaration.id) (d.actions.map unlinked) d.links
      = .ok actions) : ∃ asset, Asset.ofParts d.name actions d.start? d.bindings = .ok asset := by
  obtain ⟨-, hnodup, -⟩ := checkActions_eq_ok_iff.1 hactions
  obtain ⟨-, rfl⟩ := (attachAll_eq_ok_iff (map_id_unlinked _) hnodup).1 hattach
  apply Asset.exists_ofParts
  rwa [map_linked, map_id_linked]

theorem IsSound.exists_build (h : d.IsSound) : ∃ asset, d.build = .ok asset := by
  have hactions : checkActions [] d.actions = .ok () :=
    checkActions_eq_ok_iff.2 ⟨fun action haction => ⟨h.ids action haction,
      h.types action haction⟩, h.nodup, fun _ _ => List.not_mem_nil⟩
  have hattach : attachAll (d.actions.map Declaration.id) (d.actions.map unlinked) d.links
      = .ok ((d.actions.map unlinked).map (extended d.links)) :=
    (attachAll_eq_ok_iff (map_id_unlinked _) h.nodup).2 ⟨h.links, rfl⟩
  obtain ⟨asset, hparts⟩ := exists_ofParts_of_checks hactions hattach
  refine ⟨asset, ?_⟩
  rw [build, mapError_eq_ok_iff.2 h.name, ok_bind, hactions, ok_bind,
    checkVariables_eq_ok_iff.2 h.bindings, ok_bind, hattach, ok_bind,
    forM_checkDeclared_eq_ok_iff.2 h.start, ok_bind, hparts]

theorem exists_build_iff : (∃ asset, d.build = .ok asset) ↔ d.IsSound := by
  constructor
  · rintro ⟨asset, h⟩
    exact (isSound_of_build h).1
  · exact IsSound.exists_build

/-! ### Drafts put together -/

/-- What is done to a draft. -/
inductive Edit where
  | declare (action : Declaration)
  | startAt (id : ActionId)
  | bind (name : String) (value : Value)
  | draw (source : ActionId) (link : Link)

namespace Edit

def perform (d : Draft) : Edit → Draft
  | .declare action => d.addAction action.id action.type action.params
  | .startAt id => d.setStart id
  | .bind name value => d.setVariable name value
  | .draw source link => d.addLink source link

def declaration? : Edit → Option Declaration
  | .declare action => some action
  | _ => none

def start? : Edit → Option ActionId
  | .startAt id => some id
  | _ => none

def binding? : Edit → Option (String × Value)
  | .bind name value => some (name, value)
  | _ => none

def link? : Edit → Option (ActionId × Link)
  | .draw source link => some (source, link)
  | _ => none

end Edit

/-- The draft of a flow with this name after some edits. -/
def edited (name : String) (edits : List Edit) : Draft := edits.foldl Edit.perform (new name)

/-- Each kind of edits leaves its mark on one part of the draft, in order. -/
theorem edited_eq (name : String) (edits : List Edit) : edited name edits =
    { name := name
      start? := (edits.filterMap Edit.start?).getLast?
      actions := edits.filterMap Edit.declaration?
      links := edits.filterMap Edit.link?
      bindings := .ofList (edits.filterMap Edit.binding?) } := by
  induction edits using List.reverseRecOn with
  | nil => rfl
  | append_singleton edits last ih =>
    have hlast : edited name (edits ++ [last]) = last.perform (edited name edits) := by
      simp [edited]
    rw [hlast, ih]
    simp only [List.filterMap_append, List.filterMap_cons, List.filterMap_nil]
    cases last with
    | declare | startAt | draw =>
      simp [Edit.perform, addAction, setStart, addLink, Edit.start?, Edit.declaration?, Edit.link?,
        Edit.binding?]
    | bind name value =>
      simp [Edit.perform, setVariable, Edit.start?, Edit.declaration?, Edit.link?, Edit.binding?,
        Store.ofList, Store.setAll]

/-- **An asset is what was drafted, in whatever order that was done.** A draft keeps the actions,
the links and the variables that were added, each in their order, and the start that was set last.
An asset comes of it exactly if it is sound: the names of the flow and of the variables and the ids
are legal, no type is blank, no id is declared twice, and each link and the start lead to and from
declared ids. The asset has the declared actions in order, each with the links that start at it in
order, and finds an action under each declared id and nothing under any other text. Only the order
among edits of one kind matters. An id that stands twice is refused with the actions, never when the
parts are put together. -/
theorem builds_what_was_drafted (name : String) (edits : List Edit) :
    let draft := edited name edits
    let ids := draft.actions.map Declaration.id
    (draft.name = name ∧ draft.start? = (edits.filterMap Edit.start?).getLast? ∧
      draft.actions = edits.filterMap Edit.declaration? ∧
      draft.links = edits.filterMap Edit.link? ∧
      draft.bindings.toList = Writes.listing (edits.filterMap Edit.binding?)) ∧
    ((∃ asset, draft.build = .ok asset) ↔ draft.IsSound) ∧
    (∀ asset, draft.build = .ok asset →
      (asset.name = name ∧ asset.start? = draft.start? ∧ asset.bindings = draft.bindings ∧
        asset.actions = draft.actions.map (linked draft.links)) ∧
      (∀ action ∈ draft.actions,
        asset.find? action.id = some (linked draft.links action)) ∧
      ∀ id, id ∉ ids → asset.find? id = none) ∧
    (∀ others : List Edit,
      others.filterMap Edit.start? = edits.filterMap Edit.start? →
      others.filterMap Edit.declaration? = edits.filterMap Edit.declaration? →
      others.filterMap Edit.link? = edits.filterMap Edit.link? →
      others.filterMap Edit.binding? = edits.filterMap Edit.binding? →
      (edited name others).build = draft.build) ∧
    ∀ actions, checkActions [] draft.actions = .ok () →
      attachAll ids (draft.actions.map unlinked) draft.links = .ok actions →
        ∃ asset, Asset.ofParts draft.name actions draft.start? draft.bindings = .ok asset := by
  intro draft ids
  have hdraft : draft = _ := edited_eq name edits
  refine ⟨?kept, exists_build_iff, ?asset, ?order, fun actions => exists_ofParts_of_checks⟩
  case kept =>
    have hlisting := (Store.Shows.ofList (edits.filterMap Edit.binding?)).toList_eq
    rw [hdraft]
    exact ⟨rfl, rfl, rfl, rfl, hlisting⟩
  case asset =>
    intro asset hbuild
    obtain ⟨-, hname, hactions, hstart, hbindings⟩ := isSound_of_build hbuild
    have hflow : draft.name = name := by rw [hdraft]
    refine ⟨⟨hname.trans hflow, hstart, hbindings, hactions⟩, ?_, ?_⟩
    · intro action haction
      have hmem : linked draft.links action ∈ asset.actions :=
        hactions ▸ List.mem_map_of_mem haction
      exact Asset.find?_of_mem hmem
    · intro id hid
      rw [Asset.find?_eq_none_iff, hactions, map_id_linked]
      exact hid
  case order =>
    intro others hstart hdeclaration hlink hbinding
    rw [hdraft, edited_eq, hstart, hdeclaration, hlink, hbinding]

end Draft

end ActionGraph
