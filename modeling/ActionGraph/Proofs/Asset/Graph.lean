import ActionGraph.Library
import ActionGraph.Proofs.Asset.Drafting

/-!
# The graph of a built asset

In an asset that was built, every link leads to one of its actions. A draft is refused unless the
target of each of its links is declared, and an action has no links but those of the draft. It makes
no difference whether the draft was put together by hand or read from a text, a value or a file.
-/

namespace ActionGraph

namespace Asset

def IsClosed (a : Asset) : Prop :=
  ∀ d ∈ a.actions, ∀ link ∈ d.links, (a.find? link.target).isSome

theorem IsClosed.isSome_find? {a : Asset} (hclosed : a.IsClosed) {id : ActionId} {d : Descriptor}
    (hd : a.find? id = some d) {link : Link} (hlink : link ∈ d.links) :
    (a.find? link.target).isSome := by
  have hmem : d ∈ a.actions := Asset.mem_of_find? hd
  exact hclosed d hmem link hlink

end Asset

namespace Draft

theorem isClosed_of_build {draft : Draft} {asset : Asset} (h : draft.build = .ok asset) :
    asset.IsClosed := by
  obtain ⟨hsound, -, hactions, -, -⟩ := isSound_of_build h
  intro d hd link hlink
  rw [hactions] at hd
  obtain ⟨action, -, rfl⟩ := List.mem_map.1 hd
  have hdrawn : link ∈ linksFrom action.id draft.links := by
    simpa [linked, extended, unlinked] using hlink
  obtain ⟨entry, hentry, hsource⟩ := List.mem_filterMap.1 hdrawn
  have htarget : entry.2 = link := by
    split at hsource
    · exact Option.some.inj hsource
    · cases hsource
  rw [Asset.isSome_find?_iff, hactions, map_id_linked, ← htarget]
  exact (hsound.links entry hentry).2

end Draft

namespace Asset

/-- The ways in which an asset is built. -/
inductive IsBuilt : Asset → Prop
  | ofDraft {draft : Draft} {asset : Asset} (h : draft.build = .ok asset) : IsBuilt asset
  | ofText {text : String} {asset : Asset} (h : ofText text = .ok asset) : IsBuilt asset
  | ofJson {value : Json} {asset : Asset} (h : ofJson value = .ok asset) : IsBuilt asset
  | ofFile {content : Except FileFault String} {asset : Asset}
      (h : Library.loadFile content = .ok asset) : IsBuilt asset

/-- However an asset is built, a draft is judged. -/
theorem IsBuilt.exists_draft {asset : Asset} (hbuilt : asset.IsBuilt) :
    ∃ draft : Draft, draft.build = .ok asset := by
  have hform {form : AssetForm} (h : Asset.ofForm form = .ok asset) :
      ∃ draft : Draft, draft.build = .ok asset := ⟨form.toDraft, h⟩
  have htext {text : String} (h : Asset.ofText text = .ok asset) :
      ∃ draft : Draft, draft.build = .ok asset := by
    obtain ⟨form, -, h⟩ := bind_eq_ok_iff.1 h
    exact hform h
  cases hbuilt with
  | ofDraft h => exact ⟨_, h⟩
  | ofText h => exact htext h
  | ofJson h =>
    obtain ⟨form, -, h⟩ := bind_eq_ok_iff.1 h
    exact hform h
  | ofFile h =>
    obtain ⟨text, -, h⟩ := bind_eq_ok_iff.1 h
    exact htext h

/-- **However an asset is built, its links lead to its actions.** -/
theorem IsBuilt.isClosed {asset : Asset} (hbuilt : asset.IsBuilt) : asset.IsClosed := by
  obtain ⟨draft, hbuild⟩ := hbuilt.exists_draft
  exact Draft.isClosed_of_build hbuild

end Asset

end ActionGraph
