import ActionGraph.Library
import ActionGraph.Proofs.Table
import Mathlib.Data.List.Induction
import Mathlib.Data.List.Nodup
import Mathlib.Data.List.TakeWhile

/-!
# Loading a directory

A directory is loaded entry by entry. An entry that is no file to load, or holds no asset, leaves
the library as it is, so loading a directory comes to registering the assets in it one after the
other (`loadListing_eq`). Of two assets with the same name the later one stays. The order in which a
directory lists its entries therefore does not matter if the names of the assets in it are distinct.
-/

namespace ActionGraph.Library

variable {path name : String} {content : Except FileFault String} {asset : Asset}

/-! ### What an entry holds -/

theorem exists_folder (path : String) : ∃ folder, path.toList = folder ++ fileName path := by
  refine ⟨(path.toList.reverse.dropWhile (· != '/')).reverse, ?_⟩
  rw [fileName, ← List.reverse_append, List.takeWhile_append_dropWhile, List.reverse_reverse]

theorem ne_slash_of_mem_fileName {c : Char} (h : c ∈ fileName path) : c ≠ '/' := by
  simpa using List.mem_takeWhile_imp (List.mem_reverse.1 h)

/-- Something stands in front of the point before an extension. -/
theorem exists_stem {file extension : List Char} (h : extension? file = some extension) :
    ∃ front c, file = front ++ c :: '.' :: extension := by
  have hparts := List.takeWhile_append_dropWhile (p := (· != '.')) (l := file.reverse)
  have hpoint := List.head?_dropWhile_not (· != '.') file.reverse
  simp only [extension?] at h
  split at h
  · cases h
  · rename_i hstem
    obtain rfl := Option.some.inj h
    rcases hrest : file.reverse.dropWhile (· != '.') with _ | ⟨point, _ | ⟨c, front⟩⟩
    · simp [hrest] at hstem
    · simp [hrest] at hstem
    · obtain rfl : point = '.' := by simpa [hrest] using hpoint
      refine ⟨front.reverse, c, ?_⟩
      rw [hrest] at hparts
      rw [← List.reverse_inj]
      refine hparts.symm.trans ?_
      simp

/-- A path to load ends in `.json`, with something in front of the point that is part of the file
name. -/
theorem isAssetPath_iff : isAssetPath path = true ↔
    ∃ front c, c ≠ '/' ∧ path.toList = front ++ c :: ".json".toList := by
  have hending : ".json".toList = '.' :: "json".toList := rfl
  rw [isAssetPath, beq_iff_eq]
  constructor
  · intro h
    obtain ⟨folder, hpath⟩ := exists_folder path
    obtain ⟨front, c, hfile⟩ := exists_stem h
    have hmem : c ∈ fileName path := by
      rw [hfile]
      exact List.mem_append_right _ List.mem_cons_self
    refine ⟨folder ++ front, c, ne_slash_of_mem_fileName hmem, ?_⟩
    rw [hpath, hfile, hending, List.append_assoc]
  · rintro ⟨front, c, hc, hpath⟩
    have hback : path.toList.reverse = ['n', 'o', 's', 'j', '.', c] ++ front.reverse := by
      simp [hpath]
    have hlong : (front.reverse.takeWhile (· != '/')).reverse ++ [c, '.', 'j', 's', 'o', 'n']
        ≠ ['.', '.'] := by
      intro hsame
      simpa using congrArg List.length hsame
    simpa [extension?, fileName, hback, hc] using hlong

/-- The asset that an entry holds, if it is a file to load and holds one. -/
def assetIn? (entry : String × Except FileFault String) : Option Asset :=
  if isAssetPath entry.1 then (loadFile entry.2).toOption else none

theorem assetIn?_eq_some_iff : assetIn? (path, content) = some asset ↔
    isAssetPath path = true ∧ loadFile content = .ok asset := by
  rw [assetIn?]
  by_cases hpath : isAssetPath path = true
  · rw [if_pos hpath, and_iff_right hpath]
    cases loadFile content <;> simp [Except.toOption]
  · simp [hpath]

/-- The assets that a directory holds, in the order in which it lists them. -/
def assetsIn (listing : Listing) : List Asset := listing.filterMap assetIn?

/-- What comes of loading an entry, apart from what is told of it. -/
theorem loadEntry_eq (loading : Loading) (path : String) (content : Except FileFault String) :
    (loadEntry loading path content).library
        = (assetIn? (path, content)).toList.foldl register loading.library ∧
      (loadEntry loading path content).loaded
        = loading.loaded + (assetIn? (path, content)).toList.length := by
  rw [loadEntry, assetIn?]
  split
  · cases loadFile content <;> exact ⟨rfl, rfl⟩
  · exact ⟨rfl, rfl⟩

theorem foldl_loadEntry (loading : Loading) (listing : Listing) :
    let loaded := listing.foldl (fun loading entry => loadEntry loading entry.1 entry.2) loading
    loaded.library = (assetsIn listing).foldl register loading.library ∧
      loaded.loaded = loading.loaded + (assetsIn listing).length := by
  induction listing generalizing loading with
  | nil => exact ⟨rfl, rfl⟩
  | cons entry rest ih =>
    obtain ⟨hlibrary, hloaded⟩ := loadEntry_eq loading entry.1 entry.2
    obtain ⟨hlibraryRest, hloadedRest⟩ := ih (loadEntry loading entry.1 entry.2)
    have hassets : assetsIn (entry :: rest) = (assetIn? entry).toList ++ assetsIn rest := by
      rw [assetsIn, List.filterMap_cons]
      cases assetIn? entry <;> rfl
    rw [hassets, List.foldl_append, List.length_append, ← Nat.add_assoc, List.foldl_cons]
    rw [hlibrary] at hlibraryRest
    rw [hloaded] at hloadedRest
    exact ⟨hlibraryRest, hloadedRest⟩

theorem loadListing_eq (l : Library) (listing : Listing) :
    (l.loadListing listing).library = (assetsIn listing).foldl register l ∧
      (l.loadListing listing).loaded = (assetsIn listing).length := by
  have h := foldl_loadEntry ⟨l, 0, []⟩ listing
  rw [Nat.zero_add] at h
  exact h

/-! ### Registering -/

theorem get?_register (l : Library) (asset : Asset) (name : String) :
    (l.register asset).get? name = if name = asset.name then some asset else l.get? name :=
  Table.lookup_insert ..

theorem register_comm (l : Library) {asset other : Asset} (hne : asset.name ≠ other.name) :
    (l.register asset).register other = (l.register other).register asset :=
  congrArg Library.mk (Table.insert_comm hne asset other)

/-- What is registered last under a name is found there. -/
theorem get?_foldl_register (l : Library) (assets : List Asset) (name : String) :
    (assets.foldl register l).get? name
      = (assets.filter (·.name == name)).getLast?.or (l.get? name) := by
  induction assets using List.reverseRecOn with
  | nil => rfl
  | append_singleton assets last ih =>
    rw [List.foldl_append, List.foldl_cons, List.foldl_nil, get?_register, ih, List.filter_append]
    by_cases hname : name = last.name
    · simp [hname]
    · simp [hname, Ne.symm hname]

theorem foldl_register_perm (l : Library) {assets others : List Asset} (hperm : assets.Perm others)
    (hdistinct : (assets.map Asset.name).Nodup) :
    assets.foldl register l = others.foldl register l := by
  refine hperm.foldl_eq' (fun asset hasset other hother l => ?_) l
  by_cases hname : asset.name = other.name
  · rw [List.inj_on_of_nodup_map hdistinct hasset hother hname]
  · exact register_comm l hname

/-! ### Every order of a directory -/

/-- **A directory is loaded in any order.** An entry counts that has the extension `json` and holds
an asset, and every other entry might as well not be there. A name leads to the asset that was
loaded last under it, or to the one that was there before. In whatever order the directory lists its
entries, as many are loaded; and the library is the same if the names of the assets are distinct. -/
theorem directories_load_in_any_order (l : Library) (listing : Listing) :
    let loading := l.loadListing listing
    (∀ path content asset, assetIn? (path, content) = some asset ↔
      (∃ front c, c ≠ '/' ∧ path.toList = front ++ c :: ".json".toList) ∧
        loadFile content = .ok asset) ∧
    loading.loaded = listing.countP (fun entry => (assetIn? entry).isSome) ∧
    (∀ before entry behind, listing = before ++ entry :: behind → assetIn? entry = none →
      (l.loadListing (before ++ behind)).library = loading.library ∧
        (l.loadListing (before ++ behind)).loaded = loading.loaded) ∧
    (∀ name, loading.library.get? name
      = ((assetsIn listing).filter (·.name == name)).getLast?.or (l.get? name)) ∧
    ∀ other : Listing, other.Perm listing →
      (l.loadListing other).loaded = loading.loaded ∧
        (((assetsIn listing).map Asset.name).Nodup →
          (l.loadListing other).library = loading.library) := by
  intro loading
  obtain ⟨hlibrary, hloaded⟩ : loading.library = _ ∧ loading.loaded = _ := loadListing_eq l listing
  refine ⟨fun path content asset => ?_, ?_, fun before entry behind hlisting hnone => ?_,
    fun name => ?_, fun other hperm => ⟨?_, fun hdistinct => ?_⟩⟩
  · rw [assetIn?_eq_some_iff, isAssetPath_iff]
  · rw [hloaded, assetsIn, List.length_filterMap_eq_countP]
  · have hassets : assetsIn (before ++ behind) = assetsIn listing := by
      rw [hlisting, assetsIn, assetsIn, List.filterMap_append, List.filterMap_append,
        List.filterMap_cons_none hnone]
    rw [(loadListing_eq l _).1, (loadListing_eq l _).2, hassets, hlibrary, hloaded]
    exact ⟨rfl, rfl⟩
  · rw [hlibrary, get?_foldl_register]
  · rw [hloaded, (loadListing_eq l other).2]
    exact (hperm.filterMap assetIn?).length_eq
  · rw [hlibrary, (loadListing_eq l other).1]
    exact (foldl_register_perm l (hperm.filterMap assetIn?).symm hdistinct).symm

/-- The text of an asset with one action. -/
def leaflet (name : String) : String :=
  "\x7b\"name\": \"" ++ name ++ "\", \"actions\": [\x7b\"id\": \"page\", \"type\": \"end\"\x7d]\x7d"

/-- A directory with two assets, a file of another kind, a torn file and another directory. -/
def shelf : Listing :=
  [("shelf/second.json", .ok (leaflet "second")), ("shelf/notes.txt", .ok (leaflet "notes")),
    ("shelf/torn.json", .ok ""), ("shelf/old.json", .error .isDirectory),
    ("shelf/first.json", .ok (leaflet "first"))]

theorem directories_load_in_any_order_for_shelf :
    (empty.loadListing shelf).loaded = 2 ∧ (empty.loadListing shelf.reverse).loaded = 2 ∧
      (empty.loadListing shelf.reverse).library = (empty.loadListing shelf).library ∧
      (empty.loadListing shelf).library.names = ["first", "second"] := by
  obtain ⟨-, -, -, -, horder⟩ := directories_load_in_any_order empty shelf
  obtain ⟨hcount, hsame⟩ := horder shelf.reverse shelf.reverse_perm
  have hdistinct : ((assetsIn shelf).map Asset.name).Nodup := by decide +kernel
  have hloaded : (empty.loadListing shelf).loaded = 2 := by decide +kernel
  exact ⟨hloaded, hcount.trans hloaded, hsame hdistinct, by decide +kernel⟩

end ActionGraph.Library
