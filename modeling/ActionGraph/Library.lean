import ActionGraph.Asset.Form

/-!
# Libraries

A library keeps assets under the names of their flows; of two with the same name the later one
stays. The assets of a directory are loaded from its files with the extension `json`. A file that
holds no asset is passed over, and someone who traces the program is told why.
-/

namespace ActionGraph

/-- Assets under the names of their flows, in the order of the names. -/
structure Library where
  assets : List (String × Asset)

/-- What a directory holds: paths, and what comes of reading each. -/
abbrev Listing := List (String × Except FileFault String)

/-- What comes of loading assets into a library: how many were loaded, and what is told of it. -/
structure Loading where
  library : Library
  loaded : Nat
  notices : List Notice

namespace Library

def empty : Library := ⟨[]⟩

def register (l : Library) (asset : Asset) : Library := ⟨Table.insert l.assets asset.name asset⟩

def get? (l : Library) (name : String) : Option Asset := l.assets.lookup name

def names (l : Library) : List String := l.assets.map (·.1)

def size (l : Library) : Nat := l.assets.length

/-- The last part of a path. -/
def fileName (path : String) : List Char := (path.toList.reverse.takeWhile (· != '/')).reverse

/-- What stands behind the last point of a file name, if anything stands in front of it. -/
def extension? (name : List Char) : Option (List Char) :=
  let backwards := name.reverse
  let stem := (backwards.dropWhile (· != '.')).drop 1
  if stem.isEmpty || name == ['.', '.'] then none
  else some (backwards.takeWhile (· != '.')).reverse

def isAssetPath (path : String) : Bool := extension? (fileName path) == some "json".toList

def loadFile (content : Except FileFault String) : Except FlowFault Asset := do
  Asset.ofText (← content.mapError .file)

/-- What is told of a file that is passed over. -/
def skipNotice (path : String) (e : FlowFault) : Notice :=
  ⟨.error, "skipping flow asset", [("error", e.message), ("path", path)]⟩

def loadEntry (l : Loading) (path : String) (content : Except FileFault String) : Loading :=
  if isAssetPath path then
    match loadFile content with
    | .ok asset =>
      ⟨l.library.register asset, l.loaded + 1, l.notices ++ [asset.loadedNotice]⟩
    | .error e => { l with notices := l.notices ++ [skipNotice path e] }
  else l

def loadListing (l : Library) (listing : Listing) : Loading :=
  listing.foldl (fun loading (path, content) => loadEntry loading path content) ⟨l, 0, []⟩

end Library

end ActionGraph
