import ActionGraph.Library

/-!
# Files in memory

A tree of files that is held in memory and answers like one on a disk. A path is followed part by
part; every part but the last has to be a directory. Empty parts and single points stay where they
are.
-/

namespace ActionGraph

/-- The files of a tree, each with the parts of its path, and the directories that are named. -/
structure FileTree where
  files : List (List String × List UInt8)
  directories : List (List String)

/-- What stands in a place of a tree. -/
inductive FileNode where
  | directory
  | file (bytes : List UInt8)

namespace FileTree

def parts (path : String) : List String :=
  (path.splitOn "/").filter fun part => part != "" && part != "."

/-- Whether the path goes on behind its last part, as into a directory. -/
def opensDirectory (path : String) : Bool :=
  path.endsWith "/" || path.endsWith "/."

/-- What stands at the place with these parts. -/
def node? (t : FileTree) (place : List String) : Option FileNode :=
  match t.files.lookup place with
  | some bytes => some (.file bytes)
  | none =>
    if place.isEmpty || (t.directories ++ t.files.map (·.1)).any (place.isPrefixOf ·) then
      some .directory
    else none

def nameLimit : Nat := 255

def pathLimit : Nat := 4095

/-- Where parts lead from the directory around the tree: to a directory further out, or to nothing
that can be seen. -/
def followOutside (parts : List String) : Except FileFault (List String × FileNode) :=
  if parts.all (· == "..") then .ok ([".."], .directory) else .error .notFound

/-- Follows parts from the place `here` on, to a place and what stands there. -/
def follow (t : FileTree) (here : List String) :
    List String → Except FileFault (List String × FileNode)
  | [] =>
    match t.node? here with
    | some node => .ok (here, node)
    | none => .error .notFound
  | part :: rest =>
    match t.node? here with
    | none => .error .notFound
    | some (.file _) => .error .notDirectory
    | some .directory =>
      if nameLimit < part.utf8ByteSize then .error .longName
      else if part = ".." then
        if here.isEmpty then followOutside rest else t.follow here.dropLast rest
      else t.follow (here ++ [part]) rest

/-- The place to which a path leads, and what stands there. Nothing outside of the tree can be seen
but directories around it. -/
def resolve (t : FileTree) (path : String) : Except FileFault (List String × FileNode) :=
  if path.contains '\x00' then .error .badName
  else if pathLimit < path.utf8ByteSize then .error .longName
  else if path.startsWith "/" then followOutside (parts path)
  else do
    match ← t.follow [] (parts path) with
    | (place, .file bytes) =>
      if opensDirectory path then .error .notDirectory else .ok (place, .file bytes)
    | directory => .ok directory

def read (t : FileTree) (path : String) : Except FileFault String := do
  match ← t.resolve path with
  | (_, .directory) => .error .isDirectory
  | (_, .file bytes) =>
    match String.fromUTF8? ⟨bytes.toArray⟩ with
    | some text => .ok text
    | none => .error .notText

/-- The names in the directory with these parts. -/
def namesIn (t : FileTree) (place : List String) : List String :=
  ((t.directories ++ t.files.map (·.1)).filterMap fun other =>
    if place.isPrefixOf other then (other.drop place.length).head? else none).eraseDups

/-- The path of a name in a directory. -/
def join (path name : String) : String :=
  if path.isEmpty || path.endsWith "/" then path ++ name else path ++ "/" ++ name

def list (t : FileTree) (path : String) : Except FileFault Listing := do
  match ← t.resolve path with
  | (_, .file _) => .error .notDirectory
  | (place, .directory) =>
    return (t.namesIn place).map fun name => (join path name, t.read (join path name))

end FileTree

end ActionGraph
