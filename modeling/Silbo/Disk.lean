import Silbo.Storage

/-!
A disk: folders and files under their names, without owners, links or limits. It is a system that
keeps files, for programs that run in one of its folders.
-/
namespace Silbo

inductive Node where
  | folder
  | file (bytes : List UInt8)
  deriving DecidableEq, Repr

/-- What there is at some places; a place is given by the names on the way there from the root. The
node that was put last at a place comes first. -/
structure Disk where
  nodes : List (List String × Node)
  deriving DecidableEq, Repr

namespace Disk

/-- What stands at a place. The root is a folder. -/
def node? (d : Disk) (place : List String) : Option Node :=
  if place.isEmpty then some .folder else d.nodes.lookup place

def put (d : Disk) (place : List String) (x : Node) : Disk := ⟨(place, x) :: d.nodes⟩

/-- What is done on a disk. What has been done before a refusal stays done. -/
abbrev Act := ExceptT Refusal (StateM Disk)

def hasNull (path : String) : Bool := path.toList.contains '\x00'

def placeText (place : List String) : String := "/" ++ "/".intercalate place

/-- Makes the folders on the way from a folder. A file on the way is in the way of what is to be
below it. -/
def makeFrom (place : List String) : List String → Act Unit
  | [] => pure ()
  | name :: rest => do
    if hasNull name then throw .nullCharacter
    let next := place ++ [name]
    match (← get).node? next, rest with
    | some .folder, _ => makeFrom next rest
    | some (.file _), [] => throw (.alreadyThere (placeText next))
    | some (.file _), below :: _ => throw (.notFolder (placeText (next ++ [below])))
    | none, _ =>
      modify (·.put next .folder)
      makeFrom next rest

/-- Follows names from a folder to a folder. All of them have to lead to folders. -/
def follow (path : String) (place : List String) : List String → Act (List String)
  | [] => pure place
  | name :: rest => do
    let next := Path.enter place name
    match (← get).node? next with
    | some .folder => follow path next rest
    | some (.file _) => throw (.notFolder path)
    | none => throw (.notFound path)

/-- The names of a path, and whether it has the form of a path to a folder: it ends in a slash, in a
dot or in two. The last name that there is may be the name of a file. -/
def namesOf (path : String) : List String × Bool :=
  let names := Path.names path
  let named := (names.reverse.dropWhile (·.isEmpty)).reverse
  (named, named.length < names.length || named.getLast? == some "." || named.getLast? == some "..")

/-- The place of the file that a path leads to, whether there is one already or not. -/
def locate (folder : List String) (path : String) : Act (List String) := do
  if hasNull path then throw .nullCharacter
  if path.isEmpty then throw (.notFound path)
  let (names, isFolder) := namesOf path
  let above ← follow path (if Path.beginsAtRoot path then [] else folder) names.dropLast
  if isFolder then throw (.isFolder path)
  let place := above ++ names.getLast?.toList
  if (← get).node? place == some .folder then throw (.isFolder path)
  pure place

def storage (folder : List String) : Storage (StateM Disk) where
  makeFolders path := makeFrom [] ((Path.names path).filter (!·.isEmpty))
  create path := do modify (·.put (← locate folder path) (.file []))
  append path bytes := do
    let place ← locate folder path
    modify fun d =>
      match d.node? place with
      | some (.file held) => d.put place (.file (held ++ bytes))
      | _ => d.put place (.file bytes)

def placeOf (folder : String) : List String := (Path.names folder).foldl Path.enter []

/-- A disk with nothing on it but a folder, in the folders above it. -/
def blank (folder : List String) : Disk :=
  ⟨(List.range folder.length).map fun i => (folder.take (i + 1), .folder)⟩

end Disk

end Silbo
