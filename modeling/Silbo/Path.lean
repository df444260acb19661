/-! File paths: names between slashes. -/
namespace Silbo.Path

def split : List Char → List (List Char)
  | [] => [[]]
  | c :: rest => if c = '/' then [] :: split rest else (split rest).modifyHead (c :: ·)

/-- The names of a path; there is an empty one before a slash in front, behind a slash at the end and
between two slashes. -/
def names (path : String) : List String := (split path.toList).map String.ofList

def beginsAtRoot (path : String) : Bool := path.toList.head? == some '/'

/-- A path as seen from a folder; one that begins with a slash stands for itself. -/
def join (folder path : String) : String :=
  if beginsAtRoot path || folder.isEmpty then path
  else if folder.toList.getLast? == some '/' then folder ++ path
  else folder ++ "/" ++ path

/-- Goes on from a folder, given by its names: two dots leave it, and one dot or no name at all
stays there. -/
def enter (names : List String) (name : String) : List String :=
  if name.isEmpty || name == "." then names
  else if name == ".." then names.dropLast
  else names ++ [name]

/-- The slashes that a whole path begins with: one, or exactly two if there are two. -/
def root (path : String) : String :=
  match path.toList with
  | '/' :: '/' :: '/' :: _ => "/"
  | '/' :: '/' :: _ => "//"
  | _ => "/"

/-- The shortest path from the root to what a path means in a folder. -/
def whole (folder path : String) : String :=
  let path := join folder path
  root path ++ "/".intercalate ((names path).foldl enter [])

def folderOf (path : String) : String :=
  root path ++ "/".intercalate (((names path).foldl enter []).dropLast)

end Silbo.Path
