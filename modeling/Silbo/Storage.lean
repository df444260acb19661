import Silbo.Path
import Silbo.Text.Quoted

/-!
Systems that keep files, to the extent that a program writes a file to them. Anything that is asked
of a system may be refused.
-/
namespace Silbo

/-- Why a system does not do what is asked of it. -/
inductive Refusal where
  /-- What is wrong, as a number and in words, and the path that it is wrong with. -/
  | system (number : Nat) (text : String) (path : Option String)
  /-- No path has a null character in it. -/
  | nullCharacter
  deriving DecidableEq, Repr

namespace Refusal

def notFound (path : String) : Refusal := system 2 "No such file or directory" (some path)

def alreadyThere (path : String) : Refusal := system 17 "File exists" (some path)

def notFolder (path : String) : Refusal := system 20 "Not a directory" (some path)

def isFolder (path : String) : Refusal := system 21 "Is a directory" (some path)

def message : Refusal → String
  | system number text path =>
    "[Errno " ++ toString number ++ "] " ++ text ++
      (path.map fun path => ": " ++ Text.quoted path).getD ""
  | nullCharacter => "embedded null byte"

end Refusal

/-- What may be asked of a system. Paths without a slash in front are as seen from the folder that
the program runs in. -/
structure Storage (n : Type → Type) where
  /-- Makes a folder, and those above it, as far as there are none. -/
  makeFolders (path : String) : ExceptT Refusal n Unit
  /-- Makes a file that holds nothing, or takes from a file what it holds. -/
  create (path : String) : ExceptT Refusal n Unit
  /-- Adds bytes to a file. -/
  append (path : String) (bytes : List UInt8) : ExceptT Refusal n Unit

/-- Makes a file of some bytes and the folders on its path. -/
def Storage.save [Monad n] (t : Storage n) (folder path : String) (bytes : List UInt8) :
    ExceptT Refusal n Unit := do
  t.makeFolders (Path.folderOf (Path.whole folder path))
  t.create path
  t.append path bytes

end Silbo
