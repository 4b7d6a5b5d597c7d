import LiveConfig.Text.Utf8
import LiveConfig.Text.Pieces

/-!
Files, as far as they are read: what stands under a path, or why it cannot be read.  A relative path
starts from the directory that the program runs in, but it may be looked for in the directories
above as well.
-/

namespace LiveConfig

/-- Why a file cannot be read. -/
inductive FileFault where
  | missing
  | directory
  | notDirectory
  /-- There is a file, but it is not to be read. -/
  | unreadable (message : String)
  /-- The path does not lead anywhere for another reason. -/
  | other (message : String)
deriving DecidableEq

/-- The message of a fault. -/
def FileFault.message : FileFault → String
  | missing => "No such file or directory (os error 2)"
  | directory => "Is a directory (os error 21)"
  | notDirectory => "Not a directory (os error 20)"
  | unreadable m => m
  | other m => m

/-- Files by their paths. -/
structure Files where
  read : String → Except FileFault Bytes
  /-- The names of the directories from the root down to the one that paths are relative to. -/
  here : List String

namespace Files

/-- Whether a file stands under a path, be it one that is not to be read. -/
def hasFile (f : Files) (path : String) : Bool :=
  match f.read path with
  | .ok _ => true
  | .error (.unreadable _) => true
  | .error _ => false

/-- Whether something stands under a path, be it a directory. -/
def contains (f : Files) (path : String) : Bool :=
  match f.read path with
  | .error .directory => true
  | _ => f.hasFile path

/-- Files of which nothing is known but those in a list. -/
def ofList (known : List (String × Except FileFault Bytes)) : Files where
  read path := (known.lookup path).getD (.error .missing)
  here := []

end Files

/-! ### Places -/

/-- The names in a path; those that lead nowhere are left out. -/
def pathNames (path : String) : List String :=
  (Text.pieces '/' path).filter fun name => name ≠ "" ∧ name ≠ "."

/-- A place that a path may lead to. -/
structure Location where
  /-- The path that it is read under. -/
  path : String
  /-- The path from the root. -/
  whole : String

namespace Location

/-- Where a path may lead: from the root, or else from `here` and from the directories above. -/
def candidates (here : List String) (path : String) : List Location :=
  if path.toList.head? = some '/' then [⟨path, path⟩]
  else (List.range (here.length + 1)).map fun up =>
    { path := String.join (List.replicate up "../") ++ path
      whole := "/" ++ "/".intercalate (here.take (here.length - up) ++ [path]) }

/-- What follows in two lists of names after they have parted. -/
def partWays : List String → List String → List String × List String
  | a :: as, b :: bs => if a = b then partWays as bs else (a :: as, b :: bs)
  | as, bs => (as, bs)

/-- A place as it is called from `here`: by the way there, if that takes fewer steps than the one
from the root. -/
def describe (here : List String) (p : Location) : String :=
  let names := pathNames p.whole
  let (onward, back) := partWays names here
  let way := back.map (fun _ => "..") ++ onward
  if way.length ≤ names.length then "/".intercalate way else p.whole

end Location

/-! ### Folders -/

/-- A folder with everything in it: paths of files and directories, as lists of names. -/
structure Folder where
  files : List (List String × Bytes)
  directories : List (List String)

namespace Folder

/-- The folder with the given files; a name that ends in a slash is one of a directory. -/
def ofNames (named : List (String × Bytes)) : Folder :=
  let path := fun (name : String) => (Text.pieces '/' name).filter (· ≠ "")
  let isDirectory := fun (name : String) => name.endsWith "/"
  let files := (named.filter fun e => !isDirectory e.1).map fun e => (path e.1, e.2)
  let inner := (named.filter fun e => isDirectory e.1).map fun e => path e.1
  { files, directories := inner ++ files.map (·.1.dropLast) }

/-- Whether a path is one of a directory: the folder itself, or above something in it. -/
def isDirectory (f : Folder) (path : List String) : Bool :=
  path.isEmpty || f.directories.any path.isPrefixOf

/-- Follow names from a directory of the folder. -/
def follow (f : Folder) : List String → List String → Except FileFault Bytes
  | at_, [] => if f.isDirectory at_ then .error .directory else .error .missing
  | at_, name :: names =>
    if name = "" ∨ name = "." then f.follow at_ names
    else if name = ".." then
      match at_ with
      | [] => .error .missing
      | _ => f.follow at_.dropLast names
    else
      let next := at_ ++ [name]
      match f.files.lookup next with
      | some content => if names.isEmpty then .ok content else .error .notDirectory
      | none => if f.isDirectory next then f.follow next names else .error .missing

/-- The files of a folder by their paths relative to it.  Nothing is known outside of it. -/
def toFiles (f : Folder) : Files where
  here := []
  read path :=
    if path.isEmpty then .error .missing
    else if path.startsWith "/" then
      if (Text.pieces '/' path).all (·.isEmpty) then .error .directory else .error .missing
    else f.follow [] (Text.pieces '/' path)

end Folder

end LiveConfig
