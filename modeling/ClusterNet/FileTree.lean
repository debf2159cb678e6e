/-!
# Files

## Main definitions

* `FileEntry` — what lies at a path;
* `FileTree` — files and directories by their paths, with a directory to work in;
* `FileTree.entry` — what lies at a path that may go through `.` and `..`;
* `joinPath`, `isAbsolutePath` — paths as texts.
-/

namespace ClusterNet

/-- What lies at a path. -/
inductive FileEntry where
  /-- Nothing. -/
  | missing
  /-- A directory. -/
  | directory
  /-- A file with a content. -/
  | file (content : String)
deriving DecidableEq, Repr, Inhabited

namespace FileEntry

/-- The text in a file, if it can be read. -/
def content? : FileEntry → Option String
  | file content => some content
  | _ => none

/-- Whether there is anything. -/
def isThere : FileEntry → Bool
  | missing => false
  | _ => true

end FileEntry

/-! ### Paths -/

/-- Whether a path starts at the root. -/
def isAbsolutePath (path : String) : Bool := path.toList.head? == some '/'

/-- A path below another one. One that starts at the root stays as it is. -/
def joinPath (path below : String) : String :=
  if isAbsolutePath below || path.isEmpty then below
  else if path.toList.getLast? == some '/' then path ++ below
  else path ++ "/" ++ below

/-- The names in a path. -/
def pathNames (path : String) : List String := path.splitOn "/"

/-! ### Trees -/

/-- Files and directories by the names in their paths. -/
structure FileTree where
  /-- The files with their contents. -/
  files : List (List String × String) := []
  /-- Directories that may be empty. -/
  directories : List (List String) := []
  /-- The directory that paths start at unless they start at the root. -/
  workingDirectory : String := "/"
deriving Repr, Inhabited

namespace FileTree

/-- What lies at a place. A directory is where anything lies below. -/
def entryAt (t : FileTree) (place : List String) : FileEntry :=
  match t.files.lookup place with
  | some content => .file content
  | none =>
    if (t.files.map Prod.fst ++ t.directories).any place.isPrefixOf || place.isEmpty then .directory
    else .missing

/-- The place that names lead to from another place, if every step starts in a directory. -/
def walk (t : FileTree) : (place : List String) → (names : List String) → Option (List String)
  | place, [] => some place
  | place, name :: names =>
    if t.entryAt place == .directory then
      if name == "" || name == "." then walk t place names
      else if name == ".." then walk t place.dropLast names
      else walk t (place ++ [name]) names
    else none

/-- What lies at a path. -/
def entry (t : FileTree) (path : String) : FileEntry :=
  if path.isEmpty then .missing
  else
    match t.walk [] (pathNames (joinPath t.workingDirectory path)) with
    | some place => t.entryAt place
    | none => .missing

end FileTree

end ClusterNet
