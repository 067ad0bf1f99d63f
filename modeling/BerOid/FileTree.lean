/-!
# File trees

The files a run can see, by path from the working directory, and the folders that hold them. A path is the list of its names; the
path of a text that starts at the root begins with the empty name. Looking up a text walks name by name through existing folders.
-/

namespace BerOid

/-- The names of a path, from the working directory on. -/
abbrev Path := List String

namespace Path

/-- The folder that `..` leads to; above the working directory nothing is known, so the step is kept. -/
def up (here : Path) : Path :=
  match here.getLast? with
  | some name => if name = ".." then here ++ [".."] else if here = [""] then here else here.dropLast
  | none => [".."]

/-- The names in a text, as they stand between its slashes. -/
def names (text : String) : List String := (text.toList.splitOn '/').map String.ofList

/-- One name further: the empty name and `.` stay, `..` goes up. -/
def step (here : Path) (name : String) : Path :=
  if name = "" ∨ name = "." then here else if name = ".." then here.up else here ++ [name]

/-- Whether a text starts at the root: it begins with a slash. -/
def isRooted (text : String) : Bool := text.toList.head? == some '/'

/-- Where a text starts: at the root or in the working directory. -/
def start (text : String) : Path := if isRooted text then [""] else []

/-- The path of a text, without regard to what exists. -/
def ofText (text : String) : Path := (names text).foldl step (start text)

/-- The text of a path. -/
def toText (path : Path) : String := if path = [] then "." else if path = [""] then "/" else "/".intercalate path

/-- The path of a text that is looked up in a folder, unless it starts at the root itself. -/
def within (folder : Path) (text : String) : Path :=
  if isRooted text then ofText text else (names text).foldl step folder

/-- The path with a number behind its last name. -/
def numbered (path : Path) (n : Nat) : Path :=
  path.dropLast ++ [path.getLast?.getD "" ++ "." ++ toString n]

end Path

/-- Files with their contents, in the order in which they were made, and folders. -/
structure FileTree where
  files : List (Path × String) := []
  folders : List Path := []
  deriving DecidableEq

namespace FileTree

/-- The content of a file. -/
def content? (t : FileTree) (path : Path) : Option String := t.files.lookup path

/-- Whether a path is a file. -/
def isFile (t : FileTree) (path : Path) : Bool := (t.content? path).isSome

/-- Whether a path is a folder: the working directory, the root, what lies above, and every folder that was made. -/
def isFolder (t : FileTree) (path : Path) : Bool :=
  path == [] || path == [""] || path.all (· == "..") || t.folders.contains path

/-- The paths on the way to a path, itself included. -/
def stations (path : Path) : List Path := (List.range path.length).map fun n => path.take (n + 1)

/-- The tree with a path and everything on the way to it as folders. -/
def addFolders (t : FileTree) (path : Path) : FileTree :=
  { t with folders := t.folders ++ (stations path).filter fun p => !t.isFolder p }

/-- The tree with a content at a path; a file that is there keeps its place. -/
def put (t : FileTree) (path : Path) (content : String) : FileTree :=
  if t.isFile path then { t with files := t.files.map fun (p, c) => (p, if p == path then content else c) }
  else { t with files := t.files ++ [(path, content)] }

/-- The tree after a file was written, its folders made if needed. -/
def write (t : FileTree) (path : Path) (content : String) : FileTree := (t.addFolders path.dropLast).put path content

/-- The tree without a file. Its folder stays. -/
def remove (t : FileTree) (path : Path) : FileTree := { t with files := t.files.filter (·.1 != path) }

/-- The tree after a file was moved over another path; nothing happens if there is no such file. -/
def move (t : FileTree) (source target : Path) : FileTree :=
  match t.content? source with
  | some content => ((t.remove target).remove source).put target content
  | none => t

/-- Walks names from a folder on; every name but the last must lead to a folder. -/
def walk (t : FileTree) (here : Path) : List String → Option Path
  | [] => some here
  | name :: rest => if t.isFolder here then walk t (here.step name) rest else none

/-- Whether a text leads to a file or a folder. -/
def isPresent (t : FileTree) (text : String) : Bool :=
  text != "" && ((t.walk (Path.start text) (Path.names text)).any fun p => t.isFile p || t.isFolder p)

end FileTree

end BerOid
