import BerOid.FileTree

/-!
# The system

The system on which files are kept has a say in more than the files show. It leads a text to the path it stands for, through links and
with the folder that is the working one, or finds none; it refuses folders and files for reasons of its own, such as names that are too
long or a lack of rights; and some paths are devices. A system of which nothing of this is known leads every text to the path that is
written and refuses nothing.
-/

namespace BerOid

/-- What a path that is no ordinary file leads to. -/
inductive Device where
  | output
  | errors
  | other
  deriving DecidableEq

/-- The words in which the system refuses something. -/
structure Refusal where
  message : String
  deriving DecidableEq

/-- A system. -/
structure System where
  /-- The path that a text stands for. -/
  resolve : String → Except Refusal Path := fun text => .ok (Path.ofText text)
  /-- Why a folder cannot be made, if the files allow it. -/
  refusesFolder : FileTree → Path → Option Refusal := fun _ _ => none
  /-- Why a file cannot be opened, if the files allow it. -/
  refusesFile : FileTree → Path → Option Refusal := fun _ _ => none
  /-- What a path leads to that is no ordinary file. -/
  device? : Path → Option Device := fun _ => none

end BerOid
