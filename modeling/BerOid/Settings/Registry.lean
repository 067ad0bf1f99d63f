import BerOid.Settings.Options

/-!
# The registry

A program has one configuration at a time. The first one made after a reset chooses its file and is the one that every later request
gets, until the next reset; configurations made before stay usable. Whether the file exists is decided when the configuration is made;
what it says is read at the first access, and again on a reload. A configuration whose file is missing stays unfinished, and the next
request tries to finish it.
-/

namespace BerOid

/-- A configuration: the file it reads, if any, and the settings once they are loaded. -/
structure Configuration where
  file : Option String
  loaded : Option Settings := none

namespace Configuration

/-- The name of the settings file that is looked for when no other is asked for. -/
def defaultFile : String := "oid_codec.yaml"

/-- The text of a path whose file is missing. -/
structure MissingFile where
  path : String
  deriving DecidableEq

/-- The wording for a missing file. -/
def MissingFile.message (e : MissingFile) : String := "Config file " ++ e.path ++ " not found"

/-- The files that a path can lead to, the first choice first: the default file is looked for in the folder `data` too. -/
def candidates (path : String) : List String := if path = defaultFile then ["data/" ++ defaultFile, path] else [path]

/-- The file for a path, the first of its candidates that is there. Only the default file may be missing. -/
def chooseFile (files : FileTree) (path : String) : Except MissingFile (Option String) :=
  match (candidates path).find? files.isPresent with
  | some file => .ok (some file)
  | none => if path = defaultFile then .ok none else .error ⟨path⟩

/-- What an access to an unfinished configuration comes to. -/
def unfinishedFault : Settings.ReaderFault := ⟨"'CodecConfig' object has no attribute 'settings'", false⟩

/-- The settings as they are now, which stay loaded. If they cannot be read the next access tries again. -/
def access (c : Configuration) (read : Settings.Reader) (files : FileTree) (env : Environment) :
    Except Settings.ReaderFault Settings × Configuration :=
  match c.loaded with
  | some s => (.ok s, c)
  | none => match read files env c.file with
    | .error fault => (.error fault, c)
    | .ok s => (.ok s, { c with loaded := some s })

/-- The configuration with its settings loaded anew. -/
def reload (c : Configuration) (read : Settings.Reader) (files : FileTree) (env : Environment) :
    Except Settings.ReaderFault Configuration :=
  (read files env c.file).map fun s => { c with loaded := some s }

end Configuration

/-- Every configuration begun so far, `none` for one whose file was missing; which of them is the current one; and whether that one
is finished. -/
structure Registry where
  slots : List (Option Configuration) := []
  current : Option Nat := none
  initialised : Bool := false

namespace Registry

/-- The place of the current configuration, begun if there is none. -/
def ensureCurrent (r : Registry) : Nat × Registry :=
  match r.current with
  | some place => (place, r)
  | none => (r.slots.length, ⟨r.slots ++ [none], some r.slots.length, false⟩)

/-- Gives the place of the current configuration, finishing it with the file of a path if it is unfinished. -/
def request (r : Registry) (files : FileTree) (path : String) : Except Configuration.MissingFile Nat × Registry :=
  let (place, r) := r.ensureCurrent
  if r.initialised then (.ok place, r)
  else match Configuration.chooseFile files path with
    | .error e => (.error e, r)
    | .ok file => (.ok place, { r with slots := r.slots.set place (some { file }), initialised := true })

/-- Gives up the current configuration. -/
def reset (r : Registry) : Registry := { r with current := none, initialised := false }

/-- The configuration at a place. -/
def configuration? (r : Registry) (place : Nat) : Option Configuration := (r.slots[place]?).join

/-- The registry with another configuration at a place. -/
def update (r : Registry) (place : Nat) (c : Configuration) : Registry := { r with slots := r.slots.set place (some c) }

/-- Why a request gives no configuration: its file is missing, or it has no path to look for. -/
inductive RequestFault where
  | missing (e : Configuration.MissingFile)
  | noPath
  deriving DecidableEq

/-- A request with a path or without one. Only a configuration that is finished is given without a path. -/
def requestFor (r : Registry) (files : FileTree) (path : Option String) : Except RequestFault Nat × Registry :=
  match path with
  | some path =>
    let (result, r) := r.request files path
    (result.mapError .missing, r)
  | none =>
    let (place, r) := r.ensureCurrent
    (if r.initialised then .ok place else .error .noPath, r)

/-- The settings of the configuration at a place, which stay loaded. -/
def settingsAt (r : Registry) (place : Nat) (read : Settings.Reader) (files : FileTree) (env : Environment) :
    Except Settings.ReaderFault Settings × Registry :=
  match r.configuration? place with
  | none => (.error Configuration.unfinishedFault, r)
  | some c =>
    let (settings, c) := c.access read files env
    (settings, r.update place c)

end Registry

end BerOid
