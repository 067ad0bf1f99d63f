import BerOid.Settings
import BerOid.Settings.Toml
import BerOid.Settings.Yaml

/-!
# Loading settings

A reader of settings, and not the only one there can be (`Settings.Reader`): they come from a file of plain lines, if there is one, and
from the environment, which wins over the file. The variables with a common mark at the front of their names give a key each, and a
double underscore in the name leads into a mapping, whose other keys are kept.
-/

namespace BerOid.Settings

/-- The settings with a value for a key, in place of the one it had. -/
def assign (s : Settings) (key : String) (v : Value) : Settings :=
  let key := Text.upper key
  if s.any (·.1 == key) then s.map fun (k, old) => (k, if k == key then v else old) else s ++ [(key, v)]

/-- The entries of a mapping with a value for a key; a key that differs only in case is kept as it is. -/
def assignEntry (entries : List (String × Value)) (key : String) (v : Value) : List (String × Value) :=
  match entries.find? fun (k, _) => Text.lower k == Text.lower key with
  | some (found, _) => entries.map fun (k, old) => (k, if k == found then v else old)
  | none => entries ++ [(key, v)]

/-- The entry a mapping has for a key, whatever its case. -/
def entryFor? (entries : List (String × Value)) (key : String) : Option Value :=
  (entries.find? fun (k, _) => Text.lower k == Text.lower key).map (·.2)

/-- The value with another one put in at the end of a path of keys; what is no mapping gives way to one. -/
def assignPath (old : Option Value) (path : List String) (v : Value) : Value :=
  match path with
  | [] => v
  | key :: rest =>
    let entries := match old with
      | some (.mapping entries) => entries
      | _ => []
    .mapping (assignEntry entries key (assignPath (entryFor? entries key) rest v))

/-- The mark at the front of the names of the variables that are settings. -/
def variableMark : String := "SNMP_OID_"

/-- The settings after a variable of the environment. -/
def addVariable (s : Settings) (assignment : String × String) : Settings :=
  let (name, text) := assignment
  if name.startsWith variableMark then
    match (String.ofList (name.toList.drop variableMark.length)).splitOn "__" with
    | [] => s
    | key :: path => assign s key (assignPath (get? s key) path (Toml.ofVariable text))
  else s

/-- Whether a file is a settings file, by its name. -/
def isSettingsFile (path : String) : Bool := [".yaml", ".yml"].any fun ending => ending.toList.isSuffixOf path.toList

/-- The entries of a settings file; a file that is not there has none. -/
def entriesOfFile (files : FileTree) (path : String) : List (String × Value) :=
  if isSettingsFile path then ((files.content? (Path.ofText path)).map Yaml.parse).getD [] else []

/-- The settings that a file, if there is one, and the environment give. -/
def load : Reader := fun files env path =>
  let fromFile := (path.elim [] (entriesOfFile files)).foldl (fun s (key, v) => assign s key v) ([] : Settings)
  .ok (env.foldl addVariable fromFile)

end BerOid.Settings
