import BerOid.FileTree
import BerOid.Text.Case
import BerOid.Value

/-!
# Settings

Settings are values by key, whatever the case of the keys. Where they come from is not decided here: a `Reader` gives them for the
files and the variables that there are and for the file that was chosen, if there is one, or it fails.
-/

namespace BerOid

/-- The variables of the environment, in the order in which they were first set. -/
abbrev Environment := List (String × String)

/-- The environment with a variable set, or without it. -/
def Environment.assign (env : Environment) (name : String) (value : Option String) : Environment :=
  match value with
  | none => env.filter (·.1 != name)
  | some v =>
    if env.any (·.1 == name) then env.map fun (n, old) => (n, if n == name then v else old) else env ++ [(name, v)]

/-- Values by key; the keys are kept in upper case. -/
abbrev Settings := List (String × Value)

namespace Settings

/-- The value of a key. -/
def get? (s : Settings) (key : String) : Option Value := s.lookup (Text.upper key)

/-- Why no settings can be read, in the words of what reads them, and whether that is a fault which is reported to the user. -/
structure ReaderFault where
  message : String
  isReported : Bool
  deriving DecidableEq

/-- What reads settings: from the files and the variables that there are, and the file that was chosen, if there is one. -/
abbrev Reader := FileTree → Environment → Option String → Except ReaderFault Settings

end Settings

end BerOid
