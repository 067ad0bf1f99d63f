import BerOid.Text.Case

/-!
# Levels

The importance of a log record is a number. Six numbers have names, two of them two names; a name is looked up in upper case, and
anything else stands for the level of warnings.
-/

namespace BerOid.Logging

/-- The level of debugging notes. -/
def debug : Int := 10

/-- The level of informative notes. -/
def info : Int := 20

/-- The level of warnings. -/
def warning : Int := 30

/-- The named levels; of two names for one level the first is the one shown. -/
def levelNames : List (String × Int) :=
  [("CRITICAL", 50), ("FATAL", 50), ("ERROR", 40), ("WARNING", 30), ("WARN", 30), ("INFO", 20), ("DEBUG", 10), ("NOTSET", 0)]

/-- The level a text asks for. -/
def levelOfText (text : String) : Int := (levelNames.lookup (Text.upper text)).getD warning

/-- The name shown for a level, if it has one. -/
def levelName? (level : Int) : Option String := (levelNames.find? (·.2 == level)).map (·.1)

/-- The words by which lines show a level. -/
def shownLevel (level : Int) : String := (levelName? level).getD ("Level " ++ toString level)

/-- The terminal code that colours the name of a level; unnamed levels and the level zero have none. -/
def colourCode? (level : Int) : Option String :=
  ([(10, "\x1b[36m"), (20, "\x1b[32m"), (30, "\x1b[33m"), (40, "\x1b[31m"), (50, "\x1b[35m")] : List (Int × String)).lookup level

/-- The name of a level in its colour, with the code that ends the colour. -/
def colouredLevel (level : Int) : String :=
  match colourCode? level with
  | some code => code ++ shownLevel level ++ "\x1b[0m"
  | none => shownLevel level

end BerOid.Logging
