import BerOid.Text.Digit

/-!
# Words of a command line

Every argument of a command line is a word of one of a few forms: a plain text, the mark `--` behind which everything is plain, an
option by its long name, which may be shortened and may have a value behind an equals sign, or the short form of the option for help.
The form of a word hangs on the names of the options in use and not on its place, except behind the mark.
-/

namespace BerOid.CommandLine

/-- How a command line ends without a command: the help was asked for, or the words make no sense. -/
inductive Stop where
  | helped
  | misused
  deriving DecidableEq

/-- The form of a word. A long option has the name it stands for and the value attached to it, the short option for help has the
letters behind it; an unknown option is one of no known name. -/
inductive Form where
  | plain
  | mark
  | long (name : String) (attached : Option String)
  | shortHelp (letters : List Char)
  | unknown
  deriving DecidableEq

/-- A word and its form. -/
structure Word where
  text : String
  form : Form
  deriving DecidableEq

/-- The option for help, which every command has. -/
def helpName : String := "help"

/-- The mark. -/
def mark : String := "--"

/-- A text without one line feed at its end. -/
def dropLineEnd (cs : List Char) : List Char := if cs.getLast? = some '\n' then cs.dropLast else cs

/-- Whether characters behind a minus make a number: digits of any script, or a point with digits behind it. -/
def isNumber (cs : List Char) : Bool :=
  match cs.dropWhile Text.isDigit with
  | [] => !cs.isEmpty
  | '.' :: fraction => !fraction.isEmpty && fraction.all Text.isDigit
  | _ => false

/-- Whether a word that is no known option is plain all the same: a negative number, or a text with a space in it. -/
def isPlainBehindMinus (cs : List Char) : Bool := isNumber (dropLineEnd cs) || cs.contains ' '

/-- The options that a name, which may be shortened, can stand for. A full name stands for itself. -/
def namesFor (names : List String) (given : String) : List String :=
  if names.contains given then [given] else names.filter (·.startsWith given)

/-- The name and the value on the two sides of the first equals sign. -/
def splitValue (cs : List Char) : String × Option String :=
  match cs.dropWhile (· != '=') with
  | [] => (String.ofList cs, none)
  | _ :: value => (String.ofList (cs.takeWhile (· != '=')), some (String.ofList value))

/-- The form of a word before the mark. A shortened name that fits several options is a misuse. -/
def formOf (names : List String) (text : String) : Except Stop Form :=
  match text.toList with
  | '-' :: '-' :: cs =>
    let (given, attached) := splitValue cs
    match namesFor names given with
    | [name] => .ok (.long name attached)
    | [] => .ok (if cs.contains ' ' then .plain else .unknown)
    | _ => .error .misused
  | '-' :: 'h' :: letters => .ok (.shortHelp letters)
  | '-' :: c :: cs => .ok (if isPlainBehindMinus (c :: cs) then .plain else .unknown)
  | _ => .ok .plain

/-- The words of a command line with options of the given names. -/
def words (names : List String) : List String → Except Stop (List Word)
  | [] => .ok []
  | text :: rest =>
    if text = mark then .ok (⟨text, .mark⟩ :: rest.map (⟨·, .plain⟩))
    else do
      let form ← formOf names text
      return ⟨text, form⟩ :: (← words names rest)

/-- The letters that stand for further options behind a first one; an equals sign may join them to it. -/
def joinedLetters : List Char → List Char
  | '=' :: c :: letters => c :: letters
  | letters => letters

/-- How letters behind the short option for help end the command line: the option may be repeated, and there is no other one. -/
def stopOfLetters (letters : List Char) : Stop := if (joinedLetters letters).all (· == 'h') then .helped else .misused

/-- The value that a text gives to an option: the mark is no value, even where it is attached to the option. -/
def valueOf? (text : String) : Option String := if text = mark then none else some text

/-- How the option for help ends the command line; it takes no value. -/
def stopOfHelp (attached : Option String) : Stop := if attached.isSome then .misused else .helped

end BerOid.CommandLine
