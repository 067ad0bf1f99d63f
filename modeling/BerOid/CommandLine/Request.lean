import BerOid.CommandLine.Word
import BerOid.Settings.Registry

/-!
# Requests

A command line asks for one of three commands. Options that hold for all of them come before the name of the command; everything
behind the name belongs to the command, whose options and texts may stand in any order, as long as its texts stand together. A word
that makes no sense is only complained of at the end, so that a call for help behind it is still answered.
-/

namespace BerOid.CommandLine

/-- The verbs of the commands. -/
inductive Verb where
  | parse
  | encode
  | decode
  deriving DecidableEq

namespace Verb

/-- Every verb. -/
def all : List Verb := [parse, encode, decode]

/-- The name of a verb on the command line. -/
def name : Verb → String
  | parse => "parse"
  | encode => "encode"
  | decode => "decode"

/-- The verb of a name. -/
def ofName? (name : String) : Option Verb := all.find? (·.name == name)

/-- The flags that a verb takes beside the option for help. -/
def flagNames : Verb → List String
  | parse => ["no-leading-dot"]
  | encode => ["payload-only", "no-strict-root", "verify"]
  | decode => ["payload-only", "no-leading-dot"]

/-- Whether a verb takes more than one text. -/
def takesMany : Verb → Bool
  | parse => true
  | encode | decode => false

end Verb

/-- What the command line can ask for. -/
inductive Command where
  | parse (texts : List String) (leadingDot : Bool)
  | encode (text : String) (payloadOnly strict verify : Bool)
  | decode (text : String) (payloadOnly leadingDot : Bool)
  deriving DecidableEq

/-- A command, the settings file it is to use and the level asked for logging. There is no settings file to use if the mark was given
in its place. -/
structure Request where
  settingsFile : Option String
  level : Option String
  command : Command
  deriving DecidableEq

namespace Command

/-- The verb of a command. -/
def verb : Command → Verb
  | parse .. => .parse
  | encode .. => .encode
  | decode .. => .decode

/-- What has been read of the words of a command: its texts, whether they are complete, its flags, and whether there was a word
that makes no sense. -/
structure Draft where
  texts : List String := []
  isClosed : Bool := false
  flags : List String := []
  hasSurplus : Bool := false

namespace Draft

/-- The draft after a plain word: a further text has to stand next to those before, and needs a verb that takes `many`. -/
def addText (d : Draft) (many : Bool) (text : String) : Draft :=
  if d.texts.isEmpty || (many && !d.isClosed) then { d with texts := d.texts ++ [text] } else { d with hasSurplus := true }

/-- The draft after the mark, which has to stand next to the texts. -/
def addMark (d : Draft) : Draft := if d.isClosed then { d with hasSurplus := true } else d

/-- The draft after an option, behind which the texts read so far are complete. -/
def close (d : Draft) : Draft := { d with isClosed := !d.texts.isEmpty }

/-- Reads the words behind a verb, whose options are flags. At least one text is needed. -/
def ofWords (many : Bool) : List Word → Draft → Except Stop Draft
  | [], d => if d.texts.isEmpty then .error .misused else .ok d
  | ⟨text, .plain⟩ :: rest, d => ofWords many rest (d.addText many text)
  | ⟨_, .mark⟩ :: rest, d => ofWords many rest d.addMark
  | ⟨_, .unknown⟩ :: rest, d => ofWords many rest { d.close with hasSurplus := true }
  | ⟨_, .shortHelp letters⟩ :: _, _ => .error (stopOfLetters letters)
  | ⟨_, .long name attached⟩ :: rest, d =>
    if name = helpName then .error (stopOfHelp attached)
    else if attached.isSome then .error .misused
    else ofWords many rest { d.close with flags := name :: d.flags }

/-- Whether a flag was given. -/
def has (d : Draft) (flag : String) : Bool := d.flags.contains flag

end Draft

/-- The command of a verb and a draft. -/
def ofDraft (verb : Verb) (d : Draft) : Except Stop Command :=
  if d.hasSurplus then .error .misused
  else match verb, d.texts with
    | .parse, texts => .ok (parse texts (!d.has "no-leading-dot"))
    | .encode, [text] => .ok (encode text (d.has "payload-only") (!d.has "no-strict-root") (d.has "verify"))
    | .decode, [text] => .ok (decode text (d.has "payload-only") (!d.has "no-leading-dot"))
    | _, _ => .error .misused

/-- Reads the arguments behind a verb. -/
def read (verb : Verb) (args : List String) : Except Stop Command := do
  ofDraft verb (← Draft.ofWords verb.takesMany (← words (helpName :: verb.flagNames) args) {})

end Command

namespace Request

/-- The options before the name of the command, each of which takes a value. -/
def optionNames : List String := ["config", "log-level"]

/-- What has been read before the name of the command. -/
structure Draft where
  settingsFile : Option String := some Configuration.defaultFile
  level : Option String := none
  hasSurplus : Bool := false

/-- The draft with the value that a text gives to an option. -/
def Draft.assign (d : Draft) (name text : String) : Draft :=
  if name = "config" then { d with settingsFile := valueOf? text } else { d with level := valueOf? text }

/-- Reads the words up to the name of the command, and the command. -/
def ofWords : List Word → Draft → Except Stop Request
  | ⟨name, .plain⟩ :: rest, d =>
    match Verb.ofName? name with
    | none => .error .misused
    | some verb => do
      let command ← Command.read verb (rest.map (·.text))
      if d.hasSurplus then .error .misused else return ⟨d.settingsFile, d.level, command⟩
  | ⟨_, .unknown⟩ :: rest, d => ofWords rest { d with hasSurplus := true }
  | ⟨_, .shortHelp letters⟩ :: _, _ => .error (stopOfLetters letters)
  | ⟨_, .long name attached⟩ :: rest, d =>
    if name = helpName then .error (stopOfHelp attached)
    else match attached, rest with
      | some text, rest => ofWords rest (d.assign name text)
      | none, ⟨text, .plain⟩ :: rest => ofWords rest (d.assign name text)
      | none, _ => .error .misused
  | _, _ => .error .misused

/-- Reads a command line. -/
def read (args : List String) : Except Stop Request := do
  ofWords (← words (helpName :: optionNames) args) {}

end Request

/-- The summary of the command line. -/
def usage : String :=
  "usage: snmp-oid [-h] [--config FILE] [--log-level LEVEL] COMMAND\n" ++
  "\n" ++
  "  parse OID... [--no-leading-dot]\n" ++
  "  encode OID [--payload-only] [--no-strict-root] [--verify]\n" ++
  "  decode HEX [--payload-only] [--no-leading-dot]"

/-- The exit code of a command line that ends without a command. -/
def Stop.exitCode : Stop → Nat
  | helped => 0
  | misused => 2

end BerOid.CommandLine
