import BerOid.CommandLine.Request
import BerOid.CommandLine.Session
import BerOid.Reference

/-!
# Running a request

A run takes the configuration that the program shares, for the settings file it is given if there is none yet, sets logging up and
carries out its command. A command that is refused ends the run with an error line and the exit code 1, and so do a settings file that
is missing, values in it that cannot be read, and a limit that is none. Faults that no command accounts for end the run without an exit
code: no settings file to look for, a reader that fails otherwise, a limit that is infinite, a section for logging that cannot be used,
and encodings too long for any header.

What reads the settings, the system that keeps the files and the second encoder that encodings are compared with are given (`Host`).
-/

namespace BerOid.CommandLine

/-- What a run relies on outside of this library. -/
structure Host where
  read : Settings.Reader
  system : System := {}
  reference : Oid → Option (List UInt8) := Reference.encode?

/-- A fault that ends a run without an exit code. -/
inductive Breakdown where
  | noSettingsFile
  | reader (fault : Settings.ReaderFault)
  | limit (fault : Settings.LimitFault)
  | loggerSection (fault : Settings.SectionFault)
  | logging (fault : Logging.SetUpFault)
  | header (fault : HeaderFault)
  | bytes (fault : DecodeFault)
  | noReference

/-- The wording of a breakdown. -/
def Breakdown.message : Breakdown → String
  | noSettingsFile => "stat: path should be string, bytes, os.PathLike or integer, not list"
  | reader fault => fault.message
  | limit fault => fault.message
  | loggerSection fault => fault.message
  | logging fault => fault.message
  | header fault => fault.message
  | bytes fault => fault.message
  | noReference => "the identifier has no reference encoding"

/-- How a command ends: with an exit code, with a refusal that is still to be reported, or with a breakdown. -/
inductive Outcome where
  | done (code : Nat)
  | refused (message : String)
  | broken (fault : Breakdown)

/-- How a run ends, and the session after it. -/
structure Ending where
  outcome : Except Breakdown Nat
  session : Session

/-- What a command takes from the settings, and the second encoder that it can be asked to compare with. -/
structure Terms where
  strict : Bool
  limit : Int
  reference : Oid → Option (List UInt8)

/-- The text of an identifier as the tool shows it. -/
def rendered (leadingDot : Bool) (oid : Oid) : String :=
  if leadingDot then leadingDotText oid.toInts else dottedText oid.toInts

/-- The arcs of an identifier in parentheses, as a mismatch is reported. -/
def parenthesised (oid : Oid) : String := "(" ++ ", ".intercalate (oid.map toString) ++ ")"

/-- The outcome of a refused encoding. -/
def ofEncodeError : EncodeError → Outcome
  | .header fault => .broken (.header fault)
  | e => .refused e.message

/-- The outcome of a comparison that was not possible. -/
def ofCompareError : Reference.CompareError → Outcome
  | .ours e => ofEncodeError e
  | .reference (.input e) => .refused e.message
  | .reference .unencodable => .broken .noReference

/-- Prints the texts of identifiers in their own form, up to the first that is none. -/
def parseTexts (leadingDot : Bool) : List String → Session → Outcome × Session
  | [], s => (.done 0, s)
  | text :: rest, s =>
    let r := Oid.readText text
    let s := s.note r.notes
    match r.outcome with
    | .error e => (.refused e.message, s)
    | .ok oid => parseTexts leadingDot rest (s.print (rendered leadingDot oid))

/-- Compares the frame of an identifier with the reference encoding, if asked to, and prints the bytes. -/
def printVerified (terms : Terms) (strict verify : Bool) (oid : Oid) (bytes : List UInt8) (s : Session) : Outcome × Session :=
  if !verify then (.done 0, s.print (Text.spacedHex bytes))
  else
    let c := Reference.compareWith terms.reference strict (parenthesised oid) (.list (oid.toInts.map .integer))
    let s := s.note c.notes
    match c.outcome with
    | .ok true => (.done 0, s.print (Text.spacedHex bytes))
    | .ok false => (.done 1, s.complain ("encoding of " ++ rendered true oid ++ " differs from pysnmp"))
    | .error e => (ofCompareError e, s)

/-- Encodes the text of an identifier. The root rule is strict only if settings and command line agree on it. -/
def encodeText (terms : Terms) (text : String) (payloadOnly strict verify : Bool) (s : Session) : Outcome × Session :=
  let strict := terms.strict && strict
  let r := Oid.readText text
  let s := s.note r.notes
  match r.outcome with
  | .error e => (.refused e.message, s)
  | .ok oid =>
    match if payloadOnly then Payload.encode strict oid else Frame.encode strict oid with
    | .error e => (ofEncodeError e, s)
    | .ok bytes =>
      printVerified terms strict verify oid bytes
        (s.inform ("Encoded " ++ rendered true oid ++ " into " ++ toString bytes.length ++ " bytes"))

/-- Reads a payload or a frame that fills a buffer. -/
def decodeBytes (limit : Int) (payloadOnly : Bool) (data : List UInt8) : Reading Oid :=
  if payloadOnly then (Payload.read limit data.length (.ofBytes data)).map (·.1) else Frame.decode limit data

/-- The outcome of a refused decoding. Only a refusal that counts the bytes taken is one of the encoded bytes. -/
def ofDecodeFault (fault : DecodeFault) : Outcome :=
  if fault.raised.isCounted then .refused fault.message else .broken (.bytes fault)

/-- Decodes bytes given in hex. -/
def decodeText (terms : Terms) (text : String) (payloadOnly leadingDot : Bool) (s : Session) : Outcome × Session :=
  match Text.readHex? text with
  | none => (.refused ("not a hex string: " ++ Text.quoted text), s)
  | some data =>
    let r := decodeBytes terms.limit payloadOnly data
    let s := s.note r.notes
    match r.outcome with
    | .error e => (ofDecodeFault e.fault, s)
    | .ok oid =>
      let s := s.inform ("Decoded " ++ toString data.length ++ " bytes into " ++ rendered true oid)
      (.done 0, s.print (rendered leadingDot oid))

namespace Command

/-- Carries out a command. -/
def carryOut (terms : Terms) : Command → Session → Outcome × Session
  | parse texts leadingDot, s => parseTexts leadingDot texts s
  | encode text payloadOnly strict verify, s => encodeText terms text payloadOnly strict verify s
  | decode text payloadOnly leadingDot, s => decodeText terms text payloadOnly leadingDot s

/-- Carries out a command and reports a refusal. -/
def run (terms : Terms) (c : Command) (s : Session) : Ending :=
  match c.carryOut terms s with
  | (.done code, s) => ⟨.ok code, s⟩
  | (.refused message, s) => ⟨.ok 1, s.refuse c.verb.name message⟩
  | (.broken fault, s) => ⟨.error fault, s⟩

end Command

/-- Why a run has no settings to work with: they are not found, or they are and the limit in them is none. -/
inductive SettingsFault where
  | request (fault : Registry.RequestFault)
  | reader (fault : Settings.ReaderFault)
  | limit (fault : Settings.LimitFault)

/-- The settings that a request leads to: those of the configuration that the program shares, which is one for the settings file of the
request if there was none. -/
def Request.settings (r : Request) (h : Host) (env : Environment) (s : Session) : Except SettingsFault Settings × Session :=
  match s.registry.requestFor s.files r.settingsFile with
  | (.error fault, registry) => (.error (.request fault), { s with registry })
  | (.ok place, registry) =>
    let (settings, registry) := registry.settingsAt place h.read s.files env
    (settings.mapError .reader, { s with registry })

/-- The end of a run that has no settings to work with. -/
def Ending.withoutSettings (s : Session) : SettingsFault → Ending
  | .request (.missing e) => ⟨.ok 1, s.complain e.message⟩
  | .request .noPath => ⟨.error .noSettingsFile, s⟩
  | .reader fault => if fault.isReported then ⟨.ok 1, s.complain fault.message⟩ else ⟨.error (.reader fault), s⟩
  | .limit .infinite => ⟨.error (.limit .infinite), s⟩
  | .limit fault => ⟨.ok 1, s.complain fault.message⟩

/-- The session with logging set up as the settings and the command line ask for. -/
def setUpLogging (system : System) (settings : Settings) (level : Option String) (s : Session) : Except Breakdown Unit × Session :=
  match settings.logger with
  | .error fault => (.error (.loggerSection fault), s)
  | .ok entries =>
    let u := s.loggers.configure system entries level s.files
    (u.outcome.mapError .logging, { s with loggers := u.loggers, files := u.files })

/-- Runs a request with the settings it leads to. -/
def Request.runWith (r : Request) (h : Host) (settings : Settings) (s : Session) : Ending :=
  match settings.maxArc with
  | .error fault => .withoutSettings s (.limit fault)
  | .ok limit =>
    match setUpLogging h.system settings r.level s with
    | (.error fault, s) => ⟨.error fault, s⟩
    | (.ok (), s) => r.command.run ⟨settings.strictRoot, limit, h.reference⟩ s

/-- Runs a request. -/
def Request.run (r : Request) (h : Host) (env : Environment) (s : Session) : Ending :=
  match r.settings h env s with
  | (.error fault, s) => .withoutSettings s fault
  | (.ok settings, s) => r.runWith h settings s

end BerOid.CommandLine
