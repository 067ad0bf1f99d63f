import BerOid.Logging.SetUp
import BerOid.Settings.Registry

/-!
# Sessions

A session is what a run of the command line tool works on and what it has written so far: the files, the configuration that the program
shares, the state of logging and the two output streams. Results go to standard output, log lines and complaints to standard error; a
log file that is the standard output puts its lines there too. Time is an input: every line of one run shows the same moment.
-/

namespace BerOid.CommandLine

/-- What is written to the standard output: a line that is printed, or a text that is logged there. -/
inductive Output where
  | line (text : String)
  | logged (text : String)
  deriving DecidableEq

/-- The characters of what is written. -/
def Output.text : Output → String
  | line text => text ++ "\n"
  | logged text => text

/-- The line, if it is one that was printed. -/
def Output.line? : Output → Option String
  | line text => some text
  | logged _ => none

/-- The state of a run. -/
structure Session where
  time : String
  files : FileTree
  registry : Registry := {}
  loggers : Logging.Loggers := {}
  stdout : List Output := []
  stderr : String := ""

namespace Session

/-- The lines that were printed. -/
def printed (s : Session) : List String := s.stdout.filterMap Output.line?

/-- All that was written to the standard output. -/
def outputText (s : Session) : String := String.join (s.stdout.map Output.text)

/-- The session after a line of output. -/
def print (s : Session) (line : String) : Session := { s with stdout := s.stdout ++ [.line line] }

/-- The session after an error line. -/
def complain (s : Session) (message : String) : Session := { s with stderr := s.stderr ++ "Error: " ++ message ++ "\n" }

/-- The session after a record was logged. -/
def log (s : Session) (r : Logging.Record) : Session :=
  let e := s.loggers.emit s.time r s.files
  { s with
    files := e.files
    stdout := if e.output.isEmpty then s.stdout else s.stdout ++ [.logged e.output]
    stderr := s.stderr ++ e.errors }

/-- The session after diagnostics were logged, in order. -/
def note (s : Session) (notes : List Diagnostic) : Session := notes.foldl (fun s d => s.log (Logging.ofDiagnostic d)) s

/-- The name of the logger of the tool itself. -/
def loggerName : String := "snmp_oid.cli_oid"

/-- The session after an informative note of the tool. -/
def inform (s : Session) (message : String) : Session := s.log ⟨loggerName, Logging.info, message, false⟩

/-- The session after a command was refused: the trace is for debugging, the error line for the user. -/
def refuse (s : Session) (commandName message : String) : Session :=
  (s.log ⟨loggerName, Logging.debug, commandName ++ " failed", true⟩).complain message

end Session

end BerOid.CommandLine
