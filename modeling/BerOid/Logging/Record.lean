import BerOid.Diagnostic
import BerOid.Logging.Level

/-!
# Records

A log record has the name of the logger it goes to, a level and a message, and may call for a trace of the error it reports. A
line shows the time, the level, the logger, the thread and the message. What the operations of the library note
(`Diagnostic`) becomes a record of the logger of the part that noted it.
-/

namespace BerOid.Logging

/-- Something to be logged. -/
structure Record where
  logger : String
  level : Int
  message : String
  traced : Bool := false
  deriving DecidableEq

/-- The line that stands for the trace of an error. -/
def traceMark : String := "<traceback>"

/-- The message, and the trace below it if it is called for. -/
def Record.body (r : Record) : String := if r.traced then r.message ++ "\n" ++ traceMark else r.message

/-- The line of a record at a time, with the level in colour on a console. -/
def Record.line (r : Record) (time : String) (coloured : Bool) : String :=
  time ++ " " ++ (if coloured then colouredLevel r.level else shownLevel r.level) ++ " " ++ r.logger ++ " [MainThread] " ++
    r.body ++ "\n"

/-- The record of a diagnostic. -/
def ofDiagnostic : Diagnostic → Record
  | .rejectedText e =>
    ⟨"snmp_oid.oid_utils", debug, "Rejected OID text " ++ Text.quoted e.text ++ ": " ++ e.message, false⟩
  | .rejectedPayload payload fault =>
    ⟨"snmp_oid.codec", debug, "Failed to decode OID payload " ++ Text.hex payload ++ ": " ++ fault.message, false⟩
  | .sourceEnded received wanted =>
    ⟨"snmp_oid.byte_source", debug,
      "Byte source ended after " ++ toString received ++ " of " ++ toString wanted ++ " bytes", false⟩
  | .sourceFailed received wanted =>
    ⟨"snmp_oid.byte_source", debug,
      "Byte source failed after " ++ toString received ++ " of " ++ toString wanted ++ " bytes", false⟩
  | .differentEncoding shown ours reference =>
    ⟨"snmp_oid.interop", warning,
      "Encoding mismatch for " ++ shown ++ ": ours=" ++ Text.hex ours ++ " pyasn1=" ++ Text.hex reference, false⟩

end BerOid.Logging
