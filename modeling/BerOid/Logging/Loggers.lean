import BerOid.Logging.Record
import BerOid.Logging.Rotation

/-!
# Loggers

The state of logging: the level of the root logger, its handlers in order, and the loggers below it that have a level of their own.
A record passes if its level is positive and at least that of its logger, and each handler asks for its own level again. With no
handler at all, warnings and worse are shown bare.
-/

namespace BerOid.Logging

/-- Where lines go: to the console, or to a file. -/
inductive Handler where
  | console (level : Int)
  | file (level : Int) (log : LogFile)

/-- The level a handler asks for. -/
def Handler.level : Handler → Int
  | console level => level
  | file level _ => level

/-- The state of logging; at first nothing is set up and the root logger passes warnings. -/
structure Loggers where
  isSetUp : Bool := false
  level : Int := warning
  handlers : List Handler := []
  named : List (String × Int) := []

namespace Loggers

/-- The name of the root logger in lines. -/
def rootName : String := "root"

/-- Whether a logger is another one or stands below it. -/
def isBelow (name ancestor : String) : Bool := name == ancestor || name.startsWith (ancestor ++ ".")

/-- The level that holds for a logger: that of the nearest logger above it, or itself, that has one. -/
def effectiveLevel (l : Loggers) (name : String) : Int :=
  let above := l.named.filter fun (n, level) => level != 0 && isBelow name n
  match above.foldl (fun best entry => if best.all (·.1.length < entry.1.length) then some entry else best) none with
  | some (_, level) => level
  | none => l.level

/-- The level set for a logger of its own, zero if there is none. -/
def ownLevel (l : Loggers) (name : String) : Int := (l.named.lookup name).getD 0

/-- Whether a record reaches the handlers. -/
def passes (l : Loggers) (r : Record) : Bool := 0 < r.level && l.effectiveLevel r.logger ≤ r.level

end Loggers

/-- What a record is written as: the text on the standard error, the text on the standard output, and the files after it. -/
structure Emission where
  errors : String := ""
  output : String := ""
  files : FileTree

/-- Whether a handler's lines reach the standard output: those of a log file that is this device do. -/
def Handler.isOnOutput : Handler → Bool
  | .console _ => false
  | .file _ log => log.device == some .output

/-- What a handler writes for a record, after what was written before. -/
def Handler.write (h : Handler) (time : String) (r : Record) (e : Emission) : Emission :=
  match h with
  | .console _ => { e with errors := e.errors ++ r.line time true }
  | .file _ log => match log.device with
    | none => { e with files := log.append (r.line time false) e.files }
    | some .output => { e with output := e.output ++ r.line time false }
    | some .errors => { e with errors := e.errors ++ r.line time false }
    | some .other => e

namespace Loggers

/-- What a record leads to. -/
def emit (l : Loggers) (time : String) (r : Record) (t : FileTree) : Emission :=
  let e : Emission := { files := t }
  if !l.passes r then e
  else if l.handlers.isEmpty then (if warning ≤ r.level then { e with errors := r.body ++ "\n" } else e)
  else l.handlers.foldl (fun e h => if r.level < h.level then e else h.write time r e) e

end Loggers

end BerOid.Logging
