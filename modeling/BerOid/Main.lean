import BerOid.CommandLine.Run
import BerOid.Settings.Loading
import Std.Time.Zoned

/-!
# The command line tool

Reads the settings file, the variables and the log files that a request can touch, runs the request, and brings the files and the
output up to date.
-/

namespace BerOid.CommandLine

/-- The variables of the environment that have a meaning for the tool. -/
def variableNames : List String :=
  ["STRICT_ROOT", "MAX_ARC", "LOGGER", "LOGGER__LEVEL", "LOGGER__LOG_DIR", "LOGGER__LOG_FILE", "LOGGER__CONSOLE",
    "LOGGER__MAX_BYTES", "LOGGER__BACKUP_COUNT"].map (Settings.variableMark ++ ·)

/-- The variables that are set. -/
def readEnvironment : IO Environment :=
  variableNames.filterMapM fun name => do return (← IO.getEnv name).map (name, ·)

/-- The tree with those of the files that can be read. -/
def readFiles (t : FileTree) (paths : List Path) : IO FileTree :=
  paths.foldlM
    (fun t path => do
      match ← (IO.FS.readFile path.toText).toBaseIO with
      | .ok text => return t.write path text
      | .error _ => return t)
    t

/-- Writes the files that are new or have changed, and removes those that are gone. -/
def writeFiles (before after : FileTree) : IO Unit := do
  for (path, text) in after.files do
    if before.content? path != some text then
      IO.FS.createDirAll (Path.toText path.dropLast)
      IO.FS.writeFile path.toText text
  for (path, _) in before.files do
    if !after.isFile path then IO.FS.removeFile path.toText

/-- A number with at least `width` digits. -/
def padded (width : Nat) (n : Int) : String :=
  let digits := toString n
  String.ofList (List.replicate (width - digits.length) '0') ++ digits

/-- The present moment, to the millisecond. -/
def timeText : IO String := do
  let now ← Std.Time.PlainDateTime.now
  let day := "-".intercalate [padded 4 now.date.year.toInt, padded 2 now.date.month.val, padded 2 now.date.day.val]
  let clock := ":".intercalate [padded 2 now.time.hour.val, padded 2 now.time.minute.val, padded 2 now.time.second.val]
  return day ++ " " ++ clock ++ "." ++ padded 3 (now.time.nanosecond.val / 1000000)

/-- The paths of the log files that the settings lead to: the one that is written and the numbered ones behind it. -/
def logPaths (system : System) (settings : Settings) : List Path :=
  let entries := (settings.logger.toOption).getD []
  match Logging.Options.ofSection system entries none with
  | .ok { folder := some folder, file := .text name, backupCount, .. } =>
    let path := folder.within name
    path :: (List.range ((backupCount.bound?.getD 0).toNat)).map fun i => path.numbered (i + 1)
  | _ => []

/-- Serves a request with the files and variables that are there. -/
def serve (request : Request) : IO UInt32 := do
  let host : Host := { read := Settings.load }
  let env ← readEnvironment
  let path := request.settingsFile.getD Configuration.defaultFile
  let files ← readFiles {} ((Configuration.candidates path).map Path.ofText)
  let session : Session := { time := ← timeText, files }
  let logs := match (request.settings host env session).1 with
    | .ok settings => logPaths host.system settings
    | .error _ => []
  let files ← readFiles files logs
  let ending := request.run host env { session with files }
  writeFiles files ending.session.files
  IO.print ending.session.outputText
  IO.eprint ending.session.stderr
  match ending.outcome with
  | .ok code => return code.toUInt32
  | .error fault =>
    IO.eprintln fault.message
    return 1

/-- Serves the request of a command line. -/
def start (args : List String) : IO UInt32 := do
  match Request.read args with
  | .ok request => serve request
  | .error stop =>
    if stop = .helped then IO.println usage else IO.eprintln usage
    return stop.exitCode.toUInt32

end BerOid.CommandLine

/-- The program. -/
def main (args : List String) : IO UInt32 := BerOid.CommandLine.start args
