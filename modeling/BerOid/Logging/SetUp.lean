import BerOid.Logging.Loggers

/-!
# Setting logging up

Logging is set up once, until a reset allows it again. The level is looked at first. Then the root logger takes the level and loses
its handlers, the log file is opened if a folder is given, and the new handlers are put in: the file first, then the console.
A file that cannot be opened ends the set-up at that point, with the new level and without handlers. A section of settings gives the
folder as a text; which path that stands for is found before logging is looked at, even if it is set up already.
-/

namespace BerOid.Logging

/-- How logging is to be set up. -/
structure Options where
  level : Value := .text "WARNING"
  folder : Option Path := none
  file : Value := .text "snmp-oid.log"
  console : Bool := true
  maxBytes : Value := .integer (10 * 1024 * 1024)
  backupCount : Value := .integer 5

/-- The kinds of objects that stand in the way of a folder or a file. -/
inductive Obstacle where
  | fileExists
  | notAFolder
  | isAFolder
  | missingFolder
  deriving DecidableEq

/-- Why logging cannot be set up. -/
inductive SetUpFault where
  | levelNotText (kind : Value.Kind)
  | folderNotText (kind : Value.Kind)
  | fileNotText (kind : Value.Kind)
  | sizeNotNumber (kind : Value.Kind)
  | blocked (obstacle : Obstacle) (path : Path)
  | unresolved (refusal : Refusal)
  | refused (refusal : Refusal)
  deriving DecidableEq

/-- The wording of an obstacle. -/
def Obstacle.message : Obstacle → String
  | fileExists => "[Errno 17] File exists: "
  | notAFolder => "[Errno 20] Not a directory: "
  | isAFolder => "[Errno 21] Is a directory: "
  | missingFolder => "[Errno 2] No such file or directory: "

/-- The wording of a fault. -/
def SetUpFault.message : SetUpFault → String
  | levelNotText kind => "'" ++ kind.name ++ "' object has no attribute 'upper'"
  | folderNotText kind => "expected str, bytes or os.PathLike object, not " ++ kind.name
  | fileNotText kind => "unsupported operand type(s) for /: 'PosixPath' and '" ++ kind.name ++ "'"
  | sizeNotNumber kind => "'>' not supported between instances of '" ++ kind.name ++ "' and 'int'"
  | blocked obstacle path => obstacle.message ++ Text.quoted path.toText
  | unresolved refusal | refused refusal => refusal.message

/-- The folder that a value stands for, if it does not count as false. -/
def folderOfValue (sys : System) (v : Value) : Except SetUpFault (Option Path) :=
  if !v.isTruthy then .ok none
  else match v with
    | .text folder => ((sys.resolve folder).mapError .unresolved).map some
    | v => .error (.folderNotText v.kind)

/-- The options that a section of settings asks for. A level given apart wins over the section, unless it is empty. -/
def Options.ofSection (sys : System) (entries : List (String × Value)) (override : Option String) : Except SetUpFault Options :=
  let get (key : String) (default : Value) : Value := (entries.lookup key).getD default
  let level := match override with
    | some text => if text.isEmpty then get "level" (.text "WARNING") else .text text
    | none => get "level" (.text "WARNING")
  (folderOfValue sys (get "log_dir" .null)).map fun folder =>
    { level, folder, file := get "log_file" (.text "snmp-oid.log"), console := (get "console" (.boolean true)).isTruthy,
      maxBytes := get "max_bytes" (.integer (10 * 1024 * 1024)), backupCount := get "backup_count" (.integer 5) }

/-- Makes a folder and those it lies in. -/
def makeFolder (sys : System) (folder : Path) (t : FileTree) : Except SetUpFault FileTree :=
  match (FileTree.stations folder).find? t.isFile with
  | some station => .error (.blocked (if station = folder then .fileExists else .notAFolder) folder)
  | none => match sys.refusesFolder t folder with
    | some refusal => .error (.refused refusal)
    | none => .ok (t.addFolders folder)

/-- Begins a log file, or goes on with the one that is there. A device is there. -/
def beginFile (sys : System) (path : Path) (t : FileTree) : Except SetUpFault FileTree :=
  if t.isFolder path then .error (.blocked .isAFolder path)
  else match sys.refusesFile t path with
    | some refusal => .error (.refused refusal)
    | none =>
      if t.isFile path || (sys.device? path).isSome then .ok t
      else if t.isFile path.dropLast then .error (.blocked .notAFolder path)
      else if !t.isFolder path.dropLast then .error (.blocked .missingFolder path)
      else .ok (t.put path "")

/-- Opens the log file in a folder. The folder is made first, and stays if the file cannot be opened. -/
def openFile (sys : System) (o : Options) (folder : Path) (t : FileTree) : Except SetUpFault LogFile × FileTree :=
  match makeFolder sys folder t with
  | .error fault => (.error fault, t)
  | .ok t =>
    match o.file with
    | .text name =>
      if !o.maxBytes.isNumber then (.error (.sizeNotNumber o.maxBytes.kind), t)
      else
        let path := folder.within name
        match beginFile sys path t with
        | .error fault => (.error fault, t)
        | .ok t => (.ok ⟨path, o.maxBytes, o.backupCount, sys.device? path⟩, t)
    | v => (.error (.fileNotText v.kind), t)

/-- The loggers of the libraries in use, which are kept quiet unless everything is to be shown. -/
def libraryNames : List String := ["pysnmp", "pyasn1"]

/-- The level of the libraries' loggers under a root level. -/
def libraryLevel (level : Int) : Int := if level ≤ debug then debug else warning

/-- The outcome of setting up, the loggers and the files after it. -/
structure SetUp where
  outcome : Except SetUpFault Unit
  loggers : Loggers
  files : FileTree

namespace Loggers

/-- The loggers with another level for one of them. -/
def setLevel (l : Loggers) (name : String) (level : Int) : Loggers :=
  { l with named := (name, level) :: l.named.filter (·.1 != name) }

/-- The loggers with a new root level and new handlers, and the libraries' levels that go with them. -/
def equipped (l : Loggers) (level : Int) (handlers : List Handler) : Loggers :=
  libraryNames.foldl (fun l name => l.setLevel name (libraryLevel level)) { l with isSetUp := true, level, handlers }

/-- Sets up logging, unless that has been done since the last reset. -/
def setUp (l : Loggers) (sys : System) (o : Options) (t : FileTree) : SetUp :=
  if l.isSetUp then ⟨.ok (), l, t⟩
  else match o.level with
    | .text text =>
      let level := levelOfText text
      let console := if o.console then [Handler.console level] else []
      match o.folder with
      | none => ⟨.ok (), l.equipped level console, t⟩
      | some folder =>
        match openFile sys o folder t with
        | (.error fault, t) => ⟨.error fault, { l with level, handlers := [] }, t⟩
        | (.ok log, t) => ⟨.ok (), l.equipped level (.file level log :: console), t⟩
    | v => ⟨.error (.levelNotText v.kind), l, t⟩

/-- Sets up logging as a section of settings asks for, with a level given apart. -/
def configure (l : Loggers) (sys : System) (entries : List (String × Value)) (override : Option String) (t : FileTree) : SetUp :=
  match Options.ofSection sys entries override with
  | .error fault => ⟨.error fault, l, t⟩
  | .ok o => l.setUp sys o t

/-- Allows logging to be set up again; levels and handlers stay until then. -/
def reset (l : Loggers) : Loggers := { l with isSetUp := false }

end Loggers

end BerOid.Logging
