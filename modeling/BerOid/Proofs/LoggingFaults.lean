import BerOid.Proofs.Outcomes

/-!
# Sections for logging that cannot be used

Settings are checked before logging is set up, but what they say about logging is not among what is checked. `Logging.IsUsable` says
which sections logging can be set up with (`Loggers.configure_eq_ok_iff`): the level is text, and so is a folder, which the system
finds and in which the log file can be opened. Under settings that are valid a run ends with an exit code exactly if the section can
be used (`ends_iff_logging_is_usable`); a section that cannot be used ends the run without one, and without a word about it.
-/

namespace BerOid

namespace Logging

variable {sys : System} {entries : List (String × Value)} {override : Option String} {o : Options}

/-! ## The options of a section -/

/-- The value that a section gives for a key, or the one that holds if it gives none. -/
def entry (entries : List (String × Value)) (key : String) (default : Value) : Value := (entries.lookup key).getD default

/-- The folder that a value asks for: none if it does not count as true, and that which the system leads its text to. -/
inductive FolderFor (sys : System) (v : Value) : Option Path → Prop where
  | none (h : ¬v.CountsAsTrue) : FolderFor sys v none
  | some {text : String} {folder : Path} (hne : text ≠ "") (htext : v = .text text) (h : sys.resolve text = .ok folder) :
      FolderFor sys v (some folder)

/-- The folder is found exactly if there is one that the value asks for. -/
theorem folderOfValue_eq_ok_iff {sys : System} {v : Value} {folder : Option Path} :
    folderOfValue sys v = .ok folder ↔ FolderFor sys v folder := by
  unfold folderOfValue
  by_cases htruthy : v.isTruthy = true
  · have hcounts := Value.isTruthy_iff.1 htruthy
    simp only [htruthy, Bool.not_true, Bool.false_eq_true, if_false]
    constructor
    · intro h
      split at h
      · rename_i text
        obtain ⟨path, hpath, rfl⟩ := map_eq_ok_iff.1 h
        have hne : text ≠ "" := by
          rintro rfl
          simp [Value.isTruthy] at htruthy
        exact .some hne rfl (mapError_eq_ok_iff.1 hpath)
      · cases h
    · intro h
      cases h with
      | none h => exact absurd hcounts h
      | some hne htext h =>
        subst htext
        simp [h, Except.mapError, Except.map]
  · have hcounts := mt Value.isTruthy_iff.2 htruthy
    simp only [Bool.not_eq_true] at htruthy
    simp only [htruthy, Bool.not_false, if_true]
    constructor
    · rintro ⟨rfl⟩
      exact .none hcounts
    · intro h
      cases h with
      | none => rfl
      | some hne htext =>
        subst htext
        exact absurd (.text hne) hcounts

/-- The options are those of a section, as far as they decide whether logging can be set up. A level that is given apart stands in for
that of the section, unless it is empty. -/
structure Options.IsFrom (o : Options) (sys : System) (entries : List (String × Value)) (override : Option String) : Prop where
  level_of_none : override = none → o.level = entry entries "level" (.text "WARNING")
  level_of_some : ∀ text, override = some text →
    o.level = if text.isEmpty then entry entries "level" (.text "WARNING") else .text text
  file_eq : o.file = entry entries "log_file" (.text "snmp-oid.log")
  maxBytes_eq : o.maxBytes = entry entries "max_bytes" (.integer (10 * 1024 * 1024))
  folder : FolderFor sys (entry entries "log_dir" .null) o.folder

/-- What the options of a section are. -/
theorem Options.isFrom_of_ofSection (h : ofSection sys entries override = .ok o) : o.IsFrom sys entries override := by
  obtain ⟨folder, hfolder, rfl⟩ := map_eq_ok_iff.1 h
  exact ⟨by rintro rfl; rfl, by rintro text rfl; rfl, rfl, rfl, folderOfValue_eq_ok_iff.1 hfolder⟩

/-- A section has options exactly if there is a folder that it asks for, or it asks for none. -/
theorem Options.exists_ofSection_iff :
    (∃ o, ofSection sys entries override = .ok o) ↔ ∃ folder, FolderFor sys (entry entries "log_dir" .null) folder := by
  simp only [← folderOfValue_eq_ok_iff, ofSection, map_eq_ok_iff]
  constructor
  · rintro ⟨-, folder, hfolder, -⟩
    exact ⟨folder, hfolder⟩
  · rintro ⟨folder, hfolder⟩
    exact ⟨_, folder, hfolder, rfl⟩

/-- The level is text if one is given apart, and else if that of the section is. -/
theorem Options.IsFrom.level_isText_iff (h : o.IsFrom sys entries override) :
    (∃ text, o.level = .text text) ↔ (∃ text, override = some text ∧ text ≠ "") ∨
      ∃ text, entry entries "level" (.text "WARNING") = .text text := by
  cases hoverride : override with
  | none => simp [h.level_of_none hoverride]
  | some text => by_cases hempty : text = "" <;> simp [h.level_of_some text hoverride, hempty]

/-! ## The log file -/

/-- A folder can be made: no file is in its place or on the way to it, and the system does not refuse it. -/
structure CanMake (sys : System) (folder : Path) (t : FileTree) : Prop where
  noFile : ∀ station ∈ FileTree.stations folder, t.isFile station = false
  allowed : sys.refusesFolder t folder = none

/-- A log file can be begun: no folder is in its place, the system does not refuse it, and it is there already or is a device or lies
in a folder. -/
structure CanBegin (sys : System) (path : Path) (t : FileTree) : Prop where
  noFolder : t.isFolder path = false
  allowed : sys.refusesFile t path = none
  placed : t.isFile path = true ∨ (∃ device, sys.device? path = some device) ∨
    (t.isFile path.dropLast = false ∧ t.isFolder path.dropLast = true)

/-- The log file that a section asks for can be opened in a folder: its name is text, its size is a number, and the folder can be made
and the file begun in it. -/
structure Opens (sys : System) (entries : List (String × Value)) (folder : Path) (t : FileTree) : Prop where
  canMake : CanMake sys folder t
  canBegin : ∃ name, entry entries "log_file" (.text "snmp-oid.log") = .text name ∧
    CanBegin sys (folder.within name) (t.addFolders folder)
  size : (entry entries "max_bytes" (.integer (10 * 1024 * 1024))).isNumber = true

/-- A folder is made exactly when it can be. -/
theorem makeFolder_eq_ok_iff {folder : Path} {t made : FileTree} :
    makeFolder sys folder t = .ok made ↔ CanMake sys folder t ∧ t.addFolders folder = made := by
  unfold makeFolder
  split
  · rename_i station hstation
    simp only [reduceCtorEq, false_iff, not_and]
    intro h
    have hfile := h.noFile station (List.mem_of_find?_eq_some hstation)
    rw [List.find?_some hstation] at hfile
    cases hfile
  · rename_i hnone
    have hnoFile : ∀ station ∈ FileTree.stations folder, t.isFile station = false := by
      simpa using List.find?_eq_none.1 hnone
    split
    · rename_i refusal hrefused
      simp only [reduceCtorEq, false_iff, not_and]
      intro h
      rw [h.allowed] at hrefused
      cases hrefused
    · rename_i hallowed
      rw [Except.ok.injEq]
      exact (and_iff_right ⟨hnoFile, hallowed⟩).symm

/-- A log file is begun exactly when it can be. -/
theorem exists_beginFile_iff {path : Path} {t : FileTree} : (∃ begun, beginFile sys path t = .ok begun) ↔ CanBegin sys path t := by
  have hcan : CanBegin sys path t ↔ t.isFolder path = false ∧ sys.refusesFile t path = none ∧
      (t.isFile path = true ∨ (sys.device? path).isSome = true ∨
        (t.isFile path.dropLast = false ∧ t.isFolder path.dropLast = true)) := by
    rw [Option.isSome_iff_exists]
    exact ⟨fun h => ⟨h.noFolder, h.allowed, h.placed⟩, fun h => ⟨h.1, h.2.1, h.2.2⟩⟩
  rw [hcan]
  unfold beginFile
  cases t.isFolder path with
  | true => simp
  | false =>
    cases sys.refusesFile t path with
    | some refusal => simp
    | none =>
      cases t.isFile path <;> cases (sys.device? path).isSome <;> cases t.isFile path.dropLast <;>
        cases t.isFolder path.dropLast <;> simp

/-- The log file is opened exactly when it can be. -/
theorem exists_openFile_iff (h : o.IsFrom sys entries override) {folder : Path} {t : FileTree} :
    (∃ log, (openFile sys o folder t).1 = .ok log) ↔ Opens sys entries folder t := by
  unfold openFile
  simp only [h.file_eq, h.maxBytes_eq]
  constructor
  · rintro ⟨log, hlog⟩
    split at hlog
    · cases hlog
    · rename_i made hmade
      obtain ⟨hcanMake, rfl⟩ := makeFolder_eq_ok_iff.1 hmade
      split at hlog
      · rename_i name hname
        split at hlog
        · cases hlog
        · rename_i hsize
          split at hlog
          · cases hlog
          · rename_i begun hbegun
            exact ⟨hcanMake, ⟨name, hname, exists_beginFile_iff.1 ⟨begun, hbegun⟩⟩, by simpa using hsize⟩
      · cases hlog
  · rintro ⟨hcanMake, ⟨name, hname, hcanBegin⟩, hsize⟩
    obtain ⟨begun, hbegun⟩ := exists_beginFile_iff.2 hcanBegin
    have hnumber : ¬(!(entry entries "max_bytes" (.integer (10 * 1024 * 1024))).isNumber) = true := by simpa using hsize
    simp only [makeFolder_eq_ok_iff.2 ⟨hcanMake, rfl⟩, hname, hbegun, if_neg hnumber]
    exact ⟨_, rfl⟩

/-! ## Setting logging up -/

/-- Logging can be set up as a section asks for: what it has for a folder does not count as true, or is a text that the system leads to
a folder; and unless logging is set up already, the level is text, unless one is given apart, and the log file can be opened in the
folder. -/
structure IsUsable (l : Loggers) (sys : System) (entries : List (String × Value)) (override : Option String) (t : FileTree) : Prop where
  level_isText : l.isSetUp = true ∨ (∃ text, override = some text ∧ text ≠ "") ∨
    ∃ text, entry entries "level" (.text "WARNING") = .text text
  folder_isUsable : (entry entries "log_dir" .null).CountsAsTrue → ∃ text folder, entry entries "log_dir" .null = .text text ∧
    sys.resolve text = .ok folder ∧ (l.isSetUp = true ∨ Opens sys entries folder t)

namespace Loggers

variable {l : Loggers} {t : FileTree}

/-- Logging is set up with options unless the level is no text or the log file cannot be opened, if it was not set up before. -/
theorem setUp_eq_ok_iff : (l.setUp sys o t).outcome = .ok () ↔
    l.isSetUp = true ∨ (∃ text, o.level = .text text) ∧
      ∀ folder, o.folder = some folder → ∃ log, (openFile sys o folder t).1 = .ok log := by
  unfold setUp
  cases hdone : l.isSetUp with
  | true => simp
  | false =>
    cases hlevel : o.level with
    | text text =>
      cases hfolder : o.folder with
      | none => simp
      | some folder =>
        cases hopened : openFile sys o folder t with
        | mk opened t' => cases opened <;> simp [hopened]
    | _ => simp

/-- Logging is set up as a section asks for exactly when the section can be used. -/
theorem configure_eq_ok_iff : (l.configure sys entries override t).outcome = .ok () ↔ IsUsable l sys entries override t := by
  unfold configure
  cases ho : Options.ofSection sys entries override with
  | error fault =>
    simp only [reduceCtorEq, false_iff]
    intro h
    obtain ⟨o, ho'⟩ : ∃ o, Options.ofSection sys entries override = .ok o := by
      rw [Options.exists_ofSection_iff]
      by_cases hcounts : (entry entries "log_dir" .null).CountsAsTrue
      · obtain ⟨text, folder, htext, hfolder, -⟩ := h.folder_isUsable hcounts
        refine ⟨_, .some ?_ htext hfolder⟩
        rintro rfl
        rw [htext] at hcounts
        cases hcounts with
        | text hne => exact hne rfl
      · exact ⟨_, .none hcounts⟩
    rw [ho] at ho'
    cases ho'
  | ok o =>
    have hfrom := Options.isFrom_of_ofSection ho
    simp only [setUp_eq_ok_iff, hfrom.level_isText_iff, exists_openFile_iff hfrom]
    have hasked := hfrom.folder
    generalize o.folder = folder at hasked ⊢
    cases hasked with
    | none hfalse =>
      simp only [reduceCtorEq, false_implies, implies_true, and_true]
      exact ⟨fun hlevel => ⟨hlevel, fun hcounts => absurd hcounts hfalse⟩, fun h => h.level_isText⟩
    | @some text folder hne htext hfolder =>
      simp only [Option.some.injEq, forall_eq']
      constructor
      · rintro (hdone | ⟨hlevel, hopens⟩)
        · exact ⟨.inl hdone, fun _ => ⟨text, folder, htext, hfolder, .inl hdone⟩⟩
        · exact ⟨.inr hlevel, fun _ => ⟨text, folder, htext, hfolder, .inr hopens⟩⟩
      · rintro ⟨hlevel, hopens⟩
        obtain ⟨text', folder', htext', hfolder', hopens⟩ := hopens (htext ▸ .text hne)
        obtain rfl : text = text' := Value.text.inj (htext.symm.trans htext')
        obtain rfl : folder = folder' := Except.ok.inj (hfolder.symm.trans hfolder')
        rw [or_iff_not_imp_left]
        exact fun hdone => ⟨hlevel.resolve_left hdone, hopens.resolve_left hdone⟩

end Loggers

end Logging

namespace CommandLine

/-- Logging is set up for a run exactly when the section for it is one and can be used. -/
theorem setUpLogging_eq_ok_iff {sys : System} {settings : Settings} {level : Option String} {s : Session} :
    (setUpLogging sys settings level s).1 = .ok () ↔
      ∃ entries, settings.logger = .ok entries ∧ Logging.IsUsable s.loggers sys entries level s.files := by
  unfold setUpLogging
  cases hsection : settings.logger with
  | error fault => simp
  | ok entries => simp [mapError_eq_ok_iff, Logging.Loggers.configure_eq_ok_iff]

variable {r : Request} {h : Host} {env : Environment} {s : Session} {settings : Settings}

/-- Under settings that are valid a run ends with an exit code exactly when the value for logging stands for a section, which it does
if it is a mapping, a list of pairs or nothing that counts as true, and this section can be used. The exit code is zero, or it is one
and an error line tells what is wrong. A section that is none or cannot be used ends the run before the command, with nothing written
at all. What is relied on is that the second encoder follows the format, and that a length that is to be encoded can be counted. -/
theorem ends_iff_logging_is_usable (hconfigured : r.IsConfigured h env s settings) (href : Reference.IsStandard h.reference)
    (hsize : r.command.FitsHeader) :
    ((∃ entries, settings.logger = .ok entries) ↔ ((settings.lookup "LOGGER").getD .null).IsSection) ∧
    ((∃ code, (r.run h env s).outcome = .ok code) ↔
      ∃ entries, settings.logger = .ok entries ∧ Logging.IsUsable s.loggers h.system entries r.level s.files) ∧
    (∀ code, (r.run h env s).outcome = .ok code → code = 0 ∨ code = 1 ∧ s.HasComplained (r.run h env s).session) ∧
    ∀ fault, (r.run h env s).outcome = .error fault →
      (setUpLogging h.system settings r.level s).1 = .error fault ∧
        (r.run h env s).session.stdout = s.stdout ∧ (r.run h env s).session.stderr = s.stderr := by
  refine ⟨Settings.exists_logger_iff, ?_⟩
  rw [← setUpLogging_eq_ok_iff]
  obtain ⟨limit, hlimit, -, hbroken, -⟩ := hconfigured.run_spec
  cases hsetUp : (setUpLogging h.system settings r.level s).1 with
  | error fault =>
    rw [hbroken fault hsetUp]
    exact ⟨by simp, nofun, fun fault' hfault => ⟨by simpa using hfault, r.prepared_silent h env settings s⟩⟩
  | ok _ =>
    obtain ⟨code, lines, hresult⟩ := r.command.exists_result settings.AsksForStrictRoot limit
    obtain ⟨hgives, -, hcomplained⟩ := hconfigured.run_gives hsetUp href hsize hlimit hresult
    refine ⟨iff_of_true ⟨code, hgives.outcome_eq⟩ rfl, fun code' hcode' => ?_, fun fault hfault => ?_⟩
    · obtain rfl : code = code' := Except.ok.inj (hgives.outcome_eq.symm.trans hcode')
      exact hresult.code_eq.imp_right fun hone => ⟨hone, hcomplained hone⟩
    · simp [hgives.outcome_eq] at hfault

/-- A session with a settings file that gives the level as a number. -/
def numericLevel : Session := sessionWith "logger:\n  level: 10\n"

/-- A request to print a text. -/
def printRequest : Request := requestFor (.parse ["1.3.6"] true)

/-- A level that is a number is no fault of the settings. -/
theorem isConfigured_numericLevel :
    printRequest.IsConfigured plainHost [] numericLevel [("LOGGER", .mapping [("level", .integer 10)])] := ⟨rfl, rfl⟩

/-- A level that is a number ends the run. -/
theorem outcome_numericLevel :
    (printRequest.run plainHost [] numericLevel).outcome = .error (.logging (.levelNotText .integer)) := rfl

/-- A level that is a number ends the run without a word. -/
theorem ends_iff_logging_is_usable_numericLevel :
    (printRequest.run plainHost [] numericLevel).outcome = .error (.logging (.levelNotText .integer)) ∧
      (printRequest.run plainHost [] numericLevel).session.stdout = [] ∧
      (printRequest.run plainHost [] numericLevel).session.stderr = "" := by
  obtain ⟨-, -, -, hsilent⟩ := ends_iff_logging_is_usable isConfigured_numericLevel Reference.isStandard_encode? trivial
  exact ⟨outcome_numericLevel, (hsilent _ outcome_numericLevel).2⟩

/-- Not every run under settings that are valid ends with an exit code. -/
theorem valid_settings_without_exit_code : ¬∀ args r env s settings, Request.read args = .ok r →
    r.IsConfigured plainHost env s settings →
      ∃ code, (r.run plainHost env s).outcome = .ok code ∧ (code = 0 ∨ code = 1) := by
  intro hends
  have hread : Request.read ["parse", "1.3.6"] = .ok printRequest := by rfl
  obtain ⟨code, houtcome, -⟩ := hends _ _ _ _ _ hread isConfigured_numericLevel
  rw [outcome_numericLevel] at houtcome
  cases houtcome

end CommandLine

end BerOid
