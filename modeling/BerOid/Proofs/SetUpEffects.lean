import BerOid.Proofs.LevelNames
import BerOid.Proofs.LoggingFaults

/-!
# What setting logging up changes

Logging is set up with options that are given, or as a section of settings asks for (`Attempt`). What an attempt does is said once
(`Loggers.setUp_spec`, `Attempt.carryOut_spec`): the folder of a section is looked for first; then nothing is done if logging is set up
already; else a level that is no text is refused before anything is changed, and a log file that cannot be opened after the root logger
has taken the level and lost its handlers. So a failure leaves the loggers as they were exactly if its reason is found in the level or
in what is asked for as a folder, and never marks logging as set up (`failed_set_up_changes`).
-/

namespace BerOid.Logging

/-! ## Attempts -/

/-- A way of setting logging up: with options that are given, or as a section of settings asks for, with a level given apart. -/
inductive Attempt where
  | options (o : Options)
  | ofSection (entries : List (String × Value)) (override : Option String)

/-- Sets logging up, if that is to be done. -/
def Attempt.carryOut (l : Loggers) (sys : System) (t : FileTree) : Attempt → SetUp
  | options o => l.setUp sys o t
  | ofSection entries override => l.configure sys entries override t

/-- The options an attempt asks for. A section has a value for each of them or leaves it at its usual one, a level given apart stands
in for that of the section unless it is empty, and there is a console unless its value does not count as true. -/
inductive Attempt.Asks (sys : System) : Attempt → Options → Prop where
  | options (o : Options) : Asks sys (.options o) o
  | ofSection {entries : List (String × Value)} {override : Option String} {o : Options} (h : o.IsFrom sys entries override)
      (hconsole : o.console = true ↔ (entry entries "console" (.boolean true)).CountsAsTrue)
      (hbackups : o.backupCount = entry entries "backup_count" (.integer 5)) : Asks sys (.ofSection entries override) o

variable {sys : System} {l : Loggers} {o : Options} {t : FileTree}

/-- What the options of a section are is what the section asks for. -/
theorem Attempt.asks_of_ofSection {entries : List (String × Value)} {override : Option String}
    (h : Options.ofSection sys entries override = .ok o) : (ofSection entries override).Asks sys o := by
  have hfrom := Options.isFrom_of_ofSection h
  obtain ⟨folder, -, rfl⟩ := map_eq_ok_iff.1 h
  exact .ofSection hfrom Value.isTruthy_iff rfl

/-! ## Setting up -/

/-- The handler that writes to the console, if one is asked for. -/
def Options.consoleHandlers (o : Options) (level : Int) : List Handler := if o.console then [.console level] else []

/-- What setting logging up with options comes to. -/
inductive Loggers.SetsUp (l : Loggers) (sys : System) (o : Options) (t : FileTree) : SetUp → Prop where
  /-- Logging is set up already. -/
  | skipped (hdone : l.isSetUp = true) : SetsUp l sys o t ⟨.ok (), l, t⟩
  /-- The level is no text, which is found before anything is changed. -/
  | levelRefused (hopen : l.isSetUp = false) (hlevel : ∀ text, o.level ≠ .text text) :
      SetsUp l sys o t ⟨.error (.levelNotText o.level.kind), l, t⟩
  /-- The log file cannot be opened, which is found when the level is set and the handlers are gone. -/
  | fileRefused {text : String} {level : Int} {folder : Path} {fault : SetUpFault} {t' : FileTree} (hopen : l.isSetUp = false)
      (htext : o.level = .text text) (hlevel : AsksForLevel text level) (hfolder : o.folder = some folder)
      (hopened : openFile sys o folder t = (.error fault, t')) : SetsUp l sys o t ⟨.error fault, { l with level, handlers := [] }, t'⟩
  /-- No log file is asked for. -/
  | withoutFile {text : String} {level : Int} (hopen : l.isSetUp = false) (htext : o.level = .text text)
      (hlevel : AsksForLevel text level) (hfolder : o.folder = none) :
      SetsUp l sys o t ⟨.ok (), l.equipped level (o.consoleHandlers level), t⟩
  /-- The log file is opened. -/
  | withFile {text : String} {level : Int} {folder : Path} {log : LogFile} {t' : FileTree} (hopen : l.isSetUp = false)
      (htext : o.level = .text text) (hlevel : AsksForLevel text level) (hfolder : o.folder = some folder)
      (hopened : openFile sys o folder t = (.ok log, t')) :
      SetsUp l sys o t ⟨.ok (), l.equipped level (.file level log :: o.consoleHandlers level), t'⟩

/-- What setting logging up does. -/
theorem Loggers.setUp_spec (l : Loggers) (sys : System) (o : Options) (t : FileTree) : l.SetsUp sys o t (l.setUp sys o t) := by
  unfold setUp
  by_cases hdone : l.isSetUp = true
  · rw [if_pos hdone]
    exact .skipped hdone
  · rw [if_neg hdone]
    rw [Bool.not_eq_true] at hdone
    cases htext : o.level with
    | text text =>
      have hlevel := asksForLevel_iff.2 (rfl : levelOfText text = _)
      cases hfolder : o.folder with
      | none => exact .withoutFile hdone htext hlevel hfolder
      | some folder =>
        cases hopened : openFile sys o folder t with
        | mk opened t' =>
          simp only [hopened]
          cases opened with
          | error fault => exact .fileRefused hdone htext hlevel hfolder hopened
          | ok log => exact .withFile hdone htext hlevel hfolder hopened
    | _ =>
      have hnotText : ∀ text, o.level ≠ .text text := by simp [htext]
      have hrefused := @SetsUp.levelRefused l sys o t hdone hnotText
      rw [htext] at hrefused
      exact hrefused

/-- The reason of a failure lies in the level or in what is asked for as a folder, which are looked at before anything is changed. -/
inductive SetUpFault.IsEarly : SetUpFault → Prop where
  | level (kind : Value.Kind) : IsEarly (.levelNotText kind)
  | folder (kind : Value.Kind) : IsEarly (.folderNotText kind)
  | unresolved (refusal : Refusal) : IsEarly (.unresolved refusal)

/-- A section without options is refused for what it asks for as a folder. -/
theorem Options.isEarly_of_ofSection {entries : List (String × Value)} {override : Option String} {fault : SetUpFault}
    (h : ofSection sys entries override = .error fault) : fault.IsEarly := by
  have hfolder := map_eq_error_iff.1 h
  unfold folderOfValue at hfolder
  split at hfolder
  · cases hfolder
  · split at hfolder
    · obtain ⟨refusal, -, rfl⟩ := mapError_eq_error_iff.1 (map_eq_error_iff.1 hfolder)
      exact .unresolved refusal
    · cases hfolder
      exact .folder _

/-- What an attempt does: it sets logging up with the options it asks for, or it refuses what is asked for as a folder and changes
nothing. -/
theorem Attempt.carryOut_spec (a : Attempt) (l : Loggers) (sys : System) (t : FileTree) :
    (∃ o, a.Asks sys o ∧ l.SetsUp sys o t (a.carryOut l sys t)) ∨
      ∃ fault, fault.IsEarly ∧ a.carryOut l sys t = ⟨.error fault, l, t⟩ := by
  cases a with
  | options o => exact .inl ⟨o, .options o, l.setUp_spec sys o t⟩
  | ofSection entries override =>
    simp only [carryOut, Loggers.configure]
    cases ho : Options.ofSection sys entries override with
    | ok o => exact .inl ⟨o, asks_of_ofSection ho, l.setUp_spec sys o t⟩
    | error fault => exact .inr ⟨fault, Options.isEarly_of_ofSection ho, rfl⟩

/-! ## Failures -/

/-- A path that is blocked or refused is no early reason. -/
theorem not_isEarly_blocked (obstacle : Obstacle) (path : Path) : ¬(SetUpFault.blocked obstacle path).IsEarly := nofun

theorem not_isEarly_refused (refusal : Refusal) : ¬(SetUpFault.refused refusal).IsEarly := nofun

/-- A folder that cannot be made is blocked or refused. -/
theorem not_isEarly_of_makeFolder {folder : Path} {fault : SetUpFault} (h : makeFolder sys folder t = .error fault) :
    ¬fault.IsEarly := by
  unfold makeFolder at h
  split at h
  · cases h
    exact not_isEarly_blocked _ _
  · split at h
    · cases h
      exact not_isEarly_refused _
    · cases h

/-- A log file that cannot be begun is blocked or refused. -/
theorem not_isEarly_of_beginFile {path : Path} {fault : SetUpFault} (h : beginFile sys path t = .error fault) : ¬fault.IsEarly := by
  unfold beginFile at h
  split at h
  · cases h
    exact not_isEarly_blocked _ _
  · split at h
    · cases h
      exact not_isEarly_refused _
    · split at h
      · cases h
      · split at h
        · cases h
          exact not_isEarly_blocked _ _
        · split at h
          · cases h
            exact not_isEarly_blocked _ _
          · cases h

/-- A log file that cannot be opened is no early reason. -/
theorem not_isEarly_of_openFile {folder : Path} {fault : SetUpFault} {t' : FileTree}
    (h : openFile sys o folder t = (.error fault, t')) : ¬fault.IsEarly := by
  unfold openFile at h
  simp only at h
  split at h
  · rename_i fault' hmade
    cases h
    exact not_isEarly_of_makeFolder hmade
  · split at h
    · split at h
      · cases h
        nofun
      · split at h
        · rename_i fault' hbegun
          cases h
          exact not_isEarly_of_beginFile hbegun
        · cases h
    · cases h
      nofun

/-- What an attempt that fails changes. Logging is marked as set up only if it was before, and the other loggers keep their levels. If
the reason lies in the level or in what is asked for as a folder, the root logger keeps its level and its handlers, be logging set up
or not. For every other reason, which lies in the log file, logging was to be set up, and the root logger is left with the level that
was asked for and without handlers. -/
theorem failed_set_up_changes {a : Attempt} {fault : SetUpFault} (h : (a.carryOut l sys t).outcome = .error fault) :
    (a.carryOut l sys t).loggers.isSetUp = l.isSetUp ∧ (a.carryOut l sys t).loggers.named = l.named ∧
      (fault.IsEarly → (a.carryOut l sys t).loggers = l) ∧
      (¬fault.IsEarly → l.isSetUp = false ∧ ∃ o text level, a.Asks sys o ∧ o.level = .text text ∧ AsksForLevel text level ∧
        (a.carryOut l sys t).loggers = { l with level, handlers := [] }) := by
  rcases a.carryOut_spec l sys t with ⟨o, hasks, hsets⟩ | ⟨early, hearly, heq⟩
  · generalize a.carryOut l sys t = u at h hsets
    cases hsets with
    | skipped => cases h
    | withoutFile => cases h
    | withFile => cases h
    | levelRefused =>
      cases h
      exact ⟨rfl, rfl, fun _ => rfl, fun hlate => absurd (.level _) hlate⟩
    | @fileRefused text level folder _ t' hopen htext hlevel hfolder hopened =>
      cases h
      have hlate := not_isEarly_of_openFile hopened
      exact ⟨rfl, rfl, fun hearly => absurd hearly hlate, fun _ => ⟨hopen, o, text, level, hasks, htext, hlevel, rfl⟩⟩
  · rw [heq] at h ⊢
    cases h
    exact ⟨rfl, rfl, fun _ => rfl, fun hlate => absurd hearly hlate⟩

/-- Logging as it is left when it was set up for informative notes and then reset. -/
def informed : Loggers := (({} : Loggers).setUp {} { level := .text "INFO" } {}).loggers.reset

/-- A section that asks for a log file and gives its size in words. -/
def wordedSize : Attempt := .ofSection [("log_dir", .text "logs"), ("max_bytes", .text "10MB")] none

/-- A size in words is found too late. -/
theorem outcome_wordedSize : (wordedSize.carryOut informed {} {}).outcome = .error (.sizeNotNumber .text) := by cbv

/-- A size in words leaves the level of warnings and no handlers, and logging is still to be set up. -/
theorem failed_set_up_changes_wordedSize :
    (wordedSize.carryOut informed {} {}).loggers = { isSetUp := false, level := 30, handlers := [], named := informed.named } := by
  obtain ⟨-, -, -, hlate⟩ := failed_set_up_changes outcome_wordedSize
  obtain ⟨hopen, o, text, level, hasks, htext, hlevel, heq⟩ := hlate nofun
  have hwarning : o.level = .text "WARNING" := by
    cases hasks with
    | ofSection h => exact h.level_of_none rfl
  obtain rfl : "WARNING" = text := Value.text.inj (hwarning.symm.trans htext)
  obtain rfl : (30 : Int) = level := asksForLevel_iff.1 hlevel
  rw [heq, ← hopen]

/-- A failure does not always leave the root logger as it was. -/
theorem failed_set_up_is_not_undone : ¬∀ (a : Attempt) (l : Loggers) (sys : System) (t : FileTree) (fault : SetUpFault),
    l.isSetUp = false → (a.carryOut l sys t).outcome = .error fault →
      (a.carryOut l sys t).loggers.level = l.level ∧ (a.carryOut l sys t).loggers.handlers = l.handlers ∧
        (a.carryOut l sys t).loggers.isSetUp = false := by
  intro hundone
  obtain ⟨hlevel, -, -⟩ := hundone wordedSize informed {} {} _ rfl outcome_wordedSize
  exact absurd hlevel (by decide)

end BerOid.Logging
