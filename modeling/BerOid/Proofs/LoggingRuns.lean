import BerOid.Proofs.SetUpEffects

/-!
# Logging over runs

Logging over whole runs of attempts to set it up and of resets, each attempt on a system and with files of its own. An attempt is
effective if no other was made since the start or the last reset (`IsOpen`); it then gives the root logger its level and its handlers,
and the libraries' loggers their levels (`Loggers.IsAsAsked`), and no other logger one. Every other step leaves all of these as they
are, so handlers never add up: after a run without failures logging is as the last effective attempt asked for
(`logging_is_as_last_asked`).
-/

namespace BerOid.Logging

/-! ## What an effective attempt gives -/

/-- The log files that options ask for: none without a folder, else the one of the name in it, which may be a device. -/
inductive Options.LogFiles (sys : System) (o : Options) : List LogFile → Prop where
  | none (hfolder : o.folder = none) : LogFiles sys o []
  | one {folder : Path} {name : String} (hfolder : o.folder = some folder) (hfile : o.file = .text name) :
      LogFiles sys o [⟨folder.within name, o.maxBytes, o.backupCount, sys.device? (folder.within name)⟩]

/-- Logging is as options ask for: the root logger has the level, a handler for the log file if there is one and behind it one for the
console if it is wanted, and the loggers of the two libraries are quiet unless everything is to be shown. -/
structure Loggers.IsAsAsked (l : Loggers) (sys : System) (o : Options) : Prop where
  level_eq : ∃ text, o.level = .text text ∧ AsksForLevel text l.level
  handlers_eq : ∃ logs, o.LogFiles sys logs ∧ l.handlers = logs.map (.file l.level) ++ if o.console then [.console l.level] else []
  ownLevel_eq : ∀ name, name = "pysnmp" ∨ name = "pyasn1" → l.ownLevel name = if l.level ≤ 10 then 10 else 30

/-- The level of the root logger, its handlers and the levels of other loggers are the same. -/
structure Loggers.Alike (l l' : Loggers) : Prop where
  level_eq : l'.level = l.level
  handlers_eq : l'.handlers = l.handlers
  named_eq : l'.named = l.named

/-- The loggers of other names than those of the two libraries have the same levels. -/
def Loggers.KeepsOthers (l l' : Loggers) : Prop :=
  ∀ name, name ≠ "pysnmp" → name ≠ "pyasn1" → l'.ownLevel name = l.ownLevel name

namespace Loggers

variable {l l' : Loggers} {sys : System} {o : Options}

/-- Loggers that are alike are as asked for together. -/
theorem IsAsAsked.congr (h : l.IsAsAsked sys o) (halike : l.Alike l') : l'.IsAsAsked sys o := by
  obtain ⟨hlevel, hhandlers, hnamed⟩ := halike
  obtain ⟨hlevel', hhandlers', hlibraries⟩ := h
  have hown : ∀ name, l'.ownLevel name = l.ownLevel name := fun name => by rw [ownLevel, ownLevel, hnamed]
  exact ⟨by rwa [hlevel], by rwa [hlevel, hhandlers], fun name hname => by rw [hown, hlevel, hlibraries name hname]⟩

/-- Every handler asks for the level of the root logger. -/
theorem IsAsAsked.level_of_mem (h : l.IsAsAsked sys o) : ∀ handler ∈ l.handlers, handler.level = l.level := by
  obtain ⟨logs, -, heq⟩ := h.handlers_eq
  intro handler hmem
  rw [heq, List.mem_append, List.mem_map] at hmem
  rcases hmem with ⟨log, -, rfl⟩ | hmem
  · rfl
  · split at hmem
    · rw [List.mem_singleton.1 hmem]
      rfl
    · cases hmem

/-- There are at most two handlers. -/
theorem IsAsAsked.length_handlers_le (h : l.IsAsAsked sys o) : l.handlers.length ≤ 2 := by
  obtain ⟨logs, hlogs, heq⟩ := h.handlers_eq
  have hfiles : logs.length ≤ 1 := by
    cases hlogs with
    | none => exact Nat.zero_le 1
    | one => exact Nat.le_refl 1
  have hconsole : (if o.console then [Handler.console l.level] else []).length ≤ 1 := by
    split
    · exact Nat.le_refl 1
    · exact Nat.zero_le 1
  rw [heq, List.length_append, List.length_map]
  omega

/-- A logger that is given a level has it, and every other has the one it had. -/
theorem ownLevel_setLevel (l : Loggers) (name : String) (level : Int) (name' : String) :
    (l.setLevel name level).ownLevel name' = if name' = name then level else l.ownLevel name' := by
  have hfilter : ∀ named : List (String × Int), name' ≠ name → (named.filter (·.1 != name)).lookup name' = named.lookup name' := by
    intro named hne
    induction named with
    | nil => rfl
    | cons entry named ih =>
      obtain ⟨n, own⟩ := entry
      by_cases hn : n = name
      · have hother : (name' == n) = false := by rw [hn]; exact beq_eq_false_iff_ne.2 hne
        rw [List.filter_cons_of_neg (by simp [hn]), ih, List.lookup, hother]
      · rw [List.filter_cons_of_pos (by simpa using hn), List.lookup, List.lookup, ih]
  unfold ownLevel setLevel
  by_cases hname : name' = name
  · simp [hname]
  · rw [if_neg hname, List.lookup, beq_eq_false_iff_ne.2 hname, hfilter l.named hname]

/-- What is put in place by equipping: the level, the handlers, and the levels of the two libraries and of no other logger. -/
theorem equipped_spec (l : Loggers) (level : Int) (handlers : List Handler) :
    (l.equipped level handlers).level = level ∧ (l.equipped level handlers).handlers = handlers ∧
      ∀ name, (l.equipped level handlers).ownLevel name =
        if name = "pysnmp" ∨ name = "pyasn1" then if level ≤ 10 then 10 else 30 else l.ownLevel name := by
  have hlevel : libraryLevel level = if level ≤ 10 then 10 else 30 := rfl
  refine ⟨rfl, rfl, fun name => ?_⟩
  simp only [equipped, libraryNames, List.foldl_cons, List.foldl_nil, ownLevel_setLevel, hlevel]
  by_cases hasn1 : name = "pyasn1"
  · simp [hasn1]
  · by_cases hsnmp : name = "pysnmp"
    · simp [hsnmp]
    · simp only [hasn1, hsnmp, if_false, or_false]
      rfl

/-- Equipped loggers are as options ask for that have the level and the log files, and keep the others. -/
theorem isAsAsked_equipped (l : Loggers) {text : String} {level : Int} {logs : List LogFile} (htext : o.level = .text text)
    (hlevel : AsksForLevel text level) (hlogs : o.LogFiles sys logs) :
    (l.equipped level (logs.map (.file level) ++ o.consoleHandlers level)).IsAsAsked sys o ∧
      l.KeepsOthers (l.equipped level (logs.map (.file level) ++ o.consoleHandlers level)) := by
  obtain ⟨hlevel', hhandlers, hown⟩ := l.equipped_spec level (logs.map (.file level) ++ o.consoleHandlers level)
  generalize l.equipped level _ = l' at hlevel' hhandlers hown
  subst hlevel'
  refine ⟨⟨⟨text, htext, hlevel⟩, ⟨logs, hlogs, hhandlers⟩, fun name hname => ?_⟩, fun name hsnmp hasn1 => ?_⟩
  · rw [hown, if_pos hname]
  · rw [hown, if_neg (not_or.2 ⟨hsnmp, hasn1⟩)]

end Loggers

/-- An opened log file is the one that options ask for. -/
theorem logFiles_of_openFile {sys : System} {o : Options} {folder : Path} {t t' : FileTree} {log : LogFile}
    (hfolder : o.folder = some folder) (h : openFile sys o folder t = (.ok log, t')) : o.LogFiles sys [log] := by
  unfold openFile at h
  simp only at h
  split at h
  · cases h
  · split at h
    · rename_i name hname
      split at h
      · cases h
      · split at h
        · cases h
        · cases h
          exact .one hfolder hname
    · cases h

/-! ## Steps -/

/-- An attempt as it is made, on a system and with files that it finds. -/
structure Call where
  attempt : Attempt
  system : System := {}
  files : FileTree := {}

/-- What happens to logging: an attempt to set it up, or a reset. -/
inductive Step where
  | setUp (c : Call)
  | reset

namespace Loggers

variable {l l' l'' : Loggers} {e : Step}

/-- The loggers after a step, or why the step fails. -/
def step (l : Loggers) : Step → Except SetUpFault Loggers
  | .setUp c =>
    let u := c.attempt.carryOut l c.system c.files
    u.outcome.map fun _ => u.loggers
  | .reset => .ok l.reset

/-- An attempt that succeeds marks logging as set up. If it was not set up before, logging is then as asked for, with the other loggers
kept; if it was, nothing changes. -/
theorem step_setUp_spec {c : Call} (h : l.step (.setUp c) = .ok l') :
    l'.isSetUp = true ∧
      ((l.isSetUp = true ∧ l' = l) ∨
        l.isSetUp = false ∧ l.KeepsOthers l' ∧ ∃ o, c.attempt.Asks c.system o ∧ l'.IsAsAsked c.system o) := by
  obtain ⟨⟨⟩, houtcome, rfl⟩ := map_eq_ok_iff.1 h
  rcases c.attempt.carryOut_spec l c.system c.files with ⟨o, hasks, hsets⟩ | ⟨fault, -, heq⟩
  · generalize c.attempt.carryOut l c.system c.files = u at houtcome hsets
    cases hsets with
    | skipped hdone => exact ⟨hdone, .inl ⟨hdone, rfl⟩⟩
    | levelRefused => cases houtcome
    | fileRefused => cases houtcome
    | withoutFile hopen htext hlevel hfolder =>
      obtain ⟨hgiven, hkept⟩ := l.isAsAsked_equipped htext hlevel (.none hfolder)
      exact ⟨rfl, .inr ⟨hopen, hkept, o, hasks, hgiven⟩⟩
    | withFile hopen htext hlevel hfolder hopened =>
      obtain ⟨hgiven, hkept⟩ := l.isAsAsked_equipped htext hlevel (logFiles_of_openFile hfolder hopened)
      exact ⟨rfl, .inr ⟨hopen, hkept, o, hasks, hgiven⟩⟩
  · rw [heq] at houtcome
    cases houtcome

/-- A step that is no attempt on loggers that are to be set up leaves them alike. -/
theorem alike_of_step (h : l.step e = .ok l') (hineffective : ∀ c, e = .setUp c → l.isSetUp = true) : l.Alike l' := by
  cases e with
  | setUp c =>
    rcases (step_setUp_spec h).2 with ⟨-, rfl⟩ | ⟨hopen, -⟩
    · exact ⟨rfl, rfl, rfl⟩
    · rw [hineffective c rfl] at hopen
      cases hopen
  | reset =>
    cases h
    exact ⟨rfl, rfl, rfl⟩

/-- Every step keeps the loggers of other names. -/
theorem keepsOthers_of_step (h : l.step e = .ok l') : l.KeepsOthers l' := by
  cases e with
  | setUp c =>
    rcases (step_setUp_spec h).2 with ⟨-, rfl⟩ | ⟨-, hkept, -⟩
    · exact fun _ _ _ => rfl
    · exact hkept
  | reset =>
    cases h
    exact fun _ _ _ => rfl

/-- The loggers after steps, one by one, if none of them fails. -/
def run (l : Loggers) (steps : List Step) : Except SetUpFault Loggers := steps.foldlM step l

/-- A run of one more step is a run and that step. -/
theorem run_concat_eq_ok_iff {steps : List Step} :
    l.run (steps ++ [e]) = .ok l'' ↔ ∃ l', l.run steps = .ok l' ∧ l'.step e = .ok l'' := by
  rw [run, List.foldlM_append, ← run]
  cases l.run steps <;> simp [bind, Except.bind, pure, Except.pure]
  rename_i l'
  cases l'.step e <;> simp

end Loggers

/-! ## Effective attempts -/

/-- A sequence with one more item behind it is cut in front of an item at its end, or where it was cut before. -/
theorem concat_eq_append_cons_iff {α : Type} {l before after : List α} {x y : α} :
    l ++ [x] = before ++ y :: after ↔
      (after = [] ∧ before = l ∧ x = y) ∨ ∃ rest, after = rest ++ [x] ∧ l = before ++ y :: rest := by
  constructor
  · intro h
    rcases List.eq_nil_or_concat after with rfl | ⟨rest, z, rfl⟩
    · obtain ⟨rfl, rfl⟩ := List.append_singleton_inj.1 h
      exact .inl ⟨rfl, rfl, rfl⟩
    · rw [List.concat_eq_append, ← List.cons_append, ← List.append_assoc, List.append_singleton_inj] at h
      obtain ⟨rfl, rfl⟩ := h
      exact .inr ⟨rest, List.concat_eq_append, rfl⟩
  · rintro (⟨rfl, rfl, rfl⟩ | ⟨rest, rfl, rfl⟩)
    · rfl
    · simp

/-- Logging is to be set up after the steps: behind every attempt among them there is a reset. -/
def IsOpen (steps : List Step) : Prop := ∀ front c back, steps = front ++ Step.setUp c :: back → Step.reset ∈ back

/-- The last effective attempt among steps: when it was made nothing had been set up since the start or the last reset, and no attempt
behind it found logging so. -/
def IsLastEffective (steps : List Step) (c : Call) : Prop :=
  ∃ front back, steps = front ++ Step.setUp c :: back ∧ IsOpen front ∧
    ∀ before d after, back = before ++ Step.setUp d :: after → ¬IsOpen (front ++ Step.setUp c :: before)

variable {steps : List Step} {e : Step} {c d : Call}

/-- At the start logging is to be set up. -/
theorem isOpen_nil : IsOpen [] := by
  intro front c back h
  simp at h

/-- Behind an attempt logging is not to be set up. -/
theorem not_isOpen_concat_setUp : ¬IsOpen (steps ++ [Step.setUp c]) := by
  intro h
  cases h steps c [] rfl

/-- Behind a reset logging is to be set up. -/
theorem isOpen_concat_reset : IsOpen (steps ++ [Step.reset]) := by
  intro front c back h
  rcases concat_eq_append_cons_iff.1 h with ⟨-, -, heq⟩ | ⟨rest, rfl, -⟩
  · cases heq
  · simp

/-- An attempt made when logging is to be set up is the last effective one. -/
theorem isLastEffective_concat_of_isOpen (h : IsOpen steps) : IsLastEffective (steps ++ [Step.setUp d]) c ↔ c = d := by
  constructor
  · rintro ⟨front, back, heq, -, hlast⟩
    rcases concat_eq_append_cons_iff.1 heq with ⟨-, -, heq⟩ | ⟨rest, rfl, rfl⟩
    · cases heq
      rfl
    · exact absurd h (hlast rest d [] rfl)
  · rintro rfl
    refine ⟨steps, [], rfl, h, fun before d after hback => ?_⟩
    simp at hback

/-- A step that is no attempt, or one made when logging is not to be set up, leaves the last effective attempt the one it was. -/
theorem isLastEffective_concat_of_not_isOpen (h : ∀ d, e = .setUp d → ¬IsOpen steps) :
    IsLastEffective (steps ++ [e]) c ↔ IsLastEffective steps c := by
  constructor
  · rintro ⟨front, back, heq, hopen, hlast⟩
    rcases concat_eq_append_cons_iff.1 heq with ⟨-, rfl, rfl⟩ | ⟨rest, rfl, rfl⟩
    · exact absurd hopen (h c rfl)
    · refine ⟨front, rest, rfl, hopen, ?_⟩
      rintro before d after rfl
      exact hlast before d (after ++ [e]) (by simp)
  · rintro ⟨front, back, rfl, hopen, hlast⟩
    refine ⟨front, back ++ [e], by simp, hopen, fun before d after hback => ?_⟩
    rcases concat_eq_append_cons_iff.1 hback with ⟨-, rfl, rfl⟩ | ⟨rest, -, hback⟩
    · exact h d rfl
    · exact hlast before d rest hback

/-- Once an attempt was made there is a last effective one. -/
theorem exists_isLastEffective (h : ∃ c, .setUp c ∈ steps) : ∃ c, IsLastEffective steps c := by
  induction steps using List.reverseRecOn with
  | nil => simp at h
  | append_singleton steps e ih =>
    by_cases heffective : ∃ d, e = .setUp d ∧ IsOpen steps
    · obtain ⟨d, rfl, hopen⟩ := heffective
      exact ⟨d, (isLastEffective_concat_of_isOpen hopen).2 rfl⟩
    · have hnot : ∀ d, e = .setUp d → ¬IsOpen steps := fun d he hopen => heffective ⟨d, he, hopen⟩
      simp only [isLastEffective_concat_of_not_isOpen hnot]
      refine ih ?_
      obtain ⟨c, hc⟩ := h
      rcases List.mem_append.1 hc with hc | hc
      · exact ⟨c, hc⟩
      · -- the last step is an attempt that found logging set up, so one was made before
        have hclosed := hnot c (List.mem_singleton.1 hc).symm
        simp only [IsOpen, not_forall] at hclosed
        obtain ⟨front, d, back, rfl, -⟩ := hclosed
        exact ⟨d, by simp⟩

/-! ## Runs -/

/-- A run without failures keeps the loggers of other names. -/
theorem Loggers.keepsOthers_of_run {l l' : Loggers} (hrun : l.run steps = .ok l') : l.KeepsOthers l' := by
  induction steps using List.reverseRecOn generalizing l' with
  | nil =>
    cases hrun
    exact fun _ _ _ => rfl
  | append_singleton steps e ih =>
    obtain ⟨l₁, hbefore, hstep⟩ := run_concat_eq_ok_iff.1 hrun
    exact fun name hsnmp hasn1 => (keepsOthers_of_step hstep name hsnmp hasn1).trans (ih hbefore name hsnmp hasn1)

/-- After a run without failures logging is marked as set up exactly if it is not to be set up, and it is as the last effective attempt
asked for. -/
theorem Loggers.run_spec {l l' : Loggers} (hstart : l.isSetUp = false) (hrun : l.run steps = .ok l') :
    (l'.isSetUp = true ↔ ¬IsOpen steps) ∧
      ∀ c, IsLastEffective steps c → ∃ o, c.attempt.Asks c.system o ∧ l'.IsAsAsked c.system o := by
  induction steps using List.reverseRecOn generalizing l' with
  | nil =>
    cases hrun
    refine ⟨by simp [hstart, isOpen_nil], ?_⟩
    rintro c ⟨front, back, heq, -⟩
    simp at heq
  | append_singleton steps e ih =>
    obtain ⟨l₁, hbefore, hstep⟩ := run_concat_eq_ok_iff.1 hrun
    obtain ⟨hmark, hasked⟩ := ih hbefore
    by_cases heffective : ∃ d, e = .setUp d ∧ IsOpen steps
    · obtain ⟨d, rfl, hopen⟩ := heffective
      obtain ⟨hdone, hcases⟩ := step_setUp_spec hstep
      refine ⟨iff_of_true hdone not_isOpen_concat_setUp, fun c hc => ?_⟩
      obtain rfl := (isLastEffective_concat_of_isOpen hopen).1 hc
      rcases hcases with ⟨hset, -⟩ | ⟨-, -, hgiven⟩
      · exact absurd hopen (hmark.1 hset)
      · exact hgiven
    · have hnot : ∀ d, e = .setUp d → ¬IsOpen steps := fun d he hopen => heffective ⟨d, he, hopen⟩
      have halike := alike_of_step hstep fun d he => hmark.2 (hnot d he)
      refine ⟨?_, fun c hc => ?_⟩
      · cases e with
        | setUp d => exact iff_of_true (step_setUp_spec hstep).1 not_isOpen_concat_setUp
        | reset =>
          cases hstep
          simp [Loggers.reset, isOpen_concat_reset]
      · obtain ⟨o, hasks, his⟩ := hasked c ((isLastEffective_concat_of_not_isOpen hnot).1 hc)
        exact ⟨o, hasks, his.congr halike⟩

/-- Logging over runs. After steps none of which fails, made from where logging is not set up, it is as the last effective attempt
among them asked for, and there is such an attempt as soon as one was made. An attempt is effective if none was made since the start
or the last reset; each may find another system and other files. The root logger then has the level asked for, which is that of a name
in any case or that of warnings, and at most two handlers, which ask for this level too: the file first, if there is a folder, then
the console, if it is wanted. The loggers of the two libraries are as loud as that level allows, and those of other names have the
levels they had. Every other step, a reset or an attempt that is not effective, leaves the level, the handlers and the libraries'
levels alike. -/
theorem logging_is_as_last_asked {l l' : Loggers} (hstart : l.isSetUp = false) (hrun : l.run steps = .ok l') :
    ((∃ c, .setUp c ∈ steps) → ∃ c, IsLastEffective steps c) ∧
    (∀ c, IsLastEffective steps c → ∃ o, c.attempt.Asks c.system o ∧ l'.IsAsAsked c.system o ∧
      (∀ handler ∈ l'.handlers, handler.level = l'.level) ∧ l'.handlers.length ≤ 2) ∧
    l.KeepsOthers l' ∧
    ∀ e l'', (∀ c, e = .setUp c → ¬IsOpen steps) → l'.step e = .ok l'' → l'.Alike l'' := by
  obtain ⟨hmark, hasked⟩ := Loggers.run_spec hstart hrun
  refine ⟨exists_isLastEffective, fun c hc => ?_, Loggers.keepsOthers_of_run hrun, fun e l'' hnot hstep => ?_⟩
  · obtain ⟨o, hasks, his⟩ := hasked c hc
    exact ⟨o, hasks, his, his.level_of_mem, his.length_handlers_le⟩
  · exact Loggers.alike_of_step hstep fun c hc => hmark.2 (hnot c hc)

/-- A section that asks for a level and for no console, with another level given apart. -/
def quietSection : Call := ⟨.ofSection [("level", .text "ERROR"), ("console", .boolean false)] (some "debug"), {}, {}⟩

/-- Options that ask for a file. -/
def fileOptions : Call := ⟨.options { level := .text "INFO", folder := some ["logs"] }, {}, {}⟩

/-- The options that ask for no more than a console. -/
def plainOptions : Call := ⟨.options {}, {}, {}⟩

/-- Logging is set up with a file, once more without effect, and after a reset as a section asks for, once more without effect. -/
def mixedSteps : List Step := [.setUp fileOptions, .setUp plainOptions, .reset, .setUp quietSection, .setUp plainOptions]

/-- The section is what logging is set up with in the end: the level given apart holds for the libraries too, and no handler is left.
-/
theorem logging_is_as_last_asked_mixedSteps : ∃ l : Loggers, ({} : Loggers).run mixedSteps = .ok l ∧ l.level = 10 ∧
    l.handlers = [] ∧ l.ownLevel "pyasn1" = 10 ∧ l.ownLevel "urllib3" = 0 := by
  obtain ⟨l, hrun⟩ : ∃ l, ({} : Loggers).run mixedSteps = .ok l := ⟨_, rfl⟩
  have hopen : IsOpen ([.setUp fileOptions, .setUp plainOptions] ++ [Step.reset]) := isOpen_concat_reset
  have heffective : IsLastEffective (_ ++ [Step.setUp quietSection]) quietSection := (isLastEffective_concat_of_isOpen hopen).2 rfl
  have hlast : IsLastEffective (_ ++ [Step.setUp plainOptions]) quietSection :=
    (isLastEffective_concat_of_not_isOpen fun _ _ => not_isOpen_concat_setUp).2 heffective
  obtain ⟨-, hasked, hkept, -⟩ := logging_is_as_last_asked rfl hrun
  obtain ⟨o, hasks, his, -, -⟩ := hasked _ hlast
  cases hasks with
  | ofSection hfrom hconsole =>
    obtain ⟨text, htext, hlevel⟩ := his.level_eq
    have hgiven : o.level = .text "debug" := hfrom.level_of_some _ rfl
    obtain rfl : "debug" = text := Value.text.inj (hgiven.symm.trans htext)
    have hdebug : l.level = 10 := (asksForLevel_iff.1 hlevel).symm
    have hquiet : o.console = false := by
      rw [← Bool.not_eq_true, hconsole]
      exact nofun
    obtain ⟨logs, hlogs, hhandlers⟩ := his.handlers_eq
    refine ⟨l, hrun, hdebug, ?_, ?_, hkept "urllib3" (by decide) (by decide)⟩
    · cases hlogs with
      | none => rw [hhandlers, hquiet]; rfl
      | one hfolder =>
        have hnone := hfrom.folder
        rw [hfolder] at hnone
        cases hnone with
        | some _ htext => cases htext
    · rw [his.ownLevel_eq _ (.inr rfl), hdebug]
      rfl

end BerOid.Logging
