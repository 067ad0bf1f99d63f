import BerOid.Proofs.LoggingFaults

/-!
# Limits that are none

Any value may be set for the limit of arcs, and what the options make of it is said once (`Settings.maxArc_spec`): the limit is the
integer that the value stands for if it is within the range, and every other value is refused. A run that meets a refused limit reports
it in an error line and ends with the exit code one, unless the limit is infinite: no run reports that, and none then ends with an exit
code (`bad_limit_is_reported_iff`).
-/

namespace BerOid.CommandLine

variable {r : Request} {h : Host} {env : Environment} {s : Session} {settings : Settings} {fault : Settings.LimitFault}

/-- A limit that is refused ends a run before anything else: with an error line, unless it is infinite. -/
theorem Request.run_of_limitFault (hfound : (r.settings h env s).1 = .ok settings) (hfault : settings.maxArc = .error fault) :
    (fault ≠ .infinite → r.run h env s = ⟨.ok 1, (r.settings h env s).2.complain fault.message⟩) ∧
      (fault = .infinite → r.run h env s = ⟨.error (.limit .infinite), (r.settings h env s).2⟩) := by
  have hsettings : r.settings h env s = (.ok settings, (r.settings h env s).2) := Prod.ext hfound rfl
  rw [run, hsettings]
  simp only [runWith, hfault]
  cases fault with
  | infinite => exact ⟨fun h => absurd rfl h, fun _ => rfl⟩
  | notAnInteger raw => exact ⟨fun _ => rfl, fun h => by cases h⟩
  | outOfRange n => exact ⟨fun _ => rfl, fun h => by cases h⟩

/-- Limits that are refused. The limit is the integer that the value set for it stands for, if that is within the range, and checking
the options refuses whatever the limit is refused for. A run that finds settings whose limit is refused reports this in an error line,
and ends with the exit code one, exactly if the value is not infinite. An infinite value ends the run without an exit code, with
nothing written at all. Nothing but the shared configuration changes besides, and this is so for whatever reads the settings. -/
theorem bad_limit_is_reported_iff (settings : Settings) :
    (∀ n : Nat, settings.maxArc = .ok n ↔ settings.limitValue.StandsFor n ∧ n ≤ Oid.maxArc) ∧
    (∀ fault, settings.validate = .error fault ↔ settings.maxArc = .error fault) ∧
    ∀ fault, settings.maxArc = .error fault → ∀ (r : Request) h env s, (r.settings h env s).1 = .ok settings →
      ((r.run h env s).outcome = .ok 1 ↔ ¬settings.limitValue.IsInfinite) ∧
      (¬settings.limitValue.IsInfinite →
        ∃ registry, (r.run h env s).session = ({ s with registry } : Session).complain fault.message) ∧
      (settings.limitValue.IsInfinite → (r.run h env s).outcome = .error (.limit .infinite) ∧
        ∃ registry, (r.run h env s).session = { s with registry }) := by
  refine ⟨fun n => Settings.maxArc_eq_ok_iff, fun fault => Settings.validate_eq_error_iff, ?_⟩
  intro fault hfault r h env s hfound
  obtain ⟨hreported, hbroken⟩ := Request.run_of_limitFault hfound hfault
  have hsession := r.settings_session h env s
  rw [← Settings.maxArc_eq_infinite_iff, hfault, Except.error.injEq]
  by_cases hinfinite : fault = .infinite
  · rw [hbroken hinfinite]
    exact ⟨iff_of_false nofun fun h => h hinfinite, fun h => absurd hinfinite h, fun _ => ⟨rfl, _, hsession⟩⟩
  · rw [hreported hinfinite]
    have hcomplained := congrArg (Session.complain · fault.message) hsession
    exact ⟨iff_of_true rfl hinfinite, fun _ => ⟨_, hcomplained⟩, fun h => absurd h hinfinite⟩

/-- An infinite limit is found by a request to print a text. -/
theorem settings_infiniteLimit :
    (printRequest.settings plainHost [] (sessionWith "max_arc: .inf\n")).1 = .ok [("MAX_ARC", .real (.infinite false))] := rfl

/-- A limit above the greatest arc ends a run with an error line, an infinite one without a word. -/
theorem bad_limit_is_reported_iff_limitFile :
    (printRequest.run plainHost [] (sessionWith "max_arc: 65536\n")).session.stderr =
        "Error: max_arc must be within 0..65535, got 65536\n" ∧
      (printRequest.run plainHost [] (sessionWith "max_arc: .inf\n")).session.stderr = "" := by
  have hlarge : (printRequest.settings plainHost [] (sessionWith "max_arc: 65536\n")).1 = .ok [("MAX_ARC", .integer 65536)] := rfl
  obtain ⟨-, -, hreported⟩ := bad_limit_is_reported_iff [("MAX_ARC", .integer 65536)]
  obtain ⟨-, -, hbroken⟩ := bad_limit_is_reported_iff [("MAX_ARC", .real (.infinite false))]
  obtain ⟨-, hcomplaint, -⟩ := hreported (.outOfRange 65536) rfl _ _ _ _ hlarge
  obtain ⟨-, -, hsilent⟩ := hbroken .infinite rfl _ _ _ _ settings_infiniteLimit
  refine ⟨?_, ?_⟩
  · obtain ⟨registry, hsession⟩ := hcomplaint (by rintro ⟨negative, h⟩; cases h)
    have hmessage : (Settings.LimitFault.outOfRange 65536).message = "max_arc must be within 0..65535, got 65536" := by cbv
    rw [hsession, Session.complain, hmessage]
    rfl
  · obtain ⟨-, registry, hsession⟩ := hsilent ⟨false, rfl⟩
    rw [hsession]
    rfl

/-- Not every limit that is refused is reported. -/
theorem infinite_limit_without_exit_code : ¬∀ args r env s settings fault, Request.read args = .ok r →
    (r.settings plainHost env s).1 = .ok settings → settings.validate = .error fault → (r.run plainHost env s).outcome = .ok 1 := by
  intro hends
  have hread : Request.read ["parse", "1.3.6"] = .ok printRequest := rfl
  have houtcome := hends _ _ _ _ _ .infinite hread settings_infiniteLimit rfl
  cases houtcome

end BerOid.CommandLine
