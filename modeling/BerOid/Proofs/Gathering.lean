import Mathlib
import BerOid.Source

/-!
# Gathering bytes from a source

What one request takes from a source (`read_ok`, `read_error`), and the runs of `gatherFrom` as an induction: a run is over
before a request, after an answer without bytes or a failure, or it goes on after an answer with bytes (`gatherFrom_run`).
`Delivers` describes the sources that hand out given bytes in pieces before they end or fail; as long as they have enough,
gathering takes exactly the bytes wanted, wherever the pieces are cut (`gather_yields`).

A piece that is no longer than what is asked for is one answer, so every order of full, short, empty and failing answers is the run
of some source.
-/

namespace BerOid

namespace Source

/-- A source in memory holds its bytes. -/
theorem pending_ofBytes (data : List UInt8) : (ofBytes data).pending = data := by
  simp [pending, ofBytes, Piece.content]

/-! ## One answer -/

/-- The most bytes that an answer has. -/
def allowance (s : Source) (size : Int) (held : Nat) : Nat :=
  match s.chunk with
  | some chunk => min (if s.overDelivers then held else size.toNat) chunk
  | none => if s.overDelivers then held else size.toNat

/-- A source that does not over-deliver gives no more than it is asked for. -/
theorem allowance_le {s : Source} (h : s.overDelivers = false) (size : Int) (held : Nat) :
    s.allowance size held ≤ size.toNat := by
  unfold allowance
  rw [h]
  cases s.chunk with
  | none => exact Nat.le_refl _
  | some chunk => exact Nat.min_le_left _ _

/-- A source answers a size that it takes. -/
theorem read_of_takes {s : Source} {size : Int} (h : s.takes size) : s.read size = s.answer size := if_pos h

/-- A source refuses a size that it does not take, and is left as it was. -/
theorem read_of_not_takes {s : Source} {size : Int} (h : ¬s.takes size) : s.read size = (.error .oversized, s) := if_neg h

/-- A size that is an index is taken by every source. -/
theorem takes_of_lt {s : Source} {size : Int} (h : size < leastOversized) : s.takes size := by simp [takes, h]

/-- No more than what a source holds is always taken. -/
theorem takes_of_le {s : Source} {size : Int} (h : size ≤ s.pending.length) : s.takes size := by simp [takes, h]

/-- The answer of a source whose first piece has bytes. -/
theorem answer_bytes {s : Source} {data : List UInt8} {pieces : List Piece} (h : s.pieces = .bytes data :: pieces) (size : Int) :
    s.answer size =
      if data.length ≤ s.allowance size data.length then (.ok data, { s with pieces })
      else (.ok (data.take (s.allowance size data.length)),
        { s with pieces := .bytes (data.drop (s.allowance size data.length)) :: pieces }) := by
  rw [answer, h]
  rfl

/-- An answer takes its bytes from the front of what the source holds, and no more than asked for unless it over-delivers. -/
theorem answer_ok {s t : Source} {size : Int} {got : List UInt8} (h : s.answer size = (.ok got, t)) :
    s.pending = got ++ t.pending ∧ t.overDelivers = s.overDelivers ∧ t.takesIndices = s.takesIndices ∧
      (s.overDelivers = false → got.length ≤ size.toNat) := by
  cases hp : s.pieces with
  | nil =>
    simp only [answer, hp] at h
    cases h
    exact ⟨rfl, rfl, rfl, fun _ => Nat.zero_le _⟩
  | cons p pieces =>
    cases p with
    | failure reason =>
      simp only [answer, hp] at h
      cases h
    | bytes data =>
      rw [answer_bytes hp] at h
      split at h
      · rename_i hle
        cases h
        exact ⟨by simp [pending, hp, Piece.content], rfl, rfl, fun ho => Nat.le_trans hle (allowance_le ho _ _)⟩
      · cases h
        refine ⟨?_, rfl, rfl, fun ho => ?_⟩
        · simp [pending, hp, Piece.content, ← List.append_assoc]
        · exact Nat.le_trans (List.length_take_le _ _) (allowance_le ho _ _)

/-- Where there is no answer, no bytes are taken, and the source has failed. -/
theorem answer_error {s t : Source} {size : Int} {fault : ReadFault} (h : s.answer size = (.error fault, t)) :
    s.pending = t.pending ∧ t.overDelivers = s.overDelivers ∧ t.takesIndices = s.takesIndices ∧
      ∃ reason, fault = .failed reason := by
  cases hp : s.pieces with
  | nil =>
    simp only [answer, hp] at h
    cases h
  | cons p pieces =>
    cases p with
    | failure reason =>
      simp only [answer, hp] at h
      cases h
      exact ⟨by simp [pending, hp, Piece.content], rfl, rfl, reason, rfl⟩
    | bytes data =>
      rw [answer_bytes hp] at h
      split at h <;> cases h

/-- Bytes that a source gives are an answer. -/
theorem answer_eq_of_read {s t : Source} {size : Int} {got : List UInt8} (h : s.read size = (.ok got, t)) :
    s.answer size = (.ok got, t) := by
  by_cases htakes : s.takes size
  · rwa [read_of_takes htakes] at h
  · rw [read_of_not_takes htakes] at h
    cases h

/-- Bytes that a source gives are those at the front of what it holds, and no more than asked for unless it over-delivers. -/
theorem read_ok {s t : Source} {size : Int} {got : List UInt8} (h : s.read size = (.ok got, t)) :
    s.pending = got ++ t.pending ∧ t.overDelivers = s.overDelivers ∧ t.takesIndices = s.takesIndices ∧
      (s.overDelivers = false → got.length ≤ size.toNat) :=
  answer_ok (answer_eq_of_read h)

/-- A source that gives no answer keeps its bytes. It has failed, or the size is none that it takes. -/
theorem read_error {s t : Source} {size : Int} {fault : ReadFault} (h : s.read size = (.error fault, t)) :
    s.pending = t.pending ∧ t.overDelivers = s.overDelivers ∧ t.takesIndices = s.takesIndices ∧
      (fault = .oversized ↔ ¬s.takes size) := by
  by_cases htakes : s.takes size
  · rw [read_of_takes htakes] at h
    obtain ⟨hp, ho, hi, reason, rfl⟩ := answer_error h
    exact ⟨hp, ho, hi, by simp [htakes]⟩
  · rw [read_of_not_takes htakes] at h
    cases h
    exact ⟨rfl, rfl, rfl, by simp [htakes]⟩

/-! ## Runs -/

/-- A run that goes on: the bytes of the answer come before those of the rest of the run. -/
def proceed (asked : Int) (got : List UInt8) (r : Reading (List UInt8)) : Reading (List UInt8) :=
  { r with outcome := r.outcome.map (got ++ ·), requests := asked :: r.requests }

/-- Induction on the runs of `gatherFrom`. -/
theorem gatherFrom_run (wanted : Int) {motive : Nat → Source → Reading (List UInt8) → Prop}
    (done : ∀ (received : Nat) s, wanted ≤ (received : Int) → motive received s (.done [] s))
    (failed : ∀ (received : Nat) s t fault, (received : Int) < wanted →
      s.read (wanted - received) = (.error fault, t) →
      motive received s ⟨.error ⟨fault.cause received wanted, received⟩, [wanted - received], fault.notes received wanted, t⟩)
    (ended : ∀ (received : Nat) s t, (received : Int) < wanted → s.read (wanted - received) = (.ok [], t) →
      motive received s ⟨.error ⟨.sourceEnded received wanted, received⟩, [wanted - received],
        [.sourceEnded received wanted], t⟩)
    (more : ∀ (received : Nat) s t got r, (received : Int) < wanted → s.read (wanted - received) = (.ok got, t) →
      got ≠ [] → motive (received + got.length) t r → motive received s (proceed (wanted - received) got r))
    (received : Nat) (s : Source) : motive received s (gatherFrom wanted received s) := by
  induction hn : (wanted - received).toNat using Nat.strongRecOn generalizing received s with
  | ind n ih =>
    rw [gatherFrom]
    by_cases hlt : (received : Int) < wanted
    · rw [if_pos hlt]
      rcases hread : s.read (wanted - received) with ⟨answer, t⟩
      simp only [hread]
      cases answer with
      | error fault => exact failed received s t fault hlt hread
      | ok got =>
        cases got with
        | nil => exact ended received s t hlt hread
        | cons b others =>
          have hmore := ih (wanted - (received + (others.length + 1) : Nat)).toNat (by omega) _ t rfl
          exact more received s t (b :: others) _ hlt hread (List.cons_ne_nil _ _) hmore
    · rw [if_neg hlt]
      exact done received s (by omega)

/-! ## Sources that deliver -/

/-- The source hands out `data` in non-empty pieces, never more than it is asked for and never nothing, before the pieces `last`
decide how it goes on. -/
structure Delivers (s : Source) (data : List UInt8) (last : List Piece) : Prop where
  restrained : s.overDelivers = false
  chunk_ne_zero : s.chunk ≠ some 0
  cuts : ∃ parts : List (List UInt8), (∀ part ∈ parts, part ≠ []) ∧ parts.flatten = data ∧ s.pieces = parts.map .bytes ++ last

/-- What a source holds is what it delivers and what is behind that. -/
theorem Delivers.pending_eq {s : Source} {data : List UInt8} {last : List Piece} (h : s.Delivers data last) :
    s.pending = data ++ last.flatMap Piece.content := by
  obtain ⟨parts, -, rfl, hpieces⟩ := h.cuts
  have hparts : (parts.map Piece.bytes).flatMap Piece.content = parts.flatten := by
    rw [List.flatMap_map]
    exact List.flatMap_id'
  rw [pending, hpieces, List.flatMap_append, hparts]

/-- A source in memory delivers its bytes. -/
theorem delivers_ofBytes {data : List UInt8} (h : data ≠ []) : (ofBytes data).Delivers data [] :=
  ⟨rfl, nofun, [data], by simpa using h, by simp, rfl⟩

/-- A source that delivers may be asked for at least one byte. -/
theorem Delivers.allowance_pos {s : Source} {data : List UInt8} {last : List Piece} (h : s.Delivers data last) {size : Int}
    (hs : 0 < size) (held : Nat) : 0 < s.allowance size held := by
  have hchunk := h.chunk_ne_zero
  unfold allowance
  cases hc : s.chunk with
  | none =>
    simp [h.restrained]
    omega
  | some chunk =>
    have hne : chunk ≠ 0 := fun h0 => hchunk (by rw [hc, h0])
    simp [h.restrained]
    omega

/-- An answer of a source that delivers has a byte, and the source delivers the others. -/
theorem Delivers.read {s : Source} {data : List UInt8} {last : List Piece} (h : s.Delivers data last) {size : Int}
    (hs : 0 < size) (htakes : s.takes size) (hne : data ≠ []) :
    ∃ got rest t, s.read size = (.ok got, t) ∧ got ≠ [] ∧ data = got ++ rest ∧ t.Delivers rest last := by
  obtain ⟨parts, hparts, hdata, hpieces⟩ := h.cuts
  cases parts with
  | nil => exact absurd hdata.symm hne
  | cons part parts =>
    have hpart := hparts part List.mem_cons_self
    have htail : ∀ p ∈ parts, p ≠ [] := fun p hp => hparts p (List.mem_cons_of_mem _ hp)
    have hpos := h.allowance_pos hs part.length
    rw [List.flatten_cons] at hdata
    rw [List.map_cons, List.cons_append] at hpieces
    rw [read_of_takes htakes, answer_bytes hpieces]
    generalize s.allowance size part.length = n at hpos
    by_cases hle : part.length ≤ n
    · rw [if_pos hle]
      exact ⟨part, parts.flatten, _, rfl, hpart, hdata.symm, h.restrained, h.chunk_ne_zero, parts, htail, rfl, rfl⟩
    · rw [if_neg hle]
      refine ⟨part.take n, part.drop n ++ parts.flatten, _, rfl, ?_, ?_, h.restrained, h.chunk_ne_zero,
        part.drop n :: parts, ?_, rfl, rfl⟩
      · intro h0
        have hlen := congrArg List.length h0
        rw [List.length_take, List.length_nil] at hlen
        have := List.length_pos_iff.2 hpart
        omega
      · rw [← List.append_assoc, List.take_append_drop, hdata]
      · intro p hp
        rcases List.mem_cons.1 hp with rfl | hp
        · intro h0
          have := List.drop_eq_nil_iff.1 h0
          omega
        · exact htail p hp

/-- While bytes are missing, an answer of a source that delivers enough has some of them, and none behind them. -/
theorem Delivers.answer {s : Source} {missing rest : List UInt8} {last : List Piece} (h : s.Delivers (missing ++ rest) last)
    (hne : missing ≠ []) :
    ∃ got more t, s.read missing.length = (.ok got, t) ∧ got ≠ [] ∧ missing = got ++ more ∧
      t.Delivers (more ++ rest) last := by
  have hpos := List.length_pos_iff.2 hne
  have htakes : s.takes missing.length := by
    refine takes_of_le ?_
    rw [h.pending_eq, List.append_assoc, List.length_append]
    omega
  obtain ⟨got, behind, t, hread, hgot, hdata, ht⟩ := h.read (by omega) htakes (by simp [hne])
  have hle := (read_ok hread).2.2.2 h.restrained
  rcases List.append_eq_append_iff.1 hdata with ⟨extra, rfl, rfl⟩ | ⟨more, rfl, rfl⟩
  · have hextra : extra = [] := by
      apply List.eq_nil_of_length_eq_zero
      rw [List.length_append] at hle
      omega
    subst hextra
    exact ⟨_, [], t, hread, hgot, by simp, ht⟩
  · exact ⟨got, more, t, hread, hgot, rfl, ht⟩

end Source

/-- The reading has the outcome, and the source it leaves delivers `rest`. -/
structure Reading.Yields {α : Type} (r : Reading α) (outcome : Except DecodeError α) (rest : List UInt8) (last : List Piece) :
    Prop where
  outcome_eq : r.outcome = outcome
  delivers : r.rest.Delivers rest last

namespace Reading

variable {α β : Type} {r : Reading α} {outcome : Except DecodeError α} {rest : List UInt8} {last : List Piece}

/-- A changed result has the changed outcome. -/
theorem Yields.map (h : r.Yields outcome rest last) (f : α → β) : (r.map f).Yields (outcome.map f) rest last :=
  ⟨by rw [Reading.map, h.outcome_eq], h.delivers⟩

/-- Bytes taken before are counted in the outcome. -/
theorem Yields.after (h : r.Yields outcome rest last) (n : Nat) :
    (r.after n).Yields (outcome.mapError (·.after n)) rest last :=
  ⟨by rw [Reading.after, h.outcome_eq], h.delivers⟩

/-- After a result the next step has its outcome on what the source still delivers. -/
theorem Yields.andThen {a : α} {next : α → Source → Reading β} {outcome : Except DecodeError β} {behind : List UInt8}
    (h : r.Yields (.ok a) rest last) (hnext : ∀ s : Source, s.Delivers rest last → (next a s).Yields outcome behind last) :
    (r.andThen next).Yields outcome behind last := by
  obtain ⟨ho, hd⟩ := hnext r.rest h.delivers
  refine ⟨?_, ?_⟩
  · simp only [Reading.andThen, h.outcome_eq]
    exact ho
  · simp only [Reading.andThen, h.outcome_eq]
    exact hd

end Reading

/-- Gathering from a source that delivers enough takes exactly the bytes wanted. -/
theorem Source.gather_yields {s : Source} {data rest : List UInt8} {last : List Piece} (h : s.Delivers (data ++ rest) last) :
    (s.gather data.length).Yields (.ok data) rest last := by
  -- at every point of the run the source still delivers what is missing
  have hrun := gatherFrom_run data.length
    (motive := fun received s r => ∀ missing, s.Delivers (missing ++ rest) last → received + missing.length = data.length →
      r.Yields (.ok missing) rest last)
  have hanswer : ∀ (received : Nat) (s : Source) (missing : List UInt8), (received : Int) < data.length →
      s.Delivers (missing ++ rest) last → received + missing.length = data.length →
      ∃ got more t, s.read (data.length - received) = (.ok got, t) ∧ got ≠ [] ∧ missing = got ++ more ∧
        t.Delivers (more ++ rest) last := by
    intro received s missing hlt hs hlen
    have hne : missing ≠ [] := by
      rintro rfl
      rw [List.length_nil] at hlen
      omega
    have hasked : (data.length : Int) - received = missing.length := by omega
    rw [hasked]
    exact hs.answer hne
  refine hrun ?done ?failed ?ended ?more 0 s data h (Nat.zero_add _)
  case done =>
    intro received s hle missing hs hlen
    obtain rfl : missing = [] := List.eq_nil_of_length_eq_zero (by omega)
    exact ⟨rfl, hs⟩
  case failed =>
    intro received s t fault hlt hread missing hs hlen
    obtain ⟨got, more, t', hread', _⟩ := hanswer received s missing hlt hs hlen
    rw [hread'] at hread
    cases hread
  case ended =>
    intro received s t hlt hread missing hs hlen
    obtain ⟨got, more, t', hread', hgot, _⟩ := hanswer received s missing hlt hs hlen
    rw [hread'] at hread
    cases hread
    exact absurd rfl hgot
  case more =>
    intro received s t got r hlt hread hgot ih missing hs hlen
    obtain ⟨got', more, t', hread', _, rfl, ht⟩ := hanswer received s missing hlt hs hlen
    rw [hread'] at hread
    cases hread
    obtain ⟨hok, hrest⟩ := ih more ht (by rw [← hlen, List.length_append]; omega)
    exact ⟨by rw [proceed, hok]; rfl, hrest⟩

end BerOid
