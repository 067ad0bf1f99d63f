import Mathlib
import BerOid.Base128

/-!
# Subidentifiers in a byte sequence

A byte continues its subidentifier when its top bit is set. A complete subidentifier is a run of continuing bytes and one byte
that ends it; a byte sequence is cut behind every ending byte into complete subidentifiers and a run that is not finished
(`cut`, and `cut_flatten_append`: there is no other way to cut it). The value of bytes is read in base 128 from their low seven
bits and never shrinks while bytes are read, so the reader, which compares with the limit after every byte, refuses a
subidentifier or an unfinished run exactly when the value of all its bytes is above the limit, and then for the value of the first of
its fronts that is (`firstAbove?`).
-/

namespace BerOid.Base128

/-! ## Values -/

/-- The value of bytes read behind others of value `acc`. -/
def valueFrom (acc : Nat) (bytes : List UInt8) : Nat := bytes.foldl (fun n b => 128 * n + b.toNat % 128) acc

/-- The number that the low seven bits of the bytes write in base 128. -/
def value (bytes : List UInt8) : Nat := valueFrom 0 bytes

@[simp]
theorem valueFrom_nil (acc : Nat) : valueFrom acc [] = acc := rfl

@[simp]
theorem valueFrom_cons (acc : Nat) (b : UInt8) (rest : List UInt8) :
    valueFrom acc (b :: rest) = valueFrom (128 * acc + b.toNat % 128) rest := rfl

@[simp]
theorem valueFrom_append (acc : Nat) (front rest : List UInt8) :
    valueFrom acc (front ++ rest) = valueFrom (valueFrom acc front) rest := List.foldl_append

/-- Reading on never lowers the value. -/
theorem le_valueFrom (acc : Nat) (bytes : List UInt8) : acc ≤ valueFrom acc bytes := by
  induction bytes generalizing acc with
  | nil => exact Nat.le_refl _
  | cons b rest ih =>
    rw [valueFrom_cons]
    have h := ih (128 * acc + b.toNat % 128)
    omega

/-! ## Complete subidentifiers and unfinished runs -/

/-- A run of bytes that all continue: it ends inside a subidentifier. -/
def IsOpen (bytes : List UInt8) : Prop := ∀ b ∈ bytes, 128 ≤ b.toNat

/-- A complete subidentifier: the last byte ends it and the others continue. -/
def IsComplete (bytes : List UInt8) : Prop :=
  ∃ (run : List UInt8) (last : UInt8), bytes = run ++ [last] ∧ IsOpen run ∧ last.toNat < 128

theorem isOpen_nil : IsOpen [] := by simp [IsOpen]

theorem isOpen_cons {b : UInt8} {rest : List UInt8} : IsOpen (b :: rest) ↔ 128 ≤ b.toNat ∧ IsOpen rest := by
  simp [IsOpen]

/-- A complete subidentifier has a byte. -/
theorem IsComplete.ne_nil {bytes : List UInt8} (h : IsComplete bytes) : bytes ≠ [] := by
  obtain ⟨run, last, rfl, -, -⟩ := h
  simp

/-- One byte that ends is complete. -/
theorem isComplete_singleton {b : UInt8} (h : b.toNat < 128) : IsComplete [b] := ⟨[], b, rfl, isOpen_nil, h⟩

/-- A continuing byte in front of a complete subidentifier makes a complete subidentifier. -/
theorem IsComplete.cons {b : UInt8} {bytes : List UInt8} (hb : 128 ≤ b.toNat) (h : IsComplete bytes) :
    IsComplete (b :: bytes) := by
  obtain ⟨run, last, rfl, hrun, hlast⟩ := h
  exact ⟨b :: run, last, rfl, isOpen_cons.2 ⟨hb, hrun⟩, hlast⟩

/-! ## Cutting -/

/-- The complete subidentifiers of a byte sequence in order, and the unfinished run at its end. -/
def cut : List UInt8 → List (List UInt8) × List UInt8
  | [] => ([], [])
  | b :: rest =>
    if b.toNat < 128 then ([b] :: (cut rest).1, (cut rest).2)
    else match (cut rest).1 with
      | [] => ([], b :: (cut rest).2)
      | bytes :: others => ((b :: bytes) :: others, (cut rest).2)

/-- Cutting loses nothing, and the parts are what they are called. -/
theorem cut_spec (bytes : List UInt8) :
    bytes = (cut bytes).1.flatten ++ (cut bytes).2 ∧ (∀ g ∈ (cut bytes).1, IsComplete g) ∧ IsOpen (cut bytes).2 := by
  induction bytes with
  | nil => simp [cut, IsOpen]
  | cons b rest ih =>
    obtain ⟨hall, hcomplete, hopen⟩ := ih
    by_cases hb : b.toNat < 128
    · simp only [cut, if_pos hb, List.flatten_cons, List.cons_append, List.nil_append, List.mem_cons]
      refine ⟨by rw [← hall], ?_, hopen⟩
      rintro g (rfl | hg)
      · exact isComplete_singleton hb
      · exact hcomplete g hg
    · simp only [cut, if_neg hb]
      cases hcut : (cut rest).1 with
      | nil =>
        rw [hcut, List.flatten_nil, List.nil_append] at hall
        refine ⟨by simp [← hall], by simp, isOpen_cons.2 ⟨by omega, hopen⟩⟩
      | cons g others =>
        rw [hcut] at hall hcomplete
        refine ⟨by simpa using hall, ?_, hopen⟩
        intro x hx
        rcases List.mem_cons.1 hx with rfl | hx
        · exact (hcomplete g List.mem_cons_self).cons (by omega)
        · exact hcomplete x (List.mem_cons_of_mem _ hx)

/-- An unfinished run holds no complete subidentifier. -/
theorem cut_of_isOpen {run : List UInt8} (h : IsOpen run) : cut run = ([], run) := by
  induction run with
  | nil => rfl
  | cons b rest ih =>
    obtain ⟨hb, hrest⟩ := isOpen_cons.1 h
    rw [cut, if_neg (by omega), ih hrest]

/-- The first cut is behind a complete subidentifier at the front. -/
theorem cut_append {g : List UInt8} (h : IsComplete g) (rest : List UInt8) :
    cut (g ++ rest) = (g :: (cut rest).1, (cut rest).2) := by
  obtain ⟨run, last, rfl, hrun, hlast⟩ := h
  induction run with
  | nil => rw [List.nil_append, List.singleton_append, cut, if_pos hlast]
  | cons b run ih =>
    obtain ⟨hb, hrun⟩ := isOpen_cons.1 hrun
    rw [List.cons_append, List.cons_append, cut, if_neg (by omega), ih hrun]

/-- A sequence of complete subidentifiers and an unfinished run is cut into just these. -/
theorem cut_flatten_append {groups : List (List UInt8)} {run : List UInt8} (hg : ∀ g ∈ groups, IsComplete g)
    (hr : IsOpen run) : cut (groups.flatten ++ run) = (groups, run) := by
  induction groups with
  | nil => exact cut_of_isOpen hr
  | cons g groups ih =>
    rw [List.flatten_cons, List.append_assoc, cut_append (hg g List.mem_cons_self),
      ih fun x hx => hg x (List.mem_cons_of_mem _ hx)]

/-- A sequence of complete subidentifiers is cut into just these. -/
theorem cut_flatten {groups : List (List UInt8)} (hg : ∀ g ∈ groups, IsComplete g) : cut groups.flatten = (groups, []) := by
  have h := cut_flatten_append hg isOpen_nil
  rwa [List.append_nil] at h

/-! ## The reader -/

/-- A limit allows a value that is not above it; without a limit every value is allowed. -/
def Allows (limit : Option Int) (v : Nat) : Prop := ∀ l ∈ limit, (v : Int) ≤ l

theorem allows_some {l : Int} {v : Nat} : Allows (some l) v ↔ (v : Int) ≤ l := by simp [Allows]

/-- What is allowed with more bytes is allowed with fewer. -/
theorem Allows.of_valueFrom {limit : Option Int} {acc : Nat} {bytes : List UInt8}
    (h : Allows limit (valueFrom acc bytes)) : Allows limit acc := by
  intro l hl
  have h₁ := h l hl
  have h₂ := le_valueFrom acc bytes
  omega

/-- One step of the reader at an allowed value. -/
theorem decodeFrom_cons_of_allows {limit : Option Int} {acc : Nat} {b : UInt8} {rest : List UInt8}
    (h : Allows limit (128 * acc + b.toNat % 128)) :
    decodeFrom limit acc (b :: rest) =
      if b.toNat < 128 then .ok (128 * acc + b.toNat % 128, rest)
      else decodeFrom limit (128 * acc + b.toNat % 128) rest := by
  have hfilter : limit.filter (fun l => decide (l < ((128 * acc + b.toNat % 128 : Nat) : Int))) = none := by
    rw [Option.filter_eq_none_iff]
    intro l hl
    have := h l hl
    simp only [decide_eq_true_eq]
    omega
  simp only [decodeFrom, hfilter]

/-- One step of the reader at a value above the limit. -/
theorem decodeFrom_cons_of_above {l : Int} {acc : Nat} {b : UInt8} {rest : List UInt8}
    (h : l < ((128 * acc + b.toNat % 128 : Nat) : Int)) :
    decodeFrom (some l) acc (b :: rest) = .error (.aboveLimit (128 * acc + b.toNat % 128) l) := by
  simp only [decodeFrom, Option.filter_some, h, decide_true, if_true]

/-- The reader passes a run whose value is allowed. -/
theorem decodeFrom_open_append {limit : Option Int} {acc : Nat} {run : List UInt8} (hrun : IsOpen run)
    (h : Allows limit (valueFrom acc run)) (rest : List UInt8) :
    decodeFrom limit acc (run ++ rest) = decodeFrom limit (valueFrom acc run) rest := by
  induction run generalizing acc with
  | nil => rfl
  | cons b run ih =>
    obtain ⟨hb, hrun⟩ := isOpen_cons.1 hrun
    rw [valueFrom_cons] at h ⊢
    rw [List.cons_append, decodeFrom_cons_of_allows h.of_valueFrom, if_neg (by omega), ih hrun h]

/-- The value of the shortest front of bytes, of at least one byte, that is above a limit when they are read behind others of value
`acc`. -/
def firstAboveFrom? (l : Int) (acc : Nat) (bytes : List UInt8) : Option Nat :=
  (bytes.inits.tail.map (valueFrom acc)).find? fun v => l < (v : Int)

/-- The value of the shortest front of bytes, of at least one byte, that is above a limit. -/
def firstAbove? (l : Int) (bytes : List UInt8) : Option Nat := firstAboveFrom? l 0 bytes

theorem firstAboveFrom?_cons (l : Int) (acc : Nat) (b : UInt8) (rest : List UInt8) :
    firstAboveFrom? l acc (b :: rest) =
      if l < ((128 * acc + b.toNat % 128 : Nat) : Int) then some (128 * acc + b.toNat % 128)
      else firstAboveFrom? l (128 * acc + b.toNat % 128) rest := by
  have hinits : rest.inits = [] :: rest.inits.tail := by cases rest <;> rfl
  have hfronts : (b :: rest).inits.tail.map (valueFrom acc) =
      (128 * acc + b.toNat % 128) :: rest.inits.tail.map (valueFrom (128 * acc + b.toNat % 128)) := by
    rw [List.inits_cons, List.tail_cons, List.map_map, hinits, List.map_cons, List.tail_cons]
    rfl
  rw [firstAboveFrom?, hfronts, List.find?_cons, firstAboveFrom?]
  by_cases habove : l < ((128 * acc + b.toNat % 128 : Nat) : Int)
  · rw [if_pos habove, decide_eq_true habove]
  · rw [if_neg habove, decide_eq_false habove]

/-- The front that is found is above the limit, and its value is no greater than that of all the bytes. -/
theorem firstAboveFrom?_eq_some {l : Int} {acc v : Nat} {bytes : List UInt8} (h : firstAboveFrom? l acc bytes = some v) :
    l < (v : Int) ∧ v ≤ valueFrom acc bytes := by
  induction bytes generalizing acc with
  | nil => cases h
  | cons b rest ih =>
    rw [firstAboveFrom?_cons] at h
    rw [valueFrom_cons]
    split at h
    · rename_i habove
      cases h
      exact ⟨habove, le_valueFrom _ _⟩
    · exact ih h

/-- Bytes have no front above a limit exactly when they are none or are within it themselves. -/
theorem firstAboveFrom?_eq_none_iff {l : Int} {acc : Nat} {bytes : List UInt8} :
    firstAboveFrom? l acc bytes = none ↔ bytes = [] ∨ (valueFrom acc bytes : Int) ≤ l := by
  induction bytes generalizing acc with
  | nil => simp [firstAboveFrom?]
  | cons b rest ih =>
    have hle := le_valueFrom (128 * acc + b.toNat % 128) rest
    rw [firstAboveFrom?_cons, valueFrom_cons]
    by_cases habove : l < ((128 * acc + b.toNat % 128 : Nat) : Int)
    · simp only [if_pos habove, reduceCtorEq, false_or, false_iff]
      omega
    · rw [if_neg habove, ih]
      constructor
      · rintro (rfl | h)
        · exact .inr (by rw [valueFrom_nil]; omega)
        · exact .inr h
      · rintro (h | h)
        · cases h
        · exact .inr h

theorem firstAbove?_eq_none_iff {l : Int} {bytes : List UInt8} (hne : bytes ≠ []) :
    firstAbove? l bytes = none ↔ (value bytes : Int) ≤ l := by
  rw [firstAbove?, firstAboveFrom?_eq_none_iff, value]
  simp [hne]

theorem exists_firstAbove? {l : Int} {bytes : List UInt8} (hne : bytes ≠ []) (h : l < (value bytes : Int)) :
    ∃ v, firstAbove? l bytes = some v :=
  Option.ne_none_iff_exists'.1 fun hnone => by
    have := (firstAbove?_eq_none_iff hne).1 hnone
    omega

/-- The reader refuses bytes of which all but the last continue for the first of their fronts above the limit, whatever follows. -/
theorem decodeFrom_append_of_firstAbove {l : Int} {acc v : Nat} {front : List UInt8} (hopen : IsOpen front.dropLast)
    (h : firstAboveFrom? l acc front = some v) (rest : List UInt8) :
    decodeFrom (some l) acc (front ++ rest) = .error (.aboveLimit v l) := by
  induction front generalizing acc with
  | nil => cases h
  | cons b tail ih =>
    rw [firstAboveFrom?_cons] at h
    rw [List.cons_append]
    split at h
    · rename_i habove
      cases h
      exact decodeFrom_cons_of_above habove
    · rename_i hwithin
      -- a front behind this byte is above the limit, so the byte is not the last and continues
      obtain ⟨c, others, rfl⟩ : ∃ c others, tail = c :: others := by
        cases tail with
        | nil => cases h
        | cons c others => exact ⟨c, others, rfl⟩
      obtain ⟨hb, hothers⟩ := isOpen_cons.1 (show IsOpen (b :: (c :: others).dropLast) from hopen)
      rw [decodeFrom_cons_of_allows (allows_some.2 (by omega)), if_neg (by omega)]
      exact ih hothers h

/-- The reader refuses within a run whose value is above the limit. -/
theorem decodeFrom_open_append_of_above {l : Int} {acc : Nat} {run : List UInt8} (hrun : IsOpen run) (hne : run ≠ [])
    (h : l < (valueFrom acc run : Int)) (rest : List UInt8) :
    ∃ v, decodeFrom (some l) acc (run ++ rest) = .error (.aboveLimit v l) := by
  have hsome : firstAboveFrom? l acc run ≠ none := by
    rw [ne_eq, firstAboveFrom?_eq_none_iff, not_or]
    exact ⟨hne, by omega⟩
  obtain ⟨v, hv⟩ := Option.ne_none_iff_exists'.1 hsome
  exact ⟨v, decodeFrom_append_of_firstAbove (fun b hb => hrun b (List.mem_of_mem_dropLast hb)) hv rest⟩

/-- A complete subidentifier of an allowed value is read, and reading stops behind it. -/
theorem decode_complete {limit : Option Int} {g : List UInt8} (hg : IsComplete g) (h : Allows limit (value g))
    (rest : List UInt8) : decode limit (g ++ rest) = .ok (value g, rest) := by
  obtain ⟨run, last, rfl, hrun, hlast⟩ := hg
  rw [value, valueFrom_append] at h ⊢
  rw [decode, List.append_assoc, decodeFrom_open_append hrun h.of_valueFrom, List.singleton_append,
    decodeFrom_cons_of_allows h, if_pos hlast, valueFrom_cons, valueFrom_nil]

/-- All bytes of a complete subidentifier but the last continue. -/
theorem IsComplete.isOpen_dropLast {g : List UInt8} (hg : IsComplete g) : IsOpen g.dropLast := by
  obtain ⟨run, last, rfl, hrun, -⟩ := hg
  rwa [List.dropLast_concat]

/-- A complete subidentifier of a value above the limit is refused, whatever follows it. -/
theorem decode_complete_of_above {l : Int} {g : List UInt8} (hg : IsComplete g) (h : l < (value g : Int))
    (rest : List UInt8) : ∃ v, decode (some l) (g ++ rest) = .error (.aboveLimit v l) := by
  obtain ⟨v, hv⟩ := exists_firstAbove? hg.ne_nil h
  exact ⟨v, decodeFrom_append_of_firstAbove hg.isOpen_dropLast hv rest⟩

/-- An unfinished run is refused: for its value if that is above the limit, else for its end. -/
theorem decode_open {l : Int} {run : List UInt8} (hrun : IsOpen run) (hne : run ≠ []) :
    (l < (value run : Int) → ∃ v, decode (some l) run = .error (.aboveLimit v l)) ∧
      ((value run : Int) ≤ l → decode (some l) run = .error .unfinished) := by
  refine ⟨fun h => ?_, fun h => ?_⟩
  · have := decodeFrom_open_append_of_above hrun hne h []
    rwa [List.append_nil] at this
  · have := decodeFrom_open_append hrun (allows_some.2 h) []
    rwa [List.append_nil] at this

/-! ## The writer -/

/-- The continuing bytes of a number all continue and write that number. -/
theorem continued_spec (n : Nat) : IsOpen (continued n) ∧ value (continued n) = n := by
  induction n using Nat.strongRecOn with
  | ind n ih =>
    rw [continued]
    split
    · rename_i h
      exact ⟨isOpen_nil, h.symm⟩
    · obtain ⟨hopen, hvalue⟩ := ih (n / 128) (by omega)
      have hbyte : (UInt8.ofNat (n % 128 + 128)).toNat = n % 128 + 128 := by
        rw [UInt8.toNat_ofNat']
        omega
      refine ⟨?_, ?_⟩
      · intro b hb
        rcases List.mem_append.1 hb with hb | hb
        · exact hopen b hb
        · rw [List.mem_singleton.1 hb, hbyte]
          omega
      · rw [value] at hvalue ⊢
        rw [valueFrom_append, hvalue, valueFrom_cons, valueFrom_nil, hbyte]
        omega

/-- The last byte of a written number. -/
theorem toNat_lastByte (n : Nat) : (UInt8.ofNat (n % 128)).toNat = n % 128 := by
  rw [UInt8.toNat_ofNat']
  omega

/-- A number takes no more bytes than a power of 128 above it says. -/
theorem length_continued_le {n k : Nat} (h : n < 128 ^ k) : (continued n).length ≤ k := by
  induction k generalizing n with
  | zero =>
    have hzero : n = 0 := by omega
    subst hzero
    rw [continued, if_pos rfl]
    exact Nat.le_refl _
  | succ k ih =>
    rw [continued]
    split
    · exact Nat.zero_le _
    · have := ih (n := n / 128) (by rw [Nat.div_lt_iff_lt_mul (by decide), ← Nat.pow_succ]; exact h)
      rw [List.length_append, List.length_singleton]
      omega

theorem length_encode_le_of_lt {n k : Nat} (hk : 0 < k) (h : n < 128 ^ k) : (encode n).length ≤ k := by
  obtain ⟨k, rfl⟩ := Nat.exists_eq_add_one.2 hk
  have := length_continued_le (n := n / 128) (k := k) (by rw [Nat.div_lt_iff_lt_mul (by decide), ← Nat.pow_succ]; exact h)
  rw [encode, List.length_append, List.length_singleton]
  omega

/-- A written number is a complete subidentifier. -/
theorem isComplete_encode (n : Nat) : IsComplete (encode n) :=
  ⟨continued (n / 128), UInt8.ofNat (n % 128), rfl, (continued_spec _).1, by rw [toNat_lastByte]; omega⟩

/-- A written number has its value. -/
@[simp]
theorem value_encode (n : Nat) : value (encode n) = n := by
  have h := (continued_spec (n / 128)).2
  rw [value] at h ⊢
  rw [encode, valueFrom_append, h, valueFrom_cons, valueFrom_nil, toNat_lastByte]
  omega

end BerOid.Base128
