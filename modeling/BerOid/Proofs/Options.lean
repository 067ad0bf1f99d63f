import Mathlib
import BerOid.Proofs.Results
import BerOid.Settings.Options

/-!
# What settings ask for

The options are said here without regard to how they are found. Which values count as true is listed by their kinds
(`Value.CountsAsTrue`), and encoding is strict unless the value set for that does not (`Settings.strictRoot_eq_true_iff`). Which
integer a value stands for is listed too (`Value.StandsFor`); the limit is this integer if it is within the range, and every other
value is refused (`Settings.maxArc_spec`). The section for logging is one if its value does not count as true, or is a mapping, or is
a list of pairs (`Settings.exists_logger_iff`).
-/

namespace BerOid

/-! ## Truth -/

/-- The values that count as true. -/
inductive Value.CountsAsTrue : Value → Prop where
  | boolean : CountsAsTrue (.boolean true)
  | integer {n : Int} (h : n ≠ 0) : CountsAsTrue (.integer n)
  | real {x : Binary64} (h : ∀ negative e, x ≠ .finite negative 0 e) : CountsAsTrue (.real x)
  | text {s : String} (h : s ≠ "") : CountsAsTrue (.text s)
  | list {items : List Value} (h : items ≠ []) : CountsAsTrue (.list items)
  | mapping {entries : List (String × Value)} (h : entries ≠ []) : CountsAsTrue (.mapping entries)

/-- A number is a zero if its significand is. -/
theorem Binary64.isZero_iff {x : Binary64} : x.isZero = true ↔ ∃ negative e, x = .finite negative 0 e := by
  unfold isZero
  split
  · simp
  · rename_i hnot
    simp only [Bool.false_eq_true, false_iff, not_exists]
    exact fun negative e => hnot negative e

theorem Value.isTruthy_iff {v : Value} : v.isTruthy = true ↔ v.CountsAsTrue := by
  constructor
  · intro h
    cases v with
    | null => cases h
    | boolean b =>
      cases b with
      | false => cases h
      | true => exact .boolean
    | integer n => exact .integer (by simpa [isTruthy] using h)
    | real x =>
      refine .real fun negative e hx => ?_
      have hzero : x.isZero = true := Binary64.isZero_iff.2 ⟨negative, e, hx⟩
      simp [isTruthy, hzero] at h
    | text s => exact .text (by simpa [isTruthy] using h)
    | list items => exact .list (by simpa [isTruthy] using h)
    | mapping entries => exact .mapping (by simpa [isTruthy] using h)
  · intro h
    cases h with
    | boolean => rfl
    | integer h => simpa [isTruthy] using h
    | @real x h =>
      have hzero : x.isZero ≠ true := by
        rw [ne_eq, Binary64.isZero_iff]
        rintro ⟨negative, e, hx⟩
        exact h negative e hx
      simpa [isTruthy] using hzero
    | text h => simpa [isTruthy] using h
    | list h => simpa [isTruthy] using h
    | mapping h => simpa [isTruthy] using h

/-- Encoding is to be strict: nothing is set for it, or what is set counts as true. -/
def Settings.AsksForStrictRoot (s : Settings) : Prop := ∀ v, s.lookup "STRICT_ROOT" = some v → v.CountsAsTrue

/-- Encoding is strict exactly if it is to be. -/
theorem Settings.strictRoot_eq_true_iff {s : Settings} : s.strictRoot = true ↔ s.AsksForStrictRoot := by
  rw [strictRoot, get?, show Text.upper "strict_root" = "STRICT_ROOT" by cbv, AsksForStrictRoot]
  cases hset : s.lookup "STRICT_ROOT" with
  | none => simp [Value.isTruthy]
  | some v => simp [Value.isTruthy_iff]

/-! ## Limits -/

/-- The integer that a value stands for: a truth value is one or zero, a number is cut off at its point, a text is read. -/
inductive Value.StandsFor : Value → Int → Prop where
  | yes : StandsFor (.boolean true) 1
  | no : StandsFor (.boolean false) 0
  | integer (n : Int) : StandsFor (.integer n) n
  | real (negative : Bool) (m : Nat) (e : Int) : StandsFor (.real (.finite negative m e)) (Binary64.trunc negative m e)
  | text {s : String} {n : Int} (h : readInteger? s = some n) : StandsFor (.text s) n

/-- The value is an infinite number. -/
def Value.IsInfinite (v : Value) : Prop := ∃ negative, v = .real (.infinite negative)

/-- A value stands for one integer at most. -/
theorem Value.StandsFor.unique {v : Value} {n n' : Int} (h : v.StandsFor n) (h' : v.StandsFor n') : n = n' := by
  cases h with
  | text h =>
    cases h' with
    | text h' => exact Option.some.inj (h.symm.trans h')
  | _ =>
    cases h'
    rfl

/-- An infinite number stands for no integer. -/
theorem Value.StandsFor.not_isInfinite {v : Value} {n : Int} (h : v.StandsFor n) : ¬v.IsInfinite := by
  rintro ⟨negative, rfl⟩
  cases h

namespace Settings

variable {s : Settings}

/-- The value that is set for the limit, or that of the greatest arc if there is none. -/
def limitValue (s : Settings) : Value := (s.lookup "MAX_ARC").getD (.integer 65535)

/-- An integer is found for a value exactly if the value stands for it. -/
theorem integerOf_eq_ok_iff {v : Value} {n : Int} : integerOf v = .ok n ↔ v.StandsFor n := by
  constructor
  · intro h
    unfold integerOf at h
    split at h
    · rename_i b
      cases b <;> cases h
      · exact .no
      · exact .yes
    · cases h
      exact .integer _
    · cases h
      exact .real _ _ _
    · cases h
    · split at h
      · rename_i hread
        cases h
        exact .text hread
      · cases h
    · cases h
  · intro h
    cases h with
    | text h => simp only [integerOf, h]
    | _ => rfl

/-- A value for which no integer is found is infinite, or the message about it shows it. -/
theorem integerOf_eq_error {v : Value} {fault : LimitFault} (h : integerOf v = .error fault) :
    (v.IsInfinite ∧ fault = .infinite) ∨ (¬v.IsInfinite ∧ fault = .notAnInteger v) := by
  unfold integerOf at h
  split at h
  · cases h
  · cases h
  · cases h
  · cases h
    exact .inl ⟨⟨_, rfl⟩, rfl⟩
  · split at h
    · cases h
    · cases h
      exact .inr ⟨nofun, rfl⟩
  · rename_i hreal _
    cases h
    refine .inr ⟨?_, rfl⟩
    rintro ⟨negative, rfl⟩
    exact hreal _ rfl

/-- What the options make of a value for the limit. -/
inductive LimitOf (v : Value) : Except LimitFault Nat → Prop where
  | within {n : Nat} (h : v.StandsFor n) (hle : n ≤ Oid.maxArc) : LimitOf v (.ok n)
  | outside {n : Int} (h : v.StandsFor n) (hout : n < 0 ∨ Oid.maxArc < n) : LimitOf v (.error (.outOfRange n))
  | infinite (h : v.IsInfinite) : LimitOf v (.error .infinite)
  | notAnInteger (h : ∀ n, ¬v.StandsFor n) (hfinite : ¬v.IsInfinite) : LimitOf v (.error (.notAnInteger v))

/-- The limit is found under its key. -/
theorem get?_maxArc (s : Settings) : (s.get? "max_arc").getD (.integer Oid.maxArc) = s.limitValue := by
  rw [get?, show Text.upper "max_arc" = "MAX_ARC" by cbv]
  rfl

/-- The limit is what the options make of the value that is set. -/
theorem maxArc_spec (s : Settings) : LimitOf s.limitValue s.maxArc := by
  rw [maxArc, get?_maxArc]
  cases hinteger : integerOf s.limitValue with
  | error fault =>
    have hnone : ∀ n, ¬s.limitValue.StandsFor n := by
      intro n h
      rw [integerOf_eq_ok_iff.2 h] at hinteger
      cases hinteger
    rcases integerOf_eq_error hinteger with ⟨hinfinite, rfl⟩ | ⟨hfinite, rfl⟩
    · exact .infinite hinfinite
    · exact .notAnInteger hnone hfinite
  | ok n =>
    have hstands := integerOf_eq_ok_iff.1 hinteger
    by_cases hrange : 0 ≤ n ∧ n ≤ Oid.maxArc
    · simp only [if_pos hrange]
      obtain ⟨hnonneg, hle⟩ := hrange
      lift n to Nat using hnonneg
      exact .within hstands (by omega)
    · simp only [if_neg hrange]
      exact .outside hstands (by omega)

/-- There is a limit exactly if the value stands for it and it is no greater than the greatest arc. -/
theorem maxArc_eq_ok_iff {n : Nat} : s.maxArc = .ok n ↔ s.limitValue.StandsFor n ∧ n ≤ Oid.maxArc := by
  have hspec := s.maxArc_spec
  generalize s.maxArc = limit at hspec ⊢
  cases hspec with
  | within h hle =>
    rw [Except.ok.injEq]
    constructor
    · rintro rfl
      exact ⟨h, hle⟩
    · rintro ⟨h', -⟩
      exact Int.ofNat.inj (h.unique h')
  | outside h hout =>
    simp only [reduceCtorEq, false_iff, not_and]
    intro h' hle
    have := h.unique h'
    omega
  | infinite hinfinite => simp only [reduceCtorEq, false_iff, not_and]; exact fun h => absurd hinfinite h.not_isInfinite
  | notAnInteger h => simp only [reduceCtorEq, false_iff, not_and]; exact fun h' => absurd h' (h n)

/-- A limit is refused as infinite exactly if the value is. -/
theorem maxArc_eq_infinite_iff : s.maxArc = .error .infinite ↔ s.limitValue.IsInfinite := by
  have hspec := s.maxArc_spec
  generalize s.maxArc = limit at hspec ⊢
  cases hspec with
  | within h => simp [h.not_isInfinite]
  | outside h => simp [h.not_isInfinite]
  | infinite h => simp [h]
  | notAnInteger _ hfinite => simp [hfinite]

/-- Checking the options refuses what the limit is refused for. -/
theorem validate_eq_error_iff {fault : LimitFault} : s.validate = .error fault ↔ s.maxArc = .error fault := map_eq_error_iff

end Settings

/-! ## The section for logging -/

/-- The items that stand for a key and a value: a text of two characters, a list of two items of which the first can be a key and has a
text, and a mapping of two keys. -/
inductive Value.IsPair : Value → Prop where
  | text {s : String} {key v : Char} (h : s.toList = [key, v]) : IsPair (.text s)
  | list {key : Value} (v : Value) (hkey : ∀ items, key ≠ .list items) (hkey' : ∀ entries, key ≠ .mapping entries)
      (htext : ∀ n ∈ key.integers, isShowable n) : IsPair (.list [key, v])
  | mapping (entry entry' : String × Value) : IsPair (.mapping [entry, entry'])

/-- The values that stand for a mapping: those that do not count as true, mappings, and lists of pairs. -/
inductive Value.IsSection : Value → Prop where
  | none {v : Value} (h : ¬v.CountsAsTrue) : IsSection v
  | mapping (entries : List (String × Value)) : IsSection (.mapping entries)
  | list {items : List Value} (h : ∀ item ∈ items, item.IsPair) : IsSection (.list items)

namespace Settings

/-- A key has a text if every integer in it has one. -/
theorem hasText_iff {key : Value} : hasText key = true ↔ ∀ n ∈ key.integers, isShowable n := List.all_eq_true

/-- The values that can be keys are those that are no lists and no mappings. -/
theorem isKey_iff {key : Value} :
    isKey key = true ↔ (∀ items, key ≠ .list items) ∧ ∀ entries, key ≠ .mapping entries := by
  cases key <;> simp [isKey]

/-- An item stands for a pair whose key has a text exactly if it is one. -/
theorem pairOf_spec (index : Nat) {item : Value} :
    (∃ pair, pairOf index item = .ok pair ∧ hasText pair.1 = true) ↔ item.IsPair := by
  constructor
  · rintro ⟨pair, hpair, htext⟩
    cases item with
    | text s =>
      rw [pairOf] at hpair
      split at hpair
      · rename_i key v hs
        exact .text hs
      · cases hpair
    | list items =>
      match items, hpair with
      | [key, v], hpair =>
        rw [pairOf] at hpair
        split at hpair
        · rename_i hkey
          cases hpair
          exact .list v (isKey_iff.1 hkey).1 (isKey_iff.1 hkey).2 (hasText_iff.1 htext)
        · cases hpair
    | mapping entries =>
      match entries, hpair with
      | [_, _], _ => exact .mapping _ _
    | _ => cases hpair
  · intro h
    cases h with
    | text h =>
      refine ⟨(_, _), by simp only [pairOf, h]; rfl, rfl⟩
    | list v hkey hkey' htext => exact ⟨_, by rw [pairOf, if_pos (isKey_iff.2 ⟨hkey, hkey'⟩)], hasText_iff.2 htext⟩
    | mapping => exact ⟨_, rfl, rfl⟩

/-- The items of a list stand for pairs whose keys have texts exactly if each of them is one. -/
theorem pairsOf_spec (index : Nat) {items : List Value} :
    (∃ pairs, pairsOf index items = .ok pairs ∧ ∀ pair ∈ pairs, hasText pair.1 = true) ↔ ∀ item ∈ items, item.IsPair := by
  induction items generalizing index with
  | nil => simp [pairsOf]
  | cons item rest ih =>
    rw [List.forall_mem_cons, ← ih (index + 1), ← pairOf_spec index, pairsOf]
    constructor
    · rintro ⟨pairs, hpairs, htexts⟩
      cases hitem : pairOf index item with
      | error fault => simp [hitem, bind, Except.bind] at hpairs
      | ok pair =>
        cases hrest : pairsOf (index + 1) rest with
        | error fault => simp [hitem, hrest, bind, Except.bind] at hpairs
        | ok others =>
          simp only [hitem, hrest, bind, Except.bind, pure, Except.pure, Except.ok.injEq] at hpairs
          subst hpairs
          exact ⟨⟨_, rfl, htexts _ List.mem_cons_self⟩, _, rfl, fun p hp => htexts p (List.mem_cons_of_mem _ hp)⟩
    · rintro ⟨⟨pair, hitem, htext⟩, others, hrest, htexts⟩
      refine ⟨pair :: others, ?_, List.forall_mem_cons.2 ⟨htext, htexts⟩⟩
      simp [hitem, hrest, bind, Except.bind, pure, Except.pure]

/-- A value stands for a mapping exactly if it is a section. -/
theorem exists_sectionOf_iff {v : Value} : (∃ entries, sectionOf v = .ok entries) ↔ v.IsSection := by
  unfold sectionOf
  by_cases htruthy : v.isTruthy = true
  · have hcounts := Value.isTruthy_iff.1 htruthy
    simp only [htruthy, Bool.not_true, Bool.false_eq_true, if_false]
    cases v with
    | mapping entries => exact iff_of_true ⟨_, rfl⟩ (.mapping entries)
    | list items =>
      have hlist : Value.IsSection (.list items) ↔ ∀ item ∈ items, item.IsPair := by
        constructor
        · intro h
          cases h with
          | none h => exact absurd hcounts h
          | list h => exact h
        · exact .list
      rw [hlist, ← pairsOf_spec 0]
      cases hpairs : pairsOf 0 items with
      | error fault => simp [hpairs]
      | ok pairs =>
        simp only [hpairs, Except.ok.injEq, exists_eq_left', ← List.all_eq_true (p := fun pair : Value × Value => hasText pair.1)]
        cases pairs.all fun pair => hasText pair.1 <;> simp
    | _ =>
      refine iff_of_false nofun fun h => ?_
      cases h with
      | none h => exact h hcounts
  · have hcounts := mt Value.isTruthy_iff.2 htruthy
    rw [Bool.not_eq_true] at htruthy
    simp only [htruthy, Bool.not_false, if_true]
    exact iff_of_true ⟨_, rfl⟩ (.none hcounts)

/-- There is a section for logging exactly if the value set for it is one. -/
theorem exists_logger_iff {s : Settings} : (∃ entries, s.logger = .ok entries) ↔ ((s.lookup "LOGGER").getD .null).IsSection := by
  rw [logger, get?, show Text.upper "logger" = "LOGGER" by cbv, exists_sectionOf_iff]

end Settings

end BerOid
