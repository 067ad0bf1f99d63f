import Mathlib
import BerOid.Logging.Level

/-!
# Names of levels

A text is a name in any case if it is the name letter by letter, each letter in a form that has the letter of the name for its upper
form (`Text.IsInAnyCase`). Letters of ASCII have two such forms, and beyond ASCII there are two more; upper forms that are spelled
with several letters do not occur in the names of levels. So the level that a text asks for is said by the names alone: it is that of
the name which the text is in any case, and that of warnings if it is none (`Logging.asksForLevel_iff`).
-/

namespace BerOid

namespace Text

/-- The forms of a capital letter: itself and the small letter, the i without a dot and the long s. -/
inductive IsFormOf (capital : Char) : Char → Prop where
  | same : IsFormOf capital capital
  | small : IsFormOf capital capital.toLower
  | dotless (h : capital = 'I') : IsFormOf capital 'ı'
  | long (h : capital = 'S') : IsFormOf capital 'ſ'

/-- A text is a name, letter by letter and in any case. -/
def IsInAnyCase (name text : String) : Prop := List.Forall₂ IsFormOf name.toList text.toList

/-- A capital letter of ASCII. -/
def IsCapital (c : Char) : Prop := 65 ≤ c.toNat ∧ c.toNat ≤ 90

/-- Capital letters and their small letters have the capital letter for their upper form. -/
theorem upperForm_ascii : ∀ i : Fin 26, upperForm (Char.ofNat (65 + i)) = [Char.ofNat (65 + i)] ∧
    upperForm (Char.ofNat (65 + i)).toLower = [Char.ofNat (65 + i)] := by decide

/-- An ASCII character is its upper form or the small letter of it. -/
theorem eq_toUpper_or : ∀ i : Fin 128, Char.ofNat i = (Char.ofNat i).toUpper ∨ Char.ofNat i = (Char.ofNat i).toUpper.toLower := by
  decide

/-- Of the letters beyond ASCII only two have an upper form in ASCII. -/
theorem upperRuns_cases : ∀ r ∈ upperRuns, 128 ≤ r.first + r.shift ∨ (r.first = 0x131 ∧ r.last = 0x131 ∧ r.shift = -232) ∨
    (r.first = 0x17f ∧ r.last = 0x17f ∧ r.shift = -300) := by decide +kernel

/-- What is spelled has several letters. -/
theorem two_le_of_mem_upperSpelled : ∀ p ∈ upperSpelled, 2 ≤ p.2.length := by decide

/-- The upper form of a letter is one letter, or it is one of those that are spelled. -/
theorem upperForm_cases (c : Char) : (∃ u, upperForm c = [u]) ∨ ∃ p ∈ upperSpelled, upperForm c = p.2.map Char.ofNat := by
  unfold upperForm shiftCase
  split
  · exact .inl ⟨_, rfl⟩
  · split
    · rename_i hform
      exact .inr ⟨_, List.mem_of_find?_eq_some hform, rfl⟩
    · exact .inl ⟨_, rfl⟩
    · exact .inl ⟨_, rfl⟩

/-- Beyond ASCII only the i without a dot and the long s have a capital letter for their upper form. -/
theorem shiftCase_eq_singleton {u c : Char} (hu : IsCapital u) (hc : 128 ≤ c.toNat)
    (h : shiftCase upperRuns upperSpelled c = [u]) : IsFormOf u c := by
  obtain ⟨hlow, hhigh⟩ := hu
  unfold shiftCase at h
  split at h
  · rename_i p form hform
    have hlength := two_le_of_mem_upperSpelled _ (List.mem_of_find?_eq_some hform)
    have := congrArg List.length h
    rw [List.length_map, List.length_singleton] at this
    simp only at hlength
    omega
  · rename_i r _ hr
    have hholds := List.find?_some hr
    simp only [CaseRun.holds, Bool.and_eq_true, decide_eq_true_eq] at hholds
    have hletter : (Char.ofNat (c.toNat + r.shift).toNat).toNat = u.toNat := by rw [List.singleton_inj.1 h]
    rw [Char.toNat_ofNat] at hletter
    split at hletter
    · rcases upperRuns_cases r (List.mem_of_find?_eq_some hr) with habove | hdotless | hlong
      · omega
      · obtain rfl : c = 'ı' := Char.toNat_inj.1 (show c.toNat = 0x131 by omega)
        exact .dotless (Char.toNat_inj.1 (show u.toNat = 73 by omega))
      · obtain rfl : c = 'ſ' := Char.toNat_inj.1 (show c.toNat = 0x17f by omega)
        exact .long (Char.toNat_inj.1 (show u.toNat = 83 by omega))
    · omega
  · rw [List.singleton_inj.1 h] at hc
    omega

/-- The forms of a capital letter have it for their upper form. -/
theorem IsFormOf.upperForm_eq {u c : Char} (h : IsFormOf u c) (hu : IsCapital u) : upperForm c = [u] := by
  obtain ⟨hlow, hhigh⟩ := hu
  have hletter := upperForm_ascii ⟨u.toNat - 65, by omega⟩
  have hsum : 65 + (u.toNat - 65) = u.toNat := by omega
  rw [hsum, Char.ofNat_toNat] at hletter
  cases h with
  | same => exact hletter.1
  | small => exact hletter.2
  | dotless h =>
    rw [h]
    decide
  | long h =>
    rw [h]
    decide

/-- A character has a capital letter for its upper form exactly if it is a form of it. -/
theorem upperForm_eq_singleton_iff {u c : Char} (hu : IsCapital u) : upperForm c = [u] ↔ IsFormOf u c := by
  refine ⟨fun h => ?_, fun h => h.upperForm_eq hu⟩
  unfold upperForm at h
  split at h
  · rename_i hascii
    have hcases := eq_toUpper_or ⟨c.toNat, hascii⟩
    rw [Char.ofNat_toNat, List.singleton_inj.1 h] at hcases
    rcases hcases with rfl | rfl
    · exact .same
    · exact .small
  · exact shiftCase_eq_singleton hu (by omega) h

/-- The upper forms of characters are a name of capital letters, in which none that is spelled occurs, exactly if each character is a
form of the letter in its place. -/
theorem flatMap_upperForm_eq_iff {name cs : List Char} (hcapital : ∀ u ∈ name, IsCapital u)
    (hspelled : ∀ p ∈ upperSpelled, ¬p.2.map Char.ofNat <:+: name) :
    cs.flatMap upperForm = name ↔ List.Forall₂ IsFormOf name cs := by
  constructor
  · intro h
    induction cs generalizing name with
    | nil =>
      obtain rfl : name = [] := h.symm
      exact .nil
    | cons c cs ih =>
      rw [List.flatMap_cons] at h
      rcases upperForm_cases c with ⟨u, hform⟩ | ⟨p, hp, hform⟩
      · rw [hform, List.singleton_append] at h
        subst h
        obtain ⟨hu, hcapital⟩ := List.forall_mem_cons.1 hcapital
        have hrest : ∀ p ∈ upperSpelled, ¬p.2.map Char.ofNat <:+: cs.flatMap upperForm :=
          fun p hp h => hspelled p hp (h.trans (List.suffix_cons _ _).isInfix)
        exact .cons ((upperForm_eq_singleton_iff hu).1 hform) (ih hcapital hrest rfl)
      · rw [hform] at h
        exact absurd (h ▸ (List.prefix_append _ _).isInfix) (hspelled p hp)
  · intro h
    induction h with
    | nil => rfl
    | @cons u c name cs hform _ ih =>
      obtain ⟨hu, hcapital⟩ := List.forall_mem_cons.1 hcapital
      have hrest : ∀ p ∈ upperSpelled, ¬p.2.map Char.ofNat <:+: name :=
        fun p hp h => hspelled p hp (h.trans (List.suffix_cons _ _).isInfix)
      rw [List.flatMap_cons, (upperForm_eq_singleton_iff hu).2 hform, ih hcapital hrest, List.singleton_append]

end Text

namespace Logging

/-- The names of the levels. -/
inductive LevelName : String → Int → Prop where
  | critical : LevelName "CRITICAL" 50
  | fatal : LevelName "FATAL" 50
  | error : LevelName "ERROR" 40
  | warning : LevelName "WARNING" 30
  | warn : LevelName "WARN" 30
  | info : LevelName "INFO" 20
  | debug : LevelName "DEBUG" 10
  | notSet : LevelName "NOTSET" 0

/-- The level that a text asks for: that of the name which it is in any case, or that of warnings if it is no name. -/
inductive AsksForLevel (text : String) : Int → Prop where
  | named {name : String} {level : Int} (hname : LevelName name level) (h : Text.IsInAnyCase name text) : AsksForLevel text level
  | unnamed (h : ∀ name level, LevelName name level → ¬Text.IsInAnyCase name text) : AsksForLevel text 30

/-- The names are those that are looked up. -/
theorem lookup_levelNames_iff {name : String} {level : Int} : levelNames.lookup name = some level ↔ LevelName name level := by
  constructor
  · intro h
    obtain ⟨front, back, heq, -⟩ := List.lookup_eq_some_iff.1 h
    have hmem : (name, level) ∈ levelNames := by simp [heq]
    simp only [levelNames, List.mem_cons, Prod.mk.injEq, List.not_mem_nil, or_false] at hmem
    rcases hmem with ⟨rfl, rfl⟩ | ⟨rfl, rfl⟩ | ⟨rfl, rfl⟩ | ⟨rfl, rfl⟩ | ⟨rfl, rfl⟩ | ⟨rfl, rfl⟩ | ⟨rfl, rfl⟩ | ⟨rfl, rfl⟩
    · exact .critical
    · exact .fatal
    · exact .error
    · exact .warning
    · exact .warn
    · exact .info
    · exact .debug
    · exact .notSet
  · intro h
    cases h <;> decide

/-- The upper case of a text is the name of a level exactly if the text is this name in any case. -/
theorem upper_eq_iff {name text : String} {level : Int} (h : LevelName name level) :
    Text.upper text = name ↔ Text.IsInAnyCase name text := by
  have hcapital : ∀ u ∈ name.toList, Text.IsCapital u := by
    cases h <;> simp [Text.IsCapital]
  have hspelled : ∀ p ∈ Text.upperSpelled, ¬p.2.map Char.ofNat <:+: name.toList := by
    cases h <;> decide +kernel
  rw [Text.upper, ← String.toList_inj, String.toList_ofList]
  exact Text.flatMap_upperForm_eq_iff hcapital hspelled

/-- A text asks for the level that is found for it. -/
theorem asksForLevel_iff {text : String} {level : Int} : AsksForLevel text level ↔ levelOfText text = level := by
  unfold levelOfText
  cases hlookup : levelNames.lookup (Text.upper text) with
  | some found =>
    have hname := lookup_levelNames_iff.1 hlookup
    have hcase := (upper_eq_iff hname).1 rfl
    constructor
    · intro h
      cases h with
      | named hname' hcase' =>
        rw [(upper_eq_iff hname').2 hcase', lookup_levelNames_iff.2 hname'] at hlookup
        exact (Option.some.inj hlookup).symm
      | unnamed h => exact absurd hcase (h _ _ hname)
    · rintro rfl
      exact .named hname hcase
  | none =>
    have hnone : ∀ name level, LevelName name level → ¬Text.IsInAnyCase name text := by
      intro name level hname hcase
      rw [(upper_eq_iff hname).2 hcase, lookup_levelNames_iff.2 hname] at hlookup
      cases hlookup
    constructor
    · intro h
      cases h with
      | named hname hcase => exact absurd hcase (hnone _ _ hname)
      | unnamed => rfl
    · rintro rfl
      exact .unnamed hnone

end Logging

end BerOid
