import BerOid.Proofs.CanonicalText
import BerOid.Proofs.Refusals

/-!
# Text and list

A sequence of integers may be handed in as a list, or printed with a dot before every integer or between each two. The list is
checked integer by integer and the text token by token, but the tokens of a printed sequence are its printed integers, and a printed
integer is a good token exactly when the integer is an arc. So both ways find the same first integer that is no arc
(`Oid.ofValue_list_of_isFirstOutside`, `Oid.parse_of_isFirstOutside`) or, if there is none, the same object identifier, and what is
written or refused is then the same (`Payload.text_agrees_with_list`).
-/

namespace BerOid

namespace Oid

/-! ## The first integer that is no arc -/

/-- The integer is an arc. -/
def IsArc (a : Int) : Prop := 0 ≤ a ∧ a ≤ maxArc

/-- The integer is the first of the sequence that is no arc. -/
def IsFirstOutside (arcs : List Int) (a : Int) : Prop :=
  ∃ before after, arcs = before ++ a :: after ∧ (∀ x ∈ before, IsArc x) ∧ ¬IsArc a

/-- An integer is an arc exactly when it is admitted in a list. -/
theorem isArc_iff_arcOfValue {a : Int} : IsArc a ↔ ∃ arc, arcOfValue (.integer a) = .ok arc := by
  simp only [arcOfValue_integer, IsArc]
  constructor
  · intro h
    exact ⟨a.toNat, by omega, by omega⟩
  · rintro ⟨arc, rfl, hle⟩
    omega

/-- An integer is an arc exactly when it is printed as a token that writes one. -/
theorem isArc_iff_isArcToken {a : Int} : IsArc a ↔ IsArcToken (arcText a) := by
  rw [isArc_iff_arcOfValue, isArcToken_arcText_iff]
  simp only [arcOfValue_integer]

/-- Every sequence has a first integer that is no arc, or is an object identifier. -/
theorem exists_isFirstOutside_or (arcs : List Int) :
    (∃ a, IsFirstOutside arcs a) ∨ ∃ oid : Oid, arcs = oid.toInts ∧ ∀ arc ∈ oid, arc ≤ maxArc := by
  induction arcs with
  | nil => exact .inr ⟨[], rfl, nofun⟩
  | cons a arcs ih =>
    by_cases ha : IsArc a
    · rcases ih with ⟨b, before, after, rfl, hbefore, hb⟩ | ⟨oid, rfl, hall⟩
      · exact .inl ⟨b, a :: before, after, rfl, List.forall_mem_cons.2 ⟨ha, hbefore⟩, hb⟩
      · obtain ⟨arc, harc⟩ := isArc_iff_arcOfValue.1 ha
        obtain ⟨rfl, hle⟩ := arcOfValue_integer.1 harc
        exact .inr ⟨arc :: oid, rfl, List.forall_mem_cons.2 ⟨hle, hall⟩⟩
    · exact .inl ⟨a, [], arcs, rfl, nofun, ha⟩

/-! ## The list -/

/-- A list of integers is refused for the first that is no arc. -/
theorem ofValue_list_of_isFirstOutside {arcs : List Int} {a : Int} (h : IsFirstOutside arcs a) :
    ofValue (.list (arcs.map .integer)) = .error (.arcOutOfRange a) := by
  obtain ⟨before, after, rfl, hbefore, ha⟩ := h
  refine mapM_eq_error_iff.2 ⟨before.map .integer, .integer a, after.map .integer, by simp, ?_, ?_⟩
  · intro item hitem
    obtain ⟨x, hx, rfl⟩ := List.mem_map.1 hitem
    exact isArc_iff_arcOfValue.1 (hbefore x hx)
  · exact if_neg ha

/-! ## The text -/

/-- An arc is printed as integers are. -/
theorem ofList_arcText (a : Int) : String.ofList (arcText a) = toString a := by
  cases a with
  | ofNat n => rfl
  | negSucc n =>
    have hminus : toString (Int.negSucc n) = "-" ++ toString (n + 1) := rfl
    have hdigits : (toString (n + 1)).toList = Nat.toDigits 10 (n + 1) := by simp
    rw [hminus, ← String.toList_inj, String.toList_append, hdigits, String.toList_ofList]
    rfl

/-- What is wrong with a printed integer if it is no arc: the minus of a negative one is no digit, and any other is too large. -/
theorem name_faultOf_arcText (a : Int) : (faultOf (arcText a)).name = if a < 0 then "syntax" else "range" := by
  rw [name_faultOf, if_neg (arcText_ne_nil a)]
  cases a with
  | ofNat n =>
    have hdigits : ∀ c ∈ arcText (.ofNat n), c.isDigit :=
      fun c hc => Nat.isDigit_of_mem_toDigits (by decide) (by decide) hc
    rw [if_pos hdigits, if_neg (by simp)]
  | negSucc n =>
    have hminus : ¬∀ c ∈ arcText (.negSucc n), c.isDigit := by
      intro h
      exact absurd (h '-' List.mem_cons_self) (by decide)
    rw [if_neg hminus, if_pos (by simp)]

/-- The tokens of a printed sequence are its printed integers, in both forms. -/
theorem tokens_of_mem {arcs : List Int} (hne : arcs ≠ []) {text : String} (h : text ∈ [leadingDotText arcs, dottedText arcs]) :
    tokens text = arcs.map arcText := by
  rcases List.mem_pair.1 h with rfl | rfl
  · exact (tokens_printed hne).1
  · exact (tokens_printed hne).2

/-- A printed sequence is refused for its first integer that is no arc. -/
theorem parse_of_isFirstOutside {arcs : List Int} (hne : arcs ≠ []) {text : String}
    (htext : text ∈ [leadingDotText arcs, dottedText arcs]) {a : Int} (h : IsFirstOutside arcs a) :
    parse text = .error ⟨text, toString a, faultOf (arcText a)⟩ := by
  obtain ⟨before, after, rfl, hbefore, ha⟩ := h
  refine parse_eq_error_iff.2 ⟨before.map arcText, arcText a, after.map arcText, ?_, ?_, ?_, ?_⟩
  · rw [tokens_of_mem hne htext, List.map_append, List.map_cons]
  · intro token htoken
    obtain ⟨x, hx, rfl⟩ := List.mem_map.1 htoken
    exact isArc_iff_isArcToken.1 (hbefore x hx)
  · exact mt isArc_iff_isArcToken.2 ha
  · rw [ofList_arcText]

/-- A printed object identifier is admitted as itself. -/
theorem ofValue_printed {oid : Oid} (hne : oid.toInts ≠ []) (hall : ∀ arc ∈ oid, arc ≤ maxArc) {text : String}
    (htext : text ∈ [leadingDotText oid.toInts, dottedText oid.toInts]) : ofValue (.text text) = .ok oid := by
  have hparse : parse text = .ok oid := (parse_printed (List.mem_pair.1 htext)).2 ⟨hne, rfl, hall⟩
  exact mapError_eq_ok_iff.2 hparse

/-- An object identifier has no first integer that is no arc. -/
theorem not_isFirstOutside {oid : Oid} (hall : ∀ arc ∈ oid, arc ≤ maxArc) (a : Int) : ¬IsFirstOutside oid.toInts a := by
  rintro ⟨before, after, heq, -, ha⟩
  have hmem : a ∈ oid.toInts := by simp [heq]
  obtain ⟨arc, harc, rfl⟩ := List.mem_map.1 hmem
  exact ha (isArc_iff_arcOfValue.2 ⟨arc, arcOfValue_integer.2 ⟨rfl, hall arc harc⟩⟩)

end Oid

namespace Payload

/-! ## What is written -/

/-- A value that is admitted is written as the object identifier it stands for. -/
theorem ofValue_eq_encode {strict : Bool} {v : Value} {oid : Oid} (h : Oid.ofValue v = .ok oid) :
    ofValue strict v = encode strict oid := by
  rw [ofValue, h]

/-- A value that is not admitted is refused for that. -/
theorem ofValue_eq_input {strict : Bool} {v : Value} {e : InputError} (h : Oid.ofValue v = .error e) :
    ofValue strict v = .error (.input e) := by
  rw [ofValue, h]

/-- A sequence that is an object identifier is written or refused alike in all three forms. -/
theorem ofValue_text_eq {oid : Oid} (hne : oid.toInts ≠ []) (hall : ∀ arc ∈ oid, arc ≤ Oid.maxArc) (strict : Bool)
    {text : String} (htext : text ∈ [leadingDotText oid.toInts, dottedText oid.toInts]) :
    ofValue strict (.text text) = encode strict oid ∧
      ofValue strict (.list (oid.toInts.map .integer)) = encode strict oid := by
  have hprinted : Oid.ofValue (.text text) = .ok oid := Oid.ofValue_printed hne hall htext
  have hlist : Oid.ofValue (.list (oid.toInts.map .integer)) = .ok oid := Oid.ofValue_integers.2 ⟨rfl, hall⟩
  exact ⟨ofValue_eq_encode hprinted, ofValue_eq_encode hlist⟩

/-- Text and list agree. A sequence of integers that is not empty has the same payload as a list and in both printed forms, and has
it in all of them or in none. If some integer is no arc, the list is refused with the first such integer, and each text as a whole
with the decimal text of the same integer as its token, for its syntax if that is negative and else for its range. If all integers
are arcs, the three are written or refused alike, and refused only for too few arcs or for the root. -/
theorem text_agrees_with_list {arcs : List Int} (hne : arcs ≠ []) (strict : Bool) {text : String}
    (htext : text ∈ [leadingDotText arcs, dottedText arcs]) :
    (∀ payload, ofValue strict (.text text) = .ok payload ↔ ofValue strict (.list (arcs.map .integer)) = .ok payload) ∧
    (∀ a, Oid.IsFirstOutside arcs a →
      ofValue strict (.list (arcs.map .integer)) = .error (.input (.arcOutOfRange a)) ∧
      ∃ e, ofValue strict (.text text) = .error (.input (.unreadable e)) ∧ e.text = text ∧ e.token = toString a ∧
        e.fault.name = if a < 0 then "syntax" else "range") ∧
    ((¬∃ a, Oid.IsFirstOutside arcs a) →
      ofValue strict (.text text) = ofValue strict (.list (arcs.map .integer)) ∧
      ∀ e, ofValue strict (.list (arcs.map .integer)) = .error e →
        ∃ oid : Oid, arcs = oid.toInts ∧ (oid.length < 2 ∧ .tooFewArcs oid.length = e ∨ BadRoot strict oid e)) := by
  rcases Oid.exists_isFirstOutside_or arcs with ⟨a, ha⟩ | ⟨oid, rfl, hall⟩
  · have hlist : ∀ b, Oid.IsFirstOutside arcs b →
        ofValue strict (.list (arcs.map .integer)) = .error (.input (.arcOutOfRange b)) :=
      fun b hb => ofValue_eq_input (Oid.ofValue_list_of_isFirstOutside hb)
    have htoken : ∀ b, Oid.IsFirstOutside arcs b →
        ofValue strict (.text text) = .error (.input (.unreadable ⟨text, toString b, Oid.faultOf (arcText b)⟩)) :=
      fun b hb => ofValue_eq_input (mapError_eq_error_iff.2 ⟨_, Oid.parse_of_isFirstOutside hne htext hb, rfl⟩)
    refine ⟨fun payload => ?_, fun b hb => ?_, fun hnone => absurd ⟨a, ha⟩ hnone⟩
    · simp [hlist a ha, htoken a ha]
    · exact ⟨hlist b hb, _, htoken b hb, rfl, rfl, Oid.name_faultOf_arcText b⟩
  · obtain ⟨htextEq, hlistEq⟩ := ofValue_text_eq hne hall strict htext
    rw [htextEq, hlistEq]
    refine ⟨fun payload => Iff.rfl, fun a ha => absurd ha (Oid.not_isFirstOutside hall a), fun _ => ⟨rfl, fun e he => ?_⟩⟩
    exact ⟨oid, rfl, encode_eq_error_iff.1 he⟩

/-- A negative integer and one too large. -/
def outsideInts : List Int := [1, 3, -5, 70000]

/-- Of two integers that are no arcs the list and the text blame the first, the negative one. -/
theorem text_agrees_with_list_outside :
    outsideInts ≠ [] ∧ ".1.3.-5.70000" ∈ [leadingDotText outsideInts, dottedText outsideInts] ∧
      Oid.IsFirstOutside outsideInts (-5) ∧
      ofValue true (.list (outsideInts.map .integer)) = .error (.input (.arcOutOfRange (-5))) ∧
      ∃ e, ofValue true (.text ".1.3.-5.70000") = .error (.input (.unreadable e)) ∧ e.text = ".1.3.-5.70000" ∧
        e.token = "-5" ∧ e.fault.name = "syntax" := by
  have hne : outsideInts ≠ [] := List.cons_ne_nil _ _
  have htext : ".1.3.-5.70000" ∈ [leadingDotText outsideInts, dottedText outsideInts] := by
    have hprinted : leadingDotText outsideInts = ".1.3.-5.70000" := by decide
    simp [hprinted]
  have hfirst : Oid.IsFirstOutside outsideInts (-5) :=
    ⟨[1, 3], [70000], rfl, by simp [Oid.IsArc, Oid.maxArc], by simp [Oid.IsArc]⟩
  obtain ⟨-, hrefused, -⟩ := text_agrees_with_list hne true htext
  obtain ⟨hlist, e, hparse, hwhole, htoken, hfault⟩ := hrefused (-5) hfirst
  exact ⟨hne, htext, hfirst, hlist, e, hparse, hwhole, htoken, hfault⟩

end Payload

end BerOid
