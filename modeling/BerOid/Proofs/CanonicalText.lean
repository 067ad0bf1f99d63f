import BerOid.Proofs.DottedText
import BerOid.Proofs.RoundTrip

/-!
# Canonical text

The two printed forms of a sequence of integers have the same core, the decimal texts of the integers with a dot between each two,
so they are read alike: as what was printed if that is an object identifier, and not at all otherwise. Printing what was read gives
the tokens of the text without superfluous zeros, which is the text's canonical form (`text_round_trip`).
-/

namespace BerOid.Oid

/-! ## Printed arcs -/

/-- No printed arc has a dot. -/
theorem dot_notMem_arcText (a : Int) : '.' ∉ arcText a := by
  have hdigits : ∀ n, '.' ∉ Nat.toDigits 10 n := by
    intro n h
    exact absurd (Nat.isDigit_of_mem_toDigits (by decide) (by decide) h) (by decide)
  cases a with
  | ofNat n => exact hdigits n
  | negSucc n =>
    intro h
    rcases List.mem_cons.1 h with h | h
    · exact absurd h (by decide)
    · exact hdigits _ h

/-- A printed arc has a character. -/
theorem arcText_ne_nil (a : Int) : arcText a ≠ [] := by
  cases a with
  | ofNat n => exact Nat.toDigits_ne_nil
  | negSucc n => exact List.cons_ne_nil _ _

/-- A printed number is read as this number. -/
theorem tokenValue_toDigits (n : Nat) : tokenValue (Nat.toDigits 10 n) = n := Nat.ofDigitChars_ten_toDigits

/-- A printed number writes an arc exactly when it is none above the greatest arc, and a printed negative number never does. -/
theorem isArcToken_arcText_iff {a : Int} : IsArcToken (arcText a) ↔ ∃ arc : Nat, a = arc ∧ arc ≤ maxArc := by
  cases a with
  | ofNat n =>
    constructor
    · intro h
      have hle := h.le
      rw [arcText, tokenValue_toDigits] at hle
      exact ⟨n, rfl, hle⟩
    · rintro ⟨arc, harc, hle⟩
      obtain rfl : n = arc := Int.ofNat.inj harc
      refine ⟨Nat.toDigits_ne_nil, fun c hc => Nat.isDigit_of_mem_toDigits (by decide) (by decide) hc, ?_⟩
      rw [arcText, tokenValue_toDigits]
      exact hle
  | negSucc n =>
    constructor
    · intro h
      exact absurd (h.isDigit '-' List.mem_cons_self) (by decide)
    · rintro ⟨arc, harc, -⟩
      cases harc

/-! ## Printed sequences -/

/-- Tokens put together with a dot between each two. -/
def joined (tokens : List (List Char)) : List Char := ['.'].intercalate tokens

/-- With a dot before every token, tokens are put together with a dot between each two and one before them all. -/
theorem flatMap_dot {tokens : List (List Char)} (hne : tokens ≠ []) :
    tokens.flatMap ('.' :: ·) = '.' :: joined tokens := by
  induction tokens with
  | nil => exact absurd rfl hne
  | cons token tokens ih =>
    cases tokens with
    | nil => simp [joined]
    | cons next tokens =>
      rw [List.flatMap_cons, ih (List.cons_ne_nil _ _), joined, joined, List.intercalate_cons_cons]
      simp

/-- The form with a dot before every arc, for a sequence that is not empty. -/
theorem toList_leadingDotText {arcs : List Int} (hne : arcs ≠ []) :
    (leadingDotText arcs).toList = '.' :: joined (arcs.map arcText) := by
  have hmap : arcs.map arcText ≠ [] := by simpa using hne
  rw [leadingDotText, String.toList_ofList, ← flatMap_dot hmap, List.flatMap_map]

theorem toList_dottedText (arcs : List Int) : (dottedText arcs).toList = joined (arcs.map arcText) := by
  rw [dottedText, String.toList_ofList, joined]

/-- Tokens without dots are told from what is put together. -/
theorem splitOn_joined {tokens : List (List Char)} (hne : tokens ≠ []) (hdot : ∀ token ∈ tokens, '.' ∉ token) :
    (joined tokens).splitOn '.' = tokens := List.splitOn_intercalate '.' hdot hne

/-- A text of tokens that are not empty and have no dots, put together, begins and ends with no dot. -/
theorem joined_ends {tokens : List (List Char)} (hne : tokens ≠ []) (hdot : ∀ token ∈ tokens, '.' ∉ token)
    (hempty : [] ∉ tokens) : (joined tokens).head? ≠ some '.' ∧ (joined tokens).getLast? ≠ some '.' := by
  -- a dot at either end would set an empty token apart
  have hcut : ∀ front rest, joined tokens = front ++ '.' :: rest → tokens = front.splitOn '.' ++ rest.splitOn '.' := by
    intro front rest h
    rw [← splitOn_joined hne hdot, h, List.splitOn_append_cons_self]
  constructor
  · intro h
    obtain ⟨rest, hrest⟩ := List.head?_eq_some_iff.1 h
    rw [hcut [] rest hrest] at hempty
    simp at hempty
  · intro h
    obtain ⟨front, hfront⟩ := List.getLast?_eq_some_iff.1 h
    rw [hcut front [] hfront] at hempty
    simp at hempty

/-- The tokens of a printed sequence are its printed arcs, in both forms. -/
theorem tokens_printed {arcs : List Int} (hne : arcs ≠ []) :
    tokens (leadingDotText arcs) = arcs.map arcText ∧ tokens (dottedText arcs) = arcs.map arcText := by
  have hmap : arcs.map arcText ≠ [] := by simpa using hne
  have hdot : ∀ token ∈ arcs.map arcText, '.' ∉ token := by
    intro token htoken
    obtain ⟨a, -, rfl⟩ := List.mem_map.1 htoken
    exact dot_notMem_arcText a
  have hempty : [] ∉ arcs.map arcText := by
    intro h
    obtain ⟨a, -, ha⟩ := List.mem_map.1 h
    exact arcText_ne_nil a ha
  have hends := joined_ends hmap hdot hempty
  have hleading : IsCore (leadingDotText arcs) (joined (arcs.map arcText)) :=
    ⟨⟨1, 0, by simp [toList_leadingDotText hne]⟩, hends⟩
  have hdotted : IsCore (dottedText arcs) (joined (arcs.map arcText)) := ⟨⟨0, 0, by simp [toList_dottedText]⟩, hends⟩
  rw [hleading.tokens_eq, hdotted.tokens_eq, splitOn_joined hmap hdot]
  exact ⟨rfl, rfl⟩

/-- Printed arcs are read exactly when they are those of an object identifier. -/
theorem arcTokens_iff {arcs : List Int} {oid : Oid} :
    ((∀ token ∈ arcs.map arcText, IsArcToken token) ∧ (arcs.map arcText).map tokenValue = oid) ↔
      arcs = oid.toInts ∧ ∀ arc ∈ oid, arc ≤ maxArc := by
  constructor
  · rintro ⟨hall, rfl⟩
    have hback : ∀ a ∈ arcs, a = (tokenValue (arcText a) : Int) ∧ tokenValue (arcText a) ≤ maxArc := by
      intro a ha
      obtain ⟨arc, rfl, hle⟩ := isArcToken_arcText_iff.1 (hall _ (List.mem_map_of_mem ha))
      have harc : tokenValue (arcText arc) = arc := tokenValue_toDigits arc
      rw [harc]
      exact ⟨rfl, hle⟩
    refine ⟨?_, ?_⟩
    · simp only [toInts, List.map_map]
      conv_lhs => rw [← List.map_id arcs]
      exact List.map_congr_left fun a ha => (hback a ha).1
    · intro arc harc
      simp only [List.map_map, List.mem_map, Function.comp_apply] at harc
      obtain ⟨a, ha, rfl⟩ := harc
      exact (hback a ha).2
  · rintro ⟨rfl, hall⟩
    refine ⟨?_, ?_⟩
    · intro token htoken
      simp only [toInts, List.map_map, List.mem_map, Function.comp_apply] at htoken
      obtain ⟨arc, harc, rfl⟩ := htoken
      exact isArcToken_arcText_iff.2 ⟨arc, rfl, hall arc harc⟩
    · simp only [toInts, List.map_map]
      conv_rhs => rw [← List.map_id oid]
      exact List.map_congr_left fun arc _ => tokenValue_toDigits arc

/-- A printed sequence is read exactly when it is an object identifier with at least one arc. -/
theorem parse_printed {arcs : List Int} {text : String} (htext : text = leadingDotText arcs ∨ text = dottedText arcs) {oid : Oid} :
    parse text = .ok oid ↔ arcs ≠ [] ∧ arcs = oid.toInts ∧ ∀ arc ∈ oid, arc ≤ maxArc := by
  by_cases hne : arcs = []
  · subst hne
    have hempty : parse "" = .error ⟨"", "", .missing⟩ := by decide
    have htext : text = "" := by rcases htext with rfl | rfl <;> rfl
    simp [htext, hempty]
  · have htokens : tokens text = arcs.map arcText := by
      rcases htext with rfl | rfl
      · exact (tokens_printed hne).1
      · exact (tokens_printed hne).2
    rw [parse_eq_ok_iff, htokens, arcTokens_iff]
    simp [hne]

/-! ## Canonical form -/

/-- A digit is what is printed for its value. -/
theorem digitChar_of_isDigit {c : Char} (h : c.isDigit) :
    c.toNat - '0'.toNat < 10 ∧ Nat.digitChar (c.toNat - '0'.toNat) = c := by
  have hzero : '0'.toNat = 48 := rfl
  have hnine : '9'.toNat = 57 := rfl
  obtain ⟨hlow, hhigh⟩ := Char.isDigit_iff_toNat.1 h
  have hlt : c.toNat - '0'.toNat < 10 := by omega
  refine ⟨hlt, Char.toNat_inj.1 ?_⟩
  rw [Nat.toNat_digitChar_of_lt_ten hlt]
  omega

/-- Reading digits behind a number other than zero puts them behind its printed form. -/
theorem toDigits_append {n : Nat} (hn : 0 < n) {ds : List Char} (hds : ∀ c ∈ ds, c.isDigit) :
    Nat.toDigits 10 n ++ ds = Nat.toDigits 10 (Nat.ofDigitChars 10 ds n) := by
  induction ds generalizing n with
  | nil => rw [List.append_nil, Nat.ofDigitChars_nil]
  | cons c ds ih =>
    obtain ⟨hc, hds⟩ := List.forall_mem_cons.1 hds
    obtain ⟨hlt, hchar⟩ := digitChar_of_isDigit hc
    have hone : Nat.toDigits 10 n ++ [c] = Nat.toDigits 10 (10 * n + (c.toNat - '0'.toNat)) := by
      rw [← Nat.toDigits_append_toDigits (by decide) hn hlt, Nat.toDigits_of_lt_base hlt, hchar]
    rw [Nat.ofDigitChars_cons, ← ih (by omega) hds, ← hone, List.append_assoc, List.singleton_append]

/-- The number of a token of digits is printed as its significant digits. -/
theorem toDigits_tokenValue {token : List Char} (hdigits : ∀ c ∈ token, c.isDigit) :
    Nat.toDigits 10 (tokenValue token) = Text.significantDigits token := by
  rw [← tokenValue_significantDigits]
  rcases significantDigits_spec token with ⟨n, -, heq⟩ | ⟨n, d, ds, htoken, hne, heq⟩
  · rw [heq]
    rfl
  · have hall : ∀ c ∈ d :: ds, c.isDigit := by
      intro c hc
      exact hdigits c (by rw [htoken]; exact List.mem_append_right _ hc)
    obtain ⟨hd, hds⟩ := List.forall_mem_cons.1 hall
    obtain ⟨hlt, hchar⟩ := digitChar_of_isDigit hd
    rw [heq, tokenValue, Nat.ofDigitChars_cons, Nat.mul_zero, Nat.zero_add, ← toDigits_append (one_le_of_isDigit hd hne) hds,
      Nat.toDigits_of_lt_base hlt, hchar, List.singleton_append]

/-- A token begins with a zero that another character follows. -/
def HasLeadingZero (token : List Char) : Prop := ∃ rest, rest ≠ [] ∧ token = '0' :: rest

/-- The digits are the token without superfluous zeros: behind as many zeros as it takes, with no leading zero left. -/
def IsSignificant (token digits : List Char) : Prop :=
  (∃ n, token = List.replicate n '0' ++ digits) ∧ digits ≠ [] ∧ ¬HasLeadingZero digits

/-- The significant digits of a token that is not empty are the token without superfluous zeros. -/
theorem isSignificant_significantDigits {token : List Char} (hne : token ≠ []) :
    IsSignificant token (Text.significantDigits token) := by
  rcases significantDigits_spec token with ⟨n, htoken, heq⟩ | ⟨n, d, ds, htoken, hd, heq⟩
  · rw [heq]
    cases n with
    | zero => exact absurd htoken hne
    | succ n =>
      refine ⟨⟨n, by rw [htoken, List.replicate_succ']⟩, List.cons_ne_nil _ _, ?_⟩
      rintro ⟨rest, hrest, hcons⟩
      exact hrest (List.cons.inj hcons).2.symm
  · rw [heq]
    refine ⟨⟨n, htoken⟩, List.cons_ne_nil _ _, ?_⟩
    rintro ⟨rest, -, hcons⟩
    exact hd (List.cons.inj hcons).1

/-- A token that is not empty is its significant digits exactly when it has no leading zero. -/
theorem significantDigits_eq_self_iff {token : List Char} (hne : token ≠ []) :
    Text.significantDigits token = token ↔ ¬HasLeadingZero token := by
  obtain ⟨⟨n, htoken⟩, hdigits, hzero⟩ := isSignificant_significantDigits hne
  constructor
  · intro heq
    rwa [heq] at hzero
  · intro h
    cases n with
    | zero => exact htoken.symm
    | succ n =>
      have hrest : List.replicate n '0' ++ Text.significantDigits token ≠ [] := List.append_ne_nil_of_right_ne_nil _ hdigits
      exact absurd ⟨_, hrest, htoken⟩ h

/-- Where tokens all write arcs, the printed arcs are their significant digits. -/
theorem arcTexts_tokenValue {tokens : List (List Char)} (hall : ∀ token ∈ tokens, IsArcToken token) :
    (toInts (tokens.map tokenValue)).map arcText = tokens.map Text.significantDigits := by
  simp only [toInts, List.map_map]
  exact List.map_congr_left fun token htoken => toDigits_tokenValue (hall token htoken).isDigit

/-- What was read from a text is printed as the text's tokens without superfluous zeros. -/
theorem leadingDotText_of_parse {text : String} {oid : Oid} (h : parse text = .ok oid) :
    leadingDotText oid.toInts = String.ofList ('.' :: joined ((tokens text).map Text.significantDigits)) := by
  obtain ⟨hall, rfl⟩ := parse_eq_ok_iff.1 h
  have hne : toInts ((tokens text).map tokenValue) ≠ [] := by
    simp [toInts, (isCore_trimBoth text).tokens_eq, List.splitOn_ne_nil]
  rw [← arcTexts_tokenValue hall, ← toList_leadingDotText hne, String.ofList_toList]

/-- What was read from a text is printed as its core, with a dot in front, exactly when no token has a leading zero. -/
theorem leadingDotText_eq_core_iff {text : String} {core : List Char} {oid : Oid} (hcore : IsCore text core)
    (h : parse text = .ok oid) :
    leadingDotText oid.toInts = String.ofList ('.' :: core) ↔ ∀ token ∈ core.splitOn '.', ¬HasLeadingZero token := by
  obtain ⟨hall, rfl⟩ := parse_eq_ok_iff.1 h
  have hprinted := leadingDotText_of_parse h
  rw [hcore.tokens_eq] at hall hprinted ⊢
  have hself : (core.splitOn '.').map Text.significantDigits = core.splitOn '.' ↔
      ∀ token ∈ core.splitOn '.', ¬HasLeadingZero token := by
    have hmap := List.map_inj_left (l := core.splitOn '.') (f := Text.significantDigits) (g := id)
    rw [List.map_id] at hmap
    rw [hmap]
    exact forall₂_congr fun token htoken => significantDigits_eq_self_iff (hall token htoken).ne_nil
  have hdot : ∀ digits ∈ (core.splitOn '.').map Text.significantDigits, '.' ∉ digits := by
    rw [← arcTexts_tokenValue hall]
    intro digits hdigits
    obtain ⟨a, -, rfl⟩ := List.mem_map.1 hdigits
    exact dot_notMem_arcText a
  rw [hprinted, String.ofList_inj, List.cons.injEq, ← hself]
  constructor
  · rintro ⟨-, hjoined⟩
    rw [← splitOn_joined (by simp [List.splitOn_ne_nil]) hdot, hjoined]
  · intro hsame
    rw [hsame]
    exact ⟨rfl, List.intercalate_splitOn '.'⟩

/-- The canonical form of a text is read as the text is. -/
theorem parse_leadingDotText_of_parse {text : String} {oid : Oid} (h : parse text = .ok oid) :
    parse (leadingDotText oid.toInts) = .ok oid := by
  obtain ⟨hall, rfl⟩ := parse_eq_ok_iff.1 h
  refine (parse_printed (.inl rfl)).2 ⟨?_, rfl, ?_⟩
  · simp [toInts, (isCore_trimBoth text).tokens_eq, List.splitOn_ne_nil]
  · intro arc harc
    obtain ⟨token, htoken, rfl⟩ := List.mem_map.1 harc
    exact (hall token htoken).le

/-- Text and arcs go over into each other. Both printed forms of a sequence of integers are read exactly when the sequence is not empty
and each integer is an arc, and then as this sequence. What is read from a text is printed, with a dot in front, as the tokens
between the text's dots without superfluous zeros; this is the text itself but for the dots at its ends exactly when no token has a
leading zero. Two texts are read as the same object identifier exactly when what is read from them is printed alike. -/
theorem text_round_trip :
    (∀ (arcs : List Int) (oid : Oid),
      (parse (leadingDotText arcs) = .ok oid ↔ arcs ≠ [] ∧ arcs = oid.toInts ∧ ∀ arc ∈ oid, arc ≤ maxArc) ∧
      (parse (dottedText arcs) = .ok oid ↔ arcs ≠ [] ∧ arcs = oid.toInts ∧ ∀ arc ∈ oid, arc ≤ maxArc)) ∧
    (∀ (text : String) (oid : Oid), parse text = .ok oid → ∃ core printed, IsCore text core ∧
      List.Forall₂ IsSignificant (core.splitOn '.') printed ∧
      leadingDotText oid.toInts = String.ofList ('.' :: joined printed) ∧
      (leadingDotText oid.toInts = String.ofList ('.' :: core) ↔ ∀ token ∈ core.splitOn '.', ¬HasLeadingZero token)) ∧
    ∀ (text text' : String) (oid oid' : Oid), parse text = .ok oid → parse text' = .ok oid' →
      (oid = oid' ↔ leadingDotText oid.toInts = leadingDotText oid'.toInts) := by
  refine ⟨fun arcs oid => ⟨parse_printed (.inl rfl), parse_printed (.inr rfl)⟩, ?_, ?_⟩
  · intro text oid h
    have hcore := isCore_trimBoth text
    have hprinted := leadingDotText_of_parse h
    obtain ⟨hall, -⟩ := parse_eq_ok_iff.1 h
    rw [hcore.tokens_eq] at hprinted hall
    refine ⟨_, _, hcore, ?_, hprinted, leadingDotText_eq_core_iff hcore h⟩
    rw [List.forall₂_map_right_iff, List.forall₂_same]
    exact fun token htoken => isSignificant_significantDigits (hall token htoken).ne_nil
  · intro text text' oid oid' h h'
    constructor
    · intro hsame
      rw [hsame]
    · intro hsame
      have hread := parse_leadingDotText_of_parse h
      rw [hsame, parse_leadingDotText_of_parse h'] at hread
      exact (Except.ok.inj hread).symm

/-- A text with dots at both ends and zeros in front of two arcs. -/
def paddedText : String := "..1.03.6.000.65535."

/-- The padded text is read, and as the text without the zeros is. It is printed without them, which is not the text itself between
its dots, for its second token has a leading zero. -/
theorem text_round_trip_paddedText :
    parse paddedText = .ok [1, 3, 6, 0, 65535] ∧ parse ".1.3.6.0.65535" = .ok [1, 3, 6, 0, 65535] ∧
      leadingDotText (toInts [1, 3, 6, 0, 65535]) = ".1.3.6.0.65535" ∧
      leadingDotText (toInts [1, 3, 6, 0, 65535]) ≠ ".1.03.6.000.65535" := by
  obtain ⟨hprinted, hcanonical, -⟩ := text_round_trip
  have hpadded : parse paddedText = .ok [1, 3, 6, 0, 65535] := by decide
  have hplain : leadingDotText (toInts [1, 3, 6, 0, 65535]) = ".1.3.6.0.65535" := by decide
  have hread := (hprinted (toInts [1, 3, 6, 0, 65535]) _).1.2 ⟨List.cons_ne_nil _ _, rfl, by decide⟩
  obtain ⟨core, -, hcore, -, -, hself⟩ := hcanonical paddedText _ hpadded
  obtain rfl : "1.03.6.000.65535".toList = core := .trans (by decide) hcore.trimBoth_eq
  have hzero : HasLeadingZero ['0', '3'] := ⟨['3'], List.cons_ne_nil _ _, rfl⟩
  exact ⟨hpadded, hplain ▸ hread, hplain, fun h => hself.1 h ['0', '3'] (by decide) hzero⟩

end BerOid.Oid
