import BerOid.Oid.Parse
import BerOid.Proofs.Results

/-!
# The grammar of dotted text

What stands between the dots at the two ends of a text is its core (`IsCore`), and the core is cut at every dot into tokens. A token
writes an arc when it is not empty, has only decimal digits and stands for a number no greater than the greatest arc. The reader
never computes numbers of more digits than an arc can have, which changes nothing: behind leading zeros they are too large
(`lt_tokenValue_of_significantDigits`). So it takes exactly the texts whose tokens all write arcs, and blames the first token that
does not (`parse_grammar`).
-/

namespace BerOid.Oid

/-! ## The core of a text -/

/-- The characters are the text without the dots at its two ends. -/
def IsCore (text : String) (core : List Char) : Prop :=
  (∃ m n, text.toList = List.replicate m '.' ++ core ++ List.replicate n '.') ∧
    core.head? ≠ some '.' ∧ core.getLast? ≠ some '.'

/-- Characters taken away from the front of a sequence are all alike. -/
theorem eq_replicate_append_dropWhile (c : Char) (cs : List Char) :
    ∃ n, cs = List.replicate n c ++ cs.dropWhile (· == c) := by
  refine ⟨(cs.takeWhile (· == c)).length, ?_⟩
  have hall : cs.takeWhile (· == c) = List.replicate (cs.takeWhile (· == c)).length c := by
    rw [List.eq_replicate_iff]
    refine ⟨rfl, fun x hx => ?_⟩
    simpa using List.mem_takeWhile_imp hx
  rw [← hall, List.takeWhile_append_dropWhile]

/-- What is left does not begin with such a character. -/
theorem head?_dropWhile_ne (c : Char) (cs : List Char) : (cs.dropWhile (· == c)).head? ≠ some c := by
  intro h
  have hnot := List.head?_dropWhile_not (· == c) cs
  rw [h] at hnot
  simp at hnot

/-- Trimming a text gives its core. -/
theorem isCore_trimBoth (text : String) : IsCore text (Text.trimBoth (· == '.') text.toList) := by
  obtain ⟨m, hm⟩ := eq_replicate_append_dropWhile '.' text.toList
  obtain ⟨n, hn⟩ := eq_replicate_append_dropWhile '.' (text.toList.dropWhile (· == '.')).reverse
  have hn := congrArg List.reverse hn
  rw [List.reverse_reverse, List.reverse_append, List.reverse_replicate] at hn
  refine ⟨⟨m, n, ?_⟩, ?_, ?_⟩
  · rw [Text.trimBoth, List.append_assoc, ← hn, ← hm]
  · intro hhead
    refine head?_dropWhile_ne '.' text.toList ?_
    rw [hn, List.head?_append, ← Text.trimBoth, hhead]
    rfl
  · rw [Text.trimBoth, List.getLast?_reverse]
    exact head?_dropWhile_ne '.' _

/-- Alike characters in front of a sequence that does not begin with one are taken away, and no others. -/
theorem dropWhile_replicate_append {c : Char} {cs : List Char} (n : Nat) (h : cs.head? ≠ some c) :
    (List.replicate n c ++ cs).dropWhile (· == c) = cs := by
  rw [List.dropWhile_append_of_pos (by simp), List.dropWhile_beq_eq_self_of_head?_ne h]

/-- A text has no other core than what trimming gives. -/
theorem IsCore.trimBoth_eq {text : String} {core : List Char} (h : IsCore text core) :
    Text.trimBoth (· == '.') text.toList = core := by
  obtain ⟨⟨m, n, htext⟩, hhead, hlast⟩ := h
  rw [Text.trimBoth, htext, List.append_assoc]
  by_cases hne : core = []
  · subst hne
    simp
  · have hfront : (core ++ List.replicate n '.').head? ≠ some '.' := by
      rwa [List.head?_append_of_ne_nil core hne]
    rw [dropWhile_replicate_append m hfront, List.reverse_append, List.reverse_replicate,
      dropWhile_replicate_append n (by rwa [List.head?_reverse]), List.reverse_reverse]

/-! ## Tokens -/

/-- The pieces between the dots are those of the library's splitting. -/
theorem splitDots_eq_splitOn (cs : List Char) : splitDots cs = cs.splitOn '.' := by
  induction cs with
  | nil => rfl
  | cons c cs ih =>
    rw [splitDots, List.splitOn_cons_eq_if_modifyHead, ih]
    by_cases hc : c = '.'
    · simp [hc]
    · obtain ⟨token, tokens, htokens⟩ := List.exists_cons_of_ne_nil (List.splitOn_ne_nil '.' cs)
      simp [hc, htokens]

/-- The tokens of a text are the pieces of its core. -/
theorem IsCore.tokens_eq {text : String} {core : List Char} (h : IsCore text core) : tokens text = core.splitOn '.' := by
  rw [tokens, h.trimBoth_eq, splitDots_eq_splitOn]

/-- The number that a token of digits stands for. -/
def tokenValue (token : List Char) : Nat := Nat.ofDigitChars 10 token 0

/-- A token writes an arc: it has digits, nothing but digits, and stands for no number above the greatest arc. -/
structure IsArcToken (token : List Char) : Prop where
  ne_nil : token ≠ []
  isDigit : ∀ c ∈ token, c.isDigit
  le : tokenValue token ≤ maxArc

/-- What is wrong with a token that writes no arc: being empty counts before holding a character that is no digit, and that before
the number. -/
def faultOf (token : List Char) : ArcFault :=
  if token = [] then .missing else if ∀ c ∈ token, c.isDigit then .tooLarge else .notDecimal

/-- The ASCII digits are those of the library. -/
theorem isAsciiDigit_eq (c : Char) : Text.isAsciiDigit c = c.isDigit := by
  rw [Bool.eq_iff_iff, Char.isDigit_iff_toNat, Text.isAsciiDigit, Bool.and_eq_true, decide_eq_true_eq, decide_eq_true_eq]

/-- The number is read as the library reads it. -/
theorem decimalNumber_eq (token : List Char) : Text.decimalNumber token = tokenValue token :=
  Nat.ofDigitChars_eq_foldl.symm

/-- A digit is zero or stands for a number of at least one. -/
theorem one_le_of_isDigit {d : Char} (hd : d.isDigit) (hne : d ≠ '0') : 1 ≤ d.toNat - '0'.toNat := by
  obtain ⟨hlow, -⟩ := Char.isDigit_iff_toNat.1 hd
  have hne : d.toNat ≠ '0'.toNat := fun h => hne (Char.toNat_inj.1 h)
  omega

/-- Digits of which the first is not zero stand for a number of as many digits. -/
theorem pow_le_tokenValue {d : Char} {ds : List Char} (hd : d.isDigit) (hne : d ≠ '0') :
    10 ^ ds.length ≤ tokenValue (d :: ds) := by
  have hpos := Nat.mul_le_mul_left (10 ^ ds.length) (one_le_of_isDigit hd hne)
  rw [tokenValue, Nat.ofDigitChars_cons, Nat.ofDigitChars_eq_ofDigitChars_zero, Nat.mul_zero, Nat.zero_add]
  omega

/-! ## Significant digits -/

/-- Significant digits are the token without zeros in front, or one zero of a token of zeros. -/
theorem significantDigits_spec (token : List Char) :
    (∃ n, token = List.replicate n '0' ∧ Text.significantDigits token = ['0']) ∨
      ∃ n d ds, token = List.replicate n '0' ++ d :: ds ∧ d ≠ '0' ∧ Text.significantDigits token = d :: ds := by
  obtain ⟨n, hn⟩ := eq_replicate_append_dropWhile '0' token
  have hhead := head?_dropWhile_ne '0' token
  rw [Text.significantDigits]
  cases hrest : token.dropWhile (· == '0') with
  | nil =>
    rw [hrest, List.append_nil] at hn
    exact .inl ⟨n, hn, rfl⟩
  | cons d ds =>
    rw [hrest] at hn hhead
    exact .inr ⟨n, d, ds, hn, by simpa using hhead, rfl⟩

/-- Leading zeros add nothing to the number. -/
theorem tokenValue_replicate_append (n : Nat) (digits : List Char) :
    tokenValue (List.replicate n '0' ++ digits) = tokenValue digits := by
  rw [tokenValue, Nat.ofDigitChars_append, Nat.ofDigitChars_replicate_zero, Nat.mul_zero]
  rfl

/-- The significant digits stand for the number of the token. -/
theorem tokenValue_significantDigits (token : List Char) : tokenValue (Text.significantDigits token) = tokenValue token := by
  rcases significantDigits_spec token with ⟨n, htoken, hdigits⟩ | ⟨n, d, ds, htoken, -, hdigits⟩
  · rw [hdigits, htoken, ← List.append_nil (List.replicate n '0'), tokenValue_replicate_append]
    rfl
  · rw [hdigits, htoken, tokenValue_replicate_append]

/-- A token of digits with more significant digits than the greatest arc has stands for a greater number. -/
theorem lt_tokenValue_of_significantDigits {token : List Char} (hdigits : ∀ c ∈ token, c.isDigit)
    (hlen : maxArcDigits < (Text.significantDigits token).length) : maxArc < tokenValue token := by
  rcases significantDigits_spec token with ⟨n, -, heq⟩ | ⟨n, d, ds, htoken, hne, heq⟩
  · rw [heq] at hlen
    exact absurd hlen (by decide)
  · rw [heq, List.length_cons] at hlen
    have hd : d.isDigit := hdigits d (by rw [htoken]; simp)
    have hpow : 10 ^ maxArcDigits ≤ 10 ^ ds.length := Nat.pow_le_pow_right (by decide) (Nat.le_of_lt_succ hlen)
    rw [← tokenValue_significantDigits, heq]
    exact Nat.lt_of_lt_of_le (Nat.lt_of_lt_of_le (by decide) hpow) (pow_le_tokenValue hd hne)

/-! ## Reading a token -/

/-- A token is read exactly when it writes an arc, and as the number it stands for. -/
theorem arcOfToken_of_isArcToken {token : List Char} (h : IsArcToken token) : arcOfToken token = .ok (tokenValue token) := by
  obtain ⟨hne, hdigits, hle⟩ := h
  have hall : token.all Text.isAsciiDigit = true := by
    simpa only [List.all_eq_true, isAsciiDigit_eq] using hdigits
  have hlen : ¬maxArcDigits < (Text.significantDigits token).length := fun hlen =>
    Nat.not_lt.2 hle (lt_tokenValue_of_significantDigits hdigits hlen)
  rw [arcOfToken, if_neg (by simpa using hne), if_neg (by simp [hall])]
  simp only [decimalNumber_eq, tokenValue_significantDigits, if_neg hlen, if_pos hle]

/-- A token that writes no arc is refused for what is wrong with it. -/
theorem arcOfToken_of_not_isArcToken {token : List Char} (h : ¬IsArcToken token) :
    arcOfToken token = .error (faultOf token) := by
  by_cases hempty : token = []
  · simp [arcOfToken, faultOf, hempty]
  · rw [arcOfToken, if_neg (by simpa using hempty), faultOf, if_neg hempty]
    by_cases hdigits : ∀ c ∈ token, c.isDigit
    · have hall : token.all Text.isAsciiDigit = true := by
        simpa only [List.all_eq_true, isAsciiDigit_eq] using hdigits
      have hlarge : ¬tokenValue token ≤ maxArc := fun hle => h ⟨hempty, hdigits, hle⟩
      rw [if_neg (by simp [hall]), if_pos hdigits]
      simp only [decimalNumber_eq, tokenValue_significantDigits, if_neg hlarge, ite_self]
    · have hall : ¬token.all Text.isAsciiDigit = true := by
        simpa only [List.all_eq_true, isAsciiDigit_eq] using hdigits
      rw [if_pos (by simp [hall]), if_neg hdigits]

/-- A token is read exactly when it writes an arc, and as the number it stands for. -/
theorem arcOfToken_eq_ok_iff {token : List Char} {arc : Nat} :
    arcOfToken token = .ok arc ↔ IsArcToken token ∧ tokenValue token = arc := by
  by_cases h : IsArcToken token
  · simp [arcOfToken_of_isArcToken h, h]
  · simp [arcOfToken_of_not_isArcToken h, h]

/-- A token is refused exactly when it writes no arc, and for what is wrong with it. -/
theorem arcOfToken_eq_error_iff {token : List Char} {fault : ArcFault} :
    arcOfToken token = .error fault ↔ ¬IsArcToken token ∧ faultOf token = fault := by
  by_cases h : IsArcToken token
  · simp [arcOfToken_of_isArcToken h, h]
  · simp [arcOfToken_of_not_isArcToken h, h]

/-! ## Reading a text -/

/-- A text is read exactly when all its tokens write arcs, and as these arcs. -/
theorem parse_eq_ok_iff {text : String} {oid : Oid} :
    parse text = .ok oid ↔ (∀ token ∈ tokens text, IsArcToken token) ∧ (tokens text).map tokenValue = oid := by
  simp only [parse, mapM_eq_ok_iff, mapError_eq_ok_iff, arcOfToken_eq_ok_iff, List.forall₂_and_left]
  rw [← List.forall₂_eq_eq_eq, List.forall₂_map_left_iff]

/-- A text is refused for its first token that writes no arc. -/
theorem parse_eq_error_iff {text : String} {e : ParseError} :
    parse text = .error e ↔
      ∃ before token after, tokens text = before ++ token :: after ∧ (∀ t ∈ before, IsArcToken t) ∧ ¬IsArcToken token ∧
        e = ⟨text, String.ofList token, faultOf token⟩ := by
  have hread : ∀ token, (∃ arc, arcOfToken token = .ok arc) ↔ IsArcToken token := by
    intro token
    simp [arcOfToken_eq_ok_iff]
  simp only [parse, mapM_eq_error_iff, mapError_eq_ok_iff, mapError_eq_error_iff, hread, arcOfToken_eq_error_iff]
  constructor
  · rintro ⟨before, token, after, htokens, hbefore, _, ⟨hnot, rfl⟩, rfl⟩
    exact ⟨before, token, after, htokens, hbefore, hnot, rfl⟩
  · rintro ⟨before, token, after, htokens, hbefore, hnot, rfl⟩
    exact ⟨before, token, after, htokens, hbefore, _, ⟨hnot, rfl⟩, rfl⟩

/-- The words for faults tell them apart. -/
theorem ArcFault.name_injective : Function.Injective ArcFault.name := by
  intro a b h
  cases a <;> cases b <;> simp_all [ArcFault.name]

/-- The word for what is wrong with a token that writes no arc. -/
theorem name_faultOf (token : List Char) :
    (faultOf token).name = if token = [] then "empty" else if ∀ c ∈ token, c.isDigit then "range" else "syntax" := by
  unfold faultOf
  split
  · rfl
  · split <;> rfl

/-- Dotted text has a grammar. A text is read exactly when, without the dots at its ends, it is cut at every dot into tokens of which
each has digits, has nothing but digits and stands for a number no greater than the greatest arc, whatever zeros it begins with; it
is read as these numbers. Every other text is refused, as it was given, for its first token that is none of these: an empty one, else
one with a character that is no digit, else one out of range. -/
theorem parse_grammar (text : String) :
    ∃ core, IsCore text core ∧
      (∀ oid, parse text = .ok oid ↔
        (∀ token ∈ core.splitOn '.', IsArcToken token) ∧ (core.splitOn '.').map tokenValue = oid) ∧
      ∀ e, parse text = .error e ↔
        ∃ before token after, core.splitOn '.' = before ++ token :: after ∧ (∀ t ∈ before, IsArcToken t) ∧
          ¬IsArcToken token ∧ e.text = text ∧ e.token = String.ofList token ∧
          e.fault.name = if token = [] then "empty" else if ∀ c ∈ token, c.isDigit then "range" else "syntax" := by
  have hcore := isCore_trimBoth text
  refine ⟨_, hcore, fun oid => ?_, fun e => ?_⟩
  · rw [parse_eq_ok_iff, hcore.tokens_eq]
  · rw [parse_eq_error_iff, hcore.tokens_eq]
    constructor
    · rintro ⟨before, token, after, htokens, hbefore, hnot, rfl⟩
      exact ⟨before, token, after, htokens, hbefore, hnot, rfl, rfl, name_faultOf token⟩
    · rintro ⟨before, token, after, htokens, hbefore, hnot, htext, htoken, hfault⟩
      obtain ⟨_, _, fault⟩ := e
      obtain rfl : fault = faultOf token := ArcFault.name_injective (hfault.trans (name_faultOf token).symm)
      exact ⟨before, token, after, htokens, hbefore, hnot, by rw [← htext, ← htoken]⟩

/-- Zeros in front do not count as digits; of two bad tokens the first is blamed. -/
example : parse "..1.3.0000000065535." = .ok [1, 3, 65535] ∧
    parse "1.3.0000100000..x" = .error ⟨"1.3.0000100000..x", "0000100000", .tooLarge⟩ := by decide

end BerOid.Oid
