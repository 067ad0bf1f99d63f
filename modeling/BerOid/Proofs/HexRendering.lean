import BerOid.CommandLine.Run
import BerOid.Proofs.HexText

/-!
# What hex text stands for

Characters are read as bytes only if their hex digits spell the bytes, and only if all others among them are blanks
(`spells_of_bytesOfPairs?`). What a reader drops before are blanks at the two ends, a mark, and colons and spaces. So a text that is
read spells the bytes it is read as and holds nothing else, every rendering of bytes is read as these, and decoding refuses all other
texts (`hex_text_is_read_exactly`).
-/

namespace BerOid.Text

/-- An ASCII blank is a blank. -/
theorem isBlank_of_isAsciiBlank {c : Char} (h : isAsciiBlank c = true) : isBlank c = true := by
  simp only [isAsciiBlank, Bool.or_eq_true, Bool.and_eq_true, decide_eq_true_eq, beq_iff_eq] at h
  rcases h with h | rfl
  · simp only [isBlank, Bool.or_eq_true, Bool.and_eq_true, decide_eq_true_eq, beq_iff_eq]
    omega
  · rfl

/-- Characters that are read as bytes have digits that spell these bytes, and are all digits or blanks. -/
theorem spells_of_bytesOfPairs? {cs : List Char} {bytes : List UInt8} (h : bytesOfPairs? cs = some bytes) :
    Spells (hexDigits cs) bytes ∧ ∀ c ∈ cs, IsHexDigit c ∨ isAsciiBlank c = true := by
  have hskip : ∀ {c : Char} (cs : List Char), isAsciiBlank c = true → hexDigits (c :: cs) = hexDigits cs := by
    intro c cs hc
    have hnone : ¬IsHexDigit c := not_isHexDigit_of_isBlank (isBlank_of_isAsciiBlank hc)
    rw [← List.singleton_append, hexDigits_append, hexDigits_eq_nil (by simpa using hnone), List.nil_append]
  fun_induction bytesOfPairs? cs generalizing bytes with
  | case1 =>
    cases h
    exact ⟨rfl, nofun⟩
  | case2 c hblank =>
    cases h
    exact ⟨by rw [hskip [] hblank]; rfl, by simpa using .inr hblank⟩
  | case3 => cases h
  | case4 c d rest hblank ih =>
    obtain ⟨hspells, hall⟩ := ih h
    exact ⟨by rwa [hskip _ hblank], List.forall_mem_cons.2 ⟨.inr hblank, hall⟩⟩
  | case5 c d rest hblank high low tail htail hlow hhigh ih =>
    cases h
    obtain ⟨hspells, hall⟩ := ih htail
    obtain ⟨hlt, hc⟩ := toLower_of_hexValue? hhigh
    obtain ⟨hlt', hd⟩ := toLower_of_hexValue? hlow
    have hbyte : (UInt8.ofNat (16 * high + low)).toNat = 16 * high + low := by
      rw [UInt8.toNat_ofNat']
      omega
    have hdiv : (16 * high + low) / 16 = high := by omega
    have hmod : (16 * high + low) % 16 = low := by omega
    refine ⟨?_, List.forall_mem_cons.2 ⟨.inl ⟨high, hhigh⟩, List.forall_mem_cons.2 ⟨.inl ⟨low, hlow⟩, hall⟩⟩⟩
    rw [Spells, toList_hex_cons, hbyte, hdiv, hmod, ← hspells]
    simp [hexDigits, hhigh, hlow, hc, hd]
  | case6 => cases h

/-- What is dropped from the front of characters is a mark. -/
theorem exists_isHexMark_append (cs : List Char) : ∃ mark, IsHexMark mark ∧ cs = mark ++ dropHexMark cs := by
  unfold dropHexMark
  split
  · exact ⟨['0', 'x'], .inr (.inl rfl), rfl⟩
  · exact ⟨['0', 'X'], .inr (.inr rfl), rfl⟩
  · exact ⟨[], .inl rfl, rfl⟩

/-- A text encloses what is left of it when it is trimmed and its mark is dropped. -/
theorem encloses_dropHexMark (text : String) : Encloses text (dropHexMark (trimBoth isBlank text.toList)) := by
  obtain ⟨before, after, hbefore, hafter, htext⟩ := exists_append_trimBoth isBlank text.toList
  obtain ⟨mark, hmark, htrimmed⟩ := exists_isHexMark_append (trimBoth isBlank text.toList)
  exact ⟨before, mark, after, by rw [← htrimmed, ← htext], hmark, hbefore, hafter⟩

/-- Colons and spaces are no hex digits, so dropping them keeps the digits. -/
theorem hexDigits_filter (cs : List Char) : hexDigits (cs.filter fun c => c != ':' && c != ' ') = hexDigits cs := by
  rw [hexDigits, hexDigits, List.filter_filter]
  refine List.filter_congr fun c _ => ?_
  cases hsome : (hexValue? c).isSome with
  | false => rfl
  | true =>
    have hdigit : IsHexDigit c := Option.isSome_iff_exists.1 hsome
    simp [hdigit.ne not_isHexDigit.1, hdigit.ne not_isHexDigit.2.1]

/-- A text that is read encloses digits that spell the bytes, and nothing else but colons and blanks. -/
theorem exists_encloses_of_readHex? {text : String} {bytes : List UInt8} (h : readHex? text = some bytes) :
    ∃ body, Encloses text body ∧ Spells (hexDigits body) bytes ∧ ∀ c ∈ body, IsHexDigit c ∨ c = ':' ∨ isBlank c = true := by
  obtain ⟨hspells, hall⟩ := spells_of_bytesOfPairs? h
  rw [hexDigits_filter] at hspells
  refine ⟨_, encloses_dropHexMark text, hspells, fun c hc => ?_⟩
  by_cases hcolon : c = ':'
  · exact .inr (.inl hcolon)
  · by_cases hspace : c = ' '
    · subst hspace
      exact .inr (.inr rfl)
    · rcases hall c (List.mem_filter.2 ⟨hc, by simp [hcolon, hspace]⟩) with hdigit | hblank
      · exact .inl hdigit
      · exact .inr (.inr (isBlank_of_isAsciiBlank hblank))

/-- Hex text loses and invents nothing. Every text that encloses digits that spell bytes, with any colons and spaces anywhere, is read
as these bytes. Conversely a text that is read as bytes encloses digits that spell them, and nothing else but colons and blanks. And
whatever is not read as any bytes is refused as a command of decoding, with the text in the complaint. -/
theorem hex_text_is_read_exactly (text : String) :
    (∀ body bytes, Encloses text body → (∀ c ∈ body, IsHexDigit c ∨ c = ':' ∨ c = ' ') → Spells (hexDigits body) bytes →
      readHex? text = some bytes) ∧
    (∀ bytes, readHex? text = some bytes →
      ∃ body, Encloses text body ∧ Spells (hexDigits body) bytes ∧ ∀ c ∈ body, IsHexDigit c ∨ c = ':' ∨ isBlank c = true) ∧
    ((∀ bytes, readHex? text ≠ some bytes) → ∀ terms payloadOnly leadingDot s,
      CommandLine.decodeText terms text payloadOnly leadingDot s = (.refused ("not a hex string: " ++ quoted text), s)) := by
  refine ⟨fun body bytes h hbody hspells => readHex?_of_encloses h hbody hspells, fun bytes => exists_encloses_of_readHex?, ?_⟩
  intro hnone terms payloadOnly leadingDot s
  rw [CommandLine.decodeText, Option.eq_none_iff_forall_ne_some.2 hnone]

/-- Two bytes behind a mark, with a colon between them, a space within the second and blanks around, are read as such. With a digit
left over nothing is read, and decoding refuses the text. -/
theorem hex_text_is_read_exactly_loose :
    (Encloses "\t0X2B:0 6\n" ['2', 'B', ':', '0', ' ', '6'] ∧ readHex? "\t0X2B:0 6\n" = some [0x2b, 6]) ∧
      readHex? "2b0" = none ∧ ∀ terms payloadOnly leadingDot s,
        CommandLine.decodeText terms "2b0" payloadOnly leadingDot s = (.refused ("not a hex string: " ++ quoted "2b0"), s) := by
  have hencloses : Encloses "\t0X2B:0 6\n" ['2', 'B', ':', '0', ' ', '6'] :=
    ⟨['\t'], ['0', 'X'], ['\n'], rfl, .inr (.inr rfl), by simp [isBlank], by simp [isBlank]⟩
  have hspells : Spells (hexDigits ['2', 'B', ':', '0', ' ', '6']) [0x2b, 6] := by
    unfold Spells
    decide
  have hbody : ∀ c ∈ ['2', 'B', ':', '0', ' ', '6'], IsHexDigit c ∨ c = ':' ∨ c = ' ' := by
    simp [IsHexDigit, hexValue?]
  have hnone : readHex? "2b0" = none := by decide
  obtain ⟨hread, -, -⟩ := hex_text_is_read_exactly "\t0X2B:0 6\n"
  obtain ⟨-, -, hrefused⟩ := hex_text_is_read_exactly "2b0"
  refine ⟨⟨hencloses, hread _ _ hencloses hbody hspells⟩, hnone, hrefused fun bytes h => ?_⟩
  rw [hnone] at h
  cases h

end BerOid.Text
