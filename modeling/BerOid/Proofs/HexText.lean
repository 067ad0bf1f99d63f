import Mathlib
import BerOid.Text.Hex

/-!
# Hex text

A text that hands bytes in encloses, between blanks and behind one mark if there is any, characters whose hex digits spell the bytes,
each digit in either case (`Encloses`, `Spells`). Hex digits are no blanks and none of the characters that a reader drops. So trimming
and dropping the mark give the enclosed characters back, except for blanks at their two ends (`Encloses.exists_append`), dropping
colons and spaces leaves exactly the digits, and these are read as the bytes (`readHex?_of_encloses`). Bytes that were printed as pairs
of hex digits are a case of it (`readHex?_spacedHex`).
-/

namespace BerOid.Text

/-! ## Digits -/

/-- A hex digit, in either case. -/
def IsHexDigit (c : Char) : Prop := ∃ n, hexValue? c = some n

/-- A number below sixteen is read from its digit. -/
theorem hexValue?_hexDigit : ∀ n < 16, hexValue? (hexDigit n) = some n := by decide

/-- Numbers below sixteen are printed as hex digits. -/
theorem isHexDigit_hexDigit {n : Nat} (h : n < 16) : IsHexDigit (hexDigit n) := ⟨n, hexValue?_hexDigit n h⟩

/-- Hex digits stand in three runs of ASCII characters. -/
theorem IsHexDigit.toNat_mem {c : Char} (h : IsHexDigit c) :
    48 ≤ c.toNat ∧ c.toNat ≤ 57 ∨ 97 ≤ c.toNat ∧ c.toNat ≤ 102 ∨ 65 ≤ c.toNat ∧ c.toNat ≤ 70 := by
  obtain ⟨n, h⟩ := h
  unfold hexValue? at h
  split at h
  · rename_i hrun
    exact .inl hrun
  · split at h
    · rename_i hrun
      exact .inr (.inl hrun)
    · split at h
      · rename_i hrun
        exact .inr (.inr hrun)
      · cases h

/-- A hex digit is no blank. -/
theorem IsHexDigit.isBlank_eq {c : Char} (h : IsHexDigit c) : isBlank c = false := by
  have := h.toNat_mem
  simp only [isBlank, Bool.or_eq_false_iff, Bool.and_eq_false_iff, decide_eq_false_iff_not, beq_eq_false_iff_ne]
  omega

/-- A hex digit is no ASCII blank. -/
theorem IsHexDigit.isAsciiBlank_eq {c : Char} (h : IsHexDigit c) : isAsciiBlank c = false := by
  have hrange := h.toNat_mem
  have hspace : c ≠ ' ' := by
    rintro rfl
    revert hrange
    decide
  simp only [isAsciiBlank, Bool.or_eq_false_iff, Bool.and_eq_false_iff, decide_eq_false_iff_not, beq_eq_false_iff_ne]
  exact ⟨by omega, hspace⟩

/-- A hex digit is none of the characters outside its runs. -/
theorem IsHexDigit.ne {c d : Char} (h : IsHexDigit c) (hd : ¬IsHexDigit d) : c ≠ d := by
  rintro rfl
  exact hd h

/-- The separators and the letter of the mark are no hex digits. -/
theorem not_isHexDigit : ¬IsHexDigit ':' ∧ ¬IsHexDigit ' ' ∧ ¬IsHexDigit 'x' ∧ ¬IsHexDigit 'X' := by
  refine ⟨?_, ?_, ?_, ?_⟩ <;> rintro ⟨n, h⟩ <;> cases h

/-- The two halves of a byte are printed as hex digits. -/
theorem isHexDigit_of_mem_hexPair {b : UInt8} {c : Char} (h : c ∈ hexPair b) : IsHexDigit c := by
  have hb := b.toNat_lt
  rcases List.mem_pair.1 h with rfl | rfl
  · exact isHexDigit_hexDigit (by omega)
  · exact isHexDigit_hexDigit (by omega)

/-! ## Digits among other characters -/

/-- The hex digits among characters, in their order. -/
def hexDigits (cs : List Char) : List Char := cs.filter fun c => (hexValue? c).isSome

/-- The digits are those of the bytes in hex, each in either case. -/
def Spells (digits : List Char) (bytes : List UInt8) : Prop := digits.map Char.toLower = (hex bytes).toList

theorem hexDigits_append (cs cs' : List Char) : hexDigits (cs ++ cs') = hexDigits cs ++ hexDigits cs' := List.filter_append ..

/-- Characters none of which is a hex digit have none among them. -/
theorem hexDigits_eq_nil {cs : List Char} (h : ∀ c ∈ cs, ¬IsHexDigit c) : hexDigits cs = [] := by
  rw [hexDigits, List.filter_eq_nil_iff]
  intro c hc hsome
  exact h c hc (Option.isSome_iff_exists.1 hsome)

/-- A blank is no hex digit. -/
theorem not_isHexDigit_of_isBlank {c : Char} (h : isBlank c = true) : ¬IsHexDigit c := by
  intro hdigit
  rw [hdigit.isBlank_eq] at h
  cases h

/-- A hex digit in lower case is that of its value. -/
theorem toLower_of_hexValue? {c : Char} {n : Nat} (h : hexValue? c = some n) : n < 16 ∧ c.toLower = hexDigit n := by
  have hall : ∀ k < 103, ∀ n ∈ hexValue? (Char.ofNat k), n < 16 ∧ (Char.ofNat k).toLower = hexDigit n := by decide
  have hrange := IsHexDigit.toNat_mem ⟨n, h⟩
  have hchar := hall c.toNat (by omega)
  rw [Char.ofNat_toNat] at hchar
  exact hchar n h

/-- The digits of a byte and of the bytes behind it. -/
theorem toList_hex_cons (b : UInt8) (bytes : List UInt8) :
    (hex (b :: bytes)).toList = hexDigit (b.toNat / 16) :: hexDigit (b.toNat % 16) :: (hex bytes).toList := by
  simp [hex, hexPair]

/-- A hex digit whose lower case is the digit of a number has this number as its value. -/
theorem IsHexDigit.hexValue?_eq {c : Char} (hc : IsHexDigit c) {n : Nat} (hn : n < 16) (h : c.toLower = hexDigit n) :
    hexValue? c = some n := by
  obtain ⟨m, hm⟩ := hc
  obtain ⟨hlt, hlower⟩ := toLower_of_hexValue? hm
  have hvalue := hexValue?_hexDigit m hlt
  rw [← hlower, h, hexValue?_hexDigit n hn] at hvalue
  rw [hm, hvalue]

/-! ## Pairs -/

/-- Digits that spell bytes are read as these bytes. -/
theorem bytesOfPairs?_of_spells {digits : List Char} {bytes : List UInt8} (hdigits : ∀ c ∈ digits, IsHexDigit c)
    (h : Spells digits bytes) : bytesOfPairs? digits = some bytes := by
  induction bytes generalizing digits with
  | nil =>
    obtain rfl : digits = [] := List.map_eq_nil_iff.1 h
    rfl
  | cons b bytes ih =>
    have hb := b.toNat_lt
    rw [Spells, toList_hex_cons] at h
    obtain ⟨c, behind, rfl, hc, h⟩ := List.map_eq_cons_iff.1 h
    obtain ⟨d, rest, rfl, hd, h⟩ := List.map_eq_cons_iff.1 h
    obtain ⟨hdigit, hdigits⟩ := List.forall_mem_cons.1 hdigits
    obtain ⟨hdigit', hdigits⟩ := List.forall_mem_cons.1 hdigits
    have hhigh := hdigit.hexValue?_eq (by omega) hc
    have hlow := hdigit'.hexValue?_eq (by omega) hd
    have hback : UInt8.ofNat (16 * (b.toNat / 16) + b.toNat % 16) = b := by
      rw [Nat.div_add_mod, UInt8.ofNat_toNat]
    simp [bytesOfPairs?, hdigit.isAsciiBlank_eq, hhigh, hlow, ih hdigits h, hback]

/-! ## Ends of a text -/

section Trimming

variable {p : Char → Bool}

/-- What is dropped from the front of characters is of the class. -/
theorem exists_append_dropWhile (p : Char → Bool) (cs : List Char) : ∃ front, (∀ c ∈ front, p c) ∧ cs = front ++ cs.dropWhile p :=
  ⟨cs.takeWhile p, fun _ hc => List.mem_takeWhile_imp hc, List.takeWhile_append_dropWhile.symm⟩

/-- What is dropped from the end of characters is of the class. -/
theorem exists_append_dropEnd (p : Char → Bool) (cs : List Char) :
    ∃ behind, (∀ c ∈ behind, p c) ∧ cs = (cs.reverse.dropWhile p).reverse ++ behind := by
  obtain ⟨front, hfront, hcs⟩ := exists_append_dropWhile p cs.reverse
  refine ⟨front.reverse, fun c hc => hfront c (List.mem_reverse.1 hc), ?_⟩
  rw [← List.reverse_append, ← hcs, List.reverse_reverse]

/-- Trimming takes away characters of the class at the two ends. -/
theorem exists_append_trimBoth (p : Char → Bool) (cs : List Char) :
    ∃ front behind, (∀ c ∈ front, p c) ∧ (∀ c ∈ behind, p c) ∧ cs = front ++ trimBoth p cs ++ behind := by
  obtain ⟨front, hfront, hcs⟩ := exists_append_dropWhile p cs
  obtain ⟨behind, hbehind, hrest⟩ := exists_append_dropEnd p (cs.dropWhile p)
  refine ⟨front, behind, hfront, hbehind, ?_⟩
  rw [trimBoth, List.append_assoc, ← hrest, ← hcs]

/-- Characters of the class at the two ends are nothing to trimming. -/
theorem trimBoth_append {front behind : List Char} (hfront : ∀ c ∈ front, p c) (hbehind : ∀ c ∈ behind, p c) (cs : List Char) :
    trimBoth p (front ++ cs ++ behind) = trimBoth p cs := by
  have hend : ∀ c ∈ behind.reverse, p c := fun c hc => hbehind c (List.mem_reverse.1 hc)
  rw [trimBoth, List.append_assoc, List.dropWhile_append_of_pos hfront, List.dropWhile_append, trimBoth]
  split
  · rename_i hnone
    rw [List.isEmpty_iff.1 hnone, List.dropWhile_eq_nil_iff.2 hbehind]
  · rw [List.reverse_append, List.dropWhile_append_of_pos hend]

/-- Behind a front none of which is of the class only the end is trimmed. -/
theorem exists_trimBoth_append {front : List Char} (hne : front ≠ []) (hfront : ∀ c ∈ front, p c = false) (cs : List Char) :
    ∃ kept behind, (∀ c ∈ behind, p c) ∧ cs = kept ++ behind ∧ trimBoth p (front ++ cs) = front ++ kept := by
  obtain ⟨behind, hbehind, hcs⟩ := exists_append_dropEnd p cs
  have hhead : ∀ {l : List Char}, l ≠ [] → (∀ c ∈ l, p c = false) → l.dropWhile p = l := by
    intro l hl hall
    obtain ⟨c, l, rfl⟩ := List.exists_cons_of_ne_nil hl
    rw [List.dropWhile_cons_of_neg (by simp [hall c List.mem_cons_self])]
  have hback : front.reverse.dropWhile p = front.reverse :=
    hhead (by simpa using hne) fun c hc => hfront c (List.mem_reverse.1 hc)
  refine ⟨_, behind, hbehind, hcs, ?_⟩
  rw [trimBoth, List.dropWhile_append, hhead hne hfront, if_neg (by simpa using hne), List.reverse_append, List.dropWhile_append, hback]
  split
  · rename_i hnone
    rw [List.isEmpty_iff.1 hnone]
    simp
  · simp

end Trimming

/-! ## Enclosed characters -/

/-- A mark that may stand in front of the digits, or none. -/
def IsHexMark (mark : List Char) : Prop := mark = [] ∨ mark = ['0', 'x'] ∨ mark = ['0', 'X']

/-- A mark that is there has no blanks and is dropped. -/
theorem IsHexMark.eq_nil_or {mark : List Char} (h : IsHexMark mark) :
    mark = [] ∨ mark ≠ [] ∧ (∀ c ∈ mark, isBlank c = false) ∧ ∀ cs, dropHexMark (mark ++ cs) = cs := by
  rcases h with rfl | rfl | rfl
  · exact .inl rfl
  · exact .inr ⟨by simp, by simp [isBlank], fun _ => rfl⟩
  · exact .inr ⟨by simp, by simp [isBlank], fun _ => rfl⟩

/-- The text is the characters, behind a mark if there is any, with blanks around. -/
def Encloses (text : String) (body : List Char) : Prop :=
  ∃ before mark after, text.toList = before ++ (mark ++ body) ++ after ∧ IsHexMark mark ∧
    (∀ c ∈ before, isBlank c = true) ∧ ∀ c ∈ after, isBlank c = true

/-- Nothing is dropped from characters without the letter of a mark. -/
theorem dropHexMark_eq_self {cs : List Char} (h : ∀ c ∈ cs, c ≠ 'x' ∧ c ≠ 'X') : dropHexMark cs = cs := by
  unfold dropHexMark
  split
  · exact absurd rfl (h 'x' (by simp)).1
  · exact absurd rfl (h 'X' (by simp)).2
  · rfl

/-- Of enclosed characters without the letter of a mark, trimming takes away blanks at the two ends and dropping the mark nothing. -/
theorem Encloses.exists_append {text : String} {body : List Char} (h : Encloses text body) (hbody : ∀ c ∈ body, c ≠ 'x' ∧ c ≠ 'X') :
    ∃ front behind, (∀ c ∈ front, isBlank c = true) ∧ (∀ c ∈ behind, isBlank c = true) ∧
      body = front ++ dropHexMark (trimBoth isBlank text.toList) ++ behind := by
  obtain ⟨before, mark, after, htext, hmark, hbefore, hafter⟩ := h
  rw [htext, trimBoth_append hbefore hafter]
  rcases hmark.eq_nil_or with rfl | ⟨hne, hblank, hdrop⟩
  · obtain ⟨front, behind, hfront, hbehind, hsplit⟩ := exists_append_trimBoth isBlank body
    have hkept : dropHexMark (trimBoth isBlank body) = trimBoth isBlank body := by
      refine dropHexMark_eq_self fun c hc => hbody c ?_
      rw [hsplit]
      simp [hc]
    exact ⟨front, behind, hfront, hbehind, by rwa [List.nil_append, hkept]⟩
  · obtain ⟨kept, behind, hbehind, hsplit, htrimmed⟩ := exists_trimBoth_append hne hblank body
    exact ⟨[], behind, nofun, hbehind, by rw [htrimmed, hdrop, List.nil_append, ← hsplit]⟩

/-! ## Reading -/

/-- Of digits, colons and spaces, dropping the latter two leaves the digits. -/
theorem filter_eq_hexDigits {cs : List Char} (h : ∀ c ∈ cs, IsHexDigit c ∨ c = ':' ∨ c = ' ') :
    (cs.filter fun c => c != ':' && c != ' ') = hexDigits cs := by
  refine List.filter_congr fun c hc => ?_
  rcases h c hc with hdigit | rfl | rfl
  · simp [hdigit.ne not_isHexDigit.1, hdigit.ne not_isHexDigit.2.1, Option.isSome_iff_exists.2 hdigit]
  · rfl
  · rfl

/-- Every rendering of bytes with colons and spaces is read as the bytes. -/
theorem readHex?_of_encloses {text : String} {body : List Char} {bytes : List UInt8} (h : Encloses text body)
    (hbody : ∀ c ∈ body, IsHexDigit c ∨ c = ':' ∨ c = ' ') (hspells : Spells (hexDigits body) bytes) :
    readHex? text = some bytes := by
  have hletters : ∀ c ∈ body, c ≠ 'x' ∧ c ≠ 'X' := by
    intro c hc
    rcases hbody c hc with hdigit | rfl | rfl
    · exact ⟨hdigit.ne not_isHexDigit.2.2.1, hdigit.ne not_isHexDigit.2.2.2⟩
    · decide
    · decide
  obtain ⟨front, behind, hfront, hbehind, hsplit⟩ := h.exists_append hletters
  rw [readHex?]
  generalize dropHexMark (trimBoth isBlank text.toList) = kept at hsplit
  subst hsplit
  have hkept : ∀ c ∈ kept, IsHexDigit c ∨ c = ':' ∨ c = ' ' := fun c hc => hbody c (by simp [hc])
  rw [hexDigits_append, hexDigits_append, hexDigits_eq_nil fun c hc => not_isHexDigit_of_isBlank (hfront c hc),
    hexDigits_eq_nil fun c hc => not_isHexDigit_of_isBlank (hbehind c hc), List.nil_append, List.append_nil] at hspells
  rw [filter_eq_hexDigits hkept]
  refine bytesOfPairs?_of_spells (fun c hc => ?_) hspells
  exact Option.isSome_iff_exists.1 (List.mem_filter.1 hc).2

/-! ## Printed bytes -/

/-- A first byte is printed at the front, and every other one behind a space. -/
theorem toList_spacedHex_cons (b : UInt8) (bytes : List UInt8) :
    (spacedHex (b :: bytes)).toList = hexPair b ++ bytes.flatMap (' ' :: hexPair ·) := by
  rw [spacedHex, String.toList_ofList]
  induction bytes generalizing b with
  | nil => simp
  | cons next bytes ih => rw [List.map_cons, List.map_cons, List.intercalate_cons_cons, ← List.map_cons, ih]; simp

/-- A byte is printed in hex digits only. -/
theorem hexDigits_hexPair (b : UInt8) : hexDigits (hexPair b) = hexPair b := by
  rw [hexDigits, List.filter_eq_self]
  exact fun c hc => Option.isSome_iff_exists.2 (isHexDigit_of_mem_hexPair hc)

/-- The hex digits of printed bytes are the bytes in hex. -/
theorem hexDigits_spacedHex (bytes : List UInt8) : hexDigits (spacedHex bytes).toList = (hex bytes).toList := by
  cases bytes with
  | nil => rfl
  | cons b bytes =>
    have hspaced : ∀ b, hexDigits (' ' :: hexPair b) = hexPair b := hexDigits_hexPair
    rw [toList_spacedHex_cons, hexDigits_append, hexDigits_hexPair, hexDigits, List.filter_flatMap, hex, String.toList_ofList,
      List.flatMap_cons]
    exact congrArg (hexPair b ++ ·) (List.flatMap_congr fun b _ => hspaced b)

/-- Printed bytes hold hex digits and spaces only. -/
theorem isHexDigit_or_of_mem_spacedHex {bytes : List UInt8} {c : Char} (h : c ∈ (spacedHex bytes).toList) :
    IsHexDigit c ∨ c = ' ' := by
  cases bytes with
  | nil => cases h
  | cons b bytes =>
    rw [toList_spacedHex_cons, List.mem_append, List.mem_flatMap] at h
    rcases h with h | ⟨b', -, h⟩
    · exact .inl (isHexDigit_of_mem_hexPair h)
    · rcases List.mem_cons.1 h with rfl | h
      · exact .inr rfl
      · exact .inl (isHexDigit_of_mem_hexPair h)

/-- Bytes in hex spell themselves. -/
theorem spells_hex (bytes : List UInt8) : Spells (hex bytes).toList bytes := by
  have hlower : ∀ n < 16, (hexDigit n).toLower = hexDigit n := by decide
  induction bytes with
  | nil => rfl
  | cons b bytes ih =>
    have hb := b.toNat_lt
    rw [Spells, toList_hex_cons, List.map_cons, List.map_cons, hlower _ (by omega), hlower _ (by omega), ih]

/-- Printed bytes are read back. -/
theorem readHex?_spacedHex (bytes : List UInt8) : readHex? (spacedHex bytes) = some bytes := by
  have hencloses : Encloses (spacedHex bytes) (spacedHex bytes).toList := ⟨[], [], [], by simp, .inl rfl, nofun, nofun⟩
  refine readHex?_of_encloses hencloses (fun c hc => (isHexDigit_or_of_mem_spacedHex hc).imp_right .inr) ?_
  rw [hexDigits_spacedHex]
  exact spells_hex bytes

end BerOid.Text
