import BerOid.Proofs.Framing

/-!
# Written headers

A number has as many digits in base 256 as the powers of 256 below it (`length_octets_le_iff`), and a byte with its top bit set
counts no more than 127 of them. So the writer gives definite lengths below the 127th power of 256, from there up to the 255th bytes
that are none, since the count has overrun the low seven bits, and nothing beyond (`encode_isDefinite_iff`). The reader takes counts
up to four. Of the headers written for definite lengths it reads back just those whose length is below 2 to the 32nd and whose tag
does not continue; it refuses the others at the first octet that it does not take (`read_encodeHeader`).
-/

namespace BerOid

/-! ## Definite forms -/

namespace Length

/-- The octets are a definite length as they tell it themselves: a single byte below 128, or a first octet with its top bit set whose
low seven bits are the number of octets behind it, not zero, and these are the digits of the length, the first of which is not zero. -/
def IsDefinite (written : List UInt8) (n : Nat) : Prop :=
  (n < 128 ∧ written = [UInt8.ofNat n]) ∨
    ∃ (first : UInt8) (digits : List UInt8), written = first :: digits ∧ 128 ≤ first.toNat ∧ first.toNat % 128 = digits.length ∧
      digits ≠ [] ∧ digits.head? ≠ some 0 ∧ ofOctets digits = n

/-- A number has no more digits in base 256 than the exponent of a power of 256 exactly when it is below that power. -/
theorem length_octets_le_iff {n k : Nat} : (octets n).length ≤ k ↔ n < 256 ^ k := by
  refine ⟨fun h => ?_, length_octets_le⟩
  calc n = ofOctets (octets n) := (ofOctets_octets n).symm
    _ < 256 ^ (octets n).length := ofOctets_lt _
    _ ≤ 256 ^ k := Nat.pow_le_pow_right (by decide) h

/-- The first octet has its top bit set and the low seven bits of the count; there is none for a count above 255. -/
theorem countOctet?_eq_some_iff {count : Nat} {first : UInt8} :
    countOctet? count = some first ↔ count < 256 ∧ first.toNat = 128 + count % 128 := by
  have hlt := first.toNat_lt
  unfold countOctet?
  split
  · rw [Option.some.injEq, ← UInt8.toNat_inj, UInt8.toNat_ofNat']
    omega
  · split
    · rw [Option.some.injEq, ← UInt8.toNat_inj, UInt8.toNat_ofNat']
      omega
    · simp only [reduceCtorEq, false_iff]
      omega

/-- A count up to 255 has a first octet. -/
theorem exists_countOctet? {count : Nat} (h : count < 256) : ∃ first, countOctet? count = some first := by
  refine ⟨UInt8.ofNat (128 + count % 128), countOctet?_eq_some_iff.2 ⟨h, ?_⟩⟩
  rw [UInt8.toNat_ofNat']
  omega

/-- What is written for a length. -/
theorem encode_eq_ok_iff {n : Nat} {written : List UInt8} :
    encode n = .ok written ↔ (n < 128 ∧ written = [UInt8.ofNat n]) ∨
      128 ≤ n ∧ ∃ first, countOctet? (octets n).length = some first ∧ written = first :: octets n := by
  simp only [encode]
  by_cases hshort : n < 128
  · simp [hshort, Nat.not_le.2 hshort, eq_comm]
  · rw [if_neg hshort]
    cases countOctet? (octets n).length <;> simp [hshort, Nat.not_lt.1 hshort, eq_comm]

/-- Something is written for the lengths below the 255th power of 256. -/
theorem exists_encode_iff {n : Nat} : (∃ written, encode n = .ok written) ↔ n < 256 ^ 255 := by
  simp only [encode_eq_ok_iff]
  rw [← length_octets_le_iff]
  constructor
  · rintro ⟨written, ⟨hshort, -⟩ | ⟨-, first, hfirst, -⟩⟩
    · exact length_octets_le (Nat.lt_trans hshort (by decide))
    · exact Nat.le_of_lt_succ (countOctet?_eq_some_iff.1 hfirst).1
  · intro h
    by_cases hshort : n < 128
    · exact ⟨_, .inl ⟨hshort, rfl⟩⟩
    · obtain ⟨first, hfirst⟩ := exists_countOctet? (Nat.lt_succ_of_le h)
      exact ⟨_, .inr ⟨by omega, first, hfirst, rfl⟩⟩

/-- What is written is a definite length exactly when the low seven bits of a byte can count the digits. -/
theorem isDefinite_iff_of_encode {n : Nat} {written : List UInt8} (h : encode n = .ok written) :
    IsDefinite written n ↔ n < 256 ^ 127 := by
  rw [← length_octets_le_iff]
  rcases encode_eq_ok_iff.1 h with ⟨hshort, rfl⟩ | ⟨hlong, first, hfirst, rfl⟩
  · exact iff_of_true (.inl ⟨hshort, rfl⟩) (length_octets_le (Nat.lt_trans hshort (by decide)))
  · obtain ⟨-, hbyte⟩ := countOctet?_eq_some_iff.1 hfirst
    constructor
    · rintro (⟨hshort, -⟩ | ⟨first', digits, hwritten, -, hcount, -⟩)
      · omega
      · obtain ⟨rfl, rfl⟩ := List.cons.inj hwritten
        omega
    · intro hle
      have hne : octets n ≠ [] := List.ne_nil_of_length_pos (length_octets_pos (by omega))
      exact .inr ⟨first, octets n, rfl, by omega, by omega, hne, head?_octets_ne n, ofOctets_octets n⟩

/-- The writer gives a definite length for exactly the lengths below the 127th power of 256. For those from there on and below the
255th it gives bytes that are not one, and for greater ones it gives nothing. -/
theorem encode_isDefinite_iff (n : Nat) :
    ((∃ written, encode n = .ok written ∧ IsDefinite written n) ↔ n < 256 ^ 127) ∧
      ((∃ written, encode n = .ok written ∧ ¬IsDefinite written n) ↔ 256 ^ 127 ≤ n ∧ n < 256 ^ 255) := by
  refine ⟨⟨?_, fun h => ?_⟩, ⟨?_, fun ⟨hle, h⟩ => ?_⟩⟩
  · rintro ⟨written, hwritten, hdefinite⟩
    exact (isDefinite_iff_of_encode hwritten).1 hdefinite
  · obtain ⟨written, hwritten⟩ := exists_encode_iff.2 (Nat.lt_trans h (Nat.pow_lt_pow_right (by decide) (by decide)))
    exact ⟨written, hwritten, (isDefinite_iff_of_encode hwritten).2 h⟩
  · rintro ⟨written, hwritten, hnot⟩
    rw [isDefinite_iff_of_encode hwritten, Nat.not_lt] at hnot
    exact ⟨hnot, exists_encode_iff.1 ⟨written, hwritten⟩⟩
  · obtain ⟨written, hwritten⟩ := exists_encode_iff.2 h
    exact ⟨written, hwritten, fun hdefinite => Nat.not_lt.2 hle ((isDefinite_iff_of_encode hwritten).1 hdefinite)⟩

/-- The 127th power of 256 has 128 digits, and the first octet written for it is that of the indefinite form. -/
theorem indefinite_length_written :
    ∃ digits, encode (256 ^ 127 : Nat) = .ok (0x80 :: digits) ∧ digits.length = 128 ∧ ¬IsDefinite (0x80 :: digits) (256 ^ 127) := by
  have hlen : (octets (256 ^ 127)).length = 128 := by
    have hle : (octets (256 ^ 127)).length ≤ 128 := length_octets_le (Nat.pow_lt_pow_right (by decide) (by decide))
    have hnot : ¬(octets (256 ^ 127)).length ≤ 127 := fun h => Nat.lt_irrefl _ (length_octets_le_iff.1 h)
    omega
  have hfirst : countOctet? (octets (256 ^ 127)).length = some 0x80 := by
    rw [hlen]
    rfl
  have hwritten : encode (256 ^ 127 : Nat) = .ok (0x80 :: octets (256 ^ 127)) :=
    encode_eq_ok_iff.2 (.inr ⟨by decide, 0x80, hfirst, rfl⟩)
  exact ⟨_, hwritten, hlen, fun h => Nat.lt_irrefl _ ((isDefinite_iff_of_encode hwritten).1 h)⟩

/-- What is written for a length whose digits can be counted in seven bits: below 2 to the 32nd one of the forms that are read, and
else a first octet that counts more octets than are read. -/
theorem exists_encode {n : Nat} (hn : n < 256 ^ 127) :
    ∃ first digits, encode n = .ok (first :: digits) ∧ (n < 2 ^ 32 → Denotes (first :: digits) n) ∧
      (2 ^ 32 ≤ n → maxLengthOctets < digits.length ∧ first.toNat = 128 + digits.length) := by
  by_cases hread : n < 2 ^ 32
  · obtain ⟨written, hwritten, hdenotes⟩ := encode_denotes hread
    rcases encode_eq_ok_iff.1 hwritten with ⟨-, rfl⟩ | ⟨-, first, -, rfl⟩
    · exact ⟨_, _, hwritten, fun _ => hdenotes, fun hwide => by omega⟩
    · exact ⟨_, _, hwritten, fun _ => hdenotes, fun hwide => by omega⟩
  · have hle : (octets n).length ≤ 127 := length_octets_le hn
    have hwide : ¬(octets n).length ≤ maxLengthOctets := fun h => hread (length_octets_le_iff.1 h)
    have hlt : (octets n).length < 256 := by omega
    obtain ⟨first, hfirst⟩ := exists_countOctet? hlt
    obtain ⟨-, hbyte⟩ := countOctet?_eq_some_iff.1 hfirst
    refine ⟨first, octets n, encode_eq_ok_iff.2 (.inr ⟨by omega, first, hfirst, rfl⟩), fun h => absurd h hread, fun _ => ?_⟩
    exact ⟨Nat.not_le.1 hwide, by omega⟩

end Length

/-! ## Headers -/

/-- The header of a length that is written, behind a tag of one byte. -/
theorem encodeHeader_eq (tag : UInt8) {n : Nat} {written : List UInt8} (h : Length.encode n = .ok written) :
    encodeHeader tag.toNat n = .ok (tag :: written) := by
  have hlt := tag.toNat_lt
  rw [encodeHeader, if_pos (by omega), h]
  simp [Except.map]

namespace Header

variable {tag first : UInt8} {rest : List UInt8} {last : List Piece} {s : Source}

/-- A tag that continues is refused, and nothing behind it is taken. -/
theorem read_multiByte_yields (htag : tag.toNat % 32 = 31) (h : s.Delivers (tag :: rest) last) :
    (read s).Yields (.error ⟨.multiByteTag tag, 1⟩) rest last := by
  refine (readByte_yields h).andThen fun t ht => ?_
  rw [if_pos htag]
  exact ⟨rfl, ht⟩

/-- A first octet that counts too many others is refused, and none of these is taken. -/
theorem read_tooWide_yields {count : Nat} (htag : tag.toNat % 32 ≠ 31) (hfirst : first.toNat = 128 + count)
    (hwide : maxLengthOctets < count) (h : s.Delivers (tag :: first :: rest) last) :
    (read s).Yields (.error ⟨.lengthTooWide count, 2⟩) rest last := by
  refine (readByte_yields h).andThen fun t ht => ?_
  rw [if_neg htag]
  obtain ⟨behind, hread, hbehind⟩ := readLength_spec tag
  rw [hread]
  refine ((readByte_yields ht).after 1).andThen fun u hu => ?_
  rcases hbehind first with ⟨hshort, -⟩ | ⟨hzero, -⟩ | ⟨-, hnext⟩ | ⟨count', -, hmax, hcount', -⟩
  · omega
  · omega
  · rw [hnext, hfirst, Nat.add_sub_cancel_left]
    exact ⟨rfl, hu⟩
  · omega

end Header

/-- The reader of headers against the writer. For every tag of one byte and every length below 2 to the 1016th a header is written,
of at least two bytes. A source that delivers it, in non-empty pieces cut anywhere, and any bytes behind it, is read as this tag and
this length, with the size of the header, and has just the bytes behind it left, exactly when the tag does not continue and the length
is below 2 to the 32nd. A tag that continues is refused as such after one byte. Behind another tag a greater length is refused for
the number of its octets after two bytes. -/
theorem read_encodeHeader (tag : UInt8) {n : Nat} (hn : n < 2 ^ 1016) :
    ∃ first digits, encodeHeader tag.toNat n = .ok (tag :: first :: digits) ∧
      ∀ (trailing : List UInt8) (last : List Piece) (s : Source), s.Delivers (tag :: first :: digits ++ trailing) last →
        ((Header.read s).Yields (.ok ⟨tag, n, 2 + digits.length⟩) trailing last ↔ tag.toNat % 32 ≠ 31 ∧ n < 2 ^ 32) ∧
        (tag.toNat % 32 = 31 → (Header.read s).Yields (.error ⟨.multiByteTag tag, 1⟩) (first :: digits ++ trailing) last) ∧
        (tag.toNat % 32 ≠ 31 → 2 ^ 32 ≤ n →
          (Header.read s).Yields (.error ⟨.lengthTooWide digits.length, 2⟩) (digits ++ trailing) last) := by
  have hpower : (2 : Nat) ^ 1016 = 256 ^ 127 := by rw [show 1016 = 8 * 127 from rfl, Nat.pow_mul]
  obtain ⟨first, digits, hencode, hdenotes, hwide⟩ := Length.exists_encode (hpower ▸ hn)
  refine ⟨first, digits, encodeHeader_eq tag hencode, fun trailing last s h => ?_⟩
  have hmulti : tag.toNat % 32 = 31 → (Header.read s).Yields (.error ⟨.multiByteTag tag, 1⟩) (first :: digits ++ trailing) last :=
    fun htag => Header.read_multiByte_yields htag h
  have hgreat : tag.toNat % 32 ≠ 31 → 2 ^ 32 ≤ n →
      (Header.read s).Yields (.error ⟨.lengthTooWide digits.length, 2⟩) (digits ++ trailing) last := by
    intro htag hle
    obtain ⟨hcount, hfirst⟩ := hwide hle
    exact Header.read_tooWide_yields htag hfirst hcount h
  refine ⟨⟨fun hread => ?_, fun ⟨htag, hlt⟩ => ?_⟩, hmulti, hgreat⟩
  · by_contra hnot
    -- the outcome would be a refusal too
    by_cases htag : tag.toNat % 32 = 31
    · exact nomatch hread.outcome_eq.symm.trans (hmulti htag).outcome_eq
    · exact nomatch hread.outcome_eq.symm.trans (hgreat htag (by omega)).outcome_eq
  · have hread := Header.read_yields htag (hdenotes hlt) h
    have hsize : 1 + (first :: digits).length = 2 + digits.length := by
      rw [List.length_cons]
      omega
    rwa [hsize] at hread

/-- The header of the greatest length that is read and one byte behind it, cut within the length. -/
def greatestSource : Source := { pieces := [.bytes [6], .bytes [0x84, 0xff, 0xff], .bytes [0xff, 0xff, 5]], chunk := some 2 }

/-- The header of the next length and one byte behind it, cut within the length. -/
def nextSource : Source := { pieces := [.bytes [6, 0x85, 1], .bytes [0, 0], .bytes [0, 0, 5]], chunk := some 2 }

/-- The greatest length below 2 to the 32nd is read back from its header, and the next one is refused after two bytes. -/
theorem read_encodeHeader_boundary :
    (4294967295 < 2 ^ 1016 ∧ encodeHeader 6 4294967295 = .ok [6, 0x84, 0xff, 0xff, 0xff, 0xff] ∧
      greatestSource.Delivers [6, 0x84, 0xff, 0xff, 0xff, 0xff, 5] [] ∧
      (Header.read greatestSource).Yields (.ok ⟨6, 4294967295, 6⟩) [5] []) ∧
    4294967296 < 2 ^ 1016 ∧ encodeHeader 6 4294967296 = .ok [6, 0x85, 1, 0, 0, 0, 0] ∧
      nextSource.Delivers [6, 0x85, 1, 0, 0, 0, 0, 5] [] ∧
      (Header.read nextSource).Yields (.error ⟨.lengthTooWide 5, 2⟩) [1, 0, 0, 0, 0, 5] [] := by
  have hgreatest : 4294967295 < 2 ^ 1016 := by decide +kernel
  have hnext : 4294967296 < 2 ^ 1016 := by decide +kernel
  have hwritten : encodeHeader 6 4294967295 = .ok [6, 0x84, 0xff, 0xff, 0xff, 0xff] := by cbv
  have hwritten' : encodeHeader 6 4294967296 = .ok [6, 0x85, 1, 0, 0, 0, 0] := by cbv
  have hdelivers : greatestSource.Delivers [6, 0x84, 0xff, 0xff, 0xff, 0xff, 5] [] :=
    ⟨rfl, by decide, [[6], [0x84, 0xff, 0xff], [0xff, 0xff, 5]], by decide, rfl, rfl⟩
  have hdelivers' : nextSource.Delivers [6, 0x85, 1, 0, 0, 0, 0, 5] [] :=
    ⟨rfl, by decide, [[6, 0x85, 1], [0, 0], [0, 0, 5]], by decide, rfl, rfl⟩
  obtain ⟨first, digits, hencode, hread⟩ := read_encodeHeader 6 hgreatest
  cases hwritten.symm.trans hencode
  obtain ⟨first, digits, hencode', hread'⟩ := read_encodeHeader 6 hnext
  cases hwritten'.symm.trans hencode'
  obtain ⟨hback, -, -⟩ := hread [5] [] greatestSource hdelivers
  obtain ⟨-, -, hrefused⟩ := hread' [5] [] nextSource hdelivers'
  exact ⟨⟨hgreatest, hwritten, hdelivers, hback.2 ⟨by decide, by decide⟩⟩, hnext, hwritten', hdelivers',
    hrefused (by decide) (by decide)⟩

end BerOid
