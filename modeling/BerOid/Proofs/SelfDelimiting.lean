import BerOid.Proofs.Canonical

/-!
# Subidentifiers in a buffer

What is read at an offset of a buffer is a complete subidentifier that stands there (`exists_isComplete_of_decode`), and any of an
allowed value is read (`decode_eq_ok_iff`). Of the complete subidentifiers of a number the written one is the only one without
padding, and none is shorter. Its last byte alone tells where it ends: wherever it stands in a buffer, it is read as its number or
refused for the limit, and neither what is in front of it nor what follows has a say (`canonical_self_delimiting`).
-/

namespace BerOid.Base128

/-! ## What is read -/

/-- What is read on after groups of value `acc` ends with a complete subidentifier. -/
theorem exists_isComplete_of_decodeFrom {limit : Option Int} {acc v : Nat} {bytes rest : List UInt8}
    (h : decodeFrom limit acc bytes = .ok (v, rest)) : ∃ g, IsComplete g ∧ bytes = g ++ rest ∧ valueFrom acc g = v := by
  induction bytes generalizing acc with
  | nil => simp [decodeFrom] at h
  | cons b tail ih =>
    simp only [decodeFrom] at h
    split at h
    · cases h
    · split at h
      · rename_i hlast
        cases h
        exact ⟨[b], isComplete_singleton hlast, rfl, rfl⟩
      · rename_i hnext
        obtain ⟨g, hg, rfl, hv⟩ := ih h
        exact ⟨b :: g, hg.cons (by omega), rfl, hv⟩

/-- What is read is a complete subidentifier at the front, and its value. -/
theorem exists_isComplete_of_decode {limit : Option Int} {v : Nat} {bytes rest : List UInt8}
    (h : decode limit bytes = .ok (v, rest)) : ∃ g, IsComplete g ∧ bytes = g ++ rest ∧ value g = v :=
  exists_isComplete_of_decodeFrom h

/-- A limit does not allow a value exactly when there is one and the value is above it. -/
theorem not_allows_iff {limit : Option Int} {v : Nat} : ¬Allows limit v ↔ ∃ l, limit = some l ∧ l < v := by
  cases limit <;> simp [Allows]

/-- Bytes are read exactly when a complete subidentifier of an allowed value is at their front. -/
theorem decode_eq_ok_iff {limit : Option Int} {v : Nat} {bytes rest : List UInt8} :
    decode limit bytes = .ok (v, rest) ↔ ∃ g, IsComplete g ∧ bytes = g ++ rest ∧ value g = v ∧ Allows limit v := by
  constructor
  · intro h
    obtain ⟨g, hg, rfl, rfl⟩ := exists_isComplete_of_decode h
    refine ⟨g, hg, rfl, rfl, ?_⟩
    by_contra hnot
    obtain ⟨l, rfl, habove⟩ := not_allows_iff.1 hnot
    obtain ⟨v, hrefused⟩ := decode_complete_of_above hg habove rest
    rw [hrefused] at h
    cases h
  · rintro ⟨g, hg, rfl, rfl, hallows⟩
    exact decode_complete hg hallows rest

/-- A complete subidentifier is no shorter than what is written for its value. -/
theorem IsComplete.length_encode_le {g : List UInt8} (h : IsComplete g) : (encode (value g)).length ≤ g.length := by
  rw [encode_value_eq_unpadded h]
  exact length_unpadded_le g

/-! ## Offsets -/

/-- At an address that is not before the buffer the bytes to be read there are read, and refused for the whole buffer. -/
theorem decodeAt_eq (limit : Option Int) {data : List UInt8} {offset : Int} (haddress : leastAddress ≤ offset)
    (hlow : -(data.length : Int) ≤ offset) :
    decodeAt limit data offset =
      ((decode limit (bytesAt data offset)).map fun r => (r.1, offset + ((bytesAt data offset).length - r.2.length : Nat))).mapError
        fun fault => .refused (fault.inBuffer offset data.length) := by
  simp only [decodeAt, if_neg (Int.not_lt.2 haddress), if_neg (Int.not_lt.2 hlow)]
  cases decode limit (bytesAt data offset) <;> rfl

/-- An offset that does not count from the end is an address, and the bytes from there on are read. -/
theorem decodeAt_natCast (limit : Option Int) (data : List UInt8) (offset : Nat) :
    decodeAt limit data offset =
      ((decode limit (data.drop offset)).map
        fun r => (r.1, (offset : Int) + ((data.drop offset).length - r.2.length : Nat))).mapError
        fun fault => .refused (fault.inBuffer offset data.length) := by
  have haddress : leastAddress ≤ offset := by
    simp only [leastAddress]
    omega
  have hbytes : bytesAt data offset = data.drop offset := by simp [bytesAt]
  rw [decodeAt_eq limit haddress (by omega), hbytes]

/-- At an offset of a buffer bytes are refused exactly when they are by themselves, and for the whole buffer. -/
theorem decodeAt_eq_error_iff {limit : Option Int} {data : List UInt8} {offset : Nat} {e : OffsetError} :
    decodeAt limit data offset = .error e ↔
      ∃ fault, decode limit (data.drop offset) = .error fault ∧ .refused (fault.inBuffer offset data.length) = e := by
  rw [decodeAt_natCast, mapError_eq_error_iff]
  simp only [map_eq_error_iff]

/-- A subidentifier that can be read is read behind any bytes. -/
theorem decodeAt_of_ok {limit : Option Int} {front g rest : List UInt8} {v : Nat}
    (h : decode limit (g ++ rest) = .ok (v, rest)) :
    decodeAt limit (front ++ g ++ rest) front.length = .ok (v, front.length + g.length) := by
  rw [decodeAt_natCast, List.append_assoc, List.drop_left, h]
  simp [Except.map, Except.mapError]

/-- What is read at an offset takes at least as many bytes as are written for its value, and none behind the buffer. -/
theorem length_encode_le_of_decodeAt {limit : Option Int} {data : List UInt8} {offset v : Nat} {next : Int}
    (h : decodeAt limit data offset = .ok (v, next)) : offset + (encode v).length ≤ next ∧ next ≤ data.length := by
  rw [decodeAt_natCast, mapError_eq_ok_iff, map_eq_ok_iff] at h
  obtain ⟨⟨v', rest⟩, hread, heq⟩ := h
  cases heq
  obtain ⟨g, hg, hbytes, rfl⟩ := exists_isComplete_of_decode hread
  have hshort := hg.length_encode_le
  have hne := List.length_pos_iff.2 hg.ne_nil
  have hsize := congrArg List.length hbytes
  rw [List.length_drop, List.length_append] at hsize
  simp only [List.length_drop]
  omega

/-- What is written for a number above the limit is refused between any bytes, for the first of its fronts that is above the limit. -/
theorem decodeAt_of_above {limit : Int} {n : Nat} (h : limit < n) (front rest : List UInt8) :
    ∃ e w, decodeAt (some limit) (front ++ encode n ++ rest) front.length = .error (.refused e) ∧
      e.fault = .arcAboveLimit w limit ∧ limit < w ∧ w ≤ n := by
  obtain ⟨w, hw⟩ := exists_firstAbove? (isComplete_encode n).ne_nil (by rwa [value_encode])
  obtain ⟨habove, hle⟩ := firstAboveFrom?_eq_some hw
  rw [← value, value_encode] at hle
  refine ⟨_, w, decodeAt_eq_error_iff.2 ⟨.aboveLimit w limit, ?_, rfl⟩, rfl, habove, hle⟩
  rw [List.append_assoc, List.drop_left]
  exact decodeFrom_append_of_firstAbove (isComplete_encode n).isOpen_dropLast hw rest

/-! ## The code -/

/-- The written subidentifiers are a canonical code whose words end by themselves. What is written for a number is the one complete
subidentifier with its value and no padding, and nothing shorter is read as the number. Between any bytes in front and behind it is
read as the number, up to its end, if the limit allows that. Else it is refused for a value above the limit that is no greater than
the number; this is raised as out of range if the value and the limit have a text, and else as the complaint about their digits. -/
theorem canonical_self_delimiting (n : Nat) :
    ∃ code, encodeInt n = .ok code ∧
      (∀ g, IsComplete g ∧ g.head? ≠ some 0x80 ∧ value g = n ↔ g = code) ∧
      (∀ limit data (offset : Nat) next, decodeAt limit data offset = .ok (n, next) →
        offset + code.length ≤ next ∧ next ≤ data.length) ∧
      ∀ front rest,
        (∀ limit, Allows limit n →
          decodeAt limit (front ++ code ++ rest) front.length = .ok (n, front.length + code.length)) ∧
        ∀ limit : Int, limit < n →
          ∃ e w, decodeAt (some limit) (front ++ code ++ rest) front.length = .error (.refused e) ∧
            e.fault = .arcAboveLimit w limit ∧ limit < w ∧ w ≤ n ∧
            e.fault.raised = if isShowable w ∧ isShowable limit then .outOfRange else .unshowable := by
  refine ⟨encode n, rfl, fun g => ?_, fun limit data offset next h => length_encode_le_of_decodeAt h, fun front rest => ⟨?_, ?_⟩⟩
  · constructor
    · rintro ⟨hcomplete, hhead, hvalue⟩
      exact (isMinimal_iff_encode.1 ⟨hcomplete, hvalue, hhead⟩).symm
    · rintro rfl
      exact ⟨isComplete_encode n, head?_encode_ne n, value_encode n⟩
  · intro limit hallows
    have hread := decode_complete (isComplete_encode n) (by rwa [value_encode]) rest
    rw [value_encode] at hread
    exact decodeAt_of_ok hread
  · intro limit habove
    obtain ⟨e, w, he, hfault, hw, hle⟩ := decodeAt_of_above habove front rest
    exact ⟨e, w, he, hfault, hw, hle, by rw [hfault, Payload.raised_arcAboveLimit]⟩

/-- The number 300 is written in two bytes, and behind a byte that continues and in front of an unfinished run it is read as such
without a limit, and refused under a limit of 299. -/
theorem canonical_self_delimiting_between :
    encodeInt 300 = .ok [0x82, 0x2c] ∧ decodeAt none [0x81, 0x82, 0x2c, 0xff] 1 = .ok (300, 3) ∧
      ∃ e w, decodeAt (some 299) [0x81, 0x82, 0x2c, 0xff] 1 = .error (.refused e) ∧ e.fault = .arcAboveLimit w 299 ∧ w ≤ 300 := by
  have hwritten : encodeInt 300 = .ok [0x82, 0x2c] := by cbv
  obtain ⟨code, hcode, -, -, hbetween⟩ := canonical_self_delimiting 300
  obtain rfl : [0x82, 0x2c] = code := Except.ok.inj (hwritten.symm.trans hcode)
  obtain ⟨hread, hrefused⟩ := hbetween [0x81] [0xff]
  have hallows : Allows none 300 := by simp [Allows]
  obtain ⟨e, w, he, hfault, -, hle, -⟩ := hrefused 299 (by decide)
  exact ⟨hwritten, hread none hallows, e, w, he, hfault, hle⟩

/-- What is above a limit that is not negative is not always refused as out of range. -/
theorem refused_above_without_wording : ¬∀ (n : Nat) (limit : Int) front rest, 0 ≤ limit → limit < n →
    ∃ e, decodeAt (some limit) (front ++ encode n ++ rest) front.length = .error (.refused e) ∧
      e.fault.raised = .outOfRange := by
  intro hraises
  have hlarge := pow_le_leastUnshowable (k := 1) (by decide)
  have habove : (leastUnshowable : Int) - 1 < leastUnshowable := by omega
  obtain ⟨e, w, he, hfault, hw, hle⟩ := decodeAt_of_above habove [] []
  obtain ⟨e', he', hraised⟩ := hraises leastUnshowable (leastUnshowable - 1) [] [] (by omega) (by omega)
  rw [he, Except.error.injEq, OffsetError.refused.injEq] at he'
  have hnumber : ¬isShowable w := not_isShowable_iff.2 (by omega)
  rw [← he', hfault, Payload.raised_arcAboveLimit, if_neg (mt And.left hnumber)] at hraised
  cases hraised

end BerOid.Base128
