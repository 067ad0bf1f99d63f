import BerOid.Proofs.SelfDelimiting

/-!
# Subidentifiers that are cut off

Bytes begin with a complete subidentifier or all continue, and the reader tells the two apart: it reads the former and refuses the
latter, each unless the limit is passed before (`decode_eq_ok_iff`, `decode_eq_unfinished_iff`). In a buffer this finds every
subidentifier that is cut off, as long as the offset counts from the start. An offset that counts from the end reaches zero at the
end of the buffer, so the bytes from the start are read as if they stood behind the last one, and a subidentifier that is cut off is
reported only if the limit is passed before the end or nothing in the buffer ends it (`truncation_reported_iff`).
-/

namespace BerOid.Base128

/-! ## Complete or cut off -/

/-- Bytes that do not all continue begin with a complete subidentifier. -/
theorem isOpen_or_isComplete (bytes : List UInt8) : IsOpen bytes ∨ ∃ g rest, IsComplete g ∧ bytes = g ++ rest := by
  induction bytes with
  | nil => exact .inl isOpen_nil
  | cons b tail ih =>
    by_cases hb : b.toNat < 128
    · exact .inr ⟨[b], tail, isComplete_singleton hb, rfl⟩
    · rcases ih with hopen | ⟨g, rest, hg, rfl⟩
      · exact .inl (isOpen_cons.2 ⟨by omega, hopen⟩)
      · exact .inr ⟨b :: g, rest, hg.cons (by omega), rfl⟩

theorem isOpen_append {run more : List UInt8} : IsOpen (run ++ more) ↔ IsOpen run ∧ IsOpen more := List.forall_mem_append

/-- A complete subidentifier at the front of bytes that begin with a continuing run goes on behind the run. -/
theorem IsComplete.exists_append {g run more rest : List UInt8} (hg : IsComplete g) (hrun : IsOpen run)
    (h : run ++ more = g ++ rest) : ∃ g', IsComplete g' ∧ g = run ++ g' ∧ more = g' ++ rest := by
  induction run generalizing g with
  | nil => exact ⟨g, hg, rfl, h⟩
  | cons b run ih =>
    obtain ⟨hb, hrun⟩ := isOpen_cons.1 hrun
    obtain ⟨init, last, rfl, hinit, hlast⟩ := hg
    cases init with
    | nil =>
      obtain ⟨rfl, -⟩ := List.cons.inj h
      omega
    | cons c init =>
      obtain ⟨rfl, htail⟩ := List.cons.inj h
      obtain ⟨g', hg', hinit', hmore⟩ := ih ⟨init, last, rfl, (isOpen_cons.1 hinit).2, hlast⟩ hrun htail
      exact ⟨g', hg', congrArg (b :: ·) hinit', hmore⟩

/-- A complete subidentifier behind a continuing run makes a complete subidentifier. -/
theorem IsComplete.append {run g : List UInt8} (hrun : IsOpen run) (hg : IsComplete g) : IsComplete (run ++ g) := by
  induction run with
  | nil => exact hg
  | cons b run ih =>
    obtain ⟨hb, hrun⟩ := isOpen_cons.1 hrun
    exact (ih hrun).cons hb

/-- A run above the limit is refused for its value, whatever follows. -/
theorem exists_decode_eq_aboveLimit {limit : Option Int} {run : List UInt8} (hrun : IsOpen run) (hne : run ≠ [])
    (h : ¬Allows limit (value run)) (rest : List UInt8) : ∃ v l, decode limit (run ++ rest) = .error (.aboveLimit v l) := by
  obtain ⟨l, rfl, habove⟩ := not_allows_iff.1 h
  obtain ⟨v, hrefused⟩ := decodeFrom_open_append_of_above hrun hne habove rest
  exact ⟨v, l, hrefused⟩

/-- Bytes are refused for their end exactly when they all continue and their value is allowed. -/
theorem decode_eq_unfinished_iff {limit : Option Int} {bytes : List UInt8} (hne : bytes ≠ []) :
    decode limit bytes = .error .unfinished ↔ IsOpen bytes ∧ Allows limit (value bytes) := by
  constructor
  · intro h
    rcases isOpen_or_isComplete bytes with hopen | ⟨g, rest, hg, rfl⟩
    · refine ⟨hopen, ?_⟩
      by_contra hnot
      obtain ⟨v, l, hrefused⟩ := exists_decode_eq_aboveLimit hopen hne hnot []
      rw [List.append_nil, h] at hrefused
      cases hrefused
    · by_cases hallows : Allows limit (value g)
      · rw [decode_complete hg hallows] at h
        cases h
      · obtain ⟨l, rfl, habove⟩ := not_allows_iff.1 hallows
        obtain ⟨v, hrefused⟩ := decode_complete_of_above hg habove rest
        rw [hrefused] at h
        cases h
  · rintro ⟨hopen, hallows⟩
    have hread := decodeFrom_open_append hopen hallows []
    rwa [List.append_nil] at hread

/-! ## Offsets of bytes -/

/-- The offset is that of a byte of the buffer, counted from its start or, if it is negative, from its end. -/
structure IsIndexOf (data : List UInt8) (offset : Int) : Prop where
  isAddress : leastAddress ≤ offset
  notBefore : -(data.length : Int) ≤ offset
  notBehind : offset < data.length

/-- The bytes of a buffer from an offset to its end. -/
def bytesFrom (data : List UInt8) (offset : Int) : List UInt8 :=
  data.drop (if 0 ≤ offset then offset.toNat else data.length - offset.natAbs)

/-- Behind the bytes up to the end of the buffer, those from its start are read if the offset is negative, and else none. -/
theorem bytesAt_eq (data : List UInt8) (offset : Int) :
    bytesAt data offset = bytesFrom data offset ++ if 0 ≤ offset then [] else data := by
  unfold bytesAt bytesFrom
  split <;> simp

variable {limit : Option Int} {data : List UInt8} {offset : Int}

/-- From the offset of a byte there are as many bytes as up to the end, at least one. -/
theorem IsIndexOf.length_bytesFrom (h : IsIndexOf data offset) :
    (bytesFrom data offset).length = (if 0 ≤ offset then data.length - offset else -offset) := by
  have hlow := h.notBefore
  have hhigh := h.notBehind
  unfold bytesFrom
  rw [List.length_drop]
  split <;> omega

theorem IsIndexOf.bytesFrom_ne_nil (h : IsIndexOf data offset) : bytesFrom data offset ≠ [] := by
  have hlength := h.length_bytesFrom
  have hhigh := h.notBehind
  intro hnil
  rw [hnil] at hlength
  split at hlength <;> simp at hlength <;> omega

/-- At the offset of a byte a refusal is that of the bytes to be read. -/
theorem IsIndexOf.decodeAt_eq_refused_iff (h : IsIndexOf data offset) {e : DecodeError} :
    decodeAt limit data offset = .error (.refused e) ↔
      ∃ fault, decode limit (bytesAt data offset) = .error fault ∧ fault.inBuffer offset data.length = e := by
  rw [decodeAt_eq limit h.isAddress h.notBefore, mapError_eq_error_iff]
  simp only [map_eq_error_iff, OffsetError.refused.injEq]

/-- At the offset of a byte a complete subidentifier of an allowed value is read, up to its end. -/
theorem IsIndexOf.decodeAt_eq_ok_iff (h : IsIndexOf data offset) {v : Nat} {next : Int} :
    decodeAt limit data offset = .ok (v, next) ↔
      ∃ g rest, IsComplete g ∧ bytesAt data offset = g ++ rest ∧ value g = v ∧ Allows limit v ∧ offset + g.length = next := by
  rw [decodeAt_eq limit h.isAddress h.notBefore, mapError_eq_ok_iff, map_eq_ok_iff]
  constructor
  · rintro ⟨⟨v', rest⟩, hread, heq⟩
    cases heq
    obtain ⟨g, hg, hbytes, hvalue, hallows⟩ := decode_eq_ok_iff.1 hread
    exact ⟨g, rest, hg, hbytes, hvalue, hallows, by simp [hbytes]⟩
  · rintro ⟨g, rest, hg, hbytes, hvalue, hallows, rfl⟩
    exact ⟨(v, rest), decode_eq_ok_iff.2 ⟨g, hg, hbytes, hvalue, hallows⟩, by simp [hbytes]⟩

/-! ## Values -/

/-- At an offset that counts from the start, nothing is read behind a run that continues to the end, so it has no value. -/
theorem IsIndexOf.decodeAt_ne_ok_of_nonneg (hindex : IsIndexOf data offset) (hopen : IsOpen (bytesFrom data offset))
    (hoffset : 0 ≤ offset) (r : Nat × Int) : decodeAt limit data offset ≠ .ok r := by
  intro hread
  obtain ⟨g, rest, hg, happend, -⟩ := hindex.decodeAt_eq_ok_iff.1 hread
  rw [bytesAt_eq, if_pos hoffset] at happend
  obtain ⟨g', hg', -, hnil⟩ := hg.exists_append hopen happend
  exact hg'.ne_nil (List.append_eq_nil_iff.1 hnil.symm).1

/-- At an offset that counts from the end, such a run is completed by the subidentifier at the start of the buffer. -/
theorem IsIndexOf.decodeAt_eq_ok_iff_of_neg (hindex : IsIndexOf data offset) (hopen : IsOpen (bytesFrom data offset))
    (hoffset : offset < 0) {v : Nat} {next : Int} :
    decodeAt limit data offset = .ok (v, next) ↔ ∃ g rest, IsComplete g ∧ data = g ++ rest ∧
      value (bytesFrom data offset ++ g) = v ∧ Allows limit v ∧ (g.length : Int) = next := by
  have hlength : ((bytesFrom data offset).length : Int) = -offset := by
    rw [hindex.length_bytesFrom, if_neg (by omega)]
  rw [hindex.decodeAt_eq_ok_iff, bytesAt_eq, if_neg (by omega)]
  constructor
  · rintro ⟨g, rest, hg, happend, rfl, hallows, rfl⟩
    obtain ⟨g', hg', rfl, hdata⟩ := hg.exists_append hopen happend
    refine ⟨g', rest, hg', hdata, rfl, hallows, ?_⟩
    rw [List.length_append]
    omega
  · rintro ⟨g, rest, hg, hdata, hvalue, hallows, rfl⟩
    refine ⟨bytesFrom data offset ++ g, rest, hg.append hopen, ?_, hvalue, hallows, ?_⟩
    · rw [List.append_assoc, ← hdata]
    · rw [List.length_append]
      omega

/-! ## Reports -/

/-- The subidentifier at the offset is refused as its bytes up to the end of the buffer call for: as malformed if the limit allows
their value, and else as out of range. -/
def IsReported (limit : Option Int) (data : List UInt8) (offset : Int) : Prop :=
  ∃ e, decodeAt limit data offset = .error (.refused e) ∧
    (Allows limit (value (bytesFrom data offset)) ∧ e.fault.kind = .malformed ∨
      ¬Allows limit (value (bytesFrom data offset)) ∧ e.fault.kind = .outOfRange)

/-- Bytes that are malformed are refused for their end. -/
theorem eq_unfinished_of_kind {fault : Fault} {size : Nat} (h : (fault.inBuffer offset size).fault.kind = .malformed) :
    fault = .unfinished := by
  cases fault with
  | unfinished => rfl
  | aboveLimit v l => cases h

/-- A run that is refused for its value is reported wherever it stands. -/
theorem isReported_of_not_allows (hindex : IsIndexOf data offset) (hopen : IsOpen (bytesFrom data offset))
    (h : ¬Allows limit (value (bytesFrom data offset))) : IsReported limit data offset := by
  obtain ⟨v, l, hrefused⟩ := exists_decode_eq_aboveLimit hopen hindex.bytesFrom_ne_nil h (if 0 ≤ offset then [] else data)
  rw [← bytesAt_eq] at hrefused
  exact ⟨_, hindex.decodeAt_eq_refused_iff.2 ⟨_, hrefused, rfl⟩, .inr ⟨h, rfl⟩⟩

/-- An allowed run is reported exactly when all bytes that are read behind it continue as well, and their value is allowed. -/
theorem isReported_iff_of_allows (hindex : IsIndexOf data offset) (h : Allows limit (value (bytesFrom data offset))) :
    IsReported limit data offset ↔ IsOpen (bytesAt data offset) ∧ Allows limit (value (bytesAt data offset)) := by
  have hne : bytesAt data offset ≠ [] := by
    rw [bytesAt_eq]
    exact List.append_ne_nil_of_left_ne_nil hindex.bytesFrom_ne_nil _
  rw [← decode_eq_unfinished_iff hne]
  constructor
  · rintro ⟨e, hread, hkind⟩
    obtain ⟨fault, hfault, rfl⟩ := hindex.decodeAt_eq_refused_iff.1 hread
    rcases hkind with ⟨-, hkind⟩ | ⟨hnot, -⟩
    · rw [hfault, eq_unfinished_of_kind hkind]
    · exact absurd h hnot
  · intro hread
    exact ⟨_, hindex.decodeAt_eq_refused_iff.2 ⟨_, hread, rfl⟩, .inl ⟨h, rfl⟩⟩

/-- When a subidentifier that a buffer ends within is reported. At an offset that counts from the start it always is: as malformed,
or as out of range if the limit does not allow the value of its bytes. At an offset that counts from the end it is reported if the
limit is passed before the end of the buffer, or if all the buffer continues and the limit allows the value of its bytes behind those.
A value is given exactly when, at such an offset, the subidentifier is completed within the limit by the bytes from the start of the
buffer, and the next offset is the one behind these. -/
theorem truncation_reported_iff (limit : Option Int) {data : List UInt8} {offset : Int} (hindex : IsIndexOf data offset)
    (hopen : IsOpen (bytesFrom data offset)) :
    (IsReported limit data offset ↔ 0 ≤ offset ∨ ¬Allows limit (value (bytesFrom data offset)) ∨
      IsOpen data ∧ Allows limit (value (bytesFrom data offset ++ data))) ∧
    ∀ v next, decodeAt limit data offset = .ok (v, next) ↔ offset < 0 ∧ ∃ g rest, IsComplete g ∧ data = g ++ rest ∧
      value (bytesFrom data offset ++ g) = v ∧ Allows limit v ∧ (g.length : Int) = next := by
  have hbytes := bytesAt_eq data offset
  refine ⟨?_, fun v next => ?_⟩
  · by_cases hallows : Allows limit (value (bytesFrom data offset))
    · rw [isReported_iff_of_allows hindex hallows, hbytes]
      by_cases hoffset : 0 ≤ offset
      · simp [hoffset, hopen, hallows]
      · simp [hoffset, hallows, isOpen_append, hopen]
    · exact iff_of_true (isReported_of_not_allows hindex hopen hallows) (.inr (.inl hallows))
  · by_cases hoffset : 0 ≤ offset
    · exact iff_of_false (hindex.decodeAt_ne_ok_of_nonneg hopen hoffset _) fun h => absurd h.1 (by omega)
    · have hnegative : offset < 0 := by omega
      rw [hindex.decodeAt_eq_ok_iff_of_neg hopen hnegative]
      exact (and_iff_right hnegative).symm

/-- The subidentifier that the last of two bytes begins is reported there without a limit, when the offset counts from the start. -/
theorem truncation_reported_iff_lastByte :
    IsIndexOf [5, 0x81] 1 ∧ IsOpen (bytesFrom [5, 0x81] 1) ∧ IsReported none [5, 0x81] 1 ∧
      ¬decodeAt none [5, 0x81] 1 = .ok (133, 1) := by
  have hindex : IsIndexOf [5, 0x81] 1 := ⟨by decide, by decide, by decide⟩
  have hopen : IsOpen (bytesFrom [5, 0x81] 1) := by simp [bytesFrom, IsOpen]
  obtain ⟨hreported, hread⟩ := truncation_reported_iff none hindex hopen
  refine ⟨hindex, hopen, hreported.2 (.inl (by decide)), fun h => ?_⟩
  exact absurd ((hread 133 1).1 h).1 (by decide)

/-- The same byte by its offset from the end is no less cut off, but it is read together with the first one. -/
theorem truncation_read_on :
    IsIndexOf [5, 0x81] (-1) ∧ IsOpen (bytesFrom [5, 0x81] (-1)) ∧ decodeAt none [5, 0x81] (-1) = .ok (133, 1) ∧
      ¬IsReported none [5, 0x81] (-1) := by
  have hread : decodeAt none [5, 0x81] (-1) = .ok (133, 1) := by decide
  refine ⟨⟨by decide, by decide, by decide⟩, by simp [bytesFrom, IsOpen], hread, ?_⟩
  rintro ⟨e, he, -⟩
  rw [hread] at he
  cases he

end BerOid.Base128
