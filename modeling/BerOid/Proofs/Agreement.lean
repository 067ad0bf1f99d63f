import BerOid.Proofs.Canonical
import BerOid.Reference

/-!
# Agreement with a second encoder

What is relied on in a second encoder of object identifiers is said of its bytes alone (`Reference.IsStandard`): it takes only arcs
that begin with a root, and for these it gives the tag, the minimal definite length, and the minimal subidentifiers of the merged
root and of the other arcs. Every such encoder gives the bytes of the frame, so a comparison with it finds no difference
(`agrees_with_reference`). The one that is written out with the comparison is such an encoder (`isStandard_encode?`).

A comparison adds nothing to what is noted when the frame is written, and that is at most the text that is rejected
(`Frame.write_of_error`).
-/

namespace BerOid

/-! ## What is noted -/

/-- What is noted of a value that is not admitted: a text that is rejected, and nothing else. -/
def InputError.rejected : InputError → List Diagnostic
  | unreadable e => [.rejectedText e]
  | _ => []

/-- What is noted of a value that has no encoding. -/
def EncodeError.rejected : EncodeError → List Diagnostic
  | input e => e.rejected
  | _ => []

namespace Oid

/-- An arc of a list is not refused as a text. -/
theorem rejected_of_arcOfValue {item : Value} {e : InputError} (h : arcOfValue item = .error e) : e.rejected = [] := by
  cases item with
  | integer n =>
    rw [arcOfValue] at h
    split at h
    · cases h
    · cases h
      rfl
  | _ =>
    cases h
    rfl

/-- Nothing is noted of a value that is admitted. -/
theorem readValue_of_ok {v : Value} {oid : Oid} (h : ofValue v = .ok oid) : readValue v = ⟨.ok oid, []⟩ := by
  cases v with
  | text s =>
    rw [ofValue, mapError_eq_ok_iff] at h
    rw [readValue, readText_of_ok h]
    rfl
  | _ => exact Noted.ext h rfl

/-- A value that is not admitted is noted if it is a text. -/
theorem readValue_of_error {v : Value} {e : InputError} (h : ofValue v = .error e) : readValue v = ⟨.error e, e.rejected⟩ := by
  cases v with
  | text s =>
    obtain ⟨e, he, rfl⟩ := mapError_eq_error_iff.1 h
    rw [readValue, readText_of_error he]
    rfl
  | list items =>
    obtain ⟨-, item, -, -, -, hitem⟩ := mapM_eq_error_iff.1 h
    exact Noted.ext h (rejected_of_arcOfValue hitem).symm
  | _ =>
    cases h
    rfl

end Oid

/-- Arcs are not refused as a text. -/
theorem Payload.rejected_of_encode {strict : Bool} {oid : Oid} {e : EncodeError} (h : encode strict oid = .error e) :
    e.rejected = [] := by
  unfold encode at h
  split at h
  · split at h
    · rename_i hroot
      cases h
      unfold rootFault? at hroot
      split at hroot <;> split at hroot <;> grind [EncodeError.rejected]
    · cases h
  · cases h
    rfl

namespace Frame

/-- The frame that is written is that of the value. -/
theorem write_outcome (strict : Bool) (v : Value) : (write strict v).outcome = ofValue strict v := by
  rw [write, Noted.andThen_outcome, Noted.mapError_outcome, Oid.readValue_outcome, ofValue, encodeWith, Payload.ofValue]
  cases Oid.ofValue v with
  | error e => rfl
  | ok oid =>
    simp only [Except.mapError, Except.bind]
    cases hpayload : Payload.encode strict oid with
    | error e => rfl
    | ok payload => cases hheader : encodeHeader oidTag payload.length <;> simp [hheader, bind, Except.bind] <;> rfl

/-- What is noted when a frame is written is what its refusal rejects, if there is one. -/
theorem write_notes (strict : Bool) (v : Value) :
    (write strict v).notes = match (write strict v).outcome with | .error e => e.rejected | .ok _ => [] := by
  cases hadmitted : Oid.ofValue v with
  | error e =>
    rw [write, Oid.readValue_of_error hadmitted]
    rfl
  | ok oid =>
    simp only [write, Oid.readValue_of_ok hadmitted, Noted.mapError, Except.mapError, Noted.andThen_ok]
    cases hpayload : Payload.encode strict oid with
    | error e => exact (Payload.rejected_of_encode hpayload).symm
    | ok payload =>
      simp only [bind, Except.bind]
      cases encodeHeader oidTag payload.length <;> rfl

/-- A value with a frame is written without a note. -/
theorem write_of_ok {strict : Bool} {v : Value} {data : List UInt8} (h : ofValue strict v = .ok data) :
    write strict v = ⟨.ok data, []⟩ := by
  have houtcome := (write_outcome strict v).trans h
  have hnotes := write_notes strict v
  rw [houtcome] at hnotes
  exact Noted.ext houtcome hnotes

/-- A value without a frame is noted if it is a text that is rejected. -/
theorem write_of_error {strict : Bool} {v : Value} {e : EncodeError} (h : ofValue strict v = .error e) :
    write strict v = ⟨.error e, e.rejected⟩ := by
  have houtcome := (write_outcome strict v).trans h
  have hnotes := write_notes strict v
  rw [houtcome] at hnotes
  exact Noted.ext houtcome hnotes

end Frame

end BerOid

namespace BerOid.Reference

/-! ## What a second encoder gives -/

/-- What is relied on in a second encoder. The length of a payload is counted by at most 126 octets; nothing is said of payloads
whose length needs more. -/
structure IsStandard (reference : Oid → Option (List UInt8)) : Prop where
  /-- What is encoded has two arcs that are a root. -/
  isRooted : ∀ {oid : Oid} {data : List UInt8}, reference oid = some data → oid.IsRooted
  /-- The encoding is the tag, the length in minimal form, and the payload in minimal subidentifiers. -/
  encodes : ∀ {first second : Nat} {rest : Oid} {groups : List (List UInt8)} {written : List UInt8}, Oid.IsRoot first second →
    List.Forall₂ Base128.IsMinimal groups ((40 * first + second) :: rest) → Length.IsMinimal written groups.flatten.length →
    groups.flatten.length < 256 ^ 126 → reference (first :: second :: rest) = some (0x06 :: (written ++ groups.flatten))

/-- The writer of lengths counts one octet more than is relied on here. -/
theorem lt_pow_succ {n : Nat} (h : n < 256 ^ 126) : n < 256 ^ 127 :=
  Nat.lt_trans h (Nat.pow_lt_pow_right (by decide) (Nat.lt_succ_self 126))

/-- Minimal subidentifiers of numbers are what the writer gives for them. -/
theorem forall₂_isMinimal_iff {groups : List (List UInt8)} {ns : List Nat} :
    List.Forall₂ Base128.IsMinimal groups ns ↔ groups = ns.map Base128.encode := by
  rw [← List.forall₂_eq_eq_eq, List.forall₂_map_right_iff]
  refine iff_of_eq (congrArg (fun R => List.Forall₂ R groups ns) ?_)
  funext g n
  exact propext (Base128.isMinimal_iff_encode.trans eq_comm)

/-- An encoder that can be relied on gives for arcs that begin with a root the tag, the length that is written and the payload. -/
theorem IsStandard.encodes_subidentifiers {reference : Oid → Option (List UInt8)} (h : IsStandard reference) {oid : Oid}
    (hrooted : oid.IsRooted) (hsize : oid.subidentifiers.flatten.length < 256 ^ 126) :
    ∃ written, Length.encode oid.subidentifiers.flatten.length = .ok written ∧
      reference oid = some (0x06 :: (written ++ oid.subidentifiers.flatten)) := by
  have hwritten := Length.encode_eq (lt_pow_succ hsize)
  have hminimal := (Length.isMinimal_iff_encode (lt_pow_succ hsize)).2 hwritten
  obtain ⟨first, second, rest, rfl, hroot⟩ := hrooted
  exact ⟨_, hwritten, h.encodes hroot (forall₂_isMinimal_iff.2 rfl) hminimal hsize⟩

/-- A value has an encoding by a second encoder exactly when the encoder gives one for the arcs of the value. -/
theorem ofValueWith_eq_ok_iff {reference : Oid → Option (List UInt8)} {v : Value} {data : List UInt8} :
    ofValueWith reference v = .ok data ↔ ∃ oid, Oid.ofValue v = .ok oid ∧ reference oid = some data := by
  rw [ofValueWith, writeWith, Noted.andThen_outcome, Noted.mapError_outcome, Oid.readValue_outcome]
  cases Oid.ofValue v with
  | error e => simp [Except.mapError, Except.bind]
  | ok oid => cases h : reference oid <;> simp [Except.mapError, Except.bind, h]

/-! ## The encoder written out -/

/-- The digits of a number other than zero, each changed, are what is written by going through them from the last one. -/
theorem map_digits {base : Nat} (hbase : 2 ≤ base) (f : Nat → UInt8) {written : Nat → List UInt8}
    (hwritten : ∀ n, written n = if n = 0 then [] else written (n / base) ++ [f (n % base)]) {n : Nat} (hn : n ≠ 0) :
    (digits base n).map f = written n := by
  induction n using Nat.strongRecOn with
  | ind n ih =>
    rw [digits, hwritten, if_neg hn]
    by_cases hlt : n < base
    · rw [dif_pos (.inl hlt), Nat.div_eq_of_lt hlt, Nat.mod_eq_of_lt hlt, hwritten, if_pos rfl]
      rfl
    · have hdiv : n / base ≠ 0 := by
        have := Nat.div_pos (Nat.le_of_not_lt hlt) (by omega)
        omega
      rw [dif_neg (by omega), List.map_append, ih (n / base) (Nat.div_lt_self (by omega) (by omega)) hdiv]
      rfl

/-- The subidentifiers are those of the writer. -/
theorem subidentifier_eq (n : Nat) : subidentifier n = Base128.encode n := by
  rw [subidentifier, Base128.encode]
  congr 1
  by_cases hn : n < 128
  · rw [digits, dif_pos (.inl hn), Nat.div_eq_of_lt hn, Base128.continued]
    rfl
  · -- all digits but the last continue, which are those of the number without its last digit
    have hcontinued : ∀ n, Base128.continued n =
        if n = 0 then [] else Base128.continued (n / 128) ++ [UInt8.ofNat (128 + n % 128)] := by
      intro n
      rw [Base128.continued, Nat.add_comm 128]
    rw [digits, dif_neg (by omega), List.dropLast_concat]
    exact map_digits (by decide) _ hcontinued (by omega)

/-- The lengths that at most 126 octets count are those of the writer. -/
theorem length?_eq {n : Nat} {written : List UInt8} (hsize : n < 256 ^ 126) (h : Length.encode n = .ok written) :
    length? n = some written := by
  rw [Length.encode_eq (lt_pow_succ hsize), Except.ok.injEq] at h
  rw [length?, ← h]
  by_cases hshort : n < 128
  · rw [if_pos hshort, if_pos hshort]
  · have hdigits : (digits 256 n).map UInt8.ofNat = Length.octets n :=
      map_digits (by decide) _ (fun n => by rw [Length.octets]) (by omega)
    have hlength : (digits 256 n).length = (Length.octets n).length := by rw [← hdigits, List.length_map]
    have hle : (Length.octets n).length ≤ 126 := Length.length_octets_le hsize
    simp only [if_neg hshort, hlength, hdigits, if_pos hle]

/-- The merged root is there exactly for roots. -/
theorem mergedRoot?_eq_some_iff {first second merged : Nat} :
    mergedRoot? first second = some merged ↔ Oid.IsRoot first second ∧ 40 * first + second = merged := by
  unfold mergedRoot? Oid.IsRoot
  split
  · split <;> simp_all
  · split <;> simp_all
  · simp
  · rename_i h0 h1 h2
    have hfirst : 2 < first := by
      have : first ≠ 0 := fun h => h0 h
      have : first ≠ 1 := fun h => h1 h
      have : first ≠ 2 := fun h => h2 h
      omega
    simp only [reduceCtorEq, false_iff]
    omega

/-- The encoder written out can be relied on. -/
theorem isStandard_encode? : IsStandard encode? where
  isRooted {oid data} h := by
    unfold encode? at h
    split at h
    · rename_i first second rest
      cases hmerged : mergedRoot? first second with
      | none => simp [hmerged] at h
      | some merged => exact ⟨first, second, rest, rfl, (mergedRoot?_eq_some_iff.1 hmerged).1⟩
    · cases h
  encodes {first second rest groups written} hroot hgroups hwritten hsize := by
    have hlength := length?_eq hsize ((Length.isMinimal_iff_encode (lt_pow_succ hsize)).1 hwritten)
    have hpayload : subidentifier (40 * first + second) ++ rest.flatMap subidentifier = groups.flatten := by
      rw [forall₂_isMinimal_iff.1 hgroups, funext subidentifier_eq, List.map_cons, List.flatten_cons, List.flatMap_def]
    have hmerged := mergedRoot?_eq_some_iff.2 ⟨hroot, rfl⟩
    simp only [encode?, hmerged, hpayload, hlength, Option.bind_eq_bind, Option.bind_some, List.cons_append, Option.pure_def]

/-! ## Agreement -/

/-- A second encoder gives the bytes of the frame, and nothing where there is none. -/
theorem ofValueWith_eq_ok_iff_frame {reference : Oid → Option (List UInt8)} (h : IsStandard reference) {v : Value}
    (hsize : ∀ payload, Payload.ofValue false v = .ok payload → payload.length < 256 ^ 126) {data : List UInt8} :
    ofValueWith reference v = .ok data ↔ Frame.ofValue false v = .ok data := by
  -- both give the same bytes for whatever has a payload
  have hpayload : ∀ {oid}, Oid.ofValue v = .ok oid → oid.IsRooted →
      ∃ data, reference oid = some data ∧ Frame.ofValue false v = .ok data := by
    intro oid hadmitted hrooted
    have hofValue : Payload.ofValue false v = .ok oid.subidentifiers.flatten :=
      Payload.ofValue_eq_ok_iff.2 ⟨oid, hadmitted, Payload.encode_eq_ok_iff.2 ⟨hrooted, nofun, rfl⟩⟩
    obtain ⟨written, hwritten, hreference⟩ := h.encodes_subidentifiers hrooted (hsize _ hofValue)
    exact ⟨_, hreference, Frame.ofValue_eq hofValue hwritten⟩
  rw [ofValueWith_eq_ok_iff]
  constructor
  · rintro ⟨oid, hadmitted, hreference⟩
    obtain ⟨data', hreference', hframe⟩ := hpayload hadmitted (h.isRooted hreference)
    rw [hreference, Option.some.injEq] at hreference'
    rw [hframe, hreference']
  · intro hframe
    obtain ⟨payload, hofValue⟩ := Frame.exists_payload_of_ofValue hframe
    obtain ⟨oid, hadmitted, hencode⟩ := Payload.ofValue_eq_ok_iff.1 hofValue
    obtain ⟨data', hreference, hframe'⟩ := hpayload hadmitted (Payload.encode_eq_ok_iff.1 hencode).1
    rw [hframe, Except.ok.injEq] at hframe'
    exact ⟨oid, hadmitted, by rw [hreference, hframe']⟩

/-- A value that has an encoding by a second encoder is encoded without a note. -/
theorem writeWith_of_ok {reference : Oid → Option (List UInt8)} {v : Value} {data : List UInt8}
    (h : ofValueWith reference v = .ok data) : writeWith reference v = ⟨.ok data, []⟩ := by
  obtain ⟨oid, hadmitted, hreference⟩ := ofValueWith_eq_ok_iff.1 h
  simp [writeWith, Oid.readValue_of_ok hadmitted, Noted.mapError, Except.mapError, hreference]

/-- A value without a frame is not compared, and only noted as when its frame is written. -/
theorem compareWith_of_error {reference : Oid → Option (List UInt8)} {strict : Bool} {v : Value} {e : EncodeError} (shown : String)
    (h : Frame.ofValue strict v = .error e) : compareWith reference strict shown v = ⟨.error (.ours e), e.rejected⟩ := by
  rw [compareWith, Frame.write_of_error h]
  rfl

/-- The frame of a value agrees with an encoder that can be relied on, and nothing is noted. -/
theorem compareWith_of_ok {reference : Oid → Option (List UInt8)} (h : IsStandard reference) {strict : Bool} {v : Value}
    {data : List UInt8} (hsize : ∀ payload, Payload.ofValue false v = .ok payload → payload.length < 256 ^ 126) (shown : String)
    (hframe : Frame.ofValue strict v = .ok data) : compareWith reference strict shown v = ⟨.ok true, []⟩ := by
  have htheirs := (ofValueWith_eq_ok_iff_frame h hsize).2 (Frame.ofValue_lenient hframe)
  rw [compareWith, Frame.write_of_ok hframe, writeWith_of_ok htheirs]
  simp [Noted.mapError, Except.mapError]

/-- A second encoder that can be relied on agrees with the writer of frames. A comparison with it gives the refusal of the frame
wherever there is none, and notes what is noted when the frame is written: the text, if that is what is rejected, and nothing else.
For payloads whose length at most 126 octets count, the second encoder encodes just the values that have frames, with the bytes of the
frame, so the comparison finds that the encodings agree wherever there is a frame, strict or not, notes nothing then, and never finds
or notes a difference. -/
theorem agrees_with_reference {reference : Oid → Option (List UInt8)} (h : IsStandard reference) (v : Value) :
    (∀ strict shown e, Frame.ofValue strict v = .error e →
      Frame.write strict v = ⟨.error e, e.rejected⟩ ∧
      compareWith reference strict shown v = ⟨.error (.ours e), e.rejected⟩) ∧
    ((∀ payload, Payload.ofValue false v = .ok payload → payload.length < 256 ^ 126) →
      (∀ data, ofValueWith reference v = .ok data ↔ Frame.ofValue false v = .ok data) ∧
      ∀ strict shown,
        (∀ data, Frame.ofValue strict v = .ok data → compareWith reference strict shown v = ⟨.ok true, []⟩) ∧
        (compareWith reference strict shown v).outcome ≠ .ok false) := by
  refine ⟨fun strict shown e he => ⟨Frame.write_of_error he, compareWith_of_error shown he⟩, fun hsize => ?_⟩
  refine ⟨fun data => ofValueWith_eq_ok_iff_frame h hsize, fun strict shown => ?_⟩
  refine ⟨fun data => compareWith_of_ok h hsize shown, ?_⟩
  cases hframe : Frame.ofValue strict v with
  | ok data =>
    rw [compareWith_of_ok h hsize shown hframe]
    simp
  | error e =>
    rw [compareWith_of_error shown hframe]
    simp

/-- A text under root 2 is encoded alike by both encoders; the comparison agrees, and strict encoding refuses the text. -/
theorem agrees_with_reference_jointRoot :
    ofValue (.text "2.999.3") = .ok [0x06, 3, 0x88, 0x37, 3] ∧ compare false none "2.999.3" (.text "2.999.3") = ⟨.ok true, []⟩ ∧
      compare true none "2.999.3" (.text "2.999.3") = ⟨.error (.ours (.outsideStrictRoot [2, 999, 3])), []⟩ := by
  have hpayload : Payload.ofValue false (.text "2.999.3") = .ok [0x88, 0x37, 3] := by cbv
  have hframe : Frame.ofValue false (.text "2.999.3") = .ok [0x06, 3, 0x88, 0x37, 3] := by cbv
  have hstrict : Frame.ofValue true (.text "2.999.3") = .error (.outsideStrictRoot [2, 999, 3]) := by cbv
  have hsize : ∀ payload, Payload.ofValue false (.text "2.999.3") = .ok payload → payload.length < 256 ^ 126 := by
    intro payload h
    rw [hpayload] at h
    cases h
    decide
  obtain ⟨hrefused, hagrees⟩ := agrees_with_reference isStandard_encode? (.text "2.999.3")
  obtain ⟨hbytes, hcompare⟩ := hagrees hsize
  exact ⟨(hbytes _).2 hframe, (hcompare false _).1 _ hframe, (hrefused true _ _ hstrict).2⟩

/-- Not every comparison without a frame is silent: a text that is no object identifier is noted. -/
theorem refusal_is_noted : ¬∀ strict shown v e, Frame.ofValue strict v = .error e →
    compareWith encode? strict shown v = ⟨.error (.ours e), []⟩ := by
  intro hsilent
  have hrefused : Frame.ofValue true (.text "x") = .error (.input (.unreadable ⟨"x", "x", .notDecimal⟩)) := by cbv
  have hcompare := hsilent true "x" _ _ hrefused
  rw [compareWith_of_error _ hrefused] at hcompare
  cases hcompare

end BerOid.Reference
