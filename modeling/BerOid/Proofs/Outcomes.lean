import BerOid.CommandLine.Run
import BerOid.Proofs.Agreement
import BerOid.Proofs.DottedText
import BerOid.Proofs.Options
import BerOid.Proofs.Overflow
import BerOid.Proofs.Refusals
import BerOid.Settings.Loading

/-!
# How a run ends

`Command.Result` says, from the library alone, which exit code a command is to end with and which lines it is to print. Each command
is taken by itself (`parseTexts_spec`, `encodeText_spec`, `decodeText_spec`): the lines that are printed are its results, and beside
them only a log file that is the standard output writes there. Under settings that are valid, once logging is set up, a run ends as
the library says (`ends_as_library_says`), and whether an encoding is verified makes no difference to it.
-/

namespace BerOid.CommandLine

/-! ## What is written -/

/-- The text of lines. -/
def linesText (lines : List String) : String := String.join (lines.map (· ++ "\n"))

end CommandLine

namespace Logging

/-- No handler's lines reach the standard output. -/
def Loggers.IsOffOutput (l : Loggers) : Prop := ∀ h ∈ l.handlers, h.isOnOutput = false

/-- A handler that is not on the standard output writes nothing there. -/
theorem Handler.output_write {h : Handler} (hoff : h.isOnOutput = false) (time : String) (r : Record) (e : Emission) :
    (h.write time r e).output = e.output := by
  cases h with
  | console => rfl
  | file level log =>
    have hdevice : log.device ≠ some .output := by simpa [isOnOutput] using hoff
    rw [write]
    split
    · rfl
    · contradiction
    · rfl
    · rfl

/-- With all handlers off the standard output a record writes nothing there. -/
theorem Loggers.output_emit {l : Loggers} (h : l.IsOffOutput) (time : String) (r : Record) (t : FileTree) :
    (l.emit time r t).output = "" := by
  have hfold : ∀ (handlers : List Handler) (e : Emission), (∀ h ∈ handlers, h.isOnOutput = false) →
      (handlers.foldl (fun e h => if r.level < h.level then e else h.write time r e) e).output = e.output := by
    intro handlers
    induction handlers with
    | nil => exact fun _ _ => rfl
    | cons h handlers ih =>
      intro e hoff
      obtain ⟨hfirst, hothers⟩ := List.forall_mem_cons.1 hoff
      rw [List.foldl_cons, ih _ hothers]
      split
      · rfl
      · exact h.output_write hfirst time r e
  unfold emit
  dsimp only
  split
  · rfl
  · split
    · split <;> rfl
    · exact hfold _ _ h

end Logging

namespace CommandLine

namespace Session

variable {s t u : Session} {lines more : List String}

/-- Between two sessions these lines were printed and no others. Nothing else was written to the standard output, unless the log is
written there; and what stands on the standard error is kept, with more behind it. -/
structure Prints (s : Session) (lines : List String) (t : Session) : Prop where
  loggers_eq : t.loggers = s.loggers
  stdout_eq : ∃ written, t.stdout = s.stdout ++ written ∧ written.filterMap Output.line? = lines ∧
    (s.loggers.IsOffOutput → written = lines.map .line)
  stderr_eq : ∃ written, t.stderr = s.stderr ++ written

/-- The lines that were printed stand behind those printed before. -/
theorem Prints.printed_eq (h : s.Prints lines t) : t.printed = s.printed ++ lines := by
  obtain ⟨written, hwritten, hlines, -⟩ := h.stdout_eq
  rw [printed, hwritten, List.filterMap_append, hlines, printed]

/-- If the log is not written to the standard output, the lines that were printed are all that was written there. -/
theorem Prints.outputText_eq (h : s.Prints lines t) (hoff : s.loggers.IsOffOutput) :
    t.outputText = s.outputText ++ linesText lines := by
  obtain ⟨written, hwritten, -, honly⟩ := h.stdout_eq
  have hlines : String.join (written.map Output.text) = linesText lines := by
    rw [honly hoff, List.map_map]
    rfl
  rw [outputText, hwritten, List.map_append, String.join_append, hlines, outputText]

/-- A session that stays as it is prints nothing. -/
theorem prints_refl (s : Session) : s.Prints [] s := ⟨rfl, ⟨[], by simp, rfl, fun _ => rfl⟩, "", by simp⟩

/-- What is printed after other lines stands behind them. -/
theorem Prints.trans (h : s.Prints lines t) (h' : t.Prints more u) : s.Prints (lines ++ more) u := by
  obtain ⟨hloggers, ⟨written, hstdout, hlines, honly⟩, errors, hstderr⟩ := h
  obtain ⟨hloggers', ⟨written', hstdout', hmore, honly'⟩, errors', hstderr'⟩ := h'
  refine ⟨hloggers'.trans hloggers, ⟨written ++ written', ?_, ?_, fun hoff => ?_⟩, errors ++ errors', ?_⟩
  · rw [hstdout', hstdout, List.append_assoc]
  · rw [List.filterMap_append, hlines, hmore]
  · rw [honly hoff, honly' (hloggers ▸ hoff), List.map_append]
  · rw [hstderr', hstderr, String.append_assoc]

/-- A line is printed as it is. -/
theorem prints_print (s : Session) (line : String) : s.Prints [line] (s.print line) :=
  ⟨rfl, ⟨[.line line], rfl, rfl, fun _ => rfl⟩, "", by simp [print]⟩

/-- A record prints nothing. -/
theorem prints_log (s : Session) (r : Logging.Record) : s.Prints [] (s.log r) := by
  refine ⟨rfl, ?_, _, rfl⟩
  by_cases hempty : (s.loggers.emit s.time r s.files).output.isEmpty = true
  · exact ⟨[], by simp [log, hempty], rfl, fun _ => rfl⟩
  · refine ⟨[.logged (s.loggers.emit s.time r s.files).output], by simp [log, hempty], rfl, fun hoff => ?_⟩
    rw [Logging.Loggers.output_emit hoff] at hempty
    exact absurd rfl hempty

/-- Notes print nothing. -/
theorem prints_note (s : Session) (notes : List Diagnostic) : s.Prints [] (s.note notes) := by
  unfold note
  induction notes generalizing s with
  | nil => exact s.prints_refl
  | cons d notes ih => exact (s.prints_log _).trans (ih _)

/-- A note of the tool prints nothing. -/
theorem prints_inform (s : Session) (message : String) : s.Prints [] (s.inform message) := s.prints_log _

/-- An error line prints nothing. -/
theorem prints_complain (s : Session) (message : String) : s.Prints [] (s.complain message) :=
  ⟨rfl, ⟨[], by simp [complain], rfl, fun _ => rfl⟩, _, by simp only [complain, String.append_assoc]; rfl⟩

/-- The last that was written to the standard error since a session is an error line. -/
def HasComplained (s t : Session) : Prop := ∃ written message, t.stderr = s.stderr ++ written ++ "Error: " ++ message ++ "\n"

/-- A complaint since a session is one since every session in which as much was written to the standard error. -/
theorem HasComplained.congr (h : s.HasComplained u) (hstderr : t.stderr = s.stderr) : t.HasComplained u := by
  obtain ⟨written, message, hwritten⟩ := h
  exact ⟨written, message, by rw [hwritten, hstderr]⟩

/-- A refusal prints nothing. -/
theorem prints_refuse (s : Session) (commandName message : String) : s.Prints [] (s.refuse commandName message) :=
  (s.prints_log _).trans (prints_complain _ message)

/-- A refusal is an error line, whatever was logged before it. -/
theorem Prints.hasComplained_refuse (h : s.Prints lines t) (commandName message : String) :
    s.HasComplained (t.refuse commandName message) := by
  obtain ⟨written, hstderr⟩ := (h.trans (t.prints_log _)).stderr_eq
  exact ⟨written, message, by rw [refuse, complain, hstderr]⟩

end Session

/-! ## What the library says -/

/-- The bytes that the library gives for the text of an identifier. -/
def encodedText (payloadOnly strict : Bool) (text : String) : Except EncodeError (List UInt8) :=
  if payloadOnly then Payload.ofValue strict (.text text) else Frame.ofValue strict (.text text)

/-- The identifier that the library gives for bytes. -/
def decodedBytes (limit : Int) (payloadOnly : Bool) (data : List UInt8) : Except DecodeError Oid :=
  if payloadOnly then Payload.decode limit data else (Frame.decode limit data).outcome

/-- The identifiers of the texts in front of the first text that is none, and the texts from that one on. -/
structure IsFront (texts : List String) (oids : List Oid) (rest : List String) : Prop where
  reads : ∃ front, texts = front ++ rest ∧ List.Forall₂ (fun text oid => Oid.parse text = .ok oid) front oids
  stops : ∀ text, rest.head? = some text → ∃ e, Oid.parse text = .error e

/-- The canonical form of an identifier, with or without a dot in front. -/
def canonicalText (leadingDot : Bool) (oid : Oid) : String :=
  match leadingDot with
  | true => leadingDotText oid.toInts
  | false => dottedText oid.toInts

/-- The identifiers are shown in their canonical form. -/
theorem rendered_eq (leadingDot : Bool) (oid : Oid) : rendered leadingDot oid = canonicalText leadingDot oid := by
  cases leadingDot <;> rfl

/-- The exit code of a command and the lines it prints, as the library has it under a root rule and a limit that are configured. The
root rule is strict if it is configured so and the command does not lift it. -/
inductive Command.Result (strictRoot : Prop) (limit : Int) : Command → Nat → List String → Prop where
  | parsed {texts : List String} {oids : List Oid} (leadingDot : Bool) (h : IsFront texts oids []) :
      Result strictRoot limit (.parse texts leadingDot) 0 (oids.map (canonicalText leadingDot))
  | stopped {texts : List String} {oids : List Oid} {text : String} {rest : List String} (leadingDot : Bool)
      (h : IsFront texts oids (text :: rest)) :
      Result strictRoot limit (.parse texts leadingDot) 1 (oids.map (canonicalText leadingDot))
  | encoded {text : String} {payloadOnly strict strict' : Bool} {bytes : List UInt8} (verify : Bool)
      (hstrict : strict' = true ↔ strictRoot ∧ strict = true) (h : encodedText payloadOnly strict' text = .ok bytes) :
      Result strictRoot limit (.encode text payloadOnly strict verify) 0 [Text.spacedHex bytes]
  | notEncoded {text : String} {payloadOnly strict strict' : Bool} {e : EncodeError} (verify : Bool)
      (hstrict : strict' = true ↔ strictRoot ∧ strict = true) (h : encodedText payloadOnly strict' text = .error e) :
      Result strictRoot limit (.encode text payloadOnly strict verify) 1 []
  | decoded {text : String} {payloadOnly : Bool} {data : List UInt8} {oid : Oid} (leadingDot : Bool)
      (hread : Text.readHex? text = some data) (h : decodedBytes limit payloadOnly data = .ok oid) :
      Result strictRoot limit (.decode text payloadOnly leadingDot) 0 [canonicalText leadingDot oid]
  | notDecoded {text : String} {payloadOnly : Bool} {data : List UInt8} {e : DecodeError} (leadingDot : Bool)
      (hread : Text.readHex? text = some data) (h : decodedBytes limit payloadOnly data = .error e) :
      Result strictRoot limit (.decode text payloadOnly leadingDot) 1 []
  | notHex {text : String} (payloadOnly leadingDot : Bool) (hread : Text.readHex? text = none) :
      Result strictRoot limit (.decode text payloadOnly leadingDot) 1 []

/-- The exit code is zero or one. -/
theorem Command.Result.code_eq {strictRoot : Prop} {limit : Int} {c : Command} {code : Nat} {lines : List String}
    (h : c.Result strictRoot limit code lines) : code = 0 ∨ code = 1 := by
  cases h <;> simp

/-- Texts have a front. -/
theorem exists_isFront (texts : List String) : ∃ oids rest, IsFront texts oids rest := by
  induction texts with
  | nil => exact ⟨[], [], ⟨[], rfl, .nil⟩, nofun⟩
  | cons text texts ih =>
    cases hparse : Oid.parse text with
    | error e =>
      refine ⟨[], text :: texts, ⟨[], rfl, .nil⟩, ?_⟩
      rintro _ ⟨rfl⟩
      exact ⟨e, hparse⟩
    | ok oid =>
      obtain ⟨oids, rest, ⟨front, rfl, hfront⟩, hstops⟩ := ih
      exact ⟨oid :: oids, rest, ⟨text :: front, rfl, .cons hparse hfront⟩, hstops⟩

/-- The library has a result for every command. -/
theorem Command.exists_result (strictRoot : Prop) (limit : Int) (c : Command) :
    ∃ code lines, c.Result strictRoot limit code lines := by
  cases c with
  | parse texts leadingDot =>
    obtain ⟨oids, rest, hfront⟩ := exists_isFront texts
    cases rest with
    | nil => exact ⟨_, _, .parsed leadingDot hfront⟩
    | cons text rest => exact ⟨_, _, .stopped leadingDot hfront⟩
  | encode text payloadOnly strict verify =>
    obtain ⟨strict', hstrict⟩ : ∃ strict' : Bool, strict' = true ↔ strictRoot ∧ strict = true := by
      classical exact ⟨decide (strictRoot ∧ strict = true), decide_eq_true_iff⟩
    cases h : encodedText payloadOnly strict' text with
    | ok bytes => exact ⟨_, _, .encoded verify hstrict h⟩
    | error e => exact ⟨_, _, .notEncoded verify hstrict h⟩
  | decode text payloadOnly leadingDot =>
    cases hread : Text.readHex? text with
    | none => exact ⟨_, _, .notHex payloadOnly leadingDot hread⟩
    | some data =>
      cases h : decodedBytes limit payloadOnly data with
      | ok oid => exact ⟨_, _, .decoded leadingDot hread h⟩
      | error e => exact ⟨_, _, .notDecoded leadingDot hread h⟩

/-- What a command did in a session: it printed lines, and it was done or refused, as the exit code says. -/
inductive CarriedOut (s : Session) : Nat → List String → Outcome × Session → Prop where
  | done {lines : List String} {t : Session} (h : s.Prints lines t) : CarriedOut s 0 lines (.done 0, t)
  | refused {lines : List String} {t : Session} (message : String) (h : s.Prints lines t) :
      CarriedOut s 1 lines (.refused message, t)

/-- What a command does after lines were printed stands behind them. -/
theorem CarriedOut.behind {s t : Session} {code : Nat} {lines before : List String} {r : Outcome × Session}
    (h : CarriedOut t code lines r) (hbefore : s.Prints before t) : CarriedOut s code (before ++ lines) r := by
  cases h with
  | done h => exact .done (hbefore.trans h)
  | refused message h => exact .refused message (hbefore.trans h)

/-! ## Texts -/

/-- Texts are printed up to the first that is none. -/
theorem parseTexts_spec (leadingDot : Bool) {texts : List String} {oids : List Oid} {rest : List String} (h : IsFront texts oids rest)
    (s : Session) :
    CarriedOut s (if rest = [] then 0 else 1) (oids.map (canonicalText leadingDot)) (parseTexts leadingDot texts s) := by
  obtain ⟨⟨front, rfl, hfront⟩, hstops⟩ := h
  -- over the texts in front; each is printed before the others are looked at
  induction hfront generalizing s with
  | nil =>
    cases rest with
    | nil => exact .done s.prints_refl
    | cons text rest =>
      obtain ⟨e, he⟩ := hstops text rfl
      rw [List.nil_append, parseTexts, Oid.readText_of_error he]
      exact .refused _ (s.prints_note _)
  | @cons text oid front oids hparse _ ih =>
    rw [List.cons_append, parseTexts, Oid.readText_of_ok hparse, List.map_cons, ← rendered_eq]
    exact (ih _).behind (s.prints_print (rendered leadingDot oid))

/-! ## Encodings -/

/-- A text that is read has no arc above the greatest one. -/
theorem le_maxArc_of_parse {text : String} {oid : Oid} (h : Oid.parse text = .ok oid) : ∀ arc ∈ oid, arc ≤ Oid.maxArc := by
  obtain ⟨hall, rfl⟩ := Oid.parse_eq_ok_iff.1 h
  intro arc harc
  obtain ⟨token, htoken, rfl⟩ := List.mem_map.1 harc
  exact (hall token htoken).le

/-- A text that is read has arcs that can be handed on as numbers. -/
theorem ofValue_toInts_of_parse {text : String} {oid : Oid} (h : Oid.parse text = .ok oid) :
    Oid.ofValue (.list (oid.toInts.map .integer)) = .ok oid := Oid.ofValue_integers.2 ⟨rfl, le_maxArc_of_parse h⟩

/-- The payload of a text that is read is that of its arcs. -/
theorem payload_of_parse {text : String} {oid : Oid} (strict : Bool) (h : Oid.parse text = .ok oid) :
    Payload.ofValue strict (.text text) = Payload.encode strict oid := by
  simp [Payload.ofValue, Oid.ofValue, h, Except.mapError]

/-- The frame of a text that is read is that of its arcs. -/
theorem frame_of_parse {text : String} {oid : Oid} (strict : Bool) (h : Oid.parse text = .ok oid) :
    Frame.ofValue strict (.text text) = Frame.encode strict oid := by
  refine Frame.ofValue_congr ?_
  rw [payload_of_parse strict h, Payload.ofValue, ofValue_toInts_of_parse h]

/-- What a command encodes for the arcs of a text is what the library gives for the text. -/
theorem encodedText_of_parse {text : String} {oid : Oid} (payloadOnly strict : Bool) (h : Oid.parse text = .ok oid) :
    (if payloadOnly then Payload.encode strict oid else Frame.encode strict oid) = encodedText payloadOnly strict text := by
  rw [encodedText, payload_of_parse strict h, frame_of_parse strict h]

/-- The payload of the text that a command is to encode has a length that at most 126 octets count. -/
def Command.FitsHeader : Command → Prop
  | .encode text _ _ _ => ∀ payload, Payload.ofValue false (.text text) = .ok payload → payload.length < 256 ^ 126
  | .parse .. | .decode .. => True

section Encoding

variable {text : String} (hsize : ∀ payload, Payload.ofValue false (.text text) = .ok payload → payload.length < 256 ^ 126)

include hsize

/-- The frame of a text that fits a header is there wherever there is a payload, and refused for the reason of the payload. -/
theorem frame_of_payload (strict : Bool) :
    (∃ payload data, Payload.ofValue strict (.text text) = .ok payload ∧ Frame.ofValue strict (.text text) = .ok data) ∨
      ∃ e, Payload.ofValue strict (.text text) = .error e ∧ Frame.ofValue strict (.text text) = .error e := by
  cases h : Payload.ofValue strict (.text text) with
  | error e => exact .inr ⟨e, rfl, by simp [Frame.ofValue, Frame.encodeWith, h]⟩
  | ok payload =>
    have hlength := Length.encode_eq (Reference.lt_pow_succ (hsize payload (Payload.ofValue_lenient h)))
    exact .inl ⟨payload, _, rfl, Frame.ofValue_eq h hlength⟩

/-- What is encoded of a text that fits a header has a frame. -/
theorem exists_frame_of_encodedText {payloadOnly strict : Bool} {bytes : List UInt8}
    (h : encodedText payloadOnly strict text = .ok bytes) : ∃ data, Frame.ofValue strict (.text text) = .ok data := by
  unfold encodedText at h
  rcases frame_of_payload hsize strict with ⟨_, data, -, hframe⟩ | ⟨e, hpayload, hframe⟩
  · exact ⟨data, hframe⟩
  · simp [hpayload, hframe] at h

/-- No text that fits a header is refused for its header. -/
theorem encodedText_ne_header (payloadOnly strict : Bool) (fault : HeaderFault) :
    encodedText payloadOnly strict text ≠ .error (.header fault) := by
  intro h
  have hpayload : Payload.ofValue strict (.text text) = .error (.header fault) := by
    rcases frame_of_payload hsize strict with ⟨payload, data, hpayload, hframe⟩ | ⟨e, hpayload, hframe⟩
    · cases payloadOnly <;> simp [encodedText, hpayload, hframe] at h
    · cases payloadOnly <;> simp_all [encodedText]
  cases Payload.ofValue_eq_error_iff.1 hpayload with
  | root _ hroot => cases hroot

/-- A verified encoding is printed like one that is not. -/
theorem printVerified_eq {terms : Terms} (href : Reference.IsStandard terms.reference) {strict : Bool} {oid : Oid}
    (hparse : Oid.parse text = .ok oid) (hframe : ∃ data, Frame.ofValue strict (.text text) = .ok data) (verify : Bool)
    (bytes : List UInt8) (s : Session) :
    printVerified terms strict verify oid bytes s = (.done 0, s.print (Text.spacedHex bytes)) := by
  obtain ⟨data, hframe⟩ := hframe
  rw [frame_of_parse strict hparse, Frame.encode] at hframe
  have hfits : ∀ payload, Payload.ofValue false (.list (oid.toInts.map .integer)) = .ok payload → payload.length < 256 ^ 126 := by
    intro payload hpayload
    rw [Payload.ofValue, ofValue_toInts_of_parse hparse] at hpayload
    exact hsize payload (by rw [payload_of_parse false hparse, ← hpayload])
  unfold printVerified
  cases verify with
  | false => rfl
  | true =>
    rw [Reference.compareWith_of_ok href hfits _ hframe]
    rfl

/-- Whether an encoding is verified makes no difference. -/
theorem encodeText_verify {terms : Terms} (href : Reference.IsStandard terms.reference) (payloadOnly strict verify : Bool)
    (s : Session) :
    encodeText terms text payloadOnly strict verify s = encodeText terms text payloadOnly strict false s := by
  unfold encodeText
  cases hparse : Oid.parse text with
  | error e => simp only [Oid.readText_of_error hparse]
  | ok oid =>
    simp only [Oid.readText_of_ok hparse, encodedText_of_parse payloadOnly _ hparse]
    cases hbytes : encodedText payloadOnly (terms.strict && strict) text with
    | error e => rfl
    | ok bytes => simp only [printVerified_eq hsize href hparse (exists_frame_of_encodedText hsize hbytes)]

/-- A text is encoded as the library does it. -/
theorem encodeText_spec (terms : Terms) (payloadOnly strict : Bool) (s : Session) :
    (∀ bytes, encodedText payloadOnly (terms.strict && strict) text = .ok bytes →
      CarriedOut s 0 [Text.spacedHex bytes] (encodeText terms text payloadOnly strict false s)) ∧
    ∀ e, encodedText payloadOnly (terms.strict && strict) text = .error e →
      CarriedOut s 1 [] (encodeText terms text payloadOnly strict false s) := by
  unfold encodeText
  cases hparse : Oid.parse text with
  | error e =>
    have hrefused : encodedText payloadOnly (terms.strict && strict) text = .error (.input (.unreadable e)) := by
      cases payloadOnly <;> simp [encodedText, Frame.ofValue, Frame.encodeWith, Payload.ofValue, Oid.ofValue, hparse, Except.mapError]
    rw [hrefused, Oid.readText_of_error hparse]
    refine ⟨fun bytes h => ?_, fun _ _ => .refused _ (s.prints_note _)⟩
    cases h
  | ok oid =>
    simp only [Oid.readText_of_ok hparse, encodedText_of_parse payloadOnly _ hparse]
    cases hbytes : encodedText payloadOnly (terms.strict && strict) text with
    | error e =>
      refine ⟨fun bytes h => ?_, fun _ _ => ?_⟩
      · cases h
      · cases e with
        | header fault => exact absurd hbytes (encodedText_ne_header hsize _ _ fault)
        | _ => exact .refused _ s.prints_refl
    | ok bytes =>
      refine ⟨fun _ h => ?_, fun e h => ?_⟩
      · cases h
        exact .done ((s.prints_inform _).trans (Session.prints_print _ _))
      · cases h

end Encoding

/-! ## Decoding -/

/-- A payload that fills a memory is read like one that is delivered. -/
theorem outcome_read_ofBytes (limit : Int) (data : List UInt8) :
    (Payload.read limit data.length (.ofBytes data)).outcome = Payload.answer limit data := by
  by_cases hempty : data = []
  · simp [hempty, Payload.read, Payload.answer, Reading.fail]
  · have hmemory : (Source.ofBytes data).Delivers (data ++ []) [] := by
      rw [List.append_nil]
      exact Source.delivers_ofBytes hempty
    exact (Payload.read_yields limit hmemory).outcome_eq

/-- The bytes of a payload are read from memory as they are decoded, unless there are none, which both refuse. -/
theorem outcome_decodeBytes (limit : Int) (payloadOnly : Bool) (data : List UInt8) (oid : Oid) :
    (decodeBytes limit payloadOnly data).outcome = .ok oid ↔ decodedBytes limit payloadOnly data = .ok oid := by
  cases payloadOnly with
  | false => rfl
  | true =>
    simp only [decodeBytes, decodedBytes, if_true, Reading.map, outcome_read_ofBytes, Payload.answer]
    by_cases hempty : data = []
    · simp [hempty, Payload.decode, Except.map]
    · simp only [if_neg hempty]
      cases Payload.decode limit data <;> simp [Except.map]

/-- Under a limit within the greatest arc a refusal of bytes in memory tells the bytes that were taken. -/
theorem decodeBytes_tells {limit : Int} (hlimit : 0 ≤ limit) (hle : limit ≤ Oid.maxArc) (payloadOnly : Bool) (data : List UInt8) :
    (decodeBytes limit payloadOnly data).Tells := by
  cases payloadOnly with
  | false => exact Frame.decode_tells hlimit hle data
  | true =>
    refine Reading.Tells.map fun e he => ?_
    rw [outcome_read_ofBytes, Payload.answer] at he
    split at he
    · cases he
      rfl
    · exact Payload.isCounted_of_decode hlimit hle (map_eq_error_iff.1 he)

/-- Hex is decoded as the library does it. -/
theorem decodeText_spec {terms : Terms} (hlimit : 0 ≤ terms.limit) (hle : terms.limit ≤ Oid.maxArc) {text : String} {data : List UInt8}
    (hread : Text.readHex? text = some data) (payloadOnly leadingDot : Bool) (s : Session) :
    (∀ oid, decodedBytes terms.limit payloadOnly data = .ok oid →
      CarriedOut s 0 [canonicalText leadingDot oid] (decodeText terms text payloadOnly leadingDot s)) ∧
    ∀ e, decodedBytes terms.limit payloadOnly data = .error e →
      CarriedOut s 1 [] (decodeText terms text payloadOnly leadingDot s) := by
  have hdecoded := outcome_decodeBytes terms.limit payloadOnly data
  have htells := decodeBytes_tells hlimit hle payloadOnly data
  simp only [decodeText, hread]
  cases houtcome : (decodeBytes terms.limit payloadOnly data).outcome with
  | error e =>
    refine ⟨fun oid hoid => ?_, fun _ _ => ?_⟩
    · rw [(hdecoded oid).2 hoid] at houtcome
      cases houtcome
    · simp only [ofDecodeFault, htells e houtcome, if_true]
      exact .refused _ (s.prints_note _)
  | ok oid =>
    rw [(hdecoded oid).1 houtcome]
    refine ⟨?_, nofun⟩
    rintro _ ⟨rfl⟩
    rw [← rendered_eq]
    exact .done (((s.prints_note _).trans (Session.prints_inform _ _)).trans (Session.prints_print _ _))

/-! ## Commands -/

/-- A run ended with an exit code, and since a session it printed these lines and no others. They are all that it wrote to the standard
output, unless the log is written there. -/
structure Ending.Gives (e : Ending) (s : Session) (code : Nat) (lines : List String) : Prop where
  outcome_eq : e.outcome = .ok code
  printed_eq : e.session.printed = s.printed ++ lines
  outputText_eq : e.session.loggers.IsOffOutput → e.session.outputText = s.outputText ++ linesText lines

/-- A run that ends in a session in which lines were printed gives these. -/
theorem Session.Prints.gives {s t : Session} {lines : List String} (h : s.Prints lines t) (code : Nat) :
    Ending.Gives ⟨.ok code, t⟩ s code lines := ⟨rfl, h.printed_eq, fun hoff => h.outputText_eq (h.loggers_eq ▸ hoff)⟩

/-- What a run printed since a session it printed since every session in which as much was printed. -/
theorem Ending.Gives.congr {e : Ending} {s t : Session} {code : Nat} {lines : List String} (h : e.Gives s code lines)
    (hstdout : t.stdout = s.stdout) : e.Gives t code lines := by
  obtain ⟨houtcome, hprinted, houtput⟩ := h
  refine ⟨houtcome, ?_, fun hoff => ?_⟩
  · rw [hprinted, Session.printed, ← hstdout, Session.printed]
  · rw [houtput hoff, Session.outputText, ← hstdout, Session.outputText]

/-- The terms are those of a root rule and of a limit that is no greater than the greatest arc, and the second encoder follows the
format. -/
structure Terms.IsFor (terms : Terms) (strictRoot : Prop) (limit : Nat) : Prop where
  strict_iff : terms.strict = true ↔ strictRoot
  limit_eq : terms.limit = limit
  limit_le : limit ≤ Oid.maxArc
  isStandard : Reference.IsStandard terms.reference

namespace Command

variable {terms : Terms} {c : Command} {strictRoot : Prop} {limit : Nat}

/-- A command is carried out as the library says. -/
theorem carryOut_spec (hterms : terms.IsFor strictRoot limit) (hsize : c.FitsHeader) {code : Nat} {lines : List String}
    (h : c.Result strictRoot limit code lines) (s : Session) : CarriedOut s code lines (c.carryOut terms s) := by
  obtain ⟨hroot, hlimit, hle, href⟩ := hterms
  have hstrict' {strict strict' : Bool} (h : strict' = true ↔ strictRoot ∧ strict = true) : (terms.strict && strict) = strict' := by
    rw [Bool.eq_iff_iff, Bool.and_eq_true, hroot, h]
  have hnonneg : 0 ≤ terms.limit := by omega
  have hwithin : terms.limit ≤ Oid.maxArc := by omega
  cases h with
  | parsed leadingDot h => exact parseTexts_spec leadingDot h s
  | stopped leadingDot h => exact parseTexts_spec leadingDot h s
  | encoded verify hstrict h =>
    rw [carryOut, encodeText_verify hsize href]
    exact (encodeText_spec hsize terms _ _ s).1 _ (by rwa [hstrict' hstrict])
  | notEncoded verify hstrict h =>
    rw [carryOut, encodeText_verify hsize href]
    exact (encodeText_spec hsize terms _ _ s).2 _ (by rwa [hstrict' hstrict])
  | decoded leadingDot hread h => exact (decodeText_spec hnonneg hwithin hread _ leadingDot s).1 _ (by rwa [hlimit])
  | notDecoded leadingDot hread h => exact (decodeText_spec hnonneg hwithin hread _ leadingDot s).2 _ (by rwa [hlimit])
  | notHex payloadOnly leadingDot hread =>
    rw [carryOut, decodeText, hread]
    exact .refused _ s.prints_refl

/-- A run of a command gives the exit code and the lines it was carried out with, leaves logging as it is, and has an error line if the
exit code is one. -/
theorem run_of_carriedOut {s : Session} {code : Nat} {lines : List String} (h : CarriedOut s code lines (c.carryOut terms s)) :
    (c.run terms s).Gives s code lines ∧ (c.run terms s).session.loggers = s.loggers ∧
      (code = 1 → s.HasComplained (c.run terms s).session) := by
  unfold run
  generalize c.carryOut terms s = r at h
  cases h with
  | done h => exact ⟨h.gives 0, h.loggers_eq, nofun⟩
  | @refused _ t message hprints =>
    have hprinted := hprints.trans (t.prints_refuse c.verb.name message)
    rw [List.append_nil] at hprinted
    exact ⟨hprinted.gives 1, hprinted.loggers_eq, fun _ => hprints.hasComplained_refuse _ _⟩

/-- A run of a command ends as the library says, leaves logging as it is, and has an error line if its exit code is one. -/
theorem run_spec (hterms : terms.IsFor strictRoot limit) (hsize : c.FitsHeader) {code : Nat} {lines : List String}
    (h : c.Result strictRoot limit code lines) (s : Session) :
    (c.run terms s).Gives s code lines ∧ (c.run terms s).session.loggers = s.loggers ∧
      (code = 1 → s.HasComplained (c.run terms s).session) := run_of_carriedOut (carryOut_spec hterms hsize h s)

/-- A run of a command that encodes ends alike whether the encoding is verified or not. -/
theorem run_verify {text : String} {payloadOnly strict verify : Bool} (href : Reference.IsStandard terms.reference)
    (hsize : (encode text payloadOnly strict verify).FitsHeader) (verify' : Bool) (s : Session) :
    (encode text payloadOnly strict verify').run terms s = (encode text payloadOnly strict verify).run terms s := by
  have hsame : ∀ v, (encode text payloadOnly strict v).carryOut terms s = encodeText terms text payloadOnly strict false s :=
    fun v => encodeText_verify hsize href _ _ v s
  simp only [run, hsame, verb]

end Command

/-! ## Requests -/

/-- A request leads to settings, and they are valid. -/
structure Request.IsConfigured (r : Request) (h : Host) (env : Environment) (s : Session) (settings : Settings) : Prop where
  found : (r.settings h env s).1 = .ok settings
  valid : settings.validate = .ok ()

/-- Asking for the settings changes nothing but the configuration that the program shares. -/
theorem Request.settings_session (r : Request) (h : Host) (env : Environment) (s : Session) :
    (r.settings h env s).2 = { s with registry := (r.settings h env s).2.registry } := by
  unfold settings
  split <;> rfl

/-- Setting logging up writes nothing to either stream. -/
theorem setUpLogging_silent (system : System) (settings : Settings) (level : Option String) (s : Session) :
    (setUpLogging system settings level s).2.stdout = s.stdout ∧ (setUpLogging system settings level s).2.stderr = s.stderr := by
  unfold setUpLogging
  split <;> exact ⟨rfl, rfl⟩

/-- Logging is set up alike whichever configuration is shared. -/
theorem setUpLogging_registry (system : System) (settings : Settings) (level : Option String) (s : Session) (registry : Registry) :
    setUpLogging system settings level { s with registry } =
      ((setUpLogging system settings level s).1, { (setUpLogging system settings level s).2 with registry }) := by
  unfold setUpLogging
  cases settings.logger <;> rfl

variable {r : Request} {h : Host} {env : Environment} {s : Session} {settings : Settings}

/-- A session in which logging was set up for a request, and which has the configuration that the request led to. -/
def Request.prepared (r : Request) (h : Host) (env : Environment) (settings : Settings) (s : Session) : Session :=
  { (setUpLogging h.system settings r.level s).2 with registry := (r.settings h env s).2.registry }

/-- Preparing a session writes nothing to either stream. -/
theorem Request.prepared_silent (r : Request) (h : Host) (env : Environment) (settings : Settings) (s : Session) :
    (r.prepared h env settings s).stdout = s.stdout ∧ (r.prepared h env settings s).stderr = s.stderr :=
  setUpLogging_silent h.system settings r.level s

/-- A request with valid settings has a limit; what remains of its run is to set logging up and carry out the command. -/
theorem Request.IsConfigured.run_spec (hconfigured : r.IsConfigured h env s settings) :
    ∃ limit : Nat, settings.limitValue.StandsFor limit ∧ limit ≤ Oid.maxArc ∧
      (∀ fault, (setUpLogging h.system settings r.level s).1 = .error fault →
        r.run h env s = ⟨.error fault, r.prepared h env settings s⟩) ∧
      ((setUpLogging h.system settings r.level s).1 = .ok () →
        r.run h env s = r.command.run ⟨settings.strictRoot, limit, h.reference⟩ (r.prepared h env settings s)) := by
  obtain ⟨hfound, hvalid⟩ := hconfigured
  obtain ⟨limit, hlimit, -⟩ := map_eq_ok_iff.1 hvalid
  obtain ⟨hstands, hle⟩ := Settings.maxArc_eq_ok_iff.1 hlimit
  have hsettings : r.settings h env s = (.ok settings, (r.settings h env s).2) := Prod.ext hfound rfl
  have hrun : r.run h env s = r.runWith h settings (r.settings h env s).2 := by
    rw [run, hsettings]
  have hlogging := setUpLogging_registry h.system settings r.level s (r.settings h env s).2.registry
  rw [← settings_session] at hlogging
  refine ⟨limit, hstands, hle, fun fault hfault => ?_, fun hdone => ?_⟩
  · rw [hrun]
    simp only [runWith, hlimit, hlogging, hfault]
    rfl
  · rw [hrun]
    simp only [runWith, hlimit, hlogging, hdone]
    rfl

/-- With logging set up, a run under valid settings ends as the library says under the limit that they give, and with an error line if
its exit code is one. -/
theorem Request.IsConfigured.run_gives (hconfigured : r.IsConfigured h env s settings)
    (hlogging : (setUpLogging h.system settings r.level s).1 = .ok ()) (href : Reference.IsStandard h.reference)
    (hsize : r.command.FitsHeader) {limit code : Nat} {lines : List String} (hlimit : settings.limitValue.StandsFor limit)
    (hresult : r.command.Result settings.AsksForStrictRoot limit code lines) :
    (r.run h env s).Gives s code lines ∧
      (r.run h env s).session.loggers = (setUpLogging h.system settings r.level s).2.loggers ∧
      (code = 1 → s.HasComplained (r.run h env s).session) := by
  obtain ⟨limit', hlimit', hle, -, hrun⟩ := hconfigured.run_spec
  obtain rfl : limit = limit' := Int.ofNat.inj (hlimit.unique hlimit')
  obtain ⟨hstdout, hstderr⟩ := r.prepared_silent h env settings s
  have hterms : Terms.IsFor ⟨settings.strictRoot, limit, h.reference⟩ settings.AsksForStrictRoot limit :=
    ⟨Settings.strictRoot_eq_true_iff, rfl, hle, href⟩
  obtain ⟨hgives, hloggers, hcomplained⟩ := Command.run_spec hterms hsize hresult (r.prepared h env settings s)
  rw [hrun hlogging]
  exact ⟨hgives.congr hstdout.symm, hloggers, fun hone => (hcomplained hone).congr hstderr.symm⟩

/-- A host that reads settings from files and variables. -/
def plainHost : Host := { read := Settings.load }

/-- A session with a settings file. -/
def sessionWith (settings : String) : Session := { time := "", files := FileTree.write {} [Configuration.defaultFile] settings }

/-- A request under the usual settings file. -/
def requestFor (command : Command) : Request := ⟨some Configuration.defaultFile, none, command⟩

end BerOid.CommandLine
