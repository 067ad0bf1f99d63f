import BerOid.Proofs.DefiniteLength
import BerOid.Proofs.Gathering
import BerOid.Proofs.Grammar

/-!
# Frames one after another

A wire frame is the tag of object identifiers, a length in any definite form that is read, and as many bytes of payload, good or
bad. Reading a frame from a source that delivers it takes exactly the frame, and its outcome is that of decoding the payload
(`Frame.read_yields`); so frames are read one after another, each by its own payload and whatever the payloads before it held
(`frames_read_in_step`).
-/

namespace BerOid

/-- A frame on the wire: the written length, and the payload. -/
structure WireFrame where
  length : List UInt8
  payload : List UInt8
  denotes : Length.Denotes length payload.length

namespace WireFrame

/-- The bytes of a frame. -/
def bytes (f : WireFrame) : List UInt8 := UInt8.ofNat oidTag :: (f.length ++ f.payload)

/-- The outcome of reading a frame goes with its payload: the same object identifier, or a refusal that is raised as the same and,
unless there is no payload, for the same fault. Either way the full size of the frame is counted, and it is told unless the refusal
has no wording. -/
def Answered (limit : Int) (f : WireFrame) (outcome : Except DecodeError (Oid × Nat)) : Prop :=
  match Payload.decode limit f.payload with
  | .ok oid => outcome = .ok (oid, f.bytes.length)
  | .error e => ∃ e', outcome = .error e' ∧ e'.fault.kind = e.fault.kind ∧ e'.fault.raised = e.fault.raised ∧
      e'.bytesRead = f.bytes.length ∧
      (if e.fault.raised = .unshowable then e'.told? = none else e'.told? = some f.bytes.length) ∧
      (f.payload ≠ [] → e'.fault = e.fault)

/-- A frame is told by its bytes, whatever is behind them: no frame is the beginning of another. -/
theorem append_inj {f g : WireFrame} {rest rest' : List UInt8} (h : f.bytes ++ rest = g.bytes ++ rest') : f = g ∧ rest = rest' := by
  obtain ⟨written, payload, hdenotes⟩ := f
  obtain ⟨written', payload', hdenotes'⟩ := g
  simp only [bytes, List.cons_append, List.append_assoc, List.cons.injEq, true_and] at h
  obtain ⟨rfl, hlength, hbehind⟩ := hdenotes.append_inj hdenotes' h
  obtain ⟨rfl, rfl⟩ := List.append_inj hbehind hlength
  exact ⟨rfl, rfl⟩

end WireFrame

/-! ## Headers -/

namespace Header

/-- A byte that is delivered is read. -/
theorem readByte_yields {s : Source} {b : UInt8} {rest : List UInt8} {last : List Piece} (h : s.Delivers (b :: rest) last) :
    (readByte s).Yields (.ok b) rest last := by
  have hgather : (s.gather [b].length).Yields (.ok [b]) rest last := Source.gather_yields h
  exact hgather.map _

/-- A definite length that is delivered is read in full. -/
theorem readLength_yields (tag : UInt8) {written rest : List UInt8} {n : Nat} {last : List Piece} {s : Source}
    (hw : Length.Denotes written n) (h : s.Delivers (written ++ rest) last) :
    (readLength tag s).Yields (.ok ⟨tag, n, 1 + written.length⟩) rest last := by
  obtain ⟨behind, hread, hbehind⟩ := readLength_spec tag
  rw [hread]
  rcases hw with ⟨hn, rfl⟩ | ⟨digits, hpos, hmax, rfl, rfl⟩
  · refine ((readByte_yields h).after 1).andThen fun t ht => ?_
    have hbyte := Length.toNat_shortOctet hn
    rcases hbehind (UInt8.ofNat n) with ⟨-, hnext⟩ | ⟨hzero, -⟩ | ⟨hwide, -⟩ | ⟨count, -, -, hcount, -⟩
    · rw [hnext, hbyte]
      exact ⟨rfl, ht⟩
    · omega
    · omega
    · omega
  · refine ((readByte_yields h).after 1).andThen fun t ht => ?_
    have hbyte := Length.toNat_countOctet hmax
    rcases hbehind (UInt8.ofNat (128 + digits.length)) with
      ⟨hshort, -⟩ | ⟨hzero, -⟩ | ⟨hwide, -⟩ | ⟨count, -, -, hcount, hnext⟩
    · omega
    · omega
    · omega
    · obtain rfl : count = digits.length := by omega
      have hsize : 1 + (UInt8.ofNat (128 + digits.length) :: digits).length = 2 + digits.length := by
        rw [List.length_cons]
        omega
      rw [hnext, hsize]
      exact ((Source.gather_yields ht).after 2).map _

/-- A header that is delivered is read in full, unless its tag would continue. -/
theorem read_yields {tag : UInt8} {written rest : List UInt8} {n : Nat} {last : List Piece} {s : Source}
    (htag : tag.toNat % 32 ≠ 31) (hw : Length.Denotes written n) (h : s.Delivers (tag :: (written ++ rest)) last) :
    (read s).Yields (.ok ⟨tag, n, 1 + written.length⟩) rest last := by
  refine (readByte_yields h).andThen fun t ht => ?_
  rw [if_neg htag]
  exact readLength_yields tag hw ht

end Header

/-! ## Payloads and frames -/

/-- The outcome of reading a payload that is delivered. -/
def Payload.answer (limit : Int) (payload : List UInt8) : Except DecodeError (Oid × Nat) :=
  if payload = [] then .error ⟨.lengthNotPositive 0, 0⟩ else (decode limit payload).map (·, payload.length)

/-- A payload that is delivered is taken in full, and answered by what it holds. -/
theorem Payload.read_yields (limit : Int) {payload rest : List UInt8} {last : List Piece} {s : Source}
    (h : s.Delivers (payload ++ rest) last) : (read limit payload.length s).Yields (answer limit payload) rest last := by
  unfold read answer
  by_cases hne : payload = []
  · subst hne
    exact ⟨rfl, h⟩
  · have hpos := List.length_pos_iff.2 hne
    rw [if_neg (by omega), if_neg hne]
    refine (Source.gather_yields h).andThen fun t ht => ?_
    unfold decodeTaken
    split
    · rename_i oid hoid
      rw [hoid]
      exact ⟨rfl, ht⟩
    · rename_i e he
      rw [he]
      exact ⟨rfl, ht⟩

namespace WireFrame

/-- The outcome of reading a frame that is delivered. -/
def answer (limit : Int) (f : WireFrame) : Except DecodeError (Oid × Nat) :=
  ((Payload.answer limit f.payload).mapError (·.after (1 + f.length.length))).map fun (oid, n) => (oid, 1 + f.length.length + n)

/-- The size of a frame. -/
theorem length_bytes (f : WireFrame) : f.bytes.length = 1 + f.length.length + f.payload.length := by
  rw [bytes, List.length_cons, List.length_append]
  omega

/-- A refusal of a payload is for the payload, and tells the bytes that it counts unless it has no wording. -/
theorem told?_of_decode {limit : Int} {payload : List UInt8} {e : DecodeError} (h : Payload.decode limit payload = .error e)
    (n : Nat) :
    if e.fault.raised = .unshowable then (e.after n).told? = none else (e.after n).told? = some (n + payload.length) := by
  rw [DecodeError.told?_after, ← Payload.bytesRead_of_decode h]
  rcases (Payload.reports_of_decode h).raised with ⟨-, hraised⟩ | ⟨-, v, cap, -, -, -, hraised⟩
  · simp [DecodeError.told?, hraised, DecodeKind.isCounted]
  · by_cases hshown : isShowable v ∧ isShowable cap
    · rw [if_pos hshown] at hraised
      simp [DecodeError.told?, hraised, DecodeKind.isCounted]
    · rw [if_neg hshown] at hraised
      simp [DecodeError.told?, hraised, DecodeKind.isCounted]

/-- The outcome of reading a frame goes with its payload. -/
theorem answered (limit : Int) (f : WireFrame) : f.Answered limit (f.answer limit) := by
  unfold Answered answer Payload.answer
  rw [length_bytes]
  by_cases hne : f.payload = []
  · rw [if_pos hne, hne]
    exact ⟨_, rfl, rfl, rfl, rfl, rfl, fun h => absurd rfl h⟩
  · rw [if_neg hne]
    cases hd : Payload.decode limit f.payload with
    | ok oid => rfl
    | error e =>
      refine ⟨e.after (1 + f.length.length), rfl, rfl, rfl, ?_, told?_of_decode hd _, fun _ => rfl⟩
      rw [← Payload.bytesRead_of_decode hd]
      rfl

end WireFrame

/-- A frame that is delivered is taken in full, and answered by its payload. -/
theorem Frame.read_yields (limit : Int) (f : WireFrame) {rest : List UInt8} {last : List Piece} {s : Source}
    (h : s.Delivers (f.bytes ++ rest) last) : (read limit s).Yields (f.answer limit) rest last := by
  have hbytes : f.bytes ++ rest = UInt8.ofNat oidTag :: (f.length ++ (f.payload ++ rest)) := by
    rw [WireFrame.bytes, List.cons_append, List.append_assoc]
  rw [hbytes] at h
  refine (Header.read_yields (by decide) f.denotes h).andThen fun t ht => ?_
  rw [if_neg fun hforeign => hforeign rfl]
  exact ((Payload.read_yields limit ht).after _).map _

/-- A frame in memory is decoded as its payload is: to the same object identifier, or with a refusal for a cause of the same kind that
is raised as the same. -/
theorem Frame.decode_bytes (limit : Int) (f : WireFrame) :
    (decode limit f.bytes).outcome.mapError (fun e => (e.fault.kind, e.fault.raised)) =
      (Payload.decode limit f.payload).mapError fun e => (e.fault.kind, e.fault.raised) := by
  have hmemory : (Source.ofBytes f.bytes).Delivers (f.bytes ++ []) [] := by
    rw [List.append_nil]
    exact Source.delivers_ofBytes (List.cons_ne_nil _ _)
  have hread := (read_yields limit f hmemory).outcome_eq
  have hanswer := f.answered limit
  unfold WireFrame.Answered at hanswer
  rw [decode, Reading.andThen, hread]
  cases hd : Payload.decode limit f.payload with
  | ok oid =>
    rw [hd] at hanswer
    simp only at hanswer
    rw [hanswer]
    simp [Reading.done]
  | error e =>
    rw [hd] at hanswer
    obtain ⟨e', he', hkind, hraised, -⟩ := hanswer
    rw [he', Except.mapError, Except.mapError, hkind, hraised]

/-! ## Runs of readings -/

namespace Frame

/-- The source after a number of readings of frames, each from what the one before it left. -/
def sourceAfter (limit : Int) (s : Source) : Nat → Source
  | 0 => s
  | k + 1 => (read limit (sourceAfter limit s k)).rest

/-- After as many readings the source delivers the frames that are left. -/
theorem sourceAfter_delivers (limit : Int) {frames : List WireFrame} {trailing : List UInt8} {last : List Piece} {s : Source}
    (h : s.Delivers (frames.flatMap WireFrame.bytes ++ trailing) last) :
    ∀ k ≤ frames.length,
      (sourceAfter limit s k).Delivers ((frames.drop k).flatMap WireFrame.bytes ++ trailing) last := by
  intro k
  induction k with
  | zero => exact fun _ => h
  | succ k ih =>
    intro hk
    have hs := ih (by omega)
    rw [List.drop_eq_getElem_cons (by omega), List.flatMap_cons, List.append_assoc] at hs
    exact (read_yields limit _ hs).delivers

/-- Frames are read in step: from a source that delivers frames and then trailing bytes, in non-empty pieces cut anywhere and
without a failure, every reading has the outcome of decoding the payload of its own frame and counts the size of that frame,
whether it is accepted or refused, and after as many readings as there are frames just the trailing bytes are left. The size is
told, unless the payload is refused for a number that has no text. -/
theorem frames_read_in_step (limit : Int) (frames : List WireFrame) (trailing : List UInt8) (s : Source)
    (h : s.Delivers (frames.flatMap WireFrame.bytes ++ trailing) []) :
    (∀ (k : Nat) (hk : k < frames.length), frames[k].Answered limit (read limit (sourceAfter limit s k)).outcome) ∧
      (sourceAfter limit s frames.length).Delivers trailing [] := by
  refine ⟨fun k hk => ?_, ?_⟩
  · have hs := sourceAfter_delivers limit h k (by omega)
    rw [List.drop_eq_getElem_cons hk, List.flatMap_cons, List.append_assoc] at hs
    rw [(read_yields limit _ hs).outcome_eq]
    exact frames[k].answered limit
  · have hs := sourceAfter_delivers limit h frames.length (Nat.le_refl _)
    rwa [List.drop_length, List.flatMap_nil, List.nil_append] at hs

/-- A good frame, one of a long form with a leading zero and a payload that is cut off, and one without a payload. -/
def mixedFrames : List WireFrame :=
  [⟨[5], [0x2b, 6, 1, 2, 1], .inl ⟨by decide, rfl⟩⟩,
    ⟨[0x82, 0, 2], [0x2b, 0x81], .inr ⟨[0, 2], by decide, by decide, rfl, rfl⟩⟩,
    ⟨[0], [], .inl ⟨by decide, rfl⟩⟩]

/-- The mixed frames and two trailing bytes, cut across the borders of the frames and answered three bytes at a time. -/
def mixedSource : Source :=
  { pieces := [.bytes [6], .bytes [5, 0x2b, 6, 1, 2], .bytes [1, 6, 0x82, 0], .bytes [2, 0x2b, 0x81, 6, 0, 5], .bytes [0]]
    chunk := some 3 }

/-- The second of the mixed frames is answered for its own payload, and the two trailing bytes are left. -/
theorem frames_read_in_step_mixedSource :
    mixedSource.Delivers (mixedFrames.flatMap WireFrame.bytes ++ [5, 0]) [] ∧
      mixedFrames[1].Answered Oid.maxArc (read Oid.maxArc (sourceAfter Oid.maxArc mixedSource 1)).outcome ∧
      (sourceAfter Oid.maxArc mixedSource 3).Delivers [5, 0] [] := by
  have h : mixedSource.Delivers (mixedFrames.flatMap WireFrame.bytes ++ [5, 0]) [] :=
    ⟨rfl, by decide, [[6], [5, 0x2b, 6, 1, 2], [1, 6, 0x82, 0], [2, 0x2b, 0x81, 6, 0, 5], [0]], by decide, rfl, rfl⟩
  obtain ⟨hanswered, hleft⟩ := frames_read_in_step Oid.maxArc mixedFrames [5, 0] mixedSource h
  exact ⟨h, hanswered 1 (by decide), hleft⟩

/-- The frame of the payload with the least number that has no text. -/
theorem exists_unshowableFrame : ∃ f : WireFrame, f.payload = Payload.unshowablePayload := by
  have hlength : (Base128.encode leastUnshowable).length ≤ maxIntegerDigits :=
    Base128.length_encode_le_of_lt (by decide) (Nat.pow_lt_pow_left (by decide) (by decide))
  have hsize : Payload.unshowablePayload.length < 2 ^ 32 := by
    rw [Payload.unshowablePayload, List.length_cons]
    rw [maxIntegerDigits] at hlength
    omega
  obtain ⟨written, -, hdenotes⟩ := Length.encode_denotes hsize
  exact ⟨⟨written, _, hdenotes⟩, rfl⟩

/-- Not every frame that is delivered and refused is told in full. -/
theorem untold_frame : ¬∀ (limit : Int) (f : WireFrame) (e : DecodeError),
    (read limit (.ofBytes f.bytes)).outcome = .error e → e.told? = some f.bytes.length := by
  intro htold
  obtain ⟨f, hf⟩ := exists_unshowableFrame
  obtain ⟨e, he, hraised⟩ := Payload.decode_unshowablePayload
  have hmemory : (Source.ofBytes f.bytes).Delivers (f.bytes ++ []) [] := by
    rw [List.append_nil]
    exact Source.delivers_ofBytes (List.cons_ne_nil _ _)
  have hanswered := f.answered (leastUnshowable - 1)
  rw [WireFrame.Answered, hf, he] at hanswered
  obtain ⟨e', he', -, -, -, hnone, -⟩ := hanswered
  rw [if_pos hraised] at hnone
  have hsome := htold _ f e' ((read_yields _ f hmemory).outcome_eq.trans he')
  rw [hnone] at hsome
  cases hsome

end Frame

end BerOid
