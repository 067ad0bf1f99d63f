import BerOid.Proofs.Accounting
import BerOid.Proofs.Canonical

/-!
# The grammar of frames

What a reading took when it has a result: `Reading.Takes` relates the result to the bytes taken, and is kept when steps are put
together. A frame that is read is thus a wire frame whose payload is accepted (`Frame.read_takes`), and with the converse bytes in
memory are decoded exactly when they are one, and in only one way. The frame written for what was decoded is never longer, and is
the same exactly when both the length and the payload were in their shortest form (`decode_frame_grammar`).
-/

namespace BerOid

namespace Reading

/-! ## What was taken -/

/-- If the reading has a result, it took bytes from the front of the source that go with the result. -/
def Takes {α : Type} (goes : α → List UInt8 → Prop) (s : Source) (r : Reading α) : Prop :=
  ∀ a, r.outcome = .ok a → r.rest.overDelivers = false ∧ ∃ taken, s.pending = taken ++ r.rest.pending ∧ goes a taken

variable {α β : Type} {goes : α → List UInt8 → Prop} {s : Source} {r : Reading α}

/-- A result without a request goes with no bytes. -/
theorem takes_done {a : α} (hs : s.overDelivers = false) (h : goes a []) : (done a s).Takes goes s := by
  intro b hb
  cases hb
  exact ⟨hs, [], rfl, h⟩

/-- A refusal has no result. -/
theorem takes_fail {e : DecodeError} : (fail e s : Reading α).Takes goes s := nofun

/-- The count of a refusal is nothing to the result. -/
theorem Takes.after (h : r.Takes goes s) (n : Nat) : (r.after n).Takes goes s :=
  fun a ha => h a (mapError_eq_ok_iff.1 ha)

theorem Takes.map {f : α → β} {goes' : β → List UInt8 → Prop} (h : r.Takes goes s)
    (hgoes : ∀ a taken, goes a taken → goes' (f a) taken) : (r.map f).Takes goes' s := by
  intro b hb
  obtain ⟨a, ha, rfl⟩ := map_eq_ok_iff.1 hb
  obtain ⟨hrest, taken, hpending, htaken⟩ := h a ha
  exact ⟨hrest, taken, hpending, hgoes a taken htaken⟩

/-- The bytes of two steps go with the result of the second if they do whenever those of the first go with its own. -/
theorem Takes.andThen {next : α → Source → Reading β} {goes' : β → List UInt8 → Prop} (h : r.Takes goes s)
    (hnext : ∀ a front, goes a front → r.rest.overDelivers = false →
      (next a r.rest).Takes (fun b taken => goes' b (front ++ taken)) r.rest) : (r.andThen next).Takes goes' s := by
  intro b hb
  cases ho : r.outcome with
  | error e => simp only [Reading.andThen, ho, reduceCtorEq] at hb
  | ok a =>
    obtain ⟨hrest, front, hpending, hfront⟩ := h a ho
    simp only [Reading.andThen, ho] at hb ⊢
    obtain ⟨hrest', taken, hpending', htaken⟩ := hnext a front hfront hrest b hb
    exact ⟨hrest', front ++ taken, by rw [hpending, hpending', List.append_assoc], htaken⟩

/-- What a reading reports, if it accounts for its bytes, is the number of bytes taken. -/
theorem Takes.counted {count : α → Nat} (h : r.Takes goes s) (hcount : r.Accounts 0 count s) :
    r.Takes (fun a taken => goes a taken ∧ count a = taken.length) s := by
  intro a ha
  obtain ⟨hrest, taken, hpending, htaken⟩ := h a ha
  obtain ⟨-, taken', hpending', hok, -⟩ := hcount
  obtain rfl : taken = taken' := List.append_cancel_right (hpending.symm.trans hpending')
  exact ⟨hrest, taken, hpending, htaken, by rw [hok a ha, Nat.zero_add]⟩

end Reading

open Reading

/-! ## Operations -/

namespace Source

/-- The bytes gathered are those that stood at the front of the source. -/
theorem pending_gather {wanted : Int} {s : Source} {bytes : List UInt8} (h : (s.gather wanted).outcome = .ok bytes) :
    s.pending = bytes ++ (s.gather wanted).rest.pending := by
  have hrun := gatherFrom_run wanted
    (motive := fun _ s r => ∀ bytes, r.outcome = .ok bytes → s.pending = bytes ++ r.rest.pending)
  refine hrun ?done ?failed ?ended ?more 0 s bytes h
  case done => exact fun _ _ _ _ hbytes => by cases hbytes; rfl
  case failed => exact fun _ _ _ _ _ _ _ hbytes => nomatch hbytes
  case ended => exact fun _ _ _ _ _ _ hbytes => nomatch hbytes
  case more =>
    intro received s t got r _ hread _ ih bytes hbytes
    obtain ⟨others, hothers, rfl⟩ := map_eq_ok_iff.1 hbytes
    rw [(read_ok hread).1, ih others hothers, List.append_assoc]
    rfl

/-- Gathering takes the bytes it gives, as many as wanted. -/
theorem gather_takes {s : Source} (hs : s.overDelivers = false) (wanted : Int) :
    (s.gather wanted).Takes (fun bytes taken => taken = bytes ∧ bytes.length = wanted.toNat) s :=
  fun bytes h => ⟨(s.gather_accounts hs wanted).restrained, bytes, pending_gather h, rfl, length_gather hs h⟩

end Source

namespace Header

/-- The byte read is the one taken. -/
theorem readByte_takes {s : Source} (hs : s.overDelivers = false) : (readByte s).Takes (fun b taken => taken = [b]) s := by
  refine (s.gather_takes hs 1).map ?_
  rintro _ bytes ⟨rfl, hlen⟩
  obtain ⟨b, rfl⟩ := List.length_eq_one_iff.1 hlen
  rfl

/-- The length read is a definite length. -/
theorem readLength_takes (tag : UInt8) {s : Source} (hs : s.overDelivers = false) :
    (readLength tag s).Takes (fun header taken => header.tag = tag ∧ Length.Denotes taken header.length) s := by
  obtain ⟨behind, hread, hbehind⟩ := readLength_spec tag
  rw [hread]
  refine ((readByte_takes hs).after 1).andThen ?_
  rintro first _ rfl ht
  have hfirst := UInt8.ofNat_toNat (x := first)
  rcases hbehind first with ⟨hshort, hnext⟩ | ⟨-, hnext⟩ | ⟨-, hnext⟩ | ⟨count, hpos, hmax, hcount, hnext⟩ <;>
    rw [hnext]
  · exact takes_done ht ⟨rfl, .inl ⟨hshort, by rw [hfirst]; rfl⟩⟩
  · exact takes_fail
  · exact takes_fail
  · refine ((Source.gather_takes ht count).after 2).map ?_
    rintro _ octets ⟨rfl, hlen⟩
    obtain rfl : octets.length = count := hlen
    exact ⟨rfl, .inr ⟨octets, hpos, hmax, by rw [← hcount, hfirst]; rfl, rfl⟩⟩

/-- The header read is a tag and a definite length. -/
theorem read_takes {s : Source} (hs : s.overDelivers = false) :
    (read s).Takes
      (fun header taken => ∃ written, taken = header.tag :: written ∧ Length.Denotes written header.length) s := by
  refine (readByte_takes hs).andThen ?_
  rintro tag _ rfl ht
  by_cases hmulti : tag.toNat % 32 = 31
  · rw [if_pos hmulti]
    exact takes_fail
  · rw [if_neg hmulti]
    intro header hheader
    obtain ⟨hrest, written, hpending, htag, hdenotes⟩ := readLength_takes tag ht header hheader
    exact ⟨hrest, written, hpending, written, by rw [htag]; rfl, hdenotes⟩

end Header

/-- The payload read is one that is accepted, and has as many bytes as asked for. -/
theorem Payload.read_takes (limit length : Int) {s : Source} (hs : s.overDelivers = false) :
    (read limit length s).Takes (fun result taken => decode limit taken = .ok result.1 ∧ taken.length = length.toNat) s := by
  unfold read
  split
  · exact takes_fail
  · refine (s.gather_takes hs length).andThen ?_
    rintro _ payload ⟨rfl, hlen⟩ ht
    unfold decodeTaken
    split
    · rename_i oid hoid
      refine takes_done ht ?_
      rw [List.append_nil]
      exact ⟨hoid, hlen⟩
    · exact nofun

namespace Frame

/-- The frame read is a wire frame whose payload is accepted. -/
theorem read_takes (limit : Int) {s : Source} (hs : s.overDelivers = false) :
    (read limit s).Takes
      (fun result taken => ∃ f : WireFrame, taken = f.bytes ∧ Payload.decode limit f.payload = .ok result.1) s := by
  refine (Header.read_takes hs).andThen ?_
  rintro header _ ⟨written, rfl, hdenotes⟩ ht
  by_cases htag : header.tag.toNat ≠ oidTag
  · rw [if_pos htag]
    exact takes_fail
  · rw [if_neg htag]
    rw [not_not] at htag
    refine ((Payload.read_takes limit header.length ht).after header.size).map ?_
    rintro ⟨oid, n⟩ payload ⟨hdecode, hlen⟩
    rw [Int.toNat_natCast] at hlen
    refine ⟨⟨written, payload, by rw [hlen]; exact hdenotes⟩, ?_, hdecode⟩
    rw [WireFrame.bytes, ← htag, UInt8.ofNat_toNat, List.cons_append]

/-- A frame decoded in memory is a wire frame of the size of the memory. -/
theorem decode_takes (limit : Int) (data : List UInt8) :
    (decode limit data).Takes (fun oid taken => taken.length = data.length ∧
      ∃ f : WireFrame, taken = f.bytes ∧ Payload.decode limit f.payload = .ok oid) (.ofBytes data) := by
  refine ((read_takes limit rfl).counted (read_accounts limit rfl)).andThen ?_
  rintro ⟨oid, consumed⟩ taken ⟨hframe, hconsumed⟩ ht
  by_cases hall : consumed ≠ data.length
  · simp only [if_pos hall]
    exact takes_fail
  · simp only [if_neg hall]
    refine takes_done ht ?_
    rw [List.append_nil]
    exact ⟨hconsumed.symm.trans (not_not.1 hall), hframe⟩

/-- Bytes in memory are decoded exactly when they are a wire frame whose payload is accepted. -/
theorem outcome_decode_eq_ok_iff {limit : Int} {data : List UInt8} {oid : Oid} :
    (decode limit data).outcome = .ok oid ↔ ∃ f : WireFrame, data = f.bytes ∧ Payload.decode limit f.payload = .ok oid := by
  constructor
  · intro h
    obtain ⟨-, taken, hpending, hlen, f, rfl, hdecode⟩ := decode_takes limit data oid h
    rw [Source.pending_ofBytes] at hpending
    have hnil : (decode limit data).rest.pending = [] := by
      have hboth := congrArg List.length hpending
      rw [List.length_append] at hboth
      exact List.eq_nil_of_length_eq_zero (by omega)
    rw [hnil, List.append_nil] at hpending
    exact ⟨f, hpending, hdecode⟩
  · rintro ⟨f, rfl, hdecode⟩
    have h := decode_bytes limit f
    rw [hdecode] at h
    exact mapError_eq_ok_iff.1 h

end Frame

/-! ## Frames written again -/

namespace WireFrame

/-- The frame `g` is `f` in canonical form: its payload has no padding, and its length is what the writer gives. -/
structure IsCanonicalOf (g f : WireFrame) : Prop where
  payload_eq : g.payload = Payload.unpadded f.payload
  length_eq : Length.encode g.payload.length = .ok g.length

variable {f g : WireFrame}

/-- The canonical form is not the longer one. -/
theorem IsCanonicalOf.length_le (h : g.IsCanonicalOf f) : g.bytes.length ≤ f.bytes.length := by
  have hpayload : g.payload.length ≤ f.payload.length := by
    rw [h.payload_eq]
    exact Payload.length_unpadded_le f.payload
  have hlength := Length.length_encode_le hpayload h.length_eq f.denotes
  rw [length_bytes, length_bytes]
  omega

/-- A frame of complete subidentifiers is its own canonical form exactly when its length is shortest and it has no padding. -/
theorem IsCanonicalOf.bytes_eq_iff (h : g.IsCanonicalOf f) (hcomplete : (Base128.cut f.payload).2 = []) :
    g.bytes = f.bytes ↔ Length.IsShortest f.length f.payload.length ∧
      ∀ x ∈ (Base128.cut f.payload).1, x.head? ≠ some Base128.padding := by
  rw [Length.isShortest_iff_encode f.denotes.lt, ← Payload.unpadded_eq_self_iff hcomplete, ← h.payload_eq]
  constructor
  · intro hbytes
    have happend : g.bytes ++ [] = f.bytes ++ [] := by rw [hbytes]
    obtain ⟨rfl, -⟩ := append_inj happend
    exact ⟨h.length_eq, rfl⟩
  · rintro ⟨hlength, hpayload⟩
    have hwritten := h.length_eq
    rw [hpayload, hlength, Except.ok.injEq] at hwritten
    rw [bytes, bytes, hwritten, hpayload]

end WireFrame

namespace Frame

/-- A frame that was decoded under a limit no greater than the greatest arc is written again in canonical form. -/
theorem encode_of_decode {limit : Int} {f : WireFrame} {oid : Oid} (hlimit : limit ≤ Oid.maxArc)
    (h : Payload.decode limit f.payload = .ok oid) : ∃ g : WireFrame, encode false oid = .ok g.bytes ∧ g.IsCanonicalOf f := by
  have hsize := Nat.lt_of_le_of_lt (Payload.length_unpadded_le f.payload) f.denotes.lt
  obtain ⟨written, hwritten, hdenotes⟩ := Length.encode_denotes hsize
  exact ⟨⟨written, _, hdenotes⟩, ofValue_eq (Payload.ofValue_of_decode hlimit h) hwritten, rfl, hwritten⟩

/-- Frames have a grammar. Bytes in memory are decoded to an object identifier exactly when they are the tag, a definite length of
one of the forms that are read, and as many bytes of payload, which are not none and are decoded to it. When they are, and the limit
is no greater than the greatest arc, the frame written for the object identifier is no longer than the bytes, and it is the same
exactly when the length has its shortest form and no subidentifier begins with a group of zero. -/
theorem decode_frame_grammar (limit : Int) (data : List UInt8) (oid : Oid) :
    ((decode limit data).outcome = .ok oid ↔
      ∃ written payload, data = UInt8.ofNat oidTag :: (written ++ payload) ∧ payload ≠ [] ∧
        Length.Denotes written payload.length ∧ Payload.decode limit payload = .ok oid) ∧
    ∀ written payload, data = UInt8.ofNat oidTag :: (written ++ payload) → Length.Denotes written payload.length →
      Payload.decode limit payload = .ok oid → limit ≤ Oid.maxArc →
      ∃ bytes, encode false oid = .ok bytes ∧ bytes.length ≤ data.length ∧
        (bytes = data ↔ Length.IsShortest written payload.length ∧
          ∀ g ∈ (Base128.cut payload).1, g.head? ≠ some Base128.padding) := by
  refine ⟨?_, ?_⟩
  · rw [outcome_decode_eq_ok_iff]
    constructor
    · rintro ⟨f, rfl, hdecode⟩
      refine ⟨f.length, f.payload, rfl, ?_, f.denotes, hdecode⟩
      intro hempty
      rw [hempty] at hdecode
      cases hdecode
    · rintro ⟨written, payload, rfl, -, hdenotes, hdecode⟩
      exact ⟨⟨written, payload, hdenotes⟩, rfl, hdecode⟩
  · rintro written payload rfl hdenotes hdecode hlimit
    let f : WireFrame := ⟨written, payload, hdenotes⟩
    obtain ⟨g, hg, hcanonical⟩ := encode_of_decode (f := f) hlimit hdecode
    exact ⟨g.bytes, hg, hcanonical.length_le, hcanonical.bytes_eq_iff (Payload.spec_of_decode hdecode).1⟩

/-- A frame with a leading zero in its length and padding before its last arc is decoded, and written again without either. -/
theorem decode_frame_grammar_padded :
    (decode Oid.maxArc [6, 0x82, 0, 5, 0x2b, 6, 0x80, 0x82, 0x2c]).outcome = .ok [1, 3, 6, 300] ∧
      ∃ bytes, encode false [1, 3, 6, 300] = .ok bytes ∧ bytes.length ≤ 9 ∧
        bytes ≠ [6, 0x82, 0, 5, 0x2b, 6, 0x80, 0x82, 0x2c] := by
  obtain ⟨hgrammar, hagain⟩ := decode_frame_grammar Oid.maxArc [6, 0x82, 0, 5, 0x2b, 6, 0x80, 0x82, 0x2c] [1, 3, 6, 300]
  have hdenotes : Length.Denotes [0x82, 0, 5] 5 := .inr ⟨[0, 5], by decide, by decide, rfl, rfl⟩
  have hdecode : Payload.decode Oid.maxArc [0x2b, 6, 0x80, 0x82, 0x2c] = .ok [1, 3, 6, 300] := by cbv
  refine ⟨hgrammar.2 ⟨[0x82, 0, 5], [0x2b, 6, 0x80, 0x82, 0x2c], rfl, by decide, hdenotes, hdecode⟩, ?_⟩
  obtain ⟨bytes, hbytes, hle, hsame⟩ :=
    hagain [0x82, 0, 5] [0x2b, 6, 0x80, 0x82, 0x2c] rfl hdenotes hdecode (Int.le_refl _)
  refine ⟨bytes, hbytes, hle, fun heq => ?_⟩
  exact (hsame.1 heq).2 [0x80, 0x82, 0x2c] (by decide) rfl

end Frame

end BerOid
