import BerOid.Proofs.Accounting
import BerOid.Proofs.Framing

/-!
# The limit and the arcs

What the limit of a decoder bounds. Every arc behind the first is within it, whichever way the object identifier was decoded, and
bytes that hold such an arc above it are refused for a value out of range (`Payload.decode_of_holdsAbove`). The first arc is not
looked at on its own: it shares a subidentifier with the second, which may reach 80 above the limit, so it is only known to be a
root. The limits 0 and 1 are therefore no bounds for it, and these are the only ones (`limit_bounds_arcs_iff`).
-/

namespace BerOid

/-- The first arc is at most two; there are arcs behind it, and all these are within the limit. -/
structure Oid.IsWithin (limit : Int) (oid : Oid) : Prop where
  first_le : ∀ first ∈ oid.head?, first ≤ 2
  tail_ne_nil : oid.tail ≠ []
  tail_le : ∀ arc ∈ oid.tail, (arc : Int) ≤ limit

/-- The object identifier is what one of the four decoders gives under the limit: for a payload, for a payload of some length from a
source, for a frame from a source, or for a frame in memory. -/
inductive Decoded (limit : Int) : Oid → Prop where
  | payload {bytes : List UInt8} {oid : Oid} : Payload.decode limit bytes = .ok oid → Decoded limit oid
  | taken {length : Int} {s : Source} {oid : Oid} {n : Nat} :
      (Payload.read limit length s).outcome = .ok (oid, n) → Decoded limit oid
  | frame {s : Source} {oid : Oid} {n : Nat} : (Frame.read limit s).outcome = .ok (oid, n) → Decoded limit oid
  | memory {data : List UInt8} {oid : Oid} : (Frame.decode limit data).outcome = .ok oid → Decoded limit oid

namespace Payload

open Base128

/-! ## Payloads -/

/-- The first arc of a root is at most two. -/
theorem rootArcs_fst_le (v : Nat) : (rootArcs v).1 ≤ 2 := by
  unfold rootArcs
  split
  · simp
  · split <;> simp

/-- A payload that is accepted is within the limit. -/
theorem isWithin_of_decode {limit : Int} {payload : List UInt8} {oid : Oid} (h : decode limit payload = .ok oid) :
    oid.IsWithin limit := by
  obtain ⟨hnone, rfl⟩ := decode_eq_ok_iff.1 h
  obtain ⟨root, others, hgroups, -, -, hsecond, hothers⟩ := firstOffence?_eq_none_iff.1 hnone
  rw [hgroups]
  refine ⟨?_, by simp [arcsOf], ?_⟩
  · intro first hfirst
    simp only [arcsOf, List.head?_cons, Option.mem_def, Option.some.injEq] at hfirst
    rw [← hfirst]
    exact rootArcs_fst_le _
  · intro arc harc
    simp only [arcsOf, List.tail_cons, List.mem_cons, List.mem_map] at harc
    rcases harc with rfl | ⟨g, hg, rfl⟩
    · exact hsecond
    · exact hothers g hg

/-- The payload holds an arc behind the first that is above the limit, in a complete subidentifier. -/
def HoldsAbove (limit : Int) (payload : List UInt8) : Prop := ∃ arc ∈ (arcsOf (cut payload).1).tail, limit < (arc : Int)

/-- Of items under one limit the first that offends is out of range if a complete one is, since an unfinished run comes last. -/
theorem findSome?_offence?_of_above {limit : Int} {groups : List (List UInt8)} {run : List UInt8}
    (h : ∃ g ∈ groups, limit < (value g : Int)) : (itemsOf groups run).findSome? (Item.offence? limit) = some .outOfRange := by
  induction groups with
  | nil => simp at h
  | cons g groups ih =>
    rw [itemsOf_cons, List.findSome?_cons]
    by_cases hv : (value g : Int) ≤ limit
    · have hrest : ∃ g ∈ groups, limit < (value g : Int) := by
        obtain ⟨x, hx, habove⟩ := h
        rcases List.mem_cons.1 hx with rfl | hx
        · omega
        · exact ⟨x, hx, habove⟩
      simp [Item.offence?, hv, ih hrest]
    · simp [Item.offence?, hv]

/-- The first offence of items that hold an arc above the limit is a value out of range. -/
theorem firstOffence?_of_above {limit : Int} {groups : List (List UInt8)} {run : List UInt8}
    (h : ∃ arc ∈ (arcsOf groups).tail, limit < (arc : Int)) : firstOffence? limit (itemsOf groups run) = some .outOfRange := by
  cases groups with
  | nil => simp [arcsOf] at h
  | cons root others =>
    rw [itemsOf_cons, firstOffence?]
    by_cases hroot : (value root : Int) ≤ 80 + limit
    · by_cases hsecond : ((rootArcs (value root)).2 : Int) ≤ limit
      · -- both bounds of the first item are kept, so the arc above the limit is one of a later item
        have hothers : ∃ g ∈ others, limit < (value g : Int) := by
          obtain ⟨arc, harc, habove⟩ := h
          simp only [arcsOf, List.tail_cons, List.mem_cons, List.mem_map] at harc
          rcases harc with rfl | ⟨g, hg, rfl⟩
          · omega
          · exact ⟨g, hg, habove⟩
        simp [Item.offence?, Item.secondArcOffence?, hroot, hsecond, findSome?_offence?_of_above hothers]
      · simp [Item.offence?, Item.secondArcOffence?, hroot, hsecond]
    · simp [Item.offence?, hroot]

/-- A payload that holds an arc above the limit is refused for a value out of range. -/
theorem decode_of_holdsAbove {limit : Int} {payload : List UInt8} (h : HoldsAbove limit payload) :
    ∃ e, decode limit payload = .error e ∧ e.fault.kind = .outOfRange :=
  decode_eq_error_iff.2 (firstOffence?_of_above h)

/-! ## Sources -/

/-- A payload read from a source is one that is accepted. -/
theorem exists_decode_of_read {limit length : Int} {s : Source} {oid : Oid} {n : Nat}
    (h : (read limit length s).outcome = .ok (oid, n)) : ∃ payload, decode limit payload = .ok oid := by
  unfold read at h
  split at h
  · cases h
  · obtain ⟨payload, -, htaken⟩ := Reading.andThen_eq_ok_iff.1 h
    unfold decodeTaken at htaken
    split at htaken
    · rename_i oid' hdecode
      cases htaken
      exact ⟨payload, hdecode⟩
    · cases htaken

end Payload

/-- The payload of a frame read from a source is one that is accepted. -/
theorem Frame.exists_decode_of_read {limit : Int} {s : Source} {oid : Oid} {n : Nat}
    (h : (read limit s).outcome = .ok (oid, n)) : ∃ payload, Payload.decode limit payload = .ok oid := by
  obtain ⟨header, -, hbehind⟩ := Reading.andThen_eq_ok_iff.1 h
  split at hbehind
  · cases hbehind
  · obtain ⟨⟨oid', m⟩, hread, heq⟩ := map_eq_ok_iff.1 hbehind
    cases heq
    exact Payload.exists_decode_of_read (mapError_eq_ok_iff.1 hread)

/-- Whatever decoder gives an object identifier, it comes from a payload that is accepted. -/
theorem Decoded.exists_decode {limit : Int} {oid : Oid} (h : Decoded limit oid) :
    ∃ payload, Payload.decode limit payload = .ok oid := by
  cases h with
  | payload h => exact ⟨_, h⟩
  | taken h => exact Payload.exists_decode_of_read h
  | frame h => exact Frame.exists_decode_of_read h
  | memory h =>
    obtain ⟨⟨oid', consumed⟩, hread, hbehind⟩ := Reading.andThen_eq_ok_iff.1 h
    simp only at hbehind
    split at hbehind
    · cases hbehind
    · cases hbehind
      exact Frame.exists_decode_of_read hread

/-- What is decoded is within the limit. -/
theorem Decoded.isWithin {limit : Int} {oid : Oid} (h : Decoded limit oid) : oid.IsWithin limit := by
  obtain ⟨payload, hdecode⟩ := h.exists_decode
  exact Payload.isWithin_of_decode hdecode

/-! ## Refusals -/

/-- The outcome is a refusal that a value out of range caused. -/
def IsOutOfRange {α : Type} (outcome : Except DecodeError α) : Prop := ∃ e, outcome = .error e ∧ e.fault.kind = .outOfRange

/-- A payload that holds an arc above the limit is refused for a value out of range when it is read from a source. -/
theorem Payload.read_of_holdsAbove {limit : Int} {payload rest : List UInt8} {last : List Piece} {s : Source}
    (h : HoldsAbove limit payload) (hs : s.Delivers (payload ++ rest) last) :
    IsOutOfRange (read limit payload.length s).outcome := by
  obtain ⟨e, hdecode, hkind⟩ := decode_of_holdsAbove h
  have hne : payload ≠ [] := by
    rintro rfl
    obtain ⟨arc, harc, -⟩ := h
    cases harc
  rw [(read_yields limit hs).outcome_eq, answer, if_neg hne, hdecode]
  exact ⟨e, rfl, hkind⟩

/-- A frame whose payload holds an arc above the limit is refused for a value out of range when it is read from a source. -/
theorem Frame.read_of_holdsAbove {limit : Int} {f : WireFrame} {rest : List UInt8} {last : List Piece} {s : Source}
    (h : Payload.HoldsAbove limit f.payload) (hs : s.Delivers (f.bytes ++ rest) last) :
    IsOutOfRange (read limit s).outcome := by
  obtain ⟨e, hdecode, hkind⟩ := Payload.decode_of_holdsAbove h
  have hanswered := f.answered limit
  unfold WireFrame.Answered at hanswered
  rw [hdecode] at hanswered
  obtain ⟨e', hanswer, hkind', -, -⟩ := hanswered
  rw [(read_yields limit f hs).outcome_eq]
  exact ⟨e', hanswer, hkind'.trans hkind⟩

/-- A frame in memory whose payload holds an arc above the limit is refused for a value out of range. -/
theorem Frame.decode_of_holdsAbove {limit : Int} {f : WireFrame} (h : Payload.HoldsAbove limit f.payload) :
    IsOutOfRange (decode limit f.bytes).outcome := by
  obtain ⟨e, hdecode, hkind⟩ := Payload.decode_of_holdsAbove h
  have hframe := decode_bytes limit f
  rw [hdecode] at hframe
  obtain ⟨e', he', hpair⟩ := mapError_eq_error_iff.1 hframe
  obtain ⟨hkind', -⟩ := Prod.mk.inj hpair
  exact ⟨e', he', hkind'.trans hkind⟩

/-! ## Bounds -/

/-- Root 2 with a second arc of zero is decoded under every limit that is not negative. -/
theorem Payload.decode_jointRoot {limit : Int} (h : 0 ≤ limit) : decode limit [0x50] = .ok [2, 0] := by
  have hcut : Base128.cut [0x50] = ([[0x50]], []) := by decide
  have hvalue : Base128.value [0x50] = 80 := by decide
  rw [decode_eq_ok_iff, items, firstOffence?_eq_none_iff, hcut]
  refine ⟨⟨[0x50], [], rfl, rfl, ?_, ?_, by simp⟩, by decide⟩
  · rw [hvalue]
    omega
  · rw [hvalue]
    exact h

/-- The limit bounds the arcs. All arcs behind the first are within it, whichever decoder gives the object identifier; an input that
holds one above it, in a payload or a frame, in memory or delivered by a source, is refused for a value out of range. The first arc is
at most two, so the limit bounds every arc, the first included, exactly when it is neither zero nor one. -/
theorem limit_bounds_arcs_iff (limit : Int) :
    ((∀ oid, Decoded limit oid → ∀ arc ∈ oid, (arc : Int) ≤ limit) ↔ limit ≠ 0 ∧ limit ≠ 1) ∧
    (∀ oid, Decoded limit oid → oid.IsWithin limit) ∧
    ∀ payload, Payload.HoldsAbove limit payload →
      IsOutOfRange (Payload.decode limit payload) ∧
      (∀ s rest last, s.Delivers (payload ++ rest) last → IsOutOfRange (Payload.read limit payload.length s).outcome) ∧
      ∀ f : WireFrame, f.payload = payload →
        IsOutOfRange (Frame.decode limit f.bytes).outcome ∧
        ∀ s rest last, s.Delivers (f.bytes ++ rest) last → IsOutOfRange (Frame.read limit s).outcome := by
  refine ⟨⟨fun hbound => ?_, fun hlimit oid h => ?_⟩, fun oid h => h.isWithin, fun payload h => ?_⟩
  · by_contra hlow
    have hzero : 0 ≤ limit := by omega
    have := hbound _ (.payload (Payload.decode_jointRoot hzero)) 2 List.mem_cons_self
    omega
  · obtain ⟨hfirst, hne, htail⟩ := h.isWithin
    cases oid with
    | nil => exact absurd rfl hne
    | cons first rest =>
      obtain ⟨second, others, rfl⟩ := List.exists_cons_of_ne_nil hne
      -- the second arc is a number, so a limit that it is within is not negative
      have hsecond := htail second List.mem_cons_self
      have hle := hfirst first rfl
      refine List.forall_mem_cons.2 ⟨?_, htail⟩
      omega
  · refine ⟨Payload.decode_of_holdsAbove h, fun s rest last hs => Payload.read_of_holdsAbove h hs, ?_⟩
    rintro f rfl
    exact ⟨Frame.decode_of_holdsAbove h, fun s rest last hs => Frame.read_of_holdsAbove h hs⟩

/-- A limit of zero does not keep the first arc from being two. -/
theorem decoded_above_limit : ¬∀ (limit : Int) oid, 0 ≤ limit → Decoded limit oid → ∀ arc ∈ oid, (arc : Int) ≤ limit := by
  intro hbound
  have htwo := hbound 0 [2, 0] (by decide) (.payload (Payload.decode_jointRoot (by decide))) 2 List.mem_cons_self
  exact absurd htwo (by decide)

end BerOid
