import BerOid.Proofs.ArcBound
import BerOid.Proofs.Canonical

/-!
# Lowering the limit

Reading a frame does the same under every limit until it has taken the payload: either it is refused before that, and the limit
has no say (`Frame.read_cases`), or the source brings a payload, and the limit has a say only in what this is decoded to
(`Frame.Brings.read_spec`). A payload that is accepted under one limit is accepted under another exactly when its object identifier
is within that but for the first arc (`Payload.decode_eq_ok_iff_of_decode`). So a lower limit only ever refuses more, asks the source
for the same and leaves it in the same state (`Frame.lower_limit_only_refuses`).
-/

namespace BerOid

namespace Payload

open Base128

/-! ## Payloads -/

/-- An accepted payload holds the arcs of its object identifier, so it holds one above a limit exactly when that has it behind its
first. -/
theorem holdsAbove_iff_of_decode {limit limit' : Int} {payload : List UInt8} {oid : Oid}
    (h : decode limit' payload = .ok oid) :
    HoldsAbove limit payload ↔ ¬∀ arc ∈ oid.tail, (arc : Int) ≤ limit := by
  obtain ⟨-, rfl⟩ := decode_eq_ok_iff.1 h
  simp [HoldsAbove]

/-- What is accepted under some limit is accepted under another exactly when all arcs but the first are within that. -/
theorem decode_eq_ok_iff_of_decode {limit limit' : Int} {payload : List UInt8} {oid : Oid}
    (h : decode limit' payload = .ok oid) :
    decode limit payload = .ok oid ↔ ∀ arc ∈ oid.tail, (arc : Int) ≤ limit := by
  constructor
  · intro hok
    exact (isWithin_of_decode hok).tail_le
  · intro hwithin
    obtain ⟨hnone, rfl⟩ := decode_eq_ok_iff.1 h
    obtain ⟨root, others, hgroups, hrun, -, -, -⟩ := firstOffence?_eq_none_iff.1 hnone
    rw [hgroups] at hwithin
    simp only [arcsOf, List.tail_cons, List.forall_mem_cons] at hwithin
    obtain ⟨hsecond, hothers⟩ := hwithin
    refine decode_eq_ok_iff.2 ⟨firstOffence?_eq_none_iff.2 ⟨root, others, hgroups, hrun, ?_, hsecond, ?_⟩, rfl⟩
    · -- the first arc is at most two, so the number of both is at most 80 above the second
      have hfirst := rootArcs_fst_le (value root)
      have hmerged := (rootArcs_spec (value root)).2
      omega
    · intro g hg
      exact hothers _ (List.mem_map_of_mem hg)

end Payload

/-! ## Frames up to the payload -/

namespace Frame

/-- The source brings a payload: it has the header of an object identifier with a length that is not zero, and the bytes gathered
behind it are the payload. -/
structure Brings (s : Source) (header : Header) (payload : List UInt8) : Prop where
  read_header : (Header.read s).outcome = .ok header
  tag_eq : header.tag.toNat = oidTag
  length_pos : 0 < header.length
  gathered : ((Header.read s).rest.gather header.length).outcome = .ok payload

/-- The limit decides on the payload that the source brings and on nothing else: the outcome is that of decoding it, and neither the
requests nor the source that is left depend on the limit. -/
theorem Brings.read_spec {s : Source} {header : Header} {payload : List UInt8} (h : Brings s header payload) (limit : Int) :
    (read limit s).outcome =
        ((Payload.decode limit payload).mapError (·.after header.size)).map (·, header.size + header.length) ∧
      (read limit s).requests = (Header.read s).requests ++ ((Header.read s).rest.gather header.length).requests ∧
      (read limit s).rest = ((Header.read s).rest.gather header.length).rest := by
  obtain ⟨hheader, htag, hpos, hgathered⟩ := h
  have hlength : ¬(header.length : Int) ≤ 0 := by omega
  simp only [read, Reading.andThen, hheader, htag, ne_eq, not_true_eq_false, if_false, Payload.read, hlength, hgathered,
    Payload.decodeTaken]
  cases Payload.decode limit payload with
  | ok oid => simp [Reading.map, Reading.after, Reading.done, Except.map, Except.mapError]
  | error e => simp [Reading.map, Reading.after, Except.map, Except.mapError]

/-- Reading a frame comes to a payload, or it is refused before that and does the same under every limit. -/
theorem read_cases (s : Source) :
    (∃ header payload, Brings s header payload) ∨
      ∃ e, ∀ limit limit', (read limit s).outcome = .error e ∧ read limit s = read limit' s := by
  cases hheader : (Header.read s).outcome with
  | error e =>
    refine .inr ⟨e, fun limit limit' => ?_⟩
    simp [read, Reading.andThen, hheader]
  | ok header =>
    by_cases htag : header.tag.toNat = oidTag
    · by_cases hpos : 0 < header.length
      · cases hgathered : ((Header.read s).rest.gather header.length).outcome with
        | error e =>
          have hlength : ¬header.length = 0 := by omega
          refine .inr ⟨e.after header.size, fun limit limit' => ?_⟩
          simp [read, Reading.andThen, hheader, htag, Payload.read, hlength, hgathered, Reading.map, Reading.after, Except.map,
            Except.mapError]
        | ok payload => exact .inl ⟨header, payload, hheader, htag, hpos, hgathered⟩
      · have hlength : header.length = 0 := by omega
        refine .inr ⟨DecodeError.after header.size ⟨.lengthNotPositive 0, 0⟩, fun limit limit' => ?_⟩
        simp [read, Reading.andThen, hheader, htag, Payload.read, hlength, Reading.fail, Reading.map, Reading.after, Except.map,
          Except.mapError]
    · refine .inr ⟨⟨.foreignTag header.tag, header.size⟩, fun limit limit' => ?_⟩
      simp [read, Reading.andThen, hheader, htag, Reading.fail]

/-- The result is what the payload that the source brings is decoded to, and counts the frame. -/
theorem Brings.outcome_eq_ok_iff {s : Source} {header : Header} {payload : List UInt8} (h : Brings s header payload)
    {limit : Int} {oid : Oid} {n : Nat} :
    (read limit s).outcome = .ok (oid, n) ↔ Payload.decode limit payload = .ok oid ∧ header.size + header.length = n := by
  rw [(h.read_spec limit).1, map_eq_ok_iff]
  simp [mapError_eq_ok_iff]

/-- A refusal is that of decoding the payload that the source brings, and counts the header. -/
theorem Brings.outcome_eq_error_iff {s : Source} {header : Header} {payload : List UInt8} (h : Brings s header payload)
    {limit : Int} {e : DecodeError} :
    (read limit s).outcome = .error e ↔ ∃ e', Payload.decode limit payload = .error e' ∧ e'.after header.size = e := by
  rw [(h.read_spec limit).1, map_eq_error_iff, mapError_eq_error_iff]

/-! ## Two limits -/

/-- The outcome is a refusal for a value above the limit, or above the bound of 80 more that the number of the first two arcs has. It
is raised as out of range if the value and what it is above have a text; else the complaint about their digits takes its place. -/
def IsAboveLimit {α : Type} (limit : Int) (outcome : Except DecodeError α) : Prop :=
  ∃ e v cap, outcome = .error e ∧ e.fault = .arcAboveLimit v cap ∧ cap < v ∧ (cap = 80 + limit ∨ cap = limit) ∧
    e.fault.raised = if isShowable v ∧ isShowable cap then .outOfRange else .unshowable

/-- Of what is read under some limit, another accepts the object identifiers with all arcs but the first within it, and refuses all
others for a value above it. -/
theorem read_of_ok {limit limit' : Int} {s : Source} {oid : Oid} {n : Nat} (h : (read limit' s).outcome = .ok (oid, n)) :
    if ∀ arc ∈ oid.tail, (arc : Int) ≤ limit then (read limit s).outcome = .ok (oid, n)
    else IsAboveLimit limit (read limit s).outcome := by
  rcases read_cases s with ⟨header, payload, hbrings⟩ | ⟨e, hrefused⟩
  · obtain ⟨hdecode, hn⟩ := hbrings.outcome_eq_ok_iff.1 h
    split
    · rename_i hwithin
      exact hbrings.outcome_eq_ok_iff.2 ⟨(Payload.decode_eq_ok_iff_of_decode hdecode).2 hwithin, hn⟩
    · rename_i habove
      obtain ⟨e, he, hkind⟩ := Payload.decode_of_holdsAbove ((Payload.holdsAbove_iff_of_decode hdecode).2 habove)
      rcases (Payload.reports_of_decode he).raised with ⟨hmalformed, -⟩ | ⟨-, v, cap, hfault, hv, hcap, hraised⟩
      · rw [hmalformed] at hkind
        cases hkind
      · exact ⟨_, v, cap, hbrings.outcome_eq_error_iff.2 ⟨e, he, rfl⟩, hfault, hv, hcap, hraised⟩
  · rw [(hrefused limit' limit).1] at h
    cases h

/-- What is read under a limit is read under every higher one. -/
theorem read_of_le {limit limit' : Int} (hle : limit ≤ limit') {s : Source} {oid : Oid} {n : Nat}
    (h : (read limit s).outcome = .ok (oid, n)) : (read limit' s).outcome = .ok (oid, n) := by
  have hwithin : ∀ arc ∈ oid.tail, (arc : Int) ≤ limit' := by
    intro arc harc
    have := (Decoded.frame h).isWithin.tail_le arc harc
    omega
  have hread : if ∀ arc ∈ oid.tail, (arc : Int) ≤ limit' then _ else _ := read_of_ok h
  rwa [if_pos hwithin] at hread

/-- Whatever the limit, the source is asked for the same and left in the same state. -/
theorem read_source_eq (limit limit' : Int) (s : Source) :
    (read limit s).requests = (read limit' s).requests ∧ (read limit s).rest = (read limit' s).rest := by
  rcases read_cases s with ⟨header, payload, hbrings⟩ | ⟨e, hrefused⟩
  · obtain ⟨-, hrequests, hrest⟩ := hbrings.read_spec limit
    obtain ⟨-, hrequests', hrest'⟩ := hbrings.read_spec limit'
    exact ⟨hrequests.trans hrequests'.symm, hrest.trans hrest'.symm⟩
  · rw [(hrefused limit limit').2]
    exact ⟨rfl, rfl⟩

/-- A lower limit only ever refuses more. Whatever the source, it is asked for the same and left in the same state under both
limits. What is read under the lower limit is read under the higher one; of what is read under the higher one, the lower limit
accepts what has all arcs but the first within it and refuses the rest for a value above it; and what the higher one refuses, the
lower one refuses. A refusal is that of decoding the payload that the source brings or, where it brings none, the same under both. -/
theorem lower_limit_only_refuses {limit limit' : Int} (hle : limit ≤ limit') (s : Source) :
    ((read limit s).requests = (read limit' s).requests ∧ (read limit s).rest = (read limit' s).rest) ∧
    (∀ oid n, (read limit s).outcome = .ok (oid, n) → (read limit' s).outcome = .ok (oid, n)) ∧
    (∀ oid n, (read limit' s).outcome = .ok (oid, n) →
      if ∀ arc ∈ oid.tail, (arc : Int) ≤ limit then (read limit s).outcome = .ok (oid, n)
      else IsAboveLimit limit (read limit s).outcome) ∧
    (∀ e', (read limit' s).outcome = .error e' → ∃ e, (read limit s).outcome = .error e) ∧
    (∀ header payload, Brings s header payload → ∀ cap e, (read cap s).outcome = .error e →
      ∃ e', Payload.decode cap payload = .error e' ∧ e'.after header.size = e) ∧
    ((¬∃ header payload, Brings s header payload) →
      ∃ e, (read limit s).outcome = .error e ∧ read limit s = read limit' s) := by
  refine ⟨read_source_eq limit limit' s, fun oid n h => read_of_le hle h, fun oid n h => read_of_ok h, ?_, ?_, ?_⟩
  · intro e' he'
    cases hlower : (read limit s).outcome with
    | error e => exact ⟨e, rfl⟩
    | ok r =>
      rw [read_of_le hle hlower] at he'
      cases he'
  · intro header payload hbrings cap e he
    exact hbrings.outcome_eq_error_iff.1 he
  · intro hnone
    rcases read_cases s with hbrings | ⟨e, hrefused⟩
    · exact absurd hbrings hnone
    · exact ⟨e, hrefused limit limit'⟩

/-- A frame of 1.3.6.300 in two pieces, answered two bytes at a time, and a byte behind it. -/
def wideArcSource : Source := { pieces := [.bytes [6, 4, 0x2b], .bytes [6, 0x82, 0x2c, 5]], chunk := some 2 }

/-- The frame is read under the limit 300 and refused as out of range under the limit 299, with the same requests. -/
theorem lower_limit_only_refuses_wideArc :
    (299 : Int) ≤ 300 ∧ (read 300 wideArcSource).outcome = .ok ([1, 3, 6, 300], 6) ∧
      IsAboveLimit 299 (read 299 wideArcSource).outcome ∧
      (read 299 wideArcSource).requests = (read 300 wideArcSource).requests := by
  have hle : (299 : Int) ≤ 300 := by decide
  have hread : (read 300 wideArcSource).outcome = .ok ([1, 3, 6, 300], 6) := by cbv
  obtain ⟨⟨hrequests, -⟩, -, hlower, -⟩ := lower_limit_only_refuses hle wideArcSource
  have hrefused := hlower _ _ hread
  rw [if_neg (by decide)] at hrefused
  exact ⟨hle, hread, hrefused, hrequests⟩

/-- What a lower limit refuses of what a higher one accepts is not always raised as out of range: the least number without a text is
accepted under itself as the limit. -/
theorem refused_by_lower_without_wording : ¬∀ (limit limit' : Int) s oid n, limit ≤ limit' →
    (read limit' s).outcome = .ok (oid, n) → (¬∀ arc ∈ oid.tail, (arc : Int) ≤ limit) →
    ∃ e, (read limit s).outcome = .error e ∧ e.fault.raised = .outOfRange := by
  intro hraises
  obtain ⟨f, hf⟩ := exists_unshowableFrame
  have hmemory : (Source.ofBytes f.bytes).Delivers (f.bytes ++ []) [] := by
    rw [List.append_nil]
    exact Source.delivers_ofBytes (List.cons_ne_nil _ _)
  have hhigher := f.answered leastUnshowable
  rw [WireFrame.Answered, hf, Payload.decode_unshowablePayload_self] at hhigher
  have hread := (read_yields leastUnshowable f hmemory).outcome_eq.trans hhigher
  have habove : ¬∀ arc ∈ List.tail [1, 3, leastUnshowable], (arc : Int) ≤ leastUnshowable - 1 := by
    intro hwithin
    have := hwithin leastUnshowable (List.mem_cons_of_mem _ List.mem_cons_self)
    omega
  obtain ⟨e, he, hraised⟩ := hraises (leastUnshowable - 1) leastUnshowable _ _ _ (by omega) hread habove
  obtain ⟨e', he', hunshowable⟩ := Payload.decode_unshowablePayload
  have hlower := f.answered (leastUnshowable - 1)
  rw [WireFrame.Answered, hf, he'] at hlower
  obtain ⟨e'', he'', -, hsame, -⟩ := hlower
  rw [(read_yields _ f hmemory).outcome_eq, he'', Except.error.injEq] at he
  rw [← he, hsame, hunshowable] at hraised
  cases hraised

end Frame

end BerOid
