import BerOid.Proofs.Accounting
import BerOid.Proofs.SelfDelimiting

/-!
# The first group above the limit

The reader of a subidentifier compares its value with the limit after every group, so it never holds a value of more than one group
beyond the limit. It refuses a value out of range exactly when a front of the bytes, within the first subidentifier, has a value
above the limit, and reports the value of the shortest such front (`decode_eq_aboveLimit_iff`). Of a payload there are three places
where a value out of range arises: the number that stands for the first two arcs, the second of these, and the number of a later arc
(`Payload.overflows_of_decode`). Each reports a value above the limit that holds there, and less than 128 times as great
(`overflow_caught_at_once`). Under a limit within the greatest arc these values all have a text, so every refusal of a payload or a
frame tells the bytes that it counts (`Payload.read_tells`, `Frame.decode_tells`).
-/

namespace BerOid

namespace Base128

/-! ## The shortest front above a limit -/

/-- The front is the shortest one of the bytes whose value is above the limit, and does not go beyond their first subidentifier. -/
structure IsFirstAbove (limit : Int) (bytes front : List UInt8) : Prop where
  isPrefix : front <+: bytes
  isOpen_dropLast : IsOpen front.dropLast
  above : limit < value front
  shortest : ∀ g, g <+: bytes → limit < value g → front.length ≤ g.length

/-- A longer front has no smaller value. -/
theorem value_le_of_prefix {front bytes : List UInt8} (h : front <+: bytes) : value front ≤ value bytes := by
  obtain ⟨rest, rfl⟩ := h
  rw [value, value, valueFrom_append]
  exact le_valueFrom _ _

/-- The group with which a run of continuing bytes first passes the limit ends the shortest front above the limit. -/
theorem isFirstAbove_append {limit : Int} {run rest : List UInt8} {b : UInt8} (hrun : IsOpen run)
    (hwithin : (value run : Int) ≤ limit) (habove : limit < value (run ++ [b])) :
    IsFirstAbove limit (run ++ b :: rest) (run ++ [b]) := by
  refine ⟨⟨rest, by simp⟩, by simpa using hrun, habove, ?_⟩
  intro g hg hv
  -- a shorter front would be one of the run, whose value is within the limit
  by_contra hshort
  rw [List.length_append, List.length_singleton] at hshort
  have hprefix : g <+: run := List.prefix_of_prefix_length_le hg (List.prefix_append run _) (by omega)
  have hle := value_le_of_prefix hprefix
  omega

/-- Under a limit that is not negative the shortest front above it is a run within the limit and one more group. -/
theorem IsFirstAbove.exists_append {limit : Int} {bytes front : List UInt8} (hlimit : 0 ≤ limit)
    (h : IsFirstAbove limit bytes front) :
    ∃ run b rest, front = run ++ [b] ∧ bytes = run ++ b :: rest ∧ IsOpen run ∧ (value run : Int) ≤ limit := by
  obtain ⟨⟨rest, hbytes⟩, hopen, habove, hshortest⟩ := h
  rcases List.eq_nil_or_concat front with rfl | ⟨run, b, rfl⟩
  · simp only [value, valueFrom_nil] at habove
    omega
  · rw [List.concat_eq_append] at hbytes hopen habove hshortest ⊢
    rw [List.dropLast_concat] at hopen
    refine ⟨run, b, rest, rfl, by simp [← hbytes], hopen, ?_⟩
    by_contra hv
    have hlength := hshortest run ⟨b :: rest, by simp [← hbytes]⟩ (by omega)
    simp at hlength

/-- One more group multiplies a value within the limit by 128 at most. -/
theorem IsFirstAbove.value_lt {limit : Int} {bytes front : List UInt8} (hlimit : 0 ≤ limit)
    (h : IsFirstAbove limit bytes front) : (value front : Int) < 128 * (limit + 1) := by
  obtain ⟨run, b, rest, rfl, -, -, hwithin⟩ := h.exists_append hlimit
  rw [value_append_singleton]
  omega

/-! ## The reader at the limit -/

/-- The reader refuses a value out of range at the group with which a run first passes the limit. -/
theorem exists_run_of_decodeFrom {limit l : Int} {acc v : Nat} {bytes : List UInt8} (hacc : (acc : Int) ≤ limit)
    (h : decodeFrom (some limit) acc bytes = .error (.aboveLimit v l)) :
    l = limit ∧ ∃ run b rest, bytes = run ++ b :: rest ∧ IsOpen run ∧ (valueFrom acc run : Int) ≤ limit ∧
      limit < valueFrom acc (run ++ [b]) ∧ valueFrom acc (run ++ [b]) = v := by
  induction bytes generalizing acc with
  | nil => simp [decodeFrom] at h
  | cons b tail ih =>
    by_cases habove : limit < ((128 * acc + b.toNat % 128 : Nat) : Int)
    · rw [decodeFrom_cons_of_above habove] at h
      cases h
      exact ⟨rfl, [], b, tail, rfl, isOpen_nil, hacc, habove, rfl⟩
    · rw [decodeFrom_cons_of_allows (allows_some.2 (by omega))] at h
      split at h
      · cases h
      · obtain ⟨hl, run, c, rest, hbytes, hrun, hwithin, hpassed, hv⟩ := ih (by omega) h
        exact ⟨hl, b :: run, c, rest, by rw [hbytes]; rfl, isOpen_cons.2 ⟨by omega, hrun⟩, hwithin, hpassed, hv⟩

/-- The reader refuses a value out of range exactly when a front of the first subidentifier is above the limit, and then reports the
value of the shortest one. -/
theorem decode_eq_aboveLimit_iff {limit l : Int} {v : Nat} {bytes : List UInt8} (hlimit : 0 ≤ limit) :
    decode (some limit) bytes = .error (.aboveLimit v l) ↔
      l = limit ∧ ∃ front, IsFirstAbove limit bytes front ∧ value front = v := by
  constructor
  · intro h
    obtain ⟨hl, run, b, rest, rfl, hrun, hwithin, habove, hv⟩ := exists_run_of_decodeFrom hlimit h
    exact ⟨hl, run ++ [b], isFirstAbove_append hrun hwithin habove, hv⟩
  · rintro ⟨rfl, front, hfront, rfl⟩
    have habove := hfront.above
    obtain ⟨run, b, rest, rfl, rfl, hrun, hwithin⟩ := hfront.exists_append hlimit
    rw [value_append_singleton] at habove ⊢
    rw [decode, decodeFrom_open_append hrun (allows_some.2 hwithin)]
    exact decodeFrom_cons_of_above habove

/-- A value out of range is above the limit and less than 128 times as great. -/
theorem bounds_of_decode {limit l : Int} {v : Nat} {bytes : List UInt8} (hlimit : 0 ≤ limit)
    (h : decode (some limit) bytes = .error (.aboveLimit v l)) : l = limit ∧ limit < v ∧ (v : Int) < 128 * (limit + 1) := by
  obtain ⟨hl, front, hfront, rfl⟩ := (decode_eq_aboveLimit_iff hlimit).1 h
  exact ⟨hl, hfront.above, hfront.value_lt hlimit⟩

/-- A fault of a subidentifier is a value out of range in the buffer exactly when it is one itself. -/
theorem inBuffer_eq_aboveLimit_iff {offset limit : Int} {size v n : Nat} {fault : Fault} :
    fault.inBuffer offset size = ⟨.arcAboveLimit v limit, n⟩ ↔ fault = .aboveLimit v limit ∧ size = n := by
  cases fault <;> simp [Fault.inBuffer]

/-- At an offset of a buffer a value is out of range exactly when it is so for the bytes from there on, and it is reported for the
whole buffer. -/
theorem decodeAt_eq_aboveLimit_iff {limit : Option Int} {data : List UInt8} {offset v n : Nat} {cap : Int} :
    decodeAt limit data offset = .error (.refused ⟨.arcAboveLimit v cap, n⟩) ↔
      decode limit (data.drop offset) = .error (.aboveLimit v cap) ∧ data.length = n := by
  rw [decodeAt_eq_error_iff]
  constructor
  · rintro ⟨fault, hread, heq⟩
    obtain ⟨rfl, hsize⟩ := inBuffer_eq_aboveLimit_iff.1 (OffsetError.refused.inj heq)
    exact ⟨hread, hsize⟩
  · rintro ⟨hread, rfl⟩
    exact ⟨_, hread, rfl⟩

end Base128

namespace Payload

/-! ## The places of a payload -/

/-- A value out of range among remaining arcs is one of a subidentifier under the limit. -/
theorem exists_decode_of_decodeArcs {limit cap : Int} {size v n : Nat} {bytes : List UInt8}
    (h : decodeArcs limit size bytes = .error ⟨.arcAboveLimit v cap, n⟩) :
    ∃ tail, tail <:+ bytes ∧ Base128.decode (some limit) tail = .error (.aboveLimit v cap) := by
  induction hlen : bytes.length using Nat.strongRecOn generalizing bytes with
  | ind k ih =>
    by_cases hne : bytes = []
    · subst hne
      rw [decodeArcs] at h
      cases h
    · cases hd : Base128.decode (some limit) bytes with
      | error fault =>
        rw [decodeArcs_of_error _ hne hd, Except.error.injEq, Base128.inBuffer_eq_aboveLimit_iff] at h
        exact ⟨bytes, List.suffix_refl _, by rw [hd, h.1]⟩
      | ok r =>
        obtain ⟨arc, rest⟩ := r
        rw [decodeArcs_of_ok hd, map_eq_error_iff] at h
        obtain ⟨tail, htail, hrefused⟩ := ih _ (hlen ▸ Base128.length_lt_of_decodeFrom hd) h rfl
        obtain ⟨g, -, hbytes, -⟩ := Base128.exists_isComplete_of_decode hd
        exact ⟨tail, htail.trans ⟨g, hbytes.symm⟩, hrefused⟩

/-- A value of the payload is above the limit that holds where it stands. There are three such places: the number that stands for the
first two arcs, the second of these, and the number of a later arc. -/
inductive Overflows (limit : Int) (payload : List UInt8) : Nat → Int → Prop where
  | root {v : Nat} {cap : Int} : Base128.decode (some (80 + limit)) payload = .error (.aboveLimit v cap) →
      Overflows limit payload v cap
  | secondArc {merged : Nat} {rest : List UInt8} : Base128.decode (some (80 + limit)) payload = .ok (merged, rest) →
      limit < (rootArcs merged).2 → Overflows limit payload (rootArcs merged).2 limit
  | laterArc {v : Nat} {cap : Int} {tail : List UInt8} : tail <:+ payload →
      Base128.decode (some limit) tail = .error (.aboveLimit v cap) → Overflows limit payload v cap

/-- A payload refused for a value out of range has it at one of the three places. -/
theorem overflows_of_decode {limit cap : Int} {payload : List UInt8} {v n : Nat}
    (h : decode limit payload = .error ⟨.arcAboveLimit v cap, n⟩) : Overflows limit payload v cap := by
  by_cases hne : payload = []
  · subst hne
    cases h
  · cases hd : Base128.decode (some (80 + limit)) payload with
    | error fault =>
      rw [decode_of_error hne hd, Except.error.injEq, Base128.inBuffer_eq_aboveLimit_iff] at h
      exact .root (by rw [hd, h.1])
    | ok r =>
      obtain ⟨merged, rest⟩ := r
      rw [decode_of_ok hd] at h
      split at h
      · obtain ⟨tail, htail, hrefused⟩ := exists_decode_of_decodeArcs (map_eq_error_iff.1 h)
        obtain ⟨g, -, hbytes, -⟩ := Base128.exists_isComplete_of_decode hd
        exact .laterArc (htail.trans ⟨g, hbytes.symm⟩) hrefused
      · rename_i hsecond
        cases h
        exact .secondArc hd (by omega)

/-- Wherever it arises, a value out of range is above the limit that holds there and less than 128 times as great. -/
theorem Overflows.bounds {limit cap : Int} {payload : List UInt8} {v : Nat} (hlimit : 0 ≤ limit)
    (h : Overflows limit payload v cap) : (cap = limit ∨ cap = 80 + limit) ∧ cap < v ∧ (v : Int) < 128 * (cap + 1) := by
  cases h with
  | root hread =>
    obtain ⟨rfl, habove, hbelow⟩ := Base128.bounds_of_decode (by omega) hread
    exact ⟨.inr rfl, habove, hbelow⟩
  | @secondArc merged rest hread habove =>
    -- the number was allowed, so the second arc is at most 80 above the limit
    obtain ⟨g, -, -, -, hallows⟩ := Base128.decode_eq_ok_iff.1 hread
    have hallowed := Base128.allows_some.1 hallows
    have hle := rootArcs_snd_le merged
    exact ⟨.inl rfl, habove, by omega⟩
  | laterArc _ hread =>
    obtain ⟨rfl, habove, hbelow⟩ := Base128.bounds_of_decode hlimit hread
    exact ⟨.inl rfl, habove, hbelow⟩

end Payload

/-- Overflow is caught at once. Under a limit that is not negative, the subidentifier at an offset of a buffer is refused for a value
out of range exactly when some front of it is above the limit; reported is the exact value of the shortest such front, which is less
than 128 times as great as the limit and one, however many groups follow. So a payload that is refused for a value out of range is
refused with the limit, or with 80 above it for the number of the first two arcs, with a value above that and less than 128 times as
great, and it is counted in full. -/
theorem overflow_caught_at_once {limit : Int} (hlimit : 0 ≤ limit) :
    (∀ (data : List UInt8) (offset v n : Nat) (cap : Int),
      (Base128.decodeAt (some limit) data offset = .error (.refused ⟨.arcAboveLimit v cap, n⟩) ↔
        (cap = limit ∧ ∃ front, Base128.IsFirstAbove limit (data.drop offset) front ∧ Base128.value front = v) ∧
          data.length = n) ∧
      (Base128.decodeAt (some limit) data offset = .error (.refused ⟨.arcAboveLimit v cap, n⟩) →
        limit < v ∧ (v : Int) < 128 * (limit + 1))) ∧
    ∀ (payload : List UInt8) (v n : Nat) (cap : Int), Payload.decode limit payload = .error ⟨.arcAboveLimit v cap, n⟩ →
      (cap = limit ∨ cap = 80 + limit) ∧ cap < v ∧ (v : Int) < 128 * (cap + 1) ∧ n = payload.length := by
  refine ⟨fun data offset v n cap => ⟨?_, fun h => ?_⟩, fun payload v n cap h => ?_⟩
  · rw [Base128.decodeAt_eq_aboveLimit_iff, Base128.decode_eq_aboveLimit_iff hlimit]
  · rw [Base128.decodeAt_eq_aboveLimit_iff] at h
    exact (Base128.bounds_of_decode hlimit h.1).2
  · obtain ⟨hcap, habove, hbelow⟩ := (Payload.overflows_of_decode h).bounds hlimit
    exact ⟨hcap, habove, hbelow, Payload.bytesRead_of_decode h⟩

/-- Under the greatest arc a run of groups of ones is refused at its third group, with the value of three groups, and behind a root
as a payload of its own length. -/
theorem overflow_caught_at_once_longRun :
    (0 : Int) ≤ Oid.maxArc ∧
      Base128.decodeAt (some Oid.maxArc) [0x2b, 0xff, 0xff, 0xff, 0xff, 0xff] 1 =
        .error (.refused ⟨.arcAboveLimit 2097151 Oid.maxArc, 6⟩) ∧
      Payload.decode Oid.maxArc [0x2b, 0xff, 0xff, 0xff, 0xff, 0xff] = .error ⟨.arcAboveLimit 2097151 Oid.maxArc, 6⟩ ∧
      (2097151 : Int) < 128 * (Oid.maxArc + 1) := by
  have hlimit : (0 : Int) ≤ Oid.maxArc := by decide
  have hpayload : Payload.decode Oid.maxArc [0x2b, 0xff, 0xff, 0xff, 0xff, 0xff] =
      .error ⟨.arcAboveLimit 2097151 Oid.maxArc, 6⟩ := by cbv
  obtain ⟨hbuffer, hdecode⟩ := overflow_caught_at_once hlimit
  have hrun : Base128.IsOpen [0xff, 0xff] := by simp [Base128.IsOpen]
  have hfront : Base128.IsFirstAbove Oid.maxArc ([0xff, 0xff] ++ 0xff :: [0xff, 0xff]) ([0xff, 0xff] ++ [0xff]) :=
    Base128.isFirstAbove_append hrun (by decide) (by decide)
  obtain ⟨-, -, hbelow, -⟩ := hdecode _ _ _ _ hpayload
  exact ⟨hlimit, (hbuffer _ 1 _ _ _).1.2 ⟨⟨rfl, _, hfront, by decide⟩, rfl⟩, hpayload, hbelow⟩

/-! ## Limits within the greatest arc -/

namespace Reading

variable {α β : Type} {r : Reading α}

/-- Every refusal of the reading tells the bytes that were taken. -/
def Tells (r : Reading α) : Prop := ∀ e, r.outcome = .error e → e.fault.raised.isCounted

/-- Refusals that are not for a size and for no value out of range tell the bytes that were taken if all that they show has a text. -/
theorem RefusesOnly.tells {kinds : List DecodeKind} (h : r.RefusesOnly kinds [] False) (hsize : .oversized ∉ kinds)
    (hrange : .outOfRange ∉ kinds) : r.Tells := by
  intro e he
  rcases h.raises hsize e he with ⟨-, -, htold⟩ | ⟨-, -, ⟨v, cap, hfault, -⟩ | ⟨n, hn, -⟩⟩ | ⟨-, -, hfalse⟩
  · by_contra hcounted
    rw [DecodeError.told?, if_neg hcounted] at htold
    cases htold
  · have hkind := (h e he).1.resolve_right And.right
    rw [hfault] at hkind
    exact absurd hkind hrange
  · cases hn
  · exact hfalse.elim

theorem Tells.map {f : α → β} (h : r.Tells) : (r.map f).Tells := fun e he => h e (map_eq_error_iff.1 he)

theorem Tells.after {n : Nat} (h : r.Tells) : (r.after n).Tells := by
  intro e' he'
  obtain ⟨e, he, rfl⟩ := mapError_eq_error_iff.1 he'
  exact h e he

theorem Tells.andThen {next : α → Source → Reading β} (h : r.Tells) (hnext : ∀ a, r.outcome = .ok a → (next a r.rest).Tells) :
    (r.andThen next).Tells := by
  intro e he
  unfold Reading.andThen at he
  cases hfirst : r.outcome with
  | error e' =>
    rw [hfirst] at he
    cases he
    exact h e hfirst
  | ok a =>
    rw [hfirst] at he
    exact hnext a hfirst e he

end Reading

section WithinGreatestArc

variable {limit : Int} (hlimit : 0 ≤ limit) (hle : limit ≤ Oid.maxArc)

include hlimit hle

/-- Every refusal of a payload is one that tells its bytes: a value out of range passes the limit by so little that it has a text. -/
theorem Payload.isCounted_of_decode {payload : List UInt8} {e : DecodeError} (h : decode limit payload = .error e) :
    e.fault.raised.isCounted := by
  rcases (reports_of_decode h).raised with ⟨-, hraised⟩ | ⟨-, v, cap, hfault, -, -, hraised⟩
  · rw [hraised]
    rfl
  · obtain ⟨fault, n⟩ := e
    obtain rfl : fault = .arcAboveLimit v cap := hfault
    obtain ⟨hcap, habove, hbelow⟩ := (overflows_of_decode h).bounds hlimit
    have hindex := pow_le_leastUnshowable (k := 19) (by decide)
    simp only [Oid.maxArc] at hle
    have hshown : isShowable v ∧ isShowable cap := by
      rw [isShowable_iff, isShowable_iff]
      omega
    rw [hraised, if_pos hshown]
    rfl

theorem Payload.read_tells {length : Nat} (s : Source) (hlength : length < 2 ^ 63) : (read limit length s).Tells := by
  unfold read
  split
  · rename_i hnone
    rintro _ ⟨rfl⟩
    obtain rfl : length = 0 := by omega
    rfl
  · refine ((Source.gather_refusesOnly_of_lt s hlength).tells (by decide) (by decide)).andThen fun payload _ => ?_
    unfold decodeTaken
    split
    · exact nofun
    · rename_i e he
      rintro _ ⟨rfl⟩
      exact isCounted_of_decode hlimit hle he

/-- Every refusal of a frame in memory tells its bytes. -/
theorem Frame.decode_tells (data : List UInt8) : (decode limit data).Tells := by
  have hframe : (read limit (.ofBytes data)).Tells := by
    refine ((Header.read_refusesOnly _).tells (by decide) (by decide)).andThen fun header hheader => ?_
    split
    · rintro _ ⟨rfl⟩
      rfl
    · have hlength := Header.length_lt_of_read (s := .ofBytes data) rfl hheader
      exact ((Payload.read_tells hlimit hle _ (by omega)).after).map
  refine hframe.andThen fun r _ => ?_
  dsimp only
  split
  · rintro _ ⟨rfl⟩
    rfl
  · exact nofun

end WithinGreatestArc

end BerOid
