import BerOid.Proofs.Framing

/-!
# Writing and reading back

Which sequences of numbers can be written as frames (`Encodable`), and what reading such a frame back gives under any limit
(`decode_ofValue`): the same arcs if all but the first are within the limit, and else a value out of range. The first subidentifier
may reach 80 above the limit, which is just enough for every second arc within the limit, whatever the root.
-/

namespace BerOid

/-! ## What can be written -/

namespace Oid

/-- The first two arcs are a root: below root 2 the second arc stays below 40. -/
def IsRoot (first second : Nat) : Prop := first = 2 ∨ first < 2 ∧ second < 40

/-- The object identifier has two arcs that are a root. -/
def IsRooted (oid : Oid) : Prop := ∃ first second rest, oid = first :: second :: rest ∧ IsRoot first second

/-- The object identifier can be written: it begins with a root, and no arc is above the greatest one. -/
structure Encodable (oid : Oid) : Prop where
  isRooted : oid.IsRooted
  within : ∀ arc ∈ oid, arc ≤ maxArc

/-- The subidentifiers that are written for an object identifier. -/
def subidentifiers : Oid → List (List UInt8)
  | first :: second :: rest => Base128.encode (40 * first + second) :: rest.map Base128.encode
  | _ => []

/-- What is written are complete subidentifiers. -/
theorem isComplete_of_mem_subidentifiers {oid : Oid} {g : List UInt8} (h : g ∈ oid.subidentifiers) : Base128.IsComplete g := by
  unfold subidentifiers at h
  split at h
  · rcases List.mem_cons.1 h with rfl | h
    · exact Base128.isComplete_encode _
    · obtain ⟨arc, -, rfl⟩ := List.mem_map.1 h
      exact Base128.isComplete_encode _
  · cases h

/-- The integers tell the arcs. -/
theorem toInts_injective {oid oid' : Oid} (h : oid.toInts = oid'.toInts) : oid = oid' := by
  have hback := congrArg (List.map Int.toNat) h
  simpa [toInts, Function.comp_def] using hback

/-- One number of a list is admitted exactly when it is an arc. -/
theorem arcOfValue_integer {n : Int} {arc : Nat} : arcOfValue (.integer n) = .ok arc ↔ n = arc ∧ arc ≤ maxArc := by
  simp only [arcOfValue]
  by_cases h : 0 ≤ n ∧ n ≤ maxArc
  · rw [if_pos h, Except.ok.injEq]
    omega
  · rw [if_neg h]
    simp only [reduceCtorEq, false_iff]
    omega

/-- An item of a list is admitted exactly when it is an integer that is an arc. -/
theorem arcOfValue_eq_ok_iff {item : Value} {arc : Nat} : arcOfValue item = .ok arc ↔ item = .integer arc ∧ arc ≤ maxArc := by
  cases item with
  | integer n => rw [arcOfValue_integer, Value.integer.injEq]
  | _ => simp [arcOfValue]

/-- Items are all admitted exactly when they are arcs. -/
theorem mapM_arcOfValue_eq_ok_iff {items : List Value} {oid : Oid} :
    items.mapM arcOfValue = .ok oid ↔ items = oid.toInts.map .integer ∧ ∀ arc ∈ oid, arc ≤ maxArc := by
  rw [mapM_eq_ok_iff]
  constructor
  · intro h
    induction h with
    | nil => exact ⟨rfl, nofun⟩
    | cons hitem _ ih =>
      obtain ⟨rfl, hle⟩ := arcOfValue_eq_ok_iff.1 hitem
      obtain ⟨rfl, hall⟩ := ih
      exact ⟨rfl, List.forall_mem_cons.2 ⟨hle, hall⟩⟩
  · rintro ⟨rfl, hall⟩
    rw [toInts, List.map_map, List.forall₂_map_left_iff, List.forall₂_same]
    exact fun arc harc => arcOfValue_eq_ok_iff.2 ⟨rfl, hall arc harc⟩

/-- A list of numbers is admitted exactly when the numbers are arcs, and stands for these arcs. -/
theorem ofValue_integers {arcs : List Int} {oid : Oid} :
    ofValue (.list (arcs.map .integer)) = .ok oid ↔ arcs = oid.toInts ∧ ∀ arc ∈ oid, arc ≤ maxArc := by
  have hinj : Function.Injective (List.map Value.integer) :=
    List.map_injective_iff.2 fun _ _ h => Value.integer.inj h
  rw [ofValue, mapM_arcOfValue_eq_ok_iff, hinj.eq_iff]

end Oid

/-! ## Payloads -/

namespace Payload

/-- A root has no fault, unless encoding is strict and it is another than the one that is then taken. -/
theorem rootFault?_eq_none_iff {strict : Bool} {first second : Nat} {oid : Oid} :
    rootFault? strict first second oid = none ↔
      Oid.IsRoot first second ∧ (strict = true → [first, second] = strictRoot) := by
  unfold rootFault? Oid.IsRoot
  cases strict with
  | true =>
    by_cases h : [first, second] = strictRoot
    · obtain ⟨rfl, rfl⟩ : first = 1 ∧ second = 3 := by simpa [strictRoot] using h
      simp [strictRoot]
    · simp [h]
  | false =>
    simp only [Bool.false_eq_true, if_false, false_implies, and_true]
    by_cases hfirst : 2 < first
    · simp only [if_pos hfirst, reduceCtorEq, false_iff]
      omega
    · rw [if_neg hfirst]
      by_cases hsecond : first < 2 ∧ 40 ≤ second
      · simp only [if_pos hsecond, reduceCtorEq, false_iff]
        omega
      · simp only [if_neg hsecond, true_iff]
        omega

/-- What is written for a root is read as this root. -/
theorem rootArcs_merged {first second : Nat} (h : Oid.IsRoot first second) : rootArcs (40 * first + second) = (first, second) := by
  unfold rootArcs
  rcases h with rfl | ⟨hfirst, hsecond⟩
  · rw [if_neg (by omega), if_neg (by omega), Prod.mk.injEq]
    omega
  · by_cases hzero : first = 0
    · subst hzero
      rw [if_pos (by omega), Prod.mk.injEq]
      omega
    · rw [if_neg (by omega), if_pos (by omega), Prod.mk.injEq]
      omega

/-- An object identifier has a payload exactly when it begins with a root, and with strict encoding the one that is then taken. -/
theorem encode_eq_ok_iff {strict : Bool} {oid : Oid} {payload : List UInt8} :
    encode strict oid = .ok payload ↔
      oid.IsRooted ∧ (strict = true → strictRoot <+: oid) ∧ payload = oid.subidentifiers.flatten := by
  unfold encode Oid.IsRooted
  split
  · rename_i first second rest
    have hbegins : strictRoot <+: first :: second :: rest ↔ [first, second] = strictRoot := by
      simp [strictRoot, List.cons_prefix_cons, eq_comm]
    have hwritten : Base128.encode (40 * first + second) ++ rest.flatMap Base128.encode =
        (Oid.subidentifiers (first :: second :: rest)).flatten := by
      rw [Oid.subidentifiers, List.flatten_cons, List.flatMap_def]
    rw [hbegins, ← hwritten]
    constructor
    · intro h
      split at h
      · cases h
      · rename_i hfault
        obtain ⟨hroot, hstrict⟩ := rootFault?_eq_none_iff.1 hfault
        exact ⟨⟨first, second, rest, rfl, hroot⟩, hstrict, (Except.ok.inj h).symm⟩
    · rintro ⟨⟨_, _, _, heq, hroot⟩, hstrict, rfl⟩
      cases heq
      rw [rootFault?_eq_none_iff.2 ⟨hroot, hstrict⟩]
  · rename_i hshort
    simp only [reduceCtorEq, false_iff]
    rintro ⟨⟨first, second, rest, rfl, -⟩, -⟩
    exact hshort first second rest rfl

/-- A value has a payload exactly when it stands for an object identifier that has it. -/
theorem ofValue_eq_ok_iff {strict : Bool} {v : Value} {payload : List UInt8} :
    ofValue strict v = .ok payload ↔ ∃ oid, Oid.ofValue v = .ok oid ∧ encode strict oid = .ok payload := by
  unfold ofValue
  cases Oid.ofValue v <;> simp

/-- Strict encoding does not change what is written. -/
theorem ofValue_lenient {strict : Bool} {v : Value} {payload : List UInt8} (h : ofValue strict v = .ok payload) :
    ofValue false v = .ok payload := by
  obtain ⟨oid, hadmitted, hencode⟩ := ofValue_eq_ok_iff.1 h
  obtain ⟨hrooted, -, hpayload⟩ := encode_eq_ok_iff.1 hencode
  exact ofValue_eq_ok_iff.2 ⟨oid, hadmitted, encode_eq_ok_iff.2 ⟨hrooted, nofun, hpayload⟩⟩

/-- What is written for an object identifier is read as its arcs. -/
theorem arcsOf_subidentifiers {oid : Oid} (h : oid.IsRooted) : arcsOf oid.subidentifiers = oid := by
  obtain ⟨first, second, rest, rfl, hroot⟩ := h
  simp [Oid.subidentifiers, arcsOf, rootArcs_merged hroot, Function.comp_def]

/-- What is written has no offence exactly when all arcs but the first are within the limit. -/
theorem firstOffence?_subidentifiers_eq_none_iff (limit : Int) {oid : Oid} (h : oid.IsRooted) :
    firstOffence? limit (itemsOf oid.subidentifiers []) = none ↔ ∀ arc ∈ oid.tail, (arc : Int) ≤ limit := by
  obtain ⟨first, second, rest, rfl, hroot⟩ := h
  rw [firstOffence?_eq_none_iff, Oid.subidentifiers, List.tail_cons, List.forall_mem_cons]
  constructor
  · rintro ⟨root, others, hcons, -, -, hsecond, hrest⟩
    obtain ⟨rfl, rfl⟩ := List.cons.inj hcons
    rw [Base128.value_encode, rootArcs_merged hroot] at hsecond
    refine ⟨hsecond, fun arc harc => ?_⟩
    have := hrest _ (List.mem_map_of_mem harc)
    rwa [Base128.value_encode] at this
  · rintro ⟨hsecond, hrest⟩
    refine ⟨_, _, rfl, rfl, ?_, ?_, ?_⟩
    · -- a first arc is at most 2, so the second arc within the limit keeps the number of both within the higher bound
      have hfirst : first ≤ 2 := by
        rcases hroot with rfl | ⟨hlt, -⟩ <;> omega
      rw [Base128.value_encode]
      omega
    · rwa [Base128.value_encode, rootArcs_merged hroot]
    · intro g hg
      obtain ⟨arc, harc, rfl⟩ := List.mem_map.1 hg
      rw [Base128.value_encode]
      exact hrest arc harc

/-- The arcs of an object identifier that can be written, and the number that stands for the first two, are small. -/
theorem value_le_of_mem_subidentifiers {oid : Oid} (h : oid.Encodable) {g : List UInt8} (hg : g ∈ oid.subidentifiers) :
    Base128.value g ≤ 80 + Oid.maxArc := by
  obtain ⟨⟨first, second, rest, rfl, hroot⟩, hwithin⟩ := h
  rcases List.mem_cons.1 hg with rfl | hg
  · have hsecond := hwithin second (by simp)
    have hfirst : first ≤ 2 := by
      rcases hroot with rfl | ⟨hlt, -⟩ <;> omega
    rw [Base128.value_encode]
    omega
  · obtain ⟨arc, harc, rfl⟩ := List.mem_map.1 hg
    have := hwithin arc (List.mem_cons_of_mem _ (List.mem_cons_of_mem _ harc))
    rw [Base128.value_encode]
    omega

/-- A number out of range is raised as such, unless 80 above the limit is a negative number of too many digits to be shown. -/
def rangeKind (limit : Int) : DecodeKind := if -leastUnshowable < 80 + limit then .outOfRange else .unshowable

/-- Of what is written only a value above a limit can be reported, and it is raised by that limit. -/
theorem raised_of_reports {limit : Int} {size : Nat} {oid : Oid} {fault : DecodeFault} (h : oid.Encodable)
    (hreports : Reports limit size (itemsOf oid.subidentifiers []) fault) :
    fault.kind = .outOfRange ∧ fault.raised = rangeKind limit := by
  have hlarge := pow_le_leastUnshowable (k := 6) (by decide)
  cases hreports with
  | empty hnone =>
    obtain ⟨⟨first, second, rest, rfl, -⟩, -⟩ := h
    cases hnone
  | unfinished hmem => simp [itemsOf] at hmem
  | @above item v cap hmem hle habove hcap =>
    obtain ⟨g, hg, rfl⟩ : ∃ g ∈ oid.subidentifiers, .complete g = item := by simpa [itemsOf] using hmem
    have hsmall : v ≤ 80 + Oid.maxArc := Nat.le_trans hle (value_le_of_mem_subidentifiers h hg)
    rw [Oid.maxArc] at hsmall
    refine ⟨rfl, ?_⟩
    -- the value is small, and the limit is below it: only a negative limit can have too many digits
    have hvalue : isShowable v := by
      rw [isShowable_iff, Int.natAbs_natCast]
      omega
    have hlimit : isShowable cap ↔ -leastUnshowable < 80 + limit := by
      rw [isShowable_iff]
      omega
    simp only [raised_arcAboveLimit, hvalue, hlimit, true_and, rangeKind]

/-- A written payload is decoded to its object identifier if all arcs but the first are within the limit, else it is refused for a
value out of range. -/
theorem decode_encode {strict : Bool} {oid : Oid} {payload : List UInt8} (limit : Int) (hencodable : oid.Encodable)
    (h : encode strict oid = .ok payload) :
    (decode limit payload).mapError (fun e => (e.fault.kind, e.fault.raised)) =
      if ∀ arc ∈ oid.tail, (arc : Int) ≤ limit then .ok oid else .error (.outOfRange, rangeKind limit) := by
  obtain ⟨hrooted, -, rfl⟩ := encode_eq_ok_iff.1 h
  have hcomplete : ∀ g ∈ oid.subidentifiers, Base128.IsComplete g := fun _ => Oid.isComplete_of_mem_subidentifiers
  have hcut := Base128.cut_flatten hcomplete
  have hnone := firstOffence?_subidentifiers_eq_none_iff limit hrooted
  by_cases hwithin : ∀ arc ∈ oid.tail, (arc : Int) ≤ limit
  · rw [if_pos hwithin, mapError_eq_ok_iff, decode_eq_ok_iff, items, hcut]
    exact ⟨hnone.2 hwithin, arcsOf_subidentifiers hrooted⟩
  · rw [if_neg hwithin]
    cases hd : decode limit oid.subidentifiers.flatten with
    | ok oid' =>
      rw [decode_eq_ok_iff, items, hcut] at hd
      exact absurd (hnone.1 hd.1) hwithin
    | error e =>
      have hreports := reports_of_decode hd
      rw [items, hcut] at hreports
      obtain ⟨hkind, hraised⟩ := raised_of_reports hencodable hreports
      rw [Except.mapError, hkind, hraised]

/-- A list of numbers has a payload exactly when it is an object identifier that can be written, and with strict encoding begins
with the root that is then taken. -/
theorem ofValue_integers_eq_ok_iff {strict : Bool} {arcs : List Int} {payload : List UInt8} :
    ofValue strict (.list (arcs.map .integer)) = .ok payload ↔
      ∃ oid : Oid, arcs = oid.toInts ∧ oid.Encodable ∧ (strict = true → strictRoot <+: oid) ∧
        encode strict oid = .ok payload := by
  rw [ofValue_eq_ok_iff]
  constructor
  · rintro ⟨oid, hadmitted, hencode⟩
    obtain ⟨harcs, hwithin⟩ := Oid.ofValue_integers.1 hadmitted
    obtain ⟨hrooted, hstrict, -⟩ := encode_eq_ok_iff.1 hencode
    exact ⟨oid, harcs, ⟨hrooted, hwithin⟩, hstrict, hencode⟩
  · rintro ⟨oid, harcs, hencodable, -, hencode⟩
    exact ⟨oid, Oid.ofValue_integers.2 ⟨harcs, hencodable.within⟩, hencode⟩

end Payload

/-! ## Frames -/

namespace Frame

/-- The frame of a value is the tag, the length of its payload and the payload. -/
theorem ofValue_eq {strict : Bool} {v : Value} {payload written : List UInt8} (h : Payload.ofValue strict v = .ok payload)
    (hlength : Length.encode payload.length = .ok written) :
    ofValue strict v = .ok (UInt8.ofNat oidTag :: (written ++ payload)) := by
  simp [ofValue, encodeWith, h, encodeHeader, oidTag, hlength, Except.map]

/-- A value with a payload that is not too long has a frame, which is read as a frame with this payload. -/
theorem ofValue_of_ok {strict : Bool} {v : Value} {payload : List UInt8} (h : Payload.ofValue strict v = .ok payload)
    (hsize : payload.length < 2 ^ 32) : ∃ f : WireFrame, f.payload = payload ∧ ofValue strict v = .ok f.bytes := by
  obtain ⟨written, hencode, hdenotes⟩ := Length.encode_denotes hsize
  exact ⟨⟨written, payload, hdenotes⟩, rfl, ofValue_eq h hencode⟩

/-- A value with a frame has a payload. -/
theorem exists_payload_of_ofValue {strict : Bool} {v : Value} {data : List UInt8} (h : ofValue strict v = .ok data) :
    ∃ payload, Payload.ofValue strict v = .ok payload := by
  cases hp : Payload.ofValue strict v with
  | error e => simp [ofValue, encodeWith, hp] at h
  | ok payload => exact ⟨payload, rfl⟩

/-- A frame depends on nothing but the payload. -/
theorem ofValue_congr {strict strict' : Bool} {v w : Value} (h : Payload.ofValue strict v = Payload.ofValue strict' w) :
    ofValue strict v = ofValue strict' w := by
  simp only [ofValue, encodeWith, h]

/-- Strict encoding does not change the frame. -/
theorem ofValue_lenient {strict : Bool} {v : Value} {data : List UInt8} (h : ofValue strict v = .ok data) :
    ofValue false v = .ok data := by
  obtain ⟨payload, hpayload⟩ := exists_payload_of_ofValue h
  rw [ofValue_congr ((Payload.ofValue_lenient hpayload).trans hpayload.symm), h]

/-- Frames are read back under any limit. A sequence of numbers has a frame exactly when it is an object identifier that can be
written, which strict encoding takes only under its root; a payload of 2 to the 32nd bytes or more is left aside here. The frame is
then decoded to this object identifier if all arcs but the first are within the limit, and otherwise it is refused for a value out
of range, and raised as that unless 80 above the limit is a negative number without a text. -/
theorem decode_ofValue (arcs : List Int) (limit : Int)
    (hsize : ∀ payload, Payload.ofValue false (.list (arcs.map .integer)) = .ok payload → payload.length < 2 ^ 32) :
    (∀ strict, (∃ data, ofValue strict (.list (arcs.map .integer)) = .ok data) ↔
      ∃ oid : Oid, arcs = oid.toInts ∧ oid.Encodable ∧ (strict = true → strictRoot <+: oid)) ∧
    ∀ strict data, ofValue strict (.list (arcs.map .integer)) = .ok data →
      ∃ oid : Oid, arcs = oid.toInts ∧ (decode limit data).outcome.mapError (fun e => (e.fault.kind, e.fault.raised)) =
        if ∀ arc ∈ oid.tail, (arc : Int) ≤ limit then .ok oid
        else .error (.outOfRange, if -leastUnshowable < 80 + limit then .outOfRange else .unshowable) := by
  have hwire : ∀ {strict payload}, Payload.ofValue strict (.list (arcs.map .integer)) = .ok payload →
      ∃ f : WireFrame, f.payload = payload ∧ ofValue strict (.list (arcs.map .integer)) = .ok f.bytes :=
    fun hp => ofValue_of_ok hp (hsize _ (Payload.ofValue_lenient hp))
  refine ⟨fun strict => ⟨?_, ?_⟩, ?_⟩
  · rintro ⟨data, h⟩
    obtain ⟨payload, hp⟩ := exists_payload_of_ofValue h
    obtain ⟨oid, harcs, hencodable, hstrict, -⟩ := Payload.ofValue_integers_eq_ok_iff.1 hp
    exact ⟨oid, harcs, hencodable, hstrict⟩
  · rintro ⟨oid, harcs, hencodable, hstrict⟩
    have hencode := Payload.encode_eq_ok_iff.2 ⟨hencodable.isRooted, hstrict, rfl⟩
    obtain ⟨f, -, hf⟩ := hwire (Payload.ofValue_integers_eq_ok_iff.2 ⟨oid, harcs, hencodable, hstrict, hencode⟩)
    exact ⟨f.bytes, hf⟩
  · intro strict data h
    obtain ⟨payload, hp⟩ := exists_payload_of_ofValue h
    obtain ⟨oid, harcs, hencodable, -, hencode⟩ := Payload.ofValue_integers_eq_ok_iff.1 hp
    obtain ⟨f, rfl, hf⟩ := hwire hp
    rw [hf] at h
    cases h
    refine ⟨oid, harcs, ?_⟩
    rw [decode_bytes, Payload.decode_encode limit hencodable hencode]
    rfl

/-- An object identifier with an arc of two groups. -/
def wideOid : Oid := [1, 3, 6, 1, 4, 1, 300]

/-- Its frame. -/
def wideFrame : List UInt8 := [6, 7, 0x2b, 6, 1, 4, 1, 0x82, 0x2c]

/-- The wide arc is read back when the limit is the arc, and refused one below. -/
theorem decode_ofValue_wideOid :
    ofValue true (.list (wideOid.toInts.map .integer)) = .ok wideFrame ∧
      (decode 300 wideFrame).outcome.mapError (fun e => (e.fault.kind, e.fault.raised)) = .ok wideOid ∧
      (decode 299 wideFrame).outcome.mapError (fun e => (e.fault.kind, e.fault.raised)) = .error (.outOfRange, .outOfRange) := by
  have hpayload : Payload.ofValue false (.list (wideOid.toInts.map .integer)) = .ok [0x2b, 6, 1, 4, 1, 0x82, 0x2c] := by cbv
  have hwritten : ofValue true (.list (wideOid.toInts.map .integer)) = .ok wideFrame := by cbv
  have hread : ∀ limit, (decode limit wideFrame).outcome.mapError (fun e => (e.fault.kind, e.fault.raised)) =
      if ∀ arc ∈ wideOid.tail, (arc : Int) ≤ limit then .ok wideOid
      else .error (.outOfRange, if -leastUnshowable < 80 + limit then .outOfRange else .unshowable) := by
    intro limit
    have hsize : ∀ payload, Payload.ofValue false (.list (wideOid.toInts.map .integer)) = .ok payload →
        payload.length < 2 ^ 32 := by
      intro payload h
      rw [hpayload] at h
      cases h
      decide
    obtain ⟨oid, harcs, h⟩ := (decode_ofValue wideOid.toInts limit hsize).2 true _ hwritten
    obtain rfl := Oid.toInts_injective harcs
    exact h
  refine ⟨hwritten, ?_, ?_⟩
  · rw [hread, if_pos (by decide)]
  · rw [hread, if_neg (by decide), if_pos (by omega)]

/-- Under a limit of too many digits the frame of an object identifier is neither decoded nor raised as out of range. -/
theorem unraised_readBack : ¬∀ (arcs : List Int) (limit : Int) data, ofValue true (.list (arcs.map .integer)) = .ok data →
    (∃ oid, (decode limit data).outcome = .ok oid) ∨
      ∃ e, (decode limit data).outcome = .error e ∧ e.fault.raised = .outOfRange := by
  intro hoptions
  have hpayload : Payload.ofValue false (.list ([1, 3].map .integer)) = .ok [0x2b] := by cbv
  have hwritten : ofValue true (.list ([1, 3].map .integer)) = .ok [6, 1, 0x2b] := by cbv
  have hsize : ∀ payload, Payload.ofValue false (.list ([1, 3].map .integer)) = .ok payload → payload.length < 2 ^ 32 := by
    intro payload h
    rw [hpayload] at h
    cases h
    decide
  obtain ⟨oid, harcs, hread⟩ := (decode_ofValue [1, 3] (-leastUnshowable - 80) hsize).2 true _ hwritten
  obtain rfl : ([1, 3] : Oid) = oid := Oid.toInts_injective harcs
  rw [if_neg (by intro h; have := h 3 (by decide); omega), if_neg (by omega)] at hread
  rcases hoptions [1, 3] (-leastUnshowable - 80) _ hwritten with ⟨oid, hok⟩ | ⟨e, he, hraised⟩
  · rw [hok] at hread
    cases hread
  · rw [he, Except.mapError, hraised] at hread
    cases (Prod.mk.inj (Except.error.inj hread)).2

end Frame

end BerOid
