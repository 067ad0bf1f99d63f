import BerOid.Proofs.Containment

/-!
# Refusals to write

A value is refused for the first rule it breaks: it has to stand for an object identifier, that has to have two arcs, and these
have to be a root. `Refused` says which refusal this is, each rule under the condition that those before it are kept, and the writer
of payloads gives just this refusal (`Payload.ofValue_eq_error_iff`). The root taken by strict encoding can be seen on the first
byte of a payload (`Payload.ofValue_strict_iff`). The header encoder has no part in a refusal: it is called once, when the payload
is there (`writes_or_refuses`).
-/

namespace BerOid

/-! ## Values that stand for object identifiers -/

namespace Oid

/-- The value stands for the object identifier: it is a text that is read as it, or the list of its arcs. -/
inductive StandsFor : Value → Oid → Prop where
  | text {s : String} {oid : Oid} : parse s = .ok oid → StandsFor (.text s) oid
  | list {oid : Oid} : (∀ arc ∈ oid, arc ≤ maxArc) → StandsFor (.list (oid.toInts.map .integer)) oid

/-- Why an item of a list is no arc: it is no integer, or one outside the range of arcs. -/
inductive BadItem : Value → InputError → Prop where
  | kind {item : Value} : (∀ n, item ≠ .integer n) → BadItem item (.wrongArcKind item.kind)
  | range {n : Int} : n < 0 ∨ maxArc < n → BadItem (.integer n) (.arcOutOfRange n)

/-- Why a value stands for no object identifier: it is a text that cannot be read, a list whose first item that is no arc has
something wrong with it, or neither text nor list. -/
inductive Inadmissible : Value → InputError → Prop where
  | text {s : String} {e : ParseError} : parse s = .error e → Inadmissible (.text s) (.unreadable e)
  | item {front : Oid} {item : Value} {after : List Value} {e : InputError} : (∀ arc ∈ front, arc ≤ maxArc) → BadItem item e →
      Inadmissible (.list (front.toInts.map .integer ++ item :: after)) e
  | kind {v : Value} : (∀ s, v ≠ .text s) → (∀ items, v ≠ .list items) → Inadmissible v (.wrongKind v.kind)

/-- An item of a list is refused for what is wrong with it. -/
theorem arcOfValue_eq_error_iff {item : Value} {e : InputError} : arcOfValue item = .error e ↔ BadItem item e := by
  constructor
  · intro h
    cases item with
    | integer n =>
      simp only [arcOfValue] at h
      split at h
      · cases h
      · cases h
        exact .range (by omega)
    | _ =>
      cases h
      exact .kind (by simp)
  · rintro (hkind | hrange)
    · cases item with
      | integer n => exact absurd rfl (hkind n)
      | _ => rfl
    · rw [arcOfValue, if_neg (by omega)]

/-- A value is admitted exactly when it stands for an object identifier. -/
theorem ofValue_eq_ok_iff {v : Value} {oid : Oid} : ofValue v = .ok oid ↔ StandsFor v oid := by
  constructor
  · intro h
    cases v with
    | text s => exact .text (mapError_eq_ok_iff.1 h)
    | list items =>
      obtain ⟨rfl, hall⟩ := mapM_arcOfValue_eq_ok_iff.1 h
      exact .list hall
    | _ => cases h
  · rintro (htext | hlist)
    · exact mapError_eq_ok_iff.2 htext
    · exact mapM_arcOfValue_eq_ok_iff.2 ⟨rfl, hlist⟩

/-- A value is refused for the reason why it stands for no object identifier. -/
theorem ofValue_eq_error_iff {v : Value} {e : InputError} : ofValue v = .error e ↔ Inadmissible v e := by
  constructor
  · intro h
    cases v with
    | text s =>
      obtain ⟨e, hparse, rfl⟩ := mapError_eq_error_iff.1 h
      exact .text hparse
    | list items =>
      obtain ⟨before, item, after, rfl, hbefore, hitem⟩ := mapM_eq_error_iff.1 h
      -- the items in front of the refused one have results together, which are the arcs they were made from
      obtain ⟨front, hfront⟩ := exists_mapM_eq_ok hbefore
      obtain ⟨rfl, hall⟩ := mapM_arcOfValue_eq_ok_iff.1 hfront
      exact .item hall (arcOfValue_eq_error_iff.1 hitem)
    | _ =>
      cases h
      exact .kind (by simp) (by simp)
  · rintro (htext | ⟨hfront, hitem⟩ | ⟨htext, hlist⟩)
    · exact mapError_eq_error_iff.2 ⟨_, htext, rfl⟩
    · refine mapM_eq_error_iff.2 ⟨_, _, _, rfl, ?_, arcOfValue_eq_error_iff.2 hitem⟩
      intro x hx
      simp only [toInts, List.map_map, List.mem_map, Function.comp_apply] at hx
      obtain ⟨arc, harc, rfl⟩ := hx
      exact ⟨arc, arcOfValue_eq_ok_iff.2 ⟨rfl, hfront arc harc⟩⟩
    · cases v with
      | text s => exact absurd rfl (htext s)
      | list items => exact absurd rfl (hlist items)
      | _ => rfl

end Oid

/-! ## Payloads -/

/-- Why the first two arcs of an object identifier are refused: strict encoding takes one root only, and else the first arc is at
most two, with less than forty behind an arc below two. -/
inductive BadRoot : Bool → Oid → EncodeError → Prop where
  | strict {first second : Nat} {rest : Oid} : ¬(first = 1 ∧ second = 3) →
      BadRoot true (first :: second :: rest) (.outsideStrictRoot (first :: second :: rest))
  | first {first second : Nat} {rest : Oid} : 2 < first → BadRoot false (first :: second :: rest) (.firstArc first)
  | second {first second : Nat} {rest : Oid} : first < 2 → 40 ≤ second →
      BadRoot false (first :: second :: rest) (.secondArc first second)

/-- Why a value is refused, each rule under the condition that those before it are kept. -/
inductive Refused (strict : Bool) (v : Value) : EncodeError → Prop where
  | input {e : InputError} : Oid.Inadmissible v e → Refused strict v (.input e)
  | tooFewArcs {oid : Oid} : Oid.StandsFor v oid → oid.length < 2 → Refused strict v (.tooFewArcs oid.length)
  | root {oid : Oid} {e : EncodeError} : Oid.StandsFor v oid → BadRoot strict oid e → Refused strict v e

namespace Payload

/-- The fault of a root is why it is refused. -/
theorem rootFault?_eq_some_iff {strict : Bool} {first second : Nat} {rest : Oid} {e : EncodeError} :
    rootFault? strict first second (first :: second :: rest) = some e ↔ BadRoot strict (first :: second :: rest) e := by
  unfold rootFault?
  cases strict with
  | true =>
    have hroot : [first, second] = strictRoot ↔ first = 1 ∧ second = 3 := by simp [strictRoot]
    rw [if_pos rfl]
    constructor
    · intro h
      split at h
      · cases h
      · rename_i hother
        cases h
        exact .strict (mt hroot.2 hother)
    · rintro ⟨hother⟩
      rw [if_neg (mt hroot.1 hother)]
  | false =>
    rw [if_neg Bool.false_ne_true]
    constructor
    · intro h
      split at h
      · rename_i hfirst
        cases h
        exact .first hfirst
      · split at h
        · rename_i hsecond
          cases h
          exact .second hsecond.1 hsecond.2
        · cases h
    · intro h
      cases h with
      | first hfirst => rw [if_pos hfirst]
      | second hfirst hsecond => rw [if_neg (by omega), if_pos ⟨hfirst, hsecond⟩]

/-- An object identifier has no payload for too few arcs or for its root. -/
theorem encode_eq_error_iff {strict : Bool} {oid : Oid} {e : EncodeError} :
    encode strict oid = .error e ↔ oid.length < 2 ∧ .tooFewArcs oid.length = e ∨ BadRoot strict oid e := by
  unfold encode
  split
  · rename_i first second rest
    rw [← rootFault?_eq_some_iff]
    cases rootFault? strict first second (first :: second :: rest) <;> simp
  · rename_i hshort
    have hlength : oid.length < 2 := by
      rcases oid with _ | ⟨first, _ | ⟨second, rest⟩⟩
      · simp
      · simp
      · exact absurd rfl (hshort first second rest)
    have hroot : ¬BadRoot strict oid e := by
      intro h
      cases h <;> exact hshort _ _ _ rfl
    simp [hlength, hroot]

/-- A value has no payload exactly when it is refused, and then for this reason. -/
theorem ofValue_eq_error_iff {strict : Bool} {v : Value} {e : EncodeError} : ofValue strict v = .error e ↔ Refused strict v e := by
  constructor
  · intro h
    unfold ofValue at h
    split at h
    · rename_i hinput
      cases h
      exact .input (Oid.ofValue_eq_error_iff.1 hinput)
    · rename_i hadmitted
      have hstands := Oid.ofValue_eq_ok_iff.1 hadmitted
      rcases encode_eq_error_iff.1 h with ⟨hshort, rfl⟩ | hroot
      · exact .tooFewArcs hstands hshort
      · exact .root hstands hroot
  · rintro (hinput | ⟨hstands, hshort⟩ | ⟨hstands, hroot⟩)
    · rw [ofValue, Oid.ofValue_eq_error_iff.2 hinput]
    · rw [ofValue, Oid.ofValue_eq_ok_iff.2 hstands]
      exact encode_eq_error_iff.2 (.inl ⟨hshort, rfl⟩)
    · rw [ofValue, Oid.ofValue_eq_ok_iff.2 hstands]
      exact encode_eq_error_iff.2 (.inr hroot)

/-- The root that strict encoding takes is the only one whose payloads begin with the byte 43. -/
theorem strictRoot_prefix_iff {oid : Oid} (h : oid.IsRooted) :
    strictRoot <+: oid ↔ oid.subidentifiers.flatten.head? = some 0x2b := by
  -- the root alone is written as this byte, and an object identifier lies under it exactly when its payload begins with that
  have hstrict : strictRoot.IsRooted := ⟨1, 3, [], rfl, .inr (by decide)⟩
  have hbyte : strictRoot.subidentifiers.flatten = [0x2b] := by cbv
  rw [← hstrict.flatten_prefix_iff h, hbyte, List.head?_eq_some_iff]
  exact exists_congr fun rest => eq_comm

/-- Strict encoding gives what encoding gives, if that begins with the byte 43, and else nothing. -/
theorem ofValue_strict_iff {v : Value} {payload : List UInt8} :
    ofValue true v = .ok payload ↔ ofValue false v = .ok payload ∧ payload.head? = some 0x2b := by
  constructor
  · intro h
    obtain ⟨oid, -, hencode⟩ := ofValue_eq_ok_iff.1 h
    obtain ⟨hrooted, hstrict, rfl⟩ := encode_eq_ok_iff.1 hencode
    exact ⟨ofValue_lenient h, (strictRoot_prefix_iff hrooted).1 (hstrict rfl)⟩
  · rintro ⟨h, hhead⟩
    obtain ⟨oid, hadmitted, hencode⟩ := ofValue_eq_ok_iff.1 h
    obtain ⟨hrooted, -, rfl⟩ := encode_eq_ok_iff.1 hencode
    exact ofValue_eq_ok_iff.2 ⟨oid, hadmitted, encode_eq_ok_iff.2 ⟨hrooted, fun _ => (strictRoot_prefix_iff hrooted).2 hhead, rfl⟩⟩

end Payload

/-! ## Frames -/

namespace Frame

variable {σ : Type} (header : Nat → Nat → StateM σ (List UInt8)) (s : σ)

/-- A header encoder that gives bytes for every tag and length and may keep a state, with a list of what it is called with. -/
def recorded (tag length : Nat) : StateM (σ × List (Nat × Nat)) (Except HeaderFault (List UInt8)) := do
  let (s, calls) ← get
  let (bytes, s) := header tag length s
  set (s, calls ++ [(tag, length)])
  return .ok bytes

/-- What comes of writing a value with a header encoder in a state: the frame or the refusal, the state the encoder is left in, and
the calls of it. -/
def attempt (strict : Bool) (v : Value) : Except EncodeError (List UInt8) × σ × List (Nat × Nat) :=
  ((encodeWith (recorded header) strict v).run (s, [])).run

/-- Without a payload the header encoder is not called. -/
theorem attempt_of_error {strict : Bool} {v : Value} {e : EncodeError} (h : Payload.ofValue strict v = .error e) :
    attempt header s strict v = (.error e, s, []) := by
  rw [attempt, encodeWith, h]
  rfl

/-- With a payload the header encoder is called once. -/
theorem attempt_of_ok {strict : Bool} {v : Value} {payload : List UInt8} (h : Payload.ofValue strict v = .ok payload) :
    attempt header s strict v = (.ok ((header oidTag payload.length s).1 ++ payload), (header oidTag payload.length s).2,
      [(oidTag, payload.length)]) := by
  rw [attempt, encodeWith, h]
  rfl

/-- Strict encoding makes of a value what encoding makes of it, if there is a payload and it begins with the byte 43. -/
theorem attempt_strict_iff {v : Value} {data : List UInt8} {after : σ × List (Nat × Nat)} :
    attempt header s true v = (.ok data, after) ↔ attempt header s false v = (.ok data, after) ∧
      ∃ payload, Payload.ofValue false v = .ok payload ∧ payload.head? = some 0x2b := by
  constructor
  · intro h
    cases hpayload : Payload.ofValue true v with
    | error e =>
      rw [attempt_of_error header s hpayload] at h
      cases h
    | ok payload =>
      obtain ⟨hlenient, hhead⟩ := Payload.ofValue_strict_iff.1 hpayload
      rw [attempt_of_ok header s hpayload, ← attempt_of_ok header s hlenient] at h
      exact ⟨h, payload, hlenient, hhead⟩
  · rintro ⟨h, payload, hlenient, hhead⟩
    rw [attempt_of_ok header s (Payload.ofValue_strict_iff.2 ⟨hlenient, hhead⟩), ← attempt_of_ok header s hlenient]
    exact h

end Frame

/-- A value is written or refused for the first rule it breaks. It is refused exactly for the reason that `Refused` gives, and then
the header encoder is not called; a value with no such reason has a payload and is written, with one call of the header encoder,
which is given the tag and the length of the payload. Strict encoding succeeds exactly where encoding succeeds with a payload that
begins with the byte 43, and both then give the same bytes. -/
theorem writes_or_refuses {σ : Type} (header : Nat → Nat → StateM σ (List UInt8)) (s : σ) (v : Value) :
    (∀ strict e, Frame.attempt header s strict v = (.error e, s, []) ↔ Refused strict v e) ∧
    (∀ strict, (∀ e, ¬Refused strict v e) → ∃ payload, Payload.ofValue strict v = .ok payload ∧
      Frame.attempt header s strict v = (.ok ((header 0x06 payload.length s).1 ++ payload), (header 0x06 payload.length s).2,
        [(0x06, payload.length)])) ∧
    ∀ data after, Frame.attempt header s true v = (.ok data, after) ↔ Frame.attempt header s false v = (.ok data, after) ∧
      ∃ payload, Payload.ofValue false v = .ok payload ∧ payload.head? = some 0x2b := by
  refine ⟨fun strict e => ?_, fun strict hkept => ?_, fun data after => Frame.attempt_strict_iff header s⟩
  · rw [← Payload.ofValue_eq_error_iff]
    constructor
    · intro h
      cases hpayload : Payload.ofValue strict v with
      | error e' =>
        rw [Frame.attempt_of_error header s hpayload] at h
        cases h
        rfl
      | ok payload =>
        rw [Frame.attempt_of_ok header s hpayload] at h
        cases h
    · exact Frame.attempt_of_error header s
  · cases hpayload : Payload.ofValue strict v with
    | error e => exact absurd (Payload.ofValue_eq_error_iff.1 hpayload) (hkept e)
    | ok payload => exact ⟨payload, rfl, Frame.attempt_of_ok header s hpayload⟩

/-- A header encoder that numbers its headers. -/
def numbered (_tag _length : Nat) : StateM Nat (List UInt8) := do
  let n ← get
  set (n + 1)
  return [UInt8.ofNat n]

/-- A list that breaks several rules: an item that is no integer, an arc out of range and no root. -/
def brokenList : Value := .list [.integer 9, .text "x", .integer (-1)]

/-- Strict encoding writes what begins with its root, with one call of the header encoder; of several rules the first one broken is
reported, with no call. -/
theorem writes_or_refuses_numbered :
    Frame.attempt numbered 7 true (.list [.integer 1, .integer 3, .integer 6]) = (.ok [7, 0x2b, 6], 8, [(0x06, 2)]) ∧
      Frame.attempt numbered 7 true brokenList = (.error (.input (.wrongArcKind .text)), 7, []) := by
  obtain ⟨hrefused, -, -⟩ := writes_or_refuses numbered 7 brokenList
  obtain ⟨-, hwritten, -⟩ := writes_or_refuses numbered 7 (.list [.integer 1, .integer 3, .integer 6])
  have hpayload : Payload.ofValue true (.list [.integer 1, .integer 3, .integer 6]) = .ok [0x2b, 6] := by cbv
  have hkept : ∀ e, ¬Refused true (.list [.integer 1, .integer 3, .integer 6]) e := by
    intro e he
    rw [← Payload.ofValue_eq_error_iff, hpayload] at he
    cases he
  constructor
  · obtain ⟨payload, hp, hattempt⟩ := hwritten true hkept
    rw [hpayload] at hp
    cases hp
    exact hattempt
  · exact (hrefused true _).2 (.input (@Oid.Inadmissible.item [9] _ _ _ (by decide) (.kind (by simp))))

end BerOid
