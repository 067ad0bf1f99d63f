import BerOid.DecodeError

/-!
# Diagnostics

What the operations note on the way, beside their results: the texts and payloads they reject, the sources that let them down, and
encodings that differ from the reference. A `Noted` result comes with these notes; one that is made from another has the other's
notes in front of its own (`Noted.andThen`). Admitting a value notes nothing but a text that is rejected.
-/

namespace BerOid

/-- Something noted on the way to a result. -/
inductive Diagnostic where
  | rejectedText (e : Oid.ParseError)
  | rejectedPayload (payload : List UInt8) (fault : DecodeFault)
  | sourceEnded (received : Nat) (wanted : Int)
  | sourceFailed (received : Nat) (wanted : Int)
  | differentEncoding (shown : String) (ours reference : List UInt8)
  deriving DecidableEq

/-- A result or a refusal, and what was noted on the way to it. -/
@[ext]
structure Noted (ε α : Type) where
  outcome : Except ε α
  notes : List Diagnostic := []

namespace Noted

variable {ε ε' α β : Type}

/-- Goes on with the result, unless there was a refusal. -/
def andThen (r : Noted ε α) (next : α → Noted ε β) : Noted ε β :=
  match r.outcome with
  | .error e => ⟨.error e, r.notes⟩
  | .ok a => ⟨(next a).outcome, r.notes ++ (next a).notes⟩

/-- Changes the refusal. -/
def mapError (f : ε → ε') (r : Noted ε α) : Noted ε' α := ⟨r.outcome.mapError f, r.notes⟩

@[simp]
theorem andThen_outcome (r : Noted ε α) (next : α → Noted ε β) :
    (r.andThen next).outcome = r.outcome.bind fun a => (next a).outcome := by
  cases h : r.outcome <;> simp [andThen, h, Except.bind]

@[simp]
theorem andThen_ok (a : α) (notes : List Diagnostic) (next : α → Noted ε β) :
    andThen ⟨.ok a, notes⟩ next = ⟨(next a).outcome, notes ++ (next a).notes⟩ := rfl

@[simp]
theorem mapError_outcome (f : ε → ε') (r : Noted ε α) : (r.mapError f).outcome = r.outcome.mapError f := rfl

@[simp]
theorem mapError_notes (f : ε → ε') (r : Noted ε α) : (r.mapError f).notes = r.notes := rfl

end Noted

namespace Oid

/-- Reads a text, and notes it if it is rejected. -/
def readText (text : String) : Noted ParseError Oid :=
  match parse text with
  | .ok oid => ⟨.ok oid, []⟩
  | .error e => ⟨.error e, [.rejectedText e]⟩

/-- The object identifier that a value stands for. Only a text that is rejected is noted. -/
def readValue : Value → Noted InputError Oid
  | .text s => (readText s).mapError .unreadable
  | v => ⟨ofValue v, []⟩

/-- A text that is read is not noted. -/
theorem readText_of_ok {text : String} {oid : Oid} (h : parse text = .ok oid) : readText text = ⟨.ok oid, []⟩ := by
  rw [readText, h]

/-- A text that is rejected is noted. -/
theorem readText_of_error {text : String} {e : ParseError} (h : parse text = .error e) :
    readText text = ⟨.error e, [.rejectedText e]⟩ := by
  rw [readText, h]

@[simp]
theorem readText_outcome (text : String) : (readText text).outcome = parse text := by
  unfold readText
  split <;> simp_all

@[simp]
theorem readValue_outcome (v : Value) : (readValue v).outcome = ofValue v := by cases v <;> simp [readValue, ofValue]

end Oid

end BerOid
