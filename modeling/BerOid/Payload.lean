import BerOid.Base128
import BerOid.Length

/-!
# Payloads

The payload of an object identifier is a sequence of subidentifiers. The first stands for the first two arcs together, forty times
the one plus the other; under the roots 0 and 1 the second arc is therefore below 40, and root 2 takes every value from 80 on.
Strict encoding takes only identifiers under 1.3. The decoder takes a limit for the arcs, which is any integer.
-/

namespace BerOid

/-- Why a value has no encoding. -/
inductive EncodeError where
  | input (e : InputError)
  | tooFewArcs (count : Nat)
  | outsideStrictRoot (oid : Oid)
  | firstArc (first : Nat)
  | secondArc (first second : Nat)
  | header (fault : HeaderFault)
  deriving DecidableEq

/-- The root under which strict encoding stays. -/
def strictRoot : Oid := [1, 3]

/-- The wording of a refusal. -/
def EncodeError.message : EncodeError → String
  | input e => e.message
  | tooFewArcs count => "OID needs at least 2 arcs to encode, got " ++ toString count
  | outsideStrictRoot oid =>
    "OID " ++ leadingDotText oid.toInts ++ " does not start with " ++ leadingDotText strictRoot.toInts
  | firstArc first => "first arc must be 0, 1 or 2, got " ++ toString first
  | secondArc first second =>
    "second arc must be below 40 under root " ++ toString first ++ ", got " ++ toString second
  | header fault => fault.message

namespace Payload

/-- The fault of the first two arcs, if there is one. -/
def rootFault? (strict : Bool) (first second : Nat) (oid : Oid) : Option EncodeError :=
  if strict then if [first, second] = strictRoot then none else some (.outsideStrictRoot oid)
  else if 2 < first then some (.firstArc first)
  else if first < 2 ∧ 40 ≤ second then some (.secondArc first second)
  else none

/-- The payload of an object identifier. -/
def encode (strict : Bool) (oid : Oid) : Except EncodeError (List UInt8) :=
  match oid with
  | first :: second :: rest =>
    match rootFault? strict first second oid with
    | some e => .error e
    | none => .ok (Base128.encode (40 * first + second) ++ rest.flatMap Base128.encode)
  | _ => .error (.tooFewArcs oid.length)

/-- The payload of a value that stands for an object identifier. -/
def ofValue (strict : Bool) (v : Value) : Except EncodeError (List UInt8) :=
  match Oid.ofValue v with
  | .error e => .error (.input e)
  | .ok oid => encode strict oid

/-- The first two arcs from the number that stands for both. -/
def splitRoot (merged : Nat) : Nat × Nat :=
  let first := min (merged / 40) 2
  (first, merged - 40 * first)

/-- The arcs of the remaining bytes of a payload of `size` bytes. -/
def decodeArcs (limit : Int) (size : Nat) (bytes : List UInt8) : Except DecodeError (List Nat) :=
  match bytes with
  | [] => .ok []
  | b :: tail =>
    match h : Base128.decode (some limit) (b :: tail) with
    | .error fault => .error (fault.inBuffer (size - (tail.length + 1) : Nat) size)
    | .ok (arc, rest) =>
      have : rest.length < tail.length + 1 := Base128.length_lt_of_decodeFrom h
      (decodeArcs limit size rest).map (arc :: ·)
termination_by bytes.length

/-- The object identifier of a payload. The first subidentifier may reach 80 above the limit; the second arc it holds is compared
with the limit before anything behind it is read. -/
def decode (limit : Int) (payload : List UInt8) : Except DecodeError Oid :=
  if payload.isEmpty then .error ⟨.emptyPayload, 0⟩
  else match Base128.decode (some (80 + limit)) payload with
    | .error fault => .error (fault.inBuffer 0 payload.length)
    | .ok (merged, rest) =>
      let (first, second) := splitRoot merged
      if (second : Int) > limit then .error ⟨.arcAboveLimit second limit, payload.length⟩
      else (decodeArcs limit payload.length rest).map fun arcs => first :: second :: arcs

end Payload

end BerOid
