import BerOid.Frame

/-!
# The reference encoding

A second encoder of object identifiers, with which the encoder of frames is compared byte by byte. The comparison takes whatever
second encoder it is given: a function from arcs to bytes, with nothing for the arcs it refuses. The one written here follows the
rules of the format alone: tag 6, minimal definite length, and for the first two arcs together and every further arc the minimal
digits in base 128. It takes arcs of any size.
-/

namespace BerOid.Reference

/-- The minimal digits of a number in a base of at least two, most significant first; zero has one digit. -/
def digits (base n : Nat) : List Nat :=
  if _h : n < base ∨ base < 2 then [n] else digits base (n / base) ++ [n % base]
termination_by n
decreasing_by exact Nat.div_lt_self (by omega) (by omega)

/-- A number as base-128 digits, the top bit set in all but the last. -/
def subidentifier (n : Nat) : List UInt8 :=
  let ds := digits 128 n
  ds.dropLast.map (fun d => UInt8.ofNat (128 + d)) ++ [UInt8.ofNat (n % 128)]

/-- The minimal form of a length; at most 126 octets count it. -/
def length? (n : Nat) : Option (List UInt8) :=
  if n < 128 then some [UInt8.ofNat n]
  else
    let ds := digits 256 n
    if ds.length ≤ 126 then some (UInt8.ofNat (128 + ds.length) :: ds.map UInt8.ofNat) else none

/-- The number that stands for the first two arcs: roots 0 and 1 take second arcs below 40, root 2 takes any. -/
def mergedRoot? (first second : Nat) : Option Nat :=
  match first with
  | 0 => if second < 40 then some second else none
  | 1 => if second < 40 then some (40 + second) else none
  | 2 => some (80 + second)
  | _ => none

/-- The frame of a sequence of arcs, if it has one. -/
def encode? : Oid → Option (List UInt8)
  | first :: second :: rest => do
    let merged ← mergedRoot? first second
    let payload := subidentifier merged ++ rest.flatMap subidentifier
    let length ← length? payload.length
    return 6 :: length ++ payload
  | _ => none

/-- Why a value has no reference encoding. -/
inductive Error where
  | input (e : InputError)
  | unencodable
  deriving DecidableEq

/-- The encoding of a value by a second encoder, with what is noted when the value is admitted. -/
def writeWith (reference : Oid → Option (List UInt8)) (v : Value) : Noted Error (List UInt8) :=
  ((Oid.readValue v).mapError .input).andThen fun oid => match reference oid with
    | some bytes => ⟨.ok bytes, []⟩
    | none => ⟨.error .unencodable, []⟩

/-- The encoding of a value by a second encoder. -/
def ofValueWith (reference : Oid → Option (List UInt8)) (v : Value) : Except Error (List UInt8) := (writeWith reference v).outcome

/-- The reference encoding of a value. -/
def ofValue (v : Value) : Except Error (List UInt8) := ofValueWith encode? v

/-- The arcs of a foreign identifier, which may be of any size but not negative, as an identifier of this library. -/
def oidOfForeign (arcs : List Int) : Except Error Oid :=
  if arcs.any (· < 0) then .error .unencodable
  else (Oid.ofValue (.list (arcs.map .integer))).mapError .input

/-- Why two encodings cannot be compared. -/
inductive CompareError where
  | ours (e : EncodeError)
  | reference (e : Error)
  deriving DecidableEq

/-- Compares the frame of a value with what a second encoder gives for it: whether they agree, and what was noted. A difference is
noted with the value as `shown`. -/
def compareWith (reference : Oid → Option (List UInt8)) (strict : Bool) (shown : String) (v : Value) : Noted CompareError Bool :=
  ((Frame.write strict v).mapError .ours).andThen fun ours =>
    ((writeWith reference v).mapError .reference).andThen fun theirs =>
      if ours = theirs then ⟨.ok true, []⟩ else ⟨.ok false, [.differentEncoding shown ours theirs]⟩

/-- Compares the frame of a value with the reference encoding, or with `given` bytes in its place. -/
def compare (strict : Bool) (given : Option (List UInt8)) (shown : String) (v : Value) : Noted CompareError Bool :=
  compareWith (given.elim encode? fun bytes _ => some bytes) strict shown v

end BerOid.Reference
