import BerOid.Number.IntegerText

/-!
# Definite lengths

The length of a payload is one byte below 128, and from 128 on a byte that counts the octets of the length and has its top bit set,
followed by those octets in base 256. A header is a tag byte and a length.
-/

namespace BerOid

/-- Why a tag and a length have no header. -/
inductive HeaderFault where
  | negativeLength (length : Int)
  | beyondByte
  deriving DecidableEq

/-- The wording of a fault. -/
def HeaderFault.message : HeaderFault → String
  | negativeLength length => wording [length] ("length must be non-negative, got " ++ toString length)
  | beyondByte => "bytes must be in range(0, 256)"

namespace Length

/-- The digits of `n` in base 256, most significant first, none for zero. -/
def octets (n : Nat) : List UInt8 :=
  if n = 0 then [] else octets (n / 256) ++ [UInt8.ofNat (n % 256)]

/-- The number that octets write in base 256. -/
def ofOctets (bytes : List UInt8) : Nat := bytes.foldl (fun n b => 256 * n + b.toNat) 0

/-- A count of octets with the top bit of a byte set. The counts from 128 to 255 have it already; greater ones fit no byte. -/
def countOctet? (count : Nat) : Option UInt8 :=
  if count < 128 then some (UInt8.ofNat (128 + count))
  else if count < 256 then some (UInt8.ofNat count)
  else none

/-- The written form of a length. -/
def encode : Int → Except HeaderFault (List UInt8)
  | .ofNat n =>
    if n < 128 then .ok [UInt8.ofNat n]
    else match countOctet? (octets n).length with
      | some count => .ok (count :: octets n)
      | none => .error .beyondByte
  | length => .error (.negativeLength length)

end Length

/-- The header of a payload: the tag is looked at before the length. -/
def encodeHeader (tag length : Int) : Except HeaderFault (List UInt8) :=
  if 0 ≤ tag ∧ tag < 256 then (Length.encode length).map (UInt8.ofNat tag.toNat :: ·) else .error .beyondByte

end BerOid
