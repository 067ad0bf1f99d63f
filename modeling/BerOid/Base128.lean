import BerOid.DecodeError

/-!
# Base-128 subidentifiers

A subidentifier is a number written in groups of seven bits, the most significant first; every byte but the last has its top bit
set. The writer gives the shortest form. The reader takes any number of leading zero groups and may be given a limit, which it
applies after every group, so a value is refused at the first group that carries it over the limit however many groups follow.
-/

namespace BerOid.Base128

/-- The groups that continue: the digits of `n` in base 128, each with its top bit set, none for zero. -/
def continued (n : Nat) : List UInt8 :=
  if n = 0 then [] else continued (n / 128) ++ [UInt8.ofNat (n % 128 + 128)]

/-- The subidentifier of a number. -/
def encode (n : Nat) : List UInt8 := continued (n / 128) ++ [UInt8.ofNat (n % 128)]

/-- A number that has no subidentifier because it is negative. -/
structure NegativeError where
  value : Int
  deriving DecidableEq

/-- The wording of the refusal of a negative number. -/
def NegativeError.message (e : NegativeError) : String :=
  wording [e.value] ("subidentifier must be unsigned, got " ++ toString e.value)

/-- The subidentifier of an integer. -/
def encodeInt : Int → Except NegativeError (List UInt8)
  | .ofNat n => .ok (encode n)
  | v => .error ⟨v⟩

/-- Why the front of a byte sequence is no subidentifier within the limit. -/
inductive Fault where
  | unfinished
  | aboveLimit (value : Nat) (limit : Int)
  deriving DecidableEq

/-- Reads on after groups of value `acc`, giving the value and the bytes behind the last group. -/
def decodeFrom (limit : Option Int) (acc : Nat) : List UInt8 → Except Fault (Nat × List UInt8)
  | [] => .error .unfinished
  | b :: rest =>
    let value := 128 * acc + b.toNat % 128
    match limit.filter (· < (value : Int)) with
    | some l => .error (.aboveLimit value l)
    | none => if b.toNat < 128 then .ok (value, rest) else decodeFrom limit value rest

/-- Reads the subidentifier at the front. -/
def decode (limit : Option Int) (bytes : List UInt8) : Except Fault (Nat × List UInt8) := decodeFrom limit 0 bytes

/-- What is left behind a subidentifier is shorter than what it was read from. -/
theorem length_lt_of_decodeFrom {limit : Option Int} {acc : Nat} {bytes : List UInt8} {r : Nat × List UInt8}
    (h : decodeFrom limit acc bytes = .ok r) : r.2.length < bytes.length := by
  induction bytes generalizing acc with
  | nil => simp [decodeFrom] at h
  | cons b rest ih =>
    simp only [decodeFrom] at h
    split at h
    · cases h
    · split at h
      · cases h
        exact Nat.lt_succ_self _
      · exact Nat.lt_succ_of_lt (ih h)

/-- A fault of the subidentifier at an offset of a buffer, as the refusal of the whole buffer. -/
def Fault.inBuffer (offset : Int) (size : Nat) : Fault → DecodeError
  | unfinished => ⟨.unfinished offset size, size⟩
  | aboveLimit value limit => ⟨.arcAboveLimit value limit, size⟩

/-- Why no subidentifier can be read at an offset of a buffer: the offset is no address at all, it lies before the buffer, or the
bytes from it on are refused. -/
inductive OffsetError where
  | unaddressable
  | beforeBuffer
  | refused (e : DecodeError)
  deriving DecidableEq

/-- The wording of an error. -/
def OffsetError.message : OffsetError → String
  | unaddressable => indexMessage
  | beforeBuffer => "index out of range"
  | refused e => e.fault.message

/-- The least offset that is an address. -/
def leastAddress : Int := -(Nat.pow 2 63 : Int)

/-- The bytes from an offset on. A negative offset counts from the end, and the bytes that follow the last one are then those from
the start of the buffer, since the position keeps counting up through zero. -/
def bytesAt (data : List UInt8) (offset : Int) : List UInt8 :=
  if 0 ≤ offset then data.drop offset.toNat else data.drop (data.length - offset.natAbs) ++ data

/-- Reads the subidentifier at an offset of a buffer and gives the offset behind it. -/
def decodeAt (limit : Option Int) (data : List UInt8) (offset : Int) : Except OffsetError (Nat × Int) :=
  if offset < leastAddress then .error .unaddressable
  else if offset < -(data.length : Int) then .error .beforeBuffer
  else
    let bytes := bytesAt data offset
    match decode limit bytes with
    | .error fault => .error (.refused (fault.inBuffer offset data.length))
    | .ok (value, rest) => .ok (value, offset + (bytes.length - rest.length : Nat))

end BerOid.Base128
