import BerOid.Payload
import BerOid.Source

/-!
# Frames

A frame is a header with the tag of object identifiers and the payload whose length the header gives. Reading a frame takes exactly
its bytes from a source that delivers no more than it is asked for, so the next frame can be read behind it; every refusal counts
the bytes taken from the start of the frame.
-/

namespace BerOid

/-- The tag of object identifiers. -/
def oidTag : Nat := 6

/-- The most octets a length may have to be read. -/
def maxLengthOctets : Nat := 4

/-- A header that was read: its tag, the length it gives, and its own size. -/
structure Header where
  tag : UInt8
  length : Nat
  size : Nat
  deriving DecidableEq

namespace Header

/-- Asks for one byte; of an answer with more bytes only the first is used. -/
def readByte (s : Source) : Reading UInt8 := (s.gather 1).map (·.headD 0)

/-- Reads the length behind a tag. Its size is what the form of the length calls for. -/
def readLength (tag : UInt8) (s : Source) : Reading Header :=
  ((readByte s).after 1).andThen fun first s =>
    if first.toNat < 128 then .done ⟨tag, first.toNat, 2⟩ s
    else
      let count := first.toNat - 128
      if count = 0 then .fail ⟨.indefiniteLength, 2⟩ s
      else if maxLengthOctets < count then .fail ⟨.lengthTooWide count, 2⟩ s
      else ((s.gather count).after 2).map fun octets => ⟨tag, Length.ofOctets octets, 2 + count⟩

/-- Reads a header. A tag whose low five bits are all set would continue in further bytes and is refused. -/
def read (s : Source) : Reading Header :=
  (readByte s).andThen fun tag s =>
    if tag.toNat % 32 = 31 then .fail ⟨.multiByteTag tag, 1⟩ s else readLength tag s

end Header

namespace Payload

/-- Decodes bytes that were taken from a source; the `length` asked for is reported, and a rejected payload is noted with the cause,
unless that has no wording. -/
def decodeTaken (limit length : Int) (payload : List UInt8) (s : Source) : Reading (Oid × Nat) :=
  match decode limit payload with
  | .ok oid => .done (oid, length.toNat) s
  | .error e => ⟨.error e, [], if e.fault.isShowable then [.rejectedPayload payload e.fault] else [], s⟩

/-- Reads a payload of a given length and gives the number of bytes it is made of. -/
def read (limit length : Int) (s : Source) : Reading (Oid × Nat) :=
  if length ≤ 0 then .fail ⟨.lengthNotPositive length, 0⟩ s
  else (s.gather length).andThen (decodeTaken limit length)

end Payload

namespace Frame

/-- Reads a frame and gives the number of bytes it is made of. -/
def read (limit : Int) (s : Source) : Reading (Oid × Nat) :=
  (Header.read s).andThen fun header s =>
    if header.tag.toNat ≠ oidTag then .fail ⟨.foreignTag header.tag, header.size⟩ s
    else ((Payload.read limit header.length s).after header.size).map fun (oid, n) => (oid, header.size + n)

/-- Reads a frame from memory; bytes behind it are refused. -/
def decode (limit : Int) (data : List UInt8) : Reading Oid :=
  (read limit (.ofBytes data)).andThen fun (oid, consumed) s =>
    if consumed ≠ data.length then .fail ⟨.trailing (data.length - consumed), consumed⟩ s else .done oid s

/-- The frame of a value, with the header made by a given encoder. The encoder is called once the payload is there, and with its
length. -/
def encodeWith {m : Type → Type} [Monad m] (header : Nat → Nat → m (Except HeaderFault (List UInt8))) (strict : Bool)
    (v : Value) : m (Except EncodeError (List UInt8)) :=
  match Payload.ofValue strict v with
  | .error e => pure (.error e)
  | .ok payload => do
    match ← header oidTag payload.length with
    | .error fault => return .error (.header fault)
    | .ok bytes => return .ok (bytes ++ payload)

/-- The frame of a value. -/
def ofValue (strict : Bool) (v : Value) : Except EncodeError (List UInt8) :=
  Id.run (encodeWith (fun tag length => pure (encodeHeader tag length)) strict v)

/-- The frame of a value, with what is noted when the value is admitted. -/
def write (strict : Bool) (v : Value) : Noted EncodeError (List UInt8) :=
  ((Oid.readValue v).mapError .input).andThen fun oid =>
    ⟨do
      let payload ← Payload.encode strict oid
      let header ← (encodeHeader oidTag payload.length).mapError .header
      return header ++ payload, []⟩

/-- The frame of an object identifier. -/
def encode (strict : Bool) (oid : Oid) : Except EncodeError (List UInt8) :=
  ofValue strict (.list (oid.toInts.map .integer))

end Frame

end BerOid
