import BerOid.Oid.Input
import BerOid.Text.Hex

/-!
# Why bytes are refused

Every refusal of encoded bytes names its cause and counts the bytes that had been taken when it arose. An operation that has taken
bytes before it calls another adds them to the other's count (`DecodeError.after`).

What a caller gets is not always a refusal of the kind of its cause: a wording that is to show a number without a text gives way to
the complaint about its digits (`DecodeFault.raised`), and neither that nor the complaint about a size tells the bytes that were
counted (`DecodeError.told?`).
-/

namespace BerOid

/-- The causes of a refusal. -/
inductive DecodeFault where
  /-- The bytes end inside a subidentifier that begins at an offset; also given is the number of bytes. -/
  | unfinished (offset : Int) (size : Nat)
  /-- There are no payload bytes. -/
  | emptyPayload
  /-- A payload length is zero or negative. -/
  | lengthNotPositive (length : Int)
  /-- The length is of the indefinite form. -/
  | indefiniteLength
  /-- The length has more octets than are read. -/
  | lengthTooWide (octets : Nat)
  /-- The tag continues in further bytes. -/
  | multiByteTag (tag : UInt8)
  /-- The tag is not that of an object identifier. -/
  | foreignTag (tag : UInt8)
  /-- Bytes follow the frame. -/
  | trailing (count : Nat)
  /-- The source ended before the bytes wanted had come. -/
  | sourceEnded (received : Nat) (wanted : Int)
  /-- The source failed before the bytes wanted had come. -/
  | sourceFailed (received : Nat) (wanted : Int) (reason : String)
  /-- The source was asked for more bytes than the size of anything it can hold. -/
  | oversized (asked : Int)
  /-- An arc is greater than the limit. -/
  | arcAboveLimit (value : Nat) (limit : Int)
  deriving DecidableEq

/-- The kinds of refusals that callers tell apart: four of encoded bytes, and two that have nothing to do with the bytes, for a size
that is no index and for a number that has no text. -/
inductive DecodeKind where
  | shortRead
  | malformed
  | badTag
  | outOfRange
  | oversized
  | unshowable
  deriving DecidableEq

/-- Whether the refusals of a kind tell the bytes that were taken. -/
def DecodeKind.isCounted : DecodeKind → Bool
  | shortRead | malformed | badTag | outOfRange => true
  | oversized | unshowable => false

/-- The complaint about a number that is used as an index or a size and is none. -/
def indexMessage : String := "cannot fit 'int' into an index-sized integer"

namespace DecodeFault

/-- The kind of a cause. -/
def kind : DecodeFault → DecodeKind
  | sourceEnded .. | sourceFailed .. => .shortRead
  | multiByteTag _ | foreignTag _ => .badTag
  | arcAboveLimit .. => .outOfRange
  | oversized _ => .oversized
  | _ => .malformed

/-- The integers that the wording of a cause shows, without the numbers of bytes that are there and the offsets among them: these
always have a text. -/
def shownIntegers : DecodeFault → List Int
  | unfinished offset size => if offset ≤ size then [] else [offset]
  | lengthNotPositive length => [length]
  | sourceEnded _ wanted | sourceFailed _ wanted _ => [wanted]
  | arcAboveLimit value limit => [(value : Int), limit]
  | _ => []

/-- Whether the wording of a cause can be made. -/
def isShowable (fault : DecodeFault) : Bool := fault.shownIntegers.all BerOid.isShowable

/-- The kind of the refusal that a cause comes to: that of the cause, if its wording can be made. -/
def raised (fault : DecodeFault) : DecodeKind := if fault.isShowable then fault.kind else .unshowable

/-- A byte as messages show a tag. -/
def shownTag (tag : UInt8) : String := "0x" ++ Text.hex [tag]

/-- What a cause is called. -/
def text : DecodeFault → String
  | unfinished offset size =>
    "subidentifier at offset " ++ toString offset ++ " runs past end of payload (" ++ toString size ++ " bytes)"
  | emptyPayload => "OID payload is empty"
  | lengthNotPositive length => "OID payload length must be positive, got " ++ toString length
  | indefiniteLength => "indefinite length is not allowed"
  | lengthTooWide octets => "length field of " ++ toString octets ++ " octets is too large"
  | multiByteTag tag => "multi-byte tag form " ++ shownTag tag ++ " is not supported"
  | foreignTag tag => "expected tag 0x06, got " ++ shownTag tag
  | trailing count => toString count ++ " trailing bytes after OID"
  | sourceEnded received wanted =>
    "unexpected end of input after " ++ toString received ++ " of " ++ toString wanted ++ " bytes"
  | sourceFailed received wanted reason =>
    "read failed after " ++ toString received ++ " of " ++ toString wanted ++ " bytes: " ++ reason
  | oversized _ => indexMessage
  | arcAboveLimit value limit => rangeText value limit

/-- The wording of the refusal that a cause comes to. -/
def message (fault : DecodeFault) : String := wording fault.shownIntegers fault.text

end DecodeFault

/-- A refusal: its cause and the number of bytes taken before it. -/
structure DecodeError where
  fault : DecodeFault
  bytesRead : Nat
  deriving DecidableEq

/-- The number of bytes that a refusal tells its caller, if it tells one. -/
def DecodeError.told? (e : DecodeError) : Option Nat := if e.fault.raised.isCounted then some e.bytesRead else none

/-- The same refusal for an operation that had taken `n` bytes before. -/
def DecodeError.after (n : Nat) (e : DecodeError) : DecodeError := { e with bytesRead := n + e.bytesRead }

end BerOid
