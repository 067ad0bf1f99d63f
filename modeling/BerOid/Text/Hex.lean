import BerOid.Text.Blank

/-!
# Hex

Bytes as pairs of lower-case hex digits, written together or with a space between the pairs, and the liberal form in which a
person may hand them in: any case, white space around, one leading `0x`, colons and spaces anywhere, other ASCII blanks between
the pairs.
-/

namespace BerOid.Text

/-- The hex digit of a number below sixteen. -/
def hexDigit (n : Nat) : Char := if n < 10 then Char.ofNat ('0'.toNat + n) else Char.ofNat ('a'.toNat + (n - 10))

/-- The value of a hex digit in either case. -/
def hexValue? (c : Char) : Option Nat :=
  if '0' ≤ c ∧ c ≤ '9' then some (c.toNat - '0'.toNat)
  else if 'a' ≤ c ∧ c ≤ 'f' then some (c.toNat - 'a'.toNat + 10)
  else if 'A' ≤ c ∧ c ≤ 'F' then some (c.toNat - 'A'.toNat + 10)
  else none

/-- The two digits of a byte, high half first. -/
def hexPair (b : UInt8) : List Char := [hexDigit (b.toNat / 16), hexDigit (b.toNat % 16)]

/-- Bytes as hex digits without separators. -/
def hex (bytes : List UInt8) : String := String.ofList (bytes.flatMap hexPair)

/-- Bytes as pairs of hex digits with a space between the pairs. -/
def spacedHex (bytes : List UInt8) : String := String.ofList ([' '].intercalate (bytes.map hexPair))

/-- A number in hex, most significant digit first, with at least `width` digits. -/
def paddedHex (width n : Nat) : List Char :=
  let digits := Nat.toDigits 16 n
  List.replicate (width - digits.length) '0' ++ digits

/-- Bytes from pairs of hex digits, with ASCII blanks between the pairs but not within one. -/
def bytesOfPairs? : List Char → Option (List UInt8)
  | [] => some []
  | [c] => if isAsciiBlank c then some [] else none
  | c :: d :: rest =>
    if isAsciiBlank c then bytesOfPairs? (d :: rest)
    else
      match hexValue? c, hexValue? d, bytesOfPairs? rest with
      | some high, some low, some bytes => some (UInt8.ofNat (16 * high + low) :: bytes)
      | _, _, _ => none

/-- A text without one leading `0x` in either case. -/
def dropHexMark : List Char → List Char
  | '0' :: 'x' :: rest => rest
  | '0' :: 'X' :: rest => rest
  | cs => cs

/-- Reads the liberal form: the mark is dropped first, then colons and spaces wherever they stand. -/
def readHex? (text : String) : Option (List UInt8) :=
  bytesOfPairs? ((dropHexMark (trimBoth isBlank text.toList)).filter fun c => c != ':' && c != ' ')

end BerOid.Text
