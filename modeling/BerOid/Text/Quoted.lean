import BerOid.Text.Hex
import BerOid.Text.Printable

/-!
# Quoted text

How a message shows a text: between single quotes, or between double quotes when the text holds a single quote and no double
one. The backslash and the quote in use are escaped, and so is every character that cannot be shown as itself.
-/

namespace BerOid.Text

/-- The quote put around a text. -/
def quoteMark (cs : List Char) : Char := if cs.contains '\'' && !cs.contains '"' then '"' else '\''

/-- One character inside the quotes: the common controls have a letter of their own, other hidden characters their number in hex,
in the shortest of the three widths. -/
def quotedChar (quote c : Char) : List Char :=
  if c == quote || c == '\\' then ['\\', c]
  else if c == '\t' then ['\\', 't']
  else if c == '\n' then ['\\', 'n']
  else if c == '\r' then ['\\', 'r']
  else if isPrintable c then [c]
  else if c.toNat < 0x100 then '\\' :: 'x' :: paddedHex 2 c.toNat
  else if c.toNat < 0x10000 then '\\' :: 'u' :: paddedHex 4 c.toNat
  else '\\' :: 'U' :: paddedHex 8 c.toNat

/-- A text between quotes. -/
def quoted (s : String) : String :=
  let cs := s.toList
  let quote := quoteMark cs
  String.ofList (quote :: cs.flatMap (quotedChar quote) ++ [quote])

end BerOid.Text
