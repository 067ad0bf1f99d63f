/-!
# White space

Three classes are in use: white space of any script, which is trimmed around a text; the ASCII blanks that may stand between hex
digits; and the blanks around a number, which above ASCII are those of the first class and below it those of the second.
-/

namespace BerOid.Text

/-- White space of any script. -/
def isBlank (c : Char) : Bool :=
  let n := c.toNat
  (9 ≤ n && n ≤ 13) || (28 ≤ n && n ≤ 32) || n == 0x85 || n == 0xa0 || n == 0x1680 || (0x2000 ≤ n && n ≤ 0x200a) ||
    n == 0x2028 || n == 0x2029 || n == 0x202f || n == 0x205f || n == 0x3000

/-- Tab, line feed, vertical tab, form feed, carriage return and space. -/
def isAsciiBlank (c : Char) : Bool := (9 ≤ c.toNat && c.toNat ≤ 13) || c == ' '

/-- The blanks that may stand around a number: the separators U+001C to U+001F are not among them. -/
def isNumberBlank (c : Char) : Bool := if c.toNat < 128 then isAsciiBlank c else isBlank c

/-- A text without the characters of a class at its two ends. -/
def trimBoth (p : Char → Bool) (cs : List Char) : List Char :=
  ((cs.dropWhile p).reverse.dropWhile p).reverse

end BerOid.Text
