import BerOid.Text.Blank
import BerOid.Text.Digit

/-!
# Integers in text

An integer may be written with blanks around it, a sign, decimal digits of any script, leading zeros, and single underscores
between digits. Texts of more than 4300 digits are not read, and integers of more digits have no text: a message that is to show
one gives way to a complaint about its digits.
-/

namespace BerOid

/-- The values of digits that may have single underscores between them; nothing else is read. -/
def underscoredDigits? : List Char → Option (List Nat)
  | [] => none
  | [c] => (Text.decimalValue? c).map ([·])
  | c :: '_' :: rest => do
    let d ← Text.decimalValue? c
    return d :: (← underscoredDigits? rest)
  | c :: d :: rest => do
    let v ← Text.decimalValue? c
    return v :: (← underscoredDigits? (d :: rest))

/-- The most digits an integer may have in text. -/
def maxIntegerDigits : Nat := 4300

/-- The integer a text writes. -/
def readInteger? (text : String) : Option Int := do
  let (negative, body) := Text.splitSign (Text.trimBoth Text.isNumberBlank text.toList)
  let digits ← underscoredDigits? body
  if digits.length > maxIntegerDigits then none
  else
    let n : Nat := digits.foldl (fun n d => 10 * n + d) 0
    return if negative then -(n : Int) else n

/-- Whether an integer has a text. -/
def isShowable (n : Int) : Bool := (Nat.toDigits 10 n.natAbs).length ≤ maxIntegerDigits

/-- The complaint about an integer that has no text. -/
def digitsMessage : String :=
  "Exceeds the limit (" ++ toString maxIntegerDigits ++
    " digits) for integer string conversion; use sys.set_int_max_str_digits() to increase the limit"

/-- A wording that shows integers, or the complaint if one of them has no text. -/
def wording (shown : List Int) (text : String) : String := if shown.all isShowable then text else digitsMessage

end BerOid
