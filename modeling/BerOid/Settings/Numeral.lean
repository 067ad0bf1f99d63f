import BerOid.Text.Digit
import BerOid.Text.Hex
import BerOid.Value

/-!
# Numerals

The parts from which both formats of settings build numbers: whole numbers in a base, and decimals with a fraction and an exponent.
-/

namespace BerOid.Settings

/-- The value of a digit in a base up to sixteen. -/
def digitIn? (base : Nat) (c : Char) : Option Nat := (Text.hexValue? c).filter (· < base)

/-- The number that one or more digits write in a base. -/
def wholeIn? (base : Nat) (digits : List Char) : Option Nat :=
  if digits.isEmpty then none else digits.foldlM (fun n c => (digitIn? base c).map (base * n + ·)) 0

/-- A whole number with a sign. -/
def signedInteger (negative : Bool) (n : Nat) : Value := .integer (if negative then -(n : Int) else n)

/-- The digits of a decimal: before the point, behind it, and the exponent. -/
structure DecimalParts where
  whole : List Char
  fraction : List Char
  exponent : Int

/-- The binary64 number nearest to a decimal. -/
def DecimalParts.value (d : DecimalParts) (negative : Bool) : Value :=
  .real (Binary64.ofDecimal negative (Text.decimalNumber (d.whole ++ d.fraction)) (d.exponent - d.fraction.length))

/-- A text cut before its first character of a class. -/
def cutAt (p : Char → Bool) (cs : List Char) : List Char × List Char :=
  (cs.takeWhile fun c => !p c, cs.dropWhile fun c => !p c)

/-- Without underscores. -/
def dropUnderscores (cs : List Char) : List Char := cs.filter (· != '_')

end BerOid.Settings
