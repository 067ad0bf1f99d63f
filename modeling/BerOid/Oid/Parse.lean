import BerOid.Oid
import BerOid.Text.Blank
import BerOid.Text.Digit
import BerOid.Text.Quoted

/-!
# Reading dotted text

An object identifier in text is a sequence of decimal arcs separated by dots; dots at the two ends are ignored. A text that is
refused is blamed on its first bad arc: an arc that is missing, that holds anything but ASCII digits, or that is too large.
-/

namespace BerOid.Oid

/-- What is wrong with an arc in text. -/
inductive ArcFault where
  | missing
  | notDecimal
  | tooLarge
  deriving DecidableEq

/-- The word by which messages call a fault. -/
def ArcFault.name : ArcFault → String
  | missing => "empty"
  | notDecimal => "syntax"
  | tooLarge => "range"

/-- Why a text is refused: the whole text as given, its first bad arc, and what is wrong with it. -/
structure ParseError where
  text : String
  token : String
  fault : ArcFault
  deriving DecidableEq

/-- The wording of a refusal. -/
def ParseError.message (e : ParseError) : String :=
  "invalid OID " ++ Text.quoted e.text ++ ": " ++ e.fault.name ++ " error in arc " ++ Text.quoted e.token

/-- The wording for a literal that should have been known to be good. -/
def literalMessage (e : ParseError) : String := "invalid OID literal " ++ Text.quoted e.text ++ ": " ++ e.message

/-- The pieces between the dots of a text, the empty ones included. -/
def splitDots : List Char → List (List Char)
  | [] => [[]]
  | c :: rest =>
    if c = '.' then [] :: splitDots rest
    else match splitDots rest with
      | [] => [[c]]
      | token :: tokens => (c :: token) :: tokens

/-- The arcs of a text as they are written: the dots at its ends are dropped first. -/
def tokens (text : String) : List (List Char) := splitDots (Text.trimBoth (· == '.') text.toList)

/-- The number of digits of the greatest arc. -/
def maxArcDigits : Nat := (Nat.toDigits 10 maxArc).length

/-- The arc that a token writes. Leading zeros do not matter, and a token with too many digits behind them is too large whatever
number it writes: that number is not computed. -/
def arcOfToken (token : List Char) : Except ArcFault Nat :=
  if token.isEmpty then .error .missing
  else if !token.all Text.isAsciiDigit then .error .notDecimal
  else
    let digits := Text.significantDigits token
    if maxArcDigits < digits.length then .error .tooLarge
    else
      let n := Text.decimalNumber digits
      if n ≤ maxArc then .ok n else .error .tooLarge

/-- Reads a text. -/
def parse (text : String) : Except ParseError Oid :=
  (tokens text).mapM fun token => (arcOfToken token).mapError fun fault => ⟨text, String.ofList token, fault⟩

end BerOid.Oid
