/-!
# Object identifiers

An object identifier is the sequence of arcs on the way from the root of the registration tree, each arc a number from 0 to 65535.
Its two text forms write the arcs in decimal, the one with a dot before every arc and the other with dots between them. Both are
defined for sequences of arbitrary integers, because messages show sequences that are no identifiers.
-/

namespace BerOid

/-- A sequence of arcs, the arc next to the root first. -/
abbrev Oid := List Nat

namespace Oid

/-- The greatest arc. -/
def maxArc : Nat := 65535

/-- The arcs as integers. -/
def toInts (oid : Oid) : List Int := oid.map Int.ofNat

end Oid

/-- The decimal text of an arc, with a minus before a negative one. -/
def arcText : Int → List Char
  | .ofNat n => Nat.toDigits 10 n
  | .negSucc n => '-' :: Nat.toDigits 10 (n + 1)

/-- The text with a dot before every arc. -/
def leadingDotText (arcs : List Int) : String := String.ofList (arcs.flatMap fun a => '.' :: arcText a)

/-- The text with dots between the arcs. -/
def dottedText (arcs : List Int) : String := String.ofList (['.'].intercalate (arcs.map arcText))

end BerOid
